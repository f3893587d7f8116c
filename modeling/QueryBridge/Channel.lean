import QueryBridge.Service

/-!
# Channels

The bounded buffer between the pump of a query, which puts frames in, and the
pulls of its reader, which take them out in the same order.

* `Channel.push`: puts in one frame.
* `Channel.takeRun`: the data frames up to the first other one.
* `Turnstile`: a lock that is passed on in the order of asking.
-/

namespace QueryBridge

/-- A bounded buffer with one side that puts in and one that takes out. -/
structure Channel where
  capacity : Nat
  /-- The frames in the buffer, the oldest first. -/
  buffer : List Frame
  /-- Whether more may be put in. -/
  isFed : Bool
  /-- The task that waits for room. -/
  roomWaiter : Option TaskId
  /-- The task that waits for a frame. -/
  frameWaiter : Option TaskId
deriving DecidableEq, Repr

namespace Channel

/-- The largest capacity that a channel can have: what a 64-bit count of places
can hold with three bits to spare. -/
def maxCapacity : Nat := UInt64.size / 8 - 1

/-- An empty channel, if the capacity is one that a channel can have. -/
def ofCapacity? (n : Nat) : Option Channel :=
  if 0 < n ∧ n ≤ maxCapacity then some ⟨n, [], true, none, none⟩ else none

/-- Whether there is no room. -/
def isFull (c : Channel) : Bool := c.capacity ≤ c.buffer.length

/-- Puts in one more frame. -/
def push (c : Channel) (f : Frame) : Channel := { c with buffer := c.buffer ++ [f] }

/-- The bytes of the data frames at the front of a list, and what follows them. -/
def takeRun : List Frame → List Bytes × List Frame
  | .data b :: fs => (b :: (takeRun fs).1, (takeRun fs).2)
  | fs => ([], fs)

end Channel

/-- A lock that is passed on in the order of asking. -/
structure Turnstile where
  holder : Option TaskId
  /-- Who waits for the lock, the first one first. -/
  queue : List TaskId
deriving DecidableEq, Repr

namespace Turnstile

/-- Takes the lock, or the last place in the queue for it. -/
def enter (t : Turnstile) (id : TaskId) : Turnstile :=
  match t.holder with
  | none => { t with holder := some id }
  | some _ => { t with queue := t.queue ++ [id] }

/-- Passes the lock on to the first in the queue. Whoever holds it then is to be told. -/
def leave (t : Turnstile) : Turnstile := ⟨t.queue.head?, t.queue.tail⟩

/-- Gives up a place in the queue. -/
def forget (t : Turnstile) (id : TaskId) : Turnstile := { t with queue := t.queue.erase id }

end Turnstile

end QueryBridge
