import QueryBridge.Service

/-!
# Tracking of background work

Counts the pumps and remote closes that are under way, for callers that wait
until there are none. A drain shuts the tracker, waits, and opens it again.
The last piece of work wakes the drains only if it finds the tracker shut.

* `Tracker.shut`, `Tracker.finished`: both tell which drains are woken.
* `Tracker.isDrained`: whether a drain that looks now need not wait.
-/

namespace QueryBridge

/-- The background work under way, and the drains that wait for its end. -/
structure Tracker where
  isShut : Bool := false
  /-- How many pieces of work are under way. -/
  active : Nat := 0
  /-- The drains that wait and have not been woken, the first one first. -/
  waiting : List TaskId := []
deriving DecidableEq, Repr

namespace Tracker

/-- Whether a drain that looks now need not wait. -/
def isDrained (t : Tracker) : Bool := t.isShut && t.active = 0

/-- A piece of work starts. -/
def started (t : Tracker) : Tracker := { t with active := t.active + 1 }

/-- All drains are woken. -/
def wakeAll (t : Tracker) : List TaskId × Tracker := (t.waiting, { t with waiting := [] })

/-- A piece of work ends. If it is the last one and the tracker is shut, the drains are woken. -/
def finished (t : Tracker) : List TaskId × Tracker :=
  let t' := { t with active := t.active - 1 }
  if t.isShut && t.active = 1 then t'.wakeAll else ([], t')

/-- A drain shuts the tracker. If it was open and nothing is under way, the drains are woken. -/
def shut (t : Tracker) : List TaskId × Tracker :=
  let t' := { t with isShut := true }
  if !t.isShut && t.active = 0 then t'.wakeAll else ([], t')

/-- A drain that has ended opens the tracker. -/
def reopen (t : Tracker) : Tracker := { t with isShut := false }

/-- A drain waits. -/
def await (t : Tracker) (id : TaskId) : Tracker := { t with waiting := t.waiting ++ [id] }

/-- A drain waits no longer. -/
def forget (t : Tracker) (id : TaskId) : Tracker := { t with waiting := t.waiting.erase id }

end Tracker

end QueryBridge
