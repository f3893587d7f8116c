import QueryBridge.Bridge.FarSide
import QueryBridge.Client

/-!
# Steps of a scenario

A scenario is a list of things that callers and the service do, one after
another. Callers use handles, or objects that they keep under names.

* `Step`: one thing that is done.
* `Answer`: what a caller learns from it.
-/

namespace QueryBridge.Scenario

/-- What can be asked of a bridge and is answered at once. -/
inductive Question
  | readerState (reader : ReaderHandle)
  | connectionUrl (connection : ConnectionHandle)
  | connectionSessions (connection : ConnectionHandle)
  | connections
  | sessionId (session : SessionHandle)
  | sessionReaders (session : SessionHandle)
  | chunkBuffer
deriving DecidableEq, Repr

/-- What the service does, or will do. -/
inductive FarStep
  /-- Refuses every later call at a point. -/
  | refuse (point : CallPoint) (message : String)
  /-- Yields frames for an execution of a text. -/
  | script (text : String) (frames : List Frame)
  /-- Yields for an execution of a text what is fed under a name. -/
  | scriptLive (text : String) (feed : String)
  | plan (point : CallPoint) (hook : Hook)
  | release (gate : String)
  | feed (feed : String) (frames : List Frame)
  | endFeed (feed : String)
deriving DecidableEq, Repr

/-- What is done with objects that are kept under names. A new object is kept
under the name that comes last. -/
inductive ClientStep
  | connect (url : String) (credentials : Option Credentials) (name : String)
  | shutdown
  | createSession (connection name : String)
  | connectionUrl (connection : String)
  | closeConnection (connection : String)
  | debugConnection (connection : String)
  | copyConnection (connection name : String)
  | execute (session text name : String)
  | sessionId (session : String)
  | closeSession (session : String)
  | debugSession (session : String)
  | copySession (session name : String)
  | closeStream (stream : String)
  | debugStream (stream : String)
  | dropStream (stream : String)
  /-- Reads from a stream, which is put back unless the reading uses it up. -/
  | read (stream : String) (reading : Reading)
deriving DecidableEq

/-- One thing that is done. -/
inductive Step
  /-- A call that is waited for. -/
  | call (call : Call)
  /-- A request as it comes over the wire. -/
  | payload (text : String)
  /-- A resource is closed at once. -/
  | close (target : Target)
  | ask (question : Question)
  | far (step : FarStep)
  | client (step : ClientStep)
deriving DecidableEq

/-- What a caller learns. -/
inductive Answer
  | replied (reply : Reply)
  | failed (failure : Failure)
  /-- The call broke off. -/
  | crashed
  /-- No object has the name. -/
  | missing
  | nothing
  | state (state : ReaderState)
  | url (url : Url)
  | handles (numbers : List UInt32)
  | globalId (id : GlobalSessionId)
  | count (n : Nat)
  | text (text : String)
  | flag (b : Bool)
  | flags (bs : List Bool)
deriving DecidableEq

/-- The answer that tells how a call ended. -/
def Answer.ofOutcome : Outcome → Answer
  | .replied r => replied r
  | .failed f => failed f
  | .crashed => crashed

/-- The answer that tells how a question was answered. -/
def Answer.ofExcept {α : Type} (f : α → Answer) : Except Failure α → Answer
  | .ok a => f a
  | .error e => failed e

/-- What is known of a step when it has been done. -/
inductive Result
  | answered (answer : Answer)
  /-- A call waits. -/
  | pending
  /-- A call was given up. -/
  | dropped
deriving DecidableEq

end QueryBridge.Scenario
