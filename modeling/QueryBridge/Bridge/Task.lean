import QueryBridge.Bridge.Call
import QueryBridge.Registry

/-!
# Tasks

Work that has begun and may have to wait: calls, the pumps that bring in the
frames of queries, and the calls that close what was released on the far side.
A task that waits says in its value what it waits for, so running it once more
than needed does no harm.

* `Stage`: how far a call has come.
* `Task.scope?`: the resource whose closing ends the wait of a task.
-/

namespace QueryBridge

/-- What holds back a call that the service has accepted. -/
structure Held where
  gate : String
  /-- What happens once the gate is released. -/
  rest : List Hook
deriving DecidableEq, Repr

/-- How far a call has come. -/
inductive Stage
  /-- It has not begun, or has taken a chunk and wants another one. -/
  | fresh (call : Call)
  /-- A client exists, its creation has not returned. -/
  | connecting (url : Url) (client : ClientId) (held : Held)
  /-- A connection is open on the far side, its opening has not returned. -/
  | opening (url : Url) (client : ClientId) (held : Held)
  /-- The service will never answer. -/
  | unanswered (connection : ConnectionHandle)
  /-- A session exists on the far side, its creation has not returned. -/
  | creating (connection : ConnectionHandle) (client : ClientId) (globalId : GlobalSessionId)
      (held : Held)
  /-- A query runs on the far side, its execution has not returned. -/
  | executing (session : SessionHandle) (entry : Session) (stream : Stream) (held : Held)
  /-- It wants the lock of a reader. -/
  | awaitingTurn (reader : ReaderHandle) (entry : Reader) (reading : Reading)
  /-- It has the lock of a reader and wants a frame. -/
  | awaitingFrame (reader : ReaderHandle) (entry : Reader) (reading : Reading)
  /-- It waits until nothing is under way in the background. -/
  | draining
deriving DecidableEq

/-- The resource whose closing ends the wait of a call. -/
def Stage.scope? : Stage → Option Scope
  | fresh _ | connecting .. | opening .. | draining => none
  | unanswered c | creating c .. => some (.connection c)
  | executing s e .. => some (e.scope s)
  | awaitingTurn r e _ | awaitingFrame r e _ => some (e.scope r)

/-- A call on the service that closes something on the far side. -/
inductive RemoteClose
  | session (id : GlobalSessionId)
  | connection
deriving DecidableEq, Repr

/-- The call on the service. -/
def RemoteClose.call : RemoteClose → ServiceCall
  | session id => .closeSession id
  | connection => .closeConnection

/-- Work that has begun. -/
inductive Task
  /-- A text from the wire that nobody has looked at. -/
  | payload (text : String)
  /-- A call, with the number of the request if one asked for it. -/
  | call (envelope : Option UInt64) (stage : Stage)
  /-- The pump of a reader, with the rest of the stream and the frame that it
  has taken and not yet put into the channel. -/
  | pump (reader : ReaderHandle) (entry : Reader) (stream : Stream) (inHand : Option Frame)
  /-- Closes on the far side, with what holds back the last call made and the
  calls still to be made. -/
  | farewell (client : ClientId) (held : Option Held) (left : List RemoteClose)
deriving DecidableEq

namespace Task

/-- The resource whose closing ends the wait of a task. -/
def scope? : Task → Option Scope
  | payload _ | farewell .. => none
  | call _ stage => stage.scope?
  | pump r e _ _ => some (e.scope r)

end Task

/-- How work stands after a turn: it is over, it waits, or it goes on before
any other. -/
inductive Progress (σ ω : Type)
  | ends (result : ω)
  | waits (place : σ)
  | goesOn (place : σ)
deriving DecidableEq

end QueryBridge
