import QueryBridge.Bridge.State

/-!
# Closing

A resource is closed together with everything below it, at once; what has to
be closed on the far side is left to the background. Closing tells every call
that waits below the resource.

* `Bridge.closeConnection`, `closeSession`, `closeReader`.
* `Bridge.follow`: an accepted call may close resources before it returns.
-/

namespace QueryBridge.Bridge

/-- Leaves calls that close on the far side to the background. -/
def sayFarewell (b : Bridge) (client : ClientId) (left : List RemoteClose) : Bridge :=
  b.spawn (.farewell client none left)

/-- Closes a connection and everything below it. On the far side its sessions
are closed in the order of their creation, then the connection. -/
def closeConnection (b : Bridge) (h : ConnectionHandle) : Except Failure Unit × Bridge :=
  match b.registry.closeConnection h with
  | .error f => (.error f, b)
  | .ok (c, ids, r) =>
    (.ok (), ((b.withRegistry r).wakeWithin (.connection h)).sayFarewell c.client
      (ids.map .session ++ [.connection]))

/-- Closes a session and its readers. -/
def closeSession (b : Bridge) (h : SessionHandle) : Except Failure Unit × Bridge :=
  match b.registry.closeSession h with
  | .error f => (.error f, b)
  | .ok (s, r) =>
    (.ok (), ((b.withRegistry r).wakeWithin (s.scope h)).sayFarewell s.client
      [.session s.globalId])

/-- Closes a reader, or takes the marker of an exhausted one. Any other handle
is ignored. -/
def closeReader (b : Bridge) (h : ReaderHandle) : Bridge :=
  match b.registry.closeReader h with
  | (some scope, r) => (b.withRegistry r).wakeWithin scope
  | (none, r) => b.withRegistry r

/-- Closes connections one after another. -/
def closeConnections (b : Bridge) (hs : List ConnectionHandle) : Bridge :=
  hs.foldl (fun b h => (b.closeConnection h).2) b

/-- Closes a resource, whether or not there is one. -/
def close (b : Bridge) : Target → Bridge
  | .connection h => (b.closeConnection h).2
  | .session h => (b.closeSession h).2
  | .reader h => b.closeReader h

/-! ## Accepted calls -/

/-- How an accepted call stands. -/
inductive Course
  | returned
  /-- It was refused after all. -/
  | refused (message : String)
  | held (held : Held)
deriving DecidableEq

/-- What happens before an accepted call of a task returns. Where the call is
held back, the task waits. -/
def follow (b : Bridge) (id : TaskId) : List Hook → Course × Bridge
  | [] => (.returned, b)
  | .close target :: rest => (b.close target).follow id rest
  | .refuse message :: _ => (.refused message, b)
  | .hang gate :: rest =>
    -- a gate that was released holds nothing back
    if (b.service.gate gate).isOpen then b.follow id rest
    else (.held ⟨gate, rest⟩, b.withService (b.service.waitAt gate id))

/-- An accepted call of a task begins. -/
def passHooks (b : Bridge) (id : TaskId) (p : CallPoint) : Course × Bridge :=
  let (hooks, service) := b.service.takeHooks p
  (b.withService service).follow id hooks

/-- A call that was held back goes on if its gate has been released. -/
def resume (b : Bridge) (id : TaskId) (held : Held) : Course × Bridge :=
  if (b.service.gate held.gate).isOpen then b.follow id held.rest else (.held held, b)

end QueryBridge.Bridge
