import QueryBridge.Bridge.Background
import QueryBridge.Bridge.Draining
import QueryBridge.Bridge.Reading

/-!
# Running

Everything runs on one thread: a task has its turn until it waits, goes on or
is over. Any task may be given a turn at any time; the queue holds those for
which it makes a difference.

* `Bridge.poll`: one turn of one task.
* `Bridge.runNext`: one turn of the first task in the queue.
* `Bridge.abandon`: a caller gives up a call.
-/

namespace QueryBridge.Bridge

/-- A resource was to be closed. -/
def closed : Except Failure Unit × Bridge → Turn
  | (.ok (), b) => b.reply .done
  | (.error f, b) => b.fail f

/-- Begins a call. -/
def begin (b : Bridge) (id : TaskId) : Call → Turn
  | .openConnection url credentials => b.openConnection id url credentials
  | .createSession c => b.createSession id c
  | .executeQuery s text => b.executeQuery id s text
  | .read r reading => b.read id r reading
  | .closeConnection c => closed (b.closeConnection c)
  | .closeSession s => closed (b.closeSession s)
  | .closeReader r => (b.closeReader r).reply .done
  | .settle => b.settle id
  | .shutdown => b.shutdown id

/-- One turn of a call. -/
def turn (b : Bridge) (id : TaskId) (stage : Stage) : Turn :=
  match stage with
  | .fresh call => b.begin id call
  | .connecting url client held => connecting id url client (b.resume id held)
  | .opening url client held => opening url client (b.resume id held)
  | .unanswered connection =>
    if b.registry.isCancelled (.connection connection) then
      b.fail (.resourceClosed .connection connection)
    else (.waits stage, b)
  | .creating connection client globalId held =>
    if b.registry.isCancelled (.connection connection) then
      b.fail (.resourceClosed .connection connection)
    else creating connection client globalId (b.resume id held)
  | .executing session entry stream held =>
    if b.registry.isCancelled (entry.scope session) then
      (b.dropStream stream).fail (.resourceClosed .session session)
    else executing session entry stream (b.resume id held)
  | .awaitingTurn h entry reading =>
    if b.registry.isCancelled (entry.scope h) then (b.giveUpLock id h).readClosed h reading
    else b.readLocked id h entry reading
  | .awaitingFrame h entry reading =>
    if b.registry.isCancelled (entry.scope h) then (b.leaveLock h).readClosed h reading
    else b.nextFrame id h entry reading
  | .draining => b.drain id

/-- One turn of a call that has a request behind it or not. Tells how it ended, if it did. -/
def pollCall (b : Bridge) (id : TaskId) (envelope : Option UInt64) (stage : Stage) :
    Option Outcome × Bridge :=
  match b.turn id stage with
  | (.ends o, b) => (some (envelope.elim o o.enveloped), b.conclude id)
  | (.waits stage, b) =>
    let b := b.setTask id (.call envelope stage)
    -- the call that it made may have closed what it waits below
    (none, if stage.scope?.any b.registry.isCancelled then b.wake id else b)
  | (.goesOn stage, b) => (none, (b.setTask id (.call envelope stage)).goOn id)

/-- The bridge after a turn of work in the background. -/
def afterBackground (id : TaskId) : Progress Task Unit × Bridge → Bridge
  | (.ends (), b) => b.concludeBackground id
  | (.waits t, b) => b.setTask id t
  | (.goesOn t, b) => (b.setTask id t).goOn id

/-- One turn of a task. Tells how a call ended, if it did. A text from the wire
that holds no request ends at once, and nothing else has changed then. -/
def poll (b : Bridge) (id : TaskId) : Option Outcome × Bridge :=
  match b.task? id with
  | none => (none, b)
  | some task =>
    let b := b.takeTurn id
    match task with
    | .payload text =>
      match RequestEnvelope.decode text with
      | .error p => (some (.failed (.json p)), b.conclude id)
      | .ok e => b.pollCall id (some e.id) (.fresh e.request.call)
    | .call envelope stage => b.pollCall id envelope stage
    | .pump h entry stream inHand => (none, afterBackground id (b.pump id h entry stream inHand))
    | .farewell client gate left => (none, afterBackground id (b.farewell id client gate left))

/-- One turn of the first task in the queue: which it was, and how it ended if it did. -/
def runNext (b : Bridge) : Option (TaskId × Option Outcome × Bridge) :=
  match b.ready with
  | [] => none
  | id :: _ => some (id, b.poll id)

/-- What a call gives up when its caller does. -/
def release (b : Bridge) (id : TaskId) : Stage → Bridge
  | .fresh (.read h reading) => if reading.closesReader then b.closeReader h else b
  | .executing _ _ stream _ => b.dropStream stream
  | .awaitingTurn h _ reading | .awaitingFrame h _ reading =>
    let b := b.giveUpLock id h
    if reading.closesReader then b.closeReader h else b
  | .draining => { b with tracker := b.tracker.forget id }
  | .fresh _ | .connecting .. | .opening .. | .unanswered _ | .creating .. => b

/-- The caller gives up a call. Work in the background has no caller. -/
def abandon (b : Bridge) (id : TaskId) : Bridge :=
  match b.task? id with
  | some (.payload _) => b.conclude id
  | some (.call _ stage) => (b.conclude id).release id stage
  | _ => b

end QueryBridge.Bridge
