import QueryBridge.Bridge.Creation

/-!
# Waiting for the background

A drain shuts the tracker, waits until it is told that nothing is under way,
and opens the tracker again.

* `Bridge.settle`: waits for the work in the background.
* `Bridge.shutdown`: closes every connection first.
-/

namespace QueryBridge.Bridge

/-- A drain is over. -/
def endDrain (b : Bridge) (id : TaskId) : Turn :=
  { b with tracker := (b.tracker.forget id).reopen }.reply .done

/-- Waits until nothing is under way in the background. -/
def settle (b : Bridge) (id : TaskId) : Turn :=
  let (woken, tracker) := b.tracker.shut
  let b := { b with tracker }.wakeAll woken
  if b.tracker.isDrained then b.endDrain id
  else (.waits .draining, { b with tracker := b.tracker.await id })

/-- Closes every connection and waits until nothing is under way in the background. -/
def shutdown (b : Bridge) (id : TaskId) : Turn :=
  (b.closeConnections b.registry.connections.handles).settle id

/-- A drain looks again: it is over if nothing is under way, or if it was told so. -/
def drain (b : Bridge) (id : TaskId) : Turn :=
  if b.tracker.isDrained || !b.tracker.waiting.contains id then b.endDrain id
  else (.waits .draining, b)

end QueryBridge.Bridge
