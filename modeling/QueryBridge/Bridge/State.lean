import QueryBridge.Bridge.Task
import QueryBridge.Config
import QueryBridge.Tracker

/-!
# The bridge

The state of the bridge between callers and the service: the resources, the
work that has begun, and the queue of work that can go on. Work goes on in the
order in which it became able to.

* `Bridge.wake`, `Bridge.wakeWithin`: work that waited can go on.
* `Bridge.submit`, `Bridge.spawn`: new work, of a caller or in the background.
* `Bridge.conclude`: work that is over.
-/

namespace QueryBridge

/-- A bridge and the service on its far side. -/
structure Bridge where
  config : BridgeConfig
  /-- Whether callers are on a runtime, so that work can begin in the background. -/
  hasRuntime : Bool
  service : Service
  registry : Registry := {}
  tracker : Tracker := {}
  /-- The work that has begun and is not over, the oldest first. -/
  tasks : List (TaskId × Task) := []
  /-- The number of the next task. -/
  nextTask : TaskId := 0
  /-- The tasks that can go on, the first one first. -/
  ready : List TaskId := []

namespace Bridge

/-- A bridge before the first call. -/
def new (service : Service) (config : BridgeConfig) (hasRuntime : Bool) : Bridge :=
  { config, hasRuntime, service }

/-- A task that is not over. -/
def task? (b : Bridge) (id : TaskId) : Option Task := b.tasks.lookup id

/-- Replaces the resources. -/
def withRegistry (b : Bridge) (r : Registry) : Bridge := { b with registry := r }

/-- Replaces the service. -/
def withService (b : Bridge) (s : Service) : Bridge := { b with service := s }

/-- Changes the status of a reader. -/
def modifyReader (b : Bridge) (h : ReaderHandle) (f : ReaderStatus → ReaderStatus) : Bridge :=
  b.withRegistry (b.registry.modifyReader h f)

/-! ## Waking -/

/-- A task can go on; it takes the last place in the queue, unless it has one. -/
def wake (b : Bridge) (id : TaskId) : Bridge :=
  -- a task that is over is told in vain
  if (b.task? id).isSome && !b.ready.contains id then { b with ready := b.ready ++ [id] } else b

/-- Several tasks can go on. -/
def wakeAll (b : Bridge) (ids : List TaskId) : Bridge := ids.foldl wake b

/-- The tasks that wait for something of a resource or of one below it. -/
def waitersWithin (b : Bridge) (scope : Scope) : List TaskId :=
  (b.tasks.filter fun p => (p.2.scope?.map (·.isWithin scope)).getD false).map Prod.fst

/-- A resource was cancelled: whoever waits below it can go on, and finds it cancelled. -/
def wakeWithin (b : Bridge) (scope : Scope) : Bridge := b.wakeAll (b.waitersWithin scope)

/-! ## The life of a task -/

/-- New work, at the end of the queue. -/
def submit (b : Bridge) (t : Task) : TaskId × Bridge :=
  (b.nextTask,
    { b with
      tasks := b.tasks ++ [(b.nextTask, t)]
      nextTask := b.nextTask + 1
      ready := b.ready ++ [b.nextTask] })

/-- New work in the background, on a runtime that is at hand. -/
def spawnOn (b : Bridge) (t : Task) : Bridge :=
  ({ b with tracker := b.tracker.started }.submit t).2

/-- New work in the background. Without a runtime it is dropped. -/
def spawn (b : Bridge) (t : Task) : Bridge := if b.hasRuntime then b.spawnOn t else b

/-- A task has come to another place. -/
def setTask (b : Bridge) (id : TaskId) (t : Task) : Bridge :=
  { b with tasks := b.tasks.map fun p => if p.1 = id then (id, t) else p }

/-- A task goes on before any other. -/
def goOn (b : Bridge) (id : TaskId) : Bridge := { b with ready := id :: b.ready.erase id }

/-- A task has its turn: it is no longer in the queue. -/
def takeTurn (b : Bridge) (id : TaskId) : Bridge := { b with ready := b.ready.erase id }

/-- A task is over. -/
def conclude (b : Bridge) (id : TaskId) : Bridge :=
  { b with tasks := b.tasks.filter (·.1 ≠ id), ready := b.ready.erase id }

/-- Work in the background is over; drains are told if it was the last. -/
def concludeBackground (b : Bridge) (id : TaskId) : Bridge :=
  let (woken, tracker) := b.tracker.finished
  ({ b.conclude id with tracker }).wakeAll woken

/-! ## Calls on the service -/

/-- Makes a call on the service: it is noted, and refused if it is to be. -/
def call (b : Bridge) (client : Option ClientId) (c : ServiceCall) : Option String × Bridge :=
  (b.service.refusal? c.point, b.withService (b.service.record client c))

/-- Nobody will take the rest of a stream. -/
def dropStream (b : Bridge) (s : Stream) : Bridge := b.withService (b.service.dropStream s)

end Bridge

end QueryBridge
