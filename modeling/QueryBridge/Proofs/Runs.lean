import QueryBridge.Bridge.FarSide
import QueryBridge.Bridge.Run

/-!
# Runs

A run is a list of events in any order: a call begins or is given up, any task
has a turn, a resource is closed, or the service does something on its side.

A caller may be on a runtime in one event and on none in the next. Work in the
background is always on one; that its turns may come at any time, also where
callers have none, allows for more than what can happen.

* `Bridge.step`, `Bridge.after`: what one event does, and what a run does.
* `Bridge.Reachable`: the bridges that runs lead to.
-/

namespace QueryBridge

/-- What the service does, or will do. -/
inductive FarAct
  | refuse (p : CallPoint) (message : String)
  | plan (p : CallPoint) (hooks : List Hook)
  | script (text : String) (script : Script)
  | release (gate : String)
  | feed (n : Nat) (frames : List Frame)
  | endFeed (n : Nat)

/-- What can happen to a bridge. -/
inductive Event
  | call (c : Call)
  /-- A text comes in over the wire. -/
  | payload (text : String)
  /-- A resource is closed at once. -/
  | close (target : Target)
  | turn (id : TaskId)
  /-- The caller of a task gives up. -/
  | abandon (id : TaskId)
  | far (act : FarAct)
  /-- From here on callers are on a runtime, or on none. -/
  | runtime (available : Bool)

namespace Bridge

/-- What the service does. -/
def far (b : Bridge) : FarAct → Bridge
  | .refuse p message => b.refuse p message
  | .plan p hooks => b.plan p hooks
  | .script text s => (b.script text s).2
  | .release gate => b.releaseGate gate
  | .feed n frames => (b.feed n frames).2
  | .endFeed n => b.endFeed n

/-- Callers are on a runtime from here on, or on none. -/
def withRuntime (b : Bridge) (available : Bool) : Bridge := { b with hasRuntime := available }

/-- What one event does. -/
def step (b : Bridge) : Event → Bridge
  | .call c => (b.submit (.call none (.fresh c))).2
  | .payload text => (b.submit (.payload text)).2
  | .close target => b.close target
  | .turn id => (b.poll id).2
  | .abandon id => b.abandon id
  | .far act => b.far act
  | .runtime available => b.withRuntime available

/-- What a run does. -/
def after (b : Bridge) (es : List Event) : Bridge := es.foldl step b

@[simp] theorem after_cons (b : Bridge) (e : Event) (es : List Event) :
    b.after (e :: es) = (b.step e).after es := rfl

theorem after_append (b : Bridge) (es es' : List Event) :
    b.after (es ++ es') = (b.after es).after es' := List.foldl_append

/-- The bridges that runs lead to. The script of the service is written on the way. -/
inductive Reachable : Bridge → Prop
  | start (sessionIds : List String) (hangsCreateSession : Bool) (config : BridgeConfig)
    (hasRuntime : Bool) : Reachable (.new { sessionIds, hangsCreateSession } config hasRuntime)
  | step {b : Bridge} (e : Event) : Reachable b → Reachable (b.step e)

theorem Reachable.after {b : Bridge} (h : Reachable b) (es : List Event) :
    Reachable (b.after es) := by
  induction es generalizing b with
  | nil => exact h
  | cons e es ih => exact ih (.step e h)

/-! ## A small run -/

/-- A bridge with a runtime, before the first call. -/
def fresh : Bridge := .new {} ⟨10, ⟨"", 1⟩⟩ true

/-- The bridge when a connection has been opened, a session created on it and a query executed. -/
def oneOfEach : Bridge :=
  fresh.after [.call (.openConnection "a://b" none), .turn 0, .call (.createSession ⟨1⟩), .turn 1,
    .call (.executeQuery ⟨1⟩ "q"), .turn 2]

theorem fresh_reachable : fresh.Reachable := .start [] false ⟨10, ⟨"", 1⟩⟩ true

theorem oneOfEach_reachable : oneOfEach.Reachable := fresh_reachable.after _

end Bridge

end QueryBridge
