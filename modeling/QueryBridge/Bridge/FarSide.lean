import QueryBridge.Bridge.State

/-!
# What happens on the far side

The service changes between calls: what it will do is written into its script,
gates are released, and streams are fed. Whoever waited for that can go on.

* `Bridge.releaseGate`, `Bridge.feed`, `Bridge.endFeed`.
-/

namespace QueryBridge

/-- What the execution of a text yields. -/
inductive Script
  | frames (frames : List Frame)
  /-- Frames that are fed while the query runs. -/
  | live
deriving DecidableEq, Repr

namespace Bridge

/-- Every later call at a point is refused. -/
def refuse (b : Bridge) (p : CallPoint) (message : String) : Bridge :=
  b.withService (b.service.refuse p message)

/-- Something happens in the next accepted call at a point for which nothing is planned. -/
def plan (b : Bridge) (p : CallPoint) (hooks : List Hook) : Bridge :=
  b.withService { b.service with hooks := b.service.hooks ++ [(p, hooks)] }

/-- Writes what the next execution of a text yields that has no script yet.
Gives the feed of a live script. -/
def script (b : Bridge) (text : String) : Script → Option Nat × Bridge
  | .frames frames =>
    (none, b.withService { b.service with
      queries := b.service.queries ++ [(text, .fixed frames)] })
  | .live =>
    let (n, service) := b.service.newFeed
    (some n, b.withService { service with queries := service.queries ++ [(text, .live n)] })

/-- Releases a gate for good. -/
def releaseGate (b : Bridge) (gate : String) : Bridge :=
  let (waiters, service) := b.service.release gate
  (b.withService service).wakeAll waiters

/-- Feeds frames one after another. Tells of each whether someone may take it. -/
def feed (b : Bridge) (n : Nat) : List Frame → List Bool × Bridge
  | [] => ([], b)
  | f :: fs =>
    let (taken, waiter, service) := b.service.feed n f
    let (more, b) := ((b.withService service).wakeAll waiter.toList).feed n fs
    (taken :: more, b)

/-- Ends a feed; its stream runs out. -/
def endFeed (b : Bridge) (n : Nat) : Bridge :=
  let (waiter, service) := b.service.endFeed n
  (b.withService service).wakeAll waiter.toList

end Bridge

end QueryBridge
