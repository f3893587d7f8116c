import QueryBridge.Bridge.Inspect
import QueryBridge.Bridge.Run
import QueryBridge.Scenario.Step

/-!
# Running scenarios

A step is done at once, or starts a task. Unless the step is held, the tasks
that can go on have their turns before the step is answered, until none can.
Without a runtime a call that does not end in its turn is given up.

* `Scenario.step`: does one step and tells what can be seen after it.
-/

namespace QueryBridge

namespace Scenario

/-- What is done with the outcome of a call. -/
inductive FollowUp
  | nothing
  /-- A new object is kept under a name. -/
  | keepConnection (name : String)
  | keepSession (name : String)
  | keepStream (name : String)
  /-- The stream that was read from is kept again. -/
  | putBack (name : String) (stream : Client.QueryStream)
  /-- The live connections are counted. -/
  | countConnections
deriving DecidableEq

/-- A call that a step has started: the number of the step, and what is done at its end. -/
structure Awaited where
  step : Nat
  followUp : FollowUp
deriving DecidableEq

/-- What can be seen after a step. -/
structure Report where
  result : Result
  counts : LiveCounts
  /-- The calls on the service since the last report. -/
  calls : List ServiceCall
  /-- The answers to earlier steps that have come since. -/
  resolved : List (Nat × Answer)

end Scenario

/-- A bridge, the objects that its callers keep, and the calls they wait for. -/
structure Scenario where
  bridge : Bridge
  connections : List (String × Client.Connection) := []
  sessions : List (String × Client.Session) := []
  streams : List (String × Client.QueryStream) := []
  /-- The feeds that are open, by name. -/
  feeds : List (String × Nat) := []
  awaited : List (TaskId × Scenario.Awaited) := []
  /-- Answers that have not been reported. -/
  resolved : List (Nat × Scenario.Answer) := []
  /-- The number of steps that have been done. -/
  steps : Nat := 0
  /-- The number of calls on the service that have been reported. -/
  callsReported : Nat := 0

namespace Scenario

/-- Keeps an object under a name, in the place of the one that had it. -/
def keep {α : Type} (name : String) (a : α) (l : List (String × α)) : List (String × α) :=
  (name, a) :: l.filter (·.1 ≠ name)

/-- Lets go of the object under a name. -/
def letGo {α : Type} (name : String) (l : List (String × α)) : List (String × α) :=
  l.filter (·.1 ≠ name)

/-- Keeps a stream under a name. The stream that had the name is dropped, and
its reader closed. -/
def keepStream (s : Scenario) (name : String) (stream : Client.QueryStream) : Scenario :=
  let old := s.streams.lookup name
  let s := { s with streams := keep name stream s.streams }
  match old with
  | some old => { s with bridge := s.bridge.closeReader old.handle }
  | none => s

/-! ## The end of a call -/

/-- Does what is to be done at the end of a call, and gives the answer. -/
def follow (s : Scenario) (o : Outcome) : FollowUp → Answer × Scenario
  | .nothing => (.ofOutcome o, s)
  | .keepConnection name =>
    match o with
    | .replied (.connection h) =>
      (.ofOutcome o, { s with connections := keep name ⟨h⟩ s.connections })
    | _ => (.ofOutcome o, s)
  | .keepSession name =>
    match o with
    | .replied (.session h id) =>
      (.ofOutcome o, { s with sessions := keep name ⟨h, id⟩ s.sessions })
    | _ => (.ofOutcome o, s)
  | .keepStream name =>
    match o with
    | .replied (.reader h) => (.ofOutcome o, s.keepStream name ⟨h⟩)
    | _ => (.ofOutcome o, s)
  | .putBack name stream => (.ofOutcome o, s.keepStream name stream)
  | .countConnections =>
    match o with
    | .replied _ => (.count s.bridge.liveCounts.connections, s)
    | _ => (.ofOutcome o, s)

/-- A call has ended. -/
def complete (s : Scenario) (id : TaskId) (o : Outcome) : Scenario :=
  match s.awaited.lookup id with
  | none => s
  | some a =>
    let (answer, s) := s.follow o a.followUp
    { s with
      awaited := s.awaited.filter (·.1 ≠ id)
      resolved := s.resolved ++ [(a.step, answer)] }

/-! ## Turns -/

/-- The number of frames that a stream still yields, and one for its end. -/
def streamSize : Stream → Nat
  | .fixed frames => frames.length + 1
  | .live _ => 1

/-- The number of frames that are under way in a task, and one for the task. -/
def taskSize : Task → Nat
  | .payload _ => 1
  | .call _ (.executing _ _ stream _) => 1 + streamSize stream
  | .call .. => 1
  | .pump _ _ stream inHand => 1 + streamSize stream + inHand.toList.length
  | .farewell _ _ left => 1 + left.length

/-- The numbers of a list, added up. -/
def total : List Nat → Nat
  | [] => 0
  | n :: ns => n + total ns

/-- More turns than the tasks of a bridge can take before all of them wait:
every turn moves a frame, ends a task, or follows on one that did, and at most
all tasks are woken by one. -/
def turns (b : Bridge) : Nat :=
  let frames :=
    total (b.tasks.map fun p => taskSize p.2) +
    total (b.service.queries.map fun p => streamSize p.2) +
    total (b.service.feeds.map fun f => f.waiting.length + 1) +
    total (b.registry.readers.handles.map fun h => (b.registry.reader h).channel.buffer.length + 1)
  let resources := b.registry.connections.size + b.registry.sessions.size + b.service.hooks.length
  let size := frames + resources + 1
  8 * size * size

/-- Gives the first task in the queue its turn, at most so many times. -/
def runFor (s : Scenario) : Nat → Scenario
  | 0 => s
  | n + 1 =>
    match s.bridge.runNext with
    | none => s
    | some (_, none, b) => runFor { s with bridge := b } n
    | some (id, some o, b) => runFor ({ s with bridge := b }.complete id o) n

/-- Gives tasks their turns until none can go on. -/
def run (s : Scenario) : Scenario := s.runFor (turns s.bridge)

/-! ## Doing a step -/

/-- How a step has begun: it is answered, or a task will answer it. -/
abbrev Begun := (Answer ⊕ TaskId) × Scenario

/-- The step is answered. -/
def answer (s : Scenario) (a : Answer) : Begun := (.inl a, s)

/-- The step has started a task. -/
def start (s : Scenario) (t : Task) (followUp : FollowUp) : Begun :=
  let (id, b) := s.bridge.submit t
  (.inr id, { s with bridge := b, awaited := s.awaited ++ [(id, ⟨s.steps, followUp⟩)] })

/-- The step has started a call. -/
def startCall (s : Scenario) (c : Call) (followUp : FollowUp) : Begun :=
  s.start (.call none (.fresh c)) followUp

/-- The step is done at once, with an answer that does not hang on it. -/
def done (s : Scenario) (r : Except Failure Unit × Bridge) : Begun :=
  ({ s with bridge := r.2 }).answer (.ofExcept (fun _ => .nothing) r.1)

/-- The answer to a question. -/
def ask (b : Bridge) : Question → Answer
  | .readerState r => .ofExcept .state (b.readerState r)
  | .connectionUrl c => .ofExcept .url (b.connectionUrl c)
  | .connectionSessions c =>
    .ofExcept (fun hs => .handles (hs.map Handle.raw)) (b.connectionSessions c)
  | .connections => .handles (b.connections.map Handle.raw)
  | .sessionId s => .ofExcept .globalId (b.sessionId s)
  | .sessionReaders s => .ofExcept (fun hs => .handles (hs.map Handle.raw)) (b.sessionReaders s)
  | .chunkBuffer => .count b.config.chunkBuffer.toNat

/-- Ends the feed of a name. -/
def endFeed (s : Scenario) (name : String) : Scenario :=
  match s.feeds.lookup name with
  | some n => { s with bridge := s.bridge.endFeed n, feeds := letGo name s.feeds }
  | none => s

/-- The service does something. -/
def farStep (s : Scenario) : FarStep → Answer × Scenario
  | .refuse p message => (.nothing, { s with bridge := s.bridge.refuse p message })
  | .plan p hook => (.nothing, { s with bridge := s.bridge.plan p [hook] })
  | .script text frames =>
    (.nothing, { s with bridge := (s.bridge.script text (.frames frames)).2 })
  | .scriptLive text name =>
    let (n, b) := s.bridge.script text .live
    -- a feed that had the name ends
    let s := { s with bridge := b }.endFeed name
    (.nothing, { s with feeds := (n.map fun n => (name, n)).toList ++ s.feeds })
  | .release gate => (.nothing, { s with bridge := s.bridge.releaseGate gate })
  | .feed name frames =>
    match s.feeds.lookup name with
    | some n =>
      let (taken, b) := s.bridge.feed n frames
      (.flags taken, { s with bridge := b })
    | none => (.missing, s)
  | .endFeed name => (.flag (s.feeds.lookup name).isSome, s.endFeed name)

/-- Does something with the object under a name. -/
def withObject {α : Type} (s : Scenario) (l : List (String × α)) (name : String)
    (f : α → Begun) : Begun :=
  match l.lookup name with
  | some a => f a
  | none => s.answer .missing

/-- Something is done with objects that are kept under names. -/
def clientStep (s : Scenario) : ClientStep → Begun
  | .connect url credentials name =>
    s.startCall (.openConnection url credentials) (.keepConnection name)
  | .shutdown => s.startCall .shutdown .countConnections
  | .createSession c name => s.withObject s.connections c fun c =>
    s.startCall c.createSession (.keepSession name)
  | .connectionUrl c => s.withObject s.connections c fun c =>
    s.answer (ask s.bridge (.connectionUrl c.handle))
  | .closeConnection c => s.withObject s.connections c fun c =>
    s.done (s.bridge.closeConnection c.handle)
  | .debugConnection c => s.withObject s.connections c fun c => s.answer (.text c.debug)
  | .copyConnection c name => s.withObject s.connections c fun c =>
    { s with connections := keep name c s.connections }.answer (.replied (.connection c.handle))
  | .execute session text name => s.withObject s.sessions session fun session =>
    s.startCall (session.execute text) (.keepStream name)
  | .sessionId session => s.withObject s.sessions session fun session =>
    s.answer (.globalId session.globalId)
  | .closeSession session => s.withObject s.sessions session fun session =>
    s.done (s.bridge.closeSession session.handle)
  | .debugSession session => s.withObject s.sessions session fun session =>
    s.answer (.text session.debug)
  | .copySession session name => s.withObject s.sessions session fun session =>
    { s with sessions := keep name session s.sessions }.answer (.count session.handle.raw.toNat)
  | .closeStream x => s.withObject s.streams x fun x =>
    s.done (.ok (), s.bridge.closeReader x.handle)
  | .debugStream x => s.withObject s.streams x fun x => s.answer (.text x.debug)
  | .dropStream name => s.withObject s.streams name fun x =>
    { s with streams := letGo name s.streams }.done (.ok (), s.bridge.closeReader x.handle)
  | .read name reading => s.withObject s.streams name fun x =>
    { s with streams := letGo name s.streams }.startCall (x.read reading)
      (if reading.closesReader then .nothing else .putBack name x)

/-- Begins a step. -/
def begin (s : Scenario) : Step → Begun
  | .call c => s.startCall c .nothing
  | .payload text => s.start (.payload text) .nothing
  | .close (.connection h) => s.done (s.bridge.closeConnection h)
  | .close (.session h) => s.done (s.bridge.closeSession h)
  | .close (.reader h) => s.done (.ok (), s.bridge.closeReader h)
  | .ask q => s.answer (ask s.bridge q)
  | .far step =>
    let (a, s) := s.farStep step
    s.answer a
  | .client step => s.clientStep step

/-- The result of a step that has begun. Without a runtime its call is given up if it waits. -/
def conclude (s : Scenario) : Answer ⊕ TaskId → Result × Scenario
  | .inl a => (.answered a, s)
  | .inr id =>
    match s.resolved.lookup s.steps with
    | some a => (.answered a, { s with resolved := s.resolved.filter (·.1 ≠ s.steps) })
    | none =>
      if s.bridge.hasRuntime then (.pending, s)
      else
        (.dropped, { s with
          bridge := s.bridge.abandon id
          awaited := s.awaited.filter (·.1 ≠ id) })

/-- Does a step. A held step lets no task have its turn, but without a runtime
a call always has one. -/
def step (s : Scenario) (held : Bool) (st : Step) : Report × Scenario :=
  let (begun, s) := s.begin st
  -- without a runtime there is nothing to hold a call back for
  let s := if held && (s.bridge.hasRuntime || begun.isLeft) then s else s.run
  let (result, s) := s.conclude begun
  ({ result
     counts := s.bridge.liveCounts
     calls := (s.bridge.service.calls.drop s.callsReported).map CallRecord.call
     resolved := s.resolved.mergeSort fun a b => a.1 ≤ b.1 },
    { s with
      resolved := []
      steps := s.steps + 1
      callsReported := s.bridge.service.calls.length })

/-- Does steps one after another. -/
def stepAll (s : Scenario) : List (Bool × Step) → List Report
  | [] => []
  | (held, st) :: rest =>
    let (report, s) := s.step held st
    report :: s.stepAll rest

/-- A scenario over a service whose script is written step by step. -/
def new (config : BridgeConfig) (hasRuntime : Bool) (sessionIds : List String)
    (hangsCreateSession : Bool) (script : List FarStep) : Scenario :=
  script.foldl (fun s st => (s.farStep st).2)
    { bridge := .new { sessionIds, hangsCreateSession } config hasRuntime }

end Scenario

end QueryBridge
