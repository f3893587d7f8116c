import QueryBridge.Proofs.Bridge.Calls

/-!
# Calls over the wire, made directly

A call that came over the wire is like the same call of a caller, but for the
number under which it is answered. `Bridge.direct` is a bridge to which every
call has come directly: nothing that happens tells the two apart.

* `turn_direct`, `pump_direct`, `farewell_direct`: what a turn does.
* `poll_direct`: one turn of one task, and what is told of it.
* `step_direct`, `after_direct`: one event, and runs.
-/

namespace QueryBridge

/-- A request that came over the wire is taken for the call that it asks for. A
text that holds none stays what it is. -/
def Task.direct : Task → Task
  | .payload text =>
    match RequestEnvelope.decode text with
    | .ok e => .call none (.fresh e.request.call)
    | .error _ => .payload text
  | .call _ stage => .call none stage
  | .pump h entry stream inHand => .pump h entry stream inHand
  | .farewell client held left => .farewell client held left

/-- The same bridge, if every call had come directly. -/
def Bridge.direct (b : Bridge) : Bridge :=
  { b with tasks := b.tasks.map fun p => (p.1, p.2.direct) }

/-- The same event, if the call had come directly. -/
def Event.direct : Event → Event
  | .payload text =>
    match RequestEnvelope.decode text with
    | .ok e => .call e.request.call
    | .error _ => .payload text
  | .call c => .call c
  | .close target => .close target
  | .turn id => .turn id
  | .abandon id => .abandon id
  | .far act => .far act
  | .runtime available => .runtime available

/-- What an operation gives does not change, and the bridge after it is told
from the bridge before. -/
def directly {α : Type} (p : α × Bridge) : α × Bridge := (p.1, p.2.direct)

variable {α : Type}

@[simp] theorem directly_mk (a : α) (b : Bridge) : directly (a, b) = (a, b.direct) := rfl

theorem directly_ite {c : Prop} [Decidable c] {p q p' q' : α × Bridge} (hp : directly p = p')
    (hq : directly q = q') : directly (if c then p else q) = if c then p' else q' := by
  split
  · exact hp
  · exact hq

/-! ## Tasks -/

theorem Task.direct_scope? (t : Task) : t.direct.scope? = t.scope? := by
  cases t with
  | payload text =>
    cases hd : RequestEnvelope.decode text with
    | error p => simp only [Task.direct, hd]
    | ok e => simp only [Task.direct, hd, Task.scope?, Stage.scope?]
  | call envelope stage => rfl
  | pump h entry stream inHand => rfl
  | farewell client held left => rfl

namespace Bridge

variable (b : Bridge) (id : TaskId)

@[simp] theorem direct_config : b.direct.config = b.config := rfl
@[simp] theorem direct_hasRuntime : b.direct.hasRuntime = b.hasRuntime := rfl
@[simp] theorem direct_service : b.direct.service = b.service := rfl
@[simp] theorem direct_registry : b.direct.registry = b.registry := rfl
@[simp] theorem direct_tracker : b.direct.tracker = b.tracker := rfl
@[simp] theorem direct_ready : b.direct.ready = b.ready := rfl

@[simp] theorem direct_task? : b.direct.task? id = (b.task? id).map Task.direct := by
  show (b.tasks.map fun p => (p.1, p.2.direct)).lookup id = (b.tasks.lookup id).map Task.direct
  induction b.tasks with
  | nil => rfl
  | cons p ps ih =>
    obtain ⟨i, t⟩ := p
    rw [List.map_cons, List.lookup_cons, List.lookup_cons, ih]
    cases id == i <;> rfl

@[simp] theorem withRegistry_direct (r : Registry) :
    (b.withRegistry r).direct = b.direct.withRegistry r := rfl

@[simp] theorem withService_direct (s : Service) :
    (b.withService s).direct = b.direct.withService s := rfl

@[simp] theorem modifyReader_direct (h : ReaderHandle) (f : ReaderStatus → ReaderStatus) :
    (b.modifyReader h f).direct = b.direct.modifyReader h f := rfl

@[simp] theorem dropStream_direct (stream : Stream) :
    (b.dropStream stream).direct = b.direct.dropStream stream := rfl

theorem call_direct (client : Option ClientId) (c : ServiceCall) :
    directly (b.call client c) = b.direct.call client c := rfl

@[simp] theorem takeTurn_direct : (b.takeTurn id).direct = b.direct.takeTurn id := rfl

@[simp] theorem goOn_direct : (b.goOn id).direct = b.direct.goOn id := rfl

/-! ## Waking -/

@[simp] theorem wake_direct : (b.wake id).direct = b.direct.wake id := by
  unfold wake
  rw [direct_task?, Option.isSome_map, direct_ready]
  split <;> rfl

@[simp] theorem wakeAll_direct (ids : List TaskId) :
    (b.wakeAll ids).direct = b.direct.wakeAll ids := by
  induction ids generalizing b with
  | nil => rfl
  | cons id ids ih =>
    have h := ih (b.wake id)
    rw [wake_direct] at h
    exact h

/-- Who waits below a resource is seen from the places of the tasks. -/
theorem direct_waitersWithin (scope : Scope) :
    b.direct.waitersWithin scope = b.waitersWithin scope := by
  unfold waitersWithin direct
  rw [List.filter_map, List.map_map]
  simp only [Function.comp_def, Task.direct_scope?]

@[simp] theorem wakeWithin_direct (scope : Scope) :
    (b.wakeWithin scope).direct = b.direct.wakeWithin scope := by
  rw [wakeWithin, wakeWithin, wakeAll_direct, direct_waitersWithin]

/-! ## The life of a task -/

theorem submit_direct (t : Task) : directly (b.submit t) = b.direct.submit t.direct := by
  simp [directly, submit, direct]

@[simp] theorem setTask_direct (t : Task) :
    (b.setTask id t).direct = b.direct.setTask id t.direct := by
  have hplace : ∀ p : TaskId × Task,
      (fun p : TaskId × Task => (p.1, p.2.direct)) (if p.1 = id then (id, t) else p) =
        if p.1 = id then (id, t.direct) else (p.1, p.2.direct) := by
    intro p
    split <;> rfl
  simp only [setTask, direct, List.map_map, Function.comp_def, hplace]

@[simp] theorem conclude_direct : (b.conclude id).direct = b.direct.conclude id := by
  simp only [conclude, direct, List.filter_map, Function.comp_def]

@[simp] theorem concludeBackground_direct :
    (b.concludeBackground id).direct = b.direct.concludeBackground id := by
  unfold concludeBackground
  rw [direct_tracker, ← conclude_direct]
  exact wakeAll_direct _ _

/-- Work in the background has no number. -/
theorem spawnOn_direct {t : Task} (ht : t.direct = t) :
    (b.spawnOn t).direct = b.direct.spawnOn t := by
  have h := submit_direct { b with tracker := b.tracker.started } t
  rw [ht] at h
  exact congrArg Prod.snd h

theorem spawn_direct {t : Task} (ht : t.direct = t) : (b.spawn t).direct = b.direct.spawn t := by
  unfold spawn
  rw [direct_hasRuntime]
  split
  · exact b.spawnOn_direct ht
  · rfl

/-! ## Closing -/

@[simp] theorem sayFarewell_direct (client : ClientId) (left : List RemoteClose) :
    (b.sayFarewell client left).direct = b.direct.sayFarewell client left :=
  b.spawn_direct rfl

theorem closeConnection_direct (h : ConnectionHandle) :
    directly (b.closeConnection h) = b.direct.closeConnection h := by
  unfold closeConnection
  rw [direct_registry]
  split
  · rfl
  · simp

theorem closeSession_direct (h : SessionHandle) :
    directly (b.closeSession h) = b.direct.closeSession h := by
  unfold closeSession
  rw [direct_registry]
  split
  · rfl
  · simp

@[simp] theorem closeReader_direct (h : ReaderHandle) :
    (b.closeReader h).direct = b.direct.closeReader h := by
  unfold closeReader
  rw [direct_registry]
  split
  · simp
  · rfl

@[simp] theorem close_direct (target : Target) :
    (b.close target).direct = b.direct.close target := by
  cases target with
  | connection h => exact congrArg Prod.snd (b.closeConnection_direct h)
  | session h => exact congrArg Prod.snd (b.closeSession_direct h)
  | reader h => exact b.closeReader_direct h

@[simp] theorem closeConnections_direct (hs : List ConnectionHandle) :
    (b.closeConnections hs).direct = b.direct.closeConnections hs := by
  induction hs generalizing b with
  | nil => rfl
  | cons h hs ih =>
    have hrest := ih (b.close (.connection h))
    rw [close_direct] at hrest
    exact hrest

/-! ## Accepted calls -/

theorem follow_direct (hooks : List Hook) :
    directly (b.follow id hooks) = b.direct.follow id hooks := by
  induction hooks generalizing b with
  | nil => rfl
  | cons hook rest ih =>
    cases hook with
    | close target =>
      have hrest := ih (b.close target)
      rw [close_direct] at hrest
      exact hrest
    | refuse message => rfl
    | hang gate =>
      unfold follow
      rw [direct_service]
      split
      · exact ih b
      · rfl

theorem passHooks_direct (p : CallPoint) :
    directly (b.passHooks id p) = b.direct.passHooks id p := follow_direct _ id _

theorem resume_direct (held : Held) : directly (b.resume id held) = b.direct.resume id held := by
  unfold resume
  rw [direct_service]
  split
  · exact b.follow_direct id _
  · rfl

/-! ## Creating -/

theorem fail_direct (f : Failure) : directly (b.fail f) = b.direct.fail f := rfl

theorem reply_direct (r : Reply) : directly (b.reply r) = b.direct.reply r := rfl

theorem register_direct (url : Url) (client : ClientId) :
    directly (b.register url client) = b.direct.register url client := by
  unfold register
  rw [direct_registry]
  split
  · rfl
  · rw [fail_direct, sayFarewell_direct]

theorem opening_direct (url : Url) (client : ClientId) (p : Course × Bridge) :
    directly (opening url client p) = opening url client (directly p) := by
  obtain ⟨course, b⟩ := p
  cases course with
  | held held => rfl
  | refused message => rfl
  | returned => exact b.register_direct url client

theorem openRemote_direct (url : Url) (client : ClientId) :
    directly (b.openRemote id url client) = b.direct.openRemote id url client := by
  unfold openRemote
  rw [← call_direct]
  obtain ⟨refusal, b'⟩ := b.call (some client) .openConnection
  cases refusal with
  | some message => rfl
  | none => exact (opening_direct url client _).trans (by rw [passHooks_direct]; rfl)

theorem connecting_direct (url : Url) (client : ClientId) (p : Course × Bridge) :
    directly (connecting id url client p) = connecting id url client (directly p) := by
  obtain ⟨course, b⟩ := p
  cases course with
  | held held => rfl
  | refused message => rfl
  | returned => exact b.openRemote_direct id url client

theorem openConnection_direct (text : String) (credentials : Option Credentials) :
    directly (b.openConnection id text credentials) =
      b.direct.openConnection id text credentials := by
  unfold openConnection
  cases Url.ofService text with
  | error f => rfl
  | ok url =>
    dsimp only
    rw [← call_direct]
    obtain ⟨refusal, b'⟩ := b.call none (.createClient ⟨url, credentials⟩)
    cases refusal with
    | some message => rfl
    | none =>
      exact (connecting_direct id url _ _).trans (by rw [passHooks_direct, withService_direct]; rfl)

theorem adopt_direct (c : ConnectionHandle) (client : ClientId) (globalId : GlobalSessionId) :
    directly (b.adopt c client globalId) = b.direct.adopt c client globalId := by
  unfold adopt
  rw [direct_registry]
  split
  · split
    · rfl
    · rw [fail_direct, sayFarewell_direct]
  · rw [fail_direct, sayFarewell_direct]

theorem creating_direct (c : ConnectionHandle) (client : ClientId) (globalId : GlobalSessionId)
    (p : Course × Bridge) :
    directly (creating c client globalId p) = creating c client globalId (directly p) := by
  obtain ⟨course, b⟩ := p
  cases course with
  | held held => rfl
  | refused message => rfl
  | returned => exact b.adopt_direct c client globalId

theorem createSession_direct (c : ConnectionHandle) :
    directly (b.createSession id c) = b.direct.createSession id c := by
  unfold createSession
  rw [direct_registry]
  cases b.registry.openConnection c with
  | error f => rfl
  | ok entry =>
    dsimp only
    split
    · rfl
    · rw [← call_direct]
      obtain ⟨refusal, b'⟩ := b.call (some entry.client) .createSession
      cases refusal with
      | some message => rfl
      | none =>
        dsimp only [directly_mk]
        rw [direct_service]
        split
        · rfl
        · rw [creating_direct, passHooks_direct, withService_direct]

theorem attach_direct (s : SessionHandle) (entry : Session) (stream : Stream) :
    directly (b.attach s entry stream) = b.direct.attach s entry stream := by
  unfold attach
  rw [direct_config, direct_registry]
  cases Channel.ofCapacity? (max b.config.chunkBuffer.toNat 1) with
  | none => rfl
  | some channel =>
    dsimp only
    split
    · cases b.registry.addReader ⟨s, entry.connection⟩ channel with
      | error f => rfl
      | ok p => exact (reply_direct _ _).trans (by rw [spawnOn_direct _ rfl, withRegistry_direct])
    · rfl

theorem executing_direct (s : SessionHandle) (entry : Session) (stream : Stream)
    (p : Course × Bridge) :
    directly (executing s entry stream p) = executing s entry stream (directly p) := by
  obtain ⟨course, b⟩ := p
  cases course with
  | held held => rfl
  | refused message => rfl
  | returned => exact b.attach_direct s entry stream

theorem executeQuery_direct (s : SessionHandle) (text : String) :
    directly (b.executeQuery id s text) = b.direct.executeQuery id s text := by
  unfold executeQuery
  rw [direct_registry, direct_hasRuntime]
  cases b.registry.openSession s with
  | error f => rfl
  | ok entry =>
    dsimp only
    split
    · rfl
    · split
      · rfl
      · rw [← call_direct]
        obtain ⟨refusal, b'⟩ := b.call (some entry.client) (.executeQuery entry.globalId text)
        cases refusal with
        | some message => rfl
        | none =>
          dsimp only [directly_mk]
          rw [direct_service, executing_direct, passHooks_direct, withService_direct]

/-! ## Reading -/

@[simp] theorem leaveLock_direct (h : ReaderHandle) :
    (b.leaveLock h).direct = b.direct.leaveLock h := wakeAll_direct _ _

@[simp] theorem giveUpLock_direct (h : ReaderHandle) :
    (b.giveUpLock id h).direct = b.direct.giveUpLock id h := by
  unfold giveUpLock
  rw [direct_registry]
  split
  · exact b.leaveLock_direct h
  · rfl

theorem endReading_direct (h : ReaderHandle) (reading : Reading) (o : Outcome) :
    directly (b.endReading h reading o) = b.direct.endReading h reading o := by
  unfold endReading
  split
  · rw [directly_mk, closeReader_direct]
  · rfl

theorem readFailure_direct (h : ReaderHandle) (reading : Reading) (f : Failure) :
    directly (b.readFailure h reading f) = b.direct.readFailure h reading f :=
  b.endReading_direct h reading _

theorem readClosed_direct (h : ReaderHandle) (reading : Reading) :
    directly (b.readClosed h reading) = b.direct.readClosed h reading :=
  b.readFailure_direct h reading _

theorem readEnd_direct (h : ReaderHandle) (reading : Reading) :
    directly (b.readEnd h reading) = b.direct.readEnd h reading := b.endReading_direct h reading _

theorem readChunk_direct (h : ReaderHandle) (reading : Reading) (c : Bytes) :
    directly (b.readChunk h reading c) = b.direct.readChunk h reading c := by
  unfold readChunk
  cases reading.after c <;> rfl

theorem deliver_direct (h : ReaderHandle) (entry : Reader) (reading : Reading) (f : Frame) :
    directly (b.deliver h entry reading f) = b.direct.deliver h entry reading f := by
  cases f with
  | data c => exact (readChunk_direct _ h reading c).trans (by rw [leaveLock_direct]; rfl)
  | finish =>
    refine (readEnd_direct _ h reading).trans ?_
    rw [leaveLock_direct, withRegistry_direct]
    rfl
  | failure message =>
    refine (readFailure_direct _ h reading _).trans ?_
    rw [leaveLock_direct, closeReader_direct]
    rfl

theorem nextFrame_direct (h : ReaderHandle) (entry : Reader) (reading : Reading) :
    directly (b.nextFrame id h entry reading) = b.direct.nextFrame id h entry reading := by
  unfold nextFrame
  rw [direct_registry]
  dsimp only
  split
  · exact deliver_direct _ h entry reading _
  · split
    · exact b.deliver_direct h entry reading _
    · split
      · rw [readClosed_direct, leaveLock_direct]
      · split
        · rw [deliver_direct, wakeAll_direct, modifyReader_direct]
        · split
          · rfl
          · rw [readClosed_direct, leaveLock_direct]

@[simp] theorem takeFrames_direct (h : ReaderHandle) (held : Option Frame) (rest : List Frame) :
    (b.takeFrames h held rest).direct = b.direct.takeFrames h held rest := wakeAll_direct _ _

theorem takeAvailable_direct (h : ReaderHandle) (entry : Reader) :
    directly (b.takeAvailable id h entry) = b.direct.takeAvailable id h entry := by
  unfold takeAvailable
  rw [direct_registry]
  dsimp only
  split
  · rw [reply_direct, leaveLock_direct, withRegistry_direct, ← takeFrames_direct, direct_registry]
  · split
    · rw [fail_direct, leaveLock_direct, closeReader_direct, takeFrames_direct]
    · rw [reply_direct, leaveLock_direct, takeFrames_direct]
  · split
    · exact b.nextFrame_direct id h entry .available
    · rw [reply_direct, leaveLock_direct, takeFrames_direct]

theorem readLocked_direct (h : ReaderHandle) (entry : Reader) (reading : Reading) :
    directly (b.readLocked id h entry reading) = b.direct.readLocked id h entry reading := by
  unfold readLocked
  rw [direct_registry]
  dsimp only
  split
  · split
    · rw [readEnd_direct, leaveLock_direct]
    · rw [readClosed_direct, leaveLock_direct]
    · exact b.takeAvailable_direct id h entry
    · exact b.nextFrame_direct id h entry _
  · rfl

theorem read_direct (h : ReaderHandle) (reading : Reading) :
    directly (b.read id h reading) = b.direct.read id h reading := by
  unfold read
  rw [direct_registry]
  split
  · exact b.readEnd_direct h reading
  · split
    · exact b.readFailure_direct h reading _
    · exact b.readEnd_direct h reading
    · split
      · exact b.readClosed_direct h reading
      · exact readLocked_direct _ id h _ reading

/-! ## Draining -/

theorem settle_direct : directly (b.settle id) = b.direct.settle id := by
  have hwake : ∀ ids tracker, ({ b with tracker }.wakeAll ids).direct =
      { b.direct with tracker }.wakeAll ids := fun ids tracker => wakeAll_direct _ ids
  unfold settle
  rw [direct_tracker]
  dsimp only
  rw [← hwake, direct_tracker]
  split <;> rfl

theorem shutdown_direct : directly (b.shutdown id) = b.direct.shutdown id := by
  unfold shutdown
  rw [settle_direct, closeConnections_direct, direct_registry]

theorem drain_direct : directly (b.drain id) = b.direct.drain id := by
  unfold drain
  rw [direct_tracker]
  split <;> rfl

/-! ## Turns -/

theorem closed_direct (p : Except Failure Unit × Bridge) :
    directly (closed p) = closed (directly p) := by
  obtain ⟨result, b⟩ := p
  cases result <;> rfl

theorem begin_direct (c : Call) : directly (b.begin id c) = b.direct.begin id c := by
  cases c with
  | openConnection url credentials => exact b.openConnection_direct id url credentials
  | createSession c => exact b.createSession_direct id c
  | executeQuery s text => exact b.executeQuery_direct id s text
  | read h reading => exact b.read_direct id h reading
  | closeConnection c => exact (closed_direct _).trans (by rw [closeConnection_direct]; rfl)
  | closeSession s => exact (closed_direct _).trans (by rw [closeSession_direct]; rfl)
  | closeReader h => exact (reply_direct _ _).trans (by rw [closeReader_direct]; rfl)
  | settle => exact b.settle_direct id
  | shutdown => exact b.shutdown_direct id

/-- **A turn of a call** does not tell how the calls have come. -/
theorem turn_direct (stage : Stage) : directly (b.turn id stage) = b.direct.turn id stage := by
  cases stage with
  | fresh c => exact b.begin_direct id c
  | connecting url client held =>
    exact (connecting_direct id url client _).trans (by rw [resume_direct]; rfl)
  | opening url client held =>
    exact (opening_direct url client _).trans (by rw [resume_direct]; rfl)
  | unanswered c => exact directly_ite rfl rfl
  | creating c client globalId held =>
    exact directly_ite rfl ((creating_direct c client globalId _).trans (by rw [resume_direct]))
  | executing s entry stream held =>
    exact directly_ite rfl ((executing_direct s entry stream _).trans (by rw [resume_direct]))
  | awaitingTurn h entry reading =>
    exact directly_ite ((readClosed_direct _ h reading).trans (by rw [giveUpLock_direct]))
      (b.readLocked_direct id h entry reading)
  | awaitingFrame h entry reading =>
    exact directly_ite ((readClosed_direct _ h reading).trans (by rw [leaveLock_direct]))
      (b.nextFrame_direct id h entry reading)
  | draining => exact b.drain_direct id

/-- A call that came over the wire has turns as one that came directly. What
is told of it goes under its number. -/
theorem pollCall_direct (request : Option UInt64) (stage : Stage) :
    (b.pollCall id request stage).2.direct = (b.direct.pollCall id none stage).2 ∧
      (b.pollCall id request stage).1 =
        (b.direct.pollCall id none stage).1.map fun o => request.elim o o.enveloped := by
  unfold pollCall
  rw [← turn_direct]
  obtain ⟨progress, b'⟩ := b.turn id stage
  cases progress with
  | ends o => exact ⟨b'.conclude_direct id, rfl⟩
  | waits s =>
    refine ⟨?_, rfl⟩
    have hset : (b'.setTask id (.call request s)).direct = b'.direct.setTask id (.call none s) :=
      b'.setTask_direct id _
    dsimp only [directly_mk]
    rw [← hset, direct_registry]
    split
    · exact wake_direct _ id
    · rfl
  | goesOn s =>
    refine ⟨?_, rfl⟩
    rw [goOn_direct, setTask_direct]
    rfl

/-! ## Work in the background -/

theorem endPump_direct (h : ReaderHandle) (stream : Stream) :
    directly (b.endPump h stream) = b.direct.endPump h stream := by
  unfold endPump
  rw [directly_mk, wakeAll_direct, modifyReader_direct, dropStream_direct, direct_registry]

theorem pump_direct (h : ReaderHandle) (entry : Reader) (stream : Stream) (inHand : Option Frame) :
    directly (b.pump id h entry stream inHand) = b.direct.pump id h entry stream inHand := by
  unfold pump
  rw [direct_registry, direct_service]
  split
  · exact b.endPump_direct h stream
  · cases inHand with
    | none =>
      dsimp only
      split <;> rfl
    | some f =>
      dsimp only
      split
      · exact b.endPump_direct h stream
      · split
        · rfl
        · rw [← modifyReader_direct, ← wakeAll_direct]
          split
          · exact endPump_direct _ h stream
          · rfl

theorem sayNext_direct (client : ClientId) (left : List RemoteClose) :
    directly (b.sayNext id client left) = b.direct.sayNext id client left := by
  cases left with
  | nil => rfl
  | cons c left =>
    unfold sayNext
    dsimp only
    rw [← call_direct]
    obtain ⟨refusal, b'⟩ := b.call (some client) c.call
    cases refusal with
    | some message => rfl
    | none =>
      dsimp only [directly_mk]
      rw [← passHooks_direct]
      obtain ⟨course, b''⟩ := b'.passHooks id c.call.point
      cases course <;> rfl

theorem farewell_direct (client : ClientId) (held : Option Held) (left : List RemoteClose) :
    directly (b.farewell id client held left) = b.direct.farewell id client held left := by
  cases held with
  | none => exact b.sayNext_direct id client left
  | some held =>
    unfold farewell
    dsimp only
    rw [← resume_direct]
    obtain ⟨course, b'⟩ := b.resume id held
    cases course with
    | held held => rfl
    | refused message => exact b'.sayNext_direct id client left
    | returned => exact b'.sayNext_direct id client left

/-- Work in the background stays what it is. -/
theorem afterBackground_direct (p : Progress Task Unit × Bridge)
    (hp : ∀ t, p.1 = .waits t ∨ p.1 = .goesOn t → t.direct = t) :
    (afterBackground id p).direct = afterBackground id (directly p) := by
  obtain ⟨progress, b⟩ := p
  cases progress with
  | ends u => exact b.concludeBackground_direct id
  | waits t =>
    refine (b.setTask_direct id t).trans ?_
    rw [hp t (.inl rfl)]
    rfl
  | goesOn t =>
    refine (goOn_direct _ id).trans ?_
    rw [setTask_direct, hp t (.inr rfl)]
    rfl

/-- A pump that goes on is a pump. -/
theorem pump_place {h : ReaderHandle} {entry : Reader} {stream : Stream} {inHand : Option Frame}
    {t : Task} (ht : (b.pump id h entry stream inHand).1 = .waits t ∨
      (b.pump id h entry stream inHand).1 = .goesOn t) : t.direct = t := by
  unfold pump at ht
  split at ht
  · rcases ht with ht | ht <;> cases ht
  · cases inHand with
    | none =>
      dsimp only at ht
      split at ht <;> rcases ht with ht | ht <;> cases ht <;> rfl
    | some f =>
      dsimp only at ht
      split at ht
      · rcases ht with ht | ht <;> cases ht
      · split at ht
        · rcases ht with ht | ht <;> cases ht
          rfl
        · split at ht <;> rcases ht with ht | ht <;> cases ht
          rfl

/-! ## Turns of any task -/

/-- **A turn of any task** does not tell how the calls have come. -/
theorem poll_direct : (b.poll id).2.direct = (b.direct.poll id).2 := by
  unfold poll
  rw [direct_task?]
  cases b.task? id with
  | none => rfl
  | some t =>
    cases t with
    | payload text =>
      cases hd : RequestEnvelope.decode text with
      | error p => simp only [Option.map_some, Task.direct, hd, conclude_direct, takeTurn_direct]
      | ok e =>
        simp only [Option.map_some, Task.direct, hd]
        exact (pollCall_direct _ id (some e.id) _).1
    | call request stage => exact (pollCall_direct _ id request stage).1
    | pump h entry stream inHand =>
      refine (afterBackground_direct id _ fun t ht => pump_place _ id ht).trans ?_
      rw [pump_direct]
      rfl
    | farewell client held left =>
      refine (afterBackground_direct id _ fun t ht => ?_).trans ?_
      · obtain ⟨held', left', rfl⟩ := farewell_place _ id client held left ht
        rfl
      · rw [farewell_direct]
        rfl

/-- **What is told of a call** goes under the number of its request. -/
theorem told_direct {t : Task} (ht : b.task? id = some t) :
    (b.poll id).1 = (b.direct.poll id).1.map t.told := by
  unfold poll
  rw [direct_task?, ht]
  cases t with
  | payload text =>
    cases hd : RequestEnvelope.decode text with
    | error p => simp [Task.direct, hd, Task.told, Task.request?, Except.toOption]
    | ok e =>
      have htold : (Task.payload text).told = Outcome.enveloped e.id := by
        funext o
        simp only [Task.told, Task.request?, hd, Except.toOption, Option.map_some, Option.elim_some]
      simp only [Option.map_some, Task.direct, hd, htold]
      exact (pollCall_direct _ id (some e.id) _).2
  | call request stage => exact (pollCall_direct _ id request stage).2
  | pump h entry stream inHand => rfl
  | farewell client held left => rfl

/-! ## Runs -/

theorem release_direct (stage : Stage) :
    (b.release id stage).direct = b.direct.release id stage := by
  unfold release
  split
  · split
    · exact b.closeReader_direct _
    · rfl
  · rfl
  · dsimp only
    split
    · rw [closeReader_direct, giveUpLock_direct]
    · exact b.giveUpLock_direct id _
  · dsimp only
    split
    · rw [closeReader_direct, giveUpLock_direct]
    · exact b.giveUpLock_direct id _
  all_goals rfl

theorem abandon_direct : (b.abandon id).direct = b.direct.abandon id := by
  unfold abandon
  rw [direct_task?]
  cases b.task? id with
  | none => rfl
  | some t =>
    cases t with
    | payload text =>
      cases hd : RequestEnvelope.decode text with
      | error p => simp only [Option.map_some, Task.direct, hd, conclude_direct]
      | ok e =>
        simp only [Option.map_some, Task.direct, hd, conclude_direct]
        -- a call that has not begun gives nothing up
        cases e.request <;> rfl
    | call request stage =>
      refine (release_direct _ id stage).trans ?_
      rw [conclude_direct]
      rfl
    | pump h entry stream inHand => rfl
    | farewell client held left => rfl

theorem feed_direct (n : Nat) (frames : List Frame) :
    (b.feed n frames).2.direct = (b.direct.feed n frames).2 := by
  induction frames generalizing b with
  | nil => rfl
  | cons f fs ih =>
    unfold feed
    dsimp only
    rw [ih, wakeAll_direct, withService_direct, direct_service]

theorem far_direct (act : FarAct) : (b.far act).direct = b.direct.far act := by
  cases act with
  | refuse p message => rfl
  | plan p hooks => rfl
  | script text script => cases script <;> rfl
  | release gate => exact wakeAll_direct _ _
  | feed n frames => exact b.feed_direct n frames
  | endFeed n => exact wakeAll_direct _ _

/-- **An event** does the same if the calls come directly. -/
theorem step_direct (e : Event) : (b.step e).direct = b.direct.step e.direct := by
  cases e with
  | call c => exact congrArg Prod.snd (b.submit_direct _)
  | payload text =>
    refine (congrArg Prod.snd (b.submit_direct (.payload text))).trans ?_
    cases hd : RequestEnvelope.decode text with
    | error p => simp only [Task.direct, Event.direct, hd, step]
    | ok e => simp only [Task.direct, Event.direct, hd, step]
  | close target => exact b.close_direct target
  | turn id => exact b.poll_direct id
  | abandon id => exact b.abandon_direct id
  | far act => exact b.far_direct act
  | runtime x => rfl

/-- **A run** goes through the same states if the calls come directly. -/
theorem after_direct (es : List Event) :
    (b.after es).direct = b.direct.after (es.map Event.direct) := by
  induction es generalizing b with
  | nil => rfl
  | cons e es ih =>
    rw [after_cons, ih, step_direct, List.map_cons, after_cons]

theorem Reachable.direct {b : Bridge} (h : b.Reachable) : b.direct.Reachable := by
  induction h with
  | start sessionIds hangs config hasRuntime => exact .start sessionIds hangs config hasRuntime
  | step e _ ih =>
    rw [step_direct]
    exact ih.step e.direct

end Bridge

end QueryBridge
