import QueryBridge.Proofs.Bridge.Calls

/-!
# What a turn leaves to the background

A turn of anything but a drain leaves the tracker alone, but for the work that
it starts in the background. It takes nobody off the queue.

* `Bridge.Spawns`: work was started in the background, and tasks were woken.
* `turn_spawns`, `pump_spawns`, `farewell_spawns`: one turn.
-/

namespace QueryBridge

/-- Whether a task is work in the background. -/
def Task.inBackground : Task → Bool
  | .payload _ | .call .. => false
  | .pump .. | .farewell .. => true

theorem Task.inBackground_congr {t t' : Task} (hk : t'.kind = t.kind) :
    t'.inBackground = t.inBackground := by
  cases t <;> cases t' <;> first | rfl | cases hk

/-- Whether a call waits, or is to wait, until nothing is under way in the background. -/
def Stage.drains : Stage → Bool
  | .fresh .settle | .fresh .shutdown | .draining => true
  | _ => false

/-! ## Clients -/

namespace Service

/-- What a call uses up of the plans of the service creates no client. -/
theorem takeHooks_clients (s : Service) (p : CallPoint) :
    (s.takeHooks p).2.clients = s.clients := by
  unfold takeHooks
  split <;> rfl

theorem nextSessionId_clients (s : Service) : s.nextSessionId.2.clients = s.clients := by
  unfold nextSessionId
  split <;> rfl

theorem takeStream_clients (s : Service) (text : String) :
    (s.takeStream text).2.clients = s.clients := by
  unfold takeStream
  split <;> rfl

theorem nextFrame?_clients {s s' : Service} {stream stream' : Stream} {f : Frame}
    (h : s.nextFrame? stream = some (f, stream', s')) : s'.clients = s.clients := by
  unfold nextFrame? at h
  split at h
  · cases h
    rfl
  · cases h
    rfl
  · split at h
    · cases h
      rfl
    · split at h
      · cases h
        rfl
      · split at h <;> cases h
        rfl

theorem feed_clients (s : Service) (n : Nat) (f : Frame) :
    (s.feed n f).2.2.clients = s.clients := by
  unfold feed
  split
  · rfl
  · split <;> rfl

end Service

/-! ## What is started -/

/-- Work was started in the background and is counted, tasks were woken, and clients created. -/
structure Bridge.Spawns (b b' : Bridge) : Prop where
  work : ∃ new : List (TaskId × Task), b'.tasks = b.tasks ++ new ∧
    (∀ p ∈ new, p.2.inBackground = true) ∧
    new.map Prod.fst = List.range' b.nextTask new.length ∧
    b'.nextTask = b.nextTask + new.length ∧
    b'.tracker = { b.tracker with active := b.tracker.active + new.length }
  ready : b.ready ⊆ b'.ready
  clients : b.service.clients ≤ b'.service.clients

variable {b b' b'' : Bridge} {id : TaskId}

namespace Bridge

namespace Spawns

/-- Nothing was started. -/
theorem of_eq (ht : b'.tasks = b.tasks) (hn : b'.nextTask = b.nextTask)
    (hk : b'.tracker = b.tracker) (hr : b.ready ⊆ b'.ready)
    (hc : b.service.clients ≤ b'.service.clients) : Spawns b b' := by
  refine ⟨⟨[], ?_, nofun, rfl, hn, ?_⟩, hr, hc⟩
  · rw [ht, List.append_nil]
  · rw [hk]
    rfl

theorem refl (b : Bridge) : Spawns b b := .of_eq rfl rfl rfl (fun _ h => h) (Nat.le_refl _)

theorem trans (h : Spawns b b') (h' : Spawns b' b'') : Spawns b b'' := by
  obtain ⟨new, ht, hnew, hnumbers, hn, hk⟩ := h.work
  obtain ⟨new', ht', hnew', hnumbers', hn', hk'⟩ := h'.work
  refine ⟨⟨new ++ new', ?_, ?_, ?_, ?_, ?_⟩, fun id hid => h'.ready (h.ready hid),
    Nat.le_trans h.clients h'.clients⟩
  · rw [ht', ht, List.append_assoc]
  · intro p hp
    rcases List.mem_append.1 hp with hp | hp
    · exact hnew p hp
    · exact hnew' p hp
  · rw [List.map_append, hnumbers, hnumbers', hn, List.range'_append_1, List.length_append]
  · rw [hn', hn, List.length_append, Nat.add_assoc]
  · rw [hk', hk, List.length_append, Nat.add_assoc]

theorem withRegistry (b : Bridge) (r : Registry) : Spawns b (b.withRegistry r) :=
  .of_eq rfl rfl rfl (fun _ h => h) (Nat.le_refl _)

theorem withService (b : Bridge) {s : Service} (hc : b.service.clients ≤ s.clients) :
    Spawns b (b.withService s) :=
  .of_eq rfl rfl rfl (fun _ h => h) hc

/-- No two tasks have one number. -/
theorem nodup {me : Option TaskId} {inHand : Option Stream} (h : Spawns b b')
    (hb : BridgeOK b me inHand) : (b'.tasks.map Prod.fst).Nodup := by
  obtain ⟨new, ht, -, hnumbers, -, -⟩ := h.work
  rw [ht, List.map_append, hnumbers, List.nodup_append]
  refine ⟨hb.nodup, List.nodup_range' 1, ?_⟩
  rintro x hx y hy rfl
  obtain ⟨p, hp, rfl⟩ := List.mem_map.1 hx
  have hlt : p.1 < b.nextTask := hb.numbered p hp
  have hle : b.nextTask ≤ p.1 := (List.mem_range'_1.1 hy).1
  exact absurd hlt (Nat.not_lt.2 hle)

/-- New work has the next numbers. -/
theorem numbered (h : Spawns b b') (hn : ∀ p ∈ b.tasks, p.1 < b.nextTask) :
    b.nextTask ≤ b'.nextTask ∧ ∀ p ∈ b'.tasks, p.1 < b'.nextTask := by
  obtain ⟨new, ht, -, hnumbers, hnext, -⟩ := h.work
  rw [ht, hnext]
  refine ⟨Nat.le_add_right _ _, fun p hp => ?_⟩
  rcases List.mem_append.1 hp with hp | hp
  · exact Nat.lt_of_lt_of_le (hn p hp) (Nat.le_add_right _ _)
  · have hm : p.1 ∈ List.range' b.nextTask new.length := hnumbers ▸ List.mem_map_of_mem hp
    exact (List.mem_range'_1.1 hm).2

/-- A task is where it was. -/
theorem keeps (h : Spawns b b') {t : Task} (ht : b.task? id = some t) :
    b'.task? id = some t := by
  obtain ⟨new, htasks, -⟩ := h.work
  unfold task? at ht ⊢
  rw [htasks, List.lookup_append, ht]
  rfl

theorem waiting (h : Spawns b b') : b'.tracker.waiting = b.tracker.waiting := by
  obtain ⟨new, -, -, -, -, hk⟩ := h.work
  rw [hk]

theorem isShut (h : Spawns b b') : b'.tracker.isShut = b.tracker.isShut := by
  obtain ⟨new, -, -, -, -, hk⟩ := h.work
  rw [hk]

end Spawns

/-! ## Waking and starting -/

theorem wake_spawns (b : Bridge) (id : TaskId) : Spawns b (b.wake id) := by
  unfold wake
  split
  · exact .of_eq rfl rfl rfl (List.subset_append_left _ _) (Nat.le_refl _)
  · exact .refl b

theorem wakeAll_spawns (ids : List TaskId) (b : Bridge) : Spawns b (b.wakeAll ids) := by
  induction ids generalizing b with
  | nil => exact .refl b
  | cons id ids ih => exact (b.wake_spawns id).trans (ih _)

/-- The resources have changed, and whoever waited for that was woken. -/
theorem changed_spawns (b : Bridge) (r : Registry) (ids : List TaskId) :
    Spawns b ((b.withRegistry r).wakeAll ids) :=
  (Spawns.withRegistry b r).trans (wakeAll_spawns ids _)

theorem call_spawns (b : Bridge) (client : Option ClientId) (c : ServiceCall) :
    Spawns b (b.call client c).2 := .withService b (Nat.le_refl _)

theorem spawnOn_spawns {t : Task} (ht : t.inBackground = true) (b : Bridge) :
    Spawns b (b.spawnOn t) := by
  refine ⟨⟨[(b.nextTask, t)], rfl, ?_, rfl, rfl, rfl⟩, List.subset_append_left _ _, Nat.le_refl _⟩
  intro p hp
  rw [List.mem_singleton.1 hp]
  exact ht

theorem spawn_spawns {t : Task} (ht : t.inBackground = true) (b : Bridge) :
    Spawns b (b.spawn t) := by
  unfold spawn
  split
  · exact spawnOn_spawns ht b
  · exact .refl b

theorem sayFarewell_spawns (b : Bridge) (client : ClientId) (left : List RemoteClose) :
    Spawns b (b.sayFarewell client left) := spawn_spawns rfl b

/-! ## Closing -/

theorem close_spawns (b : Bridge) (target : Target) : Spawns b (b.close target) := by
  have hwoken : ∀ r scope, Spawns b ((b.withRegistry r).wakeWithin scope) := fun r scope =>
    b.changed_spawns r _
  cases target with
  | connection c =>
    show Spawns b (b.closeConnection c).2
    unfold closeConnection
    split
    · exact .refl b
    · exact (hwoken _ _).trans (sayFarewell_spawns _ _ _)
  | session s =>
    show Spawns b (b.closeSession s).2
    unfold closeSession
    split
    · exact .refl b
    · exact (hwoken _ _).trans (sayFarewell_spawns _ _ _)
  | reader h =>
    show Spawns b (b.closeReader h)
    unfold closeReader
    split
    · exact hwoken _ _
    · exact .withRegistry b _

theorem closeReader_spawns (b : Bridge) (h : ReaderHandle) : Spawns b (b.closeReader h) :=
  b.close_spawns (.reader h)

theorem closeConnections_spawns (hs : List ConnectionHandle) (b : Bridge) :
    Spawns b (b.closeConnections hs) := by
  induction hs generalizing b with
  | nil => exact .refl b
  | cons h hs ih => exact (b.close_spawns (.connection h)).trans (ih _)

theorem follow_spawns (id : TaskId) (hooks : List Hook) (b : Bridge) :
    Spawns b (b.follow id hooks).2 := by
  induction hooks generalizing b with
  | nil => exact .refl b
  | cons hook rest ih =>
    cases hook with
    | close target => exact (b.close_spawns target).trans (ih _)
    | refuse message => exact .refl b
    | hang gate =>
      unfold follow
      split
      · exact ih b
      · exact .withService b (Nat.le_refl _)

theorem passHooks_spawns (b : Bridge) (id : TaskId) (p : CallPoint) :
    Spawns b (b.passHooks id p).2 := by
  have hplan : Spawns b (b.withService (b.service.takeHooks p).2) :=
    .withService b (Nat.le_of_eq (b.service.takeHooks_clients p).symm)
  exact hplan.trans (follow_spawns id _ _)

theorem resume_spawns (b : Bridge) (id : TaskId) (held : Held) :
    Spawns b (b.resume id held).2 := by
  unfold resume
  split
  · exact follow_spawns id _ b
  · exact .refl b

/-! ## Creating -/

theorem register_spawns (b : Bridge) (url : Url) (client : ClientId) :
    Spawns b (b.register url client).2 := by
  unfold register
  split
  · exact .withRegistry b _
  · exact b.sayFarewell_spawns _ _

theorem opening_spawns (url : Url) (client : ClientId) (p : Course × Bridge) :
    Spawns p.2 (opening url client p).2 := by
  obtain ⟨course, b⟩ := p
  cases course with
  | held held => exact .refl b
  | refused message => exact .refl b
  | returned => exact b.register_spawns url client

theorem openRemote_spawns (b : Bridge) (id : TaskId) (url : Url) (client : ClientId) :
    Spawns b (b.openRemote id url client).2 := by
  unfold openRemote
  split <;> rename_i b₁ hc
  · obtain rfl : _ = b₁ := congrArg Prod.snd hc
    exact b.call_spawns _ _
  · obtain rfl : _ = b₁ := congrArg Prod.snd hc
    exact (b.call_spawns _ _).trans ((passHooks_spawns _ id _).trans (opening_spawns _ _ _))

theorem connecting_spawns (id : TaskId) (url : Url) (client : ClientId) (p : Course × Bridge) :
    Spawns p.2 (connecting id url client p).2 := by
  obtain ⟨course, b⟩ := p
  cases course with
  | held held => exact .refl b
  | refused message => exact .refl b
  | returned => exact b.openRemote_spawns id url client

theorem openConnection_spawns (b : Bridge) (id : TaskId) (text : String)
    (credentials : Option Credentials) : Spawns b (b.openConnection id text credentials).2 := by
  unfold openConnection
  split
  · exact .refl b
  · split <;> rename_i b₁ hc
    · obtain rfl : _ = b₁ := congrArg Prod.snd hc
      exact b.call_spawns _ _
    · obtain rfl : _ = b₁ := congrArg Prod.snd hc
      exact (b.call_spawns _ _).trans ((Spawns.withService _ (Nat.le_succ _)).trans
        ((passHooks_spawns _ id _).trans (connecting_spawns id _ _ _)))

theorem adopt_spawns (b : Bridge) (c : ConnectionHandle) (client : ClientId)
    (globalId : GlobalSessionId) : Spawns b (b.adopt c client globalId).2 := by
  unfold adopt
  split
  · split
    · exact .withRegistry b _
    · exact b.sayFarewell_spawns _ _
  · exact b.sayFarewell_spawns _ _

theorem creating_spawns (c : ConnectionHandle) (client : ClientId) (globalId : GlobalSessionId)
    (p : Course × Bridge) : Spawns p.2 (creating c client globalId p).2 := by
  obtain ⟨course, b⟩ := p
  cases course with
  | held held => exact .refl b
  | refused message => exact .refl b
  | returned => exact b.adopt_spawns c client globalId

theorem createSession_spawns (b : Bridge) (id : TaskId) (c : ConnectionHandle) :
    Spawns b (b.createSession id c).2 := by
  unfold createSession
  cases b.registry.openConnection c with
  | error f => exact .refl b
  | ok entry =>
    dsimp only
    split
    · exact .refl b
    · have hcalled := b.call_spawns (some entry.client) .createSession
      generalize b.call (some entry.client) .createSession = p at hcalled ⊢
      obtain ⟨refusal, b₁⟩ := p
      cases refusal with
      | some message => exact hcalled
      | none =>
        dsimp only
        split
        · exact hcalled
        · have hnamed : Spawns b₁ (b₁.withService b₁.service.nextSessionId.2) :=
            .withService b₁ (Nat.le_of_eq b₁.service.nextSessionId_clients.symm)
          exact hcalled.trans (hnamed.trans
            ((passHooks_spawns _ id _).trans (creating_spawns c _ _ _)))

theorem dropStream_spawns (b : Bridge) (stream : Stream) : Spawns b (b.dropStream stream) := by
  cases stream <;> exact .withService b (Nat.le_refl _)

theorem attach_spawns (b : Bridge) (s : SessionHandle) (entry : Session) (stream : Stream) :
    Spawns b (b.attach s entry stream).2 := by
  have hdropped := b.dropStream_spawns stream
  unfold attach
  split
  · exact hdropped
  · dsimp only
    split
    · split
      · exact (Spawns.withRegistry b _).trans (spawnOn_spawns rfl _)
      · exact hdropped
    · exact hdropped

theorem executing_spawns (s : SessionHandle) (entry : Session) (stream : Stream)
    (p : Course × Bridge) : Spawns p.2 (executing s entry stream p).2 := by
  obtain ⟨course, b⟩ := p
  cases course with
  | held held => exact .refl b
  | refused message => exact b.dropStream_spawns stream
  | returned => exact b.attach_spawns s entry stream

theorem executeQuery_spawns (b : Bridge) (id : TaskId) (s : SessionHandle) (text : String) :
    Spawns b (b.executeQuery id s text).2 := by
  unfold executeQuery
  split
  · exact .refl b
  · split
    · exact .refl b
    · split
      · exact .refl b
      · split <;> rename_i b₁ hc
        · obtain rfl : _ = b₁ := congrArg Prod.snd hc
          exact b.call_spawns _ _
        · obtain rfl : _ = b₁ := congrArg Prod.snd hc
          exact (b.call_spawns _ _).trans
            ((Spawns.withService _ (Nat.le_of_eq (Service.takeStream_clients _ text).symm)).trans
              ((passHooks_spawns _ id _).trans (executing_spawns s _ _ _)))

/-! ## Reading -/

theorem leaveLock_spawns (b : Bridge) (h : ReaderHandle) : Spawns b (b.leaveLock h) :=
  b.changed_spawns _ _

theorem giveUpLock_spawns (b : Bridge) (id : TaskId) (h : ReaderHandle) :
    Spawns b (b.giveUpLock id h) := by
  unfold giveUpLock
  split
  · exact b.leaveLock_spawns h
  · exact .withRegistry b _

theorem endReading_spawns (b : Bridge) (h : ReaderHandle) (reading : Reading) (o : Outcome) :
    Spawns b (b.endReading h reading o).2 := by
  unfold endReading
  dsimp only
  split
  · exact b.closeReader_spawns h
  · exact .refl b

theorem deliver_spawns (b : Bridge) (h : ReaderHandle) (entry : Reader) (reading : Reading)
    (f : Frame) : Spawns b (b.deliver h entry reading f).2 := by
  cases f with
  | data c =>
    unfold deliver readChunk
    dsimp only
    split
    · exact b.leaveLock_spawns h
    · exact b.leaveLock_spawns h
  | finish =>
    exact (Spawns.withRegistry b _).trans ((leaveLock_spawns _ h).trans (endReading_spawns _ _ _ _))
  | failure message =>
    exact (b.closeReader_spawns h).trans ((leaveLock_spawns _ h).trans (endReading_spawns _ _ _ _))

theorem nextFrame_spawns (b : Bridge) (id : TaskId) (h : ReaderHandle) (entry : Reader)
    (reading : Reading) : Spawns b (b.nextFrame id h entry reading).2 := by
  unfold nextFrame
  dsimp only
  split
  · exact (Spawns.withRegistry b _).trans (deliver_spawns _ _ _ _ _)
  · split
    · exact b.deliver_spawns _ _ _ _
    · split
      · exact (b.leaveLock_spawns h).trans (endReading_spawns _ _ _ _)
      · split
        · exact (b.changed_spawns _ _).trans (deliver_spawns _ _ _ _ _)
        · split
          · exact .withRegistry b _
          · exact (b.leaveLock_spawns h).trans (endReading_spawns _ _ _ _)

theorem takeFrames_spawns (b : Bridge) (h : ReaderHandle) (held : Option Frame)
    (rest : List Frame) : Spawns b (b.takeFrames h held rest) :=
  b.changed_spawns _ _

theorem takeAvailable_spawns (b : Bridge) (id : TaskId) (h : ReaderHandle) (entry : Reader) :
    Spawns b (b.takeAvailable id h entry).2 := by
  have htaken : ∀ held rest, Spawns b ((b.takeFrames h held rest).leaveLock h) := fun held rest =>
    (b.takeFrames_spawns h held rest).trans (leaveLock_spawns _ h)
  unfold takeAvailable
  dsimp only
  split
  · exact (b.takeFrames_spawns h none _).trans
      ((Spawns.withRegistry _ _).trans (leaveLock_spawns _ h))
  · split
    · exact (b.takeFrames_spawns h none _).trans
        ((closeReader_spawns _ h).trans (leaveLock_spawns _ h))
    · exact htaken _ _
  · split
    · exact b.nextFrame_spawns id h entry _
    · exact htaken _ _

theorem readLocked_spawns (b : Bridge) (id : TaskId) (h : ReaderHandle) (entry : Reader)
    (reading : Reading) : Spawns b (b.readLocked id h entry reading).2 := by
  unfold readLocked
  dsimp only
  split
  · split
    · exact (b.leaveLock_spawns h).trans (endReading_spawns _ _ _ _)
    · exact (b.leaveLock_spawns h).trans (endReading_spawns _ _ _ _)
    · exact b.takeAvailable_spawns id h entry
    · exact b.nextFrame_spawns id h entry _
  · exact .refl b

theorem read_spawns (b : Bridge) (id : TaskId) (h : ReaderHandle) (reading : Reading) :
    Spawns b (b.read id h reading).2 := by
  unfold read
  split
  · exact b.endReading_spawns _ _ _
  · split
    · exact b.endReading_spawns _ _ _
    · exact b.endReading_spawns _ _ _
    · split
      · exact b.endReading_spawns _ _ _
      · exact (Spawns.withRegistry b _).trans (readLocked_spawns _ id h _ reading)

/-! ## Turns -/

theorem closed_spawns (p : Except Failure Unit × Bridge) : Spawns p.2 (closed p).2 := by
  obtain ⟨result, b⟩ := p
  cases result <;> exact .refl b

/-- **A turn of a call that is no drain** starts work in the background, and
leaves the tracker alone otherwise. -/
theorem turn_spawns (b : Bridge) (id : TaskId) {stage : Stage} (hs : stage.drains = false) :
    Spawns b (b.turn id stage).2 := by
  cases stage with
  | fresh c =>
    cases c with
    | openConnection url credentials => exact b.openConnection_spawns id url credentials
    | createSession c => exact b.createSession_spawns id c
    | executeQuery s text => exact b.executeQuery_spawns id s text
    | read h reading => exact b.read_spawns id h reading
    | closeConnection c => exact (b.close_spawns (.connection c)).trans (closed_spawns _)
    | closeSession s => exact (b.close_spawns (.session s)).trans (closed_spawns _)
    | closeReader h => exact b.closeReader_spawns h
    | settle => cases hs
    | shutdown => cases hs
  | connecting url client held => exact (b.resume_spawns id held).trans (connecting_spawns id _ _ _)
  | opening url client held => exact (b.resume_spawns id held).trans (opening_spawns _ _ _)
  | unanswered c =>
    unfold turn
    dsimp only
    split <;> exact .refl b
  | creating c client globalId held =>
    unfold turn
    dsimp only
    split
    · exact .refl b
    · exact (b.resume_spawns id held).trans (creating_spawns _ _ _ _)
  | executing s entry stream held =>
    unfold turn
    dsimp only
    split
    · exact b.dropStream_spawns stream
    · exact (b.resume_spawns id held).trans (executing_spawns _ _ _ _)
  | awaitingTurn h entry reading =>
    unfold turn
    dsimp only
    split
    · exact (b.giveUpLock_spawns id h).trans (endReading_spawns _ _ _ _)
    · exact b.readLocked_spawns id h entry reading
  | awaitingFrame h entry reading =>
    unfold turn
    dsimp only
    split
    · exact (b.leaveLock_spawns h).trans (endReading_spawns _ _ _ _)
    · exact b.nextFrame_spawns id h entry reading
  | draining => cases hs

/-! ## Work in the background -/

theorem endPump_spawns (b : Bridge) (h : ReaderHandle) (stream : Stream) :
    Spawns b (b.endPump h stream).2 :=
  (b.dropStream_spawns stream).trans (changed_spawns _ _ _)

theorem pump_spawns (b : Bridge) (id : TaskId) (h : ReaderHandle) (entry : Reader)
    (stream : Stream) (inHand : Option Frame) : Spawns b (b.pump id h entry stream inHand).2 := by
  unfold pump
  split
  · exact b.endPump_spawns h stream
  · cases inHand with
    | none =>
      dsimp only
      split
      · rename_i f stream' s hnext
        exact .withService b (Nat.le_of_eq (Service.nextFrame?_clients hnext).symm)
      · cases stream <;> exact .withService b (Nat.le_refl _)
    | some f =>
      dsimp only
      split
      · exact b.endPump_spawns h stream
      · split
        · exact .withRegistry b _
        · split
          · exact (b.changed_spawns _ _).trans (endPump_spawns _ h stream)
          · exact b.changed_spawns _ _

theorem sayNext_spawns (b : Bridge) (id : TaskId) (client : ClientId) (left : List RemoteClose) :
    Spawns b (b.sayNext id client left).2 := by
  cases left with
  | nil => exact .refl b
  | cons c left =>
    have hcalled := b.call_spawns (some client) c.call
    unfold sayNext
    dsimp only
    generalize b.call (some client) c.call = p at hcalled ⊢
    obtain ⟨refusal, b₁⟩ := p
    cases refusal with
    | some message => exact hcalled
    | none =>
      have hpassed := hcalled.trans (b₁.passHooks_spawns id c.call.point)
      dsimp only
      generalize b₁.passHooks id c.call.point = p at hpassed ⊢
      obtain ⟨course, b₂⟩ := p
      cases course <;> exact hpassed

theorem farewell_spawns (b : Bridge) (id : TaskId) (client : ClientId) (held : Option Held)
    (left : List RemoteClose) : Spawns b (b.farewell id client held left).2 := by
  cases held with
  | none => exact b.sayNext_spawns id client left
  | some held =>
    have hresumed := b.resume_spawns id held
    unfold farewell
    dsimp only
    generalize b.resume id held = p at hresumed ⊢
    obtain ⟨course, b₁⟩ := p
    cases course with
    | held held => exact hresumed
    | refused message => exact hresumed.trans (b₁.sayNext_spawns id client left)
    | returned => exact hresumed.trans (b₁.sayNext_spawns id client left)

/-! ## Other events -/

theorem feed_spawns (n : Nat) (frames : List Frame) (b : Bridge) :
    Spawns b (b.feed n frames).2 := by
  induction frames generalizing b with
  | nil => exact .refl b
  | cons f fs ih =>
    have hfed : Spawns b (b.withService (b.service.feed n f).2.2) :=
      .withService b (Nat.le_of_eq (b.service.feed_clients n f).symm)
    exact hfed.trans ((wakeAll_spawns _ _).trans (ih _))

theorem withRuntime_spawns (b : Bridge) (available : Bool) :
    Spawns b (b.withRuntime available) :=
  .of_eq rfl rfl rfl (fun _ h => h) (Nat.le_refl _)

theorem far_spawns (b : Bridge) (act : FarAct) : Spawns b (b.far act) := by
  cases act with
  | refuse p message => exact .withService b (Nat.le_refl _)
  | plan p hooks => exact .withService b (Nat.le_refl _)
  | script text script => cases script <;> exact .withService b (Nat.le_refl _)
  | release gate =>
    have hopen : Spawns b (b.withService (b.service.release gate).2) :=
      .withService b (Nat.le_refl _)
    exact hopen.trans (wakeAll_spawns _ _)
  | feed n frames => exact feed_spawns n frames b
  | endFeed n =>
    have hended : Spawns b (b.withService (b.service.endFeed n).2) := .withService b (Nat.le_refl _)
    exact hended.trans (wakeAll_spawns _ _)

/-- What a call gives up that is no drain. -/
theorem release_spawns (b : Bridge) (id : TaskId) {stage : Stage} (hs : stage ≠ .draining) :
    Spawns b (b.release id stage) := by
  unfold release
  split
  · split
    · exact b.closeReader_spawns _
    · exact .refl b
  · exact b.dropStream_spawns _
  · dsimp only
    split
    · exact (b.giveUpLock_spawns id _).trans (closeReader_spawns _ _)
    · exact b.giveUpLock_spawns id _
  · dsimp only
    split
    · exact (b.giveUpLock_spawns id _).trans (closeReader_spawns _ _)
    · exact b.giveUpLock_spawns id _
  · exact absurd rfl hs
  all_goals exact .refl b

end Bridge

end QueryBridge
