import QueryBridge.Proofs.Bridge.Recasting

/-!
# Calls on bridges recast

A call takes its turns on a bridge recast as it does on the bridge. A frame that a
reader holds back in one of them and has in its channel in the other is read in
the same turn.

* `Recast.Of.nextFrame`, `Recast.Of.takeAvailable`: the frames of a reader.
* `Recast.Of.turned`, `Recast.Of.pollCall`: a turn of a call.
-/

namespace QueryBridge

/-- Nothing is held back where all that is there was taken. -/
theorem Bridge.takeFrames_held (b : Bridge) (h : ReaderHandle) (rest : List Frame) :
    ((b.takeFrames h none rest).registry.reader h).held = none := by
  unfold takeFrames
  dsimp only
  rw [wakeAll_registry]
  rcases Registry.reader_modify_self b.registry h _ with hs | hs <;>
    exact congrArg ReaderStatus.held hs

namespace Recast

variable {g : Recast} {me : Option TaskId} {b b' : Bridge}

namespace Of

section

variable (ho : g.Of me b b')
include ho

/-! ## Creating -/

theorem fail (f : Failure) : g.Both me (b.fail f) (b'.fail f) := ⟨rfl, ho⟩

theorem reply (r : Reply) : g.Both me (b.reply r) (b'.reply r) := ⟨rfl, ho⟩

theorem register (url : Url) (client : ClientId) :
    g.Both me (b.register url client) (b'.register url client) := by
  unfold Bridge.register
  rw [ho.registry, Registry.recast_addConnection]
  cases ha : b.registry.addConnection ⟨url, client⟩ with
  | error f => exact (ho.sayFarewell _ _).fail f
  | ok p => exact (ho.withRegistry rfl (.addConnection ha)).reply _

theorem adopt (c : ConnectionHandle) (client : ClientId) (globalId : GlobalSessionId) :
    g.Both me (b.adopt c client globalId) (b'.adopt c client globalId) := by
  unfold Bridge.adopt
  rw [ho.registry, Registry.recast_addSession]
  refine .ite Iff.rfl ?_ ((ho.sayFarewell _ _).fail _)
  cases ha : b.registry.addSession ⟨c, globalId, client⟩ with
  | error f => exact (ho.sayFarewell _ _).fail f
  | ok p => exact (ho.withRegistry rfl (.addSession ha)).reply _

theorem attach (s : SessionHandle) (e : Session) (stream : Stream) :
    g.Both me (b.attach s e stream) (b'.attach s e stream) := by
  unfold Bridge.attach
  rw [ho.config]
  cases hch : Channel.ofCapacity? (max b.config.chunkBuffer.toNat 1) with
  | none => exact ⟨rfl, ho.dropStream stream⟩
  | some ch =>
    obtain ⟨hroom, hframe⟩ : ch.roomWaiter = none ∧ ch.frameWaiter = none := by
      unfold Channel.ofCapacity? at hch
      split at hch
      · obtain rfl := Option.some.inj hch
        exact ⟨rfl, rfl⟩
      · cases hch
    dsimp only
    rw [ho.registry, Registry.recast_addReader g b.registry _ hroom hframe]
    refine .ite Iff.rfl ?_ ((ho.dropStream stream).fail _)
    cases ha : b.registry.addReader ⟨s, e.connection⟩ ch with
    | error f => exact (ho.dropStream stream).fail f
    | ok p =>
      obtain ⟨t, hal, -⟩ := addReader_eq_ok ha
      refine ((ho.withRegistry rfl (.addReader hroom hframe ha)).spawnOn
        fun h hp hpump => ?_).reply _
      -- the reader is new, so it is not the one that is parked
      refine HandleTable.ne_of_issued hal (ho.parked h hp).1 ?_
      exact (Option.some.inj hpump).symm

end

/-- Both bridges after an accepted call, which has come equally far. -/
theorem opening {p p' : Bridge.Course × Bridge} (hp : g.Both me p p') (url : Url)
    (client : ClientId) :
    g.Both me (Bridge.opening url client p) (Bridge.opening url client p') := by
  obtain ⟨course, b, b', rfl, rfl, ho⟩ := hp.cases
  cases course with
  | held held => exact ⟨rfl, ho⟩
  | refused message => exact ho.fail _
  | returned => exact ho.register url client

theorem openRemote {id : TaskId} (ho : g.Of (some id) b b') (url : Url) (client : ClientId) :
    g.Both (some id) (b.openRemote id url client) (b'.openRemote (g.id id) url client) := by
  obtain ⟨refusal, b₁, b₁', h₁, h₁', hcall⟩ := (ho.call (some client) .openConnection).cases
  unfold Bridge.openRemote
  rw [h₁, h₁']
  cases refusal with
  | some message => exact hcall.fail _
  | none => exact opening (hcall.passHooks _) url client

theorem connecting {p p' : Bridge.Course × Bridge} {id : TaskId} (hp : g.Both (some id) p p')
    (url : Url) (client : ClientId) :
    g.Both (some id) (Bridge.connecting id url client p)
      (Bridge.connecting (g.id id) url client p') := by
  obtain ⟨course, b, b', rfl, rfl, ho⟩ := hp.cases
  cases course with
  | held held => exact ⟨rfl, ho⟩
  | refused message => exact ho.fail _
  | returned => exact ho.openRemote url client

theorem openConnection {id : TaskId} (ho : g.Of (some id) b b') (text : String)
    (credentials : Option Credentials) :
    g.Both (some id) (b.openConnection id text credentials)
      (b'.openConnection (g.id id) text credentials) := by
  unfold Bridge.openConnection
  cases Url.ofService text with
  | error f => exact ho.fail f
  | ok url =>
    obtain ⟨refusal, b₁, b₁', h₁, h₁', hcall⟩ :=
      (ho.call none (.createClient ⟨url, credentials⟩)).cases
    dsimp only
    rw [h₁, h₁']
    cases refusal with
    | some message => exact hcall.fail _
    | none =>
      have hclient : b₁'.service.newClient =
          (b₁.service.newClient.1, b₁.service.newClient.2.rename g.id) := by
        rw [hcall.service]
        rfl
      dsimp only
      rw [hclient]
      exact connecting ((hcall.withService rfl hcall.numbered.service.newClient).passHooks _) url _

theorem creating {p p' : Bridge.Course × Bridge} (hp : g.Both me p p') (c : ConnectionHandle)
    (client : ClientId) (globalId : GlobalSessionId) :
    g.Both me (Bridge.creating c client globalId p) (Bridge.creating c client globalId p') := by
  obtain ⟨course, b, b', rfl, rfl, ho⟩ := hp.cases
  cases course with
  | held held => exact ⟨rfl, ho⟩
  | refused message => exact ho.fail _
  | returned => exact ho.adopt c client globalId

theorem createSession {id : TaskId} (ho : g.Of (some id) b b') (c : ConnectionHandle) :
    g.Both (some id) (b.createSession id c) (b'.createSession (g.id id) c) := by
  have hopen : b'.registry.openConnection c = b.registry.openConnection c := by
    rw [ho.registry]
    rfl
  unfold Bridge.createSession
  rw [hopen, ho.isCancelled]
  cases b.registry.openConnection c with
  | error f => exact ho.fail f
  | ok e =>
    refine .ite Iff.rfl (ho.fail _) ?_
    obtain ⟨refusal, b₁, b₁', h₁, h₁', hcall⟩ := (ho.call (some e.client) .createSession).cases
    rw [h₁, h₁']
    cases refusal with
    | some message => exact hcall.fail _
    | none =>
      dsimp only
      rw [hcall.service, Service.rename_nextSessionId]
      refine .ite Iff.rfl ⟨rfl, hcall⟩ ?_
      exact creating
        ((hcall.withService rfl hcall.numbered.service.nextSessionId).passHooks _) c _ _

theorem executing {p p' : Bridge.Course × Bridge} (hp : g.Both me p p') (s : SessionHandle)
    (e : Session) (stream : Stream) :
    g.Both me (Bridge.executing s e stream p) (Bridge.executing s e stream p') := by
  obtain ⟨course, b, b', rfl, rfl, ho⟩ := hp.cases
  cases course with
  | held held => exact ⟨rfl, ho⟩
  | refused message => exact (ho.dropStream stream).fail _
  | returned => exact ho.attach s e stream

theorem executeQuery {id : TaskId} (ho : g.Of (some id) b b') (s : SessionHandle) (text : String) :
    g.Both (some id) (b.executeQuery id s text) (b'.executeQuery (g.id id) s text) := by
  have hopen : b'.registry.openSession s = b.registry.openSession s := by
    rw [ho.registry]
    rfl
  unfold Bridge.executeQuery
  rw [hopen]
  cases b.registry.openSession s with
  | error f => exact ho.fail f
  | ok e =>
    dsimp only
    rw [ho.hasRuntime, ho.isCancelled]
    refine .ite Iff.rfl (ho.fail _) (.ite Iff.rfl (ho.fail _) ?_)
    obtain ⟨refusal, b₁, b₁', h₁, h₁', hcall⟩ :=
      (ho.call (some e.client) (.executeQuery e.globalId text)).cases
    rw [h₁, h₁']
    cases refusal with
    | some message => exact hcall.fail _
    | none =>
      dsimp only
      rw [hcall.service, Service.rename_takeStream]
      exact executing
        ((hcall.withService rfl (hcall.numbered.service.takeStream text)).passHooks _) s e _

/-! ## Reading -/

/-- Whoever has or wants the lock of a reader changes. -/
theorem modifyLock (ho : g.Of me b b') (h : ReaderHandle) (F F' : Turnstile → Turnstile)
    (hF : ∀ t, F' (t.rename g.id) = (F t).rename g.id)
    (hn : ∀ f t, Keeps f b.nextTask → F (t.rename f) = (F t).rename f) :
    g.Of me (b.modifyReader h fun s => { s with lock := F s.lock })
      (b'.modifyReader h fun s => { s with lock := F' s.lock }) := by
  refine ho.modifyReader ?_ (fun hb f hf => ?_) fun _ hp => ⟨hp.buffer, hp.roomWaiter, hp.held⟩
  · unfold Recast.status ReaderStatus.park ReaderStatus.rename
    split <;> dsimp only <;> rw [hF]
  · have hs := congrArg (fun s : ReaderStatus => { s with lock := F s.lock }) (hb f hf)
    dsimp only [ReaderStatus.rename] at hs ⊢
    rwa [hn f _ hf] at hs

theorem leaveLock (ho : g.Of me b b') (h : ReaderHandle) :
    g.Of me (b.leaveLock h) (b'.leaveLock h) := by
  have hleft := ho.modifyLock h .leave .leave (Turnstile.rename_leave g.id)
    fun f t _ => t.rename_leave f
  have hholder := congrArg (fun s => s.lock.holder) (hleft.reader_eq h)
  unfold Bridge.leaveLock
  dsimp only at hholder ⊢
  rw [hholder, status_lock]
  exact hleft.wakeOne _

theorem holder_iff (ho : g.Of me b b') (h : ReaderHandle) (id : TaskId) :
    (b'.registry.reader h).lock.holder = some (g.id id) ↔
      (b.registry.reader h).lock.holder = some id := by
  rw [ho.reader_eq, status_lock]
  exact Option.map_injective g.id_injective |>.eq_iff (b := some id)

theorem giveUpLock {id : TaskId} (ho : g.Of (some id) b b') (h : ReaderHandle) :
    g.Of (some id) (b.giveUpLock id h) (b'.giveUpLock (g.id id) h) := by
  unfold Bridge.giveUpLock
  by_cases hk : (b.registry.reader h).lock.holder = some id
  · rw [if_pos hk, if_pos ((ho.holder_iff h id).2 hk)]
    exact ho.leaveLock h
  · rw [if_neg hk, if_neg fun h' => hk ((ho.holder_iff h id).1 h')]
    refine ho.modifyLock h (·.forget id) (·.forget (g.id id))
      (fun t => t.rename_forget id g.id_injective) fun f t hf => ?_
    have hforget := t.rename_forget id hf.injective
    rwa [hf.keeps id (ho.turn id rfl)] at hforget

theorem endReading (ho : g.Of me b b') (h : ReaderHandle) (reading : Reading) (o : Outcome) :
    g.Both me (b.endReading h reading o) (b'.endReading h reading o) := by
  unfold Bridge.endReading
  refine ⟨rfl, ?_⟩
  dsimp only
  split
  · exact ho.closeReader h
  · exact ho

theorem readChunk (ho : g.Of me b b') (h : ReaderHandle) (reading : Reading) (c : Bytes) :
    g.Both me (b.readChunk h reading c) (b'.readChunk h reading c) := by
  unfold Bridge.readChunk
  cases reading.after c <;> exact ⟨rfl, ho⟩

theorem readClosed (ho : g.Of me b b') (h : ReaderHandle) (reading : Reading) :
    g.Both me (b.readClosed h reading) (b'.readClosed h reading) := ho.endReading h reading _

theorem readEnd (ho : g.Of me b b') (h : ReaderHandle) (reading : Reading) :
    g.Both me (b.readEnd h reading) (b'.readEnd h reading) := ho.endReading h reading _

/-- Of a reader at the end of its stream nothing is held back. -/
theorem exhaust (ho : g.Of me b b') {h : ReaderHandle} (e : Reader)
    (hheld : g.parked = some h → (b.registry.reader h).held = none) :
    g.Of me (b.withRegistry (b.registry.exhaust h e)) (b'.withRegistry (b'.registry.exhaust h e)) :=
  { ho with
    eq := by
      rw [ho.eq]
      show { b.recast g with registry := (b.registry.recast g).exhaust h e } = _
      rw [Registry.recast_exhaust g b.registry e hheld]
      rfl
    numbered := { ho.numbered with
      readers := fun x => by
        show ((b.registry.exhaust h e).reader x).Below b.nextTask
        rw [Registry.exhaust_reader]
        exact Registry.reader_modify_imp (P := ReaderStatus.Below b.nextTask) b.registry h
          (fun hb => hb.of_comm (F := Registry.spent) fun _ => rfl) x (ho.numbered.readers x) }
    parked := fun x hx => by
      obtain ⟨hi, hst⟩ := ho.parked x hx
      refine ⟨?_, ?_⟩
      · show (b.registry.exhaust h e).readers.Issued x
        unfold Registry.exhaust
        dsimp only
        split <;> exact hi
      · show ((b.registry.exhaust h e).reader x).Parked
        rw [Registry.exhaust_reader]
        by_cases hxh : x = h
        · subst hxh
          refine Registry.reader_modify_imp (P := ReaderStatus.Parked) b.registry x ?_ x hst
          refine fun _ => ⟨rfl, rfl, fun f hf => ?_⟩
          cases (hheld hx).symm.trans hf
        · rwa [Registry.reader_modify_of_ne _ _ hxh] }

theorem deliver (ho : g.Of me b b') (h : ReaderHandle) (e : Reader) (reading : Reading) (f : Frame)
    (hheld : g.parked = some h → (b.registry.reader h).held = none) :
    g.Both me (b.deliver h e reading f) (b'.deliver h e reading f) := by
  cases f with
  | data c => exact (ho.leaveLock h).readChunk h reading c
  | finish => exact ((ho.exhaust e hheld).leaveLock h).readEnd h reading
  | failure message => exact ((ho.closeReader h).leaveLock h).endReading h reading _

/-- Where nothing is held back, the frames are at the same place. -/
theorem frames_eq (ho : g.Of me b b') {h : ReaderHandle}
    (hheld : g.parked = some h → (b.registry.reader h).held = none) :
    (b'.registry.reader h).held = (b.registry.reader h).held ∧
      (b'.registry.reader h).channel.buffer = (b.registry.reader h).channel.buffer := by
  rw [ho.reader_eq]
  unfold Recast.status
  split
  · rename_i hp
    simp [ReaderStatus.park, ReaderStatus.rename, Channel.rename, hheld hp]
  · exact ⟨rfl, rfl⟩

/-- **The next frame** of a reader of which nothing is held back in one bridge alone. -/
theorem nextFrame_same {id : TaskId} (ho : g.Of (some id) b b') {h : ReaderHandle} {e : Reader}
    (hheld : g.parked = some h → (b.registry.reader h).held = none) (reading : Reading) :
    g.Both (some id) (b.nextFrame id h e reading) (b'.nextFrame (g.id id) h e reading) := by
  obtain ⟨hsame, hbuffer⟩ := ho.frames_eq hheld
  have hroom : (b'.registry.reader h).channel.roomWaiter =
      (b.registry.reader h).channel.roomWaiter.map g.id := by
    rw [ho.reader_eq, status_roomWaiter]
  have hfed : (b'.registry.reader h).channel.isFed = (b.registry.reader h).channel.isFed := by
    rw [ho.reader_eq, status_isFed]
  unfold Bridge.nextFrame
  dsimp only
  rw [hsame, ho.isReceiving, ho.isCancelled, hbuffer, hroom, hfed]
  cases hf : (b.registry.reader h).held with
  | some f =>
    have hp : g.parked ≠ some h := fun hp => by
      cases (hheld hp).symm.trans hf
    refine (ho.modifyStatus ?_ (fun _ _ => rfl) fun h' => absurd h' hp).deliver h e reading f
      fun h' => absurd h' hp
    rw [g.status_of_not_parked h _ hp, g.status_of_not_parked h _ hp]
    rfl
  | none =>
    refine .ite Iff.rfl (ho.deliver h e reading _ hheld) (.ite Iff.rfl
      ((ho.leaveLock h).readClosed h reading) ?_)
    cases hb : (b.registry.reader h).channel.buffer with
    | cons f rest =>
      have hp : g.parked ≠ some h := fun hp => by
        cases (ho.parked h hp).2.buffer.symm.trans hb
      refine ((ho.modifyStatus ?_ (fun _ _ => rfl) fun h' => absurd h' hp).wakeOne _).deliver h e
        reading f fun h' => absurd h' hp
      rw [g.status_of_not_parked h _ hp, g.status_of_not_parked h _ hp]
      rfl
    | nil =>
      refine .ite Iff.rfl ⟨rfl, ho.modifyReader ?_ (·.awaitFrame (ho.turn id rfl)) fun _ hp => ?_⟩
        ((ho.leaveLock h).readClosed h reading)
      · unfold Recast.status
        split <;> rfl
      · exact ⟨hp.buffer, hp.roomWaiter, hp.held⟩

/-- **The frame held back** in one bridge is the only one in the channel in the other. -/
theorem nextFrame_parked {id : TaskId} (ho : g.Of (some id) b b') {h : ReaderHandle} {e : Reader}
    (hc : b.registry.isCancelled (e.scope h) = false) (hp : g.parked = some h) {f : Frame}
    (hf : (b.registry.reader h).held = some f) (reading : Reading) :
    g.Both (some id) (b.nextFrame id h e reading) (b'.nextFrame (g.id id) h e reading) := by
  have hst := (ho.parked h hp).2
  have hreceiving := (hst.held f hf).2
  have hstatus : b'.registry.reader h = ((b.registry.reader h).rename g.id).park := by
    rw [ho.reader_eq, g.status_of_parked h _ hp]
  have hheld' : (b'.registry.reader h).held = none := by rw [hstatus]; rfl
  have hbuffer : (b'.registry.reader h).channel.buffer = [f] := by
    rw [hstatus]
    show (b.registry.reader h).held.toList ++ (b.registry.reader h).channel.buffer = [f]
    rw [hf, hst.buffer]
    rfl
  have hroom : (b'.registry.reader h).channel.roomWaiter = none := by
    rw [ho.reader_eq, status_roomWaiter, hst.roomWaiter]
    rfl
  have htaken : g.Of (some id) (b.modifyReader h fun s => { s with held := none })
      (b'.modifyReader h fun s =>
        { s with channel := { s.channel with buffer := [], roomWaiter := none } }) := by
    refine ho.modifyStatus ?_ (fun _ _ => rfl) fun _ hp => ⟨hp.buffer, hp.roomWaiter, nofun⟩
    rw [g.status_of_parked h _ hp, g.status_of_parked h _ hp]
    simp [ReaderStatus.park, ReaderStatus.rename, Channel.rename, hst.buffer, hst.roomWaiter]
  unfold Bridge.nextFrame
  dsimp only
  rw [hf, hheld', ho.isReceiving, hreceiving, ho.isCancelled, hc, hbuffer, hroom]
  refine htaken.deliver h e reading f fun _ => ?_
  have := Registry.reader_modify_of_receiving b.registry
    (fun s => { s with held := none }) hreceiving
  exact congrArg ReaderStatus.held this

/-- **The next frame** of a reader that is not cancelled. -/
theorem nextFrame {id : TaskId} (ho : g.Of (some id) b b') {h : ReaderHandle} {e : Reader}
    (hc : b.registry.isCancelled (e.scope h) = false) (reading : Reading) :
    g.Both (some id) (b.nextFrame id h e reading) (b'.nextFrame (g.id id) h e reading) := by
  by_cases hheld : g.parked = some h → (b.registry.reader h).held = none
  · exact ho.nextFrame_same hheld reading
  · obtain ⟨hp, hsome⟩ := Classical.not_imp.1 hheld
    obtain ⟨f, hf⟩ := Option.ne_none_iff_exists'.1 hsome
    exact ho.nextFrame_parked hc hp hf reading

/-- Frames are taken off a reader. Nothing is left of one that has nothing in its channel. -/
theorem takeFrames (ho : g.Of me b b') (h : ReaderHandle) (held : Option Frame) (rest : List Frame)
    (hp : g.parked = some h → held = none ∧ rest = []) :
    g.Of me (b.takeFrames h held rest) (b'.takeFrames h held rest) := by
  by_cases hpark : g.parked = some h
  · obtain ⟨rfl, rfl⟩ := hp hpark
    have hroom := (ho.parked h hpark).2.roomWaiter
    have hroom' : (b'.registry.reader h).channel.roomWaiter = none := by
      rw [ho.reader_eq, status_roomWaiter, hroom]
      rfl
    unfold Bridge.takeFrames
    dsimp only
    rw [hroom, hroom', ite_self, ite_self]
    refine ho.modifyStatus ?_ (fun _ _ => rfl) fun _ hst => ⟨rfl, hst.roomWaiter, nofun⟩
    rw [g.status_of_parked h _ hpark, g.status_of_parked h _ hpark]
    rfl
  · have hstatus : b'.registry.reader h = (b.registry.reader h).rename g.id := by
      rw [ho.reader_eq, g.status_of_not_parked h _ hpark]
    have hwaiter : (if rest.length < (b'.registry.reader h).channel.buffer.length then
          (b'.registry.reader h).channel.roomWaiter else none) =
        (if rest.length < (b.registry.reader h).channel.buffer.length then
          (b.registry.reader h).channel.roomWaiter else none).map g.id := by
      rw [hstatus]
      show (if rest.length < (b.registry.reader h).channel.buffer.length then _ else _) = _
      split <;> rfl
    unfold Bridge.takeFrames
    dsimp only
    rw [hwaiter]
    refine wakeOne (ho.modifyStatus ?_ (fun f s => ?_) fun h' => absurd h' hpark) _
    rotate_left
    · simp only [ReaderStatus.rename, Channel.rename, apply_ite (Option.map f), Option.map_none]
    rw [g.status_of_not_parked h _ hpark, g.status_of_not_parked h _ hpark, Option.isSome_map]
    simp only [ReaderStatus.rename, Channel.rename, apply_ite (Option.map g.id), Option.map_none]

theorem takeAvailable {id : TaskId} (ho : g.Of (some id) b b') {h : ReaderHandle} {e : Reader}
    (hc : b.registry.isCancelled (e.scope h) = false) :
    g.Both (some id) (b.takeAvailable id h e) (b'.takeAvailable (g.id id) h e) := by
  have hcontents : (b'.registry.reader h).contents = (b.registry.reader h).contents := by
    rw [ho.reader_eq, status_contents]
    exact fun hp => (ho.parked h hp).2
  -- of a reader with an empty channel one frame can be taken at most
  have hone : g.parked = some h → (Channel.takeRun (b.registry.reader h).contents).1 = [] ∧
      (Channel.takeRun (b.registry.reader h).contents).2.tail = [] := by
    intro hp
    have hst := (ho.parked h hp).2
    cases hheld : (b.registry.reader h).held with
    | none => simp [ReaderStatus.contents, hheld, hst.buffer, Channel.takeRun]
    | some f =>
      have hf := (hst.held f hheld).1
      simp [ReaderStatus.contents, hheld, hst.buffer, takeRun_terminal hf]
  unfold Bridge.takeAvailable
  rw [hcontents]
  generalize Channel.takeRun (b.registry.reader h).contents = run at hone
  obtain ⟨chunks, rest⟩ := run
  dsimp only at hone ⊢
  split
  · rename_i rest
    have htaken := ho.takeFrames h none rest fun hp => ⟨rfl, (hone hp).2⟩
    refine ((htaken.exhaust e fun _ => ?_).leaveLock h).reply _
    exact b.takeFrames_held h rest
  · rename_i message rest
    by_cases hchunks : chunks = []
    all_goals simp only [hchunks, if_true, if_false]
    · have htaken := ho.takeFrames h none rest fun hp => ⟨rfl, (hone hp).2⟩
      exact ((htaken.closeReader h).leaveLock h).fail _
    · exact ((ho.takeFrames h _ rest fun hp => absurd (hone hp).1 hchunks).leaveLock h).reply _
  · by_cases hchunks : chunks = []
    · rw [if_pos hchunks, if_pos hchunks]
      exact ho.nextFrame hc .available
    · rw [if_neg hchunks, if_neg hchunks]
      exact ((ho.takeFrames h none rest fun hp => absurd (hone hp).1 hchunks).leaveLock h).reply _

theorem readLocked {id : TaskId} (ho : g.Of (some id) b b') {h : ReaderHandle} {e : Reader}
    (hc : b.registry.isCancelled (e.scope h) = false) (reading : Reading) :
    g.Both (some id) (b.readLocked id h e reading) (b'.readLocked (g.id id) h e reading) := by
  have hstate : (b'.registry.reader h).state = (b.registry.reader h).state := by
    rw [ho.reader_eq, status_state]
  unfold Bridge.readLocked
  dsimp only
  rw [hstate]
  refine .ite (ho.holder_iff h id) ?_ ⟨rfl, ho⟩
  cases (b.registry.reader h).state with
  | exhausted => exact (ho.leaveLock h).readEnd h reading
  | closed => exact (ho.leaveLock h).readClosed h reading
  | active =>
    cases reading with
    | available => exact ho.takeAvailable hc
    | next => exact ho.nextFrame hc .next
    | all taken => exact ho.nextFrame hc (.all taken)
    | upTo limit taken => exact ho.nextFrame hc (.upTo limit taken)

theorem read {id : TaskId} (ho : g.Of (some id) b b') (h : ReaderHandle) (reading : Reading) :
    g.Both (some id) (b.read id h reading) (b'.read (g.id id) h reading) := by
  have hfind : b'.registry.findReader h = b.registry.findReader h := by
    rw [ho.registry]
    rfl
  unfold Bridge.read
  rw [hfind]
  refine .ite Iff.rfl (ho.readEnd h reading) ?_
  cases b.registry.findReader h with
  | error f => exact ho.endReading h reading _
  | ok e? =>
    cases e? with
    | none => exact ho.readEnd h reading
    | some e =>
      dsimp only
      rw [ho.isCancelled]
      by_cases hc : b.registry.isCancelled (e.scope h) = true
      · rw [if_pos hc, if_pos hc]
        exact ho.readClosed h reading
      · rw [if_neg hc, if_neg hc]
        refine (ho.modifyLock h (·.enter id) (·.enter (g.id id))
          (fun t => t.rename_enter g.id id) fun f t hf => ?_).readLocked ?_ reading
        · have henter := t.rename_enter f id
          rwa [hf.keeps id (ho.turn id rfl)] at henter
        exact (Bridge.modifyReader_isCancelled rfl _).trans ((Bool.not_eq_true _).mp hc)

/-! ## Draining -/

theorem endDrain {id : TaskId} (ho : g.Of (some id) b b') :
    g.Both (some id) (b.endDrain id) (b'.endDrain (g.id id)) := by
  refine ⟨rfl, ho.withTracker ?_ (ho.numbered.tracker.forget (ho.turn id rfl)).reopen⟩
  rw [ho.tracker, Tracker.rename_forget g.id_injective]
  rfl

theorem settle {id : TaskId} (ho : g.Of (some id) b b') :
    g.Both (some id) (b.settle id) (b'.settle (g.id id)) := by
  unfold Bridge.settle
  rw [ho.tracker, Tracker.rename_shut]
  have hshut := (ho.withTracker (t := b.tracker.shut.2) rfl ho.numbered.tracker.shut).wakeAll
    b.tracker.shut.1
  dsimp only
  refine .ite (by rw [hshut.tracker]; rfl) hshut.endDrain ⟨rfl, ?_⟩
  refine hshut.withTracker ?_ (hshut.numbered.tracker.await (hshut.turn id rfl))
  rw [hshut.tracker, Tracker.rename_await]

theorem shutdown {id : TaskId} (ho : g.Of (some id) b b') :
    g.Both (some id) (b.shutdown id) (b'.shutdown (g.id id)) := by
  unfold Bridge.shutdown
  rw [ho.registry]
  exact (ho.closeConnections _).settle

theorem drain {id : TaskId} (ho : g.Of (some id) b b') :
    g.Both (some id) (b.drain id) (b'.drain (g.id id)) := by
  have hdrained : (b'.tracker.isDrained || !b'.tracker.waiting.contains (g.id id)) =
      (b.tracker.isDrained || !b.tracker.waiting.contains id) := by
    rw [ho.tracker]
    show (b.tracker.isDrained || !(b.tracker.waiting.map g.id).contains (g.id id)) = _
    rw [contains_map g.id_injective]
  unfold Bridge.drain
  rw [hdrained]
  exact .ite Iff.rfl ho.endDrain ⟨rfl, ho⟩

/-! ## Turns -/

theorem closed {p p' : Except Failure Unit × Bridge} (hp : g.Both me p p') :
    g.Both me (Bridge.closed p) (Bridge.closed p') := by
  obtain ⟨result, b, b', rfl, rfl, ho⟩ := hp.cases
  cases result <;> exact ⟨rfl, ho⟩

theorem begin {id : TaskId} (ho : g.Of (some id) b b') (c : Call) :
    g.Both (some id) (b.begin id c) (b'.begin (g.id id) c) := by
  cases c with
  | openConnection url credentials => exact ho.openConnection url credentials
  | createSession c => exact ho.createSession c
  | executeQuery s text => exact ho.executeQuery s text
  | read h reading => exact ho.read h reading
  | closeConnection c => exact closed (ho.closeConnection c)
  | closeSession s => exact closed (ho.closeSession s)
  | closeReader h => exact (ho.closeReader h).reply _
  | settle => exact ho.settle
  | shutdown => exact ho.shutdown

/-- **A turn of a call.** -/
theorem turned {id : TaskId} (ho : g.Of (some id) b b') (stage : Stage) :
    g.Both (some id) (b.turn id stage) (b'.turn (g.id id) stage) := by
  cases stage with
  | fresh c => exact ho.begin c
  | connecting url client held => exact connecting (ho.resume held) url client
  | opening url client held => exact opening (ho.resume held) url client
  | unanswered c => exact .ite (by rw [ho.isCancelled]) (ho.fail _) ⟨rfl, ho⟩
  | creating c client globalId held =>
    exact .ite (by rw [ho.isCancelled]) (ho.fail _) (creating (ho.resume held) c client globalId)
  | executing s e stream held =>
    exact .ite (by rw [ho.isCancelled]) ((ho.dropStream stream).fail _)
      (executing (ho.resume held) s e stream)
  | awaitingTurn h e reading =>
    unfold Bridge.turn
    dsimp only
    rw [ho.isCancelled]
    split
    · exact (ho.giveUpLock h).readClosed h reading
    · rename_i hc
      exact ho.readLocked (Bool.not_eq_true _ ▸ hc) reading
  | awaitingFrame h e reading =>
    unfold Bridge.turn
    dsimp only
    rw [ho.isCancelled]
    split
    · exact (ho.leaveLock h).readClosed h reading
    · rename_i hc
      exact ho.nextFrame (Bool.not_eq_true _ ▸ hc) reading
  | draining => exact ho.drain

/-- A call waits, unless what it waits below is cancelled. -/
theorem putBack (ho : g.Of me b b') (id : TaskId) (request : Option UInt64) {s s' : Stage}
    (ht : Task.call request s' = g.task id (.call request s)) :
    g.Of me
      (if s.scope?.any (b.setTask id (.call request s)).registry.isCancelled then
        (b.setTask id (.call request s)).wake id else b.setTask id (.call request s))
      (if s'.scope?.any (b'.setTask (g.id id) (.call request s')).registry.isCancelled then
        (b'.setTask (g.id id) (.call request s')).wake (g.id id)
      else b'.setTask (g.id id) (.call request s')) := by
  have hset := ho.setTask id (t := .call request s) ht fun _ _ => nofun
  have hscope : s'.scope? = s.scope? := by
    have h := congrArg Task.scope? ht
    rwa [g.task_scope?] at h
  have hcan : s.scope?.any (b'.setTask (g.id id) (.call request s')).registry.isCancelled =
      s.scope?.any (b.setTask id (.call request s)).registry.isCancelled := by
    cases s.scope? with
    | none => rfl
    | some scope => exact hset.isCancelled scope
  rw [hscope, hcan]
  split
  · exact hset.wake id
  · exact hset

theorem pollCall {id : TaskId} (ho : g.Of (some id) b b') (hid : g.reader ≠ some id)
    (request : Option UInt64) (stage : Stage) :
    g.Both (some id) (b.pollCall id request stage) (b'.pollCall (g.id id) request stage) := by
  obtain ⟨p, b₁, b₁', h₁, h₁', hturn⟩ := (ho.turned stage).cases
  have hsame : ∀ t, t = g.task id t := fun _ => (if_neg hid).symm
  unfold Bridge.pollCall
  rw [h₁, h₁']
  cases p with
  | ends o => exact ⟨rfl, hturn.conclude id⟩
  | waits s => exact ⟨rfl, hturn.putBack id request (hsame _)⟩
  | goesOn s =>
    exact ⟨rfl, (hturn.setTask id (t := .call request s) (hsame _) fun _ _ => nofun).goOn⟩

end Of

end Recast

end QueryBridge
