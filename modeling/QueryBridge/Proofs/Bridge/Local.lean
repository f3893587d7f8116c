import QueryBridge.Proofs.Bridge.Readings
import QueryBridge.Proofs.Registry.Patches

/-!
# Readings are local

What a turn of a reading answers, and what it does to the resources, is told by
the status of its reader alone, as long as the reader is live. It is a patch at
the place of that reader.

* `Registry.Patch.reading`: the patch of a turn of a reading.
* `LocalTurn`: a turn that the status of one reader tells.
* `turn_local`: every turn of a reading is one, unless it closes its reader in the end.
-/

namespace QueryBridge

variable {r r' : Registry} {b b' b'' : Bridge} {h : ReaderHandle} {e : Reader}
  {s st : ReaderStatus} {id : TaskId}

/-! ## What becomes of a reader -/

/-- What becomes of a live reader in a turn of a reading. -/
inductive ReaderFate
  | stays
  /-- It has met the end of its stream. -/
  | ends
  /-- It has met the failure of its stream. -/
  | goes
deriving DecidableEq

/-- The patch of a turn of a reading: what becomes of the reader, and its status afterwards. -/
def Registry.Patch.reading (h : ReaderHandle) (e : Reader) (fate : ReaderFate)
    (st : ReaderStatus) : Registry.Patch where
  connections _ := False
  sessions _ := False
  readers x := x = h ∧ fate ≠ .stays
  markers _ := False
  ended s := if s = e.session ∧ fate = .ends then [h] else []
  status x s := if x = h then st else s

theorem Registry.Patch.reading_within (he : r.readers.get? h = some e) (fate : ReaderFate)
    (st : ReaderStatus) : (Patch.reading h e fate st).Within r (e.scope h) where
  connections _ := False.elim
  sessions _ := False.elim
  readers := by
    rintro x ⟨rfl, -⟩
    exact ⟨e, he, decide_eq_true rfl⟩
  markers _ := False.elim
  ended s x hx := by
    obtain ⟨⟨hs, -⟩, hx⟩ := List.mem_ite_nil_right.1 hx
    obtain rfl := List.mem_singleton.1 hx
    exact ⟨e, he, hs.symm, rfl⟩
  status x := by
    by_cases hx : x = h
    · exact .inr ⟨e, hx ▸ he, decide_eq_true hx⟩
    · exact .inl (funext fun s => if_neg hx)

/-- A reader whose status is not the one of no reader has a status to change. -/
theorem Registry.reader_modify_of_ne_default (r : Registry) {h : ReaderHandle}
    (f : ReaderStatus → ReaderStatus) (hh : r.reader h ≠ default) :
    (r.modifyReader h f).reader h = f (r.reader h) := by
  unfold reader at hh ⊢
  simp only [modifyReader, HandleMap.get?_modify]
  cases hg : r.readerStatus.get? h with
  | none => simp [hg] at hh
  | some a => simp

namespace Patched

variable {fate : ReaderFate} {f : ReaderStatus → ReaderStatus}

/-- Nothing has changed. -/
theorem refl (r : Registry) (h : ReaderHandle) (e : Reader) :
    Patched r r (.reading h e .stays (r.reader h)) := by
  constructor <;> intros <;> simp [Registry.Patch.reading]
  intro hx
  rw [hx]

/-- The status of the reader may change before. -/
theorem of_modify (hp : Patched (r.modifyReader h f) r' (.reading h e fate st)) :
    Patched r r' (.reading h e fate st) :=
  { hp with
    reader := fun x => by
      rw [hp.reader]
      by_cases hx : x = h
      · simp [Registry.Patch.reading, hx]
      · simp [Registry.Patch.reading, hx, Registry.reader_modify_of_ne] }

/-- The status of the reader may change afterwards. -/
theorem modify (hp : Patched r r' (.reading h e fate st)) (hst : st ≠ default) :
    Patched r (r'.modifyReader h f) (.reading h e fate (f st)) :=
  { hp with
    reader := fun x => by
      have hreader : r'.reader h = st := by rw [hp.reader]; simp [Registry.Patch.reading]
      by_cases hx : x = h
      · rw [hx, r'.reader_modify_of_ne_default f (by rwa [hreader]), hreader]
        simp [Registry.Patch.reading]
      · rw [Registry.reader_modify_of_ne _ _ hx, hp.reader]
        simp [Registry.Patch.reading, hx] }

end Patched

/-- The status of a live reader when the end of its stream is met. -/
def ReaderStatus.ended (s : ReaderStatus) : ReaderStatus :=
  { s with
    isReceiving := false
    channel := { s.channel with buffer := [], roomWaiter := none }
    state := .exhausted }

/-- The status of a live reader when it is closed. -/
def ReaderStatus.closed (s : ReaderStatus) : ReaderStatus :=
  { s with state := .closed, isCancelled := true }

/-- The end of a stream is a patch. -/
theorem Ended.patched (h₁ : Ended r r' h e) (hr : RegistryOK r) (he : r.readers.get? h = some e) :
    Patched r r' (.reading h e .ends (r.reader h).ended) where
  connNext := by rw [h₁.connections]
  sessNext := by rw [h₁.sessions]
  readNext := h₁.readNext
  connections c := by simp [h₁.connections, Registry.Patch.reading]
  sessions s := by simp [h₁.sessions, Registry.Patch.reading]
  readers x := by simp [h₁.readers, Registry.Patch.reading]
  exhausted x := by
    rw [h₁.exhausted]
    simp [Registry.Patch.reading]
  connection c := by simp [h₁.connection, Registry.Patch.reading]
  session s := by
    rw [h₁.session]
    by_cases hs : s = e.session
    · simp [Registry.Patch.reading, hs]
    -- no other session has listed it
    · have hother : ∀ x ∈ (r.session s).readers, x ≠ h := by
        rintro x hx rfl
        exact hs (hr.session_of_listed hx he).symm
      have hfilter : (r.session s).readers.filter (fun x => !decide (x = h)) =
          (r.session s).readers := List.filter_eq_self.2 fun x hx => by simp [hother x hx]
      simp [Registry.Patch.reading, hs, hfilter]
  reader x := by
    rw [h₁.reader]
    by_cases hx : x = h <;> simp [Registry.Patch.reading, ReaderStatus.ended, hx]

/-- The close of a live reader is a patch. -/
theorem closeReader_patched (hr : RegistryOK r) (he : r.readers.get? h = some e) :
    Patched r (r.closeReader h).2 (.reading h e .goes (r.reader h).closed) := by
  have hp := (closeReader_pruned hr he).2
  refine ⟨hp.connNext, hp.sessNext, hp.readNext, fun c => ?_, fun s => ?_, fun x => ?_,
    fun x => ?_, fun c => ?_, fun s => ?_, fun x => ?_⟩
  · simp [hp.connections, Registry.Patch.reading]
  · simp [hp.sessions, Registry.Patch.reading]
  · simp [hp.readers, Registry.Patch.reading]
  · simp [hp.exhausted, Registry.Patch.reading, Registry.MarkerIn]
  · simp [hp.connection, Registry.Patch.reading]
  · simp [hp.session, Registry.Patch.reading]
  · rw [hp.reader]
    by_cases hx : x = h <;> simp [Registry.Patch.reading, ReaderStatus.closed, hx]

/-! ## Turns that one reader tells -/

/-- Only the resources and the queue have changed. -/
structure Bridge.Calm (b b' : Bridge) : Prop where
  config : b'.config = b.config
  hasRuntime : b'.hasRuntime = b.hasRuntime
  service : b'.service = b.service
  tracker : b'.tracker = b.tracker
  tasks : b'.tasks = b.tasks
  nextTask : b'.nextTask = b.nextTask

namespace Bridge

theorem Calm.trans (h : b.Calm b') (h' : b'.Calm b'') : b.Calm b'' :=
  ⟨h'.config.trans h.config, h'.hasRuntime.trans h.hasRuntime, h'.service.trans h.service,
    h'.tracker.trans h.tracker, h'.tasks.trans h.tasks, h'.nextTask.trans h.nextTask⟩

theorem withRegistry_calm (b : Bridge) (r : Registry) : b.Calm (b.withRegistry r) :=
  ⟨rfl, rfl, rfl, rfl, rfl, rfl⟩

theorem wakeAll_calm (ids : List TaskId) (b : Bridge) : b.Calm (b.wakeAll ids) := by
  induction ids generalizing b with
  | nil => exact ⟨rfl, rfl, rfl, rfl, rfl, rfl⟩
  | cons id ids ih =>
    have hwake : b.Calm (b.wake id) := by
      unfold wake
      split <;> exact ⟨rfl, rfl, rfl, rfl, rfl, rfl⟩
    exact hwake.trans (ih _)

theorem wakeWithin_calm (b : Bridge) (P : Scope) : b.Calm (b.wakeWithin P) := wakeAll_calm _ _

theorem leaveLock_calm (b : Bridge) (h : ReaderHandle) : b.Calm (b.leaveLock h) :=
  (b.withRegistry_calm _).trans (wakeAll_calm _ _)

theorem closeReader_calm (b : Bridge) (h : ReaderHandle) : b.Calm (b.closeReader h) := by
  unfold closeReader
  split
  · exact (b.withRegistry_calm _).trans (wakeAll_calm _ _)
  · exact b.withRegistry_calm _

theorem leaveLock_registry (b : Bridge) (h : ReaderHandle) :
    (b.leaveLock h).registry =
      b.registry.modifyReader h fun s => { s with lock := s.lock.leave } := by
  unfold leaveLock
  dsimp only
  rw [wakeAll_registry]
  rfl

/-- The reader is live, and has the status. -/
structure HasReader (b : Bridge) (h : ReaderHandle) (e : Reader) (s : ReaderStatus) : Prop where
  ok : RegistryOK b.registry
  live : b.registry.readers.get? h = some e
  status : b.registry.reader h = s

theorem HasReader.active (hb : b.HasReader h e s) : s.state = .active :=
  hb.status ▸ (hb.ok.active h).2 ⟨e, hb.live⟩

end Bridge

/-- A status that is not that of no reader. -/
theorem ReaderStatus.ne_default_of_active (hs : s.state = .active) : s ≠ default := by
  rintro rfl
  cases hs

/-- **What a turn answers and what it does to the resources** is told by the status of one live
reader. -/
def LocalTurn (h : ReaderHandle) (e : Reader) (s : ReaderStatus) (F : Bridge → Bridge.Turn) :
    Prop :=
  ∃ p fate st, ∀ b, b.HasReader h e s → (F b).1 = p ∧ b.Calm (F b).2 ∧
    Patched b.registry (F b).2.registry (.reading h e fate st)

namespace LocalTurn

variable {F G : Bridge → Bridge.Turn} {f : ReaderStatus → ReaderStatus}

theorem congr (hG : LocalTurn h e s G) (hF : ∀ b, b.HasReader h e s → F b = G b) :
    LocalTurn h e s F := by
  obtain ⟨p, fate, st, hG⟩ := hG
  exact ⟨p, fate, st, fun b hb => by rw [hF b hb]; exact hG b hb⟩

/-- Nothing is done. -/
theorem nothing (p : Progress Stage Outcome) : LocalTurn h e s fun b => (p, b) :=
  ⟨p, .stays, s, fun _ hb => ⟨rfl, ⟨rfl, rfl, rfl, rfl, rfl, rfl⟩, hb.status ▸ .refl _ h e⟩⟩

/-- The cursor of the reader is moved first. -/
theorem modify (hst : (f s).state = s.state) (hca : (f s).isCancelled = s.isCancelled)
    (hG : LocalTurn h e (f s) G) : LocalTurn h e s fun b => G (b.modifyReader h f) := by
  obtain ⟨p, fate, st, hG⟩ := hG
  refine ⟨p, fate, st, fun b hb => ?_⟩
  have hmove : (b.modifyReader h f).HasReader h e (f s) := by
    refine ⟨(Registry.Alike.modifyReader b.registry h ?_ ?_).ok hb.ok, hb.live, ?_⟩
    · rw [hb.status, hst]
    · rw [hb.status, hca]
    · have hne := ReaderStatus.ne_default_of_active hb.active
      rw [← hb.status] at hne ⊢
      exact b.registry.reader_modify_of_ne_default f hne
  obtain ⟨h₁, h₂, h₃⟩ := hG _ hmove
  exact ⟨h₁, (b.withRegistry_calm _).trans h₂, h₃.of_modify⟩

/-- Tasks are woken first. -/
theorem wakeAll (ids : Bridge → List TaskId) (hG : LocalTurn h e s G) :
    LocalTurn h e s fun b => G (b.wakeAll (ids b)) := by
  obtain ⟨p, fate, st, hG⟩ := hG
  refine ⟨p, fate, st, fun b hb => ?_⟩
  have hreg := Bridge.wakeAll_registry (ids b) b
  obtain ⟨h₁, h₂, h₃⟩ := hG (b.wakeAll (ids b))
    ⟨hreg ▸ hb.ok, hreg ▸ hb.live, hreg ▸ hb.status⟩
  exact ⟨h₁, (Bridge.wakeAll_calm _ _).trans h₂, hreg ▸ h₃⟩

/-- The lock of the reader is passed on first. -/
theorem leaveLock (hG : LocalTurn h e { s with lock := s.lock.leave } G) :
    LocalTurn h e s fun b => G (b.leaveLock h) :=
  modify (f := fun s => { s with lock := s.lock.leave }) rfl rfl
    (hG.wakeAll fun b => (b.registry.reader h).lock.holder.toList)

/-- The end of the stream is met. -/
theorem finished (p : Progress Stage Outcome) : LocalTurn h e s fun b =>
    (p, (b.withRegistry (b.registry.exhaust h e)).leaveLock h) := by
  refine ⟨p, .ends, { s.ended with lock := s.lock.leave }, fun b hb => ⟨rfl, ?_, ?_⟩⟩
  · exact (b.withRegistry_calm _).trans (Bridge.leaveLock_calm _ _)
  · rw [Bridge.leaveLock_registry]
    have hp := (exhaust_of_active hb.ok hb.live).patched hb.ok hb.live
    rw [hb.status] at hp
    exact hp.modify fun hs => nomatch congrArg ReaderStatus.state hs

/-- The failure of the stream is met. -/
theorem failed (p : Progress Stage Outcome) : LocalTurn h e s fun b =>
    (p, (b.closeReader h).leaveLock h) := by
  refine ⟨p, .goes, { s.closed with lock := s.lock.leave }, fun b hb => ⟨rfl, ?_, ?_⟩⟩
  · exact (b.closeReader_calm h).trans (Bridge.leaveLock_calm _ _)
  · rw [Bridge.leaveLock_registry, Bridge.closeReader_registry]
    have hp := closeReader_patched hb.ok hb.live
    rw [hb.status] at hp
    exact hp.modify fun hs => nomatch congrArg ReaderStatus.isCancelled hs

end LocalTurn

/-! ## Readings -/

section

variable {reading : Reading} (hc : reading.closesReader = false)
include hc

/-- A reading that leaves its reader as it is in the end. -/
theorem endReading_local {G : Bridge → Bridge} {o : Outcome}
    (hG : LocalTurn h e s fun b => (.ends o, G b)) :
    LocalTurn h e s fun b => (G b).endReading h reading o :=
  hG.congr fun b _ => by rw [Bridge.endReading, hc, if_neg Bool.false_ne_true]

theorem deliver_local (f : Frame) : LocalTurn h e s fun b => b.deliver h e reading f := by
  cases f with
  | data c =>
    cases ha : reading.after c with
    | inl r =>
      refine (LocalTurn.nothing (.ends (.replied r))).leaveLock.congr fun b _ => ?_
      simp only [Bridge.deliver, Bridge.readChunk, ha, Bridge.reply]
    | inr reading' =>
      refine (LocalTurn.nothing (.goesOn (.fresh (.read h reading')))).leaveLock.congr
        fun b _ => ?_
      simp only [Bridge.deliver, Bridge.readChunk, ha]
  | finish => exact endReading_local hc (.finished _)
  | failure message => exact endReading_local hc (.failed _)

/-- The reader was closed under the reading. -/
theorem readClosed_local : LocalTurn h e s fun b => (b.leaveLock h).readClosed h reading :=
  endReading_local hc (LocalTurn.nothing _).leaveLock

theorem nextFrame_local (id : TaskId) :
    LocalTurn h e s fun b => b.nextFrame id h e reading := by
  cases hheld : s.held with
  | some f =>
    have hf : LocalTurn h e { s with held := none } fun b => b.deliver h e reading f :=
      deliver_local hc f
    refine (hf.modify (f := fun s => { s with held := none }) rfl rfl).congr fun b hb => ?_
    simp only [Bridge.nextFrame, hb.status, hheld]
  | none =>
    cases hrec : s.isReceiving with
    | false =>
      refine (deliver_local hc .finish).congr fun b hb => ?_
      simp only [Bridge.nextFrame, hb.status, hheld, hrec, Bool.not_false, if_true]
    | true =>
      -- a live reader is not cancelled
      cases hbuf : s.channel.buffer with
      | cons f rest =>
        refine (((deliver_local hc f).wakeAll fun _ => s.channel.roomWaiter.toList).modify
          (f := fun s =>
            { s with channel := { s.channel with buffer := rest, roomWaiter := none } })
          rfl rfl).congr fun b hb => ?_
        simp only [Bridge.nextFrame, hb.status, hheld, hrec, hb.ok.reader_scope hb.live, hbuf,
          Bool.not_true, Bool.false_eq_true, if_false]
      | nil =>
        cases hfed : s.channel.isFed with
        | true =>
          refine ((LocalTurn.nothing (.waits (.awaitingFrame h e reading))).modify
            (f := fun s => { s with channel := { s.channel with frameWaiter := some id } })
            rfl rfl).congr fun b hb => ?_
          simp only [Bridge.nextFrame, hb.status, hheld, hrec, hb.ok.reader_scope hb.live, hbuf,
            hfed, Bool.not_true, Bool.false_eq_true, if_false, if_true]
        | false =>
          refine (readClosed_local hc).congr fun b hb => ?_
          simp only [Bridge.nextFrame, hb.status, hheld, hrec, hb.ok.reader_scope hb.live, hbuf,
            hfed, Bool.not_true, Bool.false_eq_true, if_false]

end

/-- Frames are taken off the reader first. -/
theorem LocalTurn.takeFrames {G : Bridge → Bridge.Turn} (held : Option Frame) (rest : List Frame)
    (hG : ∀ s, LocalTurn h e s G) : LocalTurn h e s fun b => G (b.takeFrames h held rest) := by
  set waiter := if rest.length < s.channel.buffer.length then s.channel.roomWaiter else none
    with hwaiter
  refine (((hG _).wakeAll fun _ => waiter.toList).modify
    (f := fun s =>
      { s with
        held := held
        channel := { s.channel with
          buffer := rest
          roomWaiter := if waiter.isSome then none else s.channel.roomWaiter } })
    rfl rfl).congr fun b hb => ?_
  simp only [Bridge.takeFrames, hb.status, hwaiter]

theorem takeAvailable_local (id : TaskId) :
    LocalTurn h e s fun b => b.takeAvailable id h e := by
  -- data is given, and what is behind it stays
  have hdata : ∀ held rest chunks, LocalTurn h e s fun b =>
      ((b.takeFrames h held rest).leaveLock h).reply (.batch chunks false) :=
    fun held rest chunks => .takeFrames (G := fun b =>
      (b.leaveLock h).reply (.batch chunks false)) held rest fun _ =>
        (LocalTurn.nothing _).leaveLock
  have hends : ∀ rest p, LocalTurn h e s fun b => (p, ((b.takeFrames h none rest).withRegistry
      ((b.takeFrames h none rest).registry.exhaust h e)).leaveLock h) :=
    fun rest p => .takeFrames (G := fun b =>
      (p, (b.withRegistry (b.registry.exhaust h e)).leaveLock h)) none rest fun _ => .finished p
  have hfails : ∀ rest p, LocalTurn h e s fun b =>
      (p, ((b.takeFrames h none rest).closeReader h).leaveLock h) :=
    fun rest p => .takeFrames (G := fun b => (p, (b.closeReader h).leaveLock h)) none rest
      fun _ => .failed p
  have hframe : LocalTurn h e s fun b => b.nextFrame id h e .available := nextFrame_local rfl id
  cases hrun : (Channel.takeRun s.contents).2 with
  | nil =>
    by_cases hempty : (Channel.takeRun s.contents).1 = []
    · refine hframe.congr fun b hb => ?_
      simp only [Bridge.takeAvailable, hb.status, hrun, hempty, if_true]
    · refine (hdata none [] (Channel.takeRun s.contents).1).congr fun b hb => ?_
      simp only [Bridge.takeAvailable, hb.status, hrun, hempty, if_false]
  | cons f rest =>
    cases f with
    | data c => exact absurd hrun (takeRun_rest _ c rest)
    | finish =>
      refine (hends rest (.ends (.replied (.batch (Channel.takeRun s.contents).1 true)))).congr
        fun b hb => ?_
      simp only [Bridge.takeAvailable, hb.status, hrun, Bridge.reply]
    | failure message =>
      by_cases hempty : (Channel.takeRun s.contents).1 = []
      · refine (hfails rest (.ends (.failed (.transportFailure message)))).congr fun b hb => ?_
        simp only [Bridge.takeAvailable, hb.status, hrun, hempty, if_true, Bridge.fail]
      · refine (hdata (some (.failure message)) rest (Channel.takeRun s.contents).1).congr
          fun b hb => ?_
        simp only [Bridge.takeAvailable, hb.status, hrun, hempty, if_false]

section

variable {reading : Reading} (hc : reading.closesReader = false)
include hc

theorem readLocked_local (id : TaskId) :
    LocalTurn h e s fun b => b.readLocked id h e reading := by
  by_cases hlock : s.lock.holder = some id
  · have hframe : LocalTurn h e s fun b => b.nextFrame id h e reading := nextFrame_local hc id
    cases reading with
    | available =>
      refine (takeAvailable_local id).congr fun b hb => ?_
      simp only [Bridge.readLocked, hb.status, hlock, if_true, hb.active]
    | _ =>
      refine hframe.congr fun b hb => ?_
      simp only [Bridge.readLocked, hb.status, hlock, if_true, hb.active]
  · refine (LocalTurn.nothing (.waits (.awaitingTurn h e reading))).congr fun b hb => ?_
    simp only [Bridge.readLocked, hb.status, hlock, if_false]

theorem read_local (hcomplete : reading.isComplete = false) (id : TaskId) :
    LocalTurn h e s fun b => b.read id h reading := by
  refine ((readLocked_local hc id).modify (f := fun s => { s with lock := s.lock.enter id })
    rfl rfl).congr fun b hb => ?_
  have hfind : b.registry.findReader h = .ok (some e) := by
    simp only [Registry.findReader, hb.live]
  simp only [Bridge.read, hcomplete, hfind, hb.ok.reader_scope hb.live, Bool.false_eq_true,
    if_false]

/-- **Every turn of a reading** is told by the status of its reader, if the reader is live. -/
theorem turn_local {stage : Stage} (hb : b.HasReader h e s) (hs : StageOK b stage)
    (hr : stage.reading? = some (h, reading)) (hcomplete : reading.isComplete = false)
    (id : TaskId) : LocalTurn h e s fun b => b.turn id stage := by
  cases stage with
  | fresh c =>
    cases c with
    | read x reading' =>
      obtain ⟨rfl, rfl⟩ : x = h ∧ reading' = reading := by simpa [Stage.reading?] using hr
      exact read_local hc hcomplete id
    | _ => cases hr
  | awaitingTurn x e' reading' =>
    obtain ⟨rfl, rfl⟩ : x = h ∧ reading' = reading := by simpa [Stage.reading?] using hr
    obtain rfl : e = e' := hs.2 e hb.live
    refine (readLocked_local hc id).congr fun b hb => ?_
    simp only [Bridge.turn, hb.ok.reader_scope hb.live, Bool.false_eq_true, if_false]
  | awaitingFrame x e' reading' =>
    obtain ⟨rfl, rfl⟩ : x = h ∧ reading' = reading := by simpa [Stage.reading?] using hr
    obtain rfl : e = e' := hs.2 e hb.live
    refine (nextFrame_local hc id).congr fun b hb => ?_
    simp only [Bridge.turn, hb.ok.reader_scope hb.live, Bool.false_eq_true, if_false]
  | _ => cases hr

end

end QueryBridge
