import QueryBridge.Proofs.Bridge.Errands
import QueryBridge.Proofs.Delivery

/-!
# What a reading changes

A reading moves the cursor of its reader. Where it meets the end of the stream
or its failure, the reader leaves the table. No reading changes anything else.

* `Registry.Alike`: two registries that differ in cursors alone.
* `Registry.Reads`: what a turn of a reading can do to the registry.
* `Bridge.turn_reads`: every turn of a reading is like that.
* `Bridge.pump_alike`: a turn of a pump moves a cursor at most.
-/

namespace QueryBridge

variable {r r' r'' : Registry} {b b' b'' : Bridge} {id : TaskId} {h : ReaderHandle} {e : Reader}
  {reading : Reading}

/-! ## Cursors -/

/-- Only how far readers have been read has changed, and who waits for them. -/
structure Registry.Alike (r r' : Registry) : Prop where
  connections : r'.connections = r.connections
  sessions : r'.sessions = r.sessions
  readers : r'.readers = r.readers
  exhausted : r'.exhausted = r.exhausted
  connectionStatus : r'.connectionStatus = r.connectionStatus
  sessionStatus : r'.sessionStatus = r.sessionStatus
  state : ∀ h, (r'.reader h).state = (r.reader h).state
  isCancelled : ∀ h, (r'.reader h).isCancelled = (r.reader h).isCancelled

namespace Registry

namespace Alike

theorem refl (r : Registry) : Alike r r :=
  ⟨rfl, rfl, rfl, rfl, rfl, rfl, fun _ => rfl, fun _ => rfl⟩

theorem trans (h : Alike r r') (h' : Alike r' r'') : Alike r r'' :=
  ⟨h'.connections.trans h.connections, h'.sessions.trans h.sessions,
    h'.readers.trans h.readers, h'.exhausted.trans h.exhausted,
    h'.connectionStatus.trans h.connectionStatus, h'.sessionStatus.trans h.sessionStatus,
    fun x => (h'.state x).trans (h.state x), fun x => (h'.isCancelled x).trans (h.isCancelled x)⟩

theorem modifyReader (r : Registry) (h : ReaderHandle) {f : ReaderStatus → ReaderStatus}
    (hst : (f (r.reader h)).state = (r.reader h).state)
    (hca : (f (r.reader h)).isCancelled = (r.reader h).isCancelled) :
    Alike r (r.modifyReader h f) :=
  ⟨rfl, rfl, rfl, rfl, rfl, rfl, r.reader_modify_keeps h (g := ReaderStatus.state) hst,
    r.reader_modify_keeps h (g := ReaderStatus.isCancelled) hca⟩

theorem connection (h : Alike r r') (c : ConnectionHandle) : r'.connection c = r.connection c := by
  unfold Registry.connection
  rw [h.connectionStatus]

theorem session (h : Alike r r') (s : SessionHandle) : r'.session s = r.session s := by
  unfold Registry.session
  rw [h.sessionStatus]

/-- How far readers have been read plays no part. -/
theorem ok (h : Alike r r') (hr : RegistryOK r) : RegistryOK r' := by
  have hc := h.connection
  have hs := h.session
  constructor <;> intros <;>
    simp only [hc, hs, h.state, h.isCancelled, h.connections, h.sessions, h.readers,
      h.exhausted] at *
  · exact hr.connOpen _
  · exact hr.connCancelled _
  · exact hr.sessOpen _
  · exact hr.sessCancelled _
  · exact hr.active _
  · exact hr.readCancelled _
  · exact hr.endedIssued _ ‹_›
  · exact hr.sessions _ _
  · exact hr.readers _ _
  · exact hr.sessionsSorted _
  · exact hr.readersSorted _
  · exact hr.parent _ _ ‹_›
  · exact hr.readParent _ _ ‹_›
  · exact hr.marked _ ‹_›
  · exact hr.ended _ _ ‹_›
  · exact hr.owner _ _ _ ‹_› ‹_›
  · exact hr.endedNodup _

end Alike

/-- The end of the stream of a reader that is not active moves its cursor alone. -/
theorem exhaust_alike (hs : (r.reader h).state ≠ .active) (e : Reader) :
    r.Alike (r.exhaust h e) := by
  rw [exhaust_of_not_active hs]
  refine .modifyReader r h ?_ rfl
  show (if (r.reader h).state = .active then _ else _) = _
  rw [if_neg hs]

end Registry

/-! ## Ends of streams -/

/-- What a reading has met where its stream has no more data. -/
inductive StreamEnd
  | finished
  | failed
deriving DecidableEq

/-- What the outcome of a reading tells of the end of its stream. -/
def Outcome.streamEnd? : Outcome → Option StreamEnd
  | .replied (.chunk none) | .replied (.batch _ true) | .replied (.chunks _)
  | .replied (.items _ none) => some .finished
  | .failed (.transportFailure _) | .replied (.items _ (some (.transportFailure _))) =>
    some .failed
  | _ => none

/-- The reader that a call reads, and how much of it. -/
def Stage.reading? : Stage → Option (ReaderHandle × Reading)
  | .fresh (.read h reading) | .awaitingTurn h _ reading | .awaitingFrame h _ reading =>
    some (h, reading)
  | _ => none

/-- Whether a reading has all that it asks for before its turn. -/
def Stage.isComplete : Stage → Bool
  | .fresh (.read _ reading) => reading.isComplete
  | _ => false

/-- Where a turn of a reading of a reader ends, what it tells of the end of the stream. -/
def Progress.meets (h : ReaderHandle) : Progress Stage Outcome → Option (ReaderHandle × StreamEnd)
  | .ends o => o.streamEnd?.map (h, ·)
  | _ => none

/-- What a reading of a reader closes when it ends. -/
def Reading.closes (reading : Reading) (h : ReaderHandle) : Progress Stage Outcome → List Target
  | .ends _ => if reading.closesReader then [.reader h] else []
  | _ => []

def Stage.meets (stage : Stage) (p : Progress Stage Outcome) : Option (ReaderHandle × StreamEnd) :=
  if stage.isComplete then none else stage.reading?.bind fun q => p.meets q.1

def Stage.closesAfter (stage : Stage) (p : Progress Stage Outcome) : List Target :=
  (stage.reading?.map fun q => q.2.closes q.1 p).getD []

/-- **What a turn of a reading can do to the registry**, apart from the close
that may follow: it moves cursors. If it is the first one to meet the end of the
stream, the reader is exhausted; if it meets the failure, the reader is closed. -/
inductive Registry.Reads (r : Registry) : Option (ReaderHandle × StreamEnd) → Registry → Prop
  | goesOn {r' : Registry} : r.Alike r' → Reads r none r'
  /-- The end was met before. -/
  | metAgain {h : ReaderHandle} {met : StreamEnd} {r' : Registry} : r.readers.get? h = none →
    r.Alike r' → Reads r (some (h, met)) r'
  | finished {h : ReaderHandle} {e : Reader} {r₁ r' : Registry} : r.readers.get? h = some e →
    r.Alike r₁ → (r₁.exhaust h e).Alike r' → Reads r (some (h, .finished)) r'
  | failed {h : ReaderHandle} {e : Reader} {r₁ r' : Registry} : r.readers.get? h = some e →
    r.Alike r₁ → (r₁.closeReader h).2.Alike r' → Reads r (some (h, .failed)) r'

theorem Registry.Reads.alike {met : Option (ReaderHandle × StreamEnd)} (h₁ : r.Alike r')
    (h₂ : r'.Reads met r'') : r.Reads met r'' := by
  cases h₂ with
  | goesOn ha => exact .goesOn (h₁.trans ha)
  | metAgain hg ha => exact .metAgain (h₁.readers ▸ hg) (h₁.trans ha)
  | finished hg ha hx => exact .finished (h₁.readers ▸ hg) (h₁.trans ha) hx
  | failed hg ha hx => exact .failed (h₁.readers ▸ hg) (h₁.trans ha) hx

namespace Bridge

theorem closeReader_beside (b : Bridge) (h : ReaderHandle) : b.Beside (b.closeReader h) := by
  unfold closeReader
  split
  · exact (b.withRegistry_beside _).wakeAll _
  · exact b.withRegistry_beside _

theorem leaveLock_beside (b : Bridge) (h : ReaderHandle) :
    b.Beside (b.leaveLock h) ∧ b.registry.Alike (b.leaveLock h).registry := by
  unfold leaveLock
  dsimp only
  rw [wakeAll_registry]
  exact ⟨(b.withRegistry_beside _).wakeAll _, .modifyReader _ h rfl rfl⟩

theorem giveUpLock_beside (b : Bridge) (id : TaskId) (h : ReaderHandle) :
    b.Beside (b.giveUpLock id h) ∧ b.registry.Alike (b.giveUpLock id h).registry := by
  unfold giveUpLock
  split
  · exact b.leaveLock_beside h
  · exact ⟨b.withRegistry_beside _, .modifyReader _ h rfl rfl⟩

/-! ## Turns of readings -/

/-- A turn of a reading moves cursors, and what it tells of the end of the stream is so. -/
def IsRead (b : Bridge) (h : ReaderHandle) (reading : Reading) (t : Turn) : Prop :=
  ∃ b₀, b.Beside b₀ ∧ b.registry.Reads (t.1.meets h) b₀.registry ∧
    t.2 = b₀.closeAll (reading.closes h t.1)

namespace IsRead

theorem ends {o : Outcome} (hb : b.Beside b')
    (hr : b.registry.Reads (o.streamEnd?.map (h, ·)) b'.registry) :
    b.IsRead h reading (b'.endReading h reading o) := by
  refine ⟨b', hb, hr, ?_⟩
  unfold endReading Reading.closes
  dsimp only
  split <;> rfl

/-- The reading goes on, or it ends with data alone. -/
theorem goesOn {t : Turn} (hb : b.Beside t.2) (ha : b.registry.Alike t.2.registry)
    (hm : t.1.meets h = none) (hc : reading.closes h t.1 = []) : b.IsRead h reading t := by
  refine ⟨t.2, hb, ?_, ?_⟩
  · rw [hm]
    exact .goesOn ha
  · rw [hc]
    rfl

/-- Cursors may move before. -/
theorem after {t : Turn} (hb : b.Beside b') (ha : b.registry.Alike b'.registry)
    (h' : b'.IsRead h reading t) : b.IsRead h reading t := by
  obtain ⟨b₀, hb₀, hr, ht⟩ := h'
  exact ⟨b₀, hb.trans hb₀, hr.alike ha, ht⟩

/-- The reader was closed. -/
theorem closed (hb : b.Beside b') (ha : b.registry.Alike b'.registry) :
    b.IsRead h reading (b'.readClosed h reading) := by
  refine .ends hb ?_
  have hnone : (reading.outcome (.resourceClosed .reader h)).streamEnd? = none := by
    cases reading <;> rfl
  rw [hnone]
  exact .goesOn ha

/-- No reader of this handle is live. -/
theorem missing (b : Bridge) (h : ReaderHandle) (reading : Reading) :
    b.IsRead h reading (b.readFailure h reading (.invalidHandle .reader h)) := by
  refine .ends (.refl b) ?_
  have hnone : (reading.outcome (.invalidHandle .reader h)).streamEnd? = none := by
    cases reading <;> rfl
  rw [hnone]
  exact .goesOn (.refl _)

/-- The end of the stream is told, where the registry shows it. -/
theorem finished (hb : b.Beside b') (hr : b.registry.Reads (some (h, .finished)) b'.registry) :
    b.IsRead h reading (b'.readEnd h reading) := by
  refine .ends hb ?_
  have hend : (Outcome.replied reading.reply).streamEnd? = some .finished := by
    cases reading <;> rfl
  rw [hend]
  exact hr

/-- The failure of the stream is told. -/
theorem failed {message : String} (hb : b.Beside b')
    (hr : b.registry.Reads (some (h, .failed)) b'.registry) :
    b.IsRead h reading (b'.readFailure h reading (.transportFailure message)) := by
  refine .ends hb ?_
  have hend : (reading.outcome (.transportFailure message)).streamEnd? = some .failed := by
    cases reading <;> rfl
  rw [hend]
  exact hr

end IsRead

/-- Nothing is left of a stream that was read to its end. -/
def Spent (b : Bridge) : Prop := ∀ h, (b.registry.reader h).state = .exhausted →
  (b.registry.reader h).held = none ∧ (b.registry.reader h).isReceiving = false

/-- A reader that frames may be taken of: it is live, or its stream has ended
and nothing is left of it. -/
structure Readable (b : Bridge) (h : ReaderHandle) (e : Reader) : Prop where
  live : (b.registry.reader h).state = .active → b.registry.readers.get? h = some e
  spent : (b.registry.reader h).state = .exhausted → b.registry.readers.get? h = none ∧
    (b.registry.reader h).held = none ∧ (b.registry.reader h).isReceiving = false

theorem readable {me : Option TaskId} {inHand : Option Stream} (hb : BridgeOK b me inHand)
    (hspent : b.Spent) (hn : b.registry.NamesReader h e) : b.Readable h e where
  live hst := by
    obtain ⟨e', he'⟩ := (hb.registry.active h).1 hst
    rw [he', hn.2 e' he']
  spent hst := ⟨hb.registry.not_live (by rw [hst]; exact nofun), hspent h hst⟩

/-- The end of the stream is taken off a reader that is live. -/
theorem exhausts (he : b.registry.readers.get? h = some e) (hb : b.Beside b')
    (ha : b.registry.Alike b'.registry) :
    b.Beside ((b'.withRegistry (b'.registry.exhaust h e)).leaveLock h) ∧
      b.registry.Reads (some (h, .finished))
        ((b'.withRegistry (b'.registry.exhaust h e)).leaveLock h).registry := by
  obtain ⟨hb₁, ha₁⟩ := (b'.withRegistry (b'.registry.exhaust h e)).leaveLock_beside h
  have hb₀ := b'.withRegistry_beside (b'.registry.exhaust h e)
  exact ⟨(hb.trans hb₀).trans hb₁, .finished he ha ha₁⟩

/-- The failure of the stream is taken off a reader that is live. -/
theorem breaks (he : b.registry.readers.get? h = some e) (hb : b.Beside b')
    (ha : b.registry.Alike b'.registry) :
    b.Beside ((b'.closeReader h).leaveLock h) ∧
      b.registry.Reads (some (h, .failed)) ((b'.closeReader h).leaveLock h).registry := by
  obtain ⟨hb₁, ha₁⟩ := (b'.closeReader h).leaveLock_beside h
  rw [closeReader_registry] at ha₁
  exact ⟨(hb.trans (b'.closeReader_beside h)).trans hb₁, .failed he ha ha₁⟩

/-- **A frame that was taken off a live reader is delivered.** -/
theorem deliver_isRead (he : b.registry.readers.get? h = some e) (hb : b.Beside b')
    (ha : b.registry.Alike b'.registry) (fr : Frame) :
    b.IsRead h reading (b'.deliver h e reading fr) := by
  cases fr with
  | data c =>
    obtain ⟨hb₁, ha₁⟩ := b'.leaveLock_beside h
    unfold deliver readChunk
    cases reading <;> exact .goesOn (hb.trans hb₁) (ha.trans ha₁) rfl rfl
  | finish =>
    obtain ⟨hb₁, hr⟩ := exhausts he hb ha
    exact .finished hb₁ hr
  | failure message =>
    obtain ⟨hb₁, hr⟩ := breaks he hb ha
    exact .failed hb₁ hr

theorem nextFrame_isRead (hr : b.Readable h e) (hc : (b.registry.reader h).state ≠ .closed)
    (id : TaskId) (reading : Reading) :
    b.IsRead h reading (b.nextFrame id h e reading) := by
  unfold nextFrame
  dsimp only
  by_cases hst : (b.registry.reader h).state = .active
  · have he := hr.live hst
    split
    -- a failure that was held back
    · rename_i fr hfr
      set b₁ := b.modifyReader h fun s => { s with held := none } with hb₁
      have ha₁ : b.registry.Alike b₁.registry := .modifyReader _ h rfl rfl
      exact deliver_isRead he (b.withRegistry_beside _) ha₁ fr
    · split
      · exact deliver_isRead he (.refl b) (.refl _) .finish
      · split
        · exact .closed (b.leaveLock_beside h).1 (b.leaveLock_beside h).2
        · split
          · rename_i fr rest hbuf
            set b₁ := b.modifyReader h fun s =>
              { s with channel := { s.channel with buffer := rest, roomWaiter := none } } with hb₁
            have ha₁ : b.registry.Alike b₁.registry := .modifyReader _ h rfl rfl
            refine deliver_isRead he ((b.withRegistry_beside _).wakeAll _) ?_ fr
            rw [wakeAll_registry]
            exact ha₁
          · split
            · exact .goesOn (b.withRegistry_beside _) (.modifyReader _ h rfl rfl) rfl rfl
            · exact .closed (b.leaveLock_beside h).1 (b.leaveLock_beside h).2
  -- the end was met before, so there is nothing to take
  · have hex : (b.registry.reader h).state = .exhausted := by
      cases hx : (b.registry.reader h).state with
      | active => exact absurd hx hst
      | exhausted => rfl
      | closed => exact absurd hx hc
    obtain ⟨hnone, hheld, hrec⟩ := hr.spent hex
    simp only [hheld, hrec, Bool.not_false, if_true]
    obtain ⟨hb₁, ha₁⟩ := (b.withRegistry (b.registry.exhaust h e)).leaveLock_beside h
    have hb₀ := b.withRegistry_beside (b.registry.exhaust h e)
    exact .finished (hb₀.trans hb₁) (.metAgain hnone ((Registry.exhaust_alike hst e).trans ha₁))

theorem takeFrames_beside (b : Bridge) (h : ReaderHandle) (held : Option Frame)
    (rest : List Frame) :
    b.Beside (b.takeFrames h held rest) ∧ b.registry.Alike (b.takeFrames h held rest).registry := by
  unfold takeFrames
  dsimp only
  rw [wakeAll_registry]
  exact ⟨(b.withRegistry_beside _).wakeAll _, .modifyReader _ h rfl rfl⟩

theorem takeAvailable_isRead (hr : b.Readable h e) (hst : (b.registry.reader h).state = .active)
    (id : TaskId) : b.IsRead h .available (b.takeAvailable id h e) := by
  have he := hr.live hst
  -- data is given, and what is behind it stays
  have hdata : ∀ held rest chunks, b.IsRead h .available
      (((b.takeFrames h held rest).leaveLock h).reply (.batch chunks false)) := by
    intro held rest chunks
    obtain ⟨hb₁, ha₁⟩ := b.takeFrames_beside h held rest
    obtain ⟨hb₂, ha₂⟩ := (b.takeFrames h held rest).leaveLock_beside h
    exact .goesOn (hb₁.trans hb₂) (ha₁.trans ha₂) rfl rfl
  unfold takeAvailable
  dsimp only
  split
  · rename_i rest _
    obtain ⟨hb₁, ha₁⟩ := b.takeFrames_beside h none rest
    obtain ⟨hb₂, hx⟩ := exhausts he hb₁ ha₁
    exact ⟨_, hb₂, hx, rfl⟩
  · rename_i message rest _
    split
    · obtain ⟨hb₁, ha₁⟩ := b.takeFrames_beside h none rest
      obtain ⟨hb₂, hx⟩ := breaks he hb₁ ha₁
      exact ⟨_, hb₂, hx, rfl⟩
    · exact hdata _ _ _
  · split
    · exact nextFrame_isRead hr (by rw [hst]; exact nofun) id .available
    · exact hdata _ _ _

theorem readLocked_isRead (hr : b.Readable h e) (id : TaskId) (reading : Reading) :
    b.IsRead h reading (b.readLocked id h e reading) := by
  unfold readLocked
  dsimp only
  split
  · obtain ⟨hb₁, ha₁⟩ := b.leaveLock_beside h
    cases hst : (b.registry.reader h).state with
    | exhausted => exact .finished hb₁ (.metAgain (hr.spent hst).1 ha₁)
    | closed => exact .closed hb₁ ha₁
    | active =>
      have hc : (b.registry.reader h).state ≠ .closed := by
        rw [hst]
        exact nofun
      cases reading with
      | available => exact takeAvailable_isRead hr hst id
      | next => exact nextFrame_isRead hr hc id .next
      | all taken => exact nextFrame_isRead hr hc id (.all taken)
      | upTo limit taken => exact nextFrame_isRead hr hc id (.upTo limit taken)
  · exact .goesOn (.refl b) (.refl _) rfl rfl

theorem read_isRead {me : Option TaskId} {inHand : Option Stream} (hb : BridgeOK b me inHand)
    (hspent : b.Spent) (hcomplete : reading.isComplete = false) (id : TaskId) (h : ReaderHandle) :
    b.IsRead h reading (b.read id h reading) := by
  unfold read
  rw [hcomplete, if_neg Bool.false_ne_true]
  cases hf : b.registry.findReader h with
  | error f =>
    obtain rfl := findReader_eq_error hf
    exact .missing b h reading
  | ok found =>
    obtain ⟨hget, -⟩ := findReader_eq_ok hf
    cases found with
    | none => exact .finished (.refl b) (.metAgain hget (.refl _))
    | some e =>
      dsimp only
      split
      · exact .closed (.refl b) (.refl _)
      · have hr := readable hb hspent (namesReader_of_get? hget)
        have hst := Registry.reader_modify_keeps b.registry h (g := ReaderStatus.state)
          (f := fun s => { s with lock := s.lock.enter id }) rfl h
        have hheld := Registry.reader_modify_keeps b.registry h (g := ReaderStatus.held)
          (f := fun s => { s with lock := s.lock.enter id }) rfl h
        have hrec := Registry.reader_modify_keeps b.registry h (g := ReaderStatus.isReceiving)
          (f := fun s => { s with lock := s.lock.enter id }) rfl h
        -- whoever asks for the lock changes nothing of the rest
        have hr₁ : (b.modifyReader h fun s => { s with lock := s.lock.enter id }).Readable h e :=
          ⟨fun hx => hr.live (hst ▸ hx), fun hx => by
            obtain ⟨hnone, hh, hi⟩ := hr.spent (hst ▸ hx)
            exact ⟨hnone, hheld.trans hh, hrec.trans hi⟩⟩
        exact .after (b.withRegistry_beside _) (.modifyReader _ h rfl rfl)
          (readLocked_isRead hr₁ id reading)

/-- **Every turn of a reading** moves cursors, and nothing else but what it
tells of the end of the stream and what it closes when it ends. -/
theorem turn_reads {stage : Stage} (hb : BridgeOK b (some id) none) (hspent : b.Spent)
    (hs : StageOK b stage) (hr : stage.reading? = some (h, reading)) :
    ∃ b₀, b.Beside b₀ ∧ b.registry.Reads (stage.meets (b.turn id stage).1) b₀.registry ∧
      (b.turn id stage).2 = b₀.closeAll (stage.closesAfter (b.turn id stage).1) := by
  -- a turn that reads is told by its reader and its reading
  have key : stage.isComplete = false → b.IsRead h reading (b.turn id stage) →
      ∃ b₀, b.Beside b₀ ∧ b.registry.Reads (stage.meets (b.turn id stage).1) b₀.registry ∧
        (b.turn id stage).2 = b₀.closeAll (stage.closesAfter (b.turn id stage).1) := by
    rintro hcomplete ⟨b₀, hb₀, hx, ht⟩
    refine ⟨b₀, hb₀, ?_, ?_⟩
    · rwa [Stage.meets, hcomplete, if_neg Bool.false_ne_true, hr]
    · rwa [Stage.closesAfter, hr]
  cases stage with
  | fresh c =>
    cases c with
    | read x reading' =>
      obtain ⟨rfl, rfl⟩ : x = h ∧ reading' = reading := by simpa [Stage.reading?] using hr
      cases hcomplete : reading'.isComplete with
      | false => exact key hcomplete (read_isRead hb hspent hcomplete id x)
      | true =>
        have hturn : b.turn id (.fresh (.read x reading')) = b.readEnd x reading' := by
          show b.read id x reading' = _
          rw [read, hcomplete, if_pos rfl]
        refine ⟨b, .refl b, ?_, ?_⟩
        · rw [Stage.meets, show (Stage.fresh (.read x reading')).isComplete = true from hcomplete,
            if_pos rfl]
          exact .goesOn (.refl _)
        · rw [hturn]
          unfold readEnd endReading Stage.closesAfter Reading.closes
          dsimp only [Stage.reading?, Option.map_some, Option.getD_some]
          split <;> rfl
    | _ => cases hr
  | awaitingTurn x e reading' =>
    obtain ⟨rfl, rfl⟩ : x = h ∧ reading' = reading := by simpa [Stage.reading?] using hr
    refine key rfl ?_
    unfold turn
    dsimp only
    split
    · exact .closed (b.giveUpLock_beside id x).1 (b.giveUpLock_beside id x).2
    · exact readLocked_isRead (readable hb hspent hs) id reading'
  | awaitingFrame x e reading' =>
    obtain ⟨rfl, rfl⟩ : x = h ∧ reading' = reading := by simpa [Stage.reading?] using hr
    refine key rfl ?_
    unfold turn
    dsimp only
    split
    · exact .closed (b.leaveLock_beside x).1 (b.leaveLock_beside x).2
    -- a reading that is not cancelled has a reader that is not closed
    · rename_i hcancel
      refine nextFrame_isRead (readable hb hspent hs) (fun hst => hcancel ?_) id reading'
      simp [Reader.scope, Registry.isCancelled, (hb.registry.readCancelled x).2 ⟨hst, hs.1⟩]
  | _ => cases hr

/-! ## Pumps -/

theorem endPump_beside (b : Bridge) (h : ReaderHandle) (stream : Stream) :
    b.Beside (b.endPump h stream).2 ∧ b.registry.Alike (b.endPump h stream).2.registry := by
  unfold endPump
  dsimp only
  rw [wakeAll_registry]
  have hdrop := (b.dropStream_level stream).toBeside
  exact ⟨(hdrop.trans (withRegistry_beside _ _)).wakeAll _, .modifyReader b.registry h rfl rfl⟩

end Bridge

/-- Whoever takes a frame off a stream calls nobody. -/
theorem Service.nextFrame?_calls {s s' : Service} {stream stream' : Stream} {f : Frame}
    (hf : s.nextFrame? stream = some (f, stream', s')) : s'.calls = s.calls := by
  cases stream with
  | fixed fs =>
    cases fs <;> simp only [nextFrame?, Option.some.injEq, Prod.mk.injEq] at hf <;>
      obtain ⟨-, -, rfl⟩ := hf <;> rfl
  | live n =>
    simp only [nextFrame?] at hf
    split at hf
    · obtain ⟨-, -, rfl⟩ := by simpa using hf
      rfl
    · split at hf
      · obtain ⟨-, -, rfl⟩ := by simpa using hf
        rfl
      · split at hf
        · cases hf
        · obtain ⟨-, -, rfl⟩ := by simpa using hf
          rfl

namespace Bridge

/-- **A turn of a pump** moves the cursor of its reader at most. -/
theorem pump_alike (b : Bridge) (id : TaskId) (h : ReaderHandle) (e : Reader) (stream : Stream)
    (frame : Option Frame) :
    b.Beside (b.pump id h e stream frame).2 ∧
      b.registry.Alike (b.pump id h e stream frame).2.registry := by
  unfold pump
  split
  · exact b.endPump_beside h stream
  · cases frame with
    | none =>
      dsimp only
      split
      · rename_i f stream' s hf
        exact ⟨(Level.withService b (Service.nextFrame?_calls hf)).toBeside, .refl _⟩
      · refine ⟨(Level.withService b ?_).toBeside, .refl _⟩
        cases stream <;> rfl
    | some f =>
      dsimp only
      split
      · exact b.endPump_beside h stream
      · split
        · exact ⟨b.withRegistry_beside _, .modifyReader _ h rfl rfl⟩
        · set b₁ := (b.modifyReader h fun s =>
            { s with channel := { s.channel.push f with frameWaiter := none } }).wakeAll
              (b.registry.reader h).channel.frameWaiter.toList with hb₁
          have hbeside : b.Beside b₁ := (b.withRegistry_beside _).wakeAll _
          have ha : b.registry.Alike b₁.registry := by
            rw [hb₁, wakeAll_registry]
            exact .modifyReader _ h rfl rfl
          split
          · obtain ⟨hb₂, ha₂⟩ := b₁.endPump_beside h stream
            exact ⟨hbeside.trans hb₂, ha.trans ha₂⟩
          · exact ⟨hbeside, ha⟩

/-! ## Streams that were read to their end -/

/-- The frames of every reader are on their way. -/
theorem Reachable.carries (hb : b.Reachable) (hi : b.registry.readers.Issued h) :
    ∃ feed p Z T F, b.Carries none h feed p Z T F := by
  induction hb with
  | start sessionIds hangs config hasRuntime =>
    have h₁ : (∅ : HandleTable .reader Reader).next.toNat = 1 := rfl
    have h₂ : 0 < h.raw.toNat ∧ h.raw.toNat < (∅ : HandleTable .reader Reader).next.toNat := hi
    omega
  | @step b e hb ih =>
    by_cases hold : b.registry.readers.Issued h
    · obtain ⟨feed, p, Z, T, F, hc⟩ := ih hold
      obtain ⟨p', Z', T', hc', -⟩ := step_carries hb.ok hc e
      exact ⟨_, _, _, _, _, hc'⟩
    -- a new reader has its pump
    · obtain ⟨pump, src, hc⟩ := registered hb.ok e hold hi
      exact ⟨_, _, _, _, _, hc⟩

theorem Reachable.spent (hb : b.Reachable) : b.Spent := by
  intro h hst
  obtain ⟨feed, p, Z, T, F, hc⟩ := hb.carries (hb.ok.registry.endedIssued h hst)
  obtain ⟨hrec, hempty, -⟩ := hc.flow.exhausted hst
  unfold ReaderStatus.contents at hempty
  refine ⟨?_, hrec⟩
  cases hheld : (b.registry.reader h).held with
  | none => rfl
  | some f => simp [hheld] at hempty

end Bridge

end QueryBridge
