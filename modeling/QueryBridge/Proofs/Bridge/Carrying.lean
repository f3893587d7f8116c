import QueryBridge.Proofs.Bridge.Calls
import QueryBridge.Proofs.Bridge.Courses
import QueryBridge.Proofs.Bridge.Flow

/-!
# Frames on their way through a bridge

Whatever happens to a bridge, the frames of a reader stay on their way: only its
pump brings them on, and only whoever reads it takes them.

* `Bridge.PumpAt`: where the pump of a reader is.
* `Moves.flow`: the turns of others.
* `step_flow`: every event.
-/

namespace QueryBridge

variable {b b' : Bridge} {me : Option TaskId} {inHand inHand' : Option Stream} {h : ReaderHandle}
  {v : Service} {feed : Option Nat} {p : Option Pumping} {Z T F : List Frame}

/-! ## The pump among the tasks -/

/-- The pump of a reader is where it is said to be, and does not have its turn. None is there
when it is over, apart from the task whose turn it is. -/
def Bridge.PumpAt (b : Bridge) (me : Option TaskId) (h : ReaderHandle) : Option Pumping → Prop
  | some q => some q.id ≠ me ∧ ∃ e, (q.id, .pump h e q.stream q.inHand) ∈ b.tasks
  | none => ∀ t ∈ b.tasks, some t.1 ≠ me → t.2.pumped? ≠ some h

namespace Bridge.PumpAt

variable {id : TaskId}

/-- Only the pump of the reader plays a part. -/
theorem congr (hp : b.PumpAt me h p)
    (ht : ∀ t : TaskId × Task, t.2.pumped? = some h → (t ∈ b'.tasks ↔ t ∈ b.tasks)) :
    b'.PumpAt me h p := by
  cases p with
  | none => exact fun t hm hme hpt => hp t ((ht t hpt).1 hm) hme hpt
  | some q =>
    obtain ⟨hme, e, he⟩ := hp
    exact ⟨hme, e, (ht _ rfl).2 he⟩

theorem of_tasks (hp : b.PumpAt me h p) (ht : b'.tasks = b.tasks) : b'.PumpAt me h p :=
  hp.congr fun t _ => by rw [ht]

theorem submit (hp : b.PumpAt me h p) {t : Task} (ht : t.pumped? ≠ some h) :
    (b.submit t).2.PumpAt me h p := by
  refine hp.congr fun u hu => ?_
  show u ∈ b.tasks ++ [(b.nextTask, t)] ↔ _
  rw [List.mem_append, List.mem_singleton, or_iff_left]
  rintro rfl
  exact ht hu

theorem spawnOn (hp : b.PumpAt me h p) {t : Task} (ht : t.pumped? ≠ some h) :
    (b.spawnOn t).PumpAt me h p :=
  submit (b := { b with tracker := b.tracker.started }) hp ht

/-- Another task has its turn. -/
theorem takeTurn (hp : b.PumpAt none h p) (hne : ∀ q, p = some q → q.id ≠ id) :
    (b.takeTurn id).PumpAt (some id) h p := by
  cases p with
  | none => exact fun t hm _ => hp t hm nofun
  | some q => exact ⟨fun he => hne q rfl (Option.some.inj he), hp.2⟩

/-- A turn ends in another place. -/
theorem setTask (hp : b.PumpAt (some id) h p) {t' : Task} (ht' : t'.pumped? ≠ some h) :
    (b.setTask id t').PumpAt none h p := by
  cases p with
  | none =>
    intro t hm _
    obtain ⟨u, hu, rfl⟩ := List.mem_map.1 hm
    split
    · exact ht'
    · rename_i hne
      exact hp u hu fun he => hne (Option.some.inj he)
  | some q =>
    obtain ⟨hme, e, he⟩ := hp
    exact ⟨nofun, e, List.mem_map.2 ⟨_, he, if_neg fun hid => hme (congrArg some hid)⟩⟩

/-- A task is taken up no more. -/
theorem concluded (hp : b.PumpAt (some id) h p) (hid : ∀ t ∈ b.tasks, t.1 ≠ id) :
    b.PumpAt none h p := by
  cases p with
  | none => exact fun t hm _ => hp t hm fun he => hid t hm (Option.some.inj he)
  | some q => exact ⟨nofun, hp.2⟩

/-- A task is over. -/
theorem conclude (hp : b.PumpAt (some id) h p) : (b.conclude id).PumpAt (some id) h p := by
  cases p with
  | none => exact fun t hm hme => hp t (List.mem_filter.1 hm).1 hme
  | some q =>
    obtain ⟨hme, e, he⟩ := hp
    exact ⟨hme, e, List.mem_filter.2 ⟨he, decide_eq_true fun hid => hme (congrArg some hid)⟩⟩

/-- No other task has the feed of the pump in hand. -/
theorem feed_ne {q : Pumping} {stream : Stream} (hp : b.PumpAt me h (some q))
    (hb : BridgeOK b me (some stream)) (n : Nat) (hn : q.stream.feed? = some n) :
    stream.feed? ≠ some n := by
  obtain ⟨hme, e, he⟩ := hp
  intro hs
  have hnd := hb.feeds
  simp only [Bridge.openFeeds, List.filterMap_append, List.nodup_append] at hnd
  have hq : q.stream ∈ (b.tasks.filter fun p => some p.1 ≠ me).filterMap (·.2.stream?) :=
    List.mem_filterMap.2 ⟨_, List.mem_filter.2 ⟨he, by simpa using hme⟩, rfl⟩
  refine hnd.2.2 n (List.mem_append_right _ (List.mem_filterMap.2 ⟨_, hq, hn⟩)) n ?_ rfl
  simp [hs]

end Bridge.PumpAt

/-- A reader has one pump at most. -/
theorem BridgeOK.pump_unique (hb : BridgeOK b me inHand) {t t' : TaskId × Task} (ht : t ∈ b.tasks)
    (ht' : t' ∈ b.tasks) (hp : t.2.pumped? = some h) (hp' : t'.2.pumped? = some h) : t = t' := by
  obtain ⟨l₁, l₂, hl⟩ := List.append_of_mem ht
  have hnd := hb.pumps
  simp only [hl, List.filterMap_append, List.filterMap_cons, hp, List.nodup_append,
    List.nodup_cons] at hnd
  rw [hl] at ht'
  rcases List.mem_append.1 ht' with hm | hm
  · exact absurd rfl (hnd.2.2 h (List.mem_filterMap.2 ⟨t', hm, hp'⟩) h List.mem_cons_self)
  · rcases List.mem_cons.1 hm with hm | hm
    · exact hm.symm
    · exact absurd (List.mem_filterMap.2 ⟨t', hm, hp'⟩) hnd.2.1.1

/-- The pump of a reader is the task that pumps for it. -/
theorem Bridge.PumpAt.eq_of_task? {id : TaskId} {e : Reader} {stream : Stream}
    {frame : Option Frame} (hp : b.PumpAt none h p) (hb : BridgeOK b none none)
    (ht : b.task? id = some (.pump h e stream frame)) : p = some ⟨id, stream, frame⟩ := by
  have hmem := Bridge.mem_of_task? ht
  cases p with
  | none => exact absurd rfl (hp _ hmem nofun)
  | some q =>
    obtain ⟨-, e', he'⟩ := hp
    have := hb.pump_unique he' hmem rfl rfl
    simp only [Prod.mk.injEq, Task.pump.injEq] at this
    obtain ⟨h1, -, -, h2, h3⟩ := this
    rw [← h1, ← h2, ← h3]

/-! ## Moves -/

/-- The frames of a reader are on their way through the bridge, where its pump is in this place. -/
structure Bridge.Carries (b : Bridge) (me : Option TaskId) (h : ReaderHandle) (feed : Option Nat)
    (p : Option Pumping) (Z T F : List Frame) : Prop where
  issued : b.registry.readers.Issued h
  pump : b.PumpAt me h p
  flow : Flow (b.registry.reader h) b.service feed p Z T F
  fits : (b.registry.reader h).Fits (max b.config.chunkBuffer.toNat 1)

/-- The frames of a reader that a move has taken. -/
def Note.framesOf (h : ReaderHandle) : Note → List Frame
  | .took x fs => if x = h then fs else []
  | .aside | .opened _ | .created _ | .executed _ => []

theorem Bridge.Carries.aside (hc : b.Carries me h feed p Z T F) (ha : b.Aside b') :
    b'.Carries me h feed p Z T F :=
  ⟨ha.registry ▸ hc.issued, hc.pump.of_tasks ha.tasks,
    ha.registry ▸ hc.flow.service (.of_feeds ha.feeds), by
      rw [ha.registry, ha.config]
      exact hc.fits⟩

/-- Who has reached the end of a stream leaves no more frames behind than there were. -/
theorem Registry.exhaust_fits {r : Registry} {n : Nat} (hs : (r.reader h).Fits n)
    (x : ReaderHandle) (e : Reader) : ((r.exhaust x e).reader h).Fits n := by
  rw [Registry.exhaust_reader]
  by_cases hx : h = x
  · subst hx
    exact Registry.reader_modify_imp (P := (ReaderStatus.Fits · n)) r h (·.spent) h hs
  · rw [Registry.reader_modify_of_ne _ _ hx]
    exact hs

/-- Another task drops the rest of its stream. -/
theorem Bridge.Carries.dropStream (hc : b.Carries me h feed p Z T F) {stream : Stream}
    (hb : BridgeOK b me (some stream)) : (b.dropStream stream).Carries me h feed p Z T F := by
  refine ⟨hc.issued, hc.pump.of_tasks rfl, ?_, hc.fits⟩
  show Flow (b.registry.reader h) (b.service.dropStream stream) feed p Z T F
  cases stream with
  | fixed frames => exact hc.flow
  | live n =>
    cases p with
    | none =>
      refine hc.flow.withoutPump (Nat.le_of_eq (List.length_modify _ _ _).symm) fun hr => ?_
      exact hr.modifyFeed n fun _ ho => ho
    | some q =>
      -- two tasks never hold one feed
      obtain ⟨hfeed, -⟩ := hc.flow.pumping q rfl
      refine hc.flow.service (.modifyFeed _ n _ ?_)
      rintro rfl
      exact hc.pump.feed_ne hb n hfeed rfl

/-- The reader is as it was. -/
theorem Bridge.Carries.withRegistry (hc : b.Carries me h feed p Z T F) {r : Registry}
    (hi : r.readers.Issued h) (hst : r.reader h = b.registry.reader h) :
    (b.withRegistry r).Carries me h feed p Z T F := by
  refine ⟨hi, hc.pump.of_tasks rfl, ?_, ?_⟩
  · show Flow (r.reader h) b.service feed p Z T F
    rw [hst]
    exact hc.flow
  · show (r.reader h).Fits (max b.config.chunkBuffer.toNat 1)
    rw [hst]
    exact hc.fits

/-- The channel of another reader changes. -/
theorem Bridge.Carries.modifyReader (hc : b.Carries me h feed p Z T F) {x : ReaderHandle}
    (hx : h ≠ x) (g : ReaderStatus → ReaderStatus) :
    (b.modifyReader x g).Carries me h feed p Z T F :=
  hc.withRegistry hc.issued (Registry.reader_modify_of_ne _ _ hx)

/-- New work is left to the background that does not bring frames to the reader. -/
theorem Bridge.Carries.spawnOn (hc : b.Carries me h feed p Z T F) {t : Task}
    (ht : t.pumped? ≠ some h) : (b.spawnOn t).Carries me h feed p Z T F :=
  ⟨hc.issued, hc.pump.spawnOn ht, hc.flow, hc.fits⟩

/-- **A move of another task** takes what it says, and leaves the rest of the way as it is. -/
theorem Move.carries {n : Note} (hm : Move me b inHand n b' inHand') (hb : BridgeOK b me inHand)
    (hc : b.Carries me h feed p Z T F) : b'.Carries me h feed p Z (T ++ n.framesOf h) F := by
  -- in every case: is it this reader that the move is about?
  obtain ⟨hold, hp, hf, hfits⟩ := id hc
  have hissued := (hm.ok hb).2.1.registry.readIssued hold
  have hnil : T ++ [] = T := List.append_nil T
  cases hm with
  | aside ha =>
    rw [Note.framesOf, hnil]
    exact hc.aside ha
  | close hcl =>
    rename_i r
    rw [Note.framesOf, hnil]
    rcases hcl.status hb.registry h with hst | ⟨-, hst⟩
    · exact hc.withRegistry hissued hst
    · refine ⟨hissued, hp, hf.closed (congrArg ReaderStatus.state hst), ?_⟩
      show (r.reader h).Fits (max b.config.chunkBuffer.toNat 1)
      rw [hst]
      exact hfits.closed true
  | farewell client left =>
    rw [Note.framesOf, hnil]
    exact hc.spawnOn nofun
  | opened ha =>
    rw [Note.framesOf, hnil]
    exact hc.withRegistry hissued (Registry.addConnection_reader ha h)
  | created ha hce hcl =>
    rw [Note.framesOf, hnil]
    exact hc.withRegistry hissued (Registry.addSession_reader ha h)
  | claimed text =>
    refine ⟨hissued, hp, ?_, hfits⟩
    rw [Note.framesOf, hnil]
    exact hf.service (.of_feeds (by rw [← (b.service.takeStream_queries text).1]; rfl))
  | dropped stream =>
    rw [Note.framesOf, hnil]
    exact hc.dropStream hb
  | executed hch ha hse hsc =>
    rename_i stream e x r ch se
    obtain ⟨t, hal, -⟩ := addReader_eq_ok ha
    have hne := HandleTable.ne_of_issued hal hold
    have hst := (addReader_status ha ((hb.registry.sessOpen _).2 ⟨se, hse⟩)).2 h
    rw [if_neg hne] at hst
    rw [Note.framesOf, hnil]
    -- the new pump brings frames to another reader
    exact (hc.withRegistry hissued hst).spawnOn fun hx => hne (Option.some.inj hx).symm
  | cursor x hg =>
    rw [Note.framesOf, hnil]
    rename_i g
    by_cases hx : h = x
    · subst hx
      refine ⟨hissued, hp, ?_, Registry.reader_modify_imp (P := (ReaderStatus.Fits · _)) _ h
        (·.aside hg) h hfits⟩
      refine Registry.reader_modify_imp (P := fun s => Flow s b.service feed p Z T F) _ h ?_ h hf
      refine fun hf => hf.status hg.state hg.isReceiving ?_
      simp only [ReaderStatus.contents, hg.held, hg.isReceiving, hg.buffer]
    · exact hc.modifyReader hx g
  | took hst hg =>
    rename_i x g fs
    by_cases hx : h = x
    · subst hx
      refine ⟨hissued, hp, ?_, Registry.reader_modify_imp (P := (ReaderStatus.Fits · _)) _ h
        (·.gives hg) h hfits⟩
      show Flow ((b.registry.modifyReader h g).reader h) _ _ _ _ _ _
      rw [Registry.reader_modify _ _ hst, if_pos rfl, Note.framesOf, if_pos rfl]
      exact hf.gives hst hg
    · rw [Note.framesOf, if_neg (Ne.symm hx), hnil]
      exact hc.modifyReader hx g
  | finished hst hg he =>
    rename_i x e g fs
    refine ⟨hissued, hp, ?_, Registry.exhaust_fits ?_ x e⟩
    rotate_left
    · by_cases hx : h = x
      · subst hx
        exact Registry.reader_modify_imp (P := (ReaderStatus.Fits · _)) _ h (·.gives hg) h hfits
      · rw [Registry.reader_modify_of_ne _ _ hx]
        exact hfits
    show Flow (((b.registry.modifyReader x g).exhaust x e).reader h) _ _ _ _ _ _
    rw [Registry.exhaust_reader]
    by_cases hx : h = x
    · subst hx
      have hst' : ((b.registry.modifyReader h g).reader h).state ≠ .closed := by
        rw [Registry.reader_modify _ _ hst, if_pos rfl, hg.state]
        exact hst
      rw [Registry.reader_modify _ _ hst', if_pos rfl, Registry.reader_modify _ _ hst, if_pos rfl,
        Note.framesOf, if_pos rfl]
      exact hf.finishes hst hg
    · rw [Registry.reader_modify_of_ne _ _ hx, Registry.reader_modify_of_ne _ _ hx, Note.framesOf,
        if_neg (Ne.symm hx), hnil]
      exact hf
  | finishedAgain hst he =>
    rename_i x e
    refine ⟨hissued, hp, ?_, Registry.exhaust_fits hfits x e⟩
    show Flow ((b.registry.exhaust x e).reader h) _ _ _ _ _ _
    rw [Registry.exhaust_reader]
    by_cases hx : h = x
    · subst hx
      have hst' : (b.registry.reader h).state ≠ .closed := by simp [hst]
      rw [Registry.reader_modify _ _ hst', if_pos rfl, Note.framesOf, if_pos rfl, hnil]
      exact hf.finishesAgain hst
    · rw [Registry.reader_modify_of_ne _ _ hx, Note.framesOf, if_neg (Ne.symm hx), hnil]
      exact hf

/-- **The moves of another task** take what they say. -/
theorem Moves.carries {ns : List Note} (hm : Moves me b inHand ns b' inHand')
    (hb : BridgeOK b me inHand) (hc : b.Carries me h feed p Z T F) :
    b'.Carries me h feed p Z (T ++ ns.flatMap (Note.framesOf h)) F := by
  induction hm generalizing T with
  | nil => simpa using hc
  | cons h1 _ ih =>
    rw [List.flatMap_cons, ← List.append_assoc]
    exact ih (h1.ok hb).1 (h1.carries hb hc)

/-- What happens quietly takes nothing. -/
theorem Quietly.carries (hq : Quietly me b inHand b' inHand') (hb : BridgeOK b me inHand)
    (hc : b.Carries me h feed p Z T F) : b'.Carries me h feed p Z T F := by
  obtain ⟨ns, hm, hn⟩ := hq
  have h1 := hm.carries hb hc
  rwa [List.flatMap_eq_nil_iff.2 fun n hx => by rw [hn n hx]; rfl, List.append_nil] at h1

/-! ## Turns -/

namespace Bridge

variable {id : TaskId}

namespace Carries

theorem takeTurn (hc : b.Carries none h feed p Z T F) (hne : ∀ q, p = some q → q.id ≠ id) :
    (b.takeTurn id).Carries (some id) h feed p Z T F :=
  ⟨hc.issued, hc.pump.takeTurn hne, hc.flow, hc.fits⟩

theorem setTask (hc : b.Carries (some id) h feed p Z T F) {t' : Task} (ht' : t'.pumped? ≠ some h) :
    (b.setTask id t').Carries none h feed p Z T F :=
  ⟨hc.issued, hc.pump.setTask ht', hc.flow, hc.fits⟩

theorem conclude (hc : b.Carries (some id) h feed p Z T F) :
    (b.conclude id).Carries (some id) h feed p Z T F :=
  ⟨hc.issued, hc.pump.conclude, hc.flow, hc.fits⟩

theorem concluded (hc : b.Carries (some id) h feed p Z T F) (hid : ∀ t ∈ b.tasks, t.1 ≠ id) :
    b.Carries none h feed p Z T F := ⟨hc.issued, hc.pump.concluded hid, hc.flow, hc.fits⟩

end Carries

/-- A turn in the background, of another task than the pump of the reader, or that ends it. -/
theorem afterBackground_carries {r : Progress Task Unit × Bridge}
    (hc : r.2.Carries (some id) h feed p Z T F)
    (ht : ∀ t', r.1 = .waits t' ∨ r.1 = .goesOn t' → t'.pumped? ≠ some h) :
    (afterBackground id r).Carries none h feed p Z T F := by
  obtain ⟨q, b⟩ := r
  cases q with
  | ends u =>
    have hw : (b.conclude id).Aside (b.concludeBackground id) :=
      ((b.conclude id).tracker_aside _).trans (wakeAll_aside _ _)
    exact (hc.conclude.concluded (BridgeOK.conclude_not_mem b id)).aside hw
  | waits t' => exact hc.setTask (ht t' (.inl rfl))
  | goesOn t' =>
    exact (hc.setTask (ht t' (.inr rfl))).aside (goOn_aside _ id)

theorem pollCall_carries {request : Option UInt64} {stage : Stage}
    (hc : (b.turn id stage).2.Carries (some id) h feed p Z T F) :
    (b.pollCall id request stage).2.Carries none h feed p Z T F := by
  unfold pollCall
  split <;> rename_i hr <;> rw [hr] at hc
  · exact hc.conclude.concluded (BridgeOK.conclude_not_mem _ id)
  · rename_i s b₁
    have h1 : (b₁.setTask id (.call request s)).Carries none h feed p Z T F := hc.setTask nofun
    dsimp only
    split
    · exact h1.aside (wake_aside _ id)
    · exact h1
  · rename_i s b₁
    have h1 : (b₁.setTask id (.call request s)).Carries none h feed p Z T F := hc.setTask nofun
    exact h1.aside (goOn_aside _ id)

/-- The pump is no other task. -/
theorem Carries.pump_ne (hc : b.Carries none h feed p Z T F) (hb : BridgeOK b none none) {t : Task}
    (ht : b.task? id = some t) (hp : t.pumped? ≠ some h) (q : Pumping) (hq : p = some q) :
    q.id ≠ id := by
  subst hq
  obtain ⟨-, e, he⟩ := hc.pump
  rintro rfl
  have := task?_of_mem hb.nodup he
  rw [ht, Option.some.injEq] at this
  exact hp (this ▸ rfl)

/-- **A turn of a farewell** leaves the frames where they are. -/
theorem farewell_carries {client : ClientId} {held : Option Held} {left : List RemoteClose}
    (hb : BridgeOK b none none) (ht : b.task? id = some (.farewell client held left))
    (hc : b.Carries none h feed p Z T F) :
    (afterBackground id ((b.takeTurn id).farewell id client held left)).Carries none h feed p Z T
      F := by
  have h1 := hc.takeTurn (hc.pump_ne hb ht nofun)
  have hq : Quietly (some id) (b.takeTurn id) none
      ((b.takeTurn id).farewell id client held left).2 none :=
    farewell_quietly _ id client held left
  refine afterBackground_carries (hq.carries (hb.takeTurn ht) h1) fun t' ht' => ?_
  obtain ⟨held', left', rfl⟩ := farewell_place _ id client held left ht'
  nofun

/-- Another pump takes a frame off its stream. -/
theorem Carries.nextFrame (hc : b.Carries me h feed p Z T F) {stream stream' : Stream} {f : Frame}
    {s : Service} (hb : BridgeOK b me (some stream))
    (hn : b.service.nextFrame? stream = some (f, stream', s)) :
    (b.withService s).Carries me h feed p Z T F := by
  refine ⟨hc.issued, hc.pump.of_tasks rfl, ?_, hc.fits⟩
  show Flow (b.registry.reader h) s feed p Z T F
  cases stream with
  | fixed frames =>
    cases frames <;> simp only [Service.nextFrame?, Option.some.injEq, Prod.mk.injEq] at hn <;>
      obtain ⟨-, -, rfl⟩ := hn <;> exact hc.flow
  | live n =>
    simp only [Service.nextFrame?] at hn
    split at hn
    · obtain ⟨-, -, rfl⟩ := by simpa using hn
      exact hc.flow
    · split at hn
      · obtain ⟨-, -, rfl⟩ := by simpa using hn
        cases p with
        | none =>
          refine hc.flow.withoutPump (Nat.le_of_eq (List.length_modify _ _ _).symm) fun hr => ?_
          exact hr.modifyFeed n fun _ ho => ho
        | some q =>
          obtain ⟨hfeed, -⟩ := hc.flow.pumping q rfl
          refine hc.flow.service (.modifyFeed _ n _ ?_)
          rintro rfl
          exact hc.pump.feed_ne hb n hfeed rfl
      · split at hn
        · cases hn
        · obtain ⟨-, -, rfl⟩ := by simpa using hn
          exact hc.flow

/-- **A turn of the pump of another reader** leaves the frames where they are. -/
theorem pump_carries_of_ne {x : ReaderHandle} {e : Reader} {stream : Stream} {frame : Option Frame}
    (hb : BridgeOK b none none) (ht : b.task? id = some (.pump x e stream frame)) (hx : x ≠ h)
    (hc : b.Carries none h feed p Z T F) :
    (afterBackground id ((b.takeTurn id).pump id x e stream frame)).Carries none h feed p Z T
      F := by
  have hpx : ∀ stream frame, (Task.pump x e stream frame).pumped? ≠ some h := fun _ _ he =>
    hx (Option.some.inj he)
  have h1 := hc.takeTurn (hc.pump_ne hb ht (hpx _ _))
  have hok := hb.takeTurn ht
  have hq := (b.takeTurn id).pump_pumped id x e stream frame
  refine afterBackground_carries ?_ fun t' ht' => by
    obtain ⟨stream', frame', rfl⟩ := hq.place ht'
    exact hpx _ _
  generalize (b.takeTurn id).pump id x e stream frame = r at hq ⊢
  cases hq with
  | waits ha => exact h1.aside ha
  | full hg => exact h1.modifyReader hx.symm _
  | drew _ hn => exact h1.nextFrame hok hn
  | pushed _ _ _ hg ha => exact (h1.modifyReader hx.symm _).aside ha
  | finished _ _ _ hg hq => exact hq.carries (hok.takes hg).1 (h1.modifyReader hx.symm _)
  | stopped hq => exact hq.carries hok h1

/-- **A turn of the pump of the reader** brings its frames on, and takes none off the stream once
the reader is cancelled. -/
theorem pump_carries {e : Reader} {stream : Stream} {frame : Option Frame}
    (hb : BridgeOK b none none) (ht : b.task? id = some (.pump h e stream frame))
    (hc : b.Carries none h feed p Z T F) :
    ∃ p' Z' drawn, (afterBackground id ((b.takeTurn id).pump id h e stream frame)).Carries none h
      feed p' Z' T F ∧ Pumping.Brings p Z drawn p' Z' ∧
      (drawn.isSome = true → b.registry.isCancelled (e.scope h) = false) := by
  obtain ⟨hissued, hpump, hflow, hfits⟩ := hc
  have hmem := mem_of_task? ht
  -- the pump is the one that has its turn
  obtain rfl := hpump.eq_of_task? hb ht
  have hok := hb.takeTurn ht
  have hq := (b.takeTurn id).pump_pumped id h e stream frame
  have hafter := (pump_steps hok ht).later.registry.readIssued hissued
  -- the other tasks are no pumps of the reader
  have hnone : (b.takeTurn id).PumpAt (some id) h none := fun t hm hme hp =>
    hme (congrArg (fun t => some t.1) (hb.pump_unique hm hmem hp rfl))
  -- and the pump itself is where its turn leaves it
  have hstays : ∀ (b₁ : Bridge) stream' frame' Z', b₁.tasks = b.tasks →
      b₁.registry.readers.Issued h →
      Flow (b₁.registry.reader h) b₁.service feed (some ⟨id, stream', frame'⟩) Z' T F →
      (b₁.registry.reader h).Fits (max b₁.config.chunkBuffer.toNat 1) →
      (b₁.setTask id (.pump h e stream' frame')).Carries none h feed (some ⟨id, stream', frame'⟩)
        Z' T F :=
    fun b₁ stream' frame' Z' hb₁ hi hf hroom =>
      ⟨hi, ⟨nofun, e, List.mem_map.2 ⟨_, hb₁ ▸ hmem, if_pos rfl⟩⟩, hf, hroom⟩
  generalize (b.takeTurn id).pump id h e stream frame = r at hq hafter ⊢
  cases hq with
  | waits ha =>
    rename_i b'
    refine ⟨_, Z, none, hstays b' _ _ _ ha.tasks hafter ?_ ?_, .waits _ Z, nofun⟩ <;>
      rw [show b'.registry = b.registry from ha.registry]
    · exact hflow.service (.of_feeds ha.feeds)
    · rw [show b'.config = b.config from ha.config]
      exact hfits
  | full hg =>
    refine ⟨_, Z, none, hstays ((b.takeTurn id).modifyReader h _) _ _ _ rfl hafter ?_
      (Registry.reader_modify_imp (P := (ReaderStatus.Fits · _)) _ h (·.aside hg) h hfits),
      .waits _ Z, nofun⟩
    refine Registry.reader_modify_imp (P := fun s => Flow s b.service feed _ Z T F) _ h ?_ h hflow
    refine fun hf => hf.status hg.state hg.isReceiving ?_
    simp only [ReaderStatus.contents, hg.held, hg.isReceiving, hg.buffer]
  | drew hcan hn =>
    rename_i f stream' s'
    exact ⟨_, Z, some f, (hstays ((b.takeTurn id).withService s') _ _ _ rfl hafter (hflow.drew hn)
      hfits).aside (goOn_aside _ id), .drew, fun _ => hcan⟩
  | pushed hcan hrec hd hg ha =>
    rename_i f g b'
    refine ⟨_, Z ++ [f], none, (hstays b' _ _ _ ha.tasks hafter ?_ ?_).aside (goOn_aside _ id),
      .pushed, nofun⟩ <;>
      rw [show b'.registry = b.registry.modifyReader h g from ha.registry,
        Registry.reader_modify_of_receiving b.registry g hrec]
    · exact (hflow.pushed hrec hd hg).service (.of_feeds ha.feeds)
    · rw [show b'.config = b.config from ha.config]
      exact hfits.takes hflow hg
  | finished hcan hrec hterm hg hq =>
    rename_i f g b'
    have h1 : ((b.takeTurn id).modifyReader h g).Carries (some id) h feed none (Z ++ [f]) T F := by
      refine ⟨hissued, hnone.of_tasks rfl, ?_, ?_⟩
      · show Flow ((b.registry.modifyReader h g).reader h) b.service feed none _ T F
        rw [Registry.reader_modify_of_receiving b.registry g hrec]
        exact hflow.finished hrec hg
      · show ((b.registry.modifyReader h g).reader h).Fits _
        rw [Registry.reader_modify_of_receiving b.registry g hrec]
        exact hfits.takes hflow hg
    refine ⟨none, Z ++ [f], none, afterBackground_carries (hq.carries (hok.takes hg).1 h1) ?_,
      .finished, nofun⟩
    rintro t' (ht' | ht') <;> cases ht'
  | stopped hq =>
    have h1 : (b.takeTurn id).Carries (some id) h feed none Z T F :=
      ⟨hissued, hnone, hflow.stopped, hfits⟩
    refine ⟨none, Z, none, afterBackground_carries (hq.carries hok h1) ?_, .stopped _ Z, nofun⟩
    rintro t' (ht' | ht') <;> cases ht'

/-- **A turn of a call** takes what it tells of. -/
theorem call_carries {t : Task} {stage : Stage} (hb : BridgeOK b none none)
    (ht : b.task? id = some t) (hs : t.stage? = some stage) (hc : b.Carries none h feed p Z T F) :
    ∃ T', (b.poll id).2.Carries none h feed p Z (T ++ T') F ∧
      (stage.reader? ≠ some h → T' = []) ∧
      (stage.reader? = some h → bytesOf T' = ((b.takeTurn id).turn id stage).1.chunks ∧
        (((b.takeTurn id).turn id stage).1.tellsEnd = true →
          ((b.poll id).2.registry.reader h).state = .exhausted) ∧
        ∀ m, ((b.takeTurn id).turn id stage).1 = .ends (.failed (.transportFailure m)) →
          T'.getLast? = some (.failure m)) := by
  obtain ⟨hok, ns, hm, htells, -⟩ := call_turned hb ht hs
  have hnp : t.pumped? ≠ some h := by
    cases t with
    | pump => cases hs
    | _ => nofun
  have h1 := hm.carries hok (hc.takeTurn (hc.pump_ne hb ht hnp))
  refine ⟨ns.flatMap (Note.framesOf h), ?_, fun hne => ?_, fun hr => ?_⟩
  · rw [poll_call ht hs]
    exact pollCall_carries h1
  -- a call takes frames off the reader that it reads, and off no other one
  · refine List.flatMap_eq_nil_iff.2 fun n hn => ?_
    cases n with
    | took x fs =>
      refine if_neg ?_
      rintro rfl
      exact hne (htells.only x fs hn)
    | _ => rfl
  · have htaken : ns.flatMap (Note.framesOf h) = takenFrames ns := by
      refine List.flatMap_congr fun n hn => ?_
      cases n with
      | took x fs => exact if_pos (Option.some.inj ((htells.only x fs hn).symm.trans hr))
      | _ => rfl
    rw [htaken]
    refine ⟨htells.chunks, fun he => ?_, htells.failed⟩
    obtain ⟨x, hx, hex⟩ := htells.ended he
    obtain rfl : h = x := Option.some.inj (hr.symm.trans hx)
    rw [poll_call ht hs, pollCall_registry]
    exact hex

/-! ## Other events -/

theorem submit_carries (hc : b.Carries none h feed p Z T F) {t : Task} (ht : t.pumped? = none) :
    (b.submit t).2.Carries none h feed p Z T F :=
  ⟨hc.issued, hc.pump.submit (by rw [ht]; nofun), hc.flow, hc.fits⟩

/-- **A caller that gives up** takes nothing with it. -/
theorem abandon_carries (hb : BridgeOK b none none) (hc : b.Carries none h feed p Z T F)
    (id : TaskId) : (b.abandon id).Carries none h feed p Z T F := by
  have hconc : ∀ t, b.task? id = some t → t.pumped? = none →
      (b.conclude id).Carries (some id) h feed p Z T F := fun t ht hp =>
    have h1 := hc.takeTurn (hc.pump_ne hb ht (by rw [hp]; nofun))
    (h1.aside (b.takeTurn_aside id).symm).conclude
  unfold abandon
  split
  · rename_i text ht
    exact (hconc _ ht rfl).concluded (BridgeOK.conclude_not_mem b id)
  · rename_i envelope stage ht
    have hok := hb.givenUp ht
    rw [Task.stream?_call] at hok
    have hq := release_quietly (b.conclude id) id stage
    have h1 := hq.carries hok (hconc _ ht rfl)
    obtain ⟨ns, hm, -⟩ := hq
    obtain ⟨-, -, h2⟩ := hm.ok hok
    exact h1.concluded (h2.not_mem (hb.lt_nextTask ht) (BridgeOK.conclude_not_mem b id))
  · exact hc

/-- The frames of a list that someone may take when they are fed. -/
def accepted (b : Bridge) (n : Nat) (frames : List Frame) : List Frame :=
  (((b.feed n frames).1.zip frames).filter Prod.fst).map Prod.snd

/-- **Frames that are fed** are what the stream yields next. -/
theorem feed_carries (n : Nat) (frames : List Frame) (hc : b.Carries none h feed p Z T F) :
    (b.feed n frames).2.Carries none h feed p Z T
      (F ++ if feed = some n then b.accepted n frames else []) := by
  induction frames generalizing b F with
  | nil =>
    have hnil : (if feed = some n then b.accepted n [] else []) = [] := by split <;> rfl
    rw [hnil, List.append_nil]
    exact hc
  | cons f fs ih =>
    set b₁ := (b.withService (b.service.feed n f).2.2).wakeAll (b.service.feed n f).2.1.toList
      with hb₁
    have hstep : b.feed n (f :: fs) =
        ((b.service.feed n f).1 :: (b₁.feed n fs).1, (b₁.feed n fs).2) := rfl
    have hacc : b.accepted n (f :: fs) =
        (if (b.service.feed n f).1 = true then [f] else []) ++ b₁.accepted n fs := by
      unfold accepted
      rw [hstep, List.zip_cons_cons, List.filter_cons]
      split <;> rfl
    -- one frame
    have h1 : b₁.Carries none h feed p Z T
        (F ++ if feed = some n ∧ (b.service.feed n f).1 = true then [f] else []) := by
      refine Carries.aside (b := b.withService (b.service.feed n f).2.2) ?_ (wakeAll_aside _ _)
      refine ⟨hc.issued, hc.pump.of_tasks rfl, ?_, hc.fits⟩
      show Flow (b.registry.reader h) (b.service.feed n f).2.2 feed p Z T _
      unfold Service.feed
      split
      · simpa using hc.flow
      · rename_i x hx
        split
        · rename_i ho
          rw [Bool.and_eq_true] at ho
          by_cases hn : feed = some n
          · rw [if_pos ⟨hn, rfl⟩]
            exact hc.flow.fed hn hx ho.1 f
          · rw [if_neg fun h => hn h.1, List.append_nil]
            exact hc.flow.service (.modifyFeed _ n _ hn)
        · simpa using hc.flow
    have h2 := ih h1
    rw [hstep, hacc]
    by_cases hn : feed = some n
    · simpa only [hn, true_and, if_true, List.append_assoc] using h2
    · simpa only [hn, false_and, if_false, List.append_nil] using h2

/-- **What the service does** feeds the stream, or leaves the frames where they are. -/
theorem script_carries (hc : b.Carries none h feed p Z T F) (text : String) (script : Script) :
    (b.script text script).2.Carries none h feed p Z T F := by
  cases script with
  | frames frames =>
    exact ⟨hc.issued, hc.pump.of_tasks rfl, hc.flow.service fun _ _ => rfl, hc.fits⟩
  | live =>
    refine ⟨hc.issued, hc.pump.of_tasks rfl, hc.flow.service fun n hn => ?_, hc.fits⟩
    have hlt := hc.flow.exists_feed n hn
    show ((b.service.feeds ++ [_])[n]?).map Feed.content = _
    rw [List.getElem?_append_left hlt]

theorem endFeed_carries (hc : b.Carries none h feed p Z T F) (n : Nat) :
    (b.endFeed n).Carries none h feed p Z T F := by
  refine Carries.aside (b := b.withService (b.service.endFeed n).2) ?_ (wakeAll_aside _ _)
  exact ⟨hc.issued, hc.pump.of_tasks rfl, hc.flow.modifyFeed n (fun _ => rfl) (fun _ _ => rfl),
    hc.fits⟩

end Bridge

end QueryBridge
