import QueryBridge.Bridge.Inspect
import QueryBridge.Proofs.Bridge.Deeds

/-!
# The life of a reader handle

A reader handle goes one way. It is given out with a live reader; the reader may
be read to its end, and a marker stays; at last neither is there. Nobody comes
back, and a handle that is gone reaches nothing.

* `Registry.life`: the place of a handle in its life.
* `Bridge.lifeAfter`: where an event brings it, and nothing else does.
* `reader_life`: every event of every run, and what a handle answers in each place.
-/

namespace QueryBridge

variable {r r' : Registry} {b : Bridge} {h : ReaderHandle} {id : TaskId} {t : Task}

/-- The places in the life of a reader handle, in their order. -/
inductive ReaderLife
  /-- It has not been given out. -/
  | never
  /-- Its reader is live. -/
  | active
  /-- Its reader was read to the end, and the marker is there. -/
  | exhausted
  /-- It was given out, and neither is there. -/
  | gone
deriving DecidableEq

/-- How far a place is on the way. -/
def ReaderLife.rank : ReaderLife → Nat
  | never => 0
  | active => 1
  | exhausted => 2
  | gone => 3

/-- The place of a handle whose reader and marker are taken out. -/
def ReaderLife.closed : ReaderLife → ReaderLife
  | never => never
  | active | exhausted | gone => gone

/-- Whether a reader or its marker is there. -/
def ReaderLife.isThere : ReaderLife → Bool
  | active | exhausted => true
  | never | gone => false

theorem ReaderLife.isThere_iff {l : ReaderLife} :
    l.isThere = true ↔ l = active ∨ l = exhausted := by
  cases l <;> simp [isThere]

theorem ReaderLife.closed_eq_never {l : ReaderLife} : l.closed = never ↔ l = never := by
  cases l <;> simp [closed]

namespace Registry

/-- The place of a handle in its life. -/
def life (r : Registry) (h : ReaderHandle) : ReaderLife :=
  if (r.readers.get? h).isSome then .active
  else if r.exhausted.contains h then .exhausted
  else if r.readers.wasReleased h then .gone
  else .never

/-! ## Places by look-ups -/

theorem life_congr (hn : r'.readers.next = r.readers.next)
    (hg : r'.readers.get? h = r.readers.get? h) (hm : r'.exhausted.get? h = r.exhausted.get? h) :
    r'.life h = r.life h := by
  unfold life HandleMap.contains
  rw [hg, hm, HandleTable.wasReleased_congr hn hg]

theorem Alike.life (ha : r.Alike r') (h : ReaderHandle) : r'.life h = r.life h :=
  life_congr (by rw [ha.readers]) (by rw [ha.readers]) (by rw [ha.exhausted])

theorem life_of_live {e : Reader} (he : r.readers.get? h = some e) : r.life h = .active := by
  simp [life, he]

theorem life_of_marked (hg : r.readers.get? h = none) (hm : r.exhausted.get? h = some ()) :
    r.life h = .exhausted := by
  simp [life, HandleMap.contains, hg, hm]

/-- Without reader and marker, a handle is gone if it was given out. -/
theorem life_of_bare (hg : r.readers.get? h = none) (hm : r.exhausted.get? h = none) :
    (r.readers.Issued h → r.life h = .gone) ∧ (¬ r.readers.Issued h → r.life h = .never) := by
  have hreleased : r.readers.wasReleased h = true ↔ r.readers.Issued h := by
    rw [HandleTable.wasReleased_iff, hg]
    exact and_iff_left rfl
  constructor <;> intro hi
  · simp [life, HandleMap.contains, hg, hm, hreleased.2 hi]
  · simp [life, HandleMap.contains, hg, hm, mt hreleased.1 hi]

theorem live_of_life (hl : r.life h = .active) : ∃ e, r.readers.get? h = some e := by
  rw [← Option.isSome_iff_exists]
  unfold life at hl
  split at hl
  · assumption
  · split at hl <;> try split at hl
    all_goals cases hl

theorem marked_of_life (hl : r.life h = .exhausted) :
    r.readers.get? h = none ∧ r.exhausted.contains h = true := by
  unfold life at hl
  split at hl
  · cases hl
  · rename_i hg
    split at hl
    · rename_i hm
      exact ⟨by simpa using hg, hm⟩
    · split at hl <;> cases hl

theorem bare_of_life (hl : r.life h = .never ∨ r.life h = .gone) :
    r.readers.get? h = none ∧ r.exhausted.get? h = none := by
  unfold life HandleMap.contains at hl
  split at hl
  · rcases hl with hl | hl <;> cases hl
  · rename_i hg
    split at hl
    · rcases hl with hl | hl <;> cases hl
    · rename_i hm
      exact ⟨by simpa using hg, by simpa using hm⟩

/-- A handle is at the beginning as long as it has not been given out. -/
theorem life_eq_never (hr : RegistryOK r) : r.life h = .never ↔ ¬ r.readers.Issued h := by
  constructor
  · intro hl hi
    obtain ⟨hg, hm⟩ := bare_of_life (.inl hl)
    rw [(life_of_bare hg hm).1 hi] at hl
    cases hl
  · intro hi
    have hg : r.readers.get? h = none := by
      cases hg : r.readers.get? h with
      | none => rfl
      | some e => exact absurd (HandleTable.issued_of_get? hg) hi
    have hm : r.exhausted.get? h = none := by
      cases hm : r.exhausted.get? h with
      | none => rfl
      | some u =>
        obtain ⟨s, hs⟩ := hr.marked h (by rw [HandleMap.contains, hm]; rfl)
        exact absurd (hr.endedIssued h (hr.ended s h hs).1) hi
    exact (life_of_bare hg hm).2 hi

/-! ## Above a reader -/

/-- **A live session names each reader** that is there, and each marker. It is the
session of the reader as long as the reader is live. -/
theorem named_of_life (hr : RegistryOK r) (hl : (r.life h).isThere = true) :
    ∃ s e, r.sessions.get? s = some e ∧ r.names h s = true ∧
      ∀ x, r.readers.get? h = some x → x.session = s := by
  cases hplace : r.life h with
  | active =>
    obtain ⟨x, hx⟩ := live_of_life hplace
    obtain ⟨e, he, -⟩ := hr.readParent h x hx
    have hlisted : h ∈ (r.session x.session).readers := (hr.readers _ h).2 ⟨x, hx, rfl⟩
    refine ⟨x.session, e, he, names_iff.2 (.inl hlisted), fun y hy => ?_⟩
    rw [Option.some.inj (hx.symm.trans hy)]
  | exhausted =>
    obtain ⟨hg, hm⟩ := marked_of_life hplace
    obtain ⟨s, hs⟩ := hr.marked h hm
    obtain ⟨-, e, he⟩ := hr.ended s h hs
    refine ⟨s, e, he, names_iff.2 (.inr hs), fun x hx => ?_⟩
    rw [hg] at hx
    cases hx
  | never =>
    rw [hplace] at hl
    cases hl
  | gone =>
    rw [hplace] at hl
    cases hl

/-- Where something is registered, every session stays with what it names. -/
theorem Adds.names {new : Option Registration} (ha : r.Adds new r') (hr : RegistryOK r)
    {s : SessionHandle} {e : Session} (he : r.sessions.get? s = some e)
    (hn : r.names h s = true) : r'.sessions.get? s = some e ∧ r'.names h s = true := by
  cases ha with
  | nothing => exact ⟨he, hn⟩
  | opened ho =>
    obtain ⟨t, -, rfl⟩ := addConnection_eq_ok ho
    exact ⟨he, hn⟩
  | @created x s' r' ho =>
    obtain ⟨t, hal, rfl⟩ := addSession_eq_ok ho
    obtain ⟨-, -, -, hget⟩ := HandleTable.allocate_eq_ok hal
    have hne : s ≠ s' := HandleTable.ne_of_issued hal (HandleTable.issued_of_get? he)
    refine ⟨((hget s).trans (if_neg hne)).trans he, ?_⟩
    rw [names_iff] at hn ⊢
    simpa [session, modifyConnection, HandleMap.get?_insert, hne] using hn
  | @executed x ch h' r' ho =>
    obtain ⟨t, -, rfl⟩ := addReader_eq_ok ho
    refine ⟨he, ?_⟩
    rw [names_iff] at hn ⊢
    by_cases hs : s = x.session
    · subst hs
      set r₁ : Registry := { r with
        readers := t
        readerStatus := r.readerStatus.insert h' ⟨.active, false, ⟨none, []⟩, ch, true, none⟩ }
      have hopen : (r₁.session x.session).isOpen = true := (hr.sessOpen _).2 ⟨e, he⟩
      rw [session_modify r₁ _ hopen, if_pos rfl]
      exact hn.imp_left fun hl => List.mem_append_left _ hl
    · simpa [session, modifySession, HandleMap.get?_modify, hs] using hn

/-! ## What events do -/

/-- Whoever is taken out is gone. -/
theorem Takes.life {ts : List Target} (ht : r.Takes ts r') (hr : RegistryOK r)
    (h : ReaderHandle) :
    r'.life h = if ts.any (r.takesReader h) then (r.life h).closed else r.life h := by
  have hg := ht.readers h
  have hm := ht.exhausted h
  by_cases hts : ts.any (r.takesReader h) = true
  · rw [if_pos hts] at hg hm ⊢
    have hissued : r'.readers.Issued h ↔ r.readers.Issued h := by
      simp only [HandleTable.Issued, ht.readNext]
    by_cases hi : r.readers.Issued h
    · rw [(life_of_bare hg hm).1 (hissued.2 hi)]
      cases hl : r.life h with
      | never => exact absurd hi ((life_eq_never hr).1 hl)
      | _ => rfl
    · rw [(life_of_bare hg hm).2 (mt hissued.1 hi), (life_eq_never hr).2 hi]
      rfl
  · rw [if_neg hts] at hg hm ⊢
    exact life_congr ht.readNext hg hm

/-- Where a reading meets the end of its stream, the reader is exhausted; where
it meets the failure, the reader is gone. -/
theorem Reads.life {met : Option (ReaderHandle × StreamEnd)} (hx : r.Reads met r')
    (hr : RegistryOK r) (h : ReaderHandle) :
    r'.life h =
      if r.life h = .active ∧ met = some (h, .failed) then .gone
      else if r.life h = .active ∧ met = some (h, .finished) then .exhausted
      else r.life h := by
  -- nobody else is concerned
  have hother : ∀ {x : ReaderHandle} {m : StreamEnd}, x ≠ h ∨ r.life h ≠ .active →
      (if r.life h = .active ∧ some (x, m) = some (h, .failed) then ReaderLife.gone
        else if r.life h = .active ∧ some (x, m) = some (h, .finished) then .exhausted
        else r.life h) = r.life h := by
    intro x m hne
    rw [if_neg, if_neg]
    · rintro ⟨hl, he⟩
      rcases hne with hne | hne
      · exact hne (Prod.mk.inj (Option.some.inj he)).1
      · exact hne hl
    · rintro ⟨hl, he⟩
      rcases hne with hne | hne
      · exact hne (Prod.mk.inj (Option.some.inj he)).1
      · exact hne hl
  cases hx with
  | goesOn ha => simp [ha.life h]
  | @metAgain x m r' hg ha =>
    rw [ha.life h]
    refine (hother ?_).symm
    by_cases hxh : x = h
    · refine .inr fun hl => ?_
      obtain ⟨e, he⟩ := live_of_life hl
      rw [← hxh, hg] at he
      cases he
    · exact .inl hxh
  | @finished x e r₁ r' hg ha hx =>
    have hE := exhaust_of_active (ha.ok hr) (h := x) (e := e) (by rw [ha.readers]; exact hg)
    rw [hx.life h]
    by_cases hxh : h = x
    · subst hxh
      have hl := life_of_live hg
      rw [life_of_marked ((hE.readers h).trans (if_pos rfl)) ((hE.exhausted h).trans (if_pos rfl)),
        hl]
      simp
    · rw [hother (.inl (Ne.symm hxh)), ← ha.life h]
      exact life_congr hE.readNext ((hE.readers h).trans (if_neg hxh))
        ((hE.exhausted h).trans (if_neg hxh))
  | @failed x e r₁ r' hg ha hx =>
    have ht : r₁.Takes [.reader x] (r₁.closeReader x).2 := closeReader_takes (ha.ok hr) x
    rw [hx.life h, ht.life (ha.ok hr) h, ha.life h]
    by_cases hxh : x = h
    · subst hxh
      have hl := life_of_live hg
      simp [takesReader, hl, ReaderLife.closed]
    · rw [hother (.inl hxh)]
      simp [takesReader, hxh]

/-- A reader that is not closed is in the same place of the tree as before. -/
theorem Reads.takesReader {met : Option (ReaderHandle × StreamEnd)} (hx : r.Reads met r')
    (hr : RegistryOK r) (hne : ¬ (r.life h = .active ∧ met = some (h, .failed))) :
    r'.takesReader h = r.takesReader h := by
  have hcongr : ∀ {r₁ r₂ : Registry}, (∀ c, r₂.connection c = r₁.connection c) →
      r₂.names h = r₁.names h → r₂.takesReader h = r₁.takesReader h := by
    intro r₁ r₂ hc hn
    funext t
    cases t <;> simp only [Registry.takesReader, hc, hn]
  have halike : ∀ {r₁ r₂ : Registry}, r₁.Alike r₂ → r₂.takesReader h = r₁.takesReader h := by
    intro r₁ r₂ ha
    refine hcongr ha.connection ?_
    funext s
    rw [names, names, ha.session]
  cases hx with
  | goesOn ha => exact halike ha
  | metAgain hg ha => exact halike ha
  | @finished x e r₁ r' hg ha hx =>
    have hg₁ : r₁.readers.get? x = some e := by rw [ha.readers]; exact hg
    have hE := exhaust_of_active (ha.ok hr) hg₁
    rw [halike hx, ← halike ha]
    refine hcongr hE.connection ?_
    funext s
    rw [Bool.eq_iff_iff, names_iff, names_iff, hE.session]
    by_cases hs : s = e.session
    -- its session has it in the other list
    · by_cases hxh : h = x
      · have hlisted : h ∈ (r₁.session s).readers := by
          rw [(ha.ok hr).readers, hxh]
          exact ⟨e, hg₁, hs.symm⟩
        simp [hs, hxh] at hlisted ⊢
        exact .inl hlisted
      · simp [hs, hxh]
    · simp [hs]
  | @failed x e r₁ r' hg ha hx =>
    have hxh : x ≠ h := by
      rintro rfl
      exact hne ⟨life_of_live hg, rfl⟩
    have ht : r₁.Takes [.reader x] (r₁.closeReader x).2 := closeReader_takes (ha.ok hr) x
    rw [halike hx, ← halike ha]
    exact funext (ht.stays h (by simp [Registry.takesReader, hxh]))

/-- A handle is given out with its reader, and only at the beginning of its life. -/
theorem Adds.life {new : Option Registration} (ha : r.Adds new r') (hr : RegistryOK r)
    (h : ReaderHandle) :
    r'.life h = (if new = some (.executed h) then .active else r.life h) ∧
      (new = some (.executed h) → r.life h = .never) := by
  cases ha with
  | nothing => exact ⟨rfl, nofun⟩
  | opened ho =>
    obtain ⟨t, -, rfl⟩ := addConnection_eq_ok ho
    exact ⟨life_congr rfl rfl rfl, nofun⟩
  | created ho =>
    obtain ⟨t, -, rfl⟩ := addSession_eq_ok ho
    exact ⟨life_congr rfl rfl rfl, nofun⟩
  | @executed e ch x r' ho =>
    obtain ⟨t, hal, rfl⟩ := addReader_eq_ok ho
    obtain ⟨-, -, -, hget⟩ := HandleTable.allocate_eq_ok hal
    by_cases hx : x = h
    · subst hx
      refine ⟨?_, fun _ => (life_eq_never hr).2 fun hi => HandleTable.ne_of_issued hal hi rfl⟩
      rw [if_pos rfl]
      exact life_of_live ((hget x).trans (if_pos rfl))
    · have hne : (some (Registration.executed x)) ≠ some (.executed h) := fun he =>
        hx (Registration.executed.inj (Option.some.inj he))
      refine ⟨?_, fun he => absurd he hne⟩
      rw [if_neg hne]
      have hsame : t.get? h = r.readers.get? h := (hget h).trans (if_neg (Ne.symm hx))
      have hreleased := HandleTable.wasReleased_allocate hal h
      show (if (t.get? h).isSome then _ else if r.exhausted.contains h then _
        else if t.wasReleased h then _ else _) = _
      rw [hsame, hreleased]
      rfl

end Registry

/-! ## Every event -/

/-- **Where an event brings a reader handle.** A handle is given out with its
reader. The reader is exhausted where a reading meets the end of its stream. It is
gone where a reading meets the failure of the stream, and where it is closed or
what is above it. -/
def Bridge.lifeAfter (b : Bridge) (e : Event) (h : ReaderHandle) : ReaderLife → ReaderLife
  | .never => if b.registeredIn e = some (.executed h) then .active else .never
  | .active =>
    if b.metIn e = some (h, .failed) ∨ (b.closedIn e).any (b.registry.takesReader h) then .gone
    else if b.metIn e = some (h, .finished) then .exhausted
    else .active
  | .exhausted => if (b.closedIn e).any (b.registry.takesReader h) then .gone else .exhausted
  | .gone => .gone

theorem step_life (hb : BridgeOK b none none) (hspent : b.Spent) (e : Event) (h : ReaderHandle) :
    (b.step e).registry.life h = b.lifeAfter e h (b.registry.life h) := by
  obtain ⟨r₀, hx, hadds⟩ := step_deeds hb hspent e
  have hr₀ := hx.ok hb.registry
  have hread := hx.life hb.registry h
  have htakes := hx.takesReader (h := h) hb.registry
  have hclosed := (r₀.closeAll_takes (b.closedIn e) hr₀).life hr₀ h
  obtain ⟨hlast, hnew⟩ := hadds.life (r₀.closeAll_sound (b.closedIn e) hr₀).1 h
  -- whatever has begun its life is not given out
  have hold : r₀.life h ≠ .never → b.registeredIn e ≠ some (.executed h) := by
    intro hne hreg
    have hn := hnew hreg
    rw [hclosed] at hn
    split at hn
    · exact hne (ReaderLife.closed_eq_never.1 hn)
    · exact hne hn
  rw [hlast, hclosed]
  cases hl : b.registry.life h with
  | never =>
    have hstill : r₀.life h = .never := by simpa [hl] using hread
    have hafter : (if (b.closedIn e).any (r₀.takesReader h) then (r₀.life h).closed
        else r₀.life h) = .never := by
      rw [hstill]
      split <;> rfl
    rw [hafter]
    rfl
  | active =>
    by_cases hfailed : b.metIn e = some (h, .failed)
    · have hgone : r₀.life h = .gone := by simpa [hl, hfailed] using hread
      rw [if_neg (hold (by rw [hgone]; exact nofun)), hgone]
      simp [Bridge.lifeAfter, hfailed, ReaderLife.closed]
    · rw [htakes fun hne => hfailed hne.2]
      by_cases hfinished : b.metIn e = some (h, .finished)
      · have hended : r₀.life h = .exhausted := by simpa [hl, hfinished] using hread
        rw [if_neg (hold (by rw [hended]; exact nofun)), hended]
        simp [Bridge.lifeAfter, hfinished, ReaderLife.closed]
      · have hstill : r₀.life h = .active := by simpa [hl, hfailed, hfinished] using hread
        rw [if_neg (hold (by rw [hstill]; exact nofun)), hstill]
        simp [Bridge.lifeAfter, hfailed, hfinished, ReaderLife.closed]
  | exhausted =>
    have hstill : r₀.life h = .exhausted := by simpa [hl] using hread
    rw [if_neg (hold (by rw [hstill]; exact nofun)), hstill,
      htakes fun hne => by rw [hl] at hne; exact nomatch hne.1]
    rfl
  | gone =>
    have hstill : r₀.life h = .gone := by simpa [hl] using hread
    rw [if_neg (hold (by rw [hstill]; exact nofun)), hstill]
    exact ite_self _

/-- **As long as a reader or its marker is there**, the same closes reach it. -/
theorem step_takesReader (hb : BridgeOK b none none) (hspent : b.Spent) (e : Event)
    (h : ReaderHandle) (hl : (b.registry.life h).isThere = true)
    (hl' : ((b.step e).registry.life h).isThere = true) :
    (b.step e).registry.takesReader h = b.registry.takesReader h := by
  rw [step_life hb hspent] at hl'
  have hmet : ¬ (b.registry.life h = .active ∧ b.metIn e = some (h, .failed)) := by
    rintro ⟨hactive, hfailed⟩
    rw [hactive, Bridge.lifeAfter, if_pos (.inl hfailed)] at hl'
    cases hl'
  have huntaken : (b.closedIn e).any (b.registry.takesReader h) = false := by
    rw [Bool.eq_false_iff]
    intro htaken
    cases hplace : b.registry.life h with
    | active =>
      rw [hplace, Bridge.lifeAfter, if_pos (.inr htaken)] at hl'
      cases hl'
    | exhausted =>
      rw [hplace, Bridge.lifeAfter, if_pos htaken] at hl'
      cases hl'
    | never => rw [hplace] at hl; cases hl
    | gone => rw [hplace] at hl; cases hl
  obtain ⟨r₀, hx, hadds⟩ := step_deeds hb hspent e
  have hr₀ := hx.ok hb.registry
  have hread := hx.takesReader hb.registry hmet
  have ht := r₀.closeAll_takes (b.closedIn e) hr₀
  have hclosed := ht.stays h (by rw [hread]; exact huntaken)
  -- what names it then names it after a registration
  have hr₁ := (r₀.closeAll_sound (b.closedIn e) hr₀).1
  have hthere : ((r₀.closeAll (b.closedIn e)).life h).isThere = true := by
    rw [ht.life hr₀, if_neg (by rw [hread, huntaken]; exact Bool.false_ne_true),
      hx.life hb.registry, if_neg hmet]
    split
    · rfl
    · exact hl
  obtain ⟨s, x, hsession, hnames, -⟩ := Registry.named_of_life hr₁ hthere
  obtain ⟨hsession', hnames'⟩ := hadds.names hr₁ hsession hnames
  funext t
  rw [← hread, ← hclosed t, Bool.eq_iff_iff, hr₁.takesReader_iff hnames hsession]
  exact (step_steps hb e).ok.registry.takesReader_iff hnames' hsession'

/-! ## Every run -/

theorem Bridge.rank_le_lifeAfter (b : Bridge) (e : Event) (h : ReaderHandle) (l : ReaderLife) :
    l.rank ≤ (b.lifeAfter e h l).rank := by
  cases l with
  | never => exact Nat.zero_le _
  | active =>
    dsimp only [lifeAfter]
    split
    · decide
    · split <;> decide
  | exhausted =>
    dsimp only [lifeAfter]
    split <;> decide
  | gone => exact Nat.le_refl _

/-- No run brings a handle back. -/
theorem after_life (hb : b.Reachable) (h : ReaderHandle) (es : List Event) :
    (b.registry.life h).rank ≤ ((b.after es).registry.life h).rank := by
  induction es generalizing b with
  | nil => exact Nat.le_refl _
  | cons e es ih =>
    have hstep := b.rank_le_lifeAfter e h (b.registry.life h)
    rw [← step_life hb.ok hb.spent] at hstep
    exact Nat.le_trans hstep (ih (.step e hb))

/-! ## Answers -/

/-- What a caller is told that pulls from a reader, or asks for its state: at
once, and nothing changes. -/
structure Bridge.Answers (b : Bridge) (h : ReaderHandle) (next available : Outcome)
    (state : Except Failure ReaderState) : Prop where
  next : ∀ id t, b.task? id = some t → t.stage? = some (.fresh (.read h .next)) →
    b.poll id = (some (t.told next), (b.takeTurn id).conclude id)
  available : ∀ id t, b.task? id = some t → t.stage? = some (.fresh (.read h .available)) →
    b.poll id = (some (t.told available), (b.takeTurn id).conclude id)
  state : b.readerState h = state

/-- A handle whose stream was read to its end answers so. -/
theorem Bridge.answers_exhausted (hl : b.registry.life h = .exhausted) :
    b.Answers h (.replied (.chunk none)) (.replied (.batch [] true)) (.ok .exhausted) := by
  obtain ⟨hg, hm⟩ := Registry.marked_of_life hl
  have hfind : b.registry.findReader h = .ok none := by
    simp only [Registry.findReader, hg, hm, if_true]
  have hread : ∀ reading id, reading.isComplete = false →
      (b.takeTurn id).read id h reading = (b.takeTurn id).readEnd h reading := by
    intro reading id hcomplete
    unfold read
    rw [hcomplete, if_neg Bool.false_ne_true,
      show (b.takeTurn id).registry.findReader h = _ from hfind]
  refine ⟨fun id t ht hs => poll_of_turn ht hs (hread .next id rfl),
    fun id t ht hs => poll_of_turn ht hs (hread .available id rfl), ?_⟩
  unfold readerState
  rw [hfind]
  rfl

/-- A handle that is not in use answers that it is invalid. -/
theorem Bridge.answers_invalid (hl : b.registry.life h = .never ∨ b.registry.life h = .gone) :
    b.Answers h (.failed (.invalidHandle .reader h)) (.failed (.invalidHandle .reader h))
      (.error (.invalidHandle .reader h)) := by
  obtain ⟨hg, hm⟩ := Registry.bare_of_life hl
  have hfind : b.registry.findReader h = .error (.invalidHandle .reader h) := by
    simp [Registry.findReader, HandleMap.contains, hg, hm]
  have hread : ∀ reading id, reading.isComplete = false → (b.takeTurn id).read id h reading =
      (b.takeTurn id).readFailure h reading (.invalidHandle .reader h) := by
    intro reading id hcomplete
    unfold read
    rw [hcomplete, if_neg Bool.false_ne_true,
      show (b.takeTurn id).registry.findReader h = _ from hfind]
  refine ⟨fun id t ht hs => poll_of_turn ht hs (hread .next id rfl),
    fun id t ht hs => poll_of_turn ht hs (hread .available id rfl), ?_⟩
  unfold readerState
  rw [hfind]
  rfl

/-- Where neither reader nor marker is there, a close finds nothing. -/
theorem Bridge.closeReader_of_bare (hg : b.registry.readers.get? h = none)
    (hm : b.registry.exhausted.get? h = none) : b.closeReader h = b := by
  have herase : b.registry.exhausted.erase h = b.registry.exhausted := by
    refine HandleMap.ext_get? fun x => ?_
    rw [HandleMap.get?_erase]
    by_cases hx : x = h
    · rw [if_pos hx, hx, hm]
    · rw [if_neg hx]
  unfold closeReader
  rw [closeReader_of_not_live hg]
  show b.withRegistry { b.registry with exhausted := b.registry.exhausted.erase h } = b
  rw [herase]
  rfl

/-- **A reader handle goes one way.** Every event of every run brings it on as
`Bridge.lifeAfter` says, so nothing but that moves it, and it never comes back.
While its reader or its marker is there, it is reached by the closes of itself, of
one session and of the connection of that, and by the same ones as long as it
stays. As long as its marker is there, it answers that the stream has ended;
before it is given out and after it is gone it is invalid, and closing it changes
nothing. Closing never fails, and once is enough. -/
theorem reader_life (hb : b.Reachable) (h : ReaderHandle) :
    (∀ e, (b.step e).registry.life h = b.lifeAfter e h (b.registry.life h)) ∧
    (∀ es, (b.registry.life h).rank ≤ ((b.after es).registry.life h).rank) ∧
    ((b.registry.life h).isThere = true →
      (∃ s e, b.registry.sessions.get? s = some e ∧
        (∀ x, b.registry.readers.get? h = some x → x.session = s) ∧
        ∀ t, b.registry.takesReader h t = true ↔
          t = .reader h ∨ t = .session s ∨ t = .connection e.connection) ∧
      ∀ e, ((b.step e).registry.life h).isThere = true →
        (b.step e).registry.takesReader h = b.registry.takesReader h) ∧
    (b.registry.life h = .exhausted →
      b.Answers h (.replied (.chunk none)) (.replied (.batch [] true)) (.ok .exhausted)) ∧
    (b.registry.life h = .never ∨ b.registry.life h = .gone →
      b.Answers h (.failed (.invalidHandle .reader h)) (.failed (.invalidHandle .reader h))
        (.error (.invalidHandle .reader h)) ∧ b.closeReader h = b) ∧
    (∀ id t, b.task? id = some t → t.stage? = some (.fresh (.closeReader h)) →
      b.poll id = (some (t.told (.replied .done)), ((b.takeTurn id).closeReader h).conclude id)) ∧
    (b.closeReader h).closeReader h = b.closeReader h := by
  refine ⟨fun e => step_life hb.ok hb.spent e h, after_life hb h, fun hl => ⟨?_, fun e hl' => ?_⟩,
    Bridge.answers_exhausted, fun hl => ⟨Bridge.answers_invalid hl, ?_⟩, fun id t ht hs => ?_, ?_⟩
  · obtain ⟨s, e, he, hnames, hreader⟩ := Registry.named_of_life hb.ok.registry hl
    exact ⟨s, e, he, hreader, fun t => hb.ok.registry.takesReader_iff hnames he⟩
  · exact step_takesReader hb.ok hb.spent e h hl hl'
  · obtain ⟨hg, hm⟩ := Registry.bare_of_life hl
    exact Bridge.closeReader_of_bare hg hm
  · rw [Bridge.poll_call ht hs]
    rfl
  -- the first close has taken reader and marker
  · have ht := Registry.closeReader_takes hb.ok.registry h
    have htaken : [Target.reader h].any (b.registry.takesReader h) = true := by
      simp [Registry.takesReader]
    refine Bridge.closeReader_of_bare ?_ ?_ <;> rw [Bridge.closeReader_registry]
    · exact (ht.readers h).trans (if_pos htaken)
    · exact (ht.exhausted h).trans (if_pos htaken)

/-- A reader whose session is closed is gone, and closing it after that changes nothing. -/
theorem reader_life_oneOfEach :
    Bridge.oneOfEach.registry.life ⟨1⟩ = .active ∧
      (Bridge.oneOfEach.step (.close (.session ⟨1⟩))).registry.life ⟨1⟩ = .gone ∧
      (Bridge.oneOfEach.step (.close (.session ⟨1⟩))).closeReader ⟨1⟩ =
        Bridge.oneOfEach.step (.close (.session ⟨1⟩)) := by
  have hactive : Bridge.oneOfEach.registry.life ⟨1⟩ = .active := by decide +kernel
  have hb := Bridge.oneOfEach_reachable
  have hgone : (Bridge.oneOfEach.step (.close (.session ⟨1⟩))).registry.life ⟨1⟩ = .gone := by
    rw [(reader_life hb ⟨1⟩).1, hactive]
    decide +kernel
  have hinvalid := (reader_life (hb.step (.close (.session ⟨1⟩))) ⟨1⟩).2.2.2.2.1 (.inr hgone)
  exact ⟨hactive, hgone, hinvalid.2⟩

end QueryBridge
