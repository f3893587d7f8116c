import QueryBridge.Proofs.Registry.Closing
import QueryBridge.Service

/-!
# How far closes reach

Which handles a series of closes takes out can be told before the first of them:
a close takes out what it names and all below it, and the closes before it only
leave less to take.

* `Registry.close`, `Registry.closeAll`: closes, whether or not they find something.
* `Registry.takesSession`, `Registry.takesReader`: what a close takes out.
* `Registry.Takes`: the look-ups after a series of closes.
* `Registry.closeAll_takes`: every series of closes is like that.
-/

namespace QueryBridge

variable {r r' r'' : Registry} {t : Target} {ts : List Target}

namespace Registry

/-- A resource is closed, whether or not there is one. -/
def close (r : Registry) : Target → Registry
  | .connection c =>
    match r.closeConnection c with
    | .ok (_, _, r') => r'
    | .error _ => r
  | .session s =>
    match r.closeSession s with
    | .ok (_, r') => r'
    | .error _ => r
  | .reader h => (r.closeReader h).2

/-- Resources are closed one after another. -/
def closeAll (r : Registry) (ts : List Target) : Registry := ts.foldl close r

theorem closeAll_cons (r : Registry) (t : Target) (ts : List Target) :
    r.closeAll (t :: ts) = (r.close t).closeAll ts := rfl

/-- A close closes something, or finds nothing. -/
theorem close_cases (r : Registry) (t : Target) : r.close t = r ∨ r.CloseStep (r.close t) := by
  cases t with
  | connection c =>
    cases hc : r.closeConnection c with
    | error f => exact .inl (by simp only [close, hc])
    | ok p =>
      obtain ⟨e, ids, r'⟩ := p
      have h : r.close (.connection c) = r' := by simp only [close, hc]
      exact .inr (h ▸ .connection hc)
  | session s =>
    cases hc : r.closeSession s with
    | error f => exact .inl (by simp only [close, hc])
    | ok p =>
      obtain ⟨e, r'⟩ := p
      have h : r.close (.session s) = r' := by simp only [close, hc]
      exact .inr (h ▸ .session hc)
  | reader h => exact .inr (.reader r h)

theorem close_sound (r : Registry) (t : Target) : r.Sound (r.close t) := by
  intro hr
  rcases r.close_cases t with hc | hc
  · rw [hc]
    exact ⟨hr, .refl r⟩
  · exact hc.sound hr

theorem closeAll_sound (ts : List Target) (r : Registry) : r.Sound (r.closeAll ts) := by
  induction ts generalizing r with
  | nil => exact fun hr => ⟨hr, .refl r⟩
  | cons t ts ih => exact (r.close_sound t).trans (ih _)

/-! ## What closes take out -/

/-- Whether a close takes out a session. -/
def takesSession (r : Registry) (s : SessionHandle) : Target → Bool
  | .connection c => (r.sessions.get? s).any (·.connection = c)
  | .session x => x = s
  | .reader _ => false

/-- Whether a session names a reader: it lists it, or knows that it was read to its end. -/
def names (r : Registry) (h : ReaderHandle) (s : SessionHandle) : Bool :=
  (r.session s).readers.contains h || (r.session s).exhausted.contains h

/-- Whether a close takes out a reader, or the marker of one. -/
def takesReader (r : Registry) (h : ReaderHandle) : Target → Bool
  | .connection c => (r.connection c).sessions.any (r.names h)
  | .session s => r.names h s
  | .reader x => x = h

theorem names_iff {h : ReaderHandle} {s : SessionHandle} :
    r.names h s = true ↔ h ∈ (r.session s).readers ∨ h ∈ (r.session s).exhausted := by
  simp [names]

/-- The look-ups after a series of closes. -/
structure Takes (r : Registry) (ts : List Target) (r' : Registry) : Prop where
  connNext : r'.connections.next = r.connections.next
  sessNext : r'.sessions.next = r.sessions.next
  readNext : r'.readers.next = r.readers.next
  connections : ∀ c, r'.connections.get? c =
    if .connection c ∈ ts then none else r.connections.get? c
  sessions : ∀ s, r'.sessions.get? s =
    if ts.any (r.takesSession s) then none else r.sessions.get? s
  readers : ∀ h, r'.readers.get? h = if ts.any (r.takesReader h) then none else r.readers.get? h
  exhausted : ∀ h, r'.exhausted.get? h =
    if ts.any (r.takesReader h) then none else r.exhausted.get? h
  /-- Of what stays, it is known as before what would take it out. -/
  stays : ∀ h, ts.any (r.takesReader h) = false → ∀ t, r'.takesReader h t = r.takesReader h t

namespace Takes

theorem refl (r : Registry) : r.Takes [] r :=
  ⟨rfl, rfl, rfl, fun _ => (if_neg List.not_mem_nil).symm, fun _ => rfl, fun _ => rfl,
    fun _ => rfl, fun _ _ _ => rfl⟩

/-- One close after the other. -/
theorem trans (h₁ : r.Takes [t] r') (h₂ : r'.Takes ts r'') : r.Takes (t :: ts) r'' where
  connNext := h₂.connNext.trans h₁.connNext
  sessNext := h₂.sessNext.trans h₁.sessNext
  readNext := h₂.readNext.trans h₁.readNext
  connections c := by
    rw [h₂.connections, h₁.connections]
    by_cases hc : Target.connection c = t <;> simp [hc]
  sessions s := by
    rw [h₂.sessions]
    have h := h₁.sessions s
    rw [List.any_cons, List.any_nil, Bool.or_false] at h
    by_cases ht : r.takesSession s t = true
    · rw [if_pos ht] at h
      simp [ht, h]
    -- a session that stays is of the same connection
    · rw [if_neg ht] at h
      have hsame : r'.takesSession s = r.takesSession s := by
        funext t'
        cases t' <;> simp only [takesSession, h]
      simp [ht, h, hsame]
  readers h := by
    rw [h₂.readers, h₁.readers]
    by_cases ht : r.takesReader h t = true
    · simp [ht]
    · have hsame : r'.takesReader h = r.takesReader h := funext (h₁.stays h (by simpa using ht))
      simp [ht, hsame]
  exhausted h := by
    rw [h₂.exhausted, h₁.exhausted]
    by_cases ht : r.takesReader h t = true
    · simp [ht]
    · have hsame : r'.takesReader h = r.takesReader h := funext (h₁.stays h (by simpa using ht))
      simp [ht, hsame]
  stays h hts t' := by
    rw [List.any_cons, Bool.or_eq_false_iff] at hts
    have hsame : r'.takesReader h = r.takesReader h :=
      funext (h₁.stays h (by simpa using hts.1))
    rw [h₂.stays h (by rw [hsame]; exact hts.2), hsame]

end Takes

end Registry

/-! ## One close -/

/-- A reader whose marker is there is not live. -/
theorem RegistryOK.not_live_of_marked (hr : RegistryOK r) {h : ReaderHandle}
    {S : SessionHandle → Prop} (hm : r.MarkerIn S h) : r.readers.get? h = none := by
  obtain ⟨s, -, hs⟩ := hm
  refine hr.not_live ?_
  rw [(hr.ended s h hs).1]
  exact nofun

/-- A live reader has no marker. -/
theorem RegistryOK.not_marked (hr : RegistryOK r) {h : ReaderHandle} {e : Reader}
    (he : r.readers.get? h = some e) : r.exhausted.get? h = none := by
  cases hm : r.exhausted.get? h with
  | none => rfl
  | some u =>
    obtain ⟨s, hs⟩ := hr.marked h (by rw [HandleMap.contains, hm]; rfl)
    rw [hr.not_live_of_marked (S := fun _ => True) ⟨s, trivial, hs⟩] at he
    cases he

/-- At most one session names a reader. -/
theorem RegistryOK.names_unique (hr : RegistryOK r) {h : ReaderHandle} {s s' : SessionHandle}
    (hs : r.names h s = true) (hs' : r.names h s' = true) : s = s' := by
  -- what a session lists is live, and what has ended is not
  have hapart : ∀ s s', h ∈ (r.session s).readers → h ∉ (r.session s').exhausted := by
    intro s s' hl hm
    obtain ⟨e, he, -⟩ := (hr.readers s h).1 hl
    rw [hr.not_live_of_marked (S := fun _ => True) ⟨s', trivial, hm⟩] at he
    cases he
  rcases Registry.names_iff.1 hs with hl | hm <;> rcases Registry.names_iff.1 hs' with hl' | hm'
  · obtain ⟨e, he, hse⟩ := (hr.readers s h).1 hl
    exact hse.symm.trans (hr.session_of_listed hl' he)
  · exact absurd hm' (hapart s s' hl)
  · exact absurd hm (hapart s' s hl')
  · exact hr.owner s s' h hm hm'

/-- **A reader is taken out** where it is closed itself, or its session, or its connection. -/
theorem RegistryOK.takesReader_iff (hr : RegistryOK r) {h : ReaderHandle} {s : SessionHandle}
    {e : Session} (hn : r.names h s = true) (he : r.sessions.get? s = some e) :
    r.takesReader h t = true ↔ t = .reader h ∨ t = .session s ∨ t = .connection e.connection := by
  cases t with
  | reader x => simp [Registry.takesReader]
  | session x =>
    simp only [Registry.takesReader, reduceCtorEq, Target.session.injEq, false_or, or_false]
    exact ⟨fun hx => hr.names_unique hx hn, fun hx => hx ▸ hn⟩
  | connection c =>
    simp only [Registry.takesReader, reduceCtorEq, Target.connection.injEq, false_or,
      List.any_eq_true]
    constructor
    · rintro ⟨x, hx, hnx⟩
      obtain rfl := hr.names_unique hnx hn
      exact (hr.connection_of_listed hx he).symm
    · rintro rfl
      exact ⟨s, (hr.sessions _ s).2 ⟨e, he, rfl⟩, hn⟩

/-- What is taken out of a registry with all below it, told by the close. -/
theorem Pruned.takes {C : ConnectionHandle → Prop} {S : SessionHandle → Prop}
    {R : ReaderHandle → Prop} (hp : Pruned r r' C S R) (hr : RegistryOK r)
    (hC : ∀ c, C c ↔ t = .connection c) (hS : ∀ s, S s ↔ r.takesSession s t = true)
    (hR : ∀ h, r.takesReader h t = true ↔ R h ∨ r.MarkerIn S h)
    (hlive : ∀ h, R h → ∃ e, r.readers.get? h = some e)
    (hCS : ∀ c s, C c → s ∈ (r.connection c).sessions → S s)
    (hSR : ∀ s h, S s → h ∈ (r.session s).readers → R h) : r.Takes [t] r' := by
  have hany : ∀ f : Target → Bool, [t].any f = f t := by simp
  refine ⟨hp.connNext, hp.sessNext, hp.readNext, fun c => ?_, fun s => ?_, fun h => ?_,
    fun h => ?_, fun h hstays t' => ?_⟩
  · rw [hp.connections]
    by_cases hc : C c
    · rw [if_pos hc, if_pos (List.mem_singleton.2 ((hC c).1 hc).symm)]
    · rw [if_neg hc, if_neg fun hm => hc ((hC c).2 (List.mem_singleton.1 hm).symm)]
  · rw [hp.sessions, hany]
    by_cases hs : S s
    · rw [if_pos hs, if_pos ((hS s).1 hs)]
    · rw [if_neg hs, if_neg fun hm => hs ((hS s).2 hm)]
  · rw [hp.readers, hany]
    by_cases hh : R h
    · rw [if_pos hh, if_pos ((hR h).2 (.inl hh))]
    · rw [if_neg hh]
      split
      · rename_i ht
        exact hr.not_live_of_marked (((hR h).1 ht).resolve_left hh)
      · rfl
  · rw [hp.exhausted, hany]
    by_cases hm : r.MarkerIn S h
    · rw [if_pos hm, if_pos ((hR h).2 (.inr hm))]
    · rw [if_neg hm]
      split
      · rename_i ht
        obtain ⟨e, he⟩ := hlive h (((hR h).1 ht).resolve_right hm)
        exact hr.not_marked he
      · rfl
  · rw [hany, Bool.eq_false_iff, ne_eq, hR, not_or] at hstays
    obtain ⟨hh, hm⟩ := hstays
    -- the sessions that go do not name it, and those that stay name it as before
    have hgone : ∀ s, S s → r.names h s = false := by
      intro s hs
      rw [Bool.eq_false_iff, ne_eq, Registry.names_iff, not_or]
      exact ⟨fun hl => hh (hSR s h hs hl), fun hl => hm ⟨s, hs, hl⟩⟩
    have hnames : r'.names h = r.names h := by
      funext s
      rw [Bool.eq_iff_iff, Registry.names_iff, Registry.names_iff, hp.session]
      by_cases hs : S s
      · have hnot := hgone s hs
        rw [Bool.eq_false_iff, ne_eq, Registry.names_iff] at hnot
        simp [hs, hnot]
      · simp [hs, hh]
    cases t' with
    | connection c =>
      show (r'.connection c).sessions.any (r'.names h) = (r.connection c).sessions.any (r.names h)
      rw [hnames, hp.connection, Bool.eq_iff_iff, List.any_eq_true, List.any_eq_true]
      by_cases hc : C c
      · rw [if_pos hc]
        refine ⟨fun ⟨s, hs, _⟩ => absurd hs List.not_mem_nil, fun ⟨s, hs, hn⟩ => ?_⟩
        rw [hgone s (hCS c s hc hs)] at hn
        cases hn
      · rw [if_neg hc]
        constructor
        · rintro ⟨s, hs, hn⟩
          exact ⟨s, (List.mem_filter.1 hs).1, hn⟩
        · rintro ⟨s, hs, hn⟩
          refine ⟨s, List.mem_filter.2 ⟨hs, ?_⟩, hn⟩
          refine @decide_eq_true _ (_) fun hS' => ?_
          rw [hgone s hS'] at hn
          cases hn
    | session s => exact congrFun hnames s
    | reader x => rfl

namespace Registry

/-- A close of what is not there takes out nothing. -/
theorem takes_nothing (hc : ∀ c, t = .connection c → r.connections.get? c = none)
    (hs : ∀ s, r.takesSession s t = true → r.sessions.get? s = none)
    (hh : ∀ h, r.takesReader h t = false) : r.Takes [t] r := by
  refine ⟨rfl, rfl, rfl, fun c => ?_, fun s => ?_, fun h => ?_, fun h => ?_, fun _ _ _ => rfl⟩
  · split
    · rename_i hm
      exact hc c (List.mem_singleton.1 hm).symm
    · rfl
  · split
    · rename_i hm
      exact hs s (by simpa using hm)
    · rfl
  · rw [if_neg (by simp [hh])]
  · rw [if_neg (by simp [hh])]

theorem closeReader_takes (hr : RegistryOK r) (x : ReaderHandle) :
    r.Takes [.reader x] (r.close (.reader x)) := by
  cases hg : r.readers.get? x with
  | some e =>
    refine (closeReader_pruned hr hg).2.takes hr ?_ ?_ ?_ ?_ ?_ ?_
    · exact fun c => ⟨False.elim, nofun⟩
    · exact fun s => ⟨False.elim, nofun⟩
    · intro h
      rw [takesReader, decide_eq_true_eq]
      exact ⟨fun hx => .inl hx.symm, fun hx => (hx.resolve_right fun ⟨_, hs, _⟩ => hs).symm⟩
    · rintro h rfl
      exact ⟨e, hg⟩
    · exact fun _ _ hc => hc.elim
    · exact fun _ _ hs => hs.elim
  | none =>
    have hc : r.close (.reader x) = { r with exhausted := r.exhausted.erase x } :=
      congrArg Prod.snd (closeReader_of_not_live hg)
    rw [hc]
    refine ⟨rfl, rfl, rfl, fun c => ?_, fun s => rfl, fun h => ?_, fun h => ?_, fun _ _ t' => ?_⟩
    · simp
    · by_cases hx : x = h
      · subst hx
        simp [takesReader, hg]
      · simp [takesReader, hx]
    · show (r.exhausted.erase x).get? h = _
      rw [HandleMap.get?_erase]
      by_cases hx : h = x
      · simp [takesReader, hx]
      · simp [takesReader, hx, Ne.symm hx]
    · cases t' <;> rfl

theorem closeSession_takes (hr : RegistryOK r) (s : SessionHandle) :
    r.Takes [.session s] (r.close (.session s)) := by
  cases hg : r.sessions.get? s with
  | some e =>
    obtain ⟨r₁, hc, hp⟩ := closeSession_pruned hr hg
    have hclose : r.close (.session s) = r₁ := by simp only [close, hc]
    rw [hclose]
    refine hp.takes hr ?_ ?_ ?_ ?_ ?_ ?_
    · exact fun c => ⟨False.elim, nofun⟩
    · intro x
      rw [takesSession, decide_eq_true_eq]
      exact eq_comm
    · intro h
      rw [takesReader, names_iff, ← hr.readerIn_iff]
      constructor
      · exact Or.imp (fun hl => ⟨s, rfl, hl⟩) fun hl => ⟨s, rfl, hl⟩
      · rintro (⟨_, rfl, hl⟩ | ⟨_, rfl, hl⟩)
        · exact .inl hl
        · exact .inr hl
    · rintro h ⟨e', he', -⟩
      exact ⟨e', he'⟩
    · exact fun _ _ hc => hc.elim
    · rintro _ h rfl hl
      exact (hr.readers _ h).1 hl
  | none =>
    have hclose : r.close (.session s) = r := by
      simp [close, closeSession, detachSession, hg]
    rw [hclose]
    refine takes_nothing (fun c hc => ?_) (fun x hx => ?_) fun h => ?_
    · cases hc
    · rw [takesSession, decide_eq_true_eq] at hx
      rw [← hx, hg]
    -- a session that is not live names nobody
    · rw [takesReader, Bool.eq_false_iff, ne_eq, names_iff, hr.readers]
      rintro (⟨e, he, rfl⟩ | hl)
      · obtain ⟨e', he', -⟩ := hr.readParent h e he
        rw [hg] at he'
        cases he'
      · obtain ⟨-, e', he'⟩ := hr.ended s h hl
        rw [hg] at he'
        cases he'

theorem closeConnection_takes (hr : RegistryOK r) (c : ConnectionHandle) :
    r.Takes [.connection c] (r.close (.connection c)) := by
  have hsession : ∀ s, r.SessionOf c s ↔ r.takesSession s (.connection c) = true := by
    intro s
    rw [takesSession, Option.any_eq_true]
    simp only [decide_eq_true_eq]
    rfl
  cases hg : r.connections.get? c with
  | some e =>
    obtain ⟨r₁, hc, hp⟩ := closeConnection_pruned hr hg
    have hclose : r.close (.connection c) = r₁ := by simp only [close, hc]
    rw [hclose]
    refine hp.takes hr ?_ hsession ?_ ?_ ?_ ?_
    · exact fun x => ⟨fun hx => hx ▸ rfl, fun hx => (Target.connection.inj hx).symm⟩
    · intro h
      rw [takesReader, List.any_eq_true, ← hr.readerIn_iff]
      constructor
      · rintro ⟨s, hs, hn⟩
        have hs' : r.SessionOf c s := (hr.sessions c s).1 hs
        exact (names_iff.1 hn).imp (fun hl => ⟨s, hs', hl⟩) fun hl => ⟨s, hs', hl⟩
      · rintro (⟨s, hs, hl⟩ | ⟨s, hs, hl⟩)
        · exact ⟨s, (hr.sessions c s).2 hs, names_iff.2 (.inl hl)⟩
        · exact ⟨s, (hr.sessions c s).2 hs, names_iff.2 (.inr hl)⟩
    · rintro h ⟨e', he', -⟩
      exact ⟨e', he'⟩
    · rintro _ s rfl hs
      exact (hr.sessions _ s).1 hs
    · intro s h hs hl
      obtain ⟨e', he', rfl⟩ := (hr.readers s h).1 hl
      exact ⟨e', he', hs⟩
  | none =>
    have hclose : r.close (.connection c) = r := by
      simp only [close, closeConnection, hg]
    -- a connection that is not live has no sessions
    have hnone : ∀ s, ¬ r.SessionOf c s := by
      rintro s ⟨e, he, rfl⟩
      obtain ⟨ce, hce, -⟩ := hr.parent s e he
      rw [hg] at hce
      cases hce
    rw [hclose]
    refine takes_nothing (fun x hx => ?_) (fun s hs => absurd ((hsession s).2 hs) (hnone s))
      fun h => ?_
    · rw [← Target.connection.inj hx, hg]
    · rw [takesReader, List.any_eq_false]
      exact fun s hs => absurd ((hr.sessions c s).1 hs) (hnone s)

theorem close_takes (hr : RegistryOK r) (t : Target) : r.Takes [t] (r.close t) := by
  cases t with
  | connection c => exact closeConnection_takes hr c
  | session s => exact closeSession_takes hr s
  | reader x => exact closeReader_takes hr x

/-- **A series of closes takes out what each of them names**, with all below it. -/
theorem closeAll_takes (ts : List Target) (hr : RegistryOK r) : r.Takes ts (r.closeAll ts) := by
  induction ts generalizing r with
  | nil => exact .refl r
  | cons t ts ih => exact (close_takes hr t).trans (ih (r.close_sound t hr).1)

end Registry

end QueryBridge
