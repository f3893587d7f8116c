import QueryBridge.Proofs.Registry.Reach

/-!
# Patches

What a step does to the registry is a patch: what leaves the tables, which
markers come and which go, and what becomes of the statuses. The patch of a step
that is about one resource stays within the place of that resource in the tree.
Places of which neither is above the other have nothing in common, so two patches
there give the same in either order.

* `Patched.comm`: two patches that are apart, in either order.
* `Registry.Patch.Within.apart`: patches within unrelated places are apart.
* `Patched.keeps`: a patch leaves alone what is within an unrelated place.
* `close_patched`: a close is a patch within the place of what it closes.
-/

namespace QueryBridge

variable {r r' r₁ r₂ r₁₂ r₂₁ : Registry} {P Q : Scope} {t : Target}

/-- What a step takes out of a registry and puts into it. -/
structure Registry.Patch where
  /-- The connections, sessions and readers that leave the tables. -/
  connections : ConnectionHandle → Prop
  sessions : SessionHandle → Prop
  readers : ReaderHandle → Prop
  /-- The markers that go. -/
  markers : ReaderHandle → Prop
  /-- The readers of each session that get a marker. -/
  ended : SessionHandle → List ReaderHandle
  status : ReaderHandle → ReaderStatus → ReaderStatus

open Classical in
/-- The second registry is the first one with a patch. -/
structure Patched (r r' : Registry) (p : Registry.Patch) : Prop where
  connNext : r'.connections.next = r.connections.next
  sessNext : r'.sessions.next = r.sessions.next
  readNext : r'.readers.next = r.readers.next
  connections : ∀ c, r'.connections.get? c =
    if p.connections c then none else r.connections.get? c
  sessions : ∀ s, r'.sessions.get? s = if p.sessions s then none else r.sessions.get? s
  readers : ∀ h, r'.readers.get? h = if p.readers h then none else r.readers.get? h
  exhausted : ∀ h, r'.exhausted.get? h = if p.markers h then none else
    if ∃ s, h ∈ p.ended s then some () else r.exhausted.get? h
  connection : ∀ c, r'.connection c = if p.connections c then ⟨false, true, []⟩ else
    { r.connection c with sessions := (r.connection c).sessions.filter (¬ p.sessions ·) }
  session : ∀ s, r'.session s = if p.sessions s then ⟨false, true, [], []⟩ else
    { r.session s with
      readers := (r.session s).readers.filter (¬ p.readers ·)
      exhausted := (r.session s).exhausted ++ p.ended s }
  reader : ∀ h, r'.reader h = p.status h (r.reader h)

/-! ## Two patches -/

/-- The same registry, but for the order in which sessions know their exhausted readers. -/
structure Registry.Agrees (r r' : Registry) : Prop where
  connections : r'.connections = r.connections
  sessions : r'.sessions = r.sessions
  readers : r'.readers = r.readers
  exhausted : r'.exhausted = r.exhausted
  connection : ∀ c, r'.connection c = r.connection c
  session : ∀ s, (r'.session s).isOpen = (r.session s).isOpen ∧
    (r'.session s).isCancelled = (r.session s).isCancelled ∧
    (r'.session s).readers = (r.session s).readers ∧
    (r'.session s).exhausted.Perm (r.session s).exhausted
  reader : ∀ h, r'.reader h = r.reader h

/-- Neither patch touches what the other one puts in, and no reader is changed by both. -/
structure Registry.Patch.Apart (p q : Registry.Patch) : Prop where
  markers : ∀ s, ∀ h ∈ p.ended s, ¬ q.markers h
  markers' : ∀ s, ∀ h ∈ q.ended s, ¬ p.markers h
  ended : ∀ s, q.sessions s → p.ended s = []
  ended' : ∀ s, p.sessions s → q.ended s = []
  status : ∀ h, p.status h = id ∨ q.status h = id

/-- Two tables with the same counter and the same look-ups are the same table. -/
theorem HandleTable.ext_get? {kind : HandleKind} {α : Type} {t t' : HandleTable kind α}
    (hn : t.next = t'.next) (hg : ∀ h, t.get? h = t'.get? h) : t = t' := by
  obtain ⟨next, live, _, _⟩ := t
  obtain ⟨next', live', _, _⟩ := t'
  obtain rfl : next = next' := hn
  obtain rfl : live = live' := HandleMap.ext_get? hg
  rfl

/-- **Two patches that are apart** give the same in either order. -/
theorem Patched.comm {p q : Registry.Patch} (h₁ : Patched r r₁ p) (h₁₂ : Patched r₁ r₁₂ q)
    (h₂ : Patched r r₂ q) (h₂₁ : Patched r₂ r₂₁ p) (ha : p.Apart q) : r₁₂.Agrees r₂₁ where
  connections := by
    refine HandleTable.ext_get? ?_ fun c => ?_
    · rw [h₂₁.connNext, h₂.connNext, h₁₂.connNext, h₁.connNext]
    · rw [h₂₁.connections, h₂.connections, h₁₂.connections, h₁.connections]
      by_cases hp : p.connections c <;> by_cases hq : q.connections c <;> simp [hp, hq]
  sessions := by
    refine HandleTable.ext_get? ?_ fun s => ?_
    · rw [h₂₁.sessNext, h₂.sessNext, h₁₂.sessNext, h₁.sessNext]
    · rw [h₂₁.sessions, h₂.sessions, h₁₂.sessions, h₁.sessions]
      by_cases hp : p.sessions s <;> by_cases hq : q.sessions s <;> simp [hp, hq]
  readers := by
    refine HandleTable.ext_get? ?_ fun h => ?_
    · rw [h₂₁.readNext, h₂.readNext, h₁₂.readNext, h₁.readNext]
    · rw [h₂₁.readers, h₂.readers, h₁₂.readers, h₁.readers]
      by_cases hp : p.readers h <;> by_cases hq : q.readers h <;> simp [hp, hq]
  exhausted := by
    refine HandleMap.ext_get? fun h => ?_
    rw [h₂₁.exhausted, h₂.exhausted, h₁₂.exhausted, h₁.exhausted]
    -- a marker that the one puts in is not taken out by the other
    have hpq : q.markers h → ¬ ∃ s, h ∈ p.ended s := fun hq ⟨s, hs⟩ => ha.markers s h hs hq
    have hqp : p.markers h → ¬ ∃ s, h ∈ q.ended s := fun hp ⟨s, hs⟩ => ha.markers' s h hs hp
    by_cases hp : p.markers h
    · rw [if_pos hp, if_neg (hqp hp), if_pos hp, ite_self]
    · by_cases hq : q.markers h
      · rw [if_neg hp, if_pos hq, if_neg (hpq hq), if_pos hq]
      · simp only [hp, hq, if_false]
        split <;> split <;> rfl
  connection c := by
    rw [h₂₁.connection, h₂.connection, h₁₂.connection, h₁.connection]
    by_cases hp : p.connections c <;> by_cases hq : q.connections c <;>
      simp [hp, hq, List.filter_filter, Bool.and_comm]
  session s := by
    rw [h₂₁.session, h₂.session, h₁₂.session, h₁.session]
    by_cases hp : p.sessions s <;> by_cases hq : q.sessions s
    · simp [hp, hq]
    · simp [hp, hq, ha.ended' s hp]
    · simp [hp, hq, ha.ended s hq]
    · simp only [hp, hq, if_false, true_and]
      refine ⟨?_, ?_⟩
      · rw [List.filter_filter, List.filter_filter]
        simp only [Bool.and_comm]
      · rw [List.append_assoc, List.append_assoc]
        exact List.perm_append_comm.append_left _
  reader h := by
    rw [h₂₁.reader, h₂.reader, h₁₂.reader, h₁.reader]
    rcases ha.status h with hs | hs <;> rw [hs] <;> rfl

/-! ## Places -/

/-- Neither place is the other one or above it. -/
def Scope.IsUnrelated (P Q : Scope) : Prop := P.isWithin Q = false ∧ Q.isWithin P = false

theorem Scope.IsUnrelated.symm (h : P.IsUnrelated Q) : Q.IsUnrelated P := ⟨h.2, h.1⟩

theorem Scope.IsUnrelated.ne (h : P.IsUnrelated Q) : P ≠ Q := by
  rintro rfl
  have hself : P.isWithin P = true := by cases P <;> exact decide_eq_true rfl
  rw [h.1] at hself
  cases hself

namespace Registry

/-- The place of a live resource. -/
def place? (r : Registry) : Target → Option Scope
  | .connection c => (r.connections.get? c).map fun _ => .connection c
  | .session s => (r.sessions.get? s).map (·.scope s)
  | .reader h => (r.readers.get? h).map (·.scope h)

/-- The live sessions within a place. -/
def SessionWithin (r : Registry) (P : Scope) (s : SessionHandle) : Prop :=
  ∃ e, r.sessions.get? s = some e ∧ (e.scope s).isWithin P = true

/-- The live readers within a place. -/
def ReaderWithin (r : Registry) (P : Scope) (h : ReaderHandle) : Prop :=
  ∃ e, r.readers.get? h = some e ∧ (e.scope h).isWithin P = true

/-- A live resource is at the place. -/
def Placed (r : Registry) (P : Scope) : Prop := ∃ t, r.place? t = some P

/-- The places of live resources name the way to them. -/
theorem Placed.cases (h : r.Placed P) :
    (∃ c e, P = .connection c ∧ r.connections.get? c = some e) ∨
    (∃ s e, P = .session e.connection s ∧ r.sessions.get? s = some e) ∨
    ∃ h e, P = .reader e.connection e.session h ∧ r.readers.get? h = some e := by
  obtain ⟨t, ht⟩ := h
  cases t with
  | connection c =>
    obtain ⟨e, he, rfl⟩ := Option.map_eq_some_iff.1 ht
    exact .inl ⟨c, e, rfl, he⟩
  | session s =>
    obtain ⟨e, he, rfl⟩ := Option.map_eq_some_iff.1 ht
    exact .inr (.inl ⟨s, e, rfl, he⟩)
  | reader h =>
    obtain ⟨e, he, rfl⟩ := Option.map_eq_some_iff.1 ht
    exact .inr (.inr ⟨h, e, rfl, he⟩)

end Registry

/-- **Two places that a live session is within** are one above the other. -/
theorem Registry.SessionWithin.comparable (hP : r.Placed P) (hQ : r.Placed Q) {s : SessionHandle}
    (h₁ : r.SessionWithin P s) (h₂ : r.SessionWithin Q s) : ¬ P.IsUnrelated Q := by
  obtain ⟨e, he, h₁⟩ := h₁
  obtain ⟨e', he', h₂⟩ := h₂
  obtain rfl := Option.some.inj (he.symm.trans he')
  rintro ⟨hPQ, hQP⟩
  rcases hP.cases with ⟨c, ce, rfl, hc⟩ | ⟨x, se, rfl, hx⟩ | ⟨x, xe, rfl, hx⟩ <;>
    rcases hQ.cases with ⟨c', ce', rfl, hc'⟩ | ⟨x', se', rfl, hx'⟩ | ⟨x', xe', rfl, hx'⟩ <;>
    simp_all [Session.scope, Scope.isWithin]

namespace RegistryOK

/-- A live reader is within every place that its session is within. -/
theorem reader_within (hr : RegistryOK r) {h : ReaderHandle} {e : Reader}
    (he : r.readers.get? h = some e) (hs : r.SessionWithin P e.session) :
    (e.scope h).isWithin P = true := by
  obtain ⟨se, hse, hP⟩ := hs
  obtain ⟨se', hse', hconn⟩ := hr.readParent h e he
  obtain rfl := Option.some.inj (hse.symm.trans hse')
  cases P with
  | connection c => simpa [Session.scope, Reader.scope, Scope.isWithin, hconn] using hP
  | session c s => simpa [Session.scope, Reader.scope, Scope.isWithin] using hP
  | reader c s h => cases hP

/-- Within the place of a connection or a session are the readers of the sessions there. -/
theorem readerOf_within (hr : RegistryOK r) (hP : ∀ c s h, P ≠ .reader c s h) :
    r.ReaderOf (r.SessionWithin P) = r.ReaderWithin P := by
  funext h
  refine propext ⟨fun ⟨e, he, hs⟩ => ⟨e, he, hr.reader_within he hs⟩, fun ⟨e, he, hh⟩ => ?_⟩
  obtain ⟨se, hse, hconn⟩ := hr.readParent h e he
  refine ⟨e, he, se, hse, ?_⟩
  cases P with
  | connection c => simpa [Session.scope, Reader.scope, Scope.isWithin, hconn] using hh
  | session c s => simpa [Session.scope, Reader.scope, Scope.isWithin] using hh
  | reader c s x => exact absurd rfl (hP c s x)

/-- **Two places that a live reader is within** are one above the other. -/
theorem reader_comparable (hr : RegistryOK r) (hP : r.Placed P) (hQ : r.Placed Q)
    {h : ReaderHandle} (h₁ : r.ReaderWithin P h) (h₂ : r.ReaderWithin Q h) :
    ¬ P.IsUnrelated Q := by
  obtain ⟨e, he, h₁⟩ := h₁
  obtain ⟨e', he', h₂⟩ := h₂
  obtain rfl := Option.some.inj (he.symm.trans he')
  obtain ⟨se, hse, hconn⟩ := hr.readParent h e he
  rintro ⟨hPQ, hQP⟩
  rcases hP.cases with ⟨c, ce, rfl, hc⟩ | ⟨x, pe, rfl, hx⟩ | ⟨x, xe, rfl, hx⟩ <;>
    rcases hQ.cases with ⟨c', ce', rfl, hc'⟩ | ⟨x', pe', rfl, hx'⟩ | ⟨x', xe', rfl, hx'⟩ <;>
    simp_all [Reader.scope, Scope.isWithin]

end RegistryOK

/-! ## Patches within a place -/

/-- A patch changes nothing that is not within a place. A reader that gets a
marker is the one at the place. -/
structure Registry.Patch.Within (p : Registry.Patch) (r : Registry) (P : Scope) : Prop where
  connections : ∀ c, p.connections c → (Scope.connection c).isWithin P = true
  sessions : ∀ s, p.sessions s → r.SessionWithin P s
  readers : ∀ h, p.readers h → r.ReaderWithin P h
  markers : ∀ h, p.markers h → r.MarkerIn (r.SessionWithin P) h
  ended : ∀ s, ∀ h ∈ p.ended s, ∃ e, r.readers.get? h = some e ∧ e.session = s ∧ P = e.scope h
  status : ∀ h, p.status h = id ∨ r.ReaderWithin P h

namespace Registry.Patch.Within

variable {p q : Registry.Patch}

/-- The reader that gets a marker is not of a session within an unrelated place. -/
theorem ended_eq_nil (hp : p.Within r P) (hr : RegistryOK r) (hPQ : P.IsUnrelated Q)
    {s : SessionHandle} (hs : r.SessionWithin Q s) : p.ended s = [] := by
  refine List.eq_nil_iff_forall_not_mem.2 fun h hh => ?_
  obtain ⟨e, he, rfl, rfl⟩ := hp.ended s h hh
  have hwithin := hr.reader_within he hs
  rw [hPQ.1] at hwithin
  cases hwithin

/-- A marker that comes is not one that goes. -/
theorem not_markers (hp : p.Within r P) (hq : q.Within r Q) (hr : RegistryOK r)
    {s : SessionHandle} {h : ReaderHandle} (hh : h ∈ p.ended s) : ¬ q.markers h := by
  intro hm
  obtain ⟨e, he, -⟩ := hp.ended s h hh
  rw [hr.not_live_of_marked (hq.markers h hm)] at he
  cases he

/-- **Patches within unrelated places** are apart. -/
theorem apart (hp : p.Within r P) (hq : q.Within r Q) (hr : RegistryOK r) (hP : r.Placed P)
    (hQ : r.Placed Q) (hPQ : P.IsUnrelated Q) : p.Apart q where
  markers _ _ hh := hp.not_markers hq hr hh
  markers' _ _ hh := hq.not_markers hp hr hh
  ended s hs := hp.ended_eq_nil hr hPQ (hq.sessions s hs)
  ended' s hs := hq.ended_eq_nil hr hPQ.symm (hp.sessions s hs)
  status h := by
    rcases hp.status h with hs | hs
    · exact .inl hs
    · rcases hq.status h with hs' | hs'
      · exact .inr hs'
      · exact absurd hPQ (hr.reader_comparable hP hQ hs hs')

end Registry.Patch.Within

/-! ## What stays within a place -/

/-- Nothing within a place has changed, and nothing is new. -/
structure Registry.KeepsWithin (P : Scope) (r r' : Registry) : Prop where
  connections : ∀ c, (Scope.connection c).isWithin P = true →
    r'.connections.get? c = r.connections.get? c ∧ r'.connection c = r.connection c
  sessions : ∀ s, r.SessionWithin P s → r'.sessions.get? s = r.sessions.get? s ∧
    (r'.session s).exhausted = (r.session s).exhausted
  readers : ∀ h, r.ReaderWithin P h → r'.readers.get? h = r.readers.get? h ∧
    r'.reader h = r.reader h
  oldSession : ∀ s e, r'.sessions.get? s = some e → r.sessions.get? s = some e
  oldReader : ∀ h e, r'.readers.get? h = some e → r.readers.get? h = some e

/-- A connection within a place is at the place. -/
theorem Scope.eq_of_connection_isWithin {c : ConnectionHandle}
    (h : (Scope.connection c).isWithin P = true) : P = .connection c := by
  cases P with
  | connection c' => rw [of_decide_eq_true h]
  | session c' s => cases h
  | reader c' s x => cases h

/-- **A patch leaves alone what is within an unrelated place.** -/
theorem Patched.keeps {q : Registry.Patch} (h : Patched r r' q) (hq : q.Within r Q)
    (hr : RegistryOK r) (hP : r.Placed P) (hQ : r.Placed Q) (hPQ : P.IsUnrelated Q) :
    r.KeepsWithin P r' where
  connections c hc := by
    obtain rfl := Scope.eq_of_connection_isWithin hc
    have hno : ¬ q.connections c := fun hc' => by
      have := hPQ.1
      rw [hq.connections c hc'] at this
      cases this
    refine ⟨by rw [h.connections, if_neg hno], ?_⟩
    -- a session of this connection is not within the other place
    rw [h.connection, if_neg hno, List.filter_eq_self.2]
    intro s hs
    refine @decide_eq_true _ (_) fun hs' => ?_
    obtain ⟨e, he, hec⟩ := (hr.sessions c s).1 hs
    have hwithin : r.SessionWithin (.connection c) s :=
      ⟨e, he, by simpa [Session.scope, Scope.isWithin] using hec⟩
    exact hwithin.comparable hP hQ (hq.sessions s hs') hPQ
  sessions s hs := by
    have hno : ¬ q.sessions s := fun hs' => hs.comparable hP hQ (hq.sessions s hs') hPQ
    refine ⟨by rw [h.sessions, if_neg hno], ?_⟩
    rw [h.session, if_neg hno]
    show (r.session s).exhausted ++ q.ended s = _
    rw [hq.ended_eq_nil hr hPQ.symm hs, List.append_nil]
  readers x hx := by
    have hno : ¬ q.readers x := fun hx' => hr.reader_comparable hP hQ hx (hq.readers x hx') hPQ
    refine ⟨by rw [h.readers, if_neg hno], ?_⟩
    rw [h.reader]
    rcases hq.status x with hs | hs
    · rw [hs]
      rfl
    · exact absurd hPQ (hr.reader_comparable hP hQ hx hs)
  oldSession s e he := by
    rw [h.sessions] at he
    split at he
    · cases he
    · exact he
  oldReader x e he := by
    rw [h.readers] at he
    split at he
    · cases he
    · exact he

namespace Registry.KeepsWithin

theorem refl (P : Scope) (r : Registry) : r.KeepsWithin P r :=
  ⟨fun _ _ => ⟨rfl, rfl⟩, fun _ _ => ⟨rfl, rfl⟩, fun _ _ => ⟨rfl, rfl⟩, fun _ _ h => h,
    fun _ _ h => h⟩

theorem sessionWithin (h : r.KeepsWithin P r') : r'.SessionWithin P = r.SessionWithin P := by
  funext s
  refine propext ⟨fun ⟨e, he, hP⟩ => ⟨e, h.oldSession s e he, hP⟩, fun hs => ?_⟩
  obtain ⟨e, he, hP⟩ := hs
  exact ⟨e, (h.sessions s ⟨e, he, hP⟩).1.trans he, hP⟩

theorem readerWithin (h : r.KeepsWithin P r') : r'.ReaderWithin P = r.ReaderWithin P := by
  funext x
  refine propext ⟨fun ⟨e, he, hP⟩ => ⟨e, h.oldReader x e he, hP⟩, fun hx => ?_⟩
  obtain ⟨e, he, hP⟩ := hx
  exact ⟨e, (h.readers x ⟨e, he, hP⟩).1.trans he, hP⟩

theorem markerIn (h : r.KeepsWithin P r') :
    r'.MarkerIn (r'.SessionWithin P) = r.MarkerIn (r.SessionWithin P) := by
  funext x
  rw [h.sessionWithin]
  exact propext (exists_congr fun s => and_congr_right fun hs => by rw [(h.sessions s hs).2])

/-- What is at the place stays there. -/
theorem place? (h : r.KeepsWithin P r') (ht : r.place? t = some P) : r'.place? t = some P := by
  rw [← ht]
  cases t with
  | connection c =>
    obtain ⟨e, he, rfl⟩ := Option.map_eq_some_iff.1 ht
    simp only [Registry.place?, (h.connections c (decide_eq_true rfl)).1]
  | session s =>
    obtain ⟨e, he, rfl⟩ := Option.map_eq_some_iff.1 ht
    simp only [Registry.place?, (h.sessions s ⟨e, he, decide_eq_true rfl⟩).1]
  | reader x =>
    obtain ⟨e, he, rfl⟩ := Option.map_eq_some_iff.1 ht
    simp only [Registry.place?, (h.readers x ⟨e, he, decide_eq_true rfl⟩).1]

/-- The sessions of the connection at the place have the same identifiers. -/
theorem idsOf {c : ConnectionHandle} (h : r.KeepsWithin (.connection c) r') (hr : RegistryOK r)
    (hr' : RegistryOK r') : r'.idsOf c = r.idsOf c := by
  rw [← hr'.idsOf_eq, ← hr.idsOf_eq, (h.connections c (decide_eq_true rfl)).2]
  refine List.filterMap_congr fun s hs => ?_
  obtain ⟨e, he, hc⟩ := (hr.sessions c s).1 hs
  have hwithin : r.SessionWithin (.connection c) s :=
    ⟨e, he, by simpa [Session.scope, Scope.isWithin] using hc⟩
  rw [(h.sessions s hwithin).1]

end Registry.KeepsWithin

/-! ## Closes -/

open Classical in
/-- The patch of a close: everything within the place is taken out. -/
noncomputable def Registry.closing (r : Registry) (P : Scope) : Registry.Patch where
  connections c := (Scope.connection c).isWithin P = true
  sessions := r.SessionWithin P
  readers := r.ReaderWithin P
  markers := r.MarkerIn (r.SessionWithin P)
  ended _ := []
  status h s := if r.ReaderWithin P h then { s with state := .closed, isCancelled := true } else s

theorem Registry.closing_within (r : Registry) (P : Scope) : (r.closing P).Within r P where
  connections _ hc := hc
  sessions _ hs := hs
  readers _ hh := hh
  markers _ hm := hm
  ended _ _ hh := absurd hh List.not_mem_nil
  status h := by
    by_cases hh : r.ReaderWithin P h
    · exact .inr hh
    · exact .inl (funext fun s => if_neg hh)

/-- The patch is the same where nothing within the place has changed. -/
theorem Registry.KeepsWithin.closing (h : r.KeepsWithin P r') : r'.closing P = r.closing P := by
  unfold Registry.closing
  rw [h.sessionWithin, h.readerWithin, ← h.markerIn, h.sessionWithin]

/-- What is taken out with all below it, as a patch. -/
theorem Pruned.patched {C : ConnectionHandle → Prop} {S : SessionHandle → Prop}
    {R : ReaderHandle → Prop} (h : Pruned r r' C S R)
    (hC : C = fun c => (Scope.connection c).isWithin P = true) (hS : S = r.SessionWithin P)
    (hR : R = r.ReaderWithin P) : Patched r r' (r.closing P) := by
  subst hC hS hR
  refine ⟨h.connNext, h.sessNext, h.readNext, h.connections, h.sessions, h.readers, fun x => ?_,
    h.connection, fun s => ?_, h.reader⟩
  -- a close puts in no marker
  · have hended : ¬ ∃ s, x ∈ (r.closing P).ended s := fun ⟨_, hs⟩ => List.not_mem_nil hs
    rw [h.exhausted, if_neg hended]
    rfl
  · rw [h.session, show (r.closing P).ended s = [] from rfl, List.append_nil]
    rfl

/-- **The close of a live resource** is a patch within its place. -/
theorem close_patched (hr : RegistryOK r) (ht : r.place? t = some P) :
    Patched r (r.close t) (r.closing P) := by
  cases t with
  | connection c =>
    obtain ⟨e, he, rfl⟩ := Option.map_eq_some_iff.1 ht
    obtain ⟨r₁, hc, hp⟩ := closeConnection_pruned hr he
    rw [Registry.close, hc]
    have hsessions : r.SessionOf c = r.SessionWithin (.connection c) := by
      funext s
      simp [Registry.SessionOf, Registry.SessionWithin, Session.scope, Scope.isWithin]
    refine hp.patched ?_ hsessions ?_
    · funext x
      simp [Scope.isWithin]
    · rw [hsessions]
      exact hr.readerOf_within (by simp)
  | session s =>
    obtain ⟨e, he, rfl⟩ := Option.map_eq_some_iff.1 ht
    obtain ⟨r₁, hc, hp⟩ := closeSession_pruned hr he
    rw [Registry.close, hc]
    have hsessions : (· = s) = r.SessionWithin (e.scope s) := by
      funext x
      refine propext ⟨fun hx => ⟨e, hx ▸ he, decide_eq_true hx⟩, fun hwithin => ?_⟩
      obtain ⟨e', he', hx⟩ := hwithin
      exact of_decide_eq_true hx
    refine hp.patched ?_ hsessions ?_
    · funext x
      simp [Scope.isWithin, Session.scope]
    · rw [hsessions]
      exact hr.readerOf_within (by simp [Session.scope])
  | reader h =>
    obtain ⟨e, he, rfl⟩ := Option.map_eq_some_iff.1 ht
    refine (closeReader_pruned hr he).2.patched ?_ ?_ ?_
    · funext x
      simp [Scope.isWithin, Reader.scope]
    · funext x
      simp [Registry.SessionWithin, Scope.isWithin, Session.scope, Reader.scope]
    · funext x
      refine propext ⟨fun hx => ⟨e, hx ▸ he, decide_eq_true hx⟩, fun hwithin => ?_⟩
      obtain ⟨e', he', hx⟩ := hwithin
      exact of_decide_eq_true hx

end QueryBridge
