import QueryBridge.Proofs.Tables
import QueryBridge.Registry

/-!
# Well-formed registries

`RegistryOK` is what every operation keeps: the tables of live resources, the
statuses, the lists of children and the markers fit together.

* `RegistryOK.wellFormed`: what a caller can rely on.
* `Registry.Later`: what one registry has of an earlier one. Nothing that was
  closed comes back.
-/

namespace QueryBridge

variable {r r' r'' : Registry}

/-- A registry as its callers may rely on it between two steps. -/
structure Registry.WellFormed (r : Registry) : Prop where
  /-- A live session has a live connection, which lists it exactly once. -/
  session_listed : ∀ s e, r.sessions.get? s = some e →
    (∃ c, r.connections.get? e.connection = some c) ∧
      (r.connection e.connection).sessions.count s = 1
  /-- What a live connection lists is a live session of it. -/
  listed_session : ∀ c e, r.connections.get? c = some e → ∀ s ∈ (r.connection c).sessions,
    ∃ e', r.sessions.get? s = some e' ∧ e'.connection = c
  /-- A live reader has a live session, which lists it exactly once. -/
  reader_listed : ∀ h e, r.readers.get? h = some e →
    (∃ s, r.sessions.get? e.session = some s) ∧ (r.session e.session).readers.count h = 1
  /-- What a live session lists is a live reader of it. -/
  listed_reader : ∀ s e, r.sessions.get? s = some e → ∀ h ∈ (r.session s).readers,
    ∃ e', r.readers.get? h = some e' ∧ e'.session = s
  /-- Both kinds of list are in the order of creation. -/
  sessions_sorted : ∀ c e, r.connections.get? c = some e →
    (r.connection c).sessions.Pairwise (· < ·)
  readers_sorted : ∀ s e, r.sessions.get? s = some e → (r.session s).readers.Pairwise (· < ·)
  /-- Live resources are open, and neither they nor those above them are cancelled. -/
  connection_open : ∀ c e, r.connections.get? c = some e →
    (r.connection c).isOpen = true ∧ r.isCancelled (.connection c) = false
  session_open : ∀ s e, r.sessions.get? s = some e →
    (r.session s).isOpen = true ∧ r.isCancelled (e.scope s) = false
  reader_active : ∀ h e, r.readers.get? h = some e →
    (r.reader h).state = .active ∧ r.isCancelled (e.scope h) = false
  /-- The reader of a marker is not live, and exactly one live session names it. -/
  marker : ∀ h, r.exhausted.contains h = true → r.readers.get? h = none ∧
    ∃! s, (∃ e, r.sessions.get? s = some e) ∧ h ∈ (r.session s).exhausted

/-- What every operation on a registry keeps. -/
structure RegistryOK (r : Registry) : Prop where
  connOpen : ∀ c, (r.connection c).isOpen = true ↔ ∃ e, r.connections.get? c = some e
  connCancelled : ∀ c, (r.connection c).isCancelled = r.connections.wasReleased c
  sessOpen : ∀ s, (r.session s).isOpen = true ↔ ∃ e, r.sessions.get? s = some e
  sessCancelled : ∀ s, (r.session s).isCancelled = r.sessions.wasReleased s
  active : ∀ h, (r.reader h).state = .active ↔ ∃ e, r.readers.get? h = some e
  readCancelled : ∀ h, (r.reader h).isCancelled = true ↔
    (r.reader h).state = .closed ∧ r.readers.Issued h
  endedIssued : ∀ h, (r.reader h).state = .exhausted → r.readers.Issued h
  /-- The list of a connection holds its live sessions. -/
  sessions : ∀ c s, s ∈ (r.connection c).sessions ↔
    ∃ e, r.sessions.get? s = some e ∧ e.connection = c
  /-- The list of a session holds its live readers. -/
  readers : ∀ s h, h ∈ (r.session s).readers ↔
    ∃ e, r.readers.get? h = some e ∧ e.session = s
  sessionsSorted : ∀ c, (r.connection c).sessions.Pairwise (· < ·)
  readersSorted : ∀ s, (r.session s).readers.Pairwise (· < ·)
  /-- A live session is one of a live connection, over the same client. -/
  parent : ∀ s e, r.sessions.get? s = some e →
    ∃ c, r.connections.get? e.connection = some c ∧ c.client = e.client
  readParent : ∀ h e, r.readers.get? h = some e →
    ∃ s, r.sessions.get? e.session = some s ∧ s.connection = e.connection
  marked : ∀ h, r.exhausted.contains h = true → ∃ s, h ∈ (r.session s).exhausted
  ended : ∀ s h, h ∈ (r.session s).exhausted →
    (r.reader h).state = .exhausted ∧ ∃ e, r.sessions.get? s = some e
  owner : ∀ s s' h, h ∈ (r.session s).exhausted → h ∈ (r.session s').exhausted → s = s'
  endedNodup : ∀ s, (r.session s).exhausted.Nodup

/-! ## What it gives -/

namespace RegistryOK

/-- A reader whose state is not `active` is not live. -/
theorem not_live (hr : RegistryOK r) {h : ReaderHandle} (hs : (r.reader h).state ≠ .active) :
    r.readers.get? h = none := by
  cases hg : r.readers.get? h with
  | none => rfl
  | some e => exact absurd ((hr.active h).2 ⟨e, hg⟩) hs

/-- A live session is listed by its own connection alone. -/
theorem connection_of_listed (hr : RegistryOK r) {c : ConnectionHandle} {s : SessionHandle}
    {e : Session} (hs : s ∈ (r.connection c).sessions) (he : r.sessions.get? s = some e) :
    e.connection = c := by
  obtain ⟨e', he', hc⟩ := (hr.sessions c s).1 hs
  rwa [Option.some.inj (he.symm.trans he')]

/-- A live reader is listed by its own session alone. -/
theorem session_of_listed (hr : RegistryOK r) {s : SessionHandle} {h : ReaderHandle} {e : Reader}
    (hh : h ∈ (r.session s).readers) (he : r.readers.get? h = some e) : e.session = s := by
  obtain ⟨e', he', hs⟩ := (hr.readers s h).1 hh
  rwa [Option.some.inj (he.symm.trans he')]

theorem conn_not_cancelled (hr : RegistryOK r) {c : ConnectionHandle} {e : Connection}
    (hc : r.connections.get? c = some e) : (r.connection c).isCancelled = false := by
  rw [hr.connCancelled, Bool.eq_false_iff, ne_eq, HandleTable.wasReleased_iff]
  simp [hc]

theorem sess_not_cancelled (hr : RegistryOK r) {s : SessionHandle} {e : Session}
    (hs : r.sessions.get? s = some e) : (r.session s).isCancelled = false := by
  rw [hr.sessCancelled, Bool.eq_false_iff, ne_eq, HandleTable.wasReleased_iff]
  simp [hs]

theorem read_not_cancelled (hr : RegistryOK r) {h : ReaderHandle} {e : Reader}
    (hh : r.readers.get? h = some e) : (r.reader h).isCancelled = false := by
  have := (hr.active h).2 ⟨e, hh⟩
  rw [Bool.eq_false_iff, ne_eq, hr.readCancelled, this]
  simp

/-- Nothing on the way from a live session to its connection is cancelled. -/
theorem session_scope (hr : RegistryOK r) {s : SessionHandle} {e : Session}
    (hs : r.sessions.get? s = some e) : r.isCancelled (e.scope s) = false := by
  obtain ⟨c, hc, -⟩ := hr.parent s e hs
  simp [Session.scope, Registry.isCancelled, hr.conn_not_cancelled hc, hr.sess_not_cancelled hs]

/-- Nothing on the way from a live reader to its connection is cancelled. -/
theorem reader_scope (hr : RegistryOK r) {h : ReaderHandle} {e : Reader}
    (hh : r.readers.get? h = some e) : r.isCancelled (e.scope h) = false := by
  obtain ⟨s, hs, hse⟩ := hr.readParent h e hh
  obtain ⟨c, hc, -⟩ := hr.parent _ s hs
  rw [hse] at hc
  simp [Reader.scope, Registry.isCancelled, hr.conn_not_cancelled hc, hr.sess_not_cancelled hs,
    hr.read_not_cancelled hh]

/-- **A registry that every operation keeps well formed is one to rely on.** -/
theorem wellFormed (hr : RegistryOK r) : r.WellFormed where
  session_listed s e hs := by
    obtain ⟨c, hc, -⟩ := hr.parent s e hs
    have hnd := Handle.nodup_of_sorted (hr.sessionsSorted e.connection)
    exact ⟨⟨c, hc⟩, List.count_eq_one_of_mem hnd ((hr.sessions _ s).2 ⟨e, hs, rfl⟩)⟩
  listed_session c e _ s hs := (hr.sessions c s).1 hs
  reader_listed h e hh := by
    obtain ⟨s, hs, -⟩ := hr.readParent h e hh
    have hnd := Handle.nodup_of_sorted (hr.readersSorted e.session)
    exact ⟨⟨s, hs⟩, List.count_eq_one_of_mem hnd ((hr.readers _ h).2 ⟨e, hh, rfl⟩)⟩
  listed_reader s e _ h hh := (hr.readers s h).1 hh
  sessions_sorted c _ _ := hr.sessionsSorted c
  readers_sorted s _ _ := hr.readersSorted s
  connection_open c e hc := ⟨(hr.connOpen c).2 ⟨e, hc⟩, hr.conn_not_cancelled hc⟩
  session_open s e hs := ⟨(hr.sessOpen s).2 ⟨e, hs⟩, hr.session_scope hs⟩
  reader_active h e hh := ⟨(hr.active h).2 ⟨e, hh⟩, hr.reader_scope hh⟩
  marker h hm := by
    obtain ⟨s, hs⟩ := hr.marked h hm
    obtain ⟨hst, hl⟩ := hr.ended s h hs
    refine ⟨hr.not_live (by simp [hst]), s, ⟨hl, hs⟩, fun s' hs' => hr.owner s' s h hs'.2 hs⟩

end RegistryOK

/-! ## Registries one after the other -/

/-- The second registry comes after the first one: handles stay issued, what is
live was live before or is new, and readers that have ended stay as they are. -/
structure Registry.Later (r r' : Registry) : Prop where
  connNext : r.connections.next.toNat ≤ r'.connections.next.toNat
  sessNext : r.sessions.next.toNat ≤ r'.sessions.next.toNat
  readNext : r.readers.next.toNat ≤ r'.readers.next.toNat
  connections : ∀ c e, r.connections.Issued c → r'.connections.get? c = some e →
    r.connections.get? c = some e
  sessions : ∀ s e, r.sessions.Issued s → r'.sessions.get? s = some e → r.sessions.get? s = some e
  readers : ∀ h e, r.readers.Issued h → r'.readers.get? h = some e → r.readers.get? h = some e
  ended : ∀ h, r.readers.Issued h → (r.reader h).state ≠ .active →
    (r'.reader h).state = (r.reader h).state

namespace Registry.Later

theorem refl (r : Registry) : Later r r :=
  ⟨Nat.le_refl _, Nat.le_refl _, Nat.le_refl _, fun _ _ _ h => h, fun _ _ _ h => h,
    fun _ _ _ h => h, fun _ _ _ => rfl⟩

theorem connIssued (h : Later r r') {c : ConnectionHandle} (hc : r.connections.Issued c) :
    r'.connections.Issued c := ⟨hc.1, Nat.lt_of_lt_of_le hc.2 h.connNext⟩

theorem sessIssued (h : Later r r') {s : SessionHandle} (hs : r.sessions.Issued s) :
    r'.sessions.Issued s := ⟨hs.1, Nat.lt_of_lt_of_le hs.2 h.sessNext⟩

theorem readIssued (h : Later r r') {x : ReaderHandle} (hx : r.readers.Issued x) :
    r'.readers.Issued x := ⟨hx.1, Nat.lt_of_lt_of_le hx.2 h.readNext⟩

theorem trans (h : Later r r') (h' : Later r' r'') : Later r r'' where
  connNext := Nat.le_trans h.connNext h'.connNext
  sessNext := Nat.le_trans h.sessNext h'.sessNext
  readNext := Nat.le_trans h.readNext h'.readNext
  connections c e hi hg := h.connections c e hi (h'.connections c e (h.connIssued hi) hg)
  sessions s e hi hg := h.sessions s e hi (h'.sessions s e (h.sessIssued hi) hg)
  readers x e hi hg := h.readers x e hi (h'.readers x e (h.readIssued hi) hg)
  ended x hi hs := by
    have h1 := h.ended x hi hs
    rw [h'.ended x (h.readIssued hi) (by rw [h1]; exact hs), h1]

/-- A released connection stays released. -/
theorem conn_released (h : Later r r') {c : ConnectionHandle}
    (hc : r.connections.wasReleased c = true) : r'.connections.wasReleased c = true := by
  rw [HandleTable.wasReleased_iff] at hc ⊢
  refine ⟨h.connIssued hc.1, ?_⟩
  cases hg : r'.connections.get? c with
  | none => rfl
  | some e => have := h.connections c e hc.1 hg; simp [hc.2] at this

/-- A released session stays released. -/
theorem sess_released (h : Later r r') {s : SessionHandle}
    (hs : r.sessions.wasReleased s = true) : r'.sessions.wasReleased s = true := by
  rw [HandleTable.wasReleased_iff] at hs ⊢
  refine ⟨h.sessIssued hs.1, ?_⟩
  cases hg : r'.sessions.get? s with
  | none => rfl
  | some e => have := h.sessions s e hs.1 hg; simp [hs.2] at this

/-- **What is cancelled stays cancelled.** -/
theorem cancelled (h : Later r r') (hr : RegistryOK r) (hr' : RegistryOK r') {sc : Scope}
    (hc : r.isCancelled sc = true) : r'.isCancelled sc = true := by
  have h1 : ∀ c, (r.connection c).isCancelled = true → (r'.connection c).isCancelled = true := by
    intro c hc; rw [hr'.connCancelled]; rw [hr.connCancelled] at hc; exact h.conn_released hc
  have h2 : ∀ s, (r.session s).isCancelled = true → (r'.session s).isCancelled = true := by
    intro s hs; rw [hr'.sessCancelled]; rw [hr.sessCancelled] at hs; exact h.sess_released hs
  have h3 : ∀ x, (r.reader x).isCancelled = true → (r'.reader x).isCancelled = true := by
    intro x hx
    obtain ⟨hs, hi⟩ := (hr.readCancelled x).1 hx
    exact (hr'.readCancelled x).2 ⟨by rw [h.ended x hi (by simp [hs]), hs], h.readIssued hi⟩
  cases sc with
  | connection c => exact h1 c hc
  | session c s =>
    simp only [isCancelled, Bool.or_eq_true] at hc ⊢
    exact hc.imp (h2 s) (h1 c)
  | reader c s x =>
    simp only [isCancelled, Bool.or_eq_true] at hc ⊢
    exact hc.imp (Or.imp (h3 x) (h2 s)) (h1 c)

end Registry.Later

/-- A change of a registry that keeps it well formed and brings nothing back. -/
def Registry.Sound (r r' : Registry) : Prop := RegistryOK r → RegistryOK r' ∧ r.Later r'

namespace Registry.Sound

theorem trans (h : Sound r r') (h' : Sound r' r'') : Sound r r'' := fun hr =>
  have h1 := h hr
  have h2 := h' h1.1
  ⟨h2.1, h1.2.trans h2.2⟩

end Registry.Sound

/-! ## The empty registry -/

theorem registryOK_empty : RegistryOK {} := by
  have hc : ∀ c, ({} : Registry).connection c = default := fun _ => rfl
  have hs : ∀ s, ({} : Registry).session s = default := fun _ => rfl
  have hh : ∀ h, ({} : Registry).reader h = default := fun _ => rfl
  have hc' : ∀ c, ({} : Registry).connections.get? c = none := fun _ => rfl
  have hs' : ∀ s, ({} : Registry).sessions.get? s = none := fun _ => rfl
  have hh' : ∀ h, ({} : Registry).readers.get? h = none := fun _ => rfl
  have hm : ∀ h, ({} : Registry).exhausted.contains h = false := fun _ => rfl
  have hn : ∀ {kind : HandleKind} {α : Type} (h : Handle kind),
      ¬ (∅ : HandleTable kind α).Issued h := HandleTable.not_issued_empty
  have hw : ∀ {kind : HandleKind} {α : Type} (h : Handle kind),
      (∅ : HandleTable kind α).wasReleased h = false := by
    intro kind α h
    rw [Bool.eq_false_iff, ne_eq, HandleTable.wasReleased_iff]
    exact fun hi => hn h hi.1
  constructor <;> intros <;> simp_all [default]

end QueryBridge
