import QueryBridge.Handle

/-!
# Finite maps on handles

Entries are kept in the order of their handles, each handle at most once, so a
map is determined by what it holds: two maps with the same look-ups are equal.

* `get?_insert`, `get?_erase`, `get?_modify`: what each operation does to a look-up.
* `ext_get?`: maps with equal look-ups are equal.
-/

namespace QueryBridge

universe u

/-- A finite map from handles of one kind, sorted by handle. -/
structure HandleMap (kind : HandleKind) (α : Type u) where
  entries : List (Handle kind × α)
  sorted : (entries.map Prod.fst).Pairwise (· < ·)
deriving DecidableEq

namespace HandleMap

variable {kind : HandleKind} {α : Type u}

instance : EmptyCollection (HandleMap kind α) := ⟨⟨[], .nil⟩⟩

instance : Inhabited (HandleMap kind α) := ⟨∅⟩

/-- The handles in the map, in ascending order. -/
def keys (m : HandleMap kind α) : List (Handle kind) := m.entries.map Prod.fst

/-- The number of entries. -/
def size (m : HandleMap kind α) : Nat := m.entries.length

/-- The entry of a handle. -/
def get? (m : HandleMap kind α) (h : Handle kind) : Option α :=
  m.entries.lookup h

/-- Whether a handle has an entry. -/
def contains (m : HandleMap kind α) (h : Handle kind) : Bool := (m.get? h).isSome

/-- Puts a pair at its place in a sorted list, over an older one with the same handle. -/
def insertSorted (h : Handle kind) (a : α) : List (Handle kind × α) → List (Handle kind × α)
  | [] => [(h, a)]
  | (k, b) :: rest =>
    if h < k then (h, a) :: (k, b) :: rest
    else if k < h then (k, b) :: insertSorted h a rest
    else (h, a) :: rest

theorem mem_keys_insertSorted {h x : Handle kind} {a : α} {l : List (Handle kind × α)} :
    x ∈ (insertSorted h a l).map Prod.fst ↔ x = h ∨ x ∈ l.map Prod.fst := by
  induction l with
  | nil => simp [insertSorted]
  | cons p rest ih =>
    obtain ⟨k, b⟩ := p
    simp only [insertSorted]
    split
    · simp
    · split
      · simp only [List.map_cons, List.mem_cons, ih]; grind
      · next h₁ h₂ => simp [Handle.eq_of_not_lt h₁ h₂]

theorem sorted_insertSorted {h : Handle kind} {a : α} {l : List (Handle kind × α)}
    (hl : (l.map Prod.fst).Pairwise (· < ·)) :
    ((insertSorted h a l).map Prod.fst).Pairwise (· < ·) := by
  induction l with
  | nil => simp [insertSorted]
  | cons p rest ih =>
    obtain ⟨k, b⟩ := p
    simp only [List.map_cons, List.pairwise_cons] at hl
    simp only [insertSorted]
    split
    · next h₁ =>
      simp only [List.map_cons, List.pairwise_cons, List.mem_cons]
      refine ⟨fun x hx => ?_, hl⟩
      rcases hx with rfl | hx
      · exact h₁
      · exact Handle.lt_trans h₁ (hl.1 x hx)
    · split
      · next h₂ =>
        simp only [List.map_cons, List.pairwise_cons]
        refine ⟨fun x hx => ?_, ih hl.2⟩
        rcases mem_keys_insertSorted.mp hx with rfl | hx
        · exact h₂
        · exact hl.1 x hx
      · next h₁ h₂ =>
        have hk := Handle.eq_of_not_lt h₁ h₂
        subst hk
        simpa [List.pairwise_cons] using hl

/-- Adds an entry, or replaces the one that the handle had. -/
def insert (m : HandleMap kind α) (h : Handle kind) (a : α) : HandleMap kind α where
  entries := insertSorted h a m.entries
  sorted := sorted_insertSorted m.sorted

/-- Drops the entry of a handle, if there is one. -/
def erase (m : HandleMap kind α) (h : Handle kind) : HandleMap kind α where
  entries := m.entries.filter (·.1 ≠ h)
  sorted := m.sorted.sublist ((List.filter_sublist).map _)

/-- Changes the entry of a handle, if there is one. -/
def modify (m : HandleMap kind α) (h : Handle kind) (f : α → α) : HandleMap kind α where
  entries := m.entries.map fun p => if p.1 = h then (p.1, f p.2) else p
  sorted := by
    have : (m.entries.map fun p => if p.1 = h then (p.1, f p.2) else p).map Prod.fst
        = m.entries.map Prod.fst := by
      rw [List.map_map]
      apply List.map_congr_left
      intro p _
      simp only [Function.comp]
      split <;> rfl
    rw [this]
    exact m.sorted

@[simp] theorem get?_empty (h : Handle kind) : (∅ : HandleMap kind α).get? h = none := rfl

theorem mem_keys_iff {m : HandleMap kind α} {h : Handle kind} :
    h ∈ m.keys ↔ (m.get? h).isSome := by
  obtain ⟨l, hl⟩ := m
  simp only [keys, get?]
  clear hl
  induction l with
  | nil => simp
  | cons p rest ih =>
    obtain ⟨k, b⟩ := p
    simp only [List.map_cons, List.mem_cons, List.lookup_cons, ih]
    by_cases hk : h = k
    · simp [hk]
    · simp [hk, beq_false_of_ne hk]

private theorem lookup_none_of_lt {l : List (Handle kind × α)} {h : Handle kind}
    (hl : ∀ x ∈ l.map Prod.fst, h < x) : l.lookup h = none := by
  induction l with
  | nil => rfl
  | cons p rest ih =>
    obtain ⟨k, b⟩ := p
    have hk : h < k := hl k (by simp)
    have hne : h ≠ k := fun e => Handle.lt_irrefl _ (e ▸ hk)
    simp only [List.lookup_cons, beq_false_of_ne hne]
    exact ih fun x hx => hl x (by simp [hx])

theorem get?_insert (m : HandleMap kind α) (h : Handle kind) (a : α) (x : Handle kind) :
    (m.insert h a).get? x = if x = h then some a else m.get? x := by
  obtain ⟨l, hl⟩ := m
  simp only [get?, insert]
  induction l with
  | nil => by_cases hx : x = h <;> simp [insertSorted, List.lookup_cons, hx, beq_false_of_ne]
  | cons p rest ih =>
    obtain ⟨k, b⟩ := p
    simp only [List.map_cons, List.pairwise_cons] at hl
    simp only [insertSorted]
    split
    · by_cases hx : x = h <;> simp [List.lookup_cons, hx, beq_false_of_ne]
    · split
      · next h₂ =>
        by_cases hx : x = k
        · have hne : x ≠ h := fun e => Handle.lt_irrefl _ (e ▸ hx ▸ h₂)
          subst hx
          simp [hne]
        · simp only [List.lookup_cons, beq_false_of_ne hx]
          exact ih hl.2
      · next h₁ h₂ =>
        have hk := Handle.eq_of_not_lt h₁ h₂
        subst hk
        by_cases hx : x = h <;> simp [List.lookup_cons, hx, beq_false_of_ne]

theorem get?_erase (m : HandleMap kind α) (h x : Handle kind) :
    (m.erase h).get? x = if x = h then none else m.get? x := by
  obtain ⟨l, hl⟩ := m
  simp only [get?, erase]
  clear hl
  induction l with
  | nil => simp
  | cons p rest ih =>
    obtain ⟨k, b⟩ := p
    by_cases hk : k = h
    · subst hk
      simp only [ne_eq, not_true_eq_false, decide_false, Bool.false_eq_true, not_false_eq_true,
        List.filter_cons_of_neg, ih, List.lookup_cons]
      by_cases hx : x = k <;> simp [hx, beq_false_of_ne]
    · simp only [ne_eq, hk, not_false_eq_true, decide_true, List.filter_cons_of_pos,
        List.lookup_cons]
      by_cases hx : x = k
      · simp [hx, hk]
      · simp only [beq_false_of_ne hx]
        exact ih

theorem get?_modify (m : HandleMap kind α) (h : Handle kind) (f : α → α) (x : Handle kind) :
    (m.modify h f).get? x = if x = h then (m.get? x).map f else m.get? x := by
  obtain ⟨l, hl⟩ := m
  simp only [get?, modify]
  clear hl
  induction l with
  | nil => simp
  | cons p rest ih =>
    obtain ⟨k, b⟩ := p
    by_cases hk : k = h
    · subst hk
      by_cases hx : x = k
      · simp [hx]
      · simp only [List.map_cons, ite_true, List.lookup_cons, beq_false_of_ne hx, hx, ite_false]
        simpa [hx] using ih
    · by_cases hx : x = k
      · subst hx
        simp [hk]
      · simp only [List.map_cons, hk, ite_false, List.lookup_cons, beq_false_of_ne hx]
        exact ih

/-- Two maps with the same look-ups are the same map. -/
theorem ext_get? {m m' : HandleMap kind α} (h : ∀ x, m.get? x = m'.get? x) : m = m' := by
  obtain ⟨l, hl⟩ := m
  obtain ⟨l', hl'⟩ := m'
  simp only [get?] at h
  congr
  induction l generalizing l' with
  | nil =>
    cases l' with
    | nil => rfl
    | cons p rest =>
      obtain ⟨k, b⟩ := p
      have := h k
      simp at this
  | cons p rest ih =>
    obtain ⟨k, b⟩ := p
    cases l' with
    | nil =>
      have := h k
      simp at this
    | cons p' rest' =>
      obtain ⟨k', b'⟩ := p'
      simp only [List.map_cons, List.pairwise_cons] at hl hl'
      have hk : k = k' := by
        apply Handle.eq_of_not_lt
        · intro hlt
          have h₁ := h k
          rw [lookup_none_of_lt (l := (k', b') :: rest')] at h₁
          · simp at h₁
          · intro x hx
            simp only [List.map_cons, List.mem_cons] at hx
            rcases hx with rfl | hx
            · exact hlt
            · exact Handle.lt_trans hlt (hl'.1 x hx)
        · intro hlt
          have h₁ := h k'
          rw [lookup_none_of_lt (l := (k, b) :: rest)] at h₁
          · simp at h₁
          · intro x hx
            simp only [List.map_cons, List.mem_cons] at hx
            rcases hx with rfl | hx
            · exact hlt
            · exact Handle.lt_trans hlt (hl.1 x hx)
      subst hk
      have hb : b = b' := by simpa [List.lookup_cons] using h k
      subst hb
      rw [ih hl.2 rest' hl'.2]
      intro x
      by_cases hx : x = k
      · subst hx
        rw [lookup_none_of_lt hl.1, lookup_none_of_lt hl'.1]
      · have := h x
        simpa [List.lookup_cons, beq_false_of_ne hx] using this

end HandleMap

/-- A finite set of handles of one kind. -/
abbrev HandleSet (kind : HandleKind) := HandleMap kind Unit

end QueryBridge
