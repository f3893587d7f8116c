import Mathlib.Data.List.Nodup
import QueryBridge.HandleTable

/-!
# Maps and tables by their look-ups

* `HandleMap.get?_foldl_erase`: several handles are dropped.
* `HandleTable.allocate_eq_ok`: what a successful allocation does to every look-up.
* `HandleTable.wasReleased_allocate`: an allocation releases nothing.
* `HandleTable.wasReleased_iff`: a released handle was issued and is not live.
-/

namespace QueryBridge

variable {kind : HandleKind} {α : Type*}

/-- An ascending list of handles has no repetition. -/
theorem Handle.nodup_of_sorted {l : List (Handle kind)} (hl : l.Pairwise (· < ·)) : l.Nodup := by
  refine hl.imp ?_
  intro a b hab he
  subst he
  exact Handle.lt_irrefl _ hab

/-- An ascending list of handles is determined by what is in it. -/
theorem Handle.eq_of_sorted {l l' : List (Handle kind)} (hl : l.Pairwise (· < ·))
    (hl' : l'.Pairwise (· < ·)) (h : ∀ x, x ∈ l ↔ x ∈ l') : l = l' := by
  have hp : l.Perm l' := (List.perm_ext_iff_of_nodup (nodup_of_sorted hl) (nodup_of_sorted hl')).2 h
  refine hp.eq_of_pairwise (fun a b _ _ hab hba => ?_) hl hl'
  exact absurd (Handle.lt_trans hab hba) (Handle.lt_irrefl a)

namespace HandleMap

theorem get?_foldl_erase (hs : List (Handle kind)) (m : HandleMap kind α) (x : Handle kind) :
    (hs.foldl erase m).get? x = if x ∈ hs then none else m.get? x := by
  induction hs generalizing m with
  | nil => simp
  | cons h hs ih =>
    rw [List.foldl_cons, ih, get?_erase]
    by_cases h1 : x ∈ hs <;> by_cases h2 : x = h <;> simp [h1, h2]

theorem get?_of_mem {m : HandleMap kind α} {h : Handle kind} {a : α} (hm : (h, a) ∈ m.entries) :
    m.get? h = some a := by
  obtain ⟨l, hl⟩ := m
  simp only [get?] at hm ⊢
  induction l with
  | nil => simp at hm
  | cons p l ih =>
    obtain ⟨k, b⟩ := p
    simp only [List.map_cons, List.pairwise_cons] at hl
    rcases List.mem_cons.1 hm with hp | ht
    · obtain ⟨rfl, rfl⟩ := Prod.mk.inj hp
      simp
    · have hne : h ≠ k := by
        rintro rfl
        exact Handle.lt_irrefl h (hl.1 h (List.mem_map.2 ⟨_, ht, rfl⟩))
      simpa [List.lookup_cons, beq_false_of_ne hne] using ih hl.2 ht

theorem mem_of_get? {m : HandleMap kind α} {h : Handle kind} {a : α} (hg : m.get? h = some a) :
    (h, a) ∈ m.entries := by
  have hk : h ∈ m.keys := mem_keys_iff.2 (by rw [hg]; rfl)
  obtain ⟨⟨h', a'⟩, hm, rfl⟩ := List.mem_map.1 hk
  have := get?_of_mem hm
  rw [hg, Option.some.injEq] at this
  exact this ▸ hm

theorem mem_entries_iff {m : HandleMap kind α} {h : Handle kind} {a : α} :
    (h, a) ∈ m.entries ↔ m.get? h = some a := ⟨get?_of_mem, mem_of_get?⟩

theorem nodup_entries (m : HandleMap kind α) : m.entries.Nodup :=
  (Handle.nodup_of_sorted m.sorted).of_map

/-- A new entry is one more. -/
theorem entries_perm_cons {m m' : HandleMap kind α} {h : Handle kind} {a : α}
    (hn : m.get? h = none) (hg : ∀ x, m'.get? x = if x = h then some a else m.get? x) :
    m'.entries.Perm ((h, a) :: m.entries) := by
  have hnot : (h, a) ∉ m.entries := by
    rw [mem_entries_iff, hn]
    exact nofun
  refine (List.perm_ext_iff_of_nodup m'.nodup_entries
    (List.nodup_cons.2 ⟨hnot, m.nodup_entries⟩)).2 ?_
  rintro ⟨x, a'⟩
  rw [List.mem_cons, mem_entries_iff, mem_entries_iff, hg, Prod.mk.injEq]
  by_cases hx : x = h
  · subst hx
    simp [hn, eq_comm]
  · simp [hx]

/-- Where some entries go, those and the others make up what was there. -/
theorem entries_perm_append {m m' : HandleMap kind α} {P : Handle kind × α → Bool}
    (hg : ∀ x a, m'.get? x = some a ↔ m.get? x = some a ∧ P (x, a) = false) :
    m.entries.Perm (m.entries.filter P ++ m'.entries) := by
  have hrest : m'.entries.Perm (m.entries.filter fun p => !P p) := by
    refine (List.perm_ext_iff_of_nodup m'.nodup_entries (m.nodup_entries.filter _)).2 ?_
    rintro ⟨x, a⟩
    rw [List.mem_filter, mem_entries_iff, mem_entries_iff, hg, Bool.not_eq_true']
  exact (List.filter_append_perm P m.entries).symm.trans (hrest.symm.append_left _)

end HandleMap

namespace HandleTable

/-- The table has given out the handle. -/
def Issued (t : HandleTable kind α) (h : Handle kind) : Prop :=
  0 < h.raw.toNat ∧ h.raw.toNat < t.next.toNat

theorem issued_of_get? {t : HandleTable kind α} {h : Handle kind} {a : α} (ha : t.get? h = some a) :
    t.Issued h := by
  refine t.issued h (HandleMap.mem_keys_iff.2 ?_)
  rw [show t.live.get? h = some a from ha]
  rfl

/-- Before the first allocation no handle is given out. -/
theorem not_issued_empty (h : Handle kind) : ¬ (∅ : HandleTable kind α).Issued h := by
  intro hi
  have h₁ : (∅ : HandleTable kind α).next.toNat = 1 := rfl
  have h₂ := hi.1
  have h₃ := hi.2
  omega

theorem wasReleased_iff {t : HandleTable kind α} {h : Handle kind} :
    t.wasReleased h = true ↔ t.Issued h ∧ t.get? h = none := by
  have h0 : h.raw ≠ 0 ↔ 0 < h.raw.toNat := by
    rw [Nat.pos_iff_ne_zero, ne_eq, ne_eq, ← UInt32.toNat_inj]; rfl
  simp only [wasReleased, Issued, Bool.and_eq_true, decide_eq_true_eq, Option.isNone_iff_eq_none,
    ne_eq, decide_not, Bool.not_eq_true', decide_eq_false_iff_not]
  rw [← ne_eq, h0]

@[simp] theorem get?_release (t : HandleTable kind α) (h x : Handle kind) :
    (t.release h).get? x = if x = h then none else t.get? x := HandleMap.get?_erase _ _ _

/-- **A successful allocation** issues the next handle, which was not live, and
registers what was built for it. -/
theorem allocate_eq_ok {t t' : HandleTable kind α} {build : Handle kind → α} {h : Handle kind}
    (ha : t.allocate build = .ok (h, t')) :
    h.raw = t.next ∧ t'.next.toNat = t.next.toNat + 1 ∧ t.get? h = none ∧
      ∀ x, t'.get? x = if x = h then some (build h) else t.get? x := by
  unfold allocate at ha
  split at ha
  · simp at ha
  · rename_i hn
    simp only [Except.ok.injEq, Prod.mk.injEq] at ha
    obtain ⟨rfl, rfl⟩ := ha
    refine ⟨rfl, ?_, ?_, fun x => HandleMap.get?_insert _ _ _ _⟩
    · have h1 := t.next.toNat_lt
      have h2 : t.next.toNat ≠ 4294967295 := fun e => hn (UInt32.toNat_inj.1 e)
      rw [UInt32.toNat_add]
      exact Nat.mod_eq_of_lt (by simpa using (by omega : t.next.toNat + 1 < 4294967296))
    · cases hg : t.get? ⟨t.next⟩ with
      | none => rfl
      | some a => exact absurd (issued_of_get? hg).2 (Nat.lt_irrefl _)

/-- An allocation fails only when no handle is left. -/
theorem allocate_eq_error {t : HandleTable kind α} {build : Handle kind → α} {f : Failure}
    (ha : t.allocate build = .error f) : f = .handlesExhausted kind := by
  unfold allocate at ha
  split at ha
  · exact (Except.error.inj ha).symm
  · cases ha

/-- A handle that was issued before is not the one that an allocation gives. -/
theorem ne_of_issued {t t' : HandleTable kind α} {build : Handle kind → α} {h x : Handle kind}
    (ha : t.allocate build = .ok (h, t')) (hx : t.Issued x) : x ≠ h := by
  rintro rfl
  have := hx.2
  rw [(allocate_eq_ok ha).1] at this
  omega

/-- A new handle comes after all that are live, so at the end of a list of these. -/
theorem sorted_concat {t t' : HandleTable kind α} {build : Handle kind → α} {h : Handle kind}
    {l : List (Handle kind)} (ha : t.allocate build = .ok (h, t')) (hl : l.Pairwise (· < ·))
    (hlive : ∀ x ∈ l, ∃ a, t.get? x = some a) : (l ++ [h]).Pairwise (· < ·) := by
  refine List.pairwise_append.2 ⟨hl, List.pairwise_singleton _ _, fun x hx y hy => ?_⟩
  obtain ⟨a, hxa⟩ := hlive x hx
  rw [List.mem_singleton.1 hy, Handle.lt_iff, (allocate_eq_ok ha).1]
  exact (issued_of_get? hxa).2

/-- An allocation issues its handle and no other one. -/
theorem issued_allocate {t t' : HandleTable kind α} {build : Handle kind → α} {h : Handle kind}
    (ha : t.allocate build = .ok (h, t')) (x : Handle kind) :
    t'.Issued x ↔ x = h ∨ t.Issued x := by
  obtain ⟨hraw, hnext, -, -⟩ := allocate_eq_ok ha
  have hx : x = h ↔ x.raw.toNat = t.next.toNat := by
    rw [← hraw, UInt32.toNat_inj]
    exact ⟨fun e => e ▸ rfl, fun e => by cases x; cases h; simp_all⟩
  have := t.next_pos
  simp only [Issued, hnext, hx]
  omega

/-- An allocation releases nothing. -/
theorem wasReleased_allocate {t t' : HandleTable kind α} {build : Handle kind → α}
    {h : Handle kind} (ha : t.allocate build = .ok (h, t')) (x : Handle kind) :
    t'.wasReleased x = t.wasReleased x := by
  obtain ⟨-, -, -, hget⟩ := allocate_eq_ok ha
  have hni : ¬ t.Issued h := fun hi => ne_of_issued ha hi rfl
  rw [Bool.eq_iff_iff, wasReleased_iff, wasReleased_iff, issued_allocate ha, hget]
  by_cases hx : x = h
  · subst hx; simp [hni]
  · simp [hx]

/-- A new handle has not been released. -/
theorem wasReleased_new {t t' : HandleTable kind α} {build : Handle kind → α} {h : Handle kind}
    (ha : t.allocate build = .ok (h, t')) : t.wasReleased h = false := by
  rw [Bool.eq_false_iff, ne_eq, wasReleased_iff]
  exact fun hw => ne_of_issued ha hw.1 rfl

/-- What was released can be told from the counter and the look-up. -/
theorem wasReleased_congr {t t' : HandleTable kind α} {x : Handle kind} (hn : t'.next = t.next)
    (hg : t'.get? x = t.get? x) : t'.wasReleased x = t.wasReleased x := by
  simp only [wasReleased, hn, hg]

end HandleTable

end QueryBridge
