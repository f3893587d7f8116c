import Mathlib.Algebra.Group.Nat.Defs
import Mathlib.Data.List.Range
import QueryBridge.Proofs.Tables

/-!
# Tables told from the log of their allocations

Whatever a table is asked, its answer can be told from a log that only knows
what was built, in the order of the allocations, and which handles were released
since. The first resource has handle 1, the next one handle 2, and so on up to
2³² − 2; after that nothing is issued any more.

* `HandleTable.answer`, `AllocationLog.answer`: what the table answers to a call,
  and what the log tells of it.
* `Logged`: the log goes with the table.
* `answer_logged`: one call.
* `table_told_by_log`: every sequence of calls.
-/

namespace QueryBridge

universe u

variable {kind : HandleKind} {α : Type u}

/-! ## What a table is asked -/

/-- What a table can be asked. -/
inductive TableCall (kind : HandleKind) (α : Type u)
  | allocate (build : Handle kind → α)
  | resolve (h : Handle kind)
  | release (h : Handle kind)
  | wasReleased (h : Handle kind)
  | handles
  | size

/-- What a table answers. -/
inductive TableAnswer (kind : HandleKind) (α : Type u)
  /-- A handle was issued; this is live under it now. -/
  | allocated (h : Handle kind) (resource : Option α)
  | resolved (resource : α)
  /-- The resource that was taken out of the table, if one was. -/
  | released (resource : Option α)
  | told (yes : Bool)
  | listed (hs : List (Handle kind))
  | counted (n : Nat)
  | failed (f : Failure)

/-- The handle that an answer issues. -/
def TableAnswer.issued? : TableAnswer kind α → Option (Handle kind)
  | allocated h _ => some h
  | _ => none

namespace HandleTable

/-- The answer of a table, and the table after it. -/
def answer (t : HandleTable kind α) : TableCall kind α → TableAnswer kind α × HandleTable kind α
  | .allocate build =>
    match t.allocate build with
    | .ok (h, t') => (.allocated h (t'.get? h), t')
    | .error f => (.failed f, t)
  | .resolve h =>
    match t.resolve h with
    | .ok a => (.resolved a, t)
    | .error f => (.failed f, t)
  | .release h => (.released (t.get? h), t.release h)
  | .wasReleased h => (.told (t.wasReleased h), t)
  | .handles => (.listed t.handles, t)
  | .size => (.counted t.size, t)

/-- The answers to calls one after another. -/
def answers (t : HandleTable kind α) : List (TableCall kind α) → List (TableAnswer kind α)
  | [] => []
  | c :: cs => (t.answer c).1 :: (t.answer c).2.answers cs

/-- The table after calls. -/
def afterCalls (t : HandleTable kind α) (cs : List (TableCall kind α)) : HandleTable kind α :=
  cs.foldl (fun t c => (t.answer c).2) t

end HandleTable

/-! ## The log -/

/-- The handle with a number. -/
def Handle.numbered (n : Nat) : Handle kind := ⟨UInt32.ofNat n⟩

/-- What a table has issued and taken back. -/
structure AllocationLog (kind : HandleKind) (α : Type u) where
  /-- What was built, the first one first. -/
  built : List α := []
  /-- The handles that were released. -/
  released : List (Handle kind) := []

namespace AllocationLog

/-- How many handles there are. -/
def limit : Nat := 2 ^ 32 - 2

/-- What was built for a handle: the first resource for handle 1, and so on. -/
def built? (l : AllocationLog kind α) (h : Handle kind) : Option α :=
  if h.raw.toNat = 0 then none else l.built[h.raw.toNat - 1]?

/-- What was built for a handle that has not been released. -/
def live? (l : AllocationLog kind α) (h : Handle kind) : Option α :=
  if h ∈ l.released then none else l.built? h

/-- Every handle that was issued, the first one first. -/
def issued (l : AllocationLog kind α) : List (Handle kind) :=
  (List.range' 1 l.built.length).map .numbered

/-- The handles that were issued and not released, the first one first. -/
def handles (l : AllocationLog kind α) : List (Handle kind) :=
  l.issued.filter (· ∉ l.released)

/-- What the log tells of an answer, and the log after it. -/
def answer (l : AllocationLog kind α) :
    TableCall kind α → TableAnswer kind α × AllocationLog kind α
  | .allocate build =>
    if l.built.length < limit then
      let h := .numbered (l.built.length + 1)
      (.allocated h (some (build h)), { l with built := l.built ++ [build h] })
    else (.failed (.handlesExhausted kind), l)
  | .resolve h =>
    match l.live? h with
    | some a => (.resolved a, l)
    | none => (.failed (.invalidHandle kind h), l)
  | .release h =>
    (.released (l.live? h),
      if (l.live? h).isSome then { l with released := h :: l.released } else l)
  | .wasReleased h => (.told (h ∈ l.released), l)
  | .handles => (.listed l.handles, l)
  | .size => (.counted l.handles.length, l)

/-- What the log tells of the answers to calls one after another. -/
def answers (l : AllocationLog kind α) : List (TableCall kind α) → List (TableAnswer kind α)
  | [] => []
  | c :: cs => (l.answer c).1 :: (l.answer c).2.answers cs

/-- The log after calls. -/
def afterCalls (l : AllocationLog kind α) (cs : List (TableCall kind α)) : AllocationLog kind α :=
  cs.foldl (fun l c => (l.answer c).2) l

end AllocationLog

/-! ## Numbers of handles -/

namespace Handle

theorem toNat_numbered {n : Nat} (hn : n < 2 ^ 32) : (numbered n : Handle kind).raw.toNat = n :=
  UInt32.toNat_ofNat_of_lt' hn

theorem eq_numbered {n : Nat} (hn : n < 2 ^ 32) {h : Handle kind} :
    h = numbered n ↔ h.raw.toNat = n := by
  constructor
  · rintro rfl
    exact toNat_numbered hn
  · rintro rfl
    cases h
    exact congrArg Handle.mk UInt32.ofNat_toNat.symm

end Handle

namespace AllocationLog

variable {l : AllocationLog kind α} {h : Handle kind}

theorem built?_isSome : (l.built? h).isSome ↔ 0 < h.raw.toNat ∧ h.raw.toNat ≤ l.built.length := by
  unfold built?
  split
  · simp only [Option.isSome_none, Bool.false_eq_true, false_iff]
    omega
  · rw [isSome_getElem?]
    omega

theorem live?_isSome : (l.live? h).isSome ↔ h ∉ l.released ∧ (l.built? h).isSome := by
  unfold live?
  split <;> simp_all

/-- What is built next goes under the next number. -/
theorem built?_concat (hl : l.built.length < limit) (a : α) (rs : List (Handle kind)) :
    ({ built := l.built ++ [a], released := rs } : AllocationLog kind α).built? h =
      if h = .numbered (l.built.length + 1) then some a else l.built? h := by
  have hlt : l.built.length + 1 < 2 ^ 32 := by unfold limit at hl; omega
  simp only [Handle.eq_numbered hlt, built?]
  by_cases h0 : h.raw.toNat = 0
  · rw [if_pos h0, if_pos h0, if_neg (by omega)]
  · rw [if_neg h0, if_neg h0]
    split
    · rename_i he
      rw [he, Nat.add_sub_cancel, List.getElem?_concat_length]
    · rename_i he
      rcases Nat.lt_or_ge (h.raw.toNat - 1) l.built.length with hb | hb
      · exact List.getElem?_append_left hb
      · rw [List.getElem?_eq_none hb, List.getElem?_eq_none]
        rw [List.length_append, List.length_singleton]
        omega

theorem issued_sorted (hl : l.built.length ≤ limit) : l.issued.Pairwise (· < ·) := by
  unfold limit at hl
  unfold issued
  rw [List.pairwise_map]
  refine (List.pairwise_lt_range' 1).imp_of_mem fun {i j} hi hj hij => ?_
  rw [List.mem_range'_1] at hi hj
  rw [Handle.lt_iff, Handle.toNat_numbered (by omega), Handle.toNat_numbered (by omega)]
  exact hij

theorem mem_issued (hl : l.built.length ≤ limit) : h ∈ l.issued ↔ (l.built? h).isSome := by
  unfold limit at hl
  rw [built?_isSome, issued, List.mem_map]
  constructor
  · rintro ⟨n, hn, rfl⟩
    rw [List.mem_range'_1] at hn
    rw [Handle.toNat_numbered (by omega)]
    omega
  · rintro ⟨h1, h2⟩
    refine ⟨h.raw.toNat, List.mem_range'_1.2 (by omega), ?_⟩
    exact ((Handle.eq_numbered (by omega)).2 rfl).symm

end AllocationLog

/-! ## The log goes with the table -/

/-- The log goes with the table: the counter is past what was built, and what is live is what was
built and not released. -/
structure Logged (t : HandleTable kind α) (l : AllocationLog kind α) : Prop where
  next : t.next.toNat = l.built.length + 1
  live : ∀ h, t.get? h = l.live? h
  released : ∀ h ∈ l.released, (l.built? h).isSome

namespace Logged

variable {t t' : HandleTable kind α} {l : AllocationLog kind α} {h : Handle kind}

theorem empty : Logged (∅ : HandleTable kind α) {} where
  next := rfl
  live h := by
    show (none : Option α) = _
    unfold AllocationLog.live? AllocationLog.built?
    split <;> simp
  released _ hh := absurd hh List.not_mem_nil

theorem length_le (hl : Logged t l) : l.built.length ≤ AllocationLog.limit := by
  have h1 := hl.next
  have h2 := t.next.toNat_lt
  unfold AllocationLog.limit
  omega

/-- The counter stands at its end when every handle was issued. -/
theorem full_iff (hl : Logged t l) :
    t.next = HandleTable.ceiling ↔ l.built.length = AllocationLog.limit := by
  have h1 := hl.next
  have h2 : HandleTable.ceiling.toNat = 2 ^ 32 - 1 := rfl
  rw [← UInt32.toNat_inj, h1, h2, AllocationLog.limit]
  omega

theorem issued_iff (hl : Logged t l) : t.Issued h ↔ (l.built? h).isSome := by
  rw [HandleTable.Issued, AllocationLog.built?_isSome, hl.next]
  omega

theorem wasReleased_iff (hl : Logged t l) : t.wasReleased h = true ↔ h ∈ l.released := by
  rw [HandleTable.wasReleased_iff, hl.issued_iff, hl.live, ← Option.not_isSome_iff_eq_none,
    AllocationLog.live?_isSome, not_and_or, not_not]
  constructor
  · rintro ⟨hb, hr | hr⟩
    · exact hr
    · exact absurd hb hr
  · exact fun hr => ⟨hl.released h hr, .inl hr⟩

/-- The handles of the table are those of the log, in the same order. -/
theorem handles_eq (hl : Logged t l) : t.handles = l.handles := by
  refine Handle.eq_of_sorted t.live.sorted
    ((AllocationLog.issued_sorted hl.length_le).filter _) fun x => ?_
  have hx : t.live.get? x = l.live? x := hl.live x
  show x ∈ t.live.keys ↔ x ∈ l.handles
  rw [HandleMap.mem_keys_iff, hx, AllocationLog.live?_isSome, AllocationLog.handles,
    List.mem_filter, AllocationLog.mem_issued hl.length_le, decide_eq_true_eq, and_comm]

theorem size_eq (hl : Logged t l) : t.size = l.handles.length := by
  rw [← hl.handles_eq]
  exact (List.length_map _).symm

/-- A table that has issued every handle stays as it is, whatever should be built. -/
theorem allocate_full (hl : Logged t l) (hfull : l.built.length = AllocationLog.limit)
    (build : Handle kind → α) : t.allocate build = .error (.handlesExhausted kind) := by
  unfold HandleTable.allocate
  rw [dif_pos (hl.full_iff.2 hfull)]

/-- An allocation takes the next number, and the log goes on with what was built. -/
theorem allocate_next (hl : Logged t l) (hroom : l.built.length < AllocationLog.limit)
    (build : Handle kind → α) : ∃ t', t.allocate build = .ok (.numbered (l.built.length + 1), t') ∧
      t'.get? (.numbered (l.built.length + 1)) = some (build (.numbered (l.built.length + 1))) ∧
      Logged t' { l with built := l.built ++ [build (.numbered (l.built.length + 1))] } := by
  have hlt : l.built.length + 1 < 2 ^ 32 := by unfold AllocationLog.limit at hroom; omega
  cases ha : t.allocate build with
  | error f =>
    -- it would have to be full
    unfold HandleTable.allocate at ha
    split at ha
    · rename_i hn
      exact absurd (hl.full_iff.1 hn) (Nat.ne_of_lt hroom)
    · cases ha
  | ok p =>
    obtain ⟨h, t'⟩ := p
    obtain ⟨hraw, hnext, hnone, hget⟩ := HandleTable.allocate_eq_ok ha
    obtain rfl : h = .numbered (l.built.length + 1) := by
      rw [Handle.eq_numbered hlt, hraw, hl.next]
    -- a new handle has not been released
    have hnew : (.numbered (l.built.length + 1) : Handle kind) ∉ l.released := fun hr => by
      have hb := AllocationLog.built?_isSome.1 (hl.released _ hr)
      rw [Handle.toNat_numbered hlt] at hb
      omega
    refine ⟨t', rfl, by rw [hget, if_pos rfl], ⟨?_, fun x => ?_, fun x hx => ?_⟩⟩
    · rw [hnext, hl.next, List.length_append, List.length_singleton]
    · rw [hget, AllocationLog.live?, AllocationLog.built?_concat hroom]
      by_cases hx : x = .numbered (l.built.length + 1)
      · rw [if_pos hx, if_pos hx, if_neg (hx ▸ hnew)]
      · rw [if_neg hx, if_neg hx]
        exact hl.live x
    · rw [AllocationLog.built?_concat hroom]
      split
      · rfl
      · exact hl.released x hx

/-- What is not live is not released once more. -/
theorem release_of_dead (hl : Logged t l) (hd : l.live? h = none) : t.release h = t := by
  have hlive : t.live.erase h = t.live := by
    refine HandleMap.ext_get? fun x => ?_
    rw [HandleMap.get?_erase]
    split
    · rename_i hx
      exact (hx ▸ (hl.live h).trans hd).symm
    · rfl
  obtain ⟨next, live, hpos, hissued⟩ := t
  simp only [HandleTable.release, HandleTable.mk.injEq, true_and]
  exact hlive

theorem release (hl : Logged t l) (h : Handle kind) :
    Logged (t.release h)
      (if (l.live? h).isSome then { l with released := h :: l.released } else l) := by
  by_cases hlive : (l.live? h).isSome
  · rw [if_pos hlive]
    refine ⟨hl.next, fun x => ?_, fun x hx => ?_⟩
    · rw [HandleTable.get?_release, hl.live, AllocationLog.live?, AllocationLog.live?]
      by_cases hx : x = h
      · rw [if_pos hx, if_pos (hx ▸ List.mem_cons_self)]
      · simp only [List.mem_cons, hx, false_or, if_false]
        rfl
    · rcases List.mem_cons.1 hx with rfl | hx
      · exact (AllocationLog.live?_isSome.1 hlive).2
      · exact hl.released x hx
  · rw [if_neg hlive, hl.release_of_dead (Option.not_isSome_iff_eq_none.1 hlive)]
    exact hl

end Logged

/-- **One call**: the table answers what the log tells, and the log goes with
the table after it. -/
theorem answer_logged {t : HandleTable kind α} {l : AllocationLog kind α} (hl : Logged t l)
    (c : TableCall kind α) :
    (t.answer c).1 = (l.answer c).1 ∧ Logged (t.answer c).2 (l.answer c).2 := by
  cases c with
  | allocate build =>
    dsimp only [HandleTable.answer, AllocationLog.answer]
    rcases Nat.lt_or_ge l.built.length AllocationLog.limit with hroom | hfull
    · obtain ⟨t', ha, hget, hl'⟩ := hl.allocate_next hroom build
      rw [ha, if_pos hroom]
      exact ⟨congrArg (TableAnswer.allocated _) hget, hl'⟩
    · rw [hl.allocate_full (Nat.le_antisymm hl.length_le hfull) build,
        if_neg (Nat.not_lt.2 hfull)]
      exact ⟨rfl, hl⟩
  | resolve h =>
    dsimp only [HandleTable.answer, AllocationLog.answer, HandleTable.resolve]
    rw [hl.live]
    cases l.live? h with
    | none => exact ⟨rfl, hl⟩
    | some a => exact ⟨rfl, hl⟩
  | release h => exact ⟨congrArg _ (hl.live h), hl.release h⟩
  | wasReleased h =>
    refine ⟨congrArg TableAnswer.told ?_, hl⟩
    rw [Bool.eq_iff_iff, hl.wasReleased_iff, decide_eq_true_eq]
  | handles => exact ⟨congrArg _ hl.handles_eq, hl⟩
  | size => exact ⟨congrArg _ hl.size_eq, hl⟩

/-! ## Sequences of calls -/

theorem answers_logged (cs : List (TableCall kind α)) {t : HandleTable kind α}
    {l : AllocationLog kind α} (hl : Logged t l) :
    t.answers cs = l.answers cs ∧ Logged (t.afterCalls cs) (l.afterCalls cs) := by
  induction cs generalizing t l with
  | nil => exact ⟨rfl, hl⟩
  | cons c cs ih =>
    obtain ⟨h1, h2⟩ := answer_logged hl c
    obtain ⟨h3, h4⟩ := ih h2
    exact ⟨congrArg₂ List.cons h1 h3, h4⟩

namespace AllocationLog

/-- A call issues the handle that the log notes, or none. -/
theorem issued_answer (l : AllocationLog kind α) (c : TableCall kind α) :
    (l.answer c).2.issued = l.issued ++ (l.answer c).1.issued?.toList := by
  have hsame : ∀ {l' : AllocationLog kind α}, l'.built = l.built → l'.issued = l.issued ++ [] :=
    fun h => by rw [issued, issued, h, List.append_nil]
  cases c with
  | allocate build =>
    dsimp only [answer]
    split
    · dsimp only [issued]
      rw [List.length_append, List.length_singleton, List.range'_concat, List.map_append,
        Nat.one_mul, Nat.add_comm 1]
      rfl
    · exact hsame rfl
  | resolve h =>
    dsimp only [answer]
    split <;> exact hsame rfl
  | release h =>
    dsimp only [answer]
    split <;> exact hsame rfl
  | wasReleased h => exact hsame rfl
  | handles => exact hsame rfl
  | size => exact hsame rfl

theorem issued_answers (cs : List (TableCall kind α)) (l : AllocationLog kind α) :
    (l.afterCalls cs).issued = l.issued ++ (l.answers cs).filterMap TableAnswer.issued? := by
  induction cs generalizing l with
  | nil => exact (List.append_nil _).symm
  | cons c cs ih =>
    have hrest := ih (l.answer c).2
    rw [issued_answer, List.append_assoc] at hrest
    rw [answers, List.filterMap_cons]
    cases hi : (l.answer c).1.issued? <;> rw [hi] at hrest <;> exact hrest

end AllocationLog

/-- **A table does what the log of its allocations tells.** Every answer to every
sequence of calls is the one that the log gives, where the resource that is built
as the n-th is built for handle n. So the handles that are issued are 1, 2, 3 and
so on, none of them twice and at most 2³² − 2 of them. The counter stands behind
the last one. When all are issued, nothing is built any more and the table stays
as it is; and so it does when a handle is released that is not live. -/
theorem table_told_by_log (cs : List (TableCall kind α)) :
    let t := (∅ : HandleTable kind α).afterCalls cs
    let log := ({} : AllocationLog kind α).afterCalls cs
    let issued := ((∅ : HandleTable kind α).answers cs).filterMap TableAnswer.issued?
    (∅ : HandleTable kind α).answers cs = ({} : AllocationLog kind α).answers cs ∧
      issued = (List.range' 1 issued.length).map .numbered ∧ issued.Nodup ∧
      issued.length ≤ 2 ^ 32 - 2 ∧ t.next.toNat = issued.length + 1 ∧
      (issued.length = 2 ^ 32 - 2 → ∀ build,
        t.answer (.allocate build) = (.failed (.handlesExhausted kind), t)) ∧
      ∀ h, log.live? h = none → (t.answer (.release h)) = (.released none, t) := by
  intro t log issued
  have hempty : Logged (∅ : HandleTable kind α) {} := .empty
  obtain ⟨hanswers, hl⟩ := answers_logged cs hempty
  have hissued : log.issued = issued := by
    rw [AllocationLog.issued_answers, ← hanswers]
    rfl
  have hlength : issued.length = log.built.length := by
    rw [← hissued, AllocationLog.issued, List.length_map, List.length_range']
  refine ⟨hanswers, ?_, ?_, ?_, ?_, fun hfull build => ?_, fun h hd => ?_⟩
  · rw [hlength]
    exact hissued.symm
  · rw [← hissued]
    exact Handle.nodup_of_sorted (AllocationLog.issued_sorted hl.length_le)
  · rw [hlength]
    exact hl.length_le
  · rw [hlength]
    exact hl.next
  · dsimp only [HandleTable.answer]
    rw [hl.allocate_full (hlength.symm.trans hfull)]
  · show (TableAnswer.released (t.get? h), t.release h) = _
    rw [hl.live h, hd, hl.release_of_dead hd]

end QueryBridge
