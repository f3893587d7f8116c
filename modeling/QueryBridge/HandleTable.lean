import QueryBridge.Failure
import QueryBridge.HandleMap

/-!
# Handle tables

A table issues handles of one kind, in order from 1, and holds the resource of
each until it is released. A released handle is not issued again, so a stale
handle cannot reach a later resource. The number 2³² − 1 is never issued: the
counter stops there instead of wrapping.

* `HandleTable.allocate`: issues the next handle and registers its resource.
* `HandleTable.wasReleased`: whether a handle was issued and is no longer live.
-/

namespace QueryBridge

universe u

/-- Live resources of one kind by their handles. -/
structure HandleTable (kind : HandleKind) (α : Type u) where
  /-- The number that the next allocation takes. -/
  next : UInt32
  live : HandleMap kind α
  /-- Zero is never issued. -/
  next_pos : 0 < next.toNat
  /-- Live handles have been issued. -/
  issued : ∀ h ∈ live.keys, 0 < h.raw.toNat ∧ h.raw.toNat < next.toNat
deriving DecidableEq

namespace HandleTable

variable {kind : HandleKind} {α : Type u}

/-- The table before the first allocation. -/
def empty : HandleTable kind α where
  next := 1
  live := ∅
  next_pos := by decide
  issued := by simp [HandleMap.keys, EmptyCollection.emptyCollection]

instance : EmptyCollection (HandleTable kind α) := ⟨empty⟩

instance : Inhabited (HandleTable kind α) := ⟨empty⟩

/-- The one number that the counter reaches and does not issue. -/
def ceiling : UInt32 := 4294967295

private theorem toNat_succ {n : UInt32} (h : n ≠ ceiling) : (n + 1).toNat = n.toNat + 1 := by
  have h₁ := n.toNat_lt
  have h₂ : n.toNat ≠ 4294967295 := fun e => h (UInt32.toNat_inj.mp e)
  rw [UInt32.toNat_add]
  exact Nat.mod_eq_of_lt (by simpa using (by omega : n.toNat + 1 < 4294967296))

/-- Issues the next handle and registers the resource that `build` makes for
it. When no handle is left, nothing is built and the table stays as it is. -/
def allocate (t : HandleTable kind α) (build : Handle kind → α) :
    Except Failure (Handle kind × HandleTable kind α) :=
  if h : t.next = ceiling then
    .error (.handlesExhausted kind)
  else
    .ok (⟨t.next⟩,
      { next := t.next + 1
        live := t.live.insert ⟨t.next⟩ (build ⟨t.next⟩)
        next_pos := by rw [toNat_succ h]; exact Nat.succ_pos _
        issued := by
          intro x hx
          rw [toNat_succ h]
          -- the new handle, or one that was live before
          rcases HandleMap.mem_keys_insertSorted.mp hx with rfl | hx
          · exact ⟨t.next_pos, Nat.lt_succ_self _⟩
          · have := t.issued x hx
            omega })

/-- The live resource of a handle. -/
def get? (t : HandleTable kind α) (h : Handle kind) : Option α := t.live.get? h

/-- The live resource of a handle, or the failure to name one. -/
def resolve (t : HandleTable kind α) (h : Handle kind) : Except Failure α :=
  match t.get? h with
  | some a => .ok a
  | none => .error (.invalidHandle kind h)

/-- Takes a handle out of the table. A handle that is not live changes nothing. -/
def release (t : HandleTable kind α) (h : Handle kind) : HandleTable kind α where
  next := t.next
  live := t.live.erase h
  next_pos := t.next_pos
  issued := fun x hx => t.issued x <| by
    simp only [HandleMap.keys, HandleMap.erase, List.mem_map, List.mem_filter] at hx ⊢
    obtain ⟨p, hp, rfl⟩ := hx
    exact ⟨p, hp.1, rfl⟩

/-- Whether a handle has been issued and released since. -/
def wasReleased (t : HandleTable kind α) (h : Handle kind) : Bool :=
  h.raw ≠ 0 && decide (h.raw.toNat < t.next.toNat) && (t.get? h).isNone

/-- The live handles, in the order of their allocation. -/
def handles (t : HandleTable kind α) : List (Handle kind) := t.live.keys

/-- The number of live resources. -/
def size (t : HandleTable kind α) : Nat := t.live.size

/-- Whether no resource is live. -/
def isEmpty (t : HandleTable kind α) : Bool := t.size = 0

end HandleTable

end QueryBridge
