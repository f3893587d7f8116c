import QueryBridge.Json.Reader

/-!
# The tokens of a value

What a value is made of, however it is written, and how much of a value can be
read back.

* `Value.tokens`: the tokens of a value.
* `Value.Fits`: its numbers are in range, and it does not nest too deep.
-/

namespace QueryBridge.Json

/-! ## Tokens of values -/

namespace Value

mutual

/-- The tokens of a value. -/
def tokens : Value → List Token
  | null => [.null]
  | bool b => [.bool b]
  | number n => [.number n]
  | string s => [.string s]
  | array items => .openBracket :: (itemTokens true items ++ [.closeBracket])
  | object members => .openBrace :: (memberTokens true members ++ [.closeBrace])

/-- The tokens of the items of an array, a comma before each but the first. -/
def itemTokens : Bool → List Value → List Token
  | _, [] => []
  | first, v :: rest => (if first then [] else [.comma]) ++ v.tokens ++ itemTokens false rest

/-- The tokens of the members of an object, a comma before each but the first. -/
def memberTokens : Bool → List (String × Value) → List Token
  | _, [] => []
  | first, (k, v) :: rest =>
    (if first then [] else [.comma]) ++ .string k :: .colon :: v.tokens ++ memberTokens false rest

end

end Value

/-- A whole number that is read as one. -/
def Number.InRange : Number → Prop
  | .integer i => -(UInt64.size / 2 : Int) ≤ i ∧ i < UInt64.size
  | .inexact => True

/-- A value that can be read back: its numbers are in range, and it nests no
deeper than so many containers. -/
inductive Value.Fits : Nat → Value → Prop
  | null (n : Nat) : Fits n .null
  | bool (n : Nat) (b : Bool) : Fits n (.bool b)
  | number (n : Nat) {x : Number} : x.InRange → Fits n (.number x)
  | string (n : Nat) (s : String) : Fits n (.string s)
  | array {n : Nat} {vs : List Value} : (∀ v ∈ vs, Fits n v) → Fits (n + 1) (.array vs)
  | object {n : Nat} {ms : List (String × Value)} : (∀ m ∈ ms, Fits n m.2) →
    Fits (n + 1) (.object ms)

/-- Every number of 64 bits is in range. -/
theorem Value.fits_ofNat (n : Nat) {k : Nat} (hk : k < UInt64.size) : (ofNat k).Fits n := by
  have hlow : -(UInt64.size / 2 : Int) ≤ (k : Int) := by
    have hhalf : (0 : Int) ≤ UInt64.size / 2 := by decide
    omega
  exact .number n ⟨hlow, by exact_mod_cast hk⟩

/-- A value that fits may stand where there is more room. -/
theorem Value.Fits.mono {n n' : Nat} {v : Value} (h : v.Fits n) (hn : n ≤ n') : v.Fits n' := by
  induction h generalizing n' with
  | null => exact .null n'
  | bool _ b => exact .bool n' b
  | number _ hx => exact .number n' hx
  | string _ s => exact .string n' s
  | array _ ih =>
    obtain ⟨n', rfl⟩ := Nat.exists_eq_succ_of_ne_zero (Nat.ne_of_gt (Nat.zero_lt_of_lt hn))
    exact .array fun v hv => ih v hv (Nat.le_of_succ_le_succ hn)
  | object _ ih =>
    obtain ⟨n', rfl⟩ := Nat.exists_eq_succ_of_ne_zero (Nat.ne_of_gt (Nat.zero_lt_of_lt hn))
    exact .object fun m hm => ih m hm (Nat.le_of_succ_le_succ hn)

end QueryBridge.Json
