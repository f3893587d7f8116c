/-!
# Handles

A handle is the number under which a caller knows a connection, a session or
a reader. The kind is part of the type, so a session handle is never taken
where a reader handle is due; the number alone crosses the boundary.

* `Handle.display`: the text of a handle, such as `reader#42`.
-/

namespace QueryBridge

/-- The three kinds of resource that a caller can hold. -/
inductive HandleKind
  | connection
  | session
  | reader
deriving DecidableEq, Repr

/-- The word for a kind, in texts and on the wire. -/
def HandleKind.name : HandleKind → String
  | .connection => "connection"
  | .session => "session"
  | .reader => "reader"

/-- The kind that a word names. -/
def HandleKind.ofName? : String → Option HandleKind
  | "connection" => some .connection
  | "session" => some .session
  | "reader" => some .reader
  | _ => none

@[simp] theorem HandleKind.ofName?_name (k : HandleKind) : ofName? k.name = some k := by
  cases k <;> rfl

/-- The number of one resource of the given kind. Zero is never issued. -/
structure Handle (kind : HandleKind) where
  raw : UInt32
deriving DecidableEq, Repr

abbrev ConnectionHandle := Handle .connection
abbrev SessionHandle := Handle .session
abbrev ReaderHandle := Handle .reader

/-- The decimal digits of a number. -/
def decimal (n : Nat) : String := String.ofList (Nat.toDigits 10 n)

namespace Handle

variable {kind : HandleKind}

/-- Handles are ordered as they are issued. -/
instance : LT (Handle kind) := ⟨fun a b => a.raw.toNat < b.raw.toNat⟩

instance (a b : Handle kind) : Decidable (a < b) :=
  inferInstanceAs (Decidable (a.raw.toNat < b.raw.toNat))

theorem lt_iff {a b : Handle kind} : a < b ↔ a.raw.toNat < b.raw.toNat := Iff.rfl

theorem lt_irrefl (a : Handle kind) : ¬ a < a := Nat.lt_irrefl _

theorem lt_trans {a b c : Handle kind} (h : a < b) (h' : b < c) : a < c := Nat.lt_trans h h'

theorem eq_of_not_lt {a b : Handle kind} (h : ¬ a < b) (h' : ¬ b < a) : a = b := by
  cases a; cases b
  simp only [lt_iff, Nat.not_lt] at h h'
  congr
  exact UInt32.toNat_inj.mp (Nat.le_antisymm h' h)

/-- The kind, a number sign and the number. -/
def display (h : Handle kind) : String := kind.name ++ "#" ++ decimal h.raw.toNat

end Handle

/-- The identifier that the service gives to a session, the same for every caller. -/
structure GlobalSessionId where
  text : String
deriving DecidableEq, Repr

end QueryBridge
