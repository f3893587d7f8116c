/-!
# JSON values

A JSON document as a tree. Members of an object keep their order, and a name
may occur twice: what that means is decided by whoever reads the object.

* `Value.compact`: the text of a value without any space.
* `Value.indented`: its text over several lines, two spaces a level.
-/

namespace QueryBridge.Json

/-- A number as far as any message needs it: only whole numbers carry a value. -/
inductive Number
  /-- A number written without fraction and exponent, from -2⁶³ to 2⁶⁴ - 1. -/
  | integer (value : Int)
  /-- Any other number; `-0` is one. -/
  | inexact
deriving DecidableEq, Repr

/-- A JSON document. -/
inductive Value
  | null
  | bool (b : Bool)
  | number (n : Number)
  | string (s : String)
  | array (items : List Value)
  | object (members : List (String × Value))
deriving Repr

/-- The decimal digits of a number. -/
def digits (n : Nat) : List Char := Nat.toDigits 10 n

/-- A lower-case hexadecimal digit. -/
def hexDigit (n : Nat) : Char := (Nat.toDigits 16 (n % 16)).headD '0'

/-- A character inside a string literal: quotes, backslashes and control
characters are escaped, all else stands for itself. -/
def escaped (c : Char) : List Char :=
  if c = '"' then ['\\', '"']
  else if c = '\\' then ['\\', '\\']
  else if c = '\n' then ['\\', 'n']
  else if c = '\r' then ['\\', 'r']
  else if c = '\t' then ['\\', 't']
  else if c = Char.ofNat 8 then ['\\', 'b']
  else if c = Char.ofNat 12 then ['\\', 'f']
  else if c.toNat < 32 then ['\\', 'u', '0', '0', hexDigit (c.toNat / 16), hexDigit c.toNat]
  else [c]

/-- A string literal. -/
def quoted (s : String) : List Char := '"' :: s.toList.flatMap escaped ++ ['"']

/-- The text of a whole number. -/
def integerText : Int → List Char
  | .ofNat n => digits n
  | .negSucc n => '-' :: digits (n + 1)

/-- The text of a number. A number without a value is written as a fraction. -/
def Number.chars : Number → List Char
  | .integer i => integerText i
  | .inexact => ['0', '.', '0']

namespace Value

/-- The whole number `n`. -/
def ofNat (n : Nat) : Value := .number (.integer n)

mutual

/-- The text of a value, without any space. -/
def compactChars : Value → List Char
  | null => "null".toList
  | bool true => "true".toList
  | bool false => "false".toList
  | number n => n.chars
  | string s => quoted s
  | array items => '[' :: compactItems true items ++ [']']
  | object members => '{' :: compactMembers true members ++ ['}']

/-- The items of an array, a comma before each but the first. -/
def compactItems : Bool → List Value → List Char
  | _, [] => []
  | first, v :: rest => (if first then [] else [',']) ++ compactChars v ++ compactItems false rest

/-- The members of an object, a comma before each but the first. -/
def compactMembers : Bool → List (String × Value) → List Char
  | _, [] => []
  | first, (k, v) :: rest =>
    (if first then [] else [',']) ++ quoted k ++ ':' :: compactChars v ++ compactMembers false rest

end

/-- The text of a value, without any space. -/
def compact (v : Value) : String := String.ofList v.compactChars

/-- A new line at the given level. -/
def newline (level : Nat) : List Char := '\n' :: List.replicate (2 * level) ' '

mutual

/-- The text of a value over several lines. Empty containers stay on theirs. -/
def indentedChars (level : Nat) : Value → List Char
  | array [] => ['[', ']']
  | object [] => ['{', '}']
  | array (v :: rest) =>
    '[' :: indentedItems level true (v :: rest) ++ newline level ++ [']']
  | object (m :: rest) =>
    '{' :: indentedMembers level true (m :: rest) ++ newline level ++ ['}']
  | null => "null".toList
  | bool true => "true".toList
  | bool false => "false".toList
  | number n => n.chars
  | string s => quoted s

/-- The items of an array, each on a line of its own. -/
def indentedItems (level : Nat) : Bool → List Value → List Char
  | _, [] => []
  | first, v :: rest =>
    (if first then [] else [',']) ++ newline (level + 1) ++ indentedChars (level + 1) v ++
      indentedItems level false rest

/-- The members of an object, each on a line of its own. -/
def indentedMembers (level : Nat) : Bool → List (String × Value) → List Char
  | _, [] => []
  | first, (k, v) :: rest =>
    (if first then [] else [',']) ++ newline (level + 1) ++ quoted k ++ ':' :: ' ' ::
      indentedChars (level + 1) v ++ indentedMembers level false rest

end

/-- The text of a value over several lines, two spaces a level. -/
def indented (v : Value) : String := String.ofList (v.indentedChars 0)

end Value

end QueryBridge.Json
