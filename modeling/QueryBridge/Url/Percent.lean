import QueryBridge.Base64

/-!
# Percent encoding

A byte that must not stand in a part of a URL is written as a percent sign and
two hexadecimal digits. Which characters are written so depends on the part.

* `Percent.encode`: text with the characters of a set, and all beyond ASCII, encoded.
* `Percent.decode`: the bytes of a text in which percent signs stand for bytes.
-/

namespace QueryBridge.Url.Percent

/-- Control characters, which no part holds as they are. -/
def isControl (c : Char) : Bool := c.toNat < 32 || c.toNat = 127

/-- The characters encoded in a fragment. -/
def inFragment (c : Char) : Bool :=
  isControl c || c = ' ' || c = '"' || c = '<' || c = '>' || c.toNat = 96

/-- The characters encoded in a path. -/
def inPath (c : Char) : Bool :=
  inFragment c || c = '#' || c = '?' || c = '{' || c = '}'

/-- The characters encoded in a user name or password. -/
def inUserInfo (c : Char) : Bool :=
  inPath c || c = '/' || c = ':' || c = ';' || c = '=' || c = '@' || c = '[' || c = '\\' ||
    c = ']' || c = '^' || c = '|'

/-- The characters encoded in a query. A quote is one of them in the schemes of the web. -/
def inQuery (special : Bool) (c : Char) : Bool :=
  isControl c || c = ' ' || c = '"' || c = '#' || c = '<' || c = '>' || (special && c.toNat = 39)

/-- An upper-case hexadecimal digit. -/
def hexDigit (n : Nat) : Char :=
  if n < 10 then Char.ofNat (48 + n) else Char.ofNat (55 + n)

/-- A byte as a percent sign and two digits. -/
def byte (b : UInt8) : List Char := ['%', hexDigit (b.toNat / 16), hexDigit (b.toNat % 16)]

/-- A character, encoded if it is in the set or beyond ASCII. -/
def encodeChar (set : Char → Bool) (c : Char) : List Char :=
  if 128 ≤ c.toNat || set c then (String.utf8EncodeChar c).flatMap byte else [c]

/-- A text with the characters of a set, and all beyond ASCII, encoded. -/
def encode (set : Char → Bool) (cs : List Char) : List Char := cs.flatMap (encodeChar set)

/-- The value of a hexadecimal digit. -/
def digit? (b : UInt8) : Option Nat :=
  let n := b.toNat
  if 48 ≤ n ∧ n ≤ 57 then some (n - 48)
  else if 65 ≤ n ∧ n ≤ 70 then some (n - 55)
  else if 97 ≤ n ∧ n ≤ 102 then some (n - 87)
  else none

/-- The bytes that encoded bytes stand for. A percent sign without two digits stands for itself. -/
def decodeBytes : Bytes → Bytes
  | 37 :: a :: b :: rest =>
    match digit? a, digit? b with
    | some x, some y => UInt8.ofNat (x * 16 + y) :: decodeBytes rest
    | _, _ => 37 :: decodeBytes (a :: b :: rest)
  | b :: rest => b :: decodeBytes rest
  | [] => []

/-- The bytes of a text in which percent signs stand for bytes. -/
def decode (cs : List Char) : Bytes := decodeBytes (cs.flatMap String.utf8EncodeChar)

end QueryBridge.Url.Percent
