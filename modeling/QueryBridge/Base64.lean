/-!
# Base64

Bytes as text in the standard alphabet, three bytes in four letters, the last
group filled up with equals signs. Every byte string has one text and only
that text is read back: length, padding and unused bits are all checked.

* `Base64.encode`, `Base64.decode`: the text of bytes, the bytes of a text.
-/

namespace QueryBridge

/-- A byte string. -/
abbrev Bytes := List UInt8

namespace Base64

/-- The letter for six bits. -/
def letter (n : Nat) : Char :=
  if n < 26 then Char.ofNat (65 + n)
  else if n < 52 then Char.ofNat (71 + n)
  else if n < 62 then Char.ofNat (n - 4)
  else if n = 62 then '+'
  else '/'

/-- The six bits of a letter. -/
def sextet? (c : Char) : Option Nat :=
  if 'A' ≤ c ∧ c ≤ 'Z' then some (c.toNat - 65)
  else if 'a' ≤ c ∧ c ≤ 'z' then some (c.toNat - 71)
  else if '0' ≤ c ∧ c ≤ '9' then some (c.toNat + 4)
  else if c = '+' then some 62
  else if c = '/' then some 63
  else none

/-- The text of bytes, three at a time. -/
def encodeChars : Bytes → List Char
  | [] => []
  | [a] => [letter (a.toNat / 4), letter (a.toNat % 4 * 16), '=', '=']
  | [a, b] =>
    [letter (a.toNat / 4), letter (a.toNat % 4 * 16 + b.toNat / 16), letter (b.toNat % 16 * 4), '=']
  | a :: b :: c :: rest =>
    letter (a.toNat / 4) :: letter (a.toNat % 4 * 16 + b.toNat / 16) ::
      letter (b.toNat % 16 * 4 + c.toNat / 64) :: letter (c.toNat % 64) :: encodeChars rest

/-- The bytes of a last group, which padding fills up. -/
def decodeLast (a b c d : Char) : Option Bytes := do
  let w ← sextet? a
  let x ← sextet? b
  if c = '=' then
    if d = '=' ∧ x % 16 = 0 then some [UInt8.ofNat (w * 4 + x / 16)] else none
  else
    let y ← sextet? c
    if d = '=' ∧ y % 4 = 0 then
      some [UInt8.ofNat (w * 4 + x / 16), UInt8.ofNat (x % 16 * 16 + y / 4)]
    else none

/-- The bytes of a whole group. -/
def decodeGroup (a b c d : Char) : Option Bytes := do
  let w ← sextet? a
  let x ← sextet? b
  let y ← sextet? c
  let z ← sextet? d
  some [UInt8.ofNat (w * 4 + x / 16), UInt8.ofNat (x % 16 * 16 + y / 4),
    UInt8.ofNat (y % 4 * 64 + z)]

/-- The bytes of a text, four letters at a time. -/
def decodeChars : List Char → Option Bytes
  | [] => some []
  | [a, b, c, d] => if d = '=' then decodeLast a b c d else decodeGroup a b c d
  | a :: b :: c :: d :: rest => do
    let bytes ← decodeGroup a b c d
    let more ← decodeChars rest
    some (bytes ++ more)
  | _ => none

/-- The text of bytes. -/
def encode (bytes : Bytes) : String := String.ofList (encodeChars bytes)

/-- The bytes of a text, if it is the text of any. -/
def decode (text : String) : Option Bytes := decodeChars text.toList

end Base64

end QueryBridge
