import QueryBridge.Url.Ipv4

/-!
# IPv6 addresses in hosts

Eight pieces of 16 bits in hexadecimal, separated by colons. One run of zero
pieces may be left out where two colons meet, and the last two pieces may be
written as an IPv4 address.

* `Ipv6.parse`: the address between the brackets of a host.
* `Ipv6.render`: its shortest text, the longest run of zeros left out.
-/

namespace QueryBridge.Url

/-- An IPv6 address by its eight pieces. -/
structure Ipv6 where
  pieces : List Nat
deriving DecidableEq, Repr

namespace Ipv6

/-- A byte in decimal, without leading zeros. -/
def byte? (cs : List Char) : Option Nat :=
  match cs with
  | [] => none
  | '0' :: _ :: _ => none
  | _ => if cs.length ≤ 3 then (Ipv4.ofDigits? 10 cs).filter (· ≤ 255) else none

/-- Two pieces that are written as an IPv4 address. -/
def dotted? (cs : List Char) : Option (List Nat) :=
  match (Text.split '.' cs).mapM byte? with
  | some [a, b, c, d] => some [a * 256 + b, c * 256 + d]
  | _ => none

/-- A piece: up to four hexadecimal digits. -/
def piece? (cs : List Char) : Option Nat :=
  if cs = [] ∨ 4 < cs.length then none else Ipv4.ofDigits? 16 cs

/-- The pieces of a text without an omission; an IPv4 address may stand at the end. -/
def pieces? : List (List Char) → Option (List Nat)
  | [] => some []
  | [l] => if l.contains '.' then dotted? l else (piece? l).map ([·])
  | l :: rest => do
    let p ← piece? l
    let ps ← pieces? rest
    some (p :: ps)

/-- The pieces of one side of an omission, which may be empty. -/
def side? (cs : List Char) : Option (List Nat) :=
  if cs = [] then some [] else pieces? (Text.split ':' cs)

/-- Cuts a text where two colons first meet. -/
def cut? : List Char → Option (List Char × List Char)
  | ':' :: ':' :: rest => some ([], rest)
  | c :: rest => (cut? rest).map fun (a, b) => (c :: a, b)
  | [] => none

/-- Whether one side of an omission ends in an IPv4 address. -/
def endsDotted (cs : List Char) : Bool := cs.contains '.'

/-- The address of the text between the brackets. -/
def parse (cs : List Char) : Option Ipv6 :=
  match cut? cs with
  | none => do
    let ps ← side? cs
    if ps.length = 8 then some ⟨ps⟩ else none
  | some (a, b) => do
    if endsDotted a then none
    let front ← side? a
    let back ← side? b
    let used := front.length + back.length
    if used ≤ 7 then some ⟨front ++ List.replicate (8 - used) 0 ++ back⟩ else none

/-- The start and the length of the longest run of zeros, the first one of equal length. -/
def longestZeros (ps : List Nat) : Nat × Nat :=
  (List.range ps.length).foldl (fun best i =>
    let n := ((ps.drop i).takeWhile (· = 0)).length
    if best.2 < n then (i, n) else best) (0, 0)

/-- A piece in hexadecimal. -/
def pieceText (n : Nat) : String := String.ofList (Nat.toDigits 16 n)

/-- The shortest text of an address. A lone zero is written out. -/
def render (a : Ipv6) : String :=
  let (start, length) := longestZeros a.pieces
  let join (ps : List Nat) := ":".intercalate (ps.map pieceText)
  if length < 2 then join a.pieces
  else join (a.pieces.take start) ++ "::" ++ join (a.pieces.drop (start + length))

end Ipv6

end QueryBridge.Url
