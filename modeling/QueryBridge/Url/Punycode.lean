/-!
# Punycode

A label with characters beyond ASCII is written in letters, digits and
hyphens: first its ASCII characters, then for every other character, in
ascending order, how far the decoder has to advance to insert it. The
distances are numbers of variable length in base 36, and the thresholds
between their digits adapt to the distances seen so far.

* `Punycode.encode`: a label in ASCII, without the mark that announces it.
* `Punycode.decode`: the label that such a text stands for.
-/

namespace QueryBridge.Url.Punycode

/-- The letter for a digit: `a` to `z`, then `0` to `9`. -/
def letter (d : Nat) : Char := if d < 26 then Char.ofNat (97 + d) else Char.ofNat (22 + d)

/-- The digit of a letter, of either case. -/
def digit? (c : Char) : Option Nat :=
  if 'a' ≤ c ∧ c ≤ 'z' then some (c.toNat - 97)
  else if 'A' ≤ c ∧ c ≤ 'Z' then some (c.toNat - 65)
  else if '0' ≤ c ∧ c ≤ '9' then some (c.toNat - 22)
  else none

/-- The threshold of the digit at place `k`, counted from 36 in steps of 36. -/
def threshold (bias k : Nat) : Nat :=
  if k ≤ bias then 1 else if k - bias ≥ 26 then 26 else k - bias

/-- Divides a distance down, and counts the divisions in steps of 36. -/
def scale (delta k : Nat) : Nat × Nat :=
  if 455 < delta then scale (delta / 35) (k + 36) else (delta, k)
termination_by delta
decreasing_by exact Nat.div_lt_self (by omega) (by omega)

/-- The bias after a distance, of which `count` characters are now known. -/
def adapt (delta count : Nat) (first : Bool) : Nat :=
  let delta := if first then delta / 700 else delta / 2
  let (delta, k) := scale (delta + delta / count) 0
  k + 36 * delta / (delta + 38)

/-- The digits of a distance from place `k` on. -/
def distance (bias k q : Nat) : List Char :=
  let t := threshold bias k
  if h : q < t then [letter q]
  else letter (t + (q - t) % (36 - t)) :: distance bias (k + 36) ((q - t) / (36 - t))
termination_by q
decreasing_by
  have ht : 0 < threshold bias k := by
    unfold threshold
    split
    · omega
    · split <;> omega
  exact Nat.lt_of_le_of_lt (Nat.div_le_self _ _) (by omega)

/-- Where the encoder stands: the distance since the last insertion, the bias,
and the number of characters that are written. -/
structure Progress where
  delta : Nat
  bias : Nat
  written : Nat

/-- One pass over the label that writes every occurrence of the character `n`. -/
def pass (basic n : Nat) : List Nat → Progress → Progress × List Char
  | [], p => (p, [])
  | c :: cs, p =>
    if c < n then pass basic n cs { p with delta := p.delta + 1 }
    else if c = n then
      let digits := distance p.bias 36 p.delta
      let p' : Progress :=
        ⟨0, adapt p.delta (p.written + 1) (decide (p.written = basic)), p.written + 1⟩
      let (p', rest) := pass basic n cs p'
      (p', digits ++ rest)
    else pass basic n cs p

/-- Writes the characters `later`, in ascending order, all of them above `n`. -/
def passes (label : List Nat) (basic : Nat) : List Nat → (n : Nat) → Progress → List Char
  | [], _, _ => []
  | m :: later, n, p =>
    let p := { p with delta := p.delta + (m - n) * (p.written + 1) }
    let (p, out) := pass basic m label p
    out ++ passes label basic later (m + 1) { p with delta := p.delta + 1 }

/-- The different characters beyond ASCII of a label, in ascending order. -/
def extended (label : List Nat) : List Nat :=
  ((label.filter (128 ≤ ·)).mergeSort (· ≤ ·)).eraseDups

/-- A label in ASCII. -/
def encode (label : List Char) : List Char :=
  let cs := label.map Char.toNat
  let basic := label.filter (·.toNat < 128)
  basic ++ (if basic = [] then [] else ['-']) ++
    passes cs basic.length (extended cs) 128 ⟨0, 72, basic.length⟩

/-- A distance at the front of a text: its value and the rest of the text. -/
def readDistance (bias : Nat) : (k w i : Nat) → List Char → Option (Nat × List Char)
  | _, _, _, [] => none
  | k, w, i, c :: cs => do
    let d ← digit? c
    let i := i + d * w
    let t := threshold bias k
    if UInt32.size ≤ i then none
    else if d < t then some (i, cs)
    else readDistance bias (k + 36) (w * (36 - t)) i cs

/-- Inserts the characters that distances tell of. The first argument bounds
their number by the length of the text. -/
def insertions : (bound : Nat) → (n i bias : Nat) → List Nat → List Char → Option (List Nat)
  | _, _, _, _, out, [] => some out
  | 0, _, _, _, _, _ :: _ => none
  | bound + 1, n, i, bias, out, c :: cs => do
    let (j, rest) ← readDistance bias 36 1 i (c :: cs)
    let size := out.length + 1
    let bias := adapt (j - i) size (decide (i = 0))
    let n := n + j / size
    let place := j % size
    if n > 0x10FFFF ∨ (0xD800 ≤ n ∧ n ≤ 0xDFFF) then none
    else insertions bound n (place + 1) bias (out.take place ++ n :: out.drop place) rest

/-- The label that a text stands for. The ASCII characters come before the last hyphen. -/
def decode (text : List Char) : Option (List Char) :=
  let (basic, rest) :=
    match text.reverse.span (· ≠ '-') with
    | (_, []) => ([], text)
    | (tail, _ :: front) => (front.reverse, tail.reverse)
  if basic.any (128 ≤ ·.toNat) then none
  else (insertions rest.length 128 0 72 (basic.map Char.toNat) rest).map (·.map Char.ofNat)

end QueryBridge.Url.Punycode
