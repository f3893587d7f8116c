import QueryBridge.Text.Split

/-!
# Tables of code points

Properties of characters are tables of runs of code points, in ascending order
and apart from each other. A table is written as words between blanks:
`41-5A` is a run, `41-5B/2` every second one of it, and `C0=41.300` gives a
code point two values. All numbers are hexadecimal.

* `CodeTable.contains`: whether a code point has the property.
* `CodeTable.class?`: the value that a whole run has.
* `CodeTable.image?`: what a code point stands for.
-/

namespace QueryBridge.Text

/-- A run of code points and the values of the first one. -/
structure CodeRun where
  first : Nat
  last : Nat
  step : Nat
  values : List Nat
deriving Repr

/-- The number that a hexadecimal digit stands for. -/
def hexDigitValue (c : Char) : Nat := if '9' < c then c.toNat - 55 else c.toNat - 48

/-- The number that hexadecimal digits stand for. -/
def hexNumber (cs : List Char) : Nat := cs.foldl (fun n c => 16 * n + hexDigitValue c) 0

namespace CodeRun

/-- A run that a word without values names. -/
def ofRange (word : List Char) : CodeRun :=
  match split '-' word with
  | [first, last] =>
    match split '/' last with
    | [last, step] => ⟨hexNumber first, hexNumber last, hexNumber step, []⟩
    | _ => ⟨hexNumber first, hexNumber last, 1, []⟩
  | _ => ⟨hexNumber word, hexNumber word, 1, []⟩

/-- The run that a word names. -/
def ofWord (word : List Char) : CodeRun :=
  match split '=' word with
  | [range, values] => { ofRange range with values := (split '.' values).map hexNumber }
  | _ => ofRange word

/-- Whether a code point between the ends of a run is one of it. -/
def reaches (r : CodeRun) (n : Nat) : Bool := (n - r.first) % r.step = 0

end CodeRun

/-- Runs of code points, in ascending order. -/
abbrev CodeTable := Array CodeRun

namespace CodeTable

/-- The table that a text writes down. -/
def ofText (text : String) : CodeTable :=
  let blanksToSpaces := text.toList.map fun c => if c = '\n' then ' ' else c
  (((split ' ' blanksToSpaces).filter (· ≠ [])).map CodeRun.ofWord).toArray

/-- The run that holds a code point, looked for from the place `low` up to the place `high`. -/
def findFrom (t : CodeTable) (n low high : Nat) : Option CodeRun :=
  if low < high then
    let middle := (low + high) / 2
    match t[middle]? with
    | none => none
    | some r =>
      if n < r.first then findFrom t n low middle
      else if r.last < n then findFrom t n (middle + 1) high
      else if r.reaches n then some r
      else none
  else none
termination_by high - low

/-- The run that holds a code point. -/
def find? (t : CodeTable) (n : Nat) : Option CodeRun := findFrom t n 0 t.size

/-- Whether a code point is in the table. -/
def contains (t : CodeTable) (n : Nat) : Bool := (t.find? n).isSome

/-- The value that all code points of a run have. -/
def class? (t : CodeTable) (n : Nat) : Option Nat := (t.find? n).bind (·.values.head?)

/-- The code points that a code point stands for. In a run with one value,
each code point stands for the one as far behind that value as it is behind the
first of the run. -/
def image? (t : CodeTable) (n : Nat) : Option (List Nat) :=
  (t.find? n).map fun r =>
    match r.values with
    | [value] => [value + (n - r.first)]
    | values => values

end CodeTable

end QueryBridge.Text
