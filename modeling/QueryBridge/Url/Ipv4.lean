import QueryBridge.Handle
import QueryBridge.Text.Split

/-!
# IPv4 addresses in hosts

A host whose last label is a number is an IPv4 address. Labels may be decimal,
octal after `0` or hexadecimal after `0x`, and the last one fills all the
bytes that are left.

* `Ipv4.endsInNumber`: whether a domain has to be read as an address.
* `Ipv4.parse`: the address, if the domain is one.
-/

namespace QueryBridge.Url

/-- An IPv4 address as a number below 2³². -/
structure Ipv4 where
  value : Nat
deriving DecidableEq, Repr

namespace Ipv4

/-- The value of a digit in any base up to sixteen. -/
def digit? (c : Char) : Option Nat :=
  if '0' ≤ c ∧ c ≤ '9' then some (c.toNat - 48)
  else if 'a' ≤ c ∧ c ≤ 'f' then some (c.toNat - 87)
  else if 'A' ≤ c ∧ c ≤ 'F' then some (c.toNat - 55)
  else none

/-- The number that digits denote in a base; none of them may reach the base. -/
def ofDigits? (base : Nat) (cs : List Char) : Option Nat :=
  cs.foldlM (fun n c => do
    let d ← digit? c
    if d < base then some (n * base + d) else none) 0

/-- The number of a label. The base is octal after a zero and hexadecimal after `0x`. -/
def number? : List Char → Option Nat
  | [] => none
  | '0' :: 'x' :: rest | '0' :: 'X' :: rest => ofDigits? 16 rest
  | '0' :: c :: rest => ofDigits? 8 (c :: rest)
  | cs => ofDigits? 10 cs

/-- The labels of a domain; a dot at the end adds none. -/
def labels (domain : List Char) : List (List Char) :=
  let ls := Text.split '.' domain
  if ls.length > 1 && ls.getLastD [] = [] then ls.dropLast else ls

/-- Whether a domain has to be read as an address: its last label is a number. -/
def endsInNumber (domain : List Char) : Bool :=
  let last := (labels domain).getLastD []
  last ≠ [] && (last.all (fun c => '0' ≤ c && c ≤ '9') || (number? last).isSome)

/-- The address that labels make up: the first ones are bytes, the last one is the rest. -/
def ofNumbers? (ns : List Nat) : Option Ipv4 :=
  match ns.reverse with
  | [] => none
  | last :: front =>
    let below := Nat.pow 256 (5 - ns.length)
    if ns.length > 4 ∨ front.any (255 < ·) ∨ below ≤ last then none
    else some ⟨front.reverse.foldl (fun acc n => acc * 256 + n) 0 * below + last⟩

/-- The address of a domain that ends in a number. -/
def parse (domain : List Char) : Option Ipv4 := do
  ofNumbers? (← (labels domain).mapM number?)

/-- The four bytes of an address in decimal. -/
def render (a : Ipv4) : String :=
  ".".intercalate [decimal (a.value / 16777216), decimal (a.value / 65536 % 256),
    decimal (a.value / 256 % 256), decimal (a.value % 256)]

end Ipv4

end QueryBridge.Url
