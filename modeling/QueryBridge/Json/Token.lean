import QueryBridge.Failure
import QueryBridge.Json.Value

/-!
# JSON tokens

The lexer reads a text one character at a time. A fault inside a string or a
number becomes a token of its own, so that whoever reads the tokens meets the
first problem of the text first. A value that will be thrown away is judged
more mildly than one that is kept: lone surrogates and numbers beyond the
doubles pass, and the two may differ in whether a number that breaks off ends
the text or spoils it. A token therefore carries both verdicts.

* `Lex.run`: the tokens of the characters that are left, in a state of the lexer.
* `tokens`: the tokens of a text.
-/

namespace QueryBridge.Json

/-- One token, or the fault in its place. -/
inductive Token
  | openBrace
  | closeBrace
  | openBracket
  | closeBracket
  | colon
  | comma
  | null
  | bool (b : Bool)
  | number (n : Number)
  | string (s : String)
  /-- A string with a lone surrogate, or a number beyond the doubles. -/
  | unusable (isText : Bool)
  /-- Nothing after this can be read. The problem depends on whether the value was to be kept. -/
  | broken (isText : Bool) (kept skipped : DecodeProblem)
deriving DecidableEq, Repr

/-- A number as it is written, digits last to first. -/
structure Literal where
  negative : Bool
  whole : List Char
  fraction : List Char
  exponentNegative : Bool
  exponent : List Char
deriving DecidableEq, Repr

namespace Literal

/-- The number that digits denote. -/
def value (ds : List Char) : Nat := Nat.ofDigitChars 10 ds 0

/-- The largest whole number that is read as one. -/
def maxInteger : Nat := UInt64.size - 1

/-- The leading digits of the number as far as they fit a 64-bit word, and the
power of ten they are to be multiplied by. -/
def significand (whole fraction : List Char) : Nat × Int :=
  let fits (s : Nat) (d : Char) := s * 10 + (d.toNat - 48) ≤ maxInteger
  let (s, e, _) := whole.foldl (fun (s, e, full) d =>
    if full || !(decide (fits s d)) then (s, e + 1, true) else (s * 10 + (d.toNat - 48), e, false))
    (0, (0 : Int), false)
  let (s, e, _) := fraction.foldl (fun (s, e, full) d =>
    if full || !(decide (fits s d)) then (s, e, true) else (s * 10 + (d.toNat - 48), e - 1, false))
    (s, e, false)
  (s, e)

/-- A natural number rounded to 53 significant bits, a half to the even neighbour. -/
def roundToDouble (n : Nat) : Nat :=
  let excess := n.log2 + 1 - 53
  let unit := Nat.pow 2 excess
  let q := n / unit
  let r := n % unit
  if 2 * r > unit ∨ (2 * r = unit ∧ q % 2 = 1) then (q + 1) * unit else q * unit

/-- The least number that is rounded beyond the largest double. -/
def doubleLimit : Nat := Nat.pow 2 1024 - Nat.pow 2 970

/-- Whether a number lies beyond the doubles. Its significand and the power of
ten are rounded before they are multiplied. -/
def tooLarge (l : Literal) : Bool :=
  let (s, e) := significand l.whole.reverse l.fraction.reverse
  let x : Int := value l.exponent.reverse
  let e := if l.exponentNegative then e - x else e + x
  if s = 0 ∨ e < 0 then false
  else if e > 308 then true
  else decide (doubleLimit ≤ roundToDouble s * roundToDouble (Nat.pow 10 e.toNat))

/-- A number without fraction and exponent is whole if it fits 64 bits, signed
or unsigned; minus zero is not. -/
def number? (l : Literal) : Option Number :=
  let n := value l.whole.reverse
  if l.fraction = [] ∧ l.exponent = [] ∧ l.negative = false ∧ n ≤ maxInteger then
    some (.integer n)
  else if l.fraction = [] ∧ l.exponent = [] ∧ l.negative = true ∧ 0 < n ∧ n ≤ UInt64.size / 2 then
    some (.integer (-n))
  else if l.tooLarge then none
  else some .inexact

/-- The token of a complete number. -/
def token (l : Literal) : Token :=
  match l.number? with
  | some n => .number n
  | none => .unusable false

end Literal

/-- How far a number has been read. -/
inductive NumberPhase
  /-- A minus sign. -/
  | sign
  /-- A zero, which no digit may follow. -/
  | zero
  | whole
  /-- The decimal point. -/
  | point
  | fraction
  /-- The `e` of an exponent. -/
  | mark
  /-- The sign of an exponent. -/
  | markSign
  | exponent
deriving DecidableEq, Repr

/-- What the lexer is in the middle of. Strings hold their characters last to
first; `ill` says that a lone surrogate has been met. -/
inductive Lex
  | between
  | word (rest : List Char) (token : Token)
  | text (ill : Bool) (chars : List Char)
  /-- After a backslash. -/
  | escape (ill : Bool) (chars : List Char)
  /-- Inside four hexadecimal digits, perhaps after a leading surrogate. -/
  | unit (ill : Bool) (chars : List Char) (high : Option Nat) (bytes : Nat) (value : Option Nat)
  /-- After a leading surrogate. -/
  | surrogate (chars : List Char) (high : Nat)
  /-- After a leading surrogate and a backslash. -/
  | surrogateEscape (chars : List Char) (high : Nat)
  | number (phase : NumberPhase) (literal : Literal)
  /-- After a fault. -/
  | stopped
deriving DecidableEq, Repr

/-- Spaces, tabs and line ends may stand between tokens. -/
def isSpace (c : Char) : Bool := c = ' ' || c = '\t' || c = '\n' || c = '\r'

/-- The value of a hexadecimal digit. -/
def hexValue? (c : Char) : Option Nat :=
  if '0' ≤ c ∧ c ≤ '9' then some (c.toNat - 48)
  else if 'a' ≤ c ∧ c ≤ 'f' then some (c.toNat - 87)
  else if 'A' ≤ c ∧ c ≤ 'F' then some (c.toNat - 55)
  else none

/-- Whether a character is a decimal digit. -/
def isDigit (c : Char) : Bool := '0' ≤ c && c ≤ '9'

/-- The character that a letter after a backslash stands for. -/
def unescape? (c : Char) : Option Char :=
  if c = '"' then some '"'
  else if c = '\\' then some '\\'
  else if c = '/' then some '/'
  else if c = 'b' then some (Char.ofNat 8)
  else if c = 'f' then some (Char.ofNat 12)
  else if c = 'n' then some '\n'
  else if c = 'r' then some '\r'
  else if c = 't' then some '\t'
  else none

namespace Lex

/-- A fault that is the same for kept and skipped values. -/
def fault (isText ill : Bool) (p : DecodeProblem) : Token :=
  .broken isText (if ill then .malformed else p) p

/-- The state after a character that stands between tokens, and the token that it completes. -/
def start (c : Char) : Lex × List Token :=
  if isSpace c then (between, [])
  else if c = '{' then (between, [.openBrace])
  else if c = '}' then (between, [.closeBrace])
  else if c = '[' then (between, [.openBracket])
  else if c = ']' then (between, [.closeBracket])
  else if c = ':' then (between, [.colon])
  else if c = ',' then (between, [.comma])
  else if c = '"' then (text false [], [])
  else if c = 'n' then (word "ull".toList .null, [])
  else if c = 't' then (word "rue".toList (.bool true), [])
  else if c = 'f' then (word "alse".toList (.bool false), [])
  else if c = '-' then (number .sign ⟨true, [], [], false, []⟩, [])
  else if c = '0' then (number .zero ⟨false, [c], [], false, []⟩, [])
  else if isDigit c then (number .whole ⟨false, [c], [], false, []⟩, [])
  else (stopped, [fault false false .malformed])

/-- A character inside a string. -/
def inText (ill : Bool) (chars : List Char) (c : Char) : Lex × List Token :=
  if c = '"' then
    (between, [if ill then .unusable true else .string (String.ofList chars.reverse)])
  else if c = '\\' then (escape ill chars, [])
  else if c.toNat < 32 then (stopped, [fault true ill .malformed])
  else (text ill (c :: chars), [])

/-- A character after a backslash. -/
def inEscape (ill : Bool) (chars : List Char) (c : Char) : Lex × List Token :=
  if c = 'u' then (unit ill chars none 0 (some 0), [])
  else match unescape? c with
    | some x => (text ill (x :: chars), [])
    | none => (stopped, [fault true ill .malformed])

/-- The state after a 16-bit unit has been read. A leading surrogate has to be
followed by a trailing one; any other use of a surrogate is a lone one. -/
def afterUnit (ill : Bool) (chars : List Char) (high : Option Nat) (u : Nat) : Lex :=
  let leading := 0xD800 ≤ u && u ≤ 0xDBFF
  let trailing := 0xDC00 ≤ u && u ≤ 0xDFFF
  match high with
  | some h =>
    if trailing then text ill (Char.ofNat (0x10000 + (h - 0xD800) * 0x400 + (u - 0xDC00)) :: chars)
    else text true chars
  | none =>
    if ill || trailing then text (ill || trailing) chars
    else if leading then surrogate chars u
    else text ill (Char.ofNat u :: chars)

/-- A character of a number, which may be the first one after it. -/
def inNumber (phase : NumberPhase) (l : Literal) (c : Char) : Lex × List Token :=
  let wrong := (stopped, [fault false false .malformed])
  let complete := let (s, out) := start c; (s, l.token :: out)
  let marked (otherwise : Lex × List Token) :=
    if c = 'e' || c = 'E' then (number .mark l, []) else otherwise
  match phase with
  | .sign =>
    if c = '0' then (number .zero { l with whole := [c] }, [])
    else if isDigit c then (number .whole { l with whole := [c] }, [])
    else wrong
  | .zero =>
    if isDigit c then wrong
    else if c = '.' then (number .point l, [])
    else marked complete
  | .whole =>
    if isDigit c then (number .whole { l with whole := c :: l.whole }, [])
    else if c = '.' then (number .point l, [])
    else marked complete
  | .point =>
    if isDigit c then (number .fraction { l with fraction := [c] }, []) else wrong
  | .fraction =>
    if isDigit c then (number .fraction { l with fraction := c :: l.fraction }, [])
    else marked complete
  | .mark =>
    if c = '+' then (number .markSign l, [])
    else if c = '-' then (number .markSign { l with exponentNegative := true }, [])
    else if isDigit c then (number .exponent { l with exponent := [c] }, [])
    else wrong
  | .markSign =>
    if isDigit c then (number .exponent { l with exponent := [c] }, []) else wrong
  | .exponent =>
    if isDigit c then (number .exponent { l with exponent := c :: l.exponent }, [])
    else complete

/-- One character: the next state, and the tokens that it completes. -/
def step (s : Lex) (c : Char) : Lex × List Token :=
  match s with
  | between => start c
  | word [] t => let (s, out) := start c; (s, t :: out)
  | word (x :: rest) t =>
    if c ≠ x then (stopped, [fault false false .malformed])
    else if rest = [] then (between, [t])
    else (word rest t, [])
  | text ill chars => inText ill chars c
  | escape ill chars => inEscape ill chars c
  | unit ill chars high bytes value =>
    let bytes := bytes + c.utf8Size
    let value := do return (← value) * 16 + (← hexValue? c)
    -- the digits are cut off after four bytes, even inside a character
    if bytes < 4 then (unit ill chars high bytes value, [])
    else match value with
      | some u => (afterUnit ill chars high u, [])
      | none => (stopped, [fault true ill .malformed])
  | surrogate chars high =>
    if c = '\\' then (surrogateEscape chars high, []) else inText true chars c
  | surrogateEscape chars high =>
    if c = 'u' then (unit false chars (some high) 0 (some 0), []) else inEscape true chars c
  | number phase l => inNumber phase l c
  | stopped => (stopped, [])

/-- The tokens that the end of the text completes. -/
def finish : Lex → List Token
  | between | stopped => []
  | word [] t => [t]
  | word (_ :: _) _ => [fault false false .unexpectedEnd]
  | text ill _ | escape ill _ | unit ill _ _ _ _ => [fault true ill .unexpectedEnd]
  | surrogate _ _ | surrogateEscape _ _ => [fault true false .unexpectedEnd]
  | number phase l =>
    match phase with
    | .zero | .whole | .fraction | .exponent => [l.token]
    | .sign | .point | .mark | .markSign => [.broken false .unexpectedEnd .malformed]

/-- The tokens of the characters that are left. -/
def run : Lex → List Char → List Token
  | s, [] => s.finish
  | s, c :: cs => (s.step c).2 ++ run (s.step c).1 cs

end Lex

/-- The tokens of a text. -/
def tokens (text : String) : List Token := Lex.run .between text.toList

end QueryBridge.Json
