import QueryBridge.Text.Printable

/-!
# Quoted text for diagnostics

A text between quotes in which every character can be told from every other:
quotes, backslashes and line ends are escaped, and characters that would not
be seen, or would join their neighbour, are written by their code points.

* `quoted`: the text between quotes.
-/

namespace QueryBridge.Text

/-- A character by its code point. -/
def codePoint (c : Char) : List Char :=
  ['\\', 'u', '{'] ++ Nat.toDigits 16 c.toNat ++ ['}']

/-- One character between quotes. -/
def quotedChar (c : Char) : List Char :=
  if c = '"' then ['\\', '"']
  else if c = '\\' then ['\\', '\\']
  else if c = '\n' then ['\\', 'n']
  else if c = '\r' then ['\\', 'r']
  else if c = '\t' then ['\\', 't']
  else if c.toNat = 0 then ['\\', '0']
  else if isExtending c || !isPrintable c then codePoint c
  else [c]

/-- A text between quotes. -/
def quoted (s : String) : String := String.ofList ('"' :: s.toList.flatMap quotedChar ++ ['"'])

end QueryBridge.Text
