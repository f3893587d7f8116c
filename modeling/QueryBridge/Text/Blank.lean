/-!
# Blank characters

The characters that count as white space in text of any script.

* `isBlank`: the property itself.
* `trimEnd`: a text without the blanks at its end.
-/

namespace QueryBridge.Text

/-- White space: the controls from tab to carriage return, the next-line
control, and the spaces and separators of all widths. -/
def isBlank (c : Char) : Bool :=
  let n := c.toNat
  (9 ≤ n && n ≤ 13) || n = 0x20 || n = 0x85 || n = 0xA0 || n = 0x1680 ||
    (0x2000 ≤ n && n ≤ 0x200A) || n = 0x2028 || n = 0x2029 || n = 0x202F || n = 0x205F ||
    n = 0x3000

/-- What is left after the blanks at the end are dropped. -/
def trimEndChars (cs : List Char) : List Char := (cs.reverse.dropWhile isBlank).reverse

/-- A text without the blanks at its end. -/
def trimEnd (s : String) : String := String.ofList (trimEndChars s.toList)

end QueryBridge.Text
