import QueryBridge.Text.Composed
import QueryBridge.Text.Split
import QueryBridge.Url.Domain.Direction
import QueryBridge.Url.Domain.Joining
import QueryBridge.Url.Domain.Letters
import QueryBridge.Url.Percent
import QueryBridge.Url.Punycode

/-!
# Domain names

A domain name is brought into the one form in which names are compared: folded
to what its characters stand for, composed, and with every label beyond ASCII
in Punycode after the mark `xn--`. A label that carries the mark already has to
be the Punycode of a label in that form.

* `Domain.toAscii?`: the form in ASCII, if the name has one.
-/

namespace QueryBridge.Url.Domain

/-- ASCII characters that no domain name holds. -/
def isForbidden (c : Char) : Bool :=
  c.toNat ≤ 32 || c.toNat = 127 || "#%/:<>?@[\\]^|".toList.contains c

/-- A name with every character replaced by what it stands for. -/
def fold (cs : List Char) : List Char := Text.composed (cs.flatMap folded)

/-- Whether a label may stand in a name as it is. -/
def isLabel (cs : List Char) : Bool :=
  cs.all (fun c => !isForbidden c && !isDisallowed c) && !(cs.head?.any Text.isMark) &&
    joinersFit cs

/-- The mark before a label in Punycode. -/
def mark : List Char := "xn--".toList

/-- A folded label as it is read: what the mark announces is decoded. -/
def label? (cs : List Char) : Option (List Char) :=
  if mark.isPrefixOf cs then
    match Punycode.decode (cs.drop mark.length) with
    | some d => if isLabel d && d.any (128 ≤ ·.toNat) && fold d = d then some d else none
    | none => none
  else if isLabel cs then some cs
  else none

/-- A label in ASCII. -/
def encode (cs : List Char) : List Char :=
  if cs.all (·.toNat < 128) then cs else mark ++ Punycode.encode cs

/-- A name in ASCII, given by its bytes in UTF-8. -/
def toAscii? (bytes : Bytes) : Option (List Char) := do
  let text ← String.fromUTF8? bytes.toByteArray
  let labels ← (Text.split '.' (fold text.toList)).mapM label?
  if labels.any needsDirection && !labels.all hasDirection then none
  else some (['.'].intercalate (labels.map encode))

end QueryBridge.Url.Domain
