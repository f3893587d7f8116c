import QueryBridge.Url.Domain
import QueryBridge.Url.Ipv6

/-!
# Hosts

The part of a URL that says where the service is: a domain name, an address,
or, in schemes that are not of the web, a text that is taken as it stands.

* `Host.ofSpecial`: the host of a URL of the web.
* `Host.ofOpaque`: the host of any other URL.
-/

namespace QueryBridge

/-- Why a text is not the URL of a service. -/
inductive UrlProblem
  /-- The text has no scheme. -/
  | noScheme
  | emptyHost
  | invalidPort
  | invalidIpv4
  | invalidIpv6
  /-- A host outside the web's schemes holds a character that it must not. -/
  | forbiddenCharacter
  /-- A domain name has no form in ASCII. -/
  | invalidDomain
  /-- The text is a URL that names no host. -/
  | noHost
deriving DecidableEq, Repr

namespace Url

/-- Where a service is. -/
inductive Host
  /-- A domain name, or the text of a host outside the web's schemes. -/
  | domain (name : String)
  | ipv4 (address : Ipv4)
  | ipv6 (address : Ipv6)
deriving DecidableEq, Repr

namespace Host

/-- The text of a host. -/
def render : Host → String
  | domain name => name
  | ipv4 a => a.render
  | ipv6 a => "[" ++ a.render ++ "]"

/-- The address between brackets, if a host starts with one. -/
def bracketed? (cs : List Char) : Option (Except UrlProblem Host) :=
  match cs with
  | '[' :: rest =>
    some <| match rest.getLast? with
      | some ']' =>
        match Ipv6.parse rest.dropLast with
        | some a => .ok (ipv6 a)
        | none => .error .invalidIpv6
      | _ => .error .invalidIpv6
  | _ => none

/-- The host of a URL of the web: an address, or a domain name in ASCII. -/
def ofSpecial (cs : List Char) : Except UrlProblem Host :=
  (bracketed? cs).getD <|
    match Domain.toAscii? (Percent.decode cs) with
    | none => .error .invalidDomain
    | some [] => .error .emptyHost
    | some name =>
      if Ipv4.endsInNumber name then
        match Ipv4.parse name with
        | some a => .ok (ipv4 a)
        | none => .error .invalidIpv4
      else .ok (domain (String.ofList name))

/-- Characters that no host holds. -/
def isForbidden (c : Char) : Bool :=
  c.toNat = 0 || "\t\n\r #/:<>?@[\\]^|".toList.contains c

/-- The host of a URL outside the web: an address, or the text as it stands. -/
def ofOpaque (cs : List Char) : Except UrlProblem Host :=
  (bracketed? cs).getD <|
    if cs.any isForbidden then .error .forbiddenCharacter
    else .ok (domain (String.ofList (Percent.encode Percent.isControl cs)))

end Host

end Url

end QueryBridge
