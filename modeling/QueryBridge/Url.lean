import QueryBridge.Failure
import QueryBridge.Url.Host

/-!
# Service URLs

A connection is opened against a URL with a host. The URL is brought into the
form in which URLs are compared: scheme and domain in lower case, the default
port left out, dot segments resolved, and everything encoded that has to be.

* `Url.parse`: the URL of a text, or what is wrong with it.
* `Url.render`: the text of a URL.
* `Url.ofService`: the URL of a service, or the failure that a caller sees.
-/

namespace QueryBridge

open Url (Host)

/-- A URL with a host, in normal form. -/
structure Url where
  scheme : String
  username : String
  password : String
  host : Host
  port : Option Nat
  path : String
  query : Option String
  fragment : Option String
deriving DecidableEq, Repr

namespace Url

/-- The text of a URL. -/
def render (u : Url) : String :=
  let password := if u.password = "" then "" else ":" ++ u.password
  let user := u.username ++ password
  u.scheme ++ "://" ++ (if user = "" then "" else user ++ "@") ++ u.host.render ++
    ((u.port.map fun p => ":" ++ decimal p).getD "") ++ u.path ++
    ((u.query.map ("?" ++ ·)).getD "") ++ ((u.fragment.map ("#" ++ ·)).getD "")

/-- The schemes of the web that have an authority. -/
def isSpecial (scheme : String) : Bool :=
  ["http", "https", "ws", "wss", "ftp"].contains scheme

/-- The port that a scheme implies. -/
def defaultPort? : String → Option Nat
  | "http" | "ws" => some 80
  | "https" | "wss" => some 443
  | "ftp" => some 21
  | _ => none

/-! ## Pieces of the text -/

/-- The text without control characters and spaces at its ends, and without
tabs and line ends anywhere. -/
def cleaned (text : String) : List Char :=
  let trim (cs : List Char) := cs.dropWhile (·.toNat ≤ 32)
  (trim (trim text.toList).reverse).reverse.filter fun c => c ≠ '\t' && c ≠ '\n' && c ≠ '\r'

/-- Whether a character is an ASCII letter. -/
def isLetter (c : Char) : Bool := ('a' ≤ c && c ≤ 'z') || ('A' ≤ c && c ≤ 'Z')

/-- Whether a character may stand in a scheme. -/
def inScheme (c : Char) : Bool :=
  isLetter c || ('0' ≤ c && c ≤ '9') || c = '+' || c = '-' || c = '.'

/-- The scheme of a text, in lower case, and what follows its colon. -/
def splitScheme? (cs : List Char) : Option (String × List Char) :=
  if (cs.head?.map isLetter).getD false then
    match cs.span inScheme with
    | (scheme, ':' :: rest) =>
      let lower (c : Char) := if 'A' ≤ c && c ≤ 'Z' then Char.ofNat (c.toNat + 32) else c
      some (String.ofList (scheme.map lower), rest)
    | _ => none
  else none

/-- Whether a character ends the authority. Backslashes are slashes in the schemes of the web. -/
def endsAuthority (special : Bool) (c : Char) : Bool :=
  c = '/' || c = '?' || c = '#' || (special && c = '\\')

/-- The user name, the password, and the text after the last at sign of the authority. -/
def splitUser (special : Bool) (cs : List Char) :
    Except UrlProblem (String × String × List Char) :=
  let (authority, rest) := cs.span (!endsAuthority special ·)
  match authority.reverse.span (· ≠ '@') with
  | (_, []) => .ok ("", "", cs)
  | (host, _ :: user) =>
    if user = [] && host = [] && rest ≠ [] then .error .emptyHost
    else
      let (name, password) := user.reverse.span (· ≠ ':')
      let encode (cs : List Char) := String.ofList (Percent.encode Percent.inUserInfo cs)
      .ok (encode name, encode (password.drop 1), host.reverse ++ rest)

/-- The text of a host and what follows it. A colon inside brackets belongs to the host. -/
def splitHost (special : Bool) : (inBrackets : Bool) → List Char → List Char × List Char
  | _, [] => ([], [])
  | inBrackets, c :: cs =>
    if endsAuthority special c || (c = ':' && !inBrackets) then ([], c :: cs)
    else
      let inBrackets := if c = '[' then true else if c = ']' then false else inBrackets
      let (host, rest) := splitHost special inBrackets cs
      (c :: host, rest)

/-- The port after a colon and what follows it. -/
def splitPort (cs : List Char) : Except UrlProblem (Option Nat × List Char) :=
  let (digits, rest) := cs.span fun c => '0' ≤ c && c ≤ '9'
  let n := Nat.ofDigitChars 10 digits 0
  if n > 65535 then .error .invalidPort
  else if (rest.head?.map fun c => c = '/' || c = '\\' || c = '?' || c = '#').getD true then
    .ok (if digits = [] then none else some n, rest)
  else .error .invalidPort

/-! ## Paths -/

/-- Whether a segment is a drive letter with a colon or a bar. -/
def isDrive : List Char → Bool
  | [c, d] => isLetter c && (d = ':' || d = '|')
  | _ => false

/-- Whether a segment stands for the one it is in. -/
def isDot (seg : List Char) : Bool :=
  [".", "%2e", "%2E"].contains (String.ofList seg)

/-- Whether a segment stands for the one above it. -/
def isDoubleDot (seg : List Char) : Bool :=
  ["..", "%2e%2e", "%2e%2E", "%2E%2e", "%2E%2E", "%2e.", "%2E.", ".%2e", ".%2E"].contains
    (String.ofList seg)

/-- A path in the middle of its reading: the segments before the last slash,
last to first, and whether a drive letter has taken the place of the host. -/
structure PathProgress where
  above : List (List Char)
  dropsHost : Bool

namespace PathProgress

/-- A segment that is followed by a slash. -/
def push (p : PathProgress) (seg : List Char) : PathProgress := { p with above := seg :: p.above }

/-- The path above; a drive letter has none. -/
def up (p : PathProgress) : PathProgress :=
  match p.above with
  | seg :: rest => if isDrive seg then p else { p with above := rest }
  | [] => p

/-- A segment: where it leads and what stands after the last slash. In a `file`
URL a drive letter stands alone at the front and takes the place of the host. -/
def segment (file : Bool) (p : PathProgress) (seg : List Char) : PathProgress × List Char :=
  if isDoubleDot seg then (p.up, [])
  else if isDot seg then (p, [])
  else if file && p.above = [] then
    match seg with
    -- a drive alone takes the place of the host
    | [c, d] => if isDrive seg then ({ p with dropsHost := true }, [c, ':']) else (p, [c, d])
    | c :: ':' :: rest =>
      if isLetter c then (p.push [c, ':'], rest) else (p, seg)
    | _ => (p, seg)
  else (p, seg)

end PathProgress

/-- Reads a path segment by segment. `slash` tells the separators. -/
def pathSegments (file : Bool) (slash : Char → Bool) :
    PathProgress → (seg : List Char) → List Char → PathProgress × List Char
  | p, seg, [] => p.segment file (Percent.encode Percent.inPath seg.reverse)
  | p, seg, c :: cs =>
    if slash c then
      let lead := Percent.encode Percent.inPath seg.reverse
      let (p', last) := p.segment file lead
      let p' := if isDot lead || isDoubleDot lead then p' else p'.push last
      pathSegments file slash p' [] cs
    else pathSegments file slash p (c :: seg) cs

/-- The text of a path. -/
def pathText (p : PathProgress) (last : List Char) : List Char :=
  '/' :: (p.above.reverse.flatMap fun seg => seg ++ ['/']) ++ last

/-- The path at the front of a text without its query and fragment, and whether
it drops the host. -/
def readPath (special file : Bool) (cs : List Char) : String × Bool :=
  let slash (c : Char) : Bool := c = '/' || ((special || file) && c = '\\')
  if cs = [] && !(special || file) then ("", false)
  else
    let cs := if (cs.head?.map slash).getD false then cs.drop 1 else cs
    let (p, last) := pathSegments file slash ⟨[], false⟩ [] cs
    let text := pathText p last
    let text := if file then '/' :: text.dropWhile (· = '/') else text
    (String.ofList text, p.dropsHost)

/-! ## Whole texts -/

/-- Path, query and fragment after an authority. -/
def finish (scheme username password : String) (host : Host) (port : Option Nat)
    (cs : List Char) : Except UrlProblem Url :=
  let special := isSpecial scheme
  let file := scheme = "file"
  let (pathChars, rest) := cs.span fun c => c ≠ '?' && c ≠ '#'
  let (path, dropsHost) := readPath special file pathChars
  let (query, rest) :=
    match rest with
    | '?' :: rest =>
      let (q, rest) := rest.span (· ≠ '#')
      (some (String.ofList (Percent.encode (Percent.inQuery (special || file)) q)), rest)
    | rest => (none, rest)
  let fragment :=
    match rest with
    | '#' :: f => some (String.ofList (Percent.encode Percent.inFragment f))
    | _ => none
  if dropsHost then .error .noHost
  else .ok { scheme, username, password, host, port, path, query, fragment }

/-- A URL after the two slashes of its authority. -/
def afterSlashes (scheme : String) (cs : List Char) : Except UrlProblem Url := do
  let special := isSpecial scheme
  let (username, password, cs) ← splitUser special cs
  let (hostText, cs) := splitHost special false cs
  if hostText = [] then
    -- an authority with a user or a port needs a host
    if special || username ≠ "" || password ≠ "" || cs.head? = some ':' then
      .error .emptyHost
    else .error .noHost
  else
    let host ← if special then Host.ofSpecial hostText else Host.ofOpaque hostText
    match cs with
    | ':' :: cs =>
      let (port, cs) ← splitPort cs
      finish scheme username password host (port.filter (some · ≠ defaultPort? scheme)) cs
    | cs => finish scheme username password host none cs

/-- A `file` URL after its scheme. It names a host only between two slashes and
a third, and the local host is none. -/
def fileUrl (cs : List Char) : Except UrlProblem Url :=
  let slash (c : Char) : Bool := c = '/' || c = '\\'
  match cs with
  | a :: b :: rest =>
    if slash a && slash b then
      let (hostText, rest) := rest.span fun c => !slash c && c ≠ '?' && c ≠ '#'
      if hostText = [] || isDrive hostText then .error .noHost
      else do
        let host ← Host.ofSpecial hostText
        if host = .domain "localhost" then .error .noHost
        else finish "file" "" "" host none rest
    else .error .noHost
  | _ => .error .noHost

/-- The URL of a text. Texts that are URLs without a host are a problem of their own. -/
def parse (text : String) : Except UrlProblem Url :=
  match splitScheme? (cleaned text) with
  | none => .error .noScheme
  | some (scheme, rest) =>
    if scheme = "file" then fileUrl rest
    else if isSpecial scheme then
      afterSlashes scheme (rest.dropWhile fun c => c = '/' || c = '\\')
    else match rest with
      | '/' :: '/' :: rest => afterSlashes scheme rest
      | _ => .error .noHost

end Url

/-- The words for a problem with a URL. -/
def UrlProblem.text : UrlProblem → String
  | noScheme => "relative URL without a base"
  | emptyHost => "empty host"
  | invalidPort => "invalid port number"
  | invalidIpv4 => "invalid IPv4 address"
  | invalidIpv6 => "invalid IPv6 address"
  | forbiddenCharacter => "invalid domain character"
  | invalidDomain => "invalid international domain name"
  | noHost => "no host"

/-- The URL of a service, or the failure that a caller sees. -/
def Url.ofService (text : String) : Except Failure Url :=
  match Url.parse text with
  | .ok u => .ok u
  | .error .noHost => .error (.invalidArgument ("service url '" ++ text ++ "' has no host"))
  | .error p => .error (.invalidArgument ("invalid service url '" ++ text ++ "': " ++ p.text))

end QueryBridge
