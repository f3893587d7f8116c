import QueryBridge.Json.Reader
import QueryBridge.Message

/-!
# Messages from JSON

Members are known by their names, in any order; others are ignored. A known
member must not occur twice, and only credentials may be missing or null. A
message may also be written as an array: its name, then the values of its
members in their order.

* `Shape.content?`: the values of known members.
* `RequestEnvelope.decode`, `ResponseEnvelope.decode`: the message of a text.
-/

namespace QueryBridge

open Json (Value Content Read)

namespace Shape

/-- A member that a shape knows, and whether a message has to have it. -/
structure Member where
  name : String
  required : Bool

/-- The value of the member `m`, which must not occur twice. The outer `none` is a fault. -/
def member? (ms : List (String × Value)) (m : Member) : Option (Option Value) :=
  match ms.filter (·.1 = m.name) with
  | [] => if m.required then none else some none
  | [(_, v)] => some (some v)
  | _ => none

/-- Values by position; what is left off at the end must not be required, and
nothing may be left over. -/
def items? : List Member → List Value → Option (List (Option Value))
  | [], [] => some []
  | [], _ :: _ => none
  | _ :: shape, v :: vs => (items? shape vs).map (some v :: ·)
  | m :: shape, [] => if m.required then none else (items? shape []).map (none :: ·)

/-- The values of the members that a shape knows, in its order. -/
def content? (shape : List Member) : Content → Option (List (Option Value))
  | .members ms => shape.mapM (member? ms)
  | .items vs => items? shape vs

end Shape

/-! ## Values of members -/

def natural? (limit : Nat) : Value → Option Nat
  | .number (.integer i) => if 0 ≤ i ∧ i ≤ limit then some i.toNat else none
  | _ => none

def Handle.ofValue? {kind : HandleKind} (v : Value) : Option (Handle kind) :=
  (natural? (UInt32.size - 1) v).map fun n => ⟨UInt32.ofNat n⟩

def text? : Value → Option String
  | .string s => some s
  | _ => none

def flag? : Value → Option Bool
  | .bool b => some b
  | _ => none

def bytes? : Value → Option Bytes
  | .string s => Base64.decode s
  | _ => none

def chunks? : Value → Option (List Bytes)
  | .array vs => vs.mapM bytes?
  | _ => none

/-- Null stands for an absent text. -/
def optionalText? : Option Value → Option (Option String)
  | none | some .null => some none
  | some (.string s) => some (some s)
  | some _ => none

/-- A code is its word, or an object with the word as its only name and nothing in it. -/
def ErrorCode.ofValue? : Value → Option ErrorCode
  | .string s => ofName? s
  | .object [(s, .null)] | .object [(s, .object [])] => ofName? s
  | _ => none

/-! ## Messages -/

namespace Request

/-- The members of each request besides its name. -/
def shape : RequestKind → List Shape.Member
  | .openConnection => [⟨"url", true⟩, ⟨"credentials", false⟩]
  | .closeConnection | .createSession => [⟨"connection", true⟩]
  | .closeSession => [⟨"session", true⟩]
  | .executeQuery => [⟨"session", true⟩, ⟨"text", true⟩]
  | .pull | .pullAvailable | .closeReader => [⟨"reader", true⟩]

/-- The request of a kind with the given values. -/
def ofMembers? : RequestKind → List (Option Value) → Option Request
  | .openConnection, [some url, credentials] => do
    return openConnection (← text? url) (← optionalText? credentials)
  | .closeConnection, [some c] => (Handle.ofValue? c).map closeConnection
  | .createSession, [some c] => (Handle.ofValue? c).map createSession
  | .closeSession, [some s] => (Handle.ofValue? s).map closeSession
  | .executeQuery, [some s, some text] => do
    return executeQuery (← Handle.ofValue? s) (← text? text)
  | .pull, [some r] => (Handle.ofValue? r).map pull
  | .pullAvailable, [some r] => (Handle.ofValue? r).map pullAvailable
  | .closeReader, [some r] => (Handle.ofValue? r).map closeReader
  | _, _ => none

/-- A request off the front of tokens. -/
def read (outer : Nat) (ts : List Json.Token) : Read Request :=
  match Json.tagged "type" RequestKind.ofName? outer ts with
  | .error p => .error p
  | .ok ((kind, content), ts) =>
    match (Shape.content? (shape kind) content).bind (ofMembers? kind) with
    | some r => .ok (r, ts)
    | none => .error .mismatch

/-- The request of a text. -/
def decode (text : String) : Except DecodeProblem Request := Json.decode (read 0) text

end Request

namespace Response

/-- The members of each response besides its name. -/
def shape : ResponseKind → List Shape.Member
  | .connection => [⟨"connection", true⟩]
  | .session => [⟨"session", true⟩, ⟨"global_session_id", true⟩]
  | .reader => [⟨"reader", true⟩]
  | .chunk => [⟨"data", true⟩]
  | .chunks => [⟨"chunks", true⟩, ⟨"finished", true⟩]
  | .endOfStream | .ok => []
  | .error => [⟨"code", true⟩, ⟨"message", true⟩]

/-- The response of a kind with the given values. -/
def ofMembers? : ResponseKind → List (Option Value) → Option Response
  | .connection, [some c] => (Handle.ofValue? c).map connection
  | .session, [some s, some id] => do
    return session (← Handle.ofValue? s) ⟨← text? id⟩
  | .reader, [some r] => (Handle.ofValue? r).map reader
  | .chunk, [some data] => (bytes? data).map chunk
  | .chunks, [some cs, some finished] => do
    return chunks (← chunks? cs) (← flag? finished)
  | .endOfStream, [] => some endOfStream
  | .ok, [] => some ok
  | .error, [some code, some message] => do
    return error (← ErrorCode.ofValue? code) (← text? message)
  | _, _ => none

/-- A response off the front of tokens. -/
def read (outer : Nat) (ts : List Json.Token) : Read Response :=
  match Json.tagged "type" ResponseKind.ofName? outer ts with
  | .error p => .error p
  | .ok ((kind, content), ts) =>
    match (Shape.content? (shape kind) content).bind (ofMembers? kind) with
    | some r => .ok (r, ts)
    | none => .error .mismatch

/-- The response of a text. -/
def decode (text : String) : Except DecodeProblem Response := Json.decode (read 0) text

end Response

/-! ## Envelopes -/

/-- An envelope in the middle of its reading. -/
structure EnvelopeParts (α : Type) where
  id : Option UInt64 := none
  body : Option α := none

namespace EnvelopeParts

variable {α : Type}

/-- The two members of an envelope, the message under the given name. -/
def fields (bodyName : String) (readBody : Nat → List Json.Token → Read α) :
    List (Json.Field (EnvelopeParts α)) :=
  [ { name := "id"
      required := true
      given := fun e => e.id.isSome
      read := fun _ e ts => (Json.natural (UInt64.size - 1) ts).map fun (n, ts) =>
        ({ e with id := some (UInt64.ofNat n) }, ts) },
    { name := bodyName
      required := true
      given := fun e => e.body.isSome
      read := fun outer e ts => (readBody outer ts).map fun (b, ts) =>
        ({ e with body := some b }, ts) } ]

/-- An envelope off the front of tokens: the number and the message in it. -/
def read (bodyName : String) (readBody : Nat → List Json.Token → Read α) (outer : Nat)
    (ts : List Json.Token) : Read (UInt64 × α) :=
  match Json.record (fields bodyName readBody) {} outer ts with
  | .error p => .error p
  | .ok (⟨some id, some body⟩, ts) => .ok ((id, body), ts)
  | .ok _ => .error .mismatch

end EnvelopeParts

/-- The request envelope of a text. -/
def RequestEnvelope.decode (text : String) : Except DecodeProblem RequestEnvelope :=
  (Json.decode (EnvelopeParts.read "request" Request.read 0) text).map fun (id, r) => ⟨id, r⟩

/-- The response envelope of a text. -/
def ResponseEnvelope.decode (text : String) : Except DecodeProblem ResponseEnvelope :=
  (Json.decode (EnvelopeParts.read "response" Response.read 0) text).map fun (id, r) => ⟨id, r⟩

/-! ## Single values -/

/-- A handle of any kind is decoded from its number. -/
def Handle.decode {kind : HandleKind} (text : String) : Except DecodeProblem (Handle kind) :=
  (Json.decode (Json.natural (UInt32.size - 1)) text).map fun n => ⟨UInt32.ofNat n⟩

def GlobalSessionId.decode (text : String) : Except DecodeProblem GlobalSessionId :=
  (Json.decode Json.text text).map GlobalSessionId.mk

def HandleKind.decode (text : String) : Except DecodeProblem HandleKind :=
  Json.decode (Json.word HandleKind.ofName?) text

def ErrorCode.decode (text : String) : Except DecodeProblem ErrorCode :=
  Json.decode (Json.word ErrorCode.ofName?) text

end QueryBridge
