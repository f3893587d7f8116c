import QueryBridge.Json.Value
import QueryBridge.Message

/-!
# Messages as JSON

A message is an object whose member `type` names it; its other members follow
in a fixed order. Bytes are written in base64, and credentials that are absent
are left out.

* `RequestEnvelope.encode`, `ResponseEnvelope.encode`: the text of a message.
-/

namespace QueryBridge

open Json (Value)

/-- A handle is written as its number. -/
def Handle.toValue {kind : HandleKind} (h : Handle kind) : Value := .ofNat h.raw.toNat

def HandleKind.toValue (k : HandleKind) : Value := .string k.name

def GlobalSessionId.toValue (id : GlobalSessionId) : Value := .string id.text

def ErrorCode.toValue (c : ErrorCode) : Value := .string c.name

/-- An object that is named by its member `type`. -/
def tagged (name : String) (members : List (String × Value)) : Value :=
  .object (("type", .string name) :: members)

/-- The members of a request besides its name. -/
def Request.members : Request → List (String × Value)
  | openConnection url credentials =>
    ("url", .string url) :: (credentials.map fun c => ("credentials", Value.string c)).toList
  | closeConnection c | createSession c => [("connection", c.toValue)]
  | closeSession s => [("session", s.toValue)]
  | executeQuery s text => [("session", s.toValue), ("text", .string text)]
  | pull r | pullAvailable r | closeReader r => [("reader", r.toValue)]

def Request.toValue (r : Request) : Value := tagged r.kind.name r.members

/-- The members of a response besides its name. -/
def Response.members : Response → List (String × Value)
  | connection c => [("connection", c.toValue)]
  | session s id => [("session", s.toValue), ("global_session_id", id.toValue)]
  | reader r => [("reader", r.toValue)]
  | chunk data => [("data", .string (Base64.encode data))]
  | chunks cs finished =>
    [("chunks", .array (cs.map fun c => .string (Base64.encode c))), ("finished", .bool finished)]
  | endOfStream | ok => []
  | error code message => [("code", code.toValue), ("message", .string message)]

def Response.toValue (r : Response) : Value := tagged r.kind.name r.members

def RequestEnvelope.toValue (e : RequestEnvelope) : Value :=
  .object [("id", .ofNat e.id.toNat), ("request", e.request.toValue)]

def ResponseEnvelope.toValue (e : ResponseEnvelope) : Value :=
  .object [("id", .ofNat e.id.toNat), ("response", e.response.toValue)]

/-- The text of a request with its number. -/
def RequestEnvelope.encode (e : RequestEnvelope) : String := e.toValue.compact

/-- The text of a response with the number of its request. -/
def ResponseEnvelope.encode (e : ResponseEnvelope) : String := e.toValue.compact

end QueryBridge
