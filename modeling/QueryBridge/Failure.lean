import QueryBridge.Handle

/-!
# Failures

The causes for which a call can fail, each with the text that a caller reads
and the code by which a program tells them apart.

* `Failure.message`: the text of a failure.
* `Failure.code`: its class, `internalError` for every cause without one of its own.
-/

namespace QueryBridge

/-- What is wrong with a text that should have been JSON of a given shape. -/
inductive DecodeProblem
  /-- The text stops inside a value, or holds none. -/
  | unexpectedEnd
  /-- The text is not JSON. -/
  | malformed
  /-- The text is JSON of another shape. -/
  | mismatch
deriving DecidableEq, Repr

/-- What a resource refuses to do once it is closed. -/
inductive Operation
  | createSession
  | executeQuery
  /-- An operation that only its text is known of. -/
  | named (text : String)
deriving DecidableEq, Repr

/-- The words for an operation. -/
def Operation.text : Operation → String
  | .createSession => "create session"
  | .executeQuery => "execute query"
  | .named text => text

/-- Why a call failed. -/
inductive Failure
  /-- No live resource has this handle. -/
  | invalidHandle (kind : HandleKind) (handle : Handle kind)
  /-- The resource was closed before the call. -/
  | illegalState (kind : HandleKind) (handle : Handle kind) (operation : Operation)
  /-- The service refused a call. -/
  | serviceError (message : String)
  /-- The service broke off a result stream. -/
  | transportFailure (message : String)
  /-- The resource was closed while the call was under way. -/
  | resourceClosed (kind : HandleKind) (handle : Handle kind)
  | invalidArgument (message : String)
  /-- Every handle of the kind has been issued. -/
  | handlesExhausted (kind : HandleKind)
  /-- There is nothing that could drive a stream in the background. -/
  | runtimeUnavailable
  /-- A file could not be read or written; the text is the system's. -/
  | io (text : String)
  /-- A text did not decode. -/
  | json (problem : DecodeProblem)
deriving DecidableEq, Repr

/-- The classes of failure that a caller across the boundary can tell apart. -/
inductive ErrorCode
  | invalidHandle
  | illegalState
  | serviceError
  | transportFailure
  | resourceClosed
  | invalidArgument
  | internalError
deriving DecidableEq, Repr

namespace ErrorCode

/-- The word for a code on the wire. -/
def name : ErrorCode → String
  | invalidHandle => "invalid_handle"
  | illegalState => "illegal_state"
  | serviceError => "service_error"
  | transportFailure => "transport_failure"
  | resourceClosed => "resource_closed"
  | invalidArgument => "invalid_argument"
  | internalError => "internal_error"

/-- The code that a word names. -/
def ofName? : String → Option ErrorCode
  | "invalid_handle" => some invalidHandle
  | "illegal_state" => some illegalState
  | "service_error" => some serviceError
  | "transport_failure" => some transportFailure
  | "resource_closed" => some resourceClosed
  | "invalid_argument" => some invalidArgument
  | "internal_error" => some internalError
  | _ => none

@[simp] theorem ofName?_name (c : ErrorCode) : ofName? c.name = some c := by
  cases c <;> rfl

end ErrorCode

namespace Failure

/-- The text that a caller reads. -/
def message : Failure → String
  | invalidHandle _ h => "Invalid handle: " ++ h.display
  | illegalState _ h op => "Illegal state: cannot " ++ op.text ++ " on closed " ++ h.display
  | serviceError m => "Service error: " ++ m
  | transportFailure m => "Transport failure: " ++ m
  | resourceClosed _ h => "Resource closed: " ++ h.display
  | invalidArgument m => "Invalid argument: " ++ m
  | handlesExhausted k => "Handle space exhausted for " ++ k.name ++ " handles"
  | runtimeUnavailable => "No tokio runtime available to drive the query stream"
  | io text => "I/O error: " ++ text
  | json .unexpectedEnd => "JSON error: unexpected end"
  | json .malformed => "JSON error: malformed"
  | json .mismatch => "JSON error: mismatch"

/-- The class of a failure. -/
def code : Failure → ErrorCode
  | invalidHandle .. => .invalidHandle
  | illegalState .. => .illegalState
  | serviceError _ => .serviceError
  | transportFailure _ => .transportFailure
  | resourceClosed .. => .resourceClosed
  | invalidArgument _ => .invalidArgument
  | handlesExhausted _ | runtimeUnavailable | io _ | json _ => .internalError

/-- Whether the failure names a handle without a live resource. -/
def isInvalidHandle : Failure → Bool
  | invalidHandle .. => true
  | _ => false

/-- Whether a resource was closed under the call. -/
def isResourceClosed : Failure → Bool
  | resourceClosed .. => true
  | _ => false

/-- The service's own words, where the failure is the service's. -/
def transportMessage? : Failure → Option String
  | serviceError m | transportFailure m => some m
  | _ => none

end Failure

end QueryBridge
