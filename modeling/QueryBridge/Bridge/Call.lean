import QueryBridge.Message.Decode
import QueryBridge.Message.Encode
import QueryBridge.Service

/-!
# Calls

What a caller can ask of the bridge, and how a call ends. A request that came
over the wire is one of these calls, and its response is made from how the
call ended.

* `Request.call`: the call that a request asks for.
* `Reading.after`: how a reading goes on after one chunk.
* `Outcome.response`: the response to a request whose call ended so.
-/

namespace QueryBridge

/-- How much of a reader's result a caller takes. -/
inductive Reading
  /-- The next chunk. -/
  | next
  /-- Every chunk that has arrived, or the next one if none has. -/
  | available
  /-- Everything up to the end; the chunks taken so far. -/
  | all (taken : List Bytes)
  /-- Everything up to the end or a failure, but no more chunks than the limit;
  the chunks taken so far. The reader is closed afterwards. -/
  | upTo (limit : Option Nat) (taken : List Bytes)
deriving DecidableEq, Repr

/-- What a caller can ask for and wait for. -/
inductive Call
  | openConnection (url : String) (credentials : Option Credentials)
  | createSession (connection : ConnectionHandle)
  | executeQuery (session : SessionHandle) (text : String)
  | read (reader : ReaderHandle) (reading : Reading)
  | closeConnection (connection : ConnectionHandle)
  | closeSession (session : SessionHandle)
  | closeReader (reader : ReaderHandle)
  /-- Waits until nothing is under way in the background. -/
  | settle
  /-- Closes every connection and waits until nothing is under way. -/
  | shutdown
deriving DecidableEq

/-- What a call gives. -/
inductive Reply
  | connection (handle : ConnectionHandle)
  | session (handle : SessionHandle) (globalId : GlobalSessionId)
  | reader (handle : ReaderHandle)
  /-- The next chunk; none at the end of the stream. -/
  | chunk (data : Option Bytes)
  /-- Several chunks; `finished` if the stream has ended after them. -/
  | batch (chunks : List Bytes) (finished : Bool)
  /-- All chunks of a stream. -/
  | chunks (chunks : List Bytes)
  /-- The chunks of a stream, and the failure after them if there was one. -/
  | items (chunks : List Bytes) (failure : Option Failure)
  | done
  /-- A response as it goes over the wire. -/
  | text (text : String)
deriving DecidableEq, Repr

/-- How a call ended. -/
inductive Outcome
  | replied (reply : Reply)
  | failed (failure : Failure)
  /-- The call broke off without an answer. -/
  | crashed
deriving DecidableEq, Repr

/-- The call that a request asks for. -/
def Request.call : Request → Call
  | openConnection url credentials => .openConnection url (credentials.map Credentials.mk)
  | closeConnection c => .closeConnection c
  | createSession c => .createSession c
  | closeSession s => .closeSession s
  | executeQuery s text => .executeQuery s text
  | pull r => .read r .next
  | pullAvailable r => .read r .available
  | closeReader r => .closeReader r

namespace Reading

/-- Whether a reading has all it asks for before it takes another chunk. -/
def isComplete : Reading → Bool
  | upTo (some limit) taken => limit ≤ taken.length
  | _ => false

/-- Whether the reader is closed when the reading ends. -/
def closesReader : Reading → Bool
  | upTo .. => true
  | _ => false

/-- What a reading that ends without another chunk gives. -/
def reply : Reading → Reply
  | next => .chunk none
  | available => .batch [] true
  | all taken => .chunks taken
  | upTo _ taken => .items taken none

/-- What a reading that a failure ends gives. -/
def outcome : Reading → Failure → Outcome
  | upTo _ taken, f => .replied (.items taken (some f))
  | _, f => .failed f

/-- How a reading goes on after a chunk: it has ended, or it wants another one. -/
def after : Reading → Bytes → Reply ⊕ Reading
  | next, c => .inl (.chunk (some c))
  | available, c => .inl (.batch [c] false)
  | all taken, c => .inr (all (taken ++ [c]))
  | upTo limit taken, c => .inr (upTo limit (taken ++ [c]))

end Reading

/-- The response that tells of a failure. -/
def Failure.response (f : Failure) : Response := .error f.code f.message

/-- The response that tells what a call gave. Of what no request asks for, it
tells only that it is done. -/
def Reply.response : Reply → Response
  | connection h => .connection h
  | session h id => .session h id
  | reader h => .reader h
  | chunk (some data) => .chunk data
  | chunk none => .endOfStream
  | batch cs finished => .chunks cs finished
  | chunks _ | items .. | done | text _ => .ok

/-- The outcome of a request: how its call ended, as a text under the number of
the request. -/
def Outcome.enveloped (id : UInt64) : Outcome → Outcome
  | replied r => replied (.text (ResponseEnvelope.encode ⟨id, r.response⟩))
  | failed f => replied (.text (ResponseEnvelope.encode ⟨id, f.response⟩))
  | crashed => crashed

end QueryBridge
