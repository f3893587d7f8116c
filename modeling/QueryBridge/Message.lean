import QueryBridge.Base64
import QueryBridge.Failure

/-!
# Messages

What crosses the boundary between a caller and the bridge. Each request is
answered by one response with the request's number, and answers may come in
another order than the requests.

* `Request`, `Response`: one call, and how it ended.
* `RequestEnvelope`, `ResponseEnvelope`: either with the number that pairs them.
-/

namespace QueryBridge

/-- The names of the requests. -/
inductive RequestKind
  | openConnection
  | closeConnection
  | createSession
  | closeSession
  | executeQuery
  | pull
  | pullAvailable
  | closeReader
deriving DecidableEq, Repr

namespace RequestKind

/-- The word for a request on the wire. -/
def name : RequestKind → String
  | openConnection => "open_connection"
  | closeConnection => "close_connection"
  | createSession => "create_session"
  | closeSession => "close_session"
  | executeQuery => "execute_query"
  | pull => "pull"
  | pullAvailable => "pull_available"
  | closeReader => "close_reader"

/-- The request that a word names. -/
def ofName? : String → Option RequestKind
  | "open_connection" => some openConnection
  | "close_connection" => some closeConnection
  | "create_session" => some createSession
  | "close_session" => some closeSession
  | "execute_query" => some executeQuery
  | "pull" => some pull
  | "pull_available" => some pullAvailable
  | "close_reader" => some closeReader
  | _ => none

@[simp] theorem ofName?_name (k : RequestKind) : ofName? k.name = some k := by
  cases k <;> rfl

end RequestKind

/-- A call on the bridge. -/
inductive Request
  | openConnection (url : String) (credentials : Option String)
  | closeConnection (connection : ConnectionHandle)
  | createSession (connection : ConnectionHandle)
  | closeSession (session : SessionHandle)
  | executeQuery (session : SessionHandle) (text : String)
  /-- The next chunk of a result. -/
  | pull (reader : ReaderHandle)
  /-- Every chunk that has arrived, or the next one if none has. -/
  | pullAvailable (reader : ReaderHandle)
  | closeReader (reader : ReaderHandle)
deriving DecidableEq, Repr

/-- Which request it is. -/
def Request.kind : Request → RequestKind
  | openConnection .. => .openConnection
  | closeConnection _ => .closeConnection
  | createSession _ => .createSession
  | closeSession _ => .closeSession
  | executeQuery .. => .executeQuery
  | pull _ => .pull
  | pullAvailable _ => .pullAvailable
  | closeReader _ => .closeReader

/-- The names of the responses. -/
inductive ResponseKind
  | connection
  | session
  | reader
  | chunk
  | chunks
  | endOfStream
  | ok
  | error
deriving DecidableEq, Repr

namespace ResponseKind

/-- The word for a response on the wire. -/
def name : ResponseKind → String
  | connection => "connection"
  | session => "session"
  | reader => "reader"
  | chunk => "chunk"
  | chunks => "chunks"
  | endOfStream => "end_of_stream"
  | ok => "ok"
  | error => "error"

/-- The response that a word names. -/
def ofName? : String → Option ResponseKind
  | "connection" => some connection
  | "session" => some session
  | "reader" => some reader
  | "chunk" => some chunk
  | "chunks" => some chunks
  | "end_of_stream" => some endOfStream
  | "ok" => some ok
  | "error" => some error
  | _ => none

@[simp] theorem ofName?_name (k : ResponseKind) : ofName? k.name = some k := by
  cases k <;> rfl

end ResponseKind

/-- How a call ended. -/
inductive Response
  | connection (connection : ConnectionHandle)
  | session (session : SessionHandle) (globalId : GlobalSessionId)
  | reader (reader : ReaderHandle)
  | chunk (data : Bytes)
  /-- Several chunks; `finished` if the stream has ended after them. -/
  | chunks (chunks : List Bytes) (finished : Bool)
  | endOfStream
  | ok
  | error (code : ErrorCode) (message : String)
deriving DecidableEq, Repr

/-- Which response it is. -/
def Response.kind : Response → ResponseKind
  | connection _ => .connection
  | session .. => .session
  | reader _ => .reader
  | chunk _ => .chunk
  | chunks .. => .chunks
  | endOfStream => .endOfStream
  | ok => .ok
  | error .. => .error

/-- A request and the number that its answer will carry. -/
structure RequestEnvelope where
  id : UInt64
  request : Request
deriving DecidableEq, Repr

/-- A response and the number of its request. -/
structure ResponseEnvelope where
  id : UInt64
  response : Response
deriving DecidableEq, Repr

end QueryBridge
