import QueryBridge.Bridge.Call
import QueryBridge.Text.Quoted

/-!
# The typed client

Objects that hold the handle of a resource, for callers within the program.
Connections and sessions may be copied; the copies stand for one resource. A
query stream has one owner, and its reader is closed when the owner drops it.

* `Connection`, `Session`, `QueryStream`: the calls on each.
* `Connection.debug`, `Session.debug`, `QueryStream.debug`: their texts for diagnostics.
-/

namespace QueryBridge

/-- The name of the type of a handle. -/
def HandleKind.typeName : HandleKind → String
  | .connection => "ConnectionHandle"
  | .session => "SessionHandle"
  | .reader => "ReaderHandle"

/-- The text of a handle for diagnostics. -/
def Handle.debug {kind : HandleKind} (h : Handle kind) : String :=
  kind.typeName ++ "(" ++ decimal h.raw.toNat ++ ")"

namespace Client

/-- The text of an object for diagnostics: its type and its fields. -/
def debugFields (typeName : String) (fields : List (String × String)) : String :=
  typeName ++ " \x7b " ++ ", ".intercalate (fields.map fun (k, v) => k ++ ": " ++ v) ++ " \x7d"

/-- An open connection. -/
structure Connection where
  handle : ConnectionHandle
deriving DecidableEq, Repr

/-- A session on a connection. -/
structure Session where
  handle : SessionHandle
  globalId : GlobalSessionId
deriving DecidableEq, Repr

/-- The result of a query, read on demand. -/
structure QueryStream where
  handle : ReaderHandle
deriving DecidableEq, Repr

namespace Connection

def createSession (c : Connection) : Call := .createSession c.handle

def debug (c : Connection) : String := debugFields "Connection" [("handle", c.handle.debug)]

end Connection

namespace Session

def execute (s : Session) (text : String) : Call := .executeQuery s.handle text

def debug (s : Session) : String :=
  debugFields "Session" [("handle", s.handle.debug),
    ("global_id", "GlobalSessionId(" ++ Text.quoted s.globalId.text ++ ")")]

end Session

namespace QueryStream

/-- The call that reads from the stream. -/
def read (s : QueryStream) (reading : Reading) : Call := .read s.handle reading

def debug (s : QueryStream) : String := debugFields "QueryStream" [("handle", s.handle.debug)]

end QueryStream

end Client

end QueryBridge
