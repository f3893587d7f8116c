import QueryBridge.Base64
import QueryBridge.Handle
import QueryBridge.Url

/-!
# The service

The far side of the bridge, as far as the bridge can tell it: it accepts or
refuses calls, hands out session identifiers and yields the frames of a query.
What it will do is written in a script, which may change between calls, so the
scripts together cover whatever a service may do. Before a call that is
accepted returns, it may be held back behind gates, close resources of the
bridge, and be refused after all.

* `Service.record`, `Service.refusal?`: a call is noted, then accepted or refused.
* `Service.nextSessionId`, `Service.takeStream`, `Service.takeHooks`: what an
  accepted call uses up of the script.
* `Service.nextFrame?`: the frames of a stream, one by one.
* `Service.feed`, `Service.endFeed`, `Service.release`: what happens meanwhile.
-/

namespace QueryBridge

/-- The number of a piece of work in progress. -/
abbrev TaskId := Nat

/-- What a caller proves itself with. It is never shown. -/
structure Credentials where
  secret : String
deriving DecidableEq

/-- The text of credentials for diagnostics. -/
def Credentials.debug (_ : Credentials) : String := "Credentials(<redacted>)"

instance : Repr Credentials := ⟨fun c _ => c.debug⟩

/-- What a client is created for: the service at a URL, and what the caller
proves itself with there. -/
structure Access where
  url : Url
  credentials : Option Credentials
deriving DecidableEq, Repr

/-- The text of an access is that of its URL. -/
def Access.render (a : Access) : String := a.url.render

/-- One unit of a query's result. -/
inductive Frame
  | data (bytes : Bytes)
  /-- The result is complete. -/
  | finish
  /-- The service broke off. -/
  | failure (message : String)
deriving DecidableEq, Repr

namespace Frame

/-- Whether more may follow. -/
def isData : Frame → Bool
  | data _ => true
  | _ => false

/-- Whether nothing may follow. -/
def isTerminal (f : Frame) : Bool := !f.isData

/-- The bytes of a data frame. -/
def bytes? : Frame → Option Bytes
  | data bytes => some bytes
  | _ => none

end Frame

/-- The points at which the bridge calls the service. -/
inductive CallPoint
  | createClient
  | openConnection
  | closeConnection
  | createSession
  | closeSession
  | executeQuery
deriving DecidableEq, Repr

/-- A client of the service, one for each connection. -/
abbrev ClientId := Nat

/-- A call on the service. -/
inductive ServiceCall
  | createClient (access : Access)
  | openConnection
  | closeConnection
  | createSession
  | closeSession (session : GlobalSessionId)
  | executeQuery (session : GlobalSessionId) (text : String)
deriving DecidableEq, Repr

/-- The point at which a call is made. -/
def ServiceCall.point : ServiceCall → CallPoint
  | createClient _ => .createClient
  | openConnection => .openConnection
  | closeConnection => .closeConnection
  | createSession => .createSession
  | closeSession _ => .closeSession
  | executeQuery .. => .executeQuery

/-- A call and the client it was made on; the call that creates a client has none. -/
structure CallRecord where
  client : Option ClientId
  call : ServiceCall
deriving DecidableEq, Repr

/-- Where the frames of a query come from. -/
inductive Stream
  /-- The frames are known. -/
  | fixed (frames : List Frame)
  /-- The frames are fed one by one. -/
  | live (feed : Nat)
deriving DecidableEq, Repr

/-- Frames that are fed while the query runs. -/
structure Feed where
  /-- Fed and not yet taken. -/
  waiting : List Frame
  /-- Whether more may be fed. -/
  isOpen : Bool
  /-- Whether anyone may still take them. -/
  isTaken : Bool
  /-- The task that waits for the next frame. -/
  waiter : Option TaskId
deriving DecidableEq, Repr

/-- A resource that a call closes before it returns. -/
inductive Target
  | connection (handle : ConnectionHandle)
  | session (handle : SessionHandle)
  | reader (handle : ReaderHandle)
deriving DecidableEq, Repr

/-- One thing that happens between an accepted call and its return. -/
inductive Hook
  /-- The call is held back until a gate is released. -/
  | hang (gate : String)
  | close (target : Target)
  /-- The call is refused after all. -/
  | refuse (message : String)
deriving DecidableEq, Repr

/-- What holds calls back. A gate that was released stays open. -/
structure Gate where
  isOpen : Bool
  /-- The tasks that wait, the first one first. -/
  waiters : List TaskId
deriving DecidableEq, Repr

/-- What the service has seen and what it will do. -/
structure Service where
  /-- Every call so far, the first one first. -/
  calls : List CallRecord := []
  /-- How many clients exist. -/
  clients : Nat := 0
  /-- The identifiers of the next sessions. -/
  sessionIds : List String := []
  /-- How many sessions were created. -/
  sessionsCreated : Nat := 0
  /-- Whether the creation of a session never returns. -/
  hangsCreateSession : Bool := false
  /-- The results of the next executions of texts. -/
  queries : List (String × Stream) := []
  /-- The messages with which calls are refused, the latest first. -/
  refusals : List (CallPoint × String) := []
  /-- What happens in the next accepted calls, one thing after another. -/
  hooks : List (CallPoint × List Hook) := []
  gates : List (String × Gate) := []
  feeds : List Feed := []
deriving DecidableEq, Repr

/-- Takes the first entry with a key out of a list. -/
def takeKey? {κ α : Type} [DecidableEq κ] (k : κ) : List (κ × α) → Option (α × List (κ × α))
  | [] => none
  | (k', a) :: rest =>
    if k' = k then some (a, rest)
    else (takeKey? k rest).map fun (b, rest) => (b, (k', a) :: rest)

namespace Service

/-- Notes a call. -/
def record (s : Service) (client : Option ClientId) (call : ServiceCall) : Service :=
  { s with calls := s.calls ++ [⟨client, call⟩] }

/-- The message with which calls at a point are refused. -/
def refusal? (s : Service) (p : CallPoint) : Option String := s.refusals.lookup p

/-- Refuses every later call at a point. -/
def refuse (s : Service) (p : CallPoint) (message : String) : Service :=
  { s with refusals := (p, message) :: s.refusals }

/-- A new client. -/
def newClient (s : Service) : ClientId × Service :=
  (s.clients, { s with clients := s.clients + 1 })

/-- The identifier of a new session: the next one in the script, or its number. -/
def nextSessionId (s : Service) : GlobalSessionId × Service :=
  let n := s.sessionsCreated + 1
  match s.sessionIds with
  | id :: rest => (⟨id⟩, { s with sessionIds := rest, sessionsCreated := n })
  | [] => (⟨"session-" ++ decimal n⟩, { s with sessionsCreated := n })

/-- The result of an execution of a text. Without a script it ends at once. -/
def takeStream (s : Service) (text : String) : Stream × Service :=
  match takeKey? text s.queries with
  | some (stream, rest) => (stream, { s with queries := rest })
  | none => (.fixed [.finish], s)

/-- What happens before an accepted call at a point returns. -/
def takeHooks (s : Service) (p : CallPoint) : List Hook × Service :=
  match takeKey? p s.hooks with
  | some (hooks, rest) => (hooks, { s with hooks := rest })
  | none => ([], s)

/-! ## Gates -/

/-- A gate; one that nobody has named yet is shut. -/
def gate (s : Service) (name : String) : Gate := (s.gates.lookup name).getD ⟨false, []⟩

/-- Puts a gate in the place of the one with its name. -/
def setGate (s : Service) (name : String) (g : Gate) : Service :=
  { s with gates := (name, g) :: s.gates.filter (·.1 ≠ name) }

/-- A task waits at a gate. -/
def waitAt (s : Service) (name : String) (id : TaskId) : Service :=
  let g := s.gate name
  s.setGate name { g with waiters := g.waiters ++ [id] }

/-- Opens a gate for good, and tells who waited there. -/
def release (s : Service) (name : String) : List TaskId × Service :=
  ((s.gate name).waiters, s.setGate name ⟨true, []⟩)

/-! ## Feeds -/

/-- A new feed, and the stream of it. -/
def newFeed (s : Service) : Nat × Service :=
  (s.feeds.length, { s with feeds := s.feeds ++ [⟨[], true, true, none⟩] })

/-- Changes a feed. -/
def modifyFeed (s : Service) (n : Nat) (f : Feed → Feed) : Service :=
  { s with feeds := s.feeds.modify n f }

/-- Feeds one frame, unless the feed has ended. Tells whether someone may take
it, and who waited for it. -/
def feed (s : Service) (n : Nat) (frame : Frame) : Bool × Option TaskId × Service :=
  match s.feeds[n]? with
  | none => (false, none, s)
  | some f =>
    if f.isOpen && f.isTaken then
      (true, f.waiter,
        s.modifyFeed n fun f => { f with waiting := f.waiting ++ [frame], waiter := none })
    else (false, none, s)

/-- Ends a feed: its stream runs out. Tells who waited for the next frame. -/
def endFeed (s : Service) (n : Nat) : Option TaskId × Service :=
  ((s.feeds[n]?).bind (·.waiter),
    s.modifyFeed n fun f => { f with isOpen := false, waiter := none })

/-- Nobody will take the rest of a stream. -/
def dropStream (s : Service) : Stream → Service
  | .fixed _ => s
  | .live n => s.modifyFeed n fun f => { f with waiting := [], isTaken := false, waiter := none }

/-- Takes the next frame of a stream; a stream that runs out is complete. There
is none yet where a live stream waits to be fed. -/
def nextFrame? (s : Service) : Stream → Option (Frame × Stream × Service)
  | .fixed [] => some (.finish, .fixed [], s)
  | .fixed (f :: fs) => some (f, .fixed fs, s)
  | .live n =>
    match s.feeds[n]? with
    | none => some (.finish, .live n, s)
    | some f =>
      match f.waiting with
      | frame :: rest => some (frame, .live n, s.modifyFeed n fun f => { f with waiting := rest })
      | [] => if f.isOpen then none else some (.finish, .live n, s)

/-- A task waits for the next frame of a stream. -/
def awaitFrame (s : Service) (id : TaskId) : Stream → Service
  | .fixed _ => s
  | .live n => s.modifyFeed n fun f => { f with waiter := some id }

end Service

end QueryBridge
