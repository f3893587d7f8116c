import QueryBridge.Channel
import QueryBridge.HandleTable

/-!
# The registry

The live resources of the bridge: connections, sessions on them and readers on
those. What a resource was made with stands in the table of its kind while it
is live. What changes about it is kept as its status, also after its handle is
released, because calls in progress may still look at it.

A resource is cancelled together with everything below it.

* `Registry.isCancelled`: whether a resource or one above it is cancelled.
* `Registry.addConnection`, `addSession`, `addReader`: a new resource under its parent.
* `Registry.closeConnection`, `closeSession`, `closeReader`: a resource and all
  below it leave the tables.
* `Registry.exhaust`: a reader whose stream has ended leaves the table and a marker stays.
-/

namespace QueryBridge

/-- What a connection was opened with. -/
structure Connection where
  url : Url
  client : ClientId
deriving DecidableEq, Repr

/-- What a session was created with. -/
structure Session where
  connection : ConnectionHandle
  globalId : GlobalSessionId
  client : ClientId
deriving DecidableEq, Repr

/-- What a reader was created with. -/
structure Reader where
  session : SessionHandle
  connection : ConnectionHandle
deriving DecidableEq, Repr

/-- What changes about a connection. -/
structure ConnectionStatus where
  isOpen : Bool
  isCancelled : Bool
  /-- Its sessions, in the order of their creation. -/
  sessions : List SessionHandle
deriving DecidableEq, Repr

/-- What changes about a session. -/
structure SessionStatus where
  isOpen : Bool
  isCancelled : Bool
  /-- Its readers, in the order of their creation. -/
  readers : List ReaderHandle
  /-- Its readers that have been read to the end, for their markers. -/
  exhausted : List ReaderHandle
deriving DecidableEq, Repr

/-- The states of a reader. -/
inductive ReaderState
  | active
  /-- The stream has been read to its end. -/
  | exhausted
  | closed
deriving DecidableEq, Repr

/-- The word for a state. -/
def ReaderState.name : ReaderState → String
  | active => "active"
  | exhausted => "exhausted"
  | closed => "closed"

/-- What changes about a reader. Whoever pulls has to hold its lock. -/
structure ReaderStatus where
  state : ReaderState
  isCancelled : Bool
  lock : Turnstile
  channel : Channel
  /-- Whether frames are still taken from the channel. -/
  isReceiving : Bool
  /-- A failure met behind data, for the next pull. -/
  held : Option Frame
deriving DecidableEq, Repr

/-- The frames that can be taken off a reader at once. -/
def ReaderStatus.contents (s : ReaderStatus) : List Frame :=
  s.held.toList ++ if s.isReceiving then s.channel.buffer else []

instance : Inhabited ConnectionStatus := ⟨⟨false, false, []⟩⟩

instance : Inhabited SessionStatus := ⟨⟨false, false, [], []⟩⟩

instance : Inhabited ReaderStatus :=
  ⟨⟨.closed, false, ⟨none, []⟩, ⟨0, [], false, none, none⟩, false, none⟩⟩

/-- A place in the tree of resources, named by the handles on the way to it. -/
inductive Scope
  | connection (c : ConnectionHandle)
  | session (c : ConnectionHandle) (s : SessionHandle)
  | reader (c : ConnectionHandle) (s : SessionHandle) (r : ReaderHandle)
deriving DecidableEq, Repr

/-- Whether the first place is the second one or below it. -/
def Scope.isWithin : Scope → Scope → Bool
  | .connection c, .connection c' | .session c _, .connection c' | .reader c _ _, .connection c' =>
    c = c'
  | .session _ s, .session _ s' | .reader _ s _, .session _ s' => s = s'
  | .reader _ _ r, .reader _ _ r' => r = r'
  | _, _ => false

/-- The place of a session. -/
def Session.scope (s : Session) (h : SessionHandle) : Scope := .session s.connection h

/-- The place of a reader. -/
def Reader.scope (r : Reader) (h : ReaderHandle) : Scope := .reader r.connection r.session h

/-- The live resources, their statuses, and the markers of readers that were read to the end. -/
structure Registry where
  connections : HandleTable .connection Connection := ∅
  sessions : HandleTable .session Session := ∅
  readers : HandleTable .reader Reader := ∅
  /-- Readers that still answer that their stream has ended. -/
  exhausted : HandleSet .reader := ∅
  connectionStatus : HandleMap .connection ConnectionStatus := ∅
  sessionStatus : HandleMap .session SessionStatus := ∅
  readerStatus : HandleMap .reader ReaderStatus := ∅
deriving DecidableEq

namespace Registry

/-- The status of a connection; one that never existed is not open. -/
def connection (r : Registry) (h : ConnectionHandle) : ConnectionStatus :=
  (r.connectionStatus.get? h).getD default

/-- The status of a session; one that never existed is not open. -/
def session (r : Registry) (h : SessionHandle) : SessionStatus :=
  (r.sessionStatus.get? h).getD default

/-- The status of a reader; one that never existed is closed. -/
def reader (r : Registry) (h : ReaderHandle) : ReaderStatus :=
  (r.readerStatus.get? h).getD default

def modifyConnection (r : Registry) (h : ConnectionHandle)
    (f : ConnectionStatus → ConnectionStatus) : Registry :=
  { r with connectionStatus := r.connectionStatus.modify h f }

def modifySession (r : Registry) (h : SessionHandle) (f : SessionStatus → SessionStatus) :
    Registry :=
  { r with sessionStatus := r.sessionStatus.modify h f }

def modifyReader (r : Registry) (h : ReaderHandle) (f : ReaderStatus → ReaderStatus) : Registry :=
  { r with readerStatus := r.readerStatus.modify h f }

/-- Whether a resource or one above it is cancelled. -/
def isCancelled (r : Registry) : Scope → Bool
  | .connection c => (r.connection c).isCancelled
  | .session c s => (r.session s).isCancelled || (r.connection c).isCancelled
  | .reader c s h =>
    (r.reader h).isCancelled || (r.session s).isCancelled || (r.connection c).isCancelled

/-! ## New resources -/

/-- A new connection. -/
def addConnection (r : Registry) (c : Connection) :
    Except Failure (ConnectionHandle × Registry) := do
  let (h, table) ← r.connections.allocate fun _ => c
  return (h, { r with
    connections := table
    connectionStatus := r.connectionStatus.insert h ⟨true, false, []⟩ })

/-- A new session, the last one of its connection. -/
def addSession (r : Registry) (s : Session) : Except Failure (SessionHandle × Registry) := do
  let (h, table) ← r.sessions.allocate fun _ => s
  let r := { r with
    sessions := table
    sessionStatus := r.sessionStatus.insert h ⟨true, false, [], []⟩ }
  return (h, r.modifyConnection s.connection fun c => { c with sessions := c.sessions ++ [h] })

/-- A new reader over a channel, the last one of its session. -/
def addReader (r : Registry) (e : Reader) (channel : Channel) :
    Except Failure (ReaderHandle × Registry) := do
  let (h, table) ← r.readers.allocate fun _ => e
  let r := { r with
    readers := table
    readerStatus :=
      r.readerStatus.insert h ⟨.active, false, ⟨none, []⟩, channel, true, none⟩ }
  return (h, r.modifySession e.session fun s => { s with readers := s.readers ++ [h] })

/-! ## Look-ups -/

/-- A connection that sessions can be created on. One that was closed is told
apart from one that never existed. -/
def openConnection (r : Registry) (h : ConnectionHandle) : Except Failure Connection :=
  match r.connections.get? h with
  | some c =>
    if (r.connection h).isOpen then .ok c else .error (.illegalState .connection h .createSession)
  | none =>
    if r.connections.wasReleased h then .error (.illegalState .connection h .createSession)
    else .error (.invalidHandle .connection h)

/-- A session that queries can be executed on. One that was closed is told
apart from one that never existed. -/
def openSession (r : Registry) (h : SessionHandle) : Except Failure Session :=
  match r.sessions.get? h with
  | some s =>
    if (r.session h).isOpen then .ok s else .error (.illegalState .session h .executeQuery)
  | none =>
    if r.sessions.wasReleased h then .error (.illegalState .session h .executeQuery)
    else .error (.invalidHandle .session h)

/-- A live reader, or `none` for one that was read to its end. -/
def findReader (r : Registry) (h : ReaderHandle) : Except Failure (Option Reader) :=
  match r.readers.get? h with
  | some e => .ok (some e)
  | none => if r.exhausted.contains h then .ok none else .error (.invalidHandle .reader h)

/-! ## Closing -/

/-- Releases a reader, marks it closed and cancels it. -/
def detachReader (r : Registry) (h : ReaderHandle) : Registry :=
  match r.readers.get? h with
  | none => r
  | some _ =>
    { r with readers := r.readers.release h }.modifyReader h fun s =>
      { s with state := .closed, isCancelled := true }

/-- Closes a reader: a live one leaves its session, an exhausted one loses its
marker. Tells which place was cancelled. -/
def closeReader (r : Registry) (h : ReaderHandle) : Option Scope × Registry :=
  match r.readers.get? h with
  | some e =>
    let r := r.detachReader h
    let r :=
      match r.sessions.get? e.session with
      | some _ =>
        r.modifySession e.session fun s => { s with readers := s.readers.filter (· ≠ h) }
      | none => r
    (some (e.scope h), r)
  | none => (none, { r with exhausted := r.exhausted.erase h })

/-- Releases a session, marks it closed and cancels it, and its readers with
it; markers of its exhausted readers go. -/
def detachSession (r : Registry) (h : SessionHandle) : Option Session × Registry :=
  match r.sessions.get? h with
  | none => (none, r)
  | some e =>
    let s := r.session h
    -- the session goes first, then what hangs below it
    let r := { r with sessions := r.sessions.release h }.modifySession h fun _ =>
      { isOpen := false, isCancelled := true, readers := [], exhausted := [] }
    let r := s.readers.foldl detachReader r
    (some e, { r with exhausted := s.exhausted.foldl HandleMap.erase r.exhausted })

/-- Closes a session. -/
def closeSession (r : Registry) (h : SessionHandle) : Except Failure (Session × Registry) :=
  match r.detachSession h with
  | (none, _) => .error (.invalidHandle .session h)
  | (some e, r) =>
    .ok (e,
      match r.connections.get? e.connection with
      | some _ =>
        r.modifyConnection e.connection fun c => { c with sessions := c.sessions.filter (· ≠ h) }
      | none => r)

/-- Detaches sessions one after another; gives the identifiers of those that were live. -/
def detachSessions (r : Registry) : List SessionHandle → List GlobalSessionId × Registry
  | [] => ([], r)
  | h :: hs =>
    let (e, r) := r.detachSession h
    let (ids, r) := detachSessions r hs
    ((e.map Session.globalId).toList ++ ids, r)

/-- Closes a connection and everything below it. Gives the identifiers of its
sessions, in the order of their creation. -/
def closeConnection (r : Registry) (h : ConnectionHandle) :
    Except Failure (Connection × List GlobalSessionId × Registry) :=
  match r.connections.get? h with
  | none => .error (.invalidHandle .connection h)
  | some e =>
    let sessions := (r.connection h).sessions
    let r := { r with connections := r.connections.release h }.modifyConnection h fun _ =>
      { isOpen := false, isCancelled := true, sessions := [] }
    let (ids, r) := r.detachSessions sessions
    .ok (e, ids, r)

/-! ## The end of a stream -/

/-- A reader whose stream has ended leaves the table. Its marker stays, under
its session, as long as the session is open. -/
def exhaust (r : Registry) (h : ReaderHandle) (e : Reader) : Registry :=
  let wasActive := (r.reader h).state = .active
  let r := r.modifyReader h fun s =>
    { s with
      isReceiving := false
      channel := { s.channel with buffer := [], roomWaiter := none }
      state := if s.state = .active then .exhausted else s.state }
  -- a reader or session that was closed meanwhile leaves no marker
  if wasActive && (r.sessions.get? e.session).isSome && (r.session e.session).isOpen &&
      (r.readers.get? h).isSome then
    { r with
      exhausted := r.exhausted.insert h ()
      readers := r.readers.release h }.modifySession e.session fun s =>
        { s with readers := s.readers.filter (· ≠ h), exhausted := s.exhausted ++ [h] }
  else r

end Registry

end QueryBridge
