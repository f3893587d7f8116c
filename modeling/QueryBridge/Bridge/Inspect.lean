import QueryBridge.Bridge.State

/-!
# What can be seen of a bridge

Questions about live resources, which change nothing.

* `Bridge.liveCounts`: how many resources of each kind are live.
* `Bridge.readerState`: the state of a reader that is live or exhausted.
-/

namespace QueryBridge

/-- How many resources of each kind are live. -/
structure LiveCounts where
  connections : Nat
  sessions : Nat
  readers : Nat
deriving DecidableEq, Repr

namespace Bridge

def liveCounts (b : Bridge) : LiveCounts :=
  ⟨b.registry.connections.size, b.registry.sessions.size, b.registry.readers.size⟩

/-- The live connections, in the order of their opening. -/
def connections (b : Bridge) : List ConnectionHandle := b.registry.connections.handles

/-- The URL that a live connection was opened to. -/
def connectionUrl (b : Bridge) (h : ConnectionHandle) : Except Failure Url :=
  (b.registry.connections.resolve h).map Connection.url

/-- The live sessions of a live connection, in the order of their creation. -/
def connectionSessions (b : Bridge) (h : ConnectionHandle) : Except Failure (List SessionHandle) :=
  (b.registry.connections.resolve h).map fun _ => (b.registry.connection h).sessions

/-- The identifier that the service gave to a live session. -/
def sessionId (b : Bridge) (h : SessionHandle) : Except Failure GlobalSessionId :=
  (b.registry.sessions.resolve h).map Session.globalId

/-- The live readers of a live session, in the order of their creation. -/
def sessionReaders (b : Bridge) (h : SessionHandle) : Except Failure (List ReaderHandle) :=
  (b.registry.sessions.resolve h).map fun _ => (b.registry.session h).readers

/-- The state of a reader; one that was read to its end answers so as long as its marker stays. -/
def readerState (b : Bridge) (h : ReaderHandle) : Except Failure ReaderState :=
  (b.registry.findReader h).map fun
    | some _ => (b.registry.reader h).state
    | none => .exhausted

end Bridge

end QueryBridge
