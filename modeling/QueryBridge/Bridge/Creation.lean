import QueryBridge.Bridge.Closing

/-!
# Creating resources

A connection, a session or a reader is registered only after the service has
accepted it, and only if the resource above it is still open then. What the
service has created and nobody will close is closed in the background.

A call that waits looks first whether the resource above was closed, and only
then whether the service has answered.

* `Bridge.openConnection`, `Bridge.createSession`, `Bridge.executeQuery`.
-/

namespace QueryBridge.Bridge

/-- How a call stands, and the bridge after its turn. -/
abbrev Turn := Progress Stage Outcome × Bridge

/-- The call has failed. -/
def fail (b : Bridge) (f : Failure) : Turn := (.ends (.failed f), b)

/-- The call has what it asked for. -/
def reply (b : Bridge) (r : Reply) : Turn := (.ends (.replied r), b)

/-! ## Connections -/

/-- Registers a connection that is open on the far side. -/
def register (b : Bridge) (url : Url) (client : ClientId) : Turn :=
  match b.registry.addConnection ⟨url, client⟩ with
  | .ok (h, r) => (b.withRegistry r).reply (.connection h)
  | .error f => (b.sayFarewell client [.connection]).fail f

/-- The opening of a connection on the far side has come so far. -/
def opening (url : Url) (client : ClientId) : Course × Bridge → Turn
  | (.held held, b) => (.waits (.opening url client held), b)
  | (.refused message, b) => b.fail (.serviceError message)
  | (.returned, b) => b.register url client

/-- Opens a connection on the far side. -/
def openRemote (b : Bridge) (id : TaskId) (url : Url) (client : ClientId) : Turn :=
  match b.call (some client) .openConnection with
  | (some message, b) => b.fail (.serviceError message)
  | (none, b) => opening url client (b.passHooks id .openConnection)

/-- The creation of a client has come so far. -/
def connecting (id : TaskId) (url : Url) (client : ClientId) : Course × Bridge → Turn
  | (.held held, b) => (.waits (.connecting url client held), b)
  | (.refused message, b) => b.fail (.serviceError message)
  | (.returned, b) => b.openRemote id url client

/-- Opens a connection to the service at a URL, with credentials if there are any. -/
def openConnection (b : Bridge) (id : TaskId) (text : String)
    (credentials : Option Credentials) : Turn :=
  match Url.ofService text with
  | .error f => b.fail f
  | .ok url =>
    match b.call none (.createClient ⟨url, credentials⟩) with
    | (some message, b) => b.fail (.serviceError message)
    | (none, b) =>
      let (client, service) := b.service.newClient
      connecting id url client ((b.withService service).passHooks id .createClient)

/-! ## Sessions -/

/-- Registers a session that exists on the far side. If its connection was
closed meanwhile or no handle is left, it is closed again. -/
def adopt (b : Bridge) (connection : ConnectionHandle) (client : ClientId)
    (globalId : GlobalSessionId) : Turn :=
  -- the connection may have been closed since the call was made
  if (b.registry.connection connection).isOpen then
    match b.registry.addSession ⟨connection, globalId, client⟩ with
    | .ok (h, r) => (b.withRegistry r).reply (.session h globalId)
    | .error f => (b.sayFarewell client [.session globalId]).fail f
  else (b.sayFarewell client [.session globalId]).fail (.resourceClosed .connection connection)

/-- The creation of a session on the far side has come so far. -/
def creating (connection : ConnectionHandle) (client : ClientId) (globalId : GlobalSessionId) :
    Course × Bridge → Turn
  | (.held held, b) => (.waits (.creating connection client globalId held), b)
  | (.refused message, b) => b.fail (.serviceError message)
  | (.returned, b) => b.adopt connection client globalId

/-- Creates a session on an open connection. -/
def createSession (b : Bridge) (id : TaskId) (connection : ConnectionHandle) : Turn :=
  match b.registry.openConnection connection with
  | .error f => b.fail f
  | .ok entry =>
    if b.registry.isCancelled (.connection connection) then
      b.fail (.resourceClosed .connection connection)
    else
      match b.call (some entry.client) .createSession with
      | (some message, b) => b.fail (.serviceError message)
      | (none, b) =>
        if b.service.hangsCreateSession then (.waits (.unanswered connection), b)
        else
          let (globalId, service) := b.service.nextSessionId
          creating connection entry.client globalId
            ((b.withService service).passHooks id .createSession)

/-! ## Readers -/

/-- Registers a reader over the stream of a query, and starts its pump on the
runtime that the call has begun on. If the session was closed meanwhile, the
stream is dropped. -/
def attach (b : Bridge) (session : SessionHandle) (entry : Session) (stream : Stream) : Turn :=
  match Channel.ofCapacity? (max b.config.chunkBuffer.toNat 1) with
  | none => (.ends .crashed, b.dropStream stream)
  | some channel =>
    -- the session may have been closed since the call was made
    if (b.registry.session session).isOpen then
      let reader : Reader := ⟨session, entry.connection⟩
      match b.registry.addReader reader channel with
      | .ok (h, r) => ((b.withRegistry r).spawnOn (.pump h reader stream none)).reply (.reader h)
      | .error f => (b.dropStream stream).fail f
    else (b.dropStream stream).fail (.resourceClosed .session session)

/-- The execution of a query on the far side has come so far. -/
def executing (session : SessionHandle) (entry : Session) (stream : Stream) :
    Course × Bridge → Turn
  | (.held held, b) => (.waits (.executing session entry stream held), b)
  | (.refused message, b) => (b.dropStream stream).fail (.serviceError message)
  | (.returned, b) => b.attach session entry stream

/-- Executes a query on an open session. Where nothing could bring in its
result, the service is not asked. -/
def executeQuery (b : Bridge) (id : TaskId) (session : SessionHandle) (text : String) : Turn :=
  match b.registry.openSession session with
  | .error f => b.fail f
  | .ok entry =>
    if !b.hasRuntime then b.fail .runtimeUnavailable
    else if b.registry.isCancelled (entry.scope session) then
      b.fail (.resourceClosed .session session)
    else
      match b.call (some entry.client) (.executeQuery entry.globalId text) with
      | (some message, b) => b.fail (.serviceError message)
      | (none, b) =>
        let (stream, service) := b.service.takeStream text
        executing session entry stream ((b.withService service).passHooks id .executeQuery)

end QueryBridge.Bridge
