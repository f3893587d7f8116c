import QueryBridge.Bridge.Run

/-!
# What a call gives

A call that is answered gives a reply of its own kind, however often it has
waited before. It breaks off only for want of a channel of the capacity asked for.

* `Call.gives`, `Stage.gives`: the kind of reply that a call is answered with.
* `turn_gives`: one turn.
-/

namespace QueryBridge

/-- The kinds of reply. -/
inductive ReplyKind
  | connection
  | session
  | reader
  | chunk
  | batch
  | chunks
  | items
  | done
  | text
deriving DecidableEq

def Reply.kind : Reply → ReplyKind
  | connection _ => .connection
  | session .. => .session
  | reader _ => .reader
  | chunk _ => .chunk
  | batch .. => .batch
  | chunks _ => .chunks
  | items .. => .items
  | done => .done
  | text _ => .text

def Reading.gives : Reading → ReplyKind
  | next => .chunk
  | available => .batch
  | all _ => .chunks
  | upTo .. => .items

/-- The kind of reply that a call is answered with. -/
def Call.gives : Call → ReplyKind
  | openConnection .. => .connection
  | createSession _ => .session
  | executeQuery .. => .reader
  | read _ reading => reading.gives
  | closeConnection _ | closeSession _ | closeReader _ | settle | shutdown => .done

def Stage.gives : Stage → ReplyKind
  | fresh c => c.gives
  | connecting .. | opening .. => .connection
  | unanswered _ | creating .. => .session
  | executing .. => .reader
  | awaitingTurn _ _ reading | awaitingFrame _ _ reading => reading.gives
  | draining => .done

namespace Reading

theorem reply_kind (reading : Reading) : reading.reply.kind = reading.gives := by
  cases reading <;> rfl

theorem after_kind {reading : Reading} {c : Bytes} {r : Reply} (h : reading.after c = .inl r) :
    r.kind = reading.gives := by
  cases reading <;> cases h <;> rfl

theorem after_gives {reading reading' : Reading} {c : Bytes} (h : reading.after c = .inr reading') :
    reading'.gives = reading.gives := by
  cases reading <;> cases h <;> rfl

end Reading

/-- How a call can end that gives replies of this kind. A query alone breaks
off, where no channel has the capacity asked for. -/
def Outcome.Fits (k : ReplyKind) (config : BridgeConfig) : Outcome → Prop
  | replied r => r.kind = k
  | failed _ => True
  | crashed => k = .reader ∧ Channel.ofCapacity? (max config.chunkBuffer.toNat 1) = none

namespace Bridge

/-- A turn gives a reply of this kind, or leads to a place from where one is given. -/
def Gives (k : ReplyKind) (t : Turn) : Prop :=
  match t.1 with
  | .ends o => o.Fits k t.2.config
  | .waits s | .goesOn s => s.gives = k

variable (b : Bridge) (id : TaskId)

/-! ## Creating -/

theorem register_gives (url : Url) (client : ClientId) :
    Gives .connection (b.register url client) := by
  unfold register
  split
  · rfl
  · trivial

theorem opening_gives (url : Url) (client : ClientId) (p : Course × Bridge) :
    Gives .connection (opening url client p) := by
  obtain ⟨course, b⟩ := p
  cases course with
  | held held => rfl
  | refused message => trivial
  | returned => exact b.register_gives url client

theorem openRemote_gives (url : Url) (client : ClientId) :
    Gives .connection (b.openRemote id url client) := by
  unfold openRemote
  split
  · trivial
  · exact opening_gives url client _

theorem connecting_gives (url : Url) (client : ClientId) (p : Course × Bridge) :
    Gives .connection (connecting id url client p) := by
  obtain ⟨course, b⟩ := p
  cases course with
  | held held => rfl
  | refused message => trivial
  | returned => exact b.openRemote_gives id url client

theorem openConnection_gives (text : String) (credentials : Option Credentials) :
    Gives .connection (b.openConnection id text credentials) := by
  unfold openConnection
  split
  · trivial
  · split
    · trivial
    · exact connecting_gives id _ _ _

theorem adopt_gives (c : ConnectionHandle) (client : ClientId) (globalId : GlobalSessionId) :
    Gives .session (b.adopt c client globalId) := by
  unfold adopt
  split
  · split
    · rfl
    · trivial
  · trivial

theorem creating_gives (c : ConnectionHandle) (client : ClientId) (globalId : GlobalSessionId)
    (p : Course × Bridge) : Gives .session (creating c client globalId p) := by
  obtain ⟨course, b⟩ := p
  cases course with
  | held held => rfl
  | refused message => trivial
  | returned => exact b.adopt_gives c client globalId

theorem createSession_gives (c : ConnectionHandle) : Gives .session (b.createSession id c) := by
  unfold createSession
  split
  · trivial
  · split
    · trivial
    · split
      · trivial
      · split
        · rfl
        · exact creating_gives c _ _ _

theorem attach_gives (s : SessionHandle) (entry : Session) (stream : Stream) :
    Gives .reader (b.attach s entry stream) := by
  unfold attach
  split
  · rename_i hnone
    exact ⟨rfl, hnone⟩
  · dsimp only
    split
    · split
      · rfl
      · trivial
    · trivial

theorem executing_gives (s : SessionHandle) (entry : Session) (stream : Stream)
    (p : Course × Bridge) : Gives .reader (executing s entry stream p) := by
  obtain ⟨course, b⟩ := p
  cases course with
  | held held => rfl
  | refused message => trivial
  | returned => exact b.attach_gives s entry stream

theorem executeQuery_gives (s : SessionHandle) (text : String) :
    Gives .reader (b.executeQuery id s text) := by
  unfold executeQuery
  split
  · trivial
  · split
    · trivial
    · split
      · trivial
      · split
        · trivial
        · exact executing_gives s _ _ _

/-! ## Reading -/

theorem readEnd_gives (h : ReaderHandle) (reading : Reading) :
    Gives reading.gives (b.readEnd h reading) := reading.reply_kind

theorem readFailure_gives (h : ReaderHandle) (reading : Reading) (f : Failure) :
    Gives reading.gives (b.readFailure h reading f) := by
  cases reading <;> trivial

theorem deliver_gives (h : ReaderHandle) (entry : Reader) (reading : Reading) (f : Frame) :
    Gives reading.gives (b.deliver h entry reading f) := by
  cases f with
  | data c =>
    unfold deliver readChunk
    dsimp only
    split
    · rename_i r hr
      exact Reading.after_kind hr
    · rename_i reading' hr
      exact Reading.after_gives hr
  | finish => exact readEnd_gives _ h reading
  | failure message => exact readFailure_gives _ h reading _

theorem nextFrame_gives (h : ReaderHandle) (entry : Reader) (reading : Reading) :
    Gives reading.gives (b.nextFrame id h entry reading) := by
  unfold nextFrame
  dsimp only
  split
  · exact deliver_gives _ h entry reading _
  · split
    · exact b.deliver_gives h entry reading _
    · split
      · exact readFailure_gives _ h reading _
      · split
        · exact deliver_gives _ h entry reading _
        · split
          · rfl
          · exact readFailure_gives _ h reading _

theorem takeAvailable_gives (h : ReaderHandle) (entry : Reader) :
    Gives .batch (b.takeAvailable id h entry) := by
  unfold takeAvailable
  dsimp only
  split
  · rfl
  · split
    · trivial
    · rfl
  · split
    · exact b.nextFrame_gives id h entry .available
    · rfl

theorem readLocked_gives (h : ReaderHandle) (entry : Reader) (reading : Reading) :
    Gives reading.gives (b.readLocked id h entry reading) := by
  unfold readLocked
  dsimp only
  split
  · split
    · exact readEnd_gives _ h _
    · exact readFailure_gives _ h _ _
    · exact b.takeAvailable_gives id h entry
    · exact b.nextFrame_gives id h entry _
  · rfl

theorem read_gives (h : ReaderHandle) (reading : Reading) :
    Gives reading.gives (b.read id h reading) := by
  unfold read
  split
  · exact b.readEnd_gives h reading
  · split
    · exact b.readFailure_gives h reading _
    · exact b.readEnd_gives h reading
    · split
      · exact b.readFailure_gives h reading _
      · exact readLocked_gives _ id h _ reading

/-! ## Turns -/

theorem settle_gives : Gives .done (b.settle id) := by
  unfold settle
  dsimp only
  split <;> rfl

theorem drain_gives : Gives .done (b.drain id) := by
  unfold drain
  split <;> rfl

theorem closed_gives (p : Except Failure Unit × Bridge) : Gives .done (closed p) := by
  obtain ⟨result, b⟩ := p
  cases result with
  | ok u => rfl
  | error f => trivial

theorem begin_gives (c : Call) : Gives c.gives (b.begin id c) := by
  cases c with
  | openConnection url credentials => exact b.openConnection_gives id url credentials
  | createSession c => exact b.createSession_gives id c
  | executeQuery s text => exact b.executeQuery_gives id s text
  | read h reading => exact b.read_gives id h reading
  | closeConnection c => exact closed_gives _
  | closeSession s => exact closed_gives _
  | closeReader h => rfl
  | settle => exact b.settle_gives id
  | shutdown => exact settle_gives _ id

/-- **A turn of a call** gives what the call is asked for, or leads on to it. -/
theorem turn_gives (stage : Stage) : Gives stage.gives (b.turn id stage) := by
  cases stage with
  | fresh c => exact b.begin_gives id c
  | connecting url client held => exact connecting_gives id url client _
  | opening url client held => exact opening_gives url client _
  | unanswered c =>
    unfold turn
    dsimp only
    split
    · trivial
    · rfl
  | creating c client globalId held =>
    unfold turn
    dsimp only
    split
    · trivial
    · exact creating_gives c client globalId _
  | executing s entry stream held =>
    unfold turn
    dsimp only
    split
    · trivial
    · exact executing_gives s entry stream _
  | awaitingTurn h entry reading =>
    unfold turn
    dsimp only
    split
    · exact readFailure_gives _ h reading _
    · exact b.readLocked_gives id h entry reading
  | awaitingFrame h entry reading =>
    unfold turn
    dsimp only
    split
    · exact readFailure_gives _ h reading _
    · exact b.nextFrame_gives id h entry reading
  | draining => exact b.drain_gives id

end Bridge

end QueryBridge
