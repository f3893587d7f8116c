import QueryBridge.Bridge.Creation

/-!
# Reading results

Whoever reads holds the lock of the reader, so chunks are handed out in the
order of asking. The end of a stream releases the reader and leaves a marker; a
failure of the stream closes the reader.

* `Bridge.read`: begins a reading, or takes it up after a chunk.
* `Bridge.nextFrame`: takes a frame off the reader, or waits for one.
* `Bridge.takeAvailable`: takes all frames that are there.
-/

namespace QueryBridge.Bridge

/-- Passes the lock of a reader on to whoever is next. -/
def leaveLock (b : Bridge) (h : ReaderHandle) : Bridge :=
  let b := b.modifyReader h fun s => { s with lock := s.lock.leave }
  b.wakeAll (b.registry.reader h).lock.holder.toList

/-! ## The end of a reading -/

/-- A reading is over. -/
def endReading (b : Bridge) (h : ReaderHandle) (reading : Reading) (o : Outcome) : Turn :=
  (.ends o, if reading.closesReader then b.closeReader h else b)

/-- The stream has ended. -/
def readEnd (b : Bridge) (h : ReaderHandle) (reading : Reading) : Turn :=
  b.endReading h reading (.replied reading.reply)

/-- The reading has failed. -/
def readFailure (b : Bridge) (h : ReaderHandle) (reading : Reading) (f : Failure) : Turn :=
  b.endReading h reading (reading.outcome f)

/-- The reader was closed under the reading. -/
def readClosed (b : Bridge) (h : ReaderHandle) (reading : Reading) : Turn :=
  b.readFailure h reading (.resourceClosed .reader h)

/-- The reading has taken one chunk. -/
def readChunk (b : Bridge) (h : ReaderHandle) (reading : Reading) (c : Bytes) : Turn :=
  match reading.after c with
  | .inl r => b.reply r
  | .inr reading => (.goesOn (.fresh (.read h reading)), b)

/-! ## Frames -/

/-- A frame was taken for a reading that has the lock. -/
def deliver (b : Bridge) (h : ReaderHandle) (entry : Reader) (reading : Reading) : Frame → Turn
  | .data c => (b.leaveLock h).readChunk h reading c
  | .finish => ((b.withRegistry (b.registry.exhaust h entry)).leaveLock h).readEnd h reading
  | .failure message =>
    ((b.closeReader h).leaveLock h).readFailure h reading (.transportFailure message)

/-- Takes the next frame of a reader, for a reading that has the lock: first
the one held back, then the oldest in the channel. If there is none, the
reading waits. -/
def nextFrame (b : Bridge) (id : TaskId) (h : ReaderHandle) (entry : Reader)
    (reading : Reading) : Turn :=
  let s := b.registry.reader h
  match s.held with
  | some f => (b.modifyReader h fun s => { s with held := none }).deliver h entry reading f
  | none =>
    -- the end has been taken before
    if !s.isReceiving then b.deliver h entry reading .finish
    -- frames that are there do not count once the reader is closed
    else if b.registry.isCancelled (entry.scope h) then (b.leaveLock h).readClosed h reading
    else
      match s.channel.buffer with
      | f :: rest =>
        -- there is room now, so the pump can go on
        let b := b.modifyReader h fun s =>
          { s with channel := { s.channel with buffer := rest, roomWaiter := none } }
        (b.wakeAll s.channel.roomWaiter.toList).deliver h entry reading f
      | [] =>
        if s.channel.isFed then
          (.waits (.awaitingFrame h entry reading),
            b.modifyReader h fun s =>
              { s with channel := { s.channel with frameWaiter := some id } })
        else (b.leaveLock h).readClosed h reading

/-- Takes frames off a reader: what is left is held back, or stays in the channel. -/
def takeFrames (b : Bridge) (h : ReaderHandle) (held : Option Frame) (rest : List Frame) : Bridge :=
  let channel := (b.registry.reader h).channel
  -- the pump is told once, if anything was taken off the channel
  let waiter := if rest.length < channel.buffer.length then channel.roomWaiter else none
  let b := b.modifyReader h fun s =>
    { s with
      held := held
      channel := { s.channel with
        buffer := rest
        roomWaiter := if waiter.isSome then none else s.channel.roomWaiter } }
  b.wakeAll waiter.toList

/-- Takes all chunks that are there, for a reading that has the lock. A failure
behind chunks is held back for the next reading. If nothing is there, the
reading takes the next frame. -/
def takeAvailable (b : Bridge) (id : TaskId) (h : ReaderHandle) (entry : Reader) : Turn :=
  let (chunks, rest) := Channel.takeRun (b.registry.reader h).contents
  match rest with
  | .finish :: rest =>
    let b := b.takeFrames h none rest
    ((b.withRegistry (b.registry.exhaust h entry)).leaveLock h).reply (.batch chunks true)
  | .failure message :: rest =>
    if chunks = [] then
      (((b.takeFrames h none rest).closeReader h).leaveLock h).fail (.transportFailure message)
    else ((b.takeFrames h (some (.failure message)) rest).leaveLock h).reply (.batch chunks false)
  | rest =>
    if chunks = [] then b.nextFrame id h entry .available
    else ((b.takeFrames h none rest).leaveLock h).reply (.batch chunks false)

/-! ## The lock -/

/-- Goes on with a reading if it has the lock. -/
def readLocked (b : Bridge) (id : TaskId) (h : ReaderHandle) (entry : Reader)
    (reading : Reading) : Turn :=
  let s := b.registry.reader h
  if s.lock.holder = some id then
    match s.state, reading with
    -- a reading before this one has met the end
    | .exhausted, _ => (b.leaveLock h).readEnd h reading
    | .closed, _ => (b.leaveLock h).readClosed h reading
    | .active, .available => b.takeAvailable id h entry
    | .active, _ => b.nextFrame id h entry reading
  else (.waits (.awaitingTurn h entry reading), b)

/-- Gives up the lock of a reader, or the place in the queue for it. -/
def giveUpLock (b : Bridge) (id : TaskId) (h : ReaderHandle) : Bridge :=
  if (b.registry.reader h).lock.holder = some id then b.leaveLock h
  else b.modifyReader h fun s => { s with lock := s.lock.forget id }

/-- Begins a reading, or takes it up after a chunk. -/
def read (b : Bridge) (id : TaskId) (h : ReaderHandle) (reading : Reading) : Turn :=
  if reading.isComplete then b.readEnd h reading
  else
    match b.registry.findReader h with
    | .error f => b.readFailure h reading f
    | .ok none => b.readEnd h reading
    | .ok (some entry) =>
      if b.registry.isCancelled (entry.scope h) then b.readClosed h reading
      else
        (b.modifyReader h fun s => { s with lock := s.lock.enter id }).readLocked id h entry reading

end QueryBridge.Bridge
