import QueryBridge.Bridge.Closing

/-!
# Work in the background

A pump brings the frames of a query from its stream into the channel of the
reader, one at a time, up to the first frame that is not data. A farewell
closes on the far side what was released; the service's refusals are ignored.

* `Bridge.pump`, `Bridge.farewell`: one turn of either.
-/

namespace QueryBridge.Bridge

/-- A pump is over: its stream is dropped and its channel is no longer fed. -/
def endPump (b : Bridge) (h : ReaderHandle) (stream : Stream) : Progress Task Unit × Bridge :=
  let waiter := (b.registry.reader h).channel.frameWaiter
  let b := (b.dropStream stream).modifyReader h fun s =>
    { s with channel := { s.channel with isFed := false, frameWaiter := none } }
  (.ends (), b.wakeAll waiter.toList)

/-- One turn of a pump: it takes a frame off the stream, or puts the frame in
hand into the channel. -/
def pump (b : Bridge) (id : TaskId) (h : ReaderHandle) (entry : Reader) (stream : Stream)
    (inHand : Option Frame) : Progress Task Unit × Bridge :=
  if b.registry.isCancelled (entry.scope h) then b.endPump h stream
  else
    match inHand with
    -- nothing in hand: take a frame off the stream
    | none =>
      match b.service.nextFrame? stream with
      | some (f, stream, service) =>
        (.goesOn (.pump h entry stream (some f)), b.withService service)
      | none =>
        (.waits (.pump h entry stream none), b.withService (b.service.awaitFrame id stream))
    | some f =>
      let s := b.registry.reader h
      -- nobody takes frames any more
      if !s.isReceiving then b.endPump h stream
      else if s.channel.isFull then
        (.waits (.pump h entry stream (some f)),
          b.modifyReader h fun s =>
            { s with channel := { s.channel with roomWaiter := some id } })
      else
        let b := (b.modifyReader h fun s =>
          { s with channel := { s.channel.push f with frameWaiter := none } }).wakeAll
            s.channel.frameWaiter.toList
        if f.isTerminal then b.endPump h stream else (.goesOn (.pump h entry stream none), b)

/-- Makes the next call of a farewell. How it ends does not matter. -/
def sayNext (b : Bridge) (id : TaskId) (client : ClientId) :
    List RemoteClose → Progress Task Unit × Bridge
  | [] => (.ends (), b)
  | c :: left =>
    match b.call (some client) c.call with
    | (some _, b) => (.goesOn (.farewell client none left), b)
    | (none, b) =>
      match b.passHooks id c.call.point with
      | (.held held, b) => (.waits (.farewell client (some held) left), b)
      | (_, b) => (.goesOn (.farewell client none left), b)

/-- One turn of a farewell: it makes the next call, unless the last one has not returned. -/
def farewell (b : Bridge) (id : TaskId) (client : ClientId) (held : Option Held)
    (left : List RemoteClose) : Progress Task Unit × Bridge :=
  match held with
  | none => b.sayNext id client left
  | some held =>
    match b.resume id held with
    | (.held held, b) => (.waits (.farewell client (some held) left), b)
    | (_, b) => b.sayNext id client left

end QueryBridge.Bridge
