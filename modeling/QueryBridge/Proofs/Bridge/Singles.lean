import QueryBridge.Proofs.Bridge.Locks
import QueryBridge.Proofs.Bridge.RecastRuns

/-!
# One chunk in the place of all

A reading of all that is there and a reading of the next chunk have the same
turns, as long as no chunk is there. When chunks are there, the one takes them
all and the other one the first of them.

* `Outcome.first`, `Outcome.singly`: what readings of the next chunk answer.
* `Bridge.nextFrame_one`: where one frame is taken, both take it.
* `Bridge.turn_single`: the turn of a reading of all that is there.
-/

namespace QueryBridge

variable {b : Bridge} {id : TaskId} {h : ReaderHandle} {e : Reader} {f : Frame} {rest : List Frame}
  {c : Bytes}

/-! ## Answers -/

/-- How the first one of the readings of the next chunk ends, where the reading of all that is there
ends so. -/
def Outcome.first : Outcome → Outcome
  | .replied (.batch (c :: _) _) => .replied (.chunk (some c))
  | .replied (.batch [] _) => .replied (.chunk none)
  | o => o

/-- How the readings of the next chunk end, one after another, where the reading of all that is
there ends so. -/
def Outcome.singly : Outcome → List Outcome
  | .replied (.batch cs finished) =>
    cs.map (fun c => .replied (.chunk (some c))) ++
      if finished then [.replied (.chunk none)] else []
  | o => [o]

theorem singly_tail_length (c : Bytes) (cs : List Bytes) (finished : Bool) :
    (Outcome.replied (.batch (c :: cs) finished)).singly.tail.length =
      cs.length + if finished then 1 else 0 := by
  show (cs.map (fun c => Outcome.replied (.chunk (some c))) ++ _).length = _
  rw [List.length_append, List.length_map]
  split <;> rfl

theorem singly_tail_map (c : Bytes) (cs : List Bytes) (finished : Bool) :
    (Outcome.replied (.batch (c :: cs) finished)).singly.tail.map some =
      cs.map (fun c => some (.replied (.chunk (some c)))) ++
        if finished then [some (.replied (.chunk none))] else [] := by
  show (cs.map (fun c => Outcome.replied (.chunk (some c))) ++ _).map some = _
  rw [List.map_append, List.map_map]
  split <;> rfl

/-- A reading of all that is there may end so: it has failed, or it brings chunks, none only at the
end of the stream. -/
def Outcome.EndsBatch : Outcome → Prop
  | .failed _ => True
  | .replied (.batch cs finished) => cs = [] → finished = true
  | _ => False

/-- How the call stands, if it reads the next chunk. -/
def Progress.single : Progress Stage Outcome → Progress Stage Outcome
  | .ends o => .ends o.first
  | .waits stage => .waits stage.single
  | .goesOn stage => .goesOn stage.single

/-- The reader of which a call reads all that is there. -/
def Stage.batch? : Stage → Option ReaderHandle
  | .fresh (.read h .available) | .awaitingTurn h _ .available | .awaitingFrame h _ .available =>
    some h
  | _ => none

/-- A reading of all that is there waits, or it has ended with at most one chunk. -/
inductive Progress.TakesOne (h : ReaderHandle) : Progress Stage Outcome → Prop
  | ends {o : Outcome} (hb : o.EndsBatch) (ho : o.singly = [o.first]) : TakesOne h (.ends o)
  | waits {stage : Stage} (hs : stage.batch? = some h) : TakesOne h (.waits stage)

/-- The turn of a reading of all that is there, of which the one of a reading of the next chunk
differs only in the words. -/
structure Bridge.Turn.One (h : ReaderHandle) (t t' : Bridge.Turn) : Prop where
  eq : t' = (t.1.single, t.2)
  one : t.1.TakesOne h

/-! ## Statuses -/

namespace Registry

variable {r : Registry}

/-- Only what becomes of the status that the reader has counts. -/
theorem modifyReader_congr {F G : ReaderStatus → ReaderStatus}
    (hFG : F (r.reader h) = G (r.reader h)) : r.modifyReader h F = r.modifyReader h G := by
  have hmap : r.readerStatus.modify h F = r.readerStatus.modify h G := by
    refine HandleMap.ext_get? fun x => ?_
    rw [HandleMap.get?_modify, HandleMap.get?_modify]
    unfold reader at hFG
    split
    · rename_i hx
      subst hx
      cases hs : r.readerStatus.get? x with
      | none => rfl
      | some s =>
        rw [hs] at hFG
        exact congrArg some hFG
    · rfl
  exact congrArg (fun m => { r with readerStatus := m }) hmap

theorem modifyReader_modifyReader (r : Registry) (h : ReaderHandle)
    (F G : ReaderStatus → ReaderStatus) :
    (r.modifyReader h F).modifyReader h G = r.modifyReader h fun s => G (F s) := by
  have hmap : (r.readerStatus.modify h F).modify h G =
      r.readerStatus.modify h fun s => G (F s) := by
    refine HandleMap.ext_get? fun x => ?_
    rw [HandleMap.get?_modify, HandleMap.get?_modify, HandleMap.get?_modify]
    split
    · rw [Option.map_map]
      rfl
    · rfl
  exact congrArg (fun m => { r with readerStatus := m }) hmap

theorem modifyReader_self {F : ReaderStatus → ReaderStatus}
    (hF : F (r.reader h) = r.reader h) : r.modifyReader h F = r := by
  rw [modifyReader_congr (G := fun s => s) hF]
  have hmap : r.readerStatus.modify h (fun s => s) = r.readerStatus := by
    refine HandleMap.ext_get? fun x => ?_
    rw [HandleMap.get?_modify]
    split
    · exact Option.map_id'
    · rfl
  exact congrArg (fun m => { r with readerStatus := m }) hmap

/-- At the end of a stream it does not matter what was left of it. -/
theorem exhaust_modify {F G : ReaderStatus → ReaderStatus}
    (hs : (F (r.reader h)).state = (r.reader h).state)
    (hspent : spent (F (r.reader h)) = G (spent (r.reader h))) :
    (r.modifyReader h F).exhaust h e = (r.exhaust h e).modifyReader h G := by
  have hmodify : (r.modifyReader h F).modifyReader h spent =
      (r.modifyReader h spent).modifyReader h G := by
    rw [modifyReader_modifyReader, modifyReader_modifyReader]
    exact modifyReader_congr hspent
  have hstate : ((r.modifyReader h F).reader h).state = (r.reader h).state :=
    r.reader_modify_keeps h (g := ReaderStatus.state) hs h
  unfold exhaust
  dsimp only
  rw [hstate]
  change (if decide ((r.reader h).state = .active) && (r.sessions.get? e.session).isSome &&
      (r.session e.session).isOpen && (r.readers.get? h).isSome then _ else _) =
    Registry.modifyReader (if decide ((r.reader h).state = .active) &&
      (r.sessions.get? e.session).isSome && (r.session e.session).isOpen &&
        (r.readers.get? h).isSome then _ else _) h G
  unfold spent at hmodify
  rw [hmodify]
  split <;> rfl

end Registry

namespace ReaderStatus

/-- What is left of a reader when frames were taken off it and nobody else reads it. -/
def left (held : Option Frame) (rest : List Frame) (s : ReaderStatus) : ReaderStatus :=
  { s with
    lock := ⟨none, []⟩
    held := held
    channel := { s.channel with buffer := rest, roomWaiter := none } }

end ReaderStatus

namespace Bridge

theorem wakeAll_withRegistry (ids : List TaskId) (b : Bridge) (r : Registry) :
    (b.withRegistry r).wakeAll ids = (b.wakeAll ids).withRegistry r := by
  induction ids generalizing b with
  | nil => rfl
  | cons id ids ih =>
    have hwake : (b.withRegistry r).wake id = (b.wake id).withRegistry r := by
      unfold wake
      show (if (b.task? id).isSome && !b.ready.contains id then _ else _) = _
      split <;> rfl
    show ((b.withRegistry r).wake id).wakeAll ids = _
    rw [hwake, ih]
    rfl

theorem modifyReader_congr {F G : ReaderStatus → ReaderStatus}
    (hFG : F (b.registry.reader h) = G (b.registry.reader h)) :
    b.modifyReader h F = b.modifyReader h G :=
  congrArg b.withRegistry (Registry.modifyReader_congr hFG)

theorem modifyReader_modifyReader (b : Bridge) (h : ReaderHandle)
    (F G : ReaderStatus → ReaderStatus) :
    (b.modifyReader h F).modifyReader h G = b.modifyReader h fun s => G (F s) :=
  congrArg b.withRegistry (b.registry.modifyReader_modifyReader h F G)

/-! ## Taking frames -/

/-- Frames are taken off the channel: there is room, and whoever waits for it is told. -/
theorem takeFrames_eq (hlen : rest.length < (b.registry.reader h).channel.buffer.length)
    (held : Option Frame) :
    b.takeFrames h held rest =
      (b.wakeAll (b.registry.reader h).channel.roomWaiter.toList).modifyReader h fun s =>
        { s with held, channel := { s.channel with buffer := rest, roomWaiter := none } } := by
  unfold takeFrames
  dsimp only
  rw [if_pos hlen]
  show (b.withRegistry _).wakeAll _ = _
  rw [wakeAll_withRegistry]
  unfold modifyReader
  rw [wakeAll_registry]
  congr 1
  refine Registry.modifyReader_congr ?_
  cases (b.registry.reader h).channel.roomWaiter <;> rfl

/-- The lock that nobody else waits for is free. -/
theorem leaveLock_eq (hlock : (b.registry.reader h).lock = ⟨some id, []⟩) :
    b.leaveLock h = b.modifyReader h fun s => { s with lock := ⟨none, []⟩ } := by
  have hfree : b.modifyReader h (fun s => { s with lock := s.lock.leave }) =
      b.modifyReader h fun s => { s with lock := ⟨none, []⟩ } := by
    refine modifyReader_congr ?_
    rw [hlock]
    rfl
  have hholder : ((b.registry.modifyReader h fun s => { s with lock := ⟨none, []⟩ }).reader
      h).lock.holder = none := by
    rcases b.registry.reader_modify_self h fun s => { s with lock := ⟨none, []⟩ } with hs | hs <;>
      exact congrArg (·.lock.holder) hs
  unfold leaveLock
  dsimp only
  rw [hfree]
  show (b.modifyReader h _).wakeAll ((b.registry.modifyReader h _).reader h).lock.holder.toList = _
  rw [hholder]
  rfl

/-- **The next frame** is the first one of those that are there. -/
theorem nextFrame_taken (hrec : (b.registry.reader h).isReceiving = true)
    (hc : b.registry.isCancelled (e.scope h) = false)
    (hcontents : (b.registry.reader h).contents = f :: rest) (reading : Reading) :
    b.nextFrame id h e reading = (b.takeFrames h none rest).deliver h e reading f := by
  have hall := hcontents
  unfold ReaderStatus.contents at hall
  rw [hrec, if_pos rfl] at hall
  unfold nextFrame
  dsimp only
  cases hheld : (b.registry.reader h).held with
  | some x =>
    rw [hheld] at hall
    obtain ⟨rfl, hrest⟩ := List.cons.inj hall
    change (b.registry.reader h).channel.buffer = rest at hrest
    dsimp only
    congr 1
    unfold takeFrames
    dsimp only
    rw [hrest, if_neg (Nat.lt_irrefl _)]
    refine modifyReader_congr ?_
    rw [← hrest]
    rfl
  | none =>
    rw [hheld] at hall
    change (b.registry.reader h).channel.buffer = f :: rest at hall
    have hlen : rest.length < (b.registry.reader h).channel.buffer.length := by
      rw [hall]
      exact Nat.lt_succ_self _
    dsimp only
    rw [hrec, hc, hall, takeFrames_eq hlen]
    dsimp only [Bool.not_true]
    rw [if_neg nofun, if_neg nofun]
    congr 1
    show (b.withRegistry _).wakeAll _ = _
    rw [wakeAll_withRegistry]
    unfold modifyReader
    rw [wakeAll_registry]
    congr 1
    refine Registry.modifyReader_congr ?_
    rw [hheld]

/-! ## The first frame -/

theorem readEnd_one (b : Bridge) (h : ReaderHandle) :
    Turn.One h (b.readEnd h .available) (b.readEnd h .next) := ⟨rfl, .ends (fun _ => rfl) rfl⟩

theorem readFailure_one (b : Bridge) (h : ReaderHandle) (f : Failure) :
    Turn.One h (b.readFailure h .available f) (b.readFailure h .next f) :=
  ⟨rfl, .ends trivial rfl⟩

theorem deliver_one (b : Bridge) (h : ReaderHandle) (e : Reader) (f : Frame) :
    Turn.One h (b.deliver h e .available f) (b.deliver h e .next f) := by
  cases f with
  | data c => exact ⟨rfl, .ends nofun rfl⟩
  | finish => exact readEnd_one _ h
  | failure message => exact readFailure_one _ h _

theorem nextFrame_one (b : Bridge) (id : TaskId) (h : ReaderHandle) (e : Reader) :
    Turn.One h (b.nextFrame id h e .available) (b.nextFrame id h e .next) := by
  unfold nextFrame
  dsimp only
  split
  · exact deliver_one _ h e _
  · split
    · exact deliver_one _ h e _
    · split
      · exact readFailure_one _ h _
      · split
        · exact deliver_one _ h e _
        · split
          · exact ⟨rfl, .waits rfl⟩
          · exact readFailure_one _ h _

/-- A reading that has the lock finds chunks that can be taken at once. -/
structure Supplies (b : Bridge) (id : TaskId) (h : ReaderHandle) (e : Reader) : Prop where
  notCancelled : b.registry.isCancelled (e.scope h) = false
  active : (b.registry.reader h).state = .active
  isReceiving : (b.registry.reader h).isReceiving = true
  holder : (b.registry.reader h).lock.holder = some id
  chunks : (Channel.takeRun (b.registry.reader h).contents).1 ≠ []

/-- Who finds chunks has taken them. -/
theorem Supplies.ends (hs : b.Supplies id h e) : ∃ o, (b.takeAvailable id h e).1 = .ends o := by
  unfold takeAvailable
  dsimp only
  split
  · exact ⟨_, rfl⟩
  · rw [if_neg hs.chunks]
    exact ⟨_, rfl⟩
  · rw [if_neg hs.chunks]
    exact ⟨_, rfl⟩

/-- Where no chunk comes first, a reading of all takes one frame. -/
theorem takeAvailable_one (hrec : (b.registry.reader h).isReceiving = true)
    (hc : b.registry.isCancelled (e.scope h) = false)
    (hrun : (Channel.takeRun (b.registry.reader h).contents).1 = []) :
    b.takeAvailable id h e = b.nextFrame id h e .available := by
  cases hcontents : (b.registry.reader h).contents with
  | nil =>
    unfold takeAvailable
    rw [hcontents]
    rfl
  | cons f rest =>
    rw [nextFrame_taken hrec hc hcontents]
    unfold takeAvailable
    rw [hcontents] at hrun ⊢
    cases f with
    | data c => cases hrun
    | finish => rfl
    | failure message => rfl

/-- **Where a reading of all waits**, a reading of the next chunk waits as well. Where it ends
without a chunk, that one ends alike. -/
theorem readLocked_one (hrec : (b.registry.reader h).state = .active →
      (b.registry.reader h).isReceiving = true)
    (hc : b.registry.isCancelled (e.scope h) = false)
    (hone : (b.registry.reader h).state = .active →
      (b.registry.reader h).lock.holder = some id →
      (Channel.takeRun (b.registry.reader h).contents).1 = []) :
    Turn.One h (b.readLocked id h e .available) (b.readLocked id h e .next) := by
  unfold readLocked
  dsimp only
  split
  · rename_i hk
    cases hst : (b.registry.reader h).state with
    | exhausted => exact readEnd_one _ h
    | closed => exact readFailure_one _ h _
    | active =>
      dsimp only
      rw [takeAvailable_one (hrec hst) hc (hone hst hk)]
      exact nextFrame_one b id h e
  · exact ⟨rfl, .waits rfl⟩

/-- Either a reading that comes to the lock finds no chunk that it can take, or it takes all. -/
theorem readLocked_single (id : TaskId) (hrec : (b.registry.reader h).state = .active →
      (b.registry.reader h).isReceiving = true)
    (hc : b.registry.isCancelled (e.scope h) = false) :
    Turn.One h (b.readLocked id h e .available) (b.readLocked id h e .next) ∨
      b.Supplies id h e ∧ b.readLocked id h e .available = b.takeAvailable id h e ∧
        b.readLocked id h e .next = b.nextFrame id h e .next := by
  by_cases hone : (b.registry.reader h).state = .active →
    (b.registry.reader h).lock.holder = some id →
      (Channel.takeRun (b.registry.reader h).contents).1 = []
  · exact .inl (readLocked_one hrec hc hone)
  · obtain ⟨hst, hrest⟩ := Classical.not_imp.1 hone
    obtain ⟨hk, hrun⟩ := Classical.not_imp.1 hrest
    refine .inr ⟨⟨hc, hst, hrec hst, hk, hrun⟩, ?_, ?_⟩ <;>
    · unfold readLocked
      dsimp only
      rw [if_pos hk, hst]

/-- A reading comes to the lock, unless it ends before. -/
theorem read_lock (b : Bridge) (id : TaskId) (h : ReaderHandle) :
    Turn.One h (b.read id h .available) (b.read id h .next) ∨
      ∃ e, b.registry.isCancelled (e.scope h) = false ∧ b.registry.readers.get? h = some e ∧
        ∀ reading : Reading, reading.isComplete = false → b.read id h reading =
          (b.modifyReader h fun s => { s with lock := s.lock.enter id }).readLocked id h e
            reading := by
  cases hfind : b.registry.findReader h with
  | error f =>
    have hread : ∀ reading : Reading, reading.isComplete = false →
        b.read id h reading = b.readFailure h reading f := by
      intro reading hcomplete
      unfold read
      rw [hcomplete, hfind]
      rfl
    rw [hread .available rfl, hread .next rfl]
    exact .inl (readFailure_one b h f)
  | ok e? =>
    cases e? with
    | none =>
      have hread : ∀ reading : Reading, reading.isComplete = false →
          b.read id h reading = b.readEnd h reading := by
        intro reading hcomplete
        unfold read
        rw [hcomplete, hfind]
        rfl
      rw [hread .available rfl, hread .next rfl]
      exact .inl (readEnd_one b h)
    | some e =>
      have hread : ∀ reading : Reading, reading.isComplete = false → b.read id h reading =
          if b.registry.isCancelled (e.scope h) then b.readClosed h reading
          else (b.modifyReader h fun s => { s with lock := s.lock.enter id }).readLocked id h e
            reading := by
        intro reading hcomplete
        unfold read
        rw [hcomplete, hfind]
        rfl
      cases hc : b.registry.isCancelled (e.scope h) with
      | true =>
        rw [hread .available rfl, hread .next rfl, hc]
        exact .inl (readFailure_one b h _)
      | false =>
        rw [hc] at hread
        exact .inr ⟨e, hc, (findReader_eq_ok hfind).1, hread⟩

/-- The turn of a reading of all that is there, which finds chunks when it has come to the lock. A
reading of the next chunk takes the first one. -/
structure TakesAll (b : Bridge) (id : TaskId) (h : ReaderHandle) (stage : Stage) (b₁ : Bridge)
    (e : Reader) : Prop where
  supplies : b₁.Supplies id h e
  place : stage.lock? = some h ∧ b₁ = b ∨
    stage.lock? = none ∧ b₁ = b.modifyReader h fun s => { s with lock := s.lock.enter id }
  live : b.registry.readers.get? h = some e
  all : b.turn id stage = b₁.takeAvailable id h e
  next : b.turn id stage.single = b₁.nextFrame id h e .next

/-- A reading that is alone at the reader has its lock when it takes the chunks. -/
theorem TakesAll.lock {stage : Stage} {b₁ : Bridge} {r₀ : Registry}
    (ht : b.TakesAll id h stage b₁ e) (hl : Registry.Locked id stage.lock? r₀ b.registry)
    (halone : ∀ i ∈ (r₀.reader h).lock.members, i = id) :
    (b₁.registry.reader h).lock = ⟨some id, []⟩ := by
  have hl₁ : Registry.Locked id (some h) r₀ b₁.registry := by
    obtain ⟨hplace, rfl⟩ | ⟨hplace, rfl⟩ := ht.place <;> rw [hplace] at hl
    · exact hl
    · exact hl.enter
  have hholder := ht.supplies.holder
  have hqueue : (b₁.registry.reader h).lock.queue = [] := by
    refine List.eq_nil_iff_forall_not_mem.2 fun i hi => ?_
    by_cases hid : i = id
    · exact Turnstile.not_mem_queue (hl₁.nodup h) hholder (hid ▸ hi)
    · exact hid (halone i (hl₁.others h i hid (List.mem_append_right _ hi)))
  rw [← hholder, ← hqueue]

/-- **The turn of a reading of all that is there.** Either a reading of the next chunk has the same
turn, or there are chunks, of which that one takes the first. -/
theorem turn_single {stage : Stage} {me : Option TaskId} {inHand : Option Stream}
    (hb : BridgeOK b me inHand) (hok : StageOK b stage) (hs : stage.batch? = some h) :
    Turn.One h (b.turn id stage) (b.turn id stage.single) ∨ ∃ b₁ e, b.TakesAll id h stage b₁ e := by
  unfold Stage.batch? at hs
  split at hs
  · rename_i h
    obtain rfl := Option.some.inj hs
    obtain hone | ⟨e, hc, hlive, hread⟩ := b.read_lock id h
    · exact .inl hone
    · have hstate := b.registry.reader_modify_keeps h (g := ReaderStatus.state)
        (f := fun s => { s with lock := s.lock.enter id }) rfl h
      have hreceiving := b.registry.reader_modify_keeps h (g := ReaderStatus.isReceiving)
        (f := fun s => { s with lock := s.lock.enter id }) rfl h
      have hlocked := readLocked_single id
        (b := b.modifyReader h fun s => { s with lock := s.lock.enter id })
        (fun hst => hreceiving.trans (hb.receiving h (hstate.symm.trans hst)))
        ((modifyReader_isCancelled rfl _).trans hc)
      rw [← hread .available rfl, ← hread .next rfl] at hlocked
      exact hlocked.imp_right fun hall =>
        ⟨_, e, hall.1, .inr ⟨rfl, rfl⟩, hlive, hall.2.1, hall.2.2⟩
  · rename_i h e
    obtain rfl := Option.some.inj hs
    have hturn : ∀ reading, b.turn id (.awaitingTurn h e reading) =
        if b.registry.isCancelled (e.scope h) then (b.giveUpLock id h).readClosed h reading
        else b.readLocked id h e reading := fun _ => rfl
    show Turn.One h _ (b.turn id (.awaitingTurn h e .next)) ∨ _
    cases hc : b.registry.isCancelled (e.scope h) with
    | true =>
      rw [hturn, hturn, hc]
      exact .inl (readFailure_one _ h _)
    | false =>
      rw [hc] at hturn
      rw [hturn, hturn]
      refine (readLocked_single id (hb.receiving h) hc).imp_right fun hall => ?_
      -- the reader is live, and so the one that the call remembers
      obtain ⟨e', he'⟩ := (hb.registry.active h).1 hall.1.active
      exact ⟨b, e, hall.1, .inl ⟨rfl, rfl⟩, hok.2 e' he' ▸ he', (hturn _).trans hall.2.1,
        (hturn _).trans hall.2.2⟩
  · rename_i h e
    obtain rfl := Option.some.inj hs
    have hturn : ∀ reading, b.turn id (.awaitingFrame h e reading) =
        if b.registry.isCancelled (e.scope h) then (b.leaveLock h).readClosed h reading
        else b.nextFrame id h e reading := fun _ => rfl
    refine .inl ?_
    show Turn.One h _ (b.turn id (.awaitingFrame h e .next))
    cases hc : b.registry.isCancelled (e.scope h) with
    | true =>
      rw [hturn, hturn, hc]
      exact readFailure_one _ h _
    | false =>
      rw [hturn, hturn, hc]
      exact nextFrame_one b id h e
  · cases hs

end Bridge

end QueryBridge
