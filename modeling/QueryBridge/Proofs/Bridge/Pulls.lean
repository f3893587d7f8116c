import QueryBridge.Proofs.Bridge.Singles

/-!
# One chunk after another

Where nobody else reads, readings of the next chunk take one after another what
a reading of all that is there takes at once.

* `Bridge.pull`, `Bridge.pulls`: readings of the next chunk.
* `Bridge.pulls_data`, `Bridge.Offers.pull_finish`: what they take.
* `Bridge.Supplies.singly`: what they leave.
-/

namespace QueryBridge

namespace Bridge

variable {b : Bridge} {id : TaskId} {h : ReaderHandle} {e : Reader} {f : Frame}
  {fs rest : List Frame} {c : Bytes}

/-! ## One reading after another -/

/-- A reading of the next chunk begins and has a turn. -/
def pull (b : Bridge) (h : ReaderHandle) : Option Outcome × Bridge :=
  (b.step (.call (.read h .next))).poll b.nextTask

/-- Readings of the next chunk, one after another: how they end, and the bridge after them. -/
def pulls (b : Bridge) (h : ReaderHandle) : Nat → List (Option Outcome) × Bridge
  | 0 => ([], b)
  | n + 1 => ((b.pull h).1 :: ((b.pull h).2.pulls h n).1, ((b.pull h).2.pulls h n).2)

/-- The bridge, if more tasks had begun and were over. -/
def skip (b : Bridge) (n : Nat) : Bridge := { b with nextTask := b.nextTask + n }

/-- The bridge in the first turn of a call. -/
def begun (b : Bridge) (c : Call) : Bridge :=
  { b.skip 1 with tasks := b.tasks ++ [(b.nextTask, .call none (.fresh c))] }

/-- A call that ends in its first turn, and changes nothing but the resources. -/
theorem poll_begun (hb : b.Numbered) {c : Call} {o : Outcome} {r : Registry}
    (hturn : (b.begun c).turn b.nextTask (.fresh c) = (.ends o, (b.begun c).withRegistry r)) :
    (b.step (.call c)).poll b.nextTask = (some o, (b.skip 1).withRegistry r) := by
  have htasks : ∀ p ∈ b.tasks, p.1 ≠ b.nextTask := fun p hp he =>
    absurd (hb.tasks p hp) (he ▸ Nat.lt_irrefl _)
  have hready : b.nextTask ∉ b.ready := fun hm => absurd (hb.ready _ hm) (Nat.lt_irrefl _)
  have htask : (b.step (.call c)).task? b.nextTask = some (.call none (.fresh c)) := by
    show (b.tasks ++ [(b.nextTask, _)]).lookup b.nextTask = _
    rw [List.lookup_append, show b.tasks.lookup b.nextTask = none from task?_eq_none.2 htasks]
    simp
  have htaken : (b.step (.call c)).takeTurn b.nextTask = b.begun c := by
    have herase : (b.ready ++ [b.nextTask]).erase b.nextTask = b.ready := by
      rw [List.erase_append_right _ hready, List.erase_cons_head, List.append_nil]
    exact congrArg (fun l => { b.begun c with ready := l }) herase
  rw [poll_call htask rfl, htaken]
  unfold pollCall
  rw [hturn]
  have hfilter : (b.tasks ++ [(b.nextTask, Task.call none (.fresh c))]).filter
      (·.1 ≠ b.nextTask) = b.tasks := by
    rw [List.filter_append, List.filter_eq_self.2 fun p hp => by simpa using htasks p hp]
    simp
  exact congrArg (Prod.mk (some o)) (congrArg₂
    (fun l l' => { (b.skip 1).withRegistry r with tasks := l, ready := l' }) hfilter
    (List.erase_of_not_mem hready))

/-- What of its channel is left does not matter to a reader that met the end. -/
theorem exhaust_left (r : Registry) (h : ReaderHandle) (e : Reader) (rest : List Frame) :
    (r.modifyReader h (ReaderStatus.left none rest)).exhaust h e =
      (r.exhaust h e).modifyReader h (ReaderStatus.left none []) :=
  Registry.exhaust_modify rfl rfl

/-- The end was taken by a reading that had the lock alone. -/
theorem leaveLock_exhausted {F : ReaderStatus → ReaderStatus}
    (hrec : (b.registry.reader h).isReceiving = true)
    (hrec' : (F (b.registry.reader h)).isReceiving = true)
    (hlock : (F (b.registry.reader h)).lock = ⟨some id, []⟩) (e : Reader) :
    (b.withRegistry ((b.registry.modifyReader h F).exhaust h e)).leaveLock h =
      b.withRegistry ((b.registry.modifyReader h fun s =>
        { F s with lock := ⟨none, []⟩ }).exhaust h e) := by
  let free := fun s : ReaderStatus => { s with lock := ⟨none, []⟩ }
  have hstatus := b.registry.reader_modify_of_receiving F hrec
  have hheld : (((b.registry.modifyReader h F).exhaust h e).reader h).lock =
      ⟨some id, []⟩ := by
    rw [Registry.exhaust_reader, Registry.reader_modify_of_receiving _ _
      ((congrArg ReaderStatus.isReceiving hstatus).trans hrec'), hstatus]
    exact hlock
  have hfree : ((b.registry.modifyReader h F).exhaust h e).modifyReader h free =
      (b.registry.modifyReader h fun s => { F s with lock := ⟨none, []⟩ }).exhaust h e := by
    rw [← Registry.exhaust_modify (F := free) rfl rfl, Registry.modifyReader_modifyReader]
  exact (leaveLock_eq (b := b.withRegistry _) hheld).trans (congrArg b.withRegistry hfree)

/-- A reader that nobody reads has these frames. -/
structure Offers (b : Bridge) (h : ReaderHandle) (e : Reader) (fs : List Frame) : Prop where
  live : b.registry.readers.get? h = some e
  notCancelled : b.registry.isCancelled (e.scope h) = false
  active : (b.registry.reader h).state = .active
  isReceiving : (b.registry.reader h).isReceiving = true
  lock : (b.registry.reader h).lock = ⟨none, []⟩
  held : (b.registry.reader h).held = none
  roomWaiter : (b.registry.reader h).channel.roomWaiter = none
  buffer : (b.registry.reader h).channel.buffer = fs

namespace Offers

/-- The turn of a reading of the next chunk takes the first frame. -/
theorem turn (ho : b.Offers h e (f :: fs)) :
    (b.begun (.read h .next)).turn b.nextTask (.fresh (.read h .next)) =
      ((b.begun (.read h .next)).modifyReader h fun s =>
        { s.left none fs with lock := ⟨some b.nextTask, []⟩ }).deliver h e .next f := by
  let b₁ := (b.begun (.read h .next)).modifyReader h fun s =>
    { s with lock := s.lock.enter b.nextTask }
  have hstatus : b₁.registry.reader h =
      { b.registry.reader h with lock := ⟨some b.nextTask, []⟩ } := by
    refine (b.registry.reader_modify_of_receiving _ ho.isReceiving).trans ?_
    rw [ho.lock]
    rfl
  have hc : b₁.registry.isCancelled (e.scope h) = false :=
    (modifyReader_isCancelled rfl _).trans ho.notCancelled
  have hcontents : (b₁.registry.reader h).contents = f :: fs := by
    rw [hstatus]
    simp [ReaderStatus.contents, ho.held, ho.isReceiving, ho.buffer]
  have hfind : (b.begun (.read h .next)).registry.findReader h = .ok (some e) := by
    unfold Registry.findReader
    rw [show (b.begun (.read h .next)).registry.readers.get? h = some e from ho.live]
  have hread : (b.begun (.read h .next)).read b.nextTask h .next =
      b₁.readLocked b.nextTask h e .next := by
    have hcomplete : ¬ Reading.next.isComplete = true := Bool.false_ne_true
    unfold read
    rw [if_neg hcomplete, hfind]
    dsimp only
    rw [show (b.begun (.read h .next)).registry.isCancelled (e.scope h) = false
      from ho.notCancelled]
    rfl
  have hlocked : b₁.readLocked b.nextTask h e .next = b₁.nextFrame b.nextTask h e .next := by
    unfold readLocked
    dsimp only
    rw [hstatus, if_pos rfl, ho.active]
  have htaken : b₁.takeFrames h none fs = (b.begun (.read h .next)).modifyReader h fun s =>
      { s.left none fs with lock := ⟨some b.nextTask, []⟩ } := by
    rw [takeFrames_eq (by rw [hstatus, ho.buffer]; exact Nat.lt_succ_self _), hstatus,
      ho.roomWaiter]
    refine (modifyReader_modifyReader _ h _ _).trans (modifyReader_congr ?_)
    show _ = { (b.registry.reader h).left none fs with lock := ⟨some b.nextTask, []⟩ }
    rw [ReaderStatus.left, show (b.begun (.read h .next)).registry = b.registry from rfl, ho.lock]
    rfl
  show (b.begun (.read h .next)).read b.nextTask h .next = _
  rw [hread, hlocked, nextFrame_taken (hstatus ▸ ho.isReceiving) hc hcontents, htaken]

/-- A reading that has taken a frame gives the lock back. -/
theorem unlocked (b : Bridge) (h : ReaderHandle) (id : TaskId) (fs : List Frame)
    (hrec : (b.registry.reader h).isReceiving = true) :
    (b.modifyReader h fun s => { s.left none fs with lock := ⟨some id, []⟩ }).leaveLock h =
      b.modifyReader h (ReaderStatus.left none fs) := by
  have hstatus := b.registry.reader_modify_of_receiving
    (fun s => { s.left none fs with lock := ⟨some id, []⟩ }) hrec
  rw [leaveLock_eq (congrArg ReaderStatus.lock hstatus), modifyReader_modifyReader]
  rfl

/-- **A chunk is taken.** -/
theorem pull_data (hb : b.Numbered) (ho : b.Offers h e (.data c :: fs)) :
    b.pull h = (some (.replied (.chunk (some c))),
      (b.skip 1).modifyReader h (ReaderStatus.left none fs)) := by
  refine poll_begun hb (ho.turn.trans ?_)
  show readChunk (leaveLock _ h) h .next c = _
  rw [unlocked (b.begun (.read h .next)) h _ fs ho.isReceiving]
  rfl

/-- **The end of the stream is taken.** -/
theorem pull_finish (hb : b.Numbered) (ho : b.Offers h e (.finish :: fs)) :
    b.pull h = (some (.replied (.chunk none)),
      (b.skip 1).withRegistry (b.registry.exhaust h e)) := by
  refine poll_begun hb (ho.turn.trans (congrArg (Prod.mk _) ?_))
  have hfree := leaveLock_exhausted (b := b.begun (.read h .next))
    (F := fun s => { s.left none fs with lock := ⟨some b.nextTask, []⟩ })
    ho.isReceiving ho.isReceiving rfl e
  have hsame : (b.registry.modifyReader h (ReaderStatus.left none fs)).exhaust h e =
      b.registry.exhaust h e := by
    rw [exhaust_left]
    refine Registry.modifyReader_self ?_
    rw [Registry.exhaust_reader, Registry.reader_modify_of_receiving _ _ ho.isReceiving,
      ReaderStatus.left, Registry.spent, ho.lock, ho.held]
  exact hfree.trans (congrArg (b.begun (.read h .next)).withRegistry hsame)

theorem left_eq (ho : b.Offers h e fs) :
    (b.registry.reader h).left none fs = b.registry.reader h := by
  rw [ReaderStatus.left, ← ho.lock, ← ho.held, ← ho.buffer, ← ho.roomWaiter]

/-- A reader of which frames were taken offers what is left. -/
theorem taken (hlive : b.registry.readers.get? h = some e)
    (hc : b.registry.isCancelled (e.scope h) = false)
    (hst : (b.registry.reader h).state = .active)
    (hrec : (b.registry.reader h).isReceiving = true) (fs : List Frame) :
    (b.modifyReader h (ReaderStatus.left none fs)).Offers h e fs := by
  have hstatus : (b.modifyReader h (ReaderStatus.left none fs)).registry.reader h =
      (b.registry.reader h).left none fs := b.registry.reader_modify_of_receiving _ hrec
  refine ⟨hlive, (modifyReader_isCancelled rfl _).trans hc, ?_, ?_, ?_, ?_, ?_, ?_⟩ <;> rw [hstatus]
  · exact hst
  · exact hrec
  all_goals rfl

end Offers

theorem pull_numbered (hb : b.Numbered) (h : ReaderHandle) : (b.pull h).2.Numbered :=
  (hb.step (.call (.read h .next))).step (.turn b.nextTask)

theorem pulls_add (b : Bridge) (h : ReaderHandle) (n m : Nat) :
    b.pulls h (n + m) =
      ((b.pulls h n).1 ++ ((b.pulls h n).2.pulls h m).1, ((b.pulls h n).2.pulls h m).2) := by
  induction n generalizing b with
  | zero => rw [Nat.zero_add]; rfl
  | succ n ih =>
    rw [Nat.succ_add, pulls, ih]
    rfl

/-- **Chunks are taken one after another.** -/
theorem pulls_data {cs : List Bytes} (hb : b.Numbered)
    (ho : b.Offers h e (cs.map .data ++ rest)) :
    b.pulls h cs.length = (cs.map fun c => some (.replied (.chunk (some c))),
      (b.skip cs.length).modifyReader h (ReaderStatus.left none rest)) := by
  induction cs generalizing b with
  | nil =>
    have hsame : b.modifyReader h (ReaderStatus.left none rest) = b :=
      congrArg b.withRegistry (Registry.modifyReader_self ho.left_eq)
    exact congrArg (Prod.mk []) hsame.symm
  | cons c cs ih =>
    have hpull : b.pull h = (some (.replied (.chunk (some c))),
        (b.skip 1).modifyReader h (ReaderStatus.left none (cs.map .data ++ rest))) :=
      ho.pull_data hb
    have hnumbered := pull_numbered hb h
    rw [hpull] at hnumbered
    have hrest := ih hnumbered
      (.taken (b := b.skip 1) ho.live ho.notCancelled ho.active ho.isReceiving _)
    have hnext : ((b.skip 1).modifyReader h
          (ReaderStatus.left none (cs.map .data ++ rest))).skip cs.length =
        (b.skip (cs.length + 1)).modifyReader h
          (ReaderStatus.left none (cs.map .data ++ rest)) := by
      show { (b.skip 1).modifyReader h _ with nextTask := b.nextTask + 1 + cs.length } = _
      rw [Nat.add_assoc, Nat.add_comm 1]
      rfl
    rw [List.length_cons, pulls, hpull]
    dsimp only
    rw [hrest, hnext, modifyReader_modifyReader]
    rfl

theorem pulls_numbered (hb : b.Numbered) (h : ReaderHandle) (n : Nat) :
    (b.pulls h n).2.Numbered := by
  induction n generalizing b with
  | zero => exact hb
  | succ n ih => exact ih (pull_numbered hb h)

/-! ## All that is there -/

/-- Frames were taken by a reading that had the lock alone. -/
theorem taken_left (hlock : (b.registry.reader h).lock = ⟨some id, []⟩)
    (hrec : (b.registry.reader h).isReceiving = true)
    (hlen : rest.length < (b.registry.reader h).channel.buffer.length) (held : Option Frame) :
    (b.takeFrames h held rest).leaveLock h =
      (b.wakeAll (b.registry.reader h).channel.roomWaiter.toList).modifyReader h
        (ReaderStatus.left held rest) := by
  rw [takeFrames_eq hlen]
  generalize (b.registry.reader h).channel.roomWaiter.toList = ids
  have hreg := wakeAll_registry ids b
  have hstatus := (b.wakeAll ids).registry.reader_modify_of_receiving (h := h)
    (fun s => { s with held, channel := { s.channel with buffer := rest, roomWaiter := none } })
    (by rw [hreg]; exact hrec)
  rw [leaveLock_eq ((congrArg ReaderStatus.lock hstatus).trans (by rw [hreg]; exact hlock)),
    modifyReader_modifyReader]
  rfl

/-- Frames and the end behind them were taken by a reading that had the lock alone. -/
theorem exhausted_left (hlock : (b.registry.reader h).lock = ⟨some id, []⟩)
    (hrec : (b.registry.reader h).isReceiving = true)
    (hlen : rest.length < (b.registry.reader h).channel.buffer.length) (e : Reader) :
    ((b.takeFrames h none rest).withRegistry
        ((b.takeFrames h none rest).registry.exhaust h e)).leaveLock h =
      (b.wakeAll (b.registry.reader h).channel.roomWaiter.toList).withRegistry
        ((b.registry.modifyReader h (ReaderStatus.left none rest)).exhaust h e) := by
  rw [takeFrames_eq hlen]
  generalize (b.registry.reader h).channel.roomWaiter.toList = ids
  have hreg := wakeAll_registry ids b
  rw [← hreg] at hrec hlock ⊢
  exact leaveLock_exhausted (b := b.wakeAll ids) (F := fun s =>
    { s with held := none, channel := { s.channel with buffer := rest, roomWaiter := none } })
    hrec hrec hlock e

/-- The bridge, if more tasks had begun and were over, and the frame that a reader holds back were
still in its channel. -/
def besides (b : Bridge) (n : Nat) (parked : Option ReaderHandle) : Bridge :=
  { b.skip n with
    registry := parked.elim b.registry (b.registry.modifyReader · ReaderStatus.park) }

/-- A reader that is live holds a failure back, and nothing is behind it. -/
structure HoldsBack (b : Bridge) (h : ReaderHandle) : Prop where
  active : (b.registry.reader h).state = .active
  parks : b.registry.Parks h
  held : ∃ message, (b.registry.reader h).held = some (.failure message)

/-- Another reading than one of all that is there has the first chunk. When it and those after it
have taken as many, the bridge is as the reading of all leaves it. -/
structure Singly (h : ReaderHandle) (b b' : Bridge) (o : Outcome) (parked : Option ReaderHandle) :
    Prop where
  batch : o.EndsBatch
  answers : o.singly = o.first :: o.singly.tail
  pulls : b'.pulls h o.singly.tail.length =
    (o.singly.tail.map some, b.besides o.singly.tail.length parked)
  parked : parked = none ∨ parked = some h ∧ b.HoldsBack h

namespace Singly

/-- Chunks that are taken one after another from a reader of which only its frames matter. -/
theorem pulls_left {cs : List Bytes}
    (hb : (b.modifyReader h (ReaderStatus.left none (cs.map .data ++ rest))).Numbered)
    (ho : ∀ fs, (b.modifyReader h (ReaderStatus.left none fs)).Offers h e fs) :
    (b.modifyReader h (ReaderStatus.left none (cs.map .data ++ rest))).pulls h cs.length =
      (cs.map fun c => some (.replied (.chunk (some c))),
        (b.skip cs.length).modifyReader h (ReaderStatus.left none rest)) := by
  rw [pulls_data hb (ho _)]
  exact congrArg (Prod.mk _) (modifyReader_modifyReader (b.skip cs.length) h _ _)

/-- There were chunks, and no more. -/
theorem of_chunks {cs : List Bytes}
    (hb : (b.modifyReader h (ReaderStatus.left none (cs.map .data ++ []))).Numbered)
    (ho : ∀ fs, (b.modifyReader h (ReaderStatus.left none fs)).Offers h e fs) (c : Bytes) :
    Singly h (b.modifyReader h (ReaderStatus.left none []))
      (b.modifyReader h (ReaderStatus.left none (cs.map .data ++ [])))
      (.replied (.batch (c :: cs) false)) none := by
  refine ⟨nofun, rfl, ?_, .inl rfl⟩
  rw [singly_tail_length, singly_tail_map]
  exact (pulls_left hb ho).trans (congrArg (Prod.mk · _) (List.append_nil _).symm)

/-- There were chunks, and then the end. -/
theorem of_finish {cs : List Bytes}
    (hb : (b.modifyReader h (ReaderStatus.left none (cs.map .data ++ .finish :: rest))).Numbered)
    (ho : ∀ fs, (b.modifyReader h (ReaderStatus.left none fs)).Offers h e fs) (c : Bytes) :
    Singly h
      (b.withRegistry ((b.registry.modifyReader h (ReaderStatus.left none rest)).exhaust h e))
      (b.modifyReader h (ReaderStatus.left none (cs.map .data ++ .finish :: rest)))
      (.replied (.batch (c :: cs) true)) none := by
  refine ⟨nofun, rfl, ?_, .inl rfl⟩
  have hchunks := pulls_left hb ho
  have hnumbered := pulls_numbered hb h cs.length
  rw [hchunks] at hnumbered
  have hend := Offers.pull_finish (b := (b.skip cs.length).modifyReader h
    (ReaderStatus.left none (.finish :: rest))) hnumbered
      { ho (.finish :: rest) with }
  have hregistry : ((b.skip cs.length).modifyReader h
      (ReaderStatus.left none (.finish :: rest))).registry.exhaust h e =
        (b.registry.modifyReader h (ReaderStatus.left none rest)).exhaust h e := by
    rw [exhaust_left]
    exact exhaust_left b.registry h e (.finish :: rest)
  rw [singly_tail_length, singly_tail_map, if_pos rfl, pulls_add, hchunks]
  dsimp only
  rw [Bridge.pulls, Bridge.pulls, hend, hregistry]
  rfl

/-- There were chunks, and then a failure, which a reading of all holds back. -/
theorem of_failure {cs : List Bytes} {message : String}
    (hb : (b.modifyReader h
      (ReaderStatus.left none (cs.map .data ++ [.failure message]))).Numbered)
    (ho : ∀ fs, (b.modifyReader h (ReaderStatus.left none fs)).Offers h e fs)
    (hst : (b.registry.reader h).state = .active)
    (hrec : (b.registry.reader h).isReceiving = true) (c : Bytes) :
    Singly h (b.modifyReader h (ReaderStatus.left (some (.failure message)) []))
      (b.modifyReader h (ReaderStatus.left none (cs.map .data ++ [.failure message])))
      (.replied (.batch (c :: cs) false)) (some h) := by
  have hstatus : (b.modifyReader h
      (ReaderStatus.left (some (.failure message)) [])).registry.reader h =
        (b.registry.reader h).left (some (.failure message)) [] :=
    b.registry.reader_modify_of_receiving _ hrec
  have hparked : (b.registry.modifyReader h
      (ReaderStatus.left (some (.failure message)) [])).modifyReader h ReaderStatus.park =
        b.registry.modifyReader h (ReaderStatus.left none [.failure message]) :=
    Registry.modifyReader_modifyReader _ h _ _
  have hissued := HandleTable.issued_of_get? (ho []).live
  refine ⟨nofun, rfl, ?_, .inr ⟨rfl, ?_, ⟨hissued, ?_⟩, message, ?_⟩⟩
  · rw [singly_tail_length, singly_tail_map, besides]
    refine (pulls_left hb ho).trans (congrArg₂ Prod.mk (List.append_nil _).symm ?_)
    exact congrArg (b.skip cs.length).withRegistry hparked.symm
  · rw [hstatus]
    exact hst
  · rw [hstatus]
    refine ⟨rfl, rfl, fun f hf => ?_⟩
    obtain rfl := Option.some.inj hf
    exact ⟨rfl, hrec⟩
  · rw [hstatus]
    rfl

end Singly

/-- The chunks that a reading finds are in the channel, for only what is not data is held back. What
is behind them is not a chunk. -/
theorem Supplies.run (hs : b.Supplies id h e)
    (hheld : ∀ f, (b.registry.reader h).held = some f → f.isTerminal = true) :
    ∃ c cs tail, (b.registry.reader h).contents = .data c :: (cs.map .data ++ tail) ∧
      (b.registry.reader h).channel.buffer = .data c :: (cs.map .data ++ tail) ∧
      Channel.takeRun (.data c :: (cs.map .data ++ tail)) = (c :: cs, tail) ∧
      ∀ c' r, tail ≠ .data c' :: r := by
  have hchunks := hs.chunks
  obtain ⟨c, rest, hcontents⟩ : ∃ c rest, (b.registry.reader h).contents = .data c :: rest := by
    cases hcon : (b.registry.reader h).contents with
    | nil => rw [hcon] at hchunks; exact absurd rfl hchunks
    | cons f rest =>
      cases f with
      | data c => exact ⟨c, rest, rfl⟩
      | finish => rw [hcon] at hchunks; exact absurd rfl hchunks
      | failure message => rw [hcon] at hchunks; exact absurd rfl hchunks
  have hnone : (b.registry.reader h).held = none := by
    cases hx : (b.registry.reader h).held with
    | none => rfl
    | some f =>
      rw [ReaderStatus.contents, hx] at hcontents
      obtain rfl := (List.cons.inj hcontents).1
      cases hheld _ hx
  have hbuffer : (b.registry.reader h).channel.buffer = .data c :: rest := by
    rwa [ReaderStatus.contents, hnone, hs.isReceiving] at hcontents
  obtain ⟨cs, tail, hrun, rfl, htail⟩ : ∃ cs tail, Channel.takeRun (.data c :: rest) =
      (c :: cs, tail) ∧ rest = cs.map .data ++ tail ∧ ∀ c' r, tail ≠ .data c' :: r :=
    ⟨_, _, rfl, takeRun_append rest, takeRun_rest rest⟩
  exact ⟨c, cs, tail, hcontents, hbuffer, hrun, htail⟩

/-- **The chunks that are there**, which a reading of all takes at once and readings of the next
chunk one after another. -/
theorem Supplies.singly (hs : b.Supplies id h e) (hlive : b.registry.readers.get? h = some e)
    (hlock : (b.registry.reader h).lock = ⟨some id, []⟩)
    (hheld : ∀ f, (b.registry.reader h).held = some f → f.isTerminal = true)
    (hlast : ∀ f ∈ (b.registry.reader h).contents.dropLast, f.isData = true)
    (hb : ∀ o, (b.nextFrame id h e .next).1 = .ends o →
      ((b.nextFrame id h e .next).2.conclude id).Numbered) :
    ∃ o parked, (b.takeAvailable id h e).1 = .ends o ∧
      (b.nextFrame id h e .next).1 = .ends o.first ∧
      Singly h ((b.takeAvailable id h e).2.conclude id)
        ((b.nextFrame id h e .next).2.conclude id) o parked := by
  obtain ⟨c, cs, tail, hcontents, hbuffer, hrun, htail⟩ := hs.run hheld
  obtain ⟨hc, hst, hrec, -, -⟩ := hs
  -- everything but the reader itself is the same after both
  let V := (b.wakeAll (b.registry.reader h).channel.roomWaiter.toList).conclude id
  have hV : V.registry = b.registry := wakeAll_registry _ b
  have hleft : ∀ held rest', rest'.length < (b.registry.reader h).channel.buffer.length →
      ((b.takeFrames h held rest').leaveLock h).conclude id =
        V.modifyReader h (ReaderStatus.left held rest') := fun held rest' hlen =>
    congrArg (Bridge.conclude · id) (taken_left hlock hrec hlen held)
  have hfirst : b.nextFrame id h e .next = (.ends (.replied (.chunk (some c))),
      (b.takeFrames h none (cs.map .data ++ tail)).leaveLock h) := by
    rw [nextFrame_taken hrec hc hcontents]
    rfl
  have hoffers : ∀ fs, (V.modifyReader h (ReaderStatus.left none fs)).Offers h e fs := by
    refine Offers.taken ?_ ?_ ?_ ?_ <;> rw [hV] <;> assumption
  have hone : (b.nextFrame id h e .next).2.conclude id =
      V.modifyReader h (ReaderStatus.left none (cs.map .data ++ tail)) :=
    (congrArg (fun t : Turn => t.2.conclude id) hfirst).trans
      (hleft none _ (by rw [hbuffer]; exact Nat.lt_succ_self _))
  have hb := hb _ (congrArg Prod.fst hfirst)
  rw [hone] at hb ⊢
  rw [hfirst]
  cases tail with
  | nil =>
    have hall : b.takeAvailable id h e = ((b.takeFrames h none []).leaveLock h).reply
        (.batch (c :: cs) false) := by
      unfold takeAvailable
      rw [hcontents, hrun]
      rfl
    have hafter : (b.takeAvailable id h e).2.conclude id =
        V.modifyReader h (ReaderStatus.left none []) :=
      (congrArg (fun t : Turn => t.2.conclude id) hall).trans
        (hleft none [] (by rw [hbuffer]; exact Nat.succ_pos _))
    rw [hafter]
    exact ⟨_, _, congrArg Prod.fst hall, rfl, .of_chunks hb hoffers c⟩
  | cons f r =>
    have hlen : r.length < (b.registry.reader h).channel.buffer.length := by
      rw [hbuffer, List.length_cons, List.length_append, List.length_cons]
      omega
    cases f with
    | data c' => exact absurd rfl (htail c' r)
    | finish =>
      have hall : b.takeAvailable id h e = (((b.takeFrames h none r).withRegistry
          ((b.takeFrames h none r).registry.exhaust h e)).leaveLock h).reply
            (.batch (c :: cs) true) := by
        unfold takeAvailable
        rw [hcontents, hrun]
      have hafter : (b.takeAvailable id h e).2.conclude id =
          V.withRegistry ((V.registry.modifyReader h (ReaderStatus.left none r)).exhaust h e) := by
        rw [hV]
        exact (congrArg (fun t : Turn => t.2.conclude id) hall).trans
          (congrArg (Bridge.conclude · id) (exhausted_left hlock hrec hlen e))
      rw [hafter]
      exact ⟨_, _, congrArg Prod.fst hall, rfl, .of_finish hb hoffers c⟩
    | failure message =>
      -- a failure is the last frame
      obtain rfl : r = [] := by
        by_contra hr
        refine absurd (hlast (.failure message) ?_) Bool.false_ne_true
        rw [hcontents, List.dropLast_cons_of_ne_nil (by simp), List.dropLast_append_cons,
          List.dropLast_cons_of_ne_nil hr]
        simp
      have hall : b.takeAvailable id h e = ((b.takeFrames h (some (.failure message)) []).leaveLock
          h).reply (.batch (c :: cs) false) := by
        unfold takeAvailable
        rw [hcontents, hrun]
        rfl
      have hafter : (b.takeAvailable id h e).2.conclude id =
          V.modifyReader h (ReaderStatus.left (some (.failure message)) []) :=
        (congrArg (fun t : Turn => t.2.conclude id) hall).trans (hleft _ [] hlen)
      rw [hafter]
      exact ⟨_, _, congrArg Prod.fst hall, rfl,
        .of_failure hb hoffers (hV ▸ hst) (hV ▸ hrec) c⟩

end Bridge

end QueryBridge
