import QueryBridge.Proofs.Bridge.Supplied

/-!
# A reader with one consumer

Whoever uses up a query stream reads its reader chunk by chunk, up to the end or a
failure. If nobody else reads the reader, each turn takes the frame that is next, or
waits for one, and the turns of others leave the consumer where it is.

* `Consumer`: how a query stream is used up.
* `Bridge.TakesNext`, `turn_consumed`: a turn, told by the frame that is next.
* `Bridge.Consumes`: the consumer between its turns.
* `poll_consumes`, `step_consumes_of_other`: its own turns, and what others leave of it.
-/

namespace QueryBridge

/-- How a query stream is used up: its chunks are collected, or they are yielded one after
another, no more than a limit if there is one. Yielding drops the query stream when it is over. -/
inductive Consumer
  | collecting
  | yielding (limit : Option Nat)
deriving DecidableEq, Repr

variable {b b' b₁ : Bridge} {h : ReaderHandle} {id : TaskId} {c : Consumer} {cs : List Bytes}
  {e : Reader} {f : Frame} {rest : List Frame}

namespace Consumer

/-- The reading of a consumer that has been given these chunks. -/
def reading : Consumer → List Bytes → Reading
  | collecting, cs => .all cs
  | yielding limit, cs => .upTo limit cs

/-- How the call ends of a consumer that has been given these chunks, and a failure if there was
one. -/
def outcome : Consumer → List Bytes → Option Failure → Outcome
  | collecting, cs, none => .replied (.chunks cs)
  | collecting, _, some f => .failed f
  | yielding _, cs, failure => .replied (.items cs failure)

/-- Whether a consumer wants no more chunks than these. -/
def isSated : Consumer → List Bytes → Bool
  | yielding (some limit), cs => limit ≤ cs.length
  | _, _ => false

/-- Whether the query stream is dropped when the consumer is over. -/
def drops : Consumer → Bool
  | collecting => false
  | yielding _ => true

/-- The place of the handle of a reader when a consumer has ended. If the query stream is kept,
so is the marker that its stream has ended. -/
def leaves : Consumer → Option Failure → ReaderLife
  | collecting, none => .exhausted
  | _, _ => .gone

variable (c : Consumer) (cs : List Bytes)

@[simp] theorem reading_isComplete : (c.reading cs).isComplete = c.isSated cs := by
  cases c with
  | collecting => rfl
  | yielding limit => cases limit <;> rfl

@[simp] theorem reading_reply : Outcome.replied (c.reading cs).reply = c.outcome cs none := by
  cases c <;> rfl

@[simp] theorem reading_outcome (f : Failure) :
    (c.reading cs).outcome f = c.outcome cs (some f) := by
  cases c <;> rfl

@[simp] theorem reading_after (x : Bytes) :
    (c.reading cs).after x = .inr (c.reading (cs ++ [x])) := by
  cases c <;> rfl

theorem outcome_yielding (limit : Option Nat) (cs : List Bytes) (failure : Option Failure) :
    (yielding limit).outcome cs failure = .replied (.items cs failure) := by
  cases failure <;> rfl

/-- A consumer that goes on has just been given one more chunk. -/
theorem goesOn_chunks (h : ReaderHandle) (x : Bytes) :
    (Progress.goesOn (.fresh (.read h (c.reading (cs ++ [x]))))).chunks = [x] := by
  cases c <;> simp [reading, Progress.chunks]

/-- Where the query stream is dropped, nothing is left of the reader. -/
theorem leaves_of_drops (hd : c.drops = true) (failure : Option Failure) :
    c.leaves failure = .gone := by
  cases c with
  | collecting => cases hd
  | yielding limit => cases failure <;> rfl

/-- A consumer that ends is given nothing more. -/
theorem ends_chunks (failure : Option Failure) :
    (Progress.ends (c.outcome cs failure) : Progress Stage Outcome).chunks = [] := by
  cases c <;> cases failure <;> rfl

end Consumer

namespace Bridge

/-! ## Turns -/

/-- What a turn of a consumer does with the frames of a reader. -/
inductive TakesNext (id : TaskId) (h : ReaderHandle) (c : Consumer) (cs : List Bytes) :
    List Frame → Turn → Prop
  | data {x : Bytes} {rest : List Frame} {b' : Bridge} :
    TakesNext id h c cs (.data x :: rest) (.goesOn (.fresh (.read h (c.reading (cs ++ [x])))), b')
  | finish {rest : List Frame} {b' : Bridge} :
    TakesNext id h c cs (.finish :: rest) (.ends (c.outcome cs none), b')
  | failure {message : String} {rest : List Frame} {b' : Bridge} :
    TakesNext id h c cs (.failure message :: rest)
      (.ends (c.outcome cs (some (.transportFailure message))), b')
  | nothing {e : Reader} {b' : Bridge} : (b'.registry.reader h).contents = [] →
    (b'.registry.reader h).channel.frameWaiter = some id →
    TakesNext id h c cs [] (.waits (.awaitingFrame h e (c.reading cs)), b')

/-- The frame that is next is delivered. -/
theorem deliver_takesNext (b : Bridge) (e : Reader) (f : Frame) (rest : List Frame) :
    TakesNext id h c cs (f :: rest) (b.deliver h e (c.reading cs) f) := by
  cases f with
  | data x =>
    unfold deliver readChunk
    dsimp only
    rw [c.reading_after]
    exact .data
  | finish =>
    unfold deliver readEnd endReading
    dsimp only
    rw [c.reading_reply]
    exact .finish
  | failure message =>
    unfold deliver readFailure endReading
    dsimp only
    rw [c.reading_outcome]
    exact .failure

/-- **Whoever has the lock takes the frame that is next**, or waits while the channel is fed. -/
theorem nextFrame_takesNext (hcan : b.registry.isCancelled (e.scope h) = false)
    (hrec : (b.registry.reader h).isReceiving = true)
    (hfed : (b.registry.reader h).contents = [] →
      (b.registry.reader h).channel.isFed = true) :
    TakesNext id h c cs (b.registry.reader h).contents (b.nextFrame id h e (c.reading cs)) := by
  unfold nextFrame
  dsimp only
  cases hheld : (b.registry.reader h).held with
  | some f =>
    have hcontents : (b.registry.reader h).contents =
        f :: (b.registry.reader h).channel.buffer := by
      simp [ReaderStatus.contents, hheld, hrec]
    rw [hcontents]
    exact deliver_takesNext _ e f _
  | none =>
    have hcontents : (b.registry.reader h).contents = (b.registry.reader h).channel.buffer := by
      simp [ReaderStatus.contents, hheld, hrec]
    rw [hcontents] at hfed ⊢
    rw [hrec, hcan, if_neg (by simp), if_neg (by simp)]
    cases hbuf : (b.registry.reader h).channel.buffer with
    | cons f rest => exact deliver_takesNext _ e f rest
    | nil =>
      dsimp only
      rw [if_pos (hfed hbuf)]
      have hstatus := b.registry.reader_modify_of_receiving
        (fun s => { s with channel := { s.channel with frameWaiter := some id } }) hrec
      refine .nothing ?_ ?_
      · show (Registry.reader (b.registry.modifyReader h _) h).contents = []
        rw [hstatus]
        simp [ReaderStatus.contents, hheld, hbuf]
      · show (Registry.reader (b.registry.modifyReader h _) h).channel.frameWaiter = some id
        rw [hstatus]

/-- A reader that a consumer can take frames of: it is live, and does not run dry unless its
channel is fed. -/
structure Flows (b : Bridge) (h : ReaderHandle) : Prop where
  active : (b.registry.reader h).state = .active
  isReceiving : (b.registry.reader h).isReceiving = true
  notCancelled : ∀ e, b.registry.NamesReader h e → b.registry.isCancelled (e.scope h) = false
  fed : (b.registry.reader h).contents = [] → (b.registry.reader h).channel.isFed = true

/-- **A consumer begins its turn**: nobody has the lock. -/
theorem read_takesNext (hf : b.Flows h) (he : b.registry.readers.get? h = some e)
    (hlock : (b.registry.reader h).lock.holder = none) (hsated : c.isSated cs = false) :
    TakesNext id h c cs (b.registry.reader h).contents (b.read id h (c.reading cs)) := by
  have hfind : b.registry.findReader h = .ok (some e) := by
    unfold Registry.findReader
    rw [he]
  have hcan := hf.notCancelled e (namesReader_of_get? he)
  set b₁ := b.modifyReader h fun s => { s with lock := s.lock.enter id } with hb₁
  have hentered : b₁.registry.reader h =
      { b.registry.reader h with lock := (b.registry.reader h).lock.enter id } :=
    b.registry.reader_modify_of_receiving (fun s => { s with lock := s.lock.enter id })
      hf.isReceiving
  have hholder : ((b.registry.reader h).lock.enter id).holder = some id := by
    unfold Turnstile.enter
    rw [hlock]
  have hrec : (b₁.registry.reader h).isReceiving = true := by
    rw [hentered]
    exact hf.isReceiving
  have hfed : (b₁.registry.reader h).contents = [] →
      (b₁.registry.reader h).channel.isFed = true := by
    rw [hentered]
    exact hf.fed
  have hcan₁ : b₁.registry.isCancelled (e.scope h) = false :=
    (modifyReader_isCancelled rfl _).trans hcan
  have htakes : TakesNext id h c cs (b₁.registry.reader h).contents
      (b₁.nextFrame id h e (c.reading cs)) := nextFrame_takesNext hcan₁ hrec hfed
  rw [hentered] at htakes
  unfold read
  rw [c.reading_isComplete, hsated, if_neg (by simp), hfind]
  dsimp only
  rw [hcan, if_neg (by simp)]
  unfold readLocked
  dsimp only
  rw [hentered, if_pos hholder, hf.active]
  cases c <;> exact htakes

/-! ## Between turns -/

/-- Where a consumer stands between its turns: it is to take the next frame, or waits for one, and
then it is in the queue as soon as there is one. -/
inductive Stands (b : Bridge) (id : TaskId) (h : ReaderHandle) (c : Consumer) (cs : List Bytes) :
    Prop
  | ready : b.task? id = some (.call none (.fresh (.read h (c.reading cs)))) → id ∈ b.ready →
    Stands b id h c cs
  | waits {e : Reader} : b.task? id = some (.call none (.awaitingFrame h e (c.reading cs))) →
    b.registry.life h = .active →
    (id ∈ b.ready ∨ (b.registry.reader h).contents = [] ∧
      (b.registry.reader h).channel.frameWaiter = some id) → Stands b id h c cs

/-- A consumer that has been given these chunks is at work. Nobody else reads the reader, which is
there, or its marker. -/
structure Consumes (b : Bridge) (id : TaskId) (h : ReaderHandle) (c : Consumer)
    (cs : List Bytes) : Prop where
  stands : b.Stands id h c cs
  alone : b.ReadBy h id
  there : (b.registry.life h).isThere = true

theorem Consumes.life (hc : b.Consumes id h c cs) :
    b.registry.life h = .active ∨ b.registry.life h = .exhausted :=
  ReaderLife.isThere_iff.1 hc.there

theorem Stands.place (hs : b.Stands id h c cs) : ∃ stage, b.task? id = some (.call none stage) ∧
    stage.reading? = some (h, c.reading cs) := by
  cases hs with
  | ready ht => exact ⟨_, ht, rfl⟩
  | waits ht => exact ⟨_, ht, rfl⟩

/-- How the reading of a consumer ends: with a failure, if it meets one. -/
inductive Ends (b : Bridge) (h : ReaderHandle) (c : Consumer) (cs : List Bytes) :
    Option Failure → Prop
  | sated : c.isSated cs = true → Ends b h c cs none
  | spent : b.registry.life h = .exhausted → Ends b h c cs none
  | finished {rest : List Frame} : b.registry.life h = .active →
    (b.registry.reader h).contents = .finish :: rest → Ends b h c cs none
  | failed {message : String} {rest : List Frame} : b.registry.life h = .active →
    (b.registry.reader h).contents = .failure message :: rest →
    Ends b h c cs (some (.transportFailure message))

/-- What a turn of a consumer comes to. -/
inductive Consumed (b : Bridge) (id : TaskId) (h : ReaderHandle) (c : Consumer)
    (cs : List Bytes) : Turn → Prop
  | ends {failure : Option Failure} {b' : Bridge} : b.Ends h c cs failure →
    Consumed b id h c cs (.ends (c.outcome cs failure), b')
  | goesOn {x : Bytes} {rest : List Frame} {b' : Bridge} : b.registry.life h = .active →
    (b.registry.reader h).contents = .data x :: rest →
    Consumed b id h c cs (.goesOn (.fresh (.read h (c.reading (cs ++ [x])))), b')
  | waits {e : Reader} {b' : Bridge} : b.registry.life h = .active →
    (b.registry.reader h).contents = [] → (b'.registry.reader h).contents = [] →
    (b'.registry.reader h).channel.frameWaiter = some id →
    Consumed b id h c cs (.waits (.awaitingFrame h e (c.reading cs)), b')

theorem TakesNext.consumed {fs : List Frame} {t : Turn} (hd : TakesNext id h c cs fs t)
    (hl : b.registry.life h = .active) (hfs : (b.registry.reader h).contents = fs) :
    b.Consumed id h c cs t := by
  cases hd with
  | data => exact .goesOn hl hfs
  | finish => exact .ends (.finished hl hfs)
  | failure => exact .ends (.failed hl hfs)
  | nothing hempty hwaiter => exact .waits hl hfs hempty hwaiter

theorem state_of_life (hr : RegistryOK b.registry) (hl : b.registry.life h = .active) :
    (b.registry.reader h).state = .active := (hr.active h).2 (Registry.live_of_life hl)

theorem life_of_state (hr : RegistryOK b.registry)
    (ha : (b.registry.reader h).state = .active) : b.registry.life h = .active := by
  obtain ⟨e, he⟩ := (hr.active h).1 ha
  exact Registry.life_of_live he

/-- Frames can be taken of a live reader that is supplied. -/
theorem Supplied.flows {p : Option Pumping} (hb : BridgeOK b none none) (hs : b.Supplied h p)
    (ha : (b.registry.reader h).state = .active) : b.Flows h where
  active := ha
  isReceiving := hb.receiving h ha
  notCancelled e hn := by
    obtain ⟨e', he'⟩ := (hb.registry.active h).1 ha
    rw [← hn.2 e' he']
    exact hb.registry.reader_scope he'
  fed hempty := by
    rw [hs.fed]
    cases p with
    | some q => rfl
    | none =>
      obtain ⟨f, hlast, -⟩ := hs.unfed rfl
      rw [hempty] at hlast
      cases hlast

/-- Nobody has the lock while the only reading there is does not wait. -/
theorem ReadBy.lock_free (hb : b.Reachable) (hr : b.ReadBy h id)
    {reading : Reading} (ht : b.task? id = some (.call none (.fresh (.read h reading)))) :
    (b.registry.reader h).lock.holder = none := by
  cases hholder : (b.registry.reader h).lock.holder with
  | none => rfl
  | some i =>
    have hmem : i ∈ (b.registry.reader h).lock.members :=
      List.mem_append_left _ (Option.mem_toList.2 hholder)
    obtain rfl := hr.members hb i hmem
    have hwaits := hb.locks.waits h i hmem
    rw [ht] at hwaits
    cases hwaits

/-- A reader whose stream has ended is found by its marker. -/
theorem findReader_of_marked {r : Registry} (hl : r.life h = .exhausted) :
    r.findReader h = .ok none := by
  obtain ⟨hnone, hmarked⟩ := Registry.marked_of_life hl
  unfold Registry.findReader
  rw [hnone]
  exact if_pos hmarked

/-- **A turn of a consumer.** -/
theorem turn_consumed {p : Option Pumping} (hb : b.Reachable)
    (hs : (b.registry.reader h).state = .active → b.Supplied h p)
    (hc : b.Consumes id h c cs) {stage : Stage} (ht : b.task? id = some (.call none stage)) :
    b.Consumed id h c cs ((b.takeTurn id).turn id stage) := by
  have hflows : b.registry.life h = .active → (b.takeTurn id).Flows h := fun hl =>
    have ha := state_of_life hb.ok.registry hl
    have hf := (hs ha).flows hb.ok ha
    ⟨hf.active, hf.isReceiving, hf.notCancelled, hf.fed⟩
  cases hc.stands with
  | ready ht' =>
    obtain rfl : Stage.fresh (.read h (c.reading cs)) = stage := by
      rw [ht'] at ht
      cases ht
      rfl
    show b.Consumed id h c cs ((b.takeTurn id).read id h (c.reading cs))
    by_cases hsated : c.isSated cs = true
    · unfold read readEnd endReading
      rw [c.reading_isComplete, if_pos hsated, c.reading_reply]
      exact .ends (.sated hsated)
    have hsated : c.isSated cs = false := by simpa using hsated
    rcases hc.life with hl | hl
    · obtain ⟨e, he⟩ := Registry.live_of_life hl
      have hlock := hc.alone.lock_free hb ht'
      exact (read_takesNext (hflows hl) he hlock hsated).consumed hl rfl
    · have hfind : (b.takeTurn id).registry.findReader h = .ok none := findReader_of_marked hl
      unfold read readEnd endReading
      rw [c.reading_isComplete, hsated, if_neg (by simp), hfind, c.reading_reply]
      exact .ends (.spent hl)
  | @waits e ht' hl =>
    obtain rfl : Stage.awaitingFrame h e (c.reading cs) = stage := by
      rw [ht'] at ht
      cases ht
      rfl
    have hf := hflows hl
    have hname : b.registry.NamesReader h e := hb.ok.task ht'
    have hcan : (b.takeTurn id).registry.isCancelled (e.scope h) = false :=
      hf.notCancelled e hname
    unfold turn
    dsimp only
    rw [hcan, if_neg (by simp)]
    exact (nextFrame_takesNext hcan hf.isReceiving hf.fed).consumed hl rfl

/-! ## The turns of others -/

/-- An event that is not about the only reading there is reads nothing. -/
theorem ReadBy.reads_not (hr : b.ReadBy h id) {ev : Event} (hne : ev.task? ≠ some id)
    (i : TaskId) (t : Task) (hi : ev.task? = some i) (ht : b.task? i = some t) :
    t.reader? ≠ some h := by
  intro hread
  have heq : i = id := hr _ (mem_of_task? ht) hread
  exact hne (hi.trans (congrArg some heq))

theorem ReadBy.readingOf_eq_none (hr : b.ReadBy h id) {i : TaskId} (hne : i ≠ id) :
    b.readingOf h i = none := by
  cases hq : b.readingOf h i with
  | none => rfl
  | some q =>
    obtain ⟨t, stage, ht, hst, hread, -⟩ := readingOf_eq_some hq
    have hother : (Event.turn i).task? ≠ some id := fun heq => hne (Option.some.inj heq)
    refine absurd ?_ (hr.reads_not hother i t rfl ht)
    rw [Task.reader?, hst]
    exact hread

theorem ReadBy.handedIn_eq_nil (hr : b.ReadBy h id) {ev : Event} (hne : ev.task? ≠ some id) :
    b.handedIn h ev = [] := by
  cases ev with
  | turn i =>
    have hi : i ≠ id := fun hi => hne (congrArg some hi)
    simp only [handedIn, hr.readingOf_eq_none hi]
    rfl
  | _ => rfl

theorem meets_reader {x : ReaderHandle} {q : Progress Stage Outcome} {how : StreamEnd}
    (hm : q.meets x = some (h, how)) : x = h := by
  cases q with
  | ends o =>
    obtain ⟨m, -, heq⟩ := Option.map_eq_some_iff.1 hm
    exact congrArg Prod.fst heq
  | waits s => cases hm
  | goesOn s => cases hm

theorem ReadBy.metIn_ne (hr : b.ReadBy h id) {ev : Event} (hne : ev.task? ≠ some id)
    (how : StreamEnd) : b.metIn ev ≠ some (h, how) := by
  intro hmet
  obtain ⟨q, hturn, hq⟩ := Option.bind_eq_some_iff.1 hmet
  cases ev with
  | turn i =>
    obtain ⟨stage, hs, rfl⟩ := Option.map_eq_some_iff.1 hturn
    obtain ⟨t, ht, hst⟩ := Option.bind_eq_some_iff.1 hs
    refine hr.reads_not hne i t rfl ht ?_
    unfold Stage.meets at hq
    split at hq
    · cases hq
    · obtain ⟨⟨x, reading⟩, hreading, hmeets⟩ := Option.bind_eq_some_iff.1 hq
      rw [Task.reader?, hst, Option.bind_some, Stage.reader?_eq, hreading,
        ← meets_reader hmeets]
      rfl
  | _ => cases hturn

/-- A reader that is neither read nor closed in an event keeps its place. -/
theorem ReadBy.life_eq (hb : b.Reachable) (hr : b.ReadBy h id)
    (hthere : (b.registry.life h).isThere = true) {ev : Event} (hne : ev.task? ≠ some id)
    (hclosed : (b.closedIn ev).any (b.registry.takesReader h) = false) :
    (b.step ev).registry.life h = b.registry.life h := by
  rw [step_life hb.ok hb.spent]
  rcases ReaderLife.isThere_iff.1 hthere with hl | hl
  · rw [hl, lifeAfter, hclosed, if_neg, if_neg (hr.metIn_ne hne _)]
    rintro (hmet | hno)
    · exact hr.metIn_ne hne _ hmet
    · cases hno
  · rw [hl, lifeAfter, hclosed]
    rfl

/-- A turn in the background leaves the others in the queue. -/
theorem afterBackground_ready {i : TaskId} {q : Progress Task Unit × Bridge} (hne : i ≠ id)
    (hi : i ∈ q.2.ready) : i ∈ (afterBackground id q).ready := by
  obtain ⟨q, b₁⟩ := q
  have hother : i ∈ b₁.ready.erase id := (List.mem_erase_of_ne hne).2 hi
  cases q with
  | ends u => exact (wakeAll_spawns _ _).ready hother
  | waits t => exact hi
  | goesOn t => exact List.mem_cons_of_mem _ hother

/-- **Others leave a task in the queue.** -/
theorem step_ready (hb : BridgeOK b none none) (hissued : b.registry.readers.Issued h)
    {ev : Event} (hne : ev.task? ≠ some id) (hi : id ∈ b.ready) : id ∈ (b.step ev).ready := by
  by_cases hp : b.PumpsIn h ev
  · obtain ⟨i, entry, stream, frame, rfl, ht⟩ := hp
    have hid : id ≠ i := fun hid => hne (congrArg some hid.symm)
    show id ∈ (b.poll i).2.ready
    rw [poll_pump ht]
    refine afterBackground_ready hid ((pump_spawns _ i h entry stream frame).ready ?_)
    exact (List.mem_erase_of_ne hid).2 hi
  · exact (step_leaves hb hissued hne (b.feedOf_none id) hp).ready hi

/-- A consumer that waits for a frame goes on waiting in a turn of the pump, or is woken. -/
theorem Pumps.waits_on {q : Pumping} {p' : Option Pumping} (hq : b.Pumps h q b' p')
    (hne : id ≠ q.id) (ht : (b.task? id).isSome = true)
    (hempty : (b.registry.reader h).contents = [])
    (hwaiter : (b.registry.reader h).channel.frameWaiter = some id) :
    id ∈ b'.ready ∨ (b'.registry.reader h).contents = [] ∧
      (b'.registry.reader h).channel.frameWaiter = some id := by
  cases hq with
  | waits hstill =>
    exact .inr ⟨hstill.contents.trans hempty, hstill.frameWaiter.trans hwaiter⟩
  | drew hstill =>
    exact .inr ⟨hstill.contents.trans hempty, hstill.frameWaiter.trans hwaiter⟩
  | pushed hfills => exact .inl (hfills.woken id hne ht hwaiter)
  | finished hfills => exact .inl (hfills.woken id hne ht hwaiter)

/-- **What others leave of a consumer.** -/
theorem step_consumes_of_other (hb : b.Reachable) (hissued : b.registry.readers.Issued h)
    (hc : b.Consumes id h c cs) {ev : Event} (hne : ev.task? ≠ some id)
    (hread : ev.reader? ≠ some h)
    (hclosed : (b.closedIn ev).any (b.registry.takesReader h) = false) :
    (b.step ev).Consumes id h c cs := by
  have hlife := hc.alone.life_eq hb hc.there hne hclosed
  have hkeeps := fun t => (step_steps hb.ok ev).keeps id t hne.symm
  refine ⟨?_, after_readBy hb.ok hc.alone [ev] (by simpa using hread), ?_⟩
  · cases hc.stands with
    | ready ht hi => exact .ready (hkeeps _ ht) (step_ready hb.ok hissued hne hi)
    | waits ht hl hi =>
      refine .waits (hkeeps _ ht) (hlife.trans hl) ?_
      rcases hi with hi | ⟨hempty, hwaiter⟩
      · exact .inl (step_ready hb.ok hissued hne hi)
      have ha := state_of_life hb.ok.registry hl
      by_cases hp : b.PumpsIn h ev
      · obtain ⟨i, entry, stream, frame, rfl, hpump⟩ := hp
        obtain ⟨p', -, hpumps⟩ := poll_pumps hb.ok hpump ha
        refine hpumps.waits_on (fun hid => hne (congrArg some hid.symm)) ?_ hempty hwaiter
        rw [ht]
        rfl
      · have hkept := step_keepsReader hb.ok hissued hp (hc.alone.reads_not hne)
        have ha' := state_of_life (hb.step ev).ok.registry (hlife.trans hl)
        rw [hkept.eq_of_active ha']
        exact .inr ⟨hempty, hwaiter⟩
  · rw [hlife]
    exact hc.there

/-! ## Its own turns -/

/-- What is closed in a turn of a consumer. -/
theorem closedIn_consumer {stage : Stage} (ht : b.task? id = some (.call none stage))
    (hreading : stage.reading? = some (h, c.reading cs)) :
    b.closedIn (.turn id) = (c.reading cs).closes h ((b.takeTurn id).turn id stage).1 := by
  rw [closedIn_call ht rfl]
  cases stage with
  | fresh call =>
    cases call <;> cases hreading
    rfl
  | awaitingTurn x e reading =>
    cases hreading
    rfl
  | awaitingFrame x e reading =>
    cases hreading
    rfl
  | _ => cases hreading

theorem metIn_consumer {stage : Stage} (ht : b.task? id = some (.call none stage))
    (hreading : stage.reading? = some (h, c.reading cs)) :
    b.metIn (.turn id) = if stage.isComplete then none
      else ((b.takeTurn id).turn id stage).1.meets h := by
  rw [metIn, turnIn_call ht rfl, Option.bind_some]
  show stage.meets _ = _
  rw [Stage.meets, hreading]
  rfl

/-- A consumer that goes on leaves the reader in its place. -/
theorem life_of_goes_on {stage : Stage} (hb : b.Reachable)
    (ht : b.task? id = some (.call none stage))
    (hreading : stage.reading? = some (h, c.reading cs)) (hl : b.registry.life h = .active)
    (hq : ∀ o, ((b.takeTurn id).turn id stage).1 ≠ .ends o) :
    (b.step (.turn id)).registry.life h = .active := by
  have hmet : b.metIn (.turn id) = none := by
    rw [metIn_consumer ht hreading]
    cases hp : ((b.takeTurn id).turn id stage).1 with
    | ends o => exact absurd hp (hq o)
    | waits s => split <;> rfl
    | goesOn s => split <;> rfl
  have hclosed : b.closedIn (.turn id) = [] := by
    rw [closedIn_consumer ht hreading]
    cases hp : ((b.takeTurn id).turn id stage).1 with
    | ends o => exact absurd hp (hq o)
    | waits s => rfl
    | goesOn s => rfl
  rw [step_life hb.ok hb.spent, hl, lifeAfter, hmet, hclosed]
  rfl

/-- What is closed on its own is closed. -/
theorem takesReader_self (r : Registry) (h : ReaderHandle) :
    [Target.reader h].any (r.takesReader h) = true := by
  simp [Registry.takesReader]

/-- Whoever is there and is closed is gone. -/
theorem lifeAfter_of_closed {l : ReaderLife} {ev : Event} (hl : l.isThere = true)
    (hclosed : (b.closedIn ev).any (b.registry.takesReader h) = true) :
    b.lifeAfter ev h l = .gone := by
  rcases ReaderLife.isThere_iff.1 hl with rfl | rfl
  · exact if_pos (.inr hclosed)
  · exact if_pos hclosed

/-- **What a consumer leaves of the reader** when it ends. -/
theorem life_of_ends {stage : Stage} {failure : Option Failure} (hb : b.Reachable)
    (ht : b.task? id = some (.call none stage))
    (hreading : stage.reading? = some (h, c.reading cs))
    (hthere : (b.registry.life h).isThere = true)
    (hq : ((b.takeTurn id).turn id stage).1 = .ends (c.outcome cs failure))
    (hends : b.Ends h c cs failure) :
    (b.step (.turn id)).registry.life h = c.leaves failure := by
  have hmet := metIn_consumer ht hreading
  have hclosed := closedIn_consumer ht hreading
  rw [hq] at hmet hclosed
  rw [step_life hb.ok hb.spent]
  cases c with
  | yielding limit =>
    -- the query stream is dropped, so the reader is closed
    refine lifeAfter_of_closed hthere ?_
    rw [hclosed]
    exact takesReader_self b.registry h
  | collecting =>
    have hcomplete : stage.isComplete = false := by
      cases stage with
      | fresh call =>
        cases call <;> cases hreading
        rfl
      | _ => rfl
    have hnone : b.closedIn (.turn id) = [] := hclosed
    rw [hcomplete, if_neg (by simp)] at hmet
    cases hends with
    | sated hsated => cases hsated
    | spent hl =>
      rw [hl, lifeAfter, hnone]
      rfl
    | finished hl =>
      have hmet : b.metIn (.turn id) = some (h, .finished) := hmet
      rw [hl, lifeAfter, hnone, hmet]
      simp [Consumer.leaves]
    | failed hl =>
      have hmet : b.metIn (.turn id) = some (h, .failed) := hmet
      rw [hl, lifeAfter, hmet]
      exact if_pos (.inl rfl)

/-- **What becomes of a consumer in its turn.** -/
inductive Polled (b : Bridge) (id : TaskId) (h : ReaderHandle) (c : Consumer) (cs : List Bytes) :
    Option Outcome → Bridge → Prop
  | ends {failure : Option Failure} {b' : Bridge} : b.Ends h c cs failure →
    b.handedIn h (.turn id) = [] → b'.task? id = none → b'.registry.life h = c.leaves failure →
    Polled b id h c cs (some (c.outcome cs failure)) b'
  | goesOn {x : Bytes} {rest : List Frame} {b' : Bridge} : b.registry.life h = .active →
    (b.registry.reader h).contents = .data x :: rest → b.handedIn h (.turn id) = [x] →
    b'.registry.life h = .active → b'.Consumes id h c (cs ++ [x]) →
    Polled b id h c cs none b'
  | waits {b' : Bridge} : b.registry.life h = .active → (b.registry.reader h).contents = [] →
    b.handedIn h (.turn id) = [] → b'.registry.life h = .active → b'.Consumes id h c cs →
    Polled b id h c cs none b'

/-- The chunks that a turn of a reading hands out. -/
theorem handedIn_of_turn {stage : Stage} (ht : b.task? id = some (.call none stage))
    (hread : stage.reader? = some h) :
    b.handedIn h (.turn id) = ((b.takeTurn id).turn id stage).1.chunks := by
  have hturn : b.readingOf h id = some ((b.takeTurn id).turn id stage).1 := by
    unfold readingOf
    rw [ht]
    exact if_pos hread
  rw [handedIn, hturn]
  rfl

/-- A call that goes on is in the queue. -/
theorem pollCall_goesOn {request : Option UInt64} {stage s : Stage}
    (hq : (b.turn id stage).1 = .goesOn s) : id ∈ (b.pollCall id request stage).2.ready := by
  unfold pollCall
  generalize b.turn id stage = t at hq ⊢
  obtain ⟨q, b₁⟩ := t
  obtain rfl : q = .goesOn s := hq
  exact List.mem_cons_self

/-- **A turn of a consumer** ends it with what is next in the stream, or brings it one chunk
further, or makes it wait where nothing is there. -/
theorem poll_consumes {p : Option Pumping} (hb : b.Reachable)
    (hs : (b.registry.reader h).state = .active → b.Supplied h p)
    (hc : b.Consumes id h c cs) : b.Polled id h c cs (b.poll id).1 (b.poll id).2 := by
  obtain ⟨stage, ht, hreading⟩ := hc.stands.place
  have hturn := turn_consumed hb hs hc ht
  have hleaves : ∀ failure, ((b.takeTurn id).turn id stage).1 = .ends (c.outcome cs failure) →
      b.Ends h c cs failure → (b.step (.turn id)).registry.life h = c.leaves failure :=
    fun failure => life_of_ends hb ht hreading hc.there
  have hstays := life_of_goes_on hb ht hreading
  have hhanded := handedIn_of_turn (h := h) ht (by rw [Stage.reader?_eq, hreading]; rfl)
  have halone : (b.poll id).2.ReadBy h id :=
    after_readBy hb.ok hc.alone [.turn id] (by simp [Event.reader?])
  have hcases := poll_call_cases hb.ok ht rfl
  have hregistry : (b.poll id).2.registry = ((b.takeTurn id).turn id stage).2.registry := by
    rw [poll_call ht rfl]
    exact pollCall_registry _ id _ stage
  have hqueued : ∀ s, ((b.takeTurn id).turn id stage).1 = .goesOn s →
      id ∈ (b.poll id).2.ready := by
    intro s hs
    rw [poll_call ht rfl]
    exact pollCall_goesOn hs
  generalize (b.takeTurn id).turn id stage = t at *
  cases hturn with
  | @ends failure b' hends =>
    obtain ⟨o, ho, hanswer, hover⟩ | ⟨s, hs | hs, -⟩ := hcases
    · obtain rfl := Progress.ends.inj ho
      rw [hanswer]
      exact .ends hends (hhanded.trans (c.ends_chunks cs failure)) hover
        (hleaves failure rfl hends)
    · cases hs
    · cases hs
  | @goesOn x rest b' hl hfs =>
    have hl' := hstays hl fun o ho => by cases ho
    obtain ⟨o, ho, -⟩ | ⟨s, hs, hanswer, hplace⟩ := hcases
    · cases ho
    · obtain rfl : Stage.fresh (.read h (c.reading (cs ++ [x]))) = s := by simpa using hs
      rw [hanswer]
      exact .goesOn hl hfs (hhanded.trans (c.goesOn_chunks cs h x)) hl'
        ⟨.ready hplace (hqueued _ rfl), halone, ReaderLife.isThere_iff.2 (.inl hl')⟩
  | @waits e b' hl hfs hempty hwaiter =>
    have hl' := hstays hl fun o ho => by cases ho
    obtain ⟨o, ho, -⟩ | ⟨s, hs, hanswer, hplace⟩ := hcases
    · cases ho
    · obtain rfl : Stage.awaitingFrame h e (c.reading cs) = s := by simpa using hs
      rw [hanswer]
      refine .waits hl hfs hhanded hl'
        ⟨.waits hplace hl' (.inr ?_), halone, ReaderLife.isThere_iff.2 (.inl hl')⟩
      rw [hregistry]
      exact ⟨hempty, hwaiter⟩

/-- **A consumer that is given up** is over. -/
theorem abandon_consumes (hb : b.Reachable) (hc : b.Consumes id h c cs) :
    (b.step (.abandon id)).task? id = none ∧
      (b.step (.abandon id)).registry.life h = if c.drops then .gone else b.registry.life h := by
  obtain ⟨stage, ht, hreading⟩ := hc.stands.place
  have hclosed : b.closedIn (.abandon id) = (c.reading cs).closes h (.ends .crashed) := by
    rw [closedIn, ht]
    show stage.closesAfter _ = _
    rw [Stage.closesAfter, hreading]
    rfl
  refine ⟨?_, ?_⟩
  · exact abandon_over hb.ok ht rfl
  · rw [step_life hb.ok hb.spent]
    cases c with
    | yielding limit =>
      refine lifeAfter_of_closed hc.there ?_
      rw [hclosed]
      exact takesReader_self b.registry h
    | collecting =>
      have hnone : b.closedIn (.abandon id) = [] := hclosed
      have hmet : b.metIn (.abandon id) = none := rfl
      rcases hc.life with hl | hl
      · rw [hl, lifeAfter, hnone, hmet]
        simp [Consumer.drops]
      · rw [hl, lifeAfter, hnone]
        rfl

/-! ## Runs -/

/-- In a run, nobody but a consumer has to do with its reader: nobody else reads it, and neither
it nor what is above it is closed, unless the consumer does it. -/
def LeftTo (b : Bridge) (h : ReaderHandle) (id : TaskId) : List Event → Prop
  | [] => True
  | ev :: es => ev.reader? ≠ some h ∧
    (ev.task? = some id ∨ (b.closedIn ev).any (b.registry.takesReader h) = false) ∧
    (b.step ev).LeftTo h id es

instance decidableLeftTo (h : ReaderHandle) (id : TaskId) (es : List Event) (b : Bridge) :
    Decidable (b.LeftTo h id es) :=
  match es with
  | [] => .isTrue trivial
  | ev :: es =>
    have : Decidable ((b.step ev).LeftTo h id es) := decidableLeftTo h id es (b.step ev)
    inferInstanceAs (Decidable (_ ∧ _ ∧ _))

theorem LeftTo.append {es es' : List Event} (hl : b.LeftTo h id (es ++ es')) :
    b.LeftTo h id es ∧ (b.after es).LeftTo h id es' := by
  induction es generalizing b with
  | nil => exact ⟨trivial, hl⟩
  | cons ev es ih =>
    obtain ⟨hread, hclosed, hrest⟩ := hl
    obtain ⟨h₁, h₂⟩ := ih hrest
    exact ⟨⟨hread, hclosed, h₁⟩, h₂⟩

/-- A consumer is over. If it drops the query stream then, the reader is gone. -/
structure Over (b : Bridge) (id : TaskId) (h : ReaderHandle) (c : Consumer) : Prop where
  done : b.task? id = none
  begun : id < b.nextTask
  alone : b.ReadBy h id
  gone : c.drops = true → b.registry.life h = .gone

/-- A consumer that is over stays so. -/
theorem Over.step (hb : b.Reachable) (ho : b.Over id h c) {ev : Event}
    (hread : ev.reader? ≠ some h) : (b.step ev).Over id h c where
  done := (step_steps hb.ok ev).gone id ho.begun ho.done
  begun := Nat.lt_of_lt_of_le ho.begun (step_steps hb.ok ev).later.nextTask
  alone := after_readBy hb.ok ho.alone [ev] (by simpa using hread)
  gone hd := by rw [step_life hb.ok hb.spent, ho.gone hd, lifeAfter]

/-- Nothing is handed out once the only consumer is over. -/
theorem Over.handedIn_eq_nil (ho : b.Over id h c) (ev : Event) : b.handedIn h ev = [] := by
  by_cases hne : ev.task? = some id
  · cases ev with
    | turn i =>
      obtain rfl := Option.some.inj hne
      simp only [handedIn, readingOf, ho.done]
      rfl
    | _ => rfl
  · exact ho.alone.handedIn_eq_nil hne

/-- **Every event of a run that leaves the reader to the consumer**: the consumer goes on with the
chunks that it was handed, or it is over. -/
theorem step_consumes {p : Option Pumping} (hb : b.Reachable)
    (hs : (b.registry.reader h).state = .active → b.Supplied h p)
    (hissued : b.registry.readers.Issued h) (hc : b.Consumes id h c cs) {ev : Event}
    (hread : ev.reader? ≠ some h)
    (hclosed : ev.task? = some id ∨ (b.closedIn ev).any (b.registry.takesReader h) = false) :
    (b.step ev).Consumes id h c (cs ++ b.handedIn h ev) ∨
      (b.step ev).Over id h c ∧ b.handedIn h ev = [] ∧
        (ev = .turn id ∧ (b.poll id).1.isSome = true ∨ ev = .abandon id) := by
  obtain ⟨stage, ht, -⟩ := hc.stands.place
  have hbegun := Nat.lt_of_lt_of_le (hb.ok.lt_nextTask ht)
    (step_steps hb.ok ev).later.nextTask
  have halone := after_readBy hb.ok hc.alone [ev] (by simpa using hread)
  by_cases hid : ev.task? = some id
  · cases ev with
    | turn i =>
      obtain rfl := Option.some.inj hid
      have hpolled := poll_consumes hb hs hc
      show (b.poll i).2.Consumes i h c _ ∨ (b.poll i).2.Over i h c ∧ _
      change (b.poll i).2.ReadBy h i at halone
      change i < (b.poll i).2.nextTask at hbegun
      generalize (b.poll i).1 = answer, (b.poll i).2 = b' at *
      cases hpolled with
      | @ends failure b' hends hhanded hover hlife =>
        refine .inr ⟨⟨hover, hbegun, halone, fun hd => ?_⟩, hhanded, .inl ⟨rfl, rfl⟩⟩
        exact hlife.trans (c.leaves_of_drops hd failure)
      | goesOn hl hfs hhanded hl' hc' =>
        rw [hhanded]
        exact .inl hc'
      | waits hl hfs hhanded hl' hc' =>
        rw [hhanded, List.append_nil]
        exact .inl hc'
    | abandon i =>
      obtain rfl := Option.some.inj hid
      obtain ⟨hover, hlife⟩ := abandon_consumes hb hc
      refine .inr ⟨⟨hover, hbegun, halone, fun hd => ?_⟩, rfl, .inr rfl⟩
      rw [hlife, if_pos hd]
    | _ => cases hid
  · have hclosed := hclosed.resolve_left hid
    rw [hc.alone.handedIn_eq_nil hid, List.append_nil]
    exact .inl (step_consumes_of_other hb hissued hc hid hread hclosed)

/-- A consumer that is over stays so in every run in which nobody reads the reader. -/
theorem Over.after (hb : b.Reachable) (ho : b.Over id h c) {es : List Event}
    (hleft : b.LeftTo h id es) : (b.after es).Over id h c ∧ b.handedOut h es = [] := by
  induction es generalizing b with
  | nil => exact ⟨ho, rfl⟩
  | cons ev es ih =>
    obtain ⟨hread, -, hrest⟩ := hleft
    obtain ⟨hover, hnone⟩ := ih (.step ev hb) (ho.step hb hread) hrest
    refine ⟨hover, ?_⟩
    rw [handedOut, ho.handedIn_eq_nil, hnone]
    rfl

/-- **Every run that leaves the reader to the consumer.** -/
theorem after_consumes {feed : Option Nat} {p : Option Pumping} {Z T F : List Frame}
    (hb : b.Reachable) (hcarries : b.Carries none h feed p Z T F)
    (hs : (b.registry.reader h).state = .active → b.Supplied h p)
    (hc : b.Consumes id h c cs) {es : List Event} (hleft : b.LeftTo h id es) :
    (b.after es).Consumes id h c (cs ++ b.handedOut h es) ∨ (b.after es).Over id h c := by
  induction es generalizing b p Z T F cs with
  | nil =>
    rw [handedOut, List.append_nil]
    exact .inl hc
  | cons ev es ih =>
    obtain ⟨hread, hclosed, hrest⟩ := hleft
    rcases step_consumes hb hs hcarries.issued hc hread hclosed with hc' | ⟨hover, -⟩
    · obtain ⟨p', Z', T', hcarries', -, hs', -⟩ := step_supplied hb hcarries hs ev
      rw [handedOut, ← List.append_assoc]
      exact ih (.step ev hb) hcarries' hs' hc' hrest
    · exact .inr (hover.after (.step ev hb) hrest).1

end Bridge

end QueryBridge
