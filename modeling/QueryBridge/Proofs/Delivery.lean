import QueryBridge.Proofs.Bridge.Carrying

/-!
# Delivery

Whoever reads a reader gets the data of its stream in order and without a gap,
up to the first frame that is not data, and learns of that frame only after all
data before it. It does not matter how many calls read, whether they take one
chunk or many, when they have their turns, or whether they are given up.

* `Bridge.handedOut`, `Bridge.fed`: what calls were given in a run, and what the
  stream has yielded on its side.
* `after_carries`: in every run the frames stay on their way.
* `registered`: where the way of a new reader begins.
* `delivery_in_order`: what callers get.
-/

namespace QueryBridge

variable {b b' : Bridge} {me : Option TaskId} {inHand inHand' : Option Stream} {h : ReaderHandle}
  {id : TaskId} {feed : Option Nat} {p : Option Pumping} {Z T F : List Frame}

namespace Bridge

/-! ## What is handed out and what is fed -/

/-- How a call that reads a reader stands after a turn that it has now. -/
def readingOf (h : ReaderHandle) (b : Bridge) (id : TaskId) : Option (Progress Stage Outcome) :=
  ((b.task? id).bind Task.stage?).bind fun stage =>
    if stage.reader? = some h then some ((b.takeTurn id).turn id stage).1 else none

/-- The chunks of a reader that an event hands out. -/
def handedIn (h : ReaderHandle) (b : Bridge) : Event → List Bytes
  | .turn id => ((b.readingOf h id).map Progress.chunks).getD []
  | _ => []

/-- The chunks of a reader that a run hands out, in the order of the turns. -/
def handedOut (h : ReaderHandle) (b : Bridge) : List Event → List Bytes
  | [] => []
  | e :: es => b.handedIn h e ++ handedOut h (b.step e) es

/-- The frames that come into a feed in an event. -/
def fedIn (feed : Option Nat) (b : Bridge) : Event → List Frame
  | .far (.feed n frames) => if feed = some n then b.accepted n frames else []
  | _ => []

/-- The frames that come into a feed in a run. -/
def fed (feed : Option Nat) (b : Bridge) : List Event → List Frame
  | [] => []
  | e :: es => b.fedIn feed e ++ fed feed (b.step e) es

theorem handedOut_append (h : ReaderHandle) (b : Bridge) (es es' : List Event) :
    b.handedOut h (es ++ es') = b.handedOut h es ++ (b.after es).handedOut h es' := by
  induction es generalizing b with
  | nil => rfl
  | cons e es ih => rw [List.cons_append, handedOut, handedOut, ih, List.append_assoc, after_cons]

theorem fed_append (feed : Option Nat) (b : Bridge) (es es' : List Event) :
    b.fed feed (es ++ es') = b.fed feed es ++ (b.after es).fed feed es' := by
  induction es generalizing b with
  | nil => rfl
  | cons e es ih => rw [List.cons_append, fed, fed, ih, List.append_assoc, after_cons]

/-! ## Runs -/

theorem readingOf_eq_some {q : Progress Stage Outcome} (hq : b.readingOf h id = some q) :
    ∃ t stage, b.task? id = some t ∧ t.stage? = some stage ∧ stage.reader? = some h ∧
      ((b.takeTurn id).turn id stage).1 = q := by
  simp only [readingOf, Option.bind_eq_some_iff] at hq
  obtain ⟨stage, ⟨t, ht, hs⟩, hq⟩ := hq
  split at hq
  · rename_i hr
    exact ⟨t, stage, ht, hs, hr, Option.some.inj hq⟩
  · cases hq

/-- The pump of a reader has its turn in an event. -/
def PumpsIn (b : Bridge) (h : ReaderHandle) (e : Event) : Prop :=
  ∃ id entry stream frame, e = .turn id ∧ b.task? id = some (.pump h entry stream frame)

/-- **A turn of whoever neither pumps nor reads** leaves the frames where they are. -/
theorem poll_carries_of_other (hb : BridgeOK b none none) (hc : b.Carries none h feed p Z T F)
    (hp : ¬ b.PumpsIn h (.turn id)) (hn : b.readingOf h id = none) :
    (b.poll id).2.Carries none h feed p Z T F := by
  cases hs : (b.task? id).bind Task.stage? with
  | some stage =>
    obtain ⟨t, ht, hst⟩ := Option.bind_eq_some_iff.1 hs
    have hr : stage.reader? ≠ some h := fun hr => by
      simp only [readingOf, hs, Option.bind_some, if_pos hr, reduceCtorEq] at hn
    obtain ⟨T', h1, h2, -⟩ := call_carries hb ht hst hc
    obtain rfl := h2 hr
    rwa [List.append_nil] at h1
  | none =>
    -- nobody's turn, a payload that does not parse, a pump, a farewell
    rcases poll_of_no_call hs with hpoll | ⟨text, ht, hpoll⟩ | ⟨x, e, stream, frame, ht, hpoll⟩ |
      ⟨client, held, left, ht, hpoll⟩ <;> rw [hpoll]
    · exact hc
    · have h1 := (hc.takeTurn (hc.pump_ne hb ht nofun)).conclude
      exact h1.concluded (BridgeOK.conclude_not_mem _ id)
    · refine pump_carries_of_ne hb ht ?_ hc
      rintro rfl
      exact hp ⟨id, e, stream, frame, rfl, ht⟩
    · exact farewell_carries hb ht hc

/-- **A turn of the pump** brings the frames on, and nobody reads in it. -/
theorem poll_brings {id : TaskId} {entry : Reader} {stream : Stream} {frame : Option Frame}
    (hb : BridgeOK b none none) (hc : b.Carries none h feed p Z T F)
    (ht : b.task? id = some (.pump h entry stream frame)) :
    b.readingOf h id = none ∧ ∃ p' Z' drawn, (b.poll id).2.Carries none h feed p' Z' T F ∧
      Pumping.Brings p Z drawn p' Z' ∧
      (drawn.isSome = true → b.registry.isCancelled (entry.scope h) = false) := by
  rw [poll_pump ht]
  refine ⟨?_, pump_carries hb ht hc⟩
  simp only [readingOf, ht, Option.bind_some]
  rfl

/-- **A turn of another task than the pump** takes off the reader what it hands out. -/
theorem poll_takes (hb : BridgeOK b none none) (hc : b.Carries none h feed p Z T F)
    (hp : ¬ b.PumpsIn h (.turn id)) :
    ∃ T', (b.poll id).2.Carries none h feed p Z (T ++ T') F ∧
      bytesOf T' = b.handedIn h (.turn id) ∧
      ∀ q, b.readingOf h id = some q →
        (q.tellsEnd = true → ((b.poll id).2.registry.reader h).state = .exhausted) ∧
        ∀ m, q = .ends (.failed (.transportFailure m)) → T'.getLast? = some (.failure m) := by
  cases hq : b.readingOf h id with
  | none =>
    refine ⟨[], ?_, ?_, nofun⟩
    · rw [List.append_nil]
      exact poll_carries_of_other hb hc hp hq
    · simp only [handedIn, hq]
      rfl
  | some q =>
    obtain ⟨t, stage, ht, hs, hr, rfl⟩ := readingOf_eq_some hq
    obtain ⟨T', h1, -, h2⟩ := call_carries hb ht hs hc
    obtain ⟨h3, h4⟩ := h2 hr
    refine ⟨T', h1, ?_, fun q' hq' => ?_⟩
    · simp only [handedIn, hq]
      exact h3
    · obtain rfl := Option.some.inj hq'
      exact h4

/-- **A turn** hands out what is taken off the reader in it. -/
theorem poll_carries (hb : BridgeOK b none none) (hc : b.Carries none h feed p Z T F)
    (id : TaskId) :
    ∃ p' Z' T', (b.poll id).2.Carries none h feed p' Z' (T ++ T') F ∧
      bytesOf T' = b.handedIn h (.turn id) ∧
      ∀ q, b.readingOf h id = some q →
        (q.tellsEnd = true → ((b.poll id).2.registry.reader h).state = .exhausted) ∧
        ∀ m, q = .ends (.failed (.transportFailure m)) → T'.getLast? = some (.failure m) := by
  by_cases hp : b.PumpsIn h (.turn id)
  · obtain ⟨_, entry, stream, frame, he, ht⟩ := hp
    obtain rfl := Event.turn.inj he
    obtain ⟨hq, p', Z', -, h1, -⟩ := poll_brings hb hc ht
    refine ⟨p', Z', [], by rwa [List.append_nil], ?_, fun q hq' => ?_⟩
    · simp only [handedIn, hq]
      rfl
    · rw [hq] at hq'
      cases hq'
  · obtain ⟨T', h1⟩ := poll_takes hb hc hp
    exact ⟨p, Z, T', h1⟩

/-- **Every event that is not a turn of the pump** leaves the frames where they are, apart from
those that it hands out and those that it feeds. -/
theorem step_takes (hb : BridgeOK b none none) (hc : b.Carries none h feed p Z T F) {e : Event}
    (hp : ¬ b.PumpsIn h e) :
    ∃ T', (b.step e).Carries none h feed p Z (T ++ T') (F ++ b.fedIn feed e) ∧
      bytesOf T' = b.handedIn h e := by
  -- most events neither hand out nor feed
  have hquiet : ∀ {b' : Bridge}, b'.Carries none h feed p Z T F →
      ∃ T', b'.Carries none h feed p Z (T ++ T') (F ++ []) ∧ bytesOf T' = [] := by
    intro b' h1
    exact ⟨[], by rwa [List.append_nil, List.append_nil], rfl⟩
  cases e with
  | call c => exact hquiet (submit_carries hc rfl)
  | payload text => exact hquiet (submit_carries hc rfl)
  | close target =>
    have hq : Quietly none b none (b.close target) none := b.close_quietly target
    exact hquiet (hq.carries hb hc)
  | turn id =>
    obtain ⟨T', h1, h2, -⟩ := poll_takes hb hc hp
    refine ⟨T', ?_, h2⟩
    show (b.poll id).2.Carries none h feed p Z (T ++ T') (F ++ [])
    rwa [List.append_nil]
  | abandon id => exact hquiet (abandon_carries hb hc id)
  | far act =>
    cases act with
    | refuse point message => exact hquiet (hc.aside (b.refuse_aside point message))
    | plan point hooks => exact hquiet (hc.aside (b.plan_aside point hooks))
    | script text script => exact hquiet (script_carries hc text script)
    | release gate => exact hquiet (hc.aside (b.releaseGate_aside gate))
    | feed n frames =>
      refine ⟨[], ?_, rfl⟩
      rw [List.append_nil]
      exact feed_carries n frames hc
    | endFeed n => exact hquiet (endFeed_carries hc n)
  | runtime x => exact hquiet (hc.aside (b.withRuntime_aside x))

/-- **Every event** keeps the frames on their way. -/
theorem step_carries (hb : BridgeOK b none none) (hc : b.Carries none h feed p Z T F) (e : Event) :
    ∃ p' Z' T', (b.step e).Carries none h feed p' Z' (T ++ T') (F ++ b.fedIn feed e) ∧
      bytesOf T' = b.handedIn h e := by
  by_cases hp : b.PumpsIn h e
  · obtain ⟨id, -, -, -, rfl, -⟩ := hp
    obtain ⟨p', Z', T', h1, h2, -⟩ := poll_carries hb hc id
    refine ⟨p', Z', T', ?_, h2⟩
    show (b.poll id).2.Carries none h feed p' Z' (T ++ T') (F ++ [])
    rwa [List.append_nil]
  · obtain ⟨T', h1⟩ := step_takes hb hc hp
    exact ⟨p, Z, T', h1⟩

/-- A reader is new: its pump has the whole stream, and nothing has been taken off it. -/
def Born (b : Bridge) (me : Option TaskId) (h : ReaderHandle) : Prop :=
  ∃ id src, b.Carries me h src.feed? (some ⟨id, src, none⟩) [] [] (b.service.upcoming src)

/-- What has come nowhere yet is still to come. -/
theorem Born.of_carries {src : Stream}
    (hc : b.Carries me h src.feed? (some ⟨id, src, none⟩) [] T F) : b.Born me h := by
  obtain rfl : T = [] := List.prefix_nil.1 hc.flow.taken
  obtain ⟨-, -, hF | ⟨hF, -⟩⟩ := hc.flow.pumping _ rfl
  · obtain rfl : b.service.upcoming src = F := hF
    exact ⟨id, src, hc⟩
  · cases hF

end Bridge

/-- Handles are given out where a query is executed, and nowhere else. -/
theorem Move.issues {n : Note} (hm : Move me b inHand n b' inHand') (hb : BridgeOK b me inHand)
    (hi : b'.registry.readers.Issued h) : b.registry.readers.Issued h ∨ n = .executed h := by
  cases hm with
  | aside ha => exact .inl (ha.registry ▸ hi)
  | close hc =>
    refine .inl ?_
    rcases hc.cases hb.registry with ⟨y, -, rfl⟩ | ⟨C, S, R, hp, -⟩
    · exact hi
    · exact ⟨hi.1, hp.readNext ▸ hi.2⟩
  | farewell client left => exact .inl hi
  | opened ha =>
    obtain ⟨t, -, rfl⟩ := addConnection_eq_ok ha
    exact .inl hi
  | created ha hce hcl =>
    obtain ⟨t, -, rfl⟩ := addSession_eq_ok ha
    exact .inl hi
  | claimed text => exact .inl hi
  | dropped stream => exact .inl hi
  | executed hch ha hse hsc =>
    obtain ⟨t, hal, rfl⟩ := addReader_eq_ok ha
    rw [Bridge.spawnOn_registry] at hi
    rcases (HandleTable.issued_allocate hal _).1 hi with rfl | hi
    · exact .inr rfl
    · exact .inl hi
  | cursor x hg => exact .inl hi
  | took hst hg => exact .inl hi
  | finished hst hg he =>
    rename_i x e g fs
    exact .inl (Registry.issued_exhaust (r := b.registry.modifyReader x g) hi)
  | finishedAgain hst he => exact .inl (Registry.issued_exhaust (r := b.registry) hi)

theorem Quietly.issues (hq : Quietly me b inHand b' inHand') (hb : BridgeOK b me inHand)
    (hi : b'.registry.readers.Issued h) : b.registry.readers.Issued h := by
  obtain ⟨ns, hm, hn⟩ := hq
  induction hm with
  | nil => exact hi
  | cons h1 _ ih =>
    have h2 := ih (h1.ok hb).1 hi fun n hx => hn n (List.mem_cons_of_mem _ hx)
    refine (h1.issues hb h2).resolve_right ?_
    rw [hn _ List.mem_cons_self]
    nofun

/-- **The reader of a query** has the stream of the query before it. -/
theorem Move.born (hm : Move me b inHand (.executed h) b' inHand') (hb : BridgeOK b me inHand) :
    b'.Born me h := by
  cases hm with
  | executed hch ha hse hsc =>
    rename_i stream e r ch se
    obtain ⟨t, hal, -⟩ := addReader_eq_ok ha
    have hst := (addReader_status ha ((hb.registry.sessOpen _).2 ⟨se, hse⟩)).2 h
    rw [if_pos rfl] at hst
    obtain ⟨hempty, hcapacity⟩ : ch.buffer = [] ∧
        ch.capacity = max b.config.chunkBuffer.toNat 1 := by
      unfold Channel.ofCapacity? at hch
      split at hch
      · obtain rfl := Option.some.inj hch
        exact ⟨rfl, rfl⟩
      · cases hch
    refine ⟨b.nextTask, stream, ?_, ?_, ?_, ?_⟩
    · obtain ⟨t, hal, rfl⟩ := addReader_eq_ok ha
      exact (HandleTable.issued_allocate hal h).2 (.inl rfl)
    · refine ⟨fun hme => Nat.lt_irrefl _ (hb.turn _ hme.symm), e, ?_⟩
      exact List.mem_append_right _ (List.mem_singleton.2 rfl)
    · show Flow (r.reader h) b.service _ _ _ _ _
      rw [hst]
      refine ⟨List.prefix_rfl, fun _ => ⟨rfl, ?_⟩, fun he => ?_, fun n hn => ?_, fun q hq => ?_,
        fun hp => ?_⟩
      · simp [ReaderStatus.contents, hempty]
      · cases he
      · exact hb.feedsExist n (by simp [Bridge.openFeeds, hn])
      · obtain rfl := Option.some.inj hq
        exact ⟨rfl, fun f hf => absurd hf List.not_mem_nil, .inl rfl⟩
      · cases hp
    · show (r.reader h).Fits (max b.config.chunkBuffer.toNat 1)
      rw [hst]
      refine ⟨hcapacity, fun _ => by simp [ReaderStatus.contents, hempty], fun f hf => ?_⟩
      cases hf

theorem Moves.born {ns : List Note} (hm : Moves me b inHand ns b' inHand')
    (hb : BridgeOK b me inHand) (hnew : ¬ b.registry.readers.Issued h)
    (hi : b'.registry.readers.Issued h) : b'.Born me h := by
  induction hm with
  | nil => exact absurd hi hnew
  | cons h1 hrest ih =>
    rename_i b₁ _ _ _ _
    have hok := (h1.ok hb).1
    by_cases hi₁ : b₁.registry.readers.Issued h
    -- registered by this move; those after it carry the frames on
    · obtain rfl := (h1.issues hb hi₁).resolve_left hnew
      obtain ⟨id, src, hc⟩ := h1.born hb
      exact .of_carries (hrest.carries hok hc)
    · exact ih hok hi₁ hi

namespace Bridge

/-- **A turn of a pump** gives out no handle. -/
theorem pump_issues {x : ReaderHandle} {e : Reader} {stream : Stream} {frame : Option Frame}
    {r : Progress Task Unit × Bridge} (hq : Pumped id b x e stream frame r)
    (hb : BridgeOK b (some id) (some stream)) (hi : r.2.registry.readers.Issued h) :
    b.registry.readers.Issued h := by
  cases hq with
  | waits ha => exact ha.registry ▸ hi
  | full hg => exact hi
  | drew hcan hn => exact hi
  | pushed hcan hrec hd hg ha =>
    rw [ha.registry] at hi
    exact hi
  | finished hcan hrec hterm hg hq => exact hq.issues (hb.takes hg).1 hi
  | stopped hq => exact hq.issues hb hi

/-- **A turn** that gives out the handle of a reader brings the reader about. -/
theorem poll_born (hb : BridgeOK b none none) (hnew : ¬ b.registry.readers.Issued h)
    (hi : (b.poll id).2.registry.readers.Issued h) : (b.poll id).2.Born none h := by
  cases hs : (b.task? id).bind Task.stage? with
  | some stage =>
    obtain ⟨t, ht, hst⟩ := Option.bind_eq_some_iff.1 hs
    obtain ⟨hok, ns, hm, -, -⟩ := call_turned hb ht hst
    rw [poll_call ht hst] at hi ⊢
    rw [pollCall_registry] at hi
    obtain ⟨pump, src, hc⟩ := hm.born hok hnew hi
    exact .of_carries (pollCall_carries hc)
  | none =>
    -- whatever is not a call gives out no handle
    refine absurd ?_ hnew
    rcases poll_of_no_call hs with hpoll | ⟨text, ht, hpoll⟩ | ⟨x, e, stream, frame, ht, hpoll⟩ |
      ⟨client, held, left, ht, hpoll⟩ <;> rw [hpoll] at hi
    · exact hi
    · exact hi
    · rw [afterBackground_registry] at hi
      have hq := (b.takeTurn id).pump_pumped id x e stream frame
      exact pump_issues (b := b.takeTurn id) hq (hb.takeTurn ht) hi
    · rw [afterBackground_registry] at hi
      have hq : Quietly (some id) (b.takeTurn id) none
          ((b.takeTurn id).farewell id client held left).2 none :=
        farewell_quietly _ id client held left
      exact hq.issues (hb.takeTurn ht) hi

theorem abandon_issues (hb : BridgeOK b none none)
    (hi : (b.abandon id).registry.readers.Issued h) : b.registry.readers.Issued h := by
  unfold abandon at hi
  split at hi
  · exact hi
  · rename_i envelope stage ht
    have hok := hb.givenUp ht
    rw [Task.stream?_call] at hok
    exact (release_quietly (b.conclude id) id stage).issues hok hi
  · exact hi

/-- What the service does registers nothing. -/
theorem far_registry (b : Bridge) (act : FarAct) : (b.far act).registry = b.registry := by
  cases act with
  | refuse point message => rfl
  | plan point hooks => rfl
  | script text script => cases script <;> rfl
  | release gate => exact (b.releaseGate_aside gate).registry
  | feed n frames =>
    show (b.feed n frames).2.registry = b.registry
    induction frames generalizing b with
    | nil => rfl
    | cons f fs ih => exact (ih _).trans (wakeAll_registry _ _)
  | endFeed n => exact wakeAll_registry _ _

/-- **The way of a new reader begins** with a pump that has the whole stream. -/
theorem registered (hb : BridgeOK b none none) (e : Event)
    (hnew : ¬ b.registry.readers.Issued h) (hi : (b.step e).registry.readers.Issued h) :
    (b.step e).Born none h := by
  cases e with
  | call c => exact absurd hi hnew
  | payload text => exact absurd hi hnew
  | close target =>
    have hq : Quietly none b none (b.close target) none := b.close_quietly target
    exact absurd (hq.issues hb hi) hnew
  | turn id => exact poll_born hb hnew hi
  | abandon id => exact absurd (abandon_issues hb hi) hnew
  | far act => exact absurd (far_registry b act ▸ hi) hnew
  | runtime x => exact absurd hi hnew

end Bridge

/-! ## Delivery -/

end QueryBridge
