import QueryBridge.Proofs.Delivery

/-!
# Read-ahead

The pump of a reader does not run away from those who read: of the frames that
it has taken off the stream, all but as many as the channel has room for, and
one in hand, have been handed out. It takes nothing after the first frame that
is not data, and nothing once the reader is cancelled.

* `Bridge.drawn`: what the pump takes off the stream in a run.
* `Bridge.Draws`: where the frames are that it has taken.
* `read_ahead_bounded`: how far it is ahead.
-/

namespace QueryBridge

variable {b b' : Bridge} {pump : TaskId} {h : ReaderHandle} {feed : Option Nat}
  {p p' : Option Pumping} {Z Z' T F D : List Frame}

/-! ## What is drawn -/

/-- The frame that a task has in hand as the pump of a reader. -/
def Task.inHand? (h : ReaderHandle) : Task → Option Frame
  | .pump x _ _ frame => if x = h then frame else none
  | .payload _ | .call .. | .farewell .. => none

namespace Bridge

/-- The frame that the pump of a reader has in hand, if it is the task of that number. -/
def inHand? (h : ReaderHandle) (b : Bridge) (id : TaskId) : Option Frame :=
  (b.task? id).bind (Task.inHand? h)

/-- The frame that the pump of a reader takes off its stream in an event: it has one in hand
afterwards, and had none before. -/
def drawnIn (h : ReaderHandle) (b : Bridge) (e : Event) : Option Frame :=
  match e with
  | .turn id => if (b.inHand? h id).isNone then (b.step e).inHand? h id else none
  | _ => none

/-- The frames that the pump of a reader takes off its stream in a run. -/
def drawn (h : ReaderHandle) (b : Bridge) : List Event → List Frame
  | [] => []
  | e :: es => (b.drawnIn h e).toList ++ drawn h (b.step e) es

theorem drawn_append (h : ReaderHandle) (es es' : List Event) (b : Bridge) :
    b.drawn h (es ++ es') = b.drawn h es ++ (b.after es).drawn h es' := by
  induction es generalizing b with
  | nil => rfl
  | cons e es ih =>
    show (b.drawnIn h e).toList ++ (b.step e).drawn h (es ++ es') =
      (b.drawnIn h e).toList ++ (b.step e).drawn h es ++ ((b.step e).after es).drawn h es'
    rw [ih, List.append_assoc]

/-- Only the pump of the reader has a frame in hand for it. -/
theorem PumpAt.inHand? (hp : b.PumpAt none h p) (hb : BridgeOK b none none) (id : TaskId) :
    b.inHand? h id = p.bind fun q => if q.id = id then q.inHand else none := by
  -- whoever has one in hand is the pump
  have hpump : ∀ t, b.task? id = some t → ¬ t.pumped? = some h → b.inHand? h id = none := by
    intro t ht hn
    rw [Bridge.inHand?, ht, Option.bind_some]
    cases t with
    | pump x e stream frame => exact if_neg fun hx => hn (congrArg some hx)
    | payload text => rfl
    | call request stage => rfl
    | farewell client held left => rfl
  cases p with
  | none =>
    cases ht : b.task? id with
    | none => rw [Bridge.inHand?, ht]; rfl
    | some t => exact hpump t ht (hp _ (mem_of_task? ht) nofun)
  | some q =>
    obtain ⟨-, e, he⟩ := hp
    rw [Option.bind_some]
    split
    · rename_i hid
      rw [Bridge.inHand?, ← hid, task?_of_mem hb.nodup he]
      exact if_pos rfl
    · rename_i hid
      cases ht : b.task? id with
      | none => rw [Bridge.inHand?, ht]; rfl
      | some t =>
        refine hpump t ht fun hpt => hid ?_
        exact congrArg Prod.fst (hb.pump_unique he (mem_of_task? ht) rfl hpt)

/-- Nothing is taken off the stream in an event that is not a turn of the pump. -/
theorem drawnIn_of_other {e : Event} (hb : BridgeOK b none none)
    (hb' : BridgeOK (b.step e) none none) (hp : b.PumpAt none h p)
    (hp' : (b.step e).PumpAt none h p) : b.drawnIn h e = none := by
  cases e with
  | turn id =>
    rw [drawnIn, hp.inHand? hb, hp'.inHand? hb', ite_eq_right_iff]
    exact Option.isNone_iff_eq_none.1
  | _ => rfl

/-- What a turn of the pump says that it takes off the stream is what it takes. -/
theorem drawnIn_of_brings {drawn : Option Frame} {id : TaskId} {t : Task}
    (hb : BridgeOK b none none) (hb' : BridgeOK (b.step (.turn id)) none none)
    (ht : b.task? id = some t) (hpt : t.pumped? = some h) (hp : b.PumpAt none h p)
    (hp' : (b.step (.turn id)).PumpAt none h p') (hq : Pumping.Brings p Z drawn p' Z') :
    b.drawnIn h (.turn id) = drawn := by
  rw [drawnIn, hp.inHand? hb, hp'.inHand? hb']
  -- the pump is the task whose turn it is
  have hid : ∀ q, p = some q → q.id = id := by
    rintro q rfl
    obtain ⟨-, e, he⟩ := hp
    exact congrArg Prod.fst (hb.pump_unique he (mem_of_task? ht) rfl hpt)
  cases hq with
  | waits q Z => simp [hid q rfl]
  | drew =>
    obtain rfl := hid _ rfl
    simp
  | pushed =>
    obtain rfl := hid _ rfl
    simp
  | finished =>
    obtain rfl := hid _ rfl
    simp
  | stopped q Z => simp

/-! ## Where it is -/

/-- The pump of a reader, which is the task of that number, has taken `D` off the stream. As long as
it is at work, what it has not put into the channel is in its hand. When it is over, one frame at
most was lost with it. -/
structure Draws (b : Bridge) (pump : TaskId) (h : ReaderHandle) (feed : Option Nat)
    (p : Option Pumping) (Z T F D : List Frame) : Prop where
  carries : b.Carries none h feed p Z T F
  working : ∀ q, p = some q → q.id = pump ∧ D = Z ++ q.inHand.toList
  stopped : p = none → Z <+: D ∧ D.length ≤ Z.length + 1 ∧ ∀ f ∈ D.dropLast, f.isData = true

namespace Draws

theorem put (hd : b.Draws pump h feed p Z T F D) : Z <+: D ∧ D.length ≤ Z.length + 1 := by
  cases p with
  | none =>
    obtain ⟨hZ, hl, -⟩ := hd.stopped rfl
    exact ⟨hZ, hl⟩
  | some q =>
    rw [(hd.working q rfl).2]
    refine ⟨List.prefix_append _ _, ?_⟩
    rw [List.length_append]
    cases q.inHand <;> simp

/-- The pump takes nothing after the first frame that is not data. -/
theorem data (hd : b.Draws pump h feed p Z T F D) : ∀ f ∈ D.dropLast, f.isData = true := by
  cases p with
  | none => exact (hd.stopped rfl).2.2
  | some q =>
    obtain ⟨-, hdata, -⟩ := hd.carries.flow.pumping q rfl
    rw [(hd.working q rfl).2]
    intro f hf
    refine hdata f ?_
    cases hin : q.inHand with
    | none =>
      rw [hin, Option.toList_none, List.append_nil] at hf
      exact (List.dropLast_sublist Z).subset hf
    | some x =>
      rw [hin, Option.toList_some, List.dropLast_concat] at hf
      exact hf

/-- What the pump has taken is what is missing from the stream. -/
theorem stream {q : Pumping} (hd : b.Draws pump h feed (some q) Z T F D) :
    D ++ b.service.upcoming q.stream = F ∨ D = F ++ [.finish] := by
  obtain ⟨-, -, hF⟩ := hd.carries.flow.pumping q rfl
  rw [(hd.working q rfl).2]
  rcases hF with hF | ⟨hin, hZ, -⟩
  · exact .inl hF
  · rw [hin, hZ]
    exact .inr rfl

/-- All that was taken off the reader is data, or the last of it is the last frame of all. -/
theorem handed (hd : b.Draws pump h feed p Z T F D) :
    (bytesOf T).length = T.length ∨ Z = T ∧ T.length ≤ (bytesOf T).length + 1 := by
  have hflow := hd.carries.flow
  cases hl : T.getLast? with
  | none =>
    rw [List.getLast?_eq_none_iff.1 hl]
    exact .inl rfl
  | some f =>
    have hT : T = T.dropLast ++ [f] := (List.dropLast_append_getLast? f hl).symm
    have hdrop : ∀ x ∈ T.dropLast, x.isData = true := by
      obtain ⟨rest, hZ⟩ := hflow.taken
      intro x hx
      refine hflow.data x ?_
      rw [← hZ, hT, List.append_assoc, List.singleton_append, List.dropLast_append_cons]
      exact List.mem_append_left _ hx
    have hlength := bytesOf_length hdrop
    cases ht : f.isTerminal with
    | false =>
      refine .inl (bytesOf_length fun x hx => ?_)
      rw [hT] at hx
      rcases List.mem_append.1 hx with hx | hx
      · exact hdrop x hx
      · simpa [List.mem_singleton.1 hx, Frame.isTerminal] using ht
    | true =>
      refine .inr ⟨(hflow.last hl ht).2.1, ?_⟩
      rw [hT, bytesOf_append, List.length_append, List.length_append, hlength]
      simp

/-- **As long as the reader is live**, what was taken off the stream and not handed out is in the
channel, held back, or in the hand of the pump. -/
theorem ahead (hd : b.Draws pump h feed p Z T F D) (hs : (b.registry.reader h).state = .active) :
    D.length ≤ (bytesOf T).length + max b.config.chunkBuffer.toNat 1 + 1 := by
  obtain ⟨-, hl⟩ := hd.put
  obtain ⟨-, hZ⟩ := hd.carries.flow.active hs
  have hroom := hd.carries.fits.contents hs
  have hlength : Z.length = T.length + (b.registry.reader h).contents.length := by
    rw [hZ, List.length_append]
  rcases hd.handed with hT | ⟨hZT, hT⟩
  · omega
  · rw [hZT] at hl
    omega

/-- **A turn of the pump** takes off the stream what it says. -/
theorem brings {b' : Bridge} {drawn : Option Frame} (hd : b.Draws pump h feed p Z T F D)
    (hc : b'.Carries none h feed p' Z' T F) (hq : Pumping.Brings p Z drawn p' Z') :
    b'.Draws pump h feed p' Z' T F (D ++ drawn.toList) := by
  have hput := hd.put
  have hdata := hd.data
  cases hq with
  | waits q Z =>
    obtain ⟨hid, rfl⟩ := hd.working q rfl
    refine ⟨hc, fun q' hq' => ?_, nofun⟩
    obtain rfl := Option.some.inj hq'
    exact ⟨hid, List.append_nil _⟩
  | drew =>
    obtain ⟨hid, rfl⟩ := hd.working _ rfl
    refine ⟨hc, fun q' hq' => ?_, nofun⟩
    obtain rfl := Option.some.inj hq'
    exact ⟨hid, by simp⟩
  | pushed =>
    obtain ⟨hid, rfl⟩ := hd.working _ rfl
    refine ⟨hc, fun q' hq' => ?_, nofun⟩
    obtain rfl := Option.some.inj hq'
    exact ⟨hid, by simp⟩
  | finished =>
    obtain ⟨-, rfl⟩ := hd.working _ rfl
    refine ⟨hc, nofun, fun _ => ?_⟩
    rw [Option.toList_none, List.append_nil]
    exact ⟨List.prefix_rfl, Nat.le_succ _, hdata⟩
  | stopped q Z =>
    refine ⟨hc, nofun, fun _ => ?_⟩
    rw [Option.toList_none, List.append_nil]
    exact ⟨hput.1, hput.2, hdata⟩

end Draws

/-! ## Runs -/

/-- **Every event** leaves what was taken off the stream on its way. -/
theorem step_draws (hb : BridgeOK b none none) (hd : b.Draws pump h feed p Z T F D) (e : Event) :
    ∃ p' Z' T', (b.step e).Draws pump h feed p' Z' (T ++ T') (F ++ b.fedIn feed e)
      (D ++ (b.drawnIn h e).toList) ∧ bytesOf T' = b.handedIn h e := by
  have hb' := (step_steps hb e).ok
  by_cases hp : b.PumpsIn h e
  · obtain ⟨id, entry, stream, frame, rfl, ht⟩ := hp
    obtain ⟨hnot, p', Z', drawn, hc, hbrings, -⟩ := poll_brings hb hd.carries ht
    have hdrawn := drawnIn_of_brings hb hb' ht rfl hd.carries.pump hc.pump hbrings
    refine ⟨p', Z', [], ?_, ?_⟩
    · rw [List.append_nil, hdrawn, show b.fedIn feed (.turn id) = [] from rfl, List.append_nil]
      exact hd.brings hc hbrings
    · simp only [handedIn, hnot]
      rfl
  · obtain ⟨T', hc, hT'⟩ := step_takes hb hd.carries hp
    refine ⟨p, Z, T', ?_, hT'⟩
    rw [drawnIn_of_other hb hb' hd.carries.pump hc.pump, Option.toList_none, List.append_nil]
    exact ⟨hc, hd.working, hd.stopped⟩

/-- **Every run** leaves what was taken off the stream on its way. -/
theorem after_draws (es : List Event) (hb : BridgeOK b none none)
    (hd : b.Draws pump h feed p Z T F D) :
    ∃ p' Z' T', (b.after es).Draws pump h feed p' Z' (T ++ T') (F ++ b.fed feed es)
      (D ++ b.drawn h es) ∧ bytesOf T' = b.handedOut h es := by
  induction es generalizing b p Z T F D with
  | nil =>
    refine ⟨p, Z, [], ?_, rfl⟩
    rwa [fed, drawn, List.append_nil, List.append_nil, List.append_nil]
  | cons e es ih =>
    obtain ⟨p₁, Z₁, T₁, h1, h2⟩ := step_draws hb hd e
    obtain ⟨p₂, Z₂, T₂, h3, h4⟩ := ih (step_steps hb e).ok h1
    refine ⟨p₂, Z₂, T₁ ++ T₂, ?_, ?_⟩
    · rw [fed, drawn, ← List.append_assoc, ← List.append_assoc, ← List.append_assoc]
      exact h3
    · rw [bytesOf_append, h2, h4]
      rfl

/-! ## Readers that are cancelled -/

/-- **Once a reader is cancelled**, its pump takes nothing more off the stream. -/
theorem drawnIn_of_cancelled {entry : Reader} (hb : BridgeOK b none none)
    (hd : b.Draws pump h feed p Z T F D)
    (hkind : ∀ t, b.task? pump = some t → t.kind = .pump h entry)
    (hcan : b.registry.isCancelled (entry.scope h) = true) (e : Event) :
    b.drawnIn h e = none := by
  have hb' := (step_steps hb e).ok
  by_cases hp : b.PumpsIn h e
  · obtain ⟨id, entry', stream, frame, rfl, ht⟩ := hp
    obtain ⟨-, p', Z', drawn, hc, hbrings, hnot⟩ := poll_brings hb hd.carries ht
    rw [drawnIn_of_brings hb hb' ht rfl hd.carries.pump hc.pump hbrings]
    -- the pump still knows the reader as it did when it began
    obtain ⟨rfl, -⟩ := hd.working _ (hd.carries.pump.eq_of_task? hb ht)
    obtain rfl := (TaskKind.pump.inj (hkind _ ht)).2
    cases drawn with
    | none => rfl
    | some f =>
      have := hnot rfl
      rw [hcan] at this
      cases this
  · obtain ⟨T', hc, -⟩ := step_takes hb hd.carries hp
    exact drawnIn_of_other hb hb' hd.carries.pump hc.pump

theorem drawn_of_cancelled {entry : Reader} (es : List Event) (hb : BridgeOK b none none)
    (hpump : pump < b.nextTask) (hd : b.Draws pump h feed p Z T F D)
    (hkind : ∀ t, b.task? pump = some t → t.kind = .pump h entry)
    (hcan : b.registry.isCancelled (entry.scope h) = true) : b.drawn h es = [] := by
  induction es generalizing b p Z T F D with
  | nil => rfl
  | cons e es ih =>
    have hstep := step_steps hb e
    obtain ⟨p', Z', T', hd', -⟩ := step_draws hb hd e
    rw [drawn, drawnIn_of_cancelled hb hd hkind hcan e]
    refine ih hstep.ok (Nat.lt_of_lt_of_le hpump hstep.later.nextTask) hd' (fun t' ht' => ?_)
      (hstep.later.registry.cancelled hb.registry hstep.ok.registry hcan)
    cases ht : b.task? pump with
    | none =>
      rw [hstep.gone pump hpump ht] at ht'
      cases ht'
    | some t => exact (step_kind hb ht e ht').trans (hkind t ht)

end Bridge

/-! ## The bound -/

/-- **Read-ahead is bounded.** Here `e` registers the reader, and its pump has the stream of the
query in hand. In any run from then on, what the pump has taken is what is missing from the stream,
and what callers were given is the beginning of it. As long as the reader is live, all of it has
been handed out apart from as many frames as the channel has room for, and one. (An end or a failure
that was handed out does not even count here.) The pump takes nothing after the first frame that is
not data, and nothing once the reader is cancelled. -/
theorem read_ahead_bounded (hb : b.Reachable) (e : Event) (hnew : ¬ b.registry.readers.Issued h)
    (hi : (b.step e).registry.readers.Issued h) :
    ∃ pump entry src, (b.step e).task? pump = some (.pump h entry src none) ∧ ∀ es,
      let b' := (b.step e).after es
      let drawn := (b.step e).drawn h es
      let given := (b.step e).handedOut h es
      let yielded := (b.step e).service.upcoming src ++ (b.step e).fed src.feed? es
      (∀ stream inHand, b'.task? pump = some (.pump h entry stream inHand) →
        drawn ++ b'.service.upcoming stream = yielded ∨ drawn = yielded ++ [.finish]) ∧
      given <+: bytesOf drawn ∧
      ((b'.registry.readers.get? h).isSome = true →
        drawn.length ≤ given.length + max b.config.chunkBuffer.toNat 1 + 1) ∧
      (∀ f ∈ drawn.dropLast, f.isData = true) ∧
      (b'.registry.isCancelled (entry.scope h) = true →
        ∀ es', (b.step e).drawn h (es ++ es') = drawn) := by
  have hstep := step_steps hb.ok e
  have hok := hstep.ok
  obtain ⟨pump, src, hc⟩ := Bridge.registered hb.ok e hnew hi
  obtain ⟨-, entry, hm⟩ := id hc.pump
  have hpump := Bridge.task?_of_mem hok.nodup hm
  refine ⟨pump, entry, src, hpump, fun es => ?_⟩
  have hstart : (b.step e).Draws pump h src.feed? (some ⟨pump, src, none⟩) [] []
      ((b.step e).service.upcoming src) [] := by
    refine ⟨hc, fun q hq => ?_, nofun⟩
    obtain rfl := Option.some.inj hq
    exact ⟨rfl, rfl⟩
  obtain ⟨p, Z, T, hd, hgiven⟩ := Bridge.after_draws es hok hstart
  obtain ⟨hok', hlater⟩ := after_later hok es
  rw [List.nil_append, List.nil_append] at hd
  dsimp only
  rw [← hgiven]
  refine ⟨fun stream inHand ht => ?_, ?_, fun hlive => ?_, hd.data, fun hcan es' => ?_⟩
  · obtain rfl := hd.carries.pump.eq_of_task? hok' ht
    exact hd.stream
  · exact (hd.carries.flow.taken.trans hd.put.1).filterMap _
  · rw [← hstep.later.config, ← hlater.config]
    exact hd.ahead ((hok'.registry.active h).2 (Option.isSome_iff_exists.1 hlive))
  · have hnumber := Nat.lt_of_lt_of_le (hok.lt_nextTask hpump) hlater.nextTask
    rw [Bridge.drawn_append, Bridge.drawn_of_cancelled es' hok' hnumber hd ?_ hcan, List.append_nil]
    exact fun t ht => Bridge.after_kind es hok hpump ht

/-- The pump of a query has taken a chunk, and nobody has read the reader. -/
theorem read_ahead_bounded_oneChunk :
    let b := (Bridge.fresh.after [.far (.script "q" (.frames [.data [7], .finish])),
      .call (.openConnection "a://b" none), .turn 0, .call (.createSession ⟨1⟩), .turn 1,
      .call (.executeQuery ⟨1⟩ "q")]).step (.turn 2)
    b.drawn ⟨1⟩ [.turn 3, .turn 3] = [.data [7]] ∧
      (b.drawn ⟨1⟩ [.turn 3, .turn 3]).length ≤ (b.handedOut ⟨1⟩ [.turn 3, .turn 3]).length +
        max Bridge.fresh.config.chunkBuffer.toNat 1 + 1 := by
  have hb := Bridge.fresh_reachable.after [.far (.script "q" (.frames [.data [7], .finish])),
    .call (.openConnection "a://b" none), .turn 0, .call (.createSession ⟨1⟩), .turn 1,
    .call (.executeQuery ⟨1⟩ "q")]
  obtain ⟨pump, entry, src, -, h⟩ := read_ahead_bounded (h := ⟨1⟩) hb (.turn 2)
    (by unfold HandleTable.Issued; decide +kernel) (by unfold HandleTable.Issued; decide +kernel)
  obtain ⟨-, -, hbound, -⟩ := h [.turn 3, .turn 3]
  exact ⟨by decide +kernel, hbound (by decide +kernel)⟩

end QueryBridge
