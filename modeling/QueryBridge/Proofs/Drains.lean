import QueryBridge.Proofs.Bridge.Tracking

/-!
# Drains

The last piece of work in the background wakes the drains if it finds the tracker
shut. All drains share the tracker, and the first one to end opens it for all of
them: one that has not been woken by then may be left behind.

* `Bridge.NoneLeft`: whoever waits finds the tracker shut.
* `Bridge.OpensEarly`: a drain ends while another one waits.
* `drains_woken`: no drain is left behind, unless one opens the tracker early.
-/

namespace QueryBridge

variable {b b' : Bridge} {id : TaskId}

namespace Bridge

/-- A drain that waits and has not been woken finds the tracker shut. -/
def NoneLeft (b : Bridge) : Prop :=
  ∀ id, b.Drains id → id ∈ b.tracker.waiting → b.tracker.isShut = true

/-- A drain that was woken has its turn while another one waits. -/
def OpensEarly (b : Bridge) : Event → Prop
  | .turn id => b.Drains id ∧ id ∉ b.tracker.waiting ∧ b.tracker.waiting ≠ []
  | _ => False

/-- No drain opens the tracker early in a run. -/
def OpensInTime (b : Bridge) : List Event → Prop
  | [] => True
  | e :: es => ¬ b.OpensEarly e ∧ (b.step e).OpensInTime es

instance (b : Bridge) (id : TaskId) : Decidable (b.Drains id) :=
  inferInstanceAs (Decidable ((b.task? id).bind Task.stage? = some .draining))

instance (b : Bridge) (e : Event) : Decidable (b.OpensEarly e) :=
  match e with
  | .turn id => inferInstanceAs
      (Decidable (b.Drains id ∧ id ∉ b.tracker.waiting ∧ b.tracker.waiting ≠ []))
  | .call _ | .payload _ | .close _ | .abandon _ | .far _ | .runtime _ => .isFalse fun h => h

instance decidableOpensInTime (b : Bridge) (es : List Event) : Decidable (b.OpensInTime es) :=
  match es with
  | [] => .isTrue trivial
  | e :: es =>
    have := decidableOpensInTime (b.step e) es
    inferInstanceAs (Decidable (¬ b.OpensEarly e ∧ (b.step e).OpensInTime es))

/-- How the drains stand. -/
structure Attended (b : Bridge) : Prop where
  /-- All that is under way in the background is counted. -/
  counted : b.tracker.active = b.background.length
  /-- A drain that was woken has a place in the queue, and ends in its next turn. -/
  woken : ∀ id, b.Drains id → id ∉ b.tracker.waiting → id ∈ b.ready ∧
    ∃ request, b.task? id = some (.call request .draining) ∧
      (b.poll id).1 = some ((Task.call request .draining).told (.replied .done))
  /-- One that was not goes on waiting, whenever it has a turn. -/
  asleep : ∀ id, b.Drains id → id ∈ b.tracker.waiting → (b.poll id).1 = none
  /-- All have been woken where nothing is under way, if the tracker is shut. -/
  told : b.background = [] → b.tracker.isShut = true → b.tracker.waiting = []
  /-- So all have been woken where nothing is under way and no drain is left behind. -/
  idle : b.NoneLeft → b.background = [] → ∀ id, b.Drains id →
    id ∉ b.tracker.waiting ∧ id ∈ b.ready

theorem Reachable.attended (h : b.Reachable) : b.Attended := by
  have hb := h.tracked
  have htold : b.background = [] → b.tracker.isShut = true → b.tracker.waiting = [] := by
    intro hnone hshut
    refine hb.told hshut ?_
    rw [hb.counted, hnone, List.length_nil]
  have hready : ∀ id, b.Drains id → id ∉ b.tracker.waiting → id ∈ b.ready := fun id hd hw =>
    (hb.woken id hd nofun).resolve_left hw
  refine ⟨hb.counted, fun id hd hw => ⟨hready id hd hw, ?_⟩, fun id hd hw => ?_, htold,
    fun hleft hnone id hd => ?_⟩
  · obtain ⟨request, ht⟩ := hd.call
    obtain ⟨-, -, ⟨hin, -⟩ | ⟨-, htold, -⟩⟩ := drain_tends h.ok hb ht rfl
    · exact absurd hin hw
    · exact ⟨request, ht, htold⟩
  · obtain ⟨request, ht⟩ := hd.call
    obtain ⟨-, -, ⟨-, hnone, -⟩ | ⟨hout, -⟩⟩ := drain_tends h.ok hb ht rfl
    · exact hnone
    · exact absurd hw hout
  · have hw : id ∉ b.tracker.waiting := by
      intro hw
      rw [htold hnone (hleft id hd hw)] at hw
      cases hw
    exact ⟨hw, hready id hd hw⟩

theorem noneLeft_iff (hb : b.Tracked none) :
    b.NoneLeft ↔ (b.tracker.waiting ≠ [] → b.tracker.isShut = true) := by
  refine ⟨fun h hne => ?_, fun h id _ hw => h (List.ne_nil_of_mem hw)⟩
  obtain ⟨id, hw⟩ := List.exists_mem_of_ne_nil _ hne
  exact h id (hb.drains id hw) hw

/-- **A drain is left behind** exactly where one opens the tracker early. -/
theorem step_noneLeft (h : b.Reachable) (hleft : b.NoneLeft) (e : Event) :
    (b.step e).NoneLeft ↔ ¬ b.OpensEarly e := by
  have hb := h.tracked
  obtain ⟨htracked, htends⟩ := step_tends h.ok hb e
  rw [noneLeft_iff hb] at hleft
  rw [noneLeft_iff htracked]
  -- a drain that was woken does what is said of it, and nothing else
  have hturn : b.OpensEarly e → (b.step e).tracker.isShut = false ∧
      (b.step e).tracker.waiting ≠ [] := by
    intro hearly
    cases e with
    | turn id =>
      obtain ⟨hd, hw, hne⟩ := hearly
      obtain ⟨request, ht⟩ := hd.call
      obtain ⟨-, hwaits, ⟨hin, -⟩ | ⟨-, -, hopen⟩⟩ := drain_tends h.ok hb ht rfl
      · exact absurd hin hw
      · exact ⟨hopen, fun he => hne (hwaits.symm.trans he)⟩
    | _ => cases hearly
  refine ⟨fun hafter hearly => ?_, fun hlate hne => ?_⟩
  · obtain ⟨hopen, hne⟩ := hturn hearly
    rw [hafter hne] at hopen
    cases hopen
  · cases htends with
    | keeps e hshut hwaits =>
      rw [hshut]
      exact hleft fun he => hne (hwaits.trans he)
    | wakes e hnobody hnone => exact absurd hnobody hne
    | waits id hshut hwaits => exact hshut
    | opens id hd hw hopen hwaits => exact absurd ⟨hd, hw, fun he => hne (hwaits.trans he)⟩ hlate
    | forgets id hshut hwaits =>
      rw [hshut]
      refine hleft fun he => hne ?_
      rw [hwaits, he]
      rfl

theorem after_noneLeft (es : List Event) (h : b.Reachable) (hleft : b.NoneLeft)
    (hes : b.OpensInTime es) : (b.after es).NoneLeft := by
  induction es generalizing b with
  | nil => exact hleft
  | cons e es ih => exact ih (.step e h) ((step_noneLeft h hleft e).2 hes.1) hes.2

end Bridge

/-- **No drain is left behind** unless one opens the tracker early. In every bridge
that a run leads to the work under way is counted, a drain that was woken is in the
queue and ends in its next turn, and where nothing is under way all drains have been
woken if whoever waits finds the tracker shut. That stays so in every event but one:
a drain ends while another one waits that has not been woken. -/
theorem drains_woken (h : b.Reachable) :
    b.Attended ∧ (b.NoneLeft →
      (∀ e, (b.step e).NoneLeft ↔ ¬ b.OpensEarly e) ∧
      ∀ es, b.OpensInTime es → (b.after es).NoneLeft ∧ (b.after es).Attended) := by
  refine ⟨h.attended, fun hleft => ⟨fun e => Bridge.step_noneLeft h hleft e, fun es hes => ?_⟩⟩
  exact ⟨Bridge.after_noneLeft es h hleft hes, (h.after es).attended⟩

/-- A live query, whose pump is under way until its feed ends. -/
def Bridge.underWay : Bridge :=
  fresh.after [.call (.openConnection "a://b" none), .turn 0, .call (.createSession ⟨1⟩), .turn 1,
    .far (.script "q" .live), .call (.executeQuery ⟨1⟩ "q"), .turn 2, .turn 3]

theorem Bridge.underWay_reachable : Bridge.underWay.Reachable := fresh_reachable.after _

/-- Two drains wait for a pump, and both are woken when it ends. -/
theorem drains_woken_underWay :
    let es : List Event := [.call .settle, .turn 4, .call .settle, .turn 5, .far (.endFeed 0),
      .turn 3, .turn 3]
    (Bridge.underWay.after es).NoneLeft ∧ (Bridge.underWay.after es).background = [] ∧
      (Bridge.underWay.after es).Drains 4 ∧ 4 ∈ (Bridge.underWay.after es).ready ∧
      (Bridge.underWay.after es).Drains 5 ∧ 5 ∈ (Bridge.underWay.after es).ready := by
  intro es
  have hleft : Bridge.underWay.NoneLeft := by
    intro id hd hw
    exact absurd (show id ∈ [] from hw) List.not_mem_nil
  have hwoken := drains_woken Bridge.underWay_reachable
  obtain ⟨hleft', hattended⟩ := (hwoken.2 hleft).2 es (by decide +kernel)
  have hnone : (Bridge.underWay.after es).background = [] := by decide +kernel
  have h4 : (Bridge.underWay.after es).Drains 4 := by decide +kernel
  have h5 : (Bridge.underWay.after es).Drains 5 := by decide +kernel
  exact ⟨hleft', hnone, h4, (hattended.idle hleft' hnone 4 h4).2, h5,
    (hattended.idle hleft' hnone 5 h5).2⟩

/-- The first of two drains is woken by the end of a pump. A session is closed then,
and the second drain waits for the call that closes it on the far side; the first
one ends, and opens the tracker. When the close is over nothing is under way, and
the second drain still waits. -/
theorem drain_left_behind :
    ¬ ∀ b : Bridge, b.Reachable → b.background = [] → ∀ id, b.Drains id →
      id ∉ b.tracker.waiting := by
  intro h
  let es : List Event := [.call .settle, .turn 4, .far (.endFeed 0), .call (.closeSession ⟨1⟩),
    .call .settle, .turn 3, .turn 3, .turn 5, .turn 6, .turn 4, .turn 7,
    .turn 7]
  have hreachable : (Bridge.underWay.after es).Reachable := Bridge.underWay_reachable.after es
  have hnone : (Bridge.underWay.after es).background = [] := by decide +kernel
  have hdrains : (Bridge.underWay.after es).Drains 6 := by decide +kernel
  have hwaits : 6 ∈ (Bridge.underWay.after es).tracker.waiting := by decide +kernel
  exact h _ hreachable hnone 6 hdrains hwaits

end QueryBridge
