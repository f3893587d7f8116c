import QueryBridge.Proofs.Verdicts

/-!
# Creations that fail

A call that is to create something may fail at many places: before it asks the
service, when the service refuses, and after the service has done what it was
asked for, when nobody can have it any more. Whatever happens meanwhile, such a
call leaves no trace in the resources. What the service has created for it is
closed in the background.

* `Bridge.atTurns`: where a task has its turns in a run.
* `Bridge.passed`: what the turn of a creation does before it ends or waits.
* `Bridge.LeavesNothing`: what is left of a creation that fails.
* `failed_creation`: no more than that is left.
-/

namespace QueryBridge

variable {b : Bridge} {id : TaskId} {t t' : Task} {stage s : Stage} {f : Failure}
  {request : Option UInt64}

/-! ## The turns of a task -/

/-- Whether a task has its turn. -/
def Event.isTurnOf (id : TaskId) : Event → Bool
  | .turn x => x = id
  | _ => false

theorem Event.isTurnOf_iff {e : Event} : e.isTurnOf id = true ↔ e = .turn id := by
  cases e <;> simp [isTurnOf]

namespace Bridge

/-- The bridges at which a task has its turns in a run. -/
def atTurns (id : TaskId) (b : Bridge) : List Event → List Bridge
  | [] => []
  | e :: es => (if e.isTurnOf id then [b] else []) ++ atTurns id (b.step e) es

theorem atTurns_append (es es' : List Event) (b : Bridge) :
    b.atTurns id (es ++ es') = b.atTurns id es ++ (b.after es).atTurns id es' := by
  induction es generalizing b with
  | nil => rfl
  | cons e es ih => rw [List.cons_append, atTurns, atTurns, ih, List.append_assoc, after_cons]

theorem mem_atTurns_cons {e : Event} {es : List Event} {b₁ : Bridge} :
    b₁ ∈ b.atTurns id (e :: es) ↔ e = .turn id ∧ b₁ = b ∨ b₁ ∈ (b.step e).atTurns id es := by
  rw [atTurns, List.mem_append]
  refine or_congr_left ?_
  rw [← Event.isTurnOf_iff]
  by_cases hturn : e.isTurnOf id = true <;> simp [hturn]

/-- Where a task has its turns a run has led. -/
theorem Reachable.of_atTurns {es : List Event} (hb : b.Reachable) {b₁ : Bridge}
    (hb₁ : b₁ ∈ b.atTurns id es) : b₁.Reachable := by
  induction es generalizing b with
  | nil => cases hb₁
  | cons e es ih =>
    rcases mem_atTurns_cons.1 hb₁ with ⟨-, rfl⟩ | hrest
    · exact hb
    · exact ih (hb.step e) hrest

/-- A task makes calls on the service in its turns alone. -/
theorem callsOf_eq (es : List Event) (b : Bridge) :
    b.callsOf id es = (b.atTurns id es).flatMap (callsIn id · (.turn id)) := by
  induction es generalizing b with
  | nil => rfl
  | cons e es ih =>
    rw [callsOf, atTurns, List.flatMap_append, ih]
    by_cases he : e = .turn id
    · subst he
      simp [Event.isTurnOf]
    · rw [if_neg fun hturn => he (Event.isTurnOf_iff.1 hturn), callsIn_of_ne he]
      rfl

/-- What others register in a run. -/
def registeredBeside (id : TaskId) (b : Bridge) : List Event → List Registration
  | [] => []
  | e :: es =>
    (if e.isTurnOf id then [] else (b.registeredIn e).toList) ++ registeredBeside id (b.step e) es

/-- Where a task registers nothing, all that is registered is registered by others. -/
theorem countP_deeds (k : HandleKind) (es : List Event)
    (h : ∀ b₁ ∈ b.atTurns id es, b₁.registeredIn (.turn id) = none) :
    (b.deeds es).countP (·.registers k) = (b.registeredBeside id es).countP (·.kind = k) := by
  induction es generalizing b with
  | nil => rfl
  | cons e es ih =>
    have hrest := ih (b := b.step e) fun b₁ hb₁ => h b₁ (mem_atTurns_cons.2 (.inr hb₁))
    rw [deeds, registeredBeside, List.countP_append, List.countP_append, countP_deedsIn, hrest]
    congr 1
    by_cases hturn : e.isTurnOf id = true
    · obtain rfl := Event.isTurnOf_iff.1 hturn
      rw [if_pos hturn, h b (mem_atTurns_cons.2 (.inl ⟨rfl, rfl⟩))]
      rfl
    · rw [if_neg hturn]

/-! ## A turn of a creation -/

/-- What the turn of a creation does before it ends or waits: its calls on the
service are noted, and what is closed from inside of them is closed. -/
def passed (b : Bridge) (id : TaskId) : Bridge :=
  (b.note (b.callsIn id (.turn id))).closeAll (b.closedIn (.turn id))

theorem passed_registry (b : Bridge) (id : TaskId) :
    (b.passed id).registry = b.registry.closeAll (b.closedIn (.turn id)) := closeAll_registry _ _

theorem passed_level (ht : b.task? id = some t) (hs : t.stage? = some stage)
    (hc : stage.creates = true) :
    (b.passed id).Level ((b.takeTurn id).does ((b.takeTurn id).errand stage)) := by
  unfold passed
  rw [callsIn_creates ht hs hc, closedIn_call ht hs, (b.takeTurn id).closedBy_creates id hc]
  exact (b.takeTurn_level id).does _

/-- A creation waits after its turn. It has registered nothing and was granted
nothing, and it is only in another place. -/
structure Waits (id : TaskId) (request : Option UInt64) (b : Bridge) : Prop where
  registered : b.registeredIn (.turn id) = none
  granted : b.grantedIn (.turn id) = none
  place : ∃ s, ((b.passed id).setTask id (.call request s)).Level (b.step (.turn id))

/-- A creation fails in its turn. It has registered nothing, what it was granted
is left to the background to be closed, and it is over. -/
structure Fails (id : TaskId) (b : Bridge) : Prop where
  registered : b.registeredIn (.turn id) = none
  ended : (((b.passed id).disown (b.grantedIn (.turn id))).conclude id).Level (b.step (.turn id))

theorem Waits.registry (h : b.Waits id request) :
    (b.step (.turn id)).registry = b.registry.closeAll (b.closedIn (.turn id)) := by
  obtain ⟨s, hl⟩ := h.place
  exact hl.registry.trans (b.passed_registry id)

theorem Fails.registry (h : b.Fails id) :
    (b.step (.turn id)).registry = b.registry.closeAll (b.closedIn (.turn id)) :=
  (h.ended.registry.trans (disown_registry _ _)).trans (b.passed_registry id)

/-- **A turn after which a creation waits.** -/
theorem turn_waits (ht : b.task? id = some t) (hs : t.stage? = some stage)
    (hc : stage.creates = true) (hturn : ((b.takeTurn id).turn id stage).1 = .waits s ∨
      ((b.takeTurn id).turn id stage).1 = .goesOn s) :
    s.awaits = true ∧ b.Waits id t.request? := by
  obtain ⟨hawaits, hgranted, hl⟩ := ((b.takeTurn id).turn_creates id hc).stays hturn
  have hlast := pollCall_placed t.request? hturn
  rw [← poll_call ht hs] at hlast
  refine ⟨hawaits, ?_, (grantedIn_call ht hs).trans hgranted, s, ?_⟩
  · rw [registeredIn, turnIn_call ht hs]
    rcases hturn with h | h <;> rw [h] <;> rfl
  · exact (((passed_level ht hs hc).trans hl).setTask id _).trans hlast

/-- **A turn in which a creation fails.** -/
theorem turn_fails (ht : b.task? id = some t) (hs : t.stage? = some stage)
    (hc : stage.creates = true)
    (hturn : ((b.takeTurn id).turn id stage).1 = .ends (.failed f)) :
    (b.takeTurn id).FailsWith stage f ∧ b.Fails id := by
  obtain ⟨hwhy, hl⟩ := ((b.takeTurn id).turn_creates id hc).failed hturn
  have hlast := pollCall_ended t.request? hturn
  rw [← poll_call ht hs] at hlast
  refine ⟨hwhy, ?_, ?_⟩
  · rw [registeredIn, turnIn_call ht hs, hturn]
    exact registers_failed f
  · rw [grantedIn_call ht hs]
    exact ((((passed_level ht hs hc).disown _).trans hl).conclude id).trans hlast

/-! ## Runs -/

/-- **A creation that is not over** has only waited so far. -/
theorem waits_of_creates (es : List Event) (hb : BridgeOK b none none) (ht : b.task? id = some t)
    (hs : t.stage? = some stage) (hc : stage.creates = true)
    (ht' : (b.after es).task? id = some t') :
    (∀ b₁ ∈ b.atTurns id es, b₁.Waits id t.request?) ∧ t'.request? = t.request? ∧
      ∃ stage', t'.stage? = some stage' ∧ stage'.creates = true ∧
        (stage'.awaits = true ∨ stage' = stage ∧ b.atTurns id es = []) := by
  induction es generalizing b t stage with
  | nil =>
    obtain rfl : t = t' := Option.some.inj (ht.symm.trans ht')
    exact ⟨nofun, rfl, stage, hs, hc, .inr ⟨rfl, rfl⟩⟩
  | cons e es ih =>
    have hstep := step_steps hb e
    have hover : (b.step e).task? id ≠ none := step_live hb ht ht'
    by_cases he : e.task? = some id
    · cases e with
      | turn x =>
        cases Option.some.inj he
        rcases poll_call_cases hb ht hs with ⟨o, -, -, ho⟩ | ⟨s, hturn, -, hnew⟩
        · exact absurd ho hover
        · obtain ⟨hawaits, hwaits⟩ := turn_waits ht hs hc hturn
          obtain ⟨hall, hreq, stage', hs', hc', hplace⟩ :=
            ih hstep.ok hnew rfl (Stage.creates_of_awaits hawaits) ht'
          refine ⟨fun b₁ hb₁ => ?_, hreq, stage', hs', hc', .inl ?_⟩
          · rcases mem_atTurns_cons.1 hb₁ with ⟨-, rfl⟩ | hrest
            · exact hwaits
            · exact hall b₁ hrest
          · rcases hplace with h | ⟨rfl, -⟩
            · exact h
            · exact hawaits
      | abandon x =>
        cases Option.some.inj he
        exact absurd (abandon_over hb ht hs) hover
      | _ => cases he
    · have hnot : ¬ e.isTurnOf id = true := fun h => he (Event.isTurnOf_iff.1 h ▸ rfl)
      have hsame : b.atTurns id (e :: es) = (b.step e).atTurns id es := by
        rw [atTurns, if_neg hnot, List.nil_append]
      rw [hsame]
      exact ih hstep.ok (hstep.keeps id t (Ne.symm he) ht) hs hc ht'

/-- A task that is over registers nothing. -/
theorem registeredIn_of_over (es : List Event) (hb : BridgeOK b none none) (hid : id < b.nextTask)
    (ht : b.task? id = none) :
    ∀ b₁ ∈ b.atTurns id es, b₁.registeredIn (.turn id) = none := by
  induction es generalizing b with
  | nil => nofun
  | cons e es ih =>
    have hstep := step_steps hb e
    have hrest := ih hstep.ok (Nat.lt_of_lt_of_le hid hstep.later.nextTask) (hstep.gone id hid ht)
    intro b₁ hb₁
    rcases mem_atTurns_cons.1 hb₁ with ⟨-, rfl⟩ | hlast
    · rw [registeredIn, turnIn, ht]
      rfl
    · exact hrest b₁ hlast

end Bridge

/-! ## Failed creations -/

/-- **What is left of a creation that fails**, with its turn after a run. -/
structure Bridge.LeavesNothing (id : TaskId) (t : Task) (b : Bridge) (es : List Event)
    (stage : Stage) (f : Failure) : Prop where
  /-- The caller is told. -/
  told : ((b.after es).poll id).1 = some (t.told (.failed f))
  /-- In each turn before the last one the call has only waited. -/
  waits : ∀ b₁ ∈ b.atTurns id es, b₁.Waits id t.request?
  fails : (b.after es).Fails id
  /-- In no turn of it has anything of the resources changed, but that what was
  closed from inside of its calls on the service is closed. -/
  resources : ∀ b₁ ∈ b.atTurns id (es ++ [.turn id]),
    (b₁.step (.turn id)).registry = b₁.registry.closeAll (b₁.closedIn (.turn id)) ∧
    ∀ k, (b₁.step (.turn id)).registry.next k = b₁.registry.next k
  /-- The next handles are told from what there was before the call and from
  what others have registered since. -/
  handles : ∀ es' e what, (b.after (es ++ .turn id :: es')).registeredIn e = some what →
    what.number = b.registry.next what.kind +
      (b.registeredBeside id (es ++ .turn id :: es')).countP (·.kind = what.kind)
  why : ((b.after es).takeTurn id).FailsWith stage f
  /-- The service was not asked for what was not allowed from the start. -/
  unasked : f.isDenial = true → b.callsOf id (es ++ [.turn id]) = []
  /-- A refusal is told in the words of the service. -/
  refused : ∀ message, f = .serviceError message ↔
    (((b.after es).takeTurn id).errand stage).course = some (.refused message)

/-- What the service has refused is told in its words, and nothing else is told so. -/
theorem Bridge.FailsWith.refused_iff (h : b.FailsWith stage f) (message : String) :
    f = .serviceError message ↔ (b.errand stage).course = some (.refused message) := by
  cases h with
  | denied _ he hf =>
    rw [he]
    refine ⟨?_, nofun⟩
    rintro rfl
    cases hf
  | closed he =>
    rw [he]
    exact ⟨nofun, nofun⟩
  | refused hc =>
    rw [hc]
    exact ⟨by rintro ⟨⟩; rfl, by rintro ⟨⟩; rfl⟩
  | outlived hc =>
    rw [hc]
    exact ⟨nofun, nofun⟩
  | exhausted hc =>
    rw [hc]
    exact ⟨nofun, nofun⟩

/-- What was not allowed fails in the first turn, and asks for nothing. -/
theorem Bridge.FailsWith.unasked (h : b.FailsWith stage f) (hf : f.isDenial = true) :
    (∃ c, stage = .fresh c) ∧ b.errand stage = {} := by
  cases h with
  | denied hs he _ => exact ⟨hs, he⟩
  | _ => cases hf

/-- **A creation that fails leaves nothing behind**, whatever happens between its
turns and whatever the service does. No table, no counter, no list of children
and no mark has changed by it, so the next handles are those that would have been
given out without it. What the service had created for it is closed in the
background, and only that. -/
theorem failed_creation {c : Call} {t t' : Task} {es : List Event} {stage : Stage}
    (hb : b.Reachable) (ht : b.task? id = some t) (hs : t.stage? = some (.fresh c))
    (hc : c.creates = true) (ht' : (b.after es).task? id = some t')
    (hs' : t'.stage? = some stage)
    (hf : (((b.after es).takeTurn id).turn id stage).1 = .ends (.failed f)) :
    b.LeavesNothing id t es stage f := by
  have hok := (after_later hb.ok es).1
  obtain ⟨hwaits, hreq, stage₁, hs₁, hc₁, hplace⟩ :=
    Bridge.waits_of_creates es hb.ok ht hs hc ht'
  obtain rfl : stage = stage₁ := Option.some.inj (hs'.symm.trans hs₁)
  obtain ⟨hwhy, hfails⟩ := Bridge.turn_fails ht' hs' hc₁ hf
  have hlast : (b.after es).atTurns id [.turn id] = [b.after es] := by
    simp [Bridge.atTurns, Event.isTurnOf]
  have hends : ((b.after es).poll id).1 = some (t'.told (.failed f)) ∧
      ((b.after es).poll id).2.task? id = none := by
    rcases Bridge.poll_call_cases hok ht' hs' with ⟨o, ho, htold, hover⟩ | ⟨s, hstays, -, -⟩
    · obtain rfl : o = .failed f := Progress.ends.inj (ho.symm.trans hf)
      exact ⟨htold, hover⟩
    · rw [hf] at hstays
      rcases hstays with h | h <;> cases h
  have hturns : ∀ b₁ ∈ b.atTurns id (es ++ [.turn id]), b₁.registeredIn (.turn id) = none ∧
      (b₁.step (.turn id)).registry = b₁.registry.closeAll (b₁.closedIn (.turn id)) := by
    intro b₁ hb₁
    rw [Bridge.atTurns_append, hlast] at hb₁
    rcases List.mem_append.1 hb₁ with hbefore | hnow
    · exact ⟨(hwaits b₁ hbefore).registered, (hwaits b₁ hbefore).registry⟩
    · obtain rfl := List.mem_singleton.1 hnow
      exact ⟨hfails.registered, hfails.registry⟩
  refine ⟨?_, hwaits, hfails, fun b₁ hb₁ => ?_, fun es' e what hwhat => ?_, hwhy, fun hdenial => ?_,
    fun message => hwhy.refused_iff message⟩
  · rw [hends.1, Task.told, Task.told, hreq]
  · obtain ⟨-, hregistry⟩ := hturns b₁ hb₁
    have hb₁ok : RegistryOK b₁.registry := (hb.of_atTurns hb₁).ok.registry
    refine ⟨hregistry, fun k => ?_⟩
    rw [hregistry]
    exact (b₁.registry.closeAll_takes _ hb₁ok).next k
  · have hall : es ++ .turn id :: es' = (es ++ [.turn id]) ++ es' := by
      rw [List.append_assoc, List.singleton_append]
    have hown : ∀ b₁ ∈ b.atTurns id (es ++ .turn id :: es'), b₁.registeredIn (.turn id) = none := by
      intro b₁ hb₁
      rw [hall, Bridge.atTurns_append] at hb₁
      rcases List.mem_append.1 hb₁ with hbefore | hlater
      · exact (hturns b₁ hbefore).1
      · have hstep := step_steps hok (.turn id)
        have hid := Nat.lt_of_lt_of_le (hok.lt_nextTask ht') hstep.later.nextTask
        rw [Bridge.after_append] at hlater
        exact Bridge.registeredIn_of_over es' hstep.ok hid hends.2 b₁ hlater
    have hreach := hb.after (es ++ .turn id :: es')
    rw [(step_next hreach.ok hreach.spent e).1 what hwhat, after_next hb,
      Bridge.countP_deeds what.kind _ hown]
  · obtain ⟨⟨c', rfl⟩, hunasked⟩ := hwhy.unasked hdenial
    -- it has had no turn before, for then it would wait for the service
    obtain ⟨-, hnone⟩ := hplace.resolve_left Bool.false_ne_true
    rw [Bridge.callsOf_eq, Bridge.atTurns_append, hnone, hlast, List.nil_append,
      List.flatMap_singleton, Bridge.callsIn_creates ht' hs' hc₁, hunasked]

/-- A session is asked for, and what holds the service back closes its connection
when it lets go. The service has created the session, and it is closed in the
background. -/
theorem failed_creation_outlived :
    let b := Bridge.oneOfEach.after
      [.far (.plan .createSession [.hang "g", .close (.connection ⟨1⟩)]),
        .call (.createSession ⟨1⟩)]
    let es : List Event := [.turn 4, .far (.release "g")]
    b.LeavesNothing 4 (.call none (.fresh (.createSession ⟨1⟩))) es
        (.creating ⟨1⟩ 0 ⟨"session-2"⟩ ⟨"g", [.close (.connection ⟨1⟩)]⟩)
        (.resourceClosed .connection ⟨1⟩) ∧
      (b.after es).grantedIn (.turn 4) = some (0, .session ⟨"session-2"⟩) := by
  intro b es
  have hb : b.Reachable := Bridge.oneOfEach_reachable.after _
  have ht : b.task? 4 = some (.call none (.fresh (.createSession ⟨1⟩))) := by decide +kernel
  have ht' : (b.after es).task? 4 = some (.call none
      (.creating ⟨1⟩ 0 ⟨"session-2"⟩ ⟨"g", [.close (.connection ⟨1⟩)]⟩)) := by decide +kernel
  exact ⟨failed_creation hb ht rfl rfl ht' rfl (by decide +kernel), by decide +kernel⟩

end QueryBridge
