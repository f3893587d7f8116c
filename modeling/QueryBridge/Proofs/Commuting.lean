import QueryBridge.Proofs.Bridge.Deeds
import QueryBridge.Proofs.Bridge.Local

/-!
# Steps that commute

Two closes or pulls of live resources, neither of which is the other or above it,
can be done in either order. Each answers the same, and the bridge is the same
afterwards, but for the order of the work that was left to the background and the
order in which a session knows its exhausted readers.

* `Bridge.Does`: what a step does, whatever else there is.
* `step_effect`: a step does the same wherever the place of its resource is the same.
* `unrelated_steps_commute`: **two steps on unrelated resources, in either order.**
-/

namespace QueryBridge

variable {b b' b'' : Bridge} {e e' : Event} {id : TaskId} {t t' : Target} {P P' : Scope}
  {stage : Stage}

/-! ## Steps on a resource -/

/-- The resource that a call closes, or pulls chunks of. -/
def Stage.addressee? : Stage → Option Target
  | .fresh (.closeConnection c) => some (.connection c)
  | .fresh (.closeSession s) => some (.session s)
  | .fresh (.closeReader h) | .fresh (.read h .next) | .fresh (.read h .available)
  | .awaitingTurn h _ .next | .awaitingTurn h _ .available
  | .awaitingFrame h _ .next | .awaitingFrame h _ .available => some (.reader h)
  | _ => none

/-- The call that closes a resource. -/
def Target.closeCall : Target → Call
  | .connection c => .closeConnection c
  | .session s => .closeSession s
  | .reader h => .closeReader h

/-- A step on a resource closes it, or pulls chunks of it. -/
theorem Stage.addressee?_cases (hs : stage.addressee? = some t) :
    stage = .fresh t.closeCall ∨
      ∃ h reading, t = .reader h ∧ stage.reading? = some (h, reading) ∧
        reading.closesReader = false ∧ reading.isComplete = false := by
  unfold addressee? at hs
  split at hs <;> cases hs
  · exact .inl rfl
  · exact .inl rfl
  · exact .inl rfl
  all_goals exact .inr ⟨_, _, rfl, rfl, rfl, rfl⟩

/-- How a close ended. -/
def Outcome.ofClose : Except Failure Unit → Outcome
  | .ok () => .replied .done
  | .error f => .failed f

namespace Bridge

/-- The resource that an event closes, or pulls chunks of. -/
def addressee? (b : Bridge) : Event → Option Target
  | .close t => some t
  | .turn id => ((b.task? id).bind Task.stage?).bind Stage.addressee?
  | _ => none

/-- What an event answers; nothing while a call goes on. -/
def answer? (b : Bridge) : Event → Option Outcome
  | .close (.connection c) => some (.ofClose (b.closeConnection c).1)
  | .close (.session s) => some (.ofClose (b.closeSession s).1)
  | .close (.reader _) => some (.replied .done)
  | .turn id => (b.poll id).1
  | _ => none

/-- The work that the close of a live resource leaves to the background. -/
def leftBy (b : Bridge) : Target → Option Task
  | .connection c => (b.registry.connections.get? c).map fun e =>
    .farewell e.client none ((b.registry.idsOf c).map .session ++ [.connection])
  | .session s => (b.registry.sessions.get? s).map fun e =>
    .farewell e.client none [.session e.globalId]
  | .reader _ => none

end Bridge

/-! ## What a step does -/

/-- What a step answers, what it does to the resources, and the work that it leaves behind. -/
structure Effect where
  answer : Outcome
  patch : Registry.Patch
  left : Option Task

/-- **What a step does**: after it one task may be over, and one may have begun. -/
structure Bridge.Does (b : Bridge) (done : Option TaskId) (x : Effect) (b' : Bridge) : Prop where
  registry : Patched b.registry b'.registry x.patch
  tasks : b'.tasks =
    b.tasks.filter (some ·.1 ≠ done) ++ x.left.toList.map fun t => (b.nextTask, t)
  nextTask : b'.nextTask = b.nextTask + x.left.toList.length
  tracker : b'.tracker = { b.tracker with active := b.tracker.active + x.left.toList.length }
  service : b'.service = b.service
  config : b'.config = b.config
  hasRuntime : b'.hasRuntime = b.hasRuntime

namespace Bridge

theorem filter_none (l : List (TaskId × Task)) : l.filter (some ·.1 ≠ none) = l :=
  List.filter_eq_self.2 fun _ _ => decide_eq_true (Option.some_ne_none _)

/-- Nothing is left to the background, and no task is over. -/
theorem Calm.does (h : b.Calm b') {x : Effect} (hr : Patched b.registry b'.registry x.patch)
    (hl : x.left = none) : b.Does none x b' where
  registry := hr
  tasks := by rw [h.tasks, filter_none, hl]; exact (List.append_nil _).symm
  nextTask := by rw [h.nextTask, hl]; rfl
  tracker := by rw [h.tracker, hl]; rfl
  service := h.service
  config := h.config
  hasRuntime := h.hasRuntime

/-- Work is left to the background. -/
theorem Calm.spawn (h : b.Calm b') {x : Effect} (hr : Patched b.registry b'.registry x.patch)
    {t : Task} (hl : x.left = if b.hasRuntime then some t else none) :
    b.Does none x (b'.spawn t) := by
  by_cases hrt : b.hasRuntime = true
  · rw [if_pos hrt] at hl
    rw [Bridge.spawn, if_pos (h.hasRuntime.trans hrt)]
    refine ⟨hr, ?_, ?_, ?_, h.service, h.config, h.hasRuntime⟩
    · rw [filter_none, hl]
      simp [Bridge.spawnOn, submit, h.tasks, h.nextTask]
    · rw [hl]
      simp [Bridge.spawnOn, submit, h.nextTask]
    · rw [hl]
      simp [Bridge.spawnOn, submit, h.tracker, Tracker.started]
  -- without a runtime it is dropped
  · rw [Bridge.spawn, if_neg fun hrt' => hrt (h.hasRuntime.symm.trans hrt')]
    exact h.does hr (hl.trans (if_neg hrt))

/-- A task that had its turn is over afterwards. -/
theorem Does.conclude {x : Effect} (h : (b.takeTurn id).Does none x b') (hid : id < b.nextTask) :
    b.Does (some id) x (b'.conclude id) where
  registry := h.registry
  tasks := by
    show b'.tasks.filter (·.1 ≠ id) = _
    rw [h.tasks, filter_none, List.filter_append]
    congr 1
    · exact List.filter_congr fun p _ => by simp
    -- what has begun is not the task that is over
    · refine List.filter_eq_self.2 fun p hp => decide_eq_true ?_
      obtain ⟨t, -, rfl⟩ := List.mem_map.1 hp
      exact Nat.ne_of_gt hid
  nextTask := h.nextTask
  tracker := h.tracker
  service := h.service
  config := h.config
  hasRuntime := h.hasRuntime

/-! ## Closes -/

/-- The effect of the close of a live resource. -/
noncomputable def closing (b : Bridge) (t : Target) (P : Scope) (answer : Outcome) : Effect where
  answer := answer
  patch := b.registry.closing P
  left := if b.hasRuntime then b.leftBy t else none

theorem close_does (hr : RegistryOK b.registry) (ht : b.registry.place? t = some P)
    (o : Outcome) : b.Does none (b.closing t P o) (b.close t) := by
  have hp := close_patched hr ht
  rw [← close_registry] at hp
  cases t with
  | connection c =>
    obtain ⟨e, he, rfl⟩ := Option.map_eq_some_iff.1 ht
    obtain ⟨r₁, hc, -⟩ := closeConnection_pruned hr he
    simp only [close, closeConnection, hc] at hp ⊢
    rw [sayFarewell, spawn_registry] at hp
    refine Calm.spawn ((b.withRegistry_calm r₁).trans (wakeWithin_calm _ _)) hp ?_
    simp [closing, leftBy, he]
  | session s =>
    obtain ⟨e, he, rfl⟩ := Option.map_eq_some_iff.1 ht
    obtain ⟨r₁, hc, -⟩ := closeSession_pruned hr he
    simp only [close, closeSession, hc] at hp ⊢
    rw [sayFarewell, spawn_registry] at hp
    refine Calm.spawn ((b.withRegistry_calm r₁).trans (wakeWithin_calm _ _)) hp ?_
    simp [closing, leftBy, he]
  | reader h => exact (b.closeReader_calm h).does hp (by simp [closing, leftBy])

/-- The close of a live resource succeeds. -/
theorem answer?_close (hr : RegistryOK b.registry) (ht : b.registry.place? t = some P) :
    b.answer? (.close t) = some (.replied .done) := by
  cases t with
  | connection c =>
    obtain ⟨e, he, rfl⟩ := Option.map_eq_some_iff.1 ht
    obtain ⟨r₁, hc, -⟩ := closeConnection_pruned hr he
    simp only [answer?, closeConnection, hc, Outcome.ofClose]
  | session s =>
    obtain ⟨e, he, rfl⟩ := Option.map_eq_some_iff.1 ht
    obtain ⟨r₁, hc, -⟩ := closeSession_pruned hr he
    simp only [answer?, closeSession, hc, Outcome.ofClose]
  | reader h => rfl

/-! ## Turns -/

variable {task : Task} {o : Outcome} {x : Effect}

/-- The turn of a call that closes is the close. -/
theorem turn_closing (ha : b.answer? (.close t) = some o) (id : TaskId) :
    b.turn id (.fresh t.closeCall) = (.ends o, b.close t) := by
  have hclosed : ∀ p : Except Failure Unit × Bridge, closed p = (.ends (.ofClose p.1), p.2) := by
    rintro ⟨_ | _, b'⟩ <;> rfl
  cases t <;> obtain rfl := Option.some.inj ha
  · exact hclosed _
  · exact hclosed _
  · rfl

/-- A call that ends in its turn does what the turn does, and is over. -/
theorem poll_does (ht : b.task? id = some task) (hs : task.stage? = some stage)
    (hid : id < b.nextTask) (ho : ((b.takeTurn id).turn id stage).1 = .ends o)
    (hd : (b.takeTurn id).Does none x ((b.takeTurn id).turn id stage).2) :
    b.answer? (.turn id) = some (task.told o) ∧ b.Does (some id) x (b.step (.turn id)) := by
  have hpoll : b.poll id =
      (some (task.told o), ((b.takeTurn id).turn id stage).2.conclude id) := by
    rw [poll_call ht hs, pollCall_of_ends _ ho]
    rfl
  refine ⟨congrArg Prod.fst hpoll, ?_⟩
  rw [step, hpoll]
  exact hd.conclude hid

/-- A call that answers in its turn ends in it. -/
theorem ends_of_answer? (ht : b.task? id = some task) (hs : task.stage? = some stage)
    (ha : (b.answer? (.turn id)).isSome) : ∃ o, ((b.takeTurn id).turn id stage).1 = .ends o := by
  rw [answer?, poll_call ht hs, pollCall] at ha
  generalize (b.takeTurn id).turn id stage = p at ha ⊢
  obtain ⟨_ | _ | _, b'⟩ := p
  · exact ⟨_, rfl⟩
  · cases ha
  · cases ha

/-! ## The same step elsewhere -/

/-- Another bridge with the same resources within a place, and the same call. -/
structure Shares (b : Bridge) (e : Event) (P : Scope) (b' : Bridge) : Prop where
  ok : BridgeOK b' none none
  registry : b.registry.KeepsWithin P b'.registry
  task : ∀ id t, e = .turn id → b.task? id = some t → b'.task? id = some t
  hasRuntime : b'.hasRuntime = b.hasRuntime

namespace Shares

/-- What a close leaves to the background is the same. -/
theorem leftBy (h : b.Shares e P b') (hb : BridgeOK b none none)
    (ht : b.registry.place? t = some P) : b'.leftBy t = b.leftBy t := by
  cases t with
  | connection c =>
    obtain ⟨ce, hce, rfl⟩ := Option.map_eq_some_iff.1 ht
    rw [Bridge.leftBy, Bridge.leftBy, h.registry.idsOf hb.registry h.ok.registry,
      (h.registry.connections c (decide_eq_true rfl)).1]
  | session s =>
    obtain ⟨se, hse, rfl⟩ := Option.map_eq_some_iff.1 ht
    rw [Bridge.leftBy, Bridge.leftBy, (h.registry.sessions s ⟨se, hse, decide_eq_true rfl⟩).1]
  | reader x => rfl

/-- A close has the same effect. -/
theorem closing (h : b.Shares e P b') (hb : BridgeOK b none none)
    (ht : b.registry.place? t = some P) (o : Outcome) :
    b'.closing t P o = b.closing t P o := by
  rw [Bridge.closing, Bridge.closing, h.registry.closing, h.hasRuntime, h.leftBy hb ht]

end Shares

/-- **A step on a live resource** changes what is within its place, and does the same wherever that
is the same. -/
theorem step_effect (hb : BridgeOK b none none) (ha : b.addressee? e = some t)
    (ht : b.registry.place? t = some P) (hc : (b.answer? e).isSome) :
    ∃ x : Effect, x.patch.Within b.registry P ∧ ∀ b', b.Shares e P b' →
      b'.answer? e = some x.answer ∧ b'.Does e.task? x (b'.step e) := by
  cases e with
  | close t' =>
    obtain rfl : t' = t := Option.some.inj ha
    refine ⟨b.closing t' P (.replied .done), b.registry.closing_within P, fun b' h => ?_⟩
    have ht' := h.registry.place? ht
    rw [← h.closing hb ht]
    exact ⟨answer?_close h.ok.registry ht', close_does h.ok.registry ht' _⟩
  | turn id =>
    obtain ⟨stage, hs, haddr⟩ := Option.bind_eq_some_iff.1 ha
    obtain ⟨task, htask, hs⟩ := Option.bind_eq_some_iff.1 hs
    rcases Stage.addressee?_cases haddr with rfl | ⟨h, reading, rfl, hr, hcloses, hcomplete⟩
    -- a call that closes
    · refine ⟨b.closing t P (task.told (.replied .done)), b.registry.closing_within P,
        fun b' h => ?_⟩
      have htask' := h.task id task rfl htask
      have hr' := h.ok.registry
      have ht' := h.registry.place? ht
      have hturn := turn_closing (b := b'.takeTurn id) (answer?_close hr' ht') id
      rw [← h.closing hb ht]
      refine poll_does htask' hs (h.ok.lt_nextTask htask') (congrArg Prod.fst hturn) ?_
      rw [hturn]
      exact close_does (b := b'.takeTurn id) hr' ht' _
    -- a pull
    · obtain ⟨re, hre, rfl⟩ := Option.map_eq_some_iff.1 ht
      obtain ⟨o, ho⟩ := ends_of_answer? htask hs hc
      have hlive : (b.takeTurn id).HasReader h re (b.registry.reader h) := ⟨hb.registry, hre, rfl⟩
      obtain ⟨p, fate, st, hlocal⟩ := turn_local hcloses hlive (call_ok hb htask hs).2.1 hr
        hcomplete id
      obtain rfl : .ends o = p := ho.symm.trans (hlocal _ hlive).1
      refine ⟨⟨task.told o, .reading h re fate st, none⟩,
        Registry.Patch.reading_within hre fate st, fun b' hb' => ?_⟩
      have htask' := hb'.task id task rfl htask
      obtain ⟨hget, hstatus⟩ := hb'.registry.readers h ⟨re, hre, decide_eq_true rfl⟩
      obtain ⟨ho', hcalm, hpatch⟩ := hlocal (b'.takeTurn id)
        ⟨hb'.ok.registry, hget.trans hre, hstatus⟩
      have hcalm' : (b'.takeTurn id).Calm ((b'.takeTurn id).turn id stage).2 := hcalm
      exact poll_does htask' hs (hb'.ok.lt_nextTask htask') ho' (hcalm'.does hpatch rfl)
  | _ => cases ha

/-! ## Two steps -/

/-- The tasks that are not over of those that had begun before a number was given. -/
def begunBefore (b : Bridge) (n : TaskId) : List (TaskId × Task) := b.tasks.filter (·.1 < n)

/-- The tasks that are not over of those that have begun since, without their numbers. -/
def begunSince (b : Bridge) (n : TaskId) : List Task :=
  (b.tasks.filter (n ≤ ·.1)).map Prod.snd

/-- The two bridges are the same, but for the order of the tasks that have begun since a number was
given, the order in which sessions know their exhausted readers, and the queue. -/
structure Agrees (n : TaskId) (b b' : Bridge) : Prop where
  registry : b.registry.Agrees b'.registry
  begunBefore : b'.begunBefore n = b.begunBefore n
  begunSince : (b'.begunSince n).Perm (b.begunSince n)
  nextTask : b'.nextTask = b.nextTask
  tracker : b'.tracker = b.tracker
  service : b'.service = b.service
  config : b'.config = b.config
  hasRuntime : b'.hasRuntime = b.hasRuntime

namespace Does

variable {done : Option TaskId} {n : TaskId}

theorem begunBefore (h : b.Does done x b') (hn : n ≤ b.nextTask) :
    b'.begunBefore n = (b.begunBefore n).filter (some ·.1 ≠ done) := by
  have hnew : (x.left.toList.map fun t => (b.nextTask, t)).filter (·.1 < n) = [] := by
    refine List.filter_eq_nil_iff.2 fun p hp => ?_
    obtain ⟨t, -, rfl⟩ := List.mem_map.1 hp
    simpa using hn
  rw [Bridge.begunBefore, h.tasks, List.filter_append, hnew, List.append_nil, Bridge.begunBefore,
    List.filter_filter, List.filter_filter]
  exact List.filter_congr fun p _ => Bool.and_comm _ _

theorem begunSince (h : b.Does done x b') (hn : n ≤ b.nextTask)
    (ho : ∀ id, done = some id → id < n) :
    b'.begunSince n = b.begunSince n ++ x.left.toList := by
  have hnew : (x.left.toList.map fun t => (b.nextTask, t)).filter (n ≤ ·.1) =
      x.left.toList.map fun t => (b.nextTask, t) := by
    refine List.filter_eq_self.2 fun p hp => ?_
    obtain ⟨t, -, rfl⟩ := List.mem_map.1 hp
    simpa using hn
  have hold : (b.tasks.filter (some ·.1 ≠ done)).filter (n ≤ ·.1) = b.tasks.filter (n ≤ ·.1) := by
    rw [List.filter_filter]
    refine List.filter_congr fun p _ => ?_
    -- what is over had begun before
    by_cases hp : n ≤ p.1
    · have hne : some p.1 ≠ done := fun he => Nat.not_lt_of_ge hp (ho p.1 he.symm)
      simp [hp, hne]
    · simp [hp]
  rw [Bridge.begunSince, h.tasks, List.filter_append, hnew, hold, List.map_append,
    Bridge.begunSince, List.map_map]
  simp [Function.comp_def]

/-- A task that is not over is where it was. -/
theorem task? (h : b.Does done x b') (hb' : BridgeOK b' none none) (hid : some id ≠ done)
    (ht : b.task? id = some task) : b'.task? id = some task := by
  refine task?_of_mem hb'.nodup ?_
  rw [h.tasks]
  exact List.mem_append_left _ (List.mem_filter.2 ⟨mem_of_task? ht, decide_eq_true hid⟩)

/-- **Two steps that do the same in either order.** -/
theorem comm {b₁ b₂ b₁₂ b₂₁ : Bridge} {y : Effect} {done' : Option TaskId}
    (h₁ : b.Does done x b₁) (h₁₂ : b₁.Does done' y b₁₂) (h₂ : b.Does done' y b₂)
    (h₂₁ : b₂.Does done x b₂₁) (hxy : x.patch.Apart y.patch)
    (ho : ∀ id, done = some id → id < b.nextTask) (ho' : ∀ id, done' = some id → id < b.nextTask) :
    b₁₂.Agrees b.nextTask b₂₁ where
  registry := h₁.registry.comm h₁₂.registry h₂.registry h₂₁.registry hxy
  begunBefore := by
    have hn₁ : b.nextTask ≤ b₁.nextTask := h₁.nextTask ▸ Nat.le_add_right _ _
    have hn₂ : b.nextTask ≤ b₂.nextTask := h₂.nextTask ▸ Nat.le_add_right _ _
    rw [h₂₁.begunBefore hn₂, h₂.begunBefore (Nat.le_refl _), h₁₂.begunBefore hn₁,
      h₁.begunBefore (Nat.le_refl _), List.filter_filter, List.filter_filter]
    exact List.filter_congr fun p _ => Bool.and_comm _ _
  begunSince := by
    have hn₁ : b.nextTask ≤ b₁.nextTask := h₁.nextTask ▸ Nat.le_add_right _ _
    have hn₂ : b.nextTask ≤ b₂.nextTask := h₂.nextTask ▸ Nat.le_add_right _ _
    rw [h₂₁.begunSince hn₂ ho, h₂.begunSince (Nat.le_refl _) ho', h₁₂.begunSince hn₁ ho',
      h₁.begunSince (Nat.le_refl _) ho, List.append_assoc, List.append_assoc]
    exact List.perm_append_comm.append_left _
  nextTask := by
    rw [h₂₁.nextTask, h₂.nextTask, h₁₂.nextTask, h₁.nextTask, Nat.add_right_comm]
  tracker := by
    rw [h₂₁.tracker, h₂.tracker, h₁₂.tracker, h₁.tracker]
    simp only [Nat.add_right_comm]
  service := by rw [h₂₁.service, h₂.service, h₁₂.service, h₁.service]
  config := by rw [h₂₁.config, h₂.config, h₁₂.config, h₁.config]
  hasRuntime := by rw [h₂₁.hasRuntime, h₂.hasRuntime, h₁₂.hasRuntime, h₁.hasRuntime]

end Does

/-- The task that has a turn in a step had begun before. -/
theorem addressee?_begun (hb : BridgeOK b none none) (ha : b.addressee? e = some t)
    (id : TaskId) (he : e.task? = some id) : e = .turn id ∧ id < b.nextTask := by
  cases e with
  | turn x =>
    obtain rfl := Option.some.inj he
    obtain ⟨stage, hs, -⟩ := Option.bind_eq_some_iff.1 ha
    obtain ⟨task, htask, -⟩ := Option.bind_eq_some_iff.1 hs
    exact ⟨rfl, hb.lt_nextTask htask⟩
  | abandon x => cases ha
  | _ => cases he

/-- After a step on an unrelated resource, a step finds everything as it was. -/
theorem Does.shares (h : b.Does e'.task? x (b.step e')) (hb : b.Reachable)
    (hx : x.patch.Within b.registry P') (ha : b.addressee? e = some t)
    (ha' : b.addressee? e' = some t') (ht : b.registry.place? t = some P)
    (ht' : b.registry.place? t' = some P') (hP : P.IsUnrelated P') :
    b.Shares e P (b.step e') where
  ok := (Reachable.step e' hb).ok
  registry := h.registry.keeps hx hb.ok.registry ⟨t, ht⟩ ⟨t', ht'⟩ hP
  task id task he htask := by
    refine h.task? (Reachable.step e' hb).ok (fun hid => ?_) htask
    -- a task is about one resource
    obtain ⟨he', -⟩ := addressee?_begun hb.ok ha' id hid.symm
    rw [he, ← he', ha'] at ha
    obtain rfl := Option.some.inj ha
    exact hP.ne (Option.some.inj (ht.symm.trans ht'))
  hasRuntime := h.hasRuntime

end Bridge

open Bridge in
/-- **Steps on unrelated resources commute.** Two steps close live resources or end the pull of live
readers, and neither resource is the other one or above it. In either order each
of them answers the same, and the bridge is the same afterwards, but for the
order of the work that was left to the background and the order in which a
session knows its exhausted readers. -/
theorem unrelated_steps_commute (hb : b.Reachable) (ha : b.addressee? e = some t)
    (ha' : b.addressee? e' = some t') (ht : b.registry.place? t = some P)
    (ht' : b.registry.place? t' = some P') (hP : P.IsUnrelated P')
    (hends : (b.answer? e).isSome) (hends' : (b.answer? e').isSome) :
    (b.step e').answer? e = b.answer? e ∧ (b.step e).answer? e' = b.answer? e' ∧
      ((b.step e).step e').Agrees b.nextTask ((b.step e').step e) := by
  obtain ⟨x, hx, hdoes⟩ := step_effect hb.ok ha ht hends
  obtain ⟨y, hy, hdoes'⟩ := step_effect hb.ok ha' ht' hends'
  have hself : ∀ e P, b.Shares e P b := fun e P => ⟨hb.ok, .refl _ _, fun _ _ _ h => h, rfl⟩
  obtain ⟨h₁, hd₁⟩ := hdoes b (hself e P)
  obtain ⟨h₂, hd₂⟩ := hdoes' b (hself e' P')
  -- each step finds its resource as it was before the other one
  obtain ⟨h₁', hd₂₁⟩ := hdoes _ (hd₂.shares hb hy ha ha' ht ht' hP)
  obtain ⟨h₂', hd₁₂⟩ := hdoes' _ (hd₁.shares hb hx ha' ha ht' ht hP.symm)
  refine ⟨h₁'.trans h₁.symm, h₂'.trans h₂.symm, hd₁.comm hd₁₂ hd₂ hd₂₁ ?_ ?_ ?_⟩
  · exact hx.apart hy hb.ok.registry ⟨t, ht⟩ ⟨t', ht'⟩ hP
  · exact fun id hid => (addressee?_begun hb.ok ha id hid).2
  · exact fun id hid => (addressee?_begun hb.ok ha' id hid).2

/-- Two readers of one session, whose streams have ended, and a pull of each. -/
def Bridge.twoAtEnd : Bridge :=
  oneOfEach.after [.call (.executeQuery ⟨1⟩ "q"), .turn 4, .turn 3, .turn 3, .turn 5, .turn 5,
    .call (.read ⟨1⟩ .next), .call (.read ⟨2⟩ .available)]

/-- Both pulls meet the end in either order, which the session remembers. -/
theorem unrelated_steps_commute_twoAtEnd :
    let b := Bridge.twoAtEnd
    ((b.step (.turn 7)).answer? (.turn 6) = some (.replied (.chunk none)) ∧
      (b.step (.turn 6)).answer? (.turn 7) = some (.replied (.batch [] true)) ∧
      ((b.step (.turn 6)).step (.turn 7)).Agrees b.nextTask ((b.step (.turn 7)).step (.turn 6))) ∧
      (((b.step (.turn 6)).step (.turn 7)).registry.session ⟨1⟩).exhausted = [⟨1⟩, ⟨2⟩] ∧
      (((b.step (.turn 7)).step (.turn 6)).registry.session ⟨1⟩).exhausted = [⟨2⟩, ⟨1⟩] := by
  intro b
  have hb : b.Reachable := Bridge.oneOfEach_reachable.after _
  have ha : b.addressee? (.turn 6) = some (.reader ⟨1⟩) := by decide +kernel
  have ha' : b.addressee? (.turn 7) = some (.reader ⟨2⟩) := by decide +kernel
  have ht : b.registry.place? (.reader ⟨1⟩) = some (.reader ⟨1⟩ ⟨1⟩ ⟨1⟩) := by decide +kernel
  have ht' : b.registry.place? (.reader ⟨2⟩) = some (.reader ⟨1⟩ ⟨1⟩ ⟨2⟩) := by decide +kernel
  obtain ⟨h₁, h₂, hagrees⟩ := unrelated_steps_commute hb ha ha' ht ht' ⟨rfl, rfl⟩
    (by decide +kernel) (by decide +kernel)
  refine ⟨⟨h₁.trans ?_, h₂.trans ?_, hagrees⟩, ?_, ?_⟩ <;> decide +kernel

end QueryBridge
