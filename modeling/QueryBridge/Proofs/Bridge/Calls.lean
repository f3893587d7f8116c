import QueryBridge.Proofs.Bridge.Steps

/-!
# Calls by their turns

A call has turns until it ends, whether it was made by a caller or came over
the wire.

* `Bridge.poll_call`, `call_turned`: the turn of a task that is a call.
* `Bridge.poll_of_no_call`: the turn of any other one.
* `Bridge.pollCall_ends`, `Bridge.pollCall_stays`: what comes of the turn.
* `TaskKind`, `step_kind`: what a task stays, however far it comes.
-/

namespace QueryBridge

variable {b : Bridge} {id : TaskId} {t : Task} {stage : Stage}

/-- How far the call of a task has come. -/
def Task.stage? : Task → Option Stage
  | .payload text => (RequestEnvelope.decode text).toOption.map (.fresh ·.request.call)
  | .call _ stage => some stage
  | .pump .. | .farewell .. => none

/-- The number of the request that a task is the call of. -/
def Task.request? : Task → Option UInt64
  | .payload text => (RequestEnvelope.decode text).toOption.map RequestEnvelope.id
  | .call envelope _ => envelope
  | .pump .. | .farewell .. => none

/-- What is told of how the call of a task ended. -/
def Task.told (t : Task) (o : Outcome) : Outcome := t.request?.elim o o.enveloped

namespace Bridge

theorem poll_call (ht : b.task? id = some t) (hs : t.stage? = some stage) :
    b.poll id = (b.takeTurn id).pollCall id t.request? stage := by
  unfold poll
  rw [ht]
  cases t with
  | payload text =>
    simp only [Task.stage?] at hs
    cases hd : RequestEnvelope.decode text with
    | error p => rw [hd] at hs; cases hs
    | ok e =>
      rw [hd] at hs
      obtain rfl := Option.some.inj hs
      simp only [Task.request?, hd]
      rfl
  | call envelope stage' =>
    obtain rfl := Option.some.inj hs
    rfl
  | pump h e stream inHand => cases hs
  | farewell client held left => cases hs

/-- A task that is over has no turns. -/
theorem poll_over (ht : b.task? id = none) : b.poll id = (none, b) := by
  unfold poll
  rw [ht]

theorem poll_pump {h : ReaderHandle} {e : Reader} {stream : Stream} {frame : Option Frame}
    (ht : b.task? id = some (.pump h e stream frame)) :
    b.poll id = (none, afterBackground id ((b.takeTurn id).pump id h e stream frame)) := by
  unfold poll
  rw [ht]

/-- **A turn of whatever is no call**: of no task, of a text that holds no
request, or of work in the background. -/
theorem poll_of_no_call (hs : (b.task? id).bind Task.stage? = none) :
    (b.poll id).2 = b ∨
    (∃ text, b.task? id = some (.payload text) ∧
      (b.poll id).2 = (b.takeTurn id).conclude id) ∨
    (∃ h e stream frame, b.task? id = some (.pump h e stream frame) ∧
      (b.poll id).2 = afterBackground id ((b.takeTurn id).pump id h e stream frame)) ∨
    ∃ client held left, b.task? id = some (.farewell client held left) ∧
      (b.poll id).2 = afterBackground id ((b.takeTurn id).farewell id client held left) := by
  unfold poll
  cases ht : b.task? id with
  | none => exact .inl rfl
  | some t =>
    rw [ht, Option.bind_some] at hs
    cases t with
    | payload text =>
      refine .inr (.inl ⟨text, rfl, ?_⟩)
      dsimp only
      split
      · rfl
      · rename_i e he
        simp only [Task.stage?, he] at hs
        cases hs
    | call envelope stage => cases hs
    | pump h e stream frame => exact .inr (.inr (.inl ⟨h, e, stream, frame, rfl, rfl⟩))
    | farewell client held left => exact .inr (.inr (.inr ⟨client, held, left, rfl, rfl⟩))

/-- What a call remembers is so when its turn begins. -/
theorem call_ok (hb : BridgeOK b none none) (ht : b.task? id = some t)
    (hs : t.stage? = some stage) :
    BridgeOK (b.takeTurn id) (some id) (Task.call none stage).stream? ∧
      StageOK (b.takeTurn id) stage ∧ HoldsLock (b.takeTurn id) id (.call none stage) := by
  have hok := hb.takeTurn ht
  cases t with
  | payload text =>
    simp only [Task.stage?, Option.map_eq_some_iff] at hs
    obtain ⟨e, -, rfl⟩ := hs
    exact ⟨hok, trivial, trivial⟩
  | call envelope stage' =>
    obtain rfl := Option.some.inj hs
    rw [Task.stream?_call] at hok
    refine ⟨hok, (b.takeTurn_aside id).later.taskOK (hb.task ht), ?_⟩
    have hk := hb.locks _ (mem_of_task? ht) nofun
    cases stage' <;> exact hk
  | pump h e stream inHand => cases hs
  | farewell client held left => cases hs

/-- A turn that a call has is told of. -/
theorem call_turned (hb : BridgeOK b none none) (ht : b.task? id = some t)
    (hs : t.stage? = some stage) :
    BridgeOK (b.takeTurn id) (some id) (Task.call none stage).stream? ∧
      Turned id stage.reader? (b.takeTurn id) (Task.call none stage).stream?
        ((b.takeTurn id).turn id stage) := by
  obtain ⟨hok, hstage, hk⟩ := call_ok hb ht hs
  exact ⟨hok, turn_turned hok hstage hk⟩

/-! ## What comes of a turn -/

theorem afterBackground_registry (id : TaskId) (p : Progress Task Unit × Bridge) :
    (afterBackground id p).registry = p.2.registry := by
  obtain ⟨q, b⟩ := p
  cases q with
  | ends u => simp [afterBackground, concludeBackground, conclude]
  | waits t => rfl
  | goesOn t => rfl

variable (b : Bridge) (id : TaskId) (request : Option UInt64) (stage : Stage)

theorem pollCall_registry :
    (b.pollCall id request stage).2.registry = (b.turn id stage).2.registry := by
  unfold pollCall
  split <;> rename_i hr <;> rw [hr]
  · rfl
  · dsimp only
    split
    · exact (wake_aside _ id).registry
    · rfl
  · rfl

variable {b id stage}

theorem pollCall_of_ends {o : Outcome} (h : (b.turn id stage).1 = .ends o) :
    b.pollCall id request stage =
      (some (request.elim o o.enveloped), (b.turn id stage).2.conclude id) := by
  unfold pollCall
  generalize b.turn id stage = t at h ⊢
  obtain ⟨q, b'⟩ := t
  obtain rfl : q = .ends o := h
  rfl

/-- A call that has ended is over. -/
theorem pollCall_ends {o : Outcome} (h : (b.turn id stage).1 = .ends o) :
    (b.pollCall id request stage).1 = some (request.elim o o.enveloped) ∧
      (b.pollCall id request stage).2.task? id = none := by
  unfold pollCall
  split <;> rename_i hr <;> rw [hr] at h
  · obtain rfl := Progress.ends.inj h
    exact ⟨rfl, task?_conclude _ id⟩
  · cases h
  · cases h

/-- A call that has not ended is where its turn has brought it. -/
theorem pollCall_stays {stage' : Stage} (ht : (b.turn id stage).2.task? id = some t)
    (h : (b.turn id stage).1 = .waits stage' ∨ (b.turn id stage).1 = .goesOn stage') :
    (b.pollCall id request stage).1 = none ∧
      (b.pollCall id request stage).2.task? id = some (.call request stage') := by
  unfold pollCall
  split <;> rename_i hr <;> rw [hr] at h ht
  · rcases h with h | h <;> cases h
  · obtain rfl : _ = stage' := by simpa using h
    refine ⟨rfl, ?_⟩
    dsimp only
    split
    · rw [(wake_aside _ id).task?]
      exact task?_setTask ht _
    · exact task?_setTask ht _
  · obtain rfl : _ = stage' := by simpa using h
    exact ⟨rfl, task?_setTask ht _⟩

/-- **A turn of a call** ends it, or brings it to another place. -/
theorem poll_call_cases (hb : BridgeOK b none none) (ht : b.task? id = some t)
    (hs : t.stage? = some stage) :
    (∃ o, ((b.takeTurn id).turn id stage).1 = .ends o ∧ (b.poll id).1 = some (t.told o) ∧
      (b.poll id).2.task? id = none) ∨
    ∃ s, (((b.takeTurn id).turn id stage).1 = .waits s ∨
        ((b.takeTurn id).turn id stage).1 = .goesOn s) ∧
      (b.poll id).1 = none ∧ (b.poll id).2.task? id = some (.call t.request? s) := by
  obtain ⟨hok, ns, hm, -, -⟩ := call_turned hb ht hs
  -- the moves of a turn take no task away, so this one is there to be put elsewhere
  have hkept : Kept none _ _ := hm.kept hok
  have hlive : ((b.takeTurn id).turn id stage).2.task? id = some t := hkept.keeps id t nofun ht
  rw [poll_call ht hs]
  cases h : ((b.takeTurn id).turn id stage).1 with
  | ends o => exact .inl ⟨o, rfl, pollCall_ends _ h⟩
  | waits s => exact .inr ⟨s, .inl rfl, pollCall_stays _ hlive (.inl h)⟩
  | goesOn s => exact .inr ⟨s, .inr rfl, pollCall_stays _ hlive (.inr h)⟩

/-- A call that ends in its turn and changes nothing. -/
theorem poll_of_turn {o : Outcome} (ht : b.task? id = some t) (hs : t.stage? = some stage)
    (hturn : (b.takeTurn id).turn id stage = (.ends o, b.takeTurn id)) :
    b.poll id = (some (t.told o), (b.takeTurn id).conclude id) := by
  rw [poll_call ht hs]
  unfold pollCall
  rw [hturn]
  rfl

/-- A call that its caller gives up is over. -/
theorem abandon_over (hb : BridgeOK b none none) (ht : b.task? id = some t)
    (hs : t.stage? = some stage) : (b.abandon id).task? id = none := by
  unfold abandon
  rw [ht]
  cases t with
  | payload text => exact task?_conclude b id
  | call envelope stage' =>
    have hok := hb.givenUp ht
    rw [Task.stream?_call] at hok
    have hkept : Kept none _ _ := (release_quietly (b.conclude id) id stage').kept hok
    exact hkept.gone id (hb.lt_nextTask ht) (task?_conclude b id)
  | pump h e stream inHand => cases hs
  | farewell client held left => cases hs

end Bridge

/-! ## What a task stays -/

/-- What a task stays until it is over: the work of a caller, the pump of a reader, or a farewell
to a client. -/
inductive TaskKind
  | caller
  | pump (reader : ReaderHandle) (entry : Reader)
  | farewell (client : ClientId)
deriving DecidableEq

def Task.kind : Task → TaskKind
  | .payload _ | .call .. => .caller
  | .pump h e _ _ => .pump h e
  | .farewell client _ _ => .farewell client

theorem Task.kind_of_stage? (hs : t.stage? = some stage) : t.kind = .caller := by
  cases t with
  | payload text => rfl
  | call request stage' => rfl
  | pump h e stream inHand => cases hs
  | farewell client held left => cases hs

namespace Bridge

variable {t' : Task}

theorem eq_of_task?_setTask (ht : (b.setTask id t).task? id = some t') : t' = t := by
  obtain ⟨u, -, hu⟩ := List.mem_map.1 (mem_of_task? ht)
  split at hu
  · exact (Prod.mk.inj hu).2.symm
  · rename_i hne
    exact absurd (congrArg Prod.fst hu) hne

/-- Work in the background that is not over is where its turn has left it. -/
theorem afterBackground_task? {p : Progress Task Unit × Bridge}
    (ht : (afterBackground id p).task? id = some t) : p.1 = .waits t ∨ p.1 = .goesOn t := by
  obtain ⟨q, b⟩ := p
  cases q with
  | ends u =>
    have hover : (b.concludeBackground id).task? id = none :=
      (wakeAll_aside _ _).task? id |>.trans (task?_conclude b id)
    rw [show (afterBackground id (.ends u, b)).task? id = none from hover] at ht
    cases ht
  | waits u => exact .inl (congrArg _ (eq_of_task?_setTask ht).symm)
  | goesOn u =>
    have hset : (b.setTask id u).task? id = some t := (goOn_aside _ id).task? id |>.symm.trans ht
    exact .inr (congrArg _ (eq_of_task?_setTask hset).symm)

/-- A task that is not over after its turn is what it was. -/
theorem poll_kind (hb : BridgeOK b none none) (ht : b.task? id = some t)
    (ht' : (b.poll id).2.task? id = some t') : t'.kind = t.kind := by
  cases hs : t.stage? with
  | some stage =>
    rw [Task.kind_of_stage? hs]
    rcases poll_call_cases hb ht hs with ⟨o, -, -, hover⟩ | ⟨s, -, -, hnew⟩
    · rw [hover] at ht'
      cases ht'
    · rw [← Option.some.inj (hnew.symm.trans ht')]
      rfl
  | none =>
    have hnocall : (b.task? id).bind Task.stage? = none := by rw [ht, Option.bind_some, hs]
    rcases poll_of_no_call hnocall with hsame | ⟨text, -, hpoll⟩ |
      ⟨h, e, stream, frame, htask, hpoll⟩ | ⟨client, held, left, htask, hpoll⟩
    · rw [hsame, ht] at ht'
      rw [Option.some.inj ht']
    · rw [hpoll, task?_conclude] at ht'
      cases ht'
    -- a pump that goes on is a pump, and a farewell a farewell
    · obtain rfl := Option.some.inj (ht.symm.trans htask)
      rw [hpoll] at ht'
      obtain ⟨stream', frame', rfl⟩ :=
        (pump_pumped _ id h e stream frame).place (afterBackground_task? ht')
      rfl
    · obtain rfl := Option.some.inj (ht.symm.trans htask)
      rw [hpoll] at ht'
      obtain ⟨held', left', rfl⟩ :=
        farewell_place _ id client held left (afterBackground_task? ht')
      rfl

/-- Nobody gives up work in the background, and a call that is given up is over. -/
theorem abandon_kind (hb : BridgeOK b none none) (ht : b.task? id = some t)
    (ht' : (b.abandon id).task? id = some t') : t'.kind = t.kind := by
  cases hs : t.stage? with
  | some stage =>
    rw [abandon_over hb ht hs] at ht'
    cases ht'
  | none =>
    unfold abandon at ht'
    rw [ht] at ht'
    cases t with
    | payload text =>
      rw [task?_conclude] at ht'
      cases ht'
    | call request stage => cases hs
    | pump h e stream frame => rw [Option.some.inj (ht.symm.trans ht')]
    | farewell client held left => rw [Option.some.inj (ht.symm.trans ht')]

/-- **A task that is not over is what it was**, whatever happens. -/
theorem step_kind (hb : BridgeOK b none none) (ht : b.task? id = some t) (e : Event)
    (ht' : (b.step e).task? id = some t') : t'.kind = t.kind := by
  by_cases he : e.task? = some id
  · cases e with
    | turn y =>
      obtain rfl := Option.some.inj he
      exact poll_kind hb ht ht'
    | abandon y =>
      obtain rfl := Option.some.inj he
      exact abandon_kind hb ht ht'
    | call c => cases he
    | payload text => cases he
    | close target => cases he
    | far act => cases he
    | runtime x => cases he
  · have hsame := (step_steps hb e).keeps id t (Ne.symm he) ht
    rw [Option.some.inj (hsame.symm.trans ht')]

/-- A task that is not over at the end of a run is what it was. -/
theorem after_kind (es : List Event) (hb : BridgeOK b none none) (ht : b.task? id = some t)
    (ht' : (b.after es).task? id = some t') : t'.kind = t.kind := by
  induction es generalizing b t with
  | nil => rw [Option.some.inj (ht.symm.trans ht')]
  | cons e es ih =>
    have hstep := step_steps hb e
    cases hu : (b.step e).task? id with
    | none => exact absurd hu (step_live hb ht ht')
    | some u => exact (ih hstep.ok hu ht').trans (step_kind hb ht e hu)

end Bridge

end QueryBridge
