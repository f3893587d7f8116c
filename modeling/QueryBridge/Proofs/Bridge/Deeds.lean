import QueryBridge.Proofs.Bridge.Readings
import QueryBridge.Proofs.Registry.Reach

/-!
# What an event does to the registry

Whatever happens, a reader may meet the end of its stream first, then resources
are closed one after another, and at last one resource may be registered. What
these are can be read off the turn that a task has.

* `Bridge.metIn`, `Bridge.closedIn`, `Bridge.registeredIn`: the deeds of an event.
* `step_deeds`: no event does anything else to the registry.
-/

namespace QueryBridge

variable {r r' : Registry} {b b' : Bridge} {id : TaskId} {stage : Stage}

/-! ## Deeds of a registry -/

namespace Registry

/-- The end of a stream keeps the registry well formed, whoever meets it. -/
theorem Reads.ok {met : Option (ReaderHandle × StreamEnd)} (h : r.Reads met r')
    (hr : RegistryOK r) : RegistryOK r' := by
  cases h with
  | goesOn ha => exact ha.ok hr
  | metAgain hg ha => exact ha.ok hr
  | @finished x e r₁ _ hg ha hx =>
    have hunique : ∀ e', r₁.readers.get? x = some e' → e' = e := by
      intro e' he'
      rw [ha.readers, hg] at he'
      exact (Option.some.inj he').symm
    exact hx.ok (exhaust_sound hunique (ha.ok hr)).1
  | failed hg ha hx => exact hx.ok ((CloseStep.reader _ _).sound (ha.ok hr)).1

/-- The close of a reader concerns readers alone. -/
theorem closeReader_tables (r : Registry) (h : ReaderHandle) :
    (r.closeReader h).2.connections = r.connections ∧
      (r.closeReader h).2.sessions = r.sessions := by
  cases hg : r.readers.get? h with
  | none =>
    rw [closeReader_of_not_live hg]
    exact ⟨rfl, rfl⟩
  | some e =>
    unfold closeReader detachReader
    simp only [hg]
    split <;> exact ⟨rfl, rfl⟩

theorem exhaust_tables (r : Registry) (h : ReaderHandle) (e : Reader) :
    (r.exhaust h e).connections = r.connections ∧ (r.exhaust h e).sessions = r.sessions := by
  unfold exhaust
  dsimp only
  split <;> exact ⟨rfl, rfl⟩

/-- A reading concerns readers alone. -/
theorem Reads.tables {met : Option (ReaderHandle × StreamEnd)} (h : r.Reads met r') :
    r'.connections = r.connections ∧ r'.sessions = r.sessions := by
  cases h with
  | goesOn ha => exact ⟨ha.connections, ha.sessions⟩
  | metAgain _ ha => exact ⟨ha.connections, ha.sessions⟩
  | @finished x e r₁ _ _ ha hx =>
    obtain ⟨hc, hs⟩ := exhaust_tables r₁ x e
    exact ⟨(hx.connections.trans hc).trans ha.connections, (hx.sessions.trans hs).trans ha.sessions⟩
  | @failed x e r₁ _ _ ha hx =>
    obtain ⟨hc, hs⟩ := closeReader_tables r₁ x
    exact ⟨(hx.connections.trans hc).trans ha.connections, (hx.sessions.trans hs).trans ha.sessions⟩

/-- **One resource may be registered.** -/
inductive Adds (r : Registry) : Option Registration → Registry → Prop
  | nothing : Adds r none r
  | opened {e : Connection} {c : ConnectionHandle} {r' : Registry} :
    r.addConnection e = .ok (c, r') → Adds r (some (.opened c)) r'
  | created {e : Session} {s : SessionHandle} {r' : Registry} :
    r.addSession e = .ok (s, r') → Adds r (some (.created e.connection s)) r'
  | executed {e : Reader} {ch : Channel} {h : ReaderHandle} {r' : Registry} :
    r.addReader e ch = .ok (h, r') → Adds r (some (.executed h)) r'

end Registry

/-- The resource that a call has registered where it stands so after its turn. -/
def Stage.registersIn (stage : Stage) : Progress Stage Outcome → Option Registration
  | .ends o => stage.registers o
  | _ => none

namespace Bridge

theorem close_registry (b : Bridge) (t : Target) : (b.close t).registry = b.registry.close t := by
  cases t with
  | connection c =>
    show (b.closeConnection c).2.registry = _
    cases hc : b.registry.closeConnection c with
    | error f => simp only [closeConnection, Registry.close, hc]
    | ok p =>
      simp only [closeConnection, Registry.close, hc, sayFarewell, spawn_registry, wakeWithin,
        wakeAll_registry]
      rfl
  | session s =>
    show (b.closeSession s).2.registry = _
    cases hc : b.registry.closeSession s with
    | error f => simp only [closeSession, Registry.close, hc]
    | ok p =>
      simp only [closeSession, Registry.close, hc, sayFarewell, spawn_registry, wakeWithin,
        wakeAll_registry]
      rfl
  | reader h => exact b.closeReader_registry h

theorem closeAll_registry (ts : List Target) (b : Bridge) :
    (b.closeAll ts).registry = b.registry.closeAll ts := by
  induction ts generalizing b with
  | nil => rfl
  | cons t ts ih => rw [closeAll_cons, ih, close_registry, Registry.closeAll_cons]

theorem does_registry (b : Bridge) (e : Errand) :
    (b.does e).registry = b.registry.closeAll e.closed := closeAll_registry _ _

theorem disown_registry (b : Bridge) (g : Option (ClientId × RemoteClose)) :
    (b.disown g).registry = b.registry := by
  cases g with
  | none => rfl
  | some p => exact spawn_registry _ _

/-! ## The deeds of an event -/

/-- The turn that a call has in an event, and how the call stands after it. -/
def turnIn (b : Bridge) : Event → Option (Stage × Progress Stage Outcome)
  | .turn id => ((b.task? id).bind Task.stage?).map fun stage =>
    (stage, ((b.takeTurn id).turn id stage).1)
  | _ => none

/-- What a reading has met in an event, where its stream has no more data. -/
def metIn (b : Bridge) (e : Event) : Option (ReaderHandle × StreamEnd) :=
  (b.turnIn e).bind fun q => q.1.meets q.2

/-- The resource that was registered in an event, as the caller has been told. -/
def registeredIn (b : Bridge) (e : Event) : Option Registration :=
  (b.turnIn e).bind fun q => q.1.registersIn q.2

/-- What the service has created or opened in an event and has told the bridge of. -/
def grantedIn (b : Bridge) : Event → Option (ClientId × RemoteClose)
  | .turn id => ((b.task? id).bind Task.stage?).bind (b.takeTurn id).granted
  | _ => none

/-- What a turn of a call closes: what it was called for, what is closed from
inside of its calls on the service, and what it closes when it ends. -/
def closedBy (b : Bridge) (id : TaskId) : Stage → List Target
  | .fresh (.closeConnection c) => [.connection c]
  | .fresh (.closeSession s) => [.session s]
  | .fresh (.closeReader h) => [.reader h]
  | .fresh .shutdown => b.registry.connections.handles.map .connection
  | stage => (b.errand stage).closed ++ stage.closesAfter (b.turn id stage).1

/-- What is closed in an event, one thing after another, whether or not it is there. -/
def closedIn (b : Bridge) : Event → List Target
  | .close target => [target]
  | .turn id =>
    match b.task? id with
    | some (.farewell client held left) => (b.service.farewellErrand client held left).closed
    | some t => (t.stage?.map ((b.takeTurn id).closedBy id)).getD []
    | none => []
  | .abandon id =>
    match b.task? id with
    | some (.call _ stage) => stage.closesAfter (.ends .crashed)
    | _ => []
  | .call _ | .payload _ | .far _ | .runtime _ => []

/-! A turn of a call. -/

variable {t : Task}

theorem turnIn_call (ht : b.task? id = some t) (hs : t.stage? = some stage) :
    b.turnIn (.turn id) = some (stage, ((b.takeTurn id).turn id stage).1) := by
  rw [turnIn, ht, Option.bind_some, hs, Option.map_some]

theorem grantedIn_call (ht : b.task? id = some t) (hs : t.stage? = some stage) :
    b.grantedIn (.turn id) = (b.takeTurn id).granted stage := by
  rw [grantedIn, ht, Option.bind_some, hs, Option.bind_some]

theorem closedIn_call (ht : b.task? id = some t) (hs : t.stage? = some stage) :
    b.closedIn (.turn id) = (b.takeTurn id).closedBy id stage := by
  cases t with
  | farewell client held left => cases hs
  | _ => simp only [closedIn, ht, hs, Option.map_some, Option.getD_some]

/-! ## What turns do -/

variable {p : Progress Stage Outcome}

/-- A creation reads nothing, and closes nothing when it ends. -/
theorem creates_reading (hs : stage.creates = true) : stage.reading? = none := by
  cases stage with
  | fresh c => cases c <;> first | rfl | cases hs
  | awaitingTurn h e reading => cases hs
  | awaitingFrame h e reading => cases hs
  | _ => rfl

theorem meets_of_not_reading (hs : stage.reading? = none) : stage.meets p = none := by
  unfold Stage.meets
  rw [hs]
  split <;> rfl

theorem closesAfter_of_not_reading (hs : stage.reading? = none) : stage.closesAfter p = [] := by
  unfold Stage.closesAfter
  rw [hs]
  rfl

theorem registers_of_not_creates (hs : stage.creates = false) : stage.registersIn p = none := by
  cases p with
  | ends o =>
    cases stage with
    | fresh c => cases c <;> first | rfl | cases hs
    | awaitingTurn h e reading => rfl
    | awaitingFrame h e reading => rfl
    | draining => rfl
    | _ => cases hs
  | waits s => rfl
  | goesOn s => rfl

theorem registers_failed (f : Failure) : stage.registersIn (.ends (.failed f)) = none := by
  cases stage with
  | fresh c => cases c <;> rfl
  | _ => rfl

theorem registers_crashed : stage.registersIn (.ends .crashed) = none := by
  cases stage with
  | fresh c => cases c <;> rfl
  | _ => rfl

/-- Only a creation has a stream in hand. -/
theorem stream?_of_not_creates (hs : stage.creates = false) :
    (Task.call none stage).stream? = none := by
  cases stage with
  | executing s e stream held => cases hs
  | _ => rfl

/-- What the turn of a call does to the registry. -/
def TurnDeeds (b : Bridge) (id : TaskId) (stage : Stage) : Prop :=
  ∃ r₀, b.registry.Reads (stage.meets (b.turn id stage).1) r₀ ∧
    (r₀.closeAll (b.closedBy id stage)).Adds (stage.registersIn (b.turn id stage).1)
      (b.turn id stage).2.registry

/-- A creation closes nothing itself: what is closed in its turn is closed from
inside of its calls on the service. -/
theorem closedBy_creates (b : Bridge) (id : TaskId) (hs : stage.creates = true) :
    b.closedBy id stage = (b.errand stage).closed := by
  have hafter : (b.errand stage).closed ++ stage.closesAfter (b.turn id stage).1 =
      (b.errand stage).closed := by
    rw [closesAfter_of_not_reading (creates_reading hs), List.append_nil]
  cases stage with
  | fresh c => cases c <;> first | exact hafter | cases hs
  | _ => exact hafter

/-- **A turn of a creation** closes what its calls on the service close, and
registers what its caller is told of. -/
theorem creates_deeds (b : Bridge) (id : TaskId) (hs : stage.creates = true) :
    b.TurnDeeds id stage := by
  unfold TurnDeeds
  rw [b.closedBy_creates id hs, meets_of_not_reading (creates_reading hs)]
  refine ⟨b.registry, .goesOn (.refl _), ?_⟩
  rw [← b.does_registry (b.errand stage)]
  have hturn := b.turn_creates id hs
  generalize b.turn id stage = t at hturn ⊢
  cases hturn with
  | waits _ _ hl =>
    rw [hl.registry]
    exact .nothing
  | fails _ hl =>
    rw [hl.registry, disown_registry, registers_failed]
    exact .nothing
  | breaks _ hl =>
    rw [hl.registry, registers_crashed]
    exact .nothing
  | opens _ hregisters ha hl =>
    rw [hl.registry, Stage.registersIn, hregisters]
    exact .opened ha
  | creates _ hregisters ha hl =>
    rw [hl.registry, Stage.registersIn, hregisters]
    exact .created ha
  | executes _ hregisters ha hl =>
    rw [hl.registry, spawnOn_registry, Stage.registersIn, hregisters]
    exact .executed ha

/-- **A turn of a reading** registers nothing. -/
theorem reading_deeds {h : ReaderHandle} {reading : Reading} (hb : BridgeOK b (some id) none)
    (hspent : b.Spent) (hs : StageOK b stage) (hr : stage.reading? = some (h, reading)) :
    b.TurnDeeds id stage := by
  obtain ⟨b₀, -, hx, ht⟩ := turn_reads hb hspent hs hr
  have hcreates : stage.creates = false := by
    rw [Bool.eq_false_iff]
    intro hc
    rw [creates_reading hc] at hr
    cases hr
  have hclosed : b.closedBy id stage = stage.closesAfter (b.turn id stage).1 := by
    cases stage with
    | fresh c => cases c <;> first | rfl | cases hr
    | awaitingTurn x e reading => rfl
    | awaitingFrame x e reading => rfl
    | _ => cases hr
  refine ⟨b₀.registry, hx, ?_⟩
  rw [registers_of_not_creates hcreates, hclosed, ← closeAll_registry, ← ht]
  exact .nothing

theorem settle_level (b : Bridge) (id : TaskId) : b.Level (b.settle id).2 := by
  have h : b.Level ({ b with tracker := b.tracker.shut.2 }.wakeAll b.tracker.shut.1) :=
    (b.tracker_level _).trans (wakeAll_level _ _)
  unfold settle
  dsimp only
  split
  · exact h.trans (tracker_level _ _)
  · exact h.trans (tracker_level _ _)

theorem drain_level (b : Bridge) (id : TaskId) : b.Level (b.drain id).2 := by
  unfold drain
  split
  · exact b.tracker_level _
  · exact .refl b

theorem closed_level {p : Except Failure Unit × Bridge} (h : b.Level p.2) :
    b.Level (closed p).2 := by
  obtain ⟨_ | _, b'⟩ := p <;> exact h

/-- A turn that neither creates nor reads closes what it is called for, and does nothing else. -/
theorem other_level (b : Bridge) (id : TaskId) (hc : stage.creates = false)
    (hr : stage.reading? = none) :
    (b.closeAll (b.closedBy id stage)).Level (b.turn id stage).2 := by
  cases stage with
  | fresh c =>
    cases c with
    | closeConnection c =>
      exact closed_level (b := b.close (.connection c)) (p := b.closeConnection c) (.refl _)
    | closeSession s =>
      exact closed_level (b := b.close (.session s)) (p := b.closeSession s) (.refl _)
    | closeReader h => exact .refl (b.closeReader h)
    | settle => exact b.settle_level id
    | shutdown =>
      show (b.closeAll _).Level ((b.closeConnections b.registry.connections.handles).settle id).2
      rw [closeConnections_eq]
      exact settle_level _ id
    | read h reading => cases hr
    | _ => cases hc
  | draining => exact b.drain_level id
  | awaitingTurn h e reading => cases hr
  | awaitingFrame h e reading => cases hr
  | _ => cases hc

theorem other_deeds (b : Bridge) (id : TaskId) (hc : stage.creates = false)
    (hr : stage.reading? = none) : b.TurnDeeds id stage := by
  have hl := b.other_level id hc hr
  refine ⟨b.registry, ?_, ?_⟩
  · rw [meets_of_not_reading hr]
    exact .goesOn (.refl _)
  · rw [hl.registry, closeAll_registry, registers_of_not_creates hc]
    exact .nothing

/-- **Every turn of a call** has a reader meet the end of its stream, closes one
resource after another, and registers one. -/
theorem turn_deeds (hb : BridgeOK b (some id) (Task.call none stage).stream?) (hspent : b.Spent)
    (hs : StageOK b stage) : b.TurnDeeds id stage := by
  cases hc : stage.creates with
  | true => exact b.creates_deeds id hc
  | false =>
    cases hr : stage.reading? with
    | none => exact b.other_deeds id hc hr
    | some q =>
      rw [stream?_of_not_creates hc] at hb
      exact reading_deeds hb hspent hs hr

end Bridge

/-! ## The end of a turn -/

/-- A call that has ended is over. -/
theorem Bridge.pollCall_ended (request : Option UInt64) {o : Outcome}
    (h : (b.turn id stage).1 = .ends o) :
    ((b.turn id stage).2.conclude id).Level (b.pollCall id request stage).2 := by
  unfold pollCall
  generalize b.turn id stage = t at h
  obtain ⟨p, b'⟩ := t
  cases h
  exact .refl _

/-- A call that has not ended is in another place. -/
theorem Bridge.pollCall_placed (request : Option UInt64) {s : Stage}
    (h : (b.turn id stage).1 = .waits s ∨ (b.turn id stage).1 = .goesOn s) :
    ((b.turn id stage).2.setTask id (.call request s)).Level
      (b.pollCall id request stage).2 := by
  unfold pollCall
  generalize b.turn id stage = t at h
  obtain ⟨p, b'⟩ := t
  rcases h with h | h <;> cases h
  · dsimp only
    split
    · exact wake_level _ id
    · exact .refl _
  · exact goOn_level _ id

/-- After its turn a call is over, or in another place. -/
theorem Bridge.pollCall_level (b : Bridge) (id : TaskId) (request : Option UInt64)
    (stage : Stage) :
    (∃ o, (b.turn id stage).1 = .ends o ∧
      ((b.turn id stage).2.conclude id).Level (b.pollCall id request stage).2) ∨
    ∃ s, ((b.turn id stage).1 = .waits s ∨ (b.turn id stage).1 = .goesOn s) ∧
      ((b.turn id stage).2.setTask id (.call request s)).Level
        (b.pollCall id request stage).2 := by
  cases h : (b.turn id stage).1 with
  | ends o => exact .inl ⟨o, rfl, pollCall_ended request h⟩
  | waits s => exact .inr ⟨s, .inl rfl, pollCall_placed request (.inl h)⟩
  | goesOn s => exact .inr ⟨s, .inr rfl, pollCall_placed request (.inr h)⟩

/-- After its turn, work in the background is over, or in another place. -/
theorem Bridge.afterBackground_level (id : TaskId) (p : Progress Task Unit × Bridge) :
    p.1 = .ends () ∧ (p.2.conclude id).Level (afterBackground id p) ∨
    ∃ t, (p.1 = .waits t ∨ p.1 = .goesOn t) ∧
      (p.2.setTask id t).Level (afterBackground id p) := by
  obtain ⟨q, b⟩ := p
  cases q with
  | ends u =>
    refine .inl ⟨rfl, ?_⟩
    exact ((b.conclude id).tracker_level _).trans (wakeAll_level _ _)
  | waits t => exact .inr ⟨t, .inl rfl, .refl _⟩
  | goesOn t => exact .inr ⟨t, .inr rfl, goOn_level _ id⟩

/-- What the service does on its side changes its plans alone. -/
theorem Bridge.far_level (b : Bridge) (act : FarAct) : b.Level (b.far act) := by
  cases act with
  | refuse point message => exact .withService b rfl
  | plan point hooks => exact .withService b rfl
  | script text script => cases script <;> exact .withService b rfl
  | release gate =>
    have h : b.Level (b.withService (b.service.release gate).2) := .withService b rfl
    exact h.trans (wakeAll_level _ _)
  | feed n frames =>
    show b.Level (b.feed n frames).2
    induction frames generalizing b with
    | nil => exact .refl b
    | cons f fs ih =>
      have hcalls : (b.service.feed n f).2.2.calls = b.service.calls := by
        unfold Service.feed
        split
        · rfl
        · split <;> rfl
      have h : b.Level (b.withService (b.service.feed n f).2.2) := .withService b hcalls
      exact (h.trans (wakeAll_level _ _)).trans (ih _)
  | endFeed n =>
    have h : b.Level (b.withService (b.service.endFeed n).2) := .withService b rfl
    exact h.trans (wakeAll_level _ _)

/-! ## Every event -/

/-- What an event does to the registry. -/
def Bridge.StepDeeds (b : Bridge) (e : Event) : Prop :=
  ∃ r₀, b.registry.Reads (b.metIn e) r₀ ∧
    (r₀.closeAll (b.closedIn e)).Adds (b.registeredIn e) (b.step e).registry

/-- An event that nobody's call has a turn in closes at most. -/
theorem stepDeeds_of_closes {e : Event} {r₀ : Registry} (ht : b.turnIn e = none)
    (ha : b.registry.Alike r₀) (hr : (b.step e).registry = r₀.closeAll (b.closedIn e)) :
    b.StepDeeds e := by
  refine ⟨r₀, ?_, ?_⟩
  · rw [Bridge.metIn, ht]
    exact .goesOn ha
  · rw [Bridge.registeredIn, ht, hr]
    exact .nothing

theorem turn_stepDeeds (hb : BridgeOK b none none) (hspent : b.Spent) (id : TaskId) :
    b.StepDeeds (.turn id) := by
  cases hs : (b.task? id).bind Task.stage? with
  | some stage =>
    obtain ⟨t, ht, hst⟩ := Option.bind_eq_some_iff.1 hs
    obtain ⟨hok, hstage, -⟩ := Bridge.call_ok hb ht hst
    obtain ⟨r₀, hx, ha⟩ := Bridge.turn_deeds hok hspent hstage
    have hturn := Bridge.turnIn_call ht hst
    have hclosed := Bridge.closedIn_call ht hst
    refine ⟨r₀, ?_, ?_⟩
    · rw [Bridge.metIn, hturn]
      exact hx
    · rw [Bridge.registeredIn, hturn, hclosed]
      show (r₀.closeAll _).Adds _ (b.poll id).2.registry
      rw [Bridge.poll_call ht hst, Bridge.pollCall_registry]
      exact ha
  | none =>
    have hturn : b.turnIn (.turn id) = none := by rw [Bridge.turnIn, hs, Option.map_none]
    cases ht : b.task? id with
    | none =>
      refine stepDeeds_of_closes hturn (.refl _) ?_
      simp only [Bridge.step, Bridge.poll, Bridge.closedIn, ht]
      rfl
    | some t =>
      rw [ht, Option.bind_some] at hs
      cases t with
      | call envelope stage => cases hs
      | payload text =>
        have hclosed : b.closedIn (.turn id) = [] := by
          simp only [Bridge.closedIn, ht, hs, Option.map_none, Option.getD_none]
        refine stepDeeds_of_closes hturn (.refl _) ?_
        rw [hclosed]
        simp only [Bridge.step, Bridge.poll, ht]
        split
        · rfl
        · rename_i e he
          simp only [Task.stage?, he] at hs
          cases hs
      | pump x e stream frame =>
        have hclosed : b.closedIn (.turn id) = [] := by
          simp only [Bridge.closedIn, ht, hs, Option.map_none, Option.getD_none]
        refine stepDeeds_of_closes hturn ((b.takeTurn id).pump_alike id x e stream frame).2 ?_
        rw [hclosed]
        simp only [Bridge.step, Bridge.poll, ht]
        exact Bridge.afterBackground_registry id _
      | farewell client held left =>
        have hclosed : b.closedIn (.turn id) =
            (b.service.farewellErrand client held left).closed := by
          simp only [Bridge.closedIn, ht]
        have hl := (b.takeTurn id).farewell_level id client held left
        refine stepDeeds_of_closes hturn (.refl _) ?_
        rw [hclosed]
        simp only [Bridge.step, Bridge.poll, ht]
        rw [Bridge.afterBackground_registry, hl.registry, Bridge.does_registry]
        rfl

/-- A call that is given up closes what it closes when it ends. -/
theorem Bridge.release_level (b : Bridge) (id : TaskId) (stage : Stage) :
    ∃ b₀, b.Beside b₀ ∧ b.registry.Alike b₀.registry ∧
      (b₀.closeAll (stage.closesAfter (.ends .crashed))).Level (b.release id stage) := by
  have hread : ∀ (b₀ : Bridge) (h : ReaderHandle) (reading : Reading),
      (b₀.closeAll (reading.closes h (.ends .crashed))).Level
        (if reading.closesReader then b₀.closeReader h else b₀) := by
    intro b₀ h reading
    unfold Reading.closes
    dsimp only
    split <;> exact .refl _
  cases stage with
  | fresh c =>
    cases c with
    | read h reading => exact ⟨b, .refl b, .refl _, hread b h reading⟩
    | _ => exact ⟨b, .refl b, .refl _, .refl b⟩
  -- a reading may have the lock, or a place in the queue for it
  | awaitingTurn h e reading =>
    obtain ⟨hb, ha⟩ := b.giveUpLock_beside id h
    exact ⟨_, hb, ha, hread _ h reading⟩
  | awaitingFrame h e reading =>
    obtain ⟨hb, ha⟩ := b.giveUpLock_beside id h
    exact ⟨_, hb, ha, hread _ h reading⟩
  | executing s e stream held => exact ⟨b, .refl b, .refl _, b.dropStream_level stream⟩
  | draining => exact ⟨b, .refl b, .refl _, b.tracker_level _⟩
  | _ => exact ⟨b, .refl b, .refl _, .refl b⟩

/-- **Whatever happens**, a reader may meet the end of its stream, then resources
are closed one after another, and then one may be registered. -/
theorem step_deeds (hb : BridgeOK b none none) (hspent : b.Spent) (e : Event) :
    b.StepDeeds e := by
  cases e with
  | call c => exact stepDeeds_of_closes rfl (.refl _) rfl
  | payload text => exact stepDeeds_of_closes rfl (.refl _) rfl
  | close target => exact stepDeeds_of_closes rfl (.refl _) (b.close_registry target)
  | turn id => exact turn_stepDeeds hb hspent id
  | abandon id =>
    cases ht : b.task? id with
    | none =>
      refine stepDeeds_of_closes rfl (.refl _) ?_
      simp only [Bridge.step, Bridge.abandon, Bridge.closedIn, ht]
      rfl
    | some t =>
      cases t with
      | call envelope stage =>
        obtain ⟨b₀, -, ha, hl⟩ := (b.conclude id).release_level id stage
        refine stepDeeds_of_closes rfl ha ?_
        simp only [Bridge.step, Bridge.abandon, Bridge.closedIn, ht]
        rw [hl.registry, Bridge.closeAll_registry]
      | _ =>
        refine stepDeeds_of_closes rfl (.refl _) ?_
        simp only [Bridge.step, Bridge.abandon, Bridge.closedIn, ht]
        rfl
  | far act => exact stepDeeds_of_closes rfl (.refl _) (b.far_level act).registry
  | runtime x => exact stepDeeds_of_closes rfl (.refl _) rfl

end QueryBridge
