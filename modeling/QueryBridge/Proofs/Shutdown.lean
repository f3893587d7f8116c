import QueryBridge.Proofs.Bridge.Deeds
import QueryBridge.Proofs.Bridge.Tracking
import QueryBridge.Proofs.InFlight

/-!
# Shutdown

A shutdown closes all connections in its first turn, and everything below them goes
with them. Then it drains, as settling does: when it returns, all work in the
background that was under way is over.

* `Registry.IsEmpty`: nothing is live, and no reader is remembered.
* `waiting_cancelled`: where all connections are gone, whoever waits below one is cancelled.
* `drained_moment`: a drain returns after a moment at which nothing was under way.
* `after_opens`: what is live was live before or has been opened since.
* `shutdown_empties`: a shutdown, in every run.
-/

namespace QueryBridge

variable {r r' : Registry} {b b' : Bridge} {id x : TaskId} {t t' : Task} {stage : Stage}

/-! ## Without connections -/

/-- Nothing is live, and no reader that was read to its end is remembered. -/
structure Registry.IsEmpty (r : Registry) : Prop where
  connections : r.connections.live = ∅
  sessions : r.sessions.live = ∅
  readers : r.readers.live = ∅
  exhausted : r.exhausted = ∅

/-- A registry without connections is empty. -/
theorem RegistryOK.isEmpty (hr : RegistryOK r) (hc : ∀ c, r.connections.get? c = none) :
    r.IsEmpty := by
  have hsessions : ∀ s, r.sessions.get? s = none := by
    intro s
    cases hs : r.sessions.get? s with
    | none => rfl
    | some e =>
      obtain ⟨c, he, -⟩ := hr.parent s e hs
      rw [hc] at he
      cases he
  have hreaders : ∀ h, r.readers.get? h = none := by
    intro h
    cases hh : r.readers.get? h with
    | none => rfl
    | some e =>
      obtain ⟨s, he, -⟩ := hr.readParent h e hh
      rw [hsessions] at he
      cases he
  have hmarkers : ∀ h, r.exhausted.get? h = none := by
    intro h
    cases hh : r.exhausted.get? h with
    | none => rfl
    | some u =>
      obtain ⟨s, hs⟩ := hr.marked h (Option.isSome_iff_exists.2 ⟨u, hh⟩)
      obtain ⟨-, e, he⟩ := hr.ended s h hs
      rw [hsessions] at he
      cases he
  exact ⟨HandleMap.ext_get? hc, HandleMap.ext_get? hsessions, HandleMap.ext_get? hreaders,
    HandleMap.ext_get? hmarkers⟩

namespace Bridge

/-- What a call waits below is cancelled, or below a connection that was opened. -/
theorem waiting_below {place : Scope} (hb : BridgeOK b none none) (hs : StageOK b stage)
    (hp : stage.scope? = some place)
    (hread : ∀ h, stage.reader? = some h → (b.registry.reader h).state ≠ .exhausted) :
    b.registry.isCancelled place = true ∨
      ∃ c, b.registry.connections.Issued c ∧ place.isWithin (.connection c) = true := by
  have hr := hb.registry
  have hlive : ∀ (s : SessionHandle) (e : Session), b.registry.sessions.get? s = some e →
      b.registry.connections.Issued e.connection := by
    intro s e he
    obtain ⟨c, hc, -⟩ := hr.parent s e he
    exact HandleTable.issued_of_get? hc
  have hreader : ∀ (h : ReaderHandle) (e : Reader), b.registry.NamesReader h e →
      (b.registry.reader h).state ≠ .exhausted →
      b.registry.isCancelled (e.scope h) = true ∨
        ∃ c, b.registry.connections.Issued c ∧ (e.scope h).isWithin (.connection c) = true := by
    intro h e hn hne
    cases hst : (b.registry.reader h).state with
    | active =>
      obtain ⟨e', he'⟩ := (hr.active h).1 hst
      obtain rfl := hn.2 e' he'
      obtain ⟨s, hs, hc⟩ := hr.readParent h e' he'
      exact .inr ⟨e'.connection, hc ▸ hlive _ s hs, by simp [Reader.scope, Scope.isWithin]⟩
    | exhausted => exact absurd hst hne
    | closed => exact .inl (hr.cancelled_of_closed (by simp [Reader.scope, Scope.isWithin])
        (show b.registry.Closed (e.scope h) from ⟨hn.1, hst⟩))
  cases stage with
  | unanswered c =>
    obtain rfl := Option.some.inj hp
    exact .inr ⟨c, hs, by simp [Scope.isWithin]⟩
  | creating c client globalId held =>
    obtain rfl := Option.some.inj hp
    exact .inr ⟨c, hs.1, by simp [Scope.isWithin]⟩
  | executing s e stream held =>
    obtain rfl := Option.some.inj hp
    cases he : b.registry.sessions.get? s with
    | none => exact .inl (hr.cancelled_of_closed (by simp [Session.scope, Scope.isWithin])
        (show b.registry.Closed (e.scope s) from ⟨hs.1, he⟩))
    | some e' =>
      obtain rfl := hs.2 e' he
      exact .inr ⟨e'.connection, hlive s e' he, by simp [Session.scope, Scope.isWithin]⟩
  | awaitingTurn h e reading =>
    obtain rfl := Option.some.inj hp
    exact hreader h e hs (hread h rfl)
  | awaitingFrame h e reading =>
    obtain rfl := Option.some.inj hp
    exact hreader h e hs (hread h rfl)
  | fresh c => cases hp
  | connecting url client held => cases hp
  | opening url client held => cases hp
  | draining => cases hp

/-- **Where all connections are gone**, what a call waited below before is cancelled. -/
theorem waiting_cancelled {place : Scope} (hb : BridgeOK b none none) (hb' : BridgeOK b' none none)
    (hl : b.Later b') (hnone : ∀ c, b'.registry.connections.get? c = none) (hs : StageOK b stage)
    (hp : stage.scope? = some place)
    (hread : ∀ h, stage.reader? = some h → (b.registry.reader h).state ≠ .exhausted) :
    b'.registry.isCancelled place = true := by
  rcases waiting_below hb hs hp hread with hcan | ⟨c, hc, hwithin⟩
  · exact hl.registry.cancelled hb.registry hb'.registry hcan
  · have hclosed : b'.registry.Closed (.connection c) := ⟨hl.registry.connIssued hc, hnone c⟩
    exact hb'.registry.cancelled_of_closed hwithin hclosed

/-! ## The first turn -/

/-- The first turn of a shutdown closes every connection that is live. -/
theorem shutdown_connections (h : b.Reachable) (ht : b.task? id = some t)
    (hs : t.stage? = some (.fresh .shutdown)) (c : ConnectionHandle) :
    (b.step (.turn id)).registry.connections.get? c = none := by
  obtain ⟨r₀, hreads, hadds⟩ := step_deeds h.ok h.spent (.turn id)
  have hclosed : b.closedIn (.turn id) =
      b.registry.connections.handles.map .connection := closedIn_call ht hs
  have hregistered : b.registeredIn (.turn id) = none := by
    rw [registeredIn, turnIn_call ht hs, Option.bind_some]
    exact registers_of_not_creates rfl
  rw [hregistered, hclosed] at hadds
  generalize (b.step (.turn id)).registry = r₁ at hadds ⊢
  cases hadds
  have htakes := Registry.closeAll_takes (b.registry.connections.handles.map .connection)
    (hreads.ok h.ok.registry)
  rw [htakes.connections c]
  split
  · rfl
  · rename_i hnot
    rw [hreads.tables.1]
    cases hc : b.registry.connections.get? c with
    | none => rfl
    | some e =>
      refine absurd (List.mem_map.2 ⟨c, ?_, rfl⟩) hnot
      exact HandleMap.mem_keys_iff.2 (Option.isSome_iff_exists.2 ⟨e, hc⟩)

/-! ## Work in the background -/

/-- Work in the background is over where nothing is under way. -/
theorem background_over (es : List Event) (hb : BridgeOK b none none) (hx : x ∈ b.background)
    (hnone : (b.after es).background = []) : (b.after es).task? x = none := by
  induction es generalizing b with
  | nil =>
    rw [show b.background = [] from hnone] at hx
    cases hx
  | cons e es ih =>
    have hstep := step_steps hb e
    obtain ⟨t, ht, hbg⟩ := task?_of_mem_background hb.nodup hx
    cases ht' : (b.step e).task? x with
    | none =>
      have hid := Nat.lt_of_lt_of_le (hb.lt_nextTask ht) hstep.later.nextTask
      exact after_over es hstep.ok hid ht'
    | some t' =>
      have hbg' : t'.inBackground = true :=
        (Task.inBackground_congr (step_kind hb ht e ht')).trans hbg
      exact ih hstep.ok (mem_background ht' hbg') hnone

/-! ## The end of a drain -/

/-- **A drain that waits** returns only after a moment at which nothing was under way. -/
theorem drained_moment {o : Outcome} (es : List Event) (hok : BridgeOK b none none)
    (hb : b.Tracked none) (hw : id ∈ b.tracker.waiting) (ho : ((b.after es).poll id).1 = some o) :
    ∃ es₁ es₂, es = es₁ ++ es₂ ∧ (b.after es₁).background = [] := by
  induction es generalizing b with
  | nil =>
    obtain ⟨request, ht⟩ := (hb.drains id hw).call
    obtain ⟨-, -, ⟨-, hnone, -⟩ | ⟨hout, -⟩⟩ := drain_tends hok hb ht rfl
    · rw [show (b.poll id).1 = some o from ho] at hnone
      cases hnone
    · exact absurd hw hout
  | cons e es ih =>
    obtain ⟨request, ht⟩ := (hb.drains id hw).call
    have hstep := step_steps hok e
    obtain ⟨htracked, htends⟩ := step_tends hok hb e
    -- what is left to do as long as it has not been woken
    have hrest : id ∈ (b.step e).tracker.waiting →
        ∃ es₁ es₂, e :: es = es₁ ++ es₂ ∧ (b.after es₁).background = [] := by
      intro hw'
      obtain ⟨es₁, es₂, hes, hnone⟩ := ih hstep.ok htracked hw' ho
      exact ⟨e :: es₁, es₂, congrArg (e :: ·) hes, hnone⟩
    cases htends with
    | keeps e hshut hwaits => exact hrest (hwaits ▸ hw)
    | wakes e hnobody hnone => exact ⟨[e], es, rfl, hnone⟩
    | waits x hshut hwaits => exact hrest (hwaits ▸ List.mem_append_left _ hw)
    | opens x hd hout hopen hwaits => exact hrest (hwaits ▸ hw)
    | forgets x hshut hwaits =>
      by_cases hx : id = x
      · subst hx
        have hover : (b.step (.abandon id)).task? id = none := abandon_over hok ht rfl
        have hid := Nat.lt_of_lt_of_le (hok.lt_nextTask ht) hstep.later.nextTask
        have hgone := after_over es hstep.ok hid hover
        have hsilent : ((b.after (.abandon id :: es)).poll id).1 = none := by
          rw [after_cons, poll_over hgone]
        rw [ho] at hsilent
        cases hsilent
      · exact hrest (hwaits ▸ (List.mem_erase_of_ne hx).2 hw)

/-! ## What is opened -/

/-- A connection was opened in a run. -/
def OpenedIn (b : Bridge) (es : List Event) (c : ConnectionHandle) : Prop :=
  ∃ es₁ e es₂, es = es₁ ++ e :: es₂ ∧ (b.after es₁).registeredIn e = some (.opened c)

/-- A connection that is live was live before, or was opened. -/
theorem step_opens (hb : BridgeOK b none none) (hspent : b.Spent) {e : Event}
    {c : ConnectionHandle} {entry : Connection}
    (hc : (b.step e).registry.connections.get? c = some entry) :
    b.registry.connections.get? c = some entry ∨ b.registeredIn e = some (.opened c) := by
  obtain ⟨r₀, hreads, hadds⟩ := step_deeds hb hspent e
  have htakes := Registry.closeAll_takes (b.closedIn e) (hreads.ok hb.registry)
  have hclosed : ∀ c entry, (r₀.closeAll (b.closedIn e)).connections.get? c = some entry →
      b.registry.connections.get? c = some entry := by
    intro c entry hc
    rw [htakes.connections c, hreads.tables.1] at hc
    split at hc
    · cases hc
    · exact hc
  generalize (b.step e).registry = r₁ at hc hadds
  generalize b.registeredIn e = new at hadds ⊢
  cases hadds with
  | nothing => exact .inl (hclosed c entry hc)
  | opened ha =>
    obtain ⟨table, hal, rfl⟩ := addConnection_eq_ok ha
    rename_i c'
    by_cases hcc : c = c'
    · exact .inr (by rw [hcc])
    · have hold := ((HandleTable.allocate_eq_ok hal).2.2.2 c).symm.trans hc
      rw [if_neg hcc] at hold
      exact .inl (hclosed c entry hold)
  | created ha =>
    obtain ⟨table, -, rfl⟩ := addSession_eq_ok ha
    exact .inl (hclosed c entry hc)
  | executed ha =>
    obtain ⟨table, -, rfl⟩ := addReader_eq_ok ha
    exact .inl (hclosed c entry hc)

/-- **What is live was live before**, or was opened on the way. -/
theorem after_opens (es : List Event) (h : b.Reachable) {c : ConnectionHandle} {entry : Connection}
    (hc : (b.after es).registry.connections.get? c = some entry) :
    b.registry.connections.get? c = some entry ∨ b.OpenedIn es c := by
  induction es generalizing b with
  | nil => exact .inl hc
  | cons e es ih =>
    rcases ih (.step e h) hc with hlive | ⟨es₁, e', es₂, hes, hopened⟩
    · rcases step_opens h.ok h.spent hlive with hlive | hopened
      · exact .inl hlive
      · exact .inr ⟨[], e, es, rfl, hopened⟩
    · exact .inr ⟨e :: es₁, e', es₂, congrArg (e :: ·) hes, hopened⟩

/-! ## Every run -/

/-- A run leads from the first turn of a call to the turn in which it returns. -/
def ReturnsIn (b : Bridge) (id : TaskId) (es : List Event) : Prop :=
  es.head? = some (.turn id) ∧
    ∃ before o, es = before ++ [.turn id] ∧ ((b.after before).poll id).1 = some o

/-- What the first turn of a shutdown has done. -/
structure EmptiedBy (b : Bridge) (id : TaskId) : Prop where
  empty : (b.step (.turn id)).registry.IsEmpty
  /-- Whoever waited for something of a resource ends with its next turn, whenever
  that comes, because the resource is closed. -/
  closed : ∀ x t stage o es, b.task? x = some t → t.stage? = some stage →
    stage.whenCancelled? = some o →
    (∀ h, stage.reader? = some h → (b.registry.reader h).state ≠ .exhausted) →
    (∀ e ∈ es, e.task? ≠ some x) →
    (((b.step (.turn id)).after es).poll x).1 = some (t.told o) ∧
      (((b.step (.turn id)).after es).poll x).2.task? x = none
  /-- Whatever is live later on was opened since, or belongs to a connection that was. -/
  connections : ∀ es c e, ((b.step (.turn id)).after es).registry.connections.get? c = some e →
    (b.step (.turn id)).OpenedIn es c
  sessions : ∀ es s e, ((b.step (.turn id)).after es).registry.sessions.get? s = some e →
    (b.step (.turn id)).OpenedIn es e.connection
  readers : ∀ es h e, ((b.step (.turn id)).after es).registry.readers.get? h = some e →
    (b.step (.turn id)).OpenedIn es e.connection

/-- What is so when a drain returns. -/
structure DrainedBy (b : Bridge) (id : TaskId) : Prop where
  /-- There was a moment since its first turn at which nothing was under way. -/
  moment : ∀ es, b.ReturnsIn id es →
    ∃ es₁ es₂, es = .turn id :: es₁ ++ es₂ ∧ (b.after (.turn id :: es₁)).background = []
  /-- What was under way before its first turn, or was started in it, is over. -/
  finished : ∀ es, b.ReturnsIn id es →
    ∀ x, x ∈ b.background ∨ x ∈ (b.step (.turn id)).background → (b.after es).task? x = none

theorem scope?_of_whenCancelled {o : Outcome} (ho : stage.whenCancelled? = some o) :
    ∃ place, stage.scope? = some place := by
  cases stage with
  | fresh c => cases ho
  | connecting url client held => cases ho
  | opening url client held => cases ho
  | draining => cases ho
  | _ => exact ⟨_, rfl⟩

/-- A call that waits below something cancelled ends with its next turn. -/
theorem poll_below_cancelled {place : Scope} {o : Outcome} (hb : BridgeOK b none none)
    (ht : b.task? x = some t) (hs : t.stage? = some stage) (ho : stage.whenCancelled? = some o)
    (hp : stage.scope? = some place) (hc : b.registry.isCancelled place = true) :
    (b.poll x).1 = some (t.told o) ∧ (b.poll x).2.task? x = none := by
  have hends : ((b.takeTurn x).turn x stage).1 = .ends o := turn_below_cancelled _ x ho hp hc
  rcases poll_call_cases hb ht hs with ⟨o', hturn, htold, hover⟩ | ⟨s, hturn, -, -⟩
  · obtain rfl := Progress.ends.inj (hturn.symm.trans hends)
    exact ⟨htold, hover⟩
  · rw [hends] at hturn
    rcases hturn with hturn | hturn <;> cases hturn

theorem emptiedBy (h : b.Reachable) (ht : b.task? id = some t)
    (hs : t.stage? = some (.fresh .shutdown)) : b.EmptiedBy id := by
  have hok := h.ok
  have hstep := step_steps hok (.turn id)
  have hnone := shutdown_connections h ht hs
  have hconnections : ∀ es c e,
      ((b.step (.turn id)).after es).registry.connections.get? c = some e →
      (b.step (.turn id)).OpenedIn es c := by
    intro es c e hc
    rcases after_opens es (h.step (.turn id)) hc with hlive | hopened
    · rw [hnone] at hlive
      cases hlive
    · exact hopened
  have hsessions : ∀ es s e,
      ((b.step (.turn id)).after es).registry.sessions.get? s = some e →
      (b.step (.turn id)).OpenedIn es e.connection := by
    intro es s e hlive
    obtain ⟨c, hc, -⟩ := ((h.step (.turn id)).after es).ok.registry.parent s e hlive
    exact hconnections es _ c hc
  refine ⟨hstep.ok.registry.isEmpty hnone, ?_, hconnections, hsessions, ?_⟩
  · intro x u stage o es hu hstage ho hread hes
    obtain ⟨place, hp⟩ := scope?_of_whenCancelled ho
    have hne : x ≠ id := by
      rintro rfl
      obtain rfl := Option.some.inj (ht.symm.trans hu)
      obtain rfl := Option.some.inj (hs.symm.trans hstage)
      cases ho
    have hstageOK : StageOK b stage :=
      (b.takeTurn_aside x).symm.later.stageOK (call_ok hok hu hstage).2.1
    have hcan := waiting_cancelled hok hstep.ok hstep.later hnone hstageOK hp hread
    obtain ⟨hok', hlater⟩ := after_later hstep.ok es
    have hlive := hstep.keeps x u (fun he => hne (Option.some.inj he)) hu
    exact poll_below_cancelled hok' (after_keeps es hstep.ok hes hlive) hstage ho hp
      (hlater.registry.cancelled hstep.ok.registry hok'.registry hcan)
  · intro es x e hlive
    obtain ⟨s, hs, hc⟩ := ((h.step (.turn id)).after es).ok.registry.readParent x e hlive
    exact hc ▸ hsessions es _ s hs

theorem drainedBy (h : b.Reachable) (ht : b.task? id = some t)
    (hs : t.stage? = some (.fresh .settle) ∨ t.stage? = some (.fresh .shutdown)) :
    b.DrainedBy id := by
  have hok := h.ok
  have hstep := step_steps hok (.turn id)
  obtain ⟨htracked, hfirst⟩ := settle_tends hok h.tracked ht hs
  have hmoment : ∀ es, b.ReturnsIn id es →
      ∃ es₁ es₂, es = .turn id :: es₁ ++ es₂ ∧ (b.after (.turn id :: es₁)).background = [] := by
    rintro es ⟨hhead, before, o, rfl, ho⟩
    -- in its first turn it returns only if nothing is under way
    have hatOnce : (b.poll id).1 = some o → (b.step (.turn id)).background = [] := by
      intro htold
      rcases hfirst with ⟨-, -, hnone⟩ | ⟨hwaits, -, -⟩
      · exact hnone
      · rw [hwaits] at htold
        cases htold
    cases before with
    | nil => exact ⟨[], [], rfl, hatOnce ho⟩
    | cons e es =>
      obtain rfl := Option.some.inj hhead
      rcases hfirst with ⟨-, -, hnone⟩ | ⟨-, -, hwaiting⟩
      · exact ⟨[], es ++ [.turn id], rfl, hnone⟩
      · have hw : id ∈ (b.step (.turn id)).tracker.waiting := by
          show id ∈ (b.poll id).2.tracker.waiting
          rw [hwaiting]
          exact List.mem_append_right _ (List.mem_singleton_self id)
        obtain ⟨es₁, es₂, rfl, hnone⟩ := drained_moment es hstep.ok htracked hw ho
        exact ⟨es₁, es₂ ++ [.turn id], by simp, hnone⟩
  refine ⟨hmoment, fun es hes x hx => ?_⟩
  obtain ⟨es₁, es₂, rfl, hnone⟩ := hmoment es hes
  -- a task of the background is none that the first turn is about
  have hx₁ : x ∈ (b.step (.turn id)).background := by
    rcases hx with hx | hx
    · obtain ⟨u, hu, hbg⟩ := task?_of_mem_background hok.nodup hx
      have hne : some x ≠ some id := by
        intro he
        obtain rfl := Option.some.inj he
        obtain rfl := Option.some.inj (ht.symm.trans hu)
        rcases hs with hs | hs <;> rw [Task.not_inBackground hs] at hbg <;> cases hbg
      exact mem_background (hstep.keeps x u hne hu) hbg
    · exact hx
  have hover := background_over es₁ hstep.ok hx₁ hnone
  obtain ⟨u, hu, -⟩ := task?_of_mem_background hstep.ok.nodup hx₁
  obtain ⟨hok', hlater⟩ := after_later hstep.ok es₁
  have hid := Nat.lt_of_lt_of_le (hstep.ok.lt_nextTask hu) hlater.nextTask
  have hgone := after_over es₂ hok' hid hover
  rwa [← after_append] at hgone

end Bridge

/-- **A shutdown empties the bridge** in its first turn: nothing is live then and no
reader is remembered, whoever waited below a resource finds it closed, and what is
live later on was opened since. When it returns, and when settling does, there was a
moment since its first turn at which nothing was under way in the background; what
was under way before, and what it has started itself, is over. -/
theorem shutdown_empties (h : b.Reachable) (ht : b.task? id = some t) :
    (t.stage? = some (.fresh .shutdown) → b.EmptiedBy id) ∧
    (t.stage? = some (.fresh .settle) ∨ t.stage? = some (.fresh .shutdown) → b.DrainedBy id) :=
  ⟨Bridge.emptiedBy h ht, Bridge.drainedBy h ht⟩

/-- A pull waits for a frame. A shutdown closes its reader, and returns when the pump
is over and the connection is closed on the far side. -/
theorem shutdown_empties_oneOfEach :
    let b := Bridge.oneOfEach.after [.call (.read ⟨1⟩ .next), .turn 4, .call .shutdown]
    let es : List Event := [.turn 5, .turn 3, .turn 6, .turn 6, .turn 6, .turn 5]
    (b.step (.turn 5)).registry.IsEmpty ∧
      ((b.step (.turn 5)).poll 4).1 = some (.failed (.resourceClosed .reader ⟨1⟩)) ∧
      b.ReturnsIn 5 es ∧ (b.after es).task? 3 = none ∧ (b.after es).task? 6 = none := by
  intro b es
  have hb : b.Reachable := Bridge.oneOfEach_reachable.after _
  have ht : b.task? 5 = some (.call none (.fresh .shutdown)) := by decide +kernel
  have hpull : b.task? 4 =
      some (.call none (.awaitingFrame ⟨1⟩ ⟨⟨1⟩, ⟨1⟩⟩ .next)) := by decide +kernel
  have hactive : (b.registry.reader ⟨1⟩).state = .active := by decide +kernel
  have hempties := shutdown_empties hb ht
  have hemptied := hempties.1 rfl
  have hdrained := hempties.2 (.inr rfl)
  have hreturns : b.ReturnsIn 5 es :=
    ⟨rfl, [.turn 5, .turn 3, .turn 6, .turn 6, .turn 6], .replied .done, rfl, by decide +kernel⟩
  have hread : ∀ h, (Stage.awaitingFrame ⟨1⟩ ⟨⟨1⟩, ⟨1⟩⟩ .next).reader? = some h →
      (b.registry.reader h).state ≠ .exhausted := by
    intro h hh
    obtain rfl := Option.some.inj hh
    rw [hactive]
    nofun
  have hclosed := hemptied.closed 4 _ _ _ [] hpull rfl rfl hread nofun
  refine ⟨hemptied.empty, hclosed.1, hreturns, ?_, ?_⟩
  · exact hdrained.finished es hreturns 3 (.inl (by decide +kernel))
  · exact hdrained.finished es hreturns 6 (.inr (by decide +kernel))

end QueryBridge
