import QueryBridge.Proofs.Bridge.Level
import QueryBridge.Proofs.Bridge.Steps

/-!
# What a close does

A close takes out a resource with all below it, and nothing else. With a
runtime it leaves one task behind, which closes on the far side what was there,
each once and in the order of creation.

* `farewell_calls`: the calls that a farewell makes in a run.
* `close_takes_subtree`: closing a connection, a session or a reader.
-/

namespace QueryBridge

variable {b b' : Bridge} {id : TaskId}

/-- A call of a farewell, on its client. -/
def RemoteClose.record (client : ClientId) (c : RemoteClose) : CallRecord := ⟨some client, c.call⟩

namespace Bridge

/-! ## Farewells -/

/-- The next call of a farewell is made, whatever becomes of it. -/
theorem sayNext_calls (b : Bridge) (id : TaskId) (client : ClientId) (left : List RemoteClose) :
    (b.sayNext id client left).2.service.calls =
        b.service.calls ++ (left.take 1).map (RemoteClose.record client) ∧
      ((∃ held, (b.sayNext id client left).1 = .waits (.farewell client held (left.drop 1)) ∨
          (b.sayNext id client left).1 = .goesOn (.farewell client held (left.drop 1))) ∨
        (b.sayNext id client left).1 = .ends () ∧ left = []) := by
  cases left with
  | nil => exact ⟨(List.append_nil _).symm, .inr ⟨rfl, rfl⟩⟩
  | cons c left =>
    have hcall : (b.call (some client) c.call).2.service.calls =
        b.service.calls ++ [c.record client] := rfl
    have hpass : ((b.call (some client) c.call).2.passHooks id c.call.point).2.service.calls =
        b.service.calls ++ [c.record client] := (passHooks_calls _ _ _).trans hcall
    unfold sayNext
    dsimp only
    split
    -- a call that is refused is recorded all the same
    · rename_i message b₁ hc
      rw [hc] at hcall
      exact ⟨hcall, .inl ⟨none, .inr rfl⟩⟩
    · rename_i b₁ hc
      rw [hc] at hpass
      split <;> rename_i hp <;> rw [hp] at hpass
      · exact ⟨hpass, .inl ⟨_, .inl rfl⟩⟩
      · exact ⟨hpass, .inl ⟨none, .inr rfl⟩⟩

/-- The last call of a farewell has not returned, and will not return in a turn that it has now. -/
def heldBack (b : Bridge) (held : Option Held) : Prop :=
  ∃ h again, held = some h ∧ b.service.courseOf h = .held again

/-- A turn of a farewell makes the next call, unless the one before it is held back. -/
theorem farewell_makes (b : Bridge) (id : TaskId) (client : ClientId) (held : Option Held)
    (left : List RemoteClose) :
    ∃ made left', left = made ++ left' ∧
      (b.farewell id client held left).2.service.calls =
        b.service.calls ++ made.map (RemoteClose.record client) ∧
      ((∃ held', (b.farewell id client held left).1 = .waits (.farewell client held' left') ∨
          (b.farewell id client held left).1 = .goesOn (.farewell client held' left')) ∨
        (b.farewell id client held left).1 = .ends () ∧ left' = []) ∧
      (¬ b.heldBack held → made = left.take 1) := by
  cases held with
  | none =>
    -- the call before it is over, or there is none
    obtain ⟨h1, h2⟩ := b.sayNext_calls id client left
    refine ⟨left.take 1, left.drop 1, (List.take_append_drop 1 left).symm, h1, h2.imp_right ?_,
      fun _ => rfl⟩
    rintro ⟨he, rfl⟩
    exact ⟨he, rfl⟩
  | some held =>
    have h0 := b.resume_calls id held
    unfold farewell
    dsimp only
    split
    -- still held back: no call in this turn
    · rename_i held' b₁ hr
      rw [hr] at h0
      exact ⟨[], left, rfl, by simpa using h0, .inl ⟨some held', .inl rfl⟩,
        fun hn => absurd ⟨held, held', rfl, by rw [← b.resume_course id, hr]⟩ hn⟩
    -- returned or refused: the next call follows at once
    · rename_i course b₁ _ hr
      rw [hr] at h0
      obtain ⟨h1, h2⟩ := b₁.sayNext_calls id client left
      refine ⟨left.take 1, left.drop 1, (List.take_append_drop 1 left).symm, ?_, h2.imp_right ?_,
        fun _ => rfl⟩
      · rw [h1, h0]
      · rintro ⟨he, rfl⟩
        exact ⟨he, rfl⟩

/-! ## The calls of a farewell -/

theorem afterBackground_service (id : TaskId) (p : Progress Task Unit × Bridge) :
    (afterBackground id p).service = p.2.service := by
  obtain ⟨q, b⟩ := p
  cases q with
  | ends u => simp [afterBackground, concludeBackground, conclude]
  | waits t => rfl
  | goesOn t => rfl

/-- **A turn of a farewell** makes the next call, unless the one before it is held back. -/
theorem poll_farewell (hb : BridgeOK b none none) {client : ClientId} {held : Option Held}
    {left : List RemoteClose} (ht : b.task? id = some (.farewell client held left)) :
    ∃ made left', left = made ++ left' ∧
      (b.poll id).2.service.calls =
        b.service.calls ++ made.map (RemoteClose.record client) ∧
      ((∃ held', (b.poll id).2.task? id = some (.farewell client held' left')) ∨
        (b.poll id).2.task? id = none ∧ left' = []) ∧
      (¬ b.heldBack held → made = left.take 1) := by
  obtain ⟨made, left', hl, hc, hp, hn⟩ := (b.takeTurn id).farewell_makes id client held left
  have hq : Quietly (some id) (b.takeTurn id) none ((b.takeTurn id).farewell id client held left).2
      none := farewell_quietly _ id client held left
  have hkept : Kept none (b.takeTurn id) ((b.takeTurn id).farewell id client held left).2 :=
    hq.kept (hb.takeTurn ht)
  have ht' := hkept.keeps id _ nofun ht
  have hpoll : (b.poll id).2 =
      afterBackground id ((b.takeTurn id).farewell id client held left) := by
    simp only [poll, ht]
  rw [hpoll, afterBackground_service]
  refine ⟨made, left', hl, hc, ?_, hn⟩
  generalize (b.takeTurn id).farewell id client held left = p at hp ht' ⊢
  obtain ⟨q, b₁⟩ := p
  rcases hp with ⟨held', rfl | rfl⟩ | ⟨rfl, rfl⟩
  · exact .inl ⟨held', task?_setTask ht' _⟩
  · exact .inl ⟨held', task?_setTask ht' _⟩
  · refine .inr ⟨?_, rfl⟩
    have hw : (b₁.conclude id).Aside (b₁.concludeBackground id) :=
      ((b₁.conclude id).tracker_aside _).trans (wakeAll_aside _ _)
    exact (hw.task? id).trans (task?_conclude b₁ id)

/-- The calls on the service that a task makes in an event. -/
def callsIn (id : TaskId) (b : Bridge) : Event → List CallRecord
  | .turn x => if x = id then (b.poll id).2.service.calls.drop b.service.calls.length else []
  | _ => []

/-- The calls on the service that a task makes in a run. -/
def callsOf (id : TaskId) (b : Bridge) : List Event → List CallRecord
  | [] => []
  | e :: es => b.callsIn id e ++ callsOf id (b.step e) es

theorem callsIn_of_ne {e : Event} (he : e ≠ .turn id) (b : Bridge) : b.callsIn id e = [] := by
  cases e with
  | turn x => exact if_neg fun hx => he (congrArg _ hx)
  | _ => rfl

/-- A task that is over makes no call. -/
theorem callsOf_eq_nil (es : List Event) (hb : BridgeOK b none none) (hid : id < b.nextTask)
    (ht : b.task? id = none) : b.callsOf id es = [] := by
  induction es generalizing b with
  | nil => rfl
  | cons e es ih =>
    have h1 := step_steps hb e
    rw [callsOf, ih h1.ok (Nat.lt_of_lt_of_le hid h1.later.nextTask) (h1.gone id hid ht),
      List.append_nil]
    by_cases he : e = .turn id
    · subst he
      simp [callsIn, poll, ht]
    · exact callsIn_of_ne he b

/-- **A farewell makes its calls, each once and in their order**, and is not
over before it has made all of them, whatever becomes of them. -/
theorem farewell_calls (es : List Event) {client : ClientId} {held : Option Held}
    {left : List RemoteClose} (hb : BridgeOK b none none)
    (ht : b.task? id = some (.farewell client held left)) :
    ∃ made left', left = made ++ left' ∧
      b.callsOf id es = made.map (RemoteClose.record client) ∧
      ((∃ held', (b.after es).task? id = some (.farewell client held' left')) ∨
        (b.after es).task? id = none ∧ left' = []) := by
  induction es generalizing b held left with
  | nil => exact ⟨[], left, rfl, rfl, .inl ⟨held, ht⟩⟩
  | cons e es ih =>
    have hs := step_steps hb e
    by_cases he : e = .turn id
    -- a turn of its own makes a call, and may be its last
    · subst he
      obtain ⟨made, left₁, rfl, hc, hp, -⟩ := poll_farewell hb ht
      have hcalls : b.callsIn id (.turn id) = made.map (RemoteClose.record client) := by
        rw [callsIn, if_pos rfl, hc, List.drop_left]
      rcases hp with ⟨held₁, ht₁⟩ | ⟨ht₁, rfl⟩
      · obtain ⟨made', left', rfl, hc', hp'⟩ := ih hs.ok ht₁
        refine ⟨made ++ made', left', (List.append_assoc _ _ _).symm, ?_, hp'⟩
        rw [callsOf, hcalls, hc', List.map_append]
      · have hid := Nat.lt_of_lt_of_le (hb.lt_nextTask ht) hs.later.nextTask
        refine ⟨made, [], rfl, ?_, .inr ⟨after_over es hs.ok hid ht₁, rfl⟩⟩
        rw [callsOf, hcalls, callsOf_eq_nil es hs.ok hid ht₁, List.append_nil]
    -- any other event leaves it as it is; it is nobody's call, so it is not given up either
    · have ht₁ : (b.step e).task? id = some (.farewell client held left) := by
        by_cases ha : e = .abandon id
        · subst ha
          simp only [step, abandon, ht]
        · refine hs.keeps id _ (fun hid => ?_) ht
          cases e <;> simp_all [Event.task?]
      obtain ⟨made, left', hl, hc, hp⟩ := ih hs.ok ht₁
      refine ⟨made, left', hl, ?_, hp⟩
      rw [callsOf, callsIn_of_ne he, hc, List.nil_append]

/-! ## What a close leaves behind -/

/-- A close tells the service nothing yet. With a runtime, one task is added in
the background, and in every run from there it makes these calls. -/
structure LeavesBehind (b b' : Bridge) (client : ClientId) (left : List RemoteClose) : Prop where
  service : b'.service = b.service
  added : b'.tasks =
    b.tasks ++ if b.hasRuntime then [(b.nextTask, .farewell client none left)] else []
  /-- The calls are made each once and in their order. The task is over only
  when it has made all of them. -/
  calls : b.hasRuntime = true → ∀ es, ∃ made left', left = made ++ left' ∧
    b'.callsOf b.nextTask es = made.map (RemoteClose.record client) ∧
    ((∃ held, (b'.after es).task? b.nextTask = some (.farewell client held left')) ∨
      (b'.after es).task? b.nextTask = none ∧ left' = [])
  /-- Every turn makes the next call, whatever has become of the one before it,
  unless that one has not returned. -/
  goesOn : b.hasRuntime = true → ∀ es held left',
    (b'.after es).task? b.nextTask = some (.farewell client held left') →
    ¬ (b'.after es).heldBack held →
    (b'.after es).callsIn b.nextTask (.turn b.nextTask) =
      (left'.take 1).map (RemoteClose.record client)

theorem leavesBehind {r : Registry} (scope : Scope) (client : ClientId) (left : List RemoteClose)
    (hok : BridgeOK (((b.withRegistry r).wakeWithin scope).sayFarewell client left) none none) :
    LeavesBehind b (((b.withRegistry r).wakeWithin scope).sayFarewell client left) client left := by
  have hw := (b.withRegistry r).wakeWithin_aside scope
  set b₁ := (b.withRegistry r).wakeWithin scope
  have htasks : b₁.tasks = b.tasks := hw.tasks
  have hnext : b₁.nextTask = b.nextTask := hw.nextTask
  have hrt : b₁.hasRuntime = b.hasRuntime := ((b.withRegistry r).wakeAll_level _).hasRuntime
  have hservice : b₁.service = b.service := wakeAll_service _ _
  have hadded : (b₁.sayFarewell client left).tasks =
      b.tasks ++ if b.hasRuntime then [(b.nextTask, .farewell client none left)] else [] := by
    rw [← htasks, ← hnext, ← hrt]
    unfold sayFarewell spawn
    split
    · rfl
    · exact (List.append_nil _).symm
  have htask : b.hasRuntime = true → (b₁.sayFarewell client left).task? b.nextTask =
      some (.farewell client none left) := by
    intro h
    refine task?_of_mem hok.nodup ?_
    rw [hadded, if_pos h]
    exact List.mem_append_right _ (List.mem_singleton.2 rfl)
  refine ⟨?_, hadded, fun h es => farewell_calls es hok (htask h), fun h es held left' ht hn => ?_⟩
  · rw [sayFarewell, spawn_service, hservice]
  · obtain ⟨made, left₁, -, hc, -, hm⟩ := poll_farewell (after_later hok es).1 ht
    rw [callsIn, if_pos rfl, hc, List.drop_left, hm hn]

end Bridge

/-- **A close takes out exactly a resource and all below it.** It succeeds on
every live handle. Closing a connection or a session leaves to the background
what has to be closed on the far side: the sessions of a connection in the order
of their creation, and then the connection. -/
theorem close_takes_subtree (hb : b.Reachable) :
    (∀ c e, b.registry.connections.get? c = some e → ∃ b', b.closeConnection c = (.ok (), b') ∧
      Pruned b.registry b'.registry (· = c) (b.registry.SessionOf c)
        (b.registry.ReaderOf (b.registry.SessionOf c)) ∧
      (∀ x, x ≠ c → b'.registry.connection x = b.registry.connection x) ∧
      (∀ s, ¬ b.registry.SessionOf c s → b'.registry.session s = b.registry.session s) ∧
      b.LeavesBehind b' e.client ((b.registry.idsOf c).map .session ++ [.connection])) ∧
    (∀ s e, b.registry.sessions.get? s = some e → ∃ b', b.closeSession s = (.ok (), b') ∧
      Pruned b.registry b'.registry (fun _ => False) (· = s) (b.registry.ReaderOf (· = s)) ∧
      (∀ c, c ≠ e.connection → b'.registry.connection c = b.registry.connection c) ∧
      (∀ x, x ≠ s → b'.registry.session x = b.registry.session x) ∧
      b.LeavesBehind b' e.client [.session e.globalId]) ∧
    ∀ h e, b.registry.readers.get? h = some e →
      Pruned b.registry (b.closeReader h).registry (fun _ => False) (fun _ => False) (· = h) ∧
      (∀ c, (b.closeReader h).registry.connection c = b.registry.connection c) ∧
      (∀ s, s ≠ e.session → (b.closeReader h).registry.session s = b.registry.session s) ∧
      (b.closeReader h).service = b.service ∧ (b.closeReader h).tasks = b.tasks := by
  have hok := hb.ok
  have hr := hok.registry
  -- waking and saying farewell come after the registry is done
  have hreg : ∀ r scope client left,
      (((b.withRegistry r).wakeWithin scope).sayFarewell client left).registry = r := by
    intro r scope client left
    rw [Bridge.sayFarewell, Bridge.spawn_registry, (Bridge.wakeWithin_aside _ _).registry]
    rfl
  refine ⟨fun c e he => ?_, fun s e he => ?_, fun h e he => ?_⟩
  · obtain ⟨r, hc, hp⟩ := closeConnection_pruned hr he
    have hq : Quietly none b none (b.closeConnection c).2 none := b.closeConnection_quietly c
    have hok' := hq.ok hok
    simp only [Bridge.closeConnection, hc] at hok' ⊢
    refine ⟨_, rfl, (hreg r _ _ _).symm ▸ hp, fun x hx => ?_, fun s hs => ?_,
      Bridge.leavesBehind _ _ _ hok'⟩
    -- a session has one connection, so another connection loses none
    · rw [hreg]
      refine hp.connection_eq hr hx ?_
      rintro s ⟨e₁, h₁, rfl⟩ ⟨e₂, h₂, rfl⟩
      exact hx (by rw [Option.some.inj (h₁.symm.trans h₂)])
    -- nor does a session of another connection lose a reader
    · rw [hreg]
      refine hp.session_eq hr hs ?_
      rintro h ⟨e₁, h₁, rfl⟩ ⟨e₂, h₂, hs₂⟩
      exact hs (Option.some.inj (h₁.symm.trans h₂) ▸ hs₂)
  · obtain ⟨r, hc, hp⟩ := closeSession_pruned hr he
    have hq : Quietly none b none (b.closeSession s).2 none := b.closeSession_quietly s
    have hok' := hq.ok hok
    simp only [Bridge.closeSession, hc] at hok' ⊢
    refine ⟨_, rfl, (hreg r _ _ _).symm ▸ hp, fun c hc' => ?_, fun x hx => ?_,
      Bridge.leavesBehind _ _ _ hok'⟩
    -- its own connection loses the session
    · rw [hreg]
      refine hp.connection_eq hr id ?_
      rintro _ ⟨e₁, h₁, rfl⟩ rfl
      exact hc' (by rw [Option.some.inj (h₁.symm.trans he)])
    · rw [hreg]
      refine hp.session_eq hr hx ?_
      rintro h ⟨e₁, h₁, rfl⟩ ⟨e₂, h₂, rfl⟩
      exact hx (by rw [Option.some.inj (h₁.symm.trans h₂)])
  · obtain ⟨hc, hp⟩ := closeReader_pruned hr he
    rw [← b.closeReader_registry] at hp
    refine ⟨hp, fun c => hp.connection_eq hr id fun _ _ => id, fun s hs => ?_,
      b.closeReader_service h, ?_⟩
    · refine hp.session_eq hr id ?_
      rintro _ ⟨e₁, h₁, rfl⟩ rfl
      exact hs (by rw [Option.some.inj (h₁.symm.trans he)])
    · unfold Bridge.closeReader
      split
      · exact (Bridge.wakeWithin_aside _ _).tasks
      · rfl

theorem close_takes_subtree_oneOfEach : ∃ b', Bridge.oneOfEach.closeConnection ⟨1⟩ = (.ok (), b') ∧
    b'.registry.sessions.get? ⟨1⟩ = none ∧ b'.registry.readers.get? ⟨1⟩ = none ∧
    Bridge.oneOfEach.LeavesBehind b' 0 [.session ⟨"session-1"⟩, .connection] := by
  obtain ⟨e, he⟩ : ∃ e, Bridge.oneOfEach.registry.connections.get? ⟨1⟩ = some e :=
    Option.isSome_iff_exists.1 (by decide +kernel)
  have hcl : (Bridge.oneOfEach.registry.connections.get? ⟨1⟩).map Connection.client = some 0 := by
    decide +kernel
  obtain ⟨b', hc, hp, -, -, hl⟩ := (close_takes_subtree Bridge.oneOfEach_reachable).1 ⟨1⟩ e he
  have hclient : e.client = 0 := by simpa [he] using hcl
  have hs : Bridge.oneOfEach.registry.SessionOf ⟨1⟩ ⟨1⟩ :=
    ⟨⟨⟨1⟩, ⟨"session-1"⟩, 0⟩, by decide +kernel, rfl⟩
  have hids : Bridge.oneOfEach.registry.idsOf ⟨1⟩ = [⟨"session-1"⟩] := by decide +kernel
  rw [hclient, hids] at hl
  refine ⟨b', hc, ?_, ?_, hl⟩
  · rw [hp.sessions, if_pos hs]
  · rw [hp.readers, if_pos ⟨⟨⟨1⟩, ⟨1⟩⟩, by decide +kernel, hs⟩]

end QueryBridge
