import QueryBridge.Proofs.Bridge.Dues

/-!
# Sessions and connections are conserved

On a runtime every session and every connection that the service has told the
bridge of is live, or it was left to the background to be closed, once and on its
client. Nothing else is ever left there, on a runtime or on none. This holds in
whatever order resources are created and closed, also where a session arrives after
its connection was closed, and where no handle is left for what has arrived.

* `Bridge.grantedAfter`: what the service has told of in a run.
* `step_accounts`: an event adds to what the bridge answers for what it was granted.
* `remote_conserved`: the balance, for the sessions and the connections of each client.
-/

namespace QueryBridge

variable {b : Bridge} {id : TaskId} {stage : Stage} {t : Task}

/-! ## Every event -/

/-- No call has anything to close on the far side. -/
theorem Task.left_of_stage? (hs : t.stage? = some stage) : t.left = [] := by
  cases t with
  | payload text => rfl
  | call envelope stage' => rfl
  | pump h e stream frame => rfl
  | farewell client held left => cases hs

namespace Bridge

theorem takeTurn_accounts (b : Bridge) (id : TaskId) : b.Accounts (b.takeTurn id) 0 :=
  .of_dues rfl rfl

/-- A turn of a call adds what it was granted. -/
theorem call_accounts (hb : BridgeOK b none none) (hspent : b.Spent)
    (ht : b.task? id = some t) (hs : t.stage? = some stage) :
    b.Accounts (b.poll id).2 ↑((b.takeTurn id).granted stage).toList := by
  obtain ⟨hok, hstage, -⟩ := call_ok hb ht hs
  have hturn : b.Accounts ((b.takeTurn id).turn id stage).2
      ↑((b.takeTurn id).granted stage).toList :=
    (b.takeTurn_accounts id).nothingAnd (turn_accounts hok hspent hstage)
  -- whatever the turn has begun, the task is there once after it
  obtain ⟨-, ns, hm, -, -⟩ := call_turned hb ht hs
  have hnodup := (hm.ok hok).1.nodup
  have hlive := (hm.kept hok : Kept none _ _).keeps id t nofun ht
  have hleft := Task.left_of_stage? hs
  rw [poll_call ht hs]
  rcases pollCall_level (b.takeTurn id) id t.request? stage with ⟨o, -, hl⟩ | ⟨s, -, hl⟩
  · have hend := conclude_dues hnodup hlive
    rw [hleft] at hend
    exact (hturn.andNothing (.of_dues ((add_zero _).symm.trans hend) rfl)).level hl
  · have hstay := setTask_dues hnodup hlive (.call t.request? s)
    rw [hleft] at hstay
    exact (hturn.andNothing (.of_dues (add_right_cancel hstay) rfl)).level hl

/-- Work in the background has to close what it had to close before its turn, but for what it has
closed in it. -/
theorem afterBackground_accounts {p : Progress Task Unit × Bridge} {made : List Due}
    (left : List Due) (h : b.Accounts p.2 ↑made) (hn : (p.2.tasks.map Prod.fst).Nodup)
    (ht : p.2.task? id = some t) (hleft : t.left = made ++ left)
    (hends : p.1 = .ends () → left = [])
    (hstays : ∀ t', p.1 = .waits t' ∨ p.1 = .goesOn t' → t'.left = left) :
    b.Accounts (afterBackground id p) 0 := by
  rcases afterBackground_level id p with ⟨hend, hl⟩ | ⟨t', hstay, hl⟩
  · have hover := conclude_dues hn ht
    rw [hleft, hends hend, List.append_nil] at hover
    exact (h.discharge hover rfl).level hl
  · have hplace := setTask_dues hn ht t'
    rw [hleft, hstays t' hstay, ← Multiset.coe_add, ← add_assoc] at hplace
    exact (h.discharge (add_right_cancel hplace) rfl).level hl

/-- What a farewell has called it has no longer to call. -/
theorem farewell_accounts (hb : BridgeOK b none none) {client : ClientId} {held : Option Held}
    {left : List RemoteClose} (ht : b.task? id = some (.farewell client held left)) :
    b.Accounts (afterBackground id ((b.takeTurn id).farewell id client held left)) 0 := by
  have hok := hb.takeTurn ht
  have hq : Quietly (some id) (b.takeTurn id) none
    ((b.takeTurn id).farewell id client held left).2 none := farewell_quietly _ id client held left
  have hkept : Kept none _ _ := hq.kept hok
  have hlive := hkept.keeps id _ nofun ht
  obtain ⟨made, left', rfl, hcalls, hp, -⟩ := (b.takeTurn id).farewell_makes id client held left
  have hl := (b.takeTurn id).farewell_level id client held (made ++ left')
  -- the calls of its errand are the ones that it has no longer to make
  have hmade : ((b.takeTurn id).service.farewellErrand client held (made ++ left')).calls =
      made.map (RemoteClose.record client) := by
    have hc := hl.calls
    rw [does_calls, hcalls] at hc
    exact (List.append_cancel_left hc).symm
  have hcloses : (made.map (RemoteClose.record client)).filterMap CallRecord.closes? =
      made.map (client, ·) := by
    rw [List.filterMap_map]
    refine Eq.trans (List.filterMap_congr fun c _ => ?_) (congrFun List.filterMap_eq_map made)
    exact c.closes?_record client
  have hturn : b.Accounts ((b.takeTurn id).farewell id client held (made ++ left')).2
      ↑(made.map (client, ·)) := by
    have hdoes := does_accounts (b := b.takeTurn id) hb.registry
      ((b.takeTurn id).service.farewellErrand client held (made ++ left'))
    rw [hmade, hcloses] at hdoes
    exact ((b.takeTurn_accounts id).nothingAnd hdoes).level hl
  refine afterBackground_accounts (left'.map (client, ·)) hturn (hq.ok hok).nodup hlive
    List.map_append ?_ ?_
  -- a farewell is over when nothing is left
  · intro hend
    rcases hp with ⟨held', h | h⟩ | ⟨-, rfl⟩
    · rw [hend] at h; cases h
    · rw [hend] at h; cases h
    · rfl
  · intro t' hstay
    rcases hp with ⟨held', h | h⟩ | ⟨h, -⟩
    · rw [h] at hstay
      rcases hstay with h' | h' <;> cases h'
      rfl
    · rw [h] at hstay
      rcases hstay with h' | h' <;> cases h'
      rfl
    · rw [h] at hstay
      rcases hstay with h' | h' <;> cases h'

/-- A pump closes nothing. -/
theorem pump_accounts (hb : BridgeOK b none none) {h : ReaderHandle} {e : Reader} {stream : Stream}
    {frame : Option Frame} (ht : b.task? id = some (.pump h e stream frame)) :
    b.Accounts (afterBackground id ((b.takeTurn id).pump id h e stream frame)) 0 := by
  obtain ⟨hbeside, halike⟩ := (b.takeTurn id).pump_alike id h e stream frame
  have hturn : b.Accounts ((b.takeTurn id).pump id h e stream frame).2 ↑([] : List Due) :=
    .of_dues (hbeside.dues halike.standing) hbeside.hasRuntime
  have hnodup : (((b.takeTurn id).pump id h e stream frame).2.tasks.map Prod.fst).Nodup := by
    rw [hbeside.tasks]
    exact hb.nodup
  have hlive : ((b.takeTurn id).pump id h e stream frame).2.task? id =
      some (.pump h e stream frame) := by
    rw [task?, hbeside.tasks]
    exact ht
  refine afterBackground_accounts [] hturn hnodup hlive rfl (fun _ => rfl)
    fun t' hstay => ?_
  obtain ⟨stream', frame', rfl⟩ := ((b.takeTurn id).pump_pumped id h e stream frame).place hstay
  rfl

/-- A call that begins has nothing to close. -/
theorem submit_accounts (b : Bridge) (hleft : t.left = []) : b.Accounts (b.submit t).2 0 := by
  have hsame : (b.submit t).2.handedOver = b.handedOver := by
    rw [submit_handedOver, hleft]
    exact add_zero _
  refine .of_dues ?_ rfl
  rw [dues, hsame]
  rfl

/-- A task that is over has closed all that it had to close. -/
theorem conclude_accounts (hb : BridgeOK b none none) (ht : b.task? id = some t)
    (hleft : t.left = []) : b.Accounts (b.conclude id) 0 := by
  have hend := conclude_dues hb.nodup ht
  rw [hleft] at hend
  exact .of_dues ((add_zero _).symm.trans hend) rfl

/-- A turn of a task adds what it was granted. -/
theorem poll_accounts (hb : BridgeOK b none none) (hspent : b.Spent) (id : TaskId) :
    b.Accounts (b.poll id).2 ↑(b.grantedIn (.turn id)).toList := by
  cases hs : (b.task? id).bind Task.stage? with
  | some stage =>
    obtain ⟨t, ht, hst⟩ := Option.bind_eq_some_iff.1 hs
    rw [grantedIn_call ht hst]
    exact call_accounts hb hspent ht hst
  | none =>
    have hg : b.grantedIn (.turn id) = none := by rw [grantedIn, hs, Option.bind_none]
    rw [hg]
    show b.Accounts (b.poll id).2 0
    rcases poll_of_no_call hs with h | ⟨text, ht, h⟩ | ⟨x, e, stream, frame, ht, h⟩ |
      ⟨client, held, left, ht, h⟩ <;> rw [h]
    · exact .refl b
    · exact (conclude_accounts hb ht rfl).level ((b.takeTurn_level id).conclude id)
    · exact pump_accounts hb ht
    · exact farewell_accounts hb ht

/-- A call that is given up closes nothing on the far side. -/
theorem abandon_accounts (hb : BridgeOK b none none) (id : TaskId) :
    b.Accounts (b.abandon id) 0 := by
  unfold abandon
  split
  · rename_i text ht
    exact conclude_accounts hb ht rfl
  · rename_i envelope stage ht
    obtain ⟨b₀, hbeside, halike, hl⟩ := (b.conclude id).release_level id stage
    have hover : b.Accounts b₀ 0 :=
      (conclude_accounts hb ht rfl).andNothing (.beside hbeside halike.standing)
    exact (hover.andNothing (closeAll_accounts _ (halike.ok hb.registry))).level hl
  · exact .refl b

end Bridge

/-- **Whatever happens**, the bridge answers for what it answered for before, and for what it was
granted, as long as there is a runtime. Without one it answers for no more than that. -/
theorem step_accounts (hb : BridgeOK b none none) (hspent : b.Spent) {e : Event}
    (he : e ≠ .runtime false) : b.Accounts (b.step e) ↑(b.grantedIn e).toList := by
  cases e with
  | turn id => exact Bridge.poll_accounts hb hspent id
  | close target => exact Bridge.close_accounts hb.registry target
  | abandon id => exact Bridge.abandon_accounts hb id
  | far act => exact (Bridge.Accounts.refl b).level (Bridge.far_level b act)
  | call c => exact Bridge.submit_accounts b rfl
  | payload text => exact Bridge.submit_accounts b rfl
  | runtime available =>
    cases available with
    | false => exact absurd rfl he
    | true => exact ⟨(add_zero _).ge, fun _ => (add_zero _).symm, fun _ => rfl⟩

/-- A bridge whose callers lose their runtime answers for no more either. -/
theorem step_dues_le (hb : BridgeOK b none none) (hspent : b.Spent) (e : Event) :
    (b.step e).dues ≤ b.dues + ↑(b.grantedIn e).toList := by
  by_cases he : e = .runtime false
  · subst he
    exact Multiset.le_add_right _ _
  · exact (step_accounts hb hspent he).le

/-! ## Every run -/

/-- What the service has created or opened in a run and has told the bridge of. -/
def Bridge.grantedAfter (b : Bridge) : List Event → Multiset Due
  | [] => 0
  | e :: es => ↑(b.grantedIn e).toList + (b.step e).grantedAfter es

/-- **Nothing else** is ever answered for. -/
theorem after_dues_le (hb : b.Reachable) (es : List Event) :
    (b.after es).dues ≤ b.dues + b.grantedAfter es := by
  induction es generalizing b with
  | nil => exact Multiset.le_add_right _ _
  | cons e es ih =>
    calc (b.after (e :: es)).dues ≤ (b.step e).dues + (b.step e).grantedAfter es := ih (.step e hb)
      _ ≤ b.dues + ↑(b.grantedIn e).toList + (b.step e).grantedAfter es :=
        add_le_add_left (step_dues_le hb.ok hb.spent e) _
      _ = b.dues + b.grantedAfter (e :: es) := add_assoc _ _ _

/-- **On a runtime nothing is lost.** -/
theorem after_dues (hb : b.Reachable) (hrt : b.hasRuntime = true) {es : List Event}
    (hes : Event.runtime false ∉ es) : (b.after es).dues = b.dues + b.grantedAfter es := by
  induction es generalizing b with
  | nil => exact (add_zero _).symm
  | cons e es ih =>
    obtain ⟨hne, hes⟩ := not_or.1 (List.mem_cons.not.1 hes)
    have hstep := step_accounts hb.ok hb.spent (Ne.symm hne)
    rw [Bridge.after_cons, ih (.step e hb) (hstep.hasRuntime hrt) hes, hstep.eq hrt, add_assoc]
    rfl

/-! ## The sessions and the connections of a client -/

/-- The identifier, where it is a session on a client. -/
def Due.sessionOn? (client : ClientId) : Due → Option GlobalSessionId
  | (x, .session globalId) => if x = client then some globalId else none
  | (_, .connection) => none

/-- The identifiers of the live sessions that hold a client. -/
def Registry.idsOn (r : Registry) (client : ClientId) : List GlobalSessionId :=
  (r.sessions.live.entries.filter (·.2.client = client)).map (·.2.globalId)

/-- The number of the live connections that hold a client. -/
def Registry.connectionsOn (r : Registry) (client : ClientId) : Nat :=
  r.connections.live.entries.countP (·.2.client = client)

theorem Registry.standing_sessions (r : Registry) (client : ClientId) :
    r.standing.filterMap (Due.sessionOn? client) = ↑(r.idsOn client) := by
  have hsessions : (r.sessions.live.entries.map (·.2.due)).filterMap (Due.sessionOn? client) =
      r.idsOn client := by
    rw [List.filterMap_map, idsOn, ← List.filterMap_eq_map, ← List.filterMap_eq_filter,
      List.filterMap_filterMap]
    refine List.filterMap_congr fun p _ => ?_
    by_cases hc : p.2.client = client <;>
      simp [Session.due, Due.sessionOn?, Option.guard, hc]
  have hconnections : (r.connections.live.entries.map (·.2.due)).filterMap
      (Due.sessionOn? client) = [] := by
    rw [List.filterMap_map]
    exact List.filterMap_eq_nil_iff.2 fun p _ => rfl
  unfold standing
  rw [Multiset.filterMap_add, Multiset.filterMap_coe, Multiset.filterMap_coe, hsessions,
    hconnections]
  exact add_zero _

theorem Registry.standing_connections (r : Registry) (client : ClientId) :
    r.standing.count (client, .connection) = r.connectionsOn client := by
  have hsessions : (r.sessions.live.entries.map (·.2.due) : Multiset Due).count
      (client, .connection) = 0 := by
    rw [Multiset.count_eq_zero, Multiset.mem_coe]
    intro hm
    obtain ⟨p, -, hp⟩ := List.mem_map.1 hm
    cases hp
  have hconnections : (r.connections.live.entries.map (·.2.due) : Multiset Due).count
      (client, .connection) = r.connectionsOn client := by
    rw [Multiset.count, Multiset.coe_countP, List.countP_map]
    refine List.countP_congr fun p _ => ?_
    simp [Connection.due, eq_comm]
  unfold standing
  rw [Multiset.count_add, hsessions, hconnections, zero_add]

/-- The calls that have closed something. -/
theorem CallRecord.closes?_eq_some {r : CallRecord} {client : ClientId} {c : RemoteClose} :
    r.closes? = some (client, c) ↔ r = c.record client := by
  constructor
  · intro h
    obtain ⟨x, call⟩ := r
    cases x with
    | none => cases h
    | some x => cases call <;> cases h <;> rfl
  · rintro rfl
    exact c.closes?_record client

/-- **Nothing of the far side is lost, and nothing is closed there twice.** Of each
client, the sessions that the service has created and told the bridge of are those
that are live and those that were left to the background to be closed, and so it is
with the connections, as long as there is a runtime. With one or without, nothing is
closed more often than it was created, or while it is live. -/
theorem remote_conserved (sessionIds : List String) (hangs : Bool) (config : BridgeConfig)
    (es : List Event) (client : ClientId) :
    let start : Bridge := .new { sessionIds, hangsCreateSession := hangs } config true
    let b := start.after es
    (Event.runtime false ∉ es →
      (start.grantedAfter es).filterMap (Due.sessionOn? client) =
          ↑(b.registry.idsOn client) + b.handedOver.filterMap (Due.sessionOn? client) ∧
        (start.grantedAfter es).count (client, .connection) =
          b.registry.connectionsOn client + b.handedOver.count (client, .connection)) ∧
      ∀ c : RemoteClose, b.registry.standing.count (client, c) +
        b.service.calls.count (c.record client) ≤ (start.grantedAfter es).count (client, c) := by
  intro start b
  have hstart : start.Reachable := .start sessionIds hangs config true
  refine ⟨fun hes => ?_, fun c => ?_⟩
  · have hbalance : b.registry.standing + b.handedOver = start.grantedAfter es :=
      (after_dues hstart rfl hes).trans (zero_add _)
    rw [← hbalance]
    constructor
    · rw [Multiset.filterMap_add, Registry.standing_sessions]
    · rw [Multiset.count_add, Registry.standing_connections]
  · have hcalls : b.service.calls.count (c.record client) =
        (b.service.calls.filterMap CallRecord.closes? : Multiset Due).count (client, c) := by
      rw [Multiset.count, Multiset.coe_countP, List.countP_filterMap, List.count]
      refine List.countP_congr fun r _ => ?_
      rw [beq_iff_eq, ← CallRecord.closes?_eq_some]
      cases r.closes? <;> simp [eq_comm]
    have hle : b.registry.standing + b.handedOver ≤ start.grantedAfter es :=
      (after_dues_le hstart es).trans (zero_add _).le
    have hcount := Multiset.count_le_of_le (client, c) hle
    rw [Multiset.count_add, Bridge.handedOver, Multiset.count_add] at hcount
    omega

/-- A session is created, and its connection is closed. -/
theorem remote_conserved_cascade :
    let es : List Event := [.call (.openConnection "a://b" none), .turn 0,
      .call (.createSession ⟨1⟩), .turn 1, .close (.connection ⟨1⟩)]
    let b := Bridge.fresh.after es
    Event.runtime false ∉ es ∧ b.registry.idsOn 0 = [] ∧
      (Bridge.fresh.grantedAfter es).filterMap (Due.sessionOn? 0) =
        b.handedOver.filterMap (Due.sessionOn? 0) := by
  intro es b
  have hes : Event.runtime false ∉ es := by simp [es]
  have hids : b.registry.idsOn 0 = [] := by decide +kernel
  refine ⟨hes, hids, ?_⟩
  calc (Bridge.fresh.grantedAfter es).filterMap (Due.sessionOn? 0)
      = ↑(b.registry.idsOn 0) + b.handedOver.filterMap (Due.sessionOn? 0) :=
        ((remote_conserved [] false ⟨10, ⟨"", 1⟩⟩ es 0).1 hes).1
    _ = b.handedOver.filterMap (Due.sessionOn? 0) := by
      rw [hids]
      exact zero_add _

end QueryBridge
