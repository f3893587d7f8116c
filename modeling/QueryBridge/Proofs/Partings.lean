import QueryBridge.Proofs.Bridge.Farewells

/-!
# The last call on a client

Farewells begin in the order in which they were started. Then the call that closes
a connection is the last one on its client, with one exception. Where the connection
is closed while the service creates a session on it, and the session arrives all the
same, nobody has it, and it is closed after its connection.

* `Bridge.StartsInOrder`: the runs in which farewells begin in this order.
* `Bridge.Parted`, `Bridge.step_parted`: what every event of such a run keeps.
* `connection_closed_last`: what is called on a client after its connection was closed.
* `orphan_closed_last`: the run in which a call is.
-/

namespace QueryBridge

variable {b b' : Bridge} {id : TaskId} {stage : Stage} {t : Task} {client : ClientId}
  {begun : List TaskId} {lost : ClientId → GlobalSessionId → Prop}

namespace Bridge

/-! ## Runs in order -/

/-- The farewell that has a turn in an event. -/
def bidsIn (b : Bridge) : Event → List TaskId
  | .turn id => if b.IsFarewell id then [id] else []
  | _ => []

/-- The farewells begin in the order in which they were started: none has a turn before those
that were started earlier have had one. -/
def StartsInOrder (begun : List TaskId) (b : Bridge) : List Event → Prop
  | [] => True
  | e :: es => (∀ id ∈ b.bidsIn e, ∀ earlier < id, b.IsFarewell earlier → earlier ∈ begun) ∧
    (b.step e).StartsInOrder (b.bidsIn e ++ begun) es

instance StartsInOrder.decidable : ∀ (begun : List TaskId) (b : Bridge) (es : List Event),
    Decidable (b.StartsInOrder begun es)
  | _, _, [] => .isTrue trivial
  | begun, b, e :: es =>
    have := StartsInOrder.decidable (b.bidsIn e ++ begun) (b.step e) es
    inferInstanceAs (Decidable (_ ∧ _))

/-! ## Calls on the service -/

/-- **Whom a turn of a call asks**: on a client whose connection is being opened by it, is live, or
is not there yet. -/
theorem errand_client (hr : RegistryOK b.registry) {r : CallRecord}
    (hm : r ∈ (b.errand stage).calls) (hc : r.client = some client) :
    stage.opens? = some client ∨ client ∈ b.registry.clients ∨ client = b.service.clients := by
  cases errand_asks hm with
  | createClient => cases hc
  | openNow => exact .inr (.inr (Option.some.inj hc).symm)
  | openNext => exact .inl hc
  | createSession he => exact .inr (.inl (Option.some.inj hc ▸ Registry.mem_clients he))
  | executeQuery he => exact .inr (.inl (Option.some.inj hc ▸ hr.session_client he))

/-- A call that comes after another one: on a client whose connection was closed, only a session is
closed that nobody had. -/
def Follows (lost : ClientId → GlobalSessionId → Prop) (r r' : CallRecord) : Prop :=
  ∀ client, r = RemoteClose.connection.record client → r'.client = some client →
    ∃ globalId, lost client globalId ∧ r' = (RemoteClose.session globalId).record client

/-- A farewell closes the connection last. -/
theorem Bids.follows {held : Option Held} {left : List RemoteClose}
    (h : b.Bids begun lost id client held left) :
    (left.map (RemoteClose.record client)).Pairwise (Follows lost) := by
  cases h with
  | whole ids =>
    have hsession : ∀ r ∈ (ids.map RemoteClose.session).map (RemoteClose.record client),
        ∀ r', Follows lost r r' := by
      intro r hr r' x hx
      obtain ⟨c, hc, rfl⟩ := List.mem_map.1 hr
      obtain ⟨globalId, -, rfl⟩ := List.mem_map.1 hc
      cases hx
    rw [List.map_append, List.pairwise_append]
    exact ⟨List.pairwise_of_forall_mem_list fun r hr r' _ => hsession r hr r',
      List.pairwise_singleton _ _, fun r hr r' _ => hsession r hr r'⟩
  | ahead hid ha => exact List.pairwise_singleton _ _
  | late hl => exact List.pairwise_singleton _ _
  | done => exact .nil

/-! ## Every event -/

/-- What every event keeps of a run in order. -/
structure Parted (b : Bridge) (begun : List TaskId)
    (lost : ClientId → GlobalSessionId → Prop) : Prop where
  tied : b.Tied
  counted : ∀ id ∈ begun, id < b.nextTask
  bidding : b.Bidding begun lost
  last : b.service.calls.Pairwise (Follows lost)

namespace Parted

theorem parting (h : b.Parted begun lost) (hb : BridgeOK b none none) :
    b.Parting begun lost := by
  have hnodup := h.tied.once
  rw [ties_eq] at hnodup
  obtain ⟨hlive, -, hapart⟩ := Multiset.nodup_add.1 (Multiset.nodup_add.1 hnodup).1
  exact ⟨hb.registry, hb.numbered, h.counted, hlive, hapart, h.bidding⟩

/-- A client whose connection was closed is in nobody's hand. -/
theorem gone (h : b.Parted begun lost)
    (hgone : RemoteClose.connection.record client ∈ b.service.calls) :
    client ∉ b.openers ∧ client ∉ b.registry.clients ∧ client < b.service.clients := by
  have hparted := mem_parted_of_call hgone
  have hnodup := h.tied.once
  have hexist := h.tied.exist client
  rw [ties_eq] at hnodup hexist
  obtain ⟨hleft, -, hopeners⟩ := Multiset.nodup_add.1 hnodup
  obtain ⟨-, -, hlive⟩ := Multiset.nodup_add.1 hleft
  have hm : client ∈ b.registry.clients + b.parted := Multiset.mem_add.2 (.inr hparted)
  exact ⟨Multiset.disjoint_left.1 hopeners hm, fun hx => Multiset.disjoint_left.1 hlive hx hparted,
    hexist (Multiset.mem_add.2 (.inl hm))⟩

/-- The connection of a client is closed once. -/
theorem closed_once (h : b.Parted begun lost) {held : Option Held} {left : List RemoteClose}
    (hm : (id, Task.farewell client held left) ∈ b.tasks) (hleft : RemoteClose.connection ∈ left) :
    RemoteClose.connection.record client ∉ b.service.calls := by
  intro hcall
  have hnodup := h.tied.once
  rw [ties_eq] at hnodup
  have hparted := (Multiset.nodup_add.1 (Multiset.nodup_add.1 hnodup).1).2.1
  unfold parted handedOver at hparted
  rw [Multiset.filterMap_add] at hparted
  have hdone := List.mem_filterMap.2 ⟨_, hcall, RemoteClose.closes?_record client .connection⟩
  have htodo : (client, RemoteClose.connection) ∈ b.tasks.flatMap (·.2.left) :=
    List.mem_flatMap.2 ⟨_, hm, List.mem_map.2 ⟨_, hleft, rfl⟩⟩
  exact Multiset.disjoint_left.1 (Multiset.nodup_add.1 hparted).2.2
    ((Multiset.mem_filterMap _ _).2 ⟨(client, .connection), hdone, rfl⟩)
    ((Multiset.mem_filterMap _ _).2 ⟨(client, .connection), htodo, rfl⟩)

end Parted

/-- The calls on the service in the turn of a call are those of its errand. -/
theorem poll_calls (hb : BridgeOK b none none) (hspent : b.Spent) (ht : b.task? id = some t)
    (hs : t.stage? = some stage) : (b.poll id).2.service.calls =
      b.service.calls ++ ((b.takeTurn id).errand stage).calls := by
  obtain ⟨hok, hstage, -⟩ := call_ok hb ht hs
  rw [poll_call ht hs, pollCall_service]
  cases hc : stage.creates with
  | true => exact ((b.takeTurn id).turn_creates id hc).calls
  | false =>
    have hnone : (b.takeTurn id).errand stage = {} := errand_of_not_creates _ hc
    rw [hnone]
    show _ = b.service.calls ++ []
    rw [List.append_nil]
    cases hread : stage.reading? with
    | none =>
      rw [((b.takeTurn id).other_level id hc hread).calls, closeAll_service]
      rfl
    | some q =>
      rw [stream?_of_not_creates hc] at hok
      obtain ⟨b₀, hb₀, -, hturn⟩ := turn_reads hok hspent hstage hread
      rw [hturn, closeAll_service]
      exact hb₀.calls

/-- What may be called after what has been called, in an event. -/
def CallsOn (b : Bridge) (lost : ClientId → GlobalSessionId → Prop) (b' : Bridge) : Prop :=
  ∃ new, b'.service.calls = b.service.calls ++ new ∧ new.Pairwise (Follows lost) ∧
    ∀ r ∈ b.service.calls, ∀ r' ∈ new, Follows lost r r'

theorem CallsOn.of_eq (h : b'.service.calls = b.service.calls) : b.CallsOn lost b' :=
  ⟨[], h.trans (List.append_nil _).symm, .nil, fun _ _ _ hr => absurd hr List.not_mem_nil⟩

/-- **A turn of a call** makes no call on a client whose connection was closed. -/
theorem call_callsOn (hb : BridgeOK b none none) (hspent : b.Spent) (h : b.Parted begun lost)
    (ht : b.task? id = some t) (hs : t.stage? = some stage) : b.CallsOn lost (b.poll id).2 := by
  have hnot : ∀ r ∈ ((b.takeTurn id).errand stage).calls, ∀ r', Follows lost r r' := by
    rintro r hr r' client rfl
    exact absurd hr (errand_no_close _ stage client)
  refine ⟨_, poll_calls hb hspent ht hs,
    List.pairwise_of_forall_mem_list fun r hr r' _ => hnot r hr r', ?_⟩
  rintro r hr r' hr' client rfl hclient
  obtain ⟨hopeners, hlive, hlt⟩ := h.gone hr
  rcases errand_client (b := b.takeTurn id) hb.registry hr' hclient with ho | hl | hnew
  · refine absurd (List.mem_filterMap.2 ⟨(id, t), mem_of_task? ht, ?_⟩) hopeners
    exact (Task.opens?_of_stage? hs).trans ho
  · exact absurd hl hlive
  · exact absurd hlt (hnew ▸ lt_irrefl _)

/-- **A turn of a farewell** makes no call on a client whose connection was closed, unless it closes
a session that nobody had. -/
theorem farewell_callsOn (hb : BridgeOK b none none) (h : b.Parted begun lost)
    {held : Option Held} {left : List RemoteClose}
    (ht : b.task? id = some (.farewell client held left)) : b.CallsOn lost (b.poll id).2 := by
  have hm := mem_of_task? ht
  have hbids := h.bidding id client held left hm
  obtain ⟨made, left', rfl, hcalls, -⟩ := poll_farewell hb ht
  have hfollows := hbids.follows
  rw [List.map_append, List.pairwise_append] at hfollows
  refine ⟨_, hcalls, hfollows.1, ?_⟩
  rintro r hr r' hr' x rfl hx
  obtain ⟨c, hc, rfl⟩ := List.mem_map.1 hr'
  obtain rfl : client = x := Option.some.inj hx
  have hcm : c ∈ made ++ left' := List.mem_append_left _ hc
  generalize made ++ left' = left at hbids hcm hm
  cases hbids with
  | whole ids => exact absurd hr (h.closed_once hm (List.mem_append_right _ (.head _)))
  | ahead hid ha => exact absurd hr ha.1
  | @late _ globalId hlate =>
    obtain rfl := List.mem_singleton.1 hcm
    exact ⟨globalId, hlate, rfl⟩
  | done => cases hcm

/-- **Who makes calls on the service** in an event: nobody, a call that has a turn, or a
farewell. -/
theorem step_calls (hb : BridgeOK b none none) (hspent : b.Spent) (e : Event) :
    (b.step e).service.calls = b.service.calls ∨
    (∃ id t stage, e = .turn id ∧ b.task? id = some t ∧ t.stage? = some stage ∧
      (b.step e).service.calls = b.service.calls ++ ((b.takeTurn id).errand stage).calls) ∨
    ∃ id client held left, e = .turn id ∧ b.task? id = some (.farewell client held left) := by
  cases e with
  | turn id =>
    cases hs : (b.task? id).bind Task.stage? with
    | some stage =>
      obtain ⟨t, ht, hst⟩ := Option.bind_eq_some_iff.1 hs
      exact .inr (.inl ⟨id, t, stage, rfl, ht, hst, poll_calls hb hspent ht hst⟩)
    | none =>
      show (b.poll id).2.service.calls = _ ∨ _
      rcases poll_of_no_call hs with hp | ⟨text, -, hp⟩ | ⟨x, entry, stream, frame, -, hp⟩ |
        ⟨client, held, left, ht, -⟩
      · exact .inl (congrArg (·.service.calls) hp)
      · exact .inl (congrArg (·.service.calls) hp)
      · rw [hp, afterBackground_service]
        exact .inl ((b.takeTurn id).pump_alike id x entry stream frame).1.calls
      · exact .inr (.inr ⟨id, client, held, left, rfl, ht⟩)
  | close target => exact .inl (congrArg Service.calls (b.close_service target))
  | abandon id =>
    refine .inl ?_
    show (b.abandon id).service.calls = _
    unfold abandon
    split
    · rfl
    · rename_i request stage ht
      obtain ⟨b₀, hb₀, -, hl⟩ := (b.conclude id).release_level id stage
      rw [hl.calls, closeAll_service]
      exact hb₀.calls
    · rfl
  | far act => exact .inl (b.far_level act).calls
  | call c => exact .inl rfl
  | payload text => exact .inl rfl
  | runtime available => exact .inl rfl

/-- **Every event** makes only calls that may follow. -/
theorem step_callsOn (hb : BridgeOK b none none) (hspent : b.Spent) (h : b.Parted begun lost)
    (e : Event) : b.CallsOn lost (b.step e) := by
  rcases step_calls hb hspent e with hsame | ⟨id, t, stage, rfl, ht, hs, -⟩ |
    ⟨id, client, held, left, rfl, ht⟩
  · exact .of_eq hsame
  · exact call_callsOn hb hspent h ht hs
  · exact farewell_callsOn hb h ht

/-- A task that is given up has parted from no more clients. -/
theorem Parting.conclude (h : b.Parting begun lost) (id : TaskId) :
    (b.conclude id).Parting begun lost where
  registry := h.registry
  numbered p hp := h.numbered p (List.mem_of_mem_filter hp)
  counted := h.counted
  once := h.once
  apart := by
    have hless : (b.conclude id).handedOver ≤ b.handedOver :=
      add_le_add_right (Multiset.coe_le.2 (List.filter_sublist.flatMap _).subperm) _
    exact h.apart.mono_right (Multiset.filterMap_le_filterMap _ hless)
  bidding := h.bidding.conclude id

/-- **Every event** leaves each farewell what it can have left. -/
theorem step_bidding (hb : BridgeOK b none none) (hspent : b.Spent) (h : b.Parting begun lost)
    (e : Event)
    (horder : ∀ id ∈ b.bidsIn e, ∀ earlier < id, b.IsFarewell earlier → earlier ∈ begun)
    (hlost : ∀ client globalId, b.Orphans e client globalId → lost client globalId) :
    (b.step e).Bidding (b.bidsIn e ++ begun) lost := by
  cases e with
  | turn id =>
    show (b.poll id).2.Bidding _ lost
    by_cases hf : b.IsFarewell id
    · obtain ⟨client, held, left, ht⟩ := isFarewell_iff.1 hf
      rw [show b.bidsIn (.turn id) = [id] from if_pos hf] at horder ⊢
      exact farewell_bidding hb h ht (horder id (.head _))
    rw [show b.bidsIn (.turn id) = [] from if_neg hf, List.nil_append]
    cases hs : (b.task? id).bind Task.stage? with
    | some stage =>
      obtain ⟨t, ht, hst⟩ := Option.bind_eq_some_iff.1 hs
      exact call_bidding hb hspent h ht hst hlost
    | none =>
      have hturn := h.bidding.beside (b.takeTurn_level id).toBeside
      rcases poll_of_no_call hs with hp | ⟨text, -, hp⟩ | ⟨x, entry, stream, frame, -, hp⟩ |
        ⟨client, held, left, ht, -⟩
      · rw [hp]
        exact h.bidding
      · rw [hp]
        exact hturn.conclude id
      · have hpumped := hturn.beside ((b.takeTurn id).pump_alike id x entry stream frame).1
        rw [hp]
        rcases afterBackground_level id ((b.takeTurn id).pump id x entry stream frame) with
          ⟨-, hl⟩ | ⟨t', ht', hl⟩
        · exact (hpumped.conclude id).beside hl.toBeside
        · obtain ⟨stream', frame', rfl⟩ := (pump_pumped _ id x entry stream frame).place ht'
          exact (hpumped.setTask (fun _ _ _ h => by cases h) id).beside hl.toBeside
      · exact absurd (isFarewell_iff.2 ⟨client, held, left, ht⟩) hf
  | close target => exact h.close_bidding target
  | abandon id =>
    show (b.abandon id).Bidding begun lost
    unfold abandon
    split
    · exact h.bidding.conclude id
    · rename_i request stage ht
      obtain ⟨b₀, hb₀, ha, hl⟩ := (b.conclude id).release_level id stage
      exact (((h.conclude id).beside hb₀ (ha.ok h.registry) ha.standing).closeAll _).bidding.beside
        hl.toBeside
    · exact h.bidding
  | far act => exact h.bidding.beside (b.far_level act).toBeside
  | call c => exact h.bidding.submit fun _ _ _ h => by cases h
  | payload text => exact h.bidding.submit fun _ _ _ h => by cases h
  | runtime available => exact h.bidding.of_subset (fun _ _ _ _ hm => hm) rfl

/-- **Every event in order** keeps all this. -/
theorem step_parted (hb : b.Reachable) (h : b.Parted begun lost) (e : Event)
    (horder : ∀ id ∈ b.bidsIn e, ∀ earlier < id, b.IsFarewell earlier → earlier ∈ begun)
    (hlost : ∀ client globalId, b.Orphans e client globalId → lost client globalId) :
    (b.step e).Parted (b.bidsIn e ++ begun) lost where
  tied := step_tied hb.ok hb.spent h.tied e
  counted := by
    have hlater := (step_steps hb.ok e).later.nextTask
    intro id hid
    rcases List.mem_append.1 hid with hid | hid
    · cases e with
      | turn x =>
        by_cases hf : b.IsFarewell x
        · obtain ⟨client, held, left, ht⟩ := isFarewell_iff.1 hf
          rw [show b.bidsIn (.turn x) = [x] from if_pos hf, List.mem_singleton] at hid
          exact hid ▸ (hb.ok.lt_nextTask ht).trans_le hlater
        · rw [show b.bidsIn (.turn x) = [] from if_neg hf] at hid
          cases hid
      | _ => cases hid
    · exact (h.counted id hid).trans_le hlater
  bidding := step_bidding hb.ok hb.spent (h.parting hb.ok) e horder hlost
  last := by
    obtain ⟨new, hcalls, hnew, hfollows⟩ := step_callsOn hb.ok hb.spent h e
    rw [hcalls, List.pairwise_append]
    exact ⟨h.last, hnew, hfollows⟩

/-! ## Every run -/

/-- **A run in order** makes only calls that may follow, where those are lost that are orphaned
in it. -/
theorem after_parted (es : List Event) (hb : b.Reachable) (h : b.Parted begun lost)
    (horder : b.StartsInOrder begun es)
    (hlost : ∀ es₁ e es₂, es = es₁ ++ e :: es₂ → ∀ client globalId,
      (b.after es₁).Orphans e client globalId → lost client globalId) :
    (b.after es).service.calls.Pairwise (Follows lost) := by
  induction es generalizing b begun with
  | nil => exact h.last
  | cons e es ih =>
    refine ih (.step e hb) (step_parted hb h e horder.1 (hlost [] e es rfl)) horder.2
      fun es₁ e' es₂ hes => ?_
    exact hlost (e :: es₁) e' es₂ (congrArg (e :: ·) hes)

end Bridge

/-! ## The last call -/

/-- **The call that closes a connection is the last one on its client**, where farewells begin in
the order in which they were started. What is called on the client after it closes a session that
nobody had: it arrived in a turn in which its connection was closed. -/
theorem connection_closed_last (sessionIds : List String) (hangs : Bool) (config : BridgeConfig)
    (hasRuntime : Bool) (es : List Event) (client : ClientId) (pre post : List CallRecord) :
    let start : Bridge := .new { sessionIds, hangsCreateSession := hangs } config hasRuntime
    start.StartsInOrder [] es →
    (start.after es).service.calls = pre ++ RemoteClose.connection.record client :: post →
    ∀ r ∈ post, r.client = some client → ∃ globalId,
      r = (RemoteClose.session globalId).record client ∧ ∃ es₁ e es₂, es = es₁ ++ e :: es₂ ∧
        (start.after es₁).Orphans e client globalId := by
  intro start horder hcalls r hr hclient
  have hstart : start.Reachable := .start sessionIds hangs config hasRuntime
  let lost : ClientId → GlobalSessionId → Prop := fun client globalId =>
    ∃ es₁ e es₂, es = es₁ ++ e :: es₂ ∧ (start.after es₁).Orphans e client globalId
  have hparted : start.Parted [] lost := by
    refine ⟨⟨?_, ?_⟩, fun r hr => absurd hr List.not_mem_nil,
      fun x _ _ _ hx => absurd hx List.not_mem_nil, .nil⟩
    · exact Multiset.nodup_zero
    · exact fun x hx => absurd hx (Multiset.notMem_zero x)
  have hlast := Bridge.after_parted es hstart hparted horder
    fun es₁ e es₂ hes x globalId ho => ⟨es₁, e, es₂, hes, ho⟩
  rw [hcalls, List.pairwise_append] at hlast
  obtain ⟨globalId, hlost, hrecord⟩ :=
    (List.pairwise_cons.1 hlast.2.1).1 r hr client rfl hclient
  exact ⟨globalId, hrecord, hlost⟩

/-- A session is asked for, and its connection is closed before the service returns. Then nobody
has the session. -/
def Bridge.orphaning : List Event :=
  [.call (.openConnection "a://b" none), .turn 0,
    .far (.plan .createSession [.close (.connection ⟨1⟩)]), .call (.createSession ⟨1⟩), .turn 1,
    .turn 2, .turn 3]

theorem orphaning_calls : Bridge.fresh.StartsInOrder [] Bridge.orphaning ∧
    (Bridge.fresh.after Bridge.orphaning).service.calls =
      (Bridge.fresh.after Bridge.orphaning).service.calls.take 3 ++
        [RemoteClose.connection.record 0, (RemoteClose.session ⟨"session-1"⟩).record 0] := by
  decide +kernel

theorem connection_closed_last_orphaning :
    Bridge.fresh.StartsInOrder [] Bridge.orphaning ∧
      (Bridge.fresh.after Bridge.orphaning).service.calls.drop 3 =
        [RemoteClose.connection.record 0, (RemoteClose.session ⟨"session-1"⟩).record 0] ∧
      ∃ es₁ e es₂, Bridge.orphaning = es₁ ++ e :: es₂ ∧
        (Bridge.fresh.after es₁).Orphans e 0 ⟨"session-1"⟩ := by
  obtain ⟨horder, hcalls⟩ := orphaning_calls
  obtain ⟨globalId, hrecord, horphan⟩ := connection_closed_last [] false ⟨10, ⟨"", 1⟩⟩ true
    Bridge.orphaning 0 _ _ horder hcalls _ (.head _) rfl
  cases hrecord
  exact ⟨horder, by decide +kernel, horphan⟩

/-- A session that nobody has is closed on a client whose connection was closed before. -/
theorem orphan_closed_last : ¬ ∀ es, Bridge.fresh.StartsInOrder [] es →
    ∀ (client : ClientId) (pre post : List CallRecord), (Bridge.fresh.after es).service.calls =
      pre ++ RemoteClose.connection.record client :: post → ∀ r ∈ post, r.client ≠ some client := by
  intro h
  obtain ⟨horder, hcalls⟩ := orphaning_calls
  exact h Bridge.orphaning horder 0 _ _ hcalls _ (.head _) rfl

end QueryBridge
