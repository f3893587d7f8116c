import QueryBridge.Proofs.Bridge.Replies
import QueryBridge.Proofs.Bridge.Tracking
import QueryBridge.Proofs.Conservation

/-!
# In whose hand a client is

The connection on a client has to be closed once. So a client is in one hand: a
call opens its connection, the connection is live, a farewell has to close it, or
it was closed and the client is in nobody's hand any more.

* `Bridge.openers`: the clients whose connections are being opened.
* `Bridge.ties`: the clients of which somebody has or had a connection.
* `step_ties`: an event ties one client anew at most, one that is created in it.
* `Bridge.Tied`, `step_tied`: no client is tied twice.
-/

namespace QueryBridge

variable {b b' b'' : Bridge} {id : TaskId} {stage : Stage} {t : Task} {client : ClientId}

/-! ## Openers -/

/-- The client on which a call opens a connection. -/
def Stage.opens? : Stage → Option ClientId
  | .connecting _ client _ | .opening _ client _ => some client
  | _ => none

def Task.opens? : Task → Option ClientId
  | .call _ stage => stage.opens?
  | _ => none

/-- The client on which a call opens a connection after a turn. -/
def Progress.opens? : Progress Stage Outcome → Option ClientId
  | .ends _ => none
  | .waits s | .goesOn s => s.opens?

/-- The client, where it is its connection that has to be closed. -/
def Due.connection? : Due → Option ClientId
  | (client, .connection) => some client
  | (_, .session _) => none

theorem Stage.gives_of_opens? (h : stage.opens? = some client) : stage.gives = .connection := by
  cases stage <;> first | rfl | cases h

theorem Task.opens?_of_stage? (hs : t.stage? = some stage) : t.opens? = stage.opens? := by
  cases t with
  | payload text =>
    obtain ⟨e, -, rfl⟩ := Option.map_eq_some_iff.1 hs
    rfl
  | call request stage' => rw [← Option.some.inj hs]; rfl
  | pump h e stream frame => cases hs
  | farewell client held left => cases hs

theorem Task.opens?_of_inBackground (ht : t.inBackground = true) : t.opens? = none := by
  cases t <;> first | rfl | cases ht

namespace Bridge

/-- The clients on which calls are opening connections. -/
def openers (b : Bridge) : Multiset ClientId := ↑(b.tasks.filterMap (·.2.opens?))

/-- The clients of which somebody has a connection, or had one and has closed it. -/
def ties (b : Bridge) : Multiset ClientId := b.dues.filterMap Due.connection? + b.openers

theorem openers_congr (h : b'.tasks = b.tasks) : b'.openers = b.openers := by
  rw [openers, h, openers]

/-- A task that has come to another place opens what it opens there. -/
theorem setTask_openers (hn : (b.tasks.map Prod.fst).Nodup) (ht : b.task? id = some t) (t' : Task) :
    (b.setTask id t').openers + ↑t.opens?.toList = b.openers + ↑t'.opens?.toList := by
  obtain ⟨l₁, l₂, hl, -, hset⟩ := tasks_split hn ht
  have hmid : ∀ u : Task, (↑((l₁ ++ (id, u) :: l₂).filterMap (·.2.opens?)) : Multiset ClientId) =
      ↑(l₁.filterMap (·.2.opens?)) + ↑u.opens?.toList + ↑(l₂.filterMap (·.2.opens?)) := by
    intro u
    rw [List.filterMap_append, ← Multiset.coe_add, add_assoc]
    congr 1
    cases hu : u.opens? <;> simp [hu]
  unfold openers
  rw [hset, hl, hmid, hmid]
  abel

/-- A task that is over opens nothing. -/
theorem conclude_openers (hn : (b.tasks.map Prod.fst).Nodup) (ht : b.task? id = some t) :
    (b.conclude id).openers + ↑t.opens?.toList = b.openers := by
  -- it opens as little in any place where nothing is opened
  have hset := setTask_openers hn ht (.payload "")
  obtain ⟨l₁, l₂, -, hconclude, hplace⟩ := tasks_split hn ht
  have hsame : (b.setTask id (.payload "")).openers = (b.conclude id).openers := by
    unfold openers
    rw [hplace, hconclude, List.filterMap_append, List.filterMap_append]
    rfl
  rw [hsame] at hset
  exact hset.trans (add_zero _)

/-! ## Where nothing is opened -/

/-- No connection is opened on the way from one bridge to the other, and no client is lost. -/
structure OpensNothing (b b' : Bridge) : Prop where
  openers : b'.openers ≤ b.openers
  clients : b.service.clients ≤ b'.service.clients

namespace OpensNothing

theorem refl (b : Bridge) : OpensNothing b b := ⟨le_rfl, le_rfl⟩

theorem trans (h : OpensNothing b b') (h' : OpensNothing b' b'') : OpensNothing b b'' :=
  ⟨h'.openers.trans h.openers, h.clients.trans h'.clients⟩

theorem of_eq (ht : b'.tasks = b.tasks) (hs : b'.service = b.service) : OpensNothing b b' :=
  ⟨(openers_congr ht).le, le_of_eq (congrArg Service.clients hs.symm)⟩

theorem setTask (hn : (b.tasks.map Prod.fst).Nodup) (ht : b.task? id = some t) {t' : Task}
    (ht' : t'.opens? = none) : OpensNothing b (b.setTask id t') := by
  refine ⟨?_, le_rfl⟩
  have hset := setTask_openers hn ht t'
  rw [ht'] at hset
  exact (Multiset.le_add_right _ _).trans (hset.trans (add_zero _)).le

theorem conclude (b : Bridge) (id : TaskId) : OpensNothing b (b.conclude id) :=
  ⟨Multiset.coe_le.2 (List.filter_sublist.filterMap _).subperm, le_rfl⟩

end OpensNothing

/-- Work that is started in the background opens nothing. -/
theorem Spawns.openers (h : Spawns b b') : b'.openers = b.openers := by
  obtain ⟨new, ht, hnew, -⟩ := h.work
  have hnone : new.filterMap (·.2.opens?) = [] :=
    List.filterMap_eq_nil_iff.2 fun p hp => Task.opens?_of_inBackground (hnew p hp)
  rw [Bridge.openers, ht, List.filterMap_append, hnone, List.append_nil]
  rfl

theorem Spawns.opensNothing (h : Spawns b b') : OpensNothing b b' := ⟨h.openers.le, h.clients⟩

theorem wakeAll_opensNothing (ids : List TaskId) (b : Bridge) : OpensNothing b (b.wakeAll ids) :=
  (b.wakeAll_spawns ids).opensNothing

/-- While a call has its turn, it is still where it was. -/
theorem turn_opensNothing (b : Bridge) (id : TaskId) (stage : Stage) :
    OpensNothing b (b.turn id stage).2 := by
  -- a drain starts what the closes before it start
  have hsettle : ∀ b₁, Spawns b b₁ → OpensNothing b (b₁.settle id).2 := by
    intro b₁ h
    have htracker : OpensNothing b { b₁ with tracker := b₁.tracker.shut.2 } :=
      h.opensNothing.trans (.of_eq rfl rfl)
    have hshut := htracker.trans (wakeAll_opensNothing b₁.tracker.shut.1 _)
    unfold settle
    dsimp only
    split
    · exact hshut.trans (.of_eq rfl rfl)
    · exact hshut.trans (.of_eq rfl rfl)
  cases hd : stage.drains with
  | false => exact (b.turn_spawns id hd).opensNothing
  | true =>
    cases stage with
    | fresh c =>
      cases c with
      | settle => exact hsettle b (.refl b)
      | shutdown => exact hsettle _ (closeConnections_spawns _ b)
      | _ => cases hd
    | draining =>
      show OpensNothing b (b.drain id).2
      unfold drain
      split
      · exact .of_eq rfl rfl
      · exact .refl b
    | _ => cases hd

/-! ## Turns that open -/

/-- The client stays in the hand of a call that has not ended. -/
def KeepsHand (client : ClientId) (t : Turn) : Prop :=
  ∀ s, t.1 = .waits s ∨ t.1 = .goesOn s → s.opens? = some client

theorem opening_keepsHand (url : Url) (client : ClientId) (p : Course × Bridge) :
    KeepsHand client (opening url client p) := by
  obtain ⟨course, b⟩ := p
  cases course with
  | held held =>
    intro s hs
    rcases hs with hs | hs <;> cases hs
    rfl
  | refused message => rintro s (hs | hs) <;> cases hs
  | returned =>
    show KeepsHand client (b.register url client)
    unfold register
    split <;> rintro s (hs | hs) <;> cases hs

theorem connecting_keepsHand (id : TaskId) (url : Url) (client : ClientId) (p : Course × Bridge) :
    KeepsHand client (connecting id url client p) := by
  obtain ⟨course, b⟩ := p
  cases course with
  | held held =>
    intro s hs
    rcases hs with hs | hs <;> cases hs
    rfl
  | refused message => rintro s (hs | hs) <;> cases hs
  | returned =>
    show KeepsHand client (b.openRemote id url client)
    unfold openRemote
    split
    · rintro s (hs | hs) <;> cases hs
    · exact opening_keepsHand url client _

/-- **A connection is opened** on a client that is created for it, or the attempt
fails at once. -/
theorem openConnection_hand (b : Bridge) (id : TaskId) (text : String)
    (credentials : Option Credentials) :
    (∃ f, (b.openConnection id text credentials).1 = .ends (.failed f)) ∧
        b.granted (.fresh (.openConnection text credentials)) = none ∨
      b.service.clients < (b.openConnection id text credentials).2.service.clients ∧
        KeepsHand b.service.clients (b.openConnection id text credentials) := by
  unfold openConnection
  cases hu : Url.ofService text with
  | error f =>
    refine .inl ⟨⟨f, rfl⟩, granted_of_not_returned ?_⟩
    simp [errand, hu]
  | ok url =>
    cases hr : b.service.refusal? .createClient with
    | some message =>
      dsimp only
      rw [call_eq none (.createClient ⟨url, credentials⟩) hr]
      refine .inl ⟨⟨_, rfl⟩, granted_of_not_returned ?_⟩
      obtain ⟨hc, -⟩ := asked_refused none (.createClient ⟨url, credentials⟩) hr
      simp [errand, hu, Errand.andThen, hc]
    | none =>
      dsimp only
      rw [call_eq none (.createClient ⟨url, credentials⟩) hr]
      have hspawns := (passHooks_spawns ((b.withService (b.service.record none
        (.createClient ⟨url, credentials⟩))).withService (b.service.record none
        (.createClient ⟨url, credentials⟩)).newClient.2) id .createClient).trans
        (connecting_spawns id url b.service.clients _)
      exact .inr ⟨Nat.lt_of_succ_le hspawns.clients, connecting_keepsHand id url _ _⟩

/-- A call that asks for something else than a connection opens none. -/
theorem asksFor_of_other (hne : stage.gives ≠ .connection) :
    (b.asksFor stage).bind Due.connection? = none := by
  cases stage with
  | fresh c =>
    cases c with
    | openConnection text credentials => exact absurd rfl hne
    | createSession c =>
      show ((b.registry.connections.get? c).map _).bind Due.connection? = none
      cases b.registry.connections.get? c <;> rfl
    | _ => rfl
  | connecting url client held => exact absurd rfl hne
  | opening url client held => exact absurd rfl hne
  | _ => rfl

theorem granted_connection? (h : (b.granted stage).bind Due.connection? = some client) :
    (b.asksFor stage).bind Due.connection? = some client := by
  unfold granted at h
  split at h
  · exact h
  · cases h

/-- A call that has another turn was granted nothing in this one. -/
theorem granted_of_stays {s : Stage}
    (hs : (b.turn id stage).1 = .waits s ∨ (b.turn id stage).1 = .goesOn s) :
    b.granted stage = none := by
  cases hc : stage.creates with
  | true => exact ((b.turn_creates id hc).stays hs).2.1
  | false => exact granted_of_not_creates hc

/-- The client that a call has in hand goes over to the resource that it is granted, or stays
in its hand. -/
theorem KeepsHand.sublist (h : KeepsHand client (b.turn id stage))
    (ha : (b.asksFor stage).bind Due.connection? = some client) :
    (((b.granted stage).bind Due.connection?).toList ++
      (b.turn id stage).1.opens?.toList).Sublist [client] := by
  cases hp : (b.turn id stage).1 with
  | ends o =>
    cases hg : (b.granted stage).bind Due.connection? with
    | none => exact List.nil_sublist _
    | some c =>
      rw [Option.some.inj ((granted_connection? hg).symm.trans ha)]
      exact .refl _
  | waits s =>
    rw [granted_of_stays (.inl hp), show Progress.opens? (.waits s) = _ from h s (.inl hp)]
    exact .refl _
  | goesOn s =>
    rw [granted_of_stays (.inr hp), show Progress.opens? (.goesOn s) = _ from h s (.inr hp)]
    exact .refl _

/-- Whoever opens no connection has none in hand after a turn. -/
theorem turn_opens_of_other (b : Bridge) (id : TaskId) (hne : stage.gives ≠ .connection) :
    ((b.granted stage).bind Due.connection?).toList ++ (b.turn id stage).1.opens?.toList = [] := by
  have hg : (b.granted stage).bind Due.connection? = none := by
    cases hg : (b.granted stage).bind Due.connection? with
    | none => rfl
    | some c => exact absurd ((granted_connection? hg).symm.trans (asksFor_of_other hne)) nofun
  have hplace : ∀ s : Stage, s.gives = stage.gives → s.opens? = none := by
    intro s hs
    cases ho : s.opens? with
    | none => rfl
    | some c => exact absurd (hs.symm.trans (Stage.gives_of_opens? ho)) hne
  have hgives := b.turn_gives id stage
  unfold Gives at hgives
  rw [hg]
  generalize (b.turn id stage).1 = p at hgives ⊢
  cases p with
  | ends o => rfl
  | waits s => exact congrArg Option.toList (hplace s hgives)
  | goesOn s => exact congrArg Option.toList (hplace s hgives)

/-- **In whose hand a client is in the turn of a call**: in that of the call before it, unless it
is a client that is created in the turn. -/
theorem turn_hand (b : Bridge) (id : TaskId) (stage : Stage) :
    ∃ hand : Option ClientId, (hand = stage.opens? ∨ stage.opens? = none ∧
        hand = some b.service.clients ∧ b.service.clients < (b.turn id stage).2.service.clients) ∧
      (((b.granted stage).bind Due.connection?).toList ++
        (b.turn id stage).1.opens?.toList).Sublist hand.toList := by
  by_cases hne : stage.gives ≠ .connection
  · refine ⟨stage.opens?, .inl rfl, ?_⟩
    rw [turn_opens_of_other b id hne]
    exact List.nil_sublist _
  rw [not_not] at hne
  cases stage with
  | fresh c =>
    cases c with
    | openConnection text credentials =>
      rcases b.openConnection_hand id text credentials with ⟨⟨f, hf⟩, hg⟩ | ⟨hlt, hk⟩
      · refine ⟨none, .inl rfl, ?_⟩
        rw [hg, show (b.turn id (.fresh (.openConnection text credentials))).1 = _ from hf]
        exact .refl _
      · exact ⟨some b.service.clients, .inr ⟨rfl, rfl, hlt⟩, KeepsHand.sublist hk rfl⟩
    | read h reading => cases reading <;> cases hne
    | _ => cases hne
  | connecting url client held =>
    exact ⟨some client, .inl rfl, KeepsHand.sublist (connecting_keepsHand id url client _) rfl⟩
  | opening url client held =>
    exact ⟨some client, .inl rfl, KeepsHand.sublist (opening_keepsHand url client _) rfl⟩
  | awaitingTurn h e reading => cases reading <;> cases hne
  | awaitingFrame h e reading => cases reading <;> cases hne
  | _ => cases hne

/-! ## Every event -/

theorem pollCall_service (b : Bridge) (id : TaskId) (request : Option UInt64) (stage : Stage) :
    (b.pollCall id request stage).2.service = (b.turn id stage).2.service := by
  unfold pollCall
  split <;> rename_i hr <;> rw [hr]
  · rfl
  · dsimp only
    split
    · exact wakeAll_service [id] _
    · rfl
  · rfl

/-- A turn of a call takes its client over, whatever becomes of the call. -/
theorem call_ties (hb : BridgeOK b none none) (hspent : b.Spent)
    (ht : b.task? id = some t) (hs : t.stage? = some stage) :
    b.service.clients ≤ (b.poll id).2.service.clients ∧ ((b.poll id).2.ties ≤ b.ties ∨
      b.service.clients < (b.poll id).2.service.clients ∧
        (b.poll id).2.ties ≤ b.ties + {b.service.clients}) := by
  have hdues := (call_accounts hb hspent ht hs).le
  obtain ⟨hand, hhand, hsub⟩ := (b.takeTurn id).turn_hand id stage
  have hturn := (b.takeTurn id).turn_opensNothing id stage
  obtain ⟨hok, ns, hm, -, -⟩ := call_turned hb ht hs
  have hnodup := (hm.ok hok).1.nodup
  have hlive := (hm.kept hok : Kept none _ _).keeps id t nofun ht
  have hlevel := (b.takeTurn id).pollCall_level id t.request? stage
  have hservice := (b.takeTurn id).pollCall_service id t.request? stage
  rw [← poll_call ht hs] at hlevel hservice
  -- it opens nothing but what it has in hand afterwards
  have hopens : (b.poll id).2.openers + ↑stage.opens?.toList ≤
      b.openers + ↑((b.takeTurn id).turn id stage).1.opens?.toList := by
    rw [← Task.opens?_of_stage? hs]
    rcases hlevel with ⟨o, ho, hl⟩ | ⟨s, hp, hl⟩
    · rw [openers_congr hl.tasks, conclude_openers hnodup hlive]
      exact hturn.openers.trans (Multiset.le_add_right _ _)
    · have hplace : ((b.takeTurn id).turn id stage).1.opens? = s.opens? := by
        rcases hp with hp | hp <;> rw [hp] <;> rfl
      rw [openers_congr hl.tasks, setTask_openers hnodup hlive, hplace]
      exact add_le_add_left hturn.openers _
  -- what it has in hand it had before, or it is new
  have hbalance : (b.poll id).2.ties + ↑stage.opens?.toList ≤ b.ties + ↑hand.toList := by
    have hwon : ((b.takeTurn id).granted stage).toList.filterMap Due.connection? =
        (((b.takeTurn id).granted stage).bind Due.connection?).toList := by
      cases (b.takeTurn id).granted stage with
      | none => rfl
      | some d => cases hd : Due.connection? d <;> simp [hd]
    have hhand' := Multiset.coe_le.2 hsub.subperm
    rw [← Multiset.coe_add] at hhand'
    have hclients := Multiset.filterMap_le_filterMap Due.connection? hdues
    rw [Multiset.filterMap_add, Multiset.filterMap_coe, hwon] at hclients
    unfold ties
    calc (b.poll id).2.dues.filterMap Due.connection? + (b.poll id).2.openers +
          ↑stage.opens?.toList
        ≤ b.dues.filterMap Due.connection? + ↑(((b.takeTurn id).granted stage).bind
            Due.connection?).toList + (b.poll id).2.openers + ↑stage.opens?.toList :=
        add_le_add_left (add_le_add_left hclients _) _
      _ = b.dues.filterMap Due.connection? + ↑(((b.takeTurn id).granted stage).bind
            Due.connection?).toList + ((b.poll id).2.openers + ↑stage.opens?.toList) := by abel
      _ ≤ b.dues.filterMap Due.connection? + ↑(((b.takeTurn id).granted stage).bind
            Due.connection?).toList +
          (b.openers + ↑((b.takeTurn id).turn id stage).1.opens?.toList) :=
        add_le_add_right hopens _
      _ = b.dues.filterMap Due.connection? + b.openers + (↑(((b.takeTurn id).granted stage).bind
            Due.connection?).toList + ↑((b.takeTurn id).turn id stage).1.opens?.toList) := by abel
      _ ≤ _ := add_le_add_right hhand' _
  rw [hservice]
  refine ⟨hturn.clients, ?_⟩
  rcases hhand with rfl | ⟨hnone, rfl, hlt⟩
  · exact .inl (le_of_add_le_add_right hbalance)
  · rw [hnone] at hbalance
    exact .inr ⟨hlt, (Multiset.le_add_right _ _).trans hbalance⟩

/-- Work in the background opens nothing. -/
theorem afterBackground_opensNothing {p : Progress Task Unit × Bridge}
    (hn : (p.2.tasks.map Prod.fst).Nodup) (ht : p.2.task? id = some t)
    (hplace : ∀ t', p.1 = .waits t' ∨ p.1 = .goesOn t' → t'.opens? = none) :
    OpensNothing p.2 (afterBackground id p) := by
  obtain ⟨q, b⟩ := p
  cases q with
  | ends u =>
    have htracker : OpensNothing (b.conclude id)
        { b.conclude id with tracker := b.tracker.finished.2 } := .of_eq rfl rfl
    exact (OpensNothing.conclude b id).trans
      (htracker.trans (wakeAll_opensNothing b.tracker.finished.1 _))
  | waits t' => exact .setTask hn ht (hplace t' (.inl rfl))
  | goesOn t' =>
    exact (OpensNothing.setTask hn ht (hplace t' (.inr rfl))).trans (goOn_spawns _ id).opensNothing

/-- A turn of whatever is no call opens nothing. -/
theorem poll_opensNothing (hb : BridgeOK b none none)
    (hs : (b.task? id).bind Task.stage? = none) : OpensNothing b (b.poll id).2 := by
  have hturn : OpensNothing b (b.takeTurn id) := .of_eq rfl rfl
  rcases poll_of_no_call hs with h | ⟨text, -, h⟩ | ⟨x, e, stream, frame, ht, h⟩ |
    ⟨client, held, left, ht, h⟩
  · rw [h]
    exact .refl b
  · rw [h]
    exact hturn.trans (.conclude _ id)
  · have hspawns := (b.takeTurn id).pump_spawns id x e stream frame
    rw [h]
    refine (hturn.trans hspawns.opensNothing).trans (afterBackground_opensNothing
      (hspawns.nodup (hb.takeTurn ht)) (hspawns.keeps ht) fun t' ht' => ?_)
    obtain ⟨stream', frame', rfl⟩ := (pump_pumped _ id x e stream frame).place ht'
    rfl
  · have hspawns := (b.takeTurn id).farewell_spawns id client held left
    rw [h]
    refine (hturn.trans hspawns.opensNothing).trans (afterBackground_opensNothing
      (hspawns.nodup (hb.takeTurn ht)) (hspawns.keeps ht) fun t' ht' => ?_)
    obtain ⟨held', left', rfl⟩ := farewell_place _ id client held left ht'
    rfl

/-- New work of a caller has opened nothing yet. -/
theorem submit_opensNothing (b : Bridge) (ht : t.opens? = none) :
    OpensNothing b (b.submit t).2 := by
  refine ⟨le_of_eq ?_, le_rfl⟩
  show (↑((b.tasks ++ [(b.nextTask, t)]).filterMap (·.2.opens?)) : Multiset ClientId) = _
  rw [List.filterMap_append, List.filterMap_cons_none (by exact ht), List.filterMap_nil,
    List.append_nil]
  rfl

theorem abandon_opensNothing (b : Bridge) (id : TaskId) : OpensNothing b (b.abandon id) := by
  unfold abandon
  split
  · exact .conclude b id
  · rename_i request stage ht
    refine (OpensNothing.conclude b id).trans ?_
    by_cases hs : stage = .draining
    · subst hs
      exact .of_eq rfl rfl
    · exact (release_spawns _ id hs).opensNothing
  · exact .refl b

end Bridge

/-- **An event ties one client anew at most**, and that one is created in it. -/
theorem step_ties (hb : BridgeOK b none none) (hspent : b.Spent) (e : Event) :
    b.service.clients ≤ (b.step e).service.clients ∧ ((b.step e).ties ≤ b.ties ∨
      b.service.clients < (b.step e).service.clients ∧
        (b.step e).ties ≤ b.ties + {b.service.clients}) := by
  have hdues := step_dues_le hb hspent e
  -- where no call has a turn, nothing is granted
  have hquiet : b.grantedIn e = none → Bridge.OpensNothing b (b.step e) →
      b.service.clients ≤ (b.step e).service.clients ∧ ((b.step e).ties ≤ b.ties ∨
        b.service.clients < (b.step e).service.clients ∧
          (b.step e).ties ≤ b.ties + {b.service.clients}) := by
    intro hg hopens
    rw [hg] at hdues
    refine ⟨hopens.clients, .inl ?_⟩
    have hsame : (b.step e).dues ≤ b.dues := hdues.trans (add_zero _).le
    exact add_le_add (Multiset.filterMap_le_filterMap _ hsame) hopens.openers
  cases e with
  | turn id =>
    cases hs : (b.task? id).bind Task.stage? with
    | some stage =>
      obtain ⟨t, ht, hst⟩ := Option.bind_eq_some_iff.1 hs
      exact Bridge.call_ties hb hspent ht hst
    | none =>
      refine hquiet ?_ (Bridge.poll_opensNothing hb hs)
      rw [Bridge.grantedIn, hs, Option.bind_none]
  | close target => exact hquiet rfl (b.close_spawns target).opensNothing
  | abandon id => exact hquiet rfl (b.abandon_opensNothing id)
  | far act => exact hquiet rfl (b.far_spawns act).opensNothing
  | call c => exact hquiet rfl (b.submit_opensNothing rfl)
  | payload text => exact hquiet rfl (b.submit_opensNothing rfl)
  | runtime available => exact hquiet rfl (.of_eq rfl rfl)

/-! ## Every run -/

/-- Every client is in one hand, and exists. -/
structure Bridge.Tied (b : Bridge) : Prop where
  once : b.ties.Nodup
  exist : ∀ client ∈ b.ties, client < b.service.clients

theorem step_tied (hb : BridgeOK b none none) (hspent : b.Spent) (h : b.Tied)
    (e : Event) : (b.step e).Tied := by
  obtain ⟨hclients, hle | ⟨hlt, hle⟩⟩ := step_ties hb hspent e
  · exact ⟨Multiset.nodup_of_le hle h.once, fun client hc =>
      (h.exist client (Multiset.mem_of_le hle hc)).trans_le hclients⟩
  · have hnew : b.service.clients ∉ b.ties := fun hm => lt_irrefl _ (h.exist _ hm)
    refine ⟨Multiset.nodup_of_le hle ?_, fun client hc => ?_⟩
    · rw [add_comm, Multiset.singleton_add, Multiset.nodup_cons]
      exact ⟨hnew, h.once⟩
    · rcases Multiset.mem_add.1 (Multiset.mem_of_le hle hc) with hc | hc
      · exact (h.exist client hc).trans_le hclients
      · exact (Multiset.mem_singleton.1 hc).trans_lt hlt

end QueryBridge
