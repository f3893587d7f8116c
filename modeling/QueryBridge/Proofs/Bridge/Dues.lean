import Mathlib.Algebra.Order.Group.Multiset
import Mathlib.Tactic.Abel
import QueryBridge.Proofs.Bridge.Deeds
import QueryBridge.Proofs.Closes

/-!
# What the bridge answers for

Whatever the bridge has created or opened on the far side has to be closed there
one day. Until then it stands behind a live resource; after that it is with the
background, which has made the call that closes it, or has it still to make.

* `Registry.standing`: what stands behind the live resources.
* `Bridge.handedOver`: what the background has closed or has still to close.
* `Bridge.dues`: both together.
* `Bridge.Accounts`: nothing is added but what was granted, and on a runtime nothing is lost.
* `Bridge.close_accounts`: no close changes what the bridge answers for.
* `Bridge.turn_accounts`: a turn of a call adds what it was granted.
-/

namespace QueryBridge

variable {r r' : Registry} {b b' b'' : Bridge} {id : TaskId} {stage : Stage} {t t' : Task}

/-- Something that has to be closed on the far side one day, on its client. -/
abbrev Due := ClientId × RemoteClose

/-- What a call on the service closes. -/
def CallRecord.closes? : CallRecord → Option Due
  | ⟨some client, .closeSession id⟩ => some (client, .session id)
  | ⟨some client, .closeConnection⟩ => some (client, .connection)
  | _ => none

/-- What a task has still to close. -/
def Task.left : Task → List Due
  | .farewell client _ left => left.map (client, ·)
  | _ => []

/-- What stands on the far side behind a session. -/
def Session.due (e : Session) : Due := (e.client, .session e.globalId)

/-- What stands on the far side behind a connection. -/
def Connection.due (e : Connection) : Due := (e.client, .connection)

/-- What stands on the far side behind the live resources. -/
def Registry.standing (r : Registry) : Multiset Due :=
  ↑(r.sessions.live.entries.map (·.2.due)) + ↑(r.connections.live.entries.map (·.2.due))

namespace Bridge

/-- What was left to the background: the calls that it has made, and those that it has to make. -/
def handedOver (b : Bridge) : Multiset Due :=
  ↑(b.service.calls.filterMap CallRecord.closes?) + ↑(b.tasks.flatMap (·.2.left))

/-- What the bridge answers for on the far side. -/
def dues (b : Bridge) : Multiset Due := b.registry.standing + b.handedOver

end Bridge

/-- The call of a farewell closes what was left to it. -/
@[simp] theorem RemoteClose.closes?_record (client : ClientId) (c : RemoteClose) :
    (c.record client).closes? = some (client, c) := by
  cases c <;> rfl

/-! ## What stands behind a registry -/

namespace Registry

theorem standing_congr (hs : r'.sessions = r.sessions) (hc : r'.connections = r.connections) :
    r'.standing = r.standing := by
  simp only [standing, hs, hc]

theorem Alike.standing (h : r.Alike r') : r'.standing = r.standing :=
  standing_congr h.sessions h.connections

/-- Where a connection is added, what stands behind it is added. -/
theorem addConnection_standing {e : Connection} {c : ConnectionHandle}
    (h : r.addConnection e = .ok (c, r')) : r'.standing = r.standing + {e.due} := by
  obtain ⟨t, ha, rfl⟩ := addConnection_eq_ok h
  obtain ⟨-, -, hnone, hget⟩ := HandleTable.allocate_eq_ok ha
  have hperm : (t.live.entries.map (·.2.due)).Perm
      (e.due :: r.connections.live.entries.map (·.2.due)) :=
    (HandleMap.entries_perm_cons hnone hget).map _
  unfold standing
  rw [Multiset.coe_eq_coe.2 hperm, ← Multiset.cons_coe, ← Multiset.singleton_add]
  abel

/-- Where a session is added, what stands behind it is added. -/
theorem addSession_standing {e : Session} {s : SessionHandle}
    (h : r.addSession e = .ok (s, r')) : r'.standing = r.standing + {e.due} := by
  obtain ⟨t, ha, rfl⟩ := addSession_eq_ok h
  obtain ⟨-, -, hnone, hget⟩ := HandleTable.allocate_eq_ok ha
  have hperm : (t.live.entries.map (·.2.due)).Perm
      (e.due :: r.sessions.live.entries.map (·.2.due)) :=
    (HandleMap.entries_perm_cons hnone hget).map _
  show (↑(t.live.entries.map (·.2.due)) : Multiset Due) + _ = _
  unfold standing
  rw [Multiset.coe_eq_coe.2 hperm, ← Multiset.cons_coe, ← Multiset.singleton_add]
  show _ + (↑(r.connections.live.entries.map (·.2.due)) : Multiset Due) = _
  abel

/-- Nothing stands behind a reader. -/
theorem addReader_standing {e : Reader} {ch : Channel} {h : ReaderHandle}
    (ha : r.addReader e ch = .ok (h, r')) : r'.standing = r.standing := by
  obtain ⟨t, -, rfl⟩ := addReader_eq_ok ha
  exact standing_congr rfl rfl

/-- A reading changes nothing of the far side. -/
theorem Reads.standing {met : Option (ReaderHandle × StreamEnd)} (h : r.Reads met r') :
    r'.standing = r.standing := standing_congr h.tables.2 h.tables.1

/-- **Where a session is closed**, what stood behind it is left to somebody else. -/
theorem closeSession_standing (hr : RegistryOK r) {s : SessionHandle} {e : Session}
    (h : r.closeSession s = .ok (e, r')) : r.standing = r'.standing + {e.due} := by
  have he := closeSession_live h
  obtain ⟨r₁, h₁, hp⟩ := closeSession_pruned hr he
  obtain rfl : r' = r₁ := by simpa [h] using h₁
  have hsessions : (r.sessions.live.entries.map (·.2.due)).Perm
      (e.due :: r'.sessions.live.entries.map (·.2.due)) := by
    refine (HandleMap.entries_perm_cons (m := r'.sessions.live) (h := s) (a := e) ?_ ?_).map _
    · exact (hp.sessions s).trans (if_pos rfl)
    · intro x
      rw [show r'.sessions.live.get? x = _ from hp.sessions x]
      by_cases hx : x = s
      · rw [if_pos hx, hx]
        exact he
      · rw [if_neg hx, if_neg hx]
        rfl
  have hconnections : r'.connections.live = r.connections.live :=
    HandleMap.ext_get? fun c => (hp.connections c).trans (if_neg id)
  unfold standing
  rw [Multiset.coe_eq_coe.2 hsessions, ← Multiset.cons_coe, ← Multiset.singleton_add, hconnections]
  abel

/-- **Where a connection is closed**, what stood behind it and behind its
sessions is left to somebody else. -/
theorem closeConnection_standing (hr : RegistryOK r) {c : ConnectionHandle} {e : Connection}
    {ids : List GlobalSessionId} (h : r.closeConnection c = .ok (e, ids, r')) :
    r.standing = r'.standing +
      ↑((ids.map RemoteClose.session ++ [RemoteClose.connection]).map (e.client, ·)) := by
  have he := closeConnection_live h
  obtain ⟨r₁, h₁, hp⟩ := closeConnection_pruned hr he
  obtain ⟨rfl, rfl⟩ : ids = r.idsOf c ∧ r' = r₁ := by simpa [h] using h₁
  have hconnections : (r.connections.live.entries.map (·.2.due)).Perm
      (e.due :: r'.connections.live.entries.map (·.2.due)) := by
    refine (HandleMap.entries_perm_cons (m := r'.connections.live) (h := c) (a := e) ?_ ?_).map _
    · exact (hp.connections c).trans (if_pos rfl)
    · intro x
      rw [show r'.connections.live.get? x = _ from hp.connections x]
      by_cases hx : x = c
      · rw [if_pos hx, hx]
        exact he
      · rw [if_neg hx, if_neg hx]
        rfl
  have hsessions : (r.sessions.live.entries.map (·.2.due)).Perm
      ((r.sessions.live.entries.filter (·.2.connection = c)).map (·.2.due) ++
        r'.sessions.live.entries.map (·.2.due)) := by
    rw [← List.map_append]
    refine (HandleMap.entries_perm_append fun x a => ?_).map _
    rw [show r'.sessions.live.get? x = _ from hp.sessions x, decide_eq_false_iff_not]
    by_cases hx : r.SessionOf c x
    · rw [if_pos hx]
      obtain ⟨e', he', hc⟩ := hx
      refine ⟨nofun, fun ⟨ha, hne⟩ => absurd hc ?_⟩
      rwa [Option.some.inj (he'.symm.trans ha)]
    · rw [if_neg hx]
      exact ⟨fun ha => ⟨ha, fun hc => hx ⟨a, ha, hc⟩⟩, And.left⟩
  -- all of its sessions are over its client
  have hclient : (r.sessions.live.entries.filter (·.2.connection = c)).map (·.2.due) =
      ((r.idsOf c).map RemoteClose.session).map (e.client, ·) := by
    unfold idsOf
    rw [List.map_map, List.map_map]
    refine List.map_congr_left fun ⟨s, e'⟩ hm => ?_
    obtain ⟨hm, hc⟩ := List.mem_filter.1 hm
    obtain ⟨e₁, h₁, hcl⟩ := hr.parent s e' (HandleMap.get?_of_mem hm)
    rw [decide_eq_true_eq] at hc
    rw [hc, he] at h₁
    obtain rfl := Option.some.inj h₁
    show (e'.client, _) = (e.client, _)
    rw [hcl]
  unfold standing
  rw [Multiset.coe_eq_coe.2 hsessions, Multiset.coe_eq_coe.2 hconnections, hclient,
    List.map_append, ← Multiset.coe_add, ← Multiset.coe_add, ← Multiset.cons_coe,
    ← Multiset.singleton_add]
  show _ = _ + (_ + ({e.due} : Multiset Due))
  abel

end Registry

/-! ## What is left to the background -/

namespace Bridge

theorem Level.handedOver (h : b.Level b') : b'.handedOver = b.handedOver := by
  simp only [Bridge.handedOver, h.calls, h.tasks]

theorem Beside.handedOver (h : b.Beside b') : b'.handedOver = b.handedOver := by
  simp only [Bridge.handedOver, h.calls, h.tasks]

theorem Level.dues (h : b.Level b') : b'.dues = b.dues := by
  rw [Bridge.dues, Bridge.dues, h.handedOver, h.registry]

theorem Beside.dues (h : b.Beside b') (hr : b'.registry.standing = b.registry.standing) :
    b'.dues = b.dues := by
  rw [Bridge.dues, Bridge.dues, h.handedOver, hr]

theorem submit_handedOver (b : Bridge) (t : Task) :
    (b.submit t).2.handedOver = b.handedOver + ↑t.left := by
  unfold handedOver submit
  dsimp only
  rw [List.flatMap_append, ← Multiset.coe_add, add_assoc]
  simp

/-- Work that was started in the background has to close what it is given. -/
theorem spawnOn_dues (b : Bridge) (t : Task) : (b.spawnOn t).dues = b.dues + ↑t.left := by
  rw [dues, dues, spawnOn, submit_handedOver, add_assoc]
  rfl

/-- One bridge answers for what the other did and for what it was granted, or for less. On a
runtime nothing is lost. -/
structure Accounts (b b' : Bridge) (granted : Multiset Due) : Prop where
  le : b'.dues ≤ b.dues + granted
  eq : b.hasRuntime = true → b'.dues = b.dues + granted
  hasRuntime : b.hasRuntime = true → b'.hasRuntime = true

namespace Accounts

variable {granted granted' : Multiset Due}

theorem of_eq (hd : b'.dues = b.dues + granted) (hrt : b'.hasRuntime = b.hasRuntime) :
    b.Accounts b' granted := ⟨hd.le, fun _ => hd, hrt.trans⟩

/-- Nothing has changed. -/
theorem of_dues (hd : b'.dues = b.dues) (hrt : b'.hasRuntime = b.hasRuntime) : b.Accounts b' 0 :=
  .of_eq (hd.trans (add_zero _).symm) hrt

theorem refl (b : Bridge) : b.Accounts b 0 := .of_dues rfl rfl

theorem trans (h : b.Accounts b' granted) (h' : b'.Accounts b'' granted') :
    b.Accounts b'' (granted + granted') := by
  refine ⟨?_, fun hrt => ?_, fun hrt => h'.hasRuntime (h.hasRuntime hrt)⟩
  · rw [← add_assoc]
    exact h'.le.trans (add_le_add_left h.le _)
  · rw [h'.eq (h.hasRuntime hrt), h.eq hrt, add_assoc]

theorem andNothing (h : b.Accounts b' granted) (h' : b'.Accounts b'' 0) :
    b.Accounts b'' granted := by
  rw [← add_zero granted]
  exact h.trans h'

theorem nothingAnd (h : b.Accounts b' 0) (h' : b'.Accounts b'' granted) :
    b.Accounts b'' granted := by
  rw [← zero_add granted]
  exact h.trans h'

theorem level (h : b.Accounts b' granted) (hl : b'.Level b'') : b.Accounts b'' granted :=
  ⟨hl.dues.le.trans h.le, fun hrt => hl.dues.trans (h.eq hrt),
    fun hrt => hl.hasRuntime.trans (h.hasRuntime hrt)⟩

theorem beside (h : b.Beside b') (hr : b'.registry.standing = b.registry.standing) :
    b.Accounts b' 0 := .of_dues (h.dues hr) h.hasRuntime

/-- The same, counted from another bridge. -/
theorem rebase (h : b'.Accounts b'' granted) (hd : b'.dues + granted = b.dues + granted')
    (hrt : b'.hasRuntime = b.hasRuntime) : b.Accounts b'' granted' := by
  refine ⟨?_, fun h₁ => ?_, fun h₁ => h.hasRuntime (hrt.trans h₁)⟩
  · rw [← hd]
    exact h.le
  · rw [← hd]
    exact h.eq (hrt.trans h₁)

/-- What was granted has been closed. -/
theorem discharge (h : b.Accounts b' granted) (hd : b''.dues + granted = b'.dues)
    (hrt : b''.hasRuntime = b'.hasRuntime) : b.Accounts b'' 0 := by
  refine ⟨?_, fun h₁ => ?_, fun h₁ => hrt.trans (h.hasRuntime h₁)⟩
  · rw [add_zero]
    exact le_of_add_le_add_right (hd.le.trans h.le)
  · rw [add_zero]
    exact add_right_cancel (hd.trans (h.eq h₁))

end Accounts

/-- Work in the background has to close what it is given, unless it is dropped. -/
theorem spawn_accounts (b : Bridge) (t : Task) : b.Accounts (b.spawn t) ↑t.left := by
  unfold spawn
  split
  · exact .of_eq (b.spawnOn_dues t) rfl
  · rename_i hrt
    exact ⟨Multiset.le_add_right _ _, fun h => absurd h hrt, id⟩

/-- What nobody has registered is left to the background. -/
theorem disown_accounts (b : Bridge) (g : Option Due) : b.Accounts (b.disown g) ↑g.toList := by
  cases g with
  | none => exact .refl b
  | some p => exact b.spawn_accounts _

/-- A task that has come to another place has left what it has there. -/
theorem setTask_dues (hn : (b.tasks.map Prod.fst).Nodup) (ht : b.task? id = some t) (t' : Task) :
    (b.setTask id t').dues + ↑t.left = b.dues + ↑t'.left := by
  obtain ⟨l₁, l₂, hl, -, hset⟩ := tasks_split hn ht
  unfold dues handedOver
  rw [hset, hl, show (b.setTask id t').registry = b.registry from rfl,
    show (b.setTask id t').service = b.service from rfl]
  simp only [List.flatMap_append, List.flatMap_cons, ← Multiset.coe_add]
  abel

/-- A task that is over has nothing left. -/
theorem conclude_dues (hn : (b.tasks.map Prod.fst).Nodup) (ht : b.task? id = some t) :
    (b.conclude id).dues + ↑t.left = b.dues := by
  obtain ⟨l₁, l₂, hl, hconclude, -⟩ := tasks_split hn ht
  unfold dues handedOver
  rw [hconclude, hl, show (b.conclude id).registry = b.registry from rfl,
    show (b.conclude id).service = b.service from rfl]
  simp only [List.flatMap_append, List.flatMap_cons, ← Multiset.coe_add]
  abel

/-! ## Closes -/

/-- **No close changes what the bridge answers for**: what stood behind the
resources that go is left to the background. -/
theorem close_accounts (hr : RegistryOK b.registry) (t : Target) : b.Accounts (b.close t) 0 := by
  -- the farewell takes what the registry gives up
  have key : ∀ (r : Registry) (scope : Scope) (client : ClientId) (left : List RemoteClose),
      b.registry.standing = r.standing + ↑(left.map (client, ·)) →
      b.Accounts (((b.withRegistry r).wakeWithin scope).sayFarewell client left) 0 := by
    intro r scope client left hstanding
    have hlevel := (b.withRegistry r).wakeAll_level ((b.withRegistry r).waitersWithin scope)
    have hdues : ((b.withRegistry r).wakeWithin scope).dues = r.standing + b.handedOver :=
      hlevel.dues
    refine (spawn_accounts _ (.farewell client none left)).rebase ?_ hlevel.hasRuntime
    rw [hdues, dues, hstanding]
    show _ + (↑(left.map (client, ·)) : Multiset Due) = _
    abel
  cases t with
  | connection c =>
    show b.Accounts (b.closeConnection c).2 0
    unfold closeConnection
    split
    · exact .refl b
    · rename_i e ids r hc
      exact key _ _ _ _ (Registry.closeConnection_standing hr hc)
  | session s =>
    show b.Accounts (b.closeSession s).2 0
    unfold closeSession
    split
    · exact .refl b
    · rename_i e r hc
      exact key _ _ _ _ (Registry.closeSession_standing hr hc)
  | reader h =>
    refine .beside (b.closeReader_beside h) ?_
    show (b.closeReader h).registry.standing = _
    rw [closeReader_registry]
    obtain ⟨hc, hs⟩ := b.registry.closeReader_tables h
    exact Registry.standing_congr hs hc

theorem closeAll_accounts (ts : List Target) (hr : RegistryOK b.registry) :
    b.Accounts (b.closeAll ts) 0 := by
  induction ts generalizing b with
  | nil => exact .refl b
  | cons t ts ih =>
    have hr₁ : RegistryOK (b.close t).registry := by
      rw [close_registry]
      exact (b.registry.close_sound t hr).1
    rw [closeAll_cons]
    exact (close_accounts hr t).andNothing (ih hr₁)

/-- An errand adds the calls that it makes and closes what it names. -/
theorem does_accounts (hr : RegistryOK b.registry) (e : Errand) :
    b.Accounts (b.does e) ↑(e.calls.filterMap CallRecord.closes?) := by
  have hnote : (b.note e.calls).dues = b.dues + ↑(e.calls.filterMap CallRecord.closes?) := by
    have hcalls : (b.note e.calls).service.calls = b.service.calls ++ e.calls := rfl
    unfold dues handedOver
    rw [hcalls, List.filterMap_append, ← Multiset.coe_add,
      show (b.note e.calls).registry = b.registry from rfl,
      show (b.note e.calls).tasks = b.tasks from rfl]
    abel
  have hclosed : (b.note e.calls).Accounts (b.does e) 0 := closeAll_accounts e.closed hr
  exact hclosed.rebase ((add_zero _).trans hnote) rfl

/-! ## Turns of calls -/

/-- A creation closes nothing on the far side itself. -/
theorem errand_closes (b : Bridge) (stage : Stage) :
    (b.errand stage).calls.filterMap CallRecord.closes? = [] := by
  refine List.filterMap_eq_nil_iff.2 fun r hr => ?_
  cases errand_asks hr <;> rfl

/-- Whoever creates nothing asks for nothing. -/
theorem errand_of_not_creates (b : Bridge) (hs : stage.creates = false) : b.errand stage = {} := by
  cases stage with
  | fresh c => cases c <;> first | rfl | cases hs
  | awaitingTurn h e reading => rfl
  | awaitingFrame h e reading => rfl
  | draining => rfl
  | _ => cases hs

/-- Whoever creates nothing is granted nothing. -/
theorem granted_of_not_creates (hs : stage.creates = false) : b.granted stage = none := by
  refine granted_of_not_returned ?_
  rw [errand_of_not_creates b hs]
  exact nofun

/-- **A creation answers for what it was granted**, whether it registers it or not. -/
theorem creates_accounts (hr : RegistryOK b.registry) (id : TaskId) (hs : stage.creates = true) :
    b.Accounts (b.turn id stage).2 ↑(b.granted stage).toList := by
  have hdone : b.Accounts (b.does (b.errand stage)) 0 := by
    have h := does_accounts hr (b.errand stage)
    rwa [errand_closes] at h
  -- what is registered stands behind a live resource from now on
  have hadd : ∀ {r : Registry} {due : Due},
      r.standing = (b.does (b.errand stage)).registry.standing + {due} →
      b.Accounts ((b.does (b.errand stage)).withRegistry r) {due} := by
    intro r due hstanding
    refine hdone.nothingAnd (.of_eq ?_ rfl)
    show r.standing + (b.does (b.errand stage)).handedOver = _
    rw [hstanding, dues]
    abel
  have hturn := b.turn_creates id hs
  generalize b.turn id stage = t at hturn ⊢
  cases hturn with
  | waits _ hg hl =>
    rw [hg]
    exact hdone.level hl
  | fails _ hl => exact (hdone.nothingAnd (disown_accounts _ (b.granted stage))).level hl
  | breaks hg hl =>
    rw [hg]
    exact hdone.level hl
  | opens hg _ ha hl =>
    rw [hg]
    exact (hadd (Registry.addConnection_standing ha)).level hl
  | creates hg _ ha hl =>
    rw [hg]
    exact (hadd (Registry.addSession_standing ha)).level hl
  | @executes e ch h stream r b' hg _ ha hl =>
    rw [hg]
    have hsame : (b.does (b.errand stage)).Accounts ((b.does (b.errand stage)).withRegistry r) 0 :=
      .beside ((b.does (b.errand stage)).withRegistry_beside r) (Registry.addReader_standing ha)
    -- a pump closes nothing
    have hpump : ((b.does (b.errand stage)).withRegistry r).Accounts
        (((b.does (b.errand stage)).withRegistry r).spawnOn (.pump h e stream none)) 0 :=
      .of_dues ((spawnOn_dues _ _).trans (add_zero _)) rfl
    exact ((hdone.andNothing hsame).andNothing hpump).level hl

/-- **A turn of a call adds to what the bridge answers for** what it was granted. -/
theorem turn_accounts (hb : BridgeOK b (some id) (Task.call none stage).stream?) (hspent : b.Spent)
    (hs : StageOK b stage) : b.Accounts (b.turn id stage).2 ↑(b.granted stage).toList := by
  cases hc : stage.creates with
  | true => exact creates_accounts hb.registry id hc
  | false =>
    rw [granted_of_not_creates hc]
    cases hread : stage.reading? with
    | none => exact (closeAll_accounts _ hb.registry).level (b.other_level id hc hread)
    | some q =>
      rw [stream?_of_not_creates hc] at hb
      obtain ⟨b₀, hb₀, hx, ht⟩ := turn_reads hb hspent hs hread
      rw [ht]
      exact (Accounts.beside hb₀ hx.standing).andNothing (closeAll_accounts _ (hx.ok hb.registry))

end Bridge

end QueryBridge
