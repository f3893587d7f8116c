import Mathlib.Data.List.Flatten
import QueryBridge.Proofs.Bridge.Ties

/-!
# What farewells have left

A farewell closes a session at its first turn. One that closes a connection closes
its sessions before. So a farewell that has still to close a session was started
before the connection was left to be closed, or nobody had the session: it arrived
in a turn in which its connection was closed.

* `Bridge.Orphans`: a session arrives whose connection was closed on the way.
* `Bridge.Bids`: what a farewell can have left.
* `Bridge.Parting`: what closes need and keep.
* `Bridge.call_bidding`, `Bridge.farewell_bidding`: one turn.
-/

namespace QueryBridge

variable {b b' : Bridge} {id : TaskId} {stage : Stage} {t : Task} {client : ClientId}
  {begun : List TaskId} {lost : ClientId → GlobalSessionId → Prop}

/-! ## Farewells and orphans -/

namespace Bridge

/-- A task closes on the far side. -/
def IsFarewell (b : Bridge) (id : TaskId) : Prop :=
  ∃ client, (b.task? id).map Task.kind = some (.farewell client)

theorem isFarewell_iff : b.IsFarewell id ↔
    ∃ client held left, b.task? id = some (.farewell client held left) := by
  constructor
  · rintro ⟨client, hk⟩
    obtain ⟨t, ht, hk⟩ := Option.map_eq_some_iff.1 hk
    cases t with
    | farewell x held left => exact ⟨x, held, left, ht⟩
    | _ => cases hk
  · rintro ⟨client, held, left, ht⟩
    exact ⟨client, by rw [ht]; rfl⟩

instance (b : Bridge) (id : TaskId) : Decidable (b.IsFarewell id) :=
  match h : (b.task? id).map Task.kind with
  | some (.farewell client) => .isTrue ⟨client, h⟩
  | none | some .caller | some (.pump ..) => .isFalse fun ⟨client, hk⟩ => by
    rw [h] at hk
    cases hk

/-- A session arrives from the far side, and its connection, which was live when the turn began,
was closed on the way. -/
def Orphans (b : Bridge) (e : Event) (client : ClientId) (globalId : GlobalSessionId) : Prop :=
  b.grantedIn e = some (client, .session globalId) ∧ ∃ c entry,
    b.registry.connections.get? c = some entry ∧ entry.client = client ∧
      (b.step e).registry.connections.get? c = none

end Bridge

/-! ## Clients of live connections -/

/-- The clients of the live connections. -/
def Registry.clients (r : Registry) : Multiset ClientId := r.standing.filterMap Due.connection?

theorem Registry.mem_clients {r : Registry} {c : ConnectionHandle} {e : Connection}
    (h : r.connections.get? c = some e) : e.client ∈ r.clients := by
  refine (Multiset.mem_filterMap _ _).2 ⟨e.due, Multiset.mem_add.2 (.inr ?_), rfl⟩
  exact List.mem_map.2 ⟨(c, e), HandleMap.mem_of_get? h, rfl⟩

/-- The connection of a live session is live. -/
theorem RegistryOK.session_client {r : Registry} (hr : RegistryOK r) {s : SessionHandle}
    {e : Session} (h : r.sessions.get? s = some e) : e.client ∈ r.clients := by
  obtain ⟨c, hc, hclient⟩ := hr.parent s e h
  exact hclient ▸ Registry.mem_clients hc

namespace Bridge

/-- The clients whose connections were left to the background to be closed. -/
def parted (b : Bridge) : Multiset ClientId := b.handedOver.filterMap Due.connection?

theorem ties_eq (b : Bridge) : b.ties = b.registry.clients + b.parted + b.openers := by
  rw [ties, dues, Multiset.filterMap_add]
  rfl

theorem mem_parted_of_call (h : RemoteClose.connection.record client ∈ b.service.calls) :
    client ∈ b.parted := by
  refine (Multiset.mem_filterMap _ _).2 ⟨(client, .connection), Multiset.mem_add.2 (.inl ?_), rfl⟩
  exact List.mem_filterMap.2 ⟨_, h, RemoteClose.closes?_record client .connection⟩

theorem mem_parted_of_task {held : Option Held} {left : List RemoteClose}
    (h : (id, .farewell client held left) ∈ b.tasks) (hleft : RemoteClose.connection ∈ left) :
    client ∈ b.parted := by
  refine (Multiset.mem_filterMap _ _).2 ⟨(client, .connection), Multiset.mem_add.2 (.inr ?_), rfl⟩
  exact List.mem_flatMap.2 ⟨_, h, List.mem_map.2 ⟨_, hleft, rfl⟩⟩

/-! ## What a farewell can have left -/

/-- A farewell was started before the connection of its client was closed, and so before the
farewell that has to close it. -/
def Ahead (b : Bridge) (id : TaskId) (client : ClientId) : Prop :=
  RemoteClose.connection.record client ∉ b.service.calls ∧ ∀ i held left,
    (i, Task.farewell client held left) ∈ b.tasks → RemoteClose.connection ∈ left → id < i

/-- What a farewell can have left. A close of a session has been made once it has begun, unless
nobody had the session. -/
inductive Bids (b : Bridge) (begun : List TaskId) (lost : ClientId → GlobalSessionId → Prop)
    (id : TaskId) (client : ClientId) : Option Held → List RemoteClose → Prop
  /-- A connection is closed after its sessions. -/
  | whole {held : Option Held} (ids : List GlobalSessionId) :
    Bids b begun lost id client held (ids.map .session ++ [.connection])
  | ahead {globalId : GlobalSessionId} : id ∉ begun → b.Ahead id client →
    Bids b begun lost id client none [.session globalId]
  | late {held : Option Held} {globalId : GlobalSessionId} : lost client globalId →
    Bids b begun lost id client held [.session globalId]
  | done {held : Option Held} : Bids b begun lost id client held []

/-- Every farewell has left what it can have left. -/
def Bidding (b : Bridge) (begun : List TaskId) (lost : ClientId → GlobalSessionId → Prop) : Prop :=
  ∀ id client held left, (id, Task.farewell client held left) ∈ b.tasks →
    b.Bids begun lost id client held left

/-- A farewell stays ahead while no connection of its client is closed, and no farewell is started
that has to. -/
theorem Ahead.mono (h : b.Ahead id client)
    (hc : RemoteClose.connection.record client ∈ b'.service.calls →
      RemoteClose.connection.record client ∈ b.service.calls)
    (ht : ∀ i held left, (i, Task.farewell client held left) ∈ b'.tasks →
      RemoteClose.connection ∈ left → id < i ∨ ∃ held' left',
        (i, Task.farewell client held' left') ∈ b.tasks ∧ RemoteClose.connection ∈ left') :
    b'.Ahead id client := by
  refine ⟨fun hm => h.1 (hc hm), fun i held left hm hleft => ?_⟩
  rcases ht i held left hm hleft with hlt | ⟨held', left', hm', hleft'⟩
  · exact hlt
  · exact h.2 i held' left' hm' hleft'

theorem Bids.imp {held : Option Held} {left : List RemoteClose}
    (h : b.Bids begun lost id client held left) (hs : b.Ahead id client → b'.Ahead id client) :
    b'.Bids begun lost id client held left := by
  cases h with
  | whole ids => exact .whole ids
  | ahead hid ha => exact .ahead hid (hs ha)
  | late hl => exact .late hl
  | done => exact .done

/-- Where no farewell is new and no call is made, nothing changes. -/
theorem Bidding.of_subset (h : b.Bidding begun lost)
    (ht : ∀ id client held left, (id, Task.farewell client held left) ∈ b'.tasks →
      (id, Task.farewell client held left) ∈ b.tasks)
    (hc : b'.service.calls = b.service.calls) : b'.Bidding begun lost := by
  intro id client held left hm
  refine (h id client held left (ht _ _ _ _ hm)).imp fun ha => ha.mono (fun h => hc ▸ h) ?_
  exact fun i held' left' hm' hleft => .inr ⟨held', left', ht _ _ _ _ hm', hleft⟩

theorem Bidding.beside (h : b.Bidding begun lost) (hl : b.Beside b') : b'.Bidding begun lost :=
  h.of_subset (fun _ _ _ _ hm => hl.tasks ▸ hm) hl.calls

theorem Bidding.conclude (h : b.Bidding begun lost) (id : TaskId) :
    (b.conclude id).Bidding begun lost :=
  h.of_subset (fun _ _ _ _ hm => List.mem_of_mem_filter hm) rfl

/-- A task that is no farewell has come to another place. -/
theorem Bidding.setTask (h : b.Bidding begun lost)
    (ht : ∀ client held left, t ≠ .farewell client held left) (id : TaskId) :
    (b.setTask id t).Bidding begun lost := by
  refine h.of_subset (fun i client held left hm => ?_) rfl
  obtain ⟨p, hp, hpm⟩ := List.mem_map.1 hm
  split at hpm
  · exact absurd (Prod.mk.inj hpm).2 (ht client held left)
  · exact hpm ▸ hp

/-- New work that is no farewell. -/
theorem Bidding.submit (h : b.Bidding begun lost)
    (ht : ∀ client held left, t ≠ .farewell client held left) :
    (b.submit t).2.Bidding begun lost := by
  refine h.of_subset (fun i client held left hm => ?_) rfl
  rcases List.mem_append.1 hm with hm | hm
  · exact hm
  · exact absurd (Prod.mk.inj (List.mem_singleton.1 hm)).2.symm (ht client held left)

theorem Bidding.spawnOn (h : b.Bidding begun lost)
    (ht : ∀ client held left, t ≠ .farewell client held left) :
    (b.spawnOn t).Bidding begun lost := (h.beside (b.tracker_level _).toBeside).submit ht

/-! ## In the middle of a turn -/

/-- What closes need and keep, in the middle of a turn or not. -/
structure Parting (b : Bridge) (begun : List TaskId)
    (lost : ClientId → GlobalSessionId → Prop) : Prop where
  registry : RegistryOK b.registry
  numbered : ∀ p ∈ b.tasks, p.1 < b.nextTask
  counted : ∀ id ∈ begun, id < b.nextTask
  once : b.registry.clients.Nodup
  /-- The connection of a live connection's client was left to nobody. -/
  apart : Disjoint b.registry.clients b.parted
  bidding : b.Bidding begun lost

namespace Parting

/-- Another registry, over which the same stands on the far side. -/
theorem beside (h : b.Parting begun lost) (hl : b.Beside b') (hr : RegistryOK b'.registry)
    (hs : b'.registry.standing = b.registry.standing) : b'.Parting begun lost where
  registry := hr
  numbered := by
    rw [hl.tasks, hl.nextTask]
    exact h.numbered
  counted := by
    rw [hl.nextTask]
    exact h.counted
  once := by
    rw [Registry.clients, hs]
    exact h.once
  apart := by
    rw [Registry.clients, hs, parted, hl.handedOver]
    exact h.apart
  bidding := h.bidding.beside hl

theorem level (h : b.Parting begun lost) (hl : b.Level b') : b'.Parting begun lost :=
  h.beside hl.toBeside (hl.registry ▸ h.registry) (congrArg _ hl.registry)

/-- The farewell that has to close a connection was started after those that are ahead. -/
theorem note (h : b.Parting begun lost) {records : List CallRecord}
    (hrecords : ∀ client, RemoteClose.connection.record client ∈ records →
      ∃ i held left, (i, Task.farewell client held left) ∈ b.tasks ∧
        RemoteClose.connection ∈ left ∧ ∀ j < i, b.IsFarewell j → j ∈ begun)
    (hnodup : (b.tasks.map Prod.fst).Nodup) : (b.note records).Parting begun lost where
  registry := h.registry
  numbered := h.numbered
  counted := h.counted
  once := h.once
  apart := by
    refine Multiset.disjoint_left.2 fun {client} hlive hparted => ?_
    obtain ⟨d, hd, hconn⟩ := (Multiset.mem_filterMap _ _).1 hparted
    refine Multiset.disjoint_left.1 h.apart hlive ?_
    rcases Multiset.mem_add.1 hd with hd | hd
    · obtain ⟨r, hr, hcloses⟩ := List.mem_filterMap.1 hd
      rcases List.mem_append.1 hr with hr | hr
      · refine (Multiset.mem_filterMap _ _).2 ⟨d, Multiset.mem_add.2 (.inl ?_), hconn⟩
        exact List.mem_filterMap.2 ⟨r, hr, hcloses⟩
      · obtain ⟨c, close⟩ := d
        cases close with
        | session globalId => cases hconn
        | connection =>
          obtain rfl := Option.some.inj hconn
          rw [CallRecord.closes?_eq_some.1 hcloses] at hr
          obtain ⟨i, held, left, hm, hleft, -⟩ := hrecords c hr
          exact mem_parted_of_task hm hleft
    · exact (Multiset.mem_filterMap _ _).2 ⟨d, Multiset.mem_add.2 (.inr hd), hconn⟩
  bidding := by
    intro id client held left hm
    have hbids := h.bidding id client held left hm
    cases hbids with
    | whole ids => exact .whole ids
    | late hl => exact .late hl
    | done => exact .done
    | ahead hid ha =>
      refine .ahead hid ⟨fun hcall => ?_, ha.2⟩
      rcases List.mem_append.1 hcall with hcall | hcall
      · exact ha.1 hcall
      · obtain ⟨i, held', left', hm', hleft, horder⟩ := hrecords client hcall
        have hfarewell : b.IsFarewell id := isFarewell_iff.2 ⟨_, _, _, task?_of_mem hnodup hm⟩
        exact hid (horder id (ha.2 i held' left' hm' hleft) hfarewell)

/-- Who has a live connection's client has not parted from it. -/
theorem ahead (h : b.Parting begun lost) (hlive : client ∈ b.registry.clients) :
    b.Ahead b.nextTask client := by
  have hnot := Multiset.disjoint_left.1 h.apart hlive
  exact ⟨fun hm => hnot (mem_parted_of_call hm),
    fun i held left hm hleft => absurd (mem_parted_of_task hm hleft) hnot⟩

end Parting

/-- **A farewell is started**, with what it can have left, or is dropped. -/
theorem Bidding.sayFarewell (h : b.Bidding begun lost) (hn : ∀ p ∈ b.tasks, p.1 < b.nextTask)
    {left : List RemoteClose} (hnew : (b.spawnOn (.farewell client none left)).Bids begun lost
      b.nextTask client none left) :
    (b.sayFarewell client left).Bidding begun lost := by
  unfold Bridge.sayFarewell spawn
  split
  case isFalse => exact h
  intro i x held rest hm
  rcases List.mem_append.1 hm with hm | hm
  · refine (h i x held rest hm).imp fun ha => ha.mono id ?_
    intro j held' rest' hm' hrest
    rcases List.mem_append.1 hm' with hm' | hm'
    · exact .inr ⟨held', rest', hm', hrest⟩
    · obtain ⟨rfl, -⟩ := Prod.mk.inj (List.mem_singleton.1 hm')
      exact .inl (hn _ hm)
  · obtain ⟨rfl, ht⟩ := Prod.mk.inj (List.mem_singleton.1 hm)
    cases ht
    exact hnew

/-- The close of a session is started ahead of that of its connection. -/
theorem Bidding.sayFarewell_session (h : b.Bidding begun lost)
    (hn : ∀ p ∈ b.tasks, p.1 < b.nextTask) (hcounted : ∀ id ∈ begun, id < b.nextTask)
    {globalId : GlobalSessionId} (ha : b.Ahead b.nextTask client) :
    (b.sayFarewell client [.session globalId]).Bidding begun lost := by
  refine h.sayFarewell hn (.ahead (fun hm => lt_irrefl _ (hcounted _ hm))
    (ha.mono id fun i held left hm hleft => ?_))
  rcases List.mem_append.1 hm with hm | hm
  · exact .inr ⟨held, left, hm, hleft⟩
  · obtain ⟨-, ht⟩ := Prod.mk.inj (List.mem_singleton.1 hm)
    cases ht
    exact absurd hleft (by simp)

/-! ## Closes -/

/-- A close leaves behind what stood behind the resources, and adds nothing there. -/
theorem close_standing (hr : RegistryOK b.registry) (t : Target) :
    (b.close t).registry.standing ≤ b.registry.standing := by
  rw [close_registry]
  cases t with
  | connection c =>
    unfold Registry.close
    dsimp only
    split
    · rename_i e ids r hc
      rw [Registry.closeConnection_standing hr hc]
      exact Multiset.le_add_right _ _
    · exact le_rfl
  | session s =>
    unfold Registry.close
    dsimp only
    split
    · rename_i e r hc
      rw [Registry.closeSession_standing hr hc]
      exact Multiset.le_add_right _ _
    · exact le_rfl
  | reader h =>
    obtain ⟨hc, hs⟩ := b.registry.closeReader_tables h
    exact (Registry.standing_congr hs hc).le

theorem Parting.close_bidding (h : b.Parting begun lost) (t : Target) :
    (b.close t).Bidding begun lost := by
  -- the resources are gone, and nobody has begun anything
  have hgone : ∀ (r : Registry) (scope : Scope),
      b.Beside ((b.withRegistry r).wakeWithin scope) := fun r scope =>
    (b.withRegistry_beside r).wakeAll _
  cases t with
  | connection c =>
    show (b.closeConnection c).2.Bidding begun lost
    unfold closeConnection
    split
    · exact h.bidding
    · rename_i e ids r hc
      have hl := hgone r (.connection c)
      refine (h.bidding.beside hl).sayFarewell ?_ (.whole ids)
      rw [hl.tasks, hl.nextTask]
      exact h.numbered
  | session s =>
    show (b.closeSession s).2.Bidding begun lost
    unfold closeSession
    split
    · exact h.bidding
    · rename_i e r hc
      have hl := hgone r (e.scope s)
      have ha := h.ahead (h.registry.session_client (closeSession_live hc))
      refine (h.bidding.beside hl).sayFarewell_session ?_ ?_ ?_
      · rw [hl.tasks, hl.nextTask]
        exact h.numbered
      · rw [hl.nextTask]
        exact h.counted
      · rw [hl.nextTask]
        exact ha.mono (fun hm => hl.calls ▸ hm) fun i held left hm hleft =>
          .inr ⟨held, left, hl.tasks ▸ hm, hleft⟩
  | reader x => exact h.bidding.beside (b.closeReader_beside x)

/-- **A close** leaves what it takes out to a farewell. -/
theorem Parting.close (h : b.Parting begun lost) (t : Target) :
    (b.close t).Parting begun lost := by
  obtain ⟨hnext, hn⟩ := (b.close_spawns t).numbered h.numbered
  -- the clients that the registry gives up are parted from
  obtain ⟨gone, hgone⟩ := Multiset.le_iff_exists_add.1
    (Multiset.filterMap_le_filterMap Due.connection? (close_standing h.registry t))
  have hclients : b.registry.clients = (b.close t).registry.clients + gone := hgone
  have hparted : (b.close t).parted ≤ gone + b.parted := by
    have hdues := Multiset.filterMap_le_filterMap Due.connection? (close_accounts h.registry t).le
    rw [add_zero, dues, dues, Multiset.filterMap_add, Multiset.filterMap_add] at hdues
    have hsame : (b.close t).registry.clients + (b.close t).parted ≤
        b.registry.clients + b.parted := hdues
    rw [hclients, add_assoc] at hsame
    exact le_of_add_le_add_left hsame
  have honce := h.once
  have hapart := h.apart
  rw [hclients] at honce hapart
  obtain ⟨hlive, -, hdisjoint⟩ := Multiset.nodup_add.1 honce
  refine ⟨?_, hn, fun id hid => (h.counted id hid).trans_le hnext, hlive, ?_, h.close_bidding t⟩
  · rw [close_registry]
    exact (b.registry.close_sound t h.registry).1
  · refine Disjoint.mono_right hparted (Multiset.disjoint_add_right.2 ?_)
    exact ⟨hdisjoint, (Multiset.disjoint_add_left.1 hapart).1⟩

theorem Parting.closeAll (h : b.Parting begun lost) (ts : List Target) :
    (b.closeAll ts).Parting begun lost := by
  induction ts generalizing b with
  | nil => exact h
  | cons t ts ih => exact ih (h.close t)

/-! ## Turns of calls -/

/-- A creation closes no connection on the far side itself. -/
theorem errand_no_close (b : Bridge) (stage : Stage) (client : ClientId) :
    RemoteClose.connection.record client ∉ (b.errand stage).calls := by
  intro hm
  have hcloses := List.filterMap_eq_nil_iff.1 (errand_closes b stage) _ hm
  rw [RemoteClose.closes?_record] at hcloses
  cases hcloses

theorem Parting.errand (h : b.Parting begun lost) (hnodup : (b.tasks.map Prod.fst).Nodup)
    (stage : Stage) : (b.does (b.errand stage)).Parting begun lost :=
  (h.note (fun client hm => absurd hm (errand_no_close b stage client)) hnodup).closeAll _

/-- The connection of a session that arrives was live when the turn began. -/
theorem granted_session {globalId : GlobalSessionId} (hr : RegistryOK b.registry)
    (hs : StageOK b stage) (hg : b.granted stage = some (client, .session globalId)) :
    ∃ c e, b.registry.connections.get? c = some e ∧ e.client = client := by
  have hcourse : (b.errand stage).course = some .returned := by
    by_contra hne
    rw [granted_of_not_returned hne] at hg
    cases hg
  rw [granted_of_returned hcourse] at hg
  cases stage with
  | fresh c =>
    cases c with
    | createSession c =>
      obtain ⟨e, he, hpair⟩ := Option.map_eq_some_iff.1 hg
      exact ⟨c, e, he, congrArg Prod.fst hpair⟩
    | _ => cases hg
  | creating c x id held =>
    obtain ⟨rfl, -⟩ := Prod.mk.inj (Option.some.inj hg)
    -- it goes on only while the connection is not cancelled
    have hlive : (b.registry.connection c).isCancelled = false := by
      by_contra hcan
      rw [Bool.not_eq_false] at hcan
      rw [Bridge.errand, if_pos (by exact hcan)] at hcourse
      cases hcourse
    cases he : b.registry.connections.get? c with
    | some e => exact ⟨c, e, he, hs.2 e he⟩
    | none =>
      rw [hr.connCancelled, HandleTable.wasReleased_iff.2 ⟨hs.1, he⟩] at hlive
      cases hlive
  | _ => cases hg

/-- What a creation was granted and has not registered is closed ahead of its connection, or
nobody has it. -/
theorem Parting.disown (h : (b.does (b.errand stage)).Parting begun lost)
    (hr : RegistryOK b.registry) (hs : StageOK b stage)
    (hlost : ∀ client globalId c e, b.granted stage = some (client, .session globalId) →
      b.registry.connections.get? c = some e → e.client = client →
      (b.does (b.errand stage)).registry.connections.get? c = none → lost client globalId) :
    ((b.does (b.errand stage)).disown (b.granted stage)).Bidding begun lost := by
  cases hg : b.granted stage with
  | none => exact h.bidding
  | some d =>
    obtain ⟨client, close⟩ := d
    show ((b.does (b.errand stage)).sayFarewell client [close]).Bidding begun lost
    cases close with
    | connection => exact h.bidding.sayFarewell h.numbered (.whole [])
    | session globalId =>
      obtain ⟨c, e, he, hclient⟩ := granted_session hr hs hg
      cases hc : (b.does (b.errand stage)).registry.connections.get? c with
      | none =>
        exact h.bidding.sayFarewell h.numbered
          (.late (hlost client globalId c e hg he hclient hc))
      | some e' =>
        -- the connection is the one that was live before
        have hlater := (b.registry.closeAll_sound (b.errand stage).closed hr).2
        have hsame := hlater.connections c e' (HandleTable.issued_of_get? he)
          (by rwa [← does_registry])
        obtain rfl := Option.some.inj (he.symm.trans hsame)
        exact h.bidding.sayFarewell_session h.numbered h.counted
          (h.ahead (hclient ▸ Registry.mem_clients hc))

/-- **A turn of a creation.** -/
theorem creates_bidding (h : b.Parting begun lost) (hnodup : (b.tasks.map Prod.fst).Nodup)
    (hs : StageOK b stage) (id : TaskId) (hcreates : stage.creates = true)
    (hlost : ∀ client globalId c e, b.granted stage = some (client, .session globalId) →
      b.registry.connections.get? c = some e → e.client = client →
      (b.turn id stage).2.registry.connections.get? c = none → lost client globalId) :
    (b.turn id stage).2.Bidding begun lost := by
  have hdone := h.errand hnodup stage
  have hturn := b.turn_creates id hcreates
  generalize b.turn id stage = t at hturn hlost ⊢
  cases hturn with
  | waits _ _ hl => exact hdone.bidding.beside hl.toBeside
  | breaks _ hl => exact hdone.bidding.beside hl.toBeside
  | fails _ hl =>
    refine (hdone.disown h.registry hs fun client globalId c e hg he hc hnone => ?_).beside
      hl.toBeside
    refine hlost client globalId c e hg he hc ?_
    rw [hl.registry, disown_registry]
    exact hnone
  | opens _ _ _ hl => exact (hdone.bidding.beside (withRegistry_beside _ _)).beside hl.toBeside
  | creates _ _ _ hl => exact (hdone.bidding.beside (withRegistry_beside _ _)).beside hl.toBeside
  | @executes e ch x stream r b' _ _ _ hl =>
    have hadded := hdone.bidding.beside (withRegistry_beside _ r)
    exact (hadded.spawnOn fun _ _ _ h => by cases h).beside hl.toBeside

/-- **A turn of a call.** -/
theorem turn_bidding (hb : BridgeOK b (some id) (Task.call none stage).stream?)
    (hspent : b.Spent) (h : b.Parting begun lost) (hs : StageOK b stage)
    (hlost : ∀ client globalId c e, b.granted stage = some (client, .session globalId) →
      b.registry.connections.get? c = some e → e.client = client →
      (b.turn id stage).2.registry.connections.get? c = none → lost client globalId) :
    (b.turn id stage).2.Bidding begun lost := by
  cases hc : stage.creates with
  | true => exact creates_bidding h hb.nodup hs id hc hlost
  | false =>
    cases hread : stage.reading? with
    | none => exact (h.closeAll _).bidding.beside (b.other_level id hc hread).toBeside
    | some q =>
      rw [stream?_of_not_creates hc] at hb
      obtain ⟨b₀, hb₀, hx, ht⟩ := turn_reads hb hspent hs hread
      rw [ht]
      exact ((h.beside hb₀ (hx.ok h.registry) hx.standing).closeAll _).bidding

/-- **A turn of a task that is a call.** -/
theorem call_bidding (hb : BridgeOK b none none) (hspent : b.Spent) (h : b.Parting begun lost)
    (ht : b.task? id = some t) (hs : t.stage? = some stage)
    (hlost : ∀ client globalId, b.Orphans (.turn id) client globalId → lost client globalId) :
    (b.poll id).2.Bidding begun lost := by
  obtain ⟨hok, hstage, -⟩ := call_ok hb ht hs
  have hlevel := (b.takeTurn id).pollCall_level id t.request? stage
  have hregistry := (b.takeTurn id).pollCall_registry id t.request? stage
  rw [← poll_call ht hs] at hlevel hregistry
  have hturn := turn_bidding hok hspent (h.level (b.takeTurn_level id)) hstage
    fun client globalId c e hg he hclient hnone => by
      refine hlost client globalId ⟨(grantedIn_call ht hs).trans hg, c, e, he, hclient, ?_⟩
      show (b.poll id).2.registry.connections.get? c = none
      rwa [hregistry]
  rcases hlevel with ⟨o, -, hl⟩ | ⟨s, -, hl⟩
  · exact (hturn.conclude id).beside hl.toBeside
  · exact (hturn.setTask (fun _ _ _ h => by cases h) id).beside hl.toBeside

/-! ## Turns of farewells -/

/-- What a farewell has left after some of its calls. It closes a session as soon as it begins,
and a connection last. -/
theorem Bids.goesOn {begun' : List TaskId} {held held' : Option Held}
    {made left : List RemoteClose}
    (h : b.Bids begun lost id client held (made ++ left))
    (hmade : held = none → made = (made ++ left).take 1) :
    b'.Bids begun' lost id client held' left := by
  generalize hl : made ++ left = all at h hmade
  cases h with
  | whole ids =>
    rcases List.eq_nil_or_concat left with rfl | ⟨rest, last, rfl⟩
    · exact .done
    · rw [List.concat_eq_append] at hl ⊢
      rw [← List.append_assoc] at hl
      obtain ⟨hrest, hlast⟩ := List.append_inj' hl rfl
      obtain ⟨ids₁, ids₂, rfl, -, rfl⟩ := List.map_eq_append_iff.1 hrest.symm
      rw [hlast]
      exact .whole ids₂
  | late hlate =>
    cases left with
    | nil => exact .done
    | cons c rest =>
      cases made with
      | nil =>
        obtain ⟨rfl, rfl⟩ := List.cons.inj hl
        exact .late hlate
      | cons c' made => simp at hl
  | ahead hid ha =>
    have hmade := hmade rfl
    rw [hmade] at hl
    simp at hl
    rw [hl]
    exact .done
  | done =>
    rw [(List.append_eq_nil_iff.1 hl).2]
    exact .done

/-- Another farewell has begun. -/
theorem Bids.cons {x : TaskId} {held : Option Held} {left : List RemoteClose} (hne : id ≠ x)
    (h : b.Bids begun lost id client held left) :
    b.Bids (x :: begun) lost id client held left := by
  cases h with
  | whole ids => exact .whole ids
  | ahead hid ha => exact .ahead (fun hm => (List.mem_cons.1 hm).elim hne hid) ha
  | late hl => exact .late hl
  | done => exact .done

/-- A farewell is over. -/
theorem Bidding.ends (h : b.Bidding begun lost) (id : TaskId) :
    (b.conclude id).Bidding (id :: begun) lost := by
  intro i x held left hm
  have hne : i ≠ id := BridgeOK.conclude_not_mem b id _ hm
  exact ((h.conclude id) i x held left hm).cons hne

/-- A farewell has made some of its calls. -/
theorem Bidding.goesOn (h : b.Bidding begun lost) {held held' : Option Held}
    {made left : List RemoteClose} (hm : (id, Task.farewell client held (made ++ left)) ∈ b.tasks)
    (hmade : held = none → made = (made ++ left).take 1) :
    (b.setTask id (.farewell client held' left)).Bidding (id :: begun) lost := by
  -- whoever has a task after it had it before, but for what this one has done
  have hplace : ∀ i x held₁ left₁,
      (i, Task.farewell x held₁ left₁) ∈ (b.setTask id (.farewell client held' left)).tasks →
      i = id ∧ x = client ∧ left₁ = left ∨ i ≠ id ∧ (i, Task.farewell x held₁ left₁) ∈ b.tasks := by
    intro i x held₁ left₁ hm₁
    obtain ⟨p, hp, hpm⟩ := List.mem_map.1 hm₁
    split at hpm
    · cases hpm
      exact .inl ⟨rfl, rfl, rfl⟩
    · rename_i hne
      rw [hpm] at hp hne
      exact .inr ⟨hne, hp⟩
  intro i x held₁ left₁ hm₁
  rcases hplace i x held₁ left₁ hm₁ with ⟨rfl, rfl, rfl⟩ | ⟨hne, hm₁⟩
  · exact (h i x held _ hm).goesOn hmade
  have hahead : b.Ahead i x → (b.setTask id (.farewell client held' left)).Ahead i x := by
    refine fun ha => ha.mono (fun hc => hc) fun j held₂ left₂ hm₂ hleft => ?_
    rcases hplace j x held₂ left₂ hm₂ with ⟨rfl, rfl, rfl⟩ | ⟨-, hm₂⟩
    · exact .inr ⟨held, _, hm, List.mem_append_right _ hleft⟩
    · exact .inr ⟨held₂, left₂, hm₂, hleft⟩
  exact ((h i x held₁ left₁ hm₁).imp hahead).cons hne

/-- **A turn of a farewell** makes some of its calls. The one that closes a connection is made only
when all that are ahead have begun. -/
theorem farewell_bidding (hb : BridgeOK b none none) (h : b.Parting begun lost)
    {held : Option Held} {left : List RemoteClose}
    (ht : b.task? id = some (.farewell client held left))
    (horder : ∀ earlier < id, b.IsFarewell earlier → earlier ∈ begun) :
    (b.poll id).2.Bidding (id :: begun) lost := by
  have hm := mem_of_task? ht
  have hq : Quietly (some id) (b.takeTurn id) none
    ((b.takeTurn id).farewell id client held left).2 none := farewell_quietly _ id client held left
  obtain ⟨made, left', rfl, hcalls, hp, hmade⟩ := (b.takeTurn id).farewell_makes id client held left
  have hl := (b.takeTurn id).farewell_level id client held (made ++ left')
  -- the calls of its errand are the ones that it has no longer to make
  have hrecords : ((b.takeTurn id).service.farewellErrand client held (made ++ left')).calls =
      made.map (RemoteClose.record client) := by
    have hc := hl.calls
    rw [does_calls, hcalls] at hc
    exact (List.append_cancel_left hc).symm
  have hturn : ((b.takeTurn id).farewell id client held (made ++ left')).2.Parting begun lost := by
    refine (((h.level (b.takeTurn_level id)).note ?_ hb.nodup).closeAll _).level hl
    rw [hrecords]
    intro x hx
    obtain ⟨c, hc, hrecord⟩ := List.mem_map.1 hx
    obtain ⟨rfl, rfl⟩ : client = x ∧ c = .connection := by
      cases c <;> cases hrecord
      exact ⟨rfl, rfl⟩
    exact ⟨id, held, made ++ left', hm, List.mem_append_left _ hc, horder⟩
  have hkept : Kept none _ _ := hq.kept (hb.takeTurn ht)
  have hlive := hkept.keeps id _ nofun ht
  have hpoll : (b.poll id).2 =
      afterBackground id ((b.takeTurn id).farewell id client held (made ++ left')) := by
    simp only [poll, ht]
  rw [hpoll]
  rcases afterBackground_level id ((b.takeTurn id).farewell id client held (made ++ left')) with
    ⟨-, hl⟩ | ⟨t', ht', hl⟩
  · exact (hturn.bidding.ends id).beside hl.toBeside
  · obtain ⟨held', rfl⟩ : ∃ held', t' = .farewell client held' left' := by
      rcases hp with ⟨held', hp | hp⟩ | ⟨hp, -⟩ <;> rw [hp] at ht' <;>
        rcases ht' with ht' | ht' <;> cases ht'
      · exact ⟨held', rfl⟩
      · exact ⟨held', rfl⟩
    refine (hturn.bidding.goesOn (mem_of_task? hlive) fun hnone => hmade ?_).beside hl.toBeside
    rintro ⟨x, again, rfl, -⟩
    cases hnone

end Bridge

end QueryBridge
