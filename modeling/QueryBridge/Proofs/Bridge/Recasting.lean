import QueryBridge.Proofs.Bridge.Flow
import QueryBridge.Proofs.Bridge.Recast
import QueryBridge.Proofs.Bridge.Spawning

/-!
# Bridges in the place of others

Whatever happens to a bridge, the same happens to the bridge recast: what is done
to one of its parts leads from a bridge and its recast to a bridge and its recast,
and what it tells is the same.

* `Bridge.recast`, `Recast.Of`: the second bridge is the first one recast.
* `Recast.Both`: two operations that go together in this way.
-/

namespace QueryBridge

/-- The bridge recast. -/
def Bridge.recast (g : Recast) (b : Bridge) : Bridge :=
  { b with
    service := b.service.rename g.id
    registry := b.registry.recast g
    tracker := b.tracker.rename g.id
    tasks := b.tasks.map fun p => (g.id p.1, g.task p.1 p.2)
    nextTask := g.id b.nextTask
    ready := b.ready.map g.id }

/-- Every task that is known has its number. -/
structure Bridge.Numbered (b : Bridge) : Prop where
  tasks : ∀ p ∈ b.tasks, p.1 < b.nextTask
  ready : ∀ id ∈ b.ready, id < b.nextTask
  service : b.service.Below b.nextTask
  tracker : b.tracker.Below b.nextTask
  readers : ∀ h, (b.registry.reader h).Below b.nextTask

theorem Bridge.Numbered.submit {b : Bridge} (hb : b.Numbered) (t : Task) :
    (b.submit t).2.Numbered where
  tasks p hp := by
    rcases List.mem_append.1 hp with hp | hp
    · exact Nat.lt_succ_of_lt (hb.tasks p hp)
    · rw [List.mem_singleton.1 hp]
      exact Nat.lt_succ_self _
  ready id hid := by
    rcases List.mem_append.1 hid with hid | hid
    · exact Nat.lt_succ_of_lt (hb.ready id hid)
    · rw [List.mem_singleton.1 hid]
      exact Nat.lt_succ_self _
  service := hb.service.mono (Nat.le_succ _)
  tracker := hb.tracker.mono (Nat.le_succ _)
  readers h := (hb.readers h).mono (Nat.le_succ _)

namespace Recast

/-- The second bridge is the first one recast. No task that is to come is recast but in its number,
and the reader whose frame is not held back has nothing in its channel and no pump. -/
structure Of (g : Recast) (me : Option TaskId) (b b' : Bridge) : Prop where
  eq : b' = b.recast g
  first : g.first ≤ b.nextTask
  reader : ∀ id, g.reader = some id → id < b.nextTask
  /-- The task whose turn it is. -/
  turn : ∀ id, me = some id → id < b.nextTask
  numbered : b.Numbered
  parked : ∀ h, g.parked = some h → b.registry.Parks h
  unpumped : ∀ h, g.parked = some h → ∀ p ∈ b.tasks, p.2.pumped? ≠ some h

/-- Both operations give the same, and the bridges after them are still one recast. -/
def Both {α : Type} (g : Recast) (me : Option TaskId) (p p' : α × Bridge) : Prop :=
  p'.1 = p.1 ∧ g.Of me p.2 p'.2

variable {g : Recast} {me : Option TaskId} {b b' : Bridge}

theorem Both.cases {α : Type} {p p' : α × Bridge} (h : g.Both me p p') :
    ∃ a b b', p = (a, b) ∧ p' = (a, b') ∧ g.Of me b b' :=
  ⟨p.1, p.2, p'.2, rfl, Prod.ext h.1 rfl, h.2⟩

theorem Both.ite {α : Type} {c c' : Prop} [Decidable c] [Decidable c'] {p q p' q' : α × Bridge}
    (hc : c' ↔ c) (hp : g.Both me p p') (hq : g.Both me q q') :
    g.Both me (if c then p else q) (if c' then p' else q') := by
  by_cases h : c
  · rwa [if_pos h, if_pos (hc.2 h)]
  · rwa [if_neg h, if_neg fun h' => h (hc.1 h')]

namespace Of

section

variable (ho : g.Of me b b')
include ho

theorem config : b'.config = b.config := by rw [ho.eq]; rfl

theorem hasRuntime : b'.hasRuntime = b.hasRuntime := by rw [ho.eq]; rfl

theorem service : b'.service = b.service.rename g.id := by rw [ho.eq]; rfl

theorem registry : b'.registry = b.registry.recast g := by rw [ho.eq]; rfl

theorem tracker : b'.tracker = b.tracker.rename g.id := by rw [ho.eq]; rfl

theorem reader_eq (h : ReaderHandle) :
    b'.registry.reader h = g.status h (b.registry.reader h) := by
  rw [ho.registry, Registry.recast_reader]

theorem isReceiving (h : ReaderHandle) :
    (b'.registry.reader h).isReceiving = (b.registry.reader h).isReceiving := by
  rw [ho.reader_eq, status_isReceiving]

theorem isCancelled (scope : Scope) :
    b'.registry.isCancelled scope = b.registry.isCancelled scope := by
  rw [ho.registry, Registry.recast_isCancelled]

/-- A task has its place under its own number. -/
theorem task? (id : TaskId) : b'.task? (g.id id) = (b.task? id).map (g.task id) := by
  rw [ho.eq]
  show (b.tasks.map fun p => (g.id p.1, g.task p.1 p.2)).lookup (g.id id) = _
  unfold Bridge.task?
  induction b.tasks with
  | nil => rfl
  | cons p ps ih =>
    obtain ⟨i, t⟩ := p
    rw [List.map_cons, List.lookup_cons, List.lookup_cons, ih]
    by_cases hi : id = i
    · simp [hi]
    · rw [beq_false_of_ne hi, beq_false_of_ne fun h => hi (g.id_injective h)]

/-! ## Parts of a bridge -/

theorem withRegistry {r r' : Registry} (hr : r' = r.recast g) (hs : b.registry.Spares r) :
    g.Of me (b.withRegistry r) (b'.withRegistry r') :=
  { ho with
    eq := by rw [ho.eq, hr]; rfl
    numbered := { ho.numbered with readers := hs.below ho.numbered.readers }
    parked := fun h hp => (ho.parked h hp).spared hs }

/-- The status of one reader changes. -/
theorem modifyReader {h : ReaderHandle} {F F' : ReaderStatus → ReaderStatus}
    (hF : F' (g.status h (b.registry.reader h)) = g.status h (F (b.registry.reader h)))
    (hn : (b.registry.reader h).Below b.nextTask → (F (b.registry.reader h)).Below b.nextTask)
    (hp : g.parked = some h → (b.registry.reader h).Parked → (F (b.registry.reader h)).Parked) :
    g.Of me (b.modifyReader h F) (b'.modifyReader h F') :=
  { ho with
    eq := by
      rw [ho.eq]
      show { b.recast g with registry := (b.registry.recast g).modifyReader h F' } = _
      rw [Registry.recast_modifyReader g b.registry hF]
      rfl
    numbered := { ho.numbered with
      readers := fun x => by
        show ((b.registry.modifyReader h F).reader x).Below b.nextTask
        have hb := ho.numbered.readers
        by_cases hxh : x = h
        · subst hxh
          obtain hx | hx := Registry.reader_modify_self b.registry x F
          · exact hx ▸ hn (hb x)
          · exact hx ▸ ReaderStatus.idle_default.below
        · rw [Registry.reader_modify_of_ne _ _ hxh]
          exact hb x }
    parked := fun x hx => by
      obtain ⟨hi, hst⟩ := ho.parked x hx
      refine ⟨hi, ?_⟩
      by_cases hxh : x = h
      · subst hxh
        exact Registry.reader_modify_imp (P := ReaderStatus.Parked) b.registry x (hp hx) x hst
      · show ((b.registry.modifyReader h F).reader x).Parked
        rwa [Registry.reader_modify_of_ne _ _ hxh] }

/-- What changes about a reader has nothing to do with tasks. -/
theorem modifyStatus {h : ReaderHandle} {F F' : ReaderStatus → ReaderStatus}
    (hF : F' (g.status h (b.registry.reader h)) = g.status h (F (b.registry.reader h)))
    (hn : ∀ f s, (F s).rename f = F (s.rename f))
    (hp : g.parked = some h → (b.registry.reader h).Parked → (F (b.registry.reader h)).Parked) :
    g.Of me (b.modifyReader h F) (b'.modifyReader h F') :=
  ho.modifyReader hF (fun h => h.of_comm fun f => hn f _) hp

theorem withService {s s' : Service} (hs : s' = s.rename g.id) (hn : s.Below b.nextTask) :
    g.Of me (b.withService s) (b'.withService s') :=
  { ho with
    eq := by rw [ho.eq, hs]; rfl
    numbered := { ho.numbered with service := hn } }

/-- What changes about the service has nothing to do with tasks. -/
theorem modifyService {F : Service → Service} (hF : ∀ f s, F (s.rename f) = (F s).rename f) :
    g.Of me (b.withService (F b.service)) (b'.withService (F b'.service)) := by
  refine ho.withService ?_ (ho.numbered.service.of_comm fun f => hF f _)
  rw [ho.service, hF]

theorem withTracker {t t' : Tracker} (ht : t' = t.rename g.id) (hn : t.Below b.nextTask) :
    g.Of me { b with tracker := t } { b' with tracker := t' } :=
  { ho with
    eq := by rw [ho.eq, ht]; rfl
    numbered := { ho.numbered with tracker := hn } }

theorem call (client : Option ClientId) (c : ServiceCall) :
    g.Both me (b.call client c) (b'.call client c) := by
  refine ⟨?_, ho.modifyService (F := (·.record client c)) fun _ _ => rfl⟩
  show b'.service.refusal? c.point = _
  rw [ho.service]
  rfl

theorem dropStream (stream : Stream) : g.Of me (b.dropStream stream) (b'.dropStream stream) :=
  ho.modifyService (F := (·.dropStream stream)) fun f s => s.rename_dropStream f stream

/-! ## Waking -/

theorem takeTurn (id : TaskId) : g.Of me (b.takeTurn id) (b'.takeTurn (g.id id)) :=
  { ho with
    eq := by
      rw [ho.eq]
      show { b.recast g with ready := (b.ready.map g.id).erase (g.id id) } = _
      rw [← List.map_erase g.id_injective]
      rfl
    numbered := { ho.numbered with
      ready := fun i hi => ho.numbered.ready i (List.mem_of_mem_erase hi) } }

theorem wake (id : TaskId) : g.Of me (b.wake id) (b'.wake (g.id id)) := by
  have hready : b'.ready.contains (g.id id) = b.ready.contains id := by
    rw [ho.eq]
    exact contains_map g.id_injective b.ready id
  unfold Bridge.wake
  rw [ho.task?, Option.isSome_map, hready]
  split
  · rename_i hcond
    refine { ho with
      eq := ?_
      numbered := { ho.numbered with ready := fun i hi => ?_ } }
    · rw [ho.eq]
      show { b.recast g with ready := b.ready.map g.id ++ [g.id id] } = _
      rw [show [g.id id] = [id].map g.id from rfl, ← List.map_append]
      rfl
    · rcases List.mem_append.1 hi with hi | hi
      · exact ho.numbered.ready i hi
      -- only a task that is there is woken
      · rw [List.mem_singleton.1 hi]
        obtain ⟨t, ht⟩ := Option.isSome_iff_exists.1 (Bool.and_eq_true_iff.1 hcond).1
        exact ho.numbered.tasks _ (Bridge.mem_of_task? ht)
  · exact ho

theorem wakeAll (ids : List TaskId) : g.Of me (b.wakeAll ids) (b'.wakeAll (ids.map g.id)) := by
  induction ids generalizing b b' with
  | nil => exact ho
  | cons id ids ih => exact ih (ho.wake id)

/-- At most one task is woken. -/
theorem wakeOne (id? : Option TaskId) :
    g.Of me (b.wakeAll id?.toList) (b'.wakeAll (id?.map g.id).toList) := by
  cases id? with
  | none => exact ho
  | some id => exact ho.wakeAll [id]

theorem wakeWithin (scope : Scope) : g.Of me (b.wakeWithin scope) (b'.wakeWithin scope) := by
  have hids : b'.waitersWithin scope = (b.waitersWithin scope).map g.id := by
    rw [ho.eq]
    simp only [Bridge.waitersWithin, Bridge.recast, List.filter_map, List.map_map,
      Function.comp_def, g.task_scope?]
  unfold Bridge.wakeWithin
  rw [hids]
  exact ho.wakeAll _

/-! ## The life of a task -/

/-- A new task has its own number. -/
theorem submit {t : Task} (ht : ∀ h, g.parked = some h → t.pumped? ≠ some h) :
    g.Of me (b.submit t).2 (b'.submit t).2 where
  eq := by
    have htask : g.task b.nextTask t = t := if_neg fun h => Nat.lt_irrefl _ (ho.reader _ h)
    rw [ho.eq]
    show { b.recast g with
      tasks := b.tasks.map (fun p : TaskId × Task => (g.id p.1, g.task p.1 p.2)) ++
        [(g.id b.nextTask, t)]
      nextTask := g.id b.nextTask + 1
      ready := b.ready.map g.id ++ [g.id b.nextTask] } = _
    rw [← g.id_succ ho.first]
    simp [Bridge.recast, Bridge.submit, htask]
  first := Nat.le_succ_of_le ho.first
  reader id hid := Nat.lt_succ_of_lt (ho.reader id hid)
  turn id hid := Nat.lt_succ_of_lt (ho.turn id hid)
  numbered := ho.numbered.submit t
  parked := ho.parked
  unpumped h hp p hm := by
    rcases List.mem_append.1 hm with hm | hm
    · exact ho.unpumped h hp p hm
    · rw [List.mem_singleton.1 hm]
      exact ht h hp

theorem spawnOn {t : Task} (ht : ∀ h, g.parked = some h → t.pumped? ≠ some h) :
    g.Of me (b.spawnOn t) (b'.spawnOn t) := by
  have htracker : b'.tracker.started = b.tracker.started.rename g.id := by rw [ho.tracker]; rfl
  exact (ho.withTracker htracker ho.numbered.tracker.started).submit ht

theorem spawn {t : Task} (ht : ∀ h, g.parked = some h → t.pumped? ≠ some h) :
    g.Of me (b.spawn t) (b'.spawn t) := by
  unfold Bridge.spawn
  rw [ho.hasRuntime]
  split
  · exact ho.spawnOn ht
  · exact ho

theorem sayFarewell (client : ClientId) (left : List RemoteClose) :
    g.Of me (b.sayFarewell client left) (b'.sayFarewell client left) :=
  ho.spawn (t := .farewell client none left) fun _ _ => nofun

/-- A task that goes on elsewhere does not become the pump of another reader. -/
theorem setTask (id : TaskId) {t t' : Task} (ht : t' = g.task id t)
    (hp : ∀ h, g.parked = some h → t.pumped? ≠ some h) :
    g.Of me (b.setTask id t) (b'.setTask (g.id id) t') :=
  { ho with
    eq := by
      have hplace : ∀ p : TaskId × Task,
          (if g.id p.1 = g.id id then (g.id id, t') else (g.id p.1, g.task p.1 p.2)) =
            (fun p : TaskId × Task => (g.id p.1, g.task p.1 p.2))
              (if p.1 = id then (id, t) else p) := by
        intro p
        by_cases hpid : p.1 = id
        · rw [if_pos (congrArg g.id hpid), if_pos hpid, ht]
        · rw [if_neg fun h => hpid (g.id_injective h), if_neg hpid]
      rw [ho.eq]
      simp only [Bridge.setTask, Bridge.recast, List.map_map, Function.comp_def, hplace]
    numbered := { ho.numbered with
      tasks := fun p hm => by
        obtain ⟨q, hq, rfl⟩ := List.mem_map.1 hm
        have := ho.numbered.tasks q hq
        split
        · rename_i he
          exact he ▸ this
        · exact this }
    unpumped := fun h hh p hm => by
      obtain ⟨q, hq, rfl⟩ := List.mem_map.1 hm
      split
      · exact hp h hh
      · exact ho.unpumped h hh q hq }

theorem conclude (id : TaskId) : g.Of me (b.conclude id) (b'.conclude (g.id id)) :=
  { ho with
    eq := by
      rw [ho.eq]
      simp only [Bridge.conclude, Bridge.recast, List.filter_map, Function.comp_def, ne_eq,
        g.id_inj, List.map_erase g.id_injective]
    numbered := { ho.numbered with
      tasks := fun p hp => ho.numbered.tasks p (List.mem_filter.1 hp).1
      ready := fun i hi => ho.numbered.ready i (List.mem_of_mem_erase hi) }
    unpumped := fun h hh p hp => ho.unpumped h hh p (List.mem_filter.1 hp).1 }

theorem concludeBackground (id : TaskId) :
    g.Of me (b.concludeBackground id) (b'.concludeBackground (g.id id)) := by
  unfold Bridge.concludeBackground
  rw [ho.tracker, Tracker.rename_finished]
  exact ((ho.conclude id).withTracker rfl ho.numbered.tracker.finished).wakeAll _

/-! ## Closing -/

theorem closeConnection (c : ConnectionHandle) :
    g.Both me (b.closeConnection c) (b'.closeConnection c) := by
  unfold Bridge.closeConnection
  rw [ho.registry, Registry.recast_closeConnection]
  cases hc : b.registry.closeConnection c with
  | error f => exact ⟨rfl, ho⟩
  | ok p =>
    exact ⟨rfl, ((ho.withRegistry rfl (.closeConnection hc)).wakeWithin _).sayFarewell _ _⟩

theorem closeSession (s : SessionHandle) : g.Both me (b.closeSession s) (b'.closeSession s) := by
  unfold Bridge.closeSession
  rw [ho.registry, Registry.recast_closeSession]
  cases hc : b.registry.closeSession s with
  | error f => exact ⟨rfl, ho⟩
  | ok p => exact ⟨rfl, ((ho.withRegistry rfl (.closeSession hc)).wakeWithin _).sayFarewell _ _⟩

theorem closeReader (h : ReaderHandle) : g.Of me (b.closeReader h) (b'.closeReader h) := by
  have hs := Registry.Spares.closeReader b.registry h
  unfold Bridge.closeReader
  rw [ho.registry, Registry.recast_closeReader]
  cases hc : b.registry.closeReader h with
  | mk scope? r =>
    rw [hc] at hs
    have hr : g.Of me (b.withRegistry r) (b'.withRegistry (r.recast g)) := ho.withRegistry rfl hs
    cases scope? with
    | none => exact hr
    | some scope => exact hr.wakeWithin scope

theorem close (target : Target) : g.Of me (b.close target) (b'.close target) := by
  cases target with
  | connection c => exact (ho.closeConnection c).2
  | session s => exact (ho.closeSession s).2
  | reader h => exact ho.closeReader h

theorem closeConnections (cs : List ConnectionHandle) :
    g.Of me (b.closeConnections cs) (b'.closeConnections cs) := by
  induction cs generalizing b b' with
  | nil => exact ho
  | cons c cs ih => exact ih (ho.close (.connection c))

end

/-- A task in the queue goes on before any other. -/
theorem goOn {id : TaskId} (ho : g.Of (some id) b b') :
    g.Of (some id) (b.goOn id) (b'.goOn (g.id id)) :=
  { ho with
    eq := by
      rw [ho.eq]
      show { b.recast g with ready := g.id id :: (b.ready.map g.id).erase (g.id id) } = _
      rw [← List.map_erase g.id_injective]
      rfl
    numbered := { ho.numbered with
      ready := fun i hi => by
        rcases List.mem_cons.1 hi with rfl | hi
        · exact ho.turn i rfl
        · exact ho.numbered.ready i (List.mem_of_mem_erase hi) } }

/-! ## Accepted calls -/

theorem follow {id : TaskId} (ho : g.Of (some id) b b') (hooks : List Hook) :
    g.Both (some id) (b.follow id hooks) (b'.follow (g.id id) hooks) := by
  induction hooks generalizing b b' with
  | nil => exact ⟨rfl, ho⟩
  | cons hook rest ih =>
    cases hook with
    | close target => exact ih (ho.close target)
    | refuse message => exact ⟨rfl, ho⟩
    | hang gate =>
      unfold Bridge.follow
      rw [ho.service, Service.rename_gate, Service.rename_waitAt]
      exact .ite Iff.rfl (ih ho)
        ⟨rfl, ho.withService rfl (ho.numbered.service.waitAt (ho.turn id rfl) gate)⟩

theorem passHooks {id : TaskId} (ho : g.Of (some id) b b') (p : CallPoint) :
    g.Both (some id) (b.passHooks id p) (b'.passHooks (g.id id) p) := by
  unfold Bridge.passHooks
  rw [ho.service, Service.rename_takeHooks]
  exact (ho.withService rfl (ho.numbered.service.takeHooks p)).follow _

theorem resume {id : TaskId} (ho : g.Of (some id) b b') (held : Held) :
    g.Both (some id) (b.resume id held) (b'.resume (g.id id) held) := by
  unfold Bridge.resume
  rw [ho.service, Service.rename_gate]
  exact .ite Iff.rfl (ho.follow _) ⟨rfl, ho⟩

end Of

end Recast

end QueryBridge
