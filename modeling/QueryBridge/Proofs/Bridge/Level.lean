import QueryBridge.Proofs.Bridge.Courses

/-!
# What a call closes on its way

A call on the service may close resources before it returns. `Service.closing`
names them, so that the bridge afterwards is told from the bridge before and
from what the service has planned, whoever was woken meanwhile.

* `Bridge.Level`: two bridges with the same resources, tasks and calls.
* `Bridge.follow_level`, `Bridge.resume_level`: an accepted call closes what its
  hooks name, and changes nothing else.
-/

namespace QueryBridge

variable {b b' b'' : Bridge} {id : TaskId}

/-! ## Bridges side by side -/

/-- Only the resources, the queue, the tracker and the plans of the service have changed. -/
structure Bridge.Beside (b b' : Bridge) : Prop where
  config : b'.config = b.config
  hasRuntime : b'.hasRuntime = b.hasRuntime
  tasks : b'.tasks = b.tasks
  nextTask : b'.nextTask = b.nextTask
  calls : b'.service.calls = b.service.calls

/-- Only the queue, the tracker and the plans of the service have changed. -/
structure Bridge.Level (b b' : Bridge) : Prop extends Bridge.Beside b b' where
  registry : b'.registry = b.registry

namespace Bridge

namespace Beside

theorem refl (b : Bridge) : Beside b b := ⟨rfl, rfl, rfl, rfl, rfl⟩

theorem trans (h : Beside b b') (h' : Beside b' b'') : Beside b b'' :=
  ⟨h'.config.trans h.config, h'.hasRuntime.trans h.hasRuntime, h'.tasks.trans h.tasks,
    h'.nextTask.trans h.nextTask, h'.calls.trans h.calls⟩

theorem symm (h : Beside b b') : Beside b' b :=
  ⟨h.config.symm, h.hasRuntime.symm, h.tasks.symm, h.nextTask.symm, h.calls.symm⟩

end Beside

namespace Level

theorem refl (b : Bridge) : Level b b := ⟨.refl b, rfl⟩

theorem trans (h : Level b b') (h' : Level b' b'') : Level b b'' :=
  ⟨h.toBeside.trans h'.toBeside, h'.registry.trans h.registry⟩

theorem symm (h : Level b b') : Level b' b := ⟨h.toBeside.symm, h.registry.symm⟩

theorem of_eq (h : b = b') : Level b b' := h ▸ refl b

/-- The service may change its plans. -/
theorem withService (b : Bridge) {s : Service} (hs : s.calls = b.service.calls) :
    Level b (b.withService s) := ⟨⟨rfl, rfl, rfl, rfl, hs⟩, rfl⟩

/-! What is done to both is the same. -/

theorem withRegistry (h : Level b b') (r : Registry) :
    (b.withRegistry r).Level (b'.withRegistry r) :=
  ⟨⟨h.config, h.hasRuntime, h.tasks, h.nextTask, h.calls⟩, rfl⟩

theorem setTask (h : Level b b') (id : TaskId) (t : Task) :
    (b.setTask id t).Level (b'.setTask id t) := by
  refine ⟨⟨h.config, h.hasRuntime, ?_, h.nextTask, h.calls⟩, h.registry⟩
  simp only [Bridge.setTask, h.tasks]

theorem conclude (h : Level b b') (id : TaskId) : (b.conclude id).Level (b'.conclude id) := by
  refine ⟨⟨h.config, h.hasRuntime, ?_, h.nextTask, h.calls⟩, h.registry⟩
  simp only [Bridge.conclude, h.tasks]

theorem spawnOn (h : Level b b') (t : Task) : (b.spawnOn t).Level (b'.spawnOn t) := by
  refine ⟨⟨h.config, h.hasRuntime, ?_, ?_, h.calls⟩, h.registry⟩
  · simp only [Bridge.spawnOn, submit, h.tasks, h.nextTask]
  · simp only [Bridge.spawnOn, submit, h.nextTask]

theorem spawn (h : Level b b') (t : Task) : (b.spawn t).Level (b'.spawn t) := by
  unfold Bridge.spawn
  rw [h.hasRuntime]
  split
  · exact h.spawnOn t
  · exact h

end Level

/-! ## Waking -/

theorem wake_level (b : Bridge) (id : TaskId) : b.Level (b.wake id) := by
  unfold wake
  split
  · exact ⟨⟨rfl, rfl, rfl, rfl, rfl⟩, rfl⟩
  · exact .refl b

theorem wakeAll_level (ids : List TaskId) (b : Bridge) : b.Level (b.wakeAll ids) := by
  induction ids generalizing b with
  | nil => exact .refl b
  | cons id ids ih => exact (b.wake_level id).trans (ih _)

theorem withRegistry_beside (b : Bridge) (r : Registry) : b.Beside (b.withRegistry r) :=
  ⟨rfl, rfl, rfl, rfl, rfl⟩

theorem Beside.wakeAll (h : b.Beside b') (ids : List TaskId) : b.Beside (b'.wakeAll ids) :=
  h.trans (wakeAll_level ids b').toBeside

theorem goOn_level (b : Bridge) (id : TaskId) : b.Level (b.goOn id) :=
  ⟨⟨rfl, rfl, rfl, rfl, rfl⟩, rfl⟩

theorem takeTurn_level (b : Bridge) (id : TaskId) : b.Level (b.takeTurn id) :=
  ⟨⟨rfl, rfl, rfl, rfl, rfl⟩, rfl⟩

theorem tracker_level (b : Bridge) (t : Tracker) : b.Level { b with tracker := t } :=
  ⟨⟨rfl, rfl, rfl, rfl, rfl⟩, rfl⟩

theorem dropStream_level (b : Bridge) (stream : Stream) : b.Level (b.dropStream stream) := by
  refine .withService b ?_
  cases stream <;> rfl

/-! ## Closes one after another -/

/-- Closes resources one after another. -/
def closeAll (b : Bridge) (ts : List Target) : Bridge := ts.foldl close b

@[simp] theorem closeAll_cons (b : Bridge) (t : Target) (ts : List Target) :
    b.closeAll (t :: ts) = (b.close t).closeAll ts := rfl

theorem closeAll_append (b : Bridge) (ts ts' : List Target) :
    b.closeAll (ts ++ ts') = (b.closeAll ts).closeAll ts' := List.foldl_append

theorem closeConnections_eq (hs : List ConnectionHandle) (b : Bridge) :
    b.closeConnections hs = b.closeAll (hs.map .connection) := by
  unfold closeAll
  rw [List.foldl_map]
  rfl

theorem closeAll_service (ts : List Target) (b : Bridge) :
    (b.closeAll ts).service = b.service := by
  induction ts generalizing b with
  | nil => rfl
  | cons t ts ih => exact (ih _).trans (b.close_service t)

/-- A close does not look at the service. -/
theorem close_withService (b : Bridge) (s : Service) (t : Target) :
    (b.withService s).close t = (b.close t).withService s := by
  have hwake : ∀ (ids : List TaskId) (b : Bridge),
      (b.withService s).wakeAll ids = (b.wakeAll ids).withService s := by
    intro ids
    induction ids with
    | nil => exact fun _ => rfl
    | cons id ids ih =>
      intro b
      have h₁ : (b.withService s).wake id = (b.wake id).withService s := by
        by_cases hw : ((b.task? id).isSome && !b.ready.contains id) = true
        · exact (if_pos hw).trans (by rw [wake, if_pos hw]; rfl)
        · exact (if_neg hw).trans (by rw [wake, if_neg hw])
      exact (congrArg (wakeAll · ids) h₁).trans (ih _)
  have hspawn : ∀ (b : Bridge) (t : Task),
      (b.withService s).spawn t = (b.spawn t).withService s := by
    intro b t
    by_cases hrt : b.hasRuntime = true
    · exact (if_pos hrt).trans (by rw [spawn, if_pos hrt]; rfl)
    · exact (if_neg hrt).trans (by rw [spawn, if_neg hrt])
  have hlost : ∀ (b : Bridge) (r : Registry) (scope : Scope),
      ((b.withService s).withRegistry r).wakeWithin scope =
        ((b.withRegistry r).wakeWithin scope).withService s := fun b r scope =>
    hwake ((b.withRegistry r).waitersWithin scope) (b.withRegistry r)
  cases t with
  | connection c =>
    show ((b.withService s).closeConnection c).2 = (b.closeConnection c).2.withService s
    simp only [closeConnection, show (b.withService s).registry = b.registry from rfl]
    split
    · rfl
    · exact (congrArg (sayFarewell · _ _) (hlost b _ _)).trans (hspawn _ _)
  | session x =>
    show ((b.withService s).closeSession x).2 = (b.closeSession x).2.withService s
    simp only [closeSession, show (b.withService s).registry = b.registry from rfl]
    split
    · rfl
    · exact (congrArg (sayFarewell · _ _) (hlost b _ _)).trans (hspawn _ _)
  | reader x =>
    show (b.withService s).closeReader x = (b.closeReader x).withService s
    simp only [closeReader, show (b.withService s).registry = b.registry from rfl]
    split
    · exact hlost b _ _
    · rfl

theorem closeAll_withService (ts : List Target) (b : Bridge) (s : Service) :
    (b.withService s).closeAll ts = (b.closeAll ts).withService s := by
  induction ts generalizing b with
  | nil => rfl
  | cons t ts ih => rw [closeAll_cons, close_withService, ih, closeAll_cons]

/-- A close makes the same of two bridges that are level. -/
theorem Level.close (h : b.Level b') (t : Target) : (b.close t).Level (b'.close t) := by
  have hwake : ∀ (r : Registry) (scope : Scope),
      ((b.withRegistry r).wakeWithin scope).Level ((b'.withRegistry r).wakeWithin scope) := by
    intro r scope
    have h₁ := (wakeAll_level ((b.withRegistry r).waitersWithin scope) (b.withRegistry r)).symm
    have h₂ := wakeAll_level ((b'.withRegistry r).waitersWithin scope) (b'.withRegistry r)
    exact (h₁.trans (h.withRegistry r)).trans h₂
  cases t with
  | connection c =>
    show (b.closeConnection c).2.Level (b'.closeConnection c).2
    unfold closeConnection
    rw [h.registry]
    split
    · exact h
    · exact (hwake _ _).spawn _
  | session s =>
    show (b.closeSession s).2.Level (b'.closeSession s).2
    unfold closeSession
    rw [h.registry]
    split
    · exact h
    · exact (hwake _ _).spawn _
  | reader x =>
    show (b.closeReader x).Level (b'.closeReader x)
    unfold closeReader
    rw [h.registry]
    split
    · exact hwake _ _
    · exact h.withRegistry _

theorem Level.closeAll (ts : List Target) (h : b.Level b') :
    (b.closeAll ts).Level (b'.closeAll ts) := by
  induction ts generalizing b b' with
  | nil => exact h
  | cons t ts ih => exact ih (h.close t)

end Bridge

/-! ## What the hooks of a call close -/

/-- What an accepted call whose hooks these are closes before it returns, is
refused or is held back. -/
def Service.closing (s : Service) : List Hook → List Target
  | [] => []
  | .close target :: rest => target :: s.closing rest
  | .refuse _ :: _ => []
  | .hang gate :: rest => if (s.gate gate).isOpen then s.closing rest else []

/-- What a call that was held back closes when it goes on. -/
def Service.closingOf (s : Service) (held : Held) : List Target :=
  if (s.gate held.gate).isOpen then s.closing held.rest else []

/-- What a call closes depends on its hooks and the gates alone. -/
theorem Service.closing_congr {s s' : Service} (h : s'.gates = s.gates) (hooks : List Hook) :
    s'.closing hooks = s.closing hooks := by
  induction hooks with
  | nil => rfl
  | cons hook rest ih =>
    cases hook with
    | close target => exact congrArg (target :: ·) ih
    | refuse message => rfl
    | hang gate =>
      have hg : s'.gate gate = s.gate gate := by
        unfold Service.gate
        rw [h]
      unfold closing
      rw [hg, ih]

theorem Service.takeHooks_gates (s : Service) (p : CallPoint) :
    (s.takeHooks p).2.gates = s.gates := by
  unfold takeHooks
  split <;> rfl

theorem Service.takeHooks_calls (s : Service) (p : CallPoint) :
    (s.takeHooks p).2.calls = s.calls := by
  unfold takeHooks
  split <;> rfl

/-- Whether a call has not come to its end. -/
def Bridge.Course.isHeld : Bridge.Course → Bool
  | .held _ => true
  | _ => false

namespace Bridge

/-- **An accepted call closes what its hooks name**, and changes nothing else. -/
theorem follow_level (id : TaskId) (hooks : List Hook) (b : Bridge) :
    (b.closeAll (b.service.closing hooks)).Level (b.follow id hooks).2 := by
  induction hooks generalizing b with
  | nil => exact .refl b
  | cons hook rest ih =>
    cases hook with
    | close target =>
      have h := ih (b.close target)
      rw [close_service] at h
      exact h
    | refuse message => exact .refl b
    | hang gate =>
      unfold follow Service.closing
      split
      · exact ih b
      · exact .withService b rfl

/-- A call that is not held back has left the plans of the service as they were. -/
theorem follow_settled (id : TaskId) (hooks : List Hook) (b : Bridge)
    (h : (b.follow id hooks).1.isHeld = false) : (b.follow id hooks).2.service = b.service := by
  induction hooks generalizing b with
  | nil => rfl
  | cons hook rest ih =>
    cases hook with
    | close target =>
      have h₁ := ih (b.close target) h
      rwa [close_service] at h₁
    | refuse message => rfl
    | hang gate =>
      unfold follow at h ⊢
      split at h
      · rename_i ho
        rw [if_pos ho]
        exact ih b h
      · cases h

theorem passHooks_level (b : Bridge) (id : TaskId) (p : CallPoint) :
    (b.closeAll (b.service.closing (b.service.takeHooks p).1)).Level (b.passHooks id p).2 := by
  have hplan : b.Level (b.withService (b.service.takeHooks p).2) :=
    .withService b (b.service.takeHooks_calls p)
  have hfollow := follow_level id (b.service.takeHooks p).1
    (b.withService (b.service.takeHooks p).2)
  have hclosing : (b.withService (b.service.takeHooks p).2).service.closing
      (b.service.takeHooks p).1 = b.service.closing (b.service.takeHooks p).1 :=
    Service.closing_congr (b.service.takeHooks_gates p) _
  rw [hclosing] at hfollow
  exact (hplan.closeAll _).trans hfollow

theorem resume_level (b : Bridge) (id : TaskId) (held : Held) :
    (b.closeAll (b.service.closingOf held)).Level (b.resume id held).2 := by
  unfold resume Service.closingOf
  split
  · exact follow_level id held.rest b
  · exact .refl b

theorem resume_settled (b : Bridge) (id : TaskId) (held : Held)
    (h : (b.resume id held).1.isHeld = false) : (b.resume id held).2.service = b.service := by
  unfold resume at h ⊢
  split at h
  · rename_i ho
    rw [if_pos ho]
    exact follow_settled id _ b h
  · cases h

end Bridge

end QueryBridge
