import QueryBridge.Bridge.Background
import QueryBridge.Proofs.Bridge.OK

/-!
# How far a call on the service comes

Closing resources says nothing to the service. So what becomes of a call that
the service has accepted depends on its hooks and on the gates alone, whatever
the call closes on its way.

* `Bridge.follow_course`, `Bridge.passHooks_course`, `Bridge.resume_course`: what becomes of a call.
* `Bridge.passHooks_calls`, `Bridge.resume_calls`: no other call is made meanwhile.
-/

namespace QueryBridge

/-- What becomes of an accepted call whose hooks these are. -/
def Service.course (s : Service) : List Hook → Bridge.Course
  | [] => .returned
  | .close _ :: rest => s.course rest
  | .refuse message :: _ => .refused message
  | .hang gate :: rest => if (s.gate gate).isOpen then s.course rest else .held ⟨gate, rest⟩

/-- What becomes of a call that was held back. -/
def Service.courseOf (s : Service) (held : Held) : Bridge.Course :=
  if (s.gate held.gate).isOpen then s.course held.rest else .held held

/-- What becomes of a call depends on the gates and its hooks alone. -/
theorem Service.course_congr {s s' : Service} (h : s'.gates = s.gates) (hooks : List Hook) :
    s'.course hooks = s.course hooks := by
  induction hooks with
  | nil => rfl
  | cons hook rest ih =>
    cases hook with
    | close target => exact ih
    | refuse message => rfl
    | hang gate =>
      have hg : s'.gate gate = s.gate gate := by unfold Service.gate; rw [h]
      unfold course
      rw [hg, ih]

namespace Bridge

/-! ## Closing leaves the service alone -/

@[simp] theorem spawnOn_service (b : Bridge) (t : Task) : (b.spawnOn t).service = b.service := rfl

@[simp] theorem spawnOn_registry (b : Bridge) (t : Task) : (b.spawnOn t).registry = b.registry :=
  rfl

@[simp] theorem spawn_service (b : Bridge) (t : Task) : (b.spawn t).service = b.service := by
  unfold spawn
  split <;> rfl

@[simp] theorem spawn_registry (b : Bridge) (t : Task) : (b.spawn t).registry = b.registry := by
  unfold spawn
  split <;> rfl

theorem closeConnection_service (b : Bridge) (c : ConnectionHandle) :
    (b.closeConnection c).2.service = b.service := by
  unfold closeConnection
  split
  · rfl
  · simp [sayFarewell, wakeWithin, withRegistry]

theorem closeSession_service (b : Bridge) (s : SessionHandle) :
    (b.closeSession s).2.service = b.service := by
  unfold closeSession
  split
  · rfl
  · simp [sayFarewell, wakeWithin, withRegistry]

theorem closeReader_service (b : Bridge) (h : ReaderHandle) :
    (b.closeReader h).service = b.service := by
  unfold closeReader
  split
  · simp [wakeWithin, withRegistry]
  · rfl

theorem close_service (b : Bridge) (t : Target) : (b.close t).service = b.service := by
  cases t with
  | connection c => exact b.closeConnection_service c
  | session s => exact b.closeSession_service s
  | reader h => exact b.closeReader_service h

/-! ## Accepted calls -/

/-- **What becomes of an accepted call** is up to the service. -/
theorem follow_course (id : TaskId) (hooks : List Hook) (b : Bridge) :
    (b.follow id hooks).1 = b.service.course hooks := by
  induction hooks generalizing b with
  | nil => rfl
  | cons hook rest ih =>
    cases hook with
    | close target =>
      unfold follow
      rw [ih, close_service]
      rfl
    | refuse message => rfl
    | hang gate =>
      unfold follow Service.course
      split
      · exact ih b
      · rfl

theorem resume_course (b : Bridge) (id : TaskId) (held : Held) :
    (b.resume id held).1 = b.service.courseOf held := by
  unfold resume Service.courseOf
  split
  · exact follow_course id _ b
  · rfl

theorem passHooks_course (b : Bridge) (id : TaskId) (p : CallPoint) :
    (b.passHooks id p).1 = b.service.course (b.service.takeHooks p).1 := by
  have hg : (b.service.takeHooks p).2.gates = b.service.gates := by
    unfold Service.takeHooks
    split <;> rfl
  unfold passHooks
  dsimp only
  rw [follow_course]
  exact Service.course_congr hg _

/-- What happens inside of a call makes no other call. -/
theorem follow_calls (id : TaskId) (hooks : List Hook) (b : Bridge) :
    (b.follow id hooks).2.service.calls = b.service.calls := by
  induction hooks generalizing b with
  | nil => rfl
  | cons hook rest ih =>
    cases hook with
    | close target =>
      unfold follow
      rw [ih, close_service]
    | refuse message => rfl
    | hang gate =>
      unfold follow
      split
      · exact ih b
      · rfl

theorem passHooks_calls (b : Bridge) (id : TaskId) (p : CallPoint) :
    (b.passHooks id p).2.service.calls = b.service.calls := by
  unfold passHooks
  dsimp only
  rw [follow_calls]
  unfold withService Service.takeHooks
  dsimp only
  split <;> rfl

theorem resume_calls (b : Bridge) (id : TaskId) (held : Held) :
    (b.resume id held).2.service.calls = b.service.calls := by
  unfold resume
  split
  · exact follow_calls id _ b
  · rfl

end Bridge

end QueryBridge
