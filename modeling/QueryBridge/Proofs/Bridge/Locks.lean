import QueryBridge.Proofs.Bridge.Deeds
import QueryBridge.Proofs.Bridge.Recast

/-!
# Who has the lock of a reader

Whoever has the lock of a reader or a place in the queue for it is a call that
waits there, for its turn or for a frame. So a call that reads alone finds the
lock free, and leaves it so.

* `Registry.Locked`: the locks while a call has its turn.
* `Bridge.turn_locked`: what a turn does to the locks.
* `Bridge.Reachable.locks`: the locks between the turns.
-/

namespace QueryBridge

/-! ## Locks -/

namespace Turnstile

/-- Who has the lock or wants it. -/
def members (t : Turnstile) : List TaskId := t.holder.toList ++ t.queue

variable {t : Turnstile} {id i : TaskId}

theorem leave_members (t : Turnstile) : t.leave.members = t.queue := by
  obtain ⟨holder, queue⟩ := t
  cases queue <;> rfl

theorem enter_members (t : Turnstile) (id : TaskId) :
    (t.enter id).members.Perm (id :: t.members) := by
  obtain ⟨holder, queue⟩ := t
  cases holder with
  | none => exact .refl _
  | some x => exact List.perm_append_singleton id (x :: queue)

theorem mem_of_mem_forget (hi : i ∈ (t.forget id).members) : i ∈ t.members := by
  rcases List.mem_append.1 hi with hi | hi
  · exact List.mem_append_left _ hi
  · exact List.mem_append_right _ (List.mem_of_mem_erase hi)

theorem forget_nodup (hn : t.members.Nodup) : (t.forget id).members.Nodup :=
  hn.sublist (List.erase_sublist.append_left _)

/-- Who has given up a place in the queue and does not have the lock has nothing to do with it. -/
theorem not_mem_forget (hn : t.members.Nodup) (hk : t.holder ≠ some id) :
    id ∉ (t.forget id).members := by
  intro hi
  rcases List.mem_append.1 hi with hi | hi
  · exact hk (Option.mem_toList.1 hi)
  · exact (List.nodup_append.1 hn).2.1.not_mem_erase hi

/-- Who has the lock does not wait for it. -/
theorem not_mem_queue (hn : t.members.Nodup) (hk : t.holder = some id) : id ∉ t.queue := fun hi =>
  (List.nodup_append.1 hn).2.2 id (Option.mem_toList.2 hk) id hi rfl

end Turnstile

/-- The reader at which a call waits, for its turn or for a frame. -/
def Stage.lock? : Stage → Option ReaderHandle
  | .awaitingTurn h .. | .awaitingFrame h .. => some h
  | _ => none

/-- The reader at which a task has the lock or wants it. -/
def Task.lock? : Task → Option ReaderHandle
  | .call _ stage => stage.lock?
  | _ => none

/-- The reader at which a call has the lock or wants it after its turn. -/
def Progress.lock? : Progress Stage Outcome → Option ReaderHandle
  | .waits stage => stage.lock?
  | _ => none

theorem Task.lock?_of_stage? {t : Task} {stage : Stage} (hs : t.stage? = some stage) :
    t.lock? = stage.lock? := by
  cases t with
  | payload text =>
    simp only [Task.stage?, Option.map_eq_some_iff] at hs
    obtain ⟨e, -, rfl⟩ := hs
    rfl
  | call envelope stage' =>
    obtain rfl := Option.some.inj hs
    rfl
  | pump h e stream inHand => cases hs
  | farewell client held left => cases hs

namespace Registry

/-! ## What leaves the locks alone -/

/-- Every lock stays as it is, or it is the one of a new reader. -/
def SameLocks (r r' : Registry) : Prop := ∀ h,
  (r'.reader h).lock = (r.reader h).lock ∨ (r'.reader h).lock = ⟨none, []⟩

variable {r r' r'' : Registry}

namespace SameLocks

theorem refl (r : Registry) : r.SameLocks r := fun _ => .inl rfl

theorem trans (h : r.SameLocks r') (h' : r'.SameLocks r'') : r.SameLocks r'' := fun x => by
  rcases h' x with hx | hx
  · rw [hx]
    exact h x
  · exact .inr hx

theorem of_spares (h : r.Spares r') : r.SameLocks r' := fun x => by
  obtain ⟨-, hx | hx | ⟨-, hx⟩⟩ := h x
  · rw [hx]
    exact .inl rfl
  · rw [hx]
    exact .inl rfl
  · exact .inr hx.lock

theorem modifyReader (r : Registry) (h : ReaderHandle) {F : ReaderStatus → ReaderStatus}
    (hF : ∀ s, (F s).lock = s.lock) : r.SameLocks (r.modifyReader h F) := fun x =>
  .inl (r.reader_modify_keeps h (g := ReaderStatus.lock) (hF _) x)

theorem exhaust (r : Registry) (h : ReaderHandle) (e : Reader) : r.SameLocks (r.exhaust h e) :=
  fun x => by
    rw [exhaust_reader]
    exact SameLocks.modifyReader r h (F := spent) (fun _ => rfl) x

theorem close (r : Registry) (t : Target) : r.SameLocks (r.close t) := by
  refine of_spares ?_
  cases t with
  | connection c =>
    cases hc : r.closeConnection c with
    | error f =>
      simp only [Registry.close, hc]
      exact .refl r
    | ok p =>
      simp only [Registry.close, hc]
      exact .closeConnection hc
  | session s =>
    cases hs : r.closeSession s with
    | error f =>
      simp only [Registry.close, hs]
      exact .refl r
    | ok p =>
      simp only [Registry.close, hs]
      exact .closeSession hs
  | reader h => exact .closeReader r h

theorem closeAll (r : Registry) (ts : List Target) : r.SameLocks (r.closeAll ts) := by
  induction ts generalizing r with
  | nil => exact .refl r
  | cons t ts ih => exact (close r t).trans (ih _)

/-- Nobody is at the lock of a reader that is registered. -/
theorem addReader {e : Reader} {ch : Channel} {h : ReaderHandle}
    (ha : r.addReader e ch = .ok (h, r')) : r.SameLocks r' := by
  obtain ⟨t, -, rfl⟩ := addReader_eq_ok ha
  intro x
  have hx : ((r.readerStatus.insert h ⟨.active, false, ⟨none, []⟩, ch, true, none⟩).get? x).getD
      default = if x = h then ⟨.active, false, ⟨none, []⟩, ch, true, none⟩ else r.reader x := by
    rw [HandleMap.get?_insert]
    split <;> rfl
  by_cases hxh : x = h
  · rw [if_pos hxh] at hx
    exact .inr (congrArg ReaderStatus.lock hx)
  · rw [if_neg hxh] at hx
    exact .inl (congrArg ReaderStatus.lock hx)

theorem adds {what : Option Registration} (h : r.Adds what r') : r.SameLocks r' := by
  cases h with
  | nothing => exact .refl r
  | opened ha => exact of_spares (.addConnection ha)
  | created ha => exact of_spares (.addSession ha)
  | executed ha => exact addReader ha

theorem members (h : r.SameLocks r') {x : ReaderHandle} {i : TaskId}
    (hi : i ∈ (r'.reader x).lock.members) : i ∈ (r.reader x).lock.members := by
  rcases h x with hx | hx
  · rwa [hx] at hi
  · rw [hx] at hi
    cases hi

theorem nodup (h : r.SameLocks r') {x : ReaderHandle} (hn : (r.reader x).lock.members.Nodup) :
    (r'.reader x).lock.members.Nodup := by
  rcases h x with hx | hx
  · rwa [hx]
  · rw [hx]
    exact List.nodup_nil

theorem queue (h : r.SameLocks r') {x : ReaderHandle} {i : TaskId}
    (hi : i ∉ (r.reader x).lock.queue) : i ∉ (r'.reader x).lock.queue := by
  rcases h x with hx | hx
  · rwa [hx]
  · rw [hx]
    exact List.not_mem_nil

end SameLocks

/-! ## The locks in a turn -/

/-- The locks while a call has its turn. It has or wants one at most, and nobody else has come to
a lock since its turn began. -/
structure Locked (id : TaskId) (place : Option ReaderHandle) (r₀ r : Registry) : Prop where
  nodup : ∀ x, (r.reader x).lock.members.Nodup
  mine : ∀ x, id ∈ (r.reader x).lock.members → place = some x
  others : ∀ x i, i ≠ id → i ∈ (r.reader x).lock.members → i ∈ (r₀.reader x).lock.members

namespace Locked

variable {r₀ : Registry} {id : TaskId} {place : Option ReaderHandle} {h : ReaderHandle}

theorem same (hl : Locked id place r₀ r) (hs : r.SameLocks r') : Locked id place r₀ r' where
  nodup x := hs.nodup (hl.nodup x)
  mine x hx := hl.mine x (hs.members hx)
  others x i hi hx := hl.others x i hi (hs.members hx)

/-- A call that has nothing to do with any lock may wait wherever it is. -/
theorem anywhere (hl : Locked id none r₀ r) : Locked id place r₀ r where
  nodup := hl.nodup
  mine x hx := nomatch hl.mine x hx
  others := hl.others

/-- One lock changes. -/
theorem modifyLock {place' : Option ReaderHandle} (hl : Locked id place r₀ r)
    {F : Turnstile → Turnstile} (hn : (F (r.reader h).lock).members.Nodup)
    (ho : ∀ i, i ≠ id → i ∈ (F (r.reader h).lock).members → i ∈ (r.reader h).lock.members)
    (hm : id ∈ (F (r.reader h).lock).members → place' = some h)
    (hp : ∀ x, x ≠ h → place = some x → place' = some x) :
    Locked id place' r₀ (r.modifyReader h fun s => { s with lock := F s.lock }) := by
  have key : ∀ x, ((r.modifyReader h fun s => { s with lock := F s.lock }).reader x).lock =
      (r.reader x).lock ∧ x ≠ h ∨
      x = h ∧ (((r.modifyReader h fun s => { s with lock := F s.lock }).reader x).lock =
        F (r.reader h).lock ∨
      ((r.modifyReader h fun s => { s with lock := F s.lock }).reader x).lock = ⟨none, []⟩) := by
    intro x
    by_cases hx : x = h
    · subst hx
      exact .inr ⟨rfl, (r.reader_modify_self x _).imp (congrArg ReaderStatus.lock)
        (congrArg ReaderStatus.lock)⟩
    · exact .inl ⟨congrArg ReaderStatus.lock (r.reader_modify_of_ne _ hx), hx⟩
  refine ⟨fun x => ?_, fun x hi => ?_, fun x i hne hi => ?_⟩
  · obtain ⟨hx, -⟩ | ⟨-, hx | hx⟩ := key x
    · rw [hx]
      exact hl.nodup x
    · rwa [hx]
    · rw [hx]
      exact List.nodup_nil
  · obtain ⟨hx, hne⟩ | ⟨rfl, hx | hx⟩ := key x <;> rw [hx] at hi
    · exact hp x hne (hl.mine x hi)
    · exact hm hi
    · cases hi
  · obtain ⟨hx, -⟩ | ⟨rfl, hx | hx⟩ := key x <;> rw [hx] at hi
    · exact hl.others x i hne hi
    · exact hl.others x i hne (ho i hne hi)
    · cases hi

theorem enter (hl : Locked id none r₀ r) :
    Locked id (some h) r₀ (r.modifyReader h fun s => { s with lock := s.lock.enter id }) := by
  have hperm := (r.reader h).lock.enter_members id
  refine hl.modifyLock (F := (·.enter id)) ?_ (fun i hne hi => ?_) (fun _ => rfl) nofun
  · exact hperm.nodup_iff.2 (List.nodup_cons.2 ⟨fun hi => (nomatch hl.mine h hi), hl.nodup h⟩)
  · exact (List.mem_cons.1 (hperm.mem_iff.1 hi)).resolve_left hne

theorem leave (hl : Locked id (some h) r₀ r) (hq : id ∉ (r.reader h).lock.queue) :
    Locked id none r₀ (r.modifyReader h fun s => { s with lock := s.lock.leave }) := by
  have hmembers := (r.reader h).lock.leave_members
  refine hl.modifyLock (F := .leave) ?_ (fun i _ hi => ?_) (fun hi => ?_) fun x hx hp => ?_
  · rw [hmembers]
    exact (List.nodup_append.1 (hl.nodup h)).2.1
  · rw [hmembers] at hi
    exact List.mem_append_right _ hi
  · rw [hmembers] at hi
    exact absurd hi hq
  · exact absurd (Option.some.inj hp).symm hx

theorem forget (hl : Locked id (some h) r₀ r) (hk : (r.reader h).lock.holder ≠ some id) :
    Locked id none r₀ (r.modifyReader h fun s => { s with lock := s.lock.forget id }) :=
  hl.modifyLock (F := (·.forget id)) (Turnstile.forget_nodup (hl.nodup h))
    (fun _ _ => Turnstile.mem_of_mem_forget)
    (fun hi => absurd hi (Turnstile.not_mem_forget (hl.nodup h) hk))
    fun _ hx hp => absurd (Option.some.inj hp).symm hx

end Locked

end Registry

namespace Bridge

variable {b b' : Bridge} {id : TaskId} {stage : Stage} {h : ReaderHandle} {e : Reader}
  {r₀ : Registry}

/-! ## Turns of readings -/

theorem leaveLock_locked (hl : Registry.Locked id (some h) r₀ b.registry)
    (hq : id ∉ (b.registry.reader h).lock.queue) :
    Registry.Locked id none r₀ (b.leaveLock h).registry := by
  unfold leaveLock
  dsimp only
  rw [wakeAll_registry]
  exact hl.leave hq

theorem closeReader_locks (b : Bridge) (h : ReaderHandle) :
    b.registry.SameLocks (b.closeReader h).registry := by
  rw [closeReader_registry]
  exact .of_spares (.closeReader _ h)

theorem giveUpLock_locked (hl : Registry.Locked id (some h) r₀ b.registry) :
    Registry.Locked id none r₀ (b.giveUpLock id h).registry := by
  unfold giveUpLock
  split
  · rename_i hk
    exact leaveLock_locked hl (Turnstile.not_mem_queue (hl.nodup h) hk)
  · rename_i hk
    exact hl.forget hk

/-- After its turn the call is at the lock where it waits, and at no other one. -/
def Turn.Leaves (id : TaskId) (r₀ : Registry) (t : Turn) : Prop :=
  Registry.Locked id t.1.lock? r₀ t.2.registry

theorem endReading_locked (hl : Registry.Locked id none r₀ b.registry) (h : ReaderHandle)
    (reading : Reading) (o : Outcome) : Turn.Leaves id r₀ (b.endReading h reading o) := by
  unfold endReading Turn.Leaves
  dsimp only
  split
  · exact hl.same (b.closeReader_locks h)
  · exact hl

theorem readChunk_locked (hl : Registry.Locked id none r₀ b.registry) (h : ReaderHandle)
    (reading : Reading) (c : Bytes) : Turn.Leaves id r₀ (b.readChunk h reading c) := by
  unfold readChunk
  split <;> exact hl

theorem deliver_locked (hl : Registry.Locked id (some h) r₀ b.registry)
    (hq : id ∉ (b.registry.reader h).lock.queue) (e : Reader) (reading : Reading) (f : Frame) :
    Turn.Leaves id r₀ (b.deliver h e reading f) := by
  cases f with
  | data c => exact readChunk_locked (leaveLock_locked hl hq) h reading c
  | finish =>
    have hx := Registry.SameLocks.exhaust b.registry h e
    exact endReading_locked
      (leaveLock_locked (b := b.withRegistry (b.registry.exhaust h e)) (hl.same hx) (hx.queue hq))
      h reading _
  | failure message =>
    have hc := b.closeReader_locks h
    exact endReading_locked (leaveLock_locked (hl.same hc) (hc.queue hq)) h reading _

theorem nextFrame_locked (hl : Registry.Locked id (some h) r₀ b.registry)
    (hq : id ∉ (b.registry.reader h).lock.queue) (e : Reader) (reading : Reading) :
    Turn.Leaves id r₀ (b.nextFrame id h e reading) := by
  unfold nextFrame
  dsimp only
  split
  · have hs := Registry.SameLocks.modifyReader b.registry h
      (F := fun s => { s with held := none }) fun _ => rfl
    exact deliver_locked (b := b.modifyReader h _) (hl.same hs) (hs.queue hq) e reading _
  · split
    · exact deliver_locked hl hq e reading .finish
    · split
      · exact endReading_locked (leaveLock_locked hl hq) h reading _
      · split
        · rename_i f rest _
          have hs := Registry.SameLocks.modifyReader b.registry h (F := fun s =>
            { s with channel := { s.channel with buffer := rest, roomWaiter := none } })
            fun _ => rfl
          refine deliver_locked ?_ ?_ e reading f <;> rw [wakeAll_registry]
          · exact hl.same hs
          · exact hs.queue hq
        · split
          · exact hl.same (.modifyReader b.registry h fun _ => rfl)
          · exact endReading_locked (leaveLock_locked hl hq) h reading _

theorem takeFrames_locks (b : Bridge) (h : ReaderHandle) (held : Option Frame)
    (rest : List Frame) : b.registry.SameLocks (b.takeFrames h held rest).registry := by
  unfold takeFrames
  dsimp only
  rw [wakeAll_registry]
  exact .modifyReader b.registry h fun _ => rfl

theorem takeAvailable_locked (hl : Registry.Locked id (some h) r₀ b.registry)
    (hq : id ∉ (b.registry.reader h).lock.queue) (e : Reader) :
    Turn.Leaves id r₀ (b.takeAvailable id h e) := by
  have htaken := b.takeFrames_locks h
  unfold takeAvailable
  dsimp only
  split
  · rename_i rest _
    have hs := (htaken none rest).trans
      (.exhaust (b.takeFrames h none rest).registry h e)
    exact leaveLock_locked (b := (b.takeFrames h none rest).withRegistry _) (hl.same hs)
      (hs.queue hq)
  · rename_i message rest _
    split
    · have hs := (htaken none rest).trans ((b.takeFrames h none rest).closeReader_locks h)
      exact leaveLock_locked (hl.same hs) (hs.queue hq)
    · have hs := htaken (some (.failure message)) rest
      exact leaveLock_locked (hl.same hs) (hs.queue hq)
  · split
    · exact nextFrame_locked hl hq e .available
    · have hs := htaken none (Channel.takeRun (b.registry.reader h).contents).2
      exact leaveLock_locked (hl.same hs) (hs.queue hq)

theorem readLocked_locked (hl : Registry.Locked id (some h) r₀ b.registry) (e : Reader)
    (reading : Reading) : Turn.Leaves id r₀ (b.readLocked id h e reading) := by
  unfold readLocked
  dsimp only
  split
  · rename_i hk
    have hq := Turnstile.not_mem_queue (hl.nodup h) hk
    split
    · exact endReading_locked (leaveLock_locked hl hq) h _ _
    · exact endReading_locked (leaveLock_locked hl hq) h _ _
    · exact takeAvailable_locked hl hq e
    · exact nextFrame_locked hl hq e _
  · exact hl

theorem read_locked (hl : Registry.Locked id none r₀ b.registry) (h : ReaderHandle)
    (reading : Reading) : Turn.Leaves id r₀ (b.read id h reading) := by
  unfold read
  split
  · exact endReading_locked hl h reading _
  · split
    · exact endReading_locked hl h reading _
    · exact endReading_locked hl h reading _
    · split
      · exact endReading_locked hl h reading _
      · exact readLocked_locked (b := b.modifyReader h _) hl.enter _ reading

/-! ## Turns -/

/-- The turn of a creation comes to no lock. -/
theorem creates_locks (b : Bridge) (id : TaskId) (hs : stage.creates = true) :
    b.registry.SameLocks (b.turn id stage).2.registry := by
  have hturn := b.turn_creates id hs
  have hdone : b.registry.SameLocks (b.does (b.errand stage)).registry := by
    rw [does_registry]
    exact .closeAll _ _
  generalize b.turn id stage = t at hturn ⊢
  cases hturn with
  | waits _ _ hl =>
    rw [hl.registry]
    exact hdone
  | fails _ hl =>
    rw [hl.registry, disown_registry]
    exact hdone
  | breaks _ hl =>
    rw [hl.registry]
    exact hdone
  | opens _ _ ha hl =>
    rw [hl.registry]
    exact hdone.trans (.adds (.opened ha))
  | creates _ _ ha hl =>
    rw [hl.registry]
    exact hdone.trans (.adds (.created ha))
  | executes _ _ ha hl =>
    rw [hl.registry, spawnOn_registry]
    exact hdone.trans (.adds (.executed ha))

/-- **What a turn does to the locks.** -/
theorem turn_locked (hk : HoldsLock b id (.call none stage))
    (hl : Registry.Locked id stage.lock? r₀ b.registry) :
    Turn.Leaves id r₀ (b.turn id stage) := by
  cases hc : stage.creates with
  | true =>
    have hnone : stage.lock? = none := by
      cases stage <;> first | rfl | cases hc
    rw [hnone] at hl
    exact (hl.same (b.creates_locks id hc)).anywhere
  | false =>
    cases hr : stage.reading? with
    | none =>
      have hnone : stage.lock? = none := by
        cases stage <;> first | rfl | cases hr
      have hsame : b.registry.SameLocks (b.turn id stage).2.registry := by
        rw [(b.other_level id hc hr).registry, closeAll_registry]
        exact .closeAll _ _
      rw [hnone] at hl
      exact (hl.same hsame).anywhere
    | some p =>
      cases stage with
      | fresh c =>
        cases c with
        | read h reading => exact read_locked hl h reading
        | _ => cases hr
      | awaitingTurn h e reading =>
        unfold turn
        dsimp only
        split
        · exact endReading_locked (giveUpLock_locked hl) h reading _
        · exact readLocked_locked hl e reading
      | awaitingFrame h e reading =>
        have hq := Turnstile.not_mem_queue (hl.nodup h) hk
        unfold turn
        dsimp only
        split
        · exact endReading_locked (leaveLock_locked hl hq) h reading _
        · exact nextFrame_locked hl hq e reading
      | _ => cases hr

/-! ## The locks between the turns -/

/-- Whoever has the lock of a reader or wants it is a call that waits there. -/
structure Locks (b : Bridge) : Prop where
  nodup : ∀ h, (b.registry.reader h).lock.members.Nodup
  waits : ∀ h id, id ∈ (b.registry.reader h).lock.members →
    (b.task? id).bind Task.lock? = some h

namespace Locks

/-- What leaves the locks alone leaves alone who waits there. -/
theorem same {who : Option TaskId} (hb : b.Locks) (hs : b.registry.SameLocks b'.registry)
    (hk : Kept who b b') (hw : ∀ id, who = some id → (b.task? id).bind Task.lock? = none) :
    b'.Locks where
  nodup x := hs.nodup (hb.nodup x)
  waits x i hi := by
    have hw' := hb.waits x i (hs.members hi)
    obtain ⟨t, ht, hlock⟩ := Option.bind_eq_some_iff.1 hw'
    have hne : some i ≠ who := fun h => nomatch (hw i h.symm).symm.trans hw'
    rw [hk.keeps i t hne ht]
    exact hlock

/-- A task is at one lock at most when its turn begins. -/
theorem begins (hb : b.Locks) {t : Task} (ht : b.task? id = some t)
    (hs : t.stage? = some stage) : Registry.Locked id stage.lock? b.registry b.registry where
  nodup := hb.nodup
  mine x hx := by
    have hw := hb.waits x id hx
    rw [ht] at hw
    exact Task.lock?_of_stage? hs ▸ hw
  others _ _ _ hi := hi

/-- The task is where it waits when its turn is over. -/
theorem ends {place : Option ReaderHandle} (hb : b.Locks)
    (hl : Registry.Locked id place b.registry b'.registry) (hk : Kept (some id) b b')
    (hp : ∀ h, place = some h → (b'.task? id).bind Task.lock? = some h) : b'.Locks where
  nodup := hl.nodup
  waits x i hi := by
    by_cases hid : i = id
    · subst hid
      exact hp x (hl.mine x hi)
    · obtain ⟨t, ht, hlock⟩ := Option.bind_eq_some_iff.1 (hb.waits x i (hl.others x i hid hi))
      rw [hk.keeps i t (fun h => hid (Option.some.inj h)) ht]
      exact hlock

end Locks

theorem pump_locks (b : Bridge) (id : TaskId) (h : ReaderHandle) (e : Reader) (stream : Stream)
    (inHand : Option Frame) : b.registry.SameLocks (b.pump id h e stream inHand).2.registry := by
  have hend : ∀ b : Bridge, b.registry.SameLocks (b.endPump h stream).2.registry := by
    intro b
    unfold endPump
    dsimp only
    rw [wakeAll_registry]
    exact .modifyReader b.registry h fun _ => rfl
  unfold pump
  split
  · exact hend b
  · cases inHand with
    | none =>
      dsimp only
      split <;> exact .refl _
    | some f =>
      dsimp only
      split
      · exact hend b
      · split
        · exact .modifyReader b.registry h fun _ => rfl
        · have hput : b.registry.SameLocks ((b.modifyReader h fun s =>
              { s with channel := { s.channel.push f with frameWaiter := none } }).wakeAll
                (b.registry.reader h).channel.frameWaiter.toList).registry := by
            rw [wakeAll_registry]
            exact .modifyReader b.registry h fun _ => rfl
          split
          · exact hput.trans (hend _)
          · exact hput

/-- **A turn of any task.** -/
theorem poll_locks (hok : BridgeOK b none none) (hb : b.Locks) (id : TaskId) :
    (b.poll id).2.Locks := by
  have hkept := (poll_steps hok id).toKept
  cases hs : (b.task? id).bind Task.stage? with
  | some stage =>
    obtain ⟨t, ht, hst⟩ := Option.bind_eq_some_iff.1 hs
    obtain ⟨-, -, hk⟩ := call_ok hok ht hst
    have hl : Registry.Locked id ((b.takeTurn id).turn id stage).1.lock? b.registry
        (b.poll id).2.registry := by
      rw [poll_call ht hst, pollCall_registry]
      exact turn_locked hk (hb.begins ht hst)
    refine hb.ends hl hkept fun x hx => ?_
    obtain ⟨o, hturn, -⟩ | ⟨s, hturn, -, hplace⟩ := poll_call_cases hok ht hst
    · rw [hturn] at hx
      cases hx
    · rw [hplace]
      rcases hturn with hturn | hturn <;> rw [hturn] at hx
      · exact hx
      · cases hx
  | none =>
    have hnone : (b.task? id).bind Task.lock? = none := by
      cases ht : b.task? id with
      | none => rfl
      | some t =>
        rw [ht, Option.bind_some] at hs
        cases t with
        | call envelope stage => cases hs
        | _ => rfl
    refine hb.same ?_ hkept fun i hi => Option.some.inj hi ▸ hnone
    unfold poll
    cases ht : b.task? id with
    | none => exact .refl _
    | some t =>
      rw [ht, Option.bind_some] at hs
      cases t with
      | call envelope stage => cases hs
      | payload text =>
        dsimp only
        split
        · exact .refl _
        · rename_i e he
          simp only [Task.stage?, he] at hs
          cases hs
      | pump h e stream inHand =>
        rw [afterBackground_registry]
        exact (b.takeTurn id).pump_locks id h e stream inHand
      | farewell client held left =>
        rw [afterBackground_registry,
          ((b.takeTurn id).farewell_level id client held left).registry, does_registry]
        exact .closeAll _ _

/-- A call that is given up gives up its lock, or its place in the queue for it. -/
theorem release_locked (hl : Registry.Locked id stage.lock? r₀ b.registry) :
    Registry.Locked id none r₀ (b.release id stage).registry := by
  have hclose : ∀ {c : Bridge} (h : ReaderHandle) (reading : Reading),
      Registry.Locked id none r₀ c.registry →
      Registry.Locked id none r₀
        (if reading.closesReader then c.closeReader h else c).registry := by
    intro c h reading hc
    split
    · exact hc.same (c.closeReader_locks h)
    · exact hc
  cases stage with
  | fresh c =>
    cases c with
    | read h reading => exact hclose h reading hl
    | _ => exact hl
  | awaitingTurn h e reading => exact hclose h reading (giveUpLock_locked hl)
  | awaitingFrame h e reading => exact hclose h reading (giveUpLock_locked hl)
  | _ => exact hl

/-- **A caller gives up.** -/
theorem abandon_locks (hok : BridgeOK b none none) (hb : b.Locks) (id : TaskId) :
    (b.abandon id).Locks := by
  have hkept := (abandon_steps hok id).toKept
  unfold abandon at hkept ⊢
  cases ht : b.task? id with
  | none => exact hb
  | some t =>
    rw [ht] at hkept
    cases t with
    | payload text =>
      refine hb.same (.refl _) hkept fun i hi => ?_
      rw [← Option.some.inj hi, ht]
      rfl
    | call request stage =>
      have hl := release_locked (b := b.conclude id) (hb.begins ht rfl)
      exact hb.ends hl hkept nofun
    | pump h e stream inHand => exact hb
    | farewell client held left => exact hb

/-- **Every event.** -/
theorem step_locks (hok : BridgeOK b none none) (hb : b.Locks) (e : Event) : (b.step e).Locks := by
  have hkept := (step_steps hok e).toKept
  cases e with
  | call c => exact hb.same (.refl _) hkept nofun
  | payload text => exact hb.same (.refl _) hkept nofun
  | close target =>
    refine hb.same ?_ hkept nofun
    show b.registry.SameLocks (b.close target).registry
    rw [close_registry]
    exact .close _ _
  | turn id => exact poll_locks hok hb id
  | abandon id => exact abandon_locks hok hb id
  | far act =>
    refine hb.same ?_ hkept nofun
    show b.registry.SameLocks (b.far act).registry
    rw [(b.far_level act).registry]
    exact .refl _
  | runtime available => exact hb.same (.refl _) hkept nofun

/-- **In every bridge that a run leads to**, whoever has the lock of a reader or wants it is a
call that waits there. -/
theorem Reachable.locks (hb : b.Reachable) : b.Locks := by
  induction hb with
  | start sessionIds hangs config hasRuntime => exact ⟨fun _ => List.nodup_nil, nofun⟩
  | step e hb ih => exact step_locks hb.ok ih e

end Bridge

end QueryBridge
