import QueryBridge.Proofs.Bridge.Locks
import QueryBridge.Proofs.Bridge.Tracking

/-!
# Who reads a reader

A call reads the same reader as long as it lasts. So nobody reads a reader whom
no event has made read it.

* `Bridge.turn_readsOn`: a turn of a call.
* `Bridge.step_readsNoMore`, `Bridge.after_readBy`: events and runs.
* `Bridge.ReadBy.members`: nobody else waits at the reader.
-/

namespace QueryBridge

/-- The reader that the call of a task reads. -/
def Task.reader? (t : Task) : Option ReaderHandle := t.stage?.bind Stage.reader?

/-- The reader that the call of an event is to read. -/
def Event.reader? : Event → Option ReaderHandle
  | .call c => c.reader?
  | .payload text => (Task.payload text).reader?
  | _ => none

theorem Task.reader?_of_inBackground {t : Task} (ht : t.inBackground = true) :
    t.reader? = none := by
  rw [reader?, stage?_of_inBackground ht]
  rfl

namespace Bridge

variable {b b' b'' : Bridge} {id : TaskId} {h : ReaderHandle} {t : Task}

/-! ## Turns -/

/-- A call that is not over after its turn reads this reader, or none. -/
def Turn.ReadsOn (reader : Option ReaderHandle) (t : Turn) : Prop :=
  ∀ s, t.1 = .waits s ∨ t.1 = .goesOn s → s.reader? = reader

theorem readsOn_of_ends {o : Outcome} {reader : Option ReaderHandle} (b : Bridge) :
    Turn.ReadsOn reader (.ends o, b) := fun s hs => by rcases hs with hs | hs <;> cases hs

theorem readsOn_of_waits {s : Stage} (b : Bridge) : Turn.ReadsOn s.reader? (.waits s, b) :=
  fun s' hs => by rcases hs with hs | hs <;> cases hs; rfl

theorem readChunk_readsOn (b : Bridge) (h : ReaderHandle) (reading : Reading) (c : Bytes) :
    Turn.ReadsOn (some h) (b.readChunk h reading c) := by
  unfold readChunk
  split
  · exact readsOn_of_ends b
  · intro s hs
    rcases hs with hs | hs <;> cases hs
    rfl

theorem deliver_readsOn (b : Bridge) (h : ReaderHandle) (e : Reader) (reading : Reading)
    (f : Frame) : Turn.ReadsOn (some h) (b.deliver h e reading f) := by
  cases f with
  | data c => exact readChunk_readsOn _ h reading c
  | finish => exact readsOn_of_ends _
  | failure message => exact readsOn_of_ends _

theorem nextFrame_readsOn (b : Bridge) (id : TaskId) (h : ReaderHandle) (e : Reader)
    (reading : Reading) : Turn.ReadsOn (some h) (b.nextFrame id h e reading) := by
  unfold nextFrame
  dsimp only
  split
  · exact deliver_readsOn _ h e reading _
  · split
    · exact deliver_readsOn _ h e reading _
    · split
      · exact readsOn_of_ends _
      · split
        · exact deliver_readsOn _ h e reading _
        · split
          · exact readsOn_of_waits _
          · exact readsOn_of_ends _

theorem takeAvailable_readsOn (b : Bridge) (id : TaskId) (h : ReaderHandle) (e : Reader) :
    Turn.ReadsOn (some h) (b.takeAvailable id h e) := by
  unfold takeAvailable
  dsimp only
  split
  · exact readsOn_of_ends _
  · split <;> exact readsOn_of_ends _
  · split
    · exact nextFrame_readsOn b id h e _
    · exact readsOn_of_ends _

theorem readLocked_readsOn (b : Bridge) (id : TaskId) (h : ReaderHandle) (e : Reader)
    (reading : Reading) : Turn.ReadsOn (some h) (b.readLocked id h e reading) := by
  unfold readLocked
  dsimp only
  split
  · split
    · exact readsOn_of_ends _
    · exact readsOn_of_ends _
    · exact takeAvailable_readsOn b id h e
    · exact nextFrame_readsOn b id h e _
  · exact readsOn_of_waits _

theorem read_readsOn (b : Bridge) (id : TaskId) (h : ReaderHandle) (reading : Reading) :
    Turn.ReadsOn (some h) (b.read id h reading) := by
  unfold read
  split
  · exact readsOn_of_ends _
  · split
    · exact readsOn_of_ends _
    · exact readsOn_of_ends _
    · split
      · exact readsOn_of_ends _
      · exact readLocked_readsOn _ id h _ reading

theorem closed_readsOn (p : Except Failure Unit × Bridge) : Turn.ReadsOn none (closed p) := by
  obtain ⟨result, b⟩ := p
  cases result <;> exact readsOn_of_ends b

theorem settle_readsOn (b : Bridge) (id : TaskId) : Turn.ReadsOn none (b.settle id) := by
  unfold settle
  dsimp only
  split
  · exact readsOn_of_ends _
  · exact readsOn_of_waits (s := .draining) _

/-- **A call reads the same reader after its turn.** -/
theorem turn_readsOn (b : Bridge) (id : TaskId) (stage : Stage) :
    Turn.ReadsOn stage.reader? (b.turn id stage) := by
  cases hc : stage.creates with
  | true =>
    -- what is to be created is no reading
    intro s hs
    obtain ⟨hawaits, -⟩ := (b.turn_creates id hc).stays hs
    have hs' : s.reader? = none := by cases s <;> first | rfl | cases hawaits
    have hstage : stage.reader? = none := by
      cases stage with
      | fresh c => cases c <;> first | rfl | cases hc
      | _ => first | rfl | cases hc
    rw [hs', hstage]
  | false =>
    cases stage with
    | fresh c =>
      cases c with
      | read h reading => exact b.read_readsOn id h reading
      | closeConnection c => exact closed_readsOn _
      | closeSession s => exact closed_readsOn _
      | closeReader h => exact readsOn_of_ends _
      | settle => exact b.settle_readsOn id
      | shutdown => exact settle_readsOn _ id
      | _ => cases hc
    | awaitingTurn h e reading =>
      unfold turn
      dsimp only
      split
      · exact readsOn_of_ends _
      · exact b.readLocked_readsOn id h e reading
    | awaitingFrame h e reading =>
      unfold turn
      dsimp only
      split
      · exact readsOn_of_ends _
      · exact b.nextFrame_readsOn id h e reading
    | draining =>
      show Turn.ReadsOn none (b.drain id)
      unfold drain
      split
      · exact readsOn_of_ends _
      · exact readsOn_of_waits (s := .draining) b
    | _ => cases hc

/-! ## Tasks -/

/-- Whoever reads the reader in the second bridge has read it in the first one. -/
def ReadsNoMore (h : ReaderHandle) (b b' : Bridge) : Prop :=
  ∀ p ∈ b'.tasks, p.2.reader? = some h → ∃ q ∈ b.tasks, q.1 = p.1 ∧ q.2.reader? = some h

namespace ReadsNoMore

theorem of_subset (ht : b'.tasks ⊆ b.tasks) : ReadsNoMore h b b' :=
  fun p hp hr => ⟨p, ht hp, rfl, hr⟩

theorem trans (hr : ReadsNoMore h b b') (hr' : ReadsNoMore h b' b'') : ReadsNoMore h b b'' := by
  intro p hp hread
  obtain ⟨q, hq, hqp, hread'⟩ := hr' p hp hread
  obtain ⟨q', hq', hqq, hread''⟩ := hr q hq hread'
  exact ⟨q', hq', hqq.trans hqp, hread''⟩

theorem of_spawns (hs : Spawns b b') : ReadsNoMore h b b' := by
  obtain ⟨new, ht, hnew, -⟩ := hs.work
  intro p hp hread
  rw [ht] at hp
  rcases List.mem_append.1 hp with hp | hp
  · exact ⟨p, hp, rfl, hread⟩
  · rw [Task.reader?_of_inBackground (hnew p hp)] at hread
    cases hread

theorem conclude (b : Bridge) (id : TaskId) : ReadsNoMore h b (b.conclude id) :=
  of_subset fun _ hp => (List.mem_filter.1 hp).1

theorem setTask (hr : t.reader? = some h → ∃ q ∈ b.tasks, q.1 = id ∧ q.2.reader? = some h) :
    ReadsNoMore h b (b.setTask id t) := by
  intro p hp hread
  obtain ⟨q, hq, rfl⟩ := List.mem_map.1 hp
  by_cases hid : q.1 = id
  · rw [if_pos hid] at hread ⊢
    exact hr hread
  · rw [if_neg hid] at hread ⊢
    exact ⟨q, hq, rfl, hread⟩

end ReadsNoMore

/-- While a call has its turn, only work in the background is started. -/
theorem turn_readsNoMore (b : Bridge) (id : TaskId) (stage : Stage) :
    ReadsNoMore h b (b.turn id stage).2 := by
  -- a drain starts what the closes before it start
  have hsettle : ∀ b₁, Spawns b b₁ → ReadsNoMore h b (b₁.settle id).2 := by
    intro b₁ hs
    have htracker : ReadsNoMore h b { b₁ with tracker := b₁.tracker.shut.2 } :=
      (ReadsNoMore.of_spawns hs).trans (.of_subset fun _ hp => hp)
    have hshut := htracker.trans (.of_spawns (wakeAll_spawns b₁.tracker.shut.1 _))
    unfold settle
    dsimp only
    split
    · exact hshut.trans (.of_subset fun _ hp => hp)
    · exact hshut.trans (.of_subset fun _ hp => hp)
  cases hd : stage.drains with
  | false => exact .of_spawns (b.turn_spawns id hd)
  | true =>
    cases stage with
    | fresh c =>
      cases c with
      | settle => exact hsettle b (.refl b)
      | shutdown => exact hsettle _ (closeConnections_spawns _ b)
      | _ => cases hd
    | draining =>
      show ReadsNoMore h b (b.drain id).2
      unfold drain
      split <;> exact .of_subset fun _ hp => hp
    | _ => cases hd

/-- Work in the background reads nothing. -/
theorem afterBackground_readsNoMore {p : Progress Task Unit × Bridge}
    (hplace : ∀ t, p.1 = .waits t ∨ p.1 = .goesOn t → t.inBackground = true) :
    ReadsNoMore h p.2 (afterBackground id p) := by
  have hset : ∀ t, t.inBackground = true → ReadsNoMore h p.2 (p.2.setTask id t) := fun t ht =>
    .setTask fun hread => nomatch (Task.reader?_of_inBackground ht).symm.trans hread
  obtain ⟨q, b⟩ := p
  cases q with
  | ends u =>
    have htracker : ReadsNoMore h b { b.conclude id with tracker := b.tracker.finished.2 } :=
      (ReadsNoMore.conclude b id).trans (.of_subset fun _ hp => hp)
    exact htracker.trans (.of_spawns (wakeAll_spawns b.tracker.finished.1 _))
  | waits t => exact hset t (hplace t (.inl rfl))
  | goesOn t => exact (hset t (hplace t (.inr rfl))).trans (.of_spawns (goOn_spawns _ id))

/-- **A turn of any task.** -/
theorem poll_readsNoMore (hb : BridgeOK b none none) (id : TaskId) :
    ReadsNoMore h b (b.poll id).2 := by
  cases hs : (b.task? id).bind Task.stage? with
  | some stage =>
    obtain ⟨t, ht, hst⟩ := Option.bind_eq_some_iff.1 hs
    have hturn : ReadsNoMore h b ((b.takeTurn id).turn id stage).2 :=
      (b.takeTurn id).turn_readsNoMore id stage
    have hreads := (b.takeTurn id).turn_readsOn id stage
    -- the turn leaves the task where it is
    have hlive : ((b.takeTurn id).turn id stage).2.task? id = some t := by
      obtain ⟨hok, ns, hm, -, -⟩ := call_turned hb ht hst
      have hkept : Kept none _ _ := hm.kept hok
      exact hkept.keeps id t nofun ht
    rw [poll_call ht hst]
    unfold pollCall
    generalize (b.takeTurn id).turn id stage = r at hturn hreads hlive ⊢
    obtain ⟨p, b₁⟩ := r
    have hset : ∀ s, p = .waits s ∨ p = .goesOn s →
        ReadsNoMore h b (b₁.setTask id (.call t.request? s)) := fun s hs =>
      hturn.trans (.setTask fun hread => ⟨_, mem_of_task? hlive, rfl, by
        rw [Task.reader?, hst]
        exact (hreads s hs).symm.trans hread⟩)
    cases p with
    | ends o => exact hturn.trans (.conclude b₁ id)
    | waits s =>
      dsimp only
      split
      · exact (hset s (.inl rfl)).trans (.of_spawns (wake_spawns _ id))
      · exact hset s (.inl rfl)
    | goesOn s => exact (hset s (.inr rfl)).trans (.of_spawns (goOn_spawns _ id))
  | none =>
    rcases poll_of_no_call hs with hp | ⟨text, -, hp⟩ | ⟨x, e, stream, frame, -, hp⟩ |
      ⟨client, held, left, -, hp⟩ <;> rw [hp]
    · exact .of_subset fun _ hp => hp
    · exact .conclude (b.takeTurn id) id
    · refine (ReadsNoMore.of_spawns ((b.takeTurn id).pump_spawns id x e stream frame)).trans
        (afterBackground_readsNoMore fun t ht => ?_)
      obtain ⟨stream', frame', rfl⟩ := (pump_pumped _ id x e stream frame).place ht
      rfl
    · refine (ReadsNoMore.of_spawns ((b.takeTurn id).farewell_spawns id client held left)).trans
        (afterBackground_readsNoMore fun t ht => ?_)
      obtain ⟨held', left', rfl⟩ := farewell_place _ id client held left ht
      rfl

theorem abandon_readsNoMore (b : Bridge) (id : TaskId) : ReadsNoMore h b (b.abandon id) := by
  unfold abandon
  split
  · exact .conclude b id
  · rename_i request stage ht
    refine (ReadsNoMore.conclude b id).trans ?_
    by_cases hs : stage = .draining
    · subst hs
      exact .of_subset fun _ hp => hp
    · exact .of_spawns (release_spawns _ id hs)
  · exact .of_subset fun _ hp => hp

/-- **An event that is no reading of the reader.** -/
theorem step_readsNoMore (hb : BridgeOK b none none) {e : Event} (he : e.reader? ≠ some h) :
    ReadsNoMore h b (b.step e) := by
  -- a new call reads what it is to read
  have hsubmit : ∀ t : Task, t.reader? ≠ some h → ReadsNoMore h b (b.submit t).2 := by
    intro t ht p hp hread
    rcases List.mem_append.1 hp with hp | hp
    · exact ⟨p, hp, rfl, hread⟩
    · rw [List.mem_singleton.1 hp] at hread
      exact absurd hread ht
  cases e with
  | call c => exact hsubmit _ he
  | payload text => exact hsubmit _ he
  | close target => exact .of_spawns (b.close_spawns target)
  | turn id => exact poll_readsNoMore hb id
  | abandon id => exact b.abandon_readsNoMore id
  | far act => exact .of_spawns (b.far_spawns act)
  | runtime x => exact .of_spawns (b.withRuntime_spawns x)

/-- Only this task reads the reader. -/
def ReadBy (b : Bridge) (h : ReaderHandle) (id : TaskId) : Prop :=
  ∀ p ∈ b.tasks, p.2.reader? = some h → p.1 = id

/-- Only the task that reads the reader can have its lock. -/
theorem ReadBy.members (hb : b.Reachable) (hr : b.ReadBy h id) :
    ∀ i ∈ (b.registry.reader h).lock.members, i = id := by
  intro i hi
  obtain ⟨t, ht, hlock⟩ := Option.bind_eq_some_iff.1 (hb.locks.waits h i hi)
  refine hr _ (mem_of_task? ht) ?_
  cases t with
  | call request stage => cases stage <;> first | exact hlock | cases hlock
  | _ => cases hlock

/-- **A run without another reading of the reader.** -/
theorem after_readBy (hb : BridgeOK b none none) (hr : b.ReadBy h id) (es : List Event)
    (hes : ∀ e ∈ es, e.reader? ≠ some h) : (b.after es).ReadBy h id := by
  induction es generalizing b with
  | nil => exact hr
  | cons e es ih =>
    refine ih (step_steps hb e).ok (fun p hp hread => ?_)
      fun e' he' => hes e' (List.mem_cons_of_mem _ he')
    obtain ⟨q, hq, hqp, hread'⟩ := step_readsNoMore hb (hes e List.mem_cons_self) p hp hread
    exact hqp ▸ hr q hq hread'

end Bridge

end QueryBridge
