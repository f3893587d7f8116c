import QueryBridge.Proofs.Bridge.Replies
import QueryBridge.Proofs.Bridge.Spawning

/-!
# What the tracker knows

The tracker counts the work in the background, and lists the drains that have
not been woken. Every event keeps that true, and does to the drains one of five
things.

* `Bridge.Tracked`: what the tracker knows.
* `Bridge.Tends`: what an event does to the drains.
* `step_tends`, `Bridge.Reachable.tracked`: every event, and every run.
-/

namespace QueryBridge

variable {b b' : Bridge} {id x : TaskId} {me : Option TaskId} {t t' : Task} {stage : Stage}

/-- Only a call waits until nothing is under way. -/
theorem Task.stage?_draining (h : t.stage? = some .draining) :
    ∃ request, t = .call request .draining := by
  cases t with
  | payload text =>
    obtain ⟨e, -, he⟩ := Option.map_eq_some_iff.1 h
    cases he
  | call request stage =>
    obtain rfl := Option.some.inj h
    exact ⟨request, rfl⟩
  | pump h e stream frame => cases h
  | farewell client held left => cases h

theorem Task.payload_not_draining (text : String) :
    (Task.payload text).stage? ≠ some .draining := by
  intro h
  obtain ⟨request, hcall⟩ := Task.stage?_draining h
  cases hcall

/-- Work in the background is no call. -/
theorem Task.stage?_of_inBackground (h : t.inBackground = true) : t.stage? = none := by
  cases t with
  | payload text => cases h
  | call request stage => cases h
  | pump h e stream frame => rfl
  | farewell client held left => rfl

/-- A call is no work in the background. -/
theorem Task.not_inBackground (h : t.stage? = some stage) : t.inBackground = false := by
  rw [Bool.eq_false_iff]
  intro hbg
  rw [Task.stage?_of_inBackground hbg] at h
  cases h

namespace Bridge

/-- The work in the background that is under way. -/
def background (b : Bridge) : List TaskId :=
  (b.tasks.filter (·.2.inBackground)).map Prod.fst

/-- A call waits until nothing is under way in the background. -/
def Drains (b : Bridge) (id : TaskId) : Prop := (b.task? id).bind Task.stage? = some .draining

/-- What the tracker knows. Of the task whose turn it is, nothing is said of the queue. -/
structure Tracked (b : Bridge) (me : Option TaskId) : Prop where
  /-- All that is under way is counted. -/
  counted : b.tracker.active = b.background.length
  once : b.tracker.waiting.Nodup
  drains : ∀ id ∈ b.tracker.waiting, b.Drains id
  /-- Whoever is not in the list was woken. -/
  woken : ∀ id, b.Drains id → some id ≠ me → id ∈ b.tracker.waiting ∨ id ∈ b.ready
  /-- All have been woken where the tracker is shut and nothing is under way. -/
  told : b.tracker.isShut = true → b.tracker.active = 0 → b.tracker.waiting = []

theorem Drains.call (h : b.Drains id) : ∃ request, b.task? id = some (.call request .draining) := by
  obtain ⟨t, ht, hs⟩ := Option.bind_eq_some_iff.1 h
  obtain ⟨request, rfl⟩ := Task.stage?_draining hs
  exact ⟨request, ht⟩

theorem drains_iff (ht : b.task? id = some t) : b.Drains id ↔ t.stage? = some .draining := by
  rw [Drains, ht, Option.bind_some]

theorem drains_congr (h : b'.task? id = b.task? id) : b'.Drains id ↔ b.Drains id := by
  rw [Drains, Drains, h]

/-- Work is in the background if it is listed there. -/
theorem mem_background (ht : b.task? id = some t) (hbg : t.inBackground = true) :
    id ∈ b.background :=
  List.mem_map.2 ⟨(id, t), List.mem_filter.2 ⟨mem_of_task? ht, hbg⟩, rfl⟩

theorem task?_of_mem_background (hn : (b.tasks.map Prod.fst).Nodup) (h : id ∈ b.background) :
    ∃ t, b.task? id = some t ∧ t.inBackground = true := by
  obtain ⟨p, hp, rfl⟩ := List.mem_map.1 h
  obtain ⟨hp, hbg⟩ := List.mem_filter.1 hp
  exact ⟨p.2, task?_of_mem hn hp, hbg⟩

/-! ## Work that is started -/

namespace Spawns

/-- What was started is under way in the background. -/
theorem background (h : Spawns b b') : ∃ ids, b'.background = b.background ++ ids ∧
    b'.tracker.active = b.tracker.active + ids.length := by
  obtain ⟨new, ht, hnew, -, -, hk⟩ := h.work
  refine ⟨new.map Prod.fst, ?_, ?_⟩
  · unfold Bridge.background
    rw [ht, List.filter_append, List.filter_eq_self.2 hnew, List.map_append]
  · rw [hk, List.length_map]

/-- What was started is no drain. -/
theorem drains_iff (h : Spawns b b') : b'.Drains x ↔ b.Drains x := by
  cases ht : b.task? x with
  | some t => exact drains_congr ((h.keeps ht).trans ht.symm)
  | none =>
    obtain ⟨new, htasks, hnew, -⟩ := h.work
    refine ⟨fun hx => ?_, fun hx => ?_⟩
    · obtain ⟨request, hcall⟩ := hx.call
      have hlookup : b'.tasks.lookup x = new.lookup x := by
        have hnone : b.tasks.lookup x = none := ht
        rw [htasks, List.lookup_append, hnone, Option.none_or]
      obtain ⟨l₁, l₂, hl, -⟩ := List.lookup_eq_some_iff.1 (hlookup.symm.trans hcall)
      have hbg := hnew (x, .call request .draining) (by rw [hl]; simp)
      cases hbg
    · obtain ⟨request, hcall⟩ := hx.call
      rw [ht] at hcall
      cases hcall

theorem tracked (h : Spawns b b') (hb : b.Tracked me) : b'.Tracked me := by
  obtain ⟨ids, hbackground, hactive⟩ := h.background
  refine ⟨?_, ?_, ?_, ?_, ?_⟩
  · rw [hactive, hbackground, List.length_append, hb.counted]
  · rw [h.waiting]
    exact hb.once
  · intro x hx
    rw [h.waiting] at hx
    exact h.drains_iff.2 (hb.drains x hx)
  · intro x hx hme
    rw [h.waiting]
    rcases hb.woken x (h.drains_iff.1 hx) hme with hw | hr
    · exact .inl hw
    · exact .inr (h.ready hr)
  · intro hshut hidle
    rw [h.waiting]
    rw [h.isShut] at hshut
    exact hb.told hshut (by omega)

end Spawns

theorem goOn_spawns (b : Bridge) (id : TaskId) : Spawns b (b.goOn id) := by
  refine .of_eq rfl rfl rfl (fun x hx => ?_) (Nat.le_refl _)
  by_cases hid : x = id
  · exact hid ▸ List.mem_cons_self
  · exact List.mem_cons_of_mem _ ((List.mem_erase_of_ne hid).2 hx)

/-! ## The beginning and the end of a turn -/

theorem takeTurn_tracked (hb : b.Tracked none) (id : TaskId) :
    (b.takeTurn id).Tracked (some id) where
  counted := hb.counted
  once := hb.once
  drains := hb.drains
  woken x hx hme := by
    rcases hb.woken x hx nofun with hw | hr
    · exact .inl hw
    · exact .inr ((List.mem_erase_of_ne fun he => hme (congrArg some he)).2 hr)
  told := hb.told

/-- A task that comes to another place stays in the background, or out of it. -/
theorem setTask_background (hn : (b.tasks.map Prod.fst).Nodup) (ht : b.task? id = some t)
    (hbg : t'.inBackground = t.inBackground) : (b.setTask id t').background = b.background := by
  obtain ⟨l₁, l₂, hl, -, hset⟩ := tasks_split hn ht
  unfold background
  rw [hset, hl, List.filter_append, List.filter_append, List.filter_cons, List.filter_cons, hbg]
  split <;> simp only [List.map_append, List.map_cons]

theorem conclude_background (hn : (b.tasks.map Prod.fst).Nodup) (ht : b.task? id = some t) :
    b.background.length = (b.conclude id).background.length + t.inBackground.toNat := by
  obtain ⟨l₁, l₂, hl, hconclude, -⟩ := tasks_split hn ht
  unfold background
  rw [hconclude, hl, List.filter_append, List.filter_append, List.filter_cons]
  cases h : t.inBackground with
  | true => simp [Nat.add_assoc]
  | false => simp

/-- A task that is no drain comes to another place. -/
theorem setTask_tracked (hb : b.Tracked (some id)) (hn : (b.tasks.map Prod.fst).Nodup)
    (ht : b.task? id = some t) (hs : t.stage? ≠ some .draining)
    (hs' : t'.stage? ≠ some .draining) (hbg : t'.inBackground = t.inBackground) :
    (b.setTask id t').Tracked none := by
  have hdrains : ∀ x, (b.setTask id t').Drains x ↔ b.Drains x := by
    intro x
    by_cases hx : x = id
    · subst hx
      rw [drains_iff ht, drains_iff (task?_setTask ht t')]
      exact ⟨fun h => absurd h hs', fun h => absurd h hs⟩
    · exact drains_congr (task?_setTask_of_ne hx b t')
  refine ⟨?_, hb.once, fun x hx => (hdrains x).2 (hb.drains x hx), ?_, hb.told⟩
  · rw [setTask_background hn ht hbg]
    exact hb.counted
  · intro x hx _
    have hdx := (hdrains x).1 hx
    refine hb.woken x hdx fun he => ?_
    obtain rfl := Option.some.inj he
    exact hs ((drains_iff ht).1 hdx)

/-- The drains are the same when a task is over that was none. -/
theorem conclude_drains (ht : b.task? id = some t) (hs : t.stage? ≠ some .draining) :
    (b.conclude id).Drains x ↔ b.Drains x := by
  by_cases hx : x = id
  · subst hx
    rw [drains_iff ht, Drains, task?_conclude]
    exact ⟨nofun, fun h => absurd h hs⟩
  · exact drains_congr (task?_conclude_of_ne hx b)

/-- A task that is over waits no more. -/
theorem ne_of_conclude_drains (hx : (b.conclude id).Drains x) : x ≠ id := by
  rintro rfl
  rw [Drains, task?_conclude] at hx
  cases hx

/-- A task that is over leaves the other ones in the queue. -/
theorem conclude_woken (hb : b.Tracked me) (hme : ∀ x, some x = me → x = id)
    (hx : b.Drains x) (hne : x ≠ id) :
    x ∈ (b.conclude id).tracker.waiting ∨ x ∈ (b.conclude id).ready := by
  rcases hb.woken x hx fun he => hne (hme x he) with hw | hr
  · exact .inl hw
  · exact .inr ((List.mem_erase_of_ne hne).2 hr)

/-- A task is over that is no drain, and not in the background. -/
theorem conclude_tracked (hb : b.Tracked me) (hme : ∀ x, some x = me → x = id)
    (hn : (b.tasks.map Prod.fst).Nodup) (ht : b.task? id = some t)
    (hs : t.stage? ≠ some .draining) (hbg : t.inBackground = false) :
    (b.conclude id).Tracked none := by
  have hlength := conclude_background hn ht
  rw [hbg] at hlength
  refine ⟨?_, hb.once, fun x hx => (conclude_drains ht hs).2 (hb.drains x hx), ?_, hb.told⟩
  · exact hb.counted.trans hlength
  · intro x hx _
    exact conclude_woken hb hme ((conclude_drains ht hs).1 hx) (ne_of_conclude_drains hx)

/-! ## Waking -/

@[simp] theorem wakeAll_tracker (ids : List TaskId) (b : Bridge) :
    (b.wakeAll ids).tracker = b.tracker := by
  induction ids generalizing b with
  | nil => rfl
  | cons id ids ih =>
    show ((b.wake id).wakeAll ids).tracker = _
    rw [ih]
    unfold wake
    split <;> rfl

/-- Whoever is woken and not over can go on. -/
theorem mem_wakeAll {ids : List TaskId} (hx : x ∈ ids) (ht : b.task? x = some t) :
    x ∈ (b.wakeAll ids).ready := by
  induction ids generalizing b with
  | nil => cases hx
  | cons id ids ih =>
    show x ∈ ((b.wake id).wakeAll ids).ready
    have haside := b.wake_aside id
    rcases List.mem_cons.1 hx with rfl | hx
    · refine (wakeAll_spawns ids _).ready ?_
      unfold wake
      split
      · exact List.mem_append_right _ (List.mem_singleton_self x)
      · rename_i hno
        rw [ht, Option.isSome_some, Bool.true_and, Bool.not_eq_true', Bool.not_eq_false,
          List.contains_iff_mem] at hno
        exact hno
    · exact ih hx ((haside.task? x).trans ht)

/-- Where nothing is under way, all drains may have been woken. -/
theorem tracked_of_idle (hidle : b.tracker.active = 0) (hnone : b.background = [])
    (hempty : b.tracker.waiting = []) (hready : ∀ x, b.Drains x → some x ≠ me → x ∈ b.ready) :
    b.Tracked me where
  counted := by rw [hidle, hnone, List.length_nil]
  once := by
    rw [hempty]
    exact List.nodup_nil
  drains x hx := by
    rw [hempty] at hx
    cases hx
  woken x hx hme := .inr (hready x hx hme)
  told _ _ := hempty

theorem Tracked.idle (hb : b.Tracked me) (hidle : b.tracker.active = 0) : b.background = [] :=
  List.eq_nil_of_length_eq_zero (hb.counted ▸ hidle)

theorem wakeAll_background (ids : List TaskId) (b : Bridge) :
    (b.wakeAll ids).background = b.background := by
  unfold background
  rw [(wakeAll_aside ids b).tasks]

/-- All drains that waited are woken, since nothing is under way. -/
theorem wakeAll_tracked {ids : List TaskId} (hidle : b.tracker.active = 0)
    (hnone : b.background = []) (hempty : b.tracker.waiting = [])
    (hready : ∀ x, b.Drains x → some x ≠ me → x ∈ ids ∨ x ∈ b.ready) :
    (b.wakeAll ids).Tracked me := by
  have hspawns := wakeAll_spawns ids b
  refine tracked_of_idle ?_ ?_ ?_ fun x hx hme => ?_
  · rw [wakeAll_tracker, hidle]
  · rw [wakeAll_background, hnone]
  · rw [wakeAll_tracker, hempty]
  · have hx₀ := hspawns.drains_iff.1 hx
    rcases hready x hx₀ hme with hw | hr
    · obtain ⟨request, hcall⟩ := hx₀.call
      exact mem_wakeAll hw hcall
    · exact hspawns.ready hr

/-- **Work in the background is over.** The last one wakes the drains if it finds
the tracker shut. -/
theorem concludeBackground_tracked (hb : b.Tracked (some id)) (hn : (b.tasks.map Prod.fst).Nodup)
    (ht : b.task? id = some t) (hbg : t.inBackground = true) :
    (b.concludeBackground id).Tracked none ∧
      ((b.concludeBackground id).tracker.isShut = b.tracker.isShut ∧
          (b.concludeBackground id).tracker.waiting = b.tracker.waiting ∨
        (b.concludeBackground id).tracker.waiting = [] ∧
          (b.concludeBackground id).background = []) := by
  have hs : t.stage? ≠ some .draining := by
    rw [Task.stage?_of_inBackground hbg]
    nofun
  have hlength : b.tracker.active = (b.conclude id).background.length + 1 := by
    have hlength := conclude_background hn ht
    rwa [hbg, ← hb.counted] at hlength
  have hother : ∀ x, (b.conclude id).Drains x →
      x ∈ b.tracker.waiting ∨ x ∈ (b.conclude id).ready := fun x hx =>
    conclude_woken hb (fun _ => Option.some.inj) ((conclude_drains ht hs).1 hx)
      (ne_of_conclude_drains hx)
  unfold concludeBackground Tracker.finished
  dsimp only
  split
  -- the last one: all that waited are in the queue now
  · rename_i hlast
    have hone : b.tracker.active = 1 := of_decide_eq_true (Bool.and_eq_true_iff.1 hlast).2
    have hnone : (b.conclude id).background = [] := List.eq_nil_of_length_eq_zero (by omega)
    have hidle : b.tracker.active - 1 = 0 := by omega
    refine ⟨wakeAll_tracked hidle hnone rfl fun x hx _ => hother x hx, .inr ⟨?_, ?_⟩⟩
    · exact congrArg Tracker.waiting (wakeAll_tracker _ _)
    · exact (wakeAll_background _ _).trans hnone
  · rename_i hmore
    refine ⟨⟨?_, hb.once, ?_, fun x hx _ => hother x hx, ?_⟩, .inl ⟨rfl, rfl⟩⟩
    · show b.tracker.active - 1 = (b.conclude id).background.length
      omega
    · exact fun x hx => (conclude_drains ht hs).2 (hb.drains x hx)
    · intro hshut hidle
      have hone : b.tracker.active = 1 := by
        change b.tracker.active - 1 = 0 at hidle
        omega
      refine absurd ?_ hmore
      rw [Bool.and_eq_true]
      exact ⟨hshut, decide_eq_true hone⟩

/-! ## What an event does to the drains -/

/-- **What an event does to the drains.** -/
inductive Tends (b b' : Bridge) : Event → Prop
  | keeps (e : Event) : b'.tracker.isShut = b.tracker.isShut →
    b'.tracker.waiting = b.tracker.waiting → Tends b b' e
  /-- All of them are woken, since nothing is under way. -/
  | wakes (e : Event) : b'.tracker.waiting = [] → b'.background = [] → Tends b b' e
  /-- A drain shuts the tracker and waits. -/
  | waits (id : TaskId) : b'.tracker.isShut = true →
    b'.tracker.waiting = b.tracker.waiting ++ [id] → Tends b b' (.turn id)
  /-- A drain that was woken ends, and opens the tracker. -/
  | opens (id : TaskId) : b.Drains id → id ∉ b.tracker.waiting → b'.tracker.isShut = false →
    b'.tracker.waiting = b.tracker.waiting → Tends b b' (.turn id)
  /-- The caller of a drain gives up. -/
  | forgets (id : TaskId) : b'.tracker.isShut = b.tracker.isShut →
    b'.tracker.waiting = b.tracker.waiting.erase id → Tends b b' (.abandon id)

theorem Spawns.tends (h : Spawns b b') (e : Event) : Tends b b' e := .keeps e h.isShut h.waiting

/-! ## Turns of drains -/

/-- A drain ends at once where nothing is under way, and whoever waited is woken. -/
theorem settle_idle (hb : b.Tracked (some id)) (hidle : b.tracker.active = 0) :
    (b.settle id).1 = .ends (.replied .done) ∧ (b.settle id).2.Tracked (some id) ∧
      (b.settle id).2.tracker = ⟨false, 0, []⟩ ∧ (b.settle id).2.tasks = b.tasks := by
  have hnone := hb.idle hidle
  -- in a tracker that is shut nobody waits any more
  have hshut : b.tracker.shut = (b.tracker.waiting, ⟨true, 0, []⟩) := by
    unfold Tracker.shut Tracker.wakeAll
    cases hs : b.tracker.isShut with
    | true => simp [hidle, hb.told hs hidle]
    | false => simp [hidle]
  have hwoken : ({ b with tracker := ⟨true, 0, []⟩ }.wakeAll b.tracker.waiting).Tracked (some id) :=
    wakeAll_tracked rfl hnone rfl hb.woken
  have htasks := (wakeAll_aside b.tracker.waiting { b with tracker := ⟨true, 0, []⟩ }).tasks
  have htracker := wakeAll_tracker b.tracker.waiting { b with tracker := ⟨true, 0, []⟩ }
  unfold settle
  rw [hshut]
  dsimp only
  generalize { b with tracker := ⟨true, 0, []⟩ }.wakeAll b.tracker.waiting = b₁
    at hwoken htasks htracker ⊢
  have hdrained : b₁.tracker.isDrained = true := by
    rw [htracker]
    rfl
  rw [if_pos hdrained]
  have hopened : (b₁.tracker.forget id).reopen = ⟨false, 0, []⟩ := by
    rw [htracker]
    rfl
  unfold endDrain
  rw [hopened]
  have hready : ∀ x, b₁.Drains x → some x ≠ some id → x ∈ b₁.ready := by
    intro x hx hme
    refine (hwoken.woken x hx hme).resolve_left fun hw => ?_
    rw [htracker] at hw
    cases hw
  have hidle₁ : b₁.tracker.active = 0 := congrArg Tracker.active htracker
  exact ⟨rfl, tracked_of_idle rfl (hwoken.idle hidle₁) rfl hready, rfl, htasks⟩

/-- A drain waits where something is under way. -/
theorem settle_busy (b : Bridge) (id : TaskId) (hbusy : b.tracker.active ≠ 0) :
    b.settle id = (.waits .draining,
      { b with tracker := ⟨true, b.tracker.active, b.tracker.waiting ++ [id]⟩ }) := by
  have hshut : b.tracker.shut = ([], ⟨true, b.tracker.active, b.tracker.waiting⟩) := by
    unfold Tracker.shut
    simp [hbusy]
  have hno : Tracker.isDrained ⟨true, b.tracker.active, b.tracker.waiting⟩ = false := by
    simp [Tracker.isDrained, hbusy]
  unfold settle
  rw [hshut]
  exact if_neg (Bool.eq_false_iff.1 hno)

/-- A drain that has not been woken goes on waiting. -/
theorem drain_waits (hb : b.Tracked me) (hw : id ∈ b.tracker.waiting) :
    b.drain id = (.waits .draining, b) := by
  have hno : b.tracker.isDrained = false := by
    rw [Bool.eq_false_iff]
    intro h
    obtain ⟨hs, ha⟩ := Bool.and_eq_true_iff.1 h
    rw [hb.told hs (of_decide_eq_true ha)] at hw
    cases hw
  unfold drain
  rw [hno, List.contains_iff_mem.2 hw]
  rfl

/-- A drain that was woken ends, and opens the tracker. -/
theorem drain_ends (hw : id ∉ b.tracker.waiting) :
    b.drain id = (.ends (.replied .done), { b with tracker := b.tracker.reopen }) := by
  have hno : b.tracker.waiting.contains id = false := by
    rw [Bool.eq_false_iff]
    exact fun h => hw (List.contains_iff_mem.1 h)
  unfold drain
  rw [hno, Bool.not_false, Bool.or_true, if_pos rfl]
  unfold endDrain Tracker.forget
  rw [List.erase_of_not_mem hw]
  rfl

/-! ## Turns of calls -/

/-- A turn of a call that is no drain leads to none. -/
theorem turn_not_draining (b : Bridge) (id : TaskId) (hs : stage.drains = false) {s : Stage}
    (h : (b.turn id stage).1 = .waits s ∨ (b.turn id stage).1 = .goesOn s) : s ≠ .draining := by
  rintro rfl
  have hends : ∀ p, (closed p).1 ≠ .waits .draining ∧ (closed p).1 ≠ .goesOn .draining := by
    rintro ⟨result, b⟩
    cases result <;> exact ⟨nofun, nofun⟩
  -- of all calls that give nothing, drains alone have another turn
  have hdone : stage.gives = .done := by
    have hgives := b.turn_gives id stage
    unfold Gives at hgives
    rcases h with h | h <;> rw [h] at hgives <;> exact hgives.symm
  cases stage with
  | fresh c =>
    cases c with
    | closeConnection c => exact h.elim (hends _).1 (hends _).2
    | closeSession s => exact h.elim (hends _).1 (hends _).2
    | closeReader r => rcases h with h | h <;> cases h
    | settle => cases hs
    | shutdown => cases hs
    | read r reading => cases reading <;> cases hdone
    | _ => cases hdone
  | awaitingTurn r e reading => cases reading <;> cases hdone
  | awaitingFrame r e reading => cases reading <;> cases hdone
  | draining => cases hs
  | _ => cases hdone

/-- **A turn of a call that is no drain.** -/
theorem call_tends (hok : BridgeOK b none none) (hb : b.Tracked none) (ht : b.task? id = some t)
    (hs : t.stage? = some stage) (hd : stage.drains = false) :
    (b.poll id).2.Tracked none ∧ Tends b (b.poll id).2 (.turn id) := by
  have hspawns : Spawns (b.takeTurn id) ((b.takeTurn id).turn id stage).2 := turn_spawns _ id hd
  have htracked := hspawns.tracked (takeTurn_tracked hb id)
  have hn := hspawns.nodup (hok.takeTurn ht)
  have hlive := hspawns.keeps (show (b.takeTurn id).task? id = some t from ht)
  have hnodrain : t.stage? ≠ some .draining := by
    rw [hs]
    rintro h
    obtain rfl := Option.some.inj h
    cases hd
  have hbg := Task.not_inBackground hs
  have hwaits : ((b.takeTurn id).turn id stage).2.tracker.waiting = b.tracker.waiting :=
    hspawns.waiting
  have hshut : ((b.takeTurn id).turn id stage).2.tracker.isShut = b.tracker.isShut :=
    hspawns.isShut
  have hplace : ∀ s, ((b.takeTurn id).turn id stage).1 = .waits s ∨
      ((b.takeTurn id).turn id stage).1 = .goesOn s → s ≠ .draining := fun s =>
    turn_not_draining (b.takeTurn id) id hd
  rw [poll_call ht hs]
  unfold pollCall
  generalize (b.takeTurn id).turn id stage = p at htracked hn hlive hwaits hshut hplace ⊢
  obtain ⟨q, b₁⟩ := p
  -- a call that waits and one that goes on are put in their new place alike
  have hset : ∀ s, q = .waits s ∨ q = .goesOn s →
      (b₁.setTask id (.call t.request? s)).Tracked none := by
    intro s hq
    have hs' : (Task.call t.request? s).stage? ≠ some .draining := fun h =>
      hplace s hq (Option.some.inj h)
    exact setTask_tracked htracked hn hlive hnodrain hs' hbg.symm
  cases q with
  | ends o =>
    have hover := conclude_tracked htracked (fun _ => Option.some.inj) hn hlive hnodrain hbg
    exact ⟨hover, .keeps _ hshut hwaits⟩
  | waits s =>
    dsimp only
    split
    · have hwoken := wake_spawns (b₁.setTask id (.call t.request? s)) id
      exact ⟨hwoken.tracked (hset s (.inl rfl)),
        .keeps _ (hwoken.isShut.trans hshut) (hwoken.waiting.trans hwaits)⟩
    · exact ⟨hset s (.inl rfl), .keeps _ hshut hwaits⟩
  | goesOn s =>
    have hgoes := goOn_spawns (b₁.setTask id (.call t.request? s)) id
    exact ⟨hgoes.tracked (hset s (.inr rfl)), .keeps _ hshut hwaits⟩

/-- A call waits as a drain, with a place in the list. -/
theorem draining_tracked (hb : b.Tracked (some id)) (hn : (b.tasks.map Prod.fst).Nodup)
    (ht : b.task? id = some t) (hbg : t.inBackground = false) (request : Option UInt64)
    {k : Tracker} (hactive : k.active = b.tracker.active) (honce : k.waiting.Nodup)
    (hid : id ∈ k.waiting) (hsame : ∀ x, x ≠ id → (x ∈ k.waiting ↔ x ∈ b.tracker.waiting))
    (htold : k.isShut = true → k.active = 0 → k.waiting = []) :
    ({ b with tracker := k }.setTask id (.call request .draining)).Tracked none := by
  have hbackground : (b.setTask id (.call request .draining)).background = b.background :=
    setTask_background hn ht hbg.symm
  have hself : (b.setTask id (.call request .draining)).Drains id :=
    (drains_iff (task?_setTask ht _)).2 rfl
  have hother : ∀ x, x ≠ id → ((b.setTask id (.call request .draining)).Drains x ↔ b.Drains x) :=
    fun x hx => drains_congr (task?_setTask_of_ne hx _ _)
  refine ⟨?_, honce, ?_, ?_, htold⟩
  · have hcounted : k.active = b.background.length := hactive.trans hb.counted
    exact hcounted.trans (congrArg List.length hbackground).symm
  · intro x hx
    by_cases hxid : x = id
    · exact hxid ▸ hself
    · exact (hother x hxid).2 (hb.drains x ((hsame x hxid).1 hx))
  · intro x hx _
    by_cases hxid : x = id
    · exact .inl (hxid ▸ hid)
    · rcases hb.woken x ((hother x hxid).1 hx) fun he => hxid (Option.some.inj he) with hw | hr
      · exact .inl ((hsame x hxid).2 hw)
      · exact .inr hr

/-- A call that has shut the tracker waits. -/
theorem await_tracked (hb : b.Tracked (some id)) (hn : (b.tasks.map Prod.fst).Nodup)
    (ht : b.task? id = some t) (hs : t.stage? ≠ some .draining) (hbg : t.inBackground = false)
    (hbusy : b.tracker.active ≠ 0) (request : Option UInt64) :
    ({ b with tracker := ⟨true, b.tracker.active, b.tracker.waiting ++ [id]⟩ }.setTask id
      (.call request .draining)).Tracked none := by
  have hnot : id ∉ b.tracker.waiting := fun hw => hs ((drains_iff ht).1 (hb.drains id hw))
  have honce : (b.tracker.waiting ++ [id]).Nodup := by
    refine List.nodup_append.2 ⟨hb.once, List.nodup_singleton id, ?_⟩
    rintro x hx y hy rfl
    exact hnot (List.mem_singleton.1 hy ▸ hx)
  have hid : id ∈ b.tracker.waiting ++ [id] := List.mem_append_right _ (List.mem_singleton_self id)
  have hsame : ∀ x, x ≠ id → (x ∈ b.tracker.waiting ++ [id] ↔ x ∈ b.tracker.waiting) := by
    intro x hx
    rw [List.mem_append, List.mem_singleton, or_iff_left hx]
  exact draining_tracked hb hn ht hbg request rfl honce hid hsame fun _ hidle => absurd hidle hbusy

/-- **The first turn of a drain**: it ends if nothing is under way, or it shuts the
tracker and waits. -/
theorem settle_tends (hok : BridgeOK b none none) (hb : b.Tracked none) (ht : b.task? id = some t)
    (hs : t.stage? = some (.fresh .settle) ∨ t.stage? = some (.fresh .shutdown)) :
    (b.poll id).2.Tracked none ∧
      ((b.poll id).1 = some (t.told (.replied .done)) ∧ (b.poll id).2.tracker.waiting = [] ∧
          (b.poll id).2.background = [] ∨
        (b.poll id).1 = none ∧ (b.poll id).2.tracker.isShut = true ∧
          (b.poll id).2.tracker.waiting = b.tracker.waiting ++ [id]) := by
  -- a shutdown closes all connections before it settles
  obtain ⟨stage, b₁, hstage, hspawns, hturn⟩ : ∃ stage b₁, t.stage? = some stage ∧
      Spawns (b.takeTurn id) b₁ ∧ (b.takeTurn id).turn id stage = b₁.settle id := by
    rcases hs with hs | hs
    · exact ⟨_, _, hs, .refl _, rfl⟩
    · exact ⟨_, _, hs, closeConnections_spawns _ _, rfl⟩
  have htracked := hspawns.tracked (takeTurn_tracked hb id)
  have hn := hspawns.nodup (hok.takeTurn ht)
  have hlive := hspawns.keeps (show (b.takeTurn id).task? id = some t from ht)
  have hnodrain : t.stage? ≠ some .draining := by
    rcases hs with hs | hs <;> rw [hs] <;> nofun
  have hbg := Task.not_inBackground hstage
  have hwaits : b₁.tracker.waiting = b.tracker.waiting := hspawns.waiting
  rw [poll_call ht hstage]
  unfold pollCall
  rw [hturn]
  by_cases hidle : b₁.tracker.active = 0
  · obtain ⟨hends, hsettled, htracker, htasks⟩ := settle_idle htracked hidle
    have hlive' : (b₁.settle id).2.task? id = some t :=
      (congrArg (List.lookup id) htasks).trans hlive
    have hover := conclude_tracked hsettled (fun _ => Option.some.inj) (htasks ▸ hn) hlive'
      hnodrain hbg
    generalize b₁.settle id = p at hends htracker hover ⊢
    obtain ⟨q, b₂⟩ := p
    obtain rfl : q = _ := hends
    have hidle₂ : (b₂.conclude id).tracker.active = 0 := congrArg Tracker.active htracker
    exact ⟨hover, .inl ⟨rfl, congrArg Tracker.waiting htracker, hover.idle hidle₂⟩⟩
  · rw [settle_busy b₁ id hidle]
    refine ⟨await_tracked htracked hn hlive hnodrain hbg hidle _, .inr ⟨rfl, rfl, ?_⟩⟩
    exact congrArg (· ++ [id]) hwaits

/-- A drain that was woken is over, and the tracker is open. -/
theorem reopen_tracked (hn : (b.tasks.map Prod.fst).Nodup) (hb : b.Tracked (some id))
    (ht : b.task? id = some t) (hbg : t.inBackground = false) (hw : id ∉ b.tracker.waiting) :
    ({ b with tracker := b.tracker.reopen }.conclude id).Tracked none := by
  have hother : ∀ x, x ≠ id → ((b.conclude id).Drains x ↔ b.Drains x) :=
    fun x hx => drains_congr (task?_conclude_of_ne hx _)
  refine ⟨?_, hb.once, ?_, ?_, nofun⟩
  · have hlength := conclude_background hn ht
    rw [hbg] at hlength
    exact hb.counted.trans hlength
  · intro x hx
    exact (hother x fun he => hw (he ▸ hx)).2 (hb.drains x hx)
  · intro x hx _
    have hne : x ≠ id := ne_of_conclude_drains (show (b.conclude id).Drains x from hx)
    have hplace : x ∈ b.tracker.waiting ∨ x ∈ (b.conclude id).ready :=
      conclude_woken hb (fun _ => Option.some.inj) ((hother x hne).1 hx) hne
    exact hplace

/-- **Every other turn of a drain**: it goes on waiting until it is woken. Then it
ends, and opens the tracker. -/
theorem drain_tends (hok : BridgeOK b none none) (hb : b.Tracked none) (ht : b.task? id = some t)
    (hs : t.stage? = some .draining) :
    (b.poll id).2.Tracked none ∧ (b.poll id).2.tracker.waiting = b.tracker.waiting ∧
      (id ∈ b.tracker.waiting ∧ (b.poll id).1 = none ∧
          (b.poll id).2.tracker.isShut = b.tracker.isShut ∨
        id ∉ b.tracker.waiting ∧ (b.poll id).1 = some (t.told (.replied .done)) ∧
          (b.poll id).2.tracker.isShut = false) := by
  have hlive : (b.takeTurn id).task? id = some t := ht
  have htracked := takeTurn_tracked hb id
  have hn : ((b.takeTurn id).tasks.map Prod.fst).Nodup := hok.nodup
  have hbg := Task.not_inBackground hs
  rw [poll_call ht hs]
  unfold pollCall turn
  dsimp only
  by_cases hw : id ∈ b.tracker.waiting
  · rw [drain_waits htracked hw]
    have hwaits := draining_tracked htracked hn hlive hbg t.request? rfl hb.once hw
      (fun _ _ => Iff.rfl) hb.told
    exact ⟨hwaits, rfl, .inl ⟨hw, rfl, rfl⟩⟩
  · rw [drain_ends (b := b.takeTurn id) hw]
    exact ⟨reopen_tracked hn htracked hlive hbg hw, rfl, .inr ⟨hw, rfl, rfl⟩⟩

/-! ## Work in the background -/

/-- **A turn of work in the background.** -/
theorem afterBackground_tends {p : Progress Task Unit × Bridge} (hok : BridgeOK b none none)
    (hb : b.Tracked none) (ht : b.task? id = some t) (hbg : t.inBackground = true)
    (hspawns : Spawns (b.takeTurn id) p.2)
    (hplace : ∀ t', p.1 = .waits t' ∨ p.1 = .goesOn t' → t'.inBackground = true) (e : Event) :
    (afterBackground id p).Tracked none ∧ Tends b (afterBackground id p) e := by
  have htracked := hspawns.tracked (takeTurn_tracked hb id)
  have hn := hspawns.nodup (hok.takeTurn ht)
  have hlive := hspawns.keeps (show (b.takeTurn id).task? id = some t from ht)
  have hwaits : p.2.tracker.waiting = b.tracker.waiting := hspawns.waiting
  have hshut : p.2.tracker.isShut = b.tracker.isShut := hspawns.isShut
  have hnodrain : ∀ t : Task, t.inBackground = true → t.stage? ≠ some .draining := by
    intro t hbg
    rw [Task.stage?_of_inBackground hbg]
    nofun
  have hset : ∀ t', p.1 = .waits t' ∨ p.1 = .goesOn t' → (p.2.setTask id t').Tracked none := by
    intro t' ht'
    have hbg' := hplace t' ht'
    exact setTask_tracked htracked hn hlive (hnodrain t hbg) (hnodrain t' hbg')
      (hbg'.trans hbg.symm)
  obtain ⟨q, b₁⟩ := p
  cases q with
  | ends u =>
    obtain ⟨hover, ⟨hshut', hwaits'⟩ | ⟨hnobody, hnone⟩⟩ :=
      concludeBackground_tracked htracked hn hlive hbg
    · exact ⟨hover, .keeps e (hshut'.trans hshut) (hwaits'.trans hwaits)⟩
    · exact ⟨hover, .wakes e hnobody hnone⟩
  | waits t' => exact ⟨hset t' (.inl rfl), .keeps e hshut hwaits⟩
  | goesOn t' =>
    have hgoes := goOn_spawns (b₁.setTask id t') id
    exact ⟨hgoes.tracked (hset t' (.inr rfl)), .keeps e hshut hwaits⟩

/-! ## Every event -/

/-- New work of a caller. -/
theorem submit_tracked (hok : BridgeOK b none none) (hb : b.Tracked none)
    (hs : t.stage? ≠ some .draining) (hbg : t.inBackground = false) :
    (b.submit t).2.Tracked none := by
  have hnew : b.task? b.nextTask = none :=
    task?_eq_none.2 fun p hp he => absurd (hok.numbered p hp) (he ▸ Nat.lt_irrefl _)
  have hlookup : ∀ x, (b.submit t).2.task? x =
      (b.task? x).or (List.lookup x [(b.nextTask, t)]) := fun x => List.lookup_append
  have hdrains : ∀ x, (b.submit t).2.Drains x ↔ b.Drains x := by
    intro x
    by_cases hx : x = b.nextTask
    · subst hx
      have hself : (b.submit t).2.task? b.nextTask = some t := by
        rw [hlookup, hnew, Option.none_or, List.lookup_cons_self]
      rw [drains_iff hself, Drains, hnew]
      exact ⟨fun h => absurd h hs, nofun⟩
    · refine drains_congr ?_
      rw [hlookup, List.lookup_cons, beq_eq_false_iff_ne.2 hx]
      exact Option.or_none
  refine ⟨?_, hb.once, fun x hx => (hdrains x).2 (hb.drains x hx), ?_, hb.told⟩
  · show _ = (List.map _ (List.filter _ (b.tasks ++ [(b.nextTask, t)]))).length
    rw [List.filter_append, List.filter_cons_of_neg (by rw [hbg]; nofun), List.filter_nil,
      List.append_nil]
    exact hb.counted
  · intro x hx _
    rcases hb.woken x ((hdrains x).1 hx) nofun with hw | hr
    · exact .inl hw
    · exact .inr (List.mem_append_left _ hr)

theorem turn_tends (hok : BridgeOK b none none) (hb : b.Tracked none) (id : TaskId) :
    (b.poll id).2.Tracked none ∧ Tends b (b.poll id).2 (.turn id) := by
  cases hs : (b.task? id).bind Task.stage? with
  | some stage =>
    obtain ⟨t, ht, hst⟩ := Option.bind_eq_some_iff.1 hs
    by_cases hd : stage.drains = true
    · by_cases hdraining : stage = .draining
      · subst hdraining
        obtain ⟨htracked, hwaits, ⟨-, -, hshut⟩ | ⟨hw, -, hopen⟩⟩ := drain_tends hok hb ht hst
        · exact ⟨htracked, .keeps _ hshut hwaits⟩
        · exact ⟨htracked, .opens id hs hw hopen hwaits⟩
      · have hfirst : t.stage? = some (.fresh .settle) ∨ t.stage? = some (.fresh .shutdown) := by
          rw [hst]
          unfold Stage.drains at hd
          split at hd
          · exact .inl rfl
          · exact .inr rfl
          · exact absurd rfl hdraining
          · cases hd
        obtain ⟨htracked, ⟨-, hnobody, hnone⟩ | ⟨-, hshut, hwaits⟩⟩ := settle_tends hok hb ht hfirst
        · exact ⟨htracked, .wakes _ hnobody hnone⟩
        · exact ⟨htracked, .waits id hshut hwaits⟩
    · exact call_tends hok hb ht hst (Bool.eq_false_iff.2 hd)
  | none =>
    rcases poll_of_no_call hs with hsame | ⟨text, ht, hpoll⟩ | ⟨h, e, stream, frame, ht, hpoll⟩ |
      ⟨client, held, left, ht, hpoll⟩
    · rw [hsame]
      exact ⟨hb, .keeps _ rfl rfl⟩
    · rw [hpoll]
      exact ⟨conclude_tracked (takeTurn_tracked hb id) (fun _ => Option.some.inj) hok.nodup
        (show (b.takeTurn id).task? id = _ from ht) (Task.payload_not_draining text) rfl,
        .keeps _ rfl rfl⟩
    · rw [hpoll]
      refine afterBackground_tends hok hb ht rfl (pump_spawns _ id h e stream frame) ?_ _
      intro t' ht'
      obtain ⟨stream', frame', rfl⟩ := (pump_pumped _ id h e stream frame).place ht'
      rfl
    · rw [hpoll]
      refine afterBackground_tends hok hb ht rfl (farewell_spawns _ id client held left) ?_ _
      intro t' ht'
      obtain ⟨held', left', rfl⟩ := farewell_place _ id client held left ht'
      rfl

/-- A caller gives up a drain. -/
theorem forget_tracked (hok : BridgeOK b none none) (hb : b.Tracked none)
    (ht : b.task? id = some t) (hs : t.stage? = some .draining) :
    ({ b.conclude id with tracker := b.tracker.forget id } : Bridge).Tracked none := by
  have hother : ∀ x, x ≠ id →
      (({ b.conclude id with tracker := b.tracker.forget id } : Bridge).Drains x ↔ b.Drains x) :=
    fun x hx => drains_congr (task?_conclude_of_ne hx b)
  refine ⟨?_, hb.once.erase id, ?_, ?_, ?_⟩
  · have hlength := conclude_background hok.nodup ht
    rw [Task.not_inBackground hs] at hlength
    exact hb.counted.trans hlength
  · intro x hx
    obtain ⟨hne, hw⟩ := (List.Nodup.mem_erase_iff hb.once).1 hx
    exact (hother x hne).2 (hb.drains x hw)
  · intro x hx _
    have hne : x ≠ id := ne_of_conclude_drains (show (b.conclude id).Drains x from hx)
    rcases hb.woken x ((hother x hne).1 hx) nofun with hw | hr
    · exact .inl ((List.mem_erase_of_ne hne).2 hw)
    · exact .inr ((List.mem_erase_of_ne hne).2 hr)
  · intro hshut hidle
    show b.tracker.waiting.erase id = []
    rw [hb.told hshut hidle]
    rfl

theorem abandon_tends (hok : BridgeOK b none none) (hb : b.Tracked none) (id : TaskId) :
    (b.abandon id).Tracked none ∧ Tends b (b.abandon id) (.abandon id) := by
  unfold abandon
  split
  · rename_i text ht
    have hover := conclude_tracked hb nofun hok.nodup ht (Task.payload_not_draining text) rfl
    exact ⟨hover, .keeps _ rfl rfl⟩
  · rename_i request stage ht
    by_cases hs : stage = .draining
    · subst hs
      exact ⟨forget_tracked hok hb ht rfl, .forgets id rfl rfl⟩
    · have hspawns := release_spawns (b.conclude id) id hs
      have hover := conclude_tracked hb nofun hok.nodup ht (fun h => hs (Option.some.inj h)) rfl
      exact ⟨hspawns.tracked hover, .keeps _ hspawns.isShut hspawns.waiting⟩
  · exact ⟨hb, .keeps _ rfl rfl⟩

/-- **Every event leaves the tracker right**, and does one of five things to the drains. -/
theorem step_tends (hok : BridgeOK b none none) (hb : b.Tracked none) (e : Event) :
    (b.step e).Tracked none ∧ Tends b (b.step e) e := by
  cases e with
  | call c => exact ⟨submit_tracked hok hb nofun rfl, .keeps _ rfl rfl⟩
  | payload text =>
    exact ⟨submit_tracked hok hb (Task.payload_not_draining text) rfl, .keeps _ rfl rfl⟩
  | close target =>
    have hspawns := b.close_spawns target
    exact ⟨hspawns.tracked hb, hspawns.tends _⟩
  | turn id => exact turn_tends hok hb id
  | abandon id => exact abandon_tends hok hb id
  | far act =>
    have hspawns := b.far_spawns act
    exact ⟨hspawns.tracked hb, hspawns.tends _⟩
  | runtime x => exact ⟨(b.withRuntime_spawns x).tracked hb, .keeps _ rfl rfl⟩

/-- **The tracker is right** after every run. -/
theorem Reachable.tracked (h : b.Reachable) : b.Tracked none := by
  induction h with
  | start sessionIds hangs config hasRuntime =>
    exact tracked_of_idle rfl rfl rfl nofun
  | step e h ih => exact (step_tends h.ok ih e).1

end Bridge

end QueryBridge
