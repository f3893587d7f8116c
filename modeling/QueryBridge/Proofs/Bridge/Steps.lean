import QueryBridge.Proofs.Bridge.Turns
import QueryBridge.Proofs.Runs

/-!
# Events

Whatever happens to a bridge, it stays well formed, nothing that was closed
comes back, and a task stays where it is until it has its turn or is given up.

* `step_ok`: one event.
* `Bridge.Reachable.ok`: every bridge that a run leads to is well formed.
-/

namespace QueryBridge

variable {b b' b'' : Bridge} {id : TaskId} {inHand : Option Stream}

/-! ## The beginning and the end of a turn -/

/-- What is kept of an earlier bridge: nothing comes back that was closed, a
task stays where it is unless it is the one that something happens to, and one
that is over stays over. -/
structure Kept (who : Option TaskId) (b b' : Bridge) : Prop where
  later : b.Later b'
  keeps : ∀ x t, some x ≠ who → b.task? x = some t → b'.task? x = some t
  gone : ∀ x, x < b.nextTask → b.task? x = none → b'.task? x = none

namespace Kept

variable {who : Option TaskId}

theorem trans (h : Kept who b b') (h' : Kept who b' b'') : Kept who b b'' where
  later := h.later.trans h'.later
  keeps x t hx ht := h'.keeps x t hx (h.keeps x t hx ht)
  gone x hx ht := h'.gone x (Nat.lt_of_lt_of_le hx h.later.nextTask) (h.gone x hx ht)

theorem of_none (h : Kept none b b') : Kept who b b' :=
  ⟨h.later, fun x t _ ht => h.keeps x t nofun ht, h.gone⟩

end Kept

theorem Bridge.task?_eq_none : b.task? id = none ↔ ∀ p ∈ b.tasks, p.1 ≠ id := by
  simp only [Bridge.task?, List.lookup_eq_none_iff, bne_iff_ne, ne_eq]
  exact forall₂_congr fun p _ => not_congr eq_comm

theorem Bridge.Aside.kept {who : Option TaskId} (h : b.Aside b') : Kept who b b' :=
  ⟨h.later, fun x _ _ ht => (h.task? x).trans ht, fun x _ ht => (h.task? x).trans ht⟩

theorem Bridge.Spawned.kept {who : Option TaskId} (hs : b.Spawned b') (hl : b.Later b')
    (hn : (b'.tasks.map Prod.fst).Nodup) : Kept who b b' where
  later := hl
  keeps _ _ _ ht := Bridge.task?_of_mem hn (hs.subset (Bridge.mem_of_task? ht))
  gone _ hx ht := Bridge.task?_eq_none.2 (hs.not_mem hx (Bridge.task?_eq_none.1 ht))

theorem Moves.kept {me who : Option TaskId} {inHand' : Option Stream} {ns : List Note}
    (h : Moves me b inHand ns b' inHand') (hb : BridgeOK b me inHand) : Kept who b b' :=
  have hok := h.ok hb
  hok.2.2.kept hok.2.1 hok.1.nodup

theorem Quietly.kept {me who : Option TaskId} {inHand' : Option Stream}
    (h : Quietly me b inHand b' inHand') (hb : BridgeOK b me inHand) : Kept who b b' := by
  obtain ⟨ns, hm, -⟩ := h
  exact hm.kept hb

/-- The stream of a task counts, whether it is said to be the task's or in its hand. -/
theorem openFeeds_turn {t : Task} (hn : (b.tasks.map Prod.fst).Nodup) (hm : (id, t) ∈ b.tasks) :
    (b.openFeeds (some id) t.stream?).Perm (b.openFeeds none none) := by
  obtain ⟨l₁, l₂, hl⟩ := List.append_of_mem hm
  rw [hl, List.map_append, List.map_cons, List.nodup_append, List.nodup_cons] at hn
  have h₁ : l₁.filter (fun p => some p.1 ≠ some id) = l₁ := List.filter_eq_self.2 fun p hp => by
    simpa using fun he => hn.2.2 p.1 (List.mem_map.2 ⟨p, hp, rfl⟩) id List.mem_cons_self he
  have h₂ : l₂.filter (fun p => some p.1 ≠ some id) = l₂ := List.filter_eq_self.2 fun p hp => by
    simpa using fun he => hn.2.1.1 (List.mem_map.2 ⟨p, hp, he⟩)
  have h₃ : b.tasks.filter (fun p => some p.1 ≠ none) = b.tasks :=
    List.filter_eq_self.2 fun p _ => by simp
  refine List.Perm.filterMap _ ?_
  rw [h₃, hl, List.filter_append, List.filter_cons_of_neg (by simp), h₁, h₂,
    Option.toList_none, List.append_nil, List.append_assoc]
  refine List.Perm.append_left _ ?_
  rw [List.filterMap_append, List.filterMap_append]
  cases hs : t.stream? with
  | none => simp [hs]
  | some s => simpa [hs] using (List.perm_append_singleton s _).append_left _

namespace BridgeOK

/-- A task begins its turn; its stream is in its hand. -/
theorem takeTurn (hb : BridgeOK b none none) {t : Task} (ht : b.task? id = some t) :
    BridgeOK (b.takeTurn id) (some id) t.stream? := by
  have hp := openFeeds_turn hb.nodup (Bridge.mem_of_task? ht)
  exact (b.takeTurn_aside id).ok { hb with
    turn := fun x hx => Option.some.inj hx ▸ hb.lt_nextTask ht
    locks := fun p hp _ => hb.locks p hp nofun
    feeds := hp.nodup_iff.2 hb.feeds
    feedsExist := fun n hn => hb.feedsExist n (hp.mem_iff.1 hn) }

/-- A task ends its turn in another place. -/
theorem setTask {t t' : Task} (hb : BridgeOK b (some id) t'.stream?) (ht : b.task? id = some t)
    (hok : TaskOK b t') (hk : HoldsLock b id t') (hp : t'.pumped? = t.pumped?) :
    BridgeOK (b.setTask id t') none none := by
  have hl : b.Later (b.setTask id t') := ⟨rfl, .refl _, Nat.le_refl _⟩
  -- every task is another one, as it was, or this one in its new place
  have hmem : ∀ p ∈ (b.setTask id t').tasks, p ∈ b.tasks ∧ p.1 ≠ id ∨ p = (id, t') := by
    intro p hp
    obtain ⟨q, hq, rfl⟩ := List.mem_map.1 hp
    split
    · exact .inr rfl
    · rename_i hne; exact .inl ⟨hq, hne⟩
  have hids : (b.setTask id t').tasks.map Prod.fst = b.tasks.map Prod.fst := by
    simp only [Bridge.setTask, List.map_map]
    refine List.map_congr_left fun p _ => ?_
    simp only [Function.comp]
    split
    · rename_i he; exact he.symm
    · rfl
  have hnd : ((b.setTask id t').tasks.map Prod.fst).Nodup := hids ▸ hb.nodup
  have hin : (id, t') ∈ (b.setTask id t').tasks :=
    List.mem_map.2 ⟨(id, t), Bridge.mem_of_task? ht, if_pos rfl⟩
  have hfeeds : (b.setTask id t').openFeeds (some id) t'.stream? =
      b.openFeeds (some id) t'.stream? := by
    have : (b.setTask id t').tasks.filter (fun p => some p.1 ≠ some id) =
        b.tasks.filter fun p => some p.1 ≠ some id := by
      simp only [Bridge.setTask, List.filter_map]
      rw [List.map_congr_left (g := fun p => p)]
      · rw [List.map_id']
        refine List.filter_congr fun p _ => ?_
        by_cases hpid : p.1 = id <;> simp [hpid]
      · intro p hp
        have := (List.mem_filter.1 hp).2
        simp only [Function.comp] at this
        split at this
        · simp at this
        · rename_i hne; rw [if_neg hne]
    simp only [Bridge.openFeeds, this]
    rfl
  have hperm := openFeeds_turn hnd hin
  rw [hfeeds] at hperm
  refine ⟨hb.registry, fun p hp' => ?_, fun p hp' => ?_, fun x hx => ?_, hnd, ?_, hb.receiving,
    fun p hp' _ => ?_, hperm.nodup_iff.1 hb.feeds, fun n hn => hb.feedsExist n (hperm.mem_iff.2 hn)⟩
  · rcases hmem p hp' with ⟨hp', -⟩ | rfl
    · exact hl.taskOK (hb.tasks p hp')
    · exact hl.taskOK hok
  · rcases hmem p hp' with ⟨hp', -⟩ | rfl
    · exact hb.numbered p hp'
    · exact hb.lt_nextTask ht
  · cases hx
  · have : (b.setTask id t').tasks.filterMap (·.2.pumped?) = b.tasks.filterMap (·.2.pumped?) := by
      simp only [Bridge.setTask, List.filterMap_map]
      refine List.filterMap_congr fun p hp' => ?_
      simp only [Function.comp]
      split
      · rename_i he
        have := Bridge.task?_of_mem hb.nodup (show (id, p.2) ∈ b.tasks from he ▸ hp')
        rw [ht, Option.some.injEq] at this
        rw [hp, this]
      · rfl
    rw [this]
    exact hb.pumps
  · rcases hmem p hp' with ⟨hp', hne⟩ | rfl
    · exact hb.locks p hp' fun he => hne (Option.some.inj he)
    · exact hk

/-- A task is taken up no more. -/
theorem concluded (hb : BridgeOK b (some id) inHand) (hid : ∀ p ∈ b.tasks, p.1 ≠ id) :
    BridgeOK b none none := by
  have hf : b.tasks.filter (fun p => some p.1 ≠ some id) =
      b.tasks.filter (fun p => some p.1 ≠ none) :=
    List.filter_congr fun p hp => by simpa using hid p hp
  have hs : (b.openFeeds none none).Sublist (b.openFeeds (some id) inHand) := by
    simp only [Bridge.openFeeds, hf]
    exact (List.Sublist.append_left (List.nil_sublist _) _).filterMap _
  exact { hb with
    turn := fun x hx => by cases hx
    locks := fun p hp _ => hb.locks p hp fun he => hid p hp (Option.some.inj he)
    feeds := hs.nodup hb.feeds
    feedsExist := fun n hn => hb.feedsExist n (hs.subset hn) }

/-- A task is over. -/
theorem conclude (hb : BridgeOK b (some id) inHand) :
    BridgeOK (b.conclude id) (some id) inHand := by
  have hs : (b.conclude id).tasks.Sublist b.tasks := List.filter_sublist
  have hl : b.Later (b.conclude id) := ⟨rfl, .refl _, Nat.le_refl _⟩
  have hf : (b.conclude id).openFeeds (some id) inHand = b.openFeeds (some id) inHand := by
    simp only [Bridge.openFeeds, Bridge.conclude, List.filter_filter]
    congr 4
    simp
  exact { hb with
    tasks := fun p hp => hl.taskOK (hb.tasks p (hs.subset hp))
    numbered := fun p hp => hb.numbered p (hs.subset hp)
    nodup := (hs.map _).nodup hb.nodup
    pumps := (hs.filterMap _).nodup hb.pumps
    locks := fun p hp hme => hb.locks p (hs.subset hp) hme
    feeds := by rw [hf]; exact hb.feeds
    feedsExist := fun n hn => hb.feedsExist n (by rwa [hf] at hn) }

/-- A task is given up before its turn. -/
theorem givenUp (hb : BridgeOK b none none) {t : Task} (ht : b.task? id = some t) :
    BridgeOK (b.conclude id) (some id) t.stream? :=
  ((b.takeTurn_aside id).symm.ok (hb.takeTurn ht)).conclude

theorem conclude_not_mem (b : Bridge) (id : TaskId) : ∀ p ∈ (b.conclude id).tasks, p.1 ≠ id :=
  fun p hp => by simpa using (List.mem_filter.1 hp).2

end BridgeOK

/-! ## Pumps -/

/-- A frame has come into the channel. -/
structure ReaderStatus.Takes (s s' : ReaderStatus) (f : Frame) : Prop where
  state : s'.state = s.state
  isCancelled : s'.isCancelled = s.isCancelled
  isReceiving : s'.isReceiving = s.isReceiving
  lock : s'.lock = s.lock
  held : s'.held = s.held
  buffer : s'.channel.buffer = s.channel.buffer ++ [f]
  capacity : s'.channel.capacity = s.channel.capacity
  room : s.channel.buffer.length < s.channel.capacity

/-- What a turn of a pump can do. -/
inductive Pumped (id : TaskId) (b : Bridge) (h : ReaderHandle) (e : Reader) (stream : Stream) :
    Option Frame → Progress Task Unit × Bridge → Prop
  /-- It waits for a frame. -/
  | waits {frame : Option Frame} {b' : Bridge} : b.Aside b' →
    Pumped id b h e stream frame (.waits (.pump h e stream frame), b')
  /-- It waits for room. -/
  | full {frame : Option Frame} {g : ReaderStatus → ReaderStatus} :
    (b.registry.reader h).Aside (some id) (g (b.registry.reader h)) →
    Pumped id b h e stream frame (.waits (.pump h e stream frame), b.modifyReader h g)
  /-- It takes a frame off the stream. -/
  | drew {f : Frame} {stream' : Stream} {s' : Service} :
    b.registry.isCancelled (e.scope h) = false →
    b.service.nextFrame? stream = some (f, stream', s') →
    Pumped id b h e stream none (.goesOn (.pump h e stream' (some f)), b.withService s')
  /-- It puts the frame in hand into the channel. -/
  | pushed {f : Frame} {g : ReaderStatus → ReaderStatus} {b' : Bridge} :
    b.registry.isCancelled (e.scope h) = false →
    (b.registry.reader h).isReceiving = true → f.isTerminal = false →
    (b.registry.reader h).Takes (g (b.registry.reader h)) f → (b.modifyReader h g).Aside b' →
    Pumped id b h e stream (some f) (.goesOn (.pump h e stream none), b')
  /-- It puts the last frame into the channel, and is over. -/
  | finished {f : Frame} {g : ReaderStatus → ReaderStatus} {b' : Bridge} :
    b.registry.isCancelled (e.scope h) = false →
    (b.registry.reader h).isReceiving = true → f.isTerminal = true →
    (b.registry.reader h).Takes (g (b.registry.reader h)) f →
    Quietly (some id) (b.modifyReader h g) (some stream) b' none →
    Pumped id b h e stream (some f) (.ends (), b')
  /-- It is over, because nobody will take its frames. -/
  | stopped {frame : Option Frame} {b' : Bridge} : Quietly (some id) b (some stream) b' none →
    Pumped id b h e stream frame (.ends (), b')

/-- A pump that is not over is a pump. -/
theorem Pumped.place {h : ReaderHandle} {e : Reader} {stream : Stream} {frame : Option Frame}
    {p : Progress Task Unit × Bridge} (hp : Pumped id b h e stream frame p) {t : Task}
    (ht : p.1 = .waits t ∨ p.1 = .goesOn t) :
    ∃ stream' frame', t = .pump h e stream' frame' := by
  cases hp <;> rcases ht with ht | ht <;> cases ht <;> exact ⟨_, _, rfl⟩

namespace Bridge

theorem endPump_quietly {me : Option TaskId} (b : Bridge) (h : ReaderHandle) (stream : Stream) :
    Quietly me b (some stream) (b.endPump h stream).2 none := by
  refine (b.dropStream_quietly stream).trans (.trans (.of_move (.cursor h ?_))
    (.of_aside (wakeAll_aside _ _)))
  exact ⟨rfl, rfl, rfl, rfl, rfl, rfl, fun _ _ hh => hh⟩

theorem awaitFrame_aside (b : Bridge) (id : TaskId) (stream : Stream) :
    b.Aside (b.withService (b.service.awaitFrame id stream)) := by
  cases stream with
  | fixed fs => exact .refl b
  | live n =>
    refine b.withService_aside rfl ?_
    simp only [Service.awaitFrame, Service.modifyFeed]
    refine List.ext_getElem? fun i => ?_
    rw [List.getElem?_map, List.getElem?_map, List.getElem?_modify]
    cases b.service.feeds[i]? with
    | none => rfl
    | some f =>
      simp only [Option.map_some]
      split <;> rfl

/-- **A turn of a pump** is one of six. -/
theorem pump_pumped (b : Bridge) (id : TaskId) (h : ReaderHandle) (e : Reader) (stream : Stream)
    (frame : Option Frame) :
    Pumped id b h e stream frame (b.pump id h e stream frame) := by
  unfold pump
  split
  · exact .stopped (b.endPump_quietly h stream)
  · rename_i hc
    rw [Bool.not_eq_true] at hc
    cases frame with
    | none =>
      dsimp only
      split
      · rename_i f stream' s' hf
        exact .drew hc hf
      · exact .waits (b.awaitFrame_aside id stream)
    | some f =>
      dsimp only
      split
      · exact .stopped (b.endPump_quietly h stream)
      · rename_i hrec
        rw [Bool.not_eq_true', Bool.not_eq_false] at hrec
        split
        · refine .full (g := fun s => { s with
            channel := { s.channel with roomWaiter := some id } }) ?_
          exact ⟨rfl, rfl, rfl, rfl, rfl, rfl, fun _ _ hh => hh⟩
        · rename_i hfull
          have hroom : (b.registry.reader h).channel.buffer.length <
              (b.registry.reader h).channel.capacity := by
            simpa [Channel.isFull] using hfull
          split
          · rename_i ht
            refine .finished (g := fun s => { s with
              channel := { s.channel.push f with frameWaiter := none } }) hc hrec ht ?_
              ((Quietly.of_aside (wakeAll_aside _ _)).trans (endPump_quietly _ h stream))
            exact ⟨rfl, rfl, rfl, rfl, rfl, rfl, rfl, hroom⟩
          · rename_i ht
            refine .pushed (g := fun s => { s with
              channel := { s.channel.push f with frameWaiter := none } }) hc hrec
              (by simpa using ht) ?_ (wakeAll_aside _ _)
            exact ⟨rfl, rfl, rfl, rfl, rfl, rfl, rfl, hroom⟩

end Bridge

/-- A frame that comes into a channel leaves the bridge well formed. -/
theorem BridgeOK.takes (hb : BridgeOK b (some id) inHand) {h : ReaderHandle} {f : Frame}
    {g : ReaderStatus → ReaderStatus}
    (hg : (b.registry.reader h).Takes (g (b.registry.reader h)) f) :
    BridgeOK (b.modifyReader h g) (some id) inHand ∧ b.Later (b.modifyReader h g) := by
  refine hb.withRegistry (cursor_sound h hg.state hg.isCancelled) (fun x => ?_) fun x _ i _ hx => ?_
  · rw [Registry.reader_modify_keeps _ h (g := ReaderStatus.state) hg.state,
      Registry.reader_modify_keeps _ h (g := ReaderStatus.isReceiving) hg.isReceiving]
    exact hb.receiving x
  · rw [Registry.reader_modify_keeps _ h (g := ReaderStatus.lock) hg.lock]
    exact hx

/-- A stream keeps its feed while frames are taken off it. -/
theorem Service.nextFrame?_feeds {s s' : Service} {stream stream' : Stream} {f : Frame}
    (h : s.nextFrame? stream = some (f, stream', s')) :
    s'.queries = s.queries ∧ s'.feeds.length = s.feeds.length ∧ stream'.feed? = stream.feed? := by
  cases stream with
  | fixed fs =>
    cases fs <;> simp only [nextFrame?, Option.some.injEq, Prod.mk.injEq] at h <;>
      obtain ⟨rfl, rfl, rfl⟩ := h <;> exact ⟨rfl, rfl, rfl⟩
  | live n =>
    simp only [nextFrame?] at h
    split at h
    · obtain ⟨rfl, rfl, rfl⟩ := by simpa using h
      exact ⟨rfl, rfl, rfl⟩
    · split at h
      · obtain ⟨rfl, rfl, rfl⟩ := by simpa using h
        exact ⟨rfl, List.length_modify _ _ _, rfl⟩
      · split at h
        · cases h
        · obtain ⟨rfl, rfl, rfl⟩ := by simpa using h
          exact ⟨rfl, rfl, rfl⟩

/-! ## Turns -/

/-- The bridge is well formed, and what is to be kept of an earlier one is kept. -/
structure Steps (who : Option TaskId) (b b' : Bridge) : Prop extends Kept who b b' where
  ok : BridgeOK b' none none

theorem Bridge.Aside.steps {who : Option TaskId} (h : b.Aside b') (hb : BridgeOK b none none) :
    Steps who b b' := ⟨h.kept, h.ok hb⟩

theorem Kept.steps {who : Option TaskId} (h : Kept who b b') (h' : Steps who b' b'') :
    Steps who b b'' := ⟨h.trans h'.toKept, h'.ok⟩

theorem Steps.trans {who : Option TaskId} (h : Steps who b b') (h' : Steps who b' b'') :
    Steps who b b'' := h.toKept.steps h'

theorem setTask_kept (b : Bridge) (id : TaskId) (t : Task)
    (hn : ((b.setTask id t).tasks.map Prod.fst).Nodup) : Kept (some id) b (b.setTask id t) where
  later := ⟨rfl, .refl _, Nat.le_refl _⟩
  keeps x u hx hu := Bridge.task?_of_mem hn (List.mem_map.2 ⟨(x, u), Bridge.mem_of_task? hu,
    if_neg fun he => hx (congrArg some he)⟩)
  gone x _ hu := by
    rw [Bridge.task?_eq_none] at hu ⊢
    intro p hp
    obtain ⟨q, hq, rfl⟩ := List.mem_map.1 hp
    split
    · rename_i he; exact he ▸ hu q hq
    · exact hu q hq

theorem conclude_kept (b : Bridge) (id : TaskId)
    (hn : ((b.conclude id).tasks.map Prod.fst).Nodup) : Kept (some id) b (b.conclude id) where
  later := ⟨rfl, .refl _, Nat.le_refl _⟩
  keeps x u hx hu := Bridge.task?_of_mem hn (List.mem_filter.2 ⟨Bridge.mem_of_task? hu, by
    simpa using fun he => hx (congrArg some he)⟩)
  gone x _ hu := by
    rw [Bridge.task?_eq_none] at hu ⊢
    exact fun p hp => hu p (List.mem_filter.1 hp).1

/-- A task that has come to another place is there. -/
theorem Bridge.task?_setTask {t : Task} (ht : b.task? id = some t) (t' : Task) :
    (b.setTask id t').task? id = some t' := by
  unfold Bridge.task? at ht ⊢
  unfold Bridge.setTask
  dsimp only
  generalize b.tasks = l at ht ⊢
  induction l with
  | nil => cases ht
  | cons p l ih =>
    by_cases hp : p.1 = id
    · simp [hp]
    · have hne : (id == p.1) = false := beq_eq_false_iff_ne.2 (Ne.symm hp)
      rw [List.lookup_cons, hne] at ht
      rw [List.map_cons, if_neg hp, List.lookup_cons, hne]
      exact ih ht

theorem Bridge.task?_conclude (b : Bridge) (id : TaskId) : (b.conclude id).task? id = none :=
  Bridge.task?_eq_none.2 (BridgeOK.conclude_not_mem b id)

/-- The other tasks are where they were when one has come to another place. -/
theorem Bridge.task?_setTask_of_ne {x : TaskId} (hx : x ≠ id) (b : Bridge) (t : Task) :
    (b.setTask id t).task? x = b.task? x := by
  unfold Bridge.task? Bridge.setTask
  dsimp only
  generalize b.tasks = l
  induction l with
  | nil => rfl
  | cons p l ih =>
    rw [List.map_cons, List.lookup_cons, List.lookup_cons, ih]
    by_cases hp : p.1 = id
    · rw [if_pos hp, beq_eq_false_iff_ne.2 hx, beq_eq_false_iff_ne.2 (hp ▸ hx)]
    · rw [if_neg hp]

/-- The other tasks are where they were when one is over. -/
theorem Bridge.task?_conclude_of_ne {x : TaskId} (hx : x ≠ id) (b : Bridge) :
    (b.conclude id).task? x = b.task? x := by
  unfold Bridge.task? Bridge.conclude
  dsimp only
  generalize b.tasks = l
  induction l with
  | nil => rfl
  | cons p l ih =>
    by_cases hp : p.1 = id
    · rw [List.filter_cons_of_neg (by simpa using hp), ih, List.lookup_cons,
        beq_eq_false_iff_ne.2 (hp ▸ hx)]
    · rw [List.filter_cons_of_pos (by simpa using hp), List.lookup_cons, List.lookup_cons, ih]

/-- A task that is there is so once. -/
theorem Bridge.tasks_split {t : Task} (hn : (b.tasks.map Prod.fst).Nodup)
    (ht : b.task? id = some t) :
    ∃ l₁ l₂, b.tasks = l₁ ++ (id, t) :: l₂ ∧ (b.conclude id).tasks = l₁ ++ l₂ ∧
      ∀ t', (b.setTask id t').tasks = l₁ ++ (id, t') :: l₂ := by
  obtain ⟨l₁, l₂, hl⟩ := List.append_of_mem (Bridge.mem_of_task? ht)
  rw [hl, List.map_append, List.map_cons] at hn
  -- no other task has its number
  have hother : ∀ p ∈ l₁ ++ l₂, p.1 ≠ id := by
    rintro p hp rfl
    have hnot : p.1 ∉ l₁.map Prod.fst ++ l₂.map Prod.fst :=
      (List.nodup_cons.1 (List.perm_middle.nodup_iff.1 hn)).1
    rw [← List.map_append] at hnot
    exact hnot (List.mem_map.2 ⟨p, hp, rfl⟩)
  have h₁ : ∀ p ∈ l₁, p.1 ≠ id := fun p hp => hother p (List.mem_append_left _ hp)
  have h₂ : ∀ p ∈ l₂, p.1 ≠ id := fun p hp => hother p (List.mem_append_right _ hp)
  refine ⟨l₁, l₂, hl, ?_, fun t' => ?_⟩
  · show b.tasks.filter _ = _
    rw [hl, List.filter_append, List.filter_cons_of_neg (by simp),
      List.filter_eq_self.2 fun p hp => decide_eq_true (h₁ p hp),
      List.filter_eq_self.2 fun p hp => decide_eq_true (h₂ p hp)]
  · show b.tasks.map _ = _
    rw [hl, List.map_append, List.map_cons, if_pos rfl]
    congr 1
    · exact (List.map_congr_left fun p hp => if_neg (h₁ p hp)).trans (List.map_id _)
    · congr 1
      exact (List.map_congr_left fun p hp => if_neg (h₂ p hp)).trans (List.map_id _)

/-- A turn ends in another place. -/
theorem setTask_steps {t t' : Task} (hb : BridgeOK b (some id) t'.stream?)
    (ht : b.task? id = some t) (hok : TaskOK b t') (hk : HoldsLock b id t')
    (hp : t'.pumped? = t.pumped?) : Steps (some id) b (b.setTask id t') :=
  have h := hb.setTask ht hok hk hp
  ⟨setTask_kept b id t' h.nodup, h⟩

/-- A turn ends, and the task with it. -/
theorem conclude_steps (hb : BridgeOK b (some id) inHand) : Steps (some id) b (b.conclude id) :=
  have h := hb.conclude.concluded (BridgeOK.conclude_not_mem b id)
  ⟨conclude_kept b id h.nodup, h⟩

theorem concludeBackground_steps (hb : BridgeOK b (some id) inHand) :
    Steps (some id) b (b.concludeBackground id) := by
  have h := conclude_steps hb
  have hw : (b.conclude id).Aside (b.concludeBackground id) :=
    ((b.conclude id).tracker_aside _).trans (Bridge.wakeAll_aside _ _)
  exact h.trans (hw.steps h.ok)

/-- **A turn of a call.** -/
theorem pollCall_steps {stage : Stage} {t : Task} (envelope : Option UInt64)
    (hb : BridgeOK b (some id) (Task.call none stage).stream?) (ht : b.task? id = some t)
    (hp : t.pumped? = none) (hs : StageOK b stage) (hk : HoldsLock b id (.call none stage)) :
    Steps (some id) b (b.pollCall id envelope stage).2 := by
  obtain ⟨ns, hm, -, hplace⟩ := Bridge.turn_turned hb hs hk
  have hok := (hm.ok hb).1
  have hkept : Kept none b (b.turn id stage).2 := hm.kept hb
  have ht' := hkept.keeps id t nofun ht
  -- a call that waits and one that goes on are put in their new place alike
  have hset : ∀ s, (b.turn id stage).1 = .waits s ∨ (b.turn id stage).1 = .goesOn s →
      Steps (some id) b ((b.turn id stage).2.setTask id (.call envelope s)) := by
    intro s hps
    obtain ⟨h1, h2⟩ := hplace s hps
    have hstream : (b.turn id stage).1.stream? = (Task.call envelope s).stream? := by
      rcases hps with hps | hps <;> rw [hps] <;> cases s <;> rfl
    rw [hstream] at hok
    have hk' : HoldsLock (b.turn id stage).2 id (.call envelope s) := by cases s <;> exact h2
    have hsteps : Steps (some id) (b.turn id stage).2
        ((b.turn id stage).2.setTask id (.call envelope s)) := setTask_steps hok ht' h1 hk' hp.symm
    exact hkept.of_none.steps hsteps
  unfold Bridge.pollCall
  split
  · rename_i o b₁ hr
    rw [hr] at hok hkept
    exact hkept.of_none.steps (conclude_steps hok)
  · rename_i s b₁ hr
    rw [hr] at hset
    have h3 := hset s (.inl rfl)
    dsimp only
    split
    · exact h3.trans ((Bridge.wake_aside _ id).steps h3.ok)
    · exact h3
  · rename_i s b₁ hr
    rw [hr] at hset
    have h3 := hset s (.inr rfl)
    exact h3.trans ((Bridge.goOn_aside _ id).steps h3.ok)

/-- **A turn in the background** that keeps the task or ends it. -/
theorem afterBackground_steps {t : Task} {p : Progress Task Unit × Bridge}
    (ht : p.2.task? id = some t)
    (hw : ∀ t', p.1 = .waits t' ∨ p.1 = .goesOn t' → BridgeOK p.2 (some id) t'.stream? ∧
      TaskOK p.2 t' ∧ HoldsLock p.2 id t' ∧ t'.pumped? = t.pumped?)
    (he : p.1 = .ends () → ∃ inHand, BridgeOK p.2 (some id) inHand) :
    Steps (some id) p.2 (Bridge.afterBackground id p) := by
  obtain ⟨q, b⟩ := p
  cases q with
  | ends u =>
    obtain ⟨inHand, h⟩ := he rfl
    exact concludeBackground_steps h
  | waits t' =>
    obtain ⟨h1, h2, h3, h4⟩ := hw t' (.inl rfl)
    exact setTask_steps h1 ht h2 h3 h4
  | goesOn t' =>
    obtain ⟨h1, h2, h3, h4⟩ := hw t' (.inr rfl)
    have h5 := setTask_steps h1 ht h2 h3 h4
    exact h5.trans ((Bridge.goOn_aside _ id).steps h5.ok)

/-- **A turn of a pump.** -/
theorem pump_steps {h : ReaderHandle} {e : Reader} {stream : Stream} {frame : Option Frame}
    (hb : BridgeOK b (some id) (some stream)) (ht : b.task? id = some (.pump h e stream frame)) :
    Steps (some id) b (Bridge.afterBackground id (b.pump id h e stream frame)) := by
  have hn : b.registry.NamesReader h e := hb.task ht
  -- what is left of each case: what the turn keeps, and where it leaves the pump
  have key : ∀ p : Progress Task Unit × Bridge, Kept none b p.2 →
      (∀ t', p.1 = .waits t' ∨ p.1 = .goesOn t' → BridgeOK p.2 (some id) t'.stream? ∧
        ∃ stream' frame', t' = .pump h e stream' frame') →
      (p.1 = .ends () → ∃ inHand, BridgeOK p.2 (some id) inHand) →
      Steps (some id) b (Bridge.afterBackground id p) := by
    intro p hkept hw he
    have ht₁ := hkept.keeps id _ (by simp) ht
    refine hkept.of_none.steps (afterBackground_steps ht₁ (fun t' ht' => ?_) he)
    obtain ⟨h1, stream', frame', rfl⟩ := hw t' ht'
    exact ⟨h1, hkept.later.registry.namesReader hn, trivial, rfl⟩
  have hp := b.pump_pumped id h e stream frame
  generalize b.pump id h e stream frame = p at hp ⊢
  cases hp with
  | waits ha =>
    refine key _ ha.kept (fun t' ht' => ?_) fun he => by cases he
    rcases ht' with ht' | ht' <;> cases ht'
    exact ⟨ha.ok hb, _, _, rfl⟩
  | full hg =>
    have hq : Quietly (some id) b (some stream) _ (some stream) := .of_move (.cursor h hg)
    refine key _ (hq.kept hb) (fun t' ht' => ?_) fun he => by cases he
    rcases ht' with ht' | ht' <;> cases ht'
    exact ⟨hq.ok hb, _, _, rfl⟩
  | drew _ hf =>
    rename_i f stream' s' _
    obtain ⟨h1, h2, h3⟩ := Service.nextFrame?_feeds hf
    have hfeeds : (b.withService s').openFeeds (some id) (some stream') =
        b.openFeeds (some id) (some stream) := by
      simp only [Bridge.openFeeds, Bridge.withService, h1, List.filterMap_append]
      congr 1
      simp [List.filterMap_cons, h3]
    obtain ⟨hok, hl⟩ := hb.withService (List.Perm.of_eq hfeeds).subperm (Nat.le_of_eq h2.symm)
    have h0 : Kept none b (b.withService s') := ⟨hl, fun _ _ _ hu => hu, fun _ _ hu => hu⟩
    refine key _ h0 (fun t' ht' => ?_) fun he => by cases he
    rcases ht' with ht' | ht' <;> cases ht'
    exact ⟨hok, _, _, rfl⟩
  | pushed _ _ _ hg hw =>
    obtain ⟨hok, hl⟩ := hb.takes hg
    have h0 : Kept none b (b.modifyReader h _) := ⟨hl, fun _ _ _ hu => hu, fun _ _ hu => hu⟩
    refine key _ (h0.trans hw.kept) (fun t' ht' => ?_) fun he => by cases he
    rcases ht' with ht' | ht' <;> cases ht'
    exact ⟨hw.ok hok, _, _, rfl⟩
  | finished _ _ _ hg hq =>
    obtain ⟨hok, hl⟩ := hb.takes hg
    have h0 : Kept none b (b.modifyReader h _) := ⟨hl, fun _ _ _ hu => hu, fun _ _ hu => hu⟩
    exact key _ (h0.trans (hq.kept hok))
      (fun t' ht' => by rcases ht' with ht' | ht' <;> cases ht') fun _ => ⟨_, hq.ok hok⟩
  | stopped hq =>
    exact key _ (hq.kept hb)
      (fun t' ht' => by rcases ht' with ht' | ht' <;> cases ht') fun _ => ⟨_, hq.ok hb⟩

/-- A farewell that is not over is a farewell. -/
theorem farewell_place (b : Bridge) (id : TaskId) (client : ClientId) (held : Option Held)
    (left : List RemoteClose) {t : Task}
    (h : (b.farewell id client held left).1 = .waits t ∨
      (b.farewell id client held left).1 = .goesOn t) :
    ∃ held' left', t = .farewell client held' left' := by
  have key : ∀ (b : Bridge) (left : List RemoteClose), (b.sayNext id client left).1 = .waits t ∨
      (b.sayNext id client left).1 = .goesOn t →
      ∃ held' left', t = .farewell client held' left' := by
    intro b left h
    cases left with
    | nil => simp [Bridge.sayNext] at h
    | cons c left =>
      simp only [Bridge.sayNext] at h
      split at h
      · simp at h; exact ⟨_, _, h.symm⟩
      · split at h <;> simp at h <;> exact ⟨_, _, h.symm⟩
  cases held with
  | none => exact key b left h
  | some held =>
    simp only [Bridge.farewell] at h
    split at h
    · simp at h; exact ⟨_, _, h.symm⟩
    · exact key _ left h

/-- **A turn of a farewell.** -/
theorem farewell_steps {client : ClientId} {held : Option Held} {left : List RemoteClose}
    (hb : BridgeOK b (some id) none) (ht : b.task? id = some (.farewell client held left)) :
    Steps (some id) b (Bridge.afterBackground id (b.farewell id client held left)) := by
  have hq : Quietly (some id) b none (b.farewell id client held left).2 none :=
    b.farewell_quietly id client held left
  have hkept : Kept none b (b.farewell id client held left).2 := hq.kept hb
  refine hkept.of_none.steps (afterBackground_steps (hkept.keeps id _ nofun ht) (fun t' ht' => ?_)
    fun _ => ⟨_, hq.ok hb⟩)
  obtain ⟨held', left', rfl⟩ := farewell_place b id client held left ht'
  exact ⟨hq.ok hb, trivial, trivial, rfl⟩

/-- **A turn of a task**, whatever it is. -/
theorem poll_steps (hb : BridgeOK b none none) (id : TaskId) :
    Steps (some id) b (b.poll id).2 := by
  unfold Bridge.poll
  split
  · exact (Bridge.Aside.refl b).steps hb
  · rename_i t ht
    have ha := b.takeTurn_aside id
    have hok := hb.takeTurn ht
    have ht' : (b.takeTurn id).task? id = some t := ht
    have htask := ha.later.taskOK (hb.task ht)
    have hlock := hb.locks _ (Bridge.mem_of_task? ht) nofun
    refine (ha.steps hb).trans ?_
    dsimp only
    split
    -- a payload is a call from its first turn on, if it can be decoded
    · rename_i text
      split
      · exact conclude_steps hok
      · exact pollCall_steps _ hok ht' rfl trivial trivial
    · rename_i envelope stage
      rw [Task.stream?_call] at hok
      refine pollCall_steps envelope hok ht' rfl htask ?_
      cases stage <;> exact hlock
    · exact pump_steps hok ht'
    · exact farewell_steps hok ht'

/-! ## Other events -/

/-- What a caller leaves behind that gives up. -/
theorem release_quietly (b : Bridge) (id : TaskId) (stage : Stage) :
    Quietly (some id) b (Task.call none stage).stream? (b.release id stage) none := by
  have hcl : ∀ (b : Bridge) (h : ReaderHandle) (reading : Reading), Quietly (some id) b none
      (if reading.closesReader then b.closeReader h else b) none := fun b h reading => by
    split
    · exact b.closeReader_quietly h
    · exact .refl b none
  cases stage with
  | fresh c =>
    cases c
    case read h reading => exact hcl b h reading
    all_goals exact .refl b none
  | executing s e stream held => exact b.dropStream_quietly stream
  | awaitingTurn h e reading => exact (b.giveUpLock_quietly id h).trans (hcl _ h reading)
  | awaitingFrame h e reading => exact (b.giveUpLock_quietly id h).trans (hcl _ h reading)
  | draining => exact .of_aside (b.tracker_aside _)
  | connecting url client held => exact .refl b none
  | opening url client held => exact .refl b none
  | unanswered c => exact .refl b none
  | creating c client globalId held => exact .refl b none

/-- **A caller gives up.** -/
theorem abandon_steps (hb : BridgeOK b none none) (id : TaskId) :
    Steps (some id) b (b.abandon id) := by
  unfold Bridge.abandon
  split
  · rename_i text ht
    have h := (hb.givenUp ht).concluded (BridgeOK.conclude_not_mem b id)
    exact ⟨conclude_kept b id h.nodup, h⟩
  -- the task goes first, and then what it held
  · rename_i envelope stage ht
    have h := hb.givenUp ht
    rw [Task.stream?_call] at h
    obtain ⟨ns, hm, -⟩ := release_quietly (b.conclude id) id stage
    obtain ⟨h1, -, h2⟩ := hm.ok h
    exact ⟨(conclude_kept b id h.nodup).trans (hm.kept h),
      h1.concluded (h2.not_mem (hb.lt_nextTask ht) (BridgeOK.conclude_not_mem b id))⟩
  · exact (Bridge.Aside.refl b).steps hb

/-- **New work of a caller.** -/
theorem submit_steps (hb : BridgeOK b none none) {t : Task}
    (ht : (∃ text, t = .payload text) ∨ ∃ c, t = .call none (.fresh c)) :
    Steps none b (b.submit t).2 := by
  have h : BridgeOK (b.submit t).2 none none ∧ b.Later (b.submit t).2 := by
    rcases ht with ⟨text, rfl⟩ | ⟨c, rfl⟩ <;> exact hb.submit trivial trivial rfl nofun
  have hs : b.Spawned (b.submit t).2 := ⟨[(b.nextTask, t)], rfl, by simp⟩
  exact ⟨hs.kept h.2 h.1.nodup, h.1⟩

theorem Quietly.steps {who : Option TaskId} (h : Quietly none b none b' none)
    (hb : BridgeOK b none none) : Steps who b b' := ⟨h.kept hb, h.ok hb⟩

/-! ## The far side -/

theorem service_steps (hb : BridgeOK b none none) {s : Service}
    (hq : s.queries = b.service.queries) (hl : b.service.feeds.length ≤ s.feeds.length) :
    Steps none b (b.withService s) := by
  have hf : (b.withService s).openFeeds none none = b.openFeeds none none := by
    simp only [Bridge.openFeeds, Bridge.withService, hq]
  have h := hb.withService (List.Perm.of_eq hf).subperm hl
  exact ⟨⟨h.2, fun _ _ _ hu => hu, fun _ _ hu => hu⟩, h.1⟩

theorem script_steps (hb : BridgeOK b none none) (text : String) (script : Script) :
    Steps none b (b.script text script).2 := by
  cases script with
  | frames frames =>
    have hf : (b.script text (.frames frames)).2.openFeeds none none = b.openFeeds none none := by
      simp [Bridge.openFeeds, Bridge.script, Bridge.withService, List.filterMap_cons, Stream.feed?]
    have h := hb.withService (List.Perm.of_eq hf).subperm (Nat.le_refl _)
    exact ⟨⟨h.2, fun _ _ _ hu => hu, fun _ _ hu => hu⟩, h.1⟩
  | live =>
    have hl : b.Later (b.script text .live).2 := ⟨rfl, .refl _, Nat.le_refl _⟩
    -- the feed of the new stream is held by the script alone
    have hf : ((b.script text .live).2.openFeeds none none).Perm
        (b.service.feeds.length :: b.openFeeds none none) := by
      simp only [Bridge.openFeeds, Bridge.script, Bridge.withService, Service.newFeed,
        List.map_append, List.filterMap_append, List.append_assoc]
      exact List.perm_middle
    have hlen : (b.script text .live).2.service.feeds.length = b.service.feeds.length + 1 := by
      simp [Bridge.script, Bridge.withService, Service.newFeed]
    have hnew : ∀ n ∈ b.openFeeds none none, n < b.service.feeds.length := hb.feedsExist
    refine ⟨⟨hl, fun _ _ _ hu => hu, fun _ _ hu => hu⟩, { hb with
      tasks := fun p hp => hl.taskOK (hb.tasks p hp)
      feeds := hf.nodup_iff.2 (List.nodup_cons.2 ⟨fun hn => Nat.lt_irrefl _ (hnew _ hn), hb.feeds⟩)
      feedsExist := fun n hn => ?_ }⟩
    rw [hlen]
    rcases List.mem_cons.1 (hf.mem_iff.1 hn) with rfl | hn
    · exact Nat.lt_succ_self _
    · exact Nat.lt_succ_of_lt (hnew n hn)

theorem feed_steps (n : Nat) (fs : List Frame) (hb : BridgeOK b none none) :
    Steps none b (b.feed n fs).2 := by
  induction fs generalizing b with
  | nil => exact (Bridge.Aside.refl b).steps hb
  | cons f fs ih =>
    have h1 : Steps none b (b.withService (b.service.feed n f).2.2) := by
      unfold Service.feed
      split
      · exact service_steps hb rfl (Nat.le_refl _)
      · split
        · exact service_steps hb rfl (Nat.le_of_eq (List.length_modify _ _ _).symm)
        · exact service_steps hb rfl (Nat.le_refl _)
    have h2 : Steps none _ _ :=
      h1.trans ((Bridge.wakeAll_aside (b.service.feed n f).2.1.toList _).steps h1.ok)
    exact h2.trans (ih h2.ok)

theorem far_steps (hb : BridgeOK b none none) (act : FarAct) : Steps none b (b.far act) := by
  cases act with
  | refuse p message => exact (b.refuse_aside p message).steps hb
  | plan p hooks => exact (b.plan_aside p hooks).steps hb
  | script text s => exact script_steps hb text s
  | release gate => exact (b.releaseGate_aside gate).steps hb
  | feed n frames => exact feed_steps n frames hb
  | endFeed n =>
    have h1 : Steps none b (b.withService (b.service.endFeed n).2) :=
      service_steps hb rfl (Nat.le_of_eq (List.length_modify _ _ _).symm)
    exact h1.trans ((Bridge.wakeAll_aside _ _).steps h1.ok)

theorem Bridge.withRuntime_aside (b : Bridge) (available : Bool) :
    b.Aside (b.withRuntime available) := ⟨rfl, rfl, rfl, rfl, rfl, rfl⟩

/-! ## Every event -/

/-- The task that an event is about. -/
def Event.task? : Event → Option TaskId
  | .turn id | .abandon id => some id
  | _ => none

/-- **Every event keeps a bridge well formed**, brings nothing back that was
closed, and leaves alone the tasks that it is not about. -/
theorem step_steps (hb : BridgeOK b none none) (e : Event) : Steps e.task? b (b.step e) := by
  cases e with
  | call c => exact submit_steps hb (.inr ⟨c, rfl⟩)
  | payload text => exact submit_steps hb (.inl ⟨text, rfl⟩)
  | close target => exact (b.close_quietly target).steps hb
  | turn id => exact poll_steps hb id
  | abandon id => exact abandon_steps hb id
  | far act => exact far_steps hb act
  | runtime x => exact (b.withRuntime_aside x).steps hb

/-- **Every bridge that a run leads to is well formed.** -/
theorem Bridge.Reachable.ok (h : b.Reachable) : BridgeOK b none none := by
  induction h with
  | start sessionIds hangs config hasRuntime =>
    exact bridgeOK_new sessionIds hangs config hasRuntime
  | step e _ ih => exact (step_steps ih e).ok

/-- A run brings nothing back. -/
theorem after_later (hb : BridgeOK b none none) (es : List Event) :
    BridgeOK (b.after es) none none ∧ b.Later (b.after es) := by
  induction es generalizing b with
  | nil => exact ⟨hb, .refl b⟩
  | cons e es ih =>
    have h1 := step_steps hb e
    obtain ⟨h2, h3⟩ := ih h1.ok
    exact ⟨h2, h1.later.trans h3⟩

/-- A task that is over stays over. -/
theorem after_over (es : List Event) (hb : BridgeOK b none none) (hid : id < b.nextTask)
    (ht : b.task? id = none) : (b.after es).task? id = none := by
  induction es generalizing b with
  | nil => exact ht
  | cons e es ih =>
    have h1 := step_steps hb e
    exact ih h1.ok (Nat.lt_of_lt_of_le hid h1.later.nextTask) (h1.gone id hid ht)

/-- A task that a run does not bring to its end is not over after the first event. -/
theorem step_live {e : Event} {es : List Event} {t t' : Task} (hb : BridgeOK b none none)
    (ht : b.task? id = some t) (ht' : ((b.step e).after es).task? id = some t') :
    (b.step e).task? id ≠ none := by
  intro ho
  have hstep := step_steps hb e
  have hid := Nat.lt_of_lt_of_le (hb.lt_nextTask ht) hstep.later.nextTask
  rw [after_over es hstep.ok hid ho] at ht'
  cases ht'

/-- Where nothing happens to a task, it stays where it is. -/
theorem after_keeps (es : List Event) {t : Task} (hb : BridgeOK b none none)
    (hes : ∀ e ∈ es, e.task? ≠ some id) (ht : b.task? id = some t) :
    (b.after es).task? id = some t := by
  induction es generalizing b with
  | nil => exact ht
  | cons e es ih =>
    have h1 := step_steps hb e
    refine ih h1.ok (fun x hx => hes x (List.mem_cons_of_mem _ hx)) ?_
    exact h1.keeps id t (Ne.symm (hes e List.mem_cons_self)) ht

/-- **The registry is well formed** after every run. -/
theorem reachable_wellFormed (h : b.Reachable) : b.registry.WellFormed := h.ok.registry.wellFormed

theorem reachable_wellFormed_oneOfEach : Bridge.oneOfEach.registry.WellFormed ∧
    (Bridge.oneOfEach.registry.readers.get? ⟨1⟩).isSome = true :=
  ⟨reachable_wellFormed Bridge.oneOfEach_reachable, by decide +kernel⟩

end QueryBridge
