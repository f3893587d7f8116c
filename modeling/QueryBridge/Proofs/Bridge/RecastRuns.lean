import QueryBridge.Proofs.Bridge.RecastCalls

/-!
# Runs of bridges recast

Every event leads from a bridge and its recast to a bridge and its recast. Only a
turn of the one task that takes one chunk where the other one takes all is left
out.

* `Recast.Of.pump`, `Recast.Of.farewell`: work in the background.
* `Recast.Of.step`, `Recast.Of.after`: events and runs.
* `Bridge.Numbered.recast_eq`: tasks that are not known may have any numbers.
-/

namespace QueryBridge

/-- The event, if the tasks had other numbers. -/
def Event.rename (f : TaskId → TaskId) : Event → Event
  | .turn id => .turn (f id)
  | .abandon id => .abandon (f id)
  | .call c => .call c
  | .payload text => .payload text
  | .close target => .close target
  | .far act => .far act
  | .runtime available => .runtime available

/-- A call that takes one chunk gives up what one that takes all would. -/
theorem Bridge.release_single (b : Bridge) (id : TaskId) (stage : Stage) :
    b.release id stage.single = b.release id stage := by
  cases stage with
  | fresh c =>
    cases c with
    | read h reading => cases reading <;> rfl
    | _ => rfl
  | awaitingTurn h e reading => cases reading <;> rfl
  | awaitingFrame h e reading => cases reading <;> rfl
  | _ => rfl

namespace Recast

variable {g : Recast} {me : Option TaskId} {b b' : Bridge}

namespace Of

/-! ## Work in the background -/

theorem endPump (ho : g.Of me b b') (h : ReaderHandle) (stream : Stream) :
    g.Both me (b.endPump h stream) (b'.endPump h stream) := by
  have hwaiter : (b'.registry.reader h).channel.frameWaiter =
      (b.registry.reader h).channel.frameWaiter.map g.id := by
    rw [ho.reader_eq, status_frameWaiter]
  unfold Bridge.endPump
  dsimp only
  rw [hwaiter]
  refine ⟨rfl, wakeOne ((ho.dropStream stream).modifyStatus ?_ (fun _ _ => rfl) fun _ hp => ?_) _⟩
  · unfold Recast.status
    split <;> rfl
  · exact ⟨hp.buffer, hp.roomWaiter, hp.held⟩

/-- **A turn of a pump**, which is not the one of a reader with nothing in its channel. -/
theorem pump {id : TaskId} (ho : g.Of (some id) b b') {h : ReaderHandle} (hp : g.parked ≠ some h)
    (e : Reader) (stream : Stream) (inHand : Option Frame) :
    g.Both (some id) (b.pump id h e stream inHand) (b'.pump (g.id id) h e stream inHand) := by
  unfold Bridge.pump
  rw [ho.isCancelled]
  refine .ite Iff.rfl (ho.endPump h stream) ?_
  cases inHand with
  | none =>
    dsimp only
    rw [ho.service, Service.rename_nextFrame?, Service.rename_awaitFrame]
    cases hf : b.service.nextFrame? stream with
    | none =>
      exact ⟨rfl, ho.withService rfl (ho.numbered.service.awaitFrame (ho.turn id rfl) stream)⟩
    | some p => exact ⟨rfl, ho.withService rfl (ho.numbered.service.nextFrame? hf)⟩
  | some f =>
    have hstatus : b'.registry.reader h = (b.registry.reader h).rename g.id := by
      rw [ho.reader_eq, g.status_of_not_parked h _ hp]
    dsimp only
    rw [hstatus]
    refine .ite Iff.rfl (ho.endPump h stream) (.ite Iff.rfl ⟨rfl, ?_⟩ ?_)
    · refine ho.modifyReader ?_ (·.awaitRoom (ho.turn id rfl)) fun h' => absurd h' hp
      rw [g.status_of_not_parked h _ hp, g.status_of_not_parked h _ hp]
      rfl
    · have hput : g.Of (some id) (b.modifyReader h fun s =>
            { s with channel := { s.channel.push f with frameWaiter := none } })
          (b'.modifyReader h fun s =>
            { s with channel := { s.channel.push f with frameWaiter := none } }) := by
        refine ho.modifyStatus ?_ (fun _ _ => rfl) fun h' => absurd h' hp
        rw [g.status_of_not_parked h _ hp, g.status_of_not_parked h _ hp]
        rfl
      have hwoken := hput.wakeOne (b.registry.reader h).channel.frameWaiter
      exact .ite Iff.rfl (hwoken.endPump h stream) ⟨rfl, hwoken⟩

theorem sayNext {id : TaskId} (ho : g.Of (some id) b b') (client : ClientId)
    (left : List RemoteClose) :
    g.Both (some id) (b.sayNext id client left) (b'.sayNext (g.id id) client left) := by
  cases left with
  | nil => exact ⟨rfl, ho⟩
  | cons c left =>
    obtain ⟨refusal, b₁, b₁', h₁, h₁', hcall⟩ := (ho.call (some client) c.call).cases
    unfold Bridge.sayNext
    dsimp only
    rw [h₁, h₁']
    cases refusal with
    | some message => exact ⟨rfl, hcall⟩
    | none =>
      obtain ⟨course, b₂, b₂', h₂, h₂', hpass⟩ := (hcall.passHooks c.call.point).cases
      dsimp only
      rw [h₂, h₂']
      cases course <;> exact ⟨rfl, hpass⟩

/-- **A turn of a farewell.** -/
theorem farewell {id : TaskId} (ho : g.Of (some id) b b') (client : ClientId) (held : Option Held)
    (left : List RemoteClose) :
    g.Both (some id) (b.farewell id client held left) (b'.farewell (g.id id) client held left) := by
  cases held with
  | none => exact ho.sayNext client left
  | some held =>
    obtain ⟨course, b₁, b₁', h₁, h₁', hresume⟩ := (ho.resume held).cases
    unfold Bridge.farewell
    dsimp only
    rw [h₁, h₁']
    cases course with
    | held held => exact ⟨rfl, hresume⟩
    | refused message => exact hresume.sayNext client left
    | returned => exact hresume.sayNext client left

/-- Work in the background that goes on stays what it is. -/
theorem afterBackground {id : TaskId} {p p' : Progress Task Unit × Bridge}
    (hp : g.Both (some id) p p')
    (hplace : ∀ t, p.1 = .waits t ∨ p.1 = .goesOn t →
      g.task id t = t ∧ ∀ h, g.parked = some h → t.pumped? ≠ some h) :
    g.Of (some id) (Bridge.afterBackground id p) (Bridge.afterBackground (g.id id) p') := by
  obtain ⟨progress, b, b', rfl, rfl, ho⟩ := hp.cases
  cases progress with
  | ends u => exact ho.concludeBackground id
  | waits t =>
    obtain ⟨ht, hpump⟩ := hplace t (.inl rfl)
    exact ho.setTask id ht.symm hpump
  | goesOn t =>
    obtain ⟨ht, hpump⟩ := hplace t (.inr rfl)
    exact (ho.setTask id ht.symm hpump).goOn

/-! ## Turns of any task -/

/-- A task that is there has its turn. -/
theorem begins (ho : g.Of none b b') {id : TaskId} {t : Task} (ht : b.task? id = some t) :
    g.Of (some id) b b' :=
  { ho with
    turn := fun _ hi => Option.some.inj hi ▸ ho.numbered.tasks _ (Bridge.mem_of_task? ht) }

/-- The turn is over. -/
theorem ended (ho : g.Of me b b') : g.Of none b b' := { ho with turn := nofun }

/-- **A turn of any task** but the one that reads otherwise. -/
theorem poll (ho : g.Of none b b') {id : TaskId} (hid : g.reader ≠ some id) :
    g.Both none (b.poll id) (b'.poll (g.id id)) := by
  have hsame : ∀ t, g.task id t = t := fun _ => if_neg hid
  cases ht : b.task? id with
  | none =>
    unfold Bridge.poll
    rw [ho.task?, ht]
    exact ⟨rfl, ho⟩
  | some t =>
    have ht' : b'.task? (g.id id) = some t := by rw [ho.task?, ht, Option.map_some, hsame]
    have hturn := (ho.begins ht).takeTurn id
    suffices h : g.Both (some id) (b.poll id) (b'.poll (g.id id)) from ⟨h.1, h.2.ended⟩
    cases hs : t.stage? with
    | some stage =>
      rw [Bridge.poll_call ht hs, Bridge.poll_call ht' hs]
      exact hturn.pollCall hid _ stage
    | none =>
      unfold Bridge.poll
      rw [ht, ht']
      cases t with
      | call request stage => cases hs
      | payload text =>
        cases hd : RequestEnvelope.decode text with
        | error p =>
          dsimp only
          rw [hd]
          exact ⟨rfl, hturn.conclude id⟩
        | ok e => simp [Task.stage?, hd, Except.toOption] at hs
      | pump h e stream inHand =>
        have hp : g.parked ≠ some h := fun hp =>
          ho.unpumped h hp _ (Bridge.mem_of_task? ht) rfl
        refine ⟨rfl, afterBackground (hturn.pump hp e stream inHand) fun t htp => ?_⟩
        obtain ⟨stream', inHand', rfl⟩ :=
          ((b.takeTurn id).pump_pumped id h e stream inHand).place htp
        exact ⟨hsame _, fun x hx hxh => hp (hx.trans hxh.symm)⟩
      | farewell client held left =>
        refine ⟨rfl, afterBackground (hturn.farewell client held left) fun t htp => ?_⟩
        obtain ⟨held', left', rfl⟩ := farewell_place _ id client held left htp
        exact ⟨hsame _, fun _ _ => (Option.some_ne_none _).symm⟩

/-! ## Events -/

theorem release {id : TaskId} (ho : g.Of (some id) b b') (stage : Stage) :
    g.Of (some id) (b.release id stage) (b'.release (g.id id) stage) := by
  have hclose : ∀ {c c' : Bridge} (h : ReaderHandle) (reading : Reading), g.Of (some id) c c' →
      g.Of (some id) (if reading.closesReader then c.closeReader h else c)
        (if reading.closesReader then c'.closeReader h else c') := by
    intro c c' h reading hc
    split
    · exact hc.closeReader h
    · exact hc
  cases stage with
  | fresh c =>
    cases c with
    | read h reading => exact hclose h reading ho
    | _ => exact ho
  | executing s e stream held => exact ho.dropStream stream
  | awaitingTurn h e reading => exact hclose h reading (ho.giveUpLock h)
  | awaitingFrame h e reading => exact hclose h reading (ho.giveUpLock h)
  | draining =>
    refine ho.withTracker ?_ (ho.numbered.tracker.forget (ho.turn id rfl))
    rw [ho.tracker, Tracker.rename_forget g.id_injective]
  | _ => exact ho

/-- A task that reads otherwise gives up the same. -/
theorem abandon (ho : g.Of none b b') (id : TaskId) :
    g.Of none (b.abandon id) (b'.abandon (g.id id)) := by
  unfold Bridge.abandon
  rw [ho.task?]
  cases ht : b.task? id with
  | none => exact ho
  | some t =>
    have htask : g.task id t = t ∨ g.task id t = t.single := by
      unfold Recast.task
      split
      · exact .inr rfl
      · exact .inl rfl
    have hconclude := (ho.begins ht).conclude id
    rw [Option.map_some]
    cases t with
    | payload text => rcases htask with h | h <;> rw [h] <;> exact hconclude.ended
    | call request stage =>
      rcases htask with h | h <;> rw [h]
      · exact (hconclude.release stage).ended
      · show g.Of none _ ((b'.conclude (g.id id)).release (g.id id) stage.single)
        rw [Bridge.release_single]
        exact (hconclude.release stage).ended
    | pump h e stream inHand => rcases htask with h | h <;> rw [h] <;> exact ho
    | farewell client held left => rcases htask with h | h <;> rw [h] <;> exact ho

theorem feed (ho : g.Of me b b') (n : Nat) (frames : List Frame) :
    g.Of me (b.feed n frames).2 (b'.feed n frames).2 := by
  induction frames generalizing b b' with
  | nil => exact ho
  | cons f fs ih =>
    have hfed := (ho.withService (s := (b.service.feed n f).2.2) rfl
      (ho.numbered.service.feed n f)).wakeOne (b.service.feed n f).2.1
    unfold Bridge.feed
    rw [ho.service, Service.rename_feed]
    exact ih hfed

theorem far (ho : g.Of me b b') (act : FarAct) : g.Of me (b.far act) (b'.far act) := by
  cases act with
  | refuse p message => exact ho.modifyService (F := (·.refuse p message)) fun _ _ => rfl
  | plan p hooks =>
    exact ho.modifyService (F := fun s => { s with hooks := s.hooks ++ [(p, hooks)] })
      fun _ _ => rfl
  | script text script =>
    cases script with
    | frames frames =>
      exact ho.modifyService
        (F := fun s => { s with queries := s.queries ++ [(text, .fixed frames)] }) fun _ _ => rfl
    | live =>
      refine ho.modifyService (F := fun s => { s.newFeed.2 with
        queries := s.newFeed.2.queries ++ [(text, .live s.newFeed.1)] }) fun f s => ?_
      rw [Service.rename_newFeed]
      rfl
  | release gate =>
    show g.Of me (b.releaseGate gate) (b'.releaseGate gate)
    unfold Bridge.releaseGate
    rw [ho.service, Service.rename_release]
    exact (ho.withService rfl (ho.numbered.service.release gate)).wakeAll _
  | feed n frames => exact ho.feed n frames
  | endFeed n =>
    show g.Of me (b.endFeed n) (b'.endFeed n)
    unfold Bridge.endFeed
    rw [ho.service, Service.rename_endFeed]
    exact (ho.withService rfl (ho.numbered.service.endFeed n)).wakeOne _

/-- **An event**, unless it is a turn of the task that reads otherwise. -/
theorem step (ho : g.Of none b b') (e : Event) (he : ∀ id, g.reader = some id → e ≠ .turn id) :
    g.Of none (b.step e) (b'.step (e.rename g.id)) := by
  cases e with
  | call c => exact ho.submit fun _ _ => nofun
  | payload text => exact ho.submit fun _ _ => nofun
  | close target => exact ho.close target
  | turn id => exact (ho.poll fun h => he id h rfl).2
  | abandon id => exact ho.abandon id
  | far act => exact ho.far act
  | runtime x =>
    exact { ho with
      eq := by rw [ho.eq]; rfl
      numbered := { ho.numbered with } }

/-- **A run**, where no task reads otherwise. -/
theorem after (ho : g.Of none b b') (hr : g.reader = none) (es : List Event) :
    g.Of none (b.after es) (b'.after (es.map (Event.rename g.id))) := by
  induction es generalizing b b' with
  | nil => exact ho
  | cons e es ih => exact ih (ho.step e fun id hid => nomatch hr.symm.trans hid)

end Of

end Recast

/-! ## What is known of tasks -/

/-- Nothing is different. -/
def Recast.nothing : Recast := ⟨none, 0, 0, none⟩

/-- Where no task waits that has another number, only the frame held back is elsewhere. -/
theorem Registry.recast_eq {g : Recast} {r : Registry}
    (hr : ∀ h, (r.reader h).rename g.id = r.reader h) :
    r.recast g = g.parked.elim r (r.modifyReader · ReaderStatus.park) := by
  have hsame : ∀ h s, r.readerStatus.get? h = some s → s.rename g.id = s := fun h s hs => by
    have := hr h
    unfold reader at this
    rwa [hs] at this
  cases hp : g.parked with
  | none =>
    have hmap : r.readerStatus.mapEntries g.status = r.readerStatus := by
      refine HandleMap.ext_get? fun x => ?_
      rw [HandleMap.get?_mapEntries]
      cases hs : r.readerStatus.get? x with
      | none => rfl
      | some s =>
        rw [Option.map_some, g.status_of_not_parked x s (by rw [hp]; nofun), hsame x s hs]
    exact congrArg (fun m => { r with readerStatus := m }) hmap
  | some h =>
    have hmap : r.readerStatus.mapEntries g.status =
        r.readerStatus.modify h ReaderStatus.park := by
      refine HandleMap.ext_get? fun x => ?_
      rw [HandleMap.get?_mapEntries, HandleMap.get?_modify]
      cases hs : r.readerStatus.get? x with
      | none => split <;> rfl
      | some s =>
        by_cases hx : x = h
        · rw [if_pos hx, Option.map_some, g.status_of_parked x s (hx ▸ hp), hsame x s hs]
          rfl
        · have hne : g.parked ≠ some x := fun h' => hx (Option.some.inj (h'.symm.trans hp))
          rw [if_neg hx, Option.map_some, g.status_of_not_parked x s hne, hsame x s hs]
    exact congrArg (fun m => { r with readerStatus := m }) hmap

namespace Bridge

variable {b : Bridge}

namespace Numbered

/-- A bridge in its own place. -/
theorem itself (hb : b.Numbered) : Recast.nothing.Of none b (b.recast .nothing) where
  eq := rfl
  first := Nat.zero_le _
  reader := nofun
  turn := nofun
  numbered := hb
  parked := nofun
  unpumped := nofun

theorem step (hb : b.Numbered) (e : Event) : (b.step e).Numbered :=
  (hb.itself.step e nofun).numbered

/-- Tasks that are not known may have any numbers. -/
theorem recast_eq (hb : b.Numbered) {g : Recast} (hg : Keeps g.id b.nextTask) :
    b.recast g = { b with
      registry := g.parked.elim b.registry (b.registry.modifyReader · ReaderStatus.park)
      tasks := b.tasks.map fun p => (p.1, g.task p.1 p.2)
      nextTask := g.id b.nextTask } := by
  have htasks : b.tasks.map (fun p => (g.id p.1, g.task p.1 p.2)) =
      b.tasks.map fun p => (p.1, g.task p.1 p.2) :=
    List.map_congr_left fun p hp => by rw [hg.keeps _ (hb.tasks p hp)]
  have hready : b.ready.map g.id = b.ready := by
    conv_rhs => rw [← List.map_id b.ready]
    exact List.map_congr_left fun id hid => hg.keeps _ (hb.ready id hid)
  have hregistry := Registry.recast_eq fun h => hb.readers h _ hg
  unfold recast
  rw [htasks, hready, hregistry, hb.service _ hg, hb.tracker _ hg]

end Numbered

/-- **In every bridge that a run leads to**, all tasks that are known have got their numbers. -/
theorem Reachable.numbered (hb : b.Reachable) : b.Numbered := by
  induction hb with
  | start sessionIds hangs config hasRuntime =>
    refine ⟨fun p hp => absurd hp List.not_mem_nil, fun id hid => absurd hid List.not_mem_nil,
      fun _ _ => rfl, fun _ _ => rfl, fun _ => ?_⟩
    exact ReaderStatus.idle_default.below
  | step e _ ih => exact ih.step e

end Bridge

end QueryBridge
