import QueryBridge.Bridge.Inspect
import QueryBridge.Proofs.Bridge.Lone
import QueryBridge.Proofs.Bridge.Pulls

/-!
# A batch of chunks, and the chunks one by one

A reading of all that is there answers what readings of the next chunk answer
one after another, and nobody can tell later which of the two it was.

* `Abreast`: two bridges until the readings end.
* `Abreast.ends`: how they end.
* `batch_read_is_single_reads`: **a reading of all that is there is so many readings of the next
  chunk.**
-/

namespace QueryBridge

variable {b b' : Bridge} {id : TaskId} {h : ReaderHandle} {e : Reader} {o : Outcome}

/-- One task reads the next chunk where it would read all that is there. -/
def Recast.reads (id : TaskId) : Recast := ⟨some id, 0, 0, none⟩

namespace Recast.reads

theorem id_eq (id i : TaskId) : (reads id).id i = i := rfl

theorem rename_eq (id : TaskId) (e : Event) : e.rename (reads id).id = e := by cases e <;> rfl

theorem keeps (id n : TaskId) : Keeps (reads id).id n := ⟨(reads id).id_injective, fun _ _ => rfl⟩

theorem task_of_ne {i : TaskId} (hi : i ≠ id) (t : Task) : (reads id).task i t = t :=
  if_neg fun h => hi (Option.some.inj h).symm

theorem task_self (id : TaskId) (t : Task) : (reads id).task id t = t.single := if_pos rfl

/-- When the task is over, nothing is different. -/
theorem eq_of_over {me : Option TaskId} (ho : (reads id).Of me b b') (ht : b.task? id = none) :
    b' = b := by
  have htasks : b.tasks.map (fun p => (p.1, (reads id).task p.1 p.2)) = b.tasks := by
    conv_rhs => rw [← List.map_id b.tasks]
    refine List.map_congr_left fun p hp => ?_
    rw [task_of_ne (Bridge.task?_eq_none.1 ht p hp)]
    rfl
  rw [ho.eq, ho.numbered.recast_eq (keeps id _), htasks]
  rfl

end Recast.reads

/-- In the first bridge a call reads all that is there, in the second one the next chunk, and
nothing else is different. -/
structure Abreast (id : TaskId) (h : ReaderHandle) (b b' : Bridge) : Prop where
  recast : (Recast.reads id).Of none b b'
  batch : ∃ stage, b.task? id = some (.call none stage) ∧ stage.batch? = some h

namespace Abreast

/-- Both readings begin. -/
theorem begin (hn : b.Numbered) (h : ReaderHandle) :
    Abreast b.nextTask h (b.step (.call (.read h .available)))
      (b.step (.call (.read h .next))) := by
  have hnumbered := hn.step (.call (.read h .available))
  have hnew : b.task? b.nextTask = none :=
    Bridge.task?_eq_none.2 fun p hp he => Nat.lt_irrefl _ (he ▸ hn.tasks p hp)
  refine ⟨⟨?_, Nat.zero_le _, ?_, nofun, hnumbered, nofun, nofun⟩, ?_⟩
  · rw [hnumbered.recast_eq (Recast.reads.keeps b.nextTask _)]
    have hold : b.tasks.map (fun p => (p.1, (Recast.reads b.nextTask).task p.1 p.2)) = b.tasks := by
      conv_rhs => rw [← List.map_id b.tasks]
      refine List.map_congr_left fun p hp => ?_
      rw [Recast.reads.task_of_ne (Bridge.task?_eq_none.1 hnew p hp)]
      rfl
    show _ = { (b.step (.call (.read h .available))) with
      tasks := (b.tasks ++ [(b.nextTask, Task.call none (.fresh (.read h .available)))]).map
        fun p : TaskId × Task => (p.1, (Recast.reads b.nextTask).task p.1 p.2) }
    rw [List.map_append, hold, List.map_singleton, Recast.reads.task_self]
    rfl
  · exact fun i hi => Option.some.inj hi ▸ Nat.lt_succ_self _
  · refine ⟨.fresh (.read h .available), ?_, rfl⟩
    show (b.tasks ++ [(b.nextTask, _)]).lookup b.nextTask = _
    rw [List.lookup_append, show b.tasks.lookup b.nextTask = none from hnew]
    simp

/-- **A turn of the two readings.** Both wait, or both have ended with at most one chunk, or there
are chunks. -/
theorem poll (hb : BridgeOK b none none) (ha : Abreast id h b b') :
    (b.poll id).1 = none ∧ Abreast id h (b.poll id).2 (b'.poll id).2 ∨
    (∃ o : Outcome, o.EndsBatch ∧ o.singly = [o.first] ∧ (b.poll id).1 = some o ∧
      b'.poll id = (some o.first, (b.poll id).2)) ∨
    ∃ stage b₁ e, b.task? id = some (.call none stage) ∧
      (b.takeTurn id).TakesAll id h stage b₁ e ∧
      ∀ o, (b₁.nextFrame id h e .next).1 = .ends o →
        ((b₁.nextFrame id h e .next).2.conclude id).Numbered ∧
        b'.poll id = (some o, (b₁.nextFrame id h e .next).2.conclude id) := by
  obtain ⟨stage, ht, hs⟩ := ha.batch
  have ht' : b'.task? id = some (.call none stage.single) := by
    have := ha.recast.task? id
    rwa [Recast.reads.id_eq, ht, Option.map_some, Recast.reads.task_self] at this
  obtain ⟨hok, hstage, -⟩ := Bridge.call_ok hb ht rfl
  -- the turn of the second reading, in either bridge
  obtain ⟨p, b₂, b₂', h₂, h₂', hturn⟩ :=
    (((ha.recast.begins ht).takeTurn id).turned stage.single).cases
  change (b'.takeTurn id).turn id stage.single = (p, b₂') at h₂'
  have hpoll' := Bridge.poll_call ht' rfl
  unfold Bridge.pollCall at hpoll'
  rw [h₂'] at hpoll'
  have hends : ∀ o, p = .ends o →
      (b₂.conclude id).Numbered ∧ b'.poll id = (some o, b₂.conclude id) := by
    rintro o rfl
    have hafter := (hturn.conclude id).ended
    exact ⟨hafter.numbered, hpoll'.trans (congrArg (Prod.mk (some o))
      (Recast.reads.eq_of_over hafter (Bridge.task?_conclude _ id)))⟩
  obtain ⟨heq, hone⟩ | ⟨b₁, e, hall⟩ := Bridge.turn_single hok hstage hs
  · obtain ⟨rfl, rfl⟩ := Prod.mk.inj (h₂.symm.trans heq)
    have hpoll := Bridge.poll_call ht rfl
    unfold Bridge.pollCall at hpoll
    have hcases := Bridge.poll_call_cases hb ht rfl
    generalize (b.takeTurn id).turn id stage = t at hone hturn hends hpoll hpoll' hcases
    obtain ⟨q, b₁⟩ := t
    cases hone with
    | @ends o hbatch hsingly =>
      refine .inr (.inl ⟨o, hbatch, hsingly, congrArg Prod.fst hpoll, ?_⟩)
      rw [(hends o.first rfl).2, hpoll]
    | @waits s hs' =>
      obtain ⟨o, ho, -⟩ | ⟨s', hstays, hnone, hnew⟩ := hcases
      · cases ho
      obtain rfl : s' = s := by rcases hstays with hw | hw <;> cases hw; rfl
      refine .inl ⟨hnone, ?_, s', hnew, hs'⟩
      rw [hpoll, hpoll']
      exact (hturn.putBack id none (Recast.reads.task_self id (.call none s')).symm).ended
  · refine .inr (.inr ⟨stage, b₁, e, ht, hall, fun o ho => ?_⟩)
    have hnext := hall.next
    rw [h₂] at hnext
    rw [← hnext] at ho ⊢
    exact hends o ho

/-- A reading that has ended is over. -/
theorem ended (hb : BridgeOK b none none) (ha : Abreast id h b b') (ho : (b.poll id).1 = some o) :
    (b.poll id).2.task? id = none := by
  obtain ⟨stage, ht, -⟩ := ha.batch
  obtain ⟨o', -, -, hover⟩ | ⟨s, -, hnone, -⟩ := Bridge.poll_call_cases hb ht rfl
  · exact hover
  · cases hnone.symm.trans ho

/-- **An event** that does not bring the readings to their end. -/
theorem step (hb : BridgeOK b none none) (ha : Abreast id h b b') {e : Event}
    (hlive : (b.step e).task? id ≠ none) : Abreast id h (b.step e) (b'.step e) := by
  obtain ⟨stage, ht, hs⟩ := ha.batch
  by_cases he : e = .turn id
  · subst he
    obtain ⟨-, hwait⟩ | ⟨o, -, -, ho, -⟩ | ⟨stage', b₁, e, ht', hall, -⟩ := ha.poll hb
    · exact hwait
    · exact absurd (ha.ended hb ho) hlive
    · obtain ⟨o, ho⟩ := hall.supplies.ends
      obtain ⟨o', -, -, hover⟩ | ⟨s, hstays, -⟩ := Bridge.poll_call_cases hb ht' rfl
      · exact absurd hover hlive
      · rw [hall.all, ho] at hstays
        rcases hstays with hw | hw <;> cases hw
  · have hstep := ha.recast.step e fun i hi => Option.some.inj hi ▸ he
    rw [Recast.reads.rename_eq] at hstep
    refine ⟨hstep, stage, (step_steps hb e).keeps id _ (fun hid => ?_) ht, hs⟩
    cases e with
    | turn i => exact he (congrArg Event.turn (Option.some.inj hid).symm)
    | abandon i =>
      obtain rfl := Option.some.inj hid
      exact hlive (Bridge.abandon_over hb ht rfl)
    | call c => cases hid
    | payload text => cases hid
    | close target => cases hid
    | far act => cases hid
    | runtime x => cases hid

/-- **A run** that does not bring the readings to their end. -/
theorem after (hb : BridgeOK b none none) (ha : Abreast id h b b') (es : List Event)
    (hlive : (b.after es).task? id ≠ none) : Abreast id h (b.after es) (b'.after es) := by
  induction es generalizing b b' with
  | nil => exact ha
  | cons e es ih =>
    obtain ⟨stage, ht, -⟩ := ha.batch
    obtain ⟨t', ht'⟩ := Option.ne_none_iff_exists'.1 hlive
    exact ih (step_steps hb e).ok (ha.step hb (step_live hb ht ht')) hlive

/-- **How the readings end** if nobody else reads the reader. -/
theorem ends (hb : b.Reachable) (ha : Abreast id h b b')
    (halone : b.ReadBy h id) (ho : (b.poll id).1 = some o) :
    ∃ parked, (b'.poll id).1 = some o.first ∧
      Bridge.Singly h (b.poll id).2 (b'.poll id).2 o parked := by
  obtain ⟨hnone, -⟩ | ⟨o', hbatch, hsingly, hpoll, hpoll'⟩ | ⟨stage, b₁, e, ht, hall, hends⟩ :=
    ha.poll hb.ok
  · cases hnone.symm.trans ho
  · obtain rfl := Option.some.inj (hpoll.symm.trans ho)
    refine ⟨none, congrArg Prod.fst hpoll', hbatch, by rw [hsingly]; rfl, ?_, .inl rfl⟩
    rw [hsingly, hpoll']
    rfl
  · have hlock := hall.lock (hb.locks.begins ht rfl) (halone.members hb)
    have hstatus : ∀ {α : Type} (F : ReaderStatus → α),
        (∀ s : ReaderStatus, F { s with lock := s.lock.enter id } = F s) →
        F (b₁.registry.reader h) = F (b.registry.reader h) := by
      intro α F hF
      obtain ⟨-, rfl⟩ | ⟨-, rfl⟩ := hall.place
      · rfl
      · exact b.registry.reader_modify_keeps h (g := F) (hF _) h
    have hreaders : b₁.registry.readers = b.registry.readers := by
      obtain ⟨-, rfl⟩ | ⟨-, rfl⟩ := hall.place <;> rfl
    obtain ⟨feed, p, Z, T, F, hc⟩ := hb.carries (HandleTable.issued_of_get? hall.live)
    have hstate := hstatus ReaderStatus.state fun _ => rfl
    have hcontents := hstatus ReaderStatus.contents fun _ => rfl
    obtain ⟨-, hZ⟩ := hc.flow.active (hstate.symm.trans hall.supplies.active)
    -- only the last frame is not data
    have hlast : ∀ f ∈ (b₁.registry.reader h).contents.dropLast, f.isData = true := by
      rw [hcontents]
      intro f hf
      refine hc.flow.data f ?_
      rw [hZ, List.dropLast_append_of_ne_nil fun hnil => ?_]
      · exact List.mem_append_right _ hf
      · rw [hnil] at hf
        cases hf
    have hheld : ∀ f, (b₁.registry.reader h).held = some f → f.isTerminal = true := by
      rw [hstatus ReaderStatus.held fun _ => rfl]
      exact hc.fits.held
    obtain ⟨o', parked, hbatch, hnext, hsingly⟩ := hall.supplies.singly
      (hreaders ▸ hall.live) hlock hheld hlast fun o ho => (hends o ho).1
    have hpoll := Bridge.poll_call ht rfl
    unfold Bridge.pollCall at hpoll
    rw [hall.all, show b₁.takeAvailable id h e = (.ends o', _) from Prod.ext hbatch rfl] at hpoll
    rw [hpoll] at ho ⊢
    obtain rfl := Option.some.inj ho
    rw [(hends _ hnext).2]
    exact ⟨parked, rfl, hsingly⟩

end Abreast

/-! ## Afterwards -/

/-- More tasks have begun in the second bridge and are over, and the frame that a reader holds back
in the first one is still in its channel there. -/
def Recast.later (b : Bridge) (n : Nat) (parked : Option ReaderHandle) : Recast :=
  ⟨none, b.nextTask, n, parked⟩

theorem besides_eq (hb : b.Numbered) (n : Nat) (parked : Option ReaderHandle) :
    b.besides n parked = b.recast (.later b n parked) := by
  have hkeeps : Keeps (Recast.later b n parked).id b.nextTask :=
    ⟨Recast.id_injective _, fun _ hi => if_pos hi⟩
  have htasks : b.tasks.map (fun p => (p.1, (Recast.later b n parked).task p.1 p.2)) = b.tasks :=
    List.map_id b.tasks
  have hnext : (Recast.later b n parked).id b.nextTask = b.nextTask + n :=
    if_neg (Nat.lt_irrefl _)
  rw [hb.recast_eq hkeeps, htasks, hnext]
  rfl

/-- The pump of a reader that holds a failure back is over. -/
theorem Bridge.HoldsBack.unpumped (hh : b.HoldsBack h) (hb : b.Reachable) :
    ∀ p ∈ b.tasks, p.2.pumped? ≠ some h := by
  obtain ⟨message, hheld⟩ := hh.held
  obtain ⟨feed, p, Z, T, F, hc⟩ := hb.carries hh.parks.1
  obtain ⟨-, hZ⟩ := hc.flow.active hh.active
  have hlast : .failure message ∈ Z := by
    rw [hZ]
    simp [ReaderStatus.contents, hheld]
  cases p with
  | none => exact fun q hq => hc.pump q hq (Option.some_ne_none _)
  | some q => exact absurd ((hc.flow.pumping q rfl).2.1 _ hlast) Bool.false_ne_true

theorem later_of (hb : b.Reachable) (n : Nat) {parked : Option ReaderHandle}
    (hp : parked = none ∨ parked = some h ∧ b.HoldsBack h) :
    (Recast.later b n parked).Of none b (b.besides n parked) where
  eq := besides_eq hb.numbered n parked
  first := Nat.le_refl _
  reader := nofun
  turn := nofun
  numbered := hb.numbered
  parked x hx := by
    obtain rfl | ⟨rfl, hh⟩ := hp
    · cases hx
    · exact Option.some.inj hx ▸ hh.parks
  unpumped x hx := by
    obtain rfl | ⟨rfl, hh⟩ := hp
    · cases hx
    · exact Option.some.inj hx ▸ hh.unpumped hb

/-- The second bridge is the first one recast, and whatever is asked of it has the same answer. -/
structure Twins (g : Recast) (b b' : Bridge) : Prop where
  eq : b' = b.recast g
  /-- Every task has the same turn, under its own number. -/
  answers : ∀ id, (b'.poll (g.id id)).1 = (b.poll id).1
  readerState : ∀ h, b'.readerState h = b.readerState h

theorem Recast.Of.twins {g : Recast} (ho : g.Of none b b') (hr : g.reader = none) :
    Twins g b b' := by
  have hother : ∀ i, g.reader ≠ some i := fun i => by
    rw [hr]
    nofun
  refine ⟨ho.eq, fun i => (ho.poll (hother i)).1, fun x => ?_⟩
  have hfind : b'.registry.findReader x = b.registry.findReader x := by
    rw [ho.registry]
    rfl
  unfold Bridge.readerState
  rw [hfind, ho.reader_eq, g.status_state]

/-- **A reading of all that is there is so many readings of the next chunk.** In one bridge a call
reads all that is there, in another one like it a call reads the next chunk and others follow it,
and nobody else reads the reader meanwhile. Then they answer the same chunks, the end of the stream
if there is no more to come, or the same failure. The second bridge is the first one with other
tasks that are over, and with a failure that is held back in the first one still in the channel.
Whatever happens to both later, they stay alike. -/
theorem batch_read_is_single_reads (hb : b.Reachable) (es : List Event)
    (halone : ∀ p ∈ b.tasks, p.2.reader? ≠ some h) (hes : ∀ e ∈ es, e.reader? ≠ some h)
    (ho : (((b.step (.call (.read h .available))).after es).poll b.nextTask).1 = some o) :
    let batch := (((b.step (.call (.read h .available))).after es).poll b.nextTask).2
    let first := ((b.step (.call (.read h .next))).after es).poll b.nextTask
    let others := first.2.pulls h o.singly.tail.length
    o.EndsBatch ∧ first.1 :: others.1 = o.singly.map some ∧
      ∃ parked, others.2 = batch.besides o.singly.tail.length parked ∧
        (parked = none ∨ parked = some h ∧ batch.HoldsBack h) ∧
        ∀ es', let g := Recast.later batch o.singly.tail.length parked
          Twins g (batch.after es') (others.2.after (es'.map (Event.rename g.id))) := by
  intro batch first others
  have hbegun := hb.step (.call (.read h .available))
  have hrun := hbegun.after es
  -- until the readings end
  have hreads : (b.step (.call (.read h .available))).ReadBy h b.nextTask := by
    intro p hp hread
    rcases List.mem_append.1 hp with hp | hp
    · exact absurd hread (halone p hp)
    · rw [List.mem_singleton.1 hp]
  have hlive : ((b.step (.call (.read h .available))).after es).task? b.nextTask ≠ none := by
    intro hnone
    unfold Bridge.poll at ho
    rw [hnone] at ho
    cases ho
  have habreast := (Abreast.begin hb.numbered h).after hbegun.ok es hlive
  obtain ⟨parked, hfirst, hsingly⟩ :=
    habreast.ends hrun (Bridge.after_readBy hbegun.ok hreads es hes) ho
  have hbatch : batch.Reachable := .step (.turn b.nextTask) hrun
  refine ⟨hsingly.batch, ?_, parked, congrArg Prod.snd hsingly.pulls, hsingly.parked, ?_⟩
  · rw [hsingly.answers, List.map_cons]
    exact congrArg₂ List.cons hfirst (congrArg Prod.fst hsingly.pulls)
  · intro es' g
    rw [show others.2 = batch.besides _ parked from congrArg Prod.snd hsingly.pulls]
    exact ((later_of hbatch _ hsingly.parked).after rfl es').twins rfl

/-- A stream of two chunks that fails then: the failure is held back behind the batch. -/
theorem batch_read_of_failing_stream :
    let b := Bridge.fresh.after [.far (.script "q" (.frames [.data [7], .data [8], .failure "x"])),
      .call (.openConnection "a://b" none), .turn 0, .call (.createSession ⟨1⟩), .turn 1,
      .call (.executeQuery ⟨1⟩ "q"), .turn 2]
    let es : List Event := [.turn 3, .turn 3, .turn 3, .turn 3, .turn 3, .turn 3]
    let batch := ((b.step (.call (.read ⟨1⟩ .available))).after es).poll 4
    let first := ((b.step (.call (.read ⟨1⟩ .next))).after es).poll 4
    let others := first.2.pulls ⟨1⟩ 1
    batch.1 = some (.replied (.batch [[7], [8]] false)) ∧
      first.1 :: others.1 =
        [some (.replied (.chunk (some [7]))), some (.replied (.chunk (some [8])))] ∧
      ∃ parked, others.2 = batch.2.besides 1 parked ∧
        (parked = none ∨ parked = some ⟨1⟩ ∧ batch.2.HoldsBack ⟨1⟩) := by
  intro b es batch first others
  have hb : b.Reachable := Bridge.fresh_reachable.after _
  have ho : batch.1 = some (.replied (.batch [[7], [8]] false)) := by decide +kernel
  obtain ⟨-, hanswers, parked, hafter, hheld, -⟩ := batch_read_is_single_reads hb (h := ⟨1⟩) es
    (by decide +kernel) (by decide +kernel) ho
  exact ⟨ho, hanswers, parked, hafter, hheld⟩

end QueryBridge
