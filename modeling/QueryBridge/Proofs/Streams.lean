import QueryBridge.Proofs.Bridge.Pace

/-!
# Query streams

A query stream that is used up by one consumer gives it the chunks that are left of
its stream, in order, up to the first frame that is not data. The end of the stream
ends the consumer, and a failure fails it. When the query stream is dropped, nothing
is left of its reader, whatever the consumer has been given by then, and nothing
else was touched.

* `Consumer.EndsOn`: how a consumer ends on what a stream has yielded.
* `Registry.Forgets`: nothing is left of a reader.
* `Bridge.KeepsTo`: what an event of a reading does not touch.
* `Bridge.Attends`: a consumer in the middle of a run.
* `query_stream_used_up`: every consumer in every run.
* `collected_still_marked`: a query stream that is only borrowed keeps its marker.
-/

namespace QueryBridge

variable {b b' b'' : Bridge} {h : ReaderHandle} {id pump : TaskId} {feed : Option Nat}
  {c : Consumer} {cs given : List Bytes} {p : Option Pumping} {Z T F : List Frame}
  {failure : Option Failure} {stage : Stage} {reading : Reading}

/-! ## Ends -/

/-- How a consumer ends that was handed these chunks, where others were given before. The stream has
yielded these frames, and may have run out. -/
inductive Consumer.EndsOn (c : Consumer) (cs given : List Bytes) (yielded : List Frame)
    (ranOut : Prop) : Option Failure → Prop
  | sated : c.isSated cs = true → EndsOn c cs given yielded ranOut none
  | finished : given ++ cs = (Channel.takeRun yielded).1 →
    ((Channel.takeRun yielded).2.head? = some .finish ∨
      (Channel.takeRun yielded).2 = [] ∧ ranOut) → EndsOn c cs given yielded ranOut none
  | failed {message : String} : given ++ cs = (Channel.takeRun yielded).1 →
    (Channel.takeRun yielded).2.head? = some (.failure message) →
    EndsOn c cs given yielded ranOut (some (.transportFailure message))

/-- The marker of a reader is there only if its stream has ended. -/
theorem RegistryOK.state_of_marked {r : Registry} (hr : RegistryOK r)
    (hl : r.life h = .exhausted) : (r.reader h).state = .exhausted := by
  obtain ⟨-, hmarked⟩ := Registry.marked_of_life hl
  obtain ⟨s, hs⟩ := hr.marked h hmarked
  exact (hr.ended s h hs).1

/-- **A consumer ends** on the first frame of the stream that is not data. -/
theorem Bridge.Ends.endsOn (hb : b.Reachable) (hc : b.Carries none h feed p Z T F)
    (hT : bytesOf T = given ++ cs) (hends : b.Ends h c cs failure) :
    c.EndsOn cs given F (b.service.RanOut feed) failure := by
  cases hends with
  | sated hsated => exact .sated hsated
  | spent hl =>
    obtain ⟨-, -, hlast⟩ := hc.flow.exhausted (hb.ok.registry.state_of_marked hl)
    obtain ⟨hall, hfirst⟩ := hc.flow.ended hlast rfl
    exact .finished (hT.symm.trans hall) (hfirst.imp_right fun hr => hr.2)
  | finished hl hfs =>
    obtain ⟨hall, hfirst⟩ := hc.flow.ended_next (state_of_life hb.ok.registry hl) hfs rfl
    exact .finished (hT.symm.trans hall) (hfirst.imp_right fun hr => hr.2)
  | failed hl hfs =>
    obtain ⟨hall, hfirst⟩ := hc.flow.ended_next (state_of_life hb.ok.registry hl) hfs rfl
    exact .failed (hT.symm.trans hall) (hfirst.resolve_right fun hr => nomatch hr.1)

/-! ## What is left of a reader -/

/-- Nothing is left of a reader. -/
structure Registry.Forgets (r : Registry) (h : ReaderHandle) : Prop where
  notLive : r.readers.get? h = none
  notMarked : r.exhausted.contains h = false
  unlisted : ∀ s, h ∉ (r.session s).readers

theorem RegistryOK.forgets {r : Registry} (hr : RegistryOK r) (hl : r.life h = .gone) :
    r.Forgets h := by
  obtain ⟨hlive, hmarked⟩ := Registry.bare_of_life (.inr hl)
  refine ⟨hlive, by rw [HandleMap.contains, hmarked]; rfl, fun s hlisted => ?_⟩
  obtain ⟨e, he, -⟩ := (hr.readers s h).1 hlisted
  rw [hlive] at he
  cases he

/-- **A reader that is closed** is forgotten, whether it is live or only its marker is there. -/
theorem close_forgets (hb : b.Reachable) (hissued : b.registry.readers.Issued h) :
    (b.step (.close (.reader h))).registry.Forgets h := by
  refine (hb.step _).ok.registry.forgets ?_
  rw [step_life hb.ok hb.spent]
  have hclosed : (b.closedIn (.close (.reader h))).any (b.registry.takesReader h) = true :=
    Bridge.takesReader_self b.registry h
  cases hl : b.registry.life h with
  | never => exact absurd hissued ((Registry.life_eq_never hb.ok.registry).1 hl)
  | active => exact Bridge.lifeAfter_of_closed rfl hclosed
  | exhausted => exact Bridge.lifeAfter_of_closed rfl hclosed
  | gone => rfl

/-! ## What is not touched -/

/-- Nothing has changed but a task, and a reader: other readers, sessions and connections are as
they were, other tasks where they were, and nothing has been said to the service. -/
structure Bridge.KeepsTo (id : TaskId) (h : ReaderHandle) (b b' : Bridge) : Prop where
  registry : b.registry.SameBut h b'.registry
  task : ∀ i, i ≠ id → b'.task? i = b.task? i
  service : b'.service = b.service
  tracker : b'.tracker = b.tracker

namespace Bridge.KeepsTo

theorem refl (id : TaskId) (h : ReaderHandle) (b : Bridge) : KeepsTo id h b b :=
  ⟨.refl h _, fun _ _ => rfl, rfl, rfl⟩

theorem trans (h₁ : KeepsTo id h b b') (h₂ : KeepsTo id h b' b'') : KeepsTo id h b b'' where
  registry := h₁.registry.trans h₂.registry
  task i hi := (h₂.task i hi).trans (h₁.task i hi)
  service := h₂.service.trans h₁.service
  tracker := h₂.tracker.trans h₁.tracker

theorem of_touches (ht : Touches h b b') : KeepsTo id h b b' :=
  ⟨ht.registry, fun i _ => ht.toCalm.task? i, ht.service, ht.tracker⟩

theorem takeTurn (b : Bridge) : KeepsTo id h b (b.takeTurn id) :=
  ⟨.refl h _, fun _ _ => rfl, rfl, rfl⟩

theorem conclude (b : Bridge) : KeepsTo id h b (b.conclude id) :=
  ⟨.refl h _, fun _ hi => task?_conclude_of_ne hi b, rfl, rfl⟩

theorem setTask (b : Bridge) (t : Task) : KeepsTo id h b (b.setTask id t) :=
  ⟨.refl h _, fun _ hi => task?_setTask_of_ne hi b t, rfl, rfl⟩

theorem goOn (b : Bridge) : KeepsTo id h b (b.goOn id) :=
  ⟨.refl h _, fun _ _ => rfl, rfl, rfl⟩

end Bridge.KeepsTo

namespace Bridge

/-- **A turn of a reading** keeps to its reader. -/
theorem poll_keepsTo (hb : BridgeOK b none none) (ht : b.task? id = some (.call none stage))
    (hr : stage.reading? = some (h, reading)) : KeepsTo id h b (b.poll id).2 := by
  obtain ⟨hok, -, -⟩ := call_ok hb ht rfl
  have hturn := turn_serves hok hr id
  have hbefore : KeepsTo id h b ((b.takeTurn id).turn id stage).2 :=
    (KeepsTo.takeTurn b).trans (.of_touches hturn.toTouches)
  rw [poll_call ht rfl]
  unfold pollCall
  generalize (b.takeTurn id).turn id stage = t at hbefore
  obtain ⟨q, b₁⟩ := t
  cases q with
  | ends o => exact hbefore.trans (.conclude b₁)
  | waits s =>
    have hset := hbefore.trans (.setTask b₁ (.call none s))
    dsimp only
    split
    · exact hset.trans (.of_touches (.wakeAll _ [id]))
    · exact hset
  | goesOn s => exact (hbefore.trans (.setTask b₁ (.call none s))).trans (.goOn _)

/-- **A reading that is given up** keeps to its reader. -/
theorem abandon_keepsTo (ht : b.task? id = some (.call none stage))
    (hr : stage.reading? = some (h, reading)) : KeepsTo id h b (b.abandon id) := by
  unfold abandon
  rw [ht]
  exact (KeepsTo.conclude b).trans (.of_touches (release_serves hr _ id).toTouches)

/-! ## In the middle of a run -/

/-- A consumer in the middle of a run, or after it is over. Chunks were given to others before it
began, and then it was handed these. The stream has yielded these frames. -/
structure Attends (b : Bridge) (id pump : TaskId) (h : ReaderHandle) (feed : Option Nat)
    (c : Consumer) (given cs : List Bytes) (yielded : List Frame) : Prop where
  /-- Chunks come in order and without a gap. -/
  inOrder : given ++ cs <+: (Channel.takeRun yielded).1
  /-- It goes on with all that it was handed. -/
  reads : ∀ t, b.task? id = some t →
    ∃ stage, t = .call none stage ∧ stage.reading? = some (h, c.reading cs)
  /-- It is answered with all that it was handed, up to the end or the failure of the stream. -/
  told : ∀ o, (b.poll id).1 = some o → ∃ failure, o = c.outcome cs failure ∧
    c.EndsOn cs given yielded (b.service.RanOut feed) failure ∧
    (b.poll id).2.registry.life h = c.leaves failure ∧
    (c.leaves failure = .gone → (b.poll id).2.registry.Forgets h)
  /-- When it is over and has dropped the query stream, nothing is left. -/
  forgotten : b.task? id = none → c.drops = true → b.registry.Forgets h
  /-- So it is when the query stream is dropped here. -/
  dropped : (b.step (.close (.reader h))).registry.Forgets h
  /-- All that it does keeps to its reader. -/
  keepsTo : ∀ ev ∈ [Event.turn id, .abandon id, .close (.reader h)], b.KeepsTo id h (b.step ev)
  /-- After so many rounds that are fair to it and to the pump, it is answered, or was handed all
  that the stream had yielded, where the stream has not come to an end. -/
  answered : (b.task? id).isSome = true → ∀ rounds, b.LeftTo h id rounds.flatten →
    .abandon id ∉ rounds.flatten → b.Fair [pump, id] rounds →
    3 * (Channel.takeRun yielded).1.length + 2 * max b.config.chunkBuffer.toNat 1 + 1 <
      rounds.length →
    b.AnsweredIn id rounds.flatten ∨
      (Channel.takeRun yielded).1 <+: given ++ cs ++ b.handedOut h rounds.flatten ∧
        (Channel.takeRun yielded).2 = [] ∧ ¬ b.service.RanOut feed

/-- A reading, or one that is over, keeps to its reader in its turn, and when it is given up, and
so does the query stream when it is dropped. -/
theorem own_keepsTo (hturn : KeepsTo id h b (b.poll id).2)
    (habandon : KeepsTo id h b (b.abandon id)) :
    ∀ ev ∈ [Event.turn id, .abandon id, .close (.reader h)], KeepsTo id h b (b.step ev) := by
  intro ev hev
  simp only [List.mem_cons, List.not_mem_nil, or_false] at hev
  rcases hev with rfl | rfl | rfl
  · exact hturn
  · exact habandon
  · exact .of_touches (.closeReader b h)

/-- A consumer that is over. -/
theorem Over.attends (hb : b.Reachable) (hc : b.Carries none h feed p Z T F)
    (hT : bytesOf T = given ++ cs) (ho : b.Over id h c) :
    b.Attends id pump h feed c given cs F := by
  have hpoll : b.poll id = (none, b) := poll_over ho.done
  have habandon : b.abandon id = b := by
    unfold abandon
    rw [ho.done]
  refine ⟨hT ▸ hc.flow.data_prefix, fun t ht => ?_, fun o hanswer => ?_, fun _ hd => ?_,
    close_forgets hb hc.issued, own_keepsTo ?_ ?_, fun hsome => ?_⟩
  · rw [ho.done] at ht
    cases ht
  · rw [hpoll] at hanswer
    cases hanswer
  · exact hb.ok.registry.forgets (ho.gone hd)
  · rw [hpoll]
    exact .refl id h b
  · rw [habandon]
    exact .refl id h b
  · rw [ho.done] at hsome
    cases hsome

/-- **A consumer at work is answered** after so many rounds, or was handed all that the stream had
yielded. -/
theorem Consumes.answered_in_rounds {rounds : List (List Event)} (hb : b.Reachable)
    (hcarries : b.Carries none h feed p Z T F)
    (hs : (b.registry.reader h).state = .active → b.Supplied h p) (hp : PumpedBy pump p)
    (hc : b.Consumes id h c cs) (hleft : b.LeftTo h id rounds.flatten)
    (hkept : .abandon id ∉ rounds.flatten) (hfair : b.Fair [pump, id] rounds)
    (hlong : 3 * (Channel.takeRun F).1.length + 2 * max b.config.chunkBuffer.toNat 1 + 1 <
      rounds.length) :
    b.AnsweredIn id rounds.flatten ∨
      (Channel.takeRun F).1 <+: bytesOf T ++ b.handedOut h rounds.flatten ∧
        (Channel.takeRun F).2 = [] ∧ ¬ b.service.RanOut feed := by
  rcases hc.life with hl | hl
  · have hgoing : b.Going id pump h feed c cs p Z T F :=
      ⟨hb, hcarries, hs (state_of_life hb.ok.registry hl), hc, hl, hp⟩
    refine (hgoing.catches_up hleft hkept hfair hlong).imp_right ?_
    rintro ⟨p', Z', T', hreaches, hall, hend⟩
    rw [bytesOf_append, hreaches.handed] at hall
    exact ⟨hall, hend⟩
  -- there is a round, and the consumer waits for nothing
  · cases rounds with
    | nil => exact absurd hlong (Nat.not_lt_zero _)
    | cons es rounds =>
      rw [List.flatten_cons] at hleft hkept ⊢
      have hanswered := hc.answered hb hcarries.issued hl hleft.append.1
        (fun hin => hkept (List.mem_append_left _ hin)) (hfair.1 id (by simp))
      exact .inl (hanswered.append_left _)

/-- A consumer that is at work. -/
theorem Consumes.attends (hb : b.Reachable) (hcarries : b.Carries none h feed p Z T F)
    (hs : (b.registry.reader h).state = .active → b.Supplied h p) (hp : PumpedBy pump p)
    (hT : bytesOf T = given ++ cs) (hc : b.Consumes id h c cs) :
    b.Attends id pump h feed c given cs F := by
  obtain ⟨stage, ht, hreading⟩ := hc.stands.place
  refine ⟨hT ▸ hcarries.flow.data_prefix, fun t ht' => ?_, fun o hanswer => ?_, fun hover => ?_,
    close_forgets hb hcarries.issued, own_keepsTo (poll_keepsTo hb.ok ht hreading)
    (abandon_keepsTo ht hreading), fun _ rounds hleft hkept hfair hlong => ?_⟩
  · obtain rfl := Option.some.inj (ht.symm.trans ht')
    exact ⟨stage, rfl, hreading⟩
  · have hpolled := poll_consumes hb hs hc
    rw [hanswer] at hpolled
    cases hpolled with
    | @ends failure _ hends hhanded hover hlife =>
      refine ⟨failure, rfl, hends.endsOn hb hcarries hT, hlife, fun hgone => ?_⟩
      exact (hb.step (.turn id)).ok.registry.forgets (hlife.trans hgone)
  · rw [ht] at hover
    cases hover
  · rw [← hT]
    exact hc.answered_in_rounds hb hcarries hs hp hleft hkept hfair hlong

end Bridge

/-! ## Query streams -/

/-- **A consumer begins** where nobody reads the reader. -/
theorem call_consumes (hb : b.Reachable) (hthere : (b.registry.life h).isThere = true)
    (hfree : ∀ t ∈ b.tasks, t.2.reader? ≠ some h) (c : Consumer) :
    (b.step (.call (.read h (c.reading [])))).Consumes b.nextTask h c [] := by
  have hnodup := (hb.step (.call (.read h (c.reading [])))).ok.nodup
  refine ⟨.ready ?_ ?_, fun t ht hread => ?_, hthere⟩
  · exact Bridge.task?_of_mem hnodup (List.mem_append_right _ (List.mem_singleton.2 rfl))
  · exact List.mem_append_right _ (List.mem_singleton.2 rfl)
  · rcases List.mem_append.1 ht with ht | ht
    · exact absurd hread (hfree t ht)
    · exact congrArg Prod.fst (List.mem_singleton.1 ht)

/-- **A consumer is handed what is left of the stream**, whatever else happens in the meantime. Here
`e` registers the reader, and its pump has the stream of the query in hand. -/
theorem query_stream_used_up (hb : b.Reachable) (e : Event)
    (hnew : ¬ b.registry.readers.Issued h) (hi : (b.step e).registry.readers.Issued h) :
    ∃ pump entry src, (b.step e).task? pump = some (.pump h entry src none) ∧ ∀ es₀,
      let b₀ := (b.step e).after es₀
      (b₀.registry.life h).isThere = true → (∀ t ∈ b₀.tasks, t.2.reader? ≠ some h) → ∀ c es,
        let begins := Event.call (.read h (c.reading []))
        (b₀.step begins).LeftTo h b₀.nextTask es →
        ((b₀.step begins).after es).Attends b₀.nextTask pump h src.feed? c
          ((b.step e).handedOut h es₀) ((b₀.step begins).handedOut h es)
          ((b.step e).service.upcoming src ++
            (b.step e).fed src.feed? (es₀ ++ begins :: es)) := by
  obtain ⟨pump, src, hcarries, hsupplied⟩ := Bridge.registered_supplied hb e hnew hi
  obtain ⟨-, entry, hm⟩ := hcarries.pump
  refine ⟨pump, entry, src, Bridge.task?_of_mem (hb.step e).ok.nodup hm, fun es₀ => ?_⟩
  intro b₀ hthere hfree c es begins hleft
  -- before the consumer begins
  obtain ⟨p₁, Z₁, T₁, hcarries₁, hgiven, hsupplied₁, hpump₁⟩ :=
    Bridge.after_supplied es₀ (hb.step e) hcarries fun _ => hsupplied
  have hb₀ : b₀.Reachable := (hb.step e).after es₀
  -- it begins, and nothing comes to it in that
  obtain ⟨p₂, Z₂, T₂, hcarries₂, hnone, hsupplied₂, hpump₂⟩ :=
    Bridge.step_supplied hb₀ hcarries₁ hsupplied₁ begins
  have hconsumes := call_consumes hb₀ hthere hfree c
  have hb₁ : (b₀.step begins).Reachable := hb₀.step begins
  -- and then it is left to itself
  obtain ⟨p₃, Z₃, T₃, hcarries₃, hhanded, hsupplied₃, hpump₃⟩ :=
    Bridge.after_supplied es hb₁ hcarries₂ hsupplied₂
  have hb₂ := hb₁.after es
  have hpumped : PumpedBy pump p₃ := by
    refine hpump₃ pump (hpump₂ pump (hpump₁ pump fun q hq => ?_))
    obtain rfl := Option.some.inj hq
    rfl
  have hT : bytesOf ([] ++ T₁ ++ T₂ ++ T₃) =
      (b.step e).handedOut h es₀ ++ (b₀.step begins).handedOut h es := by
    have hnone : bytesOf T₂ = [] := hnone
    rw [List.nil_append, bytesOf_append, bytesOf_append, hgiven, hnone, hhanded, List.append_nil]
  have hF : (b.step e).fed src.feed? (es₀ ++ begins :: es) =
      (b.step e).fed src.feed? es₀ ++ b₀.fedIn src.feed? begins ++
        (b₀.step begins).fed src.feed? es := by
    rw [Bridge.fed_append, Bridge.fed, List.append_assoc]
  rw [hF, ← List.append_assoc, ← List.append_assoc]
  rcases Bridge.after_consumes hb₁ hcarries₂ hsupplied₂ hconsumes hleft with hc | hover
  · exact hc.attends hb₂ hcarries₃ hsupplied₃ hpumped hT
  · exact hover.attends hb₂ hcarries₃ hT

/-- A bridge on which a query is being executed that fails after one chunk. -/
def Bridge.failing : Bridge := (Bridge.new {} ⟨1, ⟨"", 1⟩⟩ true).after
  [.far (.script "q" (.frames [.data [7], .failure "lost"])),
    .call (.openConnection "a://b" none), .turn 0, .call (.createSession ⟨1⟩), .turn 1,
    .call (.executeQuery ⟨1⟩ "q")]

/-- Its chunks are yielded: the reader is forgotten, and that happens in every fair run. -/
theorem query_stream_used_up_failing :
    let b := (Bridge.failing.step (.turn 2)).step (.call (.read ⟨1⟩ (.upTo none [])))
    ((b.after [.turn 3, .turn 3, .turn 3, .turn 4, .turn 3]).poll 4).2.registry.Forgets ⟨1⟩ ∧
      b.AnsweredIn 4 (List.replicate 7 [Event.turn 3, .turn 4]).flatten := by
  have hb : Bridge.failing.Reachable := (Bridge.Reachable.start [] false _ true).after _
  obtain ⟨pump, entry, src, hpump, h⟩ := query_stream_used_up (h := ⟨1⟩) hb (.turn 2)
    (by unfold HandleTable.Issued; decide +kernel) (by unfold HandleTable.Issued; decide +kernel)
  have hbegun := h [] (by decide +kernel) (by decide +kernel) (.yielding none)
  have htasks : ∀ t ∈ (Bridge.failing.step (.turn 2)).tasks, t.1 = 3 := by decide +kernel
  obtain rfl : pump = 3 := htasks _ (Bridge.mem_of_task? hpump)
  -- it is handed the chunk, and told of the failure
  have hlater := hbegun [.turn 3, .turn 3, .turn 3, .turn 4, .turn 3] (by decide +kernel)
  obtain ⟨failure, ho, hends, -, hforgets⟩ := hlater.told
    (.replied (.items [[7]] (some (.transportFailure "lost")))) (by decide +kernel)
  simp only [Consumer.outcome_yielding, Outcome.replied.injEq, Reply.items.injEq] at ho
  obtain ⟨hcs, rfl⟩ := ho
  rw [← hcs] at hends
  -- so there is an end to the stream, and it is told of it after seven rounds
  have hanswered := (hbegun [] trivial).answered (by decide +kernel)
    (List.replicate 7 [.turn 3, .turn 4]) (by decide +kernel) (by decide +kernel)
    (by decide +kernel)
  cases hends with
  | failed hall hfirst =>
    have hlength := congrArg List.length hall
    refine ⟨hforgets rfl, (hanswered ?_).resolve_right fun hnone => ?_⟩
    · change 1 = _ at hlength
      exact lt_of_eq_of_lt (congrArg (3 * · + 2 * 1 + 1) hlength.symm) (by decide)
    · have hnil := hfirst.symm.trans (congrArg List.head? hnone.2.1)
      cases hnil

/-- A query stream of one chunk whose chunks are being collected; the consumer waits for the end. -/
def Bridge.collecting : Bridge := (Bridge.new {} ⟨1, ⟨"", 1⟩⟩ true).after
  [.far (.script "q" (.frames [.data [7], .finish])),
    .call (.openConnection "a://b" none), .turn 0, .call (.createSession ⟨1⟩), .turn 1,
    .call (.executeQuery ⟨1⟩ "q"), .turn 2, .call (.read ⟨1⟩ (.all [])),
    .turn 3, .turn 3, .turn 3, .turn 4, .turn 3]

/-- **Who collects chunks only borrows the query stream.** The stream has ended normally and all
its chunks are returned, and still the reader is marked, until the query stream is dropped. -/
theorem collected_still_marked :
    let b := (Bridge.collecting.poll 4).2
    (Bridge.collecting.poll 4).1 = some (.replied (.chunks [[7]])) ∧
      b.registry.life ⟨1⟩ = .exhausted ∧ ¬ b.registry.Forgets ⟨1⟩ ∧
      (b.step (.close (.reader ⟨1⟩))).registry.Forgets ⟨1⟩ := by
  intro b
  have hb : Bridge.collecting.Reachable := (Bridge.Reachable.start [] false _ true).after _
  have hended : (Bridge.collecting.poll 4).1 = some (.replied (.chunks [[7]])) ∧
      b.registry.life ⟨1⟩ = .exhausted ∧ b.registry.exhausted.contains ⟨1⟩ = true := by
    decide +kernel
  obtain ⟨hanswer, hlife, hmarked⟩ := hended
  refine ⟨hanswer, hlife, fun hforgets => ?_, close_forgets (hb.step (.turn 4)) ?_⟩
  · rw [hforgets.notMarked] at hmarked
    cases hmarked
  · unfold HandleTable.Issued
    decide +kernel

end QueryBridge
