import QueryBridge.Proofs.Bridge.Ties

/-!
# Feeds over time

A feed stays where it is. Once it has ended it stays so, and nothing more comes
into it.

* `Service.Later`: what is so of the feeds of a service later on.
* `after_feeds`: every run.
* `fed_of_ranOut`: a stream that may not go on yields nothing more.
-/

namespace QueryBridge

variable {b b' : Bridge} {v v' v'' : Service} {me : Option TaskId}
  {inHand inHand' : Option Stream} {feed : Option Nat} {n : Nat}

/-- Every feed is still there, and one that has ended stays so. -/
def Service.Later (v v' : Service) : Prop := ∀ (n : Nat) (f : Feed), v.feeds[n]? = some f →
  ∃ f', v'.feeds[n]? = some f' ∧ (f.isOpen = false → f'.isOpen = false)

namespace Service.Later

theorem refl (v : Service) : v.Later v := fun _ f hf => ⟨f, hf, id⟩

theorem of_eq (hv : v' = v) : v.Later v' := hv ▸ refl v

theorem trans (h₁ : v.Later v') (h₂ : v'.Later v'') : v.Later v'' := by
  intro n f hf
  obtain ⟨f', hf', hends'⟩ := h₁ n f hf
  obtain ⟨f'', hf'', hends''⟩ := h₂ n f' hf'
  exact ⟨f'', hf'', hends'' ∘ hends'⟩

/-- The feeds are the same, apart from who waits for them. -/
theorem of_content (hv : v'.feeds.map Feed.content = v.feeds.map Feed.content) : v.Later v' := by
  intro n f hf
  have hn := congrArg (·[n]?) hv
  simp only [List.getElem?_map, hf, Option.map_some] at hn
  obtain ⟨f', hf', hc⟩ := Option.map_eq_some_iff.1 hn
  have hopen : f'.content.isOpen = f.content.isOpen := congrArg Feed.isOpen hc
  exact ⟨f', hf', fun ho => hopen.trans ho⟩

/-- A feed changes. -/
theorem modifyFeed (v : Service) (n : Nat) {g : Feed → Feed}
    (hg : ∀ f, f.isOpen = false → (g f).isOpen = false) : v.Later (v.modifyFeed n g) := by
  intro m f hf
  refine ⟨if n = m then g f else f, ?_, fun ho => ?_⟩
  · simp [Service.modifyFeed, List.getElem?_modify, hf]
  · split
    · exact hg f ho
    · exact ho

theorem dropStream (v : Service) (stream : Stream) : v.Later (v.dropStream stream) := by
  cases stream with
  | fixed frames => exact refl v
  | live n => exact modifyFeed v n fun _ ho => ho

theorem nextFrame? {stream stream' : Stream} {f : Frame}
    (hn : v.nextFrame? stream = some (f, stream', v')) : v.Later v' := by
  unfold Service.nextFrame? at hn
  split at hn
  · obtain ⟨-, -, rfl⟩ := by simpa using hn
    exact refl v
  · obtain ⟨-, -, rfl⟩ := by simpa using hn
    exact refl v
  · split at hn
    · obtain ⟨-, -, rfl⟩ := by simpa using hn
      exact refl v
    · split at hn
      · obtain ⟨-, -, rfl⟩ := by simpa using hn
        exact modifyFeed v _ fun _ ho => ho
      · split at hn
        · cases hn
        · obtain ⟨-, -, rfl⟩ := by simpa using hn
          exact refl v

/-- One more frame is fed. -/
theorem fed (v : Service) (n : Nat) (f : Frame) : v.Later (v.feed n f).2.2 := by
  unfold Service.feed
  split
  · exact refl v
  · split
    · exact modifyFeed v n fun _ ho => ho
    · exact refl v

theorem length (h : v.Later v') (hn : n < v.feeds.length) : n < v'.feeds.length := by
  obtain ⟨f', hf', -⟩ := h n _ (List.getElem?_eq_getElem hn)
  exact (List.getElem?_eq_some_iff.1 hf').1

/-- A stream that may not go on cannot do so later. -/
theorem ranOut (h : v.Later v') (hexists : ∀ n, feed = some n → n < v.feeds.length)
    (hr : v.RanOut feed) : v'.RanOut feed := by
  intro n f' hn hf'
  have hget := List.getElem?_eq_getElem (hexists n hn)
  obtain ⟨f'', hf'', hends⟩ := h n _ hget
  obtain rfl : f'' = f' := Option.some.inj (hf''.symm.trans hf')
  exact hends (hr n _ hn hget)

end Service.Later

/-! ## Moves -/

theorem Move.feeds {note : Note} (hm : Move me b inHand note b' inHand') :
    b.service.Later b'.service := by
  cases hm with
  | aside ha => exact .of_content ha.feeds
  | farewell client left => exact .of_eq (Bridge.spawnOn_service _ _)
  | claimed text =>
    refine .of_content ?_
    show (b.service.takeStream text).2.feeds.map Feed.content = _
    unfold Service.takeStream
    split <;> rfl
  | dropped stream => exact .dropStream b.service stream
  | executed hch ha hse hsc => exact .of_eq (Bridge.spawnOn_service _ _)
  | close hcl => exact .refl _
  | opened ha => exact .refl _
  | created ha hce hcl => exact .refl _
  | cursor x hg => exact .refl _
  | took hst hg => exact .refl _
  | finished hst hg he => exact .refl _
  | finishedAgain hst he => exact .refl _

theorem Moves.feeds {notes : List Note} (hm : Moves me b inHand notes b' inHand') :
    b.service.Later b'.service := by
  induction hm with
  | nil => exact .refl _
  | cons hm _ ih => exact hm.feeds.trans ih

theorem Quietly.feeds (hq : Quietly me b inHand b' inHand') : b.service.Later b'.service := by
  obtain ⟨notes, hm, -⟩ := hq
  exact hm.feeds

namespace Bridge

variable {id : TaskId}

theorem Pumped.feeds {h : ReaderHandle} {e : Reader} {stream : Stream} {frame : Option Frame}
    {q : Progress Task Unit × Bridge} (hq : Pumped id b h e stream frame q) :
    b.service.Later q.2.service := by
  cases hq with
  | waits ha => exact .of_content ha.feeds
  | full hg => exact .refl _
  | drew hcan hn => exact .nextFrame? hn
  | pushed hcan hrec hd hg ha => exact .of_content ha.feeds
  | finished hcan hrec hd hg hq => exact hq.feeds
  | stopped hq => exact hq.feeds

/-! ## Events -/

theorem poll_feeds (hb : BridgeOK b none none) (id : TaskId) :
    b.service.Later (b.poll id).2.service := by
  cases hs : (b.task? id).bind Task.stage? with
  | some stage =>
    obtain ⟨t, ht, hst⟩ := Option.bind_eq_some_iff.1 hs
    obtain ⟨-, notes, hm, -, -⟩ := call_turned hb ht hst
    rw [poll_call ht hst, pollCall_service]
    exact hm.feeds
  | none =>
    rcases poll_of_no_call hs with hpoll | ⟨text, -, hpoll⟩ | ⟨x, e, stream, frame, -, hpoll⟩ |
      ⟨client, held, left, -, hpoll⟩ <;> rw [hpoll]
    · exact .refl _
    · exact .refl _
    · rw [afterBackground_service]
      have hq := (b.takeTurn id).pump_pumped id x e stream frame
      exact Pumped.feeds (b := b.takeTurn id) hq
    · rw [afterBackground_service]
      have hq : Quietly none (b.takeTurn id) none
          ((b.takeTurn id).farewell id client held left).2 none := farewell_quietly _ id client _ _
      exact Quietly.feeds (b := b.takeTurn id) hq

theorem abandon_feeds (b : Bridge) (id : TaskId) : b.service.Later (b.abandon id).service := by
  unfold abandon
  split
  · exact .refl _
  · rename_i envelope stage ht
    exact Quietly.feeds (b := b.conclude id) (release_quietly _ id stage)
  · exact .refl _

theorem feed_feeds (n : Nat) (frames : List Frame) (b : Bridge) :
    b.service.Later (b.feed n frames).2.service := by
  induction frames generalizing b with
  | nil => exact .refl _
  | cons f fs ih =>
    have hfirst : b.service.Later ((b.withService (b.service.feed n f).2.2).wakeAll
        (b.service.feed n f).2.1.toList).service := by
      rw [wakeAll_service]
      exact .fed b.service n f
    exact hfirst.trans (ih _)

theorem far_feeds (b : Bridge) (act : FarAct) : b.service.Later (b.far act).service := by
  cases act with
  | refuse point message => exact .of_content rfl
  | plan point hooks => exact .of_content rfl
  | script text script =>
    cases script with
    | frames frames => exact .of_content rfl
    | live =>
      intro n f hf
      obtain ⟨hlt, -⟩ := List.getElem?_eq_some_iff.1 hf
      refine ⟨f, ?_, id⟩
      show (b.service.feeds ++ [_])[n]? = some f
      rw [List.getElem?_append_left hlt, hf]
  | release gate => exact .of_content (b.releaseGate_aside gate).feeds
  | feed n frames => exact feed_feeds n frames b
  | endFeed n =>
    show b.service.Later (b.endFeed n).service
    unfold endFeed
    rw [wakeAll_service]
    exact .modifyFeed b.service n fun _ _ => rfl

/-- **Every event** leaves the feeds where they are, and ended those that have ended. -/
theorem step_feeds (hb : BridgeOK b none none) (e : Event) :
    b.service.Later (b.step e).service := by
  cases e with
  | call c => exact .refl _
  | payload text => exact .refl _
  | close target =>
    have hq : Quietly none b none (b.close target) none := b.close_quietly target
    exact hq.feeds
  | turn id => exact poll_feeds hb id
  | abandon id => exact abandon_feeds b id
  | far act => exact far_feeds b act
  | runtime x => exact .refl _

/-- **Every run** does so. -/
theorem after_feeds (hb : BridgeOK b none none) (es : List Event) :
    b.service.Later (b.after es).service := by
  induction es generalizing b with
  | nil => exact .refl _
  | cons e es ih => exact (step_feeds hb e).trans (ih (step_steps hb e).ok)

/-! ## Streams that may not go on -/

/-- Nothing comes into a feed that has ended. -/
theorem accepted_of_ended {x : Feed} (hx : b.service.feeds[n]? = some x)
    (ho : x.isOpen = false) (frames : List Frame) : b.accepted n frames = [] := by
  have hfeed : ∀ f, b.service.feed n f = (false, none, b.service) := by
    intro f
    unfold Service.feed
    rw [hx]
    dsimp only
    rw [ho, Bool.false_and, if_neg (by simp)]
  have hall : ∀ taken ∈ (b.feed n frames).1, taken = false := by
    induction frames with
    | nil => nofun
    | cons f fs ih =>
      unfold feed
      rw [hfeed f]
      exact List.forall_mem_cons.2 ⟨rfl, ih⟩
  unfold accepted
  rw [List.map_eq_nil_iff, List.filter_eq_nil_iff]
  intro q hq
  rw [hall q.1 (List.of_mem_zip hq).1]
  simp

/-- **A stream that may not go on** yields nothing more. -/
theorem fed_of_ranOut (hb : BridgeOK b none none) {es : List Event}
    (hexists : ∀ n, feed = some n → n < b.service.feeds.length) (hr : b.service.RanOut feed) :
    b.fed feed es = [] := by
  induction es generalizing b with
  | nil => rfl
  | cons e es ih =>
    have hlater := step_feeds hb e
    have hrest := ih (step_steps hb e).ok (fun n hn => hlater.length (hexists n hn))
      (hlater.ranOut hexists hr)
    rw [fed, hrest, List.append_nil]
    cases e with
    | far act =>
      cases act with
      | feed n frames =>
        unfold fedIn
        dsimp only
        split
        · rename_i hn
          have hget := List.getElem?_eq_getElem (hexists n hn)
          exact accepted_of_ended hget (hr n _ hn hget) frames
        · rfl
      | _ => rfl
    | _ => rfl

end Bridge

end QueryBridge
