import QueryBridge.Proofs.ReaderLife

/-!
# What a session keeps of its readers

A session keeps a list of its readers that were read to their ends, so that
their markers can go when it is closed. An open session never shortens the list.
It is the readers of the session that were read to their ends, in the order of
that; a reader that is closed on its own loses its marker and stays on the list.

* `Bridge.readToEnd`: the readers of a session that a run has read to their ends.
* `Bridge.forsaken`: whether a reader was closed on its own after that.
* `exhausted_list_by_history`: the list and the markers, told by the run.
* `marker_gone_entry_left`: the run where the list has more than there are markers.
-/

namespace QueryBridge

variable {r r' : Registry} {b : Bridge} {h : ReaderHandle} {s : SessionHandle}

/-! ## Lists of a registry -/

namespace Registry

/-- The reader of a session that is exhausted where a reading meets the end of its stream. -/
def endedUnder (r : Registry) (s : SessionHandle) :
    Option (ReaderHandle × StreamEnd) → List ReaderHandle
  | some (h, .finished) => if (r.readers.get? h).any (·.session = s) then [h] else []
  | _ => []

theorem mem_endedUnder {met : Option (ReaderHandle × StreamEnd)} :
    h ∈ r.endedUnder s met ↔
      met = some (h, .finished) ∧ ∃ e, r.readers.get? h = some e ∧ e.session = s := by
  rcases met with _ | ⟨x, _ | _⟩
  · simp [endedUnder]
  · simp only [endedUnder, Option.some.injEq, Prod.mk.injEq, and_true]
    constructor
    · intro hh
      split at hh
      · rename_i hlive
        obtain rfl := List.mem_singleton.1 hh
        simpa [Option.any_eq_true] using hlive
      · cases hh
    · rintro ⟨rfl, e, he, hs⟩
      simp [he, hs]
  · simp [endedUnder]

/-- A reading puts the reader that it exhausts at the end of the list of its session. -/
theorem Reads.exhausted {met : Option (ReaderHandle × StreamEnd)} (hx : r.Reads met r')
    (hr : RegistryOK r) (s : SessionHandle) :
    (r'.session s).exhausted = (r.session s).exhausted ++ r.endedUnder s met := by
  cases hx with
  | goesOn ha =>
    rw [ha.session]
    exact (List.append_nil _).symm
  | @metAgain h met _ hg ha =>
    have hnothing : r.endedUnder s (some (h, met)) = [] := by
      cases met <;> simp [endedUnder, hg]
    rw [ha.session, hnothing, List.append_nil]
  | @finished h e r₁ _ he ha hx =>
    have hended := exhaust_of_active (ha.ok hr) (ha.readers.symm ▸ he)
    rw [hx.session, hended.session, ha.session]
    by_cases hs : s = e.session
    · subst hs
      simp [endedUnder, he]
    · have hother : ¬ e.session = s := fun h => hs h.symm
      simp [endedUnder, he, hs, hother]
  | @failed h e r₁ _ he ha hx =>
    have hclosed := (closeReader_pruned (ha.ok hr) (ha.readers.symm ▸ he)).2
    rw [hx.session, hclosed.session, if_neg (fun h => h.elim), ha.session]
    exact (List.append_nil _).symm

/-- A close leaves the list of each session that is not closed by it. -/
theorem close_exhausted (hr : RegistryOK r) (t : Target)
    (hs : (r.close t).sessions.wasReleased s = false) :
    ((r.close t).session s).exhausted = (r.session s).exhausted := by
  rcases r.close_cases t with hsame | hstep
  · rw [hsame]
  rcases hstep.cases hr with ⟨x, -, heq⟩ | ⟨C, S, R, hp, -, hS, -⟩
  · rw [heq]
    rfl
  · rw [hp.session]
    split
    · rename_i htaken
      obtain ⟨e, he⟩ := hS s htaken
      have hgone : (r.close t).sessions.get? s = none := by rw [hp.sessions, if_pos htaken]
      have hissued := HandleTable.issued_of_get? he
      have hreleased : (r.close t).sessions.wasReleased s = true := by
        rw [HandleTable.wasReleased_iff]
        refine ⟨⟨hissued.1, ?_⟩, hgone⟩
        rw [hp.sessNext]
        exact hissued.2
      rw [hs] at hreleased
      cases hreleased
    · rfl

theorem closeAll_exhausted (ts : List Target) (hr : RegistryOK r)
    (hs : (r.closeAll ts).sessions.wasReleased s = false) :
    ((r.closeAll ts).session s).exhausted = (r.session s).exhausted := by
  induction ts generalizing r with
  | nil => rfl
  | cons t ts ih =>
    rw [closeAll_cons] at hs ⊢
    obtain ⟨hok, -⟩ := r.close_sound t hr
    have hlater := ((r.close t).closeAll_sound ts hok).2
    have hfirst : (r.close t).sessions.wasReleased s = false := by
      rw [Bool.eq_false_iff]
      intro hreleased
      rw [hlater.sess_released hreleased] at hs
      cases hs
    rw [ih hok hs, close_exhausted hr t hfirst]

/-- A session stays released where something is registered. -/
theorem Adds.released {new : Option Registration} (ha : r.Adds new r')
    (hs : r.sessions.wasReleased s = true) : r'.sessions.wasReleased s = true := by
  cases ha with
  | nothing => exact hs
  | opened ho =>
    obtain ⟨t, -, rfl⟩ := addConnection_eq_ok ho
    exact hs
  | created ho =>
    obtain ⟨t, hal, rfl⟩ := addSession_eq_ok ho
    exact (HandleTable.wasReleased_allocate hal s).trans hs
  | executed ho =>
    obtain ⟨t, -, rfl⟩ := addReader_eq_ok ho
    exact hs

/-- A registration changes no list, and a new session has an empty one. -/
theorem Adds.exhausted {new : Option Registration} (ha : r.Adds new r') (hr : RegistryOK r)
    (s : SessionHandle) : (r'.session s).exhausted = (r.session s).exhausted := by
  cases ha with
  | nothing => rfl
  | opened ho =>
    obtain ⟨t, -, rfl⟩ := addConnection_eq_ok ho
    rfl
  | @created x s' _ ho =>
    obtain ⟨t, hal, rfl⟩ := addSession_eq_ok ho
    by_cases hs : s = s'
    · subst hs
      -- a session that is not live has nothing on its list
      have hempty : (r.session s).exhausted = [] := by
        rw [List.eq_nil_iff_forall_not_mem]
        intro h hh
        obtain ⟨-, e, he⟩ := hr.ended s h hh
        exact HandleTable.ne_of_issued hal (HandleTable.issued_of_get? he) rfl
      rw [hempty]
      simp [session, modifyConnection, HandleMap.get?_insert]
    · simp [session, modifyConnection, HandleMap.get?_insert, hs]
  | @executed x ch h' _ ho =>
    obtain ⟨t, -, rfl⟩ := addReader_eq_ok ho
    simp only [session, modifySession, HandleMap.get?_modify]
    split
    · cases r.sessionStatus.get? s <;> rfl
    · rfl

end Registry

/-! ## Lists of a run -/

namespace Bridge

/-- The reader of a session that is exhausted in an event. -/
def endedIn (b : Bridge) (s : SessionHandle) (e : Event) : List ReaderHandle :=
  b.registry.endedUnder s (b.metIn e)

/-- **The readers of a session that are read to their ends in a run**, in the order of that. -/
def readToEnd (b : Bridge) (s : SessionHandle) : List Event → List ReaderHandle
  | [] => []
  | e :: es => b.endedIn s e ++ (b.step e).readToEnd s es

/-- Whether a reader is closed on its own in an event, after its stream was read
to the end or in the very turn in which it is. -/
def forsakenIn (b : Bridge) (h : ReaderHandle) (e : Event) : Bool :=
  (b.closedIn e).contains (.reader h) &&
    (b.registry.life h = .exhausted ||
      (b.registry.life h = .active && b.metIn e = some (h, .finished)))

/-- Whether a reader is closed on its own in a run, after its stream was read to the end. -/
def forsaken (b : Bridge) (h : ReaderHandle) : List Event → Bool
  | [] => false
  | e :: es => b.forsakenIn h e || (b.step e).forsaken h es

/-- Whether a reader was registered under a session: it was live there at some time of a run. -/
def Belonged (b : Bridge) (es : List Event) (h : ReaderHandle) (s : SessionHandle) : Prop :=
  ∃ es', es' <+: es ∧ ∃ e, (b.after es').registry.readers.get? h = some e ∧ e.session = s

end Bridge

/-- An event adds to the list of a session that is not closed what it has read to the end. -/
theorem step_exhausted (hb : BridgeOK b none none) (hspent : b.Spent) (e : Event)
    (hs : (b.step e).registry.sessions.wasReleased s = false) :
    ((b.step e).registry.session s).exhausted =
      (b.registry.session s).exhausted ++ b.endedIn s e := by
  obtain ⟨r₀, hx, hadds⟩ := step_deeds hb hspent e
  have hr₀ := hx.ok hb.registry
  have hr₁ := (r₀.closeAll_sound (b.closedIn e) hr₀).1
  have hclosed : (r₀.closeAll (b.closedIn e)).sessions.wasReleased s = false := by
    rw [Bool.eq_false_iff] at hs ⊢
    exact fun hreleased => hs (hadds.released hreleased)
  rw [hadds.exhausted hr₁, r₀.closeAll_exhausted _ hr₀ hclosed, hx.exhausted hb.registry]
  rfl

/-- **The list of a session that was not closed** is what it was, and behind it
what a run has read to the end. -/
theorem after_exhausted (hb : b.Reachable) (es : List Event)
    (hs : (b.after es).registry.sessions.wasReleased s = false) :
    ((b.after es).registry.session s).exhausted =
      (b.registry.session s).exhausted ++ b.readToEnd s es := by
  induction es generalizing b with
  | nil => exact (List.append_nil _).symm
  | cons e es ih =>
    have hlater := (after_later (hb.step e).ok es).2.registry
    have hstep : (b.step e).registry.sessions.wasReleased s = false := by
      rw [Bool.eq_false_iff] at hs ⊢
      exact fun hreleased => hs (hlater.sess_released hreleased)
    rw [Bridge.after_cons] at hs ⊢
    rw [ih (hb.step e) hs, step_exhausted hb.ok hb.spent e hstep, List.append_assoc]
    rfl

/-! ## Markers of a run -/

/-- A session that is live does not outlive the close of itself or of its connection. -/
theorem released_of_taken (hb : BridgeOK b none none) (hspent : b.Spent) {e : Event} {x : Session}
    (hx : b.registry.sessions.get? s = some x)
    (ht : (b.closedIn e).any (b.registry.takesSession s) = true) :
    (b.step e).registry.sessions.wasReleased s = true := by
  obtain ⟨r₀, hreads, hadds⟩ := step_deeds hb hspent e
  refine hadds.released ?_
  have htakes := r₀.closeAll_takes (b.closedIn e) (hreads.ok hb.registry)
  obtain ⟨-, htables⟩ := hreads.tables
  have hsame : r₀.takesSession s = b.registry.takesSession s := by
    funext t
    unfold Registry.takesSession
    rw [htables]
  have hissued := HandleTable.issued_of_get? hx
  rw [HandleTable.wasReleased_iff]
  refine ⟨⟨hissued.1, ?_⟩, ?_⟩
  · rw [htakes.sessNext, htables]
    exact hissued.2
  · rw [htakes.sessions, hsame, if_pos ht]

/-- A reader that is closed on its own after its stream was read to the end is gone. -/
theorem gone_of_forsakenIn (hb : BridgeOK b none none) (hspent : b.Spent) {e : Event}
    (hf : b.forsakenIn h e = true) : (b.step e).registry.life h = .gone := by
  simp only [Bridge.forsakenIn, Bool.and_eq_true, Bool.or_eq_true, List.contains_iff_mem,
    decide_eq_true_eq] at hf
  obtain ⟨hclosed, hplace⟩ := hf
  have htaken : (b.closedIn e).any (b.registry.takesReader h) = true :=
    List.any_eq_true.2 ⟨.reader h, hclosed, by simp [Registry.takesReader]⟩
  rw [step_life hb hspent]
  rcases hplace with hl | ⟨hl, -⟩
  · rw [hl, Bridge.lifeAfter, if_pos htaken]
  · rw [hl, Bridge.lifeAfter, if_pos (.inr htaken)]

/-- A reader on the list of a session is no longer live. -/
theorem life_of_listed {r : Registry} (hr : RegistryOK r) (hh : h ∈ (r.session s).exhausted) :
    r.life h = .exhausted ∨ r.life h = .gone := by
  obtain ⟨hstate, -⟩ := hr.ended s h hh
  cases hplace : r.life h with
  | never => exact absurd (hr.endedIssued h hstate) ((Registry.life_eq_never hr).1 hplace)
  | active =>
    rw [(hr.active h).2 (Registry.live_of_life hplace)] at hstate
    cases hstate
  | exhausted => exact .inl rfl
  | gone => exact .inr rfl

/-- **Whoever is on the list of a session and goes while the session stays** was
closed on its own. -/
theorem forsakenIn_of_gone (hb : BridgeOK b none none) (hspent : b.Spent) {e : Event}
    (hs : (b.step e).registry.sessions.wasReleased s = false)
    (hh : h ∈ ((b.step e).registry.session s).exhausted)
    (hbefore : b.registry.life h ≠ .gone) (hl : (b.step e).registry.life h = .gone) :
    b.forsakenIn h e = true := by
  have hr := hb.registry
  rw [step_life hb hspent] at hl
  rw [step_exhausted hb hspent e hs, List.mem_append] at hh
  -- what takes it out is no close of its session
  have halone : b.registry.names h s = true → (∃ x, b.registry.sessions.get? s = some x) →
      (b.closedIn e).any (b.registry.takesReader h) = true →
      .reader h ∈ b.closedIn e := by
    rintro hnames ⟨x, hx⟩ htaken
    obtain ⟨t, hmem, ht⟩ := List.any_eq_true.1 htaken
    rcases (hr.takesReader_iff hnames hx).1 ht with rfl | rfl | rfl
    · exact hmem
    · rw [released_of_taken hb hspent hx
        (List.any_eq_true.2 ⟨_, hmem, by simp [Registry.takesSession]⟩)] at hs
      cases hs
    · rw [released_of_taken hb hspent hx
        (List.any_eq_true.2 ⟨_, hmem, by simp [Registry.takesSession, hx]⟩)] at hs
      cases hs
  rcases hh with hlisted | hended
  · -- it was exhausted before
    obtain ⟨-, hsession⟩ := hr.ended s h hlisted
    have hplace := (life_of_listed hr hlisted).resolve_right hbefore
    have htaken : (b.closedIn e).any (b.registry.takesReader h) = true := by
      rw [hplace, Bridge.lifeAfter] at hl
      by_contra hnot
      rw [if_neg hnot] at hl
      cases hl
    have hclosed := halone (Registry.names_iff.2 (.inr hlisted)) hsession htaken
    simp [Bridge.forsakenIn, hclosed, hplace]
  · -- it was live, and its stream was read to the end in this turn
    obtain ⟨hmet, x, hx, hxs⟩ := Registry.mem_endedUnder.1 hended
    have hplace := Registry.life_of_live hx
    have hlisted : h ∈ (b.registry.session s).readers := (hr.readers s h).2 ⟨x, hx, hxs⟩
    obtain ⟨y, hy, -⟩ := hr.readParent h x hx
    have htaken : (b.closedIn e).any (b.registry.takesReader h) = true := by
      rw [hplace, Bridge.lifeAfter] at hl
      by_contra hnot
      rw [if_neg (by simp [hmet, hnot]), if_pos hmet] at hl
      cases hl
    have hclosed := halone (Registry.names_iff.2 (.inl hlisted)) ⟨y, hxs ▸ hy⟩ htaken
    simp [Bridge.forsakenIn, hclosed, hplace, hmet]

/-- What a run reads to its end was a live reader of its session. -/
theorem belonged_of_readToEnd {es : List Event} (hh : h ∈ b.readToEnd s es) :
    b.Belonged es h s := by
  induction es generalizing b with
  | nil => cases hh
  | cons e es ih =>
    rcases List.mem_append.1 hh with hended | hlater
    · obtain ⟨-, x, hx, hxs⟩ := Registry.mem_endedUnder.1 hended
      exact ⟨[], List.nil_prefix, x, hx, hxs⟩
    · obtain ⟨es', hprefix, x, hx, hxs⟩ := ih hlater
      exact ⟨e :: es', (List.prefix_cons_inj e).2 hprefix, x, hx, hxs⟩

/-- **A reader on the list of a session that was not closed** is gone exactly if it
was closed on its own. -/
theorem gone_iff_forsaken (hb : b.Reachable) (es : List Event)
    (hs : (b.after es).registry.sessions.wasReleased s = false)
    (hh : h ∈ ((b.after es).registry.session s).exhausted)
    (hbefore : b.registry.life h ≠ .gone) :
    (b.after es).registry.life h = .gone ↔ b.forsaken h es = true := by
  induction es generalizing b with
  | nil => exact ⟨fun hl => absurd hl hbefore, nofun⟩
  | cons e es ih =>
    have hb' := hb.step e
    rw [Bridge.after_cons] at hs hh ⊢
    have hstep : (b.step e).registry.sessions.wasReleased s = false := by
      rw [Bool.eq_false_iff] at hs ⊢
      exact fun hreleased => hs ((after_later hb'.ok es).2.registry.sess_released hreleased)
    by_cases hgone : (b.step e).registry.life h = .gone
    · have hrank := after_life hb' h es
      have hlast : ((b.step e).after es).registry.life h = .gone := by
        rw [hgone] at hrank
        cases hl : ((b.step e).after es).registry.life h <;> rw [hl] at hrank <;>
          first | rfl | exact absurd hrank (by decide)
      have hlisted : h ∈ ((b.step e).registry.session s).exhausted := by
        rw [after_exhausted hb' es hs, List.mem_append] at hh
        refine hh.resolve_right fun hread => ?_
        -- nothing that is gone is live again
        obtain ⟨es', -, x, hx, -⟩ := belonged_of_readToEnd hread
        have hback := after_life hb' h es'
        rw [hgone, Registry.life_of_live hx] at hback
        exact absurd hback (by decide)
      have hforsaken := forsakenIn_of_gone hb.ok hb.spent hstep hlisted hbefore hgone
      simp [hlast, Bridge.forsaken, hforsaken]
    · have hnot : b.forsakenIn h e = false := by
        rw [Bool.eq_false_iff]
        exact fun hf => hgone (gone_of_forsakenIn hb.ok hb.spent hf)
      rw [ih hb' hs hh hgone, Bridge.forsaken, hnot, Bool.false_or]

/-- A reader belongs to one session. -/
theorem belonged_unique (hb : b.Reachable) {es : List Event} {s' : SessionHandle}
    (h₁ : b.Belonged es h s) (h₂ : b.Belonged es h s') : s = s' := by
  -- whoever was live later was the same reader before
  have hlater : ∀ {es₁ es₂ : List Event} {x y : Reader}, es₁ <+: es₂ →
      (b.after es₁).registry.readers.get? h = some x →
      (b.after es₂).registry.readers.get? h = some y → x = y := by
    rintro es₁ es₂ x y ⟨rest, rfl⟩ hx hy
    rw [Bridge.after_append] at hy
    have hsame := (after_later (hb.after es₁).ok rest).2.registry.readers h y
      (HandleTable.issued_of_get? hx) hy
    exact Option.some.inj (hx.symm.trans hsame)
  obtain ⟨es₁, hes₁, x, hx, rfl⟩ := h₁
  obtain ⟨es₂, hes₂, y, hy, rfl⟩ := h₂
  rcases List.prefix_or_prefix_of_prefix hes₁ hes₂ with hle | hle
  · rw [hlater hle hx hy]
  · rw [hlater hle hy hx]

/-- **What a session keeps of its readers.** In every run, the list of a live
session is its readers that were read to their ends, each once and in the order
of that. Those of its readers that have a marker are the ones on the list that were
not closed on their own since. So the list tells the markers of its readers
exactly if nobody on it was, and else it has more. -/
theorem exhausted_list_by_history (sessionIds : List String) (hangs : Bool)
    (config : BridgeConfig) (hasRuntime : Bool) (es : List Event) :
    let start : Bridge := .new { sessionIds, hangsCreateSession := hangs } config hasRuntime
    let b := start.after es
    ∀ s e, b.registry.sessions.get? s = some e →
      (b.registry.session s).exhausted = start.readToEnd s es ∧
      (b.registry.session s).exhausted.Nodup ∧
      (∀ h, b.registry.exhausted.contains h = true ∧ start.Belonged es h s ↔
        h ∈ (b.registry.session s).exhausted ∧ start.forsaken h es = false) ∧
      ((∀ h, h ∈ (b.registry.session s).exhausted ↔
          b.registry.exhausted.contains h = true ∧ start.Belonged es h s) ↔
        ∀ h ∈ (b.registry.session s).exhausted, start.forsaken h es = false) := by
  intro start b s e he
  have hstart : start.Reachable := .start sessionIds hangs config hasRuntime
  have hr : RegistryOK b.registry := (hstart.after es).ok.registry
  have hunissued : ∀ h, start.registry.life h ≠ .gone := by
    intro h
    have hnever := (Registry.life_eq_never (h := h) hstart.ok.registry).2
      (HandleTable.not_issued_empty h)
    simp [hnever]
  have hstays : ∀ {s e}, b.registry.sessions.get? s = some e →
      b.registry.sessions.wasReleased s = false := by
    intro s e he
    simp [Bool.eq_false_iff, HandleTable.wasReleased_iff, he]
  have hlist : ∀ {s e}, b.registry.sessions.get? s = some e →
      (b.registry.session s).exhausted = start.readToEnd s es :=
    fun he => (after_exhausted hstart es (hstays he)).trans (List.nil_append _)
  have hmarkers : ∀ h, b.registry.exhausted.contains h = true ∧ start.Belonged es h s ↔
      h ∈ (b.registry.session s).exhausted ∧ start.forsaken h es = false := by
    intro h
    constructor
    · rintro ⟨hmarked, hbelongs⟩
      obtain ⟨s', hlisted⟩ := hr.marked h hmarked
      obtain ⟨-, e', he'⟩ := hr.ended s' h hlisted
      have hbelongs' := belonged_of_readToEnd (hlist he' ▸ hlisted)
      obtain rfl := belonged_unique hstart hbelongs hbelongs'
      refine ⟨hlisted, ?_⟩
      rw [Bool.eq_false_iff]
      intro hforsaken
      have hgone := (gone_iff_forsaken hstart es (hstays he) hlisted (hunissued h)).2 hforsaken
      obtain ⟨-, hbare⟩ := Registry.bare_of_life (.inr hgone)
      rw [HandleMap.contains, hbare] at hmarked
      cases hmarked
    · rintro ⟨hlisted, hkept⟩
      refine ⟨?_, belonged_of_readToEnd (hlist he ▸ hlisted)⟩
      have hstill : b.registry.life h ≠ .gone := by
        have hgone := gone_iff_forsaken hstart es (hstays he) hlisted (hunissued h)
        rw [Ne, hgone, hkept]
        simp
      exact (Registry.marked_of_life ((life_of_listed hr hlisted).resolve_right hstill)).2
  refine ⟨hlist he, hr.endedNodup s, hmarkers, fun hall h hlisted => ?_, fun hkept h => ?_⟩
  · exact ((hmarkers h).1 ((hall h).1 hlisted)).2
  · rw [hmarkers h]
    exact ⟨fun hlisted => ⟨hlisted, hkept h hlisted⟩, And.left⟩

/-- Two queries that are read to their ends; the reader of the first is closed then. -/
def Bridge.twoRead : List Event :=
  [.call (.openConnection "a://b" none), .turn 0, .call (.createSession ⟨1⟩), .turn 1,
    .call (.executeQuery ⟨1⟩ "q"), .turn 2, .call (.executeQuery ⟨1⟩ "q"), .turn 4,
    .turn 3, .turn 3, .turn 5, .turn 5, .call (.read ⟨1⟩ .next), .turn 6,
    .call (.read ⟨2⟩ .next), .turn 7, .close (.reader ⟨1⟩)]

/-- Both are on the list, and one has its marker. -/
theorem exhausted_list_by_history_twoRead :
    let b := Bridge.fresh.after Bridge.twoRead
    (∃ e, b.registry.sessions.get? ⟨1⟩ = some e) ∧
      (b.registry.session ⟨1⟩).exhausted = Bridge.fresh.readToEnd ⟨1⟩ Bridge.twoRead ∧
      (b.registry.session ⟨1⟩).exhausted = [⟨1⟩, ⟨2⟩] ∧
      (b.registry.exhausted.contains ⟨2⟩ = true ∧ Bridge.fresh.Belonged Bridge.twoRead ⟨2⟩ ⟨1⟩) ∧
      ¬ (b.registry.exhausted.contains ⟨1⟩ = true ∧
        Bridge.fresh.Belonged Bridge.twoRead ⟨1⟩ ⟨1⟩) := by
  intro b
  have hlive : (b.registry.sessions.get? ⟨1⟩).isSome = true := by decide +kernel
  obtain ⟨e, he⟩ := Option.isSome_iff_exists.1 hlive
  obtain ⟨hlist, -, hmarkers, -⟩ :=
    exhausted_list_by_history [] false ⟨10, ⟨"", 1⟩⟩ true Bridge.twoRead ⟨1⟩ e he
  have hboth : (b.registry.session ⟨1⟩).exhausted = [⟨1⟩, ⟨2⟩] := by decide +kernel
  refine ⟨⟨e, he⟩, hlist, hboth, (hmarkers ⟨2⟩).2 ⟨?_, ?_⟩, fun hmarked => ?_⟩
  · show _ ∈ (b.registry.session ⟨1⟩).exhausted
    rw [hboth]
    decide
  · decide +kernel
  · have hkept := ((hmarkers ⟨1⟩).1 hmarked).2
    exact absurd hkept (by decide +kernel)

/-- **The marker goes and the entry stays**: a reader is read to its end and closed,
no marker is left, and its session, which is live, still has it on its list. -/
theorem marker_gone_entry_left :
    let b := Bridge.oneOfEach.after
      [.turn 3, .turn 3, .call (.read ⟨1⟩ .next), .turn 4, .close (.reader ⟨1⟩)]
    (b.registry.sessions.get? ⟨1⟩).isSome = true ∧ b.registry.exhausted.size = 0 ∧
      (b.registry.session ⟨1⟩).exhausted = [⟨1⟩] := by
  decide +kernel

end QueryBridge
