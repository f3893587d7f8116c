import QueryBridge.Proofs.Bridge.Consuming
import QueryBridge.Proofs.Bridge.Feeds

/-!
# The pace of a consumer

A frame comes into the hand of the pump, then into the channel, and then to the
consumer. Where none comes further, the pump waits for its feed to be fed and the
consumer for the pump, so everything was taken that the stream has yielded. A
round of a run that is fair to both of them brings at least one frame further, or
finds them so.

* `Bridge.FairTo`, `Bridge.Fair`: fair runs.
* `Bridge.Going`, `Going.step`: a consumer and what it is supplied with.
* `Going.run`, `Going.rounds`: runs, and rounds of runs.
* `Going.catches_up`: how many rounds it takes.
-/

namespace QueryBridge

variable {b b' : Bridge} {h : ReaderHandle} {id pump : TaskId} {feed : Option Nat} {c : Consumer}
  {cs : List Bytes} {p : Option Pumping} {q : Pumping} {Z T F G : List Frame}

deriving instance DecidableEq for FarAct, Event

/-- Unless its caller gives up, what happens to a task is that it has a turn. -/
theorem Event.eq_turn {ev : Event} (hid : ev.task? = some id) (hkept : ev ≠ .abandon id) :
    ev = .turn id := by
  cases ev with
  | turn i => exact congrArg Event.turn (Option.some.inj hid)
  | abandon i => exact absurd (congrArg Event.abandon (Option.some.inj hid)) hkept
  | _ => cases hid

namespace Bridge

/-! ## Fairness -/

/-- A task has a turn in a run, or there is a moment in which it is not in the queue. -/
def FairTo (b : Bridge) (id : TaskId) : List Event → Prop
  | [] => id ∉ b.ready
  | ev :: es => id ∉ b.ready ∨ ev = .turn id ∨ (b.step ev).FairTo id es

/-- Every round of a run is fair to these tasks. -/
def Fair (b : Bridge) (ids : List TaskId) : List (List Event) → Prop
  | [] => True
  | es :: rounds => (∀ id ∈ ids, b.FairTo id es) ∧ (b.after es).Fair ids rounds

/-- A call is answered in a run. -/
def AnsweredIn (b : Bridge) (id : TaskId) : List Event → Prop
  | [] => False
  | ev :: es => ev = .turn id ∧ (b.poll id).1.isSome = true ∨ (b.step ev).AnsweredIn id es

instance decidableFairTo (id : TaskId) (es : List Event) (b : Bridge) :
    Decidable (b.FairTo id es) :=
  match es with
  | [] => inferInstanceAs (Decidable (id ∉ b.ready))
  | ev :: es =>
    have : Decidable ((b.step ev).FairTo id es) := decidableFairTo id es (b.step ev)
    inferInstanceAs (Decidable (_ ∨ _ ∨ _))

instance decidableFair (ids : List TaskId) (rounds : List (List Event)) (b : Bridge) :
    Decidable (b.Fair ids rounds) :=
  match rounds with
  | [] => .isTrue trivial
  | es :: rounds =>
    have : Decidable ((b.after es).Fair ids rounds) := decidableFair ids rounds (b.after es)
    inferInstanceAs (Decidable (_ ∧ _))

theorem AnsweredIn.append_left {es : List Event} (ha : b.AnsweredIn id es) (es' : List Event) :
    b.AnsweredIn id (es ++ es') := by
  induction es generalizing b with
  | nil => cases ha
  | cons ev es ih => exact ha.imp_right ih

theorem AnsweredIn.append_right {es es' : List Event} (ha : (b.after es).AnsweredIn id es') :
    b.AnsweredIn id (es ++ es') := by
  induction es generalizing b with
  | nil => exact ha
  | cons ev es ih => exact .inr (ih ha)

/-! ## Where nothing moves -/

/-- Everything that a stream has yielded was taken, and more may come. -/
structure AllTaken (b : Bridge) (feed : Option Nat) (T F : List Frame) : Prop where
  taken : F <+: T
  data : ∀ f ∈ F, f.isData = true
  goesOn : ¬ b.service.RanOut feed

/-- So it was before, too. -/
theorem AllTaken.of_later {T' : List Frame} (ha : b'.AllTaken feed T' (F ++ G)) (hT : T' <+: T)
    (hlater : b.service.Later b'.service)
    (hexists : ∀ n, feed = some n → n < b.service.feeds.length) : b.AllTaken feed T F where
  taken := ((List.prefix_append F G).trans ha.taken).trans hT
  data f hf := ha.data f (List.mem_append_left G hf)
  goesOn hr := ha.goesOn (hlater.ranOut hexists hr)

/-- A consumer is at work, and so is its supply. -/
structure Going (b : Bridge) (id pump : TaskId) (h : ReaderHandle) (feed : Option Nat)
    (c : Consumer) (cs : List Bytes) (p : Option Pumping) (Z T F : List Frame) : Prop where
  reachable : b.Reachable
  carries : b.Carries none h feed p Z T F
  supplied : b.Supplied h p
  consumes : b.Consumes id h c cs
  life : b.registry.life h = .active
  pump : PumpedBy pump p

namespace Going

variable (hg : b.Going id pump h feed c cs p Z T F)

include hg

theorem active : (b.registry.reader h).state = .active :=
  state_of_life hg.reachable.ok.registry hg.life

/-- What is in the channel has not been taken. -/
theorem channel : Z = T ++ (b.registry.reader h).contents :=
  (hg.carries.flow.active hg.active).2

theorem feed_exists (n : Nat) (hn : feed = some n) : n < b.service.feeds.length :=
  hg.carries.flow.exists_feed n hn

/-- All that was taken is data. -/
theorem data : ∀ f ∈ T, f.isData = true := by
  intro f hf
  cases p with
  | some q =>
    obtain ⟨-, hdata, -⟩ := hg.carries.flow.pumping q rfl
    exact hdata f (hg.carries.flow.taken.subset hf)
  | none =>
    -- the last frame is still in the channel
    obtain ⟨g, hlast, -⟩ := hg.supplied.unfed rfl
    have hne : (b.registry.reader h).contents ≠ [] :=
      List.ne_nil_of_mem (List.mem_of_getLast? hlast)
    refine hg.carries.flow.data f ?_
    rw [hg.channel, List.dropLast_append_of_ne_nil hne]
    exact List.mem_append_left _ hf

/-- **Where the pump is stuck and the channel is empty**, everything was taken. -/
theorem allTaken (hempty : (b.registry.reader h).contents = []) (hp : p = some q)
    (hs : b.Stuck h q) : b.AllTaken feed T F := by
  subst hp
  have hZ : Z = T := by
    rw [hg.channel, hempty, List.append_nil]
  obtain ⟨hfeed, hdata, hF⟩ := hg.carries.flow.pumping q rfl
  cases hs with
  | @dry id n f hf hw ho hwaiter =>
    have hupcoming : b.service.upcoming (.live n) = [] := by
      simp [Service.upcoming, hf, hw]
    have hall : Z = F := by
      rcases hF with hF | ⟨hfinish, -⟩
      · simpa [hupcoming] using hF
      · cases hfinish
    refine ⟨?_, hall ▸ hdata, fun hr => ?_⟩
    · simp [← hall, hZ]
    · have hended := hr n f hfeed.symm hf
      rw [ho] at hended
      cases hended
  | full hfull =>
    -- there is room in an empty channel
    have hcapacity := hg.carries.fits.capacity
    have hreceiving := (hg.carries.flow.active hg.active).1
    have hbuffer : (b.registry.reader h).channel.buffer = [] := by
      simpa [ReaderStatus.contents, hreceiving] using (List.append_eq_nil_iff.1 hempty).2
    unfold Channel.isFull at hfull
    rw [hbuffer, hcapacity] at hfull
    simp at hfull

/-- The channel of a reader without a pump is not empty. -/
theorem pumping (hempty : (b.registry.reader h).contents = []) : ∃ q, p = some q := by
  cases p with
  | some q => exact ⟨q, rfl⟩
  | none =>
    obtain ⟨f, hlast, -⟩ := hg.supplied.unfed rfl
    rw [hempty] at hlast
    cases hlast

end Going

/-- In a run, a consumer has been handed these frames and is still at work. -/
structure Reaches (b : Bridge) (id pump : TaskId) (h : ReaderHandle) (feed : Option Nat)
    (c : Consumer) (cs : List Bytes) (p' : Option Pumping) (Z' T T' F : List Frame)
    (es : List Event) : Prop where
  going : (b.after es).Going id pump h feed c (cs ++ b.handedOut h es) p' Z' (T ++ T')
    (F ++ b.fed feed es)
  handed : bytesOf T' = b.handedOut h es

namespace Reaches

theorem refl (hg : b.Going id pump h feed c cs p Z T F) :
    b.Reaches id pump h feed c cs p Z T [] F [] := by
  refine ⟨?_, rfl⟩
  show b.Going id pump h feed c (cs ++ []) p Z (T ++ []) (F ++ [])
  rwa [List.append_nil, List.append_nil, List.append_nil]

theorem trans {p₁ p₂ : Option Pumping} {Z₁ Z₂ T₁ T₂ : List Frame} {es es' : List Event}
    (h₁ : b.Reaches id pump h feed c cs p₁ Z₁ T T₁ F es)
    (h₂ : (b.after es).Reaches id pump h feed c (cs ++ b.handedOut h es) p₂ Z₂ (T ++ T₁) T₂
      (F ++ b.fed feed es) es') :
    b.Reaches id pump h feed c cs p₂ Z₂ T (T₁ ++ T₂) F (es ++ es') where
  going := by
    have hgoing := h₂.going
    rw [List.append_assoc, List.append_assoc, List.append_assoc] at hgoing
    rwa [after_append, handedOut_append, fed_append]
  handed := by rw [bytesOf_append, handedOut_append, h₁.handed, h₂.handed]

theorem of_step {p' : Option Pumping} {Z' T' : List Frame} {ev : Event}
    (hg : (b.step ev).Going id pump h feed c (cs ++ b.handedIn h ev) p' Z' (T ++ T')
      (F ++ b.fedIn feed ev)) (hbytes : bytesOf T' = b.handedIn h ev) :
    b.Reaches id pump h feed c cs p' Z' T T' F [ev] where
  going := by rwa [handedOut, handedOut, fed, fed, List.append_nil, List.append_nil]
  handed := by rwa [handedOut, handedOut, List.append_nil]

end Reaches

/-! ## Every event -/

/-- How far the frames of a reader have come, each of which is first in the hand of the pump, then
in the channel, and then taken. -/
def level (p : Option Pumping) (Z T : List Frame) : Nat :=
  T.length + 2 * Z.length + (p.bind Pumping.inHand).toList.length

/-- Nothing moves in an event. Whoever has the turn finds nothing to take, or no room. -/
structure Rests (b : Bridge) (id pump : TaskId) (h : ReaderHandle) (p : Option Pumping)
    (ev : Event) : Prop where
  empty : ev = .turn id → (b.registry.reader h).contents = []
  stuck : ev = .turn pump → ∀ q, p = some q → (b.step ev).Stuck h q

/-- What an event does that does not end the consumer. -/
structure Advances (b : Bridge) (id pump : TaskId) (h : ReaderHandle) (feed : Option Nat)
    (c : Consumer) (cs : List Bytes) (p p' : Option Pumping) (Z Z' T T' F : List Frame)
    (ev : Event) : Prop where
  reaches : b.Reaches id pump h feed c cs p' Z' T T' F [ev]
  moves : level p Z T < level p' Z' (T ++ T') ∨
    (p' = p ∧ Z' = Z ∧ T' = []) ∧ b.Rests id pump h p ev

namespace Going

variable {ev : Event} (hg : b.Going id pump h feed c cs p Z T F)

include hg

/-- The consumer does not pump. -/
theorem not_pumpsIn : ¬ b.PumpsIn h (.turn id) := by
  rintro ⟨i, entry, stream, frame, hi, hpump⟩
  obtain rfl := Event.turn.inj hi
  obtain ⟨stage, ht, -⟩ := hg.consumes.stands.place
  rw [ht] at hpump
  cases hpump

/-- The pump has its turn whenever its task has one. -/
theorem pumpsIn (hp : p = some q) : b.PumpsIn h (.turn pump) := by
  subst hp
  obtain ⟨-, entry, hm⟩ := hg.carries.pump
  obtain rfl := hg.pump q rfl
  exact ⟨q.id, entry, q.stream, q.inHand, rfl, task?_of_mem hg.reachable.ok.nodup hm⟩

/-- **A turn of the consumer.** -/
theorem turn (hnone : (b.poll id).1 = none) : ∃ T',
    b.Advances id pump h feed c cs p p Z Z T T' F (.turn id) := by
  have hb := hg.reachable
  have hnot := hg.not_pumpsIn
  have hpolled := poll_consumes hb (fun _ => hg.supplied) hg.consumes
  obtain ⟨T', hcarries, hbytes⟩ := step_takes hb.ok hg.carries hnot
  have hpumps : Event.turn id = .turn pump → ∀ q, p = some q → (b.step (.turn id)).Stuck h q :=
    fun hid q hp => absurd (hg.pumpsIn hp) (hid ▸ hnot)
  have hgoing : ∀ cs', (b.poll id).2.Consumes id h c cs' →
      (b.poll id).2.registry.life h = .active → cs' = cs ++ b.handedIn h (.turn id) →
      (b.step (.turn id)).Going id pump h feed c (cs ++ b.handedIn h (.turn id)) p Z (T ++ T')
        (F ++ b.fedIn feed (.turn id)) := by
    rintro cs' hconsumes hlife rfl
    have hactive := state_of_life (hb.step (.turn id)).ok.registry hlife
    exact ⟨hb.step _, hcarries, step_supplied_of_other hb.ok hg.carries hg.supplied hnot hactive,
      hconsumes, hlife, hg.pump⟩
  refine ⟨T', ?_⟩
  rw [hnone] at hpolled
  cases hpolled with
  | @goesOn x rest _ hl hfs hhanded hlife hconsumes =>
    refine ⟨.of_step (hgoing _ hconsumes hlife (by rw [hhanded])) hbytes, .inl ?_⟩
    have hne : T' ≠ [] := by
      rintro rfl
      rw [hhanded] at hbytes
      cases hbytes
    have hpos := List.length_pos_iff.2 hne
    simp only [level, List.length_append]
    omega
  | waits hl hfs hhanded hlife hconsumes =>
    have hsame : Z = T := by
      rw [hg.channel, hfs, List.append_nil]
    have hnil : T' = [] := by
      have hle := hcarries.flow.taken.length_le
      rw [hsame, List.length_append] at hle
      exact List.eq_nil_of_length_eq_zero (by omega)
    refine ⟨.of_step (hgoing _ hconsumes hlife (by rw [hhanded, List.append_nil])) hbytes,
      .inr ⟨⟨rfl, rfl, hnil⟩, fun _ => hfs, hpumps⟩⟩

/-- **A turn of the pump.** -/
theorem pumps {who : TaskId} {entry : Reader} {stream : Stream} {frame : Option Frame}
    (ht : b.task? who = some (.pump h entry stream frame)) (hne : who ≠ id)
    (hclosed : (b.closedIn (.turn who)).any (b.registry.takesReader h) = false) :
    ∃ p' Z', b.Advances id pump h feed c cs p p' Z Z' T [] F (.turn who) := by
  have hb := hg.reachable
  have hother : (Event.turn who).task? ≠ some id := fun hid => hne (Option.some.inj hid)
  obtain ⟨p', Z', hcarries, hpumps⟩ := poll_brings_on hb.ok hg.carries ht hg.active
  obtain rfl := hg.carries.pump.eq_of_task? hb.ok ht
  have hwho : who = pump := hg.pump _ rfl
  have hhanded := hg.consumes.alone.handedIn_eq_nil hother
  have hlife := (hg.consumes.alone.life_eq hb hg.consumes.there hother hclosed).trans hg.life
  have hgoing : (b.step (.turn who)).Going id pump h feed c (cs ++ b.handedIn h (.turn who)) p' Z'
      (T ++ []) (F ++ b.fedIn feed (.turn who)) := by
    rw [hhanded, List.append_nil, List.append_nil]
    refine ⟨hb.step _, ?_, hg.supplied.pumps hpumps, ?_, hlife, hpumps.pumpedBy hwho⟩
    · show (b.poll who).2.Carries none h feed p' Z' T (F ++ [])
      rwa [List.append_nil]
    · exact step_consumes_of_other hb hg.carries.issued hg.consumes hother (by nofun) hclosed
  -- what is in the channel tells what was put into it
  have hchannel := hgoing.channel
  rw [List.append_nil] at hchannel
  have hsame : (b.registry.reader h).Still ((b.poll who).2.registry.reader h) → Z' = Z := by
    intro hstill
    rw [hchannel, hg.channel]
    exact congrArg (T ++ ·) hstill.contents
  have hmore : ∀ f, b.Fills h who f (b.poll who).2 → Z' = Z ++ [f] := by
    intro f hfills
    rw [hchannel, hg.channel, List.append_assoc]
    exact congrArg (T ++ ·) hfills.contents
  refine ⟨p', Z', .of_step hgoing hhanded.symm, ?_⟩
  rw [List.append_nil]
  cases hpumps with
  | waits hstill hstuck =>
    refine .inr ⟨⟨rfl, hsame hstill, rfl⟩, fun hid => absurd (Event.turn.inj hid) hne, ?_⟩
    rintro - q hq
    obtain rfl := Option.some.inj hq
    exact hstuck
  | drew hstill hready =>
    left
    rw [hsame hstill]
    simp [level]
  | pushed hfills hfed hready =>
    left
    rw [hmore _ hfills]
    simp [level]
    omega
  | finished hfills hf hfed =>
    left
    rw [hmore _ hfills]
    simp [level]
    omega

/-- **An event that is neither.** -/
theorem others (hne : ev.task? ≠ some id) (hp : ¬ b.PumpsIn h ev) (hread : ev.reader? ≠ some h)
    (hclosed : (b.closedIn ev).any (b.registry.takesReader h) = false) :
    ∃ T', b.Advances id pump h feed c cs p p Z Z T T' F ev := by
  have hb := hg.reachable
  obtain ⟨T', hcarries, hbytes⟩ := step_takes hb.ok hg.carries hp
  have hhanded := hg.consumes.alone.handedIn_eq_nil hne
  have hlife := (hg.consumes.alone.life_eq hb hg.consumes.there hne hclosed).trans hg.life
  have hactive := state_of_life (hb.step ev).ok.registry hlife
  refine ⟨T', .of_step ⟨hb.step ev, hcarries, ?_, ?_, hlife, hg.pump⟩ hbytes, ?_⟩
  · exact step_supplied_of_other hb.ok hg.carries hg.supplied hp hactive
  · rw [hhanded, List.append_nil]
    exact step_consumes_of_other hb hg.carries.issued hg.consumes hne hread hclosed
  · cases T' with
    | nil =>
      refine .inr ⟨⟨rfl, rfl, rfl⟩, fun hid => ?_, fun hid q hq => ?_⟩
      · subst hid
        exact absurd rfl hne
      · subst hid
        exact absurd (hg.pumpsIn hq) hp
    | cons f fs =>
      left
      simp only [level, List.length_append, List.length_cons]
      omega

/-- **Every event of a run** answers the consumer, or does not end it. -/
theorem step (hkept : ev ≠ .abandon id) (hread : ev.reader? ≠ some h)
    (hclosed : ev.task? = some id ∨ (b.closedIn ev).any (b.registry.takesReader h) = false) :
    (ev = .turn id ∧ (b.poll id).1.isSome = true) ∨
      ∃ p' Z' T', b.Advances id pump h feed c cs p p' Z Z' T T' F ev := by
  by_cases hid : ev.task? = some id
  · obtain rfl := Event.eq_turn hid hkept
    cases hanswer : (b.poll id).1 with
    | some o => exact .inl ⟨rfl, rfl⟩
    | none =>
      obtain ⟨T', hadvances⟩ := hg.turn hanswer
      exact .inr ⟨p, Z, T', hadvances⟩
  · have hclosed := hclosed.resolve_left hid
    by_cases hp : b.PumpsIn h ev
    · obtain ⟨who, entry, stream, frame, rfl, ht⟩ := hp
      have hne : who ≠ id := fun hwho => hid (congrArg some hwho)
      obtain ⟨p', Z', hadvances⟩ := hg.pumps ht hne hclosed
      exact .inr ⟨p', Z', [], hadvances⟩
    · obtain ⟨T', hadvances⟩ := hg.others hid hp hread hclosed
      exact .inr ⟨p, Z, T', hadvances⟩

end Going

/-! ## Rounds -/

/-- What a run does that does not end the consumer: a frame is further on than before, or none
is. -/
structure Passes (b : Bridge) (id pump : TaskId) (h : ReaderHandle) (feed : Option Nat)
    (c : Consumer) (cs : List Bytes) (p p' : Option Pumping) (Z Z' T T' F : List Frame)
    (es : List Event) : Prop where
  reaches : b.Reaches id pump h feed c cs p' Z' T T' F es
  moves : level p Z T < level p' Z' (T ++ T') ∨ (p' = p ∧ Z' = Z ∧ T' = []) ∧
    (b.FairTo id es → (b.registry.reader h).contents = []) ∧
    ((b.registry.reader h).contents = [] → b.FairTo pump es → b.AllTaken feed T F)

namespace Going

variable {es : List Event} (hg : b.Going id pump h feed c cs p Z T F)

include hg

/-- A consumer that is not in the queue finds nothing to take. -/
theorem empty_of_idle (hidle : id ∉ b.ready) : (b.registry.reader h).contents = [] := by
  cases hg.consumes.stands with
  | ready ht hi => exact absurd hi hidle
  | waits ht hl hi => exact (hi.resolve_left hidle).1

/-- If the pump is not in the queue, everything was taken that is not in the channel. -/
theorem allTaken_of_idle (hempty : (b.registry.reader h).contents = []) (hidle : pump ∉ b.ready) :
    b.AllTaken feed T F := by
  obtain ⟨q, hp⟩ := hg.pumping hempty
  refine hg.allTaken hempty hp (hg.supplied.idle q hp ?_)
  rw [hg.pump q hp]
  exact hidle

/-- **Every run** that leaves the reader to the consumer answers it, or brings the frames on. -/
theorem run (hleft : b.LeftTo h id es) (hkept : .abandon id ∉ es) :
    b.AnsweredIn id es ∨ ∃ p' Z' T', b.Passes id pump h feed c cs p p' Z Z' T T' F es := by
  induction es generalizing b cs p Z T F with
  | nil =>
    exact .inr ⟨p, Z, [], .refl hg, .inr ⟨⟨rfl, rfl, rfl⟩, hg.empty_of_idle, hg.allTaken_of_idle⟩⟩
  | cons ev es ih =>
    obtain ⟨hread, hclosed, hrest⟩ := hleft
    rw [List.mem_cons, not_or] at hkept
    rcases hg.step (Ne.symm hkept.1) hread hclosed with hanswered | ⟨p₁, Z₁, T₁, h₁⟩
    · exact .inl (.inl hanswered)
    rcases ih h₁.reaches.going hrest hkept.2 with hanswered | ⟨p₂, Z₂, T₂, h₂⟩
    · exact .inl (.inr hanswered)
    refine .inr ⟨p₂, Z₂, T₁ ++ T₂, h₁.reaches.trans h₂.reaches, ?_⟩
    rw [← List.append_assoc]
    rcases h₁.moves with hup₁ | ⟨⟨rfl, rfl, rfl⟩, hrests⟩
    · left
      rcases h₂.moves with hup₂ | ⟨⟨rfl, rfl, rfl⟩, -⟩
      · exact hup₁.trans hup₂
      · rwa [List.append_nil]
    have hgoing := h₁.reaches.going
    rw [List.append_nil] at h₂ hgoing ⊢
    rcases h₂.moves with hup₂ | ⟨⟨rfl, rfl, rfl⟩, hempty, hall⟩
    · exact .inl hup₂
    -- nothing has moved, so the channel is as it was
    have hsame := List.append_cancel_left (hgoing.channel.symm.trans hg.channel)
    have hlater := after_feeds hg.reachable.ok [ev]
    refine .inr ⟨⟨rfl, rfl, rfl⟩, fun hfair => ?_, fun hnone hfair => ?_⟩
    · rcases hfair with hidle | hturn | hfair
      · exact hg.empty_of_idle hidle
      · exact hrests.empty hturn
      · exact hsame.symm.trans (hempty hfair)
    · rcases hfair with hidle | hturn | hfair
      · exact hg.allTaken_of_idle hnone hidle
      · obtain ⟨q, hp⟩ := hg.pumping hnone
        have hstuck := hrests.stuck hturn q hp
        have hafter := hgoing.allTaken (hsame.trans hnone) hp hstuck
        exact hafter.of_later List.prefix_rfl hlater hg.feed_exists
      · have hafter := hall (hsame.trans hnone) hfair
        exact hafter.of_later List.prefix_rfl hlater hg.feed_exists

/-- **A round** that is fair to the pump and to the consumer brings a frame further, or everything
was taken. -/
theorem round (hleft : b.LeftTo h id es) (hkept : .abandon id ∉ es)
    (hfair : ∀ i ∈ [pump, id], b.FairTo i es) :
    b.AnsweredIn id es ∨ ∃ p' Z' T', b.Reaches id pump h feed c cs p' Z' T T' F es ∧
      (level p Z T < level p' Z' (T ++ T') ∨ b.AllTaken feed (T ++ T') F) := by
  refine (hg.run hleft hkept).imp_right fun ⟨p', Z', T', hpasses⟩ => ?_
  refine ⟨p', Z', T', hpasses.reaches, hpasses.moves.imp_right ?_⟩
  rintro ⟨⟨rfl, rfl, rfl⟩, hempty, hall⟩
  rw [List.append_nil]
  have hnone := hempty (hfair id (by simp))
  exact hall hnone (hfair pump (by simp))

/-- **Rounds of a run** answer the consumer, or bring a frame further each, or everything was
taken. -/
theorem rounds {rs : List (List Event)} (hleft : b.LeftTo h id rs.flatten)
    (hkept : .abandon id ∉ rs.flatten) (hfair : b.Fair [pump, id] rs) :
    b.AnsweredIn id rs.flatten ∨ ∃ p' Z' T',
      b.Reaches id pump h feed c cs p' Z' T T' F rs.flatten ∧
      (level p Z T + rs.length ≤ level p' Z' (T ++ T') ∨ b.AllTaken feed (T ++ T') F) := by
  induction rs generalizing b cs p Z T F with
  | nil => exact .inr ⟨p, Z, [], .refl hg, .inl (by simp)⟩
  | cons es rs ih =>
    rw [List.flatten_cons] at hleft hkept ⊢
    rw [List.mem_append, not_or] at hkept
    obtain ⟨hleft₁, hleft₂⟩ := hleft.append
    rcases hg.round hleft₁ hkept.1 hfair.1 with hanswered | ⟨p₁, Z₁, T₁, hr₁, h₁⟩
    · exact .inl (hanswered.append_left _)
    rcases ih hr₁.going hleft₂ hkept.2 hfair.2 with hanswered | ⟨p₂, Z₂, T₂, hr₂, h₂⟩
    · exact .inl hanswered.append_right
    refine .inr ⟨p₂, Z₂, T₁ ++ T₂, hr₁.trans hr₂, ?_⟩
    rw [← List.append_assoc, List.length_cons]
    rcases h₁ with hup₁ | hall₁
    · rcases h₂ with hup₂ | hall₂
      · left
        omega
      · have hlater := after_feeds hg.reachable.ok es
        exact .inr (hall₂.of_later List.prefix_rfl hlater hg.feed_exists)
    · exact .inr ⟨hall₁.taken.trans (List.prefix_append _ T₂), hall₁.data, hall₁.goesOn⟩

/-- A frame is at most so far as the consumer has taken it, or in the channel, or in hand. -/
theorem level_le : level p Z T ≤ 3 * T.length + 2 * max b.config.chunkBuffer.toNat 1 + 1 := by
  have hfits := hg.carries.fits.contents hg.active
  have hlength := congrArg List.length hg.channel
  have hhand : (p.bind Pumping.inHand).toList.length ≤ 1 := by
    cases p.bind Pumping.inHand <;> simp
  rw [List.length_append] at hlength
  unfold level
  omega

/-- **After so many rounds** the consumer is answered, or was handed all that the stream had
yielded when they began, and there was no end to it. -/
theorem catches_up {rs : List (List Event)} (hleft : b.LeftTo h id rs.flatten)
    (hkept : .abandon id ∉ rs.flatten) (hfair : b.Fair [pump, id] rs)
    (hlong : 3 * (Channel.takeRun F).1.length + 2 * max b.config.chunkBuffer.toNat 1 + 1 <
      rs.length) :
    b.AnsweredIn id rs.flatten ∨ ∃ p' Z' T',
      b.Reaches id pump h feed c cs p' Z' T T' F rs.flatten ∧
      (Channel.takeRun F).1 <+: bytesOf (T ++ T') ∧ (Channel.takeRun F).2 = [] ∧
      ¬ b.service.RanOut feed := by
  refine (hg.rounds hleft hkept hfair).imp_right fun ⟨p', Z', T', hreaches, hmoves⟩ => ?_
  refine ⟨p', Z', T', hreaches, ?_⟩
  rcases hmoves with hlevel | hall
  · -- more was taken than the stream had yielded
    have hlater := after_later hg.reachable.ok rs.flatten
    have hbound := hreaches.going.level_le
    rw [hlater.2.config] at hbound
    have hmore : (Channel.takeRun F).1.length < (bytesOf (T ++ T')).length := by
      rw [bytesOf_length hreaches.going.data]
      omega
    have hprefix := hreaches.going.carries.flow.data_prefix
    refine ⟨?_, ?_, fun hr => ?_⟩
    · exact List.prefix_of_prefix_length_le (takeRun_extends F _) hprefix hmore.le
    · by_contra hne
      rw [takeRun_of_rest hne] at hprefix
      exact absurd hprefix.length_le (Nat.not_le.2 hmore)
    · have hnone : b.fed feed rs.flatten = [] := fed_of_ranOut hg.reachable.ok hg.feed_exists hr
      rw [hnone, List.append_nil] at hprefix
      exact absurd hprefix.length_le (Nat.not_le.2 hmore)
  · rw [takeRun_data hall.data]
    exact ⟨hall.taken.filterMap _, rfl, hall.goesOn⟩

end Going

/-! ## After the end -/

/-- A consumer of a stream that has ended waits for nothing. -/
theorem Consumes.ready (hc : b.Consumes id h c cs) (hl : b.registry.life h = .exhausted) :
    id ∈ b.ready := by
  cases hc.stands with
  | ready ht hi => exact hi
  | waits ht hl' =>
    rw [hl] at hl'
    cases hl'

/-- It is answered when it has a turn. -/
theorem Consumes.poll (hb : b.Reachable) (hc : b.Consumes id h c cs)
    (hl : b.registry.life h = .exhausted) : (b.poll id).1.isSome = true := by
  have hnot : b.registry.life h ≠ .active := by
    rw [hl]
    nofun
  have hidle : (b.registry.reader h).state = .active → b.Supplied h none := fun ha =>
    absurd (life_of_state hb.ok.registry ha) hnot
  have hpolled := poll_consumes hb hidle hc
  generalize (b.poll id).1 = answer, (b.poll id).2 = b' at hpolled
  cases hpolled with
  | ends hends => rfl
  | goesOn hl' => exact absurd hl' hnot
  | waits hl' => exact absurd hl' hnot

/-- **A consumer of a stream that has ended** is answered in every round that is fair to it. -/
theorem Consumes.answered {es : List Event} (hb : b.Reachable)
    (hissued : b.registry.readers.Issued h) (hc : b.Consumes id h c cs)
    (hl : b.registry.life h = .exhausted) (hleft : b.LeftTo h id es) (hkept : .abandon id ∉ es)
    (hfair : b.FairTo id es) : b.AnsweredIn id es := by
  induction es generalizing b with
  | nil => exact absurd (hc.ready hl) hfair
  | cons ev es ih =>
    obtain ⟨hread, hclosed, hrest⟩ := hleft
    rw [List.mem_cons, not_or] at hkept
    by_cases hturn : ev = .turn id
    · exact .inl ⟨hturn, hc.poll hb hl⟩
    have hid : ev.task? ≠ some id := fun hid => hturn (Event.eq_turn hid (Ne.symm hkept.1))
    have hclosed := hclosed.resolve_left hid
    have hfair := (hfair.resolve_left fun hidle => hidle (hc.ready hl)).resolve_left hturn
    right
    refine ih (.step ev hb) ?_ ?_ ?_ hrest hkept.2 hfair
    · exact (step_steps hb.ok ev).later.registry.readIssued hissued
    · exact step_consumes_of_other hb hissued hc hid hread hclosed
    · exact (hc.alone.life_eq hb hc.there hid hclosed).trans hl

end Bridge

end QueryBridge
