import QueryBridge.Proofs.Bridge.Leaving
import QueryBridge.Proofs.ReaderLife

/-!
# The supply of a reader

The channel of a live reader is fed as long as its pump is at work. A pump that
is not in the queue waits for what will wake it: a frame of its feed, or room in
the channel. When it is over, the last frame in the channel is not data. So whoever
takes frames off the reader until there is one that is not data gets on.

* `Bridge.Stuck`, `Bridge.Supplied`: what is so of a live reader.
* `step_supplied_of_other`: the turns of others.
* `Bridge.Pumps`, `poll_pumps`: what a turn of the pump does.
* `Bridge.Starts`, `registered_supplied`: a new reader.
* `step_supplied`, `after_supplied`: every event, and every run.
-/

namespace QueryBridge

variable {b b' : Bridge} {h : ReaderHandle} {id who : TaskId} {feed : Option Nat}
  {p p' : Option Pumping} {q : Pumping} {Z T F : List Frame}

/-! ## The channel -/

/-- What data is taken off ends with the same frame as before, if that is not data. -/
theorem ReaderStatus.Left.last {s s' : ReaderStatus} {f : Frame} (hl : s.Left s')
    (hs : s.contents.getLast? = some f) (hf : f.isTerminal = true) :
    s'.contents.getLast? = some f := by
  obtain ⟨fs, hfs, hc⟩ := hl.contents
  rw [hc, List.getLast?_append] at hs
  cases hlast : s'.contents.getLast? with
  | some g =>
    rw [hlast] at hs
    exact hs
  | none =>
    rw [hlast] at hs
    have hd := hfs f (List.mem_of_getLast? hs)
    simp [Frame.isTerminal, hd] at hf

/-- If the pump of a reader is still at work, it is this task. -/
def PumpedBy (pump : TaskId) (p : Option Pumping) : Prop := ∀ q, p = some q → q.id = pump

/-- A pump stays the task that it is. -/
theorem Pumping.Brings.pumpedBy {pump : TaskId} {Z' : List Frame} {drawn : Option Frame}
    (hq : Brings p Z drawn p' Z') (hp : PumpedBy pump p) : PumpedBy pump p' := by
  intro q' hq'
  cases hq <;> cases hq' <;> have hid := hp _ rfl <;> exact hid

/-- Nothing has come into the channel, and whoever waits for a frame still does. -/
structure ReaderStatus.Still (s s' : ReaderStatus) : Prop where
  contents : s'.contents = s.contents
  isFed : s'.channel.isFed = s.channel.isFed
  frameWaiter : s'.channel.frameWaiter = s.channel.frameWaiter

namespace Bridge

/-- What keeps the pump of a reader waiting. -/
inductive Stuck (b : Bridge) (h : ReaderHandle) : Pumping → Prop
  /-- Its feed is empty, and may be fed. -/
  | dry {id : TaskId} {n : Nat} {f : Feed} : b.service.feeds[n]? = some f → f.waiting = [] →
    f.isOpen = true → f.waiter = some id → Stuck b h ⟨id, .live n, none⟩
  /-- There is no room in the channel. -/
  | full {id : TaskId} {stream : Stream} {f : Frame} :
    (b.registry.reader h).channel.isFull = true →
    (b.registry.reader h).channel.roomWaiter = some id → Stuck b h ⟨id, stream, some f⟩

/-- The channel of a reader is fed by its pump, which is in the queue unless something keeps it
waiting. If there is no pump any more, the channel ends with a frame that is not data. -/
structure Supplied (b : Bridge) (h : ReaderHandle) (p : Option Pumping) : Prop where
  fed : (b.registry.reader h).channel.isFed = p.isSome
  unfed : p = none →
    ∃ f, (b.registry.reader h).contents.getLast? = some f ∧ f.isTerminal = true
  idle : ∀ q, p = some q → q.id ∉ b.ready → b.Stuck h q

/-! ## What others leave -/

/-- What kept the pump waiting still does, or it was woken. -/
theorem Stuck.leaves (hs : b.Stuck h q) (hl : b.Leaves q.id h feed b')
    (hfeed : q.stream.feed? = feed) (ht : (b.task? q.id).isSome = true)
    (ha : (b'.registry.reader h).state = .active) (hi : q.id ∉ b'.ready) : b'.Stuck h q := by
  cases hs with
  | @dry id n f hf hw ho hwaiter =>
    obtain ⟨f', hf', -, hsame⟩ := hl.feed n f hfeed.symm hf
    rcases hsame with rfl | hwoken
    · exact .dry hf' hw ho hwaiter
    · exact absurd (hwoken ht hwaiter) hi
  | full hfull hroom =>
    rcases hl.room ha ht hroom with ⟨hbuf, hroom'⟩ | hready
    · refine .full ?_ hroom'
      unfold Channel.isFull at hfull ⊢
      rw [hbuf, (hl.left ha).capacity]
      exact hfull
    · exact absurd hready hi

theorem Supplied.leaves (hs : b.Supplied h p) (hl : b.Leaves who h feed b')
    (hp : ∀ q, p = some q → q.id = who ∧ q.stream.feed? = feed ∧ (b.task? q.id).isSome = true)
    (ha : (b'.registry.reader h).state = .active) : b'.Supplied h p where
  fed := (hl.left ha).isFed.trans hs.fed
  unfed hnone := by
    obtain ⟨f, hlast, hf⟩ := hs.unfed hnone
    exact ⟨f, (hl.left ha).last hlast hf, hf⟩
  idle q hq hi := by
    obtain ⟨rfl, hfeed, ht⟩ := hp q hq
    have hidle : q.id ∉ b.ready := fun hr => hi (hl.ready hr)
    exact (hs.idle q hq hidle).leaves hl hfeed ht ha hi

/-- **An event that is no turn of the pump.** -/
theorem step_supplied_of_other (hb : BridgeOK b none none) (hc : b.Carries none h feed p Z T F)
    (hs : b.Supplied h p) {e : Event} (hp : ¬ b.PumpsIn h e)
    (ha : ((b.step e).registry.reader h).state = .active) : (b.step e).Supplied h p := by
  cases p with
  | none =>
    have hwho : e.task? ≠ some (e.task?.getD 0 + 1) := by
      cases e.task? with
      | none => nofun
      | some id => simp
    exact hs.leaves (step_leaves hb hc.issued hwho (b.feedOf_none _) hp) nofun ha
  | some q =>
    obtain ⟨-, entry, hm⟩ := hc.pump
    have ht := task?_of_mem hb.nodup hm
    have hl : b.Leaves q.id h feed (b.step e) := by
      by_cases hid : e.task? = some q.id
      -- a pump has no caller who could give it up
      · have hsame : b.step e = b := by
          cases e with
          | turn id =>
            obtain rfl := Option.some.inj hid
            exact absurd ⟨_, _, _, _, rfl, ht⟩ hp
          | abandon id =>
            obtain rfl := Option.some.inj hid
            show b.abandon q.id = b
            unfold abandon
            rw [ht]
          | _ => cases hid
        rw [hsame]
        exact .refl _ _ _ _
      · exact step_leaves hb hc.issued hid (hc.feedOf hb) hp
    obtain ⟨hfeed, -⟩ := hc.flow.pumping q rfl
    refine hs.leaves hl (fun q' hq => ?_) ha
    obtain rfl := Option.some.inj hq
    exact ⟨rfl, hfeed, by rw [ht]; rfl⟩

/-! ## Turns of the pump -/

/-- One more frame is in the channel, and whoever waits for one can go on. -/
structure Fills (b : Bridge) (h : ReaderHandle) (pump : TaskId) (f : Frame) (b' : Bridge) :
    Prop where
  contents : (b'.registry.reader h).contents = (b.registry.reader h).contents ++ [f]
  woken : ∀ i, i ≠ pump → (b.task? i).isSome = true →
    (b.registry.reader h).channel.frameWaiter = some i → i ∈ b'.ready

/-- What a turn of the pump of a live reader does, and where the pump is then. -/
inductive Pumps (b : Bridge) (h : ReaderHandle) : Pumping → Bridge → Option Pumping → Prop
  | waits {q : Pumping} {b' : Bridge} : (b.registry.reader h).Still (b'.registry.reader h) →
    b'.Stuck h q → Pumps b h q b' (some q)
  | drew {id : TaskId} {stream stream' : Stream} {f : Frame} {b' : Bridge} :
    (b.registry.reader h).Still (b'.registry.reader h) → id ∈ b'.ready →
    Pumps b h ⟨id, stream, none⟩ b' (some ⟨id, stream', some f⟩)
  | pushed {id : TaskId} {stream : Stream} {f : Frame} {b' : Bridge} : b.Fills h id f b' →
    (b'.registry.reader h).channel.isFed = (b.registry.reader h).channel.isFed → id ∈ b'.ready →
    Pumps b h ⟨id, stream, some f⟩ b' (some ⟨id, stream, none⟩)
  | finished {id : TaskId} {stream : Stream} {f : Frame} {b' : Bridge} : b.Fills h id f b' →
    f.isTerminal = true → (b'.registry.reader h).channel.isFed = false →
    Pumps b h ⟨id, stream, some f⟩ b' none

theorem Pumps.pumpedBy {pump : TaskId} (hq : b.Pumps h q b' p') (hp : q.id = pump) :
    PumpedBy pump p' := by
  intro q' hq'
  cases hq <;> cases hq' <;> exact hp

/-- **A turn of the pump** keeps the reader supplied. -/
theorem Supplied.pumps (hs : b.Supplied h (some q)) (hq : b.Pumps h q b' p') :
    b'.Supplied h p' := by
  cases hq with
  | waits hstill hstuck =>
    refine ⟨hstill.isFed.trans hs.fed, nofun, fun q' hq' _ => ?_⟩
    obtain rfl := Option.some.inj hq'
    exact hstuck
  | drew hstill hready =>
    refine ⟨hstill.isFed.trans hs.fed, nofun, fun q' hq' hidle => ?_⟩
    obtain rfl := Option.some.inj hq'
    exact absurd hready hidle
  | pushed hfills hfed hready =>
    refine ⟨hfed.trans hs.fed, nofun, fun q' hq' hidle => ?_⟩
    obtain rfl := Option.some.inj hq'
    exact absurd hready hidle
  | @finished id stream f b' hfills hf hfed =>
    refine ⟨hfed, fun _ => ⟨f, ?_, hf⟩, nofun⟩
    rw [hfills.contents, List.getLast?_concat]

/-- Two accounts of where the pump of a reader is agree. -/
theorem PumpAt.unique (hp : b.PumpAt none h p) (hp' : b.PumpAt none h p')
    (hb : BridgeOK b none none) : p = p' := by
  cases p' with
  | none =>
    cases p with
    | none => rfl
    | some q =>
      obtain ⟨-, e, he⟩ := hp
      exact absurd rfl (hp' _ he nofun)
  | some q =>
    obtain ⟨-, e, he⟩ := hp'
    exact hp.eq_of_task? hb (task?_of_mem hb.nodup he)

/-- What keeps a pump waiting is in the service and in the resources. -/
theorem Stuck.congr (hs : b.Stuck h q) (hservice : b'.service = b.service)
    (hregistry : b'.registry = b.registry) : b'.Stuck h q := by
  cases hs with
  | dry hf hw ho hwaiter =>
    rw [← hservice] at hf
    exact .dry hf hw ho hwaiter
  | full hfull hroom =>
    rw [← hregistry] at hfull hroom
    exact .full hfull hroom

/-- A pump that finds no frame is stuck: its feed is empty, and may be fed. -/
theorem Stuck.of_no_frame {stream : Stream} (id : TaskId) (h : ReaderHandle)
    (hn : b.service.nextFrame? stream = none) :
    (b.withService (b.service.awaitFrame id stream)).Stuck h ⟨id, stream, none⟩ := by
  cases stream with
  | fixed frames => cases frames <;> cases hn
  | live n =>
    unfold Service.nextFrame? at hn
    dsimp only at hn
    split at hn
    · cases hn
    rename_i f hf
    split at hn
    · cases hn
    rename_i hw
    split at hn
    · rename_i ho
      refine .dry (f := { f with waiter := some id }) ?_ hw ho rfl
      show (b.service.feeds.modify n _)[n]? = _
      rw [List.getElem?_modify_eq, hf]
      rfl
    · cases hn

/-- A pump waits for room in the channel. -/
def awaitRoom (b : Bridge) (id : TaskId) (h : ReaderHandle) : Bridge :=
  b.modifyReader h fun s => { s with channel := { s.channel with roomWaiter := some id } }

theorem awaitRoom_reader (id : TaskId) (hrec : (b.registry.reader h).isReceiving = true) :
    (b.awaitRoom id h).registry.reader h =
      { b.registry.reader h with
        channel := { (b.registry.reader h).channel with roomWaiter := some id } } :=
  b.registry.reader_modify_of_receiving
    (fun s => { s with channel := { s.channel with roomWaiter := some id } }) hrec

/-- A pump that finds no room is stuck. -/
theorem Stuck.of_full {stream : Stream} {f : Frame} (id : TaskId)
    (hrec : (b.registry.reader h).isReceiving = true)
    (hfull : (b.registry.reader h).channel.isFull = true) :
    (b.awaitRoom id h).Stuck h ⟨id, stream, some f⟩ := by
  have hstatus := awaitRoom_reader id hrec
  refine .full ?_ ?_
  · rw [hstatus]
    exact hfull
  · rw [hstatus]

/-- A frame is put into the channel, and whoever waits for one is woken. -/
def fill (b : Bridge) (h : ReaderHandle) (f : Frame) : Bridge :=
  (b.modifyReader h fun s => { s with channel := { s.channel.push f with frameWaiter := none } }
    ).wakeAll (b.registry.reader h).channel.frameWaiter.toList

theorem fill_tasks (b : Bridge) (h : ReaderHandle) (f : Frame) : (b.fill h f).tasks = b.tasks :=
  (wakeAll_aside _ _).tasks

theorem fill_reader {f : Frame} (hrec : (b.registry.reader h).isReceiving = true) :
    (b.fill h f).registry.reader h =
      { b.registry.reader h with
        channel := { (b.registry.reader h).channel.push f with frameWaiter := none } } := by
  unfold fill
  rw [wakeAll_registry]
  exact b.registry.reader_modify_of_receiving
    (fun s => { s with channel := { s.channel.push f with frameWaiter := none } }) hrec

theorem fill_fills {f : Frame} (hrec : (b.registry.reader h).isReceiving = true) :
    b.Fills h id f (b.fill h f) where
  contents := by
    rw [fill_reader hrec]
    simp [ReaderStatus.contents, Channel.push, hrec]
  woken i _ ht hw := by
    refine mem_ready_wakeAll ?_ ht
    rw [hw]
    exact List.mem_singleton.2 rfl

/-- The channel of a pump that is over is not fed any more. -/
theorem endPump_reader {stream : Stream} (hrec : (b.registry.reader h).isReceiving = true) :
    (afterBackground id (b.endPump h stream)).registry.reader h =
      { b.registry.reader h with
        channel :=
          { (b.registry.reader h).channel with isFed := false, frameWaiter := none } } := by
  rw [afterBackground_registry]
  unfold endPump
  dsimp only
  rw [wakeAll_registry]
  exact b.registry.reader_modify_of_receiving
    (fun s => { s with channel := { s.channel with isFed := false, frameWaiter := none } }) hrec

theorem endPump_tasks {stream : Stream} :
    (afterBackground id (b.endPump h stream)).tasks = b.tasks.filter (·.1 ≠ id) := by
  unfold endPump afterBackground concludeBackground
  dsimp only
  rw [(wakeAll_aside _ _).tasks]
  show List.filter _ (wakeAll _ _).tasks = _
  rw [(wakeAll_aside _ _).tasks]
  rfl

/-- The frame that a pump puts into the channel before it is over is there afterwards. -/
theorem Fills.endPump {f : Frame} (stream : Stream) (hf : b.Fills h id f b')
    (hrec : (b'.registry.reader h).isReceiving = true) :
    b.Fills h id f (afterBackground id (b'.endPump h stream)) where
  contents := by
    rw [endPump_reader hrec]
    exact hf.contents
  woken i hne ht hw := by
    have hready := (endPump_spawns b' h stream).ready (hf.woken i hne ht hw)
    unfold afterBackground concludeBackground
    dsimp only [Bridge.endPump] at hready ⊢
    refine (wakeAll_spawns _ _).ready ?_
    exact (List.mem_erase_of_ne hne).2 hready

/-- Where the pump of a reader is whose task goes on. -/
theorem pumpAt_setTask {e : Reader} {stream : Stream} {frame : Option Frame}
    (ht : b.task? id = some (.pump h e stream frame)) (htasks : b'.tasks = b.tasks)
    (stream' : Stream) (frame' : Option Frame) :
    (b'.setTask id (.pump h e stream' frame')).PumpAt none h (some ⟨id, stream', frame'⟩) := by
  refine ⟨nofun, e, List.mem_map.2 ⟨(id, .pump h e stream frame), ?_, if_pos rfl⟩⟩
  rw [htasks]
  exact mem_of_task? ht

/-- Where it is over, the reader has no pump. -/
theorem pumpAt_over {e : Reader} {stream : Stream} {frame : Option Frame}
    (hb : BridgeOK b none none) (ht : b.task? id = some (.pump h e stream frame))
    (htasks : b'.tasks = b.tasks.filter (·.1 ≠ id)) : b'.PumpAt none h none := by
  intro t hm _ hpumps
  rw [htasks] at hm
  obtain ⟨hm, hne⟩ := List.mem_filter.1 hm
  have hsame : t.1 = id := congrArg Prod.fst (hb.pump_unique hm (mem_of_task? ht) hpumps rfl)
  simp [hsame] at hne

/-- A pump with nothing in hand takes a frame off its stream, or waits for one. -/
theorem draw_pumps {e : Reader} {stream : Stream}
    (ht : b.task? id = some (.pump h e stream none))
    (hcan : (b.takeTurn id).registry.isCancelled (e.scope h) = false) :
    ∃ p', (b.poll id).2.PumpAt none h p' ∧ b.Pumps h ⟨id, stream, none⟩ (b.poll id).2 p' := by
  rw [poll_pump ht]
  unfold pump
  rw [hcan, if_neg (by simp)]
  dsimp only
  cases hnext : (b.takeTurn id).service.nextFrame? stream with
  | some r =>
    obtain ⟨f, stream', s'⟩ := r
    have htasks : ((b.takeTurn id).withService s').tasks = b.tasks := rfl
    have hat := pumpAt_setTask ht htasks stream' (some f)
    exact ⟨_, hat.of_tasks rfl, .drew ⟨rfl, rfl, rfl⟩ List.mem_cons_self⟩
  | none =>
    set b₁ := (b.takeTurn id).withService ((b.takeTurn id).service.awaitFrame id stream)
    have htasks : b₁.tasks = b.tasks := rfl
    refine ⟨_, pumpAt_setTask ht htasks stream none, .waits ⟨rfl, rfl, rfl⟩ ?_⟩
    exact (Stuck.of_no_frame id h hnext).congr rfl rfl

/-- A pump with a frame in hand puts it into the channel, or waits for room. -/
theorem put_pumps {e : Reader} {stream : Stream} {f : Frame} (hb : BridgeOK b none none)
    (ht : b.task? id = some (.pump h e stream (some f)))
    (hcan : (b.takeTurn id).registry.isCancelled (e.scope h) = false)
    (hrec : ((b.takeTurn id).registry.reader h).isReceiving = true) :
    ∃ p', (b.poll id).2.PumpAt none h p' ∧ b.Pumps h ⟨id, stream, some f⟩ (b.poll id).2 p' := by
  rw [poll_pump ht]
  set b₀ := b.takeTurn id
  unfold pump
  rw [hcan, if_neg (by simp)]
  dsimp only
  rw [hrec, if_neg (by simp)]
  split
  · rename_i hfull
    have hstatus := awaitRoom_reader id hrec
    have htasks : (b₀.awaitRoom id h).tasks = b.tasks := rfl
    refine ⟨_, pumpAt_setTask ht htasks stream (some f), .waits ?_ ?_⟩
    · show (b₀.registry.reader h).Still ((b₀.awaitRoom id h).registry.reader h)
      rw [hstatus]
      exact ⟨rfl, rfl, rfl⟩
    · exact (Stuck.of_full id hrec hfull).congr rfl rfl
  · have hfills : b₀.Fills h id f (b₀.fill h f) := fill_fills hrec
    have hstatus := fill_reader (f := f) hrec
    split
    · rename_i hf
      have hrec' : ((b₀.fill h f).registry.reader h).isReceiving = true := by
        rw [hstatus]
        exact hrec
      have hended := hfills.endPump stream hrec'
      have hover : (afterBackground id ((b₀.fill h f).endPump h stream)).tasks =
          b.tasks.filter (·.1 ≠ id) := by
        rw [endPump_tasks, fill_tasks]
        rfl
      refine ⟨none, pumpAt_over hb ht hover, .finished ⟨hended.contents, hended.woken⟩ hf ?_⟩
      show ((afterBackground id ((b₀.fill h f).endPump h stream)).registry.reader h
        ).channel.isFed = false
      rw [endPump_reader hrec']
    · have hat := pumpAt_setTask ht (fill_tasks b₀ h f) stream none
      refine ⟨_, hat.of_tasks rfl,
        .pushed ⟨hfills.contents, fun i hne hi hw => ?_⟩ ?_ List.mem_cons_self⟩
      · exact List.mem_cons_of_mem _ ((List.mem_erase_of_ne hne).2 (hfills.woken i hne hi hw))
      · show ((b₀.fill h f).registry.reader h).channel.isFed = _
        rw [hstatus]
        rfl

/-- **A turn of the pump of a live reader**: it takes a frame off its stream, or puts one into the
channel, or has to wait. -/
theorem poll_pumps {e : Reader} {stream : Stream} {inHand : Option Frame}
    (hb : BridgeOK b none none) (ht : b.task? id = some (.pump h e stream inHand))
    (ha : (b.registry.reader h).state = .active) :
    ∃ p', (b.poll id).2.PumpAt none h p' ∧ b.Pumps h ⟨id, stream, inHand⟩ (b.poll id).2 p' := by
  -- nothing is cancelled, and frames are taken
  have hcan : b.registry.isCancelled (e.scope h) = false := by
    obtain ⟨e', he'⟩ := (hb.registry.active h).1 ha
    obtain ⟨-, hname⟩ : b.registry.NamesReader h e := hb.task ht
    have hlive := hb.registry.reader_scope he'
    rwa [hname e' he'] at hlive
  have hrec := hb.receiving h ha
  cases inHand with
  | none => exact draw_pumps ht hcan
  | some f => exact put_pumps hb ht hcan hrec

/-! ## New readers -/

/-- The turn has registered a reader over a channel that is fed, and has started its pump. -/
def Starts (h : ReaderHandle) (t : Turn) : Prop :=
  ∃ (b : Bridge) (e : Reader) (ch : Channel) (stream : Stream) (r : Registry), ch.isFed = true ∧
    (b.registry.session e.session).isOpen = true ∧ b.registry.addReader e ch = .ok (h, r) ∧
    t.2 = (b.withRegistry r).spawnOn (.pump h e stream none)

theorem attach_starts {s : SessionHandle} {e : Session} {stream : Stream}
    (hr : (b.attach s e stream).1 = .ends (.replied (.reader h))) :
    Starts h (b.attach s e stream) := by
  unfold attach at hr ⊢
  split at hr
  · cases hr
  · rename_i ch hch
    have hfed : ch.isFed = true := by
      unfold Channel.ofCapacity? at hch
      split at hch
      · obtain rfl := Option.some.inj hch
        rfl
      · cases hch
    split at hr
    · rename_i ho
      dsimp only at hr ⊢
      split at hr
      · rename_i x r hadd
        cases hr
        refine ⟨b, _, ch, stream, r, hfed, ho, hadd, ?_⟩
        rw [if_pos ho]
        rfl
      · cases hr
    · cases hr

theorem executing_starts {s : SessionHandle} {e : Session} {stream : Stream} {q : Course × Bridge}
    (hr : (executing s e stream q).1 = .ends (.replied (.reader h))) :
    Starts h (executing s e stream q) := by
  obtain ⟨course, b⟩ := q
  cases course with
  | held held => cases hr
  | refused message => cases hr
  | returned => exact attach_starts hr

theorem executeQuery_starts {s : SessionHandle} {text : String}
    (hr : (b.executeQuery id s text).1 = .ends (.replied (.reader h))) :
    Starts h (b.executeQuery id s text) := by
  unfold executeQuery at hr ⊢
  cases hs : b.registry.openSession s with
  | error f =>
    rw [hs] at hr
    cases hr
  | ok e =>
    rw [hs] at hr
    dsimp only at hr ⊢
    split at hr
    · cases hr
    · rename_i hrt
      split at hr
      · cases hr
      · rename_i hcan
        rw [if_neg hrt, if_neg hcan]
        generalize b.call (some e.client) (.executeQuery e.globalId text) = q at hr ⊢
        obtain ⟨refusal, b₁⟩ := q
        cases refusal with
        | some message => cases hr
        | none => exact executing_starts hr

/-- Handles of readers are given out where queries are executed. -/
theorem registersIn_executed {stage : Stage} {t : Progress Stage Outcome}
    (hr : stage.registersIn t = some (.executed h)) :
    t = .ends (.replied (.reader h)) ∧ ((∃ s text, stage = .fresh (.executeQuery s text)) ∨
      ∃ s e stream held, stage = .executing s e stream held) := by
  cases t with
  | waits s => cases hr
  | goesOn s => cases hr
  | ends o =>
    cases o with
    | failed f => cases stage <;> first | cases hr | (rename_i c; cases c <;> cases hr)
    | crashed => cases stage <;> first | cases hr | (rename_i c; cases c <;> cases hr)
    | replied r =>
      cases stage with
      | fresh c =>
        cases c <;> cases r <;> cases hr
        exact ⟨rfl, .inl ⟨_, _, rfl⟩⟩
      | executing s e stream held =>
        cases r <;> cases hr
        exact ⟨rfl, .inr ⟨_, _, _, _, rfl⟩⟩
      | _ => cases r <;> cases hr

/-- **A turn that gives out the handle of a reader** starts its pump. -/
theorem turn_starts {stage : Stage}
    (hr : stage.registersIn (b.turn id stage).1 = some (.executed h)) :
    (b.turn id stage).1 = .ends (.replied (.reader h)) ∧ Starts h (b.turn id stage) := by
  obtain ⟨hends, ⟨s, text, rfl⟩ | ⟨s, e, stream, held, rfl⟩⟩ := registersIn_executed hr
  · exact ⟨hends, executeQuery_starts hends⟩
  · refine ⟨hends, ?_⟩
    unfold turn at hends ⊢
    dsimp only at hends ⊢
    split at hends
    · cases hends
    · rename_i hcan
      rw [if_neg hcan]
      exact executing_starts hends

/-- Work that was started in the background is in the queue. -/
theorem spawnOn_queued (b : Bridge) (t : Task) :
    (b.nextTask, t) ∈ (b.spawnOn t).tasks ∧ b.nextTask ∈ (b.spawnOn t).ready :=
  ⟨List.mem_append_right _ (List.mem_singleton.2 rfl),
    List.mem_append_right _ (List.mem_singleton.2 rfl)⟩

/-- **A reader that a turn has registered** is supplied by its pump. -/
theorem Starts.supplied {me : Option TaskId} {inHand : Option Stream} {pump : TaskId}
    {src : Stream} {t : Turn} (hs : Starts h t) (hok : BridgeOK t.2 me inHand)
    (hp : (t.2.conclude id).PumpAt none h (some ⟨pump, src, none⟩)) :
    (t.2.conclude id).Supplied h (some ⟨pump, src, none⟩) := by
  obtain ⟨q, b'⟩ := t
  obtain ⟨b₁, entry, ch, stream, r, hfed, ho, hadd, rfl⟩ := hs
  obtain ⟨hmem, hqueued⟩ := (b₁.withRegistry r).spawnOn_queued (.pump h entry stream none)
  -- the pump of the reader is the one that was started
  obtain ⟨-, x, hx⟩ := hp
  obtain ⟨hx, hne⟩ := List.mem_filter.1 hx
  have hpump : pump = b₁.nextTask := congrArg Prod.fst (hok.pump_unique hx hmem rfl rfl)
  have hstatus := (addReader_status hadd ho).2 h
  rw [if_pos rfl] at hstatus
  refine ⟨?_, nofun, fun q hq hidle => absurd ?_ hidle⟩
  · show (r.reader h).channel.isFed = true
    rw [hstatus]
    exact hfed
  · obtain rfl := Option.some.inj hq
    have hpumpne : pump ≠ id := by simpa using hne
    refine (List.mem_erase_of_ne hpumpne).2 ?_
    rw [hpump]
    exact hqueued

/-- The event in which a reader is new gives out its handle. -/
theorem registeredIn_of_new (hb : b.Reachable) {e : Event}
    (hnew : ¬ b.registry.readers.Issued h) (hi : (b.step e).registry.readers.Issued h) :
    b.registeredIn e = some (.executed h) := by
  have hlife := step_life hb.ok hb.spent e h
  rw [(Registry.life_eq_never hb.ok.registry).2 hnew, lifeAfter] at hlife
  split at hlife
  · assumption
  · exact absurd hi ((Registry.life_eq_never (hb.step e).ok.registry).1 hlife)

/-- **A new reader is supplied**: its pump is in the queue. -/
theorem registered_supplied (hb : b.Reachable) (e : Event) (hnew : ¬ b.registry.readers.Issued h)
    (hi : (b.step e).registry.readers.Issued h) :
    ∃ pump src, (b.step e).Carries none h src.feed? (some ⟨pump, src, none⟩) [] []
      ((b.step e).service.upcoming src) ∧ (b.step e).Supplied h (some ⟨pump, src, none⟩) := by
  obtain ⟨pump, src, hc⟩ := registered hb.ok e hnew hi
  refine ⟨pump, src, hc, ?_⟩
  have hregistered := registeredIn_of_new hb hnew hi
  cases e with
  | turn id =>
    obtain ⟨q, hturn, hreg⟩ := Option.bind_eq_some_iff.1 hregistered
    obtain ⟨stage, hs, rfl⟩ := Option.map_eq_some_iff.1 hturn
    obtain ⟨task, ht, hst⟩ := Option.bind_eq_some_iff.1 hs
    obtain ⟨hbegun, ns, hm, -, -⟩ := call_turned hb.ok ht hst
    obtain ⟨hends, hstarts⟩ := turn_starts hreg
    have hpoll : b.step (.turn id) = ((b.takeTurn id).turn id stage).2.conclude id := by
      show (b.poll id).2 = _
      rw [poll_call ht hst, pollCall_of_ends _ hends]
    have hpump := hc.pump
    rw [hpoll] at hpump ⊢
    exact hstarts.supplied (hm.ok hbegun).1 hpump
  | _ => cases hregistered

/-! ## Every event -/

/-- A reader that is active after an event was so before, if it was there. -/
theorem active_of_step (hb : b.Reachable) (hi : b.registry.readers.Issued h) (e : Event)
    (ha : ((b.step e).registry.reader h).state = .active) :
    (b.registry.reader h).state = .active := by
  obtain ⟨x, hx⟩ := ((hb.step e).ok.registry.active h).1 ha
  have hlife := step_life hb.ok hb.spent e h
  rw [Registry.life_of_live hx] at hlife
  cases hl : b.registry.life h with
  | active => exact (hb.ok.registry.active h).2 (Registry.live_of_life hl)
  | never => exact absurd hi ((Registry.life_eq_never hb.ok.registry).1 hl)
  | exhausted =>
    rw [hl, lifeAfter] at hlife
    split at hlife <;> cases hlife
  | gone =>
    rw [hl] at hlife
    cases hlife

/-- **A turn of the pump of a live reader** brings its frames on. -/
theorem poll_brings_on {e : Reader} {stream : Stream} {frame : Option Frame}
    (hb : BridgeOK b none none) (hc : b.Carries none h feed p Z T F)
    (ht : b.task? id = some (.pump h e stream frame))
    (ha : (b.registry.reader h).state = .active) :
    ∃ p' Z', (b.poll id).2.Carries none h feed p' Z' T F ∧
      b.Pumps h ⟨id, stream, frame⟩ (b.poll id).2 p' := by
  obtain ⟨-, p', Z', -, hc', -⟩ := poll_brings hb hc ht
  obtain ⟨p'', hat, hpumps⟩ := poll_pumps hb ht ha
  obtain rfl := hc'.pump.unique hat (step_steps hb (.turn id)).ok
  exact ⟨p', Z', hc', hpumps⟩

/-- **Every event** keeps a live reader supplied. -/
theorem step_supplied (hb : b.Reachable) (hc : b.Carries none h feed p Z T F)
    (hs : (b.registry.reader h).state = .active → b.Supplied h p) (e : Event) :
    ∃ p' Z' T', (b.step e).Carries none h feed p' Z' (T ++ T') (F ++ b.fedIn feed e) ∧
      bytesOf T' = b.handedIn h e ∧
      (((b.step e).registry.reader h).state = .active → (b.step e).Supplied h p') ∧
      ∀ pump, PumpedBy pump p → PumpedBy pump p' := by
  by_cases hp : b.PumpsIn h e
  · obtain ⟨id, entry, stream, frame, rfl, ht⟩ := hp
    obtain ⟨hnone, p', Z', _, hc', hbrings, -⟩ := poll_brings hb.ok hc ht
    have hhanded : b.handedIn h (.turn id) = [] := by
      simp only [handedIn, hnone]
      rfl
    by_cases ha : (b.registry.reader h).state = .active
    · obtain ⟨p', Z', hc', hpumps⟩ := poll_brings_on hb.ok hc ht ha
      obtain rfl := hc.pump.eq_of_task? hb.ok ht
      refine ⟨p', Z', [], ?_, hhanded.symm, fun _ => (hs ha).pumps hpumps, fun pump hpump =>
        hpumps.pumpedBy (hpump _ rfl)⟩
      show (b.poll id).2.Carries none h feed p' Z' (T ++ []) (F ++ [])
      rwa [List.append_nil, List.append_nil]
    · refine ⟨p', Z', [], ?_, hhanded.symm, fun ha' => ?_, fun pump hpump =>
        hbrings.pumpedBy hpump⟩
      · show (b.poll id).2.Carries none h feed p' Z' (T ++ []) (F ++ [])
        rwa [List.append_nil, List.append_nil]
      · exact absurd (active_of_step hb hc.issued _ ha') ha
  · obtain ⟨T', hc', hbytes⟩ := step_takes hb.ok hc hp
    refine ⟨p, Z, T', hc', hbytes, fun ha => ?_, fun _ hpump => hpump⟩
    exact step_supplied_of_other hb.ok hc (hs (active_of_step hb hc.issued e ha)) hp ha

/-- **Every run** keeps a live reader supplied. -/
theorem after_supplied (es : List Event) (hb : b.Reachable) (hc : b.Carries none h feed p Z T F)
    (hs : (b.registry.reader h).state = .active → b.Supplied h p) :
    ∃ p' Z' T', (b.after es).Carries none h feed p' Z' (T ++ T') (F ++ b.fed feed es) ∧
      bytesOf T' = b.handedOut h es ∧
      (((b.after es).registry.reader h).state = .active → (b.after es).Supplied h p') ∧
      ∀ pump, PumpedBy pump p → PumpedBy pump p' := by
  induction es generalizing b p Z T F with
  | nil => exact ⟨p, Z, [], by rwa [fed, List.append_nil, List.append_nil], rfl, hs, fun _ hp => hp⟩
  | cons e es ih =>
    obtain ⟨p₁, Z₁, T₁, hc₁, hbytes₁, hs₁, hp₁⟩ := step_supplied hb hc hs e
    obtain ⟨p₂, Z₂, T₂, hc₂, hbytes₂, hs₂, hp₂⟩ := ih (.step e hb) hc₁ hs₁
    refine ⟨p₂, Z₂, T₁ ++ T₂, ?_, ?_, hs₂, fun pump hp => hp₂ pump (hp₁ pump hp)⟩
    · rw [fed, ← List.append_assoc, ← List.append_assoc]
      exact hc₂
    · rw [bytesOf_append, hbytes₁, hbytes₂]
      rfl

end Bridge

end QueryBridge
