import QueryBridge.Proofs.Bridge.Deeds
import QueryBridge.Proofs.Bridge.Lone
import QueryBridge.Proofs.Bridge.Serving
import QueryBridge.Proofs.Bridge.Tracking
import QueryBridge.Proofs.Delivery

/-!
# What others leave of a pump's work

A pump waits for a frame of its feed, or for room in the channel of its reader.
Nobody else touches that feed; nobody but a reading touches that reader, unless it
is closed. So whatever happens, the pump goes on waiting for the same thing, or is
woken.

* `Registry.KeepsReader`: a reader stays as it is, or is closed.
* `turn_feeds`, `pump_feeds`, `farewell_feeds`: the feed that a turn has nothing to do with.
* `Bridge.Leaves`: what an event leaves of the work of a task that it is not about.
* `step_keepsReader`, `step_leaves`: every event.
-/

namespace QueryBridge

variable {b b' b'' : Bridge} {r r' r'' : Registry} {h x : ReaderHandle} {id who : TaskId}
  {n : Nat} {stage : Stage} {stream : Stream} {feed : Option Nat} {p : Option Pumping}
  {Z T F : List Frame}

/-! ## The reader of a reading -/

theorem Stage.reader?_eq (stage : Stage) : stage.reader? = stage.reading?.map Prod.fst := by
  cases stage with
  | fresh c => cases c <;> rfl
  | _ => rfl

theorem Stage.reading?_of_reader? (hr : stage.reader? = some h) :
    ∃ reading, stage.reading? = some (h, reading) := by
  rw [reader?_eq, Option.map_eq_some_iff] at hr
  obtain ⟨⟨x, reading⟩, hreading, rfl⟩ := hr
  exact ⟨reading, hreading⟩

theorem Stage.ne_of_reading? {q : ReaderHandle × Reading} (hreading : stage.reading? = some q)
    (hr : stage.reader? ≠ some h) : h ≠ q.1 := by
  rintro rfl
  apply hr
  rw [reader?_eq, hreading]
  rfl

/-! ## Readers that are kept -/

/-- A reader is as it was, or was closed. -/
def Registry.KeepsReader (h : ReaderHandle) (r r' : Registry) : Prop :=
  r'.reader h = r.reader h ∨ (r'.reader h).state = .closed

namespace Registry.KeepsReader

theorem refl (h : ReaderHandle) (r : Registry) : r.KeepsReader h r := .inl rfl

theorem of_eq (hr : r' = r) : r.KeepsReader h r' := hr ▸ refl h r

/-- The reader is active only if it is as it was. -/
theorem eq_of_active (hk : r.KeepsReader h r') (ha : (r'.reader h).state = .active) :
    r'.reader h = r.reader h := by
  rcases hk with hk | hk
  · exact hk
  · rw [hk] at ha
    cases ha

theorem close (hr : RegistryOK r) (t : Target) : r.KeepsReader h (r.close t) := by
  rcases r.close_cases t with heq | hclose
  · exact of_eq heq
  · rcases hclose.status hr h with hst | ⟨-, hst⟩
    · exact .inl hst
    · exact .inr (congrArg ReaderStatus.state hst)

theorem closeAll (hr : RegistryOK r) (ts : List Target) : r.KeepsReader h (r.closeAll ts) := by
  induction ts generalizing r with
  | nil => exact refl h r
  | cons t ts ih =>
    have hfirst : r.KeepsReader h (r.close t) := close hr t
    have hrest : (r.close t).KeepsReader h ((r.close t).closeAll ts) :=
      ih (r.closeAll_sound [t] hr).1
    rcases hrest with hrest | hrest
    · rcases hfirst with hfirst | hfirst
      · exact .inl (hrest.trans hfirst)
      · exact .inr (by rw [closeAll_cons, hrest, hfirst])
    · exact .inr hrest

/-- What is registered is another reader. -/
theorem adds {new : Option Registration} (ha : r.Adds new r') (hi : r.readers.Issued h) :
    r'.reader h = r.reader h := by
  cases ha with
  | nothing => rfl
  | opened ho => exact addConnection_reader ho h
  | created ho => exact addSession_reader ho h
  | @executed e ch h' r' ho =>
    obtain ⟨t, hal, rfl⟩ := addReader_eq_ok ho
    have hne : h ≠ h' := HandleTable.ne_of_issued hal hi
    unfold Registry.reader
    show ((r.readerStatus.insert h' _).get? h).getD default = _
    rw [HandleMap.get?_insert, if_neg hne]

end Registry.KeepsReader

namespace Bridge

/-- A turn of a creation closes readers at most. -/
theorem creates_keepsReader (hr : RegistryOK b.registry) (hi : b.registry.readers.Issued h)
    (id : TaskId) (hs : stage.creates = true) :
    b.registry.KeepsReader h (b.turn id stage).2.registry := by
  have hturn := b.turn_creates id hs
  have hlater := (b.registry.closeAll_sound (b.errand stage).closed hr).2
  have hdone : b.registry.KeepsReader h (b.does (b.errand stage)).registry := by
    rw [does_registry]
    exact .closeAll hr _
  -- what is registered then is another reader
  have hadd : ∀ {new : Option Registration} {r₁ : Registry},
      (b.does (b.errand stage)).registry.Adds new r₁ → b.registry.KeepsReader h r₁ := by
    intro new r₁ ha
    rw [does_registry] at ha
    have hsame := Registry.KeepsReader.adds ha (hlater.readIssued hi)
    rw [← does_registry] at hsame
    unfold Registry.KeepsReader
    rw [hsame]
    exact hdone
  generalize b.turn id stage = t at hturn ⊢
  cases hturn with
  | waits _ _ hl =>
    rw [hl.registry]
    exact hdone
  | fails _ hl =>
    rw [hl.registry, disown_registry]
    exact hdone
  | breaks _ hl =>
    rw [hl.registry]
    exact hdone
  | opens _ _ ha hl =>
    rw [hl.registry]
    exact hadd (.opened ha)
  | creates _ _ ha hl =>
    rw [hl.registry]
    exact hadd (.created ha)
  | executes _ _ ha hl =>
    rw [hl.registry, spawnOn_registry]
    exact hadd (.executed ha)

/-- **A turn of a call that does not read the reader** closes it at most. -/
theorem turn_keepsReader {me : Option TaskId} {inHand : Option Stream} (hb : BridgeOK b me inHand)
    (hi : b.registry.readers.Issued h) (id : TaskId) (hr : stage.reader? ≠ some h) :
    b.registry.KeepsReader h (b.turn id stage).2.registry := by
  cases hc : stage.creates with
  | true => exact creates_keepsReader hb.registry hi id hc
  | false =>
    cases hreading : stage.reading? with
    | none =>
      rw [(b.other_level id hc hreading).registry, closeAll_registry]
      exact .closeAll hb.registry _
    | some q =>
      have hx : h ≠ q.1 := Stage.ne_of_reading? hreading hr
      exact .inl ((turn_serves hb hreading id).registry.reader h hx)

/-- **A call that does not read the reader** and is given up. -/
theorem release_keepsReader (hr : stage.reader? ≠ some h) (b : Bridge) (id : TaskId) :
    b.registry.KeepsReader h (b.release id stage).registry := by
  cases hreading : stage.reading? with
  | some q =>
    have hx : h ≠ q.1 := Stage.ne_of_reading? hreading hr
    exact .inl ((release_serves hreading b id).registry.reader h hx)
  | none =>
    cases stage with
    | fresh c => cases c <;> first | exact .refl h _ | cases hreading
    | awaitingTurn x e reading => cases hreading
    | awaitingFrame x e reading => cases hreading
    | _ => exact .refl h _

theorem pump_keepsReader (hx : h ≠ x) (b : Bridge) (id : TaskId) (e : Reader) (stream : Stream)
    (inHand : Option Frame) :
    b.registry.KeepsReader h (b.pump id x e stream inHand).2.registry := by
  have hend : ∀ b₁ : Bridge, (b₁.endPump x stream).2.registry.reader h = b₁.registry.reader h := by
    intro b₁
    unfold endPump
    dsimp only
    rw [wakeAll_registry]
    exact Registry.reader_modify_of_ne _ _ hx
  left
  unfold pump
  split
  · exact hend b
  · cases inHand with
    | none =>
      dsimp only
      split <;> rfl
    | some f =>
      dsimp only
      split
      · exact hend b
      · split
        · exact Registry.reader_modify_of_ne _ _ hx
        · split
          · rw [hend, wakeAll_registry]
            exact Registry.reader_modify_of_ne _ _ hx
          · rw [wakeAll_registry]
            exact Registry.reader_modify_of_ne _ _ hx

/-! ## Feeds -/

theorem follow_feeds (id : TaskId) (hooks : List Hook) (b : Bridge) :
    (b.follow id hooks).2.service.feeds = b.service.feeds := by
  induction hooks generalizing b with
  | nil => rfl
  | cons hook rest ih =>
    cases hook with
    | close target =>
      unfold follow
      rw [ih, close_service]
    | refuse message => rfl
    | hang gate =>
      unfold follow
      split
      · exact ih b
      · rfl

theorem passHooks_feeds (b : Bridge) (id : TaskId) (p : CallPoint) :
    (b.passHooks id p).2.service.feeds = b.service.feeds := by
  have hplan : (b.service.takeHooks p).2.feeds = b.service.feeds := by
    unfold Service.takeHooks
    split <;> rfl
  exact (follow_feeds id _ _).trans hplan

theorem resume_feeds (b : Bridge) (id : TaskId) (held : Held) :
    (b.resume id held).2.service.feeds = b.service.feeds := by
  unfold resume
  split
  · exact follow_feeds id _ b
  · rfl

theorem opening_feeds (url : Url) (client : ClientId) (p : Course × Bridge) :
    (opening url client p).2.service.feeds = p.2.service.feeds := by
  obtain ⟨course, b⟩ := p
  cases course with
  | held held => rfl
  | refused message => rfl
  | returned =>
    show (b.register url client).2.service.feeds = _
    unfold register
    split
    · rfl
    · exact congrArg Service.feeds (spawn_service b _)

theorem openRemote_feeds (b : Bridge) (id : TaskId) (url : Url) (client : ClientId) :
    (b.openRemote id url client).2.service.feeds = b.service.feeds := by
  unfold openRemote
  split <;> rename_i b₁ hc
  · obtain rfl : _ = b₁ := congrArg Prod.snd hc
    rfl
  · obtain rfl : _ = b₁ := congrArg Prod.snd hc
    rw [opening_feeds, passHooks_feeds]
    rfl

theorem connecting_feeds (id : TaskId) (url : Url) (client : ClientId) (p : Course × Bridge) :
    (connecting id url client p).2.service.feeds = p.2.service.feeds := by
  obtain ⟨course, b⟩ := p
  cases course with
  | held held => rfl
  | refused message => rfl
  | returned => exact b.openRemote_feeds id url client

theorem openConnection_feeds (b : Bridge) (id : TaskId) (text : String)
    (credentials : Option Credentials) :
    (b.openConnection id text credentials).2.service.feeds = b.service.feeds := by
  unfold openConnection
  split
  · rfl
  · split <;> rename_i b₁ hc
    · obtain rfl : _ = b₁ := congrArg Prod.snd hc
      rfl
    · obtain rfl : _ = b₁ := congrArg Prod.snd hc
      dsimp only
      rw [connecting_feeds, passHooks_feeds]
      rfl

theorem creating_feeds (c : ConnectionHandle) (client : ClientId) (globalId : GlobalSessionId)
    (p : Course × Bridge) :
    (creating c client globalId p).2.service.feeds = p.2.service.feeds := by
  obtain ⟨course, b⟩ := p
  cases course with
  | held held => rfl
  | refused message => rfl
  | returned =>
    show (b.adopt c client globalId).2.service.feeds = _
    have hleft := congrArg Service.feeds
      (spawn_service b (.farewell client none [.session globalId]))
    unfold adopt
    split
    · split
      · rfl
      · exact hleft
    · exact hleft

theorem createSession_feeds (b : Bridge) (id : TaskId) (c : ConnectionHandle) :
    (b.createSession id c).2.service.feeds = b.service.feeds := by
  have hnamed : ∀ s : Service, s.nextSessionId.2.feeds = s.feeds := by
    intro s
    unfold Service.nextSessionId
    split <;> rfl
  unfold createSession
  split
  · rfl
  · split
    · rfl
    · split <;> rename_i b₁ hc
      · obtain rfl : _ = b₁ := congrArg Prod.snd hc
        rfl
      · obtain rfl : _ = b₁ := congrArg Prod.snd hc
        split
        · rfl
        · dsimp only
          rw [creating_feeds, passHooks_feeds]
          exact hnamed _

/-- Whoever drops another stream leaves the feed as it is. -/
theorem dropStream_feeds (hs : stream.feed? ≠ some n) (b : Bridge) :
    (b.dropStream stream).service.feeds[n]? = b.service.feeds[n]? := by
  cases stream with
  | fixed frames => rfl
  | live m =>
    have hne : m ≠ n := fun hm => hs (congrArg some hm)
    show (b.service.feeds.modify m _)[n]? = _
    rw [List.getElem?_modify_ne _ _ hne]

theorem attach_feeds (hs : stream.feed? ≠ some n) (b : Bridge) (s : SessionHandle)
    (e : Session) : (b.attach s e stream).2.service.feeds[n]? = b.service.feeds[n]? := by
  have hdropped := dropStream_feeds hs b
  unfold attach
  split
  · exact hdropped
  · dsimp only
    split
    · split
      · exact congrArg (·.feeds[n]?) (spawnOn_service _ _)
      · exact hdropped
    · exact hdropped

theorem executing_feeds (hs : stream.feed? ≠ some n) (s : SessionHandle) (e : Session)
    (p : Course × Bridge) :
    (executing s e stream p).2.service.feeds[n]? = p.2.service.feeds[n]? := by
  obtain ⟨course, b⟩ := p
  cases course with
  | held held => rfl
  | refused message => exact dropStream_feeds hs b
  | returned => exact attach_feeds hs b s e

/-- A feed that no query of the script has is not that of the stream of a query. -/
theorem takeStream_feed? {s : Service} (hq : ∀ q ∈ s.queries, q.2.feed? ≠ some n)
    (text : String) : (s.takeStream text).1.feed? ≠ some n := by
  obtain ⟨-, hperm | ⟨-, hnone⟩⟩ := s.takeStream_queries text
  · have hmem : (s.takeStream text).1 ∈ s.queries.map Prod.snd :=
      hperm.mem_iff.1 (List.mem_append_right _ (List.mem_singleton.2 rfl))
    obtain ⟨q, hq', heq⟩ := List.mem_map.1 hmem
    rw [← heq]
    exact hq q hq'
  · rw [hnone]
    nofun

theorem executeQuery_feeds (hq : ∀ q ∈ b.service.queries, q.2.feed? ≠ some n) (id : TaskId)
    (s : SessionHandle) (text : String) :
    (b.executeQuery id s text).2.service.feeds[n]? = b.service.feeds[n]? := by
  unfold executeQuery
  split
  · rfl
  · split
    · rfl
    · split
      · rfl
      · split <;> rename_i b₁ hc
        · obtain rfl : _ = b₁ := congrArg Prod.snd hc
          rfl
        · obtain rfl : _ = b₁ := congrArg Prod.snd hc
          dsimp only
          set b₁ := (b.call (some _) (.executeQuery _ text)).2 with hb₁
          have hstream : (b₁.service.takeStream text).1.feed? ≠ some n :=
            takeStream_feed? (s := b₁.service) hq text
          have hfeeds : (b₁.service.takeStream text).2.feeds = b.service.feeds :=
            (b₁.service.takeStream_queries text).1
          rw [executing_feeds hstream, passHooks_feeds]
          exact congrArg (·[n]?) hfeeds

theorem settle_service (b : Bridge) (id : TaskId) : (b.settle id).2.service = b.service := by
  unfold settle
  dsimp only
  split <;> exact wakeAll_service _ _

theorem shutdown_service (b : Bridge) (id : TaskId) :
    (b.shutdown id).2.service = b.service := by
  unfold shutdown
  rw [settle_service, closeConnections_eq, closeAll_service]

theorem closed_bridge (q : Except Failure Unit × Bridge) : (closed q).2 = q.2 := by
  obtain ⟨_ | _, b⟩ := q <;> rfl

/-- **A call that begins** leaves a feed alone that no query of the script has. -/
theorem begin_feeds {c : Call} (hreading : (Stage.fresh c).reading? = none)
    (hq : ∀ q ∈ b.service.queries, q.2.feed? ≠ some n) (id : TaskId) :
    (b.turn id (.fresh c)).2.service.feeds[n]? = b.service.feeds[n]? := by
  cases c with
  | openConnection url credentials =>
    exact congrArg (·[n]?) (b.openConnection_feeds id url credentials)
  | createSession c => exact congrArg (·[n]?) (b.createSession_feeds id c)
  | executeQuery s text => exact executeQuery_feeds hq id s text
  | read h reading => cases hreading
  | closeConnection c =>
    show (closed (b.closeConnection c)).2.service.feeds[n]? = _
    rw [closed_bridge, closeConnection_service]
  | closeSession s =>
    show (closed (b.closeSession s)).2.service.feeds[n]? = _
    rw [closed_bridge, closeSession_service]
  | closeReader h => exact congrArg (·.feeds[n]?) (b.closeReader_service h)
  | settle => exact congrArg (·.feeds[n]?) (b.settle_service id)
  | shutdown => exact congrArg (·.feeds[n]?) (b.shutdown_service id)

/-- **A turn of a call** leaves a feed alone that neither its stream nor a query of the script
has. -/
theorem turn_feeds {me : Option TaskId} {inHand : Option Stream} (hb : BridgeOK b me inHand)
    (hs : ∀ stream, (Task.call none stage).stream? = some stream → stream.feed? ≠ some n)
    (hq : ∀ q ∈ b.service.queries, q.2.feed? ≠ some n) (id : TaskId) :
    (b.turn id stage).2.service.feeds[n]? = b.service.feeds[n]? := by
  cases hreading : stage.reading? with
  | some q => exact congrArg (·.feeds[n]?) (turn_serves hb hreading id).service
  | none =>
    cases stage with
    | fresh c => exact begin_feeds hreading hq id
    | connecting url client held =>
      refine congrArg (·[n]?) ((connecting_feeds id url client _).trans ?_)
      exact b.resume_feeds id held
    | opening url client held =>
      exact congrArg (·[n]?) ((opening_feeds url client _).trans (b.resume_feeds id held))
    | unanswered c =>
      unfold turn
      dsimp only
      split <;> rfl
    | creating c client globalId held =>
      unfold turn
      dsimp only
      split
      · rfl
      · rw [creating_feeds, resume_feeds]
    | executing s e stream held =>
      have hstream : stream.feed? ≠ some n := hs stream rfl
      unfold turn
      dsimp only
      split
      · exact dropStream_feeds hstream b
      · rw [executing_feeds hstream, resume_feeds]
    | awaitingTurn h e reading => cases hreading
    | awaitingFrame h e reading => cases hreading
    | draining =>
      show (b.drain id).2.service.feeds[n]? = _
      unfold drain
      split <;> rfl

theorem endPump_feeds (hs : stream.feed? ≠ some n) (b : Bridge) (x : ReaderHandle) :
    (b.endPump x stream).2.service.feeds[n]? = b.service.feeds[n]? := by
  unfold endPump
  dsimp only
  rw [wakeAll_service]
  exact dropStream_feeds hs b

/-- Whoever takes a frame off another stream leaves the feed as it is. -/
theorem nextFrame?_feeds {s s' : Service} {stream' : Stream} {f : Frame}
    (hs : stream.feed? ≠ some n) (hnext : s.nextFrame? stream = some (f, stream', s')) :
    s'.feeds[n]? = s.feeds[n]? := by
  unfold Service.nextFrame? at hnext
  split at hnext
  · cases hnext
    rfl
  · cases hnext
    rfl
  · rename_i m
    have hne : m ≠ n := fun hm => hs (congrArg some hm)
    split at hnext
    · cases hnext
      rfl
    · split at hnext
      · cases hnext
        exact List.getElem?_modify_ne _ _ hne
      · split at hnext <;> cases hnext
        rfl

theorem awaitFrame_feeds (hs : stream.feed? ≠ some n) (s : Service) (id : TaskId) :
    (s.awaitFrame id stream).feeds[n]? = s.feeds[n]? := by
  cases stream with
  | fixed frames => rfl
  | live m => exact List.getElem?_modify_ne _ _ fun hm => hs (congrArg some hm)

/-- **A turn of another pump** leaves the feed alone. -/
theorem pump_feeds (hs : stream.feed? ≠ some n) (b : Bridge) (id : TaskId) (x : ReaderHandle)
    (e : Reader) (inHand : Option Frame) :
    (b.pump id x e stream inHand).2.service.feeds[n]? = b.service.feeds[n]? := by
  unfold pump
  split
  · exact endPump_feeds hs b x
  · cases inHand with
    | none =>
      dsimp only
      split
      · rename_i hnext
        exact nextFrame?_feeds hs hnext
      · exact awaitFrame_feeds hs b.service id
    | some f =>
      dsimp only
      split
      · exact endPump_feeds hs b x
      · split
        · rfl
        · split
          · rw [endPump_feeds hs, wakeAll_service]
            rfl
          · rw [wakeAll_service]
            rfl

theorem sayNext_feeds (b : Bridge) (id : TaskId) (client : ClientId) (left : List RemoteClose) :
    (b.sayNext id client left).2.service.feeds = b.service.feeds := by
  cases left with
  | nil => rfl
  | cons c left =>
    have hcalled : (b.call (some client) c.call).2.service.feeds = b.service.feeds := rfl
    unfold sayNext
    dsimp only
    generalize b.call (some client) c.call = q at hcalled ⊢
    obtain ⟨refusal, b₁⟩ := q
    cases refusal with
    | some message => exact hcalled
    | none =>
      have hpassed := (b₁.passHooks_feeds id c.call.point).trans hcalled
      dsimp only
      generalize b₁.passHooks id c.call.point = q at hpassed ⊢
      obtain ⟨course, b₂⟩ := q
      cases course <;> exact hpassed

/-- **A turn of a farewell** leaves all feeds alone. -/
theorem farewell_feeds (b : Bridge) (id : TaskId) (client : ClientId) (held : Option Held)
    (left : List RemoteClose) :
    (b.farewell id client held left).2.service.feeds = b.service.feeds := by
  cases held with
  | none => exact b.sayNext_feeds id client left
  | some held =>
    have hresumed := b.resume_feeds id held
    unfold farewell
    dsimp only
    generalize b.resume id held = q at hresumed ⊢
    obtain ⟨course, b₁⟩ := q
    cases course with
    | held held => exact hresumed
    | refused message => exact (b₁.sayNext_feeds id client left).trans hresumed
    | returned => exact (b₁.sayNext_feeds id client left).trans hresumed

theorem release_feeds
    (hs : ∀ stream, (Task.call none stage).stream? = some stream → stream.feed? ≠ some n)
    (b : Bridge) (id : TaskId) :
    (b.release id stage).service.feeds[n]? = b.service.feeds[n]? := by
  cases hreading : stage.reading? with
  | some q => exact congrArg (·.feeds[n]?) (release_serves hreading b id).service
  | none =>
    cases stage with
    | fresh c => cases c <;> first | rfl | cases hreading
    | executing s e stream held => exact dropStream_feeds (hs stream rfl) b
    | awaitingTurn h e reading => cases hreading
    | awaitingFrame h e reading => cases hreading
    | _ => rfl

/-! ## What is left of the work of a task -/

/-- Something has happened that a task had no part in. The task is there, and in the queue if it
was. The reader has lost data at most, as long as it is active. And if the task waited for room at
the reader or for a frame of the feed, it still does, or was woken. -/
structure Leaves (who : TaskId) (h : ReaderHandle) (feed : Option Nat) (b b' : Bridge) : Prop where
  task : (b.task? who).isSome → (b'.task? who).isSome
  ready : who ∈ b.ready → who ∈ b'.ready
  left : (b'.registry.reader h).state = .active →
    (b.registry.reader h).Left (b'.registry.reader h)
  room : (b'.registry.reader h).state = .active → (b.task? who).isSome →
    (b.registry.reader h).channel.roomWaiter = some who →
    (b'.registry.reader h).channel.buffer = (b.registry.reader h).channel.buffer ∧
        (b'.registry.reader h).channel.roomWaiter = some who ∨
      who ∈ b'.ready
  feed : ∀ n f, feed = some n → b.service.feeds[n]? = some f →
    ∃ f', b'.service.feeds[n]? = some f' ∧ (f.isOpen = false → f'.isOpen = false) ∧
      (f' = f ∨ ((b.task? who).isSome → f.waiter = some who → who ∈ b'.ready))

namespace Leaves

theorem trans (h₁ : b.Leaves who h feed b') (h₂ : b'.Leaves who h feed b'') :
    b.Leaves who h feed b'' := by
  refine ⟨h₂.task ∘ h₁.task, h₂.ready ∘ h₁.ready, fun ha => ?_, fun ha ht hw => ?_,
    fun n f hn hf => ?_⟩
  · have hleft := h₂.left ha
    exact (h₁.left hleft.active).trans hleft
  · rcases h₁.room (h₂.left ha).active ht hw with ⟨hbuf, hw'⟩ | hready
    · rcases h₂.room ha (h₁.task ht) hw' with ⟨hbuf', hw''⟩ | hready
      · exact .inl ⟨hbuf'.trans hbuf, hw''⟩
      · exact .inr hready
    · exact .inr (h₂.ready hready)
  · obtain ⟨f₁, hf₁, ho₁, hw₁⟩ := h₁.feed n f hn hf
    obtain ⟨f₂, hf₂, ho₂, hw₂⟩ := h₂.feed n f₁ hn hf₁
    refine ⟨f₂, hf₂, ho₂ ∘ ho₁, ?_⟩
    rcases hw₁ with rfl | hw₁
    · exact hw₂.imp_right fun hwoken ht => hwoken (h₁.task ht)
    · exact .inr fun ht hw => h₂.ready (hw₁ ht hw)

/-- The reader is kept, and so is the feed. -/
theorem of_kept (ht : (b.task? who).isSome → (b'.task? who).isSome)
    (hready : who ∈ b.ready → who ∈ b'.ready) (hk : b.registry.KeepsReader h b'.registry)
    (hf : ∀ n, feed = some n → b'.service.feeds[n]? = b.service.feeds[n]?) :
    b.Leaves who h feed b' := by
  refine ⟨ht, hready, fun ha => ?_, fun ha _ hw => .inl ?_, fun n f hn hget => ?_⟩
  · have heq := hk.eq_of_active ha
    rw [heq] at ha ⊢
    exact .refl ha
  · have heq := hk.eq_of_active ha
    rw [heq]
    exact ⟨rfl, hw⟩
  · exact ⟨f, (hf n hn).trans hget, id, .inl rfl⟩

theorem of_spawns (hs : b.Spawns b') (hk : b.registry.KeepsReader h b'.registry)
    (hf : ∀ n, feed = some n → b'.service.feeds[n]? = b.service.feeds[n]?) :
    b.Leaves who h feed b' := by
  refine of_kept (fun ht => ?_) (fun hi => hs.ready hi) hk hf
  obtain ⟨t, ht⟩ := Option.isSome_iff_exists.1 ht
  rw [hs.keeps ht]
  rfl

theorem refl (who : TaskId) (h : ReaderHandle) (feed : Option Nat) (b : Bridge) :
    b.Leaves who h feed b := of_spawns (.refl b) (.refl h _) fun _ _ => rfl

theorem of_serves (hs : b.Serves h b') : b.Leaves who h feed b' where
  task ht := by rwa [hs.toCalm.task?]
  ready hi := hs.ready hi
  left := hs.left
  room ha ht hw := hs.room ha who ht hw
  feed n f hn hf := ⟨f, by rwa [hs.service], id, .inl rfl⟩

theorem wakeAll (b : Bridge) (ids : List TaskId) : b.Leaves who h feed (b.wakeAll ids) := by
  refine of_spawns (wakeAll_spawns ids b) ?_ fun _ _ => ?_
  · rw [wakeAll_registry]
    exact .refl h _
  · rw [wakeAll_service]

/-- Another task has its turn. -/
theorem takeTurn (b : Bridge) (hne : who ≠ id) : b.Leaves who h feed (b.takeTurn id) :=
  of_kept (fun ht => ht) (fun hi => (List.mem_erase_of_ne hne).2 hi) (.refl h _) fun _ _ => rfl

/-- Another task is over. -/
theorem conclude (b : Bridge) (hne : who ≠ id) : b.Leaves who h feed (b.conclude id) := by
  refine of_kept (fun ht => ?_) (fun hi => (List.mem_erase_of_ne hne).2 hi) (.refl h _)
    fun _ _ => rfl
  rwa [task?_conclude_of_ne hne]

/-- Another task comes to another place. -/
theorem setTask (b : Bridge) (hne : who ≠ id) (t : Task) :
    b.Leaves who h feed (b.setTask id t) := by
  refine of_kept (fun ht => ?_) (fun hi => hi) (.refl h _) fun _ _ => rfl
  rwa [task?_setTask_of_ne hne]

theorem tracker (b : Bridge) (t : Tracker) : b.Leaves who h feed { b with tracker := t } :=
  of_kept (fun ht => ht) (fun hi => hi) (.refl h _) fun _ _ => rfl

theorem goOn (b : Bridge) (id : TaskId) : b.Leaves who h feed (b.goOn id) :=
  of_spawns (b.goOn_spawns id) (.refl h _) fun _ _ => rfl

end Leaves

/-- Neither the script nor another task has the feed. -/
def FeedOf (b : Bridge) (who : TaskId) (feed : Option Nat) : Prop := ∀ n, feed = some n →
  (∀ q ∈ b.service.queries, q.2.feed? ≠ some n) ∧
    ∀ id t, b.task? id = some t → id ≠ who → ∀ stream, t.stream? = some stream →
      stream.feed? ≠ some n

theorem feedOf_none (b : Bridge) (who : TaskId) : b.FeedOf who none := nofun

/-- **A pump has its feed to itself.** -/
theorem Carries.feedOf {q : Pumping} (hb : BridgeOK b none none)
    (hc : b.Carries none h feed (some q) Z T F) : b.FeedOf q.id feed := by
  intro n hn
  obtain ⟨hfeed, -⟩ := hc.flow.pumping q rfl
  rw [← hfeed] at hn
  refine ⟨fun s hs hsn => ?_, fun id t ht hid stream hstream => ?_⟩
  · obtain ⟨-, e, he⟩ := hc.pump
    have hnd := hb.feeds
    simp only [Bridge.openFeeds, List.filterMap_append, List.nodup_append] at hnd
    refine hnd.1.2.2 n ?_ n ?_ rfl
    · exact List.mem_filterMap.2 ⟨s.2, List.mem_map_of_mem hs, hsn⟩
    · refine List.mem_filterMap.2 ⟨q.stream, List.mem_filterMap.2
        ⟨(q.id, .pump h e q.stream q.inHand), ?_, rfl⟩, hn⟩
      exact List.mem_filter.2 ⟨he, by simp⟩
  · have hturn := hb.takeTurn ht
    rw [hstream] at hturn
    have hne : ∀ q', some q = some q' → q'.id ≠ id := by
      rintro q' hq'
      obtain rfl := Option.some.inj hq'
      exact hid.symm
    exact (hc.pump.takeTurn hne).feed_ne hturn n hn

/-! ## Turns -/

theorem settle_leaves (b : Bridge) (id : TaskId) : b.Leaves who h feed (b.settle id).2 := by
  have hshut : b.Leaves who h feed
      ({ b with tracker := b.tracker.shut.2 }.wakeAll b.tracker.shut.1) :=
    (Leaves.tracker b _).trans (.wakeAll _ _)
  unfold settle
  dsimp only
  split
  · exact hshut.trans (.tracker _ _)
  · exact hshut.trans (.tracker _ _)

/-- **A turn of a call.** -/
theorem turn_leaves {me : Option TaskId} {inHand : Option Stream} (hb : BridgeOK b me inHand)
    (hi : b.registry.readers.Issued h)
    (hf : ∀ n, feed = some n → (∀ q ∈ b.service.queries, q.2.feed? ≠ some n) ∧
      ∀ stream, (Task.call none stage).stream? = some stream → stream.feed? ≠ some n)
    (id : TaskId) : b.Leaves who h feed (b.turn id stage).2 := by
  by_cases hr : stage.reader? = some h
  · obtain ⟨reading, hreading⟩ := Stage.reading?_of_reader? hr
    exact .of_serves (turn_serves hb hreading id)
  · have hfeeds : ∀ n, feed = some n →
        (b.turn id stage).2.service.feeds[n]? = b.service.feeds[n]? := fun n hn =>
      turn_feeds hb (hf n hn).2 (hf n hn).1 id
    cases hd : stage.drains with
    | false => exact .of_spawns (b.turn_spawns id hd) (turn_keepsReader hb hi id hr) hfeeds
    | true =>
      cases stage with
      | fresh c =>
        cases c with
        | settle => exact b.settle_leaves id
        | shutdown =>
          refine Leaves.trans (.of_spawns (closeConnections_spawns _ b) ?_ fun n _ => ?_)
            (settle_leaves _ id)
          · rw [closeConnections_eq, closeAll_registry]
            exact .closeAll hb.registry _
          · rw [closeConnections_eq, closeAll_service]
        | _ => cases hd
      | draining =>
        show b.Leaves who h feed (b.drain id).2
        unfold drain
        split
        · exact .tracker b _
        · exact .refl who h feed b
      | _ => cases hd

/-- A call comes to another place after its turn, or is over. -/
theorem pollCall_leaves {request : Option UInt64} (hne : who ≠ id)
    (ht : b.Leaves who h feed (b.turn id stage).2) :
    b.Leaves who h feed (b.pollCall id request stage).2 := by
  unfold pollCall
  generalize b.turn id stage = t at ht ⊢
  obtain ⟨q, b₁⟩ := t
  cases q with
  | ends o => exact ht.trans (.conclude b₁ hne)
  | waits s =>
    have hset := ht.trans (.setTask b₁ hne (.call request s))
    dsimp only
    split
    · exact hset.trans (.wakeAll _ [id])
    · exact hset
  | goesOn s => exact (ht.trans (.setTask b₁ hne _)).trans (.goOn _ id)

/-- Work in the background comes to another place after its turn, or is over. -/
theorem afterBackground_leaves {q : Progress Task Unit × Bridge} (hne : who ≠ id)
    (ht : b.Leaves who h feed q.2) : b.Leaves who h feed (afterBackground id q) := by
  obtain ⟨q, b₁⟩ := q
  cases q with
  | ends u =>
    exact ht.trans ((Leaves.conclude b₁ hne).trans ((Leaves.tracker _ _).trans (.wakeAll _ _)))
  | waits t => exact ht.trans (.setTask b₁ hne t)
  | goesOn t => exact (ht.trans (.setTask b₁ hne t)).trans (.goOn _ id)

/-- **A turn of another task.** -/
theorem poll_leaves (hb : BridgeOK b none none) (hi : b.registry.readers.Issued h)
    (hne : who ≠ id) (hf : b.FeedOf who feed) (hp : ¬ b.PumpsIn h (.turn id)) :
    b.Leaves who h feed (b.poll id).2 := by
  have hturn : b.Leaves who h feed (b.takeTurn id) := .takeTurn b hne
  have hother : ∀ t, b.task? id = some t → ∀ n, feed = some n → ∀ stream,
      t.stream? = some stream → stream.feed? ≠ some n := fun t ht n hn =>
    (hf n hn).2 id t ht hne.symm
  cases hs : (b.task? id).bind Task.stage? with
  | some stage =>
    obtain ⟨t, ht, hst⟩ := Option.bind_eq_some_iff.1 hs
    rw [poll_call ht hst]
    refine hturn.trans (pollCall_leaves hne (turn_leaves (call_ok hb ht hst).1 hi (fun n hn => ?_)
      id))
    refine ⟨(hf n hn).1, fun stream hstream => ?_⟩
    cases t with
    | payload text =>
      simp only [Task.stage?, Option.map_eq_some_iff] at hst
      obtain ⟨e, -, rfl⟩ := hst
      cases hstream
    | call envelope stage' =>
      obtain rfl := Option.some.inj hst
      exact hother _ ht n hn stream ((Task.stream?_call envelope stage').trans hstream)
    | _ => cases hst
  | none =>
    rcases poll_of_no_call hs with hpoll | ⟨text, ht, hpoll⟩ | ⟨x, e, stream, frame, ht, hpoll⟩ |
      ⟨client, held, left, ht, hpoll⟩ <;> rw [hpoll]
    · exact .refl who h feed b
    · exact hturn.trans (.conclude _ hne)
    · have hx : h ≠ x := by
        rintro rfl
        exact hp ⟨id, e, stream, frame, rfl, ht⟩
      refine hturn.trans (afterBackground_leaves hne (.of_spawns (pump_spawns _ id x e stream
        frame) (pump_keepsReader hx _ id e stream frame) fun n hn => ?_))
      exact pump_feeds (hother _ ht n hn stream rfl) _ id x e frame
    · refine hturn.trans (afterBackground_leaves hne (.of_spawns (farewell_spawns _ id client held
        left) ?_ fun n _ => ?_))
      · rw [(farewell_level _ id client held left).registry, does_registry]
        exact .closeAll hb.registry _
      · rw [farewell_feeds]

/-! ## Other events -/

/-- **A caller gives up another task.** -/
theorem abandon_leaves (hne : who ≠ id) (hf : b.FeedOf who feed) :
    b.Leaves who h feed (b.abandon id) := by
  unfold abandon
  split
  · exact .conclude b hne
  · rename_i envelope stage ht
    refine (Leaves.conclude b hne).trans ?_
    by_cases hr : stage.reader? = some h
    · obtain ⟨reading, hreading⟩ := Stage.reading?_of_reader? hr
      exact .of_serves (release_serves hreading _ id)
    · by_cases hd : stage = .draining
      · subst hd
        exact .tracker (b.conclude id) _
      · have hkeeps := release_keepsReader hr (b.conclude id) id
        refine .of_spawns (release_spawns _ id hd) hkeeps fun n hn => ?_
        refine release_feeds (fun stream hstream => ?_) (b.conclude id) id
        rw [← Task.stream?_call envelope] at hstream
        exact (hf n hn).2 id _ ht hne.symm stream hstream
  · exact .refl who h feed b

/-- A feed changes: it gets no wider open, and whoever waited for it is woken. -/
theorem modifyFeed_leaves (m : Nat) {g : Feed → Feed} {ids : List TaskId}
    (ho : ∀ f : Feed, b.service.feeds[m]? = some f → f.isOpen = false → (g f).isOpen = false)
    (hw : ∀ f i, b.service.feeds[m]? = some f → f.waiter = some i → i ∈ ids) :
    b.Leaves who h feed ((b.withService (b.service.modifyFeed m g)).wakeAll ids) := by
  refine ⟨fun ht => ?_, fun hi => ?_, fun ha => ?_, fun _ _ hw => .inl ?_, fun n f hn hf => ?_⟩
  · have hcalm := wakeAll_calm ids (b.withService (b.service.modifyFeed m g))
    rwa [hcalm.task?]
  · exact (wakeAll_spawns ids (b.withService (b.service.modifyFeed m g))).ready hi
  · rw [wakeAll_registry] at ha ⊢
    exact .refl ha
  · rw [wakeAll_registry]
    exact ⟨rfl, hw⟩
  · rw [wakeAll_service]
    show ∃ f', (b.service.feeds.modify m g)[n]? = some f' ∧ _
    by_cases hmn : m = n
    · subst hmn
      refine ⟨g f, ?_, ho f hf, .inr fun ht hwait => ?_⟩
      · rw [List.getElem?_modify_eq, hf]
        rfl
      · exact mem_ready_wakeAll (hw f who hf hwait) ht
    · rw [List.getElem?_modify_ne _ _ hmn]
      exact ⟨f, hf, id, .inl rfl⟩

theorem feed_leaves (m : Nat) (frames : List Frame) (b : Bridge) :
    b.Leaves who h feed (b.feed m frames).2 := by
  induction frames generalizing b with
  | nil => exact .refl who h feed b
  | cons f fs ih =>
    have hfirst : b.Leaves who h feed
        ((b.withService (b.service.feed m f).2.2).wakeAll (b.service.feed m f).2.1.toList) := by
      unfold Service.feed
      split
      · exact .refl who h feed b
      · rename_i x hx
        split
        · rename_i hopen
          refine modifyFeed_leaves m (fun y hy hy' => hy') fun y i hy hi => ?_
          obtain rfl : x = y := Option.some.inj (hx.symm.trans hy)
          exact Option.mem_toList.2 hi
        · exact .refl who h feed b
    exact hfirst.trans (ih _)

/-- **What the service does on its side.** -/
theorem far_leaves (b : Bridge) (act : FarAct) : b.Leaves who h feed (b.far act) := by
  cases act with
  | refuse point message => exact .of_kept (fun ht => ht) (fun hi => hi) (.refl h _) fun _ _ => rfl
  | plan point hooks => exact .of_kept (fun ht => ht) (fun hi => hi) (.refl h _) fun _ _ => rfl
  | script text script =>
    cases script with
    | frames frames => exact .of_kept (fun ht => ht) (fun hi => hi) (.refl h _) fun _ _ => rfl
    | live =>
      refine ⟨fun ht => ht, fun hi => hi, fun ha => .refl ha, fun _ _ hw => .inl ⟨rfl, hw⟩,
        fun n f _ hf => ⟨f, ?_, id, .inl rfl⟩⟩
      obtain ⟨hlt, -⟩ := List.getElem?_eq_some_iff.1 hf
      show (b.service.feeds ++ [_])[n]? = _
      rw [List.getElem?_append_left hlt]
      exact hf
  | release gate =>
    have hopen : b.Leaves who h feed (b.withService (b.service.release gate).2) :=
      .of_kept (fun ht => ht) (fun hi => hi) (.refl h _) fun _ _ => rfl
    exact hopen.trans (.wakeAll _ _)
  | feed m frames => exact feed_leaves m frames b
  | endFeed m =>
    refine modifyFeed_leaves m (fun _ _ _ => rfl) fun f i hf hi => ?_
    rw [hf]
    exact Option.mem_toList.2 hi

/-! ## Every event -/

/-- **Every event that a task has no part in.** -/
theorem step_leaves (hb : BridgeOK b none none) (hi : b.registry.readers.Issued h) {e : Event}
    (hne : e.task? ≠ some who) (hf : b.FeedOf who feed) (hp : ¬ b.PumpsIn h e) :
    b.Leaves who h feed (b.step e) := by
  have hsubmit : ∀ t : Task, b.Leaves who h feed (b.submit t).2 := by
    intro t
    refine .of_kept (fun ht => ?_) (fun hr => List.mem_append_left _ hr) (.refl h _)
      fun _ _ => rfl
    obtain ⟨t', ht'⟩ := Option.isSome_iff_exists.1 ht
    show ((b.tasks ++ [(b.nextTask, t)]).lookup who).isSome = true
    rw [List.lookup_append, show b.tasks.lookup who = some t' from ht']
    rfl
  cases e with
  | call c => exact hsubmit _
  | payload text => exact hsubmit _
  | close target =>
    refine .of_spawns (b.close_spawns target) ?_ fun n _ => ?_
    · show b.registry.KeepsReader h (b.close target).registry
      rw [close_registry]
      exact .close hb.registry target
    · show (b.close target).service.feeds[n]? = _
      rw [close_service]
  | turn id => exact poll_leaves hb hi (fun hid => hne (congrArg some hid.symm)) hf hp
  | abandon id => exact abandon_leaves (fun hid => hne (congrArg some hid.symm)) hf
  | far act => exact b.far_leaves act
  | runtime x => exact .of_spawns (b.withRuntime_spawns x) (.refl h _) fun _ _ => rfl

/-- **An event that neither pumps nor reads the reader** closes it at most. -/
theorem step_keepsReader (hb : BridgeOK b none none) (hi : b.registry.readers.Issued h) {e : Event}
    (hp : ¬ b.PumpsIn h e)
    (hr : ∀ id t, e.task? = some id → b.task? id = some t → t.reader? ≠ some h) :
    b.registry.KeepsReader h (b.step e).registry := by
  cases e with
  | call c => exact .refl h _
  | payload text => exact .refl h _
  | close target =>
    show b.registry.KeepsReader h (b.close target).registry
    rw [close_registry]
    exact .close hb.registry target
  | turn id =>
    show b.registry.KeepsReader h (b.poll id).2.registry
    cases hs : (b.task? id).bind Task.stage? with
    | some stage =>
      obtain ⟨t, ht, hst⟩ := Option.bind_eq_some_iff.1 hs
      rw [poll_call ht hst, pollCall_registry]
      refine turn_keepsReader (b := b.takeTurn id) (call_ok hb ht hst).1 hi id fun hread => ?_
      refine hr id t rfl ht ?_
      rw [Task.reader?, hst]
      exact hread
    | none =>
      rcases poll_of_no_call hs with hpoll | ⟨text, ht, hpoll⟩ |
        ⟨x, e, stream, frame, ht, hpoll⟩ | ⟨client, held, left, ht, hpoll⟩ <;> rw [hpoll]
      · exact .refl h _
      · exact .refl h _
      · have hx : h ≠ x := by
          rintro rfl
          exact hp ⟨id, e, stream, frame, rfl, ht⟩
        rw [afterBackground_registry]
        exact pump_keepsReader hx (b.takeTurn id) id e stream frame
      · rw [afterBackground_registry, (farewell_level _ id client held left).registry,
          does_registry]
        exact .closeAll hb.registry _
  | abandon id =>
    have hleaves : ∀ t, b.task? id = some t → t.reader? ≠ some h := fun t ht => hr id t rfl ht
    show b.registry.KeepsReader h (b.abandon id).registry
    unfold abandon
    split
    · exact .refl h _
    · rename_i envelope stage ht
      exact release_keepsReader (hleaves _ ht) (b.conclude id) id
    · exact .refl h _
  | far act => exact .of_eq (far_registry b act)
  | runtime x => exact .refl h _

end Bridge

end QueryBridge
