import Mathlib.Data.List.Perm.Subperm
import QueryBridge.Proofs.Bridge.OK

/-!
# What a turn does

A turn is taken apart into moves: small changes of the bridge that are enough to
tell what every call, whatever it is, can do. A note says of a move what a
caller may want to know of it.

* `Move`, `Moves`: one move, and the moves of a turn.
* `Moves.ok`: moves keep the bridge well formed and bring nothing back.
-/

namespace QueryBridge

/-! ## Readers -/

/-- No frame has moved, and nobody but the task whose turn it is has lost the lock. -/
structure ReaderStatus.Aside (me : Option TaskId) (s s' : ReaderStatus) : Prop where
  state : s'.state = s.state
  isCancelled : s'.isCancelled = s.isCancelled
  isReceiving : s'.isReceiving = s.isReceiving
  held : s'.held = s.held
  buffer : s'.channel.buffer = s.channel.buffer
  capacity : s'.channel.capacity = s.channel.capacity
  holder : ∀ id, some id ≠ me → s.lock.holder = some id → s'.lock.holder = some id

/-- Frames have been taken off. Only what is not data is held back of those that are left. -/
structure ReaderStatus.Gives (s s' : ReaderStatus) (fs : List Frame) : Prop where
  state : s'.state = s.state
  isCancelled : s'.isCancelled = s.isCancelled
  isReceiving : s'.isReceiving = s.isReceiving
  lock : s'.lock = s.lock
  contents : s.contents = fs ++ s'.contents
  capacity : s'.channel.capacity = s.channel.capacity
  held : ∀ f, s'.held = some f → f.isTerminal = true

/-! ## Moves -/

/-- What is told of a move. -/
inductive Note
  /-- Nothing was registered and no frame was taken. -/
  | aside
  | opened (c : ConnectionHandle)
  | created (s : SessionHandle)
  | executed (h : ReaderHandle)
  /-- Frames were taken off a reader. -/
  | took (h : ReaderHandle) (frames : List Frame)
deriving DecidableEq

/-- One small change of the bridge, for the task whose turn it is and with the stream in its
hand. -/
inductive Move (me : Option TaskId) : Bridge → Option Stream → Note → Bridge → Option Stream → Prop
  | aside {b b' inHand} : b.Aside b' → Move me b inHand .aside b' inHand
  | close {b inHand r} : b.registry.CloseStep r → Move me b inHand .aside (b.withRegistry r) inHand
  | farewell {b inHand} (client : ClientId) (left : List RemoteClose) :
    Move me b inHand .aside (b.spawnOn (.farewell client none left)) inHand
  | opened {b inHand e c r} : b.registry.addConnection e = .ok (c, r) →
    Move me b inHand (.opened c) (b.withRegistry r) inHand
  | created {b inHand e s r ce} : b.registry.addSession e = .ok (s, r) →
    b.registry.connections.get? e.connection = some ce → ce.client = e.client →
    Move me b inHand (.created s) (b.withRegistry r) inHand
  /-- A query is executed; its stream is in the hand of the task. -/
  | claimed {b} (text : String) :
    Move me b none .aside (b.withService (b.service.takeStream text).2)
      (some (b.service.takeStream text).1)
  | dropped {b} (stream : Stream) : Move me b (some stream) .aside (b.dropStream stream) none
  /-- A reader is registered, and its pump takes the stream. -/
  | executed {b stream e h r ch se} :
    Channel.ofCapacity? (max b.config.chunkBuffer.toNat 1) = some ch →
    b.registry.addReader e ch = .ok (h, r) → b.registry.sessions.get? e.session = some se →
    se.connection = e.connection →
    Move me b (some stream) (.executed h) ((b.withRegistry r).spawnOn (.pump h e stream none)) none
  | cursor {b inHand} (h : ReaderHandle) {f : ReaderStatus → ReaderStatus} :
    (b.registry.reader h).Aside me (f (b.registry.reader h)) →
    Move me b inHand .aside (b.modifyReader h f) inHand
  | took {b inHand h f fs} : (b.registry.reader h).state ≠ .closed →
    (b.registry.reader h).Gives (f (b.registry.reader h)) fs →
    Move me b inHand (.took h fs) (b.modifyReader h f) inHand
  /-- The end of the stream is taken. -/
  | finished {b inHand h e f fs} : (b.registry.reader h).state ≠ .closed →
    (b.registry.reader h).Gives (f (b.registry.reader h)) (fs ++ [.finish]) →
    b.registry.NamesReader h e →
    Move me b inHand (.took h (fs ++ [.finish]))
      (b.withRegistry ((b.registry.modifyReader h f).exhaust h e)) inHand
  /-- The end of the stream was taken before. -/
  | finishedAgain {b inHand h e} : (b.registry.reader h).state = .exhausted →
    b.registry.NamesReader h e →
    Move me b inHand (.took h []) (b.withRegistry (b.registry.exhaust h e)) inHand

/-- Moves one after another, with what is told of them. -/
inductive Moves (me : Option TaskId) :
    Bridge → Option Stream → List Note → Bridge → Option Stream → Prop
  | nil {b inHand} : Moves me b inHand [] b inHand
  | cons {b inHand n b' inHand' ns b'' inHand''} : Move me b inHand n b' inHand' →
    Moves me b' inHand' ns b'' inHand'' → Moves me b inHand (n :: ns) b'' inHand''

variable {b b' b'' : Bridge} {me : Option TaskId} {inHand inHand' inHand'' : Option Stream}

theorem Move.moves {n : Note} (h : Move me b inHand n b' inHand') :
    Moves me b inHand [n] b' inHand' := .cons h .nil

theorem Moves.trans {ns ns' : List Note} (h : Moves me b inHand ns b' inHand')
    (h' : Moves me b' inHand' ns' b'' inHand'') : Moves me b inHand (ns ++ ns') b'' inHand'' := by
  induction h with
  | nil => exact h'
  | cons hm _ ih => exact .cons hm (ih h')

/-! ## Parts of a move -/

namespace BridgeOK

/-- Another registry in the place of the one before it. -/
theorem withRegistry (hb : BridgeOK b me inHand) {r : Registry} (hr : b.registry.Sound r)
    (hrec : ∀ h, (r.reader h).state = .active → (r.reader h).isReceiving = true)
    (hk : ∀ h, b.registry.readers.Issued h → ∀ id, some id ≠ me →
      (b.registry.reader h).lock.holder = some id → (r.reader h).lock.holder = some id) :
    BridgeOK (b.withRegistry r) me inHand ∧ b.Later (b.withRegistry r) := by
  obtain ⟨hok, hl⟩ := hr hb.registry
  have hlater : b.Later (b.withRegistry r) := ⟨rfl, hl, Nat.le_refl _⟩
  refine ⟨{ hb with registry := hok, receiving := hrec, tasks := ?_, locks := ?_ }, hlater⟩
  · exact fun p hp => hlater.taskOK (hb.tasks p hp)
  · intro p hp hme
    have h1 := hb.locks p hp hme
    have h2 := hb.tasks p hp
    unfold HoldsLock at h1 ⊢
    split
    · rename_i h e reading heq
      rw [heq] at h1 h2
      exact hk h h2.1 p.1 hme h1
    · trivial

/-- New work takes over the stream in hand, if it needs one. -/
theorem submit (hb : BridgeOK b me inHand) {t : Task} (ht : TaskOK b t)
    (hk : HoldsLock b b.nextTask t) (hs : inHand.toList = t.stream?.toList ++ inHand'.toList)
    (hp : ∀ h, t.pumped? = some h → ∀ p ∈ b.tasks, p.2.pumped? ≠ some h) :
    BridgeOK (b.submit t).2 me inHand' ∧ b.Later (b.submit t).2 := by
  have hlater : b.Later (b.submit t).2 := ⟨rfl, .refl _, Nat.le_succ _⟩
  have htasks : (b.submit t).2.tasks = b.tasks ++ [(b.nextTask, t)] := rfl
  -- the feeds that are held stay the same: what was in the hand is in the new task
  have hfeeds : (b.submit t).2.openFeeds me inHand' = b.openFeeds me inHand := by
    have hme : some b.nextTask ≠ me := fun h => absurd (hb.turn _ h.symm) (Nat.lt_irrefl _)
    have ht' : List.filterMap (fun p : TaskId × Task => p.2.stream?) [(b.nextTask, t)] =
        t.stream?.toList := by
      cases hts : t.stream? <;> simp [hts]
    simp only [Bridge.openFeeds, htasks, List.filter_append, List.filterMap_append, hs]
    rw [List.filter_cons_of_pos (by simpa using hme), List.filter_nil, ht']
    simp only [List.append_assoc]
    rfl
  refine ⟨⟨hb.registry, ?_, ?_, fun id hid => Nat.lt_succ_of_lt (hb.turn id hid), ?_, ?_,
    hb.receiving, ?_, ?_, ?_⟩, hlater⟩
  · intro p hp
    rcases List.mem_append.1 hp with hp | hp
    · exact hlater.taskOK (hb.tasks p hp)
    · rw [List.mem_singleton.1 hp]; exact hlater.taskOK ht
  · intro p hp
    rcases List.mem_append.1 hp with hp | hp
    · exact Nat.lt_succ_of_lt (hb.numbered p hp)
    · rw [List.mem_singleton.1 hp]; exact Nat.lt_succ_self _
  · rw [htasks, List.map_append, List.nodup_append]
    refine ⟨hb.nodup, List.nodup_singleton _, ?_⟩
    rintro _ hx _ hy rfl
    obtain ⟨p, hp, rfl⟩ := List.mem_map.1 hx
    rw [List.map_singleton, List.mem_singleton] at hy
    exact absurd (hb.numbered p hp) (hy ▸ Nat.lt_irrefl _)
  · rw [htasks, List.filterMap_append, List.nodup_append]
    refine ⟨hb.pumps, ?_, ?_⟩
    · cases hpt : t.pumped? <;> simp [hpt]
    · rintro h hx _ hy rfl
      obtain ⟨p, hp', hph⟩ := List.mem_filterMap.1 hx
      obtain ⟨q, hq, hqh⟩ := List.mem_filterMap.1 hy
      rw [List.mem_singleton.1 hq] at hqh
      exact hp h hqh p hp' hph
  · intro p hp hme
    rcases List.mem_append.1 hp with hp | hp
    · exact hb.locks p hp hme
    · rw [List.mem_singleton.1 hp]; exact hk
  · rw [hfeeds]; exact hb.feeds
  · intro n hn
    rw [hfeeds] at hn
    exact hb.feedsExist n hn

/-- New work in the background. -/
theorem spawnOn (hb : BridgeOK b me inHand) {t : Task} (ht : TaskOK b t)
    (hk : HoldsLock b b.nextTask t) (hs : inHand.toList = t.stream?.toList ++ inHand'.toList)
    (hp : ∀ h, t.pumped? = some h → ∀ p ∈ b.tasks, p.2.pumped? ≠ some h) :
    BridgeOK (b.spawnOn t) me inHand' ∧ b.Later (b.spawnOn t) ∧ b.Spawned (b.spawnOn t) := by
  have ha : b.Aside { b with tracker := b.tracker.started } := ⟨rfl, rfl, rfl, rfl, rfl, rfl⟩
  obtain ⟨h1, h2⟩ := (ha.ok hb).submit (ha.later.taskOK ht) hk hs hp
  exact ⟨h1, ha.later.trans h2, [(b.nextTask, t)], rfl, by simp⟩

/-- Another service, which leaves no feed to two of those that hold one. -/
theorem withService (hb : BridgeOK b me inHand) {s : Service}
    (hf : ((b.withService s).openFeeds me inHand').Subperm (b.openFeeds me inHand))
    (hl : b.service.feeds.length ≤ s.feeds.length) :
    BridgeOK (b.withService s) me inHand' ∧ b.Later (b.withService s) := by
  have hlater : b.Later (b.withService s) := ⟨rfl, .refl _, Nat.le_refl _⟩
  refine ⟨{ hb with tasks := ?_, feeds := ?_, feedsExist := ?_ }, hlater⟩
  · exact fun p hp => hlater.taskOK (hb.tasks p hp)
  · obtain ⟨l, hp, hs⟩ := hf
    exact hp.nodup_iff.1 (hs.nodup hb.feeds)
  · exact fun n hn => Nat.lt_of_lt_of_le (hb.feedsExist n (hf.subset hn)) hl

end BridgeOK

/-! ## Statuses of readers -/

namespace Registry

variable {r r' : Registry}

/-- A close of live readers shows in their statuses, and in no other ones. -/
theorem CloseStep.status (hr : RegistryOK r) (h : r.CloseStep r') (x : ReaderHandle) :
    r'.reader x = r.reader x ∨ (r.reader x).state = .active ∧
      r'.reader x = { r.reader x with state := .closed, isCancelled := true } := by
  rcases h.cases hr with ⟨y, -, rfl⟩ | ⟨C, S, R, hp, -, -, hR, -, -⟩
  · exact .inl rfl
  · rw [hp.reader]
    split
    · rename_i hx; exact .inr ⟨(hr.active x).2 (hR x hx), rfl⟩
    · exact .inl rfl

theorem addConnection_reader {e : Connection} {c : ConnectionHandle}
    (h : r.addConnection e = .ok (c, r')) (x : ReaderHandle) : r'.reader x = r.reader x := by
  obtain ⟨t, -, rfl⟩ := addConnection_eq_ok h
  rfl

theorem addSession_reader {e : Session} {s : SessionHandle} (h : r.addSession e = .ok (s, r'))
    (x : ReaderHandle) : r'.reader x = r.reader x := by
  obtain ⟨t, -, rfl⟩ := addSession_eq_ok h
  rfl

/-- What the end of a stream does to the status of a reader. -/
def spent (s : ReaderStatus) : ReaderStatus :=
  { s with
    isReceiving := false
    channel := { s.channel with buffer := [], roomWaiter := none }
    state := if s.state = .active then .exhausted else s.state }

theorem exhaust_reader (r : Registry) (h : ReaderHandle) (e : Reader) (x : ReaderHandle) :
    (r.exhaust h e).reader x = (r.modifyReader h spent).reader x := by
  unfold exhaust
  dsimp only
  split <;> rfl

/-- The end of a stream issues no handle. -/
theorem issued_exhaust {h x : ReaderHandle} {e : Reader}
    (hx : (r.exhaust h e).readers.Issued x) : r.readers.Issued x := by
  unfold exhaust at hx
  dsimp only at hx
  split at hx <;> exact hx

/-- A reader that is not closed is exhausted at the end of its stream. -/
theorem exhaust_state {h : ReaderHandle} (hs : (r.reader h).state ≠ .closed) (e : Reader) :
    ((r.exhaust h e).reader h).state = .exhausted := by
  rw [exhaust_reader, reader_modify _ _ hs, if_pos rfl]
  unfold spent
  cases hst : (r.reader h).state with
  | active => rfl
  | exhausted => rfl
  | closed => exact absurd hst hs

/-- No live reader stops receiving at the end of a stream. -/
theorem exhaust_receiving {h : ReaderHandle} {e : Reader}
    (hr : ∀ x, (r.reader x).state = .active → (r.reader x).isReceiving = true) (x : ReaderHandle) :
    ((r.exhaust h e).reader x).state = .active → ((r.exhaust h e).reader x).isReceiving = true := by
  rw [exhaust_reader]
  refine reader_modify_imp (P := fun s => s.state = .active → s.isReceiving = true) r h ?_ x (hr x)
  intro _ hs
  unfold spent at hs
  dsimp only at hs
  split at hs
  · cases hs
  · contradiction

end Registry

/-- The stream of a query comes from the script, or is one that nobody feeds. -/
theorem Service.takeStream_queries (s : Service) (text : String) :
    (s.takeStream text).2.feeds = s.feeds ∧
      (((s.takeStream text).2.queries.map Prod.snd ++ [(s.takeStream text).1]).Perm
          (s.queries.map Prod.snd) ∨
        (s.takeStream text).2.queries = s.queries ∧ (s.takeStream text).1.feed? = none) := by
  have key : ∀ (l : List (String × Stream)) (a : Stream) (l' : List (String × Stream)),
      takeKey? text l = some (a, l') → (l'.map Prod.snd ++ [a]).Perm (l.map Prod.snd) := by
    intro l
    induction l with
    | nil => simp [takeKey?]
    | cons p l ih =>
      intro a l' h
      obtain ⟨k, a₀⟩ := p
      unfold takeKey? at h
      split at h
      · obtain ⟨rfl, rfl⟩ := Prod.mk.inj (Option.some.inj h)
        exact List.perm_append_singleton _ _
      · obtain ⟨⟨b, rest⟩, hr, hb⟩ := Option.map_eq_some_iff.1 h
        obtain ⟨rfl, rfl⟩ := Prod.mk.inj hb
        exact (ih b rest hr).cons a₀
  unfold takeStream
  split
  · rename_i stream rest heq
    exact ⟨rfl, .inl (key _ _ _ heq)⟩
  · exact ⟨rfl, .inr ⟨rfl, rfl⟩⟩

theorem Service.dropStream_queries (s : Service) (stream : Stream) :
    (s.dropStream stream).queries = s.queries ∧
      (s.dropStream stream).feeds.length = s.feeds.length := by
  cases stream with
  | fixed fs => exact ⟨rfl, rfl⟩
  | live n => exact ⟨rfl, List.length_modify _ _ _⟩

/-! ## Moves keep the bridge well formed -/

namespace BridgeOK

/-- The stream of a query goes from the script into the hand of a task. -/
theorem claims (hb : BridgeOK b me none) (text : String) :
    BridgeOK (b.withService (b.service.takeStream text).2) me
        (some (b.service.takeStream text).1) ∧
      b.Later (b.withService (b.service.takeStream text).2) := by
  obtain ⟨hf, hq⟩ := b.service.takeStream_queries text
  have hp : ((b.withService (b.service.takeStream text).2).openFeeds me
      (some (b.service.takeStream text).1)).Perm (b.openFeeds me none) := by
    simp only [Bridge.openFeeds, Bridge.withService, Option.toList_some, Option.toList_none,
      List.append_nil]
    rcases hq with hq | ⟨hq, hs⟩
    -- out of the script into the hand
    · refine List.Perm.filterMap _ (.trans ?_ (hq.append_right _))
      rw [List.append_assoc, List.append_assoc]
      exact List.perm_append_comm.append_left _
    · -- nobody feeds the stream of a query without a script
      rw [hq, List.filterMap_append, List.filterMap_cons_none hs, List.filterMap_nil,
        List.append_nil]
  exact hb.withService hp.subperm (Nat.le_of_eq (by rw [hf]))

/-- The stream in hand is dropped. -/
theorem drops {stream : Stream} (hb : BridgeOK b me (some stream)) :
    BridgeOK (b.dropStream stream) me none ∧ b.Later (b.dropStream stream) := by
  obtain ⟨hq, hl⟩ := b.service.dropStream_queries stream
  have hs : ((b.withService (b.service.dropStream stream)).openFeeds me none).Sublist
      (b.openFeeds me (some stream)) := by
    simp only [Bridge.openFeeds, Bridge.withService, hq]
    exact (List.Sublist.append_left (List.nil_sublist _) _).filterMap _
  exact hb.withService hs.subperm (Nat.le_of_eq hl.symm)

/-- A reader is registered, and its pump takes over the stream in hand. -/
theorem executes {stream : Stream} {e : Reader} {h : ReaderHandle} {r : Registry} {ch : Channel}
    {se : Session} (hb : BridgeOK b me (some stream)) (ha : b.registry.addReader e ch = .ok (h, r))
    (hse : b.registry.sessions.get? e.session = some se) (hsc : se.connection = e.connection) :
    let b' := (b.withRegistry r).spawnOn (.pump h e stream none)
    BridgeOK b' me none ∧ b.Later b' ∧ b.Spawned b' := by
  have hsound := addReader_sound ha hse hsc
  have hso := (hb.registry.sessOpen _).2 ⟨se, hse⟩
  obtain ⟨t, hal, hr⟩ := addReader_eq_ok ha
  have hs := (addReader_status ha hso).2
  obtain ⟨h1, h2⟩ := hb.withRegistry hsound (fun x hx => by
    rw [hs] at hx ⊢
    split at hx <;> rename_i hxh
    · rw [if_pos hxh]
    · rw [if_neg hxh]; exact hb.receiving x hx) fun x hx id _ hid => by
    rw [hs, if_neg (HandleTable.ne_of_issued hal hx)]; exact hid
  have hn : (b.withRegistry r).registry.NamesReader h e := by
    refine namesReader_of_get? ?_
    have hrt : r.readers = t := by rw [hr]; rfl
    show r.readers.get? h = some e
    rw [hrt, (HandleTable.allocate_eq_ok hal).2.2.2, if_pos rfl]
  -- the handle is new, so no other pump brings frames to it
  have hfresh : ∀ x, (Task.pump h e stream none).pumped? = some x →
      ∀ p ∈ b.tasks, p.2.pumped? ≠ some x := by
    intro x hx p hp hpx
    obtain rfl := Option.some.inj hx
    exact HandleTable.ne_of_issued hal (hb.pump_issued hp hpx) rfl
  have hhand : (some stream).toList = (Task.pump h e stream none).stream?.toList ++
    (none : Option Stream).toList := rfl
  obtain ⟨h3, h4, h5⟩ := h1.spawnOn (t := .pump h e stream none) hn trivial hhand hfresh
  exact ⟨h3, h2.trans h4, h5⟩

end BridgeOK

/-- **A move keeps the bridge well formed** and brings nothing back; no task goes. -/
theorem Move.ok {n : Note} (h : Move me b inHand n b' inHand') (hb : BridgeOK b me inHand) :
    BridgeOK b' me inHand' ∧ b.Later b' ∧ b.Spawned b' := by
  cases h with
  | aside h => exact ⟨h.ok hb, h.later, .of_eq h.tasks⟩
  | close h =>
    have := hb.withRegistry h.sound (fun x hx => by
      rcases h.status hb.registry x with hx' | ⟨-, hx'⟩ <;> rw [hx'] at hx ⊢
      · exact hb.receiving x hx
      · cases hx) fun x _ id _ hid => by
      rcases h.status hb.registry x with hx | ⟨-, hx⟩ <;> rw [hx] <;> exact hid
    exact ⟨this.1, this.2, .of_eq rfl⟩
  | farewell client left =>
    exact hb.spawnOn (t := .farewell client none left) trivial trivial rfl nofun
  | opened ha =>
    have hs := Registry.addConnection_reader ha
    have := hb.withRegistry (addConnection_sound ha)
      (fun x hx => by rw [hs] at hx ⊢; exact hb.receiving x hx)
      fun x _ id _ hid => by rw [hs]; exact hid
    exact ⟨this.1, this.2, .of_eq rfl⟩
  | created ha hce hcl =>
    have hs := Registry.addSession_reader ha
    have := hb.withRegistry (addSession_sound ha hce hcl)
      (fun x hx => by rw [hs] at hx ⊢; exact hb.receiving x hx)
      fun x _ id _ hid => by rw [hs]; exact hid
    exact ⟨this.1, this.2, .of_eq rfl⟩
  | claimed text =>
    have := hb.claims text
    exact ⟨this.1, this.2, .of_eq rfl⟩
  | dropped stream =>
    have := hb.drops
    exact ⟨this.1, this.2, .of_eq rfl⟩
  | executed hch ha hse hsc => exact hb.executes ha hse hsc
  | cursor h hf =>
    have := hb.withRegistry (cursor_sound h hf.state hf.isCancelled) (fun x => by
      rw [Registry.reader_modify_keeps _ h (g := ReaderStatus.state) hf.state,
        Registry.reader_modify_keeps _ h (g := ReaderStatus.isReceiving) hf.isReceiving]
      exact hb.receiving x) fun x _ id hid hx => by
      exact Registry.reader_modify_imp (P := fun s => s.lock.holder = some id) _ h
        (hf.holder id hid) x hx
    exact ⟨this.1, this.2, .of_eq rfl⟩
  | took hst hg =>
    rename_i h f fs
    have := hb.withRegistry (cursor_sound h hg.state hg.isCancelled) (fun x => by
      rw [Registry.reader_modify_keeps _ h (g := ReaderStatus.state) hg.state,
        Registry.reader_modify_keeps _ h (g := ReaderStatus.isReceiving) hg.isReceiving]
      exact hb.receiving x) fun x _ id hid hx => by
      rw [Registry.reader_modify_keeps _ h (g := ReaderStatus.lock) hg.lock]; exact hx
    exact ⟨this.1, this.2, .of_eq rfl⟩
  | finished hst hg he =>
    rename_i h e f fs
    -- the frames are taken first, and the reader is exhausted then
    have hs : b.registry.Sound ((b.registry.modifyReader h f).exhaust h e) :=
      (cursor_sound h hg.state hg.isCancelled).trans (exhaust_sound he.2)
    have := hb.withRegistry hs (Registry.exhaust_receiving fun x => by
      rw [Registry.reader_modify_keeps _ h (g := ReaderStatus.state) hg.state,
        Registry.reader_modify_keeps _ h (g := ReaderStatus.isReceiving) hg.isReceiving]
      exact hb.receiving x) fun x _ id hid hx => by
      rw [Registry.exhaust_reader,
        Registry.reader_modify_keeps _ h (g := ReaderStatus.lock) rfl,
        Registry.reader_modify_keeps _ h (g := ReaderStatus.lock) hg.lock]
      exact hx
    exact ⟨this.1, this.2, .of_eq rfl⟩
  | finishedAgain hst he =>
    rename_i h e
    have := hb.withRegistry (exhaust_sound he.2) (Registry.exhaust_receiving hb.receiving)
      fun x _ id hid hx => by
      rw [Registry.exhaust_reader, Registry.reader_modify_keeps _ h (g := ReaderStatus.lock) rfl]
      exact hx
    exact ⟨this.1, this.2, .of_eq rfl⟩

/-- **Moves keep the bridge well formed** and bring nothing back; no task is taken away. -/
theorem Moves.ok {ns : List Note} (h : Moves me b inHand ns b' inHand')
    (hb : BridgeOK b me inHand) : BridgeOK b' me inHand' ∧ b.Later b' ∧ b.Spawned b' := by
  induction h with
  | nil => exact ⟨hb, .refl _, .of_eq rfl⟩
  | cons hm _ ih =>
    obtain ⟨h1, h2, h3⟩ := hm.ok hb
    obtain ⟨h4, h5, h6⟩ := ih h1
    exact ⟨h4, h2.trans h5, h3.trans h6 h2⟩

end QueryBridge
