import QueryBridge.Proofs.Bridge.Local
import QueryBridge.Proofs.Bridge.Tracking

/-!
# What a reading leaves of its reader

A turn of a reading touches its own reader and nothing else. What is in the channel
afterwards was there before, and what is not there any more is data that was taken.
A pump that waits for room still does, or was woken.

* `Registry.SameBut`: two registries that differ in one reader at most.
* `Bridge.Touches`: the reach of a reading.
* `Bridge.Serves`: what it leaves of a live reader.
* `turn_serves`, `release_serves`: a turn of a reading, and one that is given up.
-/

namespace QueryBridge

variable {r r' r'' : Registry} {b b' b'' : Bridge} {h : ReaderHandle} {e : Reader}
  {id : TaskId} {reading : Reading} {s s' s'' : ReaderStatus}

/-! ## Registries that differ in one reader -/

/-- The two differ in what they list of one reader at most. -/
structure SessionStatus.SameBut (h : ReaderHandle) (s s' : SessionStatus) : Prop where
  isOpen : s'.isOpen = s.isOpen
  isCancelled : s'.isCancelled = s.isCancelled
  readers : s'.readers.filter (· ≠ h) = s.readers.filter (· ≠ h)
  exhausted : s'.exhausted.filter (· ≠ h) = s.exhausted.filter (· ≠ h)

theorem SessionStatus.SameBut.refl (h : ReaderHandle) (s : SessionStatus) : s.SameBut h s :=
  ⟨rfl, rfl, rfl, rfl⟩

theorem SessionStatus.SameBut.trans {s s' s'' : SessionStatus} (h₁ : s.SameBut h s')
    (h₂ : s'.SameBut h s'') : s.SameBut h s'' :=
  ⟨h₂.isOpen.trans h₁.isOpen, h₂.isCancelled.trans h₁.isCancelled, h₂.readers.trans h₁.readers,
    h₂.exhausted.trans h₁.exhausted⟩

/-- The two registries differ in one reader at most: in its entry and its status, in its marker,
and in what sessions list of it. -/
structure Registry.SameBut (h : ReaderHandle) (r r' : Registry) : Prop where
  connections : r'.connections = r.connections
  sessions : r'.sessions = r.sessions
  readNext : r'.readers.next = r.readers.next
  readers : ∀ x, x ≠ h → r'.readers.get? x = r.readers.get? x
  exhausted : ∀ x, x ≠ h → r'.exhausted.get? x = r.exhausted.get? x
  connection : ∀ c, r'.connection c = r.connection c
  session : ∀ s, (r.session s).SameBut h (r'.session s)
  reader : ∀ x, x ≠ h → r'.reader x = r.reader x

namespace Registry.SameBut

theorem refl (h : ReaderHandle) (r : Registry) : r.SameBut h r :=
  ⟨rfl, rfl, rfl, fun _ _ => rfl, fun _ _ => rfl, fun _ => rfl, fun _ => .refl h _,
    fun _ _ => rfl⟩

theorem trans (h₁ : r.SameBut h r') (h₂ : r'.SameBut h r'') : r.SameBut h r'' where
  connections := h₂.connections.trans h₁.connections
  sessions := h₂.sessions.trans h₁.sessions
  readNext := h₂.readNext.trans h₁.readNext
  readers x hx := (h₂.readers x hx).trans (h₁.readers x hx)
  exhausted x hx := (h₂.exhausted x hx).trans (h₁.exhausted x hx)
  connection c := (h₂.connection c).trans (h₁.connection c)
  session s := (h₁.session s).trans (h₂.session s)
  reader x hx := (h₂.reader x hx).trans (h₁.reader x hx)

theorem modifyReader (r : Registry) (h : ReaderHandle) (f : ReaderStatus → ReaderStatus) :
    r.SameBut h (r.modifyReader h f) :=
  { SameBut.refl h r with reader := fun _ hx => r.reader_modify_of_ne f hx }

/-- A session changes what it lists of the reader. -/
theorem modifySession (r : Registry) (s : SessionHandle) {f : SessionStatus → SessionStatus}
    (hf : ∀ x : SessionStatus, x.SameBut h (f x)) : r.SameBut h (r.modifySession s f) := by
  refine { SameBut.refl h r with session := fun x => ?_ }
  have hget : (r.modifySession s f).session x =
      ((if x = s then (r.sessionStatus.get? x).map f else r.sessionStatus.get? x)).getD
        default := by
    unfold Registry.session Registry.modifySession
    rw [HandleMap.get?_modify]
  rw [hget]
  unfold Registry.session
  by_cases hx : x = s
  · rw [if_pos hx]
    cases r.sessionStatus.get? x with
    | none => exact .refl h _
    | some a => exact hf a
  · rw [if_neg hx]
    exact .refl h _

theorem closeReader (r : Registry) (h : ReaderHandle) : r.SameBut h (r.closeReader h).2 := by
  unfold Registry.closeReader
  cases hget : r.readers.get? h with
  | none =>
    refine { SameBut.refl h r with exhausted := fun x hx => ?_ }
    show (r.exhausted.erase h).get? x = _
    rw [HandleMap.get?_erase, if_neg hx]
  | some e =>
    have hdetach : r.SameBut h (r.detachReader h) := by
      have hrelease : r.SameBut h { r with readers := r.readers.release h } := by
        refine { SameBut.refl h r with readers := fun x hx => ?_ }
        show (r.readers.release h).get? x = _
        rw [HandleTable.get?_release, if_neg hx]
      unfold Registry.detachReader
      rw [hget]
      exact hrelease.trans (modifyReader _ h _)
    dsimp only
    split
    · refine hdetach.trans (modifySession _ _ fun x => ⟨rfl, rfl, ?_, rfl⟩)
      simp [List.filter_filter]
    · exact hdetach

theorem exhaust (r : Registry) (h : ReaderHandle) (e : Reader) : r.SameBut h (r.exhaust h e) := by
  unfold Registry.exhaust
  dsimp only
  split
  · set r₁ := r.modifyReader h _
    have hmark : r₁.SameBut h
        { r₁ with exhausted := r₁.exhausted.insert h (), readers := r₁.readers.release h } := by
      refine { SameBut.refl h r₁ with readers := fun x hx => ?_, exhausted := fun x hx => ?_ }
      · show (r₁.readers.release h).get? x = _
        rw [HandleTable.get?_release, if_neg hx]
      · show (r₁.exhausted.insert h ()).get? x = _
        rw [HandleMap.get?_insert, if_neg hx]
    refine (modifyReader r h _).trans (hmark.trans (modifySession _ _ fun x => ⟨rfl, rfl, ?_, ?_⟩))
    · simp [List.filter_filter]
    · simp
  · exact modifyReader r h _

end Registry.SameBut

namespace Registry

/-- A reader that is closed has the status that it had, or is closed. -/
theorem closeReader_status (r : Registry) (h : ReaderHandle) :
    (r.closeReader h).2.reader h = r.reader h ∧ r.readers.get? h = none ∨
      ((r.closeReader h).2.reader h).state = .closed := by
  unfold Registry.closeReader
  cases hget : r.readers.get? h with
  | none => exact .inl ⟨rfl, rfl⟩
  | some e =>
    have hdetach : ((r.detachReader h).reader h).state = .closed := by
      unfold Registry.detachReader
      rw [hget]
      obtain hx | hx := reader_modify_self { r with readers := r.readers.release h } h
        fun s => { s with state := .closed, isCancelled := true }
      · exact congrArg ReaderStatus.state hx
      · exact congrArg ReaderStatus.state hx
    refine .inr ?_
    dsimp only
    split <;> exact hdetach

/-- A reader whose stream has ended is not active. -/
theorem exhaust_inactive (r : Registry) (h : ReaderHandle) (e : Reader) :
    ((r.exhaust h e).reader h).state ≠ .active := by
  rw [exhaust_reader]
  obtain hx | hx := reader_modify_self r h spent
  · rw [hx]
    unfold spent
    dsimp only
    split
    · nofun
    · assumption
  · rw [hx]
    nofun

end Registry

/-! ## What is left in the channel -/

/-- The reader is as it was, but for data that was taken off it. -/
structure ReaderStatus.Left (s s' : ReaderStatus) : Prop where
  active : s.state = .active
  isReceiving : s'.isReceiving = s.isReceiving
  isFed : s'.channel.isFed = s.channel.isFed
  capacity : s'.channel.capacity = s.channel.capacity
  contents : ∃ fs : List Frame, (∀ f ∈ fs, f.isData = true) ∧ s.contents = fs ++ s'.contents

theorem ReaderStatus.Left.refl (hs : s.state = .active) : s.Left s :=
  ⟨hs, rfl, rfl, rfl, [], nofun, rfl⟩

theorem ReaderStatus.Left.trans (h₁ : s.Left s') (h₂ : s'.Left s'') : s.Left s'' := by
  obtain ⟨fs, hfs, hc⟩ := h₁.contents
  obtain ⟨fs', hfs', hc'⟩ := h₂.contents
  refine ⟨h₁.active, h₂.isReceiving.trans h₁.isReceiving, h₂.isFed.trans h₁.isFed,
    h₂.capacity.trans h₁.capacity, fs ++ fs', fun f hf => ?_, ?_⟩
  · rcases List.mem_append.1 hf with hf | hf
    · exact hfs f hf
    · exact hfs' f hf
  · rw [hc, hc', List.append_assoc]

/-- A frame at most is held back of those that are not in the channel. -/
theorem ReaderStatus.contents_length_le (s : ReaderStatus) :
    s.contents.length ≤ s.channel.buffer.length + 1 := by
  have hheld : s.held.toList.length ≤ 1 := by
    cases s.held <;> simp
  unfold ReaderStatus.contents
  rw [List.length_append]
  split <;> simp <;> omega

namespace Bridge

/-- The reach of a reading: its reader, and the queue. -/
structure Touches (h : ReaderHandle) (b b' : Bridge) : Prop extends b.Calm b' where
  ready : b.ready ⊆ b'.ready
  registry : b.registry.SameBut h b'.registry

/-- What a reading leaves of its reader, if that is still active: nothing but data was taken off
it, and whoever waits for room still does, or was woken. -/
structure Serves (h : ReaderHandle) (b b' : Bridge) : Prop extends b.Touches h b' where
  left : (b'.registry.reader h).state = .active →
    (b.registry.reader h).Left (b'.registry.reader h)
  room : (b'.registry.reader h).state = .active → ∀ i, (b.task? i).isSome →
    (b.registry.reader h).channel.roomWaiter = some i →
    (b'.registry.reader h).channel.buffer = (b.registry.reader h).channel.buffer ∧
        (b'.registry.reader h).channel.roomWaiter = some i ∨
      i ∈ b'.ready

theorem Calm.refl (b : Bridge) : b.Calm b := ⟨rfl, rfl, rfl, rfl, rfl, rfl⟩

theorem Calm.task? (hc : b.Calm b') (i : TaskId) : b'.task? i = b.task? i := by
  simp only [Bridge.task?, hc.tasks]

/-- A task that has begun and is not over is in the queue once it is woken. -/
theorem mem_ready_wakeAll {i : TaskId} {ids : List TaskId} (hi : i ∈ ids)
    (ht : (b.task? i).isSome = true) : i ∈ (b.wakeAll ids).ready := by
  obtain ⟨t, ht⟩ := Option.isSome_iff_exists.1 ht
  exact mem_wakeAll hi ht

/-- A reader that is active afterwards has the status that it was given. -/
theorem modifyReader_of_active {f : ReaderStatus → ReaderStatus}
    (ha : ((b.modifyReader h f).registry.reader h).state = .active) :
    (b.modifyReader h f).registry.reader h = f (b.registry.reader h) := by
  obtain hx | hx := b.registry.reader_modify_self h f
  · exact hx
  · rw [show (b.modifyReader h f).registry.reader h = _ from hx] at ha
    cases ha

namespace Touches

theorem refl (h : ReaderHandle) (b : Bridge) : b.Touches h b :=
  ⟨.refl b, fun _ hi => hi, .refl h _⟩

theorem trans (h₁ : b.Touches h b') (h₂ : b'.Touches h b'') : b.Touches h b'' :=
  ⟨h₁.toCalm.trans h₂.toCalm, fun _ hi => h₂.ready (h₁.ready hi), h₁.registry.trans h₂.registry⟩

theorem wakeAll (b : Bridge) (ids : List TaskId) : b.Touches h (b.wakeAll ids) := by
  refine ⟨wakeAll_calm ids b, (wakeAll_spawns ids b).ready, ?_⟩
  rw [wakeAll_registry]
  exact .refl h _

theorem withRegistry (b : Bridge) {r : Registry} (hr : b.registry.SameBut h r) :
    b.Touches h (b.withRegistry r) := ⟨b.withRegistry_calm r, fun _ hi => hi, hr⟩

theorem modifyReader (b : Bridge) (h : ReaderHandle) (f : ReaderStatus → ReaderStatus) :
    b.Touches h (b.modifyReader h f) := withRegistry b (.modifyReader _ h f)

theorem exhaust (b : Bridge) (h : ReaderHandle) (e : Reader) :
    b.Touches h (b.withRegistry (b.registry.exhaust h e)) := withRegistry b (.exhaust _ h e)

theorem closeReader (b : Bridge) (h : ReaderHandle) : b.Touches h (b.closeReader h) := by
  refine ⟨b.closeReader_calm h, (b.closeReader_spawns h).ready, ?_⟩
  rw [closeReader_registry]
  exact .closeReader _ h

/-- Nothing is told of a reader that is not active. -/
theorem serves (ht : b.Touches h b') (hs : (b'.registry.reader h).state ≠ .active) :
    b.Serves h b' := ⟨ht, fun ha => absurd ha hs, fun ha => absurd ha hs⟩

end Touches

namespace Serves

theorem refl (h : ReaderHandle) (b : Bridge) : b.Serves h b :=
  ⟨.refl h b, fun ha => .refl ha, fun _ _ _ hi => .inl ⟨rfl, hi⟩⟩

theorem trans (h₁ : b.Serves h b') (h₂ : b'.Serves h b'') : b.Serves h b'' := by
  refine ⟨h₁.toTouches.trans h₂.toTouches, fun ha => ?_, fun ha i ht hi => ?_⟩
  · have hleft := h₂.left ha
    exact (h₁.left hleft.active).trans hleft
  · have ha' := (h₂.left ha).active
    have ht' : (b'.task? i).isSome = true := by rwa [h₁.toCalm.task?]
    rcases h₁.room ha' i ht hi with ⟨hbuf, hi'⟩ | hready
    · rcases h₂.room ha i ht' hi' with ⟨hbuf', hi''⟩ | hready
      · exact .inl ⟨hbuf'.trans hbuf, hi''⟩
      · exact .inr hready
    · exact .inr (h₂.ready hready)

theorem wakeAll (b : Bridge) (ids : List TaskId) : b.Serves h (b.wakeAll ids) := by
  refine ⟨.wakeAll b ids, ?_, ?_⟩ <;> rw [wakeAll_registry]
  · exact fun ha => .refl ha
  · exact fun _ _ _ hi => .inl ⟨rfl, hi⟩

/-- Something changes that no frame has to do with. -/
theorem modifyReader (b : Bridge) (h : ReaderHandle) {f : ReaderStatus → ReaderStatus}
    (hf : ∀ s : ReaderStatus, (s.state = .active → s.Left (f s)) ∧ (f s).state = s.state ∧
      (f s).channel.buffer = s.channel.buffer ∧
      (f s).channel.roomWaiter = s.channel.roomWaiter) :
    b.Serves h (b.modifyReader h f) := by
  obtain ⟨hleft, hst, hbuf, hroom⟩ := hf (b.registry.reader h)
  refine ⟨.modifyReader b h f, fun ha => ?_, fun ha i _ hi => ?_⟩ <;>
    have hx := modifyReader_of_active ha <;> rw [hx] at ha ⊢
  · exact hleft (hst.symm.trans ha)
  · exact .inl ⟨hbuf, hroom.trans hi⟩

theorem leaveLock (b : Bridge) (h : ReaderHandle) : b.Serves h (b.leaveLock h) := by
  have hmove : b.Serves h (b.modifyReader h fun s => { s with lock := s.lock.leave }) :=
    .modifyReader b h fun s => ⟨fun ha => ⟨ha, rfl, rfl, rfl, [], nofun, rfl⟩, rfl, rfl, rfl⟩
  exact hmove.trans (.wakeAll _ _)

theorem giveUpLock (b : Bridge) (id : TaskId) (h : ReaderHandle) :
    b.Serves h (b.giveUpLock id h) := by
  unfold Bridge.giveUpLock
  split
  · exact leaveLock b h
  · exact .modifyReader b h fun s => ⟨fun ha => ⟨ha, rfl, rfl, rfl, [], nofun, rfl⟩, rfl, rfl, rfl⟩

theorem closeReader (b : Bridge) (h : ReaderHandle) : b.Serves h (b.closeReader h) := by
  refine ⟨.closeReader b h, ?_, ?_⟩ <;> rw [closeReader_registry] <;> intro ha <;>
    obtain ⟨hx, -⟩ | hx := b.registry.closeReader_status h
  · rw [hx] at ha ⊢
    exact .refl ha
  · rw [hx] at ha
    cases ha
  · rw [hx]
    exact fun i _ hi => .inl ⟨rfl, hi⟩
  · rw [hx] at ha
    cases ha

theorem endReading (b : Bridge) (h : ReaderHandle) (reading : Reading) (o : Outcome) :
    b.Serves h (b.endReading h reading o).2 := by
  unfold Bridge.endReading
  dsimp only
  split
  · exact closeReader b h
  · exact .refl h b

theorem readClosed (b : Bridge) (h : ReaderHandle) (reading : Reading) :
    b.Serves h ((b.leaveLock h).readClosed h reading).2 :=
  (leaveLock b h).trans (endReading _ h reading _)

/-- The end of the stream is taken: the reader is not active any more. -/
theorem exhaust (b : Bridge) (h : ReaderHandle) (e : Reader) :
    b.Serves h (b.withRegistry (b.registry.exhaust h e)) :=
  (Touches.exhaust b h e).serves (b.registry.exhaust_inactive h e)

end Serves

/-! ## Frames -/

/-- A reader that is active is live. -/
def LiveIfActive (b : Bridge) (h : ReaderHandle) : Prop :=
  (b.registry.reader h).state = .active → b.registry.readers.get? h ≠ none

/-- The failure of the stream is taken: the reader is not active any more. -/
theorem Serves.retire (ht : b.Touches h b') (hl : b'.LiveIfActive h) :
    b.Serves h (b'.closeReader h) := by
  refine (ht.trans (.closeReader b' h)).serves fun ha => ?_
  have hactive := ((Serves.closeReader b' h).left ha).active
  rw [closeReader_registry] at ha
  rcases b'.registry.closeReader_status h with ⟨-, hnone⟩ | hclosed
  · exact hl hactive hnone
  · rw [hclosed] at ha
    cases ha

/-- **A frame that was taken off the reader is delivered.** If it is data, nothing else was
taken. -/
theorem deliver_serves (ht : b.Touches h b') (hl : b'.LiveIfActive h) (e : Reader)
    (reading : Reading) {f : Frame} (hs : f.isData = true → b.Serves h b') :
    b.Serves h (b'.deliver h e reading f).2 := by
  cases f with
  | data c =>
    have hleave := (hs rfl).trans (.leaveLock b' h)
    unfold Bridge.deliver readChunk
    dsimp only
    split
    · exact hleave
    · exact hleave
  | finish =>
    have hended : b.Serves h (b'.withRegistry (b'.registry.exhaust h e)) :=
      (ht.trans (.exhaust b' h e)).serves (b'.registry.exhaust_inactive h e)
    exact (hended.trans (.leaveLock _ h)).trans (.endReading _ h reading _)
  | failure message =>
    exact ((Serves.retire ht hl).trans (.leaveLock _ h)).trans (.endReading _ h reading _)

/-- The status of a reader changes, and nothing of its place among the live ones. -/
theorem LiveIfActive.modifyReader (hl : b.LiveIfActive h) {f : ReaderStatus → ReaderStatus}
    (hf : ∀ s : ReaderStatus, (f s).state = s.state) : (b.modifyReader h f).LiveIfActive h := by
  intro ha
  have hst := b.registry.reader_modify_keeps h (g := ReaderStatus.state)
    (hf (b.registry.reader h)) h
  exact hl (hst.symm.trans ha)

/-- A frame of data that was held back is taken. -/
theorem Serves.takeHeld {f : Frame} (hheld : (b.registry.reader h).held = some f)
    (hd : f.isData = true) : b.Serves h (b.modifyReader h fun s => { s with held := none }) := by
  refine ⟨.modifyReader b h _, fun ha => ?_, fun ha i _ hi => ?_⟩ <;>
    have hx := modifyReader_of_active ha <;> rw [hx] at ha ⊢
  · refine ⟨ha, rfl, rfl, rfl, [f], fun x hx => List.mem_singleton.1 hx ▸ hd, ?_⟩
    simp [ReaderStatus.contents, hheld]
  · exact .inl ⟨rfl, hi⟩

/-- The oldest frame in the channel, which is data, is taken, and the pump is told. -/
theorem Serves.takeOldest {f : Frame} {rest : List Frame}
    (hheld : (b.registry.reader h).held = none)
    (hrec : (b.registry.reader h).isReceiving = true)
    (hbuf : (b.registry.reader h).channel.buffer = f :: rest) (hd : f.isData = true) :
    b.Serves h ((b.modifyReader h fun s =>
      { s with channel := { s.channel with buffer := rest, roomWaiter := none } }).wakeAll
        (b.registry.reader h).channel.roomWaiter.toList) := by
  refine ⟨(Touches.modifyReader b h _).trans (.wakeAll _ _), fun ha => ?_, fun _ i hi hw => ?_⟩
  · rw [wakeAll_registry] at ha ⊢
    have hx := modifyReader_of_active ha
    rw [hx] at ha ⊢
    refine ⟨ha, rfl, rfl, rfl, [f], fun x hx => List.mem_singleton.1 hx ▸ hd, ?_⟩
    simp [ReaderStatus.contents, hheld, hrec, hbuf]
  · refine .inr (mem_ready_wakeAll ?_ hi)
    rw [hw]
    exact List.mem_singleton.2 rfl

theorem nextFrame_serves (hl : b.LiveIfActive h) (id : TaskId) (e : Reader) (reading : Reading) :
    b.Serves h (b.nextFrame id h e reading).2 := by
  unfold nextFrame
  dsimp only
  split
  -- a frame was held back
  · rename_i f hheld
    refine deliver_serves (.modifyReader b h _) ?_ e reading (.takeHeld hheld)
    exact hl.modifyReader fun _ => rfl
  · rename_i hheld
    split
    · refine deliver_serves (.refl h b) hl e reading fun hd => ?_
      cases hd
    · rename_i hrec
      have hrec : (b.registry.reader h).isReceiving = true := by simpa using hrec
      split
      · exact .readClosed b h reading
      · split
        -- the oldest frame in the channel is taken, and the pump is told
        · rename_i f rest hbuf
          refine deliver_serves ((Touches.modifyReader b h _).trans (.wakeAll _ _)) ?_ e reading
            (.takeOldest hheld hrec hbuf)
          unfold LiveIfActive
          rw [wakeAll_registry]
          exact hl.modifyReader fun _ => rfl
        · split
          · exact .modifyReader b h fun s =>
              ⟨fun ha => ⟨ha, rfl, rfl, rfl, [], List.forall_mem_nil _, rfl⟩, rfl, rfl, rfl⟩
          · exact .readClosed b h reading

theorem takeFrames_touches (b : Bridge) (h : ReaderHandle) (held : Option Frame)
    (rest : List Frame) : b.Touches h (b.takeFrames h held rest) :=
  (Touches.modifyReader b h _).trans (.wakeAll _ _)

theorem LiveIfActive.takeFrames (hl : b.LiveIfActive h) (held : Option Frame)
    (rest : List Frame) : (b.takeFrames h held rest).LiveIfActive h := by
  unfold Bridge.takeFrames LiveIfActive
  dsimp only
  rw [wakeAll_registry]
  exact hl.modifyReader fun _ => rfl

/-- Data is taken off the reader, and what is behind it stays. -/
theorem takeFrames_serves {held : Option Frame} {rest fs : List Frame}
    (hrec : (b.registry.reader h).state = .active → (b.registry.reader h).isReceiving = true)
    (hfs : ∀ f ∈ fs, f.isData = true)
    (hc : (b.registry.reader h).contents = fs ++ (held.toList ++ rest))
    (hlen : rest.length < (b.registry.reader h).channel.buffer.length ∨
      rest = (b.registry.reader h).channel.buffer) :
    b.Serves h (b.takeFrames h held rest) := by
  refine ⟨b.takeFrames_touches h held rest, fun ha => ?_, fun ha i ht hi => ?_⟩
  · unfold takeFrames at ha ⊢
    dsimp only at ha ⊢
    rw [wakeAll_registry] at ha ⊢
    have hx := modifyReader_of_active ha
    rw [hx] at ha ⊢
    refine ⟨ha, rfl, rfl, rfl, fs, hfs, ?_⟩
    rw [hc]
    simp [ReaderStatus.contents, hrec ha]
  · unfold takeFrames at ha ⊢
    dsimp only at ha ⊢
    rw [wakeAll_registry] at ha ⊢
    rcases hlen with hlen | hlen
    · refine .inr (mem_ready_wakeAll ?_ ht)
      rw [if_pos hlen, hi]
      exact List.mem_singleton.2 rfl
    -- nothing was taken off the channel
    · rw [modifyReader_of_active ha]
      simp [hlen, hi]

/-- A list is its data, and what follows that. -/
theorem takeRun_split (l : List Frame) : ∃ fs : List Frame, (∀ f ∈ fs, f.isData = true) ∧
    l = fs ++ (Channel.takeRun l).2 ∧ bytesOf fs = (Channel.takeRun l).1 := by
  induction l with
  | nil => exact ⟨[], nofun, rfl, rfl⟩
  | cons f l ih =>
    obtain ⟨fs, hfs, hl, hb⟩ := ih
    cases f with
    | data c =>
      refine ⟨.data c :: fs, fun g hg => ?_, ?_, ?_⟩
      · rcases List.mem_cons.1 hg with rfl | hg
        · rfl
        · exact hfs g hg
      · exact congrArg (Frame.data c :: ·) hl
      · exact congrArg (c :: ·) hb
    | finish => exact ⟨[], nofun, rfl, rfl⟩
    | failure message => exact ⟨[], nofun, rfl, rfl⟩

theorem takeAvailable_serves (hl : b.LiveIfActive h)
    (hrec : (b.registry.reader h).state = .active → (b.registry.reader h).isReceiving = true)
    (id : TaskId) (e : Reader) : b.Serves h (b.takeAvailable id h e).2 := by
  obtain ⟨fs, hfs, hc, hbytes⟩ := takeRun_split (b.registry.reader h).contents
  -- no more can be behind the data than is in the channel
  have hlen := (b.registry.reader h).contents_length_le
  have hcount := congrArg List.length hc
  rw [List.length_append] at hcount
  have hchunks : (Channel.takeRun (b.registry.reader h).contents).1 ≠ [] → 0 < fs.length := by
    intro hne
    refine List.length_pos_iff.2 ?_
    rintro rfl
    exact hne hbytes.symm
  unfold takeAvailable
  dsimp only
  split
  · rename_i rest hrun
    have hended : b.Serves h ((b.takeFrames h none rest).withRegistry
        ((b.takeFrames h none rest).registry.exhaust h e)) :=
      ((b.takeFrames_touches h none rest).trans (.exhaust _ h e)).serves
        (Registry.exhaust_inactive _ h e)
    exact hended.trans (.leaveLock _ h)
  · rename_i message rest hrun
    rw [hrun] at hc hcount
    split
    · exact (Serves.retire (b.takeFrames_touches h none rest) (hl.takeFrames none rest)).trans
        (.leaveLock _ h)
    · rename_i hne
      have hpos := hchunks hne
      rw [List.length_cons] at hcount
      refine (takeFrames_serves hrec hfs hc (.inl ?_)).trans (.leaveLock _ h)
      omega
  · split
    · exact nextFrame_serves hl id e .available
    · rename_i hfinish hfailure hne
      have hpos := hchunks hne
      have hnil : (Channel.takeRun (b.registry.reader h).contents).2 = [] := by
        cases hrun : (Channel.takeRun (b.registry.reader h).contents).2 with
        | nil => rfl
        | cons f rest =>
          cases f with
          | data c => exact absurd hrun (takeRun_rest _ c rest)
          | finish => exact absurd hrun (hfinish rest)
          | failure message => exact absurd hrun (hfailure message rest)
      rw [hnil] at hc ⊢
      refine (takeFrames_serves hrec hfs hc ?_).trans (.leaveLock _ h)
      cases hbuf : (b.registry.reader h).channel.buffer with
      | nil => exact .inr rfl
      | cons f rest => exact .inl (Nat.succ_pos _)

/-! ## The lock -/

theorem readLocked_serves (hl : b.LiveIfActive h)
    (hrec : (b.registry.reader h).state = .active → (b.registry.reader h).isReceiving = true)
    (id : TaskId) (e : Reader) (reading : Reading) :
    b.Serves h (b.readLocked id h e reading).2 := by
  unfold readLocked
  dsimp only
  split
  · split
    · exact (Serves.leaveLock b h).trans (.endReading _ h _ _)
    · exact .readClosed b h _
    · exact takeAvailable_serves hl hrec id e
    · exact nextFrame_serves hl id e _
  · exact .refl h b

theorem read_serves (hl : b.LiveIfActive h)
    (hrec : (b.registry.reader h).state = .active → (b.registry.reader h).isReceiving = true)
    (id : TaskId) (reading : Reading) : b.Serves h (b.read id h reading).2 := by
  unfold read
  split
  · exact .endReading b h reading _
  · split
    · exact .endReading b h reading _
    · exact .endReading b h reading _
    · split
      · exact .endReading b h reading _
      · rename_i e _ _
        set b₁ := b.modifyReader h fun s => { s with lock := s.lock.enter id } with hb₁
        have hentered : b.Serves h b₁ := .modifyReader b h fun s =>
          ⟨fun ha => ⟨ha, rfl, rfl, rfl, [], nofun, rfl⟩, rfl, rfl, rfl⟩
        have hlive : b₁.LiveIfActive h := hl.modifyReader fun _ => rfl
        refine hentered.trans (readLocked_serves hlive (fun ha => ?_) id e reading)
        have hleft := hentered.left ha
        rw [hleft.isReceiving]
        exact hrec hleft.active

/-! ## Turns -/

/-- A well-formed bridge knows its active readers. -/
theorem liveIfActive {me : Option TaskId} {inHand : Option Stream} (hb : BridgeOK b me inHand)
    (h : ReaderHandle) : b.LiveIfActive h := by
  intro ha
  obtain ⟨e, he⟩ := (hb.registry.active h).1 ha
  rw [he]
  nofun

/-- **A turn of a reading** touches its reader, and leaves there what it does not take. -/
theorem turn_serves {stage : Stage} {me : Option TaskId} {inHand : Option Stream}
    (hb : BridgeOK b me inHand) (hr : stage.reading? = some (h, reading)) (id : TaskId) :
    b.Serves h (b.turn id stage).2 := by
  have hl := liveIfActive hb h
  have hrec := hb.receiving h
  cases stage with
  | fresh c =>
    cases c with
    | read x reading' =>
      obtain ⟨rfl, rfl⟩ : x = h ∧ reading' = reading := by simpa [Stage.reading?] using hr
      exact read_serves hl hrec id _
    | _ => cases hr
  | awaitingTurn x e reading' =>
    obtain ⟨rfl, rfl⟩ : x = h ∧ reading' = reading := by simpa [Stage.reading?] using hr
    unfold turn
    dsimp only
    split
    · exact (Serves.giveUpLock b id x).trans (.endReading _ x _ _)
    · exact readLocked_serves hl hrec id e _
  | awaitingFrame x e reading' =>
    obtain ⟨rfl, rfl⟩ : x = h ∧ reading' = reading := by simpa [Stage.reading?] using hr
    unfold turn
    dsimp only
    split
    · exact .readClosed b x _
    · exact nextFrame_serves hl id e _
  | _ => cases hr

/-- **A reading that is given up** takes nothing. -/
theorem release_serves {stage : Stage} (hr : stage.reading? = some (h, reading)) (b : Bridge)
    (id : TaskId) : b.Serves h (b.release id stage) := by
  have hclose : ∀ (b₁ : Bridge) (reading : Reading), b.Serves h b₁ →
      b.Serves h (if reading.closesReader then b₁.closeReader h else b₁) := by
    intro b₁ reading hs
    split
    · exact hs.trans (.closeReader b₁ h)
    · exact hs
  cases stage with
  | fresh c =>
    cases c with
    | read x reading' =>
      obtain ⟨rfl, rfl⟩ : x = h ∧ reading' = reading := by simpa [Stage.reading?] using hr
      exact hclose b _ (.refl x b)
    | _ => cases hr
  | awaitingTurn x e reading' =>
    obtain ⟨rfl, rfl⟩ : x = h ∧ reading' = reading := by simpa [Stage.reading?] using hr
    exact hclose _ _ (.giveUpLock b id x)
  | awaitingFrame x e reading' =>
    obtain ⟨rfl, rfl⟩ : x = h ∧ reading' = reading := by simpa [Stage.reading?] using hr
    exact hclose _ _ (.giveUpLock b id x)
  | _ => cases hr

end Bridge

end QueryBridge
