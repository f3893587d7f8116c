import QueryBridge.Proofs.Bridge.Calls
import QueryBridge.Proofs.Bridge.Renaming

/-!
# One bridge in the place of another

Two bridges may differ in nothing but the numbers of their later tasks, the
place of the last frame of a reader, which is held back in the one and still in
the channel in the other, and one task, which takes the next chunk where the
other one takes all that are there. `Recast` says how they differ in this, and
`Registry.recast` and `Bridge.recast` make the second one of the first one.

* `Registry.recast_closeReader` and others: registries.
* `Registry.Parks`: a reader that has nothing in its channel.
* `Recast.Of`: the second bridge is the first one recast.
-/

namespace QueryBridge

/-! ## Readings -/

/-- A reading of the next chunk in the place of one of all that are there. -/
def Reading.single : Reading → Reading
  | .available => .next
  | .next => .next
  | .all taken => .all taken
  | .upTo limit taken => .upTo limit taken

/-- How far the call has come, if it reads the next chunk. -/
def Stage.single : Stage → Stage
  | .fresh (.read h reading) => .fresh (.read h reading.single)
  | .awaitingTurn h e reading => .awaitingTurn h e reading.single
  | .awaitingFrame h e reading => .awaitingFrame h e reading.single
  | stage => stage

/-- The task, if it reads the next chunk. -/
def Task.single : Task → Task
  | .call envelope stage => .call envelope stage.single
  | t => t

theorem Stage.single_scope? (stage : Stage) : stage.single.scope? = stage.scope? := by
  cases stage with
  | fresh c => cases c <;> rfl
  | _ => rfl

theorem Task.single_scope? (t : Task) : t.single.scope? = t.scope? := by
  cases t with
  | call envelope stage => exact stage.single_scope?
  | _ => rfl

/-! ## How bridges differ -/

/-- How a bridge differs from another one. -/
structure Recast where
  /-- The task that reads the next chunk in the one and all that are there in the other. -/
  reader : Option TaskId
  /-- The first task that has another number. -/
  first : TaskId
  /-- By how much the numbers are higher. -/
  extra : Nat
  /-- The reader whose last frame is in its channel and not held back. -/
  parked : Option ReaderHandle

namespace Recast

variable (g : Recast)

/-- The number of a task. -/
def id (i : TaskId) : TaskId := if i < g.first then i else i + g.extra

theorem id_injective : g.id.Injective := by
  have key : ∀ i j n d : Nat,
      (if i < n then i else i + d) = (if j < n then j else j + d) → i = j := by
    intro i j n d h
    split at h <;> split at h <;> omega
  exact fun i j => key i j g.first g.extra

theorem id_inj {i j : TaskId} : g.id i = g.id j ↔ i = j := g.id_injective.eq_iff

theorem id_succ {i : TaskId} (hi : g.first ≤ i) : g.id (i + 1) = g.id i + 1 := by
  unfold id
  rw [if_neg (Nat.not_lt.2 hi), if_neg (Nat.not_lt.2 (Nat.le_succ_of_le hi)), Nat.add_right_comm]

/-- A task. -/
def task (i : TaskId) (t : Task) : Task := if g.reader = some i then t.single else t

theorem task_scope? (i : TaskId) (t : Task) : (g.task i t).scope? = t.scope? := by
  unfold task
  split
  · exact t.single_scope?
  · rfl

end Recast

/-! ## Statuses -/

namespace ReaderStatus

/-- The status of a reader, if the frame held back were still in the channel. -/
def park (s : ReaderStatus) : ReaderStatus :=
  { s with held := none, channel := { s.channel with buffer := s.held.toList ++ s.channel.buffer } }

/-- Nothing is in the channel and nobody waits for room. Only what is not data is held back, and
only while frames are taken. -/
structure Parked (s : ReaderStatus) : Prop where
  buffer : s.channel.buffer = []
  roomWaiter : s.channel.roomWaiter = none
  held : ∀ f, s.held = some f → f.isTerminal = true ∧ s.isReceiving = true

end ReaderStatus

namespace Recast

variable (g : Recast) (h : ReaderHandle) (s : ReaderStatus)

/-- The status of a reader. -/
def status : ReaderStatus :=
  if g.parked = some h then (s.rename g.id).park else s.rename g.id

theorem status_of_parked (hp : g.parked = some h) : g.status h s = (s.rename g.id).park :=
  if_pos hp

theorem status_of_not_parked (hp : g.parked ≠ some h) : g.status h s = s.rename g.id := if_neg hp

@[simp] theorem status_state : (g.status h s).state = s.state := by
  unfold status; split <;> rfl

@[simp] theorem status_isCancelled : (g.status h s).isCancelled = s.isCancelled := by
  unfold status; split <;> rfl

@[simp] theorem status_isReceiving : (g.status h s).isReceiving = s.isReceiving := by
  unfold status; split <;> rfl

@[simp] theorem status_lock : (g.status h s).lock = s.lock.rename g.id := by
  unfold status; split <;> rfl

@[simp] theorem status_isFed : (g.status h s).channel.isFed = s.channel.isFed := by
  unfold status; split <;> rfl

@[simp] theorem status_roomWaiter :
    (g.status h s).channel.roomWaiter = s.channel.roomWaiter.map g.id := by
  unfold status; split <;> rfl

@[simp] theorem status_frameWaiter :
    (g.status h s).channel.frameWaiter = s.channel.frameWaiter.map g.id := by
  unfold status; split <;> rfl

theorem status_default : g.status h default = default := by
  unfold status; split <;> rfl

/-- What can be taken off a reader does not depend on where it is. -/
theorem status_contents (hp : g.parked = some h → s.Parked) :
    (g.status h s).contents = s.contents := by
  unfold status
  split
  · rename_i hg
    cases hheld : s.held with
    | none => simp [ReaderStatus.contents, ReaderStatus.park, ReaderStatus.rename, Channel.rename,
        hheld]
    | some f => simp [ReaderStatus.contents, ReaderStatus.park, ReaderStatus.rename,
        Channel.rename, hheld, ((hp hg).held f hheld).2, (hp hg).buffer]
  · rfl

end Recast

/-! ## Maps -/

namespace HandleMap

variable {kind : HandleKind} {α : Type}

/-- Changes every entry. -/
def mapEntries (F : Handle kind → α → α) (m : HandleMap kind α) : HandleMap kind α where
  entries := m.entries.map fun p => (p.1, F p.1 p.2)
  sorted := by
    rw [List.map_map]
    exact m.sorted

variable (F : Handle kind → α → α) (m : HandleMap kind α) (h : Handle kind)

theorem get?_mapEntries (x : Handle kind) :
    (m.mapEntries F).get? x = (m.get? x).map (F x) := by
  obtain ⟨l, hl⟩ := m
  simp only [get?, mapEntries]
  clear hl
  induction l with
  | nil => rfl
  | cons p rest ih =>
    obtain ⟨k, b⟩ := p
    rw [List.map_cons, List.lookup_cons, List.lookup_cons, ih]
    by_cases hk : x = k
    · simp [hk]
    · rw [beq_false_of_ne hk]

theorem mapEntries_insert (a : α) :
    (m.insert h a).mapEntries F = (m.mapEntries F).insert h (F h a) := by
  refine ext_get? fun x => ?_
  rw [get?_mapEntries, get?_insert, get?_insert, get?_mapEntries]
  split
  · rename_i hx
    rw [hx]
    rfl
  · rfl

theorem mapEntries_modify (G G' : α → α)
    (hG : ∀ a, m.get? h = some a → G' (F h a) = F h (G a)) :
    (m.mapEntries F).modify h G' = (m.modify h G).mapEntries F := by
  refine ext_get? fun x => ?_
  rw [get?_mapEntries, get?_modify, get?_modify, get?_mapEntries]
  split
  · rename_i hx
    subst hx
    cases hm : m.get? x with
    | none => rfl
    | some a => exact congrArg some (hG a hm)
  · rfl

end HandleMap

/-! ## Registries -/

namespace Registry

/-- The registry recast: only statuses of readers differ. -/
def recast (g : Recast) (r : Registry) : Registry :=
  { r with readerStatus := r.readerStatus.mapEntries g.status }

variable (g : Recast) (r : Registry)

@[simp] theorem recast_reader (h : ReaderHandle) :
    (r.recast g).reader h = g.status h (r.reader h) := by
  show ((r.readerStatus.mapEntries g.status).get? h).getD default = _
  rw [HandleMap.get?_mapEntries]
  unfold reader
  cases r.readerStatus.get? h with
  | none => exact (g.status_default h).symm
  | some s => rfl

@[simp] theorem recast_isCancelled (scope : Scope) :
    (r.recast g).isCancelled scope = r.isCancelled scope := by
  cases scope with
  | connection c => rfl
  | session c s => rfl
  | reader c s h =>
    simp only [isCancelled, recast_reader, Recast.status_isCancelled]
    rfl

/-- The status of one reader changes. -/
theorem recast_modifyReader {h : ReaderHandle} {F F' : ReaderStatus → ReaderStatus}
    (hF : F' (g.status h (r.reader h)) = g.status h (F (r.reader h))) :
    (r.recast g).modifyReader h F' = (r.modifyReader h F).recast g := by
  have hmap := HandleMap.mapEntries_modify g.status r.readerStatus h F F' fun a ha => by
    unfold reader at hF
    rwa [ha] at hF
  show { r with readerStatus := (r.readerStatus.mapEntries g.status).modify h F' } = _
  rw [hmap]
  rfl

/-! ### New resources -/

theorem recast_addConnection (e : Connection) :
    (r.recast g).addConnection e =
      (r.addConnection e).map fun p => (p.1, p.2.recast g) := by
  unfold addConnection
  rw [show (r.recast g).connections = r.connections from rfl]
  cases r.connections.allocate fun _ => e <;> rfl

theorem recast_addSession (e : Session) :
    (r.recast g).addSession e = (r.addSession e).map fun p => (p.1, p.2.recast g) := by
  unfold addSession
  rw [show (r.recast g).sessions = r.sessions from rfl]
  cases r.sessions.allocate fun _ => e <;> rfl

/-- Nobody waits at a new reader, and nothing is held back there. -/
theorem recast_addReader (e : Reader) {ch : Channel} (hr : ch.roomWaiter = none)
    (hf : ch.frameWaiter = none) :
    (r.recast g).addReader e ch = (r.addReader e ch).map fun p => (p.1, p.2.recast g) := by
  have hnew : ∀ h, g.status h ⟨.active, false, ⟨none, []⟩, ch, true, none⟩ =
      ⟨.active, false, ⟨none, []⟩, ch, true, none⟩ := by
    obtain ⟨capacity, buffer, isFed, room, frame⟩ := ch
    obtain rfl : room = none := hr
    obtain rfl : frame = none := hf
    intro h
    unfold Recast.status
    split <;> rfl
  unfold addReader
  rw [show (r.recast g).readers = r.readers from rfl]
  cases r.readers.allocate fun _ => e with
  | error f => rfl
  | ok p =>
    have hmap := HandleMap.mapEntries_insert g.status r.readerStatus p.1
      ⟨.active, false, ⟨none, []⟩, ch, true, none⟩
    rw [hnew] at hmap
    simp only [bind, Except.bind, pure, Except.pure, Except.map, recast, modifySession]
    rw [hmap]

/-! ### Closing -/

theorem recast_detachReader (h : ReaderHandle) :
    (r.recast g).detachReader h = (r.detachReader h).recast g := by
  unfold detachReader
  rw [show (r.recast g).readers = r.readers from rfl]
  cases r.readers.get? h with
  | none => rfl
  | some e =>
    refine recast_modifyReader g { r with readers := r.readers.release h } ?_
    unfold Recast.status
    split <;> rfl

theorem recast_closeReader (h : ReaderHandle) :
    (r.recast g).closeReader h = ((r.closeReader h).1, (r.closeReader h).2.recast g) := by
  unfold closeReader
  rw [recast_detachReader, show (r.recast g).readers = r.readers from rfl]
  cases r.readers.get? h with
  | none => rfl
  | some e =>
    dsimp only
    rw [show ((r.detachReader h).recast g).sessions = (r.detachReader h).sessions from rfl]
    cases (r.detachReader h).sessions.get? e.session <;> rfl

theorem recast_detachReaders (hs : List ReaderHandle) :
    hs.foldl detachReader (r.recast g) = (hs.foldl detachReader r).recast g := by
  induction hs generalizing r with
  | nil => rfl
  | cons h hs ih => rw [List.foldl_cons, List.foldl_cons, recast_detachReader, ih]

theorem recast_detachSession (s : SessionHandle) :
    (r.recast g).detachSession s = ((r.detachSession s).1, (r.detachSession s).2.recast g) := by
  unfold detachSession
  rw [show (r.recast g).sessions = r.sessions from rfl,
    show (r.recast g).session s = r.session s from rfl]
  cases r.sessions.get? s with
  | none => rfl
  | some e =>
    have hfold := recast_detachReaders g
      ({ r with sessions := r.sessions.release s }.modifySession s fun _ =>
        { isOpen := false, isCancelled := true, readers := [], exhausted := [] })
      (r.session s).readers
    dsimp only
    refine Prod.ext rfl ?_
    exact congrArg (fun r' : Registry => { r' with
      exhausted := (r.session s).exhausted.foldl HandleMap.erase r'.exhausted }) hfold

theorem recast_closeSession (s : SessionHandle) :
    (r.recast g).closeSession s = (r.closeSession s).map fun p => (p.1, p.2.recast g) := by
  unfold closeSession
  rw [recast_detachSession]
  cases hd : r.detachSession s with
  | mk e? r₁ =>
    cases e? with
    | none => rfl
    | some e =>
      dsimp only
      rw [show (r₁.recast g).connections = r₁.connections from rfl]
      cases r₁.connections.get? e.connection <;> rfl

theorem recast_detachSessions (ss : List SessionHandle) :
    (r.recast g).detachSessions ss =
      ((r.detachSessions ss).1, (r.detachSessions ss).2.recast g) := by
  induction ss generalizing r with
  | nil => rfl
  | cons s ss ih =>
    unfold detachSessions
    rw [recast_detachSession]
    dsimp only
    rw [ih]

theorem recast_closeConnection (c : ConnectionHandle) :
    (r.recast g).closeConnection c =
      (r.closeConnection c).map fun p => (p.1, p.2.1, p.2.2.recast g) := by
  unfold closeConnection
  rw [show (r.recast g).connections = r.connections from rfl]
  cases r.connections.get? c with
  | none => rfl
  | some e =>
    have hrest := recast_detachSessions g
      ({ r with connections := r.connections.release c }.modifyConnection c fun _ =>
        { isOpen := false, isCancelled := true, sessions := [] }) (r.connection c).sessions
    exact congrArg (fun p : List GlobalSessionId × Registry => Except.ok (e, p.1, p.2)) hrest

/-! ### The end of a stream -/

/-- A reader at the end of its stream has nothing left. -/
theorem recast_exhaust {h : ReaderHandle} (e : Reader)
    (hheld : g.parked = some h → (r.reader h).held = none) :
    (r.recast g).exhaust h e = (r.exhaust h e).recast g := by
  have hspent : spent (g.status h (r.reader h)) = g.status h (spent (r.reader h)) := by
    unfold Recast.status
    split
    · rename_i hp
      simp [spent, ReaderStatus.park, ReaderStatus.rename, Channel.rename, hheld hp]
    · rfl
  have hmodify : (r.recast g).modifyReader h spent = (r.modifyReader h spent).recast g :=
    recast_modifyReader g r hspent
  unfold exhaust
  dsimp only
  rw [recast_reader, Recast.status_state]
  change (if decide ((r.reader h).state = .active) && (r.sessions.get? e.session).isSome &&
      (r.session e.session).isOpen && (r.readers.get? h).isSome then _ else _) = _
  unfold spent at hmodify
  rw [hmodify]
  change _ = recast g (if decide ((r.reader h).state = .active) &&
      (r.sessions.get? e.session).isSome && (r.session e.session).isOpen &&
        (r.readers.get? h).isSome then _ else _)
  split <;> rfl

/-! ### Readers with nothing in their channels -/

/-- The reader was closed at most, or it is new and nobody waits at it. -/
def SparesReader (r r' : Registry) (h : ReaderHandle) : Prop :=
  r'.reader h = r.reader h ∨
    r'.reader h = { r.reader h with state := .closed, isCancelled := true } ∨
      ¬ r.readers.Issued h ∧ (r'.reader h).Idle

/-- Readers that were there are there, and closed at most. -/
def Spares (r r' : Registry) : Prop :=
  ∀ h, (r.readers.Issued h → r'.readers.Issued h) ∧ r.SparesReader r' h

/-- A reader that was registered and has nothing in its channel. -/
def Parks (r : Registry) (h : ReaderHandle) : Prop :=
  r.readers.Issued h ∧ (r.reader h).Parked

variable {r} {r' r'' : Registry}

theorem Parks.spared {h : ReaderHandle} (hp : r.Parks h) (hs : r.Spares r') : r'.Parks h := by
  obtain ⟨hi, hst⟩ := hp
  obtain ⟨hi', hst' | hst' | ⟨hnew, -⟩⟩ := hs h
  · exact ⟨hi' hi, hst' ▸ hst⟩
  · refine ⟨hi' hi, ?_⟩
    rw [hst']
    exact ⟨hst.buffer, hst.roomWaiter, hst.held⟩
  · exact absurd hi hnew

namespace Spares

/-- Nobody new waits at a reader. -/
theorem below (hs : r.Spares r') {n : TaskId} (hb : ∀ h, (r.reader h).Below n) (h : ReaderHandle) :
    (r'.reader h).Below n := by
  obtain ⟨-, hst | hst | ⟨-, hst⟩⟩ := hs h
  · exact hst ▸ hb h
  · rw [hst]
    exact (hb h).of_comm (F := fun s => { s with state := .closed, isCancelled := true })
      fun _ => rfl
  · exact hst.below

theorem of_eq (hi : ∀ h, r.readers.Issued h → r'.readers.Issued h)
    (hs : r'.readerStatus = r.readerStatus) : r.Spares r' := fun h =>
  ⟨hi h, .inl (by unfold reader; rw [hs])⟩

theorem refl (r : Registry) : r.Spares r := .of_eq (fun _ h => h) rfl

theorem trans (h : r.Spares r') (h' : r'.Spares r'') : r.Spares r'' := by
  intro x
  obtain ⟨hi, hs⟩ := h x
  obtain ⟨hi', hs'⟩ := h' x
  refine ⟨hi' ∘ hi, ?_⟩
  obtain hs' | hs' | ⟨hnew, hidle⟩ := hs'
  · unfold SparesReader
    rwa [hs']
  · obtain hs | hs | ⟨hnew, hidle⟩ := hs
    · exact .inr (.inl (by rw [hs', hs]))
    · exact .inr (.inl (by rw [hs', hs]))
    · refine .inr (.inr ⟨hnew, fun f => ?_⟩)
      rw [hs']
      exact congrArg (fun s : ReaderStatus => { s with state := .closed, isCancelled := true })
        (hidle f)
  · exact .inr (.inr ⟨hnew ∘ hi, hidle⟩)

variable (r)

theorem detachReader (h : ReaderHandle) : r.Spares (r.detachReader h) := by
  unfold Registry.detachReader
  cases r.readers.get? h with
  | none => exact .refl r
  | some e =>
    refine fun x => ⟨fun hx => hx, ?_⟩
    have hx := reader_modify_imp { r with readers := r.readers.release h } h
      (P := fun s => s = r.reader x ∨
        s = { r.reader x with state := .closed, isCancelled := true })
      (f := fun s => { s with state := .closed, isCancelled := true })
      (by rintro (hs | hs) <;> rw [hs] <;> exact .inr rfl) x (.inl rfl)
    exact hx.imp_right .inl

theorem detachReaders (hs : List ReaderHandle) : r.Spares (hs.foldl Registry.detachReader r) := by
  induction hs generalizing r with
  | nil => exact .refl r
  | cons h hs ih => exact (detachReader r h).trans (ih _)

theorem closeReader (h : ReaderHandle) : r.Spares (r.closeReader h).2 := by
  unfold Registry.closeReader
  cases r.readers.get? h with
  | none => exact .of_eq (fun _ h => h) rfl
  | some e =>
    dsimp only
    refine (detachReader r h).trans ?_
    split
    · exact .of_eq (fun _ h => h) rfl
    · exact .refl _

theorem detachSession (s : SessionHandle) : r.Spares (r.detachSession s).2 := by
  unfold Registry.detachSession
  cases r.sessions.get? s with
  | none => exact .refl r
  | some e =>
    have h₁ : r.Spares ({ r with sessions := r.sessions.release s }.modifySession s fun _ =>
      { isOpen := false, isCancelled := true, readers := [], exhausted := [] }) :=
      .of_eq (fun _ h => h) rfl
    exact (h₁.trans (detachReaders _ _)).trans (.of_eq (fun _ h => h) rfl)

theorem detachSessions (ss : List SessionHandle) : r.Spares (r.detachSessions ss).2 := by
  induction ss generalizing r with
  | nil => exact .refl r
  | cons s ss ih => exact (detachSession r s).trans (ih _)

variable {r}

theorem closeSession {s : SessionHandle} {e : Session} (h : r.closeSession s = .ok (e, r')) :
    r.Spares r' := by
  have hd := detachSession r s
  unfold Registry.closeSession at h
  split at h
  · cases h
  · rename_i e' r₁ hr₁
    rw [hr₁] at hd
    obtain ⟨rfl, rfl⟩ := Prod.mk.inj (Except.ok.inj h)
    refine hd.trans ?_
    split
    · exact .of_eq (fun _ h => h) rfl
    · exact .refl _

theorem closeConnection {c : ConnectionHandle} {p : Connection × List GlobalSessionId × Registry}
    (h : r.closeConnection c = .ok p) : r.Spares p.2.2 := by
  unfold Registry.closeConnection at h
  split at h
  · cases h
  · rename_i e he
    have h₁ : r.Spares ({ r with connections := r.connections.release c }.modifyConnection c
      fun _ => { isOpen := false, isCancelled := true, sessions := [] }) :=
      .of_eq (fun _ h => h) rfl
    obtain rfl := Except.ok.inj h
    exact h₁.trans (detachSessions _ _)

theorem addConnection {e : Connection} {c : ConnectionHandle}
    (h : r.addConnection e = .ok (c, r')) : r.Spares r' := by
  obtain ⟨t, -, rfl⟩ := addConnection_eq_ok h
  exact .of_eq (fun _ h => h) rfl

theorem addSession {e : Session} {s : SessionHandle} (h : r.addSession e = .ok (s, r')) :
    r.Spares r' := by
  obtain ⟨t, -, rfl⟩ := addSession_eq_ok h
  exact .of_eq (fun _ h => h) rfl

theorem addReader {e : Reader} {ch : Channel} {h : ReaderHandle} (hr : ch.roomWaiter = none)
    (hf : ch.frameWaiter = none) (ha : r.addReader e ch = .ok (h, r')) : r.Spares r' := by
  obtain ⟨t, hal, rfl⟩ := addReader_eq_ok ha
  refine fun x => ⟨fun hx => (HandleTable.issued_allocate hal x).2 (.inr hx), ?_⟩
  have hx : ((r.readerStatus.insert h ⟨.active, false, ⟨none, []⟩, ch, true, none⟩).get? x).getD
      default = if x = h then ⟨.active, false, ⟨none, []⟩, ch, true, none⟩ else r.reader x := by
    rw [HandleMap.get?_insert]
    split <;> rfl
  by_cases hxh : x = h
  · refine .inr (.inr ⟨fun hi => HandleTable.ne_of_issued hal hi hxh, fun f => ?_⟩)
    rw [if_pos hxh] at hx
    obtain ⟨capacity, buffer, isFed, room, frame⟩ := ch
    obtain rfl : room = none := hr
    obtain rfl : frame = none := hf
    exact (congrArg (ReaderStatus.rename f) hx).trans hx.symm
  · rw [if_neg hxh] at hx
    exact .inl hx

end Spares

end Registry

/-- Whether a resource is cancelled has nothing to do with who reads a reader, and how far. -/
theorem Bridge.modifyReader_isCancelled {b : Bridge} {h : ReaderHandle}
    {F : ReaderStatus → ReaderStatus}
    (hF : (F (b.registry.reader h)).isCancelled = (b.registry.reader h).isCancelled)
    (scope : Scope) :
    (b.modifyReader h F).registry.isCancelled scope = b.registry.isCancelled scope := by
  cases scope with
  | connection c => rfl
  | session c s => rfl
  | reader c s x =>
    have hx := b.registry.reader_modify_keeps h (g := ReaderStatus.isCancelled) hF x
    show (((b.registry.modifyReader h F).reader x).isCancelled || _ || _) = _
    rw [hx]
    rfl

end QueryBridge
