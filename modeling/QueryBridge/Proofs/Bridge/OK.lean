import QueryBridge.Bridge.State
import QueryBridge.Proofs.Registry.Closing

/-!
# Well-formed bridges

What a task remembers of a resource stays true of it: whoever waits below a
resource knows a handle that was issued, and as long as the resource is live it
is the one that the task knows.

* `BridgeOK`: what every event keeps.
* `Bridge.Later`: what one bridge has of an earlier one.
* `Bridge.Aside`: two bridges that differ in nothing that this theory looks at.
-/

namespace QueryBridge

variable {r r' : Registry} {b b' b'' : Bridge}

/-! ## What a task remembers -/

/-- The handle was issued, and the connection is over this client while it is live. -/
def Registry.NamesConnection (r : Registry) (c : ConnectionHandle) (client : ClientId) : Prop :=
  r.connections.Issued c ∧ ∀ e, r.connections.get? c = some e → e.client = client

/-- The handle was issued, and the session is this one while it is live. -/
def Registry.NamesSession (r : Registry) (s : SessionHandle) (e : Session) : Prop :=
  r.sessions.Issued s ∧ ∀ e', r.sessions.get? s = some e' → e' = e

/-- The handle was issued, and the reader is this one while it is live. -/
def Registry.NamesReader (r : Registry) (h : ReaderHandle) (e : Reader) : Prop :=
  r.readers.Issued h ∧ ∀ e', r.readers.get? h = some e' → e' = e

theorem Registry.Later.namesConnection (hl : r.Later r') {c : ConnectionHandle} {client : ClientId}
    (h : r.NamesConnection c client) : r'.NamesConnection c client :=
  ⟨hl.connIssued h.1, fun e he => h.2 e (hl.connections c e h.1 he)⟩

theorem Registry.Later.namesSession (hl : r.Later r') {s : SessionHandle} {e : Session}
    (h : r.NamesSession s e) : r'.NamesSession s e :=
  ⟨hl.sessIssued h.1, fun e' he => h.2 e' (hl.sessions s e' h.1 he)⟩

theorem Registry.Later.namesReader (hl : r.Later r') {h : ReaderHandle} {e : Reader}
    (hn : r.NamesReader h e) : r'.NamesReader h e :=
  ⟨hl.readIssued hn.1, fun e' he => hn.2 e' (hl.readers h e' hn.1 he)⟩

/-- A live connection is named with its client. -/
theorem namesConnection_of_get? {c : ConnectionHandle} {e : Connection}
    (h : r.connections.get? c = some e) : r.NamesConnection c e.client :=
  ⟨HandleTable.issued_of_get? h, fun e' h' => by rw [h, Option.some.injEq] at h'; rw [h']⟩

theorem namesSession_of_get? {s : SessionHandle} {e : Session} (h : r.sessions.get? s = some e) :
    r.NamesSession s e :=
  ⟨HandleTable.issued_of_get? h, fun e' h' => by rw [h, Option.some.injEq] at h'; rw [h']⟩

theorem namesReader_of_get? {h : ReaderHandle} {e : Reader} (hg : r.readers.get? h = some e) :
    r.NamesReader h e :=
  ⟨HandleTable.issued_of_get? hg, fun e' h' => by rw [hg, Option.some.injEq] at h'; rw [h']⟩

/-- What a call that has come so far remembers. -/
def StageOK (b : Bridge) : Stage → Prop
  | .unanswered c => b.registry.connections.Issued c
  | .creating c client _ _ => b.registry.NamesConnection c client
  | .executing s e _ _ => b.registry.NamesSession s e
  | .awaitingTurn h e _ | .awaitingFrame h e _ => b.registry.NamesReader h e
  | .fresh _ | .connecting .. | .opening .. | .draining => True

/-- What a task remembers. -/
def TaskOK (b : Bridge) : Task → Prop
  | .call _ stage => StageOK b stage
  | .pump h e _ _ => b.registry.NamesReader h e
  | .payload _ | .farewell .. => True

/-! ## Streams and locks -/

/-- The feed of a live stream. -/
def Stream.feed? : Stream → Option Nat
  | .fixed _ => none
  | .live n => some n

/-- The stream that a task holds. -/
def Task.stream? : Task → Option Stream
  | .call _ (.executing _ _ stream _) | .pump _ _ stream _ => some stream
  | _ => none

/-- Whoever a call answers to, its stream is the same. -/
theorem Task.stream?_call (envelope : Option UInt64) (stage : Stage) :
    (Task.call envelope stage).stream? = (Task.call none stage).stream? := by
  cases stage <;> rfl

/-- The reader that a task brings frames to. -/
def Task.pumped? : Task → Option ReaderHandle
  | .pump h .. => some h
  | _ => none

/-- A call that waits for a frame holds the lock of the reader. -/
def HoldsLock (b : Bridge) (id : TaskId) : Task → Prop
  | .call _ (.awaitingFrame h _ _) => (b.registry.reader h).lock.holder = some id
  | _ => True

variable (b) in
/-- The feeds whose frames somebody will take: the streams of queries that have not been executed,
of tasks, and the one that the task whose turn it is has in hand. -/
def Bridge.openFeeds (me : Option TaskId) (inHand : Option Stream) : List Nat :=
  (b.service.queries.map Prod.snd ++
    (b.tasks.filter fun p => some p.1 ≠ me).filterMap (·.2.stream?) ++
    inHand.toList).filterMap Stream.feed?

/-- What every event keeps. While a task has its turn, nothing is said of the lock that it
holds, and of the stream in its hand instead of the one that it had. -/
structure BridgeOK (b : Bridge) (me : Option TaskId) (inHand : Option Stream) : Prop where
  registry : RegistryOK b.registry
  tasks : ∀ p ∈ b.tasks, TaskOK b p.2
  numbered : ∀ p ∈ b.tasks, p.1 < b.nextTask
  turn : ∀ id, me = some id → id < b.nextTask
  nodup : (b.tasks.map Prod.fst).Nodup
  pumps : (b.tasks.filterMap (·.2.pumped?)).Nodup
  receiving : ∀ h, (b.registry.reader h).state = .active →
    (b.registry.reader h).isReceiving = true
  locks : ∀ p ∈ b.tasks, some p.1 ≠ me → HoldsLock b p.1 p.2
  /-- No two have the same feed. -/
  feeds : (b.openFeeds me inHand).Nodup
  feedsExist : ∀ n ∈ b.openFeeds me inHand, n < b.service.feeds.length

/-! ## Bridges one after the other -/

/-- The second bridge comes after the first one. -/
structure Bridge.Later (b b' : Bridge) : Prop where
  config : b'.config = b.config
  registry : b.registry.Later b'.registry
  nextTask : b.nextTask ≤ b'.nextTask

namespace Bridge.Later

theorem refl (b : Bridge) : Later b b := ⟨rfl, .refl _, Nat.le_refl _⟩

theorem trans (h : Later b b') (h' : Later b' b'') : Later b b'' :=
  ⟨h'.config.trans h.config, h.registry.trans h'.registry, Nat.le_trans h.nextTask h'.nextTask⟩

theorem stageOK (h : Later b b') {stage : Stage} (hs : StageOK b stage) : StageOK b' stage := by
  cases stage with
  | unanswered c => exact h.registry.connIssued hs
  | creating c client id held => exact h.registry.namesConnection hs
  | executing s e stream held => exact h.registry.namesSession hs
  | awaitingTurn x e reading => exact h.registry.namesReader hs
  | awaitingFrame x e reading => exact h.registry.namesReader hs
  | fresh c => trivial
  | connecting url client held => trivial
  | opening url client held => trivial
  | draining => trivial

/-- **What a task remembers stays true.** -/
theorem taskOK (h : Later b b') {t : Task} (ht : TaskOK b t) : TaskOK b' t := by
  cases t with
  | payload text => trivial
  | call envelope stage => exact h.stageOK ht
  | pump x e stream inHand => exact h.registry.namesReader ht
  | farewell client held left => trivial

end Bridge.Later

/-- The second bridge has the tasks of the first one, and then new ones. -/
def Bridge.Spawned (b b' : Bridge) : Prop :=
  ∃ new, b'.tasks = b.tasks ++ new ∧ ∀ p ∈ new, b.nextTask ≤ p.1

namespace Bridge.Spawned

theorem of_eq (h : b'.tasks = b.tasks) : Spawned b b' :=
  ⟨[], by rw [h, List.append_nil], fun _ h => absurd h List.not_mem_nil⟩

theorem trans (h : Spawned b b') (h' : Spawned b' b'') (hl : b.Later b') : Spawned b b'' := by
  obtain ⟨new, ht, hn⟩ := h
  obtain ⟨new', ht', hn'⟩ := h'
  refine ⟨new ++ new', by rw [ht', ht, List.append_assoc], fun p hp => ?_⟩
  rcases List.mem_append.1 hp with hp | hp
  · exact hn p hp
  · exact Nat.le_trans hl.nextTask (hn' p hp)

theorem subset (h : Spawned b b') : b.tasks ⊆ b'.tasks := by
  obtain ⟨new, ht, -⟩ := h
  rw [ht]
  exact List.subset_append_left _ _

/-- A number that was given out before is not the number of a new task. -/
theorem not_mem (h : Spawned b b') {id : TaskId} (hid : id < b.nextTask)
    (hn : ∀ p ∈ b.tasks, p.1 ≠ id) : ∀ p ∈ b'.tasks, p.1 ≠ id := by
  obtain ⟨new, ht, hge⟩ := h
  intro p hp
  rw [ht] at hp
  rcases List.mem_append.1 hp with hp | hp
  · exact hn p hp
  · exact fun he => Nat.lt_irrefl id (Nat.lt_of_lt_of_le hid (he ▸ hge p hp))

end Bridge.Spawned

/-! ## Bridges that do not differ -/

/-- A feed, whoever waits for it. -/
def Feed.content (f : Feed) : Feed := { f with waiter := none }

/-- Only the queue, the tracker, the runtime and what the service knows apart from frames has
changed. -/
structure Bridge.Aside (b b' : Bridge) : Prop where
  config : b'.config = b.config
  registry : b'.registry = b.registry
  tasks : b'.tasks = b.tasks
  nextTask : b'.nextTask = b.nextTask
  queries : b'.service.queries = b.service.queries
  feeds : b'.service.feeds.map Feed.content = b.service.feeds.map Feed.content

namespace Bridge

namespace Aside

theorem refl (b : Bridge) : Aside b b := ⟨rfl, rfl, rfl, rfl, rfl, rfl⟩

theorem trans (h : Aside b b') (h' : Aside b' b'') : Aside b b'' :=
  ⟨h'.config.trans h.config, h'.registry.trans h.registry, h'.tasks.trans h.tasks,
    h'.nextTask.trans h.nextTask, h'.queries.trans h.queries, h'.feeds.trans h.feeds⟩

theorem symm (h : Aside b b') : Aside b' b :=
  ⟨h.config.symm, h.registry.symm, h.tasks.symm, h.nextTask.symm, h.queries.symm, h.feeds.symm⟩

/-- What changes on the side changes so with any registry. -/
theorem withRegistry (h : Aside b b') (r : Registry) :
    (b.withRegistry r).Aside (b'.withRegistry r) := { h with registry := rfl }

theorem later (h : Aside b b') : b.Later b' :=
  ⟨h.config, h.registry ▸ .refl _, Nat.le_of_eq h.nextTask.symm⟩

theorem task? (h : Aside b b') (id : TaskId) : b'.task? id = b.task? id := by
  simp only [Bridge.task?, h.tasks]

theorem openFeeds (h : Aside b b') (me : Option TaskId) (inHand : Option Stream) :
    b'.openFeeds me inHand = b.openFeeds me inHand := by
  simp only [Bridge.openFeeds, h.queries, h.tasks]

theorem feeds_length (h : Aside b b') : b'.service.feeds.length = b.service.feeds.length := by
  simpa using congrArg List.length h.feeds

theorem ok (h : Aside b b') {me : Option TaskId} {inHand : Option Stream}
    (hb : BridgeOK b me inHand) : BridgeOK b' me inHand where
  registry := h.registry ▸ hb.registry
  tasks p hp := h.later.taskOK (hb.tasks p (h.tasks ▸ hp))
  numbered p hp := by rw [h.nextTask]; exact hb.numbered p (h.tasks ▸ hp)
  turn id hid := by rw [h.nextTask]; exact hb.turn id hid
  nodup := by rw [h.tasks]; exact hb.nodup
  pumps := by rw [h.tasks]; exact hb.pumps
  receiving x hx := by rw [h.registry] at hx ⊢; exact hb.receiving x hx
  locks p hp hme := by
    have := hb.locks p (h.tasks ▸ hp) hme
    unfold HoldsLock at this ⊢
    rwa [h.registry]
  feeds := by rw [h.openFeeds]; exact hb.feeds
  feedsExist n hn := by rw [h.feeds_length]; exact hb.feedsExist n (by rwa [h.openFeeds] at hn)

end Aside

/-! ## Waking -/

theorem wake_aside (b : Bridge) (id : TaskId) : b.Aside (b.wake id) := by
  unfold wake
  split
  · exact ⟨rfl, rfl, rfl, rfl, rfl, rfl⟩
  · exact .refl b

/-- A task goes on before any other. -/
theorem goOn_aside (b : Bridge) (id : TaskId) : b.Aside (b.goOn id) :=
  ⟨rfl, rfl, rfl, rfl, rfl, rfl⟩

/-- A task has its turn. -/
theorem takeTurn_aside (b : Bridge) (id : TaskId) : b.Aside (b.takeTurn id) :=
  ⟨rfl, rfl, rfl, rfl, rfl, rfl⟩

theorem wakeAll_aside (ids : List TaskId) (b : Bridge) : b.Aside (b.wakeAll ids) := by
  induction ids generalizing b with
  | nil => exact .refl b
  | cons id ids ih => exact (b.wake_aside id).trans (ih _)

theorem wakeWithin_aside (b : Bridge) (scope : Scope) : b.Aside (b.wakeWithin scope) :=
  b.wakeAll_aside _

/-- Waking tasks leaves the service alone. -/
@[simp] theorem wakeAll_service (ids : List TaskId) (b : Bridge) :
    (b.wakeAll ids).service = b.service := by
  induction ids generalizing b with
  | nil => rfl
  | cons id ids ih =>
    show ((b.wake id).wakeAll ids).service = _
    rw [ih]
    unfold wake
    split <;> rfl

@[simp] theorem wakeAll_registry (ids : List TaskId) (b : Bridge) :
    (b.wakeAll ids).registry = b.registry := (b.wakeAll_aside ids).registry

/-! ## Tasks by their numbers -/

theorem mem_of_task? {id : TaskId} {t : Task} (h : b.task? id = some t) : (id, t) ∈ b.tasks := by
  obtain ⟨l₁, l₂, hl, -⟩ := List.lookup_eq_some_iff.1 h
  rw [hl]
  simp

theorem task?_of_mem (hn : (b.tasks.map Prod.fst).Nodup) {id : TaskId} {t : Task}
    (h : (id, t) ∈ b.tasks) : b.task? id = some t := by
  unfold task?
  generalize b.tasks = l at h hn ⊢
  induction l with
  | nil => simp at h
  | cons p l ih =>
    obtain ⟨i, t'⟩ := p
    rw [List.map_cons, List.nodup_cons] at hn
    rcases List.mem_cons.1 h with h | h
    · obtain ⟨rfl, rfl⟩ := Prod.mk.inj h
      simp
    · have hne : (id == i) = false :=
        beq_eq_false_iff_ne.2 fun he => hn.1 (List.mem_map.2 ⟨_, h, he⟩)
      rw [List.lookup_cons, hne]
      exact ih h hn.2

end Bridge

namespace BridgeOK

variable {me : Option TaskId} {inHand : Option Stream}

theorem task (hb : BridgeOK b me inHand) {id : TaskId} {t : Task} (h : b.task? id = some t) :
    TaskOK b t := hb.tasks _ (Bridge.mem_of_task? h)

theorem lt_nextTask (hb : BridgeOK b me inHand) {id : TaskId} {t : Task}
    (h : b.task? id = some t) : id < b.nextTask := hb.numbered _ (Bridge.mem_of_task? h)

/-- A pump brings frames to a reader whose handle was issued. -/
theorem pump_issued (hb : BridgeOK b me inHand) {p : TaskId × Task} (hp : p ∈ b.tasks)
    {h : ReaderHandle} (hh : p.2.pumped? = some h) : b.registry.readers.Issued h := by
  have ht := hb.tasks p hp
  obtain ⟨id, t⟩ := p
  cases t <;> simp only [Task.pumped?, reduceCtorEq, Option.some.injEq] at hh
  subst hh
  exact ht.1

end BridgeOK

/-- The bridge before the first call, over a service that has planned nothing. -/
theorem bridgeOK_new (sessionIds : List String) (hangs : Bool) (config : BridgeConfig)
    (hasRuntime : Bool) :
    BridgeOK (.new { sessionIds, hangsCreateSession := hangs } config hasRuntime) none none := by
  have hh : ∀ h, ({} : Registry).reader h = default := fun _ => rfl
  refine ⟨registryOK_empty, ?_, ?_, ?_, ?_, ?_, ?_, ?_, ?_, ?_⟩ <;>
    simp [Bridge.new, Bridge.openFeeds, hh, default]

end QueryBridge
