import Mathlib.Data.List.Basic
import QueryBridge.Registry
import QueryBridge.Tracker

/-!
# Other numbers for the tasks

The service, the tracker and the channels know tasks by their numbers, and do
nothing with these but keep them, compare them and give them back. So whatever
they do, they do under other numbers as well.

* `Turnstile.rename`, `ReaderStatus.rename`, `Tracker.rename`, `Service.rename`.
* `Service.Below` and others: only tasks with numbers below some number are known.
-/

namespace QueryBridge

variable (f : TaskId → TaskId)

/-- No two tasks get the same number, and the tasks below some number keep theirs. -/
structure Keeps (f : TaskId → TaskId) (n : TaskId) : Prop where
  injective : f.Injective
  keeps : ∀ id, id < n → f id = id

theorem Keeps.mono {f : TaskId → TaskId} {n m : TaskId} (h : Keeps f m) (hn : n ≤ m) :
    Keeps f n := ⟨h.injective, fun id hid => h.keeps id (Nat.lt_of_lt_of_le hid hn)⟩

/-! ## Lists of pairs -/

/-- What is looked up may be changed before or afterwards. -/
theorem lookup_map_snd {κ α β : Type} [BEq κ] (F : α → β) (l : List (κ × α)) (k : κ) :
    (l.map fun p => (p.1, F p.2)).lookup k = (l.lookup k).map F := by
  induction l with
  | nil => rfl
  | cons p ps ih =>
    obtain ⟨i, a⟩ := p
    rw [List.map_cons, List.lookup_cons, List.lookup_cons, ih]
    cases k == i <;> rfl

theorem contains_map {f : TaskId → TaskId} (hf : f.Injective) (l : List TaskId) (id : TaskId) :
    (l.map f).contains (f id) = l.contains id := by
  simp only [List.contains_eq_mem, List.mem_map_of_injective hf]

/-! ## Channels -/

namespace Turnstile

/-- The lock, if the tasks had other numbers. -/
def rename (t : Turnstile) : Turnstile := ⟨t.holder.map f, t.queue.map f⟩

variable (t : Turnstile) (id : TaskId)

theorem rename_enter : (t.rename f).enter (f id) = (t.enter id).rename f := by
  obtain ⟨holder, queue⟩ := t
  cases holder with
  | none => rfl
  | some x => simp [enter, rename]

theorem rename_leave : (t.rename f).leave = t.leave.rename f := by
  simp [leave, rename, List.map_tail]

theorem rename_forget {f : TaskId → TaskId} (hf : f.Injective) :
    (t.rename f).forget (f id) = (t.forget id).rename f := by
  simp [forget, rename, List.map_erase hf]

end Turnstile

/-- The channel, if the tasks had other numbers. -/
def Channel.rename (c : Channel) : Channel :=
  { c with roomWaiter := c.roomWaiter.map f, frameWaiter := c.frameWaiter.map f }

/-! ## Statuses of readers -/

namespace ReaderStatus

/-- The status of a reader, if the tasks had other numbers. -/
def rename (s : ReaderStatus) : ReaderStatus :=
  { s with lock := s.lock.rename f, channel := s.channel.rename f }

/-- Nobody but tasks with numbers below some number waits at the reader. -/
def Below (n : TaskId) (s : ReaderStatus) : Prop := ∀ f, Keeps f n → s.rename f = s

/-- Nobody waits at the reader. -/
def Idle (s : ReaderStatus) : Prop := ∀ f, s.rename f = s

variable {f} {s : ReaderStatus} {n m : TaskId}

theorem Below.mono (h : s.Below n) (hn : n ≤ m) : s.Below m := fun f hf => h f (hf.mono hn)

theorem Idle.below (h : s.Idle) : s.Below n := fun f _ => h f

/-- Nobody has the lock where nobody waits. -/
theorem Idle.lock (h : s.Idle) : s.lock = ⟨none, []⟩ := by
  have hzero : s.lock.rename (fun _ => 0) = s.lock := congrArg ReaderStatus.lock (h _)
  have hone : s.lock.rename (fun _ => 1) = s.lock := congrArg ReaderStatus.lock (h _)
  have hsame := hzero.trans hone.symm
  cases hlock : s.lock with
  | mk holder queue =>
    rw [hlock] at hsame
    obtain ⟨hholder, hqueue⟩ := Turnstile.mk.inj hsame
    cases holder with
    | some i => cases Option.some.inj hholder
    | none =>
      cases queue with
      | nil => rfl
      | cons i queue => cases (List.cons.inj hqueue).1

theorem idle_default : Idle default := fun _ => rfl

/-- A change that has nothing to do with tasks. -/
theorem Below.of_comm (h : s.Below n) {F : ReaderStatus → ReaderStatus}
    (hF : ∀ f, (F s).rename f = F (s.rename f)) : (F s).Below n := fun f hf => by
  rw [hF, h f hf]

/-- A task waits for a frame. -/
theorem Below.awaitFrame {id : TaskId} (h : s.Below n) (hid : id < n) :
    ReaderStatus.Below n { s with channel := { s.channel with frameWaiter := some id } } :=
  fun f hf => by
    have hs := congrArg (fun s : ReaderStatus =>
      { s with channel := { s.channel with frameWaiter := some id } }) (h f hf)
    simpa only [rename, Channel.rename, Option.map_some, hf.keeps id hid] using hs

/-- A task waits for room. -/
theorem Below.awaitRoom {id : TaskId} (h : s.Below n) (hid : id < n) :
    ReaderStatus.Below n { s with channel := { s.channel with roomWaiter := some id } } :=
  fun f hf => by
    have hs := congrArg (fun s : ReaderStatus =>
      { s with channel := { s.channel with roomWaiter := some id } }) (h f hf)
    simpa only [rename, Channel.rename, Option.map_some, hf.keeps id hid] using hs

end ReaderStatus

/-! ## The tracker -/

namespace Tracker

/-- The tracker, if the tasks had other numbers. -/
def rename (t : Tracker) : Tracker := { t with waiting := t.waiting.map f }

variable (t : Tracker)

theorem rename_finished :
    (t.rename f).finished = (t.finished.1.map f, t.finished.2.rename f) := by
  unfold finished rename
  dsimp only
  split <;> rfl

theorem rename_shut : (t.rename f).shut = (t.shut.1.map f, t.shut.2.rename f) := by
  unfold shut rename
  dsimp only
  split <;> rfl

theorem rename_await (id : TaskId) : (t.rename f).await (f id) = (t.await id).rename f := by
  simp [await, rename]

variable {f t} in
theorem rename_forget (hf : f.Injective) (id : TaskId) :
    (t.rename f).forget (f id) = (t.forget id).rename f := by
  simp [forget, rename, List.map_erase hf]

/-- Nobody but tasks with numbers below some number waits. -/
def Below (n : TaskId) (t : Tracker) : Prop := ∀ f, Keeps f n → t.rename f = t

variable {t} {n m : TaskId}

namespace Below

theorem mono (h : t.Below n) (hn : n ≤ m) : t.Below m := fun f hf => h f (hf.mono hn)

theorem started (h : t.Below n) : t.started.Below n := fun f hf =>
  congrArg Tracker.started (h f hf)

theorem reopen (h : t.Below n) : t.reopen.Below n := fun f hf => congrArg Tracker.reopen (h f hf)

theorem finished (h : t.Below n) : t.finished.2.Below n := fun f hf => by
  have hr := congrArg Prod.snd (t.rename_finished f)
  rwa [h f hf, eq_comm] at hr

theorem shut (h : t.Below n) : t.shut.2.Below n := fun f hf => by
  have hr := congrArg Prod.snd (t.rename_shut f)
  rwa [h f hf, eq_comm] at hr

theorem await {id : TaskId} (h : t.Below n) (hid : id < n) : (t.await id).Below n := fun f hf => by
  rw [← rename_await, h f hf, hf.keeps id hid]

theorem forget {id : TaskId} (h : t.Below n) (hid : id < n) : (t.forget id).Below n :=
  fun f hf => by
    rw [← rename_forget hf.injective, h f hf, hf.keeps id hid]

end Below

end Tracker

/-! ## The service -/

/-- The gate, if the tasks had other numbers. -/
def Gate.rename (g : Gate) : Gate := { g with waiters := g.waiters.map f }

/-- The feed, if the tasks had other numbers. -/
def Feed.rename (x : Feed) : Feed := { x with waiter := x.waiter.map f }

namespace Service

/-- The service, if the tasks had other numbers. -/
def rename (s : Service) : Service :=
  { s with
    gates := s.gates.map fun p => (p.1, p.2.rename f)
    feeds := s.feeds.map (Feed.rename f) }

variable (s : Service)

theorem rename_nextSessionId :
    (s.rename f).nextSessionId = (s.nextSessionId.1, s.nextSessionId.2.rename f) := by
  obtain ⟨_, _, ids, _, _, _, _, _, _, _⟩ := s
  cases ids <;> rfl

theorem rename_takeStream (text : String) :
    (s.rename f).takeStream text = ((s.takeStream text).1, (s.takeStream text).2.rename f) := by
  unfold takeStream
  rw [show (s.rename f).queries = s.queries from rfl]
  cases takeKey? text s.queries <;> rfl

theorem rename_takeHooks (p : CallPoint) :
    (s.rename f).takeHooks p = ((s.takeHooks p).1, (s.takeHooks p).2.rename f) := by
  unfold takeHooks
  rw [show (s.rename f).hooks = s.hooks from rfl]
  cases takeKey? p s.hooks <;> rfl

/-! ### Gates -/

theorem rename_gate (name : String) : (s.rename f).gate name = (s.gate name).rename f := by
  unfold gate
  rw [show (s.rename f).gates = s.gates.map fun p => (p.1, p.2.rename f) from rfl, lookup_map_snd]
  cases s.gates.lookup name <;> rfl

theorem rename_setGate (name : String) (g : Gate) :
    (s.rename f).setGate name (g.rename f) = (s.setGate name g).rename f := by
  simp [setGate, rename, List.filter_map, Function.comp_def]

theorem rename_waitAt (name : String) (id : TaskId) :
    (s.rename f).waitAt name (f id) = (s.waitAt name id).rename f := by
  unfold waitAt
  rw [← rename_setGate, rename_gate]
  simp [Gate.rename]

theorem rename_release (name : String) :
    (s.rename f).release name = ((s.release name).1.map f, (s.release name).2.rename f) := by
  unfold release
  rw [rename_gate, ← rename_setGate]
  rfl

/-! ### Feeds -/

theorem rename_feeds (n : Nat) : (s.rename f).feeds[n]? = (s.feeds[n]?).map (Feed.rename f) :=
  List.getElem?_map

/-- Feeds are changed without a look at who waits. -/
theorem rename_modifyFeed (n : Nat) {G G' : Feed → Feed}
    (hG : ∀ x, G' (x.rename f) = (G x).rename f) :
    (s.rename f).modifyFeed n G' = (s.modifyFeed n G).rename f := by
  have hfeeds : (s.feeds.map (Feed.rename f)).modify n G' =
      (s.feeds.modify n G).map (Feed.rename f) := by
    refine List.ext_getElem? fun i => ?_
    simp only [List.getElem?_map, List.getElem?_modify, Option.map_map, Option.map_eq_map]
    congr 1
    funext x
    simp only [Function.comp]
    split
    · exact hG x
    · rfl
  simp [modifyFeed, rename, hfeeds]

theorem rename_newFeed : (s.rename f).newFeed = (s.newFeed.1, s.newFeed.2.rename f) := by
  simp [newFeed, rename, Feed.rename]

theorem rename_feed (n : Nat) (frame : Frame) :
    (s.rename f).feed n frame =
      ((s.feed n frame).1, (s.feed n frame).2.1.map f, (s.feed n frame).2.2.rename f) := by
  unfold feed
  rw [rename_feeds]
  cases s.feeds[n]? with
  | none => rfl
  | some x =>
    have hopen : ((x.rename f).isOpen && (x.rename f).isTaken) = (x.isOpen && x.isTaken) := rfl
    dsimp only [Option.map_some]
    rw [hopen]
    split
    · exact congrArg (fun v => (true, x.waiter.map f, v)) (s.rename_modifyFeed f n fun _ => rfl)
    · rfl

theorem rename_endFeed (n : Nat) :
    (s.rename f).endFeed n = ((s.endFeed n).1.map f, (s.endFeed n).2.rename f) := by
  have hwaiter : ((s.rename f).feeds[n]?).bind Feed.waiter =
      ((s.feeds[n]?).bind Feed.waiter).map f := by
    rw [rename_feeds]
    cases s.feeds[n]? <;> rfl
  exact Prod.ext hwaiter (s.rename_modifyFeed f n fun _ => rfl)

theorem rename_dropStream (stream : Stream) :
    (s.rename f).dropStream stream = (s.dropStream stream).rename f := by
  cases stream with
  | fixed frames => rfl
  | live n => exact s.rename_modifyFeed f n fun _ => rfl

theorem rename_awaitFrame (id : TaskId) (stream : Stream) :
    (s.rename f).awaitFrame (f id) stream = (s.awaitFrame id stream).rename f := by
  cases stream with
  | fixed frames => rfl
  | live n => exact s.rename_modifyFeed f n fun _ => rfl

theorem rename_nextFrame? (stream : Stream) :
    (s.rename f).nextFrame? stream =
      (s.nextFrame? stream).map fun p => (p.1, p.2.1, p.2.2.rename f) := by
  cases stream with
  | fixed frames => cases frames <;> rfl
  | live n =>
    simp only [nextFrame?]
    rw [rename_feeds]
    cases s.feeds[n]? with
    | none => rfl
    | some x =>
      dsimp only [Option.map_some, Feed.rename]
      split
      · rename_i frame rest _
        exact congrArg (fun v => some (frame, Stream.live n, v))
          (s.rename_modifyFeed f n fun _ => rfl)
      · split <;> rfl

/-! ### Who is known -/

/-- Nobody but tasks with numbers below some number waits. -/
def Below (n : TaskId) (s : Service) : Prop := ∀ f, Keeps f n → s.rename f = s

variable {s} {n m : TaskId}

namespace Below

theorem mono (h : s.Below n) (hn : n ≤ m) : s.Below m := fun f hf => h f (hf.mono hn)

/-- A change that knows of no task. -/
theorem of_comm {F : Service → Service} (h : s.Below n)
    (hF : ∀ f, F (s.rename f) = (F s).rename f) : (F s).Below n := fun f hf => by
  rw [← hF, h f hf]

theorem waitAt {id : TaskId} (h : s.Below n) (hid : id < n) (name : String) :
    (s.waitAt name id).Below n := fun f hf => by
  rw [← rename_waitAt, h f hf, hf.keeps id hid]

theorem awaitFrame {id : TaskId} (h : s.Below n) (hid : id < n) (stream : Stream) :
    (s.awaitFrame id stream).Below n := fun f hf => by
  rw [← rename_awaitFrame, h f hf, hf.keeps id hid]

theorem takeHooks (h : s.Below n) (p : CallPoint) : (s.takeHooks p).2.Below n :=
  h.of_comm (F := fun s => (s.takeHooks p).2) fun f => congrArg Prod.snd (s.rename_takeHooks f p)

theorem takeStream (h : s.Below n) (text : String) : (s.takeStream text).2.Below n :=
  h.of_comm (F := fun s => (s.takeStream text).2) fun f =>
    congrArg Prod.snd (s.rename_takeStream f text)

theorem nextSessionId (h : s.Below n) : s.nextSessionId.2.Below n :=
  h.of_comm (F := fun s => s.nextSessionId.2) fun f => congrArg Prod.snd (s.rename_nextSessionId f)

theorem newClient (h : s.Below n) : s.newClient.2.Below n :=
  h.of_comm (F := fun s => s.newClient.2) fun _ => rfl

theorem release (h : s.Below n) (name : String) : (s.release name).2.Below n :=
  h.of_comm (F := fun s => (s.release name).2) fun f => congrArg Prod.snd (s.rename_release f name)

theorem feed (h : s.Below n) (i : Nat) (frame : Frame) : (s.feed i frame).2.2.Below n :=
  h.of_comm (F := fun s => (s.feed i frame).2.2) fun f =>
    congrArg (·.2.2) (s.rename_feed f i frame)

theorem endFeed (h : s.Below n) (i : Nat) : (s.endFeed i).2.Below n :=
  h.of_comm (F := fun s => (s.endFeed i).2) fun f => congrArg Prod.snd (s.rename_endFeed f i)

theorem nextFrame? (h : s.Below n) {stream : Stream} {p : Frame × Stream × Service}
    (hp : s.nextFrame? stream = some p) : p.2.2.Below n := fun f hf => by
  have hr := s.rename_nextFrame? f stream
  rw [h f hf, hp] at hr
  exact (congrArg (·.2.2) (Option.some.inj hr)).symm

end Below

end Service

end QueryBridge
