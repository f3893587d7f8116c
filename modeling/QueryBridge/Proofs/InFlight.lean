import QueryBridge.Proofs.Bridge.Calls
import QueryBridge.Proofs.Bridge.Courses

/-!
# Calls below a close

A call that waits below a resource ends with its next turn if the resource is
closed, whatever else it could go on with by then. So does one whose resource is
closed from inside of its own call on the service. Neither leaves anything behind.

* `turn_stays`: a call that waits remembers what it works on.
* `turn_below_cancelled`, `turn_cancelled`: the turn of a call below something cancelled.
* `turn_outlived`: the turn of a call that closes what it works on.
* `closed_below_fails`: both, in every run.
-/

namespace QueryBridge

variable {b b' b'' : Bridge} {id : TaskId} {r : Registry} {f : Failure} {stage : Stage}

/-! ## What a call works on -/

/-- How a call fails if the resource that it works on is closed meanwhile. -/
def Call.whenClosed? : Call → Option Failure
  | .createSession c => some (.resourceClosed .connection c)
  | .executeQuery s _ => some (.resourceClosed .session s)
  | .read h .next | .read h .available => some (.resourceClosed .reader h)
  | _ => none

def Stage.whenClosed? : Stage → Option Failure
  | .fresh c => c.whenClosed?
  | .unanswered c | .creating c .. => some (.resourceClosed .connection c)
  | .executing s .. => some (.resourceClosed .session s)
  | .awaitingTurn h _ reading | .awaitingFrame h _ reading => (Call.read h reading).whenClosed?
  | .connecting .. | .opening .. | .draining => none

/-- How a call that waits below a resource ends if that is cancelled. -/
def Stage.whenCancelled? : Stage → Option Outcome
  | .unanswered c | .creating c .. => some (.failed (.resourceClosed .connection c))
  | .executing s .. => some (.failed (.resourceClosed .session s))
  | .awaitingTurn h _ reading | .awaitingFrame h _ reading =>
    some (reading.outcome (.resourceClosed .reader h))
  | .fresh _ | .connecting .. | .opening .. | .draining => none

theorem Stage.whenCancelled?_of_closed {place : Scope} (hf : stage.whenClosed? = some f)
    (hp : stage.scope? = some place) : stage.whenCancelled? = some (.failed f) := by
  -- a reading of many chunks ends without a failure, so `hf` leaves the other two
  have hread : ∀ h reading, (Call.read h reading).whenClosed? = some f →
      reading.outcome (.resourceClosed .reader h) = .failed f := by
    intro h reading hf
    cases reading with
    | next => rw [← Option.some.inj hf]; rfl
    | available => rw [← Option.some.inj hf]; rfl
    | all taken => cases hf
    | upTo limit taken => cases hf
  cases stage with
  | unanswered c => rw [← Option.some.inj hf]; rfl
  | creating c client globalId held => rw [← Option.some.inj hf]; rfl
  | executing s e stream held => rw [← Option.some.inj hf]; rfl
  | awaitingTurn h e reading => exact congrArg some (hread h reading hf)
  | awaitingFrame h e reading => exact congrArg some (hread h reading hf)
  | fresh c => cases hp
  | connecting url client held => cases hp
  | opening url client held => cases hp
  | draining => cases hp

/-- The call of a task works on the same as long as it waits. -/
def Stays (f : Failure) (t : Bridge.Turn) : Prop :=
  ∀ s, t.1 = .waits s ∨ t.1 = .goesOn s → t.1 = .waits s ∧ s.whenClosed? = some f

theorem Stays.ends (o : Outcome) (b : Bridge) : Stays f (.ends o, b) := by
  rintro s (h | h) <;> cases h

theorem Stays.waits {s : Stage} (h : s.whenClosed? = some f) (b : Bridge) :
    Stays f (.waits s, b) := by
  rintro s' (hs | hs) <;> cases hs
  exact ⟨rfl, h⟩

namespace Bridge

theorem creating_stays (c : ConnectionHandle) (client : ClientId) (globalId : GlobalSessionId)
    (p : Course × Bridge) :
    Stays (.resourceClosed .connection c) (creating c client globalId p) := by
  obtain ⟨course, b⟩ := p
  cases course with
  | held held => exact .waits rfl b
  | refused message => exact .ends _ _
  | returned =>
    unfold creating adopt
    dsimp only
    split
    · split <;> exact .ends _ _
    · exact .ends _ _

theorem executing_stays (s : SessionHandle) (e : Session) (stream : Stream) (p : Course × Bridge) :
    Stays (.resourceClosed .session s) (executing s e stream p) := by
  obtain ⟨course, b⟩ := p
  cases course with
  | held held => exact .waits rfl b
  | refused message => exact .ends _ _
  | returned =>
    unfold executing attach
    dsimp only
    split
    · exact .ends _ _
    · split
      · split <;> exact .ends _ _
      · exact .ends _ _

theorem createSession_stays (b : Bridge) (id : TaskId) (c : ConnectionHandle) :
    Stays (.resourceClosed .connection c) (b.createSession id c) := by
  unfold createSession
  split
  · exact .ends _ _
  · split
    · exact .ends _ _
    · split
      · exact .ends _ _
      · split
        · exact .waits rfl _
        · exact creating_stays _ _ _ _

theorem executeQuery_stays (b : Bridge) (id : TaskId) (s : SessionHandle) (text : String) :
    Stays (.resourceClosed .session s) (b.executeQuery id s text) := by
  unfold executeQuery
  split
  · exact .ends _ _
  · split
    · exact .ends _ _
    · split
      · exact .ends _ _
      · split
        · exact .ends _ _
        · exact executing_stays _ _ _ _

/-- Only readings of more than one chunk go on after a chunk. -/
theorem deliver_stays {h : ReaderHandle} {reading : Reading}
    (hf : (Call.read h reading).whenClosed? = some f) (b : Bridge) (e : Reader) (fr : Frame) :
    Stays f (b.deliver h e reading fr) := by
  cases fr with
  | data c => cases reading <;> first | exact .ends _ _ | cases hf
  | finish => exact .ends _ _
  | failure message => exact .ends _ _

theorem nextFrame_stays {h : ReaderHandle} {reading : Reading}
    (hf : (Call.read h reading).whenClosed? = some f) (b : Bridge) (id : TaskId) (e : Reader) :
    Stays f (b.nextFrame id h e reading) := by
  unfold nextFrame
  dsimp only
  split
  · exact deliver_stays hf _ _ _
  · split
    · exact deliver_stays hf _ _ _
    · split
      · exact .ends _ _
      · split
        · exact deliver_stays hf _ _ _
        · split
          · exact .waits (s := .awaitingFrame h e reading) hf _
          · exact .ends _ _

theorem takeAvailable_stays (b : Bridge) (id : TaskId) (h : ReaderHandle) (e : Reader) :
    Stays (.resourceClosed .reader h) (b.takeAvailable id h e) := by
  unfold takeAvailable
  dsimp only
  split
  · exact .ends _ _
  · split <;> exact .ends _ _
  · split
    · exact nextFrame_stays rfl b id e
    · exact .ends _ _

theorem readLocked_stays {h : ReaderHandle} {reading : Reading}
    (hf : (Call.read h reading).whenClosed? = some f) (b : Bridge) (id : TaskId) (e : Reader) :
    Stays f (b.readLocked id h e reading) := by
  unfold readLocked
  dsimp only
  split
  · split
    · exact .ends _ _
    · exact .ends _ _
    · obtain rfl := Option.some.inj hf
      exact b.takeAvailable_stays id h e
    · exact nextFrame_stays hf b id e
  · exact .waits (s := .awaitingTurn h e reading) hf b

theorem read_stays {h : ReaderHandle} {reading : Reading}
    (hf : (Call.read h reading).whenClosed? = some f) (b : Bridge) (id : TaskId) :
    Stays f (b.read id h reading) := by
  unfold read
  split
  · exact .ends _ _
  · split
    · exact .ends _ _
    · exact .ends _ _
    · split
      · exact .ends _ _
      · exact readLocked_stays hf _ _ _

/-- **A call that does not end waits**, and it works on the same as before. -/
theorem turn_stays (b : Bridge) (id : TaskId) (hf : stage.whenClosed? = some f) :
    Stays f (b.turn id stage) := by
  cases stage with
  | fresh c =>
    cases c <;> simp only [Stage.whenClosed?, Call.whenClosed?, reduceCtorEq] at hf
    · obtain rfl := Option.some.inj hf
      exact b.createSession_stays id _
    · obtain rfl := Option.some.inj hf
      exact b.executeQuery_stays id _ _
    · exact read_stays hf b id
  | unanswered c =>
    unfold turn
    dsimp only
    split
    · exact .ends _ _
    · exact .waits hf b
  | creating c client globalId held =>
    obtain rfl := Option.some.inj hf
    unfold turn
    dsimp only
    split
    · exact .ends _ _
    · exact creating_stays _ _ _ _
  | executing s e stream held =>
    obtain rfl := Option.some.inj hf
    unfold turn
    dsimp only
    split
    · exact .ends _ _
    · exact executing_stays _ _ _ _
  | awaitingTurn h e reading =>
    unfold turn
    dsimp only
    split
    · exact .ends _ _
    · exact readLocked_stays hf b id e
  | awaitingFrame h e reading =>
    unfold turn
    dsimp only
    split
    · exact .ends _ _
    · exact nextFrame_stays hf b id e
  | connecting url client held => cases hf
  | opening url client held => cases hf
  | draining => cases hf

/-- **A call below something cancelled** ends with its next turn, and looks at
nothing else first. -/
theorem turn_below_cancelled {place : Scope} {o : Outcome} (b : Bridge) (id : TaskId)
    (ho : stage.whenCancelled? = some o) (hp : stage.scope? = some place)
    (hc : b.registry.isCancelled place = true) : (b.turn id stage).1 = .ends o := by
  cases stage <;> simp only [Stage.scope?, Option.some.injEq, reduceCtorEq] at hp <;> subst hp <;>
    obtain rfl := Option.some.inj ho <;> simp only [turn, hc, if_true] <;> rfl

/-- A call that works on a resource fails with its next turn below something cancelled. -/
theorem turn_cancelled {place : Scope} (b : Bridge) (id : TaskId)
    (hf : stage.whenClosed? = some f) (hp : stage.scope? = some place)
    (hc : b.registry.isCancelled place = true) : (b.turn id stage).1 = .ends (.failed f) := by
  have ho : stage.whenCancelled? = some (.failed f) := Stage.whenCancelled?_of_closed hf hp
  exact turn_below_cancelled b id ho hp hc

/-! ## Closes from inside of a call -/

end Bridge

/-- The call on the service that a call makes, or has made, is accepted and returns if the call
has a turn now. -/
def Service.Returns (s : Service) : Stage → Prop
  | .fresh (.createSession _) => s.refusal? .createSession = none ∧
    s.hangsCreateSession = false ∧ s.course (s.takeHooks .createSession).1 = .returned
  | .fresh (.executeQuery _ _) => s.refusal? .executeQuery = none ∧
    s.course (s.takeHooks .executeQuery).1 = .returned
  | .creating _ _ _ held | .executing _ _ _ held => s.courseOf held = .returned
  | _ => False

/-- The resource that a call creates something on is live. -/
def Registry.ParentLive (r : Registry) : Call → Prop
  | .createSession c => ∃ e, r.connections.get? c = some e
  | .executeQuery s _ => ∃ e, r.sessions.get? s = some e
  | _ => False

/-- Only a capacity that is too large is one that no channel can have. -/
theorem Channel.ofCapacity?_eq_none {n : Nat} :
    ofCapacity? (max n 1) = none ↔ maxCapacity < n := by
  have hm : maxCapacity = 2305843009213693951 := rfl
  unfold ofCapacity?
  split
  · simp only [reduceCtorEq, false_iff]
    omega
  · simp only [true_iff]
    omega

/-- How a call ends that was closed from inside of its own call on the service.
A query that no buffer can be made for breaks off. -/
def Bridge.whenOutlived (b : Bridge) (c : Call) (f : Failure) : Outcome :=
  match c with
  | .executeQuery .. =>
    if Channel.maxCapacity < b.config.chunkBuffer.toNat then .crashed else .failed f
  | _ => .failed f

/-- A live session can be worked on. -/
theorem RegistryOK.openSession_eq (hr : RegistryOK r) {s : SessionHandle} {e : Session}
    (he : r.sessions.get? s = some e) : r.openSession s = .ok e := by
  unfold Registry.openSession
  simp only [he, (hr.sessOpen s).2 ⟨e, he⟩, if_true]

/-- Two services with the same hooks and gates let a call come equally far. -/
theorem Service.course_takeHooks {s s' : Service} (hh : s'.hooks = s.hooks)
    (hg : s'.gates = s.gates) (p : CallPoint) :
    s'.course (s'.takeHooks p).1 = s.course (s.takeHooks p).1 := by
  have ht : (s'.takeHooks p).1 = (s.takeHooks p).1 := by
    unfold takeHooks
    rw [hh]
    split <;> rfl
  rw [ht]
  exact course_congr hg _

namespace Bridge

/-- A session is not registered on a connection that was closed. -/
theorem adopt_outlived (hb : BridgeOK b (some id) none) {c : ConnectionHandle} {client : ClientId}
    {globalId : GlobalSessionId}
    (hd : (b.adopt c client globalId).2.registry.connections.get? c = none) :
    (b.adopt c client globalId).1 = .ends (.failed (.resourceClosed .connection c)) := by
  unfold adopt at hd ⊢
  split
  · rename_i ho
    obtain ⟨e, he⟩ := (hb.registry.connOpen c).1 ho
    rw [if_pos ho] at hd
    split at hd
    · rename_i s r hr
      obtain ⟨t, -, rfl⟩ := addSession_eq_ok hr
      exact absurd he (by rw [show b.registry.connections.get? c = none from hd]; simp)
    · have : (b.sayFarewell client [.session globalId]).registry = b.registry := spawn_registry _ _
      simp only [fail, this, he, reduceCtorEq] at hd
  · rfl

theorem executing_returned {s : SessionHandle} {e : Session} {stream : Stream}
    {p : Course × Bridge} (hp : p.1 = .returned) :
    executing s e stream p = p.2.attach s e stream := by
  obtain ⟨course, b⟩ := p
  obtain rfl : course = .returned := hp
  rfl

/-- A reader is not registered on a session that was closed. -/
theorem attach_outlived {stream : Stream} (hb : BridgeOK b (some id) (some stream))
    {s : SessionHandle} {e : Session} (text : String)
    (hd : (b.attach s e stream).2.registry.sessions.get? s = none) :
    (b.attach s e stream).1 =
      .ends (b.whenOutlived (.executeQuery s text) (.resourceClosed .session s)) := by
  unfold attach at hd ⊢
  split
  · rename_i hch
    simp only [whenOutlived, if_pos (Channel.ofCapacity?_eq_none.1 hch)]
  · rename_i ch hch
    have hfits : ¬ Channel.maxCapacity < b.config.chunkBuffer.toNat := fun hlt => by
      rw [Channel.ofCapacity?_eq_none.2 hlt] at hch
      cases hch
    simp only [hch] at hd
    simp only [whenOutlived, if_neg hfits]
    split
    · rename_i ho
      obtain ⟨e', he'⟩ := (hb.registry.sessOpen s).1 ho
      rw [if_pos ho] at hd
      split at hd
      · rename_i h r hr
        obtain ⟨t, -, rfl⟩ := addReader_eq_ok hr
        rw [reply, spawnOn_registry] at hd
        exact absurd he' (by rw [show b.registry.sessions.get? s = none from hd]; simp)
      · exact absurd he' (by rw [show b.registry.sessions.get? s = none from hd]; simp)
    · rfl

theorem creating_outlived {c : ConnectionHandle} {client : ClientId} {globalId : GlobalSessionId}
    {p : Course × Bridge} (hp : p.1 = .returned) (hb : BridgeOK p.2 (some id) none)
    (hd : (creating c client globalId p).2.registry.connections.get? c = none) :
    (creating c client globalId p).1 = .ends (.failed (.resourceClosed .connection c)) := by
  obtain ⟨course, b⟩ := p
  obtain rfl : course = .returned := hp
  exact adopt_outlived hb hd

/-- The configuration alone decides it. -/
theorem whenOutlived_later (hl : b.Later b') (c : Call) (f : Failure) :
    b'.whenOutlived c f = b.whenOutlived c f := by
  cases c <;> simp only [whenOutlived, hl.config]

theorem createSession_outlived (hb : BridgeOK b (some id) none) {c : ConnectionHandle}
    {e : Connection} (he : b.registry.connections.get? c = some e)
    (hr : b.service.Returns (.fresh (.createSession c)))
    (hd : (b.createSession id c).2.registry.connections.get? c = none) :
    (b.createSession id c).1 = .ends (.failed (.resourceClosed .connection c)) := by
  obtain ⟨hrefuse, hhang, hcourse⟩ := hr
  have hopen : b.registry.openConnection c = .ok e := by
    unfold Registry.openConnection
    simp only [he, (hb.registry.connOpen c).2 ⟨e, he⟩, if_true]
  have hlive : b.registry.isCancelled (.connection c) = false := hb.registry.conn_not_cancelled he
  set b₁ := (b.call (some e.client) .createSession).2 with hb₁
  have hcall : b.call (some e.client) .createSession = (none, b₁) := Prod.ext hrefuse rfl
  have hhang' : b₁.service.hangsCreateSession = false := hhang
  have hmade : b.createSession id c = creating c e.client b₁.service.nextSessionId.1
      ((b₁.withService b₁.service.nextSessionId.2).passHooks id .createSession) := by
    unfold createSession
    simp only [hopen, hlive, hcall, hhang', Bool.false_eq_true, if_false]
  -- whatever the hooks close, the bridge is well formed when the call returns
  have hq : Quietly (some id) b none
      ((b₁.withService b₁.service.nextSessionId.2).passHooks id .createSession).2 none :=
    ((Quietly.of_aside (b.call_aside _ _)).trans (.of_aside b₁.nextSessionId_aside)).trans
      (passHooks_quietly _ id .createSession)
  rw [hmade] at hd ⊢
  refine creating_outlived ?_ (hq.ok hb) hd
  rw [passHooks_course, ← hcourse]
  refine Service.course_takeHooks ?_ ?_ _ <;>
    simp only [withService, Service.nextSessionId] <;> split <;> rfl

/-- A query that the service answers at once, on a session that was open before. -/
theorem executeQuery_attaches (hb : BridgeOK b (some id) none) (hrt : b.hasRuntime = true)
    {s : SessionHandle} {text : String} {e : Session} (he : b.registry.sessions.get? s = some e)
    (hr : b.service.Returns (.fresh (.executeQuery s text))) :
    ∃ b' stream, b.executeQuery id s text = b'.attach s e stream ∧
      Quietly (some id) b none b' (some stream) := by
  obtain ⟨hrefuse, hcourse⟩ := hr
  have hopen : b.registry.openSession s = .ok e := hb.registry.openSession_eq he
  have hlive : b.registry.isCancelled (e.scope s) = false := hb.registry.session_scope he
  set b₁ := (b.call (some e.client) (.executeQuery e.globalId text)).2
  have hcall : b.call (some e.client) (.executeQuery e.globalId text) = (none, b₁) :=
    Prod.ext hrefuse rfl
  set p := (b₁.withService (b₁.service.takeStream text).2).passHooks id .executeQuery with hp
  have hmade : b.executeQuery id s text = executing s e (b₁.service.takeStream text).1 p := by
    unfold executeQuery
    simp only [hopen, hrt, hlive, hcall, Bool.not_true, Bool.false_eq_true, if_false, hp]
  have hreturned : p.1 = .returned := by
    rw [hp, passHooks_course, ← hcourse]
    refine Service.course_takeHooks ?_ ?_ _ <;>
      simp only [withService, Service.takeStream] <;> split <;> rfl
  refine ⟨p.2, (b₁.service.takeStream text).1, ?_, ?_⟩
  · rw [hmade, executing_returned hreturned]
  · exact ((Quietly.of_aside (b.call_aside _ _)).trans (.of_move (.claimed text))).trans
      (passHooks_quietly _ id .executeQuery)

/-- A query that the service answers after a while, on a session that is open still. -/
theorem executing_attaches {s : SessionHandle} {e e' : Session} {stream : Stream}
    {held : Held} (hb : BridgeOK b (some id) (some stream))
    (hok : StageOK b (.executing s e' stream held)) (he : b.registry.sessions.get? s = some e)
    (hr : b.service.Returns (.executing s e' stream held)) :
    ∃ b', b.turn id (.executing s e' stream held) = b'.attach s e stream ∧
      Quietly (some id) b (some stream) b' (some stream) := by
  -- the session is live, so the call is not below anything cancelled
  obtain rfl := hok.2 e he
  have hlive : b.registry.isCancelled (e.scope s) = false := hb.registry.session_scope he
  refine ⟨(b.resume id held).2, ?_, b.resume_quietly id held⟩
  have hturn : b.turn id (.executing s e stream held) =
      executing s e stream (b.resume id held) := by
    unfold turn
    simp only [hlive, Bool.false_eq_true, if_false]
  rw [hturn, executing_returned ((b.resume_course id held).trans hr)]

/-- **A query that the service answers** on an open session comes to its reader. Whatever is
closed on the way, it registers nothing before. -/
theorem turn_attaches {s : SessionHandle} {e : Session}
    (hb : BridgeOK b (some id) (Task.call none stage).stream?) (hok : StageOK b stage)
    (hrt : ∀ text, stage = .fresh (.executeQuery s text) → b.hasRuntime = true)
    (hs : stage.whenClosed? = some (.resourceClosed .session s))
    (he : b.registry.sessions.get? s = some e) (hr : b.service.Returns stage) :
    ∃ b' stream, b.turn id stage = b'.attach s e stream ∧
      Quietly (some id) b (Task.call none stage).stream? b' (some stream) := by
  cases stage <;> try exact hr.elim
  case fresh c =>
    cases c <;> try exact hr.elim
    · simp [Stage.whenClosed?, Call.whenClosed?] at hs
    · obtain rfl : _ = s := by simpa [Stage.whenClosed?, Call.whenClosed?] using hs
      exact executeQuery_attaches hb (hrt _ rfl) he hr
  case creating c client globalId held => simp [Stage.whenClosed?] at hs
  case executing s' e' stream held =>
    obtain rfl : s' = s := by simpa [Stage.whenClosed?] using hs
    obtain ⟨b', hturn, hq⟩ := executing_attaches hb hok he hr
    exact ⟨b', stream, hturn, hq⟩

theorem executeQuery_outlived (hb : BridgeOK b (some id) none) {s : SessionHandle} {text : String}
    {e : Session} (he : b.registry.sessions.get? s = some e)
    (hr : b.service.Returns (.fresh (.executeQuery s text)))
    (hd : (b.executeQuery id s text).2.registry.sessions.get? s = none) :
    (b.executeQuery id s text).1 =
      .ends (b.whenOutlived (.executeQuery s text) (.resourceClosed .session s)) := by
  by_cases hrt : b.hasRuntime = true
  · obtain ⟨b', stream, hmade, hq⟩ := executeQuery_attaches hb hrt he hr
    rw [hmade] at hd ⊢
    rw [← whenOutlived_later (hq.later hb)]
    exact attach_outlived (hq.ok hb) text hd
  · -- without a runtime nothing is closed
    have hopen : b.registry.openSession s = .ok e := hb.registry.openSession_eq he
    have hsame : (b.executeQuery id s text).2 = b := by
      unfold executeQuery
      simp only [hopen, hrt, Bool.not_false, if_true]
      rfl
    rw [hsame, he] at hd
    cases hd

/-- **A call that closes what it works on** fails, although the service has
accepted it. Only a query that no buffer can be made for breaks off instead. -/
theorem turn_outlived {c : Call} (hb : BridgeOK b (some id) (Task.call none stage).stream?)
    (hok : StageOK b stage) (hs : stage.whenClosed? = some f) (hc : c.whenClosed? = some f)
    (hr : b.service.Returns stage) (hl : b.registry.ParentLive c)
    (hd : ¬ (b.turn id stage).2.registry.ParentLive c) :
    (b.turn id stage).1 = .ends (b.whenOutlived c f) := by
  -- only these two create something on a resource
  cases c <;> try exact hl.elim
  case createSession c =>
    obtain rfl := Option.some.inj hc
    have hd' : (b.turn id stage).2.registry.connections.get? c = none :=
      Option.eq_none_iff_forall_ne_some.2 fun e he => hd ⟨e, he⟩
    obtain ⟨e, he⟩ := hl
    show (b.turn id stage).1 = .ends (.failed (.resourceClosed .connection c))
    cases stage <;> try exact hr.elim
    case fresh c' =>
      cases c' <;> try exact hr.elim
      · obtain rfl : _ = c := by simpa [Stage.whenClosed?, Call.whenClosed?] using hs
        exact createSession_outlived hb he hr hd'
      · simp [Stage.whenClosed?, Call.whenClosed?] at hs
    case creating c' client globalId held =>
      obtain rfl : c' = c := by simpa [Stage.whenClosed?] using hs
      have hq : Quietly (some id) b none (b.resume id held).2 none := b.resume_quietly id held
      unfold turn at hd' ⊢
      dsimp only at hd' ⊢
      split
      · rfl
      · rename_i hcan
        rw [if_neg hcan] at hd'
        exact creating_outlived ((b.resume_course id held).trans hr) (hq.ok hb) hd'
    case executing s e' stream held => simp [Stage.whenClosed?] at hs
  case executeQuery s text =>
    obtain rfl := Option.some.inj hc
    have hd' : (b.turn id stage).2.registry.sessions.get? s = none :=
      Option.eq_none_iff_forall_ne_some.2 fun e he => hd ⟨e, he⟩
    obtain ⟨e, he⟩ := hl
    cases stage <;> try exact hr.elim
    case fresh c' =>
      cases c' <;> try exact hr.elim
      · simp [Stage.whenClosed?, Call.whenClosed?] at hs
      · obtain rfl : _ = s := by simpa [Stage.whenClosed?, Call.whenClosed?] using hs
        exact executeQuery_outlived hb he hr hd'
    case creating c' client globalId held => simp [Stage.whenClosed?] at hs
    case executing s' e' stream held =>
      obtain rfl : s' = s := by simpa [Stage.whenClosed?] using hs
      obtain ⟨b', hturn, hq⟩ := executing_attaches hb hok he hr
      rw [hturn] at hd' ⊢
      rw [← whenOutlived_later (hq.later hb)]
      exact attach_outlived (hq.ok hb) text hd'

end Bridge

/-! ## Nothing is left behind -/

/-- No handle was given out, nothing was registered, and no frame was taken off a reader. -/
structure Untouched (r r' : Registry) : Prop where
  connNext : r'.connections.next = r.connections.next
  sessNext : r'.sessions.next = r.sessions.next
  readNext : r'.readers.next = r.readers.next
  connections : ∀ c e, r'.connections.get? c = some e → r.connections.get? c = some e
  sessions : ∀ s e, r'.sessions.get? s = some e → r.sessions.get? s = some e
  readers : ∀ h e, r'.readers.get? h = some e → r.readers.get? h = some e
  held : ∀ h, (r'.reader h).held = (r.reader h).held
  buffer : ∀ h, (r'.reader h).channel.buffer = (r.reader h).channel.buffer

namespace Untouched

variable {r' r'' : Registry}

theorem refl (r : Registry) : Untouched r r :=
  ⟨rfl, rfl, rfl, fun _ _ h => h, fun _ _ h => h, fun _ _ h => h, fun _ => rfl, fun _ => rfl⟩

theorem trans (h : Untouched r r') (h' : Untouched r' r'') : Untouched r r'' where
  connNext := h'.connNext.trans h.connNext
  sessNext := h'.sessNext.trans h.sessNext
  readNext := h'.readNext.trans h.readNext
  connections c e hc := h.connections c e (h'.connections c e hc)
  sessions s e hs := h.sessions s e (h'.sessions s e hs)
  readers x e hx := h.readers x e (h'.readers x e hx)
  held x := (h'.held x).trans (h.held x)
  buffer x := (h'.buffer x).trans (h.buffer x)

/-- A close takes out, and leaves the frames where they are. -/
theorem of_close (hr : RegistryOK r) (h : r.CloseStep r') : Untouched r r' := by
  have hst := h.status hr
  have held : ∀ x, (r'.reader x).held = (r.reader x).held := fun x => by
    rcases hst x with hx | ⟨-, hx⟩ <;> rw [hx]
  have buffer : ∀ x, (r'.reader x).channel.buffer = (r.reader x).channel.buffer := fun x => by
    rcases hst x with hx | ⟨-, hx⟩ <;> rw [hx]
  rcases h.cases hr with ⟨y, -, rfl⟩ | ⟨C, S, R, hp, -⟩
  · exact ⟨rfl, rfl, rfl, fun _ _ h => h, fun _ _ h => h, fun _ _ h => h, held, buffer⟩
  · refine ⟨hp.connNext, hp.sessNext, hp.readNext, fun c e hc => ?_, fun s e hs => ?_,
      fun x e hx => ?_, held, buffer⟩
    · rw [hp.connections] at hc
      split at hc
      · cases hc
      · exact hc
    · rw [hp.sessions] at hs
      split at hs
      · cases hs
      · exact hs
    · rw [hp.readers] at hx
      split at hx
      · cases hx
      · exact hx

/-- A move of which nothing is told. -/
theorem of_move {me : Option TaskId} {inHand inHand' : Option Stream} {n : Note}
    (hb : BridgeOK b me inHand) (h : Move me b inHand n b' inHand') (hn : n = .aside) :
    Untouched b.registry b'.registry := by
  cases h with
  | aside ha => exact ha.registry ▸ .refl _
  | close hc => exact .of_close hb.registry hc
  | farewell client left => exact .refl _
  | claimed text => exact .refl _
  | dropped stream => exact .refl _
  | cursor h hf =>
    refine ⟨rfl, rfl, rfl, fun _ _ h => h, fun _ _ h => h, fun _ _ h => h, ?_, ?_⟩
    · exact Registry.reader_modify_keeps _ h (g := ReaderStatus.held) hf.held
    · exact Registry.reader_modify_keeps _ h (g := fun s => s.channel.buffer) hf.buffer
  | opened => cases hn
  | created => cases hn
  | executed => cases hn
  | took => cases hn
  | finished => cases hn
  | finishedAgain => cases hn

theorem of_moves {me : Option TaskId} {inHand inHand' : Option Stream} {ns : List Note}
    (hb : BridgeOK b me inHand) (h : Moves me b inHand ns b' inHand') (hn : ∀ n ∈ ns, n = .aside) :
    Untouched b.registry b'.registry := by
  induction h with
  | nil => exact .refl _
  | cons hm _ ih =>
    have h1 := of_move hb hm (hn _ List.mem_cons_self)
    exact h1.trans (ih (hm.ok hb).1 fun n hm => hn n (List.mem_cons_of_mem _ hm))

end Untouched

namespace Bridge

/-- In none of the turns that a task has in a run does it register anything or take a frame. -/
def TakesNothing (id : TaskId) (b : Bridge) : List Event → Prop
  | [] => True
  | e :: es => (e = .turn id → Untouched b.registry (b.step e).registry) ∧
    TakesNothing id (b.step e) es

theorem TakesNothing.append {es es' : List Event} (h : TakesNothing id b es)
    (h' : TakesNothing id (b.after es) es') : TakesNothing id b (es ++ es') := by
  induction es generalizing b with
  | nil => exact h'
  | cons e es ih => exact ⟨h.1, ih h.2 h'⟩

/-- A task that is over takes nothing. -/
theorem takesNothing_of_over (es : List Event) (hb : BridgeOK b none none) (hid : id < b.nextTask)
    (ht : b.task? id = none) : TakesNothing id b es := by
  induction es generalizing b with
  | nil => trivial
  | cons e es ih =>
    have h1 := step_steps hb e
    refine ⟨?_, ih h1.ok (Nat.lt_of_lt_of_le hid h1.later.nextTask) (h1.gone id hid ht)⟩
    rintro rfl
    simp only [step, poll, ht]
    exact .refl _

/-- A turn after which a call waits or has met a close takes nothing. -/
theorem idle_untouched {t : Task} (hb : BridgeOK b none none) (ht : b.task? id = some t)
    (hs : t.stage? = some stage) (hi : ((b.takeTurn id).turn id stage).1.isIdle = true) :
    Untouched b.registry (b.poll id).2.registry := by
  obtain ⟨hok, ns, hm, htells, -⟩ := call_turned hb ht hs
  rw [poll_call ht hs, pollCall_registry]
  show Untouched (b.takeTurn id).registry _
  exact .of_moves hok hm (htells.idle hi)

/-- **A call that is not over has taken nothing so far**, and works on what it has worked on. -/
theorem takesNothing_of_waiting (es : List Event) {t t' : Task} (hb : BridgeOK b none none)
    (ht : b.task? id = some t) (hs : t.stage? = some stage) (hf : stage.whenClosed? = some f)
    (ht' : (b.after es).task? id = some t') :
    TakesNothing id b es ∧ t'.request? = t.request? ∧
      ∃ stage', t'.stage? = some stage' ∧ stage'.whenClosed? = some f := by
  induction es generalizing b t stage with
  | nil =>
    obtain rfl : t = t' := Option.some.inj (ht.symm.trans ht')
    exact ⟨trivial, rfl, stage, hs, hf⟩
  | cons e es ih =>
    have h1 := step_steps hb e
    have hover : (b.step e).task? id ≠ none := step_live hb ht ht'
    by_cases he : e.task? = some id
    · cases e with
      | turn x =>
        cases Option.some.inj he
        -- it ends or it waits; a turn after which it waits takes nothing
        rcases poll_call_cases hb ht hs with ⟨o, -, -, ho⟩ | ⟨s, hturn, -, hnew⟩
        · exact absurd ho hover
        · obtain ⟨hwaits, hf'⟩ := (b.takeTurn id).turn_stays id hf s hturn
          obtain ⟨h2, h3⟩ := ih h1.ok hnew rfl hf' ht'
          exact ⟨⟨fun _ => idle_untouched hb ht hs (by rw [hwaits]; rfl), h2⟩, h3⟩
      | abandon x =>
        cases Option.some.inj he
        exact absurd (abandon_over hb ht hs) hover
      | _ => cases he
    · obtain ⟨h2, h3⟩ := ih h1.ok (h1.keeps id t (Ne.symm he) ht) hs hf ht'
      exact ⟨⟨fun hx => absurd (hx ▸ rfl) he, h2⟩, h3⟩

end Bridge

/-! ## Every run -/

/-- A resource was closed. A reader that has been read to its end is not closed. -/
def Registry.Closed (r : Registry) : Scope → Prop
  | .connection c => r.connections.Issued c ∧ r.connections.get? c = none
  | .session _ s => r.sessions.Issued s ∧ r.sessions.get? s = none
  | .reader _ _ h => r.readers.Issued h ∧ (r.reader h).state = .closed

/-- Whatever is below something closed is cancelled. -/
theorem RegistryOK.cancelled_of_closed (hr : RegistryOK r) {place x : Scope}
    (hw : place.isWithin x = true) (hc : r.Closed x) : r.isCancelled place = true := by
  cases x with
  | connection c =>
    have hcan : (r.connection c).isCancelled = true := by
      rw [hr.connCancelled, HandleTable.wasReleased_iff]; exact hc
    cases place <;> simp_all [Scope.isWithin, Registry.isCancelled]
  | session c s =>
    have hcan : (r.session s).isCancelled = true := by
      rw [hr.sessCancelled, HandleTable.wasReleased_iff]; exact hc
    cases place <;> simp_all [Scope.isWithin, Registry.isCancelled]
  | reader c s h =>
    have hcan : (r.reader h).isCancelled = true := (hr.readCancelled h).2 ⟨hc.2, hc.1⟩
    cases place <;> simp_all [Scope.isWithin, Registry.isCancelled]

/-- After a run, the next turn of a task ends it so. Neither in the run nor in
that turn nor afterwards does it take anything. -/
structure Bridge.EndsEmpty (id : TaskId) (b : Bridge) (es : List Event) (o : Outcome) : Prop where
  told : ((b.after es).poll id).1 = some o
  gone : ((b.after es).poll id).2.task? id = none
  nothing : ∀ es', TakesNothing id b (es ++ .turn id :: es')

theorem Bridge.EndsEmpty.of_turn {t t' : Task} {es : List Event} {stage' : Stage} {o : Outcome}
    (hb : BridgeOK b none none) (ht : b.task? id = some t) (hs : t.stage? = some stage)
    (hf : stage.whenClosed? = some f) (ht' : (b.after es).task? id = some t')
    (hs' : t'.stage? = some stage')
    (ho : (((b.after es).takeTurn id).turn id stage').1 = .ends o)
    (hi : (Progress.ends o : Progress Stage Outcome).isIdle = true) :
    EndsEmpty id b es (t.told o) := by
  have hok := (after_later hb es).1
  obtain ⟨hbefore, hreq, -⟩ := takesNothing_of_waiting es hb ht hs hf ht'
  have hsteps := step_steps hok (.turn id)
  have hid := Nat.lt_of_lt_of_le (hok.lt_nextTask ht') hsteps.later.nextTask
  rcases poll_call_cases hok ht' hs' with ⟨o', hturn, htold, hover⟩ | ⟨s, hturn, -, -⟩
  · obtain rfl : o' = o := Progress.ends.inj (hturn.symm.trans ho)
    refine ⟨?_, hover, fun es' => hbefore.append ⟨fun _ => ?_, ?_⟩⟩
    · rw [htold, Task.told, Task.told, hreq]
    · exact idle_untouched hok ht' hs' (by rw [ho]; exact hi)
    · exact takesNothing_of_over es' hsteps.ok hid hover
  · rw [ho] at hturn
    rcases hturn with h | h <;> cases h

/-- **A call below a close fails**, with its next turn and with the handle that
it was called with, whatever it could go on with by then. So does one whose own
call on the service closes what it works on and then returns; a query, and no
other call, breaks off instead exactly if no buffer can be made for it. Neither
leaves anything behind. -/
theorem closed_below_fails {c : Call} {t : Task} (hb : b.Reachable) (ht : b.task? id = some t)
    (hs : t.stage? = some (.fresh c)) (hf : c.whenClosed? = some f) :
    (∀ es es' t' stage place x, (b.after es).task? id = some t' → t'.stage? = some stage →
      stage.scope? = some place → place.isWithin x = true → (b.after es).registry.Closed x →
      (∀ e ∈ es', e.task? ≠ some id) →
      Bridge.EndsEmpty id b (es ++ es') (t.told (.failed f))) ∧
    ∀ es t' stage, (b.after es).task? id = some t' → t'.stage? = some stage →
      (b.after es).service.Returns stage → (b.after es).registry.ParentLive c →
      ¬ ((b.after es).poll id).2.registry.ParentLive c →
      Bridge.EndsEmpty id b es (t.told (b.whenOutlived c f)) := by
  have hok := hb.ok
  have hidle : (Progress.ends (.failed f) : Progress Stage Outcome).isIdle = true := by
    unfold Call.whenClosed? at hf
    split at hf <;> cases hf <;> rfl
  refine ⟨fun es es' t' stage place x ht' hs' hp hw hc hes' => ?_,
    fun es t' stage ht' hs' hr hl hd => ?_⟩
  -- what is cancelled stays so, and the task waits as it did when the close came
  · obtain ⟨hok₁, -⟩ := after_later hok es
    obtain ⟨hok₂, hl⟩ := after_later hok₁ es'
    obtain ⟨-, -, stage₁, hs₁, hf₁⟩ := Bridge.takesNothing_of_waiting es hok ht hs hf ht'
    obtain rfl : stage = stage₁ := Option.some.inj (hs'.symm.trans hs₁)
    have hcan := hl.registry.cancelled hok₁.registry hok₂.registry
      (hok₁.registry.cancelled_of_closed hw hc)
    have htask := after_keeps es' hok₁ hes' ht'
    rw [← Bridge.after_append] at htask hcan
    exact .of_turn hok ht hs hf htask hs' (Bridge.turn_cancelled _ id hf₁ hp hcan) hidle
  -- the close comes in the turn itself
  · obtain ⟨hok₁, hl₁⟩ := after_later hok es
    obtain ⟨-, -, stage₁, hs₁, hf₁⟩ := Bridge.takesNothing_of_waiting es hok ht hs hf ht'
    obtain rfl : stage = stage₁ := Option.some.inj (hs'.symm.trans hs₁)
    rw [Bridge.poll_call ht' hs', Bridge.pollCall_registry] at hd
    obtain ⟨hturn, hstage, -⟩ := Bridge.call_ok hok₁ ht' hs'
    have ho := Bridge.turn_outlived hturn hstage hf₁ hf hr hl hd
    rw [Bridge.whenOutlived_later (hl₁.trans (Bridge.takeTurn_aside _ id).later)] at ho
    refine .of_turn hok ht hs hf ht' hs' ho ?_
    unfold Bridge.whenOutlived
    split
    · split
      · rfl
      · exact hidle
    · exact hidle

/-- A pull waits for a frame. The frame arrives, then the connection is closed.
And a session is asked for on a connection that its creation closes. -/
theorem closed_below_fails_oneOfEach :
    Bridge.EndsEmpty 4 (Bridge.oneOfEach.step (.call (.read ⟨1⟩ .next)))
      [.turn 4, .turn 3, .turn 3, .close (.connection ⟨1⟩)]
      (.failed (.resourceClosed .reader ⟨1⟩)) ∧
    Bridge.EndsEmpty 4 (Bridge.oneOfEach.after
        [.far (.plan .createSession [.close (.connection ⟨1⟩)]), .call (.createSession ⟨1⟩)]) []
      (.failed (.resourceClosed .connection ⟨1⟩)) := by
  constructor
  · have hb := Bridge.oneOfEach_reachable.step (.call (.read ⟨1⟩ .next))
    have ht : (Bridge.oneOfEach.step (.call (.read ⟨1⟩ .next))).task? 4 =
      some (.call none (.fresh (.read ⟨1⟩ .next))) := by decide +kernel
    refine (closed_below_fails hb ht rfl rfl).1
      [.turn 4, .turn 3, .turn 3, .close (.connection ⟨1⟩)] []
      (.call none (.awaitingFrame ⟨1⟩ ⟨⟨1⟩, ⟨1⟩⟩ .next)) _ _ (.connection ⟨1⟩)
      ?_ rfl rfl rfl ?_ nofun
    · decide +kernel
    · exact ⟨⟨by decide +kernel, by decide +kernel⟩, by decide +kernel⟩
  · have hb := Bridge.oneOfEach_reachable.after
      [.far (.plan .createSession [.close (.connection ⟨1⟩)]), .call (.createSession ⟨1⟩)]
    set b := Bridge.oneOfEach.after
      [.far (.plan .createSession [.close (.connection ⟨1⟩)]), .call (.createSession ⟨1⟩)] with hb₀
    have ht : b.task? 4 = some (.call none (.fresh (.createSession ⟨1⟩))) := by decide +kernel
    have hlive : b.registry.ParentLive (.createSession ⟨1⟩) :=
      Option.isSome_iff_exists.1 (by decide +kernel)
    have hdead : ¬ ((b.after []).poll 4).2.registry.ParentLive (.createSession ⟨1⟩) := by
      rintro ⟨e, he⟩
      have hnone : ((b.after []).poll 4).2.registry.connections.get? ⟨1⟩ = none := by
        decide +kernel
      cases hnone.symm.trans he
    have hreturns : (b.after []).service.Returns (.fresh (.createSession ⟨1⟩)) :=
      ⟨by decide +kernel, by decide +kernel, by decide +kernel⟩
    exact (closed_below_fails hb ht rfl rfl).2 [] _ _ ht rfl hreturns hlive hdead

/-- No channel has this capacity, so a query breaks off whose execution closes its session. -/
theorem executeQuery_without_buffer :
    let b := (Bridge.new {} ⟨2305843009213693952, ⟨"", 1⟩⟩ true).after
      [.call (.openConnection "a://b" none), .turn 0, .call (.createSession ⟨1⟩), .turn 1,
        .far (.plan .executeQuery [.close (.session ⟨1⟩)]), .call (.executeQuery ⟨1⟩ "q")]
    b.Reachable ∧ b.task? 2 = some (.call none (.fresh (.executeQuery ⟨1⟩ "q"))) ∧
      b.service.Returns (.fresh (.executeQuery ⟨1⟩ "q")) ∧
      b.registry.ParentLive (.executeQuery ⟨1⟩ "q") ∧
      ¬ (b.poll 2).2.registry.ParentLive (.executeQuery ⟨1⟩ "q") ∧
      (b.poll 2).1 = some .crashed := by
  intro b
  refine ⟨(Bridge.Reachable.start [] false ⟨2305843009213693952, ⟨"", 1⟩⟩ true).after _,
    by decide +kernel, ⟨by decide +kernel, by decide +kernel⟩,
    Option.isSome_iff_exists.1 (by decide +kernel), ?_, by decide +kernel⟩
  rintro ⟨e, he⟩
  have hnone : (b.poll 2).2.registry.sessions.get? ⟨1⟩ = none := by decide +kernel
  cases hnone.symm.trans he

end QueryBridge
