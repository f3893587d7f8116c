import QueryBridge.Proofs.Bridge.Direct
import QueryBridge.Proofs.Bridge.Replies
import QueryBridge.Proofs.InFlight
import QueryBridge.Proofs.RoundTrip

/-!
# Requests over the wire

A request over the wire does what the call that it asks for does, event by event,
and is answered when the call is: once, under its number, with the response that
tells of the result.

* `Request.AsksFor`: the call that a request asks for.
* `Request.Answered`: the response that tells of a result.
* `Event.MadeDirectly`, `Bridge.MadeDirectly`: requests, and the calls in their place.
* `told_once`, `told_as_direct`: what a task tells in a run.
* `requests_simulate_calls`: both, in every run.
-/

namespace QueryBridge

variable {b : Bridge} {id : TaskId} {t : Task} {stage : Stage}

/-! ## What is asked for -/

/-- **The call that a request asks for.** What it is about is handed on as it came, and so is the
secret that came with it. -/
inductive Request.AsksFor : Request → Call → Prop
  | opens (url : String) : AsksFor (.openConnection url none) (.openConnection url none)
  | opensWith (url secret : String) :
    AsksFor (.openConnection url (some secret)) (.openConnection url (some ⟨secret⟩))
  | creates (c : ConnectionHandle) : AsksFor (.createSession c) (.createSession c)
  | executes (s : SessionHandle) (text : String) :
    AsksFor (.executeQuery s text) (.executeQuery s text)
  | pulls (h : ReaderHandle) : AsksFor (.pull h) (.read h .next)
  | pullsAvailable (h : ReaderHandle) : AsksFor (.pullAvailable h) (.read h .available)
  | closesConnection (c : ConnectionHandle) : AsksFor (.closeConnection c) (.closeConnection c)
  | closesSession (s : SessionHandle) : AsksFor (.closeSession s) (.closeSession s)
  | closesReader (h : ReaderHandle) : AsksFor (.closeReader h) (.closeReader h)

/-- **The call that is made** for a request is the one it asks for. -/
theorem Request.asksFor_iff {r : Request} {c : Call} : r.AsksFor c ↔ c = r.call := by
  constructor
  · intro h
    cases h <;> rfl
  · rintro rfl
    cases r with
    | openConnection url credentials =>
      cases credentials with
      | none => exact .opens url
      | some secret => exact .opensWith url secret
    | closeConnection c => exact .closesConnection c
    | createSession c => exact .creates c
    | closeSession s => exact .closesSession s
    | executeQuery s text => exact .executes s text
    | pull h => exact .pulls h
    | pullAvailable h => exact .pullsAvailable h
    | closeReader h => exact .closesReader h

/-- A task, and how it stands if the call came directly that its request asks for. A text that
holds no request stays what it is. -/
inductive Task.MadeDirectly : Task → Task → Prop
  | request {text : String} {e : RequestEnvelope} {c : Call} :
    RequestEnvelope.decode text = .ok e → e.request.AsksFor c →
    MadeDirectly (.payload text) (.call none (.fresh c))
  | nothing {text : String} {p : DecodeProblem} : RequestEnvelope.decode text = .error p →
    MadeDirectly (.payload text) (.payload text)
  | call (envelope : Option UInt64) (stage : Stage) :
    MadeDirectly (.call envelope stage) (.call none stage)
  | pump (h : ReaderHandle) (entry : Reader) (stream : Stream) (inHand : Option Frame) :
    MadeDirectly (.pump h entry stream inHand) (.pump h entry stream inHand)
  | farewell (client : ClientId) (held : Option Held) (left : List RemoteClose) :
    MadeDirectly (.farewell client held left) (.farewell client held left)

theorem Task.madeDirectly_direct (t : Task) : t.MadeDirectly t.direct := by
  cases t with
  | payload text =>
    cases hd : RequestEnvelope.decode text with
    | ok e =>
      simp only [Task.direct, hd]
      exact .request hd (Request.asksFor_iff.2 rfl)
    | error p =>
      simp only [Task.direct, hd]
      exact .nothing hd
  | call envelope stage => exact .call envelope stage
  | pump h entry stream inHand => exact .pump h entry stream inHand
  | farewell client held left => exact .farewell client held left

/-- An event, and what happens in its place if the call comes directly that a request asks for. -/
inductive Event.MadeDirectly : Event → Event → Prop
  | request {text : String} {e : RequestEnvelope} {c : Call} :
    RequestEnvelope.decode text = .ok e → e.request.AsksFor c →
    MadeDirectly (.payload text) (.call c)
  | nothing {text : String} {p : DecodeProblem} : RequestEnvelope.decode text = .error p →
    MadeDirectly (.payload text) (.payload text)
  | other (e : Event) : (∀ text, e ≠ .payload text) → MadeDirectly e e

theorem Event.madeDirectly_direct (e : Event) : e.MadeDirectly e.direct := by
  cases e with
  | payload text =>
    cases hd : RequestEnvelope.decode text with
    | ok e =>
      simp only [Event.direct, hd]
      exact .request hd (Request.asksFor_iff.2 rfl)
    | error p =>
      simp only [Event.direct, hd]
      exact .nothing hd
  | _ => exact .other _ fun _ h => by cases h

theorem Event.forall₂_madeDirectly (es : List Event) :
    List.Forall₂ Event.MadeDirectly es (es.map Event.direct) :=
  List.forall₂_map_right_iff.2 (List.forall₂_same.2 fun e _ => e.madeDirectly_direct)

/-- **A bridge, and how it stands if every call came directly** that a request asks for: the same,
but for the requests that are under way. -/
structure Bridge.MadeDirectly (b b' : Bridge) : Prop where
  config : b'.config = b.config
  hasRuntime : b'.hasRuntime = b.hasRuntime
  service : b'.service = b.service
  registry : b'.registry = b.registry
  tracker : b'.tracker = b.tracker
  tasks : List.Forall₂ (fun p p' => p'.1 = p.1 ∧ p.2.MadeDirectly p'.2) b.tasks b'.tasks
  nextTask : b'.nextTask = b.nextTask
  ready : b'.ready = b.ready

theorem Bridge.madeDirectly_direct (b : Bridge) : b.MadeDirectly b.direct where
  config := rfl
  hasRuntime := rfl
  service := rfl
  registry := rfl
  tracker := rfl
  tasks := List.forall₂_map_right_iff.2
    (List.forall₂_same.2 fun p _ => ⟨rfl, p.2.madeDirectly_direct⟩)
  nextTask := rfl
  ready := rfl

/-! ## Responses -/

/-- **The response to a request**, by how the call ended that it asks for. -/
inductive Request.Answered : Request → Outcome → Response → Prop
  | opened (url : String) (credentials : Option String) (c : ConnectionHandle) :
    Answered (.openConnection url credentials) (.replied (.connection c)) (.connection c)
  | created (c : ConnectionHandle) (s : SessionHandle) (globalId : GlobalSessionId) :
    Answered (.createSession c) (.replied (.session s globalId)) (.session s globalId)
  | executed (s : SessionHandle) (text : String) (h : ReaderHandle) :
    Answered (.executeQuery s text) (.replied (.reader h)) (.reader h)
  | pulled (h : ReaderHandle) (data : Bytes) :
    Answered (.pull h) (.replied (.chunk (some data))) (.chunk data)
  | ended (h : ReaderHandle) : Answered (.pull h) (.replied (.chunk none)) .endOfStream
  | pulledAvailable (h : ReaderHandle) (cs : List Bytes) (finished : Bool) :
    Answered (.pullAvailable h) (.replied (.batch cs finished)) (.chunks cs finished)
  | closedConnection (c : ConnectionHandle) : Answered (.closeConnection c) (.replied .done) .ok
  | closedSession (s : SessionHandle) : Answered (.closeSession s) (.replied .done) .ok
  | closedReader (h : ReaderHandle) : Answered (.closeReader h) (.replied .done) .ok
  /-- Whatever was asked for, a failure is told by its code and its text. -/
  | failed (r : Request) (f : Failure) : Answered r (.failed f) (.error f.code f.message)

/-- **A request is answered** if its call has not broken off. -/
theorem Request.answered_of_fits {r : Request} {config : BridgeConfig} {o : Outcome}
    (ho : o.Fits r.call.gives config) (hc : o ≠ .crashed) (n : UInt64) :
    ∃ response, r.Answered o response ∧
      o.enveloped n = .replied (.text (ResponseEnvelope.encode ⟨n, response⟩)) := by
  cases o with
  | failed f => exact ⟨_, .failed r f, rfl⟩
  | crashed => exact absurd rfl hc
  | replied reply =>
    -- the kind of the request leaves one kind of reply
    cases r <;> cases reply <;> simp only [Outcome.Fits, Reply.kind, Request.call, Call.gives,
      Reading.gives, reduceCtorEq] at ho
    case replied.openConnection.connection url credentials c =>
      exact ⟨_, .opened url credentials c, rfl⟩
    case replied.closeConnection.done c => exact ⟨_, .closedConnection c, rfl⟩
    case replied.createSession.session c s globalId => exact ⟨_, .created c s globalId, rfl⟩
    case replied.closeSession.done s => exact ⟨_, .closedSession s, rfl⟩
    case replied.executeQuery.reader s text h => exact ⟨_, .executed s text h, rfl⟩
    case replied.pull.chunk h data =>
      cases data with
      | none => exact ⟨_, .ended h, rfl⟩
      | some data => exact ⟨_, .pulled h data, rfl⟩
    case replied.pullAvailable.batch h cs finished => exact ⟨_, .pulledAvailable h cs finished, rfl⟩
    case replied.closeReader.done h => exact ⟨_, .closedReader h, rfl⟩

/-- A call that breaks off executes a query, and no channel has the capacity asked for. -/
theorem Request.crashed_of_fits {r : Request} {config : BridgeConfig}
    (h : Outcome.crashed.Fits r.call.gives config) :
    (∃ s text, r = .executeQuery s text) ∧ Channel.maxCapacity < config.chunkBuffer.toNat := by
  obtain ⟨hkind, hnone⟩ := h
  refine ⟨?_, Channel.ofCapacity?_eq_none.1 hnone⟩
  cases r with
  | executeQuery s text => exact ⟨s, text, rfl⟩
  | _ => cases hkind

namespace Bridge

/-! ## What a task tells -/

/-- What a task tells in an event. -/
def toldIn (id : TaskId) (b : Bridge) : Event → List Outcome
  | .turn x => if x = id then (b.poll id).1.toList else []
  | _ => []

/-- What a task tells in a run. -/
def toldBy (id : TaskId) (b : Bridge) : List Event → List Outcome
  | [] => []
  | e :: es => b.toldIn id e ++ toldBy id (b.step e) es

theorem toldIn_turn (id : TaskId) (b : Bridge) : b.toldIn id (.turn id) = (b.poll id).1.toList :=
  if_pos rfl

theorem toldIn_of_ne {e : Event} (he : e ≠ .turn id) (b : Bridge) : b.toldIn id e = [] := by
  cases e with
  | turn x => exact if_neg fun hx => he (congrArg _ hx)
  | _ => rfl

/-- A task that is over tells nothing. -/
theorem toldBy_of_over (es : List Event) (hb : BridgeOK b none none) (hid : id < b.nextTask)
    (ht : b.task? id = none) : b.toldBy id es = [] := by
  induction es generalizing b with
  | nil => rfl
  | cons e es ih =>
    have h1 := step_steps hb e
    have hrest := ih h1.ok (Nat.lt_of_lt_of_le hid h1.later.nextTask) (h1.gone id hid ht)
    have hnow : b.toldIn id e = [] := by
      by_cases he : e = .turn id
      · have hpoll : b.poll id = (none, b) := by
          unfold poll
          rw [ht]
        rw [he, toldIn_turn, hpoll]
        rfl
      · exact toldIn_of_ne he b
    rw [toldBy, hnow, hrest, List.append_nil]

/-- **One event of a call**: it tells how it ended and is over, or it tells
nothing and goes on under its number, to replies of its kind. -/
theorem step_call (hb : BridgeOK b none none) (ht : b.task? id = some t)
    (hs : t.stage? = some stage) (e : Event) :
    (∃ o, b.toldIn id e = [t.told o] ∧ o.Fits stage.gives b.config ∧
      (b.step e).task? id = none) ∨
    b.toldIn id e = [] ∧ ((b.step e).task? id = none ∨
      ∃ t' stage', (b.step e).task? id = some t' ∧ t'.stage? = some stage' ∧
        t'.request? = t.request? ∧ stage'.gives = stage.gives) := by
  by_cases he : e.task? = some id
  · cases e with
    | turn x =>
      cases Option.some.inj he
      have hgives := turn_gives (b.takeTurn id) id stage
      unfold Gives at hgives
      rcases poll_call_cases hb ht hs with ⟨o, hturn, htold, hover⟩ | ⟨s, hturn, hnone, hnew⟩
      · refine .inl ⟨o, ?_, ?_, hover⟩
        · rw [toldIn_turn, htold]
          rfl
        · obtain ⟨hok, ns, hm, -, -⟩ := call_turned hb ht hs
          have hconfig : ((b.takeTurn id).turn id stage).2.config = b.config :=
            (hm.ok hok).2.1.config
          rwa [hturn, hconfig] at hgives
      · refine .inr ⟨?_, .inr ⟨_, s, hnew, rfl, rfl, ?_⟩⟩
        · rw [toldIn_turn, hnone]
          rfl
        · rcases hturn with hturn | hturn <;> rwa [hturn] at hgives
    | abandon x =>
      cases Option.some.inj he
      exact .inr ⟨rfl, .inl (abandon_over hb ht hs)⟩
    | _ => cases he
  · have hother : e ≠ .turn id := by
      rintro rfl
      exact he rfl
    have hkept := (step_steps hb e).keeps id t (Ne.symm he) ht
    exact .inr ⟨toldIn_of_ne hother b, .inr ⟨t, stage, hkept, hs, rfl, rfl⟩⟩

/-- **A call tells at most once** how it ended, whatever happens meanwhile. -/
theorem told_once (es : List Event) (hb : BridgeOK b none none) (ht : b.task? id = some t)
    (hs : t.stage? = some stage) :
    b.toldBy id es = [] ∨ ∃ o, b.toldBy id es = [t.told o] ∧ o.Fits stage.gives b.config := by
  induction es generalizing b t stage with
  | nil => exact .inl rfl
  | cons e es ih =>
    have h1 := step_steps hb e
    have hid := Nat.lt_of_lt_of_le (hb.lt_nextTask ht) h1.later.nextTask
    rcases step_call hb ht hs e with ⟨o, hnow, hfits, hover⟩ | ⟨hnow, hover | hgoes⟩
    · refine .inr ⟨o, ?_, hfits⟩
      rw [toldBy, hnow, toldBy_of_over es h1.ok hid hover, List.append_nil]
    · refine .inl ?_
      rw [toldBy, hnow, toldBy_of_over es h1.ok hid hover, List.append_nil]
    · obtain ⟨t', stage', ht', hs', hrequest, hgives⟩ := hgoes
      have hsame : t'.told = t.told := by
        funext o
        rw [Task.told, Task.told, hrequest]
      rw [toldBy, hnow, List.nil_append, ← hsame, ← hgives, ← h1.later.config]
      exact ih h1.ok ht' hs'

/-- What a task tells in an event goes under its number, and is otherwise what
it tells if the calls come directly. -/
theorem toldIn_direct (ht : b.task? id = some t) (e : Event) :
    b.toldIn id e = (b.direct.toldIn id e.direct).map t.told := by
  by_cases he : e = .turn id
  · subst he
    rw [toldIn_turn, b.told_direct id ht]
    show _ = (b.direct.toldIn id (.turn id)).map t.told
    rw [toldIn_turn]
    cases (b.direct.poll id).1 <;> rfl
  · have hdirect : e.direct ≠ .turn id := by
      cases e with
      | payload text =>
        unfold Event.direct
        dsimp only
        split <;> exact nofun
      | turn x => exact he
      | _ => exact nofun
    rw [toldIn_of_ne he, toldIn_of_ne hdirect, List.map_nil]

/-- **What a call tells** goes under its number, and is otherwise what it tells
in the run in which the calls come directly. -/
theorem told_as_direct (es : List Event) (hb : b.Reachable) (ht : b.task? id = some t)
    (hs : t.stage? = some stage) :
    b.toldBy id es = (b.direct.toldBy id (es.map Event.direct)).map t.told := by
  induction es generalizing b t stage with
  | nil => rfl
  | cons e es ih =>
    have hnext := hb.step e
    have hid := Nat.lt_of_lt_of_le (hb.ok.lt_nextTask ht) (step_steps hb.ok e).later.nextTask
    have hnow := toldIn_direct ht e
    have hrest : (b.step e).toldBy id es =
        ((b.step e).direct.toldBy id (es.map Event.direct)).map t.told := by
      -- a call that is over tells nothing in either run
      have hover : (b.step e).task? id = none → (b.step e).toldBy id es =
          ((b.step e).direct.toldBy id (es.map Event.direct)).map t.told := by
        intro ho
        have ho' : (b.step e).direct.task? id = none := by
          rw [direct_task?, ho]
          rfl
        rw [toldBy_of_over es hnext.ok hid ho, toldBy_of_over _ hnext.direct.ok hid ho']
        rfl
      rcases step_call hb.ok ht hs e with ⟨o, -, -, ho⟩ | ⟨-, ho | hgoes⟩
      · exact hover ho
      · exact hover ho
      · obtain ⟨t', stage', ht', hs', hrequest, -⟩ := hgoes
        have hsame : t'.told = t.told := by
          funext o
          rw [Task.told, Task.told, hrequest]
        rw [← hsame]
        exact ih hnext ht' hs'
    rw [toldBy, hnow, hrest, step_direct, ← List.map_append]
    rfl

/-- What was just submitted is there to have its turn. -/
theorem submitted {e : Event} (hb : b.Reachable) (he : b.step e = (b.submit t).2) :
    (b.step e).task? b.nextTask = some t := by
  refine task?_of_mem (hb.step e).ok.nodup ?_
  rw [he]
  exact List.mem_append_right _ (List.mem_singleton.2 rfl)

end Bridge

/-! ## Requests and calls -/

/-- Nothing of the resources, of the service and of what is counted in the
background is touched. -/
structure Bridge.TouchesNothing (b b' : Bridge) : Prop where
  registry : b'.registry = b.registry
  service : b'.service = b.service
  tracker : b'.tracker = b.tracker

/-- **A request over the wire does what the call does** that it asks for, from the same bridge and
in a run of the events that follow. -/
structure Bridge.Simulates (b : Bridge) (text : String) (e : RequestEnvelope) (c : Call)
    (es : List Event) : Prop where
  /-- The states are equal, but for how the calls have come. -/
  states : ∃ b', ((b.step (.payload text)).after es).MadeDirectly b' ∧
    ((b.step (.call c)).after es).MadeDirectly b'
  /-- What is told goes under the number of the request, and is told at the same time. -/
  told : (b.step (.payload text)).toldBy b.nextTask es =
    ((b.step (.call c)).toldBy b.nextTask es).map (.enveloped e.id)
  /-- The same is told if every other call comes directly, too. -/
  direct : ∃ b' es', b.MadeDirectly b' ∧ List.Forall₂ Event.MadeDirectly es es' ∧
    (b.step (.call c)).toldBy b.nextTask es = (b'.step (.call c)).toldBy b.nextTask es'
  once : ((b.step (.call c)).toldBy b.nextTask es).length ≤ 1
  /-- The answer is the text of one response, which tells of the result. -/
  answered : ∀ o ∈ (b.step (.call c)).toldBy b.nextTask es, o ≠ .crashed →
    ∃ response, e.request.Answered o response ∧
      o.enveloped e.id = .replied (.text (ResponseEnvelope.encode ⟨e.id, response⟩)) ∧
      ResponseEnvelope.decode (ResponseEnvelope.encode ⟨e.id, response⟩) = .ok ⟨e.id, response⟩
  /-- Only a query that no buffer can be made for breaks off, as its call does. -/
  crashed : .crashed ∈ (b.step (.call c)).toldBy b.nextTask es →
    (∃ s query, e.request = .executeQuery s query) ∧
      Channel.maxCapacity < b.config.chunkBuffer.toNat

theorem Bridge.simulates (hb : b.Reachable) {text : String} {e : RequestEnvelope} {c : Call}
    (htext : RequestEnvelope.decode text = .ok e) (hasks : e.request.AsksFor c)
    (es : List Event) : b.Simulates text e c es := by
  obtain rfl := Request.asksFor_iff.1 hasks
  have hwire : (b.step (.payload text)).task? b.nextTask = some (.payload text) :=
    submitted hb rfl
  have hcall : (b.step (.call e.request.call)).task? b.nextTask =
      some (.call none (.fresh e.request.call)) := submitted hb rfl
  have hstage : (Task.payload text).stage? = some (.fresh e.request.call) := by
    simp only [Task.stage?, htext, Except.toOption, Option.map_some]
  have htold : (Task.payload text).told = Outcome.enveloped e.id := by
    funext o
    simp only [Task.told, Task.request?, htext, Except.toOption, Option.map_some, Option.elim_some]
  -- either of the two is the same run if all calls come directly
  have hsame : (b.step (.payload text)).direct = (b.step (.call e.request.call)).direct := by
    rw [step_direct, step_direct]
    simp only [Event.direct, htext]
  have hstates : ((b.step (.payload text)).after es).direct =
      ((b.step (.call e.request.call)).after es).direct := by
    rw [after_direct, after_direct, hsame]
  have hwireTold := told_as_direct es (hb.step (.payload text)) hwire hstage
  have hcallTold := told_as_direct es (hb.step (.call e.request.call)) hcall rfl
  have hplain : (Task.call none (.fresh e.request.call)).told = id := rfl
  rw [hplain, List.map_id] at hcallTold
  have honce := told_once es (hb.step (.call e.request.call)).ok hcall rfl
  have hconfig : (b.step (.call e.request.call)).config = b.config := rfl
  refine ⟨⟨_, madeDirectly_direct _, hstates ▸ madeDirectly_direct _⟩, ?_,
    ⟨_, _, b.madeDirectly_direct, Event.forall₂_madeDirectly es, ?_⟩, ?_, fun o ho hne => ?_,
    fun ho => ?_⟩
  · rw [hwireTold, hcallTold, hsame, htold]
  · rw [hcallTold, step_direct]
    rfl
  · rcases honce with hnone | ⟨o, hone, -⟩
    · rw [hnone]
      exact Nat.zero_le 1
    · rw [hone]
      exact Nat.le_refl 1
  · rcases honce with hnone | ⟨o', hone, hfits⟩
    · rw [hnone] at ho
      cases ho
    · rw [hone] at ho
      obtain rfl := List.mem_singleton.1 ho
      obtain ⟨response, hanswered, htext⟩ := Request.answered_of_fits hfits hne e.id
      exact ⟨response, hanswered, htext, ResponseEnvelope.decode_encode _⟩
  · rcases honce with hnone | ⟨o', hone, hfits⟩
    · rw [hnone] at ho
      cases ho
    · rw [hone] at ho
      obtain rfl := List.mem_singleton.1 ho
      exact Request.crashed_of_fits hfits

/-- **Requests over the wire simulate calls.** A run goes through the same
states if every request that comes over the wire is made as the call that it
asks for. A text that holds no request fails and touches nothing. Any other is
answered when its call is, from the same bridge and with the same effects: once,
with the text of the response that tells of the result, under its own number.
It never fails; only a query that no buffer can be made for breaks off, as its
call does. -/
theorem requests_simulate_calls (hb : b.Reachable) :
    (∃ b', b.MadeDirectly b' ∧ ∀ es, ∃ es', List.Forall₂ Event.MadeDirectly es es' ∧
      (b.after es).MadeDirectly (b'.after es')) ∧
    (∀ text p, RequestEnvelope.decode text = .error p →
      b.TouchesNothing (b.step (.payload text)) ∧
      ∀ es, (∀ e ∈ es, e.task? ≠ some b.nextTask) →
        (((b.step (.payload text)).after es).poll b.nextTask).1 = some (.failed (.json p)) ∧
        ((b.step (.payload text)).after es).TouchesNothing
          (((b.step (.payload text)).after es).poll b.nextTask).2) ∧
    ∀ text e, RequestEnvelope.decode text = .ok e → (∃ c, e.request.AsksFor c) ∧
      ∀ c, e.request.AsksFor c → ∀ es, b.Simulates text e c es := by
  refine ⟨⟨_, b.madeDirectly_direct, fun es => ⟨_, Event.forall₂_madeDirectly es, ?_⟩⟩,
    fun text p htext => ⟨⟨rfl, rfl, rfl⟩, fun es hes => ?_⟩, fun text e htext =>
    ⟨⟨_, Request.asksFor_iff.2 rfl⟩, fun c hasks es => Bridge.simulates hb htext hasks es⟩⟩
  · rw [← b.after_direct es]
    exact (b.after es).madeDirectly_direct
  have hwire : (b.step (.payload text)).task? b.nextTask = some (.payload text) :=
    Bridge.submitted hb rfl
  have hlater := after_keeps es (hb.step (.payload text)).ok hes hwire
  have hpoll : ((b.step (.payload text)).after es).poll b.nextTask =
      (some (.failed (.json p)),
        (((b.step (.payload text)).after es).takeTurn b.nextTask).conclude b.nextTask) := by
    unfold Bridge.poll
    rw [hlater]
    simp only [htext]
  rw [hpoll]
  exact ⟨rfl, rfl, rfl, rfl⟩

/-- A pull over the wire meets the end of its stream, and a text that holds nothing fails. -/
theorem requests_simulate_calls_oneOfEach :
    Bridge.oneOfEach.Simulates (RequestEnvelope.encode ⟨7, .pull ⟨1⟩⟩) ⟨7, .pull ⟨1⟩⟩
      (.read ⟨1⟩ .next) [.turn 4, .turn 3, .turn 3, .turn 4] ∧
    (Bridge.oneOfEach.step (.payload (RequestEnvelope.encode ⟨7, .pull ⟨1⟩⟩))).toldBy 4
        [.turn 4, .turn 3, .turn 3, .turn 4] =
      [.replied (.text (ResponseEnvelope.encode ⟨7, .endOfStream⟩))] ∧
    ((Bridge.oneOfEach.step (.payload "")).poll 4).1 = some (.failed (.json .unexpectedEnd)) := by
  have hsimulates := requests_simulate_calls Bridge.oneOfEach_reachable
  have hpull := (hsimulates.2.2 _ _ (RequestEnvelope.decode_encode ⟨7, .pull ⟨1⟩⟩)).2
    (.read ⟨1⟩ .next) (.pulls ⟨1⟩) [.turn 4, .turn 3, .turn 3, .turn 4]
  have hnothing : RequestEnvelope.decode "" = .error .unexpectedEnd := by decide +kernel
  refine ⟨hpull, ?_, ((hsimulates.2.1 _ _ hnothing).2 [] nofun).1⟩
  have hcall : (Bridge.oneOfEach.step (.call (.read ⟨1⟩ .next))).toldBy 4
      [.turn 4, .turn 3, .turn 3, .turn 4] = [.replied (.chunk none)] := by decide +kernel
  have htold := hpull.told
  rw [show Bridge.oneOfEach.nextTask = 4 by decide +kernel] at htold
  rw [htold]
  exact congrArg (List.map _) hcall

/-- No channel has this capacity, so a query over the wire breaks off and is not answered. -/
theorem executeQuery_unanswered_without_buffer :
    let b := (Bridge.new {} ⟨2305843009213693952, ⟨"", 1⟩⟩ true).after
      [.call (.openConnection "a://b" none), .turn 0, .call (.createSession ⟨1⟩), .turn 1]
    let text := RequestEnvelope.encode ⟨7, .executeQuery ⟨1⟩ "q"⟩
    b.Reachable ∧ RequestEnvelope.decode text = .ok ⟨7, .executeQuery ⟨1⟩ "q"⟩ ∧
      ((b.step (.payload text)).poll b.nextTask).1 = some .crashed := by
  intro b text
  exact ⟨(Bridge.Reachable.start [] false ⟨2305843009213693952, ⟨"", 1⟩⟩ true).after _,
    RequestEnvelope.decode_encode _, by decide +kernel⟩

end QueryBridge
