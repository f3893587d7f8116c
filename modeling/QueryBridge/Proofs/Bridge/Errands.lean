import QueryBridge.Proofs.Bridge.Level
import QueryBridge.Proofs.Bridge.Turns

/-!
# What a creation comes to

A turn of a call that creates something asks the service for it, or takes up
what was held back. The errand of the turn tells what the service was asked,
what was closed on the way, and how far the last call has come. What the call
does itself is little: it registers what it was granted, or leaves it to the
background to be closed.

* `Bridge.errand`, `Bridge.granted`: the errand of a turn, and what the service
  has created or opened for it.
* `Bridge.Creates`: what a turn of a creation can do.
* `Bridge.turn_creates`: every turn of a creation is like that.
* `Bridge.farewell_level`: the same of a turn of a farewell.
-/

namespace QueryBridge

variable {b b' : Bridge} {id : TaskId} {stage : Stage} {f : Failure}

open Bridge (Course)

/-! ## Errands -/

/-- What the calls of one turn on the service come to. -/
structure Errand where
  /-- The calls made. -/
  calls : List CallRecord := []
  /-- What was closed before the last one returned, was refused or was held back. -/
  closed : List Target := []
  /-- What has become of the last one. None if there is none, or if it is never answered. -/
  course : Option Course := none

/-- An errand that goes on with another one if its last call returns. -/
def Errand.andThen (e next : Errand) : Errand :=
  if e.course = some .returned then
    ⟨e.calls ++ next.calls, e.closed ++ next.closed, next.course⟩
  else e

namespace Service

/-- What a call comes to that is made now. -/
def ask (s : Service) (client : Option ClientId) (c : ServiceCall) : Errand :=
  match s.refusal? c.point with
  | some message => ⟨[⟨client, c⟩], [], some (.refused message)⟩
  | none =>
    let hooks := (s.takeHooks c.point).1
    ⟨[⟨client, c⟩], s.closing hooks, some (s.course hooks)⟩

/-- What a call comes to that is taken up again. -/
def takeUp (s : Service) (held : Held) : Errand :=
  ⟨[], s.closingOf held, some (s.courseOf held)⟩

/-- What becomes of a call depends on the refusals, the hooks and the gates alone. -/
theorem ask_congr {s s' : Service} (hr : s'.refusals = s.refusals) (hh : s'.hooks = s.hooks)
    (hg : s'.gates = s.gates) (client : Option ClientId) (c : ServiceCall) :
    s'.ask client c = s.ask client c := by
  have ht : (s'.takeHooks c.point).1 = (s.takeHooks c.point).1 := by
    unfold takeHooks
    rw [hh]
    split <;> rfl
  unfold ask refusal?
  simp only [hr, ht, closing_congr hg, course_congr hg]

/-- A call that is asked for is made, once. -/
theorem ask_calls (s : Service) (client : Option ClientId) (c : ServiceCall) :
    (s.ask client c).calls = [⟨client, c⟩] := by
  unfold ask
  split <;> rfl

end Service

namespace Bridge

/-- Calls on the service are noted. -/
def note (b : Bridge) (records : List CallRecord) : Bridge :=
  b.withService { b.service with calls := b.service.calls ++ records }

/-- The bridge after an errand, before the call has done anything itself. -/
def does (b : Bridge) (e : Errand) : Bridge := (b.note e.calls).closeAll e.closed

theorem does_service (b : Bridge) (e : Errand) : (b.does e).service = (b.note e.calls).service :=
  closeAll_service _ _

theorem does_calls (b : Bridge) (e : Errand) :
    (b.does e).service.calls = b.service.calls ++ e.calls := by
  rw [does_service]
  rfl

theorem Level.note (h : b.Level b') (records : List CallRecord) :
    (b.note records).Level (b'.note records) :=
  ⟨⟨h.config, h.hasRuntime, h.tasks, h.nextTask, congrArg (· ++ records) h.calls⟩, h.registry⟩

theorem Level.does (h : b.Level b') (e : Errand) : (b.does e).Level (b'.does e) :=
  (h.note e.calls).closeAll e.closed

theorem note_nil (b : Bridge) : b.Level (b.note []) := .withService b (List.append_nil _)

/-- Nothing was asked. -/
theorem does_nothing (b : Bridge) : b.Level (b.does {}) := b.note_nil

/-- One errand after the other. -/
theorem does_append (b : Bridge) (e e' : Errand) (course : Option Course) :
    b.does ⟨e.calls ++ e'.calls, e.closed ++ e'.closed, course⟩ = (b.does e).does e' := by
  have hcalls : b.note (e.calls ++ e'.calls) = (b.note e.calls).note e'.calls := by
    simp only [note, withService, List.append_assoc]
  have hnote : (b.does e).note e'.calls = ((b.note e.calls).note e'.calls).closeAll e.closed := by
    rw [note, does_service, does, ← closeAll_withService]
    rfl
  unfold does at hnote ⊢
  rw [closeAll_append, hcalls, hnote]

/-! ## The errand of a turn -/

/-- The errand of a turn. A call that is denied, or whose resource is closed,
does not ask the service. -/
def errand (b : Bridge) : Stage → Errand
  | .fresh (.openConnection text credentials) =>
    match Url.ofService text with
    | .error _ => {}
    | .ok url =>
      (b.service.ask none (.createClient ⟨url, credentials⟩)).andThen
        ((b.service.takeHooks .createClient).2.ask (some b.service.clients) .openConnection)
  | .connecting _ client held =>
    (b.service.takeUp held).andThen (b.service.ask (some client) .openConnection)
  | .opening _ _ held => b.service.takeUp held
  | .fresh (.createSession c) =>
    match b.registry.openConnection c with
    | .error _ => {}
    | .ok entry =>
      if b.registry.isCancelled (.connection c) then {}
      else if (b.service.refusal? .createSession).isNone && b.service.hangsCreateSession then
        ⟨[⟨some entry.client, .createSession⟩], [], none⟩
      else b.service.ask (some entry.client) .createSession
  | .creating c _ _ held =>
    if b.registry.isCancelled (.connection c) then {} else b.service.takeUp held
  | .fresh (.executeQuery s text) =>
    match b.registry.openSession s with
    | .error _ => {}
    | .ok entry =>
      if !b.hasRuntime then {}
      else if b.registry.isCancelled (entry.scope s) then {}
      else b.service.ask (some entry.client) (.executeQuery entry.globalId text)
  | .executing s entry _ held =>
    if b.registry.isCancelled (entry.scope s) then {} else b.service.takeUp held
  | _ => {}

/-- What the service is asked to create or open, and on which client. Whoever
has it has to close it on the far side one day. -/
def asksFor (b : Bridge) : Stage → Option (ClientId × RemoteClose)
  | .fresh (.openConnection ..) => some (b.service.clients, .connection)
  | .connecting _ client _ | .opening _ client _ => some (client, .connection)
  | .fresh (.createSession c) =>
    (b.registry.connections.get? c).map fun e =>
      (e.client, .session b.service.nextSessionId.1)
  | .creating _ client globalId _ => some (client, .session globalId)
  | _ => none

/-- What the service has created or opened and has told the bridge of in a turn. -/
def granted (b : Bridge) (stage : Stage) : Option (ClientId × RemoteClose) :=
  if (b.errand stage).course = some .returned then b.asksFor stage else none

/-- What nobody has registered is left to the background to be closed. -/
def disown (b : Bridge) : Option (ClientId × RemoteClose) → Bridge
  | none => b
  | some (client, c) => b.sayFarewell client [c]

theorem Level.disown (h : b.Level b') (g : Option (ClientId × RemoteClose)) :
    (b.disown g).Level (b'.disown g) := by
  cases g with
  | none => exact h
  | some p => exact h.spawn _

theorem granted_of_not_returned (h : (b.errand stage).course ≠ some .returned) :
    b.granted stage = none := if_neg h

theorem granted_of_returned (h : (b.errand stage).course = some .returned) :
    b.granted stage = b.asksFor stage := if_pos h

/-- Which calls a turn of a call makes on the service, and on which client. -/
inductive Asks (b : Bridge) : Stage → CallRecord → Prop
  | createClient {text : String} {credentials : Option Credentials} {url : Url} :
    Asks b (.fresh (.openConnection text credentials)) ⟨none, .createClient ⟨url, credentials⟩⟩
  | openNow {text : String} {credentials : Option Credentials} :
    Asks b (.fresh (.openConnection text credentials)) ⟨some b.service.clients, .openConnection⟩
  | openNext {url : Url} {client : ClientId} {held : Held} :
    Asks b (.connecting url client held) ⟨some client, .openConnection⟩
  | createSession {c : ConnectionHandle} {e : Connection}
    (he : b.registry.connections.get? c = some e) :
    Asks b (.fresh (.createSession c)) ⟨some e.client, .createSession⟩
  | executeQuery {s : SessionHandle} {e : Session} {text : String}
    (he : b.registry.sessions.get? s = some e) :
    Asks b (.fresh (.executeQuery s text)) ⟨some e.client, .executeQuery e.globalId text⟩

/-- **The calls of an errand** are made on a client that is new, is being opened, or is that of a
live resource. -/
theorem errand_asks {r : CallRecord} (hm : r ∈ (b.errand stage).calls) : b.Asks stage r := by
  have hask : ∀ (s : Service) (client : Option ClientId) (c : ServiceCall),
      r ∈ (s.ask client c).calls → r = ⟨client, c⟩ := by
    intro s client c hm
    rwa [Service.ask_calls, List.mem_singleton] at hm
  have hthen : ∀ e next : Errand, r ∈ (e.andThen next).calls → r ∈ e.calls ∨ r ∈ next.calls := by
    intro e next hm
    unfold Errand.andThen at hm
    split at hm
    · exact List.mem_append.1 hm
    · exact .inl hm
  have hnone : ∀ held, r ∉ (b.service.takeUp held).calls := fun held => List.not_mem_nil
  cases stage with
  | fresh c =>
    cases c with
    | openConnection text credentials =>
      unfold errand at hm
      dsimp only at hm
      split at hm
      · cases hm
      · rcases hthen _ _ hm with hm | hm
        · rw [hask _ _ _ hm]
          exact .createClient
        · rw [hask _ _ _ hm]
          exact .openNow
    | createSession c =>
      unfold errand at hm
      dsimp only at hm
      split at hm
      · cases hm
      · rename_i entry ho
        have hlive := openConnection_live ho
        split at hm
        · cases hm
        · split at hm
          · rw [List.mem_singleton.1 hm]
            exact .createSession hlive
          · rw [hask _ _ _ hm]
            exact .createSession hlive
    | executeQuery s text =>
      unfold errand at hm
      dsimp only at hm
      split at hm
      · cases hm
      · rename_i entry ho
        split at hm
        · cases hm
        · split at hm
          · cases hm
          · rw [hask _ _ _ hm]
            exact .executeQuery (openSession_live ho)
    | _ => cases hm
  | connecting url x held =>
    rcases hthen _ _ hm with hm | hm
    · exact absurd hm (hnone held)
    · rw [hask _ _ _ hm]
      exact .openNext
  | opening url x held => exact absurd hm (hnone held)
  | creating c x globalId held =>
    unfold errand at hm
    dsimp only at hm
    split at hm
    · cases hm
    · exact absurd hm (hnone held)
  | executing s e stream held =>
    unfold errand at hm
    dsimp only at hm
    split at hm
    · cases hm
    · exact absurd hm (hnone held)
  | _ => cases hm

end Bridge

/-! ## What a creation can do -/

/-- Whether a call creates something. -/
def Call.creates : Call → Bool
  | .openConnection .. | .createSession _ | .executeQuery .. => true
  | _ => false

def Stage.creates : Stage → Bool
  | .fresh c => c.creates
  | .connecting .. | .opening .. | .unanswered _ | .creating .. | .executing .. => true
  | .awaitingTurn .. | .awaitingFrame .. | .draining => false

/-- Whether a call has asked the service for what it creates, and is not over. -/
def Stage.awaits : Stage → Bool
  | .connecting .. | .opening .. | .unanswered _ | .creating .. | .executing .. => true
  | _ => false

theorem Stage.creates_of_awaits (h : stage.awaits = true) : stage.creates = true := by
  cases stage <;> first | rfl | cases h

/-- A resource that has been registered. -/
inductive Registration
  | opened (c : ConnectionHandle)
  | created (c : ConnectionHandle) (s : SessionHandle)
  | executed (h : ReaderHandle)
deriving DecidableEq

/-- The resource that a call has registered, by what it gives. -/
def Stage.registers : Stage → Outcome → Option Registration
  | .fresh (.openConnection ..), .replied (.connection c)
  | .connecting .., .replied (.connection c)
  | .opening .., .replied (.connection c) => some (.opened c)
  | .fresh (.createSession c), .replied (.session s _)
  | .creating c _ _ _, .replied (.session s _) => some (.created c s)
  | .fresh (.executeQuery ..), .replied (.reader h)
  | .executing .., .replied (.reader h) => some (.executed h)
  | _, _ => none

/-- Whether a failure says that a call was not allowed from the start. -/
def Failure.isDenial : Failure → Bool
  | .invalidArgument _ | .invalidHandle .. | .illegalState .. | .runtimeUnavailable => true
  | _ => false

namespace Bridge

/-- Why a creation fails. -/
inductive FailsWith (b : Bridge) (stage : Stage) : Failure → Prop
  /-- It was not allowed from the start. -/
  | denied {f : Failure} : (∃ c, stage = .fresh c) → b.errand stage = {} → f.isDenial = true →
    FailsWith b stage f
  /-- What it works on was closed. -/
  | closed {k : HandleKind} {h : Handle k} : b.errand stage = {} →
    FailsWith b stage (.resourceClosed k h)
  | refused {message : String} : (b.errand stage).course = some (.refused message) →
    FailsWith b stage (.serviceError message)
  /-- What it works on was closed before the service returned. -/
  | outlived {k : HandleKind} {h : Handle k} : (b.errand stage).course = some .returned →
    FailsWith b stage (.resourceClosed k h)
  /-- No handle is left for what the service has created. -/
  | exhausted {k : HandleKind} : (b.errand stage).course = some .returned →
    FailsWith b stage (.handlesExhausted k)

/-- **What a turn of a creation can do**, beside its errand: it registers what it
was granted, or leaves it to the background. -/
inductive Creates (b : Bridge) (stage : Stage) : Turn → Prop
  | waits {s : Stage} {b' : Bridge} : s.awaits = true → b.granted stage = none →
    (b.does (b.errand stage)).Level b' → Creates b stage (.waits s, b')
  | fails {f : Failure} {b' : Bridge} : b.FailsWith stage f →
    ((b.does (b.errand stage)).disown (b.granted stage)).Level b' →
    Creates b stage (.ends (.failed f), b')
  /-- A query breaks off that no buffer can be made for. -/
  | breaks {b' : Bridge} : b.granted stage = none → (b.does (b.errand stage)).Level b' →
    Creates b stage (.ends .crashed, b')
  | opens {url : Url} {client : ClientId} {c : ConnectionHandle} {r : Registry} {b' : Bridge} :
    b.granted stage = some (client, .connection) →
    stage.registers (.replied (.connection c)) = some (.opened c) →
    (b.does (b.errand stage)).registry.addConnection ⟨url, client⟩ = .ok (c, r) →
    ((b.does (b.errand stage)).withRegistry r).Level b' →
    Creates b stage (.ends (.replied (.connection c)), b')
  | creates {c : ConnectionHandle} {client : ClientId} {globalId : GlobalSessionId}
    {s : SessionHandle} {r : Registry} {b' : Bridge} :
    b.granted stage = some (client, .session globalId) →
    stage.registers (.replied (.session s globalId)) = some (.created c s) →
    (b.does (b.errand stage)).registry.addSession ⟨c, globalId, client⟩ = .ok (s, r) →
    ((b.does (b.errand stage)).withRegistry r).Level b' →
    Creates b stage (.ends (.replied (.session s globalId)), b')
  | executes {e : Reader} {ch : Channel} {h : ReaderHandle} {stream : Stream} {r : Registry}
    {b' : Bridge} : b.granted stage = none →
    stage.registers (.replied (.reader h)) = some (.executed h) →
    (b.does (b.errand stage)).registry.addReader e ch = .ok (h, r) →
    (((b.does (b.errand stage)).withRegistry r).spawnOn (.pump h e stream none)).Level b' →
    Creates b stage (.ends (.replied (.reader h)), b')

namespace Creates

/-- A creation that fails before it has asked for anything has done nothing. -/
theorem of_unasked (he : b.errand stage = {}) (hf : b.FailsWith stage f) (h : b.Level b') :
    Creates b stage (.ends (.failed f), b') := by
  have hg : b.granted stage = none := granted_of_not_returned (by simp [he])
  refine .fails hf ?_
  rw [he, hg]
  exact b.does_nothing.symm.trans h

theorem denied {c : Call} (hs : stage = .fresh c) (he : b.errand stage = {})
    (hf : f.isDenial = true) : Creates b stage (b.fail f) :=
  .of_unasked he (.denied ⟨c, hs⟩ he hf) (.refl b)

theorem closed {k : HandleKind} {h : Handle k} (he : b.errand stage = {}) (hl : b.Level b') :
    Creates b stage (b'.fail (.resourceClosed k h)) := .of_unasked he (.closed he) hl

/-- What the service has refused it has not created. -/
theorem refused {message : String} (hc : (b.errand stage).course = some (.refused message))
    (h : (b.does (b.errand stage)).Level b') :
    Creates b stage (b'.fail (.serviceError message)) := by
  have hg : b.granted stage = none := granted_of_not_returned (by simp [hc])
  refine .fails (.refused hc) ?_
  rw [hg]
  exact h

/-- A creation waits for the service. -/
theorem held {s : Stage} {again : Held} (hs : s.awaits = true)
    (hc : (b.errand stage).course = some (.held again))
    (h : (b.does (b.errand stage)).Level b') : Creates b stage (.waits s, b') :=
  .waits hs (granted_of_not_returned (by simp [hc])) h

/-- The calls of a turn of a creation are those of its errand. -/
theorem calls {t : Turn} (h : Creates b stage t) :
    t.2.service.calls = b.service.calls ++ (b.errand stage).calls := by
  cases h with
  | waits _ _ hl => exact hl.calls.trans (b.does_calls _)
  | @fails f b' _ hl =>
    have hdisown : ((b.does (b.errand stage)).disown (b.granted stage)).service =
        (b.does (b.errand stage)).service := by
      cases b.granted stage with
      | none => rfl
      | some p => exact spawn_service _ _
    rw [hl.calls, hdisown, does_calls]
  | breaks _ hl => exact hl.calls.trans (b.does_calls _)
  | opens _ _ _ hl => exact hl.calls.trans (b.does_calls _)
  | creates _ _ _ hl => exact hl.calls.trans (b.does_calls _)
  | executes _ _ _ hl =>
    rw [hl.calls, spawnOn_service]
    exact b.does_calls _

/-- A creation that is not over waits for the service. -/
theorem stays {s : Stage} {t : Turn} (h : Creates b stage t)
    (ht : t.1 = .waits s ∨ t.1 = .goesOn s) :
    s.awaits = true ∧ b.granted stage = none ∧ (b.does (b.errand stage)).Level t.2 := by
  cases h with
  | waits hs hg hl =>
    rcases ht with hw | hw <;> cases hw
    exact ⟨hs, hg, hl⟩
  | _ => rcases ht with hw | hw <;> cases hw

/-- What a creation that fails was granted is left to the background. -/
theorem failed {t : Turn} (h : Creates b stage t) (ht : t.1 = .ends (.failed f)) :
    b.FailsWith stage f ∧
      ((b.does (b.errand stage)).disown (b.granted stage)).Level t.2 := by
  cases h with
  | fails hf hl =>
    cases ht
    exact ⟨hf, hl⟩
  | _ => cases ht

end Creates

/-! ## The calls of an errand -/

/-- Whether a call is refused or accepted, it is noted. -/
theorem call_eq (client : Option ClientId) (c : ServiceCall) {refusal : Option String}
    (h : b.service.refusal? c.point = refusal) :
    b.call client c = (refusal, b.withService (b.service.record client c)) := Prod.ext h rfl

/-- A call that is refused changes nothing. -/
theorem asked_refused (client : Option ClientId) (c : ServiceCall) {message : String}
    (h : b.service.refusal? c.point = some message) :
    (b.service.ask client c).course = some (.refused message) ∧
      (b.does (b.service.ask client c)).Level (b.withService (b.service.record client c)) := by
  have ha : b.service.ask client c = ⟨[⟨client, c⟩], [], some (.refused message)⟩ := by
    simp only [Service.ask, h]
  rw [ha]
  exact ⟨rfl, .refl _⟩

/-- **A call that is accepted** closes what its hooks name, whatever else the
service has taken down before. -/
theorem asked_accepted (client : Option ClientId) (c : ServiceCall) {s : Service}
    (h : b.service.refusal? c.point = none)
    (hcalls : s.calls = (b.service.record client c).calls) (hh : s.hooks = b.service.hooks)
    (hg : s.gates = b.service.gates) (id : TaskId) :
    (b.service.ask client c).course = some ((b.withService s).passHooks id c.point).1 ∧
      (b.does (b.service.ask client c)).Level ((b.withService s).passHooks id c.point).2 := by
  have ht : (s.takeHooks c.point).1 = (b.service.takeHooks c.point).1 := by
    unfold Service.takeHooks
    rw [hh]
    split <;> rfl
  have ha : b.service.ask client c = ⟨[⟨client, c⟩], s.closing (s.takeHooks c.point).1,
      some (s.course (s.takeHooks c.point).1)⟩ := by
    simp only [Service.ask, h, ht, Service.closing_congr hg, Service.course_congr hg]
  have hlevel : (b.note [⟨client, c⟩]).Level (b.withService s) :=
    .withService (b.note [⟨client, c⟩]) hcalls
  rw [ha]
  refine ⟨?_, (hlevel.closeAll _).trans ((b.withService s).passHooks_level id c.point)⟩
  rw [passHooks_course]
  rfl

/-- A call is taken up again. -/
theorem taken_up (b : Bridge) (id : TaskId) (held : Held) :
    (b.service.takeUp held).course = some (b.resume id held).1 ∧
      (b.does (b.service.takeUp held)).Level (b.resume id held).2 := by
  refine ⟨?_, (b.note_nil.symm.closeAll _).trans (b.resume_level id held)⟩
  rw [resume_course]
  rfl

/-! ## Connections -/

variable {p : Course × Bridge} {url : Url} {client : ClientId}

theorem opening_creates (hc : (b.errand stage).course = some p.1)
    (hl : (b.does (b.errand stage)).Level p.2)
    (ha : b.asksFor stage = some (client, .connection))
    (hs : ∀ c, stage.registers (.replied (.connection c)) = some (.opened c)) :
    Creates b stage (opening url client p) := by
  obtain ⟨course, b'⟩ := p
  cases course with
  | held again => exact .held rfl hc hl
  | refused message => exact .refused hc hl
  | returned =>
    have hg : b.granted stage = some (client, .connection) := (granted_of_returned hc).trans ha
    show Creates b stage (b'.register url client)
    unfold register
    split
    · rename_i c r hr
      rw [hl.registry] at hr
      exact .opens hg (hs c) hr (hl.withRegistry r)
    · rename_i f hf
      obtain rfl := addConnection_eq_error hf
      refine .fails (.exhausted hc) ?_
      rw [hg]
      exact hl.spawn _

/-- Once a client is there, the connection is opened on the far side. -/
theorem connecting_creates (first : Errand) (hfirst : first.course = some p.1)
    (hlevel : (b.does first).Level p.2)
    (he : b.errand stage = first.andThen (p.2.service.ask (some client) .openConnection))
    (ha : b.asksFor stage = some (client, .connection))
    (hs : ∀ c, stage.registers (.replied (.connection c)) = some (.opened c)) :
    Creates b stage (connecting id url client p) := by
  obtain ⟨course, b'⟩ := p
  cases course with
  | held again =>
    have heq : b.errand stage = first := by rw [he, Errand.andThen, hfirst]; rfl
    exact .held rfl (heq ▸ hfirst) (heq ▸ hlevel)
  | refused message =>
    have heq : b.errand stage = first := by rw [he, Errand.andThen, hfirst]; rfl
    exact .refused (heq ▸ hfirst) (heq ▸ hlevel)
  | returned =>
    set second := b'.service.ask (some client) .openConnection with hsecond
    have heq : b.errand stage =
        ⟨first.calls ++ second.calls, first.closed ++ second.closed, second.course⟩ := by
      rw [he, Errand.andThen, if_pos hfirst]
    have hdoes : (b.does (b.errand stage)).Level (b'.does second) := by
      rw [heq, does_append]
      exact hlevel.does second
    show Creates b stage (b'.openRemote id url client)
    unfold openRemote
    cases hr : b'.service.refusal? .openConnection with
    | some message =>
      obtain ⟨hc, hl⟩ := asked_refused (some client) .openConnection hr
      rw [call_eq (some client) .openConnection hr]
      exact .refused (heq ▸ hc) (hdoes.trans hl)
    | none =>
      obtain ⟨hc, hl⟩ := asked_accepted (some client) .openConnection hr
        (s := b'.service.record (some client) .openConnection) rfl rfl rfl id
      rw [call_eq (some client) .openConnection hr]
      exact opening_creates (heq ▸ hc) (hdoes.trans hl) ha hs

theorem openConnection_creates (b : Bridge) (id : TaskId) (text : String)
    (credentials : Option Credentials) :
    Creates b (.fresh (.openConnection text credentials))
      (b.openConnection id text credentials) := by
  unfold openConnection
  cases hu : Url.ofService text with
  | error f =>
    obtain ⟨message, rfl⟩ := ofService_failure hu
    refine .denied (c := .openConnection text credentials) rfl ?_ rfl
    simp only [errand, hu]
  | ok url =>
    set first := b.service.ask none (.createClient ⟨url, credentials⟩) with hfirst
    have he : b.errand (.fresh (.openConnection text credentials)) = first.andThen
        ((b.service.takeHooks .createClient).2.ask (some b.service.clients) .openConnection) := by
      simp only [errand, hu]
      rfl
    cases hr : b.service.refusal? .createClient with
    | some message =>
      obtain ⟨hc, hl⟩ := asked_refused none (.createClient ⟨url, credentials⟩) hr
      have heq : first.andThen ((b.service.takeHooks .createClient).2.ask
          (some b.service.clients) .openConnection) = first := by
        rw [Errand.andThen, hfirst, hc]
        rfl
      rw [heq] at he
      dsimp only
      rw [call_eq none (.createClient ⟨url, credentials⟩) hr]
      exact .refused (he ▸ hc) (he ▸ hl)
    | none =>
      set s := (b.service.record none (.createClient ⟨url, credentials⟩)).newClient.2 with hs
      obtain ⟨hc, hl⟩ := asked_accepted none (.createClient ⟨url, credentials⟩) (s := s) hr
        rfl rfl rfl id
      dsimp only
      rw [call_eq none (.createClient ⟨url, credentials⟩) hr]
      show Creates b _ (connecting id url b.service.clients
        ((b.withService s).passHooks id .createClient))
      -- the second call is made only when the first has returned
      by_cases hret : ((b.withService s).passHooks id .createClient).1 = .returned
      · refine connecting_creates first hc hl ?_ rfl fun _ => rfl
        have hplan : ((b.withService s).passHooks id .createClient).2.service =
            (s.takeHooks .createClient).2 :=
          follow_settled id _ _ (congrArg Course.isHeld hret)
        rw [he, hplan]
        congr 1
        have ht : (s.takeHooks .createClient).2 =
            { (b.service.takeHooks .createClient).2 with
              calls := s.calls, clients := s.clients } := by
          unfold Service.takeHooks
          rw [show s.hooks = b.service.hooks from rfl]
          split <;> rfl
        rw [ht]
        refine (Service.ask_congr ?_ ?_ ?_ _ _).symm <;> rfl
      · have hne : first.course ≠ some .returned := by
          rw [hfirst, hc]
          exact fun h => hret (Option.some.inj h)
        refine connecting_creates first hc hl ?_ rfl fun _ => rfl
        rw [he, Errand.andThen, if_neg hne, Errand.andThen, if_neg hne]

/-! ## Sessions -/

variable {c : ConnectionHandle} {globalId : GlobalSessionId}

theorem creating_creates (hc : (b.errand stage).course = some p.1)
    (hl : (b.does (b.errand stage)).Level p.2)
    (ha : b.asksFor stage = some (client, .session globalId))
    (hs : ∀ s, stage.registers (.replied (.session s globalId)) = some (.created c s)) :
    Creates b stage (creating c client globalId p) := by
  obtain ⟨course, b'⟩ := p
  cases course with
  | held again => exact .held rfl hc hl
  | refused message => exact .refused hc hl
  | returned =>
    have hg : b.granted stage = some (client, .session globalId) :=
      (granted_of_returned hc).trans ha
    have horphan : ((b.does (b.errand stage)).disown (b.granted stage)).Level
        (b'.sayFarewell client [.session globalId]) := by
      rw [hg]
      exact hl.spawn _
    show Creates b stage (b'.adopt c client globalId)
    unfold adopt
    split
    · split
      · rename_i s r hr
        rw [hl.registry] at hr
        exact .creates hg (hs s) hr (hl.withRegistry r)
      · rename_i f hf
        obtain rfl := addSession_eq_error hf
        exact .fails (.exhausted hc) horphan
    · exact .fails (.outlived hc) horphan

theorem openConnection_isDenial {r : Registry} (h : r.openConnection c = .error f) :
    f.isDenial = true := by
  unfold Registry.openConnection at h
  split at h <;> split at h <;> cases h <;> rfl

theorem createSession_creates (b : Bridge) (id : TaskId) (c : ConnectionHandle) :
    Creates b (.fresh (.createSession c)) (b.createSession id c) := by
  unfold createSession
  cases ho : b.registry.openConnection c with
  | error f =>
    refine .denied (c := .createSession c) rfl ?_ (openConnection_isDenial ho)
    simp only [errand, ho]
  | ok entry =>
    have hentry := openConnection_live ho
    dsimp only
    split
    · rename_i hcancel
      refine .closed ?_ (.refl b)
      simp only [errand, ho, hcancel, if_true]
    rename_i hcancel
    have ha : b.asksFor (.fresh (.createSession c)) =
        some (entry.client, .session b.service.nextSessionId.1) := by
      simp only [asksFor, hentry, Option.map_some]
    cases hr : b.service.refusal? .createSession with
    | some message =>
      have he : b.errand (.fresh (.createSession c)) =
          b.service.ask (some entry.client) .createSession := by
        simp [errand, ho, hcancel, hr]
      obtain ⟨hc, hl⟩ := asked_refused (some entry.client) .createSession hr
      rw [call_eq (some entry.client) .createSession hr]
      exact .refused (he ▸ hc) (he ▸ hl)
    | none =>
      rw [call_eq (some entry.client) .createSession hr]
      dsimp only
      split
      -- the service never answers
      · rename_i hhangs
        have he : b.errand (.fresh (.createSession c)) =
            ⟨[⟨some entry.client, .createSession⟩], [], none⟩ := by
          simp [errand, ho, hcancel, hr, show b.service.hangsCreateSession = true from hhangs]
        refine .waits rfl (granted_of_not_returned (by simp [he])) ?_
        rw [he]
        exact .refl _
      · rename_i hhangs
        have he : b.errand (.fresh (.createSession c)) =
            b.service.ask (some entry.client) .createSession := by
          simp [errand, ho, hcancel,
            show ¬ b.service.hangsCreateSession = true from hhangs]
        set s₀ := b.service.record (some entry.client) .createSession with hs₀
        have hid : s₀.nextSessionId.1 = b.service.nextSessionId.1 := by
          unfold Service.nextSessionId
          rw [show s₀.sessionIds = b.service.sessionIds from rfl]
          split <;> rfl
        have hrest : s₀.nextSessionId.2.calls = s₀.calls ∧
            s₀.nextSessionId.2.hooks = b.service.hooks ∧
            s₀.nextSessionId.2.gates = b.service.gates := by
          unfold Service.nextSessionId
          split <;> exact ⟨rfl, rfl, rfl⟩
        obtain ⟨hc, hl⟩ := asked_accepted (some entry.client) .createSession
          (s := s₀.nextSessionId.2) hr hrest.1 hrest.2.1 hrest.2.2 id
        rw [← hid] at ha
        exact creating_creates (he ▸ hc) (he ▸ hl) ha fun _ => rfl

/-! ## Readers -/

variable {s : SessionHandle} {entry : Session} {stream : Stream}

theorem executing_creates (hc : (b.errand stage).course = some p.1)
    (hl : (b.does (b.errand stage)).Level p.2) (ha : b.asksFor stage = none)
    (hs : ∀ h, stage.registers (.replied (.reader h)) = some (.executed h)) :
    Creates b stage (executing s entry stream p) := by
  obtain ⟨course, b'⟩ := p
  cases course with
  | held again => exact .held rfl hc hl
  | refused message => exact .refused hc (hl.trans (b'.dropStream_level stream))
  | returned =>
    have hg : b.granted stage = none := (granted_of_returned hc).trans ha
    have hdrop := hl.trans (b'.dropStream_level stream)
    have horphan : ((b.does (b.errand stage)).disown (b.granted stage)).Level
        (b'.dropStream stream) := by
      rw [hg]
      exact hdrop
    show Creates b stage (b'.attach s entry stream)
    unfold attach
    split
    · exact .breaks hg hdrop
    · split
      · dsimp only
        split
        · rename_i h r hr
          rw [hl.registry] at hr
          exact .executes hg (hs h) hr ((hl.withRegistry r).spawnOn _)
        · rename_i f hf
          obtain rfl := addReader_eq_error hf
          exact .fails (.exhausted hc) horphan
      · exact .fails (.outlived hc) horphan

theorem openSession_isDenial {r : Registry} (h : r.openSession s = .error f) :
    f.isDenial = true := by
  unfold Registry.openSession at h
  split at h <;> split at h <;> cases h <;> rfl

theorem executeQuery_creates (b : Bridge) (id : TaskId) (s : SessionHandle) (text : String) :
    Creates b (.fresh (.executeQuery s text)) (b.executeQuery id s text) := by
  unfold executeQuery
  cases ho : b.registry.openSession s with
  | error f =>
    refine .denied (c := .executeQuery s text) rfl ?_ (openSession_isDenial ho)
    simp only [errand, ho]
  | ok entry =>
    dsimp only
    split
    · rename_i hrt
      refine .denied (c := .executeQuery s text) rfl ?_ rfl
      simp only [errand, ho, hrt, if_true]
    rename_i hrt
    split
    · rename_i hcancel
      refine .closed ?_ (.refl b)
      simp [errand, ho, hcancel]
    rename_i hcancel
    have he : b.errand (.fresh (.executeQuery s text)) =
        b.service.ask (some entry.client) (.executeQuery entry.globalId text) := by
      simp only [errand, ho, hrt, hcancel, if_false, Bool.false_eq_true]
    cases hr : b.service.refusal? .executeQuery with
    | some message =>
      obtain ⟨hc, hl⟩ := asked_refused (some entry.client)
        (.executeQuery entry.globalId text) hr
      rw [call_eq (some entry.client) (.executeQuery entry.globalId text) hr]
      exact .refused (he ▸ hc) (he ▸ hl)
    | none =>
      set s₀ := b.service.record (some entry.client) (.executeQuery entry.globalId text) with hs₀
      have hrest : (s₀.takeStream text).2.calls = s₀.calls ∧
          (s₀.takeStream text).2.hooks = b.service.hooks ∧
          (s₀.takeStream text).2.gates = b.service.gates := by
        unfold Service.takeStream
        split <;> exact ⟨rfl, rfl, rfl⟩
      obtain ⟨hc, hl⟩ := asked_accepted (some entry.client)
        (.executeQuery entry.globalId text) (s := (s₀.takeStream text).2) hr hrest.1 hrest.2.1
        hrest.2.2 id
      rw [call_eq (some entry.client) (.executeQuery entry.globalId text) hr]
      exact executing_creates (he ▸ hc) (he ▸ hl) rfl fun _ => rfl

/-! ## Every turn of a creation -/

/-- **Every turn of a creation** registers what it was granted, or leaves it to
the background; all else that it changes is its errand. -/
theorem turn_creates (b : Bridge) (id : TaskId) (hs : stage.creates = true) :
    Creates b stage (b.turn id stage) := by
  cases stage with
  | fresh c =>
    cases c with
    | openConnection text credentials => exact b.openConnection_creates id text credentials
    | createSession c => exact b.createSession_creates id c
    | executeQuery s text => exact b.executeQuery_creates id s text
    | _ => cases hs
  | connecting url client held =>
    obtain ⟨hc, hl⟩ := b.taken_up id held
    by_cases hret : (b.resume id held).1 = .returned
    · refine connecting_creates (b.service.takeUp held) hc hl ?_ rfl fun _ => rfl
      rw [resume_settled b id held (congrArg Course.isHeld hret)]
      rfl
    · have hne : (b.service.takeUp held).course ≠ some .returned := by
        rw [hc]
        exact fun h => hret (Option.some.inj h)
      refine connecting_creates (b.service.takeUp held) hc hl ?_ rfl fun _ => rfl
      show (b.service.takeUp held).andThen _ = _
      rw [Errand.andThen, if_neg hne, Errand.andThen, if_neg hne]
  | opening url client held =>
    obtain ⟨hc, hl⟩ := b.taken_up id held
    exact opening_creates hc hl rfl fun _ => rfl
  | unanswered c =>
    unfold turn
    dsimp only
    split
    · exact .closed rfl (.refl b)
    · exact .waits rfl (granted_of_not_returned nofun) b.does_nothing.symm
  | creating c client globalId held =>
    obtain ⟨hc, hl⟩ := b.taken_up id held
    unfold turn
    dsimp only
    split
    · rename_i hcancel
      exact .closed (if_pos hcancel) (.refl b)
    · rename_i hcancel
      have he : b.errand (.creating c client globalId held) = b.service.takeUp held :=
        if_neg hcancel
      exact creating_creates (he ▸ hc) (he ▸ hl) rfl fun _ => rfl
  | executing s entry stream held =>
    obtain ⟨hc, hl⟩ := b.taken_up id held
    unfold turn
    dsimp only
    split
    · rename_i hcancel
      exact .closed (if_pos hcancel) (b.dropStream_level stream)
    · rename_i hcancel
      have he : b.errand (.executing s entry stream held) = b.service.takeUp held :=
        if_neg hcancel
      exact executing_creates (he ▸ hc) (he ▸ hl) rfl fun _ => rfl
  | awaitingTurn h e reading => cases hs
  | awaitingFrame h e reading => cases hs
  | draining => cases hs

/-! ## Farewells -/

end Bridge

/-- The next call of a farewell. -/
def Service.askNext (s : Service) (client : ClientId) : List RemoteClose → Errand
  | [] => {}
  | c :: _ => s.ask (some client) c.call

/-- The errand of a turn of a farewell: what was held back is taken up, and the
next call is made when it is over. -/
def Service.farewellErrand (s : Service) (client : ClientId) (held : Option Held)
    (left : List RemoteClose) : Errand :=
  match held with
  | none => s.askNext client left
  | some held =>
    if (s.courseOf held).isHeld then s.takeUp held
    else
      let next := s.askNext client left
      ⟨next.calls, s.closingOf held ++ next.closed, next.course⟩

namespace Bridge

theorem sayNext_level (b : Bridge) (id : TaskId) (client : ClientId) (left : List RemoteClose) :
    (b.does (b.service.askNext client left)).Level (b.sayNext id client left).2 := by
  cases left with
  | nil => exact b.does_nothing.symm
  | cons c left =>
    show (b.does (b.service.ask (some client) c.call)).Level _
    unfold sayNext
    dsimp only
    cases hr : b.service.refusal? c.call.point with
    | some message =>
      rw [call_eq (some client) c.call hr]
      exact (asked_refused (some client) c.call hr).2
    | none =>
      obtain ⟨-, hl⟩ := asked_accepted (some client) c.call
        (s := b.service.record (some client) c.call) hr rfl rfl rfl id
      rw [call_eq (some client) c.call hr]
      dsimp only
      split <;> rename_i hp <;>
        rw [show (b.withService _).passHooks id c.call.point = _ from hp] at hl
      · exact hl
      · exact hl

/-- **A turn of a farewell** changes nothing beside its errand. -/
theorem farewell_level (b : Bridge) (id : TaskId) (client : ClientId) (held : Option Held)
    (left : List RemoteClose) :
    (b.does (b.service.farewellErrand client held left)).Level
      (b.farewell id client held left).2 := by
  cases held with
  | none => exact b.sayNext_level id client left
  | some held =>
    have hcourse := b.resume_course id held
    have hl := (b.taken_up id held).2
    have hsettled := resume_settled b id held
    unfold farewell Service.farewellErrand
    dsimp only
    rw [← hcourse]
    generalize b.resume id held = p at hl hsettled ⊢
    obtain ⟨course, b₁⟩ := p
    -- what was held back is over, so the next call follows in the same turn
    have hnext : course.isHeld = false → (b.does ⟨(b.service.askNext client left).calls,
        b.service.closingOf held ++ (b.service.askNext client left).closed,
        (b.service.askNext client left).course⟩).Level (b₁.sayNext id client left).2 := by
      intro hheld
      have happ := b.does_append (b.service.takeUp held) (b.service.askNext client left)
        (b.service.askNext client left).course
      have hthen := b₁.sayNext_level id client left
      rw [hsettled hheld] at hthen
      exact ((Level.of_eq happ).trans (hl.does _)).trans hthen
    cases course with
    | held again => exact hl
    | returned => exact hnext rfl
    | refused message => exact hnext rfl

end Bridge

end QueryBridge
