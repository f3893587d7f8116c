import QueryBridge.Proofs.Bridge.Chronicle
import QueryBridge.Proofs.Closes

/-!
# The verdict on a handle

Whether a connection or a session may be used is decided by what has happened in
the run: what was registered, and what was closed since. A call on one that was
closed is told so, and a call on one that never existed is told that. Neither
changes anything.

* `Bridge.Denies`: a call fails in its turn, and nothing has changed.
* `turn_verdict`: every failure that names a handle as unusable is like that.
* `verdict_by_history`: the verdicts, by the record of the run.
-/

namespace QueryBridge

variable {r : Registry} {b : Bridge} {id : TaskId} {t : Task} {stage : Stage} {f : Failure}
  {h : ReaderHandle} {e : Reader} {reading : Reading}

/-- Whether a failure says that a handle cannot be used. -/
def Failure.isVerdict : Failure → Bool
  | .invalidHandle .. | .illegalState .. => true
  | _ => false

/-- Whether a call has ended with such a failure. -/
def Progress.isVerdict : Progress Stage Outcome → Bool
  | .ends (.failed f) => f.isVerdict
  | _ => false

theorem Progress.ends_of_isVerdict {p : Progress Stage Outcome} (hp : p.isVerdict = true) :
    ∃ f, p = .ends (.failed f) ∧ f.isVerdict = true := by
  cases p with
  | ends o =>
    cases o with
    | failed f => exact ⟨f, rfl, hp⟩
    | _ => cases hp
  | _ => cases hp

/-! ## What the tables tell -/

/-- A connection that sessions are to be created on. -/
theorem openConnection_standing (hr : RegistryOK r) (c : ConnectionHandle) :
    match r.connections.standing c with
    | .live => ∃ e, r.connections.get? c = some e ∧ r.openConnection c = .ok e
    | .closed => r.openConnection c = .error (.illegalState .connection c .createSession)
    | .never => r.openConnection c = .error (.invalidHandle .connection c) := by
  cases hs : r.connections.standing c with
  | live =>
    obtain ⟨e, he⟩ := HandleTable.standing_eq_live.1 hs
    have hopen := (hr.connOpen c).2 ⟨e, he⟩
    exact ⟨e, he, by simp only [Registry.openConnection, he, hopen, if_true]⟩
  | closed =>
    obtain ⟨hg, hw⟩ := HandleTable.standing_eq_closed.1 hs
    simp only [Registry.openConnection, hg, hw, if_true]
  | never =>
    obtain ⟨hg, hw⟩ := HandleTable.standing_eq_never.1 hs
    simp only [Registry.openConnection, hg, hw, Bool.false_eq_true, if_false]

/-- A session that queries are to be executed on. -/
theorem openSession_standing (hr : RegistryOK r) (s : SessionHandle) :
    match r.sessions.standing s with
    | .live => ∃ e, r.sessions.get? s = some e ∧ r.openSession s = .ok e
    | .closed => r.openSession s = .error (.illegalState .session s .executeQuery)
    | .never => r.openSession s = .error (.invalidHandle .session s) := by
  cases hs : r.sessions.standing s with
  | live =>
    obtain ⟨e, he⟩ := HandleTable.standing_eq_live.1 hs
    have hopen := (hr.sessOpen s).2 ⟨e, he⟩
    exact ⟨e, he, by simp only [Registry.openSession, he, hopen, if_true]⟩
  | closed =>
    obtain ⟨hg, hw⟩ := HandleTable.standing_eq_closed.1 hs
    simp only [Registry.openSession, hg, hw, if_true]
  | never =>
    obtain ⟨hg, hw⟩ := HandleTable.standing_eq_never.1 hs
    simp only [Registry.openSession, hg, hw, Bool.false_eq_true, if_false]

/-! ## Verdicts change nothing -/

namespace Bridge

/-- A reading that was cut off, or whose stream has failed, says nothing of its handle. -/
theorem readFailure_verdict (b : Bridge) (h : ReaderHandle) (reading : Reading)
    (hf : f.isVerdict = false) : (b.readFailure h reading f).1.isVerdict = false := by
  cases reading <;> first | exact hf | rfl

theorem readClosed_verdict (b : Bridge) (h : ReaderHandle) (reading : Reading) :
    (b.readClosed h reading).1.isVerdict = false := b.readFailure_verdict h reading rfl

theorem readChunk_verdict (b : Bridge) (h : ReaderHandle) (reading : Reading) (c : Bytes) :
    (b.readChunk h reading c).1.isVerdict = false := by
  cases reading <;> rfl

theorem deliver_verdict (b : Bridge) (h : ReaderHandle) (e : Reader) (reading : Reading)
    (fr : Frame) : (b.deliver h e reading fr).1.isVerdict = false := by
  cases fr with
  | data c => exact readChunk_verdict _ h reading c
  | finish => rfl
  | failure message => exact readFailure_verdict _ h reading rfl

theorem nextFrame_verdict (b : Bridge) (id : TaskId) (h : ReaderHandle) (e : Reader)
    (reading : Reading) : (b.nextFrame id h e reading).1.isVerdict = false := by
  unfold nextFrame
  dsimp only
  split
  · exact deliver_verdict _ h e reading _
  · split
    · exact deliver_verdict _ h e reading _
    · split
      · exact readClosed_verdict _ h reading
      · split
        · exact deliver_verdict _ h e reading _
        · split
          · rfl
          · exact readClosed_verdict _ h reading

theorem takeAvailable_verdict (b : Bridge) (id : TaskId) (h : ReaderHandle) (e : Reader) :
    (b.takeAvailable id h e).1.isVerdict = false := by
  unfold takeAvailable
  dsimp only
  split
  · rfl
  · split <;> rfl
  · split
    · exact nextFrame_verdict b id h e .available
    · rfl

theorem readLocked_verdict (b : Bridge) (id : TaskId) (h : ReaderHandle) (e : Reader)
    (reading : Reading) : (b.readLocked id h e reading).1.isVerdict = false := by
  unfold readLocked
  dsimp only
  split
  · split
    · rfl
    · exact readClosed_verdict _ h _
    · exact takeAvailable_verdict b id h e
    · exact nextFrame_verdict b id h e _
  · rfl

/-- A reading is told that its handle is invalid before it has done anything. -/
theorem read_verdict (hv : (b.read id h reading).1.isVerdict = true) :
    (b.read id h reading).2 = b := by
  unfold read at hv ⊢
  split
  · rename_i hcomplete
    rw [if_pos hcomplete] at hv
    cases hv
  · rename_i hcomplete
    rw [if_neg hcomplete] at hv
    split
    · rename_i f hf
      simp only [hf] at hv
      -- a reading that closes its reader gives the failure with what it has
      cases reading <;> first | rfl | cases hv
    · rename_i hf
      simp only [hf] at hv
      cases hv
    · rename_i e hf
      simp only [hf] at hv
      split at hv
      · rw [readClosed_verdict] at hv
        cases hv
      · rw [readLocked_verdict] at hv
        cases hv

theorem settle_verdict (b : Bridge) (id : TaskId) : (b.settle id).1.isVerdict = false := by
  unfold settle
  dsimp only
  split <;> rfl

theorem drain_verdict (b : Bridge) (id : TaskId) : (b.drain id).1.isVerdict = false := by
  unfold drain
  split <;> rfl

theorem closed_verdict {p : Except Failure Unit × Bridge} (hp : ∀ f, p.1 = .error f → p.2 = b)
    (hv : (closed p).1.isVerdict = true) : (closed p).2 = b := by
  obtain ⟨f | u, b'⟩ := p
  · exact hp f rfl
  · cases hv

/-- **Whoever is told that a handle cannot be used** has changed nothing. -/
theorem turn_verdict (b : Bridge) (id : TaskId) (stage : Stage)
    (hv : (b.turn id stage).1.isVerdict = true) : b.Level (b.turn id stage).2 := by
  cases hc : stage.creates with
  | true =>
    obtain ⟨f, hends, hf⟩ := Progress.ends_of_isVerdict hv
    obtain ⟨hwhy, hl⟩ := (b.turn_creates id hc).failed hends
    -- of the failures of a creation, only denials say it of a handle
    have hunasked : b.errand stage = {} := by
      cases hwhy with
      | denied _ he _ => exact he
      | _ => cases hf
    rw [granted_of_not_returned (by simp [hunasked]), hunasked] at hl
    exact b.does_nothing.trans hl
  | false =>
    refine .of_eq (Eq.symm ?_)
    cases stage with
    | fresh c =>
      cases c with
      | read x reading => exact read_verdict hv
      | closeConnection c =>
        refine closed_verdict (fun f hf => ?_) hv
        unfold closeConnection at hf ⊢
        split
        · rfl
        · rename_i hok
          simp only [hok] at hf
          cases hf
      | closeSession s =>
        refine closed_verdict (fun f hf => ?_) hv
        unfold closeSession at hf ⊢
        split
        · rfl
        · rename_i hok
          simp only [hok] at hf
          cases hf
      | closeReader x => cases hv
      | settle => exact absurd ((b.settle_verdict id).symm.trans hv) Bool.false_ne_true
      | shutdown => exact absurd ((settle_verdict _ id).symm.trans hv) Bool.false_ne_true
      | _ => cases hc
    | awaitingTurn x e reading =>
      unfold turn at hv
      dsimp only at hv
      split at hv
      · rw [readClosed_verdict] at hv
        cases hv
      · rw [readLocked_verdict] at hv
        cases hv
    | awaitingFrame x e reading =>
      unfold turn at hv
      dsimp only at hv
      split at hv
      · rw [readClosed_verdict] at hv
        cases hv
      · rw [nextFrame_verdict] at hv
        cases hv
    | draining => exact absurd ((b.drain_verdict id).symm.trans hv) Bool.false_ne_true
    | _ => cases hc

/-! ## Calls on a handle -/

/-- A call fails in its turn, and nothing has changed but that it is over. -/
def Denies (b : Bridge) (id : TaskId) (t : Task) (f : Failure) : Prop :=
  b.poll id = (some (t.told (.failed f)), (b.takeTurn id).conclude id)

theorem denies_of_turn (ht : b.task? id = some t) (hs : t.stage? = some stage)
    (hturn : (b.takeTurn id).turn id stage = (b.takeTurn id).fail f) : b.Denies id t f :=
  poll_of_turn ht hs hturn

/-- The calls on the service that a turn of a creation makes. -/
theorem callsIn_creates (ht : b.task? id = some t) (hs : t.stage? = some stage)
    (hc : stage.creates = true) :
    b.callsIn id (.turn id) = ((b.takeTurn id).errand stage).calls := by
  have hturn : ((b.takeTurn id).turn id stage).2.service.calls =
      b.service.calls ++ ((b.takeTurn id).errand stage).calls :=
    ((b.takeTurn id).turn_creates id hc).calls
  have hpoll : (b.poll id).2.service.calls = ((b.takeTurn id).turn id stage).2.service.calls := by
    rw [poll_call ht hs]
    rcases pollCall_level (b.takeTurn id) id t.request? stage with ⟨o, -, hl⟩ | ⟨s, -, hl⟩
    · exact hl.calls
    · exact hl.calls
  rw [callsIn, if_pos rfl, hpoll, hturn, List.drop_left]

theorem createSession_calls {c : ConnectionHandle} {e : Connection}
    (ho : b.registry.openConnection c = .ok e)
    (hcancel : b.registry.isCancelled (.connection c) = false) :
    (b.errand (.fresh (.createSession c))).calls = [⟨some e.client, .createSession⟩] := by
  simp only [errand, ho, hcancel, Bool.false_eq_true, if_false]
  -- whether or not the service will answer
  rw [apply_ite Errand.calls, Service.ask_calls, ite_self]

theorem executeQuery_calls {s : SessionHandle} {text : String} {e : Session}
    (ho : b.registry.openSession s = .ok e) (hrt : b.hasRuntime = true)
    (hcancel : b.registry.isCancelled (e.scope s) = false) :
    (b.errand (.fresh (.executeQuery s text))).calls =
      [⟨some e.client, .executeQuery e.globalId text⟩] := by
  simp only [errand, ho, hrt, hcancel, Bool.not_true, Bool.false_eq_true, if_false]
  exact Service.ask_calls _ _ _

/-- **The creation of a session**, by how its connection stands. -/
theorem createSession_verdict (hb : BridgeOK b none none) {c : ConnectionHandle}
    (ht : b.task? id = some t) (hs : t.stage? = some (.fresh (.createSession c))) :
    match b.registry.connections.standing c with
    | .live => ∃ e, b.registry.connections.get? c = some e ∧
        b.callsIn id (.turn id) = [⟨some e.client, .createSession⟩]
    | .closed => b.Denies id t (.illegalState .connection c .createSession)
    | .never => b.Denies id t (.invalidHandle .connection c) := by
  have hopen := openConnection_standing hb.registry c
  cases hstanding : b.registry.connections.standing c with
  | live =>
    rw [hstanding] at hopen
    obtain ⟨e, he, ho⟩ := hopen
    refine ⟨e, he, ?_⟩
    have hcancel : b.registry.isCancelled (.connection c) = false :=
      hb.registry.conn_not_cancelled he
    rw [callsIn_creates ht hs rfl]
    exact createSession_calls (b := b.takeTurn id) ho hcancel
  | closed =>
    rw [hstanding] at hopen
    refine denies_of_turn ht hs ?_
    show (b.takeTurn id).createSession id c = _
    unfold createSession
    rw [show (b.takeTurn id).registry.openConnection c = _ from hopen]
  | never =>
    rw [hstanding] at hopen
    refine denies_of_turn ht hs ?_
    show (b.takeTurn id).createSession id c = _
    unfold createSession
    rw [show (b.takeTurn id).registry.openConnection c = _ from hopen]

/-- **The execution of a query**, by how its session stands. -/
theorem executeQuery_verdict (hb : BridgeOK b none none) {s : SessionHandle} {text : String}
    (ht : b.task? id = some t) (hs : t.stage? = some (.fresh (.executeQuery s text))) :
    match b.registry.sessions.standing s with
    | .live => b.hasRuntime = true → ∃ e, b.registry.sessions.get? s = some e ∧
        b.callsIn id (.turn id) = [⟨some e.client, .executeQuery e.globalId text⟩]
    | .closed => b.Denies id t (.illegalState .session s .executeQuery)
    | .never => b.Denies id t (.invalidHandle .session s) := by
  have hopen := openSession_standing hb.registry s
  cases hstanding : b.registry.sessions.standing s with
  | live =>
    rw [hstanding] at hopen
    obtain ⟨e, he, ho⟩ := hopen
    intro hrt
    refine ⟨e, he, ?_⟩
    have hcancel : b.registry.isCancelled (e.scope s) = false := hb.registry.session_scope he
    rw [callsIn_creates ht hs rfl]
    exact executeQuery_calls (b := b.takeTurn id) ho hrt hcancel
  | closed =>
    rw [hstanding] at hopen
    refine denies_of_turn ht hs ?_
    show (b.takeTurn id).executeQuery id s text = _
    unfold executeQuery
    rw [show (b.takeTurn id).registry.openSession s = _ from hopen]
  | never =>
    rw [hstanding] at hopen
    refine denies_of_turn ht hs ?_
    show (b.takeTurn id).executeQuery id s text = _
    unfold executeQuery
    rw [show (b.takeTurn id).registry.openSession s = _ from hopen]

/-- A connection is closed if it is live, and not otherwise. -/
theorem closeConnection_standing (hr : RegistryOK b.registry) (c : ConnectionHandle) :
    if b.registry.connections.standing c = .live then (b.closeConnection c).1 = .ok ()
    else b.closeConnection c = (.error (.invalidHandle .connection c), b) := by
  split
  · rename_i hl
    obtain ⟨e, he⟩ := HandleTable.standing_eq_live.1 hl
    obtain ⟨r', hc, -⟩ := closeConnection_pruned hr he
    unfold closeConnection
    rw [hc]
  · rename_i hl
    have hg : b.registry.connections.get? c = none := by
      cases hg : b.registry.connections.get? c with
      | none => rfl
      | some e => exact absurd (HandleTable.standing_eq_live.2 ⟨e, hg⟩) hl
    have hc : b.registry.closeConnection c = .error (.invalidHandle .connection c) := by
      simp only [Registry.closeConnection, hg]
    unfold closeConnection
    rw [hc]

/-- A session is closed if it is live, and not otherwise. -/
theorem closeSession_standing (hr : RegistryOK b.registry) (s : SessionHandle) :
    if b.registry.sessions.standing s = .live then (b.closeSession s).1 = .ok ()
    else b.closeSession s = (.error (.invalidHandle .session s), b) := by
  split
  · rename_i hl
    obtain ⟨e, he⟩ := HandleTable.standing_eq_live.1 hl
    obtain ⟨r', hc, -⟩ := closeSession_pruned hr he
    unfold closeSession
    rw [hc]
  · rename_i hl
    have hg : b.registry.sessions.get? s = none := by
      cases hg : b.registry.sessions.get? s with
      | none => rfl
      | some e => exact absurd (HandleTable.standing_eq_live.2 ⟨e, hg⟩) hl
    have hc : b.registry.closeSession s = .error (.invalidHandle .session s) := by
      simp [Registry.closeSession, Registry.detachSession, hg]
    unfold closeSession
    rw [hc]

/-- A call that closes something tells what has become of it. -/
theorem close_verdict {p : Except Failure Unit × Bridge} {live : Prop} [Decidable live]
    (ht : b.task? id = some t) (hs : t.stage? = some stage)
    (hturn : (b.takeTurn id).turn id stage = closed p)
    (hp : if live then p.1 = .ok () else p = (.error f, b.takeTurn id)) :
    if live then (b.poll id).1 = some (t.told (.replied .done)) else b.Denies id t f := by
  split at hp
  · rename_i hl
    rw [if_pos hl]
    obtain ⟨q, b'⟩ := p
    obtain rfl : q = .ok () := hp
    rw [poll_call ht hs]
    unfold pollCall
    rw [hturn]
    rfl
  · rename_i hl
    rw [if_neg hl]
    refine denies_of_turn ht hs ?_
    rw [hturn, hp]
    rfl

end Bridge

/-- **The verdict on a handle is decided by what has happened.** In every run, a
session is asked for on a connection that was registered and not closed since; of
one that was closed the call is told so, and of one that was never registered, as
that of number zero, it is told that. So it is with queries on sessions, and a
close succeeds on what is live alone. Whoever is told that a handle cannot be used
has called nobody and has changed nothing. -/
theorem verdict_by_history (sessionIds : List String) (hangs : Bool) (config : BridgeConfig)
    (hasRuntime : Bool) (es : List Event) :
    let start : Bridge := .new { sessionIds, hangsCreateSession := hangs } config hasRuntime
    let b := start.after es
    let connection := fun c => standing (Deed.opens c) (start.deeds es)
    let session := fun s => standing (Deed.creates s) (start.deeds es)
    connection ⟨0⟩ = .never ∧ session ⟨0⟩ = .never ∧
    (∀ c, if connection c = .live then (b.closeConnection c).1 = .ok ()
      else b.closeConnection c = (.error (.invalidHandle .connection c), b)) ∧
    (∀ s, if session s = .live then (b.closeSession s).1 = .ok ()
      else b.closeSession s = (.error (.invalidHandle .session s), b)) ∧
    ∀ id t, b.task? id = some t →
      (∀ c, t.stage? = some (.fresh (.createSession c)) →
        match connection c with
        | .live => ∃ e, b.registry.connections.get? c = some e ∧
            b.callsIn id (.turn id) = [⟨some e.client, .createSession⟩]
        | .closed => b.Denies id t (.illegalState .connection c .createSession)
        | .never => b.Denies id t (.invalidHandle .connection c)) ∧
      (∀ s text, t.stage? = some (.fresh (.executeQuery s text)) →
        match session s with
        | .live => b.hasRuntime = true → ∃ e, b.registry.sessions.get? s = some e ∧
            b.callsIn id (.turn id) = [⟨some e.client, .executeQuery e.globalId text⟩]
        | .closed => b.Denies id t (.illegalState .session s .executeQuery)
        | .never => b.Denies id t (.invalidHandle .session s)) ∧
      (∀ c, t.stage? = some (.fresh (.closeConnection c)) →
        if connection c = .live then (b.poll id).1 = some (t.told (.replied .done))
        else b.Denies id t (.invalidHandle .connection c)) ∧
      (∀ s, t.stage? = some (.fresh (.closeSession s)) →
        if session s = .live then (b.poll id).1 = some (t.told (.replied .done))
        else b.Denies id t (.invalidHandle .session s)) ∧
      ∀ stage f, t.stage? = some stage → f.isVerdict = true →
        ((b.takeTurn id).turn id stage).1 = .ends (.failed f) →
        (b.conclude id).Level (b.poll id).2 := by
  intro start b connection session
  have hstart : start.Reachable := .start sessionIds hangs config hasRuntime
  have hb : BridgeOK b none none := (hstart.after es).ok
  have hrecords := after_records hstart records_empty es
  rw [List.nil_append] at hrecords
  refine ⟨(hrecords.connections ⟨0⟩).symm.trans (HandleTable.standing_zero _),
    (hrecords.sessions ⟨0⟩).symm.trans (HandleTable.standing_zero _), fun c => ?_, fun s => ?_,
    fun id t ht => ?_⟩
  · have hc := Bridge.closeConnection_standing hb.registry c
    rwa [hrecords.connections c] at hc
  · have hc := Bridge.closeSession_standing hb.registry s
    rwa [hrecords.sessions s] at hc
  refine ⟨fun c hs => ?_, fun s text hs => ?_, fun c hs => ?_, fun s hs => ?_,
    fun stage f hs hf hturn => ?_⟩
  · have hv := Bridge.createSession_verdict hb ht hs
    rwa [hrecords.connections c] at hv
  · have hv := Bridge.executeQuery_verdict hb ht hs
    rwa [hrecords.sessions s] at hv
  · have hc := Bridge.closeConnection_standing (b := b.takeTurn id) hb.registry c
    have hv := Bridge.close_verdict ht hs rfl hc
    rwa [show (b.takeTurn id).registry.connections.standing c = _ from
      hrecords.connections c] at hv
  · have hc := Bridge.closeSession_standing (b := b.takeTurn id) hb.registry s
    have hv := Bridge.close_verdict ht hs rfl hc
    rwa [show (b.takeTurn id).registry.sessions.standing s = _ from hrecords.sessions s] at hv
  · have hl := (b.takeTurn id).turn_verdict id stage (by rw [hturn]; exact hf)
    rw [Bridge.poll_call ht hs]
    exact (((b.takeTurn_level id).trans hl).conclude id).trans
      (Bridge.pollCall_ended t.request? hturn)

/-- A session is asked for on a connection that was closed while the call waited
for its turn, and one on a connection that never was. -/
theorem verdict_by_history_closed :
    let b := (Bridge.new {} ⟨10, ⟨"", 1⟩⟩ true).after
      [.call (.openConnection "a://b" none), .turn 0, .call (.createSession ⟨1⟩),
        .call (.createSession ⟨2⟩), .close (.connection ⟨1⟩)]
    b.Denies 1 (.call none (.fresh (.createSession ⟨1⟩)))
        (.illegalState .connection ⟨1⟩ .createSession) ∧
      b.Denies 2 (.call none (.fresh (.createSession ⟨2⟩))) (.invalidHandle .connection ⟨2⟩) := by
  intro b
  set start : Bridge := .new {} ⟨10, ⟨"", 1⟩⟩ true
  set es : List Event := [.call (.openConnection "a://b" none), .turn 0,
    .call (.createSession ⟨1⟩), .call (.createSession ⟨2⟩), .close (.connection ⟨1⟩)]
  have hverdict := (verdict_by_history [] false ⟨10, ⟨"", 1⟩⟩ true es).2.2.2.2
  constructor
  · have ht : b.task? 1 = some (.call none (.fresh (.createSession ⟨1⟩))) := by decide +kernel
    have hclosed : standing (Deed.opens ⟨1⟩) (start.deeds es) = .closed := by decide +kernel
    have hdenied := (hverdict 1 _ ht).1 ⟨1⟩ rfl
    dsimp only at hdenied
    rw [hclosed] at hdenied
    exact hdenied
  · have ht : b.task? 2 = some (.call none (.fresh (.createSession ⟨2⟩))) := by decide +kernel
    have hnever : standing (Deed.opens ⟨2⟩) (start.deeds es) = .never := by decide +kernel
    have hdenied := (hverdict 2 _ ht).1 ⟨2⟩ rfl
    dsimp only at hdenied
    rw [hnever] at hdenied
    exact hdenied

end QueryBridge
