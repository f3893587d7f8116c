import QueryBridge.Bridge.Run
import QueryBridge.Proofs.Bridge.Quiet

/-!
# Turns of calls

Every turn of a call is made of moves, and what is told of them fits how the
call stands afterwards.

* `Turned`: what is known of any turn.
* `Bridge.turn_turned`: every turn is like that.
-/

namespace QueryBridge

variable {b b' : Bridge} {me : TaskId} {inHand inHand' : Option Stream} {t : Bridge.Turn}
  {reader : Option ReaderHandle}

/-! ## What a turn tells -/

/-- The frames that were taken off readers. -/
def takenFrames (ns : List Note) : List Frame :=
  ns.flatMap fun
    | .took _ fs => fs
    | _ => []

/-- The reader that a call reads. -/
def Call.reader? : Call → Option ReaderHandle
  | .read h _ => some h
  | _ => none

def Stage.reader? : Stage → Option ReaderHandle
  | .fresh c => c.reader?
  | .awaitingTurn h .. | .awaitingFrame h .. => some h
  | _ => none

namespace Progress

/-- The stream that a call keeps. -/
def stream? : Progress Stage Outcome → Option Stream
  | ends _ => none
  | waits s | goesOn s => (Task.call none s).stream?

/-- The chunks that a turn hands out. A reading of more than one chunk goes on after each. -/
def chunks : Progress Stage Outcome → List Bytes
  | ends (.replied (.chunk c)) => c.toList
  | ends (.replied (.batch cs _)) => cs
  | goesOn (.fresh (.read _ (.all taken))) | goesOn (.fresh (.read _ (.upTo _ taken))) =>
    taken.getLast?.toList
  | _ => []

/-- Whether a turn reports the end of a stream. -/
def tellsEnd : Progress Stage Outcome → Bool
  | ends (.replied (.chunk none)) | ends (.replied (.batch _ true)) => true
  | _ => false

/-- Whether a call waits, has met a resource that was closed, or has broken off. -/
def isIdle : Progress Stage Outcome → Bool
  | waits _ | ends (.failed (.resourceClosed ..)) | ends .crashed => true
  | _ => false

/-- Whether a turn tells nothing of a stream. -/
def isPlain (p : Progress Stage Outcome) : Prop :=
  p.chunks = [] ∧ p.tellsEnd = false ∧ ∀ m, p ≠ ends (.failed (.transportFailure m))

end Progress

/-- What is told of the moves of a turn fits how the call stands after it. -/
structure Tells (reader : Option ReaderHandle) (ns : List Note) (t : Bridge.Turn) : Prop where
  idle : t.1.isIdle = true → ∀ n ∈ ns, n = .aside
  only : ∀ h fs, .took h fs ∈ ns → reader = some h
  chunks : (takenFrames ns).filterMap Frame.bytes? = t.1.chunks
  ended : t.1.tellsEnd = true → ∃ h, reader = some h ∧ (t.2.registry.reader h).state = .exhausted
  failed : ∀ m, t.1 = .ends (.failed (.transportFailure m)) →
    (takenFrames ns).getLast? = some (.failure m)

/-- A turn is made of moves; where the call goes on, it remembers what is so. -/
def Turned (me : TaskId) (reader : Option ReaderHandle) (b : Bridge) (inHand : Option Stream)
    (t : Bridge.Turn) : Prop :=
  ∃ ns, Moves (some me) b inHand ns t.2 t.1.stream? ∧ Tells reader ns t ∧
    ∀ s, t.1 = .waits s ∨ t.1 = .goesOn s → StageOK t.2 s ∧ HoldsLock t.2 me (.call none s)

theorem takenFrames_aside {ns : List Note} (h : ∀ n ∈ ns, n = .aside) : takenFrames ns = [] := by
  refine List.flatMap_eq_nil_iff.2 fun n hn => ?_
  rw [h n hn]

theorem takenFrames_append (ns ns' : List Note) :
    takenFrames (ns ++ ns') = takenFrames ns ++ takenFrames ns' := List.flatMap_append

namespace Tells

/-- What happens quietly before a turn is not told. -/
theorem after {ns₀ ns : List Note} (hn : ∀ n ∈ ns₀, n = .aside) (h : Tells reader ns t) :
    Tells reader (ns₀ ++ ns) t where
  idle hi n hm := (List.mem_append.1 hm).elim (hn n) (h.idle hi n)
  only x fs hm := by
    rcases List.mem_append.1 hm with hm | hm
    · cases hn _ hm
    · exact h.only x fs hm
  chunks := by rw [takenFrames_append, takenFrames_aside hn]; exact h.chunks
  ended := h.ended
  failed := by rw [takenFrames_append, takenFrames_aside hn]; exact h.failed

theorem of_plain {ns : List Note} (hn : ∀ n ∈ ns, n = .aside) (hp : t.1.isPlain) :
    Tells reader ns t where
  idle _ := hn
  only x fs hm := by cases hn _ hm
  chunks := by rw [takenFrames_aside hn, hp.1]; rfl
  ended he := by rw [hp.2.1] at he; cases he
  failed m hm := absurd hm (hp.2.2 m)

end Tells

namespace Turned

/-- What happens quietly before a turn may count as a part of it. -/
theorem after (hq : Quietly (some me) b inHand b' inHand') (h : Turned me reader b' inHand' t) :
    Turned me reader b inHand t := by
  obtain ⟨ns₀, hm₀, hn⟩ := hq
  obtain ⟨ns, hm, ht, hs⟩ := h
  exact ⟨ns₀ ++ ns, hm₀.trans hm, ht.after hn, hs⟩

/-- A call ends and tells nothing of a stream. -/
theorem ends {o : Outcome} (hq : Quietly (some me) b inHand b' none)
    (hp : (Progress.ends o : Progress Stage Outcome).isPlain) :
    Turned me reader b inHand (.ends o, b') := by
  obtain ⟨ns, hm, hn⟩ := hq
  exact ⟨ns, hm, .of_plain hn hp, fun s hs => by simp at hs⟩

theorem fails {f : Failure} (hq : Quietly (some me) b inHand b' none)
    (hf : ∀ m, f ≠ .transportFailure m) : Turned me reader b inHand (b'.fail f) :=
  ends hq ⟨rfl, rfl, fun m hm => by cases hm; exact hf m rfl⟩

/-- A call waits. -/
theorem waits {s : Stage} (hq : Quietly (some me) b inHand b' (Task.call none s).stream?)
    (hs : StageOK b' s) (hk : HoldsLock b' me (.call none s)) :
    Turned me reader b inHand (.waits s, b') := by
  obtain ⟨ns, hm, hn⟩ := hq
  refine ⟨ns, hm, .of_plain hn ⟨rfl, rfl, fun m hm => nomatch hm⟩, fun s' hs' => ?_⟩
  simp only [Progress.waits.injEq, reduceCtorEq, or_false] at hs'
  subst hs'
  exact ⟨hs, hk⟩

/-- A call ends with a resource that it has registered. -/
theorem registers {n : Note} {r : Reply} (hm : Move (some me) b inHand n b' none)
    (hn : ∀ h fs, n ≠ .took h fs)
    (hp : (Progress.ends (.replied r) : Progress Stage Outcome).isPlain) :
    Turned me reader b inHand (b'.reply r) := by
  have ht : takenFrames [n] = [] := by
    cases n with
    | took h fs => exact absurd rfl (hn h fs)
    | _ => rfl
  refine ⟨[n], hm.moves, ⟨fun hi => ?_, fun h fs hmem => ?_, ?_, fun he => ?_, fun m hm => ?_⟩,
    fun s hs => by simp [Bridge.reply] at hs⟩
  · simp [Bridge.reply, Progress.isIdle] at hi
  · exact absurd (List.mem_singleton.1 hmem).symm (hn h fs)
  · rw [ht]; exact hp.1.symm
  · exact absurd he (by rw [Bridge.reply, hp.2.1]; simp)
  · exact absurd hm (hp.2.2 m)

/-- A reading takes frames; what follows in its turn is quiet. -/
theorem reads {h : ReaderHandle} {fs : List Frame} {b₁ : Bridge} {p : Progress Stage Outcome}
    (hm : Move (some me) b none (.took h fs) b₁ none) (hq : Quietly (some me) b₁ none b' none)
    (hs : p.stream? = none) (hi : p.isIdle = false) (hc : fs.filterMap Frame.bytes? = p.chunks)
    (he : p.tellsEnd = true → (b'.registry.reader h).state = .exhausted)
    (hf : ∀ m, p = .ends (.failed (.transportFailure m)) → fs.getLast? = some (.failure m))
    (hp : ∀ s, p = .waits s ∨ p = .goesOn s → StageOK b' s ∧ HoldsLock b' me (.call none s)) :
    Turned me (some h) b none (p, b') := by
  obtain ⟨ns, hm', hn⟩ := hq
  have ht : takenFrames (.took h fs :: ns) = fs := by
    rw [← List.singleton_append, takenFrames_append, takenFrames_aside hn, List.append_nil]
    exact List.append_nil fs
  refine ⟨.took h fs :: ns, ?_, ⟨?_, fun x fs' hx => ?_, ?_, fun hx => ?_, ?_⟩, hp⟩
  · rw [hs]; exact .cons hm hm'
  · intro hx
    rw [hi] at hx
    cases hx
  · rcases List.mem_cons.1 hx with hx | hx
    · cases hx; rfl
    · cases hn _ hx
  · rw [ht]; exact hc
  · exact ⟨h, rfl, he hx⟩
  · rw [ht]; exact hf

end Turned

namespace Bridge

/-! ## Connections -/

theorem register_turned (b : Bridge) (url : Url) (client : ClientId) :
    Turned me reader b none (b.register url client) := by
  unfold register
  split
  · rename_i c r hr
    exact .registers (.opened hr) (fun _ _ h => nomatch h) ⟨rfl, rfl, fun m hm => nomatch hm⟩
  · rename_i f hf
    obtain rfl := addConnection_eq_error hf
    exact .fails (b.sayFarewell_quietly client _) fun _ h => nomatch h

theorem opening_turned (url : Url) (client : ClientId) (p : Course × Bridge) :
    Turned me reader p.2 none (opening url client p) := by
  obtain ⟨course, b⟩ := p
  cases course with
  | held held => exact .waits (.refl b none) trivial trivial
  | refused message => exact .fails (.refl b none) fun _ h => nomatch h
  | returned => exact b.register_turned url client

theorem openRemote_turned (b : Bridge) (url : Url) (client : ClientId) :
    Turned me reader b none (b.openRemote me url client) := by
  have hq : Quietly (some me) b none (b.call (some client) .openConnection).2 none :=
    .of_aside (b.call_aside _ _)
  unfold openRemote
  split <;> rename_i b₁ hc <;> rw [hc] at hq
  · exact .fails hq fun _ h => nomatch h
  · exact .after (hq.trans (b₁.passHooks_quietly me _)) (opening_turned url client _)

theorem connecting_turned (url : Url) (client : ClientId) (p : Course × Bridge) :
    Turned me reader p.2 none (connecting me url client p) := by
  obtain ⟨course, b⟩ := p
  cases course with
  | held held => exact .waits (.refl b none) trivial trivial
  | refused message => exact .fails (.refl b none) fun _ h => nomatch h
  | returned => exact b.openRemote_turned url client

/-- A text that is not the URL of a service is an argument that is not valid. -/
theorem ofService_failure {text : String} {f : Failure} (h : Url.ofService text = .error f) :
    ∃ message, f = .invalidArgument message := by
  unfold Url.ofService at h
  split at h
  · cases h
  · exact ⟨_, (Except.error.inj h).symm⟩
  · exact ⟨_, (Except.error.inj h).symm⟩

theorem openConnection_turned (b : Bridge) (text : String) (credentials : Option Credentials) :
    Turned me reader b none (b.openConnection me text credentials) := by
  unfold openConnection
  split
  · rename_i f hf
    obtain ⟨message, rfl⟩ := ofService_failure hf
    exact .fails (.refl b none) fun _ h => nomatch h
  · rename_i url _
    have hq : Quietly (some me) b none (b.call none (.createClient ⟨url, credentials⟩)).2 none :=
      .of_aside (b.call_aside _ _)
    split <;> rename_i b₁ hc <;> rw [hc] at hq
    · exact .fails hq fun _ h => nomatch h
    · have h := hq.trans (.of_aside b₁.newClient_aside)
      exact .after (h.trans (passHooks_quietly _ me _)) (connecting_turned url _ _)

/-! ## Sessions -/

theorem adopt_turned (hb : BridgeOK b (some me) none) {c : ConnectionHandle} {client : ClientId}
    (hn : b.registry.NamesConnection c client) (globalId : GlobalSessionId) :
    Turned me reader b none (b.adopt c client globalId) := by
  unfold adopt
  split
  · rename_i ho
    obtain ⟨e, he⟩ := (hb.registry.connOpen c).1 ho
    split
    · rename_i s r hr
      exact .registers (.created hr he (hn.2 e he)) (fun _ _ h => nomatch h)
        ⟨rfl, rfl, fun m hm => nomatch hm⟩
    · rename_i f hf
      obtain rfl := addSession_eq_error hf
      exact .fails (b.sayFarewell_quietly client _) fun _ h => nomatch h
  · exact .fails (b.sayFarewell_quietly client _) fun _ h => nomatch h

theorem creating_turned {c : ConnectionHandle} {client : ClientId} {p : Course × Bridge}
    (hb : BridgeOK p.2 (some me) none) (hn : p.2.registry.NamesConnection c client)
    (globalId : GlobalSessionId) :
    Turned me reader p.2 none (creating c client globalId p) := by
  obtain ⟨course, b⟩ := p
  cases course with
  | held held => exact .waits (.refl b none) hn trivial
  | refused message => exact .fails (.refl b none) fun _ h => nomatch h
  | returned => exact adopt_turned hb hn globalId

/-- A connection that sessions can be created on is live. -/
theorem openConnection_live {r : Registry} {c : ConnectionHandle} {e : Connection}
    (h : r.openConnection c = .ok e) : r.connections.get? c = some e := by
  unfold Registry.openConnection at h
  split at h
  · rename_i e' he
    split at h
    · rw [he, Except.ok.inj h]
    · cases h
  · split at h <;> cases h

theorem openConnection_failure {r : Registry} {c : ConnectionHandle} {f : Failure}
    (h : r.openConnection c = .error f) (m : String) : f ≠ .transportFailure m := by
  unfold Registry.openConnection at h
  split at h <;> split at h <;> cases h <;> exact fun h => nomatch h

theorem createSession_turned (hb : BridgeOK b (some me) none) (c : ConnectionHandle) :
    Turned me reader b none (b.createSession me c) := by
  unfold createSession
  split
  · rename_i f hf
    exact .fails (.refl b none) (openConnection_failure hf)
  · rename_i e he
    have hn := namesConnection_of_get? (openConnection_live he)
    split
    · exact .fails (.refl b none) fun _ h => nomatch h
    · have hq : Quietly (some me) b none (b.call (some e.client) .createSession).2 none :=
        .of_aside (b.call_aside _ _)
      split <;> rename_i b₁ hc <;> rw [hc] at hq
      · exact .fails hq fun _ h => nomatch h
      · split
        · exact .waits hq ((hq.later hb).registry.connIssued hn.1) trivial
        · have hq' := (hq.trans (.of_aside b₁.nextSessionId_aside)).trans
            (passHooks_quietly _ me .createSession)
          have hn' := (hq'.later hb).registry.namesConnection hn
          exact .after hq' (creating_turned (hq'.ok hb) hn' _)

/-! ## Readers -/

theorem attach_turned {stream : Stream} (hb : BridgeOK b (some me) (some stream))
    {s : SessionHandle} {e : Session} (hn : b.registry.NamesSession s e) :
    Turned me reader b (some stream) (b.attach s e stream) := by
  unfold attach
  split
  · exact .ends (b.dropStream_quietly stream) ⟨rfl, rfl, fun m hm => nomatch hm⟩
  · rename_i ch hch
    split
    · rename_i ho
      obtain ⟨e', he'⟩ := (hb.registry.sessOpen s).1 ho
      obtain rfl := hn.2 e' he'
      dsimp only
      split
      · rename_i h r hr
        exact .registers (.executed hch hr he' rfl) (fun _ _ h => nomatch h)
          ⟨rfl, rfl, fun m hm => nomatch hm⟩
      · rename_i f hf
        obtain rfl := addReader_eq_error hf
        exact .fails (b.dropStream_quietly stream) fun _ h => nomatch h
    · exact .fails (b.dropStream_quietly stream) fun _ h => nomatch h

theorem executing_turned {stream : Stream} {p : Course × Bridge}
    (hb : BridgeOK p.2 (some me) (some stream)) {s : SessionHandle} {e : Session}
    (hn : p.2.registry.NamesSession s e) :
    Turned me reader p.2 (some stream) (executing s e stream p) := by
  obtain ⟨course, b⟩ := p
  cases course with
  | held held => exact .waits (.refl b _) hn trivial
  | refused message => exact .fails (b.dropStream_quietly stream) fun _ h => nomatch h
  | returned => exact attach_turned hb hn

/-- A session that queries can be executed on is live. -/
theorem openSession_live {r : Registry} {s : SessionHandle} {e : Session}
    (h : r.openSession s = .ok e) : r.sessions.get? s = some e := by
  unfold Registry.openSession at h
  split at h
  · rename_i e' he
    split at h
    · rw [he, Except.ok.inj h]
    · cases h
  · split at h <;> cases h

theorem openSession_failure {r : Registry} {s : SessionHandle} {f : Failure}
    (h : r.openSession s = .error f) (m : String) : f ≠ .transportFailure m := by
  unfold Registry.openSession at h
  split at h <;> split at h <;> cases h <;> exact fun h => nomatch h

theorem executeQuery_turned (hb : BridgeOK b (some me) none) (s : SessionHandle) (text : String) :
    Turned me reader b none (b.executeQuery me s text) := by
  unfold executeQuery
  split
  · rename_i f hf
    exact .fails (.refl b none) (openSession_failure hf)
  · rename_i e he
    have hn := namesSession_of_get? (openSession_live he)
    split
    · exact .fails (.refl b none) fun _ h => nomatch h
    · split
      · exact .fails (.refl b none) fun _ h => nomatch h
      · have hq : Quietly (some me) b none
            (b.call (some e.client) (.executeQuery e.globalId text)).2 none :=
          .of_aside (b.call_aside _ _)
        split <;> rename_i b₁ hc <;> rw [hc] at hq
        · exact .fails hq fun _ h => nomatch h
        · have hq' := (hq.trans (.of_move (.claimed text))).trans
            (passHooks_quietly _ me .executeQuery)
          exact .after hq' (executing_turned (hq'.ok hb) ((hq'.later hb).registry.namesSession hn))

/-! ## Reading -/

/-- How a reading ends that is not given another chunk. -/
theorem endReading_quietly (b : Bridge) (h : ReaderHandle) (reading : Reading) (o : Outcome) :
    Quietly (some me) b inHand (b.endReading h reading o).2 inHand := by
  unfold endReading
  dsimp only
  split
  · exact b.closeReader_quietly h
  · exact .refl b inHand

theorem leaveLock_reader (b : Bridge) (h x : ReaderHandle) :
    ((b.leaveLock h).registry.reader x).state = (b.registry.reader x).state := by
  rw [leaveLock, wakeAll_registry]
  exact Registry.reader_modify_keeps _ h (g := ReaderStatus.state) rfl x

theorem readFailure_turned (hq : Quietly (some me) b none b' none) (h : ReaderHandle)
    (reading : Reading) {f : Failure} (hf : ∀ m, f ≠ .transportFailure m) :
    Turned me reader b none (b'.readFailure h reading f) := by
  refine .ends (hq.trans (b'.endReading_quietly h reading (reading.outcome f))) ?_
  cases reading
  case upTo limit taken => exact ⟨rfl, rfl, fun m hm => nomatch hm⟩
  all_goals
    refine ⟨rfl, rfl, fun m hm => hf m ?_⟩
    simpa [Reading.outcome] using hm

/-- A reading is over because its reader has been closed. -/
theorem readClosed_turned (hq : Quietly (some me) b none b' none) (h : ReaderHandle)
    (reading : Reading) : Turned me reader b none (b'.readClosed h reading) :=
  readFailure_turned hq h reading fun _ h => nomatch h

/-- Only a reading of the next chunk, or of all that there is, reports an end. -/
theorem tellsEnd_reply {reading : Reading}
    (h : (Progress.ends (.replied reading.reply) : Progress Stage Outcome).tellsEnd = true) :
    reading.closesReader = false := by
  cases reading <;> first | rfl | cases h

theorem chunks_reply (reading : Reading) :
    (Progress.ends (.replied reading.reply) : Progress Stage Outcome).chunks = [] := by
  cases reading <;> rfl

/-- A reading ends at the end of the stream, which was taken before. -/
theorem readEnd_turned (hq : Quietly (some me) b none b' none) {h : ReaderHandle}
    {reading : Reading}
    (hst : reading.closesReader = false → (b'.registry.reader h).state = .exhausted) :
    Turned me (some h) b none (b'.readEnd h reading) := by
  obtain ⟨ns, hm, hn⟩ := hq.trans (b'.endReading_quietly h reading (.replied reading.reply))
  refine ⟨ns, hm, ⟨fun _ => hn, fun x fs hx => ?_, ?_, fun he => ⟨h, rfl, ?_⟩, ?_⟩, ?_⟩
  · cases hn _ hx
  · rw [takenFrames_aside hn]
    exact (chunks_reply reading).symm
  · have hc := tellsEnd_reply he
    simp only [readEnd, endReading, hc, Bool.false_eq_true, if_false]
    exact hst hc
  · intro m hx
    simp [readEnd, endReading] at hx
  · intro s hs
    simp [readEnd, endReading] at hs

/-- A reading takes the end of the stream. -/
theorem readEnd_takes {b₁ : Bridge} {h : ReaderHandle} {fs : List Frame}
    (hm : Move (some me) b none (.took h fs) b₁ none) (hq : Quietly (some me) b₁ none b' none)
    (hfs : fs.filterMap Frame.bytes? = []) (hst : (b'.registry.reader h).state = .exhausted)
    (reading : Reading) : Turned me (some h) b none (b'.readEnd h reading) := by
  refine .reads hm (hq.trans (b'.endReading_quietly h reading (.replied reading.reply))) rfl ?_ ?_
    (fun he => ?_) (fun m hx => ?_) (fun s hs => ?_)
  · cases reading <;> rfl
  · rw [hfs]; exact (chunks_reply reading).symm
  · have hc := tellsEnd_reply he
    simp only [hc, Bool.false_eq_true, if_false]
    exact hst
  · simp at hx
  · simp at hs

section Taking

variable {h : ReaderHandle} {e : Reader} {fs : List Frame} {f : ReaderStatus → ReaderStatus}
  {b₂ : Bridge}

/-- Who holds the lock of a reader still does when frames have been taken off it. -/
theorem taken_holder (hk : (b.registry.reader h).lock.holder = some me)
    (hg : (b.registry.reader h).Gives (f (b.registry.reader h)) fs)
    (hw : (b.modifyReader h f).Aside b₂) : (b₂.registry.reader h).lock.holder = some me := by
  rw [hw.registry]
  show ((b.registry.modifyReader h f).reader h).lock.holder = some me
  rw [Registry.reader_modify_keeps _ h (g := ReaderStatus.lock) hg.lock]
  exact hk

/-- What is left of a turn in which chunks were taken. -/
theorem taken_quietly (hk : (b.registry.reader h).lock.holder = some me)
    (hg : (b.registry.reader h).Gives (f (b.registry.reader h)) fs)
    (hw : (b.modifyReader h f).Aside b₂) :
    Quietly (some me) (b.modifyReader h f) none (b₂.leaveLock h) none :=
  (Quietly.of_aside hw).trans (b₂.leaveLock_quietly (taken_holder hk hg hw))

/-- What is left of a turn in which the end of the stream was taken. -/
theorem finished_quietly (hst : (b.registry.reader h).state ≠ .closed)
    (hk : (b.registry.reader h).lock.holder = some me)
    (hg : (b.registry.reader h).Gives (f (b.registry.reader h)) fs)
    (hw : (b.modifyReader h f).Aside b₂) (e : Reader) :
    let b' := (b₂.withRegistry (b₂.registry.exhaust h e)).leaveLock h
    Quietly (some me) (b.withRegistry ((b.registry.modifyReader h f).exhaust h e)) none b' none ∧
      (b'.registry.reader h).state = .exhausted := by
  have hreg : b₂.registry = b.registry.modifyReader h f := hw.registry
  have hk₂ := taken_holder hk hg hw
  have hst₂ : (b₂.registry.reader h).state ≠ .closed := by
    rw [hreg, Registry.reader_modify_keeps _ h (g := ReaderStatus.state) hg.state]
    exact hst
  refine ⟨?_, ?_⟩
  -- waking the pump and exhausting the reader may change places
  · have hw' := hw.withRegistry (b₂.registry.exhaust h e)
    rw [hreg] at hw'
    refine (Quietly.of_aside hw').trans ?_
    rw [hreg]
    refine leaveLock_quietly _ ?_
    rw [← hreg]
    show ((b₂.registry.exhaust h e).reader h).lock.holder = some me
    rw [Registry.exhaust_reader, Registry.reader_modify_keeps _ h (g := ReaderStatus.lock) rfl]
    exact hk₂
  · rw [leaveLock_reader]
    exact Registry.exhaust_state hst₂ e

/-- What is left of a turn in which the failure of the stream was taken. -/
theorem failed_quietly (hb : BridgeOK (b.modifyReader h f) (some me) none)
    (hk : (b.registry.reader h).lock.holder = some me)
    (hg : (b.registry.reader h).Gives (f (b.registry.reader h)) fs)
    (hw : (b.modifyReader h f).Aside b₂) :
    Quietly (some me) (b.modifyReader h f) none ((b₂.closeReader h).leaveLock h) none := by
  refine (Quietly.of_aside hw).trans ((b₂.closeReader_quietly h).trans (leaveLock_quietly _ ?_))
  rw [closeReader_registry]
  have hst := (Registry.CloseStep.reader b₂.registry h).status (hw.ok hb).registry h
  rcases hst with hx | ⟨-, hx⟩ <;> rw [hx] <;> exact taken_holder hk hg hw

/-- **A frame that was taken is delivered**, whoever was woken meanwhile. -/
theorem deliver_turned (hb : BridgeOK b (some me) none)
    (hst : (b.registry.reader h).state ≠ .closed)
    (hk : (b.registry.reader h).lock.holder = some me) (hn : b.registry.NamesReader h e)
    {fr : Frame} (hg : (b.registry.reader h).Gives (f (b.registry.reader h)) [fr])
    (hw : (b.modifyReader h f).Aside b₂) (reading : Reading) :
    Turned me (some h) b none (b₂.deliver h e reading fr) := by
  have htook : Move (some me) b none (.took h [fr]) (b.modifyReader h f) none := .took hst hg
  cases fr with
  | data c =>
    have hq := taken_quietly hk hg hw
    unfold deliver readChunk
    cases reading with
    | next => exact .reads htook hq rfl rfl rfl nofun nofun (by simp)
    | available => exact .reads htook hq rfl rfl rfl nofun nofun (by simp)
    | all taken =>
      refine .reads htook hq rfl rfl (by simp [Progress.chunks, Frame.bytes?]) nofun nofun ?_
      rintro s (hs | hs) <;> cases hs
      exact ⟨trivial, trivial⟩
    | upTo limit taken =>
      refine .reads htook hq rfl rfl (by simp [Progress.chunks, Frame.bytes?]) nofun nofun ?_
      rintro s (hs | hs) <;> cases hs
      exact ⟨trivial, trivial⟩
  | finish =>
    obtain ⟨hq, hex⟩ := finished_quietly hst hk hg hw e
    have hm : Move (some me) b none (.took h ([] ++ [.finish])) _ none := .finished hst hg hn
    exact readEnd_takes hm hq rfl hex reading
  | failure message =>
    have hq := failed_quietly (htook.ok hb).1 hk hg hw
    unfold deliver readFailure
    refine .reads htook (hq.trans (endReading_quietly _ h reading
      (reading.outcome (.transportFailure message)))) rfl ?_ ?_ (fun he => ?_) (fun m hx => ?_)
      (by simp)
    · cases reading <;> rfl
    · cases reading <;> rfl
    · cases reading <;> cases he
    · cases reading <;> simp_all [Reading.outcome]

end Taking

/-- **A reading that has the lock** takes the next frame, or waits for one. -/
theorem nextFrame_turned (hb : BridgeOK b (some me) none) {h : ReaderHandle} {e : Reader}
    (hst : (b.registry.reader h).state ≠ .closed)
    (hk : (b.registry.reader h).lock.holder = some me) (hn : b.registry.NamesReader h e)
    (reading : Reading) : Turned me (some h) b none (b.nextFrame me h e reading) := by
  unfold nextFrame
  dsimp only
  split
  -- a failure that was held back
  · rename_i fr hfr
    refine deliver_turned hb hst hk hn (f := fun s => { s with held := none }) ?_ (.refl _) reading
    exact ⟨rfl, rfl, rfl, rfl, by simp [ReaderStatus.contents, hfr], rfl, nofun⟩
  · rename_i hheld
    split
    -- the end was taken before
    · rename_i hrec
      rw [Bool.not_eq_true', ← Bool.not_eq_true] at hrec
      have hex : (b.registry.reader h).state = .exhausted := by
        cases hs : (b.registry.reader h).state with
        | active => exact absurd (hb.receiving h hs) hrec
        | exhausted => rfl
        | closed => exact absurd hs hst
      have hm : Move (some me) b none (.took h []) (b.withRegistry (b.registry.exhaust h e)) none :=
        .finishedAgain hex hn
      refine readEnd_takes hm (leaveLock_quietly _ ?_) rfl ?_ reading
      · show ((b.registry.exhaust h e).reader h).lock.holder = some me
        rw [Registry.exhaust_reader, Registry.reader_modify_keeps _ h (g := ReaderStatus.lock) rfl]
        exact hk
      · rw [leaveLock_reader]
        exact Registry.exhaust_state hst e
    · rename_i hrec
      rw [Bool.not_eq_true', Bool.not_eq_false] at hrec
      split
      · exact readClosed_turned (b.leaveLock_quietly hk) h reading
      · split
        -- the first frame in the channel
        · rename_i fr rest hbuf
          refine deliver_turned hb hst hk hn (f := fun s => { s with
            channel := { s.channel with buffer := rest, roomWaiter := none } }) ?_
            (wakeAll_aside _ _) reading
          refine ⟨rfl, rfl, rfl, rfl, by simp [ReaderStatus.contents, hheld, hrec, hbuf], rfl,
            fun f hf => ?_⟩
          cases hheld.symm.trans hf
        · split
          -- the channel is empty: the reading keeps the lock while it waits
          · have hc : (b.registry.reader h).Aside (some me) { b.registry.reader h with
                channel := { (b.registry.reader h).channel with frameWaiter := some me } } :=
              ⟨rfl, rfl, rfl, rfl, rfl, rfl, fun _ _ hh => hh⟩
            refine .waits (.of_move (.cursor h hc)) hn ?_
            show (((b.registry.modifyReader h _).reader h).lock).holder = some me
            rw [Registry.reader_modify_keeps _ h (g := ReaderStatus.lock) rfl]
            exact hk
          · exact readClosed_turned (b.leaveLock_quietly hk) h reading

/-- The data frames at the front of a list and what follows them make up the list. -/
theorem takeRun_append (l : List Frame) :
    l = (Channel.takeRun l).1.map .data ++ (Channel.takeRun l).2 := by
  induction l with
  | nil => rfl
  | cons fr l ih =>
    cases fr with
    | data c => simpa [Channel.takeRun] using ih
    | finish => rfl
    | failure m => rfl

theorem bytes_map_data (cs : List Bytes) : (cs.map Frame.data).filterMap Frame.bytes? = cs := by
  induction cs with
  | nil => rfl
  | cons c cs ih => simp [Frame.bytes?, ih]

/-- Frames are taken off a reader, and the pump may be told. -/
theorem takeFrames_gives (b : Bridge) {h : ReaderHandle}
    (hrec : (b.registry.reader h).isReceiving = true) (held : Option Frame)
    (hheld : ∀ f, held = some f → f.isTerminal = true) (rest fs : List Frame)
    (hc : (b.registry.reader h).contents = fs ++ (held.toList ++ rest)) :
    ∃ f, (b.registry.reader h).Gives (f (b.registry.reader h)) fs ∧
      (b.modifyReader h f).Aside (b.takeFrames h held rest) := by
  unfold takeFrames
  refine ⟨_, ?_, wakeAll_aside _ _⟩
  exact ⟨rfl, rfl, rfl, rfl, by rw [hc]; simp [ReaderStatus.contents, hrec], rfl, hheld⟩

/-- **A reading of all that there is**, if it has the lock. -/
theorem takeAvailable_turned (hb : BridgeOK b (some me) none) {h : ReaderHandle} {e : Reader}
    (hst : (b.registry.reader h).state = .active)
    (hk : (b.registry.reader h).lock.holder = some me) (hn : b.registry.NamesReader h e) :
    Turned me (some h) b none (b.takeAvailable me h e) := by
  have hrec := hb.receiving h hst
  have hnc : (b.registry.reader h).state ≠ .closed := by simp [hst]
  have hrun := takeRun_append (b.registry.reader h).contents
  unfold takeAvailable
  generalize Channel.takeRun (b.registry.reader h).contents = run at hrun ⊢
  obtain ⟨cs, rest⟩ := run
  dsimp only at hrun ⊢
  split
  -- data and the end behind it
  · rename_i rest'
    obtain ⟨f, hg, hw⟩ := b.takeFrames_gives hrec none nofun rest'
      (cs.map .data ++ [.finish]) (by rw [hrun]; simp)
    obtain ⟨hq, hex⟩ := finished_quietly hnc hk hg hw e
    refine .reads (.finished hnc hg hn) hq rfl rfl ?_ (fun _ => hex) nofun (by simp)
    rw [List.filterMap_append, bytes_map_data]
    exact List.append_nil cs
  -- a failure is told if no data comes before it, and held back otherwise
  · rename_i message rest'
    split
    · rename_i hcs
      subst hcs
      obtain ⟨f, hg, hw⟩ := b.takeFrames_gives hrec none nofun rest' [.failure message] hrun
      have htook : Move (some me) b none (.took h [.failure message]) (b.modifyReader h f) none :=
        .took hnc hg
      refine .reads htook (failed_quietly (htook.ok hb).1 hk hg hw) rfl rfl rfl
        nofun (fun m hm => ?_) (by simp)
      simp only [Progress.ends.injEq, Outcome.failed.injEq, Failure.transportFailure.injEq] at hm
      rw [hm]
      rfl
    · obtain ⟨f, hg, hw⟩ := b.takeFrames_gives hrec (some (.failure message))
        (fun f hf => Option.some.inj hf ▸ rfl) rest' (cs.map .data) hrun
      exact .reads (.took hnc hg) (taken_quietly hk hg hw) rfl rfl (bytes_map_data cs) nofun nofun
        (by simp)
  · split
    · exact nextFrame_turned hb hnc hk hn .available
    · obtain ⟨f, hg, hw⟩ := b.takeFrames_gives hrec none nofun rest (cs.map .data) hrun
      exact .reads (.took hnc hg) (taken_quietly hk hg hw) rfl rfl (bytes_map_data cs) nofun nofun
        (by simp)

/-! ## The lock -/

theorem readLocked_turned (hb : BridgeOK b (some me) none) {h : ReaderHandle} {e : Reader}
    (hn : b.registry.NamesReader h e) (reading : Reading) :
    Turned me (some h) b none (b.readLocked me h e reading) := by
  unfold readLocked
  dsimp only
  split
  · rename_i hk
    have hq : Quietly (some me) b none (b.leaveLock h) none := b.leaveLock_quietly hk
    cases hst : (b.registry.reader h).state with
    | exhausted =>
      refine readEnd_turned hq fun _ => ?_
      rw [leaveLock_reader]
      exact hst
    | closed => exact readClosed_turned hq h reading
    | active =>
      have hnc : (b.registry.reader h).state ≠ .closed := by simp [hst]
      cases reading with
      | available => exact takeAvailable_turned hb hst hk hn
      | next => exact nextFrame_turned hb hnc hk hn .next
      | all taken => exact nextFrame_turned hb hnc hk hn (.all taken)
      | upTo limit taken => exact nextFrame_turned hb hnc hk hn (.upTo limit taken)
  · exact .waits (.refl b none) hn trivial

/-- A handle that is looked up is one of a live reader, or of a marker. -/
theorem findReader_eq_ok {r : Registry} {h : ReaderHandle} {e? : Option Reader}
    (hf : r.findReader h = .ok e?) :
    r.readers.get? h = e? ∧ (e? = none → r.exhausted.contains h = true) := by
  unfold Registry.findReader at hf
  split at hf
  · rename_i e he
    obtain rfl := Except.ok.inj hf
    exact ⟨he, fun h => nomatch h⟩
  · rename_i he
    split at hf
    · rename_i hm
      obtain rfl := Except.ok.inj hf
      exact ⟨he, fun _ => hm⟩
    · cases hf

theorem findReader_eq_error {r : Registry} {h : ReaderHandle} {f : Failure}
    (hf : r.findReader h = .error f) : f = .invalidHandle .reader h := by
  unfold Registry.findReader at hf
  split at hf
  · cases hf
  · split at hf
    · cases hf
    · exact (Except.error.inj hf).symm

theorem read_turned (hb : BridgeOK b (some me) none) (h : ReaderHandle) (reading : Reading) :
    Turned me (some h) b none (b.read me h reading) := by
  unfold read
  split
  · rename_i hc
    refine readEnd_turned (.refl b none) fun hcl => ?_
    cases reading <;> first | cases hc | cases hcl
  · split
    · rename_i f hf
      obtain rfl := findReader_eq_error hf
      exact readFailure_turned (.refl b none) h reading fun _ h => nomatch h
    · rename_i hf
      obtain ⟨s, hs⟩ := hb.registry.marked h ((findReader_eq_ok hf).2 rfl)
      exact readEnd_turned (.refl b none) fun _ => (hb.registry.ended s h hs).1
    · rename_i e hf
      split
      · exact readClosed_turned (.refl b none) h reading
      · have hq : Quietly (some me) b none _ none := b.enter_quietly me h
        have hn := (hq.later hb).registry.namesReader (namesReader_of_get? (findReader_eq_ok hf).1)
        exact .after hq (readLocked_turned (hq.ok hb) hn reading)

/-! ## Every turn -/

theorem replied_plain {r : Reply} (h : r = .done) :
    (Progress.ends (.replied r) : Progress Stage Outcome).isPlain := by
  subst h
  exact ⟨rfl, rfl, fun m hm => nomatch hm⟩

theorem settle_turned (hq : Quietly (some me) b none b' none) :
    Turned me reader b none (b'.settle me) := by
  have hs := hq.trans (.of_aside (b'.settle_aside me))
  unfold settle at hs ⊢
  dsimp only at hs ⊢
  split
  · rename_i hd
    rw [if_pos hd] at hs
    exact .ends hs (replied_plain rfl)
  · rename_i hd
    rw [if_neg hd] at hs
    exact .waits hs trivial trivial

theorem closed_turned {p : Except Failure Unit × Bridge} (hq : Quietly (some me) b none p.2 none)
    (hf : ∀ f m, p.1 = .error f → f ≠ .transportFailure m) :
    Turned me reader b none (closed p) := by
  obtain ⟨a, b₁⟩ := p
  cases a with
  | ok u => exact .ends hq (replied_plain rfl)
  | error f => exact .fails hq fun m => hf f m rfl

theorem closeConnection_failure (b : Bridge) (c : ConnectionHandle) (f : Failure) (m : String)
    (h : (b.closeConnection c).1 = .error f) : f ≠ .transportFailure m := by
  unfold closeConnection at h
  split at h
  · rename_i f' hf
    obtain rfl := Except.error.inj h
    unfold Registry.closeConnection at hf
    split at hf <;> cases hf
    exact fun h => nomatch h
  · cases h

theorem closeSession_failure (b : Bridge) (s : SessionHandle) (f : Failure) (m : String)
    (h : (b.closeSession s).1 = .error f) : f ≠ .transportFailure m := by
  unfold closeSession at h
  split at h
  · rename_i f' hf
    obtain rfl := Except.error.inj h
    unfold Registry.closeSession at hf
    split at hf <;> cases hf
    exact fun h => nomatch h
  · cases h

/-- **The first turn of a call.** -/
theorem begin_turned (hb : BridgeOK b (some me) none) (c : Call) :
    Turned me c.reader? b none (b.begin me c) := by
  cases c with
  | openConnection url credentials => exact b.openConnection_turned url credentials
  | createSession c => exact createSession_turned hb c
  | executeQuery s text => exact executeQuery_turned hb s text
  | read h reading => exact read_turned hb h reading
  | closeConnection c =>
    exact closed_turned (b.closeConnection_quietly c) (b.closeConnection_failure c)
  | closeSession s => exact closed_turned (b.closeSession_quietly s) (b.closeSession_failure s)
  | closeReader h => exact .ends (b.closeReader_quietly h) (replied_plain rfl)
  | settle => exact settle_turned (.refl b none)
  | shutdown => exact settle_turned (b.closeConnections_quietly _)

/-- **Every turn of a call** is made of moves that fit how the call stands after it. -/
theorem turn_turned {stage : Stage} (hb : BridgeOK b (some me) (Task.call none stage).stream?)
    (hs : StageOK b stage) (hk : HoldsLock b me (.call none stage)) :
    Turned me stage.reader? b (Task.call none stage).stream? (b.turn me stage) := by
  cases stage with
  | fresh c => exact begin_turned hb c
  | connecting url client held =>
    exact .after (b.resume_quietly me held) (connecting_turned url client _)
  | opening url client held =>
    exact .after (b.resume_quietly me held) (opening_turned url client _)
  | unanswered c =>
    unfold turn
    dsimp only
    split
    · exact .fails (.refl b none) fun _ h => nomatch h
    · exact .waits (.refl b none) hs trivial
  | creating c client globalId held =>
    unfold turn
    dsimp only
    split
    · exact .fails (.refl b none) fun _ h => nomatch h
    · have hq : Quietly (some me) b none _ none := b.resume_quietly me held
      exact .after hq (creating_turned (hq.ok hb) ((hq.later hb).registry.namesConnection hs) _)
  | executing s e stream held =>
    unfold turn
    dsimp only
    split
    · exact .fails (b.dropStream_quietly stream) fun _ h => nomatch h
    · have hq : Quietly (some me) b (some stream) _ (some stream) := b.resume_quietly me held
      exact .after hq (executing_turned (hq.ok hb) ((hq.later hb).registry.namesSession hs))
  | awaitingTurn h e reading =>
    unfold turn
    dsimp only
    split
    · exact readClosed_turned (b.giveUpLock_quietly me h) h reading
    · exact readLocked_turned hb hs reading
  | awaitingFrame h e reading =>
    unfold turn
    dsimp only
    split
    · exact readClosed_turned (b.leaveLock_quietly hk) h reading
    -- a reading that is not cancelled has a reader that is not closed
    · rename_i hc
      refine nextFrame_turned hb (fun hst => hc ?_) hk hs reading
      simp [Reader.scope, Registry.isCancelled, (hb.registry.readCancelled h).2 ⟨hst, hs.1⟩]
  | draining =>
    have hq : Quietly (some me) b none (b.drain me).2 none := .of_aside (b.drain_aside me)
    show Turned me none b none (b.drain me)
    unfold drain at hq ⊢
    split
    · rename_i hd
      rw [if_pos hd] at hq
      exact .ends hq (replied_plain rfl)
    · exact .waits (.refl b none) trivial trivial

end Bridge

end QueryBridge
