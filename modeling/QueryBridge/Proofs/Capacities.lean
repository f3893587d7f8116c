import QueryBridge.Proofs.Settings
import QueryBridge.Proofs.WireCalls

/-!
# The capacity of a reader

A query that the service answers is given a reader if a channel can have the
capacity that the settings ask for. The check of the settings asks only for room
for a frame, so it admits capacities that no channel can have; there every query
breaks off when its answer comes in.

* `BridgeConfig.validate_of_load`: settings that are loaded have been checked.
* `Bridge.attach_crashes`, `Bridge.attach_replies`: both ways to go on with an answer.
* `Bridge.QueryAnswered`: the answer to a query comes in.
* `answered_query_given_reader`: every run.
-/

namespace QueryBridge

variable {b b' : Bridge} {id : TaskId} {t : Task} {s : SessionHandle} {e : Session}
  {stream : Stream}

/-- **What is loaded has passed the check.** -/
theorem BridgeConfig.validate_of_load {env : Environment} {files : FileTree} {path : String}
    {c : BridgeConfig} (h : load env files path = .ok c) : c.validate = .ok () := by
  -- wherever the settings come from, the check is the last step
  have checked : ∀ given : Except Failure BridgeConfig,
      (do let c ← given; c.validate; return c) = Except.ok c → c.validate = .ok () := by
    intro given h
    cases given with
    | error f => cases h
    | ok c' =>
      cases hcheck : c'.validate with
      | error f => simp only [hcheck, bind, Except.bind, reduceCtorEq] at h
      | ok u =>
        simp only [hcheck, bind, Except.bind, pure, Except.pure, Except.ok.injEq] at h
        rw [← h, hcheck]
  unfold load at h
  split at h
  · exact checked _ h
  · exact checked (.ok (default env)) h
  · exact checked (.error _) h

namespace Bridge

/-! ## The reader of an answered query -/

/-- No channel has the capacity. -/
theorem attach_crashes (hcap : Channel.maxCapacity < b.config.chunkBuffer.toNat) :
    (b.attach s e stream).1 = .ends .crashed := by
  unfold attach
  rw [Channel.ofCapacity?_eq_none.2 hcap]

/-- A reader that is asked for on an open session while a handle is left. -/
theorem addReader_next {r : Registry} (entry : Reader) (ch : Channel)
    (hnext : r.readers.next ≠ HandleTable.ceiling) :
    ∃ r', r.addReader entry ch = .ok (⟨r.readers.next⟩, r') ∧
      r'.readers.get? ⟨r.readers.next⟩ = some entry := by
  cases hadd : r.addReader entry ch with
  | error f =>
    simp only [Registry.addReader, HandleTable.allocate, hnext, dif_neg, not_false_eq_true, bind,
      Except.bind, pure, Except.pure, reduceCtorEq] at hadd
  | ok p =>
    obtain ⟨h, r'⟩ := p
    obtain ⟨table, halloc, rfl⟩ := addReader_eq_ok hadd
    obtain ⟨hraw, -, -, hget⟩ := HandleTable.allocate_eq_ok halloc
    obtain rfl : h = ⟨r.readers.next⟩ := by rw [← hraw]
    refine ⟨_, rfl, ?_⟩
    show table.get? _ = _
    rw [hget, if_pos rfl]

/-- Some channel has the capacity, the session is open and a handle is left. -/
theorem attach_replies (e : Session) (stream : Stream)
    (hcap : b.config.chunkBuffer.toNat ≤ Channel.maxCapacity)
    (hopen : (b.registry.session s).isOpen = true)
    (hnext : b.registry.readers.next ≠ HandleTable.ceiling) :
    (b.attach s e stream).1 = .ends (.replied (.reader ⟨b.registry.readers.next⟩)) ∧
      (b.attach s e stream).2.registry.readers.get? ⟨b.registry.readers.next⟩ =
        some ⟨s, e.connection⟩ := by
  unfold attach
  split
  · rename_i hnone
    exact absurd (Channel.ofCapacity?_eq_none.1 hnone) (Nat.not_lt.2 hcap)
  · rename_i channel hch
    obtain ⟨r', hadd, hget⟩ := addReader_next ⟨s, e.connection⟩ channel hnext
    rw [if_pos hopen]
    simp only [hadd]
    refine ⟨rfl, ?_⟩
    rw [reply, spawnOn_registry]
    exact hget

/-- What comes of an answer opens no session and closes none. -/
theorem attach_sessions : (b.attach s e stream).2.registry.sessions = b.registry.sessions := by
  unfold attach
  split
  · rfl
  · dsimp only
    split
    · split
      · rename_i h r' hadd
        obtain ⟨table, -, rfl⟩ := addReader_eq_ok hadd
        rw [reply, spawnOn_registry]
        rfl
      · rfl
    · rfl

/-- **The answer to a query comes in** with the next turn of its task, and its session has been
open so far. If the query only begins with this turn, it does so on a runtime. -/
structure QueryAnswered (b : Bridge) (id : TaskId) (s : SessionHandle) (e : Session) : Prop where
  runtime : ∀ t text, b.task? id = some t → t.stage? = some (.fresh (.executeQuery s text)) →
    b.hasRuntime = true
  session : b.registry.sessions.get? s = some e
  returns : ∃ t stage, b.task? id = some t ∧ t.stage? = some stage ∧ b.service.Returns stage

/-- The answer to a query comes to its reader, whatever was closed on the way. -/
theorem QueryAnswered.attaches (h : b.QueryAnswered id s e) (hb : BridgeOK b none none)
    (hclosed : ∀ t stage, b.task? id = some t → t.stage? = some stage →
      stage.whenClosed? = some (.resourceClosed .session s)) :
    ∃ t b' stream, b.task? id = some t ∧ BridgeOK b' (some id) (some stream) ∧
      b'.config = b.config ∧ Untouched b.registry b'.registry ∧
      (∀ o, (b'.attach s e stream).1 = .ends o → (b.poll id).1 = some (t.told o)) ∧
      (b.poll id).2.registry = (b'.attach s e stream).2.registry := by
  obtain ⟨hrt, he, t, stage, ht, hs, hr⟩ := h
  obtain ⟨hok, hstage, -⟩ := call_ok hb ht hs
  obtain ⟨b', stream, hturn, hq⟩ := turn_attaches hok hstage
    (fun text hfresh => hrt t text ht (hs.trans (congrArg some hfresh)))
    (hclosed t stage ht hs) he hr
  have hl : (b.takeTurn id).Later b' := hq.later hok
  have huntouched : Untouched (b.takeTurn id).registry b'.registry := by
    obtain ⟨ns, hm, hn⟩ := hq
    exact .of_moves hok hm hn
  refine ⟨t, b', stream, ht, hq.ok hok, hl.config, huntouched, fun o ho => ?_, ?_⟩
  · rw [← hturn] at ho
    rw [poll_call ht hs]
    exact (pollCall_ends _ ho).1
  · rw [poll_call ht hs, pollCall_registry, hturn]

/-- A turn breaks off only where no channel has the capacity. -/
theorem poll_crashed (hb : BridgeOK b none none) (hcrash : (b.poll id).1 = some .crashed) :
    Channel.maxCapacity < b.config.chunkBuffer.toNat := by
  have htask : ∃ t stage, b.task? id = some t ∧ t.stage? = some stage := by
    cases ht : b.task? id with
    | none => simp only [poll, ht, reduceCtorEq] at hcrash
    | some t =>
      refine ⟨t, ?_⟩
      cases t with
      | payload text =>
        cases hdecode : RequestEnvelope.decode text with
        | error p => simp [poll, ht, hdecode] at hcrash
        | ok e => exact ⟨_, rfl, by rw [Task.stage?, hdecode]; rfl⟩
      | call envelope stage => exact ⟨stage, rfl, rfl⟩
      | pump h e stream frame => simp [poll, ht] at hcrash
      | farewell client held left => simp [poll, ht] at hcrash
  obtain ⟨t, stage, ht, hs⟩ := htask
  have htold : b.toldIn id (.turn id) = [.crashed] := by rw [toldIn_turn, hcrash]; rfl
  rcases step_call hb ht hs (.turn id) with ⟨o, hnow, hfits, -⟩ | ⟨hnow, -⟩
  · -- in an envelope, too, only what breaks off is told so
    have hcrashed : o = .crashed := by
      rw [htold, List.cons.injEq] at hnow
      have h := hnow.1
      unfold Task.told at h
      cases hr : t.request? with
      | none => rw [hr] at h; exact h.symm
      | some n => rw [hr] at h; cases o <;> cases h; rfl
    rw [hcrashed] at hfits
    exact Channel.ofCapacity?_eq_none.1 hfits.2
  · rw [htold] at hnow
    cases hnow

end Bridge

/-- **An answered query is given a reader** if a channel can have the capacity that its bridge
asks for, and it breaks off if none can. In every run whose bridge asks for such a capacity no
turn of any task breaks off. What a bridge asks for has passed the check if it was loaded. -/
theorem answered_query_given_reader (hb : b.Reachable) :
    (∀ env files path, BridgeConfig.load env files path = .ok b.config →
      b.config.validate = .ok ()) ∧
    (b.config.chunkBuffer.toNat ≤ Channel.maxCapacity →
      ∀ es id, ((b.after es).poll id).1 ≠ some .crashed) ∧
    ∀ id t s text, b.task? id = some t → t.stage? = some (.fresh (.executeQuery s text)) →
      ∀ es e, (b.after es).QueryAnswered id s e →
        (Channel.maxCapacity < b.config.chunkBuffer.toNat →
          ((b.after es).poll id).1 = some .crashed) ∧
        (b.config.chunkBuffer.toNat ≤ Channel.maxCapacity →
          (((b.after es).poll id).2.registry.sessions.get? s).isSome = true →
          (b.after es).registry.readers.next ≠ HandleTable.ceiling →
          ∃ h, ((b.after es).poll id).1 = some (t.told (.replied (.reader h))) ∧
            ((b.after es).poll id).2.registry.readers.get? h = some ⟨s, e.connection⟩) := by
  refine ⟨fun env files path => BridgeConfig.validate_of_load, ?_, ?_⟩
  · intro hcap es id hcrash
    obtain ⟨hok, hl⟩ := after_later hb.ok es
    have hbeyond := Bridge.poll_crashed hok hcrash
    rw [hl.config] at hbeyond
    exact absurd hbeyond (Nat.not_lt.2 hcap)
  · intro id t s text ht hs es e hans
    obtain ⟨hok, hl⟩ := after_later hb.ok es
    obtain ⟨t', b', stream, ht', hok', hconfig, huntouched, htold, hreg⟩ := hans.attaches hok <| by
      intro t' stage' ht' hs'
      obtain ⟨-, -, stage, hstage, hclosed⟩ :=
        Bridge.takesNothing_of_waiting es hb.ok ht hs rfl ht'
      obtain rfl : stage' = stage := Option.some.inj (hs'.symm.trans hstage)
      exact hclosed
    have hrequest : t'.request? = t.request? :=
      (Bridge.takesNothing_of_waiting es hb.ok ht hs rfl ht').2.1
    have hbuffer : b'.config = b.config := hconfig.trans hl.config
    rw [← hbuffer]
    refine ⟨fun hcap => ?_, fun hcap hsession hnext => ?_⟩
    · rw [htold _ (Bridge.attach_crashes hcap)]
      unfold Task.told
      cases t'.request? <;> rfl
    · rw [hreg, Bridge.attach_sessions] at hsession
      have hopen : (b'.registry.session s).isOpen = true :=
        (hok'.registry.sessOpen s).2 (Option.isSome_iff_exists.1 hsession)
      rw [← huntouched.readNext] at hnext
      obtain ⟨hreply, hlive⟩ := Bridge.attach_replies e stream hcap hopen hnext
      refine ⟨⟨b'.registry.readers.next⟩, ?_, ?_⟩
      · rw [htold _ hreply, Task.told, Task.told, hrequest]
      · rw [hreg]
        exact hlive

/-- A second query on a session is given the second reader. -/
theorem answered_query_given_reader_oneOfEach :
    let b := Bridge.oneOfEach.step (.call (.executeQuery ⟨1⟩ "q"))
    (b.poll 4).1 ≠ some .crashed ∧
      ∃ h, (b.poll 4).1 = some (.replied (.reader h)) ∧
        (b.poll 4).2.registry.readers.get? h = some ⟨⟨1⟩, ⟨1⟩⟩ := by
  intro b
  have hb : b.Reachable := Bridge.oneOfEach_reachable.step (.call (.executeQuery ⟨1⟩ "q"))
  have ht : b.task? 4 = some (.call none (.fresh (.executeQuery ⟨1⟩ "q"))) := by decide +kernel
  have hans : b.QueryAnswered 4 ⟨1⟩ ⟨⟨1⟩, ⟨"session-1"⟩, 0⟩ :=
    ⟨fun _ _ _ _ => by decide +kernel, by decide +kernel, _, _, ht, rfl, by decide +kernel,
      by decide +kernel⟩
  obtain ⟨-, hnever, hquery⟩ := answered_query_given_reader hb
  have hcap : b.config.chunkBuffer.toNat ≤ Channel.maxCapacity := by decide +kernel
  exact ⟨hnever hcap [] 4, (hquery 4 _ ⟨1⟩ "q" ht rfl [] _ hans).2 hcap (by decide +kernel)
    (by decide +kernel)⟩

/-- **The check admits capacities that no channel can have.** Settings with such a one are saved
and loaded, and a query on an open session breaks off with its answer. -/
theorem accepted_without_channel :
    let c : BridgeConfig := ⟨2305843009213693952, ⟨"h.json", 1⟩⟩
    let b := (Bridge.new {} c true).after
      [.call (.openConnection "a://b" none), .turn 0, .call (.createSession ⟨1⟩), .turn 1,
        .call (.executeQuery ⟨1⟩ "q")]
    c.validate = .ok () ∧
      (∀ env, BridgeConfig.load env (c.save ∅ "config.json").1 "config.json" = .ok c) ∧
      b.Reachable ∧ b.task? 2 = some (.call none (.fresh (.executeQuery ⟨1⟩ "q"))) ∧
      b.QueryAnswered 2 ⟨1⟩ ⟨⟨1⟩, ⟨"session-1"⟩, 0⟩ ∧
      ((b.poll 2).2.registry.sessions.get? ⟨1⟩).isSome = true ∧
      (b.poll 2).1 = some .crashed := by
  intro c b
  have ht : b.task? 2 = some (.call none (.fresh (.executeQuery ⟨1⟩ "q"))) := by decide +kernel
  refine ⟨by decide, fun env => ?_,
    (Bridge.Reachable.start [] false ⟨2305843009213693952, ⟨"h.json", 1⟩⟩ true).after _, ht,
    ⟨fun _ _ _ _ => by decide +kernel, by decide +kernel, _, _, ht, rfl, by decide +kernel,
      by decide +kernel⟩,
    by decide +kernel, by decide +kernel⟩
  have hsave : c.save ∅ "config.json" = ((c.save ∅ "config.json").1, .ok ()) := Prod.ext rfl rfl
  rw [BridgeConfig.load_saved hsave env]
  rfl

end QueryBridge
