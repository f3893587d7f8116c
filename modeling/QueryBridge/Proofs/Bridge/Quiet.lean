import QueryBridge.Bridge.Background
import QueryBridge.Bridge.Draining
import QueryBridge.Bridge.FarSide
import QueryBridge.Bridge.Reading
import QueryBridge.Proofs.Bridge.Moves

/-!
# Work that moves no frame

Closing, waiting and passing on a lock register nothing and take no frame:
`Quietly` is the relation between the bridges before and after.

* `Bridge.close_quietly`: closes from outside.
* `Bridge.passHooks_quietly`, `Bridge.resume_quietly`: closes from inside of a call.
* `Bridge.farewell_quietly`: calls that close on the far side.
-/

namespace QueryBridge

variable {b b' b'' : Bridge} {me : Option TaskId} {inHand inHand' inHand'' : Option Stream}

/-- Nothing is registered and no frame is taken on the way from one bridge to the other. -/
def Quietly (me : Option TaskId) (b : Bridge) (inHand : Option Stream) (b' : Bridge)
    (inHand' : Option Stream) : Prop :=
  ∃ ns, Moves me b inHand ns b' inHand' ∧ ∀ n ∈ ns, n = .aside

namespace Quietly

theorem refl (b : Bridge) (inHand : Option Stream) : Quietly me b inHand b inHand :=
  ⟨[], .nil, fun _ h => absurd h List.not_mem_nil⟩

theorem trans (h : Quietly me b inHand b' inHand') (h' : Quietly me b' inHand' b'' inHand'') :
    Quietly me b inHand b'' inHand'' := by
  obtain ⟨ns, hm, hn⟩ := h
  obtain ⟨ns', hm', hn'⟩ := h'
  exact ⟨ns ++ ns', hm.trans hm', fun n h => (List.mem_append.1 h).elim (hn n) (hn' n)⟩

theorem of_move (h : Move me b inHand .aside b' inHand') : Quietly me b inHand b' inHand' :=
  ⟨[.aside], h.moves, fun _ h => List.mem_singleton.1 h⟩

theorem of_aside (h : b.Aside b') : Quietly me b inHand b' inHand := of_move (.aside h)

theorem ok (h : Quietly me b inHand b' inHand') (hb : BridgeOK b me inHand) :
    BridgeOK b' me inHand' := by
  obtain ⟨ns, hm, -⟩ := h
  exact (hm.ok hb).1

theorem later (h : Quietly me b inHand b' inHand') (hb : BridgeOK b me inHand) : b.Later b' := by
  obtain ⟨ns, hm, -⟩ := h
  exact (hm.ok hb).2.1

end Quietly

namespace Bridge

/-! ## The service on the side -/

/-- The service may change where no frame is concerned. -/
theorem withService_aside (b : Bridge) {s : Service} (hq : s.queries = b.service.queries)
    (hf : s.feeds.map Feed.content = b.service.feeds.map Feed.content) :
    b.Aside (b.withService s) := ⟨rfl, rfl, rfl, rfl, hq, hf⟩

theorem call_aside (b : Bridge) (client : Option ClientId) (c : ServiceCall) :
    b.Aside (b.call client c).2 := b.withService_aside rfl rfl

theorem takeHooks_aside (b : Bridge) (p : CallPoint) :
    b.Aside (b.withService (b.service.takeHooks p).2) := by
  unfold Service.takeHooks
  split <;> exact b.withService_aside rfl rfl

theorem newClient_aside (b : Bridge) : b.Aside (b.withService b.service.newClient.2) :=
  b.withService_aside rfl rfl

theorem nextSessionId_aside (b : Bridge) :
    b.Aside (b.withService b.service.nextSessionId.2) := by
  unfold Service.nextSessionId
  split <;> exact b.withService_aside rfl rfl

/-- The rest of a stream may be dropped by whoever has it in hand. -/
theorem dropStream_quietly (b : Bridge) (stream : Stream) :
    Quietly me b (some stream) (b.dropStream stream) none := .of_move (.dropped stream)

/-! ## Closing -/

theorem sayFarewell_quietly (b : Bridge) (client : ClientId) (left : List RemoteClose) :
    Quietly me b inHand (b.sayFarewell client left) inHand := by
  unfold sayFarewell spawn
  split
  · exact .of_move (.farewell client left)
  · exact .refl b inHand

theorem closeConnection_quietly (b : Bridge) (c : ConnectionHandle) :
    Quietly me b inHand (b.closeConnection c).2 inHand := by
  unfold closeConnection
  split
  · exact .refl b inHand
  · rename_i e ids r hr
    exact (Quietly.of_move (.close (.connection hr))).trans
      ((Quietly.of_aside (wakeWithin_aside _ _)).trans (sayFarewell_quietly _ _ _))

theorem closeSession_quietly (b : Bridge) (s : SessionHandle) :
    Quietly me b inHand (b.closeSession s).2 inHand := by
  unfold closeSession
  split
  · exact .refl b inHand
  · rename_i e r hr
    exact (Quietly.of_move (.close (.session hr))).trans
      ((Quietly.of_aside (wakeWithin_aside _ _)).trans (sayFarewell_quietly _ _ _))

theorem closeReader_quietly (b : Bridge) (h : ReaderHandle) :
    Quietly me b inHand (b.closeReader h) inHand := by
  have hm : Quietly me b inHand (b.withRegistry (b.registry.closeReader h).2) inHand :=
    .of_move (.close (.reader b.registry h))
  unfold closeReader
  split
  · rename_i scope r hr
    rw [hr] at hm
    exact hm.trans (.of_aside (wakeWithin_aside _ _))
  · rename_i r hr
    rwa [hr] at hm

theorem closeReader_registry (b : Bridge) (h : ReaderHandle) :
    (b.closeReader h).registry = (b.registry.closeReader h).2 := by
  unfold closeReader
  split <;> rename_i hr <;> rw [hr]
  · exact (wakeWithin_aside _ _).registry
  · rfl

theorem closeConnections_quietly (cs : List ConnectionHandle) (b : Bridge) :
    Quietly me b inHand (b.closeConnections cs) inHand := by
  induction cs generalizing b with
  | nil => exact .refl b inHand
  | cons c cs ih => exact (b.closeConnection_quietly c).trans (ih _)

theorem close_quietly (b : Bridge) (t : Target) : Quietly me b inHand (b.close t) inHand := by
  cases t with
  | connection c => exact b.closeConnection_quietly c
  | session s => exact b.closeSession_quietly s
  | reader h => exact b.closeReader_quietly h

/-! ## Accepted calls -/

theorem waitAt_aside (b : Bridge) (gate : String) (id : TaskId) :
    b.Aside (b.withService (b.service.waitAt gate id)) := b.withService_aside rfl rfl

theorem follow_quietly (id : TaskId) (hooks : List Hook) (b : Bridge) :
    Quietly me b inHand (b.follow id hooks).2 inHand := by
  induction hooks generalizing b with
  | nil => exact .refl b inHand
  | cons hook rest ih =>
    cases hook with
    | close target => exact (b.close_quietly target).trans (ih _)
    | refuse message => exact .refl b inHand
    | hang gate =>
      unfold follow
      split
      · exact ih b
      · exact .of_aside (b.waitAt_aside gate id)

theorem passHooks_quietly (b : Bridge) (id : TaskId) (p : CallPoint) :
    Quietly me b inHand (b.passHooks id p).2 inHand :=
  (Quietly.of_aside (b.takeHooks_aside p)).trans (follow_quietly id _ _)

theorem resume_quietly (b : Bridge) (id : TaskId) (held : Held) :
    Quietly me b inHand (b.resume id held).2 inHand := by
  unfold resume
  split
  · exact follow_quietly id _ b
  · exact .refl b inHand

/-! ## Farewells -/

theorem sayNext_quietly (b : Bridge) (id : TaskId) (client : ClientId)
    (left : List RemoteClose) : Quietly me b inHand (b.sayNext id client left).2 inHand := by
  cases left with
  | nil => exact .refl b inHand
  | cons c left =>
    have h1 : Quietly me b inHand (b.call (some client) c.call).2 inHand :=
      .of_aside (b.call_aside _ _)
    have h2 : Quietly me b inHand
        ((b.call (some client) c.call).2.passHooks id c.call.point).2 inHand :=
      h1.trans (passHooks_quietly _ id _)
    unfold sayNext
    dsimp only
    split
    -- a refused call passes no hooks
    · rename_i message b₁ hc
      rwa [hc] at h1
    · rename_i b₁ hc
      rw [hc] at h2
      split <;> rename_i hp <;> rw [hp] at h2 <;> exact h2

/-- **A turn of a farewell** only closes, wherever it waits. -/
theorem farewell_quietly (b : Bridge) (id : TaskId) (client : ClientId) (held : Option Held)
    (left : List RemoteClose) :
    Quietly me b inHand (b.farewell id client held left).2 inHand := by
  cases held with
  | none => exact b.sayNext_quietly id client left
  | some held =>
    have h1 : Quietly me b inHand (b.resume id held).2 inHand := b.resume_quietly id held
    unfold farewell
    dsimp only
    split <;> rename_i hp <;> rw [hp] at h1
    · exact h1
    · exact h1.trans (sayNext_quietly _ id client left)

/-! ## Locks -/

/-- Whoever holds the lock of a reader may pass it on. -/
theorem leaveLock_quietly (b : Bridge) {h : ReaderHandle}
    (hk : (b.registry.reader h).lock.holder = me) :
    Quietly me b inHand (b.leaveLock h) inHand :=
  (Quietly.of_move (.cursor h ⟨rfl, rfl, rfl, rfl, rfl, rfl, fun _ hid hh =>
    absurd (hh.symm.trans hk) hid⟩)).trans (.of_aside (wakeAll_aside _ _))

/-- A place in the queue for a lock may be given up. -/
theorem giveUpLock_quietly (b : Bridge) (id : TaskId) (h : ReaderHandle) :
    Quietly (some id) b inHand (b.giveUpLock id h) inHand := by
  unfold giveUpLock
  split
  · rename_i hk
    exact b.leaveLock_quietly hk
  · exact .of_move (.cursor h ⟨rfl, rfl, rfl, rfl, rfl, rfl, fun _ _ hh => hh⟩)

/-- The lock may be asked for. -/
theorem enter_quietly (b : Bridge) (id : TaskId) (h : ReaderHandle) :
    Quietly (some id) b inHand
      (b.modifyReader h fun s => { s with lock := s.lock.enter id }) inHand := by
  refine .of_move (.cursor h ⟨rfl, rfl, rfl, rfl, rfl, rfl, fun id' hid hh => ?_⟩)
  unfold Turnstile.enter
  rw [hh]

/-! ## Draining -/

theorem tracker_aside (b : Bridge) (t : Tracker) : b.Aside { b with tracker := t } :=
  ⟨rfl, rfl, rfl, rfl, rfl, rfl⟩

theorem endDrain_aside (b : Bridge) (id : TaskId) : b.Aside (b.endDrain id).2 := b.tracker_aside _

theorem settle_aside (b : Bridge) (id : TaskId) : b.Aside (b.settle id).2 := by
  have h := (b.tracker_aside b.tracker.shut.2).trans (wakeAll_aside b.tracker.shut.1 _)
  unfold settle
  dsimp only
  split
  · exact h.trans (endDrain_aside _ id)
  · exact h.trans (tracker_aside _ _)

theorem drain_aside (b : Bridge) (id : TaskId) : b.Aside (b.drain id).2 := by
  unfold drain
  split
  · exact b.endDrain_aside id
  · exact .refl b

/-! ## The far side -/

theorem refuse_aside (b : Bridge) (p : CallPoint) (message : String) :
    b.Aside (b.refuse p message) := b.withService_aside rfl rfl

theorem plan_aside (b : Bridge) (p : CallPoint) (hooks : List Hook) : b.Aside (b.plan p hooks) :=
  b.withService_aside rfl rfl

theorem releaseGate_aside (b : Bridge) (gate : String) : b.Aside (b.releaseGate gate) :=
  have h : b.Aside (b.withService (b.service.release gate).2) := b.withService_aside rfl rfl
  h.trans (wakeAll_aside _ _)

end Bridge

end QueryBridge
