import QueryBridge.Proofs.Bridge.Deeds

/-!
# What has happened, and what is there

A run leaves a record of what was registered in it and of what was closed. How a
connection or a session stands can be told from that record alone, and the
number of the next handle from how many handles of its kind were registered.

* `Bridge.deeds`: the record of a run.
* `standing`: how a handle stands by the record.
* `after_records`: the tables hold what the record says.
* `after_next`: the counters move with registrations alone.
-/

namespace QueryBridge

variable {r r' : Registry} {b : Bridge}

/-- Something that has happened: a resource was registered, or closed, whether
or not it was there. -/
inductive Deed
  | registered (what : Registration)
  | closed (target : Target)
deriving DecidableEq

/-- How a handle stands. -/
inductive Standing
  /-- Nothing was registered under it. -/
  | never
  | live
  /-- What was registered under it has been closed. -/
  | closed
deriving DecidableEq

namespace Deed

/-- Whether a connection is registered. -/
def opens (c : ConnectionHandle) : Deed → Bool
  | registered (.opened x) => x = c
  | _ => false

/-- Whether a session is registered. -/
def creates (s : SessionHandle) : Deed → Bool
  | registered (.created _ x) => x = s
  | _ => false

/-- Whether what was registered is closed by another deed: a session also by the
close of its connection. -/
def isEndedBy : Deed → Deed → Bool
  | registered (.opened c), d => d = closed (.connection c)
  | registered (.created c s), d => d = closed (.session s) || d = closed (.connection c)
  | _, _ => false

end Deed

/-- **How a handle stands by what has happened**: whether something was
registered under it, and whether that was closed since. -/
def standing (starts : Deed → Bool) (ds : List Deed) : Standing :=
  match ds.dropWhile (!starts ·) with
  | [] => .never
  | d :: since => if since.any d.isEndedBy then .closed else .live

namespace Bridge

/-- What happens in an event. -/
def deedsIn (b : Bridge) (e : Event) : List Deed :=
  (b.closedIn e).map .closed ++ (b.registeredIn e).toList.map .registered

/-- What happens in a run. -/
def deeds (b : Bridge) : List Event → List Deed
  | [] => []
  | e :: es => b.deedsIn e ++ (b.step e).deeds es

end Bridge

/-! ## One more deed -/

section

variable {starts : Deed → Bool} {ds since : List Deed} {d d₀ : Deed}

theorem dropWhile_of_never (hn : standing starts ds = .never) :
    ds.dropWhile (!starts ·) = [] := by
  unfold standing at hn
  split at hn
  · assumption
  · split at hn <;> cases hn

/-- Where nothing was registered, the deed may begin it. -/
theorem standing_first (hn : standing starts ds = .never) :
    standing starts (ds ++ [d]) = if starts d then .live else .never := by
  have hnil := dropWhile_of_never hn
  unfold standing
  rw [List.dropWhile_append, hnil]
  cases hs : starts d <;> simp [hs]

/-- Where something was registered, the deed may end it. -/
theorem standing_next (hd : ds.dropWhile (!starts ·) = d₀ :: since) :
    standing starts (ds ++ [d]) =
      if d₀.isEndedBy d then .closed else standing starts ds := by
  have hafter : (ds ++ [d]).dropWhile (!starts ·) = d₀ :: (since ++ [d]) := by
    rw [List.dropWhile_append, hd]
    rfl
  unfold standing
  rw [hafter, hd]
  cases h₁ : since.any d₀.isEndedBy <;> cases h₂ : d₀.isEndedBy d <;> simp [h₁, h₂]

/-- A deed that begins nothing ends what is live, if it ends what has begun it. -/
theorem standing_snoc (taken : Bool) (hfirst : starts d = false)
    (hends : ∀ d₀ since, ds.dropWhile (!starts ·) = d₀ :: since → starts d₀ = true →
      standing starts ds = .live → d₀.isEndedBy d = taken) :
    standing starts (ds ++ [d]) =
      if taken ∧ standing starts ds = .live then .closed else standing starts ds := by
  cases hs : standing starts ds with
  | never =>
    rw [standing_first hs, hfirst]
    simp
  | live =>
    cases hd : ds.dropWhile (!starts ·) with
    | nil =>
      simp only [standing, hd] at hs
      cases hs
    | cons d₀ since =>
      have hstart : starts d₀ = true := by
        have hhead := List.head?_dropWhile_not (!starts ·) ds
        simpa [hd] using hhead
      rw [standing_next hd, hends d₀ since hd hstart hs, hs]
      simp
  | closed =>
    cases hd : ds.dropWhile (!starts ·) with
    | nil =>
      simp only [standing, hd] at hs
      cases hs
    | cons d₀ since =>
      rw [standing_next hd, hs]
      simp

end

theorem Deed.not_isEndedBy_registered (d₀ : Deed) (what : Registration) :
    d₀.isEndedBy (.registered what) = false := by
  cases d₀ with
  | registered w => cases w <;> simp [isEndedBy]
  | closed t => rfl

/-- A registration of something else changes nothing of how a handle stands. -/
theorem standing_other {starts : Deed → Bool} {ds : List Deed} {what : Registration}
    (hfirst : starts (.registered what) = false) :
    standing starts (ds ++ [.registered what]) = standing starts ds := by
  rw [standing_snoc false hfirst fun d₀ _ _ _ _ => d₀.not_isEndedBy_registered what]
  simp

theorem Deed.eq_of_opens {c : ConnectionHandle} {d : Deed} (h : d.opens c = true) :
    d = .registered (.opened c) := by
  cases d with
  | registered what => cases what <;> simp_all [opens]
  | closed t => cases h

/-! ## Handles in their tables -/

namespace HandleTable

variable {kind : HandleKind} {α : Type*} {t t' : HandleTable kind α} {h x : Handle kind}

/-- How a handle stands by its table. -/
def standing (t : HandleTable kind α) (h : Handle kind) : Standing :=
  if (t.get? h).isSome then .live else if t.wasReleased h then .closed else .never

theorem standing_congr (hn : t'.next = t.next) (hg : t'.get? h = t.get? h) :
    t'.standing h = t.standing h := by
  unfold standing
  rw [hg, wasReleased_congr hn hg]

theorem standing_eq_live : t.standing h = .live ↔ ∃ a, t.get? h = some a := by
  rw [← Option.isSome_iff_exists]
  unfold standing
  split
  · simp_all
  · split <;> simp_all

theorem standing_eq_closed : t.standing h = .closed ↔ t.get? h = none ∧ t.wasReleased h = true := by
  unfold standing
  split
  · rename_i hg
    obtain ⟨a, ha⟩ := Option.isSome_iff_exists.1 hg
    simp [ha]
  · rename_i hg
    split <;> simp_all

theorem standing_eq_never :
    t.standing h = .never ↔ t.get? h = none ∧ t.wasReleased h = false := by
  unfold standing
  split
  · rename_i hg
    obtain ⟨a, ha⟩ := Option.isSome_iff_exists.1 hg
    simp [ha]
  · rename_i hg
    split <;> simp_all

/-- The number zero is given to nobody. -/
theorem standing_zero (t : HandleTable kind α) : t.standing ⟨0⟩ = .never := by
  have hnot : ¬ t.Issued ⟨0⟩ := fun hi => absurd hi.1 (Nat.lt_irrefl 0)
  refine standing_eq_never.2 ⟨?_, Bool.eq_false_iff.2 fun hw => hnot (wasReleased_iff.1 hw).1⟩
  cases hg : t.get? ⟨0⟩ with
  | none => rfl
  | some a => exact absurd (issued_of_get? hg) hnot

/-- What is taken out of a table is closed. -/
theorem standing_take (taken : Bool) (hn : t'.next = t.next)
    (hg : t'.get? h = if taken then none else t.get? h) :
    t'.standing h =
      if taken ∧ t.standing h = .live then .closed else t.standing h := by
  cases ht : taken with
  | false =>
    rw [ht] at hg
    simpa using standing_congr hn hg
  | true =>
    rw [ht, if_pos rfl] at hg
    cases hs : t.standing h with
    | live =>
      obtain ⟨a, ha⟩ := standing_eq_live.1 hs
      have hissued := issued_of_get? ha
      simp only [true_and, if_true]
      refine standing_eq_closed.2 ⟨hg, wasReleased_iff.2 ⟨?_, hg⟩⟩
      simpa only [Issued, hn] using hissued
    | closed =>
      have hs' := standing_eq_closed.1 hs
      simpa [hs] using standing_congr hn (hg.trans hs'.1.symm)
    | never =>
      have hs' := standing_eq_never.1 hs
      simpa [hs] using standing_congr hn (hg.trans hs'.1.symm)

/-- A new handle is live, and had not been given out; the others stand as before. -/
theorem standing_allocate {build : Handle kind → α} (ha : t.allocate build = .ok (h, t')) :
    t.standing h = .never ∧ t'.standing h = .live ∧ ∀ x, x ≠ h → t'.standing x = t.standing x := by
  obtain ⟨-, -, hnone, hget⟩ := allocate_eq_ok ha
  refine ⟨?_, ?_, fun x hx => ?_⟩
  · exact standing_eq_never.2 ⟨hnone, wasReleased_new ha⟩
  · exact standing_eq_live.2 ⟨_, (hget h).trans (if_pos rfl)⟩
  · unfold standing
    rw [hget, if_neg hx, wasReleased_allocate ha]

end HandleTable

/-! ## The tables and the record -/

/-- The tables hold what the record says. -/
structure Registry.Records (r : Registry) (ds : List Deed) : Prop where
  connections : ∀ c, r.connections.standing c = standing (Deed.opens c) ds
  sessions : ∀ s, r.sessions.standing s = standing (Deed.creates s) ds
  /-- A live session is of the connection that it was registered under. -/
  parents : ∀ s e, r.sessions.get? s = some e → ∃ since,
    ds.dropWhile (!Deed.creates s ·) = .registered (.created e.connection s) :: since

namespace Registry.Records

variable {ds : List Deed}

theorem tables (h : r.Records ds) (hc : r'.connections = r.connections)
    (hs : r'.sessions = r.sessions) : r'.Records ds := by
  constructor <;> simp only [hc, hs]
  · exact h.connections
  · exact h.sessions
  · exact h.parents

/-- Where a session was registered, its record goes on. -/
theorem parents_snoc (h : r.Records ds) {s : SessionHandle} {e : Session}
    (he : r.sessions.get? s = some e) (d : Deed) : ∃ since,
      (ds ++ [d]).dropWhile (!Deed.creates s ·) =
        .registered (.created e.connection s) :: since := by
  obtain ⟨since, hd⟩ := h.parents s e he
  refine ⟨since ++ [d], ?_⟩
  rw [List.dropWhile_append, hd]
  rfl

/-- **A close is recorded.** -/
theorem close (h : r.Records ds) {t : Target} (ht : r.Takes [t] r') :
    r'.Records (ds ++ [.closed t]) where
  connections c := by
    have htable := HandleTable.standing_take (decide (.connection c ∈ [t])) ht.connNext
      (by simpa using ht.connections c)
    rw [htable, h.connections c]
    refine (standing_snoc _ rfl fun d₀ since _ hstart _ => ?_).symm
    rw [Deed.eq_of_opens hstart]
    simp [Deed.isEndedBy, eq_comm]
  sessions s := by
    have htable := HandleTable.standing_take (r.takesSession s t) ht.sessNext
      (by simpa using ht.sessions s)
    rw [htable, h.sessions s]
    refine (standing_snoc _ rfl fun d₀ since hd _ hlive => ?_).symm
    -- the session is live, so the record has its connection
    rw [← h.sessions s] at hlive
    obtain ⟨e, he⟩ := HandleTable.standing_eq_live.1 hlive
    obtain ⟨since', hd'⟩ := h.parents s e he
    obtain rfl : d₀ = .registered (.created e.connection s) := by
      rw [hd] at hd'
      exact (List.cons.inj hd').1
    cases t with
    | connection c => simp [Deed.isEndedBy, Registry.takesSession, he, eq_comm]
    | session x => simp [Deed.isEndedBy, Registry.takesSession]
    | reader x => simp [Deed.isEndedBy, Registry.takesSession]
  parents s e he := by
    refine h.parents_snoc ?_ _
    rw [ht.sessions] at he
    split at he
    · cases he
    · exact he

theorem closeAll (h : r.Records ds) (hr : RegistryOK r) (ts : List Target) :
    (r.closeAll ts).Records (ds ++ ts.map .closed) := by
  induction ts generalizing r ds with
  | nil =>
    rw [List.map_nil, List.append_nil]
    exact h
  | cons t ts ih =>
    have h₁ := ih (h.close (Registry.close_takes hr t)) (r.close_sound t hr).1
    rwa [List.append_assoc] at h₁

/-- **A registration is recorded.** -/
theorem add (h : r.Records ds) {new : Option Registration} (ha : r.Adds new r') :
    r'.Records (ds ++ new.toList.map .registered) := by
  cases ha with
  | nothing => simpa using h
  | @opened e c r' ho =>
    obtain ⟨t, hal, rfl⟩ := addConnection_eq_ok ho
    obtain ⟨hnever, hlive, hold⟩ := HandleTable.standing_allocate hal
    show Registry.Records _ (ds ++ [.registered (.opened c)])
    refine ⟨fun x => ?_, fun s => ?_, fun s e' he => h.parents_snoc he _⟩
    · show t.standing x = _
      by_cases hx : x = c
      · subst hx
        rw [h.connections] at hnever
        rw [hlive, standing_first hnever]
        simp [Deed.opens]
      · rw [hold x hx, h.connections]
        exact (standing_other (by simp [Deed.opens, Ne.symm hx])).symm
    · exact (h.sessions s).trans (standing_other rfl).symm
  | @created e s r' ho =>
    obtain ⟨t, hal, rfl⟩ := addSession_eq_ok ho
    obtain ⟨hnever, hlive, hold⟩ := HandleTable.standing_allocate hal
    obtain ⟨-, -, -, hget⟩ := HandleTable.allocate_eq_ok hal
    have hfirst := h.sessions s
    rw [hnever] at hfirst
    show Registry.Records _ (ds ++ [.registered (.created e.connection s)])
    refine ⟨fun c => ?_, fun x => ?_, fun x e' he => ?_⟩
    · exact (h.connections c).trans (standing_other rfl).symm
    · show t.standing x = _
      by_cases hx : x = s
      · subst hx
        rw [hlive, standing_first hfirst.symm]
        simp [Deed.creates]
      · rw [hold x hx, h.sessions]
        exact (standing_other (by simp [Deed.creates, Ne.symm hx])).symm
    · have he' : t.get? x = some e' := he
      rw [hget] at he'
      by_cases hx : x = s
      · subst hx
        rw [if_pos rfl] at he'
        obtain rfl := Option.some.inj he'
        refine ⟨[], ?_⟩
        rw [List.dropWhile_append, dropWhile_of_never hfirst.symm]
        simp [Deed.creates]
      · rw [if_neg hx] at he'
        exact h.parents_snoc he' _
  | @executed e ch x r' ho =>
    obtain ⟨t, -, rfl⟩ := addReader_eq_ok ho
    refine ⟨fun c => ?_, fun s => ?_, fun s e' he => h.parents_snoc he _⟩
    · exact (h.connections c).trans (standing_other rfl).symm
    · exact (h.sessions s).trans (standing_other rfl).symm

end Registry.Records

theorem step_records {ds : List Deed} (hb : BridgeOK b none none) (hspent : b.Spent)
    (h : b.registry.Records ds) (e : Event) : (b.step e).registry.Records (ds ++ b.deedsIn e) := by
  obtain ⟨r₀, hx, hadds⟩ := step_deeds hb hspent e
  obtain ⟨hc, hs⟩ := hx.tables
  have hclosed := (h.tables hc hs).closeAll (hx.ok hb.registry) (b.closedIn e)
  have hadded := hclosed.add hadds
  rwa [List.append_assoc] at hadded

/-- **The tables hold what the record of the run says.** -/
theorem after_records {ds : List Deed} (hb : b.Reachable) (h : b.registry.Records ds)
    (es : List Event) : (b.after es).registry.Records (ds ++ b.deeds es) := by
  induction es generalizing b ds with
  | nil =>
    rw [Bridge.deeds, List.append_nil]
    exact h
  | cons e es ih =>
    have hstep := ih (.step e hb) (step_records hb.ok hb.spent h e)
    rwa [List.append_assoc] at hstep

/-- Before the first call nothing has happened. -/
theorem records_empty : ({} : Registry).Records [] := by
  have hempty : ∀ {kind : HandleKind} {α : Type} (h : Handle kind),
      (∅ : HandleTable kind α).standing h = .never := by
    intro kind α h
    refine HandleTable.standing_eq_never.2 ⟨rfl, Bool.eq_false_iff.2 fun hw => ?_⟩
    exact HandleTable.not_issued_empty h (HandleTable.wasReleased_iff.1 hw).1
  exact ⟨hempty, hempty, nofun⟩

/-! ## Counters -/

/-- The kind of what was registered. -/
def Registration.kind : Registration → HandleKind
  | .opened _ => .connection
  | .created _ _ => .session
  | .executed _ => .reader

/-- The number of what was registered. -/
def Registration.number : Registration → Nat
  | .opened c => c.raw.toNat
  | .created _ s => s.raw.toNat
  | .executed h => h.raw.toNat

/-- Whether a resource of a kind was registered. -/
def Deed.registers (k : HandleKind) : Deed → Bool
  | .registered what => what.kind = k
  | .closed _ => false

/-- The number of the next handle of a kind. -/
def Registry.next (r : Registry) : HandleKind → Nat
  | .connection => r.connections.next.toNat
  | .session => r.sessions.next.toNat
  | .reader => r.readers.next.toNat

namespace Registry

/-- Closes do not move the counters. -/
theorem Takes.next {ts : List Target} (ht : r.Takes ts r') (k : HandleKind) :
    r'.next k = r.next k := by
  cases k with
  | connection => exact congrArg UInt32.toNat ht.connNext
  | session => exact congrArg UInt32.toNat ht.sessNext
  | reader => exact congrArg UInt32.toNat ht.readNext

theorem Alike.next (ha : r.Alike r') (k : HandleKind) : r'.next k = r.next k := by
  cases k <;> simp only [Registry.next, ha.connections, ha.sessions, ha.readers]

/-- Readings do not move the counters. -/
theorem Reads.next {met : Option (ReaderHandle × StreamEnd)} (hx : r.Reads met r')
    (hr : RegistryOK r) (k : HandleKind) : r'.next k = r.next k := by
  cases hx with
  | goesOn ha => exact ha.next k
  | metAgain _ ha => exact ha.next k
  | @finished x e r₁ r' hg ha hx =>
    have hE := exhaust_of_active (ha.ok hr) (h := x) (e := e) (by rw [ha.readers]; exact hg)
    rw [hx.next, ← ha.next]
    cases k with
    | connection => exact congrArg (·.next.toNat) hE.connections
    | session => exact congrArg (·.next.toNat) hE.sessions
    | reader => exact congrArg UInt32.toNat hE.readNext
  | @failed x e r₁ r' hg ha hx =>
    have ht : r₁.Takes [.reader x] (r₁.closeReader x).2 := closeReader_takes (ha.ok hr) x
    rw [hx.next, ht.next, ha.next]

/-- **A registration takes the next number of its kind**, and moves that counter alone. -/
theorem Adds.next {new : Option Registration} (ha : r.Adds new r') :
    (∀ what, new = some what → what.number = r.next what.kind) ∧
      ∀ k, r'.next k = r.next k + new.toList.countP (·.kind = k) := by
  cases ha with
  | nothing => exact ⟨nofun, fun _ => rfl⟩
  | opened ho =>
    obtain ⟨t, hal, rfl⟩ := addConnection_eq_ok ho
    obtain ⟨hraw, hnext, -, -⟩ := HandleTable.allocate_eq_ok hal
    refine ⟨?_, fun k => ?_⟩
    · rintro _ ⟨⟩
      exact congrArg UInt32.toNat hraw
    · cases k <;> simp [Registry.next, Registration.kind, hnext]
  | created ho =>
    obtain ⟨t, hal, rfl⟩ := addSession_eq_ok ho
    obtain ⟨hraw, hnext, -, -⟩ := HandleTable.allocate_eq_ok hal
    refine ⟨?_, fun k => ?_⟩
    · rintro _ ⟨⟩
      exact congrArg UInt32.toNat hraw
    · cases k <;>
        simp [Registry.next, Registration.kind, hnext, modifyConnection]
  | executed ho =>
    obtain ⟨t, hal, rfl⟩ := addReader_eq_ok ho
    obtain ⟨hraw, hnext, -, -⟩ := HandleTable.allocate_eq_ok hal
    refine ⟨?_, fun k => ?_⟩
    · rintro _ ⟨⟩
      exact congrArg UInt32.toNat hraw
    · cases k <;>
        simp [Registry.next, Registration.kind, hnext, modifySession]

end Registry

/-- Of what happens in an event, one registration may count. -/
theorem Bridge.countP_deedsIn (b : Bridge) (e : Event) (k : HandleKind) :
    (b.deedsIn e).countP (·.registers k) = (b.registeredIn e).toList.countP (·.kind = k) := by
  have hcloses : ((b.closedIn e).map Deed.closed).countP (·.registers k) = 0 := by
    rw [List.countP_eq_zero]
    intro d hd
    obtain ⟨t, -, rfl⟩ := List.mem_map.1 hd
    exact Bool.false_ne_true
  rw [deedsIn, List.countP_append, hcloses, Nat.zero_add, List.countP_map]
  rfl

/-- An event registers under the next number of the kind, and moves the counters by that alone. -/
theorem step_next (hb : BridgeOK b none none) (hspent : b.Spent) (e : Event) :
    (∀ what, b.registeredIn e = some what → what.number = b.registry.next what.kind) ∧
      ∀ k, (b.step e).registry.next k =
        b.registry.next k + (b.deedsIn e).countP (·.registers k) := by
  obtain ⟨r₀, hx, hadds⟩ := step_deeds hb hspent e
  have hr₀ := hx.ok hb.registry
  have hsame : ∀ k, (r₀.closeAll (b.closedIn e)).next k = b.registry.next k := fun k =>
    ((r₀.closeAll_takes (b.closedIn e) hr₀).next k).trans (hx.next hb.registry k)
  obtain ⟨hnumber, hnext⟩ := hadds.next
  refine ⟨fun what hw => (hnumber what hw).trans (hsame _), fun k => ?_⟩
  rw [hnext, hsame, b.countP_deedsIn]

/-- **The counters move with registrations alone.** -/
theorem after_next (hb : b.Reachable) (k : HandleKind) (es : List Event) :
    (b.after es).registry.next k = b.registry.next k + (b.deeds es).countP (·.registers k) := by
  induction es generalizing b with
  | nil => rfl
  | cons e es ih =>
    rw [Bridge.after_cons, ih (.step e hb), (step_next hb.ok hb.spent e).2, Bridge.deeds,
      List.countP_append, Nat.add_assoc]

end QueryBridge
