import QueryBridge.Proofs.Registry.Growth

/-!
# What a close takes out

A close is described by the connections, sessions and readers that it takes
out: `Pruned r r' C S R` says that `r'` is `r` without those in `C`, `S` and
`R`, and nothing else has changed.

* `closeReader_pruned`, `closeSession_pruned`, `closeConnection_pruned`: each
  close takes out exactly the resource and all below it.
* `pruned_sound`: taking out everything below what is taken out keeps the
  registry well formed.
-/

namespace QueryBridge

variable {r r' r'' : Registry}

/-- The reader is listed by a session in `S`. -/
def Registry.ReaderIn (r : Registry) (S : SessionHandle → Prop) (h : ReaderHandle) : Prop :=
  ∃ s, S s ∧ h ∈ (r.session s).readers

/-- The marker is named by a session in `S`. -/
def Registry.MarkerIn (r : Registry) (S : SessionHandle → Prop) (h : ReaderHandle) : Prop :=
  ∃ s, S s ∧ h ∈ (r.session s).exhausted

open Classical in
/-- The second registry is the first one without the connections in `C`, the
sessions in `S`, the readers in `R` and the markers that sessions in `S` name.
What is taken out is closed and cancelled. -/
structure Pruned (r r' : Registry) (C : ConnectionHandle → Prop) (S : SessionHandle → Prop)
    (R : ReaderHandle → Prop) : Prop where
  connNext : r'.connections.next = r.connections.next
  sessNext : r'.sessions.next = r.sessions.next
  readNext : r'.readers.next = r.readers.next
  connections : ∀ c, r'.connections.get? c = if C c then none else r.connections.get? c
  sessions : ∀ s, r'.sessions.get? s = if S s then none else r.sessions.get? s
  readers : ∀ h, r'.readers.get? h = if R h then none else r.readers.get? h
  exhausted : ∀ h, r'.exhausted.get? h = if r.MarkerIn S h then none else r.exhausted.get? h
  connection : ∀ c, r'.connection c = if C c then ⟨false, true, []⟩ else
    { r.connection c with sessions := (r.connection c).sessions.filter (¬ S ·) }
  session : ∀ s, r'.session s = if S s then ⟨false, true, [], []⟩ else
    { r.session s with readers := (r.session s).readers.filter (¬ R ·) }
  reader : ∀ h, r'.reader h = if R h then
    { r.reader h with state := .closed, isCancelled := true } else r.reader h

/-! ## Readers -/

/-- Readers are released, closed and cancelled one after another; nothing else changes. -/
theorem foldl_detachReader (hs : List ReaderHandle) (r : Registry)
    (hk : ∀ h e, r.readers.get? h = some e → (r.reader h).state ≠ .closed) :
    let r' := hs.foldl Registry.detachReader r
    r' = { r with readers := r'.readers, readerStatus := r'.readerStatus } ∧
      r'.readers.next = r.readers.next ∧
      (∀ x, r'.readers.get? x = if x ∈ hs then none else r.readers.get? x) ∧
      ∀ x, r'.reader x = if x ∈ hs ∧ (r.readers.get? x).isSome then
        { r.reader x with state := .closed, isCancelled := true } else r.reader x := by
  induction hs generalizing r with
  | nil => simp
  | cons h hs ih =>
    simp only [List.foldl_cons]
    cases hg : r.readers.get? h with
    | none =>
      -- not live: nothing happens
      rw [show r.detachReader h = r by simp [Registry.detachReader, hg]]
      obtain ⟨h1, h2, h3, h4⟩ := ih r hk
      refine ⟨h1, h2, fun x => ?_, fun x => ?_⟩
      · rw [h3]
        by_cases hx : x = h
        · simp [hx, hg]
        · simp [hx]
      · rw [h4]
        by_cases hx : x = h
        · simp [hx, hg]
        · simp [hx]
    | some e =>
      set r₁ := r.detachReader h with hr₁
      have hd : r₁ = Registry.modifyReader { r with readers := r.readers.release h } h
          fun s => { s with state := .closed, isCancelled := true } := by
        simp [hr₁, Registry.detachReader, hg]
      have hget : ∀ x, r₁.readers.get? x = if x = h then none else r.readers.get? x := by
        intro x; rw [hd]; exact HandleTable.get?_release _ _ _
      have hst : ∀ x, r₁.reader x = if x = h then
          { r.reader h with state := .closed, isCancelled := true } else r.reader x := by
        intro x; rw [hd]; exact Registry.reader_modify _ _ (by exact hk h e hg) x
      obtain ⟨h1, h2, h3, h4⟩ := ih r₁ (by
        intro x e' hx
        rw [hget] at hx
        by_cases hxh : x = h
        · simp [hxh] at hx
        · rw [if_neg hxh] at hx; rw [hst, if_neg hxh]; exact hk x e' hx)
      refine ⟨?_, ?_, fun x => ?_, fun x => ?_⟩
      · rw [h1, hd]; rfl
      · rw [h2, hd]; rfl
      · rw [h3, hget]
        by_cases hx : x = h <;> simp [hx]
      · rw [h4, hst, hget]
        by_cases hx : x = h
        · subst hx; simp [hg]
        · simp [hx]

/-- **Closing a live reader** takes out that reader. -/
theorem closeReader_pruned (hr : RegistryOK r) {h : ReaderHandle} {e : Reader}
    (he : r.readers.get? h = some e) :
    (r.closeReader h).1 = some (e.scope h) ∧
      Pruned r (r.closeReader h).2 (fun _ => False) (fun _ => False) (· = h) := by
  obtain ⟨se, hse, -⟩ := hr.readParent h e he
  obtain ⟨hd, hnext, hget, hst⟩ := foldl_detachReader [h] r fun x e' hx => by
    rw [(hr.active x).2 ⟨e', hx⟩]; simp
  simp only [List.foldl_cons, List.foldl_nil, List.mem_singleton] at hd hnext hget hst
  set d := r.detachReader h
  have hses : d.sessions = r.sessions := by rw [hd]
  have hss : ∀ s, d.session s = r.session s := by intro s; rw [hd]; rfl
  set r' := d.modifySession e.session fun s => { s with readers := s.readers.filter (· ≠ h) }
    with hr'
  have hc : r.closeReader h = (some (e.scope h), r') := by
    simp only [Registry.closeReader, he]
    rw [show (r.detachReader h).sessions.get? e.session = some se by rw [hses]; exact hse]
  have hso : (d.session e.session).isOpen = true := by
    rw [hss]; exact (hr.sessOpen _).2 ⟨se, hse⟩
  have hsm := Registry.session_modify d
    (fun s => { s with readers := s.readers.filter (· ≠ h) }) hso
  rw [hc]
  refine ⟨rfl, ?_, ?_, hnext, fun c => ?_, fun s => ?_, fun x => ?_, fun x => ?_, fun c => ?_,
    fun s => ?_, fun x => ?_⟩
  · show d.connections.next = _; rw [hd]
  · show d.sessions.next = _; rw [hses]
  · show d.connections.get? c = _; rw [hd]; simp
  · show d.sessions.get? s = _; rw [hses]; simp
  · show d.readers.get? x = _; rw [hget]; by_cases hx : x = h <;> simp [hx]
  · show d.exhausted.get? x = _; rw [hd]; simp [Registry.MarkerIn]
  · have : r'.connection c = r.connection c := by show d.connection c = _; rw [hd]; rfl
    rw [this]; simp
  -- its session forgets it, and the others never listed it
  · rw [hr', hsm]
    by_cases hs : s = e.session
    · subst hs; simp [hss]
    · have : ∀ x ∈ (r.session s).readers, x ≠ h := by
        rintro x hx rfl
        exact hs (hr.session_of_listed hx he).symm
      rw [if_neg hs, if_neg id, hss, List.filter_eq_self.2 (by simpa using this)]
  · show d.reader x = _
    rw [hst]
    by_cases hx : x = h
    · subst hx; simp [he]
    · simp [hx]

/-- Closing a reader that is not live takes its marker, if there is one. -/
theorem closeReader_of_not_live {h : ReaderHandle} (he : r.readers.get? h = none) :
    r.closeReader h = (none, { r with exhausted := r.exhausted.erase h }) := by
  simp [Registry.closeReader, he]

/-! ## Sessions -/

open Classical in
/-- The sessions in `S` have been detached one after another: they and all below
them are gone, and their connections do not know yet. -/
structure Detached (r r' : Registry) (S : SessionHandle → Prop) : Prop where
  connections : r'.connections = r.connections
  sessNext : r'.sessions.next = r.sessions.next
  readNext : r'.readers.next = r.readers.next
  sessions : ∀ s, r'.sessions.get? s = if S s then none else r.sessions.get? s
  readers : ∀ h, r'.readers.get? h = if r.ReaderIn S h then none else r.readers.get? h
  exhausted : ∀ h, r'.exhausted.get? h = if r.MarkerIn S h then none else r.exhausted.get? h
  connection : ∀ c, r'.connection c = r.connection c
  session : ∀ s, r'.session s = if S s then ⟨false, true, [], []⟩ else r.session s
  reader : ∀ h, r'.reader h = if r.ReaderIn S h then
    { r.reader h with state := .closed, isCancelled := true } else r.reader h

theorem Detached.refl (r : Registry) : Detached r r fun _ => False := by
  constructor <;> simp [Registry.ReaderIn, Registry.MarkerIn]

/-- Sessions that are detached after others are still as they were before. -/
theorem Detached.trans {S S' : SessionHandle → Prop} (h : Detached r r' S)
    (h' : Detached r' r'' S') (hd : ∀ s, S' s → ¬ S s) : Detached r r'' fun s => S s ∨ S' s := by
  have hs : ∀ s, S' s → r'.session s = r.session s := fun s hs => by
    rw [h.session, if_neg (hd s hs)]
  have hr : ∀ x, r'.ReaderIn S' x ↔ r.ReaderIn S' x :=
    fun x => exists_congr fun s => and_congr_right fun h1 => by rw [hs s h1]
  have hm : ∀ x, r'.MarkerIn S' x ↔ r.MarkerIn S' x :=
    fun x => exists_congr fun s => and_congr_right fun h1 => by rw [hs s h1]
  have hr' : ∀ x, r.ReaderIn (fun s => S s ∨ S' s) x ↔ r.ReaderIn S x ∨ r.ReaderIn S' x := by
    intro x
    simp only [Registry.ReaderIn, or_and_right, exists_or]
  have hm' : ∀ x, r.MarkerIn (fun s => S s ∨ S' s) x ↔ r.MarkerIn S x ∨ r.MarkerIn S' x := by
    intro x
    simp only [Registry.MarkerIn, or_and_right, exists_or]
  refine ⟨h'.connections.trans h.connections, h'.sessNext.trans h.sessNext,
    h'.readNext.trans h.readNext, fun s => ?_, fun x => ?_, fun x => ?_,
    fun c => (h'.connection c).trans (h.connection c), fun s => ?_, fun x => ?_⟩
  · rw [h'.sessions, h.sessions]
    by_cases h1 : S s <;> by_cases h2 : S' s <;> simp [h1, h2]
  · rw [h'.readers, h.readers]
    by_cases h1 : r.ReaderIn S x <;> by_cases h2 : r.ReaderIn S' x <;> simp [hr, hr', h1, h2]
  · rw [h'.exhausted, h.exhausted]
    by_cases h1 : r.MarkerIn S x <;> by_cases h2 : r.MarkerIn S' x <;> simp [hm, hm', h1, h2]
  · rw [h'.session, h.session]
    by_cases h1 : S s <;> by_cases h2 : S' s <;> simp [h1, h2]
  · rw [h'.reader, h.reader]
    by_cases h1 : r.ReaderIn S x <;> by_cases h2 : r.ReaderIn S' x <;> simp [hr, hr', h1, h2]

/-- **Detaching a live session** takes out the session and all below it. -/
theorem detachSession_detached {s : SessionHandle} {e : Session}
    (hl : ∀ h ∈ (r.session s).readers, ∃ e, r.readers.get? h = some e)
    (hk : ∀ h e, r.readers.get? h = some e → (r.reader h).state ≠ .closed)
    (hso : (r.session s).isOpen = true) (he : r.sessions.get? s = some e) :
    (r.detachSession s).1 = some e ∧ Detached r (r.detachSession s).2 (· = s) := by
  set r₁ : Registry := Registry.modifySession { r with sessions := r.sessions.release s } s
    fun _ => ⟨false, true, [], []⟩ with hr₁
  have hs₁ : ∀ x, r₁.session x = if x = s then ⟨false, true, [], []⟩ else r.session x := by
    intro x; exact Registry.session_modify _ _ (by exact hso) x
  obtain ⟨hd, hnext, hget, hst⟩ := foldl_detachReader (r.session s).readers r₁ hk
  set d := (r.session s).readers.foldl Registry.detachReader r₁
  have hds : r.detachSession s = (some e, { d with
      exhausted := (r.session s).exhausted.foldl HandleMap.erase d.exhausted }) := by
    simp only [Registry.detachSession, he]; rfl
  rw [hds]
  refine ⟨rfl, ?_, ?_, hnext, fun x => ?_, fun x => ?_, fun x => ?_, fun c => ?_, fun x => ?_,
    fun x => ?_⟩
  · show d.connections = _; rw [hd]; rfl
  · show d.sessions.next = _; rw [hd]; rfl
  · show d.sessions.get? x = _
    rw [hd]
    show (r.sessions.release s).get? x = _
    rw [HandleTable.get?_release]
    by_cases hx : x = s <;> simp [hx]
  · show d.readers.get? x = _
    rw [hget]
    by_cases hx : x ∈ (r.session s).readers <;> simp [Registry.ReaderIn, hx]
    rfl
  · show ((r.session s).exhausted.foldl HandleMap.erase d.exhausted).get? x = _
    rw [HandleMap.get?_foldl_erase, show d.exhausted = r.exhausted by rw [hd]; rfl]
    by_cases hx : x ∈ (r.session s).exhausted <;> simp [Registry.MarkerIn, hx]
  · show d.connection c = _; rw [hd]; rfl
  · show d.session x = _
    rw [show d.session x = r₁.session x by rw [hd]; rfl, hs₁]
    by_cases hx : x = s <;> simp [hx]
  · show d.reader x = _
    rw [hst]
    show (if x ∈ (r.session s).readers ∧ (r.readers.get? x).isSome then
      { r.reader x with state := .closed, isCancelled := true } else r.reader x) = _
    by_cases hx : x ∈ (r.session s).readers
    · obtain ⟨e', he'⟩ := hl x hx
      simp [Registry.ReaderIn, hx, he']
    · simp [Registry.ReaderIn, hx]

/-- Sessions that can be detached one after another: they are live, and so are
the readers that they list, each under one session. -/
structure Detachable (r : Registry) (ss : List SessionHandle) : Prop where
  nodup : ss.Nodup
  live : ∀ s ∈ ss, (r.session s).isOpen = true ∧ ∃ e, r.sessions.get? s = some e
  listed : ∀ s ∈ ss, ∀ h ∈ (r.session s).readers, ∃ e, r.readers.get? h = some e
  active : ∀ h e, r.readers.get? h = some e → (r.reader h).state ≠ .closed
  apart : ∀ s ∈ ss, ∀ s' ∈ ss, ∀ h ∈ (r.session s).readers, h ∈ (r.session s').readers → s = s'

/-- **Detaching sessions one after another** takes out exactly those, and gives
the identifier of each. -/
theorem detachSessions_detached {ss : List SessionHandle} {r : Registry} (hd : Detachable r ss) :
    (r.detachSessions ss).1 = ss.filterMap (fun s => (r.sessions.get? s).map Session.globalId) ∧
      Detached r (r.detachSessions ss).2 (· ∈ ss) := by
  induction ss generalizing r with
  | nil => exact ⟨rfl, by simpa [Registry.detachSessions] using Detached.refl r⟩
  | cons s ss ih =>
    obtain ⟨hso, e, he⟩ := hd.live s List.mem_cons_self
    have hns : s ∉ ss := (List.nodup_cons.1 hd.nodup).1
    have hne : ∀ x ∈ ss, x ≠ s := fun x hx h => hns (h ▸ hx)
    obtain ⟨h1, h2⟩ := detachSession_detached (hd.listed s List.mem_cons_self) hd.active hso he
    set r₁ := (r.detachSession s).2 with hr₁
    -- the sessions behind it are as they were, so they can be detached next
    have hs₁ : ∀ x ∈ ss, r₁.session x = r.session x := fun x hx => by
      rw [h2.session, if_neg (hne x hx)]
    have hg₁ : ∀ x ∈ ss, r₁.sessions.get? x = r.sessions.get? x := fun x hx => by
      rw [h2.sessions, if_neg (hne x hx)]
    have hd₁ : Detachable r₁ ss := by
      refine ⟨(List.nodup_cons.1 hd.nodup).2, fun x hx => ?_, fun x hx y hy => ?_,
        fun y e' hy => ?_, fun x hx x' hx' y hy hy' => ?_⟩
      · rw [hs₁ x hx, hg₁ x hx]; exact hd.live x (List.mem_cons_of_mem _ hx)
      · rw [hs₁ x hx] at hy
        -- a reader is listed by one session, so it did not go with the first
        have hno : ¬ r.ReaderIn (· = s) y := by
          rintro ⟨_, rfl, hy'⟩
          exact hne x hx (hd.apart x (List.mem_cons_of_mem _ hx) _ List.mem_cons_self y hy hy')
        rw [h2.readers, if_neg hno]
        exact hd.listed x (List.mem_cons_of_mem _ hx) y hy
      · rw [h2.readers] at hy
        split at hy
        · simp at hy
        · rename_i hno
          rw [h2.reader, if_neg hno]
          exact hd.active y e' hy
      · rw [hs₁ x hx] at hy; rw [hs₁ x' hx'] at hy'
        exact hd.apart x (List.mem_cons_of_mem _ hx) x' (List.mem_cons_of_mem _ hx') y hy hy'
    obtain ⟨i1, i2⟩ := ih hd₁
    have hds : r.detachSessions (s :: ss) =
        (e.globalId :: (r₁.detachSessions ss).1, (r₁.detachSessions ss).2) := by
      rw [Registry.detachSessions]
      simp only [h1, ← hr₁, Option.map_some, Option.toList_some, List.singleton_append]
    rw [hds]
    refine ⟨?_, ?_⟩
    · simp only [List.filterMap_cons, he, Option.map_some, i1, List.cons.injEq, true_and]
      exact List.filterMap_congr fun x hx => by rw [hg₁ x hx]
    · have := h2.trans i2 hne
      simpa only [List.mem_cons] using this

/-- The live sessions of a connection. -/
def Registry.SessionOf (r : Registry) (c : ConnectionHandle) (s : SessionHandle) : Prop :=
  ∃ e, r.sessions.get? s = some e ∧ e.connection = c

/-- The live readers of sessions. -/
def Registry.ReaderOf (r : Registry) (S : SessionHandle → Prop) (h : ReaderHandle) : Prop :=
  ∃ e, r.readers.get? h = some e ∧ S e.session

theorem RegistryOK.readerIn_iff (hr : RegistryOK r) (S : SessionHandle → Prop) (h : ReaderHandle) :
    r.ReaderIn S h ↔ r.ReaderOf S h := by
  constructor
  · rintro ⟨s, hs, hh⟩
    obtain ⟨e, he, rfl⟩ := (hr.readers s h).1 hh
    exact ⟨e, he, hs⟩
  · rintro ⟨e, he, hs⟩
    exact ⟨e.session, hs, (hr.readers _ h).2 ⟨e, he, rfl⟩⟩

/-- A connection that stays and loses no session is as it was. -/
theorem Pruned.connection_eq {C : ConnectionHandle → Prop} {S : SessionHandle → Prop}
    {R : ReaderHandle → Prop} (hp : Pruned r r' C S R) (hr : RegistryOK r) {c : ConnectionHandle}
    (hc : ¬ C c) (hS : ∀ s, r.SessionOf c s → ¬ S s) : r'.connection c = r.connection c := by
  rw [hp.connection, if_neg hc, List.filter_eq_self.2]
  exact fun s hs => @decide_eq_true _ (_) (hS s ((hr.sessions c s).1 hs))

/-- A session that stays and loses no reader is as it was. -/
theorem Pruned.session_eq {C : ConnectionHandle → Prop} {S : SessionHandle → Prop}
    {R : ReaderHandle → Prop} (hp : Pruned r r' C S R) (hr : RegistryOK r) {s : SessionHandle}
    (hs : ¬ S s) (hR : ∀ h, r.ReaderOf (· = s) h → ¬ R h) : r'.session s = r.session s := by
  rw [hp.session, if_neg hs, List.filter_eq_self.2]
  exact fun h hh => @decide_eq_true _ (_) (hR h ((hr.readers s h).1 hh))

/-- The identifiers of the live sessions of a connection, in the order of their creation. -/
def Registry.idsOf (r : Registry) (c : ConnectionHandle) : List GlobalSessionId :=
  (r.sessions.live.entries.filter (·.2.connection = c)).map (·.2.globalId)

/-- **Closing a live session** takes out the session and its readers. -/
theorem closeSession_pruned (hr : RegistryOK r) {s : SessionHandle} {e : Session}
    (he : r.sessions.get? s = some e) :
    ∃ r', r.closeSession s = .ok (e, r') ∧
      Pruned r r' (fun _ => False) (· = s) (r.ReaderOf (· = s)) := by
  have hso := (hr.sessOpen s).2 ⟨e, he⟩
  obtain ⟨ce, hce, -⟩ := hr.parent s e he
  obtain ⟨h1, hd⟩ := detachSession_detached
    (fun h hh => (hr.readers s h).1 hh |>.imp fun _ h => h.1)
    (fun h e' hh => by rw [(hr.active h).2 ⟨e', hh⟩]; simp) hso he
  set d := (r.detachSession s).2 with hdd
  have hcd : d.connections.get? e.connection = some ce := by rw [hd.connections]; exact hce
  set r' := d.modifyConnection e.connection fun c =>
    { c with sessions := c.sessions.filter (· ≠ s) } with hr'
  refine ⟨r', ?_, ?_⟩
  · unfold Registry.closeSession
    rw [show r.detachSession s = (some e, d) from Prod.ext h1 rfl]
    simp only [hcd]
    rfl
  have hco : (d.connection e.connection).isOpen = true := by
    rw [hd.connection]; exact (hr.connOpen _).2 ⟨ce, hce⟩
  have hcm := Registry.connection_modify d
    (fun c => { c with sessions := c.sessions.filter (· ≠ s) }) hco
  refine ⟨?_, hd.sessNext, hd.readNext, fun c => ?_, fun x => ?_, fun x => ?_, fun x => ?_,
    fun c => ?_, fun x => ?_, fun x => ?_⟩
  · show d.connections.next = _; rw [hd.connections]
  · show d.connections.get? c = _; rw [hd.connections]; simp
  · exact hd.sessions x
  · rw [← propext (hr.readerIn_iff (· = s) x)]; exact hd.readers x
  · exact hd.exhausted x
  · rw [hr', hcm]
    by_cases hc : c = e.connection
    · subst hc; simp [hd.connection]
    -- another connection never listed it
    · rw [if_neg hc, if_neg id, hd.connection, List.filter_eq_self.2]
      refine fun x hx => @decide_eq_true _ (_) ?_
      rintro rfl
      exact hc (hr.connection_of_listed hx he).symm
  · rw [show r'.session x = d.session x from rfl, hd.session]
    by_cases hx : x = s
    · simp [hx]
    · rw [if_neg hx, if_neg hx, List.filter_eq_self.2]
      refine fun y hy => @decide_eq_true _ (_) ?_
      rintro ⟨e', he', hs'⟩
      exact hx ((hr.session_of_listed hy he').symm.trans hs')
  · rw [← propext (hr.readerIn_iff (· = s) x)]; exact hd.reader x

/-! ## Connections -/

/-- The list of a connection names its sessions in the order of their creation. -/
theorem RegistryOK.sessions_eq (hr : RegistryOK r) (c : ConnectionHandle) :
    (r.connection c).sessions =
      (r.sessions.live.entries.filter (·.2.connection = c)).map Prod.fst := by
  refine Handle.eq_of_sorted (hr.sessionsSorted c)
    (r.sessions.live.sorted.sublist (List.filter_sublist.map _)) fun s => ?_
  rw [hr.sessions, List.mem_map]
  constructor
  · rintro ⟨e, he, hc⟩
    exact ⟨(s, e), List.mem_filter.2 ⟨HandleMap.mem_of_get? he, by simpa using hc⟩, rfl⟩
  · rintro ⟨⟨s', e⟩, hm, rfl⟩
    obtain ⟨hm, hc⟩ := List.mem_filter.1 hm
    exact ⟨e, HandleMap.get?_of_mem hm, by simpa using hc⟩

/-- The identifiers of the sessions that a connection lists. -/
theorem RegistryOK.idsOf_eq (hr : RegistryOK r) (c : ConnectionHandle) :
    (r.connection c).sessions.filterMap (fun s => (r.sessions.get? s).map Session.globalId) =
      r.idsOf c := by
  rw [hr.sessions_eq, List.filterMap_map, Registry.idsOf, ← List.filterMap_eq_map]
  apply List.filterMap_congr
  rintro ⟨s, e⟩ hm
  have := HandleMap.get?_of_mem (List.mem_filter.1 hm).1
  simp only [Function.comp, HandleTable.get?, this, Option.map_some]

/-- **Closing a live connection** takes out the connection, its sessions and
their readers, and gives the identifiers of the sessions. -/
theorem closeConnection_pruned (hr : RegistryOK r) {c : ConnectionHandle} {e : Connection}
    (he : r.connections.get? c = some e) :
    ∃ r', r.closeConnection c = .ok (e, r.idsOf c, r') ∧
      Pruned r r' (· = c) (r.SessionOf c) (r.ReaderOf (r.SessionOf c)) := by
  have hco := (hr.connOpen c).2 ⟨e, he⟩
  set ss := (r.connection c).sessions with hss
  set r₁ : Registry := Registry.modifyConnection { r with connections := r.connections.release c } c
    fun _ => ⟨false, true, []⟩ with hr₁
  have hc₁ : ∀ x, r₁.connection x = if x = c then ⟨false, true, []⟩ else r.connection x := by
    intro x; exact Registry.connection_modify _ _ (by exact hco) x
  have hmem : ∀ s, s ∈ ss ↔ r.SessionOf c s := hr.sessions c
  have hmem' : (· ∈ ss) = r.SessionOf c := funext fun s => propext (hmem s)
  -- what is below the connection is as it was
  have hd : Detachable r₁ ss := by
    refine ⟨Handle.nodup_of_sorted (hr.sessionsSorted c), fun s hs => ?_, fun s _ h hh => ?_,
      fun h e' hh => ?_, fun s _ s' _ h hh hh' => ?_⟩
    · obtain ⟨e', he', -⟩ := (hmem s).1 hs
      exact ⟨(hr.sessOpen s).2 ⟨e', he'⟩, e', he'⟩
    · obtain ⟨e', he', -⟩ := (hr.readers s h).1 hh
      exact ⟨e', he'⟩
    · show (r.reader h).state ≠ _
      rw [(hr.active h).2 ⟨e', hh⟩]; simp
    · obtain ⟨e', he', rfl⟩ := (hr.readers s h).1 hh
      exact hr.session_of_listed hh' he'
  obtain ⟨hids, hdet⟩ := detachSessions_detached hd
  rw [hmem'] at hdet
  set d := (r₁.detachSessions ss).2 with hdd
  have hri : ∀ h, r₁.ReaderIn (r.SessionOf c) h ↔ r.ReaderOf (r.SessionOf c) h :=
    hr.readerIn_iff (r.SessionOf c)
  refine ⟨d, ?_, ?_, hdet.sessNext, hdet.readNext, fun x => ?_, fun x => hdet.sessions x,
    fun x => ?_, fun x => hdet.exhausted x, fun x => ?_, fun x => ?_, fun x => ?_⟩
  · unfold Registry.closeConnection
    simp only [he]
    rw [show r₁.detachSessions ss = (r.idsOf c, d) from
      Prod.ext (hids.trans (hr.idsOf_eq c)) rfl]
  · rw [hdet.connections]; rfl
  · rw [hdet.connections]
    show (r.connections.release c).get? x = _
    rw [HandleTable.get?_release]
    by_cases hx : x = c <;> simp [hx]
  · rw [← propext (hri x)]; exact hdet.readers x
  · rw [hdet.connection, hc₁]
    by_cases hx : x = c
    · simp [hx]
    -- another connection has none of the sessions
    · rw [if_neg hx, if_neg hx, List.filter_eq_self.2]
      refine fun s hs => @decide_eq_true _ (_) ?_
      rintro ⟨e₁, he₁, hc⟩
      exact hx ((hr.connection_of_listed hs he₁).symm.trans hc)
  · rw [hdet.session]
    by_cases hx : r.SessionOf c x
    · rw [if_pos hx, if_pos hx]
    · rw [if_neg hx, if_neg hx, List.filter_eq_self.2]
      · rfl
      refine fun y hy => @decide_eq_true _ (_) ?_
      rintro ⟨e₁, he₁, hs⟩
      rw [hr.session_of_listed hy he₁] at hs
      exact hx hs
  · rw [← propext (hri x)]; exact hdet.reader x

/-! ## What is left -/

/-- **Taking out resources with all below them keeps the registry well formed.** -/
theorem pruned_sound {C : ConnectionHandle → Prop} {S : SessionHandle → Prop}
    {R : ReaderHandle → Prop} (hp : Pruned r r' C S R)
    (hC : ∀ c, C c → ∃ e, r.connections.get? c = some e)
    (hS : ∀ s, S s → ∃ e, r.sessions.get? s = some e)
    (hR : ∀ h, R h → ∃ e, r.readers.get? h = some e)
    (hCS : ∀ s e, r.sessions.get? s = some e → C e.connection → S s)
    (hSR : ∀ h e, r.readers.get? h = some e → S e.session → R h) : r.Sound r' := by
  intro hr
  have hic : ∀ c, r'.connections.Issued c ↔ r.connections.Issued c := fun c => by
    simp only [HandleTable.Issued, hp.connNext]
  have his : ∀ s, r'.sessions.Issued s ↔ r.sessions.Issued s := fun s => by
    simp only [HandleTable.Issued, hp.sessNext]
  have hir : ∀ h, r'.readers.Issued h ↔ r.readers.Issued h := fun h => by
    simp only [HandleTable.Issued, hp.readNext]
  have hends : ∀ s h, h ∈ (r'.session s).exhausted → ¬ S s ∧ h ∈ (r.session s).exhausted := by
    intro s h hh
    rw [hp.session] at hh
    by_cases hs : S s
    · simp [hs] at hh
    · rw [if_neg hs] at hh; exact ⟨hs, hh⟩
  -- what is taken out was live
  have hnr : ∀ h, (r.reader h).state ≠ .active → ¬ R h := fun h hst hh =>
    hst ((hr.active h).2 (hR h hh))
  refine ⟨?ok, ?later⟩
  case ok =>
    exact {
      connOpen := fun c => by
        rw [hp.connection, hp.connections]
        by_cases hc : C c
        · simp [hc]
        · rw [if_neg hc, if_neg hc]; exact hr.connOpen c
      connCancelled := fun c => by
        rw [hp.connection]
        by_cases hc : C c
        · obtain ⟨e, he⟩ := hC c hc
          rw [if_pos hc, eq_comm, HandleTable.wasReleased_iff, hic, hp.connections, if_pos hc]
          exact ⟨HandleTable.issued_of_get? he, rfl⟩
        · rw [if_neg hc,
            HandleTable.wasReleased_congr hp.connNext (by rw [hp.connections, if_neg hc])]
          exact hr.connCancelled c
      sessOpen := fun s => by
        rw [hp.session, hp.sessions]
        by_cases hs : S s
        · simp [hs]
        · rw [if_neg hs, if_neg hs]; exact hr.sessOpen s
      sessCancelled := fun s => by
        rw [hp.session]
        by_cases hs : S s
        · obtain ⟨e, he⟩ := hS s hs
          rw [if_pos hs, eq_comm, HandleTable.wasReleased_iff, his, hp.sessions, if_pos hs]
          exact ⟨HandleTable.issued_of_get? he, rfl⟩
        · rw [if_neg hs,
            HandleTable.wasReleased_congr hp.sessNext (by rw [hp.sessions, if_neg hs])]
          exact hr.sessCancelled s
      active := fun h => by
        rw [hp.reader, hp.readers]
        by_cases hh : R h
        · simp [hh]
        · rw [if_neg hh, if_neg hh]; exact hr.active h
      readCancelled := fun h => by
        rw [hp.reader, hir]
        by_cases hh : R h
        · obtain ⟨e, he⟩ := hR h hh
          simpa [hh] using HandleTable.issued_of_get? he
        · rw [if_neg hh]; exact hr.readCancelled h
      endedIssued := fun h hh => by
        rw [hir]
        rw [hp.reader] at hh
        by_cases hR' : R h
        · simp [hR'] at hh
        · rw [if_neg hR'] at hh; exact hr.endedIssued h hh
      sessions := fun c s => by
        rw [hp.connection, hp.sessions]
        by_cases hc : C c
        · simp only [hc, if_pos, List.not_mem_nil, false_iff, not_exists, not_and]
          -- no session of a connection in `C` is left
          intro e he hec
          by_cases hs : S s
          · simp [hs] at he
          · rw [if_neg hs] at he
            exact hs (hCS s e he (hec ▸ hc))
        · by_cases hs : S s
          · simp [hc, hs]
          · simpa [hc, hs] using hr.sessions c s
      readers := fun s h => by
        rw [hp.session, hp.readers]
        by_cases hs : S s
        · simp only [hs, if_pos, List.not_mem_nil, false_iff, not_exists, not_and]
          -- no reader of a session in `S` is left
          intro e he hes
          by_cases hh : R h
          · simp [hh] at he
          · rw [if_neg hh] at he
            exact hh (hSR h e he (hes ▸ hs))
        · by_cases hh : R h
          · simp [hs, hh]
          · simpa [hs, hh] using hr.readers s h
      sessionsSorted := fun c => by
        rw [hp.connection]
        split
        · exact .nil
        · exact (hr.sessionsSorted c).filter _
      readersSorted := fun s => by
        rw [hp.session]
        split
        · exact .nil
        · exact (hr.readersSorted s).filter _
      parent := fun s e hs => by
        rw [hp.sessions] at hs
        by_cases hS' : S s
        · simp [hS'] at hs
        · rw [if_neg hS'] at hs
          obtain ⟨ce, hce, hcl⟩ := hr.parent s e hs
          exact ⟨ce, by rw [hp.connections, if_neg fun hc => hS' (hCS s e hs hc)]; exact hce, hcl⟩
      readParent := fun h e hh => by
        rw [hp.readers] at hh
        by_cases hR' : R h
        · simp [hR'] at hh
        · rw [if_neg hR'] at hh
          obtain ⟨se, hse, hsc⟩ := hr.readParent h e hh
          exact ⟨se, by rw [hp.sessions, if_neg fun hs => hR' (hSR h e hh hs)]; exact hse, hsc⟩
      marked := fun h hh => by
        rw [HandleMap.contains, hp.exhausted] at hh
        by_cases hm : r.MarkerIn S h
        · simp [hm] at hh
        · rw [if_neg hm] at hh
          obtain ⟨s, hs⟩ := hr.marked h hh
          refine ⟨s, ?_⟩
          rw [hp.session, if_neg fun hS' => hm ⟨s, hS', hs⟩]
          exact hs
      ended := fun s h hh => by
        obtain ⟨hs, hh⟩ := hends s h hh
        obtain ⟨hst, hl⟩ := hr.ended s h hh
        rw [hp.reader, if_neg (hnr h (by simp [hst])), hp.sessions, if_neg hs]
        exact ⟨hst, hl⟩
      owner := fun s s' h hh hh' => by exact hr.owner s s' h (hends s h hh).2 (hends s' h hh').2
      endedNodup := fun s => by
        rw [hp.session]
        split
        · exact List.nodup_nil
        · exact hr.endedNodup s }
  case later =>
    exact {
      connNext := Nat.le_of_eq (by rw [hp.connNext])
      sessNext := Nat.le_of_eq (by rw [hp.sessNext])
      readNext := Nat.le_of_eq (by rw [hp.readNext])
      connections := fun c e _ hg => by
        rw [hp.connections] at hg
        split at hg
        · simp at hg
        · exact hg
      sessions := fun s e _ hg => by
        rw [hp.sessions] at hg
        split at hg
        · simp at hg
        · exact hg
      readers := fun h e _ hg => by
        rw [hp.readers] at hg
        split at hg
        · simp at hg
        · exact hg
      ended := fun h _ hst => by rw [hp.reader, if_neg (hnr h hst)] }

/-! ## One close -/

/-- A marker may go at any time. -/
theorem eraseMarker_sound (h : ReaderHandle) :
    r.Sound { r with exhausted := r.exhausted.erase h } := by
  intro hr
  refine ⟨{ hr with marked := fun x hx => hr.marked x ?_ },
    { Registry.Later.refl r with }⟩
  simp only [HandleMap.contains, HandleMap.get?_erase] at hx ⊢
  split at hx
  · simp at hx
  · exact hx

/-- One resource is closed; a handle without one may lose its marker. -/
inductive Registry.CloseStep : Registry → Registry → Prop
  | reader (r : Registry) (h : ReaderHandle) : CloseStep r (r.closeReader h).2
  | session {r r' : Registry} {s : SessionHandle} {e : Session} :
    r.closeSession s = .ok (e, r') → CloseStep r r'
  | connection {r r' : Registry} {c : ConnectionHandle} {e : Connection}
    {ids : List GlobalSessionId} : r.closeConnection c = .ok (e, ids, r') → CloseStep r r'

/-- A close that succeeds is one of a live session. -/
theorem closeSession_live {s : SessionHandle} {e : Session} (h : r.closeSession s = .ok (e, r')) :
    r.sessions.get? s = some e := by
  unfold Registry.closeSession Registry.detachSession at h
  cases hg : r.sessions.get? s with
  | none => simp [hg] at h
  | some e' =>
    simp only [hg, Except.ok.injEq, Prod.mk.injEq] at h
    rw [h.1]

/-- A close that succeeds is one of a live connection. -/
theorem closeConnection_live {c : ConnectionHandle} {e : Connection} {ids : List GlobalSessionId}
    (h : r.closeConnection c = .ok (e, ids, r')) : r.connections.get? c = some e := by
  unfold Registry.closeConnection at h
  cases hg : r.connections.get? c with
  | none => simp [hg] at h
  | some e' =>
    simp only [hg, Except.ok.injEq, Prod.mk.injEq] at h
    rw [h.1]

/-- **A close takes out a part of the registry with all below it**, or only a marker. -/
theorem Registry.CloseStep.cases (hr : RegistryOK r) (h : CloseStep r r') :
    (∃ x, r.readers.get? x = none ∧ r' = { r with exhausted := r.exhausted.erase x }) ∨
    ∃ C S R, Pruned r r' C S R ∧ (∀ c, C c → ∃ e, r.connections.get? c = some e) ∧
      (∀ s, S s → ∃ e, r.sessions.get? s = some e) ∧ (∀ x, R x → ∃ e, r.readers.get? x = some e) ∧
      (∀ s e, r.sessions.get? s = some e → C e.connection → S s) ∧
      (∀ x e, r.readers.get? x = some e → S e.session → R x) := by
  cases h with
  | reader x =>
    cases hg : r.readers.get? x with
    | none => left; exact ⟨x, hg, by rw [closeReader_of_not_live hg]⟩
    | some e =>
      right
      refine ⟨_, _, _, (closeReader_pruned hr hg).2, fun _ h => h.elim, fun _ h => h.elim, ?_,
        fun _ _ _ h => h.elim, fun _ _ _ h => h.elim⟩
      rintro _ rfl
      exact ⟨e, hg⟩
  | @session _ s e h =>
    have hg := closeSession_live h
    obtain ⟨r₂, h₂, hp⟩ := closeSession_pruned hr hg
    rw [h, Except.ok.injEq, Prod.mk.injEq] at h₂
    obtain ⟨-, rfl⟩ := h₂
    right
    refine ⟨_, _, _, hp, fun _ h => h.elim, ?_, fun x ⟨e', he', _⟩ => ⟨e', he'⟩,
      fun _ _ _ h => h.elim, fun x e' he' hs => ⟨e', he', hs⟩⟩
    rintro _ rfl
    exact ⟨e, hg⟩
  | @connection _ c e ids h =>
    have hg := closeConnection_live h
    obtain ⟨r₂, h₂, hp⟩ := closeConnection_pruned hr hg
    rw [h, Except.ok.injEq, Prod.mk.injEq, Prod.mk.injEq] at h₂
    obtain ⟨-, -, rfl⟩ := h₂
    right
    refine ⟨_, _, _, hp, ?_, fun s ⟨e', he', _⟩ => ⟨e', he'⟩, fun x ⟨e', he', _⟩ => ⟨e', he'⟩,
      fun s e' he' hc => ⟨e', he', hc⟩, fun x e' he' hs => ⟨e', he', hs⟩⟩
    rintro _ rfl
    exact ⟨e, hg⟩

/-- **A close keeps the registry well formed and brings nothing back.** -/
theorem Registry.CloseStep.sound (h : CloseStep r r') : r.Sound r' := by
  intro hr
  rcases h.cases hr with ⟨x, -, rfl⟩ | ⟨C, S, R, hp, hC, hS, hR, hCS, hSR⟩
  · exact eraseMarker_sound x hr
  · exact pruned_sound hp hC hS hR hCS hSR hr

end QueryBridge
