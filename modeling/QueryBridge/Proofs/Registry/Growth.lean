import QueryBridge.Proofs.Registry.OK

/-!
# New resources and streams that end

Every addition to a registry and the end of a stream keep the registry well
formed and bring nothing back.

* `addConnection_sound`, `addSession_sound`, `addReader_sound`.
* `exhaust_of_active`: what the end of a stream does to every look-up.
* `cursor_sound`: how far a reader has been read plays no part.
-/

namespace QueryBridge

variable {r r' : Registry}

namespace Registry

/-! ## Statuses after a change -/

theorem connection_modify (r : Registry) {c : ConnectionHandle}
    (f : ConnectionStatus → ConnectionStatus) (hc : (r.connection c).isOpen = true)
    (x : ConnectionHandle) :
    (r.modifyConnection c f).connection x =
      if x = c then f (r.connection c) else r.connection x := by
  unfold connection at hc ⊢
  simp only [modifyConnection, HandleMap.get?_modify]
  by_cases hx : x = c
  · subst hx
    cases hg : r.connectionStatus.get? x with
    | none => simp [hg, default] at hc
    | some a => simp
  · simp [hx]

theorem session_modify (r : Registry) {s : SessionHandle} (f : SessionStatus → SessionStatus)
    (hs : (r.session s).isOpen = true) (x : SessionHandle) :
    (r.modifySession s f).session x = if x = s then f (r.session s) else r.session x := by
  unfold session at hs ⊢
  simp only [modifySession, HandleMap.get?_modify]
  by_cases hx : x = s
  · subst hx
    cases hg : r.sessionStatus.get? x with
    | none => simp [hg, default] at hs
    | some a => simp
  · simp [hx]

theorem reader_modify (r : Registry) {h : ReaderHandle} (f : ReaderStatus → ReaderStatus)
    (hh : (r.reader h).state ≠ .closed) (x : ReaderHandle) :
    (r.modifyReader h f).reader x = if x = h then f (r.reader h) else r.reader x := by
  unfold reader at hh ⊢
  simp only [modifyReader, HandleMap.get?_modify]
  by_cases hx : x = h
  · subst hx
    cases hg : r.readerStatus.get? x with
    | none => simp [hg, default] at hh
    | some a => simp
  · simp [hx]

/-- A reader that frames are taken of has a status. -/
theorem reader_modify_of_receiving (r : Registry) {h : ReaderHandle}
    (f : ReaderStatus → ReaderStatus) (hh : (r.reader h).isReceiving = true) :
    (r.modifyReader h f).reader h = f (r.reader h) := by
  unfold reader at hh ⊢
  simp only [modifyReader, HandleMap.get?_modify]
  cases hg : r.readerStatus.get? h with
  | none => simp [hg, default] at hh
  | some a => simp

/-- A change of one reader leaves the others as they are. -/
theorem reader_modify_of_ne (r : Registry) {h x : ReaderHandle} (f : ReaderStatus → ReaderStatus)
    (hx : x ≠ h) : (r.modifyReader h f).reader x = r.reader x := by
  simp [reader, modifyReader, HandleMap.get?_modify, hx]

/-- A property of a reader that a change keeps holds after it. -/
theorem reader_modify_imp (r : Registry) (h : ReaderHandle) {f : ReaderStatus → ReaderStatus}
    {P : ReaderStatus → Prop} (hf : P (r.reader h) → P (f (r.reader h))) (x : ReaderHandle)
    (hx : P (r.reader x)) : P ((r.modifyReader h f).reader x) := by
  by_cases hxh : x = h
  · subst hxh
    unfold reader at hf hx ⊢
    simp only [modifyReader, HandleMap.get?_modify]
    cases hg : r.readerStatus.get? x with
    | none => simpa [hg] using hx
    | some s => simpa [hg] using hf hx
  · rwa [reader_modify_of_ne _ _ hxh]

/-- What holds of a reader and is kept by a change holds after it. -/
theorem reader_modify_keeps (r : Registry) (h : ReaderHandle) {f : ReaderStatus → ReaderStatus}
    {β : Type*} {g : ReaderStatus → β} (hf : g (f (r.reader h)) = g (r.reader h))
    (x : ReaderHandle) : g ((r.modifyReader h f).reader x) = g (r.reader x) :=
  reader_modify_imp (P := fun s => g s = g (r.reader x)) r h (fun hx => hf.trans hx) x rfl

/-- A reader whose status changes has the new one, unless it never existed. -/
theorem reader_modify_self (r : Registry) (h : ReaderHandle) (f : ReaderStatus → ReaderStatus) :
    (r.modifyReader h f).reader h = f (r.reader h) ∨ (r.modifyReader h f).reader h = default := by
  unfold reader modifyReader
  rw [HandleMap.get?_modify, if_pos rfl]
  cases r.readerStatus.get? h with
  | none => exact .inr rfl
  | some s => exact .inl rfl

end Registry

/-! ## Cursors -/

/-- **How far a reader has been read plays no part**, nor who waits for it. -/
theorem cursor_sound (h : ReaderHandle) {f : ReaderStatus → ReaderStatus}
    (hst : (f (r.reader h)).state = (r.reader h).state)
    (hca : (f (r.reader h)).isCancelled = (r.reader h).isCancelled) :
    r.Sound (r.modifyReader h f) := by
  intro hr
  have h1 := r.reader_modify_keeps h (g := ReaderStatus.state) hst
  have h2 := r.reader_modify_keeps h (g := ReaderStatus.isCancelled) hca
  refine ⟨⟨hr.connOpen, hr.connCancelled, hr.sessOpen, hr.sessCancelled, fun x => ?_, fun x => ?_,
    fun x => ?_, hr.sessions, hr.readers, hr.sessionsSorted, hr.readersSorted, hr.parent,
    hr.readParent, hr.marked, fun s x hx => ?_, hr.owner, hr.endedNodup⟩, ?_⟩
  · rw [h1]; exact hr.active x
  · rw [h1, h2]; exact hr.readCancelled x
  · rw [h1]; exact hr.endedIssued x
  · rw [h1]; exact hr.ended s x hx
  · exact ⟨Nat.le_refl _, Nat.le_refl _, Nat.le_refl _, fun _ _ _ h => h, fun _ _ _ h => h,
      fun _ _ _ h => h, fun x _ _ => h1 x⟩

/-! ## New resources -/

/-- A registration fails only when no handle is left. -/
theorem addConnection_eq_error {e : Connection} {f : Failure} (h : r.addConnection e = .error f) :
    f = .handlesExhausted .connection := by
  unfold Registry.addConnection at h
  cases ha : r.connections.allocate (fun _ => e) with
  | error f' =>
    rw [ha] at h
    exact (Except.error.inj h) ▸ HandleTable.allocate_eq_error ha
  | ok p => rw [ha] at h; cases h

theorem addSession_eq_error {e : Session} {f : Failure} (h : r.addSession e = .error f) :
    f = .handlesExhausted .session := by
  unfold Registry.addSession at h
  cases ha : r.sessions.allocate (fun _ => e) with
  | error f' =>
    rw [ha] at h
    exact (Except.error.inj h) ▸ HandleTable.allocate_eq_error ha
  | ok p => rw [ha] at h; cases h

theorem addReader_eq_error {e : Reader} {ch : Channel} {f : Failure}
    (h : r.addReader e ch = .error f) : f = .handlesExhausted .reader := by
  unfold Registry.addReader at h
  cases ha : r.readers.allocate (fun _ => e) with
  | error f' =>
    rw [ha] at h
    exact (Except.error.inj h) ▸ HandleTable.allocate_eq_error ha
  | ok p => rw [ha] at h; cases h

theorem addConnection_eq_ok {e : Connection} {c : ConnectionHandle}
    (h : r.addConnection e = .ok (c, r')) :
    ∃ t, r.connections.allocate (fun _ => e) = .ok (c, t) ∧
      r' = { r with
        connections := t
        connectionStatus := r.connectionStatus.insert c ⟨true, false, []⟩ } := by
  unfold Registry.addConnection at h
  cases ha : r.connections.allocate (fun _ => e) with
  | error f => rw [ha] at h; simp [bind, Except.bind] at h
  | ok p =>
    rw [ha] at h
    simp only [bind, Except.bind, pure, Except.pure, Except.ok.injEq, Prod.mk.injEq] at h
    obtain ⟨rfl, rfl⟩ := h
    exact ⟨p.2, rfl, rfl⟩

theorem addConnection_sound {e : Connection} {c : ConnectionHandle}
    (h : r.addConnection e = .ok (c, r')) : r.Sound r' := by
  intro hr
  obtain ⟨t, ha, rfl⟩ := addConnection_eq_ok h
  obtain ⟨-, hnext, hnone, hget⟩ := HandleTable.allocate_eq_ok ha
  set r' : Registry := { r with
    connections := t
    connectionStatus := r.connectionStatus.insert c ⟨true, false, []⟩ }
  have hst : ∀ x, r'.connection x = if x = c then ⟨true, false, []⟩ else r.connection x := by
    intro x
    simp only [r', Registry.connection, HandleMap.get?_insert]
    split <;> rfl
  -- a handle that is new has no session on it yet
  have hnil : (r.connection c).sessions = [] := by
    rw [List.eq_nil_iff_forall_not_mem]
    intro s hs
    obtain ⟨e', he', rfl⟩ := (hr.sessions c s).1 hs
    obtain ⟨ce, hce, -⟩ := hr.parent s e' he'
    simp [hnone] at hce
  refine ⟨?ok, ?later⟩
  case ok =>
    exact { hr with
      connOpen := fun x => by
        rw [hst, hget]
        by_cases hx : x = c
        · simp [hx]
        · simp [hx, hr.connOpen]
      connCancelled := fun x => by
        rw [HandleTable.wasReleased_allocate ha, hst, ← hr.connCancelled]
        by_cases hx : x = c
        · subst hx
          rw [if_pos rfl, hr.connCancelled, HandleTable.wasReleased_new ha]
        · simp [hx]
      sessions := fun x s => by
        rw [hst]
        by_cases hx : x = c
        · subst hx; simpa [hnil] using hr.sessions x s
        · simpa [hx] using hr.sessions x s
      sessionsSorted := fun x => by
        rw [hst]
        by_cases hx : x = c
        · simp [hx]
        · simpa [hx] using hr.sessionsSorted x
      parent := fun s e' hs => by
        obtain ⟨ce, hce, hcl⟩ := hr.parent s e' hs
        refine ⟨ce, ?_, hcl⟩
        rw [hget, if_neg (by rintro hx; rw [hx, hnone] at hce; simp at hce)]
        exact hce }
  case later =>
    exact {
      connNext := by show _ ≤ t.next.toNat; omega
      sessNext := Nat.le_refl _
      readNext := Nat.le_refl _
      connections := fun x e' hi hg => by
        rwa [hget, if_neg (HandleTable.ne_of_issued ha hi)] at hg
      sessions := fun _ _ _ h => h
      readers := fun _ _ _ h => h
      ended := fun _ _ _ => rfl }

theorem addSession_eq_ok {e : Session} {s : SessionHandle} (h : r.addSession e = .ok (s, r')) :
    ∃ t, r.sessions.allocate (fun _ => e) = .ok (s, t) ∧
      r' = Registry.modifyConnection { r with
        sessions := t
        sessionStatus := r.sessionStatus.insert s ⟨true, false, [], []⟩ } e.connection
          fun c => { c with sessions := c.sessions ++ [s] } := by
  unfold Registry.addSession at h
  cases ha : r.sessions.allocate (fun _ => e) with
  | error f => rw [ha] at h; simp [bind, Except.bind] at h
  | ok p =>
    rw [ha] at h
    simp only [bind, Except.bind, pure, Except.pure, Except.ok.injEq, Prod.mk.injEq] at h
    obtain ⟨rfl, rfl⟩ := h
    exact ⟨p.2, rfl, rfl⟩

/-- A new session of a live connection. -/
theorem addSession_sound {e : Session} {s : SessionHandle} {ce : Connection}
    (h : r.addSession e = .ok (s, r')) (hce : r.connections.get? e.connection = some ce)
    (hcl : ce.client = e.client) : r.Sound r' := by
  intro hr
  obtain ⟨t, ha, rfl⟩ := addSession_eq_ok h
  obtain ⟨-, hnext, hnone, hget⟩ := HandleTable.allocate_eq_ok ha
  set r₁ : Registry := { r with
    sessions := t
    sessionStatus := r.sessionStatus.insert s ⟨true, false, [], []⟩ }
  set r' := r₁.modifyConnection e.connection fun c => { c with sessions := c.sessions ++ [s] }
  have hco : ∀ x, r'.connection x = if x = e.connection then
      { r.connection x with sessions := (r.connection x).sessions ++ [s] } else r.connection x := by
    intro x
    rw [Registry.connection_modify r₁ _ ((hr.connOpen _).2 ⟨ce, hce⟩)]
    split
    · rename_i hx; subst hx; rfl
    · rfl
  have hst : ∀ x, r'.session x = if x = s then ⟨true, false, [], []⟩ else r.session x := by
    intro x
    show ((r.sessionStatus.insert s ⟨true, false, [], []⟩).get? x).getD default = _
    rw [HandleMap.get?_insert]
    split <;> rfl
  have hget' : ∀ x, r'.sessions.get? x = if x = s then some e else r.sessions.get? x := hget
  -- nothing refers to the new handle yet
  have hold : ∀ x e', r.sessions.get? x = some e' → x ≠ s := by
    rintro x e' hx rfl; simp [hnone] at hx
  have hold' : ∀ h' e', r.readers.get? h' = some e' → e'.session ≠ s := by
    intro h' e' hh' he
    obtain ⟨se, hse, -⟩ := hr.readParent h' e' hh'
    exact hold _ _ hse he
  refine ⟨?ok, ?later⟩
  case ok =>
    exact { hr with
      connOpen := fun x => by
        rw [hco]; split <;> exact hr.connOpen x
      connCancelled := fun x => by
        rw [hco]; split <;> exact hr.connCancelled x
      sessOpen := fun x => by
        rw [hst, hget']
        by_cases hx : x = s
        · simp [hx]
        · simp [hx, hr.sessOpen]
      sessCancelled := fun x => by
        rw [show r'.sessions.wasReleased x = r.sessions.wasReleased x from
          HandleTable.wasReleased_allocate ha x, hst, ← hr.sessCancelled]
        by_cases hx : x = s
        · subst hx
          rw [if_pos rfl, hr.sessCancelled, HandleTable.wasReleased_new ha]
        · simp [hx]
      sessions := fun x y => by
        rw [hco, hget']
        by_cases hy : y = s
        · subst hy
          have hno : y ∉ (r.connection x).sessions := fun hm => by
            obtain ⟨e', he', -⟩ := (hr.sessions x y).1 hm
            exact hold _ _ he' rfl
          by_cases hx : x = e.connection
          · simp [hx]
          · simpa [hx, hno] using fun he => hx he.symm
        · by_cases hx : x = e.connection
          · simpa [hx, hy] using hr.sessions e.connection y
          · simpa [hx, hy] using hr.sessions x y
      readers := fun x y => by
        rw [hst]
        by_cases hx : x = s
        · subst hx
          simp only [if_pos, List.not_mem_nil, false_iff, not_exists, not_and]
          exact fun e' he' => hold' y e' he'
        · rw [if_neg hx]; exact hr.readers x y
      sessionsSorted := fun x => by
        rw [hco]
        split
        · refine HandleTable.sorted_concat ha (hr.sessionsSorted x) fun y hy => ?_
          obtain ⟨e', he', -⟩ := (hr.sessions x y).1 hy
          exact ⟨e', he'⟩
        · exact hr.sessionsSorted x
      readersSorted := fun x => by
        rw [hst]
        by_cases hx : x = s
        · simp [hx]
        · simpa [hx] using hr.readersSorted x
      parent := fun x e' hx => by
        rw [hget'] at hx
        by_cases hxs : x = s
        · simp only [hxs, if_pos, Option.some.injEq] at hx
          subst hx
          exact ⟨ce, hce, hcl⟩
        · rw [if_neg hxs] at hx
          exact hr.parent x e' hx
      readParent := fun x e' hx => by
        obtain ⟨se, hse, hsc⟩ := hr.readParent x e' hx
        exact ⟨se, by rw [hget', if_neg (hold _ _ hse)]; exact hse, hsc⟩
      marked := fun x hx => by
        obtain ⟨y, hy⟩ := hr.marked x hx
        refine ⟨y, ?_⟩
        obtain ⟨-, e', he'⟩ := hr.ended y x hy
        rw [hst, if_neg (hold _ _ he')]; exact hy
      ended := fun x y hx => by
        rw [hst] at hx
        by_cases hxs : x = s
        · simp [hxs] at hx
        · rw [if_neg hxs] at hx
          rw [hget', if_neg hxs]
          exact hr.ended x y hx
      owner := fun x x' y hx hx' => by
        rw [hst] at hx hx'
        by_cases hxs : x = s
        · simp [hxs] at hx
        · by_cases hxs' : x' = s
          · simp [hxs'] at hx'
          · rw [if_neg hxs] at hx; rw [if_neg hxs'] at hx'
            exact hr.owner x x' y hx hx'
      endedNodup := fun x => by
        rw [hst]; split
        · exact List.nodup_nil
        · exact hr.endedNodup x }
  case later =>
    exact {
      connNext := Nat.le_refl _
      sessNext := by show _ ≤ t.next.toNat; omega
      readNext := Nat.le_refl _
      connections := fun _ _ _ h => h
      sessions := fun x e' hi hg => by rwa [hget', if_neg (HandleTable.ne_of_issued ha hi)] at hg
      readers := fun _ _ _ h => h
      ended := fun _ _ _ => rfl }

theorem addReader_eq_ok {e : Reader} {ch : Channel} {h : ReaderHandle}
    (ho : r.addReader e ch = .ok (h, r')) :
    ∃ t, r.readers.allocate (fun _ => e) = .ok (h, t) ∧
      r' = Registry.modifySession { r with
        readers := t
        readerStatus :=
          r.readerStatus.insert h ⟨.active, false, ⟨none, []⟩, ch, true, none⟩ } e.session
          fun s => { s with readers := s.readers ++ [h] } := by
  unfold Registry.addReader at ho
  cases ha : r.readers.allocate (fun _ => e) with
  | error f => rw [ha] at ho; simp [bind, Except.bind] at ho
  | ok p =>
    rw [ha] at ho
    simp only [bind, Except.bind, pure, Except.pure, Except.ok.injEq, Prod.mk.injEq] at ho
    obtain ⟨rfl, rfl⟩ := ho
    exact ⟨p.2, rfl, rfl⟩

/-- What a new reader does to the statuses. -/
theorem addReader_status {e : Reader} {ch : Channel} {h : ReaderHandle}
    (ho : r.addReader e ch = .ok (h, r')) (hs : (r.session e.session).isOpen = true) :
    (∀ x, r'.session x = if x = e.session then
      { r.session x with readers := (r.session x).readers ++ [h] } else r.session x) ∧
    ∀ x, r'.reader x =
      if x = h then ⟨.active, false, ⟨none, []⟩, ch, true, none⟩ else r.reader x := by
  obtain ⟨t, -, rfl⟩ := addReader_eq_ok ho
  constructor
  · intro x
    rw [Registry.session_modify _ _ (by exact hs)]
    split
    · rename_i hx; subst hx; rfl
    · rfl
  · intro x
    show ((r.readerStatus.insert h ⟨.active, false, ⟨none, []⟩, ch, true, none⟩).get? x).getD
      default = _
    rw [HandleMap.get?_insert]
    split <;> rfl

/-- A new reader of a live session. -/
theorem addReader_sound {e : Reader} {ch : Channel} {h : ReaderHandle} {se : Session}
    (ho : r.addReader e ch = .ok (h, r')) (hse : r.sessions.get? e.session = some se)
    (hsc : se.connection = e.connection) : r.Sound r' := by
  intro hr
  obtain ⟨hss, hrs⟩ := addReader_status ho ((hr.sessOpen _).2 ⟨se, hse⟩)
  obtain ⟨t, ha, hr'⟩ := addReader_eq_ok ho
  obtain ⟨-, hnext, hnone, hget⟩ := HandleTable.allocate_eq_ok ha
  have hcc : ∀ x, r'.connection x = r.connection x := by rw [hr']; exact fun _ => rfl
  have hct : r'.connections = r.connections := by rw [hr']; rfl
  have hst : r'.sessions = r.sessions := by rw [hr']; rfl
  have hex : r'.exhausted = r.exhausted := by rw [hr']; rfl
  have hrt : r'.readers = t := by rw [hr']; rfl
  -- the new handle had no reader, neither a live one nor one that has ended
  have hni : (r.reader h).state ≠ .active ∧ (r.reader h).state ≠ .exhausted := by
    refine ⟨fun ha' => ?_, fun he => HandleTable.ne_of_issued ha (hr.endedIssued h he) rfl⟩
    obtain ⟨e', he'⟩ := (hr.active h).1 ha'
    simp [hnone] at he'
  refine ⟨?ok, ?later⟩
  case ok =>
    exact {
      connOpen := fun x => by
        rw [hcc, hct]; exact hr.connOpen x
      connCancelled := fun x => by
        rw [hcc, hct]; exact hr.connCancelled x
      sessOpen := fun x => by
        rw [hss, hst]; split <;> exact hr.sessOpen x
      sessCancelled := fun x => by
        rw [hss, hst]; split <;> exact hr.sessCancelled x
      active := fun x => by
        rw [hrs, hrt, hget]
        by_cases hx : x = h
        · simp [hx]
        · simp [hx, hr.active]
      readCancelled := fun x => by
        rw [hrs, hrt, HandleTable.issued_allocate ha]
        by_cases hx : x = h
        · simp [hx]
        · simp [hx, hr.readCancelled]
      endedIssued := fun x hx => by
        rw [hrs] at hx
        rw [hrt, HandleTable.issued_allocate ha]
        by_cases hxh : x = h
        · exact Or.inl hxh
        · rw [if_neg hxh] at hx; exact Or.inr (hr.endedIssued x hx)
      sessions := fun x y => by
        rw [hcc, hst]; exact hr.sessions x y
      readers := fun x y => by
        rw [hss, hrt, hget]
        by_cases hy : y = h
        · subst hy
          have hno : y ∉ (r.session x).readers := fun hm => by
            obtain ⟨e', he', -⟩ := (hr.readers x y).1 hm
            simp [hnone] at he'
          by_cases hx : x = e.session
          · simp [hx]
          · simpa [hx, hno] using fun he => hx he.symm
        · by_cases hx : x = e.session
          · simpa [hx, hy] using hr.readers e.session y
          · simpa [hx, hy] using hr.readers x y
      sessionsSorted := fun x => by
        rw [hcc]; exact hr.sessionsSorted x
      readersSorted := fun x => by
        rw [hss]
        split
        · refine HandleTable.sorted_concat ha (hr.readersSorted x) fun y hy => ?_
          obtain ⟨e', he', -⟩ := (hr.readers x y).1 hy
          exact ⟨e', he'⟩
        · exact hr.readersSorted x
      parent := fun x e' hx => by
        rw [hst] at hx; rw [hct]; exact hr.parent x e' hx
      readParent := fun x e' hx => by
        rw [hrt, hget] at hx
        rw [hst]
        by_cases hxh : x = h
        · simp only [hxh, if_pos, Option.some.injEq] at hx
          subst hx
          exact ⟨se, hse, hsc⟩
        · rw [if_neg hxh] at hx
          exact hr.readParent x e' hx
      marked := fun x hx => by
        rw [hex] at hx
        obtain ⟨y, hy⟩ := hr.marked x hx
        refine ⟨y, ?_⟩
        rw [hss]; split <;> exact hy
      ended := fun x y hx => by
        have hy : y ∈ (r.session x).exhausted := by rw [hss] at hx; split at hx <;> exact hx
        obtain ⟨he, hl⟩ := hr.ended x y hy
        rw [hrs, if_neg (by rintro rfl; exact hni.2 he), hst]
        exact ⟨he, hl⟩
      owner := fun x x' y hx hx' => by
        have hy : y ∈ (r.session x).exhausted := by rw [hss] at hx; split at hx <;> exact hx
        have hy' : y ∈ (r.session x').exhausted := by rw [hss] at hx'; split at hx' <;> exact hx'
        exact hr.owner x x' y hy hy'
      endedNodup := fun x => by
        rw [hss]; split <;> exact hr.endedNodup x }
  case later =>
    exact {
      connNext := Nat.le_of_eq (by rw [hct])
      sessNext := Nat.le_of_eq (by rw [hst])
      readNext := by rw [hrt]; omega
      connections := fun x e' _ hg => by rwa [hct] at hg
      sessions := fun x e' _ hg => by rwa [hst] at hg
      readers := fun x e' hi hg => by
        rwa [hrt, hget, if_neg (HandleTable.ne_of_issued ha hi)] at hg
      ended := fun x hi hx => by rw [hrs, if_neg (HandleTable.ne_of_issued ha hi)] }

/-! ## Streams that end -/

/-- The end of a stream, for a reader that is not active: its cursor lets go of the channel. -/
theorem exhaust_of_not_active {h : ReaderHandle} {e : Reader}
    (hs : (r.reader h).state ≠ .active) :
    r.exhaust h e = r.modifyReader h fun s =>
      { s with
        isReceiving := false
        channel := { s.channel with buffer := [], roomWaiter := none }
        state := if s.state = .active then .exhausted else s.state } := by
  simp [Registry.exhaust, hs]

/-- **The end of a stream**, for a live reader: it leaves the table and the list
of its session, which names the marker that stays. -/
structure Ended (r r' : Registry) (h : ReaderHandle) (e : Reader) : Prop where
  connections : r'.connections = r.connections
  sessions : r'.sessions = r.sessions
  readNext : r'.readers.next = r.readers.next
  readers : ∀ x, r'.readers.get? x = if x = h then none else r.readers.get? x
  exhausted : ∀ x, r'.exhausted.get? x = if x = h then some () else r.exhausted.get? x
  connection : ∀ c, r'.connection c = r.connection c
  session : ∀ s, r'.session s = if s = e.session then
    { r.session s with
      readers := (r.session s).readers.filter (· ≠ h)
      exhausted := (r.session s).exhausted ++ [h] } else r.session s
  reader : ∀ x, r'.reader x = if x = h then
    { r.reader x with
      isReceiving := false
      channel := { (r.reader x).channel with buffer := [], roomWaiter := none }
      state := .exhausted } else r.reader x

theorem exhaust_of_active (hr : RegistryOK r) {h : ReaderHandle} {e : Reader}
    (he : r.readers.get? h = some e) : Ended r (r.exhaust h e) h e := by
  have ha : (r.reader h).state = .active := (hr.active h).2 ⟨e, he⟩
  obtain ⟨se, hse, -⟩ := hr.readParent h e he
  have hso : (r.session e.session).isOpen = true := (hr.sessOpen _).2 ⟨se, hse⟩
  let f : ReaderStatus → ReaderStatus := fun s =>
    { s with
      isReceiving := false
      channel := { s.channel with buffer := [], roomWaiter := none }
      state := if s.state = .active then .exhausted else s.state }
  have hex : r.exhaust h e = Registry.modifySession { r.modifyReader h f with
      exhausted := r.exhausted.insert h ()
      readers := r.readers.release h } e.session fun s =>
        { s with readers := s.readers.filter (· ≠ h), exhausted := s.exhausted ++ [h] } := by
    simp only [Registry.exhaust, ha, decide_true, Bool.true_and]
    have hc : ((r.sessions.get? e.session).isSome && (r.session e.session).isOpen &&
        (r.readers.get? h).isSome) = true := by simp [hse, hso, he]
    rw [if_pos (by exact hc)]
    rfl
  rw [hex]
  refine ⟨rfl, rfl, rfl, fun x => HandleMap.get?_erase _ _ _,
    fun x => HandleMap.get?_insert _ _ _ _, fun _ => rfl, fun x => ?_, fun x => ?_⟩
  · rw [Registry.session_modify _ _ (by exact hso)]
    split
    · rename_i hx; subst hx; rfl
    · rfl
  · show (r.modifyReader h f).reader x = _
    rw [Registry.reader_modify _ _ (by simp [ha])]
    by_cases hx : x = h
    · subst hx; simp [f, ha]
    · simp [hx]

/-- **The end of a stream keeps the registry well formed.** What is given with
the reader has to be what it was registered with. -/
theorem exhaust_sound {h : ReaderHandle} {e : Reader}
    (he : ∀ e', r.readers.get? h = some e' → e' = e) : r.Sound (r.exhaust h e) := by
  by_cases ha : (r.reader h).state = .active
  swap
  -- only the cursor changes
  · rw [exhaust_of_not_active ha]
    exact cursor_sound h (if_neg ha) rfl
  intro hr
  obtain ⟨e', hg⟩ := (hr.active h).1 ha
  obtain rfl := he e' hg
  have hE := exhaust_of_active hr hg
  obtain ⟨se, hse, -⟩ := hr.readParent h e' hg
  have hiss := HandleTable.issued_of_get? hg
  -- nobody names its marker before
  have hmark : ∀ s, h ∉ (r.session s).exhausted := fun s hm => by
    have := (hr.ended s h hm).1; rw [ha] at this; cases this
  have hi : ∀ x, (r.exhaust h e').readers.Issued x ↔ r.readers.Issued x := by
    intro x; simp only [HandleTable.Issued, hE.readNext]
  have hended : ∀ s x, x ∈ ((r.exhaust h e').session s).exhausted ↔
      x ∈ (r.session s).exhausted ∨ (s = e'.session ∧ x = h) := by
    intro s x
    rw [hE.session]
    by_cases hs : s = e'.session <;> simp [hs]
  refine ⟨?ok, ?later⟩
  case ok =>
    exact {
      connOpen := fun x => by
        rw [hE.connection, hE.connections]; exact hr.connOpen x
      connCancelled := fun x => by
        rw [hE.connection, hE.connections]; exact hr.connCancelled x
      sessOpen := fun x => by
        rw [hE.session, hE.sessions]; split <;> exact hr.sessOpen x
      sessCancelled := fun x => by
        rw [hE.session, hE.sessions]; split <;> exact hr.sessCancelled x
      active := fun x => by
        rw [hE.reader, hE.readers]
        by_cases hx : x = h
        · simp [hx]
        · simp [hx, hr.active]
      readCancelled := fun x => by
        rw [hE.reader, hi]
        by_cases hx : x = h
        · subst hx
          have := hr.readCancelled x
          simp only [ha] at this
          simpa using this
        · simp [hx, hr.readCancelled]
      endedIssued := fun x hx => by
        rw [hi]
        by_cases hxh : x = h
        · rw [hxh]; exact hiss
        · rw [hE.reader, if_neg hxh] at hx; exact hr.endedIssued x hx
      sessions := fun x y => by
        rw [hE.connection, hE.sessions]; exact hr.sessions x y
      readers := fun x y => by
        rw [hE.readers, hE.session]
        by_cases hy : y = h
        · subst hy
          by_cases hx : x = e'.session
          · simp [hx]
          · have : y ∉ (r.session x).readers := fun hm => hx (hr.session_of_listed hm hg).symm
            simp [hx, this]
        · by_cases hx : x = e'.session
          · simpa [hx, hy] using hr.readers e'.session y
          · simpa [hx, hy] using hr.readers x y
      sessionsSorted := fun x => by
        rw [hE.connection]; exact hr.sessionsSorted x
      readersSorted := fun x => by
        rw [hE.session]
        split
        · exact (hr.readersSorted x).filter _
        · exact hr.readersSorted x
      parent := fun x e'' hx => by
        rw [hE.sessions] at hx; rw [hE.connections]; exact hr.parent x e'' hx
      readParent := fun x e'' hx => by
        rw [hE.readers] at hx
        rw [hE.sessions]
        split at hx
        · simp at hx
        · exact hr.readParent x e'' hx
      marked := fun x hx => by
        by_cases hxh : x = h
        · exact ⟨e'.session, (hended _ _).2 (Or.inr ⟨rfl, hxh⟩)⟩
        · rw [HandleMap.contains, hE.exhausted, if_neg hxh] at hx
          obtain ⟨y, hy⟩ := hr.marked x hx
          exact ⟨y, (hended _ _).2 (Or.inl hy)⟩
      ended := fun x y hx => by
        rw [hE.reader, hE.sessions]
        rcases (hended x y).1 hx with hy | ⟨rfl, rfl⟩
        · rw [if_neg (by rintro rfl; exact hmark x hy)]
          exact hr.ended x y hy
        · exact ⟨by simp, se, hse⟩
      owner := fun x x' y hx hx' => by
        rcases (hended x y).1 hx with hx | ⟨rfl, hy⟩
        · rcases (hended x' y).1 hx' with hx' | ⟨-, hy⟩
          · exact hr.owner x x' y hx hx'
          · exact absurd (hy ▸ hx) (hmark x)
        · rcases (hended x' y).1 hx' with hx' | ⟨hx', -⟩
          · exact absurd (hy ▸ hx') (hmark x')
          · exact hx'.symm
      endedNodup := fun x => by
        rw [hE.session]
        split
        · simp only [List.nodup_append, List.nodup_cons, List.not_mem_nil, not_false_eq_true,
            List.nodup_nil, and_self, List.mem_singleton, true_and]
          refine ⟨hr.endedNodup x, ?_⟩
          rintro y hy _ rfl rfl
          exact hmark x hy
        · exact hr.endedNodup x }
  case later =>
    exact {
      connNext := Nat.le_of_eq (by rw [hE.connections])
      sessNext := Nat.le_of_eq (by rw [hE.sessions])
      readNext := Nat.le_of_eq (by rw [hE.readNext])
      connections := fun x e'' _ hg => by rwa [hE.connections] at hg
      sessions := fun x e'' _ hg => by rwa [hE.sessions] at hg
      readers := fun x e'' _ hg => by
        rw [hE.readers] at hg
        split at hg
        · simp at hg
        · exact hg
      ended := fun x _ hx => by
        rw [hE.reader, if_neg (by rintro rfl; exact hx ha)] }

end QueryBridge
