import QueryBridge.Proofs.Json.Outlines

/-!
# Members in any order

A record is gathered from the members of an object one by one, each field in a
place of its own, and what no field knows is skipped. So the order of the
members does not matter, and a record that is gathered was given each of its
fields once at most.

* `Gathers`: what a record gathers from members.
* `record_gathers`, `gathers_of_record`: a record is read from an object exactly
  if it is gathered from the members.
* `Gathers.perm`, `Gathers.among`: the order of the members does not matter, nor
  what stands between them.
* `Gathers.occurs`, `Gathers.puts`: each field is given once at most, and is in the
  record in the end.
* `TwoSlots`: records of two fields.
-/

namespace QueryBridge.Json

universe u v

variable {σ : Type u} {α : Type v} {outer bound : Nat} {first : Bool} {s s' s'' : σ}
  {fields : List (Field σ)} {f g : Field σ} {k : String} {o : Outline} {ts : List Token}
  {ms ms' : List (Option String × Outline)} {put w : σ → σ}

/-- How often a name stands among members. -/
def occurs (k : String) (ms : List (Option String × Outline)) : Nat :=
  (ms.map Prod.fst).count (some k)

theorem occurs_cons_self : occurs k ((some k, o) :: ms) = occurs k ms + 1 :=
  List.count_cons_self

theorem occurs_cons_of_ne {x : Option String} (h : x ≠ some k) :
    occurs k ((x, o) :: ms) = occurs k ms := List.count_cons_of_ne h

/-! ## Gathering -/

/-- The value of a member is taken as a whole, and changes what has been gathered. -/
def Field.Takes (f : Field σ) (outer : Nat) (o : Outline) (put : σ → σ) : Prop :=
  ∀ s ts, f.read outer s (o.tokens ++ ts) = .ok (put s, ts)

/-- The value of a member is no value of the field. -/
def Field.Refuses (f : Field σ) (outer : Nat) (o : Outline) : Prop :=
  ∀ s ts, ∃ p, f.read outer s (o.tokens ++ ts) = .error p

/-- **What a record gathers from members**, one after another. -/
inductive Gathers (fields : List (Field σ)) (outer : Nat) :
    σ → List (Option String × Outline) → σ → Prop
  | nil (s : σ) : Gathers fields outer s [] s
  | known {f : Field σ} {k : String} {o : Outline} {put : σ → σ} {s s' : σ}
    {ms : List (Option String × Outline)} : fields.find? (·.name = k) = some f →
    f.given s = false → f.Takes outer o put → Gathers fields outer (put s) ms s' →
    Gathers fields outer s ((some k, o) :: ms) s'
  | unknown {k : String} {o : Outline} {s s' : σ} {ms : List (Option String × Outline)} :
    fields.find? (·.name = k) = none → Gathers fields outer s ms s' →
    Gathers fields outer s ((some k, o) :: ms) s'

theorem Gathers.append (h : Gathers fields outer s ms s') (h' : Gathers fields outer s' ms' s'') :
    Gathers fields outer s (ms ++ ms') s'' := by
  induction h with
  | nil => exact h'
  | known hf hgiven ht _ ih => exact .known hf hgiven ht (ih h')
  | unknown hf _ ih => exact .unknown hf (ih h')

/-- Nothing is gathered from what no field knows. -/
theorem gathers_unknown (h : ∀ m ∈ ms, ∃ k, m.1 = some k ∧ fields.find? (·.name = k) = none)
    (s : σ) : Gathers fields outer s ms s := by
  induction ms with
  | nil => exact .nil s
  | cons m ms ih =>
    obtain ⟨x, o⟩ := m
    obtain ⟨k, rfl, hk⟩ := h (x, o) List.mem_cons_self
    exact .unknown hk (ih fun m hm => h m (List.mem_cons_of_mem _ hm))

/-! ## Reading records -/

/-- **A member that a record does not know is skipped.** -/
theorem named_unknown (hk : fields.find? (·.name = k) = none) :
    named outer fields (bound + 1) first s
        (separator first ++ .string k :: .colon :: (o.tokens ++ ts)) =
      named outer fields bound false s ts := by
  cases first <;> simp [separator, named, hk, skip_outline, Except.map]

/-- A member that has been given is noticed by its name. -/
theorem named_again (hf : fields.find? (·.name = k) = some f) (hgiven : f.given s = true) :
    ∃ p, named outer fields (bound + 1) first s (separator first ++ .string k :: ts) =
      .error p := by
  cases first <;> simp [separator, named, hf, hgiven]

/-- A member whose value is refused ends the reading. -/
theorem named_refused (hf : fields.find? (·.name = k) = some f) (hr : f.Refuses outer o) :
    ∃ p, named outer fields (bound + 1) first s
      (separator first ++ .string k :: .colon :: (o.tokens ++ ts)) = .error p := by
  obtain ⟨p, hp⟩ := hr s ts
  cases hgiven : f.given s with
  | true => exact named_again hf hgiven
  | false =>
    refine ⟨p, ?_⟩
    cases first <;> simp [separator, named, hf, hgiven, hp]

/-- A name with half a character in it ends the reading. -/
theorem named_unnamed : ∃ p, named outer fields (bound + 1) first s
    (separator first ++ nameToken none :: ts) = .error p := by
  cases first <;> simp [separator, nameToken, named]

theorem named_gathers (h : Gathers fields outer s ms s') (hbound : ms.length < bound)
    (ts : List Token) :
    named outer fields bound first s (Outline.memberTokens first ms ++ .closeBrace :: ts) =
      .ok (s', ts) := by
  induction h generalizing bound first with
  | nil s =>
    obtain ⟨bound, rfl⟩ := Nat.exists_eq_succ_of_ne_zero (Nat.ne_of_gt hbound)
    exact named_end fields s ts
  | known hf hgiven ht _ ih =>
    obtain ⟨bound, rfl⟩ := Nat.exists_eq_succ_of_ne_zero (Nat.ne_of_gt (Nat.zero_lt_of_lt hbound))
    rw [Outline.memberTokens_cons]
    exact (named_member hf hgiven (ht _ _)).trans (ih (Nat.lt_of_succ_lt_succ hbound))
  | unknown hf _ ih =>
    obtain ⟨bound, rfl⟩ := Nat.exists_eq_succ_of_ne_zero (Nat.ne_of_gt (Nat.zero_lt_of_lt hbound))
    rw [Outline.memberTokens_cons]
    exact (named_unknown hf).trans (ih (Nat.lt_of_succ_lt_succ hbound))

/-- **A record is read from an object** if it is gathered from the members. -/
theorem record_gathers (h : Gathers fields (outer + 1) s ms s') (hdepth : outer < maxDepth)
    (ts : List Token) :
    record fields s outer ((Outline.object ms).tokens ++ ts) = .ok (s', ts) := by
  have hshallow : ¬ maxDepth ≤ outer := by omega
  have hbound : ms.length < (Outline.memberTokens true ms ++ .closeBrace :: ts).length + 1 := by
    have hlength := Outline.length_memberTokens true ms
    simp only [List.length_append, List.length_cons]
    omega
  rw [Outline.tokens_object, record, if_neg hshallow, named_gathers h hbound]

/-- What is read is not refused. -/
theorem not_refused {r : Read σ} {a : σ × List Token} (h : r = .ok a) :
    ¬ ∃ p, r = .error p := by
  rintro ⟨p, hp⟩
  cases hp.symm.trans h

theorem gathers_of_named (hwhole : ∀ f ∈ fields, ∀ o, (∃ put, f.Takes outer o put) ∨
      f.Refuses outer o) (hbound : ms.length < bound) {rest : List Token}
    (h : named outer fields bound first s (Outline.memberTokens first ms ++ .closeBrace :: ts) =
      .ok (s', rest)) :
    Gathers fields outer s ms s' := by
  induction ms generalizing bound first s with
  | nil =>
    obtain ⟨bound, rfl⟩ := Nat.exists_eq_succ_of_ne_zero (Nat.ne_of_gt hbound)
    have hend : named outer fields (bound + 1) first s (.closeBrace :: ts) = .ok (s, ts) :=
      named_end fields s ts
    obtain ⟨rfl, -⟩ := Prod.mk.inj (Except.ok.inj (hend.symm.trans h))
    exact .nil s
  | cons m ms ih =>
    obtain ⟨x, o⟩ := m
    obtain ⟨bound, rfl⟩ := Nat.exists_eq_succ_of_ne_zero (Nat.ne_of_gt (Nat.zero_lt_of_lt hbound))
    have hshorter : ms.length < bound := Nat.lt_of_succ_lt_succ hbound
    rw [Outline.memberTokens_cons] at h
    cases x with
    | none =>
      exact absurd named_unnamed (not_refused h)
    | some k =>
      cases hf : fields.find? (·.name = k) with
      | none => exact .unknown hf (ih hshorter ((named_unknown hf).symm.trans h))
      | some f =>
        cases hgiven : f.given s with
        | true =>
          exact absurd (named_again hf hgiven) (not_refused h)
        | false =>
          rcases hwhole f (List.mem_of_find?_eq_some hf) o with ⟨put, ht⟩ | hr
          · rw [nameToken, named_member hf hgiven (ht s _)] at h
            exact .known hf hgiven ht (ih hshorter h)
          · exact absurd (named_refused hf hr) (not_refused h)

/-- **A record that is read from an object is gathered from the members.** -/
theorem gathers_of_record (hwhole : ∀ f ∈ fields, ∀ o, (∃ put, f.Takes (outer + 1) o put) ∨
      f.Refuses (outer + 1) o) {rest : List Token}
    (h : record fields s outer ((Outline.object ms).tokens ++ ts) = .ok (s', rest)) :
    Gathers fields (outer + 1) s ms s' := by
  have hbound : ms.length < (Outline.memberTokens true ms ++ .closeBrace :: ts).length + 1 := by
    have hlength := Outline.length_memberTokens true ms
    simp only [List.length_append, List.length_cons]
    omega
  rw [Outline.tokens_object, record] at h
  split at h
  · cases h
  · exact gathers_of_named hwhole hbound h

/-! ## Places of their own -/

/-- The fields of a record do not disturb each other. -/
structure Apart (fields : List (Field σ)) (outer : Nat) : Prop where
  /-- A field that has been read is given. -/
  given : ∀ f ∈ fields, ∀ {o put}, f.Takes outer o put → ∀ s, f.given (put s) = true
  /-- No other is given by it. -/
  other : ∀ f ∈ fields, ∀ g ∈ fields, f.name ≠ g.name → ∀ {o put}, f.Takes outer o put →
    ∀ s, g.given (put s) = g.given s
  /-- Two fields may be read in either order. -/
  comm : ∀ f ∈ fields, ∀ g ∈ fields, f.name ≠ g.name → ∀ {o o' put w}, f.Takes outer o put →
    g.Takes outer o' w → ∀ s, put (w s) = w (put s)

theorem find?_name (h : fields.find? (·.name = k) = some f) : f.name = k := by
  simpa using List.find?_some h

/-- **The order of the members does not matter.** -/
theorem Gathers.perm (hfields : Apart fields outer) (hms : ms.Perm ms')
    (h : Gathers fields outer s ms s') : Gathers fields outer s ms' s' := by
  induction hms generalizing s with
  | nil => exact h
  | cons m _ ih =>
    cases h with
    | known hf hgiven ht hrest => exact .known hf hgiven ht (ih hrest)
    | unknown hf hrest => exact .unknown hf (ih hrest)
  | swap m m' ms =>
    cases h with
    | @known f k o put _ _ _ hf hgiven ht hrest =>
      cases hrest with
      | @known g k' o' w _ _ _ hg hgiven' ht' hrest =>
        have hmemf := List.mem_of_find?_eq_some hf
        have hmemg := List.mem_of_find?_eq_some hg
        -- the second name is another one, as the first field is given by then
        have hne : f.name ≠ g.name := by
          intro heq
          rw [find?_name hf, find?_name hg] at heq
          rw [heq, hg] at hf
          obtain rfl := Option.some.inj hf
          rw [hfields.given g hmemg ht s] at hgiven'
          cases hgiven'
        rw [hfields.other f hmemf g hmemg hne ht] at hgiven'
        rw [← hfields.other g hmemg f hmemf hne.symm ht'] at hgiven
        rw [hfields.comm g hmemg f hmemf hne.symm ht' ht] at hrest
        exact .known hg hgiven' ht' (.known hf hgiven ht hrest)
      | unknown hg hrest => exact .unknown hg (.known hf hgiven ht hrest)
    | unknown hf hrest =>
      cases hrest with
      | known hg hgiven' ht' hrest => exact .known hg hgiven' ht' (.unknown hf hrest)
      | unknown hg hrest => exact .unknown hg (.unknown hf hrest)
  | trans _ _ ih₁ ih₂ => exact ih₂ (ih₁ h)

/-- **Members among others that are not known**, in any order. -/
def Among (names : List String) (own all : List (Option String × Outline)) : Prop :=
  ∃ extra, all.Perm (own ++ extra) ∧ ∀ m ∈ extra, ∃ k, m.1 = some k ∧ k ∉ names

theorem Among.refl (names : List String) (own : List (Option String × Outline)) :
    Among names own own := ⟨[], by rw [List.append_nil], nofun⟩

/-- **Members are gathered wherever they stand**, whatever stands between them. -/
theorem Gathers.among (hfields : Apart fields outer) (h : Gathers fields outer s ms s')
    (hall : Among (fields.map (·.name)) ms ms') : Gathers fields outer s ms' s' := by
  obtain ⟨extra, hperm, hextra⟩ := hall
  have hunknown : ∀ m ∈ extra, ∃ k, m.1 = some k ∧ fields.find? (·.name = k) = none := by
    intro m hm
    obtain ⟨k, hk, hnames⟩ := hextra m hm
    refine ⟨k, hk, List.find?_eq_none.mpr fun f hf hname => ?_⟩
    exact hnames (List.mem_map.mpr ⟨f, hf, by simpa using hname⟩)
  exact .perm hfields hperm.symm (h.append (gathers_unknown hunknown s'))

/-- **Each field is given once at most**, and is given in the end if it was
before or stands among the members. -/
theorem Gathers.occurs (hfields : Apart fields outer) (h : Gathers fields outer s ms s')
    (hf : fields.find? (·.name = k) = some f) :
    if f.given s = true then Json.occurs k ms = 0 ∧ f.given s' = true
    else Json.occurs k ms = if f.given s' = true then 1 else 0 := by
  induction h with
  | nil s => split <;> simp_all [Json.occurs]
  | @known g k' o put s s' ms hg hgiven ht _ ih =>
    by_cases hk : k' = k
    · subst hk
      rw [hg] at hf
      obtain rfl := Option.some.inj hf
      rw [if_pos (hfields.given g (List.mem_of_find?_eq_some hg) ht s)] at ih
      rw [if_neg (by simp [hgiven]), occurs_cons_self, ih.1, if_pos ih.2]
    · have hne : g.name ≠ f.name := by
        rw [find?_name hg, find?_name hf]
        exact hk
      have hname : (some k' : Option String) ≠ some k := fun h => hk (Option.some.inj h)
      rw [hfields.other g (List.mem_of_find?_eq_some hg) f (List.mem_of_find?_eq_some hf) hne ht]
        at ih
      rw [occurs_cons_of_ne hname]
      exact ih
  | @unknown k' o s s' ms hg _ ih =>
    have hname : (some k' : Option String) ≠ some k := by
      rintro ⟨⟩
      rw [hf] at hg
      cases hg
    rw [occurs_cons_of_ne hname]
    exact ih

/-- The value of a member that a record knows is taken by its field. -/
theorem Gathers.takes (h : Gathers fields outer s ms s') (hf : fields.find? (·.name = k) = some f)
    (hm : (some k, o) ∈ ms) : ∃ put, f.Takes outer o put := by
  induction h with
  | nil s => cases hm
  | @known g k' o' put s s' ms hg _ ht _ ih =>
    rcases List.mem_cons.mp hm with heq | hm
    · obtain ⟨hk, rfl⟩ := Prod.mk.inj heq
      obtain rfl := Option.some.inj hk
      rw [hf] at hg
      obtain rfl := Option.some.inj hg
      exact ⟨put, ht⟩
    · exact ih hm
  | @unknown k' o' s s' ms hg _ ih =>
    rcases List.mem_cons.mp hm with heq | hm
    · obtain ⟨hk, -⟩ := Prod.mk.inj heq
      obtain rfl := Option.some.inj hk
      rw [hf] at hg
      cases hg
    · exact ih hm

/-- What is gathered from members in two parts. -/
theorem Gathers.of_append (h : Gathers fields outer s (ms ++ ms') s'') :
    ∃ s', Gathers fields outer s ms s' ∧ Gathers fields outer s' ms' s'' := by
  induction ms generalizing s with
  | nil => exact ⟨s, .nil s, h⟩
  | cons m ms ih =>
    cases h with
    | known hf hgiven ht hrest =>
      obtain ⟨s', hfront, hback⟩ := ih hrest
      exact ⟨s', .known hf hgiven ht hfront, hback⟩
    | unknown hf hrest =>
      obtain ⟨s', hfront, hback⟩ := ih hrest
      exact ⟨s', .unknown hf hfront, hback⟩

/-- **A member that a record knows is in it in the end**, as if it had been read last. -/
theorem Gathers.puts (hfields : Apart fields outer) (h : Gathers fields outer s ms s')
    (hf : fields.find? (·.name = k) = some f) (hm : (some k, o) ∈ ms) :
    ∃ put s'', f.Takes outer o put ∧ s' = put s'' := by
  obtain ⟨before, after, rfl⟩ := List.append_of_mem hm
  have hlast : (before ++ (some k, o) :: after).Perm (before ++ after ++ [(some k, o)]) := by
    rw [List.append_assoc]
    exact (List.perm_append_singleton _ _).symm.append_left before
  obtain ⟨s'', -, hmember⟩ := (h.perm hfields hlast).of_append
  cases hmember with
  | known hg _ ht hrest =>
    obtain rfl := Option.some.inj (hf.symm.trans hg)
    cases hrest
    exact ⟨_, s'', ht, rfl⟩
  | unknown hg => cases hf.symm.trans hg

/-! ## Fields with one value -/

/-- A reader takes the tokens of a value as a whole, or refuses them, whatever stands behind. -/
def TakesWhole (item : List Token → Read α) (o : Outline) : Prop :=
  (∃ a, ∀ ts, item (o.tokens ++ ts) = .ok (a, ts)) ∨ ∀ ts, ∃ p, item (o.tokens ++ ts) = .error p

/-- How a value is read, and the place that it goes to. -/
structure Slot (σ : Type u) (α : Type v) where
  item : (outer : Nat) → List Token → Read α
  given : σ → Bool
  put : α → σ → σ

/-- Two places do not disturb each other. -/
structure Slot.Apart {α β : Type v} (w : Slot σ α) (w' : Slot σ β) : Prop where
  comm : ∀ a b s, w.put a (w'.put b s) = w'.put b (w.put a s)
  given_put : ∀ b s, w.given (w'.put b s) = w.given s
  given_put' : ∀ a s, w'.given (w.put a s) = w'.given s

/-- A field reads a value and puts it into its place, which is taken then. -/
structure Field.IsSlot (f : Field σ) (w : Slot σ α) : Prop where
  read : ∀ outer s ts, f.read outer s ts = (w.item outer ts).map fun p => (w.put p.1 s, p.2)
  given : f.given = w.given
  given_put : ∀ a s, w.given (w.put a s) = true

namespace Field.IsSlot

variable {w : Slot σ α} {a : α}

theorem takes (h : f.IsSlot w) (ha : ∀ ts, w.item outer (o.tokens ++ ts) = .ok (a, ts)) :
    f.Takes outer o (w.put a) := by
  intro s ts
  rw [h.read, ha]
  rfl

/-- A member that is there or not puts its value, or nothing, into its place. -/
theorem gathers_option (h : f.IsSlot w) (hf : fields.find? (·.name = k) = some f)
    (hempty : w.given s = false) (outline : α → Outline)
    (ho : ∀ a ts, w.item outer ((outline a).tokens ++ ts) = .ok (a, ts)) (a? : Option α) :
    Gathers fields outer s (a?.map fun a => (some k, outline a)).toList
      (a?.elim s fun a => w.put a s) := by
  cases a? with
  | none => exact .nil s
  | some a =>
    have hgiven : f.given s = false := by rw [h.given, hempty]
    exact .known hf hgiven (h.takes (ho a)) (.nil _)

/-- What a field does it does with the value of its member. -/
theorem eq_put (h : f.IsSlot w) (ht : f.Takes outer o put) (s : σ) :
    ∃ a, w.item outer (o.tokens ++ []) = .ok (a, []) ∧ ∀ s, put s = w.put a s := by
  have hread : ∀ s, (w.item outer (o.tokens ++ [])).map (fun p => (w.put p.1 s, p.2)) =
      .ok (put s, []) := fun s => (h.read outer s _).symm.trans (ht s [])
  cases hitem : w.item outer (o.tokens ++ []) with
  | error p =>
    have hs := hread s
    rw [hitem] at hs
    cases hs
  | ok p =>
    obtain ⟨a, rest⟩ := p
    simp only [hitem, Except.map, Except.ok.injEq, Prod.mk.injEq] at hread
    obtain rfl := (hread s).2
    exact ⟨a, rfl, fun s => (hread s).1.symm⟩

/-- A field whose values are taken as a whole or refused takes or refuses a member. -/
theorem whole (h : f.IsSlot w) (hitem : TakesWhole (w.item outer) o) :
    (∃ put, f.Takes outer o put) ∨ f.Refuses outer o := by
  rcases hitem with ⟨a, ha⟩ | hp
  · exact .inl ⟨w.put a, h.takes ha⟩
  · refine .inr fun s ts => ?_
    obtain ⟨p, hp⟩ := hp ts
    refine ⟨p, ?_⟩
    rw [h.read, hp]
    rfl

end Field.IsSlot

/-! ## Records of two fields -/

/-- A record of two fields, each with a place of its own. -/
inductive TwoSlots {α β : Type v} (k : String) (w : Slot σ α) (k' : String) (w' : Slot σ β) :
    List (Field σ) → Prop
  | mk {f g : Field σ} : f.name = k → g.name = k' → f.IsSlot w → g.IsSlot w' →
    TwoSlots k w k' w' [f, g]

namespace TwoSlots

variable {α β : Type v} {w : Slot σ α} {w' : Slot σ β} {k' : String}

theorem names (h : TwoSlots k w k' w' fields) : fields.map (·.name) = [k, k'] := by
  cases h with
  | mk hf hg => simp [hf, hg]

theorem find_first (h : TwoSlots k w k' w' fields) :
    ∃ f, fields.find? (·.name = k) = some f ∧ f.IsSlot w := by
  cases h with
  | @mk f g hf _ hslot _ => exact ⟨f, by simp [hf], hslot⟩

theorem find_second (h : TwoSlots k w k' w' fields) (hne : k ≠ k') :
    ∃ g, fields.find? (·.name = k') = some g ∧ g.IsSlot w' := by
  cases h with
  | @mk f g hf hg _ hslot => exact ⟨g, by simp [hf, hg, hne], hslot⟩

theorem whole (h : TwoSlots k w k' w' fields) (hw : ∀ o, TakesWhole (w.item outer) o)
    (hw' : ∀ o, TakesWhole (w'.item outer) o) :
    ∀ f ∈ fields, ∀ o, (∃ put, f.Takes outer o put) ∨ f.Refuses outer o := by
  intro x hx o
  cases h with
  | mk _ _ hslot hslot' =>
    rcases List.mem_cons.mp hx with rfl | hx
    · exact hslot.whole (hw o)
    · obtain rfl := List.mem_singleton.mp hx
      exact hslot'.whole (hw' o)

/-- **Two fields are apart** if their places are. -/
theorem apart (h : TwoSlots k w k' w' fields) (hw : w.Apart w') : Apart fields outer := by
  cases h with
  | @mk f g _ _ hf hg =>
    have hgiven : ∀ b s, f.given (w'.put b s) = f.given s := by
      intro b s
      rw [hf.given, hw.given_put]
    have hgiven' : ∀ a s, g.given (w.put a s) = g.given s := by
      intro a s
      rw [hg.given, hw.given_put']
    have hmem : ∀ x ∈ [f, g], x = f ∨ x = g := fun x hx => by simpa using hx
    refine ⟨fun x hx o put ht s => ?_, fun x hx y hy hne o put ht s => ?_,
      fun x hx y hy hne o o' put put' ht ht' s => ?_⟩
    · rcases hmem x hx with rfl | rfl
      · obtain ⟨a, -, ha⟩ := hf.eq_put ht s
        rw [ha, hf.given, hf.given_put]
      · obtain ⟨b, -, hb⟩ := hg.eq_put ht s
        rw [hb, hg.given, hg.given_put]
    · rcases hmem x hx with rfl | rfl <;> rcases hmem y hy with rfl | rfl
      · exact absurd rfl hne
      · obtain ⟨a, -, ha⟩ := hf.eq_put ht s
        rw [ha, hgiven']
      · obtain ⟨b, -, hb⟩ := hg.eq_put ht s
        rw [hb, hgiven]
      · exact absurd rfl hne
    · rcases hmem x hx with rfl | rfl <;> rcases hmem y hy with rfl | rfl
      · exact absurd rfl hne
      · obtain ⟨a, -, ha⟩ := hf.eq_put ht s
        obtain ⟨b, -, hb⟩ := hg.eq_put ht' s
        rw [ha, hb, ha, hb, hw.comm]
      · obtain ⟨b, -, hb⟩ := hg.eq_put ht s
        obtain ⟨a, -, ha⟩ := hf.eq_put ht' s
        rw [ha, hb, ha, hb, hw.comm]
      · exact absurd rfl hne

end TwoSlots

end QueryBridge.Json
