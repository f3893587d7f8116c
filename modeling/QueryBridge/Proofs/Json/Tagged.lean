import QueryBridge.Proofs.Json.Members

/-!
# Tags in any place

The tag of an object may stand anywhere among its members. What comes of the
object is the tag and the other members as they stand, so it does not depend on
where the tag stands; an object that comes to anything has its tag once.

* `Tagged`: what comes of members with the tag among them.
* `tagged_object`, `tagged_of_perm`: an object that is read as what its tag names.
* `Tagged.occurs_tag`, `Tagged.counts`, `Tagged.keeps`: the tag occurs once, the
  other names as often as they stand there, and what they name is kept as it is.
* `tagged_whole`: whatever stands in the place of a tagged object is taken as a
  whole, or not at all.
-/

namespace QueryBridge.Json

universe v

open Progress (deliver)

variable {τ : Type v} {tagName : String} {ofName? : String → Option τ} {outer bound n : Nat}
  {first : Bool} {found : Option τ} {t : τ} {ms : List (Option String × Outline)}
  {vs done : List (String × Value)} {k name : String} {v : Value} {ts rest : List Token}

/-- **What comes of members with a tag among them**: what the tag names, and the
others as they stand. -/
inductive Tagged (tagName : String) (ofName? : String → Option τ) (outer : Nat) :
    Option τ → List (Option String × Outline) → τ → List (String × Value) → Prop
  | nil (t : τ) : Tagged tagName ofName? outer (some t) [] t []
  | tag {name : String} {t t' : τ} {ms : List (Option String × Outline)}
    {vs : List (String × Value)} : ofName? name = some t →
    Tagged tagName ofName? outer (some t) ms t' vs →
    Tagged tagName ofName? outer none ((some tagName, .scalar (.string name)) :: ms) t' vs
  | member {found : Option τ} {k : String} {o : Outline} {v : Value} {t : τ}
    {ms : List (Option String × Outline)} {vs : List (String × Value)} : k ≠ tagName →
    (∀ ts, value outer (o.tokens ++ ts) = .ok (v, ts)) →
    Tagged tagName ofName? outer found ms t vs →
    Tagged tagName ofName? outer found ((some k, o) :: ms) t ((k, v) :: vs)

/-! ## Reading -/

theorem taggedMembers_tag (htag : ofName? name = some t) (done : List (String × Value))
    (ts : List Token) :
    taggedMembers outer tagName ofName? (bound + 1) first none done
        (separator first ++ .string tagName :: .colon :: .string name :: ts) =
      taggedMembers outer tagName ofName? bound false (some t) done ts := by
  cases first <;> simp [separator, taggedMembers, tag, htag]

theorem taggedMembers_member (hk : k ≠ tagName) (hv : value outer ts = .ok (v, rest))
    (found : Option τ) (done : List (String × Value)) :
    taggedMembers outer tagName ofName? (bound + 1) first found done
        (separator first ++ .string k :: .colon :: ts) =
      taggedMembers outer tagName ofName? bound false found ((k, v) :: done) rest := by
  cases first <;> simp [separator, taggedMembers, hk, hv]

theorem taggedMembers_end (t : τ) (done : List (String × Value)) (ts : List Token) :
    taggedMembers outer tagName ofName? (bound + 1) first (some t) done (.closeBrace :: ts) =
      .ok ((t, .members done.reverse), ts) := by
  cases first <;> simp [taggedMembers]

theorem Tagged.reads (h : Tagged tagName ofName? outer found ms t vs) (hbound : ms.length < bound)
    (done : List (String × Value)) (ts : List Token) :
    taggedMembers outer tagName ofName? bound first found done
        (Outline.memberTokens first ms ++ .closeBrace :: ts) =
      .ok ((t, .members (done.reverse ++ vs)), ts) := by
  induction h generalizing bound first done with
  | nil t =>
    obtain ⟨bound, rfl⟩ := Nat.exists_eq_succ_of_ne_zero (Nat.ne_of_gt hbound)
    rw [List.append_nil]
    exact taggedMembers_end t done ts
  | tag htag _ ih =>
    obtain ⟨bound, rfl⟩ := Nat.exists_eq_succ_of_ne_zero (Nat.ne_of_gt (Nat.zero_lt_of_lt hbound))
    rw [Outline.memberTokens_cons]
    exact (taggedMembers_tag htag done _).trans (ih (Nat.lt_of_succ_lt_succ hbound) done)
  | @member found k o v t ms vs hk hv _ ih =>
    obtain ⟨bound, rfl⟩ := Nat.exists_eq_succ_of_ne_zero (Nat.ne_of_gt (Nat.zero_lt_of_lt hbound))
    have hrest : taggedMembers outer tagName ofName? bound false found ((k, v) :: done)
        (Outline.memberTokens false ms ++ .closeBrace :: ts) =
        .ok ((t, .members (((k, v) :: done).reverse ++ vs)), ts) :=
      ih (Nat.lt_of_succ_lt_succ hbound) ((k, v) :: done)
    rw [List.reverse_cons, List.append_assoc] at hrest
    rw [Outline.memberTokens_cons]
    exact (taggedMembers_member hk (hv _) found done).trans hrest

/-- **A tagged object is read** as what comes of its members. -/
theorem tagged_object (h : Tagged tagName ofName? (outer + 1) none ms t vs)
    (hdepth : outer < maxDepth) (ts : List Token) :
    tagged tagName ofName? outer ((Outline.object ms).tokens ++ ts) =
      .ok ((t, .members vs), ts) := by
  have hshallow : ¬ maxDepth ≤ outer := by omega
  have hbound : ms.length < (Outline.memberTokens true ms ++ .closeBrace :: ts).length + 1 := by
    have hlength := Outline.length_memberTokens true ms
    simp only [List.length_append, List.length_cons]
    omega
  rw [Outline.tokens_object, tagged, if_neg hshallow]
  exact h.reads hbound [] ts

/-- Members that are kept and are no tag come to themselves. -/
theorem Tagged.append (hvs : ∀ m ∈ vs, m.1 ≠ tagName ∧ m.2.Fits n) (hdepth : outer + n ≤ maxDepth)
    {vs' : List (String × Value)} (h : Tagged tagName ofName? outer found ms t vs') :
    Tagged tagName ofName? outer found (Value.memberOutlines vs ++ ms) t (vs ++ vs') := by
  induction vs with
  | nil => exact h
  | cons m vs ih =>
    obtain ⟨k, v⟩ := m
    obtain ⟨hk, hv⟩ := hvs (k, v) List.mem_cons_self
    refine .member hk (fun ts => ?_) (ih fun m hm => hvs m (List.mem_cons_of_mem _ hm))
    rw [Value.tokens_outline]
    exact value_tokens hv hdepth ts

theorem Tagged.kept (t : τ) (hvs : ∀ m ∈ vs, m.1 ≠ tagName ∧ m.2.Fits n)
    (hdepth : outer + n ≤ maxDepth) :
    Tagged tagName ofName? outer (some t) (Value.memberOutlines vs) t vs := by
  have h : Tagged tagName ofName? outer (some t) (Value.memberOutlines vs ++ []) t (vs ++ []) :=
    .append hvs hdepth (.nil t)
  rwa [List.append_nil, List.append_nil] at h

/-- **An object that is named by its first member** is read as what the member
names, with the other members as they stand. -/
theorem tagged_tokens {own : List (String × Value)} (htag : ofName? name = some t)
    (hfits : ∀ m ∈ own, m.2.Fits n) (hnames : ∀ m ∈ own, m.1 ≠ tagName)
    (hdepth : outer + 1 + n ≤ maxDepth) (ts : List Token) :
    tagged tagName ofName? outer
        ((Value.object ((tagName, .string name) :: own)).tokens ++ ts) =
      .ok ((t, .members own), ts) := by
  have hown : Tagged tagName ofName? (outer + 1) (some t) (Value.memberOutlines own) t own :=
    .kept t (fun m hm => ⟨hnames m hm, hfits m hm⟩) hdepth
  have hread := tagged_object (.tag htag hown) (by omega) ts
  rwa [← Value.tokens_outline]

/-- **The tag may stand anywhere**: an object comes to what its tag names, with the
other members in the order in which they stand. -/
theorem tagged_of_perm {all own : List (String × Value)} (htag : ofName? name = some t)
    (hall : all.Perm ((tagName, .string name) :: own))
    (hown : ∀ m ∈ own, m.1 ≠ tagName ∧ m.2.Fits n) (hdepth : outer + n ≤ maxDepth) :
    ∃ vs, vs.Perm own ∧ Tagged tagName ofName? outer none (Value.memberOutlines all) t vs := by
  obtain ⟨before, after, rfl⟩ :=
    List.append_of_mem (hall.mem_iff.mpr (List.mem_cons_self (a := (tagName, Value.string name))))
  have hvs : (before ++ after).Perm own := (List.perm_middle.symm.trans hall).cons_inv
  have hbefore : ∀ m ∈ before, m.1 ≠ tagName ∧ m.2.Fits n := fun m hm =>
    hown m (hvs.mem_iff.mp (List.mem_append_left _ hm))
  have hafter : ∀ m ∈ after, m.1 ≠ tagName ∧ m.2.Fits n := fun m hm =>
    hown m (hvs.mem_iff.mp (List.mem_append_right _ hm))
  have hbehind : Tagged tagName ofName? outer (some t) (Value.memberOutlines after) t after :=
    .kept t hafter hdepth
  refine ⟨before ++ after, hvs, ?_⟩
  rw [Value.memberOutlines_eq, List.map_append, List.map_cons, ← Value.memberOutlines_eq,
    ← Value.memberOutlines_eq]
  exact .append hbefore hdepth (.tag htag hbehind)

/-! ## Objects that come to something -/

theorem tag_outline (ofName? : String → Option τ) (o : Outline) :
    (∃ name t, o = .scalar (.string name) ∧ ofName? name = some t) ∨
      ∀ ts, ∃ p, tag ofName? (o.tokens ++ ts) = .error p := by
  cases o with
  | scalar s =>
    cases s with
    | string name =>
      cases h : ofName? name with
      | some t => exact .inl ⟨name, t, rfl, h⟩
      | none => exact .inr fun ts => ⟨.mismatch, by simp [Outline.tokens, Scalar.token, tag, h]⟩
    | _ => exact .inr fun ts => ⟨_, rfl⟩
  | _ => exact .inr fun ts => ⟨_, rfl⟩

/-- Members come to something, or are refused wherever they stand. -/
theorem tagged_or_refused (tagName : String) (ofName? : String → Option τ) (outer : Nat)
    (ms : List (Option String × Outline)) (found : Option τ) :
    (∃ t vs, Tagged tagName ofName? outer found ms t vs) ∨
      ∀ bound first done ts, ∃ p, taggedMembers outer tagName ofName? (bound + ms.length + 1) first
        found done (Outline.memberTokens first ms ++ .closeBrace :: ts) = .error p := by
  induction ms generalizing found with
  | nil =>
    cases found with
    | some t => exact .inl ⟨t, [], .nil t⟩
    | none =>
      refine .inr fun bound first done ts => ⟨.mismatch, ?_⟩
      simp [Outline.memberTokens, taggedMembers]
  | cons m ms ih =>
    obtain ⟨x, o⟩ := m
    cases x with
    | none =>
      refine .inr fun bound first done ts => ⟨.malformed, ?_⟩
      rw [Outline.memberTokens_cons]
      cases first <;> simp [separator, nameToken, taggedMembers]
    | some k =>
      by_cases hk : k = tagName
      · subst hk
        cases found with
        | some t =>
          refine .inr fun bound first done ts => ⟨.mismatch, ?_⟩
          rw [Outline.memberTokens_cons]
          cases first <;> simp [separator, nameToken, taggedMembers]
        | none =>
          rcases tag_outline ofName? o with ⟨name, t, rfl, htag⟩ | hrefused
          · rcases ih (some t) with ⟨t', vs, h⟩ | hrefused
            · exact .inl ⟨t', vs, .tag htag h⟩
            · refine .inr fun bound first done ts => ?_
              obtain ⟨p, hp⟩ := hrefused bound false done ts
              refine ⟨p, ?_⟩
              rw [Outline.memberTokens_cons, nameToken]
              exact (taggedMembers_tag htag done _).trans hp
          · refine .inr fun bound first done ts => ?_
            obtain ⟨p, hp⟩ := hrefused (Outline.memberTokens false ms ++ .closeBrace :: ts)
            refine ⟨p, ?_⟩
            rw [Outline.memberTokens_cons]
            cases first <;> simp [separator, nameToken, taggedMembers, hp]
      · rcases value_outline outer o with ⟨v, -, hv⟩ | ⟨p, hp⟩
        · rcases ih found with ⟨t, vs, h⟩ | hrefused
          · exact .inl ⟨t, (k, v) :: vs, .member hk hv h⟩
          · refine .inr fun bound first done ts => ?_
            obtain ⟨p, hp⟩ := hrefused bound false ((k, v) :: done) ts
            refine ⟨p, ?_⟩
            rw [Outline.memberTokens_cons, nameToken]
            exact (taggedMembers_member hk (hv _) found done).trans hp
        · refine .inr fun bound first done ts => ⟨p, ?_⟩
          rw [Outline.memberTokens_cons]
          cases first <;> simp [separator, nameToken, taggedMembers, hk, hp]

/-- **A tagged object comes to something**, or is refused. -/
theorem tagged_object_or_refused (tagName : String) (ofName? : String → Option τ) (outer : Nat)
    (ms : List (Option String × Outline)) :
    (outer < maxDepth ∧ ∃ t vs, Tagged tagName ofName? (outer + 1) none ms t vs) ∨
      ∀ ts, ∃ p, tagged tagName ofName? outer ((Outline.object ms).tokens ++ ts) = .error p := by
  by_cases hdeep : maxDepth ≤ outer
  · refine .inr fun ts => ⟨.malformed, ?_⟩
    rw [Outline.tokens_object, tagged, if_pos hdeep]
  · rcases tagged_or_refused tagName ofName? (outer + 1) ms none with h | hrefused
    · exact .inl ⟨Nat.lt_of_not_le hdeep, h⟩
    · refine .inr fun ts => ?_
      have hlength := Outline.length_memberTokens true ms
      obtain ⟨bound, hbound⟩ : ∃ bound, (Outline.memberTokens true ms ++ .closeBrace :: ts).length +
          1 = bound + ms.length + 1 := by
        refine ⟨(Outline.memberTokens true ms ++ .closeBrace :: ts).length - ms.length, ?_⟩
        simp only [List.length_append, List.length_cons]
        omega
      rw [Outline.tokens_object, tagged, if_neg hdeep, hbound]
      exact hrefused bound true [] ts

/-- An array whose first item is no tag is refused. -/
theorem tagged_array_refused {p : DecodeProblem} (hdepth : outer < maxDepth) (o : Outline)
    (hp : tag ofName? (o.tokens ++ ts) = .error p) :
    tagged tagName ofName? outer (.openBracket :: (o.tokens ++ ts)) = .error p := by
  have hshallow : ¬ maxDepth ≤ outer := Nat.not_le_of_lt hdepth
  cases o with
  | scalar s =>
    cases s <;> simp only [Outline.tokens, Scalar.token, List.singleton_append] at hp ⊢ <;>
      simp [tagged, hshallow, hp]
  | _ =>
    simp only [Outline.tokens, List.cons_append, List.append_assoc, List.nil_append] at hp ⊢
    simp [tagged, hshallow, hp]

/-- **A tagged array comes to something**, or is refused: what its first item names, and the
others as they stand. -/
theorem tagged_array_or_refused (tagName : String) (ofName? : String → Option τ) (outer : Nat)
    (os : List Outline) :
    (∃ name t vs, os = .scalar (.string name) :: Value.outlines vs ∧ ofName? name = some t ∧
      ∀ ts, tagged tagName ofName? outer ((Outline.array os).tokens ++ ts) =
        .ok ((t, .items vs), ts)) ∨
      ∀ ts, ∃ p, tagged tagName ofName? outer ((Outline.array os).tokens ++ ts) = .error p := by
  by_cases hdeep : maxDepth ≤ outer
  · refine .inr fun ts => ⟨.malformed, ?_⟩
    simp [Outline.tokens, tagged, hdeep]
  · cases os with
    | nil =>
      refine .inr fun ts => ⟨.mismatch, ?_⟩
      simp [Outline.tokens, Outline.itemTokens, tagged, hdeep]
    | cons o os =>
      have hsplit : ∀ ts, (Outline.array (o :: os)).tokens ++ ts =
          .openBracket :: (o.tokens ++ (Outline.itemTokens false os ++ .closeBracket :: ts)) := by
        intro ts
        simp [Outline.tokens, Outline.itemTokens, separator]
      rcases tag_outline ofName? o with ⟨name, t, rfl, htag⟩ | hrefused
      · have hfirst : ∀ ts, (Outline.scalar (.string name)).tokens ++ ts = .string name :: ts :=
          fun _ => rfl
        have hitems : Settles true outer [.items []] .next
            (Outline.itemTokens false os ++ [.closeBracket]) [] (.array os) :=
          resume_outlines os [] []
        simp only [Settles, List.append_assoc, List.singleton_append, true_implies] at hitems
        rcases hitems with ⟨v, hv, hread⟩ | ⟨-, p, hp⟩
        · cases v with
          | array vs =>
            obtain rfl := Outline.array.inj hv
            refine .inl ⟨name, t, vs, rfl, htag, fun ts => ?_⟩
            rw [hsplit, hfirst]
            simp [tagged, hdeep, tag, htag, hread, Progress.goOn, deliver]
          | _ => cases hv
        · refine .inr fun ts => ⟨p, ?_⟩
          rw [hsplit, hfirst]
          simp [tagged, hdeep, tag, htag, hp]
      · refine .inr fun ts => ?_
        obtain ⟨p, hp⟩ := hrefused (Outline.itemTokens false os ++ .closeBracket :: ts)
        refine ⟨p, ?_⟩
        rw [hsplit, tagged_array_refused (Nat.lt_of_not_le hdeep) o hp]

/-- **Whatever stands in the place of a tagged object** is taken as a whole, or not at all. -/
theorem tagged_whole (tagName : String) (ofName? : String → Option τ) (outer : Nat) (o : Outline) :
    TakesWhole (tagged tagName ofName? outer) o := by
  cases o with
  | scalar s => cases s <;> exact .inr fun ts => ⟨_, rfl⟩
  | array os =>
    rcases tagged_array_or_refused tagName ofName? outer os with ⟨_, t, vs, -, -, h⟩ | hrefused
    · exact .inl ⟨(t, .items vs), h⟩
    · exact .inr hrefused
  | object ms =>
    rcases tagged_object_or_refused tagName ofName? outer ms with ⟨hdepth, t, vs, h⟩ | hrefused
    · exact .inl ⟨(t, .members vs), tagged_object h hdepth⟩
    · exact .inr hrefused

/-! ## What stands there -/

/-- **The tag occurs once.** -/
theorem Tagged.occurs_tag (h : Tagged tagName ofName? outer found ms t vs) :
    occurs tagName ms = if found.isSome then 0 else 1 := by
  induction h with
  | nil t => rfl
  | tag _ _ ih =>
    rw [occurs_cons_self, ih]
    rfl
  | @member found k o v t ms vs hk _ _ ih =>
    rw [occurs_cons_of_ne (fun h => hk (Option.some.inj h)), ih]

/-- The tag that has been found is the one that counts. -/
theorem Tagged.of_found (h : Tagged tagName ofName? outer found ms t vs) {t' : τ}
    (hfound : found = some t') : t' = t := by
  induction h with
  | nil t => exact (Option.some.inj hfound).symm
  | tag => cases hfound
  | member _ _ _ ih => exact ih hfound

/-- What stands as the tag names what the object comes to. -/
theorem Tagged.names (h : Tagged tagName ofName? outer found ms t vs) {o : Outline}
    (ho : (some tagName, o) ∈ ms) : ∃ name, o = .scalar (.string name) ∧ ofName? name = some t := by
  induction h with
  | nil t => cases ho
  | @tag name t t' ms vs htag hrest ih =>
    rcases List.mem_cons.mp ho with heq | ho
    · obtain rfl := hrest.of_found rfl
      exact ⟨name, congrArg Prod.snd heq, htag⟩
    · exact ih ho
  | @member found k o' v t ms vs hk _ _ ih =>
    rcases List.mem_cons.mp ho with heq | ho
    · exact absurd (Option.some.inj (congrArg Prod.fst heq)).symm hk
    · exact ih ho

/-- **Every other name occurs as often as it stands there.** -/
theorem Tagged.counts (h : Tagged tagName ofName? outer found ms t vs) (hk : k ≠ tagName) :
    (vs.map Prod.fst).count k = occurs k ms := by
  induction h with
  | nil t => rfl
  | tag _ _ ih => rw [ih, occurs_cons_of_ne (fun h => hk (Option.some.inj h).symm)]
  | @member found k' o v t ms vs _ _ _ ih =>
    by_cases hname : k' = k
    · rw [hname, List.map_cons, List.count_cons_self, ih, occurs_cons_self]
    · rw [List.map_cons, List.count_cons_of_ne hname, ih,
        occurs_cons_of_ne (fun h => hname (Option.some.inj h))]

/-- **Every other member is kept as it stands there.** -/
theorem Tagged.keeps (h : Tagged tagName ofName? outer found ms t vs) (hk : k ≠ tagName)
    {o : Outline} (ho : (some k, o) ∈ ms) : ∃ v, (k, v) ∈ vs ∧ v.outline = o := by
  induction h with
  | nil t => cases ho
  | tag _ _ ih =>
    rcases List.mem_cons.mp ho with heq | ho
    · exact absurd (Option.some.inj (congrArg Prod.fst heq)) hk
    · exact ih ho
  | @member found k' o' v t ms vs _ hv _ ih =>
    rcases List.mem_cons.mp ho with heq | ho
    · obtain ⟨hname, rfl⟩ := Prod.mk.inj heq
      obtain rfl := Option.some.inj hname
      exact ⟨v, List.mem_cons_self, outline_of_value (hv [])⟩
    · obtain ⟨w, hw, hkept⟩ := ih ho
      exact ⟨w, List.mem_cons_of_mem _ hw, hkept⟩

end QueryBridge.Json
