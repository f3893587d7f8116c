import QueryBridge.Proofs.Json.Reading

/-!
# Outlines

What a text may hold where nobody asks for a value: nesting of any depth, numbers
beyond the doubles, strings with half a character in them. An outline is a
value of this kind. Whoever skips it takes its tokens as a whole; whoever would
keep it takes them as a whole too and keeps the outline as it is, or fails.

* `Outline`: any well-formed value.
* `Value.tokens_outline`: values are outlines.
* `resume_outline`: the tokens of an outline are taken as a whole, or not at all.
* `skip_outline`, `value_outline`: the two readers of values.
-/

namespace QueryBridge.Json

open Progress (deliver)

/-- A value that is a single token. -/
inductive Scalar
  | null
  | bool (b : Bool)
  | number (n : Number)
  | string (s : String)
  /-- A string or a number that no value is made of. -/
  | unusable (isText : Bool)

def Scalar.token : Scalar → Token
  | null => .null
  | bool b => .bool b
  | number n => .number n
  | string s => .string s
  | unusable isText => .unusable isText

/-- **Any well-formed value**, to be kept or not. A member has no name if half a
character is in it. -/
inductive Outline
  | scalar (s : Scalar)
  | array (items : List Outline)
  | object (members : List (Option String × Outline))

/-- The token of a name. -/
def nameToken : Option String → Token
  | some k => .string k
  | none => .unusable true

namespace Outline

mutual

/-- The tokens of an outline. -/
def tokens : Outline → List Token
  | scalar s => [s.token]
  | array items => .openBracket :: (itemTokens true items ++ [.closeBracket])
  | object members => .openBrace :: (memberTokens true members ++ [.closeBrace])

/-- The tokens of the items of an array, a comma before each but the first. -/
def itemTokens : Bool → List Outline → List Token
  | _, [] => []
  | first, o :: rest => separator first ++ (o.tokens ++ itemTokens false rest)

/-- The tokens of the members of an object, a comma before each but the first. -/
def memberTokens : Bool → List (Option String × Outline) → List Token
  | _, [] => []
  | first, (k, o) :: rest =>
    separator first ++ (nameToken k :: .colon :: (o.tokens ++ memberTokens false rest))

end

/-- Each member takes a token at least. -/
theorem length_memberTokens (first : Bool) (ms : List (Option String × Outline)) :
    ms.length ≤ (memberTokens first ms).length := by
  induction ms generalizing first with
  | nil => exact Nat.zero_le _
  | cons m ms ih =>
    obtain ⟨k, o⟩ := m
    have hrest := ih false
    simp only [memberTokens, List.length_append, List.length_cons]
    omega

theorem tokens_object (ms : List (Option String × Outline)) (ts : List Token) :
    (object ms).tokens ++ ts = .openBrace :: (memberTokens true ms ++ .closeBrace :: ts) := by
  simp [tokens]

theorem memberTokens_cons (first : Bool) (x : Option String) (o : Outline)
    (ms : List (Option String × Outline)) (ts : List Token) :
    memberTokens first ((x, o) :: ms) ++ ts =
      separator first ++ nameToken x :: .colon :: (o.tokens ++ (memberTokens false ms ++ ts)) := by
  simp [memberTokens]

end Outline

/-! ## Values -/

namespace Value

mutual

/-- The outline of a value. -/
def outline : Value → Outline
  | null => .scalar .null
  | bool b => .scalar (.bool b)
  | number n => .scalar (.number n)
  | string s => .scalar (.string s)
  | array items => .array (outlines items)
  | object members => .object (memberOutlines members)

def outlines : List Value → List Outline
  | [] => []
  | v :: vs => v.outline :: outlines vs

def memberOutlines : List (String × Value) → List (Option String × Outline)
  | [] => []
  | (k, v) :: ms => (some k, v.outline) :: memberOutlines ms

end

theorem outlines_eq (vs : List Value) : outlines vs = vs.map outline := by
  induction vs with
  | nil => rfl
  | cons v vs ih => rw [outlines, ih, List.map_cons]

theorem memberOutlines_eq (ms : List (String × Value)) :
    memberOutlines ms = ms.map fun m => (some m.1, m.2.outline) := by
  induction ms with
  | nil => rfl
  | cons m ms ih => rw [memberOutlines, ih, List.map_cons]

mutual

/-- **A value has the tokens of its outline.** -/
theorem tokens_outline (v : Value) : v.outline.tokens = v.tokens := by
  match v with
  | .null => rfl
  | .bool b => rfl
  | .number n => rfl
  | .string s => rfl
  | .array vs => rw [outline, Outline.tokens, tokens_outlines, tokens]
  | .object ms => rw [outline, Outline.tokens, tokens_memberOutlines, tokens]

theorem tokens_outlines (first : Bool) (vs : List Value) :
    Outline.itemTokens first (outlines vs) = itemTokens first vs := by
  match vs with
  | [] => rfl
  | v :: vs =>
    rw [outlines, Outline.itemTokens, tokens_outline, tokens_outlines, itemTokens,
      List.append_assoc]
    rfl

theorem tokens_memberOutlines (first : Bool) (ms : List (String × Value)) :
    Outline.memberTokens first (memberOutlines ms) = memberTokens first ms := by
  match ms with
  | [] => rfl
  | (k, v) :: ms =>
    rw [memberOutlines, Outline.memberTokens, tokens_outline, tokens_memberOutlines, memberTokens,
      List.append_assoc]
    rfl

end

end Value

/-! ## Reading -/

variable {strict : Bool} {outer : Nat} {stack below : List Frame} {awaits : Awaits}
  {front : List Token} {o o' : Outline}

/-- Tokens are taken as a whole and come to a value, whatever stands behind them,
or they are refused. Where values are kept, the value is the given outline; only
there are tokens refused. -/
def Settles (strict : Bool) (outer : Nat) (stack : List Frame) (awaits : Awaits)
    (front : List Token) (below : List Frame) (o : Outline) : Prop :=
  (∃ v, (strict = true → v.outline = o) ∧ ∀ ts, resume strict outer stack awaits (front ++ ts) =
    (deliver v below).goOn strict outer ts) ∨
  strict = true ∧ ∃ p, ∀ ts, resume strict outer stack awaits (front ++ ts) = .error p

namespace Settles

theorem refused {t : Token} {p : DecodeProblem} (hs : strict = true)
    (h : Progress.step strict outer stack awaits t = .error p) (front : List Token) :
    Settles strict outer stack awaits (t :: front) below o := by
  refine .inr ⟨hs, p, fun ts => ?_⟩
  rw [List.cons_append, resume, h]

/-- A token completes the value. -/
theorem done {t : Token} {v : Value}
    (h : Progress.step strict outer stack awaits t = .ok (deliver v below))
    (hv : strict = true → v.outline = o) :
    Settles strict outer stack awaits [t] below o :=
  .inl ⟨v, hv, fun _ => resume_cons h⟩

/-- A token leads on. -/
theorem cons {t : Token} {stack' : List Frame} {awaits' : Awaits}
    (h : Progress.step strict outer stack awaits t = .ok (.going stack' awaits'))
    (hrest : Settles strict outer stack' awaits' front below o) :
    Settles strict outer stack awaits (t :: front) below o := by
  have hstep : ∀ ts, resume strict outer stack awaits (t :: front ++ ts) =
      resume strict outer stack' awaits' (front ++ ts) := fun _ => resume_cons h
  rcases hrest with ⟨v, hv, hread⟩ | ⟨hs, p, hp⟩
  · exact .inl ⟨v, hv, fun ts => (hstep ts).trans (hread ts)⟩
  · exact .inr ⟨hs, p, fun ts => (hstep ts).trans (hp ts)⟩

/-- A value inside of a container comes first. -/
theorem append {rest : List Token} {filled : Value → List Frame}
    (hfirst : Settles strict outer stack .value front stack o)
    (hfilled : ∀ v, deliver v stack = .going (filled v) .next)
    (hrest : ∀ v, (strict = true → v.outline = o) →
      Settles strict outer (filled v) .next rest below o') :
    Settles strict outer stack .value (front ++ rest) below o' := by
  rcases hfirst with ⟨v, hv, hread⟩ | ⟨hs, p, hp⟩
  · have hstep : ∀ ts, resume strict outer stack .value (front ++ rest ++ ts) =
        resume strict outer (filled v) .next (rest ++ ts) := by
      intro ts
      rw [List.append_assoc, hread, hfilled]
      rfl
    rcases hrest v hv with ⟨w, hw, hread⟩ | ⟨hs, p, hp⟩
    · exact .inl ⟨w, hw, fun ts => (hstep ts).trans (hread ts)⟩
    · exact .inr ⟨hs, p, fun ts => (hstep ts).trans (hp ts)⟩
  · refine .inr ⟨hs, p, fun ts => ?_⟩
    rw [List.append_assoc, hp]

/-- What is not kept may be any outline. -/
theorem congr (h : Settles strict outer stack awaits front below o) (ho : strict = true → o = o') :
    Settles strict outer stack awaits front below o' := by
  rcases h with ⟨v, hv, hread⟩ | hrefused
  · exact .inl ⟨v, fun hs => (hv hs).trans (ho hs), hread⟩
  · exact .inr hrefused

end Settles

/-- An outline begins with no bracket that closes. -/
theorem resume_firstOutline (o : Outline) (below : List Frame) (ts : List Token) :
    resume strict outer (.items [] :: below) .firstItem (o.tokens ++ ts) =
      resume strict outer (.items [] :: below) .value (o.tokens ++ ts) := by
  cases o with
  | scalar s => cases s <;> rfl
  | _ => rfl

theorem settles_firstItem
    (h : Settles strict outer (.items [] :: stack) .value (o.tokens ++ front) below o') :
    Settles strict outer (.items [] :: stack) .firstItem (o.tokens ++ front) below o' := by
  have hsame : ∀ ts, resume strict outer (.items [] :: stack) .firstItem
      (o.tokens ++ front ++ ts) =
      resume strict outer (.items [] :: stack) .value (o.tokens ++ front ++ ts) := by
    intro ts
    rw [List.append_assoc]
    exact resume_firstOutline o stack _
  rcases h with ⟨v, hv, hread⟩ | ⟨hs, p, hp⟩
  · exact .inl ⟨v, hv, fun ts => (hsame ts).trans (hread ts)⟩
  · exact .inr ⟨hs, p, fun ts => (hsame ts).trans (hp ts)⟩

/-- A single token is a value, or is not to be kept. -/
theorem settles_scalar (s : Scalar) (stack : List Frame) :
    Settles strict outer stack .value [s.token] stack (.scalar s) := by
  cases s with
  | null => exact .done (v := .null) rfl fun _ => rfl
  | bool b => exact .done (v := .bool b) rfl fun _ => rfl
  | number n => exact .done (v := .number n) rfl fun _ => rfl
  | string s => exact .done (v := .string s) rfl fun _ => rfl
  | unusable isText =>
    cases strict with
    | true => exact .refused rfl rfl []
    | false => exact .done (v := .null) rfl nofun

/-- The name of a member is taken, or is not to be kept. -/
theorem settles_name (k : Option String) (done : List (String × Value)) (stack : List Frame)
    (front : List Token)
    (h : ∀ name, (strict = true → k = some name) →
      Settles strict outer (.member done name :: stack) .value front below o) :
    Settles strict outer (.members done :: stack) .key (nameToken k :: .colon :: front) below
      o := by
  cases k with
  | some k => exact .cons rfl (.cons rfl (h k fun _ => rfl))
  | none =>
    cases strict with
    | true => exact .refused rfl rfl _
    | false => exact .cons rfl (.cons rfl (h "" nofun))

/-- A container is opened, unless it is to be kept and nests too deep. -/
theorem settles_opened {t : Token} (frame : Frame)
    (henter : Progress.step strict outer stack .value t =
      if strict && decide (maxDepth ≤ outer + stack.length) then .error .malformed
      else .ok (.going (frame :: stack) awaits))
    (h : Settles strict outer (frame :: stack) awaits front below o) :
    Settles strict outer stack .value (t :: front) below o := by
  by_cases hdeep : (strict && decide (maxDepth ≤ outer + stack.length)) = true
  · rw [if_pos hdeep] at henter
    exact .refused (Bool.and_eq_true_iff.mp hdeep).1 henter front
  · rw [if_neg hdeep] at henter
    exact .cons henter h

mutual

/-- **The tokens of an outline are taken as a whole, or not at all.** -/
theorem resume_outline (o : Outline) (stack : List Frame) :
    Settles strict outer stack .value o.tokens stack o := by
  match o with
  | .scalar s => exact settles_scalar s stack
  | .array os =>
    refine settles_opened (.items []) rfl ?_
    match os with
    | [] => exact .done (v := .array []) rfl fun _ => rfl
    | o :: os =>
      have hsplit : Outline.itemTokens true (o :: os) ++ [Token.closeBracket] =
          o.tokens ++ (Outline.itemTokens false os ++ [.closeBracket]) := by
        simp [Outline.itemTokens, separator]
      rw [hsplit]
      refine settles_firstItem (.append (resume_outline o _) (fun _ => rfl) fun v hv => ?_)
      refine (resume_outlines os [v] stack).congr fun hs => ?_
      simp [Value.outlines_eq, hv hs]
  | .object ms =>
    refine settles_opened (.members []) rfl ?_
    match ms with
    | [] => exact .done (v := .object []) rfl fun _ => rfl
    | (k, o) :: ms =>
      have hsplit : Outline.memberTokens true ((k, o) :: ms) ++ [Token.closeBrace] =
          nameToken k :: .colon ::
            (o.tokens ++ (Outline.memberTokens false ms ++ [.closeBrace])) := by
        simp [Outline.memberTokens, separator]
      have hfirst : Settles strict outer (.members [] :: stack) .key (nameToken k :: .colon ::
          (o.tokens ++ (Outline.memberTokens false ms ++ [.closeBrace]))) stack
          (.object ((k, o) :: ms)) := by
        refine settles_name k [] stack _ fun name hk =>
          .append (resume_outline o _) (fun _ => rfl) fun v hv => ?_
        refine (resume_outlineMembers ms [(name, v)] stack).congr fun hs => ?_
        simp [Value.memberOutlines_eq, hk hs, hv hs]
      rw [hsplit]
      -- the first name is awaited as any other
      cases k <;> exact hfirst

/-- The rest of an array, behind some of its items. -/
theorem resume_outlines (os : List Outline) (done : List Value) (stack : List Frame) :
    Settles strict outer (.items done :: stack) .next
      (Outline.itemTokens false os ++ [.closeBracket]) stack
      (.array (Value.outlines done.reverse ++ os)) := by
  match os with
  | [] =>
    refine .done (v := .array done.reverse) rfl fun _ => ?_
    rw [Value.outline, List.append_nil]
  | o :: os =>
    have hsplit : Outline.itemTokens false (o :: os) ++ [Token.closeBracket] =
        .comma :: (o.tokens ++ (Outline.itemTokens false os ++ [.closeBracket])) := by
      simp [Outline.itemTokens, separator]
    rw [hsplit]
    refine .cons rfl (.append (resume_outline o _) (fun _ => rfl) fun v hv => ?_)
    refine (resume_outlines os (v :: done) stack).congr fun hs => ?_
    simp [Value.outlines_eq, hv hs]

/-- The rest of an object, behind some of its members. -/
theorem resume_outlineMembers (ms : List (Option String × Outline))
    (done : List (String × Value)) (stack : List Frame) :
    Settles strict outer (.members done :: stack) .next
      (Outline.memberTokens false ms ++ [.closeBrace]) stack
      (.object (Value.memberOutlines done.reverse ++ ms)) := by
  match ms with
  | [] =>
    refine .done (v := .object done.reverse) rfl fun _ => ?_
    rw [Value.outline, List.append_nil]
  | (k, o) :: ms =>
    have hsplit : Outline.memberTokens false ((k, o) :: ms) ++ [Token.closeBrace] =
        .comma :: nameToken k :: .colon ::
          (o.tokens ++ (Outline.memberTokens false ms ++ [.closeBrace])) := by
      simp [Outline.memberTokens, separator]
    rw [hsplit]
    refine .cons rfl (settles_name k done stack _ fun name hk =>
      .append (resume_outline o _) (fun _ => rfl) fun v hv => ?_)
    refine (resume_outlineMembers ms ((name, v) :: done) stack).congr fun hs => ?_
    simp [Value.memberOutlines_eq, hk hs, hv hs]

end

/-- **An outline is skipped as a whole**, however deep it nests. -/
theorem skip_outline (o : Outline) (ts : List Token) : skip (o.tokens ++ ts) = .ok ts := by
  have hsettles : Settles false 0 [] .value o.tokens [] o := resume_outline o []
  rcases hsettles with ⟨v, -, hread⟩ | ⟨hs, -⟩
  · rw [skip, hread]
    rfl
  · cases hs

/-- **An outline is kept as it is**, or refused. -/
theorem value_outline (outer : Nat) (o : Outline) :
    (∃ v, v.outline = o ∧ ∀ ts, value outer (o.tokens ++ ts) = .ok (v, ts)) ∨
      ∃ p, ∀ ts, value outer (o.tokens ++ ts) = .error p := by
  have hsettles : Settles true outer [] .value o.tokens [] o := resume_outline o []
  rcases hsettles with ⟨v, hv, hread⟩ | ⟨-, hp⟩
  · exact .inl ⟨v, hv rfl, hread⟩
  · exact .inr hp

/-- **What is kept of an outline is the outline.** -/
theorem outline_of_value {v : Value} {ts rest : List Token}
    (h : value outer (o.tokens ++ ts) = .ok (v, rest)) : v.outline = o := by
  rcases value_outline outer o with ⟨w, hw, hread⟩ | ⟨p, hp⟩
  · rw [hread] at h
    cases h
    exact hw
  · rw [hp] at h
    cases h

end QueryBridge.Json
