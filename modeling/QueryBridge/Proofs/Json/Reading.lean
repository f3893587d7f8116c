import QueryBridge.Proofs.Json.Tokens

/-!
# Reading tokens of values

A reader that meets the tokens of a value takes just these, and goes on behind
them with the value.

* `value_tokens`: the reader of values.
* `named_member`, `named_end`: the members of a record, one at a time.
-/

namespace QueryBridge.Json

universe u

open Progress (deliver)
open Value (itemTokens memberTokens)

/-! ## Values -/

/-- How the reading of a value goes on from where it stands. -/
def Progress.goOn (strict : Bool) (outer : Nat) : Progress → List Token → Read Value
  | .done v, ts => .ok (v, ts)
  | .going stack awaits, ts => resume strict outer stack awaits ts

variable {strict : Bool} {outer n : Nat} {stack : List Frame} {ts : List Token}

theorem resume_cons {awaits : Awaits} {t : Token} {p : Progress}
    (h : Progress.step strict outer stack awaits t = .ok p) :
    resume strict outer stack awaits (t :: ts) = p.goOn strict outer ts := by
  rw [resume, h]
  cases p <;> rfl

/-- A container may be opened where there is room for it. -/
theorem not_tooDeep (hdepth : outer + stack.length + (n + 1) ≤ maxDepth) :
    (strict && decide (maxDepth ≤ outer + stack.length)) = false := by
  have hlt : ¬ maxDepth ≤ outer + stack.length := by omega
  rw [decide_eq_false hlt, Bool.and_false]

/-- A value begins with no bracket that closes. -/
theorem resume_firstItem (v : Value) (below : List Frame) (ts : List Token) :
    resume strict outer (.items [] :: below) .firstItem (v.tokens ++ ts) =
      resume strict outer (.items [] :: below) .value (v.tokens ++ ts) := by
  cases v <;> rfl

mutual

/-- **The tokens of a value are taken as a whole.** -/
theorem resume_tokens {n : Nat} (v : Value) (hv : v.Fits n) (stack : List Frame)
    (hdepth : outer + stack.length + n ≤ maxDepth) (ts : List Token) :
    resume strict outer stack .value (v.tokens ++ ts) =
      (deliver v stack).goOn strict outer ts := by
  match n, v, hv with
  | _, .null, _ => exact resume_cons rfl
  | _, .bool b, _ => exact resume_cons rfl
  | _, .number x, _ => exact resume_cons rfl
  | _, .string s, _ => exact resume_cons rfl
  | n + 1, .array vs, .array hvs =>
    have henter : Progress.step strict outer stack .value .openBracket =
        .ok (.going (.items [] :: stack) .firstItem) := by
      simp [Progress.step, Progress.enter, not_tooDeep hdepth]
    have hbelow : outer + (stack.length + 1) + n ≤ maxDepth := by omega
    have htokens : (Value.array vs).tokens ++ ts =
        .openBracket :: (itemTokens true vs ++ .closeBracket :: ts) := by simp [Value.tokens]
    rw [htokens, resume_cons henter]
    match vs with
    | [] => exact resume_cons rfl
    | v :: vs =>
      have hfirst := resume_tokens v (hvs v List.mem_cons_self) (.items [] :: stack) hbelow
        (itemTokens false vs ++ .closeBracket :: ts)
      have hrest := resume_items vs (fun x hx => hvs x (List.mem_cons_of_mem v hx)) [v] stack
        hbelow ts
      have hsplit : itemTokens true (v :: vs) ++ .closeBracket :: ts =
          v.tokens ++ (itemTokens false vs ++ .closeBracket :: ts) := by simp [itemTokens]
      rw [hsplit]
      exact ((resume_firstItem v stack _).trans hfirst).trans hrest
  | n + 1, .object ms, .object hms =>
    have henter : Progress.step strict outer stack .value .openBrace =
        .ok (.going (.members [] :: stack) .firstKey) := by
      simp [Progress.step, Progress.enter, not_tooDeep hdepth]
    have hbelow : outer + (stack.length + 1) + n ≤ maxDepth := by omega
    have htokens : (Value.object ms).tokens ++ ts =
        .openBrace :: (memberTokens true ms ++ .closeBrace :: ts) := by simp [Value.tokens]
    rw [htokens, resume_cons henter]
    match ms with
    | [] => exact resume_cons rfl
    | (k, v) :: ms =>
      have hfirst := resume_tokens v (hms (k, v) List.mem_cons_self) (.member [] k :: stack) hbelow
        (memberTokens false ms ++ .closeBrace :: ts)
      have hrest := resume_members ms (fun x hx => hms x (List.mem_cons_of_mem _ hx)) [(k, v)]
        stack hbelow ts
      have hsplit : memberTokens true ((k, v) :: ms) ++ .closeBrace :: ts =
          .string k :: .colon :: (v.tokens ++ (memberTokens false ms ++ .closeBrace :: ts)) := by
        simp [memberTokens]
      have hname : resume strict outer (.members [] :: stack) .firstKey (.string k :: .colon ::
          (v.tokens ++ (memberTokens false ms ++ .closeBrace :: ts))) =
          resume strict outer (.member [] k :: stack) .value
            (v.tokens ++ (memberTokens false ms ++ .closeBrace :: ts)) := rfl
      rw [hsplit]
      exact (hname.trans hfirst).trans hrest

/-- The rest of an array, behind some of its items. -/
theorem resume_items {n : Nat} (vs : List Value) (hvs : ∀ v ∈ vs, v.Fits n) (done : List Value)
    (stack : List Frame) (hdepth : outer + (stack.length + 1) + n ≤ maxDepth) (ts : List Token) :
    resume strict outer (.items done :: stack) .next
        (itemTokens false vs ++ .closeBracket :: ts) =
      (deliver (.array (done.reverse ++ vs)) stack).goOn strict outer ts := by
  match vs with
  | [] =>
    rw [List.append_nil]
    exact resume_cons rfl
  | v :: vs =>
    have hfirst := resume_tokens v (hvs v List.mem_cons_self) (.items done :: stack) hdepth
      (itemTokens false vs ++ .closeBracket :: ts)
    have hrest := resume_items vs (fun x hx => hvs x (List.mem_cons_of_mem v hx)) (v :: done) stack
      hdepth ts
    have hsplit : itemTokens false (v :: vs) ++ .closeBracket :: ts =
        .comma :: (v.tokens ++ (itemTokens false vs ++ .closeBracket :: ts)) := by
      simp [itemTokens]
    have hcomma : resume strict outer (.items done :: stack) .next
        (.comma :: (v.tokens ++ (itemTokens false vs ++ .closeBracket :: ts))) =
        resume strict outer (.items done :: stack) .value
          (v.tokens ++ (itemTokens false vs ++ .closeBracket :: ts)) := rfl
    rw [List.reverse_cons, List.append_assoc] at hrest
    rw [hsplit]
    exact (hcomma.trans hfirst).trans hrest

/-- The rest of an object, behind some of its members. -/
theorem resume_members {n : Nat} (ms : List (String × Value)) (hms : ∀ m ∈ ms, m.2.Fits n)
    (done : List (String × Value)) (stack : List Frame)
    (hdepth : outer + (stack.length + 1) + n ≤ maxDepth) (ts : List Token) :
    resume strict outer (.members done :: stack) .next
        (memberTokens false ms ++ .closeBrace :: ts) =
      (deliver (.object (done.reverse ++ ms)) stack).goOn strict outer ts := by
  match ms with
  | [] =>
    rw [List.append_nil]
    exact resume_cons rfl
  | (k, v) :: ms =>
    have hfirst := resume_tokens v (hms (k, v) List.mem_cons_self) (.member done k :: stack) hdepth
      (memberTokens false ms ++ .closeBrace :: ts)
    have hrest := resume_members ms (fun x hx => hms x (List.mem_cons_of_mem _ hx))
      ((k, v) :: done) stack hdepth ts
    have hsplit : memberTokens false ((k, v) :: ms) ++ .closeBrace :: ts =
        .comma :: .string k :: .colon ::
          (v.tokens ++ (memberTokens false ms ++ .closeBrace :: ts)) := by
      simp [memberTokens]
    have hname : resume strict outer (.members done :: stack) .next
        (.comma :: .string k :: .colon ::
          (v.tokens ++ (memberTokens false ms ++ .closeBrace :: ts))) =
        resume strict outer (.member done k :: stack) .value
          (v.tokens ++ (memberTokens false ms ++ .closeBrace :: ts)) := rfl
    rw [List.reverse_cons, List.append_assoc] at hrest
    rw [hsplit]
    exact (hname.trans hfirst).trans hrest

end

/-- **The reader of values takes the tokens of one.** -/
theorem value_tokens {v : Value} (hv : v.Fits n) (hdepth : outer + n ≤ maxDepth)
    (ts : List Token) : value outer (v.tokens ++ ts) = .ok (v, ts) :=
  resume_tokens v hv [] hdepth ts

/-! ## Members -/

/-- A comma stands before each member but the first. -/
def separator (first : Bool) : List Token := if first then [] else [.comma]

variable {σ : Type u} {first : Bool} {bound : Nat}

/-- **A member that a record knows is read** into what has been gathered so far. -/
theorem named_member {fields : List (Field σ)} {f : Field σ} {k : String} {s s' : σ}
    {rest : List Token} (hknown : fields.find? (·.name = k) = some f) (hgiven : f.given s = false)
    (hread : f.read outer s ts = .ok (s', rest)) :
    named outer fields (bound + 1) first s (separator first ++ .string k :: .colon :: ts) =
      named outer fields bound false s' rest := by
  cases first <;> simp [separator, named, hknown, hgiven, hread]

theorem named_end (fields : List (Field σ)) (s : σ) (ts : List Token) :
    named outer fields (bound + 1) first s (.closeBrace :: ts) = .ok (s, ts) := by
  cases first <;> simp [named]

end QueryBridge.Json
