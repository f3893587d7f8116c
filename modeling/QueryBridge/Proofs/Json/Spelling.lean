import QueryBridge.Proofs.Json.Tokens

/-!
# The texts of tokens

A value has many texts: space may stand around each token, a character of a
string may be escaped, and a number may have a fraction and an exponent. The
grammar of these texts stands here on its own, and the lexer reads each of them
as the tokens that it is a text of.

* `Spells`: the texts of tokens.
* `Lex.run_string`: what a string literal is read as, whatever is escaped in it.
* `Lex.run_literal`: what a number is read as, however it is written.
* `tokens_of_spells`: the tokens of a text.
-/

namespace QueryBridge.Json

/-! ## String literals -/

/-- Whether a 16-bit unit is the first half of a character. -/
def isLeading (u : Nat) : Bool := 0xD800 ≤ u && u ≤ 0xDBFF

/-- Whether a 16-bit unit is the second half of a character. -/
def isTrailing (u : Nat) : Bool := 0xDC00 ≤ u && u ≤ 0xDFFF

/-- What stands for itself inside a string literal: a character, or a 16-bit
unit by its number. -/
inductive Piece
  | char (c : Char)
  | unit (u : Nat)

namespace Piece

/-- The characters that pieces stand for. Two halves in a row are one character;
a half alone is none, and the pieces stand for nothing then. -/
def chars? : List Piece → Option (List Char)
  | [] => some []
  | .char c :: ps => (chars? ps).map (c :: ·)
  | .unit u :: ps =>
    if isTrailing u then none
    else if isLeading u then
      match ps with
      | .unit v :: ps =>
        if isTrailing v then
          (chars? ps).map (Char.ofNat (0x10000 + (u - 0xD800) * 0x400 + (v - 0xDC00)) :: ·)
        else none
      | _ => none
    else (chars? ps).map (Char.ofNat u :: ·)

/-- The ways to write a piece. -/
inductive Spelled : Piece → List Char → Prop
  | plain {c : Char} : 32 ≤ c.toNat → c ≠ '"' → c ≠ '\\' → Spelled (.char c) [c]
  | escaped {e c : Char} : unescape? e = some c → Spelled (.char c) ['\\', e]
  | unit {a b c d : Char} {w x y z : Nat} : hexValue? a = some w → hexValue? b = some x →
    hexValue? c = some y → hexValue? d = some z →
    Spelled (.unit (((w * 16 + x) * 16 + y) * 16 + z)) ['\\', 'u', a, b, c, d]

/-- The ways to write pieces one after another. -/
inductive AllSpelled : List Piece → List Char → Prop
  | nil : AllSpelled [] []
  | cons {p : Piece} {ps : List Piece} {cs rest : List Char} : p.Spelled cs → AllSpelled ps rest →
    AllSpelled (p :: ps) (cs ++ rest)

/-- The token of a string literal, behind the characters read so far. -/
def token (acc : List Char) (ps : List Piece) : Token :=
  match chars? ps with
  | some s => .string (String.ofList (acc.reverse ++ s))
  | none => .unusable true

variable {acc : List Char} {ps ps' : List Piece} {u v : Nat}

theorem token_of_none (h : chars? ps = none) : token acc ps = .unusable true := by
  rw [token, h]

/-- A character may be taken from the front of the pieces. -/
theorem token_of_map {c : Char} (h : chars? ps = (chars? ps').map (c :: ·)) :
    token acc ps = token (c :: acc) ps' := by
  cases hps : chars? ps' <;> simp [token, h, hps]

/-- A second half comes first. -/
theorem chars?_trailing (hu : isTrailing u = true) : chars? (.unit u :: ps) = none := by
  rw [chars?.eq_def]
  simp [hu]

/-- A unit that is no half of a character is a character. -/
theorem chars?_whole (htrail : isTrailing u = false) (hlead : isLeading u = false) :
    chars? (.unit u :: ps) = (chars? ps).map (Char.ofNat u :: ·) := by
  rw [chars?.eq_def]
  simp [htrail, hlead]

/-- Two halves are a character. -/
theorem chars?_pair (htrail : isTrailing u = false) (hlead : isLeading u = true)
    (hv : isTrailing v = true) : chars? (.unit u :: .unit v :: ps) =
      (chars? ps).map (Char.ofNat (0x10000 + (u - 0xD800) * 0x400 + (v - 0xDC00)) :: ·) := by
  rw [chars?.eq_def]
  simp [htrail, hlead, hv]

/-- A first half stands alone. -/
theorem chars?_alone (htrail : isTrailing u = false) (hlead : isLeading u = true)
    (hps : ∀ v ps', ps = .unit v :: ps' → isTrailing v = false) :
    chars? (.unit u :: ps) = none := by
  rw [chars?.eq_def]
  rcases ps with _ | ⟨_ | v, ps⟩
  · simp [htrail, hlead]
  · simp [htrail, hlead]
  · simp [htrail, hlead, hps v ps rfl]

end Piece

namespace Lex

variable {ill : Bool} {acc cs rest : List Char} {high : Option Nat} {u h : Nat} {c : Char}
  {ps : List Piece}

theorem run_cons (s : Lex) (c : Char) (cs : List Char) :
    run s (c :: cs) = (s.step c).2 ++ run (s.step c).1 cs := rfl

/-- A hexadecimal digit takes one byte. -/
theorem utf8Size_of_hexValue? {x : Nat} (hx : hexValue? c = some x) : c.utf8Size = 1 := by
  have hsmall : c.toNat ≤ 127 := by
    have h9 : ('9' : Char).toNat = 57 := rfl
    have hf : ('f' : Char).toNat = 102 := rfl
    have hF : ('F' : Char).toNat = 70 := rfl
    unfold hexValue? at hx
    simp only [Char.le_def, UInt32.le_iff_toNat_le, Char.toNat_val] at hx
    split at hx
    · omega
    split at hx
    · omega
    split at hx
    · omega
    · cases hx
  have hval : c.val ≤ 0x7f := UInt32.le_iff_toNat_le.mpr hsmall
  simp [Char.utf8Size, hval]

/-- Four hexadecimal digits are read as their value. -/
theorem run_hex {a b c d : Char} {w x y z : Nat} (ha : hexValue? a = some w)
    (hb : hexValue? b = some x) (hc : hexValue? c = some y) (hd : hexValue? d = some z)
    (cs : List Char) :
    run (.unit ill acc high 0 (some 0)) (a :: b :: c :: d :: cs) =
      run (afterUnit ill acc high (((w * 16 + x) * 16 + y) * 16 + z)) cs := by
  simp [run_cons, step, ha, hb, hc, hd, utf8Size_of_hexValue? ha, utf8Size_of_hexValue? hb,
    utf8Size_of_hexValue? hc, utf8Size_of_hexValue? hd]

/-- What a letter behind a backslash stands for is not the number of a unit. -/
theorem ne_u_of_unescape? {e : Char} (he : unescape? e = some c) : e ≠ 'u' := by
  rintro rfl
  cases he

/-- A character is kept. -/
theorem run_char (hc : Piece.Spelled (.char c) cs) (rest : List Char) :
    run (.text ill acc) (cs ++ rest) = run (.text ill (c :: acc)) rest := by
  cases hc with
  | plain hlow hquote hback =>
    have hlow' : ¬ c.toNat < 32 := by omega
    simp [run_cons, step, inText, hquote, hback, hlow']
  | escaped he => simp [run_cons, step, inText, inEscape, he, ne_u_of_unescape? he]

/-- A unit is kept if it is a character, and awaits its other half if it is the first one. -/
theorem run_unitPiece (hu : Piece.Spelled (.unit u) cs) (rest : List Char) :
    run (.text ill acc) (cs ++ rest) = run (afterUnit ill acc none u) rest := by
  cases hu with
  | unit ha hb hc hd =>
    have hstart : ∀ cs, run (.text ill acc) ('\\' :: 'u' :: cs) =
        run (.unit ill acc none 0 (some 0)) cs := fun _ => rfl
    exact (hstart _).trans (run_hex ha hb hc hd rest)

/-- A character behind the first half of another one leaves that one half. -/
theorem run_surrogate_char (hc : Piece.Spelled (.char c) cs) (rest : List Char) :
    run (.surrogate acc h) (cs ++ rest) = run (.text true (c :: acc)) rest := by
  cases hc with
  | plain hlow hquote hback =>
    have hlow' : ¬ c.toNat < 32 := by omega
    simp [run_cons, step, inText, hquote, hback, hlow']
  | escaped he => simp [run_cons, step, inEscape, he, ne_u_of_unescape? he]

/-- A unit behind the first half of a character may be its second half. -/
theorem run_surrogate_unit (hu : Piece.Spelled (.unit u) cs) (rest : List Char) :
    run (.surrogate acc h) (cs ++ rest) = run (afterUnit false acc (some h) u) rest := by
  cases hu with
  | unit ha hb hc hd =>
    have hstart : ∀ cs, run (.surrogate acc h) ('\\' :: 'u' :: cs) =
        run (.unit false acc (some h) 0 (some 0)) cs := fun _ => rfl
    exact (hstart _).trans (run_hex ha hb hc hd rest)

/-- A second half alone spoils the text. -/
theorem afterUnit_trailing (htrail : isTrailing u = true) :
    afterUnit false acc none u = .text true acc := by
  unfold isTrailing at htrail
  simp only [afterUnit, htrail, Bool.or_true, if_true]

theorem afterUnit_leading (htrail : isTrailing u = false) (hlead : isLeading u = true) :
    afterUnit false acc none u = .surrogate acc u := by
  unfold isTrailing at htrail
  unfold isLeading at hlead
  simp only [afterUnit, htrail, hlead, Bool.or_false, Bool.false_eq_true, if_false, if_true]

theorem afterUnit_whole (htrail : isTrailing u = false) (hlead : isLeading u = false) :
    afterUnit false acc none u = .text false (Char.ofNat u :: acc) := by
  unfold isTrailing at htrail
  unfold isLeading at hlead
  simp only [afterUnit, htrail, hlead, Bool.or_false, Bool.false_eq_true, if_false]

/-- Behind a half alone nothing makes up a text again. -/
theorem run_ill (hps : Piece.AllSpelled ps cs) (acc rest : List Char) :
    run (.text true acc) (cs ++ '"' :: rest) = .unusable true :: run .between rest := by
  induction hps generalizing acc with
  | nil => simp [run_cons, step, inText]
  | @cons p ps cs rest' hp _ ih =>
    rw [List.append_assoc]
    cases p with
    | char c => rw [run_char hp, ih]
    | unit u =>
      have hafter : afterUnit true acc none u = .text true acc := by simp [afterUnit]
      rw [run_unitPiece hp, hafter, ih]

/-- What is read behind the first half of a character. -/
theorem run_surrogate (hps : Piece.AllSpelled ps cs) (acc rest : List Char) :
    (∃ v ps' cs', ps = .unit v :: ps' ∧ Piece.AllSpelled ps' cs' ∧ isTrailing v = true ∧
      run (.surrogate acc h) (cs ++ '"' :: rest) =
        run (.text false (Char.ofNat (0x10000 + (h - 0xD800) * 0x400 + (v - 0xDC00)) :: acc))
          (cs' ++ '"' :: rest)) ∨
    (∀ v ps', ps = .unit v :: ps' → isTrailing v = false) ∧
      run (.surrogate acc h) (cs ++ '"' :: rest) = .unusable true :: run .between rest := by
  cases hps with
  | nil =>
    refine .inr ⟨nofun, ?_⟩
    simp [run_cons, step, inText]
  | @cons p ps cs rest' hp hps =>
    rw [List.append_assoc]
    cases p with
    | char c =>
      refine .inr ⟨nofun, ?_⟩
      rw [run_surrogate_char hp, run_ill hps]
    | unit v =>
      rw [run_surrogate_unit hp]
      cases hv : isTrailing v with
      | true =>
        refine .inl ⟨v, ps, rest', rfl, hps, hv, ?_⟩
        unfold isTrailing at hv
        simp only [afterUnit, hv, if_true]
      | false =>
        refine .inr ⟨?_, ?_⟩
        · rintro v' ps' ⟨⟩
          exact hv
        · unfold isTrailing at hv
          simp only [afterUnit, hv, Bool.false_eq_true, if_false]
          exact run_ill hps acc rest

/-- **A string literal is read as the characters that its pieces stand for.** -/
theorem run_pieces (ps : List Piece) {cs : List Char} (hps : Piece.AllSpelled ps cs)
    (acc rest : List Char) :
    run (.text false acc) (cs ++ '"' :: rest) = Piece.token acc ps :: run .between rest := by
  -- two halves are read at once, so the induction is on the number of pieces
  induction hn : ps.length using Nat.strongRecOn generalizing ps cs acc with
  | _ n ih =>
    cases hps with
    | nil => simp [run_cons, step, inText, Piece.token, Piece.chars?]
    | @cons p ps cs rest' hp hps =>
      have hshorter : ps.length < n := by
        rw [← hn, List.length_cons]
        omega
      rw [List.append_assoc]
      cases p with
      | char c =>
        rw [run_char hp, ih _ hshorter ps hps _ rfl]
        exact congrArg (· :: _) (Piece.token_of_map rfl).symm
      | unit u =>
        rw [run_unitPiece hp]
        cases htrail : isTrailing u with
        | true =>
          rw [afterUnit_trailing htrail, run_ill hps,
            Piece.token_of_none (Piece.chars?_trailing htrail)]
        | false =>
          cases hlead : isLeading u with
          | false =>
            rw [afterUnit_whole htrail hlead, ih _ hshorter ps hps _ rfl,
              Piece.token_of_map (Piece.chars?_whole htrail hlead)]
          | true =>
            rw [afterUnit_leading htrail hlead]
            rcases run_surrogate (h := u) hps acc rest with
              ⟨v, ps', cs', rfl, hps', hv, hrun⟩ | ⟨halone, hrun⟩
            · have hshorter' : ps'.length < n := by
                rw [List.length_cons] at hshorter
                omega
              rw [hrun, ih _ hshorter' ps' hps' _ rfl,
                Piece.token_of_map (Piece.chars?_pair htrail hlead hv)]
            · rw [hrun, Piece.token_of_none (Piece.chars?_alone htrail hlead halone)]

/-- What stands between quotes is read as one token. -/
theorem run_string (hps : Piece.AllSpelled ps cs) (rest : List Char) :
    run .between ('"' :: (cs ++ '"' :: rest)) = Piece.token [] ps :: run .between rest := by
  have hopen : run .between ('"' :: (cs ++ '"' :: rest)) =
      run (.text false []) (cs ++ '"' :: rest) := by simp [run_cons, step, start, isSpace]
  rw [hopen, run_pieces ps hps]

end Lex

/-! ## Numbers -/

/-- Digits, as many as there are. -/
def AllDigits (ds : List Char) : Prop := ∀ d ∈ ds, isDigit d = true

/-- The digits of a whole number: no zero stands in front of others. -/
inductive WholeSpelled : List Char → Prop
  | zero : WholeSpelled ['0']
  | digits {d : Char} {ds : List Char} : isDigit d = true → d ≠ '0' → AllDigits ds →
    WholeSpelled (d :: ds)

/-- The digits of a fraction, and how it is written. -/
inductive FractionSpelled : List Char → List Char → Prop
  | none : FractionSpelled [] []
  | digits {d : Char} {ds : List Char} : AllDigits (d :: ds) →
    FractionSpelled (d :: ds) ('.' :: d :: ds)

/-- Whether an exponent is negative, its digits, and how it is written. -/
inductive ExponentSpelled : Bool → List Char → List Char → Prop
  | none : ExponentSpelled false [] []
  | plain {e d : Char} {ds : List Char} : e = 'e' ∨ e = 'E' → AllDigits (d :: ds) →
    ExponentSpelled false (d :: ds) (e :: d :: ds)
  | plus {e d : Char} {ds : List Char} : e = 'e' ∨ e = 'E' → AllDigits (d :: ds) →
    ExponentSpelled false (d :: ds) (e :: '+' :: d :: ds)
  | minus {e d : Char} {ds : List Char} : e = 'e' ∨ e = 'E' → AllDigits (d :: ds) →
    ExponentSpelled true (d :: ds) (e :: '-' :: d :: ds)

/-- How a number is written. -/
inductive Literal.Spelled : Literal → List Char → Prop
  | mk (negative : Bool) {whole fraction fs : List Char} {exponentNegative : Bool}
    {exponent es : List Char} : WholeSpelled whole → FractionSpelled fraction fs →
    ExponentSpelled exponentNegative exponent es →
    Spelled ⟨negative, whole.reverse, fraction.reverse, exponentNegative, exponent.reverse⟩
      ((if negative then ['-'] else []) ++ (whole ++ (fs ++ es)))

namespace Lex

variable {negative : Bool} {whole fraction : List Char} {phase : NumberPhase}

/-- The text does not go on as a number does. -/
def Delimits (cs : List Char) : Prop :=
  ∀ c, cs.head? = some c → isDigit c = false ∧ c ≠ '.' ∧ c ≠ 'e' ∧ c ≠ 'E'

theorem delimits_nil : Delimits [] := by
  intro c hc
  cases hc

theorem delimits_cons {c : Char} (hc : isDigit c = false ∧ c ≠ '.' ∧ c ≠ 'e' ∧ c ≠ 'E')
    (cs : List Char) : Delimits (c :: cs) := by
  intro x hx
  obtain rfl := Option.some.inj hx
  exact hc

/-- Where a number may end, it ends. -/
theorem run_complete {phase : NumberPhase} (l : Literal) {cs : List Char} (hcs : Delimits cs)
    (hp : phase = .zero ∨ phase = .whole ∨ phase = .fraction) :
    run (.number phase l) cs = l.token :: run .between cs := by
  cases cs with
  | nil => rcases hp with rfl | rfl | rfl <;> rfl
  | cons c cs =>
    obtain ⟨hdigit, hpoint, hsmall, hlarge⟩ := hcs c rfl
    rcases hp with rfl | rfl | rfl <;>
      simp [run_cons, step, inNumber, hdigit, hpoint, hsmall, hlarge]

theorem run_digits (negative : Bool) {ds : List Char} (hds : ∀ d ∈ ds, isDigit d = true)
    (acc cs : List Char) :
    run (.number .whole ⟨negative, acc, [], false, []⟩) (ds ++ cs) =
      run (.number .whole ⟨negative, ds.reverse ++ acc, [], false, []⟩) cs := by
  induction ds generalizing acc with
  | nil => rfl
  | cons d ds ih =>
    have hd := hds d List.mem_cons_self
    have hstep : run (.number .whole ⟨negative, acc, [], false, []⟩) (d :: (ds ++ cs)) =
        run (.number .whole ⟨negative, d :: acc, [], false, []⟩) (ds ++ cs) := by
      simp [run_cons, step, inNumber, hd]
    rw [List.cons_append, hstep, ih fun x hx => hds x (List.mem_cons_of_mem d hx)]
    simp

theorem run_fractionDigits {ds : List Char} (hds : AllDigits ds) (acc cs : List Char) :
    run (.number .fraction ⟨negative, whole, acc, false, []⟩) (ds ++ cs) =
      run (.number .fraction ⟨negative, whole, ds.reverse ++ acc, false, []⟩) cs := by
  induction ds generalizing acc with
  | nil => rfl
  | cons d ds ih =>
    have hd := hds d List.mem_cons_self
    have hstep : run (.number .fraction ⟨negative, whole, acc, false, []⟩) (d :: (ds ++ cs)) =
        run (.number .fraction ⟨negative, whole, d :: acc, false, []⟩) (ds ++ cs) := by
      simp [run_cons, step, inNumber, hd]
    rw [List.cons_append, hstep, ih fun x hx => hds x (List.mem_cons_of_mem d hx)]
    simp

theorem run_exponentDigits {ds : List Char} {exponentNegative : Bool} (hds : AllDigits ds)
    (acc cs : List Char) :
    run (.number .exponent ⟨negative, whole, fraction, exponentNegative, acc⟩) (ds ++ cs) =
      run (.number .exponent ⟨negative, whole, fraction, exponentNegative, ds.reverse ++ acc⟩)
        cs := by
  induction ds generalizing acc with
  | nil => rfl
  | cons d ds ih =>
    have hd := hds d List.mem_cons_self
    have hstep :
        run (.number .exponent ⟨negative, whole, fraction, exponentNegative, acc⟩)
            (d :: (ds ++ cs)) =
          run (.number .exponent ⟨negative, whole, fraction, exponentNegative, d :: acc⟩)
            (ds ++ cs) := by
      simp [run_cons, step, inNumber, hd]
    rw [List.cons_append, hstep, ih fun x hx => hds x (List.mem_cons_of_mem d hx)]
    simp

/-- The digits of an exponent end the number. -/
theorem run_exponentEnd {d : Char} {ds : List Char} {exponentNegative : Bool}
    (hds : AllDigits (d :: ds)) {cs : List Char} (hcs : Delimits cs) :
    run (.number .exponent ⟨negative, whole, fraction, exponentNegative, [d]⟩) (ds ++ cs) =
      Literal.token ⟨negative, whole, fraction, exponentNegative, (d :: ds).reverse⟩ ::
        run .between cs := by
  have hrest : AllDigits ds := fun x hx => hds x (List.mem_cons_of_mem d hx)
  rw [run_exponentDigits hrest, List.reverse_cons]
  cases cs with
  | nil => rfl
  | cons c cs =>
    obtain ⟨hdigit, -⟩ := hcs c rfl
    simp [run_cons, step, inNumber, hdigit]

/-- **A number ends with its exponent**, or without one. -/
theorem run_exponent (hphase : phase = .zero ∨ phase = .whole ∨ phase = .fraction)
    {exponentNegative : Bool} {exponent es : List Char}
    (hes : ExponentSpelled exponentNegative exponent es) {cs : List Char} (hcs : Delimits cs) :
    run (.number phase ⟨negative, whole, fraction, false, []⟩) (es ++ cs) =
      Literal.token ⟨negative, whole, fraction, exponentNegative, exponent.reverse⟩ ::
        run .between cs := by
  have hmark : ∀ {e : Char} (_ : e = 'e' ∨ e = 'E') (xs : List Char),
      run (.number phase ⟨negative, whole, fraction, false, []⟩) (e :: xs) =
        run (.number .mark ⟨negative, whole, fraction, false, []⟩) xs := by
    intro e he xs
    rcases he with rfl | rfl <;> rcases hphase with rfl | rfl | rfl <;>
      simp [run_cons, step, inNumber, isDigit]
  cases hes with
  | none => exact run_complete _ hcs hphase
  | @plain e d ds he hds =>
    have hd := hds d List.mem_cons_self
    have hplus : d ≠ '+' := by rintro rfl; exact absurd hd (by decide)
    have hminus : d ≠ '-' := by rintro rfl; exact absurd hd (by decide)
    have hfirst : run (.number .mark ⟨negative, whole, fraction, false, []⟩) (d :: (ds ++ cs)) =
        run (.number .exponent ⟨negative, whole, fraction, false, [d]⟩) (ds ++ cs) := by
      simp [run_cons, step, inNumber, hd, hplus, hminus]
    rw [List.cons_append, hmark he, List.cons_append, hfirst, run_exponentEnd hds hcs]
  | @plus e d ds he hds =>
    have hd := hds d List.mem_cons_self
    have hfirst : run (.number .mark ⟨negative, whole, fraction, false, []⟩)
        ('+' :: d :: (ds ++ cs)) =
        run (.number .exponent ⟨negative, whole, fraction, false, [d]⟩) (ds ++ cs) := by
      simp [run_cons, step, inNumber, hd]
    rw [List.cons_append, hmark he, List.cons_append, List.cons_append, hfirst,
      run_exponentEnd hds hcs]
  | @minus e d ds he hds =>
    have hd := hds d List.mem_cons_self
    have hfirst : run (.number .mark ⟨negative, whole, fraction, false, []⟩)
        ('-' :: d :: (ds ++ cs)) =
        run (.number .exponent ⟨negative, whole, fraction, true, [d]⟩) (ds ++ cs) := by
      simp [run_cons, step, inNumber, hd]
    rw [List.cons_append, hmark he, List.cons_append, List.cons_append, hfirst,
      run_exponentEnd hds hcs]

/-- Behind the whole part comes a fraction, or none, and then the exponent. -/
theorem run_fraction (hphase : phase = .zero ∨ phase = .whole) {fs : List Char}
    (hfs : FractionSpelled fraction fs) {exponentNegative : Bool} {exponent es : List Char}
    (hes : ExponentSpelled exponentNegative exponent es) {cs : List Char} (hcs : Delimits cs) :
    run (.number phase ⟨negative, whole, [], false, []⟩) (fs ++ (es ++ cs)) =
      Literal.token ⟨negative, whole, fraction.reverse, exponentNegative, exponent.reverse⟩ ::
        run .between cs := by
  cases hfs with
  | none =>
    have hphase' : phase = .zero ∨ phase = .whole ∨ phase = .fraction := by
      rcases hphase with h | h
      · exact .inl h
      · exact .inr (.inl h)
    exact run_exponent hphase' hes hcs
  | @digits d ds hds =>
    have hd := hds d List.mem_cons_self
    have hrest : AllDigits ds := fun x hx => hds x (List.mem_cons_of_mem d hx)
    have hdot : isDigit '.' = false := by decide
    have hpoint : run (.number phase ⟨negative, whole, [], false, []⟩)
        ('.' :: d :: (ds ++ (es ++ cs))) =
        run (.number .fraction ⟨negative, whole, [d], false, []⟩) (ds ++ (es ++ cs)) := by
      rcases hphase with rfl | rfl <;> simp [run_cons, step, inNumber, hdot, hd]
    rw [List.cons_append, List.cons_append, hpoint, run_fractionDigits hrest,
      run_exponent (.inr (.inr rfl)) hes hcs, List.reverse_cons]

/-- Any digit but zero begins a number that more digits may follow. -/
theorem step_digit (negative : Bool) {d : Char} (hd : isDigit d = true) (hzero : d ≠ '0') :
    (if negative then number .sign ⟨true, [], [], false, []⟩ else between).step d =
      (.number .whole ⟨negative, [d], [], false, []⟩, []) := by
  have hne : ∀ x, isDigit x = false → d ≠ x := by
    rintro x hx rfl
    rw [hd] at hx
    cases hx
  cases negative with
  | true => simp [step, inNumber, hd, hzero]
  | false =>
    have hspace : isSpace d = false := by
      simp [isSpace, hne ' ' (by decide), hne '\t' (by decide), hne '\n' (by decide),
        hne '\r' (by decide)]
    simp [step, start, hspace, hd, hzero, hne '{' (by decide), hne '}' (by decide),
      hne '[' (by decide), hne ']' (by decide), hne ':' (by decide), hne ',' (by decide),
      hne '"' (by decide), hne 'n' (by decide), hne 't' (by decide), hne 'f' (by decide),
      hne '-' (by decide)]

/-- **A number is read as what is written**, unless the text goes on as it does. -/
theorem run_literal {l : Literal} {cs : List Char} (hl : l.Spelled cs) {rest : List Char}
    (hrest : Delimits rest) :
    run .between (cs ++ rest) = l.token :: run .between rest := by
  cases hl with
  | @mk negative whole fraction fs exponentNegative exponent es hwhole hfs hes =>
    have hsign : ∀ cs, run .between ((if negative then ['-'] else []) ++ cs) =
        run (if negative then .number .sign ⟨true, [], [], false, []⟩ else .between) cs := by
      intro cs
      cases negative <;> rfl
    rw [List.append_assoc, hsign, List.append_assoc, List.append_assoc]
    cases hwhole with
    | zero =>
      have hzero : ∀ cs, run (if negative then .number .sign ⟨true, [], [], false, []⟩
          else .between) ('0' :: cs) =
          run (.number .zero ⟨negative, ['0'], [], false, []⟩) cs := by
        intro cs
        cases negative <;> simp [run_cons, step, start, inNumber, isSpace]
      exact (hzero _).trans (run_fraction (.inl rfl) hfs hes hrest)
    | @digits d ds hd hzero hds =>
      have hfirst : run (if negative then .number .sign ⟨true, [], [], false, []⟩
          else .between) (d :: (ds ++ (fs ++ (es ++ rest)))) =
          run (.number .whole ⟨negative, [d], [], false, []⟩) (ds ++ (fs ++ (es ++ rest))) := by
        rw [run_cons, step_digit negative hd hzero, List.nil_append]
      rw [List.cons_append, hfirst, run_digits negative hds,
        run_fraction (.inr rfl) hfs hes hrest, List.reverse_cons]

end Lex

/-! ## Tokens -/

/-- Space, as much as there is. -/
def Blank (cs : List Char) : Prop := ∀ c ∈ cs, isSpace c = true

/-- The ways to write a token. A number beyond the doubles and a string with half
a character in it are tokens that no value is made of. -/
inductive Token.Spelled : Token → List Char → Prop
  | openBrace : Spelled .openBrace ['{']
  | closeBrace : Spelled .closeBrace ['}']
  | openBracket : Spelled .openBracket ['[']
  | closeBracket : Spelled .closeBracket [']']
  | colon : Spelled .colon [':']
  | comma : Spelled .comma [',']
  | null : Spelled .null ['n', 'u', 'l', 'l']
  | true : Spelled (.bool true) ['t', 'r', 'u', 'e']
  | false : Spelled (.bool false) ['f', 'a', 'l', 's', 'e']
  | number {l : Literal} {cs : List Char} : l.Spelled cs → Spelled l.token cs
  | string {ps : List Piece} {cs : List Char} : Piece.AllSpelled ps cs →
    Spelled (Piece.token [] ps) ('"' :: (cs ++ ['"']))

/-- **The texts of tokens.** Space may stand around each of them. A number ends
where the text does not go on as a number. -/
inductive Spells : List Token → List Char → Prop
  | nil {space : List Char} : Blank space → Spells [] space
  | cons {t : Token} {ts : List Token} {space cs rest : List Char} : Blank space → t.Spelled cs →
    ((∃ l : Literal, t = l.token) → Lex.Delimits rest) → Spells ts rest →
    Spells (t :: ts) (space ++ (cs ++ rest))

namespace Lex

/-- Space between tokens is skipped. -/
theorem run_blank {space : List Char} (h : Blank space) (cs : List Char) :
    run .between (space ++ cs) = run .between cs := by
  induction space with
  | nil => rfl
  | cons c space ih =>
    have hc : isSpace c = true := h c List.mem_cons_self
    have hstep : run .between (c :: (space ++ cs)) = run .between (space ++ cs) := by
      simp [run_cons, step, start, hc]
    rw [List.cons_append, hstep, ih fun x hx => h x (List.mem_cons_of_mem c hx)]

/-- **A token is read from its text.** -/
theorem run_spelled {t : Token} {cs : List Char} (h : t.Spelled cs) {rest : List Char}
    (hrest : (∃ l : Literal, t = l.token) → Delimits rest) :
    run .between (cs ++ rest) = t :: run .between rest := by
  cases h with
  | number hl => exact run_literal hl (hrest ⟨_, rfl⟩)
  | string hps =>
    rw [List.cons_append, List.append_assoc]
    exact run_string hps rest
  | _ => rfl

theorem run_spells {ts : List Token} {cs : List Char} (h : Spells ts cs) :
    run .between cs = ts := by
  induction h with
  | @nil space hspace =>
    have hrun := run_blank hspace []
    rw [List.append_nil] at hrun
    exact hrun
  | cons hspace ht hrest _ ih => rw [run_blank hspace, run_spelled ht hrest, ih]

end Lex

/-- **A text is read as the tokens that it is a text of.** -/
theorem tokens_of_spells {ts : List Token} {text : String} (h : Spells ts text.toList) :
    tokens text = ts := Lex.run_spells h

/-- What reads the tokens of a text as a whole reads the text. -/
theorem decode_spelled {α : Type} {read : List Token → Read α} {a : α} {ts : List Token}
    {text : String} (h : Spells ts text.toList) (hread : read ts = .ok (a, [])) :
    decode read text = .ok a := by
  rw [decode, tokens_of_spells h, hread]

/-- A text that is read is read off its tokens, as a whole. -/
theorem read_of_decode {α : Type} {read : List Token → Read α} {a : α} {ts : List Token}
    {text : String} (h : Spells ts text.toList) (hdecode : decode read text = .ok a) :
    read ts = .ok (a, []) := by
  rw [decode, tokens_of_spells h] at hdecode
  split at hdecode
  · rename_i a' hread
    cases hdecode
    exact hread
  · cases hdecode
  · cases hdecode

theorem decode_refused {α : Type} {read : List Token → Read α} {ts : List Token} {text : String}
    (h : Spells ts text.toList) (hread : ∃ p, read ts = .error p) :
    ∃ p, decode read text = .error p := by
  obtain ⟨p, hp⟩ := hread
  exact ⟨p, by rw [decode, tokens_of_spells h, hp]⟩

end QueryBridge.Json
