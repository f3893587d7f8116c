import QueryBridge.Proofs.Json.Spelling

/-!
# The texts that are written

The text of a value, on one line or over several, is a text of its tokens, so it
is read back as just these.

* `quoted_spelled`, `chars_spelled`: string literals and numbers.
* `spells_compact`, `spells_indented`: values of any shape.
* `decode_compact`, `decode_indented`: whole texts are read back.
-/

namespace QueryBridge.Json

open Value (newline compactItems compactMembers indentedItems indentedMembers itemTokens
  memberTokens)
open QueryBridge.Json.Lex (Delimits delimits_nil delimits_cons)

variable {n : Nat} {t : Token} {ts : List Token} {cs rest : List Char} {v : Value}

/-! ## String literals -/

/-- A hexadecimal digit has the value that it was written for. -/
theorem hexValue?_hexDigit (n : Nat) : hexValue? (hexDigit n) = some (n % 16) := by
  have key : ∀ m < 16, hexValue? ((Nat.toDigits 16 m).headD '0') = some m := by decide
  exact key (n % 16) (Nat.mod_lt n (by decide))

/-- A control character is written by its number. -/
theorem unit_spelled {c : Char} (hc : c.toNat < 32) :
    Piece.Spelled (.unit c.toNat)
      ['\\', 'u', '0', '0', hexDigit (c.toNat / 16), hexDigit c.toNat] := by
  have hvalue : ((0 * 16 + 0) * 16 + c.toNat / 16 % 16) * 16 + c.toNat % 16 = c.toNat := by omega
  have hzero : hexValue? '0' = some 0 := by decide
  have hunit := Piece.Spelled.unit hzero hzero (hexValue?_hexDigit (c.toNat / 16))
    (hexValue?_hexDigit c.toNat)
  rwa [hvalue] at hunit

/-- A character inside a string literal is a piece that stands for it, escaped or not. -/
theorem escaped_spelled (c : Char) :
    ∃ p, Piece.Spelled p (escaped c) ∧
      ∀ ps, Piece.chars? (p :: ps) = (Piece.chars? ps).map (c :: ·) := by
  have hplain : Piece.Spelled (.char c) (escaped c) ∨ c.toNat < 32 ∧ escaped c =
      ['\\', 'u', '0', '0', hexDigit (c.toNat / 16), hexDigit c.toNat] := by
    unfold escaped
    split
    · subst_vars; exact .inl (.escaped rfl)
    split
    · subst_vars; exact .inl (.escaped rfl)
    split
    · subst_vars; exact .inl (.escaped rfl)
    split
    · subst_vars; exact .inl (.escaped rfl)
    split
    · subst_vars; exact .inl (.escaped rfl)
    split
    · subst_vars; exact .inl (.escaped rfl)
    split
    · subst_vars; exact .inl (.escaped rfl)
    split
    · exact .inr ⟨‹_›, rfl⟩
    · rename_i hquote hback _ _ _ _ _ hc
      exact .inl (.plain (Nat.le_of_not_lt hc) hquote hback)
  rcases hplain with hplain | ⟨hc, hescaped⟩
  · exact ⟨.char c, hplain, fun _ => rfl⟩
  · -- far below the surrogates
    have htrail : isTrailing c.toNat = false := by
      rw [isTrailing, Bool.and_eq_false_iff, decide_eq_false_iff_not]
      exact .inl (by omega)
    have hlead : isLeading c.toNat = false := by
      rw [isLeading, Bool.and_eq_false_iff, decide_eq_false_iff_not]
      exact .inl (by omega)
    refine ⟨.unit c.toNat, hescaped ▸ unit_spelled hc, fun ps => ?_⟩
    rw [Piece.chars?_whole htrail hlead, Char.ofNat_toNat]

theorem escaped_allSpelled (cs : List Char) :
    ∃ ps, Piece.AllSpelled ps (cs.flatMap escaped) ∧ Piece.chars? ps = some cs := by
  induction cs with
  | nil => exact ⟨[], .nil, rfl⟩
  | cons c cs ih =>
    obtain ⟨p, hp, hchar⟩ := escaped_spelled c
    obtain ⟨ps, hps, hchars⟩ := ih
    refine ⟨p :: ps, .cons hp hps, ?_⟩
    rw [hchar, hchars]
    rfl

/-- **A string literal is a text of the string.** -/
theorem quoted_spelled (s : String) : Token.Spelled (.string s) (quoted s) := by
  obtain ⟨ps, hps, hchars⟩ := escaped_allSpelled s.toList
  have htoken : Piece.token [] ps = .string s := by
    rw [Piece.token, hchars]
    simp
  rw [quoted, List.cons_append, ← htoken]
  exact .string hps

/-! ## Numbers -/

theorem isDigit_of_mem_digits {n : Nat} {d : Char} (hd : d ∈ digits n) : isDigit d = true := by
  have h := Nat.isDigit_of_mem_toDigits (b := 10) (by decide) (by decide) hd
  simpa [Char.isDigit, isDigit, Char.le_def] using h

/-- No number but zero begins with a zero. -/
theorem digits_head (n : Nat) :
    n = 0 ∨ ∃ m ds, digits n = Nat.digitChar m :: ds ∧ 0 < m ∧ m < 10 := by
  induction n using Nat.strongRecOn with
  | _ n ih =>
    rcases Nat.lt_or_ge n 10 with hlt | hge
    · rcases Nat.eq_zero_or_pos n with hzero | hpos
      · exact .inl hzero
      · exact .inr ⟨n, [], Nat.toDigits_of_lt_base hlt, hpos, hlt⟩
    · right
      have hsmaller : n / 10 < n := by omega
      have hsplit : digits n = digits (n / 10) ++ [Nat.digitChar (n % 10)] :=
        Nat.toDigits_of_base_le (by decide) hge
      rcases ih (n / 10) hsmaller with hzero | ⟨m, ds, hds, hm⟩
      · omega
      · exact ⟨m, ds ++ [Nat.digitChar (n % 10)], by rw [hsplit, hds, List.cons_append], hm⟩

theorem value_digits (n : Nat) : Literal.value (digits n) = n :=
  Nat.ofDigitChars_toDigits (by decide) (by decide)

/-- The digits of a number are those of a whole number. -/
theorem digits_spelled (n : Nat) : WholeSpelled (digits n) := by
  rcases digits_head n with rfl | ⟨m, ds, hds, hpos, hlt⟩
  · exact .zero
  · have hmem : ∀ d ∈ Nat.digitChar m :: ds, isDigit d = true := fun d hd =>
      isDigit_of_mem_digits (n := n) (hds ▸ hd)
    have hfirst : ∀ m < 10, 0 < m → Nat.digitChar m ≠ '0' := by decide
    rw [hds]
    exact .digits (hmem _ List.mem_cons_self) (hfirst m hlt hpos)
      fun d hd => hmem d (List.mem_cons_of_mem _ hd)

/-- A whole number is not too large to be kept. -/
theorem token_digits (n : Nat) (hn : n < UInt64.size) :
    Literal.token ⟨false, (digits n).reverse, [], false, []⟩ = .number (.integer n) := by
  have hmax : n ≤ Literal.maxInteger := Nat.le_pred_of_lt hn
  simp only [Literal.token, Literal.number?, List.reverse_reverse, value_digits, true_and, hmax,
    if_true]

theorem token_negative_digits (n : Nat) (hpos : 0 < n) (hn : n ≤ UInt64.size / 2) :
    Literal.token ⟨true, (digits n).reverse, [], false, []⟩ = .number (.integer (-n)) := by
  simp only [Literal.token, Literal.number?, List.reverse_reverse, value_digits, hpos,
    hn, and_self, if_true, Bool.true_eq_false, false_and, and_false, if_false]

/-- **The text of a number is a text of its token.** -/
theorem chars_spelled {x : Number} (hx : x.InRange) : Token.Spelled (.number x) x.chars := by
  cases x with
  | integer i =>
    obtain ⟨hlow, hhigh⟩ := hx
    cases i with
    | ofNat k =>
      have hk : k < UInt64.size := by
        have h : ((k : Nat) : Int) < UInt64.size := hhigh
        exact_mod_cast h
      have hspelled := Token.Spelled.number (.mk false (digits_spelled k) .none .none)
      rw [List.reverse_nil, token_digits k hk] at hspelled
      simpa [Number.chars, integerText] using hspelled
    | negSucc k =>
      have hk : k + 1 ≤ UInt64.size / 2 := by
        have hneg : Int.negSucc k = -((k : Int) + 1) := Int.negSucc_eq k
        rw [hneg] at hlow
        omega
      have hspelled := Token.Spelled.number (.mk true (digits_spelled (k + 1)) .none .none)
      have hneg : -((k + 1 : Nat) : Int) = Int.negSucc k := rfl
      rw [List.reverse_nil, token_negative_digits (k + 1) (Nat.succ_pos k) hk, hneg] at hspelled
      simpa [Number.chars, integerText] using hspelled
  | inexact =>
    have hzero : AllDigits ['0'] := by simp [AllDigits, isDigit]
    have hspelled := Token.Spelled.number (.mk false .zero (.digits hzero) .none)
    have htoken : Literal.token ⟨false, ['0'], ['0'], false, []⟩ = .number .inexact := by decide
    rwa [List.reverse_nil, List.reverse_singleton, htoken] at hspelled

/-! ## Tokens one after another -/

theorem Spells.space {space : List Char} (hspace : Blank space) (h : Spells ts rest) :
    Spells ts (space ++ rest) := by
  cases h with
  | nil hrest => exact .nil fun c hc => (List.mem_append.mp hc).elim (hspace c) (hrest c)
  | cons hfront ht hdelim hrest =>
    rw [← List.append_assoc]
    exact .cons (fun c hc => (List.mem_append.mp hc).elim (hspace c) (hfront c)) ht hdelim hrest

theorem blank_nil : Blank [] := nofun

/-- A token may stand before what no number goes on with. -/
theorem Spells.token (ht : t.Spelled cs) (hdelim : Delimits rest) (h : Spells ts rest) :
    Spells (t :: ts) (cs ++ rest) :=
  .cons blank_nil ht (fun _ => hdelim) h

/-- The tokens of numbers. -/
def Token.isNumber : Token → Bool
  | .number _ | .unusable false => true
  | _ => false

theorem Literal.token_isNumber (l : Literal) : l.token.isNumber = true := by
  rw [Literal.token]
  split <;> rfl

/-- A token that is no number may stand before anything. -/
theorem Spells.mark (ht : t.Spelled cs) (hnumber : t.isNumber = false) (h : Spells ts rest) :
    Spells (t :: ts) (cs ++ rest) := by
  refine .cons blank_nil ht (fun ⟨l, hl⟩ => ?_) h
  rw [hl, l.token_isNumber] at hnumber
  cases hnumber

/-- A comma before each item but the first. -/
theorem Spells.comma (first : Bool) (h : Spells ts rest) :
    Spells ((if first then [] else [.comma]) ++ ts) ((if first then [] else [',']) ++ rest) := by
  cases first with
  | true => exact h
  | false => exact .mark .comma rfl h

/-! ## Values on one line -/

/-- What stands between the tokens of a container is no part of a number. -/
theorem delimits_items (vs : List Value) (hrest : Delimits rest) :
    Delimits (compactItems false vs ++ rest) := by
  cases vs with
  | nil => exact hrest
  | cons v vs => exact delimits_cons (by decide) _

theorem delimits_members (ms : List (String × Value)) (hrest : Delimits rest) :
    Delimits (compactMembers false ms ++ rest) := by
  cases ms with
  | nil => exact hrest
  | cons m ms => exact delimits_cons (by decide) _

mutual

/-- **The text of a value is a text of its tokens**, whatever follows it that no
number goes on with. -/
theorem spells_compactChars {n : Nat} (v : Value) (hv : v.Fits n) {ts : List Token}
    {rest : List Char} (hdelim : Delimits rest) (h : Spells ts rest) :
    Spells (v.tokens ++ ts) (v.compactChars ++ rest) := by
  match n, v, hv with
  | _, .null, _ => exact .token .null hdelim h
  | _, .bool true, _ => exact .token .true hdelim h
  | _, .bool false, _ => exact .token .false hdelim h
  | _, .number x, .number _ hx => exact .token (chars_spelled hx) hdelim h
  | _, .string s, _ => exact .token (quoted_spelled s) hdelim h
  | _ + 1, .array vs, .array hvs =>
    have hitems := spells_compactItems true vs hvs (delimits_cons (c := ']') (by decide) rest)
      (.mark .closeBracket rfl h)
    have hopen := Spells.mark .openBracket rfl hitems
    simpa [Value.tokens, Value.compactChars] using hopen
  | _ + 1, .object ms, .object hms =>
    have hmembers := spells_compactMembers true ms hms (delimits_cons (c := '}') (by decide) rest)
      (.mark .closeBrace rfl h)
    have hopen := Spells.mark .openBrace rfl hmembers
    simpa [Value.tokens, Value.compactChars] using hopen

theorem spells_compactItems {n : Nat} (first : Bool) (vs : List Value) (hvs : ∀ v ∈ vs, v.Fits n)
    {ts : List Token} {rest : List Char} (hdelim : Delimits rest) (h : Spells ts rest) :
    Spells (itemTokens first vs ++ ts) (compactItems first vs ++ rest) := by
  match vs with
  | [] => exact h
  | v :: vs =>
    have hrest := spells_compactItems false vs (fun x hx => hvs x (List.mem_cons_of_mem v hx))
      hdelim h
    have hv := spells_compactChars v (hvs v List.mem_cons_self) (delimits_items vs hdelim) hrest
    have hcomma := Spells.comma first hv
    simpa [itemTokens, compactItems] using hcomma

theorem spells_compactMembers {n : Nat} (first : Bool) (ms : List (String × Value))
    (hms : ∀ m ∈ ms, m.2.Fits n) {ts : List Token} {rest : List Char} (hdelim : Delimits rest)
    (h : Spells ts rest) :
    Spells (memberTokens first ms ++ ts) (compactMembers first ms ++ rest) := by
  match ms with
  | [] => exact h
  | (k, v) :: ms =>
    have hrest := spells_compactMembers false ms (fun x hx => hms x (List.mem_cons_of_mem _ hx))
      hdelim h
    have hv := spells_compactChars v (hms (k, v) List.mem_cons_self) (delimits_members ms hdelim)
      hrest
    have hcomma := Spells.comma first (.mark (quoted_spelled k) rfl (.mark .colon rfl hv))
    simpa [memberTokens, compactMembers] using hcomma

end

/-! ## Values over several lines -/

theorem blank_newline (level : Nat) : Blank (newline level) := by
  intro c hc
  rcases List.mem_cons.mp hc with rfl | hc
  · rfl
  · rw [List.eq_of_mem_replicate hc]
    rfl

/-- A new line ends a number. -/
theorem delimits_newline (level : Nat) (cs : List Char) : Delimits (newline level ++ cs) :=
  delimits_cons (by decide) _

/-- Behind an item stands a comma or the end of the array. -/
theorem delimits_indentedItems (level : Nat) (vs : List Value) (cs : List Char) :
    Delimits (indentedItems level false vs ++ (newline level ++ cs)) := by
  cases vs with
  | nil => exact delimits_newline level cs
  | cons v vs => exact delimits_cons (by decide) _

theorem delimits_indentedMembers (level : Nat) (ms : List (String × Value)) (cs : List Char) :
    Delimits (indentedMembers level false ms ++ (newline level ++ cs)) := by
  cases ms with
  | nil => exact delimits_newline level cs
  | cons m ms => exact delimits_cons (by decide) _

mutual

/-- **The lines of a value are a text of its tokens**, whatever follows them that
no number goes on with. -/
theorem spells_indentedChars {n : Nat} (level : Nat) (v : Value) (hv : v.Fits n) {ts : List Token}
    {rest : List Char} (hdelim : Delimits rest) (h : Spells ts rest) :
    Spells (v.tokens ++ ts) (v.indentedChars level ++ rest) := by
  match n, v, hv with
  | _, .null, _ => exact .token .null hdelim h
  | _, .bool true, _ => exact .token .true hdelim h
  | _, .bool false, _ => exact .token .false hdelim h
  | _, .number x, .number _ hx => exact .token (chars_spelled hx) hdelim h
  | _, .string s, _ => exact .token (quoted_spelled s) hdelim h
  | _ + 1, .array [], _ =>
    have hclose := Spells.mark .closeBracket rfl h
    have hopen := Spells.mark .openBracket rfl hclose
    exact hopen
  | _ + 1, .object [], _ =>
    have hclose := Spells.mark .closeBrace rfl h
    have hopen := Spells.mark .openBrace rfl hclose
    exact hopen
  | _ + 1, .array (v :: vs), .array hvs =>
    have hitems := spells_indentedItems level true (v :: vs) hvs (.mark .closeBracket rfl h)
    have hopen := Spells.mark .openBracket rfl hitems
    simpa [Value.tokens, Value.indentedChars] using hopen
  | _ + 1, .object (m :: ms), .object hms =>
    have hmembers := spells_indentedMembers level true (m :: ms) hms (.mark .closeBrace rfl h)
    have hopen := Spells.mark .openBrace rfl hmembers
    simpa [Value.tokens, Value.indentedChars] using hopen

theorem spells_indentedItems {n : Nat} (level : Nat) (first : Bool) (vs : List Value)
    (hvs : ∀ v ∈ vs, v.Fits n) {ts : List Token} {rest : List Char} (h : Spells ts rest) :
    Spells (itemTokens first vs ++ ts)
      (indentedItems level first vs ++ (newline level ++ rest)) := by
  match vs with
  | [] =>
    rw [itemTokens, indentedItems, List.nil_append, List.nil_append]
    exact h.space (blank_newline level)
  | v :: vs =>
    have hrest :=
      spells_indentedItems level false vs (fun x hx => hvs x (List.mem_cons_of_mem v hx)) h
    have hv := spells_indentedChars (level + 1) v (hvs v List.mem_cons_self)
      (delimits_indentedItems level vs rest) hrest
    have hcomma := Spells.comma first (.space (blank_newline (level + 1)) hv)
    simpa [itemTokens, indentedItems] using hcomma

theorem spells_indentedMembers {n : Nat} (level : Nat) (first : Bool) (ms : List (String × Value))
    (hms : ∀ m ∈ ms, m.2.Fits n) {ts : List Token} {rest : List Char} (h : Spells ts rest) :
    Spells (memberTokens first ms ++ ts)
      (indentedMembers level first ms ++ (newline level ++ rest)) := by
  match ms with
  | [] =>
    rw [memberTokens, indentedMembers, List.nil_append, List.nil_append]
    exact h.space (blank_newline level)
  | (k, v) :: ms =>
    have hrest :=
      spells_indentedMembers level false ms (fun x hx => hms x (List.mem_cons_of_mem _ hx)) h
    have hv := spells_indentedChars (level + 1) v (hms (k, v) List.mem_cons_self)
      (delimits_indentedMembers level ms rest) hrest
    have hspace : Blank [' '] := by simp [Blank, isSpace]
    have hcomma := Spells.comma first (.space (blank_newline (level + 1))
      (.mark (quoted_spelled k) rfl (.mark .colon rfl (.space hspace hv))))
    simpa [memberTokens, indentedMembers] using hcomma

end

/-! ## Whole texts -/

/-- **The text of a value is a text of its tokens.** -/
theorem spells_compact (hv : v.Fits n) : Spells v.tokens v.compact.toList := by
  have h := spells_compactChars v hv delimits_nil (.nil (by simp [Blank]))
  rw [List.append_nil, List.append_nil] at h
  rwa [Value.compact, String.toList_ofList]

/-- **The lines of a value are a text of its tokens.** -/
theorem spells_indented (hv : v.Fits n) : Spells v.tokens v.indented.toList := by
  have h := spells_indentedChars 0 v hv delimits_nil (.nil (by simp [Blank]))
  rw [List.append_nil, List.append_nil] at h
  rwa [Value.indented, String.toList_ofList]

/-- What reads the tokens of a value as a whole reads its text. -/
theorem decode_compact {α : Type} (hv : v.Fits n) {read : List Token → Read α} {a : α}
    (hread : read v.tokens = .ok (a, [])) : decode read v.compact = .ok a :=
  decode_spelled (spells_compact hv) hread

theorem decode_indented {α : Type} (hv : v.Fits n) {read : List Token → Read α} {a : α}
    (hread : read v.tokens = .ok (a, [])) : decode read v.indented = .ok a :=
  decode_spelled (spells_indented hv) hread

end QueryBridge.Json
