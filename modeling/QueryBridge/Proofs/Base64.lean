import Mathlib.Algebra.Group.Nat.Defs
import QueryBridge.Base64

/-!
# Byte strings and their texts

A letter stands for the six bits that it was written for, and is never the
equals sign. So the letters of a group, whole or filled up, give its bytes, and
a text gives the bytes that it is the text of. The other way round, a group that
gives bytes is the group of these bytes, so no other text gives them. A text that
gives none has one of four faults.

* `Base64.sextet?_letter`, `Base64.letter_of_sextet?`: one letter.
* `Base64.decodeGroup_letters`, `Base64.decodeGroup_eq_some`: three bytes.
* `Base64.decode_eq_some_iff`: byte strings and their texts.
* `Base64.decode_eq_none_iff`: the texts of no bytes.
-/

namespace QueryBridge.Base64

/-! ## The text of bytes gives the bytes -/

/-- Six bits are read back from their letter. -/
theorem sextet?_letter {n : Nat} (hn : n < 64) : sextet? (letter n) = some n := by
  have key : ∀ m < 64, sextet? (letter m) = some m := by decide
  exact key n hn

/-- No letter fills up a group. -/
theorem letter_ne_padding {n : Nat} (hn : n < 64) : letter n ≠ '=' := by
  have key : ∀ m < 64, letter m ≠ '=' := by decide
  exact key n hn

/-- Three bytes are read back from their four letters. -/
theorem decodeGroup_letters (a b c : UInt8) :
    decodeGroup (letter (a.toNat / 4)) (letter (a.toNat % 4 * 16 + b.toNat / 16))
      (letter (b.toNat % 16 * 4 + c.toNat / 64)) (letter (c.toNat % 64)) = some [a, b, c] := by
  have ha := a.toNat_lt
  have hb := b.toNat_lt
  have hc := c.toNat_lt
  have hfirst : a.toNat / 4 * 4 + (a.toNat % 4 * 16 + b.toNat / 16) / 16 = a.toNat := by omega
  have hsecond : (a.toNat % 4 * 16 + b.toNat / 16) % 16 * 16 +
      (b.toNat % 16 * 4 + c.toNat / 64) / 4 = b.toNat := by omega
  have hthird : (b.toNat % 16 * 4 + c.toNat / 64) % 4 * 64 + c.toNat % 64 = c.toNat := by omega
  simp only [decodeGroup, sextet?_letter (show a.toNat / 4 < 64 by omega),
    sextet?_letter (show a.toNat % 4 * 16 + b.toNat / 16 < 64 by omega),
    sextet?_letter (show b.toNat % 16 * 4 + c.toNat / 64 < 64 by omega),
    sextet?_letter (show c.toNat % 64 < 64 by omega), Option.bind_eq_bind, Option.bind_some,
    hfirst, hsecond, hthird, UInt8.ofNat_toNat]

/-- One byte is read back from a group with two letters. -/
theorem decodeLast_one (a : UInt8) :
    decodeLast (letter (a.toNat / 4)) (letter (a.toNat % 4 * 16)) '=' '=' = some [a] := by
  have ha := a.toNat_lt
  have hbyte : a.toNat / 4 * 4 + a.toNat % 4 * 16 / 16 = a.toNat := by omega
  have hunused : a.toNat % 4 * 16 % 16 = 0 := by omega
  simp only [decodeLast, sextet?_letter (show a.toNat / 4 < 64 by omega),
    sextet?_letter (show a.toNat % 4 * 16 < 64 by omega), Option.bind_eq_bind, Option.bind_some,
    hbyte, hunused, and_self, if_true, UInt8.ofNat_toNat]

/-- Two bytes are read back from a group with three letters. -/
theorem decodeLast_two (a b : UInt8) :
    decodeLast (letter (a.toNat / 4)) (letter (a.toNat % 4 * 16 + b.toNat / 16))
      (letter (b.toNat % 16 * 4)) '=' = some [a, b] := by
  have ha := a.toNat_lt
  have hb := b.toNat_lt
  have hlast : b.toNat % 16 * 4 < 64 := by omega
  have hfirst : a.toNat / 4 * 4 + (a.toNat % 4 * 16 + b.toNat / 16) / 16 = a.toNat := by omega
  have hsecond : (a.toNat % 4 * 16 + b.toNat / 16) % 16 * 16 + b.toNat % 16 * 4 / 4 = b.toNat := by
    omega
  have hunused : b.toNat % 16 * 4 % 4 = 0 := by omega
  simp only [decodeLast, sextet?_letter (show a.toNat / 4 < 64 by omega),
    sextet?_letter (show a.toNat % 4 * 16 + b.toNat / 16 < 64 by omega), sextet?_letter hlast,
    Option.bind_eq_bind, Option.bind_some, letter_ne_padding hlast, hfirst, hsecond, hunused,
    and_self, if_true, if_false, UInt8.ofNat_toNat]

/-- A group that nothing fills up is read by itself. -/
theorem decodeChars_group {d : Char} (hd : d ≠ '=') (a b c : Char) (cs : List Char) :
    decodeChars (a :: b :: c :: d :: cs) =
      (decodeGroup a b c d).bind fun bytes => (decodeChars cs).map (bytes ++ ·) := by
  cases cs with
  | nil =>
    have hlast : decodeChars [a, b, c, d] = decodeGroup a b c d := if_neg hd
    have hself : (fun bytes : Bytes => (decodeChars []).map (bytes ++ ·)) = some := by
      funext bytes
      simp [decodeChars]
    rw [hlast, hself, Option.bind_fun_some]
  | cons x xs =>
    simp only [Option.map_eq_bind]
    rfl

/-- The letters of bytes give the bytes. The induction takes three bytes at a time. -/
theorem decodeChars_encodeChars (bytes : Bytes) :
    decodeChars (encodeChars bytes) = some bytes := by
  induction bytes using encodeChars.induct with
  | case1 => rfl
  | case2 a => exact decodeLast_one a
  | case3 a b => exact decodeLast_two a b
  | case4 a b c rest ih =>
    have hlast : letter (c.toNat % 64) ≠ '=' := letter_ne_padding (Nat.mod_lt _ (by decide))
    rw [encodeChars, decodeChars_group hlast, decodeGroup_letters, ih]
    rfl

/-- **Bytes are read back from their text.** -/
theorem decode_encode (bytes : Bytes) : decode (encode bytes) = some bytes := by
  rw [decode, encode, String.toList_ofList, decodeChars_encodeChars]

/-! ## Only the text of bytes gives them -/

variable {a b c d : Char} {cs rest front : List Char} {bytes : Bytes} {n : Nat}

/-- A letter that is read stands for what was read. -/
theorem letter_of_sextet? (h : sextet? c = some n) : letter n = c ∧ n < 64 := by
  have hsmall : c.toNat < 123 := by
    have hZ : ('Z' : Char).toNat = 90 := rfl
    have hz : ('z' : Char).toNat = 122 := rfl
    have h9 : ('9' : Char).toNat = 57 := rfl
    unfold sextet? at h
    simp only [Char.le_def, UInt32.le_iff_toNat_le, Char.toNat_val] at h
    split at h
    · omega
    split at h
    · omega
    split at h
    · omega
    split at h
    · subst_vars; decide
    split at h
    · subst_vars; decide
    · cases h
  have key : ∀ m < 123, ∀ n ∈ sextet? (Char.ofNat m), letter n = Char.ofNat m ∧ n < 64 := by decide
  have hc := key c.toNat hsmall
  rw [Char.ofNat_toNat] at hc
  exact hc n h

theorem toNat_byte (h : n < 256) : (UInt8.ofNat n).toNat = n := UInt8.toNat_ofNat_of_lt' h

/-- A whole group that is read is the group of what was read. -/
theorem decodeGroup_eq_some (h : decodeGroup a b c d = some bytes) (rest : Bytes) :
    encodeChars (bytes ++ rest) = a :: b :: c :: d :: encodeChars rest := by
  simp only [decodeGroup, Option.bind_eq_bind, Option.bind_eq_some_iff, Option.some.injEq] at h
  obtain ⟨w, hw, x, hx, y, hy, z, hz, rfl⟩ := h
  obtain ⟨rfl, hw⟩ := letter_of_sextet? hw
  obtain ⟨rfl, hx⟩ := letter_of_sextet? hx
  obtain ⟨rfl, hy⟩ := letter_of_sextet? hy
  obtain ⟨rfl, hz⟩ := letter_of_sextet? hz
  have hfirst : (w * 4 + x / 16) / 4 = w := by omega
  have hsecond : (w * 4 + x / 16) % 4 * 16 + (x % 16 * 16 + y / 4) / 16 = x := by omega
  have hthird : (x % 16 * 16 + y / 4) % 16 * 4 + (y % 4 * 64 + z) / 64 = y := by omega
  have hfourth : (y % 4 * 64 + z) % 64 = z := by omega
  simp only [List.cons_append, List.nil_append, encodeChars,
    toNat_byte (show w * 4 + x / 16 < 256 by omega),
    toNat_byte (show x % 16 * 16 + y / 4 < 256 by omega),
    toNat_byte (show y % 4 * 64 + z < 256 by omega), hfirst, hsecond, hthird, hfourth]

/-- A last group that is read is the group of what was read. -/
theorem decodeLast_eq_some (h : decodeLast a b c '=' = some bytes) :
    encodeChars bytes = [a, b, c, '='] := by
  simp only [decodeLast, Option.bind_eq_bind, Option.bind_eq_some_iff, true_and] at h
  obtain ⟨w, hw, x, hx, h⟩ := h
  obtain ⟨rfl, hw⟩ := letter_of_sextet? hw
  obtain ⟨rfl, hx⟩ := letter_of_sextet? hx
  have hfirst : (w * 4 + x / 16) / 4 = w := by omega
  split at h
  · obtain ⟨hunused, h⟩ := Option.ite_none_right_eq_some.mp h
    obtain rfl := Option.some.inj h
    have hsecond : (w * 4 + x / 16) % 4 * 16 = x := by omega
    simp only [encodeChars, toNat_byte (show w * 4 + x / 16 < 256 by omega), hfirst, hsecond]
    subst_vars
    rfl
  · obtain ⟨y, hy, h⟩ := Option.bind_eq_some_iff.mp h
    obtain ⟨hunused, h⟩ := Option.ite_none_right_eq_some.mp h
    obtain rfl := Option.some.inj h
    obtain ⟨rfl, hy⟩ := letter_of_sextet? hy
    have hsecond : (w * 4 + x / 16) % 4 * 16 + (x % 16 * 16 + y / 4) / 16 = x := by omega
    have hthird : (x % 16 * 16 + y / 4) % 16 * 4 = y := by omega
    simp only [encodeChars, toNat_byte (show w * 4 + x / 16 < 256 by omega),
      toNat_byte (show x % 16 * 16 + y / 4 < 256 by omega), hfirst, hsecond, hthird]

/-- **Letters that give bytes are the letters of the bytes.** -/
theorem decodeChars_eq_some (h : decodeChars cs = some bytes) : cs = encodeChars bytes := by
  induction cs using decodeChars.induct generalizing bytes with
  | case1 => obtain rfl := Option.some.inj h; rfl
  | case2 a b c => exact (decodeLast_eq_some h).symm
  | case3 a b c d hd =>
    have hgroup : decodeGroup a b c d = some bytes := by simpa [decodeChars, hd] using h
    have hletters := decodeGroup_eq_some hgroup []
    rw [List.append_nil] at hletters
    exact hletters.symm
  | case4 a b c d rest hrest ih =>
    rw [decodeChars.eq_3 a b c d rest hrest] at h
    simp only [Option.bind_eq_bind, Option.bind_eq_some_iff, Option.some.injEq] at h
    obtain ⟨front, hfront, more, hmore, rfl⟩ := h
    rw [decodeGroup_eq_some hfront, ← ih hmore]
  | case5 cs hnil hlast hgroup =>
    rw [decodeChars.eq_4 cs hnil hlast hgroup] at h
    cases h

/-- **A text is read as bytes exactly if it is the text of them.** -/
theorem decode_eq_some_iff {text : String} : decode text = some bytes ↔ text = encode bytes := by
  constructor
  · intro h
    rw [encode, ← decodeChars_eq_some h, String.ofList_toList]
  · rintro rfl
    exact decode_encode bytes

/-! ## The texts of no bytes -/

/-- The letters of the standard alphabet, in the order of the bits that they stand for. -/
def alphabet : List Char :=
  "ABCDEFGHIJKLMNOPQRSTUVWXYZabcdefghijklmnopqrstuvwxyz0123456789+/".toList

/-- **What is wrong with a text that is not read.** Each equals sign stands for two bits of the
last letter that no byte uses. -/
inductive Faulty : List Char → Prop
  /-- The groups are not all of four characters, as where padding is missing. -/
  | length {cs : List Char} : ¬ 4 ∣ cs.length → Faulty cs
  /-- A character that is no letter, such as white space. -/
  | foreign {cs : List Char} {c : Char} : c ∈ cs → c ∉ alphabet → c ≠ '=' → Faulty cs
  /-- Behind an equals sign stands anything but the end or one more. -/
  | padding (front : List Char) {behind : List Char} : behind ≠ [] → behind ≠ ['='] →
    Faulty (front ++ '=' :: behind)
  /-- Bits that no byte uses are not zero. -/
  | unused (front : List Char) {l : Char} {n : Nat} (pads : Nat) : alphabet[n]? = some l →
    ¬ 4 ^ pads ∣ n → Faulty (front ++ l :: List.replicate pads '=')

/-- The letters stand in the order of their bits. -/
theorem getElem?_alphabet : alphabet[n]? = some c ↔ n < 64 ∧ letter n = c := by
  have hletters : alphabet = (List.range 64).map letter := by decide
  rw [hletters, List.getElem?_map]
  by_cases hn : n < 64
  · simp [hn]
  · simp [hn]

theorem mem_alphabet : c ∈ alphabet ↔ ∃ n < 64, letter n = c := by
  simp only [List.mem_iff_getElem?, getElem?_alphabet]

theorem letter_mem_alphabet (hn : n < 64) : letter n ∈ alphabet := mem_alphabet.mpr ⟨n, hn, rfl⟩

theorem padding_not_mem_alphabet : '=' ∉ alphabet := by decide

/-- A letter stands for six bits only. -/
theorem letter_inj {m : Nat} (hn : n < 64) (hm : m < 64) (h : letter n = letter m) : n = m := by
  have hread := sextet?_letter hn
  rw [h, sextet?_letter hm] at hread
  exact (Option.some.inj hread).symm

/-- A character that is not read is no letter, so it is a fault unless it is padding at the end. -/
theorem Faulty.unread (front : List Char) {behind : List Char} (h : sextet? c = none)
    (hpadding : c = '=' → behind ≠ [] ∧ behind ≠ ['=']) : Faulty (front ++ c :: behind) := by
  by_cases hc : c = '='
  · subst hc
    exact .padding front (hpadding rfl).1 (hpadding rfl).2
  · have hletter : c ∉ alphabet := by
      rintro hmem
      obtain ⟨n, hn, rfl⟩ := mem_alphabet.mp hmem
      rw [sextet?_letter hn] at h
      cases h
    exact .foreign (List.mem_append_right front List.mem_cons_self) hletter hc

/-- A fault stays one behind a whole group. -/
theorem Faulty.behind_group (h : Faulty cs) (a b c d : Char) : Faulty (a :: b :: c :: d :: cs) := by
  cases h with
  | length h => exact .length fun hdvd => h ((Nat.dvd_add_left (Nat.dvd_refl 4)).mp hdvd)
  | foreign hc hletter hpad => exact .foreign (by simp [hc]) hletter hpad
  | padding front h h' => exact .padding (a :: b :: c :: d :: front) h h'
  | unused front pads h h' => exact .unused (a :: b :: c :: d :: front) pads h h'

/-- A whole group that is not read is a fault. -/
theorem faulty_of_decodeGroup (h : decodeGroup a b c d = none)
    (hrest : d = '=' → rest ≠ [] ∧ rest ≠ ['=']) : Faulty (a :: b :: c :: d :: rest) := by
  cases ha : sextet? a with
  | none => exact .unread [] ha fun _ => by simp
  | some w =>
  cases hb : sextet? b with
  | none => exact .unread [a] hb fun _ => by simp
  | some x =>
  cases hc : sextet? c with
  | none =>
    refine .unread [a, b] hc fun _ => ⟨by simp, fun heq => ?_⟩
    obtain ⟨rfl, rfl⟩ := List.cons.inj heq
    exact (hrest rfl).1 rfl
  | some y =>
  cases hd : sextet? d with
  | none => exact .unread [a, b, c] hd hrest
  | some z => simp [decodeGroup, ha, hb, hc, hd] at h

/-- A last group that is not read is a fault. -/
theorem faulty_of_decodeLast (h : decodeLast a b c '=' = none) : Faulty [a, b, c, '='] := by
  cases ha : sextet? a with
  | none => exact .unread [] ha fun _ => by simp
  | some w =>
  cases hb : sextet? b with
  | none => exact .unread [a] hb fun _ => by simp
  | some x =>
  obtain ⟨hletter, hx⟩ := letter_of_sextet? hb
  by_cases hpad : c = '='
  · subst hpad
    refine .unused [a] 2 (getElem?_alphabet.mpr ⟨hx, hletter⟩) fun hdvd => ?_
    have hzero : x % 16 = 0 := Nat.mod_eq_zero_of_dvd hdvd
    simp [decodeLast, ha, hb, hzero] at h
  cases hc : sextet? c with
  | none => exact .unread [a, b] hc fun heq => absurd heq hpad
  | some y =>
  obtain ⟨hletter, hy⟩ := letter_of_sextet? hc
  refine .unused [a, b] 1 (getElem?_alphabet.mpr ⟨hy, hletter⟩) fun hdvd => ?_
  have hzero : y % 4 = 0 := Nat.mod_eq_zero_of_dvd hdvd
  simp [decodeLast, ha, hb, hc, hpad, hzero] at h

/-- Letters that give no bytes have a fault. -/
theorem faulty_of_decodeChars (h : decodeChars cs = none) : Faulty cs := by
  induction cs using decodeChars.induct with
  | case1 => cases h
  | case2 a b c => exact faulty_of_decodeLast h
  | case3 a b c d hd =>
    exact faulty_of_decodeGroup (by simpa [decodeChars, hd] using h) fun heq => absurd heq hd
  | case4 a b c d rest hrest ih =>
    by_cases hlength : 4 ∣ (a :: b :: c :: d :: rest).length
    · cases hgroup : decodeGroup a b c d with
      | none =>
        refine faulty_of_decodeGroup hgroup fun _ => ⟨hrest, ?_⟩
        rintro rfl
        simp at hlength
      | some bytes =>
        cases hmore : decodeChars rest with
        | none => exact .behind_group (ih hmore) a b c d
        | some more =>
          rw [decodeChars.eq_3 a b c d rest hrest, hgroup, hmore] at h
          cases h
    · exact .length hlength
  | case5 cs hnil hlast hgroup =>
    rcases cs with _ | ⟨a, _ | ⟨b, _ | ⟨c, _ | ⟨d, rest⟩⟩⟩⟩
    · exact absurd rfl hnil
    · exact .length (by simp)
    · exact .length (by simp)
    · exact .length (by simp)
    · exact absurd rfl (hgroup a b c d rest)

/-- **The shape of the text of bytes**: letters, then so many equals signs as make whole groups,
and two bits of the last letter that are zero for each of these. -/
structure Padded (cs letters : List Char) (pads : Nat) : Prop where
  eq_append : cs = letters ++ List.replicate pads '='
  whole : 4 ∣ letters.length + pads
  pads_le : pads ≤ 2
  letters_mem : ∀ c ∈ letters, c ∈ alphabet
  unused : pads = 0 ∨ ∃ front n, letters = front ++ [letter n] ∧ n < 64 ∧ 4 ^ pads ∣ n

/-- A whole group of letters needs no padding. -/
theorem Padded.behind_group {letters : List Char} {pads : Nat} (h : Padded cs letters pads)
    (ha : a ∈ alphabet) (hb : b ∈ alphabet) (hc : c ∈ alphabet) (hd : d ∈ alphabet) :
    Padded (a :: b :: c :: d :: cs) (a :: b :: c :: d :: letters) pads where
  eq_append := by
    rw [h.eq_append]
    rfl
  whole := by
    have hwhole := h.whole
    simp only [List.length_cons]
    omega
  pads_le := h.pads_le
  letters_mem := by simpa [ha, hb, hc, hd] using h.letters_mem
  unused := by
    rcases h.unused with hnone | ⟨front, n, rfl, hn⟩
    · exact .inl hnone
    · exact .inr ⟨a :: b :: c :: d :: front, n, rfl, hn⟩

/-- **The text of bytes has this shape.** -/
theorem encodeChars_padded (bytes : Bytes) :
    ∃ letters pads, Padded (encodeChars bytes) letters pads := by
  induction bytes using encodeChars.induct with
  | case1 => exact ⟨[], 0, rfl, by simp, by simp, by simp, .inl rfl⟩
  | case2 a =>
    have ha := a.toNat_lt
    have hlast : a.toNat % 4 * 16 < 64 := by omega
    have hfirst := letter_mem_alphabet (show a.toNat / 4 < 64 by omega)
    refine ⟨[letter (a.toNat / 4), letter (a.toNat % 4 * 16)], 2, rfl, by simp, by simp,
      by simp [hfirst, letter_mem_alphabet hlast], .inr ⟨[_], _, rfl, hlast, ?_⟩⟩
    exact ⟨a.toNat % 4, Nat.mul_comm _ _⟩
  | case3 a b =>
    have ha := a.toNat_lt
    have hb := b.toNat_lt
    have hlast : b.toNat % 16 * 4 < 64 := by omega
    have hfirst := letter_mem_alphabet (show a.toNat / 4 < 64 by omega)
    have hsecond := letter_mem_alphabet (show a.toNat % 4 * 16 + b.toNat / 16 < 64 by omega)
    refine ⟨[letter (a.toNat / 4), letter (a.toNat % 4 * 16 + b.toNat / 16),
      letter (b.toNat % 16 * 4)], 1, rfl, by simp, by simp,
      by simp [hfirst, hsecond, letter_mem_alphabet hlast], .inr ⟨[_, _], _, rfl, hlast, ?_⟩⟩
    exact ⟨b.toNat % 16, Nat.mul_comm _ _⟩
  | case4 a b c rest ih =>
    obtain ⟨letters, pads, h⟩ := ih
    have ha := a.toNat_lt
    have hb := b.toNat_lt
    have hc := c.toNat_lt
    exact ⟨_, pads, h.behind_group (letter_mem_alphabet (by omega)) (letter_mem_alphabet (by omega))
      (letter_mem_alphabet (by omega)) (letter_mem_alphabet (by omega))⟩

variable {letters behind : List Char} {pads pads' : Nat} {l : Char}

/-- Behind an equals sign stands another one at most. -/
theorem Padded.behind_padding (h : Padded (front ++ '=' :: behind) letters pads) :
    behind = [] ∨ behind = ['='] := by
  have hsuffix : '=' :: behind <:+ List.replicate pads '=' := by
    rcases List.append_eq_append_iff.mp h.eq_append with ⟨more, hletters, heq⟩ | ⟨more, -, heq⟩
    · cases more with
      | nil => exact ⟨[], heq⟩
      | cons x more =>
        -- an equals sign is no letter
        obtain ⟨rfl, -⟩ := List.cons.inj heq
        have hmem := h.letters_mem '=' (by simp [hletters])
        exact absurd hmem padding_not_mem_alphabet
    · exact ⟨more, heq.symm⟩
  obtain ⟨hlength, hpads⟩ := List.suffix_replicate_iff.mp hsuffix
  have htwo := h.pads_le
  rcases behind with _ | ⟨x, _ | ⟨y, behind⟩⟩
  · exact .inl rfl
  · refine .inr ?_
    simpa using hpads
  · simp at hlength
    omega

/-- The last letter stands right in front of the padding. -/
theorem Padded.last (h : Padded (front ++ l :: List.replicate pads' '=') letters pads)
    (hl : l ≠ '=') : letters = front ++ [l] ∧ pads' = pads := by
  rcases List.append_eq_append_iff.mp h.eq_append with ⟨more, hletters, heq⟩ | ⟨more, -, heq⟩
  · cases more with
    | nil => exact absurd (List.eq_of_mem_replicate (heq ▸ List.mem_cons_self)) hl
    | cons x more =>
      obtain rfl := (List.cons.inj heq).1
      have hpads : List.replicate pads' '=' = more ++ List.replicate pads '=' :=
        (List.cons.inj heq).2
      -- what stands behind the letter is padding, and no letter is
      have hmore : more = [] := by
        refine List.eq_nil_iff_forall_not_mem.mpr fun x hx => ?_
        have hmem : x ∈ List.replicate pads' '=' := hpads ▸ List.mem_append_left _ hx
        obtain rfl := List.eq_of_mem_replicate hmem
        exact padding_not_mem_alphabet (h.letters_mem '=' (by simp [hletters, hx]))
      subst hmore
      have hlength := congrArg List.length hpads
      exact ⟨hletters, by simpa using hlength⟩
  · have hmem : l ∈ List.replicate pads '=' := by simp [heq]
    exact absurd (List.eq_of_mem_replicate hmem) hl

/-- A text of this shape has no fault. -/
theorem Padded.not_faulty (h : Padded cs letters pads) : ¬ Faulty cs := by
  intro hfaulty
  cases hfaulty with
  | length hlength =>
    refine hlength ?_
    rw [h.eq_append, List.length_append, List.length_replicate]
    exact h.whole
  | foreign hc hletter hpad =>
    rw [h.eq_append] at hc
    rcases List.mem_append.mp hc with hc | hc
    · exact hletter (h.letters_mem _ hc)
    · exact hpad (List.eq_of_mem_replicate hc)
  | padding front hnil hone => exact h.behind_padding.elim hnil hone
  | @unused front l n pads' hl hdvd =>
    obtain ⟨hn, rfl⟩ := getElem?_alphabet.mp hl
    obtain ⟨hletters, rfl⟩ := h.last (letter_ne_padding hn)
    rcases h.unused with rfl | ⟨front', m, heq, hm, hdvd'⟩
    · exact hdvd (Nat.one_dvd n)
    · obtain ⟨-, hlast⟩ := List.append_inj' (hletters.symm.trans heq) rfl
      obtain rfl := letter_inj hn hm (List.cons.inj hlast).1
      exact hdvd hdvd'

/-- **A text is read unless it has a fault.** -/
theorem decode_eq_none_iff {text : String} : decode text = none ↔ Faulty text.toList := by
  refine ⟨faulty_of_decodeChars, fun hfaulty => Option.eq_none_iff_forall_ne_some.mpr ?_⟩
  rintro bytes h
  obtain rfl := decode_eq_some_iff.mp h
  rw [encode, String.toList_ofList] at hfaulty
  obtain ⟨letters, pads, hpadded⟩ := encodeChars_padded bytes
  exact hpadded.not_faulty hfaulty

-- padding that is missing or too much, unused bits, a foreign character, white space
example : (["AQI", "AQI==", "AQIDBA==AQI=", "AQJ=", "AQ-=", "AQI=\n"].map decode) =
    List.replicate 6 none := by decide

/-- A text with a fault is not the text of any bytes. -/
theorem Faulty.ne_encode {text : String} (h : Faulty text.toList) (bytes : Bytes) :
    text ≠ encode bytes := by
  rintro rfl
  cases (decode_encode bytes).symm.trans (decode_eq_none_iff.mpr h)

end QueryBridge.Base64
