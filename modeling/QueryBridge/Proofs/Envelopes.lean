import QueryBridge.Message.Decode
import QueryBridge.Proofs.Json.Members
import QueryBridge.Proofs.Json.Spelling

/-!
# Envelopes

An envelope is found in every object that has its number and its message once,
wherever they stand and whatever else stands between them. What is read off it is
read off the message in it, be it an object or an array.

* `natural_id`, `Json.natural_whole`: the number.
* `EnvelopeParts.read_arranged`: the members in any order.
* `EnvelopeParts.read_faulty`: one of them missing or twice, or a message with a fault.
* `EnvelopeParts.read_holds`: the message in an envelope.
-/

namespace QueryBridge

open Json (Value Token Read Outline Spells TakesWhole Gathers Apart Among occurs maxDepth)

/-! ## Parts -/

/-- A number of 64 bits is read back from its token. -/
theorem natural_id (id : UInt64) (ts : List Token) :
    Json.natural (UInt64.size - 1) ((Value.ofNat id.toNat).tokens ++ ts) =
      .ok (id.toNat, ts) := by
  have hlow : (0 : Int) ≤ id.toNat := Int.natCast_nonneg _
  have hhigh : (id.toNat : Int) ≤ ((UInt64.size - 1 : Nat) : Int) := by
    have hlt := id.toNat_lt
    exact_mod_cast Nat.le_pred_of_lt hlt
  simp only [Value.ofNat, Value.tokens, List.cons_append, List.nil_append, Json.natural, hlow,
    hhigh, and_self, if_true, Int.toNat_natCast]

/-- An outline ends where its tokens do. -/
theorem Json.read_outline {α : Type} {read : List Token → Read α} {o : Outline} {a : α}
    (h : ∀ ts, read (o.tokens ++ ts) = .ok (a, ts)) : read o.tokens = .ok (a, []) := by
  have hend := h []
  rwa [List.append_nil] at hend

theorem Json.refuse_outline {α : Type} {read : List Token → Read α} {o : Outline}
    (h : ∀ ts, ∃ p, read (o.tokens ++ ts) = .error p) : ∃ p, read o.tokens = .error p := by
  have hend := h []
  rwa [List.append_nil] at hend

theorem Json.natural_whole (limit : Nat) (o : Outline) : TakesWhole (Json.natural limit) o := by
  match o with
  | .scalar (.number (.integer i)) =>
    by_cases hi : 0 ≤ i ∧ i ≤ limit
    · exact .inl ⟨i.toNat, fun ts => if_pos hi⟩
    · exact .inr fun ts => ⟨.mismatch, if_neg hi⟩
  | .scalar (.number .inexact) => exact .inr fun ts => ⟨_, rfl⟩
  | .scalar .null | .scalar (.bool _) | .scalar (.string _) | .scalar (.unusable _) =>
    exact .inr fun ts => ⟨_, rfl⟩
  | .array _ | .object _ => exact .inr fun ts => ⟨_, rfl⟩

section

universe u

variable {σ : Type u} {outer : Nat} {first : Bool} {f : Json.Field σ}
  {fields : List (Json.Field σ)} {s s' : σ} {ts rest : List Token}

/-- A field is read off the next item of an array. -/
theorem Json.positional_item (o : Outline) (ts : List Token) :
    Json.positional outer first (f :: fields) s (Json.separator first ++ (o.tokens ++ ts)) =
      match f.read outer s (o.tokens ++ ts) with
      | .ok (s, ts) => Json.positional outer false fields s ts
      | .error p => .error p := by
  cases o with
  | scalar x => cases x <;> cases first <;> rfl
  | _ => cases first <;> rfl

/-- Behind the last field nothing is read. -/
theorem Json.positional_end (h : Json.positional outer first [] s ts = .ok (s', rest)) :
    s' = s := by
  unfold Json.positional at h
  split at h
  · cases h
    rfl
  · cases h
  · cases h

end

/-! ## Members -/

namespace EnvelopeParts

variable {α : Type} {bodyName : String} {readBody : Nat → List Token → Read α} {outer : Nat} {a : α}
  {id : UInt64} {body : Outline} {all ms : List (Option String × Outline)}

/-- **The members of an envelope**: its number, the message in it and others, in
any order. -/
def Arranged (bodyName : String) (id : UInt64) (body : Outline)
    (all : List (Option String × Outline)) : Prop :=
  Among ["id", bodyName] [(some "id", (Value.ofNat id.toNat).outline), (some bodyName, body)] all

/-- **An object that is no envelope**: its number or its message is missing or
stands twice, or the message is an object with a fault. -/
def Faulty (bodyName : String) (faulty : List (Option String × Outline) → Prop)
    (ms : List (Option String × Outline)) : Prop :=
  occurs "id" ms ≠ 1 ∨ occurs bodyName ms ≠ 1 ∨
    ∃ body, (some bodyName, .object body) ∈ ms ∧ faulty body

/-- The place of the number. -/
def idSlot (α : Type) : Json.Slot (EnvelopeParts α) Nat where
  item _ := Json.natural (UInt64.size - 1)
  given e := e.id.isSome
  put n e := { e with id := some (UInt64.ofNat n) }

/-- The place of the message. -/
def bodySlot (readBody : Nat → List Token → Read α) : Json.Slot (EnvelopeParts α) α where
  item := readBody
  given e := e.body.isSome
  put b e := { e with body := some b }

theorem slots (bodyName : String) (readBody : Nat → List Token → Read α) :
    Json.TwoSlots "id" (idSlot α) bodyName (bodySlot readBody) (fields bodyName readBody) :=
  .mk rfl rfl ⟨fun _ _ _ => rfl, rfl, fun _ _ => rfl⟩ ⟨fun _ _ _ => rfl, rfl, fun _ _ => rfl⟩

theorem fields_apart : Apart (fields bodyName readBody) outer :=
  (slots bodyName readBody).apart ⟨fun _ _ _ => rfl, fun _ _ => rfl, fun _ _ => rfl⟩

/-- **An envelope is read from its members**, wherever they stand. -/
theorem read_arranged (hname : bodyName ≠ "id") (hdepth : outer < maxDepth)
    (hbody : ∀ ts, readBody (outer + 1) (body.tokens ++ ts) = .ok (a, ts))
    (hall : Arranged bodyName id body all) (ts : List Token) :
    read bodyName readBody outer ((Outline.object all).tokens ++ ts) = .ok ((id, a), ts) := by
  have hslots := slots bodyName readBody
  obtain ⟨f, hf, hid⟩ := hslots.find_first
  obtain ⟨g, hg, hslot⟩ := hslots.find_second hname.symm
  have hnumber : ∀ ts, (idSlot α).item (outer + 1)
      ((Value.ofNat id.toNat).outline.tokens ++ ts) = .ok (id.toNat, ts) := by
    intro ts
    rw [Value.tokens_outline]
    exact natural_id id ts
  have hgathers : Gathers (fields bodyName readBody) (outer + 1) {} _
      ⟨some (UInt64.ofNat id.toNat), some a⟩ :=
    .known hf (by rw [hid.given]; rfl) (hid.takes hnumber)
      (.known hg (by rw [hslot.given]; rfl) (hslot.takes hbody) (.nil _))
  rw [Arranged, ← hslots.names] at hall
  have hrecord := Json.record_gathers (hgathers.among fields_apart hall) hdepth ts
  rw [read, hrecord]
  simp only [UInt64.ofNat_toNat]

/-- **An envelope with a fault is refused.** -/
theorem read_faulty {faulty : List (Option String × Outline) → Prop} (hname : bodyName ≠ "id")
    (hwhole : ∀ o, TakesWhole (readBody (outer + 1)) o)
    (hbody : ∀ body, faulty body → ∀ ts, ∃ p,
      readBody (outer + 1) ((Outline.object body).tokens ++ ts) = .error p)
    (hfaulty : Faulty bodyName faulty ms) (ts : List Token) :
    ∃ p, read bodyName readBody outer ((Outline.object ms).tokens ++ ts) = .error p := by
  have hslots := slots bodyName readBody
  obtain ⟨f, hf, hid⟩ := hslots.find_first
  obtain ⟨g, hg, hslot⟩ := hslots.find_second hname.symm
  rw [read]
  match hrecord : Json.record (fields bodyName readBody) {} outer
    ((Outline.object ms).tokens ++ ts) with
  | .error p => exact ⟨p, rfl⟩
  | .ok (⟨none, _⟩, _) | .ok (⟨some _, none⟩, _) => exact ⟨.mismatch, rfl⟩
  | .ok (⟨some n, some b⟩, rest) =>
    have hgathers := Json.gathers_of_record
      (hslots.whole (fun o => Json.natural_whole _ o) hwhole) hrecord
    have honceId := hgathers.occurs fields_apart hf
    have honceBody := hgathers.occurs fields_apart hg
    rw [hid.given] at honceId
    rw [hslot.given] at honceBody
    rcases hfaulty with h | h | ⟨body, hmem, hinner⟩
    · exact absurd honceId h
    · exact absurd honceBody h
    · obtain ⟨put, hput⟩ := hgathers.takes hg hmem
      obtain ⟨p, hp⟩ := hbody body hinner []
      obtain ⟨a, ha, -⟩ := hslot.eq_put hput {}
      exact absurd (hp.symm.trans ha) nofun

/-! ### The message in an envelope -/

variable {whole : Outline} {ts rest : List Token}

/-- **A message in an envelope**: under its name in an object, or behind the number in
an array. -/
inductive Holds (bodyName : String) (body : Outline) : Outline → Prop
  | object {ms : List (Option String × Outline)} : (some bodyName, body) ∈ ms →
    Holds bodyName body (.object ms)
  | array (id : Outline) (behind : List Outline) :
    Holds bodyName body (.array (id :: body :: behind))

/-- The message of an array is its second item. -/
theorem record_items (hwhole : ∀ o, TakesWhole (readBody (outer + 1)) o) (o body : Outline)
    (behind : List Outline) {e : EnvelopeParts α}
    (h : Json.record (fields bodyName readBody) {} outer
      ((Outline.array (o :: body :: behind)).tokens ++ ts) = .ok (e, rest)) :
    ∃ b, e.body = some b ∧ ∀ ts, readBody (outer + 1) (body.tokens ++ ts) = .ok (b, ts) := by
  have hitems : (Outline.array (o :: body :: behind)).tokens ++ ts =
      .openBracket :: (Json.separator true ++ (o.tokens ++ (Json.separator false ++
        (body.tokens ++ (Outline.itemTokens false behind ++ .closeBracket :: ts))))) := by
    simp [Outline.tokens, Outline.itemTokens]
  rw [hitems, Json.record] at h
  split at h
  · cases h
  rcases Json.natural_whole (UInt64.size - 1) o with ⟨n, hn⟩ | hrefused
  · rcases hwhole body with ⟨b, hb⟩ | hrefused
    · simp only [fields, Json.positional_item, hn, hb, Except.map] at h
      obtain rfl := Json.positional_end h
      exact ⟨b, rfl, hb⟩
    · obtain ⟨p, hp⟩ := hrefused (Outline.itemTokens false behind ++ .closeBracket :: ts)
      simp only [fields, Json.positional_item, hn, hp, Except.map] at h
      cases h
  · obtain ⟨p, hp⟩ := hrefused (Json.separator false ++
      (body.tokens ++ (Outline.itemTokens false behind ++ .closeBracket :: ts)))
    simp only [fields, Json.positional_item, hp, Except.map] at h
    cases h

/-- The message of an object is what stands under its name. -/
theorem record_member (hname : bodyName ≠ "id") (hwhole : ∀ o, TakesWhole (readBody (outer + 1)) o)
    (hm : (some bodyName, body) ∈ ms) {e : EnvelopeParts α}
    (h : Json.record (fields bodyName readBody) {} outer ((Outline.object ms).tokens ++ ts) =
      .ok (e, rest)) :
    ∃ b, e.body = some b ∧ readBody (outer + 1) (body.tokens ++ []) = .ok (b, []) := by
  have hslots := slots bodyName readBody
  have hgathers := Json.gathers_of_record
    (hslots.whole (fun o => Json.natural_whole _ o) hwhole) h
  obtain ⟨g, hg, hslot⟩ := hslots.find_second hname.symm
  obtain ⟨put, e', ht, rfl⟩ := hgathers.puts fields_apart hg hm
  obtain ⟨b, hb, hput⟩ := hslot.eq_put ht e'
  exact ⟨b, congrArg EnvelopeParts.body (hput e'), hb⟩

/-- **What is read off an envelope is read off the message in it.** -/
theorem read_holds (hname : bodyName ≠ "id") (hwhole : ∀ o, TakesWhole (readBody (outer + 1)) o)
    (hholds : Holds bodyName body whole)
    (h : read bodyName readBody outer whole.tokens = .ok ((id, a), rest)) :
    readBody (outer + 1) body.tokens = .ok (a, []) := by
  rw [← List.append_nil whole.tokens, read] at h
  rw [← List.append_nil body.tokens]
  match hrecord : Json.record (fields bodyName readBody) {} outer (whole.tokens ++ []) with
  | .error p =>
    rw [hrecord] at h
    cases h
  | .ok (⟨none, _⟩, _) | .ok (⟨some _, none⟩, _) =>
    rw [hrecord] at h
    cases h
  | .ok (⟨some id', some a'⟩, rest') =>
    rw [hrecord] at h
    cases h
    cases hholds with
    | object hm =>
      obtain ⟨b, hb, hread⟩ := record_member hname hwhole hm hrecord
      obtain rfl := Option.some.inj hb
      exact hread
    | array o behind =>
      obtain ⟨b, hb, hread⟩ := record_items hwhole o body behind hrecord
      obtain rfl := Option.some.inj hb
      exact hread []

/-! ### Texts -/

theorem decode_arranged {text : String} (hname : bodyName ≠ "id")
    (hbody : ∀ ts, readBody 1 (body.tokens ++ ts) = .ok (a, ts))
    (hall : Arranged bodyName id body all)
    (htext : Spells (Outline.object all).tokens text.toList) :
    Json.decode (read bodyName readBody 0) text = .ok (id, a) :=
  Json.decode_spelled htext (Json.read_outline (read_arranged hname (by decide) hbody hall))

theorem decode_faulty {faulty : List (Option String × Outline) → Prop} {text : String}
    (hname : bodyName ≠ "id") (hwhole : ∀ o, TakesWhole (readBody 1) o)
    (hbody : ∀ body, faulty body → ∀ ts, ∃ p,
      readBody 1 ((Outline.object body).tokens ++ ts) = .error p)
    (hfaulty : Faulty bodyName faulty ms) (htext : Spells (Outline.object ms).tokens text.toList) :
    ∃ p, Json.decode (read bodyName readBody 0) text = .error p :=
  Json.decode_refused htext (Json.refuse_outline (read_faulty hname hwhole hbody hfaulty))

end EnvelopeParts

end QueryBridge
