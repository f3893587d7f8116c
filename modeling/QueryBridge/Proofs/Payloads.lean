import QueryBridge.Proofs.FieldNames

/-!
# Payloads and their texts

The bytes in a message are the ones whose text stands in it. Whatever a response
looks like, an object with its members in any order or an array, in an envelope or
not, what is decoded is made of the values that stand there as they stand. So a
chunk comes from one text only, and several chunks from one text each, as many and
in the same order.

* `Shape.read_holds`: a message is made of the members that stand there.
* `bytes?_eq_some_iff`, `chunks?_eq_some_iff`: the values of payloads.
* `Response.ReadFrom.chunk`, `Response.ReadFrom.chunks`: what comes of a text.
* `payloads_one_to_one`: byte strings and the texts that carry them.
-/

namespace QueryBridge

open Json (Value Content Token Read Outline Spells maxDepth)

/-! ## Members as they stand -/

namespace Shape

variable {κ ρ : Type} {shape : List Member} {m : Member} {vs : List (String × Value)}
  {values : List (Option Value)} {v : Value} {i : Nat}

/-- A member that is there and is no fault is the one of its name. -/
theorem member?_of_mem {v? : Option Value} (h : member? vs m = some v?) (hv : (m.name, v) ∈ vs) :
    v? = some v := by
  have hmem : (m.name, v) ∈ vs.filter (·.1 = m.name) := List.mem_filter.mpr ⟨hv, by simp⟩
  rw [member?] at h
  generalize vs.filter (·.1 = m.name) = found at h hmem
  rcases found with _ | ⟨x, _ | ⟨y, found⟩⟩
  · cases hmem
  · obtain rfl := List.mem_singleton.mp hmem
    exact (Option.some.inj h).symm
  · cases h

/-- The value of a member that stands there has the member's place. -/
theorem content?_of_mem (h : content? shape (.members vs) = some values)
    (hm : shape[i]? = some m) (hv : (m.name, v) ∈ vs) : values[i]? = some (some v) := by
  rw [content?] at h
  induction shape generalizing i values with
  | nil => cases hm
  | cons x shape ih =>
    simp only [List.mapM_cons, Option.bind_eq_bind, Option.bind_eq_some_iff, Option.pure_def,
      Option.some.injEq] at h
    obtain ⟨v?, hx, more, hmore, rfl⟩ := h
    cases i with
    | zero =>
      obtain rfl := Option.some.inj hm
      exact congrArg some (member?_of_mem hx hv)
    | succ i =>
      rw [List.getElem?_cons_succ] at hm ⊢
      exact ih hmore hm

/-- The value of an item has the item's place. -/
theorem items?_of_getElem? {items : List Value} (h : items? shape items = some values)
    (hv : items[i]? = some v) : values[i]? = some (some v) := by
  induction items generalizing shape i values with
  | nil => cases hv
  | cons x items ih =>
    cases shape with
    | nil => cases h
    | cons m shape =>
      obtain ⟨more, hmore, rfl⟩ := Option.map_eq_some_iff.mp h
      cases i with
      | zero =>
        obtain rfl := Option.some.inj hv
        rfl
      | succ i =>
        rw [List.getElem?_cons_succ] at hv ⊢
        exact ih hmore hv

/-- **A member of a message**: by its name in an object, or at its place behind the
name of the message in an array. -/
inductive Holds (shape : List Member) (name k : String) (o : Outline) : Outline → Prop
  | object {ms : List (Option String × Outline)} : (some "type", .scalar (.string name)) ∈ ms →
    (some k, o) ∈ ms → Holds shape name k o (.object ms)
  | array {os : List Outline} {i : Nat} : shape[i]?.map Member.name = some k → os[i]? = some o →
    Holds shape name k o (.array (.scalar (.string name) :: os))

variable {ofName? : String → Option κ} {name : κ → String} {shapes : κ → List Member}
  {ofMembers? : κ → List (Option Value) → Option ρ} {kind : κ} {r : ρ} {outer : Nat} {k : String}
  {o whole : Outline} {rest : List Token}

/-- What is read is made of what stands beside the tag. -/
theorem content_of_read {ts : List Token}
    (h : read ofName? shapes ofMembers? outer ts = .ok (r, rest)) :
    ∃ kind content values, Json.tagged "type" ofName? outer ts = .ok ((kind, content), rest) ∧
      content? (shapes kind) content = some values ∧ ofMembers? kind values = some r := by
  rw [read] at h
  split at h
  · cases h
  · rename_i kind content ts' htagged
    cases hr : (content? (shapes kind) content).bind (ofMembers? kind) with
    | none =>
      rw [hr] at h
      cases h
    | some r' =>
      rw [hr] at h
      cases h
      obtain ⟨values, hvalues, hr⟩ := Option.bind_eq_some_iff.mp hr
      exact ⟨kind, content, values, htagged, hvalues, hr⟩

/-- **What is read is made of the members as they stand there.** -/
theorem read_holds (hname : ofName? (name kind) = some kind) (hk : k ≠ "type")
    (hknown : ∃ i : Nat, (shapes kind)[i]?.map Member.name = some k)
    (hholds : Holds (shapes kind) (name kind) k o whole)
    (h : read ofName? shapes ofMembers? outer whole.tokens = .ok (r, rest)) :
    ∃ (values : List (Option Value)) (i : Nat) (v : Value), ofMembers? kind values = some r ∧
      (shapes kind)[i]?.map Member.name = some k ∧ values[i]? = some (some v) ∧ v.outline = o := by
  rw [← List.append_nil whole.tokens] at h
  obtain ⟨kind', content, values, htagged, hvalues, hr⟩ := content_of_read h
  cases hholds with
  | @object ms hkind hm =>
    rcases Json.tagged_object_or_refused "type" ofName? outer ms with
      ⟨hdepth, t, vs, hvs⟩ | hrefused
    · rw [Json.tagged_object hvs hdepth] at htagged
      cases htagged
      -- the tag is of one kind only, so what is read is of this one
      obtain ⟨_, heq, hnamed⟩ := hvs.names hkind
      cases heq
      obtain rfl := Option.some.inj (hname.symm.trans hnamed)
      obtain ⟨v, hv, hkept⟩ := hvs.keeps hk hm
      obtain ⟨i, hi⟩ := hknown
      obtain ⟨m, hmi, rfl⟩ := Option.map_eq_some_iff.mp hi
      exact ⟨values, i, v, hr, hi, content?_of_mem hvalues hmi hv, hkept⟩
    · obtain ⟨p, hp⟩ := hrefused []
      cases hp.symm.trans htagged
  | @array os i hi ho =>
    rcases Json.tagged_array_or_refused "type" ofName? outer (.scalar (.string (name kind)) :: os)
      with ⟨_, t, vs, heq, hnamed, hread⟩ | hrefused
    · rw [hread] at htagged
      cases htagged
      cases heq
      obtain rfl := Option.some.inj (hname.symm.trans hnamed)
      rw [Value.outlines_eq, List.getElem?_map] at ho
      obtain ⟨v, hv, hkept⟩ := Option.map_eq_some_iff.mp ho
      exact ⟨values, i, v, hr, hi, items?_of_getElem? hvalues hv, hkept⟩
    · obtain ⟨p, hp⟩ := hrefused []
      cases hp.symm.trans htagged

end Shape

/-! ## Payloads -/

/-- A value is read as bytes exactly if it is the text of them. -/
theorem bytes?_eq_some_iff {v : Value} {b : Bytes} :
    bytes? v = some b ↔ v = .string (Base64.encode b) := by
  constructor
  · intro h
    cases v with
    | string t => rw [Base64.decode_eq_some_iff.mp h]
    | _ => cases h
  · rintro rfl
    exact Base64.decode_encode b

/-- **Several byte strings are read exactly from their texts**, as many and in this order. -/
theorem chunks?_eq_some_iff {v : Value} {bs : List Bytes} :
    chunks? v = some bs ↔ v = .array (bs.map fun b => .string (Base64.encode b)) := by
  constructor
  · intro h
    cases v with
    | array vs =>
      have hitems : vs.mapM bytes? = some bs := h
      refine congrArg Value.array ?_
      clear h
      induction vs generalizing bs with
      | nil =>
        obtain rfl := Option.some.inj hitems
        rfl
      | cons v vs ih =>
        simp only [List.mapM_cons, Option.bind_eq_bind, Option.bind_eq_some_iff, Option.pure_def,
          Option.some.injEq] at hitems
        obtain ⟨b, hb, more, hmore, rfl⟩ := hitems
        rw [bytes?_eq_some_iff.mp hb, ih hmore, List.map_cons]
    | _ => cases h
  · rintro rfl
    exact chunks?_encode bs

namespace Response

variable {r : Response} {o whole : Outline} {outer : Nat} {rest : List Token} {text : String}
  {outcome : Except DecodeProblem Response}

/-- **A member of a response** of the kind. -/
def Holds (kind : ResponseKind) (k : String) (o whole : Outline) : Prop :=
  Shape.Holds (shape kind) kind.name k o whole

/-- The text of a chunk is the text of the bytes that it is read as. -/
theorem read_chunk (hholds : Holds .chunk "data" o whole)
    (h : read outer whole.tokens = .ok (r, rest)) :
    ∃ b, r = .chunk b ∧ o = .scalar (.string (Base64.encode b)) := by
  rw [read_eq] at h
  obtain ⟨values, i, v, hr, hi, hv, rfl⟩ :=
    Shape.read_holds (ResponseKind.ofName?_name .chunk) (by decide) ⟨0, rfl⟩ hholds h
  -- a chunk has no other member
  have hplace : i = 0 := by
    rcases i with _ | i
    · rfl
    · cases hi
  subst hplace
  match values, hr, hv with
  | [some w], hr, hv =>
    obtain rfl := Option.some.inj (Option.some.inj hv)
    obtain ⟨b, hb, rfl⟩ := Option.map_eq_some_iff.mp hr
    obtain rfl := bytes?_eq_some_iff.mp hb
    exact ⟨b, rfl, rfl⟩

/-- The texts of several chunks are the texts of the byte strings that they are read as. -/
theorem read_chunks (hholds : Holds .chunks "chunks" o whole)
    (h : read outer whole.tokens = .ok (r, rest)) :
    ∃ bs finished, r = .chunks bs finished ∧
      o = .array (bs.map fun b => .scalar (.string (Base64.encode b))) := by
  rw [read_eq] at h
  obtain ⟨values, i, v, hr, hi, hv, rfl⟩ :=
    Shape.read_holds (ResponseKind.ofName?_name .chunks) (by decide) ⟨0, rfl⟩ hholds h
  have hplace : i = 0 := by
    rcases i with _ | _ | i
    · rfl
    · exact absurd hi (by decide)
    · cases hi
  subst hplace
  match values, hr, hv with
  | [some w, some flag], hr, hv =>
    obtain rfl := Option.some.inj (Option.some.inj hv)
    simp only [ofMembers?, Option.bind_eq_bind, Option.bind_eq_some_iff, Option.pure_def,
      Option.some.injEq] at hr
    obtain ⟨bs, hbs, finished, -, rfl⟩ := hr
    obtain rfl := chunks?_eq_some_iff.mp hbs
    refine ⟨bs, finished, rfl, ?_⟩
    rw [Value.outline, Value.outlines_eq, List.map_map]
    rfl

/-! ## Texts -/

/-- **What comes of a response in a text**, alone or in an envelope. -/
inductive ReadFrom (text : String) (o : Outline) : Except DecodeProblem Response → Prop
  | alone : Spells o.tokens text.toList → ReadFrom text o (decode text)
  | enveloped {whole : Outline} : EnvelopeParts.Holds "response" o whole →
    Spells whole.tokens text.toList →
    ReadFrom text o ((ResponseEnvelope.decode text).map ResponseEnvelope.response)

/-- What comes of it is what is read off its tokens. -/
theorem ReadFrom.read (h : ReadFrom text o outcome) :
    (∃ r outer, outcome = .ok r ∧ Response.read outer o.tokens = .ok (r, [])) ∨
      ∃ p, outcome = .error p := by
  cases h with
  | alone htext =>
    cases hdecode : decode text with
    | error p => exact .inr ⟨p, rfl⟩
    | ok r => exact .inl ⟨r, 0, rfl, Json.read_of_decode htext hdecode⟩
  | enveloped hholds htext =>
    cases hdecode : Json.decode (EnvelopeParts.read "response" Response.read 0) text with
    | error p =>
      refine .inr ⟨p, ?_⟩
      rw [ResponseEnvelope.decode, hdecode]
      rfl
    | ok e =>
      obtain ⟨id, r⟩ := e
      have hread := EnvelopeParts.read_holds (by decide) (read_whole 1) hholds
        (Json.read_of_decode htext hdecode)
      refine .inl ⟨r, 1, ?_, hread⟩
      rw [ResponseEnvelope.decode, hdecode]
      rfl

/-- **A response with the given members in a text**, alone or in an envelope, with anything
between the members that is not known, and what comes of it. -/
inductive WrittenIn (kind : ResponseKind) (own : List (String × Value)) (text : String) :
    Except DecodeProblem Response → Prop
  | alone {all : List (String × Value)} :
    Shape.Arranged (shape kind) kind.name own (maxDepth - 1) all →
    Spells (Value.object all).tokens text.toList → WrittenIn kind own text (decode text)
  | enveloped {id : UInt64} {body : List (String × Value)} {all : List (Option String × Outline)} :
    Shape.Arranged (shape kind) kind.name own (maxDepth - 2) body →
    EnvelopeParts.Arranged "response" id (Value.object body).outline all →
    Spells (Outline.object all).tokens text.toList →
    WrittenIn kind own text ((ResponseEnvelope.decode text).map ResponseEnvelope.response)

/-- A response with its own members is decoded. -/
theorem WrittenIn.decodes (h : WrittenIn r.kind r.members text outcome) : outcome = .ok r := by
  cases h with
  | alone hall htext => exact decode_arranged hall htext
  | @enveloped id body all hbody hall htext =>
    have hdecode := ResponseEnvelope.decode_arranged (e := ⟨id, r⟩) hbody hall htext
    rw [hdecode]
    rfl

/-- What the encoder writes is a response with its own members, and comes back. -/
theorem WrittenIn.encode (id : UInt64) (r : Response) :
    WrittenIn r.kind r.members (ResponseEnvelope.encode ⟨id, r⟩) (.ok r) := by
  have hbody : Shape.Arranged (shape r.kind) r.kind.name r.members (maxDepth - 2)
      (("type", .string r.kind.name) :: r.members) :=
    ⟨[], by rw [List.append_nil], by simp⟩
  have hall : EnvelopeParts.Arranged "response" id r.toValue.outline
      (Value.memberOutlines [("id", .ofNat id.toNat), ("response", r.toValue)]) :=
    ⟨[], .refl _, by simp⟩
  have hfits := envelope_fits id "response" (tagged_fits r.kind.name r.members_fit)
  have htext := Json.spells_compact hfits
  rw [← Value.tokens_outline] at htext
  have hback : (ResponseEnvelope.decode (ResponseEnvelope.encode ⟨id, r⟩)).map
      ResponseEnvelope.response = .ok r := by
    rw [ResponseEnvelope.decode_encode]
    rfl
  rw [← hback]
  exact .enveloped hbody hall htext

/-- The members that were given stand in the text. -/
theorem WrittenIn.holds {kind : ResponseKind} {own : List (String × Value)}
    (h : WrittenIn kind own text outcome) :
    ∃ whole, ReadFrom text whole outcome ∧ ∀ m ∈ own, Holds kind m.1 m.2.outline whole := by
  have hmembers : ∀ {n all}, Shape.Arranged (shape kind) kind.name own n all →
      ∀ m ∈ own, Holds kind m.1 m.2.outline (Value.object all).outline := by
    intro n all hall m hm
    obtain ⟨extra, hperm, -⟩ := hall
    have hin : ∀ x ∈ ("type", .string kind.name) :: (own ++ extra),
        (some x.1, x.2.outline) ∈ Value.memberOutlines all := by
      intro x hx
      rw [Value.memberOutlines_eq]
      exact List.mem_map.mpr ⟨x, hperm.mem_iff.mpr hx, rfl⟩
    exact .object (hin _ List.mem_cons_self)
      (hin m (List.mem_cons_of_mem _ (List.mem_append_left extra hm)))
  cases h with
  | @alone all hall htext =>
    rw [← Value.tokens_outline] at htext
    exact ⟨_, .alone htext, hmembers hall⟩
  | @enveloped id body all hbody hall htext =>
    obtain ⟨extra, hperm, -⟩ := hall
    have hin : (some "response", (Value.object body).outline) ∈ all :=
      hperm.mem_iff.mpr (by simp)
    exact ⟨_, .enveloped (.object hin) htext, hmembers hbody⟩

/-- What comes of a chunk in any text. -/
theorem ReadFrom.chunk (hholds : Holds .chunk "data" o whole) (h : ReadFrom text whole outcome) :
    (∃ b, outcome = .ok (.chunk b) ∧ o = .scalar (.string (Base64.encode b))) ∨
      ∃ p, outcome = .error p := by
  rcases h.read with ⟨r, outer, hr, hread⟩ | hrefused
  · obtain ⟨b, rfl, ho⟩ := read_chunk hholds hread
    exact .inl ⟨b, hr, ho⟩
  · exact .inr hrefused

/-- What comes of several chunks in any text. -/
theorem ReadFrom.chunks (hholds : Holds .chunks "chunks" o whole)
    (h : ReadFrom text whole outcome) :
    (∃ bs finished, outcome = .ok (.chunks bs finished) ∧
      o = .array (bs.map fun b => .scalar (.string (Base64.encode b)))) ∨
      ∃ p, outcome = .error p := by
  rcases h.read with ⟨r, outer, hr, hread⟩ | hrefused
  · obtain ⟨bs, finished, rfl, ho⟩ := read_chunks hholds hread
    exact .inl ⟨bs, finished, hr, ho⟩
  · exact .inr hrefused

/-- **A chunk is decoded to certain bytes exactly if its text is theirs.** -/
theorem WrittenIn.chunk_iff {t : String} {b : Bytes}
    (h : WrittenIn .chunk [("data", .string t)] text outcome) :
    outcome = .ok (.chunk b) ↔ t = Base64.encode b := by
  constructor
  · rintro rfl
    obtain ⟨whole, hread, hholds⟩ := h.holds
    rcases hread.chunk (hholds ("data", .string t) List.mem_cons_self) with ⟨b', hb, ht⟩ | ⟨p, hp⟩
    · cases hb
      cases ht
      rfl
    · cases hp
  · rintro rfl
    exact WrittenIn.decodes (r := .chunk b) h

/-- A chunk whose text has a fault is refused. -/
theorem ReadFrom.chunk_refused {t : String} (hfaulty : Base64.Faulty t.toList)
    (hholds : Holds .chunk "data" (.scalar (.string t)) whole) (h : ReadFrom text whole outcome) :
    ∃ p, outcome = .error p := by
  rcases h.chunk hholds with ⟨b, -, ht⟩ | hrefused
  · cases ht
    exact absurd rfl (hfaulty.ne_encode b)
  · exact hrefused

/-- **Several chunks are decoded to certain byte strings exactly if their texts are those of
these**, as many and in this order. -/
theorem WrittenIn.chunks_iff {ts : List String} {bs : List Bytes} {finished : Bool}
    (h : WrittenIn .chunks [("chunks", .array (ts.map .string)), ("finished", .bool finished)]
      text outcome) :
    outcome = .ok (.chunks bs finished) ↔ ts = bs.map Base64.encode := by
  constructor
  · rintro rfl
    obtain ⟨whole, hread, hholds⟩ := h.holds
    rcases hread.chunks (hholds ("chunks", .array (ts.map .string)) List.mem_cons_self) with
      ⟨bs', finished', hbs, hts⟩ | ⟨p, hp⟩
    · cases hbs
      rw [Value.outline, Value.outlines_eq, List.map_map] at hts
      -- both arrays are of texts, and a text is what its outline says
      have hmaps : ts.map (Value.outline ∘ .string) =
          (bs.map Base64.encode).map (Value.outline ∘ .string) := by
        rw [List.map_map]
        exact Outline.array.inj hts
      refine (List.map_inj_right fun t t' heq => ?_).mp hmaps
      cases heq
      rfl
    · cases hp
  · rintro rfl
    rw [List.map_map] at h
    exact WrittenIn.decodes (r := .chunks bs finished) h

/-- Several chunks are refused if the text of one has a fault. -/
theorem ReadFrom.chunks_refused {os : List Outline} {t : String} (ht : .scalar (.string t) ∈ os)
    (hfaulty : Base64.Faulty t.toList) (hholds : Holds .chunks "chunks" (.array os) whole)
    (h : ReadFrom text whole outcome) : ∃ p, outcome = .error p := by
  rcases h.chunks hholds with ⟨bs, finished, -, hos⟩ | hrefused
  · rw [Outline.array.inj hos] at ht
    obtain ⟨b, -, hb⟩ := List.mem_map.mp ht
    cases hb
    exact absurd rfl (hfaulty.ne_encode b)
  · exact hrefused

end Response

/-- **Byte strings and the texts that carry them correspond one to one.** A text gives
certain bytes exactly if it is the encoder's text of these, and gives none exactly if its
length is wrong, padding is missing, misplaced or too much, a bit that no byte uses is not zero,
or a character, such as white space, is foreign to the alphabet. A chunk that the encoder writes
is one with the text of its bytes and comes back, and a chunk with any text is decoded to
certain bytes exactly if the text is theirs, wherever its members stand and whatever stands
between them, in an envelope or not. However a chunk is laid out, it is decoded to bytes whose
text is what stands there, or refused. The same holds of several chunks: the texts are those of
the byte strings, as many and in the same order, and one that has a fault makes the whole
message fail. -/
theorem payloads_one_to_one :
    -- byte strings and their texts
    (∀ t b, Base64.decode t = some b ↔ t = Base64.encode b) ∧
    (∀ t, Base64.decode t = none ↔ Base64.Faulty t.toList) ∧
    -- a chunk
    (∀ id b, Response.WrittenIn .chunk [("data", .string (Base64.encode b))]
      (ResponseEnvelope.encode ⟨id, .chunk b⟩) (.ok (.chunk b))) ∧
    (∀ t b text outcome, Response.WrittenIn .chunk [("data", .string t)] text outcome →
      (outcome = .ok (.chunk b) ↔ t = Base64.encode b)) ∧
    (∀ o whole text outcome, Response.Holds .chunk "data" o whole →
      Response.ReadFrom text whole outcome →
      (∃ b, outcome = .ok (.chunk b) ∧ o = .scalar (.string (Base64.encode b))) ∨
        ∃ p, outcome = .error p) ∧
    (∀ t whole text outcome, Base64.Faulty t.toList →
      Response.Holds .chunk "data" (.scalar (.string t)) whole →
      Response.ReadFrom text whole outcome → ∃ p, outcome = .error p) ∧
    -- several chunks
    (∀ id bs finished, Response.WrittenIn .chunks
      [("chunks", .array ((bs.map Base64.encode).map .string)), ("finished", .bool finished)]
      (ResponseEnvelope.encode ⟨id, .chunks bs finished⟩) (.ok (.chunks bs finished))) ∧
    (∀ ts bs finished text outcome, Response.WrittenIn .chunks
        [("chunks", .array (ts.map .string)), ("finished", .bool finished)] text outcome →
      (outcome = .ok (.chunks bs finished) ↔ ts = bs.map Base64.encode)) ∧
    (∀ o whole text outcome, Response.Holds .chunks "chunks" o whole →
      Response.ReadFrom text whole outcome →
      (∃ bs finished, outcome = .ok (.chunks bs finished) ∧
        o = .array (bs.map fun b => .scalar (.string (Base64.encode b)))) ∨
        ∃ p, outcome = .error p) ∧
    ∀ os t whole text outcome, .scalar (.string t) ∈ os → Base64.Faulty t.toList →
      Response.Holds .chunks "chunks" (.array os) whole →
      Response.ReadFrom text whole outcome → ∃ p, outcome = .error p := by
  refine ⟨fun t b => Base64.decode_eq_some_iff, fun t => Base64.decode_eq_none_iff,
    fun id b => .encode id (.chunk b), fun t b text outcome hwritten => hwritten.chunk_iff,
    fun o whole text outcome hholds hread => hread.chunk hholds,
    fun t whole text outcome hfaulty hholds hread => hread.chunk_refused hfaulty hholds, ?_,
    fun ts bs finished text outcome hwritten => hwritten.chunks_iff,
    fun o whole text outcome hholds hread => hread.chunks hholds,
    fun os t whole text outcome ht hfaulty hholds hread =>
      hread.chunks_refused ht hfaulty hholds⟩
  intro id bs finished
  rw [List.map_map]
  exact .encode id (.chunks bs finished)

/-- Two bytes leave two bits unused: with zeros there the text is theirs, with a one it is refused.
Of several texts each is read, or none. -/
theorem payloads_one_to_one_unusedBits :
    Response.decode (Value.object [("data", .string "AQI="), ("type", .string "chunk")]).compact =
      .ok (.chunk [1, 2]) ∧
    (∃ p, Response.decode (Value.object [("type", .string "chunk"),
      ("data", .string "AQJ=")]).indented = .error p) ∧
    Response.decode (Value.object [("type", .string "chunks"), ("finished", .bool true),
      ("chunks", .array [.string "AQ==", .string "Ag=="])]).compact =
      .ok (.chunks [[1], [2]] true) ∧
    ∃ p, Response.decode (Value.array [.string "chunks", .array [.string "AQ==", .string "Ag"],
      .bool false]).compact = .error p := by
  obtain ⟨-, -, -, chunk, -, chunkFaulty, -, chunks, -, chunksFaulty⟩ := payloads_one_to_one
  have harray : ∀ t t' n, (Value.array [.string t, .string t']).Fits (n + 1) := fun t t' n =>
    .array (by simp [Value.Fits.string])
  refine ⟨?_, ?_, ?_, ?_⟩
  · have htext := Json.spells_compact (n := 1) (v := .object [("data", .string "AQI="),
      ("type", .string "chunk")]) (.object (by simp [Value.Fits.string]))
    have hwritten : Response.WrittenIn .chunk [("data", .string "AQI=")] _ _ :=
      .alone ⟨[], List.reverse_perm _, by simp⟩ htext
    exact (chunk _ _ _ _ hwritten).mpr rfl
  · have htext := Json.spells_indented (n := 1) (v := .object [("type", .string "chunk"),
      ("data", .string "AQJ=")]) (.object (by simp [Value.Fits.string]))
    rw [← Value.tokens_outline] at htext
    have hbits : Base64.Faulty "AQJ=".toList :=
      .unused ['A', 'Q'] 1 (n := 9) (by decide) (by decide)
    refine chunkFaulty _ _ _ _ hbits (.object ?_ ?_) (.alone htext)
    · simp [Value.memberOutlines, Value.outline, ResponseKind.name]
    · simp [Value.memberOutlines, Value.outline]
  · have htext := Json.spells_compact (n := 2) (v := .object [("type", .string "chunks"),
      ("finished", .bool true), ("chunks", .array [.string "AQ==", .string "Ag=="])])
      (.object (by simp [Value.Fits.string, Value.Fits.bool, harray]))
    have hwritten : Response.WrittenIn .chunks [("chunks", .array (["AQ==", "Ag=="].map .string)),
        ("finished", .bool true)] _ _ := .alone ⟨[], .cons _ (.swap _ _ _), by simp⟩ htext
    exact (chunks _ _ _ _ _ hwritten).mpr rfl
  · have htext := Json.spells_compact (n := 2) (v := .array [.string "chunks",
      .array [.string "AQ==", .string "Ag"], .bool false])
      (.array (by simp [Value.Fits.string, Value.Fits.bool, harray]))
    rw [← Value.tokens_outline] at htext
    have hlength : Base64.Faulty "Ag".toList := .length (by decide)
    exact chunksFaulty _ _ _ _ _ (List.mem_cons_of_mem _ List.mem_cons_self) hlength
      (.array (i := 0) rfl rfl) (.alone htext)

end QueryBridge
