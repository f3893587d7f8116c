import QueryBridge.Proofs.RoundTrip

/-!
# Messages by the names of their members

A message is found in every object that has its tag and its members, wherever
they stand and whatever else stands between them. A member that is missing or
stands twice is never made up for.

* `Shape.read_arranged`, `Shape.read_faulty`: requests and responses.
* `messages_by_name`: the texts of all of them.
-/

namespace QueryBridge

open Json (Value Content Token Read Outline Spells TakesWhole Gathers Apart Among occurs maxDepth)

/-! ## Members by name -/

namespace Shape

variable {κ ρ : Type} {shape : List Member} {m : Member} {vs vs' own extra : List (String × Value)}

/-- Members of the name `m` as they are counted. -/
theorem length_filter_name (vs : List (String × Value)) (k : String) :
    (vs.filter (·.1 = k)).length = (vs.map Prod.fst).count k := by
  induction vs with
  | nil => rfl
  | cons x vs ih =>
    by_cases h : x.1 = k <;> simp [h, ih]

/-- The order of the members does not matter. -/
theorem member?_perm (h : vs.Perm vs') (m : Member) : member? vs m = member? vs' m := by
  have hfilter := h.filter (·.1 = m.name)
  rw [member?, member?]
  generalize vs.filter (·.1 = m.name) = l at hfilter ⊢
  generalize vs'.filter (·.1 = m.name) = l' at hfilter ⊢
  rcases l with _ | ⟨x, _ | ⟨y, rest⟩⟩
  · rw [← hfilter.nil_eq]
  · rw [List.perm_singleton.mp hfilter.symm]
  · -- of two or more there are as many in any order
    have hlength := hfilter.length_eq
    rcases l' with _ | ⟨x', _ | ⟨y', rest'⟩⟩
    · simp at hlength
    · simp at hlength
    · rfl

/-- Members of other names do not count. -/
theorem member?_append (hextra : ∀ x ∈ extra, x.1 ≠ m.name) :
    member? (own ++ extra) m = member? own m := by
  have hnone : extra.filter (·.1 = m.name) = [] := by
    refine List.filter_eq_nil_iff.mpr fun x hx => ?_
    simpa using hextra x hx
  rw [member?, member?, List.filter_append, hnone, List.append_nil]

theorem content?_congr (h : ∀ m ∈ shape, member? vs m = member? vs' m) :
    content? shape (.members vs) = content? shape (.members vs') := by
  rw [content?, content?]
  induction shape with
  | nil => rfl
  | cons m shape ih =>
    rw [List.mapM_cons, List.mapM_cons, h m List.mem_cons_self,
      ih fun m hm => h m (List.mem_cons_of_mem _ hm)]

theorem content?_none (hm : m ∈ shape) (h : member? vs m = none) :
    content? shape (.members vs) = none := by
  rw [content?]
  induction shape with
  | nil => cases hm
  | cons x shape ih =>
    rcases List.mem_cons.mp hm with rfl | hm
    · rw [List.mapM_cons, h]
      rfl
    · rw [List.mapM_cons, ih hm]
      cases member? vs x <;> rfl

/-- A member that has to be there or stands twice is a fault. -/
theorem member?_none (h : m.required = true ∧ (vs.map Prod.fst).count m.name = 0 ∨
      2 ≤ (vs.map Prod.fst).count m.name) :
    member? vs m = none := by
  rw [← length_filter_name] at h
  rw [member?]
  generalize vs.filter (·.1 = m.name) = l at h ⊢
  rcases l with _ | ⟨x, _ | ⟨y, rest⟩⟩
  · have hrequired : m.required = true := by simpa using h
    rw [hrequired]
    rfl
  · simp at h
  · rfl

/-! ## Requests and responses -/

/-- What a request and a response are read by: the tag names the kind, and the
kind has a shape. -/
def read (ofName? : String → Option κ) (shape : κ → List Member)
    (ofMembers? : κ → List (Option Value) → Option ρ) (outer : Nat) (ts : List Token) : Read ρ :=
  match Json.tagged "type" ofName? outer ts with
  | .error p => .error p
  | .ok ((kind, content), ts) =>
    match (content? (shape kind) content).bind (ofMembers? kind) with
    | some r => .ok (r, ts)
    | none => .error .mismatch

/-- **The members of a message in an object**: its tag, its own members and others
that its shape does not know, in any order. The others nest no deeper than so
many containers. -/
def Arranged (shape : List Member) (name : String) (own : List (String × Value)) (n : Nat)
    (all : List (String × Value)) : Prop :=
  ∃ extra, all.Perm (("type", .string name) :: (own ++ extra)) ∧
    ∀ x ∈ extra, x.1 ≠ "type" ∧ (∀ m ∈ shape, x.1 ≠ m.name) ∧ x.2.Fits n

/-- **An object that is no message**: its tag is missing or stands twice, or a
member does that the tag's kind knows and has to have, or has once only. -/
def Faulty (name : κ → String) (shape : κ → List Member) (ms : List (Option String × Outline)) :
    Prop :=
  occurs "type" ms ≠ 1 ∨ ∃ kind, (some "type", .scalar (.string (name kind))) ∈ ms ∧
    ∃ m ∈ shape kind, m.required = true ∧ occurs m.name ms = 0 ∨ 2 ≤ occurs m.name ms

variable {ofName? : String → Option κ} {name : κ → String} {shapes : κ → List Member}
  {ofMembers? : κ → List (Option Value) → Option ρ} {kind : κ} {r : ρ} {outer n : Nat}
  {all : List (String × Value)} {ms : List (Option String × Outline)}

/-- **A message is read from its members**, wherever they stand. -/
theorem read_arranged (hname : ofName? (name kind) = some kind)
    (hown : (content? (shapes kind) (.members own)).bind (ofMembers? kind) = some r)
    (hfits : ∀ x ∈ own, x.1 ≠ "type" ∧ x.2.Fits n) (hdepth : outer + 1 + n ≤ maxDepth)
    (hall : Arranged (shapes kind) (name kind) own n all) (ts : List Token) :
    read ofName? shapes ofMembers? outer ((Value.object all).tokens ++ ts) = .ok (r, ts) := by
  obtain ⟨extra, hperm, hextra⟩ := hall
  have hothers : ∀ x ∈ own ++ extra, x.1 ≠ "type" ∧ x.2.Fits n := by
    intro x hx
    rcases List.mem_append.mp hx with hx | hx
    · exact hfits x hx
    · exact ⟨(hextra x hx).1, (hextra x hx).2.2⟩
  obtain ⟨vs, hvs, htagged⟩ := Json.tagged_of_perm hname hperm hothers hdepth
  have hcontent : content? (shapes kind) (.members vs) = content? (shapes kind) (.members own) :=
    content?_congr fun m hm =>
      (member?_perm hvs m).trans (member?_append fun x hx => (hextra x hx).2.1 m hm)
  have hobject := Json.tagged_object htagged (by omega) ts
  rw [← Value.outline, Value.tokens_outline] at hobject
  rw [read, hobject]
  simp only [hcontent, hown]

/-- **An object with a fault is refused.** -/
theorem read_faulty (hname : ∀ kind, ofName? (name kind) = some kind)
    (hshapes : ∀ kind, ∀ m ∈ shapes kind, m.name ≠ "type")
    (hfaulty : Faulty name shapes ms) (outer : Nat) (ts : List Token) :
    ∃ p, read ofName? shapes ofMembers? outer ((Outline.object ms).tokens ++ ts) = .error p := by
  rcases Json.tagged_object_or_refused "type" ofName? outer ms with ⟨hdepth, t, vs, h⟩ | hrefused
  · have honce : occurs "type" ms = 1 := h.occurs_tag
    rcases hfaulty with htag | ⟨kind, hkind, m, hm, hcount⟩
    · exact absurd honce htag
    · have ht : t = kind := by
        obtain ⟨_, heq, hnamed⟩ := h.names hkind
        cases heq
        exact Option.some.inj (hnamed.symm.trans (hname kind))
      subst ht
      have hnone : member? vs m = none := member?_none (by rwa [h.counts (hshapes t m hm)])
      refine ⟨.mismatch, ?_⟩
      rw [read, Json.tagged_object h hdepth]
      simp only [content?_none hm hnone, Option.bind_none]
  · obtain ⟨p, hp⟩ := hrefused ts
    refine ⟨p, ?_⟩
    rw [read, hp]

/-- What stands in the place of a message is taken as a whole, or not at all. -/
theorem read_whole (ofName? : String → Option κ) (shapes : κ → List Member)
    (ofMembers? : κ → List (Option Value) → Option ρ) (outer : Nat) (o : Outline) :
    TakesWhole (read ofName? shapes ofMembers? outer) o := by
  rcases Json.tagged_whole "type" ofName? outer o with ⟨⟨kind, content⟩, ha⟩ | hrefused
  · cases h : (content? (shapes kind) content).bind (ofMembers? kind) with
    | some r =>
      refine .inl ⟨r, fun ts => ?_⟩
      rw [read, ha]
      simp only [h]
    | none =>
      refine .inr fun ts => ⟨.mismatch, ?_⟩
      rw [read, ha]
      simp only [h]
  · refine .inr fun ts => ?_
    obtain ⟨p, hp⟩ := hrefused ts
    refine ⟨p, ?_⟩
    rw [read, hp]

end Shape

theorem Request.read_eq :
    Request.read = Shape.read RequestKind.ofName? Request.shape Request.ofMembers? := by
  funext outer ts
  rw [Request.read, Shape.read]
  rcases Json.tagged "type" RequestKind.ofName? outer ts with p | ⟨⟨kind, content⟩, ts⟩
  · rfl
  · cases h : (Shape.content? (shape kind) content).bind (ofMembers? kind) <;> simp only [h]

theorem Response.read_eq :
    Response.read = Shape.read ResponseKind.ofName? Response.shape Response.ofMembers? := by
  funext outer ts
  rw [Response.read, Shape.read]
  rcases Json.tagged "type" ResponseKind.ofName? outer ts with p | ⟨⟨kind, content⟩, ts⟩
  · rfl
  · cases h : (Shape.content? (shape kind) content).bind (ofMembers? kind) <;> simp only [h]

/-! ## Requests -/

namespace Request

/-- **The members that a request may be written with** besides its tag: credentials
that are absent may be null. -/
inductive WrittenAs : Request → List (String × Value) → Prop
  | members (r : Request) : WrittenAs r r.members
  | nullCredentials (url : String) :
    WrittenAs (openConnection url none) [("url", .string url), ("credentials", .null)]

variable {r : Request} {own all : List (String × Value)} {ms : List (Option String × Outline)}
  {outer n : Nat} {text : String}

theorem WrittenAs.ofMembers? (h : r.WrittenAs own) :
    (Shape.content? (shape r.kind) (.members own)).bind (Request.ofMembers? r.kind) = some r := by
  cases h with
  | members => exact ofMembers?_members r
  | nullCredentials url =>
    simp [Shape.content?, Shape.member?, shape, kind, Request.ofMembers?, text?, optionalText?]

theorem WrittenAs.fits (h : r.WrittenAs own) (n : Nat) :
    ∀ x ∈ own, x.1 ≠ "type" ∧ x.2.Fits n := by
  cases h with
  | members =>
    exact fun x hx => ⟨members_named r x hx, (members_fit r x hx).mono (Nat.zero_le n)⟩
  | nullCredentials url => simp [Value.Fits.string, Value.Fits.null]

theorem shape_named (kind : RequestKind) : ∀ m ∈ shape kind, m.name ≠ "type" := by
  cases kind <;> decide

/-- **A request is read from its members**, wherever they stand. -/
theorem read_arranged (hown : r.WrittenAs own) (hdepth : outer + 1 + n ≤ maxDepth)
    (hall : Shape.Arranged (shape r.kind) r.kind.name own n all) (ts : List Token) :
    read outer ((Value.object all).tokens ++ ts) = .ok (r, ts) := by
  rw [read_eq]
  exact Shape.read_arranged (RequestKind.ofName?_name r.kind) hown.ofMembers? (hown.fits n) hdepth
    hall ts

theorem read_faulty (hfaulty : Shape.Faulty RequestKind.name shape ms) (outer : Nat)
    (ts : List Token) : ∃ p, read outer ((Outline.object ms).tokens ++ ts) = .error p := by
  rw [read_eq]
  exact Shape.read_faulty RequestKind.ofName?_name shape_named hfaulty outer ts

theorem read_whole (outer : Nat) (o : Outline) : TakesWhole (read outer) o := by
  rw [read_eq]
  exact Shape.read_whole _ _ _ outer o

end Request

/-! ## Responses -/

namespace Response

variable {r : Response} {all : List (String × Value)} {ms : List (Option String × Outline)}
  {outer n : Nat}

theorem shape_named (kind : ResponseKind) : ∀ m ∈ shape kind, m.name ≠ "type" := by
  cases kind <;> decide

/-- **A response is read from its members**, wherever they stand. -/
theorem read_arranged (hn : 1 ≤ n) (hdepth : outer + 1 + n ≤ maxDepth)
    (hall : Shape.Arranged (shape r.kind) r.kind.name r.members n all) (ts : List Token) :
    read outer ((Value.object all).tokens ++ ts) = .ok (r, ts) := by
  have hfits : ∀ x ∈ r.members, x.1 ≠ "type" ∧ x.2.Fits n := fun x hx =>
    ⟨members_named r x hx, (members_fit r x hx).mono hn⟩
  rw [read_eq]
  exact Shape.read_arranged (ResponseKind.ofName?_name r.kind) (ofMembers?_members r) hfits hdepth
    hall ts

theorem read_faulty (hfaulty : Shape.Faulty ResponseKind.name shape ms) (outer : Nat)
    (ts : List Token) : ∃ p, read outer ((Outline.object ms).tokens ++ ts) = .error p := by
  rw [read_eq]
  exact Shape.read_faulty ResponseKind.ofName?_name shape_named hfaulty outer ts

theorem read_whole (outer : Nat) (o : Outline) : TakesWhole (read outer) o := by
  rw [read_eq]
  exact Shape.read_whole _ _ _ outer o

end Response

/-! ## Texts -/

section

variable {all : List (String × Value)} {text : String}

theorem Request.decode_arranged {r : Request} {own : List (String × Value)} (hown : r.WrittenAs own)
    (hall : Shape.Arranged (shape r.kind) r.kind.name own (maxDepth - 1) all)
    (htext : Spells (Value.object all).tokens text.toList) : decode text = .ok r := by
  rw [← Value.tokens_outline] at htext
  refine Json.decode_spelled htext (Json.read_outline fun ts => ?_)
  rw [Value.tokens_outline]
  exact read_arranged hown (by decide) hall ts

theorem Response.decode_arranged {r : Response}
    (hall : Shape.Arranged (shape r.kind) r.kind.name r.members (maxDepth - 1) all)
    (htext : Spells (Value.object all).tokens text.toList) : decode text = .ok r := by
  rw [← Value.tokens_outline] at htext
  refine Json.decode_spelled htext (Json.read_outline fun ts => ?_)
  rw [Value.tokens_outline]
  exact read_arranged (by decide) (by decide) hall ts

theorem RequestEnvelope.decode_arranged {e : RequestEnvelope} {own body : List (String × Value)}
    {all : List (Option String × Outline)} (hown : e.request.WrittenAs own)
    (hbody : Shape.Arranged (Request.shape e.request.kind) e.request.kind.name own (maxDepth - 2)
      body)
    (hall : EnvelopeParts.Arranged "request" e.id (Value.object body).outline all)
    (htext : Spells (Outline.object all).tokens text.toList) : decode text = .ok e := by
  have hread : ∀ ts, Request.read 1 ((Value.object body).outline.tokens ++ ts) =
      .ok (e.request, ts) := by
    intro ts
    rw [Value.tokens_outline]
    exact Request.read_arranged hown (by decide) hbody ts
  rw [decode, EnvelopeParts.decode_arranged (by decide) hread hall htext]
  rfl

theorem ResponseEnvelope.decode_arranged {e : ResponseEnvelope} {body : List (String × Value)}
    {all : List (Option String × Outline)}
    (hbody : Shape.Arranged (Response.shape e.response.kind) e.response.kind.name
      e.response.members (maxDepth - 2) body)
    (hall : EnvelopeParts.Arranged "response" e.id (Value.object body).outline all)
    (htext : Spells (Outline.object all).tokens text.toList) : decode text = .ok e := by
  have hread : ∀ ts, Response.read 1 ((Value.object body).outline.tokens ++ ts) =
      .ok (e.response, ts) := by
    intro ts
    rw [Value.tokens_outline]
    exact Response.read_arranged (by decide) (by decide) hbody ts
  rw [decode, EnvelopeParts.decode_arranged (by decide) hread hall htext]
  rfl

theorem RequestEnvelope.decode_faulty {ms : List (Option String × Outline)}
    (hfaulty : EnvelopeParts.Faulty "request" (Shape.Faulty RequestKind.name Request.shape) ms)
    (htext : Spells (Outline.object ms).tokens text.toList) : ∃ p, decode text = .error p := by
  obtain ⟨p, hp⟩ := EnvelopeParts.decode_faulty (by decide) (Request.read_whole 1)
    (fun body h => Request.read_faulty h 1) hfaulty htext
  exact ⟨p, by rw [decode, hp]; rfl⟩

theorem ResponseEnvelope.decode_faulty {ms : List (Option String × Outline)}
    (hfaulty : EnvelopeParts.Faulty "response" (Shape.Faulty ResponseKind.name Response.shape) ms)
    (htext : Spells (Outline.object ms).tokens text.toList) : ∃ p, decode text = .error p := by
  obtain ⟨p, hp⟩ := EnvelopeParts.decode_faulty (by decide) (Response.read_whole 1)
    (fun body h => Response.read_faulty h 1) hfaulty htext
  exact ⟨p, by rw [decode, hp]; rfl⟩

end

/-- **Messages are decoded by the names of their members.** Wherever the tag and
the members of a request or a response stand in an object, and whatever else
stands between them, its texts are decoded to it, with any space around tokens;
so are those of an envelope around it. If the tag, a member that has to be there
or a part of the envelope is missing, or if one that is known stands twice, no
text is decoded. -/
theorem messages_by_name :
    -- a message alone
    (∀ (r : Request) own all text, r.WrittenAs own →
      Shape.Arranged (Request.shape r.kind) r.kind.name own (maxDepth - 1) all →
      Spells (Value.object all).tokens text.toList → Request.decode text = .ok r) ∧
    (∀ (r : Response) all text,
      Shape.Arranged (Response.shape r.kind) r.kind.name r.members (maxDepth - 1) all →
      Spells (Value.object all).tokens text.toList → Response.decode text = .ok r) ∧
    (∀ ms text, Shape.Faulty RequestKind.name Request.shape ms →
      Spells (Outline.object ms).tokens text.toList → ∃ p, Request.decode text = .error p) ∧
    (∀ ms text, Shape.Faulty ResponseKind.name Response.shape ms →
      Spells (Outline.object ms).tokens text.toList → ∃ p, Response.decode text = .error p) ∧
    -- a message in its envelope
    (∀ (e : RequestEnvelope) own body all text, e.request.WrittenAs own →
      Shape.Arranged (Request.shape e.request.kind) e.request.kind.name own (maxDepth - 2) body →
      EnvelopeParts.Arranged "request" e.id (Value.object body).outline all →
      Spells (Outline.object all).tokens text.toList → RequestEnvelope.decode text = .ok e) ∧
    (∀ (e : ResponseEnvelope) body all text,
      Shape.Arranged (Response.shape e.response.kind) e.response.kind.name e.response.members
        (maxDepth - 2) body →
      EnvelopeParts.Arranged "response" e.id (Value.object body).outline all →
      Spells (Outline.object all).tokens text.toList → ResponseEnvelope.decode text = .ok e) ∧
    (∀ ms text, EnvelopeParts.Faulty "request" (Shape.Faulty RequestKind.name Request.shape) ms →
      Spells (Outline.object ms).tokens text.toList →
      ∃ p, RequestEnvelope.decode text = .error p) ∧
    ∀ ms text, EnvelopeParts.Faulty "response" (Shape.Faulty ResponseKind.name Response.shape) ms →
      Spells (Outline.object ms).tokens text.toList →
      ∃ p, ResponseEnvelope.decode text = .error p := by
  refine ⟨?_, ?_, ?_, ?_, ?_, ?_, ?_, ?_⟩
  · intro r own all text hown hall htext
    exact Request.decode_arranged hown hall htext
  · intro r all text hall htext
    exact Response.decode_arranged hall htext
  · intro ms text hfaulty htext
    exact Json.decode_refused htext (Json.refuse_outline (Request.read_faulty hfaulty 0))
  · intro ms text hfaulty htext
    exact Json.decode_refused htext (Json.refuse_outline (Response.read_faulty hfaulty 0))
  · intro e own body all text hown hbody hall htext
    exact RequestEnvelope.decode_arranged hown hbody hall htext
  · intro e body all text hbody hall htext
    exact ResponseEnvelope.decode_arranged hbody hall htext
  · intro ms text hfaulty htext
    exact RequestEnvelope.decode_faulty hfaulty htext
  · intro ms text hfaulty htext
    exact ResponseEnvelope.decode_faulty hfaulty htext

/-- The tag may stand last, and credentials may be null; a code must be there, and
the number of an envelope must not be told twice. -/
theorem messages_by_name_reordered :
    RequestEnvelope.decode (Value.object [("note", .array [.null]), ("request", .object
        [("reader", .null), ("session", .ofNat 1), ("type", .string "close_session")]),
        ("id", .ofNat 7)]).indented = .ok ⟨7, .closeSession ⟨1⟩⟩ ∧
    Request.decode (Value.object [("credentials", .null), ("url", .string "u"),
        ("type", .string "open_connection")]).compact = .ok (.openConnection "u" none) ∧
    (∃ p, Response.decode (Value.object [("message", .string "m"),
        ("type", .string "error")]).compact = .error p) ∧
    ∃ p, RequestEnvelope.decode (Value.object [("id", .ofNat 7), ("id", .ofNat 7),
        ("request", .object [("type", .string "close_session"),
          ("session", .ofNat 1)])]).indented = .error p := by
  obtain ⟨request, -, -, responseFaulty, envelope, -, envelopeFaulty, -⟩ := messages_by_name
  have hone : ∀ n, (Value.ofNat 1).Fits n := fun n => Json.Value.fits_ofNat n (by decide)
  have hseven : ∀ n, (Value.ofNat 7).Fits n := fun n => Json.Value.fits_ofNat n (by decide)
  refine ⟨?_, ?_, ?_, ?_⟩
  · have hbody : (Value.object [("reader", .null), ("session", .ofNat 1),
        ("type", .string "close_session")]).Fits 1 :=
      .object (by simp [Value.Fits.null, hone, Value.Fits.string])
    have hnote : (Value.array [.null]).Fits 1 := .array (by simp [Value.Fits.null])
    have htext := Json.spells_indented (n := 2) (v := .object [("note", .array [.null]),
      ("request", .object [("reader", .null), ("session", .ofNat 1),
        ("type", .string "close_session")]), ("id", .ofNat 7)])
      (.object (by simp [hbody, hnote, hseven]))
    rw [← Value.tokens_outline] at htext
    refine envelope _ _ _ _ _ (.members _) ⟨[("reader", .null)], List.reverse_perm _, ?_⟩
      ⟨[(some "note", (Value.array [.null]).outline)], List.reverse_perm _, ?_⟩ htext
    · simp [Value.Fits.null, Request.shape, Request.kind]
    · simp
  · have htext := Json.spells_compact (n := 1) (v := .object [("credentials", .null),
      ("url", .string "u"), ("type", .string "open_connection")])
      (.object (by simp [Value.Fits.null, Value.Fits.string]))
    exact request _ _ _ _ (.nullCredentials "u") ⟨[], List.reverse_perm _, by simp⟩ htext
  · have htext := Json.spells_compact (n := 1) (v := .object [("message", .string "m"),
      ("type", .string "error")]) (.object (by simp [Value.Fits.string]))
    rw [← Value.tokens_outline] at htext
    refine responseFaulty _ _ (.inr ⟨.error, ?_, ⟨"code", true⟩, ?_, .inl ⟨rfl, ?_⟩⟩) htext
    · simp [Value.memberOutlines, Value.outline, ResponseKind.name]
    · simp [Response.shape]
    · simp [occurs, Value.memberOutlines]
  · have hbody : (Value.object [("type", .string "close_session"), ("session", .ofNat 1)]).Fits 1 :=
      .object (by simp [hone, Value.Fits.string])
    have htext := Json.spells_indented (n := 2) (v := .object [("id", .ofNat 7), ("id", .ofNat 7),
      ("request", .object [("type", .string "close_session"), ("session", .ofNat 1)])])
      (.object (by simp [hbody, hseven]))
    rw [← Value.tokens_outline] at htext
    refine envelopeFaulty _ _ (.inl ?_) htext
    simp [occurs, Value.memberOutlines]

end QueryBridge
