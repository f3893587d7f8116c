import QueryBridge.Message.Encode
import QueryBridge.Proofs.Base64
import QueryBridge.Proofs.Envelopes
import QueryBridge.Proofs.Json.Layout
import QueryBridge.Proofs.Json.Tagged

/-!
# Messages over the wire

Every message is read back from its text: each member from its value, a request
or a response from its members, an envelope from the number and the message in
it. So two messages never have the same text.

* `RequestEnvelope.decode_encode`, `ResponseEnvelope.decode_encode`: one message.
* `messages_round_trip`: what follows for texts that are written and read again
  and again.
-/

namespace QueryBridge

open Json (Value Token maxDepth)

/-! ## Values of members -/

theorem Handle.ofValue?_toValue {kind : HandleKind} (h : Handle kind) :
    Handle.ofValue? h.toValue = some h := by
  have hlow : (0 : Int) ≤ h.raw.toNat := Int.natCast_nonneg _
  have hhigh : (h.raw.toNat : Int) ≤ ((UInt32.size - 1 : Nat) : Int) := by
    have hlt := h.raw.toNat_lt
    exact_mod_cast Nat.le_pred_of_lt hlt
  have hnumber : natural? (UInt32.size - 1) h.toValue = some h.raw.toNat := by
    simp only [Handle.toValue, Value.ofNat, natural?, hlow, hhigh, and_self, if_true,
      Int.toNat_natCast]
  rw [Handle.ofValue?, hnumber, Option.map_some, UInt32.ofNat_toNat]

theorem ErrorCode.ofValue?_toValue (c : ErrorCode) : ErrorCode.ofValue? c.toValue = some c :=
  ErrorCode.ofName?_name c

/-- Byte strings are read back from an array of their texts. -/
theorem chunks?_encode (cs : List Bytes) :
    chunks? (.array (cs.map fun c => .string (Base64.encode c))) = some cs := by
  have hbytes : ∀ c, bytes? (.string (Base64.encode c)) = some c := Base64.decode_encode
  show (cs.map fun c => Value.string (Base64.encode c)).mapM bytes? = some cs
  induction cs with
  | nil => rfl
  | cons c cs ih =>
    rw [List.map_cons, List.mapM_cons, hbytes, ih]
    rfl

/-- A handle is a number that can be read back, wherever it stands. -/
theorem Handle.toValue_fits {kind : HandleKind} (h : Handle kind) (n : Nat) :
    h.toValue.Fits n := by
  have hlt := h.raw.toNat_lt
  exact Json.Value.fits_ofNat n (Nat.lt_trans hlt (by decide))

/-! ## Requests -/

namespace Request

/-- No member of a request nests. -/
theorem members_fit (r : Request) : ∀ m ∈ r.members, m.2.Fits 0 := by
  cases r with
  | openConnection url credentials =>
    cases credentials <;> simp [members, Value.Fits.string]
  | executeQuery s text => simp [members, Value.Fits.string, Handle.toValue_fits]
  | _ => simp [members, Handle.toValue_fits]

/-- No member of a request is taken for its name. -/
theorem members_named (r : Request) : ∀ m ∈ r.members, m.1 ≠ "type" := by
  cases r with
  | openConnection url credentials => cases credentials <;> simp [members]
  | _ => simp [members]

/-- A request is read back from its members. -/
theorem ofMembers?_members (r : Request) :
    (Shape.content? (shape r.kind) (.members r.members)).bind (ofMembers? r.kind) = some r := by
  cases r with
  | openConnection url credentials =>
    cases credentials <;>
      simp [Shape.content?, Shape.member?, shape, kind, members, ofMembers?, text?, optionalText?]
  | _ =>
    simp [Shape.content?, Shape.member?, shape, kind, members, ofMembers?, text?,
      Handle.ofValue?_toValue]

/-- **A request is read back from its tokens**, and no token behind them is taken. -/
theorem read_tokens {outer : Nat} (r : Request) (hdepth : outer + 1 ≤ maxDepth)
    (ts : List Token) : read outer (r.toValue.tokens ++ ts) = .ok (r, ts) := by
  have htagged := Json.tagged_tokens (RequestKind.ofName?_name r.kind) r.members_fit
    r.members_named hdepth ts
  rw [read, toValue, tagged, htagged]
  simp only [ofMembers?_members]

end Request

/-! ## Responses -/

namespace Response

/-- The members of a response nest no deeper than one array. -/
theorem members_fit (r : Response) : ∀ m ∈ r.members, m.2.Fits 1 := by
  cases r with
  | chunks cs finished =>
    have harray : (Value.array (cs.map fun c => .string (Base64.encode c))).Fits 1 := by
      refine .array fun v hv => ?_
      obtain ⟨c, -, rfl⟩ := List.mem_map.mp hv
      exact .string 0 _
    simp [members, harray, Value.Fits.bool]
  | _ =>
    simp [members, Value.Fits.string, Handle.toValue_fits, GlobalSessionId.toValue,
      ErrorCode.toValue]

/-- No member of a response is taken for its name. -/
theorem members_named (r : Response) : ∀ m ∈ r.members, m.1 ≠ "type" := by
  cases r <;> simp [members]

/-- A response is read back from its members. -/
theorem ofMembers?_members (r : Response) :
    (Shape.content? (shape r.kind) (.members r.members)).bind (ofMembers? r.kind) = some r := by
  cases r with
  | chunk data =>
    simp [Shape.content?, Shape.member?, shape, kind, members, ofMembers?, bytes?,
      Base64.decode_encode]
  | chunks cs finished =>
    simp [Shape.content?, Shape.member?, shape, kind, members, ofMembers?, flag?, chunks?_encode]
  | _ =>
    simp [Shape.content?, Shape.member?, shape, kind, members, ofMembers?, text?,
      GlobalSessionId.toValue, Handle.ofValue?_toValue, ErrorCode.ofValue?_toValue]

/-- **A response is read back from its tokens**, and no token behind them is taken. -/
theorem read_tokens {outer : Nat} (r : Response) (hdepth : outer + 2 ≤ maxDepth)
    (ts : List Token) : read outer (r.toValue.tokens ++ ts) = .ok (r, ts) := by
  have htagged := Json.tagged_tokens (ResponseKind.ofName?_name r.kind) r.members_fit
    r.members_named hdepth ts
  rw [read, toValue, tagged, htagged]
  simp only [ofMembers?_members]

end Response

/-! ## Envelopes -/

/-- **An envelope is read back from its tokens** if the message in it is. -/
theorem EnvelopeParts.read_tokens {α : Type} {bodyName : String}
    {readBody : Nat → List Token → Json.Read α} (hname : bodyName ≠ "id") (id : UInt64) {v : Value}
    {a : α} (hbody : ∀ ts, readBody 1 (v.tokens ++ ts) = .ok (a, ts)) :
    read bodyName readBody 0 (Value.object [("id", .ofNat id.toNat), (bodyName, v)]).tokens =
      .ok ((id, a), []) := by
  rw [← Value.tokens_outline]
  refine Json.read_outline (read_arranged hname (by decide) (fun ts => ?_) (.refl _ _))
  rw [Value.tokens_outline]
  exact hbody ts

/-- Both members of an envelope can be read back if the message in it can. -/
theorem envelope_fits {n : Nat} (id : UInt64) (bodyName : String) {v : Value} (hv : v.Fits n) :
    (Value.object [("id", .ofNat id.toNat), (bodyName, v)]).Fits (n + 1) := by
  have hid : (Value.ofNat id.toNat).Fits n := Json.Value.fits_ofNat n id.toNat_lt
  refine .object fun m hm => ?_
  rcases List.mem_cons.mp hm with rfl | hm
  · exact hid
  · obtain rfl := List.mem_singleton.mp hm
    exact hv

/-- What names a message nests no deeper than its members. -/
theorem tagged_fits {n : Nat} (name : String) {ms : List (String × Value)}
    (hms : ∀ m ∈ ms, m.2.Fits n) : (tagged name ms).Fits (n + 1) := by
  refine .object fun m hm => ?_
  rcases List.mem_cons.mp hm with rfl | hm
  · exact .string n name
  · exact hms m hm

/-- **The text of a request is read back.** -/
theorem RequestEnvelope.decode_encode (e : RequestEnvelope) : decode e.encode = .ok e := by
  have hfits : e.toValue.Fits 2 :=
    envelope_fits e.id "request" (tagged_fits _ e.request.members_fit)
  have hread := EnvelopeParts.read_tokens (by decide : "request" ≠ "id") e.id
    fun ts => e.request.read_tokens (show 1 + 1 ≤ maxDepth by decide) ts
  have hdecode := Json.decode_compact hfits hread
  rw [decode, encode, hdecode]
  rfl

/-- **The text of a response is read back.** -/
theorem ResponseEnvelope.decode_encode (e : ResponseEnvelope) : decode e.encode = .ok e := by
  have hfits : e.toValue.Fits 3 :=
    envelope_fits e.id "response" (tagged_fits _ e.response.members_fit)
  have hread := EnvelopeParts.read_tokens (by decide : "response" ≠ "id") e.id
    fun ts => e.response.read_tokens (show 1 + 2 ≤ maxDepth by decide) ts
  have hdecode := Json.decode_compact hfits hread
  rw [decode, encode, hdecode]
  rfl

/-! ## Texts that are read and written again -/

/-- The text that comes of reading a text and writing what was read, so many times over. -/
def recoded {α : Type} (decode : String → Except DecodeProblem α) (encode : α → String) :
    Nat → String → Except DecodeProblem String
  | 0, text => .ok text
  | n + 1, text =>
    match decode text with
    | .ok a => recoded decode encode n (encode a)
    | .error p => .error p

section

variable {α : Type} {decode : String → Except DecodeProblem α} {encode : α → String}

/-- Texts that are read back tell apart what they are the texts of. -/
theorem encode_injective (h : ∀ a, decode (encode a) = .ok a) : Function.Injective encode := by
  intro a a' heq
  have hread := h a
  rw [heq, h a'] at hread
  exact (Except.ok.inj hread).symm

/-- A text that is read back stays as it is, however often it is read and written. -/
theorem recoded_encode (h : ∀ a, decode (encode a) = .ok a) (n : Nat) (a : α) :
    recoded decode encode n (encode a) = .ok (encode a) := by
  induction n with
  | zero => rfl
  | succ n ih => rw [recoded, h a]; exact ih

end

/-- **Messages over the wire.** Every request and every response is read back
from its text as it was, so different messages have different texts, and
reading and writing a message any number of times changes nothing. -/
theorem messages_round_trip :
    (∀ e : RequestEnvelope, RequestEnvelope.decode e.encode = .ok e) ∧
    (∀ e : ResponseEnvelope, ResponseEnvelope.decode e.encode = .ok e) ∧
    Function.Injective RequestEnvelope.encode ∧
    Function.Injective ResponseEnvelope.encode ∧
    (∀ (n : Nat) (e : RequestEnvelope),
      recoded RequestEnvelope.decode RequestEnvelope.encode n e.encode = .ok e.encode) ∧
    ∀ (n : Nat) (e : ResponseEnvelope),
      recoded ResponseEnvelope.decode ResponseEnvelope.encode n e.encode = .ok e.encode :=
  ⟨RequestEnvelope.decode_encode, ResponseEnvelope.decode_encode,
    encode_injective RequestEnvelope.decode_encode,
    encode_injective ResponseEnvelope.decode_encode,
    recoded_encode RequestEnvelope.decode_encode,
    recoded_encode ResponseEnvelope.decode_encode⟩

end QueryBridge
