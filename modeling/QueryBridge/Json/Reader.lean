import QueryBridge.Json.Token

/-!
# Reading values off tokens

A reader takes tokens from the front and gives back the rest. The first
problem in reading order is the one reported.

Containers may nest 127 deep where values are kept; `outer` counts the
containers that are open around the value to be read. Values that are skipped
nest without limit.

* `value`: any value, read by a machine whose stack holds the unfinished containers.
* `record`: an object or array with known members.
* `tagged`: an object or array that a member or item names the shape of.
* `decode`: a whole text by a reader.
-/

namespace QueryBridge.Json

universe u v

/-- What a reader gives: a result and the tokens after it. -/
abbrev Read (α : Type u) := Except DecodeProblem (α × List Token)

/-- The deepest nesting of containers around a kept value. -/
def maxDepth : Nat := 127

/-- What is wrong with tokens that do not start a value of the awaited shape. -/
def unawaited : List Token → DecodeProblem
  | [] => .unexpectedEnd
  | .string _ :: _ | .number _ :: _ | .null :: _ | .bool _ :: _ => .mismatch
  | .openBrace :: _ | .openBracket :: _ => .mismatch
  | .broken _ kept _ :: _ => kept
  | _ => .malformed

/-! ## Values -/

/-- A container that is not yet closed. Items and members are held last to first. -/
inductive Frame
  | items (done : List Value)
  | members (done : List (String × Value))
  /-- An object whose member of the given name has no value yet. -/
  | member (done : List (String × Value)) (key : String)

/-- What may come next. -/
inductive Awaits
  | value
  /-- The first item of an array, or its end. -/
  | firstItem
  /-- A comma, or the end of the container. -/
  | next
  /-- The first name in an object, or its end. -/
  | firstKey
  | key
  | colon
deriving DecidableEq, Repr

/-- How the reading of a value stands after a token. -/
inductive Progress
  | done (v : Value)
  | going (stack : List Frame) (awaits : Awaits)

namespace Progress

/-- A complete value goes into the container it stands in, if there is one. -/
def deliver (v : Value) : List Frame → Progress
  | [] => done v
  | .items vs :: stack => going (.items (v :: vs) :: stack) .next
  | .member ms k :: stack => going (.members ((k, v) :: ms) :: stack) .next
  | .members ms :: stack => going (.members ms :: stack) .next

/-- A token where a value has to start. Where the value is skipped, depth and
content do not matter. -/
def enter (strict : Bool) (outer : Nat) (stack : List Frame) (t : Token) :
    Except DecodeProblem Progress :=
  let opened (p : Progress) :=
    if strict && decide (maxDepth ≤ outer + stack.length) then .error .malformed else .ok p
  match t with
  | .null => .ok (deliver .null stack)
  | .bool b => .ok (deliver (.bool b) stack)
  | .number n => .ok (deliver (.number n) stack)
  | .string s => .ok (deliver (.string s) stack)
  | .openBracket => opened (going (.items [] :: stack) .firstItem)
  | .openBrace => opened (going (.members [] :: stack) .firstKey)
  | .unusable _ => if strict then .error .malformed else .ok (deliver .null stack)
  | .broken _ kept skipped => .error (if strict then kept else skipped)
  | .closeBrace | .closeBracket | .colon | .comma => .error .malformed

/-- A token where a name has to stand. -/
def named (strict : Bool) (ms : List (String × Value)) (stack : List Frame) (t : Token) :
    Except DecodeProblem Progress :=
  match t with
  | .string k => .ok (going (.member ms k :: stack) .colon)
  | .unusable true =>
    if strict then .error .malformed else .ok (going (.member ms "" :: stack) .colon)
  | .broken true kept skipped => .error (if strict then kept else skipped)
  | _ => .error .malformed

/-- One token in the middle of a value. -/
def step (strict : Bool) (outer : Nat) (stack : List Frame) (awaits : Awaits) (t : Token) :
    Except DecodeProblem Progress :=
  match awaits, stack, t with
  | .value, _, _ => enter strict outer stack t
  | .firstItem, .items _ :: below, .closeBracket => .ok (deliver (.array []) below)
  | .firstItem, _, _ => enter strict outer stack t
  | .next, .items vs :: below, .closeBracket => .ok (deliver (.array vs.reverse) below)
  | .next, .items _ :: _, .comma => .ok (going stack .value)
  | .next, .members ms :: below, .closeBrace => .ok (deliver (.object ms.reverse) below)
  | .next, .members _ :: _, .comma => .ok (going stack .key)
  | .next, _, _ => .error .malformed
  | .firstKey, .members _ :: below, .closeBrace => .ok (deliver (.object []) below)
  | .firstKey, .members ms :: below, _ => named strict ms below t
  | .firstKey, _, _ => .error .malformed
  | .key, .members ms :: below, _ => named strict ms below t
  | .key, _, _ => .error .malformed
  | .colon, _, .colon => .ok (going stack .value)
  | .colon, _, _ => .error .malformed

end Progress

/-- Reads on until the value is complete. -/
def resume (strict : Bool) (outer : Nat) (stack : List Frame) (awaits : Awaits) :
    List Token → Read Value
  | [] => .error .unexpectedEnd
  | t :: ts =>
    match Progress.step strict outer stack awaits t with
    | .error p => .error p
    | .ok (.done v) => .ok (v, ts)
    | .ok (.going stack awaits) => resume strict outer stack awaits ts

/-- Any value, kept. -/
def value (outer : Nat) (ts : List Token) : Read Value := resume true outer [] .value ts

/-- The tokens after a value that nobody asked for. -/
def skip (ts : List Token) : Except DecodeProblem (List Token) :=
  (resume false 0 [] .value ts).map Prod.snd

/-! ## Plain shapes -/

/-- A string. -/
def text : List Token → Read String
  | .string s :: ts => .ok (s, ts)
  | ts => .error (unawaited ts)

/-- A whole number from zero to `limit`. -/
def natural (limit : Nat) : List Token → Read Nat
  | .number (.integer i) :: ts =>
    if 0 ≤ i ∧ i ≤ limit then .ok (i.toNat, ts) else .error .mismatch
  | ts => .error (unawaited ts)

/-- The rest of a list of strings. -/
def textsFrom (done : List String) : Awaits → List Token → Read (List String)
  | _, [] => .error .unexpectedEnd
  | .firstItem, .closeBracket :: ts => .ok (done.reverse, ts)
  | .next, .closeBracket :: ts => .ok (done.reverse, ts)
  | .next, .comma :: ts => textsFrom done .value ts
  | .next, _ :: _ => .error .malformed
  | _, .string s :: ts => textsFrom (s :: done) .next ts
  | _, ts => .error (unawaited ts)

/-- A list of strings. -/
def texts : List Token → Read (List String)
  | .openBracket :: ts => textsFrom [] .firstItem ts
  | ts => .error (unawaited ts)

/-- One of a set of words, alone or as the only name in an object with the value null. -/
def word {α : Type u} (ofName? : String → Option α) : List Token → Read α
  | .string s :: ts =>
    match ofName? s with
    | some a => .ok (a, ts)
    | none => .error .mismatch
  | .openBrace :: .string s :: ts =>
    match ofName? s, ts with
    | none, _ => .error .mismatch
    | some _, [] => .error .unexpectedEnd
    | some a, .colon :: .null :: .closeBrace :: ts => .ok (a, ts)
    | some _, .colon :: .null :: [] => .error .unexpectedEnd
    | some _, .colon :: .null :: _ => .error .malformed
    | some _, .colon :: ts => .error (unawaited ts)
    | some _, _ => .error .malformed
  | .openBrace :: ts => .error (unawaited ts)
  | [] => .error .unexpectedEnd
  | .broken true kept _ :: _ => .error kept
  | _ => .error .malformed

/-! ## Records -/

/-- A member that a record knows: it reads its value into what has been
gathered so far, of type `σ`. -/
structure Field (σ : Type u) where
  name : String
  /-- Whether the record has to have the member. -/
  required : Bool
  /-- Whether the member has been read. -/
  given : σ → Bool
  read : (outer : Nat) → σ → List Token → Read σ

variable {σ : Type u} {τ : Type v}

/-- The items of a record that is written as an array, in the order of its
fields. Fields that need not be there may be left off at the end. -/
def positional (outer : Nat) : (first : Bool) → List (Field σ) → σ → List Token → Read σ
  | _, [], s, ts =>
    match ts with
    | .closeBracket :: ts => .ok (s, ts)
    | [] => .error .unexpectedEnd
    | _ => .error .malformed
  | first, f :: fields, s, ts =>
    let item (ts : List Token) : Read σ :=
      match f.read outer s ts with
      | .ok (s, ts) => positional outer false fields s ts
      | .error p => .error p
    match ts, first with
    | [], _ => .error .unexpectedEnd
    -- the array ends early: the rest must be fields that may be missing
    | .closeBracket :: _, _ =>
      if f.required then .error .mismatch else positional outer first fields s ts
    | _, true => item ts
    | .comma :: [], false => .error .unexpectedEnd
    | .comma :: .closeBracket :: _, false => .error .malformed
    | .comma :: ts, false => item ts
    | _, false => .error .malformed

/-- The members of a record that is written as an object, in any order and
among others. No known member may occur twice. The first argument bounds the
number of members and is larger than that of the tokens. -/
def named (outer : Nat) (fields : List (Field σ)) :
    (bound : Nat) → (first : Bool) → σ → List Token → Read σ
  | 0, _, _, _ => .error .unexpectedEnd
  | bound + 1, first, s, ts =>
    let member (ts : List Token) : Read σ :=
      match ts with
      | [] => .error .unexpectedEnd
      | .string k :: ts =>
        let known := fields.find? (·.name = k)
        -- a second time is noticed at the name, before its value is read
        if (known.map (·.given s)).getD false then .error .mismatch
        else match ts with
          | [] => .error .unexpectedEnd
          | .colon :: ts =>
            let rest := match known with
              | some f => f.read outer s ts
              | none => (skip ts).map fun ts => (s, ts)
            match rest with
            | .ok (s, ts) => named outer fields bound false s ts
            | .error p => .error p
          | _ => .error .malformed
      | .broken true kept _ :: _ => .error kept
      | _ => .error .malformed
    match ts, first with
    | [], _ => .error .unexpectedEnd
    | .closeBrace :: ts, _ => .ok (s, ts)
    | _, true => member ts
    | .comma :: ts, false => member ts
    | _, false => .error .malformed

/-- A record, from an object or an array. Which of the required members an
object has is left to the caller. -/
def record (fields : List (Field σ)) (start : σ) (outer : Nat) (ts : List Token) : Read σ :=
  match ts with
  | .openBracket :: ts =>
    if maxDepth ≤ outer then .error .malformed else positional (outer + 1) true fields start ts
  | .openBrace :: ts =>
    if maxDepth ≤ outer then .error .malformed
    else named (outer + 1) fields (ts.length + 1) true start ts
  | ts => .error (unawaited ts)

/-! ## Tagged shapes -/

/-- What stands beside a tag: members by name, or items by position. -/
inductive Content
  | members (ms : List (String × Value))
  | items (vs : List Value)

/-- The tag itself. -/
def tag (ofName? : String → Option τ) (ts : List Token) : Read τ :=
  match ts with
  | .string s :: ts =>
    match ofName? s with
    | some t => .ok (t, ts)
    | none => .error .mismatch
  | ts => .error (unawaited ts)

/-- The members of a tagged object; the tag may stand anywhere, once. Members
are gathered last to first. -/
def taggedMembers (outer : Nat) (tagName : String) (ofName? : String → Option τ) :
    (bound : Nat) → (first : Bool) → Option τ → List (String × Value) → List Token →
      Read (τ × Content)
  | 0, _, _, _, _ => .error .unexpectedEnd
  | bound + 1, first, found, ms, ts =>
    let member (ts : List Token) : Read (τ × Content) :=
      match ts with
      | [] => .error .unexpectedEnd
      | .string k :: ts =>
        -- a second tag is noticed at the name, before its value is read
        if k = tagName && found.isSome then .error .mismatch
        else match ts with
          | [] => .error .unexpectedEnd
          | .colon :: ts =>
            if k = tagName then
              match tag ofName? ts with
              | .ok (t, ts) => taggedMembers outer tagName ofName? bound false (some t) ms ts
              | .error p => .error p
            else
              match value outer ts with
              | .ok (v, ts) =>
                taggedMembers outer tagName ofName? bound false found ((k, v) :: ms) ts
              | .error p => .error p
          | _ => .error .malformed
      | .broken true kept _ :: _ => .error kept
      | _ => .error .malformed
    match ts, first with
    | [], _ => .error .unexpectedEnd
    | .closeBrace :: ts, _ =>
      match found with
      | some t => .ok ((t, .members ms.reverse), ts)
      | none => .error .mismatch
    | _, true => member ts
    | .comma :: ts, false => member ts
    | _, false => .error .malformed

/-- A tagged shape: an object with the tag among its members, or an array with
the tag as its first item. -/
def tagged (tagName : String) (ofName? : String → Option τ) (outer : Nat) (ts : List Token) :
    Read (τ × Content) :=
  match ts with
  | .openBrace :: ts =>
    if maxDepth ≤ outer then .error .malformed
    else taggedMembers (outer + 1) tagName ofName? (ts.length + 1) true none [] ts
  | .openBracket :: ts =>
    if maxDepth ≤ outer then .error .malformed
    else match ts with
      | .closeBracket :: _ => .error .mismatch
      | ts =>
        match tag ofName? ts with
        | .error p => .error p
        | .ok (t, ts) =>
          match resume true outer [.items []] .next ts with
          | .ok (.array vs, ts) => .ok ((t, .items vs), ts)
          | .ok _ => .error .mismatch
          | .error p => .error p
  | ts => .error (unawaited ts)

/-! ## Whole texts -/

/-- Reads a whole text. Only space may follow the value. -/
def decode {α : Type u} (read : List Token → Read α) (text : String) : Except DecodeProblem α :=
  match read (tokens text) with
  | .ok (a, []) => .ok a
  | .ok (_, _ :: _) => .error .malformed
  | .error p => .error p

/-- The value that a whole text holds. -/
def parse (text : String) : Except DecodeProblem Value := decode (value 0) text

end QueryBridge.Json
