import Mathlib
import QueryBridge.History
import QueryBridge.Proofs.Files
import QueryBridge.Proofs.Json.Layout
import QueryBridge.Proofs.Json.Members

/-!
# What a history keeps

Every append reads the file, compares the command with the newest entry, cuts
the entries and writes them back. The entries that are loaded after any number
of appends are told without these steps: the entries at the start, then what
was new among the commands, cut once.

* `HistoryFile.decode_indented`: what is written to a history file is read back.
* `FileHistory.read_append`: what one append leaves in the file.
* `history_closed_form`: what any number of appends leave.
-/

namespace QueryBridge

open Json (Value Token Read Gathers)

/-! ## The file -/

namespace HistoryFile

/-- The rest of a list of strings is taken as a whole. -/
theorem textsFrom_tokens (es done : List String) (ts : List Token) :
    Json.textsFrom done .next (Value.itemTokens false (es.map .string) ++ .closeBracket :: ts) =
      .ok (done.reverse ++ es, ts) := by
  induction es generalizing done with
  | nil => simp [Value.itemTokens, Json.textsFrom]
  | cons e es ih =>
    have hrest := ih (e :: done)
    rw [List.reverse_cons, List.append_assoc] at hrest
    simpa [Value.itemTokens, Value.tokens, Json.textsFrom] using hrest

/-- A list of strings is read as it was written. -/
theorem texts_tokens (es : List String) (ts : List Token) :
    Json.texts ((Value.array (es.map .string)).tokens ++ ts) = .ok (es, ts) := by
  cases es with
  | nil => rfl
  | cons e es =>
    have hrest := textsFrom_tokens es [e] ts
    simpa [Value.itemTokens, Value.tokens, Json.texts, Json.textsFrom] using hrest

theorem read_tokens (f : HistoryFile) : read 0 f.toValue.tokens = .ok (f, []) := by
  obtain ⟨es⟩ := f
  have hentries : ∀ ts, (Json.texts ((Value.array (es.map .string)).outline.tokens ++ ts)).map
      (fun q => (some q.1, q.2)) = .ok (some es, ts) := by
    intro ts
    rw [Value.tokens_outline, texts_tokens]
    rfl
  have hgathers : Gathers fields 1 none
      [(some "entries", (Value.array (es.map .string)).outline)] (some es) :=
    .known rfl rfl (fun _ ts => hentries ts) (.nil _)
  have hrecord : Json.record fields none 0 ((toValue ⟨es⟩).outline.tokens ++ []) =
      .ok (some es, []) := Json.record_gathers hgathers (by decide) []
  rw [List.append_nil, Value.tokens_outline] at hrecord
  rw [read, hrecord]
  rfl

/-- **What is written to a history file is read back.** -/
theorem decode_indented (f : HistoryFile) : decode f.toValue.indented = .ok f := by
  have hfits : f.toValue.Fits 2 := by
    refine .object fun m hm => ?_
    obtain rfl := List.mem_singleton.mp hm
    refine .array fun v hv => ?_
    obtain ⟨e, -, rfl⟩ := List.mem_map.mp hv
    exact .string 0 e
  exact Json.decode_indented hfits f.read_tokens

end HistoryFile

/-! ## What is new -/

/-- What is new among commands that come after others: each without the blanks
at its end, unless it is blank or repeats the one before it. -/
def news (before : List String) : List String → List String
  | [] => []
  | text :: texts =>
    let entry := Text.trimEnd text
    if entry = "" ∨ before.getLast? = some entry then news before texts
    else entry :: news (before ++ [entry]) texts

/-- The entries of a history after commands: those before if nothing is new,
else the newest of all, as many as the limit says. Zero sets no limit. -/
def entriesAfter (limit : Nat) (before texts : List String) : List String :=
  let new := news before texts
  if new = [] then before
  else if limit = 0 then before ++ new
  else (before ++ new).rtake limit

/-- A blank command or a repeat is not new. -/
theorem news_of_old {before : List String} {text : String}
    (h : Text.trimEnd text = "" ∨ before.getLast? = some (Text.trimEnd text))
    (texts : List String) : news before (text :: texts) = news before texts := if_pos h

/-- Any other command is, and what comes next is compared with it. -/
theorem news_of_new {before : List String} {text : String}
    (h : ¬ (Text.trimEnd text = "" ∨ before.getLast? = some (Text.trimEnd text)))
    (texts : List String) : news before (text :: texts) =
      Text.trimEnd text :: news (before ++ [Text.trimEnd text]) texts := if_neg h

/-- Only the newest entry decides what is new. -/
theorem news_congr {es es' : List String} (h : es.getLast? = es'.getLast?) (texts : List String) :
    news es texts = news es' texts := by
  induction texts generalizing es es' with
  | nil => rfl
  | cons text texts ih =>
    have hrest : news (es ++ [Text.trimEnd text]) texts = news (es' ++ [Text.trimEnd text]) texts :=
      ih (by rw [List.getLast?_concat, List.getLast?_concat])
    simp only [news, h, ih h, hrest]

namespace FileHistory

variable {limit : Nat} {before : List String} {text : String}

/-- Entries that will be cut may be cut before more come. -/
theorem trim_append (es new : List String) :
    trim limit (trim limit es ++ new) = trim limit (es ++ new) := by
  unfold trim
  split
  · rfl
  · show ((es.rtake limit) ++ new).rtake limit = (es ++ new).rtake limit
    simp only [List.rtake_eq_reverse_take_reverse, List.reverse_append, List.reverse_reverse,
      List.take_append, List.take_take]
    congr 3
    omega

/-- The newest entry is never cut. -/
theorem getLast?_trim (es : List String) (entry : String) :
    (trim limit (es ++ [entry])).getLast? = some entry := by
  unfold trim
  split
  · exact List.getLast?_concat
  · rw [List.getLast?_drop, List.getLast?_concat, if_neg]
    simp only [List.length_append, List.length_singleton]
    omega

theorem entriesAfter_of_none {texts : List String} (h : news before texts = []) :
    entriesAfter limit before texts = before := if_pos h

theorem entriesAfter_of_some {texts : List String} (h : news before texts ≠ []) :
    entriesAfter limit before texts = trim limit (before ++ news before texts) := if_neg h

/-- **Commands one by one leave what they leave together.** -/
theorem entriesAfter_cons (before : List String) (text : String) (texts : List String) :
    entriesAfter limit before (text :: texts) =
      entriesAfter limit (entriesAfter limit before [text]) texts := by
  by_cases hold : Text.trimEnd text = "" ∨ before.getLast? = some (Text.trimEnd text)
  · have hone : entriesAfter limit before [text] = before :=
      entriesAfter_of_none (news_of_old hold [])
    rw [hone]
    simp only [entriesAfter, news_of_old hold texts]
  · have hnew := news_of_new hold
    have hone : entriesAfter limit before [text] = trim limit (before ++ [Text.trimEnd text]) := by
      rw [entriesAfter_of_some (by rw [hnew]; exact List.cons_ne_nil _ _), hnew]
      rfl
    have hall : entriesAfter limit before (text :: texts) =
        trim limit (before ++ [Text.trimEnd text] ++
          news (before ++ [Text.trimEnd text]) texts) := by
      rw [entriesAfter_of_some (by rw [hnew]; exact List.cons_ne_nil _ _), hnew, List.append_assoc]
      rfl
    -- what follows is compared with the same newest entry, cut or not
    have hnews : news (trim limit (before ++ [Text.trimEnd text])) texts =
        news (before ++ [Text.trimEnd text]) texts :=
      news_congr (by rw [getLast?_trim, List.getLast?_concat]) texts
    rw [hall, hone]
    by_cases hnone : news (before ++ [Text.trimEnd text]) texts = []
    · rw [entriesAfter_of_none (hnews.trans hnone), hnone, List.append_nil]
    · rw [entriesAfter_of_some (hnews ▸ hnone), hnews, trim_append]

/-! ## One append -/

variable {h : FileHistory} {t t' : FileTree} {es : List String}

/-- The file is missing and there are no entries yet, or it holds the entries. -/
def Holds (h : FileHistory) (t : FileTree) (entries : List String) : Prop :=
  (t.readText (.ofString h.path) = .error .notFound ∧ entries = []) ∨
    ∃ text, t.readText (.ofString h.path) = .ok text ∧ HistoryFile.decode text = .ok ⟨entries⟩

theorem read_of_holds (hes : h.Holds t es) : h.read t = .ok ⟨es⟩ := by
  unfold read
  rcases hes with ⟨hmissing, rfl⟩ | ⟨text, htext, hdecode⟩
  · rw [hmissing]
  · rw [htext]
    dsimp only
    rw [hdecode]
    rfl

/-- What was read is in the file. -/
theorem holds_of_read (hr : h.read t = .ok ⟨es⟩) : h.Holds t es := by
  unfold read at hr
  split at hr
  · rename_i text htext
    cases hdecode : HistoryFile.decode text with
    | error p => rw [hdecode] at hr; cases hr
    | ok file =>
      rw [hdecode] at hr
      obtain rfl := Except.ok.inj hr
      exact .inr ⟨text, htext, hdecode⟩
  · rename_i hmissing
    obtain rfl : es = [] := (congrArg HistoryFile.entries (Except.ok.inj hr)).symm
    exact .inl ⟨hmissing, rfl⟩
  · cases hr

/-- Entries that were written are in the file. -/
theorem holds_of_write (hw : h.write t es = (t', .ok ())) : h.Holds t' es := by
  unfold write at hw
  split at hw
  · cases hw
  split at hw
  · cases hw
  rename_i hwrite
  obtain rfl := congrArg Prod.fst hw
  exact .inr ⟨_, FileTree.readText_of_writeText hwrite, HistoryFile.decode_indented _⟩

/-- Nothing but the file system makes a write fail. -/
theorem write_fails {f : Failure} (hw : (h.write t es).2 = .error f) :
    ∃ message, f = .io message := by
  unfold write at hw
  split at hw
  · exact ⟨_, (Except.error.inj hw).symm⟩
  split at hw
  · exact ⟨_, (Except.error.inj hw).symm⟩
  · cases hw

/-- A text is blank if nothing is left of it without the blanks at its end. -/
theorem trimEnd_eq_empty (text : String) :
    Text.trimEnd text = "" ↔ text.toList.all Text.isBlank = true := by
  rw [Text.trimEnd, Text.trimEndChars, ← String.toList_inj, String.toList_ofList,
    ← List.all_reverse, List.all_eq_true, ← List.dropWhile_eq_nil_iff]
  exact List.reverse_eq_nil_iff

/-- A text that does not end in a blank is blank only if it is empty. -/
theorem all_blank_trimEnd (text : String) :
    (Text.trimEnd text).toList.all Text.isBlank = true ↔ Text.trimEnd text = "" := by
  rw [trimEnd_eq_empty, Text.trimEnd, Text.trimEndChars, String.toList_ofList, List.all_reverse,
    ← List.all_reverse (l := text.toList)]
  generalize text.toList.reverse = cs
  constructor
  · intro hall
    -- what is left begins with no blank, so it is blank only if nothing is
    rcases hrest : cs.dropWhile Text.isBlank with _ | ⟨c, rest⟩
    · exact List.all_eq_true.mpr (List.dropWhile_eq_nil_iff.mp hrest)
    · have hhead := List.head?_dropWhile_not Text.isBlank cs
      rw [hrest] at hall hhead
      exact absurd (List.all_eq_true.mp hall c List.mem_cons_self) (by simpa using hhead)
  · intro hall
    rw [List.dropWhile_eq_nil_iff.mpr (List.all_eq_true.mp hall)]
    rfl

/-- A command that is not new leaves the file alone. -/
theorem append_of_old (hr : h.read t = .ok ⟨es⟩) {text : String}
    (hold : Text.trimEnd text = "" ∨ es.getLast? = some (Text.trimEnd text)) :
    h.append t text = (t, .ok ()) := by
  unfold append
  dsimp only
  by_cases hempty : Text.trimEnd text = ""
  · rw [if_pos ((all_blank_trimEnd text).mpr hempty)]
  · rw [if_neg (hempty ∘ (all_blank_trimEnd text).mp), hr]
    exact if_pos (hold.resolve_left hempty)

/-- A new command is written behind the entries. -/
theorem append_of_new (hr : h.read t = .ok ⟨es⟩) {text : String}
    (hnew : ¬ (Text.trimEnd text = "" ∨ es.getLast? = some (Text.trimEnd text))) :
    h.append t text = h.write t (trim h.maxEntries.toNat (es ++ [Text.trimEnd text])) := by
  obtain ⟨hempty, hother⟩ := not_or.mp hnew
  unfold append
  dsimp only
  rw [if_neg (hempty ∘ (all_blank_trimEnd text).mp), hr]
  exact if_neg hother

/-- **One append** leaves what is new in the file, if the file system allows it. -/
theorem read_append (hr : h.read t = .ok ⟨es⟩) (text : String)
    (hfiles : ∀ message, (h.append t text).2 ≠ .error (.io message)) :
    (h.append t text).2 = .ok () ∧
      h.read (h.append t text).1 = .ok ⟨entriesAfter h.maxEntries.toNat es [text]⟩ := by
  by_cases hold : Text.trimEnd text = "" ∨ es.getLast? = some (Text.trimEnd text)
  · rw [append_of_old hr hold, entriesAfter_of_none (news_of_old hold [])]
    exact ⟨rfl, hr⟩
  · have hnew := news_of_new hold []
    rw [append_of_new hr hold] at hfiles ⊢
    rw [entriesAfter_of_some (by rw [hnew]; exact List.cons_ne_nil _ _), hnew]
    have hok : (h.write t (trim h.maxEntries.toNat (es ++ [Text.trimEnd text]))).2 = .ok () := by
      rcases hw : (h.write t (trim h.maxEntries.toNat (es ++ [Text.trimEnd text]))).2 with f | ⟨⟩
      · obtain ⟨message, rfl⟩ := write_fails hw
        exact absurd hw (hfiles message)
      · rfl
    exact ⟨hok, read_of_holds (holds_of_write (Prod.ext rfl hok))⟩

/-! ## Any number of appends -/

/-- Appends commands one after another. Tells how each append ended. -/
def appendAll (h : FileHistory) (t : FileTree) :
    List String → FileTree × List (Except Failure Unit)
  | [] => (t, [])
  | text :: texts =>
    let first := h.append t text
    let rest := h.appendAll first.1 texts
    (rest.1, first.2 :: rest.2)

theorem appendAll_cons (h : FileHistory) (t : FileTree) (text : String) (texts : List String) :
    h.appendAll t (text :: texts) =
      ((h.appendAll (h.append t text).1 texts).1,
        (h.append t text).2 :: (h.appendAll (h.append t text).1 texts).2) := rfl

/-- **What a history keeps.** Where the file is missing or can be decoded when
commands are appended, and the file system fails in none of the appends, all of
them succeed. What is loaded then is the entries at the start if nothing was
new, and else the newest of the entries at the start and what was new, as many
as the history keeps. The cursor stands behind them. -/
theorem history_closed_form (h : FileHistory) (t : FileTree) {start : List String}
    (hstart : h.Holds t start) (texts : List String)
    (hfiles : ∀ ending ∈ (h.appendAll t texts).2, ∀ message, ending ≠ .error (.io message)) :
    (∀ ending ∈ (h.appendAll t texts).2, ending = .ok ()) ∧
      h.load (h.appendAll t texts).1 =
        .ok ⟨entriesAfter h.maxEntries.toNat start texts,
          (entriesAfter h.maxEntries.toNat start texts).length⟩ := by
  suffices hread : (∀ ending ∈ (h.appendAll t texts).2, ending = .ok ()) ∧
      h.read (h.appendAll t texts).1 = .ok ⟨entriesAfter h.maxEntries.toNat start texts⟩ by
    refine ⟨hread.1, ?_⟩
    rw [load, hread.2]
    rfl
  have hr := read_of_holds hstart
  clear hstart
  induction texts generalizing t start with
  | nil => exact ⟨nofun, hr⟩
  | cons text texts ih =>
    rw [appendAll_cons, List.forall_mem_cons] at hfiles ⊢
    obtain ⟨hok, hnext⟩ := read_append hr text hfiles.1
    obtain ⟨hall, hlast⟩ := ih (h.append t text).1 hfiles.2 hnext
    rw [entriesAfter_cons]
    exact ⟨⟨hok, hall⟩, hlast⟩

/-- A history that keeps two entries. -/
def short : FileHistory := ⟨"h", 2⟩

/-- Its file, with an entry more than it keeps. -/
def overfull : FileTree := (short.write ∅ ["a", "b", "c"]).1

/-- A repeat of the newest entry, a blank command and a new one. -/
theorem history_closed_form_trimmed :
    short.Holds overfull ["a", "b", "c"] ∧
      (∀ ending ∈ (short.appendAll overfull ["c  ", "\t", " d\n"]).2,
        ∀ message, ending ≠ .error (.io message)) ∧
      (∀ ending ∈ (short.appendAll overfull ["c  ", "\t", " d\n"]).2, ending = .ok ()) ∧
      short.load (short.appendAll overfull ["c  ", "\t", " d\n"]).1 = .ok ⟨["c", " d"], 2⟩ := by
  have hfull : (short.write ∅ ["a", "b", "c"]).2 = .ok () := by cbv
  have hstart : short.Holds overfull ["a", "b", "c"] := holds_of_write (Prod.ext rfl hfull)
  have hr := read_of_holds hstart
  have hfiles : ∀ ending ∈ (short.appendAll overfull ["c  ", "\t", " d\n"]).2,
      ∀ message, ending ≠ .error (.io message) := by
    have hthird : (short.append overfull " d\n").2 = .ok () := by
      rw [append_of_new hr (by decide +kernel)]
      cbv
    rw [appendAll_cons, append_of_old hr (by decide +kernel), appendAll_cons,
      append_of_old hr (by decide +kernel), appendAll_cons, hthird]
    simp [appendAll]
  have hafter : entriesAfter 2 ["a", "b", "c"] ["c  ", "\t", " d\n"] = ["c", " d"] := by
    decide +kernel
  obtain ⟨hok, hload⟩ := history_closed_form short overfull hstart ["c  ", "\t", " d\n"] hfiles
  have hlimit : short.maxEntries.toNat = 2 := rfl
  rw [hlimit, hafter] at hload
  exact ⟨hstart, hfiles, hok, hload⟩

end FileHistory

end QueryBridge
