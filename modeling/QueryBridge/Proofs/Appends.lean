import QueryBridge.Proofs.Histories

/-!
# What an append touches

The file of a history is written only to record an entry that is new. When an
append fails, whatever the reason, each file has the bytes that it had and none
is there that was not; and so it is when the command is blank or repeats the
newest entry.

A tree allows every file to be read and written that can be found in it. What a
system refuses beyond that is told by `Refusals`.

* `FileHistory.appendUnder`: an append where the system refuses some of its steps.
* `FileHistory.TouchesToRecord`: what an append may leave behind.
* `append_touches_to_record`: every append, whatever is refused.
* `FileHistory.append_touches_otherwise`: what is not told by the letter of a
  command or by the path alone.
-/

namespace QueryBridge

/-- What a system refuses and with which words: to read, to create one more
directory after so many, and to write. A write that is refused changes nothing. -/
structure Refusals where
  reading : Option String := none
  creating : Option (Nat × String) := none
  writing : Option String := none

namespace FileHistory

variable {r : Refusals} {h : FileHistory} {t t' : FileTree} {es : List String} {text : String}
  {f : Failure}

/-! ## An append under refusals -/

/-- What the file holds, if it may be read. -/
def readUnder (r : Refusals) (h : FileHistory) (t : FileTree) : Except Failure HistoryFile :=
  match r.reading with
  | some message => .error (.io message)
  | none => h.read t

/-- Creates the directories above the file, as many as may be created. -/
def makeParentsUnder (r : Refusals) (h : FileHistory) (t : FileTree) :
    FileTree × Except Failure Unit :=
  let names := (FilePath.ofString h.path).components.dropLast
  match r.creating with
  | some (n, message) =>
    (if FilePath.hasNul names then t else (t.makeFrom [] (names.take n)).1, .error (.io message))
  | none =>
    match t.makeParents (.ofString h.path) with
    | (t, .error e) => (t, .error (.io e.text))
    | (t, .ok ()) => (t, .ok ())

/-- Writes the entries below directories that exist, if they may be written. -/
def writeFileUnder (r : Refusals) (h : FileHistory) (t : FileTree) (entries : List String) :
    FileTree × Except Failure Unit :=
  match r.writing with
  | some message => (t, .error (.io message))
  | none =>
    match t.writeText (.ofString h.path) (HistoryFile.toValue ⟨entries⟩).indented with
    | (t, .error e) => (t, .error (.io e.text))
    | (t, .ok ()) => (t, .ok ())

/-- Writes the entries, and creates the directories above the file. -/
def writeUnder (r : Refusals) (h : FileHistory) (t : FileTree) (entries : List String) :
    FileTree × Except Failure Unit :=
  match h.makeParentsUnder r t with
  | (t, .error f) => (t, .error f)
  | (t, .ok ()) => h.writeFileUnder r t entries

/-- Records a command, as far as the system allows it. -/
def appendUnder (r : Refusals) (h : FileHistory) (t : FileTree) (text : String) :
    FileTree × Except Failure Unit :=
  let entry := Text.trimEnd text
  if entry.toList.all Text.isBlank then (t, .ok ())
  else
    match h.readUnder r t with
    | .error e => (t, .error e)
    | .ok f =>
      if f.entries.getLast? = some entry then (t, .ok ())
      else h.writeUnder r t (trim h.maxEntries.toNat (f.entries ++ [entry]))

/-- Where nothing is refused, the entries are written as ever. -/
theorem writeUnder_none (h : FileHistory) (t : FileTree) (entries : List String) :
    h.writeUnder {} t entries = h.write t entries := by
  unfold writeUnder write makeParentsUnder
  dsimp only
  rcases t.makeParents (.ofString h.path) with ⟨t', e | ⟨⟩⟩ <;> rfl

/-- **Where nothing is refused**, a command is recorded as ever. -/
theorem appendUnder_none (h : FileHistory) (t : FileTree) (text : String) :
    h.appendUnder {} t text = h.append t text := by
  unfold appendUnder append
  simp only [writeUnder_none]
  rfl

/-! ## What a write leaves -/

theorem makeParentsUnder_moreDirectories (r : Refusals) (h : FileHistory) (t : FileTree) :
    t.MoreDirectories (h.makeParentsUnder r t).1 := by
  unfold makeParentsUnder
  dsimp only
  split
  · dsimp only
    split
    · exact .refl t
    · exact t.makeFrom_moreDirectories [] _
  · have hmade := t.makeAll_moreDirectories (FilePath.ofString h.path).components.dropLast
    split <;> rename_i hparents <;> rw [FileTree.makeParents] at hparents <;> rw [hparents] at hmade
    · exact hmade
    · exact hmade

/-- The file of a history has been written with these entries, and no other file. -/
structure Wrote (h : FileHistory) (t t' : FileTree) (entries : List String) : Prop where
  holds : h.Holds t' entries
  elsewhere : ∃ l, t'.locate (.ofString h.path) = .ok l ∧
    ∀ x, x ≠ l → t'.fileAt? x = t.fileAt? x

theorem writeFileUnder_fails (hw : h.writeFileUnder r t es = (t', .error f)) : t' = t := by
  unfold writeFileUnder at hw
  split at hw
  · exact (congrArg Prod.fst hw).symm
  · split at hw
    · rename_i hwrite
      obtain rfl := congrArg Prod.fst hw
      exact FileTree.write_error_same hwrite
    · cases hw

theorem writeFileUnder_wrote (hw : h.writeFileUnder r t es = (t', .ok ())) : h.Wrote t t' es := by
  unfold writeFileUnder at hw
  split at hw
  · cases hw
  · split at hw
    · cases hw
    · rename_i hwrite
      obtain rfl := congrArg Prod.fst hw
      refine ⟨.inr ⟨_, FileTree.readText_of_writeText hwrite, HistoryFile.decode_indented _⟩, ?_⟩
      obtain ⟨l, hlocate, hl, hfile, -, rfl⟩ := FileTree.write_eq_ok hwrite
      refine ⟨l, FileTree.locate_of_locateFrom hlocate (FileTree.locateFrom_set hl hfile _),
        fun x hx => ?_⟩
      rw [FileTree.fileAt?_set t hl, if_neg hx]

/-- **A write that fails** may have created directories. -/
theorem writeUnder_fails (hw : h.writeUnder r t es = (t', .error f)) : t.MoreDirectories t' := by
  have hmade := makeParentsUnder_moreDirectories r h t
  unfold writeUnder at hw
  split at hw <;> rename_i hparents <;> rw [hparents] at hmade
  · obtain rfl := congrArg Prod.fst hw
    exact hmade
  · rw [writeFileUnder_fails hw]
    exact hmade

/-- **A write that succeeds** has changed one file. -/
theorem writeUnder_wrote (hw : h.writeUnder r t es = (t', .ok ())) : h.Wrote t t' es := by
  have hmade := makeParentsUnder_moreDirectories r h t
  unfold writeUnder at hw
  split at hw <;> rename_i hparents <;> rw [hparents] at hmade
  · cases hw
  · obtain ⟨hholds, l, hlocate, helse⟩ := writeFileUnder_wrote hw
    exact ⟨hholds, l, hlocate, fun x hx => (helse x hx).trans (hmade.sameFiles x)⟩

/-! ## One append -/

theorem appendUnder_blank (hblank : Text.trimEnd text = "") :
    h.appendUnder r t text = (t, .ok ()) := by
  unfold appendUnder
  dsimp only
  rw [if_pos ((all_blank_trimEnd text).2 hblank)]

theorem appendUnder_unread (hblank : Text.trimEnd text ≠ "") (hr : h.readUnder r t = .error f) :
    h.appendUnder r t text = (t, .error f) := by
  unfold appendUnder
  dsimp only
  rw [if_neg (hblank ∘ (all_blank_trimEnd text).1), hr]

theorem appendUnder_repeat (hblank : Text.trimEnd text ≠ "") (hr : h.readUnder r t = .ok ⟨es⟩)
    (hlast : es.getLast? = some (Text.trimEnd text)) :
    h.appendUnder r t text = (t, .ok ()) := by
  unfold appendUnder
  dsimp only
  rw [if_neg (hblank ∘ (all_blank_trimEnd text).1), hr]
  exact if_pos hlast

theorem appendUnder_new (hblank : Text.trimEnd text ≠ "") (hr : h.readUnder r t = .ok ⟨es⟩)
    (hlast : es.getLast? ≠ some (Text.trimEnd text)) :
    h.appendUnder r t text =
      h.writeUnder r t (trim h.maxEntries.toNat (es ++ [Text.trimEnd text])) := by
  unfold appendUnder
  dsimp only
  rw [if_neg (hblank ∘ (all_blank_trimEnd text).1), hr]
  exact if_neg hlast

/-- **What an append may leave behind.** -/
structure TouchesToRecord (r : Refusals) (h : FileHistory) (t : FileTree) (text : String)
    (result : FileTree × Except Failure Unit) : Prop where
  /-- A failure leaves every file alone, the history's among them. -/
  failed : ∀ f, result.2 = .error f → t.SameFiles result.1 ∧
    ∀ contents, t.read (.ofString h.path) = .ok contents →
      result.1.read (.ofString h.path) = .ok contents
  /-- A blank command is accepted whatever the file is like. -/
  blank : text.toList.all Text.isBlank = true → result = (t, .ok ())
  /-- So is a repeat of the newest entry. -/
  repeated : ∀ es, r.reading = none → h.Holds t es → es.getLast? = some (Text.trimEnd text) →
    result = (t, .ok ())
  /-- A file has changed only if a new command was recorded. -/
  changed : ¬ t.SameFiles result.1 → result.2 = .ok () ∧
    text.toList.all Text.isBlank = false ∧
    ∃ es, h.Holds t es ∧ es.getLast? ≠ some (Text.trimEnd text)
  /-- A new command that is accepted is recorded behind the entries that were there. -/
  recorded : result.2 = .ok () → text.toList.all Text.isBlank = false →
    ∀ es, h.Holds t es → es.getLast? ≠ some (Text.trimEnd text) →
      ∃ es', es' = trim h.maxEntries.toNat (es ++ [Text.trimEnd text]) ∧
        es'.getLast? = some (Text.trimEnd text) ∧ h.Wrote t result.1 es'

/-- Entries that a file holds are those that are read from it. -/
theorem readUnder_of_holds (hreading : r.reading = none) (hes : h.Holds t es) :
    h.readUnder r t = .ok ⟨es⟩ := by
  rw [readUnder, hreading]
  exact read_of_holds hes

theorem holds_unique {es' : List String} (hes : h.Holds t es) (hes' : h.Holds t es') : es = es' :=
  congrArg HistoryFile.entries (Except.ok.inj ((read_of_holds hes).symm.trans (read_of_holds hes')))

/-- **Every append**, whatever the system refuses. -/
theorem appendUnder_touches (r : Refusals) (h : FileHistory) (t : FileTree) (text : String) :
    h.TouchesToRecord r t text (h.appendUnder r t text) := by
  have hall : text.toList.all Text.isBlank = true ↔ Text.trimEnd text = "" :=
    (trimEnd_eq_empty text).symm
  by_cases hblank : Text.trimEnd text = ""
  · rw [appendUnder_blank hblank]
    exact ⟨nofun, fun _ => rfl, fun _ _ _ _ => rfl, fun hc => absurd (fun _ => rfl) hc,
      fun _ hsome => absurd (hall.2 hblank) (Bool.eq_false_iff.1 hsome)⟩
  have hsome : text.toList.all Text.isBlank ≠ true := hblank ∘ hall.1
  cases hr : h.readUnder r t with
  | error f =>
    rw [appendUnder_unread hblank hr]
    refine ⟨fun _ _ => ⟨fun _ => rfl, fun _ hread => hread⟩, fun hb => absurd hb hsome, ?_,
      fun hc => absurd (fun _ => rfl) hc, nofun⟩
    -- where the file may be read and holds entries, they have been read
    intro es hreading hes
    rw [readUnder_of_holds hreading hes] at hr
    cases hr
  | ok file =>
    obtain ⟨es⟩ := file
    have hes : h.Holds t es := by
      unfold readUnder at hr
      split at hr
      · cases hr
      · exact holds_of_read hr
    by_cases hlast : es.getLast? = some (Text.trimEnd text)
    · rw [appendUnder_repeat hblank hr hlast]
      refine ⟨nofun, fun _ => rfl, fun _ _ _ _ => rfl, fun hc => absurd (fun _ => rfl) hc, ?_⟩
      intro _ _ es' hes' hnew
      exact absurd (holds_unique hes hes' ▸ hlast) hnew
    rw [appendUnder_new hblank hr hlast]
    refine ⟨fun f hf => ?_, fun hb => absurd hb hsome, ?_, fun hc => ?_, ?_⟩
    · have hmade : t.MoreDirectories _ := writeUnder_fails (Prod.ext rfl hf)
      exact ⟨hmade.sameFiles, fun _ => hmade.read⟩
    · intro es' _ hes' hlast'
      exact absurd (holds_unique hes hes' ▸ hlast') hlast
    · refine ⟨?_, Bool.eq_false_iff.2 hsome, es, hes, hlast⟩
      rcases hw : h.writeUnder r t _ with ⟨t', f | ⟨⟩⟩
      · rw [hw] at hc
        exact absurd (writeUnder_fails hw).sameFiles hc
      · rfl
    · intro hok _ es' hes' _
      obtain rfl := holds_unique hes hes'
      exact ⟨_, rfl, getLast?_trim es _, writeUnder_wrote (Prod.ext rfl hok)⟩

/-- Where entries cannot be written, no file can be read. -/
theorem unread_of_write_fails (hw : h.write t es = (t', .error f)) (contents : ByteArray) :
    t'.read (.ofString h.path) ≠ .ok contents := by
  unfold write at hw
  split at hw
  · rename_i hparents
    obtain rfl := congrArg Prod.fst hw
    have hnone := FileTree.read_of_makeParents (congrArg Prod.snd hparents) contents
    rwa [hparents] at hnone
  · split at hw
    · rename_i hwrite
      obtain rfl := congrArg Prod.fst hw
      intro hread
      rw [FileTree.write_error_same hwrite] at hread
      cases (congrArg Prod.snd hwrite).symm.trans (FileTree.write_of_read hread)
    · cases hw

/-- An append that fails lets nothing be read that could not be read before. -/
theorem read_of_append_fails (hf : (h.append t text).2 = .error f) (contents : ByteArray)
    (hread : (h.append t text).1.read (.ofString h.path) = .ok contents) :
    t.read (.ofString h.path) = .ok contents := by
  cases hr : h.read t with
  | error f' =>
    have hsame : (h.append t text).1 = t := by
      unfold append
      dsimp only
      rw [hr]
      split <;> rfl
    rw [hsame] at hread
    exact hread
  | ok file =>
    obtain ⟨es⟩ := file
    by_cases hold : Text.trimEnd text = "" ∨ es.getLast? = some (Text.trimEnd text)
    · rw [append_of_old hr hold] at hf
      cases hf
    · rw [append_of_new hr hold] at hf hread
      exact absurd hread (unread_of_write_fails (Prod.ext rfl hf) contents)

end FileHistory

/-- **An append touches a file only to record.** It has changed one only where it succeeds with a
command that is neither blank nor a repeat; then that is the file of the history, and it holds the
entries that it held and the command behind them, as many as are kept. This is so whatever the
system refuses. Where it refuses nothing, a path at which nothing could be read is such a path
after a failure, too. -/
theorem append_touches_to_record (h : FileHistory) (t : FileTree) (text : String) :
    (∀ r, h.TouchesToRecord r t text (h.appendUnder r t text)) ∧
    h.appendUnder {} t text = h.append t text ∧
    ∀ f, (h.append t text).2 = .error f → ∀ contents,
      (h.append t text).1.read (.ofString h.path) = .ok contents ↔
        t.read (.ofString h.path) = .ok contents := by
  refine ⟨fun r => h.appendUnder_touches r t text, h.appendUnder_none t text, fun f hf c => ?_⟩
  refine ⟨FileHistory.read_of_append_fails hf c, fun hread => ?_⟩
  have htouches := h.appendUnder_touches {} t text
  rw [FileHistory.appendUnder_none] at htouches
  exact (htouches.failed f hf).2 c hread

namespace FileHistory

/-- A file that holds no history. -/
def corrupt : FileTree := (FileTree.writeText ∅ (.ofString "h") "3").1

theorem read_corrupt : short.read corrupt = .error (.json .mismatch) := by
  have hwrite : (FileTree.writeText ∅ (.ofString "h") "3").2 = .ok () := by cbv
  have htext : corrupt.readText (.ofString "h") = .ok "3" :=
    FileTree.readText_of_writeText (Prod.ext rfl hwrite)
  have hdecode : HistoryFile.decode "3" = .error .mismatch := by decide +kernel
  unfold read
  rw [show short.path = "h" from rfl, htext]
  dsimp only
  rw [hdecode]
  rfl

/-- What is no history is not replaced by one, but a blank command is accepted. Where nothing may
be written, a missing file is still missing. -/
theorem append_touches_to_record_corrupt :
    (short.append corrupt "a").2 = .error (.json .mismatch) ∧
      corrupt.SameFiles (short.append corrupt "a").1 ∧
      short.append corrupt "\t" = (corrupt, .ok ()) ∧
      FileTree.SameFiles ∅ (short.appendUnder { writing := some "no room" } ∅ "a").1 := by
  obtain ⟨hcommand, hplain, -⟩ := append_touches_to_record short corrupt "a"
  obtain ⟨hblank, hplain', -⟩ := append_touches_to_record short corrupt "\t"
  obtain ⟨hrefused, -, -⟩ := append_touches_to_record short ∅ "a"
  have hentry : Text.trimEnd "a" = "a" := by decide +kernel
  have hsome : Text.trimEnd "a" ≠ "" := by rw [hentry]; decide
  have hunread : short.readUnder {} corrupt = .error (.json .mismatch) := read_corrupt
  have hfails : (short.appendUnder {} corrupt "a").2 = .error (.json .mismatch) := by
    rw [appendUnder_unread hsome hunread]
  have hmissing : short.Holds ∅ [] := .inl ⟨by cbv, rfl⟩
  have hnothing : (short.appendUnder { writing := some "no room" } ∅ "a").2 =
      .error (.io "no room") := by
    rw [appendUnder_new hsome (readUnder_of_holds rfl hmissing) (Option.some_ne_none _).symm]
    cbv
  rw [← hplain, ← hplain']
  exact ⟨hfails, ((hcommand {}).failed _ hfails).1, (hblank {}).blank (by decide +kernel),
    ((hrefused { writing := some "no room" }).failed _ hnothing).1⟩

/-- A history whose newest entry ends with a blank. -/
def blankEnded : FileTree := (short.write ∅ ["a "]).1

/-- **A repeat is told by the trimmed command.** The newest entry is the command to the letter, and
still the file changes; and the entries do not end with the command. -/
theorem append_repeats_untrimmed :
    short.Holds blankEnded ["a "] ∧ (short.append blankEnded "a ").2 = .ok () ∧
      short.Holds (short.append blankEnded "a ").1 ["a ", "a"] ∧
      (short.append blankEnded "a ").1.read (.ofString short.path) ≠
        blankEnded.read (.ofString short.path) := by
  have hwrite : (short.write ∅ ["a "]).2 = .ok () := by cbv
  have hheld : short.Holds blankEnded ["a "] := holds_of_write (Prod.ext rfl hwrite)
  have htrim : Text.trimEnd "a " = "a" := by decide +kernel
  have hnew : short.append blankEnded "a " = short.write blankEnded ["a ", "a"] := by
    rw [append_of_new (read_of_holds hheld) (by rw [htrim]; decide), htrim]
    rfl
  have hagain : (short.write blankEnded ["a ", "a"]).2 = .ok () := by cbv
  have hafter : short.Holds (short.append blankEnded "a ").1 ["a ", "a"] := by
    rw [hnew]
    exact holds_of_write (Prod.ext rfl hagain)
  refine ⟨hheld, by rw [hnew, hagain], hafter, fun hsame => ?_⟩
  -- the same bytes would hold the same entries
  have htext : (short.append blankEnded "a ").1.readText (.ofString short.path) =
      blankEnded.readText (.ofString short.path) := by
    rw [FileTree.readText, FileTree.readText, hsame]
  have hread : short.read (short.append blankEnded "a ").1 = short.read blankEnded := by
    rw [read, read, htext]
  rw [read_of_holds hafter, read_of_holds hheld] at hread
  cases hread

/-- A history whose path leads through a directory and out of it again. -/
def roundabout : FileHistory := ⟨"x/../h", 2⟩

/-- A command for that history where nothing may be written. There is a file behind the
directory. -/
def refused : FileTree × Except Failure Unit :=
  roundabout.appendUnder { writing := some "no room" } corrupt "a"

/-- **A refused write leaves the directories** that were created for it. There was nothing at the
path of the history, and now the path leads to a file that was there before. -/
theorem refused_uncovers :
    refused.2 = .error (.io "no room") ∧
      corrupt.readText (.ofString roundabout.path) = .error .notFound ∧
      refused.1.readText (.ofString roundabout.path) = .ok "3" := by
  have hmissing : corrupt.readText (.ofString roundabout.path) = .error .notFound := by cbv
  have hentry : Text.trimEnd "a" = "a" := by decide +kernel
  have hsome : Text.trimEnd "a" ≠ "" := by rw [hentry]; decide
  have hread : roundabout.readUnder { writing := some "no room" } corrupt = .ok ⟨[]⟩ :=
    readUnder_of_holds rfl (.inl ⟨hmissing, rfl⟩)
  have hwrite : refused = roundabout.writeUnder { writing := some "no room" } corrupt ["a"] := by
    rw [refused, appendUnder_new hsome hread (Option.some_ne_none _).symm, hentry]
    rfl
  rw [hwrite]
  exact ⟨by cbv, hmissing, by cbv⟩

/-- **What neither the letter nor the path tells.** A command that is the newest entry to the letter
may change the file, and after a failure a file may be read where none was to be found. -/
theorem append_touches_otherwise :
    (short.Holds blankEnded ["a "] ∧ (short.append blankEnded "a ").2 = .ok () ∧
      short.Holds (short.append blankEnded "a ").1 ["a ", "a"] ∧
      (short.append blankEnded "a ").1.read (.ofString short.path) ≠
        blankEnded.read (.ofString short.path)) ∧
    refused.2 = .error (.io "no room") ∧
      corrupt.readText (.ofString roundabout.path) = .error .notFound ∧
      refused.1.readText (.ofString roundabout.path) = .ok "3" :=
  ⟨append_repeats_untrimmed, refused_uncovers⟩

end FileHistory

end QueryBridge
