import QueryBridge.FileTree

/-!
# What is read after it was written

A path that a file was written to leads to the same place afterwards, so the
file is read back with what was written.

* `FileTree.get?_set`: what stands at each place after an entry was put at one.
* `FileTree.locate_eq_ok`: where a path leads.
* `FileTree.locateFrom_set`: a file in the place of none, or of another, turns no path aside.
* `FileTree.read_of_write`, `FileTree.readText_of_writeText`.
* `FileTree.makeFrom_moreDirectories`: creating directories leaves every file alone.
-/

namespace QueryBridge

namespace FileTree

variable {t t' : FileTree} {p : FilePath}

theorem lookup_filter_of_ne {l x : Location} (hx : x ≠ l) (es : List (Location × FileEntry)) :
    (es.filter (·.1 ≠ l)).lookup x = es.lookup x := by
  induction es with
  | nil => rfl
  | cons e es ih =>
    obtain ⟨k, a⟩ := e
    by_cases hk : k = l
    · have hxk : (x == k) = false := beq_false_of_ne fun h => hx (h.trans hk)
      rw [List.filter_cons_of_neg (by simp [hk]), ih, List.lookup_cons, hxk]
    · rw [List.filter_cons_of_pos (by simp [hk]), List.lookup_cons, List.lookup_cons, ih]

/-- An entry stands where it was put; the root stays a directory. -/
theorem get?_set (t : FileTree) {l : Location} (hl : l ≠ []) (e : FileEntry) (x : Location) :
    (t.set l e).get? x = if x = l then some e else t.get? x := by
  cases x with
  | nil => rw [if_neg fun h => hl h.symm]; rfl
  | cons name x =>
    by_cases hx : name :: x = l
    · rw [if_pos hx, ← hx]
      exact List.lookup_cons_self
    · rw [if_neg hx]
      show ((l, e) :: t.entries.filter (·.1 ≠ l)).lookup (name :: x) = t.entries.lookup (name :: x)
      rw [List.lookup_cons, beq_false_of_ne hx]
      exact lookup_filter_of_ne hx t.entries

/-- No path leads through the place of a file, so a file may be put there or
changed, and every path leads where it did. -/
theorem locateFrom_set {l : Location} (hl : l ≠ [])
    (hfile : ∀ d, t.get? l = some d → ∃ c, d = .file c) (contents : ByteArray)
    {names : List String} {here x : Location} (h : t.locateFrom here names = .ok x) :
    (t.set l (.file contents)).locateFrom here names = .ok x := by
  induction names generalizing here with
  | nil => exact h
  | cons name rest ih =>
    unfold locateFrom at h ⊢
    split at h
    · cases h
    · rename_i hname
      rw [if_neg hname]
      generalize (if name = ".." then here.dropLast else here ++ [name]) = next at h ⊢
      dsimp only at h ⊢
      cases rest with
      | nil => exact h
      | cons name' rest =>
        -- what the path leads through is a directory, so it is not the place of the file
        rcases hnext : t.get? next with _ | (_ | c)
        · rw [hnext] at h; cases h
        · have hne : next ≠ l := by
            rintro rfl
            obtain ⟨c, hc⟩ := hfile _ hnext
            cases hc
          rw [hnext] at h
          rw [get?_set t hl, if_neg hne, hnext]
          exact ih h
        · rw [hnext] at h; cases h

/-- Above a path without a NUL there is none. -/
theorem hasNul_dropLast {names : List String} (h : FilePath.hasNul names = false) :
    FilePath.hasNul names.dropLast = false := by
  rw [FilePath.hasNul, List.any_eq_false] at h ⊢
  exact fun name hname => h name (List.dropLast_subset names hname)

/-- The place of a path that is not empty and without a NUL is found component by component. -/
theorem locate_eq_ok {l : Location} : t.locate p = .ok l ↔
    p.isEmpty = false ∧ FilePath.hasNul p.components = false ∧
      t.locateFrom [] p.components = .ok l := by
  unfold locate
  cases p.isEmpty <;> cases FilePath.hasNul p.components <;> simp

/-- A path leads where it did once each of its components does. -/
theorem locate_of_locateFrom {l : Location} (hl : t.locate p = .ok l)
    (hfrom : t.locateFrom [] p.components = .ok l → t'.locateFrom [] p.components = .ok l) :
    t'.locate p = .ok l :=
  let ⟨hempty, hnul, hcomponents⟩ := locate_eq_ok.1 hl
  locate_eq_ok.2 ⟨hempty, hnul, hfrom hcomponents⟩

/-- What is read is in a file, where the path leads. -/
theorem read_eq_ok {contents : ByteArray} : t.read p = .ok contents ↔
    ∃ l, t.locate p = .ok l ∧ t.get? l = some (.file contents) ∧ p.isDirectory = false := by
  unfold read
  rcases hlocate : t.locate p with e | l
  · exact ⟨nofun, nofun⟩
  simp only [bind, Except.bind, Except.ok.injEq, exists_eq_left']
  rcases hget : t.get? l with _ | (_ | c)
  · exact ⟨nofun, nofun⟩
  · exact ⟨nofun, nofun⟩
  · cases p.isDirectory <;> simp

/-- **A successful write** puts a file in the place of none or of another. -/
theorem write_eq_ok {contents : ByteArray} (h : t.write p contents = (t', .ok ())) :
    ∃ l, t.locate p = .ok l ∧ l ≠ [] ∧ (∀ d, t.get? l = some d → ∃ c, d = .file c) ∧
      p.isDirectory = false ∧ t' = t.set l (.file contents) := by
  unfold write at h
  rcases hlocate : t.locate p with e | l
  · rw [hlocate] at h; cases h
  rw [hlocate] at h
  dsimp only at h
  refine ⟨l, rfl, ?_⟩
  -- the place is that of a file or empty, and the path may name a file
  rcases hget : t.get? l with _ | (_ | c) <;> rw [hget] at h
  · cases hdir : p.isDirectory <;> simp only [hdir] at h
    · refine ⟨?_, nofun, rfl, (congrArg Prod.fst h).symm⟩
      rintro rfl
      cases hget
    · cases h
  · cases h
  · cases hdir : p.isDirectory <;> simp only [hdir] at h
    · refine ⟨?_, fun d hd => ⟨c, (Option.some.inj hd).symm⟩, rfl, (congrArg Prod.fst h).symm⟩
      rintro rfl
      cases hget
    · cases h

/-- **What was written is read back.** -/
theorem read_of_write {contents : ByteArray} (h : t.write p contents = (t', .ok ())) :
    t'.read p = .ok contents := by
  obtain ⟨l, hlocate, hl, hfile, hdir, rfl⟩ := write_eq_ok h
  have hget : (t.set l (.file contents)).get? l = some (.file contents) := by
    rw [get?_set t hl, if_pos rfl]
  have hthere : (t.set l (.file contents)).locate p = .ok l :=
    locate_of_locateFrom hlocate (locateFrom_set hl hfile contents)
  exact read_eq_ok.2 ⟨l, hthere, hget, hdir⟩

/-- A write that fails changes nothing. -/
theorem write_error_same {contents : ByteArray} {e : FileProblem}
    (h : t.write p contents = (t', .error e)) : t' = t := by
  unfold write at h
  split at h
  · exact (congrArg Prod.fst h).symm
  · split at h
    · exact (congrArg Prod.fst h).symm
    · split at h
      · exact (congrArg Prod.fst h).symm
      · cases h
    · split at h
      · exact (congrArg Prod.fst h).symm
      · cases h

/-- Where a file can be read it can be written. -/
theorem write_of_read {contents c : ByteArray} (h : t.read p = .ok c) :
    (t.write p contents).2 = .ok () := by
  obtain ⟨l, hlocate, hget, hdir⟩ := read_eq_ok.1 h
  simp only [write, hlocate, hget, hdir, Bool.false_eq_true, if_false]

/-- The bytes of a text hold that text. -/
theorem fromUTF8?_toUTF8 (text : String) : String.fromUTF8? text.toUTF8 = some text := by
  exact dif_pos text.isValidUTF8

/-- **A text that was written is read back.** -/
theorem readText_of_writeText {text : String} (h : t.writeText p text = (t', .ok ())) :
    t'.readText p = .ok text := by
  have hread : t'.read p = .ok text.toUTF8 := read_of_write h
  have htext := fromUTF8?_toUTF8 text
  simp only [readText, hread, bind, Except.bind, htext]

/-! ## What directories leave -/

/-- The bytes of the file at a place. -/
def fileAt? (t : FileTree) (l : Location) : Option ByteArray :=
  match t.get? l with
  | some (.file contents) => some contents
  | _ => none

/-- **The files are the same.** Each has the bytes that it had, and none is there that was not. -/
def SameFiles (t t' : FileTree) : Prop := ∀ l, t'.fileAt? l = t.fileAt? l

/-- Nothing has gone or changed, and nothing but directories has come. -/
structure MoreDirectories (t t' : FileTree) : Prop where
  kept : ∀ l e, t.get? l = some e → t'.get? l = some e
  added : ∀ l e, t'.get? l = some e → t.get? l = some e ∨ e = .directory

namespace MoreDirectories

variable {t'' : FileTree}

theorem refl (t : FileTree) : MoreDirectories t t := ⟨fun _ _ h => h, fun _ _ h => .inl h⟩

theorem trans (h : MoreDirectories t t') (h' : MoreDirectories t' t'') :
    MoreDirectories t t'' where
  kept l e hl := h'.kept l e (h.kept l e hl)
  added l e hl := (h'.added l e hl).elim (h.added l e) .inr

theorem sameFiles (h : MoreDirectories t t') : SameFiles t t' := by
  intro l
  unfold fileAt?
  rcases hget : t.get? l with _ | (_ | c)
  · rcases hget' : t'.get? l with _ | (_ | c)
    · rfl
    · rfl
    · rcases h.added l _ hget' with hold | hdir
      · rw [hget] at hold; cases hold
      · cases hdir
  · rw [h.kept l _ hget]
  · rw [h.kept l _ hget]

/-- A path leads where it did. -/
theorem locateFrom (h : MoreDirectories t t') {names : List String} {here x : Location}
    (hx : t.locateFrom here names = .ok x) : t'.locateFrom here names = .ok x := by
  induction names generalizing here with
  | nil => exact hx
  | cons name rest ih =>
    unfold FileTree.locateFrom at hx ⊢
    split at hx
    · cases hx
    · rename_i hname
      rw [if_neg hname]
      generalize (if name = ".." then here.dropLast else here ++ [name]) = next at hx ⊢
      dsimp only at hx ⊢
      cases rest with
      | nil => exact hx
      | cons name' rest =>
        rcases hnext : t.get? next with _ | (_ | c) <;> rw [hnext] at hx
        · cases hx
        · rw [h.kept next _ hnext]
          exact ih hx
        · cases hx

/-- **What could be read is read the same.** -/
theorem read (h : MoreDirectories t t') {contents : ByteArray} (hread : t.read p = .ok contents) :
    t'.read p = .ok contents := by
  obtain ⟨l, hlocate, hget, hdir⟩ := read_eq_ok.1 hread
  exact read_eq_ok.2 ⟨l, locate_of_locateFrom hlocate h.locateFrom, h.kept l _ hget, hdir⟩

end MoreDirectories

/-- A directory in an empty place. -/
theorem moreDirectories_set {l : Location} (hfree : t.get? l = none) :
    MoreDirectories t (t.set l .directory) := by
  have hl : l ≠ [] := by
    rintro rfl
    cases hfree
  constructor
  · intro x e hx
    rw [get?_set t hl, if_neg, hx]
    rintro rfl
    rw [hfree] at hx
    cases hx
  · intro x e hx
    rw [get?_set t hl] at hx
    split at hx
    · exact .inr (Option.some.inj hx).symm
    · exact .inl hx

/-- **Creating directories** creates nothing else, however far it comes. -/
theorem makeFrom_moreDirectories (t : FileTree) (here : Location) (names : List String) :
    MoreDirectories t (t.makeFrom here names).1 := by
  induction names generalizing t here with
  | nil => exact .refl t
  | cons name rest ih =>
    unfold makeFrom
    split
    · exact .refl t
    · dsimp only
      split
      · exact ih t _
      · exact .refl t
      · rename_i hfree
        exact (moreDirectories_set hfree).trans (ih _ _)

theorem makeAll_moreDirectories (t : FileTree) (names : List String) :
    MoreDirectories t (t.makeAll names).1 := by
  unfold makeAll
  split
  · exact .refl t
  · exact t.makeFrom_moreDirectories [] names

/-- Where directories cannot be created, no path leads through their places. -/
theorem locateFrom_of_makeFrom {here : Location} {names : List String} {e : FileProblem}
    (h : (t.makeFrom here names).2 = .error e) (last : String) :
    ∃ e', (t.makeFrom here names).1.locateFrom here (names ++ [last]) = .error e' := by
  induction names generalizing t here with
  | nil => cases h
  | cons name rest ih =>
    rw [List.cons_append]
    unfold makeFrom at h ⊢
    unfold locateFrom
    by_cases hname : (!isName name) = true
    · exact ⟨.invalidName, if_pos hname⟩
    rw [if_neg hname] at h ⊢
    simp only [if_neg hname]
    generalize (if name = ".." then here.dropLast else here ++ [name]) = next at h ⊢
    -- the path goes on behind this place, so it must be that of a directory
    obtain ⟨name', rest', hrest⟩ := List.exists_cons_of_ne_nil (l := rest ++ [last]) (by simp)
    rw [hrest] at ih ⊢
    have goesOn : ∀ t₁ : FileTree, t₁.get? next = some .directory →
        (t₁.makeFrom next rest).2 = .error e →
        (t₁.makeFrom next rest).1.get? next = some .directory ∧
          ∃ e', (t₁.makeFrom next rest).1.locateFrom next (name' :: rest') = .error e' :=
      fun t₁ hdir hmake => ⟨(t₁.makeFrom_moreDirectories next rest).kept next _ hdir, ih hmake⟩
    rcases hnext : t.get? next with _ | (_ | c) <;> simp only [hnext] at h ⊢
    · have hput : (t.set next .directory).get? next = some .directory := by
        rw [get?_set t (by rintro rfl; cases hnext), if_pos rfl]
      obtain ⟨hthere, hfails⟩ := goesOn _ hput h
      rw [hthere]
      exact hfails
    · obtain ⟨hthere, hfails⟩ := goesOn t hnext h
      rw [hthere]
      exact hfails
    · exact ⟨.notDirectory, rfl⟩

/-- Where the directories above a path cannot be created, nothing can be read there. -/
theorem read_of_makeParents {e : FileProblem} (h : (t.makeParents p).2 = .error e)
    (contents : ByteArray) : (t.makeParents p).1.read p ≠ .ok contents := by
  intro hread
  obtain ⟨l, hlocate, -⟩ := read_eq_ok.1 hread
  obtain ⟨-, hnul, hcomponents⟩ := locate_eq_ok.1 hlocate
  have hnames : p.components ≠ [] := by
    intro hnone
    rw [makeParents, hnone] at h
    cases h
  -- a path that can be read has no NUL above its last component either
  have habove : ¬ FilePath.hasNul p.components.dropLast = true :=
    Bool.eq_false_iff.1 (hasNul_dropLast hnul)
  rw [makeParents, makeAll, if_neg habove] at h hcomponents
  obtain ⟨e', he'⟩ := locateFrom_of_makeFrom h (p.components.getLast hnames)
  rw [List.dropLast_concat_getLast] at he'
  cases hcomponents.symm.trans he'

/-! ## What a write leaves -/

/-- A file that is put somewhere is there, and every other one is where it was. -/
theorem fileAt?_set (t : FileTree) {l : Location} (hl : l ≠ []) (contents : ByteArray)
    (x : Location) :
    (t.set l (.file contents)).fileAt? x = if x = l then some contents else t.fileAt? x := by
  unfold fileAt?
  rw [get?_set t hl]
  by_cases hx : x = l
  · rw [if_pos hx, if_pos hx]
  · rw [if_neg hx, if_neg hx]

end FileTree

end QueryBridge
