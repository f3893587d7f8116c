import QueryBridge.Config
import QueryBridge.Proofs.Envelopes
import QueryBridge.Proofs.Files
import QueryBridge.Proofs.Json.Layout

/-!
# Settings in files

A file may give any of the settings, in any order and among members that nobody
knows; the environment settles the rest. What is saved gives all of them, so it
is the same in every environment.

* `Settings.resolve`: the settings that come of those a file gives.
* `BridgeConfig.load_given`: they are the ones that are loaded.
* `settings_saved_and_given`: what is saved is loaded, and so is what others write.
-/

namespace QueryBridge

open Json (Value Token Read Outline Spells Gathers Apart Among maxDepth)

/-! ## The history -/

namespace HistoryConfig

variable {env : Environment} {outer : Nat} {g : Given} {all : List (Option String × Outline)}

/-- The settings of the history that come of those given in an environment. -/
def Given.resolve (env : Environment) (g : Given) : HistoryConfig :=
  ⟨g.path.getD (default env).path, g.maxEntries.getD (default env).maxEntries⟩

/-- The members that give settings of the history. -/
def Given.members (g : Given) : List (Option String × Outline) :=
  (g.path.map fun p => (some "path", (Value.string p).outline)).toList ++
    (g.maxEntries.map fun n => (some "max_entries", (Value.ofNat n.toNat).outline)).toList

/-- A number of 64 bits is read back from its token. -/
theorem readWord_tokens (n : UInt64) (ts : List Token) :
    readWord ((Value.ofNat n.toNat).outline.tokens ++ ts) = .ok (n, ts) := by
  rw [Value.tokens_outline, readWord, natural_id]
  simp only [Except.map, UInt64.ofNat_toNat]

def pathSlot : Json.Slot Given String where
  item _ := Json.text
  given c := c.path.isSome
  put p c := { c with path := some p }

def maxEntriesSlot : Json.Slot Given UInt64 where
  item _ := readWord
  given c := c.maxEntries.isSome
  put n c := { c with maxEntries := some n }

theorem slots : Json.TwoSlots "path" pathSlot "max_entries" maxEntriesSlot fields :=
  .mk rfl rfl ⟨fun _ _ _ => rfl, rfl, fun _ _ => rfl⟩ ⟨fun _ _ _ => rfl, rfl, fun _ _ => rfl⟩

theorem fields_apart : Apart fields outer :=
  slots.apart ⟨fun _ _ _ => rfl, fun _ _ => rfl, fun _ _ => rfl⟩

theorem gathers_members (g : Given) : Gathers fields outer {} g.members g := by
  obtain ⟨f, hf, hpath⟩ := slots.find_first
  obtain ⟨f', hf', hmax⟩ := slots.find_second (by decide)
  have hfirst : Gathers fields outer {} _ _ :=
    hpath.gathers_option hf rfl (fun p => (Value.string p).outline) (fun _ _ => rfl) g.path
  have hsecond : Gathers fields outer { path := g.path } _ _ :=
    hmax.gathers_option hf' rfl (fun n => (Value.ofNat n.toNat).outline) readWord_tokens
      g.maxEntries
  obtain ⟨path, maxEntries⟩ := g
  cases path <;> cases maxEntries <;> exact hfirst.append hsecond

/-- **Settings of the history are read** wherever they stand. -/
theorem read_given (hdepth : outer < maxDepth) (hall : Among ["path", "max_entries"] g.members all)
    (ts : List Token) :
    read env outer ((Outline.object all).tokens ++ ts) = .ok (g.resolve env, ts) := by
  have hrecord := Json.record_gathers ((gathers_members g).among fields_apart hall) hdepth ts
  rw [read, hrecord]
  rfl

end HistoryConfig

/-! ## All settings -/

/-- The settings that a file gives. -/
structure Settings where
  chunkBuffer : Option UInt64 := none
  history : Option HistoryConfig.Given := none

namespace Settings

/-- **The settings that come of those given in an environment**: the rest are the
defaults. -/
def resolve (env : Environment) (g : Settings) : BridgeConfig :=
  ⟨g.chunkBuffer.getD (BridgeConfig.default env).chunkBuffer, (g.history.getD {}).resolve env⟩

/-- The member that gives a buffer. -/
def bufferMembers (n : Option UInt64) : List (Option String × Outline) :=
  (n.map fun n => (some "chunk_buffer", (Value.ofNat n.toNat).outline)).toList

/-- **The members that give settings**: those of the history stand in an object of
their own, in any order and among others. -/
inductive WrittenAs : Settings → List (Option String × Outline) → Prop
  | buffer (n : Option UInt64) : WrittenAs ⟨n, none⟩ (bufferMembers n)
  | history (n : Option UInt64) {h : HistoryConfig.Given}
    {inner : List (Option String × Outline)} : Among ["path", "max_entries"] h.members inner →
    WrittenAs ⟨n, some h⟩ (bufferMembers n ++ [(some "history", .object inner)])

end Settings

namespace BridgeConfig

variable {env : Environment} {outer : Nat} {g : Settings} {c : BridgeConfig} {t t' : FileTree}
  {path text : String} {own all : List (Option String × Outline)}

def bufferSlot : Json.Slot Given UInt64 where
  item _ := HistoryConfig.readWord
  given c := c.chunkBuffer.isSome
  put n c := { c with chunkBuffer := some n }

def historySlot (env : Environment) : Json.Slot Given HistoryConfig where
  item := HistoryConfig.read env
  given c := c.history.isSome
  put h c := { c with history := some h }

theorem slots (env : Environment) :
    Json.TwoSlots "chunk_buffer" bufferSlot "history" (historySlot env) (fields env) :=
  .mk rfl rfl ⟨fun _ _ _ => rfl, rfl, fun _ _ => rfl⟩ ⟨fun _ _ _ => rfl, rfl, fun _ _ => rfl⟩

theorem fields_apart : Apart (fields env) outer :=
  (slots env).apart ⟨fun _ _ _ => rfl, fun _ _ => rfl, fun _ _ => rfl⟩

theorem gathers_given (hdepth : outer < maxDepth) (hown : g.WrittenAs own) :
    Gathers (fields env) outer {} own ⟨g.chunkBuffer, g.history.map (·.resolve env)⟩ := by
  obtain ⟨f, hf, hbuffer⟩ := (slots env).find_first
  obtain ⟨f', hf', hhistory⟩ := (slots env).find_second (by decide)
  have hmembers : ∀ n, Gathers (fields env) outer {} (Settings.bufferMembers n) ⟨n, none⟩ := by
    intro n
    have hgathers : Gathers (fields env) outer {} _ _ :=
      hbuffer.gathers_option hf rfl (fun n => (Value.ofNat n.toNat).outline)
        HistoryConfig.readWord_tokens n
    cases n <;> exact hgathers
  cases hown with
  | buffer n => exact hmembers n
  | history n hinner =>
    have htakes : f'.Takes outer _ _ :=
      hhistory.takes fun ts => HistoryConfig.read_given hdepth hinner ts
    exact (hmembers n).append (.known hf' (by rw [hhistory.given]; rfl) htakes (.nil _))

/-- **Settings are read** wherever they stand. -/
theorem read_given (hdepth : outer + 1 < maxDepth) (hown : g.WrittenAs own)
    (hall : Among ["chunk_buffer", "history"] own all) (ts : List Token) :
    read env outer ((Outline.object all).tokens ++ ts) = .ok (g.resolve env, ts) := by
  have hown : Gathers (fields env) (outer + 1) {} own _ := gathers_given hdepth hown
  have hrecord := Json.record_gathers (hown.among fields_apart hall) (Nat.lt_of_succ_lt hdepth) ts
  rw [read, hrecord]
  obtain ⟨n, h⟩ := g
  cases h <;> rfl

/-- **The settings that a file gives are loaded**, with the defaults of the
environment for the rest, if they pass the check. -/
theorem load_given (htext : t.readText (.ofString path) = .ok text) (hown : g.WrittenAs own)
    (hall : Among ["chunk_buffer", "history"] own all)
    (hspells : Spells (Outline.object all).tokens text.toList) :
    load env t path = (g.resolve env).validate.map fun _ => g.resolve env := by
  have hread : read env 0 ((Outline.object all).tokens ++ []) = .ok (g.resolve env, []) :=
    read_given (by decide) hown hall []
  rw [List.append_nil] at hread
  have hdecode : decode env text = .ok (g.resolve env) := Json.decode_spelled hspells hread
  have hgiven : (decode env text).mapError Failure.json = .ok (g.resolve env) := by
    rw [hdecode]
    rfl
  simp only [load, htext, hgiven, bind, Except.bind]
  cases (g.resolve env).validate <;> rfl

/-- What has been saved is in the file. -/
theorem readText_of_save (h : c.save t path = (t', .ok ())) :
    t'.readText (.ofString path) = .ok c.toValue.indented := by
  unfold save at h
  split at h
  · cases h
  split at h
  · cases h
  · rename_i hwrite
    obtain rfl := (Prod.mk.inj h).1
    exact FileTree.readText_of_writeText hwrite

/-- All settings are given. -/
def toSettings (c : BridgeConfig) : Settings :=
  ⟨some c.chunkBuffer, some ⟨some c.history.path, some c.history.maxEntries⟩⟩

/-- **What has been saved is loaded** in any environment, if it passes the check. -/
theorem load_saved (h : c.save t path = (t', .ok ())) (env : Environment) :
    load env t' path = c.validate.map fun _ => c := by
  have hnumber : ∀ (n : UInt64) k, (Value.ofNat n.toNat).Fits k := fun n k =>
    Json.Value.fits_ofNat k n.toNat_lt
  have hhistory : c.history.toValue.Fits 1 :=
    .object (by simp [Value.Fits.string, hnumber])
  have hfits : c.toValue.Fits 2 := .object (by simp [hnumber, hhistory])
  have hspells := Json.spells_indented hfits
  rw [← Value.tokens_outline] at hspells
  exact load_given (g := c.toSettings) (readText_of_save h)
    (.history (some c.chunkBuffer) (.refl _ _)) (.refl _ _) hspells

end BridgeConfig

/-- **Settings are saved and loaded.** -/
theorem settings_saved_and_given :
    (∀ (c : BridgeConfig) t t' path, c.save t path = (t', .ok ()) → ∀ env : Environment,
      (c.chunkBuffer ≠ 0 → BridgeConfig.load env t' path = .ok c) ∧
      (c.chunkBuffer = 0 → BridgeConfig.load env t' path =
        .error (.invalidArgument "chunk_buffer must be greater than zero"))) ∧
    ∀ (g : Settings) own all t path text (env : Environment), g.WrittenAs own →
      Among ["chunk_buffer", "history"] own all →
      Spells (Outline.object all).tokens text.toList →
      t.readText (.ofString path) = .ok text →
      ((g.resolve env).chunkBuffer ≠ 0 → BridgeConfig.load env t path = .ok (g.resolve env)) ∧
      ((g.resolve env).chunkBuffer = 0 → BridgeConfig.load env t path =
        .error (.invalidArgument "chunk_buffer must be greater than zero")) := by
  have hcheck : ∀ c : BridgeConfig,
      (c.chunkBuffer ≠ 0 → c.validate.map (fun _ => c) = .ok c) ∧
      (c.chunkBuffer = 0 → c.validate.map (fun _ => c) =
        .error (.invalidArgument "chunk_buffer must be greater than zero")) := by
    intro c
    constructor <;> intro h <;> simp [BridgeConfig.validate, h, Except.map]
  refine ⟨?_, ?_⟩
  · intro c t t' path hsave env
    rw [BridgeConfig.load_saved hsave env]
    exact hcheck c
  · intro g own all t path text env hown hall hspells htext
    rw [BridgeConfig.load_given htext hown hall hspells]
    exact hcheck (g.resolve env)

/-- A file that gives how many entries a history keeps, and nothing else that is known. -/
def partialFile (buffer : Option UInt64) : Value :=
  .object ([("note", .null),
    ("history", .object [("hint", .bool true), ("max_entries", .ofNat 5)])] ++
      (buffer.map fun n => ("chunk_buffer", .ofNat n.toNat)).toList)

/-- Saved settings are the same elsewhere; those that are left out are not. -/
theorem settings_saved_and_given_partial :
    (∀ env, BridgeConfig.load env (BridgeConfig.save ⟨3, ⟨"h.json", 0⟩⟩ ∅ "a/config.json").1
      "a/config.json" = .ok ⟨3, ⟨"h.json", 0⟩⟩) ∧
    BridgeConfig.load ⟨some "/data", none⟩
      (FileTree.writeText ∅ (.ofString "config.json") (partialFile none).indented).1
      "config.json" = .ok ⟨10, ⟨"/data/loper/history.json", 5⟩⟩ ∧
    BridgeConfig.load ⟨some "/data", none⟩
      (FileTree.writeText ∅ (.ofString "config.json") (partialFile (some 0)).indented).1
      "config.json" = .error (.invalidArgument "chunk_buffer must be greater than zero") := by
  obtain ⟨saved, given⟩ := settings_saved_and_given
  have hinner : Among ["path", "max_entries"]
      (HistoryConfig.Given.mk none (some 5)).members
      [(some "hint", (Value.bool true).outline), (some "max_entries", (Value.ofNat 5).outline)] :=
    ⟨[(some "hint", (Value.bool true).outline)], .swap _ _ _, by simp⟩
  have hnumber : ∀ k, (Value.ofNat 5).Fits k := fun k => Json.Value.fits_ofNat k (by decide)
  have hzero : ∀ k, (Value.ofNat 0).Fits k := fun k => Json.Value.fits_ofNat k (by decide)
  have hhistory : (Value.object [("hint", .bool true), ("max_entries", .ofNat 5)]).Fits 1 :=
    .object (by simp [hnumber, Value.Fits.bool])
  refine ⟨fun env => (saved ⟨3, ⟨"h.json", 0⟩⟩ ∅ _ "a/config.json" (Prod.ext rfl rfl) env).1
    (by decide), ?_, ?_⟩
  · have hspells := Json.spells_indented (n := 2) (v := partialFile none)
      (.object (by simp [hhistory, Value.Fits.null]))
    rw [← Value.tokens_outline] at hspells
    refine (given ⟨none, some ⟨none, some 5⟩⟩ _ _ _ _ _ ⟨some "/data", none⟩
      (.history none hinner) ⟨[(some "note", Value.null.outline)], .swap _ _ _, by simp⟩ hspells
      (FileTree.readText_of_writeText (Prod.ext rfl rfl))).1 (by decide)
  · have hspells := Json.spells_indented (n := 2) (v := partialFile (some 0))
      (.object (by simp [hhistory, hzero, Value.Fits.null]))
    rw [← Value.tokens_outline] at hspells
    refine (given ⟨some 0, some ⟨none, some 5⟩⟩ _ _ _ _ _ ⟨some "/data", none⟩
      (.history (some 0) hinner) ⟨[(some "note", Value.null.outline)], ?_, by simp⟩ hspells
      (FileTree.readText_of_writeText (Prod.ext rfl rfl))).2 (by decide)
    exact List.reverse_perm [_, _, _]

end QueryBridge
