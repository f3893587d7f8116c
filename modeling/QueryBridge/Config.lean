import QueryBridge.FileTree
import QueryBridge.Json.Reader

/-!
# Configuration

What a user can set, kept in a JSON file. Every setting has a default, so a
file may give any of them; the default place of the history depends on the
environment.

* `BridgeConfig.load`: the settings of a file, checked.
* `BridgeConfig.save`: writes all settings.
* `BridgeConfig.validate`: refuses a buffer without room.
-/

namespace QueryBridge

open Json (Value Read)

/-- The variables that tell where a user keeps data. -/
structure Environment where
  dataHome : Option String
  home : Option String
deriving DecidableEq, Repr

/-- Where the history is kept unless a file says otherwise. -/
def Environment.historyPath (env : Environment) : String :=
  let base :=
    match env.dataHome, env.home with
    | some d, _ => d
    | none, some h => FilePath.join h ".local/share"
    | none, none => "."
  FilePath.join (FilePath.join base "loper") "history.json"

/-- The settings of the history. -/
structure HistoryConfig where
  path : String
  /-- How many entries are kept; zero keeps all. -/
  maxEntries : UInt64
deriving DecidableEq, Repr

/-- All settings. -/
structure BridgeConfig where
  /-- How many frames wait between a query's pump and its reader. -/
  chunkBuffer : UInt64
  history : HistoryConfig
deriving DecidableEq, Repr

/-- The default settings of the history. -/
def HistoryConfig.default (env : Environment) : HistoryConfig := ⟨env.historyPath, 1000⟩

/-- The default settings. -/
def BridgeConfig.default (env : Environment) : BridgeConfig := ⟨10, .default env⟩

/-! ## As JSON -/

namespace HistoryConfig

def toValue (c : HistoryConfig) : Value :=
  .object [("path", .string c.path), ("max_entries", .ofNat c.maxEntries.toNat)]

/-- The settings that a file gives. -/
structure Given where
  path : Option String := none
  maxEntries : Option UInt64 := none

/-- A number that fits 64 bits. -/
def readWord (ts : List Json.Token) : Read UInt64 :=
  (Json.natural (UInt64.size - 1) ts).map fun (n, ts) => (UInt64.ofNat n, ts)

def fields : List (Json.Field Given) :=
  [ { name := "path"
      required := false
      given := fun c => c.path.isSome
      read := fun _ c ts => (Json.text ts).map fun (p, ts) => ({ c with path := some p }, ts) },
    { name := "max_entries"
      required := false
      given := fun c => c.maxEntries.isSome
      read := fun _ c ts =>
        (readWord ts).map fun (n, ts) => ({ c with maxEntries := some n }, ts) } ]

/-- Settings off the front of tokens; the rest are the defaults of the environment. -/
def read (env : Environment) (outer : Nat) (ts : List Json.Token) : Read HistoryConfig :=
  (Json.record fields {} outer ts).map fun (c, ts) =>
    (⟨c.path.getD env.historyPath, c.maxEntries.getD 1000⟩, ts)

/-- The settings that a text holds. -/
def decode (env : Environment) (text : String) : Except DecodeProblem HistoryConfig :=
  Json.decode (read env 0) text

end HistoryConfig

namespace BridgeConfig

def toValue (c : BridgeConfig) : Value :=
  .object [("chunk_buffer", .ofNat c.chunkBuffer.toNat), ("history", c.history.toValue)]

/-- The settings that a file gives. -/
structure Given where
  chunkBuffer : Option UInt64 := none
  history : Option HistoryConfig := none

def fields (env : Environment) : List (Json.Field Given) :=
  [ { name := "chunk_buffer"
      required := false
      given := fun c => c.chunkBuffer.isSome
      read := fun _ c ts => (HistoryConfig.readWord ts).map fun (n, ts) =>
        ({ c with chunkBuffer := some n }, ts) },
    { name := "history"
      required := false
      given := fun c => c.history.isSome
      read := fun outer c ts => (HistoryConfig.read env outer ts).map fun (h, ts) =>
        ({ c with history := some h }, ts) } ]

/-- Settings off the front of tokens; the rest are the defaults of the environment. -/
def read (env : Environment) (outer : Nat) (ts : List Json.Token) : Read BridgeConfig :=
  (Json.record (fields env) {} outer ts).map fun (c, ts) =>
    (⟨c.chunkBuffer.getD 10, c.history.getD (.default env)⟩, ts)

/-- The settings that a text holds. -/
def decode (env : Environment) (text : String) : Except DecodeProblem BridgeConfig :=
  Json.decode (read env 0) text

/-! ## As a file -/

/-- A buffer has to have room for a frame. -/
def validate (c : BridgeConfig) : Except Failure Unit :=
  if c.chunkBuffer = 0 then .error (.invalidArgument "chunk_buffer must be greater than zero")
  else .ok ()

/-- The settings of a file, which are checked. Without a file they are the defaults. -/
def load (env : Environment) (t : FileTree) (path : String) : Except Failure BridgeConfig := do
  let c ←
    match t.readText (.ofString path) with
    | .ok text => (decode env text).mapError .json
    | .error .notFound => .ok (.default env)
    | .error e => .error (.io e.text)
  c.validate
  return c

/-- Writes all settings, and creates the directories above the file. -/
def save (c : BridgeConfig) (t : FileTree) (path : String) : FileTree × Except Failure Unit :=
  match t.makeParents (.ofString path) with
  | (t, .error e) => (t, .error (.io e.text))
  | (t, .ok ()) =>
    match t.writeText (.ofString path) c.toValue.indented with
    | (t, .error e) => (t, .error (.io e.text))
    | (t, .ok ()) => (t, .ok ())

end BridgeConfig

end QueryBridge
