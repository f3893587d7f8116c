import QueryBridge.Config
import QueryBridge.Text.Blank

/-!
# Command history

The commands that were entered, oldest first, in a JSON file that is read and
written at every append. Blank commands and immediate repeats are not kept.

* `FileHistory.append`: records a command.
* `FileHistory.load`: the commands, and the place after the newest.
-/

namespace QueryBridge

open Json (Value Read)

/-- Where a history is kept, and how many entries it keeps; zero keeps all. -/
structure FileHistory where
  path : String
  maxEntries : UInt64
deriving DecidableEq, Repr

/-- A history as it is loaded. -/
structure HistorySnapshot where
  entries : List String
  /-- The place after the newest entry. -/
  cursor : Nat
deriving DecidableEq, Repr

/-- What is in a history file. -/
structure HistoryFile where
  entries : List String
deriving DecidableEq, Repr

namespace HistoryFile

def toValue (f : HistoryFile) : Value := .object [("entries", .array (f.entries.map .string))]

def fields : List (Json.Field (Option (List String))) :=
  [ { name := "entries"
      required := false
      given := Option.isSome
      read := fun _ _ ts => (Json.texts ts).map fun (es, ts) => (some es, ts) } ]

/-- A history off the front of tokens; without entries it is empty. -/
def read (outer : Nat) (ts : List Json.Token) : Read HistoryFile :=
  (Json.record fields none outer ts).map fun (es, ts) => (⟨es.getD []⟩, ts)

/-- The history that a text holds. -/
def decode (text : String) : Except DecodeProblem HistoryFile := Json.decode (read 0) text

end HistoryFile

namespace FileHistory

/-- The history that the settings ask for. -/
def ofConfig (c : HistoryConfig) : FileHistory := ⟨c.path, c.maxEntries⟩

/-- What the file holds; a missing file is empty. -/
def read (h : FileHistory) (t : FileTree) : Except Failure HistoryFile :=
  match t.readText (.ofString h.path) with
  | .ok text => (HistoryFile.decode text).mapError .json
  | .error .notFound => .ok ⟨[]⟩
  | .error e => .error (.io e.text)

/-- The newest entries, as many as are kept. -/
def trim (limit : Nat) (entries : List String) : List String :=
  if limit = 0 then entries else entries.drop (entries.length - limit)

/-- Writes the entries, and creates the directories above the file. -/
def write (h : FileHistory) (t : FileTree) (entries : List String) :
    FileTree × Except Failure Unit :=
  match t.makeParents (.ofString h.path) with
  | (t, .error e) => (t, .error (.io e.text))
  | (t, .ok ()) =>
    match t.writeText (.ofString h.path) (HistoryFile.toValue ⟨entries⟩).indented with
    | (t, .error e) => (t, .error (.io e.text))
    | (t, .ok ()) => (t, .ok ())

/-- Records a command without the blanks at its end. A blank command is
accepted without a look at the file, a repeat of the newest without a change. -/
def append (h : FileHistory) (t : FileTree) (text : String) : FileTree × Except Failure Unit :=
  let entry := Text.trimEnd text
  if entry.toList.all Text.isBlank then (t, .ok ())
  else
    match h.read t with
    | .error e => (t, .error e)
    | .ok f =>
      if f.entries.getLast? = some entry then (t, .ok ())
      else h.write t (trim h.maxEntries.toNat (f.entries ++ [entry]))

/-- The commands, oldest first. -/
def load (h : FileHistory) (t : FileTree) : Except Failure HistorySnapshot :=
  (h.read t).map fun f => ⟨f.entries, f.entries.length⟩

end FileHistory

end QueryBridge
