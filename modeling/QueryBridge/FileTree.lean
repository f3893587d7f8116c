import QueryBridge.Text.Split

/-!
# File trees

The files below one directory, as a value. Paths are relative to it; their
components are found one after another, so a missing directory, a file in the
place of a directory and a directory in the place of a file are told apart.

* `FileTree.read`, `FileTree.readText`: what is in a file.
* `FileTree.makeParents`: creates the directories above a path.
* `FileTree.write`: replaces what is in a file.
-/

namespace QueryBridge

/-- Why a file cannot be used. -/
inductive FileProblem
  | notFound
  /-- A file stands where a directory has to be. -/
  | notDirectory
  /-- A directory stands where a file has to be. -/
  | isDirectory
  /-- The name cannot be that of a file. -/
  | invalidName
  /-- The bytes are not text in UTF-8. -/
  | notText
deriving DecidableEq, Repr

/-- The words for a problem with a file. -/
def FileProblem.text : FileProblem → String
  | notFound => "no such file or directory"
  | notDirectory => "not a directory"
  | isDirectory => "is a directory"
  | invalidName => "invalid file name"
  | notText => "not text in UTF-8"

/-- What stands at a place in the tree. -/
inductive FileEntry
  | directory
  | file (contents : ByteArray)

/-- A place in the tree: the names from the root down. -/
abbrev Location := List String

/-- A path: its components, and whether it can only name a directory. -/
structure FilePath where
  components : List String
  isDirectory : Bool
deriving DecidableEq, Repr

namespace FilePath

/-- The path of a text. Empty components and single dots lead nowhere; at the
end they ask for a directory, unless the whole text is empty. -/
def ofString (text : String) : FilePath :=
  let parts := (Text.split '/' text.toList).map String.ofList
  { components := parts.filter fun p => p ≠ "" && p ≠ "."
    isDirectory := text ≠ "" && (parts.getLastD "" = "" || parts.getLastD "" = ".") }

/-- The path of the empty text: not even the directory that paths start from. -/
def isEmpty (p : FilePath) : Bool := p.components.isEmpty && !p.isDirectory

/-- Whether a NUL stands in one of the components. A system would read no further. -/
def hasNul (components : List String) : Bool := components.any (·.toList.any (·.toNat = 0))

/-- Two paths one after the other. A second path that starts at the root stands alone. -/
def join (base part : String) : String :=
  if part.toList.head? = some '/' || base = "" then part
  else if base.toList.getLast? = some '/' then base ++ part
  else base ++ "/" ++ part

end FilePath

/-- The files below one directory. -/
structure FileTree where
  entries : List (Location × FileEntry)

namespace FileTree

/-- The directory with nothing in it. -/
def empty : FileTree := ⟨[]⟩

instance : EmptyCollection (FileTree) := ⟨empty⟩

/-- What stands at a place. The root is a directory. -/
def get? (t : FileTree) : Location → Option FileEntry
  | [] => some .directory
  | l => t.entries.lookup l

/-- Puts an entry at a place. -/
def set (t : FileTree) (l : Location) (e : FileEntry) : FileTree :=
  ⟨(l, e) :: t.entries.filter (·.1 ≠ l)⟩

/-- Whether a component is short enough for the name of a file. -/
def isName (name : String) : Bool := name.utf8ByteSize ≤ 255

/-- The place that the components lead to from a directory. All but the last
have to be directories; the last one need not exist. -/
def locateFrom (t : FileTree) : Location → List String → Except FileProblem Location
  | here, [] => .ok here
  | here, name :: rest =>
    if !isName name then .error .invalidName
    else
      let next := if name = ".." then here.dropLast else here ++ [name]
      match rest, t.get? next with
      | [], _ => .ok next
      | _ :: _, some .directory => locateFrom t next rest
      | _ :: _, some (.file _) => .error .notDirectory
      | _ :: _, none => .error .notFound

/-- The place of a path. The empty path has none, and a NUL anywhere refuses the
whole of it before anything is looked at. -/
def locate (t : FileTree) (p : FilePath) : Except FileProblem Location :=
  if p.isEmpty then .error .notFound
  else if FilePath.hasNul p.components then .error .invalidName
  else t.locateFrom [] p.components

/-- The bytes of a file. -/
def read (t : FileTree) (p : FilePath) : Except FileProblem ByteArray := do
  let l ← t.locate p
  match t.get? l with
  | none => .error .notFound
  | some .directory => .error .isDirectory
  | some (.file contents) => if p.isDirectory then .error .notDirectory else .ok contents

/-- The text of a file. -/
def readText (t : FileTree) (p : FilePath) : Except FileProblem String := do
  match String.fromUTF8? (← t.read p) with
  | some text => .ok text
  | none => .error .notText

/-- Creates the directories that the components lead through. -/
def makeFrom (t : FileTree) : Location → List String → FileTree × Except FileProblem Unit
  | _, [] => (t, .ok ())
  | here, name :: rest =>
    if !isName name then (t, .error .invalidName)
    else
      let next := if name = ".." then here.dropLast else here ++ [name]
      match t.get? next with
      | some .directory => makeFrom t next rest
      | some (.file _) => (t, .error .notDirectory)
      | none => makeFrom (t.set next .directory) next rest

/-- Creates the directories that the components lead through from the root, or
none if a NUL stands in one of them. -/
def makeAll (t : FileTree) (names : List String) : FileTree × Except FileProblem Unit :=
  if FilePath.hasNul names then (t, .error .invalidName) else t.makeFrom [] names

/-- Creates a directory and those above it. -/
def makeDirectory (t : FileTree) (p : FilePath) : FileTree × Except FileProblem Unit :=
  t.makeAll p.components

/-- Creates the directories above a path. What is wrong with its last component
shows only when the file itself is used. -/
def makeParents (t : FileTree) (p : FilePath) : FileTree × Except FileProblem Unit :=
  t.makeAll p.components.dropLast

/-- Replaces what is in a file, or creates it in a directory that exists. -/
def write (t : FileTree) (p : FilePath) (contents : ByteArray) :
    FileTree × Except FileProblem Unit :=
  match t.locate p with
  | .error e => (t, .error e)
  | .ok l =>
    match t.get? l with
    | some .directory => (t, .error .isDirectory)
    | some (.file _) =>
      if p.isDirectory then (t, .error .notDirectory) else (t.set l (.file contents), .ok ())
    | none =>
      if p.isDirectory then (t, .error .isDirectory) else (t.set l (.file contents), .ok ())

/-- Writes a text. -/
def writeText (t : FileTree) (p : FilePath) (text : String) : FileTree × Except FileProblem Unit :=
  t.write p text.toUTF8

end FileTree

end QueryBridge
