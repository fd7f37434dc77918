import SynthReport.Files.Path

/-! # File trees

The files that a run can see and change, around its working directory.

* **`Place`** — where something stands, by the way from the working directory; **`Place.up`** and
  **`Place.down`** keep to one way for each place, so that two spellings of a path lead to one
  place, also where they leave the working directory and come back;
* **`FileTree`** — files and directories by their place; a place on the way to an entry is a
  directory;
* **`FileError`** — why a path cannot be used, with the wording of the system;
* **`FileTree.find`** — what a path leads to;
* **`FileTree.write`** — a file created or overwritten at a path. -/

namespace SynthReport

/-- **Why a path cannot be used.** -/
inductive FileError where
  | notFound
  | notADirectory
  | isADirectory
  | nameTooLong
  /-- A reason that a file tree does not know. -/
  | other (reason : String)
deriving DecidableEq

/-- The wording of the system, with the number of the error. -/
def FileError.message : FileError → String
  | notFound => "No such file or directory (os error 2)"
  | notADirectory => "Not a directory (os error 20)"
  | isADirectory => "Is a directory (os error 21)"
  | nameTooLong => "File name too long (os error 36)"
  | other reason => reason

/-- **What stands at a place.** -/
inductive FileEntry where
  | file (content : ByteArray)
  | directory

/-- Files are equal if their bytes are. -/
instance : DecidableEq FileEntry
  | .file a, .file b =>
    decidable_of_iff (a.data = b.data) (by rw [FileEntry.file.injEq, ByteArray.ext_iff])
  | .directory, .directory => isTrue rfl
  | .file _, .directory | .directory, .file _ => isFalse nofun

/-- **A place**, by the way there from the working directory: a step up is written with two dots, and
steps up come first. The way goes up no further than it has to, so each place has one way. -/
abbrev Place : Type := List String

namespace Place

/-- The working directory or one above it. These are always there. -/
def isAbove (place : Place) : Bool := place.all (· = "..")

/-- The root, seen from a working directory that is reached from there by some names. -/
def root (home : List String) : Place := List.replicate home.length ".."

/-- The directory above; the root is above itself. -/
def up (home : List String) (place : Place) : Place :=
  if place.isAbove then if place.length < home.length then ".." :: place else place
  else place.dropLast

/-- The place of a name in a directory. Above the working directory, one name leads back down to
it. -/
def down (home : List String) (place : Place) (name : String) : Place :=
  if place.isAbove ∧ home[home.length - place.length]? = some name then place.dropLast
  else place ++ [name]

end Place

/-- The names that lead from the root to the working directory of a run, if no others are given. -/
def workingDirectory : List String := ["tmp", "run"]

/-- **The files around a working directory** that is reached from the root by some names. -/
structure FileTree (home : List String := workingDirectory) where
  entries : List (Place × FileEntry)

namespace FileTree

variable {home : List String}

/-- **What stands at a place**: an entry of its own, or a directory on the way to one. -/
def at? (tree : FileTree home) (place : Place) : Option FileEntry :=
  if place.isAbove then some .directory
  else
    match tree.entries.find? (·.1 = place) with
    | some (_, entry) => some entry
    | none =>
      if tree.entries.any fun (other, _) => place.isPrefixOf other then some .directory else none

/-- The longest name of a file, in bytes. -/
def maxName : Nat := 255

/-- The longest path, in bytes. -/
def maxPath : Nat := 4095

/-- One step from a directory into the next. -/
def enter (tree : FileTree home) (place : Place) (piece : String) : Except FileError Place :=
  if piece = "." then .ok place
  else if piece = ".." then .ok (place.up home)
  else if maxName < piece.utf8ByteSize then .error .nameTooLong
  else
    match tree.at? (place.down home piece) with
    | none => .error .notFound
    | some (.file _) => .error .notADirectory
    | some .directory => .ok (place.down home piece)

/-- **The directory of a path and its last name**, if every step on the way is a directory. -/
def locate (tree : FileTree home) (path : String) : Except FileError (Place × Option String) :=
  let pieces := pathPieces path
  let start : Place := if isAbsolute path then Place.root home else []
  if maxPath < path.utf8ByteSize then .error .nameTooLong
  else if path = "" then .error .notFound
  else do
    let directory ← pieces.dropLast.foldlM tree.enter start
    return (directory, pieces.getLast?)

/-- A last name that leads to a directory whatever is there. -/
def isDots (name : String) : Bool := name = "." || name = ".."

/-- **What a path leads to.** -/
def find (tree : FileTree home) (path : String) : Except FileError FileEntry := do
  match ← tree.locate path with
  | (_, none) => return .directory
  | (directory, some name) =>
    if isDots name then return .directory
    else if maxName < name.utf8ByteSize then throw .nameTooLong
    else
      match tree.at? (directory.down home name) with
      | none => throw .notFound
      | some (.file content) =>
        if endsInSlash path then throw .notADirectory else return .file content
      | some .directory => return .directory

/-- **The path names a file.** -/
def isFile (tree : FileTree home) (path : String) : Bool :=
  match tree.find path with
  | .ok (.file _) => true
  | _ => false

/-- The content of the file at a path. -/
def read (tree : FileTree home) (path : String) : Except FileError ByteArray := do
  match ← tree.find path with
  | .file content => return content
  | .directory => throw .isADirectory

/-- The place where a file would be written for a path. -/
def target (tree : FileTree home) (path : String) : Except FileError Place := do
  match ← tree.locate path with
  | (_, none) => throw .isADirectory
  | (directory, some name) =>
    if isDots name ∨ endsInSlash path then throw .isADirectory
    else if maxName < name.utf8ByteSize then throw .nameTooLong
    else
      match tree.at? (directory.down home name) with
      | some .directory => throw .isADirectory
      | _ => return directory.down home name

/-- The tree with a file at a place, in place of what stood there. -/
def put (tree : FileTree home) (place : Place) (content : ByteArray) : FileTree home where
  entries :=
    if tree.entries.any (·.1 = place) then
      tree.entries.map fun entry => if entry.1 = place then (place, .file content) else entry
    else tree.entries ++ [(place, .file content)]

/-- **The tree after a file was created or overwritten at a path.** -/
def write (tree : FileTree home) (path : String) (content : ByteArray) :
    Except FileError (FileTree home) := do
  return tree.put (← tree.target path) content

end FileTree

end SynthReport
