import StarReport.Files.Path

/-!
Files as the program sees them: what is at a place, when it was last changed and what it holds. A
place is the list of names on the way to it from the root, which is a directory; a path leads to a
place through directories only. Names have at most 255 bytes and paths less than 4096.
-/

set_option autoImplicit false
set_option relaxedAutoImplicit false

namespace StarReport

namespace Files

/-- A place in the tree of directories, as the names from the root. -/
abbrev Place := List String

inductive Entry where
  | file (content : ByteArray) (modified : Int)
  | directory (modified : Int)

def Entry.modified : Entry → Int
  | .file _ time => time
  | .directory time => time

/-- Why a place is not reached or an entry is not read although the path names something. -/
inductive Failure where
  | notDirectory
  | nameTooLong
  | nullCharacter
  | isDirectory
  | invalidText
deriving DecidableEq

def Failure.message : Failure → String
  | .notDirectory => "Not a directory (os error 20)"
  | .nameTooLong => "File name too long (os error 36)"
  | .nullCharacter => "file name contained an unexpected NUL byte"
  | .isDirectory => "Is a directory (os error 21)"
  | .invalidText => "stream did not contain valid UTF-8"

inductive Obstacle where
  | missing
  | blocked (failure : Failure)
deriving DecidableEq

/-- What a file holds as a text. -/
def Entry.text : Entry → Except Failure String
  | .file content _ =>
    match String.fromUTF8? content with
    | some text => .ok text
    | none => .error .invalidText
  | .directory _ => .error .isDirectory

end Files

open Files

structure Files where
  workingDirectory : Place
  entry? : Place → Option Entry

namespace Files

/-- The entry at a place; the root is always a directory. -/
def at? (files : Files) (place : Place) : Option Entry :=
  match files.entry? place with
  | some entry => some entry
  | none => if place.isEmpty then some (.directory 0) else none

/-- Go on from a place by one component of a path, which takes a directory. -/
def step (files : Files) (place : Place) (component : List Char) : Except Obstacle Place :=
  match files.at? place with
  | none => .error .missing
  | some (.file _ _) => .error (.blocked .notDirectory)
  | some (.directory _) =>
    if component = [] ∨ component = ['.'] then .ok place
    else if component = ['.', '.'] then .ok place.dropLast
    else
      let name := String.ofList component
      if 255 < name.utf8ByteSize then .error (.blocked .nameTooLong) else .ok (place ++ [name])

/-- What a path leads to. The empty path leads nowhere, and no name holds a null character. -/
def find (files : Files) (path : String) : Except Obstacle Entry :=
  if path.isEmpty then .error .missing
  else if '\x00' ∈ path.toList then .error (.blocked .nullCharacter)
  else if 4096 ≤ path.utf8ByteSize then .error (.blocked .nameTooLong)
  else do
    let start := if isAbsolute path then [] else files.workingDirectory
    let place ← (split path.toList).foldlM files.step start
    match files.at? place with
    | some entry => .ok entry
    | none => .error .missing

def exists? (files : Files) (path : String) : Bool := (files.find path).isOk

/-- Put an entry at a place, making the directories above it where nothing is. -/
def write (files : Files) (place : Place) (entry : Entry) (made : Int) : Files :=
  { files with entry? := fun other =>
      if other = place then some entry
      else match files.entry? other with
        | some held => some held
        | none => if other.isPrefixOf place then some (.directory made) else none }

def remove (files : Files) (place : Place) : Files :=
  { files with entry? := fun other =>
      if place.isPrefixOf other then none else files.entry? other }

end Files

end StarReport
