/-!
Paths. A path is a text with slashes between its components; empty components and single points
mean nothing. The extension of a path is what follows the last point of its last component, unless
that point is the first character of the component.
-/

set_option autoImplicit false
set_option relaxedAutoImplicit false

namespace StarReport.Files

def split : List Char → List (List Char)
  | [] => [[]]
  | '/' :: rest => [] :: split rest
  | c :: rest => match split rest with
    | [] => [[c]]
    | first :: others => (c :: first) :: others

def isAbsolute (path : String) : Bool := path.toList.head? = some '/'

/-- A relative path under a directory; an absolute one stays as it is. -/
def join (directory path : String) : String :=
  if isAbsolute path then path
  else if directory.isEmpty || directory.toList.getLast? = some '/' then directory ++ path
  else directory ++ "/" ++ path

def fileName? (path : String) : Option (List Char) :=
  match ((split path.toList).filter fun c => c ≠ [] ∧ c ≠ ['.']).getLast? with
  | some name => if name = ['.', '.'] then none else some name
  | none => none

/-- The extension of a path, empty where it has none. -/
def extension (path : String) : String :=
  match fileName? path with
  | none => ""
  | some name =>
    let tail := (name.reverse.takeWhile (· ≠ '.')).reverse
    if tail.length + 1 < name.length then String.ofList tail else ""

end StarReport.Files
