import StarReport.Text.Letters

/-!
Expansion of variables in a text. A text is split once from the left into segments: references in
braces up to the first closing one or the end, references by the longest run of name characters,
single dollar signs, and other characters. Values are put in as they are and not split again.
-/

set_option autoImplicit false
set_option relaxedAutoImplicit false

namespace StarReport

/-- What a run finds around it: the variables, and the home directory that the user's account names. -/
structure Environment where
  value? : String → Option String
  accountHome? : Option String

namespace Environment

/-- The environment of a list of variables, of which the first of a name counts, for a user without
an account. A name that is empty or holds an equals sign or a null character cannot be set. -/
def ofList (entries : List (String × String)) : Environment where
  value? name :=
    if name.isEmpty ∨ '=' ∈ name.toList ∨ '\x00' ∈ name.toList then none
    else entries.lookup name
  accountHome? := none

end Environment

namespace Settings

inductive Segment where
  | literal (c : Char)
  | braced (name : List Char) (closed : Bool)
  | bare (name : List Char)
  | dollar
deriving DecidableEq

def isNameChar (c : Char) : Bool := Text.Letters.isAlphanumeric c || c = '_'

/-- The segment that begins with a dollar sign, and the rest of the text. -/
def reference : List Char → Segment × List Char
  | '{' :: rest =>
    let after := rest.dropWhile (· ≠ '}')
    (.braced (rest.takeWhile (· ≠ '}')) !after.isEmpty, after.drop 1)
  | rest =>
    let name := rest.takeWhile isNameChar
    if name.isEmpty then (.dollar, rest) else (.bare name, rest.dropWhile isNameChar)

theorem reference_length_le (cs : List Char) : (reference cs).2.length ≤ cs.length := by
  unfold reference
  split
  · rename_i rest
    have := (List.dropWhile_suffix (· ≠ '}') : rest.dropWhile (· ≠ '}') <:+ rest).length_le
    simp only [List.length_drop, List.length_cons]
    omega
  · dsimp only
    split
    · exact Nat.le_refl _
    · exact (List.dropWhile_suffix isNameChar).length_le

def segments : List Char → List Segment
  | [] => []
  | c :: rest =>
    if c = '$' then (reference rest).1 :: segments (reference rest).2
    else .literal c :: segments rest
termination_by cs => cs.length
decreasing_by
  · have := reference_length_le rest
    simp only [List.length_cons]
    omega
  · simp

/-- The variable of an environment that a segment refers to, or its name where it is not set. -/
def resolve (environment : Environment) (name : List Char) : Except String (List Char) :=
  match environment.value? (String.ofList name) with
  | some value => .ok value.toList
  | none => .error (String.ofList name)

def Segment.expand (environment : Environment) : Segment → Except String (List Char)
  | .literal c => .ok [c]
  | .braced name _ => resolve environment name
  | .bare name => resolve environment name
  | .dollar => .ok ['$']

/-- A text with its variables replaced, or the name of the first one that is not set. -/
def expand (environment : Environment) (text : String) : Except String String :=
  ((segments text.toList).mapM (Segment.expand environment)).map fun parts =>
    String.ofList parts.flatten

end Settings

end StarReport
