import StarReport.Tree.Basic

/-!
Decoding of trees. A decoder goes through a tree in the order of its text and stops at the first
fault. Fields of a record may come in any order, once each; unknown fields are passed over; a field
that is not required keeps its blank value when it is left out. A record may also be written as the
list of its fields in their own order, without those at the end that are not required. Formats
differ in what they let pass where no field reads it; a dialect says what that is.
-/

set_option autoImplicit false
set_option relaxedAutoImplicit false

namespace StarReport.Tree

/-- The first fault on the way through a tree: the text is broken there, or it is whole but says
something else than was asked for. -/
inductive Fault where
  | malformed
  | mismatched
deriving DecidableEq

/-- What a format lets pass: numbers that are not held where no field reads them, and items after
the last field of a record that is written as a list. -/
structure Dialect where
  excess : Bool
  surplus : Bool
deriving DecidableEq

/-- Whether a tree may stand where no field reads it. -/
def Dialect.passes (dialect : Dialect) (tree : Tree) : Bool :=
  tree.intact && (dialect.excess || tree.held)

/-- A way to read a value from a tree. -/
abbrev Decoder (α : Type) := Dialect → Tree → Except Fault α

/-- The fault of a tree that is not what was asked for. A list or a record is known for one by its
opening bracket, whatever comes after; a text and a number are read to their ends. -/
def misfit : Tree → Fault
  | .torn => .malformed
  | .text none => .malformed
  | .excess => .malformed
  | _ => .mismatched

namespace Decoder

def text : Decoder String
  | _, .text (some characters) => .ok characters
  | _, tree => .error tree.misfit

/-- A text or null, where null stands for no text. -/
def optionalText : Decoder (Option String)
  | _, .null => .ok none
  | dialect, tree => (text dialect tree).map some

def flag : Decoder Bool
  | _, .flag value => .ok value
  | _, tree => .error tree.misfit

def word : Decoder UInt16
  | _, .integer value =>
    if 0 ≤ value ∧ value < 65536 then .ok (UInt16.ofNat value.toNat) else .error .mismatched
  | _, tree => .error tree.misfit

def list {α : Type} (item : Decoder α) : Decoder (List α)
  | dialect, .list items => items.mapM (item dialect)
  | _, tree => .error tree.misfit

/-- A field of the records of type `α`: reading it puts its value in place. -/
structure Field (α : Type) where
  name : String
  required : Bool
  read : Dialect → Tree → α → Except Fault α

def Field.needed {α β : Type} (name : String) (value : Decoder β) (set : β → α → α) : Field α :=
  ⟨name, true, fun dialect tree blank => (value dialect tree).map (set · blank)⟩

def Field.optional {α β : Type} (name : String) (value : Decoder β) (set : β → α → α) : Field α :=
  ⟨name, false, fun dialect tree blank => (value dialect tree).map (set · blank)⟩

variable {α : Type}

/-- Read members in order into a record; `seen` holds the names of the fields read so far. A field
that comes again is a fault before its value is looked at. -/
def members (dialect : Dialect) (fields : List (Field α)) :
    List String → α → List (Characters × Tree) → Except Fault (List String × α)
  | seen, value, [] => .ok (seen, value)
  | _, _, (none, _) :: _ => .error .malformed
  | seen, value, (some name, tree) :: rest =>
    match fields.find? (·.name = name) with
    | none =>
      if dialect.passes tree then members dialect fields seen value rest else .error .malformed
    | some field =>
      if name ∈ seen then .error .mismatched
      else do
        let value ← field.read dialect tree value
        members dialect fields (name :: seen) value rest

/-- Read a list as the fields in their own order. What follows the last field is not looked at, or
breaks the text. -/
def positions (dialect : Dialect) : List (Field α) → α → List Tree → Except Fault α
  | fields, value, [] => if fields.any (·.required) then .error .mismatched else .ok value
  | [], value, _ :: _ => if dialect.surplus then .ok value else .error .malformed
  | field :: fields, value, tree :: rest => do
    let value ← field.read dialect tree value
    positions dialect fields value rest

/-- A record with the given fields, starting from a blank one. A date, which is a table to those
who read tables, has none of the fields. -/
def record (blank : α) (fields : List (Field α)) : Decoder α
  | dialect, .record entries => do
    let (seen, value) ← members dialect fields [] blank entries
    if fields.all (fun field => !field.required || field.name ∈ seen) then .ok value
    else .error .mismatched
  | _, .moment _ => if fields.any (·.required) then .error .mismatched else .ok blank
  | dialect, .list items => positions dialect fields blank items
  | _, tree => .error tree.misfit

end Decoder

end StarReport.Tree
