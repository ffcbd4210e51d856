import StarReport.Json.Token
import StarReport.Tree.Decode

/-!
Reading of JSON texts. Reading always gives a tree: where the grammar is broken the tree is torn and
the rest of the text is dropped, so that a decoder meets everything before the fault first. Objects
keep all their members, repeated ones included.
-/

set_option autoImplicit false
set_option relaxedAutoImplicit false

namespace StarReport.Json

open StarReport.Tree (Fault Decoder)

mutual

/-- The value at the head of the tokens, and the tokens after it. -/
def value : Nat → List Token → Tree × List Token
  | 0, _ => (.torn, [])
  | _ + 1, .null :: rest => (.null, rest)
  | _ + 1, .flag b :: rest => (.flag b, rest)
  | _ + 1, .integer n :: rest => (.integer n, rest)
  | _ + 1, .decimal spelling :: rest => (.decimal spelling, rest)
  | _ + 1, .excess :: rest => (.excess, rest)
  | _ + 1, .text characters :: rest => (.text characters, rest)
  | _ + 1, .openList :: .closeList :: rest => (.list [], rest)
  | bound + 1, .openList :: rest =>
    let (items, rest) := listItems bound rest
    (.list items, rest)
  | _ + 1, .openRecord :: .closeRecord :: rest => (.record [], rest)
  | bound + 1, .openRecord :: rest =>
    let (members, rest) := recordMembers bound rest
    (.record members, rest)
  | _ + 1, _ => (.torn, [])

/-- The items of a list up to its closing bracket; there is at least one. -/
def listItems : Nat → List Token → List Tree × List Token
  | 0, _ => ([.torn], [])
  | bound + 1, tokens =>
    match value bound tokens with
    | (item, .comma :: rest) =>
      let (items, rest) := listItems bound rest
      (item :: items, rest)
    | (item, .closeList :: rest) => ([item], rest)
    | (item, _) => ([item, .torn], [])

/-- The members of an object up to its closing brace; there is at least one. -/
def recordMembers : Nat → List Token → List (Characters × Tree) × List Token
  | 0, _ => ([(none, .torn)], [])
  | bound + 1, .text key :: .colon :: rest =>
    match value bound rest with
    | (item, .comma :: rest) =>
      let (members, rest) := recordMembers bound rest
      ((key, item) :: members, rest)
    | (item, .closeRecord :: rest) => ([(key, item)], rest)
    | (item, _) => ([(key, item), (none, .torn)], [])
  | _ + 1, .text key :: _ => ([(key, .torn)], [])
  | _ + 1, _ => ([(none, .torn)], [])

end

/-- The tree at the head of a text, and the tokens after it. -/
def read (text : String) : Tree × List Token :=
  let tokens := tokens text.toList
  value (2 * tokens.length + 1) tokens

/-- Numbers that no field reads need not be held, and a list of fields ends with the last. -/
def dialect : Tree.Dialect := ⟨true, false⟩

/-- Decode a text. After the value nothing but blanks may come. -/
def decode {α : Type} (decoder : Decoder α) (text : String) : Except Fault α := do
  let decoded ← decoder dialect (read text).1
  if (read text).2.isEmpty then .ok decoded else .error .malformed

def tree? (text : String) : Option Tree :=
  let (tree, rest) := read text
  if tree.intact && rest.isEmpty then some tree else none

end StarReport.Json
