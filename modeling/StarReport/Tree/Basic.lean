/-!
Trees: what a JSON or TOML text denotes. A tree also records how a text was broken: `torn` stands
where reading stopped, so the tree of a broken text holds everything before the fault. A quoted text
whose escapes pair no surrogates has no characters, and a number that is too large to be held is an
`excess`; either is a fault only to those who read it.
-/

set_option autoImplicit false
set_option relaxedAutoImplicit false

namespace StarReport

/-- The characters of a quoted text; `none` when its escapes name an unpaired surrogate. -/
abbrev Characters := Option String

inductive Tree where
  | null
  | flag (value : Bool)
  | integer (value : Int)
  | decimal (spelling : String)
  | excess
  | moment (spelling : String)
  | text (characters : Characters)
  | list (items : List Tree)
  | record (members : List (Characters × Tree))
  | torn

namespace Tree

/-- A text that has its characters. -/
def string (characters : String) : Tree := .text (some characters)

/-- A record whose keys have their characters. -/
def object (members : List (String × Tree)) : Tree :=
  .record (members.map fun member => (some member.1, member.2))

mutual

/-- Whether reading went through the whole of the tree. -/
def intact : Tree → Bool
  | .torn => false
  | .list items => intactItems items
  | .record members => intactMembers members
  | _ => true

def intactItems : List Tree → Bool
  | [] => true
  | item :: rest => intact item && intactItems rest

def intactMembers : List (Characters × Tree) → Bool
  | [] => true
  | (_, value) :: rest => intact value && intactMembers rest

end

mutual

/-- Whether every number in the tree is held. -/
def held : Tree → Bool
  | .excess => false
  | .list items => heldItems items
  | .record members => heldMembers members
  | _ => true

def heldItems : List Tree → Bool
  | [] => true
  | item :: rest => held item && heldItems rest

def heldMembers : List (Characters × Tree) → Bool
  | [] => true
  | (_, value) :: rest => held value && heldMembers rest

end

end Tree

end StarReport
