import StarReport.Tree.Basic

/-!
Tables of TOML under construction. A table comes into being by a header of its own, as a parent
implied by another header, or along a dotted key; a table written inline and every other value is
closed, and nothing can be added to it. A header may define an implied table, once. A dotted key
may pass through tables that no header defined, and its last table must have been made by dotted
keys. A path that meets an array of tables goes on in the last of them.
-/

set_option autoImplicit false
set_option relaxedAutoImplicit false

namespace StarReport.Toml

inductive Origin where
  | header
  | implied
  | dotted
deriving DecidableEq

inductive Node where
  | closed (tree : Tree)
  | table (origin : Origin) (entries : List (String × Node))
  | array (elements : List (List (String × Node)))

/-- The entries of a table, in the order of their first mention. -/
abbrev Entries := List (String × Node)

/-- Change what is held under a key, which is new where the change starts from nothing. -/
def alter (key : String) (change : Option Node → Option Node) : Entries → Option Entries
  | [] => (change none).map fun node => [(key, node)]
  | (held, node) :: rest =>
    if held = key then (change (some node)).map fun node => (held, node) :: rest
    else (alter key change rest).map ((held, node) :: ·)

def alterLast (change : Entries → Option Entries) : List Entries → Option (List Entries)
  | [] => none
  | [entries] => (change entries).map ([·])
  | entries :: rest => (alterLast change rest).map (entries :: ·)

/-- Give a key a value. All but the last part of the key name tables on the way. -/
def assign (tree : Tree) : List String → Entries → Option Entries
  | [] => fun _ => none
  | [key] => alter key fun
    | none => some (.closed tree)
    | some _ => none
  | key :: rest => alter key fun
    | none => (assign tree rest []).map (.table .dotted)
    | some (.table .dotted entries) => (assign tree rest entries).map (.table .dotted)
    | some (.table .implied entries) =>
      if rest.length = 1 then none else (assign tree rest entries).map (.table .implied)
    | some (.array elements) =>
      if rest.length = 1 then none else (alterLast (assign tree rest) elements).map .array
    | some _ => none

/-- Go to the parent of the last part of a header's path, implying tables on the way, and change
what is held under that part. -/
def descend (change : Option Node → Option Node) : List String → Entries → Option Entries
  | [] => fun _ => none
  | [key] => alter key change
  | key :: rest => alter key fun
    | none => (descend change rest []).map (.table .implied)
    | some (.table origin entries) => (descend change rest entries).map (.table origin)
    | some (.array elements) => (alterLast (descend change rest) elements).map .array
    | some (.closed _) => none

/-- A header defines a table that is new or was only implied. -/
def defineTable : Option Node → Option Node
  | none => some (.table .header [])
  | some (.table .implied entries) => some (.table .header entries)
  | some _ => none

/-- A doubled header adds an element to an array of tables, which it may begin. -/
def appendElement : Option Node → Option Node
  | none => some (.array [[]])
  | some (.array elements) => some (.array (elements ++ [[]]))
  | some _ => none

/-- Change the entries of the table that a header's path leads to. -/
def within (change : Entries → Option Entries) : List String → Entries → Option Entries
  | [] => change
  | key :: rest => alter key fun
    | some (.table origin entries) => (within change rest entries).map (.table origin)
    | some (.array elements) => (alterLast (within change rest) elements).map .array
    | _ => none

mutual

def Node.tree : Node → Tree
  | .closed tree => tree
  | .table _ entries => .record (entriesTree entries)
  | .array elements => .list (elementsTree elements)

def entriesTree : Entries → List (Characters × Tree)
  | [] => []
  | (key, node) :: rest => (some key, node.tree) :: entriesTree rest

def elementsTree : List Entries → List Tree
  | [] => []
  | entries :: rest => .record (entriesTree entries) :: elementsTree rest

end

end StarReport.Toml
