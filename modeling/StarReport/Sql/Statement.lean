import StarReport.Sql.Quoted
import StarReport.Star.Aggregate

/-!
A report statement: a list of select items, a root table, joins to other tables, and grouping
columns. Its text is a sequence of pieces, each fixed or the name of a table or column, so a change
of the quoting mode changes nothing but how the names are written. Labels are always quoted, and
function names never.
-/

set_option autoImplicit false
set_option relaxedAutoImplicit false

namespace StarReport.Sql

open StarReport.Star (AggregateFunction)

structure ColumnRef where
  table : String
  column : String
deriving DecidableEq

/-- A column of the select list, perhaps aggregated and perhaps labelled. -/
structure OutputColumn where
  source : ColumnRef
  function : Option AggregateFunction
  label : Option String
deriving DecidableEq

/-- A joined table, its primary key, and the column of the root table that refers to it. -/
structure Join where
  table : String
  primaryKey : String
  column : String
deriving DecidableEq

structure Statement where
  outputs : List OutputColumn
  root : String
  joins : List Join
  grouping : List ColumnRef
deriving DecidableEq

inductive Piece where
  | fixed (text : String)
  | name (name : String)
deriving DecidableEq

/-- A piece in a quoting mode. -/
def Piece.write (caseSensitive : Bool) : Piece → String
  | .fixed text => text
  | .name n => Quoted.write caseSensitive n

def ColumnRef.pieces (ref : ColumnRef) : List Piece :=
  [.name ref.table, .fixed ".", .name ref.column]

def OutputColumn.pieces (output : OutputColumn) : List Piece :=
  let column := match output.function with
    | none => output.source.pieces
    | some function => .fixed function.text :: .fixed "(" :: (output.source.pieces ++ [.fixed ")"])
  match output.label with
  | none => column
  | some label => column ++ [.fixed " as ", .fixed (Quoted.quote label)]

/-- A join is written on a line of its own. -/
def Join.pieces (root : String) (join : Join) : List Piece :=
  .fixed "\njoin " :: .name join.table :: .fixed " on " ::
    ((⟨join.table, join.primaryKey⟩ : ColumnRef).pieces ++
      .fixed " = " :: (⟨root, join.column⟩ : ColumnRef).pieces)

/-- Entries on indented lines of their own, with a comma at the end of all but the last. -/
def indentedLines : List (List Piece) → List Piece
  | [] => []
  | [entry] => .fixed "    " :: entry
  | entry :: rest => .fixed "    " :: (entry ++ .fixed ",\n" :: indentedLines rest)

namespace Statement

/-- The whole text in pieces; without grouping columns there is no grouping clause. -/
def pieces (statement : Statement) : List Piece :=
  .fixed "select\n" :: indentedLines (statement.outputs.map OutputColumn.pieces) ++
    .fixed "\nfrom " :: .name statement.root ::
    (statement.joins.flatMap (Join.pieces statement.root) ++
      if statement.grouping.isEmpty then []
      else .fixed "\ngroup by\n" :: indentedLines (statement.grouping.map ColumnRef.pieces))

def text (caseSensitive : Bool) (statement : Statement) : String :=
  String.join (statement.pieces.map (Piece.write caseSensitive))

end Statement

end StarReport.Sql
