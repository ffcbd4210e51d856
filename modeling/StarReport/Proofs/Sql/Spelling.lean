import StarReport.Proofs.Sql.Delimited

/-!
Statements as characters. The pieces of a statement are laid out one after another, and a text
that follows them is carried along, so each part of a statement can be looked at with what stands
after it.
-/

set_option autoImplicit false
set_option relaxedAutoImplicit false

namespace StarReport.Sql

/-- Pieces as the characters that a mode writes. -/
def spell (caseSensitive : Bool) (pieces : List Piece) : List Char :=
  pieces.flatMap fun piece => (piece.write caseSensitive).toList

variable {caseSensitive : Bool}

@[simp] theorem spell_nil : spell caseSensitive [] = [] := rfl

@[simp] theorem spell_fixed (text : String) (pieces : List Piece) :
    spell caseSensitive (.fixed text :: pieces) = text.toList ++ spell caseSensitive pieces := rfl

@[simp] theorem spell_name (name : String) (pieces : List Piece) :
    spell caseSensitive (.name name :: pieces) =
      spellName caseSensitive name ++ spell caseSensitive pieces := rfl

@[simp] theorem spell_append (pieces pieces' : List Piece) :
    spell caseSensitive (pieces ++ pieces') =
      spell caseSensitive pieces ++ spell caseSensitive pieces' :=
  List.flatMap_append

theorem toList_text (statement : Statement) :
    (statement.text caseSensitive).toList = spell caseSensitive statement.pieces := by
  rw [Statement.text, String.toList_join, List.flatMap_map, spell]

theorem spell_ref (ref : ColumnRef) (rest : List Char) :
    spell caseSensitive ref.pieces ++ rest =
      spellName caseSensitive ref.table ++ '.' :: (spellName caseSensitive ref.column ++ rest) := by
  simp [ColumnRef.pieces]

def spellLabel : Option String → List Char
  | none => []
  | some label => ' ' :: 'a' :: 's' :: ' ' :: (Quoted.quote label).toList

theorem spell_output (output : OutputColumn) (rest : List Char) :
    spell caseSensitive output.pieces ++ rest =
      match output.function with
      | none => spell caseSensitive output.source.pieces ++ (spellLabel output.label ++ rest)
      | some function => function.text.toList ++ '(' ::
          (spell caseSensitive output.source.pieces ++ ')' :: (spellLabel output.label ++ rest)) := by
  rcases output with ⟨source, _ | function, _ | label⟩ <;>
    simp [OutputColumn.pieces, spellLabel, Piece.write, spell]

/-- What stands after the first entry of a list. -/
def spellTail (caseSensitive : Bool) (entries : List (List Piece)) (rest : List Char) :
    List Char :=
  if entries.isEmpty then rest
  else ',' :: '\n' :: (spell caseSensitive (indentedLines entries) ++ rest)

theorem spell_indentedLines (entry : List Piece) (entries : List (List Piece))
    (rest : List Char) : spell caseSensitive (indentedLines (entry :: entries)) ++ rest =
      ' ' :: ' ' :: ' ' :: ' ' ::
        (spell caseSensitive entry ++ spellTail caseSensitive entries rest) := by
  cases entries with
  | nil => simp [indentedLines, spellTail]
  | cons next entries => simp [indentedLines, spellTail]

theorem spell_join (root : String) (join : Join) (rest : List Char) :
    spell caseSensitive (join.pieces root) ++ rest =
      "\njoin ".toList ++ (spellName caseSensitive join.table ++ ' ' :: ("on ".toList ++
        (spell caseSensitive (ColumnRef.mk join.table join.primaryKey).pieces ++ ' ' ::
          ("= ".toList ++
            (spell caseSensitive (ColumnRef.mk root join.column).pieces ++ rest))))) := by
  simp [Join.pieces]

def spellGrouping (caseSensitive : Bool) (grouping : List ColumnRef) : List Char :=
  if grouping.isEmpty then []
  else "\ngroup by\n".toList ++
    spell caseSensitive (indentedLines (grouping.map ColumnRef.pieces))

theorem spell_statement (statement : Statement) :
    spell caseSensitive statement.pieces =
      "select\n".toList ++
        (spell caseSensitive (indentedLines (statement.outputs.map OutputColumn.pieces)) ++ '\n' ::
          ("from ".toList ++ (spellName caseSensitive statement.root ++
            (spell caseSensitive (statement.joins.flatMap (Join.pieces statement.root)) ++
              spellGrouping caseSensitive statement.grouping)))) := by
  cases grouping : statement.grouping.isEmpty <;>
    simp [Statement.pieces, spellGrouping, grouping]

/-! ### What stands after a part -/

/-- A text that can stand after an entry of a list. -/
def EndsEntry (rest : List Char) : Prop := ∀ c ∈ rest.head?, c = ',' ∨ c = '\n'

theorem EndsEntry.endsName {rest : List Char} (ends : EndsEntry rest) : EndsName rest := by
  intro c head
  rcases ends c head with rfl | rfl <;> decide

/-- A text that can stand after a list of entries or joins. -/
def EndsLines (rest : List Char) : Prop := ∀ c ∈ rest.head?, c = '\n'

theorem EndsLines.endsEntry {rest : List Char} (ends : EndsLines rest) : EndsEntry rest :=
  fun c head => .inr (ends c head)

theorem endsLines_cons (rest : List Char) : EndsLines ('\n' :: rest) := by
  intro c head
  exact (Option.some.inj head).symm

theorem endsLines_joins {root : String} {rest : List Char} (joins : List Join)
    (ends : EndsLines rest) :
    EndsLines (spell caseSensitive (joins.flatMap (Join.pieces root)) ++ rest) := by
  cases joins with
  | nil => exact ends
  | cons join joins =>
    rw [List.flatMap_cons, spell_append, List.append_assoc, spell_join]
    exact endsLines_cons _

end StarReport.Sql
