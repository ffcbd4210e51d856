import StarReport.Proofs.Sql.Run

/-!
The case mode as a toggle. The text of a query is laid out once, in fixed texts and identifiers, and
the mode decides only whether the identifiers are quoted: keywords, function names and labels are
the same in both modes, and so is the error of a query that has no text.
-/

set_option autoImplicit false
set_option relaxedAutoImplicit false

namespace StarReport.Sql

open Warehouse (Table)

/-! ### Identifiers and fixed texts -/

/-- The pieces put together, with the identifiers written in the given way. -/
def concat (write : String → String) (pieces : List Piece) : String :=
  String.join (pieces.map fun
    | .fixed text => text
    | .name name => write name)

/-- The identifiers among pieces, in order. -/
def identifiers (pieces : List Piece) : List String :=
  pieces.filterMap fun
    | .fixed _ => none
    | .name name => some name

/-- The fixed texts among pieces, in order. -/
def fixedTexts (pieces : List Piece) : List String :=
  pieces.filterMap fun
    | .fixed text => some text
    | .name _ => none

@[simp] theorem identifiers_nil : identifiers [] = [] := rfl

@[simp] theorem identifiers_fixed (text : String) (pieces : List Piece) :
    identifiers (.fixed text :: pieces) = identifiers pieces := rfl

@[simp] theorem identifiers_name (name : String) (pieces : List Piece) :
    identifiers (.name name :: pieces) = name :: identifiers pieces := rfl

@[simp] theorem identifiers_append (pieces pieces' : List Piece) :
    identifiers (pieces ++ pieces') = identifiers pieces ++ identifiers pieces' :=
  List.filterMap_append

@[simp] theorem fixedTexts_nil : fixedTexts [] = [] := rfl

@[simp] theorem fixedTexts_fixed (text : String) (pieces : List Piece) :
    fixedTexts (.fixed text :: pieces) = text :: fixedTexts pieces := rfl

@[simp] theorem fixedTexts_name (name : String) (pieces : List Piece) :
    fixedTexts (.name name :: pieces) = fixedTexts pieces := rfl

@[simp] theorem fixedTexts_append (pieces pieces' : List Piece) :
    fixedTexts (pieces ++ pieces') = fixedTexts pieces ++ fixedTexts pieces' :=
  List.filterMap_append

/-- In each mode the text of a statement is its pieces put together. -/
theorem text_eq_concat (caseSensitive : Bool) (statement : Statement) :
    statement.text caseSensitive =
      concat (Quoted.write caseSensitive) statement.pieces := by
  rw [Statement.text, concat]
  refine congrArg String.join (List.map_congr_left fun piece _ => ?_)
  cases piece <;> rfl

/-! ### What the parts of a query give -/

/-- Fixed texts of entries on indented lines of their own, with commas between them. -/
def fixedLines (entries : List (List String)) : List String :=
  [",\n"].intercalate (entries.map ("    " :: ·))

theorem identifiers_indentedLines (entries : List (List Piece)) :
    identifiers (indentedLines entries) = entries.flatMap identifiers := by
  induction entries with
  | nil => rfl
  | cons entry entries ih =>
    cases entries with
    | nil => simp [indentedLines]
    | cons next entries => simp [indentedLines, ih]

theorem fixedTexts_indentedLines (entries : List (List Piece)) :
    fixedTexts (indentedLines entries) = fixedLines (entries.map fixedTexts) := by
  induction entries with
  | nil => rfl
  | cons entry entries ih =>
    cases entries with
    | nil => simp [indentedLines, fixedLines]
    | cons next entries =>
      rw [indentedLines, fixedTexts_fixed, fixedTexts_append, fixedTexts_fixed, ih]
      · simp [fixedLines, List.intercalate_cons_cons]
      · simp

namespace Selected

/-- The identifiers of a select item. -/
def identifiers (column : Selected) : List String := [column.table.name, column.column]

/-- The fixed texts of a select item: its function and its label among them. -/
def fixedTexts (column : Selected) : List String :=
  (match column.function with
    | none => ["."]
    | some function => [function.text, "(", ".", ")"]) ++
  match column.label with
    | none => []
    | some label => [" as ", Quoted.quote label]

theorem identifiers_output (column : Selected) :
    Sql.identifiers column.output.pieces = column.identifiers := by
  rcases column with ⟨table, column, _ | label, _ | function⟩ <;> rfl

theorem fixedTexts_output (column : Selected) :
    Sql.fixedTexts column.output.pieces = column.fixedTexts := by
  rcases column with ⟨table, column, _ | label, _ | function⟩ <;> rfl

end Selected

namespace Query

/-- The identifiers of the joins from a root to a table, one join for each foreign key. -/
def joinIdentifiers (root table : Table) : List String :=
  table.primaryKey.toList.flatMap fun primaryKey =>
    (root.references table).flatMap fun edge =>
      [table.name, table.name, primaryKey, root.name, edge.column]

def joinFixedTexts (root table : Table) : List String :=
  (root.references table).flatMap fun _ => ["\njoin ", " on ", ".", " = ", "."]

/-- The columns in the grouping clause: those that are not aggregated, where grouping is due. -/
def grouped (query : Query) : List Selected :=
  if query.forceGrouping = true ∨ ∃ column ∈ query.selected, column.function ≠ none then
    Layout.plain query.selected
  else []

theorem map_source_grouped (query : Query) :
    query.grouped.map Selected.source = query.grouping := by
  rw [grouping_eq, grouped]
  split <;> rfl

/-- A table without a primary key gives no join where it is not needed for one. -/
theorem identifiers_joinsBy {root table : Table} (free : blocks root table = false) :
    identifiers ((joinsBy root table).flatMap (Join.pieces root.name)) =
      joinIdentifiers root table := by
  rw [joinsBy, List.flatMap_map, identifiers, List.filterMap_flatMap, joinIdentifiers]
  cases key : table.primaryKey with
  | some primaryKey => simp only [Option.toList_some, List.flatMap_singleton]; rfl
  | none =>
    have unreferenced : root.references table = [] := by
      simpa [blocks, key, Table.refersTo] using free
    rw [unreferenced]
    rfl

theorem fixedTexts_joinsBy (root table : Table) :
    fixedTexts ((joinsBy root table).flatMap (Join.pieces root.name)) =
      joinFixedTexts root table := by
  rw [joinsBy, List.flatMap_map, fixedTexts, List.filterMap_flatMap]
  rfl

/-! ### The two texts -/

/-- The identifiers of a query over a root and other tables: those of the select items, of the FROM
line, of the joins and of the grouping clause. -/
def clauseIdentifiers (query : Query) (root : Table) (others : List Table) : List String :=
  query.selected.flatMap Selected.identifiers ++ root.name ::
    (others.flatMap (joinIdentifiers root) ++ query.grouped.flatMap Selected.identifiers)

/-- The fixed texts of a query: keywords, punctuation, function names and quoted labels. -/
def clauseFixedTexts (query : Query) (root : Table) (others : List Table) : List String :=
  "select\n" :: fixedLines (query.selected.map Selected.fixedTexts) ++ "\nfrom " ::
    (others.flatMap (joinFixedTexts root) ++
      if query.grouped = [] then []
      else "\ngroup by\n" :: fixedLines (query.grouped.map fun _ => ["."]))

private theorem identifiers_grouping (query : Query) :
    identifiers (if query.grouping.isEmpty then []
      else .fixed "\ngroup by\n" :: indentedLines (query.grouping.map ColumnRef.pieces)) =
      query.grouped.flatMap Selected.identifiers := by
  rw [← map_source_grouped]
  cases query.grouped with
  | nil => rfl
  | cons column columns =>
    rw [if_neg (by simp), identifiers_fixed, identifiers_indentedLines, List.flatMap_map,
      List.flatMap_map]
    rfl

private theorem fixedTexts_grouping (query : Query) :
    fixedTexts (if query.grouping.isEmpty then []
      else .fixed "\ngroup by\n" :: indentedLines (query.grouping.map ColumnRef.pieces)) =
      if query.grouped = [] then []
      else "\ngroup by\n" :: fixedLines (query.grouped.map fun _ => ["."]) := by
  rw [← map_source_grouped]
  cases query.grouped with
  | nil => rfl
  | cons column columns =>
    rw [if_neg (by simp), if_neg (by simp), fixedTexts_fixed, fixedTexts_indentedLines,
      List.map_map, List.map_map]
    rfl

private theorem identifiers_statement {query : Query} {root : Table} {others : List Table}
    (free : others.find? (blocks root) = none) :
    identifiers (⟨query.selected.map Selected.output, root.name, others.flatMap (joinsBy root),
      query.grouping⟩ : Statement).pieces = query.clauseIdentifiers root others := by
  have joins : identifiers ((others.flatMap (joinsBy root)).flatMap (Join.pieces root.name)) =
      others.flatMap (joinIdentifiers root) := by
    rw [List.flatMap_assoc, identifiers, List.filterMap_flatMap]
    refine List.flatMap_congr fun table member => ?_
    exact identifiers_joinsBy (by simpa using List.find?_eq_none.mp free table member)
  simp only [Statement.pieces, List.cons_append, identifiers_fixed, identifiers_append,
    identifiers_name, identifiers_indentedLines, List.flatMap_map, joins, identifiers_grouping,
    Selected.identifiers_output, clauseIdentifiers]

private theorem fixedTexts_statement (query : Query) (root : Table) (others : List Table) :
    fixedTexts (⟨query.selected.map Selected.output, root.name, others.flatMap (joinsBy root),
      query.grouping⟩ : Statement).pieces = query.clauseFixedTexts root others := by
  have joins : fixedTexts ((others.flatMap (joinsBy root)).flatMap (Join.pieces root.name)) =
      others.flatMap (joinFixedTexts root) := by
    rw [List.flatMap_assoc, fixedTexts, List.filterMap_flatMap]
    exact List.flatMap_congr fun table _ => fixedTexts_joinsBy root table
  simp only [Statement.pieces, List.cons_append, fixedTexts_fixed, fixedTexts_append,
    fixedTexts_name, fixedTexts_indentedLines, List.map_map, Function.comp_def, joins,
    fixedTexts_grouping, Selected.fixedTexts_output, clauseFixedTexts]

/-- The statement, or the error that stands for it, does not depend on the case mode. -/
theorem sql_setCaseSensitive (query : Query) (on : Bool) :
    (query.setCaseSensitive on).sql =
      query.statement.map fun statement => concat (Quoted.write on) statement.pieces := by
  change query.statement.map (Statement.text on) = _
  exact congrArg (Except.map · query.statement) (funext (text_eq_concat on))

/-- Whatever operations led to a query, in both case modes it either fails with one error, or its
texts are one sequence of pieces put together: with the identifiers as they are where the mode is
off, and with the identifiers quoted where it is on. The identifiers are the names of tables, columns
and primary keys in the select items, the FROM line, the joins and the grouping clause; all else is
fixed, function names and quoted labels included. -/
theorem toggle_of_run (operations : List Operation) :
    (∃ cause, ((run operations).setCaseSensitive false).sql = .error cause ∧
      ((run operations).setCaseSensitive true).sql = .error cause) ∨
    ∃ root others pieces, (run operations).tables = root :: others ∧
      ((run operations).setCaseSensitive false).sql = .ok (concat id pieces) ∧
      ((run operations).setCaseSensitive true).sql = .ok (concat Quoted.quote pieces) ∧
      identifiers pieces = (run operations).clauseIdentifiers root others ∧
      fixedTexts pieces = (run operations).clauseFixedTexts root others := by
  generalize run operations = query
  rw [sql_setCaseSensitive, sql_setCaseSensitive]
  cases compiled : query.statement with
  | error cause => exact .inl ⟨cause, rfl, rfl⟩
  | ok statement =>
    obtain ⟨root, others, registered⟩ := registered_of_statement compiled
    obtain ⟨free, rfl⟩ := of_statement_ok registered compiled
    exact .inr ⟨root, others, _, registered, rfl, rfl, identifiers_statement free,
      fixedTexts_statement query root others⟩

end Query

end StarReport.Sql
