import Mathlib.Data.List.Basic
import StarReport.Proofs.Sql.Query

/-!
Whole runs of a query under construction. Whatever operations are called in whatever order, the
tables and the select list are the first occurrences of those mentioned, and the answer follows from
these two lists and from the last settings of the modes.
-/

set_option autoImplicit false
set_option relaxedAutoImplicit false

namespace StarReport.Sql

open StarReport.Star (AggregateFunction)
open Warehouse (ForeignKey Table)

/-! ### The text written out -/

namespace Layout

variable (caseSensitive : Bool)

def reference (table column : String) : String :=
  Quoted.write caseSensitive table ++ "." ++ Quoted.write caseSensitive column

def item (column : Selected) : String :=
  let plain := reference caseSensitive column.table.name column.column
  (match column.function with
    | none => plain
    | some function => function.text ++ "(" ++ plain ++ ")") ++
  match column.label with
    | none => ""
    | some label => " as " ++ Quoted.quote label

/-- The line that joins a table for a foreign key of the root; the table has a primary key. -/
def joinLine (root table : Table) (edge : ForeignKey) : String :=
  "\njoin " ++ Quoted.write caseSensitive table.name ++ " on " ++
    reference caseSensitive table.name (table.primaryKey.getD "") ++ " = " ++
    reference caseSensitive root.name edge.column

/-- Entries on indented lines of their own, with commas between them. -/
def lines (entries : List String) : String := ",\n".intercalate (entries.map ("    " ++ ·))

theorem lines_cons_cons (entry next : String) (entries : List String) :
    lines (entry :: next :: entries) = "    " ++ entry ++ ",\n" ++ lines (next :: entries) :=
  String.intercalate_cons_cons

/-- The columns that are not aggregated. -/
def plain (columns : List Selected) : List Selected := columns.filter (·.function = none)

/-- The grouping clause has the columns that are not aggregated, without their labels. It is there if
and only if there is such a column, and an aggregated one or the wish to group. -/
def groupBy (forced : Bool) (columns : List Selected) : String :=
  if plain columns ≠ [] ∧ (forced = true ∨ ∃ column ∈ columns, column.function ≠ none) then
    "\ngroup by\n" ++ lines ((plain columns).map fun column =>
      reference caseSensitive column.table.name column.column)
  else ""

/-- The text over a select list, a root and the other tables. -/
def text (forced : Bool) (columns : List Selected) (root : Table) (others : List Table) : String :=
  "select\n" ++ lines (columns.map (item caseSensitive)) ++
    "\nfrom " ++ Quoted.write caseSensitive root.name ++
    String.join (others.flatMap fun table =>
      (root.foreignKeys.filter (·.target = table.key)).map (joinLine caseSensitive root table)) ++
    groupBy caseSensitive forced columns

end Layout

theorem Query.grouping_eq (query : Query) : query.grouping =
    if query.forceGrouping = true ∨ ∃ column ∈ query.selected, column.function ≠ none then
      (Layout.plain query.selected).map Selected.source
    else [] := by
  have due : (query.forceGrouping || query.selected.any (·.function.isSome)) = true ↔
      query.forceGrouping = true ∨ ∃ column ∈ query.selected, column.function ≠ none := by
    simp [Option.isSome_iff_ne_none]
  have plain : query.selected.filter (·.function.isNone) = Layout.plain query.selected :=
    List.filter_congr fun column _ => by cases column.function <;> rfl
  rw [grouping, plain]
  exact if_congr due rfl rfl

section

variable {caseSensitive : Bool}

/-- Pieces as the text that a mode writes. -/
private def written (caseSensitive : Bool) (pieces : List Piece) : String :=
  String.join (pieces.map (Piece.write caseSensitive))

private theorem written_nil : written caseSensitive [] = "" := rfl

private theorem written_cons (piece : Piece) (pieces : List Piece) :
    written caseSensitive (piece :: pieces) =
      piece.write caseSensitive ++ written caseSensitive pieces := String.join_cons

private theorem written_append (pieces pieces' : List Piece) :
    written caseSensitive (pieces ++ pieces') =
      written caseSensitive pieces ++ written caseSensitive pieces' := by
  rw [written, List.map_append, String.join_append]
  rfl

private theorem written_flatMap {α : Type} (pieces : α → List Piece) (xs : List α) :
    written caseSensitive (xs.flatMap pieces) =
      String.join (xs.map fun x => written caseSensitive (pieces x)) := by
  induction xs with
  | nil => rfl
  | cons x xs ih => rw [List.flatMap_cons, written_append, ih, List.map_cons, String.join_cons]

private theorem written_ref (ref : ColumnRef) :
    written caseSensitive ref.pieces = Layout.reference caseSensitive ref.table ref.column := by
  simp [ColumnRef.pieces, written_cons, written_nil, Piece.write, Layout.reference,
    String.append_assoc]

private theorem written_output (column : Selected) :
    written caseSensitive column.output.pieces = Layout.item caseSensitive column := by
  rcases column with ⟨table, column, _ | label, _ | function⟩ <;>
    simp [Selected.output, Selected.source, OutputColumn.pieces, written_cons, written_append,
      written_nil, written_ref, Piece.write, Layout.item, String.append_assoc]

private theorem written_join (root table : Table) (edge : ForeignKey) :
    written caseSensitive
        ((⟨table.name, table.primaryKey.getD "", edge.column⟩ : Join).pieces root.name) =
      Layout.joinLine caseSensitive root table edge := by
  simp [Join.pieces, written_cons, written_append, written_ref, Piece.write, Layout.joinLine,
    String.append_assoc]

private theorem written_indentedLines (entries : List (List Piece)) :
    written caseSensitive (indentedLines entries) =
      Layout.lines (entries.map (written caseSensitive)) := by
  induction entries with
  | nil => rfl
  | cons entry entries ih =>
    cases entries with
    | nil =>
      rw [indentedLines, written_cons, List.map_singleton, Layout.lines, List.map_singleton,
        String.intercalate_singleton]
      rfl
    | cons next entries =>
      change written caseSensitive (.fixed "    " :: (entry ++ .fixed ",\n" ::
        indentedLines (next :: entries))) = _
      rw [written_cons, written_append, written_cons, ih]
      simp only [List.map_cons, Layout.lines_cons_cons, Piece.write, String.append_assoc]

private theorem written_grouping (query : Query) :
    written caseSensitive (if query.grouping.isEmpty then []
      else .fixed "\ngroup by\n" :: indentedLines (query.grouping.map ColumnRef.pieces)) =
      Layout.groupBy caseSensitive query.forceGrouping query.selected := by
  rw [Query.grouping_eq, Layout.groupBy]
  by_cases grouped : query.forceGrouping = true ∨ ∃ column ∈ query.selected,
    column.function ≠ none
  · rw [if_pos grouped]
    by_cases nothing : Layout.plain query.selected = []
    · rw [nothing]
      simp [written_nil]
    · rw [if_neg (by simpa using nothing), if_pos ⟨nothing, grouped⟩, written_cons,
        written_indentedLines]
      simp only [List.map_map, Function.comp_def, written_ref]
      rfl
  · rw [if_neg grouped, if_pos List.isEmpty_nil, if_neg fun both => grouped both.2]
    rfl

/-- The text of a query whose tables can all be joined. -/
theorem text_eq_layout (query : Query) (root : Table) (others : List Table) :
    (⟨query.selected.map Selected.output, root.name, others.flatMap (Query.joinsBy root),
      query.grouping⟩ : Statement).text caseSensitive =
      Layout.text caseSensitive query.forceGrouping query.selected root others := by
  have joins : written caseSensitive
      ((others.flatMap (Query.joinsBy root)).flatMap (Join.pieces root.name)) =
        String.join (others.flatMap fun table => (root.foreignKeys.filter
          (·.target = table.key)).map (Layout.joinLine caseSensitive root table)) := by
    rw [written_flatMap, List.map_flatMap]
    refine congrArg String.join (List.flatMap_congr fun table _ => ?_)
    rw [Query.joinsBy, List.map_map]
    exact List.map_congr_left fun edge _ => written_join root table edge
  change written caseSensitive (Statement.pieces _) = _
  simp only [Statement.pieces, List.cons_append, written_cons, written_append,
    written_indentedLines, joins, written_grouping]
  simp only [List.map_map, Function.comp_def, written_output, Piece.write, Layout.text,
    String.append_assoc]

end

/-! ### Runs -/

/-- The operations on a query under construction. -/
inductive Operation where
  | addTable (table : Table)
  | addSelect (column : String) (table : Table)
  | addSelectAs (column : String) (table : Table) (label : String)
  | addAggregate (function : AggregateFunction) (column : String) (table : Table)
  | addAggregateAs (function : AggregateFunction) (column : String) (table : Table)
      (label : String)
  | setCaseSensitive (on : Bool)
  | setForceGrouping (on : Bool)
deriving DecidableEq

namespace Operation

/-- The column that an operation selects. -/
def column? : Operation → Option Selected
  | addSelect column table => some ⟨table, column, none, none⟩
  | addSelectAs column table label => some ⟨table, column, some label, none⟩
  | addAggregate function column table => some ⟨table, column, none, some function⟩
  | addAggregateAs function column table label => some ⟨table, column, some label, some function⟩
  | _ => none

/-- The table that an operation mentions. -/
def table? : Operation → Option Table
  | addTable table => some table
  | operation => operation.column?.map Selected.table

def caseSensitive? : Operation → Option Bool
  | setCaseSensitive on => some on
  | _ => none

def forceGrouping? : Operation → Option Bool
  | setForceGrouping on => some on
  | _ => none

def apply (query : Query) : Operation → Query
  | addTable table => query.addTable table
  | addSelect column table => query.select ⟨table, column, none, none⟩
  | addSelectAs column table label => query.select ⟨table, column, some label, none⟩
  | addAggregate function column table => query.select ⟨table, column, none, some function⟩
  | addAggregateAs function column table label =>
    query.select ⟨table, column, some label, some function⟩
  | setCaseSensitive on => query.setCaseSensitive on
  | setForceGrouping on => query.setForceGrouping on

end Operation

namespace Query

/-- The query that operations make of a new one. -/
def run (operations : List Operation) : Query := operations.foldl Operation.apply empty

variable (query : Query) (operations : List Operation)

/-- A part of a query to which each operation adds its entry, if it has one. -/
private theorem part_foldl_apply {α β : Type} (part : Query → β) (added? : Operation → Option α)
    (add : β → α → β)
    (step : ∀ query operation, part (Operation.apply query operation) =
      (added? operation).elim (part query) (add (part query))) :
    part (operations.foldl Operation.apply query) =
      (operations.filterMap added?).foldl add (part query) := by
  induction operations generalizing query with
  | nil => rfl
  | cons operation operations ih =>
    rw [List.foldl_cons, ih, step, List.filterMap_cons]
    cases added? operation <;> rfl

private theorem foldl_last (old : Bool) (settings : List Bool) :
    settings.foldl (fun _ on => on) old = settings.getLastD old := by
  induction settings generalizing old with
  | nil => rfl
  | cons on settings ih => rw [List.foldl_cons, ih, List.getLastD_cons]

/-- The tables of a run are the first mentioned of each key. -/
theorem run_tables : (run operations).tables =
    Distinct.firsts Table.key (operations.filterMap Operation.table?) := by
  rw [run, part_foldl_apply empty operations Query.tables Operation.table?
    (Distinct.insert Table.key) fun _ operation => by cases operation <;> rfl]
  exact Distinct.ofList_eq_firsts _

theorem run_selected : (run operations).selected =
    Distinct.firsts Selected.identity (operations.filterMap Operation.column?) := by
  rw [run, part_foldl_apply empty operations Query.selected Operation.column?
    (Distinct.insert Selected.identity) fun _ operation => by cases operation <;> rfl]
  exact Distinct.ofList_eq_firsts _

/-- A mode is what it was last set to. -/
theorem run_caseSensitive : (run operations).caseSensitive =
    (operations.filterMap Operation.caseSensitive?).getLastD false := by
  rw [run, part_foldl_apply empty operations Query.caseSensitive Operation.caseSensitive?
    (fun _ on => on) fun _ operation => by cases operation <;> rfl]
  exact foldl_last false _

theorem run_forceGrouping : (run operations).forceGrouping =
    (operations.filterMap Operation.forceGrouping?).getLastD false := by
  rw [run, part_foldl_apply empty operations Query.forceGrouping Operation.forceGrouping?
    (fun _ on => on) fun _ operation => by cases operation <;> rfl]
  exact foldl_last false _

/-- The root of a run is the table that was mentioned first. -/
theorem run_root? : (run operations).root? =
    (operations.filterMap Operation.table?).head? := by
  rw [root?, run_tables, Distinct.head?_firsts]

theorem run_root?_append {root : Table} (later : List Operation)
    (rooted : (run operations).root? = some root) :
    (run (operations ++ later)).root? = some root := by
  rw [run_root?] at rooted ⊢
  rw [List.filterMap_append, List.head?_append, rooted, Option.some_or]

theorem sql_eq_noTables : query.sql = .error .noTables ↔ query.tables = [] := by
  cases registered : query.tables with
  | nil => simp [sql, statement, registered, Except.map]
  | cons root others =>
    rw [sql, statement_eq registered]
    cases others.find? (blocks root) <;> simp [Except.map]

/-- The answer of a query over a root and other tables, in full. -/
theorem sql_eq {query : Query} {root : Table} {others : List Table}
    (registered : query.tables = root :: others) :
    query.sql = match others.find? fun table =>
        table.primaryKey = none ∧ ∃ edge ∈ root.foreignKeys, edge.target = table.key with
      | some table => .error (.missingPrimaryKey table.name)
      | none => .ok (Layout.text query.caseSensitive query.forceGrouping query.selected root
          others) := by
  have same : (fun table : Table => decide (table.primaryKey = none ∧
      ∃ edge ∈ root.foreignKeys, edge.target = table.key)) = blocks root := by
    funext table
    rw [blocks, Table.refersTo, Table.references, Bool.eq_iff_iff]
    simp
  rw [sql, statement_eq registered, same]
  cases others.find? (blocks root) with
  | some table => rfl
  | none => exact congrArg Except.ok (text_eq_layout query root others)

/-- What a run of operations comes to. Its tables and its select list are the first occurrences of
those mentioned; the first table mentioned is the root and stays it; and the answer follows from the
two lists and the last settings of the modes. -/
theorem meaning_of_run (operations : List Operation) :
    (run operations).tables =
      Distinct.firsts Table.key (operations.filterMap Operation.table?) ∧
    (run operations).root? = (operations.filterMap Operation.table?).head? ∧
    (∀ root later, (run operations).root? = some root →
      (run (operations ++ later)).root? = some root) ∧
    (run operations).selected =
      Distinct.firsts Selected.identity (operations.filterMap Operation.column?) ∧
    ((run operations).sql = .error .noTables ↔ operations.filterMap Operation.table? = []) ∧
    (∀ root others,
      Distinct.firsts Table.key (operations.filterMap Operation.table?) = root :: others →
      (run operations).sql = match others.find? fun table =>
          table.primaryKey = none ∧ ∃ edge ∈ root.foreignKeys, edge.target = table.key with
        | some table => .error (.missingPrimaryKey table.name)
        | none => .ok (Layout.text
            ((operations.filterMap Operation.caseSensitive?).getLastD false)
            ((operations.filterMap Operation.forceGrouping?).getLastD false)
            (Distinct.firsts Selected.identity (operations.filterMap Operation.column?))
            root others)) := by
  refine ⟨run_tables operations, run_root? operations,
    fun _ later rooted => run_root?_append operations later rooted, run_selected operations, ?_,
    fun root others registered => ?_⟩
  · rw [sql_eq_noTables, ← List.head?_eq_none_iff, ← List.head?_eq_none_iff, ← run_root?, root?]
  · rw [sql_eq ((run_tables operations).trans registered), run_selected, run_caseSensitive,
      run_forceGrouping]

/-- Operations that mention two handles of one fact: the first has a foreign key and the second has
none. -/
private def mixedOperations : List Operation :=
  let store := Table.named "DimStore" (some "id")
  let sales := Table.named "FactSales" none
  [.setCaseSensitive true, .addTable (sales.addForeignKey "StoreId" store),
    .addSelectAs "City" store "city", .addTable sales, .addAggregate .sum "Amount" sales,
    .addSelectAs "City" store "city", .addAggregateAs .count "Amount" store "n",
    .setForceGrouping true, .setCaseSensitive false]

private def mixedTables : List Table :=
  let store := Table.named "DimStore" (some "id")
  [(Table.named "FactSales" none).addForeignKey "StoreId" store, store]

/-- The foreign key of the handle that came first is joined, and the case mode that was set last
counts. -/
theorem meaning_of_mixedOperations : (run mixedOperations).tables = mixedTables ∧
    (run mixedOperations).sql = .ok ("select\n    DimStore.City as \"city\",\n" ++
      "    sum(FactSales.Amount),\n    count(DimStore.Amount) as \"n\"\nfrom FactSales\n" ++
      "join DimStore on DimStore.id = FactSales.StoreId\ngroup by\n    DimStore.City") := by
  obtain ⟨tables, _, _, _, _, answer⟩ := meaning_of_run mixedOperations
  have listed : Distinct.firsts Table.key (mixedOperations.filterMap Operation.table?) =
      mixedTables := by decide
  refine ⟨tables.trans listed, (answer _ _ listed).trans ?_⟩
  decide +kernel

end Query

end StarReport.Sql
