import Mathlib.Data.List.Basic
import Mathlib.Data.List.Find
import StarReport.Proofs.FirstFailure
import StarReport.Proofs.FirstOccurrences
import StarReport.Sql.Query

/-!
What a query says once it is put together. Selecting columns registers their tables in order, and
the statement fails for the first table that the root refers to and that has no primary key; without
such a table it is given in full. Of all tables but the root only the keys matter to it.
-/

set_option autoImplicit false
set_option relaxedAutoImplicit false

namespace StarReport

open Warehouse (Table TableKey)

/-- Whether a table has a foreign key to another. -/
def Warehouse.Table.refersTo (root table : Table) : Bool := !(root.references table).isEmpty

theorem Warehouse.Table.references_eq_of_key (root : Table) {s t : Table} (same : s.key = t.key) :
    root.references s = root.references t := by
  rw [references, references, same]

namespace Sql.Query

/-- The primary key is missing where a join needs it. -/
def blocks (root table : Table) : Bool := table.primaryKey.isNone && root.refersTo table

/-- The joins to a table, one for each foreign key of the root to it. -/
def joinsBy (root table : Table) : List Join :=
  (root.references table).map fun edge => ⟨table.name, table.primaryKey.getD "", edge.column⟩

theorem joinsTo_eq (root table : Table) :
    joinsTo root table =
      if blocks root table then .error (.missingPrimaryKey table.name)
      else .ok (joinsBy root table) := by
  unfold joinsTo blocks joinsBy Table.refersTo
  cases key : table.primaryKey with
  | none =>
    cases root.references table with
    | nil => rfl
    | cons edge edges => rfl
  | some primaryKey =>
    simp only [Option.isNone_some, Bool.false_and, Bool.false_eq_true, ↓reduceIte, Option.getD_some]
    exact List.mapM_pure (m := Except QueryError)

/-- The statement over a root and the other registered tables. -/
theorem statement_eq {query : Query} {root : Table} {others : List Table}
    (registered : query.tables = root :: others) :
    query.statement = match others.find? (blocks root) with
      | some table => .error (.missingPrimaryKey table.name)
      | none => .ok ⟨query.selected.map Selected.output, root.name,
          others.flatMap (joinsBy root), query.grouping⟩ := by
  unfold statement
  rw [registered]
  simp only [FirstFailure.mapM_eq (joinsTo_eq root)]
  cases others.find? (blocks root) with
  | some table => rfl
  | none => rfl

theorem of_statement_ok {query : Query} {root : Table} {others : List Table} {statement : Statement}
    (registered : query.tables = root :: others) (compiled : query.statement = .ok statement) :
    others.find? (blocks root) = none ∧
      statement = ⟨query.selected.map Selected.output, root.name,
        others.flatMap (joinsBy root), query.grouping⟩ := by
  rw [statement_eq registered] at compiled
  cases free : others.find? (blocks root) with
  | some table => simp [free] at compiled
  | none =>
    rw [free] at compiled
    exact ⟨rfl, (Except.ok.inj compiled).symm⟩

/-- A query with a statement has a root. -/
theorem registered_of_statement {query : Query} {statement : Statement}
    (compiled : query.statement = .ok statement) :
    ∃ root others, query.tables = root :: others := by
  cases registered : query.tables with
  | nil => simp [Query.statement, registered] at compiled
  | cons root others => exact ⟨root, others, rfl⟩

theorem outputs_of_statement {query : Query} {statement : Statement}
    (compiled : query.statement = .ok statement) :
    statement.outputs = query.selected.map Selected.output := by
  obtain ⟨root, others, registered⟩ := registered_of_statement compiled
  rw [(of_statement_ok registered compiled).2]

theorem root_of_statement {query : Query} {statement : Statement}
    (compiled : query.statement = .ok statement) :
    query.root?.map Table.name = some statement.root := by
  obtain ⟨root, others, registered⟩ := registered_of_statement compiled
  rw [(of_statement_ok registered compiled).2, root?, registered]
  rfl

theorem statement_of_sql_ok {query : Query} {text : String} (compiled : query.sql = .ok text) :
    ∃ statement, query.statement = .ok statement ∧ text = statement.text query.caseSensitive := by
  unfold sql at compiled
  cases stated : query.statement with
  | error cause => simp [stated, Except.map] at compiled
  | ok statement =>
    rw [stated] at compiled
    exact ⟨statement, rfl, (Except.ok.inj compiled).symm⟩

theorem mem_grouping {query : Query} {ref : ColumnRef} (grouped : ref ∈ query.grouping) :
    ∃ column ∈ query.selected, column.source = ref := by
  unfold grouping at grouped
  split at grouped
  · obtain ⟨column, plain, source⟩ := List.mem_map.mp grouped
    exact ⟨column, (List.mem_filter.mp plain).1, source⟩
  · cases grouped

/-! ### Selecting columns -/

theorem foldl_select_tables (query : Query) (columns : List Selected) :
    (columns.foldl select query).tables =
      (columns.map Selected.table).foldl (Distinct.insert Table.key) query.tables := by
  induction columns generalizing query with
  | nil => rfl
  | cons column columns ih => exact ih (query.select column)

theorem foldl_select_selected (query : Query) (columns : List Selected) :
    (columns.foldl select query).selected =
      columns.foldl (Distinct.insert Selected.identity) query.selected := by
  induction columns generalizing query with
  | nil => rfl
  | cons column columns ih => exact ih (query.select column)

theorem foldl_select_caseSensitive (query : Query) (columns : List Selected) :
    (columns.foldl select query).caseSensitive = query.caseSensitive := by
  induction columns generalizing query with
  | nil => rfl
  | cons column columns ih => exact ih (query.select column)

theorem foldl_select_forceGrouping (query : Query) (columns : List Selected) :
    (columns.foldl select query).forceGrouping = query.forceGrouping := by
  induction columns generalizing query with
  | nil => rfl
  | cons column columns ih => exact ih (query.select column)

/-! ### What a statement depends on -/

private theorem map_output_eq (columns : List Selected) :
    columns.map Selected.output = (columns.map Selected.identity).map fun identity =>
      ⟨⟨identity.table.name, identity.column⟩, identity.function, identity.label⟩ := by
  rw [List.map_map]
  rfl

/-- The grouping depends on which columns are selected, and on the tables of these by key only. -/
private theorem grouping_congr {query query' : Query}
    (columns : query'.selected.map Selected.identity = query.selected.map Selected.identity)
    (grouped : query'.forceGrouping = query.forceGrouping) : query'.grouping = query.grouping := by
  have read (q : Query) : q.grouping =
      if q.forceGrouping || (q.selected.map Selected.identity).any (·.function.isSome) then
        ((q.selected.map Selected.identity).filter (·.function.isNone)).map fun identity =>
          ⟨identity.table.name, identity.column⟩
      else [] := by
    rw [grouping, List.any_map, List.filter_map, List.map_map]
    rfl
  rw [read query', read query, columns, grouped]

/-- The joins, or the table that cannot be joined, depend on the other tables by key only. -/
private theorem find?_blocks_map_key (root : Table) (tables : List Table) :
    (tables.find? (blocks root)).map Table.key =
      (tables.map Table.key).find? fun key => blocks root ⟨key, []⟩ := by
  rw [List.find?_map]
  rfl

private theorem flatMap_joinsBy_key (root : Table) (tables : List Table) :
    tables.flatMap (joinsBy root) =
      (tables.map Table.key).flatMap fun key => joinsBy root ⟨key, []⟩ := by
  rw [List.flatMap_map]
  rfl

/-- Of the tables other than the root only the keys matter to a statement, and of the root only its
name and its foreign keys to those tables. -/
theorem statement_congr {query query' : Query} {root root' : Table} {others others' : List Table}
    (registered : query.tables = root :: others) (registered' : query'.tables = root' :: others')
    (name : root'.name = root.name) (keys : others'.map Table.key = others.map Table.key)
    (edges : ∀ table ∈ others, root'.references table = root.references table)
    (columns : query'.selected.map Selected.identity = query.selected.map Selected.identity)
    (grouped : query'.forceGrouping = query.forceGrouping) :
    query'.statement = query.statement := by
  have outputs : query'.selected.map Selected.output = query.selected.map Selected.output := by
    rw [map_output_eq, columns, ← map_output_eq]
  have joins : others'.flatMap (joinsBy root') = others.flatMap (joinsBy root) := by
    rw [flatMap_joinsBy_key, keys, ← flatMap_joinsBy_key]
    refine List.flatMap_congr fun table member => ?_
    rw [joinsBy, joinsBy, edges table member]
  have blocked : (others'.find? (blocks root')).map Table.key =
      (others.find? (blocks root)).map Table.key := by
    rw [find?_blocks_map_key, keys, ← find?_blocks_map_key]
    refine congrArg _ (List.find?_congr fun table member => ?_)
    rw [blocks, blocks, Table.refersTo, Table.refersTo, edges table member]
  rw [statement_eq registered, statement_eq registered', outputs, joins, name,
    grouping_congr columns grouped]
  cases first : others.find? (blocks root) with
  | none =>
    have free : others'.find? (blocks root') = none := by simpa [first] using blocked
    rw [free]
  | some table =>
    obtain ⟨table', first', same⟩ : ∃ table', others'.find? (blocks root') = some table' ∧
        table'.key = table.key := by simpa [first] using blocked
    have named : table'.name = table.name := congrArg TableKey.name same
    rw [first']
    simp only [named]

end Sql.Query

end StarReport
