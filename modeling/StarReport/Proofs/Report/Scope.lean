import Mathlib.Data.List.Nodup
import StarReport.Proofs.Report.Outcome
import StarReport.Proofs.Schema.Coherence

/-!
Scoping of the statements of requests. A statement introduces its root once and any other table once
for each foreign key that leads from the root to it, so a table that is reached by a foreign key is
never missing, and it comes more than once exactly where several keys reach it.
-/

set_option autoImplicit false
set_option relaxedAutoImplicit false

namespace StarReport

open Sql (Join Query Statement)
open StarReport.Star (Dimension Measure StarId)
open Warehouse (Database ForeignKey Table)

namespace Sql

/-- The tables that qualify the columns of the select list, the join conditions and the grouping. -/
def Statement.qualifiers (statement : Statement) : List String :=
  statement.outputs.map (·.source.table) ++
    statement.joins.flatMap (fun join => [join.table, statement.root]) ++
    statement.grouping.map ColumnRef.table

/-- The tables that the root and the joins introduce. -/
def Statement.introduced (statement : Statement) : List String :=
  statement.root :: statement.joins.map Join.table

theorem Query.map_table_joinsBy (root table : Table) :
    (joinsBy root table).map Join.table =
      List.replicate (root.references table).length table.name := by
  unfold joinsBy
  rw [List.map_map]
  exact List.map_const'

theorem Query.exists_of_mem_joinsBy {root : Table} {others : List Table} {name : String}
    (introduced : name ∈ (others.flatMap (joinsBy root)).map Join.table) :
    ∃ table ∈ others, table.name = name := by
  obtain ⟨join, joined, same⟩ := List.mem_map.mp introduced
  obtain ⟨table, held, joined⟩ := List.mem_flatMap.mp joined
  obtain ⟨edge, _, rfl⟩ := List.mem_map.mp joined
  exact ⟨table, held, same⟩

/-- Among tables of different names one is introduced once for each foreign key to it. -/
theorem Query.count_joinsBy {root table : Table} {others : List Table}
    (names : (others.map Table.name).Nodup) (member : table ∈ others) :
    ((others.flatMap (joinsBy root)).map Join.table).count table.name =
      (root.references table).length := by
  induction others with
  | nil => cases member
  | cons first rest ih =>
    rw [List.map_cons, List.nodup_cons] at names
    rw [List.flatMap_cons, List.map_append, List.count_append, map_table_joinsBy,
      List.count_replicate]
    rcases List.mem_cons.mp member with rfl | member
    · have absent : table.name ∉ (rest.flatMap (joinsBy root)).map Join.table := by
        intro introduced
        obtain ⟨other, held, same⟩ := exists_of_mem_joinsBy introduced
        exact names.1 (List.mem_map.mpr ⟨other, held, same⟩)
      rw [List.count_eq_zero_of_not_mem absent]
      simp
    · have other : first.name ≠ table.name := fun same =>
        names.1 (List.mem_map.mpr ⟨table, member, same.symm⟩)
      rw [ih names.2 member]
      simp [other]

/-- Over tables of different names a statement introduces its root once, and every other table once
for each foreign key of the root to it. -/
theorem Query.count_introduced {query : Query} {root : Table} {others : List Table}
    {statement : Statement} (registered : query.tables = root :: others)
    (names : (query.tables.map Table.name).Nodup) (compiled : query.statement = .ok statement) :
    statement.introduced.count root.name = 1 ∧
      ∀ table ∈ others,
        statement.introduced.count table.name = (root.references table).length := by
  obtain ⟨_, rfl⟩ := of_statement_ok registered compiled
  rw [registered, List.map_cons, List.nodup_cons] at names
  constructor
  · have unjoined : root.name ∉ (others.flatMap (joinsBy root)).map Join.table := by
      intro introduced
      obtain ⟨table, held, same⟩ := exists_of_mem_joinsBy introduced
      exact names.1 (List.mem_map.mpr ⟨table, held, same⟩)
    rw [Statement.introduced, List.count_cons_self, List.count_eq_zero_of_not_mem unjoined]
  · intro table member
    have other : root.name ≠ table.name := fun same =>
      names.1 (same ▸ List.mem_map_of_mem member)
    rw [Statement.introduced, List.count_cons_of_ne other, count_joinsBy names.2 member]

/-- Every table that qualifies a column of a query's statement is registered. -/
theorem Query.mem_qualifiers {query : Query} {root : Table} {others : List Table}
    {statement : Statement} {name : String} (registered : query.tables = root :: others)
    (selected : ∀ column ∈ query.selected, column.table.key ∈ query.tables.map Table.key)
    (compiled : query.statement = .ok statement) (member : name ∈ statement.qualifiers) :
    name ∈ query.tables.map Table.name := by
  obtain ⟨_, rfl⟩ := of_statement_ok registered compiled
  have source {column : Selected} (held : column ∈ query.selected) :
      column.table.name ∈ query.tables.map Table.name := by
    obtain ⟨table, known, same⟩ := List.mem_map.mp (selected column held)
    exact List.mem_map.mpr ⟨table, known, congrArg Warehouse.TableKey.name same⟩
  rcases List.mem_append.mp member with member | grouped
  · rcases List.mem_append.mp member with output | condition
    · simp only [List.map_map, List.mem_map] at output
      obtain ⟨column, held, rfl⟩ := output
      exact source held
    · obtain ⟨join, joined, side⟩ := List.mem_flatMap.mp condition
      obtain ⟨table, held, joined⟩ := List.mem_flatMap.mp joined
      obtain ⟨edge, _, rfl⟩ := List.mem_map.mp joined
      rw [registered]
      rcases List.mem_pair.mp side with rfl | rfl
      · exact List.mem_map.mpr ⟨table, List.mem_cons_of_mem root held, rfl⟩
      · exact List.mem_map.mpr ⟨root, List.mem_cons_self, rfl⟩
  · obtain ⟨ref, entry, rfl⟩ := List.mem_map.mp grouped
    obtain ⟨column, held, rfl⟩ := mem_grouping entry
    exact source held

end Sql

namespace Report

/-- The members asked for use tables of the database that the star was put together over. -/
theorem Request.tablesIn_subset {request : Request} {database : Database} {star : Star}
    (within : Schema.Over database star) : request.tablesIn star ⊆ database.tables := by
  intro table used
  rcases List.mem_append.mp used with member | member
  · obtain ⟨dimension, asked, rfl⟩ := List.mem_map.mp member
    obtain ⟨name, _, found⟩ := List.mem_filterMap.mp asked
    exact within.dimensions dimension (Star.mem_of_dimension? found).1
  · obtain ⟨measure, asked, rfl⟩ := List.mem_map.mp member
    obtain ⟨name, _, found⟩ := List.mem_filterMap.mp asked
    exact within.measures measure (Star.mem_of_measure? found).1

/-- In a coherent database the foreign keys to a table are those to its name. -/
theorem length_references {database : Database} (coherent : database.Coherent) {fact table : Table}
    (held : fact ∈ database.tables) (held' : table ∈ database.tables) :
    (fact.references table).length =
      fact.foreignKeys.countP (·.targetName = table.name) := by
  unfold Table.references
  rw [← List.countP_eq_length_filter]
  refine List.countP_congr fun edge declared => ?_
  simpa using coherent.target_iff held declared held'

theorem compiled_of_bind {request : Request} {star : Star} (owns : star.Owns) {options : Options}
    {sql : String} (compiled : request.bind star options = .ok (some sql)) :
    ∃ statement, request.select star options.caseSensitive =
        .ok (request.selection star options.caseSensitive) ∧
      (request.selection star options.caseSensitive).query.statement = .ok statement ∧
      sql = statement.text options.caseSensitive := by
  have outcome := Request.outcome_bind owns (Request.isEmpty_of_bind compiled nofun) options
  rw [compiled] at outcome
  cases outcome with
  | compiled dimensions measures _ statement =>
    refine ⟨_, ?_, statement, rfl⟩
    rw [Request.select_eq request owns, dimensions, measures]

/-- The query of a request registers the fact of the star and then used tables of the database, all
of different names. -/
private theorem registered_over {database : Database} (coherent : database.Coherent) {star : Star}
    (within : Schema.Over database star) (request : Request) (caseSensitive : Bool) :
    ∃ others, (request.selection star caseSensitive).query.tables = star.fact :: others ∧
      (∀ table ∈ others, table.key ≠ star.fact.key ∧ table ∈ request.tablesIn star) ∧
      ((request.selection star caseSensitive).query.tables.map Table.name).Nodup := by
  obtain ⟨others, tables, apart⟩ : ∃ others,
      (request.selection star caseSensitive).query.tables = star.fact :: others ∧
        ∀ table ∈ others, table.key ≠ star.fact.key :=
    Selection.query_tables_eq_cons _
  have used : ∀ table ∈ others, table ∈ request.tablesIn star := by
    intro table member
    have registered : table ∈ (request.selection star caseSensitive).query.tables :=
      tables ▸ List.mem_cons_of_mem _ member
    rcases Request.mem_query_tables registered with rfl | used
    · exact absurd rfl (apart _ member)
    · exact used
  have held : (request.selection star caseSensitive).query.tables ⊆ database.tables := by
    rw [tables]
    exact List.cons_subset.mpr
      ⟨within.fact, fun table member => Request.tablesIn_subset within (used table member)⟩
  refine ⟨others, tables, fun table member => ⟨apart table member, used table member⟩, ?_⟩
  exact coherent.nodup_names held (Selection.nodup_query_tables _)

/-- The statement of a request introduces every table that qualifies a column: the fact once, and
any other table once for each foreign key of the fact to it. -/
theorem introduced_of_bind {id : StarId} {document : Document} {schema : Schema}
    (built : Schema.build id document = .ok schema) {request : Request} {options : Options}
    {sql : String} (compiled : request.bind schema.star options = .ok (some sql))
    (reached : ∀ table ∈ request.tablesIn schema.star, table.key = schema.star.fact.key ∨
      ∃ edge ∈ schema.star.fact.foreignKeys, edge.target = table.key) :
    ∃ selection statement, request.select schema.star options.caseSensitive = .ok selection ∧
      selection.query.statement = .ok statement ∧
      sql = statement.text options.caseSensitive ∧
      ∀ name ∈ statement.qualifiers, name ∈ statement.introduced ∧
        statement.introduced.count name =
          if name = schema.star.fact.name then 1
          else schema.star.fact.foreignKeys.countP (·.targetName = name) := by
  obtain ⟨coherent, within⟩ := Schema.coherent_of_build built
  obtain ⟨statement, selected, stated, text⟩ := compiled_of_bind within.reached.owns compiled
  refine ⟨_, statement, selected, stated, text, fun name qualifies => ?_⟩
  obtain ⟨others, tables, joinable, names⟩ :=
    registered_over coherent within request options.caseSensitive
  obtain ⟨rooted, joined⟩ := Query.count_introduced tables names stated
  have known := Query.mem_qualifiers tables (fun _ => Selection.key_mem_query_tables) stated
    qualifies
  rw [tables, List.map_cons, List.nodup_cons] at names
  rw [tables, List.map_cons, List.mem_cons] at known
  rcases known with rfl | known
  · rw [if_pos rfl]
    exact ⟨List.count_pos_iff.mp (by omega), rooted⟩
  · obtain ⟨table, member, rfl⟩ := List.mem_map.mp known
    obtain ⟨apart, used⟩ := joinable table member
    have other : table.name ≠ schema.star.fact.name := fun same =>
      names.1 (same ▸ List.mem_map_of_mem member)
    have referred : schema.star.fact.references table ≠ [] := by
      rcases reached table used with same | ⟨edge, declared, target⟩
      · exact absurd same apart
      · exact List.ne_nil_of_mem (List.mem_filter.mpr ⟨declared, decide_eq_true target⟩)
    have count := joined table member
    have present : 0 < statement.introduced.count table.name := by
      rw [count]
      exact List.length_pos_iff.mpr referred
    rw [if_neg other, ← length_references coherent within.fact
      (Request.tablesIn_subset within used)]
    exact ⟨List.count_pos_iff.mp present, count⟩

/-- A document whose fact refers to one table through two columns. -/
private def twoKeys : Document :=
  ⟨"StarDB",
    [⟨"FactSales", none, [⟨"HomeStoreId", "DimStore"⟩, ⟨"SaleStoreId", "DimStore"⟩]⟩,
      ⟨"DimStore", some "id", []⟩],
    ⟨"FactSales", [⟨"Store", "DimStore", "StoreName"⟩], [], []⟩⟩

private def twoKeysSchema : Schema :=
  let store : Table := ⟨⟨some "StarDB", "DimStore", some "id"⟩, []⟩
  let sales : Table := ⟨⟨some "StarDB", "FactSales", none⟩,
    [⟨⟨some "StarDB", "FactSales", none⟩, "HomeStoreId", "DimStore", some "id"⟩,
      ⟨⟨some "StarDB", "FactSales", none⟩, "SaleStoreId", "DimStore", some "id"⟩]⟩
  ⟨⟨"StarDB", [sales, store]⟩, ⟨⟨0⟩, sales, [⟨"Store", store, "StoreName", some ⟨0⟩⟩], [], []⟩⟩

private theorem build_twoKeys : Schema.build ⟨0⟩ twoKeys = .ok twoKeysSchema := by rfl

private def twoKeysStatement : Statement :=
  ⟨[⟨⟨"DimStore", "StoreName"⟩, none, some "Store"⟩], "FactSales",
    [⟨"DimStore", "id", "HomeStoreId"⟩, ⟨"DimStore", "id", "SaleStoreId"⟩],
    [⟨"DimStore", "StoreName"⟩]⟩

private theorem bind_twoKeys : (⟨["Store"], []⟩ : Request).bind twoKeysSchema.star ⟨false, false⟩ =
    .ok (some (twoKeysStatement.text false)) := by rfl

private theorem reached_twoKeys : ∀ table ∈ (⟨["Store"], []⟩ : Request).tablesIn twoKeysSchema.star,
    table.key = twoKeysSchema.star.fact.key ∨
      ∃ edge ∈ twoKeysSchema.star.fact.foreignKeys, edge.target = table.key := by
  decide

private theorem statement_twoKeys :
    ((⟨["Store"], []⟩ : Request).select twoKeysSchema.star false).toOption.map
      (fun selection => selection.query.statement) = some (.ok twoKeysStatement) := by rfl

/-- Both keys of the fact are joined, so the table at their end is introduced twice. -/
theorem introduced_twice_of_two_keys : Schema.build ⟨0⟩ twoKeys = .ok twoKeysSchema ∧
    (⟨["Store"], []⟩ : Request).bind twoKeysSchema.star ⟨false, false⟩ =
      .ok (some (twoKeysStatement.text false)) ∧
    "DimStore" ∈ twoKeysStatement.qualifiers ∧
    twoKeysStatement.introduced.count "DimStore" = 2 := by
  obtain ⟨selection, statement, selected, stated, _, counted⟩ :=
    introduced_of_bind build_twoKeys bind_twoKeys reached_twoKeys
  have same : some (selection.query.statement) = some (.ok twoKeysStatement) := by
    rw [← statement_twoKeys]
    exact (congrArg (fun result => result.toOption.map fun s : Selection => s.query.statement)
      selected).symm
  rw [stated] at same
  obtain rfl := Except.ok.inj (Option.some.inj same)
  exact ⟨build_twoKeys, bind_twoKeys, by decide, (counted "DimStore" (by decide)).2⟩

/-- A table that qualifies a column need not be introduced exactly once. -/
theorem not_introduced_exactly_once : ¬ ∀ (id : StarId) (document : Document) (schema : Schema)
    (request : Request) (options : Options) (sql : String) (selection : Selection)
    (statement : Statement), Schema.build id document = .ok schema →
      request.bind schema.star options = .ok (some sql) →
      (∀ table ∈ request.tablesIn schema.star, table.key = schema.star.fact.key ∨
        ∃ edge ∈ schema.star.fact.foreignKeys, edge.target = table.key) →
      request.select schema.star options.caseSensitive = .ok selection →
      selection.query.statement = .ok statement →
      ∀ name ∈ statement.qualifiers, statement.introduced.count name = 1 := by
  intro once
  have twice := once ⟨0⟩ twoKeys twoKeysSchema ⟨["Store"], []⟩ ⟨false, false⟩
    (twoKeysStatement.text false) (Request.selection ⟨["Store"], []⟩ twoKeysSchema.star false)
    twoKeysStatement build_twoKeys bind_twoKeys reached_twoKeys rfl rfl "DimStore" (by decide)
  exact absurd twice (by decide)

end Report

end StarReport
