import StarReport.Proofs.Report.Scope
import StarReport.Proofs.Sql.Accepted
import StarReport.Proofs.Sql.Lexemes

/-!
Statements of requests pass the check. Of the parser nothing is known but that it takes words and
quoted names as they are written and that it has selections. With quoted names any name will do;
without quotes the names of tables, columns and primary keys must be plain words. Names of dimensions
and measures are always quoted, so nothing is asked of them.
-/

set_option autoImplicit false
set_option relaxedAutoImplicit false

namespace StarReport

open Report (Options Request)
open Sql (Nameable Query Selected Statement)
open StarReport.Star (Dimension Measure StarId)
open Warehouse (Table)

namespace Sql

variable {parser : Parser}

/-- Tables whose name and primary key a mode writes as names. -/
structure NameableTable (lexicon : Lexicon parser) (caseSensitive : Bool) (table : Table) :
    Prop where
  name : Nameable lexicon caseSensitive table.name
  primaryKey : ∀ column ∈ table.primaryKey, Nameable lexicon caseSensitive column

namespace Query

/-- Queries whose names a mode writes as names and whose functions are known. Of the foreign keys
only those of the root come into a statement. -/
structure Nameable (lexicon : Lexicon parser) (caseSensitive : Bool) (query : Query) : Prop where
  tables : ∀ table ∈ query.tables, NameableTable lexicon caseSensitive table
  edges : ∀ root ∈ query.root?, ∀ edge ∈ root.foreignKeys,
    Sql.Nameable lexicon caseSensitive edge.column
  selected : ∀ column ∈ query.selected,
    (ColumnRef.Nameable lexicon caseSensitive column.source) ∧
      ∀ function, column.function = some function → Known function

variable {lexicon : Lexicon parser} {query : Query} {caseSensitive : Bool}

private theorem nameable_joinsBy {root table : Table} (rooted : ∀ edge ∈ root.foreignKeys,
      Sql.Nameable lexicon caseSensitive edge.column)
    (named : NameableTable lexicon caseSensitive table) (free : blocks root table = false)
    {join : Join} (joined : join ∈ joinsBy root table) : join.Nameable lexicon caseSensitive := by
  obtain ⟨edge, declared, rfl⟩ := List.mem_map.mp joined
  have referred : root.refersTo table = true := by
    rw [Table.refersTo, Bool.not_eq_true', List.isEmpty_eq_false_iff_exists_mem]
    exact ⟨edge, declared⟩
  obtain ⟨primaryKey, key⟩ : ∃ primaryKey, table.primaryKey = some primaryKey := by
    rw [← Option.isSome_iff_exists, ← Option.not_isNone, Bool.not_eq_true']
    simpa [blocks, referred] using free
  refine ⟨named.name, ?_, rooted edge (List.mem_filter.mp declared).1⟩
  rw [key]
  exact named.primaryKey primaryKey key

theorem Nameable.statement (nameable : query.Nameable lexicon caseSensitive)
    {statement : Statement} (compiled : query.statement = .ok statement) :
    statement.Nameable lexicon caseSensitive := by
  obtain ⟨root, others, registered⟩ := registered_of_statement compiled
  obtain ⟨free, rfl⟩ := of_statement_ok registered compiled
  have held : ∀ table ∈ root :: others, NameableTable lexicon caseSensitive table :=
    registered ▸ nameable.tables
  have rooted : root ∈ query.root? := by rw [root?, registered]; rfl
  refine ⟨fun output member => ?_, (held root List.mem_cons_self).name, fun join member => ?_,
    fun ref member => ?_⟩
  · obtain ⟨column, selected, rfl⟩ := List.mem_map.mp member
    exact ⟨(nameable.selected column selected).1, (nameable.selected column selected).2⟩
  · obtain ⟨table, other, joined⟩ := List.mem_flatMap.mp member
    exact nameable_joinsBy (nameable.edges root rooted) (held table (List.mem_cons_of_mem root other))
      (Bool.not_eq_true _ ▸ List.find?_eq_none.mp free table other) joined
  · obtain ⟨column, selected, rfl⟩ := mem_grouping member
    exact (nameable.selected column selected).1

end Query

end Sql

/-- The names of the tables, columns and primary keys that statements over a star can hold. -/
def Star.names (star : Star) : List String :=
  let inTable (table : Table) : List String := table.name :: table.primaryKey.toList
  inTable star.fact ++ star.fact.foreignKeys.map (·.column) ++
    star.dimensions.flatMap (fun dimension => dimension.column :: inTable dimension.table) ++
    star.measures.flatMap (fun measure => measure.metric.column :: inTable measure.metric.table)

namespace Report

section

variable {parser : Sql.Parser} {lexicon : Sql.Lexicon parser} {star : Star}
  {caseSensitive : Bool}

private theorem nameableTable {table : Table} {names : List String}
    (named : ∀ name ∈ names, Nameable lexicon caseSensitive name)
    (held : table.name :: table.primaryKey.toList ⊆ names) :
    Sql.NameableTable lexicon caseSensitive table :=
  ⟨named _ (held List.mem_cons_self),
    fun column key => named column (held (List.mem_cons_of_mem _ (Option.mem_toList.mpr key)))⟩

variable (named : ∀ name ∈ star.names, Nameable lexicon caseSensitive name)
include named

theorem nameable_fact : Sql.NameableTable lexicon caseSensitive star.fact :=
  nameableTable named fun _ member =>
    List.mem_append_left _ (List.mem_append_left _ (List.mem_append_left _ member))

theorem nameable_edge {edge : Warehouse.ForeignKey} (declared : edge ∈ star.fact.foreignKeys) :
    Nameable lexicon caseSensitive edge.column :=
  named _ (List.mem_append_left _ (List.mem_append_left _ (List.mem_append_right _
    (List.mem_map_of_mem declared))))

theorem nameable_dimension {dimension : Dimension} (held : dimension ∈ star.dimensions) :
    Sql.NameableTable lexicon caseSensitive dimension.table ∧
      Nameable lexicon caseSensitive dimension.column := by
  have within : dimension.column :: dimension.table.name :: dimension.table.primaryKey.toList ⊆
      star.names := fun _ member =>
    List.mem_append_left _ (List.mem_append_right _ (List.mem_flatMap.mpr ⟨dimension, held, member⟩))
  exact ⟨nameableTable named (List.cons_subset.mp within).2,
    named _ (within List.mem_cons_self)⟩

theorem nameable_measure {measure : Measure} (held : measure ∈ star.measures) :
    Sql.NameableTable lexicon caseSensitive measure.metric.table ∧
      Nameable lexicon caseSensitive measure.metric.column := by
  have within : measure.metric.column :: measure.metric.table.name ::
      measure.metric.table.primaryKey.toList ⊆ star.names := fun _ member =>
    List.mem_append_right _ (List.mem_flatMap.mpr ⟨measure, held, member⟩)
  exact ⟨nameableTable named (List.cons_subset.mp within).2,
    named _ (within List.mem_cons_self)⟩

/-- The query of a request holds no names but those of the star. -/
theorem Request.nameable_query (known : ∀ measure ∈ star.measures, Sql.Known measure.function)
    (request : Request) :
    (request.selection star caseSensitive).query.Nameable lexicon caseSensitive := by
  have dimension_held {dimension : Dimension}
      (asked : dimension ∈ request.dimensionsIn star) : dimension ∈ star.dimensions := by
    obtain ⟨name, _, found⟩ := List.mem_filterMap.mp asked
    exact (Star.mem_of_dimension? found).1
  have measure_held {measure : Measure} (asked : measure ∈ request.measuresIn star) :
      measure ∈ star.measures := by
    obtain ⟨name, _, found⟩ := List.mem_filterMap.mp asked
    exact (Star.mem_of_measure? found).1
  refine ⟨fun table registered => ?_, fun root rooted edge declared => ?_,
    fun column selected => ?_⟩
  · rcases Request.mem_query_tables registered with rfl | used
    · exact nameable_fact named
    · rcases List.mem_append.mp used with member | member
      · obtain ⟨dimension, asked, rfl⟩ := List.mem_map.mp member
        exact (nameable_dimension named (dimension_held asked)).1
      · obtain ⟨measure, asked, rfl⟩ := List.mem_map.mp member
        exact (nameable_measure named (measure_held asked)).1
  · obtain ⟨others, tables, _⟩ :=
      Selection.query_tables_eq_cons (request.selection star caseSensitive)
    rw [Query.root?, tables] at rooted
    obtain rfl : star.fact = root := Option.some.inj rooted
    exact nameable_edge named declared
  · rw [Selection.query_selected] at selected
    rcases List.mem_append.mp (Distinct.mem_of_mem_ofList selected) with member | member
    · obtain ⟨dimension, kept, rfl⟩ := List.mem_map.mp member
      have held := dimension_held (Distinct.mem_of_mem_ofList kept)
      obtain ⟨table, columnNamed⟩ := nameable_dimension named held
      exact ⟨⟨table.name, columnNamed⟩, fun function absurdity => by cases absurdity⟩
    · obtain ⟨measure, kept, rfl⟩ := List.mem_map.mp member
      have held := measure_held (Distinct.mem_of_mem_ofList kept)
      obtain ⟨table, columnNamed⟩ := nameable_measure named held
      refine ⟨⟨table.name, columnNamed⟩, fun function called => ?_⟩
      obtain rfl : measure.function = function := Option.some.inj called
      exact known measure held

end

/-- Where the star lacks no dimension asked for, one is found as soon as one is asked for. -/
theorem Request.dimensionsIn_ne_nil {request : Request} {star : Star}
    (some_name : request.dimensions ≠ []) (known : request.unknownDimension? star = none) :
    request.dimensionsIn star ≠ [] := by
  obtain ⟨name, asked⟩ := List.exists_mem_of_ne_nil _ some_name
  have listed : name ∈ star.dimensions.map Dimension.name := by
    simpa using List.find?_eq_none.mp known name asked
  obtain ⟨dimension, found⟩ := Option.isSome_iff_exists.mp (Star.dimension?_isSome.mpr listed)
  exact List.ne_nil_of_mem (List.mem_filterMap.mpr ⟨name, asked, found⟩)

theorem Request.measuresIn_ne_nil {request : Request} {star : Star}
    (some_name : request.measures ≠ []) (known : request.unknownMeasure? star = none) :
    request.measuresIn star ≠ [] := by
  obtain ⟨name, asked⟩ := List.exists_mem_of_ne_nil _ some_name
  have listed : name ∈ star.measures.map Measure.name := by
    simpa using List.find?_eq_none.mp known name asked
  obtain ⟨measure, found⟩ := Option.isSome_iff_exists.mp (Star.measure?_isSome.mpr listed)
  exact List.ne_nil_of_mem (List.mem_filterMap.mpr ⟨name, asked, found⟩)

/-- A request with a name, where the star lacks none of its names, selects a column. -/
theorem Request.query_selected_ne_nil {request : Request} {star : Star} {caseSensitive : Bool}
    (named : request.isEmpty = false) (dimensions : request.unknownDimension? star = none)
    (measures : request.unknownMeasure? star = none) :
    (request.selection star caseSensitive).query.selected ≠ [] := by
  rw [Selection.query_selected]
  refine Distinct.ofList_ne_nil fun nothing => ?_
  obtain ⟨noDimension, noMeasure⟩ := List.append_eq_nil_iff.mp nothing
  rw [List.map_eq_nil_iff] at noDimension noMeasure
  rw [Request.isEmpty, Bool.and_eq_false_iff, List.isEmpty_eq_false_iff,
    List.isEmpty_eq_false_iff] at named
  rcases named with some_name | some_name
  · exact Distinct.ofList_ne_nil (dimensionsIn_ne_nil some_name dimensions) noDimension
  · exact Distinct.ofList_ne_nil (measuresIn_ne_nil some_name measures) noMeasure

/-- Every statement that a request gives over a star with known functions is one statement to the
check, whatever the dimensions and measures are called. -/
theorem check_of_bind {parser : Sql.Parser} {lexicon : Sql.Lexicon parser}
    (separates : lexicon.Separates) (accepts : lexicon.Accepts) {star : Star}
    (reached : star.Reached) (known : ∀ measure ∈ star.measures, Sql.Known measure.function)
    {request : Request} {options : Options}
    (named : options.caseSensitive = true ∨ ∀ name ∈ star.names, lexicon.PlainName name)
    {sql : String} (compiled : request.bind star options = .ok (some sql)) :
    Sql.check parser sql = .ok () := by
  have nameable : ∀ name ∈ star.names, Nameable lexicon options.caseSensitive name :=
    fun name held => named.imp_right fun plain => plain name held
  have filled := Request.isEmpty_of_bind compiled nofun
  have outcome := Request.outcome_bind reached.owns filled options
  rw [compiled] at outcome
  cases outcome with
  | compiled dimensions measures _ stated =>
    refine ((Request.nameable_query nameable known request).statement stated).check_text separates
      accepts ?_
    rw [Query.outputs_of_statement stated]
    exact fun nothing => Request.query_selected_ne_nil filled dimensions measures
      (List.map_eq_nil_iff.mp nothing)

/-- A star with quotes, separators and comments in all its names. -/
private def hostileStar : Star :=
  ((Star.ofFact ⟨0⟩ ((Table.named "sales\"; drop table \"x" none).addForeignKey "store id"
      (.named "/* store" (some "select")))).add
    (.dimension ⟨"city\" --\n;", .named "/* store" (some "select"), "name */", none⟩)).add
      (.measure ⟨"total;", ⟨.named "sales\"; drop table \"x" none, "amount\n", none⟩, .sum⟩)

/-- Quotes, separators, comments and line ends in names do not break a statement up, as the
recogniser sees it. -/
theorem check_hostileStar : ∃ sql,
    (⟨["city\" --\n;"], ["total;"]⟩ : Request).bind hostileStar ⟨true, false⟩ = .ok (some sql) ∧
      Sql.Grammar.lexicon.Separates ∧ Sql.Grammar.lexicon.Accepts ∧
      Sql.check Sql.Grammar.parser sql = .ok () := by
  obtain ⟨sql, compiled⟩ : ∃ sql, (⟨["city\" --\n;"], ["total;"]⟩ : Request).bind hostileStar
      ⟨true, false⟩ = .ok (some sql) := ⟨_, rfl⟩
  have reached : hostileStar.Reached := .add _ (.add _ (.ofFact _ _))
  have known : ∀ measure ∈ hostileStar.measures, Sql.Known measure.function := by
    intro measure member
    obtain rfl := List.mem_singleton.mp member
    exact fun spelling other => by cases other
  exact ⟨sql, compiled, Sql.Grammar.separates, Sql.Grammar.accepts,
    check_of_bind Sql.Grammar.separates Sql.Grammar.accepts reached known (.inl rfl) compiled⟩

end Report

end StarReport
