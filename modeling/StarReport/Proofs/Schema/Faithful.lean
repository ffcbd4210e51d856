import StarReport.Proofs.Schema.Building

/-!
What a schema keeps of the document it was built from. Nothing is lost or added: tables, dimensions
and measures are those of the document one for one, repeated foreign keys and metrics are kept once,
and every table that the star holds is the table of the database with all its foreign keys.
-/

set_option autoImplicit false
set_option relaxedAutoImplicit false

namespace StarReport

open Document
open StarReport.Star (Dimension Measure Metric StarId)
open Warehouse (ForeignKey Table)

/-- The tables that a star holds, for its fact and for each of its members. -/
def Star.handles (star : Star) : List Table :=
  star.fact :: (star.dimensions.map Dimension.table ++ star.metrics.map Metric.table ++
    star.measures.map (·.metric.table))

/-- A schema says what a document says. -/
structure Schema.Renders (schema : Schema) (document : Document) : Prop where
  name : schema.database.name = document.database
  tables : schema.database.tables.map Table.key =
    document.tables.map fun entry => ⟨some document.database, entry.name, entry.primaryKey⟩
  /-- Each table has the foreign keys of its entry, every one where it first occurs. -/
  foreignKeys : (schema.database.tables.map fun table =>
      table.foreignKeys.map fun edge => (⟨edge.column, edge.targetName⟩ : ForeignKeyEntry)) =
    document.tables.map fun entry => entry.foreignKeys.eraseDups
  ends : ∀ table ∈ schema.database.tables, ∀ edge ∈ table.foreignKeys,
    edge.source = table.key ∧ ∃ target,
      schema.database.table? edge.targetName = some target ∧ edge.target = target.key
  fact : schema.star.fact.name = document.star.fact
  dimensions : (schema.star.dimensions.map fun dimension =>
      (⟨dimension.name, dimension.table.name, dimension.column⟩ : DimensionEntry)) =
    document.star.dimensions
  metrics : (schema.star.metrics.map fun metric =>
      (⟨metric.table.name, metric.column⟩ : MetricEntry)) = document.star.metrics.eraseDups
  measures : (schema.star.measures.map fun measure =>
      (⟨measure.name, measure.function, measure.metric.table.name, measure.metric.column⟩ :
        MeasureEntry)) = document.star.measures
  owned : schema.star.Owns
  handles : ∀ table ∈ schema.star.handles, schema.database.table? table.name = some table

namespace Document

private theorem foreignKeys_described (document : Document) (entry : TableEntry) :
    ((document.table entry).foreignKeys.map fun edge =>
      (⟨edge.column, edge.targetName⟩ : ForeignKeyEntry)) = entry.foreignKeys.eraseDups := by
  let read (edge : ForeignKey) : ForeignKeyEntry := ⟨edge.column, edge.targetName⟩
  exact Distinct.map_read_ofList read (fun _ => rfl) entry.foreignKeys

private theorem metrics_described (document : Document) (id : StarId) :
    ((document.schema id).star.metrics.map fun metric =>
      (⟨metric.table.name, metric.column⟩ : MetricEntry)) = document.star.metrics.eraseDups := by
  let read (identity : Metric.Identity) : MetricEntry := ⟨identity.table.name, identity.column⟩
  have reads (entry : MetricEntry) : read (document.metric id entry).identity = entry := by
    have named := document.tableNamed_name entry.table
    exact congrArg (fun table => (⟨table, entry.column⟩ : MetricEntry)) named
  exact Distinct.map_read_ofList read reads document.star.metrics

/-- Every table that the star holds is one that the document names. -/
private theorem handles_described {document : Document} (formed : document.WellFormed) {id : StarId}
    {table : Table} (held : table ∈ (document.schema id).star.handles) :
    ∃ name ∈ document.tableNames, table = document.tableNamed name := by
  rcases List.mem_cons.mp held with rfl | held
  · exact ⟨document.star.fact, formed.fact, rfl⟩
  rcases List.mem_append.mp held with held | held
  · rcases List.mem_append.mp held with held | held
    · simp only [schema, List.map_map, List.mem_map] at held
      obtain ⟨entry, listed, rfl⟩ := held
      exact ⟨entry.table, formed.dimensionTables entry listed, rfl⟩
    · obtain ⟨metric, kept, rfl⟩ := List.mem_map.mp held
      obtain ⟨entry, listed, rfl⟩ := List.mem_map.mp (Distinct.mem_of_mem_ofList kept)
      exact ⟨entry.table, formed.metricTables entry listed, rfl⟩
  · simp only [schema, List.map_map, List.mem_map] at held
    obtain ⟨entry, listed, rfl⟩ := held
    exact ⟨entry.table, formed.measureTables entry listed, rfl⟩

private theorem ends_described {document : Document} (formed : document.WellFormed)
    {table : Table} (held : table ∈ document.described.tables) {edge : ForeignKey}
    (declared : edge ∈ table.foreignKeys) :
    edge.source = table.key ∧ ∃ target,
      document.described.table? edge.targetName = some target ∧ edge.target = target.key := by
  obtain ⟨entry, listed, rfl⟩ := List.mem_map.mp held
  obtain ⟨key, stated, rfl⟩ := List.mem_map.mp (Distinct.mem_of_mem_ofList declared)
  have aim := formed.targets entry listed key stated
  exact ⟨rfl, document.tableNamed key.target, table?_of_declared aim, target_edge entry aim⟩

theorem renders_schema {document : Document} (formed : document.WellFormed) (id : StarId) :
    (document.schema id).Renders document where
  name := rfl
  tables := by
    simp only [schema, described, List.map_map]
    rfl
  foreignKeys := by
    simp only [schema, described, List.map_map]
    exact List.map_congr_left fun entry _ => document.foreignKeys_described entry
  ends := fun table held edge declared => ends_described formed held declared
  fact := document.tableNamed_name document.star.fact
  dimensions := by
    simp only [schema, List.map_map, Function.comp_def, dimension, tableNamed_name]
    exact List.map_id' _
  metrics := document.metrics_described id
  measures := by
    simp only [schema, List.map_map, Function.comp_def, measure, metric, tableNamed_name]
    exact List.map_id' _
  owned := by
    refine ⟨?_, ?_, ?_⟩
    · intro dimension member
      obtain ⟨entry, _, rfl⟩ := List.mem_map.mp member
      rfl
    · intro metric member
      obtain ⟨entry, _, rfl⟩ := List.mem_map.mp (Distinct.mem_of_mem_ofList member)
      rfl
    · intro measure member
      obtain ⟨entry, _, rfl⟩ := List.mem_map.mp member
      rfl
  handles := by
    intro table held
    obtain ⟨name, declared, rfl⟩ := handles_described formed held
    rw [tableNamed_name]
    exact table?_of_declared declared

end Document

/-- What is built from a document says what the document says, and its star has the identity asked
for. -/
theorem Schema.renders_of_build {id : StarId} {document : Document} {schema : Schema}
    (built : build id document = .ok schema) : schema.Renders document ∧ schema.star.id = id := by
  obtain ⟨formed, rfl⟩ := Document.build_eq_ok.mp built
  exact ⟨Document.renders_schema formed id, rfl⟩

/-- A document that states a foreign key and a metric twice, and an empty primary key. -/
private def sales : Document :=
  ⟨"StarDB",
    [⟨"FactSales", none, [⟨"StoreId", "DimStore"⟩, ⟨"Id", "FactSales"⟩, ⟨"StoreId", "DimStore"⟩]⟩,
      ⟨"DimStore", some "", []⟩],
    ⟨"FactSales", [⟨"Store", "DimStore", "Name"⟩],
      [⟨"FactSales", "Price"⟩, ⟨"DimStore", "Size"⟩, ⟨"FactSales", "Price"⟩],
      [⟨"Median Price", .other "median", "FactSales", "Price"⟩]⟩⟩

private def salesSchema : Schema :=
  let key : Warehouse.TableKey := ⟨some "StarDB", "FactSales", none⟩
  let facts : Table :=
    ⟨key, [⟨key, "StoreId", "DimStore", some ""⟩, ⟨key, "Id", "FactSales", none⟩]⟩
  let stores : Table := ⟨⟨some "StarDB", "DimStore", some ""⟩, []⟩
  ⟨⟨"StarDB", [facts, stores]⟩, ⟨0⟩, facts, [⟨"Store", stores, "Name", some ⟨0⟩⟩],
    [⟨facts, "Price", some ⟨0⟩⟩, ⟨stores, "Size", some ⟨0⟩⟩],
    [⟨"Median Price", ⟨facts, "Price", some ⟨0⟩⟩, .other "median"⟩]⟩

private theorem build_sales : Schema.build ⟨0⟩ sales = .ok salesSchema := by rfl

theorem Schema.renders_sales :
    Schema.build ⟨0⟩ sales = .ok salesSchema ∧ salesSchema.Renders sales :=
  ⟨build_sales, (Schema.renders_of_build build_sales).1⟩

end StarReport
