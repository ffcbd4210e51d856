import Mathlib.Data.List.Forall2
import Mathlib.Data.List.Perm.Subperm
import StarReport.Proofs.Report.Congruence
import StarReport.Proofs.Schema.Faithful

/-!
Edits of a document that a request cannot see. Whatever is reordered or added to a document, a
request for members that were there before is answered as it was, as long as the fact gets no new
foreign key to a table of those members.
-/

set_option autoImplicit false
set_option relaxedAutoImplicit false

namespace StarReport

open Report (Options Request)
open StarReport.Star (Dimension Measure StarId)
open Warehouse (Table)

/-! ### Edits -/

namespace Document

/-- A list with new elements put anywhere into it, each of them allowed. -/
inductive Inserted {α : Type} (allowed : α → Prop) : List α → List α → Prop
  | nil : Inserted allowed [] []
  | kept {x : α} {xs ys : List α} : Inserted allowed xs ys → Inserted allowed (x :: xs) (x :: ys)
  | new {y : α} {xs ys : List α} : allowed y → Inserted allowed xs ys →
      Inserted allowed xs (y :: ys)

/-- A test that no new element passes picks what it picked before. -/
theorem Inserted.filter_eq {α : Type} {allowed : α → Prop} {p : α → Bool} {xs ys : List α}
    (inserted : Inserted allowed xs ys) (apart : ∀ y, allowed y → p y = false) :
    ys.filter p = xs.filter p := by
  induction inserted with
  | nil => rfl
  | kept _ ih => rw [List.filter_cons, List.filter_cons, ih]
  | new fresh _ ih => rw [List.filter_cons_of_neg (by simp [apart _ fresh]), ih]

/-- An entry of a table with new foreign keys. -/
structure Grown (allowed : ForeignKeyEntry → Prop) (entry entry' : TableEntry) : Prop where
  name : entry'.name = entry.name
  primaryKey : entry'.primaryKey = entry.primaryKey
  foreignKeys : Inserted allowed entry.foreignKeys entry'.foreignKeys

/-- The names of the tables of the members that a request asks for. -/
def tablesOf (document : Document) (request : Request) : List String :=
  (document.star.dimensions.filter (·.name ∈ request.dimensions)).map DimensionEntry.table ++
    (document.star.measures.filter (·.name ∈ request.measures)).map MeasureEntry.table

/-- A foreign key, new on a table, that a request cannot see: it is not one of the fact to a table
of the members asked for. -/
def Unseen (document : Document) (request : Request) (table : String) (key : ForeignKeyEntry) :
    Prop :=
  table = document.star.fact → key.target ∉ document.tablesOf request

/-- A document offers all that a request asks for. -/
structure Offers (document : Document) (request : Request) : Prop where
  dimensions : request.dimensions ⊆ document.star.dimensions.map DimensionEntry.name
  measures : request.measures ⊆ document.star.measures.map MeasureEntry.name

/-- An edit beside a request: the lists of the document in any order with anything new in them, and
new foreign keys of tables that the request cannot see. -/
structure Edited (request : Request) (before after : Document) : Prop where
  database : after.database = before.database
  fact : after.star.fact = before.star.fact
  tables : ∃ grown, List.Forall₂ (fun entry => Grown (before.Unseen request entry.name) entry)
    before.tables grown ∧ grown.Subperm after.tables
  dimensions : before.star.dimensions.Subperm after.star.dimensions
  metrics : before.star.metrics.Subperm after.star.metrics
  measures : before.star.measures.Subperm after.star.measures

/-- The same entries in another order. -/
structure Permuted (before after : Document) : Prop where
  database : after.database = before.database
  fact : after.star.fact = before.star.fact
  tables : before.tables.Perm after.tables
  dimensions : before.star.dimensions.Perm after.star.dimensions
  metrics : before.star.metrics.Perm after.star.metrics
  measures : before.star.measures.Perm after.star.measures

theorem Permuted.wellFormed {before after : Document} (permuted : Permuted before after)
    (formed : before.WellFormed) : after.WellFormed := by
  have names : before.tableNames.Perm after.tableNames := permuted.tables.map _
  refine ⟨names.nodup formed.tables, (permuted.dimensions.map _).nodup formed.dimensions,
    (permuted.measures.map _).nodup formed.measures, ?_, ?_, ?_, ?_, ?_⟩
  · intro table listed key stated
    exact names.subset (formed.targets table (permuted.tables.mem_iff.mpr listed) key stated)
  · rw [permuted.fact]
    exact names.subset formed.fact
  · intro entry listed
    exact names.subset (formed.dimensionTables entry (permuted.dimensions.mem_iff.mpr listed))
  · intro entry listed
    exact names.subset (formed.metricTables entry (permuted.metrics.mem_iff.mpr listed))
  · intro entry listed
    exact names.subset (formed.measureTables entry (permuted.measures.mem_iff.mpr listed))

/-! ### What a request finds -/

section Offers

variable {document : Document} {request : Request} {id : StarId}

theorem Offers.unknownDimension? (offered : document.Offers request) :
    request.unknownDimension? (document.schema id).star = none := by
  refine List.find?_eq_none.mpr fun name asked => ?_
  have names : (document.schema id).star.dimensions.map Dimension.name =
      document.star.dimensions.map DimensionEntry.name := by
    rw [schema, List.map_map]
    rfl
  have known : name ∈ document.star.dimensions.map DimensionEntry.name := offered.dimensions asked
  rw [names]
  simpa using known

theorem Offers.unknownMeasure? (offered : document.Offers request) :
    request.unknownMeasure? (document.schema id).star = none := by
  refine List.find?_eq_none.mpr fun name asked => ?_
  have names : (document.schema id).star.measures.map Measure.name =
      document.star.measures.map MeasureEntry.name := by
    rw [schema, List.map_map]
    rfl
  have known : name ∈ document.star.measures.map MeasureEntry.name := offered.measures asked
  rw [names]
  simpa using known

/-- The tables of the members asked for are those that the document names for them. -/
theorem exists_of_mem_tablesIn (formed : document.WellFormed) {table : Table}
    (used : table ∈ request.tablesIn (document.schema id).star) :
    ∃ name ∈ document.tablesOf request, name ∈ document.tableNames ∧
      table = document.tableNamed name := by
  rcases List.mem_append.mp used with used | used
  · obtain ⟨dimension, held, rfl⟩ := List.mem_map.mp used
    obtain ⟨name, asked, found⟩ := List.mem_filterMap.mp held
    obtain ⟨member, rfl⟩ := Star.mem_of_dimension? found
    obtain ⟨entry, listed, rfl⟩ := List.mem_map.mp member
    refine ⟨entry.table, List.mem_append_left _ ?_, formed.dimensionTables entry listed, rfl⟩
    exact List.mem_map_of_mem (List.mem_filter.mpr ⟨listed, decide_eq_true asked⟩)
  · obtain ⟨measure, held, rfl⟩ := List.mem_map.mp used
    obtain ⟨name, asked, found⟩ := List.mem_filterMap.mp held
    obtain ⟨member, rfl⟩ := Star.mem_of_measure? found
    obtain ⟨entry, listed, rfl⟩ := List.mem_map.mp member
    refine ⟨entry.table, List.mem_append_right _ ?_, formed.measureTables entry listed, rfl⟩
    exact List.mem_map_of_mem (List.mem_filter.mpr ⟨listed, decide_eq_true asked⟩)

end Offers

namespace Edited

variable {request : Request} {before after : Document}

/-- Every entry is there still, grown. -/
private theorem exists_grown (edited : Edited request before after) {entry : TableEntry}
    (listed : entry ∈ before.tables) :
    ∃ entry' ∈ after.tables, Grown (before.Unseen request entry.name) entry entry' := by
  obtain ⟨grown, pairs, held⟩ := edited.tables
  obtain ⟨place, bound, rfl⟩ := List.mem_iff_getElem.mp listed
  have bound' : place < grown.length := pairs.length_eq ▸ bound
  exact ⟨grown[place], held.subset (List.getElem_mem bound'), pairs.get bound bound'⟩

private theorem declared_twice (edited : Edited request before after) (formed' : after.WellFormed)
    {name : String} (declared : name ∈ before.tableNames) :
    ∃ entry ∈ before.tables, ∃ entry' ∈ after.tables,
      before.declaration? name = some entry ∧ after.declaration? name = some entry' ∧
        Grown (before.Unseen request name) entry entry' := by
  obtain ⟨entry, listed, rfl, found⟩ := exists_entry declared
  obtain ⟨entry', listed', grown⟩ := edited.exists_grown listed
  refine ⟨entry, listed, entry', listed', found, ?_, grown⟩
  rw [← grown.name]
  exact declaration?_of_mem formed'.tables listed'

private theorem tableKey_eq (edited : Edited request before after) {entry entry' : TableEntry}
    {allowed : ForeignKeyEntry → Prop} (grown : Grown allowed entry entry') :
    after.tableKey entry' = before.tableKey entry := by
  rw [tableKey, tableKey, edited.database, grown.name, grown.primaryKey]

theorem key_tableNamed (edited : Edited request before after) (formed' : after.WellFormed)
    {name : String} (declared : name ∈ before.tableNames) :
    (after.tableNamed name).key = (before.tableNamed name).key := by
  obtain ⟨entry, _, entry', _, found, found', grown⟩ := edited.declared_twice formed' declared
  rw [tableNamed_of_declaration? found, tableNamed_of_declaration? found']
  exact edited.tableKey_eq grown

/-- The fact refers as before to the tables of the members asked for. -/
theorem references_fact (edited : Edited request before after) (formed : before.WellFormed)
    (formed' : after.WellFormed) {name : String} (asked : name ∈ before.tablesOf request)
    (declared : name ∈ before.tableNames) :
    (after.tableNamed after.star.fact).references (before.tableNamed name) =
      (before.tableNamed before.star.fact).references (before.tableNamed name) := by
  have same := edited.key_tableNamed formed' declared
  obtain ⟨entry, listed, entry', listed', found, found', grown⟩ :=
    edited.declared_twice formed' formed.fact
  have kept : entry'.foreignKeys.filter (·.target = name) =
      entry.foreignKeys.filter (·.target = name) := by
    refine grown.foreignKeys.filter_eq fun key unseen => decide_eq_false ?_
    rintro rfl
    exact unseen rfl asked
  rw [edited.fact, tableNamed_of_declaration? found, tableNamed_of_declaration? found',
    ← Table.references_eq_of_key _ same, references_tableNamed formed listed,
    references_tableNamed formed' listed', kept, edited.tableKey_eq grown, Table.primaryKey, same]
  rfl

/-! ### The members of an edited document -/

theorem offers (edited : Edited request before after) (offered : before.Offers request) :
    after.Offers request :=
  ⟨fun _ asked => List.map_subset _ edited.dimensions.subset (offered.dimensions asked),
    fun _ asked => List.map_subset _ edited.measures.subset (offered.measures asked)⟩

variable (edited : Edited request before after) (formed : before.WellFormed)
  (formed' : after.WellFormed) (offered : before.Offers request) (id id' : StarId)
include edited formed formed' offered

theorem dimensionsIn_schema :
    (request.dimensionsIn (after.schema id').star).map Dimension.identity =
      (request.dimensionsIn (before.schema id).star).map Dimension.identity := by
  unfold Request.dimensionsIn
  rw [List.map_filterMap, List.map_filterMap]
  refine List.filterMap_congr fun name asked => ?_
  obtain ⟨entry, listed, rfl⟩ := List.mem_map.mp (offered.dimensions asked)
  rw [dimension?_schema formed listed, dimension?_schema formed' (edited.dimensions.subset listed)]
  have same := edited.key_tableNamed formed' (formed.dimensionTables entry listed)
  exact congrArg (fun key => some (⟨entry.name, key, entry.column⟩ : Dimension.Identity)) same

theorem measuresIn_schema :
    (request.measuresIn (after.schema id').star).map Measure.identity =
      (request.measuresIn (before.schema id).star).map Measure.identity := by
  unfold Request.measuresIn
  rw [List.map_filterMap, List.map_filterMap]
  refine List.filterMap_congr fun name asked => ?_
  obtain ⟨entry, listed, rfl⟩ := List.mem_map.mp (offered.measures asked)
  rw [measure?_schema formed listed, measure?_schema formed' (edited.measures.subset listed)]
  have same := edited.key_tableNamed formed' (formed.measureTables entry listed)
  exact congrArg (fun key =>
    some (⟨entry.name, ⟨key, entry.column⟩, entry.function⟩ : Measure.Identity)) same

/-- The request finds the same in both. -/
theorem alike : request.Alike (before.schema id).star (after.schema id').star where
  unknownDimension := by
    rw [(edited.offers offered).unknownDimension?, offered.unknownDimension?]
  unknownMeasure := by
    rw [(edited.offers offered).unknownMeasure?, offered.unknownMeasure?]
  fact := by
    change (after.tableNamed after.star.fact).key = (before.tableNamed before.star.fact).key
    rw [edited.fact]
    exact edited.key_tableNamed formed' formed.fact
  dimensions := edited.dimensionsIn_schema formed formed' offered id id'
  measures := edited.measuresIn_schema formed formed' offered id id'
  edges := by
    intro table used
    obtain ⟨name, asked, declared, rfl⟩ := exists_of_mem_tablesIn formed used
    exact edited.references_fact formed formed' asked declared

end Edited

/-- A request for what a document offers is answered, or a table lacks the primary key that a join
needs. -/
theorem bind_offered {document : Document} {request : Request} (formed : document.WellFormed)
    (offered : document.Offers request) (id : StarId) (options : Options) :
    (∃ sql, request.bind (document.schema id).star options = .ok sql) ∨
      ∃ table, request.bind (document.schema id).star options =
        .error (.report (.query (.missingPrimaryKey table))) := by
  cases empty : request.isEmpty with
  | true =>
    rw [Request.bind_eq, if_pos empty]
    exact .inl ⟨none, rfl⟩
  | false =>
    have owns := (renders_schema formed id).owned
    have unknown : request.unknownDimension? (document.schema id).star = none :=
      offered.unknownDimension?
    have unknown_measure : request.unknownMeasure? (document.schema id).star = none :=
      offered.unknownMeasure?
    have outcome := Request.outcome_bind owns empty options
    generalize request.bind (document.schema id).star options = result at outcome
    cases outcome with
    | dimensionNotFound found => simp [unknown] at found
    | measureNotFound _ found => simp [unknown_measure] at found
    | @missingPrimaryKey table _ _ _ => exact .inr ⟨table.name, rfl⟩
    | @compiled statement _ _ _ _ => exact .inl ⟨_, rfl⟩

end Document

/-- No edit beside a request changes what the request comes to, which is a statement or a missing
primary key, and putting the entries of a document in another order never makes it unfit. -/
theorem Report.bind_of_edited {before : Document} {id : StarId} {schema : Schema}
    (built : Schema.build id before = .ok schema) :
    (∀ (request : Request) (after : Document) (id' : StarId) (schema' : Schema),
      before.Offers request → Document.Edited request before after →
      Schema.build id' after = .ok schema' → ∀ options,
      request.bind schema'.star options = request.bind schema.star options ∧
        ((∃ sql, request.bind schema.star options = .ok sql) ∨
          ∃ table, request.bind schema.star options =
            .error (.report (.query (.missingPrimaryKey table))))) ∧
    ∀ (after : Document) (id' : StarId), Document.Permuted before after →
      ∃ schema', Schema.build id' after = .ok schema' := by
  obtain ⟨formed, rfl⟩ := Document.build_eq_ok.mp built
  refine ⟨?_, ?_⟩
  · intro request after id' schema' offered edited built' options
    obtain ⟨formed', rfl⟩ := Document.build_eq_ok.mp built'
    have owns := (Document.renders_schema formed id).owned
    have owns' := (Document.renders_schema formed' id').owned
    have alike := edited.alike formed formed' offered id id'
    exact ⟨alike.bind_eq owns owns' options, Document.bind_offered formed offered id options⟩
  · intro after id' permuted
    exact ⟨_, Document.build_eq_ok.mpr ⟨permuted.wellFormed formed, rfl⟩⟩

namespace Report

private def salesBefore : Document :=
  ⟨"StarDB", [⟨"FactSales", none, [⟨"StoreId", "DimStore"⟩]⟩, ⟨"DimStore", some "id", []⟩],
    ⟨"FactSales", [⟨"Store", "DimStore", "City"⟩], [],
      [⟨"Sold", .sum, "FactSales", "Quantity"⟩]⟩⟩

/-- The same sales with their dates, which come first everywhere. -/
private def salesAfter : Document :=
  ⟨"StarDB", [⟨"DimDate", some "id", []⟩, ⟨"DimStore", some "id", [⟨"OpenedId", "DimDate"⟩]⟩,
      ⟨"FactSales", none, [⟨"DateId", "DimDate"⟩, ⟨"StoreId", "DimStore"⟩]⟩],
    ⟨"FactSales", [⟨"Day", "DimDate", "Day"⟩, ⟨"Store", "DimStore", "City"⟩],
      [⟨"FactSales", "Price"⟩],
      [⟨"Price", .avg, "FactSales", "Price"⟩, ⟨"Sold", .sum, "FactSales", "Quantity"⟩]⟩⟩

private def soldByStore : Request := ⟨["Store"], ["Sold"]⟩

private theorem edited_sales : Document.Edited soldByStore salesBefore salesAfter := by
  have fact : Document.Grown (salesBefore.Unseen soldByStore "FactSales")
      ⟨"FactSales", none, [⟨"StoreId", "DimStore"⟩]⟩
      ⟨"FactSales", none, [⟨"DateId", "DimDate"⟩, ⟨"StoreId", "DimStore"⟩]⟩ :=
    ⟨rfl, rfl, .new (fun _ => by decide) (.kept .nil)⟩
  have store : Document.Grown (salesBefore.Unseen soldByStore "DimStore")
      ⟨"DimStore", some "id", []⟩ ⟨"DimStore", some "id", [⟨"OpenedId", "DimDate"⟩]⟩ :=
    ⟨rfl, rfl, .new (fun other => absurd other (by decide)) .nil⟩
  exact ⟨rfl, rfl, ⟨_, .cons fact (.cons store .nil), by decide⟩, by decide, by decide, by decide⟩

theorem bind_salesAfter :
    Schema.build ⟨0⟩ salesBefore = .ok (salesBefore.schema ⟨0⟩) ∧
    Schema.build ⟨1⟩ salesAfter = .ok (salesAfter.schema ⟨1⟩) ∧
    salesBefore.Offers soldByStore ∧ Document.Edited soldByStore salesBefore salesAfter ∧
    (∃ sql, soldByStore.bind (salesBefore.schema ⟨0⟩).star ⟨false, false⟩ = .ok (some sql) ∧
      soldByStore.bind (salesAfter.schema ⟨1⟩).star ⟨false, false⟩ = .ok (some sql)) ∧
    ∃ schema, Schema.build ⟨2⟩ { salesBefore with tables := salesBefore.tables.reverse } =
      .ok schema := by
  have built : Schema.build ⟨0⟩ salesBefore = .ok (salesBefore.schema ⟨0⟩) := by rfl
  have built' : Schema.build ⟨1⟩ salesAfter = .ok (salesAfter.schema ⟨1⟩) := by rfl
  have offered : salesBefore.Offers soldByStore := ⟨by decide, by decide⟩
  have turned : salesBefore.Permuted { salesBefore with tables := salesBefore.tables.reverse } :=
    ⟨rfl, rfl, (List.reverse_perm _).symm, .refl _, .refl _, .refl _⟩
  have unchanged := (bind_of_edited built).1 soldByStore salesAfter ⟨1⟩ _ offered edited_sales
    built' ⟨false, false⟩
  obtain ⟨sql, answered⟩ : ∃ sql,
      soldByStore.bind (salesBefore.schema ⟨0⟩).star ⟨false, false⟩ = .ok (some sql) := ⟨_, by rfl⟩
  exact ⟨built, built', offered, edited_sales, ⟨sql, answered, unchanged.1.trans answered⟩,
    (bind_of_edited built).2 _ ⟨2⟩ turned⟩

end Report

end StarReport
