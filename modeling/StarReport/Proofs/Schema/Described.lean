import StarReport.Proofs.FirstOccurrences
import StarReport.Proofs.Schema.Violation

/-!
The schema that a document describes, read off its entries without any building, and what is found
in it under the names that the document uses.
-/

set_option autoImplicit false
set_option relaxedAutoImplicit false

namespace StarReport.Document

open StarReport.Star (Dimension Measure Metric StarId)
open Warehouse (Database ForeignKey Table TableKey)

def declaration? (document : Document) (name : String) : Option TableEntry :=
  document.tables.find? (·.name = name)

def tableKey (document : Document) (entry : TableEntry) : TableKey :=
  ⟨some document.database, entry.name, entry.primaryKey⟩

/-- The foreign key that an entry stands for; it ends at the table that is declared under the name
of its target. -/
def edge (document : Document) (entry : TableEntry) (key : ForeignKeyEntry) : ForeignKey :=
  ⟨document.tableKey entry, key.column, key.target,
    (document.declaration? key.target).bind TableEntry.primaryKey⟩

def table (document : Document) (entry : TableEntry) : Table :=
  ⟨document.tableKey entry, Distinct.ofList id (entry.foreignKeys.map (document.edge entry))⟩

/-- The table of a name; a bare one where none is declared. -/
def tableNamed (document : Document) (name : String) : Table :=
  match document.declaration? name with
  | some entry => document.table entry
  | none => .named name none

def dimension (document : Document) (id : StarId) (entry : DimensionEntry) : Dimension :=
  ⟨entry.name, document.tableNamed entry.table, entry.column, some id⟩

def metric (document : Document) (id : StarId) (entry : MetricEntry) : Metric :=
  ⟨document.tableNamed entry.table, entry.column, some id⟩

def measure (document : Document) (id : StarId) (entry : MeasureEntry) : Measure :=
  ⟨entry.name, document.metric id ⟨entry.table, entry.column⟩, entry.function⟩

def described (document : Document) : Database :=
  ⟨document.database, document.tables.map document.table⟩

/-- The schema that a document describes, over a star of the given identity. -/
def schema (document : Document) (id : StarId) : Schema :=
  ⟨document.described, id, document.tableNamed document.star.fact,
    document.star.dimensions.map (document.dimension id),
    Distinct.ofList Metric.identity (document.star.metrics.map (document.metric id)),
    document.star.measures.map (document.measure id)⟩

theorem declaration?_eq_none {document : Document} {name : String} :
    document.declaration? name = none ↔ name ∉ document.tableNames := by
  simp [declaration?, tableNames]

theorem mem_of_declaration? {document : Document} {name : String} {entry : TableEntry}
    (found : document.declaration? name = some entry) :
    entry ∈ document.tables ∧ entry.name = name :=
  ⟨List.mem_of_find?_eq_some found, by simpa using List.find?_some found⟩

theorem exists_entry {document : Document} {name : String}
    (declared : name ∈ document.tableNames) :
    ∃ entry ∈ document.tables, entry.name = name ∧ document.declaration? name = some entry := by
  cases found : document.declaration? name with
  | none => exact absurd declared (declaration?_eq_none.mp found)
  | some entry =>
    obtain ⟨member, named⟩ := mem_of_declaration? found
    exact ⟨entry, member, named, rfl⟩

/-! ### Names and what they stand for -/

theorem declaration?_of_mem {document : Document} (distinct : document.tableNames.Nodup)
    {entry : TableEntry} (listed : entry ∈ document.tables) :
    document.declaration? entry.name = some entry :=
  Distinct.find?_of_mem distinct listed

theorem dimension?_schema {document : Document} (formed : document.WellFormed)
    {entry : DimensionEntry} (listed : entry ∈ document.star.dimensions) (id : StarId) :
    (document.schema id).star.dimension? entry.name = some (document.dimension id entry) := by
  have found : document.star.dimensions.find? (·.name = entry.name) = some entry :=
    Distinct.find?_of_mem formed.dimensions listed
  exact List.find?_map.trans (congrArg (Option.map (document.dimension id)) found)

theorem measure?_schema {document : Document} (formed : document.WellFormed)
    {entry : MeasureEntry} (listed : entry ∈ document.star.measures) (id : StarId) :
    (document.schema id).star.measure? entry.name = some (document.measure id entry) := by
  have found : document.star.measures.find? (·.name = entry.name) = some entry :=
    Distinct.find?_of_mem formed.measures listed
  exact List.find?_map.trans (congrArg (Option.map (document.measure id)) found)

theorem tableNamed_of_declaration? {document : Document} {name : String} {entry : TableEntry}
    (found : document.declaration? name = some entry) :
    document.tableNamed name = document.table entry := by
  rw [tableNamed, found]

@[simp] theorem tableNamed_name (document : Document) (name : String) :
    (document.tableNamed name).name = name := by
  cases found : document.declaration? name with
  | none =>
    rw [tableNamed, found]
    rfl
  | some entry =>
    rw [tableNamed_of_declaration? found]
    exact (mem_of_declaration? found).2

theorem primaryKey_tableNamed (document : Document) (name : String) :
    (document.tableNamed name).primaryKey =
      (document.declaration? name).bind TableEntry.primaryKey := by
  unfold tableNamed
  cases document.declaration? name <;> rfl

/-- A foreign key ends at the table that is declared under the name of its target. -/
theorem target_edge {document : Document} (entry : TableEntry) {key : ForeignKeyEntry}
    (declared : key.target ∈ document.tableNames) :
    (document.edge entry key).target = (document.tableNamed key.target).key := by
  obtain ⟨target, _, named, found⟩ := exists_entry declared
  rw [tableNamed_of_declaration? found, edge, found, ← named]
  rfl

/-- The foreign keys of a table to another are those of its entry that name the other. -/
theorem references_tableNamed {document : Document} (formed : document.WellFormed)
    {entry : TableEntry} (listed : entry ∈ document.tables) (name : String) :
    (document.table entry).references (document.tableNamed name) =
      Distinct.ofList id ((entry.foreignKeys.filter (·.target = name)).map fun key =>
        ⟨document.tableKey entry, key.column, name, (document.tableNamed name).primaryKey⟩) := by
  have aimed (key : ForeignKeyEntry) (stated : key ∈ entry.foreignKeys) :
      decide ((document.edge entry key).target = (document.tableNamed name).key) =
        decide (key.target = name) := by
    rw [decide_eq_decide, target_edge entry (formed.targets entry listed key stated)]
    constructor
    · intro same
      have names := congrArg (·.name) same
      exact (document.tableNamed_name key.target).symm.trans
        (names.trans (document.tableNamed_name name))
    · rintro rfl
      rfl
  have keyed (x y : ForeignKey) (same : id x = id y) :
      decide (x.target = (document.tableNamed name).key) =
        decide (y.target = (document.tableNamed name).key) := by
    rw [id, id] at same
    rw [same]
  have picked : (document.table entry).references (document.tableNamed name) =
      Distinct.ofList id ((entry.foreignKeys.map (document.edge entry)).filter
        (·.target = (document.tableNamed name).key)) :=
    Distinct.filter_ofList keyed _
  have of_name : entry.foreignKeys.filter
      ((·.target = (document.tableNamed name).key) ∘ document.edge entry) =
        entry.foreignKeys.filter (·.target = name) := List.filter_congr aimed
  rw [picked, List.filter_map, of_name]
  refine congrArg _ (List.map_congr_left fun key named => ?_)
  obtain rfl : key.target = name := by simpa using (List.mem_filter.mp named).2
  rw [primaryKey_tableNamed]
  rfl

theorem table?_described (document : Document) (name : String) :
    document.described.table? name = (document.declaration? name).map document.table :=
  List.find?_map

theorem table?_of_declared {document : Document} {name : String}
    (declared : name ∈ document.tableNames) :
    document.described.table? name = some (document.tableNamed name) := by
  obtain ⟨entry, _, _, found⟩ := exists_entry declared
  rw [table?_described, found, tableNamed_of_declaration? found]
  rfl

end StarReport.Document
