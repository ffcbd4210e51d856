import StarReport.Proofs.FirstFailure
import StarReport.Schema.Build

/-!
What can be wrong with a document: a name that comes twice, or a reference to a table that is not
declared. The violations of a document stand in the order in which they are told, and a document
without any is well formed.
-/

set_option autoImplicit false
set_option relaxedAutoImplicit false

namespace StarReport.Document

open FirstFailure (inTurn inTurn_eq_flatMap)
open Schema (BuildError EntryKind Referrer)

def tableNames (document : Document) : List String := document.tables.map TableEntry.name

/-- A reference to a table, where the table is not declared. -/
def undeclared (document : Document) (table : String) (referrer : Referrer) : List BuildError :=
  if table ∈ document.tableNames then [] else [.unknownTable table referrer]

variable {α : Type}

/-- The name of an entry, where an entry before it has the same. -/
def repeated (kind : EntryKind) (name : α → String) (before : List α) (entry : α) :
    List BuildError :=
  if name entry ∈ before.map name then [.duplicateName kind (name entry)] else []

def danglingKeys (document : Document) (table : TableEntry) : List BuildError :=
  table.foreignKeys.flatMap fun key => document.undeclared key.target .foreignKey

/-- A repeated name of a dimension comes before an unknown table of the same dimension. -/
def dimensionFaults (document : Document) (before : List DimensionEntry) (entry : DimensionEntry) :
    List BuildError :=
  repeated .dimension DimensionEntry.name before entry ++
    document.undeclared entry.table (.dimension entry.name)

def metricFaults (document : Document) (entry : MetricEntry) : List BuildError :=
  document.undeclared entry.table .metric

def measureFaults (document : Document) (before : List MeasureEntry) (entry : MeasureEntry) :
    List BuildError :=
  repeated .measure MeasureEntry.name before entry ++
    document.undeclared entry.table (.measure entry.name)

def repeatedTables (document : Document) : List BuildError :=
  inTurn (repeated .table TableEntry.name) [] document.tables

def starViolations (document : Document) : List BuildError :=
  document.undeclared document.star.fact .fact ++
    (inTurn document.dimensionFaults [] document.star.dimensions ++
      (document.star.metrics.flatMap document.metricFaults ++
        inTurn document.measureFaults [] document.star.measures))

/-- All that is wrong with a document: repeated tables, then foreign keys that lead nowhere, then
the star with its fact, dimensions, metrics and measures. -/
def violations (document : Document) : List BuildError :=
  (document.repeatedTables ++ document.tables.flatMap document.danglingKeys) ++
    document.starViolations

/-- Names are not used twice, and every table that is named is declared. -/
structure WellFormed (document : Document) : Prop where
  tables : document.tableNames.Nodup
  dimensions : (document.star.dimensions.map DimensionEntry.name).Nodup
  measures : (document.star.measures.map MeasureEntry.name).Nodup
  targets : ∀ table ∈ document.tables, ∀ key ∈ table.foreignKeys, key.target ∈ document.tableNames
  fact : document.star.fact ∈ document.tableNames
  dimensionTables : ∀ entry ∈ document.star.dimensions, entry.table ∈ document.tableNames
  metricTables : ∀ entry ∈ document.star.metrics, entry.table ∈ document.tableNames
  measureTables : ∀ entry ∈ document.star.measures, entry.table ∈ document.tableNames

/-! ### Documents without violations -/

theorem undeclared_eq_nil {document : Document} {table : String} {referrer : Referrer} :
    document.undeclared table referrer = [] ↔ table ∈ document.tableNames := by
  unfold undeclared
  split <;> simp_all

theorem repeated_eq_nil {kind : EntryKind} {name : α → String} {before : List α} {entry : α} :
    repeated kind name before entry = [] ↔ name entry ∉ before.map name := by
  unfold repeated
  split <;> simp_all

/-- No entry repeats a name, and none has a fault of its own. -/
private theorem inTurn_repeated_eq_nil (kind : EntryKind) (name : α → String)
    (own : α → List BuildError) (before entries : List α) :
    inTurn (fun before entry => repeated kind name before entry ++ own entry) before entries = [] ↔
      ((entries.map name).Nodup ∧ ∀ entry ∈ entries, name entry ∉ before.map name) ∧
        ∀ entry ∈ entries, own entry = [] := by
  induction entries generalizing before with
  | nil => simp [inTurn]
  | cons entry rest ih =>
    rw [inTurn, List.append_eq_nil_iff, List.append_eq_nil_iff, repeated_eq_nil, ih]
    -- A later entry is apart from the earlier ones and from this one.
    have apart : (∀ later ∈ rest, name later ∉ (before ++ [entry]).map name) ↔
        (∀ later ∈ rest, name later ∉ before.map name) ∧ name entry ∉ rest.map name := by
      simp only [List.map_append, List.map_singleton, List.mem_append, List.mem_singleton, not_or,
        forall_and, List.mem_map, not_exists, not_and]
    rw [apart, List.map_cons, List.nodup_cons, List.forall_mem_cons, List.forall_mem_cons]
    constructor
    · rintro ⟨⟨fresh, sound⟩, ⟨nodup, earlier, new⟩, rest_sound⟩
      exact ⟨⟨⟨new, nodup⟩, fresh, earlier⟩, sound, rest_sound⟩
    · rintro ⟨⟨⟨new, nodup⟩, fresh, earlier⟩, sound, rest_sound⟩
      exact ⟨⟨fresh, sound⟩, ⟨nodup, earlier, new⟩, rest_sound⟩

theorem repeatedTables_eq_nil {document : Document} :
    document.repeatedTables = [] ↔ document.tableNames.Nodup := by
  have bare : repeated .table TableEntry.name =
      fun before entry => repeated .table TableEntry.name before entry ++ [] := by
    simp only [List.append_nil]
  rw [repeatedTables, bare, inTurn_repeated_eq_nil]
  simp [tableNames]

private theorem danglingKeys_eq_nil {document : Document} {table : TableEntry} :
    document.danglingKeys table = [] ↔
      ∀ key ∈ table.foreignKeys, key.target ∈ document.tableNames := by
  simp [danglingKeys, undeclared_eq_nil]

private theorem inTurn_dimensionFaults_eq_nil {document : Document}
    {entries : List DimensionEntry} :
    inTurn document.dimensionFaults [] entries = [] ↔
      (entries.map DimensionEntry.name).Nodup ∧
        ∀ entry ∈ entries, entry.table ∈ document.tableNames := by
  refine (inTurn_repeated_eq_nil .dimension DimensionEntry.name
    (fun entry => document.undeclared entry.table (.dimension entry.name)) [] entries).trans ?_
  simp [undeclared_eq_nil]

private theorem inTurn_measureFaults_eq_nil {document : Document} {entries : List MeasureEntry} :
    inTurn document.measureFaults [] entries = [] ↔
      (entries.map MeasureEntry.name).Nodup ∧
        ∀ entry ∈ entries, entry.table ∈ document.tableNames := by
  refine (inTurn_repeated_eq_nil .measure MeasureEntry.name
    (fun entry => document.undeclared entry.table (.measure entry.name)) [] entries).trans ?_
  simp [undeclared_eq_nil]

theorem violations_eq_nil {document : Document} :
    document.violations = [] ↔ document.WellFormed := by
  have metrics : document.star.metrics.flatMap document.metricFaults = [] ↔
      ∀ entry ∈ document.star.metrics, entry.table ∈ document.tableNames := by
    simp [metricFaults, undeclared_eq_nil]
  have keys : document.tables.flatMap document.danglingKeys = [] ↔
      ∀ table ∈ document.tables, ∀ key ∈ table.foreignKeys,
        key.target ∈ document.tableNames := by
    simp [danglingKeys_eq_nil]
  simp only [violations, starViolations, List.append_eq_nil_iff, repeatedTables_eq_nil, keys,
    undeclared_eq_nil, inTurn_dimensionFaults_eq_nil, metrics, inTurn_measureFaults_eq_nil]
  constructor
  · rintro ⟨⟨tables, targets⟩, fact, ⟨dimensions, dimensionTables⟩, metricTables, measures,
      measureTables⟩
    exact ⟨tables, dimensions, measures, targets, fact, dimensionTables, metricTables,
      measureTables⟩
  · intro formed
    exact ⟨⟨formed.tables, formed.targets⟩, formed.fact,
      ⟨formed.dimensions, formed.dimensionTables⟩, formed.metricTables, formed.measures,
      formed.measureTables⟩

end StarReport.Document
