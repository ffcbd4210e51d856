import Mathlib.Logic.Function.Basic
import StarReport.Proofs.Schema.Described
import StarReport.Proofs.Star.Ownership
import StarReport.Proofs.Warehouse.Database

/-!
Building a document comes to a verdict: the first of its violations, or the schema it describes.
Each stage is followed entry by entry, with what is there after the first entries in closed form.
-/

set_option autoImplicit false
set_option relaxedAutoImplicit false

namespace StarReport.Document

open FirstFailure (inTurn inTurn_eq_flatMap foldlM_eq_verdict verdict verdict_bind verdict_bind_ok
  verdict_eq_error verdict_eq_ok)
open Schema (BuildError Referrer)
open StarReport.Star (Dimension Measure Metric StarId)
open Warehouse (Database ForeignKey Table TableKey)

/-! ### Attaching the tables -/

/-- The database with the tables of some entries, each with given foreign keys. -/
private def withKeys (document : Document) (entries : List TableEntry)
    (keys : TableEntry → List ForeignKey) : Database :=
  ⟨document.database, entries.map fun entry => ⟨document.tableKey entry, keys entry⟩⟩

private theorem table?_withKeys (document : Document) (entries : List TableEntry)
    (keys : TableEntry → List ForeignKey) (name : String) :
    (document.withKeys entries keys).table? name =
      (entries.find? (·.name = name)).map fun entry => ⟨document.tableKey entry, keys entry⟩ :=
  List.find?_map

private theorem addTable_withKeys (document : Document) (before : List TableEntry)
    (entry : TableEntry) :
    Schema.addTable (document.withKeys before fun _ => []) entry =
      verdict (repeated .table TableEntry.name before entry)
        (document.withKeys (before ++ [entry]) fun _ => []) := by
  have known : ((document.withKeys before fun _ => []).table? entry.name).isSome ↔
      entry.name ∈ before.map TableEntry.name := by
    rw [table?_withKeys]
    simp
  unfold Schema.addTable repeated
  by_cases present : entry.name ∈ before.map TableEntry.name
  · rw [if_pos (known.mpr present), if_pos present]
    rfl
  · rw [if_neg (mt known.mp present), if_neg present]
    rcases (document.withKeys before fun _ => []).addTable_cases
      (.named entry.name entry.primaryKey) with ⟨held, member, same, _⟩ | ⟨_, attached⟩
    · obtain ⟨earlier, listed, rfl⟩ := List.mem_map.mp member
      exact absurd (List.mem_map.mpr ⟨earlier, listed, congrArg TableKey.name same⟩) present
    · rw [attached]
      simp only [withKeys, List.map_append, List.map_singleton]
      rfl

private theorem foldlM_addTable (document : Document) :
    document.tables.foldlM Schema.addTable (.empty document.database) =
      verdict document.repeatedTables (document.withKeys document.tables fun _ => []) :=
  foldlM_eq_verdict (fun before => document.withKeys before fun _ => [])
    fun before entry _ _ => document.addTable_withKeys before entry

/-! ### Declaring the foreign keys -/

section ForeignKeys

variable {document : Document} (names : document.tableNames.Nodup)
include names

/-- Declaring one foreign key changes the keys of one entry. -/
private theorem addForeignKey_withKeys {entry : TableEntry} (declared : entry ∈ document.tables)
    (keys : TableEntry → List ForeignKey) (key : ForeignKeyEntry) :
    Schema.addForeignKey entry.name (document.withKeys document.tables keys) key =
      verdict (document.undeclared key.target .foreignKey)
        (document.withKeys document.tables (Function.update keys entry
          (Distinct.insert id (keys entry) (document.edge entry key)))) := by
  have source : ((document.withKeys document.tables keys).table? entry.name).isSome := by
    rw [table?_withKeys, Option.isSome_map, List.find?_isSome]
    exact ⟨entry, declared, by simp⟩
  cases found : document.declaration? key.target with
  | none =>
    have missing : (document.withKeys document.tables keys).table? key.target = none := by
      rw [table?_withKeys]
      exact congrArg _ found
    rw [undeclared, if_neg (declaration?_eq_none.mp found)]
    unfold Schema.addForeignKey Database.addForeignKey
    rw [missing]
    rfl
  | some target =>
    obtain ⟨listed, named⟩ := mem_of_declaration? found
    have present : key.target ∈ document.tableNames := List.mem_map.mpr ⟨target, listed, named⟩
    have aim : (document.withKeys document.tables keys).table? key.target =
        some ⟨document.tableKey target, keys target⟩ := by
      rw [table?_withKeys]
      exact congrArg _ found
    have added : (document.withKeys document.tables keys).addForeignKey entry.name key.column
        key.target = (.ok (), _) :=
      Database.addForeignKey_ok.mpr ⟨_, aim, source, rfl⟩
    have distinct : ((document.withKeys document.tables keys).tables.map Table.name).Nodup := by
      rw [withKeys, List.map_map]
      exact names
    rw [undeclared, if_pos present]
    unfold Schema.addForeignKey
    rw [added, Database.modifyFirst_eq_map distinct]
    simp only [withKeys, List.map_map]
    refine congrArg (fun tables =>
      (Except.ok ⟨document.database, tables⟩ : Except BuildError Database)) ?_
    apply List.map_congr_left
    intro other member
    by_cases same : other = entry
    · subst same
      have edge : document.edge other key = Table.edgeTo ⟨document.tableKey other, keys other⟩
          key.column ⟨document.tableKey target, keys target⟩ := by
        rw [Document.edge, found, ← named]
        rfl
      rw [Function.update_self, edge]
      exact if_pos rfl
    · have apart : other.name ≠ entry.name := fun alike =>
        same (List.inj_on_of_nodup_map names member declared alike)
      rw [Function.update_of_ne same]
      exact if_neg apart

private theorem addForeignKeys_withKeys {entry : TableEntry} (declared : entry ∈ document.tables)
    (keys : TableEntry → List ForeignKey) :
    Schema.addForeignKeys (document.withKeys document.tables keys) entry =
      verdict (document.danglingKeys entry)
        (document.withKeys document.tables (Function.update keys entry
          ((entry.foreignKeys.map (document.edge entry)).foldl (Distinct.insert id)
            (keys entry)))) := by
  let state (done : List ForeignKeyEntry) : Database :=
    document.withKeys document.tables (Function.update keys entry
      ((done.map (document.edge entry)).foldl (Distinct.insert id) (keys entry)))
  have step (before : List ForeignKeyEntry) (key : ForeignKeyEntry) :
      Schema.addForeignKey entry.name (state before) key =
        verdict (document.undeclared key.target .foreignKey) (state (before ++ [key])) := by
    rw [addForeignKey_withKeys names declared]
    simp only [state, Function.update_self, Function.update_idem, List.map_append,
      List.map_singleton, List.foldl_append, List.foldl_cons, List.foldl_nil]
  have start : state [] = document.withKeys document.tables keys := by
    simp only [state, List.map_nil, List.foldl_nil, Function.update_eq_self]
  unfold Schema.addForeignKeys danglingKeys
  rw [← inTurn_eq_flatMap _ [], ← start]
  exact foldlM_eq_verdict state fun before key _ _ => step before key

private theorem foldlM_addForeignKeys :
    document.tables.foldlM Schema.addForeignKeys (document.withKeys document.tables fun _ => []) =
      verdict (document.tables.flatMap document.danglingKeys) document.described := by
  -- The entries that have had their turn carry their foreign keys, the others none.
  let state (before : List TableEntry) : Database :=
    document.withKeys document.tables fun entry =>
      if entry ∈ before then (document.table entry).foreignKeys else []
  have entries : document.tables.Nodup := List.Nodup.of_map TableEntry.name names
  have step (before : List TableEntry) (entry : TableEntry) (rest : List TableEntry)
      (split : document.tables = before ++ entry :: rest) :
      Schema.addForeignKeys (state before) entry =
        verdict (document.danglingKeys entry) (state (before ++ [entry])) := by
    have declared : entry ∈ document.tables := by simp [split]
    have fresh : entry ∉ before := by
      rw [split] at entries
      intro member
      exact (List.nodup_append.mp entries).2.2 entry member entry (by simp) rfl
    rw [addForeignKeys_withKeys names declared]
    refine congrArg (fun keys => verdict _ (document.withKeys document.tables keys)) ?_
    funext other
    by_cases same : other = entry
    · subst same
      rw [Function.update_self, if_neg fresh, if_pos (by simp)]
      rfl
    · rw [Function.update_of_ne same]
      simp [same]
  have start : state [] = document.withKeys document.tables fun _ => [] := by
    simp only [state, List.not_mem_nil, if_false]
  have finish : state document.tables = document.described := by
    refine congrArg (Database.mk document.database) (List.map_congr_left ?_)
    intro entry member
    exact congrArg (Table.mk (document.tableKey entry)) (if_pos member)
  rw [← inTurn_eq_flatMap _ [], ← start, ← finish]
  exact foldlM_eq_verdict state step

end ForeignKeys

theorem buildDatabase_eq (document : Document) :
    Schema.buildDatabase document =
      verdict (document.repeatedTables ++ document.tables.flatMap document.danglingKeys)
        document.described := by
  unfold Schema.buildDatabase
  rw [foldlM_addTable]
  refine verdict_bind fun sound => ?_
  exact foldlM_addForeignKeys (repeatedTables_eq_nil.mp sound)

/-! ### Putting the star together -/

theorem lookup_described (document : Document) (name : String) (referrer : Referrer) :
    Schema.lookup document.described name referrer =
      verdict (document.undeclared name referrer) (document.tableNamed name) := by
  unfold Schema.lookup undeclared tableNamed
  rw [table?_described]
  cases found : document.declaration? name with
  | none =>
    rw [if_neg (declaration?_eq_none.mp found)]
    rfl
  | some entry =>
    have declared : name ∈ document.tableNames := by
      obtain ⟨member, named⟩ := mem_of_declaration? found
      exact List.mem_map.mpr ⟨entry, member, named⟩
    rw [if_pos declared]
    rfl

private theorem foldlM_addDimension (document : Document) (id : StarId) (fact : Table)
    (entries : List DimensionEntry) :
    entries.foldlM (Schema.addDimension document.described) (Star.ofFact id fact) =
      verdict (inTurn document.dimensionFaults [] entries)
        ⟨id, fact, entries.map (document.dimension id), [], []⟩ := by
  refine foldlM_eq_verdict (fun before =>
    (⟨id, fact, before.map (document.dimension id), [], []⟩ : Star)) ?_
  intro before entry _ _
  have known : (Star.dimension? ⟨id, fact, before.map (document.dimension id), [], []⟩
      entry.name).isSome ↔ entry.name ∈ before.map DimensionEntry.name := by
    rw [Star.dimension?_isSome, List.map_map]
    rfl
  unfold Schema.addDimension dimensionFaults repeated
  by_cases present : entry.name ∈ before.map DimensionEntry.name
  · rw [if_pos (known.mpr present), if_pos present]
    rfl
  · have fresh : (document.dimension id entry).identity ∉
        (before.map (document.dimension id)).map Dimension.identity := by
      intro member
      simp only [List.map_map, List.mem_map] at member
      obtain ⟨earlier, listed, same⟩ := member
      exact present (List.mem_map.mpr ⟨earlier, listed, congrArg Dimension.Identity.name same⟩)
    have added := Distinct.insert_of_not_mem fresh
    rw [if_neg (mt known.mp present), if_neg present, lookup_described]
    rw [List.nil_append]
    refine verdict_bind_ok fun _ => ?_
    rw [List.map_append, List.map_singleton, ← added]
    rfl

private theorem foldlM_addMetric (document : Document) (id : StarId) (fact : Table)
    (dimensions : List Dimension) (entries : List MetricEntry) :
    entries.foldlM (Schema.addMetric document.described) ⟨id, fact, dimensions, [], []⟩ =
      verdict (entries.flatMap document.metricFaults)
        ⟨id, fact, dimensions,
          Distinct.ofList Metric.identity (entries.map (document.metric id)), []⟩ := by
  rw [← inTurn_eq_flatMap _ []]
  refine foldlM_eq_verdict (fun before => (⟨id, fact, dimensions,
    Distinct.ofList Metric.identity (before.map (document.metric id)), []⟩ : Star)) ?_
  intro before entry _ _
  unfold Schema.addMetric metricFaults
  rw [lookup_described]
  refine verdict_bind_ok fun _ => ?_
  rw [List.map_append, List.map_singleton, Distinct.ofList_append_singleton]
  rfl

private theorem foldlM_addMeasure (document : Document) (id : StarId) (fact : Table)
    (dimensions : List Dimension) (metrics : List Metric) (entries : List MeasureEntry) :
    entries.foldlM (Schema.addMeasure document.described) ⟨id, fact, dimensions, metrics, []⟩ =
      verdict (inTurn document.measureFaults [] entries)
        ⟨id, fact, dimensions, metrics, entries.map (document.measure id)⟩ := by
  refine foldlM_eq_verdict (fun before =>
    (⟨id, fact, dimensions, metrics, before.map (document.measure id)⟩ : Star)) ?_
  intro before entry _ _
  have known : (Star.measure? ⟨id, fact, dimensions, metrics, before.map (document.measure id)⟩
      entry.name).isSome ↔ entry.name ∈ before.map MeasureEntry.name := by
    rw [Star.measure?_isSome, List.map_map]
    rfl
  unfold Schema.addMeasure measureFaults repeated
  by_cases present : entry.name ∈ before.map MeasureEntry.name
  · rw [if_pos (known.mpr present), if_pos present]
    rfl
  · have fresh : (document.measure id entry).identity ∉
        (before.map (document.measure id)).map Measure.identity := by
      intro member
      simp only [List.map_map, List.mem_map] at member
      obtain ⟨earlier, listed, same⟩ := member
      exact present (List.mem_map.mpr ⟨earlier, listed, congrArg Measure.Identity.name same⟩)
    have added := Distinct.insert_of_not_mem fresh
    rw [if_neg (mt known.mp present), if_neg present, lookup_described]
    rw [List.nil_append]
    refine verdict_bind_ok fun _ => ?_
    rw [List.map_append, List.map_singleton, ← added]
    rfl

theorem buildStar_eq (document : Document) (id : StarId) :
    Schema.buildStar id document.described document.star =
      verdict document.starViolations (document.schema id).star := by
  unfold Schema.buildStar starViolations
  rw [lookup_described]
  refine verdict_bind fun _ => ?_
  rw [foldlM_addDimension]
  refine verdict_bind fun _ => ?_
  rw [foldlM_addMetric]
  refine verdict_bind fun _ => ?_
  rw [foldlM_addMeasure]
  rfl

/-- Building a document comes to its first violation or to the schema it describes. -/
theorem build_eq (document : Document) (id : StarId) :
    Schema.build id document = verdict document.violations (document.schema id) := by
  unfold Schema.build violations
  rw [buildDatabase_eq]
  refine verdict_bind fun _ => ?_
  rw [buildStar_eq]
  refine verdict_bind_ok fun _ => ?_
  rfl

theorem build_eq_ok {document : Document} {id : StarId} {schema : Schema} :
    Schema.build id document = .ok schema ↔ document.WellFormed ∧ schema = document.schema id := by
  rw [build_eq, verdict_eq_ok, violations_eq_nil, eq_comm]

/-- Exactly the well-formed documents are built, and any other is refused for the first of its
violations, whose wording names the place that refers to an unknown table. -/
theorem build_refuses_first_violation (document : Document) (id : StarId) :
    ((∃ schema, Schema.build id document = .ok schema) ↔ document.WellFormed) ∧
    (∀ cause, Schema.build id document = .error cause ↔
      document.violations.head? = some cause) ∧
    ∀ name, [Referrer.foreignKey, .fact, .dimension name, .metric, .measure name].map
        Referrer.text =
      ["a foreign key", "star fact", "dimension '" ++ name ++ "'", "a metric",
        "measure '" ++ name ++ "'"] := by
  refine ⟨?_, ?_, fun name => rfl⟩
  · constructor
    · rintro ⟨schema, built⟩
      exact (build_eq_ok.mp built).1
    · intro formed
      exact ⟨_, build_eq_ok.mpr ⟨formed, rfl⟩⟩
  · intro cause
    rw [build_eq, verdict_eq_error]

end StarReport.Document
