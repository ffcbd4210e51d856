import StarReport.Proofs.FirstFailure
import StarReport.Proofs.Star.Ownership
import StarReport.Proofs.Warehouse.Coherence
import StarReport.Schema.Build

/-!
What every accepted document yields: a coherent database, and a star that the operations on stars
reach and whose tables are all tables of that database.
-/

set_option autoImplicit false
set_option relaxedAutoImplicit false

namespace StarReport.Schema

open Document
open FirstFailure (bind_ok mapError_ok foldlM_keeps)
open StarReport.Star (Dimension Measure Metric StarId)
open Warehouse (Database Table)

theorem lookup_ok {database : Database} {name : String} {referrer : Referrer} {table : Table}
    (found : lookup database name referrer = .ok table) :
    table ∈ database.tables ∧ table.name = name := by
  unfold lookup at found
  split at found
  · rename_i held hit
    exact Except.ok.inj found ▸ Database.mem_of_table? hit
  · cases found

/-! ### The database -/

private theorem addTable_keeps (database : Database) (entry : TableEntry) (after : Database)
    (coherent : database.Coherent) (added : addTable database entry = .ok after) :
    after.Coherent := by
  unfold addTable at added
  split at added
  · cases added
  · rename_i unheld
    have fresh : entry.name ∉ database.tables.map Table.name := by
      simpa [Database.table?] using unheld
    exact Except.ok.inj added ▸ coherent.addTable entry.primaryKey fresh

private theorem addForeignKey_keeps (source : String) (database : Database)
    (entry : ForeignKeyEntry) (after : Database) (coherent : database.Coherent)
    (declared : addForeignKey source database entry = .ok after) : after.Coherent :=
  coherent.addForeignKey (Refusable.proceed_ok.mp (mapError_ok.mp declared))

private theorem addForeignKeys_keeps (database : Database) (entry : TableEntry) (after : Database)
    (coherent : database.Coherent) (declared : addForeignKeys database entry = .ok after) :
    after.Coherent := by
  unfold addForeignKeys at declared
  exact foldlM_keeps (addForeignKey_keeps entry.name) coherent declared

theorem buildDatabase_coherent {document : Document} {database : Database}
    (built : buildDatabase document = .ok database) : database.Coherent := by
  obtain ⟨attached, tables, keys⟩ := bind_ok.mp built
  have start := foldlM_keeps addTable_keeps (Database.coherent_empty document.database) tables
  exact foldlM_keeps addForeignKeys_keeps start keys

/-! ### The star -/

/-- A star put together over a database: its tables are tables of the database. -/
structure Over (database : Database) (star : Star) : Prop where
  reached : star.Reached
  fact : star.fact ∈ database.tables
  dimensions : ∀ dimension ∈ star.dimensions, dimension.table ∈ database.tables
  measures : ∀ measure ∈ star.measures, measure.metric.table ∈ database.tables

private theorem addDimension_keeps {database : Database} (star : Star) (entry : DimensionEntry)
    (after : Star) (within : Over database star)
    (added : addDimension database star entry = .ok after) : Over database after := by
  unfold addDimension at added
  split at added
  · cases added
  obtain ⟨table, found, result⟩ := bind_ok.mp added
  obtain rfl := Except.ok.inj result
  refine ⟨.add (.dimension _) within.reached, within.fact, fun dimension member => ?_, within.measures⟩
  rcases Distinct.mem_of_mem_insert member with held | rfl
  · exact within.dimensions dimension held
  · exact (lookup_ok found).1

private theorem addMetric_keeps {database : Database} (star : Star) (entry : MetricEntry)
    (after : Star) (within : Over database star)
    (added : addMetric database star entry = .ok after) : Over database after := by
  obtain ⟨table, found, result⟩ := bind_ok.mp added
  obtain rfl := Except.ok.inj result
  exact ⟨.add (.metric _) within.reached, within.fact, within.dimensions, within.measures⟩

private theorem addMeasure_keeps {database : Database} (star : Star) (entry : MeasureEntry)
    (after : Star) (within : Over database star)
    (added : addMeasure database star entry = .ok after) : Over database after := by
  unfold addMeasure at added
  split at added
  · cases added
  obtain ⟨table, found, result⟩ := bind_ok.mp added
  obtain rfl := Except.ok.inj result
  refine ⟨.add (.measure _) within.reached, within.fact, within.dimensions, fun measure member => ?_⟩
  rcases Distinct.mem_of_mem_insert member with held | rfl
  · exact within.measures measure held
  · exact (lookup_ok found).1

theorem buildStar_over {id : StarId} {database : Database} {entry : StarEntry} {star : Star}
    (built : buildStar id database entry = .ok star) : Over database star := by
  obtain ⟨fact, found, built⟩ := bind_ok.mp built
  obtain ⟨withDimensions, dimensions, built⟩ := bind_ok.mp built
  obtain ⟨withMetrics, metrics, measures⟩ := bind_ok.mp built
  have start : Over database (Star.ofFact id fact) :=
    ⟨.ofFact id fact, (lookup_ok found).1, by simp [Star.ofFact], by simp [Star.ofFact]⟩
  exact foldlM_keeps addMeasure_keeps
    (foldlM_keeps addMetric_keeps (foldlM_keeps addDimension_keeps start dimensions) metrics)
    measures

theorem coherent_of_build {id : StarId} {document : Document} {schema : Schema}
    (built : build id document = .ok schema) :
    schema.database.Coherent ∧ Over schema.database schema.star := by
  obtain ⟨database, tables, built⟩ := bind_ok.mp built
  obtain ⟨star, members, result⟩ := bind_ok.mp built
  obtain rfl := Except.ok.inj result
  exact ⟨buildDatabase_coherent tables, buildStar_over members⟩

end StarReport.Schema
