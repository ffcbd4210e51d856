import Mathlib.Data.List.Nodup
import StarReport.Proofs.Warehouse.Database

/-!
Databases whose tables have different names. Attaching a table under a new name and declaring a
foreign key by name keep such a database coherent: every foreign key starts at the table that holds
it and ends at a table of the database.
-/

set_option autoImplicit false
set_option relaxedAutoImplicit false

namespace StarReport.Warehouse.Database

/-- The tables differ by name and belong to the database, and every foreign key leads from the table
that holds it to a table of the database. -/
structure Coherent (database : Database) : Prop where
  names : (database.tables.map Table.name).Nodup
  owner : ∀ table ∈ database.tables, table.key.database = some database.name
  source : ∀ table ∈ database.tables, ∀ edge ∈ table.foreignKeys, edge.source = table.key
  target : ∀ table ∈ database.tables, ∀ edge ∈ table.foreignKeys,
    ∃ key ∈ database.tables.map Table.key, edge.target = key

theorem coherent_empty (name : String) : (empty name).Coherent := by
  constructor <;> simp [empty]

namespace Coherent

variable {database : Database}

theorem eq_of_name (coherent : database.Coherent) {s t : Table} (held : s ∈ database.tables)
    (held' : t ∈ database.tables) (same : s.name = t.name) : s = t :=
  List.inj_on_of_nodup_map coherent.names held held' same

/-- Tables of a coherent database that differ by key differ by name. -/
theorem nodup_names (coherent : database.Coherent) {tables : List Table}
    (held : tables ⊆ database.tables) (keys : (tables.map Table.key).Nodup) :
    (tables.map Table.name).Nodup :=
  List.Nodup.map_on
    (fun _ left _ right same => coherent.eq_of_name (held left) (held right) same)
    (List.Nodup.of_map Table.key keys)

/-- In a coherent database a foreign key points at the table of its target's name. -/
theorem target_iff (coherent : database.Coherent) {table other : Table} {edge : ForeignKey}
    (held : table ∈ database.tables) (declared : edge ∈ table.foreignKeys)
    (held' : other ∈ database.tables) : edge.target = other.key ↔ edge.targetName = other.name := by
  constructor
  · exact fun same => congrArg TableKey.name same
  · intro same
    obtain ⟨key, member, target⟩ := coherent.target table held edge declared
    obtain ⟨aim, aim_held, rfl⟩ := List.mem_map.mp member
    have named : aim.name = other.name := (congrArg TableKey.name target).symm.trans same
    rw [target, coherent.eq_of_name aim_held held' named]

theorem addTable (coherent : database.Coherent) {name : String} (primaryKey : Option String)
    (fresh : name ∉ database.tables.map Table.name) :
    (database.addTable (.named name primaryKey)).2.Coherent := by
  rcases database.addTable_cases (.named name primaryKey) with ⟨held, member, same, _⟩ | ⟨_, step⟩
  · exact absurd (List.mem_map.mpr ⟨held, member, congrArg TableKey.name same⟩) fresh
  rw [step]
  constructor
  · rw [List.map_append, List.map_singleton, ← List.concat_eq_append]
    exact coherent.names.concat fresh
  · intro table member
    rcases List.mem_append.mp member with held | new
    · exact coherent.owner table held
    · rw [List.mem_singleton.mp new]
      rfl
  · intro table member edge declared
    rcases List.mem_append.mp member with held | new
    · exact coherent.source table held edge declared
    · rw [List.mem_singleton.mp new] at declared
      cases declared
  · intro table member edge declared
    rcases List.mem_append.mp member with held | new
    · obtain ⟨key, known, target⟩ := coherent.target table held edge declared
      exact ⟨key, by simp [List.mem_map.mp known], target⟩
    · rw [List.mem_singleton.mp new] at declared
      cases declared

theorem addForeignKey (coherent : database.Coherent) {source column target : String}
    {after : Database} (declared : database.addForeignKey source column target = (.ok (), after)) :
    after.Coherent := by
  have keys := keys_addForeignKey declared
  have names := names_addForeignKey declared
  obtain ⟨aim, found, _, rfl⟩ := addForeignKey_ok.mp declared
  obtain ⟨aim_held, _⟩ := mem_of_table? found
  -- The only foreign key that is new starts at a table of the database and ends at `aim`.
  have origin {table : Table} {edge : ForeignKey}
      (member : table ∈ modifyFirst source (·.addForeignKey column aim) database.tables)
      (declared : edge ∈ table.foreignKeys) :
      ∃ old ∈ database.tables, old.key = table.key ∧
        (edge ∈ old.foreignKeys ∨ edge = old.edgeTo column aim) := by
    rcases mem_modifyFirst member with held | ⟨old, held, _, rfl⟩
    · exact ⟨table, held, rfl, .inl declared⟩
    · exact ⟨old, held, rfl, Table.mem_addForeignKey.mp declared⟩
  refine ⟨names ▸ coherent.names, fun table member => ?_, fun table member edge declared => ?_,
    fun table member edge declared => ?_⟩
  · have known : table.key ∈ database.tables.map Table.key :=
      keys ▸ List.mem_map.mpr ⟨table, member, rfl⟩
    obtain ⟨old, held, same⟩ := List.mem_map.mp known
    exact same ▸ coherent.owner old held
  · obtain ⟨old, held, same, kept | rfl⟩ := origin member declared
    · exact (coherent.source old held edge kept).trans same
    · exact same
  · rw [keys]
    obtain ⟨old, held, _, kept | rfl⟩ := origin member declared
    · exact coherent.target old held edge kept
    · refine ⟨aim.key, List.mem_map.mpr ⟨aim, aim_held, rfl⟩, ?_⟩
      exact Table.target_edgeTo
        ((coherent.owner old held).trans (coherent.owner aim aim_held).symm) column

end Coherent

end StarReport.Warehouse.Database
