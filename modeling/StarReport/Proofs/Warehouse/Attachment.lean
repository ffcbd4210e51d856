import Mathlib.Data.List.Nodup
import StarReport.Proofs.Warehouse.Database

/-!
Attachment. A database renews the owner and the foreign keys of every table that it takes, and it
compares keys only after that. So whatever tables it is given, those that it holds differ by key and
belong to it, with all their foreign keys, and a table that is taken out belongs to no database.
-/

set_option autoImplicit false
set_option relaxedAutoImplicit false

namespace StarReport.Warehouse

/-- The table belongs to the owner, and so do its foreign keys: each starts at the table and ends at
a table of the same owner. -/
structure Table.OwnedBy (table : Table) (owner : Option String) : Prop where
  database : table.key.database = owner
  source : ∀ edge ∈ table.foreignKeys, edge.source = table.key
  target : ∀ edge ∈ table.foreignKeys, edge.target.database = owner

namespace Table.OwnedBy

/-- A foreign key has its target where it has its source. -/
theorem of_source {table : Table} {owner : Option String} (database : table.key.database = owner)
    (source : ∀ edge ∈ table.foreignKeys, edge.source = table.key) : table.OwnedBy owner := by
  refine ⟨database, source, fun edge declared => ?_⟩
  change edge.source.database = owner
  rw [source edge declared, database]

theorem attach (table : Table) (owner : Option String) : (table.attach owner).OwnedBy owner := by
  refine of_source rfl fun edge declared => ?_
  obtain ⟨old, _, rfl⟩ := List.mem_map.mp declared
  rfl

theorem addForeignKey {table : Table} {owner : Option String} (owned : table.OwnedBy owner)
    (column : String) (target : Table) : (table.addForeignKey column target).OwnedBy owner := by
  refine of_source owned.database fun edge declared => ?_
  rcases mem_addForeignKey.mp declared with held | rfl
  · exact owned.source edge held
  · rfl

end Table.OwnedBy

namespace Database

/-- The databases that come out of the operations on databases, in any order and number and with any
tables. A database is a value, so one that is edited in two ways stands for its clones. -/
inductive Reached : Database → Prop
  | empty (name : String) : Reached (empty name)
  | addTable {database : Database} (table : Table) :
      Reached database → Reached (database.addTable table).2
  | setTables {database : Database} (tables : List Table) :
      Reached database → Reached (database.setTables tables)
  | removeTable {database after : Database} {table removed : Table} : Reached database →
      database.removeTable table.key = some (removed, after) → Reached after
  | addForeignKey {database after : Database} {source column target : String} :
      Reached database → database.addForeignKey source column target = (.ok (), after) → Reached after

/-- The tables differ by key and belong to the database with all their foreign keys. -/
structure Attached (database : Database) : Prop where
  keys : (database.tables.map Table.key).Nodup
  owned : ∀ table ∈ database.tables, table.OwnedBy (some database.name)

/-! ### Taking a table out -/

/-- Among tables with different keys the first of a key is the only one. -/
theorem eraseP_key_eq_filter {tables : List Table} (keys : (tables.map Table.key).Nodup)
    (key : TableKey) : tables.eraseP (·.key = key) = tables.filter (·.key ≠ key) := by
  induction tables with
  | nil => rfl
  | cons table rest ih =>
    rw [List.map_cons, List.nodup_cons] at keys
    by_cases same : table.key = key
    · have others : ∀ other ∈ rest, decide (other.key ≠ key) = true := by
        intro other member
        rw [decide_eq_true_eq]
        exact fun again => keys.1 (List.mem_map.mpr ⟨other, member, again.trans same.symm⟩)
      rw [List.eraseP_cons_of_pos (by simpa using same),
        List.filter_cons_of_neg (by simpa using same), List.filter_eq_self.mpr others]
    · rw [List.eraseP_cons_of_neg (by simpa using same),
        List.filter_cons_of_pos (by simpa using same), ih keys.2]

/-! ### What every operation keeps -/

theorem attached_empty (name : String) : (empty name).Attached := by
  constructor <;> simp [empty]

namespace Attached

variable {database after : Database}

theorem addTable (attached : database.Attached) (table : Table) :
    (database.addTable table).2.Attached := by
  rcases database.addTable_cases table with ⟨_, _, _, step⟩ | ⟨fresh, step⟩
  · rw [step]
    exact attached
  · rw [step]
    constructor
    · rw [List.map_append, List.map_singleton, ← List.concat_eq_append]
      exact attached.keys.concat fresh
    · intro held member
      rcases List.mem_append.mp member with old | new
      · exact attached.owned held old
      · rw [List.mem_singleton.mp new]
        exact .attach table (some database.name)

theorem foldl_addTable (attached : database.Attached) (tables : List Table) :
    (tables.foldl (fun held table => (held.addTable table).2) database).Attached := by
  induction tables generalizing database with
  | nil => exact attached
  | cons table tables ih => exact ih (attached.addTable table)

theorem removeTable (attached : database.Attached) {key : TableKey} {removed : Table}
    (detached : database.removeTable key = some (removed, after)) : after.Attached := by
  obtain ⟨held, _, _, rfl⟩ := removeTable_eq_some.mp detached
  have kept : (database.tables.eraseP (·.key = key)).Sublist database.tables := List.eraseP_sublist
  exact ⟨(kept.map Table.key).nodup attached.keys,
    fun table member => attached.owned table (kept.subset member)⟩

theorem addForeignKey (attached : database.Attached) {source column target : String}
    (declared : database.addForeignKey source column target = (.ok (), after)) : after.Attached := by
  have keys := keys_addForeignKey declared
  obtain ⟨aim, _, _, rfl⟩ := addForeignKey_ok.mp declared
  refine ⟨keys ▸ attached.keys, fun table member => ?_⟩
  rcases mem_modifyFirst member with held | ⟨old, held, _, rfl⟩
  · exact attached.owned table held
  · exact (attached.owned old held).addForeignKey column aim

end Attached

theorem Reached.attached {database : Database} (reached : database.Reached) :
    database.Attached := by
  induction reached with
  | empty name => exact attached_empty name
  | addTable table _ attached => exact attached.addTable table
  | @setTables database tables _ _ => exact (attached_empty database.name).foldl_addTable tables
  | removeTable _ detached attached => exact attached.removeTable detached
  | addForeignKey _ declared attached => exact attached.addForeignKey declared

/-- Whatever was done to a database, and with whatever tables, its tables differ by key and belong to
it with all their foreign keys. A table that it does not hold cannot be taken out; after one is taken
out no table of its key is left, the others are as they were, and the table and its foreign keys
belong to no database. -/
theorem attached_of_reached {database : Database} (reached : database.Reached) :
    database.Attached ∧ ∀ table : Table,
      (database.removeTable table.key = none ↔ table.key ∉ database.tables.map Table.key) ∧
      ∀ removed after, database.removeTable table.key = some (removed, after) →
        after.name = database.name ∧
        table.key ∉ after.tables.map Table.key ∧
        after.tables = database.tables.filter (·.key ≠ table.key) ∧
        (∃ held ∈ database.tables, held.key = table.key ∧ removed = held.attach none) ∧
        removed.OwnedBy none := by
  have attached := reached.attached
  refine ⟨attached, fun table => ⟨removeTable_eq_none, fun removed after detached => ?_⟩⟩
  obtain ⟨held, found, rfl, rfl⟩ := removeTable_eq_some.mp detached
  obtain ⟨member, same⟩ := mem_of_find? found
  have rest := eraseP_key_eq_filter attached.keys table.key
  refine ⟨rfl, ?_, rest, ⟨held, member, same, rfl⟩, .attach held none⟩
  rw [rest]
  intro present
  obtain ⟨other, kept, again⟩ := List.mem_map.mp present
  simpa [again] using (List.mem_filter.mp kept).2

/-- A table of another database that got a primary key after its foreign key was declared: the foreign
key still starts at a table without one. -/
private def archived : Table :=
  (((Table.named "FactSales" none).addForeignKey "StoreId" (.named "DimStore" (some "id"))).attach
    (some "Archive")).withPrimaryKey "id"

private def stocked : Database :=
  ((empty "StarDB").setTables [archived, .named "DimStore" (some "id"), archived])

/-- The table is taken once, its foreign key is renewed, and both are free after it is taken out. -/
theorem attached_of_stocked : stocked.Reached ∧ stocked.Attached ∧
    (stocked.tables.map Table.name) = ["FactSales", "DimStore"] ∧
    ∃ removed after, stocked.removeTable (archived.attach (some "StarDB")).key =
        some (removed, after) ∧
      after.tables.map Table.name = ["DimStore"] ∧ removed.foreignKeys ≠ [] ∧
      removed.OwnedBy none := by
  have reached : stocked.Reached :=
    .setTables [archived, .named "DimStore" (some "id"), archived] (.empty "StarDB")
  obtain ⟨attached, removal⟩ := attached_of_reached reached
  have detached : stocked.removeTable (archived.attach (some "StarDB")).key =
      some (archived.attach none, ⟨"StarDB", [(Table.named "DimStore" (some "id")).attach
        (some "StarDB")]⟩) := by decide
  have free := ((removal (archived.attach (some "StarDB"))).2 _ _ detached).2.2.2.2
  exact ⟨reached, attached, by decide, _, _, detached, by decide, by decide, free⟩

end Database

end StarReport.Warehouse
