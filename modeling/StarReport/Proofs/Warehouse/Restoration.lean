import StarReport.Proofs.Warehouse.Attachment
import StarReport.Proofs.Warehouse.Declaration

/-!
Taking a table in and out again. A database takes a table where it holds none of that name and
primary key, and then taking out what it handed back leaves the database as it was and the table with
all that it declared. Where it holds one, nothing changes. So a database is what its own tables make
it when they are attached afresh.
-/

set_option autoImplicit false
set_option relaxedAutoImplicit false

namespace StarReport.Warehouse

/-- A table that belongs to the owner is not changed by being moved there. -/
theorem Table.OwnedBy.attach_eq {table : Table} {owner : Option String}
    (owned : table.OwnedBy owner) : table.attach owner = table := by
  have key : { table.key with database := owner } = table.key := by rw [← owned.database]
  have edges : table.foreignKeys.map ({ · with source := table.key }) = table.foreignKeys := by
    refine (List.map_congr_left fun edge declared => ?_).trans (List.map_id _)
    rw [← owned.source edge declared]
    rfl
  rw [Table.attach, key, edges]

namespace Database

variable {database : Database} {table : Table}

/-- The database has a table of that name and primary key. -/
def Holds (database : Database) (table : Table) : Prop :=
  ∃ held ∈ database.tables, held.name = table.name ∧ held.primaryKey = table.primaryKey

instance (database : Database) (table : Table) : Decidable (database.Holds table) :=
  inferInstanceAs (Decidable (∃ held ∈ database.tables, _ ∧ _))

/-- Where no table is like it, none has the key that it gets. -/
theorem fresh_of_not_holds (absent : ¬ database.Holds table) :
    (table.attach (some database.name)).key ∉ database.tables.map Table.key := by
  intro present
  obtain ⟨held, member, same⟩ := List.mem_map.mp present
  have name : held.name = table.name := by rw [Table.name, same]; rfl
  have primaryKey : held.primaryKey = table.primaryKey := by rw [Table.primaryKey, same]; rfl
  exact absent ⟨held, member, name, primaryKey⟩

namespace Attached

theorem key_eq_iff (attached : database.Attached) {held : Table} (member : held ∈ database.tables) :
    held.key = (table.attach (some database.name)).key ↔
      held.name = table.name ∧ held.primaryKey = table.primaryKey := by
  have owner := (attached.owned held member).database
  obtain ⟨⟨_, _, _⟩, _⟩ := held
  obtain rfl : _ = some database.name := owner
  simp [Table.name, Table.primaryKey]

theorem holds_iff (attached : database.Attached) : database.Holds table ↔
    (table.attach (some database.name)).key ∈ database.tables.map Table.key := by
  rw [List.mem_map]
  exact exists_congr fun held => and_congr_right fun member => (attached.key_eq_iff member).symm

/-- The only table of its key is what a further one of that key comes to. -/
theorem addTable_of_held (attached : database.Attached) {held : Table}
    (member : held ∈ database.tables)
    (same : held.key = (table.attach (some database.name)).key) :
    database.addTable table = (held, database) := by
  rcases database.addTable_cases table with ⟨found, member', same', step⟩ | ⟨fresh, _⟩
  · rw [step, List.inj_on_of_nodup_map attached.keys member' member (same'.trans same.symm)]
  · exact absurd (List.mem_map.mpr ⟨held, member, same⟩) fresh

theorem removeTable_of_held (attached : database.Attached) {held : Table}
    (member : held ∈ database.tables) :
    database.removeTable held.key =
      some (held.attach none, { database with tables := database.tables.filter (·.key ≠ held.key) }) := by
  refine removeTable_eq_some.mpr ⟨held, Distinct.find?_of_mem attached.keys member, rfl, ?_⟩
  rw [eraseP_key_eq_filter attached.keys]

/-- Tables that are attached already are taken as they are, one after the other. -/
theorem foldl_addTable_eq {name : String} {before rest : List Table}
    (attached : Attached ⟨name, before ++ rest⟩) :
    rest.foldl (fun (held : Database) table => (held.addTable table).2) ⟨name, before⟩ =
      ⟨name, before ++ rest⟩ := by
  induction rest generalizing before with
  | nil => rw [List.append_nil, List.foldl_nil]
  | cons table rest ih =>
    have owned : table.attach (some name) = table :=
      (attached.owned table (by simp)).attach_eq
    have fresh : (table.attach (some name)).key ∉ before.map Table.key := by
      rw [owned]
      intro present
      have keys := attached.keys
      rw [List.map_append, List.map_cons] at keys
      exact (List.nodup_append.mp keys).2.2 _ present _ List.mem_cons_self rfl
    rw [List.append_cons] at attached ⊢
    rw [List.foldl_cons, addTable_of_fresh fresh, owned]
    exact ih attached

end Attached

/-- A reachable database that holds no table of that name and primary key appends the table, and taking
out what it handed back restores the database, with the table and its declarations free again. One
that holds such a table hands it back and stays as it is, and a single removal then takes it out.
Replacing the tables is adding them in order to an empty database, which makes a reachable database of
its own tables. -/
theorem restored_of_reached {database : Database} (reached : database.Reached) :
    (∀ table : Table, ¬ database.Holds table → ∃ stored removed,
      database.addTable table =
        (stored, { database with tables := database.tables ++ [stored] }) ∧
      (database.addTable table).2.removeTable stored.key = some (removed, database) ∧
      removed.key = ⟨none, table.name, table.primaryKey⟩ ∧
      removed.declarations = table.declarations) ∧
    (∀ table : Table, database.Holds table → ∃ held ∈ database.tables, ∃ removed after,
      held.name = table.name ∧ held.primaryKey = table.primaryKey ∧
      database.addTable table = (held, database) ∧
      database.removeTable held.key = some (removed, after) ∧ ¬ after.Holds table) ∧
    (∀ (other : Database) (tables : List Table), other.setTables tables =
      tables.foldl (fun held table => (held.addTable table).2) (empty other.name)) ∧
    database.setTables database.tables = database := by
  have attached := reached.attached
  refine ⟨fun table absent => ?_, fun table present => ?_, fun _ _ => rfl,
    attached.foldl_addTable_eq⟩
  · rw [attached.holds_iff] at absent
    have step := addTable_of_fresh absent
    have removal := removeTable_addTable absent
    rw [step] at removal
    exact ⟨_, _, step, step ▸ removal, rfl, Table.declarations_attach table none⟩
  · obtain ⟨held, member, name, primaryKey⟩ := present
    have same := (attached.key_eq_iff member).mpr ⟨name, primaryKey⟩
    have removal := attached.removeTable_of_held member
    refine ⟨held, member, _, _, name, primaryKey, attached.addTable_of_held member same, removal, ?_⟩
    rw [(attached.removeTable removal).holds_iff]
    intro left
    obtain ⟨other, kept, again⟩ := List.mem_map.mp left
    simpa [again, same] using (List.mem_filter.mp kept).2

/-- Two tables of one name, with different primary keys. -/
private def homonyms : Database :=
  (((empty "StarDB").addTable (.named "DimStore" (some "id"))).2.addTable (.named "DimStore" none)).2

/-- A table of another database, with a foreign key that starts at an older identity of it. -/
private def lent : Table :=
  (((Table.named "DimStore" none).addForeignKey "ParentId" (.named "DimStore" none)).attach
    (some "Archive")).withPrimaryKey "code"

/-- A third table of the name is taken in and out again, while one of the first two comes to what is
there. -/
theorem restored_of_homonyms : homonyms.Reached ∧ ¬ homonyms.Holds lent ∧
    homonyms.Holds (.named "DimStore" none) ∧
    (∃ stored removed, (homonyms.addTable lent).2.tables = homonyms.tables ++ [stored] ∧
      (homonyms.addTable lent).2.removeTable stored.key = some (removed, homonyms) ∧
      removed.declarations = [⟨"ParentId", "DimStore", none⟩]) ∧
    (∃ held, homonyms.addTable (.named "DimStore" none) = (held, homonyms)) ∧
    homonyms.setTables homonyms.tables = homonyms := by
  have reached : homonyms.Reached := .addTable _ (.addTable _ (.empty "StarDB"))
  have absent : ¬ homonyms.Holds lent := by decide
  have present : homonyms.Holds (.named "DimStore" none) := by decide
  obtain ⟨taken, known, -, own⟩ := restored_of_reached reached
  obtain ⟨stored, removed, step, removal, -, declared⟩ := taken lent absent
  obtain ⟨held, -, _, _, -, -, again, -⟩ := known (.named "DimStore" none) present
  exact ⟨reached, absent, present, ⟨stored, removed, by rw [step], removal, declared⟩, ⟨held, again⟩,
    own⟩

end Database

end StarReport.Warehouse
