import StarReport.Proofs.FirstOccurrences
import StarReport.Warehouse.Database

/-!
What each edit of a database can do. Attaching a table appends it or finds the one held under its
key, detaching takes one table out, and declaring a foreign key by name changes one table in place.
-/

set_option autoImplicit false
set_option relaxedAutoImplicit false

namespace StarReport.Warehouse

theorem Table.mem_addForeignKey {table target : Table} {column : String} {edge : ForeignKey} :
    edge ∈ (table.addForeignKey column target).foreignKeys ↔
      edge ∈ table.foreignKeys ∨ edge = table.edgeTo column target := by
  have inserted := @Distinct.mem_map_insert _ _ _ id table.foreignKeys
    (table.edgeTo column target) edge
  rw [List.map_id, List.map_id] at inserted
  exact inserted

theorem Table.name_addForeignKey (column : String) (target table : Table) :
    (table.addForeignKey column target).name = table.name := rfl

/-- Between tables of one owner a declaration points at the target. -/
theorem Table.target_edgeTo {table target : Table} (same : table.key.database = target.key.database)
    (column : String) : (table.edgeTo column target).target = target.key := by
  change (⟨table.key.database, target.key.name, target.key.primaryKey⟩ : TableKey) = target.key
  rw [same]

/-- Of the target of a declaration only the name and the primary key are looked at. -/
theorem Table.addForeignKey_congr {aim aim' : Table} (name : aim.name = aim'.name)
    (primaryKey : aim.primaryKey = aim'.primaryKey) (table : Table) (column : String) :
    table.addForeignKey column aim = table.addForeignKey column aim' := by
  simp only [addForeignKey, edgeTo, name, primaryKey]

@[simp] theorem Table.attach_attach (table : Table) (database database' : Option String) :
    (table.attach database).attach database' = table.attach database' := by
  simp only [attach, List.map_map]
  rfl

namespace Database

variable {database : Database}

theorem mem_of_table? {name : String} {table : Table} (found : database.table? name = some table) :
    table ∈ database.tables ∧ table.name = name :=
  ⟨List.mem_of_find?_eq_some found, by simpa using List.find?_some found⟩

theorem mem_of_find? {key : TableKey} {table : Table} (found : database.find? key = some table) :
    table ∈ database.tables ∧ table.key = key :=
  ⟨List.mem_of_find?_eq_some found, by simpa using List.find?_some found⟩

theorem addTable_cases (database : Database) (table : Table) :
    (∃ held ∈ database.tables, held.key = (table.attach (some database.name)).key ∧
      database.addTable table = (held, database)) ∨
    ((table.attach (some database.name)).key ∉ database.tables.map Table.key ∧
      database.addTable table = (table.attach (some database.name),
        { database with tables := database.tables ++ [table.attach (some database.name)] })) := by
  unfold addTable
  cases found : database.find? (table.attach (some database.name)).key with
  | some held =>
    have ⟨member, same⟩ := mem_of_find? found
    exact .inl ⟨held, member, same, by simp only [found]⟩
  | none =>
    refine .inr ⟨fun present => ?_, by simp only [found]⟩
    obtain ⟨held, member, same⟩ := List.mem_map.mp present
    simpa [same] using List.find?_eq_none.mp found held member

theorem addTable_of_fresh {table : Table}
    (fresh : (table.attach (some database.name)).key ∉ database.tables.map Table.key) :
    database.addTable table = (table.attach (some database.name),
      { database with tables := database.tables ++ [table.attach (some database.name)] }) := by
  rcases database.addTable_cases table with ⟨held, member, same, _⟩ | ⟨_, step⟩
  · exact absurd (List.mem_map.mpr ⟨held, member, same⟩) fresh
  · exact step

theorem removeTable_eq_none {key : TableKey} :
    database.removeTable key = none ↔ key ∉ database.tables.map Table.key := by
  rw [removeTable, Option.map_eq_none_iff, find?, List.find?_eq_none]
  simp

/-- Detaching takes the first table of the key and clears its owner. -/
theorem removeTable_eq_some {key : TableKey} {removed : Table} {after : Database} :
    database.removeTable key = some (removed, after) ↔
      ∃ held, database.find? key = some held ∧ removed = held.attach none ∧
        after = { database with tables := database.tables.eraseP (·.key = key) } := by
  rw [removeTable, Option.map_eq_some_iff]
  refine exists_congr fun held => and_congr Iff.rfl ?_
  rw [Prod.mk.injEq, eq_comm, @eq_comm _ _ after]

/-- Taking out the last table, if no other has its key. -/
theorem removeTable_append_singleton {table : Table} {tables : List Table} {name : String}
    (fresh : table.key ∉ tables.map Table.key) :
    removeTable ⟨name, tables ++ [table]⟩ table.key = some (table.attach none, ⟨name, tables⟩) := by
  have others : ∀ held ∈ tables, ¬ decide (held.key = table.key) = true := by
    intro held member
    rw [decide_eq_true_eq]
    exact fun same => fresh (List.mem_map.mpr ⟨held, member, same⟩)
  refine removeTable_eq_some.mpr ⟨table, ?_, rfl, ?_⟩
  · rw [find?, List.find?_append, List.find?_eq_none.mpr others]
    simp
  · rw [List.eraseP_append_right _ others]
    simp

theorem removeTable_addTable {table : Table}
    (fresh : (table.attach (some database.name)).key ∉ database.tables.map Table.key) :
    (database.addTable table).2.removeTable (database.addTable table).1.key =
      some (table.attach none, database) := by
  rw [addTable_of_fresh fresh, removeTable_append_singleton fresh, Table.attach_attach]

theorem addForeignKey_ok {source column target : String} {after : Database} :
    database.addForeignKey source column target = (.ok (), after) ↔
      ∃ targetTable, database.table? target = some targetTable ∧
        (database.table? source).isSome ∧
        after = { database with
          tables := modifyFirst source (·.addForeignKey column targetTable) database.tables } := by
  unfold addForeignKey
  cases database.table? target with
  | none => simp
  | some targetTable =>
    cases database.table? source with
    | none => simp
    | some sourceTable => simp [eq_comm]

/-! ### Changing the first table of a name -/

theorem map_modifyFirst {β : Type} (observe : Table → β) (change : Table → Table)
    (keeps : ∀ table, observe (change table) = observe table) (name : String)
    (tables : List Table) : (modifyFirst name change tables).map observe = tables.map observe := by
  induction tables with
  | nil => rfl
  | cons table rest ih =>
    unfold modifyFirst
    split
    · simp only [List.map_cons, keeps]
    · simp only [List.map_cons, ih]

theorem keys_addForeignKey {source column target : String} {after : Database}
    (declared : database.addForeignKey source column target = (.ok (), after)) :
    after.tables.map Table.key = database.tables.map Table.key := by
  obtain ⟨aim, _, _, rfl⟩ := addForeignKey_ok.mp declared
  exact map_modifyFirst Table.key (·.addForeignKey column aim) (fun _ => rfl) source database.tables

theorem names_addForeignKey {source column target : String} {after : Database}
    (declared : database.addForeignKey source column target = (.ok (), after)) :
    after.tables.map Table.name = database.tables.map Table.name := by
  have keys := congrArg (List.map TableKey.name) (keys_addForeignKey declared)
  rwa [List.map_map, List.map_map] at keys

/-- Among tables of different names the first of a name is the only one. -/
theorem modifyFirst_eq_map {tables : List Table} (names : (tables.map Table.name).Nodup)
    (name : String) (change : Table → Table) : modifyFirst name change tables =
      tables.map fun table => if table.name = name then change table else table := by
  induction tables with
  | nil => rfl
  | cons table rest ih =>
    rw [List.map_cons, List.nodup_cons] at names
    unfold modifyFirst
    rw [List.map_cons]
    by_cases named : table.name = name
    · have others : ∀ other ∈ rest, other.name ≠ name := by
        intro other member same
        exact names.1 (List.mem_map.mpr ⟨other, member, same.trans named.symm⟩)
      rw [if_pos named, if_pos named]
      have unchanged : (rest.map fun table => if table.name = name then change table else table) =
          rest := by
        rw [List.map_congr_left fun other member => if_neg (others other member)]
        exact List.map_id' rest
      rw [unchanged]
    · rw [if_neg named, if_neg named, ih names.2]

theorem mem_modifyFirst {name : String} {change : Table → Table} {tables : List Table}
    {table : Table} (member : table ∈ modifyFirst name change tables) :
    table ∈ tables ∨ ∃ old ∈ tables, old.name = name ∧ table = change old := by
  induction tables with
  | nil => simp [modifyFirst] at member
  | cons first rest ih =>
    unfold modifyFirst at member
    split at member
    · rename_i named
      rcases List.mem_cons.mp member with rfl | member
      · exact .inr ⟨first, by simp, named, rfl⟩
      · exact .inl (List.mem_cons_of_mem first member)
    · rcases List.mem_cons.mp member with rfl | member
      · exact .inl (by simp)
      · rcases ih member with held | ⟨old, held, changed⟩
        · exact .inl (List.mem_cons_of_mem first held)
        · exact .inr ⟨old, List.mem_cons_of_mem first held, changed⟩

theorem modifyFirst_append {before rest : List Table} {table : Table} {name : String}
    (others : ∀ other ∈ before, other.name ≠ name) (named : table.name = name)
    (change : Table → Table) :
    modifyFirst name change (before ++ table :: rest) = before ++ change table :: rest := by
  induction before with
  | nil => rw [List.nil_append, modifyFirst, if_pos named, List.nil_append]
  | cons first before ih =>
    rw [List.cons_append, modifyFirst, if_neg (others first List.mem_cons_self),
      ih fun other member => others other (List.mem_cons_of_mem first member), List.cons_append]

section

variable {change change' : Table → Table} (keeps : ∀ table, (change table).name = table.name)
  (keeps' : ∀ table, (change' table).name = table.name) (name : String) (tables : List Table)
include keeps

/-- A change that keeps names shows where the changed table is looked up, and nowhere else. -/
theorem find?_modifyFirst (other : String) :
    (modifyFirst name change tables).find? (·.name = other) =
      (tables.find? (·.name = other)).map fun table =>
        if table.name = name then change table else table := by
  induction tables with
  | nil => rfl
  | cons table rest ih =>
    rw [modifyFirst]
    by_cases named : table.name = name
    · rw [if_pos named, List.find?_cons, List.find?_cons, keeps]
      by_cases sought : table.name = other
      · simp [sought, ← named]
      · -- Tables further on of the name that is sought are not of the name that is changed.
        have apart : ∀ found, rest.find? (·.name = other) = some found → found.name ≠ name := by
          intro found first same
          have hit : found.name = other := by simpa using List.find?_some first
          exact sought (named.trans (same.symm.trans hit))
        cases found : rest.find? (·.name = other) with
        | none => simp [sought]
        | some found' => simp [sought, apart found' found]
    · rw [if_neg named, List.find?_cons, List.find?_cons, ih]
      by_cases sought : table.name = other
      · simp [sought, sought ▸ named]
      · simp [sought]

theorem modifyFirst_modifyFirst : modifyFirst name change' (modifyFirst name change tables) =
    modifyFirst name (change' ∘ change) tables := by
  induction tables with
  | nil => rfl
  | cons table rest ih =>
    simp only [modifyFirst]
    by_cases named : table.name = name
    · rw [if_pos named, if_pos named, modifyFirst, if_pos ((keeps table).trans named)]
      rfl
    · rw [if_neg named, if_neg named, modifyFirst, if_neg named, ih]

include keeps' in
theorem modifyFirst_comm {name' : String} (different : name ≠ name') :
    modifyFirst name' change' (modifyFirst name change tables) =
      modifyFirst name change (modifyFirst name' change' tables) := by
  induction tables with
  | nil => rfl
  | cons table rest ih =>
    by_cases named : table.name = name
    · have other : table.name ≠ name' := fun same => different (named.symm.trans same)
      simp only [modifyFirst, keeps, if_pos named, if_neg other]
    · by_cases named' : table.name = name'
      · simp only [modifyFirst, keeps', if_neg named, if_pos named']
      · simp only [modifyFirst, if_neg named, if_neg named', ih]

end

end Database

end StarReport.Warehouse
