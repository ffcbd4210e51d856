import StarReport.Proofs.Warehouse.Attachment
import StarReport.Proofs.Warehouse.Declaration

/-!
Relating two tables of a database by name. A name stands for the first table that has it. The
declaration is refused where one of the names stands for no table; otherwise it adds to one table at
most one foreign key, which then leads to the target, and nothing else changes. So it can be repeated,
and declarations on different tables can be made in either order.
-/

set_option autoImplicit false
set_option relaxedAutoImplicit false

namespace StarReport.Warehouse.Database

variable {database after : Database} {source column target : String}

/-- The declaration went through. At most one foreign key came in, at the end of the first table named
`source`, that table refers to the first one named `target`, and declaring again changes nothing. -/
structure Related (database after : Database) (source column target : String) : Prop where
  name : after.name = database.name
  keys : after.tables.map Table.key = database.tables.map Table.key
  changed : ∃ before origin rest added, database.tables = before ++ origin :: rest ∧
    (∀ other ∈ before, other.name ≠ source) ∧ origin.name = source ∧
    after.tables =
      before ++ { origin with foreignKeys := origin.foreignKeys ++ added } :: rest ∧
    added.length ≤ 1
  referenced : ∃ origin aim, after.table? source = some origin ∧ after.table? target = some aim ∧
    origin.edgeTo column aim ∈ origin.references aim
  again : after.addForeignKey source column target = (.ok (), after)

/-! ### Refusal -/

theorem table?_eq_none {name : String} :
    database.table? name = none ↔ name ∉ database.tables.map Table.name := by
  rw [table?, List.find?_eq_none]
  simp

theorem addForeignKey_eq_error {cause : DatabaseError} :
    (database.addForeignKey source column target).1 = .error cause ↔
      (target ∉ database.tables.map Table.name ∧ cause = .unknownTable target) ∨
      (target ∈ database.tables.map Table.name ∧ source ∉ database.tables.map Table.name ∧
        cause = .unknownTable source) := by
  have declared {name : String} {table : Table} (found : database.table? name = some table) :
      name ∈ database.tables.map Table.name :=
    List.mem_map.mpr ⟨table, mem_of_table? found⟩
  unfold addForeignKey
  cases found : database.table? target with
  | none => simp [table?_eq_none.mp found, eq_comm]
  | some aim =>
    cases found' : database.table? source with
    | none => simp [declared found, table?_eq_none.mp found', eq_comm]
    | some origin => simp [declared found, declared found']

/-- A refused declaration leaves the database that there was. -/
theorem addForeignKey_of_error {cause : DatabaseError}
    (refused : (database.addForeignKey source column target).1 = .error cause) :
    (database.addForeignKey source column target).2 = database := by
  unfold addForeignKey at refused ⊢
  cases found : database.table? target with
  | none => rfl
  | some aim =>
    cases found' : database.table? source with
    | none => rfl
    | some origin => simp [found, found'] at refused

/-! ### Success -/

/-- A table that is looked up afterwards is the one that there was, with one declaration more where
the declaration was made on it. -/
theorem table?_addForeignKey
    (declared : database.addForeignKey source column target = (.ok (), after))
    {aim : Table} (found : database.table? target = some aim) (name : String) :
    after.table? name = (database.table? name).map fun table =>
      if table.name = source then table.addForeignKey column aim else table := by
  obtain ⟨aim', found', _, rfl⟩ := addForeignKey_ok.mp declared
  obtain rfl := Option.some.inj (found.symm.trans found')
  exact find?_modifyFirst (Table.name_addForeignKey column aim) source database.tables name

/-- The tables that the names stand for afterwards have the identities that they had before. -/
theorem target_addForeignKey
    (declared : database.addForeignKey source column target = (.ok (), after))
    {name : String} {table : Table} (found : database.table? name = some table) :
    ∃ table', after.table? name = some table' ∧ table'.key = table.key := by
  obtain ⟨aim, found', _, _⟩ := addForeignKey_ok.mp declared
  refine ⟨_, by rw [table?_addForeignKey declared found', found, Option.map_some], ?_⟩
  split <;> rfl

/-- A further declaration goes through as it would have before, on the tables changed meanwhile. -/
theorem addForeignKey_addForeignKey
    (declared : database.addForeignKey source column target = (.ok (), after))
    {source' column' target' : String} {aim : Table}
    (found : database.table? target' = some aim) (origin : (database.table? source').isSome) :
    after.addForeignKey source' column' target' = (.ok (), { after with
      tables := modifyFirst source' (·.addForeignKey column' aim) after.tables }) := by
  obtain ⟨first, first_found⟩ := Option.isSome_iff_exists.mp origin
  obtain ⟨first', first_found', _⟩ := target_addForeignKey declared first_found
  obtain ⟨aim', found', same⟩ := target_addForeignKey declared found
  have alike : (·.addForeignKey column' aim' : Table → Table) = (·.addForeignKey column' aim) :=
    funext fun table => Table.addForeignKey_congr (congrArg TableKey.name same)
      (congrArg TableKey.primaryKey same) table column'
  refine addForeignKey_ok.mpr ⟨aim', found', by rw [first_found']; rfl, ?_⟩
  rw [alike]

theorem addForeignKey_again
    (declared : database.addForeignKey source column target = (.ok (), after)) :
    after.addForeignKey source column target = (.ok (), after) := by
  obtain ⟨aim, found, origin, same⟩ := addForeignKey_ok.mp declared
  have twice : (·.addForeignKey column aim) ∘ (·.addForeignKey column aim : Table → Table) =
      (·.addForeignKey column aim) :=
    funext fun table => Table.addForeignKey_eq_self (Table.mem_addForeignKey.mpr (.inr rfl))
  rw [addForeignKey_addForeignKey declared found origin, same,
    modifyFirst_modifyFirst (Table.name_addForeignKey column aim), twice]

theorem addForeignKey_comm {source' column' target' : String} {left right : Database}
    (declared : database.addForeignKey source column target = (.ok (), left))
    (declared' : database.addForeignKey source' column' target' = (.ok (), right))
    (different : source ≠ source') : ∃ both,
      left.addForeignKey source' column' target' = (.ok (), both) ∧
      right.addForeignKey source column target = (.ok (), both) := by
  obtain ⟨aim, found, origin, same⟩ := addForeignKey_ok.mp declared
  obtain ⟨aim', found', origin', same'⟩ := addForeignKey_ok.mp declared'
  refine ⟨_, addForeignKey_addForeignKey declared found' origin', ?_⟩
  rw [addForeignKey_addForeignKey declared' found origin, same, same',
    modifyFirst_comm (Table.name_addForeignKey column aim)
      (Table.name_addForeignKey column' aim') source database.tables different]

theorem changed_addForeignKey
    (declared : database.addForeignKey source column target = (.ok (), after)) :
    ∃ before origin rest added, database.tables = before ++ origin :: rest ∧
      (∀ other ∈ before, other.name ≠ source) ∧ origin.name = source ∧
      after.tables =
        before ++ { origin with foreignKeys := origin.foreignKeys ++ added } :: rest ∧
      added.length ≤ 1 := by
  obtain ⟨aim, _, first, rfl⟩ := addForeignKey_ok.mp declared
  obtain ⟨origin, found⟩ := Option.isSome_iff_exists.mp first
  obtain ⟨named, before, rest, split, others⟩ := List.find?_eq_some_iff_append.mp found
  have others' : ∀ other ∈ before, other.name ≠ source := by simpa using others
  have named' : origin.name = source := by simpa using named
  have step : modifyFirst source (·.addForeignKey column aim) (before ++ origin :: rest) = _ :=
    modifyFirst_append others' named' (·.addForeignKey column aim)
  rw [← split] at step
  by_cases present : origin.edgeTo column aim ∈ origin.foreignKeys
  · rw [Table.addForeignKey_eq_self present] at step
    exact ⟨before, origin, rest, [], split, others', named', by simpa using step, by simp⟩
  · have absent : id (origin.edgeTo column aim) ∉ origin.foreignKeys.map id := by simpa using present
    rw [Table.addForeignKey, Distinct.insert_of_not_mem absent] at step
    exact ⟨before, origin, rest, [origin.edgeTo column aim], split, others', named', step, by simp⟩

theorem Attached.references_addForeignKey (attached : database.Attached)
    (declared : database.addForeignKey source column target = (.ok (), after)) :
    ∃ origin aim, after.table? source = some origin ∧ after.table? target = some aim ∧
      origin.edgeTo column aim ∈ origin.references aim := by
  obtain ⟨aim, found, first, _⟩ := addForeignKey_ok.mp declared
  obtain ⟨origin, origin_found⟩ := Option.isSome_iff_exists.mp first
  obtain ⟨aim', found', same⟩ := target_addForeignKey declared found
  have changed := table?_addForeignKey declared found source
  rw [origin_found, Option.map_some, if_pos (mem_of_table? origin_found).2] at changed
  have attached' := attached.addForeignKey declared
  have owner := (attached'.owned _ (mem_of_table? changed).1).database
  have owner' := (attached'.owned aim' (mem_of_table? found').1).database
  refine ⟨_, aim', changed, found', List.mem_filter.mpr ⟨?_, ?_⟩⟩
  · rw [Table.addForeignKey_congr (congrArg TableKey.name same).symm
      (congrArg TableKey.primaryKey same).symm]
    exact Table.mem_addForeignKey.mpr (.inr rfl)
  · exact decide_eq_true (Table.target_edgeTo (owner.trans owner'.symm) column)

/-- Relating two tables of a reachable database by name. It is refused exactly where one of the names
stands for no table, with the target looked at first, and then nothing has changed. Otherwise the
tables are related, and nothing else has changed; a declaration on another table that goes through as
well leads to the same database in either order. -/
theorem related_of_reached {database : Database} (reached : database.Reached)
    (source column target : String) :
    (∀ cause, (database.addForeignKey source column target).1 = .error cause ↔
      (target ∉ database.tables.map Table.name ∧ cause = .unknownTable target) ∨
      (target ∈ database.tables.map Table.name ∧ source ∉ database.tables.map Table.name ∧
        cause = .unknownTable source)) ∧
    (∀ cause, (database.addForeignKey source column target).1 = .error cause →
      (database.addForeignKey source column target).2 = database) ∧
    ∀ after, database.addForeignKey source column target = (.ok (), after) →
      Related database after source column target ∧
      ∀ source' column' target' after',
        database.addForeignKey source' column' target' = (.ok (), after') →
        database.table? source ≠ database.table? source' → ∃ both,
          after.addForeignKey source' column' target' = (.ok (), both) ∧
          after'.addForeignKey source column target = (.ok (), both) := by
  refine ⟨fun cause => addForeignKey_eq_error, fun cause => addForeignKey_of_error,
    fun after declared => ⟨?_, ?_⟩⟩
  · obtain ⟨_, _, _, same⟩ := addForeignKey_ok.mp declared
    exact ⟨by rw [same], keys_addForeignKey declared, changed_addForeignKey declared,
      reached.attached.references_addForeignKey declared, addForeignKey_again declared⟩
  · intro source' column' target' after' declared' different
    exact addForeignKey_comm declared declared' fun same => different (by rw [same])

/-- Two tables of one name beside a third. -/
private def family : Database :=
  ((empty "StarDB").setTables
    [.named "DimStore" (some "id"), .named "DimStore" (some "code"), .named "FactSales" none])

/-- The first of the two refers to itself, the third table refers to it as well, and neither order of
the two declarations matters. -/
theorem related_of_family : family.Reached ∧ ∃ left right both,
    family.addForeignKey "DimStore" "ParentId" "DimStore" = (.ok (), left) ∧
    Related family left "DimStore" "ParentId" "DimStore" ∧
    family.addForeignKey "FactSales" "StoreId" "DimStore" = (.ok (), right) ∧
    left.addForeignKey "FactSales" "StoreId" "DimStore" = (.ok (), both) ∧
    right.addForeignKey "DimStore" "ParentId" "DimStore" = (.ok (), both) ∧
    (family.addForeignKey "DimStore" "CityId" "DimCity").2 = family := by
  have reached : family.Reached := .setTables _ (.empty "StarDB")
  obtain ⟨left, declared⟩ :
      ∃ left, family.addForeignKey "DimStore" "ParentId" "DimStore" = (.ok (), left) := ⟨_, rfl⟩
  obtain ⟨right, declared'⟩ :
      ∃ right, family.addForeignKey "FactSales" "StoreId" "DimStore" = (.ok (), right) := ⟨_, rfl⟩
  obtain ⟨-, -, goes_on⟩ := related_of_reached reached "DimStore" "ParentId" "DimStore"
  obtain ⟨related, commutes⟩ := goes_on left declared
  obtain ⟨both, before, after⟩ :=
    commutes "FactSales" "StoreId" "DimStore" right declared' (by decide)
  have refused : (family.addForeignKey "DimStore" "CityId" "DimCity").1 =
      .error (.unknownTable "DimCity") := rfl
  obtain ⟨-, unchanged, -⟩ := related_of_reached reached "DimStore" "CityId" "DimCity"
  exact ⟨reached, left, right, both, declared, related, declared', before, after,
    unchanged _ refused⟩

end StarReport.Warehouse.Database
