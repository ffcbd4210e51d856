import StarReport.Proofs.Warehouse.Life

/-!
Tables and databases that the operations can produce. Each such table, held by a database or not, is
the outcome of a life, and every life has such a table as its outcome. So what is known about lives is
known about tables: which of them declare nothing twice, and which of them show a repeated foreign
key once they move.
-/

set_option autoImplicit false
set_option relaxedAutoImplicit false

namespace StarReport.Warehouse

open Event (settled)

/-- What the operations hand on. -/
inductive Value where
  | table (table : Table)
  | database (database : Database)

/-- The values that come out of the operations on tables and databases, in any order and number.
Values do not change, so one that is used again stands for its clone. -/
inductive Obtained : Value → Prop
  | named (name : String) : Obtained (.table (.named name none))
  | identified {table : Table} (column : String) :
      Obtained (.table table) → Obtained (.table (table.withPrimaryKey column))
  | declared {table target : Table} (column : String) : Obtained (.table table) →
      Obtained (.table target) → Obtained (.table (table.addForeignKey column target))
  | empty (name : String) : Obtained (.database (.empty name))
  | held {database : Database} {table : Table} : Obtained (.database database) →
      table ∈ database.tables → Obtained (.table table)
  | handle {database : Database} {table : Table} : Obtained (.database database) →
      Obtained (.table table) → Obtained (.table (database.addTable table).1)
  | added {database : Database} {table : Table} : Obtained (.database database) →
      Obtained (.table table) → Obtained (.database (database.addTable table).2)
  | detached {database after : Database} {key : TableKey} {table : Table} :
      Obtained (.database database) → database.removeTable key = some (table, after) →
      Obtained (.table table)
  | without {database after : Database} {key : TableKey} {table : Table} :
      Obtained (.database database) → database.removeTable key = some (table, after) →
      Obtained (.database after)
  | replaced {database : Database} {tables : List Table} : Obtained (.database database) →
      (∀ table ∈ tables, Obtained (.table table)) → Obtained (.database (database.setTables tables))
  | related {database after : Database} {source column target : String} :
      Obtained (.database database) → database.addForeignKey source column target = (.ok (), after) →
      Obtained (.database after)

/-! ### Every table obtained has a life -/

def Table.Living (table : Table) : Prop := ∃ name life, table = live name life

def Value.Living : Value → Prop
  | table single => single.Living
  | database held => ∀ single ∈ held.tables, single.Living

theorem Table.Living.apply {table : Table} (living : table.Living) (event : Event) :
    (event.apply table).Living := by
  obtain ⟨name, life, rfl⟩ := living
  exact ⟨name, life ++ [event], (live_append name life [event]).symm⟩

private theorem living_addTable {database : Database} {table : Table}
    (tables : ∀ held ∈ database.tables, held.Living) (living : table.Living) :
    (database.addTable table).1.Living ∧
      ∀ held ∈ (database.addTable table).2.tables, held.Living := by
  have moved : (table.attach (some database.name)).Living := living.apply (.move _)
  rcases database.addTable_cases table with ⟨present, member, _, step⟩ | ⟨_, step⟩
  · rw [step]
    exact ⟨tables present member, tables⟩
  · rw [step]
    refine ⟨moved, fun held member => ?_⟩
    rcases List.mem_append.mp member with old | new
    · exact tables held old
    · exact List.mem_singleton.mp new ▸ moved

private theorem living_foldl_addTable {tables : List Table} {database : Database}
    (held : ∀ table ∈ database.tables, table.Living) (given : ∀ table ∈ tables, table.Living) :
    ∀ table ∈ (tables.foldl (fun database table => (database.addTable table).2) database).tables,
      table.Living := by
  induction tables generalizing database with
  | nil => exact held
  | cons first rest ih =>
    have next := (living_addTable held (given first List.mem_cons_self)).2
    exact ih next fun table member => given table (List.mem_cons_of_mem first member)

theorem Obtained.living {value : Value} (obtained : Obtained value) : value.Living := by
  induction obtained with
  | named name => exact ⟨name, [], rfl⟩
  | identified column _ living => exact living.apply (.identify column)
  | @declared table target column _ _ living _ => exact living.apply (.declare column target)
  | empty name => exact fun table member => absurd member List.not_mem_nil
  | held _ member tables => exact tables _ member
  | handle _ _ tables living => exact (living_addTable tables living).1
  | added _ _ tables living => exact (living_addTable tables living).2
  | detached _ removed tables =>
    obtain ⟨old, found, rfl, _⟩ := Database.removeTable_eq_some.mp removed
    exact (tables old (Database.mem_of_find? found).1).apply (.move none)
  | without _ removed tables =>
    obtain ⟨_, _, _, rfl⟩ := Database.removeTable_eq_some.mp removed
    exact fun table member => tables table (List.eraseP_subset member)
  | @replaced database tables _ _ _ living =>
    have start : ∀ table ∈ (Database.empty database.name).tables, table.Living :=
      fun table member => absurd member List.not_mem_nil
    exact living_foldl_addTable start living
  | @related database after source column target _ related tables =>
    obtain ⟨aim, _, _, rfl⟩ := Database.addForeignKey_ok.mp related
    intro table member
    rcases Database.mem_modifyFirst member with held | ⟨old, held, _, rfl⟩
    · exact tables table held
    · exact (tables old held).apply (.declare column aim)

/-! ### Every life leads to a table obtained -/

private theorem obtained_keyed (name : String) (primaryKey : Option String) :
    Obtained (.table (.named name primaryKey)) := by
  cases primaryKey with
  | none => exact .named name
  | some column => exact .identified column (.named name)

theorem Obtained.attach {table : Table} (obtained : Obtained (.table table))
    (database : Option String) : Obtained (.table (table.attach database)) := by
  cases database with
  | some name => exact .handle (.empty name) obtained
  | none =>
    -- The table is detached from a database made for the purpose.
    have added := Obtained.added (.empty table.name) obtained
    have removed : ((Database.empty table.name).addTable table).2.removeTable
        ((Database.empty table.name).addTable table).1.key =
          some (table.attach none, .empty table.name) :=
      Database.removeTable_addTable List.not_mem_nil
    exact .detached added removed

theorem obtained_live (name : String) (life : List Event) : Obtained (.table (.live name life)) := by
  induction life using List.reverseRecOn with
  | nil => exact .named name
  | append_singleton before event ih =>
    rw [Table.live_append]
    cases event with
    | identify column => exact ih.identified column
    | move database => exact ih.attach database
    | declare column target =>
      -- Only the name and the primary key of the target are looked at.
      have declared := ih.declared column (obtained_keyed target.name target.primaryKey)
      exact declared

/-- The tables that the operations can produce are the outcomes of lives. -/
theorem obtained_iff_living {table : Table} : Obtained (.table table) ↔ table.Living := by
  constructor
  · exact Obtained.living
  · rintro ⟨name, life, rfl⟩
    exact obtained_live name life

/-! ### Which tables declare nothing twice -/

/-- A table that the operations produce has a life. Whichever life it had, the three ways to say that
its foreign keys are unique hold together, exactly where the life settles: no column and target are
declared by two of them, every declaration that came again changed nothing, and no move makes two of
them equal. -/
theorem distinctEdges_iff_settled {table : Table} (obtained : Obtained (.table table)) :
    table.Living ∧ ∀ name life, table = .live name life →
      (table.DistinctEdges ↔ settled none life) ∧
      (Table.Quiet name life ↔ settled none life) ∧
      ∀ database, (table.attach database).foreignKeys.Nodup ↔ settled none life := by
  refine ⟨obtained.living, ?_⟩
  rintro name life rfl
  have distinct := Table.distinctEdges_live name life
  refine ⟨distinct, (Table.quiet_iff name life).trans distinct, fun database => ?_⟩
  exact (Table.nodup_attach _ database).trans distinct

def store : Table := .named "DimStore" (some "id")

/-- A declaration comes again once the table has been attached. -/
theorem distinctEdges_of_attached :
    Obtained (.table (.live "FactSales"
      [.declare "StoreId" store, .move (some "StarDB"), .declare "StoreId" store])) ∧
    (Table.live "FactSales"
      [.declare "StoreId" store, .move (some "StarDB"), .declare "StoreId" store]).DistinctEdges := by
  have obtained := obtained_live "FactSales"
    [.declare "StoreId" store, .move (some "StarDB"), .declare "StoreId" store]
  exact ⟨obtained, ((distinctEdges_iff_settled obtained).2 _ _ rfl).1.mpr (by decide)⟩

/-- A declaration comes again once the table has been given a primary key. -/
def rekeyed : Table :=
  (((Table.named "FactSales" none).addForeignKey "StoreId" store).withPrimaryKey "id").addForeignKey
    "StoreId" store

theorem not_distinctEdges_rekeyed :
    Obtained (.table rekeyed) ∧ ¬ rekeyed.DistinctEdges ∧
      ¬ (rekeyed.attach (some "StarDB")).foreignKeys.Nodup := by
  have target : Obtained (.table store) := obtained_keyed "DimStore" (some "id")
  have sales := ((Obtained.named "FactSales").declared "StoreId" target).identified "id"
  exact ⟨sales.declared "StoreId" target, by decide, by decide⟩

end StarReport.Warehouse
