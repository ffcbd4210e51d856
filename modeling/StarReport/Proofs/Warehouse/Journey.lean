import StarReport.Proofs.Warehouse.Relating
import StarReport.Proofs.Warehouse.Restoration

/-!
Tables that move. A table is made, it goes into databases and comes out of them, and foreign keys are
declared on it at any time, by itself or by name. Where its primary key is settled before the first of
them, only its last place and the declarations in their order tell what the table is: all of them could
have been made before it moved at all. So foreign keys lead to the tables beside it that were meant.
-/

set_option autoImplicit false
set_option relaxedAutoImplicit false

namespace StarReport.Warehouse

namespace Table

/-- Foreign keys declared one after the other, each with its column and its target. -/
def declareAll (table : Table) (declared : List (String × Table)) : Table :=
  declared.foldl (fun table entry => table.addForeignKey entry.1 entry.2) table

/-- The table of the given key that has nothing but the foreign keys of these declarations. -/
def declaring (key : TableKey) (declared : List (String × Table)) : Table :=
  ⟨key, Distinct.ofList id (declared.map fun entry => Declaration.edge key (.of entry.1 entry.2))⟩

/-- What the declarations on a table mean for a target: a foreign key for each that was made on a table
of its name and primary key, repeats left out. -/
def meantFor (table : Table) (declared : List (String × Table)) (target : Table) :
    List ForeignKey :=
  ((declared.filter fun entry =>
    entry.2.name = target.name ∧ entry.2.primaryKey = target.primaryKey).map fun entry =>
      table.edgeTo entry.1 entry.2).eraseDups

section

variable {key : TableKey} {declared : List (String × Table)} {target : Table}

theorem addForeignKey_declaring (column : String) :
    (declaring key declared).addForeignKey column target =
      declaring key (declared ++ [(column, target)]) := by
  rw [declaring, declaring, List.map_append, List.map_singleton, Distinct.ofList_append_singleton]
  rfl

theorem declareAll_declaring (more : List (String × Table)) :
    (declaring key declared).declareAll more = declaring key (declared ++ more) := by
  induction more generalizing declared with
  | nil => rw [List.append_nil, declareAll, List.foldl_nil]
  | cons entry rest ih =>
    rw [declareAll, List.foldl_cons, addForeignKey_declaring, List.append_cons declared entry rest]
    exact ih

/-- A move renews where the foreign keys start, so it does not tell when it was made. -/
theorem attach_declaring (database : Option String) : (declaring key declared).attach database =
    declaring { key with database := database } declared := by
  have kept (key : TableKey) :
      Distinct.ofList id (declared.map fun entry => Declaration.edge key (.of entry.1 entry.2)) =
        (Distinct.ofList (fun entry => Declaration.of entry.1 entry.2) declared).map fun entry =>
          Declaration.edge key (.of entry.1 entry.2) :=
    (Distinct.map_ofList (fun entry : String × Table => Declaration.edge key (.of entry.1 entry.2))
      (fun _ _ => (Declaration.edge_injective key).eq_iff) declared).symm
  rw [attach, declaring, declaring, kept, kept, List.map_map]
  rfl

private theorem references_eq : (declaring key declared).references target =
    ((declared.filter fun entry => (⟨key.database, entry.2.name, entry.2.primaryKey⟩ : TableKey) =
      target.key).map fun entry => Declaration.edge key (.of entry.1 entry.2)).eraseDups := by
  have keyed (edge edge' : ForeignKey) (same : id edge = id edge') :
      decide (edge.target = target.key) = decide (edge'.target = target.key) := by
    rw [show edge = edge' from same]
  rw [references, declaring, Distinct.filter_ofList keyed, Distinct.ofList_id, List.filter_map]
  rfl

theorem references_declaring (same : key.database = target.key.database) :
    (declaring key declared).references target =
      (declaring key declared).meantFor declared target := by
  have aimed (entry : String × Table) :
      (⟨key.database, entry.2.name, entry.2.primaryKey⟩ : TableKey) = target.key ↔
        entry.2.name = target.name ∧ entry.2.primaryKey = target.primaryKey := by
    obtain ⟨⟨_, _, _⟩, _⟩ := target
    simp [same, name, primaryKey]
  simp only [references_eq, aimed]
  rfl

theorem references_declaring_of_ne (other : key.database ≠ target.key.database) :
    (declaring key declared).references target = [] := by
  have nowhere : (declared.filter fun entry =>
      (⟨key.database, entry.2.name, entry.2.primaryKey⟩ : TableKey) = target.key) = [] := by
    refine List.filter_eq_nil_iff.mpr fun entry _ => ?_
    rw [decide_eq_true_eq]
    intro same
    exact other (by rw [← same])
  rw [references_eq, nowhere, List.map_nil, List.eraseDups_nil]

end

end Table

/-! ### Journeys -/

/-- Where a table is: by itself, with the database that its identity names, or in a database. -/
inductive Place where
  | aside (owner : Option String)
  | inside (database : Database)

def Place.owner : Place → Option String
  | aside owner => owner
  | inside database => some database.name

/-- What can happen to a table, with what was declared on it so far: by its column and the target as it
was then. It gets its primary key before anything is declared on it. It goes into databases that hold
none like it, and is taken out of them, or copied from what they hand out. A foreign key is declared on
the table by itself, or, in a database, on the first table of its name. Meanwhile the database may
change otherwise, as long as the table stays there as it is. -/
inductive Journey : List (String × Table) → Place → Table → Prop
  | new (name : String) : Journey [] (.aside none) (.named name none)
  | identify {owner : Option String} {table : Table} (column : String) :
      Journey [] (.aside owner) table → Journey [] (.aside owner) (table.withPrimaryKey column)
  | declare {declared : List (String × Table)} {owner : Option String} {table : Table}
      (column : String) (target : Table) :
      Journey declared (.aside owner) table →
      Journey (declared ++ [(column, target)]) (.aside owner) (table.addForeignKey column target)
  | enter {declared : List (String × Table)} {owner : Option String} {table : Table}
      {database : Database} :
      Journey declared (.aside owner) table → database.Reached → ¬ database.Holds table →
      Journey declared (.inside (database.addTable table).2) (database.addTable table).1
  | relate {declared : List (String × Table)} {database after : Database}
      {table table' aim : Table} {column target : String} :
      Journey declared (.inside database) table → database.table? table.name = some table →
      database.table? target = some aim →
      database.addForeignKey table.name column target = (.ok (), after) →
      after.table? table.name = some table' →
      Journey (declared ++ [(column, aim)]) (.inside after) table'
  | meanwhile {declared : List (String × Table)} {database after : Database} {table : Table} :
      Journey declared (.inside database) table → after.Reached → after.name = database.name →
      table ∈ after.tables → Journey declared (.inside after) table
  | copy {declared : List (String × Table)} {database : Database} {table : Table} :
      Journey declared (.inside database) table → Journey declared (.aside database.name) table
  | leave {declared : List (String × Table)} {database after : Database} {table table' : Table} :
      Journey declared (.inside database) table →
      database.removeTable table.key = some (table', after) → Journey declared (.aside none) table'

/-- In a database the table is one of its tables. -/
def Place.Has : Place → Table → Prop
  | aside _, _ => True
  | inside database, table => database.Reached ∧ table ∈ database.tables

theorem Journey.settled {declared : List (String × Table)} {place : Place} {table : Table}
    (journey : Journey declared place table) :
    place.Has table ∧ ∃ key, key.database = place.owner ∧ table = .declaring key declared := by
  induction journey with
  | new name => exact ⟨trivial, ⟨none, name, none⟩, rfl, rfl⟩
  | identify column _ ih =>
    obtain ⟨-, key, owned, rfl⟩ := ih
    exact ⟨trivial, { key with primaryKey := some column }, owned, rfl⟩
  | declare column target _ ih =>
    obtain ⟨-, key, owned, rfl⟩ := ih
    exact ⟨trivial, key, owned, Table.addForeignKey_declaring column⟩
  | @enter declared owner table database _ reached absent ih =>
    obtain ⟨-, key, -, rfl⟩ := ih
    refine ⟨⟨.addTable _ reached, ?_⟩, { key with database := some database.name }, ?_, ?_⟩ <;>
      rw [Database.addTable_of_fresh (Database.fresh_of_not_holds absent)]
    · simp
    · rfl
    · exact Table.attach_declaring _
  | @relate declared database after table table' aim column target _ first found related found' ih =>
    obtain ⟨⟨reached, _⟩, key, owned, rfl⟩ := ih
    have changed := Database.table?_addForeignKey related found (Table.declaring key declared).name
    rw [found', first, Option.map_some, if_pos rfl, Table.addForeignKey_declaring] at changed
    have name : after.name = database.name := by
      obtain ⟨_, _, _, same⟩ := Database.addForeignKey_ok.mp related
      rw [same]
    exact ⟨⟨.addForeignKey reached related, (Database.mem_of_table? found').1⟩, key,
      owned.trans (congrArg some name.symm), Option.some.inj changed⟩
  | meanwhile _ reached name member ih =>
    obtain ⟨-, key, owned, rfl⟩ := ih
    exact ⟨⟨reached, member⟩, key, owned.trans (congrArg some name.symm), rfl⟩
  | copy _ ih =>
    obtain ⟨-, settled⟩ := ih
    exact ⟨trivial, settled⟩
  | leave _ removed ih =>
    obtain ⟨⟨reached, member⟩, key, -, rfl⟩ := ih
    rw [reached.attached.removeTable_of_held member] at removed
    cases removed
    exact ⟨trivial, _, rfl, Table.attach_declaring none⟩

/-- However a table travels, it is what the same declarations made on the loose table and a single move
to its last database lead to. The tables of that database to which it refers are the ones that were
meant, whichever came first, and it refers to no other table. -/
theorem settled_of_journey {declared : List (String × Table)} {place : Place} {table : Table}
    (journey : Journey declared place table) :
    (place.owner = none → table = (Table.named table.name table.primaryKey).declareAll declared) ∧
    (∀ vacant : Database, place.owner = some vacant.name → ¬ vacant.Holds table →
      (vacant.addTable ((Table.named table.name table.primaryKey).declareAll declared)).1 = table) ∧
    (∀ database, place = .inside database → table ∈ database.tables ∧
      ∀ target ∈ database.tables, target.key.database = place.owner) ∧
    (∀ target : Table, target.key.database = place.owner →
      table.references target = table.meantFor declared target ∧
      ∀ edge ∈ table.references target, edge.target = target.key) ∧
    ∀ target : Table, target.key.database ≠ place.owner → table.references target = [] := by
  obtain ⟨has, ⟨owner, name, primaryKey⟩, owned, rfl⟩ := journey.settled
  have loose : (Table.named name primaryKey).declareAll declared =
      .declaring ⟨none, name, primaryKey⟩ declared :=
    @Table.declareAll_declaring ⟨none, name, primaryKey⟩ [] declared
  refine ⟨fun unowned => ?_, fun vacant last absent => ?_, fun database there => ?_,
    fun target beside => ⟨?_, ?_⟩, fun target apart => ?_⟩
  · obtain rfl : owner = none := owned.trans unowned
    exact loose.symm
  · obtain rfl : owner = some vacant.name := owned.trans last
    have absent' : ¬ vacant.Holds (Table.declaring ⟨none, name, primaryKey⟩ declared) := absent
    change (vacant.addTable ((Table.named name primaryKey).declareAll declared)).1 = _
    rw [loose, Database.addTable_of_fresh (Database.fresh_of_not_holds absent')]
    exact Table.attach_declaring _
  · subst there
    exact ⟨has.2, fun target member => (has.1.attached.owned target member).database⟩
  · exact Table.references_declaring (owned.trans beside.symm)
  · intro edge refers
    exact of_decide_eq_true (List.mem_filter.mp refers).2
  · exact Table.references_declaring_of_ne fun same => apart (same.symm.trans owned)

private def shop : Table := .named "DimStore" (some "id")

/-- A table that was declared to refer to a store, which no database has yet. -/
private def orders : Table :=
  ((Table.named "FactSales" none).withPrimaryKey "id").addForeignKey "StoreId" shop

private def depot : Database := ((Database.empty "StarDB").addTable shop).2

/-- The table goes through another database before it comes to the one with the store. Its first
declaration is repeated on the way, and a further one follows by name. -/
theorem settled_of_relocated : ∃ (database : Database) (table : Table),
    Journey [("StoreId", shop), ("StoreId", shop), ("OriginId", shop.attach (some "StarDB"))]
      (.inside database) table ∧
    table.references (shop.attach (some "StarDB")) =
      [table.edgeTo "StoreId" shop, table.edgeTo "OriginId" shop] ∧
    table.references shop = [] ∧
    ((Database.empty "StarDB").addTable ((Table.named "FactSales" (some "id")).declareAll
      [("StoreId", shop), ("StoreId", shop), ("OriginId", shop.attach (some "StarDB"))])).1 =
        table := by
  have made : Journey [("StoreId", shop)] (.aside none) orders :=
    .declare "StoreId" shop (.identify "id" (.new "FactSales"))
  have left : Journey [("StoreId", shop)] (.aside none) orders :=
    .leave (.enter made (.empty "Staging") (by decide)) rfl
  have entered := Journey.enter (.declare "StoreId" shop left)
    (.addTable shop (.empty "StarDB") : depot.Reached) (by decide)
  have journey := @Journey.relate _ _ _ _ _ _ "OriginId" "DimStore" entered rfl rfl rfl rfl
  obtain ⟨-, once, -, beside, apart⟩ := settled_of_journey journey
  exact ⟨_, _, journey, (beside _ rfl).1, apart shop (by decide),
    once (.empty "StarDB") rfl (by decide)⟩

end StarReport.Warehouse
