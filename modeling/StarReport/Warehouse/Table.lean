import StarReport.Distinct

/-!
Tables of a warehouse and the foreign keys between them. A table is identified by its key: the
database that owns it, its name and its primary key. A foreign key holds its target by name and
primary key only, and the target lives in the database of the source.
-/

set_option autoImplicit false
set_option relaxedAutoImplicit false

namespace StarReport.Warehouse

/-- The identity of a table; a table without an owner or a primary key has `none` there. -/
structure TableKey where
  database : Option String
  name : String
  primaryKey : Option String
deriving DecidableEq

/-- A directed edge from a column of the source table to the primary key of the target. -/
structure ForeignKey where
  source : TableKey
  column : String
  targetName : String
  targetPrimaryKey : Option String
deriving DecidableEq

/-- The identity of the table that a foreign key points at. -/
def ForeignKey.target (edge : ForeignKey) : TableKey :=
  ⟨edge.source.database, edge.targetName, edge.targetPrimaryKey⟩

/-- A physical table with the foreign keys declared on it, in order of declaration. -/
structure Table where
  key : TableKey
  foreignKeys : List ForeignKey
deriving DecidableEq

namespace Table

def named (name : String) (primaryKey : Option String) : Table :=
  ⟨⟨none, name, primaryKey⟩, []⟩

def name (table : Table) : String := table.key.name

def primaryKey (table : Table) : Option String := table.key.primaryKey

/-- Give the table a primary key; foreign keys declared before keep the source they had. -/
def withPrimaryKey (table : Table) (column : String) : Table :=
  { table with key := { table.key with primaryKey := some column } }

/-- The foreign key that declaring `column` against `target` stands for. -/
def edgeTo (table : Table) (column : String) (target : Table) : ForeignKey :=
  ⟨table.key, column, target.name, target.primaryKey⟩

/-- Declare a foreign key; an equal one that is already declared is kept as it is. -/
def addForeignKey (table : Table) (column : String) (target : Table) : Table :=
  { table with foreignKeys := Distinct.insert id table.foreignKeys (table.edgeTo column target) }

/-- The foreign keys of the table that point at `target`, in order. -/
def references (table target : Table) : List ForeignKey :=
  table.foreignKeys.filter (·.target = target.key)

/-- Move the table under `database`; every foreign key then has the table's new key as source. -/
def attach (table : Table) (database : Option String) : Table :=
  let key := { table.key with database := database }
  ⟨key, table.foreignKeys.map ({ · with source := key })⟩

@[simp] theorem attach_key (table : Table) (database : Option String) :
    (table.attach database).key = { table.key with database := database } := rfl

@[simp] theorem addForeignKey_key (table target : Table) (column : String) :
    (table.addForeignKey column target).key = table.key := rfl

end Table

end StarReport.Warehouse
