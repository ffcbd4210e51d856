import StarReport.Refusable
import StarReport.Warehouse.Table

/-!
A database: a name and the tables attached to it. No two tables of a database have the same key,
because a table is attached only where none with its key is held already.
-/

set_option autoImplicit false
set_option relaxedAutoImplicit false

namespace StarReport.Warehouse

inductive DatabaseError where
  | unknownTable (name : String)
deriving DecidableEq

def DatabaseError.message : DatabaseError → String
  | .unknownTable name => "Table not found: " ++ name

structure Database where
  name : String
  tables : List Table
deriving DecidableEq

namespace Database

def empty (name : String) : Database := ⟨name, []⟩

def find? (database : Database) (key : TableKey) : Option Table :=
  database.tables.find? (·.key = key)

def position? (database : Database) (key : TableKey) : Option Nat :=
  database.tables.findIdx? (·.key = key)

def table? (database : Database) (name : String) : Option Table :=
  database.tables.find? (·.name = name)

/-- Attach a table and return the one held under its key: the new one at the end, or the one that
was there before, in which case the database stays as it is. -/
def addTable (database : Database) (table : Table) : Table × Database :=
  let attached := table.attach (some database.name)
  match database.find? attached.key with
  | some held => (held, database)
  | none => (attached, { database with tables := database.tables ++ [attached] })

/-- Detach the table with the given key; it then belongs to no database. -/
def removeTable (database : Database) (key : TableKey) : Option (Table × Database) :=
  (database.find? key).map fun held =>
    (held.attach none, { database with tables := database.tables.eraseP (·.key = key) })

/-- Replace every table, attaching the given ones in order. -/
def setTables (database : Database) (tables : List Table) : Database :=
  tables.foldl (fun held table => (held.addTable table).2) (empty database.name)

/-- Change the first table with the given name. -/
def modifyFirst (name : String) (change : Table → Table) : List Table → List Table
  | [] => []
  | table :: rest =>
    if table.name = name then change table :: rest else table :: modifyFirst name change rest

/-- Declare a foreign key between two attached tables given by name; the target is looked up
first. -/
def addForeignKey (database : Database) (source column target : String) :
    Refusable DatabaseError Database :=
  match database.table? target with
  | none => (.error (.unknownTable target), database)
  | some targetTable =>
    match database.table? source with
    | none => (.error (.unknownTable source), database)
    | some _ => (.ok (), { database with
        tables := modifyFirst source (·.addForeignKey column targetTable) database.tables })

end Database

end StarReport.Warehouse
