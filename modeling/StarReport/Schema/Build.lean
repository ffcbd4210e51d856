import StarReport.Document.Basic
import StarReport.Star.Basic
import StarReport.Warehouse.Database

/-!
Schemas: a database and a star over it, built from a document. Tables come first, then the foreign
keys, then the star, so that every table of the star carries its keys. Building stops at the first
name that is used twice or refers to nothing.
-/

set_option autoImplicit false
set_option relaxedAutoImplicit false

namespace StarReport

open StarReport.Star Warehouse

structure Schema where
  database : Database
  star : Star
deriving DecidableEq

namespace Schema

open Document

inductive EntryKind where
  | table
  | dimension
  | measure
deriving DecidableEq

def EntryKind.text : EntryKind → String
  | .table => "table"
  | .dimension => "dimension"
  | .measure => "measure"

/-- The place in a document that names a table. -/
inductive Referrer where
  | foreignKey
  | fact
  | dimension (name : String)
  | metric
  | measure (name : String)
deriving DecidableEq

def Referrer.text : Referrer → String
  | .foreignKey => "a foreign key"
  | .fact => "star fact"
  | .dimension name => "dimension '" ++ name ++ "'"
  | .metric => "a metric"
  | .measure name => "measure '" ++ name ++ "'"

/-- Why a document describes no schema. -/
inductive BuildError where
  | duplicateName (kind : EntryKind) (name : String)
  | unknownTable (table : String) (referrer : Referrer)
deriving DecidableEq

def BuildError.message : BuildError → String
  | .duplicateName kind name => "Duplicate " ++ kind.text ++ " name: " ++ name
  | .unknownTable table referrer =>
    "Unknown table '" ++ table ++ "' referenced by " ++ referrer.text

def lookup (database : Database) (name : String) (referrer : Referrer) :
    Except BuildError Table :=
  match database.table? name with
  | some table => .ok table
  | none => .error (.unknownTable name referrer)

/-- Attach the table of an entry; the names of tables may not repeat. -/
def addTable (database : Database) (entry : TableEntry) : Except BuildError Database :=
  if (database.table? entry.name).isSome then .error (.duplicateName .table entry.name)
  else .ok (database.addTable (.named entry.name entry.primaryKey)).2

def addForeignKey (source : String) (database : Database) (entry : ForeignKeyEntry) :
    Except BuildError Database :=
  (database.addForeignKey source entry.column entry.target).proceed.mapError fun
    | .unknownTable name => .unknownTable name .foreignKey

def addForeignKeys (database : Database) (entry : TableEntry) : Except BuildError Database :=
  entry.foreignKeys.foldlM (addForeignKey entry.name) database

/-- Adopt the dimension of an entry; the names of dimensions may not repeat. -/
def addDimension (database : Database) (star : Star) (entry : DimensionEntry) :
    Except BuildError Star :=
  if (star.dimension? entry.name).isSome then .error (.duplicateName .dimension entry.name)
  else do
    let table ← lookup database entry.table (.dimension entry.name)
    return star.addDimension ⟨entry.name, table, entry.column, none⟩

def addMetric (database : Database) (star : Star) (entry : MetricEntry) :
    Except BuildError Star := do
  let table ← lookup database entry.table .metric
  return star.addMetric ⟨table, entry.column, none⟩

/-- Adopt the measure of an entry; the names of measures may not repeat. -/
def addMeasure (database : Database) (star : Star) (entry : MeasureEntry) :
    Except BuildError Star :=
  if (star.measure? entry.name).isSome then .error (.duplicateName .measure entry.name)
  else do
    let table ← lookup database entry.table (.measure entry.name)
    return star.addMeasure ⟨entry.name, ⟨table, entry.column, none⟩, entry.function⟩

/-- The database of a document: all tables, then all foreign keys. -/
def buildDatabase (document : Document) : Except BuildError Database := do
  let database ← document.tables.foldlM addTable (.empty document.database)
  document.tables.foldlM addForeignKeys database

def buildStar (id : StarId) (database : Database) (entry : StarEntry) :
    Except BuildError Star := do
  let fact ← lookup database entry.fact .fact
  let star ← entry.dimensions.foldlM (addDimension database) (Star.ofFact id fact)
  let star ← entry.metrics.foldlM (addMetric database) star
  entry.measures.foldlM (addMeasure database) star

/-- The schema that a document describes; its star gets the given identity. -/
def build (id : StarId) (document : Document) : Except BuildError Schema := do
  let database ← buildDatabase document
  let star ← buildStar id database document.star
  return ⟨database, star⟩

end Schema

end StarReport
