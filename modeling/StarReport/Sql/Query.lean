import StarReport.Sql.Statement
import StarReport.Warehouse.Table

/-!
A query under construction: the columns selected so far and the tables they come from. The first
table registered is the root. Joins come only from foreign keys declared on the root, so a table
that is reached through another table alone is not joined.
-/

set_option autoImplicit false
set_option relaxedAutoImplicit false

namespace StarReport.Sql

open StarReport.Star (AggregateFunction)
open Warehouse (Table TableKey)

inductive QueryError where
  | noTables
  | missingPrimaryKey (table : String)
deriving DecidableEq

def QueryError.message : QueryError → String
  | .noTables => "No tables registered; add the fact table before generating SQL"
  | .missingPrimaryKey table => "Table " ++ table ++ " is joined but has no primary key"

/-- A selected column, perhaps aggregated and perhaps labelled. -/
structure Selected where
  table : Table
  column : String
  label : Option String
  function : Option AggregateFunction
deriving DecidableEq

/-- What makes two selected columns the same one: of the table only its key counts. -/
structure Selected.Identity where
  table : TableKey
  column : String
  label : Option String
  function : Option AggregateFunction
deriving DecidableEq

namespace Selected

def identity (selected : Selected) : Selected.Identity :=
  ⟨selected.table.key, selected.column, selected.label, selected.function⟩

/-- The column without its label and function, as the grouping clause has it. -/
def source (selected : Selected) : ColumnRef := ⟨selected.table.name, selected.column⟩

def output (selected : Selected) : OutputColumn :=
  ⟨selected.source, selected.function, selected.label⟩

end Selected

structure Query where
  selected : List Selected
  tables : List Table
  caseSensitive : Bool
  forceGrouping : Bool
deriving DecidableEq

namespace Query

def empty : Query := ⟨[], [], false, false⟩

def setCaseSensitive (query : Query) (on : Bool) : Query := { query with caseSensitive := on }

def setForceGrouping (query : Query) (on : Bool) : Query := { query with forceGrouping := on }

/-- Register a table; one with a key that is registered already is left out. -/
def addTable (query : Query) (table : Table) : Query :=
  { query with tables := Distinct.insert Table.key query.tables table }

/-- Select a column, unless the same one is selected already, and register its table. -/
def select (query : Query) (selected : Selected) : Query :=
  { query with selected := Distinct.insert Selected.identity query.selected selected }.addTable
    selected.table

/-- The first table ever registered. -/
def root? (query : Query) : Option Table := query.tables.head?

/-- The joins that the root's foreign keys give to one table. -/
def joinsTo (root table : Table) : Except QueryError (List Join) :=
  (root.references table).mapM fun edge =>
    match table.primaryKey with
    | none => .error (.missingPrimaryKey table.name)
    | some primaryKey => .ok ⟨table.name, primaryKey, edge.column⟩

/-- The columns to group by: those not aggregated, where grouping is due. -/
def grouping (query : Query) : List ColumnRef :=
  if query.forceGrouping || query.selected.any (·.function.isSome) then
    (query.selected.filter (·.function.isNone)).map Selected.source
  else []

def statement (query : Query) : Except QueryError Statement :=
  match query.tables with
  | [] => .error .noTables
  | root :: others => do
    let joins ← others.mapM (joinsTo root)
    return ⟨query.selected.map Selected.output, root.name, joins.flatten, query.grouping⟩

/-- The text of the query's statement in the query's quoting mode. -/
def sql (query : Query) : Except QueryError String :=
  query.statement.map (Statement.text query.caseSensitive)

end Query

end StarReport.Sql
