import StarReport.Star.Aggregate

/-!
Schema documents: what a file says about a database, its tables and foreign keys, and the star over
them. Tables are named, and nothing here says that a named table is declared.
-/

set_option autoImplicit false
set_option relaxedAutoImplicit false

namespace StarReport

open StarReport.Star (AggregateFunction)

namespace Document

/-- A foreign key of the table it stands under. -/
structure ForeignKeyEntry where
  column : String
  target : String
deriving DecidableEq

structure TableEntry where
  name : String
  primaryKey : Option String
  foreignKeys : List ForeignKeyEntry
deriving DecidableEq

structure DimensionEntry where
  name : String
  table : String
  column : String
deriving DecidableEq

structure MetricEntry where
  table : String
  column : String
deriving DecidableEq

structure MeasureEntry where
  name : String
  function : AggregateFunction
  table : String
  column : String
deriving DecidableEq

structure StarEntry where
  fact : String
  dimensions : List DimensionEntry
  metrics : List MetricEntry
  measures : List MeasureEntry
deriving DecidableEq

end Document

structure Document where
  database : String
  tables : List Document.TableEntry
  star : Document.StarEntry
deriving DecidableEq

end StarReport
