import StarReport.Star.Aggregate
import StarReport.Warehouse.Table

/-!
What a star offers to reports: dimensions to group by, metrics to aggregate, and measures, which
are named aggregations of metrics. A member carries the star that adopted it. Two members are the
same when their identities agree; the owner is no part of an identity, and of a table only its
key is.
-/

set_option autoImplicit false
set_option relaxedAutoImplicit false

namespace StarReport.Star

open Warehouse (Table TableKey)

/-- The identity that tells one star from another. -/
structure StarId where
  serial : Nat
deriving DecidableEq

/-- A named grouping column. -/
structure Dimension where
  name : String
  table : Table
  column : String
  owner : Option StarId
deriving DecidableEq

/-- A column that may be aggregated. -/
structure Metric where
  table : Table
  column : String
  owner : Option StarId
deriving DecidableEq

/-- A named aggregation of a metric. -/
structure Measure where
  name : String
  metric : Metric
  function : AggregateFunction
deriving DecidableEq

structure Dimension.Identity where
  name : String
  table : TableKey
  column : String
deriving DecidableEq

structure Metric.Identity where
  table : TableKey
  column : String
deriving DecidableEq

structure Measure.Identity where
  name : String
  metric : Metric.Identity
  function : AggregateFunction
deriving DecidableEq

def Dimension.identity (dimension : Dimension) : Dimension.Identity :=
  ⟨dimension.name, dimension.table.key, dimension.column⟩

def Metric.identity (metric : Metric) : Metric.Identity :=
  ⟨metric.table.key, metric.column⟩

def Measure.identity (measure : Measure) : Measure.Identity :=
  ⟨measure.name, measure.metric.identity, measure.function⟩

/-- The owner of a measure is the owner of its metric. -/
def Measure.owner (measure : Measure) : Option StarId := measure.metric.owner

def Dimension.own (star : StarId) (dimension : Dimension) : Dimension :=
  { dimension with owner := some star }

def Metric.own (star : StarId) (metric : Metric) : Metric :=
  { metric with owner := some star }

/-- Adopting a measure adopts its metric. -/
def Measure.own (star : StarId) (measure : Measure) : Measure :=
  { measure with metric := measure.metric.own star }

inductive Member where
  | dimension (dimension : Dimension)
  | metric (metric : Metric)
  | measure (measure : Measure)
deriving DecidableEq

def Member.owner : Member → Option StarId
  | .dimension d => d.owner
  | .metric m => m.owner
  | .measure m => m.owner

/-- Whether two members are of one kind and have the same identity. -/
def Member.same : Member → Member → Bool
  | .dimension a, .dimension b => a.identity = b.identity
  | .metric a, .metric b => a.identity = b.identity
  | .measure a, .measure b => a.identity = b.identity
  | _, _ => false

@[simp] theorem Dimension.identity_own (star : StarId) (dimension : Dimension) :
    (dimension.own star).identity = dimension.identity := rfl

@[simp] theorem Metric.identity_own (star : StarId) (metric : Metric) :
    (metric.own star).identity = metric.identity := rfl

@[simp] theorem Measure.identity_own (star : StarId) (measure : Measure) :
    (measure.own star).identity = measure.identity := rfl

end StarReport.Star
