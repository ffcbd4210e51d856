import StarReport.Star.Member

/-!
A star: a fact table and the members reported over it. Adding a member skips one whose identity is
present; setting a whole collection takes it as given. Either way the star owns what it holds. A
copy of a star is a star of its own, with its own identity and its own members.
-/

set_option autoImplicit false
set_option relaxedAutoImplicit false

namespace StarReport

open StarReport.Star Warehouse

structure Star where
  id : StarId
  fact : Table
  dimensions : List Dimension
  metrics : List Metric
  measures : List Measure
deriving DecidableEq

namespace Star

def ofFact (id : StarId) (fact : Table) : Star := ⟨id, fact, [], [], []⟩

def setFact (star : Star) (fact : Table) : Star := { star with fact := fact }

def dimension? (star : Star) (name : String) : Option Dimension :=
  star.dimensions.find? (·.name = name)

def measure? (star : Star) (name : String) : Option Measure :=
  star.measures.find? (·.name = name)

def holds (star : Star) : Member → Bool
  | .dimension dimension => dimension.identity ∈ star.dimensions.map Dimension.identity
  | .metric metric => metric.identity ∈ star.metrics.map Metric.identity
  | .measure measure => measure.identity ∈ star.measures.map Measure.identity

def addDimension (star : Star) (dimension : Dimension) : Star :=
  { star with dimensions :=
      Distinct.insert Dimension.identity star.dimensions (dimension.own star.id) }

def addMetric (star : Star) (metric : Metric) : Star :=
  { star with metrics := Distinct.insert Metric.identity star.metrics (metric.own star.id) }

def addMeasure (star : Star) (measure : Measure) : Star :=
  { star with measures := Distinct.insert Measure.identity star.measures (measure.own star.id) }

/-- Adopt a member of any kind, unless the star holds its like. -/
def add (star : Star) : Member → Star
  | .dimension dimension => star.addDimension dimension
  | .metric metric => star.addMetric metric
  | .measure measure => star.addMeasure measure

def setDimensions (star : Star) (dimensions : List Dimension) : Star :=
  { star with dimensions := dimensions.map (Dimension.own star.id) }

def setMetrics (star : Star) (metrics : List Metric) : Star :=
  { star with metrics := metrics.map (Metric.own star.id) }

def setMeasures (star : Star) (measures : List Measure) : Star :=
  { star with measures := measures.map (Measure.own star.id) }

/-- A star under a new identity that owns copies of the members. -/
def copy (star : Star) (id : StarId) : Star :=
  (((ofFact id star.fact).setDimensions star.dimensions).setMetrics star.metrics).setMeasures
    star.measures

end Star

end StarReport
