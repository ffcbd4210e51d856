import StarReport.Proofs.FirstOccurrences
import StarReport.Star.Basic

/-!
Ownership of members. Whatever is done to a star, it owns every member that it holds: an added member
is adopted before it is kept, and a replaced collection is adopted as a whole.
-/

set_option autoImplicit false
set_option relaxedAutoImplicit false

namespace StarReport.Star

open Warehouse (Table)

/-- The stars that come out of the operations on stars, in any order and number. -/
inductive Reached : Star → Prop
  | ofFact (id : StarId) (fact : Table) : Reached (ofFact id fact)
  | copy {star : Star} (id : StarId) : Reached star → Reached (star.copy id)
  | setFact {star : Star} (fact : Table) : Reached star → Reached (star.setFact fact)
  | add {star : Star} (member : Member) : Reached star → Reached (star.add member)
  | setDimensions {star : Star} (dimensions : List Dimension) :
      Reached star → Reached (star.setDimensions dimensions)
  | setMetrics {star : Star} (metrics : List Metric) :
      Reached star → Reached (star.setMetrics metrics)
  | setMeasures {star : Star} (measures : List Measure) :
      Reached star → Reached (star.setMeasures measures)

/-- A star owns every member that it holds. -/
structure Owns (star : Star) : Prop where
  dimensions : ∀ dimension ∈ star.dimensions, dimension.owner = some star.id
  metrics : ∀ metric ∈ star.metrics, metric.owner = some star.id
  measures : ∀ measure ∈ star.measures, measure.owner = some star.id

namespace Owns

variable {star : Star}

theorem ofFact (id : StarId) (fact : Table) : (Star.ofFact id fact).Owns := by
  constructor <;> simp [Star.ofFact]

theorem setFact (owns : star.Owns) (fact : Table) : (star.setFact fact).Owns :=
  ⟨owns.dimensions, owns.metrics, owns.measures⟩

theorem addDimension (owns : star.Owns) (dimension : Dimension) :
    (star.addDimension dimension).Owns := by
  refine ⟨fun d member => ?_, owns.metrics, owns.measures⟩
  rcases Distinct.mem_of_mem_insert member with held | rfl
  · exact owns.dimensions d held
  · rfl

theorem addMetric (owns : star.Owns) (metric : Metric) : (star.addMetric metric).Owns := by
  refine ⟨owns.dimensions, fun m member => ?_, owns.measures⟩
  rcases Distinct.mem_of_mem_insert member with held | rfl
  · exact owns.metrics m held
  · rfl

theorem addMeasure (owns : star.Owns) (measure : Measure) : (star.addMeasure measure).Owns := by
  refine ⟨owns.dimensions, owns.metrics, fun m member => ?_⟩
  rcases Distinct.mem_of_mem_insert member with held | rfl
  · exact owns.measures m held
  · rfl

theorem add (owns : star.Owns) (member : Member) : (star.add member).Owns := by
  cases member with
  | dimension dimension => exact owns.addDimension dimension
  | metric metric => exact owns.addMetric metric
  | measure measure => exact owns.addMeasure measure

theorem setDimensions (owns : star.Owns) (dimensions : List Dimension) :
    (star.setDimensions dimensions).Owns := by
  refine ⟨fun d member => ?_, owns.metrics, owns.measures⟩
  obtain ⟨given, _, rfl⟩ := List.mem_map.mp member
  rfl

theorem setMetrics (owns : star.Owns) (metrics : List Metric) : (star.setMetrics metrics).Owns := by
  refine ⟨owns.dimensions, fun m member => ?_, owns.measures⟩
  obtain ⟨given, _, rfl⟩ := List.mem_map.mp member
  rfl

theorem setMeasures (owns : star.Owns) (measures : List Measure) :
    (star.setMeasures measures).Owns := by
  refine ⟨owns.dimensions, owns.metrics, fun m member => ?_⟩
  obtain ⟨given, _, rfl⟩ := List.mem_map.mp member
  rfl

end Owns

/-- A copy owns its members whoever owned those of the star it was made from. -/
theorem owns_copy (star : Star) (id : StarId) : (star.copy id).Owns :=
  (((Owns.ofFact id star.fact).setDimensions star.dimensions).setMetrics star.metrics).setMeasures
    star.measures

theorem Reached.owns {star : Star} (reached : star.Reached) : star.Owns := by
  induction reached with
  | ofFact id fact => exact .ofFact id fact
  | @copy star id _ _ => exact owns_copy star id
  | setFact fact _ owns => exact owns.setFact fact
  | add member _ owns => exact owns.add member
  | setDimensions dimensions _ owns => exact owns.setDimensions dimensions
  | setMetrics metrics _ owns => exact owns.setMetrics metrics
  | setMeasures measures _ owns => exact owns.setMeasures measures

theorem mem_of_dimension? {star : Star} {name : String} {dimension : Dimension}
    (found : star.dimension? name = some dimension) :
    dimension ∈ star.dimensions ∧ dimension.name = name :=
  ⟨List.mem_of_find?_eq_some found, by simpa using List.find?_some found⟩

theorem mem_of_measure? {star : Star} {name : String} {measure : Measure}
    (found : star.measure? name = some measure) :
    measure ∈ star.measures ∧ measure.name = name :=
  ⟨List.mem_of_find?_eq_some found, by simpa using List.find?_some found⟩

theorem dimension?_isSome {star : Star} {name : String} :
    (star.dimension? name).isSome ↔ name ∈ star.dimensions.map Dimension.name := by
  simp [dimension?]

theorem measure?_isSome {star : Star} {name : String} :
    (star.measure? name).isSome ↔ name ∈ star.measures.map Measure.name := by
  simp [measure?]

theorem dimension?_isNone (star : Star) (name : String) :
    (star.dimension? name).isNone = decide (name ∉ star.dimensions.map Dimension.name) := by
  rw [dimension?, Bool.eq_iff_iff]
  simp

theorem measure?_isNone (star : Star) (name : String) :
    (star.measure? name).isNone = decide (name ∉ star.measures.map Measure.name) := by
  rw [measure?, Bool.eq_iff_iff]
  simp

end StarReport.Star
