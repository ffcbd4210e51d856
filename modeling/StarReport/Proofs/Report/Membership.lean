import StarReport.Proofs.FirstOccurrences
import StarReport.Proofs.Report.Congruence
import StarReport.Proofs.Star.Population
import StarReport.Report.Listing

/-!
Membership in reports. A report takes the members that its star holds and refuses those that no star
owns and those that were taken out of another star, at whatever time. A copy of a star is another
star in this, but gives the listing and the answers of the star it was made from.
-/

set_option autoImplicit false
set_option relaxedAutoImplicit false

namespace StarReport.Report

open StarReport.Star (Dimension Measure Operation StarId populate)
open Warehouse (Table)

/-! ### Copies -/

section

variable (star : Star) (id : StarId)

theorem listing_copy : listing (star.copy id) = listing star := by
  change (star.dimensions.map (Dimension.own id)).map _ ++
    (star.measures.map (Measure.own id)).map _ = _
  rw [List.map_map, List.map_map]
  rfl

private theorem dimension?_copy (name : String) :
    (star.copy id).dimension? name = (star.dimension? name).map (Dimension.own id) := by
  change (star.dimensions.map (Dimension.own id)).find? _ = _
  rw [List.find?_map]
  rfl

private theorem measure?_copy (name : String) :
    (star.copy id).measure? name = (star.measure? name).map (Measure.own id) := by
  change (star.measures.map (Measure.own id)).find? _ = _
  rw [List.find?_map]
  rfl

/-- A request finds in a copy what it finds in the star. -/
theorem Request.alike_copy (request : Request) : request.Alike star (star.copy id) := by
  have dimensionNames : (star.copy id).dimensions.map Dimension.name =
      star.dimensions.map Dimension.name := by
    change (star.dimensions.map (Dimension.own id)).map _ = _
    rw [List.map_map]
    rfl
  have measureNames : (star.copy id).measures.map Measure.name =
      star.measures.map Measure.name := by
    change (star.measures.map (Measure.own id)).map _ = _
    rw [List.map_map]
    rfl
  refine ⟨?_, ?_, rfl, ?_, ?_, fun _ _ => rfl⟩
  · rw [unknownDimension?, unknownDimension?, dimensionNames]
  · rw [unknownMeasure?, unknownMeasure?, measureNames]
  · rw [dimensionsIn, dimensionsIn, List.map_filterMap, List.map_filterMap]
    refine List.filterMap_congr fun name _ => ?_
    rw [dimension?_copy, Option.map_map]
    rfl
  · rw [measuresIn, measuresIn, List.map_filterMap, List.map_filterMap]
    refine List.filterMap_congr fun name _ => ?_
    rw [measure?_copy, Option.map_map]
    rfl

theorem bind_copy {star : Star} (owns : star.Owns) (request : Request) (options : Options) :
    request.bind (star.copy id) options = request.bind star options :=
  (request.alike_copy star id).bind_eq owns (Star.owns_copy star id) options

end

/-! ### Calls -/

/-- A member that a report can be asked to take. -/
inductive Candidate where
  | dimension (dimension : Dimension)
  | measure (measure : Measure)
deriving DecidableEq

namespace Candidate

def kind : Candidate → MemberKind
  | dimension _ => .dimension
  | measure _ => .measure

def name : Candidate → String
  | dimension d => d.name
  | measure m => m.name

def owner : Candidate → Option StarId
  | dimension d => d.owner
  | measure m => m.owner

end Candidate

/-- The dimensions and measures that a star holds. -/
def candidates (star : Star) : List Candidate :=
  star.dimensions.map .dimension ++ star.measures.map .measure

theorem owner_of_mem_candidates {star : Star} (owns : star.Owns) {candidate : Candidate}
    (held : candidate ∈ candidates star) : candidate.owner = some star.id := by
  rcases List.mem_append.mp held with member | member
  · obtain ⟨dimension, listed, rfl⟩ := List.mem_map.mp member
    exact owns.dimensions dimension listed
  · obtain ⟨measure, listed, rfl⟩ := List.mem_map.mp member
    exact owns.measures measure listed

namespace Selection

variable {selection : Selection} {candidate : Candidate}

/-- Offer a member to a report. -/
def add (selection : Selection) : Candidate → Refusable ReportError Selection
  | .dimension dimension => selection.addDimension dimension
  | .measure measure => selection.addMeasure measure

/-- The report with one more member, unless its like is selected. -/
def insert (selection : Selection) : Candidate → Selection
  | .dimension dimension => { selection with
      dimensions := Distinct.insert Dimension.identity selection.dimensions dimension }
  | .measure measure => { selection with
      measures := Distinct.insert Measure.identity selection.measures measure }

/-- The member or its like is selected. -/
def Holds (selection : Selection) : Candidate → Prop
  | .dimension dimension => dimension.identity ∈ selection.dimensions.map Dimension.identity
  | .measure measure => measure.identity ∈ selection.measures.map Measure.identity

theorem holds_insert (selection : Selection) (candidate : Candidate) :
    (selection.insert candidate).Holds candidate := by
  cases candidate <;> exact Distinct.mem_map_insert.mpr (.inr rfl)

/-- The report takes the member, which is selected afterwards. -/
structure Accepts (selection : Selection) (candidate : Candidate) : Prop where
  taken : (selection.add candidate).1 = .ok ()
  selected : (selection.add candidate).2.Holds candidate

/-- A refusal names the member and the star, and leaves the selection as it was. -/
structure Refuses (selection : Selection) (candidate : Candidate) : Prop where
  refused : (selection.add candidate).1 =
    .error (.membershipMismatch candidate.kind candidate.name selection.star.id)
  unchanged : (selection.add candidate).2 = selection

theorem add_of_owner (owned : candidate.owner = some selection.star.id) :
    selection.add candidate = (.ok (), selection.insert candidate) := by
  cases candidate <;> exact if_pos owned

theorem add_of_other (other : candidate.owner ≠ some selection.star.id) :
    selection.add candidate =
      (.error (.membershipMismatch candidate.kind candidate.name selection.star.id), selection) := by
  cases candidate <;> exact if_neg other

theorem accepts_of_owner (owned : candidate.owner = some selection.star.id) :
    selection.Accepts candidate := by
  refine ⟨?_, ?_⟩ <;> rw [add_of_owner owned]
  exact selection.holds_insert candidate

theorem refuses_of_other (other : candidate.owner ≠ some selection.star.id) :
    selection.Refuses candidate := by
  refine ⟨?_, ?_⟩ <;> rw [add_of_other other]

/-- A report asks of a member for nothing but its owner. -/
theorem taken_iff : (selection.add candidate).1 = .ok () ↔
    candidate.owner = some selection.star.id := by
  constructor
  · intro taken
    by_contra other
    rw [add_of_other other] at taken
    cases taken
  · exact fun owned => (accepts_of_owner owned).taken

end Selection

/-- At any time in the life of a population, every star owns what it holds, and only what is done to
the star itself changes it. A report on it takes the members that it holds, and refuses those that no
star owns and those that another star holds or once held. Its copies list and answer what it does. -/
theorem ownership_of_populate {operations : List Operation}
    (fresh : (operations.filterMap Operation.id?).Nodup) {place : Nat} {star : Star}
    (made : (populate operations)[place]? = some star) :
    star.Owns ∧
    (∀ operation : Operation, operation.changed? ≠ some place →
      (populate (operations ++ [operation]))[place]? = some star) ∧
    (∀ selection : Selection, selection.star = star →
      (∀ candidate ∈ candidates star, selection.Accepts candidate) ∧
      (∀ candidate : Candidate, candidate.owner = none → selection.Refuses candidate) ∧
      (∀ earlier later, operations = earlier ++ later → ∀ other star',
        (populate earlier)[other]? = some star' → other ≠ place →
        ∀ candidate ∈ candidates star', selection.Refuses candidate)) ∧
    (∀ id, listing (star.copy id) = listing star ∧ ∀ request options,
      Request.bind request (star.copy id) options = request.bind star options) := by
  have owns : star.Owns := (Star.reached_of_populate made).owns
  refine ⟨owns, fun operation apart => ?_, ?_, fun id => ⟨listing_copy star id, bind_copy id owns⟩⟩
  · rw [Star.populate_append]
    exact Operation.getElem?_apply apart made
  · rintro selection rfl
    refine ⟨fun candidate held => Selection.accepts_of_owner (owner_of_mem_candidates owns held),
      fun candidate unowned => Selection.refuses_of_other (by simp [unowned]), ?_⟩
    intro earlier later history other star' made' apart candidate held
    have owned := owner_of_mem_candidates (Star.reached_of_populate made').owns held
    have different := Star.id_ne_of_populate fresh made history made' apart
    refine Selection.refuses_of_other ?_
    rw [owned]
    exact fun same => different (Option.some.inj same)

private def city : Dimension := ⟨"City", .named "DimStore" (some "id"), "StoreCity", none⟩

/-- A star is copied after it adopted a dimension. -/
private def copied : List Operation :=
  [.new ⟨0⟩ (.named "FactSales" none), .change 0 (.add (.dimension city)), .copy 0 ⟨1⟩]

private def copiedStar : Star :=
  ⟨⟨1⟩, .named "FactSales" none, [city.own ⟨1⟩], [], []⟩

/-- A report on the copy takes the dimension of the copy and refuses that of the star that the copy
was made from. -/
theorem ownership_of_copied :
    (copied.filterMap Operation.id?).Nodup ∧ (populate copied)[1]? = some copiedStar ∧
      (Selection.of copiedStar).Accepts (.dimension (city.own ⟨1⟩)) ∧
      (Selection.of copiedStar).Refuses (.dimension (city.own ⟨0⟩)) := by
  have fresh : (copied.filterMap Operation.id?).Nodup := by decide
  have made : (populate copied)[1]? = some copiedStar := by decide
  have made' : (populate copied)[0]? =
      some ⟨⟨0⟩, .named "FactSales" none, [city.own ⟨0⟩], [], []⟩ := by decide
  obtain ⟨takes, _, refuses⟩ :=
    (ownership_of_populate fresh made).2.2.1 (Selection.of copiedStar) rfl
  exact ⟨fresh, made, takes _ (by decide),
    refuses copied [] (List.append_nil _).symm 0 _ made' (by decide) _ (by decide)⟩

end StarReport.Report
