import StarReport.Proofs.Report.Membership

/-!
The order in which a report is put together. Members are offered and the mode is set in any order.
What is selected of each kind are the first occurrences of what was accepted of it, and the text is
made from these two lists, the fact and the mode that was set last. In a request as well, a name that
comes again changes nothing.
-/

set_option autoImplicit false
set_option relaxedAutoImplicit false

namespace StarReport.Report

open StarReport.Star (Dimension Measure)

/-! ### Calls on a report -/

/-- What can be done to a report: offer it a member, or set its mode. -/
inductive Call where
  | offer (candidate : Candidate)
  | setCase (on : Bool)

namespace Candidate

def dimension? : Candidate → Option Dimension
  | dimension d => some d
  | measure _ => none

def measure? : Candidate → Option Measure
  | dimension _ => none
  | measure m => some m

end Candidate

namespace Call

def candidate? : Call → Option Candidate
  | offer candidate => some candidate
  | setCase _ => none

def case? : Call → Option Bool
  | offer _ => none
  | setCase on => some on

/-- The mode that was set last; at first case does not matter. -/
def lastCase (calls : List Call) : Bool := (calls.filterMap case?).getLast?.getD false

/-- The members offered, accepted or not, in order. -/
def offered (calls : List Call) : List Candidate := calls.filterMap candidate?

theorem offered_offer (candidate : Candidate) (calls : List Call) :
    offered (.offer candidate :: calls) = candidate :: offered calls := rfl

end Call

open Call (lastCase offered offered_offer)

namespace Selection

variable {selection : Selection}

def apply (selection : Selection) : Call → Selection
  | .offer candidate => (selection.add candidate).2
  | .setCase on => selection.setCaseSensitive on

def after (selection : Selection) (calls : List Call) : Selection := calls.foldl apply selection

/-- The members that are accepted, each by the report as it is when the member is offered. -/
def accepted (selection : Selection) : List Call → List Candidate
  | [] => []
  | .offer candidate :: rest =>
    if (selection.add candidate).1 = .ok () then
      candidate :: accepted (selection.apply (.offer candidate)) rest
    else accepted (selection.apply (.offer candidate)) rest
  | .setCase on :: rest => accepted (selection.apply (.setCase on)) rest

/-- A call that is refused leaves the report as it was. -/
theorem add_of_refused {candidate : Candidate} (refused : (selection.add candidate).1 ≠ .ok ()) :
    (selection.add candidate).2 = selection :=
  (refuses_of_other (mt taken_iff.mpr refused)).unchanged

theorem apply_of_owner {candidate : Candidate} (owned : candidate.owner = some selection.star.id) :
    selection.apply (.offer candidate) = selection.insert candidate := by
  rw [apply, add_of_owner owned]

theorem apply_of_other {candidate : Candidate} (other : candidate.owner ≠ some selection.star.id) :
    selection.apply (.offer candidate) = selection := by
  rw [apply, add_of_other other]

theorem star_apply (call : Call) : (selection.apply call).star = selection.star := by
  cases call with
  | setCase on => rfl
  | offer candidate =>
    by_cases owned : candidate.owner = some selection.star.id
    · rw [apply_of_owner owned]
      cases candidate <;> rfl
    · rw [apply_of_other owned]

/-- What is accepted does not depend on what was selected before, but on the owner alone. -/
theorem accepted_eq (selection : Selection) (calls : List Call) : selection.accepted calls =
    (offered calls).filter (·.owner = some selection.star.id) := by
  induction calls generalizing selection with
  | nil => rfl
  | cons call calls ih =>
    cases call with
    | setCase on => exact ih _
    | offer candidate =>
      rw [accepted, ih, star_apply, offered_offer, List.filter_cons]
      simp only [taken_iff, decide_eq_true_eq]

/-! ### What is selected -/

/-- A report after any calls, from the members accepted and the mode set last. -/
theorem after_eq (selection : Selection) (calls : List Call) : selection.after calls =
    ⟨selection.star,
      ((selection.accepted calls).filterMap Candidate.dimension?).foldl
        (Distinct.insert Dimension.identity) selection.dimensions,
      ((selection.accepted calls).filterMap Candidate.measure?).foldl
        (Distinct.insert Measure.identity) selection.measures,
      (calls.filterMap Call.case?).getLast?.getD selection.caseSensitive⟩ := by
  rw [accepted_eq]
  induction calls generalizing selection with
  | nil => rfl
  | cons call calls ih =>
    refine (ih (selection.apply call)).trans ?_
    rw [star_apply]
    cases call with
    | setCase on =>
      have last : (on :: calls.filterMap Call.case?).getLast?.getD selection.caseSensitive =
          (calls.filterMap Call.case?).getLast?.getD on := by
        rw [List.getLast?_cons, Option.getD_some]
      exact congrArg (Selection.mk _ _ _) last.symm
    | offer candidate =>
      rw [offered_offer, List.filter_cons]
      by_cases owned : candidate.owner = some selection.star.id
      · rw [apply_of_owner owned, if_pos (decide_eq_true owned)]
        cases candidate <;> rfl
      · rw [apply_of_other owned, if_neg (by simpa using owned)]
        rfl

theorem star_after (selection : Selection) (calls : List Call) :
    (selection.after calls).star = selection.star := by
  rw [after_eq]

theorem dimensions_after (star : Star) (calls : List Call) :
    ((Selection.of star).after calls).dimensions = Distinct.firsts Dimension.identity
      (((Selection.of star).accepted calls).filterMap Candidate.dimension?) := by
  rw [after_eq, ← Distinct.ofList_eq_firsts]
  rfl

theorem measures_after (star : Star) (calls : List Call) :
    ((Selection.of star).after calls).measures = Distinct.firsts Measure.identity
      (((Selection.of star).accepted calls).filterMap Candidate.measure?) := by
  rw [after_eq, ← Distinct.ofList_eq_firsts]
  rfl

theorem caseSensitive_after (star : Star) (calls : List Call) :
    ((Selection.of star).after calls).caseSensitive = lastCase calls := by
  rw [after_eq]
  rfl

/-- What is accepted of one kind follows from what is offered of it. -/
private theorem filterMap_accepted {α : Type} {kind : Candidate → Option α} {owned : α → Bool}
    (owner : ∀ candidate x, kind candidate = some x →
      decide (candidate.owner = some selection.star.id) = owned x) (calls : List Call) :
    (selection.accepted calls).filterMap kind =
      ((offered calls).filterMap kind).filter owned := by
  rw [accepted_eq, List.filter_filterMap, List.filterMap_filter]
  refine List.filterMap_congr fun candidate _ => ?_
  cases picked : kind candidate with
  | none => simp
  | some x => simp [owner candidate x picked, Option.filter]

theorem accepted_dimensions (calls : List Call) :
    (selection.accepted calls).filterMap Candidate.dimension? =
      ((offered calls).filterMap Candidate.dimension?).filter
        (·.owner = some selection.star.id) := by
  refine filterMap_accepted (fun candidate dimension picked => ?_) calls
  cases candidate with
  | dimension _ =>
    cases picked
    rfl
  | measure _ => cases picked

theorem accepted_measures (calls : List Call) :
    (selection.accepted calls).filterMap Candidate.measure? =
      ((offered calls).filterMap Candidate.measure?).filter
        (·.owner = some selection.star.id) := by
  refine filterMap_accepted (fun candidate measure picked => ?_) calls
  cases candidate with
  | dimension _ => cases picked
  | measure _ =>
    cases picked
    rfl

/-- The text follows from the fact, the identities of what is selected and the mode. -/
theorem sql_congr {selection selection' : Selection}
    (fact : selection'.star.fact = selection.star.fact)
    (dimensions : selection'.dimensions.map Dimension.identity =
      selection.dimensions.map Dimension.identity)
    (measures : selection'.measures.map Measure.identity =
      selection.measures.map Measure.identity)
    (mode : selection'.caseSensitive = selection.caseSensitive) :
    selection'.sql = selection.sql := by
  have statement : selection'.query.statement = selection.query.statement := by
    refine statement_congr (congrArg Warehouse.Table.key fact) dimensions measures fun table _ _ => ?_
    rw [fact]
  rw [sql_eq, sql_eq, statement, mode]

/-! ### Names that come again -/

theorem Holds.insert {candidate : Candidate} (holds : selection.Holds candidate)
    (other : Candidate) : (selection.insert other).Holds candidate := by
  cases candidate <;> cases other <;>
    first | exact holds | exact Distinct.mem_map_insert.mpr (.inl holds)

theorem Holds.insert_eq {candidate : Candidate} (holds : selection.Holds candidate) :
    selection.insert candidate = selection := by
  cases candidate <;> rw [Selection.insert, Distinct.insert_of_mem holds]

theorem addDimensionNamed_ok {selection' : Selection} {name : String} :
    selection.addDimensionNamed name = .ok selection' ↔ ∃ candidate,
      (selection.star.dimension? name).map Candidate.dimension = some candidate ∧
        candidate.owner = some selection.star.id ∧ selection.insert candidate = selection' := by
  unfold addDimensionNamed
  cases selection.star.dimension? name with
  | none => simp
  | some dimension =>
    rw [FirstFailure.mapError_ok, Refusable.proceed_ok, addDimension]
    by_cases owned : dimension.owner = some selection.star.id <;>
      simp [owned, insert, Candidate.owner]

theorem addMeasureNamed_ok {selection' : Selection} {name : String} :
    selection.addMeasureNamed name = .ok selection' ↔ ∃ candidate,
      (selection.star.measure? name).map Candidate.measure = some candidate ∧
        candidate.owner = some selection.star.id ∧ selection.insert candidate = selection' := by
  unfold addMeasureNamed
  cases selection.star.measure? name with
  | none => simp
  | some measure =>
    rw [FirstFailure.mapError_ok, Refusable.proceed_ok, addMeasure]
    by_cases owned : measure.owner = some selection.star.id <;>
      simp [owned, insert, Candidate.owner]

/-- Selecting by name comes to the same without the names that come again, if it inserts the member
that the star has under the name and owns. -/
theorem foldlM_named_eraseDups {select : Selection → String → Except BindingError Selection}
    (find : Star → String → Option Candidate)
    (select_ok : ∀ {selection name selection'}, select selection name = .ok selection' ↔
      ∃ candidate, find selection.star name = some candidate ∧
        candidate.owner = some selection.star.id ∧ selection.insert candidate = selection')
    (names : List String) (selection : Selection) :
    names.eraseDups.foldlM select selection = names.foldlM select selection := by
  have star_insert (selection : Selection) (candidate : Candidate) :
      (selection.insert candidate).star = selection.star := by
    cases candidate <;> rfl
  -- A name is settled once the member that it stands for is selected.
  refine FirstFailure.foldlM_eraseDups (fun selection name => ∃ candidate,
    find selection.star name = some candidate ∧ candidate.owner = some selection.star.id ∧
      selection.Holds candidate) ?_ ?_ ?_ names selection
  · intro selection name selection' taken
    obtain ⟨candidate, found, owned, rfl⟩ := select_ok.mp taken
    rw [star_insert]
    exact ⟨candidate, found, owned, selection.holds_insert candidate⟩
  · rintro name selection other selection' ⟨candidate, found, owned, holds⟩ taken
    obtain ⟨_, _, _, rfl⟩ := select_ok.mp taken
    rw [star_insert]
    exact ⟨candidate, found, owned, holds.insert _⟩
  · rintro selection name ⟨candidate, found, owned, holds⟩
    exact select_ok.mpr ⟨candidate, found, owned, holds.insert_eq⟩

theorem foldlM_dimensions_eraseDups (names : List String) (selection : Selection) :
    names.eraseDups.foldlM addDimensionNamed selection =
      names.foldlM addDimensionNamed selection :=
  foldlM_named_eraseDups (fun star name => (star.dimension? name).map .dimension)
    addDimensionNamed_ok names selection

theorem foldlM_measures_eraseDups (names : List String) (selection : Selection) :
    names.eraseDups.foldlM addMeasureNamed selection = names.foldlM addMeasureNamed selection :=
  foldlM_named_eraseDups (fun star name => (star.measure? name).map .measure)
    addMeasureNamed_ok names selection

end Selection

namespace Request

variable (request : Request) (star : Star) (options : Options)

private theorem isEmpty_eraseDups (names : List String) :
    names.eraseDups.isEmpty = names.isEmpty := by
  cases names with
  | nil => rfl
  | cons name names => rw [List.eraseDups_cons, List.isEmpty_cons, List.isEmpty_cons]

theorem bind_dimensions_eraseDups :
    (⟨request.dimensions.eraseDups, request.measures⟩ : Request).bind star options =
      request.bind star options := by
  rw [bind_eq, bind_eq, isEmpty, isEmpty, isEmpty_eraseDups, select, select,
    Selection.foldlM_dimensions_eraseDups]

theorem bind_measures_eraseDups :
    (⟨request.dimensions, request.measures.eraseDups⟩ : Request).bind star options =
      request.bind star options := by
  have selected : (⟨request.dimensions, request.measures.eraseDups⟩ : Request).select star
      options.caseSensitive = request.select star options.caseSensitive :=
    bind_congr (Selection.foldlM_measures_eraseDups request.measures)
  rw [bind_eq, bind_eq, isEmpty, isEmpty, isEmpty_eraseDups, selected]

end Request

/-- Whatever members are offered to a report, in whatever order and however often, it selects the
first occurrences of those of each kind that it accepts. A refused member changes nothing, and the
text depends on the two lists, the fact and the mode set last, so the calls of one kind may come
before, after or between those of the other. Nor do names that come again in a request matter. -/
theorem selection_of_calls (star : Star) (calls : List Call) :
    let report := (Selection.of star).after calls
    let taken := (Selection.of star).accepted calls
    report.dimensions =
      Distinct.firsts Dimension.identity (taken.filterMap Candidate.dimension?) ∧
    report.measures = Distinct.firsts Measure.identity (taken.filterMap Candidate.measure?) ∧
    (∀ candidate, (report.add candidate).1 = .ok () ↔ candidate.owner = some star.id) ∧
    (∀ candidate, (report.add candidate).1 ≠ .ok () → (report.add candidate).2 = report) ∧
    (∀ star' calls',
      let report' := (Selection.of star').after calls'
      report'.dimensions.map Dimension.identity = report.dimensions.map Dimension.identity →
      report'.measures.map Measure.identity = report.measures.map Measure.identity →
      star'.fact = star.fact → lastCase calls' = lastCase calls → report'.sql = report.sql) ∧
    (∀ calls',
      (offered calls').filterMap Candidate.dimension? =
        (offered calls).filterMap Candidate.dimension? →
      (offered calls').filterMap Candidate.measure? =
        (offered calls).filterMap Candidate.measure? →
      lastCase calls' = lastCase calls →
        ((Selection.of star).after calls').sql = report.sql) ∧
    ∀ (request : Request) (options : Options),
      (⟨request.dimensions.eraseDups, request.measures⟩ : Request).bind star options =
        request.bind star options ∧
      (⟨request.dimensions, request.measures.eraseDups⟩ : Request).bind star options =
        request.bind star options := by
  intro report taken
  have bound : report.star = star := Selection.star_after _ calls
  refine ⟨Selection.dimensions_after star calls, Selection.measures_after star calls, ?_, ?_, ?_,
    ?_, ?_⟩
  · intro candidate
    rw [Selection.taken_iff, bound]
  · exact fun candidate refused => Selection.add_of_refused refused
  · intro star' calls' report' sameDimensions sameMeasures fact last
    refine Selection.sql_congr ?_ sameDimensions sameMeasures ?_
    · rw [bound, Selection.star_after]
      exact fact
    · rw [Selection.caseSensitive_after, Selection.caseSensitive_after, last]
  · intro calls' offeredDimensions offeredMeasures last
    refine Selection.sql_congr ?_ ?_ ?_ ?_
    · rw [bound, Selection.star_after]
      rfl
    · rw [Selection.dimensions_after, Selection.dimensions_after, Selection.accepted_dimensions,
        Selection.accepted_dimensions, offeredDimensions]
    · rw [Selection.measures_after, Selection.measures_after, Selection.accepted_measures,
        Selection.accepted_measures, offeredMeasures]
    · rw [Selection.caseSensitive_after, Selection.caseSensitive_after, last]
  · exact fun request options => ⟨request.bind_dimensions_eraseDups star options,
      request.bind_measures_eraseDups star options⟩

end StarReport.Report
