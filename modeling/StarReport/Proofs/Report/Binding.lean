import StarReport.Proofs.Sql.Query
import StarReport.Proofs.Star.Ownership
import StarReport.Report.Binding

/-!
What binding a request to a star comes to. On a star that owns its members no selection is refused,
so a request fails for the first name that the star lacks, dimensions before measures, or else for
the first table it uses that the fact refers to and that has no primary key.
-/

set_option autoImplicit false
set_option relaxedAutoImplicit false

namespace StarReport.Report

open Sql (Query Selected)
open StarReport.Star (Dimension Measure)
open Warehouse (Table)

namespace Request

/-! ### One run -/

/-- Binding selects and then compiles, and stops at the first failure. -/
theorem bind_eq (request : Request) (star : Star) (options : Options) :
    request.bind star options =
      if request.isEmpty then .ok none
      else do
        let selection ← request.select star options.caseSensitive
        let sql ← selection.sql.mapError .report
        return some sql := by
  unfold bind run
  split
  · rfl
  · cases request.select star options.caseSensitive with
    | error cause => rfl
    | ok selection =>
      simp only [Bind.bind, Except.bind]
      cases selection.sql <;> rfl

/-- Whether statements are logged makes no difference to what a request comes to. -/
theorem bind_logQuery (request : Request) (star : Star) (caseSensitive logQuery other : Bool) :
    request.bind star ⟨caseSensitive, logQuery⟩ = request.bind star ⟨caseSensitive, other⟩ := by
  rw [bind_eq, bind_eq]

/-- Of a run nothing is written to the log but the statement that it comes to. -/
theorem log_eq (request : Request) (star : Star) (options : Options) :
    request.log star options =
      match request.bind star options with
      | .ok (some sql) => if options.logQuery then [sql] else []
      | _ => [] := by
  unfold log bind run
  split
  · rfl
  · cases request.select star options.caseSensitive with
    | error cause => rfl
    | ok selection =>
      simp only
      cases selection.sql <;> rfl

/-! ### What a request asks for -/

/-- The first dimension asked for that the star lacks. -/
def unknownDimension? (request : Request) (star : Star) : Option String :=
  request.dimensions.find? (· ∉ star.dimensions.map Dimension.name)

/-- The first measure asked for that the star lacks. -/
def unknownMeasure? (request : Request) (star : Star) : Option String :=
  request.measures.find? (· ∉ star.measures.map Measure.name)

def dimensionsIn (request : Request) (star : Star) : List Dimension :=
  request.dimensions.filterMap star.dimension?

def measuresIn (request : Request) (star : Star) : List Measure :=
  request.measures.filterMap star.measure?

/-- The tables of the members asked for, in order of use. -/
def tablesIn (request : Request) (star : Star) : List Table :=
  (request.dimensionsIn star).map Dimension.table ++
    (request.measuresIn star).map (·.metric.table)

/-- The first table that the members asked for use, other than the fact, that the fact refers to and
that has no primary key. -/
def unjoinable? (request : Request) (star : Star) : Option Table :=
  (request.tablesIn star).find? fun table =>
    table.key ≠ star.fact.key ∧ table.primaryKey = none ∧ star.fact.references table ≠ []

def selection (request : Request) (star : Star) (caseSensitive : Bool) : Selection :=
  ⟨star, Distinct.ofList Dimension.identity (request.dimensionsIn star),
    Distinct.ofList Measure.identity (request.measuresIn star), caseSensitive⟩

end Request

namespace Selection

private def withDimension (selection : Selection) (name : String) : Selection :=
  match selection.star.dimension? name with
  | none => selection
  | some dimension => { selection with
      dimensions := Distinct.insert Dimension.identity selection.dimensions dimension }

private def withMeasure (selection : Selection) (name : String) : Selection :=
  match selection.star.measure? name with
  | none => selection
  | some measure => { selection with
      measures := Distinct.insert Measure.identity selection.measures measure }

private theorem withDimension_star (selection : Selection) (name : String) :
    (selection.withDimension name).star = selection.star := by
  unfold withDimension
  split <;> rfl

private theorem withMeasure_star (selection : Selection) (name : String) :
    (selection.withMeasure name).star = selection.star := by
  unfold withMeasure
  split <;> rfl

private theorem addDimensionNamed_eq {selection : Selection} (owns : selection.star.Owns)
    (name : String) : selection.addDimensionNamed name =
      if name ∉ selection.star.dimensions.map Dimension.name then .error (.dimensionNotFound name)
      else .ok (selection.withDimension name) := by
  have lacking := selection.star.dimension?_isNone name
  unfold addDimensionNamed withDimension
  cases found : selection.star.dimension? name with
  | none =>
    rw [found] at lacking
    rw [if_pos (of_decide_eq_true lacking.symm)]
  | some dimension =>
    rw [found] at lacking
    have owned := owns.dimensions dimension (Star.mem_of_dimension? found).1
    rw [if_neg (of_decide_eq_false lacking.symm)]
    simp only [addDimension, if_pos owned]
    rfl

private theorem addMeasureNamed_eq {selection : Selection} (owns : selection.star.Owns)
    (name : String) : selection.addMeasureNamed name =
      if name ∉ selection.star.measures.map Measure.name then .error (.measureNotFound name)
      else .ok (selection.withMeasure name) := by
  have lacking := selection.star.measure?_isNone name
  unfold addMeasureNamed withMeasure
  cases found : selection.star.measure? name with
  | none =>
    rw [found] at lacking
    rw [if_pos (of_decide_eq_true lacking.symm)]
  | some measure =>
    rw [found] at lacking
    have owned := owns.measures measure (Star.mem_of_measure? found).1
    rw [if_neg (of_decide_eq_false lacking.symm)]
    simp only [addMeasure, if_pos owned]
    rfl

private theorem foldl_withDimension (selection : Selection) (names : List String) :
    names.foldl withDimension selection = { selection with
      dimensions := (names.filterMap selection.star.dimension?).foldl
        (Distinct.insert Dimension.identity) selection.dimensions } := by
  induction names generalizing selection with
  | nil => rfl
  | cons name names ih =>
    rw [List.foldl_cons, ih, withDimension_star, List.filterMap_cons]
    unfold withDimension
    cases selection.star.dimension? name <;> rfl

private theorem foldl_withMeasure (selection : Selection) (names : List String) :
    names.foldl withMeasure selection = { selection with
      measures := (names.filterMap selection.star.measure?).foldl
        (Distinct.insert Measure.identity) selection.measures } := by
  induction names generalizing selection with
  | nil => rfl
  | cons name names ih =>
    rw [List.foldl_cons, ih, withMeasure_star, List.filterMap_cons]
    unfold withMeasure
    cases selection.star.measure? name <;> rfl

/-- Selecting dimensions by name stops at the first name that the star lacks. -/
theorem foldlM_addDimensionNamed {selection : Selection} {star : Star}
    (bound : selection.star = star) (owns : star.Owns) (names : List String) :
    names.foldlM addDimensionNamed selection =
      match names.find? (· ∉ star.dimensions.map Dimension.name) with
      | some name => .error (.dimensionNotFound name)
      | none => .ok { selection with
          star := star
          dimensions := (names.filterMap star.dimension?).foldl
            (Distinct.insert Dimension.identity) selection.dimensions } := by
  have step (s : Selection) (name : String) (same : s.star = star) :
      s.addDimensionNamed name =
        if decide (name ∉ star.dimensions.map Dimension.name) then .error (.dimensionNotFound name)
        else .ok (s.withDimension name) := by
    subst same
    simp only [decide_eq_true_eq]
    exact addDimensionNamed_eq owns name
  have keeps (s : Selection) (name : String) (same : s.star = star) :
      (s.withDimension name).star = star :=
    (s.withDimension_star name).trans same
  rw [FirstFailure.foldlM_eq _ _ _ _ step keeps names bound, foldl_withDimension, bound]
  cases names.find? (· ∉ star.dimensions.map Dimension.name) with
  | some name => rfl
  | none => rfl

/-- Selecting measures by name stops at the first name that the star lacks. -/
theorem foldlM_addMeasureNamed {selection : Selection} {star : Star}
    (bound : selection.star = star) (owns : star.Owns) (names : List String) :
    names.foldlM addMeasureNamed selection =
      match names.find? (· ∉ star.measures.map Measure.name) with
      | some name => .error (.measureNotFound name)
      | none => .ok { selection with
          star := star
          measures := (names.filterMap star.measure?).foldl
            (Distinct.insert Measure.identity) selection.measures } := by
  have step (s : Selection) (name : String) (same : s.star = star) :
      s.addMeasureNamed name =
        if decide (name ∉ star.measures.map Measure.name) then .error (.measureNotFound name)
        else .ok (s.withMeasure name) := by
    subst same
    simp only [decide_eq_true_eq]
    exact addMeasureNamed_eq owns name
  have keeps (s : Selection) (name : String) (same : s.star = star) :
      (s.withMeasure name).star = star :=
    (s.withMeasure_star name).trans same
  rw [FirstFailure.foldlM_eq _ _ _ _ step keeps names bound, foldl_withMeasure, bound]
  cases names.find? (· ∉ star.measures.map Measure.name) with
  | some name => rfl
  | none => rfl

/-! ### The tables of a query -/

theorem query_tables (selection : Selection) :
    selection.query.tables =
      (selection.dimensions.map Dimension.table ++ selection.measures.map (·.metric.table)).foldl
        (Distinct.insert Table.key) [selection.star.fact] := by
  rw [query, Query.foldl_select_tables, List.map_append, List.map_map, List.map_map]
  rfl

theorem query_selected (selection : Selection) :
    selection.query.selected =
      Distinct.ofList Selected.identity
        (selection.dimensions.map dimensionColumn ++ selection.measures.map measureColumn) := by
  rw [query, Query.foldl_select_selected]
  rfl

theorem nodup_query_tables (selection : Selection) :
    (selection.query.tables.map Table.key).Nodup := by
  rw [query_tables]
  exact Distinct.nodup_foldl_insert (by simp) _

/-- The fact is the root, and every other table of the query differs from it by key. -/
theorem query_tables_eq_cons (selection : Selection) :
    ∃ others, selection.query.tables = selection.star.fact :: others ∧
      ∀ table ∈ others, table.key ≠ selection.star.fact.key := by
  have rooted : [selection.star.fact] <+: selection.query.tables := by
    rw [query_tables]
    exact Distinct.prefix_foldl_insert _ _
  obtain ⟨others, tables⟩ := rooted
  refine ⟨others, tables.symm, fun table member same => ?_⟩
  have nodup := selection.nodup_query_tables
  rw [← tables, List.singleton_append, List.map_cons, List.nodup_cons] at nodup
  exact nodup.1 (List.mem_map.mpr ⟨table, member, same⟩)

/-- Every selected column is one of a table of the query. -/
theorem key_mem_query_tables {selection : Selection} {column : Selected}
    (selected : column ∈ selection.query.selected) :
    column.table.key ∈ selection.query.tables.map Table.key := by
  rw [query_selected] at selected
  rw [query_tables, Distinct.mem_map_foldl_insert, List.map_append]
  refine .inr (List.mem_append.mpr ?_)
  rcases List.mem_append.mp (Distinct.mem_of_mem_ofList selected) with member | member
  · obtain ⟨dimension, held, rfl⟩ := List.mem_map.mp member
    exact .inl (List.mem_map_of_mem (List.mem_map_of_mem held))
  · obtain ⟨measure, held, rfl⟩ := List.mem_map.mp member
    exact .inr (List.mem_map_of_mem (List.mem_map_of_mem held))

end Selection

/-- The tables of a request's query are the fact and tables of the members asked for. -/
theorem Request.mem_query_tables {request : Request} {star : Star} {caseSensitive : Bool}
    {table : Table} (registered : table ∈ (request.selection star caseSensitive).query.tables) :
    table = star.fact ∨ table ∈ request.tablesIn star := by
  rw [Selection.query_tables] at registered
  rcases Distinct.mem_of_mem_foldl_insert registered with fact | used
  · exact .inl (List.mem_singleton.mp fact)
  · refine .inr (List.mem_append.mpr ?_)
    rcases List.mem_append.mp used with member | member
    · obtain ⟨dimension, held, rfl⟩ := List.mem_map.mp member
      exact .inl (List.mem_map_of_mem (Distinct.mem_of_mem_ofList held))
    · obtain ⟨measure, held, rfl⟩ := List.mem_map.mp member
      exact .inr (List.mem_map.mpr ⟨measure, Distinct.mem_of_mem_ofList held, rfl⟩)

/-- On a star that owns its members only an unknown name stops a selection. -/
theorem Request.select_eq (request : Request) {star : Star} (owns : star.Owns)
    (caseSensitive : Bool) : request.select star caseSensitive =
      match request.unknownDimension? star, request.unknownMeasure? star with
      | some name, _ => .error (.dimensionNotFound name)
      | none, some name => .error (.measureNotFound name)
      | none, none => .ok (request.selection star caseSensitive) := by
  unfold select unknownDimension? unknownMeasure?
  have bound : ((Selection.of star).setCaseSensitive caseSensitive).star = star := rfl
  rw [Selection.foldlM_addDimensionNamed bound owns]
  cases request.dimensions.find? (· ∉ star.dimensions.map Dimension.name) with
  | some name => rfl
  | none =>
    change request.measures.foldlM Selection.addMeasureNamed ⟨star, _, _, _⟩ = _
    rw [Selection.foldlM_addMeasureNamed rfl owns]
    cases request.measures.find? (· ∉ star.measures.map Measure.name) with
    | some name => rfl
    | none => rfl

end StarReport.Report
