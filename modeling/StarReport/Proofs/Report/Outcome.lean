import Mathlib.Data.List.Find
import StarReport.Proofs.Report.Binding

/-!
The complete outcome of binding a request. For every star that the operations on stars reach, the
outcome is decided by the first name that the star lacks and the first table that cannot be joined,
and the refusals of a report are never among the outcomes.
-/

set_option autoImplicit false
set_option relaxedAutoImplicit false

namespace StarReport.Report

open Sql (Query Statement)
open StarReport.Star (Dimension Measure StarId)
open Warehouse (Table)

/-- Whether a table of a request over `fact` stands in the way of its statement. -/
private def obstructs (fact table : Table) : Bool :=
  table.key ≠ fact.key ∧ table.primaryKey = none ∧ fact.references table ≠ []

private theorem obstructs_of_key (fact : Table) {s t : Table} (same : s.key = t.key) :
    obstructs fact s = obstructs fact t := by
  unfold obstructs
  rw [decide_eq_decide, Table.primaryKey, Table.primaryKey, same, fact.references_eq_of_key same]

private theorem obstructs_fact (fact : Table) : obstructs fact fact = false := by
  simp [obstructs]

private theorem obstructs_eq_blocks {fact table : Table} (other : table.key ≠ fact.key) :
    obstructs fact table = Query.blocks fact table := by
  unfold obstructs Query.blocks Table.refersTo
  rw [Bool.eq_iff_iff]
  simp [other]

/-- Neither leaving out repeated members nor leaving out repeated tables moves the first
obstruction. -/
private theorem find?_obstructs_tables (request : Request) (star : Star) (caseSensitive : Bool) :
    (request.selection star caseSensitive).query.tables.find? (obstructs star.fact) =
      request.unjoinable? star := by
  have dimensions (a b : Dimension) (same : a.identity = b.identity) :
      (obstructs star.fact ∘ Dimension.table) a = (obstructs star.fact ∘ Dimension.table) b :=
    obstructs_of_key star.fact (congrArg Dimension.Identity.table same)
  have measures (a b : Measure) (same : a.identity = b.identity) :
      (obstructs star.fact ∘ fun m => m.metric.table) a =
        (obstructs star.fact ∘ fun m => m.metric.table) b :=
    obstructs_of_key star.fact (congrArg (fun i => i.metric.table) same)
  rw [Selection.query_tables,
    Distinct.find?_foldl_insert fun _ _ same => obstructs_of_key star.fact same]
  simp only [Request.selection, List.cons_append, List.nil_append, List.find?_cons, obstructs_fact,
    List.find?_append, List.find?_map, Distinct.find?_ofList dimensions,
    Distinct.find?_ofList measures]
  rw [Request.unjoinable?, Request.tablesIn, List.find?_append, List.find?_map, List.find?_map]
  rfl

/-- The statement of all members asked for fails exactly where a table cannot be joined. -/
theorem statement_selection (request : Request) (star : Star) (caseSensitive : Bool) :
    match request.unjoinable? star with
    | some table => (request.selection star caseSensitive).query.statement =
        .error (.missingPrimaryKey table.name)
    | none => ∃ statement, (request.selection star caseSensitive).query.statement =
        .ok statement := by
  obtain ⟨others, tables, apart⟩ : ∃ others,
      (request.selection star caseSensitive).query.tables = star.fact :: others ∧
        ∀ table ∈ others, table.key ≠ star.fact.key :=
    Selection.query_tables_eq_cons _
  have first : others.find? (Query.blocks star.fact) = request.unjoinable? star := by
    rw [← find?_obstructs_tables request star caseSensitive, tables,
      List.find?_cons_of_neg (by simp [obstructs_fact])]
    exact List.find?_congr fun table member => (obstructs_eq_blocks (apart table member)).symm
  rw [Query.statement_eq tables, first]
  cases request.unjoinable? star with
  | some table => rfl
  | none => exact ⟨_, rfl⟩

/-- The text of a selection is that of its query's statement, in the mode of the selection. -/
theorem Selection.sql_eq (selection : Selection) : selection.sql =
    (selection.query.statement.map (Statement.text selection.caseSensitive)).mapError .query := by
  have mode : selection.query.caseSensitive = selection.caseSensitive :=
    Query.foldl_select_caseSensitive _ _
  rw [sql, Query.sql, mode]

theorem sql_selection (request : Request) (star : Star) (caseSensitive : Bool) :
    (request.selection star caseSensitive).sql =
      ((request.selection star caseSensitive).query.statement.map
        (Statement.text caseSensitive)).mapError .query :=
  (request.selection star caseSensitive).sql_eq

/-- What a request with at least one name comes to. -/
inductive Request.Outcome (request : Request) (star : Star) (caseSensitive : Bool) :
    Except BindingError (Option String) → Prop
  | dimensionNotFound {name : String} : request.unknownDimension? star = some name →
      Outcome request star caseSensitive (.error (.dimensionNotFound name))
  | measureNotFound {name : String} : request.unknownDimension? star = none →
      request.unknownMeasure? star = some name →
      Outcome request star caseSensitive (.error (.measureNotFound name))
  | missingPrimaryKey {table : Table} : request.unknownDimension? star = none →
      request.unknownMeasure? star = none → request.unjoinable? star = some table →
      Outcome request star caseSensitive
        (.error (.report (.query (.missingPrimaryKey table.name))))
  | compiled {statement : Statement} : request.unknownDimension? star = none →
      request.unknownMeasure? star = none → request.unjoinable? star = none →
      (request.selection star caseSensitive).query.statement = .ok statement →
      Outcome request star caseSensitive (.ok (some (statement.text caseSensitive)))

/-- A request without names comes to no statement and no failure. -/
theorem Request.isEmpty_of_bind {request : Request} {star : Star} {options : Options}
    {result : Except BindingError (Option String)} (bound : request.bind star options = result)
    (some_result : result ≠ .ok none) : request.isEmpty = false := by
  rw [← Bool.not_eq_true]
  intro empty
  rw [Request.bind_eq, if_pos empty] at bound
  exact some_result bound.symm

/-- Only an empty request has nothing to compile, on any star. -/
theorem Request.bind_eq_none {request : Request} {star : Star} {options : Options} :
    request.bind star options = .ok none ↔ request.isEmpty = true := by
  constructor
  · intro nothing
    by_contra filled
    rw [Request.bind_eq, if_neg filled] at nothing
    obtain ⟨_, _, nothing⟩ := FirstFailure.bind_ok.mp nothing
    obtain ⟨_, _, absurdity⟩ := FirstFailure.bind_ok.mp nothing
    cases absurdity
  · intro empty
    rw [Request.bind_eq, if_pos empty]

/-- On a star that owns its members every request with a name comes to its outcome. -/
theorem Request.outcome_bind {request : Request} {star : Star} (owns : star.Owns)
    (named : request.isEmpty = false) (options : Options) :
    request.Outcome star options.caseSensitive (request.bind star options) := by
  rw [Request.bind_eq, named, request.select_eq owns]
  cases dimension : request.unknownDimension? star with
  | some name => exact .dimensionNotFound dimension
  | none =>
    cases measure : request.unknownMeasure? star with
    | some name => exact .measureNotFound dimension measure
    | none =>
      have statement := statement_selection request star options.caseSensitive
      change request.Outcome star options.caseSensitive (do
        let sql ← (request.selection star options.caseSensitive).sql.mapError .report
        return some sql)
      rw [sql_selection]
      cases table : request.unjoinable? star with
      | some table =>
        rw [table] at statement
        rw [statement]
        exact .missingPrimaryKey dimension measure table
      | none =>
        rw [table] at statement
        obtain ⟨statement, compiled⟩ := statement
        rw [compiled]
        exact .compiled dimension measure table compiled

/-- Only an empty request has nothing to compile; any other comes to its outcome, which is never a
refusal of the report. Logging changes no outcome and writes each statement once. -/
theorem bind_outcome {star : Star} (reached : star.Reached) (request : Request)
    (options : Options) :
    (request.bind star options = .ok none ↔ request.dimensions = [] ∧ request.measures = []) ∧
    (¬(request.dimensions = [] ∧ request.measures = []) →
      request.Outcome star options.caseSensitive (request.bind star options)) ∧
    (∀ kind name id,
      request.bind star options ≠ .error (.report (.membershipMismatch kind name id))) ∧
    request.bind star options ≠ .error (.report (.query .noTables)) ∧
    (∀ logQuery, request.bind star { options with logQuery } = request.bind star options) ∧
    (∀ sql, options.logQuery = true → request.bind star options = .ok (some sql) →
      request.log star options = [sql]) ∧
    (options.logQuery = false ∨ (∀ sql, request.bind star options ≠ .ok (some sql)) →
      request.log star options = []) := by
  have empty_iff : request.isEmpty = true ↔ request.dimensions = [] ∧ request.measures = [] := by
    simp [Request.isEmpty]
  have named (some_name : ¬(request.dimensions = [] ∧ request.measures = [])) :
      request.Outcome star options.caseSensitive (request.bind star options) :=
    Request.outcome_bind reached.owns (by rwa [← empty_iff, Bool.not_eq_true] at some_name) options
  have unnamed (no_name : request.dimensions = [] ∧ request.measures = []) :
      request.bind star options = .ok none := by
    rw [Request.bind_eq, if_pos (empty_iff.mpr no_name)]
  have outcome : request.bind star options = .ok none ∨
      request.Outcome star options.caseSensitive (request.bind star options) := by
    by_cases no_name : request.dimensions = [] ∧ request.measures = []
    · exact .inl (unnamed no_name)
    · exact .inr (named no_name)
  refine ⟨⟨fun nothing => ?_, unnamed⟩, named, fun kind name id refused => ?_, fun bare => ?_,
    fun _ => request.bind_logQuery star _ _ _, fun sql asked compiled => ?_, fun silent => ?_⟩
  · by_contra some_name
    have compiled := named some_name
    rw [nothing] at compiled
    cases compiled
  · rw [refused] at outcome
    rcases outcome with absurdity | absurdity <;> cases absurdity
  · rw [bare] at outcome
    rcases outcome with absurdity | absurdity <;> cases absurdity
  · rw [Request.log_eq, compiled]
    exact if_pos asked
  · rw [Request.log_eq]
    split
    · rename_i sql compiled
      rcases silent with off | nothing
      · simp [off]
      · exact absurd compiled (nothing sql)
    · rfl

/-- A star whose fact refers to a table without a primary key. -/
private def keylessStar : Star :=
  (Star.ofFact ⟨0⟩ ((Table.named "FactSales" none).addForeignKey "StoreId"
    (.named "DimStore" none))).add (.dimension ⟨"Store", .named "DimStore" none, "City", none⟩)

theorem bind_outcome_keylessStar : keylessStar.Reached ∧
    (⟨["Store"], []⟩ : Request).bind keylessStar ⟨false, true⟩ =
      .error (.report (.query (.missingPrimaryKey "DimStore"))) := by
  have reached : keylessStar.Reached := .add _ (.ofFact _ _)
  have outcome := (bind_outcome reached ⟨["Store"], []⟩ ⟨false, true⟩).2.1 (by simp)
  have known : (⟨["Store"], []⟩ : Request).unknownDimension? keylessStar = none := by decide
  have blocked : (⟨["Store"], []⟩ : Request).unjoinable? keylessStar =
      some (.named "DimStore" none) := by decide
  refine ⟨reached, ?_⟩
  generalize (⟨["Store"], []⟩ : Request).bind keylessStar ⟨false, true⟩ = result at outcome ⊢
  cases outcome with
  | dimensionNotFound unknown => simp [known] at unknown
  | measureNotFound _ unknown => simp [Request.unknownMeasure?] at unknown
  | missingPrimaryKey _ _ found => rw [← Option.some.inj (blocked.symm.trans found)]; rfl
  | compiled _ _ free _ => simp [blocked] at free

end StarReport.Report
