import StarReport.Proofs.Report.Outcome

/-!
What an answer depends on. Two stars give a request the same answer where they lack the same names,
hold the members asked for under the same identities, and have facts of the same key that refer to
the tables of these members alike. Nothing else in a star matters.
-/

set_option autoImplicit false
set_option relaxedAutoImplicit false

namespace StarReport.Report

open Sql (Query Selected)
open StarReport.Star (Dimension Measure)
open Warehouse (Table)

namespace Selection

/-- The keys of the registered tables follow from the identities of the members. -/
theorem map_key_query_tables (selection : Selection) :
    selection.query.tables.map Table.key =
      (selection.star.fact.key ::
        ((selection.dimensions.map Dimension.identity).map (·.table) ++
          (selection.measures.map Measure.identity).map (·.metric.table))).eraseDups := by
  have listed : selection.query.tables = Distinct.ofList Table.key (selection.star.fact ::
      (selection.dimensions.map Dimension.table ++ selection.measures.map (·.metric.table))) :=
    selection.query_tables
  rw [listed, Distinct.map_key_ofList]
  simp only [List.map_cons, List.map_append, List.map_map]
  rfl

/-- The column of a dimension, by identity. -/
private def groupedBy (identity : Dimension.Identity) : Selected.Identity :=
  ⟨identity.table, identity.column, some identity.name, none⟩

/-- The column of a measure, by identity. -/
private def aggregated (identity : Measure.Identity) : Selected.Identity :=
  ⟨identity.metric.table, identity.metric.column, some identity.name, some identity.function⟩

theorem map_identity_query_selected (selection : Selection) :
    selection.query.selected.map Selected.identity =
      ((selection.dimensions.map Dimension.identity).map groupedBy ++
        (selection.measures.map Measure.identity).map aggregated).eraseDups := by
  rw [query_selected, Distinct.map_key_ofList]
  simp only [List.map_append, List.map_map]
  rfl

/-- Of the members only the identities matter to a statement, and of the star only the key of the
fact and its foreign keys to the other tables of the query. -/
theorem statement_congr {selection selection' : Selection}
    (fact : selection'.star.fact.key = selection.star.fact.key)
    (dimensions : selection'.dimensions.map Dimension.identity =
      selection.dimensions.map Dimension.identity)
    (measures : selection'.measures.map Measure.identity =
      selection.measures.map Measure.identity)
    (edges : ∀ table ∈ selection.query.tables, table.key ≠ selection.star.fact.key →
      selection'.star.fact.references table = selection.star.fact.references table) :
    selection'.query.statement = selection.query.statement := by
  obtain ⟨others, registered, apart⟩ := selection.query_tables_eq_cons
  obtain ⟨others', registered', _⟩ := selection'.query_tables_eq_cons
  refine Query.statement_congr registered registered' (congrArg (·.name) fact) ?_ ?_ ?_ ?_
  · have keys : (selection'.star.fact :: others').map Table.key =
        (selection.star.fact :: others).map Table.key := by
      rw [← registered, ← registered', map_key_query_tables, map_key_query_tables, dimensions,
        measures, fact]
    exact (List.cons.inj keys).2
  · intro table member
    have used : table ∈ selection.query.tables := by
      rw [registered]
      exact List.mem_cons_of_mem _ member
    exact edges table used (apart table member)
  · rw [map_identity_query_selected, map_identity_query_selected, dimensions, measures]
  · rw [query, Query.foldl_select_forceGrouping, query, Query.foldl_select_forceGrouping]
    rfl

end Selection

namespace Request

variable {request : Request} {star star' : Star} {caseSensitive : Bool}

/-- Two stars in which a request finds the same: the same first unknown names, a fact of the same
key, the same members by identity, and the same foreign keys of the fact to their tables. -/
structure Alike (request : Request) (star star' : Star) : Prop where
  unknownDimension : request.unknownDimension? star' = request.unknownDimension? star
  unknownMeasure : request.unknownMeasure? star' = request.unknownMeasure? star
  fact : star'.fact.key = star.fact.key
  dimensions : (request.dimensionsIn star').map Dimension.identity =
    (request.dimensionsIn star).map Dimension.identity
  measures : (request.measuresIn star').map Measure.identity =
    (request.measuresIn star).map Measure.identity
  edges : ∀ table ∈ request.tablesIn star,
    star'.fact.references table = star.fact.references table

namespace Alike

theorem selected_dimensions (alike : request.Alike star star') :
    (request.selection star' caseSensitive).dimensions.map Dimension.identity =
      (request.selection star caseSensitive).dimensions.map Dimension.identity := by
  rw [selection, selection, Distinct.map_key_ofList, Distinct.map_key_ofList, alike.dimensions]

theorem selected_measures (alike : request.Alike star star') :
    (request.selection star' caseSensitive).measures.map Measure.identity =
      (request.selection star caseSensitive).measures.map Measure.identity := by
  rw [selection, selection, Distinct.map_key_ofList, Distinct.map_key_ofList, alike.measures]

theorem statement_eq (alike : request.Alike star star') :
    (request.selection star' caseSensitive).query.statement =
      (request.selection star caseSensitive).query.statement := by
  refine Selection.statement_congr alike.fact alike.selected_dimensions alike.selected_measures ?_
  intro table used other
  rcases mem_query_tables used with rfl | asked
  · exact absurd rfl other
  · exact alike.edges table asked

/-- A request comes to the same on both. -/
theorem bind_eq (alike : request.Alike star star') (owns : star.Owns) (owns' : star'.Owns)
    (options : Options) : request.bind star' options = request.bind star options := by
  have sql : (request.selection star' options.caseSensitive).sql =
      (request.selection star options.caseSensitive).sql := by
    rw [sql_selection, sql_selection, alike.statement_eq]
  let finish (sql : Except ReportError String) : Except BindingError (Option String) :=
    if request.isEmpty then .ok none
    else do
      let text ← sql.mapError .report
      return some text
  rw [Request.bind_eq, Request.bind_eq]
  rw [select_eq request owns', select_eq request owns, alike.unknownDimension,
    alike.unknownMeasure]
  cases request.unknownDimension? star with
  | some name => rfl
  | none =>
    cases request.unknownMeasure? star with
    | some name => rfl
    | none => exact congrArg finish sql

end Alike

end Request

end StarReport.Report
