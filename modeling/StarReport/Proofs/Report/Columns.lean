import StarReport.Proofs.Report.Order
import StarReport.Proofs.Sql.Run

/-!
The select list and the grouping of a report. A query leaves out columns that come again, but no two
members of a selection give the same column. So a statement has one select item for each selected
member, in order, and it groups by the columns of the dimensions, one for one.
-/

set_option autoImplicit false
set_option relaxedAutoImplicit false

namespace StarReport.Report

open Sql
open StarReport.Star (Dimension Measure)

namespace Selection

variable {selection : Selection}

/-- The columns of the selected members: the dimensions, then the measures. -/
def columns (selection : Selection) : List Selected :=
  selection.dimensions.map dimensionColumn ++ selection.measures.map measureColumn

/-- No member is selected together with its like. -/
structure Apart (selection : Selection) : Prop where
  dimensions : (selection.dimensions.map Dimension.identity).Nodup
  measures : (selection.measures.map Measure.identity).Nodup

theorem apart_after (star : Star) (calls : List Call) :
    ((Selection.of star).after calls).Apart := by
  rw [after_eq]
  have start {α κ : Type} (key : α → κ) : (([] : List α).map key).Nodup := List.nodup_nil
  exact ⟨Distinct.nodup_foldl_insert (start _) _, Distinct.nodup_foldl_insert (start _) _⟩

/-- The identity of a dimension can be read off its column. -/
private def dimensionRead (column : Selected.Identity) : Dimension.Identity :=
  ⟨column.label.getD "", column.table, column.column⟩

/-- The identity of a measure can be read off its column. -/
private def measureRead (column : Selected.Identity) : Measure.Identity :=
  ⟨column.label.getD "", ⟨column.table, column.column⟩, column.function.getD .sum⟩

/-- Members that differ give columns that differ: two dimensions or two measures because a column
tells its member, and one of each because only the measure is aggregated. -/
theorem Apart.nodup_columns (apart : selection.Apart) :
    (selection.columns.map Selected.identity).Nodup := by
  have dimensions :
      ((selection.dimensions.map dimensionColumn).map Selected.identity).Nodup := by
    have read : ((selection.dimensions.map dimensionColumn).map Selected.identity).map
        dimensionRead = selection.dimensions.map Dimension.identity := by
      rw [List.map_map, List.map_map]
      rfl
    exact List.Nodup.of_map dimensionRead (read ▸ apart.dimensions)
  have measures : ((selection.measures.map measureColumn).map Selected.identity).Nodup := by
    have read : ((selection.measures.map measureColumn).map Selected.identity).map
        measureRead = selection.measures.map Measure.identity := by
      rw [List.map_map, List.map_map]
      rfl
    exact List.Nodup.of_map measureRead (read ▸ apart.measures)
  rw [columns, List.map_append]
  refine List.nodup_append.mpr ⟨dimensions, measures, ?_⟩
  rintro plain grouped aggregated member rfl
  rw [List.map_map] at grouped member
  obtain ⟨dimension, _, rfl⟩ := List.mem_map.mp grouped
  obtain ⟨measure, _, same⟩ := List.mem_map.mp member
  have functions : some measure.function = none := congrArg Selected.Identity.function same
  cases functions

/-- The query of a report drops no column. -/
theorem Apart.query_selected (apart : selection.Apart) :
    selection.query.selected = selection.columns := by
  rw [Selection.query_selected]
  exact Distinct.ofList_eq_self apart.nodup_columns

/-- Of the columns of a selection those of the dimensions are not aggregated. -/
theorem plain_columns (selection : Selection) :
    Layout.plain selection.columns = selection.dimensions.map dimensionColumn := by
  have kept : (selection.dimensions.map dimensionColumn).filter (·.function = none) =
      selection.dimensions.map dimensionColumn := by
    refine List.filter_eq_self.mpr fun column member => ?_
    obtain ⟨dimension, _, rfl⟩ := List.mem_map.mp member
    rfl
  have dropped : (selection.measures.map measureColumn).filter (·.function = none) = [] := by
    refine List.filter_eq_nil_iff.mpr fun column member => ?_
    obtain ⟨measure, _, rfl⟩ := List.mem_map.mp member
    simp [measureColumn]
  rw [Layout.plain, columns, List.filter_append, kept, dropped, List.append_nil]

theorem query_forceGrouping (selection : Selection) : selection.query.forceGrouping = true := by
  rw [query, Query.foldl_select_forceGrouping]
  rfl

/-- A report groups by the columns of its dimensions. -/
theorem Apart.grouping (apart : selection.Apart) :
    selection.query.grouping = selection.dimensions.map fun dimension =>
      ⟨dimension.table.name, dimension.column⟩ := by
  rw [Query.grouping_eq, if_pos (.inl selection.query_forceGrouping), apart.query_selected,
    plain_columns, List.map_map]
  rfl

theorem groupBy_columns (selection : Selection) (mode : Bool) :
    Layout.groupBy mode true selection.columns =
      if selection.dimensions = [] then ""
      else "\ngroup by\n" ++ Layout.lines (selection.dimensions.map fun dimension =>
        Layout.reference mode dimension.table.name dimension.column) := by
  rw [Layout.groupBy, plain_columns]
  by_cases nothing : selection.dimensions = []
  · simp [nothing]
  · rw [if_pos ⟨by simpa using nothing, .inl rfl⟩, if_neg nothing, List.map_map]
    rfl

/-- A text of a report is that of a statement, which is laid out over the columns of the
selection. -/
theorem Apart.of_sql (apart : selection.Apart) {text : String}
    (compiled : selection.sql = .ok text) : ∃ statement others,
      selection.query.statement = .ok statement ∧
      text = statement.text selection.caseSensitive ∧
      selection.query.tables = selection.star.fact :: others ∧
      text = Layout.text selection.caseSensitive true selection.columns selection.star.fact
        others ∧
      statement.outputs = selection.columns.map Selected.output ∧
      statement.grouping = selection.dimensions.map fun dimension =>
        ⟨dimension.table.name, dimension.column⟩ := by
  have mode : selection.query.caseSensitive = selection.caseSensitive :=
    Query.foldl_select_caseSensitive _ _
  obtain ⟨others, tables, _⟩ := selection.query_tables_eq_cons
  have answered : selection.query.sql = .ok text := FirstFailure.mapError_ok.mp compiled
  obtain ⟨statement, stated, written⟩ := Query.statement_of_sql_ok answered
  obtain ⟨_, made⟩ := Query.of_statement_ok tables stated
  refine ⟨statement, others, stated, mode ▸ written, tables, ?_, ?_, ?_⟩
  · rw [written, made, Sql.text_eq_layout, mode, selection.query_forceGrouping,
      apart.query_selected]
  · rw [made, apart.query_selected]
  · rw [made, apart.grouping]

end Selection

/-- Nothing is lost between the members that a report has selected and its statement. The select
list has one item for each dimension and then one for each measure, in the order of selection and
under their names. A grouping clause is there if and only if a dimension is selected; its entries
are the columns of the dimensions, one for one, so that of the select expressions exactly those that
are not aggregated are grouped by. -/
theorem columns_of_calls (star : Star) (calls : List Call) {text : String}
    (compiled : ((Selection.of star).after calls).sql = .ok text) :
    let report := (Selection.of star).after calls
    ∃ statement others,
      report.query.statement = .ok statement ∧
      text = statement.text report.caseSensitive ∧
      statement.outputs =
        (report.dimensions.map fun dimension =>
          ⟨⟨dimension.table.name, dimension.column⟩, none, some dimension.name⟩) ++
        (report.measures.map fun measure =>
          ⟨⟨measure.metric.table.name, measure.metric.column⟩, some measure.function,
            some measure.name⟩) ∧
      statement.grouping = (report.dimensions.map fun dimension =>
        ⟨dimension.table.name, dimension.column⟩) ∧
      (∀ output ∈ statement.outputs,
        (output.source, output.function) ∈ (statement.grouping.map fun column => (column, none)) ↔
          output.function = none) ∧
      report.query.tables = star.fact :: others ∧
      text = Layout.text report.caseSensitive true report.columns star.fact others ∧
      Layout.groupBy report.caseSensitive true report.columns =
        if report.dimensions = [] then ""
        else "\ngroup by\n" ++ Layout.lines (report.dimensions.map fun dimension =>
          Layout.reference report.caseSensitive dimension.table.name dimension.column) := by
  intro report
  have bound : report.star = star := Selection.star_after _ calls
  obtain ⟨statement, others, stated, written, tables, laid, outputs, grouping⟩ :=
    (Selection.apart_after star calls).of_sql compiled
  have listed : statement.outputs = _ := outputs.trans List.map_append
  rw [List.map_map, List.map_map] at listed
  refine ⟨statement, others, stated, written, listed, grouping, ?_, bound ▸ tables, bound ▸ laid,
    report.groupBy_columns report.caseSensitive⟩
  intro output member
  rw [listed] at member
  rw [grouping, List.map_map]
  rcases List.mem_append.mp member with plain | aggregated
  · obtain ⟨dimension, selected, rfl⟩ := List.mem_map.mp plain
    exact ⟨fun _ => rfl, fun _ => List.mem_map.mpr ⟨dimension, selected, rfl⟩⟩
  · obtain ⟨measure, _, rfl⟩ := List.mem_map.mp aggregated
    constructor
    · intro grouped
      obtain ⟨dimension, _, same⟩ := List.mem_map.mp grouped
      cases congrArg Prod.snd same
    · rintro ⟨⟩

private def storeTable : Warehouse.Table := .named "DimStore" (some "id")

private def relabelledStar : Star :=
  .ofFact ⟨0⟩ ((Warehouse.Table.named "FactSales" none).addForeignKey "StoreId" storeTable)

/-- Two labels over one column, one label over two columns, and a measure of a grouped column under
the label of a dimension. The first dimension is offered again, and one of another star is
refused. -/
private def mixedCalls : List Call :=
  [.offer (.measure ⟨"City", ⟨storeTable, "City", some ⟨0⟩⟩, .count⟩),
    .offer (.dimension ⟨"City", storeTable, "City", some ⟨0⟩⟩),
    .offer (.dimension ⟨"Town", storeTable, "City", some ⟨0⟩⟩),
    .offer (.dimension ⟨"City", storeTable, "City", some ⟨0⟩⟩),
    .offer (.dimension ⟨"Area", storeTable, "Area", some ⟨1⟩⟩),
    .offer (.dimension ⟨"City", storeTable, "Area", some ⟨0⟩⟩)]

private def mixedText : String :=
  "select\n    DimStore.City as \"City\",\n    DimStore.City as \"Town\",\n" ++
    "    DimStore.Area as \"City\",\n    count(DimStore.City) as \"City\"\nfrom FactSales\n" ++
    "join DimStore on DimStore.id = FactSales.StoreId\ngroup by\n    DimStore.City,\n" ++
    "    DimStore.City,\n    DimStore.Area"

theorem columns_of_mixedCalls :
    ((Selection.of relabelledStar).after mixedCalls).sql = .ok mixedText ∧
    ∃ statement, ((Selection.of relabelledStar).after mixedCalls).query.statement = .ok statement ∧
      statement.outputs.map OutputColumn.label =
        [some "City", some "Town", some "City", some "City"] ∧
      statement.grouping =
        [⟨"DimStore", "City"⟩, ⟨"DimStore", "City"⟩, ⟨"DimStore", "Area"⟩] := by
  have compiled : ((Selection.of relabelledStar).after mixedCalls).sql = .ok mixedText := by
    decide +kernel
  obtain ⟨statement, _, stated, _, outputs, grouping, _⟩ :=
    columns_of_calls relabelledStar mixedCalls compiled
  exact ⟨compiled, statement, stated, by rw [outputs]; rfl, by rw [grouping]; rfl⟩

end StarReport.Report
