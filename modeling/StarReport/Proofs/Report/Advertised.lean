import StarReport.Proofs.Report.Columns
import StarReport.Proofs.Schema.Faithful
import StarReport.Report.Listing

/-!
What a star advertises and what it binds. Where no name comes twice, a name of the listing finds the
member that its entry describes, no other name finds any, and a request for the whole listing
selects every member once. The stars of schemas are such stars, and their listings are those of the
documents.
-/

set_option autoImplicit false
set_option relaxedAutoImplicit false

namespace StarReport

open Document (DimensionEntry MeasureEntry)
open Sql (OutputColumn Query Selected)
open StarReport.Star (AggregateFunction Dimension Measure StarId)

/-- No two dimensions of a star have the same name, and no two measures. -/
structure Star.Named (star : Star) : Prop where
  dimensions : (star.dimensions.map Dimension.name).Nodup
  measures : (star.measures.map Measure.name).Nodup

namespace Star.Named

variable {star : Star}

theorem dimension?_of_mem (named : star.Named) {dimension : Dimension}
    (held : dimension ∈ star.dimensions) : star.dimension? dimension.name = some dimension :=
  Distinct.find?_of_mem named.dimensions held

theorem measure?_of_mem (named : star.Named) {measure : Measure}
    (held : measure ∈ star.measures) : star.measure? measure.name = some measure :=
  Distinct.find?_of_mem named.measures held

/-- All names together find all dimensions. -/
theorem filterMap_dimension? (named : star.Named) :
    (star.dimensions.map Dimension.name).filterMap star.dimension? = star.dimensions := by
  have found : ∀ dimension ∈ star.dimensions,
      (star.dimension? ∘ Dimension.name) dimension = some dimension :=
    fun dimension held => named.dimension?_of_mem held
  rw [List.filterMap_map, List.filterMap_congr found]
  exact List.filterMap_some

theorem filterMap_measure? (named : star.Named) :
    (star.measures.map Measure.name).filterMap star.measure? = star.measures := by
  have found : ∀ measure ∈ star.measures,
      (star.measure? ∘ Measure.name) measure = some measure :=
    fun measure held => named.measure?_of_mem held
  rw [List.filterMap_map, List.filterMap_congr found]
  exact List.filterMap_some

end Star.Named

namespace Report

namespace Field

def name : Field → String
  | dimension name => name
  | measure name _ => name

def dimension? : Field → Option String
  | dimension name => some name
  | measure _ _ => none

def measure? : Field → Option String
  | dimension _ => none
  | measure name _ => some name

end Field

/-- The request for all that is listed, in the order of the listing. -/
def Request.ofListing (fields : List Field) : Request :=
  ⟨fields.filterMap Field.dimension?, fields.filterMap Field.measure?⟩

theorem ofListing_listing (star : Star) : Request.ofListing (listing star) =
    ⟨star.dimensions.map Dimension.name, star.measures.map Measure.name⟩ := by
  simp only [Request.ofListing, listing, List.filterMap_append, List.filterMap_map,
    Function.comp_def, Field.dimension?, Field.measure?, List.filterMap_none, List.append_nil,
    List.nil_append, List.filterMap_eq_map']

theorem dimension_mem_listing {star : Star} {name : String} :
    .dimension name ∈ listing star ↔ name ∈ star.dimensions.map Dimension.name := by
  simp [listing]

theorem measure_mem_listing {star : Star} {name : String} :
    (∃ function, .measure name function ∈ listing star) ↔
      name ∈ star.measures.map Measure.name := by
  simp [listing]

section Whole

variable {star : Star}

/-- Members of different names are not alike. -/
theorem apart_of_named (named : star.Named) (mode : Bool) :
    (⟨star, star.dimensions, star.measures, mode⟩ : Selection).Apart := by
  have dimensions : (star.dimensions.map Dimension.identity).map Dimension.Identity.name =
      star.dimensions.map Dimension.name := List.map_map
  have measures : (star.measures.map Measure.identity).map Measure.Identity.name =
      star.measures.map Measure.name := List.map_map
  exact ⟨List.Nodup.of_map Dimension.Identity.name (dimensions ▸ named.dimensions),
    List.Nodup.of_map Measure.Identity.name (measures ▸ named.measures)⟩

/-- A request for the whole listing selects all members. -/
theorem selection_ofListing (named : star.Named) (mode : Bool) :
    (Request.ofListing (listing star)).selection star mode =
      ⟨star, star.dimensions, star.measures, mode⟩ := by
  obtain ⟨dimensions, measures⟩ := apart_of_named named mode
  rw [ofListing_listing, Request.selection, Request.dimensionsIn, Request.measuresIn,
    named.filterMap_dimension?, named.filterMap_measure?, Distinct.ofList_eq_self dimensions,
    Distinct.ofList_eq_self measures]

/-- Every name that is listed is known. -/
theorem unknown_ofListing (star : Star) :
    (Request.ofListing (listing star)).unknownDimension? star = none ∧
      (Request.ofListing (listing star)).unknownMeasure? star = none := by
  rw [ofListing_listing]
  exact ⟨List.find?_eq_none.mpr fun name asked => by simpa using asked,
    List.find?_eq_none.mpr fun name asked => by simpa using asked⟩

/-- The labels of the whole listing are its names. -/
theorem labels_columns (star : Star) (mode : Bool) :
    ((⟨star, star.dimensions, star.measures, mode⟩ : Selection).columns.map
        Selected.output).map OutputColumn.label =
      (listing star).map fun field => some field.name := by
  simp only [Selection.columns, listing, List.map_append, List.map_map]
  rfl

/-- On a star that owns its members and has no name twice, a request for the whole listing fails for
a missing primary key or has a statement with one item for each entry, under its name. Without any
entry it comes to nothing. -/
theorem bind_ofListing (owns : star.Owns) (named : star.Named) (options : Options) :
    let request := Request.ofListing (listing star)
    (request.bind star options = .ok none ↔ listing star = []) ∧
    (listing star ≠ [] →
      (∃ table, request.bind star options =
        .error (.report (.query (.missingPrimaryKey table)))) ∨
      ∃ selection statement, request.select star options.caseSensitive = .ok selection ∧
        selection.query.statement = .ok statement ∧
        request.bind star options = .ok (some (statement.text options.caseSensitive)) ∧
        statement.outputs.map OutputColumn.label =
          (listing star).map fun field => some field.name) := by
  intro request
  have empty : request.isEmpty = true ↔ listing star = [] := by
    change (Request.ofListing (listing star)).isEmpty = true ↔ _
    rw [ofListing_listing]
    simp [Request.isEmpty, listing]
  obtain ⟨dimensions, measures⟩ := unknown_ofListing star
  have selected : request.select star options.caseSensitive =
      .ok ⟨star, star.dimensions, star.measures, options.caseSensitive⟩ := by
    rw [Request.select_eq request owns, dimensions, measures, selection_ofListing named]
  refine ⟨Request.bind_eq_none.trans empty, fun some_entry => ?_⟩
  have outcome := Request.outcome_bind owns (Bool.not_eq_true _ ▸ mt empty.mp some_entry) options
  generalize request.bind star options = result at outcome
  cases outcome with
  | dimensionNotFound unknown => cases dimensions.symm.trans unknown
  | measureNotFound _ unknown => cases measures.symm.trans unknown
  | @missingPrimaryKey table _ _ _ => exact .inl ⟨table.name, rfl⟩
  | @compiled statement _ _ _ stated =>
    rw [selection_ofListing named] at stated
    refine .inr ⟨_, statement, selected, stated, rfl, ?_⟩
    rw [Query.outputs_of_statement stated, (apart_of_named named _).query_selected]
    exact labels_columns star options.caseSensitive

end Whole

end Report

/-! ### Listings of documents -/

namespace Document

variable {document : Document}

theorem named_schema (formed : document.WellFormed) (id : StarId) :
    (document.schema id).star.Named := by
  constructor
  · change ((document.star.dimensions.map (document.dimension id)).map Dimension.name).Nodup
    rw [List.map_map]
    exact formed.dimensions
  · change ((document.star.measures.map (document.measure id)).map Measure.name).Nodup
    rw [List.map_map]
    exact formed.measures

theorem listing_schema (document : Document) (id : StarId) :
    Report.listing (document.schema id).star =
      (document.star.dimensions.map fun entry => .dimension entry.name) ++
        document.star.measures.map fun entry => .measure entry.name entry.function := by
  change (document.star.dimensions.map (document.dimension id)).map _ ++
    (document.star.measures.map (document.measure id)).map _ = _
  rw [List.map_map, List.map_map]
  rfl

end Document

namespace Report

/-- The listing of a schema and what its star binds agree. The listing has the names of the document
in order, with the functions as they are spelled there. Each listed name finds the member that
stands in its place and is described by the document there, and no other name finds any. A request
for the whole listing lacks a primary key, comes to nothing because nothing is listed, or has a
statement whose items have exactly the listed names as labels, in order. -/
theorem listing_of_build {id : StarId} {document : Document} {schema : Schema}
    (built : Schema.build id document = .ok schema) :
    listing schema.star =
      (document.star.dimensions.map fun entry => .dimension entry.name) ++
        (document.star.measures.map fun entry => .measure entry.name entry.function) ∧
    (∀ spelling, (AggregateFunction.ofText spelling).text = spelling) ∧
    (∀ (place : Nat) (entry : DimensionEntry), document.star.dimensions[place]? = some entry →
      ∃ table,
      schema.database.table? entry.table = some table ∧
      (listing schema.star)[place]? = some (.dimension entry.name) ∧
      schema.star.dimensions[place]? = some ⟨entry.name, table, entry.column, some id⟩ ∧
      schema.star.dimension? entry.name = schema.star.dimensions[place]?) ∧
    (∀ (place : Nat) (entry : MeasureEntry), document.star.measures[place]? = some entry →
      ∃ table,
      schema.database.table? entry.table = some table ∧
      (listing schema.star)[document.star.dimensions.length + place]? =
        some (.measure entry.name entry.function) ∧
      schema.star.measures[place]? =
        some ⟨entry.name, ⟨table, entry.column, some id⟩, entry.function⟩ ∧
      schema.star.measure? entry.name = schema.star.measures[place]?) ∧
    (∀ name, .dimension name ∉ listing schema.star → schema.star.dimension? name = none) ∧
    (∀ name, (∀ function, .measure name function ∉ listing schema.star) →
      schema.star.measure? name = none) ∧
    ∀ options,
      let request := Request.ofListing (listing schema.star)
      (request.bind schema.star options = .ok none ↔ listing schema.star = []) ∧
      (listing schema.star ≠ [] →
        (∃ table, request.bind schema.star options =
          .error (.report (.query (.missingPrimaryKey table)))) ∨
        ∃ selection statement, request.select schema.star options.caseSensitive = .ok selection ∧
          selection.query.statement = .ok statement ∧
          request.bind schema.star options = .ok (some (statement.text options.caseSensitive)) ∧
          statement.outputs.map OutputColumn.label =
            (listing schema.star).map fun field => some field.name) := by
  obtain ⟨formed, rfl⟩ := Document.build_eq_ok.mp built
  have listed := document.listing_schema id
  refine ⟨listed, AggregateFunction.text_ofText, fun place entry found => ?_,
    fun place entry found => ?_, fun name unlisted => ?_, fun name unlisted => ?_,
    bind_ofListing (Document.renders_schema formed id).owned (Document.named_schema formed id)⟩
  · have member := List.mem_of_getElem? found
    have held : (document.schema id).star.dimensions[place]? =
        some (document.dimension id entry) := by
      change (document.star.dimensions.map (document.dimension id))[place]? = _
      rw [List.getElem?_map, found]
      rfl
    refine ⟨document.tableNamed entry.table,
      Document.table?_of_declared (formed.dimensionTables entry member), ?_, held, ?_⟩
    · have inside := (List.getElem?_eq_some_iff.mp found).1
      rw [listed, List.getElem?_append_left (by simpa using inside), List.getElem?_map, found]
      rfl
    · rw [held, Document.dimension?_schema formed member id]
  · have member := List.mem_of_getElem? found
    have held : (document.schema id).star.measures[place]? =
        some (document.measure id entry) := by
      change (document.star.measures.map (document.measure id))[place]? = _
      rw [List.getElem?_map, found]
      rfl
    refine ⟨document.tableNamed entry.table,
      Document.table?_of_declared (formed.measureTables entry member), ?_, held, ?_⟩
    · rw [listed, List.getElem?_append_right (by simp), List.getElem?_map, List.length_map,
        Nat.add_sub_cancel_left, found]
      rfl
    · rw [held, Document.measure?_schema formed member id]
  · rw [← Option.isNone_iff_eq_none, Star.dimension?_isNone, decide_eq_true_eq]
    exact mt dimension_mem_listing.mpr unlisted
  · rw [← Option.isNone_iff_eq_none, Star.measure?_isNone, decide_eq_true_eq]
    exact mt measure_mem_listing.mpr (not_exists.mpr unlisted)

/-- A document with names that differ in case alone, a column under two names, and a name that a
dimension and a measure have both. -/
private def alikeNames : Document :=
  ⟨"StarDB", [⟨"FactSales", none, [⟨"StoreId", "DimStore"⟩]⟩, ⟨"DimStore", some "id", []⟩],
    ⟨"FactSales", [⟨"Store", "DimStore", "City"⟩, ⟨"store", "DimStore", "City"⟩], [],
      [⟨"Store", .other "SUM", "FactSales", "Quantity"⟩, ⟨"Sold", .sum, "FactSales", "Quantity"⟩]⟩⟩

private def alikeNamesSchema : Schema :=
  let store : Warehouse.Table := ⟨⟨some "StarDB", "DimStore", some "id"⟩, []⟩
  let sales : Warehouse.Table := ⟨⟨some "StarDB", "FactSales", none⟩,
    [⟨⟨some "StarDB", "FactSales", none⟩, "StoreId", "DimStore", some "id"⟩]⟩
  ⟨⟨"StarDB", [sales, store]⟩, ⟨0⟩, sales,
    [⟨"Store", store, "City", some ⟨0⟩⟩, ⟨"store", store, "City", some ⟨0⟩⟩], [],
    [⟨"Store", ⟨sales, "Quantity", some ⟨0⟩⟩, .other "SUM"⟩,
      ⟨"Sold", ⟨sales, "Quantity", some ⟨0⟩⟩, .sum⟩]⟩

private def alikeNamesText : String :=
  "select\n    DimStore.City as \"Store\",\n    DimStore.City as \"store\",\n" ++
    "    SUM(FactSales.Quantity) as \"Store\",\n    sum(FactSales.Quantity) as \"Sold\"\n" ++
    "from FactSales\njoin DimStore on DimStore.id = FactSales.StoreId\n" ++
    "group by\n    DimStore.City,\n    DimStore.City"

/-- Each of the names binds to its own member, and the whole listing has an item for each. -/
theorem listing_of_alikeNames :
    Schema.build ⟨0⟩ alikeNames = .ok alikeNamesSchema ∧
    alikeNamesSchema.star.dimension? "store" = alikeNamesSchema.star.dimensions[1]? ∧
    alikeNamesSchema.star.dimension? "STORE" = none ∧
    (Request.ofListing (listing alikeNamesSchema.star)).bind alikeNamesSchema.star ⟨false, false⟩ =
      .ok (some alikeNamesText) ∧
    ∃ selection statement, (Request.ofListing (listing alikeNamesSchema.star)).select
        alikeNamesSchema.star false = .ok selection ∧
      selection.query.statement = .ok statement ∧
      statement.outputs.map OutputColumn.label =
        [some "Store", some "store", some "Store", some "Sold"] := by
  have built : Schema.build ⟨0⟩ alikeNames = .ok alikeNamesSchema := by rfl
  have compiled : (Request.ofListing (listing alikeNamesSchema.star)).bind alikeNamesSchema.star
      ⟨false, false⟩ = .ok (some alikeNamesText) := by decide +kernel
  obtain ⟨_, _, dimensions, _, unlisted, _, whole⟩ := listing_of_build built
  obtain ⟨_, _, _, _, found⟩ := dimensions 1 ⟨"store", "DimStore", "City"⟩ rfl
  refine ⟨built, found, unlisted "STORE" (by decide), compiled, ?_⟩
  rcases (whole ⟨false, false⟩).2 (by decide) with ⟨table, failed⟩ | bound
  · rw [compiled] at failed
    cases failed
  · obtain ⟨selection, statement, selected, stated, _, labels⟩ := bound
    exact ⟨selection, statement, selected, stated, labels⟩

end Report

end StarReport
