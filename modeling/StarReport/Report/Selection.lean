import StarReport.Refusable
import StarReport.Sql.Query
import StarReport.Star.Basic

/-!
A report: a selection of dimensions and measures of one star. A member is taken only if the star
owns it, and selecting it again changes nothing. The report's query has the star's fact as root,
the dimensions as plain columns and the measures as aggregates, each labelled with its name.
-/

set_option autoImplicit false
set_option relaxedAutoImplicit false

namespace StarReport.Report

open Sql (Query QueryError)
open StarReport.Star (Dimension Measure StarId)

inductive MemberKind where
  | dimension
  | measure
deriving DecidableEq

def MemberKind.text : MemberKind → String
  | .dimension => "Dimension"
  | .measure => "Measure"

/-- Why a report refuses a member or has no statement. -/
inductive ReportError where
  | membershipMismatch (kind : MemberKind) (name : String) (star : StarId)
  | query (cause : QueryError)
deriving DecidableEq

/-- The wording of an error, given how stars are called. -/
def ReportError.message (starName : StarId → String) : ReportError → String
  | .membershipMismatch kind name star =>
    kind.text ++ " [" ++ name ++ "] is not part of star " ++ starName star
  | .query cause => "SQL generation failed: " ++ cause.message

structure Selection where
  star : Star
  dimensions : List Dimension
  measures : List Measure
  caseSensitive : Bool
deriving DecidableEq

namespace Selection

def of (star : Star) : Selection := ⟨star, [], [], false⟩

def setCaseSensitive (selection : Selection) (on : Bool) : Selection :=
  { selection with caseSensitive := on }

def addDimension (selection : Selection) (dimension : Dimension) :
    Refusable ReportError Selection :=
  if dimension.owner = some selection.star.id then
    (.ok (), { selection with
      dimensions := Distinct.insert Dimension.identity selection.dimensions dimension })
  else (.error (.membershipMismatch .dimension dimension.name selection.star.id), selection)

def addMeasure (selection : Selection) (measure : Measure) : Refusable ReportError Selection :=
  if measure.owner = some selection.star.id then
    (.ok (), { selection with
      measures := Distinct.insert Measure.identity selection.measures measure })
  else (.error (.membershipMismatch .measure measure.name selection.star.id), selection)

def dimensionColumn (dimension : Dimension) : Sql.Selected :=
  ⟨dimension.table, dimension.column, some dimension.name, none⟩

def measureColumn (measure : Measure) : Sql.Selected :=
  ⟨measure.metric.table, measure.metric.column, some measure.name, some measure.function⟩

/-- The query of the selection; grouping is always asked for. -/
def query (selection : Selection) : Query :=
  (selection.dimensions.map dimensionColumn ++ selection.measures.map measureColumn).foldl
    Query.select
    (((Query.empty.setCaseSensitive selection.caseSensitive).setForceGrouping true).addTable
      selection.star.fact)

def sql (selection : Selection) : Except ReportError String :=
  selection.query.sql.mapError .query

end Selection

end StarReport.Report
