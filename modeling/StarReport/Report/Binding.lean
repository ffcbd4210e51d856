import StarReport.Report.Selection

/-!
Requests by name. A request lists the names of dimensions and measures; binding it to a star looks
the names up, dimensions first, selects what it finds and compiles the selection. An empty request
has nothing to compile.
-/

set_option autoImplicit false
set_option relaxedAutoImplicit false

namespace StarReport.Report

open StarReport.Star (StarId)

/-- The dimensions and measures asked for, by name, in order. -/
structure Request where
  dimensions : List String
  measures : List String
deriving DecidableEq

def Request.isEmpty (request : Request) : Bool :=
  request.dimensions.isEmpty && request.measures.isEmpty

structure Options where
  caseSensitive : Bool
  logQuery : Bool
deriving DecidableEq

inductive BindingError where
  | dimensionNotFound (name : String)
  | measureNotFound (name : String)
  | report (cause : ReportError)
deriving DecidableEq

def BindingError.message (starName : StarId → String) : BindingError → String
  | .dimensionNotFound name => "Dimension [" ++ name ++ "] not found"
  | .measureNotFound name => "Measure [" ++ name ++ "] not found"
  | .report cause => cause.message starName

namespace Selection

def addDimensionNamed (selection : Selection) (name : String) : Except BindingError Selection :=
  match selection.star.dimension? name with
  | none => .error (.dimensionNotFound name)
  | some dimension => (selection.addDimension dimension).proceed.mapError .report

def addMeasureNamed (selection : Selection) (name : String) : Except BindingError Selection :=
  match selection.star.measure? name with
  | none => .error (.measureNotFound name)
  | some measure => (selection.addMeasure measure).proceed.mapError .report

end Selection

namespace Request

def select (request : Request) (star : Star) (caseSensitive : Bool) :
    Except BindingError Selection := do
  let selection ← request.dimensions.foldlM Selection.addDimensionNamed
    ((Selection.of star).setCaseSensitive caseSensitive)
  request.measures.foldlM Selection.addMeasureNamed selection

/-- Bind a request: its statement, or `none` for an empty one, and what is written to the log on the
way. A statement is logged where the options ask for it. -/
def run (request : Request) (star : Star) (options : Options) :
    Except BindingError (Option String) × List String :=
  if request.isEmpty then (.ok none, [])
  else
    match request.select star options.caseSensitive with
    | .error cause => (.error cause, [])
    | .ok selection =>
      match selection.sql with
      | .error cause => (.error (.report cause), [])
      | .ok sql => (.ok (some sql), if options.logQuery then [sql] else [])

def bind (request : Request) (star : Star) (options : Options) :
    Except BindingError (Option String) := (request.run star options).1

def log (request : Request) (star : Star) (options : Options) : List String :=
  (request.run star options).2

end Request

end StarReport.Report
