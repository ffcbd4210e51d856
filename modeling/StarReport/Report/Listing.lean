import StarReport.Star.Basic

/-!
The listing of a star: its dimensions and then its measures, in the order in which the star holds
them.
-/

set_option autoImplicit false
set_option relaxedAutoImplicit false

namespace StarReport.Report

open StarReport.Star (AggregateFunction)

inductive Field where
  | dimension (name : String)
  | measure (name : String) (function : AggregateFunction)
deriving DecidableEq

def listing (star : Star) : List Field :=
  star.dimensions.map (fun d => .dimension d.name) ++
    star.measures.map (fun m => .measure m.name m.function)

end StarReport.Report
