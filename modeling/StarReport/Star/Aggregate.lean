/-!
The aggregate functions of measures. Five functions are known by their lower-case names; every
other spelling is kept as it stands, so writing a function after reading it gives the text back.
-/

set_option autoImplicit false
set_option relaxedAutoImplicit false

namespace StarReport.Star

inductive AggregateFunction where
  | sum
  | avg
  | count
  | min
  | max
  | other (spelling : String)
deriving DecidableEq

namespace AggregateFunction

def ofText (spelling : String) : AggregateFunction :=
  if spelling = "sum" then .sum
  else if spelling = "avg" then .avg
  else if spelling = "count" then .count
  else if spelling = "min" then .min
  else if spelling = "max" then .max
  else .other spelling

/-- The spelling of a function, as documents and statements hold it. -/
def text : AggregateFunction → String
  | .sum => "sum"
  | .avg => "avg"
  | .count => "count"
  | .min => "min"
  | .max => "max"
  | .other spelling => spelling

@[simp] theorem text_ofText (spelling : String) : (ofText spelling).text = spelling := by
  unfold ofText
  repeat' split
  all_goals first | rfl | (subst_vars; rfl)

end AggregateFunction

end StarReport.Star
