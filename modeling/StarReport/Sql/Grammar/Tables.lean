import StarReport.Sql.Grammar.Expression

/-!
Tables of a query: each a named table, a call, a query or a group in parentheses, with a label
perhaps, and other tables joined to it. Some joins take a condition, which may be left out.
-/

set_option autoImplicit false
set_option relaxedAutoImplicit false

namespace StarReport.Sql.Grammar.Level

variable (inner : Level)

def unlabelledTable : Recogniser := fun tokens =>
  match keyword "lateral" tokens with
  | some rest => either (parenthesised inner.query) (both name inner.arguments) rest
  | none =>
    match keyword "table" tokens with
    | some rest => parenthesised inner.whole rest
    | none =>
      match keyword "unnest" tokens with
      | some rest => parenthesised (entries inner.whole) rest
      | none =>
        if tokens.head? = some .openParenthesis then
          either (parenthesised inner.query) (parenthesised inner.tables) tokens
        else both name (ifNext .openParenthesis inner.arguments) tokens

def table : Recogniser := both inner.unlabelledTable (label Keyword.tableStops)

/-- The words of a join that takes no condition. -/
def bareJoin : Recogniser :=
  either (keywords ["cross", "join"]) (either (keywords ["cross", "apply"])
    (keywords ["outer", "apply"]))

/-- The words of a join that may take a condition. -/
def conditionedJoin : Recogniser := fun tokens =>
  match anyKeyword ["left", "right"] tokens with
  | some rest => both (optional (anyKeyword ["outer", "semi", "anti"])) (keyword "join") rest
  | none =>
    match keyword "full" tokens with
    | some rest => both (optional (keyword "outer")) (keyword "join") rest
    | none => both (optional (anyKeyword ["inner", "semi", "anti"])) (keyword "join") tokens

def joinCondition : Recogniser := fun tokens =>
  match keyword "on" tokens with
  | some rest => inner.whole rest
  | none => opened (keyword "using") (parenthesised (entries namePart)) tokens

/-- The words of a join, and whether it may take a condition. -/
def joinWords (tokens : List Token) : Option (Bool × List Token) :=
  match either bareJoin (both (keyword "natural") conditionedJoin) tokens with
  | some rest => some (false, rest)
  | none => (conditionedJoin tokens).map (true, ·)

/-- Joined tables, at most `bound` of them. -/
def joinsWithin : Nat → Recogniser
  | 0, tokens => some tokens
  | bound + 1, tokens => do
    let tokens ← optional (keyword "global") tokens
    match joinWords tokens with
    | none => some tokens
    | some (conditioned, rest) =>
      let rest ← inner.table rest
      let rest ← if conditioned then inner.joinCondition rest else some rest
      joinsWithin bound rest

def tableWithJoins : Recogniser := fun tokens => do
  let rest ← inner.table tokens
  inner.joinsWithin (rest.length + 1) rest

end StarReport.Sql.Grammar.Level
