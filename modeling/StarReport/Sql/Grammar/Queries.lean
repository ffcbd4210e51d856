import StarReport.Sql.Grammar.Tables

/-!
Queries and statements. A selection has items with labels, tables, conditions and columns to group
by; several queries may be combined, and the result may be ordered and cut. Besides queries,
statements are known that remove rows, or tables and the like, and that begin and end transactions.
Queries and expressions stand inside each other in at most fifty levels, the statement being the
first.
-/

set_option autoImplicit false
set_option relaxedAutoImplicit false

namespace StarReport.Sql.Grammar

namespace Level

variable (inner : Level)

/-- An item of a selection. All columns have no label, and the word that begins the list of tables
is no expression by itself. -/
def item : Recogniser := fun tokens =>
  match allColumns tokens with
  | some rest => some rest
  | none => do
    let rest ← inner.whole tokens
    if keyword "from" tokens = some rest then none else label Keyword.columnStops rest

/-- What stands between the first word of a selection and its items: whether all rows count or
distinct ones, and how many at the top. -/
def selectionHead : Recogniser :=
  both (fun tokens => match keyword "distinct" tokens with
    | some rest => opened (keyword "on") (parenthesised (entries inner.whole)) rest
    | none => quantifier tokens)
    (opened (keyword "top") (both (either (token (.number true)) (parenthesised inner.whole))
      (both (optional (keyword "percent")) (optional (keywords ["with", "ties"])))))

/-- The table that takes the result of a selection. -/
def target : Recogniser :=
  opened (keyword "into") (both (optional (anyKeyword ["temp", "temporary"]))
    (both (optional (keyword "unlogged")) (both (optional (keyword "table")) name)))

/-- Several expressions or none in parentheses, or one without them. -/
def tuple : Recogniser := fun tokens =>
  if tokens.head? = some .openParenthesis then
    parenthesised (unlessNext .closeParenthesis (entries inner.whole)) tokens
  else inner.whole tokens

def grouping : Recogniser := fun tokens =>
  match either (keywords ["grouping", "sets"]) (anyKeyword ["cube", "rollup"]) tokens with
  | some rest => parenthesised (entries inner.tuple) rest
  | none => either (both (token .openParenthesis) (token .closeParenthesis)) inner.whole tokens

def groupings : Recogniser :=
  opened (keywords ["group", "by"]) (both
    (fun tokens => match keyword "all" tokens with
      | some rest => some rest
      | none => entries inner.grouping tokens)
    (repeated (keyword "with") (anyKeyword ["rollup", "cube", "totals"])))

def selection : Recogniser := fun tokens => do
  let rest ← keyword "select" tokens
  let rest ← inner.selectionHead rest
  let rest ← entries inner.item rest
  let rest ← target rest
  let rest ← opened (keyword "from") (entries inner.tableWithJoins) rest
  let rest ← opened (keyword "prewhere") inner.whole rest
  let rest ← opened (keyword "where") inner.whole rest
  let rest ← inner.groupings rest
  opened (keyword "having") inner.whole rest

def simpleQuery : Recogniser := fun tokens =>
  if tokens.head? = some .openParenthesis then parenthesised inner.query tokens
  else match keyword "values" tokens with
    | some rest => entries (parenthesised (entries inner.whole)) rest
    | none => inner.selection tokens

def combination : Recogniser :=
  both (anyKeyword ["union", "except", "intersect"]) (optional (anyKeyword ["all", "distinct"]))

/-- A query that is named for use in another. -/
def namedQuery : Recogniser :=
  both namePart (both (ifNext .openParenthesis (parenthesised (entries namePart)))
    (both (keyword "as") (parenthesised inner.query)))

/-- How many rows of a result are given, and how many are left out before them. -/
def cut : Recogniser := fun tokens =>
  match keyword "limit" tokens with
  | some rest =>
    either (keyword "all") (both inner.whole (opened (token .comma) inner.whole)) rest
  | none =>
    both (keyword "offset") (both inner.whole (optional (anyKeyword ["row", "rows"]))) tokens

def wholeQuery : Recogniser := fun tokens => do
  let rest ← opened (keyword "with") (entries inner.namedQuery) tokens
  let rest ← inner.simpleQuery rest
  let rest ← repeated combination inner.simpleQuery rest
  let rest ← inner.ordering rest
  let rest ← optional inner.cut rest
  optional inner.cut rest

end Level

def levels : Nat → Level
  | 0 => ⟨fun _ _ => none, fun _ => none, fun _ => none⟩
  | depth + 1 =>
    let inner := levels depth
    ⟨inner.operation, inner.wholeQuery, inner.tableWithJoins⟩

def statementLevel : Level := levels 49

def removal : Recogniser := fun tokens => do
  let rest ← keyword "drop" tokens
  let rest ← anyKeyword ["table", "view", "index", "role", "schema", "database", "sequence",
    "stage", "type"] rest
  let rest ← optional (keywords ["if", "exists"]) rest
  let rest ← entries name rest
  let rest ← optional (anyKeyword ["cascade", "restrict"]) rest
  optional (keyword "purge") rest

def rowRemoval : Recogniser := fun tokens => do
  let rest ← keyword "delete" tokens
  let rest ← optional (keyword "from") rest
  let rest ← entries statementLevel.tables rest
  opened (keyword "where") statementLevel.whole rest

def transaction : Recogniser :=
  both (anyKeyword ["begin", "commit", "rollback", "end"])
    (optional (anyKeyword ["transaction", "work"]))

def statement : Recogniser := fun tokens =>
  match tokens with
  | .keyword word :: _ =>
    if word = "drop" then removal tokens
    else if word = "delete" then rowRemoval tokens
    else if word ∈ ["select", "with", "values"] then statementLevel.query tokens
    else transaction tokens
  | .openParenthesis :: _ => statementLevel.query tokens
  | _ => none

end StarReport.Sql.Grammar
