/-!
Keywords of SQL, in groups by what they do. A keyword is written in either case; a letter outside
the Latin alphabet counts for the Latin ones that it becomes in upper case.
-/

set_option autoImplicit false
set_option relaxedAutoImplicit false

namespace StarReport.Sql.Keyword

/-- Words that begin another part of a statement, and so are no labels of columns. -/
def columnStops : List String :=
  ["with", "explain", "analyze", "select", "where", "group", "sort", "having", "order", "top",
    "lateral", "view", "limit", "offset", "fetch", "union", "except", "intersect", "cluster",
    "distribute", "returning", "from", "into", "end"]

/-- Words that begin another part of a statement, and so are no labels of tables. -/
def tableStops : List String :=
  ["with", "explain", "analyze", "select", "where", "group", "sort", "having", "order", "pivot",
    "unpivot", "top", "lateral", "view", "limit", "offset", "fetch", "union", "except",
    "intersect", "on", "join", "inner", "cross", "full", "left", "right", "natural", "using",
    "cluster", "distribute", "global", "anti", "semi", "returning", "asof", "match_condition",
    "outer", "set", "qualify", "window", "end", "for", "partition", "prewhere", "settings",
    "format", "start", "connect", "match_recognize"]

/-- Words that are whole expressions. -/
def constants : List String :=
  ["true", "false", "null", "user", "current_user", "session_user", "current_catalog"]

/-- Words that are whole expressions, perhaps with arguments. -/
def clocks : List String :=
  ["current_date", "current_time", "current_timestamp", "localtime", "localtimestamp"]

/-- Words that begin a form of expression and cannot be names in one. -/
def reservedForms : List String := ["exists", "interval", "struct", "trim"]

/-- Words that begin a form of expression, or else are names. -/
def forms : List String :=
  ["not", "case", "cast", "try_cast", "safe_cast", "array", "ceil", "floor", "extract", "position",
    "overlay", "substring"]

/-- Words that compare with all or some of several values. -/
def quantities : List String := ["any", "all", "some"]

/-- Words between expressions. -/
def operators : List String :=
  ["or", "and", "xor", "overlaps", "operator", "div", "is", "not", "in", "between", "like", "ilike",
    "rlike", "regexp", "similar", "at"]

/-- The other words that take part in an expression. -/
def expressionParts : List String :=
  ["when", "then", "else", "both", "leading", "trailing", "as", "value", "collate", "escape", "to",
    "time", "zone", "unknown", "distinct", "over", "by", "asc", "desc", "nulls", "first", "last",
    "precision", "varying", "unsigned", "without", "placing"]

/-- The other words that take part in a statement. -/
def statementParts : List String :=
  ["percent", "ties", "table", "unnest", "apply", "cube", "rollup", "grouping", "sets", "totals",
    "values", "row", "rows", "temp", "temporary", "unlogged", "delete", "drop", "if", "index",
    "role", "schema", "database", "sequence", "stage", "type", "cascade", "restrict", "purge",
    "begin", "commit", "rollback", "transaction", "work"]

def all : List String :=
  columnStops ++ tableStops ++ constants ++ clocks ++ reservedForms ++ forms ++ quantities ++
    operators ++ expressionParts ++ statementParts

def letters (c : Char) : List Char :=
  match c with
  | '\u0131' => ['i']
  | '\u017F' => ['s']
  | '\u00DF' => ['s', 's']
  | '\uFB00' => ['f', 'f']
  | '\uFB01' => ['f', 'i']
  | '\uFB02' => ['f', 'l']
  | '\uFB03' => ['f', 'f', 'i']
  | '\uFB04' => ['f', 'f', 'l']
  | '\uFB05' => ['s', 't']
  | '\uFB06' => ['s', 't']
  | c => [c.toLower]

def ofWord? (word : List Char) : Option String :=
  let spelling := String.ofList (word.flatMap letters)
  if spelling ∈ all then some spelling else none

end StarReport.Sql.Keyword
