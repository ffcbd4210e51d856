import StarReport.Sql.Grammar.Recogniser

/-!
Expressions. An expression is a term, and after it any number of operators with their operands; an
operator is taken as long as it binds more strongly than what stands around the expression. What is
inside another expression comes from the level of nesting below.
-/

set_option autoImplicit false
set_option relaxedAutoImplicit false

namespace StarReport.Sql.Grammar

/-- What a level of nesting offers to the level above: expressions of operators that bind more
strongly than a given strength, queries, and tables with their joins. -/
structure Level where
  expression : Nat → Recogniser
  query : Recogniser
  tables : Recogniser

namespace Level

variable (inner : Level)

def whole : Recogniser := inner.expression 0

/-- An expression that is one term, as no operator binds so strongly. -/
def single : Recogniser := inner.expression Strength.access

/-- The parts of a name after the first, with a star for the last. -/
def lastStar : Recogniser
  | .dot :: .star :: rest => some rest
  | .dot :: head :: rest => if head.isNamePart then lastStar rest else none
  | _ => none

/-- A star, or a name with a star for its last part. -/
def allColumns : Recogniser := either (token .star) (both namePart lastStar)

def columns : Recogniser := either allColumns inner.whole

/-- A word that asks for all values or the distinct ones, if there is one. -/
def quantifier : Recogniser := fun tokens =>
  match keyword "all" tokens with
  | some rest => if (keyword "distinct" rest).isSome then none else some rest
  | none => optional (keyword "distinct") tokens

/-- The sign between the name of an argument and its value. -/
def argumentMark : Recogniser :=
  either (keyword "value") (either (token .arrow) (token .assignment))

def argument : Recogniser :=
  either (both namePart (both argumentMark inner.columns)) inner.columns

def ordering : Recogniser :=
  opened (keywords ["order", "by"])
    (entries (both inner.whole (both (optional (anyKeyword ["asc", "desc"]))
      (opened (keyword "nulls") (anyKeyword ["first", "last"])))))

def arguments : Recogniser :=
  both (token .openParenthesis) (either (token .closeParenthesis)
    (both quantifier (both (entries inner.argument)
      (both inner.ordering (token .closeParenthesis)))))

def window : Recogniser :=
  either (parenthesised (both (opened (keywords ["partition", "by"]) (entries inner.whole))
    inner.ordering)) namePart

/-- What a call has after its name: arguments once or twice, and perhaps a window. -/
def call : Recogniser :=
  both inner.arguments (both (ifNext .openParenthesis inner.arguments)
    (opened (keyword "over") inner.window))

def nameOrCall : Recogniser :=
  both (repeated (token .dot) namePart) (ifNext .openParenthesis inner.call)

def number : Recogniser := either (token (.number true)) (token (.number false))

/-- The name of a type, with its parameters and whether it is a list. -/
def typeName : Recogniser := fun tokens => do
  let rest ← both word (repeated (token .dot) namePart) tokens
  let rest ← optional (anyKeyword ["precision", "varying", "unsigned"]) rest
  let rest ← ifNext .openParenthesis (parenthesised (entries (either number namePart))) rest
  let rest ← optional (both (anyKeyword ["with", "without"]) (keywords ["time", "zone"])) rest
  repeated (token .openBracket) (both (optional number) (token .closeBracket)) rest

def cases : Recogniser :=
  let case := both inner.whole (both (keyword "then") inner.whole)
  both (unlessNext (.keyword "when") inner.whole) (both (keyword "when") (both case
    (both (repeated (keyword "when") case)
      (both (opened (keyword "else") inner.whole) (keyword "end")))))

def items : Recogniser :=
  either (token .closeBracket) (both (entries inner.whole) (token .closeBracket))

def trimming : Recogniser :=
  parenthesised (both (optional (anyKeyword ["both", "leading", "trailing"]))
    (both inner.whole (either (both (keyword "from") inner.whole)
      (opened (token .comma) (entries inner.whole)))))

/-- A number to round, with the part of a time that it is rounded to. -/
def rounding : Recogniser :=
  parenthesised (both inner.whole (opened (keyword "to") word))

/-- A part of a time, and the time. -/
def extraction : Recogniser :=
  parenthesised (both namePart (both (either (keyword "from") (token .comma)) inner.whole))

/-- What is looked for, and where. -/
def position : Recogniser :=
  parenthesised (both (inner.expression Strength.comparison) (both (keyword "in") inner.whole))

/-- A text, what is put over it, where that begins and how much it covers. -/
def overlay : Recogniser :=
  parenthesised (both inner.whole (both (keyword "placing") (both inner.whole
    (both (keyword "from") (both inner.whole (opened (keyword "for") inner.whole))))))

/-- A text, where the part of it begins and how long it is. -/
def substring : Recogniser :=
  parenthesised (both inner.whole (both (opened (keyword "from") inner.whole)
    (opened (keyword "for") inner.whole)))

/-- The form of expression that a word begins, after the word. -/
def form (word : String) : Recogniser :=
  if word = "exists" then parenthesised inner.query
  else if word = "interval" then inner.single
  else if word = "struct" then
    parenthesised (entries (both inner.whole (opened (keyword "as") namePart)))
  else if word = "trim" then inner.trimming
  else if word = "not" then inner.expression Strength.negation
  else if word = "case" then inner.cases
  else if word ∈ ["cast", "try_cast", "safe_cast"] then
    parenthesised (both inner.whole (both (keyword "as") typeName))
  else if word = "array" then
    either (both (token .openBracket) inner.items) (parenthesised inner.query)
  else if word ∈ ["ceil", "floor"] then inner.rounding
  else if word = "extract" then inner.extraction
  else if word = "position" then inner.position
  else if word = "overlay" then inner.overlay
  else if word = "substring" then inner.substring
  else fun _ => none

/-- An expression that a keyword begins, after the keyword. Where a word begins no form, or not as
it should, it is a name if it may be one. -/
def afterKeyword (word : String) : Recogniser :=
  if word ∈ Keyword.constants then some
  else if word ∈ Keyword.clocks then ifNext .openParenthesis inner.arguments
  else if word ∈ Keyword.reservedForms then inner.form word
  else if word ∈ Keyword.forms then either (inner.form word) inner.nameOrCall
  else inner.nameOrCall

/-- Whether a query stands at the head of the tokens. -/
def beginsQuery (tokens : List Token) : Bool := (anyKeyword ["select", "with"] tokens).isSome

/-- A query or expressions, after an opening parenthesis, and perhaps a part of them. -/
def group : Recogniser := fun tokens => do
  let rest ← if beginsQuery tokens then inner.query tokens else entries inner.whole tokens
  let rest ← token .closeParenthesis rest
  opened (token .dot) word rest

def placeholder : Recogniser := either number word

/-- A term without what may come after it. -/
def plainTerm : Recogniser
  | .keyword word :: rest => inner.afterKeyword word rest
  | .name :: rest => inner.nameOrCall rest
  | .quotedText :: rest => some rest
  | .number _ :: rest => some rest
  | .literal :: rest => some rest
  | .sign :: rest => inner.expression Strength.product rest
  | .openParenthesis :: rest => inner.group rest
  | .openBracket :: rest => inner.items rest
  | .colon :: rest => placeholder rest
  | .atSign :: rest => placeholder rest
  | _ => none

/-- A term, perhaps with the rule by which its characters are compared. -/
def term : Recogniser := both inner.plainTerm (opened (keyword "collate") name)

/-- How strongly an operator that is a word binds. -/
def keywordStrength (word : String) (rest : List Token) : Nat :=
  if word = "or" then Strength.disjunction
  else if word = "and" then Strength.conjunction
  else if word = "xor" then Strength.exclusion
  else if word = "is" then Strength.property
  else if word ∈ ["in", "between", "overlaps", "operator"] then Strength.comparison
  else if word ∈ ["like", "ilike", "rlike", "regexp", "similar"] then Strength.pattern
  else if word = "div" then Strength.product
  else if word = "at" then
    if (keywords ["time", "zone"] rest).isSome then Strength.zone else 0
  else if word = "not" then
    if (anyKeyword ["in", "between"] rest).isSome then Strength.comparison
    else if (anyKeyword ["like", "ilike", "rlike", "regexp", "similar"] rest).isSome then
      Strength.pattern
    else 0
  else 0

/-- How strongly what stands at the head of the tokens binds to an expression before it; nothing
else binds at all. -/
def strength : List Token → Nat
  | .keyword word :: rest => keywordStrength word rest
  | .operator strength :: _ => strength
  | .star :: _ => Strength.product
  | .sign :: _ => Strength.sum
  | .comparison :: _ => Strength.comparison
  | .assignment :: _ => Strength.comparison
  | .cast :: _ => Strength.access
  | .openBracket :: _ => Strength.access
  | _ => 0

/-- The right operand of an operator. A comparison may be with all or some of several values. -/
def operand (comparison : Bool) (strength : Nat) : Recogniser := fun tokens =>
  match anyKeyword Keyword.quantities tokens with
  | none => inner.expression strength tokens
  | some rest =>
    if !comparison then none
    else do
      let values ← token .openParenthesis rest
      if beginsQuery values then inner.expression strength rest
      else both (inner.expression strength) (token .closeParenthesis) values

def property : Recogniser :=
  both (optional (keyword "not"))
    (either (anyKeyword ["null", "true", "false", "unknown"])
      (both (keywords ["distinct", "from"]) inner.whole))

def membership : Recogniser :=
  either (both (keyword "unnest") (parenthesised inner.whole))
    (parenthesised fun tokens =>
      if beginsQuery tokens then inner.query tokens else entries inner.whole tokens)

def pattern : Recogniser :=
  both (inner.expression Strength.pattern) (opened (keyword "escape") (token .quotedText))

/-- The rest of a test by a word. -/
def test : Recogniser
  | .keyword word :: rest =>
    if word = "in" then inner.membership rest
    else if word = "between" then
      both (inner.expression Strength.comparison)
        (both (keyword "and") (inner.expression Strength.comparison)) rest
    else if word ∈ ["like", "ilike"] then both (optional (keyword "any")) inner.pattern rest
    else if word ∈ ["rlike", "regexp"] then inner.expression Strength.pattern rest
    else if word = "similar" then both (keyword "to") inner.pattern rest
    else none
  | _ => none

def subscript : Recogniser :=
  let close := token .closeBracket
  let step := both (token .colon) (either close (both inner.whole close))
  let upper := both (token .colon) (either close (both inner.whole (either close step)))
  either upper (both inner.whole (either close upper))

/-- An operator and all that it takes besides the expression before it. -/
def continuation : Recogniser
  | .keyword word :: rest =>
    if word ∈ ["or", "and", "xor", "overlaps"] then
      inner.operand false (keywordStrength word rest) rest
    else if word = "is" then inner.property rest
    else if word = "at" then
      both (keywords ["time", "zone"]) (inner.expression Strength.zone) rest
    else if word = "not" then inner.test rest
    else inner.test (.keyword word :: rest)
  | .operator strength :: rest => inner.operand false strength rest
  | .star :: rest => inner.operand false Strength.product rest
  | .sign :: rest => inner.operand false Strength.sum rest
  | .comparison :: rest => inner.operand true Strength.comparison rest
  | .assignment :: rest => inner.operand false Strength.comparison rest
  | .cast :: rest => typeName rest
  | .openBracket :: rest => inner.subscript rest
  | _ => none

/-- Operators that bind more strongly than `around`, at most `bound` of them. -/
def continuations (around : Nat) : Nat → Recogniser
  | 0, tokens => some tokens
  | bound + 1, tokens =>
    if around < strength tokens then
      (inner.continuation tokens).bind (continuations around bound)
    else some tokens

/-- An expression of operators that bind more strongly than `around`. -/
def operation (around : Nat) : Recogniser := fun tokens => do
  let rest ← inner.term tokens
  inner.continuations around rest.length rest

end Level

end StarReport.Sql.Grammar
