/-!
A check of SQL texts: whether a text is exactly one statement. What is a statement is left to a
parser of SQL, which splits a text into tokens and the tokens into statements.
-/

set_option autoImplicit false
set_option relaxedAutoImplicit false

namespace StarReport.Sql

/-- A parser of SQL. Where it gives up, it names a cause. -/
structure Parser where
  Token : Type
  Statement : Type
  tokens : String → Except String (List Token)
  statements : List Token → Except String (List Statement)

def Parser.parse (parser : Parser) (sql : String) : Except String (List parser.Statement) := do
  let tokens ← parser.tokens sql
  parser.statements tokens

inductive ValidityError where
  | unreadable (cause : String)
  | count (found : Nat)
deriving DecidableEq

/-- The wording of an error, given the text. -/
def ValidityError.message (sql : String) (error : ValidityError) : String :=
  let cause := match error with
    | .unreadable cause => cause
    | .count found => "expected one statement, found " ++ toString found
  "Invalid SQL: " ++ cause ++ "\nSQL: " ++ sql

def check (parser : Parser) (sql : String) : Except ValidityError Unit :=
  match parser.parse sql with
  | .error cause => .error (.unreadable cause)
  | .ok statements =>
    if statements.length = 1 then .ok () else .error (.count statements.length)

end StarReport.Sql
