import StarReport.Sql.Grammar.Queries
import StarReport.Sql.Validity

/-!
Texts of several statements. Semicolons stand between statements, and those without a statement
between them do not count.
-/

set_option autoImplicit false
set_option relaxedAutoImplicit false

namespace StarReport.Sql.Grammar

/-- The statements of a text, each with its tokens; `separated` says that one may begin here. After a
statement the word that ends blocks ends the text as well. -/
def statementsWithin : Nat → Bool → List Token → Option (List (List Token))
  | _, _, [] => some []
  | 0, _, _ => none
  | bound + 1, _, .semicolon :: rest => statementsWithin bound true rest
  | bound + 1, true, tokens => do
    let rest ← statement tokens
    let others ← statementsWithin bound false rest
    return tokens.take (tokens.length - rest.length) :: others
  | _, false, tokens => (keyword "end" tokens).map fun _ => []

def statements (tokens : List Token) : Option (List (List Token)) :=
  statementsWithin (tokens.length + 1) true tokens

/-- The parser that knows the statements of this grammar. -/
def parser : Parser where
  Token := Token
  Statement := List Token
  tokens sql := match Token.scan sql.toList with
    | some tokens => .ok tokens
    | none => .error "a quote or a comment is not closed, or a point stands alone"
  statements tokens := match statements tokens with
    | some statements => .ok statements
    | none => .error "the text is no sequence of statements"

end StarReport.Sql.Grammar
