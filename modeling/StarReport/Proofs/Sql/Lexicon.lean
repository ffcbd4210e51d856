import StarReport.Proofs.Sql.Delimited
import StarReport.Sql.Validity

/-!
What is asked of a parser of SQL. Its tokenizer takes words and quoted names as they are written,
whatever a quoted name holds, and its grammar has selections: items with labels, from a table and
tables joined to it, perhaps grouped by columns. Both are stated over lexemes, which are as much of a
text as a parser has to tell apart; which token a lexeme becomes is the parser's own affair.
-/

set_option autoImplicit false
set_option relaxedAutoImplicit false

namespace StarReport.Sql

open StarReport.Star (AggregateFunction)

/-! ### Lexemes of a text -/

inductive Lexeme where
  | quoted (name : String)
  | word (spelling : String)
  | dot
  | comma
  | openParenthesis
  | closeParenthesis
  | equals
deriving DecidableEq

/-- A name or a word as it is written. -/
def Lexeme.text : Lexeme → List Char
  | .quoted name => (Quoted.quote name).toList
  | .word spelling => spelling.toList
  | .dot => ['.']
  | .comma => [',']
  | .openParenthesis => ['(']
  | .closeParenthesis => [')']
  | .equals => ['=']

/-- The characters that a word may begin with. -/
def beginsWord (c : Char) : Bool := c.isAlpha || c = '_'

/-- ASCII words that begin with a letter or a low line. -/
structure IsAsciiWord (spelling : String) : Prop where
  begins : ∃ c ∈ spelling.toList.head?, beginsWord c = true
  letters : ∀ c ∈ spelling.toList, isWord c = true

/-- The lexemes that can stand for a name, keywords among them. -/
inductive Lexeme.IsName : Lexeme → Prop
  | quoted (name : String) : IsName (.quoted name)
  | word {spelling : String} : IsAsciiWord spelling → IsName (.word spelling)

/-- A text at whose start neither a name goes on nor a part of one follows. -/
def Bounded (rest : List Char) : Prop := ∀ c ∈ rest.head?, c ∈ [' ', '\n', ',', '(', ')']

/-- A text that is written with the given lexemes. The parts of a name stand side by side with a
point between; blanks may stand before and after everything else. -/
inductive Spells : List Lexeme → List Char → Prop
  | nil : Spells [] []
  | blank {c : Char} {lexemes : List Lexeme} {rest : List Char} : c = ' ' ∨ c = '\n' →
      Spells lexemes rest → Spells lexemes (c :: rest)
  | name {lexeme : Lexeme} {lexemes : List Lexeme} {rest : List Char} : lexeme.IsName →
      Bounded rest → Spells lexemes rest → Spells (lexeme :: lexemes) (lexeme.text ++ rest)
  | qualified {outer inner : Lexeme} {lexemes : List Lexeme} {rest : List Char} : outer.IsName →
      inner.IsName → Spells (inner :: lexemes) (inner.text ++ rest) →
      Spells (outer :: .dot :: inner :: lexemes) (outer.text ++ '.' :: (inner.text ++ rest))
  | comma {lexemes : List Lexeme} {rest : List Char} : Spells lexemes rest →
      Spells (.comma :: lexemes) (',' :: rest)
  | openParenthesis {lexemes : List Lexeme} {rest : List Char} : Spells lexemes rest →
      Spells (.openParenthesis :: lexemes) ('(' :: rest)
  | closeParenthesis {lexemes : List Lexeme} {rest : List Char} : Spells lexemes rest →
      Spells (.closeParenthesis :: lexemes) (')' :: rest)
  | equals {lexemes : List Lexeme} {rest : List Char} : Spells lexemes (' ' :: rest) →
      Spells (.equals :: lexemes) ('=' :: ' ' :: rest)

/-- What is known of a parser: the words that it keeps for itself, the tokens that it makes of
lexemes, and which of its tokens are mere blanks. -/
structure Lexicon (parser : Parser) where
  keyword : String → Prop
  token : Lexeme → parser.Token
  blank : parser.Token → Bool

namespace Lexicon

variable {parser : Parser} (lexicon : Lexicon parser)

/-- Words that need no quotes to be names. -/
structure PlainName (name : String) : Prop where
  word : IsAsciiWord name
  free : ¬lexicon.keyword name

/-- Tokens that come to the given lexemes, but for blanks. -/
def Tokenizes (tokens : List parser.Token) (lexemes : List Lexeme) : Prop :=
  (tokens.filter fun token => !lexicon.blank token) = lexemes.map lexicon.token

/-- A text has the tokens of the lexemes that it is written with. In particular a quoted name is one
token, whatever stands between its quotes. -/
def Separates : Prop :=
  ∀ (lexemes : List Lexeme) (text : String), Spells lexemes text.toList →
    ∃ tokens, parser.tokens text = .ok tokens ∧ lexicon.Tokenizes tokens lexemes

/-! ### Selections -/

inductive Identifier : Lexeme → Prop
  | quoted (name : String) : Identifier (.quoted name)
  | word {name : String} : lexicon.PlainName name → Identifier (.word name)

/-- A column with its table. -/
inductive Column : List Lexeme → Prop
  | mk {table column : Lexeme} : lexicon.Identifier table → lexicon.Identifier column →
      Column [table, .dot, column]

/-- A column, or a call of one of the known functions with it. -/
inductive Expression : List Lexeme → Prop
  | column {column : List Lexeme} : lexicon.Column column → Expression column
  | call {function : AggregateFunction} {column : List Lexeme} : Known function →
      lexicon.Column column →
      Expression (.word function.text :: .openParenthesis :: (column ++ [.closeParenthesis]))

inductive Item : List Lexeme → Prop
  | unlabelled {expression : List Lexeme} : lexicon.Expression expression → Item expression
  | labelled {expression : List Lexeme} (label : String) : lexicon.Expression expression →
      Item (expression ++ [.word "as", .quoted label])

/-- Entries with commas between them, at least one. -/
inductive Listed (entry : List Lexeme → Prop) : List Lexeme → Prop
  | single {lexemes : List Lexeme} : entry lexemes → Listed entry lexemes
  | cons {first others : List Lexeme} : entry first → Listed entry others →
      Listed entry (first ++ .comma :: others)

/-- Tables joined one after another, each on columns that are equal. -/
inductive Joins : List Lexeme → Prop
  | nil : Joins []
  | cons {table : Lexeme} {left right others : List Lexeme} : lexicon.Identifier table →
      lexicon.Column left → lexicon.Column right → Joins others →
      Joins (.word "join" :: table :: .word "on" :: (left ++ .equals :: (right ++ others)))

inductive Grouping : List Lexeme → Prop
  | none : Grouping []
  | columns {columns : List Lexeme} : Listed lexicon.Column columns →
      Grouping (.word "group" :: .word "by" :: columns)

inductive Selection : List Lexeme → Prop
  | mk {items joins grouping : List Lexeme} {root : Lexeme} : Listed lexicon.Item items →
      lexicon.Identifier root → lexicon.Joins joins → lexicon.Grouping grouping →
      Selection (.word "select" :: (items ++ .word "from" :: root :: (joins ++ grouping)))

/-- The tokens of a selection are one statement to the grammar. -/
def Accepts : Prop :=
  ∀ (lexemes : List Lexeme) (tokens : List parser.Token), lexicon.Selection lexemes →
    lexicon.Tokenizes tokens lexemes → ∃ statement, parser.statements tokens = .ok [statement]

end Lexicon

end StarReport.Sql
