import StarReport.Proofs.Sql.Reading

/-!
Selections are accepted. The grammar takes the tokens of columns, calls, conditions and tables as
they stand in a selection, each up to the token that ends it, and so the tokens of a selection are
one statement and nothing else.
-/

set_option autoImplicit false
set_option relaxedAutoImplicit false

namespace StarReport.Sql.Grammar

open StarReport.Star (AggregateFunction)

/-! ### Recognisers that find nothing -/

/-- The tokens are at their end, or one of the given tokens stands at their head. -/
def Follows (allowed rest : List Token) : Prop := ∀ head ∈ rest.head?, head ∈ allowed

section

variable {allowed rest : List Token}

theorem follows_nil (allowed : List Token) : Follows allowed [] := by
  intro head absurdity
  cases absurdity

theorem follows_cons {head : Token} (member : head ∈ allowed) (rest : List Token) :
    Follows allowed (head :: rest) := by
  intro other same
  obtain rfl : head = other := Option.some.inj same
  exact member

theorem Follows.head?_ne (follows : Follows allowed rest) {head : Token} (other : head ∉ allowed) :
    rest.head? ≠ some head := fun same => other (follows head same)

theorem Follows.token (follows : Follows allowed rest) {expected : Token}
    (other : expected ∉ allowed) : Grammar.token expected rest = none := by
  cases rest with
  | nil => rfl
  | cons head rest =>
    have different : head ≠ expected := by
      rintro rfl
      exact other (follows head rfl)
    simp [Grammar.token, different]

theorem opened_of_none {opening : Recogniser} (body : Recogniser) (closed : opening rest = none) :
    opened opening body rest = some rest := by
  simp [opened, closed]

theorem optional_of_none {part : Recogniser} (absent : part rest = none) :
    optional part rest = some rest := by
  simp [optional, absent]

theorem repeatedWithin_of_none {opening : Recogniser} (body : Recogniser)
    (closed : opening rest = none) (bound : Nat) :
    repeatedWithin opening body bound rest = some rest := by
  cases bound with
  | zero => rfl
  | succ bound => simp [repeatedWithin, closed]

theorem repeated_of_none {opening : Recogniser} (body : Recogniser)
    (closed : opening rest = none) : repeated opening body rest = some rest :=
  repeatedWithin_of_none body closed rest.length

theorem ifNext_of_ne {beginning : Token} (body : Recogniser)
    (other : rest.head? ≠ some beginning) : ifNext beginning body rest = some rest :=
  if_neg other

end

/-! ### Tokens of the parts of a selection -/

/-- The words that selections are written with are kept. -/
theorem tokenOf_word {spelling : String}
    (kept : spelling ∈ ["select", "as", "from", "join", "on", "group", "by"]) :
    tokenOf (.word spelling) = .keyword spelling := by
  have all : ∀ spelling ∈ ["select", "as", "from", "join", "on", "group", "by"],
      Token.ofWord spelling.toList = .keyword spelling := by
    decide +kernel
  exact all spelling kept

/-- The known functions are words that are not kept. -/
theorem tokenOf_function {function : AggregateFunction} (known : Known function) :
    tokenOf (.word function.text) = .name := by
  cases function with
  | other spelling => exact absurd rfl (known spelling)
  | _ => decide +kernel

theorem tokenOf_identifier {lexeme : Lexeme} (identifier : lexicon.Identifier lexeme) :
    tokenOf lexeme = .name := by
  cases identifier with
  | quoted name => rfl
  | @word name plain =>
    have free : Keyword.ofWord? name.toList = none := Decidable.not_not.mp plain.free
    rw [tokenOf, Token.ofWord, free]

/-- The tokens of a column: its table, a point and its name. -/
def columnTokens : List Token := [.name, .dot, .name]

theorem tokens_column {lexemes : List Lexeme} (column : lexicon.Column lexemes) :
    lexemes.map tokenOf = columnTokens := by
  obtain ⟨table, name⟩ := column
  simp [tokenOf_identifier table, tokenOf_identifier name, columnTokens]

/-- The tokens of a call with a column. -/
def callTokens : List Token := .name :: .openParenthesis :: (columnTokens ++ [.closeParenthesis])

theorem tokens_expression {lexemes : List Lexeme} (expression : lexicon.Expression lexemes) :
    lexemes.map tokenOf = columnTokens ∨ lexemes.map tokenOf = callTokens := by
  cases expression with
  | column column => exact .inl (tokens_column column)
  | call known column =>
    refine .inr ?_
    simp [tokenOf_function known, tokens_column column, callTokens]

/-! ### Lists of entries -/

section

variable {allowed rest : List Token} {recogniser : Recogniser} {entry : List Lexeme → Prop}
  {lexemes : List Lexeme}

theorem entries_single {tokens : List Token} (accepts : recogniser tokens = some rest)
    (follows : Follows allowed rest) (ends : Token.comma ∉ allowed) :
    entries recogniser tokens = some rest := by
  rw [entries, both, accepts]
  exact repeated_of_none recogniser (follows.token ends)

private theorem follows_comma (follows : Follows allowed rest) : Follows (.comma :: allowed) rest :=
  fun head first => List.mem_cons_of_mem _ (follows head first)

variable (accepts : ∀ lexemes, entry lexemes → ∀ {rest : List Token},
    Follows (.comma :: allowed) rest → recogniser (lexemes.map tokenOf ++ rest) = some rest)
  (follows : Follows allowed rest) (ends : Token.comma ∉ allowed)

include accepts follows ends

private theorem repeatedWithin_listed (listed : Lexicon.Listed entry lexemes) {bound : Nat}
    (covers : lexemes.length < bound) :
    repeatedWithin (token .comma) recogniser bound (.comma :: (lexemes.map tokenOf ++ rest)) =
      some rest := by
  induction listed generalizing bound with
  | @single lexemes only =>
    cases bound with
    | zero => simp at covers
    | succ bound =>
      have taken := accepts lexemes only (follows_comma follows)
      have closed := repeatedWithin_of_none recogniser (follows.token ends) bound
      simp only [repeatedWithin, token, if_true, taken, Option.bind_some, closed]
  | @cons first others head _ ih =>
    cases bound with
    | zero => simp at covers
    | succ bound =>
      have left : others.length < bound := by
        simp only [List.length_append, List.length_cons] at covers
        omega
      have taken := accepts first head
        (follows_cons List.mem_cons_self (others.map tokenOf ++ rest))
      rw [List.map_append, List.map_cons, List.append_assoc]
      simp only [repeatedWithin, token, if_true, List.cons_append, tokenOf_comma, taken,
        Option.bind_some, ih left]

/-- A list is taken where each entry is taken before a comma and before what follows the list. -/
theorem entries_listed (listed : Lexicon.Listed entry lexemes) :
    entries recogniser (lexemes.map tokenOf ++ rest) = some rest := by
  cases listed with
  | single only =>
    exact entries_single (accepts lexemes only (follows_comma follows)) follows ends
  | @cons first others head tail =>
    have taken := accepts first head
      (follows_cons List.mem_cons_self (others.map tokenOf ++ rest))
    rw [List.map_append, List.map_cons, List.append_assoc, entries, both, List.cons_append,
      tokenOf_comma, taken]
    refine repeatedWithin_listed accepts follows ends tail ?_
    simp only [List.length_cons, List.length_append, List.length_map]
    omega

end

/-- A list begins with what each entry begins with. -/
theorem head_listed {entry : List Lexeme → Prop} {lexemes : List Lexeme} {head : Token}
    (begins : ∀ lexemes, entry lexemes → ∃ tail, lexemes.map tokenOf = head :: tail)
    (listed : Lexicon.Listed entry lexemes) : ∃ tail, lexemes.map tokenOf = head :: tail := by
  cases listed with
  | single only => exact begins lexemes only
  | @cons first others only _ =>
    obtain ⟨tail, shape⟩ := begins first only
    exact ⟨tail ++ (Lexeme.comma :: others).map tokenOf, by rw [List.map_append, shape]; rfl⟩

/-! ### Terms and expressions -/

/-- The tokens that end an expression in a statement. -/
def expressionEnds : List Token :=
  [.comma, .closeParenthesis, .keyword "as", .keyword "from", .keyword "join", .keyword "group"]

/-- The tokens that end a term in a statement. -/
def termEnds : List Token := .comparison :: expressionEnds

theorem Follows.term {rest : List Token} (follows : Follows expressionEnds rest) :
    Follows termEnds rest :=
  fun head first => List.mem_cons_of_mem _ (follows head first)

/-- What ends an expression does not bind to it. -/
theorem strength_eq_zero {rest : List Token} (follows : Follows expressionEnds rest) :
    Level.strength rest = 0 := by
  cases rest with
  | nil => rfl
  | cons head rest =>
    have member := follows head rfl
    simp only [expressionEnds, List.mem_cons, List.not_mem_nil, or_false] at member
    rcases member with rfl | rfl | rfl | rfl | rfl | rfl <;> rfl

namespace Level

variable (inner : Level)

/-- A name goes on after a point and ends with its second part. -/
theorem repeated_namePart {rest : List Token} (ends : rest.head? ≠ some .dot) :
    repeated (token .dot) namePart (.dot :: .name :: rest) = some rest := by
  have closed : token .dot rest = none := by
    cases rest with
    | nil => rfl
    | cons head rest =>
      have other : head ≠ .dot := by simpa using ends
      simp [token, other]
  exact repeatedWithin_of_none namePart closed (rest.length + 1)

theorem term_column {rest : List Token} (follows : Follows termEnds rest) :
    inner.term (columnTokens ++ rest) = some rest := by
  have named : inner.nameOrCall (.dot :: .name :: rest) = some rest := by
    rw [nameOrCall, both, repeated_namePart (follows.head?_ne (by decide))]
    exact ifNext_of_ne _ (follows.head?_ne (by decide))
  have uncollated : opened (keyword "collate") name rest = some rest :=
    opened_of_none _ (follows.token (by decide))
  change (inner.nameOrCall (.dot :: .name :: rest)).bind _ = some rest
  rw [named]
  exact uncollated

theorem continuations_of_follows {rest : List Token} (follows : Follows expressionEnds rest)
    (around bound : Nat) : inner.continuations around bound rest = some rest := by
  cases bound with
  | zero => rfl
  | succ bound =>
    have weak : ¬around < strength rest := by
      rw [strength_eq_zero follows]
      exact Nat.not_lt_zero around
    exact if_neg weak

/-- A term that no operator follows is an expression by itself. -/
theorem operation_of_term {around : Nat} {tokens rest : List Token}
    (term : inner.term tokens = some rest) (follows : Follows expressionEnds rest) :
    inner.operation around tokens = some rest := by
  change (inner.term tokens).bind _ = some rest
  rw [term]
  exact inner.continuations_of_follows follows around rest.length

theorem operation_column {around : Nat} {rest : List Token}
    (follows : Follows expressionEnds rest) :
    inner.operation around (columnTokens ++ rest) = some rest :=
  inner.operation_of_term (inner.term_column follows.term) follows

/-- Levels that take columns as expressions, whatever operators stand around them. -/
def TakesColumns : Prop := ∀ {around : Nat} {rest : List Token}, Follows expressionEnds rest →
  inner.expression around (columnTokens ++ rest) = some rest

/-- Where no point goes on, a name has no star for its last part. -/
theorem lastStar_of_ne {rest : List Token} (ends : rest.head? ≠ some .dot) :
    lastStar rest = none := by
  unfold lastStar
  split
  · exact absurd rfl ends
  · exact absurd rfl ends
  · rfl

theorem allColumns_column {rest : List Token} (ends : rest.head? ≠ some .dot) :
    allColumns (columnTokens ++ rest) = none := by
  change lastStar rest = none
  exact lastStar_of_ne ends

variable {inner} (takes : inner.TakesColumns)
include takes

theorem TakesColumns.argument {rest : List Token} (follows : Follows expressionEnds rest) :
    inner.argument (columnTokens ++ rest) = some rest := by
  have unnamed : both namePart (both argumentMark inner.columns) (columnTokens ++ rest) = none :=
    rfl
  have column : inner.columns (columnTokens ++ rest) = some rest := by
    rw [columns, either, allColumns_column (follows.head?_ne (by decide))]
    exact takes follows
  rw [Level.argument, either, unnamed, column]
  rfl

theorem TakesColumns.arguments (rest : List Token) :
    inner.arguments (.openParenthesis :: (columnTokens ++ .closeParenthesis :: rest)) =
      some rest := by
  have quantified : quantifier (columnTokens ++ .closeParenthesis :: rest) =
      some (columnTokens ++ .closeParenthesis :: rest) := rfl
  have closes : Follows [.closeParenthesis] (.closeParenthesis :: rest) :=
    follows_cons List.mem_cons_self rest
  have listed : entries inner.argument (columnTokens ++ .closeParenthesis :: rest) =
      some (.closeParenthesis :: rest) :=
    entries_single (takes.argument (follows_cons (by decide) rest)) closes (by decide)
  have unordered : inner.ordering (.closeParenthesis :: rest) =
      some (.closeParenthesis :: rest) := rfl
  have inside : both quantifier (both (entries inner.argument) (both inner.ordering
      (token .closeParenthesis))) (columnTokens ++ .closeParenthesis :: rest) = some rest := by
    rw [both, quantified, Option.bind_some, both, listed, Option.bind_some, both, unordered]
    rfl
  exact inside

theorem TakesColumns.call {rest : List Token} (follows : Follows expressionEnds rest) :
    inner.call (.openParenthesis :: (columnTokens ++ .closeParenthesis :: rest)) = some rest := by
  have once : ifNext .openParenthesis inner.arguments rest = some rest :=
    ifNext_of_ne _ (follows.head?_ne (by decide))
  have plain : opened (keyword "over") inner.window rest = some rest :=
    opened_of_none _ (follows.token (by decide))
  rw [Level.call, both, takes.arguments, Option.bind_some, both, once]
  exact plain

theorem TakesColumns.term_call {rest : List Token} (follows : Follows expressionEnds rest) :
    inner.term (callTokens ++ rest) = some rest := by
  have named : repeated (token .dot) namePart
      (.openParenthesis :: (columnTokens ++ .closeParenthesis :: rest)) =
        some (.openParenthesis :: (columnTokens ++ .closeParenthesis :: rest)) :=
    repeated_of_none _ rfl
  have called : ifNext .openParenthesis inner.call
      (.openParenthesis :: (columnTokens ++ .closeParenthesis :: rest)) = some rest :=
    takes.call follows
  have uncollated : opened (keyword "collate") name rest = some rest :=
    opened_of_none _ (follows.token (by decide))
  change (inner.nameOrCall (.openParenthesis ::
    (columnTokens ++ .closeParenthesis :: rest))).bind _ = some rest
  rw [nameOrCall, both, named, Option.bind_some, called]
  exact uncollated

theorem TakesColumns.operation_call {around : Nat} {rest : List Token}
    (follows : Follows expressionEnds rest) :
    inner.operation around (callTokens ++ rest) = some rest :=
  inner.operation_of_term (takes.term_call follows) follows

/-- A column compared with another is an expression. -/
theorem TakesColumns.operation_equation {rest : List Token}
    (follows : Follows expressionEnds rest) :
    inner.operation 0 (columnTokens ++ .comparison :: (columnTokens ++ rest)) = some rest := by
  have left : inner.term (columnTokens ++ .comparison :: (columnTokens ++ rest)) =
      some (.comparison :: (columnTokens ++ rest)) :=
    inner.term_column (follows_cons List.mem_cons_self _)
  have right : inner.continuation (.comparison :: (columnTokens ++ rest)) = some rest :=
    takes follows
  have compared (bound : Nat) : inner.continuations 0 (bound + 1)
      (.comparison :: (columnTokens ++ rest)) = some rest := by
    have binds : 0 < strength (.comparison :: (columnTokens ++ rest)) := Nat.zero_lt_succ _
    rw [continuations, if_pos binds, right]
    exact inner.continuations_of_follows follows 0 bound
  rw [operation, left]
  exact compared _

end Level

/-- Levels that take the expressions of statements. -/
structure Level.TakesExpressions (inner : Level) : Prop where
  column : ∀ {rest : List Token}, Follows expressionEnds rest →
    inner.whole (columnTokens ++ rest) = some rest
  call : ∀ {rest : List Token}, Follows expressionEnds rest →
    inner.whole (callTokens ++ rest) = some rest
  equation : ∀ {rest : List Token}, Follows expressionEnds rest → inner.whole
    (columnTokens ++ .comparison :: (columnTokens ++ rest)) = some rest

/-- Two levels are enough, as no expression of a statement stands inside another one that stands
inside a third. -/
theorem levels_takesExpressions (depth : Nat) : (levels (depth + 2)).TakesExpressions := by
  have takes : (levels (depth + 1)).TakesColumns := fun follows =>
    (levels depth).operation_column follows
  exact ⟨fun follows => (levels (depth + 1)).operation_column follows,
    fun follows => takes.operation_call follows, fun follows => takes.operation_equation follows⟩

/-! ### Labels, select items and tables -/

theorem isSome_anyKeyword (spellings : List String) (head : Token) (rest : List Token) :
    (anyKeyword spellings (head :: rest)).isSome = (anyKeyword spellings [head]).isSome := by
  cases head <;> simp only [anyKeyword, Option.isSome_none]
  split <;> rfl

/-- Where neither a label nor its keyword comes, there is no label. -/
theorem label_of_follows {allowed rest : List Token} {stops : List String}
    (follows : Follows allowed rest) (unopened : Token.keyword "as" ∉ allowed)
    (ends : ∀ head ∈ allowed,
      (anyKeyword stops [head]).isSome = true ∨ head.isNamePart = false) :
    label stops rest = some rest := by
  have opening : keyword "as" rest = none := follows.token unopened
  have unlabelled : (if (anyKeyword stops rest).isSome then some rest
      else optional namePart rest) = some rest := by
    cases rest with
    | nil => rfl
    | cons head rest =>
      rw [isSome_anyKeyword]
      rcases ends head (follows head rfl) with stopped | unnamed
      · exact if_pos stopped
      · have absent : namePart (head :: rest) = none := by rw [namePart, unnamed]; rfl
        rw [optional_of_none absent, ite_self]
  rw [label, opening]
  exact unlabelled

/-- The tokens that end a select item. -/
def itemEnds : List Token := [.comma, .keyword "from"]

/-- The tokens that end a table. -/
def tableEnds : List Token := [.comma, .keyword "on", .keyword "join", .keyword "group"]

/-- The tokens that end a table and those joined to it. -/
def joinsEnds : List Token := [.comma, .keyword "group"]

theorem Follows.mono {allowed others rest : List Token} (follows : Follows allowed rest)
    (within : allowed ⊆ others) : Follows others rest :=
  fun head first => within (follows head first)

/-- The tokens of a label with its keyword. -/
def labelTokens : List Token := [.keyword "as", .name]

namespace Level

variable {inner : Level}

/-- An expression as the grammar finds it before a label or the end of an item. -/
theorem TakesExpressions.expression (takes : inner.TakesExpressions) {lexemes : List Lexeme}
    (expression : lexicon.Expression lexemes) {rest : List Token}
    (follows : Follows expressionEnds rest) : ∃ tail,
      lexemes.map tokenOf ++ rest = .name :: tail ∧ allColumns (.name :: tail) = none ∧
        inner.whole (.name :: tail) = some rest := by
  rcases tokens_expression expression with tokens | tokens
  · exact ⟨.dot :: .name :: rest, by rw [tokens]; rfl,
      allColumns_column (follows.head?_ne (by decide)), takes.column follows⟩
  · exact ⟨.openParenthesis :: (columnTokens ++ .closeParenthesis :: rest), by rw [tokens]; rfl,
      rfl, takes.call follows⟩

theorem TakesExpressions.item (takes : inner.TakesExpressions) {lexemes : List Lexeme}
    (item : lexicon.Item lexemes) {rest : List Token} (follows : Follows itemEnds rest) :
    inner.item (lexemes.map tokenOf ++ rest) = some rest := by
  have taken {expression : List Lexeme} {rest rest' : List Token}
      (expressed : lexicon.Expression expression) (ends : Follows expressionEnds rest)
      (labelled : label Keyword.columnStops rest = some rest') :
      inner.item (expression.map tokenOf ++ rest) = some rest' := by
    obtain ⟨tail, shape, single, whole⟩ := takes.expression expressed ends
    rw [shape, Level.item, single]
    change (inner.whole (.name :: tail)).bind _ = some rest'
    rw [whole, Option.bind_some, if_neg (by simp [keyword, token]), labelled]
  cases item with
  | unlabelled expressed =>
    exact taken expressed (follows.mono (by decide))
      (label_of_follows follows (by decide) (by decide +kernel))
  | labelled written expressed =>
    have tokens : ([.word "as", .quoted written] : List Lexeme).map tokenOf = labelTokens := by
      simp [tokenOf_word, labelTokens]
    rw [List.map_append, tokens, List.append_assoc]
    exact taken expressed (follows_cons (by decide) _) rfl

theorem unlabelledTable_name {rest : List Token} (follows : Follows tableEnds rest) :
    inner.unlabelledTable (.name :: rest) = some rest := by
  have single : name (.name :: rest) = some rest :=
    repeated_of_none namePart (follows.token (by decide))
  change (name (.name :: rest)).bind (ifNext .openParenthesis inner.arguments) = some rest
  rw [single]
  exact ifNext_of_ne _ (follows.head?_ne (by decide))

theorem table_name {rest : List Token} (follows : Follows tableEnds rest) :
    inner.table (.name :: rest) = some rest := by
  rw [Level.table, both, unlabelledTable_name follows]
  exact label_of_follows follows (by decide) (by decide +kernel)

/-- What ends the tables of a selection begins no join. -/
theorem joinWords_of_follows {rest : List Token} (follows : Follows joinsEnds rest) :
    joinWords rest = none := by
  cases rest with
  | nil => rfl
  | cons head rest =>
    have ends : head = .comma ∨ head = .keyword "group" := by
      simpa [joinsEnds] using follows head rfl
    rcases ends with rfl | rfl <;> rfl

/-- The tokens of a join: its table and the columns that are equal. -/
def joinTokens : List Token :=
  .keyword "join" :: .name :: .keyword "on" :: (columnTokens ++ .comparison :: columnTokens)

theorem tokens_join {table : Lexeme} {left right : List Lexeme}
    (identifier : lexicon.Identifier table) (column : lexicon.Column left)
    (column' : lexicon.Column right) (others : List Lexeme) :
    (Lexeme.word "join" :: table :: .word "on" :: (left ++ .equals :: (right ++ others))).map
      tokenOf = joinTokens ++ others.map tokenOf := by
  simp [tokenOf_word, tokenOf_identifier identifier, tokens_column column, tokens_column column',
    joinTokens]

/-- What comes after a table that is not itself in the middle of a join. -/
private theorem follows_joins {rest : List Token} (follows : Follows joinsEnds rest)
    {lexemes : List Lexeme} (joins : lexicon.Joins lexemes) :
    Follows (.keyword "join" :: joinsEnds) (lexemes.map tokenOf ++ rest) := by
  cases joins with
  | nil => exact follows.mono (by decide)
  | cons table left right _ =>
    rw [tokens_join table left right]
    exact follows_cons (by decide) _

theorem TakesExpressions.joinsWithin (takes : inner.TakesExpressions) {rest : List Token}
    (follows : Follows joinsEnds rest) {lexemes : List Lexeme} (joins : lexicon.Joins lexemes)
    {bound : Nat} (covers : lexemes.length ≤ bound) :
    inner.joinsWithin bound (lexemes.map tokenOf ++ rest) = some rest := by
  induction joins generalizing bound with
  | nil =>
    cases bound with
    | zero => rfl
    | succ bound =>
      have local_join : optional (keyword "global") rest = some rest :=
        optional_of_none (follows.token (by decide))
      simp only [List.map_nil, List.nil_append, Level.joinsWithin, local_join,
        joinWords_of_follows follows, Option.bind_eq_bind, Option.bind_some]
  | @cons table left right others identifier column column' joined ih =>
    cases bound with
    | zero => simp at covers
    | succ bound =>
      have remaining : others.length ≤ bound := by
        simp only [List.length_cons, List.length_append] at covers
        omega
      have ends := follows_joins follows joined
      rw [tokens_join identifier column column', List.append_assoc]
      generalize others.map tokenOf ++ rest = tail at ih ends
      have condition : inner.joinCondition (.keyword "on" ::
          (columnTokens ++ .comparison :: (columnTokens ++ tail))) = some tail :=
        takes.equation (ends.mono (by decide))
      have table : inner.table (.name :: .keyword "on" ::
          (columnTokens ++ .comparison :: (columnTokens ++ tail))) = some _ :=
        table_name (follows_cons (by decide) _)
      have words : joinWords (joinTokens ++ tail) = some (true, .name :: .keyword "on" ::
          (columnTokens ++ .comparison :: (columnTokens ++ tail))) := rfl
      have local_join : optional (keyword "global") (joinTokens ++ tail) =
          some (joinTokens ++ tail) := rfl
      simp only [Level.joinsWithin, local_join, words, table, condition, if_true,
        Option.bind_eq_bind, Option.bind_some]
      exact ih remaining

/-- A table with the tables joined to it. -/
theorem TakesExpressions.tableWithJoins (takes : inner.TakesExpressions) {rest : List Token}
    (follows : Follows joinsEnds rest) {lexemes : List Lexeme} (joins : lexicon.Joins lexemes) :
    inner.tableWithJoins (.name :: (lexemes.map tokenOf ++ rest)) = some rest := by
  have covers : lexemes.length ≤ (lexemes.map tokenOf ++ rest).length + 1 := by
    simp only [List.length_append, List.length_map]
    omega
  rw [Level.tableWithJoins, table_name ((follows_joins follows joins).mono (by decide))]
  exact takes.joinsWithin follows joins covers

theorem TakesExpressions.tables (takes : inner.TakesExpressions) {rest : List Token}
    (follows : Follows [.keyword "group"] rest) {lexemes : List Lexeme}
    (joins : lexicon.Joins lexemes) :
    entries inner.tableWithJoins (.name :: (lexemes.map tokenOf ++ rest)) = some rest :=
  entries_single (takes.tableWithJoins (follows.mono (by decide)) joins) follows (by decide)

theorem TakesExpressions.groupings (takes : inner.TakesExpressions) {lexemes : List Lexeme}
    (grouping : lexicon.Grouping lexemes) : inner.groupings (lexemes.map tokenOf) = some [] := by
  cases grouping with
  | none => rfl
  | @columns columns listed =>
    have taken : entries inner.grouping (columns.map tokenOf ++ []) = some [] := by
      refine entries_listed (fun lexemes column rest follows => ?_) (follows_nil []) (by decide)
        listed
      rw [tokens_column column]
      exact takes.column (follows.mono (by decide))
    rw [List.append_nil] at taken
    obtain ⟨tail, begins⟩ :=
      head_listed (fun lexemes column => ⟨_, tokens_column column⟩) listed
    have unmarked : keyword "all" (columns.map tokenOf) = none := by
      rw [begins]
      rfl
    have begun : keywords ["group", "by"] (.keyword "group" :: .keyword "by" ::
        columns.map tokenOf) = some _ := rfl
    rw [List.map_cons, List.map_cons, tokenOf_word (by decide), tokenOf_word (by decide),
      Level.groupings, opened, begun]
    simp only [both, unmarked, taken, Option.bind_some]
    rfl

/-! ### Selections -/

theorem TakesExpressions.items (takes : inner.TakesExpressions) {lexemes : List Lexeme}
    (listed : Lexicon.Listed lexicon.Item lexemes) (tail : List Token) :
    entries inner.item (lexemes.map tokenOf ++ .keyword "from" :: tail) =
      some (.keyword "from" :: tail) :=
  entries_listed (fun _ item _ follows => takes.item item follows)
    (follows_cons List.mem_cons_self tail) (by decide) listed

/-- Select items begin with a name, so nothing stands before them. -/
theorem selectionHead_items {lexemes : List Lexeme}
    (listed : Lexicon.Listed lexicon.Item lexemes) (tail : List Token) :
    inner.selectionHead (lexemes.map tokenOf ++ tail) = some (lexemes.map tokenOf ++ tail) := by
  have expression {lexemes : List Lexeme} (expressed : lexicon.Expression lexemes) :
      ∃ tail, lexemes.map tokenOf = .name :: tail := by
    rcases tokens_expression expressed with tokens | tokens <;> exact ⟨_, tokens⟩
  have item {lexemes : List Lexeme} (item : lexicon.Item lexemes) :
      ∃ tail, lexemes.map tokenOf = .name :: tail := by
    cases item with
    | unlabelled expressed => exact expression expressed
    | labelled label expressed =>
      obtain ⟨tail, begins⟩ := expression expressed
      exact ⟨_, by rw [List.map_append, begins, List.cons_append]⟩
  obtain ⟨others, begins⟩ := head_listed (fun _ => item) listed
  rw [begins]
  rfl

theorem TakesExpressions.selection (takes : inner.TakesExpressions) {lexemes : List Lexeme}
    (selection : lexicon.Selection lexemes) :
    ∃ tail, lexemes.map tokenOf = .keyword "select" :: tail ∧
      inner.selection (.keyword "select" :: tail) = some [] := by
  obtain @⟨items, joins, grouping, root, listed, rooted, joined, grouped⟩ := selection
  have ends : Follows [.keyword "group"] (grouping.map tokenOf) := by
    cases grouped with
    | none => exact follows_nil _
    | columns _ =>
      rw [List.map_cons, tokenOf_word (by decide)]
      exact follows_cons List.mem_cons_self _
  have unfiltered {spelling : String} (other : Token.keyword spelling ∉ [Token.keyword "group"]) :
      opened (keyword spelling) inner.whole (grouping.map tokenOf) =
        some (grouping.map tokenOf) :=
    opened_of_none _ (ends.token other)
  have tables : opened (keyword "from") (entries inner.tableWithJoins) (.keyword "from" ::
      .name :: (joins.map tokenOf ++ grouping.map tokenOf)) = some (grouping.map tokenOf) :=
    takes.tables ends joined
  have untargeted (tail : List Token) :
      target (.keyword "from" :: tail) = some (.keyword "from" :: tail) := rfl
  have begun (tail : List Token) : keyword "select" (.keyword "select" :: tail) = some tail := rfl
  refine ⟨items.map tokenOf ++ .keyword "from" :: .name ::
    (joins.map tokenOf ++ grouping.map tokenOf), ?_, ?_⟩
  · simp [tokenOf_word, tokenOf_identifier rooted]
  · simp only [Level.selection, begun, selectionHead_items listed, takes.items listed, untargeted,
      tables, Option.bind_eq_bind, Option.bind_some]
    rw [unfiltered (by decide), Option.bind_some, unfiltered (by decide), Option.bind_some,
      takes.groupings grouped]
    rfl

end Level

/-- The tokens of a selection are one statement, with nothing after it. -/
theorem statement_selection {lexemes : List Lexeme} (selection : lexicon.Selection lexemes) :
    statement (lexemes.map tokenOf) = some [] := by
  have takes := levels_takesExpressions 46
  obtain ⟨tail, shape, selected⟩ := takes.selection selection
  have simple : (levels 48).simpleQuery (.keyword "select" :: tail) = some [] := selected
  have unnamed : opened (keyword "with") (entries (levels 48).namedQuery)
      (.keyword "select" :: tail) = some (.keyword "select" :: tail) := rfl
  rw [shape]
  change (levels 48).wholeQuery (.keyword "select" :: tail) = some []
  rw [Level.wholeQuery, unnamed]
  simp only [Option.bind_eq_bind, Option.bind_some, simple]
  rfl

/-- The recogniser has selections. -/
theorem accepts : lexicon.Accepts := by
  intro lexemes tokens selection tokenizes
  obtain rfl := Grammar.tokenizes.mp tokenizes
  have taken := statement_selection selection
  have single (bound : Nat) : statementsWithin (bound + 1) true (lexemes.map tokenOf) =
      some [lexemes.map tokenOf] := by
    obtain ⟨tail, shape, _⟩ := (levels_takesExpressions 46).selection selection
    rw [shape] at taken ⊢
    change (statement _).bind _ = _
    rw [taken]
    cases bound <;> simp [statementsWithin]
  refine ⟨lexemes.map tokenOf, ?_⟩
  simp only [parser, statements, single]

end StarReport.Sql.Grammar
