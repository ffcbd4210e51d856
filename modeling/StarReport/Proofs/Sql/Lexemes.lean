import StarReport.Proofs.Sql.Lexicon
import StarReport.Proofs.Sql.Spelling

/-!
The lexemes of a statement. The text of a statement is written with them, whatever its quoted names
and its labels hold, and they make up a selection. So a parser that takes quoted names as they are
written and that has selections takes the text of a statement for one statement.
-/

set_option autoImplicit false
set_option relaxedAutoImplicit false

namespace StarReport.Sql

/-- A name as a mode writes it. -/
def Lexeme.ofName (caseSensitive : Bool) (name : String) : Lexeme :=
  if caseSensitive then .quoted name else .word name

theorem Lexeme.text_ofName (caseSensitive : Bool) (name : String) :
    (ofName caseSensitive name).text = spellName caseSensitive name := by
  cases caseSensitive <;> rfl

def ColumnRef.lexemes (caseSensitive : Bool) (ref : ColumnRef) : List Lexeme :=
  [.ofName caseSensitive ref.table, .dot, .ofName caseSensitive ref.column]

def labelLexemes : Option String → List Lexeme
  | none => []
  | some label => [.word "as", .quoted label]

def OutputColumn.expression (caseSensitive : Bool) (output : OutputColumn) : List Lexeme :=
  match output.function with
  | none => output.source.lexemes caseSensitive
  | some function => .word function.text :: .openParenthesis ::
      (output.source.lexemes caseSensitive ++ [.closeParenthesis])

def OutputColumn.lexemes (caseSensitive : Bool) (output : OutputColumn) : List Lexeme :=
  output.expression caseSensitive ++ labelLexemes output.label

def Join.lexemes (caseSensitive : Bool) (root : String) (join : Join) : List Lexeme :=
  .word "join" :: .ofName caseSensitive join.table :: .word "on" ::
    ((⟨join.table, join.primaryKey⟩ : ColumnRef).lexemes caseSensitive ++
      .equals :: (⟨root, join.column⟩ : ColumnRef).lexemes caseSensitive)

def commaSeparated : List (List Lexeme) → List Lexeme
  | [] => []
  | [entry] => entry
  | entry :: rest => entry ++ .comma :: commaSeparated rest

def groupingLexemes (caseSensitive : Bool) (grouping : List ColumnRef) : List Lexeme :=
  if grouping.isEmpty then []
  else .word "group" :: .word "by" ::
    commaSeparated (grouping.map (ColumnRef.lexemes caseSensitive))

def Statement.lexemes (caseSensitive : Bool) (statement : Statement) : List Lexeme :=
  .word "select" :: (commaSeparated (statement.outputs.map (OutputColumn.lexemes caseSensitive)) ++
    .word "from" :: .ofName caseSensitive statement.root ::
      (statement.joins.flatMap (Join.lexemes caseSensitive statement.root) ++
        groupingLexemes caseSensitive statement.grouping))

/-! ### What a mode writes as names -/

section

variable {parser : Parser} (lexicon : Lexicon parser) (caseSensitive : Bool)

/-- The names that a mode writes as names: all of them where they are quoted. -/
def Nameable (name : String) : Prop := caseSensitive = true ∨ lexicon.PlainName name

structure ColumnRef.Nameable (ref : ColumnRef) : Prop where
  table : Sql.Nameable lexicon caseSensitive ref.table
  column : Sql.Nameable lexicon caseSensitive ref.column

/-- Select items whose names a mode writes as names and whose functions are known. -/
structure OutputColumn.Nameable (output : OutputColumn) : Prop where
  source : output.source.Nameable lexicon caseSensitive
  function : ∀ function, output.function = some function → Known function

structure Join.Nameable (join : Join) : Prop where
  table : Sql.Nameable lexicon caseSensitive join.table
  primaryKey : Sql.Nameable lexicon caseSensitive join.primaryKey
  column : Sql.Nameable lexicon caseSensitive join.column

structure Statement.Nameable (statement : Statement) : Prop where
  outputs : ∀ output ∈ statement.outputs, output.Nameable lexicon caseSensitive
  root : Sql.Nameable lexicon caseSensitive statement.root
  joins : ∀ join ∈ statement.joins, join.Nameable lexicon caseSensitive
  grouping : ∀ ref ∈ statement.grouping, ref.Nameable lexicon caseSensitive

end

variable {parser : Parser} {lexicon : Lexicon parser} {caseSensitive : Bool} {rest : List Char}
  {lexemes : List Lexeme}

/-! ### The text is written with the lexemes -/

theorem bounded_cons {c : Char} (separator : c ∈ [' ', '\n', ',', '(', ')']) (rest : List Char) :
    Bounded (c :: rest) := by
  intro d head
  obtain rfl : c = d := Option.some.inj head
  exact separator

theorem EndsEntry.bounded (ends : EndsEntry rest) : Bounded rest := by
  intro c head
  rcases ends c head with rfl | rfl <;> decide

theorem Spells.space (spells : Spells lexemes rest) : Spells lexemes (' ' :: rest) :=
  .blank (.inl rfl) spells

theorem Spells.newline (spells : Spells lexemes rest) : Spells lexemes ('\n' :: rest) :=
  .blank (.inr rfl) spells

/-- The words that statements are written with besides names. -/
def writtenWords : List String :=
  ["select", "as", "from", "join", "on", "group", "by", "sum", "avg", "count", "min", "max"]

theorem isAsciiWord_of_mem {spelling : String} (written : spelling ∈ writtenWords) :
    IsAsciiWord spelling := by
  have all : ∀ spelling ∈ writtenWords,
      spelling.toList.head?.any beginsWord = true ∧ spelling.toList.all isWord = true := by
    decide +kernel
  obtain ⟨begins, letters⟩ := all spelling written
  exact ⟨(Option.any_eq_true _ _).mp begins, List.all_eq_true.mp letters⟩

theorem Spells.word (spells : Spells lexemes rest) (spelling : String)
    (written : spelling ∈ writtenWords) (bounded : Bounded rest) :
    Spells (.word spelling :: lexemes) (spelling.toList ++ rest) :=
  .name (.word (isAsciiWord_of_mem written)) bounded spells

theorem Spells.function (spells : Spells lexemes rest) {function : Star.AggregateFunction}
    (known : Known function) (bounded : Bounded rest) :
    Spells (.word function.text :: lexemes) (function.text.toList ++ rest) := by
  refine spells.word function.text ?_ bounded
  cases function with
  | other spelling => exact absurd rfl (known spelling)
  | _ => decide

theorem Nameable.isName {name : String} (nameable : Nameable lexicon caseSensitive name) :
    (Lexeme.ofName caseSensitive name).IsName := by
  cases caseSensitive with
  | true => exact .quoted name
  | false => exact .word (nameable.resolve_left (by decide)).word

theorem Spells.ofName (spells : Spells lexemes rest) {name : String}
    (nameable : Nameable lexicon caseSensitive name) (bounded : Bounded rest) :
    Spells (.ofName caseSensitive name :: lexemes) (spellName caseSensitive name ++ rest) := by
  rw [← Lexeme.text_ofName]
  exact .name nameable.isName bounded spells

theorem Spells.column (spells : Spells lexemes rest) {ref : ColumnRef}
    (nameable : ref.Nameable lexicon caseSensitive) (bounded : Bounded rest) :
    Spells (ref.lexemes caseSensitive ++ lexemes) (spell caseSensitive ref.pieces ++ rest) := by
  have column := spells.ofName nameable.column bounded
  rw [spell_ref]
  rw [← Lexeme.text_ofName] at column ⊢
  rw [← Lexeme.text_ofName]
  exact .qualified nameable.table.isName nameable.column.isName column

private theorem bounded_label (label : Option String) (ends : EndsEntry rest) :
    Bounded (spellLabel label ++ rest) := by
  cases label with
  | none => exact ends.bounded
  | some label => exact bounded_cons (by simp) _

theorem Spells.label (spells : Spells lexemes rest) (label : Option String)
    (ends : EndsEntry rest) :
    Spells (labelLexemes label ++ lexemes) (spellLabel label ++ rest) := by
  cases label with
  | none => exact spells
  | some label =>
    have quoted : Spells (.quoted label :: lexemes) ((Quoted.quote label).toList ++ rest) :=
      .name (.quoted label) ends.bounded spells
    exact (quoted.space.word "as" (by decide) (bounded_cons (by simp) _)).space

theorem Spells.output (spells : Spells lexemes rest) {output : OutputColumn}
    (nameable : output.Nameable lexicon caseSensitive) (ends : EndsEntry rest) :
    Spells (output.lexemes caseSensitive ++ lexemes)
      (spell caseSensitive output.pieces ++ rest) := by
  rw [spell_output]
  rcases output with ⟨source, _ | function, label⟩
  · have column := (spells.label label ends).column nameable.source (bounded_label label ends)
    simpa [OutputColumn.lexemes, OutputColumn.expression] using column
  · have argument := (spells.label label ends).closeParenthesis.column nameable.source
      (bounded_cons (by simp) _)
    have call := argument.openParenthesis.function (nameable.function function rfl)
      (bounded_cons (by simp) _)
    simpa [OutputColumn.lexemes, OutputColumn.expression] using call

/-- Entries that are written one by one are written as a list. -/
theorem Spells.lines {α : Type} {pieces : α → List Piece} {written : α → List Lexeme}
    {xs : List α}
    (entry : ∀ x ∈ xs, ∀ {rest : List Char} {lexemes : List Lexeme}, EndsEntry rest →
      Spells lexemes rest → Spells (written x ++ lexemes) (spell caseSensitive (pieces x) ++ rest))
    (ends : EndsLines rest) (spells : Spells lexemes rest) :
    Spells (commaSeparated (xs.map written) ++ lexemes)
      (spell caseSensitive (indentedLines (xs.map pieces)) ++ rest) := by
  induction xs with
  | nil => exact spells
  | cons x xs ih =>
    rw [List.map_cons, List.map_cons, spell_indentedLines]
    refine (((Spells.space ?_).space).space).space
    have tail := ih fun y member => entry y (List.mem_cons_of_mem x member)
    cases xs with
    | nil => exact entry x List.mem_cons_self ends.endsEntry spells
    | cons y ys =>
      have comma : EndsEntry (',' :: '\n' ::
          (spell caseSensitive (indentedLines ((y :: ys).map pieces)) ++ rest)) := by
        intro c head
        exact .inl (Option.some.inj head).symm
      have first := entry x List.mem_cons_self comma tail.newline.comma
      simpa [commaSeparated, spellTail] using first

theorem Spells.join (spells : Spells lexemes rest) {root : String} {join : Join}
    (rooted : Nameable lexicon caseSensitive root) (nameable : join.Nameable lexicon caseSensitive)
    (ends : EndsLines rest) :
    Spells (join.lexemes caseSensitive root ++ lexemes)
      (spell caseSensitive (join.pieces root) ++ rest) := by
  rw [spell_join]
  have left : (ColumnRef.mk join.table join.primaryKey).Nameable lexicon caseSensitive :=
    ⟨nameable.table, nameable.primaryKey⟩
  have right : (ColumnRef.mk root join.column).Nameable lexicon caseSensitive :=
    ⟨rooted, nameable.column⟩
  have source := spells.column right ends.endsEntry.bounded
  have condition := source.space.equals.space.column left (bounded_cons (by simp) _)
  have table := (condition.space.word "on" (by decide) (bounded_cons (by simp) _)).space.ofName
    nameable.table (bounded_cons (by simp) _)
  have joined := (table.space.word "join" (by decide) (bounded_cons (by simp) _)).newline
  simpa [Join.lexemes] using joined

theorem Spells.joins (spells : Spells lexemes rest) {root : String} {joins : List Join}
    (rooted : Nameable lexicon caseSensitive root)
    (nameable : ∀ join ∈ joins, join.Nameable lexicon caseSensitive) (ends : EndsLines rest) :
    Spells (joins.flatMap (Join.lexemes caseSensitive root) ++ lexemes)
      (spell caseSensitive (joins.flatMap (Join.pieces root)) ++ rest) := by
  induction joins with
  | nil => exact spells
  | cons join joins ih =>
    rw [List.flatMap_cons, List.flatMap_cons, spell_append, List.append_assoc, List.append_assoc]
    have others := ih fun other member => nameable other (List.mem_cons_of_mem join member)
    exact others.join rooted (nameable join List.mem_cons_self) (endsLines_joins joins ends)

private theorem endsLines_grouping (grouping : List ColumnRef) :
    EndsLines (spellGrouping caseSensitive grouping) := by
  unfold spellGrouping
  split
  · simp [EndsLines]
  · exact endsLines_cons _

theorem spells_grouping {grouping : List ColumnRef}
    (nameable : ∀ ref ∈ grouping, ref.Nameable lexicon caseSensitive) :
    Spells (groupingLexemes caseSensitive grouping) (spellGrouping caseSensitive grouping) := by
  unfold spellGrouping groupingLexemes
  split
  · exact .nil
  · have nothing : EndsLines [] := by simp [EndsLines]
    have lines : Spells (commaSeparated (grouping.map (ColumnRef.lexemes caseSensitive)) ++ [])
        (spell caseSensitive (indentedLines (grouping.map ColumnRef.pieces)) ++ []) :=
      Spells.lines (fun ref member _ _ ends spells =>
        spells.column (nameable ref member) ends.bounded) nothing .nil
    have by_lines := (lines.newline.word "by" (by decide) (bounded_cons (by simp) _)).space
    have words := (by_lines.word "group" (by decide) (bounded_cons (by simp) _)).newline
    simpa using words

/-- The text of a statement is written with the lexemes of the statement. -/
theorem Statement.Nameable.spells_text {statement : Statement}
    (nameable : statement.Nameable lexicon caseSensitive) :
    Spells (statement.lexemes caseSensitive) (statement.text caseSensitive).toList := by
  rw [toList_text, spell_statement]
  have ends : EndsLines (spell caseSensitive (statement.joins.flatMap
      (Join.pieces statement.root)) ++ spellGrouping caseSensitive statement.grouping) :=
    endsLines_joins statement.joins (endsLines_grouping statement.grouping)
  have joined := (spells_grouping nameable.grouping).joins nameable.root nameable.joins
    (endsLines_grouping statement.grouping)
  have rooted := joined.ofName nameable.root ends.endsEntry.bounded
  have listing := (rooted.space.word "from" (by decide) (bounded_cons (by simp) _)).newline
  have listed := Spells.lines (fun output member _ _ ends spells =>
    spells.output (nameable.outputs output member) ends) (endsLines_cons _) listing
  have selected := listed.newline.word "select" (by decide) (bounded_cons (by simp) _)
  simpa [Statement.lexemes] using selected

/-! ### The lexemes are a selection -/

theorem Nameable.identifier {name : String} (nameable : Nameable lexicon caseSensitive name) :
    lexicon.Identifier (.ofName caseSensitive name) := by
  cases caseSensitive with
  | true => exact .quoted name
  | false => exact .word (nameable.resolve_left (by decide))

theorem ColumnRef.Nameable.qualified {ref : ColumnRef}
    (nameable : ref.Nameable lexicon caseSensitive) :
    lexicon.Column (ref.lexemes caseSensitive) :=
  .mk nameable.table.identifier nameable.column.identifier

theorem OutputColumn.Nameable.item {output : OutputColumn}
    (nameable : output.Nameable lexicon caseSensitive) :
    lexicon.Item (output.lexemes caseSensitive) := by
  have expression : lexicon.Expression (output.expression caseSensitive) := by
    have column := nameable.source.qualified
    unfold OutputColumn.expression
    cases called : output.function with
    | none => exact .column column
    | some function => exact .call (nameable.function function called) column
  unfold OutputColumn.lexemes
  cases output.label with
  | none => exact (List.append_nil _).symm ▸ .unlabelled expression
  | some label => exact .labelled label expression

theorem listed_commaSeparated {entry : List Lexeme → Prop} {entries : List (List Lexeme)}
    (some_entry : entries ≠ []) (each : ∀ lexemes ∈ entries, entry lexemes) :
    Lexicon.Listed entry (commaSeparated entries) := by
  induction entries with
  | nil => exact absurd rfl some_entry
  | cons first others ih =>
    have head := each first List.mem_cons_self
    cases others with
    | nil => exact .single head
    | cons next others =>
      exact .cons head (ih (List.cons_ne_nil next others) fun lexemes member =>
        each lexemes (List.mem_cons_of_mem first member))

theorem joins_flatMap {root : String} {joins : List Join}
    (rooted : Nameable lexicon caseSensitive root)
    (nameable : ∀ join ∈ joins, join.Nameable lexicon caseSensitive) :
    lexicon.Joins (joins.flatMap (Join.lexemes caseSensitive root)) := by
  induction joins with
  | nil => exact .nil
  | cons join joins ih =>
    have named := nameable join List.mem_cons_self
    have left : (ColumnRef.mk join.table join.primaryKey).Nameable lexicon caseSensitive :=
      ⟨named.table, named.primaryKey⟩
    have right : (ColumnRef.mk root join.column).Nameable lexicon caseSensitive :=
      ⟨rooted, named.column⟩
    have others := ih fun other member => nameable other (List.mem_cons_of_mem join member)
    have joined := Lexicon.Joins.cons named.table.identifier left.qualified right.qualified others
    rw [List.flatMap_cons]
    simpa [Join.lexemes] using joined

theorem grouping_groupingLexemes {grouping : List ColumnRef}
    (nameable : ∀ ref ∈ grouping, ref.Nameable lexicon caseSensitive) :
    lexicon.Grouping (groupingLexemes caseSensitive grouping) := by
  unfold groupingLexemes
  split
  · exact .none
  · rename_i some_column
    refine .columns (listed_commaSeparated (by simpa using some_column) fun lexemes member => ?_)
    obtain ⟨ref, held, rfl⟩ := List.mem_map.mp member
    exact (nameable ref held).qualified

/-- The lexemes of a statement with at least one select item are a selection. -/
theorem Statement.Nameable.selection {statement : Statement}
    (nameable : statement.Nameable lexicon caseSensitive) (some_output : statement.outputs ≠ []) :
    lexicon.Selection (statement.lexemes caseSensitive) := by
  refine .mk (listed_commaSeparated (by simpa using some_output) fun lexemes member => ?_)
    nameable.root.identifier (joins_flatMap nameable.root nameable.joins)
    (grouping_groupingLexemes nameable.grouping)
  obtain ⟨output, held, rfl⟩ := List.mem_map.mp member
  exact (nameable.outputs output held).item

/-- A text whose names a mode writes as names passes the check, if the parser takes names as they are
written and has selections. -/
theorem Statement.Nameable.check_text (separates : lexicon.Separates) (accepts : lexicon.Accepts)
    {statement : Statement} (nameable : statement.Nameable lexicon caseSensitive)
    (some_output : statement.outputs ≠ []) :
    check parser (statement.text caseSensitive) = .ok () := by
  obtain ⟨tokens, scanned, tokenizes⟩ := separates _ _ nameable.spells_text
  obtain ⟨only, parsed⟩ := accepts _ tokens (nameable.selection some_output) tokenizes
  have read : parser.parse (statement.text caseSensitive) = .ok [only] := by
    rw [Parser.parse, scanned]
    exact parsed
  rw [check, read]
  rfl

end StarReport.Sql
