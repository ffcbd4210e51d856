import StarReport.Proofs.Sql.Query
import StarReport.Proofs.Sql.Spelling

/-!
The text of a query determines its statement. Reading from the left, every name, column, select item
and join ends where the text says, so two writable statements with one text are the same statement:
no name or label can be taken for anything else.
-/

set_option autoImplicit false
set_option relaxedAutoImplicit false

namespace StarReport.Sql

open Warehouse (Table)

variable {caseSensitive : Bool}

/-! ### Columns -/

structure ColumnRef.Writable (caseSensitive : Bool) (ref : ColumnRef) : Prop where
  table : Sql.Writable caseSensitive ref.table
  column : Sql.Writable caseSensitive ref.column

theorem endsName_dot (rest : List Char) : EndsName ('.' :: rest) :=
  endsName_cons.mpr (by decide)

theorem ref_append_inj {a b : ColumnRef} {r s : List Char} (writable : a.Writable caseSensitive)
    (writable' : b.Writable caseSensitive) (ends : EndsName r) (ends' : EndsName s)
    (same : spell caseSensitive a.pieces ++ r = spell caseSensitive b.pieces ++ s) :
    a = b ∧ r = s := by
  rw [spell_ref, spell_ref] at same
  rcases a with ⟨table, column⟩
  rcases b with ⟨table', column'⟩
  obtain ⟨rfl, rest⟩ := name_append_inj writable.table writable'.table (endsName_dot _)
    (endsName_dot _) same
  obtain ⟨rfl, tail⟩ := name_append_inj writable.column writable'.column ends ends'
    (List.cons.inj rest).2
  exact ⟨rfl, tail⟩

/-! ### Select items -/

/-- Select items whose names a mode can write and whose functions are known. -/
structure OutputColumn.Writable (caseSensitive : Bool) (output : OutputColumn) : Prop where
  source : output.source.Writable caseSensitive
  function : ∀ function, output.function = some function → Known function

private theorem endsName_label {label : Option String} {rest : List Char} (ends : EndsEntry rest) :
    EndsName (spellLabel label ++ rest) := by
  cases label with
  | none => exact ends.endsName
  | some label => exact endsName_cons.mpr (by decide)

private theorem label_append_inj {a b : Option String} {r s : List Char} (ends : EndsEntry r)
    (ends' : EndsEntry s) (same : spellLabel a ++ r = spellLabel b ++ s) : a = b ∧ r = s := by
  have unlabelled {t u : List Char} (stops : EndsEntry t) : t ≠ ' ' :: u := by
    rintro rfl
    exact absurd (stops ' ' rfl) (by decide)
  cases a with
  | none =>
    cases b with
    | none => exact ⟨rfl, same⟩
    | some label => exact absurd same (unlabelled ends)
  | some label =>
    cases b with
    | none => exact absurd same.symm (unlabelled ends')
    | some label' =>
      simp only [spellLabel, List.cons_append, List.cons.injEq, true_and] at same
      obtain ⟨rfl, rest⟩ := quote_append_inj ends.endsName ends'.endsName same
      exact ⟨rfl, rest⟩

theorem endsName_close (rest : List Char) : EndsName (')' :: rest) :=
  endsName_cons.mpr (by decide)

theorem output_append_inj {a b : OutputColumn} {r s : List Char} (writable : a.Writable caseSensitive)
    (writable' : b.Writable caseSensitive) (ends : EndsEntry r) (ends' : EndsEntry s)
    (same : spell caseSensitive a.pieces ++ r = spell caseSensitive b.pieces ++ s) :
    a = b ∧ r = s := by
  rw [spell_output, spell_output] at same
  rcases a with ⟨source, function, label⟩
  rcases b with ⟨source', function', label'⟩
  cases function with
  | none =>
    cases function' with
    | none =>
      obtain ⟨rfl, rest⟩ := ref_append_inj writable.source writable'.source (endsName_label ends)
        (endsName_label ends') same
      obtain ⟨rfl, tail⟩ := label_append_inj ends ends' rest
      exact ⟨rfl, tail⟩
    | some function' =>
      simp only [spell_ref] at same
      exact absurd same.symm
        (function_append_ne (writable'.function function' rfl) writable.source.table)
  | some function =>
    cases function' with
    | none =>
      simp only [spell_ref] at same
      exact absurd same
        (function_append_ne (writable.function function rfl) writable'.source.table)
    | some function' =>
      obtain ⟨rfl, called⟩ := function_append_inj (writable.function function rfl)
        (writable'.function function' rfl) same
      obtain ⟨rfl, rest⟩ := ref_append_inj writable.source writable'.source (endsName_close _)
        (endsName_close _) called
      obtain ⟨rfl, tail⟩ := label_append_inj ends ends' (List.cons.inj rest).2
      exact ⟨rfl, tail⟩

/-! ### Lists of entries -/

theorem EndsLines.ne_cons {rest tail : List Char} {c : Char} (ends : EndsLines rest)
    (other : c ≠ '\n') : rest ≠ c :: tail := by
  rintro rfl
  exact other (ends c rfl)

private theorem endsEntry_tail {entries : List (List Piece)} {rest : List Char}
    (ends : EndsLines rest) : EndsEntry (spellTail caseSensitive entries rest) := by
  unfold spellTail
  split
  · exact ends.endsEntry
  · intro c head
    exact .inl (Option.some.inj head).symm

/-- Entries that can be told from what follows them make lists that can. -/
theorem lines_append_inj {α : Type} {pieces : α → List Piece} {writable : α → Prop}
    (entry_inj : ∀ {a b : α} {r s : List Char}, writable a → writable b → EndsEntry r →
      EndsEntry s → spell caseSensitive (pieces a) ++ r = spell caseSensitive (pieces b) ++ s →
        a = b ∧ r = s)
    {xs ys : List α} {r s : List Char} (left : ∀ x ∈ xs, writable x) (right : ∀ y ∈ ys, writable y)
    (ends : EndsLines r) (ends' : EndsLines s)
    (same : spell caseSensitive (indentedLines (xs.map pieces)) ++ r =
      spell caseSensitive (indentedLines (ys.map pieces)) ++ s) : xs = ys ∧ r = s := by
  induction xs generalizing ys with
  | nil =>
    cases ys with
    | nil => exact ⟨rfl, same⟩
    | cons y ys =>
      rw [List.map_cons, spell_indentedLines] at same
      exact absurd same (ends.ne_cons (by decide))
  | cons x xs ih =>
    cases ys with
    | nil =>
      rw [List.map_cons, spell_indentedLines] at same
      exact absurd same.symm (ends'.ne_cons (by decide))
    | cons y ys =>
      rw [List.map_cons, List.map_cons, spell_indentedLines, spell_indentedLines] at same
      simp only [List.cons.injEq, true_and] at same
      obtain ⟨rfl, tails⟩ := entry_inj (left x List.mem_cons_self) (right y List.mem_cons_self)
        (endsEntry_tail ends) (endsEntry_tail ends') same
      have inner := ih (fun z member => left z (List.mem_cons_of_mem x member))
        (fun z member => right z (List.mem_cons_of_mem x member))
      cases xs with
      | nil =>
        cases ys with
        | nil => exact ⟨rfl, tails⟩
        | cons z ys => exact absurd tails (ends.ne_cons (by decide))
      | cons w xs =>
        cases ys with
        | nil => exact absurd tails.symm (ends'.ne_cons (by decide))
        | cons z ys =>
          obtain ⟨rest_eq, tail⟩ := inner (List.cons.inj (List.cons.inj tails).2).2
          exact ⟨by rw [rest_eq], tail⟩

/-! ### Joins -/

structure Join.Writable (caseSensitive : Bool) (join : Join) : Prop where
  table : Sql.Writable caseSensitive join.table
  primaryKey : Sql.Writable caseSensitive join.primaryKey
  column : Sql.Writable caseSensitive join.column

/-- A text that can stand after the last join. -/
def EndsJoins (rest : List Char) : Prop := rest = [] ∨ ∃ tail, rest = '\n' :: 'g' :: tail

theorem EndsJoins.endsLines {rest : List Char} (ends : EndsJoins rest) : EndsLines rest := by
  rcases ends with rfl | ⟨tail, rfl⟩
  · simp [EndsLines]
  · simp [EndsLines]

theorem endsName_space (rest : List Char) : EndsName (' ' :: rest) :=
  endsName_cons.mpr (by decide)

theorem joins_append_inj {root : String} {xs ys : List Join} {r s : List Char}
    (rooted : Writable caseSensitive root) (left : ∀ x ∈ xs, x.Writable caseSensitive)
    (right : ∀ y ∈ ys, y.Writable caseSensitive) (ends : EndsJoins r) (ends' : EndsJoins s)
    (same : spell caseSensitive (xs.flatMap (Join.pieces root)) ++ r =
      spell caseSensitive (ys.flatMap (Join.pieces root)) ++ s) : xs = ys ∧ r = s := by
  have unjoined {t u : List Char} (stops : EndsJoins t) : t ≠ "\njoin ".toList ++ u := by
    rintro rfl
    rcases stops with nothing | ⟨tail, grouped⟩
    · cases nothing
    · exact absurd (List.cons.inj (List.cons.inj grouped).2).1 (by decide)
  induction xs generalizing ys with
  | nil =>
    cases ys with
    | nil => exact ⟨rfl, same⟩
    | cons y ys =>
      rw [List.flatMap_cons, spell_append, List.append_assoc, spell_join] at same
      exact absurd same (unjoined ends)
  | cons x xs ih =>
    cases ys with
    | nil =>
      rw [List.flatMap_cons, spell_append, List.append_assoc, spell_join] at same
      exact absurd same.symm (unjoined ends')
    | cons y ys =>
      have x_writable := left x List.mem_cons_self
      have y_writable := right y List.mem_cons_self
      rw [List.flatMap_cons, List.flatMap_cons, spell_append, spell_append, List.append_assoc,
        List.append_assoc, spell_join, spell_join] at same
      rcases x with ⟨table, primaryKey, column⟩
      rcases y with ⟨table', primaryKey', column'⟩
      obtain ⟨rfl, same⟩ := name_append_inj x_writable.table y_writable.table (endsName_space _)
        (endsName_space _) (List.append_cancel_left same)
      obtain ⟨keys, same⟩ := ref_append_inj ⟨x_writable.table, x_writable.primaryKey⟩
        ⟨x_writable.table, y_writable.primaryKey⟩ (endsName_space _) (endsName_space _)
        (List.append_cancel_left (List.cons.inj same).2)
      obtain ⟨columns, same⟩ := ref_append_inj ⟨rooted, x_writable.column⟩
        ⟨rooted, y_writable.column⟩ (endsLines_joins xs ends.endsLines).endsEntry.endsName
        (endsLines_joins ys ends'.endsLines).endsEntry.endsName
        (List.append_cancel_left (List.cons.inj same).2)
      obtain ⟨rfl, tail⟩ := ih (fun z member => left z (List.mem_cons_of_mem _ member))
        (fun z member => right z (List.mem_cons_of_mem _ member)) same
      obtain rfl := (ColumnRef.mk.inj keys).2
      obtain rfl := (ColumnRef.mk.inj columns).2
      exact ⟨rfl, tail⟩

/-! ### Statements -/

structure Statement.Writable (caseSensitive : Bool) (statement : Statement) : Prop where
  outputs : ∀ output ∈ statement.outputs, output.Writable caseSensitive
  root : Sql.Writable caseSensitive statement.root
  joins : ∀ join ∈ statement.joins, join.Writable caseSensitive
  grouping : ∀ ref ∈ statement.grouping, ref.Writable caseSensitive

private theorem endsJoins_grouping (grouping : List ColumnRef) :
    EndsJoins (spellGrouping caseSensitive grouping) := by
  unfold spellGrouping
  split
  · exact .inl rfl
  · exact .inr ⟨_, rfl⟩

private theorem grouping_inj {xs ys : List ColumnRef} (left : ∀ x ∈ xs, x.Writable caseSensitive)
    (right : ∀ y ∈ ys, y.Writable caseSensitive)
    (same : spellGrouping caseSensitive xs = spellGrouping caseSensitive ys) : xs = ys := by
  cases xs with
  | nil =>
    cases ys with
    | nil => rfl
    | cons y ys => cases same
  | cons x xs =>
    cases ys with
    | nil => cases same
    | cons y ys =>
      have nothing : EndsLines [] := by simp [EndsLines]
      have lines := List.append_cancel_left same
      exact (lines_append_inj (fun h h' e e' => ref_append_inj h h' e.endsName e'.endsName)
        left right nothing nothing (by rw [lines])).1

/-- Two statements that a mode can write and that have one text are the same statement. -/
theorem Statement.Writable.eq_of_text {s t : Statement} (left : s.Writable caseSensitive)
    (right : t.Writable caseSensitive) (same : s.text caseSensitive = t.text caseSensitive) :
    s = t := by
  have spelled := congrArg String.toList same
  rw [toList_text, toList_text, spell_statement, spell_statement] at spelled
  rcases s with ⟨outputs, root, joins, grouping⟩
  rcases t with ⟨outputs', root', joins', grouping'⟩
  have newline (rest : List Char) : EndsLines ('\n' :: rest) := by simp [EndsLines]
  obtain ⟨rfl, rest⟩ := lines_append_inj output_append_inj left.outputs right.outputs (newline _)
    (newline _) (List.append_cancel_left spelled)
  obtain ⟨rfl, rest⟩ := name_append_inj left.root right.root
    (endsLines_joins joins (endsJoins_grouping grouping).endsLines).endsEntry.endsName
    (endsLines_joins joins' (endsJoins_grouping grouping').endsLines).endsEntry.endsName
    (List.append_cancel_left (List.cons.inj rest).2)
  obtain ⟨rfl, groupings⟩ := joins_append_inj left.root left.joins right.joins
    (endsJoins_grouping grouping) (endsJoins_grouping grouping') rest
  obtain rfl := grouping_inj left.grouping right.grouping groupings
  rfl

/-! ### Queries -/

namespace Query

/-- The names of the tables, columns and primary keys that a query holds. -/
def names (query : Query) : List String :=
  query.selected.flatMap (fun column => [column.table.name, column.column]) ++
    query.tables.flatMap fun table =>
      table.name :: (table.primaryKey.toList ++ table.foreignKeys.map (·.column))

/-- Queries whose mode can write all their names and whose functions are known. -/
structure Writable (query : Query) : Prop where
  names : ∀ name ∈ query.names, Sql.Writable query.caseSensitive name
  functions : ∀ column ∈ query.selected, ∀ function, column.function = some function →
    Known function

variable {query : Query}

private theorem source_writable (writable : query.Writable) {column : Selected}
    (selected : column ∈ query.selected) : column.source.Writable query.caseSensitive := by
  have held {name : String} (member : name ∈ [column.table.name, column.column]) :
      name ∈ query.names :=
    List.mem_append_left _ (List.mem_flatMap.mpr ⟨column, selected, member⟩)
  exact ⟨writable.names _ (held List.mem_cons_self),
    writable.names _ (held (List.mem_cons_of_mem _ List.mem_cons_self))⟩

private theorem join_writable (writable : query.Writable) {root table : Table}
    (rooted : root ∈ query.tables) (registered : table ∈ query.tables) {join : Join}
    (joined : join ∈ joinsBy root table) : join.Writable query.caseSensitive := by
  obtain ⟨edge, declared, rfl⟩ := List.mem_map.mp joined
  have held {name : String} {holder : Table} (known : holder ∈ query.tables)
      (member : name ∈ holder.name :: (holder.primaryKey.toList ++
        holder.foreignKeys.map (·.column))) : Sql.Writable query.caseSensitive name :=
    writable.names name (List.mem_append_right _ (List.mem_flatMap.mpr ⟨holder, known, member⟩))
  refine ⟨held registered (by simp), ?_, held rooted ?_⟩
  · cases key : table.primaryKey with
    | none =>
      intro _ c member
      simp at member
    | some primaryKey => exact held registered (by simp [key])
  · have column := List.mem_map_of_mem (f := (·.column)) (List.mem_filter.mp declared).1
    exact List.mem_cons_of_mem _ (List.mem_append_right _ column)

theorem statement_writable (writable : query.Writable) {statement : Statement}
    (compiled : query.statement = .ok statement) : statement.Writable query.caseSensitive := by
  obtain ⟨root, others, registered⟩ := registered_of_statement compiled
  obtain ⟨_, rfl⟩ := of_statement_ok registered compiled
  have rooted : root ∈ query.tables := registered ▸ List.mem_cons_self
  refine ⟨fun output member => ?_, ?_, fun join member => ?_, fun ref member => ?_⟩
  · obtain ⟨column, selected, rfl⟩ := List.mem_map.mp member
    exact ⟨source_writable writable selected, writable.functions column selected⟩
  · exact writable.names _ (List.mem_append_right _
      (List.mem_flatMap.mpr ⟨root, rooted, List.mem_cons_self⟩))
  · obtain ⟨table, other, joined⟩ := List.mem_flatMap.mp member
    exact join_writable writable rooted (registered ▸ List.mem_cons_of_mem root other) joined
  · obtain ⟨column, selected, rfl⟩ := mem_grouping member
    exact source_writable writable selected

end Query

/-- Two queries in one mode with one text have the same select list, the same root, the same joins
and the same grouping. -/
theorem statement_of_sql {q r : Query} (mode : q.caseSensitive = r.caseSensitive)
    (left : q.Writable) (right : r.Writable) {text : String} (compiled : q.sql = .ok text)
    (compiled' : r.sql = .ok text) :
    q.selected.map Selected.output = r.selected.map Selected.output ∧
      q.root?.map Table.name = r.root?.map Table.name ∧
      ∃ statement, q.statement = .ok statement ∧ r.statement = .ok statement := by
  obtain ⟨s, stated, text_s⟩ := Query.statement_of_sql_ok compiled
  obtain ⟨t, stated', text_t⟩ := Query.statement_of_sql_ok compiled'
  have writable' := Query.statement_writable right stated'
  rw [← mode] at writable' text_t
  obtain rfl := (Query.statement_writable left stated).eq_of_text writable'
    (text_s.symm.trans text_t)
  refine ⟨?_, ?_, s, stated, stated'⟩
  · rw [← Query.outputs_of_statement stated, ← Query.outputs_of_statement stated']
  · rw [Query.root_of_statement stated, Query.root_of_statement stated']

/-- A query whose names and label hold quotes, commas and whole clauses. -/
private def hostile : Query :=
  (Query.empty.setCaseSensitive true).select
    ⟨.named "sales\" as \"s,\n" none, "a\".\"b", some "\nfrom \"x\"", some .sum⟩

private theorem hostile_writable (grouped : Bool) : (hostile.setForceGrouping grouped).Writable := by
  refine ⟨fun name _ plain => ?_, fun column member function called => ?_⟩
  · change true = false at plain
    cases plain
  obtain rfl := List.mem_singleton.mp member
  obtain rfl := Option.some.inj called
  exact fun spelling other => by cases other

/-- Without a plain column the wish to group leaves no trace in the text, nor in the statement. -/
theorem statement_of_sql_hostile :
    ∃ text, (hostile.setForceGrouping false).sql = .ok text ∧
      (hostile.setForceGrouping true).sql = .ok text ∧
      ∃ statement, (hostile.setForceGrouping false).statement = .ok statement ∧
        (hostile.setForceGrouping true).statement = .ok statement := by
  obtain ⟨text, ungrouped, grouped⟩ : ∃ text, (hostile.setForceGrouping false).sql = .ok text ∧
      (hostile.setForceGrouping true).sql = .ok text := ⟨_, rfl, rfl⟩
  have mode : (hostile.setForceGrouping false).caseSensitive =
      (hostile.setForceGrouping true).caseSensitive := rfl
  exact ⟨text, ungrouped, grouped, (statement_of_sql mode (hostile_writable false)
    (hostile_writable true) ungrouped grouped).2.2⟩

end StarReport.Sql
