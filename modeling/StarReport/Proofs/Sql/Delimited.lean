import StarReport.Sql.Statement

/-!
Names and labels tell where they end. A quoted name has every quote inside it doubled, so the first
quote that stands alone closes it; a plain name ends at the first character that no word has. What is
written before two texts can therefore be read off the whole, whatever the names hold.
-/

set_option autoImplicit false
set_option relaxedAutoImplicit false

namespace StarReport.Sql

open StarReport.Star (AggregateFunction)

/-- The characters of words: ASCII letters and digits and the underscore. -/
def isWord (c : Char) : Bool := c.isAlphanum || c = '_'

/-- A text at whose start neither a word nor a quoted name goes on. -/
def EndsName (rest : List Char) : Prop := ∀ c ∈ rest.head?, c ≠ '"' ∧ isWord c = false

/-- The names that a mode can write: any where names are quoted, words where they are not. -/
def Writable (caseSensitive : Bool) (name : String) : Prop :=
  caseSensitive = false → ∀ c ∈ name.toList, isWord c = true

/-- A name as the characters that a mode writes. -/
def spellName (caseSensitive : Bool) (name : String) : List Char :=
  (Quoted.write caseSensitive name).toList

theorem endsName_cons {c : Char} {rest : List Char} :
    EndsName (c :: rest) ↔ c ≠ '"' ∧ isWord c = false := by
  simp [EndsName]

theorem Quoted.toList_quote (name : String) :
    (quote name).toList = '"' :: (double name.toList ++ ['"']) :=
  String.toList_ofList

private theorem double_cons (c : Char) (name : List Char) :
    ∃ rest, Quoted.double (c :: name) = c :: rest := by
  unfold Quoted.double
  split
  · rename_i quoted
    exact ⟨'"' :: Quoted.double name, by rw [quoted]⟩
  · exact ⟨Quoted.double name, rfl⟩

/-- The closing quote is the first one that is not doubled. -/
private theorem double_append_inj {a b r s : List Char} (ends : EndsName r) (ends' : EndsName s)
    (same : Quoted.double a ++ '"' :: r = Quoted.double b ++ '"' :: s) : a = b ∧ r = s := by
  have unquoted {t u : List Char} (stops : EndsName t) : t ≠ '"' :: u := by
    rintro rfl
    exact (endsName_cons.mp stops).1 rfl
  induction a generalizing b with
  | nil =>
    cases b with
    | nil => exact ⟨rfl, (List.cons.inj same).2⟩
    | cons d b =>
      by_cases quoted : d = '"'
      · simp only [Quoted.double, quoted, if_true, List.nil_append, List.cons_append] at same
        exact absurd (List.cons.inj same).2 (unquoted ends)
      · simp only [Quoted.double, quoted, if_false, List.nil_append, List.cons_append] at same
        exact absurd (List.cons.inj same).1.symm quoted
  | cons c a ih =>
    cases b with
    | nil =>
      by_cases quoted : c = '"'
      · simp only [Quoted.double, quoted, if_true, List.nil_append, List.cons_append] at same
        exact absurd (List.cons.inj same).2.symm (unquoted ends')
      · simp only [Quoted.double, quoted, if_false, List.nil_append, List.cons_append] at same
        exact absurd (List.cons.inj same).1 quoted
    | cons d b =>
      obtain ⟨left, left_eq⟩ := double_cons c a
      obtain ⟨right, right_eq⟩ := double_cons d b
      obtain rfl : c = d := by
        rw [left_eq, right_eq] at same
        exact (List.cons.inj same).1
      have tails : Quoted.double a ++ '"' :: r = Quoted.double b ++ '"' :: s := by
        by_cases quoted : c = '"' <;> simpa [Quoted.double, quoted] using same
      obtain ⟨rfl, rest⟩ := ih tails
      exact ⟨rfl, rest⟩

theorem quote_append_inj {a b : String} {r s : List Char} (ends : EndsName r) (ends' : EndsName s)
    (same : (Quoted.quote a).toList ++ r = (Quoted.quote b).toList ++ s) : a = b ∧ r = s := by
  simp only [Quoted.toList_quote, List.cons_append, List.append_assoc, List.nil_append] at same
  obtain ⟨names, rest⟩ := double_append_inj ends ends' (List.cons.inj same).2
  exact ⟨String.toList_inj.mp names, rest⟩

/-- A word ends where the first other character stands. -/
theorem word_append_inj {a b r s : List Char} (word : ∀ c ∈ a, isWord c = true)
    (word' : ∀ c ∈ b, isWord c = true) (ends : EndsName r) (ends' : EndsName s)
    (same : a ++ r = b ++ s) : a = b ∧ r = s := by
  have split {t u : List Char} {c : Char} (stops : EndsName t) (inWord : isWord c = true) :
      t ≠ c :: u := by
    rintro rfl
    exact absurd inWord (by simp [(endsName_cons.mp stops).2])
  induction a generalizing b with
  | nil =>
    cases b with
    | nil => exact ⟨rfl, same⟩
    | cons d b => exact absurd same (split ends (word' d List.mem_cons_self))
  | cons c a ih =>
    cases b with
    | nil => exact absurd same.symm (split ends' (word c List.mem_cons_self))
    | cons d b =>
      obtain ⟨rfl, tails⟩ := List.cons.inj same
      obtain ⟨rfl, rest⟩ := ih (fun x member => word x (List.mem_cons_of_mem c member))
        (fun x member => word' x (List.mem_cons_of_mem c member)) tails
      exact ⟨rfl, rest⟩

theorem name_append_inj {caseSensitive : Bool} {a b : String} {r s : List Char}
    (writable : Writable caseSensitive a) (writable' : Writable caseSensitive b)
    (ends : EndsName r) (ends' : EndsName s)
    (same : spellName caseSensitive a ++ r = spellName caseSensitive b ++ s) :
    a = b ∧ r = s := by
  cases caseSensitive with
  | true => exact quote_append_inj ends ends' same
  | false =>
    obtain ⟨names, rest⟩ := word_append_inj (writable rfl) (writable' rfl) ends ends' same
    exact ⟨String.toList_inj.mp names, rest⟩

/-! ### Function names -/

/-- The functions known by name. -/
def Known (function : AggregateFunction) : Prop := ∀ spelling, function ≠ .other spelling

private theorem word_of_known {function : AggregateFunction} (known : Known function) :
    ∀ c ∈ function.text.toList, isWord c = true := by
  cases function with
  | other spelling => exact absurd rfl (known spelling)
  | _ => exact List.all_eq_true.mp rfl

private theorem text_inj_of_known {f g : AggregateFunction} (known : Known f) (known' : Known g)
    (same : f.text = g.text) : f = g := by
  cases f with
  | other spelling => exact absurd rfl (known spelling)
  | _ =>
    cases g with
    | other spelling => exact absurd rfl (known' spelling)
    | _ => first | rfl | exact absurd same (by decide)

theorem endsName_parenthesis (rest : List Char) : EndsName ('(' :: rest) :=
  endsName_cons.mpr (by decide)

theorem function_append_inj {f g : AggregateFunction} {r s : List Char} (known : Known f)
    (known' : Known g) (same : f.text.toList ++ '(' :: r = g.text.toList ++ '(' :: s) :
    f = g ∧ r = s := by
  obtain ⟨texts, rest⟩ := word_append_inj (word_of_known known) (word_of_known known')
    (endsName_parenthesis r) (endsName_parenthesis s) same
  exact ⟨text_inj_of_known known known' (String.toList_inj.mp texts), (List.cons.inj rest).2⟩

/-- A call of a function does not read as a column. -/
theorem function_append_ne {caseSensitive : Bool} {f : AggregateFunction} {name : String}
    {r s : List Char} (known : Known f) (writable : Writable caseSensitive name) :
    f.text.toList ++ '(' :: r ≠ spellName caseSensitive name ++ '.' :: s := by
  intro same
  cases caseSensitive with
  | true =>
    rw [spellName, Quoted.write, if_pos rfl, Quoted.toList_quote] at same
    cases f with
    | other spelling => exact absurd rfl (known spelling)
    | _ => exact absurd (congrArg List.head? same) (by simp [AggregateFunction.text])
  | false =>
    obtain ⟨_, rest⟩ := word_append_inj (word_of_known known) (writable rfl)
      (endsName_parenthesis r) (endsName_cons.mpr (by decide)) same
    exact absurd (List.cons.inj rest).1 (by decide)

end StarReport.Sql
