import StarReport.Proofs.Json.Written

/-!
The indented form of a tree is read back as well. Line feeds and the spaces after them have no
tokens, so a tree has the same tokens in both of its forms, at any depth, and a line feed may come
after it.
-/

set_option autoImplicit false
set_option relaxedAutoImplicit false

namespace StarReport.Json

/-! ### Blanks -/

theorem spells_blank {c : Char} (blank : isBlank c = true) : Spells [c] [] := by
  intro rest tokens scans bound covers
  cases bound with
  | zero => simp at covers
  | succ bound =>
    have within : rest.length ≤ bound := by
      simp only [List.singleton_append, List.length_cons] at covers
      omega
    rw [List.singleton_append, tokensWithin, if_pos blank]
    exact scans bound within

theorem spells_blanks {cs : List Char} (blanks : ∀ c ∈ cs, isBlank c = true) : Spells cs [] := by
  induction cs with
  | nil => exact spells_nil
  | cons c cs ih =>
    obtain ⟨blank, blanks⟩ := List.forall_mem_cons.mp blanks
    exact (spells_blank blank).append (ih blanks)

theorem spells_newline (depth : Nat) : Spells (newline depth) [] := by
  refine spells_blanks fun c among => ?_
  obtain rfl | spaces := List.mem_cons.mp among
  · rfl
  · rw [List.eq_of_mem_replicate spaces]
    rfl

/-! ### Blocks -/

variable {opening closing : Char} {first last : Token} {entries : List (List Char)}
  {written : List (List Token)}

/-- Entries between brackets are spelled alike on lines of their own and on one line. -/
theorem spells_block (opens : Spells [opening] [first]) (closes : Spells [closing] [last])
    (depth : Nat) (each : List.Forall₂ Spells entries written) :
    Spells (block opening closing depth entries) (first :: (commas written ++ [last])) := by
  cases each with
  | nil => exact opens.append closes
  | cons head tail =>
    have comma : Spells (',' :: newline (depth + 1)) [.comma] :=
      spells_comma.append (spells_newline (depth + 1))
    have lines := (spells_newline (depth + 1)).append
      (spells_separated comma (.cons head tail))
    have ended := (lines.append (spells_newline depth)).append closes
    rw [List.append_nil, List.nil_append] at ended
    exact opens.append ended

mutual

theorem spells_indented : ∀ (depth : Nat) (tree : Tree), plain tree = true →
    Spells (indented depth tree) (tokensOf tree)
  | _, .null, _ => spells_token rfl fun _ => rfl
  | _, .flag true, _ => spells_token rfl fun _ => rfl
  | _, .flag false, _ => spells_token rfl fun _ => rfl
  | _, .text (some characters), _ => spells_quoted characters
  | depth, .list items, isPlain =>
    spells_block (spells_token rfl fun _ => rfl) (spells_token rfl fun _ => rfl) depth
      (spells_indentedItems (depth + 1) items isPlain)
  | depth, .record members, isPlain =>
    spells_block (spells_token rfl fun _ => rfl) (spells_token rfl fun _ => rfl) depth
      (spells_indentedMembers (depth + 1) members isPlain)

theorem spells_indentedItems : ∀ (depth : Nat) (items : List Tree), plainItems items = true →
    List.Forall₂ Spells (indentedItems depth items) (itemTokens items)
  | _, [], _ => .nil
  | depth, item :: rest, isPlain => by
    obtain ⟨head, tail⟩ := Bool.and_eq_true_iff.mp isPlain
    exact .cons (spells_indented depth item head) (spells_indentedItems depth rest tail)

theorem spells_indentedMembers : ∀ (depth : Nat) (members : List (Characters × Tree)),
    plainMembers members = true →
      List.Forall₂ Spells (indentedMembers depth members) (memberTokens members)
  | _, [], _ => .nil
  | depth, (some key, value) :: rest, isPlain => by
    obtain ⟨head, tail⟩ := Bool.and_eq_true_iff.mp isPlain
    have colon : Spells [':', ' '] [.colon] :=
      (spells_token rfl fun _ => rfl : Spells [':'] [.colon]).append (spells_blank rfl)
    exact .cons ((spells_quoted key).append (colon.append (spells_indented depth value head)))
      (spells_indentedMembers depth rest tail)

end

/-- What is written in the indented form is read back, also with a line feed after it. -/
theorem tree?_writeIndented {tree : Tree} (isPlain : plain tree = true) :
    tree? (writeIndented tree ++ "\n") = some tree := by
  have ended : Spells (indented 0 tree ++ ['\n']) (tokensOf tree ++ []) :=
    (spells_indented 0 tree isPlain).append (spells_blank rfl)
  rw [List.append_nil] at ended
  have text : writeIndented tree ++ "\n" = String.ofList (indented 0 tree ++ ['\n']) :=
    String.ofList_append.symm
  rw [text]
  exact tree?_of_spells isPlain ended

end StarReport.Json
