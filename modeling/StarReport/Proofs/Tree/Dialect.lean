import Mathlib.Data.List.Basic
import StarReport.Proofs.Tree.Reading

/-!
The dialects of a tree. JSON lets pass numbers that are not held where no field reads them, and
nothing else that another dialect refuses. So a tree whose numbers are all held and that is taken in
JSON is taken in every dialect, with the same value.
-/

set_option autoImplicit false
set_option relaxedAutoImplicit false

namespace StarReport.Tree

/-! ### Held trees -/

theorem held_list {items : List Tree} :
    (Tree.list items).held = true ↔ ∀ item ∈ items, item.held = true := by
  change heldItems items = true ↔ _
  induction items with
  | nil => simp [heldItems]
  | cons item items ih => rw [heldItems, Bool.and_eq_true, ih, List.forall_mem_cons]

theorem held_record {members : List (Characters × Tree)} :
    (Tree.record members).held = true ↔ ∀ member ∈ members, member.2.held = true := by
  change heldMembers members = true ↔ _
  induction members with
  | nil => simp [heldMembers]
  | cons member members ih => rw [heldMembers, Bool.and_eq_true, ih, List.forall_mem_cons]

namespace Decoder

variable {α β : Type}

/-- What is taken in JSON is taken in every dialect, with the same value. -/
def Carries (decoder : Decoder α) : Prop :=
  ∀ (dialect : Dialect) (tree : Tree) (value : α), tree.held = true →
    decoder Json.dialect tree = .ok value → decoder dialect tree = .ok value

theorem carries_text : text.Carries := by
  intro dialect tree value _ taken
  cases tree with
  | text characters => cases characters <;> exact taken
  | _ => exact taken

theorem carries_optionalText : optionalText.Carries := by
  intro dialect tree value _ taken
  cases tree with
  | text characters => cases characters <;> exact taken
  | _ => exact taken

theorem Carries.list {item : Decoder α} (carries : item.Carries) :
    (Decoder.list item).Carries := by
  intro dialect tree values held taken
  cases tree with
  | list items =>
    have each := (List.forall₂_and_left _ _).mpr
      ⟨held_list.mp held, FirstFailure.mapM_ok.mp taken⟩
    exact FirstFailure.mapM_ok.mpr (each.imp fun tree value both =>
      carries dialect tree value both.1 both.2)
  | _ => exact taken

/-! ### Records -/

/-- A field that is read in every dialect as it is in JSON. -/
def Field.Carries (field : Field α) : Prop :=
  ∀ (dialect : Dialect) (tree : Tree) (before after : α), tree.held = true →
    field.read Json.dialect tree before = .ok after → field.read dialect tree before = .ok after

theorem Carries.needed {value : Decoder β} (carries : value.Carries) (name : String)
    (set : β → α → α) : (Field.needed name value set).Carries := by
  intro dialect tree before after held taken
  obtain ⟨read, taken, put⟩ := FirstFailure.map_ok.mp taken
  exact FirstFailure.map_ok.mpr ⟨read, carries dialect tree read held taken, put⟩

theorem Carries.optional {value : Decoder β} (carries : value.Carries) (name : String)
    (set : β → α → α) : (Field.optional name value set).Carries :=
  carries.needed name set

section Fields

variable {fields : List (Field α)}

/-- A held tree that JSON lets pass passes in every dialect. -/
theorem passes_of_held {tree : Tree} (held : tree.held = true) (dialect dialect' : Dialect) :
    dialect.passes tree = dialect'.passes tree := by
  simp [Dialect.passes, held]

theorem members_carries (each : ∀ field ∈ fields, field.Carries) (dialect : Dialect)
    {entries : List (Characters × Tree)} (held : ∀ entry ∈ entries, entry.2.held = true)
    {seen : List String} {before : α} {result : List String × α}
    (taken : members Json.dialect fields seen before entries = .ok result) :
    members dialect fields seen before entries = .ok result := by
  induction entries generalizing seen before with
  | nil => exact taken
  | cons entry rest ih =>
    obtain ⟨characters, tree⟩ := entry
    obtain ⟨first, others⟩ := List.forall_mem_cons.mp held
    cases characters with
    | none => cases taken
    | some name =>
      rw [members] at taken ⊢
      cases found : fields.find? (·.name = name) with
      | none =>
        rw [found] at taken
        simp only [passes_of_held first Json.dialect dialect] at taken ⊢
        split at taken
        · rename_i passes
          rw [if_pos passes]
          exact ih others taken
        · cases taken
      | some field =>
        rw [found] at taken
        simp only at taken ⊢
        split at taken
        · cases taken
        · rename_i unseen
          obtain ⟨after, read, made⟩ := FirstFailure.bind_ok.mp taken
          rw [if_neg unseen]
          have carried := each field (List.mem_of_find?_eq_some found) dialect tree before after
            first read
          exact FirstFailure.bind_ok.mpr ⟨after, carried, ih others made⟩

theorem positions_carries (each : ∀ field ∈ fields, field.Carries) (dialect : Dialect)
    {items : List Tree} (held : ∀ item ∈ items, item.held = true) {before after : α}
    (taken : positions Json.dialect fields before items = .ok after) :
    positions dialect fields before items = .ok after := by
  induction items generalizing fields before with
  | nil => cases fields <;> exact taken
  | cons tree rest ih =>
    cases fields with
    | nil => cases taken
    | cons field fields =>
      obtain ⟨first, others⟩ := List.forall_mem_cons.mp held
      obtain ⟨carries, remaining⟩ := List.forall_mem_cons.mp each
      obtain ⟨next, read, made⟩ := FirstFailure.bind_ok.mp taken
      exact FirstFailure.bind_ok.mpr
        ⟨next, carries dialect tree before next first read, ih remaining others made⟩

theorem carries_record (blank : α) (carried : fields.Forall Field.Carries) :
    (record blank fields).Carries := by
  intro dialect tree value held taken
  have each := List.forall_iff_forall_mem.mp carried
  cases tree with
  | record entries =>
    obtain ⟨⟨seen, made⟩, read, accepted⟩ := FirstFailure.bind_ok.mp taken
    exact FirstFailure.bind_ok.mpr
      ⟨(seen, made), members_carries each dialect (held_record.mp held) read, accepted⟩
  | list items => exact positions_carries each dialect (held_list.mp held) taken
  | _ => exact taken

end Fields

end Decoder

end StarReport.Tree
