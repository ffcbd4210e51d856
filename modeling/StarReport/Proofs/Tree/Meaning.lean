import Mathlib.Data.List.Forall2
import StarReport.Json.Reader
import StarReport.Proofs.FirstFailure

/-!
What JSON values stand for. A meaning relates trees to what they say, and is put together from those
of fields without any thought of the order in which a reader meets them. A decoder reads a meaning
if it accepts the trees that have it and no others.
-/

set_option autoImplicit false
set_option relaxedAutoImplicit false

namespace StarReport.Tree

/-- Which trees say which values. -/
abbrev Meaning (α : Type) := Tree → α → Prop

namespace Meaning

variable {α : Type}

def text : Meaning String := fun tree characters => tree = .string characters

/-- Null says that there is no text. -/
def optionalText : Meaning (Option String)
  | tree, none => tree = .null
  | tree, some characters => tree = .string characters

def list (item : Meaning α) : Meaning (List α) := fun tree values =>
  ∃ items, tree = .list items ∧ List.Forall₂ item items values

theorem list_map {item : Meaning α} {encode : α → Tree} {values : List α}
    (each : ∀ value ∈ values, item (encode value) value) :
    list item (.list (values.map encode)) values := by
  refine ⟨_, rfl, ?_⟩
  rw [List.forall₂_map_left_iff, List.forall₂_same]
  exact each

/-- A field of records of type `α`: its name, what its trees say, and the value that it has where it
is left out, if it may be left out. -/
structure Slot (α : Type) : Type 1 where
  name : String
  Value : Type
  get : α → Value
  means : Meaning Value
  default : Option Value

namespace Slot

def needed {β : Type} (name : String) (get : α → β) (means : Meaning β) : Slot α :=
  ⟨name, β, get, means, none⟩

def optional {β : Type} (name : String) (get : α → β) (means : Meaning β) (default : β) : Slot α :=
  ⟨name, β, get, means, some default⟩

/-- The tree says the field of the record. -/
def Says (slot : Slot α) (tree : Tree) (record : α) : Prop := slot.means tree (slot.get record)

/-- The field of the record is the one that goes without saying. -/
def Omitted (slot : Slot α) (record : α) : Prop := slot.default = some (slot.get record)

end Slot

/-- The values of the members of a name. -/
def valuesOf (name : String) (members : List (String × Tree)) : List Tree :=
  (members.filter (·.1 = name)).map Prod.snd

/-- Every known field stands among the members once, or is left out. The members may come in any
order, and those of other names may be anything. -/
def Members (slots : List (Slot α)) (members : List (String × Tree)) (record : α) : Prop :=
  ∀ slot ∈ slots, (∃ tree, valuesOf slot.name members = [tree] ∧ slot.Says tree record) ∨
    valuesOf slot.name members = [] ∧ slot.Omitted record

/-- The items are the fields in their own order, without some at the end that are left out. -/
def Positions (slots : List (Slot α)) (items : List Tree) (record : α) : Prop :=
  ∃ written left, slots = written ++ left ∧
    List.Forall₂ (fun slot tree => slot.Says tree record) written items ∧
    ∀ slot ∈ left, slot.Omitted record

section Shapes

variable {slot : Slot α} {slots : List (Slot α)} {tree : Tree} {items : List Tree} {value : α}

theorem valuesOf_cons_same (name : String) (tree : Tree) (members : List (String × Tree)) :
    valuesOf name ((name, tree) :: members) = tree :: valuesOf name members := by
  simp [valuesOf]

theorem valuesOf_cons_other {name other : String} (differs : other ≠ name) (tree : Tree)
    (members : List (String × Tree)) :
    valuesOf name ((other, tree) :: members) = valuesOf name members := by
  simp [valuesOf, differs]

theorem positions_nil : Positions slots [] value ↔ ∀ slot ∈ slots, slot.Omitted value := by
  constructor
  · rintro ⟨written, left, rfl, said, omitted⟩
    cases said
    exact omitted
  · intro omitted
    exact ⟨[], slots, rfl, .nil, omitted⟩

theorem not_positions_cons : ¬Positions ([] : List (Slot α)) (tree :: items) value := by
  rintro ⟨written, left, split, said, -⟩
  cases said with
  | cons _ _ => cases split

theorem positions_cons : Positions (slot :: slots) (tree :: items) value ↔
    slot.Says tree value ∧ Positions slots items value := by
  constructor
  · rintro ⟨written, left, split, said, omitted⟩
    cases said with
    | cons first others =>
      obtain ⟨rfl, rfl⟩ := List.cons.inj split
      exact ⟨first, _, left, rfl, others, omitted⟩
  · rintro ⟨first, written, left, rfl, others, omitted⟩
    exact ⟨slot :: written, left, rfl, .cons first others, omitted⟩

end Shapes

/-- A record stands as an object or as a list. -/
def record (slots : List (Slot α)) : Meaning α := fun tree value =>
  (∃ members, tree = .object members ∧ Members slots members value) ∨
    ∃ items, tree = .list items ∧ Positions slots items value

end Meaning

open Meaning

/-! ### Whole trees -/

theorem intact_string (characters : String) : (string characters).intact = true := rfl

theorem intact_list {items : List Tree} :
    (Tree.list items).intact = true ↔ ∀ item ∈ items, item.intact = true := by
  change intactItems items = true ↔ _
  induction items with
  | nil => simp [intactItems]
  | cons item items ih => rw [intactItems, Bool.and_eq_true, ih, List.forall_mem_cons]

theorem intact_object {members : List (String × Tree)} :
    (Tree.object members).intact = true ↔ ∀ member ∈ members, member.2.intact = true := by
  change intactMembers (members.map _) = true ↔ _
  induction members with
  | nil => simp [intactMembers]
  | cons member members ih =>
    rw [List.map_cons, intactMembers, Bool.and_eq_true, ih, List.forall_mem_cons]

/-! ### Decoders -/

namespace Decoder

variable {α : Type}

/-- In JSON the decoder takes the whole trees that have a meaning, with the value that they mean. -/
def Reads (decoder : Decoder α) (means : Meaning α) : Prop :=
  ∀ tree value, decoder Json.dialect tree = .ok value ↔ tree.intact = true ∧ means tree value

theorem reads_text : text.Reads Meaning.text := by
  intro tree value
  cases tree with
  | text characters => cases characters <;> simp [text, Meaning.text, string, intact, misfit]
  | _ => simp [text, Meaning.text, string]

theorem reads_optionalText : optionalText.Reads Meaning.optionalText := by
  intro tree value
  cases tree with
  | null => cases value <;> simp [optionalText, Meaning.optionalText, string, intact]
  | text characters =>
    cases characters <;> cases value <;>
      simp [optionalText, text, Meaning.optionalText, string, intact, Except.map]
  | _ => cases value <;> simp [optionalText, text, Meaning.optionalText, string, Except.map]

theorem Reads.list {item : Decoder α} {means : Meaning α} (reads : item.Reads means) :
    (Decoder.list item).Reads (Meaning.list means) := by
  intro tree values
  cases tree with
  | list items =>
    have each : (fun tree value => item Json.dialect tree = .ok value) =
        fun tree value => tree.intact = true ∧ means tree value :=
      funext fun tree => funext fun value => propext (reads tree value)
    change items.mapM (item Json.dialect) = .ok values ↔ _
    rw [FirstFailure.mapM_ok, each, List.forall₂_and_left, intact_list, Meaning.list]
    simp
  | _ => simp [Decoder.list, Meaning.list]

end Decoder

end StarReport.Tree
