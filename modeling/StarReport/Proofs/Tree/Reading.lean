import Mathlib.Data.List.Nodup
import StarReport.Proofs.FirstOccurrences
import StarReport.Proofs.Tree.Meaning

/-!
Reading of records. A record that is put together from parts, each of which reads its own slot and
leaves the others alone, is read whatever the order of the members, and from a list as well.
-/

set_option autoImplicit false
set_option relaxedAutoImplicit false

namespace StarReport.Tree.Decoder

open Meaning

variable {α : Type}

/-- A slot with a way to read it and to put its value in place. -/
structure Part (α : Type) : Type 1 where
  slot : Slot α
  decoder : Decoder slot.Value
  set : slot.Value → α → α
  reads : decoder.Reads slot.means
  get_set : ∀ value record, slot.get (set value record) = value

namespace Part

/-- The field of a part is required if it has no value without being said. -/
def field (part : Part α) : Field α :=
  ⟨part.slot.name, part.slot.default.isNone,
    fun dialect tree blank => (part.decoder dialect tree).map (part.set · blank)⟩

@[simp] theorem field_name (part : Part α) : part.field.name = part.slot.name := rfl

@[simp] theorem field_required (part : Part α) :
    part.field.required = part.slot.default.isNone := rfl

/-- A text that must be said. -/
def ofText (name : String) (get : α → String) (set : String → α → α)
    (get_set : ∀ value record, get (set value record) = value) : Part α :=
  ⟨.needed name get Meaning.text, text, set, reads_text, get_set⟩

/-- A list that is empty where nothing is said. -/
def ofList {β : Type} {item : Decoder β} {means : Meaning β} (reads : item.Reads means)
    (name : String) (get : α → List β) (set : List β → α → α)
    (get_set : ∀ value record, get (set value record) = value) : Part α :=
  ⟨.optional name get (Meaning.list means) [], list item, set, reads.list, get_set⟩

theorem read_ok {part : Part α} {tree : Tree} {before after : α} :
    part.field.read Json.dialect tree before = .ok after ↔
      ∃ value, (tree.intact = true ∧ part.slot.means tree value) ∧ part.set value before = after := by
  change (part.decoder Json.dialect tree).map _ = _ ↔ _
  simp only [FirstFailure.map_ok, part.reads tree]

end Part

/-- Parts that make up the records of a type, with the record in which nothing has been said. -/
structure MakesUp (parts : List (Part α)) (blank : α) : Prop where
  distinct : (parts.map (·.slot.name)).Nodup
  apart : ∀ part ∈ parts, ∀ other ∈ parts, part.slot.name ≠ other.slot.name →
    ∀ value record, other.slot.get (part.set value record) = other.slot.get record
  ext : ∀ record record' : α,
    (∀ part ∈ parts, part.slot.get record = part.slot.get record') → record = record'
  unsaid : ∀ part ∈ parts, ∀ value, part.slot.default = some value → part.slot.get blank = value
  required : ∃ part ∈ parts, part.slot.default = none

namespace MakesUp

variable {parts : List (Part α)} {blank : α}

theorem same_of_name (complete : MakesUp parts blank) {part other : Part α} (mem : part ∈ parts)
    (mem' : other ∈ parts) (same : part.slot.name = other.slot.name) : part = other :=
  List.inj_on_of_nodup_map complete.distinct mem mem' same

/-- What is left out is as it is in the blank record, and may be left out. -/
theorem omitted_iff (complete : MakesUp parts blank) {part : Part α} (mem : part ∈ parts)
    {record : α} : part.slot.Omitted record ↔
      part.slot.default.isNone = false ∧ part.slot.get record = part.slot.get blank := by
  have unsaid := complete.unsaid part mem
  rw [Slot.Omitted]
  cases unspoken : part.slot.default with
  | none => simp
  | some value => simp [unsaid value unspoken, eq_comm]

/-! ### Members -/

/-- What the members still to come make of a part. One that has been seen must not come again; any
other comes once, or is left out. -/
def Settles (seen : List String) (members : List (String × Tree)) (before after : α)
    (part : Part α) : Prop :=
  if part.slot.name ∈ seen then
    valuesOf part.slot.name members = [] ∧ part.slot.get after = part.slot.get before
  else (∃ tree, valuesOf part.slot.name members = [tree] ∧ part.slot.Says tree after) ∨
    valuesOf part.slot.name members = [] ∧ part.slot.Omitted after

/-- A member that is not of the part does not change what the part makes of the rest. -/
theorem settles_cons_other {part : Part α} {name : String} (differs : name ≠ part.slot.name)
    {seen seen' : List String} (same : part.slot.name ∈ seen' ↔ part.slot.name ∈ seen)
    (tree : Tree) (rest : List (String × Tree)) {before before' : α} (after : α)
    (kept : part.slot.get before' = part.slot.get before) :
    Settles seen ((name, tree) :: rest) before after part ↔
      Settles seen' rest before' after part := by
  rw [Settles, Settles, valuesOf_cons_other differs, kept]
  simp only [same]

/-- The member of a part that has not been seen is the only one, and the part has its value. -/
theorem settles_cons_same {part : Part α} {seen : List String} (unseen : part.slot.name ∉ seen)
    (tree : Tree) (rest : List (String × Tree)) (before after : α) :
    Settles seen ((part.slot.name, tree) :: rest) before after part ↔
      valuesOf part.slot.name rest = [] ∧ part.slot.Says tree after := by
  rw [Settles, if_neg unseen, valuesOf_cons_same]
  simp

theorem find?_field (complete : MakesUp parts blank) {part : Part α} (mem : part ∈ parts) :
    (parts.map Part.field).find? (·.name = part.slot.name) = some part.field := by
  have distinct : ((parts.map Part.field).map Field.name).Nodup := by
    rw [List.map_map]
    exact complete.distinct
  exact Distinct.find?_of_mem distinct (List.mem_map_of_mem mem)

/-- The record that reading has come to is settled on where nothing more is said. -/
theorem settles_nil (complete : MakesUp parts blank) {seen : List String} {before after : α}
    (untouched : ∀ part ∈ parts, part.slot.name ∉ seen →
      part.slot.get before = part.slot.get blank) :
    (∀ part ∈ parts, Settles seen [] before after part) ↔ before = after ∧
      ∀ part ∈ parts, part.slot.default.isNone = true → part.slot.name ∈ seen := by
  have each (part : Part α) (mem : part ∈ parts) : Settles seen [] before after part ↔
      part.slot.get after = part.slot.get before ∧
        (part.slot.default.isNone = true → part.slot.name ∈ seen) := by
    rw [Settles]
    split
    · rename_i isSeen
      simp [valuesOf, isSeen]
    · rename_i unseen
      rw [complete.omitted_iff mem, ← untouched part mem unseen]
      simp [valuesOf, unseen, and_comm, Option.isSome_iff_ne_none]
  constructor
  · intro settled
    exact ⟨complete.ext _ _ fun part mem => ((each part mem).mp (settled part mem)).1.symm,
      fun part mem => ((each part mem).mp (settled part mem)).2⟩
  · rintro ⟨rfl, required⟩ part mem
    exact (each part mem).mpr ⟨rfl, required part mem⟩

/-- Reading a part and settling all parts on what comes after is settling them with its member. -/
theorem settles_cons (complete : MakesUp parts blank) {part : Part α} (mem : part ∈ parts)
    {seen : List String} (unseen : part.slot.name ∉ seen) (tree : Tree)
    (rest : List (String × Tree)) (before after : α) :
    (∃ value, part.slot.means tree value ∧
      ∀ other ∈ parts, Settles (part.slot.name :: seen) rest (part.set value before) after other) ↔
      ∀ other ∈ parts, Settles seen ((part.slot.name, tree) :: rest) before after other := by
  -- The parts that are not read do not notice the difference.
  have others (value : part.slot.Value) (other : Part α) (mem' : other ∈ parts)
      (differs : part.slot.name ≠ other.slot.name) :
      Settles seen ((part.slot.name, tree) :: rest) before after other ↔
        Settles (part.slot.name :: seen) rest (part.set value before) after other :=
    settles_cons_other differs (by simp [differs.symm]) tree rest after
      (complete.apart part mem other mem' differs value before)
  have itself (value : part.slot.Value) :
      Settles (part.slot.name :: seen) rest (part.set value before) after part ↔
        valuesOf part.slot.name rest = [] ∧ part.slot.get after = value := by
    rw [Settles, if_pos List.mem_cons_self, part.get_set]
  constructor
  · rintro ⟨value, said, settled⟩ other mem'
    by_cases same : part.slot.name = other.slot.name
    · obtain rfl := complete.same_of_name mem mem' same
      obtain ⟨nothing, rfl⟩ := (itself value).mp (settled part mem)
      exact (settles_cons_same unseen tree rest before after).mpr ⟨nothing, said⟩
    · exact (others value other mem' same).mpr (settled other mem')
  · intro settled
    obtain ⟨nothing, said⟩ :=
      (settles_cons_same unseen tree rest before after).mp (settled part mem)
    refine ⟨part.slot.get after, said, fun other mem' => ?_⟩
    by_cases same : part.slot.name = other.slot.name
    · obtain rfl := complete.same_of_name mem mem' same
      exact (itself _).mpr ⟨nothing, rfl⟩
    · exact (others _ other mem' same).mp (settled other mem')

section Step

variable {seen : List String} {before : α} {tree : Tree} {rest : List (Characters × Tree)}
  {result : List String × α}

/-- A member of a part that has not been seen is read and put in place. -/
theorem members_unseen (complete : MakesUp parts blank) {part : Part α} (mem : part ∈ parts)
    (unseen : part.slot.name ∉ seen) :
    members Json.dialect (parts.map Part.field) seen before ((some part.slot.name, tree) :: rest) =
        .ok result ↔
      ∃ value, (tree.intact = true ∧ part.slot.means tree value) ∧
        members Json.dialect (parts.map Part.field) (part.slot.name :: seen)
          (part.set value before) rest = .ok result := by
  rw [members, find?_field complete mem]
  simp only [if_neg unseen, FirstFailure.bind_ok, Part.read_ok]
  constructor
  · rintro ⟨_, ⟨value, said, rfl⟩, read⟩
    exact ⟨value, said, read⟩
  · rintro ⟨value, said, read⟩
    exact ⟨_, ⟨value, said, rfl⟩, read⟩

theorem members_seen (complete : MakesUp parts blank) {part : Part α} (mem : part ∈ parts)
    (isSeen : part.slot.name ∈ seen) :
    members Json.dialect (parts.map Part.field) seen before ((some part.slot.name, tree) :: rest) =
      .error .mismatched := by
  rw [members, find?_field complete mem]
  exact if_pos isSeen

/-- A member of no part is passed over if it is whole. -/
theorem members_unknown {name : String} (unknown : ∀ part ∈ parts, part.slot.name ≠ name) :
    members Json.dialect (parts.map Part.field) seen before ((some name, tree) :: rest) =
        .ok result ↔
      tree.intact = true ∧
        members Json.dialect (parts.map Part.field) seen before rest = .ok result := by
  have none : (parts.map Part.field).find? (·.name = name) = none := by
    rw [List.find?_eq_none]
    intro field listed
    obtain ⟨part, mem, rfl⟩ := List.mem_map.mp listed
    exact mt of_decide_eq_true (unknown part mem)
  have passes : Json.dialect.passes tree = tree.intact := by simp [Dialect.passes, Json.dialect]
  rw [members, none]
  simp only [passes]
  cases tree.intact <;> simp

end Step

/-- Reading the members comes to a record with all that is required if and only if every part
settles on that record. -/
theorem members_ok (complete : MakesUp parts blank) (named : List (String × Tree))
    {seen : List String} {before after : α}
    (untouched : ∀ part ∈ parts, part.slot.name ∉ seen →
      part.slot.get before = part.slot.get blank) :
    (∃ seen', members Json.dialect (parts.map Part.field) seen before
        (named.map fun member => (some member.1, member.2)) = .ok (seen', after) ∧
      ∀ part ∈ parts, part.slot.default.isNone = true → part.slot.name ∈ seen') ↔
      (∀ member ∈ named, member.2.intact = true) ∧
        ∀ part ∈ parts, Settles seen named before after part := by
  induction named generalizing seen before with
  | nil =>
    rw [settles_nil complete untouched]
    simp [members, and_comm]
  | cons member rest ih =>
    obtain ⟨name, tree⟩ := member
    rw [List.forall_mem_cons, List.map_cons]
    by_cases known : ∃ part ∈ parts, part.slot.name = name
    · obtain ⟨part, mem, rfl⟩ := known
      by_cases isSeen : part.slot.name ∈ seen
      · -- A second member of one name is refused, and no part settles on two.
        have unsettled : ¬Settles seen ((part.slot.name, tree) :: rest) before after part := by
          rw [Settles, if_pos isSeen, valuesOf_cons_same]
          simp
        simp only [members_seen complete mem isSeen]
        constructor
        · rintro ⟨_, impossible, _⟩
          cases impossible
        · rintro ⟨_, settled⟩
          exact absurd (settled part mem) unsettled
      · have untouched' (value : part.slot.Value) : ∀ other ∈ parts,
            other.slot.name ∉ part.slot.name :: seen →
              other.slot.get (part.set value before) = other.slot.get blank := by
          intro other mem' unseen
          rw [List.mem_cons, not_or] at unseen
          rw [complete.apart part mem other mem' (Ne.symm unseen.1), untouched other mem' unseen.2]
        simp only [members_unseen complete mem isSeen]
        rw [← settles_cons complete mem isSeen tree rest before after]
        constructor
        · rintro ⟨seen', ⟨value, ⟨whole, said⟩, read⟩, required⟩
          obtain ⟨intact, settled⟩ := (ih (untouched' value)).mp ⟨seen', read, required⟩
          exact ⟨⟨whole, intact⟩, value, said, settled⟩
        · rintro ⟨⟨whole, intact⟩, value, said, settled⟩
          obtain ⟨seen', read, required⟩ := (ih (untouched' value)).mpr ⟨intact, settled⟩
          exact ⟨seen', ⟨value, ⟨whole, said⟩, read⟩, required⟩
    · have unknown : ∀ part ∈ parts, part.slot.name ≠ name :=
        fun part mem same => known ⟨part, mem, same⟩
      have settles (part : Part α) (mem : part ∈ parts) :
          Settles seen ((name, tree) :: rest) before after part ↔
            Settles seen rest before after part :=
        settles_cons_other (unknown part mem).symm Iff.rfl tree rest after rfl
      rw [forall₂_congr settles, and_assoc, ← ih untouched]
      simp only [members_unknown unknown, and_assoc, exists_and_left]

/-! ### Positions -/

/-- Putting a part in place leaves the parts before and after it alone. -/
theorem get_set_other (complete : MakesUp parts blank) {read left : List (Part α)} {part : Part α}
    (split : parts = read ++ part :: left) (value : part.slot.Value) (record : α) :
    ∀ other ∈ read ++ left, other.slot.get (part.set value record) = other.slot.get record := by
  intro other mem
  have distinct := complete.distinct
  rw [split, List.map_append, List.map_cons, List.nodup_middle, List.nodup_cons] at distinct
  have differs : part.slot.name ≠ other.slot.name := by
    intro same
    rw [← List.map_append, same] at distinct
    exact distinct.1 (List.mem_map_of_mem mem)
  refine complete.apart part (by simp [split]) other ?_ differs value record
  rw [split, List.perm_middle.mem_iff]
  exact List.mem_cons_of_mem part mem

theorem positions_nil_ok {left : List (Part α)} {before after : α} :
    positions Json.dialect (left.map Part.field) before [] = .ok after ↔
      before = after ∧ ∀ part ∈ left, part.slot.default.isNone = false := by
  have free : (left.map Part.field).any (·.required) = false ↔
      ∀ part ∈ left, part.slot.default.isNone = false := by
    simp [List.any_eq_false, Option.isSome_iff_ne_none]
  rw [positions, ← free]
  cases (left.map Part.field).any (·.required) <;> simp

/-- Reading a list comes to a record if and only if the parts that were read before are as they were
and the items are those of the other parts. -/
theorem positions_ok (complete : MakesUp parts blank) (items : List Tree) {read left : List (Part α)}
    (split : parts = read ++ left) {before after : α}
    (untouched : ∀ part ∈ left, part.slot.get before = part.slot.get blank) :
    positions Json.dialect (left.map Part.field) before items = .ok after ↔
      (∀ item ∈ items, item.intact = true) ∧
        (∀ part ∈ read, part.slot.get after = part.slot.get before) ∧
          Positions (left.map Part.slot) items after := by
  induction items generalizing read left before with
  | nil =>
    have omitted : (∀ slot ∈ left.map Part.slot, slot.Omitted after) ↔
        ∀ part ∈ left, part.slot.default.isNone = false ∧
          part.slot.get after = part.slot.get before := by
      rw [List.forall_mem_map]
      refine forall₂_congr fun part mem => ?_
      rw [complete.omitted_iff (split ▸ List.mem_append_right read mem), untouched part mem]
    rw [positions_nil_ok, positions_nil, omitted]
    constructor
    · rintro ⟨rfl, free⟩
      exact ⟨by simp, fun _ _ => rfl, fun part mem => ⟨free part mem, rfl⟩⟩
    · rintro ⟨-, same, rest⟩
      refine ⟨complete.ext _ _ fun part mem => ?_, fun part mem => (rest part mem).1⟩
      rcases List.mem_append.mp (split ▸ mem) with known | new
      · exact (same part known).symm
      · exact (rest part new).2.symm
  | cons item items ih =>
    cases left with
    | nil => simp [positions, Json.dialect, not_positions_cons]
    | cons part left =>
      have split' : parts = (read ++ [part]) ++ left := by rw [split, List.append_assoc]; rfl
      have kept := complete.get_set_other split
      have untouched' (value : part.slot.Value) :
          ∀ other ∈ left, other.slot.get (part.set value before) = other.slot.get blank := by
        intro other mem
        rw [kept value before other (List.mem_append_right read mem)]
        exact untouched other (List.mem_cons_of_mem part mem)
      -- With the part read as well, what stays is what stayed before and the value of the part.
      have stays (value : part.slot.Value) :
          (∀ other ∈ read ++ [part], other.slot.get after = other.slot.get (part.set value before)) ↔
            (∀ other ∈ read, other.slot.get after = other.slot.get before) ∧
              part.slot.get after = value := by
        rw [List.forall_mem_append, List.forall_mem_singleton, part.get_set]
        refine and_congr_left' (forall₂_congr fun other mem => ?_)
        rw [kept value before other (List.mem_append_left left mem)]
      rw [List.map_cons, List.map_cons, positions, FirstFailure.bind_ok, List.forall_mem_cons,
        positions_cons]
      simp only [Part.read_ok]
      constructor
      · rintro ⟨_, ⟨value, ⟨whole, said⟩, rfl⟩, made⟩
        obtain ⟨intact, stayed, rest⟩ := (ih split' (untouched' value)).mp made
        obtain ⟨same, rfl⟩ := (stays value).mp stayed
        exact ⟨⟨whole, intact⟩, same, said, rest⟩
      · rintro ⟨⟨whole, intact⟩, same, said, rest⟩
        have made := (ih split' (untouched' _)).mpr ⟨intact, (stays _).mpr ⟨same, rfl⟩, rest⟩
        exact ⟨_, ⟨_, ⟨whole, said⟩, rfl⟩, made⟩

/-! ### Records -/

theorem named_of_members {dialect : Dialect} {fields : List (Field α)} {seen : List String}
    {before : α} {entries : List (Characters × Tree)} {result : List String × α}
    (made : members dialect fields seen before entries = .ok result) :
    ∃ named : List (String × Tree), entries = named.map fun member => (some member.1, member.2) := by
  induction entries generalizing seen before with
  | nil => exact ⟨[], rfl⟩
  | cons entry rest ih =>
    obtain ⟨characters, tree⟩ := entry
    cases characters with
    | none => cases made
    | some name =>
      rw [members] at made
      split at made
      · split at made
        · obtain ⟨named, rfl⟩ := ih made
          exact ⟨(name, tree) :: named, rfl⟩
        · cases made
      · split at made
        · cases made
        · obtain ⟨next, -, others⟩ := FirstFailure.bind_ok.mp made
          obtain ⟨named, rfl⟩ := ih others
          exact ⟨(name, tree) :: named, rfl⟩

theorem reads_members (complete : MakesUp parts blank) (named : List (String × Tree)) (value : α) :
    record blank (parts.map Part.field) Json.dialect (.object named) = .ok value ↔
      (∀ member ∈ named, member.2.intact = true) ∧
        Members (parts.map Part.slot) named value := by
  have settles (part : Part α) : Settles [] named blank value part ↔
      (∃ tree, valuesOf part.slot.name named = [tree] ∧ part.slot.Says tree value) ∨
        valuesOf part.slot.name named = [] ∧ part.slot.Omitted value := by
    rw [Settles, if_neg List.not_mem_nil]
  have required (seen : List String) :
      (parts.map Part.field).all (fun field => !field.required || field.name ∈ seen) = true ↔
        ∀ part ∈ parts, part.slot.default.isNone = true → part.slot.name ∈ seen := by
    rw [List.all_map, List.all_eq_true]
    refine forall₂_congr fun part _ => ?_
    change (!part.slot.default.isNone || decide (part.slot.name ∈ seen)) = true ↔ _
    cases part.slot.default.isNone with
    | true => simp
    | false => simp
  rw [Members, List.forall_mem_map]
  simp only [← settles]
  rw [← complete.members_ok named fun _ _ _ => rfl]
  change (members Json.dialect _ [] blank (named.map _) >>= _) = _ ↔ _
  rw [FirstFailure.bind_ok]
  constructor
  · rintro ⟨⟨seen, reached⟩, read, accepted⟩
    simp only at accepted
    split at accepted
    · rename_i all
      cases accepted
      exact ⟨seen, read, (required seen).mp all⟩
    · cases accepted
  · rintro ⟨seen, read, all⟩
    exact ⟨(seen, value), read, if_pos ((required seen).mpr all)⟩

/-- In JSON the decoder of the parts takes the whole trees that stand for a record of their slots. -/
theorem reads_record (complete : MakesUp parts blank) :
    (record blank (parts.map Part.field)).Reads (Meaning.record (parts.map Part.slot)) := by
  intro tree value
  cases tree with
  | record entries =>
    constructor
    · intro made
      obtain ⟨⟨seen, record⟩, read, -⟩ := FirstFailure.bind_ok.mp made
      obtain ⟨named, rfl⟩ := named_of_members read
      obtain ⟨intact, fields⟩ := (complete.reads_members named value).mp made
      exact ⟨intact_object.mpr intact, .inl ⟨named, rfl, fields⟩⟩
    · rintro ⟨intact, ⟨named, same, fields⟩ | ⟨_, same, _⟩⟩
      · rw [same] at intact ⊢
        exact (complete.reads_members named value).mpr ⟨intact_object.mp intact, fields⟩
      · cases same
  | list items =>
    have start : parts = [] ++ parts := rfl
    change positions Json.dialect (parts.map Part.field) blank items = .ok value ↔ _
    rw [complete.positions_ok items start fun _ _ => rfl, intact_list, Meaning.record]
    simp [object]
  | moment spelling =>
    have required : (parts.map Part.field).any (·.required) = true := by
      obtain ⟨part, mem, needed⟩ := complete.required
      exact List.any_eq_true.mpr ⟨part.field, List.mem_map_of_mem mem, by simp [needed]⟩
    simp [record, Meaning.record, object, required]
  | _ => simp [record, Meaning.record, object]

end MakesUp

end StarReport.Tree.Decoder
