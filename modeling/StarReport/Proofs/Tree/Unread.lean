import StarReport.Proofs.Tree.Dialect

/-!
Members that no field reads. All that counts is that they pass in the dialect, which a record or a
list does if everything in it does; apart from that a record is read as if it were without them.
-/

set_option autoImplicit false
set_option relaxedAutoImplicit false

namespace StarReport.Tree

theorem intact_record {members : List (Characters × Tree)} :
    (Tree.record members).intact = true ↔ ∀ member ∈ members, member.2.intact = true := by
  change intactMembers members = true ↔ _
  induction members with
  | nil => simp [intactMembers]
  | cons member members ih =>
    rw [intactMembers, Bool.and_eq_true, ih, List.forall_mem_cons]

section Passing

variable {dialect : Dialect}

theorem passes_iff {tree : Tree} : dialect.passes tree = true ↔
    tree.intact = true ∧ (dialect.excess = true ∨ tree.held = true) := by
  rw [Dialect.passes, Bool.and_eq_true, Bool.or_eq_true]

private theorem forall_and_or {ι : Type} {items : List ι} {p q : ι → Prop} {r : Prop} :
    ((∀ item ∈ items, p item) ∧ (r ∨ ∀ item ∈ items, q item)) ↔
      ∀ item ∈ items, p item ∧ (r ∨ q item) := by
  by_cases holds : r
  · simp [holds]
  · simp [holds, forall₂_and]

theorem passes_record {members : List (Characters × Tree)} :
    dialect.passes (.record members) = true ↔
      ∀ member ∈ members, dialect.passes member.2 = true := by
  simp only [passes_iff, intact_record, held_record]
  exact forall_and_or

theorem passes_list {items : List Tree} :
    dialect.passes (.list items) = true ↔ ∀ item ∈ items, dialect.passes item = true := by
  simp only [passes_iff, intact_list, held_list]
  exact forall_and_or

end Passing

namespace Decoder

variable {α : Type} {dialect : Dialect} {fields : List (Field α)} {seen : List String}
  {before : α} {entries : List (Characters × Tree)} {result : List String × α}

/-- A member of a field is read on the way through a record. -/
theorem read_of_members (taken : members dialect fields seen before entries = .ok result)
    {name : String} {tree : Tree} (held : (some name, tree) ∈ entries) {field : Field α}
    (found : fields.find? (·.name = name) = some field) :
    ∃ value after, field.read dialect tree value = .ok after := by
  induction entries generalizing seen before with
  | nil => cases held
  | cons entry rest ih =>
    obtain ⟨characters, first⟩ := entry
    cases characters with
    | none => cases taken
    | some other =>
      rw [members] at taken
      rcases List.mem_cons.mp held with same | later
      · cases same
        rw [found] at taken
        simp only at taken
        split at taken
        · cases taken
        · obtain ⟨after, read, _⟩ := FirstFailure.bind_ok.mp taken
          exact ⟨before, after, read⟩
      · split at taken
        · split at taken
          · exact ih taken later
          · cases taken
        · split at taken
          · cases taken
          · obtain ⟨after, _, taken⟩ := FirstFailure.bind_ok.mp taken
            exact ih taken later

/-- Members under a name that no field has need only pass. -/
theorem members_ok_without {name : String} (unread : fields.find? (·.name = name) = none) :
    members dialect fields seen before entries = .ok result ↔
      (∀ entry ∈ entries, entry.1 = some name → dialect.passes entry.2 = true) ∧
        members dialect fields seen before (entries.filter (·.1 ≠ some name)) = .ok result := by
  induction entries generalizing seen before with
  | nil => simp
  | cons entry rest ih =>
    obtain ⟨characters, tree⟩ := entry
    rw [List.forall_mem_cons]
    by_cases same : characters = some name
    · subst same
      rw [members, unread, List.filter_cons_of_neg (by simp)]
      simp only [forall_const, and_assoc]
      by_cases passes : dialect.passes tree = true
      · rw [if_pos passes, ih]
        simp [passes]
      · simp [passes]
    · rw [List.filter_cons_of_pos (by simpa using same)]
      simp only [same, false_implies, true_and]
      cases characters with
      | none => simp [members]
      | some other =>
        rw [members, members]
        cases fields.find? (·.name = other) with
        | none =>
          by_cases passes : dialect.passes tree = true
          · simp only [if_pos passes, ih]
          · simp [passes]
        | some field =>
          by_cases isSeen : other ∈ seen
          · simp [isSeen]
          · simp only [if_neg isSeen, FirstFailure.bind_ok, ih]
            constructor
            · rintro ⟨after, read, passes, taken⟩
              exact ⟨passes, after, read, taken⟩
            · rintro ⟨passes, after, read, taken⟩
              exact ⟨after, read, passes, taken⟩

theorem record_ok_without {name : String} (unread : fields.find? (·.name = name) = none)
    {blank value : α} :
    record blank fields dialect (.record entries) = .ok value ↔
      (∀ entry ∈ entries, entry.1 = some name → dialect.passes entry.2 = true) ∧
        record blank fields dialect (.record (entries.filter (·.1 ≠ some name))) = .ok value := by
  have without (result : List String × α) : members dialect fields [] blank entries = .ok result ↔
      (∀ entry ∈ entries, entry.1 = some name → dialect.passes entry.2 = true) ∧
        members dialect fields [] blank (entries.filter (·.1 ≠ some name)) = .ok result :=
    members_ok_without unread
  simp only [record, FirstFailure.bind_ok, without]
  constructor
  · rintro ⟨result, ⟨passes, taken⟩, made⟩
    exact ⟨passes, result, taken, made⟩
  · rintro ⟨passes, result, taken, made⟩
    exact ⟨result, ⟨passes, taken⟩, made⟩

end Decoder

end StarReport.Tree
