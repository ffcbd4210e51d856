import Mathlib.Data.List.Induction
import Mathlib.Data.List.Nodup
import StarReport.Distinct

/-!
What a list without repeats holds. Folding `Distinct.insert` over new elements keeps the old list in
front, adds no key twice, loses no key, and answers every search that looks at keys alone as the
plain concatenation would.
-/

set_option autoImplicit false
set_option relaxedAutoImplicit false

namespace StarReport.Distinct

variable {α κ : Type} [DecidableEq κ] {key : α → κ}

/-- Where keys do not repeat, a search by key finds the element of that key. -/
theorem find?_of_mem {xs : List α} (distinct : (xs.map key).Nodup) {x : α} (listed : x ∈ xs) :
    xs.find? (key · = key x) = some x := by
  cases found : xs.find? (key · = key x) with
  | none => exact absurd (List.find?_eq_none.mp found x listed) (by simp)
  | some y =>
    have same : key y = key x := by simpa using List.find?_some found
    exact congrArg some
      (List.inj_on_of_nodup_map distinct (List.mem_of_find?_eq_some found) listed same)

theorem mem_of_mem_insert {xs : List α} {x y : α} (member : y ∈ insert key xs x) :
    y ∈ xs ∨ y = x := by
  unfold insert at member
  split at member
  · exact .inl member
  · simpa using member

theorem nodup_insert {xs : List α} (nodup : (xs.map key).Nodup) (x : α) :
    ((insert key xs x).map key).Nodup := by
  unfold insert
  split
  · exact nodup
  · rename_i fresh
    have apart : ∀ k ∈ xs.map key, ∀ l ∈ [key x], k ≠ l := by
      rintro k held l new rfl
      exact fresh (List.mem_singleton.mp new ▸ held)
    rw [List.map_append]
    exact List.nodup_append.mpr ⟨nodup, by simp, apart⟩

theorem nodup_foldl_insert {start : List α} (nodup : (start.map key).Nodup) (xs : List α) :
    ((xs.foldl (insert key) start).map key).Nodup := by
  induction xs generalizing start with
  | nil => exact nodup
  | cons x xs ih => exact ih (nodup_insert nodup x)

theorem mem_map_foldl_insert {start xs : List α} {k : κ} :
    k ∈ (xs.foldl (insert key) start).map key ↔ k ∈ start.map key ∨ k ∈ xs.map key := by
  induction xs generalizing start with
  | nil => simp
  | cons x xs ih =>
    rw [List.foldl_cons, ih, mem_map_insert, List.map_cons, List.mem_cons, or_assoc]

theorem mem_of_mem_foldl_insert {start xs : List α} {x : α}
    (member : x ∈ xs.foldl (insert key) start) : x ∈ start ∨ x ∈ xs := by
  induction xs generalizing start with
  | nil => exact .inl member
  | cons y ys ih =>
    rcases ih member with old | new
    · rcases mem_of_mem_insert old with old | rfl
      · exact .inl old
      · exact .inr (by simp)
    · exact .inr (List.mem_cons_of_mem y new)

/-- The list that elements are inserted into stays in front. -/
theorem prefix_foldl_insert (start xs : List α) : start <+: xs.foldl (insert key) start := by
  induction xs generalizing start with
  | nil => exact List.prefix_refl start
  | cons x xs ih =>
    refine List.IsPrefix.trans ?_ (ih (insert key start x))
    unfold insert
    split
    · exact List.prefix_refl start
    · exact List.prefix_append start [x]

/-- A search that looks at keys alone finds in the list without repeats what it finds in the list
with them. -/
theorem find?_foldl_insert {p : α → Bool} (keyed : ∀ x y, key x = key y → p x = p y)
    (start xs : List α) : (xs.foldl (insert key) start).find? p = (start ++ xs).find? p := by
  induction xs generalizing start with
  | nil => simp
  | cons x xs ih =>
    rw [List.foldl_cons, ih]
    unfold insert
    split
    · rename_i present
      obtain ⟨held, member, same⟩ := List.mem_map.mp present
      simp only [List.find?_append, List.find?_cons]
      cases found : p x with
      | false => rfl
      | true =>
        have hit : (start.find? p).isSome :=
          List.find?_isSome.mpr ⟨held, member, (keyed held x same).trans found⟩
        obtain ⟨first, first_eq⟩ := Option.isSome_iff_exists.mp hit
        simp [first_eq]
    · simp

theorem find?_ofList {p : α → Bool} (keyed : ∀ x y, key x = key y → p x = p y) (xs : List α) :
    (ofList key xs).find? p = xs.find? p :=
  find?_foldl_insert keyed [] xs

theorem mem_of_mem_ofList {xs : List α} {x : α} (member : x ∈ ofList key xs) : x ∈ xs := by
  rcases mem_of_mem_foldl_insert member with absurdity | member
  · simp at absurdity
  · exact member

theorem ofList_append_singleton (xs : List α) (x : α) :
    ofList key (xs ++ [x]) = insert key (ofList key xs) x :=
  List.foldl_append

/-- Where no key comes again nothing is left out. -/
theorem ofList_eq_self {xs : List α} (nodup : (xs.map key).Nodup) : ofList key xs = xs := by
  induction xs using List.reverseRecOn with
  | nil => rfl
  | append_singleton xs x ih =>
    rw [List.map_append, List.map_singleton] at nodup
    obtain ⟨before, _, apart⟩ := List.nodup_append.mp nodup
    have fresh : key x ∉ xs.map key := fun present =>
      apart (key x) present (key x) (List.mem_singleton_self _) rfl
    rw [ofList_append_singleton, ih before, insert_of_not_mem fresh]

theorem mem_map_ofList {xs : List α} {k : κ} : k ∈ (ofList key xs).map key ↔ k ∈ xs.map key := by
  rw [ofList, mem_map_foldl_insert]
  simp

theorem ofList_ne_nil {xs : List α} (some_element : xs ≠ []) : ofList key xs ≠ [] := by
  intro empty
  obtain ⟨x, member⟩ := List.exists_mem_of_ne_nil xs some_element
  have kept : key x ∈ (ofList key xs).map key := mem_map_ofList.mpr (List.mem_map_of_mem member)
  rw [empty] at kept
  cases kept

/-- A change of the elements that takes keys to keys one for one does not matter to which of them
are kept. -/
theorem map_ofList {β ι : Type} [DecidableEq ι] {key' : β → ι} (change : α → β)
    (alike : ∀ x y, key' (change x) = key' (change y) ↔ key x = key y) (xs : List α) :
    (ofList key xs).map change = ofList key' (xs.map change) := by
  induction xs using List.reverseRecOn with
  | nil => rfl
  | append_singleton xs x ih =>
    rw [List.map_append, List.map_singleton, ofList_append_singleton, ofList_append_singleton, ← ih]
    have same : key' (change x) ∈ ((ofList key xs).map change).map key' ↔
        key x ∈ (ofList key xs).map key := by
      simp only [List.map_map, List.mem_map, Function.comp_apply, alike]
    unfold insert
    by_cases present : key x ∈ (ofList key xs).map key
    · rw [if_pos present, if_pos (same.mpr present)]
    · rw [if_neg present, if_neg (mt same.mp present), List.map_append, List.map_singleton]

/-- The keys of the elements kept are the first occurrences of all keys. -/
theorem map_key_ofList (xs : List α) : (ofList key xs).map key = (xs.map key).eraseDups := by
  induction xs using List.reverseRecOn with
  | nil => rfl
  | append_singleton xs x ih =>
    rw [ofList_append_singleton, List.map_append, List.map_singleton, List.eraseDups_append, ← ih]
    by_cases present : key x ∈ (ofList key xs).map key
    · have known : [key x].removeAll (xs.map key) = [] :=
        List.filter_eq_nil_iff.mpr (by simpa using mem_map_ofList.mp present)
      rw [insert_of_mem present, known, List.eraseDups_nil, List.append_nil]
    · have new : [key x].removeAll (xs.map key) = [key x] :=
        List.filter_eq_self.mpr (by simpa using mt mem_map_ofList.mpr present)
      rw [insert_of_not_mem present, new, List.map_append]
      rfl

/-- Where elements are compared as they are, what is kept are their first occurrences. -/
theorem ofList_id [DecidableEq α] (xs : List α) : ofList id xs = xs.eraseDups := by
  have kept : (ofList id xs).map id = (xs.map id).eraseDups := map_key_ofList xs
  rwa [List.map_id, List.map_id] at kept

/-- Elements whose keys can be read back are kept where what they were made from first occurs. -/
theorem map_read_ofList {β ι : Type} [DecidableEq α] [DecidableEq ι] {key' : β → ι} {make : α → β}
    (read : ι → α) (reads : ∀ x, read (key' (make x)) = x) (xs : List α) :
    ((ofList key' (xs.map make)).map fun y => read (key' y)) = xs.eraseDups := by
  have alike (x y : α) : key' (make x) = key' (make y) ↔ id x = id y := by
    constructor
    · intro same
      have back := congrArg read same
      rwa [reads, reads] at back
    · rintro rfl
      rfl
  rw [← map_ofList make alike, List.map_map, ← ofList_id]
  have same : (fun y => read (key' y)) ∘ make = id := funext reads
  rw [same, List.map_id]

/-- What a test of keys picks from the elements kept is kept from what it picks. -/
theorem filter_ofList {p : α → Bool} (keyed : ∀ x y, key x = key y → p x = p y) (xs : List α) :
    (ofList key xs).filter p = ofList key (xs.filter p) := by
  induction xs using List.reverseRecOn with
  | nil => rfl
  | append_singleton xs x ih =>
    rw [ofList_append_singleton, List.filter_append]
    cases picked : p x with
    | false =>
      rw [List.filter_cons_of_neg (by simp [picked]), List.filter_nil, List.append_nil, ← ih]
      unfold insert
      split
      · rfl
      · simp [picked]
    | true =>
      have same : key x ∈ ((ofList key xs).filter p).map key ↔ key x ∈ (ofList key xs).map key := by
        simp only [List.mem_map, List.mem_filter]
        constructor
        · rintro ⟨y, ⟨held, _⟩, alike⟩
          exact ⟨y, held, alike⟩
        · rintro ⟨y, held, alike⟩
          exact ⟨y, ⟨held, (keyed y x alike).trans picked⟩, alike⟩
      rw [List.filter_cons_of_pos picked, List.filter_nil, ofList_append_singleton, ← ih]
      by_cases present : key x ∈ (ofList key xs).map key
      · rw [insert_of_mem present, insert_of_mem (same.mpr present)]
      · rw [insert_of_not_mem present, insert_of_not_mem (mt same.mp present)]
        simp [picked]

/-! ### First occurrences -/

/-- The elements whose key none before them has. -/
def firsts (key : α → κ) : List α → List α
  | [] => []
  | x :: xs => x :: (firsts key xs).filter (key · ≠ key x)

theorem foldl_insert_eq (start xs : List α) :
    xs.foldl (insert key) start = start ++ (firsts key xs).filter (key · ∉ start.map key) := by
  induction xs generalizing start with
  | nil => simp [firsts]
  | cons x xs ih =>
    rw [List.foldl_cons, ih, firsts]
    by_cases present : key x ∈ start.map key
    · have apart (y : α) : (decide (key y ∉ start.map key) && decide (key y ≠ key x)) =
          decide (key y ∉ start.map key) := by
        rw [Bool.and_eq_left_iff_imp, decide_eq_true_eq, decide_eq_true_eq]
        exact fun fresh same => fresh (same ▸ present)
      rw [insert_of_mem present, List.filter_cons_of_neg (by simpa using present),
        List.filter_filter]
      simp only [apart]
    · have apart (y : α) : decide (key y ∉ (start ++ [x]).map key) =
          (decide (key y ∉ start.map key) && decide (key y ≠ key x)) := by
        rw [← Bool.decide_and, decide_eq_decide, List.map_append, List.mem_append]
        simp
      rw [insert_of_not_mem present, List.filter_cons_of_pos (by simpa using present),
        List.filter_filter, List.append_assoc, List.singleton_append]
      simp only [apart]

/-- What is kept of a list are the elements whose key none before them has. -/
theorem ofList_eq_firsts (xs : List α) : ofList key xs = firsts key xs := by
  rw [ofList, foldl_insert_eq, List.nil_append]
  exact List.filter_eq_self.mpr fun x _ => by simp

theorem head?_firsts (xs : List α) : (firsts key xs).head? = xs.head? := by
  cases xs <;> rfl

end StarReport.Distinct
