import Mathlib.Data.List.Forall2
import Mathlib.Data.List.Induction

/-!
Passes over a list that stop at the first failure. Where a refusal depends on the element alone, a
pass fails with the cause of the first refused element, and without one it succeeds with the values
of all of them. Where it depends on the elements before as well, a pass comes to a verdict: the first
of all the faults found in turn, or the state that belongs to the whole list.
-/

set_option autoImplicit false
set_option relaxedAutoImplicit false

namespace StarReport.FirstFailure

variable {α β σ ε : Type}

theorem bind_ok {x : Except ε α} {f : α → Except ε β} {b : β} :
    x >>= f = .ok b ↔ ∃ a, x = .ok a ∧ f a = .ok b := by
  cases x with
  | error cause => simp [bind, Except.bind]
  | ok a => simp [bind, Except.bind]

theorem map_ok {x : Except ε α} {f : α → β} {b : β} :
    x.map f = .ok b ↔ ∃ a, x = .ok a ∧ f a = b := by
  cases x with
  | error cause => simp [Except.map]
  | ok a => simp [Except.map]

theorem mapError_ok {ε' : Type} {x : Except ε α} {f : ε → ε'} {a : α} :
    x.mapError f = .ok a ↔ x = .ok a := by
  cases x with
  | error e => constructor <;> intro impossible <;> cases impossible
  | ok b =>
    constructor <;> intro same <;> cases same <;> rfl

/-- A traversal succeeds with the values of all elements. -/
theorem mapM_ok {f : α → Except ε β} {xs : List α} {ys : List β} :
    xs.mapM f = .ok ys ↔ List.Forall₂ (fun x y => f x = .ok y) xs ys := by
  induction xs generalizing ys with
  | nil => simp [pure, Except.pure, eq_comm]
  | cons x xs ih =>
    rw [List.mapM_cons, bind_ok, List.forall₂_cons_left_iff]
    constructor
    · rintro ⟨y, first, tail⟩
      obtain ⟨rest, others, made⟩ := bind_ok.mp tail
      obtain rfl : y :: rest = ys := by simpa [pure, Except.pure] using made
      exact ⟨y, rest, first, ih.mp others, rfl⟩
    · rintro ⟨y, rest, first, others, rfl⟩
      exact ⟨y, first, bind_ok.mpr ⟨rest, ih.mpr others, rfl⟩⟩

/-- A traversal fails with the cause of the first refused element. -/
theorem mapM_eq {f : α → Except ε β} {refused : α → Bool} {cause : α → ε} {value : α → β}
    (step : ∀ x, f x = if refused x then .error (cause x) else .ok (value x)) (xs : List α) :
    xs.mapM f = match xs.find? refused with
      | some x => .error (cause x)
      | none => .ok (xs.map value) := by
  induction xs with
  | nil => rfl
  | cons x xs ih =>
    rw [List.mapM_cons, step x, ih, List.find?_cons]
    cases refused x with
    | true => rfl
    | false =>
      cases xs.find? refused with
      | some y => rfl
      | none => rfl

/-- A fold whose steps keep `inv` and refuse by the element alone fails with the cause of the first
refused element. -/
theorem foldlM_eq {f : σ → α → Except ε σ} (inv : σ → Prop) (refused : α → Bool) (cause : α → ε)
    (next : σ → α → σ)
    (step : ∀ s x, inv s → f s x = if refused x then .error (cause x) else .ok (next s x))
    (keeps : ∀ s x, inv s → inv (next s x)) (xs : List α) {s : σ} (start : inv s) :
    xs.foldlM f s = match xs.find? refused with
      | some x => .error (cause x)
      | none => .ok (xs.foldl next s) := by
  induction xs generalizing s with
  | nil => rfl
  | cons x xs ih =>
    rw [List.foldlM_cons, step s x start, List.find?_cons]
    cases refused x with
    | true => rfl
    | false => exact ih (keeps s x start)

/-- What every accepted step keeps holds at the end of an accepted fold. -/
theorem foldlM_keeps {f : σ → α → Except ε σ} {inv : σ → Prop}
    (keeps : ∀ s x s', inv s → f s x = .ok s' → inv s') {xs : List α} {s s' : σ} (start : inv s)
    (accepted : xs.foldlM f s = .ok s') : inv s' := by
  induction xs generalizing s with
  | nil =>
    obtain rfl : s = s' := by simpa [pure, Except.pure] using accepted
    exact start
  | cons x xs ih =>
    rw [List.foldlM_cons] at accepted
    obtain ⟨middle, head, tail⟩ := bind_ok.mp accepted
    exact ih (keeps s x middle start head) tail

/-! ### Repeats -/

/-- What a fold comes to has settled every element that was accepted on the way. -/
theorem settled_of_foldlM {f : σ → α → Except ε σ} {settled : σ → α → Prop}
    (settles : ∀ s x s', f s x = .ok s' → settled s' x)
    (stays : ∀ x s y s', settled s x → f s y = .ok s' → settled s' x) {xs : List α} {s s' : σ}
    (accepted : xs.foldlM f s = .ok s') : ∀ x ∈ xs, settled s' x := by
  induction xs generalizing s with
  | nil => simp
  | cons y xs ih =>
    rw [List.foldlM_cons] at accepted
    obtain ⟨middle, head, tail⟩ := bind_ok.mp accepted
    intro x member
    rcases List.mem_cons.mp member with rfl | later
    · exact foldlM_keeps (stays x) (settles s x middle head) tail
    · exact ih tail x later

/-- A fold in which an element that was settled changes nothing may leave repeats out. -/
theorem foldlM_eraseDups [DecidableEq α] {f : σ → α → Except ε σ} (settled : σ → α → Prop)
    (settles : ∀ s x s', f s x = .ok s' → settled s' x)
    (stays : ∀ x s y s', settled s x → f s y = .ok s' → settled s' x)
    (again : ∀ s x, settled s x → f s x = .ok s) (xs : List α) (s : σ) :
    xs.eraseDups.foldlM f s = xs.foldlM f s := by
  induction xs using List.reverseRecOn with
  | nil => rfl
  | append_singleton xs x ih =>
    rw [List.eraseDups_append, List.foldlM_append, List.foldlM_append, ih]
    cases accepted : xs.foldlM f s with
    | error cause => rfl
    | ok s' =>
      by_cases present : x ∈ xs
      · have known : [x].removeAll xs = [] := by simpa [List.removeAll] using present
        have settled := settled_of_foldlM settles stays accepted x present
        rw [known, List.eraseDups_nil]
        change _ = f s' x >>= pure
        rw [again s' x settled]
        rfl
      · have new : [x].removeAll xs = [x] := by simpa [List.removeAll] using present
        rw [new]
        rfl

/-! ### Verdicts -/

/-- The first of the faults, or the value where there is none. -/
def verdict (faults : List ε) (value : α) : Except ε α :=
  match faults with
  | [] => .ok value
  | cause :: _ => .error cause

/-- The faults of the elements of a list, each judged by itself and the elements before it. -/
def inTurn (faults : List α → α → List ε) (before : List α) : List α → List ε
  | [] => []
  | x :: rest => faults before x ++ inTurn faults (before ++ [x]) rest

@[simp] theorem verdict_nil (value : α) : verdict ([] : List ε) value = .ok value := rfl

@[simp] theorem verdict_cons (cause : ε) (faults : List ε) (value : α) :
    verdict (cause :: faults) value = .error cause := rfl

theorem verdict_eq_ok {faults : List ε} {value a : α} :
    verdict faults value = .ok a ↔ faults = [] ∧ value = a := by
  cases faults with
  | nil => simp
  | cons cause faults => simp

theorem verdict_eq_error {faults : List ε} {value : α} {cause : ε} :
    verdict faults value = .error cause ↔ faults.head? = some cause := by
  cases faults with
  | nil => simp
  | cons first faults => simp

/-- A step that goes on from a verdict adds its faults to those found so far. -/
theorem verdict_bind {faults more : List ε} {value : α} {result : β} {next : α → Except ε β}
    (goes_on : faults = [] → next value = verdict more result) :
    verdict faults value >>= next = verdict (faults ++ more) result := by
  cases faults with
  | nil => exact goes_on rfl
  | cons cause faults => rfl

/-- A step that finds no fault of its own leaves the verdict to what came before. -/
theorem verdict_bind_ok {faults : List ε} {value : α} {result : β} {next : α → Except ε β}
    (goes_on : faults = [] → next value = .ok result) :
    verdict faults value >>= next = verdict faults result := by
  cases faults with
  | nil => exact goes_on rfl
  | cons cause faults => rfl

theorem inTurn_eq_flatMap (own : α → List ε) (before xs : List α) :
    inTurn (fun _ => own) before xs = xs.flatMap own := by
  induction xs generalizing before with
  | nil => rfl
  | cons x xs ih => rw [inTurn, ih, List.flatMap_cons]

/-- A fold that has reached the state of each start of the list, as long as nothing was at fault,
comes to the verdict on the whole list. -/
theorem foldlM_eq_verdict {f : σ → α → Except ε σ} {faults : List α → α → List ε}
    (state : List α → σ) {xs : List α}
    (step : ∀ before x rest, xs = before ++ x :: rest →
      f (state before) x = verdict (faults before x) (state (before ++ [x]))) :
    xs.foldlM f (state []) = verdict (inTurn faults [] xs) (state xs) := by
  -- Over what is left of the list, for every start that came before it.
  have from_start (before left : List α) (split : xs = before ++ left) :
      left.foldlM f (state before) = verdict (inTurn faults before left) (state xs) := by
    induction left generalizing before with
    | nil =>
      rw [List.append_nil] at split
      rw [split]
      rfl
    | cons x rest ih =>
      rw [List.foldlM_cons, step before x rest split]
      refine verdict_bind fun _ => ih (before ++ [x]) ?_
      rw [split, List.append_assoc, List.singleton_append]
  exact from_start [] xs rfl

end StarReport.FirstFailure
