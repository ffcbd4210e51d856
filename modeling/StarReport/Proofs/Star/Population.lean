import StarReport.Proofs.Star.Ownership

/-!
Populations of stars. Stars are made new or copied from one another and changed in any order, with
members from anywhere, those of other stars included. No star takes part in what is done to another,
and where the identities given out are all different, so are those of the stars.
-/

set_option autoImplicit false
set_option relaxedAutoImplicit false

namespace StarReport.Star

open Warehouse (Table)

/-- What can be done to a star. -/
inductive Change where
  | setFact (fact : Table)
  | add (member : Member)
  | setDimensions (dimensions : List Dimension)
  | setMetrics (metrics : List Metric)
  | setMeasures (measures : List Measure)
deriving DecidableEq

def Change.apply (change : Change) (star : Star) : Star :=
  match change with
  | setFact fact => star.setFact fact
  | add member => star.add member
  | setDimensions dimensions => star.setDimensions dimensions
  | setMetrics metrics => star.setMetrics metrics
  | setMeasures measures => star.setMeasures measures

/-- The operations on a population. A star is called by its place in the order in which the stars
were made; a copy of it comes after all others. -/
inductive Operation where
  | new (id : StarId) (fact : Table)
  | copy (place : Nat) (id : StarId)
  | change (place : Nat) (edit : Change)
deriving DecidableEq

namespace Operation

/-- The identity that an operation gives out. -/
def id? : Operation → Option StarId
  | new id _ => some id
  | copy _ id => some id
  | change _ _ => none

/-- The place of the star that an operation changes. -/
def changed? : Operation → Option Nat
  | change place _ => some place
  | _ => none

def apply (stars : List Star) : Operation → List Star
  | new id fact => stars ++ [ofFact id fact]
  | copy place id => stars ++ (stars[place]?.map (·.copy id)).toList
  | change place edit => stars.modify place edit.apply

end Operation

/-- The stars that operations make. -/
def populate (operations : List Operation) : List Star := operations.foldl Operation.apply []

section

variable {star : Star} {stars : List Star}

@[simp] theorem Change.id_apply (change : Change) (star : Star) :
    (change.apply star).id = star.id := by
  cases change with
  | add member => cases member <;> rfl
  | _ => rfl

theorem Reached.apply (reached : star.Reached) (change : Change) :
    (change.apply star).Reached := by
  cases change with
  | setFact fact => exact reached.setFact fact
  | add member => exact reached.add member
  | setDimensions dimensions => exact reached.setDimensions dimensions
  | setMetrics metrics => exact reached.setMetrics metrics
  | setMeasures measures => exact reached.setMeasures measures

theorem Operation.apply_reached (reached : ∀ star ∈ stars, star.Reached) (operation : Operation) :
    ∀ star ∈ operation.apply stars, star.Reached := by
  intro star member
  cases operation with
  | new id fact =>
    rcases List.mem_append.mp member with old | new
    · exact reached star old
    · rw [List.mem_singleton.mp new]
      exact .ofFact id fact
  | copy place id =>
    rcases List.mem_append.mp member with old | new
    · exact reached star old
    · obtain ⟨source, found, rfl⟩ := Option.map_eq_some_iff.mp (Option.mem_toList.mp new)
      exact (reached source (List.mem_of_getElem? found)).copy id
  | change place edit =>
    obtain ⟨index, found⟩ := List.mem_iff_getElem?.mp member
    rw [apply, List.getElem?_modify] at found
    obtain ⟨source, held, same⟩ := Option.map_eq_some_iff.mp found
    have old := reached source (List.mem_of_getElem? held)
    split at same
    · exact same ▸ old.apply edit
    · exact same ▸ old

theorem foldl_apply_reached (reached : ∀ star ∈ stars, star.Reached)
    (operations : List Operation) :
    ∀ star ∈ operations.foldl Operation.apply stars, star.Reached := by
  induction operations generalizing stars with
  | nil => exact reached
  | cons operation operations ih => exact ih (operation.apply_reached reached)

/-- What one operation does to the identities: those there are stay, and the one that it gives out
may be added. -/
theorem Operation.map_id_apply (stars : List Star) (operation : Operation) :
    ∃ given, given.Sublist operation.id?.toList ∧
      (operation.apply stars).map Star.id = stars.map Star.id ++ given := by
  cases operation with
  | new id fact => exact ⟨[id], List.Sublist.refl _, by simp [apply, ofFact]⟩
  | copy place id =>
    cases found : stars[place]? with
    | none => exact ⟨[], List.nil_sublist _, by simp [apply, found]⟩
    | some source => exact ⟨[id], List.Sublist.refl _, by simp [apply, found]; rfl⟩
  | change place edit =>
    refine ⟨[], List.nil_sublist _, ?_⟩
    rw [List.append_nil]
    refine List.ext_getElem? fun index => ?_
    rw [apply, List.getElem?_map, List.getElem?_modify, List.getElem?_map, Option.map_eq_map,
      Option.map_map]
    refine congrArg (fun f => Option.map f _) (funext fun star => ?_)
    rw [Function.comp_apply]
    split <;> simp

/-- The identities there are stay where they are. -/
theorem prefix_map_id (stars : List Star) (operations : List Operation) :
    stars.map Star.id <+: (operations.foldl Operation.apply stars).map Star.id := by
  induction operations generalizing stars with
  | nil => exact List.prefix_refl _
  | cons operation operations ih =>
    obtain ⟨given, _, ids⟩ := operation.map_id_apply stars
    have step : stars.map Star.id <+: (operation.apply stars).map Star.id :=
      ids ▸ List.prefix_append _ given
    exact step.trans (ih (operation.apply stars))

/-- All identities come from those given out. -/
theorem map_id_sublist (stars : List Star) (operations : List Operation) :
    ((operations.foldl Operation.apply stars).map Star.id).Sublist
      (stars.map Star.id ++ operations.filterMap Operation.id?) := by
  induction operations generalizing stars with
  | nil => simp
  | cons operation operations ih =>
    obtain ⟨given, within, ids⟩ := operation.map_id_apply stars
    have tail := ih (operation.apply stars)
    rw [ids, List.append_assoc] at tail
    have head : operation.id?.toList ++ operations.filterMap Operation.id? =
        (operation :: operations).filterMap Operation.id? := by
      cases given : operation.id? <;> simp [given]
    rw [← head]
    exact tail.trans ((within.append_right _).append_left _)

/-- An operation leaves a star alone unless it changes this star. -/
theorem Operation.getElem?_apply {operation : Operation} {place : Nat}
    (apart : operation.changed? ≠ some place) (made : stars[place]? = some star) :
    (operation.apply stars)[place]? = some star := by
  have inside : place < stars.length := (List.getElem?_eq_some_iff.mp made).1
  cases operation with
  | new id fact => rw [apply, List.getElem?_append_left inside, made]
  | copy source id => rw [apply, List.getElem?_append_left inside, made]
  | change other edit =>
    have elsewhere : other ≠ place := fun same => apart (congrArg some same)
    rw [apply, List.getElem?_modify, made, Option.map_eq_map, Option.map_some, if_neg elsewhere]

end

variable {operations : List Operation} {star : Star} {place : Nat}

theorem reached_of_populate (made : (populate operations)[place]? = some star) : star.Reached :=
  foldl_apply_reached (by simp) operations star (List.mem_of_getElem? made)

theorem populate_append (earlier later : List Operation) :
    populate (earlier ++ later) = later.foldl Operation.apply (populate earlier) :=
  List.foldl_append

/-- Two stars in different places, now or at different times, have different identities. -/
theorem id_ne_of_populate (fresh : (operations.filterMap Operation.id?).Nodup)
    (made : (populate operations)[place]? = some star) {earlier later : List Operation}
    (history : operations = earlier ++ later) {other : Nat} {star' : Star}
    (made' : (populate earlier)[other]? = some star') (apart : other ≠ place) :
    star'.id ≠ star.id := by
  have nodup : ((populate operations).map Star.id).Nodup := (map_id_sublist [] operations).nodup fresh
  have here : ((populate operations).map Star.id)[place]? = some star.id := by
    rw [List.getElem?_map, made, Option.map_some]
  have there : ((populate operations).map Star.id)[other]? = some star'.id := by
    have past : ((populate earlier).map Star.id)[other]? = some star'.id := by
      rw [List.getElem?_map, made', Option.map_some]
    have kept : (populate earlier).map Star.id <+: (populate operations).map Star.id := by
      rw [history, populate_append]
      exact prefix_map_id _ later
    obtain ⟨new, ids⟩ := kept
    rw [← ids, List.getElem?_append_left (List.getElem?_eq_some_iff.mp past).1, past]
  intro same
  rw [same, ← here] at there
  have inside := (List.getElem?_eq_some_iff.mp here).1
  exact apart ((List.getElem?_inj inside nodup).mp there.symm).symm

end StarReport.Star
