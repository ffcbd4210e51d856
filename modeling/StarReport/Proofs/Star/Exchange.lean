import Mathlib.Data.List.Induction
import StarReport.Proofs.Star.Population

/-!
Exchange of members. Members are made, adopted by stars, copied out of stars and taken apart into
their metrics, and a measure may be made from any metric at hand, one with an owner included. Whatever
is exchanged, a member that a star owns is either like one that this star holds, or a measure that
was put together from a metric of this star.
-/

set_option autoImplicit false
set_option relaxedAutoImplicit false

namespace StarReport.Star

open Warehouse (Table)

/-- The members that a star holds. -/
def members (star : Star) : List Member :=
  star.dimensions.map .dimension ++ star.metrics.map .metric ++ star.measures.map .measure

/-- The metrics that a star holds, by themselves or in its measures. -/
def allMetrics (star : Star) : List Metric := star.metrics ++ star.measures.map Measure.metric

/-- The stars that there are, and the members at hand outside of them. -/
structure Market where
  stars : List Star
  hand : List Member

/-- What can be done with stars and members. A star is called by its place in the order in which the
stars were made, and a member at hand by its place in the order in which they came to hand. -/
inductive Move where
  | newStar (id : StarId) (fact : Table)
  | copyStar (place : Nat) (id : StarId)
  | newDimension (name : String) (table : Table) (column : String)
  | newMetric (table : Table) (column : String)
  | newMeasure (name : String) (metric : Nat) (function : AggregateFunction)
  | adopt (place : Nat) (member : Nat)
  | copyOut (place : Nat) (index : Nat)
  | copyMetric (measure : Nat)
deriving DecidableEq

namespace Move

/-- The identity that a move gives out. -/
def id? : Move → Option StarId
  | newStar id _ => some id
  | copyStar _ id => some id
  | _ => none

variable (market : Market)

/-- What a move does to the stars. -/
def operation? : Move → Option Operation
  | newStar id fact => some (.new id fact)
  | copyStar place id => some (.copy place id)
  | adopt place member => market.hand[member]?.map fun member => .change place (.add member)
  | _ => none

/-- The member that a move brings to hand. -/
def member? : Move → Option Member
  | newDimension name table column => some (.dimension ⟨name, table, column, none⟩)
  | newMetric table column => some (.metric ⟨table, column, none⟩)
  | newMeasure name metric function =>
    match market.hand[metric]? with
    | some (.metric metric) => some (.measure ⟨name, metric, function⟩)
    | _ => none
  | copyOut place index => market.stars[place]?.bind fun star => star.members[index]?
  | copyMetric measure =>
    match market.hand[measure]? with
    | some (.measure measure) => some (.metric measure.metric)
    | _ => none
  | _ => none

def apply (move : Move) : Market :=
  ⟨(move.operation? market).elim market.stars (Operation.apply market.stars),
    market.hand ++ (move.member? market).toList⟩

end Move

/-- What a run of moves leads to. -/
def trade (moves : List Move) : Market := moves.foldl Move.apply ⟨[], []⟩

/-- A member that is at hand or held by a star. -/
def Market.Available (market : Market) (member : Member) : Prop :=
  member ∈ market.hand ∨ ∃ star ∈ market.stars, member ∈ star.members

/-- The measure was made in the run, from the metric that it has. -/
def Assembled (moves : List Move) (measure : Measure) : Prop :=
  ∃ earlier later metric,
    moves = earlier ++ .newMeasure measure.name metric measure.function :: later ∧
    (trade earlier).hand[metric]? = some (.metric measure.metric)

/-- A star's right to a member that it owns: it holds the like of it, or holds the like of the metric
of a measure that was assembled. A metric may also be that of a measure. -/
def Backs (moves : List Move) (star : Star) : Member → Prop
  | .dimension dimension => star.holds (.dimension dimension)
  | .metric metric => metric.identity ∈ star.allMetrics.map Metric.identity
  | .measure measure => measure.metric.identity ∈ star.allMetrics.map Metric.identity ∧
      (star.holds (.measure measure) ∨ Assembled moves measure)

/-! ### Stars only grow -/

/-- The second star is the first one at a later time. -/
structure Grows (star later : Star) : Prop where
  id : later.id = star.id
  dimensions : star.dimensions.map Dimension.identity ⊆ later.dimensions.map Dimension.identity
  metrics : star.metrics.map Metric.identity ⊆ later.metrics.map Metric.identity
  measures : star.measures.map Measure.identity ⊆ later.measures.map Measure.identity

theorem Grows.refl (star : Star) : star.Grows star :=
  ⟨rfl, List.Subset.refl _, List.Subset.refl _, List.Subset.refl _⟩

theorem grows_add (star : Star) (member : Member) : star.Grows (star.add member) := by
  have inserted {α κ : Type} [DecidableEq κ] (key : α → κ) (xs : List α) (x : α) :
      xs.map key ⊆ (Distinct.insert key xs x).map key :=
    fun _ held => Distinct.mem_map_insert.mpr (.inl held)
  cases member with
  | dimension dimension => exact { Grows.refl star with dimensions := inserted _ _ _ }
  | metric metric => exact { Grows.refl star with metrics := inserted _ _ _ }
  | measure measure => exact { Grows.refl star with measures := inserted _ _ _ }

theorem Grows.allMetrics {star later : Star} (grows : star.Grows later) :
    star.allMetrics.map Metric.identity ⊆ later.allMetrics.map Metric.identity := by
  have split (s : Star) : s.allMetrics.map Metric.identity =
      s.metrics.map Metric.identity ++
        (s.measures.map Measure.identity).map Measure.Identity.metric := by
    rw [Star.allMetrics, List.map_append, List.map_map, List.map_map]
    rfl
  rw [split, split]
  intro identity offered
  rcases List.mem_append.mp offered with alone | inside
  · exact List.mem_append_left _ (grows.metrics alone)
  · exact List.mem_append_right _ (List.map_subset _ grows.measures inside)

theorem Grows.holds {star later : Star} (grows : star.Grows later) {member : Member}
    (held : star.holds member) : later.holds member := by
  cases member with
  | dimension dimension => exact decide_eq_true (grows.dimensions (of_decide_eq_true held))
  | metric metric => exact decide_eq_true (grows.metrics (of_decide_eq_true held))
  | measure measure => exact decide_eq_true (grows.measures (of_decide_eq_true held))

theorem Assembled.append {moves : List Move} {measure : Measure}
    (assembled : Assembled moves measure) (move : Move) : Assembled (moves ++ [move]) measure := by
  obtain ⟨earlier, later, metric, rfl, held⟩ := assembled
  exact ⟨earlier, later ++ [move], metric, by simp, held⟩

theorem Backs.append {moves : List Move} {star : Star} {member : Member}
    (backs : Backs moves star member) (move : Move) : Backs (moves ++ [move]) star member := by
  cases member with
  | measure measure => exact ⟨backs.1, backs.2.imp_right fun assembled => assembled.append move⟩
  | _ => exact backs

theorem Backs.grows {moves : List Move} {star later : Star} {member : Member}
    (backs : Backs moves star member) (grows : star.Grows later) : Backs moves later member := by
  cases member with
  | dimension dimension => exact grows.holds backs
  | metric metric => exact grows.allMetrics backs
  | measure measure => exact ⟨grows.allMetrics backs.1, backs.2.imp_left grows.holds⟩

/-! ### One move -/

section

variable {market : Market} {star : Star}

theorem Move.stars_adopt (market : Market) (place member : Nat) :
    ((adopt place member).apply market).stars =
      market.hand[member]?.elim market.stars fun member =>
        market.stars.modify place (·.add member) := by
  change (Option.map _ market.hand[member]?).elim _ _ = _
  cases market.hand[member]? <;> rfl

theorem Move.grows_apply (move : Move) (there : star ∈ market.stars) :
    ∃ later ∈ (move.apply market).stars, star.Grows later := by
  cases move with
  | newStar id fact => exact ⟨star, List.mem_append_left _ there, .refl star⟩
  | copyStar place id => exact ⟨star, List.mem_append_left _ there, .refl star⟩
  | adopt place member =>
    rw [stars_adopt]
    cases market.hand[member]? with
    | none => exact ⟨star, there, .refl star⟩
    | some member =>
      obtain ⟨index, found⟩ := List.mem_iff_getElem?.mp there
      have changed : (market.stars.modify place (·.add member))[index]? =
          some (if place = index then star.add member else star) := by
        rw [List.getElem?_modify, found]
        rfl
      refine ⟨_, List.mem_of_getElem? changed, ?_⟩
      split
      · exact grows_add star member
      · exact .refl star
  | _ => exact ⟨star, there, .refl star⟩

theorem Move.apply_reached (reached : ∀ star ∈ market.stars, star.Reached) (move : Move) :
    ∀ star ∈ (move.apply market).stars, star.Reached := by
  unfold Move.apply
  cases move.operation? market with
  | none => exact reached
  | some operation => exact operation.apply_reached reached

/-- A move gives the identity that it gives out to a new star, or to none. -/
theorem Move.map_id_apply (market : Market) (move : Move) :
    ∃ given, given.Sublist move.id?.toList ∧
      (move.apply market).stars.map Star.id = market.stars.map Star.id ++ given := by
  cases move with
  | newStar id fact => exact Operation.map_id_apply market.stars (.new id fact)
  | copyStar place id => exact Operation.map_id_apply market.stars (.copy place id)
  | adopt place member =>
    rw [stars_adopt]
    cases market.hand[member]? with
    | none => exact ⟨[], List.nil_sublist _, (List.append_nil _).symm⟩
    | some member => exact Operation.map_id_apply market.stars (.change place (.add member))
  | _ => exact ⟨[], List.nil_sublist _, (List.append_nil _).symm⟩

end

theorem owner_of_mem_members {star : Star} (owns : star.Owns) {member : Member}
    (held : member ∈ star.members) : member.owner = some star.id := by
  rcases List.mem_append.mp held with held | held
  · rcases List.mem_append.mp held with held | held
    · obtain ⟨dimension, listed, rfl⟩ := List.mem_map.mp held
      exact owns.dimensions dimension listed
    · obtain ⟨metric, listed, rfl⟩ := List.mem_map.mp held
      exact owns.metrics metric listed
  · obtain ⟨measure, listed, rfl⟩ := List.mem_map.mp held
    exact owns.measures measure listed

theorem backs_of_mem_members {star : Star} (moves : List Move) {member : Member}
    (held : member ∈ star.members) : Backs moves star member := by
  rcases List.mem_append.mp held with held | held
  · rcases List.mem_append.mp held with held | held
    · obtain ⟨dimension, listed, rfl⟩ := List.mem_map.mp held
      exact decide_eq_true (List.mem_map_of_mem listed)
    · obtain ⟨metric, listed, rfl⟩ := List.mem_map.mp held
      exact List.mem_map_of_mem (List.mem_append_left _ listed)
  · obtain ⟨measure, listed, rfl⟩ := List.mem_map.mp held
    refine ⟨?_, .inl (decide_eq_true (List.mem_map_of_mem listed))⟩
    exact List.mem_map_of_mem (List.mem_append_right _ (List.mem_map_of_mem listed))

/-! ### Whole runs -/

theorem trade_append_singleton (moves : List Move) (move : Move) :
    trade (moves ++ [move]) = move.apply (trade moves) := by
  rw [trade, List.foldl_append]
  rfl

theorem reached_of_trade (moves : List Move) : ∀ star ∈ (trade moves).stars, star.Reached := by
  induction moves using List.reverseRecOn with
  | nil => exact fun star there => absurd there List.not_mem_nil
  | append_singleton moves move ih =>
    rw [trade_append_singleton]
    exact move.apply_reached ih

theorem ids_of_trade (moves : List Move) :
    ((trade moves).stars.map Star.id).Sublist (moves.filterMap Move.id?) := by
  induction moves using List.reverseRecOn with
  | nil => exact List.Sublist.refl _
  | append_singleton moves move ih =>
    obtain ⟨given, within, ids⟩ := move.map_id_apply (trade moves)
    have last : [move].filterMap Move.id? = move.id?.toList := by
      cases given : move.id? <;> simp [given]
    rw [trade_append_singleton, ids, List.filterMap_append, last]
    exact ih.append within

/-- Every member at hand that has an owner is backed by a star of this identity. -/
def Honest (moves : List Move) : Prop :=
  ∀ member ∈ (trade moves).hand, ∀ id, member.owner = some id →
    ∃ star ∈ (trade moves).stars, star.id = id ∧ Backs moves star member

/-- A member that comes to hand has no owner, or was held by its owner, or comes from a member that
was at hand before. -/
private theorem Honest.member {moves : List Move} (honest : Honest moves) {move : Move}
    {member : Member} (brought : move.member? (trade moves) = some member) {id : StarId}
    (owned : member.owner = some id) : ∃ star ∈ (trade moves).stars,
      star.id = id ∧ Backs (moves ++ [move]) star member := by
  cases move with
  | newDimension name table column =>
    cases Option.some.inj brought
    cases owned
  | newMetric table column =>
    cases Option.some.inj brought
    cases owned
  | newMeasure name source function =>
    cases found : (trade moves).hand[source]? with
    | none => simp [Move.member?, found] at brought
    | some given =>
      cases given with
      | metric metric =>
        simp only [Move.member?, found, Option.some.injEq] at brought
        subst brought
        obtain ⟨star, there, same, backs⟩ := honest _ (List.mem_of_getElem? found) id owned
        exact ⟨star, there, same, backs, .inr ⟨moves, [], source, rfl, found⟩⟩
      | _ => simp [Move.member?, found] at brought
  | copyOut place index =>
    obtain ⟨star, found, listed⟩ := Option.bind_eq_some_iff.mp brought
    have there := List.mem_of_getElem? found
    have held := List.mem_of_getElem? listed
    have owner := owner_of_mem_members (reached_of_trade moves star there).owns held
    exact ⟨star, there, Option.some.inj (owner.symm.trans owned), backs_of_mem_members _ held⟩
  | copyMetric source =>
    cases found : (trade moves).hand[source]? with
    | none => simp [Move.member?, found] at brought
    | some given =>
      cases given with
      | measure measure =>
        simp only [Move.member?, found, Option.some.injEq] at brought
        subst brought
        obtain ⟨star, there, same, backs⟩ := honest _ (List.mem_of_getElem? found) id owned
        exact ⟨star, there, same, backs.1⟩
      | _ => simp [Move.member?, found] at brought
  | _ => cases brought

theorem honest (moves : List Move) : Honest moves := by
  induction moves using List.reverseRecOn with
  | nil => exact fun member held => absurd held List.not_mem_nil
  | append_singleton moves move ih =>
    rw [Honest, trade_append_singleton]
    intro member held id owned
    have backed : ∃ star ∈ (trade moves).stars,
        star.id = id ∧ Backs (moves ++ [move]) star member := by
      rcases List.mem_append.mp held with old | new
      · obtain ⟨star, there, same, backs⟩ := ih member old id owned
        exact ⟨star, there, same, backs.append move⟩
      · exact ih.member (Option.mem_toList.mp new) owned
    obtain ⟨star, there, same, backs⟩ := backed
    obtain ⟨later, now, grows⟩ := move.grows_apply there
    exact ⟨later, now, grows.id.trans same, backs.grows grows⟩

end StarReport.Star
