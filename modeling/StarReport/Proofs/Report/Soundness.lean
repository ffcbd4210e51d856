import Mathlib.Data.List.Nodup
import StarReport.Proofs.Report.Membership
import StarReport.Proofs.Star.Exchange

/-!
Soundness of the membership check. A report asks a member for its owner, and a measure has the owner
of its metric. So what a report takes is like a member of its star, or it is a measure that was put
together from a metric of the star and never added to it.
-/

set_option autoImplicit false
set_option relaxedAutoImplicit false

namespace StarReport.Report

open StarReport.Star (Assembled Measure Member Metric Move trade)
open Warehouse (Table)

def Candidate.member : Candidate → Member
  | dimension d => .dimension d
  | measure m => .measure m

theorem Candidate.owner_member (candidate : Candidate) :
    candidate.member.owner = candidate.owner := by
  cases candidate <;> rfl

theorem Selection.owner_of_accepts {selection : Selection} {candidate : Candidate}
    (accepted : selection.Accepts candidate) : candidate.owner = some selection.star.id :=
  taken_iff.mp accepted.taken

/-- Where the identities given out are all different, a star backs every member that it owns,
whether the member is at hand or held by a star. -/
theorem backs_of_owner {moves : List Move} (fresh : (moves.filterMap Move.id?).Nodup) {star : Star}
    (there : star ∈ (trade moves).stars) {member : Member}
    (available : (trade moves).Available member) (owned : member.owner = some star.id) :
    Star.Backs moves star member := by
  have ids : ((trade moves).stars.map Star.id).Nodup := (Star.ids_of_trade moves).nodup fresh
  rcases available with atHand | ⟨other, there', held⟩
  · obtain ⟨other, there', same, backs⟩ := Star.honest moves member atHand star.id owned
    exact List.inj_on_of_nodup_map ids there' there same ▸ backs
  · have owner := Star.owner_of_mem_members (Star.reached_of_trade moves other there').owns held
    have same : other.id = star.id := Option.some.inj (owner.symm.trans owned)
    exact List.inj_on_of_nodup_map ids there' there same ▸ Star.backs_of_mem_members moves held

/-- Whatever is made, adopted and copied, a report takes nothing but what is like a dimension or a
measure of its star, and measures that were assembled in the run from a metric that the star owned;
such a metric is like one that the star holds, by itself or in a measure. -/
theorem backed_of_accepts {moves : List Move} (fresh : (moves.filterMap Move.id?).Nodup)
    {place : Nat} {star : Star} (made : (trade moves).stars[place]? = some star)
    {selection : Selection} (reported : selection.star = star) {candidate : Candidate}
    (available : (trade moves).Available candidate.member)
    (accepted : selection.Accepts candidate) :
    star.holds candidate.member ∨
      ∃ measure, candidate = .measure measure ∧ Assembled moves measure ∧
        measure.metric.owner = some star.id ∧
        measure.metric.identity ∈ star.allMetrics.map Metric.identity := by
  subst reported
  have owner := Selection.owner_of_accepts accepted
  have backs := backs_of_owner fresh (List.mem_of_getElem? made) available
    (candidate.owner_member.trans owner)
  cases candidate with
  | dimension dimension => exact .inl backs
  | measure measure =>
    obtain ⟨offered, held | assembled⟩ := backs
    · exact .inl held
    · exact .inr ⟨measure, rfl, assembled, owner, offered⟩

private def sales : Table := .named "FactSales" none

/-- A star adopts a sum, and an average is made from a copy of the metric of this sum. -/
private def averaged : List Move :=
  [.newStar ⟨0⟩ sales, .newMetric sales "Quantity", .newMeasure "Units" 0 .sum, .adopt 0 1,
    .copyOut 0 0, .copyMetric 2, .newMeasure "Average" 3 .avg]

private def summing : Star :=
  ⟨⟨0⟩, sales, [], [], [⟨"Units", ⟨sales, "Quantity", some ⟨0⟩⟩, .sum⟩]⟩

private def average : Measure := ⟨"Average", ⟨sales, "Quantity", some ⟨0⟩⟩, .avg⟩

/-- The second case does occur: a report may take a measure that is like none of its star. -/
theorem not_holds_of_accepts : ¬ ∀ (moves : List Move) (place : Nat) (star : Star)
    (candidate : Candidate), (moves.filterMap Move.id?).Nodup →
    (trade moves).stars[place]? = some star → (trade moves).Available candidate.member →
    (Selection.of star).Accepts candidate → star.holds candidate.member := by
  intro sound
  have atHand : Member.measure average ∈ (trade averaged).hand := by decide
  have accepted : (Selection.of summing).Accepts (.measure average) :=
    Selection.accepts_of_owner rfl
  have held := sound averaged 0 summing (.measure average) (by decide) (by decide) (.inl atHand)
    accepted
  have unheld : summing.holds (Candidate.measure average).member = false := by decide
  rw [unheld] at held
  cases held

end StarReport.Report
