/-!
Operations that change a state and may be refused. Such an operation leaves a state in either case;
a caller that stops at the first refusal goes on with the states of the others.
-/

set_option autoImplicit false
set_option relaxedAutoImplicit false

namespace StarReport

/-- What comes of an operation without an answer: whether it was refused, and the state it leaves. -/
abbrev Refusable (ε σ : Type) := Except ε Unit × σ

namespace Refusable

variable {ε σ : Type}

/-- The state to go on with, for a caller that stops at a refusal. -/
def proceed : Refusable ε σ → Except ε σ
  | (.ok (), after) => .ok after
  | (.error cause, _) => .error cause

theorem proceed_ok {outcome : Refusable ε σ} {after : σ} :
    outcome.proceed = .ok after ↔ outcome = (.ok (), after) := by
  obtain ⟨_ | _, _⟩ := outcome <;> simp [proceed]

end Refusable

end StarReport
