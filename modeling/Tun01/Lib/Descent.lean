import Mathlib.Order.WellFounded
import Tun01.Lib.Run

/-!
# Inevitable ends

A machine that is never stuck before its goal, and each of whose steps descends
in a well-founded order, reaches the goal whatever steps it makes.
-/

namespace Tun01

variable {σ α : Type} {step : σ → α → σ → Prop} {goal : σ → Prop} {s : σ}

/-- Every run reaches the goal, and none is stuck or goes on for ever before. -/
inductive Inevitable (step : σ → α → σ → Prop) (goal : σ → Prop) : σ → Prop where
  | reached {s : σ} (here : goal s) : Inevitable step goal s
  | later {s : σ} (able : ∃ a t, step s a t)
      (next : ∀ a t, step s a t → Inevitable step goal t) : Inevitable step goal s

namespace Inevitable

/-- Descent along an invariant, and progress until the goal is reached. -/
theorem of_descent {ω : Type} [LT ω] [WellFoundedLT ω] (rank : σ → ω) {inv : σ → Prop}
    (kept : ∀ {t a u}, inv t → step t a u → inv u)
    (descends : ∀ {t a u}, inv t → step t a u → rank u < rank t)
    (progress : ∀ {t}, inv t → goal t ∨ ∃ a u, step t a u) (initial : inv s) :
    Inevitable step goal s := by
  generalize height : rank s = bound
  induction bound using WellFoundedLT.induction generalizing s with
  | ind bound ih =>
      rcases progress initial with here | able
      · exact .reached here
      · refine .later able fun a t taken => ?_
        have lower := descends initial taken
        rw [height] at lower
        exact ih _ lower (kept initial taken) rfl

/-- The goal can be reached. -/
theorem run (inevitable : Inevitable step goal s) : ∃ labels t, Run step s labels t ∧ goal t := by
  induction inevitable with
  | reached here => exact ⟨[], _, .nil, here⟩
  | later able _ ih =>
      obtain ⟨a, t, taken⟩ := able
      obtain ⟨labels, u, path, here⟩ := ih a t taken
      exact ⟨a :: labels, u, .cons taken path, here⟩

end Inevitable

end Tun01
