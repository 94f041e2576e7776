import Mathlib.Algebra.Order.BigOperators.Group.Finset
import Mathlib.Logic.Relation
import Tun01.Lib.Run

/-!
# Interleavings

Independent copies of one machine.  A step of the family is some steps of one
copy, which is the label; the others stay as they are.
-/

namespace Tun01

namespace Interleaving

variable {ι τ : Type} {step : τ → τ → Prop} {f g : ι → τ} {i : ι} {labels : List ι}

/-- One copy moves. -/
structure Moves (step : τ → τ → Prop) (f : ι → τ) (i : ι) (g : ι → τ) : Prop where
  own : Relation.ReflTransGen step (f i) (g i)
  others : ∀ j, j ≠ i → g j = f j

theorem Moves.idle (i : ι) : Moves step f i f := ⟨.refl, fun _ _ => rfl⟩

/-- A copy that no label names is where it was. -/
theorem run_idle (run : Run (Moves step) f labels g) {j : ι} (absent : j ∉ labels) : g j = f j := by
  induction run with
  | nil => rfl
  | snoc _ last ih =>
      obtain ⟨before, here⟩ := not_or.mp (mt List.mem_append.mpr absent)
      rw [last.others j fun same => here (List.mem_singleton.mpr same), ih before]

/-- One copy has lost weight, and the others are where they were. -/
theorem sum_lt [Fintype ι] {weight : τ → Nat} (own : weight (g i) < weight (f i))
    (others : ∀ j, j ≠ i → g j = f j) : ∑ j, weight (g j) < ∑ j, weight (f j) := by
  refine Finset.sum_lt_sum (fun j _ => ?_) ⟨i, Finset.mem_univ i, own⟩
  by_cases mine : j = i
  · rw [mine]
    exact Nat.le_of_lt own
  · rw [others j mine]

end Interleaving

/-- A machine whose every step is, seen through `view`, a step of another machine. -/
theorem Run.simulates {σ τ α β : Type} {step : σ → α → σ → Prop} {step' : τ → β → τ → Prop}
    {view : σ → τ} {inv : σ → Prop} {start s : σ} {labels : List α} (initial : inv start)
    (kept : ∀ {t a u}, inv t → step t a u → inv u)
    (matched : ∀ {t a u}, inv t → step t a u → ∃ b, step' (view t) b (view u))
    (run : Run step start labels s) :
    ∃ labels', labels'.length = labels.length ∧ Run step' (view start) labels' (view s) := by
  induction run with
  | nil => exact ⟨[], rfl, .nil⟩
  | snoc earlier last ih =>
      obtain ⟨before, length, path⟩ := ih
      obtain ⟨b, next⟩ := matched (earlier.invariant initial kept) last
      refine ⟨before ++ [b], ?_, .snoc path next⟩
      rw [List.length_append, List.length_append, length]
      rfl

end Tun01
