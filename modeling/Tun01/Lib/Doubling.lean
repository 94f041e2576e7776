import Mathlib.Algebra.Order.Ring.Int
import Mathlib.Tactic.Common

/-!
# Doubling

A size is doubled until it is large enough, as long as it stays within a limit.
-/

namespace Tun01

namespace Doubling

/-- `while (size < wanted) size *= 2`, where no size beyond the limit can be represented. -/
def reach (limit wanted size : Nat) (positive : 0 < size) : Option Nat :=
  if size < wanted then
    if _fits : size * 2 ≤ limit then
      reach limit wanted (size * 2) (Nat.mul_pos positive Nat.two_pos)
    else
      none
  else
    some size
termination_by limit - size

variable {limit wanted size size' : Nat} {positive : 0 < size}

/-- A size that is reached is large enough, and no larger than it has to be. -/
theorem reach_large (reached : reach limit wanted size positive = some size') :
    wanted ≤ size' ∧ (size' = size ∨ size' < 2 * wanted) := by
  fun_induction reach limit wanted size positive with
  | case1 size positive small fits ih =>
      obtain ⟨large, same | short⟩ := ih reached
      · exact ⟨large, Or.inr (by omega)⟩
      · exact ⟨large, Or.inr short⟩
  | case2 size positive small long => cases reached
  | case3 size positive large =>
      obtain rfl := Option.some.inj reached
      exact ⟨Nat.le_of_not_lt large, Or.inl rfl⟩

theorem reach_power (reached : reach limit wanted size positive = some size') :
    ∃ k, size' = size * 2 ^ k := by
  fun_induction reach limit wanted size positive with
  | case1 size positive small fits ih =>
      obtain ⟨k, same⟩ := ih reached
      refine ⟨k + 1, ?_⟩
      rw [same, Nat.mul_assoc, Nat.pow_succ']
  | case2 size positive small long => cases reached
  | case3 size positive large =>
      exact ⟨0, (Option.some.inj reached).symm.trans (Nat.mul_one size).symm⟩

/-- The size is reached exactly if doubling it so often stays within the limit. -/
theorem reach_isSome_iff : (reach limit wanted size positive).isSome = true ↔
    ∃ k, wanted ≤ size * 2 ^ k ∧ (k = 0 ∨ size * 2 ^ k ≤ limit) := by
  fun_induction reach limit wanted size positive with
  | case1 size positive small fits ih =>
      rw [ih]
      constructor
      · rintro ⟨k, large, within⟩
        refine ⟨k + 1, ?_, Or.inr ?_⟩
        · rw [Nat.pow_succ', ← Nat.mul_assoc]
          exact large
        · rw [Nat.pow_succ', ← Nat.mul_assoc]
          rcases within with rfl | within
          · exact (Nat.mul_one _).symm ▸ fits
          · exact within
      · rintro ⟨k, large, within⟩
        cases k with
        | zero => omega
        | succ k =>
            rw [Nat.pow_succ', ← Nat.mul_assoc] at large within
            exact ⟨k, large, Or.inr (within.resolve_left (Nat.succ_ne_zero k))⟩
  | case2 size positive small long =>
      refine iff_of_false (fun no => by cases no) ?_
      rintro ⟨k, large, within⟩
      cases k with
      | zero => omega
      | succ k =>
          have more := Nat.mul_le_mul_left (size * 2) (Nat.one_le_two_pow (n := k))
          rw [Nat.mul_one, Nat.mul_assoc size, ← Nat.pow_succ'] at more
          exact long (Nat.le_trans more (within.resolve_left (Nat.succ_ne_zero k)))
  | case3 size positive large =>
      exact iff_of_true rfl ⟨0, by omega, Or.inl rfl⟩

end Doubling

end Tun01
