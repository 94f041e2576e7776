import Mathlib.Data.List.Basic
import Mathlib.Tactic.Common

/-!
# Runs of a labelled transition system

A run lists the labels of its steps, oldest first.  Invariants are proved for
one step and hold along every run.
-/

namespace Tun01

variable {σ α : Type}

/-- A run from one state to another with the labels of its steps. -/
inductive Run (step : σ → α → σ → Prop) (start : σ) : List α → σ → Prop where
  | nil : Run step start [] start
  | snoc {labels : List α} {s s' : σ} {a : α} :
      Run step start labels s → step s a s' → Run step start (labels ++ [a]) s'

namespace Run

variable {step : σ → α → σ → Prop} {start s : σ} {labels : List α}

/-- What holds at the start and is kept by every step holds at the end of a run. -/
theorem invariant {inv : σ → Prop} (initial : inv start)
    (kept : ∀ {t a u}, inv t → step t a u → inv u) (run : Run step start labels s) : inv s := by
  induction run with
  | nil => exact initial
  | snoc _ last ih => exact kept ih last

/-- A run of a finer step relation is a run of a coarser one. -/
theorem mono {coarse : σ → α → σ → Prop} (finer : ∀ {t a u}, step t a u → coarse t a u)
    (run : Run step start labels s) : Run coarse start labels s := by
  induction run with
  | nil => exact nil
  | snoc _ last ih => exact snoc ih (finer last)

/-- Two runs, one after the other. -/
theorem append {more : List α} {t : σ} (run : Run step start labels s)
    (later : Run step s more t) : Run step start (labels ++ more) t := by
  induction later with
  | nil => simpa using run
  | snoc _ last ih =>
      rw [← List.append_assoc]
      exact snoc ih last

theorem single {a : α} {t : σ} (taken : step s a t) : Run step s [a] t :=
  @snoc _ _ _ _ [] _ _ _ nil taken

theorem of_nil {t : σ} (run : Run step s [] t) : t = s := by
  generalize empty : ([] : List α) = list at run
  cases run with
  | nil => rfl
  | snoc _ _ => simp at empty

/-- The first step of a run. -/
theorem uncons {a : α} {t : σ} (run : Run step s (a :: labels) t) :
    ∃ u, step s a u ∧ Run step u labels t := by
  generalize whole : a :: labels = list at run
  induction run generalizing labels with
  | nil => cases whole
  | @snoc earlier t t' b first last ih =>
      cases earlier with
      | nil =>
          obtain ⟨rfl, rfl⟩ := List.cons.inj whole
          obtain rfl := first.of_nil
          exact ⟨t', last, nil⟩
      | cons c earlier =>
          obtain ⟨rfl, rfl⟩ := List.cons.inj whole
          obtain ⟨u, taken, rest⟩ := ih rfl
          exact ⟨u, taken, snoc rest last⟩

/-- The last step of a run. -/
theorem unsnoc {a : α} {t : σ} (run : Run step s (labels ++ [a]) t) :
    ∃ u, Run step s labels u ∧ step u a t := by
  generalize whole : labels ++ [a] = list at run
  cases run with
  | nil => exact absurd whole (List.append_ne_nil_of_right_ne_nil _ (List.cons_ne_nil a []))
  | snoc earlier last =>
      obtain ⟨rfl, same⟩ := List.append_inj' whole rfl
      obtain rfl := (List.cons.inj same).1
      exact ⟨_, earlier, last⟩

theorem cons {a : α} {u t : σ} (taken : step s a u) (run : Run step u labels t) :
    Run step s (a :: labels) t := (single taken).append run

/--
A measure that no step decreases and that is within a bound at the end was
within it before every step of the run.
-/
theorem bounded (measure : σ → Nat) (bound : Nat)
    (grows : ∀ {t a u}, step t a u → measure t ≤ measure u)
    (run : Run step start labels s) (small : measure s ≤ bound) :
    Run (fun t a u => step t a u ∧ measure u ≤ bound) start labels s := by
  induction run with
  | nil => exact nil
  | snoc _ last ih => exact snoc (ih (Nat.le_trans (grows last) small)) ⟨last, small⟩

end Run

end Tun01
