import Mathlib.Data.List.Infix
import Mathlib.Tactic.Common

/-!
# Matching with one counter

An online matcher that keeps the length of the part of the pattern it has seen
and starts again after every symbol that does not continue it.  It finds an
occurrence exactly when what precedes the occurrence is a sequence of abandoned
attempts, so it may miss one.
-/

namespace Tun01

namespace Matcher

variable {α : Type} [DecidableEq α]

/-- One symbol; `none` once the pattern is complete. -/
def scan (pattern : List α) : Option Nat → α → Option Nat
  | none, _ => none
  | some count, c =>
      if pattern[count]? = some c then
        if count + 1 < pattern.length then some (count + 1) else none
      else
        some 0

def state (pattern text : List α) : Option Nat := text.foldl (scan pattern) (some 0)

/-- What follows the chunk that completes the pattern. -/
def rest (pattern : List α) (before : Option Nat) : List (List α) → Option (List α)
  | [] => none
  | chunk :: chunks =>
      if chunk.foldl (scan pattern) before = none then some chunks.flatten
      else rest pattern (chunk.foldl (scan pattern) before) chunks

/--
A sequence of abandoned attempts: each is a proper first part of the pattern
and a symbol that does not continue it.
-/
inductive Restarts (pattern : List α) : List α → Prop where
  | nil : Restarts pattern []
  | attempt {count : Nat} {c : α} {rest : List α} (proper : count < pattern.length)
      (mismatch : pattern[count]? ≠ some c) (later : Restarts pattern rest) :
      Restarts pattern (pattern.take count ++ c :: rest)

/-- The matcher meets the pattern between two attempts. -/
def Found (pattern text : List α) : Prop :=
  ∃ before after, Restarts pattern before ∧ text = before ++ (pattern ++ after)

variable {pattern text first second : List α}

omit [DecidableEq α] in
theorem Restarts.append (before : Restarts pattern first) (later : Restarts pattern second) :
    Restarts pattern (first ++ second) := by
  induction before with
  | nil => exact later
  | attempt proper mismatch _ ih =>
      rw [List.append_assoc]
      exact .attempt proper mismatch ih

theorem foldl_none (text : List α) : text.foldl (scan pattern) none = none := by
  induction text with
  | nil => rfl
  | cons c rest ih => exact ih

theorem state_append (first second : List α) :
    state pattern (first ++ second) = second.foldl (scan pattern) (state pattern first) :=
  List.foldl_append

theorem state_concat (text : List α) (c : α) :
    state pattern (text ++ [c]) = scan pattern (state pattern text) c := state_append text [c]

theorem scan_next {count : Nat} {c : α} (next : pattern[count]? = some c) :
    scan pattern (some count) c =
      if count + 1 < pattern.length then some (count + 1) else none := if_pos next

theorem scan_mismatch {count : Nat} {c : α} (mismatch : pattern[count]? ≠ some c) :
    scan pattern (some count) c = some 0 := if_neg mismatch

/-- A proper first part of the pattern is counted. -/
theorem state_take {count : Nat} (proper : count < pattern.length) :
    state pattern (pattern.take count) = some count := by
  induction count with
  | zero => rfl
  | succ count ih =>
      have inside : count < pattern.length := Nat.lt_of_succ_lt proper
      rw [List.take_succ_eq_append_getElem inside, state_concat, ih inside,
        scan_next (List.getElem?_eq_getElem inside), if_pos proper]

theorem state_attempt {count : Nat} {c : α} (proper : count < pattern.length)
    (mismatch : pattern[count]? ≠ some c) :
    state pattern (pattern.take count ++ [c]) = some 0 := by
  rw [state_concat, state_take proper, scan_mismatch mismatch]

/-- Abandoned attempts leave no trace. -/
theorem Restarts.state (restarts : Restarts pattern first) (text : List α) :
    state pattern (first ++ text) = state pattern text := by
  induction restarts with
  | nil => rfl
  | @attempt count c rest proper mismatch _ ih =>
      have split : pattern.take count ++ c :: rest ++ text =
          (pattern.take count ++ [c]) ++ (rest ++ text) := by simp
      rw [split, state_append, state_attempt proper mismatch]
      exact ih

theorem state_pattern (nonempty : pattern ≠ []) : state pattern pattern = none := by
  have positive := List.length_pos_iff.mpr nonempty
  have inside : pattern.length - 1 < pattern.length := by omega
  have split : pattern = pattern.take (pattern.length - 1) ++ [pattern[pattern.length - 1]] := by
    have whole := List.take_succ_eq_append_getElem inside
    rw [Nat.sub_add_cancel positive, List.take_length] at whole
    exact whole
  have last : state pattern (pattern.take (pattern.length - 1) ++
      [pattern[pattern.length - 1]]) = none := by
    rw [state_concat, state_take inside, scan_next (List.getElem?_eq_getElem inside),
      if_neg (by omega)]
  rwa [← split] at last

/-- Before the pattern is complete the counter says what was read last. -/
theorem state_cases (nonempty : pattern ≠ []) (text : List α) :
    (∃ count before, count < pattern.length ∧ Restarts pattern before ∧
      text = before ++ pattern.take count ∧ state pattern text = some count) ∨
      (Found pattern text ∧ state pattern text = none) := by
  have positive := List.length_pos_iff.mpr nonempty
  induction text using List.reverseRecOn with
  | nil => exact Or.inl ⟨0, [], positive, .nil, rfl, rfl⟩
  | append_singleton text c ih =>
      rcases ih with ⟨count, before, proper, restarts, rfl, counted⟩ |
        ⟨⟨before, after, restarts, rfl⟩, complete⟩
      · rw [state_concat, counted]
        by_cases next : pattern[count]? = some c
        · have here : pattern[count] = c := by
            rw [List.getElem?_eq_getElem proper] at next
            exact Option.some.inj next
          have read : before ++ pattern.take count ++ [c] = before ++ pattern.take (count + 1) := by
            rw [List.take_succ_eq_append_getElem proper, here, List.append_assoc]
          by_cases more : count + 1 < pattern.length
          · refine Or.inl ⟨count + 1, before, more, restarts, read, ?_⟩
            rw [scan_next next, if_pos more]
          · have whole : pattern.take (count + 1) = pattern :=
              List.take_of_length_le (Nat.le_of_not_lt more)
            refine Or.inr ⟨⟨before, [], restarts, ?_⟩, ?_⟩
            · rw [read, whole, List.append_nil]
            · rw [scan_next next, if_neg more]
        · refine Or.inl ⟨0, before ++ (pattern.take count ++ [c]), positive,
            restarts.append (.attempt proper next .nil), ?_, scan_mismatch next⟩
          rw [List.take_zero, List.append_nil, List.append_assoc]
      · refine Or.inr ⟨⟨before, after ++ [c], restarts, by simp⟩, ?_⟩
        rw [state_concat, complete]
        rfl

/-- The matcher completes exactly when it meets the pattern between two attempts. -/
theorem state_none_iff (nonempty : pattern ≠ []) : state pattern text = none ↔ Found pattern text := by
  constructor
  · intro complete
    rcases state_cases nonempty text with ⟨_, _, _, _, _, counted⟩ | ⟨found, _⟩
    · rw [counted] at complete
      cases complete
    · exact found
  · rintro ⟨before, after, restarts, rfl⟩
    rw [restarts.state, state_append, state_pattern nonempty]
    exact foldl_none after

omit [DecidableEq α] in
theorem Found.occurs (found : Found pattern text) : pattern <:+: text := by
  obtain ⟨before, after, _, rfl⟩ := found
  exact ⟨before, after, List.append_assoc _ _ _⟩

omit [DecidableEq α] in
/-- The first occurrence of the pattern comes after abandoned attempts. -/
def Clean (pattern text : List α) : Prop :=
  ∀ before after, text = before ++ (pattern ++ after) →
    ¬ pattern <:+: before ++ pattern.dropLast → Restarts pattern before

omit [DecidableEq α] in
/-- A text that contains the pattern has a first occurrence of it. -/
theorem first_occurrence (occurs : pattern <:+: text) (nonempty : pattern ≠ []) :
    ∃ before after, text = before ++ (pattern ++ after) ∧
      ¬ pattern <:+: before ++ pattern.dropLast := by
  induction text using List.reverseRecOn with
  | nil => exact absurd (List.infix_nil.mp occurs) nonempty
  | append_singleton text c ih =>
      by_cases earlier : pattern <:+: text
      · obtain ⟨before, after, rfl, firstOne⟩ := ih earlier
        exact ⟨before, after ++ [c], by simp, firstOne⟩
      · obtain ⟨before, after, whole⟩ := occurs
        have ended : after = [] := by
          cases after using List.reverseRecOn with
          | nil => rfl
          | append_singleton after d =>
              rw [← List.append_assoc] at whole
              have same := (List.append_inj' whole rfl).1
              exact absurd ⟨before, after, same⟩ earlier
        rw [ended, List.append_nil] at whole
        refine ⟨before, [], by rw [List.append_nil]; exact whole.symm, fun inside => earlier ?_⟩
        have cut := congrArg List.dropLast whole
        rw [List.dropLast_append_of_ne_nil nonempty, List.dropLast_concat] at cut
        rwa [cut] at inside

/--
At every point of a text the matcher has completed exactly when the text up to
there contains the pattern, if and only if the first occurrence comes after
abandoned attempts.
-/
theorem exact_iff (nonempty : pattern ≠ []) :
    (∀ first, first <+: text → (state pattern first = none ↔ pattern <:+: first)) ↔
      Clean pattern text := by
  constructor
  · intro complete before after split firstOne
    have read : before ++ pattern <+: text := ⟨after, by rw [split, List.append_assoc]⟩
    obtain ⟨before', after', restarts, same⟩ :=
      (state_none_iff nonempty).mp ((complete _ read).mpr (List.suffix_append _ _).isInfix)
    have ended : after' = [] := by
      cases after' using List.reverseRecOn with
      | nil => rfl
      | append_singleton after' d =>
          have cut := congrArg List.dropLast same
          rw [List.dropLast_append_of_ne_nil nonempty, ← List.append_assoc, ← List.append_assoc,
            List.dropLast_concat] at cut
          exact absurd ⟨before', after', cut.symm⟩ firstOne
    rw [ended, List.append_nil] at same
    rw [(List.append_inj' same rfl).1]
    exact restarts
  · intro clean first read
    rw [state_none_iff nonempty]
    refine ⟨Found.occurs, fun occurs => ?_⟩
    obtain ⟨before, after, rfl, firstOne⟩ := first_occurrence occurs nonempty
    obtain ⟨more, rfl⟩ := read
    exact ⟨before, after, clean before (after ++ more) (by simp) firstOne, rfl⟩

end Matcher

end Tun01
