import Mathlib.Algebra.Order.Field.Basic
import Mathlib.Order.Interval.Set.OrdConnected
import Mathlib.Order.Interval.Set.UnorderedInterval
import Mathlib.Tactic.Linarith

/-!
# Approaching a target

A value that moves towards a target and never past it. `Approach` is one step, with the least
distance it covers; the rest is about sequences of such steps, first with one target, then with
a target of its own for each step.
-/

variable {K : Type*} [Field K] [LinearOrder K]

/-- One step from `x` to `y` on the way to `target`. -/
structure Approach (least target x y : K) : Prop where
  between : y ∈ Set.uIcc x target
  nearer : y = target ∨ |target - y| + least ≤ |target - x|

namespace Approach

variable {least target x y : K}

theorem eq_of_start (h : Approach least target target y) : y = target := by
  have hmem := h.between
  rw [Set.uIcc_self] at hmem
  exact hmem

/-- An interval that has the start and the target has the step. -/
theorem mem_of_ordConnected {S : Set K} (hS : S.OrdConnected) (h : Approach least target x y)
    (hx : x ∈ S) (htarget : target ∈ S) : y ∈ S :=
  hS.uIcc_subset hx htarget h.between

/-! ## One target -/

section OneTarget

variable {v : ℕ → K} (h : ∀ n, Approach least target (v n) (v (n + 1)))

include h

theorem mem_uIcc {m n : ℕ} (hmn : m ≤ n) : v n ∈ Set.uIcc (v m) target := by
  induction n, hmn using Nat.le_induction with
  | base => exact Set.left_mem_uIcc
  | succ n _ ih =>
    exact (h n).mem_of_ordConnected Set.ordConnected_uIcc ih Set.right_mem_uIcc

theorem monotone (hstart : v 0 ≤ target) : Monotone v := by
  refine monotone_nat_of_le_succ fun n => ?_
  have hn : v n ≤ target := by
    have hmem := mem_uIcc h (Nat.zero_le n)
    rw [Set.uIcc_of_le hstart] at hmem
    exact hmem.2
  have hstep := (h n).between
  rw [Set.uIcc_of_le hn] at hstep
  exact hstep.1

theorem antitone (hstart : target ≤ v 0) : Antitone v := by
  refine antitone_nat_of_succ_le fun n => ?_
  have hn : target ≤ v n := by
    have hmem := mem_uIcc h (Nat.zero_le n)
    rw [Set.uIcc_of_ge hstart] at hmem
    exact hmem.1
  have hstep := (h n).between
  rw [Set.uIcc_of_ge hn] at hstep
  exact hstep.2

variable [IsStrictOrderedRing K]

/-- Until the target is reached, each step covers the least distance. -/
theorem distance (n : ℕ) : v n = target ∨ |target - v n| + n * least ≤ |target - v 0| := by
  induction n with
  | zero => exact .inr (by simp)
  | succ n ih =>
    rcases ih with hreached | hdistance
    · have hstep := h n
      rw [hreached] at hstep
      exact .inl hstep.eq_of_start
    · rcases (h n).nearer with hreached | hnearer
      · exact .inl hreached
      · right
        push_cast
        linarith

theorem eq_of_le (hleast : 0 < least) {n : ℕ} (hn : |target - v 0| / least ≤ n) :
    v n = target := by
  rcases distance h n with hreached | hdistance
  · exact hreached
  · rw [div_le_iff₀ hleast] at hn
    have hzero : |target - v n| ≤ 0 := by linarith
    exact (sub_eq_zero.mp (abs_nonpos_iff.mp hzero)).symm

end OneTarget

/-! ## Changing targets -/

/-- A sequence stays in every interval that has its start and all its targets. -/
theorem mem_of_targets {S : Set K} (hS : S.OrdConnected) {v targets : ℕ → K}
    (h : ∀ n, Approach least (targets n) (v n) (v (n + 1))) (hstart : v 0 ∈ S)
    (htargets : ∀ n, targets n ∈ S) (n : ℕ) : v n ∈ S := by
  induction n with
  | zero => exact hstart
  | succ n ih => exact (h n).mem_of_ordConnected hS ih (htargets n)

end Approach
