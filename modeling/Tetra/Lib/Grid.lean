import Mathlib.Algebra.Order.Floor.Semiring
import Mathlib.Algebra.Order.Field.Basic
import Mathlib.Data.List.Nodup
import Mathlib.Data.Set.Basic
import Mathlib.Tactic.Linarith
import Mathlib.Tactic.Ring

/-!
# Grids of one step

The points `first`, `first + step`, `first + 2 * step`, … up to `last`. `exists_near_iff` says which
values have one of them within a step: if there is any, those from one step before the first to one
step behind the last.
-/

namespace Grid

variable {K : Type*} [Field K] [LinearOrder K]

/-- The points of the grid. -/
def points (first last step : K) : Set K := {x | ∃ k : ℕ, x = first + k * step ∧ x ≤ last}

variable {first last step x v : K}

theorem first_mem (h : first ≤ last) : first ∈ points first last step :=
  ⟨0, by simp, h⟩

variable [IsStrictOrderedRing K]

theorem first_le_of_mem (hstep : 0 < step) (hx : x ∈ points first last step) : first ≤ x := by
  obtain ⟨k, rfl, -⟩ := hx
  exact le_add_of_nonneg_right (mul_nonneg k.cast_nonneg hstep.le)

theorem first_le_last_of_mem (hstep : 0 < step) (hx : x ∈ points first last step) :
    first ≤ last :=
  (first_le_of_mem hstep hx).trans (hx.elim fun _ h => h.2)

variable [FloorSemiring K]

/-- The last point of the grid, if there is one. -/
def top (first last step : K) : K := first + ⌊(last - first) / step⌋₊ * step

theorem top_mem (hstep : 0 < step) (h : first ≤ last) :
    top first last step ∈ points first last step := by
  refine ⟨_, rfl, ?_⟩
  have hfloor : (⌊(last - first) / step⌋₊ : K) ≤ (last - first) / step :=
    Nat.floor_le (div_nonneg (sub_nonneg.mpr h) hstep.le)
  rw [le_div_iff₀ hstep] at hfloor
  rw [top]
  linarith

theorem le_top_of_mem (hstep : 0 < step) (hx : x ∈ points first last step) :
    x ≤ top first last step := by
  obtain ⟨k, rfl, hlast⟩ := hx
  have hk : (k : K) ≤ (last - first) / step := by
    rw [le_div_iff₀ hstep]
    linarith
  have hfloor : (k : K) ≤ ⌊(last - first) / step⌋₊ := by
    exact_mod_cast Nat.le_floor hk
  rw [top]
  linarith [mul_le_mul_of_nonneg_right hfloor hstep.le]

/-- Up to the last value, the grid has a point less than one step below each. -/
theorem exists_below (hstep : 0 < step) (hfirst : first ≤ v) (hlast : v ≤ last) :
    ∃ x ∈ points first last step, x ≤ v ∧ v < x + step := by
  have hquot : 0 ≤ (v - first) / step := div_nonneg (sub_nonneg.mpr hfirst) hstep.le
  have hbelow : (⌊(v - first) / step⌋₊ : K) * step ≤ v - first :=
    (le_div_iff₀ hstep).mp (Nat.floor_le hquot)
  have habove : v - first < (⌊(v - first) / step⌋₊ + 1 : K) * step :=
    (div_lt_iff₀ hstep).mp (Nat.lt_floor_add_one _)
  rw [add_mul, one_mul] at habove
  refine ⟨first + ⌊(v - first) / step⌋₊ * step, ⟨_, rfl, ?_⟩, ?_, ?_⟩ <;> linarith

/-- Between its ends no value is further than one step from the grid. -/
theorem exists_near (hstep : 0 < step) (h : first ≤ last) (hfirst : first ≤ v)
    (htop : v ≤ top first last step) : ∃ x ∈ points first last step, |x - v| ≤ step := by
  obtain ⟨_, _, hlast⟩ := top_mem hstep h
  obtain ⟨x, hx, hbelow, habove⟩ := exists_below hstep hfirst (htop.trans hlast)
  refine ⟨x, hx, ?_⟩
  rw [abs_le]
  constructor <;> linarith

/-- **The values within one step of the grid.** -/
theorem exists_near_iff (hstep : 0 < step) : (∃ x ∈ points first last step, |x - v| ≤ step) ↔
    first ≤ last ∧ first - step ≤ v ∧ v ≤ top first last step + step := by
  constructor
  · rintro ⟨x, hx, hnear⟩
    have hfirst := first_le_of_mem hstep hx
    have htop := le_top_of_mem hstep hx
    rw [abs_le] at hnear
    exact ⟨first_le_last_of_mem hstep hx, by linarith, by linarith⟩
  · rintro ⟨h, hlow, hhigh⟩
    rcases lt_or_ge v first with hbefore | hfirst
    · refine ⟨first, first_mem h, ?_⟩
      rw [abs_le]
      constructor <;> linarith
    · rcases le_or_gt v (top first last step) with htop | hafter
      · exact exists_near hstep h hfirst htop
      · refine ⟨_, top_mem hstep h, ?_⟩
        rw [abs_le]
        constructor <;> linarith

/-! ## In order -/

/-- The points of the grid in order, if there are any. -/
def enumerate (first last step : K) : List K :=
  (List.range (⌊(last - first) / step⌋₊ + 1)).map fun k : ℕ => first + k * step

omit [IsStrictOrderedRing K] in
theorem length_enumerate (first last step : K) :
    (enumerate first last step).length = ⌊(last - first) / step⌋₊ + 1 := by
  rw [enumerate, List.length_map, List.length_range]

theorem nodup_enumerate (hstep : 0 < step) : (enumerate first last step).Nodup := by
  refine List.Nodup.map (fun k m hkm => ?_) List.nodup_range
  have hmul : (k : K) * step = m * step := add_left_cancel hkm
  exact_mod_cast mul_right_cancel₀ hstep.ne' hmul

end Grid
