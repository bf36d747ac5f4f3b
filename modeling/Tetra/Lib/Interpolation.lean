import Tetra.Lib.Float64

/-!
# Linear interpolation with floating-point numbers

`a * (1 - t) + b * t` with a weight that is a quotient of differences of integers: where the result lies
when each of the operations rounds. With exact numbers it would be between `a` and `b`; and so it is here,
up to `Float64.tolerance`.
-/

namespace Float64

/-! ## Errors -/

/-- The relative error of an operation. -/
def unit : ℚ := 1 / 2 ^ 52

/-- The error that is left near 0. -/
def tiny : ℚ := 2 ^ (-1074 : Int)

theorem unit_pos : 0 < unit := by norm_num [unit]

theorem unit_le : unit ≤ 1 / 1024 := by norm_num [unit]

theorem tiny_pos : 0 < tiny := by
  rw [tiny]
  positivity

theorem tiny_le_unit : tiny ≤ unit := by
  have hunit : unit = 2 ^ (-52 : Int) := by norm_num [unit]
  rw [hunit, tiny]
  exact zpow_le_zpow_right₀ one_le_two (by omega)

section Errors

variable {p q r A : ℚ}

/-- The error of an operation whose result is bounded. -/
theorem Rounds.abs_sub_le (h : Rounds .binary64 p r) (hp : |p| ≤ A) : |r - p| ≤ A * unit + tiny := by
  have hmin : Float.Model.Format.binary64.minExponent = -1074 := by decide
  rw [Rounds, hmin] at h
  calc |r - p| ≤ |p| * unit + tiny := by
        rw [unit, mul_one_div]
        exact h
    _ ≤ A * unit + tiny := by
        have hmul := mul_le_mul_of_nonneg_right hp unit_pos.le
        linarith

theorem fits_of_abs_le (h : |p| ≤ 2 ^ 200) : Fits .binary64 p := by
  have hbias : ((Float.Model.Format.binary64.exponentBias : Int) - 1) = (1022 : Nat) := by decide
  rw [Fits, hbias, zpow_natCast]
  exact h.trans (pow_le_pow_right₀ one_le_two (by omega))

end Errors

/-! ## The weight -/

section Weight

variable {x y z : Float} {a b c : Int}

/-- The difference of two times is not negative when it is rounded, but for a tiny bit. -/
theorem quotient_mem {N D n d : ℚ} (hN : 0 ≤ N) (hND : N ≤ D) (hD : 1 ≤ D)
    (hn : |n - N| ≤ D * unit + tiny) (hd : |d - D| ≤ D * unit + tiny) :
    0 < d ∧ -(4 * unit) ≤ n / d ∧ n / d ≤ 1 + 5 * unit := by
  have hunit := unit_pos
  have hsmall := unit_le
  have htiny : tiny ≤ D * unit := tiny_le_unit.trans (le_mul_of_one_le_left hunit.le hD)
  have hDu : D * unit ≤ D * (1 / 1024) := mul_le_mul_of_nonneg_left hsmall (by linarith)
  obtain ⟨hnlow, hnhigh⟩ := abs_le.mp hn
  obtain ⟨hdlow, hdhigh⟩ := abs_le.mp hd
  have hpos : 0 < d := by linarith
  refine ⟨hpos, ?_, ?_⟩
  · rw [le_div_iff₀ hpos]
    have hscaled : D * (1 / 2) * unit ≤ d * unit := mul_le_mul_of_nonneg_right (by linarith) hunit.le
    linarith
  · rw [div_le_iff₀ hpos]
    have hscaled : D * (7 / 8) * unit ≤ d * unit := mul_le_mul_of_nonneg_right (by linarith) hunit.le
    linarith

/-- **The weight of a time between two others, all of them integers.** -/
theorem weight_mem (hx : toRat? x = some (a : ℚ)) (hy : toRat? y = some (b : ℚ))
    (hz : toRat? z = some (c : ℚ)) (hab : a ≤ b) (hbc : b ≤ c) (hac : a < c) (ha : 0 ≤ a)
    (hc : c < 2 ^ 63) :
    ∃ t, toRat? ((y - x) / (z - x)) = some t ∧ -(8 * unit) ≤ t ∧ t ≤ 1 + 8 * unit := by
  have hunit := unit_pos
  have hsmall := unit_le
  have htiny := tiny_le_unit
  have hN : (0 : ℚ) ≤ b - a := by exact_mod_cast sub_nonneg.mpr hab
  have hND : (b : ℚ) - a ≤ c - a := sub_le_sub_right (by exact_mod_cast hbc) _
  have hD : (1 : ℚ) ≤ c - a := by
    have hint : (1 : Int) ≤ c - a := by omega
    exact_mod_cast hint
  have hmax : (c : ℚ) - a ≤ 2 ^ 200 := by
    have hint : (c - a : Int) ≤ 2 ^ 63 := by omega
    have hcast : (c : ℚ) - a ≤ 2 ^ 63 := by exact_mod_cast hint
    exact hcast.trans (pow_le_pow_right₀ one_le_two (by omega))
  have habs : |(b : ℚ) - a| ≤ c - a := by rwa [abs_of_nonneg hN]
  have habs' : |(c : ℚ) - a| ≤ c - a := (abs_of_nonneg (by linarith)).le
  -- both differences are rounded, relative to the larger one, and then their quotient
  obtain ⟨n, hn, hnr⟩ := approximates_sub hy hx (fits_of_abs_le (habs.trans hmax))
  obtain ⟨d, hd, hdr⟩ := approximates_sub hz hx (fits_of_abs_le (habs'.trans hmax))
  obtain ⟨hpos, hlow, hhigh⟩ := quotient_mem hN hND hD (hnr.abs_sub_le habs) (hdr.abs_sub_le habs')
  have hquotient : |n / d| ≤ 2 := abs_le.mpr ⟨by linarith, by linarith⟩
  obtain ⟨t, ht, htr⟩ := approximates_div hn hd hpos.ne'
    (fits_of_abs_le (hquotient.trans (le_self_pow₀ one_le_two (by omega))))
  obtain ⟨htlow, hthigh⟩ := abs_le.mp (htr.abs_sub_le hquotient)
  exact ⟨t, ht, by linarith, by linarith⟩

end Weight

/-! ## The mean -/

/-- How far outside the result may lie. -/
def tolerance (p q : ℚ) : ℚ := 16 * unit * (|p| + |q|) + 4 * tiny

section Mean

variable {x y z : Float} {p q t : ℚ}

/-- A mean whose weight may lie a little outside, without rounding. -/
theorem mix_mem {u : ℚ} (hu : 0 ≤ u) (hlow : -u ≤ t) (hhigh : t ≤ 1 + u) :
    min p q - u * (|p| + |q|) ≤ p * (1 - t) + q * t ∧
      p * (1 - t) + q * t ≤ max p q + u * (|p| + |q|) := by
  have hdiff : |q - p| * u ≤ (|p| + |q|) * u := by
    rw [add_comm |p|]
    exact mul_le_mul_of_nonneg_right (abs_sub q p) hu
  rcases le_total p q with hle | hle
  · rw [abs_of_nonneg (sub_nonneg.mpr hle)] at hdiff
    rw [min_eq_left hle, max_eq_right hle]
    have hfrom := mul_nonneg (sub_nonneg.mpr hle) (by linarith : 0 ≤ t + u)
    have hto := mul_nonneg (sub_nonneg.mpr hle) (by linarith : 0 ≤ 1 + u - t)
    constructor <;> linarith
  · rw [abs_of_nonpos (sub_nonpos.mpr hle)] at hdiff
    rw [min_eq_right hle, max_eq_left hle]
    have hfrom := mul_nonneg (sub_nonneg.mpr hle) (by linarith : 0 ≤ t + u)
    have hto := mul_nonneg (sub_nonneg.mpr hle) (by linarith : 0 ≤ 1 + u - t)
    constructor <;> linarith

/-- What the four roundings of a mean add up to. -/
theorem mean_error {s v w r : ℚ} (hs : |s - (1 - t)| ≤ 9 / 8 * unit + tiny)
    (hv : |v - p * s| ≤ 5 / 4 * |p| * unit + tiny) (hw : |w - q * t| ≤ 5 / 4 * |q| * unit + tiny)
    (hr : |r - (v + w)| ≤ (3 / 2 * (|p| + |q|) + 2 * tiny) * unit + tiny) :
    |r - (p * (1 - t) + q * t)| ≤ 8 * unit * (|p| + |q|) + 4 * tiny := by
  have htiny := tiny_pos
  have hsquare : tiny * unit ≤ tiny * (1 / 1024) := mul_le_mul_of_nonneg_left unit_le htiny.le
  have hq : 0 ≤ |q| * unit := mul_nonneg (abs_nonneg q) unit_pos.le
  have hp : 0 ≤ |p| * unit := mul_nonneg (abs_nonneg p) unit_pos.le
  have hweight : |p * (s - (1 - t))| ≤ |p| * (17 / 8 * unit) := by
    rw [abs_mul]
    exact mul_le_mul_of_nonneg_left (by linarith [tiny_le_unit]) (abs_nonneg p)
  have hsplit : r - (p * (1 - t) + q * t) =
      (r - (v + w)) + (v - p * s) + p * (s - (1 - t)) + (w - q * t) := by ring
  calc |r - (p * (1 - t) + q * t)|
      ≤ |r - (v + w)| + |v - p * s| + |p * (s - (1 - t))| + |w - q * t| := by
        rw [hsplit]
        exact (abs_add_le _ _).trans (add_le_add_left
          ((abs_add_le _ _).trans (add_le_add_left (abs_add_le _ _) _)) _)
    _ ≤ 8 * unit * (|p| + |q|) + 4 * tiny := by linarith

/-- A product with a factor that is not much more than 1. -/
theorem exists_mul (hx : toRat? x = some p) (hy : toRat? y = some t) (hp : |p| ≤ 2 ^ 128)
    (ht : |t| ≤ 5 / 4) :
    ∃ r, toRat? (x * y) = some r ∧ |r - p * t| ≤ 5 / 4 * |p| * unit + tiny ∧
      |r| ≤ 3 / 2 * |p| + tiny := by
  have hproduct : |p * t| ≤ 5 / 4 * |p| := by
    rw [abs_mul, mul_comm]
    exact mul_le_mul_of_nonneg_right ht (abs_nonneg p)
  have hmax : 5 / 4 * |p| ≤ 2 ^ 200 := by linarith
  obtain ⟨r, hr, hround⟩ := approximates_mul hx hy (fits_of_abs_le (hproduct.trans hmax))
  have herror := hround.abs_sub_le hproduct
  have hunit : |p| * unit ≤ |p| * (1 / 1024) := mul_le_mul_of_nonneg_left unit_le (abs_nonneg p)
  refine ⟨r, hr, herror, ?_⟩
  calc |r| = |(r - p * t) + p * t| := by rw [sub_add_cancel]
    _ ≤ |r - p * t| + |p * t| := abs_add_le _ _
    _ ≤ 3 / 2 * |p| + tiny := by linarith [abs_nonneg p]

/-- **The mean of two numbers lies between them, up to the tolerance.** -/
theorem mean_mem (hx : toRat? x = some p) (hy : toRat? y = some q) (hz : toRat? z = some t)
    (hp : |p| ≤ 2 ^ 128) (hq : |q| ≤ 2 ^ 128) (hlow : -(8 * unit) ≤ t) (hhigh : t ≤ 1 + 8 * unit) :
    ∃ r, toRat? (x * (1 - z) + y * z) = some r ∧
      min p q - tolerance p q ≤ r ∧ r ≤ max p q + tolerance p q := by
  have hsmall := unit_le
  have hunit := unit_pos
  have htiny := tiny_le_unit
  have hone : toRat? 1 = some 1 := by decide +kernel
  have hrest : |1 - t| ≤ 9 / 8 := abs_le.mpr ⟨by linarith, by linarith⟩
  -- the four operations in their order, each with its error and a bound for the next one
  obtain ⟨s, hs, hsr⟩ := approximates_sub hone hz (fits_of_abs_le (by linarith))
  have hserror := hsr.abs_sub_le hrest
  have hsle : |s| ≤ 5 / 4 := by
    calc |s| = |(s - (1 - t)) + (1 - t)| := by rw [sub_add_cancel]
      _ ≤ |s - (1 - t)| + |1 - t| := abs_add_le _ _
      _ ≤ 5 / 4 := by linarith
  obtain ⟨v, hv, hverror, hvle⟩ := exists_mul hx hs hp hsle
  obtain ⟨w, hw, hwerror, hwle⟩ := exists_mul hy hz hq (abs_le.mpr ⟨by linarith, by linarith⟩)
  have hsum : |v + w| ≤ 3 / 2 * (|p| + |q|) + 2 * tiny := (abs_add_le v w).trans (by linarith)
  obtain ⟨r, hr, hround⟩ := approximates_add hv hw (fits_of_abs_le (hsum.trans (by linarith)))
  obtain ⟨hrlow, hrhigh⟩ := abs_le.mp
    (mean_error hserror hverror hwerror (hround.abs_sub_le hsum))
  obtain ⟨hmlow, hmhigh⟩ := mix_mem (p := p) (q := q) (by linarith) hlow hhigh
  exact ⟨r, hr, by rw [tolerance]; linarith, by rw [tolerance]; linarith⟩

end Mean

end Float64
