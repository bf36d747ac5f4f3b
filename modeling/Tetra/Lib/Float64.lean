import Mathlib

/-!
# Floating-point numbers as rational numbers

A `Float` has a logical model: the bits of the format binary64, which are unpacked to a sign, a mantissa
and an exponent, and operations that compute with these and round. Here a `Float` is read as the
rational number that it is (`Float64.toRat?`), and each of the four operations is shown to give the exact
result up to a unit in the last place (`Float64.Rounds`), as long as it does not overflow.

That the model rounds to the nearest is not used: of the last bit only that it is one of the two that
are possible.
-/

namespace Float64

open Float.Model (Format UnpackedFloat totalExponent)
open Float.Model.UnpackedFloat

/-! ## Packing -/

section Packing

variable {spec : Format} {s : Sign} {m : Nat} {e : Int}

/-- The mantissas and exponents of a format: the mantissa has all of its bits, unless the exponent is the
smallest one. -/
structure Canonical (spec : Format) (m : Nat) (e : Int) : Prop where
  lt : m < 2 ^ spec.mantissaBits
  ge : spec.minExponent ≤ e
  le : e ≤ (spec.exponentBias : Int) - spec.mantissaBitsWithoutImplicit
  full : 2 ^ spec.mantissaBitsWithoutImplicit ≤ m ∨ e = spec.minExponent

theorem two_pow_mantissaBits (spec : Format) :
    2 ^ spec.mantissaBits = 2 * 2 ^ spec.mantissaBitsWithoutImplicit := by
  rw [Format.mantissaBits, Nat.pow_add, Nat.pow_one]

theorem two_pow_exponentBits (spec : Format) : 2 ^ spec.exponentBits = 2 * spec.exponentBias + 2 := by
  have hpos : 0 < 2 ^ (spec.exponentBits - 1) := Nat.two_pow_pos _
  have hpow : 2 ^ spec.exponentBits = 2 ^ (spec.exponentBits - 1) * 2 := by
    rw [← Nat.pow_succ, Nat.succ_eq_add_one, Nat.sub_add_cancel spec.he]
  rw [Format.exponentBias]
  omega

theorem minExponent_eq (spec : Format) :
    spec.minExponent = 1 - (spec.exponentBias : Int) - spec.mantissaBitsWithoutImplicit := by
  have hpos : 0 < 2 ^ (spec.exponentBits - 1) := Nat.two_pow_pos _
  have hcast : ((2 ^ (spec.exponentBits - 1) : Nat) : Int) = 2 ^ (spec.exponentBits - 1) := by push_cast; rfl
  rw [Format.minExponent, Format.exponentBias, Format.mantissaBits]
  omega

theorem append_implicit {n : Nat} (v : BitVec n) : (1#1 ++ v).toNat = 2 ^ n + v.toNat := by
  rw [BitVec.toNat_append, ← Nat.shiftLeft_add_eq_or_of_lt v.isLt, Nat.shiftLeft_eq]
  simp

/-- The exponents that are stored of numbers: neither 0 nor the largest one. -/
theorem exponent_bounds {b : BitVec spec.exponentBits} (hmax : b ≠ -1#_) (hzero : b ≠ 0#_) :
    1 ≤ b.toNat ∧ b.toNat ≤ 2 * spec.exponentBias := by
  have hlt := b.isLt
  have hne : b.toNat ≠ 2 ^ spec.exponentBits - 1 := by
    intro h
    refine hmax (BitVec.eq_of_toNat_eq ?_)
    rw [h, BitVec.neg_one_eq_allOnes, BitVec.toNat_allOnes]
  have hpos : b.toNat ≠ 0 := fun h => hzero (BitVec.eq_of_toNat_eq (by simpa using h))
  rw [two_pow_exponentBits] at hlt hne
  omega

theorem exponentBias_pos (hbits : 2 ≤ spec.exponentBits) : 1 ≤ spec.exponentBias := by
  have hpow : 2 ^ 1 ≤ 2 ^ (spec.exponentBits - 1) := Nat.pow_le_pow_right Nat.two_pos (by omega)
  rw [Format.exponentBias]
  omega

theorem canonical_of_unpack (hbits : 2 ≤ spec.exponentBits) {b : BitVec spec.numBits} {hm : 0 < m}
    (h : unpack spec b = .finite s m e hm) : Canonical spec m e := by
  have hlt := (unpackMantissa b).isLt
  have hmantissa := two_pow_mantissaBits spec
  have hmin := minExponent_eq spec
  have hbias := exponentBias_pos hbits
  unfold unpack at h
  dsimp only at h
  split_ifs at h with hmax hnan hzero hsubnormal
  · -- a subnormal number
    obtain ⟨-, rfl, rfl⟩ := finite.inj h
    rw [hzero, BitVec.toNat_zero]
    exact ⟨by omega, by omega, by omega, .inr (by omega)⟩
  · obtain ⟨-, rfl, rfl⟩ := finite.inj h
    obtain ⟨hge, hle⟩ := exponent_bounds hmax hzero
    rw [append_implicit]
    exact ⟨by omega, by omega, by omega, .inl (by omega)⟩

theorem ne_neg_one {b : BitVec spec.exponentBits} (h : b.toNat ≤ 2 * spec.exponentBias) : b ≠ -1#_ := by
  rintro rfl
  have hexponent := two_pow_exponentBits spec
  rw [BitVec.neg_one_eq_allOnes, BitVec.toNat_allOnes] at h
  omega

theorem ne_zero_of_pos {n : Nat} {b : BitVec n} (h : 0 < b.toNat) : b ≠ 0#_ := by
  rintro rfl
  simp at h

/-- Of a normal number the first bit of the mantissa is not stored. -/
theorem unpack_pack_normal (h : Canonical spec m e) (hm : 0 < m)
    (hnormal : 2 ^ spec.mantissaBitsWithoutImplicit ≤ m) :
    unpack spec (pack spec (.finite s m e hm)) = .finite s m e hm := by
  obtain ⟨hlt, hge, hle, -⟩ := h
  have hmantissa := two_pow_mantissaBits spec
  have hexponent := two_pow_exponentBits spec
  have hmin := minExponent_eq spec
  obtain ⟨b, hb⟩ : ∃ b : Nat, (b : Int) = e + spec.exponentBias + spec.mantissaBitsWithoutImplicit :=
    ⟨_, Int.toNat_of_nonneg (by omega)⟩
  have hlog : m.log2 + 1 = spec.mantissaBits := by
    rw [(Nat.log2_eq_iff hm.ne').mpr ⟨hnormal, by rwa [Nat.pow_succ, Nat.mul_comm, ← hmantissa]⟩,
      Format.mantissaBits, Nat.add_comm]
  have hstored : (BitVec.ofNat spec.exponentBits b).toNat = b := by
    rw [BitVec.toNat_ofNat, Nat.mod_eq_of_lt (by omega)]
  have hmax : BitVec.ofNat spec.exponentBits b ≠ -1#_ := ne_neg_one (by omega)
  have hzero : BitVec.ofNat spec.exponentBits b ≠ 0#_ := ne_zero_of_pos (by omega)
  have happend : (1#1 ++ BitVec.ofNat spec.mantissaBitsWithoutImplicit m).toNat = m := by
    rw [append_implicit, BitVec.toNat_ofNat, Nat.mod_eq_sub_mod hnormal, Nat.mod_eq_of_lt (by omega)]
    omega
  rw [pack, ← hb, Int.toNat_natCast, if_neg (by omega), if_pos hlog]
  simp only [unpack, unpackExponent_packComponents, unpackMantissa_packComponents,
    unpackSign_packComponents, Sign.ofBitVec_toBitVec, if_neg hmax, if_neg hzero, happend, hstored]
  congr 1
  omega

/-- Of any other one the exponent is not stored. -/
theorem unpack_pack_subnormal (h : Canonical spec m spec.minExponent) (hm : 0 < m)
    (hsubnormal : m < 2 ^ spec.mantissaBitsWithoutImplicit) :
    unpack spec (pack spec (.finite s m spec.minExponent hm)) = .finite s m spec.minExponent hm := by
  have hle := h.le
  have hexponent := two_pow_exponentBits spec
  have hmin := minExponent_eq spec
  have hlog : ¬ m.log2 + 1 = spec.mantissaBits := by
    intro h
    refine hsubnormal.not_ge ((Nat.le_log2 hm.ne').mp ?_)
    rw [Format.mantissaBits] at h
    omega
  have hstored : (BitVec.ofNat spec.mantissaBitsWithoutImplicit m).toNat = m := by
    rw [BitVec.toNat_ofNat, Nat.mod_eq_of_lt hsubnormal]
  have hmax : (0#_ : BitVec spec.exponentBits) ≠ -1#_ := ne_neg_one (by simp)
  have hzero : BitVec.ofNat spec.mantissaBitsWithoutImplicit m ≠ 0#_ := ne_zero_of_pos (by omega)
  rw [pack, if_neg (by omega), if_neg hlog]
  simp only [unpack, unpackExponent_packComponents, unpackMantissa_packComponents,
    unpackSign_packComponents, Sign.ofBitVec_toBitVec, if_neg hmax, if_true, dif_neg hzero, hstored,
    BitVec.toNat_zero]
  congr 1
  omega

/-- **Packing loses nothing.** -/
theorem unpack_pack (h : Canonical spec m e) (hm : 0 < m) :
    unpack spec (pack spec (.finite s m e hm)) = .finite s m e hm := by
  rcases Nat.lt_or_ge m (2 ^ spec.mantissaBitsWithoutImplicit) with hsubnormal | hnormal
  · obtain rfl := h.full.resolve_left hsubnormal.not_ge
    exact unpack_pack_subnormal h hm hsubnormal
  · exact unpack_pack_normal h hm hnormal

end Packing

/-! ## Rounding -/

section Rounding

variable {spec : Format} {s : Sign} {m r k : Nat} {e t : Int} {accuracy : Accuracy}

theorem mantissa_shiftRight (em : ExtendedMantissa) (k : Nat) :
    (em >>> k).mantissa = em.mantissa / 2 ^ k := by
  induction k with
  | zero => simp [HShiftRight.hShiftRight, Nat.repeat]
  | succ k ih =>
    have hstep : (em >>> (k + 1)).mantissa = (em >>> k).mantissa / 2 := rfl
    rw [hstep, ih, Nat.div_div_eq_div_mul, Nat.pow_succ]

/-- Whatever the bits behind the mantissa, it is rounded down or up. -/
theorem roundedMantissa_bounds (em : ExtendedMantissa) :
    em.mantissa ≤ em.roundedMantissa ∧ em.roundedMantissa ≤ em.mantissa + 1 := by
  unfold ExtendedMantissa.roundedMantissa
  cases em.accuracy with
  | exact => exact ⟨Nat.le_refl _, Nat.le_succ _⟩
  | inexact o =>
    cases o with
    | lt => exact ⟨Nat.le_refl _, Nat.le_succ _⟩
    | eq =>
      simp only [Accuracy.roundToNearestEven]
      omega
    | gt => exact ⟨Nat.le_succ _, Nat.le_refl _⟩

theorem mantissa_ofMantissaAndAccuracy (m : Nat) (accuracy : Accuracy) :
    (ExtendedMantissa.ofMantissaAndAccuracy m accuracy).mantissa = m := by
  cases accuracy with
  | exact => rfl
  | inexact o => cases o <;> rfl

/-- A mantissa that has been rounded, with the exponent it belongs to: if it has got a bit too many, the
last one is dropped, which is 0. -/
def carry (spec : Format) (s : Sign) (r : Nat) (t : Int) : UnpackedFloat :=
  if h : r = 0 then .zero s
  else if r < 2 ^ spec.mantissaBits then .finite s r t (Nat.pos_of_ne_zero h)
  else .finite s (2 ^ spec.mantissaBitsWithoutImplicit) (t + 1) (Nat.two_pow_pos _)

theorem shift_of_lt (hr : r < 2 ^ spec.mantissaBits) (ht : spec.minExponent ≤ t) :
    shiftToTargetExponent spec r t .exact = (⟨r, false, false⟩, t) := by
  have hlog : r.log2 < spec.mantissaBits := by
    rcases Nat.eq_zero_or_pos r with rfl | hpos
    · rw [Nat.log2_zero, Format.mantissaBits]
      omega
    · exact (Nat.log2_lt hpos.ne').mpr hr
  have hamount : (spec.targetExponent (totalExponent r t) - t).toNat = 0 := by
    rw [Format.targetExponent, totalExponent]
    omega
  simp [shiftToTargetExponent, shiftToExponent, hamount, HShiftRight.hShiftRight, Nat.repeat,
    ExtendedMantissa.ofMantissaAndAccuracy]

theorem shift_of_eq (ht : spec.minExponent ≤ t) :
    (shiftToTargetExponent spec (2 ^ spec.mantissaBits) t .exact).1.mantissa =
        2 ^ spec.mantissaBitsWithoutImplicit ∧
      (shiftToTargetExponent spec (2 ^ spec.mantissaBits) t .exact).2 = t + 1 := by
  have htarget : spec.targetExponent (totalExponent (2 ^ spec.mantissaBits) t) = t + 1 := by
    rw [Format.targetExponent, totalExponent, Nat.log2_two_pow]
    omega
  have hamount : (t + 1 - t).toNat = 1 := by omega
  rw [shiftToTargetExponent, htarget, shiftToExponent, hamount]
  refine ⟨?_, rfl⟩
  rw [mantissa_shiftRight, mantissa_ofMantissaAndAccuracy, two_pow_mantissaBits, Nat.pow_one,
    Nat.mul_div_cancel_left _ Nat.two_pos]

/-- Rounding to the exponent that the format asks for, if it is not below the one that is given. -/
theorem roundWithAccuracy_eq (s : Sign) (accuracy : Accuracy)
    (ht : spec.targetExponent (totalExponent m e) = t) (hle : e ≤ t) :
    ∃ r, m / 2 ^ (t - e).toNat ≤ r ∧ r ≤ m / 2 ^ (t - e).toNat + 1 ∧ r ≤ 2 ^ spec.mantissaBits ∧
      roundWithAccuracy spec s m e accuracy = carry spec s r t := by
  obtain ⟨em, hem⟩ : ∃ em, em = ExtendedMantissa.ofMantissaAndAccuracy m accuracy >>> (t - e).toNat :=
    ⟨_, rfl⟩
  have hmantissa : em.mantissa = m / 2 ^ (t - e).toNat := by
    rw [hem, mantissa_shiftRight, mantissa_ofMantissaAndAccuracy]
  have hfirst : shiftToTargetExponent spec m e accuracy = (em, t) := by
    rw [shiftToTargetExponent, ht, shiftToExponent, ← hem, Int.toNat_of_nonneg (by omega)]
    congr 1
    omega
  obtain ⟨hdown, hup⟩ := roundedMantissa_bounds em
  have hmin : spec.minExponent ≤ t := by
    rw [← ht]
    exact le_max_right _ _
  have hbits : em.mantissa < 2 ^ spec.mantissaBits := by
    rw [hmantissa, Nat.div_lt_iff_lt_mul (Nat.two_pow_pos _), ← Nat.pow_add]
    refine Nat.lt_log2_self.trans_le (Nat.pow_le_pow_right Nat.two_pos ?_)
    rw [Format.targetExponent, totalExponent] at ht
    omega
  refine ⟨em.roundedMantissa, by rw [← hmantissa]; exact hdown, by rw [← hmantissa]; exact hup,
    by omega, ?_⟩
  rw [roundWithAccuracy, hfirst]
  simp only
  rcases Nat.lt_or_ge em.roundedMantissa (2 ^ spec.mantissaBits) with hlt | hge
  · simp only [shift_of_lt hlt hmin, carry, if_pos hlt]
  · have heq : em.roundedMantissa = 2 ^ spec.mantissaBits := by omega
    obtain ⟨hshift, hexponent⟩ := shift_of_eq hmin
    have hpos : 0 < 2 ^ spec.mantissaBits := Nat.two_pow_pos _
    simp only [heq, hshift, hexponent, carry, Nat.lt_irrefl, if_false, hpos.ne', dite_false,
      (Nat.two_pow_pos spec.mantissaBitsWithoutImplicit).ne']

end Rounding

/-! ## Numbers -/

/-- A sign as a factor. -/
def factor : Sign → ℚ
  | .negative => -1
  | .positive => 1

/-- The number that an unpacked float is, unless it is infinite or none. -/
def number? : UnpackedFloat → Option ℚ
  | .zero _ => some 0
  | .finite s m e _ => some (factor s * (m * 2 ^ e))
  | .infinity _ | .notANumber => none

/-- `y` is `x` up to a unit in the last place. -/
def Rounds (spec : Format) (x y : ℚ) : Prop :=
  |y - x| ≤ |x| / 2 ^ spec.mantissaBitsWithoutImplicit + 2 ^ spec.minExponent

/-- A number that is not rounded to infinity. -/
def Fits (spec : Format) (x : ℚ) : Prop := |x| ≤ 2 ^ ((spec.exponentBias : Int) - 1)

/-- Once it is packed, `u` is the number `x` up to a unit in the last place. -/
def Packs (spec : Format) (u : UnpackedFloat) (x : ℚ) : Prop :=
  ∃ y, number? (unpack spec (pack spec u)) = some y ∧ Rounds spec x y

section Numbers

variable {spec : Format} {s : Sign} {m r k : Nat} {e t : Int} {accuracy : Accuracy} {x y : ℚ}

theorem Rounds.refl (spec : Format) (x : ℚ) : Rounds spec x x := by
  rw [Rounds, sub_self, abs_zero]
  positivity

@[simp] theorem factor_mul (s s' : Sign) : factor (s * s') = factor s * factor s' := by
  cases s <;> cases s' <;> norm_num [factor]

@[simp] theorem factor_div (s s' : Sign) : factor (s / s') = factor s / factor s' := by
  cases s <;> cases s' <;> norm_num [factor] <;> rfl

@[simp] theorem factor_neg (s : Sign) : factor (-s) = -factor s := by
  cases s
  · norm_num [factor]
  · rfl

@[simp] theorem abs_factor (s : Sign) : |factor s| = 1 := by
  cases s <;> simp [factor]

theorem Rounds.factor_mul (h : Rounds spec x y) (s : Sign) :
    Rounds spec (factor s * x) (factor s * y) := by
  rw [Rounds, ← mul_sub, abs_mul, abs_mul, abs_factor, one_mul, one_mul]
  exact h

theorem cast_apply (s : Sign) (m : Nat) : ((s.apply m : Int) : ℚ) = factor s * m := by
  cases s <;> simp [Sign.apply, factor]

/-- A number that is packed can be unpacked. -/
theorem number?_pack (h : Canonical spec m e) (hm : 0 < m) :
    number? (unpack spec (pack spec (.finite s m e hm))) =
      some (factor s * (m * 2 ^ e)) := by
  rw [unpack_pack h hm, number?]

theorem number?_carry (hr : r ≤ 2 ^ spec.mantissaBits) (hmin : spec.minExponent ≤ t)
    (hmax : t + 1 ≤ (spec.exponentBias : Int) - spec.mantissaBitsWithoutImplicit)
    (hfull : 2 ^ spec.mantissaBitsWithoutImplicit ≤ r ∨ t = spec.minExponent) :
    number? (unpack spec (pack spec (carry spec s r t))) =
      some (factor s * (r * 2 ^ t)) := by
  have hmantissa := two_pow_mantissaBits spec
  have hpos := Nat.two_pow_pos spec.mantissaBitsWithoutImplicit
  unfold carry
  split_ifs with hzero hlt
  · rw [pack, unpack_packedZero, number?, hzero]
    simp
  · exact number?_pack ⟨hlt, hmin, by omega, hfull⟩ _
  · -- one bit too many
    have heq : r = 2 * 2 ^ spec.mantissaBitsWithoutImplicit := by omega
    rw [number?_pack ⟨by omega, by omega, hmax, .inl (Nat.le_refl _)⟩, heq, zpow_add₀ two_ne_zero]
    push_cast
    ring_nf

theorem zpow_eq_mul_pow (hle : e ≤ t) : (2 : ℚ) ^ t = 2 ^ e * 2 ^ (t - e).toNat := by
  rw [← zpow_natCast, Int.toNat_of_nonneg (by omega), ← zpow_add₀ two_ne_zero]
  congr 1
  omega

/-- A number that begins with a mantissa begins with the first bits of it. -/
theorem between_div (hle : e ≤ t) (hlow : m * 2 ^ e ≤ x) (hhigh : x < (m + 1) * 2 ^ e) :
    (m / 2 ^ (t - e).toNat : Nat) * 2 ^ t ≤ x ∧ x < ((m / 2 ^ (t - e).toNat : Nat) + 1) * 2 ^ t := by
  obtain ⟨k, hk⟩ : ∃ k, 2 ^ (t - e).toNat = k := ⟨_, rfl⟩
  have hpos : 0 < k := hk ▸ Nat.two_pow_pos _
  have hbase : (0 : ℚ) < 2 ^ e := by positivity
  have hcast : (2 : ℚ) ^ (t - e).toNat = k := by exact_mod_cast hk
  have hdown : ((m / k * k : Nat) : ℚ) ≤ m := by exact_mod_cast Nat.div_mul_le_self m k
  have hup : (m : ℚ) + 1 ≤ ((m / k + 1) * k : Nat) := by
    exact_mod_cast Nat.lt_mul_of_div_lt (Nat.lt_succ_self _) hpos
  rw [zpow_eq_mul_pow hle, hk, hcast]
  push_cast at hdown hup
  constructor
  · calc ((m / k : Nat) : ℚ) * (2 ^ e * k) = (m / k : Nat) * k * 2 ^ e := by ring
      _ ≤ m * 2 ^ e := mul_le_mul_of_nonneg_right hdown hbase.le
      _ ≤ x := hlow
  · calc x < (m + 1) * 2 ^ e := hhigh
      _ ≤ ((m / k : Nat) + 1) * k * 2 ^ e := mul_le_mul_of_nonneg_right hup hbase.le
      _ = ((m / k : Nat) + 1) * (2 ^ e * k) := by ring

/-- The exponent that the format asks for of a mantissa: the smallest one, or the one that keeps its
first bits. -/
theorem target_cases (ht : spec.targetExponent (totalExponent m e) = t) (hle : e ≤ t) :
    t = spec.minExponent ∨
      t + spec.mantissaBitsWithoutImplicit = m.log2 + e ∧ spec.minExponent < t ∧ m ≠ 0 := by
  have hbits := spec.hm
  rw [Format.targetExponent, totalExponent, Format.mantissaBits] at ht
  rcases Int.lt_or_le spec.minExponent t with hlt | hge
  · refine Or.inr ⟨by omega, hlt, ?_⟩
    rintro rfl
    rw [Nat.log2_zero] at ht
    omega
  · exact Or.inl (by omega)

/-- **Rounding**: a number that begins with a mantissa is rounded to one that is away from it by a unit in
the last place at most. -/
theorem packs_roundWithAccuracy (hbits : 2 ≤ spec.exponentBits) (s : Sign) (accuracy : Accuracy)
    (hle : e ≤ spec.targetExponent (totalExponent m e)) (hlow : m * 2 ^ e ≤ x)
    (hhigh : x < (m + 1) * 2 ^ e) (hfits : Fits spec x) :
    Packs spec (roundWithAccuracy spec s m e accuracy) (factor s * x) := by
  obtain ⟨t, ht⟩ : ∃ t, spec.targetExponent (totalExponent m e) = t := ⟨_, rfl⟩
  rw [ht] at hle
  obtain ⟨r, hdown, hup, hr, heq⟩ := roundWithAccuracy_eq s accuracy ht hle
  obtain ⟨hfrom, hto⟩ := between_div hle hlow hhigh
  have hnonneg : 0 ≤ x := le_trans (by positivity) hlow
  have hminExponent := minExponent_eq spec
  have hbias := exponentBias_pos hbits
  rw [Fits, abs_of_nonneg hnonneg] at hfits
  rw [heq]
  refine ⟨factor s * (r * 2 ^ t), ?_⟩
  have hulp : |r * 2 ^ t - x| ≤ 2 ^ t := by
    have hdown' : ((m / 2 ^ (t - e).toNat : Nat) : ℚ) * 2 ^ t ≤ r * 2 ^ t :=
      mul_le_mul_of_nonneg_right (by exact_mod_cast hdown) (by positivity)
    have hup' : (r : ℚ) * 2 ^ t ≤ ((m / 2 ^ (t - e).toNat : Nat) + 1) * 2 ^ t :=
      mul_le_mul_of_nonneg_right (by exact_mod_cast hup) (by positivity)
    rw [abs_le]
    constructor <;> linarith
  rcases target_cases ht hle with rfl | ⟨hlog, hmin, hm⟩
  · refine ⟨number?_carry hr le_rfl (by omega) (.inr rfl), Rounds.factor_mul (hulp.trans ?_) s⟩
    exact le_add_of_nonneg_left (by positivity)
  · have hpow : (2 : ℚ) ^ t * 2 ^ spec.mantissaBitsWithoutImplicit ≤ x := by
      have hself : ((2 ^ m.log2 : Nat) : ℚ) ≤ m := by exact_mod_cast Nat.log2_self_le hm
      calc (2 : ℚ) ^ t * 2 ^ spec.mantissaBitsWithoutImplicit
          = (2 ^ m.log2 : Nat) * 2 ^ e := by
            rw [← zpow_natCast, ← zpow_add₀ two_ne_zero, hlog, zpow_add₀ two_ne_zero]
            push_cast
            rw [zpow_natCast]
        _ ≤ m * 2 ^ e := mul_le_mul_of_nonneg_right hself (by positivity)
        _ ≤ x := hlow
    have hmax : t + spec.mantissaBitsWithoutImplicit ≤ (spec.exponentBias : Int) - 1 := by
      rw [← zpow_natCast, ← zpow_add₀ two_ne_zero] at hpow
      exact (zpow_le_zpow_iff_right₀ one_lt_two).mp (hpow.trans hfits)
    have hfull : 2 ^ spec.mantissaBitsWithoutImplicit ≤ m / 2 ^ (t - e).toNat := by
      rw [Nat.le_div_iff_mul_le (Nat.two_pow_pos _), ← Nat.pow_add]
      refine le_trans (Nat.pow_le_pow_right Nat.two_pos ?_) (Nat.log2_self_le hm)
      omega
    refine ⟨number?_carry hr hmin.le (by omega) (.inl (hfull.trans hdown)),
      Rounds.factor_mul (hulp.trans ?_) s⟩
    rw [abs_of_nonneg hnonneg]
    refine le_add_of_le_of_nonneg ?_ (by positivity)
    rwa [le_div_iff₀ (by positivity)]

theorem packs_zero (s : Sign) : Packs spec (.zero s) 0 :=
  ⟨0, by rw [pack, unpack_packedZero, number?], .refl _ _⟩

theorem packs_finite (h : Canonical spec m e) (hm : 0 < m) :
    Packs spec (.finite s m e hm) (factor s * (m * 2 ^ e)) :=
  ⟨_, number?_pack h hm, .refl _ _⟩

/-- Bits that are put behind the mantissa do not change the number. -/
theorem decreaseExponent_eq (m : Nat) (e t : Int) :
    decreaseExponent m e t = (m * 2 ^ (e - t).toNat, min e t) := by
  rw [decreaseExponent, Nat.shiftLeft_eq]
  congr 1
  omega

theorem mul_pow_eq (hle : t ≤ e) : ((m * 2 ^ (e - t).toNat : Nat) : ℚ) * 2 ^ t = m * 2 ^ e := by
  rw [zpow_eq_mul_pow hle]
  push_cast
  ring

theorem apply_mul_pow (s : Sign) (hle : t ≤ e) :
    ((s.apply (m * 2 ^ (e - t).toNat : Nat) : Int) : ℚ) * 2 ^ t = factor s * (m * 2 ^ e) := by
  rw [cast_apply, mul_assoc, mul_pow_eq hle]

theorem totalExponent_mul_pow (hm : m ≠ 0) (k : Nat) (e : Int) :
    totalExponent (m * 2 ^ k) (e - k) = totalExponent m e := by
  have hlog : (m * 2 ^ k).log2 = m.log2 + k := by
    obtain ⟨hge, hlt⟩ := (Nat.log2_eq_iff hm).mp rfl
    rw [Nat.log2_eq_iff (Nat.mul_ne_zero hm (Nat.two_pow_pos k).ne'), Nat.pow_add, Nat.add_right_comm,
      Nat.pow_add]
    exact ⟨Nat.mul_le_mul_right _ hge, Nat.mul_lt_mul_of_pos_right hlt (Nat.two_pow_pos k)⟩
  rw [totalExponent, totalExponent, hlog]
  push_cast
  ring

theorem packs_round (hbits : 2 ≤ spec.exponentBits) (s : Sign) (hm : m ≠ 0)
    (hfits : Fits spec (m * 2 ^ e)) :
    Packs spec (UnpackedFloat.round spec s m e) (factor s * (m * 2 ^ e)) := by
  obtain ⟨t, ht⟩ : ∃ t, spec.targetExponent (totalExponent m e) = t := ⟨_, rfl⟩
  have hpow : ((m * 2 ^ (e - t).toNat : Nat) : ℚ) * 2 ^ min e t = m * 2 ^ e := by
    rcases le_total t e with hle | hle
    · rw [min_eq_right hle, mul_pow_eq hle]
    · rw [min_eq_left hle, Int.toNat_of_nonpos (by omega), Nat.pow_zero, Nat.mul_one]
  have hexponent : min e t = e - (e - t).toNat := by omega
  rw [UnpackedFloat.round, ht, decreaseExponent_eq]
  refine packs_roundWithAccuracy hbits s .exact ?_ hpow.le ?_ hfits
  · rw [hexponent, totalExponent_mul_pow hm, ht]
    omega
  · rw [← hpow]
    exact mul_lt_mul_of_pos_right (lt_add_one _) (by positivity)

theorem packs_normalize (hbits : 2 ≤ spec.exponentBits) (n : Int) (e : Int) (s : Sign)
    (hfits : Fits spec (n * 2 ^ e)) :
    Packs spec (UnpackedFloat.normalize spec n e s) (n * 2 ^ e) := by
  rw [UnpackedFloat.normalize]
  rcases lt_trichotomy n 0 with hneg | rfl | hpos
  · obtain ⟨k, rfl⟩ : ∃ k : Nat, n = -(k : Int) := ⟨n.natAbs, by omega⟩
    rw [compare_lt_iff_lt.mpr hneg]
    have hround := packs_round hbits .negative (show k ≠ 0 by omega) (e := e)
      (by simpa [Fits, abs_mul] using hfits)
    simpa [factor] using hround
  · rw [compare_eq_iff_eq.mpr rfl, Int.cast_zero, zero_mul]
    exact packs_zero s
  · obtain ⟨k, rfl⟩ : ∃ k : Nat, n = (k : Int) := ⟨n.natAbs, by omega⟩
    rw [compare_gt_iff_gt.mpr hpos]
    have hround := packs_round hbits .positive (show k ≠ 0 by omega) (e := e)
      (by simpa [Fits, abs_mul] using hfits)
    simpa [factor] using hround

/-! ### The four operations -/

variable {a b : BitVec spec.numBits} {p q : ℚ}

/-- What an unpacked number is. -/
theorem number?_cases (hbits : 2 ≤ spec.exponentBits)
    (h : number? (unpack spec a) = some p) :
    (∃ s, unpack spec a = .zero s ∧ p = 0) ∨
      ∃ s m e hm, unpack spec a = .finite s m e hm ∧ Canonical spec m e ∧
        p = factor s * (m * 2 ^ e) := by
  cases hu : unpack spec a with
  | notANumber => simp [hu, number?] at h
  | infinity s => simp [hu, number?] at h
  | zero s =>
    rw [hu, number?] at h
    exact Or.inl ⟨s, rfl, (Option.some.inj h).symm⟩
  | finite s m e hm =>
    rw [hu, number?] at h
    exact Or.inr ⟨s, m, e, hm, rfl, canonical_of_unpack hbits hu, (Option.some.inj h).symm⟩

theorem packs_add (hbits : 2 ≤ spec.exponentBits) (ha : number? (unpack spec a) = some p)
    (hb : number? (unpack spec b) = some q) (hfits : Fits spec (p + q)) :
    Packs spec (add spec (unpack spec a) (unpack spec b)) (p + q) := by
  rcases number?_cases hbits ha with ⟨s, hu, rfl⟩ | ⟨s, m, e, hm, hu, hcanonical, rfl⟩ <;>
    rcases number?_cases hbits hb with ⟨s', hv, rfl⟩ | ⟨s', m', e', hm', hv, hcanonical', rfl⟩ <;>
    rw [hu, hv]
  · rw [add, add_zero]
    split_ifs <;> exact packs_zero _
  · simp only [add, zero_add]
    exact packs_finite hcanonical' hm'
  · simp only [add, add_zero]
    exact packs_finite hcanonical hm
  · have hsum : ((s.apply (m * 2 ^ (e - min e e').toNat : Nat) +
        s'.apply (m' * 2 ^ (e' - min e e').toNat : Nat) : Int) : ℚ) * 2 ^ min e e' =
          factor s * (m * 2 ^ e) + factor s' * (m' * 2 ^ e') := by
      rw [Int.cast_add, add_mul, apply_mul_pow s (min_le_left e e'), apply_mul_pow s' (min_le_right e e')]
    rw [add, decreaseExponent_eq, decreaseExponent_eq]
    rw [← hsum] at hfits ⊢
    exact packs_normalize hbits _ _ _ hfits

theorem packs_sub (hbits : 2 ≤ spec.exponentBits) (ha : number? (unpack spec a) = some p)
    (hb : number? (unpack spec b) = some q) (hfits : Fits spec (p - q)) :
    Packs spec (sub spec (unpack spec a) (unpack spec b)) (p - q) := by
  rcases number?_cases hbits ha with ⟨s, hu, rfl⟩ | ⟨s, m, e, hm, hu, hcanonical, rfl⟩ <;>
    rcases number?_cases hbits hb with ⟨s', hv, rfl⟩ | ⟨s', m', e', hm', hv, hcanonical', rfl⟩ <;>
    rw [hu, hv]
  · rw [sub, sub_zero]
    split_ifs <;> exact packs_zero _
  · simp only [sub, zero_sub, ← neg_mul, ← factor_neg]
    exact packs_finite hcanonical' hm'
  · simp only [sub, sub_zero]
    exact packs_finite hcanonical hm
  · have hdifference : ((s.apply (m * 2 ^ (e - min e e').toNat : Nat) -
        s'.apply (m' * 2 ^ (e' - min e e').toNat : Nat) : Int) : ℚ) * 2 ^ min e e' =
          factor s * (m * 2 ^ e) - factor s' * (m' * 2 ^ e') := by
      rw [Int.cast_sub, sub_mul, apply_mul_pow s (min_le_left e e'), apply_mul_pow s' (min_le_right e e')]
    rw [sub, decreaseExponent_eq, decreaseExponent_eq]
    rw [← hdifference] at hfits ⊢
    exact packs_normalize hbits _ _ _ hfits

/-- The product of two mantissas has bits enough, unless both of them are of the smallest exponent. -/
theorem le_target_mul {m' : Nat} {e' : Int} (hbits : 2 ≤ spec.exponentBits) (h : Canonical spec m e)
    (h' : Canonical spec m' e') (hm : 0 < m) (hm' : 0 < m') :
    e + e' ≤ spec.targetExponent (totalExponent (m * m') (e + e')) := by
  have hmin := minExponent_eq spec
  have hbias := exponentBias_pos hbits
  rw [Format.targetExponent, totalExponent, Format.mantissaBits]
  suffices hlog : spec.mantissaBitsWithoutImplicit ≤ (m * m').log2 ∨ e + e' ≤ spec.minExponent by omega
  rcases h.full with hfull | rfl
  · exact Or.inl ((Nat.le_log2 (Nat.mul_pos hm hm').ne').mpr (hfull.trans (Nat.le_mul_of_pos_right m hm')))
  · rcases h'.full with hfull' | rfl
    · exact Or.inl ((Nat.le_log2 (Nat.mul_pos hm hm').ne').mpr
        (hfull'.trans (Nat.le_mul_of_pos_left m' hm)))
    · exact Or.inr (by omega)

theorem packs_mul (hbits : 2 ≤ spec.exponentBits) (ha : number? (unpack spec a) = some p)
    (hb : number? (unpack spec b) = some q) (hfits : Fits spec (p * q)) :
    Packs spec (mul spec (unpack spec a) (unpack spec b)) (p * q) := by
  rcases number?_cases hbits ha with ⟨s, hu, rfl⟩ | ⟨s, m, e, hm, hu, hcanonical, rfl⟩ <;>
    rcases number?_cases hbits hb with ⟨s', hv, rfl⟩ | ⟨s', m', e', hm', hv, hcanonical', rfl⟩ <;>
    rw [hu, hv]
  · rw [mul, mul_zero]
    exact packs_zero _
  · rw [mul, zero_mul]
    exact packs_zero _
  · rw [mul, mul_zero]
    exact packs_zero _
  · have hproduct : factor s * (m * 2 ^ e) * (factor s' * (m' * 2 ^ e')) =
        factor (s * s') * ((m * m' : Nat) * 2 ^ (e + e')) := by
      rw [factor_mul, zpow_add₀ two_ne_zero]
      push_cast
      ring
    rw [mul, hproduct]
    refine packs_roundWithAccuracy hbits _ .exact (le_target_mul hbits hcanonical hcanonical' hm hm') le_rfl
      (mul_lt_mul_of_pos_right (lt_add_one _) (by positivity)) ?_
    rwa [hproduct, Fits, abs_mul, abs_factor, one_mul] at hfits

/-- The quotient of two mantissas, with the exponent it belongs to. -/
theorem quotient_bounds {m' : Nat} {e' : Int} (hm' : 0 < m') (hle : t ≤ e - e') :
    ((m * 2 ^ (e - e' - t).toNat / m' : Nat) : ℚ) * 2 ^ t ≤ m * 2 ^ e / (m' * 2 ^ e') ∧
      (m : ℚ) * 2 ^ e / (m' * 2 ^ e') < ((m * 2 ^ (e - e' - t).toNat / m' : Nat) + 1) * 2 ^ t := by
  have hpos : (0 : ℚ) < m' := by exact_mod_cast hm'
  have hquotient : (m : ℚ) * 2 ^ e / (m' * 2 ^ e') = (m * 2 ^ (e - e' - t).toNat : Nat) * 2 ^ t / m' := by
    rw [mul_pow_eq hle, zpow_sub₀ two_ne_zero]
    field_simp
  obtain ⟨n, hn⟩ : ∃ n, m * 2 ^ (e - e' - t).toNat = n := ⟨_, rfl⟩
  have hdown : ((n / m' : Nat) : ℚ) * m' ≤ n := by exact_mod_cast Nat.div_mul_le_self n m'
  have hup : (n : ℚ) < ((n / m' : Nat) + 1) * m' := by
    exact_mod_cast Nat.lt_mul_of_div_lt (Nat.lt_succ_self _) hm'
  rw [hquotient, hn, le_div_iff₀ hpos, div_lt_iff₀ hpos, mul_right_comm, mul_right_comm _ _ (m' : ℚ)]
  exact ⟨mul_le_mul_of_nonneg_right hdown (by positivity),
    mul_lt_mul_of_pos_right hup (by positivity)⟩

/-- The quotient has bits enough: the first mantissa is made long enough before it is divided. -/
theorem le_target_div {m' : Nat} {e' : Int} (hm : m ≠ 0) (hm' : 0 < m')
    (hle : t ≤ e - e') (ht : t ≤ spec.targetExponent (totalExponent m e - totalExponent m' e')) :
    t ≤ spec.targetExponent (totalExponent (m * 2 ^ (e - e' - t).toNat / m') t) := by
  have hbits := spec.hm
  rw [Format.targetExponent, totalExponent, totalExponent, Format.mantissaBits] at ht
  rw [Format.targetExponent, totalExponent, Format.mantissaBits]
  rcases Int.lt_or_le spec.minExponent t with hlt | hge
  · have hlog : spec.mantissaBitsWithoutImplicit ≤ (m * 2 ^ (e - e' - t).toNat / m').log2 := by
      have hfull : 2 ^ spec.mantissaBitsWithoutImplicit ≤ m * 2 ^ (e - e' - t).toNat / m' := by
        rw [Nat.le_div_iff_mul_le hm']
        calc 2 ^ spec.mantissaBitsWithoutImplicit * m'
            ≤ 2 ^ spec.mantissaBitsWithoutImplicit * 2 ^ (m'.log2 + 1) :=
              Nat.mul_le_mul_left _ Nat.lt_log2_self.le
          _ = 2 ^ (spec.mantissaBitsWithoutImplicit + (m'.log2 + 1)) := (Nat.pow_add _ _ _).symm
          _ ≤ 2 ^ (m.log2 + (e - e' - t).toNat) := Nat.pow_le_pow_right Nat.two_pos (by omega)
          _ = 2 ^ m.log2 * 2 ^ (e - e' - t).toNat := Nat.pow_add _ _ _
          _ ≤ m * 2 ^ (e - e' - t).toNat := Nat.mul_le_mul_right _ (Nat.log2_self_le hm)
      have hpos := Nat.two_pow_pos spec.mantissaBitsWithoutImplicit
      exact (Nat.le_log2 (by omega)).mpr hfull
    omega
  · omega

theorem packs_div (hbits : 2 ≤ spec.exponentBits) (ha : number? (unpack spec a) = some p)
    (hb : number? (unpack spec b) = some q) (hq : q ≠ 0) (hfits : Fits spec (p / q)) :
    Packs spec (div spec (unpack spec a) (unpack spec b)) (p / q) := by
  rcases number?_cases hbits hb with ⟨s', hv, rfl⟩ | ⟨s', m', e', hm', hv, hcanonical', rfl⟩
  · exact absurd rfl hq
  rcases number?_cases hbits ha with ⟨s, hu, rfl⟩ | ⟨s, m, e, hm, hu, hcanonical, rfl⟩ <;>
    rw [hu, hv]
  · rw [div, zero_div]
    exact packs_zero _
  · obtain ⟨t, ht⟩ : ∃ t, min (e - e') (spec.targetExponent (totalExponent m e - totalExponent m' e')) =
        t := ⟨_, rfl⟩
    have hle : t ≤ e - e' := ht ▸ min_le_left _ _
    have hquotient : factor s * (m * 2 ^ e) / (factor s' * (m' * 2 ^ e')) =
        factor (s / s') * (m * 2 ^ e / (m' * 2 ^ e')) := by
      rw [factor_div, mul_div_mul_comm]
    obtain ⟨hlow, hhigh⟩ := quotient_bounds hm' hle
    simp only [div, divCore, ht, Nat.shiftLeft_eq]
    rw [hquotient]
    refine packs_roundWithAccuracy hbits _ _ ?_ hlow hhigh ?_
    · exact le_target_div hm.ne' hm' hle (ht ▸ min_le_right _ _)
    · rwa [hquotient, Fits, abs_mul, abs_factor, one_mul] at hfits

end Numbers

/-! ## `Float` -/

/-- The number that a `Float` is, unless it is infinite or none. -/
def toRat? (x : Float) : Option ℚ := number? x.toModel.unpack

section Operations

variable {x y : Float} {p q : ℚ}

/-- A number of the format binary64 that is `p` up to a unit in the last place. -/
def Approximates (x : Float) (p : ℚ) : Prop := ∃ r, toRat? x = some r ∧ Rounds .binary64 p r

theorem approximates_of_packs {u : UnpackedFloat} (h : Packs .binary64 u p) :
    Approximates (.ofModel (.pack u)) p := h

/-- **Addition.** -/
theorem approximates_add (hx : toRat? x = some p) (hy : toRat? y = some q)
    (hfits : Fits .binary64 (p + q)) : Approximates (x + y) (p + q) :=
  approximates_of_packs (packs_add (by decide) hx hy hfits)

theorem approximates_sub (hx : toRat? x = some p) (hy : toRat? y = some q)
    (hfits : Fits .binary64 (p - q)) : Approximates (x - y) (p - q) :=
  approximates_of_packs (packs_sub (by decide) hx hy hfits)

theorem approximates_mul (hx : toRat? x = some p) (hy : toRat? y = some q)
    (hfits : Fits .binary64 (p * q)) : Approximates (x * y) (p * q) :=
  approximates_of_packs (packs_mul (by decide) hx hy hfits)

theorem approximates_div (hx : toRat? x = some p) (hy : toRat? y = some q) (hq : q ≠ 0)
    (hfits : Fits .binary64 (p / q)) : Approximates (x / y) (p / q) :=
  approximates_of_packs (packs_div (by decide) hx hy hq hfits)

end Operations

end Float64
