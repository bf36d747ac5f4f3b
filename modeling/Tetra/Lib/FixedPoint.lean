import Mathlib.Algebra.Order.Floor.Ring
import Mathlib.Algebra.Order.Field.Rat
import Mathlib.Data.Rat.Floor

/-!
# Decimals with a fixed number of places

`format k x` is the text that `%.kf` makes of `x`: a sign if it is negative, the whole part, a point
and `k` places behind it. `value` reads the number back that stands at the front of a text, as `atof`
does; an exponent is not looked for, since `format` writes none.

`value_format` is the round trip, for the multiples of `10 ^ (-k)`.
-/

namespace FixedPoint

/-! ## Writing -/

/-- The nearest integer, and of two that are as near the even one. -/
def roundEven (x : ℚ) : Int :=
  if x - ⌊x⌋ < 1 / 2 then ⌊x⌋
  else if 1 / 2 < x - ⌊x⌋ then ⌊x⌋ + 1
  else if ⌊x⌋ % 2 = 0 then ⌊x⌋ else ⌊x⌋ + 1

/-- The digits of `n` behind as many zeros as are missing to `k` places. -/
def padded (k n : Nat) : List Char :=
  List.replicate (k - (Nat.toDigits 10 n).length) '0' ++ Nat.toDigits 10 n

/-- The digits of `n / 10 ^ k` with `k` places behind the point. -/
def magnitude (k n : Nat) : List Char :=
  Nat.toDigits 10 (n / 10 ^ k) ++ '.' :: padded k (n % 10 ^ k)

/-- The text of `n / 10 ^ k`, or of its negative. -/
def text (k : Nat) (negative : Bool) (n : Nat) : List Char :=
  if negative then '-' :: magnitude k n else magnitude k n

/-- `%.kf`, for at least one place. The sign is that of `x`, also where nothing else of it is left. -/
def format (k : Nat) (x : ℚ) : List Char := text k (x < 0) (roundEven (x * 10 ^ k)).natAbs

/-! ## Reading -/

/-- The number without a sign that a text begins with. -/
def unsigned (cs : List Char) : ℚ :=
  let whole := cs.takeWhile Char.isDigit
  let fraction :=
    match cs.dropWhile Char.isDigit with
    | '.' :: cs => cs.takeWhile Char.isDigit
    | _ => []
  (Nat.ofDigitChars 10 (whole ++ fraction) 0 : ℚ) / 10 ^ fraction.length

/-- The number that a text begins with, behind white space and a sign; 0 if there is none. -/
def value (cs : List Char) : ℚ :=
  match cs.dropWhile Char.isWhitespace with
  | '-' :: cs => -unsigned cs
  | '+' :: cs => unsigned cs
  | cs => unsigned cs

/-! ## The round trip -/

section Padded

variable {k n : Nat}

theorem length_padded (hk : 0 < k) (h : n < 10 ^ k) : (padded k n).length = k := by
  have hle : (Nat.toDigits 10 n).length ≤ k := (Nat.length_toDigits_le_iff (by omega) hk).mpr h
  rw [padded, List.length_append, List.length_replicate]
  omega

theorem isDigit_of_mem_padded {c : Char} (h : c ∈ padded k n) : c.isDigit := by
  rcases List.mem_append.mp h with hzero | hdigit
  · rw [List.eq_of_mem_replicate hzero]
    rfl
  · exact Nat.isDigit_of_mem_toDigits (by omega) (by omega) hdigit

theorem ofDigitChars_padded (start : Nat) (hk : 0 < k) (h : n < 10 ^ k) :
    Nat.ofDigitChars 10 (padded k n) start = 10 ^ k * start + n := by
  have hlength := length_padded hk h
  rw [Nat.ofDigitChars_eq_ofDigitChars_zero, hlength, padded, Nat.ofDigitChars_append,
    Nat.ofDigitChars_replicate_zero, Nat.mul_zero, Nat.ofDigitChars_ten_toDigits]

end Padded

/-- A text that does not begin with a digit. -/
def Stops (cs : List Char) : Prop := ∀ c ∈ cs.head?, c.isDigit = false

theorem takeWhile_isDigit (ds cs : List Char) (hds : ∀ d ∈ ds, d.isDigit) (hcs : Stops cs) :
    (ds ++ cs).takeWhile Char.isDigit = ds ∧ (ds ++ cs).dropWhile Char.isDigit = cs := by
  have htake : cs.takeWhile Char.isDigit = [] ∧ cs.dropWhile Char.isDigit = cs := by
    cases cs with
    | nil => exact ⟨rfl, rfl⟩
    | cons c cs =>
      have hc : c.isDigit = false := hcs c rfl
      exact ⟨by simp [hc], by simp [hc]⟩
  rw [List.takeWhile_append_of_pos hds, List.dropWhile_append_of_pos hds, htake.1, htake.2,
    List.append_nil]
  exact ⟨rfl, rfl⟩

theorem unsigned_magnitude {k n : Nat} {cs : List Char} (hk : 0 < k) (hcs : Stops cs) :
    unsigned (magnitude k n ++ cs) = n / 10 ^ k := by
  have hpow : 0 < 10 ^ k := Nat.pow_pos (by omega)
  have hmod : n % 10 ^ k < 10 ^ k := Nat.mod_lt n hpow
  have hwhole := takeWhile_isDigit (Nat.toDigits 10 (n / 10 ^ k))
    ('.' :: (padded k (n % 10 ^ k) ++ cs))
    (fun d hd => Nat.isDigit_of_mem_toDigits (by omega) (by omega) hd)
    (fun c hc => by rw [← Option.some.inj hc]; rfl)
  have hfraction := takeWhile_isDigit (padded k (n % 10 ^ k)) cs
    (fun d hd => isDigit_of_mem_padded hd) hcs
  have hsplit : magnitude k n ++ cs =
      Nat.toDigits 10 (n / 10 ^ k) ++ '.' :: (padded k (n % 10 ^ k) ++ cs) := by
    rw [magnitude, List.append_assoc, List.cons_append]
  rw [unsigned, hsplit, hwhole.1, hwhole.2]
  simp only
  rw [hfraction.1, length_padded hk hmod, Nat.ofDigitChars_append, Nat.ofDigitChars_ten_toDigits,
    ofDigitChars_padded _ hk hmod, Nat.div_add_mod]

theorem value_of_isDigit {c : Char} {cs : List Char} (hc : c.isDigit) :
    value (c :: cs) = unsigned (c :: cs) := by
  have hother : ∀ c' : Char, c'.isDigit = false → c ≠ c' := by
    rintro c' hc' rfl
    rw [hc] at hc'
    exact absurd hc' (by simp)
  have hspace : c.isWhitespace = false := by
    simp [Char.isWhitespace, hother ' ' rfl, hother '\t' rfl, hother '\r' rfl, hother '\n' rfl]
  have hdrop : (c :: cs).dropWhile Char.isWhitespace = c :: cs := by
    rw [List.dropWhile_cons, if_neg (by simp [hspace])]
  have hminus := hother '-' rfl
  have hplus := hother '+' rfl
  unfold value
  rw [hdrop]
  split
  · next h => exact absurd (List.cons.inj h).1 hminus
  · next h => exact absurd (List.cons.inj h).1 hplus
  · rfl

theorem value_magnitude {k n : Nat} {cs : List Char} (hk : 0 < k) (hcs : Stops cs) :
    value (magnitude k n ++ cs) = n / 10 ^ k := by
  obtain ⟨c, ds, hdigits⟩ := List.exists_cons_of_ne_nil
    (Nat.toDigits_ne_nil : Nat.toDigits 10 (n / 10 ^ k) ≠ [])
  have hc : c.isDigit := Nat.isDigit_of_mem_toDigits (show 0 < 10 by omega) (show 10 ≤ 10 by omega)
    (show c ∈ Nat.toDigits 10 (n / 10 ^ k) by simp [hdigits])
  have hunsigned := unsigned_magnitude (n := n) hk hcs
  rw [magnitude, hdigits, List.cons_append, List.cons_append] at hunsigned ⊢
  rw [value_of_isDigit hc, hunsigned]

/-- **Reading a text gives the number back that it was written for.** -/
theorem value_text {k : Nat} (negative : Bool) (n : Nat) {cs : List Char} (hk : 0 < k)
    (hcs : Stops cs) :
    value (text k negative n ++ cs) = if negative then -(n / 10 ^ k : ℚ) else n / 10 ^ k := by
  cases negative with
  | false => exact value_magnitude hk hcs
  | true =>
    have hvalue : value ('-' :: (magnitude k n ++ cs)) = -unsigned (magnitude k n ++ cs) := rfl
    rw [text, if_pos rfl, if_pos rfl, List.cons_append, hvalue, unsigned_magnitude hk hcs]

theorem roundEven_intCast (i : Int) : roundEven i = i := by
  have hzero : ((i : ℚ) - ⌊(i : ℚ)⌋) < 1 / 2 := by
    rw [Int.floor_intCast, sub_self]
    exact one_half_pos
  rw [roundEven, if_pos hzero, Int.floor_intCast]

/-- A multiple of `10 ^ (-k)` is written without rounding. -/
theorem format_eq {k : Nat} (i : Int) : format k (i / 10 ^ k) = text k (i < 0) i.natAbs := by
  have hpow : (0 : ℚ) < 10 ^ k := pow_pos (by norm_num) k
  have hsign : ((i : ℚ) / 10 ^ k < 0) ↔ i < 0 := by
    rw [div_lt_iff₀ hpow, zero_mul, Int.cast_lt_zero]
  rw [format, div_mul_cancel₀ _ hpow.ne', roundEven_intCast]
  simp only [hsign]

/-- **The round trip: what is written of a multiple of `10 ^ (-k)` is read as the same number.** -/
theorem value_format {k : Nat} (i : Int) {cs : List Char} (hk : 0 < k) (hcs : Stops cs) :
    value (format k (i / 10 ^ k) ++ cs) = i / 10 ^ k := by
  rw [format_eq, value_text _ _ hk hcs]
  by_cases hneg : i < 0
  · obtain ⟨n, rfl⟩ := Int.exists_eq_neg_ofNat hneg.le
    rw [if_pos (decide_eq_true hneg), Int.natAbs_neg, Int.natAbs_natCast, Int.cast_neg,
      Int.cast_natCast, neg_div]
  · obtain ⟨n, rfl⟩ := Int.eq_ofNat_of_zero_le (show 0 ≤ i by omega)
    rw [if_neg (by simp), Int.natAbs_natCast, Int.cast_natCast]

/-! ## What a text consists of -/

section Text

variable {k m n : Nat} {negative : Bool}

theorem mem_text {c : Char} (h : c ∈ text k negative n) : c = '-' ∨ c = '.' ∨ c.isDigit := by
  have hmagnitude : c ∈ magnitude k n → c = '.' ∨ c.isDigit := by
    intro hc
    rcases List.mem_append.mp hc with hc | hc
    · exact Or.inr (Nat.isDigit_of_mem_toDigits (by omega) (by omega) hc)
    · rcases List.mem_cons.mp hc with rfl | hc
      · exact Or.inl rfl
      · exact Or.inr (isDigit_of_mem_padded hc)
  cases negative with
  | false => exact Or.inr (hmagnitude h)
  | true =>
    rcases List.mem_cons.mp h with rfl | h
    · exact Or.inl rfl
    · exact Or.inr (hmagnitude h)

theorem text_ne_nil (k : Nat) (negative : Bool) (n : Nat) : text k negative n ≠ [] := by
  cases negative <;> simp [text, magnitude]

theorem length_text_le (hk : 0 < k) (hm : 0 < m) (h : n < 10 ^ (m + k)) :
    (text k negative n).length ≤ m + k + 2 := by
  have hpow : 0 < 10 ^ k := Nat.pow_pos (by omega)
  have hwhole : (Nat.toDigits 10 (n / 10 ^ k)).length ≤ m := by
    refine (Nat.length_toDigits_le_iff (by omega) hm).mpr ?_
    rw [Nat.div_lt_iff_lt_mul hpow, ← Nat.pow_add]
    exact h
  have hfraction := length_padded hk (Nat.mod_lt n hpow)
  have hmagnitude : (magnitude k n).length ≤ m + k + 1 := by
    rw [magnitude, List.length_append, List.length_cons, hfraction]
    omega
  unfold text
  split
  · rw [List.length_cons]
    omega
  · omega

end Text

/-- 1/128 is half-way between two texts, and the even one is written. -/
example : format 6 (-1 / 4) = "-0.250000".toList ∧ format 6 (1 / 128) = "0.007812".toList ∧
    format 6 (-1 / 10 ^ 7) = "-0.000000".toList ∧ value " -12.5 \n".toList = -25 / 2 := by
  decide +kernel

end FixedPoint
