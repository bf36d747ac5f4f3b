import Mathlib.Data.Nat.Digits.Lemmas

/-!
# Decimal numerals in ASCII

`signed i` is the decimal text of `i`: its digits without leading zeros, `0` for zero, and a
minus sign in front of a negative number. `signed?` reads such a text back and accepts nothing
else.

`places` writes a number place by place, from the highest, and leaves out the zeros in front. It
finds the digits of the number if there are enough places for it (`places_false`).
-/

namespace Decimal

/-! ## Place by place -/

/-- The digits in the lowest `k` places of `n`; before the first digit, zeros are left out. -/
def places (b : Nat) (started : Bool) : Nat → Nat → List Nat
  | 0, _ => []
  | k + 1, n =>
    if 0 < n / b ^ k ∨ started then n / b ^ k :: places b true k (n % b ^ k)
    else places b false k (n % b ^ k)

section Places

variable {b k n : Nat}

/-- Behind the first digit no place is left out. -/
theorem places_true (hb : 1 < b) (h : n < b ^ k) :
    places b true k n = (Nat.digits b n ++ List.replicate (k - (Nat.digits b n).length) 0).reverse := by
  induction k generalizing n with
  | zero =>
    obtain rfl : n = 0 := by simpa using h
    simp [places]
  | succ k ih =>
    have hpos : 0 < b ^ k := Nat.pow_pos (by omega)
    have hmod : n % b ^ k < b ^ k := Nat.mod_lt n hpos
    have hlength : (Nat.digits b (n % b ^ k)).length ≤ k :=
      (Nat.digits_length_le_iff hb _).mpr hmod
    rw [places, if_pos (Or.inr rfl), ih hmod]
    rcases Nat.eq_zero_or_pos (n / b ^ k) with hzero | hdigit
    · have hsmall : n < b ^ k := (Nat.div_eq_zero_iff_lt hpos).mp hzero
      rw [Nat.mod_eq_of_lt hsmall] at hlength ⊢
      rw [hzero, Nat.succ_sub hlength, List.replicate_succ']
      simp
    · -- the highest digit is followed by exactly `k` places
      have hdigits : Nat.digits b n = Nat.digits b (n % b ^ k) ++
          List.replicate (k - (Nat.digits b (n % b ^ k)).length) 0 ++ [n / b ^ k] := by
        have hlt : n / b ^ k < b := by
          rw [Nat.div_lt_iff_lt_mul hpos, Nat.mul_comm]
          exact h
        rw [← Nat.digits_of_lt b _ hdigit.ne' hlt, Nat.digits_append_zeroes_append_digits hb hdigit,
          Nat.add_sub_of_le hlength, Nat.mod_add_div]
      have hfull : k + 1 - (Nat.digits b n).length = 0 := by
        rw [hdigits]
        simp
        omega
      rw [hfull, hdigits]
      simp

/-- With enough places, what is written are the digits of the number. -/
theorem places_false (hb : 1 < b) (h : n < b ^ k) :
    places b false k n = (Nat.digits b n).reverse := by
  induction k generalizing n with
  | zero =>
    obtain rfl : n = 0 := by simpa using h
    simp [places]
  | succ k ih =>
    have hpos : 0 < b ^ k := Nat.pow_pos (by omega)
    rcases Nat.eq_zero_or_pos (n / b ^ k) with hzero | hdigit
    · have hsmall : n < b ^ k := (Nat.div_eq_zero_iff_lt hpos).mp hzero
      rw [places, if_neg (by simp [hzero]), Nat.mod_eq_of_lt hsmall, ih hsmall]
    · have hfull : k + 1 - (Nat.digits b n).length = 0 := by
        have hge : b ^ k ≤ n := by
          by_contra hlt
          rw [Nat.div_eq_of_lt (by omega)] at hdigit
          exact absurd hdigit (by omega)
        have := (Nat.lt_digits_length_iff hb n).mpr hge
        omega
      have htrue := places_true hb h
      rw [hfull] at htrue
      rw [places, if_pos (Or.inl hdigit), ← List.append_nil (Nat.digits b n),
        ← List.replicate_zero (a := 0), ← htrue, places, if_pos (Or.inr rfl)]

end Places

/-! ## Numerals -/

/-- The ASCII code of a digit. -/
def digit (d : Nat) : UInt8 := UInt8.ofNat (48 + d)

/-- The digit an ASCII code stands for. -/
def digit? (b : UInt8) : Option Nat :=
  if 48 ≤ b.toNat ∧ b.toNat ≤ 57 then some (b.toNat - 48) else none

/-- The ASCII code of `-`. -/
def minus : UInt8 := 45

theorem toNat_digit {d : Nat} (h : d < 10) : (digit d).toNat = 48 + d := by
  rw [digit, UInt8.toNat_ofNat']
  omega

/-- The code of a digit is read as that digit. -/
theorem digit?_digit {d : Nat} (h : d < 10) : digit? (digit d) = some d := by
  rw [digit?, toNat_digit h, if_pos (by omega)]
  simp

/-- The decimal text of a natural number. -/
def numeral (n : Nat) : List UInt8 :=
  if n = 0 then [digit 0] else (Nat.digits 10 n).reverse.map digit

/-- The decimal text of an integer. -/
def signed (i : Int) : List UInt8 :=
  if i < 0 then minus :: numeral i.natAbs else numeral i.natAbs

theorem numeral_of_pos {n : Nat} (h : 0 < n) : numeral n = (Nat.digits 10 n).reverse.map digit :=
  if_neg h.ne'

/-- A numeral consists of digits. -/
theorem numeral_eq_map (n : Nat) : ∃ ds : List Nat, numeral n = ds.map digit ∧ ds ≠ [] ∧
    (∀ d ∈ ds, d < 10) ∧ (1 < ds.length → ds.head? ≠ some 0) ∧ Nat.ofDigits 10 ds.reverse = n := by
  rcases Nat.eq_zero_or_pos n with rfl | hn
  · exact ⟨[0], by simp [numeral]⟩
  · refine ⟨(Nat.digits 10 n).reverse, numeral_of_pos hn, ?_, ?_, ?_, ?_⟩
    · simpa [Nat.digits_eq_nil_iff_eq_zero] using hn.ne'
    · intro d hd
      exact Nat.digits_lt_base (by norm_num) (List.mem_reverse.mp hd)
    · intro _
      rw [List.head?_reverse, List.getLast?_eq_some_getLast (Nat.digits_ne_nil_iff_ne_zero.mpr hn.ne')]
      simpa using Nat.getLast_digit_ne_zero 10 hn.ne'
    · rw [List.reverse_reverse, Nat.ofDigits_digits]

theorem mem_numeral {n : Nat} {b : UInt8} (h : b ∈ numeral n) : 48 ≤ b.toNat ∧ b.toNat ≤ 57 := by
  obtain ⟨ds, heq, _, hlt, _, _⟩ := numeral_eq_map n
  rw [heq] at h
  obtain ⟨d, hd, rfl⟩ := List.mem_map.mp h
  have := hlt d hd
  rw [toNat_digit this]
  omega

/-- A number below `10 ^ k` has at most `k` digits, and one from there on has more. -/
theorem length_numeral_le {n k : Nat} (hk : 0 < k) (h : n < 10 ^ k) : (numeral n).length ≤ k := by
  rcases Nat.eq_zero_or_pos n with rfl | hn
  · simp [numeral]
    omega
  · rw [numeral_of_pos hn]
    simpa using (Nat.digits_length_le_iff (by norm_num) n).mpr h

theorem length_numeral_pos (n : Nat) : 0 < (numeral n).length := by
  obtain ⟨ds, heq, hne, _⟩ := numeral_eq_map n
  rw [heq, List.length_map]
  exact List.length_pos_of_ne_nil hne

theorem lt_length_numeral {n k : Nat} (h : 10 ^ k ≤ n) : k < (numeral n).length := by
  have hn : 0 < n := Nat.lt_of_lt_of_le (by positivity) h
  rw [numeral_of_pos hn]
  simpa using (Nat.lt_digits_length_iff (by norm_num) n).mpr h

theorem exists_cons_signed (i : Int) : ∃ c cs, signed i = c :: cs := by
  rw [signed]
  split
  · exact ⟨minus, _, rfl⟩
  · exact List.exists_cons_of_length_pos (length_numeral_pos _)

theorem length_signed_le {i : Int} {k : Nat} (hk : 0 < k) (h : i.natAbs < 10 ^ k) :
    (signed i).length ≤ k + 1 := by
  have hlength := length_numeral_le hk h
  rw [signed]
  split
  · rw [List.length_cons]
    omega
  · omega

/-- There is nothing but digits in the text of an integer, and a minus. -/
theorem mem_signed {i : Int} {b : UInt8} (h : b ∈ signed i) :
    b = minus ∨ (48 ≤ b.toNat ∧ b.toNat ≤ 57) := by
  rw [signed] at h
  split at h
  · rcases List.mem_cons.mp h with rfl | h
    · exact Or.inl rfl
    · exact Or.inr (mem_numeral h)
  · exact Or.inr (mem_numeral h)

/-! ## Reading numerals -/

/-- The number a numeral stands for; leading zeros are not accepted. -/
def numeral? (bs : List UInt8) : Option Nat :=
  match bs.mapM digit? with
  | some ds =>
    if ds ≠ [] ∧ (1 < ds.length → ds.head? ≠ some 0) then some (Nat.ofDigits 10 ds.reverse) else none
  | none => none

/-- The integer a signed numeral stands for; `-0` is not accepted. -/
def signed? : List UInt8 → Option Int
  | [] => none
  | b :: bs =>
    if b = minus then
      match numeral? bs with
      | some (n + 1) => some (-(n + 1 : Nat))
      | _ => none
    else (numeral? (b :: bs)).map fun n => (n : Int)

/-- Codes of digits are read one by one. -/
theorem mapM_digit? {ds : List Nat} (h : ∀ d ∈ ds, d < 10) :
    (ds.map digit).mapM digit? = some ds := by
  induction ds with
  | nil => rfl
  | cons d ds ih =>
    rw [List.map_cons, List.mapM_cons, digit?_digit (h d (by simp)),
      ih (fun d' hd' => h d' (by simp [hd']))]
    rfl

theorem filterMap_digit? {ds : List Nat} (h : ∀ d ∈ ds, d < 10) :
    (ds.map digit).filterMap digit? = ds := by
  induction ds with
  | nil => rfl
  | cons d ds ih =>
    rw [List.map_cons, List.filterMap_cons_some (digit?_digit (h d List.mem_cons_self)),
      ih fun d' hd' => h d' (List.mem_cons_of_mem d hd')]

/-- Reading the decimal text of a natural number gives the number back. -/
theorem numeral?_numeral (n : Nat) : numeral? (numeral n) = some n := by
  obtain ⟨ds, heq, hne, hlt, hhead, hvalue⟩ := numeral_eq_map n
  rw [numeral?, heq, mapM_digit? hlt]
  simp only
  rw [if_pos ⟨hne, hhead⟩, hvalue]

/-- **Reading the decimal text of an integer gives the integer back.** -/
theorem signed?_signed (i : Int) : signed? (signed i) = some i := by
  rcases lt_or_ge i 0 with hneg | hnonneg
  · obtain ⟨n, rfl⟩ := Int.exists_eq_neg_ofNat hneg.le
    obtain ⟨n, rfl⟩ := Nat.exists_eq_add_one_of_ne_zero (show n ≠ 0 by rintro rfl; simp at hneg)
    rw [signed, if_pos hneg, Int.natAbs_neg, Int.natAbs_natCast, signed?, if_pos rfl,
      numeral?_numeral]
  · obtain ⟨n, rfl⟩ := Int.eq_ofNat_of_zero_le hnonneg
    rw [signed, if_neg (by omega), Int.natAbs_natCast]
    rcases hb : numeral n with _ | ⟨b, bs⟩
    · exact absurd (length_numeral_pos n) (by simp [hb])
    · have hmem := mem_numeral (n := n) (b := b) (by simp [hb])
      rw [signed?, if_neg (by rintro rfl; simp [minus] at hmem), ← hb, numeral?_numeral]
      rfl

/-- No two integers have the same text. -/
theorem signed_injective : Function.Injective signed := fun i j h => by
  have hi := signed?_signed i
  rw [h, signed?_signed] at hi
  exact (Option.some.inj hi).symm

end Decimal
