import Mathlib.Algebra.Order.Ring.Int
import Mathlib.Data.Nat.Bitwise

/-!
# Numbers as bytes

Big-endian numbers of a fixed number of bytes, without a sign (`unsigned`) or with the first bit as the
sign of the rest (`value`). Zero has two forms with a sign; every other number has one
(`eq_of_value_eq`).

The second half puts such a number together with shifts, masks and `|`.
-/

namespace SignMagnitude

variable {b b' : UInt8} {bs bs' : List UInt8} {k n : Nat} {v : Int}

/-! ## Without a sign -/

/-- The number that the bytes are in base 256, the most significant one first. -/
def unsigned : List UInt8 → Nat
  | [] => 0
  | b :: bs => b.toNat * 256 ^ bs.length + unsigned bs

/-- The `k` lowest bytes of `n`, the most significant one first. -/
def bytes : Nat → Nat → List UInt8
  | 0, _ => []
  | k + 1, n => UInt8.ofNat (n / 256 ^ k) :: bytes k (n % 256 ^ k)

@[simp] theorem length_bytes (k n : Nat) : (bytes k n).length = k := by
  induction k generalizing n with
  | zero => rfl
  | succ k ih => rw [bytes, List.length_cons, ih]

theorem unsigned_lt (bs : List UInt8) : unsigned bs < 256 ^ bs.length := by
  induction bs with
  | nil => exact Nat.one_pos
  | cons b bs ih =>
    calc unsigned (b :: bs) < b.toNat * 256 ^ bs.length + 256 ^ bs.length := Nat.add_lt_add_left ih _
      _ = (b.toNat + 1) * 256 ^ bs.length := by rw [Nat.succ_mul]
      _ ≤ 256 * 256 ^ bs.length := Nat.mul_le_mul_right _ (UInt8.toNat_lt b)
      _ = 256 ^ (b :: bs).length := by rw [List.length_cons, Nat.pow_succ, Nat.mul_comm]

theorem unsigned_bytes (h : n < 256 ^ k) : unsigned (bytes k n) = n := by
  induction k generalizing n with
  | zero => exact (Nat.lt_one_iff.mp h).symm
  | succ k ih =>
    have hhead : n / 256 ^ k < 256 := by
      rw [Nat.div_lt_iff_lt_mul (Nat.pow_pos (by decide)), Nat.mul_comm, ← Nat.pow_succ]
      exact h
    rw [bytes, unsigned, length_bytes, ih (Nat.mod_lt n (Nat.pow_pos (by decide))),
      UInt8.toNat_ofNat_of_lt' hhead, Nat.div_add_mod']

/-- A number and what stands in front of it, both from the sum. -/
theorem split_eq {m q q' r r' : Nat} (hr : r < m) (hr' : r' < m) (h : q * m + r = q' * m + r') :
    q = q' ∧ r = r' := by
  have hm : 0 < m := Nat.zero_lt_of_lt hr
  have hq : (q * m + r) / m = q := by
    rw [Nat.mul_comm, Nat.mul_add_div hm, Nat.div_eq_of_lt hr, Nat.add_zero]
  have hq' : (q' * m + r') / m = q' := by
    rw [Nat.mul_comm, Nat.mul_add_div hm, Nat.div_eq_of_lt hr', Nat.add_zero]
  obtain rfl : q = q' := by rw [← hq, h, hq']
  exact ⟨rfl, Nat.add_left_cancel h⟩

theorem unsigned_inj (hlength : bs.length = bs'.length) (h : unsigned bs = unsigned bs') :
    bs = bs' := by
  induction bs generalizing bs' with
  | nil => exact (List.length_eq_zero_iff.mp hlength.symm).symm
  | cons b bs ih =>
    cases bs' with
    | nil => exact absurd hlength (by simp)
    | cons b' bs' =>
      have htail : bs.length = bs'.length := by simpa using hlength
      rw [unsigned, unsigned, htail] at h
      obtain ⟨hhead, hrest⟩ := split_eq (htail ▸ unsigned_lt bs) (unsigned_lt bs') h
      rw [UInt8.toNat_inj.mp hhead, ih htail hrest]

/-- What is in front of the lowest `k` bytes does not matter to them. -/
theorem bytes_mod (k n : Nat) : bytes k (n % 256 ^ k) = bytes k n := by
  cases k with
  | zero => rfl
  | succ k =>
    have hhead : UInt8.ofNat (n % 256 ^ (k + 1) / 256 ^ k) = UInt8.ofNat (n / 256 ^ k) := by
      rw [Nat.pow_succ, Nat.mod_mul_right_div_self]
      exact UInt8.ofNat_mod_size
    rw [bytes, bytes, hhead, Nat.mod_mod_of_dvd _ (Nat.pow_dvd_pow 256 (Nat.le_succ k))]

theorem bytes_succ (k n : Nat) : bytes (k + 1) n = UInt8.ofNat (n / 256 ^ k) :: bytes k n := by
  rw [bytes, bytes_mod]

/-! ## With a sign -/

/-- The number behind the first bit. -/
def magnitude : List UInt8 → Nat
  | [] => 0
  | b :: bs => b.toNat % 128 * 256 ^ bs.length + unsigned bs

/-- The number with the sign in the first bit. -/
def value : List UInt8 → Int
  | [] => 0
  | b :: bs => if b.toNat < 128 then magnitude (b :: bs) else -magnitude (b :: bs)

/-- The `k + 1` bytes of `v`. -/
def encode (k : Nat) (v : Int) : List UInt8 :=
  UInt8.ofNat ((if v < 0 then 128 else 0) + v.natAbs / 256 ^ k) :: bytes k (v.natAbs % 256 ^ k)

@[simp] theorem length_encode (k : Nat) (v : Int) : (encode k v).length = k + 1 := by
  simp [encode]

/-- The value of a first byte and the bytes of a remainder. -/
theorem value_cons_bytes {m : Nat} (hn : n < 256) (hm : m < 256 ^ k) :
    value (UInt8.ofNat n :: bytes k m) =
      if n < 128 then ((n % 128 * 256 ^ k + m : Nat) : Int) else -(n % 128 * 256 ^ k + m : Nat) := by
  rw [value, magnitude, UInt8.toNat_ofNat_of_lt' hn, length_bytes, unsigned_bytes hm]

theorem value_encode (h : v.natAbs < 128 * 256 ^ k) : value (encode k v) = v := by
  have hpos : 0 < 256 ^ k := Nat.pow_pos (by decide)
  have hhead : v.natAbs / 256 ^ k < 128 := (Nat.div_lt_iff_lt_mul hpos).mpr h
  have hrest : v.natAbs % 256 ^ k < 256 ^ k := Nat.mod_lt _ hpos
  have hsum := Nat.div_add_mod' v.natAbs (256 ^ k)
  rw [encode]
  by_cases hneg : v < 0
  · rw [if_pos hneg, value_cons_bytes (by omega) hrest, if_neg (Nat.not_lt.mpr (Nat.le_add_right _ _)),
      Nat.add_mod_left, Nat.mod_eq_of_lt hhead, hsum]
    omega
  · rw [if_neg hneg, Nat.zero_add, value_cons_bytes (by omega) hrest, if_pos hhead,
      Nat.mod_eq_of_lt hhead, hsum]
    omega

theorem natAbs_value (bs : List UInt8) : (value bs).natAbs = magnitude bs := by
  cases bs with
  | nil => rfl
  | cons b bs =>
    rw [value]
    split
    · rw [Int.natAbs_natCast]
    · rw [Int.natAbs_neg, Int.natAbs_natCast]

/-- The bytes are the same but for the first bit. -/
def SameButSign : List UInt8 → List UInt8 → Prop
  | b :: bs, b' :: bs' => b.toNat % 128 = b'.toNat % 128 ∧ bs = bs'
  | _, _ => False

theorem sameButSign_of_value_eq (hlength : (b :: bs).length = (b' :: bs').length)
    (h : value (b :: bs) = value (b' :: bs')) : SameButSign (b :: bs) (b' :: bs') := by
  have htail : bs.length = bs'.length := by simpa using hlength
  have hmagnitude : magnitude (b :: bs) = magnitude (b' :: bs') := by
    rw [← natAbs_value, ← natAbs_value, h]
  rw [magnitude, magnitude, htail] at hmagnitude
  obtain ⟨hhead, hrest⟩ := split_eq (htail ▸ unsigned_lt bs) (unsigned_lt bs') hmagnitude
  exact ⟨hhead, unsigned_inj htail hrest⟩

/-- A number other than zero has its sign in the first bit. -/
theorem lt_iff_of_value_ne (h : value (b :: bs) ≠ 0) : b.toNat < 128 ↔ 0 < value (b :: bs) := by
  rw [value] at h ⊢
  split at h <;> omega

/-- Only zero has two forms. -/
theorem eq_of_value_eq (hlength : (b :: bs).length = (b' :: bs').length)
    (h : value (b :: bs) = value (b' :: bs')) (hne : value (b :: bs) ≠ 0) : b :: bs = b' :: bs' := by
  obtain ⟨hhead, rfl⟩ := sameButSign_of_value_eq hlength h
  have hsign := lt_iff_of_value_ne hne
  have hsign' := lt_iff_of_value_ne (h ▸ hne)
  rw [← h, ← hsign] at hsign'
  have hlt := UInt8.toNat_lt b
  have hlt' := UInt8.toNat_lt b'
  have hbyte : b.toNat = b'.toNat := by
    by_cases hb : b.toNat < 128
    · have := hsign'.mpr hb
      omega
    · have : ¬ b'.toNat < 128 := fun hb' => hb (hsign'.mp hb')
      omega
  rw [UInt8.toNat_inj.mp hbyte]

/-! ## Limits -/

/-- The nearest number with a magnitude of at most `limit`. -/
def saturate (limit v : Int) : Int := max (-limit) (min v limit)

theorem saturate_le_saturate (limit : Int) {w : Int} (h : v ≤ w) :
    saturate limit v ≤ saturate limit w :=
  max_le_max le_rfl (min_le_min h le_rfl)

theorem saturate_nonneg {limit : Int} (hlimit : 0 ≤ limit) (h : 0 ≤ v) : 0 ≤ saturate limit v :=
  le_max_of_le_right (le_min h hlimit)

theorem saturate_nonpos {limit : Int} (hlimit : 0 ≤ limit) (h : v ≤ 0) : saturate limit v ≤ 0 :=
  max_le (by omega) ((min_le_left _ _).trans h)

/-! ## Shifts and masks -/

theorem and_byte (b : UInt8) : b.toNat &&& 0xff = b.toNat := by
  rw [show 0xff = 2 ^ 8 - 1 from rfl, Nat.and_two_pow_sub_one_eq_mod]
  exact Nat.mod_eq_of_lt (UInt8.toNat_lt b)

/-- The lowest bits of a number, shifted to their place in front of another number. -/
theorem or_masked {low shift : Nat} (n width : Nat) (hlow : low < 2 ^ shift) :
    low ||| ((n <<< shift) &&& ((2 ^ width - 1) <<< shift)) = n % 2 ^ width * 2 ^ shift + low := by
  rw [← Nat.shiftLeft_and_distrib, Nat.and_two_pow_sub_one_eq_mod, Nat.shiftLeft_eq, Nat.or_comm,
    Nat.mul_comm (n % _), ← Nat.two_pow_add_eq_or_of_lt hlow, Nat.mul_comm (2 ^ shift)]

theorem or_masked_byte {low shift : Nat} (b : UInt8) (hlow : low < 2 ^ shift) :
    low ||| ((b.toNat <<< shift) &&& (0xff <<< shift)) = b.toNat * 2 ^ shift + low := by
  have hmask := or_masked b.toNat 8 hlow
  rw [Nat.mod_eq_of_lt (UInt8.toNat_lt b)] at hmask
  exact hmask

theorem or_two (hi lo : UInt8) :
    (lo.toNat &&& 0xff) ||| ((hi.toNat <<< 8) &&& 0xff00) = unsigned [hi, lo] := by
  have hor : lo.toNat ||| ((hi.toNat <<< 8) &&& 0xff00) = hi.toNat * 2 ^ 8 + lo.toNat :=
    or_masked_byte hi (UInt8.toNat_lt lo)
  rw [and_byte, hor]
  simp [unsigned]

theorem or_two_signed (hi lo : UInt8) :
    (lo.toNat &&& 0xff) ||| ((hi.toNat <<< 8) &&& 0x7f00) = magnitude [hi, lo] := by
  have hor : lo.toNat ||| ((hi.toNat <<< 8) &&& 0x7f00) = hi.toNat % 2 ^ 7 * 2 ^ 8 + lo.toNat :=
    or_masked hi.toNat 7 (UInt8.toNat_lt lo)
  rw [and_byte, hor]
  simp [magnitude, unsigned]

theorem or_four_signed (b₀ b₁ b₂ b₃ : UInt8) :
    (b₃.toNat &&& 0xff) ||| ((b₂.toNat <<< 8) &&& 0xff00) ||| ((b₁.toNat <<< 16) &&& 0xff0000) |||
      ((b₀.toNat <<< 24) &&& 0x7f000000) = magnitude [b₀, b₁, b₂, b₃] := by
  have hlt₁ := UInt8.toNat_lt b₁
  have hlt₂ := UInt8.toNat_lt b₂
  have hlt₃ := UInt8.toNat_lt b₃
  have hor₂ : b₃.toNat ||| ((b₂.toNat <<< 8) &&& 0xff00) = b₂.toNat * 2 ^ 8 + b₃.toNat :=
    or_masked_byte b₂ hlt₃
  have hor₁ : (b₂.toNat * 2 ^ 8 + b₃.toNat) ||| ((b₁.toNat <<< 16) &&& 0xff0000) =
      b₁.toNat * 2 ^ 16 + (b₂.toNat * 2 ^ 8 + b₃.toNat) := or_masked_byte b₁ (by omega)
  have hor₀ : (b₁.toNat * 2 ^ 16 + (b₂.toNat * 2 ^ 8 + b₃.toNat)) |||
      ((b₀.toNat <<< 24) &&& 0x7f000000) =
        b₀.toNat % 2 ^ 7 * 2 ^ 24 + (b₁.toNat * 2 ^ 16 + (b₂.toNat * 2 ^ 8 + b₃.toNat)) :=
    or_masked b₀.toNat 7 (by omega)
  rw [and_byte, hor₂, hor₁, hor₀]
  simp [magnitude, unsigned]

/-- The bytes of a number put in their places one after the other, the most significant one first. -/
def orBytes : Nat → List UInt8 → Nat
  | acc, [] => acc
  | acc, b :: bs => orBytes (acc ||| b.toNat <<< (8 * bs.length)) bs

theorem orBytes_eq (bs : List UInt8) (n : Nat) :
    orBytes (n * 256 ^ bs.length) bs = n * 256 ^ bs.length + unsigned bs := by
  induction bs generalizing n with
  | nil => rfl
  | cons b bs ih =>
    have hor : (n * 256) ||| b.toNat = n * 256 + b.toNat := by
      rw [Nat.mul_comm]
      exact (Nat.two_pow_add_eq_or_of_lt (UInt8.toNat_lt b) n).symm
    have hplace : n * 256 ^ (b :: bs).length ||| b.toNat <<< (8 * bs.length) =
        (n * 256 + b.toNat) * 256 ^ bs.length := by
      rw [← hor, List.length_cons, Nat.pow_succ', ← Nat.mul_assoc, show 256 = 2 ^ 8 from rfl,
        ← Nat.pow_mul, ← Nat.shiftLeft_eq (_ ||| _), Nat.shiftLeft_or_distrib, Nat.shiftLeft_eq (_ * _)]
    rw [orBytes, hplace, ih, unsigned, List.length_cons, Nat.pow_succ', Nat.add_mul, Nat.mul_assoc,
      Nat.add_assoc]

/-- The bytes of a number, each cut out of it. -/
theorem byte_eq (n i : Nat) : UInt8.ofNat ((n >>> (8 * i)) &&& 0xff) = UInt8.ofNat (n / 256 ^ i) := by
  rw [show 0xff = 2 ^ 8 - 1 from rfl, Nat.and_two_pow_sub_one_eq_mod, UInt8.ofNat_mod_size,
    Nat.shiftRight_eq_div_pow, Nat.pow_mul]

end SignMagnitude
