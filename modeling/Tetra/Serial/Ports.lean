import Tetra.Serial.Frames
import Tetra.Serial.Power

/-!
# Eight ports in one character

`power_set_OutputPort` and `power_set_Enable` print their eight ports one behind the other, read the
text as a decimal number, and take its digits for the bits of the character they send. That works as
long as each port is a digit of its own that does not carry into the next one (`Apart`).
-/

namespace Tetra.Serial.Power

open Arrival Memory Decimal

/-! ## The character -/

/-- What `sprintf` writes to `charValue`; the last port comes first. -/
def portsText (ports : List Int) : List UInt8 := (ports.reverse.map signed).flatten

/-- The number whose lowest eight bits are sent. -/
def portsNumber (ports : List Int) : Int := binaryToDecimal 19 0 (atol (portsText ports))

/-- The character that is sent. -/
def portsByte (ports : List Int) : UInt8 := UInt8.ofInt (portsNumber ports + 48)

/-- The frame, which is only built if the text fits into `charValue`. -/
def portsFrame (c : Char) (ports : List Int) : Except Fault (Buffer × Nat) := do
  let _ ← storeAll (List.replicate 10 (0 : UInt8)) 0 ((portsText ports ++ [0]).map some)
  closeFrame (packetBuf 255 (letters 'P' c ++ [portsByte ports])) 4

theorem portsCommand_eq (c : Char) (ports : List Int) (line : Line) :
    portsCommand c ports line = (do
      let (data, index) ← portsFrame c ports
      let (ret, _, line) ← exchange getResponse line data index
      return (ret, line)) := by
  have hunfold : portsCommand c ports line = (do
      let _ ← storeAll (List.replicate 10 (0 : UInt8)) 0 ((portsText ports ++ [0]).map some)
      let (data, index) ← closeFrame (packetBuf 255 (letters 'P' c ++ [portsByte ports])) 4
      let (ret, _, line) ← exchange getResponse line data index
      return (ret, line)) := rfl
  rw [hunfold, portsFrame]
  cases storeAll (List.replicate 10 (0 : UInt8)) 0 ((portsText ports ++ [0]).map some) with
  | error fault => rfl
  | ok text => simp only [ok_bind]

theorem portsFrame_eq_ok_iff {c : Char} {ports : List Int} :
    portsFrame c ports = .ok (packetBuf 255 (packet ['P'.toUInt8, c.toUInt8, portsByte ports]), 6) ↔
      (portsText ports).length ≤ 9 := by
  have hclose : closeFrame (packetBuf 255 (letters 'P' c ++ [portsByte ports])) 4 = _ :=
    closeFrame_text (show [portsByte ports].length + 5 ≤ 255 by simp)
  rw [portsFrame, hclose]
  by_cases hfits : Fits (List.replicate 10 (0 : UInt8)) 0 ((portsText ports ++ [0]).map some)
  · rw [storeAll_of_fits hfits]
    have hlength : (portsText ports).length ≤ 9 := by
      have hroom := fits_map_some.mp hfits
      simp at hroom
      omega
    exact iff_of_true rfl hlength
  · obtain ⟨k, hk⟩ := storeAll_of_not_fits hfits
    rw [hk]
    refine iff_of_false (by simp) fun hlength => hfits (fits_map_some.mpr (Or.inr ?_))
    simp
    omega

/-! ## From text to number -/

theorem foldl_digits {ds : List Nat} (hds : ∀ d ∈ ds, d < 10) (start : Int) :
    (ds.map digit).foldl (fun n b => 10 * n + ((b.toNat : Int) - 48)) start =
      start * 10 ^ ds.length + (Nat.ofDigits 10 ds.reverse : Nat) := by
  induction ds generalizing start with
  | nil => simp
  | cons d ds ih =>
    have hd := toNat_digit (hds d List.mem_cons_self)
    rw [List.map_cons, List.foldl_cons, ih (fun d' hd' => hds d' (List.mem_cons_of_mem d hd')), hd,
      List.reverse_cons, Nat.ofDigits_append, List.length_cons, List.length_reverse]
    simp
    ring

theorem takeWhile_digits {ds : List Nat} (hds : ∀ d ∈ ds, d < 10) {rest : List UInt8}
    (hrest : ∀ b ∈ rest.head?, b = minus) :
    (ds.map digit ++ rest).takeWhile (fun b => 48 ≤ b && b ≤ 57) = ds.map digit := by
  rw [List.takeWhile_append_of_pos]
  · cases rest with
    | nil => simp
    | cons b rest =>
      obtain rfl := hrest b rfl
      simp [minus]
  · intro b hb
    obtain ⟨d, hd, rfl⟩ := List.mem_map.mp hb
    have hbyte := toNat_digit (hds d hd)
    have hlt := hds d hd
    simp only [Bool.and_eq_true, decide_eq_true_eq, UInt8.le_iff_toNat_le, hbyte]
    exact ⟨Nat.le_add_right 48 d, by show 48 + d ≤ 57; omega⟩

theorem digit_ne_minus {d : Nat} (hd : d < 10) : digit d ≠ minus := by
  intro h
  have htoNat := toNat_digit hd
  rw [h] at htoNat
  simp only [minus, UInt8.reduceToNat] at htoNat
  omega

/-- `atol` reads the digits up to anything else. -/
theorem atol_digits {ds : List Nat} (hne : ds ≠ []) (hds : ∀ d ∈ ds, d < 10) {rest : List UInt8}
    (hrest : ∀ b ∈ rest.head?, b = minus) :
    atol (ds.map digit ++ rest) = (Nat.ofDigits 10 ds.reverse : Nat) ∧
      atol (minus :: (ds.map digit ++ rest)) = -(Nat.ofDigits 10 ds.reverse : Nat) := by
  have htake := takeWhile_digits hds hrest
  have hvalue := foldl_digits hds 0
  rw [zero_mul, zero_add] at hvalue
  obtain ⟨d, ds, rfl⟩ := List.exists_cons_of_ne_nil hne
  constructor
  · rw [List.map_cons, List.cons_append] at htake ⊢
    unfold atol
    simp only [htake]
    rw [if_neg (digit_ne_minus (hds d List.mem_cons_self)), ← List.map_cons, hvalue]
  · unfold atol
    simp only [htake, if_true]
    rw [hvalue]

theorem binaryToDecimal_zero (places temp : Nat) : binaryToDecimal places temp 0 = 0 := by
  cases places with
  | zero => rfl
  | succ places => rw [binaryToDecimal, if_pos rfl]

/-- The digits of a decimal number, taken in base 2. -/
theorem binaryToDecimal_ofDigits {ds : List Nat} (hds : ∀ d ∈ ds, d < 10) (temp : Nat)
    {places : Nat} (hplaces : ds.length ≤ places) :
    binaryToDecimal places temp (Nat.ofDigits 10 ds : Nat) = 2 ^ temp * (Nat.ofDigits 2 ds : Nat) := by
  induction ds generalizing temp places with
  | nil => simp [binaryToDecimal_zero]
  | cons d ds ih =>
    obtain ⟨places, rfl⟩ := Nat.exists_eq_add_one_of_ne_zero
      (show places ≠ 0 by rintro rfl; simp at hplaces)
    have hd := hds d List.mem_cons_self
    have htail := ih (fun d' hd' => hds d' (List.mem_cons_of_mem d hd')) (temp + 1)
      (show ds.length ≤ places by simpa using hplaces)
    rw [binaryToDecimal, Nat.ofDigits_cons, Nat.ofDigits_cons]
    by_cases hzero : ((d + 10 * Nat.ofDigits 10 ds : Nat) : Int) = 0
    · -- all the digits are zero
      obtain ⟨hd₀, hds₀⟩ : d = 0 ∧ Nat.ofDigits 10 ds = 0 := by omega
      rw [hds₀, Int.natCast_zero, binaryToDecimal_zero] at htail
      rw [if_pos hzero, hd₀]
      calc (0 : Int) = 2 ^ (temp + 1) * (Nat.ofDigits 2 ds : Nat) := htail
        _ = 2 ^ temp * ((((0 : Nat) : Nat) + 2 * Nat.ofDigits 2 ds : Nat) : Int) := by
          push_cast
          ring
    · have hmod : ((d + 10 * Nat.ofDigits 10 ds : Nat) : Int).tmod 10 = d := by
        rw [Int.tmod_eq_emod_of_nonneg (by positivity)]
        omega
      have hdiv : ((d + 10 * Nat.ofDigits 10 ds : Nat) : Int).tdiv 10 = (Nat.ofDigits 10 ds : Nat) := by
        rw [Int.tdiv_eq_ediv_of_nonneg (by positivity)]
        omega
      rw [if_neg hzero, hmod, hdiv, htail]
      push_cast
      ring

theorem binaryToDecimal_neg (places temp : Nat) (n : Int) :
    binaryToDecimal places temp (-n) = -binaryToDecimal places temp n := by
  induction places generalizing temp n with
  | zero => rfl
  | succ places ih =>
    rw [binaryToDecimal, binaryToDecimal]
    by_cases hn : n = 0
    · simp [hn]
    · rw [if_neg (neg_ne_zero.mpr hn), if_neg hn, Int.neg_tmod, Int.neg_tdiv, ih]
      ring

/-! ## Digits that do not carry -/

/-- The digits of a port without a sign, the last one first. -/
def portDigits (x : Int) : List Nat := if x = 0 then [0] else Nat.digits 10 x.natAbs

theorem signed_eq_digits {x : Int} (h : 0 ≤ x) : signed x = (portDigits x).reverse.map digit := by
  rw [signed, if_neg h.not_gt, numeral, portDigits]
  by_cases h0 : x = 0
  · rw [if_pos h0, if_pos (Int.natAbs_eq_zero.mpr h0)]
    rfl
  · rw [if_neg h0, if_neg (Int.natAbs_ne_zero.mpr h0)]

theorem lt_of_mem_portDigits {x : Int} {d : Nat} (h : d ∈ portDigits x) : d < 10 := by
  unfold portDigits at h
  split at h
  · obtain rfl := List.mem_singleton.mp h
    decide
  · exact Nat.digits_lt_base (by decide) h

theorem portDigits_of_lt {x : Int} (h0 : 0 ≤ x) (h : x ≤ 9) : portDigits x = [x.natAbs] := by
  rw [portDigits]
  by_cases hzero : x = 0
  · rw [if_pos hzero, hzero]
    rfl
  · rw [if_neg hzero, Nat.digits_of_lt 10 _ (Int.natAbs_ne_zero.mpr hzero) (by omega)]

theorem portDigits_of_two {x : Int} (h0 : 10 ≤ x) (h : x ≤ 99) :
    portDigits x = [x.natAbs % 10, x.natAbs / 10] := by
  rw [portDigits, if_neg (by omega), Nat.digits_def' (by decide) (by omega),
    Nat.digits_of_lt 10 _ (by omega) (by omega)]

/-- The text of ports without a sign consists of their digits. -/
theorem portsText_nonneg {ports : List Int} (h : ∀ x ∈ ports, 0 ≤ x) :
    portsText ports = (ports.flatMap portDigits).reverse.map digit := by
  induction ports with
  | nil => rfl
  | cons x ports ih =>
    have htail := ih fun y hy => h y (List.mem_cons_of_mem x hy)
    rw [portsText] at htail ⊢
    rw [List.reverse_cons, List.map_append, List.flatten_append, htail, List.flatMap_cons,
      List.reverse_append, List.map_append, ← signed_eq_digits (h x List.mem_cons_self)]
    simp

/-- Ports that are digits of their own, and do not carry into the next one within the byte. -/
def Apart : List Int → Prop
  | [] => True
  | [x] => 0 ≤ x ∧ x ≤ 99
  | x :: y :: ports => 0 ≤ x ∧ x ≤ 9 ∧ x % 2 ^ (ports.length + 2) ≤ 1 ∧ Apart (y :: ports)

/-- Half of a number that is 0 or 1 below a place. -/
theorem half_eq {n k : Nat} (h : n % 2 ^ (k + 1) ≤ 1) : n / 2 = 2 ^ k * (n / 2 ^ (k + 1)) := by
  have hsplit := Nat.div_add_mod n (2 ^ (k + 1))
  have hpow : 2 ^ (k + 1) * (n / 2 ^ (k + 1)) = 2 * (2 ^ k * (n / 2 ^ (k + 1))) := by
    rw [Nat.pow_succ, Nat.mul_comm _ 2, Nat.mul_assoc]
  omega

theorem testBit_add_two_pow_mul {n r q i : Nat} (hi : i < r) :
    (2 ^ r * q + n).testBit i = n.testBit i := by
  have hmod := Nat.testBit_mod_two_pow (2 ^ r * q + n) r i
  rw [Nat.mul_add_mod, Nat.testBit_mod_two_pow, decide_eq_true hi, Bool.true_and,
    Bool.true_and] at hmod
  exact hmod.symm

/-- Then the bits of the number are the parities of the ports. -/
theorem testBit_apart : ∀ {ports : List Int} (_ : Apart ports) {i : Nat} (_ : i < ports.length),
    (Nat.ofDigits 2 (ports.flatMap portDigits)).testBit i = decide (ports.getD i 0 % 2 = 1)
  | [x], ⟨h0, h99⟩, 0, _ => by
    have hport : [x].flatMap portDigits = portDigits x := by simp
    rw [hport, Nat.testBit_zero, List.getD_cons_zero, decide_eq_decide]
    by_cases h9 : x ≤ 9
    · rw [portDigits_of_lt h0 h9, Nat.ofDigits_singleton]
      omega
    · rw [portDigits_of_two (by omega) h99, Nat.ofDigits_cons, Nat.ofDigits_singleton]
      omega
  | x :: y :: ports, ⟨h0, h9, _, _⟩, 0, _ => by
    rw [List.flatMap_cons, portDigits_of_lt h0 h9, List.singleton_append, Nat.ofDigits_cons,
      Nat.testBit_zero, List.getD_cons_zero, decide_eq_decide]
    omega
  | x :: y :: ports, ⟨h0, h9, hcarry, hrest⟩, i + 1, hi => by
    have hi' : i < (y :: ports).length := Nat.lt_of_succ_lt_succ hi
    -- what the port carries is too far up for the ports that are left
    have hhalf : x.natAbs / 2 = 2 ^ (y :: ports).length * (x.natAbs / 2 ^ (ports.length + 2)) := by
      refine half_eq ?_
      obtain ⟨n, rfl⟩ := Int.eq_ofNat_of_zero_le h0
      exact_mod_cast hcarry
    rw [List.flatMap_cons, portDigits_of_lt h0 h9, List.singleton_append, Nat.ofDigits_cons,
      Nat.testBit_succ, Nat.add_mul_div_left _ _ (by decide), hhalf, testBit_add_two_pow_mul hi',
      testBit_apart hrest hi', List.getD_cons_succ]

/-! ## The number of a text -/

theorem portsText_append (low high : List Int) :
    portsText (low ++ high) = portsText high ++ portsText low := by
  simp [portsText]

theorem flatMap_portDigits_ne_nil {ports : List Int} (h : ports ≠ []) :
    ports.flatMap portDigits ≠ [] := by
  obtain ⟨x, ports, rfl⟩ := List.exists_cons_of_ne_nil h
  rw [List.flatMap_cons]
  intro hnil
  have hport := List.append_eq_nil_iff.mp hnil
  by_cases hx : x = 0
  · simp [portDigits, hx] at hport
  · simp [portDigits, hx] at hport

section Number

variable {ports low high : List Int} {x : Int}

/-- What comes before anything that is not a digit. -/
theorem atol_ports (hne : ports ≠ []) (h : ∀ y ∈ ports, 0 ≤ y) {rest : List UInt8}
    (hrest : ∀ b ∈ rest.head?, b = minus) :
    atol (portsText ports ++ rest) = (Nat.ofDigits 10 (ports.flatMap portDigits) : Nat) ∧
      atol (minus :: (portsText ports ++ rest)) =
        -(Nat.ofDigits 10 (ports.flatMap portDigits) : Nat) := by
  have hdigits : ∀ d ∈ (ports.flatMap portDigits).reverse, d < 10 := by
    intro d hd
    obtain ⟨y, -, hy⟩ := List.mem_flatMap.mp (List.mem_reverse.mp hd)
    exact lt_of_mem_portDigits hy
  have hread := atol_digits (List.reverse_ne_nil_iff.mpr (flatMap_portDigits_ne_nil hne)) hdigits hrest
  rw [List.reverse_reverse, ← portsText_nonneg h] at hread
  exact hread

theorem binaryToDecimal_ports (h : ∀ y ∈ ports, 0 ≤ y) (hlength : (portsText ports).length ≤ 19) :
    binaryToDecimal 19 0 (Nat.ofDigits 10 (ports.flatMap portDigits) : Nat) =
      (Nat.ofDigits 2 (ports.flatMap portDigits) : Nat) := by
  have hdigits : ∀ d ∈ ports.flatMap portDigits, d < 10 := by
    intro d hd
    obtain ⟨y, -, hy⟩ := List.mem_flatMap.mp hd
    exact lt_of_mem_portDigits hy
  rw [portsText_nonneg h, List.length_map, List.length_reverse] at hlength
  rw [binaryToDecimal_ofDigits hdigits 0 hlength, pow_zero, one_mul]

theorem portsNumber_nonneg (hne : ports ≠ []) (h : ∀ y ∈ ports, 0 ≤ y)
    (hlength : (portsText ports).length ≤ 19) :
    portsNumber ports = (Nat.ofDigits 2 (ports.flatMap portDigits) : Nat) := by
  have hatol := (atol_ports hne h (show ∀ b ∈ ([] : List UInt8).head?, b = minus by simp)).1
  rw [List.append_nil] at hatol
  rw [portsNumber, hatol, binaryToDecimal_ports h hlength]

/-- A sign in the middle ends the number, so the ports above it are all there is. -/
theorem portsNumber_middle (hx : x < 0) (hne : high ≠ []) (h : ∀ y ∈ high, 0 ≤ y)
    (hlength : (portsText high).length ≤ 19) :
    portsNumber (low ++ x :: high) = (Nat.ofDigits 2 (high.flatMap portDigits) : Nat) := by
  have htext : portsText (low ++ x :: high) = portsText high ++ (signed x ++ portsText low) := by
    simp [portsText]
  have hrest : ∀ b ∈ (signed x ++ portsText low).head?, b = minus := by
    rw [signed, if_pos hx]
    simp
  rw [portsNumber, htext, (atol_ports hne h hrest).1, binaryToDecimal_ports h hlength]

/-- A sign in front is that of the number. -/
theorem portsNumber_top (hx : x < 0) (h : ∀ y ∈ low, 0 ≤ y)
    (hlength : (portsText (low ++ [-x])).length ≤ 19) :
    portsNumber (low ++ [x]) = -portsNumber (low ++ [-x]) := by
  have htext : portsText (low ++ [x]) = minus :: (portsText (low ++ [-x]) ++ []) := by
    rw [portsText_append, portsText_append, List.append_nil]
    simp [portsText, signed, hx, hx.le]
  have hall : ∀ y ∈ low ++ [-x], 0 ≤ y := by
    intro y hy
    rcases List.mem_append.mp hy with hy | hy
    · exact h y hy
    · obtain rfl := List.mem_singleton.mp hy
      omega
  rw [portsNumber, htext, (atol_ports (by simp) hall (by simp)).2, binaryToDecimal_neg,
    binaryToDecimal_ports hall hlength, portsNumber_nonneg (by simp) hall hlength]

end Number

/-! ## The bits of the character -/

/-- Bit `i` of the character less `'0'`. -/
def portBit (ports : List Int) (i : Nat) : Bool := (portsByte ports - 48).toNat.testBit i

theorem portsByte_sub (ports : List Int) : portsByte ports - 48 = UInt8.ofInt (portsNumber ports) := by
  rw [portsByte, UInt8.ofInt_add]
  exact UInt8.add_sub_cancel _ _

theorem toNat_ofInt_natCast (n : Nat) : (UInt8.ofInt (n : Int)).toNat = n % 256 := by
  have hbyte : (UInt8.ofInt (n : Int)).toNat = ((n : Int) % 256).toNat % 256 := by
    simp [UInt8.ofInt]
  omega

theorem portBit_of_natCast {ports : List Int} {n : Nat} (h : portsNumber ports = n) {i : Nat}
    (hi : i < 8) : portBit ports i = n.testBit i := by
  rw [portBit, portsByte_sub, h, toNat_ofInt_natCast]
  have hmod := Nat.testBit_mod_two_pow n 8 i
  rw [decide_eq_true hi, Bool.true_and] at hmod
  exact hmod

/-! ## Requests that are mixed from a request -/

/-- In each place of `w` there is the port of `ports`, 0 or 1. -/
def Mixed (ports w : List Int) : Prop := List.Forall₂ (fun x y => y = x ∨ y = 0 ∨ y = 1) ports w

theorem mixed_refl (ports : List Int) : Mixed ports ports := List.forall₂_same.mpr fun _ _ => .inl rfl

theorem mixed_zeros (ports : List Int) : Mixed ports (List.replicate ports.length 0) := by
  induction ports with
  | nil => exact .nil
  | cons x ports ih => exact .cons (.inr (.inl rfl)) ih

/-- Zeros, and a 1 in the last place. -/
theorem mixed_one {ports : List Int} (h : ports ≠ []) :
    Mixed ports (List.replicate (ports.length - 1) 0 ++ [1]) := by
  obtain ⟨init, x, rfl⟩ := ports.eq_nil_or_concat.resolve_left h
  rw [List.concat_eq_append, List.length_append, List.length_singleton, Nat.add_sub_cancel]
  exact List.rel_append (mixed_zeros init) (.cons (.inr (.inr rfl)) .nil)

theorem mixed_at {low high low' high' : List Int} {x y : Int} (hlow : Mixed low low')
    (hx : y = x ∨ y = 0 ∨ y = 1) (hhigh : Mixed high high') :
    Mixed (low ++ x :: high) (low' ++ y :: high') :=
  List.rel_append hlow (.cons hx hhigh)

theorem one_emod_le (k : Nat) : (1 : Int) % 2 ^ k ≤ 1 := by
  have hle := Nat.mod_le 1 (2 ^ k)
  exact_mod_cast hle

theorem apart_of_mixed : ∀ {ports w : List Int} (_ : Apart ports) (_ : Mixed ports w), Apart w
  | [], _, _, .nil => trivial
  | [x], _, h, .cons hx .nil => by
    rcases hx with rfl | rfl | rfl
    · exact h
    · exact ⟨le_rfl, by decide⟩
    · exact ⟨by decide, by decide⟩
  | x :: y :: ports, _, ⟨h0, h9, hcarry, hrest⟩, .cons hx (.cons hy hmixed) => by
    have htail : Apart (_ :: _) := apart_of_mixed hrest (.cons hy hmixed)
    have hlength := hmixed.length_eq
    rcases hx with rfl | rfl | rfl
    · exact ⟨h0, h9, hlength ▸ hcarry, htail⟩
    · exact ⟨le_rfl, by decide, by rw [Int.zero_emod]; decide, htail⟩
    · exact ⟨by decide, by decide, one_emod_le _, htail⟩

theorem nonneg_of_apart : ∀ {ports : List Int} (_ : Apart ports), ∀ x ∈ ports, 0 ≤ x
  | [x], h, y, hy => by
    obtain rfl := List.mem_singleton.mp hy
    exact h.1
  | x :: y :: ports, h, z, hz => by
    rcases List.mem_cons.mp hz with rfl | hz
    · exact h.1
    · exact nonneg_of_apart h.2.2.2 z hz

theorem portsText_cons (x : Int) (ports : List Int) :
    portsText (x :: ports) = portsText ports ++ signed x := by
  simp [portsText]

theorem length_signed_of_lt {x : Int} {k : Nat} (hk : 0 < k) (h0 : 0 ≤ x) (h : x < 10 ^ k) :
    (signed x).length ≤ k := by
  obtain ⟨n, rfl⟩ := Int.eq_ofNat_of_zero_le h0
  rw [signed, if_neg h0.not_gt, Int.natAbs_natCast]
  exact length_numeral_le hk (by exact_mod_cast h)

theorem length_text_apart : ∀ {ports : List Int} (_ : Apart ports),
    (portsText ports).length ≤ ports.length + 1
  | [], _ => by simp [portsText]
  | [x], ⟨h0, h99⟩ => by
    have hport := length_signed_of_lt (k := 2) (by decide) h0 (by omega)
    simpa [portsText] using hport
  | x :: y :: ports, ⟨h0, h9, _, hrest⟩ => by
    have hport := length_signed_of_lt (k := 1) (by decide) h0 (by omega)
    have htail := length_text_apart hrest
    rw [portsText_cons, List.length_append, List.length_cons]
    omega

/-- Every port takes one character at least. -/
theorem length_le_portsText (ports : List Int) : ports.length ≤ (portsText ports).length := by
  induction ports with
  | nil => exact Nat.zero_le _
  | cons x ports ih =>
    obtain ⟨b, bs, hx⟩ := exists_cons_signed x
    rw [portsText_cons, List.length_append, hx, List.length_cons, List.length_cons]
    omega

theorem length_signed_le_of_mem {ports : List Int} {x : Int} (hx : x ∈ ports) :
    ports.length + (signed x).length ≤ (portsText ports).length + 1 := by
  induction ports with
  | nil => simp at hx
  | cons y ports ih =>
    have hrest := length_le_portsText ports
    rw [portsText_cons, List.length_append, List.length_cons]
    rcases List.mem_cons.mp hx with rfl | hmem
    · omega
    · obtain ⟨b, bs, hy⟩ := exists_cons_signed y
      have hport := ih hmem
      rw [hy, List.length_cons]
      omega

theorem bounds_of_length {x : Int} (h : (signed x).length ≤ 2) : -9 ≤ x ∧ x ≤ 99 := by
  rw [signed] at h
  by_cases hx : x < 0
  · rw [if_pos hx, List.length_cons] at h
    have hlow : ¬ 10 ^ 1 ≤ x.natAbs := fun hle => by
      have := lt_length_numeral hle
      omega
    omega
  · rw [if_neg hx] at h
    have hhigh : ¬ 10 ^ 2 ≤ x.natAbs := fun hle => by
      have := lt_length_numeral hle
      omega
    omega

/-! ## Some numbers -/

theorem length_text_small {ports : List Int} (h : ∀ x ∈ ports, 0 ≤ x ∧ x ≤ 99) :
    (portsText ports).length ≤ 2 * ports.length := by
  induction ports with
  | nil => simp [portsText]
  | cons x ports ih =>
    have hx := h x List.mem_cons_self
    have hport := length_signed_of_lt (k := 2) (by decide) hx.1 (by omega)
    have hrest := ih fun y hy => h y (List.mem_cons_of_mem x hy)
    rw [portsText_cons, List.length_append, List.length_cons]
    omega

/-- The number of at most eight ports from 0 to 99. -/
theorem portsNumber_small {ports : List Int} (hne : ports ≠ []) (h : ∀ x ∈ ports, 0 ≤ x ∧ x ≤ 99)
    (hlength : ports.length ≤ 8) :
    portsNumber ports = (Nat.ofDigits 2 (ports.flatMap portDigits) : Nat) :=
  portsNumber_nonneg hne (fun x hx => (h x hx).1) ((length_text_small h).trans (by omega))

theorem flatMap_zeros (k : Nat) :
    (List.replicate k (0 : Int)).flatMap portDigits = List.replicate k 0 := by
  induction k with
  | zero => rfl
  | succ k ih => rw [List.replicate_succ, List.flatMap_cons, ih]; rfl

/-- Zeros in the lowest places shift a number. -/
theorem ofDigits_zeros_append (k : Nat) (ds : List Nat) :
    Nat.ofDigits 2 (List.replicate k 0 ++ ds) = 2 ^ k * Nat.ofDigits 2 ds := by
  rw [Nat.ofDigits_append, Nat.ofDigits_replicate_zero, List.length_replicate, Nat.zero_add]

theorem range_at {x : Int} (h : 0 ≤ x ∧ x ≤ 99) {k : Nat} {high : List Int}
    (hhigh : ∀ y ∈ high, 0 ≤ y ∧ y ≤ 99) :
    ∀ y ∈ List.replicate k 0 ++ x :: high, 0 ≤ y ∧ y ≤ 99 := by
  intro y hy
  rcases List.mem_append.mp hy with hy | hy
  · obtain rfl := List.eq_of_mem_replicate hy
    decide
  · rcases List.mem_cons.mp hy with rfl | hy
    · exact h
    · exact hhigh y hy

theorem range_zeros {m : Nat} : ∀ y ∈ List.replicate m (0 : Int), 0 ≤ y ∧ y ≤ 99 := by
  intro y hy
  obtain rfl := List.eq_of_mem_replicate hy
  decide

theorem portsNumber_at {x : Int} (h : 0 ≤ x ∧ x ≤ 99) {k m : Nat} (hlength : k + m ≤ 7) :
    portsNumber (List.replicate k 0 ++ x :: List.replicate m 0) =
      (2 ^ k * Nat.ofDigits 2 (portDigits x) : Nat) := by
  rw [portsNumber_small (by simp) (range_at h range_zeros) (by simp; omega), List.flatMap_append,
    List.flatMap_cons, flatMap_zeros, flatMap_zeros, ofDigits_zeros_append, Nat.ofDigits_append,
    Nat.ofDigits_replicate_zero, Nat.mul_zero, Nat.add_zero]

theorem portsNumber_at_one {x : Int} (h : 0 ≤ x ∧ x ≤ 99) {k m : Nat} (hlength : k + m ≤ 6) :
    portsNumber (List.replicate k 0 ++ x :: (List.replicate m 0 ++ [1])) =
      (2 ^ k * (Nat.ofDigits 2 (portDigits x) + 2 ^ ((portDigits x).length + m)) : Nat) := by
  have hhigh : ∀ y ∈ List.replicate m (0 : Int) ++ [1], 0 ≤ y ∧ y ≤ 99 :=
    range_at (x := 1) (by decide) (by simp)
  rw [portsNumber_small (by simp) (range_at h hhigh) (by simp; omega), List.flatMap_append,
    List.flatMap_cons, List.flatMap_append, flatMap_zeros, flatMap_zeros, ofDigits_zeros_append,
    Nat.ofDigits_append, ofDigits_zeros_append, pow_add]
  have hone : Nat.ofDigits 2 ([1].flatMap portDigits) = 1 := by decide
  rw [hone, Nat.mul_one]

/-! ## Ports that do not influence each other -/

/--
What is asked of a request with eight ports: its frame is built, the bit of a port does not change
with what is at the other ports (its own values, 0 or 1), and the frame ends at its own `ETX`.
-/
structure Separate (c : Char) (ports : List Int) : Prop where
  built : portsFrame c ports =
    .ok (packetBuf 255 (packet ['P'.toUInt8, c.toUInt8, portsByte ports]), 6)
  independent : ∀ w w', Mixed ports w → Mixed ports w' → ∀ i < 8, w[i]? = w'[i]? →
    portBit w i = portBit w' i
  terminated : portsByte ports ≠ etx
  received : ∀ front rest, Delivers front (packet ['P'.toUInt8, c.toUInt8, portsByte ports]) →
    delimited (front ++ rest) = ⟨[], packet ['P'.toUInt8, c.toUInt8, portsByte ports], true, rest⟩

section Separate

variable {c : Char} {ports low high : List Int} {x : Int}

/-- The parities of the ports that give `ETX`. -/
def etxParities : List Int := [1, 1, 0, 0, 1, 0, 1, 1]

theorem portBit_apart (h : Apart ports) (hlength : ports.length = 8) {i : Nat} (hi : i < 8) :
    portBit ports i = decide (ports.getD i 0 % 2 = 1) := by
  have htext := length_text_apart h
  have hnumber := portsNumber_nonneg (List.ne_nil_of_length_eq_add_one hlength) (nonneg_of_apart h)
    (show (portsText ports).length ≤ 19 by omega)
  rw [portBit_of_natCast hnumber hi, testBit_apart h (by omega)]

theorem portsByte_eq_etx_iff : portsByte ports = etx ↔ ∀ i < 8, portBit ports i = (211 : Nat).testBit i := by
  -- `'0' + 211` is `ETX` in a byte
  have hsub : portsByte ports = etx ↔ portsByte ports - 48 = 211 := by
    constructor
    · intro h
      rw [h]
      rfl
    · intro h
      rw [← UInt8.sub_add_cancel (portsByte ports) 48, h]
      rfl
  rw [hsub, ← UInt8.toNat_inj]
  constructor
  · intro h i _
    rw [portBit, h]
    rfl
  · intro h
    refine Nat.eq_of_testBit_eq fun i => ?_
    by_cases hi : i < 8
    · exact h i hi
    · have hpow : 2 ^ 8 ≤ 2 ^ i := Nat.pow_le_pow_right (by decide) (by omega)
      have hbyte := (portsByte ports - 48).toNat_lt
      rw [Nat.testBit_lt_two_pow (by omega), Nat.testBit_lt_two_pow (by simp; omega)]

theorem map_parity_eq_iff (hlength : ports.length = 8) :
    ports.map (· % 2) = etxParities ↔ ∀ i < 8, ports.getD i 0 % 2 = etxParities.getD i 0 := by
  have hget : ∀ i, (ports.map (· % 2)).getD i 0 = ports.getD i 0 % 2 := fun _ =>
    List.getD_map ports 0 (· % 2)
  constructor
  · intro h i _
    rw [← hget, h]
  · intro h
    refine List.ext_getElem (by simp [hlength, etxParities]) fun i hi hi' => ?_
    have hport := h i hi'
    rwa [← hget, List.getD_eq_getElem _ _ hi, List.getD_eq_getElem _ _ hi'] at hport

theorem portsByte_eq_etx_iff_of_apart (h : Apart ports) (hlength : ports.length = 8) :
    portsByte ports = etx ↔ ports.map (· % 2) = etxParities := by
  have hpattern : ∀ i < 8, etxParities.getD i 0 = if (211 : Nat).testBit i then 1 else 0 := by decide
  rw [portsByte_eq_etx_iff, map_parity_eq_iff hlength]
  refine forall₂_congr fun i hi => ?_
  rw [portBit_apart h hlength hi, hpattern i hi]
  have hparity := Int.emod_two_eq_zero_or_one (ports.getD i 0)
  cases (211 : Nat).testBit i with
  | false =>
    rw [decide_eq_false_iff_not, if_neg Bool.false_ne_true]
    omega
  | true => rw [decide_eq_true_iff, if_pos rfl]

theorem separate_of_apart (hc : c.toUInt8 ≠ etx) (h : Apart ports) (hlength : ports.length = 8)
    (hetx : ports.map (· % 2) ≠ etxParities) : Separate c ports := by
  have htext := length_text_apart h
  have hterminated := (not_congr (portsByte_eq_etx_iff_of_apart h hlength)).mpr hetx
  refine ⟨portsFrame_eq_ok_iff.mpr (by omega), ?_, hterminated, ?_⟩
  · intro w w' hw hw' i hi hat
    have hget : w.getD i 0 = w'.getD i 0 := by
      rw [List.getD_eq_getElem?_getD, hat, List.getD_eq_getElem?_getD]
    rw [portBit_apart (apart_of_mixed h hw) (hw.length_eq ▸ hlength) hi,
      portBit_apart (apart_of_mixed h hw') (hw'.length_eq ▸ hlength) hi, hget]
  · intro front rest hfront
    refine delimited_eq_complete_iff.mpr ⟨⟨_, _, rfl, ?_⟩, by simp, front, hfront, rfl⟩
    simp only [List.mem_cons, List.not_mem_nil, or_false, not_or]
    exact ⟨by decide, hc.symm, Ne.symm hterminated⟩

/-! What it says of a port that it does not change the bits of the others. -/

theorem low_bits {n m : Nat} (h : ∀ j, 0 < j → j ≤ m → n.testBit j = false) :
    n % 2 ^ (m + 1) ≤ 1 := by
  have heq : n % 2 ^ (m + 1) = n % 2 ^ 1 := by
    refine Nat.eq_of_testBit_eq fun j => ?_
    rw [Nat.testBit_mod_two_pow, Nat.testBit_mod_two_pow]
    by_cases hj : j = 0
    · simp [hj]
    · by_cases hm : j ≤ m
      · simp [h j (by omega) hm]
      · rw [decide_eq_false (by omega : ¬ j < m + 1), decide_eq_false (by omega : ¬ j < 1)]
  omega

theorem getElem?_other (low high : List Int) (x y : Int) {i : Nat} (hi : i ≠ low.length) :
    (low ++ x :: high)[i]? = (low ++ y :: high)[i]? := by
  rcases lt_or_gt_of_ne hi with hlt | hgt
  · rw [List.getElem?_append_left hlt, List.getElem?_append_left hlt]
  · obtain ⟨j, rfl⟩ := Nat.exists_eq_add_of_lt hgt
    rw [List.getElem?_append_right (by omega), List.getElem?_append_right (by omega),
      show low.length + j + 1 - low.length = j + 1 by omega, List.getElem?_cons_succ,
      List.getElem?_cons_succ]

/-- Zeros before a port, and behind it. -/
theorem mixed_around (low high : List Int) {x y : Int} (hy : y = x ∨ y = 0 ∨ y = 1) :
    Mixed (low ++ x :: high) (List.replicate low.length 0 ++ y :: List.replicate high.length 0) :=
  mixed_at (mixed_zeros low) hy (mixed_zeros high)

/-- Zeros before a port and behind it, and a 1 in the last place. -/
theorem mixed_around_one (low : List Int) {high : List Int} (hhigh : high ≠ []) {x y : Int}
    (hy : y = x ∨ y = 0 ∨ y = 1) : Mixed (low ++ x :: high)
      (List.replicate low.length 0 ++ y :: (List.replicate (high.length - 1) 0 ++ [1])) :=
  mixed_at (mixed_zeros low) hy (mixed_one hhigh)

/-- A sign in front negates the number. -/
theorem portsNumber_negated (hlow : ∀ y ∈ low, 0 ≤ y ∧ y ≤ 99)
    (hlength : low.length = 7) {d : Nat} (hd : 0 < d) (h9 : d ≤ 9) :
    portsNumber (low ++ [-(d : Int)]) = -(Nat.ofDigits 2 (low.flatMap portDigits ++ [d]) : Nat) := by
  have hall : ∀ y ∈ low ++ [(d : Int)], 0 ≤ y ∧ y ≤ 99 := by
    intro y hy
    rcases List.mem_append.mp hy with hy | hy
    · exact hlow y hy
    · obtain rfl := List.mem_singleton.mp hy
      omega
  have htext := length_text_small hall
  rw [List.length_append, List.length_singleton, hlength] at htext
  have hdigit : [(d : Int)].flatMap portDigits = [d] := by
    rw [List.flatMap_singleton, portDigits_of_lt (by omega) (by omega), Int.natAbs_natCast]
  have htop := portsNumber_top (x := -(d : Int)) (by omega) (fun y hy => (hlow y hy).1)
    (by rw [neg_neg]; omega)
  rw [neg_neg, portsNumber_small (by simp) hall (by simp; omega), List.flatMap_append, hdigit] at htop
  exact htop

/-- Whatever the last port is, a 1 at the port before it changes the last bit then. -/
theorem bit_of_negated {d : Nat} (h9 : d ≤ 9) :
    (UInt8.ofInt (-((2 ^ 7 * d : Nat) : Int))).toNat.testBit 7 ≠
      (UInt8.ofInt (-((2 ^ 6 * (1 + 2 * d) : Nat) : Int))).toNat.testBit 7 := by
  revert d
  decide

variable (hlength : low.length + high.length = 7)
include hlength

/-- A 1 in the last place sets the last bit. -/
theorem portBit_last (hhigh : high ≠ []) : portBit
    (List.replicate low.length 0 ++ 0 :: (List.replicate (high.length - 1) 0 ++ [1])) 7 = true := by
  have hpos := List.length_pos_of_ne_nil hhigh
  have hnumber := portsNumber_at_one (x := 0) (by decide)
    (show low.length + (high.length - 1) ≤ 6 by omega)
  have hvalue : 2 ^ low.length * (Nat.ofDigits 2 (portDigits 0) +
      2 ^ ((portDigits 0).length + (high.length - 1))) = 2 ^ 7 := by
    have hdigits : portDigits 0 = [0] := rfl
    rw [hdigits, Nat.ofDigits_singleton, Nat.zero_add, ← pow_add, List.length_singleton,
      show low.length + (1 + (high.length - 1)) = 7 by omega]
  rw [hvalue] at hnumber
  rw [portBit_of_natCast hnumber (by decide)]
  rfl

variable (hc : Separate c (low ++ x :: high))
include hc

/-- A port that does not change the bits of the others has none of their bits itself. -/
theorem low_bits_of_separate (h0 : 0 ≤ x) (h9 : x ≤ 9) : x % 2 ^ (high.length + 1) ≤ 1 := by
  have hbits : ∀ j, 0 < j → j ≤ high.length → x.natAbs.testBit j = false := by
    intro j hj hjm
    -- the bit of a port that is 0, with all the others 0 as well
    have hzero := hc.independent _ _ (mixed_around low high (.inl rfl))
      (mixed_around low high (.inr (.inl rfl))) (low.length + j) (by omega)
      (getElem?_other _ _ _ _ (by rw [List.length_replicate]; omega))
    rw [portBit_of_natCast (portsNumber_at ⟨h0, by omega⟩ (by omega)) (by omega),
      portBit_of_natCast (portsNumber_at (by decide) (by omega)) (by omega),
      portDigits_of_lt h0 h9, Nat.ofDigits_singleton, Nat.testBit_two_pow_mul] at hzero
    simpa [portDigits] using hzero
  obtain ⟨n, rfl⟩ := Int.eq_ofNat_of_zero_le h0
  exact_mod_cast low_bits hbits

/-- A second digit would push the ports behind it out of the byte. -/
theorem le_nine_of_separate (h99 : x ≤ 99) (hhigh : high ≠ []) : x ≤ 9 := by
  by_contra hx
  have hpos := List.length_pos_of_ne_nil hhigh
  have hother : 7 ≠ (List.replicate low.length (0 : Int)).length := by
    rw [List.length_replicate]
    omega
  have hlast := hc.independent _ _ (mixed_around_one low hhigh (.inl rfl))
    (mixed_around_one low hhigh (.inr (.inl rfl))) 7 (by decide) (getElem?_other _ _ _ _ hother)
  have hnone := hc.independent _ _ (mixed_around low high (.inl rfl))
    (mixed_around low high (.inr (.inl rfl))) 7 (by decide) (getElem?_other _ _ _ _ hother)
  have hrange : 0 ≤ x ∧ x ≤ 99 := ⟨by omega, h99⟩
  -- with two digits, the 1 in the last place is the ninth bit
  have hpushed : 2 ^ low.length * (Nat.ofDigits 2 (portDigits x) +
      2 ^ ((portDigits x).length + (high.length - 1))) =
        2 ^ 8 * 1 + 2 ^ low.length * Nat.ofDigits 2 (portDigits x) := by
    rw [Nat.mul_add, Nat.add_comm, ← pow_add, portDigits_of_two (by omega) h99, Nat.mul_one,
      show low.length + ([x.natAbs % 10, x.natAbs / 10].length + (high.length - 1)) = 8 by
        rw [List.length_cons, List.length_singleton]
        omega]
  rw [portBit_last hlength hhigh, portBit_of_natCast (portsNumber_at_one hrange (by omega)) (by decide),
    hpushed, testBit_add_two_pow_mul (by decide)] at hlast
  rw [portBit_of_natCast (portsNumber_at hrange (by omega)) (by decide), hlast,
    portBit_of_natCast (portsNumber_at (by decide) (by omega)) (by decide)] at hnone
  simp [portDigits] at hnone

/-- A sign that is not in front ends the number. -/
theorem nonneg_of_middle (hhigh : high ≠ []) : 0 ≤ x := by
  by_contra hneg
  have hpos := List.length_pos_of_ne_nil hhigh
  have hlast := hc.independent _ _ (mixed_around_one low hhigh (.inl rfl))
    (mixed_around_one low hhigh (.inr (.inl rfl))) 7 (by decide)
    (getElem?_other _ _ _ _ (by rw [List.length_replicate]; omega))
  -- only the ports above the sign count, so their 1 is not at place 7
  have hrange : ∀ y ∈ List.replicate (high.length - 1) (0 : Int) ++ [1], 0 ≤ y ∧ y ≤ 99 :=
    range_at (x := 1) (by decide) (by simp)
  have hnumber : portsNumber (List.replicate low.length 0 ++ x :: (List.replicate _ 0 ++ [1])) = _ :=
    portsNumber_middle (by omega) (by simp) (fun y hy => (hrange y hy).1)
      ((length_text_small hrange).trans (by simp; omega))
  have hone : Nat.ofDigits 2 ([1].flatMap portDigits) = 1 := by decide
  rw [List.flatMap_append, flatMap_zeros, ofDigits_zeros_append, hone, Nat.mul_one] at hnumber
  rw [portBit_last hlength hhigh, portBit_of_natCast hnumber (by decide), Nat.testBit_two_pow,
    decide_eq_true_eq] at hlast
  omega

omit hlength hc in
/-- A sign in front negates the number. -/
theorem nonneg_of_last (hlow : low.length = 7) (hc : Separate c (low ++ [x])) (hx : -9 ≤ x) : 0 ≤ x := by
  by_contra hneg
  obtain ⟨d, rfl⟩ : ∃ d : Nat, x = -(d : Int) := ⟨x.natAbs, by omega⟩
  -- the port in question is the same in both requests, and the one before it is not
  have hsame := hc.independent _ _ (mixed_at (mixed_zeros low) (.inl rfl) .nil)
    (mixed_at (mixed_one (List.ne_nil_of_length_eq_add_one hlow)) (.inl rfl) .nil) 7 (by decide)
    (by simp [hlow])
  rw [hlow, portBit, portBit, portsByte_sub, portsByte_sub,
    portsNumber_negated range_zeros (by simp) (by omega) (by omega),
    portsNumber_negated (range_at (x := 1) (by decide) (by simp)) (by simp) (by omega) (by omega),
    List.flatMap_append, flatMap_zeros, flatMap_zeros, List.append_assoc, ofDigits_zeros_append,
    ofDigits_zeros_append] at hsame
  have hone : Nat.ofDigits 2 ([1].flatMap portDigits ++ [d]) = 1 + 2 * d := by
    rw [List.flatMap_singleton, portDigits_of_lt (by decide) (by decide), List.singleton_append,
      Nat.ofDigits_cons, Nat.ofDigits_singleton]
    rfl
  rw [hone, Nat.ofDigits_singleton] at hsame
  exact bit_of_negated (by omega) hsame

theorem nonneg_of_separate (hx : -9 ≤ x) : 0 ≤ x := by
  by_cases hhigh : high = []
  · obtain rfl := hhigh
    exact nonneg_of_last hlength hc hx
  · exact nonneg_of_middle hlength hc hhigh

end Separate

theorem apart_of_places : ∀ {ports : List Int} (_ : ∀ low x high, ports = low ++ x :: high →
    (0 ≤ x ∧ x ≤ 99) ∧ (high ≠ [] → x ≤ 9 ∧ x % 2 ^ (high.length + 1) ≤ 1)), Apart ports
  | [], _ => trivial
  | [x], h => (h [] x [] rfl).1
  | x :: y :: ports, h => by
    obtain ⟨⟨h0, _⟩, hplace⟩ := h [] x (y :: ports) rfl
    obtain ⟨h9, hcarry⟩ := hplace (List.cons_ne_nil y ports)
    refine ⟨h0, h9, hcarry, apart_of_places fun low z high hsplit => h (x :: low) z high ?_⟩
    rw [hsplit, List.cons_append]

theorem apart_of_separate {c : Char} {ports : List Int} (hlength : ports.length = 8)
    (h : Separate c ports) : Apart ports := by
  refine apart_of_places fun low x high hsplit => ?_
  obtain rfl := hsplit
  have hplaces : low.length + high.length = 7 := by
    rw [List.length_append, List.length_cons] at hlength
    omega
  have htext := length_signed_le_of_mem (show x ∈ low ++ x :: high by simp)
  have hfits := portsFrame_eq_ok_iff.mp h.built
  obtain ⟨hlow, h99⟩ := bounds_of_length (show (signed x).length ≤ 2 by omega)
  have h0 := nonneg_of_separate hplaces h hlow
  refine ⟨⟨h0, h99⟩, ?_⟩
  intro hhigh
  have h9 := le_nine_of_separate hplaces h h99 hhigh
  exact ⟨h9, low_bits_of_separate hplaces h h0 h9⟩

theorem separate_iff {c : Char} {ports : List Int} (hc : c.toUInt8 ≠ etx) (hlength : ports.length = 8) :
    Separate c ports ↔ Apart ports ∧ ports.map (· % 2) ≠ etxParities := by
  constructor
  · intro h
    have hports := apart_of_separate hlength h
    exact ⟨hports, (not_congr (portsByte_eq_etx_iff_of_apart hports hlength)).mp h.terminated⟩
  · rintro ⟨hports, hetx⟩
    exact separate_of_apart hc hports hlength hetx

/--
**The ports of `power_set_OutputPort` and `power_set_Enable` do not influence each other, and the
frame ends at its own `ETX`, exactly if the ports are apart and the odd ones are not 0, 1, 4, 6, 7.**
-/
theorem ports_separate_iff (line : Line) (port0 port1 port2 port3 port4 port5 port6 port7 : Int) :
    let ports := [port0, port1, port2, port3, port4, port5, port6, port7]
    powerSetOutputPort line port0 port1 port2 port3 port4 port5 port6 port7 = (do
        let (data, index) ← portsFrame 'O' ports
        let (ret, _, line) ← exchange getResponse line data index
        return (ret, line)) ∧
      powerSetEnable line port0 port1 port2 port3 port4 port5 port6 port7 = (do
        let (data, index) ← portsFrame 'E' ports
        let (ret, _, line) ← exchange getResponse line data index
        return (ret, line)) ∧
      (Separate 'O' ports ↔ Apart ports ∧ ports.map (· % 2) ≠ etxParities) ∧
      (Separate 'E' ports ↔ Apart ports ∧ ports.map (· % 2) ≠ etxParities) :=
  ⟨portsCommand_eq _ _ _, portsCommand_eq _ _ _, separate_iff (by decide) rfl,
    separate_iff (by decide) rfl⟩

/-- Port 0 sets the bit of port 1, two negative ports do not fit, and five ports give `ETX`. -/
theorem ports_not_separate :
    portBit [2, 0, 0, 0, 0, 0, 0, 0] 1 = true ∧ portBit [0, 0, 0, 0, 0, 0, 0, 0] 1 = false ∧
      portsFrame 'O' [-1, -1, 0, 0, 0, 0, 0, 0] = .error (.store 10) ∧
      portsByte [1, 1, 0, 0, 1, 0, 1, 1] = etx ∧
      ¬ Separate 'O' [2, 0, 0, 0, 0, 0, 0, 0] ∧ ¬ Separate 'O' [1, 1, 0, 0, 1, 0, 1, 1] := by
  refine ⟨by decide, by decide, by decide, by decide, fun h => ?_, fun h => h.terminated (by decide)⟩
  have hbit := h.independent [2, 0, 0, 0, 0, 0, 0, 0] (List.replicate 8 0) (mixed_refl _) (mixed_zeros _)
    1 (by decide) rfl
  exact absurd hbit (by decide)

end Tetra.Serial.Power
