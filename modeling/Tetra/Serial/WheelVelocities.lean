import Tetra.Lib.SignMagnitude
import Tetra.Serial.Odometry

/-!
# The wheel velocities on the wire

`drvm_set_velocity2` sends each velocity as two bytes with the sign in the first bit. What it sends is
the velocity cut off at 32767 (`velocityBytes_encode`), but for the one `int` that has no negation.
-/

namespace Tetra.Serial.Drive

open Arrival Memory SignMagnitude Tetra.Drive

/-! ## The two bytes of a velocity -/

/-- A velocity is sent as the nearest number that two bytes have room for. -/
theorem velocityBytes_encode {v : Int} (h : -2147483648 < v) :
    velocityBytes v = .ok (encode 1 (saturate 32767 v)) := by
  have hmag : (if (if v < 0 then -v else v) > 0x7FFF then 0x7FFF
      else (if v < 0 then -v else v)).toNat = (saturate 32767 v).natAbs := by
    unfold saturate
    split <;> split <;> omega
  have hsign : v < 0 ↔ saturate 32767 v < 0 := by
    unfold saturate
    omega
  have hle : (saturate 32767 v).natAbs ≤ 32767 := by
    unfold saturate
    omega
  have hlow : (saturate 32767 v).natAbs &&& 0xFF = (saturate 32767 v).natAbs % 256 :=
    Nat.and_two_pow_sub_one_eq_mod _ 8
  have hhigh : ((saturate 32767 v).natAbs >>> 8) &&& 0x7F = (saturate 32767 v).natAbs / 256 := by
    rw [Nat.shiftRight_eq_div_pow, show 0x7F = 2 ^ 7 - 1 from rfl, Nat.and_two_pow_sub_one_eq_mod]
    exact Nat.mod_eq_of_lt (by omega)
  have hfirst : (if v < 0 then 0x80 else 0) ||| (saturate 32767 v).natAbs / 256 =
      (if saturate 32767 v < 0 then 128 else 0) + (saturate 32767 v).natAbs / 256 := by
    by_cases hneg : v < 0
    · rw [if_pos hneg, if_pos (hsign.mp hneg)]
      exact (Nat.two_pow_add_eq_or_of_lt (i := 7) (by omega) 1).symm
    · rw [if_neg hneg, if_neg (fun hs => hneg (hsign.mpr hs)), Nat.zero_or, Nat.zero_add]
  rw [velocityBytes, if_neg (by omega)]
  simp only
  rw [hmag, hhigh, hlow, hfirst]
  simp [encode, bytes]

/-! ## What is transmitted -/

/-- The two velocities in a frame of `drvm_set_velocity2`. -/
def payload (frame : List UInt8) : Int × Int :=
  (value ((frame.drop 3).take 2), value ((frame.drop 5).take 2))

/-- The call returns, having written a frame with the velocities `l` and `r`. -/
def Transmits (line : Line) (left right : Int) (odometry : Odometry) (l r : Int) : Prop :=
  ∃ ret odometry' line' frame, drvmSetVelocity2 line left right odometry = .ok (ret, odometry', line') ∧
    line.WritesFirst line' frame ∧ payload frame = (l, r)

/-- There is one frame that is written first. -/
theorem writesFirst_unique {line line' : Line} {frame frame' : List UInt8}
    (h : line.WritesFirst line' frame) (h' : line.WritesFirst line' frame') : frame = frame' := by
  obtain ⟨r, hr⟩ := h
  obtain ⟨r', hr'⟩ := h'
  have hlength : (line.log ++ [Traffic.wrote frame r.written r.arrivals]).length =
      (line.log ++ [Traffic.wrote frame' r'.written r'.arrivals]).length := by simp
  have heq := (List.prefix_of_prefix_length_le hr hr' hlength.le).eq_of_length hlength
  obtain ⟨rfl, -, -⟩ := by simpa using heq
  rfl

section Transmits

variable {line : Line} {left right left' right' l r l' r' : Int} {odometry odometry' : Odometry}

theorem drvmSetVelocity2_writes (odometry : Odometry) (hleft : -2147483648 < left)
    (hright : -2147483648 < right) (hfd : ¬ line.fd < 0) :
    ∃ ret odometry' line', drvmSetVelocity2 line left right odometry = .ok (ret, odometry', line') ∧
      line.WritesFirst line' (packet (['B'.toUInt8, 'V'.toUInt8] ++ encode 1 (saturate 32767 left) ++
        encode 1 (saturate 32767 right))) := by
  obtain ⟨b, c, hbc⟩ : ∃ b c, encode 1 (saturate 32767 left) = [b, c] := ⟨_, _, rfl⟩
  obtain ⟨b', c', hbc'⟩ : ∃ b c, encode 1 (saturate 32767 right) = [b, c] := ⟨_, _, rfl⟩
  have hframe : packet (['B'.toUInt8, 'V'.toUInt8] ++ [b, c] ++ [b', c']) =
      (packetBuf 255 (packet ['B'.toUInt8, 'V'.toUInt8, b, c, b', c'])).take 9 :=
    (take_packetBuf 255 (packet ['B'.toUInt8, 'V'.toUInt8, b, c, b', c'])).symm
  rw [hbc, hbc', hframe, drvmSetVelocity2_eq (hbc ▸ velocityBytes_encode hleft)
    (hbc' ▸ velocityBytes_encode hright) hfd]
  simp only
  by_cases hw : (line.reaction 9).written ≤ 0
  · rw [if_pos hw]
    exact ⟨_, _, _, rfl, Line.writesFirst_of_prefix (List.prefix_refl _)⟩
  · have hreceive := Line.receive_of_ok (getResponse2_eq
      (line.wrote (packetBuf 255 (packet ['B'.toUInt8, 'V'.toUInt8, b, c, b', c'])) 9).port
      (show 20 ≤ (List.replicate 255 (0 : UInt8)).length by rw [List.length_replicate]; decide))
    rw [if_neg hw, hreceive, ok_bind]
    simp only
    split
    · exact ⟨_, _, _, rfl, Line.writesFirst_of_prefix (List.prefix_append _ _)⟩
    · exact ⟨_, _, _, rfl, Line.writesFirst_of_prefix (List.prefix_append _ _)⟩

theorem payload_packet {v w : Int} (hv : v.natAbs ≤ 32767) (hw : w.natAbs ≤ 32767) :
    payload (packet (['B'.toUInt8, 'V'.toUInt8] ++ encode 1 v ++ encode 1 w)) = (v, w) := by
  have hfirst : value (encode 1 v) = v := value_encode (by omega)
  have hsecond : value (encode 1 w) = w := value_encode (by omega)
  calc payload (packet (['B'.toUInt8, 'V'.toUInt8] ++ encode 1 v ++ encode 1 w))
      = (value (encode 1 v), value (encode 1 w)) := rfl
    _ = (v, w) := by rw [hfirst, hsecond]

theorem natAbs_saturate_le (v : Int) : (saturate 32767 v).natAbs ≤ 32767 := by
  unfold saturate
  omega

theorem transmits_saturated (odometry : Odometry) (hleft : -2147483648 < left)
    (hright : -2147483648 < right) (hfd : ¬ line.fd < 0) :
    Transmits line left right odometry (saturate 32767 left) (saturate 32767 right) := by
  obtain ⟨ret, odometry', line', hcall, hwrites⟩ := drvmSetVelocity2_writes odometry hleft hright hfd
  exact ⟨ret, odometry', line', _, hcall, hwrites,
    payload_packet (natAbs_saturate_le left) (natAbs_saturate_le right)⟩

/-- Nothing else is transmitted. -/
theorem eq_of_transmits (hfd : ¬ line.fd < 0) (h : Transmits line left right odometry l r) :
    (-2147483648 < left ∧ -2147483648 < right) ∧
      l = saturate 32767 left ∧ r = saturate 32767 right := by
  obtain ⟨ret, odometry₁, line₁, frame, hcall, hwrites, hpayload⟩ := h
  by_cases hint : -2147483648 < left ∧ -2147483648 < right
  · obtain ⟨ret', odometry₂, line₂, hcall', hwrites'⟩ :=
      drvmSetVelocity2_writes odometry hint.1 hint.2 hfd
    rw [hcall, Except.ok.injEq, Prod.mk.injEq, Prod.mk.injEq] at hcall'
    obtain ⟨-, -, rfl⟩ := hcall'
    rw [writesFirst_unique hwrites hwrites', payload_packet (natAbs_saturate_le left)
      (natAbs_saturate_le right), Prod.mk.injEq] at hpayload
    exact ⟨hint, hpayload.1.symm, hpayload.2.symm⟩
  · rw [drvmSetVelocity2_overflow hint] at hcall
    exact absurd hcall (by simp)

end Transmits

/--
**The velocities are sent cut off at 32767, exactly if none of them is `INT_MIN`.** So what is sent
grows with what is asked for, and has its sign.
-/
theorem velocities_saturate_iff (line : Line) (left right : Int) (odometry : Odometry)
    (hfd : ¬ line.fd < 0) :
    (Transmits line left right odometry (saturate 32767 left) (saturate 32767 right) ↔
      -2147483648 < left ∧ -2147483648 < right) ∧
    ∀ l r, Transmits line left right odometry l r →
      (0 ≤ left → 0 ≤ l) ∧ (left ≤ 0 → l ≤ 0) ∧ (0 ≤ right → 0 ≤ r) ∧ (right ≤ 0 → r ≤ 0) ∧
      ∀ left' right' l' r', Transmits line left' right' odometry l' r' →
        (left ≤ left' → l ≤ l') ∧ (right ≤ right' → r ≤ r') := by
  refine ⟨⟨fun h => (eq_of_transmits hfd h).1, fun h => transmits_saturated odometry h.1 h.2 hfd⟩, ?_⟩
  intro l r h
  obtain ⟨-, rfl, rfl⟩ := eq_of_transmits hfd h
  refine ⟨saturate_nonneg (by decide), saturate_nonpos (by decide), saturate_nonneg (by decide),
    saturate_nonpos (by decide), ?_⟩
  intro left' right' l' r' h'
  obtain ⟨-, rfl, rfl⟩ := eq_of_transmits hfd h'
  exact ⟨fun hle => saturate_le_saturate 32767 hle, fun hle => saturate_le_saturate 32767 hle⟩

/-- An open port on which the command is written and nothing comes back. -/
def openLine : Line := ⟨3, [], [], []⟩

theorem velocities_saturate_fast :
    Transmits openLine 40000 (-7) atRest 32767 (-7) ∧ (0 : Int) ≤ 32767 := by
  obtain ⟨hiff, hsigns⟩ := velocities_saturate_iff openLine 40000 (-7) atRest (by decide)
  have hsent := hiff.mpr (by decide)
  exact ⟨hsent, (hsigns _ _ hsent).1 (by decide)⟩

/-- Full speed back is a negation that is not defined. -/
theorem velocities_not_saturated :
    drvmSetVelocity2 openLine (-2147483648) 0 atRest = .error .overflow ∧
      ¬ Transmits openLine (-2147483648) 0 atRest (-32767) 0 := by
  have hcall : drvmSetVelocity2 openLine (-2147483648) 0 atRest = .error .overflow :=
    drvmSetVelocity2_overflow (by decide)
  refine ⟨hcall, ?_⟩
  rintro ⟨_, _, _, _, hok, _⟩
  rw [hcall] at hok
  exact absurd hok (by simp)

end Tetra.Serial.Drive
