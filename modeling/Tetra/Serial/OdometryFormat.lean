import Tetra.Lib.SignMagnitude
import Tetra.Serial.Odometry

/-!
# The format of the odometry

The reply to `drvm_set_velocity2` has seven numbers in 16 bytes: the pose, two velocities, the bumper
and the emergency stop. `odometry_inverts` says that the function takes from it what the drive has put
into it, and that nothing else in the payload is lost but the sign of a zero.
-/

namespace Tetra.Serial.Drive

open Arrival Memory SignMagnitude Tetra.Drive

/-! ## The fields of a buffer -/

/-- `k` cells from an offset on. -/
def field (data : Buffer) (offset k : Nat) : List UInt8 :=
  (List.range k).map fun i => data.getD (offset + i) 0

theorem signedRaw_magnitude (b : UInt8) (bs : List UInt8) :
    signedRaw (b.toNat >>> 7) (magnitude (b :: bs)) = (value (b :: bs) : ℚ) := by
  have hlt := UInt8.toNat_lt b
  rw [signedRaw, value, Nat.shiftRight_eq_div_pow]
  by_cases hb : b.toNat < 128
  · rw [if_pos (by omega), if_pos hb, Int.cast_natCast]
  · rw [if_neg (by omega), if_neg hb, Int.cast_neg, Int.cast_natCast]

/-- Every output is the number in its field. -/
theorem decodeOdometry_eq (data : Buffer) :
    decodeOdometry data =
      { xPos := (value (field data 2 4) : ℚ)
        yPos := (value (field data 6 4) : ℚ)
        theta := (unsigned (field data 10 2) : ℚ)
        velocityL := (value (field data 12 2) : ℚ)
        velocityA := (value (field data 14 2) : ℚ)
        bumper := (data.getD 16 0).toNat
        emg := (data.getD 17 0).toNat } := by
  have hlong : ∀ i, signedRaw (byteAt data i >>> 7)
      ((byteAt data (i + 3) &&& 0xff) ||| ((byteAt data (i + 2) <<< 8) &&& 0xff00) |||
        ((byteAt data (i + 1) <<< 16) &&& 0xff0000) ||| ((byteAt data i <<< 24) &&& 0x7f000000)) =
      (value (field data i 4) : ℚ) := by
    intro i
    rw [byteAt, byteAt, byteAt, byteAt, or_four_signed, signedRaw_magnitude]
    rfl
  have hshort : ∀ i, signedRaw (byteAt data i >>> 7)
      ((byteAt data (i + 1) &&& 0xff) ||| ((byteAt data i <<< 8) &&& 0x7f00)) =
      (value (field data i 2) : ℚ) := by
    intro i
    rw [byteAt, byteAt, or_two_signed, signedRaw_magnitude]
    rfl
  have htheta : (byteAt data 11 &&& 0xff) ||| ((byteAt data 10 <<< 8) &&& 0xff00) =
      unsigned (field data 10 2) := or_two _ _
  rw [decodeOdometry, hlong 2, hlong 6, htheta, hshort 12, hshort 14, byteAt, byteAt, and_byte, and_byte]

/-! ## Accepted replies -/

section Accepted

variable {line line' : Line} {left right : Int} {odometry out : Odometry} {r : Reaction}
  {more : List Reaction}

/-- The call returns 0 on a reply that is received and decodable, and its outputs are what the reply
says. -/
theorem drvmSetVelocity2_zero_iff (hleft : -2147483648 < left) (hright : -2147483648 < right)
    (hline : line.reactions = r :: more) :
    (∃ line', drvmSetVelocity2 line left right odometry = .ok (0, out, line')) ↔
      ¬ line.fd < 0 ∧ 0 < r.written ∧ (fixed r.arrivals).verdict = 0 ∧
        Decodable (fixed r.arrivals).frame ∧ decodeOdometry (fixed r.arrivals).frame = out := by
  obtain ⟨line₁, hcall⟩ := drvmSetVelocity2_outcome odometry hleft hright hline
  rw [hcall]
  by_cases hfd : line.fd < 0
  · simp [hfd]
  · by_cases hw : r.written ≤ 0
    · simp [hfd, hw]
    · by_cases hd : Decodable (fixed r.arrivals).frame
      · simp [hfd, hw, hd, lt_of_not_ge hw]
      · simp [hfd, hw, hd]

/-- What is put out with the result 0 is what an accepted reply says. -/
theorem decodeOdometry_of_zero (hline : line.reactions = r :: more)
    (h : drvmSetVelocity2 line left right odometry = .ok (0, out, line')) :
    decodeOdometry (fixed r.arrivals).frame = out := by
  by_cases hint : -2147483648 < left ∧ -2147483648 < right
  · obtain ⟨-, -, -, -, hout⟩ := (drvmSetVelocity2_zero_iff hint.1 hint.2 hline).mp ⟨line', h⟩
    exact hout
  · rw [drvmSetVelocity2_overflow hint] at h
    exact absurd h (by simp)

/-- Behind the `STX`, a reply of 20 bytes is received whole. -/
theorem fixed_reply {front rest : Port} {body : List UInt8} (hfront : Delivers front (stx :: body))
    (hbody : body.length = 19) : fixed (front ++ rest) = ⟨[], stx :: body, true, rest⟩ := by
  obtain ⟨more, back, rfl, hback⟩ := hfront.of_cons
  have hstx : Delivers [Arrival.item stx more] ([] ++ [stx]) := by simp
  have hreceive : fixed ([.item stx more] ++ (back ++ rest)) = _ := fixed_of_delivers hstx (by simp)
  rw [intake_countdown_iff.mpr ⟨hbody, back, hback, rfl⟩] at hreceive
  exact hreceive

end Accepted

/-! ## The reply of the drive -/

/-- The reply that carries these numbers. -/
def odometryReply (x y : Int) (theta : Nat) (velocityL velocityA : Int) (bumper emg : UInt8) :
    List UInt8 :=
  let content := flagOk :: encode 3 x ++ encode 3 y ++ bytes 2 theta ++ encode 1 velocityL ++
    encode 1 velocityA ++ [bumper, emg, etx]
  stx :: content ++ [lrc content]

section Reply

variable {x y velocityL velocityA : Int} {theta : Nat} {bumper emg : UInt8}

theorem accepted_closed {content : List UInt8} (h : content[0]? = some flagOk) :
    Accepted (stx :: content ++ [lrc content]) := by
  refine ⟨?_, ?_⟩
  · rw [List.cons_append, List.getElem?_cons_succ, List.getElem?_append_left, h]
    exact (List.getElem?_eq_some_iff.mp h).1
  · rw [List.getLast?_concat, List.cons_append, List.tail_cons, List.dropLast_concat]

theorem accepted_odometryReply :
    Accepted (odometryReply x y theta velocityL velocityA bumper emg) := by
  unfold odometryReply
  exact accepted_closed rfl

theorem decodable_odometryReply :
    Decodable (odometryReply x y theta velocityL velocityA bumper emg) :=
  ⟨rfl, Or.inl rfl, rfl⟩

theorem decodeOdometry_odometryReply (hx : x.natAbs < 2 ^ 31) (hy : y.natAbs < 2 ^ 31)
    (htheta : theta < 2 ^ 16) (hl : velocityL.natAbs < 2 ^ 15) (ha : velocityA.natAbs < 2 ^ 15) :
    decodeOdometry (odometryReply x y theta velocityL velocityA bumper emg) =
      ⟨x, y, theta, velocityL, velocityA, bumper.toNat, emg.toNat⟩ := by
  have hfx : field (odometryReply x y theta velocityL velocityA bumper emg) 2 4 = encode 3 x := rfl
  have hfy : field (odometryReply x y theta velocityL velocityA bumper emg) 6 4 = encode 3 y := rfl
  have hft : field (odometryReply x y theta velocityL velocityA bumper emg) 10 2 = bytes 2 theta := rfl
  have hfl : field (odometryReply x y theta velocityL velocityA bumper emg) 12 2 =
      encode 1 velocityL := rfl
  have hfa : field (odometryReply x y theta velocityL velocityA bumper emg) 14 2 =
      encode 1 velocityA := rfl
  rw [decodeOdometry_eq, hfx, hfy, hft, hfl, hfa, value_encode hx, value_encode hy,
    unsigned_bytes htheta, value_encode hl, value_encode ha]
  rfl

end Reply

/-! ## What the outputs say of the payload -/

/-- Two fields are the same, or they are zeros that may differ in their sign. -/
def SameNumber (bs bs' : List UInt8) : Prop := bs = bs' ∨ (value bs = 0 ∧ SameButSign bs bs')

/-- The 16 bytes of payload are the same, but for the sign of a zero. -/
structure SamePayload (frame frame' : List UInt8) : Prop where
  x : SameNumber (field frame 2 4) (field frame' 2 4)
  y : SameNumber (field frame 6 4) (field frame' 6 4)
  theta : field frame 10 2 = field frame' 10 2
  velocityL : SameNumber (field frame 12 2) (field frame' 12 2)
  velocityA : SameNumber (field frame 14 2) (field frame' 14 2)
  bumper : frame.getD 16 0 = frame'.getD 16 0
  emg : frame.getD 17 0 = frame'.getD 17 0

theorem sameNumber_of_value_eq {b b' : UInt8} {bs bs' : List UInt8}
    (hlength : (b :: bs).length = (b' :: bs').length) (h : value (b :: bs) = value (b' :: bs')) :
    SameNumber (b :: bs) (b' :: bs') := by
  by_cases hzero : value (b :: bs) = 0
  · exact .inr ⟨hzero, sameButSign_of_value_eq hlength h⟩
  · exact .inl (eq_of_value_eq hlength h hzero)

theorem samePayload_of_decodeOdometry_eq {frame frame' : List UInt8}
    (h : decodeOdometry frame = decodeOdometry frame') : SamePayload frame frame' := by
  rw [decodeOdometry_eq, decodeOdometry_eq, Odometry.mk.injEq] at h
  obtain ⟨hx, hy, htheta, hl, ha, hbumper, hemg⟩ := h
  refine ⟨sameNumber_of_value_eq rfl (Int.cast_inj.mp hx), sameNumber_of_value_eq rfl (Int.cast_inj.mp hy),
    unsigned_inj rfl (Nat.cast_inj.mp htheta), sameNumber_of_value_eq rfl (Int.cast_inj.mp hl),
    sameNumber_of_value_eq rfl (Int.cast_inj.mp ha), ?_, ?_⟩
  · exact UInt8.toNat_inj.mp (Nat.cast_inj.mp hbumper)
  · exact UInt8.toNat_inj.mp (Nat.cast_inj.mp hemg)

/--
**`drvm_set_velocity2` puts out the numbers that the drive's reply carries; and two accepted replies
with the same outputs have the same payload, but for the sign of a zero.**
-/
theorem odometry_inverts :
    (∀ (line : Line) (left right : Int) (odometry : Odometry) (r : Reaction) (more : List Reaction)
      (front rest : Port) (x y : Int) (theta : Nat) (velocityL velocityA : Int) (bumper emg : UInt8),
      -2147483648 < left → -2147483648 < right → ¬ line.fd < 0 → line.reactions = r :: more →
      0 < r.written → x.natAbs < 2 ^ 31 → y.natAbs < 2 ^ 31 → theta < 2 ^ 16 →
      velocityL.natAbs < 2 ^ 15 → velocityA.natAbs < 2 ^ 15 →
      Delivers front (odometryReply x y theta velocityL velocityA bumper emg) →
      r.arrivals = front ++ rest →
      ∃ line', drvmSetVelocity2 line left right odometry =
        .ok (0, ⟨x, y, theta, velocityL, velocityA, bumper.toNat, emg.toNat⟩, line')) ∧
    ∀ (line₁ line₁' line₂ line₂' : Line) (left₁ right₁ left₂ right₂ : Int)
      (odometry₁ odometry₂ out : Odometry) (r₁ r₂ : Reaction) (more₁ more₂ : List Reaction),
      line₁.reactions = r₁ :: more₁ → line₂.reactions = r₂ :: more₂ →
      drvmSetVelocity2 line₁ left₁ right₁ odometry₁ = .ok (0, out, line₁') →
      drvmSetVelocity2 line₂ left₂ right₂ odometry₂ = .ok (0, out, line₂') →
      SamePayload (fixed r₁.arrivals).frame (fixed r₂.arrivals).frame := by
  constructor
  · intro line left right odometry r more front rest x y theta velocityL velocityA bumper emg
      hleft hright hfd hline hwritten hx hy htheta hl ha hfront harrivals
    have hlength : ∀ body, odometryReply x y theta velocityL velocityA bumper emg = stx :: body →
        body.length = 19 := by
      rintro body hbody
      have hcount := congrArg List.length hbody
      simp [odometryReply] at hcount
      omega
    have hfixed : fixed r.arrivals =
        ⟨[], odometryReply x y theta velocityL velocityA bumper emg, true, rest⟩ := by
      rw [harrivals]
      exact fixed_reply hfront (hlength _ rfl)
    refine (drvmSetVelocity2_zero_iff hleft hright hline).mpr ⟨hfd, hwritten, ?_⟩
    rw [hfixed]
    exact ⟨Reception.verdict_eq_zero_iff.mpr ⟨rfl, accepted_odometryReply⟩, decodable_odometryReply,
      decodeOdometry_odometryReply hx hy htheta hl ha⟩
  · intro line₁ line₁' line₂ line₂' left₁ right₁ left₂ right₂ odometry₁ odometry₂ out r₁ r₂ more₁ more₂
      hline₁ hline₂ hcall₁ hcall₂
    refine samePayload_of_decodeOdometry_eq ?_
    rw [decodeOdometry_of_zero hline₁ hcall₁, decodeOdometry_of_zero hline₂ hcall₂]

/-- A reply with large and with negative numbers, and one whose zeros have a sign. -/
theorem odometry_inverts_far :
    (∃ line', drvmSetVelocity2 (answeringBytes (odometryReply (-2000000000) 65536 35999 (-300) 0 2 1))
      100 100 atRest = .ok (0, ⟨-2000000000, 65536, 35999, -300, 0, 2, 1⟩, line')) ∧
    SamePayload (fixed ((odometryReply 0 0 0 0 0 0 0).map (.item · true))).frame
      (fixed (([stx, flagOk, 0x80] ++ List.replicate 15 0 ++ [etx, 0xb3]).map (.item · true))).frame := by
  refine ⟨odometry_inverts.1 (answeringBytes (odometryReply (-2000000000) 65536 35999 (-300) 0 2 1)) 100
    100 atRest _ [] _ [] (-2000000000) 65536 35999 (-300) 0 2 1 (by decide) (by decide) (by decide) rfl
    (by decide) (by decide) (by decide) (by decide) (by decide) (by decide) (delivers_map_item _ true)
    (List.append_nil _).symm, ?_⟩
  have hfirst : ∃ line', drvmSetVelocity2 (answeringBytes (odometryReply 0 0 0 0 0 0 0)) 0 0 atRest =
      .ok (0, atRest, line') :=
    (drvmSetVelocity2_zero_iff (by decide) (by decide) rfl).mpr
      ⟨by decide, by decide, by decide +kernel, by decide +kernel, by decide +kernel⟩
  have hsecond : ∃ line', drvmSetVelocity2
      (answeringBytes ([stx, flagOk, 0x80] ++ List.replicate 15 0 ++ [etx, 0xb3])) 0 0 atRest =
        .ok (0, atRest, line') :=
    (drvmSetVelocity2_zero_iff (by decide) (by decide) rfl).mpr
      ⟨by decide, by decide, by decide +kernel, by decide +kernel, by decide +kernel⟩
  obtain ⟨line₁, hcall₁⟩ := hfirst
  obtain ⟨line₂, hcall₂⟩ := hsecond
  exact odometry_inverts.2 _ _ _ _ 0 0 0 0 atRest atRest atRest _ _ [] [] rfl rfl hcall₁ hcall₂

end Tetra.Serial.Drive
