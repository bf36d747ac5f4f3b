import Tetra.Serial.Drive

/-!
# Which replies the odometry is taken from

`drvm_set_velocity2` decodes its buffer if three bytes in it are what they should be; what
`get_response2` has found out about the reply is only returned. So the outputs change for a reply
whose last byte is missing or wrong (`odometry_trusted_iff`).
-/

namespace Tetra.Serial.Drive

open Arrival Memory Tetra.Drive

/-! ## Decoding a reception -/

section Cleared

variable {r : Reception} {n : Nat}

theorem decodable_fill_zero : Decodable (r.fill (List.replicate n 0)) ↔ Decodable r.frame := by
  unfold Decodable
  rw [Reception.byteAt_fill_zero Nat.one_pos, Reception.byteAt_fill_zero (by decide : 0 < 18)]
  by_cases hframe : r.frame = []
  · -- without a reply the flag is missing
    have hflag : byteAt r.frame 1 = 0 := by rw [hframe]; rfl
    rw [hflag]
    simp
  · have hfirst : byteAt (r.fill (List.replicate n 0)) 0 = byteAt r.frame 0 := by
      rw [Reception.fill_of_frame hframe]
      unfold byteAt
      rw [List.getD_append _ _ _ _ (List.length_pos_of_ne_nil hframe)]
    rw [hfirst]

theorem decodeOdometry_fill_zero :
    decodeOdometry (r.fill (List.replicate n 0)) = decodeOdometry r.frame := by
  unfold decodeOdometry
  simp only [Reception.byteAt_fill_zero, Nat.ofNat_pos]

end Cleared

/-! ## What `drvm_set_velocity2` does -/

theorem velocityBytes_eq {v : Int} (h : -2147483648 < v) : ∃ b c, velocityBytes v = .ok [b, c] := by
  unfold velocityBytes
  rw [if_neg (by omega)]
  exact ⟨_, _, rfl⟩

theorem velocityBytes_overflow {v : Int} (h : ¬ -2147483648 < v) :
    velocityBytes v = .error .overflow := by
  unfold velocityBytes
  rw [if_pos (by omega)]
  rfl

section SetVelocity2

variable {line : Line} {left right : Int} {odometry : Odometry} {r : Reaction} {more : List Reaction}

theorem drvmSetVelocity2_overflow (h : ¬ (-2147483648 < left ∧ -2147483648 < right)) :
    drvmSetVelocity2 line left right odometry = .error .overflow := by
  unfold drvmSetVelocity2
  by_cases hleft : -2147483648 < left
  · obtain ⟨b, c, hbytes⟩ := velocityBytes_eq hleft
    rw [hbytes, ok_bind, velocityBytes_overflow (fun hright => h ⟨hleft, hright⟩), error_bind]
  · rw [velocityBytes_overflow hleft, error_bind]

theorem drvmSetVelocity2_eq {b c b' c' : UInt8} (hleft : velocityBytes left = .ok [b, c])
    (hright : velocityBytes right = .ok [b', c']) (hfd : ¬ line.fd < 0) :
    drvmSetVelocity2 line left right odometry =
      let buf := packetBuf 255 (packet ['B'.toUInt8, 'V'.toUInt8, b, c, b', c'])
      if (line.reaction 9).written ≤ 0 then .ok (-2, odometry, line.wrote buf 9)
      else do
        let (ret, data, line) ← (line.wrote buf 9).receive getResponse2 (List.replicate 255 0)
        if Decodable data then return (ret, decodeOdometry data, line)
        else return (-2, odometry, line) := by
  have hframe : closeFrame (packetBuf 255 (letters 'B' 'V' ++ [b, c] ++ [b', c'])) 7 =
      .ok (packetBuf 255 (packet ['B'.toUInt8, 'V'.toUInt8, b, c, b', c']), 9) := by
    have hclose : closeFrame (packetBuf 255 (letters 'B' 'V' ++ [b, c, b', c'])) 7 = _ :=
      closeFrame_text (show [b, c, b', c'].length + 5 ≤ 255 by simp)
    exact hclose
  have hclear : fill 255 0 (packetBuf 255 (packet ['B'.toUInt8, 'V'.toUInt8, b, c, b', c'])) =
      List.replicate 255 0 := fill_packetBuf (by simp) le_rfl
  unfold drvmSetVelocity2
  rw [hleft, ok_bind, hright, ok_bind, if_neg hfd, hframe, ok_bind, ← hclear]
  rfl

/-- What the call returns and what it makes of its outputs. -/
theorem drvmSetVelocity2_outcome (odometry : Odometry) (hleft : -2147483648 < left)
    (hright : -2147483648 < right) (hline : line.reactions = r :: more) :
    ∃ line', drvmSetVelocity2 line left right odometry = .ok (
      if line.fd < 0 then (-1, odometry, line')
      else if r.written ≤ 0 then (-2, odometry, line')
      else if Decodable (fixed r.arrivals).frame then
        ((fixed r.arrivals).verdict, decodeOdometry (fixed r.arrivals).frame, line')
      else (-2, odometry, line')) := by
  obtain ⟨b, c, hbytes⟩ := velocityBytes_eq hleft
  obtain ⟨b', c', hbytes'⟩ := velocityBytes_eq hright
  by_cases hfd : line.fd < 0
  · refine ⟨line, ?_⟩
    unfold drvmSetVelocity2
    rw [hbytes, ok_bind, hbytes', ok_bind, if_pos hfd, if_pos hfd]
    rfl
  · simp only [if_neg hfd, drvmSetVelocity2_eq hbytes hbytes' hfd, Line.written_eq hline]
    by_cases hw : r.written ≤ 0
    · simp only [if_pos hw]
      exact ⟨_, rfl⟩
    · have hsize : 20 ≤ (List.replicate 255 (0 : UInt8)).length := by
        rw [List.length_replicate]
        decide
      have hreceive := getResponse2_eq r.arrivals hsize
      rw [← Line.port_wrote hline (packetBuf 255 (packet ['B'.toUInt8, 'V'.toUInt8, b, c, b', c'])) 9]
        at hreceive
      simp only [if_neg hw, Line.receive_of_ok hreceive, ok_bind, Line.port_wrote hline,
        decodable_fill_zero, decodeOdometry_fill_zero]
      by_cases hd : Decodable (fixed r.arrivals).frame
      · simp only [if_pos hd]
        exact ⟨_, rfl⟩
      · simp only [if_neg hd]
        exact ⟨_, rfl⟩

/-- What the outputs are when the function returns. -/
theorem drvmSetVelocity2_cases (odometry : Odometry) (hleft : -2147483648 < left)
    (hright : -2147483648 < right) (hline : line.reactions = r :: more) :
    ∃ ret line', drvmSetVelocity2 line left right odometry = .ok (ret,
      if line.fd < 0 ∨ r.written ≤ 0 ∨ ¬ Decodable (fixed r.arrivals).frame then odometry
      else decodeOdometry (fixed r.arrivals).frame, line') := by
  obtain ⟨line', hcall⟩ := drvmSetVelocity2_outcome odometry hleft hright hline
  rw [hcall]
  by_cases hfd : line.fd < 0
  · exact ⟨-1, line', by simp [hfd]⟩
  · by_cases hw : r.written ≤ 0
    · exact ⟨-2, line', by simp [hfd, hw]⟩
    · by_cases hd : Decodable (fixed r.arrivals).frame
      · exact ⟨(fixed r.arrivals).verdict, line', by simp [hfd, hw, hd]⟩
      · exact ⟨-2, line', by simp [hfd, hw, hd]⟩

end SetVelocity2

/-! ## When the outputs are only taken from whole replies -/

/-- All the bytes of a reply, the last one being the XOR of those between the first and itself. -/
def WholeReply (frame : List UInt8) : Prop :=
  frame.length = 20 ∧ frame[19]? = some (lrc ((frame.drop 1).take 18))

instance (frame : List UInt8) : Decidable (WholeReply frame) := inferInstanceAs (Decidable (_ ∧ _))

/-- A call that returns, and that changes an output only for a whole reply. -/
def Trusted (result : Except Fault (Int × Odometry × Line)) (odometry : Odometry)
    (frame : List UInt8) : Prop :=
  ∃ ret odometry' line', result = .ok (ret, odometry', line') ∧
    (odometry' ≠ odometry → WholeReply frame)

/-- No outputs are what every reply says. -/
theorem exists_ne_decodeOdometry (frame : List UInt8) :
    ∃ odometry, decodeOdometry frame ≠ odometry := by
  refine ⟨{ decodeOdometry frame with xPos := (decodeOdometry frame).xPos + 1 }, ?_⟩
  intro hsame
  have hx := congrArg Odometry.xPos hsame
  simp at hx

/--
**The odometry is taken from whole replies only, exactly if no reply that is not whole passes the
test of three bytes.**
-/
theorem odometry_trusted_iff (line : Line) (left right : Int) (r : Reaction) (more : List Reaction)
    (hline : line.reactions = r :: more) :
    (∀ odometry,
      Trusted (drvmSetVelocity2 line left right odometry) odometry (fixed r.arrivals).frame) ↔
      -2147483648 < left ∧ -2147483648 < right ∧ (line.fd < 0 ∨ r.written ≤ 0 ∨
        WholeReply (fixed r.arrivals).frame ∨ ¬ Decodable (fixed r.arrivals).frame) := by
  constructor
  · intro htrusted
    obtain ⟨odometry, hne⟩ := exists_ne_decodeOdometry (fixed r.arrivals).frame
    obtain ⟨ret', odometry', line'', hok, hwhole⟩ := htrusted odometry
    by_cases hint : -2147483648 < left ∧ -2147483648 < right
    · obtain ⟨ret, line', hresult⟩ := drvmSetVelocity2_cases odometry hint.1 hint.2 hline
      rw [hresult] at hok
      simp only [Except.ok.injEq, Prod.mk.injEq] at hok
      obtain ⟨-, rfl, -⟩ := hok
      refine ⟨hint.1, hint.2, ?_⟩
      by_cases hnone : line.fd < 0 ∨ r.written ≤ 0 ∨ ¬ Decodable (fixed r.arrivals).frame
      · tauto
      · rw [if_neg hnone] at hwhole
        have := hwhole hne
        tauto
    · rw [drvmSetVelocity2_overflow hint] at hok
      exact absurd hok (by simp)
  · rintro ⟨hleft, hright, hor⟩ odometry
    obtain ⟨ret, line', hresult⟩ := drvmSetVelocity2_cases odometry hleft hright hline
    refine ⟨ret, _, line', hresult, ?_⟩
    intro hchanged
    by_cases hnone : line.fd < 0 ∨ r.written ≤ 0 ∨ ¬ Decodable (fixed r.arrivals).frame
    · exact absurd (if_pos hnone) hchanged
    · tauto

/-- A line on which the next command is answered with these bytes. -/
def answeringBytes (bytes : List UInt8) : Line where
  fd := 3
  reactions := [⟨9, bytes.map (.item · true)⟩]

/-- The first 19 bytes of a reply: `x` is 1, and nothing else is reported. -/
def movedReply : List UInt8 := [stx, flagOk, 0, 0, 0, 1] ++ List.replicate 12 0 ++ [etx]

/-- The outputs before the first reply. -/
def atRest : Odometry := ⟨0, 0, 0, 0, 0, 0, 0⟩

theorem odometry_trusted_whole :
    Trusted (drvmSetVelocity2 (answeringBytes (movedReply ++ [0x32])) 100 (-100) atRest) atRest
      (fixed ((movedReply ++ [0x32]).map (.item · true))).frame :=
  (odometry_trusted_iff (answeringBytes (movedReply ++ [0x32])) 100 (-100) _ [] rfl).mpr
    ⟨by decide, by decide, Or.inr (Or.inr (Or.inl (by decide +kernel)))⟩ atRest

/-- `x` becomes 1 although the last byte has not come, or is wrong; the function returns -1. -/
theorem odometry_not_trusted :
    (drvmSetVelocity2 (answeringBytes movedReply) 0 0 atRest).map (fun r => (r.1, r.2.1)) =
        .ok (-1, { atRest with xPos := 1 }) ∧
      ¬ WholeReply (fixed (movedReply.map (.item · true))).frame ∧
    (drvmSetVelocity2 (answeringBytes (movedReply ++ [0])) 0 0 atRest).map (fun r => (r.1, r.2.1)) =
        .ok (-1, { atRest with xPos := 1 }) ∧
      ¬ WholeReply (fixed ((movedReply ++ [0]).map (.item · true))).frame := by
  refine ⟨by decide +kernel, by decide +kernel, by decide +kernel, by decide +kernel⟩

end Tetra.Serial.Drive
