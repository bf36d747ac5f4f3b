import Mathlib.Data.Nat.Bitwise
import Tetra.Serial.Drive
import Tetra.Serial.Frames

/-!
# The status of the drive

`drvm_read_drive_err` receives four bytes of bit masks with `get_response`, which stops at the first
`ETX`. `reads_status_iff` says what that costs: every status without an `ETX` among its bytes is read,
and behind every other one a part of the reply is left on the port.
-/

namespace Tetra.Serial

open Arrival Memory Tetra.Drive

/-! ## Replies with an `ETX` in their body -/

/-- The reception ends at the `ETX` in the body, one byte behind it at most. -/
theorem delimited_of_etx_mem {body : List UInt8} {front : Port} (hmem : etx ∈ body)
    (hfront : Delivers front (okReply body)) (rest : Port) :
    ∃ frame left, left ≠ [] ∧ frame.length ≤ (okReply body).length ∧
      delimited (front ++ rest) = ⟨[], frame, true, left ++ rest⟩ := by
  obtain ⟨before, behind, rfl, hbefore⟩ := List.eq_append_cons_of_mem hmem
  obtain ⟨l, tail, htail, hne⟩ : ∃ l tail, behind ++ [etx, lrc (flagOk :: (before ++ etx :: behind)
      ++ [etx])] = l :: tail ∧ tail ≠ [] := by
    cases behind with
    | nil => exact ⟨etx, _, rfl, by simp⟩
    | cons l behind => exact ⟨l, _, rfl, by simp⟩
  have hreply : okReply (before ++ etx :: behind) =
      (stx :: (flagOk :: before ++ [etx, l])) ++ tail := by
    simp only [okReply, List.append_assoc, List.cons_append, List.nil_append] at htail ⊢
    rw [htail]
  rw [hreply] at hfront ⊢
  obtain ⟨front, left, rfl, hframe, hleft⟩ := hfront.split
  refine ⟨stx :: (flagOk :: before ++ [etx, l]), left, ?_, by simp, ?_⟩
  · rintro rfl
    exact hne (delivers_nil_left.mp hleft)
  · rw [List.append_assoc]
    refine delimited_eq_complete_iff.mpr
      ⟨⟨flagOk :: before, l, rfl, ?_⟩, by simp, front, hframe, rfl⟩
    rintro (_ | ⟨_, h⟩)
    exact hbefore h

namespace Drive

/-! ## The status -/

/-- The status that four bytes report. -/
def statusOf (d0 d1 d2 d3 : UInt8) : DriveErr where
  leftErrorCode := d1.toNat
  rightErrorCode := d3.toNat
  leftFuse := (d0.toNat.testBit 5).toNat
  rightFuse := (d2.toNat.testBit 5).toNat

theorem masked_bit (n i : Nat) : (n &&& 2 ^ i) >>> i = (n.testBit i).toNat := by
  rw [Nat.and_two_pow, Nat.shiftRight_eq_div_pow, Nat.mul_div_cancel _ (Nat.two_pow_pos i)]

theorem decodeDriveErr_okReply (d0 d1 d2 d3 : UInt8) (behind : List UInt8) :
    decodeDriveErr (okReply [d0, d1, d2, d3] ++ behind) = statusOf d0 d1 d2 d3 := by
  have hleft := masked_bit d0.toNat 5
  have hright := masked_bit d2.toNat 5
  simp only [decodeDriveErr, statusOf, byteAt, okReply, ← hleft, ← hright]
  rfl

section ReadDriveErr

variable {line : Line} {err : DriveErr} {r : Reaction} {more : List Reaction}

theorem drvmReadDriveErr_eq (err : DriveErr) (hfd : line.fd ≠ 0) (hline : line.reactions = r :: more)
    (hwritten : 0 < r.written) (hfit : (delimited r.arrivals).frame.length ≤ 255) :
    ∃ line', drvmReadDriveErr line err = .ok ((delimited r.arrivals).verdict,
      if (delimited r.arrivals).verdict ≠ 0 then err
      else decodeDriveErr ((delimited r.arrivals).fill (List.replicate 255 0)), line') ∧
        line'.port = (delimited r.arrivals).rest := by
  have hclose : closeFrame (packetBuf 255 (letters 'A' 'A' ++ ([] : List Char).map Char.toUInt8))
      (3 + ([] : List Char).length) = .ok (packetBuf 255 (packet ['A'.toUInt8, 'A'.toUInt8]), 5) :=
    closeFrame_letters (by decide)
  have hreceive : getResponse (List.replicate 255 0)
      (line.wrote (packetBuf 255 (packet ['A'.toUInt8, 'A'.toUInt8])) 5).port =
        .ok ((delimited r.arrivals).verdict, (delimited r.arrivals).fill (List.replicate 255 0),
          (delimited r.arrivals).rest) := by
    rw [Line.port_wrote hline]
    exact getResponse_of_fits (by rw [List.length_replicate]; decide)
      (by rw [List.length_replicate]; exact hfit)
  have hclear : fill 255 0 (packetBuf 255 (packet ['A'.toUInt8, 'A'.toUInt8])) =
      List.replicate 255 0 := fill_packetBuf (by simp) le_rfl
  rw [drvmReadDriveErr, textCommand, if_neg hfd, hclose, ok_bind]
  simp only
  rw [exchange_eq, Line.written_eq hline, if_neg (by omega), hclear, Line.receive_of_ok hreceive,
    ok_bind]
  by_cases hverdict : (delimited r.arrivals).verdict = 0
  · simp only [hverdict, ne_eq, not_true_eq_false, if_false]
    exact ⟨_, rfl, rfl⟩
  · simp only [hverdict, ne_eq, not_false_eq_true, if_true]
    exact ⟨_, rfl, rfl⟩

/-- The status is read as it is, and nothing of the reply is left in front of what comes next. -/
def ReadsStatus (result : Except Fault (Int × DriveErr × Line)) (status : DriveErr)
    (next : Port) : Prop :=
  ∃ line', result = .ok (0, status, line') ∧ line'.port = next

/-- **A status is read exactly if none of its four bytes is `ETX`.** -/
theorem reads_status_iff (line : Line) (err : DriveErr) (d0 d1 d2 d3 : UInt8) (r : Reaction)
    (more : List Reaction) (front next : Port) (hfd : line.fd ≠ 0)
    (hline : line.reactions = r :: more) (hwritten : 0 < r.written)
    (hreply : Delivers front (okReply [d0, d1, d2, d3])) (harrivals : r.arrivals = front ++ next) :
    ReadsStatus (drvmReadDriveErr line err) (statusOf d0 d1 d2 d3) next ↔
      etx ∉ [d0, d1, d2, d3] := by
  by_cases hmem : etx ∈ [d0, d1, d2, d3]
  · refine iff_of_false ?_ (not_not.mpr hmem)
    obtain ⟨frame, left, hne, hlength, hdelimited⟩ := delimited_of_etx_mem hmem hreply next
    rw [← harrivals] at hdelimited
    obtain ⟨line', hread, hport⟩ := drvmReadDriveErr_eq err hfd hline hwritten
      (by rw [hdelimited]; exact hlength.trans (by simp [okReply]))
    rintro ⟨line'', h, hnext⟩
    rw [hread, Except.ok.injEq, Prod.mk.injEq, Prod.mk.injEq] at h
    obtain ⟨-, -, rfl⟩ := h
    rw [hport, hdelimited] at hnext
    exact hne (List.append_left_eq_self.mp hnext)
  · refine iff_of_true ?_ hmem
    have hframed : Delivers front (Framed.mk [] [d0, d1, d2, d3] (by simp) hmem).bytes := hreply
    have hdelimited : delimited r.arrivals = ⟨[], okReply [d0, d1, d2, d3], true, next⟩ := by
      rw [harrivals]
      exact delimited_framed hframed
    have hverdict : (delimited r.arrivals).verdict = 0 :=
      verdict_delimited_iff.mpr ⟨_, front, next, hframed, harrivals⟩
    obtain ⟨line', hread, hport⟩ := drvmReadDriveErr_eq err hfd hline hwritten
      (by rw [hdelimited]; simp [okReply])
    refine ⟨line', ?_, by rw [hport, hdelimited]⟩
    rw [hread, hverdict, if_neg (by simp), hdelimited,
      Reception.fill_of_frame (by simp [okReply]), decodeDriveErr_okReply]

end ReadDriveErr

/-- A line on which the request for the status is answered with these bytes. -/
def answeringStatus (body : List UInt8) : Line where
  fd := 3
  reactions := [⟨5, (okReply body).map (.item · true)⟩]

theorem reads_status_ready :
    ReadsStatus (drvmReadDriveErr (answeringStatus [0x21, 0x30, 0x23, 0x31]) ⟨0, 0, 0, 0⟩)
      ⟨48, 49, 1, 1⟩ [] :=
  (reads_status_iff (answeringStatus [0x21, 0x30, 0x23, 0x31]) ⟨0, 0, 0, 0⟩ 0x21 0x30 0x23 0x31 _ []
    _ [] (by decide) rfl (by decide) (delivers_map_item _ true) (List.append_nil _).symm).mpr
    (by decide)

/-- With the bits 0 and 1 set in the first byte, the third byte is taken for the checksum; four
bytes are left, and the call fails. With `'3'` as the second byte it does not even fail. -/
theorem status_not_read :
    (drvmReadDriveErr (answeringStatus [0x03, 0x30, 0x20, 0x30]) ⟨0, 0, 0, 0⟩).map
        (fun r => (r.1, r.2.1, items r.2.2.port)) =
      .ok (-1, ⟨0, 0, 0, 0⟩, [0x20, 0x30, etx, 0x10]) ∧
    (drvmReadDriveErr (answeringStatus [0x03, 0x33, 0x20, 0x30]) ⟨0, 0, 0, 0⟩).map
        (fun r => (r.1, r.2.1, items r.2.2.port)) =
      .ok (0, ⟨51, 0, 0, 0⟩, [0x20, 0x30, etx, 0x13]) ∧
    ¬ ReadsStatus (drvmReadDriveErr (answeringStatus [0x03, 0x30, 0x20, 0x30]) ⟨0, 0, 0, 0⟩)
      (statusOf 0x03 0x30 0x20 0x30) [] := by
  refine ⟨by decide +kernel, by decide +kernel, ?_⟩
  rintro ⟨line', h, -⟩
  have hret : (drvmReadDriveErr (answeringStatus [0x03, 0x30, 0x20, 0x30]) ⟨0, 0, 0, 0⟩).map
      (·.1) = .ok 0 := by
    rw [h]
    rfl
  exact absurd hret (by decide +kernel)

end Drive

end Tetra.Serial
