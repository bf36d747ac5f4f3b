import Tetra.Drive.Node
import Tetra.Serial.Command

/-!
# The drive's serial driver

`drive_module.c`, and the `get_response2` of `tetra/include/rs232_common.c` that only
`drvm_set_velocity2` uses: it does not look for an `ETX` but reads 19 bytes behind the `STX`.

`drvm_read_encoder` and `drvm_read_odometry` are modelled up to the point where they have their
reply. A cell of a buffer at a fixed offset below its declared size is read with `byteAt`.
-/

namespace Tetra.Serial.Drive

open Arrival Memory Tetra.Drive

/-! ## `get_response2` -/

/--
`while (read_bytes < 19)`. `false` if a read fails; every round reads at least one byte, so 19 rounds
are enough.
-/
def readRest (data : Buffer) (readBytes : Nat) : Nat → Port → Except Fault (Bool × Buffer × Port)
  | 0, port => return (true, data, port)
  | rounds + 1, port =>
    if readBytes < 19 then do
      let (ret, data, port) ← read data (1 + readBytes) (19 - readBytes) port
      if ret ≤ 0 then return (false, data, port)
      else readRest data (readBytes + ret.toNat) rounds port
    else return (true, data, port)

/-- `get_response2` of the drive. -/
def getResponse2 (data : Buffer) (port : Port) : Except Fault (Int × Buffer × Port) := do
  let (found, data, port) ← awaitStx data port
  if found then
    let (ended, data, port) ← readRest data 0 19 port
    if ended then
      if (← load data 1) ≠ flagOk then return (-1, data, port)
      else if (← load data 19) ≠ (← makeLrc data 1 18) then return (-1, data, port)
      else return (0, data, port)
    else return (-1, data, port)
  else return (-1, data, port)

/-- A loop with this step has enough after `n + 1` bytes. -/
def countdown : Nat → UInt8 → Option Nat
  | 0, _ => none
  | n + 1, _ => some n

theorem foldlM_countdown {bs : List UInt8} {n k : Nat} :
    bs.foldlM countdown n = some k ↔ n = bs.length + k := by
  induction bs generalizing n with
  | nil => simp
  | cons b bs ih =>
    rw [List.foldlM_cons]
    cases n with
    | zero =>
      simp [countdown]
      omega
    | succ n =>
      simp only [countdown, Option.bind_eq_bind, Option.bind_some, ih, List.length_cons]
      omega

theorem intake_countdown_iff {n : Nat} {port rest : Port} {items : List UInt8} :
    intake countdown n port = ⟨items, true, rest⟩ ↔
      items.length = n + 1 ∧ ∃ front, Delivers front items ∧ port = front ++ rest := by
  rw [intake_eq_complete_iff]
  refine and_congr ⟨?_, ?_⟩ Iff.rfl
  · rintro ⟨init, b, k, rfl, hinit, hb⟩
    obtain rfl : k = 0 := by
      cases k with
      | zero => rfl
      | succ k => simp [countdown] at hb
    rw [foldlM_countdown] at hinit
    simp [hinit]
  · intro h
    obtain ⟨init, b, rfl⟩ := (List.eq_nil_or_concat items).resolve_left (by rintro rfl; simp at h)
    refine ⟨init, b, 0, by simp, foldlM_countdown.mpr ?_, rfl⟩
    simpa using h.symm

/-- The loop gives up only with bytes missing. -/
theorem length_countdown {n : Nat} {port : Port} (h : (intake countdown n port).complete = false) :
    (intake countdown n port).items.length ≤ n := by
  obtain ⟨k, hk⟩ := foldlM_of_not_complete h
  rw [foldlM_countdown] at hk
  omega

theorem length_countdown_le (n : Nat) (port : Port) :
    (intake countdown n port).items.length ≤ n + 1 := by
  cases hc : (intake countdown n port).complete with
  | false =>
    have := length_countdown hc
    omega
  | true =>
    exact (intake_countdown_iff.mp
      (show intake countdown n port = ⟨_, true, _⟩ by rw [← hc])).1.le

/-- In how many bytes at a time the reply comes makes no difference. -/
theorem readRest_eq {data : Buffer} {readBytes n rounds : Nat} {port : Port}
    (hn : readBytes + n + 1 = 19) (hrounds : n < rounds) (hsize : 20 ≤ data.length) :
    readRest data readBytes rounds port = .ok ((intake countdown n port).complete,
      patch data (1 + readBytes) ((intake countdown n port).items.map some),
      (intake countdown n port).rest) := by
  induction rounds generalizing data readBytes n port with
  | zero => omega
  | succ rounds ih =>
    have hcount : 19 - readBytes = n + 1 := by omega
    rw [readRest, if_pos (by omega), hcount]
    rcases read_cases data (1 + readBytes) (Nat.succ_pos n) port with
      ⟨ret, port', hret, hread, hintake⟩ | ⟨front, bs, port', hpos, hle, hfront, rfl, hread⟩
    · rw [hread, hintake countdown n, ok_bind]
      simp [hret]
    · have hfits : Fits data (1 + readBytes) (bs.map some) :=
        fits_map_some.mpr (Or.inr (by omega))
      rw [hread, storeAll_of_fits hfits, ok_bind, pure_eq_ok, ok_bind]
      simp only
      rw [if_neg (by omega), Int.toNat_natCast]
      rcases Nat.lt_or_ge n bs.length with hall | hmore
      · -- these are all the bytes that were missing
        have hdone : ¬ readBytes + bs.length < 19 := by omega
        rw [intake_countdown_iff.mpr ⟨by omega, front, hfront, rfl⟩]
        cases rounds with
        | zero => rfl
        | succ rounds => rw [readRest, if_neg hdone, pure_eq_ok]
      · have hrest : readBytes + bs.length + (n - bs.length) + 1 = 19 := by omega
        rw [ih hrest (by omega) (by simpa using hsize),
          intake_append hfront (foldlM_countdown.mpr (show n = bs.length + (n - bs.length) by omega))]
        simp [Intake.prepend, patch_append, Nat.add_assoc]

/-- The reception of the drive's `get_response2`. -/
def fixed (port : Port) : Reception := reception (intake countdown 18) port

theorem fixed_of_delivers {front port : Port} {noise : List UInt8}
    (hfront : Delivers front (noise ++ [stx])) (hnoise : stx ∉ noise) :
    fixed (front ++ port) = ⟨noise, stx :: (intake countdown 18 port).items,
      (intake countdown 18 port).complete, (intake countdown 18 port).rest⟩ :=
  reception_of_delivers hfront hnoise

theorem length_frame_fixed {port : Port} (h : (fixed port).complete = true) :
    (fixed port).frame.length = 20 := by
  rcases reception_cases (intake countdown 18) port with
    ⟨front, noise, port, rfl, hfront, hnoise⟩ | ⟨_, _, _, hc⟩
  · rw [fixed_of_delivers hfront hnoise] at h ⊢
    simp only at h
    have hfull := (intake_countdown_iff.mp
      (show intake countdown 18 port = ⟨_, true, _⟩ by rw [← h])).1
    rw [List.length_cons, hfull]
  · rw [← fixed, h] at hc
    exact absurd hc (by decide)

/-- **The drive's `get_response2` is its reception, in any buffer of 20 bytes.** -/
theorem getResponse2_eq {data : Buffer} (port : Port) (hsize : 20 ≤ data.length) :
    getResponse2 data port = .ok ((fixed port).verdict, (fixed port).fill data, (fixed port).rest) := by
  have h0 : 0 < data.length := by omega
  rcases reception_cases (intake countdown 18) port with
    ⟨front, noise, port, rfl, hfront, hnoise⟩ | ⟨hc, _, _, _⟩
  · have hskip : skipped data (noise ++ [stx]) = data.set 0 stx := by simp [skipped]
    have hlength := length_countdown_le 18 port
    have hrest : readRest (data.set 0 stx) 0 19 port = _ :=
      readRest_eq (n := 18) (by omega) (by omega) (by simpa using hsize)
    have hpatch : patch (data.set 0 stx) (1 + 0) ((intake countdown 18 port).items.map some) =
        patch data 0 ((stx :: (intake countdown 18 port).items).map some) := rfl
    rw [getResponse2, awaitStx_eq h0, intake_seekStx_of_delivers hfront hnoise, hskip, ok_bind]
    simp only [if_true]
    rw [hrest, ok_bind, hpatch, patch_zero_map_some (by simp; omega), fixed_of_delivers hfront hnoise]
    simp only [Reception.fill, List.cons_ne_nil, if_false, Reception.verdict]
    cases hcomplete : (intake countdown 18 port).complete with
    | false => simp
    | true =>
      have hfull : (intake countdown 18 port).items.length = 19 := (intake_countdown_iff.mp
        (show intake countdown 18 port = ⟨_, true, _⟩ by rw [← hcomplete])).1
      rw [if_pos rfl, checks_eq (k := 20) (by simp [hfull]) (by omega) (List.prefix_append _ _)]
      simp
  · simp [getResponse2, awaitStx_eq h0, hc, fixed, reception, Reception.fill, Reception.verdict]

/-! ## Commands without a result -/

/-- `drvm_set_servo` -/
def drvmSetServo (line : Line) (mode : Int) : Except Fault (Int × Line) := do
  let (ret, _, line) ← textCommand 256 'D' 'B' (if mode = 1 then ['1', '1'] else ['0', '0']) line
  return (ret, line)

/-- `drvm_set_velocity_mode` -/
def drvmSetVelocityMode (line : Line) : Except Fault (Int × Line) := do
  let (ret, _, line) ← textCommand 256 'C' 'Z' ['1', '1'] line
  return (ret, line)

/-- `drvm_set_position_mode` -/
def drvmSetPositionMode (line : Line) : Except Fault (Int × Line) := do
  let (ret, _, line) ← textCommand 256 'C' 'Z' ['0', '0'] line
  return (ret, line)

/-- `drvm_set_drive_err_reset` -/
def drvmSetDriveErrReset (line : Line) : Except Fault (Int × Line) := do
  let (ret, _, line) ← textCommand 256 'C' 'G' [] line
  return (ret, line)

/-- `drvm_set_Charge_On` -/
def drvmSetChargeOn (line : Line) : Except Fault (Int × Line) := do
  let (ret, _, line) ← textCommand 256 'P' 'E' ['2', '5', '5'] line
  return (ret, line)

/-- `drvm_set_Charge_Off` -/
def drvmSetChargeOff (line : Line) : Except Fault (Int × Line) := do
  let (ret, _, line) ← textCommand 256 'P' 'E' ['1', '2', '7'] line
  return (ret, line)

/-- `drvm_set_odometry` -/
def drvmSetOdometry (line : Line) (x y theta : Int) : Except Fault (Int × Line) :=
  intsCommand 256 'C' 'X' [x, y, theta] line

/-- `drvm_set_velocity` -/
def drvmSetVelocity (line : Line) (left right : Int) : Except Fault (Int × Line) :=
  intsCommand 255 'B' 'E' [left, right] line

/-- `drvm_set_position`: one cell each for `type` and `pass`, and the lengths are not looked at. -/
def drvmSetPosition (line : Line) (type pass data : Int) : Except Fault (Int × Line) :=
  if line.fd = 0 then return (-1, line)
  else do
    let (_, buf) ← int2str (packetBuf 255 (letters 'B' 'D')) 3 type
    let (_, buf) ← int2str buf 4 pass
    let (buf, index) ← putInt buf 5 data
    let (buf, index) ← closeFrame buf index
    let (ret, _, line) ← exchange getResponse line buf index
    return (ret, line)

/-! ## Commands with a result -/

/-- What `drvm_read_drive_err` makes of a reply. -/
def decodeDriveErr (data : Buffer) : DriveErr where
  leftErrorCode := byteAt data 3
  rightErrorCode := byteAt data 5
  leftFuse := (byteAt data 2 &&& 0x20) >>> 5
  rightFuse := (byteAt data 4 &&& 0x20) >>> 5

/-- `drvm_read_drive_err`, with its outputs. -/
def drvmReadDriveErr (line : Line) (err : DriveErr) : Except Fault (Int × DriveErr × Line) := do
  let (ret, data, line) ← textCommand 255 'A' 'A' [] line
  if ret ≠ 0 then return (ret, err, line)
  else return (ret, decodeDriveErr data, line)

/--
`drvm_read_encoder` (`'0'`) and `drvm_read_odometry` (`'1'`) until they have their reply; they do not
clear the buffer before.
-/
def readEncoder (which : Char) (line : Line) : Except Fault (Int × Buffer × Line) :=
  let data := packetBuf 256 (letters 'A' 'C' ++ [which.toUInt8])
  if line.fd = 0 then return (-1, data, line)
  else do
    let (data, index) ← closeFrame data 4
    let (ret, line) := line.write data index
    if ret ≤ 0 then return (-2, data, line)
    else line.receive getResponse data

/-- The frame of `drvm_read_parameter`. The length that `int2str` returns is used as it is. -/
def readParameterFrame (param : Int) : Except Fault (Buffer × Nat) := do
  let (ret, data) ← int2str (packetBuf 256 (letters 'X' 'L')) 3 param
  closeFrame data (3 + ret)

/-- An `unsigned int` as an `int`. -/
def asInt (v : UInt32) : Int := (v.toNat : Int).bmod 4294967296

/-- `drvm_read_parameter`, with its output. What `write` returns is not looked at. -/
def drvmReadParameter (line : Line) (param value : Int) : Except Fault (Int × Int × Line) :=
  if line.fd = 0 then return (-1, value, line)
  else do
    let (data, index) ← readParameterFrame param
    let line := line.wrote data index
    let (ret, data, line) ← line.receive getResponse data
    if ret ≠ 0 then return (ret, value, line)
    else
      let val ← str2int data (List.replicate 255 0)
      return (ret, asInt (← load val 0), line)

/--
The first frame of `drvm_set_parameter`. A number below 10 gets a `0` in front; the length of `param`
is used as it is, that of `value` is put right for zero.
-/
def setParameterFrame (param value : Int) : Except Fault (Buffer × Nat) := do
  let data := packetBuf 256 (letters 'X' 'B')
  let (data, index) ←
    if param ≤ 9 then do
      let data ← store data 3 48
      pure (data, 4)
    else pure (data, 3)
  let (ret, data) ← int2str data index param
  let (data, index) ← putInt data (index + ret) value
  closeFrame data index

/--
The second half of `drvm_set_parameter`.

The result of `get_response` counts for nothing if the buffer has `FLAG_END` in its second cell.
-/
def parameterStore (line : Line) : Except Fault (Int × Line) := do
  let (data, index) ← closeFrame (packetBuf 256 (letters 'X' 'D')) 3
  let line := line.wrote data index
  let (ret, data, line) ← line.receive getResponse data
  let ret := if byteAt data 1 = 0x34 then 0 else ret
  if ret ≠ 0 then return (-1, line)
  else return (0, line)

/-- `drvm_set_parameter`. What the two `write` return is not looked at. -/
def drvmSetParameter (line : Line) (param value : Int) : Except Fault (Int × Line) :=
  if line.fd = 0 then return (-1, line)
  else do
    let (data, index) ← setParameterFrame param value
    let line := line.wrote data index
    let (ret, _, line) ← line.receive getResponse data
    if ret ≠ 0 then return (-1, line)
    else parameterStore line

theorem drvmReadParameter_eq {line : Line} {param : Int} {data : Buffer} {index : Nat} (value : Int)
    (hfd : line.fd ≠ 0) (hframe : readParameterFrame param = .ok (data, index)) :
    drvmReadParameter line param value = (do
      let (ret, data, line) ← (line.wrote data index).receive getResponse data
      if ret ≠ 0 then return (ret, value, line)
      else
        let val ← str2int data (List.replicate 255 0)
        return (ret, asInt (← load val 0), line)) := by
  rw [drvmReadParameter, if_neg hfd, hframe]
  rfl

theorem drvmSetParameter_eq {line : Line} {param value : Int} {data : Buffer} {index : Nat}
    (hfd : line.fd ≠ 0) (hframe : setParameterFrame param value = .ok (data, index)) :
    drvmSetParameter line param value = (do
      let (ret, _, line) ← (line.wrote data index).receive getResponse data
      if ret ≠ 0 then return (-1, line)
      else parameterStore line) := by
  rw [drvmSetParameter, if_neg hfd, hframe]
  rfl

theorem parameterStore_eq (line : Line) :
    parameterStore line = (do
      let buf := packetBuf 256 (packet ['X'.toUInt8, 'D'.toUInt8])
      let (ret, buf, line) ← (line.wrote buf 5).receive getResponse buf
      return (if (if byteAt buf 1 = 0x34 then 0 else ret) ≠ 0 then -1 else 0, line)) := by
  have hlast : ∀ (ret : Int) (line : Line), (if ret ≠ 0 then return (-1, line)
      else return (0, line) : Except Fault (Int × Line)) =
        return (if ret ≠ 0 then -1 else 0, line) := by
    intro ret line
    by_cases h0 : ret = 0 <;> simp [h0]
  rw [parameterStore, closeFrame_letters (by decide)]
  simp only [hlast]
  rfl

/-! ## `drvm_set_velocity2` -/

/-- Sign and magnitude of a velocity; the negation of `INT_MIN` is not defined. -/
def velocityBytes (v : Int) : Except Fault (List UInt8) :=
  if v ≤ -2147483648 then throw .overflow
  else
    let mag := if v < 0 then -v else v
    let mag := (if mag > 0x7FFF then 0x7FFF else mag).toNat
    let sign := if v < 0 then 0x80 else 0x00
    return [UInt8.ofNat (sign ||| ((mag >>> 8) &&& 0x7F)), UInt8.ofNat (mag &&& 0xFF)]

/-- `1.0 * (double)raw`, or the negative if `sign` is set. -/
def signedRaw (sign raw : Nat) : ℚ := if sign = 0 then raw else -raw

/-- What `drvm_set_velocity2` makes of its buffer. -/
def decodeOdometry (data : Buffer) : Odometry where
  xPos := signedRaw (byteAt data 2 >>> 7)
    ((byteAt data 5 &&& 0xff) ||| ((byteAt data 4 <<< 8) &&& 0xff00) |||
      ((byteAt data 3 <<< 16) &&& 0xff0000) ||| ((byteAt data 2 <<< 24) &&& 0x7f000000))
  yPos := signedRaw (byteAt data 6 >>> 7)
    ((byteAt data 9 &&& 0xff) ||| ((byteAt data 8 <<< 8) &&& 0xff00) |||
      ((byteAt data 7 <<< 16) &&& 0xff0000) ||| ((byteAt data 6 <<< 24) &&& 0x7f000000))
  theta := ((byteAt data 11 &&& 0xff) ||| ((byteAt data 10 <<< 8) &&& 0xff00) : Nat)
  velocityL := signedRaw (byteAt data 12 >>> 7)
    ((byteAt data 13 &&& 0xff) ||| ((byteAt data 12 <<< 8) &&& 0x7f00))
  velocityA := signedRaw (byteAt data 14 >>> 7)
    ((byteAt data 15 &&& 0xff) ||| ((byteAt data 14 <<< 8) &&& 0x7f00))
  bumper := (byteAt data 16 &&& 0xff : Nat)
  emg := (byteAt data 17 &&& 0xff : Nat)

/-- The test that guards the decoding. -/
def Decodable (data : Buffer) : Prop :=
  byteAt data 0 = 0x02 ∧ (byteAt data 1 = 0x30 ∨ byteAt data 1 = 0x32) ∧ byteAt data 18 = 0x03

instance (data : Buffer) : Decidable (Decodable data) := inferInstanceAs (Decidable (_ ∧ _ ∧ _))

/-- `drvm_set_velocity2`, with its outputs. -/
def drvmSetVelocity2 (line : Line) (left right : Int) (odometry : Odometry) :
    Except Fault (Int × Odometry × Line) := do
  let leftData ← velocityBytes left
  let rightData ← velocityBytes right
  if line.fd < 0 then return (-1, odometry, line)
  else
    let (data, index) ← closeFrame (packetBuf 255 (letters 'B' 'V' ++ leftData ++ rightData)) 7
    let (ret, line) := line.write data index
    if ret ≤ 0 then return (-2, odometry, line)
    else
      let (ret, data, line) ← line.receive getResponse2 (fill 255 0 data)
      if Decodable data then return (ret, decodeOdometry data, line)
      else return (-2, odometry, line)

end Tetra.Serial.Drive
