import Tetra.Serial.Parameters
import Tetra.Serial.Odometry

/-!
# Calls of the drive's driver

A `Call` is a call of a function of `drive_module.c`, and `exchanges` reads off a log what has been
written and what was received for it. `Call.talks` is what all the functions have in common: what
they receive is a reception of what arrives behind the command, and they report success only if it
has an `STX` in it.
-/

namespace Tetra.Serial

open Arrival Memory Tetra.Drive

/-- A call, with the values its outputs have before. -/
inductive Call
  | setServo (mode : Int)
  | setVelocityMode
  | setPositionMode
  | setDriveErrReset
  | setChargeOn
  | setChargeOff
  | setOdometry (x y theta : Int)
  | setVelocity (left right : Int)
  | setVelocity2 (left right : Int) (odometry : Odometry)
  | setPosition (type pass data : Int)
  | setParameter (param value : Int)
  | readParameter (param value : Int)
  | readDriveErr (err : DriveErr)
  | readEncoder
  | readOdometry

/-- What a call returns, and the line after it. -/
def Call.run (line : Line) : Call → Except Fault (Int × Line)
  | setServo mode => Drive.drvmSetServo line mode
  | setVelocityMode => Drive.drvmSetVelocityMode line
  | setPositionMode => Drive.drvmSetPositionMode line
  | setDriveErrReset => Drive.drvmSetDriveErrReset line
  | setChargeOn => Drive.drvmSetChargeOn line
  | setChargeOff => Drive.drvmSetChargeOff line
  | setOdometry x y theta => Drive.drvmSetOdometry line x y theta
  | setVelocity left right => Drive.drvmSetVelocity line left right
  | setVelocity2 left right odometry => do
    let (ret, _, line) ← Drive.drvmSetVelocity2 line left right odometry
    return (ret, line)
  | setPosition type pass data => Drive.drvmSetPosition line type pass data
  | setParameter param value => Drive.drvmSetParameter line param value
  | readParameter param value => do
    let (ret, _, line) ← Drive.drvmReadParameter line param value
    return (ret, line)
  | readDriveErr err => do
    let (ret, _, line) ← Drive.drvmReadDriveErr line err
    return (ret, line)
  | readEncoder => do
    let (ret, _, line) ← Drive.readEncoder '0' line
    return (ret, line)
  | readOdometry => do
    let (ret, _, line) ← Drive.readEncoder '1' line
    return (ret, line)

/-! ## Exchanges -/

/-- A command that was written, and what a receiver left of the port, if one was called. -/
structure Exchange where
  frame : List UInt8
  written : Int
  arrivals : Port
  left : Option Port
  deriving DecidableEq, Repr

/-- The exchanges in a log. -/
def exchanges : List Traffic → List Exchange
  | .wrote frame written arrivals :: .received _ left :: log =>
    ⟨frame, written, arrivals, some left⟩ :: exchanges log
  | .wrote frame written arrivals :: log => ⟨frame, written, arrivals, none⟩ :: exchanges log
  | .received _ _ :: log => exchanges log
  | [] => []

/-- Traffic that starts with a command. -/
def Opens (log : List Traffic) : Prop := ∀ data left log', log ≠ .received data left :: log'

theorem exchanges_append (log : List Traffic) {log' : List Traffic} (h : Opens log') :
    exchanges (log ++ log') = exchanges log ++ exchanges log' := by
  fun_induction exchanges log with
  | case1 frame written arrivals data left log ih => simp [exchanges, ih]
  | case2 frame written arrivals log hnot ih =>
    have hopens : ∀ data left log'', log ++ log' ≠ .received data left :: log'' := by
      intro data left log'' heq
      cases log with
      | nil => exact h data left log'' heq
      | cons t log =>
        obtain ⟨rfl, _⟩ := List.cons.inj heq
        exact hnot data left log rfl
    rw [List.cons_append, exchanges, ih]
    · rfl
    · exact hopens
  | case3 data left log ih => simpa [exchanges] using ih
  | case4 => rfl

/-- The frame of `drvm_set_velocity2` has the letters `BV`. -/
def IsVelocity2 (frame : List UInt8) : Prop := (frame.drop 1).take 2 = ['B'.toUInt8, 'V'.toUInt8]

instance (frame : List UInt8) : Decidable (IsVelocity2 frame) := inferInstanceAs (Decidable (_ = _))

namespace Exchange

/-- What the receiver of the reply to this command takes in. -/
def reception (e : Exchange) : Reception :=
  if IsVelocity2 e.frame then Drive.fixed e.arrivals else delimited e.arrivals

/-- A receiver leaves behind what its reception leaves behind. -/
def Sound (e : Exchange) : Prop := ∀ left, e.left = some left → left = e.reception.rest

/-- A receiver was called, and has found an `STX`. -/
def Heard (e : Exchange) : Prop := e.left.isSome ∧ e.reception.frame ≠ []

end Exchange

/-! ## What stays in the buffer -/

section Kept

variable {data data' : Buffer} {n i index index' base : Nat} {num ret : Int}

theorem take_of_store {b : UInt8} (hn : n ≤ i) (h : store data i b = .ok data') :
    data'.take n = data.take n := by
  unfold store at h
  split at h
  · obtain rfl := Except.ok.inj h
    exact List.take_set_of_le hn
  · exact absurd h (by simp)

theorem take_of_int2strLoop {k : Nat} {flag : Bool} {m count : Nat} (hn : n ≤ base + index)
    (h : int2strLoop base k flag data index m = .ok (count, data')) :
    data'.take n = data.take n := by
  induction k generalizing flag data index m with
  | zero =>
    obtain ⟨_, rfl⟩ := Prod.mk.inj (Except.ok.inj h)
    rfl
  | succ k ih =>
    unfold int2strLoop at h
    simp only at h
    split at h
    · obtain ⟨data₁, hstore, hloop⟩ := bind_eq_ok_iff.mp h
      rw [ih (by omega) hloop, take_of_store hn hstore]
    · exact ih hn h

theorem take_of_int2str {count : Nat} (hn : n ≤ base) (h : int2str data base num = .ok (count, data')) :
    data'.take n = data.take n := by
  unfold int2str at h
  by_cases hneg : num < 0
  · rw [if_pos hneg] at h
    obtain ⟨data₁, hstore₁, h⟩ := bind_eq_ok_iff.mp h
    by_cases hmin : num ≤ -2147483648
    · rw [if_pos hmin] at h
      exact absurd h (by simp [bind, Except.bind, throw, throwThe, MonadExceptOf.throw])
    · rw [if_neg hmin] at h
      obtain ⟨data₂, hstore₂, hloop⟩ := bind_eq_ok_iff.mp h
      rw [take_of_int2strLoop (by omega) hloop, take_of_store (by omega) hstore₂,
        take_of_store hn hstore₁]
  · rw [if_neg hneg] at h
    obtain ⟨data₁, hstore, hloop⟩ := bind_eq_ok_iff.mp h
    rw [take_of_int2strLoop (by omega) hloop, take_of_store hn hstore]

theorem take_of_putInt (hn : n ≤ index) (h : putInt data index num = .ok (data', index')) :
    data'.take n = data.take n ∧ index ≤ index' := by
  obtain ⟨⟨count, data₁⟩, hstr, h⟩ := bind_eq_ok_iff.mp h
  obtain ⟨rfl, rfl⟩ := Prod.mk.inj (Except.ok.inj h)
  exact ⟨take_of_int2str hn hstr, Nat.le_add_right _ _⟩

theorem take_of_putInts {args : List Int} (hn : n ≤ index)
    (h : putInts data index args = .ok (data', index')) :
    data'.take n = data.take n ∧ index ≤ index' := by
  fun_induction putInts data index args with
  | case1 data index =>
    obtain ⟨rfl, rfl⟩ := Prod.mk.inj (Except.ok.inj h)
    exact ⟨rfl, le_rfl⟩
  | case2 data index num => exact take_of_putInt hn h
  | case3 data index num nums hne ih =>
    obtain ⟨⟨data₁, index₁⟩, hput, h⟩ := bind_eq_ok_iff.mp h
    obtain ⟨data₂, hstore, h⟩ := bind_eq_ok_iff.mp h
    obtain ⟨htake₁, hle₁⟩ := take_of_putInt hn hput
    obtain ⟨htake, hle⟩ := ih index₁ data₂ (by omega) h
    exact ⟨by rw [htake, take_of_store (by omega) hstore, htake₁], by omega⟩

theorem take_of_closeFrame (hn : n ≤ index) (h : closeFrame data index = .ok (data', index')) :
    data'.take n = data.take n ∧ index' = index + 2 ∧ 0 < data'.length := by
  obtain ⟨data₁, hstore₁, h⟩ := bind_eq_ok_iff.mp h
  obtain ⟨tmp, _, h⟩ := bind_eq_ok_iff.mp h
  obtain ⟨data₂, hstore₂, h⟩ := bind_eq_ok_iff.mp h
  obtain ⟨rfl, rfl⟩ := Prod.mk.inj (Except.ok.inj h)
  refine ⟨by rw [take_of_store (by omega) hstore₂, take_of_store hn hstore₁], rfl, ?_⟩
  unfold store at hstore₂
  split at hstore₂
  · obtain rfl := Except.ok.inj hstore₂
    rw [List.length_set]
    omega
  · exact absurd hstore₂ (by simp)

end Kept

/-! ## What a call says and hears -/

/--
On the way from `line` to `line'` each receiver was called right behind its command, and a result of
0 means that all of them were called and have found an `STX`.
-/
def Talks (line line' : Line) (ret : Int) : Prop :=
  ∃ log, line'.log = line.log ++ log ∧ Opens log ∧
    ∀ e ∈ exchanges log, e.Sound ∧ (ret = 0 → e.Heard)

section Talks

variable {line line₁ line' : Line} {data data' : Buffer} {index : Nat} {ret : Int} {c₁ c₂ : Char}

theorem talks_refused (line : Line) (ret : Int) : Talks line line ret :=
  ⟨[], by simp, fun _ _ _ h => by simp at h, fun e he => absurd he (by simp [exchanges])⟩

theorem talks_unsent (line : Line) (data : Buffer) (index : Nat) (hret : ret ≠ 0) :
    Talks line (line.wrote data index) ret := by
  refine ⟨_, Line.wrote_log line data index, fun _ _ _ h => by simp at h, fun e he => ?_⟩
  obtain rfl := List.mem_singleton.mp he
  exact ⟨fun left hleft => absurd hleft (by simp), fun h => absurd h hret⟩

/-- A receiver that is called behind a command. -/
theorem talks_received {r : Reception} (hr : r = Exchange.reception
      ⟨data.take index, (line.reaction index).written, (line.reaction index).arrivals, some r.rest⟩)
    (hret : ret = 0 → r.frame ≠ []) : Talks line ((line.wrote data index).received data' r.rest) ret := by
  refine ⟨[.wrote (data.take index) (line.reaction index).written (line.reaction index).arrivals,
    .received data' r.rest], by simp, fun _ _ _ h => by simp at h, fun e he => ?_⟩
  obtain rfl := List.mem_singleton.mp he
  refine ⟨?_, fun h0 => ⟨rfl, ?_⟩⟩
  · intro left hleft
    rw [← hr]
    exact (Option.some.inj hleft).symm
  · rw [← hr]
    exact hret h0

theorem Talks.fail {ret' : Int} (h : Talks line line' ret) (hret : ret' ≠ 0) : Talks line line' ret' := by
  obtain ⟨log, hlog, hopens, hall⟩ := h
  exact ⟨log, hlog, hopens, fun e he => ⟨(hall e he).1, fun h0 => absurd h0 hret⟩⟩

theorem Talks.of_return {ret₁ : Int} (h : Talks line line₁ ret₁)
    (hret : (.ok (ret₁, line₁) : Except Fault (Int × Line)) = .ok (ret, line')) :
    Talks line line' ret := by
  obtain ⟨rfl, rfl⟩ := Prod.mk.inj (Except.ok.inj hret)
  exact h

/-- The same for a function with an output, which does not matter here. -/
theorem Talks.of_return_drop {β : Type} {out out' : β} {ret₁ : Int} (h : Talks line line₁ ret₁)
    (hret : (.ok (ret₁, out, line₁) : Except Fault (Int × β × Line)) = .ok (ret, out', line')) :
    Talks line line' ret := by
  obtain ⟨rfl, hrest⟩ := Prod.mk.inj (Except.ok.inj hret)
  obtain ⟨_, rfl⟩ := Prod.mk.inj hrest
  exact h

/-- On a port that is not open nothing is written or read. -/
theorem talks_of_open {rest : Except Fault (Int × Line)} {code : Int}
    (h : (if line.fd = 0 then return (code, line) else rest) = .ok (ret, line'))
    (hrest : rest = .ok (ret, line') → Talks line line' ret) : Talks line line' ret := by
  by_cases hfd : line.fd = 0
  · rw [if_pos hfd] at h
    exact (talks_refused line code).of_return h
  · rw [if_neg hfd] at h
    exact hrest h

theorem talks_of_open_drop {β : Type} {out out' : β} {rest : Except Fault (Int × β × Line)} {code : Int}
    (h : (if line.fd = 0 then return (code, out, line) else rest) = .ok (ret, out', line'))
    (hrest : rest = .ok (ret, out', line') → Talks line line' ret) : Talks line line' ret := by
  by_cases hfd : line.fd = 0
  · rw [if_pos hfd] at h
    exact (talks_refused line code).of_return_drop h
  · rw [if_neg hfd] at h
    exact hrest h

theorem Talks.trans (h : Talks line line₁ 0) (h' : Talks line₁ line' ret) : Talks line line' ret := by
  obtain ⟨log, hlog, hopens, hall⟩ := h
  obtain ⟨log', hlog', hopens', hall'⟩ := h'
  refine ⟨log ++ log', by rw [hlog', hlog, List.append_assoc], ?_, fun e he => ?_⟩
  · intro data left log'' heq
    cases log with
    | nil => exact hopens' data left log'' heq
    | cons t log =>
      obtain ⟨rfl, _⟩ := List.cons.inj heq
      exact hopens data left log rfl
  · rw [exchanges_append log hopens'] at he
    rcases List.mem_append.mp he with he | he
    · exact ⟨(hall e he).1, fun _ => (hall e he).2 rfl⟩
    · exact hall' e he

/-- The letters of a command that is in the buffer. -/
theorem isVelocity2_iff (hletters : data.take 3 = letters c₁ c₂) (hindex : 3 ≤ index) :
    IsVelocity2 (data.take index) ↔ [c₁.toUInt8, c₂.toUInt8] = ['B'.toUInt8, 'V'.toUInt8] := by
  have htake : ((data.take index).drop 1).take 2 = [c₁.toUInt8, c₂.toUInt8] := by
    have hdrop : ((data.take index).drop 1).take 2 = ((data.take index).take 3).drop 1 :=
      (List.drop_take (i := 1) (j := 3)).symm
    rw [hdrop, List.take_take, Nat.min_eq_left hindex, hletters]
    rfl
  unfold IsVelocity2
  rw [htake]

theorem Reception.frame_ne_nil {r : Reception} (h : r.verdict = 0) : r.frame ≠ [] := by
  intro hframe
  have haccepted := (Reception.verdict_eq_zero_iff.mp h).2
  rw [hframe] at haccepted
  exact absurd haccepted.1 (by simp)

/-- `get_response` behind a command. -/
theorem receive_getResponse {buf buf' : Buffer} (h0 : 0 < buf.length)
    (h : (line.wrote data index).receive getResponse buf = .ok (ret, buf', line')) :
    ret = (delimited (line.reaction index).arrivals).verdict ∧
      buf' = (delimited (line.reaction index).arrivals).fill buf ∧
      line' = (line.wrote data index).received buf' (delimited (line.reaction index).arrivals).rest := by
  by_cases hfit : (delimited (line.reaction index).arrivals).frame.length ≤ buf.length
  · rw [receive_of_fits (Line.wrote_port line data index) h0 hfit] at h
    simp only [Except.ok.injEq, Prod.mk.injEq] at h
    obtain ⟨rfl, rfl, rfl⟩ := h
    exact ⟨rfl, rfl, rfl⟩
  · obtain ⟨i, hi⟩ := receive_of_not_fits (Line.wrote_port line data index) h0 hfit
    rw [hi] at h
    exact absurd h (by simp)

theorem receive_talks {buf buf' : Buffer} (hletters : data.take 3 = letters c₁ c₂) (hindex : 3 ≤ index)
    (hother : [c₁.toUInt8, c₂.toUInt8] ≠ ['B'.toUInt8, 'V'.toUInt8]) (h0 : 0 < buf.length)
    (h : (line.wrote data index).receive getResponse buf = .ok (ret, buf', line')) :
    Talks line line' ret := by
  obtain ⟨rfl, rfl, rfl⟩ := receive_getResponse h0 h
  refine talks_received ?_ fun hret => Reception.frame_ne_nil hret
  unfold Exchange.reception
  rw [if_neg (fun hbv => hother ((isVelocity2_iff hletters hindex).mp hbv))]

theorem exchange_talks (hletters : data.take 3 = letters c₁ c₂) (hindex : 3 ≤ index)
    (hother : [c₁.toUInt8, c₂.toUInt8] ≠ ['B'.toUInt8, 'V'.toUInt8])
    (h : exchange getResponse line data index = .ok (ret, data', line')) : Talks line line' ret := by
  rw [exchange_eq] at h
  by_cases hw : (line.reaction index).written ≤ 0
  · rw [if_pos hw] at h
    exact (talks_unsent line data index (by decide)).of_return_drop h
  · rw [if_neg hw] at h
    have h0 : 0 < (fill 255 0 data).length := by
      rw [fill, List.length_append, List.length_replicate]
      omega
    exact receive_talks hletters hindex hother h0 h

theorem take_letters (size : Nat) (c₁ c₂ : Char) (text : List UInt8) :
    (packetBuf size (letters c₁ c₂ ++ text)).take 3 = letters c₁ c₂ := by
  simp [packetBuf, letters]

theorem take_letters_nil (size : Nat) (c₁ c₂ : Char) :
    (packetBuf size (letters c₁ c₂)).take 3 = letters c₁ c₂ := by
  have h := take_letters size c₁ c₂ []
  rwa [List.append_nil] at h

/-- Every command but one has other letters than `drvm_set_velocity2`. -/
def Other (c₁ c₂ : Char) : Prop := [c₁.toUInt8, c₂.toUInt8] ≠ ['B'.toUInt8, 'V'.toUInt8]

instance (c₁ c₂ : Char) : Decidable (Other c₁ c₂) := inferInstanceAs (Decidable (_ ≠ _))

theorem textCommand_talks {size : Nat} {text : List Char} (hother : Other c₁ c₂)
    (h : textCommand size c₁ c₂ text line = .ok (ret, data', line')) : Talks line line' ret := by
  unfold textCommand at h
  refine talks_of_open_drop h fun h => ?_
  obtain ⟨⟨data, index⟩, hclose, hexchange⟩ := bind_eq_ok_iff.mp h
  obtain ⟨htake, hindex, _⟩ := take_of_closeFrame (show 3 ≤ 3 + text.length by omega) hclose
  rw [take_letters] at htake
  exact exchange_talks htake (by omega) hother hexchange

theorem intsCommand_talks {size : Nat} {args : List Int} (hother : Other c₁ c₂)
    (h : intsCommand size c₁ c₂ args line = .ok (ret, line')) : Talks line line' ret := by
  unfold intsCommand at h
  refine talks_of_open h fun h => ?_
  obtain ⟨⟨data, index⟩, hframe, h⟩ := bind_eq_ok_iff.mp h
  obtain ⟨⟨ret', data', line''⟩, hexchange, h⟩ := bind_eq_ok_iff.mp h
  obtain ⟨rfl, rfl⟩ := pure_pair_eq_ok_iff.mp h
  obtain ⟨⟨data₁, index₁⟩, hput, hclose⟩ := bind_eq_ok_iff.mp hframe
  obtain ⟨htake₁, hle⟩ := take_of_putInts le_rfl hput
  obtain ⟨htake, hindex, _⟩ := take_of_closeFrame hle hclose
  rw [htake₁, take_letters_nil] at htake
  exact exchange_talks htake (by omega) hother hexchange

theorem drvmSetPosition_talks {type pass num : Int}
    (h : Drive.drvmSetPosition line type pass num = .ok (ret, line')) : Talks line line' ret := by
  unfold Drive.drvmSetPosition at h
  refine talks_of_open h fun h => ?_
  obtain ⟨⟨_, data₁⟩, hint₁, h⟩ := bind_eq_ok_iff.mp h
  obtain ⟨⟨_, data₂⟩, hint₂, h⟩ := bind_eq_ok_iff.mp h
  obtain ⟨⟨data₃, index₃⟩, hput, h⟩ := bind_eq_ok_iff.mp h
  obtain ⟨⟨data, index⟩, hclose, h⟩ := bind_eq_ok_iff.mp h
  obtain ⟨⟨ret', data', line''⟩, hexchange, h⟩ := bind_eq_ok_iff.mp h
  obtain ⟨rfl, rfl⟩ := pure_pair_eq_ok_iff.mp h
  obtain ⟨htake₃, hle⟩ := take_of_putInt (show 3 ≤ 5 by decide) hput
  obtain ⟨htake, hindex, _⟩ := take_of_closeFrame (show 3 ≤ index₃ by omega) hclose
  rw [htake₃, take_of_int2str (by decide) hint₂, take_of_int2str le_rfl hint₁, take_letters_nil]
    at htake
  exact exchange_talks htake (by omega) (show Other 'B' 'D' by decide) hexchange

theorem readEncoder_talks {which : Char} (h : Drive.readEncoder which line = .ok (ret, data', line')) :
    Talks line line' ret := by
  unfold Drive.readEncoder at h
  refine talks_of_open_drop h fun h => ?_
  obtain ⟨⟨data, index⟩, hclose, h⟩ := bind_eq_ok_iff.mp h
  obtain ⟨htake, hindex, h0⟩ := take_of_closeFrame (show 3 ≤ 4 by decide) hclose
  rw [take_letters] at htake
  have hexchange : (if (line.reaction index).written ≤ 0 then .ok (-2, data, line.wrote data index)
    else (line.wrote data index).receive getResponse data) = .ok (ret, data', line') := h
  by_cases hw : (line.reaction index).written ≤ 0
  · rw [if_pos hw] at hexchange
    exact (talks_unsent line data index (by decide)).of_return_drop hexchange
  · rw [if_neg hw] at hexchange
    exact receive_talks htake (by omega) (show Other 'A' 'C' by decide) h0 hexchange

theorem drvmReadParameter_talks {param value value' : Int}
    (h : Drive.drvmReadParameter line param value = .ok (ret, value', line')) :
    Talks line line' ret := by
  unfold Drive.drvmReadParameter at h
  refine talks_of_open_drop h fun h => ?_
  obtain ⟨⟨data, index⟩, hframe, h⟩ := bind_eq_ok_iff.mp h
  obtain ⟨⟨count, data₁⟩, hint, hclose⟩ := bind_eq_ok_iff.mp hframe
  obtain ⟨htake, hindex, h0⟩ := take_of_closeFrame (show 3 ≤ 3 + count by omega) hclose
  rw [take_of_int2str le_rfl hint, take_letters_nil] at htake
  obtain ⟨⟨ret', data', line''⟩, hreceive, h⟩ := bind_eq_ok_iff.mp h
  have htalks := receive_talks htake (by omega) (show Other 'X' 'L' by decide) h0 hreceive
  simp only at h
  by_cases hret : ret' = 0
  · rw [if_neg (not_not_intro hret)] at h
    obtain ⟨val, _, h⟩ := bind_eq_ok_iff.mp h
    obtain ⟨v, _, h⟩ := bind_eq_ok_iff.mp h
    exact htalks.of_return_drop h
  · rw [if_pos hret] at h
    exact htalks.of_return_drop h

/-- The second half of `drvm_set_parameter`. -/
theorem parameterStore_talks (h : Drive.parameterStore line = .ok (ret, line')) :
    Talks line line' ret := by
  have h256 : (packetBuf 256 (packet ['X'.toUInt8, 'D'.toUInt8])).length = 256 :=
    length_packetBuf (by simp)
  have htake : (packetBuf 256 (packet ['X'.toUInt8, 'D'.toUInt8])).take 3 = letters 'X' 'D' :=
    take_letters 256 'X' 'D' _
  rw [Drive.parameterStore_eq] at h
  obtain ⟨⟨ret', buf, line''⟩, hreceive, h⟩ := bind_eq_ok_iff.mp h
  obtain ⟨rfl, rfl⟩ := pure_pair_eq_ok_iff.mp h
  obtain ⟨rfl, rfl, rfl⟩ := receive_getResponse (by omega) hreceive
  refine talks_received ?_ fun h0 hframe => ?_
  · unfold Exchange.reception
    rw [if_neg (fun hbv => (show Other 'X' 'D' by decide)
      ((isVelocity2_iff htake (by decide)).mp hbv))]
  · have hresult := overridden_eq (show byteAt (packetBuf 256 (packet ['X'.toUInt8, 'D'.toUInt8])) 1 ≠
      flagEnd.toNat by decide) (delimited (line.reaction 5).arrivals)
    rw [show flagEnd.toNat = 0x34 from rfl, h0, storeResult, if_neg] at hresult
    · exact absurd hresult (by decide)
    · rintro (hflag | hverdict)
      · rw [hframe] at hflag
        exact absurd hflag (by simp)
      · exact Reception.frame_ne_nil hverdict hframe

/-- The rest of the frame, wherever the number of the parameter goes. -/
theorem take_of_putParameter {param value : Int} {start : Nat} {data₀ : Buffer} (hstart : 3 ≤ start)
    (hdata₀ : data₀.take 3 = letters 'X' 'B') (h : (do
      let (ret, data) ← int2str data₀ start param
      let (data, index) ← putInt data (start + ret) value
      closeFrame data index) = .ok (data, index)) :
    data.take 3 = letters 'X' 'B' ∧ 3 ≤ index ∧ 0 < data.length := by
  obtain ⟨⟨count, data₁⟩, hint, h⟩ := bind_eq_ok_iff.mp h
  obtain ⟨⟨data₂, index₂⟩, hput, hclose⟩ := bind_eq_ok_iff.mp h
  obtain ⟨htake₂, hle⟩ := take_of_putInt (show 3 ≤ start + count by omega) hput
  obtain ⟨htake, hindex, h0⟩ := take_of_closeFrame (show 3 ≤ index₂ by omega) hclose
  exact ⟨by rw [htake, htake₂, take_of_int2str hstart hint, hdata₀], by omega, h0⟩

theorem take_of_setParameterFrame {param value : Int}
    (h : Drive.setParameterFrame param value = .ok (data, index)) :
    data.take 3 = letters 'X' 'B' ∧ 3 ≤ index ∧ 0 < data.length := by
  unfold Drive.setParameterFrame at h
  by_cases h9 : param ≤ 9
  · rw [if_pos h9] at h
    obtain ⟨data₁, hstore, h⟩ := bind_eq_ok_iff.mp h
    exact take_of_putParameter (by decide) (by rw [take_of_store le_rfl hstore, take_letters_nil]) h
  · rw [if_neg h9] at h
    exact take_of_putParameter le_rfl (take_letters_nil 256 'X' 'B') h

theorem drvmSetParameter_talks {param value : Int}
    (h : Drive.drvmSetParameter line param value = .ok (ret, line')) : Talks line line' ret := by
  unfold Drive.drvmSetParameter at h
  refine talks_of_open h fun h => ?_
  obtain ⟨⟨data, index⟩, hframe, h⟩ := bind_eq_ok_iff.mp h
  obtain ⟨⟨ret', data', line''⟩, hreceive, h⟩ := bind_eq_ok_iff.mp h
  obtain ⟨hletters, hindex, h0⟩ := take_of_setParameterFrame hframe
  have htalks := receive_talks hletters hindex (show Other 'X' 'B' by decide) h0 hreceive
  simp only at h
  by_cases hret : ret' = 0
  · rw [if_neg (not_not_intro hret)] at h
    exact (hret ▸ htalks).trans (parameterStore_talks h)
  · rw [if_pos hret] at h
    exact (htalks.fail (by decide)).of_return h

/-- The drive's `get_response2` behind its command. -/
theorem receive_getResponse2 {buf buf' : Buffer} (h20 : 20 ≤ buf.length)
    (h : (line.wrote data index).receive Drive.getResponse2 buf = .ok (ret, buf', line')) :
    ret = (Drive.fixed (line.reaction index).arrivals).verdict ∧
      line' = (line.wrote data index).received buf'
        (Drive.fixed (line.reaction index).arrivals).rest := by
  have hreceive : (line.wrote data index).receive Drive.getResponse2 buf = _ :=
    Line.receive_of_ok (Drive.getResponse2_eq (line.reaction index).arrivals h20)
  rw [hreceive] at h
  simp only [Except.ok.injEq, Prod.mk.injEq] at h
  obtain ⟨rfl, rfl, rfl⟩ := h
  exact ⟨rfl, rfl⟩

theorem receive_talks_fixed {buf buf' : Buffer} (hletters : data.take 3 = letters 'B' 'V')
    (hindex : 3 ≤ index) (h20 : 20 ≤ buf.length)
    (h : (line.wrote data index).receive Drive.getResponse2 buf = .ok (ret, buf', line')) :
    Talks line line' ret := by
  obtain ⟨rfl, rfl⟩ := receive_getResponse2 h20 h
  refine talks_received ?_ fun hret => Reception.frame_ne_nil hret
  unfold Exchange.reception
  rw [if_pos ((isVelocity2_iff hletters hindex).mpr rfl)]

theorem drvmSetVelocity2_talks {left right : Int} {odometry odometry' : Odometry}
    (h : Drive.drvmSetVelocity2 line left right odometry = .ok (ret, odometry', line')) :
    Talks line line' ret := by
  by_cases hint : -2147483648 < left ∧ -2147483648 < right
  · obtain ⟨b, c, hbytes⟩ := Drive.velocityBytes_eq hint.1
    obtain ⟨b', c', hbytes'⟩ := Drive.velocityBytes_eq hint.2
    by_cases hfd : line.fd < 0
    · unfold Drive.drvmSetVelocity2 at h
      rw [hbytes, ok_bind, hbytes', ok_bind, if_pos hfd] at h
      exact (talks_refused line _).of_return_drop h
    · rw [Drive.drvmSetVelocity2_eq hbytes hbytes' hfd] at h
      simp only at h
      by_cases hw : (line.reaction 9).written ≤ 0
      · rw [if_pos hw] at h
        exact (talks_unsent line _ 9 (by decide)).of_return_drop h
      · rw [if_neg hw] at h
        obtain ⟨⟨ret', data, line''⟩, hreceive, h⟩ := bind_eq_ok_iff.mp h
        have h20 : 20 ≤ (List.replicate 255 (0 : UInt8)).length := by
          rw [List.length_replicate]
          decide
        have htalks := receive_talks_fixed (take_letters 255 'B' 'V' _) (by decide) h20 hreceive
        simp only at h
        by_cases hd : Drive.Decodable data
        · rw [if_pos hd] at h
          exact htalks.of_return_drop h
        · rw [if_neg hd] at h
          exact (htalks.fail (by decide)).of_return_drop h
  · rw [Drive.drvmSetVelocity2_overflow hint] at h
    exact absurd h (by simp)

theorem drvmReadDriveErr_talks {err err' : DriveErr}
    (h : Drive.drvmReadDriveErr line err = .ok (ret, err', line')) : Talks line line' ret := by
  obtain ⟨⟨ret', data, line''⟩, htext, h⟩ := bind_eq_ok_iff.mp h
  have htalks := textCommand_talks (show Other 'A' 'A' by decide) htext
  simp only at h
  by_cases hret : ret' = 0
  · rw [if_neg (not_not_intro hret)] at h
    exact htalks.of_return_drop h
  · rw [if_pos hret] at h
    exact htalks.of_return_drop h

/-- A call that only drops what else a function gives back. -/
theorem eq_ok_of_drop {β : Type} {x : Except Fault (Int × β × Line)}
    (h : (do
      let (ret, _, line) ← x
      return (ret, line)) = (.ok (ret, line') : Except Fault (Int × Line))) :
    ∃ b, x = .ok (ret, b, line') := by
  obtain ⟨⟨ret', b, line''⟩, hx, h⟩ := bind_eq_ok_iff.mp h
  obtain ⟨rfl, rfl⟩ := pure_pair_eq_ok_iff.mp h
  exact ⟨b, hx⟩

/-- **What a call receives is what arrives behind its commands, and it succeeds only with an `STX`.** -/
theorem Call.talks (call : Call) (h : call.run line = .ok (ret, line')) : Talks line line' ret := by
  cases call with
  | setServo mode =>
    obtain ⟨_, hx⟩ := eq_ok_of_drop h
    exact textCommand_talks (by decide) hx
  | setVelocityMode =>
    obtain ⟨_, hx⟩ := eq_ok_of_drop h
    exact textCommand_talks (by decide) hx
  | setPositionMode =>
    obtain ⟨_, hx⟩ := eq_ok_of_drop h
    exact textCommand_talks (by decide) hx
  | setDriveErrReset =>
    obtain ⟨_, hx⟩ := eq_ok_of_drop h
    exact textCommand_talks (by decide) hx
  | setChargeOn =>
    obtain ⟨_, hx⟩ := eq_ok_of_drop h
    exact textCommand_talks (by decide) hx
  | setChargeOff =>
    obtain ⟨_, hx⟩ := eq_ok_of_drop h
    exact textCommand_talks (by decide) hx
  | setOdometry x y theta => exact intsCommand_talks (by decide) h
  | setVelocity left right => exact intsCommand_talks (by decide) h
  | setVelocity2 left right odometry =>
    obtain ⟨_, hx⟩ := eq_ok_of_drop h
    exact drvmSetVelocity2_talks hx
  | setPosition type pass data => exact drvmSetPosition_talks h
  | setParameter param value => exact drvmSetParameter_talks h
  | readParameter param value =>
    obtain ⟨_, hx⟩ := eq_ok_of_drop h
    exact drvmReadParameter_talks hx
  | readDriveErr err =>
    obtain ⟨_, hx⟩ := eq_ok_of_drop h
    exact drvmReadDriveErr_talks hx
  | readEncoder =>
    obtain ⟨_, hx⟩ := eq_ok_of_drop h
    exact readEncoder_talks hx
  | readOdometry =>
    obtain ⟨_, hx⟩ := eq_ok_of_drop h
    exact readEncoder_talks hx

end Talks

end Tetra.Serial
