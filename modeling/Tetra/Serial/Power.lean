import Mathlib.Data.Rat.Defs
import Tetra.Serial.Command

/-!
# The power board's serial driver

`power_module.c`, and the `get_response2` of `tetra_interface/include/rs232_common.c` it uses: the
reply announces the length of its payload in two bytes behind the `STX`.

The functions that poll the board differ in the two letters of the request, the size of the buffer
and the offsets they read; each of them is a `Decoder`. Doubles are exact rationals.
-/

namespace Tetra.Serial.Power

open Arrival Memory

/-! ## `get_response2` -/

/-- `(data[2] & 0xff) | ((data[1] << 8) & 0xff00)` -/
def totalByte (data : Buffer) : Nat :=
  (byteAt data 2 &&& 0xff) ||| ((byteAt data 1 <<< 8) &&& 0xff00)

/-- `do ... while(index < total_byte + 5)`, with `count` rounds to go. `false` if the time is up. -/
def readCounted (data : Buffer) (index : Nat) : Nat → Port → Except Fault (Bool × Buffer × Port)
  | 0, port => return (true, data, port)
  | count + 1, port => do
    let (ret, data, port) ← read data index 1 port
    if ret = 0 then return (false, data, port)
    else readCounted data (index + 1) count port

/--
`get_response2` of the power board. Behind the test of the checksum the function ends without a
`return`, so there is no value (`none`).
-/
def getResponse2 (data : Buffer) (port : Port) : Except Fault (Option Int × Buffer × Port) := do
  let (found, data, port) ← awaitStx data port
  if found then
    -- what these two reads return is not looked at
    let (_, data, port) ← read data 1 1 port
    let (_, data, port) ← read data 2 1 port
    let (ended, data, port) ← readCounted data 3 (totalByte data + 2) port
    if ended then
      let tmp ← makeLrc data 3 (totalByte data)
      if (← load data (totalByte data + 4)) ≠ tmp then return (some (-1), data, port)
      else return (none, data, port)
    else return (some (-11), data, port)
  else return (some (-10), data, port)

/-! ## Commands without a result -/

/-- `power_set_light` -/
def powerSetLight (line : Line) (id brightness : Int) : Except Fault (Int × Line) :=
  intsCommand 255 'L' 'I' [id, brightness] line

/-- `power_set_Single_OutputPort` -/
def powerSetSingleOutputPort (line : Line) (id value : Int) : Except Fault (Int × Line) :=
  intsCommand 255 'P' 'o' [id, value] line

/-- `power_set_Single_Enable` -/
def powerSetSingleEnable (line : Line) (id value : Int) : Except Fault (Int × Line) :=
  intsCommand 255 'P' 'e' [id, value] line

/-- `power_toggle_on` -/
def powerToggleOn (line : Line) (id : Int) : Except Fault (Int × Line) :=
  intsCommand 255 'L' 'T' [id] line

/-- `power_set_light_toggle` -/
def powerSetLightToggle (line : Line) (deIndex lightAcc1 hBrightness lightAcc2 lBrightness : Int) :
    Except Fault (Int × Line) :=
  intsCommand 255 'L' 'D' [deIndex, lightAcc1, hBrightness, lightAcc2, lBrightness] line

/-- A command with one character that says which of its modes is meant. -/
def modeCommand (c₁ c₂ mode : Char) (line : Line) : Except Fault (Int × Line) := do
  let (ret, _, line) ← textCommand 255 c₁ c₂ [mode] line
  return (ret, line)

/-- `power_set_Ultrasonic` -/
def powerSetUltrasonic (line : Line) (mode : Int) : Except Fault (Int × Line) :=
  modeCommand 'P' 'S' (if mode = 1 then '1' else '0') line

/-- `power_wheel_enable` -/
def powerWheelEnable (line : Line) (mode : Int) : Except Fault (Int × Line) :=
  modeCommand 'P' 'M' (if mode = 1 then '1' else '0') line

/-- `power_conveyor_movement` -/
def powerConveyorMovement (line : Line) (mode : Int) : Except Fault (Int × Line) :=
  modeCommand 'C' 'N' (if mode = 1 then '1' else '0') line

/-- `power_conveyor_manual_movement` -/
def powerConveyorManualMovement (line : Line) (on : Int) : Except Fault (Int × Line) :=
  modeCommand 'C' 'C' (if on = 1 then '1' else if on = 2 then '2' else '0') line

/-! ### Eight ports in one character -/

/-- `atol`: a sign if there is one, and the digits up to anything else. -/
def atol (text : List UInt8) : Int :=
  let value (digits : List UInt8) : Int :=
    (digits.takeWhile fun b => 48 ≤ b && b ≤ 57).foldl (fun n b => 10 * n + (b.toNat - 48)) 0
  match text with
  | b :: rest => if b = Decimal.minus then -value rest else value text
  | [] => 0

/-- `binaryToDecimal` from place `temp` on, for a number of at most `places` decimal places. -/
def binaryToDecimal : (places temp : Nat) → Int → Int
  | 0, _, _ => 0
  | places + 1, temp, binarynum =>
    if binarynum = 0 then 0
    else binarynum.tmod 10 * 2 ^ temp + binaryToDecimal places (temp + 1) (binarynum.tdiv 10)

/-- `power_set_OutputPort` and `power_set_Enable`. The text of the ports has to fit into
`char charValue[10]`, and whether the port is open is not looked at. -/
def portsCommand (c : Char) (ports : List Int) (line : Line) : Except Fault (Int × Line) := do
  let text := (ports.reverse.map Decimal.signed).flatten
  let _ ← storeAll (List.replicate 10 (0 : UInt8)) 0 ((text ++ [0]).map some)
  -- a `long` has at most 19 decimal places
  let value := UInt8.ofInt (binaryToDecimal 19 0 (atol text) + 48)
  let (data, index) ← closeFrame (packetBuf 255 (letters 'P' c ++ [value])) 4
  let (ret, _, line) ← exchange getResponse line data index
  return (ret, line)

/-- `power_set_OutputPort` -/
def powerSetOutputPort (line : Line) (port0 port1 port2 port3 port4 port5 port6 port7 : Int) :
    Except Fault (Int × Line) :=
  portsCommand 'O' [port0, port1, port2, port3, port4, port5, port6, port7] line

/-- `power_set_Enable` -/
def powerSetEnable (line : Line) (port0 port1 port2 port3 port4 port5 port6 port7 : Int) :
    Except Fault (Int × Line) :=
  portsCommand 'E' [port0, port1, port2, port3, port4, port5, port6, port7] line

/--
The second half of a parameter write, which has the bank `c` stored.

The result of `get_response` counts for nothing if the buffer has `FLAG_OK` in its second cell.
-/
def parameterStore (c : Char) (line : Line) : Except Fault (Int × Line) := do
  let (buf, index) ← closeFrame (packetBuf 255 (letters c 'F')) 3
  let (ret, line) := line.write buf index
  if ret ≤ 0 then return (-2, line)
  else
    let (ret, buf, line) ← line.receive getResponse (fill 255 0 buf)
    let ret := if byteAt buf 1 = 0x30 then 0 else ret
    if ret ≠ 0 then return (-1, line)
    else return (ret, line)

/-- A parameter of the bank `c`: the frame that writes it, then the one that stores the bank. -/
def parameterWrite (c : Char) (line : Line) (id data : Int) : Except Fault (Int × Line) :=
  if line.fd = 0 then return (-1, line)
  else do
    let (buf, index) ← delimitedFrame 255 c 'W' [id, data]
    let (ret, line) := line.write buf index
    if ret ≤ 0 then return (-2, line)
    else
      let (ret, _, line) ← line.receive getResponse (fill 255 0 buf)
      if ret ≠ 0 then return (-1, line)
      else parameterStore c line

theorem parameterStore_eq (c : Char) (line : Line) :
    parameterStore c line =
      let buf := packetBuf 255 (packet [c.toUInt8, 'F'.toUInt8])
      if (line.reaction 5).written ≤ 0 then .ok (-2, line.wrote buf 5)
      else do
        let (ret, buf, line) ← (line.wrote buf 5).receive getResponse (List.replicate 255 0)
        return (if (if byteAt buf 1 = 0x30 then 0 else ret) ≠ 0 then -1 else 0, line) := by
  have hclear : fill 255 0 (packetBuf 255 (packet [c.toUInt8, 'F'.toUInt8])) =
      List.replicate 255 0 := fill_packetBuf (by simp) le_rfl
  have hlast : ∀ (ret : Int) (line : Line), (if ret ≠ 0 then return (-1, line)
      else return (ret, line) : Except Fault (Int × Line)) =
        return (if ret ≠ 0 then -1 else 0, line) := by
    intro ret line
    by_cases h0 : ret = 0 <;> simp [h0]
  rw [parameterStore, closeFrame_letters (by decide), ok_bind, ← hclear]
  simp only [hlast]
  rfl

theorem parameterWrite_eq {c : Char} {line : Line} {id data : Int} {buf : Buffer} {index : Nat}
    (hfd : line.fd ≠ 0) (hframe : delimitedFrame 255 c 'W' [id, data] = .ok (buf, index)) :
    parameterWrite c line id data =
      if (line.reaction index).written ≤ 0 then .ok (-2, line.wrote buf index)
      else (do
        let (ret, _, line) ← (line.wrote buf index).receive getResponse (fill 255 0 buf)
        if ret ≠ 0 then return (-1, line)
        else parameterStore c line) := by
  rw [parameterWrite, if_neg hfd, hframe]
  rfl

/-- `power_parameter_write` -/
def powerParameterWrite (line : Line) (id data : Int) : Except Fault (Int × Line) :=
  parameterWrite 'P' line id data

/-- `conveyor_parameter_write` -/
def conveyorParameterWrite (line : Line) (id data : Int) : Except Fault (Int × Line) :=
  parameterWrite 'C' line id data

/-! ## Polling the board -/

/-- An output of a decoder: the offset of its word in the buffer, and what is made of the word. -/
inductive Field
  | int (offset : Nat)
  | double (offset : Nat) (divisor : Nat)
  | bits (offset : Nat)
  deriving DecidableEq, Repr

/-- The value of an output. -/
inductive Value
  | int (i : Int)
  | double (x : ℚ)
  | bits (bs : List Int)
  deriving DecidableEq

/-- A function that polls the board. -/
structure Decoder where
  first : Char
  second : Char
  size : Nat := 255
  fields : List Field

/-- `(packet_buf[offset + 1] & 0xff) | ((packet_buf[offset] << 8) & 0xff00)` -/
def wordAt (data : Buffer) (offset : Nat) : Nat :=
  (byteAt data (offset + 1) &&& 0xff) ||| ((byteAt data offset <<< 8) &&& 0xff00)

def Field.offset : Field → Nat
  | int offset => offset
  | double offset _ => offset
  | bits offset => offset

/-- What is made of a word. -/
def Field.decode (f : Field) (word : Nat) : Except Fault Value :=
  match f with
  | int _ => return .int word
  | double _ divisor => return .double (word / divisor)
  | bits _ => do return .bits (← decimal2binary word (List.replicate 8 0) 0)

/-- How a request ends: before anything is received, or with a reply. -/
inductive Outcome
  | refused (ret : Int)
  | replied (ret : Option Int) (data : Buffer)

/-- A request, up to the point where the reply is decoded. -/
def request (size : Nat) (c₁ c₂ : Char) (line : Line) : Except Fault (Outcome × Line) :=
  if line.fd = 0 then return (.refused (-1), line)
  else do
    let (data, index) ← closeFrame (packetBuf size (letters c₁ c₂)) 3
    let (ret, line) := line.write data index
    if ret ≤ 0 then return (.refused (-2), line)
    else
      let (ret, data, line) ← line.receive getResponse2 (fill size 0 data)
      return (.replied ret data, line)

/-- A poll, with the outputs. The reply is decoded whatever `get_response2` has returned. -/
def Decoder.call (d : Decoder) (line : Line) (out : List Value) :
    Except Fault (Option Int × List Value × Line) := do
  let (outcome, line) ← request d.size d.first d.second line
  match outcome with
  | .refused ret => return (some ret, out, line)
  | .replied ret data =>
    -- "Packet Error Pass.."
    if byteAt data 1 = 0x02 then return (some (-1), out, line)
    else
      let out ← d.fields.mapM fun f => f.decode (wordAt data f.offset)
      return (ret, out, line)

/-- The words `idata_0`, `idata_1`, ... one behind the other. -/
def words (n : Nat) : List Field := (List.range n).map fun i => .int (3 + 2 * i)

theorem exists_of_mem_words {n : Nat} {f : Field} (h : f ∈ words n) : ∃ i, f = .int (3 + 2 * i) := by
  obtain ⟨i, _, rfl⟩ := List.mem_map.mp h
  exact ⟨i, rfl⟩

/-- `power_read_Battery`: `dbattery`, `dVoltage`, `dCurrent`, `mode_status`, `Input`, `Output`. -/
def powerReadBattery : Decoder where
  first := 'P'
  second := 'V'
  fields := [.double 3 1, .double 5 10, .double 7 10, .int 9, .bits 11, .bits 13]

/-- `power_read_tetra`: the outputs of `power_read_Battery`, then `Ultrasonic[1]`, `[2]`, `[3]`, `[0]`. -/
def powerReadTetra : Decoder where
  first := 'P'
  second := 'Q'
  fields := [.double 3 1, .double 5 10, .double 7 10, .int 9, .bits 11, .bits 13,
    .double 15 1000, .double 17 1000, .double 19 1000, .double 21 1000]

/-- `power_read_Ultrasonic`: `Ultrasonic[1]`, `[2]`, `[3]`, `[0]`. -/
def powerReadUltrasonic : Decoder where
  first := 'P'
  second := 'N'
  fields := [.double 5 1000, .double 7 1000, .double 9 1000, .double 11 1000]

/-- `power_data_read` -/
def powerDataRead : Decoder where
  first := 'P'
  second := 'D'
  fields := words 12

/-- `power_adc_read` -/
def powerAdcRead : Decoder where
  first := 'P'
  second := 'A'
  fields := words 8

/-- `power_version_read` -/
def powerVersionRead : Decoder where
  first := 'V'
  second := 'R'
  fields := words 8

/-- `power_sonar_read` -/
def powerSonarRead : Decoder where
  first := 'P'
  second := 'N'
  fields := words 6

/-- `power_parameter_read` -/
def powerParameterRead : Decoder where
  first := 'P'
  second := 'R'
  fields := words 32

/-- `conveyor_parameter_read` -/
def conveyorParameterRead : Decoder where
  first := 'C'
  second := 'R'
  fields := words 21

/-- `conveyor_data_read` -/
def conveyorDataRead : Decoder where
  first := 'C'
  second := 'D'
  fields := words 14

/-- `power_read_GPIO`: `Input`, `Output`. -/
def powerReadGpio : Decoder where
  first := 'P'
  second := 'I'
  fields := [.bits 3, .bits 5]

/-- `power_read_loadcell` -/
def powerReadLoadcell : Decoder where
  first := 'C'
  second := 'L'
  fields := [.double 3 10]

/-- `power_read_Integral_Current` -/
def powerReadIntegralCurrent : Decoder where
  first := 'I'
  second := 'C'
  size := 1024
  fields := words 500

/-- `power_read_Integral_Voltage`, up to the point where it looks at the result. -/
def readIntegralVoltage (line : Line) : Except Fault (Outcome × Line) := request 1024 'I' 'V' line

/-- The functions whose outputs are the readings of the board. -/
def decoders : List Decoder :=
  [powerReadBattery, powerReadTetra, powerReadUltrasonic, powerDataRead, powerAdcRead,
    powerVersionRead, powerSonarRead, powerParameterRead, conveyorParameterRead, conveyorDataRead,
    powerReadGpio, powerReadLoadcell]

end Tetra.Serial.Power
