import Mathlib.Algebra.Group.Nat.Defs
import Tetra.Serial.Port

/-!
# What both drivers share

The functions of `rs232_common.c` that its copies in `tetra/include` and in
`tetra_interface/include` have in common: numbers to text and back, the checksum, and
`get_response`. A C pointer `&data[i]` is the array together with `i`. The `get_response2` of the
two copies are different functions and are with the driver that uses them.
-/

namespace Tetra.Serial

open Arrival Memory

/-! ## The bytes of the protocol -/

/-- `STX` -/
def stx : UInt8 := 0x02

/-- `ETX` -/
def etx : UInt8 := 0x03

/-- `FLAG_OK` -/
def flagOk : UInt8 := 0x30

/-- `FLAG_END` -/
def flagEnd : UInt8 := 0x34

/-- The code of `;`. -/
def semicolon : UInt8 := 59

/-- `packet_buf[i]`, for an offset below the size that the buffer is declared with. -/
def byteAt (data : Buffer) (i : Nat) : Nat := (data.getD i 0).toNat

/-! ## Numbers and text -/

/-- `mypow`, in 64 bit arithmetic. -/
def mypow (i : Nat) : Nat → Nat
  | 0 => 1
  | k + 1 => mypow i k * i % 2 ^ 64

/-- The `for` loop of `int2str`, with `i` places to go. -/
def int2strLoop (base : Nat) : Nat → Bool → Buffer → Nat → Nat → Except Fault (Nat × Buffer)
  | 0, _, data, index, _ => return (index, data)
  | i + 1, flag, data, index, num =>
    let j := num / mypow 10 i
    let num := num - j * mypow 10 i
    if 0 < j ∨ flag then do
      let data ← store data (base + index) (UInt8.ofNat (j + 48))
      int2strLoop base i true data (index + 1) num
    else int2strLoop base i flag data index num

/--
`int2str(&data[base], num)`: how many bytes the text of `num` has, and the array with it.

The `0` that is stored before the loop is not counted, so for zero the result is 0.
-/
def int2str (data : Buffer) (base : Nat) (num : Int) : Except Fault (Nat × Buffer) :=
  if num < 0 then do
    let data ← store data base 45
    -- the negation of `INT_MIN`
    if num ≤ -2147483648 then throw .overflow
    let data ← store data (base + 1) 48
    int2strLoop base 10 false data 1 (-1 * num).toNat
  else do
    let data ← store data base 48
    int2strLoop base 10 false data 0 num.toNat

/-- `for (k = 0; k < j; k++) dist[index] += (tmp[k] - '0') * mypow(10, j - k - 1);` -/
def addDigits (tmp : Buffer) (j : Nat) (dist : List UInt32) (index : Nat) :
    Except Fault (List UInt32) :=
  (List.range j).foldlM (fun dist k => do
    let c ← load tmp k
    let d ← load dist index
    store dist index (d + UInt32.ofNat ((c.toNat - 48) * mypow 10 (j - k - 1)))) dist

/-- The `while` loop of `str2int`, over the cells of `data` from `i` on. -/
def str2intLoop (tmp : Buffer) (j : Nat) (dist : List UInt32) (index i : Nat) :
    List UInt8 → Except Fault (List UInt32)
  | [] => throw (.load i)
  | c :: cs =>
    if 48 ≤ c ∧ c ≤ 57 then do
      str2intLoop (← store tmp j c) (j + 1) dist index (i + 1) cs
    else if c = semicolon then do
      str2intLoop tmp 0 (← addDigits tmp j dist index) (index + 1) (i + 1) cs
    else if c = etx then addDigits tmp j dist index
    else str2intLoop tmp j dist index (i + 1) cs

/-- `str2int`, with its scratch array `char tmp[10]`. -/
def str2int (data : Buffer) (dist : List UInt32) : Except Fault (List UInt32) :=
  str2intLoop (List.replicate 10 0) 0 dist 0 0 data

/-- `decimal2binary(decimal, &binary[i])` -/
def decimal2binary (decimal : Nat) (binary : List Int) (i : Nat) : Except Fault (List Int) :=
  if 0 < decimal then do
    let binary ← store binary i (decimal % 2 : Nat)
    decimal2binary (decimal / 2) binary (i + 1)
  else return binary
termination_by decimal

/-! ## The checksum -/

/-- `make_lrc(&data[start], num)` -/
def makeLrc (data : Buffer) (start num : Nat) : Except Fault UInt8 :=
  (List.range num).foldlM (fun tmp i => do return tmp ^^^ (← load data (start + i))) 0

/-! ## `get_response` -/

/-- The first loop: bytes go to `data[0]` until one is `STX`. `false` if a read fails. -/
def awaitStx (data : Buffer) : Port → Except Fault (Bool × Buffer × Port)
  | [] => return (false, data, [])
  | .timeout :: port => return (false, data, port)
  | .error :: port => return (false, data, port)
  | .item b _ :: port => do
    let data ← store data 0 b
    if (← load data 0) = stx then return (true, data, port)
    else awaitStx data port

/--
The second loop: bytes go to `data` from `index` on until the last but one is `ETX`, which is where
the checksum has been read. `false` if a read fails.
-/
def awaitLrc (data : Buffer) (index : Nat) : Port → Except Fault (Bool × Nat × Buffer × Port)
  | [] => return (false, index, data, [])
  | .timeout :: port => return (false, index, data, port)
  | .error :: port => return (false, index, data, port)
  | .item b _ :: port => do
    let data ← store data index b
    if (← load data (index + 1 - 2)) = etx then return (true, index + 1, data, port)
    else awaitLrc data (index + 1) port

/-- `get_response` -/
def getResponse (data : Buffer) (port : Port) : Except Fault (Int × Buffer × Port) := do
  let (found, data, port) ← awaitStx data port
  if found then
    let (ended, index, data, port) ← awaitLrc data 1 port
    if ended then
      if (← load data 1) ≠ flagOk then return (-1, data, port)
      else if (← load data (index - 1)) ≠ (← makeLrc data 1 (index - 2)) then
        return (-1, data, port)
      else return (0, data, port)
    else return (-1, data, port)
  else return (-1, data, port)

end Tetra.Serial
