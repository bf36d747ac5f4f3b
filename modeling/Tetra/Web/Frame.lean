import Mathlib.Algebra.Group.Nat.Defs
import Mathlib.Data.Fin.Basic
import Tetra.Lib.Scanner

/-!
# WebSocket frames

`websocket_message.cpp`: a frame, its bytes (`serialize`), and the parser that takes one byte at a
time (`consume`). The two header bytes and the bit-fields are one union; here they are the fields,
with `byte0` and `byte1` for the bytes. A `length` is a number below `2 ^ 64`.

An allocation that fails (`reserve` with the length a header announces) is not modelled.
-/

namespace Tetra.Web

open Scanner

/-- `WebsocketMessage::type` -/
inductive MessageType
  | unknown
  | text
  | binary
  | close
  | ping
  | pong
  deriving DecidableEq, Repr

/-- `WebsocketMessage` -/
@[ext] structure WebsocketMessage where
  type : MessageType := .unknown
  content : List UInt8 := []
  deriving DecidableEq, Repr

/-! ## The header -/

/-- `WebsocketFrame::Header`, the bit-fields in the order of their bits. -/
structure Header where
  opcode : Fin 16
  rsv3 : Bool
  rsv2 : Bool
  rsv1 : Bool
  fin : Bool
  len : Fin 128
  mask : Bool
  deriving DecidableEq, Repr

namespace Header

def opcodeContinuation : Fin 16 := 0
def opcodeText : Fin 16 := 1
def opcodeBinary : Fin 16 := 2
def opcodeClose : Fin 16 := 8
def opcodePing : Fin 16 := 9
def opcodePong : Fin 16 := 10

/-- Bit `i` of a byte that has only this bit. -/
def bit (b : Bool) (i : Nat) : Nat := if b then 2 ^ i else 0

/-- `header_bytes[0]` -/
def byte0 (h : Header) : UInt8 :=
  UInt8.ofNat (h.opcode.val + bit h.rsv3 4 + bit h.rsv2 5 + bit h.rsv1 6 + bit h.fin 7)

/-- `header_bytes[1]` -/
def byte1 (h : Header) : UInt8 := UInt8.ofNat (h.len.val + bit h.mask 7)

/-- `header_bytes[0] = input` -/
def setByte0 (h : Header) (input : UInt8) : Header :=
  { h with
    opcode := Fin.ofNat 16 input.toNat
    rsv3 := input.toNat.testBit 4
    rsv2 := input.toNat.testBit 5
    rsv1 := input.toNat.testBit 6
    fin := input.toNat.testBit 7 }

/-- `header_bytes[1] = input` -/
def setByte1 (h : Header) (input : UInt8) : Header :=
  { h with len := Fin.ofNat 128 input.toNat, mask := input.toNat.testBit 7 }

variable (h h' : Header) (b : UInt8)

@[simp] theorem byte0_setByte1 : (h.setByte1 b).byte0 = h.byte0 := rfl
@[simp] theorem byte1_setByte0 : (h.setByte0 b).byte1 = h.byte1 := rfl

/-- A property of bytes, one by one. -/
theorem forall_byte {p : UInt8 → Prop} (hp : ∀ n : Fin 256, p (UInt8.ofNat n)) (b : UInt8) : p b := by
  have hb := hp ⟨b.toNat, UInt8.toNat_lt b⟩
  rwa [UInt8.ofNat_toNat] at hb

@[simp] theorem byte0_setByte0 : (h.setByte0 b).byte0 = b := by
  have hall : ∀ n : Fin 256, UInt8.ofNat ((n.val % 256) % 16 + bit ((n.val % 256).testBit 4) 4 +
      bit ((n.val % 256).testBit 5) 5 + bit ((n.val % 256).testBit 6) 6 +
      bit ((n.val % 256).testBit 7) 7) = UInt8.ofNat n := by decide +kernel
  exact forall_byte (p := fun b => (h.setByte0 b).byte0 = b) hall b

@[simp] theorem byte1_setByte1 : (h.setByte1 b).byte1 = b := by
  have hall : ∀ n : Fin 256, UInt8.ofNat ((n.val % 256) % 128 + bit ((n.val % 256).testBit 7) 7) =
      UInt8.ofNat n := by decide +kernel
  exact forall_byte (p := fun b => (h.setByte1 b).byte1 = b) hall b

/-- The bytes of a header are the header. -/
@[simp] theorem setBytes_bytes : (h.setByte0 h'.byte0).setByte1 h'.byte1 = h' := by
  obtain ⟨op, r3, r2, r1, fin, len, mask⟩ := h'
  have h0 : ∀ (op : Fin 16) (r3 r2 r1 fin : Bool),
      let n := (UInt8.ofNat (op.val + bit r3 4 + bit r2 5 + bit r1 6 + bit fin 7)).toNat
      Fin.ofNat 16 n = op ∧ n.testBit 4 = r3 ∧ n.testBit 5 = r2 ∧ n.testBit 6 = r1 ∧
        n.testBit 7 = fin := by decide +kernel
  have h1 : ∀ (len : Fin 128) (mask : Bool),
      let n := (UInt8.ofNat (len.val + bit mask 7)).toNat
      Fin.ofNat 128 n = len ∧ n.testBit 7 = mask := by decide +kernel
  obtain ⟨hop, h3, h2, h1', hfin⟩ := h0 op r3 r2 r1 fin
  obtain ⟨hlen, hmask⟩ := h1 len mask
  simp only [setByte0, setByte1, byte0, byte1, hop, h3, h2, h1', hfin, hlen, hmask]

end Header

/-! ## Frames -/

/-- `WebsocketFrame` -/
structure WebsocketFrame where
  header : Header
  length : Nat
  mask : Fin 4 → UInt8
  content : List UInt8

namespace WebsocketFrame

/-- `WebsocketFrame::fromMessage`; `none` is `false`. -/
def fromMessage (frame : WebsocketFrame) (message : WebsocketMessage) : Option WebsocketFrame :=
  let set (opcode : Fin 16) : WebsocketFrame :=
    { frame with
      header := { frame.header with opcode, fin := true, rsv1 := false, rsv2 := false, rsv3 := false }
      content := message.content
      length := message.content.length }
  match message.type with
  | .text => some (set Header.opcodeText)
  | .binary => some (set Header.opcodeBinary)
  | .close => some (set Header.opcodeClose)
  | .ping => some (set Header.opcodePing)
  | .pong => some (set Header.opcodePong)
  | .unknown => none

/-- `(length >> shift) & 0xFF` -/
def lengthByte (length shift : Nat) : UInt8 := UInt8.ofNat ((length >>> shift) &&& 0xFF)

/-- `WebsocketFrame::serialize`: the frame as it is left, and the buffer. `none` is `false`. -/
def serialize (frame : WebsocketFrame) : Option (WebsocketFrame × List UInt8) :=
  let length := frame.length
  let head (len : Fin 128) : WebsocketFrame := { frame with header := { frame.header with len, mask := false } }
  let bytes (frame : WebsocketFrame) : List UInt8 := [frame.header.byte0, frame.header.byte1]
  if length < 126 then
    let frame := head (Fin.ofNat 128 length)
    some (frame, bytes frame ++ frame.content)
  else if length ≤ 2 ^ 16 - 1 then
    let frame := head 126
    some (frame, bytes frame ++ [lengthByte length 8, lengthByte length 0] ++ frame.content)
  else if length ≤ 2 ^ 64 - 1 then
    let frame := head 127
    some (frame, bytes frame ++
      [lengthByte length 56, lengthByte length 48, lengthByte length 40, lengthByte length 32,
        lengthByte length 24, lengthByte length 16, lengthByte length 8, lengthByte length 0] ++
      frame.content)
  else none

end WebsocketFrame

/-! ## The parser -/

/-- `WebsocketFrameParser::state` -/
inductive FrameState
  | headerByte1
  | headerByte2
  | length8BytesLeft
  | length7BytesLeft
  | length6BytesLeft
  | length5BytesLeft
  | length4BytesLeft
  | length3BytesLeft
  | length2BytesLeft
  | length1BytesLeft
  | maskByte1
  | maskByte2
  | maskByte3
  | maskByte4
  | body
  deriving DecidableEq, Repr

/-- `WebsocketFrameParser` with the frame that it fills. -/
structure FrameReader where
  state : FrameState
  frame : WebsocketFrame

namespace FrameReader

/-- `WebsocketFrameParser::reset` -/
def reset (r : FrameReader) : FrameReader := { r with state := .headerByte1 }

/-- `frame.length |= ((uint64_t)(input & 0xFF) << shift)` -/
def orLength (frame : WebsocketFrame) (input : UInt8) (shift : Nat) : WebsocketFrame :=
  { frame with length := frame.length ||| (input.toNat <<< shift) }

/-- `mask[i % 4]` -/
def maskByte (mask : Fin 4 → UInt8) (i : Nat) : UInt8 := mask (Fin.ofNat 4 i)

/-- The loop that unmasks the frame. -/
def unmask (frame : WebsocketFrame) : List UInt8 :=
  frame.content.mapIdx fun i c => if i < frame.length then c ^^^ maskByte frame.mask i else c

/-- `WebsocketFrameParser::consume` -/
def consume (r : FrameReader) (input : UInt8) : Verdict × FrameReader :=
  let frame := r.frame
  match r.state with
  | .headerByte1 => (.more, ⟨.headerByte2, { frame with header := frame.header.setByte0 input }⟩)
  | .headerByte2 =>
    let frame := { frame with header := frame.header.setByte1 input }
    if frame.header.len.val < 126 then
      let frame := { frame with length := frame.header.len.val, content := [] }
      if frame.header.mask then (.more, ⟨.maskByte1, frame⟩)
      else if 0 < frame.length then (.more, ⟨.body, frame⟩)
      else (.accept, ⟨.headerByte2, frame⟩)
    else if frame.header.len.val = 126 then (.more, ⟨.length2BytesLeft, { frame with length := 0 }⟩)
    else (.more, ⟨.length8BytesLeft, { frame with length := 0 }⟩)
  | .length8BytesLeft => (.more, ⟨.length7BytesLeft, orLength frame input 56⟩)
  | .length7BytesLeft => (.more, ⟨.length6BytesLeft, orLength frame input 48⟩)
  | .length6BytesLeft => (.more, ⟨.length5BytesLeft, orLength frame input 40⟩)
  | .length5BytesLeft => (.more, ⟨.length4BytesLeft, orLength frame input 32⟩)
  | .length4BytesLeft => (.more, ⟨.length3BytesLeft, orLength frame input 24⟩)
  | .length3BytesLeft => (.more, ⟨.length2BytesLeft, orLength frame input 16⟩)
  | .length2BytesLeft => (.more, ⟨.length1BytesLeft, orLength frame input 8⟩)
  | .length1BytesLeft =>
    -- whether the length is zero is not looked at here
    let frame := { orLength frame input 0 with content := [] }
    (.more, ⟨if frame.header.mask then .maskByte1 else .body, frame⟩)
  | .maskByte1 => (.more, ⟨.maskByte2, { frame with mask := Function.update frame.mask 0 input }⟩)
  | .maskByte2 => (.more, ⟨.maskByte3, { frame with mask := Function.update frame.mask 1 input }⟩)
  | .maskByte3 => (.more, ⟨.maskByte4, { frame with mask := Function.update frame.mask 2 input }⟩)
  | .maskByte4 =>
    let frame := { frame with mask := Function.update frame.mask 3 input }
    if 0 < frame.length then (.more, ⟨.body, frame⟩) else (.accept, ⟨.maskByte4, frame⟩)
  | .body =>
    let frame := { frame with content := frame.content ++ [input] }
    if frame.content.length < frame.length then (.more, ⟨.body, frame⟩)
    else if frame.header.mask then (.accept, ⟨.body, { frame with content := unmask frame }⟩)
    else (.accept, ⟨.body, frame⟩)

/-- `WebsocketFrameParser::parse` -/
def parse (r : FrameReader) (input : List UInt8) : Verdict × FrameReader × List UInt8 :=
  scan consume r input

end FrameReader

end Tetra.Web
