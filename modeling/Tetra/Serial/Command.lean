import Tetra.Lib.Decimal
import Tetra.Serial.Reception

/-!
# Commands

How the functions of `drive_module.c` and `power_module.c` put a command into their `packet_buf`,
write it and wait for the reply. Most of them differ only in the size of the buffer, two letters and
their arguments; what they have in common is written once here and applied under their own names in
`Tetra.Serial.Drive` and `Tetra.Serial.Power`.

`delimitedFrame_eq` is what the frames with numbers in them look like.
-/

namespace Tetra.Serial

open Arrival Memory Decimal

/-! ## Frames -/

/-- `unsigned char packet_buf[size] = {...}` -/
def packetBuf (size : Nat) (init : List UInt8) : Buffer :=
  init ++ List.replicate (size - init.length) 0

/-- `STX` and the two letters of a command. -/
def letters (c₁ c₂ : Char) : List UInt8 := [stx, c₁.toUInt8, c₂.toUInt8]

/-- `packet_buf[index] = ETX` and the checksum behind it; how many bytes are to be written. -/
def closeFrame (data : Buffer) (index : Nat) : Except Fault (Buffer × Nat) := do
  let data ← store data index etx
  let data ← store data (index + 1) (← makeLrc data 1 index)
  return (data, index + 2)

/-- `int2str(&packet_buf[index], num)`, with the length put right for zero. -/
def putInt (data : Buffer) (index : Nat) (num : Int) : Except Fault (Buffer × Nat) := do
  let (ret, data) ← int2str data index num
  return (data, index + if num = 0 then 1 else ret)

/-- Numbers with a `;` between them. -/
def putInts (data : Buffer) (index : Nat) : List Int → Except Fault (Buffer × Nat)
  | [] => return (data, index)
  | [num] => putInt data index num
  | num :: nums => do
    let (data, index) ← putInt data index num
    let data ← store data index semicolon
    putInts data (index + 1) nums

/-- The frame of a command whose arguments are numbers. -/
def delimitedFrame (size : Nat) (c₁ c₂ : Char) (args : List Int) : Except Fault (Buffer × Nat) := do
  let (data, index) ← putInts (packetBuf size (letters c₁ c₂)) 3 args
  closeFrame data index

/-! ## Exchanges -/

/-- `write`, `memset(packet_buf, 0, 255)` and a receiver. -/
def exchange (receiver : Buffer → Port → Except Fault (Int × Buffer × Port)) (line : Line)
    (data : Buffer) (index : Nat) : Except Fault (Int × Buffer × Line) :=
  let (ret, line) := line.write data index
  if ret ≤ 0 then return (-2, data, line)
  else line.receive receiver (fill 255 0 data)

theorem exchange_eq (receiver : Buffer → Port → Except Fault (Int × Buffer × Port)) (line : Line)
    (data : Buffer) (index : Nat) :
    exchange receiver line data index =
      if (line.reaction index).written ≤ 0 then .ok (-2, data, line.wrote data index)
      else (line.wrote data index).receive receiver (fill 255 0 data) := rfl

/-- A command with a fixed text, and the buffer when it returns. -/
def textCommand (size : Nat) (c₁ c₂ : Char) (text : List Char) (line : Line) :
    Except Fault (Int × Buffer × Line) :=
  let data := packetBuf size (letters c₁ c₂ ++ text.map Char.toUInt8)
  if line.fd = 0 then return (-1, data, line)
  else do
    let (data, index) ← closeFrame data (3 + text.length)
    exchange getResponse line data index

/-- A command whose arguments are numbers. -/
def intsCommand (size : Nat) (c₁ c₂ : Char) (args : List Int) (line : Line) :
    Except Fault (Int × Line) :=
  if line.fd = 0 then return (-1, line)
  else do
    let (data, index) ← delimitedFrame size c₁ c₂ args
    let (ret, _, line) ← exchange getResponse line data index
    return (ret, line)

/-! ## What is written -/

/-- What happens on the line from `line` to `line'` starts with the write of `frame`. -/
def Line.WritesFirst (line line' : Line) (frame : List UInt8) : Prop :=
  ∃ r : Reaction, line.log ++ [.wrote frame r.written r.arrivals] <+: line'.log

/-- It starts with the write of `frame`, and nothing else is written. -/
def Line.WritesOnly (line line' : Line) (frame : List UInt8) : Prop :=
  ∃ (r : Reaction) (received : List Traffic),
    line'.log = line.log ++ .wrote frame r.written r.arrivals :: received ∧
      ∀ t ∈ received, ∃ data left, t = .received data left

section WritesFirst

variable {line line' : Line} {data data' : Buffer} {index : Nat} {ret : Int}
  {receiver : Buffer → Port → Except Fault (Int × Buffer × Port)}

theorem Line.writesFirst_of_prefix (h : (line.wrote data index).log <+: line'.log) :
    line.WritesFirst line' (data.take index) :=
  ⟨line.reaction index, h⟩

theorem receive_log (h : line.receive receiver data = .ok (ret, data', line')) :
    line.log <+: line'.log := by
  obtain ⟨⟨_, _, _⟩, _, hline⟩ := bind_eq_ok_iff.mp h
  obtain ⟨-, -, rfl⟩ := pure_triple_eq_ok_iff.mp hline
  rw [Line.received_log]
  exact List.prefix_append _ _

/-- Nothing is lost from a log. -/
theorem Line.wrote_log_prefix (line : Line) (data : Buffer) (index : Nat) :
    line.log <+: (line.wrote data index).log := by
  rw [Line.wrote_log]
  exact List.prefix_append _ _

theorem Line.WritesOnly.writesFirst {frame : List UInt8} (h : line.WritesOnly line' frame) :
    line.WritesFirst line' frame := by
  obtain ⟨r, received, hlog, -⟩ := h
  exact ⟨r, received, by rw [hlog, List.append_assoc, List.singleton_append]⟩

theorem exchange_writesOnly (h : exchange receiver line data index = .ok (ret, data', line')) :
    line.WritesOnly line' (data.take index) := by
  rw [exchange_eq] at h
  by_cases hw : (line.reaction index).written ≤ 0
  · rw [if_pos hw] at h
    simp only [Except.ok.injEq, Prod.mk.injEq] at h
    obtain ⟨-, -, rfl⟩ := h
    exact ⟨line.reaction index, [], rfl, by simp⟩
  · rw [if_neg hw] at h
    obtain ⟨⟨ret₁, data₁, port⟩, -, hline⟩ := bind_eq_ok_iff.mp h
    obtain ⟨-, -, rfl⟩ := pure_triple_eq_ok_iff.mp hline
    refine ⟨line.reaction index, [.received data₁ port], ?_, ?_⟩
    · rw [Line.received_log, Line.wrote_log, List.append_assoc, List.singleton_append]
    · intro t ht
      exact ⟨data₁, port, List.mem_singleton.mp ht⟩

theorem intsCommand_writesOnly {size : Nat} {c₁ c₂ : Char} {args : List Int} (hfd : line.fd ≠ 0)
    (hframe : delimitedFrame size c₁ c₂ args = .ok (data, index))
    (h : intsCommand size c₁ c₂ args line = .ok (ret, line')) :
    line.WritesOnly line' (data.take index) := by
  rw [intsCommand, if_neg hfd, hframe, ok_bind] at h
  obtain ⟨⟨_, _, _⟩, hexchange, hline⟩ := bind_eq_ok_iff.mp h
  obtain ⟨-, rfl⟩ := pure_pair_eq_ok_iff.mp hline
  exact exchange_writesOnly hexchange

end WritesFirst

/-! ## Replies that fit -/

/-- `get_response` on a line, if the reply fits the buffer. -/
theorem receive_of_fits {line : Line} {port : Port} {data : Buffer} (hport : line.port = port)
    (h0 : 0 < data.length) (hfit : (delimited port).frame.length ≤ data.length) :
    line.receive getResponse data = .ok ((delimited port).verdict, (delimited port).fill data,
      line.received ((delimited port).fill data) (delimited port).rest) := by
  subst hport
  exact Line.receive_of_ok (getResponse_of_fits h0 hfit)

theorem receive_of_not_fits {line : Line} {port : Port} {data : Buffer} (hport : line.port = port)
    (h0 : 0 < data.length) (hfit : ¬ (delimited port).frame.length ≤ data.length) :
    ∃ i, line.receive getResponse data = .error (.store i) := by
  subst hport
  obtain ⟨i, hi⟩ := getResponse_of_not_fits h0 hfit
  exact ⟨i, Line.receive_of_error hi⟩

/-- The replies to the next `n` commands are given, and fit a buffer of 255 bytes. -/
structure Line.Fits (line : Line) (n : Nat) : Prop where
  given : n ≤ line.reactions.length
  fits : ∀ r ∈ line.reactions, (delimited r.arrivals).frame.length ≤ 255

section Fits

variable {line : Line} {n : Nat} {data buf : Buffer} {index : Nat}

/-- A reception behind a command returns, and leaves the replies to the next commands. -/
theorem receive_of_line_fits (h : line.Fits (n + 1)) (hbuf : 255 ≤ buf.length) :
    ∃ ret buf' line', (line.wrote data index).receive getResponse buf = .ok (ret, buf', line') ∧
      line'.Fits n := by
  obtain ⟨r, more, hline⟩ := List.exists_cons_of_length_pos (Nat.lt_of_lt_of_le n.succ_pos h.given)
  have hport := Line.port_wrote hline data index
  have hfit : (delimited r.arrivals).frame.length ≤ 255 := h.fits r (by rw [hline]; simp)
  refine ⟨_, _, _, receive_of_fits hport (by omega) (hfit.trans hbuf), ?_⟩
  have hreactions := Line.reactions_received hline data
    ((delimited r.arrivals).fill buf) index (delimited r.arrivals).rest
  have hgiven := h.given
  rw [hline, List.length_cons] at hgiven
  refine ⟨by rw [hreactions]; omega, ?_⟩
  intro r' hr'
  rw [hreactions] at hr'
  exact h.fits r' (by rw [hline]; exact List.mem_cons_of_mem r hr')

theorem intsCommand_returns {size : Nat} {c₁ c₂ : Char} {args : List Int}
    (hframe : delimitedFrame size c₁ c₂ args = .ok (data, index)) (h : line.Fits 1) :
    ∃ ret line', intsCommand size c₁ c₂ args line = .ok (ret, line') := by
  by_cases hfd : line.fd = 0
  · exact ⟨-1, line, by rw [intsCommand, if_pos hfd]; rfl⟩
  · rw [intsCommand, if_neg hfd, hframe, ok_bind]
    simp only [exchange_eq]
    by_cases hw : (line.reaction index).written ≤ 0
    · rw [if_pos hw]
      exact ⟨-2, _, rfl⟩
    · have hbuf : 255 ≤ (fill 255 0 data).length := by
        rw [fill, List.length_append, List.length_replicate]
        omega
      obtain ⟨ret, buf', line', hreceive, -⟩ := receive_of_line_fits h hbuf
      rw [if_neg hw, hreceive]
      exact ⟨ret, line', rfl⟩

end Fits

/-! ## Numbers as text -/

theorem mypow_ten {i : Nat} (h : i ≤ 19) : mypow 10 i = 10 ^ i := by
  induction i with
  | zero => rfl
  | succ i ih =>
    have hle : 10 ^ (i + 1) ≤ 10 ^ 19 := Nat.pow_le_pow_right (by norm_num) h
    rw [mypow, ih (by omega), ← Nat.pow_succ, Nat.mod_eq_of_lt (by omega)]

theorem int2strLoop_eq {base k : Nat} {flag : Bool} {data : Buffer} {index num : Nat} (hk : k ≤ 10)
    (hroom : base + index + k ≤ data.length) :
    int2strLoop base k flag data index num = .ok (index + (places 10 flag k num).length,
      patch data (base + index) ((places 10 flag k num).map fun d => some (digit d))) := by
  induction k generalizing flag data index num with
  | zero => rfl
  | succ k ih =>
    have hrest : num - num / 10 ^ k * 10 ^ k = num % 10 ^ k := by
      rw [Nat.mod_def, Nat.mul_comm]
    have hdigit : UInt8.ofNat (num / 10 ^ k + 48) = digit (num / 10 ^ k) := by
      rw [digit, Nat.add_comm]
    rw [int2strLoop, places, mypow_ten (by omega), hrest, hdigit]
    by_cases hj : 0 < num / 10 ^ k ∨ flag = true
    · rw [if_pos hj, if_pos hj, store_of_lt (by omega), ok_bind,
        ih (by omega) (by rw [List.length_set]; omega)]
      simp [Nat.add_assoc, Nat.add_comm 1]
    · rw [if_neg hj, if_neg hj]
      obtain rfl : flag = false := by simpa using fun h => hj (Or.inr h)
      exact ih (by omega) (by omega)

/-- An `int` that can be negated, which is any but `INT_MIN`. -/
def Negatable (num : Int) : Prop := -2147483648 < num ∧ num < 2147483648

theorem length_signed {num : Int} (h : Negatable num) : (signed num).length ≤ 11 := by
  obtain ⟨hlow, hhigh⟩ := h
  exact length_signed_le (k := 10) (by omega) (by omega)

/-- The digits of `n`, over a cell that already holds a `0`. -/
theorem int2str_digits {data : Buffer} {n : Nat} (hn : 0 < n) (hlt : n < 10 ^ 10)
    {base index : Nat} (hroom : base + index + 10 ≤ data.length) :
    int2strLoop base 10 false (data.set (base + index) 48) index n =
      .ok (index + (numeral n).length, patch data (base + index) ((numeral n).map some)) := by
  obtain ⟨c, cs, hc⟩ := List.exists_cons_of_length_pos (length_numeral_pos n)
  have hdigits := places_false (b := 10) (by norm_num) hlt
  have hmap : ((Nat.digits 10 n).reverse.map fun d => some (digit d)) = (numeral n).map some := by
    rw [numeral_of_pos hn, List.map_map]
    rfl
  rw [int2strLoop_eq le_rfl (by simpa using hroom), hdigits, hmap, hc, List.map_cons, patch_set_some,
    ← List.map_cons, ← hc, numeral_of_pos hn, List.length_map]

/-- `int2str` writes the decimal text of `num`, and returns its length, but for zero. -/
theorem int2str_eq {data : Buffer} {base : Nat} {num : Int} (hnum : Negatable num)
    (hroom : base + 11 ≤ data.length) :
    int2str data base num = .ok (if num = 0 then 0 else (signed num).length,
      patch data base ((signed num).map some)) := by
  obtain ⟨hlow, hhigh⟩ := hnum
  rcases lt_trichotomy num 0 with hneg | rfl | hpos
  · have habs : (-1 * num).toNat = num.natAbs := by omega
    rw [int2str, if_pos hneg, store_of_lt (by omega), ok_bind, if_neg (by omega),
      store_of_lt (by rw [List.length_set]; omega), ok_bind, habs,
      int2str_digits (by omega) (by omega) (by rw [List.length_set]; omega), if_neg hneg.ne, signed,
      if_pos hneg, List.map_cons, patch_some, List.length_cons, Nat.add_comm 1]
    rfl
  · rw [int2str, if_neg (by omega), store_of_lt (by omega), ok_bind,
      int2strLoop_eq le_rfl (by rw [List.length_set]; omega)]
    rfl
  · have habs : num.toNat = num.natAbs := by omega
    have hdigits : int2strLoop base 10 false (data.set (base + 0) 48) 0 num.natAbs = _ :=
      int2str_digits (by omega) (by omega) (by omega)
    rw [Nat.add_zero, Nat.zero_add] at hdigits
    rw [int2str, if_neg (by omega), store_of_lt (by omega), ok_bind, habs, hdigits, if_neg hpos.ne',
      signed, if_neg (by omega)]

/-- What a number is written over does not matter. -/
theorem putInt_set {data : Buffer} {index : Nat} {num : Int} (hnum : Negatable num)
    (hroom : index + 11 ≤ data.length) (b : UInt8) :
    putInt (data.set index b) index num = putInt data index num := by
  obtain ⟨c, cs, hc⟩ := exists_cons_signed num
  rw [putInt, putInt, int2str_eq hnum (by simpa using hroom), int2str_eq hnum hroom, hc, List.map_cons,
    patch_set_some]

/-! ## What the frames look like -/

/-- The arguments of a command as text. -/
def argsText (args : List Int) : List UInt8 := [semicolon].intercalate (args.map signed)

section Frames

variable {size : Nat} {front : List UInt8}

theorem length_packetBuf (h : front.length ≤ size) : (packetBuf size front).length = size := by
  simp [packetBuf, h]

theorem take_packetBuf (size : Nat) (front : List UInt8) :
    (packetBuf size front).take front.length = front := by
  simp [packetBuf]

/-- The `memset` before a reception clears the whole buffer. -/
theorem fill_packetBuf (hfront : front.length ≤ 255) (hsize : 255 ≤ size) :
    fill 255 0 (packetBuf size front) = List.replicate size 0 := by
  rw [fill, packetBuf, List.drop_append, List.drop_eq_nil_of_le hfront, List.nil_append,
    List.drop_replicate, List.replicate_append_replicate]
  congr 1
  omega

/-- Bytes written behind those that are in the buffer. -/
theorem patch_packetBuf {bs : List UInt8} (h : (front ++ bs).length ≤ size) :
    patch (packetBuf size front) front.length (bs.map some) = packetBuf size (front ++ bs) := by
  rw [List.length_append] at h
  have hzero := patch_append_left (m := List.replicate (size - front.length) 0) (i := 0) front
    (bs.map some)
  rw [Nat.add_zero] at hzero
  rw [packetBuf, packetBuf, hzero, patch_zero_map_some (by simp; omega), List.drop_replicate,
    List.append_assoc, List.length_append, Nat.sub_sub]

theorem store_packetBuf (h : front.length < size) (b : UInt8) :
    store (packetBuf size front) front.length b = .ok (packetBuf size (front ++ [b])) := by
  rw [store_of_lt (by rwa [length_packetBuf h.le]), ← patch_packetBuf (by simpa using h)]
  rfl

theorem putInt_eq {num : Int} (hnum : Negatable num) (hroom : front.length + 11 ≤ size) :
    putInt (packetBuf size front) front.length num =
      .ok (packetBuf size (front ++ signed num), (front ++ signed num).length) := by
  have hlength := length_signed hnum
  rw [putInt, int2str_eq hnum (by rw [length_packetBuf (by omega)]; exact hroom), ok_bind,
    patch_packetBuf (by simp; omega)]
  by_cases h0 : num = 0
  · subst h0
    simp [signed, numeral]
  · simp [h0]

theorem putInts_eq {args : List Int} (hne : args ≠ [])
    (hargs : ∀ num ∈ args, Negatable num)
    (hroom : front.length + 12 * args.length ≤ size) :
    putInts (packetBuf size front) front.length args =
      .ok (packetBuf size (front ++ argsText args), (front ++ argsText args).length) := by
  induction args generalizing front with
  | nil => exact absurd rfl hne
  | cons num nums ih =>
    have hnum := hargs num (by simp)
    have hlength := length_signed hnum
    rw [List.length_cons] at hroom
    cases nums with
    | nil =>
      rw [putInts, putInt_eq hnum (by omega)]
      simp [argsText]
    | cons num' nums =>
      have hrest : putInts (packetBuf size (front ++ signed num ++ [semicolon]))
          (front ++ signed num ++ [semicolon]).length (num' :: nums) = _ :=
        ih (by simp) (fun n hn => hargs n (List.mem_cons_of_mem _ hn)) (by simp at hroom ⊢; omega)
      have htext : argsText (num :: num' :: nums) =
          signed num ++ [semicolon] ++ argsText (num' :: nums) := by
        simp [argsText, List.intercalate_cons_of_ne_nil]
      rw [putInts, putInt_eq hnum (by omega), ok_bind]
      · simp only
        rw [store_packetBuf (by simp at hroom ⊢; omega), ok_bind, htext]
        simpa [Nat.add_assoc] using hrest
      · simp

theorem length_argsText_le {args : List Int}
    (hargs : ∀ num ∈ args, Negatable num) :
    (argsText args).length ≤ 12 * args.length := by
  induction args with
  | nil => simp [argsText]
  | cons num nums ih =>
    have hnum := hargs num (by simp)
    have hlength := length_signed hnum
    have hrest := ih fun n hn => hargs n (List.mem_cons_of_mem _ hn)
    rw [List.length_cons]
    cases nums with
    | nil =>
      simp [argsText]
      omega
    | cons num' nums =>
      rw [argsText, List.map_cons, List.intercalate_cons_of_ne_nil (by simp), List.length_append,
        List.length_append, ← argsText, List.length_singleton]
      omega

theorem closeFrame_eq {content : List UInt8} (h : content.length + 3 ≤ size) :
    closeFrame (packetBuf size (stx :: content)) (stx :: content).length =
      .ok (packetBuf size (packet content), (packet content).length) := by
  have hsum : makeLrc (packetBuf size (stx :: content ++ [etx])) 1 (stx :: content).length =
      .ok (lrc (content ++ [etx])) := by
    have htake : ((packetBuf size (stx :: content ++ [etx])).drop 1).take (stx :: content).length =
        content ++ [etx] := by
      rw [packetBuf, List.cons_append, List.cons_append, List.drop_one, List.tail_cons]
      exact List.take_left' (by simp)
    rw [makeLrc_eq (by rw [length_packetBuf (by simp; omega)]; simp; omega), htake]
  have hstore : store (packetBuf size (stx :: content ++ [etx])) (stx :: content ++ [etx]).length
      (lrc (content ++ [etx])) = _ := store_packetBuf (by simp; omega) _
  rw [List.length_append, List.length_singleton] at hstore
  rw [closeFrame, store_packetBuf (by simp; omega), ok_bind, hsum, ok_bind, hstore, ok_bind]
  simp [packet]

/-- The frame of a command without a text. -/
theorem closeFrame_letters {c₁ c₂ : Char} (h : 5 ≤ size) :
    closeFrame (packetBuf size (letters c₁ c₂)) 3 =
      .ok (packetBuf size (packet [c₁.toUInt8, c₂.toUInt8]), 5) :=
  closeFrame_eq (by simpa using h)

/-- The frame of a command with a text. -/
theorem closeFrame_text {c₁ c₂ : Char} {text : List UInt8} (h : text.length + 5 ≤ size) :
    closeFrame (packetBuf size (letters c₁ c₂ ++ text)) (3 + text.length) =
      .ok (packetBuf size (packet (c₁.toUInt8 :: c₂.toUInt8 :: text)), text.length + 5) := by
  have hclose : closeFrame (packetBuf size (stx :: c₁.toUInt8 :: c₂.toUInt8 :: text))
      (stx :: c₁.toUInt8 :: c₂.toUInt8 :: text).length = _ := closeFrame_eq (by simp; omega)
  simpa [letters, Nat.add_comm 3] using hclose

/-- **A frame with numbers in it is the packet of its letters and of the text of its arguments.** -/
theorem delimitedFrame_eq {c₁ c₂ : Char} {args : List Int} (hne : args ≠ [])
    (hargs : ∀ num ∈ args, Negatable num) (hroom : 12 * args.length + 5 ≤ size) :
    delimitedFrame size c₁ c₂ args =
      .ok (packetBuf size (packet (c₁.toUInt8 :: c₂.toUInt8 :: argsText args)),
        (packet (c₁.toUInt8 :: c₂.toUInt8 :: argsText args)).length) := by
  have hlength := length_argsText_le hargs
  have hputs : putInts (packetBuf size (letters c₁ c₂)) (letters c₁ c₂).length args = _ :=
    putInts_eq hne hargs (by simp [letters]; omega)
  have hclose : closeFrame (packetBuf size (stx :: c₁.toUInt8 :: c₂.toUInt8 :: argsText args))
      (stx :: c₁.toUInt8 :: c₂.toUInt8 :: argsText args).length = _ := closeFrame_eq (by simp; omega)
  rw [delimitedFrame, show (3 : Nat) = (letters c₁ c₂).length from rfl, hputs, ok_bind]
  exact hclose

/-! ### The number that cannot be negated -/

theorem int2str_overflow {data : Buffer} {base : Nat} {num : Int} (hlow : num ≤ -2147483648)
    (hroom : base < data.length) : int2str data base num = .error .overflow := by
  rw [int2str, if_pos (by omega), store_of_lt hroom, ok_bind, if_pos hlow]
  rfl

theorem putInt_overflow {data : Buffer} {index : Nat} {num : Int} (hlow : num ≤ -2147483648)
    (hroom : index < data.length) : putInt data index num = .error .overflow := by
  rw [putInt, int2str_overflow hlow hroom]
  rfl

theorem putInts_overflow {args : List Int} (hargs : ∀ num ∈ args, num < 2147483648)
    (hroom : front.length + 12 * args.length ≤ size) (hlow : ¬ ∀ num ∈ args, Negatable num) :
    putInts (packetBuf size front) front.length args = .error .overflow := by
  induction args generalizing front with
  | nil => simp at hlow
  | cons num nums ih =>
    have hhigh := hargs num (by simp)
    rw [List.length_cons] at hroom
    have hsize : front.length < (packetBuf size front).length := by
      rw [length_packetBuf (by omega)]
      omega
    by_cases hnum : Negatable num
    · have hlength := length_signed hnum
      have hlater : ¬ ∀ num ∈ nums, Negatable num :=
        fun h => hlow (List.forall_mem_cons.mpr ⟨hnum, h⟩)
      have hrest : putInts (packetBuf size (front ++ signed num ++ [semicolon]))
          (front ++ signed num ++ [semicolon]).length nums = _ :=
        ih (fun n hn => hargs n (List.mem_cons_of_mem _ hn)) (by simp at hroom ⊢; omega) hlater
      rw [putInts, putInt_eq hnum (by omega), ok_bind]
      · simp only
        rw [store_packetBuf (by simp at hroom ⊢; omega), ok_bind]
        simpa [Nat.add_assoc] using hrest
      · rintro rfl
        simp at hlater
    · have hmin : num ≤ -2147483648 := by
        unfold Negatable at hnum
        omega
      cases nums with
      | nil => rw [putInts, putInt_overflow hmin hsize]
      | cons num' nums =>
        rw [putInts, putInt_overflow hmin hsize, error_bind]
        simp

theorem delimitedFrame_overflow {c₁ c₂ : Char} {args : List Int}
    (hargs : ∀ num ∈ args, num < 2147483648) (hroom : 12 * args.length + 5 ≤ size)
    (hlow : ¬ ∀ num ∈ args, Negatable num) :
    delimitedFrame size c₁ c₂ args = .error .overflow := by
  have hput : putInts (packetBuf size (letters c₁ c₂)) (letters c₁ c₂).length args = _ :=
    putInts_overflow hargs (by simp [letters]; omega) hlow
  rw [delimitedFrame, show 3 = (letters c₁ c₂).length from rfl, hput, error_bind]

end Frames

end Tetra.Serial
