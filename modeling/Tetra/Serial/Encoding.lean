import Tetra.Serial.Drive
import Tetra.Serial.Power

/-!
# What the commands say

Two families of frames carry numbers. Those of `Encoder` put a `;` between them and put the length of
zero right; reading such a frame gives the numbers back (`encoder_frames_lossless`).

The parameter frames of the drive have no delimiter. `parameter_frames_iff` says for which numbers
they name the parameter they are called with: for all but 0, whose text is missing.
-/

namespace Tetra.Serial

open Arrival Memory Decimal

/-! ## Frames with delimiters -/

/-- The commands whose arguments are written with a `;` between them. -/
inductive Encoder
  | setOdometry (x y theta : Int)
  | setVelocity (left right : Int)
  | setLight (id brightness : Int)
  | setSingleOutputPort (id value : Int)
  | setSingleEnable (id value : Int)
  | toggleOn (id : Int)
  | setLightToggle (deIndex lightAcc1 hBrightness lightAcc2 lBrightness : Int)
  | parameterWrite (id data : Int)
  | conveyorParameterWrite (id data : Int)
  deriving DecidableEq, Repr

namespace Encoder

/-- The arguments, as they are given. -/
def args : Encoder → List Int
  | setOdometry x y theta => [x, y, theta]
  | setVelocity left right => [left, right]
  | setLight id brightness => [id, brightness]
  | setSingleOutputPort id value => [id, value]
  | setSingleEnable id value => [id, value]
  | toggleOn id => [id]
  | setLightToggle deIndex lightAcc1 hBrightness lightAcc2 lBrightness =>
    [deIndex, lightAcc1, hBrightness, lightAcc2, lBrightness]
  | parameterWrite id data => [id, data]
  | conveyorParameterWrite id data => [id, data]

/-- The two letters of the command. -/
def letters : Encoder → Char × Char
  | setOdometry .. => ('C', 'X')
  | setVelocity .. => ('B', 'E')
  | setLight .. => ('L', 'I')
  | setSingleOutputPort .. => ('P', 'o')
  | setSingleEnable .. => ('P', 'e')
  | toggleOn .. => ('L', 'T')
  | setLightToggle .. => ('L', 'D')
  | parameterWrite .. => ('P', 'W')
  | conveyorParameterWrite .. => ('C', 'W')

/-- The size of its `packet_buf`. -/
def size : Encoder → Nat
  | setOdometry .. => 256
  | _ => 255

/-- The call. -/
def call : Encoder → Line → Except Fault (Int × Line)
  | setOdometry x y theta, line => Drive.drvmSetOdometry line x y theta
  | setVelocity left right, line => Drive.drvmSetVelocity line left right
  | setLight id brightness, line => Power.powerSetLight line id brightness
  | setSingleOutputPort id value, line => Power.powerSetSingleOutputPort line id value
  | setSingleEnable id value, line => Power.powerSetSingleEnable line id value
  | toggleOn id, line => Power.powerToggleOn line id
  | setLightToggle deIndex lightAcc1 hBrightness lightAcc2 lBrightness, line =>
    Power.powerSetLightToggle line deIndex lightAcc1 hBrightness lightAcc2 lBrightness
  | parameterWrite id data, line => Power.powerParameterWrite line id data
  | conveyorParameterWrite id data, line => Power.conveyorParameterWrite line id data

/-- The buffer of its (first) `write`, and how many bytes are written. -/
def frame (e : Encoder) : Except Fault (Buffer × Nat) :=
  delimitedFrame e.size e.letters.1 e.letters.2 e.args

end Encoder

/-- A frame that is well formed and from which the arguments can be read. -/
structure Says (c₁ c₂ : Char) (args : List Int) (frame : List UInt8) : Prop where
  readable : ∃ body, frame = [stx, c₁.toUInt8, c₂.toUInt8] ++ body ++
      [etx, lrc ([c₁.toUInt8, c₂.toUInt8] ++ body ++ [etx])] ∧
    stx ∉ body ∧ etx ∉ body ∧ (body.splitOn semicolon).map signed? = args.map some
  short : frame.length < 255

theorem mem_argsText {args : List Int} {b : UInt8} (h : b ∈ argsText args) :
    b = semicolon ∨ b = minus ∨ (48 ≤ b.toNat ∧ b.toNat ≤ 57) := by
  induction args with
  | nil => simp [argsText] at h
  | cons num nums ih =>
    cases nums with
    | nil => exact Or.inr (mem_signed (by simpa [argsText] using h))
    | cons num' nums =>
      rw [argsText, List.map_cons, List.intercalate_cons_of_ne_nil (by simp), ← argsText,
        List.mem_append, List.mem_append, List.mem_singleton] at h
      rcases h with (h | rfl) | h
      · exact Or.inr (mem_signed h)
      · exact Or.inl rfl
      · exact ih h

theorem splitOn_argsText {args : List Int} (hne : args ≠ []) :
    (argsText args).splitOn semicolon = args.map signed := by
  refine List.splitOn_intercalate _ (fun text htext hmem => ?_) (by simpa using hne)
  obtain ⟨num, _, rfl⟩ := List.mem_map.mp htext
  rcases mem_signed hmem with h | h
  · exact absurd h (by decide)
  · exact absurd h (by decide)

theorem says_packet {c₁ c₂ : Char} {args : List Int} (hne : args ≠ [])
    (hargs : ∀ num ∈ args, Negatable num) (hfew : args.length ≤ 5) :
    Says c₁ c₂ args (packet (c₁.toUInt8 :: c₂.toUInt8 :: argsText args)) := by
  have hlength := length_argsText_le hargs
  refine ⟨⟨argsText args, by simp [packet], fun h => ?_, fun h => ?_, ?_⟩, by simp; omega⟩
  · exact absurd (mem_argsText h) (by decide)
  · exact absurd (mem_argsText h) (by decide)
  · rw [splitOn_argsText hne, List.map_map]
    exact List.map_congr_left fun num _ => signed?_signed num

theorem Encoder.args_ne_nil (e : Encoder) : e.args ≠ [] := by cases e <;> simp [Encoder.args]

theorem Encoder.length_args_le (e : Encoder) : e.args.length ≤ 5 := by
  cases e <;> simp [Encoder.args]

theorem Encoder.size_ge (e : Encoder) : 255 ≤ e.size := by cases e <;> simp [Encoder.size]

theorem parameterStore_log {c : Char} {line line' : Line} {ret : Int}
    (h : Power.parameterStore c line = .ok (ret, line')) : line.log <+: line'.log := by
  rw [Power.parameterStore_eq] at h
  refine (line.wrote_log_prefix (packetBuf 255 (packet [c.toUInt8, 'F'.toUInt8])) 5).trans ?_
  by_cases hw : (line.reaction 5).written ≤ 0
  · simp only [if_pos hw, Except.ok.injEq, Prod.mk.injEq] at h
    rw [h.2]
  · simp only [if_neg hw] at h
    obtain ⟨⟨ret', buf, line₁⟩, hreceive, h⟩ := bind_eq_ok_iff.mp h
    by_cases hret : (if byteAt buf 1 = 0x30 then 0 else ret') ≠ 0
    · simp only [if_pos hret, pure_eq_ok, Except.ok.injEq, Prod.mk.injEq] at h
      exact h.2 ▸ receive_log hreceive
    · simp only [if_neg hret, pure_eq_ok, Except.ok.injEq, Prod.mk.injEq] at h
      exact h.2 ▸ receive_log hreceive

/-- The first frame of a parameter write is the one with the numbers. -/
theorem parameterWrite_writesFirst {c : Char} {line line' : Line} {id data ret : Int} {buf : Buffer}
    {index : Nat} (hfd : line.fd ≠ 0) (hframe : delimitedFrame 255 c 'W' [id, data] = .ok (buf, index))
    (h : Power.parameterWrite c line id data = .ok (ret, line')) :
    line.WritesFirst line' (buf.take index) := by
  rw [Power.parameterWrite_eq hfd hframe] at h
  refine Line.writesFirst_of_prefix ?_
  by_cases hw : (line.reaction index).written ≤ 0
  · simp only [if_pos hw, Except.ok.injEq, Prod.mk.injEq] at h
    rw [h.2]
  · rw [if_neg hw] at h
    obtain ⟨⟨ret', _, line₁⟩, hreceive, h⟩ := bind_eq_ok_iff.mp h
    refine (receive_log hreceive).trans ?_
    by_cases hret : ret' ≠ 0
    · simp only [if_pos hret, pure_eq_ok, Except.ok.injEq, Prod.mk.injEq] at h
      rw [h.2]
    · simp only [if_neg hret] at h
      exact parameterStore_log h

theorem parameterStore_returns {c : Char} {line : Line} (h : line.Fits 1) :
    ∃ ret line', Power.parameterStore c line = .ok (ret, line') := by
  rw [Power.parameterStore_eq]
  by_cases hw : (line.reaction 5).written ≤ 0
  · exact ⟨-2, _, if_pos hw⟩
  · have hbuf : 255 ≤ (List.replicate 255 (0 : UInt8)).length := by rw [List.length_replicate]
    obtain ⟨ret, buf, line', hreceive, -⟩ := @receive_of_line_fits line 0
      (packetBuf 255 (packet [c.toUInt8, 'F'.toUInt8])) _ 5 h hbuf
    simp only [if_neg hw, hreceive]
    exact ⟨_, line', rfl⟩

/-- A parameter write needs the reply to its second frame as well. -/
theorem parameterWrite_returns {c : Char} {line : Line} {id data : Int} {buf : Buffer} {index : Nat}
    (hframe : delimitedFrame 255 c 'W' [id, data] = .ok (buf, index)) (h : line.Fits 2) :
    ∃ ret line', Power.parameterWrite c line id data = .ok (ret, line') := by
  by_cases hfd : line.fd = 0
  · exact ⟨-1, line, by rw [Power.parameterWrite, if_pos hfd]; rfl⟩
  · rw [Power.parameterWrite_eq hfd hframe]
    by_cases hw : (line.reaction index).written ≤ 0
    · exact ⟨-2, _, by rw [if_pos hw]⟩
    · have hbuf : 255 ≤ (fill 255 0 buf).length := by
        rw [fill, List.length_append, List.length_replicate]
        omega
      obtain ⟨ret, buf', line', hreceive, hfits⟩ := receive_of_line_fits h hbuf
      rw [if_neg hw, hreceive, ok_bind]
      by_cases hret : ret ≠ 0
      · exact ⟨-1, line', by simp only [if_pos hret]; rfl⟩
      · obtain ⟨ret', line'', hstore⟩ := parameterStore_returns hfits
        exact ⟨ret', line'', by simp only [if_neg hret]; exact hstore⟩

/-- How many frames it writes at most: a parameter write has the bank stored with a second one. -/
def Encoder.frames : Encoder → Nat
  | parameterWrite .. => 2
  | conveyorParameterWrite .. => 2
  | _ => 1

section Call

variable {e : Encoder} {line line' : Line} {ret : Int} {buf : Buffer} {index : Nat}

theorem Encoder.call_writesOnly (hfd : line.fd ≠ 0) (hframe : e.frame = .ok (buf, index))
    (hone : e.frames = 1) (h : e.call line = .ok (ret, line')) :
    line.WritesOnly line' (buf.take index) := by
  cases e with
  | parameterWrite id data => simp [Encoder.frames] at hone
  | conveyorParameterWrite id data => simp [Encoder.frames] at hone
  | _ => exact intsCommand_writesOnly hfd hframe h

theorem Encoder.call_writesFirst (hfd : line.fd ≠ 0) (hframe : e.frame = .ok (buf, index))
    (h : e.call line = .ok (ret, line')) : line.WritesFirst line' (buf.take index) := by
  cases e with
  | parameterWrite id data => exact parameterWrite_writesFirst hfd hframe h
  | conveyorParameterWrite id data => exact parameterWrite_writesFirst hfd hframe h
  | _ => exact (intsCommand_writesOnly hfd hframe h).writesFirst

theorem Encoder.call_returns (hframe : e.frame = .ok (buf, index)) (h : line.Fits e.frames) :
    ∃ ret line', e.call line = .ok (ret, line') := by
  cases e with
  | parameterWrite id data => exact parameterWrite_returns hframe h
  | conveyorParameterWrite id data => exact parameterWrite_returns hframe h
  | _ => exact intsCommand_returns hframe h

end Call

/--
**The frame of an encoder is well formed and says exactly its arguments. It is the first thing that a
call writes, and all of it but for a parameter write; and a call returns if the replies fit.**
-/
theorem encoder_frames_lossless (e : Encoder) (hargs : ∀ num ∈ e.args, Negatable num) :
    ∃ buf index, e.frame = .ok (buf, index) ∧
      Says e.letters.1 e.letters.2 e.args (buf.take index) ∧
      (∀ line ret line', line.fd ≠ 0 → e.call line = .ok (ret, line') →
        line.WritesFirst line' (buf.take index) ∧
          (e.frames = 1 → line.WritesOnly line' (buf.take index))) ∧
      ∀ line : Line, line.Fits e.frames → ∃ ret line', e.call line = .ok (ret, line') := by
  have hsize := e.size_ge
  have hfew := e.length_args_le
  have hframe : e.frame = _ := delimitedFrame_eq e.args_ne_nil hargs (by omega)
  refine ⟨_, _, hframe, ?_, ?_, fun line => e.call_returns hframe⟩
  · rw [take_packetBuf]
    exact says_packet e.args_ne_nil hargs hfew
  · intro line ret line' hfd hcall
    exact ⟨e.call_writesFirst hfd hframe hcall, fun hone => e.call_writesOnly hfd hframe hone hcall⟩

/-- A line that takes the next command and where the reply to it is the one that says so. -/
def taking : Line where
  fd := 3
  reactions := [⟨16, [stx, flagOk, etx, lrc [flagOk, etx]].map (.item · true)⟩]

theorem encoder_frames_lossless_odometry :
    ∃ buf index line', (Encoder.setOdometry (-7) 0 1000).frame = .ok (buf, index) ∧
      Says 'C' 'X' [-7, 0, 1000] (buf.take index) ∧
      Drive.drvmSetOdometry taking (-7) 0 1000 = .ok (0, line') ∧
      taking.WritesOnly line' (buf.take index) := by
  obtain ⟨buf, index, hframe, hsays, hwrites, hreturns⟩ :=
    encoder_frames_lossless (.setOdometry (-7) 0 1000) (by simp [Encoder.args, Negatable])
  obtain ⟨ret, line', hcall⟩ := hreturns taking ⟨by decide, by decide +kernel⟩
  have hret : (Drive.drvmSetOdometry taking (-7) 0 1000).map Prod.fst = .ok 0 := by decide +kernel
  have hzero : ret = 0 := by
    rw [show Drive.drvmSetOdometry taking (-7) 0 1000 = .ok (ret, line') from hcall] at hret
    exact Except.ok.inj hret
  obtain rfl := hzero
  exact ⟨buf, index, line', hframe, hsays, hcall, (hwrites taking _ line' (by decide) hcall).2 rfl⟩

/-! ## Parameter frames of the drive -/

/-- The number that `drvm_set_parameter` has in its frame: for 0 only the `0` of the padding. -/
def paddedText (param : Int) : List UInt8 :=
  if param = 0 then [48] else if param ≤ 9 then 48 :: signed param else signed param

/-- The number that `drvm_read_parameter` has in its frame: none for 0. -/
def bareText (param : Int) : List UInt8 := if param = 0 then [] else signed param

/-- Two decimal digits. -/
def twoDigits (param : Int) : List UInt8 := [digit (param.toNat / 10), digit (param.toNat % 10)]

/-- `int2str` on a buffer that holds `front`, for a number other than 0. -/
theorem int2str_packetBuf {front : List UInt8} {num : Int} (hnum : Negatable num) (h0 : num ≠ 0)
    (hroom : front.length + 11 ≤ 256) :
    int2str (packetBuf 256 front) front.length num =
      .ok ((signed num).length, packetBuf 256 (front ++ signed num)) := by
  have hlength := length_signed hnum
  rw [int2str_eq hnum (by rwa [length_packetBuf (by omega)]), if_neg h0,
    patch_packetBuf (by simp; omega)]

theorem readParameterFrame_eq {param : Int} (hparam : Negatable param) :
    Drive.readParameterFrame param =
      .ok (packetBuf 256 (packet ('X'.toUInt8 :: 'L'.toUInt8 :: bareText param)),
        (bareText param).length + 5) := by
  by_cases h0 : param = 0
  · subst h0
    decide +kernel
  · have hlength := length_signed hparam
    have htext : int2str (packetBuf 256 (letters 'X' 'L')) 3 param = _ :=
      int2str_packetBuf hparam h0 (by simp [letters])
    rw [Drive.readParameterFrame, htext, ok_bind, bareText, if_neg h0]
    exact closeFrame_text (by omega)

/-- The rest of `drvm_set_parameter`'s frame, once the number of the parameter is in the buffer. -/
theorem closeFrame_putInt {text : List UInt8} {value : Int} (hvalue : Negatable value)
    (htext : text.length ≤ 12) : (do
      let (data, index) ← putInt (packetBuf 256 (letters 'X' 'B' ++ text)) (3 + text.length) value
      closeFrame data index) =
        .ok (packetBuf 256 (packet ('X'.toUInt8 :: 'B'.toUInt8 :: (text ++ signed value))),
          (text ++ signed value).length + 5) := by
  have hlength := length_signed hvalue
  have hput : putInt (packetBuf 256 (letters 'X' 'B' ++ text)) (letters 'X' 'B' ++ text).length
      value = _ := putInt_eq hvalue (by simp [letters]; omega)
  rw [show 3 + text.length = (letters 'X' 'B' ++ text).length by simp [letters]; omega, hput, ok_bind,
    List.append_assoc, List.length_append]
  exact closeFrame_text (by simp; omega)

theorem setParameterFrame_eq {param value : Int} (hparam : Negatable param) (hvalue : Negatable value) :
    Drive.setParameterFrame param value =
      .ok (packetBuf 256 (packet ('X'.toUInt8 :: 'B'.toUInt8 :: (paddedText param ++ signed value))),
        (paddedText param ++ signed value).length + 5) := by
  have hlength := length_signed hparam
  have hstore : store (packetBuf 256 (letters 'X' 'B')) 3 48 =
      .ok (packetBuf 256 (letters 'X' 'B' ++ [48])) := store_packetBuf (by decide) 48
  rw [Drive.setParameterFrame, paddedText]
  by_cases h0 : param = 0
  · -- the text of 0 is written, but the text of `value` is written over it
    have hzero : int2str (packetBuf 256 (letters 'X' 'B' ++ [48])) 4 0 =
        .ok (0, (packetBuf 256 (letters 'X' 'B' ++ [48])).set 4 48) :=
      int2str_eq (by simp [Negatable]) (by simp [length_packetBuf, letters])
    have hset : putInt ((packetBuf 256 (letters 'X' 'B' ++ [48])).set 4 48) 4 value = _ :=
      putInt_set hvalue (by simp [length_packetBuf, letters]) 48
    subst h0
    simp only [Int.reduceLE, if_true, hstore, ok_bind, pure_eq_ok, hzero, Nat.add_zero, hset]
    exact closeFrame_putInt hvalue (show [(48 : UInt8)].length ≤ 12 by simp)
  · by_cases h9 : param ≤ 9
    · have htext : int2str (packetBuf 256 (letters 'X' 'B' ++ [48])) 4 param = _ :=
        int2str_packetBuf hparam h0 (by simp [letters])
      have hdone := closeFrame_putInt hvalue (show (48 :: signed param).length ≤ 12 by simp; omega)
      have hindex : 4 + (signed param).length = 3 + (48 :: signed param).length := by
        rw [List.length_cons]
        omega
      simp only [if_pos h9, if_neg h0, hstore, ok_bind, pure_eq_ok, htext, hindex]
      simpa using hdone
    · have htext : int2str (packetBuf 256 (letters 'X' 'B')) 3 param = _ :=
        int2str_packetBuf hparam h0 (by simp [letters])
      simp only [if_neg h9, if_neg h0, pure_eq_ok, ok_bind, htext]
      exact closeFrame_putInt hvalue (by omega)

/-- The rest of the function, wherever the number of the parameter goes. -/
theorem putParameter_overflow {param value : Int} {data : Buffer} {index : Nat}
    (hparam : param < 2147483648) (hvalue : value < 2147483648)
    (hlow : ¬ (Negatable param ∧ Negatable value)) (hlength : data.length = 256) (hindex : index ≤ 4) :
    (do
      let (ret, data) ← int2str data index param
      let (data, index) ← putInt data (index + ret) value
      closeFrame data index) = .error .overflow := by
  by_cases hp : Negatable param
  · have hmin : value ≤ -2147483648 := by
      unfold Negatable at hlow hp
      omega
    have hroom : index + (if param = 0 then 0 else (signed param).length) < 256 := by
      have := length_signed hp
      split <;> omega
    rw [int2str_eq hp (by omega), ok_bind]
    simp only
    rw [putInt_overflow hmin (by rw [length_patch, hlength]; exact hroom), error_bind]
  · have hmin : param ≤ -2147483648 := by
      unfold Negatable at hp
      omega
    rw [int2str_overflow hmin (by omega), error_bind]

theorem setParameterFrame_overflow {param value : Int} (hparam : param < 2147483648)
    (hvalue : value < 2147483648) (hlow : ¬ (Negatable param ∧ Negatable value)) :
    Drive.setParameterFrame param value = .error .overflow := by
  have h256 : (packetBuf 256 (letters 'X' 'B')).length = 256 := length_packetBuf (by simp [letters])
  unfold Drive.setParameterFrame
  by_cases h9 : param ≤ 9
  · rw [if_pos h9, store_of_lt (by omega)]
    exact putParameter_overflow hparam hvalue hlow (by rw [List.length_set, h256]) le_rfl
  · rw [if_neg h9]
    exact putParameter_overflow hparam hvalue hlow h256 (by omega)

theorem length_bareText {param : Int} (h : Negatable param) : (bareText param).length ≤ 11 := by
  have := length_signed h
  rw [bareText]
  split
  · simp
  · omega

theorem length_paddedText {param : Int} (h : Negatable param) : (paddedText param).length ≤ 12 := by
  have := length_signed h
  rw [paddedText]
  split
  · simp
  · split
    · rw [List.length_cons]
      omega
    · omega

/-- The buffer that `drvm_read_parameter` writes from. -/
theorem exists_readParameterFrame {param : Int} (hparam : Negatable param) :
    ∃ buf index, Drive.readParameterFrame param = .ok (buf, index) ∧ buf.length = 256 := by
  have := length_bareText hparam
  exact ⟨_, _, readParameterFrame_eq hparam, length_packetBuf (by simp; omega)⟩

/-- The buffer that `drvm_set_parameter` writes its first frame from. -/
theorem exists_setParameterFrame {param value : Int} (hparam : Negatable param)
    (hvalue : Negatable value) :
    ∃ buf index, Drive.setParameterFrame param value = .ok (buf, index) ∧ buf.length = 256 := by
  have := length_paddedText hparam
  have := length_signed hvalue
  exact ⟨_, _, setParameterFrame_eq hparam hvalue, length_packetBuf (by simp; omega)⟩

/-! ### Which parameter they name -/

theorem packet_injective : Function.Injective packet := fun content content' h => by
  have hlength : content.length = content'.length := by simpa using congrArg List.length h
  simp only [packet, List.cons_append, List.cons.injEq, true_and] at h
  exact (List.append_inj h hlength).1

/-- Padded to two digits, a number below 100 is its two digits. -/
theorem paddedText_eq_twoDigits {param : Int} (h1 : 1 ≤ param) (h99 : param ≤ 99) :
    paddedText param = twoDigits param := by
  have hall : ∀ n ∈ List.range 100, 1 ≤ n → paddedText n = twoDigits n := by decide +kernel
  obtain ⟨n, rfl⟩ := Int.eq_ofNat_of_zero_le (show 0 ≤ param by omega)
  exact hall n (List.mem_range.mpr (by omega)) (by omega)

theorem twoDigits_injective {param param' : Int} (h0 : 0 ≤ param) (h99 : param ≤ 99)
    (h0' : 0 ≤ param') (h99' : param' ≤ 99) (h : twoDigits param = twoDigits param') :
    param = param' := by
  simp only [twoDigits, List.cons.injEq, and_true] at h
  have htens := congrArg UInt8.toNat h.1
  have hones := congrArg UInt8.toNat h.2
  rw [toNat_digit (by omega), toNat_digit (by omega)] at htens hones
  omega

theorem bareText_injective {param param' : Int} (h : bareText param = bareText param') :
    param = param' := by
  obtain ⟨c, cs, hc⟩ := exists_cons_signed param
  obtain ⟨c', cs', hc'⟩ := exists_cons_signed param'
  simp only [bareText] at h
  by_cases h0 : param = 0 <;> by_cases h0' : param' = 0
  · rw [h0, h0']
  · rw [if_pos h0, if_neg h0', hc'] at h
    exact absurd h (by simp)
  · rw [if_neg h0, if_pos h0', hc] at h
    exact absurd h (by simp)
  · rw [if_neg h0, if_neg h0'] at h
    exact signed_injective h

/-- `frame` is the XB frame of `drvm_set_parameter(param, value)`. -/
def SetFrame (param value : Int) (frame : List UInt8) : Prop :=
  ∃ buf index, Drive.setParameterFrame param value = .ok (buf, index) ∧ frame = buf.take index

/-- `frame` is the XL frame of `drvm_read_parameter(param)`. -/
def ReadFrame (param : Int) (frame : List UInt8) : Prop :=
  ∃ buf index, Drive.readParameterFrame param = .ok (buf, index) ∧ frame = buf.take index

/-- A frame that is cut out of a packet buffer is the packet. -/
theorem frame_eq_packet_iff {ε : Type*} {result : Except ε (List UInt8 × Nat)}
    {content frame : List UInt8} {size : Nat}
    (hresult : result = .ok (packetBuf size (packet content), content.length + 3)) :
    (∃ buf index, result = .ok (buf, index) ∧ frame = buf.take index) ↔
      frame = packet content := by
  have htake := take_packetBuf size (packet content)
  rw [length_packet] at htake
  rw [hresult]
  constructor
  · rintro ⟨buf, index, hframe, rfl⟩
    simp only [Except.ok.injEq, Prod.mk.injEq] at hframe
    rw [← hframe.1, ← hframe.2]
    exact htake
  · rintro rfl
    exact ⟨_, _, rfl, htake.symm⟩

theorem setFrame_iff {param value : Int} {frame : List UInt8} (hparam : Negatable param)
    (hvalue : Negatable value) : SetFrame param value frame ↔
      frame = packet ('X'.toUInt8 :: 'B'.toUInt8 :: (paddedText param ++ signed value)) :=
  frame_eq_packet_iff (setParameterFrame_eq hparam hvalue)

theorem readFrame_iff {param : Int} {frame : List UInt8} (hparam : Negatable param) :
    ReadFrame param frame ↔ frame = packet ('X'.toUInt8 :: 'L'.toUInt8 :: bareText param) :=
  frame_eq_packet_iff (readParameterFrame_eq hparam)

theorem drvmSetParameter_writesFirst {line line' : Line} {param value ret : Int} {frame : List UInt8}
    (hfd : line.fd ≠ 0) (hframe : SetFrame param value frame)
    (h : Drive.drvmSetParameter line param value = .ok (ret, line')) :
    line.WritesFirst line' frame := by
  obtain ⟨buf, index, hframe, rfl⟩ := hframe
  rw [Drive.drvmSetParameter_eq hfd hframe] at h
  obtain ⟨⟨ret₁, _, line₁⟩, hreceive, h⟩ := bind_eq_ok_iff.mp h
  refine Line.writesFirst_of_prefix ((receive_log hreceive).trans ?_)
  by_cases hret : ret₁ ≠ 0
  · simp only [if_pos hret, pure_eq_ok, Except.ok.injEq, Prod.mk.injEq] at h
    rw [h.2]
  · simp only [if_neg hret] at h
    rw [Drive.parameterStore_eq] at h
    refine (line₁.wrote_log_prefix (packetBuf 256 (packet ['X'.toUInt8, 'D'.toUInt8])) 5).trans ?_
    obtain ⟨⟨ret₂, buf₂, line₂⟩, hreceive₂, h⟩ := bind_eq_ok_iff.mp h
    by_cases hret₂ : (if byteAt buf₂ 1 = 0x34 then 0 else ret₂) ≠ 0
    · simp only [if_pos hret₂, pure_eq_ok, Except.ok.injEq, Prod.mk.injEq] at h
      exact h.2 ▸ receive_log hreceive₂
    · simp only [if_neg hret₂, pure_eq_ok, Except.ok.injEq, Prod.mk.injEq] at h
      exact h.2 ▸ receive_log hreceive₂

theorem drvmReadParameter_writesFirst {line line' : Line} {param value ret value' : Int}
    {frame : List UInt8} (hfd : line.fd ≠ 0) (hframe : ReadFrame param frame)
    (h : Drive.drvmReadParameter line param value = .ok (ret, value', line')) :
    line.WritesFirst line' frame := by
  obtain ⟨buf, index, hframe, rfl⟩ := hframe
  rw [Drive.drvmReadParameter_eq value hfd hframe] at h
  obtain ⟨⟨ret₁, data, line₁⟩, hreceive, h⟩ := bind_eq_ok_iff.mp h
  refine Line.writesFirst_of_prefix ((receive_log hreceive).trans ?_)
  by_cases hret : ret₁ ≠ 0
  · simp only [if_pos hret, pure_eq_ok, Except.ok.injEq, Prod.mk.injEq] at h
    rw [h.2.2]
  · simp only [if_neg hret] at h
    obtain ⟨val, _, h⟩ := bind_eq_ok_iff.mp h
    obtain ⟨v, _, h⟩ := bind_eq_ok_iff.mp h
    rw [(pure_triple_eq_ok_iff.mp h).2.2]

/--
The frames for `param` name it: two digits in front of the text of `value` in the one, the text of
`param` in the other.
-/
def NamesParameter (param value : Int) : Prop :=
  SetFrame param value
      ([stx, 'X'.toUInt8, 'B'.toUInt8] ++ (twoDigits param ++ signed value) ++
        [etx, lrc (['X'.toUInt8, 'B'.toUInt8] ++ (twoDigits param ++ signed value) ++ [etx])]) ∧
    ReadFrame param
      ([stx, 'X'.toUInt8, 'L'.toUInt8] ++ signed param ++
        [etx, lrc (['X'.toUInt8, 'L'.toUInt8] ++ signed param ++ [etx])])

theorem namesParameter_iff {param value : Int} (h0 : 0 ≤ param) (h99 : param ≤ 99)
    (hvalue : Negatable value) : NamesParameter param value ↔ param ≠ 0 := by
  have hparam : Negatable param := ⟨by omega, by omega⟩
  have hset : ∀ content : List UInt8, [stx, 'X'.toUInt8, 'B'.toUInt8] ++ content ++
      [etx, lrc (['X'.toUInt8, 'B'.toUInt8] ++ content ++ [etx])] =
        packet ('X'.toUInt8 :: 'B'.toUInt8 :: content) := fun content => by simp [packet]
  have hread : ∀ content : List UInt8, [stx, 'X'.toUInt8, 'L'.toUInt8] ++ content ++
      [etx, lrc (['X'.toUInt8, 'L'.toUInt8] ++ content ++ [etx])] =
        packet ('X'.toUInt8 :: 'L'.toUInt8 :: content) := fun content => by simp [packet]
  rw [NamesParameter, setFrame_iff hparam hvalue, readFrame_iff hparam, hset, hread]
  constructor
  · rintro ⟨_, hbare⟩ rfl
    exact absurd (congrArg List.length hbare) (by decide +kernel)
  · intro hne
    rw [paddedText_eq_twoDigits (by omega) h99, bareText, if_neg hne]
    exact ⟨rfl, rfl⟩

/--
**The parameter frames name the parameter they are called with exactly if it is not 0. Among these
the frames determine their arguments; and a call writes its frame first.**
-/
theorem parameter_frames_iff (param value : Int) (h0 : 0 ≤ param) (h99 : param ≤ 99)
    (hvalue : Negatable value) :
    (NamesParameter param value ↔ param ≠ 0) ∧
    (∀ (param' value' : Int) (frame : List UInt8), 0 ≤ param' → param' ≤ 99 → Negatable value' →
      param ≠ 0 → param' ≠ 0 → SetFrame param value frame → SetFrame param' value' frame →
      param = param' ∧ value = value') ∧
    (∀ (param' : Int) (frame : List UInt8), 0 ≤ param' → param' ≤ 99 →
      ReadFrame param frame → ReadFrame param' frame → param = param') ∧
    ∀ (line line' : Line) (ret : Int) (frame : List UInt8), line.fd ≠ 0 →
      (SetFrame param value frame → Drive.drvmSetParameter line param value = .ok (ret, line') →
        line.WritesFirst line' frame) ∧
      ∀ old value', ReadFrame param frame →
        Drive.drvmReadParameter line param old = .ok (ret, value', line') →
        line.WritesFirst line' frame := by
  refine ⟨namesParameter_iff h0 h99 hvalue, ?_, ?_, fun line line' ret frame hfd =>
    ⟨drvmSetParameter_writesFirst hfd, fun old value' => drvmReadParameter_writesFirst hfd⟩⟩
  · intro param' value' frame h0' h99' hvalue' hne hne' hset hset'
    rw [setFrame_iff ⟨by omega, by omega⟩ hvalue, paddedText_eq_twoDigits (by omega) h99] at hset
    rw [setFrame_iff ⟨by omega, by omega⟩ hvalue', paddedText_eq_twoDigits (by omega) h99'] at hset'
    have hcontent := packet_injective (hset.symm.trans hset')
    simp only [List.cons.injEq, true_and] at hcontent
    obtain ⟨htext, hsigned⟩ := List.append_inj hcontent rfl
    exact ⟨twoDigits_injective h0 h99 h0' h99' htext, signed_injective hsigned⟩
  · intro param' frame h0' h99' hread hread'
    rw [readFrame_iff ⟨by omega, by omega⟩] at hread hread'
    have hcontent := packet_injective (hread.symm.trans hread')
    exact bareText_injective (by simpa using hcontent)

theorem parameter_frames_seven :
    NamesParameter 7 (-20) ∧
      (∀ param value : Int, 0 ≤ param → param ≤ 99 → Negatable value → param ≠ 0 →
        SetFrame param value (packet ('X'.toUInt8 :: 'B'.toUInt8 :: (paddedText 7 ++ signed (-20)))) →
        7 = param ∧ -20 = value) ∧
      ∀ param : Int, 0 ≤ param → param ≤ 99 →
        ReadFrame param (packet ('X'.toUInt8 :: 'L'.toUInt8 :: bareText 7)) → 7 = param := by
  obtain ⟨hnames, hset, hread, _⟩ :=
    parameter_frames_iff 7 (-20) (by decide) (by decide) (by simp [Negatable])
  refine ⟨hnames.mpr (by decide), ?_, ?_⟩
  · intro param value h0 h99 hvalue hne
    exact hset param value _ h0 h99 hvalue (by decide) hne
      ((setFrame_iff (by simp [Negatable]) (by simp [Negatable])).mpr rfl)
  · intro param h0 h99
    exact hread param _ h0 h99 ((readFrame_iff (by simp [Negatable])).mpr rfl)

/-- Writing 50 to parameter 0 and writing 0 to parameter 5 is the same frame. -/
theorem parameter_zero_collides :
    ¬ NamesParameter 0 50 ∧ ∃ frame, SetFrame 0 50 frame ∧ SetFrame 5 0 frame := by
  refine ⟨?_, packet ('X'.toUInt8 :: 'B'.toUInt8 :: (paddedText 0 ++ signed 50)), ?_, ?_⟩
  · intro h
    exact absurd rfl ((namesParameter_iff (by decide) (by decide) (by simp [Negatable])).mp h)
  · exact (setFrame_iff (by simp [Negatable]) (by simp [Negatable])).mpr rfl
  · rw [setFrame_iff (by simp [Negatable]) (by simp [Negatable])]
    simp [paddedText, signed, numeral, digit]

end Tetra.Serial
