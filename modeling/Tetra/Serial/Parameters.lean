import Tetra.Serial.Encoding
import Tetra.Serial.Fields

/-!
# Reading and writing parameters

`drvm_read_parameter` takes the digits of the reply for its value, and the flag is one of them. The
value comes back exactly if it has at most nine digits and no sign (`read_back_iff`): a sign is
skipped, and with the flag a ten-digit number does not fit the scratch array of `str2int`.
-/

namespace Tetra.Serial

open Arrival Memory Decimal

/-! ## `str2int` -/

theorem semicolon_not_mem_signed (v : Int) : semicolon ∉ signed v := fun h =>
  absurd (mem_signed h) (by decide)

theorem etx_not_mem_signed (v : Int) : etx ∉ signed v := fun h => absurd (mem_signed h) (by decide)

/-- The flag and the text of a number have the digits of the number, with a zero in front. -/
theorem fieldDigits_reply (v : Int) : ∃ ds : List Nat, numeral v.natAbs = ds.map digit ∧
    fieldDigits (stx :: flagOk :: signed v) = 0 :: ds ∧
      fieldValue (stx :: flagOk :: signed v) = v.natAbs := by
  obtain ⟨ds, hnumeral, _, hds, _, hvalue⟩ := numeral_eq_map v.natAbs
  have hsigned : fieldDigits (signed v) = ds := by
    have hminus : digit? minus = none := rfl
    rw [signed, hnumeral, fieldDigits]
    split
    · rw [List.filterMap_cons_none hminus, filterMap_digit? hds]
    · rw [filterMap_digit? hds]
  have hreply : fieldDigits (stx :: flagOk :: signed v) = 0 :: ds := by
    have hstx : digit? stx = none := rfl
    have hflag : digit? flagOk = some 0 := rfl
    rw [fieldDigits, List.filterMap_cons_none hstx, List.filterMap_cons_some hflag, ← fieldDigits,
      hsigned]
  refine ⟨ds, hnumeral, hreply, ?_⟩
  rw [fieldValue, hreply, Nat.ofDigits_reverse_zero_cons, hvalue]

/-- What `str2int` makes of the reply with the text of `v`. -/
theorem str2int_okReply (v : Int) (rest : List UInt8) :
    str2int (okReply (signed v) ++ rest) (List.replicate 255 0) =
      if v.natAbs < 10 ^ 9 then .ok ((List.replicate 255 0).set 0 (UInt32.ofNat v.natAbs))
      else .error (.store 10) := by
  obtain ⟨ds, hnumeral, hdigits, hvalue⟩ := fieldDigits_reply v
  have hetx := etx_not_mem_reply (etx_not_mem_signed v)
  have hfield : (stx :: flagOk :: signed v).splitOn semicolon = [stx :: flagOk :: signed v] := by
    refine List.splitOnP_eq_singleton fun c hc => beq_eq_false_iff_ne.mpr ?_
    rintro rfl
    rw [List.mem_cons, List.mem_cons] at hc
    rcases hc with h | h | h
    · exact absurd h (by decide)
    · exact absurd h (by decide)
    · exact semicolon_not_mem_signed v h
  have hlength : (fieldDigits (stx :: flagOk :: signed v)).length = (numeral v.natAbs).length + 1 := by
    rw [hdigits, hnumeral, List.length_cons, List.length_map]
  rw [okReply_append, str2int_fields hetx (by rw [hfield, List.length_singleton]; omega), hfield]
  by_cases hshort : v.natAbs < 10 ^ 9
  · have hle := length_numeral_le (k := 9) (by decide) hshort
    rw [if_pos hshort, scanned_cons (by omega), scanned_nil, hvalue]
    rfl
  · have hlt := lt_length_numeral (k := 9) (Nat.le_of_not_lt hshort)
    rw [if_neg hshort, scanned_of_long List.mem_cons_self (by omega)]

/-! ## Reading a parameter -/

theorem asInt_ofNat {n : Nat} (h : n < 2147483648) : Drive.asInt (UInt32.ofNat n) = n := by
  have hn : (UInt32.ofNat n).toNat = n := by
    rw [UInt32.toNat_ofNat']
    omega
  have hmod : (n : Int).bmod 4294967296 = n := by
    rw [Int.bmod_def]
    omega
  unfold Drive.asInt
  rw [hn]
  exact hmod

/-- What `drvm_read_parameter` makes of a reply with the text of `v`. -/
theorem drvmReadParameter_okReply {line : Line} {param v : Int} (old : Int) {r : Reaction}
    {more : List Reaction} {front rest : Port} (hfd : line.fd ≠ 0) (hparam : Negatable param)
    (hv : v.natAbs ≤ 2147483648) (hline : line.reactions = r :: more)
    (hreply : Delivers front (okReply (signed v))) (harrivals : r.arrivals = front ++ rest) :
    (v.natAbs < 10 ^ 9 ∧
      ∃ line', Drive.drvmReadParameter line param old = .ok (0, (v.natAbs : Int), line')) ∨
    (10 ^ 9 ≤ v.natAbs ∧ Drive.drvmReadParameter line param old = .error (.store 10)) := by
  have hlength : (signed v).length ≤ 11 := length_signed_le (k := 10) (by decide) (by omega)
  obtain ⟨buf, index, hframe, hsize⟩ := exists_readParameterFrame hparam
  have hport : (line.wrote buf index).port = front ++ rest := by
    rw [Line.wrote_port, Line.reaction, hline, List.headD_cons, harrivals]
  have hfit : (okReply (signed v)).length ≤ buf.length := by
    rw [hsize]
    simp [okReply]
    omega
  have hresponse : getResponse buf (line.wrote buf index).port =
      .ok (0, okReply (signed v) ++ buf.drop (okReply (signed v)).length, rest) := by
    rw [hport]
    exact getResponse_framed (f := ⟨[], signed v, by simp, etx_not_mem_signed v⟩) hfit hreply
  rw [Drive.drvmReadParameter_eq old hfd hframe, Line.receive_of_ok hresponse, ok_bind]
  simp only [ne_eq, not_true_eq_false, if_false, str2int_okReply]
  by_cases hshort : v.natAbs < 10 ^ 9
  · have hload : load ((List.replicate 255 (0 : UInt32)).set 0 (UInt32.ofNat v.natAbs)) 0 =
        .ok (UInt32.ofNat v.natAbs) := rfl
    rw [if_pos hshort, ok_bind, hload, ok_bind, asInt_ofNat (by omega)]
    exact Or.inl ⟨hshort, _, rfl⟩
  · rw [if_neg hshort]
    exact Or.inr ⟨by omega, rfl⟩

/--
**A parameter is read back exactly if it has at most nine digits and no sign.** Otherwise the sign
is lost, or `str2int` leaves its scratch array.
-/
theorem read_back_iff (line : Line) (param v old : Int) (r : Reaction) (more : List Reaction)
    (front rest : Port) (hfd : line.fd ≠ 0) (hparam : Negatable param)
    (hlow : -2147483648 ≤ v) (hhigh : v < 2147483648) (hline : line.reactions = r :: more)
    (hreply : Delivers front (okReply (signed v))) (harrivals : r.arrivals = front ++ rest) :
    (∃ line', Drive.drvmReadParameter line param old = .ok (0, v, line')) ↔ 0 ≤ v ∧ v < 10 ^ 9 := by
  rcases drvmReadParameter_okReply old hfd hparam (by omega) hline hreply harrivals with
    ⟨hshort, line', hread⟩ | ⟨hlong, hread⟩
  · constructor
    · rintro ⟨line'', h⟩
      rw [hread] at h
      simp only [Except.ok.injEq, Prod.mk.injEq, true_and] at h
      omega
    · intro hv
      exact ⟨line', by rw [hread, Int.natAbs_of_nonneg hv.1]⟩
  · constructor
    · rintro ⟨line'', h⟩
      rw [hread] at h
      exact absurd h (by simp)
    · intro hv
      omega

/-- A line on which the next command is answered with the text of `v`. -/
def answering (v : Int) : Line where
  fd := 3
  reactions := [⟨6, (okReply (signed v)).map (.item · true)⟩]

theorem read_back_four_digits :
    ∃ line', Drive.drvmReadParameter (answering 1234) 7 0 = .ok (0, 1234, line') :=
  (read_back_iff (answering 1234) 7 1234 0 _ [] _ [] (by decide) (by simp [Negatable]) (by decide)
    (by decide) rfl (delivers_map_item _ true) (List.append_nil _).symm).mpr (by decide)

/-- -5 is read back as 5, and 1000000000 not at all. -/
theorem not_read_back :
    (∃ line', Drive.drvmReadParameter (answering (-5)) 7 0 = .ok (0, 5, line')) ∧
      Drive.drvmReadParameter (answering 1000000000) 7 0 = .error (.store 10) := by
  have hanswer : ∀ v : Int, v.natAbs ≤ 2147483648 →
      (v.natAbs < 10 ^ 9 ∧
        ∃ line', Drive.drvmReadParameter (answering v) 7 0 = .ok (0, (v.natAbs : Int), line')) ∨
      (10 ^ 9 ≤ v.natAbs ∧ Drive.drvmReadParameter (answering v) 7 0 = .error (.store 10)) :=
    fun v hv => drvmReadParameter_okReply 0 (by simp [answering]) (by simp [Negatable]) hv rfl
      (delivers_map_item _ true) (List.append_nil _).symm
  constructor
  · rcases hanswer (-5) (by decide) with ⟨_, h⟩ | ⟨h, _⟩
    · exact h
    · exact absurd h (by decide)
  · rcases hanswer 1000000000 (by decide) with ⟨h, _⟩ | ⟨_, h⟩
    · exact absurd h (by decide)
    · exact h

/-! ## Writing a parameter -/

/-- A complete reply with the right checksum and one of these flags. -/
def ValidReply (flags : List UInt8) (r : Reception) : Prop :=
  r.complete = true ∧ r.frame.getLast? = some (lrc r.frame.tail.dropLast) ∧
    ∃ flag ∈ flags, r.frame[1]? = some flag

theorem validReply_flagOk {r : Reception} : ValidReply [flagOk] r ↔ r.verdict = 0 := by
  rw [Reception.verdict_eq_zero_iff, ValidReply, Accepted]
  simp only [List.mem_singleton, exists_eq_left]
  tauto

/--
A parameter write is honest if it reports success only for two valid replies, and a failure in
either of them as a negative result.
-/
def HonestWrite (result : Except Fault (Int × Line)) (flags : List UInt8) (first second : Reception) :
    Prop :=
  ∃ ret line', result = .ok (ret, line') ∧
    (ret = 0 → ValidReply [flagOk] first ∧ ValidReply flags second) ∧
    (¬ ValidReply [flagOk] first ∨ ¬ ValidReply flags second → ret < 0)

/-- The second cell holds the flag of the reply, or what it held before. -/
theorem byteAt_fill_iff {r : Reception} {data : Buffer} {flag : UInt8}
    (hold : byteAt data 1 ≠ flag.toNat) :
    byteAt (r.fill data) 1 = flag.toNat ↔ r.frame[1]? = some flag := by
  obtain ⟨noise, frame, complete, rest⟩ := r
  match frame with
  | [] =>
    have hkept : byteAt (skipped data noise) 1 = byteAt data 1 := byteAt_skipped data noise Nat.one_pos
    simpa [Reception.fill, hkept] using hold
  | [b] =>
    have hkept : byteAt (b :: data.tail) 1 = byteAt data 1 := by cases data <;> simp [byteAt]
    simpa [Reception.fill, hkept] using hold
  | b :: c :: frame => simp [Reception.fill, byteAt, UInt8.toNat_inj]

/-- A reply that is taken for valid because of its flag alone. -/
def Presumed (flag : UInt8) (flags : List UInt8) (r : Reception) : Prop :=
  r.frame[1]? = some flag ∧ ¬ ValidReply flags r

section HonestWrite

variable {result : Except Fault (Int × Line)} {flag : UInt8} {flags : List UInt8}
  {first second : Reception} {ret : Int} {line line' : Line} {r : Reaction} {more : List Reaction}

theorem honestWrite_of_neg (h : result = .ok (ret, line')) (hret : ret < 0) :
    HonestWrite result flags first second :=
  ⟨ret, line', h, fun h0 => absurd h0 hret.ne, fun _ => hret⟩

theorem not_honestWrite_of_error {fault : Fault} (h : result = .error fault) :
    ¬ HonestWrite result flags first second := by
  rintro ⟨ret, line', hok, _⟩
  rw [h] at hok
  exact absurd hok (by simp)

/-- The second reply has a flag that counts as success, or it is valid. -/
def storeResult (flag : UInt8) (r : Reception) : Int :=
  if r.frame[1]? = some flag ∨ r.verdict = 0 then 0 else -1

theorem honestWrite_storeResult (hflags : flagOk ∈ flags) (hfirst : ValidReply [flagOk] first)
    (h : result = .ok (ret, line')) (hret : ret = storeResult flag second) :
    HonestWrite result flags first second ↔ ¬ Presumed flag flags second := by
  subst hret
  have hvalid : second.verdict = 0 → ValidReply flags second := by
    rw [← validReply_flagOk]
    rintro ⟨hcomplete, hlrc, b, hb, hflag⟩
    rw [List.mem_singleton] at hb
    exact ⟨hcomplete, hlrc, flagOk, hflags, hb ▸ hflag⟩
  by_cases hs : second.frame[1]? = some flag ∨ second.verdict = 0
  · rw [storeResult, if_pos hs] at h
    constructor
    · rintro ⟨ret, line'', hok, hzero, _⟩ ⟨_, hpresumed⟩
      rw [h] at hok
      simp only [Except.ok.injEq, Prod.mk.injEq] at hok
      exact hpresumed (hzero hok.1.symm).2
    · intro hnot
      have hsecond : ValidReply flags second := by
        by_contra hinvalid
        rcases hs with hflag | hverdict
        · exact hnot ⟨hflag, hinvalid⟩
        · exact hinvalid (hvalid hverdict)
      exact ⟨0, line', h, fun _ => ⟨hfirst, hsecond⟩,
        fun hor => absurd hor (by rintro (hf | hf) <;> contradiction)⟩
  · rw [storeResult, if_neg hs] at h
    have hflag : second.frame[1]? ≠ some flag := fun hf => hs (Or.inl hf)
    exact ⟨fun _ hpresumed => hflag hpresumed.1, fun _ => honestWrite_of_neg h (by decide)⟩

/-- What the functions make of the second reply is `storeResult`. -/
theorem overridden_eq {data : Buffer} (hold : byteAt data 1 ≠ flag.toNat) (r : Reception) :
    (if (if byteAt (r.fill data) 1 = flag.toNat then 0 else r.verdict) ≠ 0 then -1 else 0) =
      storeResult flag r := by
  unfold storeResult
  by_cases hf : r.frame[1]? = some flag
  · rw [if_pos ((byteAt_fill_iff hold).mpr hf), if_pos (Or.inl hf)]
    rfl
  · rw [if_neg (fun h => hf ((byteAt_fill_iff hold).mp h))]
    by_cases hv : r.verdict = 0 <;> simp [hf, hv]

/-- A reply that does not leave the buffer and is not taken for valid wrongly. -/
def Judged (size : Nat) (flag : UInt8) (flags : List UInt8) (r : Reception) : Prop :=
  r.frame.length ≤ size ∧ ¬ Presumed flag flags r

/-- The second half of `power_parameter_write` and of `conveyor_parameter_write`. -/
theorem Power.parameterStore_honest_iff (c : Char) (hline : line.reactions = r :: more)
    (hfirst : ValidReply [flagOk] first) :
    HonestWrite (Power.parameterStore c line) [flagOk] first (delimited r.arrivals) ↔
      r.written ≤ 0 ∨ Judged 255 flagOk [flagOk] (delimited r.arrivals) := by
  have hport := Line.port_wrote hline (packetBuf 255 (packet [c.toUInt8, 'F'.toUInt8])) 5
  have h255 : (List.replicate 255 (0 : UInt8)).length = 255 := List.length_replicate
  rw [Power.parameterStore_eq]
  simp only [Line.written_eq hline]
  by_cases hw : r.written ≤ 0
  · rw [if_pos hw]
    exact ⟨fun _ => Or.inl hw, fun _ => honestWrite_of_neg rfl (by decide)⟩
  · rw [if_neg hw]
    by_cases hfit : (delimited r.arrivals).frame.length ≤ 255
    · have hresult := overridden_eq (show byteAt (List.replicate 255 0) 1 ≠ flagOk.toNat by decide)
        (delimited r.arrivals)
      rw [receive_of_fits hport (by omega) (h255.symm ▸ hfit), ok_bind]
      refine (honestWrite_storeResult (List.mem_singleton.mpr rfl) hfirst rfl hresult).trans ?_
      exact ⟨fun h => Or.inr ⟨hfit, h⟩, fun h => (h.resolve_left hw).2⟩
    · obtain ⟨i, hi⟩ := receive_of_not_fits hport (by omega) (h255.symm ▸ hfit)
      rw [hi]
      constructor
      · exact fun h => absurd h (not_honestWrite_of_error rfl)
      · rintro (h | h)
        · exact absurd h hw
        · exact absurd h.1 hfit

/-- The second half of `drvm_set_parameter`; the buffer still has the letter `X` in its second cell. -/
theorem Drive.parameterStore_honest_iff (hline : line.reactions = r :: more)
    (hfirst : ValidReply [flagOk] first) :
    HonestWrite (Drive.parameterStore line) [flagOk, flagEnd] first (delimited r.arrivals) ↔
      Judged 256 flagEnd [flagOk, flagEnd] (delimited r.arrivals) := by
  have hport := Line.port_wrote hline (packetBuf 256 (packet ['X'.toUInt8, 'D'.toUInt8])) 5
  have h256 : (packetBuf 256 (packet ['X'.toUInt8, 'D'.toUInt8])).length = 256 :=
    length_packetBuf (by simp)
  rw [Drive.parameterStore_eq]
  simp only
  by_cases hfit : (delimited r.arrivals).frame.length ≤ 256
  · have hresult := overridden_eq (show byteAt (packetBuf 256 (packet ['X'.toUInt8, 'D'.toUInt8])) 1 ≠
      flagEnd.toNat by decide) (delimited r.arrivals)
    rw [receive_of_fits hport (by omega) (h256.symm ▸ hfit), ok_bind]
    refine (honestWrite_storeResult (by simp) hfirst rfl hresult).trans ?_
    exact ⟨fun h => ⟨hfit, h⟩, fun h => h.2⟩
  · obtain ⟨i, hi⟩ := receive_of_not_fits hport (by omega) (h256.symm ▸ hfit)
    rw [hi]
    exact ⟨fun h => absurd h (not_honestWrite_of_error rfl), fun h => absurd h.1 hfit⟩

/-- The first half, and whatever follows it. -/
theorem honestWrite_first_iff {buf data : Buffer} {index size : Nat} {r₂ : Reaction} {C : Prop}
    {store : Line → Except Fault (Int × Line)} (hline : line.reactions = r :: r₂ :: more)
    (hsize : data.length = size) (h0 : 0 < size)
    (hstore : ∀ line', line'.reactions = r₂ :: more → ValidReply [flagOk] (delimited r.arrivals) →
      (HonestWrite (store line') flags (delimited r.arrivals) second ↔ C)) :
    HonestWrite (do
      let (ret, _, line) ← (line.wrote buf index).receive getResponse data
      if ret ≠ 0 then return (-1, line)
      else store line) flags (delimited r.arrivals) second ↔
      (delimited r.arrivals).frame.length ≤ size ∧
        (ValidReply [flagOk] (delimited r.arrivals) → C) := by
  subst hsize
  have hport := Line.port_wrote hline buf index
  by_cases hfit : (delimited r.arrivals).frame.length ≤ data.length
  · rw [receive_of_fits hport h0 hfit, ok_bind]
    simp only
    by_cases hverdict : (delimited r.arrivals).verdict = 0
    · have hvalid := validReply_flagOk.mpr hverdict
      rw [if_neg (not_not_intro hverdict), hstore _ (Line.reactions_received hline _ _ _ _) hvalid]
      exact ⟨fun h => ⟨hfit, fun _ => h⟩, fun h => h.2 hvalid⟩
    · rw [if_pos hverdict]
      exact ⟨fun _ => ⟨hfit, fun hvalid => absurd (validReply_flagOk.mp hvalid) hverdict⟩,
        fun _ => honestWrite_of_neg rfl (by decide)⟩
  · obtain ⟨i, hi⟩ := receive_of_not_fits hport h0 hfit
    rw [hi]
    exact ⟨fun h => absurd h (not_honestWrite_of_error rfl), fun h => absurd h.1 hfit⟩

theorem Power.parameterWrite_honest_iff (c : Char) {id value : Int} {r₂ : Reaction}
    (hid : id < 2147483648) (hvalue : value < 2147483648) (hline : line.reactions = r :: r₂ :: more) :
    HonestWrite (Power.parameterWrite c line id value) [flagOk] (delimited r.arrivals)
      (delimited r₂.arrivals) ↔
        line.fd = 0 ∨ Negatable id ∧ Negatable value ∧ (r.written ≤ 0 ∨
          (delimited r.arrivals).frame.length ≤ 255 ∧ (ValidReply [flagOk] (delimited r.arrivals) →
            r₂.written ≤ 0 ∨ Judged 255 flagOk [flagOk] (delimited r₂.arrivals))) := by
  by_cases hfd : line.fd = 0
  · have hrefused : Power.parameterWrite c line id value = .ok (-1, line) := by
      rw [Power.parameterWrite, if_pos hfd]
      rfl
    exact ⟨fun _ => Or.inl hfd, fun _ => honestWrite_of_neg hrefused (by decide)⟩
  by_cases hargs : Negatable id ∧ Negatable value
  · have hall : ∀ num ∈ [id, value], Negatable num := by simpa using hargs
    have hframe : delimitedFrame 255 c 'W' [id, value] = _ :=
      delimitedFrame_eq (List.cons_ne_nil _ _) hall (by simp)
    have hlength : (argsText [id, value]).length ≤ 24 := length_argsText_le hall
    have hsize : (packetBuf 255 (packet (c.toUInt8 :: 'W'.toUInt8 :: argsText [id, value]))).length =
        255 := length_packetBuf (by simp; omega)
    rw [Power.parameterWrite_eq hfd hframe]
    simp only [hfd, hargs.1, hargs.2, false_or, true_and, Line.written_eq hline]
    by_cases hw : r.written ≤ 0
    · rw [if_pos hw]
      exact ⟨fun _ => Or.inl hw, fun _ => honestWrite_of_neg rfl (by decide)⟩
    · rw [if_neg hw]
      refine (honestWrite_first_iff hline ((length_fill hsize.ge 0).trans hsize) (by decide)
        fun line' hline' hvalid => Power.parameterStore_honest_iff c hline' hvalid).trans ?_
      exact ⟨Or.inr, fun h => h.resolve_left hw⟩
  · have hfault : Power.parameterWrite c line id value = .error .overflow := by
      rw [Power.parameterWrite, if_neg hfd, delimitedFrame_overflow (by simpa using ⟨hid, hvalue⟩)
        (by simp) (by simpa using hargs)]
      rfl
    constructor
    · exact fun h => absurd h (not_honestWrite_of_error hfault)
    · rintro (h | ⟨hid', hvalue', _⟩)
      · exact absurd h hfd
      · exact absurd ⟨hid', hvalue'⟩ hargs

theorem Drive.drvmSetParameter_honest_iff {id value : Int} {r₂ : Reaction} (hid : id < 2147483648)
    (hvalue : value < 2147483648) (hline : line.reactions = r :: r₂ :: more) :
    HonestWrite (Drive.drvmSetParameter line id value) [flagOk, flagEnd] (delimited r.arrivals)
      (delimited r₂.arrivals) ↔
        line.fd = 0 ∨ Negatable id ∧ Negatable value ∧
          (delimited r.arrivals).frame.length ≤ 256 ∧ (ValidReply [flagOk] (delimited r.arrivals) →
            Judged 256 flagEnd [flagOk, flagEnd] (delimited r₂.arrivals)) := by
  by_cases hfd : line.fd = 0
  · have hrefused : Drive.drvmSetParameter line id value = .ok (-1, line) := by
      rw [Drive.drvmSetParameter, if_pos hfd]
      rfl
    exact ⟨fun _ => Or.inl hfd, fun _ => honestWrite_of_neg hrefused (by decide)⟩
  by_cases hargs : Negatable id ∧ Negatable value
  · obtain ⟨buf, index, hframe, hsize⟩ := exists_setParameterFrame hargs.1 hargs.2
    rw [Drive.drvmSetParameter_eq hfd hframe]
    simp only [hfd, hargs.1, hargs.2, false_or, true_and]
    exact honestWrite_first_iff hline hsize (by decide)
      fun line' hline' hvalid => Drive.parameterStore_honest_iff hline' hvalid
  · have hfault : Drive.drvmSetParameter line id value = .error .overflow := by
      rw [Drive.drvmSetParameter, if_neg hfd, setParameterFrame_overflow hid hvalue hargs]
      rfl
    constructor
    · exact fun h => absurd h (not_honestWrite_of_error hfault)
    · rintro (h | ⟨hid', hvalue', _⟩)
      · exact absurd h hfd
      · exact absurd ⟨hid', hvalue'⟩ hargs

end HonestWrite

/--
**A parameter write is honest exactly if no reply leaves the buffer, and the second one is not taken
for valid because of its flag alone.**
-/
theorem parameter_write_honest_iff (line : Line) (id data : Int) (r₁ r₂ : Reaction)
    (more : List Reaction) (hid : id < 2147483648) (hdata : data < 2147483648)
    (hline : line.reactions = r₁ :: r₂ :: more) :
    (∀ write ∈ [Power.powerParameterWrite, Power.conveyorParameterWrite],
      HonestWrite (write line id data) [flagOk] (delimited r₁.arrivals) (delimited r₂.arrivals) ↔
        line.fd = 0 ∨ Negatable id ∧ Negatable data ∧ (r₁.written ≤ 0 ∨
          (delimited r₁.arrivals).frame.length ≤ 255 ∧ (ValidReply [flagOk] (delimited r₁.arrivals) →
            r₂.written ≤ 0 ∨ Judged 255 flagOk [flagOk] (delimited r₂.arrivals)))) ∧
    (HonestWrite (Drive.drvmSetParameter line id data) [flagOk, flagEnd] (delimited r₁.arrivals)
      (delimited r₂.arrivals) ↔
        line.fd = 0 ∨ Negatable id ∧ Negatable data ∧
          (delimited r₁.arrivals).frame.length ≤ 256 ∧ (ValidReply [flagOk] (delimited r₁.arrivals) →
            Judged 256 flagEnd [flagOk, flagEnd] (delimited r₂.arrivals))) := by
  constructor
  · intro write hwrite
    rcases List.mem_pair.mp hwrite with rfl | rfl
    · exact Power.parameterWrite_honest_iff 'P' hid hdata hline
    · exact Power.parameterWrite_honest_iff 'C' hid hdata hline
  · exact Drive.drvmSetParameter_honest_iff hid hdata hline

/-- A line on which the two commands of a parameter write are answered. -/
def answeringTwice (first second : Port) : Line where
  fd := 3
  reactions := [⟨8, first⟩, ⟨5, second⟩]

/-- The reply to a command that has succeeded. -/
def acknowledgement : Port := (okReply []).map (.item · true)

theorem parameter_write_honest_acknowledged :
    HonestWrite (Power.powerParameterWrite (answeringTwice acknowledgement acknowledgement) 1 5)
        [flagOk] (delimited acknowledgement) (delimited acknowledgement) ∧
      HonestWrite (Drive.drvmSetParameter (answeringTwice acknowledgement acknowledgement) 1 5)
        [flagOk, flagEnd] (delimited acknowledgement) (delimited acknowledgement) := by
  have hvalid : ∀ flags, flagOk ∈ flags → ValidReply flags (delimited acknowledgement) :=
    fun flags hflags => ⟨by decide, by decide, flagOk, hflags, by decide⟩
  have hiff := parameter_write_honest_iff (answeringTwice acknowledgement acknowledgement) 1 5
    ⟨8, acknowledgement⟩ ⟨5, acknowledgement⟩ [] (by decide) (by decide) rfl
  refine ⟨(hiff.1 _ (by simp)).mpr ?_, hiff.2.mpr ?_⟩
  · exact Or.inr ⟨by simp [Negatable], by simp [Negatable], Or.inr ⟨by decide, fun _ =>
      Or.inr ⟨by decide, fun h => h.2 (hvalid _ (by simp))⟩⟩⟩
  · exact Or.inr ⟨by simp [Negatable], by simp [Negatable], by decide, fun _ =>
      ⟨by decide, fun h => h.2 (hvalid _ (by simp))⟩⟩

/-- A reply that ends behind its flag. -/
def cutShort (flag : UInt8) : Port := [.item stx true, .item flag false, .timeout]

/-- The flag of the second reply is there and nothing behind it, and the write is a success. -/
theorem parameter_write_cutShort :
    (Power.powerParameterWrite (answeringTwice acknowledgement (cutShort flagOk)) 1 5).map (·.1) = .ok 0 ∧
      (Power.conveyorParameterWrite (answeringTwice acknowledgement (cutShort flagOk)) 1 5).map (·.1) =
        .ok 0 ∧
      (Drive.drvmSetParameter (answeringTwice acknowledgement (cutShort flagEnd)) 1 5).map (·.1) = .ok 0 ∧
      ∀ flag flags, ¬ ValidReply flags (delimited (cutShort flag)) := by
  refine ⟨by decide +kernel, by decide +kernel, by decide +kernel, ?_⟩
  intro flag flags h
  have hcut : (delimited (cutShort flag)).complete = false := rfl
  rw [h.1] at hcut
  exact absurd hcut (by decide)

end Tetra.Serial
