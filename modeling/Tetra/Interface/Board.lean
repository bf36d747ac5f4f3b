import Tetra.Interface.Services
import Tetra.Serial.Encoding
import Tetra.Lib.Machine

/-!
# The parameters of the board

The power board has two banks of parameters: a frame `PW` writes a register of its own, a frame `CW`
one of the conveyor. The services that write them are `Power_parameter_write_cmd` and
`Conveyor_parameter_write_cmd`, but the handlers of both call the function for the conveyor.

`parameters_unmixed_iff` says which requests do to the banks what they ask for.
-/

namespace Tetra.Interface

open Memory Decimal Serial Serial.Power

/-! ## The board -/

/-- The two banks of parameters. -/
inductive Bank
  | power
  | conveyor
  deriving DecidableEq, Repr

/-- The registers of the board. -/
abbrev Banks := Bank → Int → Int

def Banks.write (b : Banks) (bank : Bank) (num data : Int) : Banks :=
  Function.update b bank (Function.update (b bank) num data)

/-- The bank whose frames begin with this letter. -/
def bank? (c : UInt8) : Option Bank :=
  if c = 'P'.toUInt8 then some .power else if c = 'C'.toUInt8 then some .conveyor else none

/-- What a well-formed frame writes: the bank, the register and the data. -/
def parameter? (content : List UInt8) : Option (Bank × Int × Int) :=
  match content with
  | c :: w :: body =>
    match (body.splitOn semicolon).map signed? with
    | [some num, some data] =>
      if w = 'W'.toUInt8 then (bank? c).map fun bank => (bank, num, data) else none
    | _ => none
  | _ => none

/-- The bytes between the `STX` and the `ETX` of a frame with the right checksum. -/
def content? (frame : List UInt8) : Option (List UInt8) :=
  let content := frame.tail.dropLast.dropLast
  if frame = packet content then some content else none

/-- What the board does with what passes over the line. A frame that is written in part is none. -/
def Banks.hear (b : Banks) : Traffic → Banks
  | .wrote frame ret _ =>
    if ret = frame.length then
      ((content? frame).bind parameter?).elim b fun w => b.write w.1 w.2.1 w.2.2
    else b
  | .received _ _ => b

/-! ## Requests -/

/-- A request of one of the two services; the numbers of a request have 32 bits. -/
structure WriteRequest where
  bank : Bank
  num : Int
  data : Int
  num_range : -2147483648 ≤ num ∧ num < 2147483648
  data_range : -2147483648 ≤ data ∧ data < 2147483648

def WriteRequest.request (w : WriteRequest) : Request :=
  match w.bank with
  | .power => .powerParameterWrite w.num w.data
  | .conveyor => .conveyorParameterWrite w.num w.data

/-- The node and the board. -/
structure Boarded where
  server : Server
  banks : Banks

/-- Requests one after the other; the board takes up what each of them has written. -/
def board (line : Line) (banks : Banks) : Machine Boarded WriteRequest where
  init := ⟨{ line }, banks⟩
  step s w := (s.server.serve w.request).toOption.map fun r =>
    ⟨r.2, (r.2.line.log.drop s.server.line.log.length).foldl Banks.hear s.banks⟩

/-! ## What a request does to the banks -/

/-- The frame that a parameter write of the conveyor begins with. -/
def writeFrame (num data : Int) : List UInt8 :=
  packet ('C'.toUInt8 :: 'W'.toUInt8 :: argsText [num, data])

theorem content?_packet (content : List UInt8) : content? (packet content) = some content := by
  have hcontent : (packet content).tail.dropLast.dropLast = content := by simp [packet]
  rw [content?, hcontent, if_pos rfl]

theorem hear_packet (b : Banks) (content : List UInt8) (ret : Int) (arrivals : Port) :
    b.hear (.wrote (packet content) ret arrivals) =
      if ret = (packet content).length then
        (parameter? content).elim b fun w => b.write w.1 w.2.1 w.2.2
      else b := by
  rw [Banks.hear, content?_packet, Option.bind_some]

theorem parameter?_argsText (num data : Int) :
    parameter? ('C'.toUInt8 :: 'W'.toUInt8 :: argsText [num, data]) = some (.conveyor, num, data) := by
  have htexts : ((argsText [num, data]).splitOn semicolon).map signed? = [some num, some data] := by
    rw [splitOn_argsText (by simp)]
    simp [signed?_signed]
  simp only [parameter?, htexts]
  rfl

/-- Traffic that the board does nothing with. -/
def Quiet (t : Traffic) : Prop := ∀ b : Banks, b.hear t = b

theorem quiet_received (data : Buffer) (port : Port) : Quiet (.received data port) := fun _ => rfl

theorem quiet_store (ret : Int) (arrivals : Port) :
    Quiet (.wrote (packet ['C'.toUInt8, 'F'.toUInt8]) ret arrivals) := by
  intro b
  have hnone : parameter? ['C'.toUInt8, 'F'.toUInt8] = none := by decide
  rw [hear_packet, hnone]
  exact ite_self b

theorem foldl_hear_quiet {ts : List Traffic} (h : ∀ t ∈ ts, Quiet t) (b : Banks) :
    ts.foldl Banks.hear b = b := by
  induction ts with
  | nil => rfl
  | cons t ts ih =>
    rw [List.foldl_cons, h t List.mem_cons_self b]
    exact ih fun t' ht' => h t' (List.mem_cons_of_mem t ht')

/-- All that is added to the log of the line has no effect. -/
def AddsQuiet (line line' : Line) : Prop :=
  ∃ ts, line'.log = line.log ++ ts ∧ ∀ t ∈ ts, Quiet t

theorem AddsQuiet.refl (line : Line) : AddsQuiet line line := ⟨[], by simp, by simp⟩

theorem AddsQuiet.trans {line₁ line₂ line₃ : Line} (h₁ : AddsQuiet line₁ line₂)
    (h₂ : AddsQuiet line₂ line₃) : AddsQuiet line₁ line₃ := by
  obtain ⟨ts₁, hlog₁, hquiet₁⟩ := h₁
  obtain ⟨ts₂, hlog₂, hquiet₂⟩ := h₂
  refine ⟨ts₁ ++ ts₂, by rw [hlog₂, hlog₁, List.append_assoc], fun t ht => ?_⟩
  rcases List.mem_append.mp ht with ht | ht
  · exact hquiet₁ t ht
  · exact hquiet₂ t ht

theorem addsQuiet_receive {line line' : Line} {data data' : Buffer} {ret : Int}
    (h : line.receive getResponse data = .ok (ret, data', line')) : AddsQuiet line line' := by
  obtain ⟨⟨ret₁, data₁, port⟩, -, hline⟩ := bind_eq_ok_iff.mp h
  obtain ⟨-, -, rfl⟩ := pure_triple_eq_ok_iff.mp hline
  refine ⟨[.received data₁ port], Line.received_log .., ?_⟩
  intro t ht
  rw [List.mem_singleton.mp ht]
  exact quiet_received data₁ port

/-- The second half of a parameter write of the conveyor changes no register. -/
theorem addsQuiet_store {line line' : Line} {ret : Int}
    (h : parameterStore 'C' line = .ok (ret, line')) : AddsQuiet line line' := by
  have hwrote : AddsQuiet line
      (line.wrote (packetBuf 255 (packet ['C'.toUInt8, 'F'.toUInt8])) 5) := by
    have htake : (packetBuf 255 (packet ['C'.toUInt8, 'F'.toUInt8])).take 5 =
        packet ['C'.toUInt8, 'F'.toUInt8] :=
      take_packetBuf 255 (packet ['C'.toUInt8, 'F'.toUInt8])
    refine ⟨_, Line.wrote_log .., ?_⟩
    intro t ht
    rw [List.mem_singleton.mp ht, htake]
    exact quiet_store _ _
  rw [parameterStore_eq] at h
  by_cases hw : (line.reaction 5).written ≤ 0
  · simp only [if_pos hw, Except.ok.injEq, Prod.mk.injEq] at h
    rw [← h.2]
    exact hwrote
  · simp only [if_neg hw] at h
    obtain ⟨⟨ret₁, buf, line₁⟩, hreceive, h⟩ := bind_eq_ok_iff.mp h
    obtain ⟨-, rfl⟩ := pure_pair_eq_ok_iff.mp h
    exact hwrote.trans (addsQuiet_receive hreceive)

/-- Behind its first frame, a parameter write of the conveyor changes no register. -/
theorem addsQuiet_write {line line' : Line} {num data ret : Int} {buf : Buffer} {index : Nat}
    (hfd : line.fd ≠ 0) (hframe : delimitedFrame 255 'C' 'W' [num, data] = .ok (buf, index))
    (h : conveyorParameterWrite line num data = .ok (ret, line')) :
    AddsQuiet (line.wrote buf index) line' := by
  rw [conveyorParameterWrite, parameterWrite_eq hfd hframe] at h
  by_cases hw : (line.reaction index).written ≤ 0
  · simp only [if_pos hw, Except.ok.injEq, Prod.mk.injEq] at h
    rw [← h.2]
    exact AddsQuiet.refl _
  · rw [if_neg hw] at h
    obtain ⟨⟨ret₁, data₁, line₁⟩, hreceive, h⟩ := bind_eq_ok_iff.mp h
    refine (addsQuiet_receive hreceive).trans ?_
    by_cases hret : ret₁ ≠ 0
    · simp only [if_pos hret, pure_eq_ok, Except.ok.injEq, Prod.mk.injEq] at h
      rw [← h.2]
      exact AddsQuiet.refl _
    · simp only [if_neg hret] at h
      exact addsQuiet_store h

/-- The frame with the numbers goes out as a whole. -/
def Delivered (line : Line) (num data : Int) : Prop :=
  line.fd ≠ 0 ∧
    (line.reaction (writeFrame num data).length).written = (writeFrame num data).length

instance (line : Line) (num data : Int) : Decidable (Delivered line num data) :=
  inferInstanceAs (Decidable (_ ∧ _))

/-- What a parameter write of the conveyor does to the banks. -/
theorem conveyorParameterWrite_banks {line line' : Line} {num data ret : Int} (b : Banks)
    (hnum : num < 2147483648) (hdata : data < 2147483648)
    (h : conveyorParameterWrite line num data = .ok (ret, line')) :
    (line'.log.drop line.log.length).foldl Banks.hear b =
      if Delivered line num data then b.write .conveyor num data else b := by
  by_cases hfd : line.fd = 0
  · rw [conveyorParameterWrite, parameterWrite, if_pos hfd] at h
    obtain ⟨-, rfl⟩ := pure_pair_eq_ok_iff.mp h
    rw [List.drop_length, if_neg fun hdelivered => hdelivered.1 hfd]
    rfl
  · -- a number that cannot be negated ends in a fault
    have hargs : ∀ n ∈ [num, data], Negatable n := by
      by_contra hlow
      have hoverflow : delimitedFrame 255 'C' 'W' [num, data] = .error .overflow :=
        delimitedFrame_overflow (by simp [hnum, hdata]) (by simp) hlow
      rw [conveyorParameterWrite, parameterWrite, if_neg hfd, hoverflow] at h
      exact absurd h (by simp)
    have hframe : delimitedFrame 255 'C' 'W' [num, data] = _ :=
      delimitedFrame_eq (by simp) hargs (by simp)
    obtain ⟨ts, hlog, hquiet⟩ := addsQuiet_write hfd hframe h
    rw [Line.wrote_log, take_packetBuf, List.append_assoc] at hlog
    rw [hlog, List.drop_left, List.singleton_append, List.foldl_cons, foldl_hear_quiet hquiet,
      hear_packet, parameter?_argsText]
    simp only [Delivered, writeFrame, ne_eq, hfd, not_false_eq_true, true_and, Option.elim_some]

/-! ## Runs of requests -/

theorem Banks.eq_write_iff {b : Banks} {bank : Bank} {num data : Int} :
    b = b.write bank num data ↔ b bank num = data := by
  rw [eq_comm, Banks.write, Function.update_eq_self_iff, Function.update_eq_self_iff, eq_comm]

/-- Two writes to different banks come to the same only if both registers have the data already. -/
theorem Banks.write_eq_write_iff {b : Banks} {bank bank' : Bank} {num data : Int}
    (hne : bank ≠ bank') : b.write bank num data = b.write bank' num data ↔
      b bank num = data ∧ b bank' num = data := by
  constructor
  · intro h
    have hbank := congrFun (congrFun h bank) num
    have hbank' := congrFun (congrFun h bank') num
    simp only [Banks.write, Function.update_self, Function.update_of_ne hne,
      Function.update_of_ne hne.symm] at hbank hbank'
    exact ⟨hbank.symm, hbank'⟩
  · rintro ⟨h, h'⟩
    rw [← Banks.eq_write_iff.mpr h, ← Banks.eq_write_iff.mpr h']

/-- The step does what the request asks for, and nothing else. -/
def Does (s : Boarded) (w : WriteRequest) (s' : Boarded) : Prop :=
  s'.banks = s.banks.write w.bank w.num w.data

/-- A request for a register of the conveyor gets through, or has nothing to change; and a request
for one of the board itself has nothing to change, neither there nor in the bank it gets to. -/
def Harmless (s : Boarded) (w : WriteRequest) : Prop :=
  match w.bank with
  | .conveyor => Delivered s.server.line w.num w.data ∨ s.banks .conveyor w.num = w.data
  | .power => s.banks .power w.num = w.data ∧
      (Delivered s.server.line w.num w.data → s.banks .conveyor w.num = w.data)

section Board

variable {line : Line} {banks : Banks} {s s' : Boarded} {w : WriteRequest}

theorem serve_request (s : Server) (w : WriteRequest) :
    s.serve w.request = s.command fun line => conveyorParameterWrite line w.num w.data := by
  obtain ⟨bank, num, data, _, _⟩ := w
  cases bank <;> rfl

/-- Whatever the request, the conveyor's bank is written. -/
theorem board_step (h : (board line banks).step s w = some s') :
    s'.banks = if Delivered s.server.line w.num w.data then s.banks.write .conveyor w.num w.data
      else s.banks := by
  obtain ⟨r, hserve, rfl⟩ := Option.map_eq_some_iff.mp h
  rw [toOption_eq_some_iff] at hserve
  rw [serve_request] at hserve
  obtain ⟨⟨ret, line₁⟩, hcall, hr⟩ := bind_eq_ok_iff.mp hserve
  obtain rfl := Except.ok.inj hr
  exact conveyorParameterWrite_banks s.banks w.num_range.2 w.data_range.2 hcall

theorem does_iff (h : (board line banks).step s w = some s') : Does s w s' ↔ Harmless s w := by
  obtain ⟨bank, num, data, _, _⟩ := w
  rw [Does, board_step h, Harmless]
  by_cases hdelivered : Delivered s.server.line num data
  · rw [if_pos hdelivered]
    cases bank with
    | power =>
      rw [Banks.write_eq_write_iff (show Bank.conveyor ≠ .power by decide)]
      simp only [hdelivered, true_imp_iff]
      exact and_comm
    | conveyor => simp only [hdelivered, true_or]
  · rw [if_neg hdelivered, Banks.eq_write_iff]
    cases bank with
    | power => simp only [hdelivered, false_imp_iff, and_true]
    | conveyor => simp only [hdelivered, false_or]

/-- The data of the last request for a register, and else what it held at first. -/
def lastData (bank : Bank) (num before : Int) (ws : List WriteRequest) : Int :=
  ((ws.filter fun w => w.bank = bank ∧ w.num = num).getLast?).elim before WriteRequest.data

theorem lastData_concat (bank : Bank) (num before : Int) (ws : List WriteRequest) (w : WriteRequest) :
    lastData bank num before (ws ++ [w]) =
      if w.bank = bank ∧ w.num = num then w.data else lastData bank num before ws := by
  unfold lastData
  by_cases hw : w.bank = bank ∧ w.num = num <;> simp [List.filter_append, hw]

theorem Banks.write_apply (b : Banks) (bank bank' : Bank) (num num' data : Int) :
    b.write bank num data bank' num' =
      if bank = bank' ∧ num = num' then data else b bank' num' := by
  by_cases hbank : bank = bank'
  · subst hbank
    rw [Banks.write, Function.update_self, Function.update_apply]
    simp [eq_comm]
  · rw [Banks.write, Function.update_of_ne (Ne.symm hbank), if_neg fun h => hbank h.1]

/-- After requests that have done what they ask for, each register has the data of the last one. -/
theorem banks_eq_lastData {ws : List WriteRequest} (hr : (board line banks).RunWith Does ws s)
    (bank : Bank) (num : Int) : s.banks bank num = lastData bank num (banks bank num) ws := by
  induction hr with
  | init => rfl
  | snoc _ _ hdoes ih => rw [hdoes, Banks.write_apply, lastData_concat, ih]

/--
**Each request of a run changes exactly the register it asks for if and only if none of them is for
a register of the board that has other data, or would put such data into the conveyor's bank, and all
those for the conveyor get through; and then each register has the data of the last request for it.**
-/
theorem parameters_unmixed_iff (ws : List WriteRequest) :
    ((board line banks).RunWith Does ws s ↔
      (board line banks).RunWith (fun s w _ => Harmless s w) ws s) ∧
    ((board line banks).RunWith (fun s w _ => Harmless s w) ws s →
      ∀ bank num, s.banks bank num = lastData bank num (banks bank num) ws) := by
  have hiff : (board line banks).RunWith Does ws s ↔
      (board line banks).RunWith (fun s w _ => Harmless s w) ws s :=
    Machine.runWith_congr (I := fun _ => True) trivial (fun _ _ => trivial) fun _ h => does_iff h
  exact ⟨hiff, fun hr => banks_eq_lastData (hiff.mpr hr)⟩

end Board

/-- `Power_parameter_write_cmd` with parameter 5 and data 1. -/
def writeFive : WriteRequest := ⟨.power, 5, 1, by decide, by decide⟩

/-- The register of the conveyor is written, and that of the board is not. -/
theorem power_write_reaches_conveyor :
    ∃ s, (board { fd := 3 } fun _ _ => 0).Run [writeFive] s ∧ s.banks .conveyor 5 = 1 ∧
      s.banks .power 5 = 0 ∧
      ¬ (board { fd := 3 } fun _ _ => 0).RunWith Does [writeFive] s := by
  have hexec : ((board { fd := 3 } fun _ _ => 0).exec [writeFive]).map
      (fun s => (s.banks .conveyor 5, s.banks .power 5)) = some (1, 0) := by
    decide +kernel
  obtain ⟨s, hs, hbanks⟩ := Option.map_eq_some_iff.mp hexec
  obtain ⟨hconveyor, hpower⟩ := Prod.mk.inj hbanks
  refine ⟨s, Machine.run_of_exec hs, hconveyor, hpower, ?_⟩
  intro hr
  have hdata := banks_eq_lastData hr .power 5
  rw [hpower] at hdata
  exact absurd hdata (by decide)

end Tetra.Interface
