import Tetra.Drive.Services
import Tetra.Serial.Polls

/-!
# The services of the interface node

The handlers of `tetra_interface.cpp` on the serial line of the power board. As in the drive node each
of them ends with `bResult = true`. The handlers that read share the globals `m_iParam0`,
`m_iParam1`, ... and answer with what is there after the poll.

`services_answer` is what the answers of both nodes say. `Integrallog_Command`, which writes a file,
and `Power_Get_IO_Status_Command`, which has no transaction, are left out.
-/

namespace Tetra.Interface

open Memory Serial Serial.Power

/-- A request of one of the services. -/
inductive Request
  | ledControl (id ledBrightness : Int)
  | ledToggleControl (deIndex lightAccel ledHighBrightness lightDecel ledLowBrightness : Int)
  | toggleOn (id : Int)
  | powerSetOutport (output0 output1 output2 output3 output4 output5 output6 output7 : Int)
  | powerSetSingleOutport (id value : Int)
  | powerSetEnable (power0 power1 power2 power3 power4 power5 power6 power7 : Int)
  | powerSetSingleEnable (id value : Int)
  | powerWheelEnable (on : Int)
  | powerParameterRead
  | powerParameterWrite (num data : Int)
  | powerDataRead
  | powerAdcRead
  | powerVersionRead
  | conveyorAutoMovement (start : Int)
  | conveyorManualMovement (mode : Int)
  | conveyorParameterRead
  | conveyorParameterWrite (num data : Int)
  | conveyorDataRead
  | powerSonarRead
  | powerSonarCmd (start : Int)
  deriving DecidableEq, Repr

/-- `data` has the fields of a response in front of `command_result`, in their order. -/
structure Response where
  data : List Int := []
  commandResult : Bool
  deriving DecidableEq, Repr

/-- The line, `m_iParam0` to `m_iParam31`, and what each transaction has returned. -/
structure Server where
  line : Line
  iParam : List Int := List.replicate 32 0
  returned : List (Option Int) := []
  deriving DecidableEq

/-- What a handler comes to, if it returns. -/
abbrev Answer := Except Fault (Response × Server)

/-- An output that is an `int`. -/
def intOf : Value → Option Int
  | .int i => some i
  | _ => none

/-- What `dssp_rs232_power_module.c` passes on of a mode. -/
def onOff (mode : Int) : Int := if mode = 1 then 1 else 0

namespace Server

/-- A handler that sends a command: `bResult = true`, whatever the transaction returns. -/
def command (s : Server) (call : Line → Except Fault (Int × Line)) : Answer := do
  let (ret, line) ← call s.line
  return (⟨[], true⟩, { s with line, returned := s.returned ++ [some ret] })

/-- A handler that reads: the poll has the first of the globals as its outputs. -/
def read (s : Server) (d : Decoder) : Answer := do
  let n := d.fields.length
  let (ret, out, line) ← d.call s.line ((s.iParam.take n).map .int)
  let iParam := out.filterMap intOf ++ s.iParam.drop n
  return (⟨iParam.take n, true⟩, { line, iParam, returned := s.returned ++ [ret] })

/-- `LED_Control_Command` -/
def ledControlCommand (s : Server) (id ledBrightness : Int) : Answer :=
  s.command fun line => powerSetLight line id ledBrightness

/-- `LED_Toggle_Command` -/
def ledToggleCommand (s : Server)
    (deIndex lightAccel ledHighBrightness lightDecel ledLowBrightness : Int) : Answer :=
  s.command fun line =>
    powerSetLightToggle line deIndex lightAccel ledHighBrightness lightDecel ledLowBrightness

/-- `Toggle_On_Command` -/
def toggleOnCommand (s : Server) (id : Int) : Answer := s.command fun line => powerToggleOn line id

/-- `Power_Set_Outport_Command` -/
def powerSetOutportCommand (s : Server)
    (output0 output1 output2 output3 output4 output5 output6 output7 : Int) : Answer :=
  s.command fun line => powerSetOutputPort line
    output0 output1 output2 output3 output4 output5 output6 output7

/-- `Power_Set_Single_Outport_Command` -/
def powerSetSingleOutportCommand (s : Server) (id value : Int) : Answer :=
  s.command fun line => powerSetSingleOutputPort line id value

/-- `Power_Set_Enable_Command` -/
def powerSetEnableCommand (s : Server)
    (power0 power1 power2 power3 power4 power5 power6 power7 : Int) : Answer :=
  s.command fun line => powerSetEnable line
    power0 power1 power2 power3 power4 power5 power6 power7

/-- `Power_Set_Single_Enable_Command` -/
def powerSetSingleEnableCommand (s : Server) (id value : Int) : Answer :=
  s.command fun line => powerSetSingleEnable line id value

/-- `Power_Wheel_Enable_Command` -/
def powerWheelEnableCommand (s : Server) (on : Int) : Answer :=
  s.command fun line => powerWheelEnable line (onOff on)

/-- `Power_Paramter_Read_Command` -/
def powerParameterReadCommand (s : Server) : Answer := s.read powerParameterRead

/-- `Power_Paramter_Write_Command`, which calls the function of the conveyor. -/
def powerParameterWriteCommand (s : Server) (num data : Int) : Answer :=
  s.command fun line => conveyorParameterWrite line num data

/-- `Power_Data_Read_Command` -/
def powerDataReadCommand (s : Server) : Answer := s.read powerDataRead

/-- `Power_ADC_Read_Command` -/
def powerAdcReadCommand (s : Server) : Answer := s.read powerAdcRead

/-- `Power_Version_Read_Command` -/
def powerVersionReadCommand (s : Server) : Answer := s.read powerVersionRead

/-- `Conveyor_Auto_Movement_Command` -/
def conveyorAutoMovementCommand (s : Server) (start : Int) : Answer :=
  s.command fun line => powerConveyorMovement line (onOff start)

/-- `Conveyor_Manual_Movement_Command` -/
def conveyorManualMovementCommand (s : Server) (mode : Int) : Answer :=
  s.command fun line => powerConveyorManualMovement line mode

/-- `Conveyor_Parameter_Read_Command` -/
def conveyorParameterReadCommand (s : Server) : Answer := s.read conveyorParameterRead

/-- `Conveyor_Parameter_Write_Command` -/
def conveyorParameterWriteCommand (s : Server) (num data : Int) : Answer :=
  s.command fun line => conveyorParameterWrite line num data

/-- `Conveyor_Data_Read_Command` -/
def conveyorDataReadCommand (s : Server) : Answer := s.read conveyorDataRead

/-- `Power_Sonar_Read_Command` -/
def powerSonarReadCommand (s : Server) : Answer := s.read powerSonarRead

/-- `Power_Sonar_Command` -/
def powerSonarCommand (s : Server) (start : Int) : Answer :=
  s.command fun line => powerSetUltrasonic line (onOff start)

/-- The handler of a request. -/
def serve (s : Server) : Request → Answer
  | .ledControl id brightness => s.ledControlCommand id brightness
  | .ledToggleControl index accel high decel low => s.ledToggleCommand index accel high decel low
  | .toggleOn id => s.toggleOnCommand id
  | .powerSetOutport o0 o1 o2 o3 o4 o5 o6 o7 => s.powerSetOutportCommand o0 o1 o2 o3 o4 o5 o6 o7
  | .powerSetSingleOutport id value => s.powerSetSingleOutportCommand id value
  | .powerSetEnable p0 p1 p2 p3 p4 p5 p6 p7 => s.powerSetEnableCommand p0 p1 p2 p3 p4 p5 p6 p7
  | .powerSetSingleEnable id value => s.powerSetSingleEnableCommand id value
  | .powerWheelEnable on => s.powerWheelEnableCommand on
  | .powerParameterRead => s.powerParameterReadCommand
  | .powerParameterWrite num data => s.powerParameterWriteCommand num data
  | .powerDataRead => s.powerDataReadCommand
  | .powerAdcRead => s.powerAdcReadCommand
  | .powerVersionRead => s.powerVersionReadCommand
  | .conveyorAutoMovement start => s.conveyorAutoMovementCommand start
  | .conveyorManualMovement mode => s.conveyorManualMovementCommand mode
  | .conveyorParameterRead => s.conveyorParameterReadCommand
  | .conveyorParameterWrite num data => s.conveyorParameterWriteCommand num data
  | .conveyorDataRead => s.conveyorDataReadCommand
  | .powerSonarRead => s.powerSonarReadCommand
  | .powerSonarCmd start => s.powerSonarCommand start

end Server

/-- The poll of a request that reads. -/
def Request.decoder? : Request → Option Decoder
  | powerParameterRead => some Power.powerParameterRead
  | powerDataRead => some Power.powerDataRead
  | powerAdcRead => some Power.powerAdcRead
  | powerVersionRead => some Power.powerVersionRead
  | conveyorParameterRead => some Power.conveyorParameterRead
  | conveyorDataRead => some Power.conveyorDataRead
  | powerSonarRead => some Power.powerSonarRead
  | _ => none

/-! ## What a read answers -/

/-- The words that a poll makes of a buffer. -/
def wordsIn (d : Decoder) (data : Buffer) : List Int := d.fields.map fun f => wordAt data f.offset

/-- A negative result; a poll whose reply is complete has no result at all. -/
def Failed (ret : Option Int) : Prop := ∃ code < 0, ret = some code

/--
What a read has answered: the words of the buffer in which it has received its reply. If nothing was
received, or the first length byte of the reply is 2, they are the globals as an earlier read has left
them; but then the poll has failed.
-/
structure Reads (s : Server) (d : Decoder) (response : Response) (s' : Server) : Prop where
  received : ∀ data, s.line.Exchanged s'.line data → response.data =
    if byteAt data 1 = 0x02 then s.iParam.take d.fields.length else wordsIn d data
  unasked : (∀ data, ¬ s.line.Exchanged s'.line data) →
    response.data = s.iParam.take d.fields.length
  succeeded : ∃ ret, s'.returned = s.returned ++ [ret] ∧
    (¬ Failed ret → ∃ data, s.line.Exchanged s'.line data ∧ response.data = wordsIn d data)

section Reads

variable {size : Nat} {c₁ c₂ : Char} {line line' : Line} {outcome : Outcome} {d : Decoder}

theorem exchanged_unique {data data' : Buffer} (h : line.Exchanged line' data)
    (h' : line.Exchanged line' data') : data = data' := by
  obtain ⟨_, _, _, left, hlog⟩ := h
  obtain ⟨_, _, _, left', hlog'⟩ := h'
  rw [hlog] at hlog'
  simp only [List.append_cancel_left_eq, List.cons.injEq, Traffic.received.injEq] at hlog'
  exact hlog'.2.1.1

theorem not_exchanged_of_length {data : Buffer} (h : line'.log.length ≤ line.log.length + 1) :
    ¬ line.Exchanged line' data := by
  rintro ⟨_, _, _, _, hlog⟩
  rw [hlog] at h
  simp at h

/-- A request is refused with nothing received, or has filled a buffer. -/
theorem request_ok (h : request size c₁ c₂ line = .ok (outcome, line')) :
    (∃ ret < 0, outcome = .refused ret ∧ ∀ data, ¬ line.Exchanged line' data) ∨
      ∃ ret data, outcome = .replied ret data ∧ line.Exchanged line' data := by
  by_cases hfd : line.fd = 0
  · rw [request, if_pos hfd] at h
    obtain ⟨rfl, rfl⟩ := pure_pair_eq_ok_iff.mp h
    exact Or.inl ⟨-1, by omega, rfl, fun data => not_exchanged_of_length (by omega)⟩
  · rw [request, if_neg hfd] at h
    obtain ⟨⟨buf, index⟩, -, h⟩ := bind_eq_ok_iff.mp h
    change (if (line.reaction index).written ≤ 0 then _ else _) = _ at h
    by_cases hw : (line.reaction index).written ≤ 0
    · rw [if_pos hw] at h
      obtain ⟨rfl, rfl⟩ := pure_pair_eq_ok_iff.mp h
      exact Or.inl ⟨-2, by omega, rfl, fun data => not_exchanged_of_length (by simp)⟩
    · rw [if_neg hw] at h
      obtain ⟨⟨ret, data, line₁⟩, hreceive, h⟩ := bind_eq_ok_iff.mp h
      obtain ⟨rfl, rfl⟩ := pure_pair_eq_ok_iff.mp h
      exact Or.inr ⟨ret, data, rfl, Line.exchanged_of_receive hreceive⟩

/-- Words are decoded without a fault. -/
theorem values_eq (hints : ∀ f ∈ d.fields, ∃ offset, f = .int offset) (data : Buffer) :
    d.values data = .ok ((wordsIn d data).map .int) := by
  refine mapM_eq_ok_iff.mpr ?_
  rw [wordsIn, List.map_map, List.forall₂_map_right_iff, List.forall₂_same]
  intro f hf
  obtain ⟨offset, rfl⟩ := hints f hf
  rfl

theorem filterMap_intOf (is : List Int) : (is.map Value.int).filterMap intOf = is := by
  induction is with
  | nil => rfl
  | cons i is ih => rw [List.map_cons, List.filterMap_cons, ih]; rfl

/-- A poll of words keeps its outputs, or makes all of them of the buffer. -/
theorem call_words (hints : ∀ f ∈ d.fields, ∃ offset, f = .int offset) {out vs : List Value}
    {ret : Option Int} (h : d.call line out = .ok (ret, vs, line')) :
    (Failed ret ∧ vs = out ∧ ∀ data, line.Exchanged line' data → byteAt data 1 = 0x02) ∨
      ∃ data, line.Exchanged line' data ∧ byteAt data 1 ≠ 0x02 ∧
        vs = (wordsIn d data).map .int := by
  obtain ⟨⟨outcome, line₁⟩, hrequest, -⟩ := bind_eq_ok_iff.mp h
  rcases request_ok hrequest with ⟨code, hcode, rfl, hnone⟩ | ⟨ret₁, data, rfl, hdata⟩
  · rw [call_of_refused hrequest] at h
    simp only [Except.ok.injEq, Prod.mk.injEq] at h
    obtain ⟨rfl, rfl, rfl⟩ := h
    exact Or.inl ⟨⟨code, hcode, rfl⟩, rfl, fun data hdata => absurd hdata (hnone data)⟩
  · rw [call_of_replied hrequest] at h
    by_cases htwo : byteAt data 1 = 0x02
    · rw [if_pos htwo] at h
      simp only [Except.ok.injEq, Prod.mk.injEq] at h
      obtain ⟨rfl, rfl, rfl⟩ := h
      refine Or.inl ⟨⟨-1, by omega, rfl⟩, rfl, fun data' hdata' => ?_⟩
      rwa [exchanged_unique hdata' hdata]
    · rw [if_neg htwo, values_eq hints, ok_bind] at h
      obtain ⟨-, rfl, rfl⟩ := pure_triple_eq_ok_iff.mp h
      exact Or.inr ⟨data, hdata, htwo, rfl⟩

end Reads

namespace Server

variable {s s' : Server} {response : Response}

theorem command_ok {call : Line → Except Fault (Int × Line)}
    (h : s.command call = .ok (response, s')) : response = ⟨[], true⟩ := by
  obtain ⟨⟨ret, line⟩, -, hs⟩ := bind_eq_ok_iff.mp h
  exact (pure_pair_eq_ok_iff.mp hs).1.symm

theorem read_ok {d : Decoder} (hints : ∀ f ∈ d.fields, ∃ offset, f = .int offset)
    (h : s.read d = .ok (response, s')) :
    response.commandResult = true ∧ Reads s d response s' := by
  obtain ⟨⟨ret, out, line⟩, hcall, hs⟩ := bind_eq_ok_iff.mp h
  obtain ⟨rfl, rfl⟩ := pure_pair_eq_ok_iff.mp hs
  rcases call_words hints hcall with ⟨hfailed, rfl, htwo⟩ | ⟨data, hdata, htwo, rfl⟩
  · have hkept : (((s.iParam.take d.fields.length).map Value.int).filterMap intOf ++
        s.iParam.drop d.fields.length).take d.fields.length = s.iParam.take d.fields.length := by
      rw [filterMap_intOf, List.take_append_drop]
    refine ⟨rfl, ⟨?_, fun _ => hkept, ret, rfl, fun hret => absurd hfailed hret⟩⟩
    intro data hdata
    rw [if_pos (htwo data hdata)]
    exact hkept
  · have hwords : (((wordsIn d data).map Value.int).filterMap intOf ++
        s.iParam.drop d.fields.length).take d.fields.length = wordsIn d data := by
      rw [filterMap_intOf]
      exact List.take_left' (by simp [wordsIn])
    refine ⟨rfl, ⟨?_, fun hnone => absurd hdata (hnone data), ret, rfl,
      fun _ => ⟨data, hdata, hwords⟩⟩⟩
    intro data' hdata'
    obtain rfl := exchanged_unique hdata hdata'
    rw [if_neg htwo]
    exact hwords

/-- Every handler is one command or one poll. -/
theorem serve_cases (s : Server) (q : Request) :
    (q.decoder? = none ∧ ∃ call, s.serve q = s.command call) ∨
      ∃ d, q.decoder? = some d ∧ s.serve q = s.read d := by
  cases q with
  | powerParameterWrite num data =>
    exact Or.inl ⟨rfl, fun line => conveyorParameterWrite line num data, rfl⟩
  | conveyorParameterWrite num data =>
    exact Or.inl ⟨rfl, fun line => conveyorParameterWrite line num data, rfl⟩
  | _ => first | exact Or.inl ⟨rfl, _, rfl⟩ | exact Or.inr ⟨_, rfl, rfl⟩

end Server

/-- The polls of the services are polls of words. -/
theorem ints_of_decoder? {q : Request} {d : Decoder} (h : q.decoder? = some d) :
    ∀ f ∈ d.fields, ∃ offset, f = .int offset := by
  have hwords : ∃ n, d.fields = words n := by
    cases q <;> simp only [Request.decoder?, Option.some.injEq, reduceCtorEq] at h <;>
      exact ⟨_, by rw [← h]; rfl⟩
  obtain ⟨n, hn⟩ := hwords
  intro f hf
  obtain ⟨i, rfl⟩ := exists_of_mem_words (hn ▸ hf)
  exact ⟨_, rfl⟩

theorem Server.serve_ok {s s' : Server} {q : Request} {response : Response}
    (h : s.serve q = .ok (response, s')) :
    response.commandResult = true ∧ ∀ d, q.decoder? = some d → Reads s d response s' := by
  rcases s.serve_cases q with ⟨hnone, call, hcall⟩ | ⟨d, hd, hread⟩
  · rw [hcall] at h
    refine ⟨by rw [command_ok h], ?_⟩
    intro d hd
    rw [hnone] at hd
    exact absurd hd (by simp)
  · rw [hread] at h
    obtain ⟨hresult, hreads⟩ := read_ok (ints_of_decoder? hd) h
    refine ⟨hresult, ?_⟩
    intro d' hd'
    obtain rfl := Option.some.inj (hd.symm.trans hd')
    exact hreads

/--
**A handler that returns answers with `true`, whatever its transactions have returned; and what
the reads answer with.**
-/
theorem services_answer :
    (∀ (s s' : Drive.Server) (q : Drive.Request) (response : Drive.Response),
      s.serve q = .ok (response, s') → response.commandResult = true ∧
        ∀ num, q = .parameterRead num → Drive.Reads s num response s') ∧
    ∀ (s s' : Server) (q : Request) (response : Response),
      s.serve q = .ok (response, s') → response.commandResult = true ∧
        ∀ d, q.decoder? = some d → Reads s d response s' :=
  ⟨fun _ _ _ _ h => Drive.Server.serve_ok h, fun _ _ _ _ h => Server.serve_ok h⟩

/-- A sonar read whose reply has one word, and what it answers with. -/
theorem services_answer_sonar :
    ∃ response s', ({ line := requested (fiveReply.bytes.map (.item · true)) } : Server).serve
        .powerSonarRead = .ok (response, s') ∧ response.commandResult = true ∧
      Reads { line := requested (fiveReply.bytes.map (.item · true)) } powerSonarRead response s' := by
  have hresult : (({ line := requested (fiveReply.bytes.map (.item · true)) } : Server).serve
      .powerSonarRead).map (·.1.commandResult) = .ok true := by
    decide +kernel
  obtain ⟨⟨response, s'⟩, hserve, -⟩ := map_eq_ok_iff.mp hresult
  obtain ⟨htrue, hreads⟩ := services_answer.2 _ s' .powerSonarRead response hserve
  exact ⟨response, s', hserve, htrue, hreads _ rfl⟩

/-- Nothing comes within the time. The light is not set and the parameter, 7 from an earlier read, not
read; both services say `true`. -/
theorem failures_unreported :
    (∃ s', ({ line := { fd := 3 } } : Server).serve (.ledControl 1 50) = .ok (⟨[], true⟩, s') ∧
      s'.returned = [some (-1)]) ∧
    (∃ s', ({ line := { fd := 3 } } : Server).serve .powerSonarRead =
        .ok (⟨[0, 0, 0, 0, 0, 0], true⟩, s') ∧ s'.returned = [some (-10)]) ∧
    ∃ s', ({ line := { fd := 3 }, iParam := 7 } : Drive.Server).serve (.parameterRead 6) =
        .ok (⟨some 7, true⟩, s') ∧ s'.returned = [(.readParameter 6, -1)] := by
  have hlight : (({ line := { fd := 3 } } : Server).serve (.ledControl 1 50)).map
      (fun r => (r.1, r.2.returned)) = .ok (⟨[], true⟩, [some (-1)]) := by
    decide +kernel
  have hsonar : (({ line := { fd := 3 } } : Server).serve .powerSonarRead).map
      (fun r => (r.1, r.2.returned)) = .ok (⟨[0, 0, 0, 0, 0, 0], true⟩, [some (-10)]) := by
    decide +kernel
  have hparameter : (({ line := { fd := 3 }, iParam := 7 } : Drive.Server).serve
      (.parameterRead 6)).map (fun r => (r.1, r.2.returned)) =
        .ok (⟨some 7, true⟩, [(.readParameter 6, -1)]) := by
    decide +kernel
  have hreturned {ρ σ τ : Type} {x : Except Fault (ρ × σ)} {returned : σ → τ} {response : ρ} {v : τ}
      (h : x.map (fun r => (r.1, returned r.2)) = .ok (response, v)) :
      ∃ s', x = .ok (response, s') ∧ returned s' = v := by
    obtain ⟨⟨response₁, s'⟩, hx, hr⟩ := map_eq_ok_iff.mp h
    obtain ⟨rfl, rfl⟩ := Prod.mk.inj hr
    exact ⟨s', hx, rfl⟩
  exact ⟨hreturned hlight, hreturned hsonar, hreturned hparameter⟩

end Tetra.Interface
