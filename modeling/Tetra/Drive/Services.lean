import Tetra.Serial.Drive

/-!
# The services of the drive node

The handlers of `tetra.cpp` on the serial line. Each of them ends with `bResult = true`: what
its transactions return is dropped. It is kept here next to the globals, for what is said about it.

`Drive.Node` has the same handlers with the acknowledgements as inputs; `serve_refines` connects the
two.
-/

namespace Tetra.Drive

open Memory Serial Serial.Drive

/-- A request of one of the services. -/
inductive Request
  | parameterRead (num : Int)
  | parameterWrite (num data : Int)
  | movemodeChange (mode : Int)
  | linearMove (linearPosition : Int)
  | angularMove (angularDegree : Int)
  deriving DecidableEq, Repr

/-- `data` is a field of the response to `parameterRead` only. -/
structure Response where
  data : Option Int := none
  commandResult : Bool
  deriving DecidableEq, Repr

/-- The line and the globals that the services use, and what each transaction has returned. -/
structure Server where
  line : Line
  iParam : Int := 0
  bPositionModeFlag : Bool := false
  returned : List (DriveCommand × Int) := []
  deriving DecidableEq

namespace Server

/-- A transaction whose result is dropped. -/
def transact (s : Server) (command : DriveCommand) (call : Line → Except Fault (Int × Line)) :
    Except Fault Server := do
  let (ret, line) ← call s.line
  return { s with line, returned := s.returned ++ [(command, ret)] }

/-- `dssp_rs232_drv_module_set_servo` -/
def setServo (s : Server) (mode : Int) : Except Fault Server :=
  s.transact (.setServo (mode = 1)) fun line => drvmSetServo line mode

/-- A command with the servo off, and on again afterwards. -/
def servoAround (s : Server) (command : DriveCommand) (call : Line → Except Fault (Int × Line)) :
    Except Fault Server := do
  let s ← s.setServo 0
  let s ← s.transact command call
  s.setServo 1

/-- `bResult = true`, whatever has been done. -/
def answered (done : Except Fault Server) : Except Fault (Response × Server) := do
  return (⟨none, true⟩, ← done)

/-- `Parameter_Read_Command` -/
def parameterReadCommand (s : Server) (num : Int) : Except Fault (Response × Server) := do
  let (ret, iParam, line) ← drvmReadParameter s.line num s.iParam
  let s := { s with line, iParam, returned := s.returned ++ [(.readParameter num, ret)] }
  return (⟨some s.iParam, true⟩, s)

/-- `Parameter_Write_Command` -/
def parameterWriteCommand (s : Server) (num data : Int) : Except Fault (Response × Server) :=
  answered (s.servoAround (.setParameter num data) fun line => drvmSetParameter line num data)

/-- `Movemode_Change_Command` -/
def movemodeChangeCommand (s : Server) (mode : Int) : Except Fault (Response × Server) :=
  if mode = 1 then
    let s := { s with bPositionModeFlag := true }
    answered (s.servoAround .setPositionMode drvmSetPositionMode)
  else
    let s := { s with bPositionModeFlag := false }
    answered (s.servoAround .setVelocityMode drvmSetVelocityMode)

/-- `Linear_Move_Command` -/
def linearMoveCommand (s : Server) (linearPosition : Int) : Except Fault (Response × Server) :=
  answered (s.transact (.setPosition 0 0 linearPosition) fun line =>
    drvmSetPosition line 0 0 linearPosition)

/-- `Angular_Move_Command` -/
def angularMoveCommand (s : Server) (angularDegree : Int) : Except Fault (Response × Server) :=
  answered (s.transact (.setPosition 2 0 angularDegree) fun line =>
    drvmSetPosition line 2 0 angularDegree)

/-- The handler of a request. -/
def serve (s : Server) : Request → Except Fault (Response × Server)
  | .parameterRead num => s.parameterReadCommand num
  | .parameterWrite num data => s.parameterWriteCommand num data
  | .movemodeChange mode => s.movemodeChangeCommand mode
  | .linearMove linearPosition => s.linearMoveCommand linearPosition
  | .angularMove angularDegree => s.angularMoveCommand angularDegree

/-! ## As part of the node -/

/-- The node that the server is a part of. -/
def node (s : Server) (base : Node) : Node :=
  { base with
    bPositionModeFlag := s.bPositionModeFlag, iParam := s.iParam,
    log := base.log ++ s.returned.map fun r => .sent r.1 (r.2 = 0) }

variable {s s' : Server}

/-- A transaction that returns is a command sent, acknowledged if it has returned 0. -/
theorem node_transact {command : DriveCommand} {call : Line → Except Fault (Int × Line)}
    (h : s.transact command call = .ok s') :
    ∃ ret, s'.returned = s.returned ++ [(command, ret)] ∧
      ∀ base, s'.node base = (s.node base).send command (ret = 0) := by
  obtain ⟨⟨ret, line⟩, _, hs⟩ := bind_eq_ok_iff.mp h
  obtain rfl := Except.ok.inj hs
  exact ⟨ret, rfl, fun base => by simp [node, Node.send]⟩

/-- A command with the servo off for it is three commands. -/
theorem node_servoAround {command : DriveCommand} {call : Line → Except Fault (Int × Line)}
    (h : s.servoAround command call = .ok s') :
    ∃ okOff ok okOn, ∀ base, s'.node base =
      (((s.node base).setServo 0 okOff).send command ok).setServo 1 okOn := by
  obtain ⟨s₁, hoff, h⟩ := bind_eq_ok_iff.mp h
  obtain ⟨s₂, hcall, hon⟩ := bind_eq_ok_iff.mp h
  obtain ⟨retOff, -, hoff⟩ := node_transact hoff
  obtain ⟨ret, -, hcall⟩ := node_transact hcall
  obtain ⟨retOn, -, hon⟩ := node_transact hon
  refine ⟨retOff = 0, ret = 0, retOn = 0, ?_⟩
  intro base
  rw [hon, hcall, hoff]
  rfl

end Server

/-- The callbacks of `Drive.Node` that a request can be. -/
def Request.Is (q : Request) (callback : Callback) : Prop :=
  match q with
  | parameterRead num => ∃ reply, callback = .parameterRead num reply
  | parameterWrite num data =>
    ∃ okOff okWrite okOn, callback = .parameterWrite num data okOff okWrite okOn
  | movemodeChange mode => ∃ okOff okMode okOn, callback = .movemodeChange mode okOff okMode okOn
  | linearMove linearPosition => ∃ ok, callback = .linearMove linearPosition ok
  | angularMove angularDegree => ∃ ok, callback = .angularMove angularDegree ok

/-! ## What a read returns -/

/-- What `drvm_read_parameter` makes of a reply. -/
def decodeParameter (data : Buffer) : Except Fault Int := do
  let val ← str2int data (List.replicate 255 0)
  return asInt (← load val 0)

/-- A parameter that is read is the one in the reply to this read, and a read that fails leaves the
output alone. -/
theorem drvmReadParameter_ok {line line' : Line} {param value value' ret : Int}
    (h : drvmReadParameter line param value = .ok (ret, value', line')) :
    (ret ≠ 0 ∧ value' = value) ∨
      (ret = 0 ∧ ∃ data, line.Exchanged line' data ∧ decodeParameter data = .ok value') := by
  by_cases hfd : line.fd = 0
  · rw [drvmReadParameter, if_pos hfd] at h
    obtain ⟨rfl, rfl, -⟩ := pure_triple_eq_ok_iff.mp h
    exact Or.inl ⟨by omega, rfl⟩
  · rw [drvmReadParameter, if_neg hfd] at h
    obtain ⟨⟨buf, index⟩, -, h⟩ := bind_eq_ok_iff.mp h
    obtain ⟨⟨ret₁, data, line₁⟩, hreceive, h⟩ := bind_eq_ok_iff.mp h
    simp only at h
    by_cases hret : ret₁ = 0
    · rw [if_neg (not_not_intro hret)] at h
      obtain ⟨val, hval, h⟩ := bind_eq_ok_iff.mp h
      obtain ⟨v, hv, h⟩ := bind_eq_ok_iff.mp h
      obtain ⟨rfl, rfl, rfl⟩ := pure_triple_eq_ok_iff.mp h
      refine Or.inr ⟨hret, data, Line.exchanged_of_receive hreceive, ?_⟩
      rw [decodeParameter, hval, ok_bind, hv]
      rfl
    · rw [if_pos hret] at h
      obtain ⟨rfl, rfl, -⟩ := pure_triple_eq_ok_iff.mp h
      exact Or.inl ⟨hret, rfl⟩

/-! ## Refinement -/

/-- What a read has answered: the parameter in the reply to this read if it has succeeded, and else
what an earlier read has left. -/
def Reads (s : Server) (num : Int) (response : Response) (s' : Server) : Prop :=
  response.data = some s'.iParam ∧
    ∃ ret, s'.returned = s.returned ++ [(.readParameter num, ret)] ∧
      ((ret ≠ 0 ∧ s'.iParam = s.iParam) ∨
        (ret = 0 ∧ ∃ data, s.line.Exchanged s'.line data ∧ decodeParameter data = .ok s'.iParam))

namespace Server

variable {s s' : Server} {response : Response}

/-- `Parameter_Read_Command`, as far as what `drvm_read_parameter` has done. -/
theorem parameterReadCommand_ok {num : Int}
    (h : s.parameterReadCommand num = .ok (response, s')) :
    ∃ ret line iParam, drvmReadParameter s.line num s.iParam = .ok (ret, iParam, line) ∧
      response = ⟨some iParam, true⟩ ∧
      s' = { s with line, iParam, returned := s.returned ++ [(.readParameter num, ret)] } := by
  obtain ⟨⟨ret, iParam, line⟩, hread, hs⟩ := bind_eq_ok_iff.mp h
  obtain ⟨hresponse, hs⟩ := pure_pair_eq_ok_iff.mp hs
  exact ⟨ret, line, iParam, hread, hresponse.symm, hs.symm⟩

theorem answered_ok {done : Except Fault Server} (h : answered done = .ok (response, s')) :
    response = ⟨none, true⟩ ∧ done = .ok s' := by
  obtain ⟨s₁, hdone, hs⟩ := bind_eq_ok_iff.mp h
  obtain ⟨rfl, rfl⟩ := pure_pair_eq_ok_iff.mp hs
  exact ⟨rfl, hdone⟩

/-- Every handler but the one that reads sends its commands and says `true`. -/
theorem serve_cases (s : Server) (q : Request) :
    (∃ num, q = .parameterRead num) ∨
      (∀ num, q ≠ .parameterRead num) ∧ ∃ done, s.serve q = answered done := by
  cases q with
  | parameterRead num => exact Or.inl ⟨num, rfl⟩
  | parameterWrite num data => exact Or.inr ⟨nofun, _, rfl⟩
  | movemodeChange mode =>
    refine Or.inr ⟨nofun, ?_⟩
    by_cases hmode : mode = 1
    · exact ⟨_, if_pos hmode⟩
    · exact ⟨_, if_neg hmode⟩
  | linearMove linearPosition => exact Or.inr ⟨nofun, _, rfl⟩
  | angularMove angularDegree => exact Or.inr ⟨nofun, _, rfl⟩

theorem serve_ok {q : Request} (h : s.serve q = .ok (response, s')) :
    response.commandResult = true ∧
      ∀ num, q = .parameterRead num → Reads s num response s' := by
  rcases s.serve_cases q with ⟨num, rfl⟩ | ⟨hother, done, hdone⟩
  · obtain ⟨ret, line, iParam, hread, rfl, rfl⟩ := parameterReadCommand_ok h
    refine ⟨rfl, ?_⟩
    intro num' hnum
    obtain rfl := Request.parameterRead.inj hnum
    exact ⟨rfl, ret, rfl, drvmReadParameter_ok hread⟩
  · rw [hdone] at h
    rw [(answered_ok h).1]
    exact ⟨rfl, fun num hnum => absurd hnum (hother num)⟩

/-- **A handler that returns has done what the node's callback does, with the results of the
transactions as acknowledgements.** -/
theorem serve_refines {q : Request} (h : s.serve q = .ok (response, s')) :
    ∃ callback, q.Is callback ∧ ∀ base, s'.node base = (s.node base).handle callback := by
  cases q with
  | parameterRead num =>
    obtain ⟨ret, line, iParam, hread, -, rfl⟩ := parameterReadCommand_ok h
    rcases drvmReadParameter_ok hread with ⟨hret, hkept⟩ | ⟨hret, -⟩
    · refine ⟨_, ⟨none, rfl⟩, ?_⟩
      intro base
      simp [node, Node.handle, Node.parameterReadCommand, Node.send, hret, hkept]
    · refine ⟨_, ⟨some iParam, rfl⟩, ?_⟩
      intro base
      simp [node, Node.handle, Node.parameterReadCommand, Node.send, hret]
  | parameterWrite num data =>
    obtain ⟨okOff, ok, okOn, hnode⟩ := node_servoAround (answered_ok h).2
    exact ⟨_, ⟨okOff, ok, okOn, rfl⟩, hnode⟩
  | movemodeChange mode =>
    by_cases hmode : mode = 1
    · simp only [serve, movemodeChangeCommand, if_pos hmode] at h
      obtain ⟨okOff, ok, okOn, hnode⟩ := node_servoAround (answered_ok h).2
      refine ⟨_, ⟨okOff, ok, okOn, rfl⟩, ?_⟩
      intro base
      rw [hnode, Node.handle, Node.movemodeChangeCommand, if_pos hmode]
      rfl
    · simp only [serve, movemodeChangeCommand, if_neg hmode] at h
      obtain ⟨okOff, ok, okOn, hnode⟩ := node_servoAround (answered_ok h).2
      refine ⟨_, ⟨okOff, ok, okOn, rfl⟩, ?_⟩
      intro base
      rw [hnode, Node.handle, Node.movemodeChangeCommand, if_neg hmode]
      rfl
  | linearMove linearPosition =>
    obtain ⟨ret, -, hnode⟩ := node_transact (answered_ok h).2
    exact ⟨_, ⟨ret = 0, rfl⟩, hnode⟩
  | angularMove angularDegree =>
    obtain ⟨ret, -, hnode⟩ := node_transact (answered_ok h).2
    exact ⟨_, ⟨ret = 0, rfl⟩, hnode⟩

end Server

end Tetra.Drive
