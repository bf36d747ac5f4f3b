import Tetra.Lib.EventLog
import Mathlib.Algebra.Order.Floor.Ring
import Mathlib.Data.Rat.Floor

/-!
# The drive node

State and callbacks of the `tetra` node (`tetra/src/tetra.cpp`), at the level of the
commands it sends to the motor driver. Each command is one serial transaction of
`drive_module.c`; whether the driver acknowledged it is an input.

Velocities and poses are exact rationals. `joyCallback` is left out: for the main loop it is one
more source of `linear` and `angular`, as `velCallback` is. The odometry message is left out too.
-/

namespace Tetra.Drive

open EventLog

/-! ## Commands and what the drive reports -/

/-- The commands of `drive_module.c`, with their arguments. -/
inductive DriveCommand
  | setServo (on : Bool)
  | setDriveErrReset
  | setVelocityMode
  | setPositionMode
  | setParameter (param value : Int)
  | readParameter (param : Int)
  | setOdometry (x y theta : Int)
  | setPosition (type pass data : Int)
  | setVelocity2 (left right : Int)
  | readDriveErr
  deriving DecidableEq, Repr

/-- The outputs of `drvm_set_velocity2`. -/
structure Odometry where
  xPos : ℚ
  yPos : ℚ
  theta : ℚ
  velocityL : ℚ
  velocityA : ℚ
  bumper : Int
  emg : Int
  deriving DecidableEq

/-- The outputs of `drvm_read_drive_err`. -/
structure DriveErr where
  leftErrorCode : Int
  rightErrorCode : Int
  leftFuse : Int
  rightFuse : Int
  deriving DecidableEq

/--
What happens around the node, in order.

`read` and `done` are marks, not messages: an iteration has the bumper value it is going to
check, and an iteration that checked this value is over.
-/
inductive DriveEvent
  | sent (command : DriveCommand) (ok : Bool)
  | read (bumper : Int)
  | done (bumper : Int)
  deriving DecidableEq

/-! ## State -/

/-- The globals of `tetra.cpp` that the main loop and the callbacks use. -/
structure Node where
  linear : ℚ := 0
  angular : ℚ := 0
  inputLinear : ℚ := 0
  inputAngular : ℚ := 0
  controlLinear : ℚ := 0
  controlAngular : ℚ := 0
  bForwardCheck : Bool := false
  oldAccelData : Int := 50
  odometry : Odometry := ⟨0, 0, 0, 0, 0, 0, 0⟩
  driveErr : DriveErr := ⟨0, 0, 0, 0⟩
  bPositionModeFlag : Bool := false
  iParam : Int := 0
  bflagBumper : Bool := false
  log : List DriveEvent := []
  deriving DecidableEq

namespace Node

/-- One serial transaction. -/
def send (s : Node) (command : DriveCommand) (ok : Bool) : Node :=
  { s with log := s.log ++ [.sent command ok] }

def mark (s : Node) (event : DriveEvent) : Node :=
  { s with log := s.log ++ [event] }

/-- `dssp_rs232_drv_module_set_servo`: every mode but 1 is servo-off. -/
def setServo (s : Node) (mode : Int) (ok : Bool) : Node :=
  s.send (.setServo (mode = 1)) ok

@[simp] theorem send_log (s : Node) (c : DriveCommand) (ok : Bool) :
    (s.send c ok).log = s.log ++ [.sent c ok] := rfl

@[simp] theorem mark_log (s : Node) (e : DriveEvent) : (s.mark e).log = s.log ++ [e] := rfl

end Node

/-! ## Callbacks -/

/-- A subscription or service callback with its message and, for each command it sends,
whether the driver acknowledges it. -/
inductive Callback
  | vel (linear angular : ℚ)
  | manualVel (linear angular : ℚ)
  | accel (data : Int) (ok : Bool)
  | poseReset (data : Int) (ok : Bool)
  | servoOn (data : Int) (okMode okServo : Bool)
  | powerStatus (data : Int) (ok : Bool)
  | parameterRead (num : Int) (reply : Option Int)
  | parameterWrite (num data : Int) (okOff okWrite okOn : Bool)
  | movemodeChange (mode : Int) (okOff okMode okOn : Bool)
  | linearMove (linearPosition : Int) (ok : Bool)
  | angularMove (angularDegree : Int) (ok : Bool)

namespace Node

def velCallback (s : Node) (linear angular : ℚ) : Node :=
  { s with linear, angular }

def manualVelCallback (s : Node) (linear angular : ℚ) : Node :=
  { s with linear, angular }

def accelCallback (s : Node) (data : Int) (ok : Bool) : Node :=
  if s.oldAccelData ≠ data then
    { s.send (.setParameter 6 data) ok with oldAccelData := data }
  else s

def poseResetCallback (s : Node) (data : Int) (ok : Bool) : Node :=
  if data = 1 then s.send (.setOdometry 0 0 0) ok else s

def servoOnCallback (s : Node) (data : Int) (okMode okServo : Bool) : Node :=
  if data = 1 then
    let s := { s with bPositionModeFlag := false }
    (s.send .setVelocityMode okMode).setServo 1 okServo
  else if data = 2 then s.setServo 0 okServo
  else if data = 3 then
    let s := { s with bPositionModeFlag := true }
    (s.send .setPositionMode okMode).setServo 1 okServo
  else s

def powerStatusCallback (s : Node) (data : Int) (ok : Bool) : Node :=
  if data = -10 then s.setServo 0 ok else s

/-- The response is the node's `m_iParam`, which a failed read leaves as it was. -/
def parameterReadCommand (s : Node) (num : Int) (reply : Option Int) : Node × Int × Bool :=
  let s := s.send (.readParameter num) reply.isSome
  let s := { s with iParam := reply.getD s.iParam }
  (s, s.iParam, true)

def parameterWriteCommand (s : Node) (num data : Int) (okOff okWrite okOn : Bool) : Node × Bool :=
  let s := s.setServo 0 okOff
  let s := s.send (.setParameter num data) okWrite
  let s := s.setServo 1 okOn
  (s, true)

def movemodeChangeCommand (s : Node) (mode : Int) (okOff okMode okOn : Bool) : Node × Bool :=
  if mode = 1 then
    let s := { s with bPositionModeFlag := true }
    let s := s.setServo 0 okOff
    let s := s.send .setPositionMode okMode
    (s.setServo 1 okOn, true)
  else
    let s := { s with bPositionModeFlag := false }
    let s := s.setServo 0 okOff
    let s := s.send .setVelocityMode okMode
    (s.setServo 1 okOn, true)

def linearMoveCommand (s : Node) (linearPosition : Int) (ok : Bool) : Node × Bool :=
  (s.send (.setPosition 0 0 linearPosition) ok, true)

def angularMoveCommand (s : Node) (angularDegree : Int) (ok : Bool) : Node × Bool :=
  (s.send (.setPosition 2 0 angularDegree) ok, true)

/-- What a callback does to the node. -/
def handle (s : Node) : Callback → Node
  | .vel linear angular => s.velCallback linear angular
  | .manualVel linear angular => s.manualVelCallback linear angular
  | .accel data ok => s.accelCallback data ok
  | .poseReset data ok => s.poseResetCallback data ok
  | .servoOn data okMode okServo => s.servoOnCallback data okMode okServo
  | .powerStatus data ok => s.powerStatusCallback data ok
  | .parameterRead num reply => (s.parameterReadCommand num reply).1
  | .parameterWrite num data okOff okWrite okOn =>
    (s.parameterWriteCommand num data okOff okWrite okOn).1
  | .movemodeChange mode okOff okMode okOn => (s.movemodeChangeCommand mode okOff okMode okOn).1
  | .linearMove linearPosition ok => (s.linearMoveCommand linearPosition ok).1
  | .angularMove angularDegree ok => (s.angularMoveCommand angularDegree ok).1

/-- `spin_some`: the callbacks waiting when an iteration starts, in order. -/
def spinSome (s : Node) (callbacks : List Callback) : Node :=
  callbacks.foldl handle s

end Node

end Tetra.Drive
