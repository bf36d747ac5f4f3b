import Tetra.Drive.Node
import Tetra.Lib.Machine

/-!
# The main loop of the drive node

One iteration of the loop in `main` of `tetra/src/tetra.cpp`, in the order of the source:
the waiting callbacks, the velocity smoother, the velocity command with the odometry it
brings back, the error read-out, the driver-error recovery, the bumper check.

`loop` is the machine whose event is one whole iteration.
-/

namespace Tetra.Drive

open EventLog

/-! ## Velocity smoother and wheel speeds -/

/-- The ramp on the linear velocity: 10 mm/s per iteration when speeding up, 50 mm/s else. -/
def smoothLinear (bForwardCheck : Bool) (inputLinear controlLinear : ℚ) : ℚ :=
  if bForwardCheck then
    if inputLinear > controlLinear then min inputLinear (controlLinear + 0.01)
    else if inputLinear < controlLinear then max inputLinear (controlLinear - 0.05)
    else inputLinear
  else
    if inputLinear < controlLinear then
      let controlLinear := max inputLinear (controlLinear - 0.01)
      if controlLinear > 0 then max inputLinear (controlLinear - 0.05) else controlLinear
    else if inputLinear > controlLinear then min inputLinear (controlLinear + 0.05)
    else inputLinear

/-- The double constant `M_PI`. -/
def mPi : ℚ := 884279719003555 / 281474976710656

def wheelRadius : ℚ := 0.0750

def wheelDistance : ℚ := 0.3950

def distanceToWheelrotation (wheelDiameter distance : ℚ) : ℚ := distance / (mPi * wheelDiameter)

def directionToDiwheelrotationDiff (wheelDistance wheelDiameter rad : ℚ) : ℚ :=
  wheelDistance / (wheelDiameter * mPi) * rad

/-- Left and right wheel speed in rpm. -/
def speedToDiwheelRpm (meterPerSec radPerSec : ℚ) : ℚ × ℚ :=
  let linearRotate := distanceToWheelrotation (2.0 * wheelRadius) meterPerSec
  let angularRotate :=
    directionToDiwheelrotationDiff (wheelDistance / 2.0) (2.0 * wheelRadius) radPerSec
  ((linearRotate - angularRotate) * 60.0, (linearRotate + angularRotate) * 60.0)

def rpmToMs (rpm : ℚ) : ℚ := wheelRadius * 2.0 * mPi * (rpm / 60.0)

/-- The conversion of a double to an int drops the fraction. -/
def truncate (v : ℚ) : Int := if 0 ≤ v then ⌊v⌋ else ⌈v⌉

namespace Node

/-- The smoother part of an iteration. -/
def smoothVelocity (s : Node) : Node :=
  let s := { s with inputLinear := s.linear, inputAngular := s.angular }
  let s := { s with bForwardCheck := s.linear > 0 }
  { s with
    controlLinear := smoothLinear s.bForwardCheck s.inputLinear s.controlLinear
    controlAngular := s.inputAngular }

/-- `SetMoveCommand`. A failed transaction leaves pose, velocities, bumper and emg as they were. -/
def setMoveCommand (s : Node) (linearVel angularVel : ℚ) (reply : Option Odometry) : Node :=
  let wheelVel := speedToDiwheelRpm linearVel angularVel
  let data1 := truncate (1000.0 * rpmToMs wheelVel.1)
  let data2 := truncate (1000.0 * rpmToMs wheelVel.2)
  let s := s.send (.setVelocity2 data1 data2) reply.isSome
  { s with odometry := reply.getD s.odometry }

/-- `dssp_rs232_drv_module_read_drive_err` into the four globals. -/
def readDriveErr (s : Node) (reply : Option DriveErr) : Node :=
  let s := s.send .readDriveErr reply.isSome
  { s with driveErr := reply.getD s.driveErr }

end Node

/-! ## Recovery and bumper check -/

/-- One of the two error codes is not `'0'`, or one of the two fuses is gone. -/
def DriveErr.detected (e : DriveErr) : Bool :=
  e.leftErrorCode ≠ 48 || e.rightErrorCode ≠ 48 || e.leftFuse = 0 || e.rightFuse = 0

/-- The bumper values that stop the servo. -/
def bumperPressed (bumper : Int) : Bool := bumper = 2 || bumper = 3

namespace Node

def errorRecovery (s : Node) (okReset okOn : Bool) : Node :=
  if !s.bPositionModeFlag && s.driveErr.detected then
    (s.send .setDriveErrReset okReset).setServo 1 okOn
  else s

def bumperCheck (s : Node) (okServo okReset : Bool) : Node :=
  if bumperPressed s.odometry.bumper then
    if s.bflagBumper then
      { (s.setServo 0 okServo).send .setDriveErrReset okReset with bflagBumper := false }
    else s
  else
    if !s.bflagBumper then
      { s.setServo 1 okServo with bflagBumper := true }
    else s

end Node

/-! ## Iterations -/

/-- What an iteration of the loop meets: the waiting callbacks, the replies to the velocity
command and to the error read-out, and the acknowledgements of the commands after them. -/
structure Iteration where
  callbacks : List Callback
  odometry : Option Odometry
  driveErr : Option DriveErr
  okRecoveryReset : Bool
  okRecoveryOn : Bool
  okBumperServo : Bool
  okBumperReset : Bool

namespace Node

/-- The velocity command and the error read-out, in velocity mode only. -/
def exchange (s : Node) (it : Iteration) : Node :=
  if !s.bPositionModeFlag then
    (s.setMoveCommand s.controlLinear s.controlAngular it.odometry).readDriveErr it.driveErr
  else s

/-- The first half of an iteration. Its bumper value is there once the velocity command is
answered. -/
def collect (s : Node) (it : Iteration) : Node :=
  let s := s.spinSome it.callbacks
  let s := s.smoothVelocity
  let s := s.exchange it
  s.mark (.read s.odometry.bumper)

/-- One iteration. -/
def iteration (s : Node) (it : Iteration) : Node :=
  let s := s.collect it
  let s := s.errorRecovery it.okRecoveryReset it.okRecoveryOn
  let s := s.bumperCheck it.okBumperServo it.okBumperReset
  s.mark (.done s.odometry.bumper)

/-- The node when the loop starts: `main` has reset the errors, set the acceleration, chosen
velocity mode, switched the servo on and reset the odometry. -/
def startUp : Node :=
  let s : Node := {}
  let s := s.send .setDriveErrReset true
  let s := s.send (.setParameter 6 50) true
  let s := s.send .setVelocityMode true
  let s := s.setServo 1 true
  s.send (.setOdometry 0 0 0) true

end Node

/-- The main loop. -/
def loop : Machine Node Iteration where
  init := Node.startUp
  step s it := some (s.iteration it)

end Tetra.Drive
