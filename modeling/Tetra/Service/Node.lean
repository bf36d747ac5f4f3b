import Tetra.Lib.EventLog
import Mathlib.Algebra.Order.Field.Rat

/-!
# The service node

State of the `tetra_service` node (`tetra_service/src/tetra_service.cpp`): the globals that
docking, tag detection and navigation share, the member `cmd`, and the messages sent so far.

All callbacks of the node are in one mutually exclusive callback group, so each of them is
one step on this state. Doubles are exact rationals; functions of the C library and of tf2
are parameters (`Platform`), so that nothing depends on how they round.
-/

namespace Tetra.Service

open EventLog

/-! ## Messages and records -/

/-- The two components of `geometry_msgs::msg::Twist` that the node ever writes. -/
structure Twist where
  linearX : ℚ := 0
  angularZ : ℚ := 0
  deriving DecidableEq

/-- `GOAL_POSE`. -/
structure GoalPose where
  positionX : ℚ := 0
  positionY : ℚ := 0
  positionZ : ℚ := 0
  quarterX : ℚ := 0
  quarterY : ℚ := 0
  quarterZ : ℚ := 0
  quarterW : ℚ := 1
  deriving DecidableEq

/-- `HOME_POSE`. -/
def homePose : GoalPose := ⟨-0.7, 0, 0, 0, 0, 0, 1⟩

structure Quaternion where
  x : ℚ := 0
  y : ℚ := 0
  z : ℚ := 0
  w : ℚ := 1
  deriving DecidableEq

structure Rpy where
  roll : ℚ
  pitch : ℚ
  yaw : ℚ
  deriving DecidableEq

/-- `geometry_msgs::msg::Transform`. -/
structure Transform where
  x : ℚ
  y : ℚ
  z : ℚ
  rotation : Quaternion
  deriving DecidableEq

/-- `AR_TAG_POSE`. -/
structure ArTagPose where
  selectAprilTagId : Int := 0
  aprilTagId : Int := -1
  aprilTagPoseX : ℚ := 0
  aprilTagPoseY : ℚ := 0
  aprilTagPoseZ : ℚ := 0
  aprilTagOrientation : Quaternion := {}
  aprilTagRoll : ℚ := 0
  aprilTagPitch : ℚ := 0
  aprilTagYaw : ℚ := 0
  transformOldPoseX : ℚ := 0
  transformOldPoseY : ℚ := 0
  transformPoseX : ℚ := 0
  transformPoseY : ℚ := 0
  positioningAngle : ℚ := 0
  targetYaw : ℚ := 0
  targetTheta : ℚ := 0
  deriving DecidableEq

/-- What the node sends: a Twist on `cmd_vel_manual`, a goal or a cancellation to the
navigation action server, a result code on `movebase`. -/
inductive Output
  | twist (cmd : Twist)
  | goal (pose : GoalPose)
  | cancelAllGoals
  | movebase (data : Int)
  deriving DecidableEq

/-- The C library, tf2, and the two parameters read when the node starts. -/
structure Platform where
  /-- The square root, rounded to a `float` as its callers do. -/
  sqrt : ℚ → ℚ
  atan2 : ℚ → ℚ → ℚ
  atof : List Char → ℚ
  /-- `tf2::Matrix3x3::getRPY` of a quaternion. -/
  getRPY : Quaternion → Rpy
  homeId : Int := 0
  dockingLateralOffset : ℚ := 0

/-! ## State -/

/-- The globals of `tetra_service.cpp`, the member `cmd`, and the messages sent so far. -/
structure Node where
  cmd : Twist := {}
  dockingCommandMode : Int := 0
  noMarkerCnt : Nat := 0
  rotationCnt : Nat := 0
  rotationMode : Nat := 0
  backCnt : Nat := 0
  retryCount : Nat := 0
  goalPose : GoalPose := {}
  arTagPose : ArTagPose := {}
  homeId : Int := 0
  dockingId : Int := 0
  /-- `_pRobot.m_bFalg_DockingExit`, which nothing sets. -/
  robotDockingExit : Bool := false
  chargingStatus : Int := 0
  movebaseResult : Int := 0
  comebackHome : Bool := false
  /-- `_pFlag_Value.m_bfalg_DockingExit`, which the joystick sets. -/
  dockingExit : Bool := false
  obstacleRight : Bool := false
  obstacleLeft : Bool := false
  obstacleCygbot : Bool := false
  initialpose : Bool := false
  nomotion : Bool := true
  linearVel : ℚ := 0
  angularVel : ℚ := 0
  log : List Output := []

namespace Node

/-- `cmd_vel_publisher->publish(cmd)`. -/
def publishCmd (s : Node) : Node := { s with log := s.log ++ [.twist s.cmd] }

/-- Both components of `cmd` are set, then it is published. -/
def publishTwist (s : Node) (linearX angularZ : ℚ) : Node :=
  { s with cmd := ⟨linearX, angularZ⟩ }.publishCmd

/-- Any other message. -/
def send (s : Node) (output : Output) : Node := { s with log := s.log ++ [output] }

end Node

/-! ## What has been sent -/

def Output.twist? : Output → Option Twist
  | .twist cmd => some cmd
  | _ => none

def Output.goal? : Output → Option GoalPose
  | .goal pose => some pose
  | _ => none

/-- The last Twist the drive node got from this node. -/
def Node.lastTwist (s : Node) : Option Twist := lastOf Output.twist? s.log

/-- The navigation goals sent so far. -/
def Node.goals (s : Node) : List GoalPose := s.log.filterMap Output.goal?

/-- The messages sent between `s` and a later `s'`. -/
def sentBetween (s s' : Node) : List Output := s'.log.drop s.log.length

theorem sentBetween_of_append {s s' : Node} {new : List Output} (h : s'.log = s.log ++ new) :
    sentBetween s s' = new := by
  simp [sentBetween, h]

section Sent

variable (s : Node)

@[simp] theorem publishCmd_log : s.publishCmd.log = s.log ++ [.twist s.cmd] := rfl

@[simp] theorem publishTwist_log (l a : ℚ) :
    (s.publishTwist l a).log = s.log ++ [.twist ⟨l, a⟩] := rfl

@[simp] theorem send_log (output : Output) : (s.send output).log = s.log ++ [output] := rfl

@[simp] theorem lastTwist_publishCmd : s.publishCmd.lastTwist = some s.cmd := by
  simp [Node.lastTwist, Output.twist?]

@[simp] theorem lastTwist_publishTwist (l a : ℚ) :
    (s.publishTwist l a).lastTwist = some ⟨l, a⟩ := by
  simp [Node.lastTwist, Output.twist?]

theorem lastTwist_send {output : Output} (h : output.twist? = none) :
    (s.send output).lastTwist = s.lastTwist := by
  simp [Node.lastTwist, h]

@[simp] theorem goals_publishCmd : s.publishCmd.goals = s.goals := by
  simp [Node.goals, Output.goal?]

@[simp] theorem goals_publishTwist (l a : ℚ) : (s.publishTwist l a).goals = s.goals := by
  simp [Node.goals, Output.goal?]

@[simp] theorem goals_send_goal (pose : GoalPose) :
    (s.send (.goal pose)).goals = s.goals ++ [pose] := by
  simp [Node.goals, Output.goal?]

theorem goals_send {output : Output} (h : output.goal? = none) :
    (s.send output).goals = s.goals := by
  simp [Node.goals, h]

end Sent

end Tetra.Service
