import Tetra.Service.Docking
import Tetra.Service.LocationFile
import Tetra.Service.Tag

/-!
# Requests, results and messages

The services of the docking machine and of navigation, the result callback of the action
client, and the subscriptions that write what they read. `Clear_Costmap`, which only calls two
other services, is left out.

Three conditions decide what a goto request does and have names here, so that results about
the handlers can be stated on the state before them: `gotoNormal`, `gotoReverse` and
`gotoNormal2`.
-/

namespace Tetra.Service

namespace Node

variable (p : Platform)

/-! ## Docking services -/

/-- `Docking_Command`. -/
def dockingCommand (s : Node) (id mode : Int) : Node × Bool :=
  ({ s with dockingId := id, dockingCommandMode := mode }, true)

/-- `Docking_Stop_Command`. -/
def dockingStopCommand (s : Node) : Node × Bool :=
  (s.dockingExitCall, true)

/-! ## Goto services -/

/-- The answer to `Goto_Location_Command`. -/
structure GotoLocationResponse where
  pose : GoalPose
  commandResult : Bool
  deriving DecidableEq

/-- "Nomal" of `Goto_Location_Command`: neither charging nor in front of the station. -/
def gotoNormal (s : Node) : Bool :=
  s.chargingStatus ≤ 1 && (s.arTagPose.aprilTagId = -1 || s.arTagPose.transformPoseX ≤ 0.5)

/-- `Goto_Location_Command` with the content of the file it opens. -/
def gotoLocationCommand (s : Node) (location : String) (file : Option (List Char))
    (ready : Bool) : Option (Node × GotoLocationResponse) := do
  let (s, _) ← s.openLocationFile p location file
  let pose := s.goalPose
  let s :=
    if s.gotoNormal then s.setGoal ready s.goalPose
    else { s with dockingCommandMode := 10 }
  let s := if location = "HOME" then { s with comebackHome := true } else s
  -- `bResult` is true again whatever the file was
  some (s, ⟨pose, true⟩)

/-- The charging station holds the robot: `Goto_Location2_Command` backs out first. -/
def gotoReverse (s : Node) : Bool := s.chargingStatus > 1

/-- "Nomal" of `Goto_Location2_Command`, when it does not back out. -/
def gotoNormal2 (s : Node) : Bool :=
  s.arTagPose.aprilTagId = -1 || s.arTagPose.transformPoseX ≥ 0.85

/-- The passes of the reverse loop. -/
def reverseLoop (s : Node) : Nat → Node
  | 0 => s
  | passes + 1 => reverseLoop (s.publishTwist (-0.2) 0) passes

/-- The reverse loop and the stop after it. With an obstacle behind the robot the loop never
ends, as no other callback runs meanwhile. -/
def reverseMove (s : Node) : Option Node :=
  if s.obstacleCygbot then none else some ((s.reverseLoop 30).publishTwist 0 0)

/-- What `Goto_Location2_Command` stores: all of the request but `pose_z`. -/
def storePose (s : Node) (pose : GoalPose) : Node :=
  { s with goalPose := { pose with positionZ := s.goalPose.positionZ } }

/-- `Goto_Location2_Command`. -/
def gotoLocation2Command (s : Node) (pose : GoalPose) (ready : Bool) : Option (Node × Bool) := do
  let s := s.storePose pose
  if s.gotoReverse then
    let s ← s.reverseMove
    -- the goal is read back from the store, without the `pose_z` of the request
    some (s.setGoal ready s.goalPose, true)
  else if s.gotoNormal2 then some (s.setGoal ready pose, true)
  else some ({ s with dockingCommandMode := 10 }, true)

/-- `Goto_Cancel_Command`. -/
def gotoCancelCommand (s : Node) (ready : Bool) : Node × Bool :=
  if !ready then (s, false) else (s.send .cancelAllGoals, true)

end Node

/-! ## Results -/

/-- `rclcpp_action::ResultCode`. -/
inductive ResultCode
  | unknown
  | succeeded
  | canceled
  | aborted
  deriving DecidableEq

/-- `ex_iRetry_Max_count`. -/
def retryMaxCount : Nat := 9999

namespace Node

variable (p : Platform)

/-- A result: `m_iMovebase_Result`, and the code on `movebase`. -/
def reportResult (s : Node) (result data : Int) : Node :=
  { s with movebaseResult := result }.send (.movebase data)

/-- `resultCallback`. The result does not say which goal it belongs to. -/
def resultCallback (s : Node) (code : ResultCode) (ready : Bool) : Node :=
  match code with
  | .succeeded =>
    let s := { s.reportResult 3 3 with retryCount := 0 }
    if s.comebackHome then
      { s with
        arTagPose.selectAprilTagId := p.homeId
        dockingCommandMode := 1
        comebackHome := false }
    else s
  | .aborted =>
    let s := s.reportResult 4 4
    if s.retryCount < retryMaxCount then
      -- the stored goal, whichever goal was aborted
      let s := s.setGoal ready s.goalPose
      { s with retryCount := s.retryCount + 1 }
    else { s with retryCount := 0 }
  | .canceled => { s.reportResult 1 1 with retryCount := 0 }
  | .unknown => s.reportResult 0 4

/-! ## Subscriptions -/

/-- `joyCallback`; a message with fewer than eight buttons is read out of range. -/
def joyCallback (s : Node) (buttons : List Int) : Option Node := do
  let lt ← buttons[6]?
  let rt ← buttons[7]?
  let s : Node :=
    if lt ≠ 0 then { s with dockingId := 0, dockingCommandMode := 1, dockingExit := false } else s
  let s : Node := if rt ≠ 0 then { s with dockingCommandMode := 0, dockingExit := true } else s
  some s

/-- `DockingStatusCallback`. -/
def dockingStatusCallback (s : Node) (data : Int) : Node := { s with chargingStatus := data }

/-- `cmd_vel_Callback`. -/
def cmdVelCallback (s : Node) (msg : Twist) : Node :=
  { s with linearVel := msg.linearX, angularVel := msg.angularZ }

/-- `Initialpose_Callback`. -/
def initialposeCallback (s : Node) : Node := { s with initialpose := true, nomotion := true }

/-- `AMCL_PaticleCloud_Callback`; the update it may ask AMCL for changes nothing here. -/
def amclParticleCloudCallback (s : Node) (particleCloudSize : Nat) : Node :=
  if particleCloudSize > 501 && s.linearVel = 0 && s.angularVel = 0 && s.initialpose then s
  else { s with initialpose := false, nomotion := false }

end Node

end Tetra.Service
