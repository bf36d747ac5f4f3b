import Tetra.Service.Node

/-!
# The docking machine

`DockingThread_function` and the steps it calls, one tick of the 10 ms docking timer.
`m_iDocking_CommandMode` is the state of the machine: 0 is idle, 2, 3, 31 and 4 are the approach
to the charging station, 8 and 9 its two ends, 10 is the departure from the station, at whose
end the stored navigation goal is sent. The remaining modes of the source do nothing.
-/

namespace Tetra.Service

namespace Node

variable (p : Platform)

/-! ## Navigation goals -/

/-- `Set_goal`: nothing is sent when the action server is not ready. -/
def setGoal (s : Node) (ready : Bool) (pose : GoalPose) : Node :=
  if !ready then s else s.send (.goal pose)

/-- The station is still within reach and its tag in sight. -/
def nearStation (s : Node) : Bool :=
  s.arTagPose.transformPoseX ≤ 0.85 && s.arTagPose.aprilTagId ≠ -1

/-- `Depart_Station2Move`. -/
def departStation2Move (s : Node) (ready : Bool) : Node × Bool :=
  if s.nearStation then
    if s.obstacleCygbot || s.initialpose then (s.publishTwist 0 0, false)
    else (s.publishTwist (-0.05) 0, false)
  else
    let s := s.publishTwist 0 0
    let s := s.setGoal ready s.goalPose
    ({ s with dockingCommandMode := 0 }, true)

/-! ## Approach -/

/-- The switch at the end of `Rotation_Movement`. -/
def rotationSpeed (rotationMode : Nat) : ℚ :=
  match rotationMode with
  | 0 => 0.1
  | 1 => -0.1
  | 2 => 0.1
  | _ => 0.1

/-- `Rotation_Movement`. -/
def rotationMovement (s : Node) : Node × ℚ :=
  let s :=
    if s.obstacleRight then { s with rotationMode := 1 }
    else if s.obstacleLeft then { s with rotationMode := 2 }
    else s
  (s, rotationSpeed s.rotationMode)

/-- `Docking_EXIT`. -/
def dockingExitCall (s : Node) : Node :=
  { s.publishTwist 0 0 with dockingCommandMode := 0 }

/-- `m_fdistance`. -/
def tagDistance (s : Node) : ℚ :=
  p.sqrt (s.arTagPose.transformOldPoseX * s.arTagPose.transformOldPoseX
    + s.arTagPose.transformOldPoseY * s.arTagPose.transformOldPoseY)

/-- The angular velocity towards the tag. -/
def tagBearing (s : Node) : ℚ :=
  -1.0 * p.atan2 s.arTagPose.transformOldPoseY s.arTagPose.transformOldPoseX / 1.25

/-- The approach at `gain`, which the two over-speed exits leave without publishing. -/
def follow (s : Node) (gain : ℚ) : Node × Bool :=
  let s := { s with cmd.linearX := 1.0 * (s.tagDistance p / 1.2) * gain }
  if s.cmd.linearX > 1.0 then ({ s with cmd := ⟨0, 0⟩ }, false)
  else
    let s := { s with cmd.angularZ := s.tagBearing p }
    if s.cmd.angularZ > 1.0 || s.cmd.angularZ < -1.0 then ({ s with cmd := ⟨0, 0⟩ }, false)
    else (s.publishCmd, true)

/-- `ChargingStation_tracking`. -/
def chargingStationTracking (s : Node) (bOn : Bool) (markerId : Int) : Node × Bool :=
  if bOn then
    if s.arTagPose.aprilTagId = markerId then
      if s.tagDistance p > 0.65 then s.follow p 0.15
      else
        let s := { s with cmd.linearX := 0 }
        let s := s.publishCmd
        let s : Node := { s with
          arTagPose.targetYaw := s.arTagPose.aprilTagPitch
          arTagPose.targetTheta := s.arTagPose.positioningAngle }
        let s : Node :=
          if s.arTagPose.targetYaw ≤ 0.0174533 && s.arTagPose.targetYaw ≥ -0.0174533 then
            { s with dockingCommandMode := 4 }
          else { s with dockingCommandMode := 3 }
        ({ s with noMarkerCnt := 0 }, true)
    else
      -- only one component is set: `linear.x` is what the step before left in `cmd`
      let (s, speed) := s.rotationMovement
      let s := { s with cmd.angularZ := speed }
      let s := s.publishCmd
      if s.noMarkerCnt > 8000 then
        let s := { s with noMarkerCnt := 0 }
        let s := s.publishTwist 0 0
        ({ s with dockingCommandMode := 9 }, true)
      else ({ s with noMarkerCnt := s.noMarkerCnt + 1 }, true)
  else ({ s.publishTwist 0 0 with dockingCommandMode := 0 }, true)

/-- The rotation of `ChargingStation_Yaw_tracking`, the same in both directions. -/
def yawRotation (s : Node) : Node :=
  if s.rotationCnt ≤ 100 then
    if s.obstacleCygbot then s.publishTwist 0 0
    else
      let s := s.publishTwist (-1.0 * s.tagDistance p * 0.1) (-1.0 * s.arTagPose.targetYaw * 2.8)
      { s with rotationCnt := s.rotationCnt + 1 }
  else { s with rotationCnt := 0, dockingCommandMode := 31 }

/-- `ChargingStation_Yaw_tracking`. -/
def chargingStationYawTracking (s : Node) : Node × Bool :=
  if s.arTagPose.targetYaw ≤ 0.0174533 / 1.5 && s.arTagPose.targetYaw ≥ -0.0174533 / 1.5 then
    ({ s with dockingCommandMode := 4 }, true)
  else if s.arTagPose.targetYaw > 0 then ({ s.yawRotation p with rotationMode := 2 }, true)
  else ({ s.yawRotation p with rotationMode := 1 }, true)

/-- `ChargingStation_back_step`. -/
def chargingStationBackStep (s : Node) : Node × Bool :=
  if s.backCnt < 200 then
    if s.obstacleCygbot then (s.publishTwist 0 0, true)
    else
      let s := s.publishTwist (-1.0 * s.tagDistance p * 0.2) 0
      ({ s with backCnt := s.backCnt + 1 }, true)
  else
    let s := s.publishTwist 0 0
    ({ s with backCnt := 0, dockingCommandMode := 2 }, true)

/-- `ChargingStation_tracking2`. -/
def chargingStationTracking2 (s : Node) (markerId : Int) : Node × Bool :=
  if s.arTagPose.aprilTagId = markerId then
    if s.chargingStatus < 2 then s.follow p 0.1
    else
      let s := s.publishTwist 0 0
      ({ s with dockingCommandMode := 8, noMarkerCnt := 0 }, true)
  else
    let s := s.publishTwist 0 0
    if s.noMarkerCnt ≥ 10 then ({ s with noMarkerCnt := 0, dockingCommandMode := 8 }, true)
    else ({ s with noMarkerCnt := s.noMarkerCnt + 1 }, true)

/-! ## One tick -/

/-- The end of steps 2, 3 and 4. -/
def exitIf (s : Node) (exit : Bool) : Node :=
  if exit then { s.dockingExitCall with dockingCommandMode := 0 } else s

/-- `DockingThread_function`; `ready` is the state of the action server at this moment. -/
def dockingThreadFunction (s : Node) (ready : Bool) : Node :=
  match s.dockingCommandMode with
  | 1 => { s with dockingCommandMode := 2 }
  | 2 =>
    let s := { s with homeId := s.dockingId }
    let s := (s.chargingStationTracking p true s.homeId).1
    s.exitIf s.robotDockingExit
  | 3 =>
    let s := (s.chargingStationYawTracking p).1
    s.exitIf s.dockingExit
  | 4 =>
    let s := (s.chargingStationTracking2 p s.homeId).1
    s.exitIf s.dockingExit
  | 8 => { s with dockingCommandMode := 0 }
  | 9 => { s with dockingCommandMode := 0 }
  | 10 => (s.departStation2Move ready).1
  | 31 => (s.chargingStationBackStep p).1
  | _ => s

end Node

end Tetra.Service
