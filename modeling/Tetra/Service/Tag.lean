import Tetra.Service.Node

/-!
# Tag detections

`ApriltagCallback` and `Calc_Docking_Target_Pose`. Which transforms are available at the
moment of a call is an input. The `detected_dock_pose` message, which nothing in the node
reads, is left out.
-/

namespace Tetra.Service

/-- The TF buffer at one moment: the transform from a source frame to a target frame, if any. -/
abbrev TfBuffer := String → String → Option Transform

/-- `m_strFamily + to_string(id)`. -/
def tagFrame (id : Int) : String := "tag36h11:" ++ toString id

namespace Node

variable (p : Platform)

/-- `Calc_Docking_Target_Pose`: `none` where a lookup throws and it returns false. -/
def calcDockingTargetPose (s : Node) (tf : TfBuffer) (targetFrame : String) : Option Node := do
  let tagBase ← tf "base_link" targetFrame
  let camBase ← tf "base_link" "camera_color_optical_frame"
  some { s with
    arTagPose.transformOldPoseX := tagBase.x - camBase.x
    arTagPose.transformOldPoseY := -tagBase.y + p.dockingLateralOffset }

/-- The last stage of the callback, with the sign of the offset taken from the angle. -/
def setTransformPose (s : Node) : Node :=
  let oldX := s.arTagPose.transformOldPoseX
  let oldY := s.arTagPose.transformOldPoseY
  if s.arTagPose.positioningAngle > 0 then
    { s with
      arTagPose.transformPoseX := oldX
      arTagPose.transformPoseY := if oldY > 0 then oldY * -1 else oldY }
  else
    { s with
      arTagPose.transformPoseX := oldX
      arTagPose.transformPoseY := if oldY < 0 then oldY * -1 else oldY }

/-- `ApriltagCallback` on a message with these detected ids. -/
def apriltagCallback (s : Node) (detections : List Int) (tf : TfBuffer) : Node :=
  if detections ≠ [] then
    let s := detections.foldl (fun s id => { s with arTagPose.aprilTagId := id }) s
    let frame := tagFrame s.arTagPose.aprilTagId
    match tf "camera_color_optical_frame" frame with
    | none => s
    | some t =>
      let rpy := p.getRPY t.rotation
      let s := { s with
        arTagPose.aprilTagPoseX := t.x
        arTagPose.aprilTagPoseY := t.y
        arTagPose.aprilTagPoseZ := t.z
        arTagPose.aprilTagOrientation := t.rotation
        arTagPose.aprilTagRoll := rpy.roll
        arTagPose.aprilTagPitch := rpy.pitch
        arTagPose.aprilTagYaw := rpy.yaw
        arTagPose.positioningAngle := rpy.pitch }
      match s.calcDockingTargetPose p tf frame with
      | none => s
      | some s => s.setTransformPose
  else
    { s with
      arTagPose.aprilTagId := -1
      arTagPose.transformPoseX := 0
      arTagPose.transformPoseY := 0
      arTagPose.aprilTagPitch := 0
      arTagPose.aprilTagYaw := 0
      arTagPose.positioningAngle := 0 }

end Node

/-! ## A detection touches the tag record only -/

theorem calcDockingTargetPose_eq {p : Platform} {s s' : Node} {tf : TfBuffer} {frame : String}
    (h : s.calcDockingTargetPose p tf frame = some s') :
    s' = { s with arTagPose := s'.arTagPose } := by
  simp only [Node.calcDockingTargetPose, Option.bind_eq_bind, Option.bind_eq_some_iff] at h
  obtain ⟨_, _, _, _, hs⟩ := h
  rw [← Option.some.inj hs]

theorem setTransformPose_eq (s : Node) :
    s.setTransformPose = { s with arTagPose := s.setTransformPose.arTagPose } := by
  unfold Node.setTransformPose
  dsimp only
  split <;> rfl

theorem foldl_aprilTagId_eq (detections : List Int) :
    ∀ s : Node, ∃ tag,
      detections.foldl (fun s id => { s with arTagPose.aprilTagId := id }) s
        = { s with arTagPose := tag } := by
  induction detections with
  | nil => exact fun s => ⟨s.arTagPose, rfl⟩
  | cons id rest ih =>
    intro s
    obtain ⟨tag, h⟩ := ih { s with arTagPose.aprilTagId := id }
    exact ⟨tag, by rw [List.foldl_cons, h]⟩

/-- `ApriltagCallback` writes no global but `_pAR_tag_pose` and sends nothing. -/
theorem apriltagCallback_eq (p : Platform) (s : Node) (detections : List Int) (tf : TfBuffer) :
    ∃ tag, s.apriltagCallback p detections tf = { s with arTagPose := tag } := by
  unfold Node.apriltagCallback
  split
  · obtain ⟨tag, h⟩ := foldl_aprilTagId_eq detections s
    rw [h]
    dsimp only
    split
    · exact ⟨tag, rfl⟩
    · split
      · exact ⟨_, rfl⟩
      · next s' hc =>
        rw [setTransformPose_eq, calcDockingTargetPose_eq hc]
        exact ⟨_, rfl⟩
  · exact ⟨_, rfl⟩

end Tetra.Service
