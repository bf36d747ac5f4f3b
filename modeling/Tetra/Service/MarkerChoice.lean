import Tetra.Service.MarkerTimeout

/-!
# The marker among several tags

`ApriltagCallback` goes through the detections and stores each id over the one before, without a
look at the id that docking wants. The steps 2 and 4 compare that one id. So the marker is found
among several tags if it comes last (`found_iff`).
-/

namespace Tetra.Service

open Machine

variable {p : Platform}

/-! ## What the steps say of the marker -/

/-- The step takes the marker to be missing: from some value of the counter on, it counts a miss. -/
def CountsMiss (step : Node → Node) (s : Node) : Prop :=
  ∃ cnt, (step { s with noMarkerCnt := cnt }).noMarkerCnt = cnt + 1

theorem countsMiss_tracking {s : Node} {k : Int} :
    CountsMiss (fun s => (s.chargingStationTracking p true k).1) s ↔
      s.arTagPose.aprilTagId ≠ k := by
  simp only [CountsMiss, chargingStationTracking_noMarkerCnt]
  constructor
  · rintro ⟨cnt, hcnt⟩ hid
    rw [if_pos hid] at hcnt
    split at hcnt <;> omega
  · intro hid
    exact ⟨0, by rw [if_neg hid, if_neg (by omega)]⟩

theorem countsMiss_tracking2 {s : Node} {k : Int} :
    CountsMiss (fun s => (s.chargingStationTracking2 p k).1) s ↔ s.arTagPose.aprilTagId ≠ k := by
  simp only [CountsMiss, chargingStationTracking2_noMarkerCnt]
  constructor
  · rintro ⟨cnt, hcnt⟩ hid
    rw [if_pos hid] at hcnt
    split at hcnt <;> omega
  · intro hid
    exact ⟨0, by rw [if_neg hid, if_neg (by omega)]⟩

/-! ## What the callback stores of the marker -/

/-- The three transforms of a tag are there. -/
def Available (tf : TfBuffer) (id : Int) : Prop :=
  (tf "camera_color_optical_frame" (tagFrame id)).isSome ∧ (tf "base_link" (tagFrame id)).isSome ∧
    (tf "base_link" "camera_color_optical_frame").isSome

/-- The pose in the frame of the camera is the one of tag `k` in this TF buffer. -/
def SeenAs (p : Platform) (t : ArTagPose) (k : Int) (tf : TfBuffer) : Prop :=
  ∃ pose, tf "camera_color_optical_frame" (tagFrame k) = some pose ∧
    t.aprilTagPoseX = pose.x ∧ t.aprilTagPoseY = pose.y ∧ t.aprilTagPoseZ = pose.z ∧
    t.aprilTagOrientation = pose.rotation ∧
    (⟨t.aprilTagRoll, t.aprilTagPitch, t.aprilTagYaw⟩ : Rpy) = p.getRPY pose.rotation ∧
    t.positioningAngle = (p.getRPY pose.rotation).pitch

/-- The pose in the frame of the robot, with the sign of its offset taken from the angle. -/
def Signed (t : ArTagPose) : Prop :=
  t.transformPoseX = t.transformOldPoseX ∧
    (t.transformPoseY = t.transformOldPoseY ∨ t.transformPoseY = t.transformOldPoseY * -1)

/-- Marker `k` is stored, with all its poses, and the steps that look for it do not miss it. -/
structure Found (p : Platform) (s : Node) (k : Int) (tf : TfBuffer) : Prop where
  id : s.arTagPose.aprilTagId = k
  camera : SeenAs p s.arTagPose k tf
  robot : ComputedFrom p s.arTagPose k tf
  signed : Signed s.arTagPose
  tracking : ¬ CountsMiss (fun s => (s.chargingStationTracking p true k).1) s
  tracking2 : ¬ CountsMiss (fun s => (s.chargingStationTracking2 p k).1) s

section Callback

variable {s : Node} {detections : List Int} {tf : TfBuffer} {k : Int}

/-- The last stage writes the signed pose only. -/
theorem SeenAs.setTransformPose (h : SeenAs p s.arTagPose k tf) :
    SeenAs p s.setTransformPose.arTagPose k tf := by
  obtain ⟨pose, hpose, hfields⟩ := h
  refine ⟨pose, hpose, ?_⟩
  unfold Node.setTransformPose
  dsimp only
  split <;> exact hfields

theorem signed_setTransformPose (s : Node) : Signed s.setTransformPose.arTagPose := by
  unfold Node.setTransformPose
  dsimp only
  split
  · refine ⟨rfl, ?_⟩
    dsimp only
    split
    · exact Or.inr rfl
    · exact Or.inl rfl
  · refine ⟨rfl, ?_⟩
    dsimp only
    split
    · exact Or.inr rfl
    · exact Or.inl rfl

/-- With the transforms of the last tag there, the callback gets to its last stage. -/
theorem apriltagCallback_of_available (hlast : detections.getLast? = some k)
    (hk : Available tf k) :
    ∃ s₁ : Node, s.apriltagCallback p detections tf = s₁.setTransformPose ∧
      SeenAs p s₁.arTagPose k tf := by
  obtain ⟨hcamera, htag, hcam⟩ := hk
  obtain ⟨pose, hpose⟩ := Option.isSome_iff_exists.mp hcamera
  obtain ⟨tagBase, htag⟩ := Option.isSome_iff_exists.mp htag
  obtain ⟨camBase, hcam⟩ := Option.isSome_iff_exists.mp hcam
  have hsome : detections ≠ [] := by
    rintro rfl
    simp at hlast
  unfold Node.apriltagCallback
  rw [if_pos hsome, foldl_aprilTagId, hlast]
  simp only [Option.getD_some, hpose, Node.calcDockingTargetPose, htag, hcam, Option.bind_eq_bind,
    Option.bind_some]
  exact ⟨_, rfl, pose, hpose, rfl, rfl, rfl, rfl, rfl, rfl⟩

theorem tracked_of_available (hlast : detections.getLast? = some k) (hk : Available tf k) :
    tracked detections tf = some k := by
  obtain ⟨hcamera, htag, hcam⟩ := hk
  obtain ⟨pose, hpose⟩ := Option.isSome_iff_exists.mp hcamera
  obtain ⟨tagBase, htag⟩ := Option.isSome_iff_exists.mp htag
  obtain ⟨camBase, hcam⟩ := Option.isSome_iff_exists.mp hcam
  simp [tracked, hlast, hpose, htag, hcam]

end Callback

/--
**A marker that is detected with all transforms available is found exactly if it is the last of the
detections.**
-/
theorem found_iff {s : Node} {detections : List Int} {tf : TfBuffer} {k : Int}
    (hk : k ∈ detections) (hall : ∀ id ∈ detections, Available tf id) :
    Found p (s.apriltagCallback p detections tf) k tf ↔ detections.getLast? = some k := by
  obtain ⟨hid, hpose, _⟩ := apriltagCallback_tag p s detections tf
  constructor
  · intro h
    obtain ⟨last, hlast⟩ : ∃ last, detections.getLast? = some last :=
      Option.isSome_iff_exists.mp (by simpa using List.ne_nil_of_mem hk)
    rw [hlast, Option.getD_some] at hid
    rw [hlast, ← hid, h.id]
  · intro hlast
    rw [hlast, Option.getD_some] at hid
    obtain ⟨s₁, hstage, hseen⟩ :=
      apriltagCallback_of_available (p := p) (s := s) hlast (hall k hk)
    exact ⟨hid, hstage ▸ hseen.setTransformPose,
      hpose k (tracked_of_available hlast (hall k hk)), hstage ▸ signed_setTransformPose s₁,
      fun hmiss => countsMiss_tracking.mp hmiss hid,
      fun hmiss => countsMiss_tracking2.mp hmiss hid⟩

theorem available_markerAhead (id : Int) : Available markerAhead id := ⟨rfl, rfl, rfl⟩

/-- The marker 0 comes after another tag. -/
theorem found_last : Found examplePlatform
    (({} : Node).apriltagCallback examplePlatform [1, 0] markerAhead) 0 markerAhead :=
  (found_iff (by decide) fun id _ => available_markerAhead id).mpr rfl

/-- Docking looks for marker 0, which is seen before another tag. -/
theorem lost_before_another_tag :
    ∃ w, (service examplePlatform).Run [.dockingCommand 0 1, .tick true] w ∧
      w.node.dockingCommandMode = 2 ∧ w.node.markerId = 0 ∧
      (0 : Int) ∈ [0, 1] ∧ (∀ id ∈ [0, 1], Available markerAhead id) ∧
      ¬ Found examplePlatform (w.node.apriltagCallback examplePlatform [0, 1] markerAhead) 0
        markerAhead := by
  have hrun : ∃ w, (service examplePlatform).Run [.dockingCommand 0 1, .tick true] w ∧
      w.node.dockingCommandMode = 2 ∧ w.node.markerId = 0 :=
    run_of_exec_mem (by decide +kernel)
  obtain ⟨w, hr, hmode, hid⟩ := hrun
  refine ⟨w, hr, hmode, hid, by decide, fun id _ => available_markerAhead id, fun h => ?_⟩
  have hlast := (apriltagCallback_tag examplePlatform w.node [0, 1] markerAhead).1
  exact absurd (h.id.symm.trans hlast) (by decide)

end Tetra.Service
