import Tetra.Service.Motion

/-!
# The tag record

`_pAR_tag_pose` is filled by `ApriltagCallback` alone, in stages: first the id of the last
detection, then the pose in the camera frame if that transform is there, then the pose in the
frame of the robot if the two transforms for it are. Each stage that fails ends the callback and
leaves what the later ones write as it was, under the new id.

`Traced` is the node with a record of the tag that the robot-frame pose was computed from.
`belongs_iff` says when this is the tag whose id is stored.
-/

namespace Tetra.Service

open Machine

/-! ## What nothing but a message writes -/

/-- The record without the fields that other callbacks write. -/
def ArTagPose.detected (t : ArTagPose) : ArTagPose :=
  { t with selectAprilTagId := 0, targetYaw := 0, targetTheta := 0 }

/-- What the node hears, and the flags that nothing in the source writes. -/
structure Heard where
  record : ArTagPose
  chargingStatus : Int
  robotDockingExit : Bool
  obstacleRight : Bool
  obstacleLeft : Bool
  obstacleCygbot : Bool
  deriving DecidableEq

def Node.heard (s : Node) : Heard :=
  ⟨s.arTagPose.detected, s.chargingStatus, s.robotDockingExit, s.obstacleRight, s.obstacleLeft,
    s.obstacleCygbot⟩

section Tick

variable (p : Platform) (s : Node)

theorem follow_heard (gain : ℚ) :
    (s.follow p gain).1.heard = s.heard := by
  unfold Node.follow
  dsimp only
  split_ifs <;> rfl

theorem rotationMovement_heard :
    s.rotationMovement.1.heard = s.heard := by
  unfold Node.rotationMovement
  dsimp only
  split_ifs <;> rfl

theorem chargingStationTracking_heard (bOn : Bool) (markerId : Int) :
    (s.chargingStationTracking p bOn markerId).1.heard = s.heard := by
  unfold Node.chargingStationTracking
  dsimp only
  split_ifs
  · exact follow_heard p s 0.15
  · rfl
  · rfl
  · exact rotationMovement_heard s
  · exact rotationMovement_heard s
  · rfl

theorem chargingStationYawTracking_heard :
    (s.chargingStationYawTracking p).1.heard = s.heard := by
  unfold Node.chargingStationYawTracking Node.yawRotation
  dsimp only
  split_ifs <;> rfl

theorem chargingStationBackStep_heard :
    (s.chargingStationBackStep p).1.heard = s.heard := by
  unfold Node.chargingStationBackStep
  dsimp only
  split_ifs <;> rfl

theorem chargingStationTracking2_heard (markerId : Int) :
    (s.chargingStationTracking2 p markerId).1.heard = s.heard := by
  unfold Node.chargingStationTracking2
  dsimp only
  split_ifs
  · exact follow_heard p s 0.1
  · rfl
  · rfl
  · rfl

theorem departStation2Move_heard (ready : Bool) :
    (s.departStation2Move ready).1.heard = s.heard := by
  unfold Node.departStation2Move
  dsimp only
  split_ifs
  · rfl
  · rfl
  · rw [setGoal_eq]
    rfl

theorem exitIf_heard (exit : Bool) :
    (s.exitIf exit).heard = s.heard := by
  cases exit <;> rfl

/-- A tick reads these fields, and writes none of them. -/
theorem tick_heard (ready : Bool) :
    (s.dockingThreadFunction p ready).heard = s.heard := by
  unfold Node.dockingThreadFunction
  split
  · rfl
  · exact (exitIf_heard _ _).trans (chargingStationTracking_heard p _ true _)
  · exact (exitIf_heard _ _).trans (chargingStationYawTracking_heard p s)
  · exact (exitIf_heard _ _).trans (chargingStationTracking2_heard p s _)
  · rfl
  · rfl
  · exact departStation2Move_heard s ready
  · exact chargingStationBackStep_heard p s
  · rfl

end Tick

/-- A callback other than `ApriltagCallback` and `DockingStatusCallback`. -/
theorem step_heard {p : Platform} {s s' : Node} {e : Event} (h : s.step p e = some s')
    (he : ∀ ids tf, e ≠ .detections ids tf) (hstatus : ∀ data, e ≠ .dockingStatus data) :
    s'.heard = s.heard := by
  cases e with
  | tick ready =>
    rw [← Option.some.inj h]
    exact tick_heard p s ready
  | detections ids tf => exact absurd rfl (he ids tf)
  | dockingStatus data => exact absurd rfl (hstatus data)
  | joy buttons =>
    obtain ⟨_, _, _, _, rfl⟩ := joyCallback_eq h
    rfl
  | particleCloud size =>
    obtain ⟨_, _, hs⟩ := amclParticleCloudCallback_eq s size
    rw [← Option.some.inj h, hs]
    rfl
  | gotoLocation location file ready =>
    obtain ⟨⟨s₁, response⟩, hcmd, rfl⟩ := Option.map_eq_some_iff.mp h
    rw [(gotoLocationCommand_eq hcmd).2]
    rfl
  | gotoLocation2 pose ready =>
    obtain ⟨⟨s₁, commandResult⟩, hcmd, rfl⟩ := Option.map_eq_some_iff.mp h
    obtain ⟨_, _, _, _, _, rfl⟩ := gotoLocation2Command_eq hcmd
    rfl
  | gotoCancel ready =>
    rw [← Option.some.inj h]
    cases ready <;> rfl
  | result goal code ready =>
    rw [← Option.some.inj h]
    obtain ⟨_, _, _, _, _, _, hs⟩ := resultCallback_eq p s ready code
    rw [hs]
    rfl
  | cmdVel | initialpose | dockingCommand | dockingStop =>
    rw [← Option.some.inj h]
    rfl

/-- A callback other than `ApriltagCallback` writes no field of the record that this one writes. -/
theorem step_detected {p : Platform} {s s' : Node} {e : Event} (h : s.step p e = some s')
    (he : ∀ ids tf, e ≠ .detections ids tf) : s'.arTagPose.detected = s.arTagPose.detected := by
  by_cases hstatus : ∃ data, e = .dockingStatus data
  · obtain ⟨data, rfl⟩ := hstatus
    rw [← Option.some.inj h]
    rfl
  · have hheard := step_heard h he fun data hdata => hstatus ⟨data, hdata⟩
    exact congrArg Heard.record hheard

/-! ## What a detection writes -/

/-- The tag a detection gets all three transforms of. -/
def tracked (detections : List Int) (tf : TfBuffer) : Option Int := do
  let id ← detections.getLast?
  let _ ← tf "camera_color_optical_frame" (tagFrame id)
  let _ ← tf "base_link" (tagFrame id)
  let _ ← tf "base_link" "camera_color_optical_frame"
  some id

/-- The robot-frame pose is the one of tag `k` in this TF buffer. -/
def ComputedFrom (p : Platform) (t : ArTagPose) (k : Int) (tf : TfBuffer) : Prop :=
  ∃ tagBase camBase, tf "base_link" (tagFrame k) = some tagBase ∧
    tf "base_link" "camera_color_optical_frame" = some camBase ∧
    t.transformOldPoseX = tagBase.x - camBase.x ∧
    t.transformOldPoseY = -tagBase.y + p.dockingLateralOffset

/-- The loop over the detections leaves the last id. -/
theorem foldl_aprilTagId (detections : List Int) : ∀ s : Node,
    detections.foldl (fun s id => { s with arTagPose.aprilTagId := id }) s =
      { s with arTagPose.aprilTagId := detections.getLast?.getD s.arTagPose.aprilTagId } := by
  induction detections with
  | nil => exact fun s => rfl
  | cons id rest ih =>
    intro s
    rw [List.foldl_cons, ih, List.getLast?_cons, Option.getD_some]

theorem setTransformPose_tag (s : Node) :
    s.setTransformPose.arTagPose.aprilTagId = s.arTagPose.aprilTagId ∧
      s.setTransformPose.arTagPose.transformOldPoseX = s.arTagPose.transformOldPoseX ∧
      s.setTransformPose.arTagPose.transformOldPoseY = s.arTagPose.transformOldPoseY := by
  unfold Node.setTransformPose
  dsimp only
  split <;> exact ⟨rfl, rfl, rfl⟩

/-- **The id is that of the last detection, whatever the transforms are. The robot-frame pose is
that of the tag whose three transforms are there, or the old one.** -/
theorem apriltagCallback_tag (p : Platform) (s : Node) (detections : List Int) (tf : TfBuffer) :
    (s.apriltagCallback p detections tf).arTagPose.aprilTagId = detections.getLast?.getD (-1) ∧
      (∀ k, tracked detections tf = some k →
        ComputedFrom p (s.apriltagCallback p detections tf).arTagPose k tf) ∧
      (tracked detections tf = none →
        (s.apriltagCallback p detections tf).arTagPose.transformOldPoseX =
            s.arTagPose.transformOldPoseX ∧
          (s.apriltagCallback p detections tf).arTagPose.transformOldPoseY =
            s.arTagPose.transformOldPoseY) := by
  unfold Node.apriltagCallback
  rcases List.eq_nil_or_concat detections with rfl | ⟨front, id, rfl⟩
  · exact ⟨rfl, fun k h => by simp [tracked] at h, fun _ => ⟨rfl, rfl⟩⟩
  · rw [List.concat_eq_append, if_pos (by simp), foldl_aprilTagId]
    simp only [List.getLast?_append, List.getLast?_singleton, Option.some_or, Option.getD_some,
      tracked, Option.bind_eq_bind, Option.bind_some]
    cases hcamera : tf "camera_color_optical_frame" (tagFrame id) with
    | none => exact ⟨rfl, fun k h => by simp at h, fun _ => ⟨rfl, rfl⟩⟩
    | some t =>
      cases htag : tf "base_link" (tagFrame id) with
      | none => simp [Node.calcDockingTargetPose, htag]
      | some tagBase =>
        cases hcam : tf "base_link" "camera_color_optical_frame" with
        | none => simp [Node.calcDockingTargetPose, htag, hcam]
        | some camBase =>
          simp only [Node.calcDockingTargetPose, htag, hcam, Option.bind_eq_bind,
            Option.bind_some]
          obtain ⟨hid, hx, hy⟩ := setTransformPose_tag _
          refine ⟨hid, ?_, fun h => by simp at h⟩
          intro k h
          obtain rfl : id = k := by simpa using h
          exact ⟨tagBase, camBase, htag, hcam, hx, hy⟩

/-! ## The node and where its pose is from -/

/-- The node, with the tag and the TF buffer that the robot-frame pose was computed from. -/
structure Traced where
  node : Node := {}
  origin : Option (Int × TfBuffer) := none

/-- Where the pose is from after a callback. -/
def Event.origin? : Event → Option (Int × TfBuffer)
  | .detections ids tf => (tracked ids tf).map fun k => (k, tf)
  | _ => none

def traced (p : Platform) : Machine Traced Event where
  init := {}
  step w e := (w.node.step p e).map fun s' => ⟨s', e.origin?.or w.origin⟩

theorem traced_step {p : Platform} {w w' : Traced} {e : Event} :
    (traced p).step w e = some w' ↔
      ∃ s', w.node.step p e = some s' ∧ w' = ⟨s', e.origin?.or w.origin⟩ := by
  simp only [traced, Option.map_eq_some_iff]
  exact exists_congr fun s' => and_congr_right fun _ => eq_comm

section Traced

variable {p : Platform} {w w' : Traced} {e : Event}

/-- The recorded origin is the right one. -/
def OriginSound (p : Platform) (w : Traced) : Prop :=
  ∀ k tf, w.origin = some (k, tf) → ComputedFrom p w.node.arTagPose k tf

theorem ComputedFrom.of_detected {t t' : ArTagPose} {k : Int} {tf : TfBuffer}
    (h : ComputedFrom p t k tf) (hx : t'.transformOldPoseX = t.transformOldPoseX)
    (hy : t'.transformOldPoseY = t.transformOldPoseY) : ComputedFrom p t' k tf := by
  obtain ⟨tagBase, camBase, htag, hcam, hx', hy'⟩ := h
  exact ⟨tagBase, camBase, htag, hcam, hx.trans hx', hy.trans hy'⟩

/-- The fields of a record that a callback other than a detection leaves alone. -/
theorem step_tag {s s' : Node} (h : s.step p e = some s')
    (he : ∀ ids tf, e ≠ .detections ids tf) :
    s'.arTagPose.aprilTagId = s.arTagPose.aprilTagId ∧
      s'.arTagPose.transformOldPoseX = s.arTagPose.transformOldPoseX ∧
      s'.arTagPose.transformOldPoseY = s.arTagPose.transformOldPoseY := by
  have hsame := step_detected h he
  refine ⟨?_, ?_, ?_⟩
  · show s'.arTagPose.detected.aprilTagId = s.arTagPose.detected.aprilTagId
    rw [hsame]
  · show s'.arTagPose.detected.transformOldPoseX = s.arTagPose.detected.transformOldPoseX
    rw [hsame]
  · show s'.arTagPose.detected.transformOldPoseY = s.arTagPose.detected.transformOldPoseY
    rw [hsame]

/-- A callback other than a detection leaves the origin alone. -/
theorem origin?_of_other (he : ∀ ids tf, e ≠ .detections ids tf) : e.origin? = none := by
  cases e with
  | detections ids tf => exact absurd rfl (he ids tf)
  | _ => rfl

theorem originSound_step (hI : OriginSound p w) (hs : (traced p).step w e = some w') :
    OriginSound p w' := by
  obtain ⟨s', hnode, rfl⟩ := traced_step.mp hs
  intro k tf' horigin
  by_cases he : ∃ ids tf, e = .detections ids tf
  · obtain ⟨ids, tf, rfl⟩ := he
    obtain rfl := Option.some.inj hnode
    obtain ⟨_, hsome, hnone⟩ := apriltagCallback_tag p w.node ids tf
    cases htracked : tracked ids tf with
    | some id =>
      simp only [Event.origin?, htracked, Option.map_some, Option.some_or, Option.some.injEq,
        Prod.mk.injEq] at horigin
      obtain ⟨rfl, rfl⟩ := horigin
      exact hsome id htracked
    | none =>
      simp only [Event.origin?, htracked, Option.map_none, Option.none_or] at horigin
      obtain ⟨hx, hy⟩ := hnone htracked
      exact (hI k tf' horigin).of_detected hx hy
  · have hother : ∀ ids tf, e ≠ .detections ids tf := fun ids tf h => he ⟨ids, tf, h⟩
    rw [origin?_of_other hother, Option.none_or] at horigin
    obtain ⟨_, hx, hy⟩ := step_tag hnode hother
    exact (hI k tf' horigin).of_detected hx hy

/-- The stored pose is from the tag whose id is stored. -/
def Belongs (w : Traced) : Prop :=
  ∀ k, w.node.arTagPose.aprilTagId = k → k ≠ -1 → ∃ tf, w.origin = some (k, tf)

/-- A detection gets all transforms of its last tag, unless the stored pose is from this tag
already. -/
def Completes (w : Traced) : Event → Prop
  | .detections ids tf => ∀ k, ids.getLast? = some k → k ≠ -1 →
      tracked ids tf = some k ∨ ∃ tf, w.origin = some (k, tf)
  | _ => True

theorem tracked_getLast? {ids : List Int} {tf : TfBuffer} {k : Int}
    (h : tracked ids tf = some k) : ids.getLast? = some k := by
  simp only [tracked, Option.bind_eq_bind, Option.bind_eq_some_iff] at h
  obtain ⟨id, hid, _, _, _, _, _, _, hk⟩ := h
  rw [hid, hk]

theorem belongs_step (hJ : Belongs w) (hs : (traced p).step w e = some w') :
    Belongs w' ↔ Completes w e := by
  obtain ⟨s', hnode, rfl⟩ := traced_step.mp hs
  by_cases he : ∃ ids tf, e = .detections ids tf
  · obtain ⟨ids, tf, rfl⟩ := he
    obtain rfl := Option.some.inj hnode
    have hid := (apriltagCallback_tag p w.node ids tf).1
    -- both sides speak of the last id, and of nothing if there is none
    cases hlast : ids.getLast? with
    | none =>
      rw [hlast, Option.getD_none] at hid
      refine iff_of_true (fun k hk hne => ?_) fun k hk => by simp [hlast] at hk
      exact absurd (hk.symm.trans hid) hne
    | some id =>
      rw [hlast, Option.getD_some] at hid
      have horigin : ∀ k, k = id → ((∃ tf', (Event.detections ids tf).origin?.or w.origin =
          some (k, tf')) ↔ tracked ids tf = some k ∨ ∃ tf', w.origin = some (k, tf')) := by
        rintro k rfl
        cases htracked : tracked ids tf with
        | none => simp [Event.origin?, htracked]
        | some id' =>
          obtain rfl : k = id' := Option.some.inj (hlast.symm.trans (tracked_getLast? htracked))
          simp [Event.origin?, htracked]
      constructor
      · intro h k hk hne
        obtain rfl : id = k := Option.some.inj (hlast.symm.trans hk)
        exact (horigin id rfl).mp (h id hid hne)
      · intro h k hk hne
        obtain rfl : id = k := hid.symm.trans hk
        exact (horigin id rfl).mpr (h id hlast hne)
  · have hother : ∀ ids tf, e ≠ .detections ids tf := fun ids tf h => he ⟨ids, tf, h⟩
    have hcompletes : Completes w e := by
      cases e with
      | detections ids tf => exact absurd rfl (hother ids tf)
      | _ => trivial
    refine iff_of_true (fun k hk hne => ?_) hcompletes
    rw [origin?_of_other hother, Option.none_or]
    exact hJ k ((step_tag hnode hother).1.symm.trans hk) hne

end Traced

/-- **In a run of the node the recorded origin is the right one.** -/
theorem originSound_run {p : Platform} {es : List Event} {w : Traced} (hr : (traced p).Run es w) :
    OriginSound p w := by
  refine hr.invariant ?_ fun hI hs _ => originSound_step hI hs
  intro k tf h
  simp [traced] at h

/--
**The pose belongs to the stored id all along a run exactly if each detection gets the three
transforms of its last tag, or the pose is from this tag already.**
-/
theorem belongs_iff {p : Platform} {es : List Event} {w : Traced} :
    (traced p).RunWith (fun _ _ w' => OriginSound p w' ∧ Belongs w') es w ↔
      (traced p).RunWith (fun w e _ => Completes w e) es w := by
  refine runWith_invariant_iff (I := OriginSound p) (J := fun w => OriginSound p w ∧ Belongs w)
    ?_ originSound_step ?_ fun hI hJ hs => ?_
  · exact originSound_run .init
  · exact ⟨originSound_run .init, fun k hk hne => absurd hk.symm hne⟩
  · rw [← belongs_step hJ.2 hs]
    exact and_iff_right (originSound_step hI hs)

/-- Tag 1 is seen after tag 0, before TF has a transform of it. -/
def noSecondMarker : TfBuffer := fun target source =>
  if source = tagFrame 1 then none else markerAhead target source

/-- Tag 1 is stored with the pose of tag 0. -/
theorem pose_of_another_tag :
    ∃ w, (traced examplePlatform).Run
        [.detections [0] markerAhead, .detections [1] noSecondMarker] w ∧
      w.node.arTagPose.aprilTagId = 1 ∧ w.node.arTagPose.transformOldPoseX = 1 ∧
      ¬ Belongs w := by
  have hstale : ∃ w, (traced examplePlatform).Run
      [.detections [0] markerAhead, .detections [1] noSecondMarker] w ∧
      w.node.arTagPose.aprilTagId = 1 ∧ w.node.arTagPose.transformOldPoseX = 1 ∧
      w.origin.map (·.1) = some 0 :=
    run_of_exec_mem (by decide +kernel)
  obtain ⟨w, hr, hid, hx, horigin⟩ := hstale
  refine ⟨w, hr, hid, hx, ?_⟩
  intro h
  obtain ⟨tf, htf⟩ := h 1 hid (by decide)
  simp [htf] at horigin

end Tetra.Service
