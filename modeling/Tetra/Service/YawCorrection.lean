import Tetra.Service.DockingRun

/-!
# The end of the yaw correction

Step 3 turns until the yaw is within two thirds of a degree, or for 101 ticks. What it tests is the
copy that step 2 has made, and step 2 goes to step 3 only if that copy is more than one degree. So
in a run that has come through step 2 the test never succeeds, whatever the camera sees meanwhile
(`stopsTurning_iff`).
-/

namespace Tetra.Service

open Machine

variable {p : Platform}

/-- The marker is seen straight ahead, to the tolerance of step 3. -/
def Node.SeenStraight (s : Node) : Prop :=
  s.arTagPose.aprilTagPitch ≤ 0.0174533 / 1.5 ∧ s.arTagPose.aprilTagPitch ≥ -0.0174533 / 1.5

instance (s : Node) : Decidable s.SeenStraight := inferInstanceAs (Decidable (_ ∧ _))

/-- A tick in step 3 of such a run at which the marker is seen straight ahead. -/
def AlignedTick (w : World × RunRecord) : Event → Prop
  | .tick _ => w.2.Commanded ∧ w.1.node.dockingCommandMode = 3 ∧ w.1.node.SeenStraight
  | _ => False

/-- The machine goes on to step 4, and no rotation is published. -/
def StopsTurning (s s' : Node) : Prop :=
  s'.dockingCommandMode = 4 ∧ ∀ cmd, .twist cmd ∈ sentBetween s s' → cmd.angularZ = 0

/-- In step 3 the copy of the yaw is out of tolerance. -/
def YawOff (w : World × RunRecord) : Prop :=
  w.2.Commanded → w.1.node.dockingCommandMode = 3 → ¬ w.1.node.Turned

section Step

variable {s : Node} {w w' : World × RunRecord} {e : Event}

/-- The tolerance of step 2 is the larger one. -/
theorem straight_of_seenStraight (h : s.SeenStraight) : s.Straight :=
  ⟨h.1.trans (by decide +kernel), le_trans (by decide +kernel) h.2⟩

/-- Step 2 leads to step 3 with a yaw that is out of tolerance, and step 3 keeps it. -/
theorem turned_tick (hunset : Unset s) (ready : Bool)
    (hoff : s.dockingCommandMode = 3 → ¬ s.Turned)
    (h3 : (s.dockingThreadFunction p ready).dockingCommandMode = 3) :
    ¬ (s.dockingThreadFunction p ready).Turned := by
  have hbefore := (of_mem_nextModes (tick_mode (p := p) hunset ready)).2.2.1 h3
  simp only [List.mem_cons, List.not_mem_nil, or_false] at hbefore
  have hmoves := tick_moves (p := p) hunset ready (by omega)
  rcases hbefore with h2 | h
  · have hmode := hmoves.mode
    rw [h3, moves_of_search h2, Node.searches] at hmode
    split_ifs at hmode with hid hfar hstraight hlong <;> dsimp only at hmode
    · omega
    · omega
    · -- near the marker, and not straight ahead of it
      have hrecord := hmoves.record
      rw [Node.recorded, if_pos ⟨h2, hid, hfar⟩] at hrecord
      intro hturned
      rw [Node.Turned, hrecord] at hturned
      exact hstraight (straight_of_seenStraight hturned)
    · omega
    · omega
  · have hrecord := hmoves.record
    rw [Node.recorded, if_neg fun hnear => by omega] at hrecord
    have hyaw := congrArg ArTagPose.targetYaw hrecord
    rw [turned_congr hyaw]
    exact hoff h

theorem yawOff_step (hunset : Unset w.1.node) (hJ : YawOff w)
    (hs : (docking p).step w e = some w') : YawOff w' := by
  intro hcommanded h3
  obtain ⟨hnode', _⟩ := docking_step hs
  rcases docking_step_cases hs with ⟨ready, rfl, hnode, hrecord⟩ | ⟨start, hstart, _, hrecord⟩ |
    ⟨_, hpasses, hbetween, hrecord⟩
  · rw [RunRecord.Commanded, hrecord] at hcommanded
    rw [hnode] at h3 ⊢
    exact turned_tick hunset ready (hJ hcommanded) h3
  · -- mode 1 is not step 3
    rw [hrecord, commanded_start] at hcommanded
    exact absurd (h3.symm.trans (starts_byCommand hnode' hstart hcommanded)) (by decide)
  · rw [RunRecord.Commanded, hrecord] at hcommanded
    have hbefore := hpasses.mode_mem [3] (by decide) (by decide) (by simp [h3])
    rw [Node.Turned, hbetween.targetYaw]
    exact hJ hcommanded (List.mem_singleton.mp hbefore)

/-- With the copy out of tolerance step 3 does not lead to step 4. -/
theorem not_stopsTurning (hunset : Unset s) (ready : Bool) (h3 : s.dockingCommandMode = 3)
    (hoff : ¬ s.Turned) : ¬ StopsTurning s (s.dockingThreadFunction p ready) := by
  rintro ⟨h4, -⟩
  have hmode := (tick_moves (p := p) hunset ready (by omega)).mode
  rw [h4, moves_of_turn h3] at hmode
  rcases exits_mode s.dockingExit (s.turns p) with hexit | hexit
  · omega
  · rw [hexit, Node.turns, if_neg hoff] at hmode
    split at hmode <;> dsimp only at hmode <;> omega

end Step

/--
**In no run does a tick of step 3 that sees the marker straight ahead stop turning:** the steps of a
run behave as they should exactly if there is no such tick.
-/
theorem stopsTurning_iff {es : List Event} {w : World × RunRecord} :
    (docking p).RunWith
        (fun w e w' => AlignedTick w e → StopsTurning w.1.node w'.1.node) es w ↔
      (docking p).RunWith (fun w e _ => ¬ AlignedTick w e) es w := by
  refine runWith_congr (I := fun w => Unset w.1.node ∧ YawOff w)
    ⟨unset_docking_init, fun ⟨start, h, _⟩ => by simp [docking, recording] at h⟩
    (fun hI hs => ⟨unset_docking_step hI.1 hs, yawOff_step hI.1 hI.2 hs⟩)
    fun {w e w'} hI hs => ?_
  constructor
  · intro h haligned
    have hstops := h haligned
    cases e with
    | tick ready =>
      obtain ⟨hcommanded, h3, _⟩ := haligned
      rw [← Option.some.inj (docking_step hs).1] at hstops
      exact not_stopsTurning hI.1 ready h3 (hI.2 hcommanded h3) hstops
    | _ => exact haligned
  · exact fun hnot haligned => absurd haligned hnot

/-- Half a metre in front of the camera, the tag is turned away by a tenth. -/
def markerTurned : TfBuffer := fun target source => some
  (if target = "base_link" ∧ source = "camera_color_optical_frame" then ⟨0, 0, 0, {}⟩
    else ⟨1 / 2, 0, 0, ⟨0, 1 / 20, 0, 1⟩⟩)

/-- The example platform with the pitch of small turns about the second axis. -/
def turningPlatform : Platform := { examplePlatform with getRPY := fun q => ⟨0, 2 * q.y, 0⟩ }

/-- The robot has come to stand straight in front of the marker, and goes on turning. -/
theorem turns_when_straight :
    ∃ w, (docking turningPlatform).Run
        [.dockingCommand 0 1, .tick true, .detections [0] markerTurned, .tick true,
          .detections [0] markerClose] w ∧
      AlignedTick w (.tick true) ∧
      ∃ w' ∈ (docking turningPlatform).step w (.tick true),
        .twist ⟨-0.05, -0.28⟩ ∈ sentBetween w.1.node w'.1.node ∧
          ¬ StopsTurning w.1.node w'.1.node := by
  have hrun : ∃ w, (docking turningPlatform).Run
      [.dockingCommand 0 1, .tick true, .detections [0] markerTurned, .tick true,
        .detections [0] markerClose] w ∧
      w.2.start = some (.command 0 1) ∧ w.1.node.dockingCommandMode = 3 ∧ w.1.node.SeenStraight ∧
      ∃ w' ∈ (docking turningPlatform).step w (.tick true),
        .twist ⟨-0.05, -0.28⟩ ∈ sentBetween w.1.node w'.1.node ∧
          w'.1.node.dockingCommandMode = 3 :=
    run_of_exec_mem (by decide +kernel)
  obtain ⟨w, hr, hstart, h3, hseen, w', hw', htwist, hmode⟩ := hrun
  exact ⟨w, hr, ⟨⟨_, hstart, rfl⟩, h3, hseen⟩, w', hw', htwist,
    fun h => absurd (hmode.symm.trans h.1) (by decide)⟩

end Tetra.Service
