import Tetra.Service.System

/-!
# The robot stands still when it should

The drive node repeats the last Twist it got, so the docking machine has to end each motion
it starts. Two moments at which it may not:

* mode 0 (`idle_iff`): the machine gets there with the robot stopped, except through the joystick,
  a `Docking_Command`, or the modes 8 and 9 entered by a `Docking_Command`;
* the search for the marker (`blind_iff`): the branch of `ChargingStation_tracking` without a
  marker publishes the `linear.x` that an earlier step left in `cmd`.
-/

namespace Tetra.Service

open Machine

/-! ## Idle means stopped -/

/-- In mode 0 the last Twist, if any, was zero. -/
def Idle (s : Node) : Prop := s.dockingCommandMode = 0 → s.Stopped

instance (s : Node) : Decidable (Idle s) := inferInstanceAs (Decidable (_ → _))

/-- What ends in mode 0 without a Twist of its own finds the robot stopped. -/
def HaltsFirst (s : Node) : Event → Prop
  | .joy buttons => (∃ rt ∈ buttons[7]?, rt ≠ 0) → s.Stopped
  | .dockingCommand _ mode => mode = 0 → s.Stopped
  | .tick _ => s.dockingCommandMode = 8 ∨ s.dockingCommandMode = 9 → s.Stopped
  | _ => True

/-- A callback that neither gets into mode 0 nor moves the robot. -/
theorem Idle.of_same {s s' : Node} (h : Idle s)
    (hmode : s'.dockingCommandMode = 0 → s.dockingCommandMode = 0)
    (htwist : s'.Stopped ∨ s'.lastTwist = s.lastTwist) : Idle s' := by
  intro h0
  rcases htwist with hstop | hsame
  · exact hstop
  · exact (stopped_of_lastTwist_eq hsame).mpr (h (hmode h0))

section Idle

variable {p : Platform} {s s' : Node}

theorem idle_tick_iff (ready : Bool) (h : Idle s) :
    Idle (s.dockingThreadFunction p ready) ↔ HaltsFirst s (.tick ready) := by
  constructor
  · intro h' hend
    rw [tick_of_end p ready hend] at h'
    exact h' rfl
  · intro hK h0
    rcases idle_tick p ready h0 with hstop | ⟨hmode, hsame⟩
    · exact hstop
    · rw [stopped_of_lastTwist_eq hsame]
      simp only [List.mem_cons, List.not_mem_nil, or_false] at hmode
      rcases hmode with hmode | hend
      · exact h hmode
      · exact hK hend

theorem idle_joy_iff {buttons : List Int} (hs : s.joyCallback buttons = some s')
    (h : Idle s) : Idle s' ↔ HaltsFirst s (.joy buttons) := by
  obtain ⟨lt, rt, _, hrt, rfl⟩ := joyCallback_eq hs
  simp only [HaltsFirst, hrt, Option.mem_some_iff, exists_eq_left']
  by_cases hr : rt ≠ 0
  · simp [Idle, hr]
    exact Iff.rfl
  · refine iff_of_true (h.of_same ?_ (Or.inr rfl)) fun hr' => absurd hr' hr
    intro h0
    simp only [if_neg hr] at h0
    split at h0
    · exact absurd h0 (by decide)
    · exact h0

theorem idle_step {e : Event} (h : Idle s) (hs : s.step p e = some s') :
    Idle s' ↔ HaltsFirst s e := by
  cases e with
  | tick ready =>
    obtain rfl := Option.some.inj hs
    exact idle_tick_iff ready h
  | joy buttons => exact idle_joy_iff hs h
  | dockingCommand id mode =>
    obtain rfl := Option.some.inj hs
    exact Iff.rfl
  | dockingStop =>
    obtain rfl := Option.some.inj hs
    exact iff_of_true (fun _ => stopped_publishTwist_zero s) trivial
  | gotoLocation location file ready =>
    refine iff_of_true (h.of_same ?_ (Or.inr ?_)) trivial
    all_goals
      obtain ⟨⟨s₁, response⟩, hcmd, rfl⟩ := Option.map_eq_some_iff.mp hs
      simp only [(gotoLocationCommand_eq hcmd).2]
    · split
      · exact id
      · exact fun h0 => absurd h0 (by decide)
    · simp only [Node.lastTwist]
      split
      · exact EventLog.lastOf_concat _ _ _
      · rw [List.append_nil]
  | gotoLocation2 pose ready =>
    obtain ⟨⟨s₁, commandResult⟩, hcmd, rfl⟩ := Option.map_eq_some_iff.mp hs
    have hdone := (gotoLocation2Command_done hcmd).2
    refine iff_of_true (h.of_same ?_ hdone.twist) trivial
    intro h0
    simp only [hdone.mode] at h0
    split at h0
    · exact h0
    · exact absurd h0 (by decide)
  | result goal code ready =>
    obtain rfl := Option.some.inj hs
    obtain ⟨_, htwist, _, hmode⟩ := resultCallback_rest p s ready code
    refine iff_of_true (h.of_same ?_ (Or.inr htwist)) trivial
    intro h0
    simp only [hmode] at h0
    split at h0
    · exact absurd h0 (by decide)
    · exact h0
  | detections | dockingStatus | cmdVel | initialpose | particleCloud | gotoCancel =>
    have hsame := untouched_step rfl hs
    exact iff_of_true (h.of_same hsame.mode.symm.trans (Or.inr hsame.lastTwist)) trivial

end Idle

/--
**The robot is stopped in every idle state of a run exactly if it is stopped before each
callback that ends in mode 0 without a Twist of its own.**
-/
theorem idle_iff {p : Platform} {es : List Event} {w : World} :
    (service p).RunWith (fun _ _ w' => Idle w'.node) es w ↔
      (service p).RunWith (fun w e _ => HaltsFirst w.node e) es w := by
  refine runWith_invariant_iff (I := fun _ => True) (J := fun w : World => Idle w.node) trivial
    (fun _ _ => trivial) ?_ fun {w e w'} _ h hs => ?_
  · intro _ cmd hcmd
    simp [service, Node.lastTwist] at hcmd
  · obtain ⟨_, s', hnode, rfl⟩ := service_step.mp hs
    exact idle_step h hnode

/-- The machine searches for the marker, turning, and the joystick stops it: it is idle with
the turn as the last Twist. -/
theorem not_idle_after_joystick :
    ∃ w, (service examplePlatform).Run
        [.dockingCommand 0 1, .tick true, .tick true, .joy [0, 0, 0, 0, 0, 0, 0, 1]] w ∧
      ¬ Idle w.node :=
  run_of_exec_mem (by decide +kernel)

/-! ## No blind motion while searching -/

/-- Step 2 with another tag in sight than the requested one, or none. -/
def Searching (s : Node) : Prop :=
  s.dockingCommandMode = 2 ∧ s.arTagPose.aprilTagId ≠ s.dockingId

instance (s : Node) : Decidable (Searching s) := inferInstanceAs (Decidable (_ ∧ _))

/-- Every Twist sent between the two states has `linear.x = 0`. -/
def NoAdvance (s s' : Node) : Prop := ∀ cmd, .twist cmd ∈ sentBetween s s' → cmd.linearX = 0

theorem rotationMovement_keeps (s : Node) :
    s.rotationMovement.1.cmd = s.cmd ∧ s.rotationMovement.1.log = s.log := by
  unfold Node.rotationMovement
  dsimp only
  split_ifs <;> exact ⟨rfl, rfl⟩

/-- Without the marker the old `linear.x` is published first, and a stop after it if at all. -/
theorem chargingStationTracking_log {p : Platform} {s : Node} {markerId : Int}
    (h : s.arTagPose.aprilTagId ≠ markerId) : ∃ speed stops,
      (s.chargingStationTracking p true markerId).1.log =
        s.log ++ .twist ⟨s.cmd.linearX, speed⟩ :: List.replicate stops (.twist ⟨0, 0⟩) := by
  obtain ⟨hcmd, hlog⟩ := rotationMovement_keeps s
  unfold Node.chargingStationTracking
  dsimp only
  rw [if_pos rfl, if_neg h, hcmd]
  split
  · exact ⟨s.rotationMovement.2, 1, by simp [hlog]⟩
  · exact ⟨s.rotationMovement.2, 0, by simp [hlog]⟩

theorem searching_tick {p : Platform} {s : Node} (ready : Bool) (h : Searching s) :
    ∃ speed stops, sentBetween s (s.dockingThreadFunction p ready) =
        .twist ⟨s.cmd.linearX, speed⟩ :: List.replicate stops (.twist ⟨0, 0⟩) := by
  obtain ⟨speed, stops, hlog⟩ :=
    chargingStationTracking_log (p := p) (s := { s with homeId := s.dockingId }) h.2
  simp only [h.1] at hlog
  simp only [Node.dockingThreadFunction, h.1, Node.exitIf]
  split
  · -- the exit publishes one more stop
    refine ⟨speed, stops + 1, sentBetween_of_append ?_⟩
    simp only [Node.dockingExitCall, publishTwist_log]
    rw [hlog, List.append_assoc, List.cons_append, ← List.replicate_succ']
  · exact ⟨speed, stops, sentBetween_of_append hlog⟩

theorem noAdvance_searching_tick {p : Platform} {s : Node} (ready : Bool) (h : Searching s) :
    NoAdvance s (s.dockingThreadFunction p ready) ↔ s.cmd.linearX = 0 := by
  obtain ⟨speed, stops, hsent⟩ := searching_tick (p := p) ready h
  rw [NoAdvance, hsent]
  constructor
  · exact fun hall => hall ⟨s.cmd.linearX, speed⟩ List.mem_cons_self
  · intro hzero cmd hcmd
    rcases List.mem_cons.mp hcmd with heq | hmem
    · rw [Output.twist.inj heq]
      exact hzero
    · rw [Output.twist.inj (List.eq_of_mem_replicate hmem)]

/--
**The search does not advance along a run exactly if each of its ticks finds `linear.x = 0` in
`cmd`.**
-/
theorem blind_iff {p : Platform} {es : List Event} {w : World} :
    (service p).RunWith
        (fun w e w' => ∀ ready, e = .tick ready → Searching w.node → NoAdvance w.node w'.node) es w ↔
      (service p).RunWith
        (fun w e _ => ∀ ready, e = .tick ready → Searching w.node → w.node.cmd.linearX = 0) es w := by
  refine runWith_congr (I := fun _ => True) trivial (fun _ _ => trivial) fun {w e w'} _ hs => ?_
  obtain ⟨_, s', hnode, rfl⟩ := service_step.mp hs
  refine forall_congr' fun ready => forall_congr' fun he => forall_congr' fun hsearch => ?_
  subst he
  obtain rfl := Option.some.inj hnode
  exact noAdvance_searching_tick ready hsearch

/-- The marker straight ahead of the camera, which is at the centre of the robot. -/
def markerAt (x : ℚ) : TfBuffer := fun target source => some
  (if target = "base_link" ∧ source = "camera_color_optical_frame" then ⟨0, 0, 0, {}⟩
    else ⟨x, 0, 0, {}⟩)

/-- It is a metre away. -/
def markerAhead : TfBuffer := markerAt 1

/-- The robot drives towards the marker, loses it, and turns to find it while it still drives. -/
theorem advances_without_marker :
    ∃ w, (service examplePlatform).Run
        [.dockingCommand 0 1, .tick true, .detections [0] markerAhead, .tick true,
          .detections [] markerAhead] w ∧
      Searching w.node ∧
      ¬ NoAdvance w.node (w.node.dockingThreadFunction examplePlatform true) := by
  have hlost : ∃ w, (service examplePlatform).Run
      [.dockingCommand 0 1, .tick true, .detections [0] markerAhead, .tick true,
        .detections [] markerAhead] w ∧ Searching w.node ∧ w.node.cmd.linearX = 1 / 8 :=
    run_of_exec_mem (by decide +kernel)
  obtain ⟨w, hr, hsearch, hcmd⟩ := hlost
  refine ⟨w, hr, hsearch, ?_⟩
  intro h
  rw [noAdvance_searching_tick true hsearch, hcmd] at h
  exact absurd h (by decide +kernel)

end Tetra.Service
