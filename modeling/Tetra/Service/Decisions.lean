import Tetra.Service.Motion

/-!
# The decision to back out first

Both goto services look at the charging status, the tag and its distance, and either send
their goal at once or get the robot away from the station first: `Goto_Location_Command` by
the departure, mode 10, and `Goto_Location2_Command` by the departure or by its own loop.

What they look for in the distance is not the same. `Goto_Location2_Command` and the departure
itself take 0.85 or more for far away. `Goto_Location_Command` takes 0.5 or less for it, so in
front of the tag it navigates, and far away from it it departs (`decideAlike_iff`).
-/

namespace Tetra.Service

open Machine

section Decisions

variable {p : Platform} {s : Node}

/-- What `OpenLocationFile` does is the same in every mode. -/
theorem openLocationFile_mode (mode : Int) (location : String) (file : Option (List Char)) :
    Node.openLocationFile p { s with dockingCommandMode := mode } location file =
      (s.openLocationFile p location file).map
        fun r => ({ r.1 with dockingCommandMode := mode }, r.2) := by
  unfold Node.openLocationFile
  by_cases hHome : location = "HOME"
  · rw [if_pos hHome, if_pos hHome]
    rfl
  · rw [if_neg hHome, if_neg hHome]
    cases file with
    | none => rfl
    | some content =>
      dsimp only
      cases (fgetsCalls content).foldlM (readCall p) (s.goalPose, false) <;> rfl

/-- `Goto_Location_Command` gets the robot into the departure, whatever mode it was in. -/
def MovesAway (p : Platform) (s : Node) (location : String) (file : Option (List Char))
    (ready : Bool) : Prop :=
  ∀ mode, ∃ s' response, Node.gotoLocationCommand p { s with dockingCommandMode := mode }
    location file ready = some (s', response) ∧ s'.dockingCommandMode = 10

/-- `Goto_Location2_Command` gets the robot into the departure, whatever mode it was in, or backs
out itself. A request that does not return is in its reverse loop. -/
def MovesAway2 (s : Node) (pose : GoalPose) (ready : Bool) : Prop :=
  ∀ mode, ∀ result ∈ Node.gotoLocation2Command { s with dockingCommandMode := mode } pose ready,
    result.1.dockingCommandMode = 10 ∨ Output.twist ⟨-0.2, 0⟩ ∈ sentBetween s result.1

theorem movesAway_iff {location : String} {file : Option (List Char)} {ready : Bool}
    (hopen : (s.openLocationFile p location file).isSome = true) :
    MovesAway p s location file ready ↔ s.gotoNormal = false := by
  obtain ⟨⟨s₁, bResult⟩, hs₁⟩ := Option.isSome_iff_exists.mp hopen
  have hnormal : ∀ mode, Node.gotoNormal { s with dockingCommandMode := mode } = s.gotoNormal :=
    fun _ => rfl
  constructor
  · intro h
    obtain ⟨s', response, hcmd, hmode⟩ := h 0
    rw [(gotoLocationCommand_eq hcmd).2] at hmode
    by_contra hn
    rw [Bool.not_eq_false] at hn
    simp [hnormal, hn] at hmode
  · intro hn mode
    have hret : (Node.gotoLocationCommand p { s with dockingCommandMode := mode } location file
        ready).isSome = true := by
      unfold Node.gotoLocationCommand
      rw [openLocationFile_mode, hs₁]
      rfl
    obtain ⟨⟨s', response⟩, hcmd⟩ := Option.isSome_iff_exists.mp hret
    refine ⟨s', response, hcmd, ?_⟩
    rw [(gotoLocationCommand_eq hcmd).2]
    simp [hnormal, hn]

/-- The reverse loop sends its Twist at once. -/
theorem mem_sentBetween_reverseMove {s' : Node} (h : s.reverseMove = some s') :
    ∃ new, s'.log = s.log ++ new ∧ Output.twist ⟨-0.2, 0⟩ ∈ new := by
  unfold Node.reverseMove at h
  split at h
  · simp at h
  · rw [reverseLoop_eq 30 s (by decide)] at h
    obtain rfl := Option.some.inj h
    refine ⟨_, (publishTwist_log _ 0 0).trans (List.append_assoc _ _ _), ?_⟩
    exact List.mem_append_left _ (List.mem_replicate.mpr ⟨by decide, rfl⟩)

theorem movesAway2_iff {pose : GoalPose} {ready : Bool} :
    MovesAway2 s pose ready ↔ s.gotoReverse = true ∨ s.gotoNormal2 = false := by
  constructor
  · intro h
    by_contra hnot
    rw [not_or, Bool.not_eq_true, Bool.not_eq_false] at hnot
    obtain ⟨hr, hn⟩ := hnot
    -- in mode 0 the goal is sent, and nothing else
    have hcmd : Node.gotoLocation2Command { s with dockingCommandMode := 0 } pose ready =
        some ((Node.storePose { s with dockingCommandMode := 0 } pose).setGoal ready pose,
          true) := by
      have hr' : (Node.storePose { s with dockingCommandMode := 0 } pose).gotoReverse = false := hr
      have hn' : (Node.storePose { s with dockingCommandMode := 0 } pose).gotoNormal2 = true := hn
      simp only [Node.gotoLocation2Command, hr', hn', Bool.false_eq_true, if_false, if_true]
    rcases h 0 _ hcmd with hmode | hsent
    · rw [setGoal_eq] at hmode
      exact absurd hmode (by simp [Node.storePose])
    · rw [setGoal_eq, sentBetween_of_append rfl] at hsent
      cases ready <;> simp at hsent
  · intro h mode result hresult
    obtain ⟨s', commandResult⟩ := result
    cases hr : s.gotoReverse with
    | true =>
      have hr' : (Node.storePose { s with dockingCommandMode := mode } pose).gotoReverse = true :=
        hr
      simp only [Node.gotoLocation2Command, hr', if_true, Option.mem_def, Option.bind_eq_bind,
        Option.bind_eq_some_iff, Option.some.injEq, Prod.mk.injEq] at hresult
      obtain ⟨s₁, hmove, rfl, _⟩ := hresult
      obtain ⟨new, hlog, hmem⟩ := mem_sentBetween_reverseMove hmove
      right
      rw [setGoal_eq, sentBetween_of_append (by rw [hlog]; exact List.append_assoc _ _ _)]
      exact List.mem_append_left _ hmem
    | false =>
      have hn : s.gotoNormal2 = false := h.resolve_left (by simp [hr])
      left
      have hmode := (gotoLocation2Command_done hresult).2.mode
      have hr' : Node.gotoReverse { s with dockingCommandMode := mode } = false := hr
      have hn' : Node.gotoNormal2 { s with dockingCommandMode := mode } = false := hn
      rw [hr', hn'] at hmode
      exact hmode

/-- The departure backs out while the station is near, and is over at its first tick otherwise:
the robot does not move at all if the decision was made far away, or without a tag. -/
theorem departure_backs_out_iff {ready : Bool} (hmode : s.dockingCommandMode = 10)
    (hclear : s.obstacleCygbot = false) (hpose : s.initialpose = false) :
    sentBetween s (s.dockingThreadFunction p ready) = [.twist ⟨-0.05, 0⟩] ↔
      s.arTagPose.aprilTagId ≠ -1 ∧ s.arTagPose.transformPoseX ≤ 0.85 := by
  rw [dockingThreadFunction_of_mode hmode]
  have hnear : s.nearStation = true ↔
      s.arTagPose.aprilTagId ≠ -1 ∧ s.arTagPose.transformPoseX ≤ 0.85 := by
    simp [Node.nearStation, and_comm]
  rw [← hnear]
  cases hn : s.nearStation with
  | true =>
    refine iff_of_true (sentBetween_of_append ?_) rfl
    simp [Node.departStation2Move, hn, hclear, hpose]
  | false =>
    refine iff_of_false (fun h => ?_) (by simp)
    rw [departStation2Move_away hn, setGoal_eq,
      sentBetween_of_append (List.append_assoc _ _ _)] at h
    have hzero : (⟨0, 0⟩ : Twist) = ⟨-0.05, 0⟩ := Output.twist.inj (List.cons.inj h).1
    exact absurd hzero (by decide +kernel)

/--
**In a state the two services decide alike exactly if the robot is charging, no tag is in sight,
or the tag is between the two distances.**
-/
theorem decideAlike_iff {location : String} {file : Option (List Char)} {pose : GoalPose}
    {ready ready' : Bool} (hopen : (s.openLocationFile p location file).isSome = true) :
    (MovesAway p s location file ready ↔ MovesAway2 s pose ready') ↔
      s.chargingStatus > 1 ∨ s.arTagPose.aprilTagId = -1 ∨
        (0.5 < s.arTagPose.transformPoseX ∧ s.arTagPose.transformPoseX < 0.85) := by
  rw [movesAway_iff hopen, movesAway2_iff]
  simp only [Node.gotoNormal, Node.gotoReverse, Node.gotoNormal2, Bool.and_eq_false_iff,
    Bool.or_eq_false_iff, decide_eq_false_iff_not, decide_eq_true_eq, ge_iff_le, not_le]
  have hfar : s.arTagPose.transformPoseX ≤ 0.5 → s.arTagPose.transformPoseX < 0.85 :=
    fun h => lt_of_le_of_lt h (by decide +kernel)
  by_cases hc : s.chargingStatus > 1
  · simp [hc]
  · by_cases hid : s.arTagPose.aprilTagId = -1
    · simp [hc, hid]
    · by_cases hnear : s.arTagPose.transformPoseX ≤ 0.5
      · -- in front of the tag only `Goto_Location2_Command` departs
        simp [hc, hid, not_lt.mpr hnear, hfar hnear]
      · simp [hc, hid, not_le.mp hnear]

end Decisions

/-- The marker is 0.7 metres away, between the two distances. -/
theorem decideAlike_between :
    ∃ w, (service examplePlatform).Run [.detections [0] (markerAt (7 / 10))] w ∧
      w.node.arTagPose.aprilTagId = 0 ∧ w.node.arTagPose.transformPoseX = 7 / 10 ∧
      (MovesAway examplePlatform w.node "HOME" none true ↔
        MovesAway2 w.node ⟨5, 0, 0, 0, 0, 0, 1⟩ true) := by
  obtain ⟨w, hr, hid, hdistance⟩ : ∃ w,
      (service examplePlatform).Run [.detections [0] (markerAt (7 / 10))] w ∧
      w.node.arTagPose.aprilTagId = 0 ∧ w.node.arTagPose.transformPoseX = 7 / 10 :=
    run_of_exec_mem (by decide +kernel)
  refine ⟨w, hr, hid, hdistance, (decideAlike_iff rfl).mpr (Or.inr (Or.inr ?_))⟩
  rw [hdistance]
  decide +kernel

/-- The marker is a metre away: `Goto_Location_Command` departs, `Goto_Location2_Command` does
not. -/
theorem decide_differently :
    ∃ w, (service examplePlatform).Run [.detections [0] markerAhead] w ∧
      (w.node.openLocationFile examplePlatform "HOME" none).isSome = true ∧
      ¬ (MovesAway examplePlatform w.node "HOME" none true ↔
        MovesAway2 w.node ⟨5, 0, 0, 0, 0, 0, 1⟩ true) := by
  have hahead : ∃ w, (service examplePlatform).Run [.detections [0] markerAhead] w ∧
      w.node.gotoNormal = false ∧ w.node.gotoReverse = false ∧ w.node.gotoNormal2 = true :=
    run_of_exec_mem (by decide +kernel)
  obtain ⟨w, hr, hnormal, hreverse, hnormal2⟩ := hahead
  refine ⟨w, hr, rfl, ?_⟩
  intro halike
  rw [movesAway_iff rfl, movesAway2_iff] at halike
  simp [hnormal, hreverse, hnormal2] at halike

end Tetra.Service
