import Tetra.Service.Docking

/-!
# What a tick of the docking machine does

`dockingThreadFunction` is split here once, and later proofs use what is said about it:

* in mode 10 it is a tick of the departure (`departure`);
* in every other mode it `Docks`: it leaves navigation alone, does not get into mode 10,
  and gets into mode 0 with the robot stopped, except from the modes 8 and 9, which hand over
  what the robot is doing.
-/

namespace Tetra.Service

namespace Node

/-- The last Twist, if any, was zero. -/
def Stopped (s : Node) : Prop := ∀ cmd ∈ s.lastTwist, cmd = ⟨0, 0⟩

instance (s : Node) : Decidable s.Stopped :=
  inferInstanceAs (Decidable (∀ cmd ∈ s.lastTwist, cmd = ⟨0, 0⟩))

end Node

theorem stopped_of_lastTwist_eq {s s' : Node} (h : s'.lastTwist = s.lastTwist) :
    s'.Stopped ↔ s.Stopped := by
  rw [Node.Stopped, Node.Stopped, h]

theorem stopped_publishTwist_zero (s : Node) : (s.publishTwist 0 0).Stopped := by
  intro cmd h
  rw [lastTwist_publishTwist, Option.mem_some_iff] at h
  exact h.symm

/-! ## Sending a goal -/

section SetGoal

variable (s : Node) (ready : Bool) (pose : GoalPose)

theorem setGoal_eq :
    s.setGoal ready pose = { s with log := s.log ++ if ready then [.goal pose] else [] } := by
  cases ready <;> simp [Node.setGoal, Node.send]

@[simp] theorem goals_setGoal :
    (s.setGoal ready pose).goals = s.goals ++ if ready then [pose] else [] := by
  cases ready <;> simp [Node.setGoal, goals_send_goal]

@[simp] theorem lastTwist_setGoal : (s.setGoal ready pose).lastTwist = s.lastTwist := by
  cases ready
  · rfl
  · exact lastTwist_send s rfl

end SetGoal

/-! ## The steps of the approach -/

/-- What the approach does not touch, and where it can get. -/
structure Approaches (s s' : Node) : Prop where
  goals : s'.goals = s.goals
  goalPose : s'.goalPose = s.goalPose
  comebackHome : s'.comebackHome = s.comebackHome
  retryCount : s'.retryCount = s.retryCount
  mode : s'.dockingCommandMode = s.dockingCommandMode ∨
    s'.dockingCommandMode ≠ 0 ∧ s'.dockingCommandMode ≠ 10

section Approach

variable (p : Platform) (s : Node)

theorem follow_approaches (gain : ℚ) : Approaches s (s.follow p gain).1 := by
  unfold Node.follow
  dsimp only
  split_ifs <;>
    exact ⟨by simp [Node.goals, Output.goal?], rfl, rfl, rfl, Or.inl rfl⟩

theorem rotationMovement_approaches : Approaches s s.rotationMovement.1 := by
  unfold Node.rotationMovement
  dsimp only
  split_ifs <;> exact ⟨rfl, rfl, rfl, rfl, Or.inl rfl⟩

theorem chargingStationTracking_approaches (markerId : Int) :
    Approaches s (s.chargingStationTracking p true markerId).1 := by
  have hr := rotationMovement_approaches s
  unfold Node.chargingStationTracking
  dsimp only
  split_ifs
  · exact follow_approaches p s 0.15
  · exact ⟨by simp [Node.goals, Output.goal?], rfl, rfl, rfl, Or.inr ⟨by simp, by simp⟩⟩
  · exact ⟨by simp [Node.goals, Output.goal?], rfl, rfl, rfl, Or.inr ⟨by simp, by simp⟩⟩
  · refine ⟨Eq.trans ?_ hr.goals, hr.goalPose, hr.comebackHome, hr.retryCount,
      Or.inr ⟨by simp, by simp⟩⟩
    simp [Node.goals, Output.goal?]
  · refine ⟨Eq.trans ?_ hr.goals, hr.goalPose, hr.comebackHome, hr.retryCount, hr.mode⟩
    simp [Node.goals, Output.goal?]
  · next h => exact absurd rfl h

theorem yawRotation_approaches : Approaches s (s.yawRotation p) := by
  unfold Node.yawRotation
  dsimp only
  split_ifs
  · exact ⟨by simp, rfl, rfl, rfl, Or.inl rfl⟩
  · exact ⟨by simp [Node.goals, Output.goal?], rfl, rfl, rfl, Or.inl rfl⟩
  · exact ⟨rfl, rfl, rfl, rfl, Or.inr ⟨by simp, by simp⟩⟩

theorem chargingStationYawTracking_approaches :
    Approaches s (s.chargingStationYawTracking p).1 := by
  have hr := yawRotation_approaches p s
  unfold Node.chargingStationYawTracking
  split_ifs
  · exact ⟨rfl, rfl, rfl, rfl, Or.inr ⟨by simp, by simp⟩⟩
  · exact ⟨hr.goals, hr.goalPose, hr.comebackHome, hr.retryCount, hr.mode⟩
  · exact ⟨hr.goals, hr.goalPose, hr.comebackHome, hr.retryCount, hr.mode⟩

theorem chargingStationBackStep_approaches : Approaches s (s.chargingStationBackStep p).1 := by
  unfold Node.chargingStationBackStep
  dsimp only
  split_ifs
  · exact ⟨by simp, rfl, rfl, rfl, Or.inl rfl⟩
  · exact ⟨by simp [Node.goals, Output.goal?], rfl, rfl, rfl, Or.inl rfl⟩
  · exact ⟨by simp [Node.goals, Output.goal?], rfl, rfl, rfl, Or.inr ⟨by simp, by simp⟩⟩

theorem chargingStationTracking2_approaches (markerId : Int) :
    Approaches s (s.chargingStationTracking2 p markerId).1 := by
  unfold Node.chargingStationTracking2
  dsimp only
  split_ifs
  · exact follow_approaches p s 0.1
  · exact ⟨by simp [Node.goals, Output.goal?], rfl, rfl, rfl, Or.inr ⟨by simp, by simp⟩⟩
  · exact ⟨by simp [Node.goals, Output.goal?], rfl, rfl, rfl, Or.inr ⟨by simp, by simp⟩⟩
  · exact ⟨by simp [Node.goals, Output.goal?], rfl, rfl, rfl, Or.inl rfl⟩

end Approach

/-! ## A tick outside of the departure -/

/-- What a tick does in a mode other than 10. -/
structure Docks (s s' : Node) : Prop where
  goals : s'.goals = s.goals
  goalPose : s'.goalPose = s.goalPose
  comebackHome : s'.comebackHome = s.comebackHome
  retryCount : s'.retryCount = s.retryCount
  mode : s'.dockingCommandMode ≠ 10
  idle : s'.dockingCommandMode = 0 → s'.Stopped ∨
    s.dockingCommandMode ∈ [0, 8, 9] ∧ s'.lastTwist = s.lastTwist

/-- The end of the steps 2, 3 and 4: an exit leaves the robot stopped. -/
theorem Approaches.docks {s s' : Node} (h : Approaches s s') (h0 : s.dockingCommandMode ≠ 0)
    (h10 : s.dockingCommandMode ≠ 10) (exit : Bool) : Docks s (s'.exitIf exit) := by
  have hmode : s'.dockingCommandMode ≠ 0 ∧ s'.dockingCommandMode ≠ 10 := by
    rcases h.mode with hm | hm
    · exact ⟨hm ▸ h0, hm ▸ h10⟩
    · exact hm
  cases exit with
  | true =>
    refine ⟨Eq.trans ?_ h.goals, h.goalPose, h.comebackHome, h.retryCount, ?_, ?_⟩
    · simp [Node.exitIf, Node.dockingExitCall, Node.goals, Output.goal?]
    · simp [Node.exitIf]
    · intro _
      exact Or.inl (stopped_publishTwist_zero s')
  | false =>
    exact ⟨h.goals, h.goalPose, h.comebackHome, h.retryCount, hmode.2,
      fun h0' => absurd h0' hmode.1⟩

/-- **A tick outside of mode 10.** -/
theorem dockingThreadFunction_docks {p : Platform} {s : Node} (ready : Bool)
    (h : s.dockingCommandMode ≠ 10) : Docks s (s.dockingThreadFunction p ready) := by
  unfold Node.dockingThreadFunction
  split
  · exact ⟨rfl, rfl, rfl, rfl, by simp, fun h0 => absurd h0 (by simp)⟩
  · next hmode =>
    -- the id of the marker is set before the step, which changes nothing named in `Docks`
    have happ := chargingStationTracking_approaches p { s with homeId := s.dockingId } s.dockingId
    have hsame : Approaches s ({ s with homeId := s.dockingId } : Node) :=
      ⟨rfl, rfl, rfl, rfl, Or.inl rfl⟩
    exact Approaches.docks ⟨happ.goals.trans hsame.goals, happ.goalPose, happ.comebackHome,
      happ.retryCount, happ.mode⟩ (by rw [hmode]; decide) h _
  · next hmode =>
    exact (chargingStationYawTracking_approaches p s).docks (by rw [hmode]; decide) h _
  · next hmode =>
    exact (chargingStationTracking2_approaches p s s.homeId).docks (by rw [hmode]; decide) h _
  · next hmode =>
    exact ⟨rfl, rfl, rfl, rfl, by simp, fun _ => Or.inr ⟨by simp [hmode], rfl⟩⟩
  · next hmode =>
    exact ⟨rfl, rfl, rfl, rfl, by simp, fun _ => Or.inr ⟨by simp [hmode], rfl⟩⟩
  · next hmode => exact absurd hmode h
  · next hmode =>
    exact (chargingStationBackStep_approaches p s).docks (by rw [hmode]; decide) h false
  · exact ⟨rfl, rfl, rfl, rfl, h, fun h0 => Or.inr ⟨by simp [h0], rfl⟩⟩

/-! ## The steps 2, 3 and 4 -/

section Step

variable {p : Platform} {s : Node} (ready : Bool)

/-- A tick of step 2, for the id that it has just stored. -/
theorem tick_of_search (h : s.dockingCommandMode = 2) :
    s.dockingThreadFunction p ready =
      (Node.chargingStationTracking p { s with homeId := s.dockingId } true s.dockingId).1.exitIf
        (Node.chargingStationTracking p { s with homeId := s.dockingId } true
          s.dockingId).1.robotDockingExit := by
  simp only [Node.dockingThreadFunction, h]

theorem tick_of_turn (h : s.dockingCommandMode = 3) :
    s.dockingThreadFunction p ready =
      (s.chargingStationYawTracking p).1.exitIf (s.chargingStationYawTracking p).1.dockingExit := by
  simp only [Node.dockingThreadFunction, h]

theorem tick_of_close (h : s.dockingCommandMode = 4) :
    s.dockingThreadFunction p ready =
      (s.chargingStationTracking2 p s.homeId).1.exitIf
        (s.chargingStationTracking2 p s.homeId).1.dockingExit := by
  simp only [Node.dockingThreadFunction, h]

end Step

/-! ## The departure -/

section Departure

variable {p : Platform} {s : Node} {ready : Bool}

theorem dockingThreadFunction_of_mode (h : s.dockingCommandMode = 10) :
    s.dockingThreadFunction p ready = (s.departStation2Move ready).1 := by
  simp [Node.dockingThreadFunction, h]

/-- Near the station the robot backs out, or waits. -/
theorem departStation2Move_near (h : s.nearStation = true) :
    ∃ linearX, (s.departStation2Move ready).1 = s.publishTwist linearX 0 := by
  unfold Node.departStation2Move
  rw [if_pos h]
  split
  · exact ⟨0, rfl⟩
  · exact ⟨-0.05, rfl⟩

/-- Away from it the robot stops, and the stored goal is sent if the server is ready. -/
theorem departStation2Move_away (h : s.nearStation = false) :
    (s.departStation2Move ready).1 =
      { (s.publishTwist 0 0).setGoal ready s.goalPose with dockingCommandMode := 0 } := by
  unfold Node.departStation2Move
  rw [if_neg (by simp [h])]
  rfl

end Departure

/-! ## Any tick -/

section Tick

variable (p : Platform) (s : Node) (ready : Bool)

/-- What a tick can do: a step outside of the departure, a move away from the station, or the
end of the departure. -/
theorem tick_cases :
    (s.dockingCommandMode ≠ 10 ∧ Docks s (s.dockingThreadFunction p ready)) ∨
      (s.dockingCommandMode = 10 ∧ s.nearStation = true ∧
        ∃ linearX, s.dockingThreadFunction p ready = s.publishTwist linearX 0) ∨
      (s.dockingCommandMode = 10 ∧ s.nearStation = false ∧
        s.dockingThreadFunction p ready =
          { (s.publishTwist 0 0).setGoal ready s.goalPose with dockingCommandMode := 0 }) := by
  by_cases hmode : s.dockingCommandMode = 10
  · right
    rw [dockingThreadFunction_of_mode hmode]
    cases hnear : s.nearStation with
    | true => exact Or.inl ⟨hmode, rfl, departStation2Move_near hnear⟩
    | false => exact Or.inr ⟨hmode, rfl, departStation2Move_away hnear⟩
  · exact Or.inl ⟨hmode, dockingThreadFunction_docks ready hmode⟩

/-- The only goal of a tick is the stored one, at the end of a departure. -/
theorem goals_tick : (s.dockingThreadFunction p ready).goals = s.goals ++
    if s.dockingCommandMode = 10 ∧ s.nearStation = false ∧ ready then [s.goalPose] else [] := by
  rcases tick_cases p s ready with ⟨hmode, h⟩ | ⟨_, hnear, linearX, hs⟩ | ⟨hmode, hnear, hs⟩
  · rw [h.goals]
    simp [hmode]
  · rw [hs]
    simp [hnear]
  · rw [hs]
    refine Eq.trans (goals_setGoal (s.publishTwist 0 0) ready s.goalPose) ?_
    simp [hmode, hnear]

theorem rest_tick : (s.dockingThreadFunction p ready).goalPose = s.goalPose ∧
    (s.dockingThreadFunction p ready).comebackHome = s.comebackHome := by
  rcases tick_cases p s ready with ⟨_, h⟩ | ⟨_, _, linearX, hs⟩ | ⟨_, _, hs⟩
  · exact ⟨h.goalPose, h.comebackHome⟩
  · rw [hs]
    exact ⟨rfl, rfl⟩
  · rw [hs, setGoal_eq]
    exact ⟨rfl, rfl⟩

variable {s}

/-- A departure goes on while the station is near, and no tick starts one. -/
theorem mode_tick : (s.dockingThreadFunction p ready).dockingCommandMode = 10 ↔
    s.dockingCommandMode = 10 ∧ s.nearStation = true := by
  rcases tick_cases p s ready with ⟨hmode, h⟩ | ⟨hmode, hnear, linearX, hs⟩ | ⟨_, hnear, hs⟩
  · exact iff_of_false h.mode fun hboth => hmode hboth.1
  · rw [hs]
    exact iff_of_true hmode ⟨hmode, hnear⟩
  · rw [hs]
    simp [hnear]

/-- Mode 0 is reached with the robot stopped, except from the modes 0, 8 and 9. -/
theorem idle_tick (h0 : (s.dockingThreadFunction p ready).dockingCommandMode = 0) :
    (s.dockingThreadFunction p ready).Stopped ∨ s.dockingCommandMode ∈ [0, 8, 9] ∧
      (s.dockingThreadFunction p ready).lastTwist = s.lastTwist := by
  rcases tick_cases p s ready with ⟨_, h⟩ | ⟨hmode, _, linearX, hs⟩ | ⟨_, _, hs⟩
  · exact h.idle h0
  · rw [hs] at h0
    exact absurd (hmode.symm.trans h0) (by decide)
  · -- the departure ends with a stop, and the goal after it is no Twist
    rw [hs]
    refine Or.inl ((stopped_of_lastTwist_eq ?_).mpr (stopped_publishTwist_zero s))
    exact lastTwist_setGoal _ ready s.goalPose

/-- The modes 8 and 9 end in mode 0, and nothing else happens in them. -/
theorem tick_of_end (h : s.dockingCommandMode = 8 ∨ s.dockingCommandMode = 9) :
    s.dockingThreadFunction p ready = { s with dockingCommandMode := 0 } := by
  rcases h with h | h <;> simp [Node.dockingThreadFunction, h]

end Tick

end Tetra.Service
