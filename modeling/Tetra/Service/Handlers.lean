import Tetra.Service.Goto
import Tetra.Service.Tick

/-!
# What the handlers do

One lemma for each handler that sends a goal or writes the mode, stated on the state before
it. Nothing after this module looks into a handler.
-/

namespace Tetra.Service

/-! ## Goto requests -/

section Goto

variable {p : Platform} {s s' : Node}

/-- `Goto_Location_Command`, when it returns. -/
theorem gotoLocationCommand_eq {location : String} {file : Option (List Char)} {ready : Bool}
    {response : Node.GotoLocationResponse}
    (h : s.gotoLocationCommand p location file ready = some (s', response)) :
    response = ⟨(resolve p location file).getD s.goalPose, true⟩ ∧
      s' = { s with
        goalPose := (resolve p location file).getD s.goalPose
        dockingCommandMode := if s.gotoNormal then s.dockingCommandMode else 10
        comebackHome := decide (location = "HOME") || s.comebackHome
        log := s.log ++ if s.gotoNormal ∧ ready then
          [.goal ((resolve p location file).getD s.goalPose)] else [] } := by
  obtain ⟨⟨s₁, bResult⟩, hopen, hs⟩ := Option.bind_eq_some_iff.mp h
  obtain rfl := openLocationFile_eq hopen
  simp only [Option.some.injEq, Prod.mk.injEq] at hs
  obtain ⟨rfl, rfl⟩ := hs
  refine ⟨rfl, ?_⟩
  have hnormal : Node.gotoNormal { s with goalPose := (resolve p location file).getD s.goalPose }
      = s.gotoNormal := rfl
  rw [hnormal]
  cases hn : s.gotoNormal <;> cases ready <;> by_cases hl : location = "HOME" <;>
    simp [Node.setGoal, Node.send, hl]

theorem reverseLoop_eq (passes : Nat) : ∀ s : Node, 0 < passes → s.reverseLoop passes =
    { s with
      cmd := ⟨-0.2, 0⟩
      log := s.log ++ List.replicate passes (.twist ⟨-0.2, 0⟩) } := by
  induction passes with
  | zero => exact fun s h => absurd h (Nat.lt_irrefl 0)
  | succ passes ih =>
    intro s _
    rw [Node.reverseLoop]
    rcases Nat.eq_zero_or_pos passes with rfl | hpos
    · rfl
    · rw [ih _ hpos]
      simp [Node.publishTwist, Node.publishCmd, List.replicate_succ]

/-- What the reverse move of `Goto_Location2_Command` leaves alone. -/
theorem reverseMove_eq (h : s.reverseMove = some s') :
    s' = { s with cmd := ⟨0, 0⟩, log := s'.log } ∧ s'.goals = s.goals ∧ s'.Stopped := by
  unfold Node.reverseMove at h
  split at h
  · simp at h
  · rw [reverseLoop_eq 30 s (by decide)] at h
    obtain rfl := Option.some.inj h
    refine ⟨rfl, ?_, stopped_publishTwist_zero _⟩
    rw [goals_publishTwist]
    simp [Node.goals, Output.goal?]

/-- `Goto_Location2_Command`, when it returns. -/
structure GotoLocation2Done (s s' : Node) (pose : GoalPose) (ready : Bool) : Prop where
  goalPose : s'.goalPose = { pose with positionZ := s.goalPose.positionZ }
  goals : s'.goals = s.goals ++
    if ready then
      if s.gotoReverse then [{ pose with positionZ := s.goalPose.positionZ }]
      else if s.gotoNormal2 then [pose] else []
    else []
  mode : s'.dockingCommandMode =
    if s.gotoReverse || s.gotoNormal2 then s.dockingCommandMode else 10
  comebackHome : s'.comebackHome = s.comebackHome
  retryCount : s'.retryCount = s.retryCount
  twist : s'.Stopped ∨ s'.lastTwist = s.lastTwist

theorem gotoLocation2Command_done {pose : GoalPose} {ready commandResult : Bool}
    (h : s.gotoLocation2Command pose ready = some (s', commandResult)) :
    commandResult = true ∧ GotoLocation2Done s s' pose ready := by
  unfold Node.gotoLocation2Command at h
  dsimp only at h
  have hreverse : (s.storePose pose).gotoReverse = s.gotoReverse := rfl
  have hnormal : (s.storePose pose).gotoNormal2 = s.gotoNormal2 := rfl
  rw [hreverse, hnormal] at h
  split at h
  · next hr =>
    obtain ⟨s₁, hmove, hs⟩ := Option.bind_eq_some_iff.mp h
    simp only [Option.some.injEq, Prod.mk.injEq] at hs
    obtain ⟨rfl, rfl⟩ := hs
    obtain ⟨hs₁, hgoals, hstop⟩ := reverseMove_eq hmove
    have hpose : s₁.goalPose = { pose with positionZ := s.goalPose.positionZ } := by rw [hs₁]; rfl
    refine ⟨rfl, ?_, ?_, ?_, ?_, ?_, Or.inl ?_⟩
    · rw [setGoal_eq]; exact hpose
    · rw [goals_setGoal, hgoals, hpose, if_pos hr]; rfl
    · rw [setGoal_eq, hs₁]; simp [Node.storePose, hr]
    · rw [setGoal_eq, hs₁]; rfl
    · rw [setGoal_eq, hs₁]; rfl
    · rwa [stopped_of_lastTwist_eq (lastTwist_setGoal _ _ _)]
  · next hr =>
    split at h
    · next hn =>
      simp only [Option.some.injEq, Prod.mk.injEq] at h
      obtain ⟨rfl, rfl⟩ := h
      refine ⟨rfl, ?_, ?_, ?_, ?_, ?_, Or.inr (lastTwist_setGoal _ _ _)⟩
      · rw [setGoal_eq]; rfl
      · rw [goals_setGoal, if_neg hr, if_pos hn]; rfl
      · rw [setGoal_eq]; simp [Node.storePose, hn]
      · rw [setGoal_eq]; rfl
      · rw [setGoal_eq]; rfl
    · next hn =>
      simp only [Option.some.injEq, Prod.mk.injEq] at h
      obtain ⟨rfl, rfl⟩ := h
      refine ⟨rfl, rfl, ?_, ?_, rfl, rfl, Or.inr rfl⟩
      · rw [if_neg hr, if_neg hn, ite_self, List.append_nil]; rfl
      · simp [hr, hn]

/-- What it can write. -/
theorem gotoLocation2Command_eq {pose : GoalPose} {ready commandResult : Bool}
    (h : s.gotoLocation2Command pose ready = some (s', commandResult)) :
    ∃ goalPose cmd mode log, (cmd = s.cmd ∨ cmd = ⟨0, 0⟩) ∧
      s' = { s with goalPose, cmd, dockingCommandMode := mode, log } := by
  unfold Node.gotoLocation2Command at h
  dsimp only at h
  split_ifs at h
  · obtain ⟨s₁, hmove, hs⟩ := Option.bind_eq_some_iff.mp h
    rw [← (Prod.mk.inj (Option.some.inj hs)).1, setGoal_eq, (reverseMove_eq hmove).1]
    exact ⟨_, _, _, _, Or.inr rfl, rfl⟩
  · rw [← (Prod.mk.inj (Option.some.inj h)).1, setGoal_eq]
    exact ⟨_, _, _, _, Or.inl rfl, rfl⟩
  · rw [← (Prod.mk.inj (Option.some.inj h)).1]
    exact ⟨_, _, _, _, Or.inl rfl, rfl⟩

end Goto

/-! ## Results -/

section Result

variable (p : Platform) (s : Node) (ready : Bool)

/-- What a result can write. -/
theorem resultCallback_eq (code : ResultCode) :
    ∃ id result retryCount comebackHome mode log, s.resultCallback p code ready =
      { s with
        arTagPose.selectAprilTagId := id, movebaseResult := result, retryCount, comebackHome
        dockingCommandMode := mode, log } := by
  cases code with
  | succeeded =>
    simp only [Node.resultCallback]
    split <;> exact ⟨_, _, _, _, _, _, rfl⟩
  | aborted =>
    simp only [Node.resultCallback, setGoal_eq]
    split <;> exact ⟨_, _, _, _, _, _, rfl⟩
  | canceled | unknown => exact ⟨_, _, _, _, _, _, rfl⟩

/-- An aborted goal is sent again from the store, up to the limit. -/
theorem goals_resultCallback (code : ResultCode) :
    (s.resultCallback p code ready).goals = s.goals ++
      if code = .aborted ∧ s.retryCount < retryMaxCount ∧ ready then [s.goalPose] else [] := by
  cases code with
  | aborted =>
    by_cases hr : s.retryCount < retryMaxCount <;> cases ready <;>
      simp [Node.resultCallback, Node.reportResult, Node.setGoal, Node.send, Node.goals,
        Output.goal?, hr, -List.append_assoc]
  | succeeded =>
    by_cases hc : s.comebackHome <;>
      simp [Node.resultCallback, Node.reportResult, Node.send, Node.goals, Output.goal?, hc]
  | canceled => simp [Node.resultCallback, Node.reportResult, Node.goals, Output.goal?]
  | unknown => simp [Node.resultCallback, Node.reportResult, Node.goals, Output.goal?]

/-- What a result leaves alone, and when it starts docking. -/
theorem resultCallback_rest (code : ResultCode) :
    (s.resultCallback p code ready).goalPose = s.goalPose ∧
      (s.resultCallback p code ready).lastTwist = s.lastTwist ∧
      (s.resultCallback p code ready).comebackHome =
        (if code = .succeeded then false else s.comebackHome) ∧
      (s.resultCallback p code ready).dockingCommandMode =
        if code = .succeeded ∧ s.comebackHome then 1 else s.dockingCommandMode := by
  cases code with
  | succeeded =>
    by_cases hc : s.comebackHome <;>
      simp [Node.resultCallback, Node.reportResult, Node.send, Node.lastTwist, Output.twist?, hc]
  | aborted =>
    by_cases hr : s.retryCount < retryMaxCount <;> cases ready <;>
      simp [Node.resultCallback, Node.reportResult, Node.setGoal, Node.send, Node.lastTwist,
        Output.twist?, hr, -List.append_assoc]
  | canceled =>
    simp [Node.resultCallback, Node.reportResult, Node.send, Node.lastTwist, Output.twist?]
  | unknown =>
    simp [Node.resultCallback, Node.reportResult, Node.send, Node.lastTwist, Output.twist?]

end Result

/-! ## Subscriptions -/

theorem joyCallback_eq {s s' : Node} {buttons : List Int} (h : s.joyCallback buttons = some s') :
    ∃ lt rt : Int, buttons[6]? = some lt ∧ buttons[7]? = some rt ∧
      s' = { s with
        dockingId := if lt ≠ 0 then 0 else s.dockingId
        dockingCommandMode := if rt ≠ 0 then 0 else if lt ≠ 0 then 1 else s.dockingCommandMode
        dockingExit := if rt ≠ 0 then true else if lt ≠ 0 then false else s.dockingExit } := by
  simp only [Node.joyCallback, Option.bind_eq_bind, Option.bind_eq_some_iff] at h
  obtain ⟨lt, hlt, rt, hrt, hs⟩ := h
  refine ⟨lt, rt, hlt, hrt, ?_⟩
  rw [← Option.some.inj hs]
  split_ifs <;> rfl

theorem amclParticleCloudCallback_eq (s : Node) (size : Nat) :
    ∃ initialpose nomotion, s.amclParticleCloudCallback size =
      { s with initialpose := initialpose, nomotion := nomotion } := by
  unfold Node.amclParticleCloudCallback
  split
  · exact ⟨_, _, rfl⟩
  · exact ⟨_, _, rfl⟩

end Tetra.Service
