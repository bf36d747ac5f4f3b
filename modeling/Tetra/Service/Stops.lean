import Tetra.Service.Independence

/-!
# A stop that is decided is sent

The member `cmd` is written in one place and published in another. A tick of a motion either
publishes what it leaves in `cmd`, or leaves both `cmd` and the drive alone, or is one of the two
over-speed exits: those set `cmd` to zero and publish nothing, and the drive goes on with the Twist
it got before (`stopSent_iff`).
-/

namespace Tetra.Service

open Machine EventLog

variable {p : Platform}

/-! ## What a tick does with `cmd` -/

/-- The last Twist sent since `s` is what is left in `cmd`. -/
def Published (s s' : Node) : Prop :=
  ∃ new, s'.log = s.log ++ new ∧ lastOf Output.twist? new = some s'.cmd

/-- A stop is left in `cmd`, and nothing is sent. -/
def Dropped (s s' : Node) : Prop := s'.log = s.log ∧ s'.cmd = ⟨0, 0⟩

/-- Nothing is decided, and nothing is sent. -/
def Quiet (s s' : Node) : Prop := s'.log = s.log ∧ s'.cmd = s.cmd

/-- The approach at `gain` would be too fast. -/
def Node.TooFast (p : Platform) (s : Node) (gain : ℚ) : Prop :=
  1.0 * (s.tagDistance p / 1.2) * gain > 1.0 ∨ s.tagBearing p > 1.0 ∨ s.tagBearing p < -1.0

instance (s : Node) (gain : ℚ) : Decidable (s.TooFast p gain) := inferInstanceAs (Decidable (_ ∨ _))

/-- An over-speed exit of step 2 or 4, and no exit of the run. -/
def Node.Drops (p : Platform) (s : Node) : Prop :=
  s.dockingCommandMode = 2 ∧ (s.arTagPose.aprilTagId = s.dockingId ∧ s.tagDistance p > 0.65) ∧
      s.TooFast p 0.15 ∧ s.robotDockingExit = false ∨
    s.dockingCommandMode = 4 ∧ (s.arTagPose.aprilTagId = s.homeId ∧ s.chargingStatus < 2) ∧
      s.TooFast p 0.1 ∧ s.dockingExit = false

/-- Step 3 is over, and the run is not. -/
def Node.TurnEnds (s : Node) : Prop :=
  s.dockingCommandMode = 3 ∧ (s.Turned ∨ s.rotationCnt > 100) ∧ s.dockingExit = false

section Step

variable {s s' : Node}

theorem Published.lastTwist (h : Published s s') : s'.lastTwist = some s'.cmd := by
  obtain ⟨new, hlog, hlast⟩ := h
  rw [Node.lastTwist, hlog, lastOf_append, hlast]
  rfl

theorem Published.mem_sentBetween (h : Published s s') : .twist s'.cmd ∈ sentBetween s s' := by
  obtain ⟨new, hlog, hlast⟩ := h
  rw [sentBetween_of_append hlog]
  obtain ⟨e, he, htwist⟩ := exists_of_lastOf hlast
  cases e with
  | twist cmd =>
    rw [← Option.some.inj htwist]
    exact he
  | _ => exact absurd htwist (by simp [Output.twist?])

/-- The drive keeps the Twist it had. -/
theorem Dropped.lastTwist (h : Dropped s s') : s'.lastTwist = s.lastTwist := by
  rw [Node.lastTwist, h.1, Node.lastTwist]

theorem Dropped.stopped_iff (h : Dropped s s') : s'.Stopped ↔ s.Stopped :=
  stopped_of_lastTwist_eq h.lastTwist

/-- The Twist is the one message, or the last one. -/
theorem published_of_log (new : List Output) (h : s'.log = s.log ++ (new ++ [.twist s'.cmd])) :
    Published s s' :=
  ⟨_, h, by rw [lastOf_concat]; rfl⟩

theorem publishTwist_published (linearX angularZ : ℚ) :
    Published s (s.publishTwist linearX angularZ) :=
  published_of_log [] rfl

/-- An exit publishes its stop. -/
theorem exitIf_published (h : ∃ new, s'.log = s.log ++ new) : Published s (s'.exitIf true) := by
  obtain ⟨new, hlog⟩ := h
  refine published_of_log new ?_
  simp [Node.exitIf, Node.dockingExitCall, Node.publishTwist, Node.publishCmd, hlog]

theorem follow_dropped {gain : ℚ} (h : s.TooFast p gain) : Dropped s (s.follow p gain).1 := by
  unfold Node.follow
  dsimp only
  split
  · exact ⟨rfl, rfl⟩
  · next hlinear =>
    rw [if_pos]
    · exact ⟨rfl, rfl⟩
    · rcases h with hfast | hbearing
      · exact absurd hfast hlinear
      · simpa [Node.tagBearing] using hbearing

theorem follow_published {gain : ℚ} (h : ¬ s.TooFast p gain) :
    Published s (s.follow p gain).1 := by
  obtain ⟨hlinear, hbearing⟩ := not_or.mp h
  unfold Node.follow
  dsimp only
  rw [if_neg hlinear, if_neg]
  · exact published_of_log [] rfl
  · simpa [Node.tagBearing] using hbearing

/-- Step 2, away from the marker. -/
theorem chargingStationTracking_follow {markerId : Int}
    (h : s.arTagPose.aprilTagId = markerId ∧ s.tagDistance p > 0.65) :
    s.chargingStationTracking p true markerId = s.follow p 0.15 := by
  unfold Node.chargingStationTracking
  rw [if_pos rfl, if_pos h.1, if_pos h.2]

theorem chargingStationTracking_published {markerId : Int}
    (h : ¬ (s.arTagPose.aprilTagId = markerId ∧ s.tagDistance p > 0.65)) :
    Published s (s.chargingStationTracking p true markerId).1 := by
  unfold Node.chargingStationTracking
  rw [if_pos rfl]
  by_cases hid : s.arTagPose.aprilTagId = markerId
  · rw [if_pos hid, if_neg fun hfar => h ⟨hid, hfar⟩]
    refine published_of_log [] ?_
    dsimp only
    split <;> rfl
  · rw [if_neg hid]
    have hlog := (rotationMovement_keeps s).2
    dsimp only
    split
    · refine published_of_log [.twist ⟨s.rotationMovement.1.cmd.linearX, s.rotationMovement.2⟩] ?_
      simp [Node.publishTwist, Node.publishCmd, hlog]
    · refine published_of_log [] ?_
      simp [Node.publishCmd, hlog]

/-- Step 4, before the station charges. -/
theorem chargingStationTracking2_follow {markerId : Int}
    (h : s.arTagPose.aprilTagId = markerId ∧ s.chargingStatus < 2) :
    s.chargingStationTracking2 p markerId = s.follow p 0.1 := by
  unfold Node.chargingStationTracking2
  rw [if_pos h.1, if_pos h.2]

theorem chargingStationTracking2_published {markerId : Int}
    (h : ¬ (s.arTagPose.aprilTagId = markerId ∧ s.chargingStatus < 2)) :
    Published s (s.chargingStationTracking2 p markerId).1 := by
  unfold Node.chargingStationTracking2
  by_cases hid : s.arTagPose.aprilTagId = markerId
  · rw [if_pos hid, if_neg fun hcharging => h ⟨hid, hcharging⟩]
    exact published_of_log [] rfl
  · rw [if_neg hid]
    dsimp only
    split <;> exact published_of_log [] rfl

theorem yawRotation_published (h : s.rotationCnt ≤ 100) : Published s (s.yawRotation p) := by
  unfold Node.yawRotation
  rw [if_pos h]
  split <;> exact published_of_log [] rfl

theorem yawRotation_quiet (h : ¬ s.rotationCnt ≤ 100) : Quiet s (s.yawRotation p) := by
  unfold Node.yawRotation
  rw [if_neg h]
  exact ⟨rfl, rfl⟩

/-- Step 3 publishes while it turns. -/
theorem chargingStationYawTracking_published (h : ¬ (s.Turned ∨ s.rotationCnt > 100)) :
    Published s (s.chargingStationYawTracking p).1 := by
  obtain ⟨hturned, hcnt⟩ := not_or.mp h
  obtain ⟨new, hlog, hlast⟩ := yawRotation_published (p := p) (not_lt.mp hcnt)
  unfold Node.chargingStationYawTracking
  rw [if_neg (mt turned_iff.mp hturned)]
  split <;> exact ⟨new, hlog, hlast⟩

theorem chargingStationYawTracking_quiet (h : s.Turned ∨ s.rotationCnt > 100) :
    Quiet s (s.chargingStationYawTracking p).1 := by
  unfold Node.chargingStationYawTracking
  by_cases hturned : s.Turned
  · rw [if_pos (turned_iff.mpr hturned)]
    exact ⟨rfl, rfl⟩
  · obtain ⟨hlog, hcmd⟩ := yawRotation_quiet (p := p) (not_le.mpr (h.resolve_left hturned))
    rw [if_neg (mt turned_iff.mp hturned)]
    split <;> exact ⟨hlog, hcmd⟩

theorem chargingStationBackStep_published : Published s (s.chargingStationBackStep p).1 := by
  unfold Node.chargingStationBackStep
  split
  · split <;> exact published_of_log [] rfl
  · exact published_of_log [] rfl

/-- The goal at the end of a departure is no Twist. -/
theorem departStation2Move_published (ready : Bool) :
    Published s (s.departStation2Move ready).1 := by
  cases hnear : s.nearStation with
  | true =>
    obtain ⟨linearX, hs⟩ : ∃ linearX, (s.departStation2Move ready).1 = s.publishTwist linearX 0 :=
      departStation2Move_near hnear
    rw [hs]
    exact publishTwist_published linearX 0
  | false =>
    rw [departStation2Move_away hnear, setGoal_eq]
    refine ⟨_, List.append_assoc .., ?_⟩
    cases ready <;> rfl

end Step

/-! ## A tick -/

section Tick

variable {s : Node} (ready : Bool)

theorem follow_exits (gain : ℚ) :
    (s.follow p gain).1.robotDockingExit = s.robotDockingExit ∧
      (s.follow p gain).1.dockingExit = s.dockingExit := by
  obtain ⟨cmd, hfollow⟩ := follow_eq (p := p) (s := s) gain
  rw [hfollow]
  exact ⟨rfl, rfl⟩

theorem chargingStationYawTracking_dockingExit :
    (s.chargingStationYawTracking p).1.dockingExit = s.dockingExit := by
  unfold Node.chargingStationYawTracking Node.yawRotation
  split_ifs <;> rfl

/-- An over-speed exit leaves the drive as it is. -/
theorem tick_dropped (h : s.Drops p) : Dropped s (s.dockingThreadFunction p ready) := by
  rcases h with ⟨hmode, hseen, hfast, hexit⟩ | ⟨hmode, hseen, hfast, hexit⟩
  · rw [tick_of_search ready hmode,
      chargingStationTracking_follow (s := { s with homeId := s.dockingId }) hseen,
      (follow_exits 0.15).1]
    dsimp only
    rw [hexit]
    exact follow_dropped hfast
  · rw [tick_of_close ready hmode, chargingStationTracking2_follow hseen, (follow_exits 0.1).2,
      hexit]
    exact follow_dropped hfast

/-- The end of step 3 leaves `cmd` and the drive as they are. -/
theorem tick_quiet (h : s.TurnEnds) : Quiet s (s.dockingThreadFunction p ready) := by
  obtain ⟨hmode, hends, hexit⟩ := h
  rw [tick_of_turn ready hmode, chargingStationYawTracking_dockingExit, hexit]
  exact chargingStationYawTracking_quiet hends

/-- A published step, with its exit. -/
theorem Published.exitIf {s' : Node} (h : Published s s') (exit : Bool) :
    Published s (s'.exitIf exit) := by
  cases exit with
  | true =>
    obtain ⟨new, hlog, _⟩ := h
    exact exitIf_published ⟨new, hlog⟩
  | false => exact h

/-- A step that sends nothing, with its exit. -/
theorem exitIf_published_of_log {s' : Node} {exit : Bool} (hexit : exit = true)
    (h : s'.log = s.log) : Published s (s'.exitIf exit) := by
  rw [hexit]
  exact exitIf_published ⟨[], by rw [h, List.append_nil]⟩

theorem follow_exitIf_published {gain : ℚ} {exit : Bool} (h : ¬ (s.TooFast p gain ∧ exit = false)) :
    Published s ((s.follow p gain).1.exitIf exit) := by
  by_cases hfast : s.TooFast p gain
  · have hexit : exit = true := by simpa [hfast] using h
    exact exitIf_published_of_log hexit (follow_dropped hfast).1
  · exact (follow_published hfast).exitIf exit

/-- **In any other case a tick publishes what it leaves in `cmd`.** -/
theorem tick_published (hmode : s.dockingCommandMode ∈ [2, 3, 4, 10, 31]) (hdrops : ¬ s.Drops p)
    (hends : ¬ s.TurnEnds) : Published s (s.dockingThreadFunction p ready) := by
  simp only [List.mem_cons, List.not_mem_nil, or_false] at hmode
  rcases hmode with h2 | h3 | h4 | h10 | h31
  · rw [tick_of_search ready h2]
    by_cases hseen : s.arTagPose.aprilTagId = s.dockingId ∧ s.tagDistance p > 0.65
    · rw [chargingStationTracking_follow (s := { s with homeId := s.dockingId }) hseen]
      refine follow_exitIf_published (s := { s with homeId := s.dockingId }) ?_
      rw [(follow_exits 0.15).1]
      exact fun h => hdrops (Or.inl ⟨h2, hseen, h⟩)
    · exact (chargingStationTracking_published (s := { s with homeId := s.dockingId })
        hseen).exitIf _
  · rw [tick_of_turn ready h3, chargingStationYawTracking_dockingExit]
    by_cases hturn : s.Turned ∨ s.rotationCnt > 100
    · have hexit : s.dockingExit = true := by
        by_contra hnot
        exact hends ⟨h3, hturn, by simpa using hnot⟩
      exact exitIf_published_of_log hexit (chargingStationYawTracking_quiet hturn).1
    · exact (chargingStationYawTracking_published hturn).exitIf _
  · rw [tick_of_close ready h4]
    by_cases hseen : s.arTagPose.aprilTagId = s.homeId ∧ s.chargingStatus < 2
    · rw [chargingStationTracking2_follow hseen]
      refine follow_exitIf_published ?_
      rw [(follow_exits 0.1).2]
      exact fun h => hdrops (Or.inr ⟨h4, hseen, h⟩)
    · exact (chargingStationTracking2_published hseen).exitIf _
  · rw [dockingThreadFunction_of_mode h10]
    exact departStation2Move_published ready
  · have htick : s.dockingThreadFunction p ready = (s.chargingStationBackStep p).1 := by
      simp only [Node.dockingThreadFunction, h31]
    rw [htick]
    exact chargingStationBackStep_published

end Tick

/-! ## Stops -/

/-- The tick sets `cmd` to zero, whatever it was before. -/
def SetsZero (p : Platform) (s : Node) (ready : Bool) : Prop :=
  ∀ cmd, (Node.dockingThreadFunction p { s with cmd } ready).cmd = ⟨0, 0⟩

/-- A stop that a tick of a motion decides is the last Twist when the tick ends. -/
def StopSent (p : Platform) (s : Node) (ready : Bool) : Prop :=
  s.dockingCommandMode ∈ [2, 3, 4, 10, 31] → SetsZero p s ready →
    (s.dockingThreadFunction p ready).Stopped

/--
**Every stop is sent exactly if the over-speed exits find the drive stopped, or the run is left by
an exit as well.**
-/
theorem stopSent_iff (s : Node) (ready : Bool) :
    StopSent p s ready ↔ (s.Drops p → s.Stopped) := by
  constructor
  · intro h hdrops
    have hmode : s.dockingCommandMode ∈ [2, 3, 4, 10, 31] := by
      rcases hdrops with ⟨hmode, _⟩ | ⟨hmode, _⟩ <;> simp [hmode]
    have hsets : SetsZero p s ready := fun cmd =>
      (tick_dropped (s := { s with cmd }) ready hdrops).2
    exact (tick_dropped ready hdrops).stopped_iff.mp (h hmode hsets)
  · intro h hmode hsets
    by_cases hdrops : s.Drops p
    · exact (tick_dropped ready hdrops).stopped_iff.mpr (h hdrops)
    · by_cases hends : s.TurnEnds
      · -- the end of step 3 does not decide to stop
        have hquiet := (tick_quiet (p := p) (s := { s with cmd := ⟨1, 0⟩ }) ready hends).2
        have hone : (⟨0, 0⟩ : Twist) = ⟨1, 0⟩ := (hsets ⟨1, 0⟩).symm.trans hquiet
        exact absurd hone (by decide)
      · intro cmd hcmd
        rw [(tick_published ready hmode hdrops hends).lastTwist, Option.mem_some_iff] at hcmd
        rw [← hcmd]
        exact hsets s.cmd

/-- The marker straight ahead of the camera, at a distance of ten metres. -/
def markerFar : TfBuffer := fun target source => some
  (if target = "base_link" ∧ source = "camera_color_optical_frame" then ⟨0, 0, 0, {}⟩
    else ⟨10, 0, 0, {}⟩)

/-- The robot follows the marker, which is then seen ten metres away: it is to stop, and goes on. -/
theorem drives_after_overspeed :
    ∃ w, (service examplePlatform).Run
        [.dockingCommand 0 1, .tick true, .detections [0] markerAhead, .tick true,
          .detections [0] markerFar] w ∧
      (w.node.dockingThreadFunction examplePlatform true).lastTwist = some ⟨1 / 8, 0⟩ ∧
      ¬ StopSent examplePlatform w.node true := by
  have hrun : ∃ w, (service examplePlatform).Run
      [.dockingCommand 0 1, .tick true, .detections [0] markerAhead, .tick true,
        .detections [0] markerFar] w ∧ w.node.dockingCommandMode = 2 ∧
      (w.node.arTagPose.aprilTagId = w.node.dockingId ∧
        w.node.tagDistance examplePlatform > 0.65) ∧
      w.node.TooFast examplePlatform 0.15 ∧ w.node.robotDockingExit = false ∧
      w.node.lastTwist = some ⟨1 / 8, 0⟩ :=
    run_of_exec_mem (by decide +kernel)
  obtain ⟨w, hr, hmode, hseen, hfast, hexit, hlast⟩ := hrun
  have hdrops : w.node.Drops examplePlatform := Or.inl ⟨hmode, hseen, hfast, hexit⟩
  have hafter : (w.node.dockingThreadFunction examplePlatform true).lastTwist =
      some ⟨1 / 8, 0⟩ :=
    (tick_dropped true hdrops).lastTwist.trans hlast
  have hsets : SetsZero examplePlatform w.node true := fun cmd =>
    (tick_dropped (s := { w.node with cmd }) true hdrops).2
  refine ⟨w, hr, hafter, ?_⟩
  intro h
  have hstopped := h (by simp [hmode]) hsets ⟨1 / 8, 0⟩ hafter
  exact absurd hstopped (by decide +kernel)

end Tetra.Service
