import Tetra.Service.Stops
import Tetra.Service.YawCorrection
import Mathlib.Tactic.Linarith
import Mathlib.Tactic.NormNum

/-!
# The speed limits of docking

The steps 2 and 4 test what they are about to publish, and exit if it is too fast. The steps 3 and
31 scale the distance, and the yaw that step 2 has kept, by gains of their own and publish the
result as it is. So the limits hold in a run exactly if those two steps find the tag near enough
and the yaw small enough (`limited_iff`). What is left in `cmd`, which step 2 publishes again with
one component replaced, is then within the limits as well.
-/

namespace Tetra.Service

open Machine EventLog

variable {p : Platform}

/-- Both components are between -1 and 1. -/
structure Twist.Limited (cmd : Twist) : Prop where
  linearX : -1.0 ≤ cmd.linearX ∧ cmd.linearX ≤ 1.0
  angularZ : -1.0 ≤ cmd.angularZ ∧ cmd.angularZ ≤ 1.0

/-- Every Twist sent between the two states is within the limits. -/
def Limits (s s' : Node) : Prop := ∀ cmd, .twist cmd ∈ sentBetween s s' → cmd.Limited

/-- If step 3 turns, the tag is within ten metres and the yaw within the 2.8th part of a radian. If
step 31 backs, the tag is within five metres. -/
def Node.Gentle (p : Platform) (s : Node) : Prop :=
  (s.dockingCommandMode = 3 → ¬ s.Turned → s.rotationCnt ≤ 100 →
      s.tagDistance p ≤ 10 ∧ -1 / 2.8 ≤ s.arTagPose.targetYaw ∧ s.arTagPose.targetYaw ≤ 1 / 2.8) ∧
    (s.dockingCommandMode = 31 → s.backCnt < 200 → s.tagDistance p ≤ 5)

instance (s : Node) : Decidable (s.Gentle p) := inferInstanceAs (Decidable (_ ∧ _))

/-! ## What a step publishes -/

section Moves

variable {s : Node}

theorem limited_stop : Twist.Limited ⟨0, 0⟩ := by
  constructor <;> norm_num

theorem tagDistance_nonneg (hsqrt : ∀ x, 0 ≤ x → 0 ≤ p.sqrt x) : 0 ≤ s.tagDistance p :=
  hsqrt _ (add_nonneg (mul_self_nonneg _) (mul_self_nonneg _))

/-- The approach tests its speed from above, and is not negative. -/
theorem limited_followed (hsqrt : ∀ x, 0 ≤ x → 0 ≤ p.sqrt x) {gain : ℚ} (hgain : 0 ≤ gain) :
    ∀ cmd ∈ s.followed p gain, cmd.Limited := by
  intro cmd hcmd
  unfold Node.followed at hcmd
  dsimp only at hcmd
  split at hcmd
  · simp at hcmd
  · next hslow =>
    obtain ⟨hlinear, hleft, hright⟩ : ¬ _ ∧ ¬ _ ∧ ¬ _ := by simpa only [not_or] using hslow
    have hdistance := tagDistance_nonneg (s := s) hsqrt
    have hpositive : 0 ≤ 1.0 * (s.tagDistance p / 1.2) * gain :=
      mul_nonneg (mul_nonneg (by norm_num) (div_nonneg hdistance (by norm_num))) hgain
    rw [List.mem_singleton.mp hcmd]
    exact ⟨⟨by linarith, not_lt.mp hlinear⟩, ⟨not_lt.mp hright, not_lt.mp hleft⟩⟩

theorem limited_searchTurn (h : s.cmd.Limited) : s.searchTurn.Limited := by
  refine ⟨h.linearX, ?_⟩
  unfold Node.searchTurn Node.rotationSpeed
  dsimp only
  split <;> norm_num

/-- Step 2 publishes what is left in `cmd` with one component replaced. -/
theorem limited_searches (hsqrt : ∀ x, 0 ≤ x → 0 ≤ p.sqrt x) (h : s.cmd.Limited) :
    ∀ cmd ∈ (s.searches p).2, cmd.Limited := by
  unfold Node.searches
  split
  · split
    · exact limited_followed hsqrt (by norm_num)
    · intro cmd hcmd
      rw [List.mem_singleton.mp hcmd]
      exact ⟨limited_stop.linearX, h.angularZ⟩
  · split
    · intro cmd hcmd
      rcases List.mem_cons.mp hcmd with rfl | hstop
      · exact limited_searchTurn h
      · rw [List.mem_singleton.mp hstop]
        exact limited_stop
    · intro cmd hcmd
      rw [List.mem_singleton.mp hcmd]
      exact limited_searchTurn h

theorem limited_closes (hsqrt : ∀ x, 0 ≤ x → 0 ≤ p.sqrt x) :
    ∀ cmd ∈ (s.closes p).2, cmd.Limited := by
  have hstop : ∀ cmd ∈ [Twist.stop], cmd.Limited := by
    intro cmd hcmd
    rw [List.mem_singleton.mp hcmd]
    exact limited_stop
  unfold Node.closes
  split
  · split
    · exact limited_followed hsqrt (by norm_num)
    · exact hstop
  · exact hstop

/-- The stop of an exit is within the limits. -/
theorem limited_exits {exit : Bool} {m : Int × List Twist} :
    (∀ cmd ∈ (Node.exits exit m).2, cmd.Limited) ↔ ∀ cmd ∈ m.2, cmd.Limited := by
  cases exit with
  | true =>
    simp only [Node.exits, if_true, List.forall_mem_append, List.forall_mem_singleton]
    exact and_iff_left limited_stop
  | false => exact Iff.rfl

/-- Step 3. -/
theorem limited_turns_iff (hsqrt : ∀ x, 0 ≤ x → 0 ≤ p.sqrt x) :
    (∀ cmd ∈ (s.turns p).2, cmd.Limited) ↔ (¬ s.Turned → s.rotationCnt ≤ 100 →
      s.tagDistance p ≤ 10 ∧ -1 / 2.8 ≤ s.arTagPose.targetYaw ∧
        s.arTagPose.targetYaw ≤ 1 / 2.8) := by
  have hdistance := tagDistance_nonneg (s := s) hsqrt
  unfold Node.turns
  split
  · next hturned => exact iff_of_true (by simp) fun hnot => absurd hturned hnot
  · next hturned =>
    split
    · next hcnt =>
      simp only [hturned, hcnt, not_false_eq_true, forall_true_left, List.forall_mem_singleton]
      constructor
      · rintro ⟨⟨hlinear, _⟩, hleft, hright⟩
        dsimp only at hlinear hleft hright
        norm_num at hlinear hleft hright ⊢
        exact ⟨by linarith, by linarith, by linarith⟩
      · rintro ⟨hnear, hleft, hright⟩
        norm_num at hleft hright
        constructor <;> norm_num <;> constructor <;> linarith
    · next hcnt => exact iff_of_true (by simp) fun _ hcnt' => absurd hcnt' hcnt

/-- Step 31. -/
theorem limited_backs_iff (hsqrt : ∀ x, 0 ≤ x → 0 ≤ p.sqrt x) :
    (∀ cmd ∈ (s.backs p).2, cmd.Limited) ↔ (s.backCnt < 200 → s.tagDistance p ≤ 5) := by
  have hdistance := tagDistance_nonneg (s := s) hsqrt
  unfold Node.backs
  split
  · next hcnt =>
    simp only [hcnt, forall_true_left, List.forall_mem_singleton]
    constructor
    · rintro ⟨⟨hlinear, _⟩, _⟩
      dsimp only at hlinear
      norm_num at hlinear
      linarith
    · intro hnear
      constructor <;> norm_num
      constructor <;> linarith
  · next hcnt =>
    refine iff_of_true ?_ fun hcnt' => absurd hcnt' hcnt
    intro cmd hcmd
    rw [List.mem_singleton.mp hcmd]
    exact limited_stop

/-- **Outside of the departure the limits hold exactly if the tick is gentle.** -/
theorem limited_moves_iff (hsqrt : ∀ x, 0 ≤ x → 0 ≤ p.sqrt x) (h : s.cmd.Limited)
    (hmode : s.dockingCommandMode ∈ [2, 3, 4, 31]) :
    (∀ cmd ∈ (s.moves p).2, cmd.Limited) ↔ s.Gentle p := by
  simp only [List.mem_cons, List.not_mem_nil, or_false] at hmode
  rcases hmode with h2 | h3 | h4 | h31
  · rw [moves_of_search h2]
    exact iff_of_true (limited_searches hsqrt h) ⟨fun h3 => by omega, fun h31 => by omega⟩
  · rw [moves_of_turn h3, limited_exits, limited_turns_iff hsqrt]
    constructor
    · exact fun hturns => ⟨fun _ => hturns, fun h31 => by omega⟩
    · exact fun hgentle => hgentle.1 h3
  · rw [moves_of_close h4, limited_exits]
    exact iff_of_true (limited_closes hsqrt) ⟨fun h3 => by omega, fun h31 => by omega⟩
  · rw [moves_of_back h31, limited_backs_iff hsqrt]
    constructor
    · exact fun hbacks => ⟨fun h3 => by omega, fun _ => hbacks⟩
    · exact fun hgentle => hgentle.2 h31

end Moves

/-! ## A tick -/

section Tick

variable {s s' : Node} (ready : Bool)

theorem limits_of_sent {twists : List Twist} (h : s'.log = s.log ++ sent twists) :
    Limits s s' ↔ ∀ cmd ∈ twists, cmd.Limited := by
  have hmem : ∀ cmd, Output.twist cmd ∈ sent twists ↔ cmd ∈ twists := by
    intro cmd
    simp [sent]
  simp only [Limits, sentBetween_of_append h, hmem]

/-- The departure is slow. -/
theorem limits_departStation2Move : Limits s (s.departStation2Move ready).1 := by
  have hslow : ∀ linearX ∈ [0, -0.05], Limits s (s.publishTwist linearX 0) := by
    intro linearX hx cmd hcmd
    rw [sentBetween_of_append (publishTwist_log s linearX 0), List.mem_singleton] at hcmd
    rw [Output.twist.inj hcmd]
    simp only [List.mem_cons, List.not_mem_nil, or_false] at hx
    rcases hx with rfl | rfl
    · exact limited_stop
    · constructor <;> norm_num
  cases hnear : s.nearStation with
  | true =>
    unfold Node.departStation2Move
    rw [if_pos hnear]
    split
    · exact hslow 0 (by simp)
    · exact hslow (-0.05) (by simp)
  | false =>
    -- the goal is no Twist
    have hlog : (s.departStation2Move ready).1.log =
        s.log ++ ([.twist ⟨0, 0⟩] ++ if ready then [.goal s.goalPose] else []) := by
      rw [departStation2Move_away hnear, setGoal_eq]
      exact List.append_assoc ..
    intro cmd hcmd
    rw [sentBetween_of_append hlog] at hcmd
    have hzero : cmd = ⟨0, 0⟩ := by cases ready <;> simpa using hcmd
    rw [hzero]
    exact limited_stop

/-- In the other modes a tick moves on, and no more. -/
theorem tick_cmd_of_not_mem (hmode : s.dockingCommandMode ∉ [2, 3, 4, 10, 31]) :
    (s.dockingThreadFunction p ready).cmd = s.cmd := by
  unfold Node.dockingThreadFunction
  split
  · rfl
  · next h => exact absurd h (by rintro h; simp [h] at hmode)
  · next h => exact absurd h (by rintro h; simp [h] at hmode)
  · next h => exact absurd h (by rintro h; simp [h] at hmode)
  · rfl
  · rfl
  · next h => exact absurd h (by rintro h; simp [h] at hmode)
  · next h => exact absurd h (by rintro h; simp [h] at hmode)
  · rfl

/-- What a tick within the limits leaves in `cmd` is within them. -/
theorem limited_tick (h : s.cmd.Limited)
    (hlimits : s.dockingCommandMode ∈ [2, 3, 4, 10, 31] →
      Limits s (s.dockingThreadFunction p ready)) :
    (s.dockingThreadFunction p ready).cmd.Limited := by
  by_cases hmode : s.dockingCommandMode ∈ [2, 3, 4, 10, 31]
  · by_cases hdrops : s.Drops p
    · rw [(tick_dropped ready hdrops).2]
      exact limited_stop
    · by_cases hends : s.TurnEnds
      · rw [(tick_quiet ready hends).2]
        exact h
      · exact hlimits hmode _ (tick_published ready hmode hdrops hends).mem_sentBetween
  · rw [tick_cmd_of_not_mem ready hmode]
    exact h

theorem limits_tick_iff (hsqrt : ∀ x, 0 ≤ x → 0 ≤ p.sqrt x) (hunset : Unset s)
    (h : s.cmd.Limited) (hmode : s.dockingCommandMode ∈ [2, 3, 4, 10, 31]) :
    Limits s (s.dockingThreadFunction p ready) ↔ s.Gentle p := by
  by_cases h10 : s.dockingCommandMode = 10
  · rw [dockingThreadFunction_of_mode h10]
    exact iff_of_true (limits_departStation2Move ready) ⟨fun h3 => by omega, fun h31 => by omega⟩
  · rw [limits_of_sent (tick_moves hunset ready h10).log]
    refine limited_moves_iff hsqrt h ?_
    simpa [h10] using hmode

end Tick

/-! ## Runs -/

/-- A tick of a motion keeps to the limits. -/
def TickLimited (w : World) (e : Event) (w' : World) : Prop :=
  (∃ ready, e = .tick ready) → w.node.dockingCommandMode ∈ [2, 3, 4, 10, 31] →
    Limits w.node w'.node

/-- A tick is gentle. -/
def GentleTick (p : Platform) (w : World) : Event → Prop
  | .tick _ => w.node.Gentle p
  | _ => True

instance (w : World) : ∀ e : Event, Decidable (GentleTick p w e)
  | .tick _ => inferInstanceAs (Decidable (w.node.Gentle p))
  | .detections .. | .joy .. | .dockingStatus .. | .cmdVel .. | .initialpose | .particleCloud ..
  | .dockingCommand .. | .dockingStop | .gotoLocation .. | .gotoLocation2 .. | .gotoCancel ..
  | .result .. => isTrue trivial

section Step

variable {s s' : Node} {w w' : World} {e : Event}

theorem gentle_of_not_mem (h : s.dockingCommandMode ∉ [2, 3, 4, 10, 31]) : s.Gentle p :=
  ⟨fun h3 => absurd (by simp [h3]) h, fun h31 => absurd (by simp [h31]) h⟩

theorem tickLimited_iff (hsqrt : ∀ x, 0 ≤ x → 0 ≤ p.sqrt x) (hunset : Unset w.node)
    (h : w.node.cmd.Limited) (hs : (service p).step w e = some w') :
    TickLimited w e w' ↔ GentleTick p w e := by
  obtain ⟨_, s', hnode, rfl⟩ := service_step.mp hs
  cases e with
  | tick ready =>
    obtain rfl := Option.some.inj hnode
    by_cases hmode : w.node.dockingCommandMode ∈ [2, 3, 4, 10, 31]
    · rw [GentleTick, ← limits_tick_iff ready hsqrt hunset h hmode]
      exact ⟨fun hlimited => hlimited ⟨ready, rfl⟩ hmode, fun hlimits _ _ => hlimits⟩
    · exact iff_of_true (fun _ hmem => absurd hmem hmode) (gentle_of_not_mem hmode)
  | _ =>
    refine iff_of_true ?_ trivial
    rintro ⟨ready, he⟩
    simp at he

/-- `cmd` stays within the limits. -/
theorem limited_step (h : w.node.cmd.Limited) (hs : (service p).step w e = some w')
    (hlimited : TickLimited w e w') : w'.node.cmd.Limited := by
  obtain ⟨_, s', hnode, rfl⟩ := service_step.mp hs
  by_cases he : ∃ ready, e = .tick ready
  · obtain ⟨ready, rfl⟩ := he
    obtain rfl := Option.some.inj hnode
    exact limited_tick ready h (hlimited ⟨ready, rfl⟩)
  · have hbetween := between_step hnode fun ready heq => he ⟨ready, heq⟩
    rcases hbetween.cmd with hsame | hzero
    · rw [after_node, hsame]
      exact h
    · rw [after_node, hzero]
      exact limited_stop

end Step

/--
**Every tick of a run keeps to the limits exactly if in each tick that turns or backs the tag is
near enough and the yaw small enough.**
-/
theorem limited_iff (hsqrt : ∀ x, 0 ≤ x → 0 ≤ p.sqrt x) {es : List Event} {w : World} :
    (service p).RunWith TickLimited es w ↔
      (service p).RunWith (fun w e _ => GentleTick p w e) es w := by
  refine runWith_congr_of_right (I := fun w => Unset w.node ∧ w.node.cmd.Limited)
    ⟨⟨rfl, rfl, rfl, rfl⟩, limited_stop⟩ ?_
    fun {w e w'} hI hs => tickLimited_iff hsqrt hI.1 hI.2 hs
  intro w e w' hI hs hgentle
  have hlimited := (tickLimited_iff hsqrt hI.1 hI.2 hs).mpr hgentle
  exact ⟨unset_service_step hI.1 hs, limited_step hI.2 hs hlimited⟩

theorem turningPlatform_sqrt_nonneg (x : ℚ) : 0 ≤ turningPlatform.sqrt x :=
  div_nonneg (Nat.cast_nonneg _) (Nat.cast_nonneg _)

/-- A marker that is turned away by a tenth is met at a gentle turn. -/
theorem limited_markerTurned :
    ∃ w, (service turningPlatform).RunWith TickLimited
        [.dockingCommand 0 1, .tick true, .detections [0] markerTurned, .tick true, .tick true] w ∧
      w.node.lastTwist = some ⟨-0.05, -0.28⟩ := by
  have hrun : ∃ w ∈ (service turningPlatform).execWith (GentleTick turningPlatform)
      [.dockingCommand 0 1, .tick true, .detections [0] markerTurned, .tick true, .tick true],
      w.node.lastTwist = some ⟨-0.05, -0.28⟩ := by
    decide +kernel
  obtain ⟨w, hw, hlast⟩ := hrun
  exact ⟨w, (limited_iff fun x _ => turningPlatform_sqrt_nonneg x).mpr (runWith_of_execWith hw),
    hlast⟩

/-- Half a metre in front of the camera, the tag is turned away by four tenths. -/
def markerAslant : TfBuffer := fun target source => some
  (if target = "base_link" ∧ source = "camera_color_optical_frame" then ⟨0, 0, 0, {}⟩
    else ⟨1 / 2, 0, 0, ⟨0, 1 / 5, 0, 1⟩⟩)

/-- Step 3 turns at more than one radian a second. -/
theorem turns_too_fast :
    ∃ w, (service turningPlatform).Run
        [.dockingCommand 0 1, .tick true, .detections [0] markerAslant, .tick true] w ∧
      ∃ w' ∈ (service turningPlatform).step w (.tick true),
        .twist ⟨-0.05, -1.12⟩ ∈ sentBetween w.node w'.node ∧ ¬ TickLimited w (.tick true) w' := by
  have hrun : ∃ w, (service turningPlatform).Run
      [.dockingCommand 0 1, .tick true, .detections [0] markerAslant, .tick true] w ∧
      w.node.dockingCommandMode = 3 ∧
      ∃ w' ∈ (service turningPlatform).step w (.tick true),
        .twist ⟨-0.05, -1.12⟩ ∈ sentBetween w.node w'.node :=
    run_of_exec_mem (by decide +kernel)
  obtain ⟨w, hr, h3, w', hw', hsent⟩ := hrun
  refine ⟨w, hr, w', hw', hsent, ?_⟩
  intro h
  have hlimited := h ⟨true, rfl⟩ (by simp [h3]) _ hsent
  exact absurd hlimited.angularZ.1 (by decide +kernel)

end Tetra.Service
