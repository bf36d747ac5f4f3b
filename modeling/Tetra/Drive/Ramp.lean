import Mathlib.Tactic.NormNum
import Tetra.Drive.MainLoop
import Tetra.Lib.Approach

/-!
# The velocity ramp

What the smoother does to `control_linear`: how far one iteration may move it, and where the
iterations take it.

An input at or below 0 while the speed is still positive is slowed down twice: by 10 mm/s as if
the robot sped up backwards, and by 50 mm/s on top of it.
-/

namespace Tetra.Drive

/-! ## One iteration -/

/-- The smoother, with the direction that `main` takes from the sign of the input. -/
def ramp (inputLinear controlLinear : ℚ) : ℚ :=
  smoothLinear (inputLinear > 0) inputLinear controlLinear

theorem Node.smoothVelocity_controlLinear (s : Node) :
    s.smoothVelocity.controlLinear = ramp s.linear s.controlLinear := rfl

section Branches

variable {u c : ℚ}

theorem ramp_self (u : ℚ) : ramp u u = u := by
  simp [ramp, smoothLinear]

theorem ramp_of_pos_of_lt (hu : 0 < u) (h : c < u) : ramp u c = min u (c + 0.01) := by
  simp [ramp, smoothLinear, hu, h]

theorem ramp_of_pos_of_gt (hu : 0 < u) (h : u < c) : ramp u c = max u (c - 0.05) := by
  simp [ramp, smoothLinear, hu, h, h.le]

theorem ramp_of_nonpos_of_lt (hu : u ≤ 0) (h : c < u) : ramp u c = min u (c + 0.05) := by
  simp [ramp, smoothLinear, hu.not_gt, h, h.le]

theorem ramp_of_slow (hu : u ≤ 0) (h : u < c) (hc : c ≤ 0.01) : ramp u c = max u (c - 0.01) := by
  have hstop : ¬ max u (c - 0.01) > 0 := by
    rw [gt_iff_lt, lt_max_iff, not_or]
    exact ⟨hu.not_gt, by linarith⟩
  simp only [ramp, smoothLinear, hu.not_gt, h, hstop, gt_iff_lt, decide_false,
    Bool.false_eq_true, if_false, if_true]

/-- The second step of 50 mm/s comes on top of the first of 10 mm/s. -/
theorem ramp_of_fast (hu : u ≤ 0) (hc : 0.01 < c) : ramp u c = max u (c - 0.06) := by
  have h : u < c := by linarith
  have hfirst : max u (c - 0.01) = c - 0.01 := max_eq_right (by linarith)
  have hfast : c - 0.01 > 0 := by linarith
  simp only [ramp, smoothLinear, hu.not_gt, h, hfirst, hfast, gt_iff_lt, decide_false,
    Bool.false_eq_true, if_false, if_true]
  congr 1
  linarith

end Branches

/-! ## The limit on one iteration -/

/-- `control_linear` goes from `c` to `c'` within the limits: 50 mm/s, and 10 mm/s when the speed
grows. -/
def RampLimited (c c' : ℚ) : Prop := |c' - c| ≤ 0.05 ∧ (|c| < |c'| → |c' - c| ≤ 0.01)

/-- The iterations that slow down twice and have the room to do so. -/
def SlowsTwice (u c : ℚ) : Prop := u ≤ 0 ∧ 0.01 < c ∧ (u < c - 0.05 ∨ u < -c)

theorem rampLimited_of_step {c c' : ℚ} (h : |c' - c| ≤ 0.01) : RampLimited c c' :=
  ⟨h.trans (by norm_num), fun _ => h⟩

theorem rampLimited_of_slower {c c' : ℚ} (h : |c' - c| ≤ 0.05) (hslower : |c'| ≤ |c|) :
    RampLimited c c' :=
  ⟨h, fun hfaster => absurd hfaster hslower.not_gt⟩

theorem rampLimited_fast_iff {u c : ℚ} (hu : u ≤ 0) (hc : 0.01 < c) :
    RampLimited c (max u (c - 0.06)) ↔ c - 0.05 ≤ u ∧ -c ≤ u := by
  have hreach : c - 0.05 ≤ u → max u (c - 0.06) = u ∧ |u - c| = c - u := by
    intro hstep
    exact ⟨max_eq_left (by linarith), by rw [abs_sub_comm, abs_of_nonneg (by linarith)]⟩
  constructor
  · rintro ⟨hstep, hfaster⟩
    have hnear : c - 0.05 ≤ u := by
      have hlow := neg_le_of_abs_le hstep
      have hmax : c - 0.05 ≤ max u (c - 0.06) := by linarith
      rcases le_max_iff.mp hmax with hu' | hc'
      · exact hu'
      · linarith
    obtain ⟨heq, hdistance⟩ := hreach hnear
    refine ⟨hnear, ?_⟩
    by_contra hcross
    rw [heq, hdistance, abs_of_nonpos hu, abs_of_pos (by linarith)] at hfaster
    linarith [hfaster (by linarith)]
  · rintro ⟨hnear, hcross⟩
    obtain ⟨heq, hdistance⟩ := hreach hnear
    rw [heq]
    refine rampLimited_of_slower (by rw [hdistance]; linarith) ?_
    rw [abs_of_nonpos hu, abs_of_pos (by linarith)]
    linarith

/-- Every other iteration is within the limits. -/
theorem rampLimited_of_not_slowsTwice {u c : ℚ} (h : ¬ (u ≤ 0 ∧ 0.01 < c)) :
    RampLimited c (ramp u c) := by
  rcases lt_trichotomy c u with hlt | rfl | hgt
  · by_cases hu : 0 < u
    · rw [ramp_of_pos_of_lt hu hlt]
      refine rampLimited_of_step ?_
      rw [abs_of_nonneg (by rw [sub_nonneg]; exact le_min hlt.le (by linarith))]
      linarith [min_le_right u (c + 0.01)]
    · have hneg : min u (c + 0.05) ≤ 0 := (min_le_left u _).trans (not_lt.mp hu)
      have hup : c ≤ min u (c + 0.05) := le_min hlt.le (by linarith)
      rw [ramp_of_nonpos_of_lt (not_lt.mp hu) hlt]
      refine rampLimited_of_slower ?_ ?_
      · rw [abs_of_nonneg (sub_nonneg.mpr hup)]
        linarith [min_le_right u (c + 0.05)]
      · rw [abs_of_nonpos hneg, abs_of_nonpos (hup.trans hneg)]
        linarith
  · rw [ramp_self]
    exact rampLimited_of_step (by norm_num)
  · by_cases hu : 0 < u
    · have hpos : 0 ≤ max u (c - 0.05) := hu.le.trans (le_max_left u _)
      have hdown : max u (c - 0.05) ≤ c := max_le hgt.le (by linarith)
      rw [ramp_of_pos_of_gt hu hgt]
      refine rampLimited_of_slower ?_ ?_
      · rw [abs_of_nonpos (sub_nonpos.mpr hdown)]
        linarith [le_max_right u (c - 0.05)]
      · rw [abs_of_nonneg hpos, abs_of_nonneg (hpos.trans hdown)]
        exact hdown
    · have hslow : c ≤ 0.01 := not_lt.mp fun hc => h ⟨not_lt.mp hu, hc⟩
      rw [ramp_of_slow (not_lt.mp hu) hgt hslow]
      refine rampLimited_of_step ?_
      rw [abs_of_nonpos (by rw [sub_nonpos]; exact max_le hgt.le (by linarith))]
      linarith [le_max_right u (c - 0.01)]

/-- An iteration is within the limits unless it slows down twice. -/
theorem smoothVelocity_rampLimited_iff (s : Node) :
    RampLimited s.controlLinear s.smoothVelocity.controlLinear ↔
      ¬ SlowsTwice s.linear s.controlLinear := by
  rw [Node.smoothVelocity_controlLinear]
  by_cases hfast : s.linear ≤ 0 ∧ 0.01 < s.controlLinear
  · obtain ⟨hu, hc⟩ := hfast
    rw [ramp_of_fast hu hc, rampLimited_fast_iff hu hc]
    simp only [SlowsTwice, hu, hc, true_and, not_or, not_lt]
  · have hnot : ¬ SlowsTwice s.linear s.controlLinear := fun h => hfast ⟨h.1, h.2.1⟩
    exact iff_of_true (rampLimited_of_not_slowsTwice hfast) hnot

/-- A stop at 1 m/s takes 60 mm/s off in one iteration. -/
theorem smoothVelocity_beyond_limit :
    ¬ ∀ s : Node, RampLimited s.controlLinear s.smoothVelocity.controlLinear := by
  intro h
  have hstop := (h { linear := 0, controlLinear := 1 }).1
  rw [Node.smoothVelocity_controlLinear, ramp_of_fast le_rfl (by norm_num)] at hstop
  norm_num at hstop

/-! ## Every iteration approaches the input -/

theorem approach_ramp (u c : ℚ) : Approach 0.01 u c (ramp u c) := by
  have hup {d : ℚ} (hd : 0.01 ≤ d) (h : c < u) : Approach 0.01 u c (min u (c + d)) := by
    have hc : c ≤ min u (c + d) := le_min h.le (by linarith)
    refine ⟨by rw [Set.uIcc_of_le h.le]; exact ⟨hc, min_le_left _ _⟩, ?_⟩
    rcases min_choice u (c + d) with hreached | hstep
    · exact .inl hreached
    · right
      have hle : c + d ≤ u := hstep ▸ min_le_left u (c + d)
      rw [hstep, abs_of_nonneg (by linarith), abs_of_nonneg (by linarith)]
      linarith
  have hdown {d : ℚ} (hd : 0.01 ≤ d) (h : u < c) : Approach 0.01 u c (max u (c - d)) := by
    have hc : max u (c - d) ≤ c := max_le h.le (by linarith)
    refine ⟨by rw [Set.uIcc_of_ge h.le]; exact ⟨le_max_left _ _, hc⟩, ?_⟩
    rcases max_choice u (c - d) with hreached | hstep
    · exact .inl hreached
    · right
      have hle : u ≤ c - d := hstep ▸ le_max_left u (c - d)
      rw [hstep, abs_of_nonpos (by linarith), abs_of_nonpos (by linarith)]
      linarith
  rcases lt_trichotomy c u with hlt | rfl | hgt
  · by_cases hu : 0 < u
    · rw [ramp_of_pos_of_lt hu hlt]
      exact hup le_rfl hlt
    · rw [ramp_of_nonpos_of_lt (not_lt.mp hu) hlt]
      exact hup (by norm_num) hlt
  · rw [ramp_self]
    exact ⟨Set.left_mem_uIcc, .inl rfl⟩
  · by_cases hu : 0 < u
    · rw [ramp_of_pos_of_gt hu hgt]
      exact hdown (by norm_num) hgt
    · by_cases hc : c ≤ 0.01
      · rw [ramp_of_slow (not_lt.mp hu) hgt hc]
        exact hdown le_rfl hgt
      · rw [ramp_of_fast (not_lt.mp hu) (not_le.mp hc)]
        exact hdown (by norm_num) hgt

/-! ## The main loop -/

namespace Node

/-- The node after `n` iterations. -/
def after (s : Node) (its : ℕ → Iteration) : ℕ → Node
  | 0 => s
  | n + 1 => (s.after its n).iteration (its n)

/-- The linear velocity that iteration `n` finds once its callbacks have run. -/
def commanded (s : Node) (its : ℕ → Iteration) (n : ℕ) : ℚ :=
  ((s.after its n).spinSome (its n).callbacks).linear

/-- `control_linear` after `n` iterations. -/
def speed (s : Node) (its : ℕ → Iteration) (n : ℕ) : ℚ := (s.after its n).controlLinear

theorem speed_zero (s : Node) (its : ℕ → Iteration) : s.speed its 0 = s.controlLinear := rfl

theorem handle_controlLinear (s : Node) (callback : Callback) :
    (s.handle callback).controlLinear = s.controlLinear := by
  cases callback with
  | vel | manualVel | parameterRead | parameterWrite | linearMove | angularMove => rfl
  | accel => simp only [handle, accelCallback]; split <;> rfl
  | poseReset => simp only [handle, poseResetCallback]; split <;> rfl
  | servoOn =>
    simp only [handle, servoOnCallback]
    split
    · rfl
    · split
      · rfl
      · split <;> rfl
  | powerStatus => simp only [handle, powerStatusCallback]; split <;> rfl
  | movemodeChange => simp only [handle, movemodeChangeCommand]; split <;> rfl

theorem spinSome_controlLinear (callbacks : List Callback) : ∀ s : Node,
    (s.spinSome callbacks).controlLinear = s.controlLinear := by
  induction callbacks with
  | nil => intro s; rfl
  | cons callback callbacks ih =>
    intro s
    exact (ih _).trans (s.handle_controlLinear callback)

theorem exchange_controlLinear (s : Node) (it : Iteration) :
    (s.exchange it).controlLinear = s.controlLinear := by
  unfold exchange
  split <;> rfl

theorem errorRecovery_controlLinear (s : Node) (okReset okOn : Bool) :
    (s.errorRecovery okReset okOn).controlLinear = s.controlLinear := by
  unfold errorRecovery
  split <;> rfl

theorem bumperCheck_controlLinear (s : Node) (okServo okReset : Bool) :
    (s.bumperCheck okServo okReset).controlLinear = s.controlLinear := by
  unfold bumperCheck
  split
  · split <;> rfl
  · split <;> rfl

/-- Within an iteration only the smoother writes `control_linear`. -/
theorem iteration_controlLinear (s : Node) (it : Iteration) :
    (s.iteration it).controlLinear = ramp (s.spinSome it.callbacks).linear s.controlLinear := by
  have hspin : (s.spinSome it.callbacks).controlLinear = s.controlLinear :=
    spinSome_controlLinear it.callbacks s
  calc (s.iteration it).controlLinear
      = ((s.collect it).errorRecovery it.okRecoveryReset it.okRecoveryOn).controlLinear :=
        bumperCheck_controlLinear _ _ _
    _ = ((s.spinSome it.callbacks).smoothVelocity.exchange it).controlLinear :=
        errorRecovery_controlLinear _ _ _
    _ = (s.spinSome it.callbacks).smoothVelocity.controlLinear := exchange_controlLinear _ _
    _ = ramp (s.spinSome it.callbacks).linear s.controlLinear := by
        rw [smoothVelocity_controlLinear, hspin]

theorem approach_speed (s : Node) (its : ℕ → Iteration) (n : ℕ) :
    Approach 0.01 (s.commanded its n) (s.speed its n) (s.speed its (n + 1)) := by
  rw [speed, speed, after, iteration_controlLinear]
  exact approach_ramp _ _

end Node

/-- A constant command is approached from one side and reached; commands of at most `M` keep the
speed at most `M`. -/
theorem speed_converges (s : Node) (its : ℕ → Iteration) :
    (∀ u, (∀ n, s.commanded its n = u) →
      (s.controlLinear ≤ u → Monotone (s.speed its)) ∧
      (u ≤ s.controlLinear → Antitone (s.speed its)) ∧
      (∀ n, s.speed its n ∈ Set.uIcc s.controlLinear u) ∧
      ∀ n, ⌈|u - s.controlLinear| / 0.01⌉₊ ≤ n → s.speed its n = u) ∧
    ∀ M, s.controlLinear = 0 → (∀ n, s.commanded its n ∈ Set.Icc (-M) M) →
      ∀ n, s.speed its n ∈ Set.Icc (-M) M := by
  constructor
  · intro u hu
    have happroach : ∀ n, Approach 0.01 u (s.speed its n) (s.speed its (n + 1)) :=
      fun n => hu n ▸ s.approach_speed its n
    rw [← s.speed_zero its]
    refine ⟨Approach.monotone happroach, Approach.antitone happroach, ?_, ?_⟩
    · intro n
      exact Approach.mem_uIcc happroach n.zero_le
    · intro n hn
      exact Approach.eq_of_le happroach (by norm_num) (Nat.ceil_le.mp hn)
  · intro M hstart hcommanded
    have hM : (0 : ℚ) ∈ Set.Icc (-M) M := by
      obtain ⟨hlow, hhigh⟩ := hcommanded 0
      exact ⟨by linarith, by linarith⟩
    have hspeed : s.speed its 0 ∈ Set.Icc (-M) M := by
      rw [s.speed_zero, hstart]
      exact hM
    exact Approach.mem_of_targets Set.ordConnected_Icc (s.approach_speed its) hspeed hcommanded

/-- An iteration with `0.02` m/s commanded. -/
def slowForward : Iteration := ⟨[.vel 0.02 0], none, none, true, true, true, true⟩

theorem speed_slowForward :
    Monotone (Node.startUp.speed fun _ => slowForward) ∧
    (∀ n ≥ 2, Node.startUp.speed (fun _ => slowForward) n = 0.02) ∧
    ∀ n, Node.startUp.speed (fun _ => slowForward) n ∈ Set.Icc (-0.02) 0.02 := by
  obtain ⟨hconstant, hbounded⟩ := speed_converges Node.startUp fun _ => slowForward
  have hcommanded : ∀ n, Node.startUp.commanded (fun _ => slowForward) n = 0.02 := by
    intro n
    simp only [Node.commanded, slowForward, Node.spinSome, List.foldl_cons, List.foldl_nil,
      Node.handle, Node.velCallback]
  have hstart : Node.startUp.controlLinear = 0 := rfl
  obtain ⟨hmonotone, -, -, hreached⟩ := hconstant 0.02 hcommanded
  refine ⟨hmonotone (by rw [hstart]; norm_num), fun n hn => hreached n ?_, ?_⟩
  · refine le_trans ?_ hn
    rw [hstart, Nat.ceil_le]
    norm_num
  · refine hbounded 0.02 hstart fun n => ?_
    rw [hcommanded]
    norm_num

end Tetra.Drive
