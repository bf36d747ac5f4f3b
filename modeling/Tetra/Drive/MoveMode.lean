import Tetra.Drive.MainLoop

/-!
# The move mode

`bPosition_mode_flag` is what the node takes the mode of the drive for: while it is set, the main
loop sends no velocities. `servo_onCallback` and `Movemode_Change_Command` write it before they
send their commands, and like everything else in the node they do not look at what the
commands return.

So the flag is the mode asked for last (`hostMode_run`), and the mode of the drive is the one
acknowledged last. `modes_agree_iff` says when these are the same.
-/

namespace Tetra.Drive

open EventLog Machine

/-! ## The two modes -/

/-- `false` and `true` of `bPosition_mode_flag`. -/
inductive MoveMode
  | velocity
  | position
  deriving DecidableEq, Repr

/-- The mode the drive is in after an event that changes it. -/
def DriveEvent.mode? : DriveEvent → Option MoveMode
  | .sent .setVelocityMode true => some .velocity
  | .sent .setPositionMode true => some .position
  | _ => none

def DriveEvent.velocity? : DriveEvent → Option (Int × Int)
  | .sent (.setVelocity2 left right) _ => some (left, right)
  | _ => none

namespace Node

/-- The mode of the last mode command the drive acknowledged. -/
def driveMode (s : Node) : Option MoveMode := lastOf DriveEvent.mode? s.log

/-- What the flag takes the mode for. -/
def hostMode (s : Node) : MoveMode := if s.bPositionModeFlag then .position else .velocity

/-- The velocities sent so far. -/
def velocities (s : Node) : List (Int × Int) := s.log.filterMap DriveEvent.velocity?

end Node

/-- The mode a callback asks for, and whether the drive acknowledges it. -/
def Callback.mode? : Callback → Option (MoveMode × Bool)
  | .servoOn data okMode _ =>
    if data = 1 then some (.velocity, okMode)
    else if data = 3 then some (.position, okMode)
    else none
  | .movemodeChange mode _ okMode _ => some (if mode = 1 then .position else .velocity, okMode)
  | _ => none

/-! ## What leaves the mode alone -/

/-- Neither the flag nor the mode of the drive changes, and no velocities are sent. -/
structure Quiet (s s' : Node) : Prop where
  flag : s'.bPositionModeFlag = s.bPositionModeFlag
  driveMode : s'.driveMode = s.driveMode
  velocities : s'.velocities = s.velocities

namespace Quiet

variable {s s₁ s₂ : Node}

theorem frame (hlog : s₁.log = s.log) (hflag : s₁.bPositionModeFlag = s.bPositionModeFlag) :
    Quiet s s₁ :=
  ⟨hflag, by rw [Node.driveMode, hlog, Node.driveMode],
    by rw [Node.velocities, hlog, Node.velocities]⟩

theorem refl (s : Node) : Quiet s s := frame rfl rfl

theorem trans (h₁ : Quiet s s₁) (h₂ : Quiet s₁ s₂) : Quiet s s₂ :=
  ⟨h₂.flag.trans h₁.flag, h₂.driveMode.trans h₁.driveMode, h₂.velocities.trans h₁.velocities⟩

/-- An event that is neither an acknowledged mode command nor a velocity command. -/
theorem event {e : DriveEvent} (hmode : e.mode? = none) (hvel : e.velocity? = none) (s : Node) :
    Quiet s (s.mark e) :=
  ⟨rfl, by simp [Node.driveMode, hmode], by simp [Node.velocities, hvel]⟩

theorem send {c : DriveCommand} {ok : Bool} (hmode : (DriveEvent.sent c ok).mode? = none)
    (hvel : (DriveEvent.sent c ok).velocity? = none) (s : Node) : Quiet s (s.send c ok) :=
  event hmode hvel s

theorem setServo (s : Node) (mode : Int) (ok : Bool) : Quiet s (s.setServo mode ok) :=
  send rfl rfl s

end Quiet

theorem errorRecovery_quiet (s : Node) (okReset okOn : Bool) :
    Quiet s (s.errorRecovery okReset okOn) := by
  unfold Node.errorRecovery
  split
  · exact (Quiet.send rfl rfl s).trans (.setServo _ 1 okOn)
  · exact .refl s

theorem bumperCheck_quiet (s : Node) (okServo okReset : Bool) :
    Quiet s (s.bumperCheck okServo okReset) := by
  unfold Node.bumperCheck
  split
  · split
    · exact (Quiet.setServo s 0 okServo).trans ((Quiet.send rfl rfl _).trans (.frame rfl rfl))
    · exact .refl s
  · split
    · exact (Quiet.setServo s 1 okServo).trans (.frame rfl rfl)
    · exact .refl s

/-- The velocity command and the error read-out. -/
theorem setMoveCommand_mode (s : Node) (linearVel angularVel : ℚ) (reply : Option Odometry) :
    (s.setMoveCommand linearVel angularVel reply).bPositionModeFlag = s.bPositionModeFlag ∧
      (s.setMoveCommand linearVel angularVel reply).driveMode = s.driveMode ∧
      ∃ sent, (s.setMoveCommand linearVel angularVel reply).velocities = s.velocities ++ [sent] := by
  refine ⟨rfl, ?_, ?_⟩
  · simp [Node.setMoveCommand, Node.send, Node.driveMode, DriveEvent.mode?]
  · simp [Node.setMoveCommand, Node.send, Node.velocities, DriveEvent.velocity?]

theorem readDriveErr_quiet (s : Node) (reply : Option DriveErr) :
    Quiet s (s.readDriveErr reply) :=
  (Quiet.send rfl rfl s).trans (.frame rfl rfl)

/-- Velocities are sent in velocity mode only. -/
theorem exchange_mode (s : Node) (it : Iteration) :
    (s.exchange it).bPositionModeFlag = s.bPositionModeFlag ∧
      (s.exchange it).driveMode = s.driveMode ∧
      ∃ sent, (s.exchange it).velocities = s.velocities ++ sent ∧
        (sent ≠ [] ↔ s.hostMode = .velocity) := by
  unfold Node.exchange
  cases hflag : s.bPositionModeFlag with
  | true =>
    refine ⟨hflag, rfl, [], (List.append_nil _).symm, ?_⟩
    simp [Node.hostMode, hflag]
  | false =>
    obtain ⟨hkeep, hmode, sent, hsent⟩ :=
      setMoveCommand_mode s s.controlLinear s.controlAngular it.odometry
    have hquiet := readDriveErr_quiet (s.setMoveCommand s.controlLinear s.controlAngular
      it.odometry) it.driveErr
    refine ⟨hquiet.flag.trans (hkeep.trans hflag), hquiet.driveMode.trans hmode, [sent],
      hquiet.velocities.trans hsent, ?_⟩
    simp [Node.hostMode, hflag]

/-! ## The node, one callback at a time -/

/-- A callback, or what an iteration does after the callbacks. -/
inductive Turn
  | callback (c : Callback)
  | rest (it : Iteration)

namespace Node

/-- The iteration without its callbacks. -/
def restOf (s : Node) (it : Iteration) : Node := s.iteration { it with callbacks := [] }

def turn (s : Node) : Turn → Node
  | .callback c => s.handle c
  | .rest it => s.restOf it

end Node

/-- The node in single turns. -/
def turns : Machine Node Turn := ⟨Node.startUp, fun s t => some (s.turn t)⟩

/-- An iteration of the main loop is a turn for each of its callbacks and one for the rest. -/
theorem iteration_eq_turns (s : Node) (it : Iteration) :
    s.iteration it = (it.callbacks.map Turn.callback ++ [Turn.rest it]).foldl Node.turn s := by
  rw [List.foldl_append, List.foldl_map]
  rfl

/-- What the rest of an iteration does to the mode: nothing. -/
theorem restOf_mode (s : Node) (it : Iteration) :
    (s.restOf it).bPositionModeFlag = s.bPositionModeFlag ∧
      (s.restOf it).driveMode = s.driveMode ∧
      ∃ sent, (s.restOf it).velocities = s.velocities ++ sent ∧
        (sent ≠ [] ↔ s.hostMode = .velocity) := by
  obtain ⟨hflag, hmode, sent, hsent, hiff⟩ := exchange_mode s.smoothVelocity it
  have hbefore : Quiet s s.smoothVelocity := .frame rfl rfl
  let collected := (s.smoothVelocity.exchange it).mark
    (.read (s.smoothVelocity.exchange it).odometry.bumper)
  have hcollected : Quiet (s.smoothVelocity.exchange it) collected := .event rfl rfl _
  have hafter : Quiet (s.smoothVelocity.exchange it) (s.restOf it) :=
    hcollected.trans ((errorRecovery_quiet collected it.okRecoveryReset it.okRecoveryOn).trans
      ((bumperCheck_quiet _ it.okBumperServo it.okBumperReset).trans (.event rfl rfl _)))
  refine ⟨hafter.flag.trans hflag, hafter.driveMode.trans (hmode.trans hbefore.driveMode), sent,
    hafter.velocities.trans (hsent.trans (by rw [hbefore.velocities])), hiff⟩

/-! ## Which mode a turn asks for -/

/-- The mode a turn asks for, and whether the drive acknowledges it. -/
def Turn.mode? : Turn → Option (MoveMode × Bool)
  | .callback c => c.mode?
  | .rest _ => none

/-- A callback that asks for no mode. -/
theorem handle_quiet {c : Callback} (h : c.mode? = none) (s : Node) : Quiet s (s.handle c) := by
  cases c with
  | vel linear angular | manualVel linear angular => exact .frame rfl rfl
  | accel data ok =>
    simp only [Node.handle, Node.accelCallback]
    split
    · exact (Quiet.send rfl rfl s).trans (.frame rfl rfl)
    · exact .refl s
  | poseReset data ok =>
    simp only [Node.handle, Node.poseResetCallback]
    split
    · exact .send rfl rfl s
    · exact .refl s
  | servoOn data okMode okServo =>
    simp only [Callback.mode?] at h
    simp only [Node.handle, Node.servoOnCallback]
    split_ifs at h ⊢
    · exact .setServo s 0 okServo
    · exact .refl s
  | powerStatus data ok =>
    simp only [Node.handle, Node.powerStatusCallback]
    split
    · exact .setServo s 0 ok
    · exact .refl s
  | parameterRead num reply =>
    exact (Quiet.send rfl rfl s).trans (.frame rfl rfl)
  | parameterWrite num data okOff okWrite okOn =>
    exact (Quiet.setServo s 0 okOff).trans ((Quiet.send rfl rfl _).trans (.setServo _ 1 okOn))
  | movemodeChange mode okOff okMode okOn => simp [Callback.mode?] at h
  | linearMove linearPosition ok => exact .send rfl rfl s
  | angularMove angularDegree ok => exact .send rfl rfl s

/-- The command that brings the drive to a mode. -/
def MoveMode.command : MoveMode → DriveCommand
  | .velocity => .setVelocityMode
  | .position => .setPositionMode

theorem driveMode_send (s : Node) (mode : MoveMode) (ok : Bool) :
    (s.send mode.command ok).driveMode = if ok then some mode else s.driveMode := by
  cases mode <;> cases ok <;>
    simp [Node.send, Node.driveMode, MoveMode.command, DriveEvent.mode?]

/-- A mode command with the servo off for it. -/
theorem driveMode_servoAround (s : Node) (mode : MoveMode) (okOff ok okOn : Bool) :
    (((s.setServo 0 okOff).send mode.command ok).setServo 1 okOn).driveMode =
      if ok then some mode else s.driveMode := by
  rw [(Quiet.setServo _ 1 okOn).driveMode, driveMode_send, (Quiet.setServo s 0 okOff).driveMode]

/-- A callback that asks for a mode sets the flag for it first and sends its command after. -/
theorem handle_mode {c : Callback} {mode : MoveMode} {ok : Bool} (h : c.mode? = some (mode, ok))
    (s : Node) : (s.handle c).hostMode = mode ∧
      (s.handle c).driveMode = if ok then some mode else s.driveMode := by
  cases c with
  | servoOn data okMode okServo =>
    simp only [Callback.mode?] at h
    split_ifs at h with h1 h3
    · obtain ⟨rfl, rfl⟩ := Prod.mk.inj (Option.some.inj h)
      simp only [Node.handle, Node.servoOnCallback, if_pos h1]
      refine ⟨rfl, (Quiet.setServo _ 1 okServo).driveMode.trans ?_⟩
      exact driveMode_send { s with bPositionModeFlag := false } .velocity okMode
    · obtain ⟨rfl, rfl⟩ := Prod.mk.inj (Option.some.inj h)
      have h2 : data ≠ 2 := by omega
      simp only [Node.handle, Node.servoOnCallback, if_neg h1, if_neg h2, if_pos h3]
      refine ⟨rfl, (Quiet.setServo _ 1 okServo).driveMode.trans ?_⟩
      exact driveMode_send { s with bPositionModeFlag := true } .position okMode
  | movemodeChange data okOff okMode okOn =>
    obtain ⟨hmode, rfl⟩ := Prod.mk.inj (Option.some.inj h)
    simp only [Node.handle, Node.movemodeChangeCommand]
    by_cases h1 : data = 1
    · rw [if_pos h1] at hmode
      rw [if_pos h1, ← hmode]
      exact ⟨rfl, driveMode_servoAround { s with bPositionModeFlag := true } .position okOff okMode
        okOn⟩
    · rw [if_neg h1] at hmode
      rw [if_neg h1, ← hmode]
      exact ⟨rfl, driveMode_servoAround { s with bPositionModeFlag := false } .velocity okOff okMode
        okOn⟩
  | _ => simp [Callback.mode?] at h

/-- A turn that asks for no mode. -/
theorem turn_quiet {t : Turn} (h : t.mode? = none) (s : Node) :
    (s.turn t).bPositionModeFlag = s.bPositionModeFlag ∧ (s.turn t).driveMode = s.driveMode := by
  cases t with
  | callback c => exact ⟨(handle_quiet h s).flag, (handle_quiet h s).driveMode⟩
  | rest it => exact ⟨(restOf_mode s it).1, (restOf_mode s it).2.1⟩

theorem turn_mode {t : Turn} {mode : MoveMode} {ok : Bool} (h : t.mode? = some (mode, ok))
    (s : Node) : (s.turn t).hostMode = mode ∧
      (s.turn t).driveMode = if ok then some mode else s.driveMode := by
  cases t with
  | callback c => exact handle_mode h s
  | rest it => exact absurd h (by simp [Turn.mode?])

/-! ## Host and drive -/

/-- The flag is set if and only if the drive acknowledged position mode last. -/
def ModesAgree (s : Node) : Prop :=
  s.bPositionModeFlag = true ↔ s.driveMode = some .position

/-- A mode the drive does not acknowledge is the one it is in. -/
def Turn.KeepsModes (s : Node) (t : Turn) : Prop :=
  ∀ mode, t.mode? = some (mode, false) → s.driveMode = some mode

theorem modesAgree_iff_hostMode {s : Node} (h : s.driveMode ≠ none) :
    ModesAgree s ↔ s.driveMode = some s.hostMode := by
  obtain ⟨mode, hmode⟩ := Option.ne_none_iff_exists'.mp h
  rw [ModesAgree, Node.hostMode, hmode]
  cases s.bPositionModeFlag <;> cases mode <;> simp

theorem driveMode_turn {s : Node} (t : Turn) (h : s.driveMode ≠ none) :
    (s.turn t).driveMode ≠ none := by
  cases hmode : t.mode? with
  | none => rwa [(turn_quiet hmode s).2]
  | some asked =>
    obtain ⟨mode, ok⟩ := asked
    rw [(turn_mode hmode s).2]
    cases ok with
    | true => simp
    | false => simpa using h

theorem modesAgree_turn {s : Node} {t : Turn} (hI : s.driveMode ≠ none) (hJ : ModesAgree s) :
    ModesAgree (s.turn t) ↔ t.KeepsModes s := by
  cases hmode : t.mode? with
  | none =>
    obtain ⟨hflag, hdrive⟩ := turn_quiet hmode s
    refine iff_of_true ?_ fun mode h => by simp [hmode] at h
    rwa [ModesAgree, hflag, hdrive]
  | some asked =>
    obtain ⟨mode, ok⟩ := asked
    obtain ⟨hhost, hdrive⟩ := turn_mode hmode s
    rw [modesAgree_iff_hostMode (driveMode_turn t hI), hhost, hdrive]
    cases ok with
    | true => exact iff_of_true rfl fun mode' h => by simp [hmode] at h
    | false =>
      constructor
      · intro h mode' h'
        obtain rfl : mode = mode' := by simpa [hmode] using h'
        exact h
      · exact fun h => h mode hmode

section Runs

variable {ts : List Turn} {s : Node}

/-- **The flag is the mode asked for last**, whatever became of it. -/
theorem hostMode_run (hr : turns.Run ts s) :
    s.hostMode = ((lastOf Turn.mode? ts).map (·.1)).getD .velocity := by
  induction hr with
  | init => rfl
  | @snoc ts s s' t hr hs _ ih =>
    obtain rfl := Option.some.inj hs
    rw [lastOf_concat]
    cases hmode : t.mode? with
    | none =>
      rw [Node.hostMode, (turn_quiet hmode s).1]
      exact ih
    | some asked => exact (turn_mode hmode s).1

/--
**The flag is the mode asked for last; the main loop sends velocities exactly while that is
velocity mode; and the drive is in this mode all along a run exactly if each mode it did not
acknowledge was the one it was in.**
-/
theorem modes_agree_iff (hr : turns.Run ts s) :
    s.hostMode = ((lastOf Turn.mode? ts).map (·.1)).getD .velocity ∧
      (∀ it, ∃ sent, (s.restOf it).velocities = s.velocities ++ sent ∧
        (sent ≠ [] ↔ s.hostMode = .velocity)) ∧
      (turns.RunWith (fun _ _ s' => ModesAgree s') ts s ↔
        turns.RunWith (fun s t _ => t.KeepsModes s) ts s) := by
  refine ⟨hostMode_run hr, fun it => (restOf_mode s it).2.2, ?_⟩
  refine runWith_invariant_iff (I := fun s => s.driveMode ≠ none) (by decide) ?_ ?_ ?_
  · intro s t s' hI hs
    obtain rfl := Option.some.inj hs
    exact driveMode_turn t hI
  · exact iff_of_false (by decide) (by decide)
  · intro s t s' hI hJ hs
    obtain rfl := Option.some.inj hs
    exact modesAgree_turn hI hJ

end Runs

/-- A run in which the drive acknowledges the first of two modes only. -/
theorem hostMode_of_refused :
    ∃ s, turns.Run [.callback (.servoOn 3 true true),
        .callback (.movemodeChange 0 true false true)] s ∧
      s.hostMode = .velocity := by
  have hrun : ∃ s, turns.Run [.callback (.servoOn 3 true true),
      .callback (.movemodeChange 0 true false true)] s := ⟨_, run_of_exec rfl⟩
  obtain ⟨s, hr⟩ := hrun
  exact ⟨s, hr, (modes_agree_iff hr).1.trans (by decide)⟩

/-- Position mode is not acknowledged: the flag is set, and the drive is in velocity mode. -/
theorem modes_disagree :
    ∃ s, turns.Run [.callback (.servoOn 3 false true)] s ∧ s.bPositionModeFlag = true ∧
      s.driveMode = some .velocity ∧ ¬ ModesAgree s := by
  refine ⟨_, run_of_exec rfl, rfl, by decide, fun h => ?_⟩
  exact absurd (h.mp rfl) (by decide)

end Tetra.Drive
