import Tetra.Drive.MainLoop

/-!
# The bumper interlock

Three pieces of code switch the servo on: the driver-error recovery, the bumper check when
the bumper is released, and `Parameter_Write_Command`. Only the bumper check looks at the bumper.

`Interlocked` says of a log that every iteration which read 2 or 3 ended with the servo off, and
that no servo-on followed before an iteration read something else. `Unprovoked` is the condition
on the single iteration under which the loop keeps to it, and `interlocked_iff` says that it is
exactly that.
-/

namespace Tetra.Drive

open EventLog

/-! ## The property -/

/-- A servo command, and which way it switches. -/
def DriveEvent.servo : DriveEvent → Option Bool
  | .sent (.setServo on) _ => some on
  | _ => none

/-- An iteration that read 2 or 3 is over. -/
def DriveEvent.endsPressed : DriveEvent → Prop
  | .done bumper => bumperPressed bumper
  | _ => False

/-- An iteration reads a bumper value other than 2 and 3. -/
def DriveEvent.readsReleased : DriveEvent → Prop
  | .read bumper => ¬ bumperPressed bumper
  | _ => False

/-- Which way the last servo command sent so far switched the servo. -/
def lastServo (log : List DriveEvent) : Option Bool := lastOf DriveEvent.servo log

/-- An iteration that read 2 or 3 has ended, and no other value has been read since. -/
def Engaged (log : List DriveEvent) : Prop :=
  Armed DriveEvent.endsPressed DriveEvent.readsReleased log

structure Interlocked (log : List DriveEvent) : Prop where
  /-- The last servo command before the end of such an iteration is servo-off. -/
  off_at_end : Whenever DriveEvent.endsPressed (fun before _ => lastServo before = some false) log
  /-- No servo-on is sent while the interlock is engaged. -/
  no_servo_on : Whenever (fun e => e.servo = some true) (fun before _ => ¬ Engaged before) log

/-! ## One more event -/

section Events

variable {log : List DriveEvent} {c : DriveCommand} {on ok : Bool} {b : Int}

@[simp] theorem lastServo_setServo :
    lastServo (log ++ [.sent (.setServo on) ok]) = some on := by
  simp [lastServo, DriveEvent.servo]

theorem lastServo_sent (h : ∀ on, c ≠ .setServo on) :
    lastServo (log ++ [.sent c ok]) = lastServo log := by
  have hc : (DriveEvent.sent c ok).servo = none := by
    cases c <;> simp_all [DriveEvent.servo]
  simp [lastServo, hc]

@[simp] theorem lastServo_read : lastServo (log ++ [.read b]) = lastServo log := by
  simp [lastServo, DriveEvent.servo]

@[simp] theorem engaged_sent : Engaged (log ++ [.sent c ok]) ↔ Engaged log := by
  simp [Engaged, DriveEvent.endsPressed, DriveEvent.readsReleased]

@[simp] theorem engaged_read :
    Engaged (log ++ [.read b]) ↔ Engaged log ∧ bumperPressed b := by
  simp [Engaged, DriveEvent.endsPressed, DriveEvent.readsReleased]

@[simp] theorem engaged_done :
    Engaged (log ++ [.done b]) ↔ bumperPressed b ∨ Engaged log := by
  simp [Engaged, DriveEvent.endsPressed, DriveEvent.readsReleased]

theorem interlocked_concat {e : DriveEvent} :
    Interlocked (log ++ [e]) ↔ Interlocked log ∧
      (e.endsPressed → lastServo log = some false) ∧ (e.servo = some true → ¬ Engaged log) := by
  constructor
  · rintro ⟨hoff, hon⟩
    rw [whenever_concat] at hoff hon
    exact ⟨⟨hoff.1, hon.1⟩, hoff.2, hon.2⟩
  · rintro ⟨⟨hoff, hon⟩, hoff', hon'⟩
    exact ⟨whenever_concat.mpr ⟨hoff, hoff'⟩, whenever_concat.mpr ⟨hon, hon'⟩⟩

@[simp] theorem interlocked_setServo :
    Interlocked (log ++ [.sent (.setServo on) ok]) ↔
      Interlocked log ∧ (on = true → ¬ Engaged log) := by
  simp [interlocked_concat, DriveEvent.endsPressed, DriveEvent.servo]

theorem interlocked_sent (h : ∀ on, c ≠ .setServo on) :
    Interlocked (log ++ [.sent c ok]) ↔ Interlocked log := by
  have hc : (DriveEvent.sent c ok).servo = none := by
    cases c <;> simp_all [DriveEvent.servo]
  simp [interlocked_concat, DriveEvent.endsPressed, hc]

@[simp] theorem interlocked_read : Interlocked (log ++ [.read b]) ↔ Interlocked log := by
  simp [interlocked_concat, DriveEvent.endsPressed, DriveEvent.servo]

@[simp] theorem interlocked_done :
    Interlocked (log ++ [.done b]) ↔
      Interlocked log ∧ (bumperPressed b → lastServo log = some false) := by
  simp [interlocked_concat, DriveEvent.endsPressed, DriveEvent.servo]

end Events

/-! ## The parts of an iteration that only ever switch the servo on -/

/--
`s'` is `s` after commands of which the last servo command, if there is one, is servo-on.

`on` says whether there is one. What the interlock sees of such a piece of code is this.
-/
structure SwitchesOn (on : Bool) (s s' : Node) : Prop where
  interlocked : Interlocked s'.log ↔ Interlocked s.log ∧ (on = true → ¬ Engaged s.log)
  engaged : Engaged s'.log ↔ Engaged s.log
  servo : lastServo s'.log = if on then some true else lastServo s.log
  flag : s'.bflagBumper = s.bflagBumper
  mode : s'.bPositionModeFlag = s.bPositionModeFlag

namespace SwitchesOn

/-- An update that sends nothing. -/
theorem frame {s s' : Node} (hlog : s'.log = s.log) (hflag : s'.bflagBumper = s.bflagBumper)
    (hmode : s'.bPositionModeFlag = s.bPositionModeFlag) : SwitchesOn false s s' :=
  ⟨by simp [hlog], by rw [hlog], by simp [hlog], hflag, hmode⟩

theorem refl (s : Node) : SwitchesOn false s s := frame rfl rfl rfl

theorem trans {a b : Bool} {s s₁ s₂ : Node} (h₁ : SwitchesOn a s s₁) (h₂ : SwitchesOn b s₁ s₂) :
    SwitchesOn (a || b) s s₂ where
  interlocked := by
    rw [h₂.interlocked, h₁.interlocked, h₁.engaged]
    cases a <;> cases b <;> simp
  engaged := h₂.engaged.trans h₁.engaged
  servo := by
    rw [h₂.servo, h₁.servo]
    cases a <;> cases b <;> simp
  flag := h₂.flag.trans h₁.flag
  mode := h₂.mode.trans h₁.mode

theorem send {c : DriveCommand} (h : ∀ on, c ≠ .setServo on) (s : Node) (ok : Bool) :
    SwitchesOn false s (s.send c ok) where
  interlocked := by simp [interlocked_sent h]
  engaged := by simp
  servo := by simp [lastServo_sent h]
  flag := rfl
  mode := rfl

/-- The tail of the error recovery and of a parameter write. -/
theorem setServo (s : Node) (ok : Bool) : SwitchesOn true s (s.setServo 1 ok) where
  interlocked := by simp [Node.setServo]
  engaged := by simp [Node.setServo]
  servo := by simp [Node.setServo]
  flag := rfl
  mode := rfl

end SwitchesOn

/-- The callbacks that switch the servo or the mode on a message from outside the loop. -/
def Callback.switches : Callback → Bool
  | .servoOn .. | .powerStatus .. | .movemodeChange .. => true
  | _ => false

def Callback.isWrite : Callback → Bool
  | .parameterWrite .. => true
  | _ => false

/-- An iteration handles a `Parameter_Write_Command` request. -/
def Iteration.writes (it : Iteration) : Bool := it.callbacks.any Callback.isWrite

theorem parameterWrite_switchesOn (s : Node) (num data : Int) (okOff okWrite okOn : Bool) :
    SwitchesOn true s (s.parameterWriteCommand num data okOff okWrite okOn).1 where
  interlocked := by
    simp [Node.parameterWriteCommand, Node.setServo, interlocked_sent, -List.append_assoc]
  engaged := by simp [Node.parameterWriteCommand, Node.setServo, -List.append_assoc]
  servo := by simp [Node.parameterWriteCommand, Node.setServo, -List.append_assoc]
  flag := rfl
  mode := rfl

theorem handle_switchesOn {cb : Callback} (h : cb.switches = false) (s : Node) :
    SwitchesOn cb.isWrite s (s.handle cb) := by
  cases cb with
  | vel linear angular | manualVel linear angular => exact .frame rfl rfl rfl
  | accel data ok =>
    simp only [Node.handle, Node.accelCallback]
    split
    · exact (SwitchesOn.send (by simp) s ok).trans (.frame rfl rfl rfl)
    · exact .refl s
  | poseReset data ok =>
    simp only [Node.handle, Node.poseResetCallback]
    split
    · exact .send (by simp) s ok
    · exact .refl s
  | servoOn | powerStatus | movemodeChange => simp [Callback.switches] at h
  | parameterRead num reply =>
    exact (SwitchesOn.send (by simp) s reply.isSome).trans (.frame rfl rfl rfl)
  | parameterWrite num data okOff okWrite okOn =>
    exact parameterWrite_switchesOn s num data okOff okWrite okOn
  | linearMove linearPosition ok => exact .send (by simp) s ok
  | angularMove angularDegree ok => exact .send (by simp) s ok

theorem spinSome_switchesOn {callbacks : List Callback}
    (h : ∀ cb ∈ callbacks, cb.switches = false) :
    ∀ s : Node, SwitchesOn (callbacks.any Callback.isWrite) s (s.spinSome callbacks) := by
  induction callbacks with
  | nil => exact SwitchesOn.refl
  | cons cb rest ih =>
    -- one request among the callbacks is enough for a servo-on
    intro s
    have hcb := handle_switchesOn (h cb (by simp)) s
    exact hcb.trans (ih (fun cb' hcb' => h cb' (by simp [hcb'])) (s.handle cb))

theorem errorRecovery_switchesOn {s : Node} (hmode : s.bPositionModeFlag = false)
    (okReset okOn : Bool) :
    SwitchesOn s.driveErr.detected s (s.errorRecovery okReset okOn) := by
  unfold Node.errorRecovery
  cases hd : s.driveErr.detected with
  | false => simpa [hmode] using SwitchesOn.refl s
  | true =>
    have hreset := SwitchesOn.send (c := .setDriveErrReset) (by simp) s okReset
    simpa [hmode] using hreset.trans (.setServo _ okOn)

/-! ## What an iteration reads -/

/-- No callback touches what the driver last reported. -/
theorem handle_reports (s : Node) (cb : Callback) :
    (s.handle cb).odometry = s.odometry ∧ (s.handle cb).driveErr = s.driveErr := by
  cases cb with
  | accel | poseReset | powerStatus =>
    simp only [Node.handle, Node.accelCallback, Node.poseResetCallback, Node.powerStatusCallback]
    split <;> exact ⟨rfl, rfl⟩
  | servoOn =>
    simp only [Node.handle, Node.servoOnCallback]
    split_ifs <;> exact ⟨rfl, rfl⟩
  | movemodeChange =>
    simp only [Node.handle, Node.movemodeChangeCommand]
    split <;> exact ⟨rfl, rfl⟩
  | _ => exact ⟨rfl, rfl⟩

theorem spinSome_reports (callbacks : List Callback) :
    ∀ s : Node, (s.spinSome callbacks).odometry = s.odometry ∧
      (s.spinSome callbacks).driveErr = s.driveErr := by
  induction callbacks with
  | nil => exact fun s => ⟨rfl, rfl⟩
  | cons cb rest ih =>
    intro s
    obtain ⟨ho, he⟩ := ih (s.handle cb)
    exact ⟨ho.trans (handle_reports s cb).1, he.trans (handle_reports s cb).2⟩

/-- The bumper value an iteration checks: the one reported, or the last one if none is. -/
def reading (s : Node) (it : Iteration) : Int := (it.odometry.getD s.odometry).bumper

/-- The driver error an iteration sees. -/
def erroneous (s : Node) (it : Iteration) : Bool := (it.driveErr.getD s.driveErr).detected

theorem exchange_reports {s : Node} (hmode : s.bPositionModeFlag = false) (it : Iteration) :
    (s.exchange it).odometry = it.odometry.getD s.odometry ∧
      (s.exchange it).driveErr = it.driveErr.getD s.driveErr := by
  simp [Node.exchange, hmode, Node.setMoveCommand, Node.readDriveErr, Node.send]

theorem smoothVelocity_switchesOn (s : Node) : SwitchesOn false s s.smoothVelocity :=
  .frame rfl rfl rfl

theorem exchange_switchesOn (s : Node) (it : Iteration) : SwitchesOn false s (s.exchange it) := by
  unfold Node.exchange
  split
  · refine ⟨?_, ?_, ?_, rfl, rfl⟩
    all_goals simp [Node.setMoveCommand, Node.readDriveErr, interlocked_sent, lastServo_sent,
      -List.append_assoc]
  · exact .refl s

/-- What the interlock sees of the first half of an iteration in velocity mode. -/
structure Collected (s c : Node) (it : Iteration) : Prop where
  interlocked : Interlocked c.log ↔ Interlocked s.log ∧ (it.writes = true → ¬ Engaged s.log)
  engaged : Engaged c.log ↔ Engaged s.log ∧ bumperPressed (reading s it)
  servo : lastServo c.log = if it.writes then some true else lastServo s.log
  flag : c.bflagBumper = s.bflagBumper
  mode : c.bPositionModeFlag = false
  bumper : c.odometry.bumper = reading s it
  error : c.driveErr.detected = erroneous s it

theorem collected {s : Node} {it : Iteration} (hmode : s.bPositionModeFlag = false)
    (hcb : ∀ cb ∈ it.callbacks, cb.switches = false) : Collected s (s.collect it) it := by
  obtain ⟨ho, he⟩ := spinSome_reports it.callbacks s
  have hspin := (spinSome_switchesOn hcb s).trans (smoothVelocity_switchesOn _)
  have hall := hspin.trans (exchange_switchesOn _ it)
  simp only [Bool.or_false] at hspin hall
  have hmode' : (s.spinSome it.callbacks).smoothVelocity.bPositionModeFlag = false :=
    hspin.mode.trans hmode
  obtain ⟨hxo, hxe⟩ := exchange_reports hmode' it
  have hbumper : ((s.spinSome it.callbacks).smoothVelocity.exchange it).odometry.bumper
      = reading s it := by
    rw [hxo, reading, ← ho]
    rfl
  refine ⟨?_, ?_, ?_, hall.flag, hall.mode.trans hmode, hbumper, ?_⟩
  · simpa [Node.collect, Iteration.writes] using hall.interlocked
  · simp [Node.collect, hall.engaged, hbumper]
  · simpa [Node.collect, Iteration.writes] using hall.servo
  · rw [erroneous, ← he]
    exact congrArg DriveErr.detected hxe

@[simp] theorem errorRecovery_odometry (s : Node) (okReset okOn : Bool) :
    (s.errorRecovery okReset okOn).odometry = s.odometry := by
  unfold Node.errorRecovery
  split <;> rfl

@[simp] theorem bumperCheck_odometry (s : Node) (okServo okReset : Bool) :
    (s.bumperCheck okServo okReset).odometry = s.odometry := by
  unfold Node.bumperCheck
  split_ifs <;> rfl

/-! ## The bumper check -/

/-- What the bumper check leaves behind, when it is over. -/
structure Checked (pressed : Bool) (s c : Node) : Prop where
  interlocked : Interlocked c.log ↔ Interlocked s.log
  engaged : Engaged c.log ↔ Engaged s.log
  servo : pressed = true →
    lastServo c.log = if s.bflagBumper then some false else lastServo s.log
  flag : c.bflagBumper = !pressed
  mode : c.bPositionModeFlag = s.bPositionModeFlag

/-- The servo-on of the bumper check is sent after a reading that is neither 2 nor 3. -/
theorem checked {s : Node} {pressed : Bool} (hp : bumperPressed s.odometry.bumper = pressed)
    (h : Engaged s.log → pressed = true) (okServo okReset : Bool) :
    Checked pressed s (s.bumperCheck okServo okReset) := by
  unfold Node.bumperCheck
  cases pressed with
  | true =>
    cases hf : s.bflagBumper with
    | true =>
      refine ⟨?_, ?_, ?_, ?_, ?_⟩ <;>
        simp [Node.setServo, hp, interlocked_sent, lastServo_sent, Node.send, hf,
          -List.append_assoc]
    | false => exact ⟨by simp [hp], by simp [hp], by simp [hp, hf], by simp [hf, hp], by simp [hp]⟩
  | false =>
    have hne : ¬ Engaged s.log := fun he => by simpa using h he
    cases hf : s.bflagBumper with
    | true => exact ⟨by simp [hp], by simp [hp], by simp, by simp [hf, hp], by simp [hp]⟩
    | false =>
      refine ⟨?_, ?_, ?_, ?_, ?_⟩ <;>
        simp [Node.setServo, hp, hne, Node.send, -List.append_assoc]

/-! ## One iteration -/

/--
The condition on an iteration. After one that read 2 or 3, no parameter write waits, and if it
reads 2 or 3 as well, no driver error is seen with it. The very first iteration reads neither.
-/
def Unprovoked (s : Node) (it : Iteration) : Prop :=
  if bumperPressed s.odometry.bumper then
    it.writes = false ∧ (bumperPressed (reading s it) = true → erroneous s it = false)
  else s.bflagBumper = false → bumperPressed (reading s it) = false

/-- What holds of the node between two iterations in velocity mode. -/
structure Between (s : Node) : Prop where
  mode : s.bPositionModeFlag = false
  engaged : Engaged s.log ↔ bumperPressed s.odometry.bumper = true
  /-- The one-shot flag is down after a pressed bumper, and before the first iteration. -/
  flag : bumperPressed s.odometry.bumper = true → s.bflagBumper = false
  start : bumperPressed s.odometry.bumper = false → s.bflagBumper = false →
    lastServo s.log = some true
  servo : bumperPressed s.odometry.bumper = true → Interlocked s.log →
    lastServo s.log = some false

theorem startUp_switchesOn : SwitchesOn true {} Node.startUp :=
  have hbefore := ((SwitchesOn.send (by simp) {} true).trans (.send (by simp) _ true)).trans
    (.send (by simp) _ true)
  (hbefore.trans (.setServo _ true)).trans (.send (by simp) _ true)

theorem interlocked_startUp : Interlocked Node.startUp.log :=
  startUp_switchesOn.interlocked.mpr
    ⟨⟨whenever_nil _ _, whenever_nil _ _⟩, fun _ => not_armed_nil _ _⟩

theorem between_startUp : Between Node.startUp where
  mode := rfl
  engaged := iff_of_false (mt startUp_switchesOn.engaged.mp (not_armed_nil _ _)) (by decide)
  flag := by decide
  start _ _ := startUp_switchesOn.servo
  servo h := absurd h (by decide)

section Iteration

variable {s : Node} {it : Iteration}

/-- Where the servo is when the bumper check of an iteration that reads 2 or 3 is over. -/
def servoAtEnd (s : Node) (it : Iteration) : Option Bool :=
  if s.bflagBumper then some false
  else if erroneous s it || it.writes then some true else lastServo s.log

/-- What an iteration comes to, from the state before it. -/
structure Iterated (s s' : Node) (it : Iteration) : Prop where
  interlocked : Interlocked s'.log ↔ Interlocked s.log ∧
    (it.writes = true → ¬ Engaged s.log) ∧
    (erroneous s it = true → bumperPressed (reading s it) = true → ¬ Engaged s.log) ∧
    (bumperPressed (reading s it) = true → servoAtEnd s it = some false)
  engaged : Engaged s'.log ↔ bumperPressed (reading s it) = true
  servo : bumperPressed (reading s it) = true → lastServo s'.log = servoAtEnd s it
  flag : s'.bflagBumper = !bumperPressed (reading s it)
  mode : s'.bPositionModeFlag = false
  bumper : s'.odometry.bumper = reading s it

theorem iterated (hmode : s.bPositionModeFlag = false)
    (hcb : ∀ cb ∈ it.callbacks, cb.switches = false) : Iterated s (s.iteration it) it := by
  have hc := collected hmode hcb
  have hr := errorRecovery_switchesOn hc.mode it.okRecoveryReset it.okRecoveryOn
  have hk := checked (s := (s.collect it).errorRecovery it.okRecoveryReset it.okRecoveryOn)
    (by rw [errorRecovery_odometry, hc.bumper])
    (fun h => (hc.engaged.mp (hr.engaged.mp h)).2) it.okBumperServo it.okBumperReset
  have hservo : bumperPressed (reading s it) = true →
      lastServo (((s.collect it).errorRecovery it.okRecoveryReset it.okRecoveryOn).bumperCheck
        it.okBumperServo it.okBumperReset).log = servoAtEnd s it := by
    intro hb
    rw [hk.servo hb, hr.flag, hc.flag, hr.servo, hc.servo, hc.error, servoAtEnd]
    cases erroneous s it <;> cases it.writes <;> rfl
  have hlog : (s.iteration it).log =
      (((s.collect it).errorRecovery it.okRecoveryReset it.okRecoveryOn).bumperCheck
        it.okBumperServo it.okBumperReset).log ++ [.done (reading s it)] := by
    simp [Node.iteration, hc.bumper]
  refine ⟨?_, ?_, ?_, hk.flag, hk.mode.trans (hr.mode.trans hc.mode), ?_⟩
  · rw [hlog, interlocked_done, hk.interlocked, hr.interlocked, hc.interlocked, hc.engaged,
      hc.error]
    constructor
    · rintro ⟨⟨⟨hi, hw⟩, he⟩, hs⟩
      exact ⟨hi, hw, fun hx hb hg => he hx ⟨hg, hb⟩, fun hb => (hservo hb).symm.trans (hs hb)⟩
    · rintro ⟨hi, hw, he, hs⟩
      exact ⟨⟨⟨hi, hw⟩, fun hx hg => he hx hg.2 hg.1⟩, fun hb => (hservo hb).trans (hs hb)⟩
  · rw [hlog, engaged_done, hk.engaged, hr.engaged, hc.engaged]
    constructor
    · rintro (hb | ⟨_, hb⟩) <;> exact hb
    · exact Or.inl
  · intro hb
    rw [hlog, ← hservo hb]
    simp [lastServo, DriveEvent.servo]
  · rw [← hc.bumper]
    simp [Node.iteration, Node.mark]

theorem between_iteration (h : Between s) (hcb : ∀ cb ∈ it.callbacks, cb.switches = false) :
    Between (s.iteration it) := by
  have hit := iterated h.mode hcb
  refine ⟨hit.mode, ?_, ?_, ?_, ?_⟩
  · rw [hit.engaged, hit.bumper]
  · intro hp
    rw [hit.bumper] at hp
    rw [hit.flag, hp, Bool.not_true]
  · intro hp hdown
    -- after an iteration the flag is down only if the bumper is pressed
    rw [hit.bumper] at hp
    rw [hit.flag, hp] at hdown
    exact absurd hdown (by decide)
  · intro hp hil
    rw [hit.bumper] at hp
    rw [hit.servo hp]
    exact (hit.interlocked.mp hil).2.2.2 hp

/-- **An iteration keeps to the interlock exactly if it is unprovoked.** -/
theorem interlocked_iteration (h : Between s) (hcb : ∀ cb ∈ it.callbacks, cb.switches = false) :
    Interlocked (s.iteration it).log ↔ Interlocked s.log ∧ Unprovoked s it := by
  rw [(iterated h.mode hcb).interlocked, h.engaged, and_congr_right_iff]
  intro hil
  unfold Unprovoked servoAtEnd
  cases hp : bumperPressed s.odometry.bumper with
  | true =>
    -- the flag is down and the servo off: whatever switches it on now breaks the interlock
    rw [h.flag hp, h.servo hp hil]
    cases it.writes <;> cases erroneous s it <;> simp
  | false =>
    cases hf : s.bflagBumper with
    | true => simp
    | false =>
      -- only before the first iteration is the flag down with the bumper released
      rw [h.start hp hf]
      simp

end Iteration

/-! ## Runs of the loop -/

/-- An iteration whose waiting callbacks are velocity messages, reads, moves and parameter writes. -/
def Iteration.Quiet (it : Iteration) : Prop := ∀ cb ∈ it.callbacks, cb.switches = false

theorem between_of_run {its : List Iteration} {s : Node}
    (hr : loop.RunWith (fun _ it _ => it.Quiet) its s) : Between s :=
  hr.invariant between_startUp fun h hs hq => by
    obtain rfl := Option.some.inj hs
    exact between_iteration h hq

/--
**The interlock holds along a run exactly if every iteration of it is unprovoked.**

Both sides are about the same run: for every list of iterations in velocity mode, with any bumper
values, error codes and fuse states and with parameter writes waiting wherever they like.
-/
theorem interlocked_iff {its : List Iteration} {s : Node}
    (hr : loop.RunWith (fun _ it _ => it.Quiet) its s) :
    Interlocked s.log ↔ loop.RunWith (fun s it _ => Unprovoked s it) its s := by
  induction hr with
  | init => exact iff_of_true interlocked_startUp .init
  | snoc hr hs hq ih =>
    rw [Machine.runWith_concat_of_run hr.run hs, ← ih]
    obtain rfl := Option.some.inj hs
    exact interlocked_iteration (between_of_run hr) hq

/-- An iteration with nothing waiting, in which every command is acknowledged. -/
def Iteration.reads (bumper : Int) (driveErr : DriveErr) : Iteration :=
  ⟨[], some ⟨0, 0, 0, 0, 0, bumper, 0⟩, some driveErr, true, true, true, true⟩

/-- Both motors without error, both fuses in place. -/
def DriveErr.healthy : DriveErr := ⟨48, 48, 1, 1⟩

/-- A released bumper, a pressed one, and nothing else: the servo is off and stays off. -/
theorem interlocked_pressed_once :
    Interlocked (((Node.startUp.iteration (.reads 0 .healthy)).iteration
      (.reads 2 .healthy)).log) := by
  have hq : ∀ b e, (Iteration.reads b e).Quiet := by simp [Iteration.Quiet, Iteration.reads]
  have hr : loop.RunWith (fun _ it _ => it.Quiet) [.reads 0 .healthy, .reads 2 .healthy]
      ((Node.startUp.iteration (.reads 0 .healthy)).iteration (.reads 2 .healthy)) :=
    .snoc (.snoc .init rfl (hq _ _)) rfl (hq _ _)
  refine (interlocked_iff hr).mpr ?_
  exact .snoc (.snoc .init rfl (by simp [Unprovoked]; decide)) rfl (by simp [Unprovoked]; decide)

/-- The bumper stays pressed and the left motor reports an error: the recovery switches the
servo on, and the bumper check, whose flag is down by then, leaves it on. -/
theorem not_interlocked_on_driver_error :
    loop.RunWith (fun _ it _ => it.Quiet)
        [.reads 0 .healthy, .reads 2 .healthy, .reads 2 ⟨49, 48, 1, 1⟩]
        (((Node.startUp.iteration (.reads 0 .healthy)).iteration
          (.reads 2 .healthy)).iteration (.reads 2 ⟨49, 48, 1, 1⟩)) ∧
      ¬ Interlocked (((Node.startUp.iteration (.reads 0 .healthy)).iteration
          (.reads 2 .healthy)).iteration (.reads 2 ⟨49, 48, 1, 1⟩)).log := by
  have hq : ∀ b e, (Iteration.reads b e).Quiet := by simp [Iteration.Quiet, Iteration.reads]
  have h₁ : Between (Node.startUp.iteration (.reads 0 .healthy)) :=
    between_iteration between_startUp (hq _ _)
  have h₂ : Between ((Node.startUp.iteration (.reads 0 .healthy)).iteration
      (.reads 2 .healthy)) :=
    between_iteration h₁ (hq _ _)
  refine ⟨.snoc (.snoc (.snoc .init rfl (hq _ _)) rfl (hq _ _)) rfl (hq _ _), ?_⟩
  intro h
  have hu := ((interlocked_iteration h₂ (hq _ _)).mp h).2
  revert hu
  unfold Unprovoked
  decide

end Tetra.Drive
