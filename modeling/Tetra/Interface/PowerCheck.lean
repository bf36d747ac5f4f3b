import Tetra.Drive.Node
import Tetra.Serial.Power

/-!
# The power check of the interface node

The loop in `main` of `tetra_interface/src/tetra_interface.cpp` polls the power board. After
eleven polls in a row that have failed each further one writes an error log and has the drive
node switch the servo off; every poll that succeeds is published.

A failed poll publishes nothing else. In particular its result, which the drive node would
answer with servo-off as well, never gets on `power_status` (`powerFailure_iff`). And the error
log is written first: if its file cannot be opened the node is gone before the servo is off
(`watchdog_iff`).
-/

namespace Tetra.Interface

open EventLog

/-! ## The source -/

/-- The globals that `power_read_tetra` and the conveyor read-outs fill in. -/
structure Readings where
  battery : ℚ := 0
  voltage : ℚ := 0
  current : ℚ := 0
  modeStatus : Int := 0
  input : List Int := []
  output : List Int := []
  conveyorSensor : Int := 0
  conveyorMovement : Int := 0
  deriving DecidableEq

/-- A poll: what `read_tetra` returns, the globals after it, and whether the error log file can be
opened at that moment. -/
structure Poll where
  result : Int
  readings : Readings := {}
  opens : Bool := true
  deriving DecidableEq

/-- What the loop publishes, under the names of its publishers. -/
inductive Output
  | servo (data : Int)
  | powerStatus (data : Int)
  | tetraBattery (level : Int)
  | batteryVoltage (voltage : ℚ)
  | batteryCurrent (current : ℚ)
  | dockingStatus (data : Int)
  | gpioStatus (input output : List Int)
  | conveyorSensor (data : Int)
  | conveyorMovement (data : Int)
  deriving DecidableEq

/-- `m_iFlag_PowerCheck_cnt`, and whether the node has crashed. -/
structure PowerCheck where
  cnt : Nat := 0
  crashed : Bool := false
  deriving DecidableEq, Repr

/-- `Error_Log_write`: `fprintf` and `fclose` are called on `NULL` too, and do not return then. -/
def errorLogWrite (opens : Bool) : Option Unit := if opens then some () else none

/-- A double that becomes an int loses its fraction. -/
def toInt (x : ℚ) : Int := x.num.tdiv x.den

/-- What is published of a poll that succeeded. -/
def statuses (conveyorOption : Bool) (poll : Poll) : List Output :=
  [.powerStatus poll.result,
    .tetraBattery (toInt poll.readings.battery),
    .batteryVoltage poll.readings.voltage,
    .batteryCurrent poll.readings.current,
    .dockingStatus poll.readings.modeStatus,
    .gpioStatus poll.readings.input poll.readings.output] ++
  if conveyorOption then
    [.conveyorSensor poll.readings.conveyorSensor,
      .conveyorMovement poll.readings.conveyorMovement]
  else []

/-- The counter after a poll, and what the poll publishes. -/
def powerCheck (conveyorOption : Bool) (cnt : Nat) (poll : Poll) : Option (Nat × List Output) :=
  if poll.result < 0 then
    if cnt > 10 then do
      errorLogWrite poll.opens
      some (cnt, [.servo 2])
    else some (cnt + 1, [])
  else some (0, statuses conveyorOption poll)

namespace PowerCheck

variable (conveyorOption : Bool)

/-- The node after a poll. A node that has crashed does nothing more. -/
def poll (s : PowerCheck) (poll : Poll) : PowerCheck :=
  if s.crashed then s
  else ((powerCheck conveyorOption s.cnt poll).map fun r => ⟨r.1, false⟩).getD ⟨s.cnt, true⟩

/-- What the node publishes at a poll. -/
def sent (s : PowerCheck) (poll : Poll) : List Output :=
  if s.crashed then [] else ((powerCheck conveyorOption s.cnt poll).map (·.2)).getD []

end PowerCheck

/-- The node after a list of polls. -/
def afterPolls (conveyorOption : Bool) (polls : List Poll) : PowerCheck :=
  polls.foldl (PowerCheck.poll conveyorOption) {}

/-! ## Polls in a row that failed -/

/-- How many polls at the end of the list have failed, one after the other. -/
def failing (polls : List Poll) : Nat :=
  (polls.rtakeWhile fun poll => decide (poll.result < 0)).length

@[simp] theorem failing_nil : failing [] = 0 := rfl

theorem failing_concat (polls : List Poll) (poll : Poll) :
    failing (polls ++ [poll]) = if poll.result < 0 then failing polls + 1 else 0 :=
  streak_concat polls poll

section Runs

variable {conveyorOption : Bool}

theorem afterPolls_concat (polls : List Poll) (poll : Poll) :
    afterPolls conveyorOption (polls ++ [poll]) =
      (afterPolls conveyorOption polls).poll conveyorOption poll := by
  simp [afterPolls]

/-- Each poll at which the servo is to be switched off can write its error log. -/
def LogsOpen (polls : List Poll) : Prop :=
  Whenever (fun poll => poll.result < 0) (fun before poll => 11 ≤ failing before → poll.opens = true)
    polls

theorem powerCheck_eq {before : List Poll} {poll : Poll} :
    powerCheck conveyorOption (min (failing before) 11) poll =
      if poll.result < 0 then
        if 11 ≤ failing before then if poll.opens then some (11, [.servo 2]) else none
        else some (failing before + 1, [])
      else some (0, statuses conveyorOption poll) := by
  unfold powerCheck errorLogWrite
  by_cases hfail : poll.result < 0
  · rw [if_pos hfail, if_pos hfail]
    by_cases hlong : 11 ≤ failing before
    · rw [if_pos (by omega), if_pos hlong, Nat.min_eq_right hlong]
      cases poll.opens <;> rfl
    · rw [if_neg (by omega), if_neg hlong, Nat.min_eq_left (by omega)]
  · rw [if_neg hfail, if_neg hfail]

/-- **The counter is the number of polls that have failed in a row, up to 11, as long as the error
logs can be written.** -/
theorem afterPolls_eq {polls : List Poll} (h : LogsOpen polls) :
    afterPolls conveyorOption polls = ⟨min (failing polls) 11, false⟩ := by
  induction polls using List.reverseRecOn with
  | nil => rfl
  | append_singleton polls poll ih =>
    obtain ⟨hbefore, hopen⟩ := whenever_concat.mp h
    rw [afterPolls_concat, ih hbefore, PowerCheck.poll, powerCheck_eq, failing_concat,
      if_neg Bool.false_ne_true]
    by_cases hfail : poll.result < 0
    · rw [if_pos hfail, if_pos hfail]
      by_cases hlong : 11 ≤ failing polls
      · rw [if_pos hlong, if_pos (hopen hfail hlong),
          Nat.min_eq_right (show 11 ≤ failing polls + 1 by omega)]
        rfl
      · rw [if_neg hlong, Nat.min_eq_left (show failing polls + 1 ≤ 11 by omega)]
        rfl
    · rw [if_neg hfail, if_neg hfail]
      rfl

/-- What is published at a poll, as long as the error logs can be written. -/
theorem sent_eq {before : List Poll} {poll : Poll} (h : LogsOpen before) :
    (afterPolls conveyorOption before).sent conveyorOption poll =
      if poll.result < 0 then
        if 11 ≤ failing before ∧ poll.opens = true then [.servo 2] else []
      else statuses conveyorOption poll := by
  rw [afterPolls_eq h, PowerCheck.sent, powerCheck_eq, if_neg Bool.false_ne_true]
  by_cases hfail : poll.result < 0
  · rw [if_pos hfail, if_pos hfail]
    by_cases hlong : 11 ≤ failing before
    · rw [if_pos hlong]
      cases poll.opens <;> simp [hlong]
    · simp [hlong]
  · rw [if_neg hfail, if_neg hfail]
    rfl

/-! ## The watchdog -/

theorem servo_not_mem_statuses (poll : Poll) (data : Int) :
    Output.servo data ∉ statuses conveyorOption poll := by
  unfold statuses
  cases conveyorOption <;> simp

/-- Servo-off is published at a poll exactly if it fails and eleven in a row before it have. -/
def WatchesAt (conveyorOption : Bool) (before : List Poll) (poll : Poll) : Prop :=
  .servo 2 ∈ (afterPolls conveyorOption before).sent conveyorOption poll ↔
    poll.result < 0 ∧ 11 ≤ failing before

theorem watchesAt_iff {before : List Poll} {poll : Poll} (h : LogsOpen before) :
    WatchesAt conveyorOption before poll ↔
      (poll.result < 0 → 11 ≤ failing before → poll.opens = true) := by
  rw [WatchesAt, sent_eq h]
  by_cases hfail : poll.result < 0
  · by_cases hlong : 11 ≤ failing before
    · cases hopen : poll.opens <;> simp [hfail, hlong]
    · simp [hfail, hlong]
  · simp [hfail, servo_not_mem_statuses]

/--
**The watchdog does its work over a list of polls exactly if the error log can be written at each
poll at which the servo is to be switched off.**
-/
theorem watchdog_iff {polls : List Poll} :
    Whenever (fun _ => True) (WatchesAt conveyorOption) polls ↔ LogsOpen polls := by
  induction polls using List.reverseRecOn with
  | nil => exact iff_of_true (whenever_nil _ _) (whenever_nil _ _)
  | append_singleton polls poll ih =>
    rw [LogsOpen, whenever_concat, whenever_concat, ih]
    refine and_congr_right fun h => ?_
    rw [← @watchesAt_iff conveyorOption polls poll h]
    exact true_imp_iff

end Runs

/-- Twelve polls fail, and the log of the twelfth cannot be opened. -/
theorem watchdog_crashes :
    ∃ before poll, poll.result < 0 ∧ 11 ≤ failing before ∧
      (afterPolls false before).sent false poll = [] ∧
      (afterPolls false (before ++ [poll])).crashed = true ∧
      ¬ Whenever (fun _ => True) (WatchesAt false) (before ++ [poll]) := by
  refine ⟨List.replicate 11 { result := -10 }, { result := -10, opens := false }, by decide,
    by decide, by decide +kernel, by decide +kernel, fun h => ?_⟩
  have hat : WatchesAt false (List.replicate 11 { result := -10 })
      { result := -10, opens := false } := (whenever_concat.mp h).2 trivial
  exact absurd (hat.mpr ⟨by decide, by decide⟩) (by decide +kernel)

/-! ## The failure code on its way to the drive node -/

section PowerStatus

variable {conveyorOption : Bool}

/-- Only the results of polls that succeeded are published. -/
theorem powerStatus_mem_sent {s : PowerCheck} {poll : Poll} {data : Int}
    (h : .powerStatus data ∈ s.sent conveyorOption poll) : data = poll.result ∧ 0 ≤ data := by
  unfold PowerCheck.sent powerCheck at h
  split at h
  · simp at h
  · split at h
    · -- a failed poll publishes servo-off or nothing
      split at h
      · cases hopen : errorLogWrite poll.opens <;> simp [hopen] at h
      · simp at h
    · next hresult =>
      cases conveyorOption <;> simp [statuses] at h <;> omega

/-- The drive node answers what has been sent with servo-off. -/
def ReachesServoOff (sent : List Output) : Prop :=
  ∃ data, .powerStatus data ∈ sent ∧
    ∀ (d : Drive.Node) ok, d.handle (.powerStatus data ok) = d.setServo 0 ok

theorem not_reachesServoOff (s : PowerCheck) (poll : Poll) :
    ¬ ReachesServoOff (s.sent conveyorOption poll) := by
  rintro ⟨data, hmem, hdrive⟩
  have hdata : data ≠ -10 := by
    have := (powerStatus_mem_sent hmem).2
    omega
  -- a node that does not answer has sent nothing
  have hlog := congrArg Drive.Node.log (hdrive {} true)
  simp [Drive.Node.handle, Drive.Node.powerStatusCallback, Drive.Node.setServo, hdata] at hlog

/--
**The failure code is published, and the reaction of the drive node reached, over a list of polls
exactly if no poll has this result.** Whatever is published, the reaction is never reached.
-/
theorem powerFailure_iff {polls : List Poll} :
    (Whenever (fun poll => poll.result = -10)
        (fun before poll =>
          .powerStatus (-10) ∈ (afterPolls conveyorOption before).sent conveyorOption poll ∧
          ReachesServoOff ((afterPolls conveyorOption before).sent conveyorOption poll)) polls ↔
      ∀ poll ∈ polls, poll.result ≠ -10) ∧
    ∀ before poll, ¬ ReachesServoOff
      ((afterPolls conveyorOption before).sent conveyorOption poll) := by
  refine ⟨whenever_iff_forall_not fun before poll _ h => ?_, fun before poll => ?_⟩
  · exact not_reachesServoOff _ poll h.2
  · exact not_reachesServoOff _ poll

end PowerStatus

/-- The board is silent: the poll returns -10, and nothing is published. -/
theorem powerFailure_unpublished :
    (Serial.Power.powerReadTetra.call { fd := 3 } []).toOption.map (·.1) = some (some (-10)) ∧
    (afterPolls false []).sent false { result := -10 } = [] ∧
    ¬ Whenever (fun poll => poll.result = -10)
        (fun before poll => .powerStatus (-10) ∈ (afterPolls false before).sent false poll ∧
          ReachesServoOff ((afterPolls false before).sent false poll)) [{ result := -10 }] := by
  refine ⟨by decide +kernel, by decide +kernel, fun h => ?_⟩
  exact not_reachesServoOff _ _ (h [] { result := -10 } [] rfl rfl).2

end Tetra.Interface
