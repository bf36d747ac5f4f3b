import Tetra.Service.TagRecord

/-!
# What a docking run inherits

`Docking_Command` sets the id and the mode and nothing else. The counters, the exit flag, the
rotation mode and the last Twist are those that earlier runs have left behind, and each of them is
read somewhere before it is set. (`joyCallback`, which starts a run too, resets the exit flag.)

`Node.moves` is what a tick does to the outside, `tick_moves` that it is right, and
`independent_iff` says when two runs that see the same do the same.
-/

namespace Tetra.Service

open Machine

/-! ## What a tick does to the outside -/

/-- The flags that the source reads and never sets. -/
structure Unset (s : Node) : Prop where
  robotDockingExit : s.robotDockingExit = false
  obstacleRight : s.obstacleRight = false
  obstacleLeft : s.obstacleLeft = false
  obstacleCygbot : s.obstacleCygbot = false

/-- The Twist that ends a step. -/
def Twist.stop : Twist := ⟨0, 0⟩

namespace Node

variable (p : Platform) (s : Node)

/-- What the approach at `gain` publishes: nothing, if it would be too fast. -/
def followed (gain : ℚ) : List Twist :=
  let linearX := 1.0 * (s.tagDistance p / 1.2) * gain
  if linearX > 1.0 ∨ s.tagBearing p > 1.0 ∨ s.tagBearing p < -1.0 then []
  else [⟨linearX, s.tagBearing p⟩]

/-- The tag is straight ahead, to one degree. -/
def Straight : Prop := s.arTagPose.aprilTagPitch ≤ 0.0174533 ∧ s.arTagPose.aprilTagPitch ≥ -0.0174533

instance : Decidable s.Straight := inferInstanceAs (Decidable (_ ∧ _))

/-- The yaw that is to be turned away is none, to two thirds of a degree. -/
def Turned : Prop :=
  s.arTagPose.targetYaw ≤ 0.0174533 / 1.5 ∧ s.arTagPose.targetYaw ≥ -0.0174533 / 1.5

instance : Decidable s.Turned := inferInstanceAs (Decidable (_ ∧ _))

/-- The turn of a search: half of it is left over from the step before. -/
def searchTurn : Twist := ⟨s.cmd.linearX, rotationSpeed s.rotationMode⟩

/-- The mode after step 2, and what it publishes. -/
def searches : Int × List Twist :=
  if s.arTagPose.aprilTagId = s.dockingId then
    if s.tagDistance p > 0.65 then (s.dockingCommandMode, s.followed p 0.15)
    else (if s.Straight then 4 else 3, [⟨0, s.cmd.angularZ⟩])
  else if s.noMarkerCnt > 8000 then (9, [s.searchTurn, .stop])
  else (s.dockingCommandMode, [s.searchTurn])

/-- Step 3, before the exit. -/
def turns : Int × List Twist :=
  if s.Turned then (4, [])
  else if s.rotationCnt ≤ 100 then
    (s.dockingCommandMode,
      [⟨-1.0 * s.tagDistance p * 0.1, -1.0 * s.arTagPose.targetYaw * 2.8⟩])
  else (31, [])

/-- Step 31. -/
def backs : Int × List Twist :=
  if s.backCnt < 200 then (s.dockingCommandMode, [⟨-1.0 * s.tagDistance p * 0.2, 0⟩])
  else (2, [.stop])

/-- Step 4, before the exit. -/
def closes : Int × List Twist :=
  if s.arTagPose.aprilTagId = s.homeId then
    if s.chargingStatus < 2 then (s.dockingCommandMode, s.followed p 0.1) else (8, [.stop])
  else (if s.noMarkerCnt ≥ 10 then 8 else s.dockingCommandMode, [.stop])

/-- An exit at the end of a step: one more stop, and mode 0. -/
def exits (exit : Bool) (m : Int × List Twist) : Int × List Twist :=
  if exit then (0, m.2 ++ [.stop]) else m

/-- The mode after a tick and what it publishes, outside of the departure. -/
def moves : Int × List Twist :=
  match s.dockingCommandMode with
  | 1 => (2, [])
  | 2 => s.searches p
  | 3 => exits s.dockingExit (s.turns p)
  | 4 => exits s.dockingExit (s.closes p)
  | 8 => (0, [])
  | 9 => (0, [])
  | 31 => s.backs p
  | mode => (mode, [])

/-- The record after a tick: the end of step 2 keeps the angles for step 3. -/
def recorded : ArTagPose :=
  if s.dockingCommandMode = 2 ∧ s.arTagPose.aprilTagId = s.dockingId ∧ ¬ s.tagDistance p > 0.65 then
    { s.arTagPose with
      targetYaw := s.arTagPose.aprilTagPitch, targetTheta := s.arTagPose.positioningAngle }
  else s.arTagPose

end Node

/-- The messages that Twists are sent in. -/
def sent (twists : List Twist) : List Output := twists.map .twist

/-- A tick moves as `Node.moves` says. -/
structure Moves (p : Platform) (s s' : Node) : Prop where
  mode : s'.dockingCommandMode = (s.moves p).1
  log : s'.log = s.log ++ sent (s.moves p).2
  record : s'.arTagPose = s.recorded p
  dockingId : s'.dockingId = s.dockingId
  homeId : s'.homeId = if s.dockingCommandMode = 2 then s.dockingId else s.homeId

section Moves

variable {p : Platform} {s : Node}

theorem moves_of_search (h : s.dockingCommandMode = 2) : s.moves p = s.searches p := by
  simp [Node.moves, h]

theorem moves_of_turn (h : s.dockingCommandMode = 3) :
    s.moves p = Node.exits s.dockingExit (s.turns p) := by
  simp [Node.moves, h]

theorem moves_of_close (h : s.dockingCommandMode = 4) :
    s.moves p = Node.exits s.dockingExit (s.closes p) := by
  simp [Node.moves, h]

theorem moves_of_back (h : s.dockingCommandMode = 31) : s.moves p = s.backs p := by
  simp [Node.moves, h]

theorem follow_eq (gain : ℚ) :
    ∃ cmd, (s.follow p gain).1 = { s with cmd, log := s.log ++ sent (s.followed p gain) } := by
  unfold Node.follow Node.followed
  dsimp only
  split
  · next hlinear =>
    rw [if_pos (Or.inl hlinear)]
    exact ⟨⟨0, 0⟩, by simp [sent]⟩
  · next hlinear =>
    split
    · next hangular =>
      have hangular : s.tagBearing p > 1.0 ∨ s.tagBearing p < -1.0 := by
        simpa [Node.tagBearing] using hangular
      rw [if_pos (Or.inr hangular)]
      exact ⟨⟨0, 0⟩, by simp [sent]⟩
    · next hangular =>
      have hangular : ¬ (s.tagBearing p > 1.0 ∨ s.tagBearing p < -1.0) := by
        simpa [Node.tagBearing] using hangular
      rw [if_neg (not_or.mpr ⟨hlinear, hangular⟩)]
      exact ⟨_, rfl⟩

/-- Without obstacles the rotation is the one chosen before. -/
theorem rotationMovement_eq (h : Unset s) :
    s.rotationMovement = (s, Node.rotationSpeed s.rotationMode) := by
  simp [Node.rotationMovement, h.obstacleRight, h.obstacleLeft]

/-- The test at the end of step 2, as the source has it. -/
theorem straight_iff : (decide (s.arTagPose.aprilTagPitch ≤ 0.0174533) &&
    decide (s.arTagPose.aprilTagPitch ≥ -0.0174533)) = true ↔ s.Straight := by
  rw [Bool.and_eq_true, decide_eq_true_eq, decide_eq_true_eq, Node.Straight]

/-- The test of step 3. -/
theorem turned_iff : (decide (s.arTagPose.targetYaw ≤ 0.0174533 / 1.5) &&
    decide (s.arTagPose.targetYaw ≥ -0.0174533 / 1.5)) = true ↔ s.Turned := by
  rw [Bool.and_eq_true, decide_eq_true_eq, decide_eq_true_eq, Node.Turned]

/-- Step 2, for the id that the tick has just stored. -/
theorem chargingStationTracking_eq (h : Unset s) (h2 : s.dockingCommandMode = 2) :
    ∃ cmd cnt, (s.chargingStationTracking p true s.dockingId).1 =
      { s with
        cmd, noMarkerCnt := cnt, arTagPose := s.recorded p
        dockingCommandMode := (s.searches p).1, log := s.log ++ sent (s.searches p).2 } := by
  rw [Node.chargingStationTracking, if_pos rfl]
  by_cases htag : s.arTagPose.aprilTagId = s.dockingId
  · rw [if_pos htag]
    by_cases hfar : s.tagDistance p > 0.65
    · obtain ⟨cmd, hfollow⟩ := follow_eq (p := p) (s := s) 0.15
      have hrecord : s.recorded p = s.arTagPose := if_neg fun hnear => hnear.2.2 hfar
      have hsearches : s.searches p = (s.dockingCommandMode, s.followed p 0.15) := by
        rw [Node.searches, if_pos htag, if_pos hfar]
      rw [if_pos hfar, hfollow, hrecord, hsearches]
      exact ⟨cmd, s.noMarkerCnt, rfl⟩
    · -- the old `angular.z` is published
      have hrecord : s.recorded p = { s.arTagPose with
          targetYaw := s.arTagPose.aprilTagPitch, targetTheta := s.arTagPose.positioningAngle } :=
        if_pos ⟨h2, htag, hfar⟩
      have hsearches : s.searches p = (if s.Straight then 4 else 3, [⟨0, s.cmd.angularZ⟩]) := by
        rw [Node.searches, if_pos htag, if_neg hfar]
      rw [if_neg hfar, hrecord, hsearches]
      refine ⟨⟨0, s.cmd.angularZ⟩, 0, ?_⟩
      dsimp only [Node.publishCmd]
      split
      · next htest =>
        rw [if_pos (straight_iff.mp htest)]
        rfl
      · next htest =>
        rw [if_neg (mt straight_iff.mpr htest)]
        rfl
  · -- the old `linear.x` is published
    have hrecord : s.recorded p = s.arTagPose := if_neg fun hnear => htag hnear.2.1
    rw [if_neg htag, rotationMovement_eq h, hrecord, Node.searches, if_neg htag]
    by_cases hlong : s.noMarkerCnt > 8000
    · refine ⟨⟨0, 0⟩, 0, ?_⟩
      simp [Node.publishCmd, Node.publishTwist, hlong, sent, Node.searchTurn, Twist.stop]
    · refine ⟨s.searchTurn, s.noMarkerCnt + 1, ?_⟩
      simp [Node.publishCmd, hlong, sent, Node.searchTurn]

theorem yawRotation_eq (h : Unset s) (hturned : ¬ s.Turned) :
    ∃ cmd cnt, s.yawRotation p =
      { s with
        cmd, rotationCnt := cnt
        dockingCommandMode := (s.turns p).1, log := s.log ++ sent (s.turns p).2 } := by
  unfold Node.yawRotation Node.turns
  rw [if_neg hturned]
  by_cases hcnt : s.rotationCnt ≤ 100
  · rw [if_pos hcnt, if_pos hcnt, if_neg (by simp [h.obstacleCygbot])]
    exact ⟨_, s.rotationCnt + 1, rfl⟩
  · rw [if_neg hcnt, if_neg hcnt]
    exact ⟨s.cmd, 0, by simp [sent]⟩

/-- Step 3, before the exit. -/
theorem chargingStationYawTracking_eq (h : Unset s) :
    ∃ cmd cnt rotationMode, (s.chargingStationYawTracking p).1 =
      { s with
        cmd, rotationCnt := cnt, rotationMode
        dockingCommandMode := (s.turns p).1, log := s.log ++ sent (s.turns p).2 } := by
  unfold Node.chargingStationYawTracking
  by_cases hturned : s.Turned
  · rw [if_pos (turned_iff.mpr hturned), Node.turns, if_pos hturned]
    exact ⟨s.cmd, s.rotationCnt, s.rotationMode, by simp [sent]⟩
  · obtain ⟨cmd, cnt, hrotation⟩ := yawRotation_eq (p := p) h hturned
    rw [if_neg (mt turned_iff.mp hturned), hrotation]
    by_cases hleft : s.arTagPose.targetYaw > 0
    · rw [if_pos hleft]
      exact ⟨cmd, cnt, 2, rfl⟩
    · rw [if_neg hleft]
      exact ⟨cmd, cnt, 1, rfl⟩

/-- Step 31. -/
theorem chargingStationBackStep_eq (h : Unset s) :
    ∃ cmd cnt, (s.chargingStationBackStep p).1 =
      { s with
        cmd, backCnt := cnt
        dockingCommandMode := (s.backs p).1, log := s.log ++ sent (s.backs p).2 } := by
  unfold Node.chargingStationBackStep Node.backs
  by_cases hcnt : s.backCnt < 200
  · rw [if_pos hcnt, if_pos hcnt, if_neg (by simp [h.obstacleCygbot])]
    exact ⟨_, s.backCnt + 1, rfl⟩
  · rw [if_neg hcnt, if_neg hcnt]
    exact ⟨⟨0, 0⟩, 0, rfl⟩

/-- Step 4, before the exit. -/
theorem chargingStationTracking2_eq :
    ∃ cmd cnt, (s.chargingStationTracking2 p s.homeId).1 =
      { s with
        cmd, noMarkerCnt := cnt
        dockingCommandMode := (s.closes p).1, log := s.log ++ sent (s.closes p).2 } := by
  unfold Node.chargingStationTracking2 Node.closes
  by_cases htag : s.arTagPose.aprilTagId = s.homeId
  · rw [if_pos htag, if_pos htag]
    by_cases hcharging : s.chargingStatus < 2
    · obtain ⟨cmd, hfollow⟩ := follow_eq (p := p) (s := s) 0.1
      rw [if_pos hcharging, if_pos hcharging, hfollow]
      exact ⟨cmd, s.noMarkerCnt, rfl⟩
    · rw [if_neg hcharging, if_neg hcharging]
      exact ⟨⟨0, 0⟩, 0, rfl⟩
  · rw [if_neg htag, if_neg htag]
    dsimp only
    by_cases hlost : s.noMarkerCnt ≥ 10
    · refine ⟨⟨0, 0⟩, 0, ?_⟩
      simp [Node.publishTwist, Node.publishCmd, hlost, sent, Twist.stop]
    · refine ⟨⟨0, 0⟩, s.noMarkerCnt + 1, ?_⟩
      simp [Node.publishTwist, Node.publishCmd, hlost, sent, Twist.stop]

/-- The exit at the end of a step. -/
theorem exitIf_eq (s s' : Node) {m : Int × List Twist} (hmode : s'.dockingCommandMode = m.1)
    (hlog : s'.log = s.log ++ sent m.2) (exit : Bool) :
    ∃ cmd, s'.exitIf exit =
      { s' with
        cmd, dockingCommandMode := (Node.exits exit m).1
        log := s.log ++ sent (Node.exits exit m).2 } := by
  cases exit with
  | true =>
    refine ⟨⟨0, 0⟩, ?_⟩
    simp [Node.exitIf, Node.dockingExitCall, Node.publishTwist, Node.publishCmd, Node.exits, hlog,
      sent, Twist.stop]
  | false =>
    refine ⟨s'.cmd, ?_⟩
    simp [Node.exitIf, Node.exits, ← hmode, ← hlog]

/-- Steps other than 2 keep the record and the id of the marker. -/
theorem Moves.of_ne {s' : Node} (h2 : s.dockingCommandMode ≠ 2)
    (hmode : s'.dockingCommandMode = (s.moves p).1) (hlog : s'.log = s.log ++ sent (s.moves p).2)
    (hrecord : s'.arTagPose = s.arTagPose) (hdocking : s'.dockingId = s.dockingId)
    (hhome : s'.homeId = s.homeId) : Moves p s s' where
  mode := hmode
  log := hlog
  record := by rw [hrecord, Node.recorded, if_neg fun hnear => h2 hnear.1]
  dockingId := hdocking
  homeId := by rw [hhome, if_neg h2]

/-- A tick that goes on to a mode and does no more. -/
theorem Moves.of_mode {mode : Int} (h2 : s.dockingCommandMode ≠ 2) (hmoves : s.moves p = (mode, [])) :
    Moves p s { s with dockingCommandMode := mode } :=
  .of_ne h2 (by rw [hmoves]) (by simp [hmoves, sent]) rfl rfl rfl

/-- **What a tick does outside of the departure.** -/
theorem tick_moves (h : Unset s) (ready : Bool) (h10 : s.dockingCommandMode ≠ 10) :
    Moves p s (s.dockingThreadFunction p ready) := by
  unfold Node.dockingThreadFunction
  split
  · next hmode => exact .of_mode (by simp [hmode]) (by simp [Node.moves, hmode])
  · next hmode =>
    have hset : Unset ({ s with homeId := s.dockingId } : Node) := ⟨h.1, h.2, h.3, h.4⟩
    obtain ⟨cmd, cnt, htrack⟩ := chargingStationTracking_eq (p := p) hset hmode
    have hmoves := moves_of_search (p := p) hmode
    dsimp only at htrack ⊢
    rw [htrack]
    simp only [h.robotDockingExit, Node.exitIf, Bool.false_eq_true, if_false]
    exact ⟨by rw [hmoves]; rfl, by rw [hmoves]; rfl, rfl, rfl, (if_pos hmode).symm⟩
  · next hmode =>
    obtain ⟨cmd, cnt, rotationMode, hyaw⟩ := chargingStationYawTracking_eq (p := p) h
    dsimp only
    rw [hyaw]
    obtain ⟨cmd', hexit⟩ := exitIf_eq s
      { s with
        cmd, rotationCnt := cnt, rotationMode
        dockingCommandMode := (s.turns p).1, log := s.log ++ sent (s.turns p).2 }
      rfl rfl s.dockingExit
    rw [hexit, ← moves_of_turn hmode]
    exact .of_ne (by simp [hmode]) rfl rfl rfl rfl rfl
  · next hmode =>
    obtain ⟨cmd, cnt, hclose⟩ := chargingStationTracking2_eq (p := p) (s := s)
    dsimp only
    rw [hclose]
    obtain ⟨cmd', hexit⟩ := exitIf_eq s
      { s with
        cmd, noMarkerCnt := cnt
        dockingCommandMode := (s.closes p).1, log := s.log ++ sent (s.closes p).2 }
      rfl rfl s.dockingExit
    rw [hexit, ← moves_of_close hmode]
    exact .of_ne (by simp [hmode]) rfl rfl rfl rfl rfl
  · next hmode => exact .of_mode (by simp [hmode]) (by simp [Node.moves, hmode])
  · next hmode => exact .of_mode (by simp [hmode]) (by simp [Node.moves, hmode])
  · next hmode => exact absurd hmode h10
  · next hmode =>
    obtain ⟨cmd, cnt, hback⟩ := chargingStationBackStep_eq (p := p) h
    rw [hback, ← moves_of_back hmode]
    exact .of_ne (by simp [hmode]) rfl rfl rfl rfl rfl
  · next h1 h2 h3 h4 h8 h9 h10 h31 =>
    refine .of_mode h2 ?_
    unfold Node.moves
    split <;> simp_all

end Moves

/-! ## Flags that stay unset -/

theorem Unset.of_heard {s s' : Node} (hsame : s'.heard = s.heard) (h : Unset s) : Unset s' where
  robotDockingExit := (congrArg Heard.robotDockingExit hsame).trans h.robotDockingExit
  obstacleRight := (congrArg Heard.obstacleRight hsame).trans h.obstacleRight
  obstacleLeft := (congrArg Heard.obstacleLeft hsame).trans h.obstacleLeft
  obstacleCygbot := (congrArg Heard.obstacleCygbot hsame).trans h.obstacleCygbot

theorem unset_step {p : Platform} {s s' : Node} {e : Event} (h : Unset s)
    (hs : s.step p e = some s') : Unset s' := by
  cases e with
  | detections ids tf =>
    obtain ⟨tag, htag⟩ := apriltagCallback_eq p s ids tf
    rw [← Option.some.inj hs, htag]
    exact ⟨h.1, h.2, h.3, h.4⟩
  | dockingStatus data =>
    rw [← Option.some.inj hs]
    exact ⟨h.1, h.2, h.3, h.4⟩
  | _ => exact h.of_heard (step_heard hs (by simp) (by simp))

theorem unset_service_step {p : Platform} {w w' : World} {e : Event} (h : Unset w.node)
    (hs : (service p).step w e = some w') : Unset w'.node := by
  obtain ⟨_, s', hnode, rfl⟩ := service_step.mp hs
  exact unset_step h hnode

theorem unset_run {p : Platform} {es : List Event} {w : World} (hr : (service p).Run es w) :
    Unset w.node :=
  hr.invariant (I := fun w => Unset w.node) ⟨rfl, rfl, rfl, rfl⟩ fun h hs _ =>
    unset_service_step h hs

/-! ## Two nodes that see the same -/

/-- What can follow a `Docking_Command` without a request: tags, charging states and ticks. -/
inductive Sensing
  | tick (ready : Bool)
  | detections (ids : List Int) (tf : TfBuffer)
  | dockingStatus (data : Int)

def Sensing.event : Sensing → Event
  | .tick ready => .tick ready
  | .detections ids tf => .detections ids tf
  | .dockingStatus data => .dockingStatus data

/-- Two nodes that get the same messages. -/
def twins (p : Platform) (l r : Node) : Machine (Node × Node) Sensing where
  init := (l, r)
  step s e := do
    let l ← s.1.step p e.event
    let r ← s.2.step p e.event
    some (l, r)

/-- The Twists sent between `s` and a later `s'`. -/
def twistsBetween (s s' : Node) : List Twist := (sentBetween s s').filterMap Output.twist?

/-- The two are in the same mode, and have just published the same. -/
def Alike (s s' : Node × Node) : Prop :=
  s'.1.dockingCommandMode = s'.2.dockingCommandMode ∧
    twistsBetween s.1 s'.1 = twistsBetween s.2 s'.2

/-- What the next tick reads of earlier runs is the same in both, or makes no difference. -/
def TickAgrees (p : Platform) (l r : Node) : Prop :=
  match l.dockingCommandMode with
  | 2 =>
    if l.arTagPose.aprilTagId = l.dockingId then
      l.tagDistance p > 0.65 ∨ l.cmd.angularZ = r.cmd.angularZ
    else l.searchTurn = r.searchTurn ∧ (l.noMarkerCnt > 8000 ↔ r.noMarkerCnt > 8000)
  | 3 => l.dockingExit = r.dockingExit ∧ (l.Turned ∨ (l.rotationCnt ≤ 100 ↔ r.rotationCnt ≤ 100))
  | 4 =>
    l.dockingExit = r.dockingExit ∧
      (l.arTagPose.aprilTagId = l.homeId ∨ l.dockingExit = true ∨
        (l.noMarkerCnt ≥ 10 ↔ r.noMarkerCnt ≥ 10))
  | 31 => l.backCnt < 200 ↔ r.backCnt < 200
  | _ => True

instance (p : Platform) (l r : Node) : Decidable (TickAgrees p l r) := by
  unfold TickAgrees
  split <;> infer_instance

def LeftoversAgree (p : Platform) (s : Node × Node) : Sensing → Prop
  | .tick _ => TickAgrees p s.1 s.2
  | _ => True

instance (p : Platform) (s : Node × Node) (e : Sensing) : Decidable (LeftoversAgree p s e) := by
  cases e <;> unfold LeftoversAgree <;> infer_instance

/-- Two nodes that differ in leftovers only. -/
structure Twin (l r : Node) : Prop where
  left : Unset l
  right : Unset r
  record : l.arTagPose.detected = r.arTagPose.detected
  /-- Step 2 sets the yaw that is to be turned away before it goes on to step 3. -/
  targetYaw : l.dockingCommandMode = 3 → l.arTagPose.targetYaw = r.arTagPose.targetYaw
  chargingStatus : l.chargingStatus = r.chargingStatus
  dockingId : l.dockingId = r.dockingId
  mode : l.dockingCommandMode = r.dockingCommandMode
  docking : l.dockingCommandMode ≠ 10
  /-- Step 2 sets the id of the marker. -/
  homeId : l.dockingCommandMode ≠ 1 → l.dockingCommandMode ≠ 2 → l.homeId = r.homeId

section Twin

variable {p : Platform} {l r l' r' : Node}

/-- What the steps read of the detected part of the record. -/
theorem eq_of_detected {t t' : ArTagPose} (h : t.detected = t'.detected) :
    t.aprilTagId = t'.aprilTagId ∧ t.aprilTagPitch = t'.aprilTagPitch ∧
      t.transformOldPoseX = t'.transformOldPoseX ∧ t.transformOldPoseY = t'.transformOldPoseY := by
  simp only [ArTagPose.detected, ArTagPose.mk.injEq] at h
  tauto

theorem tagDistance_congr (h : l.arTagPose.detected = r.arTagPose.detected) :
    l.tagDistance p = r.tagDistance p := by
  obtain ⟨-, -, hx, hy⟩ := eq_of_detected h
  rw [Node.tagDistance, Node.tagDistance, hx, hy]

theorem followed_congr (h : l.arTagPose.detected = r.arTagPose.detected) (gain : ℚ) :
    l.followed p gain = r.followed p gain := by
  obtain ⟨-, -, hx, hy⟩ := eq_of_detected h
  unfold Node.followed Node.tagBearing
  rw [tagDistance_congr h, hx, hy]

theorem straight_congr (h : l.arTagPose.detected = r.arTagPose.detected) :
    l.Straight ↔ r.Straight := by
  obtain ⟨-, hpitch, -⟩ := eq_of_detected h
  rw [Node.Straight, Node.Straight, hpitch]

theorem turned_congr (h : l.arTagPose.targetYaw = r.arTagPose.targetYaw) : l.Turned ↔ r.Turned := by
  rw [Node.Turned, Node.Turned, h]

theorem Twin.tagId (h : Twin l r) : l.arTagPose.aprilTagId = r.arTagPose.aprilTagId :=
  (eq_of_detected h.record).1

/-! A detection writes the detected part of the record from that part. -/

theorem setTransformPose_detected (s : Node) : s.setTransformPose.arTagPose.detected =
    (Node.setTransformPose { arTagPose := s.arTagPose.detected }).arTagPose.detected := by
  unfold Node.setTransformPose
  dsimp only
  by_cases hpos : s.arTagPose.positioningAngle > 0
  · have hpos' : s.arTagPose.detected.positioningAngle > 0 := hpos
    rw [if_pos hpos, if_pos hpos']
    rfl
  · have hpos' : ¬ s.arTagPose.detected.positioningAngle > 0 := hpos
    rw [if_neg hpos, if_neg hpos']
    rfl

theorem setTransformPose_congr (h : l.arTagPose.detected = r.arTagPose.detected) :
    l.setTransformPose.arTagPose.detected = r.setTransformPose.arTagPose.detected := by
  rw [setTransformPose_detected, setTransformPose_detected r, h]

theorem apriltagCallback_detected (s : Node) (ids : List Int) (tf : TfBuffer) :
    (s.apriltagCallback p ids tf).arTagPose.detected =
      (Node.apriltagCallback p { arTagPose := s.arTagPose.detected } ids tf).arTagPose.detected := by
  unfold Node.apriltagCallback
  rw [foldl_aprilTagId, foldl_aprilTagId]
  split
  · dsimp only [ArTagPose.detected]
    split
    · rfl
    · simp only [Node.calcDockingTargetPose, Option.bind_eq_bind]
      cases tf "base_link" (tagFrame (ids.getLast?.getD s.arTagPose.aprilTagId)) with
      | none => rfl
      | some tagBase =>
        cases tf "base_link" "camera_color_optical_frame" with
        | none => rfl
        | some camBase => exact setTransformPose_congr rfl
  · rfl

theorem apriltagCallback_congr (h : l.arTagPose.detected = r.arTagPose.detected) (ids : List Int)
    (tf : TfBuffer) : (l.apriltagCallback p ids tf).arTagPose.detected =
      (r.apriltagCallback p ids tf).arTagPose.detected := by
  rw [apriltagCallback_detected, apriltagCallback_detected r, h]

theorem setTransformPose_targetYaw (s : Node) :
    s.setTransformPose.arTagPose.targetYaw = s.arTagPose.targetYaw := by
  unfold Node.setTransformPose
  dsimp only
  split <;> rfl

/-- A detection leaves the yaw that step 2 has kept. -/
theorem apriltagCallback_targetYaw (s : Node) (ids : List Int) (tf : TfBuffer) :
    (s.apriltagCallback p ids tf).arTagPose.targetYaw = s.arTagPose.targetYaw := by
  unfold Node.apriltagCallback
  rw [foldl_aprilTagId]
  split
  · dsimp only
    split
    · rfl
    · simp only [Node.calcDockingTargetPose, Option.bind_eq_bind]
      cases tf "base_link" (tagFrame (ids.getLast?.getD s.arTagPose.aprilTagId)) with
      | none => rfl
      | some tagBase =>
        cases tf "base_link" "camera_color_optical_frame" with
        | none => rfl
        | some camBase => exact setTransformPose_targetYaw _
  · rfl

/-! What each step does is the same exactly if its leftovers agree. -/

theorem searches_eq_iff (h : Twin l r) : l.searches p = r.searches p ↔
    if l.arTagPose.aprilTagId = l.dockingId then
      l.tagDistance p > 0.65 ∨ l.cmd.angularZ = r.cmd.angularZ
    else l.searchTurn = r.searchTurn ∧ (l.noMarkerCnt > 8000 ↔ r.noMarkerCnt > 8000) := by
  rw [Node.searches, Node.searches, ← h.tagId, ← h.dockingId, ← h.mode,
    ← tagDistance_congr (p := p) h.record, ← followed_congr h.record,
    ← if_congr (straight_congr h.record) rfl rfl]
  by_cases htag : l.arTagPose.aprilTagId = l.dockingId
  · rw [if_pos htag, if_pos htag, if_pos htag]
    by_cases hfar : l.tagDistance p > 0.65 <;> simp [hfar]
  · rw [if_neg htag, if_neg htag, if_neg htag]
    by_cases hl : l.noMarkerCnt > 8000 <;> by_cases hr : r.noMarkerCnt > 8000 <;> simp [hl, hr]

theorem turns_eq_iff (h : Twin l r) (h3 : l.dockingCommandMode = 3) :
    Node.exits l.dockingExit (l.turns p) = Node.exits r.dockingExit (r.turns p) ↔
      l.dockingExit = r.dockingExit ∧
        (l.Turned ∨ (l.rotationCnt ≤ 100 ↔ r.rotationCnt ≤ 100)) := by
  have hyaw := h.targetYaw h3
  rw [Node.turns, Node.turns, ← hyaw, ← h.mode, ← tagDistance_congr (p := p) h.record,
    ← if_congr (turned_congr hyaw) rfl rfl, h3]
  by_cases hturned : l.Turned
  · cases l.dockingExit <;> cases r.dockingExit <;> simp [Node.exits, hturned]
  · by_cases hl : l.rotationCnt ≤ 100 <;> by_cases hr : r.rotationCnt ≤ 100 <;>
      cases l.dockingExit <;> cases r.dockingExit <;> simp [Node.exits, hturned, hl, hr]

theorem closes_eq_iff (h : Twin l r) (h4 : l.dockingCommandMode = 4) :
    Node.exits l.dockingExit (l.closes p) = Node.exits r.dockingExit (r.closes p) ↔
      l.dockingExit = r.dockingExit ∧
        (l.arTagPose.aprilTagId = l.homeId ∨ l.dockingExit = true ∨
          (l.noMarkerCnt ≥ 10 ↔ r.noMarkerCnt ≥ 10)) := by
  have hhome : l.homeId = r.homeId := h.homeId (by simp [h4]) (by simp [h4])
  rw [Node.closes, Node.closes, ← h.tagId, ← h.mode, ← hhome, ← h.chargingStatus,
    ← followed_congr h.record, h4]
  by_cases htag : l.arTagPose.aprilTagId = l.homeId
  · by_cases hcharging : l.chargingStatus < 2 <;> cases l.dockingExit <;> cases r.dockingExit <;>
      simp [Node.exits, htag, hcharging]
  · by_cases hl : l.noMarkerCnt ≥ 10 <;> by_cases hr : r.noMarkerCnt ≥ 10 <;>
      cases l.dockingExit <;> cases r.dockingExit <;> simp [Node.exits, htag, hl, hr]

theorem backs_eq_iff (h : Twin l r) (h31 : l.dockingCommandMode = 31) :
    l.backs p = r.backs p ↔ (l.backCnt < 200 ↔ r.backCnt < 200) := by
  rw [Node.backs, Node.backs, ← h.mode, ← tagDistance_congr (p := p) h.record, h31]
  by_cases hl : l.backCnt < 200 <;> by_cases hr : r.backCnt < 200 <;> simp [hl, hr]

theorem moves_eq_iff (h : Twin l r) : l.moves p = r.moves p ↔ TickAgrees p l r := by
  unfold TickAgrees
  split
  · next h2 =>
    rw [moves_of_search h2, moves_of_search (h.mode.symm.trans h2)]
    exact searches_eq_iff h
  · next h3 =>
    rw [moves_of_turn h3, moves_of_turn (h.mode.symm.trans h3)]
    exact turns_eq_iff h h3
  · next h4 =>
    rw [moves_of_close h4, moves_of_close (h.mode.symm.trans h4)]
    exact closes_eq_iff h h4
  · next h31 =>
    rw [moves_of_back h31, moves_of_back (h.mode.symm.trans h31)]
    exact backs_eq_iff h h31
  · next h2 h3 h4 h31 =>
    refine iff_of_true ?_ trivial
    unfold Node.moves
    rw [← h.mode]
    split
    · rfl
    · next hmode => exact absurd hmode h2
    · next hmode => exact absurd hmode h3
    · next hmode => exact absurd hmode h4
    · rfl
    · rfl
    · next hmode => exact absurd hmode h31
    · rfl

theorem recorded_detected (s : Node) : (s.recorded p).detected = s.arTagPose.detected := by
  unfold Node.recorded
  split <;> rfl

/-- Step 3 goes on, or it follows a step 2 that has kept the angles. -/
theorem of_moves_turn {s : Node} (h : (s.moves p).1 = 3) : s.dockingCommandMode = 3 ∨
    s.dockingCommandMode = 2 ∧ s.arTagPose.aprilTagId = s.dockingId ∧ ¬ s.tagDistance p > 0.65 := by
  by_cases h2 : s.dockingCommandMode = 2
  · refine .inr ⟨h2, ?_⟩
    rw [moves_of_search h2, Node.searches, h2] at h
    by_cases htag : s.arTagPose.aprilTagId = s.dockingId
    · refine ⟨htag, ?_⟩
      intro hfar
      rw [if_pos htag, if_pos hfar] at h
      simp at h
    · rw [if_neg htag] at h
      split at h <;> simp at h
  · refine .inl ?_
    unfold Node.moves at h
    split at h
    · exact absurd h (by decide)
    · next hmode => exact absurd hmode h2
    · next hmode => exact hmode
    · next hmode =>
      cases hexit : s.dockingExit <;>
        simp only [hexit, Node.exits, Node.closes, if_true, Bool.false_eq_true, if_false, hmode] at h
      · split_ifs at h <;> simp at h
      · exact absurd h (by decide)
    · exact absurd h (by decide)
    · exact absurd h (by decide)
    · next hmode =>
      simp only [Node.backs, hmode] at h
      split_ifs at h <;> simp at h
    · exact h

/-- The yaw that step 3 turns away is read from what both have detected. -/
theorem Twin.recorded_targetYaw (h : Twin l r) (h3 : (l.moves p).1 = 3) :
    (l.recorded p).targetYaw = (r.recorded p).targetYaw := by
  rcases of_moves_turn h3 with hturn | hnear
  · have hkept : ∀ {s : Node}, s.dockingCommandMode = 3 → s.recorded p = s.arTagPose := by
      intro s hs
      exact if_neg fun hrecord => absurd (hs.symm.trans hrecord.1) (by decide)
    rw [hkept hturn, hkept (h.mode.symm.trans hturn)]
    exact h.targetYaw hturn
  · have hnear' : r.dockingCommandMode = 2 ∧ r.arTagPose.aprilTagId = r.dockingId ∧
        ¬ r.tagDistance p > 0.65 := by
      rwa [h.mode, h.tagId, h.dockingId, tagDistance_congr h.record] at hnear
    rw [Node.recorded, Node.recorded, if_pos hnear, if_pos hnear']
    exact (eq_of_detected h.record).2.1

/-- A tick in which the leftovers agree. -/
theorem Twin.tick (h : Twin l r) (ready : Bool) (hK : TickAgrees p l r) :
    Twin (l.dockingThreadFunction p ready) (r.dockingThreadFunction p ready) := by
  have hl := tick_moves (p := p) h.left ready h.docking
  have hr := tick_moves (p := p) h.right ready (h.mode ▸ h.docking)
  have hmoves := (moves_eq_iff h).mpr hK
  refine ⟨h.left.of_heard (tick_heard p l ready), h.right.of_heard (tick_heard p r ready), ?_,
    ?_, ?_, ?_, ?_, (dockingThreadFunction_docks ready h.docking).mode, ?_⟩
  · rw [hl.record, hr.record, recorded_detected, recorded_detected, h.record]
  · intro h3
    rw [hl.record, hr.record]
    exact h.recorded_targetYaw (hl.mode ▸ h3)
  · have hheard := congrArg Heard.chargingStatus (tick_heard p l ready)
    have hheard' := congrArg Heard.chargingStatus (tick_heard p r ready)
    exact hheard.trans (h.chargingStatus.trans hheard'.symm)
  · rw [hl.dockingId, hr.dockingId, h.dockingId]
  · rw [hl.mode, hr.mode, hmoves]
  · intro h1 h2
    rw [hl.homeId, hr.homeId, ← h.mode, h.dockingId]
    by_cases hsearch : l.dockingCommandMode = 2
    · rw [if_pos hsearch, if_pos hsearch]
    · rw [if_neg hsearch, if_neg hsearch]
      refine h.homeId (fun hstart => h2 ?_) hsearch
      -- mode 1 goes on to mode 2
      rw [hl.mode]
      simp [Node.moves, hstart]

theorem Twin.detections (h : Twin l r) (ids : List Int) (tf : TfBuffer) :
    Twin (l.apriltagCallback p ids tf) (r.apriltagCallback p ids tf) := by
  have hset : ∀ {s : Node}, Unset s → Unset (s.apriltagCallback p ids tf) :=
    fun h => unset_step h (show Node.step p _ (.detections ids tf) = some _ from rfl)
  have hleft := hset h.left
  have hright := hset h.right
  have hrecord := apriltagCallback_congr (p := p) h.record ids tf
  have hyaw := apriltagCallback_targetYaw (p := p) l ids tf
  have hyaw' := apriltagCallback_targetYaw (p := p) r ids tf
  obtain ⟨tag, hl⟩ := apriltagCallback_eq p l ids tf
  obtain ⟨tag', hr⟩ := apriltagCallback_eq p r ids tf
  rw [hl] at hleft hrecord hyaw ⊢
  rw [hr] at hright hrecord hyaw' ⊢
  exact ⟨hleft, hright, hrecord, fun h3 => hyaw.trans ((h.targetYaw h3).trans hyaw'.symm),
    h.chargingStatus, h.dockingId, h.mode, h.docking, h.homeId⟩

theorem Twin.dockingStatus (h : Twin l r) (data : Int) :
    Twin (l.dockingStatusCallback data) (r.dockingStatusCallback data) := by
  have hset : ∀ {s : Node}, Unset s → Unset (s.dockingStatusCallback data) :=
    fun h => ⟨h.1, h.2, h.3, h.4⟩
  exact ⟨hset h.left, hset h.right, h.record, h.targetYaw, rfl, h.dockingId, h.mode, h.docking,
    h.homeId⟩

end Twin

section Twins

variable {p : Platform} {s s' : Node × Node} {e : Sensing}

theorem twins_step {l r : Node} : (twins p l r).step s e = some s' ↔
    s.1.step p e.event = some s'.1 ∧ s.2.step p e.event = some s'.2 := by
  simp only [twins, Option.bind_eq_bind, Option.bind_eq_some_iff, Option.some.injEq]
  constructor
  · rintro ⟨l', hl, r', hr, rfl⟩
    exact ⟨hl, hr⟩
  · rintro ⟨hl, hr⟩
    exact ⟨s'.1, hl, s'.2, hr, rfl⟩

/-- Each of the two goes on as the service node does. -/
theorem service_run_of_twins {l r : Node} (side : Node × Node → Node)
    (hside : ∀ {s s' e}, (twins p l r).step s e = some s' →
      (side s).step p e.event = some (side s'))
    {before : List Event} {w : World} (hbefore : (service p).Run before w)
    (hinit : w.node = side (l, r)) {es : List Sensing} (hr : (twins p l r).Run es s) :
    ∃ w', (service p).Run (before ++ es.map Sensing.event) w' ∧ w'.node = side s := by
  induction hr with
  | init => exact ⟨w, by simpa using hbefore, hinit⟩
  | @snoc es s s' e _ hs _ ih =>
    obtain ⟨w', hr', hnode⟩ := ih
    have hadmits : w'.Admits e.event := by cases e <;> trivial
    have hstep : w'.node.step p e.event = some (side s') := hnode ▸ hside hs
    refine ⟨w'.after p e.event (side s'), ?_, rfl⟩
    rw [List.map_append, ← List.append_assoc]
    exact .snoc hr' (service_step.mpr ⟨hadmits, side s', hstep, rfl⟩) trivial

/-- Both are runs of the service node, on the events before the request, the request and what
follows it. -/
theorem twins_run {es₁ es₂ : List Event} {w₁ w₂ : World} {id : Int} {es : List Sensing}
    (h₁ : (service p).Run es₁ w₁) (h₂ : (service p).Run es₂ w₂)
    (hr : (twins p (w₁.node.dockingCommand id 1).1 (w₂.node.dockingCommand id 1).1).Run es s) :
    (∃ w, (service p).Run (es₁ ++ .dockingCommand id 1 :: es.map Sensing.event) w ∧
      w.node = s.1) ∧
    ∃ w, (service p).Run (es₂ ++ .dockingCommand id 1 :: es.map Sensing.event) w ∧
      w.node = s.2 := by
  have hrequest : ∀ {es₀ w₀}, (service p).Run es₀ w₀ → (service p).Run (es₀ ++ [.dockingCommand id 1])
      (w₀.after p (.dockingCommand id 1) (w₀.node.dockingCommand id 1).1) :=
    fun h => .snoc h (service_step.mpr ⟨trivial, _, rfl, rfl⟩) trivial
  have hl := service_run_of_twins Prod.fst (fun hs => (twins_step.mp hs).1)
    (hrequest h₁) rfl hr
  have hr := service_run_of_twins Prod.snd (fun hs => (twins_step.mp hs).2)
    (hrequest h₂) rfl hr
  rw [List.append_assoc, List.singleton_append] at hl hr
  exact ⟨hl, hr⟩

theorem twistsBetween_of_append {s s' : Node} {twists : List Twist}
    (h : s'.log = s.log ++ sent twists) : twistsBetween s s' = twists := by
  have hmap : ∀ twists, (sent twists).filterMap Output.twist? = twists := by
    intro twists
    induction twists with
    | nil => rfl
    | cons cmd twists ih => rw [sent, List.map_cons, List.filterMap_cons]; exact congrArg _ ih
  rw [twistsBetween, sentBetween_of_append h, hmap]

/-- A message that is only stored. -/
theorem alike_of_log (h : Twin s'.1 s'.2) (hl : s'.1.log = s.1.log) (hr : s'.2.log = s.2.log) :
    Alike s s' := by
  have hnone : ∀ {n n' : Node}, n'.log = n.log → twistsBetween n n' = [] :=
    fun h => twistsBetween_of_append (by simp [h, sent])
  exact ⟨h.mode, (hnone hl).trans (hnone hr).symm⟩

theorem apriltagCallback_log (node : Node) (ids : List Int) (tf : TfBuffer) :
    (node.apriltagCallback p ids tf).log = node.log := by
  obtain ⟨tag, htag⟩ := apriltagCallback_eq p node ids tf
  rw [htag]

/-- **One message: the two stay alike exactly if their leftovers agree.** -/
theorem twin_step {l r : Node} (h : Twin s.1 s.2) (hs : (twins p l r).step s e = some s') :
    (Alike s s' ↔ LeftoversAgree p s e) ∧ (LeftoversAgree p s e → Twin s'.1 s'.2) := by
  obtain ⟨hl, hr⟩ := twins_step.mp hs
  cases e with
  | tick ready =>
    have hl' : s.1.dockingThreadFunction p ready = s'.1 := Option.some.inj hl
    have hr' : s.2.dockingThreadFunction p ready = s'.2 := Option.some.inj hr
    have hml := tick_moves (p := p) h.left ready h.docking
    have hmr := tick_moves (p := p) h.right ready (h.mode ▸ h.docking)
    refine ⟨?_, fun hK => hl' ▸ hr' ▸ h.tick ready hK⟩
    rw [Alike, ← hl', ← hr', hml.mode, hmr.mode, twistsBetween_of_append hml.log,
      twistsBetween_of_append hmr.log, ← Prod.ext_iff]
    exact moves_eq_iff h
  | detections ids tf =>
    have hl' : s.1.apriltagCallback p ids tf = s'.1 := Option.some.inj hl
    have hr' : s.2.apriltagCallback p ids tf = s'.2 := Option.some.inj hr
    have htwin : Twin s'.1 s'.2 := hl' ▸ hr' ▸ h.detections ids tf
    have hlog : s'.1.log = s.1.log := hl' ▸ apriltagCallback_log s.1 ids tf
    have hlog' : s'.2.log = s.2.log := hr' ▸ apriltagCallback_log s.2 ids tf
    exact ⟨iff_of_true (alike_of_log htwin hlog hlog') trivial, fun _ => htwin⟩
  | dockingStatus data =>
    have hl' : s.1.dockingStatusCallback data = s'.1 := Option.some.inj hl
    have hr' : s.2.dockingStatusCallback data = s'.2 := Option.some.inj hr
    have htwin : Twin s'.1 s'.2 := hl' ▸ hr' ▸ h.dockingStatus data
    exact ⟨iff_of_true (alike_of_log htwin (hl' ▸ rfl) (hr' ▸ rfl)) trivial, fun _ => htwin⟩

end Twins

/--
**Two docking runs that see the same go through the same modes and publish the same Twists
exactly if at each tick what it reads of earlier runs agrees.**
-/
theorem independent_iff {p : Platform} {es₁ es₂ : List Event} {w₁ w₂ : World} {id : Int}
    {es : List Sensing} {s : Node × Node} (h₁ : (service p).Run es₁ w₁) (h₂ : (service p).Run es₂ w₂)
    (hrecord : w₁.node.arTagPose.detected = w₂.node.arTagPose.detected)
    (hcharging : w₁.node.chargingStatus = w₂.node.chargingStatus) :
    (twins p (w₁.node.dockingCommand id 1).1 (w₂.node.dockingCommand id 1).1).RunWith
        (fun s _ s' => Alike s s') es s ↔
      (twins p (w₁.node.dockingCommand id 1).1 (w₂.node.dockingCommand id 1).1).RunWith
        (fun s e _ => LeftoversAgree p s e) es s := by
  have hset : ∀ {s : Node}, Unset s → Unset (s.dockingCommand id 1).1 :=
    fun h => unset_step h (show Node.step p _ (.dockingCommand id 1) = some _ from rfl)
  refine runWith_congr_of_right (I := fun s => Twin s.1 s.2) ?_ (fun h hs => (twin_step h hs).2)
    fun h hs => (twin_step h hs).1
  exact ⟨hset (unset_run h₁), hset (unset_run h₂), hrecord, by simp [twins, Node.dockingCommand],
    hcharging, rfl, rfl, by simp [twins, Node.dockingCommand], fun hstart => absurd rfl hstart⟩

/-- The tag half a metre in front of the camera. -/
def markerClose : TfBuffer := markerAt (1 / 2)

/-- One has searched for another marker and been stopped; then both come up to the station. -/
theorem independent_after_search : ∃ w₁ w₂ s,
    (service examplePlatform).Run [.dockingCommand 5 1, .tick true, .tick true,
      .detections [0] markerAhead, .dockingStop] w₁ ∧
    (service examplePlatform).Run [.detections [0] markerAhead] w₂ ∧
    w₁.node.noMarkerCnt ≠ w₂.node.noMarkerCnt ∧
    (twins examplePlatform (w₁.node.dockingCommand 0 1).1 (w₂.node.dockingCommand 0 1).1).RunWith
      (fun s _ s' => Alike s s')
      [.tick true, .tick true, .detections [0] markerClose, .tick true, .tick true] s ∧
    s.1.dockingCommandMode = 4 := by
  obtain ⟨w₂, hr₂, w₁, hw₁, hrecord, hcharging, hcnt, s, hs, hmode⟩ : ∃ w₂,
      (service examplePlatform).Run [.detections [0] markerAhead] w₂ ∧
      ∃ w₁ ∈ (service examplePlatform).exec [.dockingCommand 5 1, .tick true, .tick true,
          .detections [0] markerAhead, .dockingStop],
        w₁.node.arTagPose.detected = w₂.node.arTagPose.detected ∧
        w₁.node.chargingStatus = w₂.node.chargingStatus ∧
        w₁.node.noMarkerCnt ≠ w₂.node.noMarkerCnt ∧
        ∃ s ∈ (twins examplePlatform (w₁.node.dockingCommand 0 1).1
            (w₂.node.dockingCommand 0 1).1).execWith (LeftoversAgree examplePlatform)
          [.tick true, .tick true, .detections [0] markerClose, .tick true, .tick true],
        s.1.dockingCommandMode = 4 :=
    run_of_exec_mem (by decide +kernel)
  have hr₁ := run_of_exec hw₁
  exact ⟨w₁, w₂, s, hr₁, hr₂, hcnt,
    (independent_iff hr₁ hr₂ hrecord hcharging).mpr (runWith_of_execWith hs), hmode⟩

/-- The joystick has stopped an earlier run, and the next one ends in front of the station. -/
theorem exit_left_behind : ∃ w₁ w₂ s,
    (service examplePlatform).Run [.joy [0, 0, 0, 0, 0, 0, 0, 1]] w₁ ∧
      (service examplePlatform).Run [] w₂ ∧
      w₁.node.arTagPose = w₂.node.arTagPose ∧ w₁.node.chargingStatus = w₂.node.chargingStatus ∧
      (twins examplePlatform (w₁.node.dockingCommand 0 1).1 (w₂.node.dockingCommand 0 1).1).Run
        [.tick true, .detections [0] markerClose, .tick true, .tick true] s ∧
      s.1.dockingCommandMode = 0 ∧ s.2.dockingCommandMode = 4 ∧
      ¬ (twins examplePlatform (w₁.node.dockingCommand 0 1).1 (w₂.node.dockingCommand 0 1).1).RunWith
        (fun s _ s' => Alike s s')
        [.tick true, .detections [0] markerClose, .tick true, .tick true] s := by
  obtain ⟨w₁, hr₁, hrecord, hcharging, s, hs, hl, hr⟩ : ∃ w, (service examplePlatform).Run
      [.joy [0, 0, 0, 0, 0, 0, 0, 1]] w ∧ w.node.arTagPose = {} ∧ w.node.chargingStatus = 0 ∧
      ∃ s ∈ (twins examplePlatform (w.node.dockingCommand 0 1).1
          (Node.dockingCommand {} 0 1).1).exec
        [.tick true, .detections [0] markerClose, .tick true, .tick true],
      s.1.dockingCommandMode = 0 ∧ s.2.dockingCommandMode = 4 :=
    run_of_exec_mem (by decide +kernel)
  refine ⟨w₁, _, s, hr₁, .init, hrecord, hcharging, run_of_exec hs, hl, hr, ?_⟩
  intro h
  have hmode : s.1.dockingCommandMode = s.2.dockingCommandMode :=
    h.invariant (I := fun s => s.1.dockingCommandMode = s.2.dockingCommandMode) rfl
      fun _ _ halike => halike.1
  rw [hl, hr] at hmode
  exact absurd hmode (by decide)

end Tetra.Service
