import Tetra.Service.DockingRun

/-!
# Giving up on the marker

Steps 2 and 4 count the ticks without their marker in one counter, and give up when it is past
their limits. The counter is reset where step 2 has come near the marker, where step 4 has
arrived, and where one of them gives up, but not where a run starts, nor where the marker is seen
and followed. `Counted` is what keeps the counter honest nevertheless; in runs whose steps are
`Counted` a step gives up after as many misses in a row as it should (`timesOut`).
-/

namespace Tetra.Service

open Machine EventLog

variable {p : Platform}

/-! ## The counter after a tick -/

/-- The marker is seen, and followed with the counter as it is. -/
def Node.Follows (p : Platform) (s : Node) : Prop :=
  s.dockingCommandMode = 2 ∧ s.tagDistance p > 0.65 ∨
    s.dockingCommandMode = 4 ∧ s.chargingStatus < 2

instance (s : Node) : Decidable (s.Follows p) := inferInstanceAs (Decidable (_ ∨ _))

/-- Step 2 or step 4. -/
def Node.Searches (s : Node) : Prop := s.dockingCommandMode = 2 ∨ s.dockingCommandMode = 4

instance (s : Node) : Decidable s.Searches := inferInstanceAs (Decidable (_ ∨ _))

/-- How many misses the step puts up with. -/
def Node.patience (s : Node) : Nat := if s.dockingCommandMode = 2 then 8001 else 10

/-- The counter after a tick. -/
def Node.counts (p : Platform) (s : Node) : Nat :=
  if s.Searches then
    if s.Missing then if s.noMarkerCnt ≥ s.patience then 0 else s.noMarkerCnt + 1
    else if s.Follows p then s.noMarkerCnt else 0
  else s.noMarkerCnt

section Tick

variable {s : Node}

theorem follow_noMarkerCnt (gain : ℚ) : (s.follow p gain).1.noMarkerCnt = s.noMarkerCnt := by
  unfold Node.follow
  dsimp only
  split_ifs <;> rfl

theorem exitIf_noMarkerCnt (exit : Bool) : (s.exitIf exit).noMarkerCnt = s.noMarkerCnt := by
  cases exit <;> rfl

/-- Step 2. -/
theorem chargingStationTracking_noMarkerCnt (markerId : Int) :
    (s.chargingStationTracking p true markerId).1.noMarkerCnt =
      if s.arTagPose.aprilTagId = markerId then
        if s.tagDistance p > 0.65 then s.noMarkerCnt else 0
      else if s.noMarkerCnt ≥ 8001 then 0 else s.noMarkerCnt + 1 := by
  have hrotation : s.rotationMovement.1.noMarkerCnt = s.noMarkerCnt := by
    unfold Node.rotationMovement
    dsimp only
    split_ifs <;> rfl
  unfold Node.chargingStationTracking
  rw [if_pos rfl]
  by_cases hid : s.arTagPose.aprilTagId = markerId
  · rw [if_pos hid, if_pos hid]
    by_cases hfar : s.tagDistance p > 0.65
    · rw [if_pos hfar, if_pos hfar]
      exact follow_noMarkerCnt 0.15
    · rw [if_neg hfar, if_neg hfar]
  · rw [if_neg hid, if_neg hid]
    dsimp only
    split
    · next hlong =>
      have hge : s.rotationMovement.1.noMarkerCnt > 8000 := hlong
      rw [hrotation] at hge
      rw [if_pos (show s.noMarkerCnt ≥ 8001 from hge)]
      rfl
    · next hshort =>
      have hlt : ¬ s.rotationMovement.1.noMarkerCnt > 8000 := hshort
      rw [hrotation] at hlt
      rw [if_neg (show ¬ s.noMarkerCnt ≥ 8001 from hlt)]
      exact congrArg (· + 1) hrotation

/-- Step 4. -/
theorem chargingStationTracking2_noMarkerCnt (markerId : Int) :
    (s.chargingStationTracking2 p markerId).1.noMarkerCnt =
      if s.arTagPose.aprilTagId = markerId then
        if s.chargingStatus < 2 then s.noMarkerCnt else 0
      else if s.noMarkerCnt ≥ 10 then 0 else s.noMarkerCnt + 1 := by
  unfold Node.chargingStationTracking2
  by_cases hid : s.arTagPose.aprilTagId = markerId
  · rw [if_pos hid, if_pos hid]
    by_cases hcharging : s.chargingStatus < 2
    · rw [if_pos hcharging, if_pos hcharging]
      exact follow_noMarkerCnt 0.1
    · rw [if_neg hcharging, if_neg hcharging]
  · rw [if_neg hid, if_neg hid]
    dsimp only
    split
    · next hlost =>
      have hge : s.noMarkerCnt ≥ 10 := hlost
      rw [if_pos hge]
    · next hsoon =>
      have hlt : ¬ s.noMarkerCnt ≥ 10 := hsoon
      rw [if_neg hlt]
      rfl

/-- The other steps do not count. -/
theorem noMarkerCnt_of_not_searches (ready : Bool) (h : ¬ s.Searches) :
    (s.dockingThreadFunction p ready).noMarkerCnt = s.noMarkerCnt := by
  unfold Node.dockingThreadFunction
  split
  · rfl
  · next h2 => exact absurd (Or.inl h2) h
  · rw [exitIf_noMarkerCnt]
    unfold Node.chargingStationYawTracking Node.yawRotation
    dsimp only
    split_ifs <;> rfl
  · next h4 => exact absurd (Or.inr h4) h
  · rfl
  · rfl
  · next h10 =>
    obtain ⟨cmd, log, mode, _, hs⟩ := departure_eq (p := p) ready h10
    rw [dockingThreadFunction_of_mode h10] at hs
    rw [hs]
  · unfold Node.chargingStationBackStep
    dsimp only
    split_ifs <;> rfl
  · rfl

/-- **The counter after a tick.** -/
theorem tick_noMarkerCnt (ready : Bool) :
    (s.dockingThreadFunction p ready).noMarkerCnt = s.counts p := by
  unfold Node.counts
  by_cases hsearches : s.Searches
  · rw [if_pos hsearches]
    rcases hsearches with h2 | h4
    · have hmarker : s.markerId = s.dockingId := if_pos h2
      have hpatience : s.patience = 8001 := if_pos h2
      have hfollows : s.Follows p ↔ s.tagDistance p > 0.65 := by simp [Node.Follows, h2]
      have hmissing : s.Missing ↔ s.arTagPose.aprilTagId ≠ s.dockingId := by
        rw [Node.Missing, hmarker]
      rw [tick_of_search ready h2, exitIf_noMarkerCnt, chargingStationTracking_noMarkerCnt]
      simp only [hmissing, hpatience, hfollows, ite_not]
      rfl
    · have hmarker : s.markerId = s.homeId := if_neg (by simp [h4])
      have hpatience : s.patience = 10 := if_neg (by simp [h4])
      have hfollows : s.Follows p ↔ s.chargingStatus < 2 := by simp [Node.Follows, h4]
      have hmissing : s.Missing ↔ s.arTagPose.aprilTagId ≠ s.homeId := by
        rw [Node.Missing, hmarker]
      rw [tick_of_close ready h4, exitIf_noMarkerCnt, chargingStationTracking2_noMarkerCnt]
      simp only [hmissing, hpatience, hfollows, ite_not]
  · rw [if_neg hsearches]
    exact noMarkerCnt_of_not_searches ready hsearches

end Tick

/-! ## Misses in a row -/

/-- How many ticks, up to the last one, have missed the marker in this mode, one after the other. -/
def RunRecord.misses (record : RunRecord) (mode : Int) : Nat :=
  streak (fun look : Look => look = ⟨mode, true⟩) record.looks

/-- The marker is missing, and the step does not count it but gives up. -/
def GivesUp (s s' : Node) : Prop := s.Searches ∧ s.Missing ∧ s'.noMarkerCnt = 0

instance (s s' : Node) : Decidable (GivesUp s s') :=
  inferInstanceAs (Decidable (s.Searches ∧ s.Missing ∧ s'.noMarkerCnt = 0))

/-- In a run started by `Docking_Command`, a tick gives up only at the end of so many misses of its
step, itself included. -/
def TimesOut (w : World × RunRecord) (e : Event) (w' : World × RunRecord) : Prop :=
  w.2.Commanded → (∃ ready, e = .tick ready) → GivesUp w.1.node w'.1.node →
    (w.1.node.dockingCommandMode = 4 → 11 ≤ w'.2.misses 4) ∧
      (w.1.node.dockingCommandMode = 2 → 8002 ≤ w'.2.misses 2)

/-- The counter is zero where such a run starts, and where its marker is seen and followed. -/
def Counted (p : Platform) (w : World × RunRecord) : Event → Prop
  | .tick _ => w.2.Commanded → ¬ w.1.node.Missing → w.1.node.Follows p → w.1.node.noMarkerCnt = 0
  | e => ∀ start ∈ w.1.node.starts e, start.ByCommand → w.1.node.noMarkerCnt = 0

instance (w : World × RunRecord) (e : Event) : Decidable (Counted p w e) := by
  unfold Counted
  split <;> infer_instance

/-- The counter counts no more than the misses in a row of this run. -/
structure CountSound (w : World × RunRecord) : Prop where
  between : w.2.Commanded → w.1.node.dockingCommandMode ∈ [1, 3, 31] → w.1.node.noMarkerCnt = 0
  searching : w.2.Commanded → w.1.node.Searches →
    w.1.node.noMarkerCnt ≤ w.2.misses w.1.node.dockingCommandMode

section Step

variable {s : Node} {w w' : World × RunRecord} {e : Event}

/-- Without its marker a step goes on, or the run is over. -/
theorem missing_tick_mode (hunset : Unset s) (ready : Bool) (hsearches : s.Searches)
    (hmissing : s.Missing) :
    (s.dockingThreadFunction p ready).dockingCommandMode ∈ [s.dockingCommandMode, 0, 8, 9] := by
  have h10 : s.dockingCommandMode ≠ 10 := by
    rcases hsearches with h | h <;> omega
  rw [(tick_moves (p := p) hunset ready h10).mode]
  rcases hsearches with h2 | h4
  · rw [Node.Missing, Node.markerId, if_pos h2] at hmissing
    rw [moves_of_search h2, Node.searches, if_neg hmissing]
    split <;> simp
  · rw [Node.Missing, Node.markerId, if_neg (by simp [h4])] at hmissing
    rw [moves_of_close h4]
    rcases exits_mode s.dockingExit (s.closes p) with hexit | hexit
    · simp [hexit]
    · rw [hexit, Node.closes, if_neg hmissing]
      dsimp only
      split <;> simp

theorem look_of_missing (h : s.Missing) : s.look = ⟨s.dockingCommandMode, true⟩ := by
  simp [Node.look, h]

theorem misses_concat (record : RunRecord) {mode : Int} {look : Look} :
    ({ record with looks := record.looks ++ [look] } : RunRecord).misses mode =
      if look = ⟨mode, true⟩ then record.misses mode + 1 else 0 :=
  streak_concat record.looks look

theorem CountSound.of_zero (h : w.1.node.noMarkerCnt = 0) : CountSound w := by
  constructor
  · intro _ _
    exact h
  · intro _ _
    rw [h]
    exact Nat.zero_le _

theorem CountSound.of_not_commanded (h : ¬ w.2.Commanded) : CountSound w :=
  ⟨fun hcommanded => absurd hcommanded h, fun hcommanded => absurd hcommanded h⟩

/-- A miss counts one more, unless the run is over with it. -/
theorem countSound_miss (hunset : Unset w.1.node) (hI : CountSound w) {ready : Bool}
    (hcommanded : w.2.Commanded) (hsearches : w.1.node.Searches) (hmissing : w.1.node.Missing)
    (hnode : w'.1.node = w.1.node.dockingThreadFunction p ready)
    (hrecord : w'.2 = { w.2 with looks := w.2.looks ++ [w.1.node.look] }) : CountSound w' := by
  have hmode := missing_tick_mode (p := p) hunset ready hsearches hmissing
  have hcount := tick_noMarkerCnt (p := p) (s := w.1.node) ready
  rw [← hnode] at hmode hcount
  rw [Node.counts, if_pos hsearches, if_pos hmissing] at hcount
  rcases List.mem_cons.mp hmode with hsame | hover
  · constructor
    · intro _ hbetween
      rw [hsame] at hbetween
      rcases hsearches with h | h <;> simp [h] at hbetween
    · intro _ _
      have hsound := hI.searching hcommanded hsearches
      rw [hcount, hsame, hrecord, misses_concat, if_pos (look_of_missing hmissing)]
      split <;> omega
  · simp only [List.mem_cons, List.not_mem_nil, or_false] at hover
    constructor
    · intro _ hbetween
      simp only [List.mem_cons, List.not_mem_nil, or_false] at hbetween
      omega
    · intro _ hsearches'
      rw [Node.Searches] at hsearches'
      omega

/-- A tick that does not search finds the counter at zero, or the run is over after it. -/
theorem countSound_between (hunset : Unset w.1.node) (hI : CountSound w) {ready : Bool}
    (hcommanded : w.2.Commanded) (hsearches : ¬ w.1.node.Searches)
    (hnode : w'.1.node = w.1.node.dockingThreadFunction p ready) : CountSound w' := by
  have hcount := noMarkerCnt_of_not_searches (p := p) ready hsearches
  have hnext := of_mem_nextModes (tick_mode (p := p) hunset ready)
  rw [← hnode] at hcount hnext
  obtain ⟨hnot1, hto2, _, hon⟩ := hnext
  rw [Node.Searches] at hsearches
  by_cases hbefore : w.1.node.dockingCommandMode ∈ [1, 3, 31]
  · refine .of_zero ?_
    rw [hcount]
    exact hI.between hcommanded hbefore
  · simp only [List.mem_cons, List.not_mem_nil, or_false] at hbefore hto2 hon
    constructor
    · intro _ hbetween
      simp only [List.mem_cons, List.not_mem_nil, or_false] at hbetween
      omega
    · intro _ hsearches'
      rw [Node.Searches] at hsearches'
      omega

theorem countSound_tick (hunset : Unset w.1.node) (hI : CountSound w) {ready : Bool}
    (hcounted : Counted p w (.tick ready))
    (hnode : w'.1.node = w.1.node.dockingThreadFunction p ready)
    (hrecord : w'.2 = { w.2 with looks := w.2.looks ++ [w.1.node.look] }) : CountSound w' := by
  by_cases hcommanded : w.2.Commanded
  · by_cases hsearches : w.1.node.Searches
    · by_cases hmissing : w.1.node.Missing
      · exact countSound_miss hunset hI hcommanded hsearches hmissing hnode hrecord
      · -- the marker is seen: the counter is zero before the tick, or it is reset
        refine .of_zero ?_
        rw [hnode, tick_noMarkerCnt, Node.counts, if_pos hsearches, if_neg hmissing]
        split
        · next hfollows => exact hcounted hcommanded hmissing hfollows
        · rfl
    · exact countSound_between hunset hI hcommanded hsearches hnode
  · refine .of_not_commanded ?_
    rw [hrecord]
    exact hcommanded

/-- A start of a run by `Docking_Command` is counted only with the counter at zero. -/
theorem counted_start {start : Start} (h : Counted p w e) (hstart : w.1.node.starts e = some start)
    (hcommand : start.ByCommand) : w.1.node.noMarkerCnt = 0 := by
  cases e with
  | tick ready => simp [Node.starts] at hstart
  | _ => exact h start hstart hcommand

theorem countSound_step (hunset : Unset w.1.node) (hI : CountSound w)
    (hs : (docking p).step w e = some w') (hcounted : Counted p w e) : CountSound w' := by
  rcases docking_step_cases hs with ⟨ready, rfl, hnode, hrecord⟩ |
    ⟨start, hstart, hbetween, hrecord⟩ | ⟨_, hpasses, hbetween, hrecord⟩
  · exact countSound_tick hunset hI hcounted hnode hrecord
  · by_cases hcommand : start.ByCommand
    · refine .of_zero ?_
      rw [hbetween.noMarkerCnt]
      exact counted_start hcounted hstart hcommand
    · refine .of_not_commanded ?_
      rw [hrecord, commanded_start]
      exact hcommand
  · constructor
    · intro hcommanded hmode
      rw [hrecord] at hcommanded
      rw [hbetween.noMarkerCnt]
      exact hI.between hcommanded (hpasses.mode_mem _ (by decide) (by decide) hmode)
    · intro hcommanded hsearches
      rw [hrecord] at hcommanded ⊢
      have hsame : w'.1.node.dockingCommandMode = w.1.node.dockingCommandMode := by
        rw [Node.Searches] at hsearches
        rcases hpasses.mode with hmode | hmode | hmode <;> omega
      rw [Node.Searches, hsame] at hsearches
      rw [hbetween.noMarkerCnt, hsame]
      exact hI.searching hcommanded hsearches

/-- A step that gives up has come to the end of its patience. -/
theorem patience_of_givesUp (ready : Bool)
    (h : GivesUp s (s.dockingThreadFunction p ready)) : s.patience ≤ s.noMarkerCnt := by
  obtain ⟨hsearches, hmissing, hzero⟩ := h
  rw [tick_noMarkerCnt, Node.counts, if_pos hsearches, if_pos hmissing] at hzero
  by_contra hshort
  rw [if_neg hshort] at hzero
  omega

theorem timesOut_of_countSound (hI : CountSound w) (hs : (docking p).step w e = some w') :
    TimesOut w e w' := by
  rintro hcommanded ⟨ready, rfl⟩ hgives
  obtain ⟨hnode, hrecord⟩ := docking_step hs
  have hsound := hI.searching hcommanded hgives.1
  have hmissing := hgives.2.1
  rw [← Option.some.inj hnode] at hgives
  have hpatience := patience_of_givesUp ready hgives
  have hmisses : ∀ mode, w.1.node.dockingCommandMode = mode →
      w'.2.misses mode = w.2.misses mode + 1 := by
    rintro mode rfl
    rw [hrecord]
    exact (misses_concat w.2).trans (if_pos (look_of_missing hmissing))
  constructor
  · intro h4
    rw [Node.patience, if_neg (by simp [h4])] at hpatience
    rw [h4] at hsound
    rw [hmisses 4 h4]
    omega
  · intro h2
    rw [Node.patience, if_pos h2] at hpatience
    rw [h2] at hsound
    rw [hmisses 2 h2]
    omega

end Step

/--
**A run whose steps are all counted times out as it should:** step 4 gives up only after 11 misses
in a row, and step 2 only after 8002.
-/
theorem timesOut {es : List Event} {w : World × RunRecord}
    (hr : (docking p).RunWith (fun w e _ => Counted p w e) es w) :
    (docking p).RunWith TimesOut es w := by
  refine hr.mono (I := fun w => Unset w.1.node ∧ CountSound w)
    ⟨unset_docking_init, .of_zero rfl⟩ fun {w e w'} hI hs hcounted => ?_
  exact ⟨⟨unset_docking_step hI.1 hs, countSound_step hI.1 hI.2 hs hcounted⟩,
    timesOut_of_countSound hI.2 hs⟩

/-- A run gets to step 4, and the marker is lost. -/
def markerLost : List Event :=
  [.dockingCommand 0 1, .tick true, .detections [0] markerClose, .tick true,
    .detections [] markerClose]

/-- The marker does not come back: the run is over after the eleventh miss. -/
theorem timesOut_elevenMisses :
    ∃ w, (docking examplePlatform).RunWith TimesOut
        (markerLost ++ List.replicate 11 (.tick true)) w ∧
      w.1.node.dockingCommandMode = 8 ∧ w.2.misses 4 = 11 := by
  have hrun : ∃ w ∈ (docking examplePlatform).execWith (Counted examplePlatform)
      (markerLost ++ List.replicate 11 (.tick true)),
      w.1.node.dockingCommandMode = 8 ∧ w.2.misses 4 = 11 := by
    decide +kernel
  obtain ⟨w, hw, hend⟩ := hrun
  exact ⟨w, timesOut (runWith_of_execWith hw), hend⟩

/-- The marker comes back after ten misses, is followed for a tick, and lost again. -/
def markerLostAgain : List Event :=
  markerLost ++ List.replicate 10 (.tick true) ++
    [.detections [0] markerClose, .tick true, .detections [] markerClose]

/-- The run is over after one miss. -/
theorem givesUp_after_one_miss :
    ∃ w, (docking examplePlatform).Run markerLostAgain w ∧
      ∃ w' ∈ (docking examplePlatform).step w (.tick true),
        w'.2.misses 4 = 1 ∧ ¬ TimesOut w (.tick true) w' := by
  have hrun : ∃ w, (docking examplePlatform).Run markerLostAgain w ∧
      w.2.Commanded ∧ w.1.node.dockingCommandMode = 4 ∧
      ∃ w' ∈ (docking examplePlatform).step w (.tick true),
        GivesUp w.1.node w'.1.node ∧ w'.2.misses 4 = 1 :=
    run_of_exec_mem (by decide +kernel)
  obtain ⟨w, hr, hcommanded, h4, w', hw', hgives, hmisses⟩ := hrun
  refine ⟨w, hr, w', hw', hmisses, ?_⟩
  intro h
  have hlong := (h hcommanded ⟨true, rfl⟩ hgives).1 h4
  omega

end Tetra.Service
