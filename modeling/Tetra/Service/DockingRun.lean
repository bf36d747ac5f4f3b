import Tetra.Service.Independence

/-!
# Docking runs

A run is started by `Docking_Command`, by the joystick or by `resultCallback` after a trip home.
From then on the ticks of the timer take it further, and every other callback either leaves the
mode alone or ends the run (`passes_step`). `docking` is the node with a record of its last start
and of what each tick since then has seen.
-/

namespace Tetra.Service

open Machine

/-! ## Starts -/

/-- What has started a run. -/
inductive Start
  | command (id mode : Int)
  | joystick
  /-- `resultCallback`, after a return-home goal. -/
  | home
  deriving DecidableEq

/-- `Docking_Command` with mode 1. -/
def Start.ByCommand : Start → Prop
  | .command _ mode => mode = 1
  | _ => False

instance : ∀ start : Start, Decidable start.ByCommand
  | .command _ mode => inferInstanceAs (Decidable (mode = 1))
  | .joystick | .home => isFalse id

/-- The start that a callback is, if it is one. -/
def Node.starts (s : Node) : Event → Option Start
  | .dockingCommand id mode => some (.command id mode)
  | .joy buttons => if buttons.getD 6 0 ≠ 0 then some .joystick else none
  | .result _ code _ => if code = .succeeded ∧ s.comebackHome then some .home else none
  | _ => none

/-- What no callback but the tick writes. -/
structure Between (s s' : Node) : Prop where
  homeId : s'.homeId = s.homeId
  noMarkerCnt : s'.noMarkerCnt = s.noMarkerCnt
  targetYaw : s'.arTagPose.targetYaw = s.arTagPose.targetYaw
  cmd : s'.cmd = s.cmd ∨ s'.cmd = ⟨0, 0⟩

/-- The run goes on as it was, or it is over. -/
structure Passes (s s' : Node) : Prop where
  dockingId : s'.dockingId = s.dockingId
  mode : s'.dockingCommandMode = s.dockingCommandMode ∨
    s'.dockingCommandMode = 0 ∨ s'.dockingCommandMode = 10

section Step

variable {p : Platform} {s s' : Node} {e : Event}

/-- **A callback other than the tick leaves alone what a run has noted.** -/
theorem between_step (h : s.step p e = some s') (htick : ∀ ready, e ≠ .tick ready) :
    Between s s' := by
  cases e with
  | tick ready => exact absurd rfl (htick ready)
  | detections ids tf =>
    have hyaw := apriltagCallback_targetYaw (p := p) s ids tf
    obtain ⟨tag, htag⟩ := apriltagCallback_eq p s ids tf
    rw [← Option.some.inj h]
    rw [htag] at hyaw ⊢
    exact ⟨rfl, rfl, hyaw, Or.inl rfl⟩
  | joy buttons =>
    obtain ⟨_, _, _, _, rfl⟩ := joyCallback_eq h
    exact ⟨rfl, rfl, rfl, Or.inl rfl⟩
  | particleCloud size =>
    obtain ⟨_, _, hs⟩ := amclParticleCloudCallback_eq s size
    rw [← Option.some.inj h, hs]
    exact ⟨rfl, rfl, rfl, Or.inl rfl⟩
  | gotoLocation location file ready =>
    obtain ⟨⟨s₁, response⟩, hcmd, rfl⟩ := Option.map_eq_some_iff.mp h
    rw [(gotoLocationCommand_eq hcmd).2]
    exact ⟨rfl, rfl, rfl, Or.inl rfl⟩
  | gotoLocation2 pose ready =>
    obtain ⟨⟨s₁, commandResult⟩, hcmd, rfl⟩ := Option.map_eq_some_iff.mp h
    obtain ⟨_, _, _, _, hzero, rfl⟩ := gotoLocation2Command_eq hcmd
    exact ⟨rfl, rfl, rfl, hzero⟩
  | gotoCancel ready =>
    rw [← Option.some.inj h]
    cases ready <;> exact ⟨rfl, rfl, rfl, Or.inl rfl⟩
  | result goal code ready =>
    obtain ⟨_, _, _, _, _, _, hs⟩ := resultCallback_eq p s ready code
    rw [← Option.some.inj h, hs]
    exact ⟨rfl, rfl, rfl, Or.inl rfl⟩
  | dockingStop =>
    rw [← Option.some.inj h]
    exact ⟨rfl, rfl, rfl, Or.inr rfl⟩
  | cmdVel | initialpose | dockingStatus | dockingCommand =>
    rw [← Option.some.inj h]
    exact ⟨rfl, rfl, rfl, Or.inl rfl⟩

theorem resultCallback_dockingId (code : ResultCode) (ready : Bool) :
    (s.resultCallback p code ready).dockingId = s.dockingId := by
  obtain ⟨_, _, _, _, _, _, hs⟩ := resultCallback_eq p s ready code
  rw [hs]

/-- **A callback that is neither a tick nor a start lets the run pass, or ends it.** -/
theorem passes_step (h : s.step p e = some s') (htick : ∀ ready, e ≠ .tick ready)
    (hstart : s.starts e = none) : Passes s s' := by
  cases e with
  | tick ready => exact absurd rfl (htick ready)
  | dockingCommand id mode => simp [Node.starts] at hstart
  | detections ids tf =>
    obtain ⟨tag, htag⟩ := apriltagCallback_eq p s ids tf
    rw [← Option.some.inj h, htag]
    exact ⟨rfl, Or.inl rfl⟩
  | joy buttons =>
    obtain ⟨lt, rt, hlt, _, rfl⟩ := joyCallback_eq h
    have hzero : lt = 0 := by
      by_contra hne
      simp [Node.starts, hlt, hne] at hstart
    subst hzero
    refine ⟨rfl, ?_⟩
    by_cases hrt : rt = 0
    · simp [hrt]
    · simp [hrt]
  | particleCloud size =>
    obtain ⟨_, _, hs⟩ := amclParticleCloudCallback_eq s size
    rw [← Option.some.inj h, hs]
    exact ⟨rfl, Or.inl rfl⟩
  | gotoLocation location file ready =>
    obtain ⟨⟨s₁, response⟩, hcmd, rfl⟩ := Option.map_eq_some_iff.mp h
    rw [(gotoLocationCommand_eq hcmd).2]
    refine ⟨rfl, ?_⟩
    dsimp only
    split
    · exact Or.inl rfl
    · exact Or.inr (Or.inr rfl)
  | gotoLocation2 pose ready =>
    obtain ⟨⟨s₁, commandResult⟩, hcmd, rfl⟩ := Option.map_eq_some_iff.mp h
    obtain ⟨_, _, _, _, _, hs⟩ := gotoLocation2Command_eq hcmd
    refine ⟨by rw [hs], ?_⟩
    rw [(gotoLocation2Command_done hcmd).2.mode]
    split
    · exact Or.inl rfl
    · exact Or.inr (Or.inr rfl)
  | gotoCancel ready =>
    rw [← Option.some.inj h]
    cases ready <;> exact ⟨rfl, Or.inl rfl⟩
  | result goal code ready =>
    rw [← Option.some.inj h]
    refine ⟨resultCallback_dockingId code ready, Or.inl ?_⟩
    have hmode := (resultCallback_rest p s ready code).2.2.2
    rw [hmode, if_neg]
    intro hhome
    rw [Node.starts, if_pos hhome] at hstart
    exact absurd hstart (by simp)
  | dockingStop =>
    rw [← Option.some.inj h]
    exact ⟨rfl, Or.inr (Or.inl rfl)⟩
  | cmdVel | initialpose | dockingStatus =>
    rw [← Option.some.inj h]
    exact ⟨rfl, Or.inl rfl⟩

/-- A run that is on after such a callback was on before it. -/
theorem Passes.mode_mem (h : Passes s s') (modes : List Int) (h0 : 0 ∉ modes) (h10 : 10 ∉ modes)
    (hmode : s'.dockingCommandMode ∈ modes) : s.dockingCommandMode ∈ modes := by
  rcases h.mode with hsame | hzero | hten
  · rwa [hsame] at hmode
  · exact absurd (hzero ▸ hmode) h0
  · exact absurd (hten ▸ hmode) h10

/-- A trip home starts docking without a word about the marker. -/
theorem starts_home (h : s.step p e = some s') (hstart : s.starts e = some .home) :
    s'.dockingCommandMode = 1 ∧ s'.dockingId = s.dockingId := by
  cases e with
  | result goal code ready =>
    rw [← Option.some.inj h]
    refine ⟨?_, resultCallback_dockingId code ready⟩
    rw [(resultCallback_rest p s ready code).2.2.2, if_pos]
    by_contra hnot
    rw [Node.starts, if_neg hnot] at hstart
    exact absurd hstart (by simp)
  | joy buttons =>
    rw [Node.starts] at hstart
    split at hstart <;> simp at hstart
  | _ => simp [Node.starts] at hstart

/-- `Docking_Command` sets the mode it is called with. -/
theorem starts_byCommand {start : Start} (h : s.step p e = some s')
    (hstart : s.starts e = some start) (hcommand : start.ByCommand) :
    s'.dockingCommandMode = 1 := by
  cases start with
  | command id mode =>
    cases e with
    | dockingCommand id' mode' =>
      obtain ⟨rfl, rfl⟩ := Start.command.inj (Option.some.inj hstart)
      rw [← Option.some.inj h]
      exact hcommand
    | joy buttons =>
      rw [Node.starts] at hstart
      split at hstart <;> simp at hstart
    | result goal code ready =>
      rw [Node.starts] at hstart
      split at hstart <;> simp at hstart
    | _ => simp [Node.starts] at hstart
  | joystick | home => exact hcommand.elim

end Step

/-! ## Where a tick leads -/

/-- The modes a tick can lead to. -/
def nextModes : Int → List Int
  | 1 => [2]
  | 2 => [2, 3, 4, 9]
  | 3 => [0, 3, 4, 31]
  | 4 => [0, 4, 8]
  | 8 => [0]
  | 9 => [0]
  | 10 => [0, 10]
  | 31 => [2, 31]
  | mode => [mode]

/-- No tick begins a run. It gets into step 2 from its beginning or from behind, and stays on from
there. -/
theorem of_mem_nextModes {mode mode' : Int} (h : mode' ∈ nextModes mode) :
    mode' ≠ 1 ∧ (mode' = 2 → mode ∈ [1, 2, 31]) ∧ (mode' = 3 → mode ∈ [2, 3]) ∧
      (mode' ∈ [3, 4, 31] → mode ∈ [2, 3, 4, 31]) := by
  unfold nextModes at h
  split at h <;> simp_all <;> omega

section Modes

variable {p : Platform} {s : Node}

theorem exits_mode (exit : Bool) (m : Int × List Twist) :
    (Node.exits exit m).1 = 0 ∨ (Node.exits exit m).1 = m.1 := by
  cases exit with
  | true => exact Or.inl rfl
  | false => exact Or.inr rfl

theorem searches_mode : (s.searches p).1 ∈ [s.dockingCommandMode, 3, 4, 9] := by
  unfold Node.searches
  split_ifs <;> simp

theorem turns_mode : (s.turns p).1 ∈ [s.dockingCommandMode, 4, 31] := by
  unfold Node.turns
  split_ifs <;> simp

theorem closes_mode : (s.closes p).1 ∈ [s.dockingCommandMode, 8] := by
  unfold Node.closes
  split_ifs <;> simp

theorem backs_mode : (s.backs p).1 ∈ [s.dockingCommandMode, 2] := by
  unfold Node.backs
  split_ifs <;> simp

/-- Outside of the departure. -/
theorem moves_mode (h10 : s.dockingCommandMode ≠ 10) :
    (s.moves p).1 ∈ nextModes s.dockingCommandMode := by
  have hsearches := searches_mode (p := p) (s := s)
  have hturns := turns_mode (p := p) (s := s)
  have hcloses := closes_mode (p := p) (s := s)
  have hbacks := backs_mode (p := p) (s := s)
  have hturnsExit := exits_mode s.dockingExit (s.turns p)
  have hclosesExit := exits_mode s.dockingExit (s.closes p)
  simp only [List.mem_cons, List.not_mem_nil, or_false] at hsearches hturns hcloses hbacks
  unfold Node.moves
  split
  · next h => simp [h, nextModes]
  · next h =>
    rw [h] at hsearches ⊢
    simpa [nextModes] using hsearches
  · next h =>
    rw [h] at hturns ⊢
    rcases hturnsExit with hexit | hexit
    · simp [nextModes, hexit]
    · rw [hexit]
      rcases hturns with hmode | hmode | hmode <;> simp [nextModes, hmode]
  · next h =>
    rw [h] at hcloses ⊢
    rcases hclosesExit with hexit | hexit
    · simp [nextModes, hexit]
    · rw [hexit]
      rcases hcloses with hmode | hmode <;> simp [nextModes, hmode]
  · next h => simp [h, nextModes]
  · next h => simp [h, nextModes]
  · next h =>
    rw [h] at hbacks ⊢
    rcases hbacks with hmode | hmode <;> simp [nextModes, hmode]
  · next h1 h2 h3 h4 h8 h9 h31 =>
    unfold nextModes
    split <;> simp_all

/-- A departure writes the mode and the Twist, and no more. -/
theorem departure_eq (ready : Bool) (h10 : s.dockingCommandMode = 10) : ∃ cmd log mode,
    mode ∈ [0, 10] ∧ s.dockingThreadFunction p ready =
      { s with cmd := cmd, log := log, dockingCommandMode := mode } := by
  rcases tick_cases p s ready with ⟨hmode, _⟩ | ⟨_, _, linearX, hs⟩ | ⟨_, _, hs⟩
  · exact absurd h10 hmode
  · exact ⟨_, _, 10, by simp, by rw [hs, ← h10]; rfl⟩
  · exact ⟨_, _, 0, by simp, by rw [hs, setGoal_eq]; rfl⟩

/-- **The transitions of the docking machine.** -/
theorem tick_mode (h : Unset s) (ready : Bool) :
    (s.dockingThreadFunction p ready).dockingCommandMode ∈ nextModes s.dockingCommandMode := by
  by_cases h10 : s.dockingCommandMode = 10
  · obtain ⟨cmd, log, mode, hmode, hs⟩ := departure_eq (p := p) ready h10
    rw [hs, h10]
    exact hmode
  · rw [(tick_moves h ready h10).mode]
    exact moves_mode h10

/-- The ids of the marker after a tick. -/
theorem tick_ids (h : Unset s) (ready : Bool) :
    (s.dockingThreadFunction p ready).dockingId = s.dockingId ∧
      (s.dockingThreadFunction p ready).homeId =
        if s.dockingCommandMode = 2 then s.dockingId else s.homeId := by
  by_cases h10 : s.dockingCommandMode = 10
  · obtain ⟨cmd, log, mode, _, hs⟩ := departure_eq (p := p) ready h10
    rw [hs, if_neg (by simp [h10])]
    exact ⟨rfl, rfl⟩
  · have hmoves := tick_moves (p := p) h ready h10
    exact ⟨hmoves.dockingId, hmoves.homeId⟩

end Modes

/-! ## What a tick sees -/

/-- The id that the steps 2 and 4 compare the detected one with. -/
def Node.markerId (s : Node) : Int := if s.dockingCommandMode = 2 then s.dockingId else s.homeId

/-- The marker is not the one that was detected last. -/
def Node.Missing (s : Node) : Prop := s.arTagPose.aprilTagId ≠ s.markerId

instance (s : Node) : Decidable s.Missing := inferInstanceAs (Decidable (¬ _))

/-- The mode of a tick, and whether the marker was missing. -/
structure Look where
  mode : Int
  missing : Bool
  deriving DecidableEq

def Node.look (s : Node) : Look := ⟨s.dockingCommandMode, s.Missing⟩

/-- A tick looks for the marker, nothing else does. -/
def Node.looks (s : Node) : Event → List Look
  | .tick _ => [s.look]
  | _ => []

/-! ## The node with a record of its run -/

/-- The last start, and what the ticks have seen since. -/
structure RunRecord where
  start : Option Start := none
  looks : List Look := []
  deriving DecidableEq

/-- The run has been started by `Docking_Command` with mode 1. -/
def RunRecord.Commanded (record : RunRecord) : Prop := ∃ start ∈ record.start, start.ByCommand

instance (record : RunRecord) : Decidable record.Commanded :=
  inferInstanceAs (Decidable (∃ start ∈ record.start, start.ByCommand))

theorem commanded_start {start : Start} :
    ({ start := some start } : RunRecord).Commanded ↔ start.ByCommand := by
  simp [RunRecord.Commanded]

/-- The record after a callback. -/
def RunRecord.after (w : World) (e : Event) (record : RunRecord) : RunRecord :=
  match w.node.starts e with
  | some start => { start := some start }
  | none => { record with looks := record.looks ++ w.node.looks e }

/-- `tetra_service` with a record of its docking run. -/
def docking (p : Platform) : Machine (World × RunRecord) Event :=
  (service p).recording {} RunRecord.after

section Docking

variable {p : Platform} {w w' : World × RunRecord} {e : Event}

/-- The runs of `docking` are those of the node. -/
theorem exists_docking_iff {es : List Event} {w : World} :
    (∃ record, (docking p).Run es (w, record)) ↔ (service p).Run es w :=
  exists_run_recording_iff

theorem docking_step (h : (docking p).step w e = some w') :
    w.1.node.step p e = some w'.1.node ∧ w'.2 = w.2.after w.1 e := by
  obtain ⟨hworld, hrecord⟩ := recording_step.mp h
  obtain ⟨_, s', hnode, hw'⟩ := service_step.mp hworld
  rw [hw', after_node]
  exact ⟨hnode, hrecord⟩

theorem after_start {start : Start} (h : w.1.node.starts e = some start) :
    w.2.after w.1 e = { start := some start } := by
  simp only [RunRecord.after, h]

theorem after_other (htick : ∀ ready, e ≠ .tick ready) (hstart : w.1.node.starts e = none) :
    w.2.after w.1 e = w.2 := by
  have hlooks : w.1.node.looks e = [] := by
    cases e with
    | tick ready => exact absurd rfl (htick ready)
    | _ => rfl
  simp only [RunRecord.after, hstart, hlooks, List.append_nil]

theorem unset_docking_step (h : Unset w.1.node) (hs : (docking p).step w e = some w') :
    Unset w'.1.node :=
  unset_step h (docking_step hs).1

theorem unset_docking_init : Unset (docking p).init.1.node := ⟨rfl, rfl, rfl, rfl⟩

/-- A step is a tick, a start, or lets the run pass. -/
theorem docking_step_cases (h : (docking p).step w e = some w') :
    (∃ ready, e = .tick ready ∧ w'.1.node = w.1.node.dockingThreadFunction p ready ∧
        w'.2 = { w.2 with looks := w.2.looks ++ [w.1.node.look] }) ∨
      (∃ start, w.1.node.starts e = some start ∧ Between w.1.node w'.1.node ∧
        w'.2 = { start := some start }) ∨
      ((∀ ready, e ≠ .tick ready) ∧ Passes w.1.node w'.1.node ∧ Between w.1.node w'.1.node ∧
        w'.2 = w.2) := by
  obtain ⟨hnode, hrecord⟩ := docking_step h
  by_cases he : ∃ ready, e = .tick ready
  · obtain ⟨ready, rfl⟩ := he
    exact Or.inl ⟨ready, rfl, (Option.some.inj hnode).symm, hrecord⟩
  · have htick : ∀ ready, e ≠ .tick ready := fun ready heq => he ⟨ready, heq⟩
    have hbetween := between_step hnode htick
    cases hstart : w.1.node.starts e with
    | some start => exact Or.inr (Or.inl ⟨start, rfl, hbetween, by rw [hrecord, after_start hstart]⟩)
    | none =>
      exact Or.inr (Or.inr ⟨htick, passes_step hnode htick hstart, hbetween,
        by rw [hrecord, after_other htick hstart]⟩)

end Docking

end Tetra.Service
