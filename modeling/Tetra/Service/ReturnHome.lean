import Tetra.Service.DockingRun

/-!
# The marker of a run that returns home

Four variables hold the id of a marker. `resultCallback` writes the configured id into
`m_iSelect_April_tag_id`, which nothing reads; step 2 takes `m_iHome_id` from `m_iDocking_id`,
which is what the last `Docking_Command` or the joystick has left there. So a run that returns home
looks for the home marker if that was its id (`comparesHome_iff`).
-/

namespace Tetra.Service

open Machine

variable {p : Platform}

/-- The steps 2 and 4 are called with `markerId`. -/
theorem tick_markerId (s : Node) (ready : Bool) :
    (s.dockingCommandMode = 2 → s.dockingThreadFunction p ready =
      (Node.chargingStationTracking p { s with homeId := s.markerId } true
        s.markerId).1.exitIf
        (Node.chargingStationTracking p { s with homeId := s.markerId } true
          s.markerId).1.robotDockingExit) ∧
      (s.dockingCommandMode = 4 → s.dockingThreadFunction p ready =
        (s.chargingStationTracking2 p s.markerId).1.exitIf
          (s.chargingStationTracking2 p s.markerId).1.dockingExit) := by
  constructor
  · intro h
    rw [Node.markerId, if_pos h]
    exact tick_of_search ready h
  · intro h
    rw [Node.markerId, if_neg (by simp [h])]
    exact tick_of_close ready h

/-- In a run that returns home, the steps 2 and 4 look for the configured marker. -/
def ComparesHome (p : Platform) (w : World × RunRecord) : Prop :=
  w.2.start = some .home →
    w.1.node.dockingCommandMode = 2 ∨ w.1.node.dockingCommandMode = 4 →
    w.1.node.markerId = p.homeId

/-- The first tick of a run that returns home finds the configured id in `m_iDocking_id`. -/
def BeginsHome (p : Platform) (w : World × RunRecord) : Event → Prop
  | .tick _ => w.2.start = some .home → w.1.node.dockingCommandMode = 1 →
      w.1.node.dockingId = p.homeId
  | _ => True

/-- From its first step on, the run has stored the id that it was given. -/
def IdStored (w : World × RunRecord) : Prop :=
  w.2.start = some .home → w.1.node.dockingCommandMode ∈ [3, 4, 31] →
    w.1.node.homeId = w.1.node.dockingId

/-- From its first step on, the run has the configured id. -/
def IdConfigured (p : Platform) (w : World × RunRecord) : Prop :=
  w.2.start = some .home → w.1.node.dockingCommandMode ∈ [2, 3, 4, 31] →
    w.1.node.dockingId = p.homeId

section Step

variable {w w' : World × RunRecord} {e : Event}

theorem idStored_step (hunset : Unset w.1.node) (hI : IdStored w)
    (hs : (docking p).step w e = some w') : IdStored w' := by
  intro hhome hmode
  obtain ⟨hnode', _⟩ := docking_step hs
  rcases docking_step_cases hs with ⟨ready, rfl, hnode, hrecord⟩ | ⟨start, hstart, _, hrecord⟩ |
    ⟨_, hpasses, hbetween, hrecord⟩
  · have hnext := tick_mode (p := p) hunset ready
    obtain ⟨hdocking, hid⟩ := tick_ids (p := p) hunset ready
    rw [← hnode] at hnext hdocking hid
    rw [hid, hdocking]
    split
    · rfl
    · next h2 =>
      -- the run was on already
      have hbefore := (of_mem_nextModes hnext).2.2.2 hmode
      refine hI (by rw [hrecord] at hhome; exact hhome) ?_
      simpa [h2] using hbefore
  · -- a start is in none of these modes
    rw [hrecord] at hhome
    rw [Option.some.inj hhome] at hstart
    rw [(starts_home hnode' hstart).1] at hmode
    exact absurd hmode (by decide)
  · rw [hbetween.homeId, hpasses.dockingId]
    rw [hrecord] at hhome
    exact hI hhome (hpasses.mode_mem _ (by decide) (by decide) hmode)

/-- With the configured id at its beginning, a run keeps it. -/
theorem idConfigured_step (hunset : Unset w.1.node) (hJ : IdConfigured p w)
    (hs : (docking p).step w e = some w') (hbegins : BeginsHome p w e) : IdConfigured p w' := by
  intro hhome hmode
  obtain ⟨hnode', _⟩ := docking_step hs
  rcases docking_step_cases hs with ⟨ready, rfl, hnode, hrecord⟩ | ⟨start, hstart, _, hrecord⟩ |
    ⟨_, hpasses, hbetween, hrecord⟩
  · have hnext := tick_mode (p := p) hunset ready
    have hdocking := (tick_ids (p := p) hunset ready).1
    rw [← hnode] at hnext hdocking
    rw [hrecord] at hhome
    rw [hdocking]
    by_cases h1 : w.1.node.dockingCommandMode = 1
    · exact hbegins hhome h1
    · refine hJ hhome ?_
      obtain ⟨_, h2, _, hon⟩ := of_mem_nextModes hnext
      simp only [List.mem_cons, List.not_mem_nil, or_false] at hmode h2 hon ⊢
      rcases hmode with h | h
      · have := h2 h
        omega
      · have := hon h
        omega
  · rw [hrecord] at hhome
    rw [Option.some.inj hhome] at hstart
    rw [(starts_home hnode' hstart).1] at hmode
    exact absurd hmode (by decide)
  · rw [hpasses.dockingId]
    rw [hrecord] at hhome
    exact hJ hhome (hpasses.mode_mem _ (by decide) (by decide) hmode)

theorem comparesHome_of_idConfigured (hI : IdStored w) (hJ : IdConfigured p w) :
    ComparesHome p w := by
  rintro hhome (h | h)
  · rw [Node.markerId, if_pos h]
    exact hJ hhome (by simp [h])
  · rw [Node.markerId, if_neg (by simp [h]), hI hhome (by simp [h])]
    exact hJ hhome (by simp [h])

/-- The first tick leads to step 2, which shows what the run has begun with. -/
theorem beginsHome_of_comparesHome (hunset : Unset w.1.node)
    (hs : (docking p).step w e = some w') (h : ComparesHome p w') : BeginsHome p w e := by
  cases e with
  | tick ready =>
    intro hhome h1
    obtain ⟨hnode, hrecord⟩ := docking_step hs
    have hnode' := Option.some.inj hnode
    have hnext := tick_mode (p := p) hunset ready
    have hdocking := (tick_ids (p := p) hunset ready).1
    rw [h1, nextModes, List.mem_singleton] at hnext
    rw [← hdocking]
    have hcompares := h (by rw [hrecord]; exact hhome) (Or.inl (by rw [← hnode']; exact hnext))
    rw [← hnode', Node.markerId, if_pos hnext] at hcompares
    exact hcompares
  | _ => trivial

end Step

/--
**In every run of the node, docking after a trip home looks for the configured marker exactly if
each such docking begins with the configured id in `m_iDocking_id`.**
-/
theorem comparesHome_iff {es : List Event} {w : World × RunRecord} :
    (docking p).RunWith (fun _ _ w' => ComparesHome p w') es w ↔
      (docking p).RunWith (fun w e _ => BeginsHome p w e) es w := by
  have hinit : Unset (docking p).init.1.node ∧ IdStored (docking p).init ∧
      IdConfigured p (docking p).init :=
    ⟨unset_docking_init, fun h => by simp [docking, recording] at h,
      fun h => by simp [docking, recording] at h⟩
  refine runWith_congr_of_right (I := fun w => Unset w.1.node ∧ IdStored w ∧ IdConfigured p w) hinit
    ?_ fun {w e w'} hI hs => ?_
  · intro w e w' hI hs hbegins
    exact ⟨unset_docking_step hI.1 hs, idStored_step hI.1 hI.2.1 hs,
      idConfigured_step hI.1 hI.2.2 hs hbegins⟩
  · constructor
    · exact beginsHome_of_comparesHome hI.1 hs
    · intro hbegins
      exact comparesHome_of_idConfigured (idStored_step hI.1 hI.2.1 hs)
        (idConfigured_step hI.1 hI.2.2 hs hbegins)

/-- A docking at marker 5, stopped, and a trip home: the run that follows it looks for marker 5. -/
theorem looks_for_last_marker :
    ∃ w, (docking examplePlatform).Run
        [.dockingCommand 5 1, .dockingStop, .gotoLocation "HOME" none true,
          .result 0 .succeeded true, .tick true] w ∧
      ¬ ComparesHome examplePlatform w := by
  have hrun : ∃ w, (docking examplePlatform).Run
      [.dockingCommand 5 1, .dockingStop, .gotoLocation "HOME" none true,
        .result 0 .succeeded true, .tick true] w ∧
      w.2.start = some .home ∧ w.1.node.dockingCommandMode = 2 ∧ w.1.node.markerId = 5 :=
    run_of_exec_mem (by decide +kernel)
  obtain ⟨w, hr, hhome, hmode, hid⟩ := hrun
  refine ⟨w, hr, ?_⟩
  intro h
  exact absurd (hid.symm.trans (h hhome (Or.inl hmode))) (by decide)

end Tetra.Service
