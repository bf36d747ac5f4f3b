import Tetra.Service.System

/-!
# Docking at home

`resultCallback` starts docking on a success while `m_bflag_ComebackHome` is set. The flag is set
by a request for "HOME" and cleared by a success only, and the result does not say which goal
succeeded. What this comes to is that the flag may be set only while every goal still to be
reported was sent for "HOME" (`homeOnly_iff_flag`); `homeOnly_iff` says which steps keep it so.
-/

namespace Tetra.Service

open Machine

variable {p : Platform}

/-- The callback sets the mode to 1, whatever it was before. -/
def StartsDocking (p : Platform) (s : Node) (code : ResultCode) (ready : Bool) : Prop :=
  ∀ mode, (({ s with dockingCommandMode := mode } : Node).resultCallback p code
    ready).dockingCommandMode = 1

theorem startsDocking_iff {s : Node} {code : ResultCode} {ready : Bool} :
    StartsDocking p s code ready ↔ code = .succeeded ∧ s.comebackHome = true := by
  have hmode : ∀ mode, (({ s with dockingCommandMode := mode } : Node).resultCallback p code
      ready).dockingCommandMode = if code = .succeeded ∧ s.comebackHome then 1 else mode :=
    fun mode => (resultCallback_rest p { s with dockingCommandMode := mode } ready code).2.2.2
  constructor
  · intro h
    have h0 := h 0
    rw [hmode] at h0
    by_contra hnot
    rw [if_neg hnot] at h0
    exact absurd h0 (by decide)
  · intro h mode
    rw [hmode, if_pos h]

/-- The goal was sent for a `Goto_Location` request with the location "HOME". -/
def World.ForHome (w : World) (goal : Nat) : Prop := w.sentFor[goal]? = some (some .home)

/-- Whichever result comes next, docking is started on the success of a goal for "HOME" only. -/
def HomeOnly (p : Platform) (w : World) : Prop :=
  ∀ goal code ready, w.Outstanding goal → StartsDocking p w.node code ready →
    code = .succeeded ∧ w.ForHome goal

/-- While the flag is set, every goal still to be reported is for "HOME". -/
def AllForHome (w : World) : Prop :=
  w.node.comebackHome = true → ∀ goal, w.Outstanding goal → w.ForHome goal

theorem homeOnly_iff_flag {w : World} : HomeOnly p w ↔ AllForHome w := by
  constructor
  · intro h hflag goal hout
    exact (h goal .succeeded true hout (startsDocking_iff.mpr ⟨rfl, hflag⟩)).2
  · intro h goal code ready hout hstart
    obtain ⟨hcode, hflag⟩ := startsDocking_iff.mp hstart
    exact ⟨hcode, h hflag goal hout⟩

/-- The steps that keep trips home apart from others. -/
structure TripsApart (p : Platform) (w : World) (e : Event) : Prop where
  /-- "HOME" is requested while every goal still to be reported is for "HOME". -/
  request : e.request? = some .home → ∀ goal, w.Outstanding goal → w.ForHome goal
  /-- While the flag is set, goals are sent only if the last request is for "HOME". -/
  goal : w.node.comebackHome = true → (w.node.sends p e).isSome = true →
    e.request?.or w.request = some .home

/-- Only goals that were sent are reported. -/
def ReportedSent (w : World) : Prop := ∀ goal ∈ w.reported, goal < w.sentFor.length

section Step

variable {w w' : World} {e : Event}

theorem flags_of_home (h : e.request? = some .home) : w.node.flags e = true := by
  cases e with
  | gotoLocation location file ready =>
    have hlocation : location = "HOME" := Request.location.inj (Option.some.inj h)
    simp [Node.flags, hlocation]
  | gotoLocation2 pose ready => exact absurd (Option.some.inj h) (by simp [Request.home])
  | _ => exact absurd h (by simp [Event.request?])

/-- A callback that sets the flag is a request for "HOME". -/
theorem home_of_flags (hset : w.node.flags e = true) (hclear : w.node.comebackHome = false) :
    e.request? = some .home := by
  cases e with
  | gotoLocation location file ready =>
    have hlocation : location = "HOME" := by simpa [Node.flags, hclear] using hset
    rw [hlocation]
    rfl
  | result goal code ready => cases code <;> simp [Node.flags, hclear] at hset
  | _ => simp [Node.flags, hclear] at hset

/-- A callback that sends a goal does not clear the flag. -/
theorem flags_of_sends (h : (w.node.sends p e).isSome = true)
    (hflag : w.node.comebackHome = true) : w.node.flags e = true := by
  cases e with
  | gotoLocation location file ready => simp [Node.flags, hflag]
  | result goal code ready =>
    cases code with
    | succeeded => simp [Node.sends] at h
    | aborted | canceled | unknown => exact hflag
  | _ => exact hflag

theorem reportedSent_step (h : ReportedSent w) (hs : (service p).step w e = some w') :
    ReportedSent w' := by
  have hsent := sentFor_step hs
  obtain ⟨hadmits, s', hnode, rfl⟩ := service_step.mp hs
  intro goal hgoal
  rw [hsent, List.length_append]
  refine Nat.lt_add_right _ ?_
  cases e with
  | result reported code ready =>
    rcases List.mem_cons.mp hgoal with rfl | hold
    · exact hadmits.1
    · exact h goal hold
  | _ => exact h goal hgoal

theorem reported_subset (hs : (service p).step w e = some w') : ∀ goal ∈ w.reported,
    goal ∈ w'.reported := by
  obtain ⟨_, s', _, rfl⟩ := service_step.mp hs
  intro goal hgoal
  cases e with
  | result => exact List.mem_cons_of_mem _ hgoal
  | _ => exact hgoal

theorem request_step (hs : (service p).step w e = some w') :
    w'.request = e.request?.or w.request := by
  obtain ⟨_, s', _, rfl⟩ := service_step.mp hs
  rfl

theorem comebackHome_step (hs : (service p).step w e = some w') :
    w'.node.comebackHome = w.node.flags e := by
  obtain ⟨_, s', hnode, rfl⟩ := service_step.mp hs
  exact (stores_step hnode).2

/-- The goals of `w'` are those of `w`, and the one the step sends. -/
theorem forHome_of_lt (hs : (service p).step w e = some w') {goal : Nat}
    (h : goal < w.sentFor.length) : w'.ForHome goal ↔ w.ForHome goal := by
  rw [World.ForHome, World.ForHome, sentFor_step hs, List.getElem?_append_left h]

theorem allForHome_of_tripsApart (h : AllForHome w) (hs : (service p).step w e = some w')
    (hK : TripsApart p w e) : AllForHome w' := by
  intro hflag goal ⟨hlt, hreported⟩
  rw [comebackHome_step hs] at hflag
  have hbefore : goal < w.sentFor.length → w'.ForHome goal := by
    intro hold
    have hout : w.Outstanding goal := ⟨hold, fun hr => hreported (reported_subset hs goal hr)⟩
    rw [forHome_of_lt hs hold]
    cases hclear : w.node.comebackHome with
    | true => exact h hclear goal hout
    | false => exact hK.request (home_of_flags hflag hclear) goal hout
  by_cases hold : goal < w.sentFor.length
  · exact hbefore hold
  · -- the goal is the one this step sends
    rw [sentFor_step hs, List.length_append, List.length_map] at hlt
    have hsends : (w.node.sends p e).isSome = true := by
      cases hnone : w.node.sends p e with
      | none =>
        rw [hnone, Option.toList_none, List.length_nil] at hlt
        omega
      | some pose => rfl
    obtain ⟨pose, hpose⟩ := Option.isSome_iff_exists.mp hsends
    have hgoal : goal = w.sentFor.length := by
      rw [hpose, Option.toList_some, List.length_singleton] at hlt
      omega
    have hrequest : w'.request = some .home := by
      rw [request_step hs]
      cases hclear : w.node.comebackHome with
      | true => exact hK.goal hclear hsends
      | false => rw [home_of_flags hflag hclear, Option.some_or]
    rw [World.ForHome, sentFor_step hs, hgoal, List.getElem?_append_right (Nat.le_refl _), hpose,
      hrequest]
    simp

theorem tripsApart_of_allForHome (hI : ReportedSent w) (hs : (service p).step w e = some w')
    (h : AllForHome w') : TripsApart p w e := by
  constructor
  · intro hhome goal ⟨hlt, hreported⟩
    rw [← forHome_of_lt hs hlt]
    refine h ((comebackHome_step hs).trans (flags_of_home hhome)) goal ⟨?_, ?_⟩
    · rw [sentFor_step hs, List.length_append]
      omega
    · -- a request reports nothing
      obtain ⟨_, s', _, rfl⟩ := service_step.mp hs
      cases e with
      | result => exact absurd hhome (by simp [Event.request?])
      | _ => exact hreported
  · intro hflag hsends
    obtain ⟨pose, hpose⟩ := Option.isSome_iff_exists.mp hsends
    have hnew := h ((comebackHome_step hs).trans (flags_of_sends hsends hflag)) w.sentFor.length
    rw [World.ForHome, sentFor_step hs, List.getElem?_append_right (Nat.le_refl _), hpose,
      request_step hs] at hnew
    have hout : w'.Outstanding w.sentFor.length := by
      refine ⟨?_, ?_⟩
      · rw [sentFor_step hs, List.length_append, hpose]
        simp
      · intro hr
        -- neither an earlier report nor this step's own is of a goal not sent before
        obtain ⟨hadmits, s', _, rfl⟩ := service_step.mp hs
        cases e with
        | result goal code ready =>
          rcases List.mem_cons.mp hr with heq | hold
          · exact absurd hadmits.1 (heq ▸ Nat.lt_irrefl _)
          · exact absurd (hI _ hold) (Nat.lt_irrefl _)
        | _ => exact absurd (hI _ hr) (Nat.lt_irrefl _)
    simpa using hnew hout

end Step

/--
**Docking is started by goals for "HOME" only, all along a run, exactly if its steps keep trips
home apart.**
-/
theorem homeOnly_iff {es : List Event} {w : World} :
    (service p).RunWith (fun _ _ w' => HomeOnly p w') es w ↔
      (service p).RunWith (fun w e _ => TripsApart p w e) es w := by
  refine runWith_invariant_iff (I := ReportedSent) (J := HomeOnly p) ?_ reportedSent_step ?_ ?_
  · intro goal hgoal
    simp [service] at hgoal
  · exact homeOnly_iff_flag.mpr fun hflag => by simp [service] at hflag
  · intro w e w' hI hJ hs
    rw [homeOnly_iff_flag] at hJ ⊢
    exact ⟨tripsApart_of_allForHome hI hs, allForHome_of_tripsApart hJ hs⟩

/-- A trip home is cancelled, and the robot docks at the end of its next trip. -/
theorem docks_after_cancelled_trip :
    ∃ w, (service examplePlatform).Run
        [.gotoLocation "HOME" none true, .gotoCancel true, .result 0 .canceled true,
          .gotoLocation2 ⟨5, 0, 0, 0, 0, 0, 1⟩ true] w ∧
      (∃ w' ∈ (service examplePlatform).step w (.result 1 .succeeded true),
        w'.node.dockingCommandMode = 1) ∧
      ¬ HomeOnly examplePlatform w := by
  have hrun : ∃ w, (service examplePlatform).Run
      [.gotoLocation "HOME" none true, .gotoCancel true, .result 0 .canceled true,
        .gotoLocation2 ⟨5, 0, 0, 0, 0, 0, 1⟩ true] w ∧
      (∃ w' ∈ (service examplePlatform).step w (.result 1 .succeeded true),
        w'.node.dockingCommandMode = 1) ∧ w.node.comebackHome = true ∧ w.Outstanding 1 ∧
      w.sentFor[1]? = some (some (.pose ⟨5, 0, 0, 0, 0, 0, 1⟩)) :=
    run_of_exec_mem (by decide +kernel)
  obtain ⟨w, hr, hdocks, hflag, hout, hfor⟩ := hrun
  refine ⟨w, hr, hdocks, ?_⟩
  intro h
  have hhome := homeOnly_iff_flag.mp h hflag 1 hout
  rw [World.ForHome, hfor] at hhome
  exact absurd hhome (by decide)

end Tetra.Service
