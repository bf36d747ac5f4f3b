import Tetra.Service.System

/-!
# Navigation goals

What can be said about the goals the node sends, for any order of requests, results and ticks:

* a location without a file moves the robot all the same (`unresolved_moves`);
* a goal is the pose that was asked for, up to the `pose_z` that `Goto_Location2_Command` does
  not store (`asAsked_iff`);
* the number of goals is bounded by the requests and the aborts (`goals_accounted`), although
  the abort of any goal counts, not only of the last one;
* an accepted request is not lost, unless the action server was not ready, or a trip home ended
  while a departure was pending (`kept_iff`).
-/

namespace Tetra.Service

open Machine

/-- The goals sent between the two states. -/
def newGoals (s s' : Node) : List GoalPose := s'.goals.drop s.goals.length

theorem newGoals_step {p : Platform} {w w' : World} {e : Event}
    (h : (service p).step w e = some w') :
    newGoals w.node w'.node = (w.node.sends p e).toList := by
  obtain ⟨_, s', hs, rfl⟩ := service_step.mp h
  rw [newGoals, after_node, goals_step hs, List.drop_left]

/-! ## A location without a file -/

/-- Neither a goal nor a departure, the store as before, and the request refused. -/
structure LeftAlone (s s' : Node) (commandResult : Bool) : Prop where
  goals : newGoals s s' = []
  goalPose : s'.goalPose = s.goalPose
  mode : s'.dockingCommandMode = s.dockingCommandMode
  refused : commandResult = false

/--
**A location whose file does not open is accepted in every state**, and the pose that happens to
be in the store is sent, now or after a departure.
-/
theorem unresolved_moves (p : Platform) (s : Node) (location : String) (ready : Bool)
    (h : location ≠ "HOME") :
    ∃ s' response, s.gotoLocationCommand p location none ready = some (s', response) ∧
      newGoals s s' = (if s.gotoNormal ∧ ready then [s.goalPose] else []) ∧
      s'.dockingCommandMode = (if s.gotoNormal then s.dockingCommandMode else 10) ∧
      ¬ LeftAlone s s' response.commandResult := by
  have hreturns : ∃ s' response, s.gotoLocationCommand p location none ready = some (s', response) := by
    simp [Node.gotoLocationCommand, Node.openLocationFile, h]
  obtain ⟨s', response, hcmd⟩ := hreturns
  obtain ⟨hresponse, hs'⟩ := gotoLocationCommand_eq hcmd
  refine ⟨s', response, hcmd, ?_, ?_, ?_⟩
  · rw [hs']
    simp only [newGoals, Node.goals, List.filterMap_append, resolve, if_neg h, Option.bind_none,
      Option.getD_none, List.drop_left]
    split <;> rfl
  · rw [hs']
  · intro halone
    exact absurd halone.refused (by simp [hresponse])

/-- The location "A" on a robot that has just started. -/
theorem unresolved_moves_from_start :
    ∃ s' response, ({} : Node).gotoLocationCommand examplePlatform "A" none true
        = some (s', response) ∧
      newGoals {} s' = (if ({} : Node).gotoNormal ∧ true then [{}] else []) ∧
      s'.dockingCommandMode = (if ({} : Node).gotoNormal then 0 else 10) ∧
      ¬ LeftAlone {} s' response.commandResult :=
  unresolved_moves examplePlatform {} "A" true (by decide)

/-- A robot that has just started drives to the origin. -/
theorem unresolved_sends_origin :
    ∃ s' response, ({} : Node).gotoLocationCommand examplePlatform "A" none true
        = some (s', response) ∧
      s'.goals = [⟨0, 0, 0, 0, 0, 0, 1⟩] ∧ response.commandResult = true ∧
      ¬ LeftAlone {} s' response.commandResult := by
  refine ⟨_, _, rfl, rfl, rfl, ?_⟩
  intro h
  exact absurd h.refused (by decide)

/-! ## The goal is the pose that was asked for -/

/-- Every goal of the step is the pose asked for last. -/
def AsAsked (w w' : World) : Prop := ∀ pose ∈ newGoals w.node w'.node, w'.asked = some pose

instance (w w' : World) : Decidable (AsAsked w w') :=
  inferInstanceAs (Decidable (∀ pose ∈ newGoals w.node w'.node, w'.asked = some pose))

/-- A pose has been asked for, and its `pose_z` is in the store. -/
def UpToDate (w : World) : Prop :=
  ∃ pose ∈ w.asked, w.node.goalPose.positionZ = pose.positionZ

/-- The store is right in all components when a goal is taken from it. -/
def SendsFresh (p : Platform) (w : World) : Event → Prop
  | .tick ready =>
    w.node.dockingCommandMode = 10 ∧ w.node.nearStation = false ∧ ready → UpToDate w
  | .gotoLocation location file ready =>
    w.node.gotoNormal ∧ ready → resolve p location file = none → UpToDate w
  | .gotoLocation2 pose ready =>
    w.node.gotoReverse ∧ ready → w.node.goalPose.positionZ = pose.positionZ
  | .result _ code ready =>
    code = .aborted ∧ w.node.retryCount < retryMaxCount ∧ ready → UpToDate w
  | _ => True

/-- Once a pose has been asked for, the store is that pose up to `pose_z`. -/
def StoresAsked (w : World) : Prop :=
  ∀ pose ∈ w.asked, w.node.goalPose = { pose with positionZ := w.node.goalPose.positionZ }

section Asked

variable {p : Platform} {w w' : World} {e : Event}

theorem storesAsked_step (h : StoresAsked w) (hs : (service p).step w e = some w') :
    StoresAsked w' := by
  obtain ⟨_, s', hnode, rfl⟩ := service_step.mp hs
  intro pose hpose
  simp only [World.after, (stores_step hnode).1] at hpose ⊢
  cases e with
  | gotoLocation location file ready =>
    cases hres : resolve p location file with
    | none =>
      simp only [Event.asks, Node.stores, hres, Option.none_or, Option.getD_none] at hpose ⊢
      exact h pose hpose
    | some asked =>
      simp only [Event.asks, Node.stores, hres, Option.some_or, Option.getD_some,
        Option.mem_some_iff] at hpose ⊢
      rw [hpose]
  | gotoLocation2 asked ready =>
    simp only [Event.asks, Node.stores, Option.some_or, Option.mem_some_iff] at hpose ⊢
    rw [hpose]
  | _ => exact h pose hpose

/-- A goal from the store is the pose asked for exactly if the store is up to date. -/
theorem asked_eq_store_iff (h : StoresAsked w) :
    w.asked = some w.node.goalPose ↔ UpToDate w := by
  constructor
  · exact fun hasked => ⟨w.node.goalPose, hasked, rfl⟩
  · rintro ⟨pose, hpose, hz⟩
    have hstore := h pose hpose
    rw [hz] at hstore
    rw [hstore]
    exact hpose

theorem asAsked_step (h : StoresAsked w) (hs : (service p).step w e = some w') :
    AsAsked w w' ↔ SendsFresh p w e := by
  have hnew := newGoals_step hs
  obtain ⟨_, s', hnode, rfl⟩ := service_step.mp hs
  rw [AsAsked, hnew]
  cases e with
  | tick ready =>
    simp only [Node.sends, SendsFresh, World.after, Event.asks, Option.none_or]
    split
    · next hsend => simp [hsend, asked_eq_store_iff h]
    · next hsend => simp [hsend]
  | result goal code ready =>
    simp only [Node.sends, SendsFresh, World.after, Event.asks, Option.none_or]
    split
    · next hsend => simp [hsend, asked_eq_store_iff h]
    · next hsend => simp [hsend]
  | gotoLocation location file ready =>
    simp only [Node.sends, SendsFresh, World.after, Event.asks]
    split
    · next hsend =>
      cases hres : resolve p location file with
      | none => simp [hsend, asked_eq_store_iff h]
      | some pose => simp
    · next hsend => simp [hsend]
  | gotoLocation2 pose ready =>
    simp only [Node.sends, SendsFresh, World.after, Event.asks, Option.some_or]
    split_ifs with hready hreverse hnormal
    · -- the goal of the reverse move has the stored `pose_z`
      simp only [Option.toList_some, List.mem_singleton, forall_eq, Option.some.injEq, hreverse,
        hready, and_self, forall_const]
      constructor
      · exact fun hpose => (congrArg GoalPose.positionZ hpose).symm
      · exact fun hz => by rw [hz]
    · simp [hreverse]
    · simp [hreverse]
    · simp [hready]
  | _ => simp [Node.sends, SendsFresh]

end Asked

/--
**Every goal of a run is the pose asked for last exactly if the store is right in all components
whenever a goal is taken from it.**
-/
theorem asAsked_iff {p : Platform} {es : List Event} {w : World} :
    (service p).RunWith (fun w _ w' => AsAsked w w') es w ↔
      (service p).RunWith (fun w e _ => SendsFresh p w e) es w := by
  refine runWith_congr (I := StoresAsked) ?_ storesAsked_step asAsked_step
  intro pose hpose
  simp [service] at hpose

/-- On the charger the robot backs out, and the goal it sends then has lost its `pose_z`. -/
theorem not_asAsked_from_charger :
    ∃ w, (service examplePlatform).Run [.dockingStatus 2] w ∧
      ∃ w' ∈ (service examplePlatform).step w (.gotoLocation2 ⟨1, 2, 1, 0, 0, 0, 1⟩ true),
        newGoals w.node w'.node = [⟨1, 2, 0, 0, 0, 0, 1⟩] ∧ ¬ AsAsked w w' :=
  run_of_exec_mem (by decide +kernel)

/-! ## How many goals there are -/

/-- How many goals an event can be the cause of. -/
def Event.causes : Event → Nat
  | .gotoLocation .. | .gotoLocation2 .. => 1
  | .dockingCommand _ mode => if mode = 10 then 1 else 0
  | .result _ .aborted _ => 1
  | _ => 0

/-- The goal of a departure that is under way. -/
def Node.pending (s : Node) : Nat := if s.dockingCommandMode = 10 then 1 else 0

theorem Node.pending_le {s s' : Node}
    (h : s'.dockingCommandMode = 10 → s.dockingCommandMode = 10) : s'.pending ≤ s.pending := by
  unfold Node.pending
  split
  · next h10 => rw [if_pos (h h10)]
  · exact Nat.zero_le _

section Count

variable {p : Platform} {s s' : Node} {e : Event}

theorem pays_of_quiet (hsends : s.sends p e = none)
    (h : s'.dockingCommandMode = 10 → s.dockingCommandMode = 10) :
    (s.sends p e).toList.length + s'.pending ≤ s.pending + e.causes := by
  have hle := Node.pending_le h
  rw [hsends, Option.toList_none, List.length_nil]
  omega

/-- A result starts no departure, and an abort pays for its retry. -/
theorem pays_of_result (goal : Nat) (code : ResultCode) (ready : Bool) :
    (s.sends p (.result goal code ready)).toList.length +
        (s.resultCallback p code ready).pending ≤
      s.pending + (Event.result goal code ready).causes := by
  have hle : (s.resultCallback p code ready).pending ≤ s.pending := by
    refine Node.pending_le fun h10 => ?_
    rw [(resultCallback_rest p s ready code).2.2.2] at h10
    split at h10
    · exact absurd h10 (by decide)
    · exact h10
  cases code with
  | aborted =>
    have hone : (s.sends p (.result goal .aborted ready)).toList.length ≤ 1 := by
      simp only [Node.sends]
      split <;> simp
    simp only [Event.causes]
    omega
  | succeeded | canceled | unknown =>
    simp only [Node.sends, Event.causes]
    simpa using hle

/-- A callback pays for the goal it sends, and for the departure it starts. -/
theorem sends_add_pending_le (h : s.step p e = some s') :
    (s.sends p e).toList.length + s'.pending ≤ s.pending + e.causes := by
  cases e with
  | tick ready =>
    obtain rfl := Option.some.inj h
    have hmode := mode_tick (p := p) (s := s) ready
    simp only [Node.sends, Event.causes, Node.pending, hmode]
    split_ifs <;> simp_all
  | gotoLocation location file ready =>
    obtain ⟨⟨s₁, response⟩, hcmd, rfl⟩ := Option.map_eq_some_iff.mp h
    simp only [Node.sends, Event.causes, Node.pending, (gotoLocationCommand_eq hcmd).2]
    cases s.gotoNormal <;> cases ready <;> simp
    omega
  | gotoLocation2 pose ready =>
    obtain ⟨⟨s₁, commandResult⟩, hcmd, rfl⟩ := Option.map_eq_some_iff.mp h
    simp only [Node.sends, Event.causes, Node.pending, (gotoLocation2Command_done hcmd).2.mode]
    cases s.gotoReverse <;> cases s.gotoNormal2 <;> cases ready <;> simp
    all_goals omega
  | dockingCommand id mode =>
    obtain rfl := Option.some.inj h
    have hpending : (s.dockingCommand id mode).1.pending = if mode = 10 then 1 else 0 := rfl
    have hsends : s.sends p (.dockingCommand id mode) = none := rfl
    rw [hpending, hsends, Event.causes, Option.toList_none, List.length_nil]
    omega
  | result goal code ready =>
    obtain rfl := Option.some.inj h
    exact pays_of_result goal code ready
  | joy buttons =>
    obtain ⟨lt, rt, _, _, rfl⟩ := joyCallback_eq h
    refine pays_of_quiet rfl fun h10 => ?_
    simp only at h10
    split_ifs at h10 with hrt hlt
    · exact absurd h10 (by decide)
    · exact absurd h10 (by decide)
    · exact h10
  | dockingStop =>
    obtain rfl := Option.some.inj h
    exact pays_of_quiet rfl fun h10 => absurd (show (0 : Int) = 10 from h10) (by decide)
  | detections | dockingStatus | cmdVel | initialpose | particleCloud | gotoCancel =>
    exact pays_of_quiet rfl (untouched_step rfl h).mode.symm.trans

end Count

/-- The retry of a result is for the goal that was sent last. -/
def RetriesLatest (w : World) (e : Event) (w' : World) : Prop :=
  ∀ goal code ready, e = .result goal code ready → newGoals w.node w'.node ≠ [] →
    code = .aborted ∧ goal + 1 = w.node.goals.length

/-- The retry of a result is for some goal that was sent and not reported. -/
def RetriesOutstanding (w : World) (e : Event) (w' : World) : Prop :=
  ∀ goal code ready, e = .result goal code ready → newGoals w.node w'.node ≠ [] →
    code = .aborted ∧ w.Outstanding goal ∧ newGoals w.node w'.node = [w.node.goalPose]

theorem retriesOutstanding_step {p : Platform} {w w' : World} {e : Event}
    (hs : (service p).step w e = some w') : RetriesOutstanding w e w' := by
  rintro goal code ready rfl hne
  have hadmits := (service_step.mp hs).1
  rw [newGoals_step hs, Node.sends] at hne ⊢
  split at hne
  · next hsend => exact ⟨hsend.1, hadmits, by rw [if_pos hsend]; rfl⟩
  · exact absurd rfl hne

/--
**A retry answers an abort, and the goals of a stretch of a run are paid for.**

`new` is any stretch, from `w` to `w'`: its goals are at most its goto requests and aborts, and
the departures that were under way or commanded by hand.
-/
theorem goals_accounted {p : Platform} {es new : List Event} {w w' : World}
    (hr : (service p).Run es w) (hr' : (service p).Run (es ++ new) w') :
    (service p).RunWith RetriesOutstanding (es ++ new) w' ∧
      w'.node.goals.length + w'.node.pending ≤
        w.node.goals.length + w.node.pending + (new.map Event.causes).sum := by
  refine ⟨hr'.mono (I := fun _ => True) trivial fun _ hs _ =>
    ⟨trivial, retriesOutstanding_step hs⟩, ?_⟩
  -- what is pending at the end of the stretch is paid for and not sent yet, so the sum of both
  -- is what the induction carries
  induction new using List.reverseRecOn generalizing w' with
  | nil =>
    rw [List.append_nil] at hr'
    rw [hr.deterministic hr']
    simp
  | append_singleton new e ih =>
    rw [← List.append_assoc] at hr'
    obtain ⟨w₁, hr₁, hs, _⟩ := runWith_concat.mp hr'
    obtain ⟨_, s', hnode, rfl⟩ := service_step.mp hs
    have hstep := sends_add_pending_le hnode
    have hih := ih hr₁
    rw [after_node, goals_step hnode, List.length_append, List.map_append, List.sum_append]
    simp only [List.map_cons, List.map_nil, List.sum_cons, List.sum_nil, Nat.add_zero]
    omega

/-- Two goals, the abort of the first one, and its retry. -/
theorem goals_accounted_preempted :
    ∃ w', (service examplePlatform).RunWith RetriesOutstanding
        [.gotoLocation2 ⟨1, 0, 0, 0, 0, 0, 1⟩ true, .gotoLocation2 ⟨2, 0, 0, 0, 0, 0, 1⟩ true,
          .result 0 .aborted true] w' ∧
      w'.node.goals.length + w'.node.pending ≤ 3 := by
  have hrun : ∃ w', (service examplePlatform).Run
      [.gotoLocation2 ⟨1, 0, 0, 0, 0, 0, 1⟩ true, .gotoLocation2 ⟨2, 0, 0, 0, 0, 0, 1⟩ true,
        .result 0 .aborted true] w' ∧ w'.node.pending = 0 :=
    run_of_exec_mem (by decide +kernel)
  obtain ⟨w', hr, _⟩ := hrun
  exact ⟨w', goals_accounted .init hr⟩

/-- The node answers the abort of its first goal, which it has replaced, with a third one. -/
theorem retries_superseded :
    ∃ w, (service examplePlatform).Run
        [.gotoLocation2 ⟨1, 0, 0, 0, 0, 0, 1⟩ true, .gotoLocation2 ⟨2, 0, 0, 0, 0, 0, 1⟩ true] w ∧
      ∃ w' ∈ (service examplePlatform).step w (.result 0 .aborted true),
        ¬ RetriesLatest w (.result 0 .aborted true) w' := by
  have hrun : ∃ w, (service examplePlatform).Run
      [.gotoLocation2 ⟨1, 0, 0, 0, 0, 0, 1⟩ true, .gotoLocation2 ⟨2, 0, 0, 0, 0, 0, 1⟩ true] w ∧
      w.node.goals.length = 2 ∧ ∃ w' ∈ (service examplePlatform).step w (.result 0 .aborted true),
        newGoals w.node w'.node = [⟨2, 0, 0, 0, 0, 0, 1⟩] :=
    run_of_exec_mem (by decide +kernel)
  obtain ⟨w, hr, hsent, w', hs, hnew⟩ := hrun
  refine ⟨w, hr, w', hs, ?_⟩
  intro h
  have hlatest := (h 0 .aborted true rfl (by simp [hnew])).2
  omega

/-! ## No accepted request is lost -/

/-- A goto request that returns and answers `command_result = true`. -/
def Node.accepts (p : Platform) (s : Node) : Event → Bool
  | .gotoLocation location file ready =>
    (s.gotoLocationCommand p location file ready).any (·.2.commandResult)
  | .gotoLocation2 pose ready => (s.gotoLocation2Command pose ready).any (·.2)
  | _ => false

/-- The events that may end a departure without its goal. -/
def Event.overrides : Event → Bool
  | .gotoLocation .. | .gotoLocation2 .. | .dockingCommand .. | .dockingStop | .joy _ => true
  | _ => false

/-- An accepted request has its goal sent or a departure under way, and a departure ends by
sending its goal, unless it is overridden. -/
structure Kept (p : Platform) (w : World) (e : Event) (w' : World) : Prop where
  accepted : w.node.accepts p e = true →
    newGoals w.node w'.node ≠ [] ∨ w'.node.dockingCommandMode = 10
  departure : w.node.dockingCommandMode = 10 → w'.node.dockingCommandMode ≠ 10 →
    e.overrides = false → newGoals w.node w'.node ≠ []

/-- The action server is ready when a goal is due, and no trip home ends during a departure. -/
def Ready (s : Node) : Event → Prop
  | .gotoLocation _ _ ready => s.gotoNormal → ready ∨ s.dockingCommandMode = 10
  | .gotoLocation2 _ ready => s.gotoReverse ∨ s.gotoNormal2 → ready ∨ s.dockingCommandMode = 10
  | .tick ready => s.dockingCommandMode = 10 → s.nearStation = false → ready
  | .result _ code _ => code = .succeeded → s.dockingCommandMode = 10 → s.comebackHome = false
  | _ => True

section Kept

variable {p : Platform} {w w' : World} {e : Event}

/-- An accepted request takes the place of a departure before it. -/
theorem kept_of_accepts (haccepts : w.node.accepts p e = true) (hover : e.overrides = true) :
    Kept p w e w' ↔ newGoals w.node w'.node ≠ [] ∨ w'.node.dockingCommandMode = 10 := by
  constructor
  · exact fun h => h.accepted haccepts
  · exact fun h => ⟨fun _ => h, fun _ _ hnot => absurd (hover.symm.trans hnot) (by decide)⟩

/-- Any other event matters to a departure only. -/
theorem kept_of_not_accepts (haccepts : w.node.accepts p e = false) :
    Kept p w e w' ↔ (w.node.dockingCommandMode = 10 → w'.node.dockingCommandMode ≠ 10 →
      e.overrides = false → newGoals w.node w'.node ≠ []) := by
  constructor
  · exact fun h => h.departure
  · exact fun h => ⟨fun hacc => absurd (haccepts.symm.trans hacc) (by decide), h⟩

/-- An event that is no goto request, and keeps a departure going or overrides it. -/
theorem kept_of_mode (haccepts : w.node.accepts p e = false)
    (h : w.node.dockingCommandMode = 10 →
      w'.node.dockingCommandMode = 10 ∨ e.overrides = true) : Kept p w e w' := by
  rw [kept_of_not_accepts haccepts]
  intro h10 hleft hover
  rcases h h10 with hstays | htrue
  · exact absurd hstays hleft
  · exact absurd (htrue.symm.trans hover) (by decide)

theorem kept_gotoLocation_iff {location : String} {file : Option (List Char)} {ready : Bool}
    (hs : (service p).step w (.gotoLocation location file ready) = some w') :
    Kept p w (.gotoLocation location file ready) w' ↔
      Ready w.node (.gotoLocation location file ready) := by
  have hnew := newGoals_step hs
  obtain ⟨_, s', hnode, rfl⟩ := service_step.mp hs
  rw [after_node] at hnew
  obtain ⟨⟨s₁, response⟩, hcmd, rfl⟩ := Option.map_eq_some_iff.mp hnode
  obtain ⟨hresponse, hs₁⟩ := gotoLocationCommand_eq hcmd
  have haccepts : w.node.accepts p (.gotoLocation location file ready) = true := by
    simp [Node.accepts, hcmd, hresponse]
  have hmode : s₁.dockingCommandMode =
      if w.node.gotoNormal then w.node.dockingCommandMode else 10 := by
    rw [hs₁]
  rw [kept_of_accepts haccepts rfl, after_node, hnew, hmode]
  cases hnormal : w.node.gotoNormal with
  | true => cases ready <;> simp [Node.sends, Ready, hnormal]
  | false => simp [Ready, hnormal]

theorem kept_gotoLocation2_iff {pose : GoalPose} {ready : Bool}
    (hs : (service p).step w (.gotoLocation2 pose ready) = some w') :
    Kept p w (.gotoLocation2 pose ready) w' ↔ Ready w.node (.gotoLocation2 pose ready) := by
  have hnew := newGoals_step hs
  obtain ⟨_, s', hnode, rfl⟩ := service_step.mp hs
  rw [after_node] at hnew
  obtain ⟨⟨s₁, commandResult⟩, hcmd, rfl⟩ := Option.map_eq_some_iff.mp hnode
  obtain ⟨hresult, hdone⟩ := gotoLocation2Command_done hcmd
  have haccepts : w.node.accepts p (.gotoLocation2 pose ready) = true := by
    simp [Node.accepts, hcmd, hresult]
  rw [kept_of_accepts haccepts rfl, after_node, hnew, hdone.mode]
  -- the request backs out of the charger, is sent at once, or waits for a departure
  cases hreverse : w.node.gotoReverse with
  | true => cases ready <;> simp [Node.sends, Ready, hreverse]
  | false =>
    cases hnormal : w.node.gotoNormal2 with
    | true => cases ready <;> simp [Node.sends, Ready, hreverse, hnormal]
    | false => simp [Ready, hreverse, hnormal]

/-- A tick ends a departure with its goal if the server is ready. -/
theorem kept_tick_iff {ready : Bool} (hs : (service p).step w (.tick ready) = some w') :
    Kept p w (.tick ready) w' ↔ Ready w.node (.tick ready) := by
  have hnew := newGoals_step hs
  obtain ⟨_, s', hnode, rfl⟩ := service_step.mp hs
  rw [after_node] at hnew
  obtain rfl := Option.some.inj hnode
  have hmode := mode_tick (p := p) (s := w.node) ready
  rw [kept_of_not_accepts rfl, after_node, hnew]
  constructor
  · intro h h10 hfar
    by_contra hready
    exact h h10 (by simp [hmode, hfar]) rfl (by simp [Node.sends, hready])
  · intro h h10 hleft _
    have hfar : w.node.nearStation = false := by simpa [hmode, h10] using hleft
    simp [Node.sends, h10, hfar, h h10 hfar]

/-- A success on the way home starts docking, whatever departure was under way. -/
theorem kept_result_iff {goal : Nat} {code : ResultCode} {ready : Bool}
    (hs : (service p).step w (.result goal code ready) = some w') :
    Kept p w (.result goal code ready) w' ↔ Ready w.node (.result goal code ready) := by
  have hnew := newGoals_step hs
  obtain ⟨_, s', hnode, rfl⟩ := service_step.mp hs
  rw [after_node] at hnew
  obtain rfl := Option.some.inj hnode
  have hmode := (resultCallback_rest p w.node ready code).2.2.2
  constructor
  · rintro h rfl h10
    by_contra hhome
    have hkept := h.departure h10 (by simp [hmode, hhome]) rfl
    rw [after_node, hnew] at hkept
    exact hkept (by simp [Node.sends])
  · intro h
    refine kept_of_mode rfl fun h10 => Or.inl ?_
    rw [after_node, hmode, if_neg]
    · exact h10
    · rintro ⟨hcode, hhome⟩
      rw [h hcode h10] at hhome
      exact absurd hhome (by decide)

theorem kept_step (hs : (service p).step w e = some w') : Kept p w e w' ↔ Ready w.node e := by
  cases e with
  | gotoLocation location file ready => exact kept_gotoLocation_iff hs
  | gotoLocation2 pose ready => exact kept_gotoLocation2_iff hs
  | tick ready => exact kept_tick_iff hs
  | result goal code ready => exact kept_result_iff hs
  | joy | dockingCommand | dockingStop =>
    exact iff_of_true (kept_of_mode rfl fun _ => Or.inr rfl) trivial
  | detections | dockingStatus | cmdVel | initialpose | particleCloud | gotoCancel =>
    obtain ⟨_, s', hnode, rfl⟩ := service_step.mp hs
    have hmode := (untouched_step rfl hnode).mode
    exact iff_of_true (kept_of_mode rfl fun h10 => Or.inl (hmode.trans h10)) trivial

end Kept

/--
**No accepted request of a run is lost exactly if the action server is ready whenever a goal is
due, and no trip home ends during a departure.**
-/
theorem kept_iff {p : Platform} {es : List Event} {w : World} :
    (service p).RunWith (Kept p) es w ↔
      (service p).RunWith (fun w e _ => Ready w.node e) es w :=
  runWith_congr (I := fun _ => True) trivial (fun _ _ => trivial) fun _ hs => kept_step hs

/-- The action server is not up yet: the request is accepted, and nothing comes of it. -/
theorem not_kept_unready :
    ∃ w, (service examplePlatform).Run [] w ∧
      ∃ w' ∈ (service examplePlatform).step w (.gotoLocation "HOME" none false),
        ¬ Kept examplePlatform w (.gotoLocation "HOME" none false) w' := by
  have hrun : ∃ w, (service examplePlatform).Run [] w ∧
      w.node.accepts examplePlatform (.gotoLocation "HOME" none false) = true ∧
      ∃ w' ∈ (service examplePlatform).step w (.gotoLocation "HOME" none false),
        newGoals w.node w'.node = [] ∧ w'.node.dockingCommandMode = 0 :=
    run_of_exec_mem (by decide +kernel)
  obtain ⟨w, hr, haccepts, w', hs, hnew, hmode⟩ := hrun
  refine ⟨w, hr, w', hs, ?_⟩
  intro h
  rcases h.accepted haccepts with hsent | hpending
  · exact hsent hnew
  · omega

end Tetra.Service
