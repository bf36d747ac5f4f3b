import Tetra.Lib.Machine
import Tetra.Service.Handlers

/-!
# The service node and its environment

`Node.step` is one callback of the node. `World` puts the node next to what the action server
and the users of its services know: which goto request came last, which pose was asked for
last, for which request each goal was sent, and which goals have been reported. These are
records of what happened, nothing the node can read.

Three functions of the state before a callback say what it does to navigation, and one lemma
each that they are right: `sends` (the goal it sends), `stores` (the pose in the store after it)
and `flags` (the `m_bflag_ComebackHome` after it).
-/

namespace Tetra.Service

/-- The callbacks of the node, with what each of them gets. `ready` is the state of the action
server at that moment, `goal` counts the goals in the order in which they were sent. -/
inductive Event
  | tick (ready : Bool)
  | detections (ids : List Int) (tf : TfBuffer)
  | joy (buttons : List Int)
  | dockingStatus (data : Int)
  | cmdVel (msg : Twist)
  | initialpose
  | particleCloud (size : Nat)
  | dockingCommand (id mode : Int)
  | dockingStop
  | gotoLocation (location : String) (file : Option (List Char)) (ready : Bool)
  | gotoLocation2 (pose : GoalPose) (ready : Bool)
  | gotoCancel (ready : Bool)
  | result (goal : Nat) (code : ResultCode) (ready : Bool)

namespace Node

variable (p : Platform)

/-- One callback; `none` where it crashes or does not return. -/
def step (s : Node) : Event → Option Node
  | .tick ready => some (s.dockingThreadFunction p ready)
  | .detections ids tf => some (s.apriltagCallback p ids tf)
  | .joy buttons => s.joyCallback buttons
  | .dockingStatus data => some (s.dockingStatusCallback data)
  | .cmdVel msg => some (s.cmdVelCallback msg)
  | .initialpose => some s.initialposeCallback
  | .particleCloud size => some (s.amclParticleCloudCallback size)
  | .dockingCommand id mode => some (s.dockingCommand id mode).1
  | .dockingStop => some s.dockingStopCommand.1
  | .gotoLocation location file ready => (s.gotoLocationCommand p location file ready).map (·.1)
  | .gotoLocation2 pose ready => (s.gotoLocation2Command pose ready).map (·.1)
  | .gotoCancel ready => some (s.gotoCancelCommand ready).1
  | .result _ code ready => some (s.resultCallback p code ready)

/-! ## What a callback does to navigation -/

/-- The goal a callback sends. -/
def sends (s : Node) : Event → Option GoalPose
  | .tick ready =>
    if s.dockingCommandMode = 10 ∧ s.nearStation = false ∧ ready then some s.goalPose else none
  | .gotoLocation location file ready =>
    if s.gotoNormal ∧ ready then some ((resolve p location file).getD s.goalPose) else none
  | .gotoLocation2 pose ready =>
    if ready then
      if s.gotoReverse then some { pose with positionZ := s.goalPose.positionZ }
      else if s.gotoNormal2 then some pose else none
    else none
  | .result _ code ready =>
    if code = .aborted ∧ s.retryCount < retryMaxCount ∧ ready then some s.goalPose else none
  | _ => none

/-- The stored pose after a callback. -/
def stores (s : Node) : Event → GoalPose
  | .gotoLocation location file _ => (resolve p location file).getD s.goalPose
  | .gotoLocation2 pose _ => { pose with positionZ := s.goalPose.positionZ }
  | _ => s.goalPose

/-- Whether `m_bflag_ComebackHome` is set after a callback. -/
def flags (s : Node) : Event → Bool
  | .gotoLocation location _ _ => location = "HOME" || s.comebackHome
  | .result _ .succeeded _ => false
  | _ => s.comebackHome

end Node

/-! ## Callbacks that only listen -/

/-- The callbacks that write what others read, and a cancellation, which the node only passes on. -/
def Event.listens : Event → Bool
  | .detections .. | .dockingStatus _ | .cmdVel _ | .initialpose | .particleCloud _
  | .gotoCancel _ => true
  | _ => false

/-- Neither a motion nor a goal, and what decides about them is as before. -/
structure Untouched (s s' : Node) : Prop where
  lastTwist : s'.lastTwist = s.lastTwist
  goals : s'.goals = s.goals
  goalPose : s'.goalPose = s.goalPose
  comebackHome : s'.comebackHome = s.comebackHome
  mode : s'.dockingCommandMode = s.dockingCommandMode

theorem untouched_step {p : Platform} {s s' : Node} {e : Event} (he : e.listens = true)
    (h : s.step p e = some s') : Untouched s s' := by
  cases e with
  | detections ids tf =>
    obtain ⟨tag, htag⟩ := apriltagCallback_eq p s ids tf
    rw [← Option.some.inj h, htag]
    exact ⟨rfl, rfl, rfl, rfl, rfl⟩
  | particleCloud size =>
    obtain ⟨_, _, hs⟩ := amclParticleCloudCallback_eq s size
    rw [← Option.some.inj h, hs]
    exact ⟨rfl, rfl, rfl, rfl, rfl⟩
  | gotoCancel ready =>
    rw [← Option.some.inj h]
    cases ready with
    | true => exact ⟨lastTwist_send s rfl, goals_send s rfl, rfl, rfl, rfl⟩
    | false => exact ⟨rfl, rfl, rfl, rfl, rfl⟩
  | dockingStatus | cmdVel | initialpose =>
    rw [← Option.some.inj h]
    exact ⟨rfl, rfl, rfl, rfl, rfl⟩
  | _ => exact absurd he (by simp [Event.listens])

/-! ## The three functions are right -/

section Step

variable {p : Platform} {s s' : Node} {e : Event}

/-- **A callback sends the goal `sends` says, and no other.** -/
theorem goals_step (h : s.step p e = some s') : s'.goals = s.goals ++ (s.sends p e).toList := by
  cases e with
  | tick ready =>
    rw [← Option.some.inj h, goals_tick]
    simp only [Node.sends]
    split <;> rfl
  | joy buttons =>
    obtain ⟨_, _, _, _, rfl⟩ := joyCallback_eq h
    exact (List.append_nil _).symm
  | gotoLocation location file ready =>
    obtain ⟨⟨s₁, response⟩, hcmd, rfl⟩ := Option.map_eq_some_iff.mp h
    rw [(gotoLocationCommand_eq hcmd).2]
    simp only [Node.goals, List.filterMap_append, Node.sends]
    split <;> rfl
  | gotoLocation2 pose ready =>
    obtain ⟨⟨s₁, commandResult⟩, hcmd, rfl⟩ := Option.map_eq_some_iff.mp h
    rw [(gotoLocation2Command_done hcmd).2.goals]
    simp only [Node.sends]
    split_ifs <;> rfl
  | result goal code ready =>
    rw [← Option.some.inj h, goals_resultCallback]
    simp only [Node.sends]
    split <;> rfl
  | dockingStop =>
    rw [← Option.some.inj h]
    exact (goals_publishTwist s 0 0).trans (List.append_nil _).symm
  | dockingCommand =>
    rw [← Option.some.inj h]
    exact (List.append_nil _).symm
  | detections | dockingStatus | cmdVel | initialpose | particleCloud | gotoCancel =>
    rw [(untouched_step rfl h).goals]
    exact (List.append_nil _).symm

/-- What is in the store, and whether a trip home is on, after a callback. -/
theorem stores_step (h : s.step p e = some s') :
    s'.goalPose = s.stores p e ∧ s'.comebackHome = s.flags e := by
  cases e with
  | tick ready =>
    rw [← Option.some.inj h]
    exact rest_tick p s ready
  | joy buttons =>
    obtain ⟨_, _, _, _, rfl⟩ := joyCallback_eq h
    exact ⟨rfl, rfl⟩
  | gotoLocation location file ready =>
    obtain ⟨⟨s₁, response⟩, hcmd, rfl⟩ := Option.map_eq_some_iff.mp h
    rw [(gotoLocationCommand_eq hcmd).2]
    exact ⟨rfl, rfl⟩
  | gotoLocation2 pose ready =>
    obtain ⟨⟨s₁, commandResult⟩, hcmd, rfl⟩ := Option.map_eq_some_iff.mp h
    have hdone := (gotoLocation2Command_done hcmd).2
    exact ⟨hdone.goalPose, hdone.comebackHome⟩
  | result goal code ready =>
    obtain ⟨hpose, _, hhome, _⟩ := resultCallback_rest p s ready code
    rw [← Option.some.inj h]
    refine ⟨hpose, hhome.trans ?_⟩
    cases code <;> rfl
  | dockingStop | dockingCommand =>
    rw [← Option.some.inj h]
    exact ⟨rfl, rfl⟩
  | detections | dockingStatus | cmdVel | initialpose | particleCloud | gotoCancel =>
    have hsame := untouched_step rfl h
    exact ⟨hsame.goalPose, hsame.comebackHome⟩

end Step

/-! ## The environment -/

/-- A goto request, by what identifies it. -/
inductive Request
  | location (name : String)
  | pose (pose : GoalPose)
  deriving DecidableEq

/-- `Goto_Location` with the location "HOME". -/
def Request.home : Request := .location "HOME"

/-- The goto request an event is. -/
def Event.request? : Event → Option Request
  | .gotoLocation location _ _ => some (.location location)
  | .gotoLocation2 pose _ => some (.pose pose)
  | _ => none

/-- The pose a goto request asks for, if it resolves to one. -/
def Event.asks (p : Platform) : Event → Option GoalPose
  | .gotoLocation location file _ => resolve p location file
  | .gotoLocation2 pose _ => some pose
  | _ => none

/-- The node, and what has happened around it. -/
structure World where
  node : Node := {}
  /-- The last goto request. -/
  request : Option Request := none
  /-- The pose asked for by the last goto request that resolved to one. -/
  asked : Option GoalPose := none
  /-- For each goal sent, the last goto request at that moment. -/
  sentFor : List (Option Request) := []
  /-- The goals whose result has been reported. -/
  reported : List Nat := []

namespace World

variable (p : Platform)

/-- The goal has been sent, and its result is still to come. -/
def Outstanding (w : World) (goal : Nat) : Prop := goal < w.sentFor.length ∧ goal ∉ w.reported

instance (w : World) (goal : Nat) : Decidable (w.Outstanding goal) :=
  inferInstanceAs (Decidable (_ ∧ _))

/-- The action server reports each goal once, in any order. -/
def Admits (w : World) : Event → Prop
  | .result goal _ _ => w.Outstanding goal
  | _ => True

instance (w : World) : ∀ e, Decidable (w.Admits e)
  | .result goal _ _ => inferInstanceAs (Decidable (w.Outstanding goal))
  | .tick _ | .detections .. | .joy _ | .dockingStatus _ | .cmdVel _ | .initialpose
  | .particleCloud _ | .dockingCommand .. | .dockingStop | .gotoLocation .. | .gotoLocation2 ..
  | .gotoCancel _ => isTrue trivial

/-- The world after a callback that brought the node to `s'`. -/
def after (w : World) (e : Event) (s' : Node) : World where
  node := s'
  request := e.request?.or w.request
  asked := (e.asks p).or w.asked
  sentFor := w.sentFor ++
    List.replicate (s'.goals.length - w.node.goals.length) (e.request?.or w.request)
  reported := match e with
    | .result goal _ _ => goal :: w.reported
    | _ => w.reported

def step (w : World) (e : Event) : Option World :=
  if w.Admits e then (w.node.step p e).map (w.after p e) else none

end World

/-- `tetra_service`, from its start. -/
def service (p : Platform) : Machine World Event := ⟨{}, World.step p⟩

/-- A platform that is exact on squares of rationals, on points straight ahead and on the
rotation by nothing, for runs that are computed. -/
def examplePlatform : Platform where
  sqrt x := (Nat.sqrt (x.num.toNat * x.den) : ℚ) / x.den
  atan2 y x := y / x
  atof _ := 0
  getRPY _ := ⟨0, 0, 0⟩

section World

variable {p : Platform} {w w' : World} {e : Event}

@[simp] theorem after_node (s' : Node) : (w.after p e s').node = s' := rfl

theorem service_step : (service p).step w e = some w' ↔
    w.Admits e ∧ ∃ s', w.node.step p e = some s' ∧ w' = w.after p e s' := by
  simp only [service, World.step]
  split
  · next h =>
    rw [Option.map_eq_some_iff]
    exact ⟨fun ⟨s', hs, hw⟩ => ⟨h, s', hs, hw.symm⟩, fun ⟨_, s', hs, hw⟩ => ⟨s', hs, hw.symm⟩⟩
  · next h => exact iff_of_false (by simp) fun hw => h hw.1

/-- The request of each goal a step sends is the last one, this step's included. -/
theorem sentFor_step (h : (service p).step w e = some w') :
    w'.sentFor = w.sentFor ++ (w.node.sends p e).toList.map fun _ => w'.request := by
  obtain ⟨_, s', hs, rfl⟩ := service_step.mp h
  simp only [World.after, goals_step hs, List.length_append, Nat.add_sub_cancel_left]
  cases w.node.sends p e <;> rfl

end World

end Tetra.Service
