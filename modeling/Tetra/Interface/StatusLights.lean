import Mathlib.Data.List.Count
import Tetra.Interface.Services
import Tetra.Lib.Machine
import Tetra.Lib.Relay

/-!
# The status lights

`tetra_service` publishes what state the robot is in on `/robot_status`, `led_control_node` makes of it a
request for the blinking and one for the colour, and the handlers of `tetra_interface` write a frame for
each of them. The main function of `tetra_service` publishes 0 when its callbacks are running already, and
its `EMGCallback` 99 for each message that says the button is pushed; nobody publishes anything else.

So the lights are white once at most (`lights_in_turn`), and if nothing gets lost they are red from the
first push on (`lights_of_reliable`), also when the button has long been released.
-/

namespace Tetra.Interface

open Memory Serial

/-! ## Requests -/

/-- A request of `led_toggle_cmd`. -/
structure Toggle where
  deIndex : Int
  lightAccel : Int
  ledHighBrightness : Int
  lightDecel : Int
  ledLowBrightness : Int
  deriving DecidableEq, Repr

def Toggle.request (t : Toggle) : Request :=
  .ledToggleControl t.deIndex t.lightAccel t.ledHighBrightness t.lightDecel t.ledLowBrightness

def Toggle.args (t : Toggle) : List Int :=
  [t.deIndex, t.lightAccel, t.ledHighBrightness, t.lightDecel, t.ledLowBrightness]

/-- What `statusCallback` asks for in each case of its `switch`: the blinking and the colour. -/
def ledCommands (robotStatus : Int) : Option (Toggle × Int) :=
  if robotStatus = 0 then some (⟨1, 3, 100, 3, 1⟩, 63)
  else if robotStatus = 1 then some (⟨1, 5, 100, 5, 1⟩, 30)
  else if robotStatus = 99 then some (⟨1, 10, 100, 10, 1⟩, 18)
  else none

/-- `power_set_light_toggle` writes this. -/
def toggleFrame (t : Toggle) : List UInt8 := packet ('L'.toUInt8 :: 'D'.toUInt8 :: argsText t.args)

/-- `power_toggle_on` writes this. -/
def turnOnFrame (id : Int) : List UInt8 := packet ('L'.toUInt8 :: 'T'.toUInt8 :: argsText [id])

/-- The frames that were written between two states of the line. -/
def framesSince (line line' : Line) : List (List UInt8) :=
  (line'.log.drop line.log.length).filterMap fun
    | .wrote frame _ _ => some frame
    | .received _ _ => none

/-! ## The nodes -/

/-- The three nodes and what is under way between them. -/
structure Lights where
  /-- `m_iCallback_EMG` -/
  callbackEmg : Int := 0
  /-- `m_emgpush_flag` -/
  emgpushFlag : Bool := false
  /-- The main function has got past its `publish`. -/
  started : Bool := false
  /-- Everything that was published on `/robot_status`. -/
  published : List Int := []
  /-- What is still to be delivered of it. -/
  robotStatus : List Int := []
  /-- Requests of `led_toggle_cmd` that are not answered yet, and the frames of those that are. -/
  toggles : List Toggle := []
  toggled : List (List UInt8) := []
  /-- The same for `turn_on_cmd`. -/
  turnOns : List Int := []
  turnedOn : List (List UInt8) := []
  /-- `tetra_interface` -/
  server : Server

namespace Lights

/-- `robot_status_publisher->publish` -/
def publish (s : Lights) (status : Int) : Lights :=
  { s with published := s.published ++ [status], robotStatus := s.robotStatus ++ [status] }

/-- `EMGCallback` -/
def emgCallback (s : Lights) (data : Int) : Lights :=
  let s := { s with callbackEmg := data }
  if s.callbackEmg ≠ 0 then { s.publish 99 with emgpushFlag := false }
  else if !s.emgpushFlag then { s with emgpushFlag := true }
  else s

/-- `LedToggleControl_Call` -/
def ledToggleControlCall (s : Lights) (ready : Bool) (t : Toggle) : Lights :=
  if !ready then s else { s with toggles := s.toggles ++ [t] }

/-- `ToggleOn_Call` -/
def toggleOnCall (s : Lights) (ready : Bool) (id : Int) : Lights :=
  if !ready then s else { s with turnOns := s.turnOns ++ [id] }

/-- `statusCallback`; the flags are what `service_is_ready` says in the two calls. -/
def statusCallback (s : Lights) (toggleReady turnOnReady : Bool) (robotStatus : Int) : Lights :=
  match ledCommands robotStatus with
  | some (t, id) => (s.ledToggleControlCall toggleReady t).toggleOnCall turnOnReady id
  | none => s

end Lights

/-- What happens in one of the nodes, or between them. -/
inductive LightEvent
  /-- A message on `emg_state`. -/
  | emgState (data : Int)
  /-- The main function of `tetra_service` publishes its status. -/
  | start
  /-- A message on `/robot_status` is delivered. -/
  | status (toggleReady turnOnReady : Bool)
  /-- A request of one of the services is handled. -/
  | ledToggle
  | toggleOn
  /-- Messages and requests get lost, as they do when a queue is full. -/
  | lose (robotStatus : List Int) (toggles : List Toggle) (turnOns : List Int)
  /-- Whatever else `tetra_interface` does. -/
  | others (server : Server)

/-- The three nodes, each of which may take its next step at any time. -/
def lights (server : Server) : Machine Lights LightEvent where
  init := { server }
  step s
    | .emgState data => some (s.emgCallback data)
    | .start => if s.started then none else some { s.publish 0 with started := true }
    | .status toggleReady turnOnReady =>
      match s.robotStatus with
      | [] => none
      | status :: robotStatus =>
        some ({ s with robotStatus }.statusCallback toggleReady turnOnReady status)
    | .ledToggle =>
      match s.toggles with
      | [] => none
      | t :: toggles => (s.server.serve t.request).toOption.map fun r =>
        { s with toggles, toggled := s.toggled ++ framesSince s.server.line r.2.line, server := r.2 }
    | .toggleOn =>
      match s.turnOns with
      | [] => none
      | id :: turnOns => (s.server.serve (.toggleOn id)).toOption.map fun r =>
        { s with turnOns, turnedOn := s.turnedOn ++ framesSince s.server.line r.2.line, server := r.2 }
    | .lose robotStatus toggles turnOns =>
      if List.Sublist robotStatus s.robotStatus ∧ List.Sublist toggles s.toggles ∧
          List.Sublist turnOns s.turnOns then
        some { s with robotStatus, toggles, turnOns }
      else none
    | .others server => some { s with server }

/-! ## What is written -/

section Frames

variable {line line' : Line} {data : Buffer} {index : Nat} {ret : Int}

theorem framesSince_self (line : Line) : framesSince line line = [] := by
  simp [framesSince]

theorem framesSince_wrote : framesSince line (line.wrote data index) = [data.take index] := by
  simp [framesSince, Line.wrote_log]

theorem framesSince_received {buf : Buffer} {port : Port} :
    framesSince line ((line.wrote data index).received buf port) = [data.take index] := by
  simp [framesSince, Line.wrote_log, Line.received_log]

theorem framesSince_exchange {data' : Buffer}
    (h : exchange getResponse line data index = .ok (ret, data', line')) :
    framesSince line line' = [data.take index] := by
  rw [exchange_eq] at h
  split_ifs at h
  · simp only [Except.ok.injEq, Prod.mk.injEq] at h
    rw [← h.2.2, framesSince_wrote]
  · obtain ⟨⟨_, _, _⟩, _, hline⟩ := bind_eq_ok_iff.mp h
    obtain ⟨-, -, rfl⟩ := pure_triple_eq_ok_iff.mp hline
    exact framesSince_received

/-- A command with numbers writes its frame and no other, if the port is open. -/
theorem framesSince_intsCommand {c₁ c₂ : Char} {args : List Int} (hne : args ≠ [])
    (hargs : ∀ num ∈ args, Negatable num) (hroom : 12 * args.length + 5 ≤ 255)
    (h : intsCommand 255 c₁ c₂ args line = .ok (ret, line')) :
    framesSince line line' =
      if line.fd = 0 then [] else [packet (c₁.toUInt8 :: c₂.toUInt8 :: argsText args)] := by
  rw [intsCommand] at h
  split_ifs at h ⊢
  · obtain ⟨-, rfl⟩ := pure_pair_eq_ok_iff.mp h
    exact framesSince_self line
  · rw [delimitedFrame_eq hne hargs hroom, ok_bind] at h
    obtain ⟨⟨_, _, _⟩, hexchange, hline⟩ := bind_eq_ok_iff.mp h
    obtain ⟨-, rfl⟩ := pure_pair_eq_ok_iff.mp hline
    rw [framesSince_exchange hexchange, take_packetBuf]

end Frames

/-! ## The two services as relays -/

/-- What is set by the two services of the lights. -/
inductive Light
  | blinking
  | colour
  deriving DecidableEq

/-- The frame that is written for a status. -/
def Light.frame : Light → Int → Option (List UInt8)
  | blinking, status => (ledCommands status).map fun c => toggleFrame c.1
  | colour, status => (ledCommands status).map fun c => turnOnFrame c.2

/-- `led_control_node` stands between the topic and each of its services. -/
def Lights.relay (s : Lights) : Light → Relay Int (List UInt8)
  | .blinking => ⟨s.published, s.robotStatus, s.toggles.map toggleFrame, s.toggled⟩
  | .colour => ⟨s.published, s.robotStatus, s.turnOns.map turnOnFrame, s.turnedOn⟩

/-- All requests under way are some that `statusCallback` makes. -/
structure Lights.Known (s : Lights) : Prop where
  toggles : ∀ t ∈ s.toggles, ∃ status id, ledCommands status = some (t, id)
  turnOns : ∀ id ∈ s.turnOns, ∃ status t, ledCommands status = some (t, id)

/-- A step on which nothing gets lost and no request is left out. -/
def Reliable (s : Lights) : LightEvent → Prop
  | .status toggleReady turnOnReady => toggleReady = true ∧ turnOnReady = true
  | .ledToggle | .toggleOn => s.server.line.fd ≠ 0
  | .lose .. => False
  | _ => True

theorem negatable_of_ledCommands {status id : Int} {t : Toggle}
    (h : ledCommands status = some (t, id)) : (∀ num ∈ t.args, Negatable num) ∧ Negatable id := by
  unfold ledCommands at h
  split_ifs at h
  all_goals
    obtain ⟨rfl, rfl⟩ := Prod.mk.inj (Option.some.inj h)
    simp [Toggle.args, Negatable]

section Steps

variable {server : Server} {s s' : Lights} {e : LightEvent} {r : Response × Server}

theorem framesSince_ledToggle {t : Toggle} (ht : ∀ num ∈ t.args, Negatable num)
    (h : (s.server.serve t.request).toOption = some r) :
    framesSince s.server.line r.2.line = if s.server.line.fd = 0 then [] else [toggleFrame t] := by
  obtain ⟨⟨ret, line⟩, hcall, hr⟩ := bind_eq_ok_iff.mp (toOption_eq_some_iff.mp h)
  obtain rfl := Except.ok.inj hr
  exact framesSince_intsCommand (by simp [Toggle.args]) ht (by simp [Toggle.args]) hcall

theorem framesSince_toggleOn {id : Int} (hid : Negatable id)
    (h : (s.server.serve (.toggleOn id)).toOption = some r) :
    framesSince s.server.line r.2.line = if s.server.line.fd = 0 then [] else [turnOnFrame id] := by
  obtain ⟨⟨ret, line⟩, hcall, hr⟩ := bind_eq_ok_iff.mp (toOption_eq_some_iff.mp h)
  obtain rfl := Except.ok.inj hr
  exact framesSince_intsCommand (by simp) (by simpa using hid) (by simp) hcall

theorem relay_publish (status : Int) (light : Light) :
    Relay.Moves light.frame (s.relay light) ((s.publish status).relay light) := by
  cases light <;> exact .send status

theorem relay_emgCallback (data : Int) (light : Light) :
    Relay.Moves light.frame (s.relay light) ((s.emgCallback data).relay light) := by
  unfold Lights.emgCallback
  dsimp only
  split_ifs
  · exact relay_publish (s := { s with callbackEmg := data }) 99 light
  · cases light <;> exact .idle
  · cases light <;> exact .idle

/-- A status that is delivered is passed on, unless a service is not ready. -/
theorem relay_statusCallback {status : Int} {robotStatus : List Int}
    (h : s.robotStatus = status :: robotStatus) (toggleReady turnOnReady : Bool) (light : Light) :
    Relay.Moves light.frame (s.relay light)
        (({ s with robotStatus }.statusCallback toggleReady turnOnReady status).relay light) ∨
      Relay.Loses (s.relay light)
          (({ s with robotStatus }.statusCallback toggleReady turnOnReady status).relay light) ∧
        ¬ (toggleReady = true ∧ turnOnReady = true) := by
  have hinbox : (s.relay light).inbox = status :: robotStatus := by cases light <;> exact h
  have hmoves := Relay.Moves.forward (f := light.frame) status robotStatus hinbox
  have hless : List.Sublist robotStatus s.robotStatus := h ▸ List.sublist_cons_self _ _
  unfold Lights.statusCallback
  cases hc : ledCommands status with
  | none =>
    refine Or.inl ?_
    cases light <;> simpa [Light.frame, Lights.relay, hc] using hmoves
  | some c =>
    obtain ⟨t, id⟩ := c
    cases light with
    | blinking =>
      cases toggleReady with
      | true =>
        refine Or.inl ?_
        cases turnOnReady <;>
          simpa [Light.frame, Lights.relay, Lights.ledToggleControlCall, Lights.toggleOnCall, hc] using hmoves
      | false =>
        refine Or.inr ⟨?_, by simp⟩
        cases turnOnReady <;> exact ⟨rfl, rfl, hless, List.Sublist.refl _⟩
    | colour =>
      cases turnOnReady with
      | true =>
        refine Or.inl ?_
        cases toggleReady <;>
          simpa [Light.frame, Lights.relay, Lights.ledToggleControlCall, Lights.toggleOnCall, hc] using hmoves
      | false =>
        refine Or.inr ⟨?_, by simp⟩
        cases toggleReady <;> exact ⟨rfl, rfl, hless, List.Sublist.refl _⟩

/-- A request that is handled is a frame written, if the port is open. -/
theorem relay_handled {f : Int → Option (List UInt8)} {frame : List UInt8}
    {frames : List (List UInt8)} (rel : Relay Int (List UInt8)) (outbox : List (List UInt8))
    (h : rel.outbox = frame :: outbox)
    (hframes : frames = if s.server.line.fd = 0 then [] else [frame]) :
    Relay.Moves f rel { rel with outbox, handled := rel.handled ++ frames } ∨
      Relay.Loses rel { rel with outbox, handled := rel.handled ++ frames } ∧
        ¬ s.server.line.fd ≠ 0 := by
  by_cases hfd : s.server.line.fd = 0
  · rw [if_pos hfd] at hframes
    subst hframes
    exact Or.inr ⟨⟨rfl, by simp, List.Sublist.refl _, h ▸ List.sublist_cons_self _ _⟩, by simpa⟩
  · rw [if_neg hfd] at hframes
    subst hframes
    exact Or.inl (.handle frame outbox h)

/-- Each step moves the two relays, or loses something and is not reliable. -/
theorem relay_step (hknown : s.Known) (h : (lights server).step s e = some s') (light : Light) :
    Relay.Moves light.frame (s.relay light) (s'.relay light) ∨
      Relay.Loses (s.relay light) (s'.relay light) ∧ ¬ Reliable s e := by
  cases e with
  | emgState data =>
    obtain rfl := Option.some.inj h
    exact Or.inl (relay_emgCallback data light)
  | start =>
    obtain ⟨-, hs⟩ := Option.ite_none_left_eq_some.mp h
    obtain rfl := Option.some.inj hs
    refine Or.inl ?_
    cases light <;> exact .send 0
  | status toggleReady turnOnReady =>
    rcases hqueue : s.robotStatus with _ | ⟨status, robotStatus⟩
    · simp [lights, hqueue] at h
    · simp only [lights, hqueue, Option.some.injEq] at h
      subst h
      exact relay_statusCallback hqueue toggleReady turnOnReady light
  | ledToggle =>
    rcases hqueue : s.toggles with _ | ⟨t, toggles⟩
    · simp [lights, hqueue] at h
    · simp only [lights, hqueue] at h
      obtain ⟨r, hserve, rfl⟩ := Option.map_eq_some_iff.mp h
      obtain ⟨status, id, hc⟩ := hknown.toggles t (by simp [hqueue])
      have hframes := framesSince_ledToggle (negatable_of_ledCommands hc).1 hserve
      cases light with
      | blinking =>
        exact relay_handled (s.relay .blinking) (toggles.map toggleFrame)
          (by simp [Lights.relay, hqueue]) hframes
      | colour => exact Or.inl .idle
  | toggleOn =>
    rcases hqueue : s.turnOns with _ | ⟨id, turnOns⟩
    · simp [lights, hqueue] at h
    · simp only [lights, hqueue] at h
      obtain ⟨r, hserve, rfl⟩ := Option.map_eq_some_iff.mp h
      obtain ⟨status, t, hc⟩ := hknown.turnOns id (by simp [hqueue])
      have hframes := framesSince_toggleOn (negatable_of_ledCommands hc).2 hserve
      cases light with
      | blinking => exact Or.inl .idle
      | colour =>
        exact relay_handled (s.relay .colour) (turnOns.map turnOnFrame)
          (by simp [Lights.relay, hqueue]) hframes
  | lose robotStatus toggles turnOns =>
    obtain ⟨⟨hstatus, htoggles, hturnOns⟩, hs⟩ := Option.ite_none_right_eq_some.mp h
    obtain rfl := Option.some.inj hs
    refine Or.inr ⟨?_, not_false⟩
    cases light with
    | blinking => exact ⟨rfl, rfl, hstatus, htoggles.map _⟩
    | colour => exact ⟨rfl, rfl, hstatus, hturnOns.map _⟩
  | others server =>
    obtain rfl := Option.some.inj h
    refine Or.inl ?_
    cases light <;> exact .idle

theorem known_step (hknown : s.Known) (h : (lights server).step s e = some s') : s'.Known := by
  obtain ⟨htoggles, hturnOns⟩ := hknown
  cases e with
  | emgState data =>
    obtain rfl := Option.some.inj h
    unfold Lights.emgCallback
    dsimp only
    split_ifs <;> exact ⟨htoggles, hturnOns⟩
  | start =>
    obtain ⟨-, hs⟩ := Option.ite_none_left_eq_some.mp h
    obtain rfl := Option.some.inj hs
    exact ⟨htoggles, hturnOns⟩
  | status toggleReady turnOnReady =>
    rcases hqueue : s.robotStatus with _ | ⟨status, robotStatus⟩
    · simp [lights, hqueue] at h
    · simp only [lights, hqueue, Option.some.injEq] at h
      subst h
      unfold Lights.statusCallback
      cases hc : ledCommands status with
      | none => exact ⟨htoggles, hturnOns⟩
      | some c =>
        obtain ⟨t, id⟩ := c
        refine ⟨?_, ?_⟩
        · intro t' ht'
          have hmem : t' ∈ s.toggles ∨ t' = t := by
            cases toggleReady <;> cases turnOnReady <;>
              simp_all [Lights.ledToggleControlCall, Lights.toggleOnCall]
          rcases hmem with hmem | rfl
          · exact htoggles t' hmem
          · exact ⟨status, id, hc⟩
        · intro id' hid'
          have hmem : id' ∈ s.turnOns ∨ id' = id := by
            cases toggleReady <;> cases turnOnReady <;>
              simp_all [Lights.ledToggleControlCall, Lights.toggleOnCall]
          rcases hmem with hmem | rfl
          · exact hturnOns id' hmem
          · exact ⟨status, t, hc⟩
  | ledToggle =>
    rcases hqueue : s.toggles with _ | ⟨t, toggles⟩
    · simp [lights, hqueue] at h
    · simp only [lights, hqueue] at h
      obtain ⟨r, -, rfl⟩ := Option.map_eq_some_iff.mp h
      exact ⟨fun t' ht' => htoggles t' (hqueue ▸ List.mem_cons_of_mem _ ht'), hturnOns⟩
  | toggleOn =>
    rcases hqueue : s.turnOns with _ | ⟨id, turnOns⟩
    · simp [lights, hqueue] at h
    · simp only [lights, hqueue] at h
      obtain ⟨r, -, rfl⟩ := Option.map_eq_some_iff.mp h
      exact ⟨htoggles, fun id' hid' => hturnOns id' (hqueue ▸ List.mem_cons_of_mem _ hid')⟩
  | lose robotStatus toggles turnOns =>
    obtain ⟨⟨-, hsub, hsub'⟩, hs⟩ := Option.ite_none_right_eq_some.mp h
    obtain rfl := Option.some.inj hs
    exact ⟨fun t ht => htoggles t (hsub.subset ht), fun id hid => hturnOns id (hsub'.subset hid)⟩
  | others server =>
    obtain rfl := Option.some.inj h
    exact ⟨htoggles, hturnOns⟩

end Steps

/-! ## What is published -/

/-- A message that says the button is pushed. -/
def LightEvent.isPush : LightEvent → Bool
  | .emgState data => data ≠ 0
  | _ => false

/-- How many such messages there are. -/
def pushes (es : List LightEvent) : Nat := es.countP LightEvent.isPush

theorem pushes_concat (es : List LightEvent) (e : LightEvent) :
    pushes (es ++ [e]) = pushes es + pushes [e] := List.countP_append

section Published

variable {server : Server} {s s' : Lights} {e : LightEvent} {es before after : List LightEvent}

/-- A step starts `tetra_service`, or publishes 99 if the button is pushed and nothing else. -/
theorem published_step (h : (lights server).step s e = some s') :
    (s.started = false ∧ s'.started = true ∧ pushes [e] = 0 ∧ s'.published = s.published ++ [0]) ∨
      e ≠ .start ∧ s'.started = s.started ∧
        s'.published = s.published ++ List.replicate (pushes [e]) 99 := by
  cases e with
  | emgState data =>
    obtain rfl := Option.some.inj h
    refine Or.inr ⟨by simp, ?_⟩
    unfold Lights.emgCallback
    dsimp only
    split_ifs with hdata hflag <;> simp [pushes, LightEvent.isPush, Lights.publish, hdata]
  | start =>
    obtain ⟨hstarted, hs⟩ := Option.ite_none_left_eq_some.mp h
    obtain rfl := Option.some.inj hs
    exact Or.inl ⟨by simpa using hstarted, rfl, rfl, rfl⟩
  | status toggleReady turnOnReady =>
    rcases hqueue : s.robotStatus with _ | ⟨status, robotStatus⟩
    · simp [lights, hqueue] at h
    · simp only [lights, hqueue, Option.some.injEq] at h
      subst h
      refine Or.inr ⟨by simp, ?_⟩
      unfold Lights.statusCallback
      cases ledCommands status with
      | none => exact ⟨rfl, (List.append_nil _).symm⟩
      | some c =>
        cases toggleReady <;> cases turnOnReady <;> exact ⟨rfl, (List.append_nil _).symm⟩
  | ledToggle =>
    rcases hqueue : s.toggles with _ | ⟨t, toggles⟩
    · simp [lights, hqueue] at h
    · simp only [lights, hqueue] at h
      obtain ⟨r, -, rfl⟩ := Option.map_eq_some_iff.mp h
      exact Or.inr ⟨by simp, rfl, (List.append_nil _).symm⟩
  | toggleOn =>
    rcases hqueue : s.turnOns with _ | ⟨id, turnOns⟩
    · simp [lights, hqueue] at h
    · simp only [lights, hqueue] at h
      obtain ⟨r, -, rfl⟩ := Option.map_eq_some_iff.mp h
      exact Or.inr ⟨by simp, rfl, (List.append_nil _).symm⟩
  | lose robotStatus toggles turnOns =>
    obtain ⟨-, hs⟩ := Option.ite_none_right_eq_some.mp h
    obtain rfl := Option.some.inj hs
    exact Or.inr ⟨by simp, rfl, (List.append_nil _).symm⟩
  | others server =>
    obtain rfl := Option.some.inj h
    exact Or.inr ⟨by simp, rfl, (List.append_nil _).symm⟩

theorem published_of_not_started (hr : (lights server).Run es s) (h : s.started = false) :
    s.published = List.replicate (pushes es) 99 := by
  induction hr with
  | init => rfl
  | snoc _ hs _ ih =>
    rcases published_step hs with ⟨_, hstarted, _⟩ | ⟨_, hstarted, hpublished⟩
    · simp [hstarted] at h
    · rw [hpublished, ih (hstarted ▸ h), pushes_concat, List.replicate_add]

/-- The 0 comes once, and 99 with each push before and after it. -/
theorem published_of_start (hr : (lights server).Run (before ++ .start :: after) s) :
    s.published =
      List.replicate (pushes before) 99 ++ 0 :: List.replicate (pushes after) 99 := by
  suffices h : s.started = true ∧ s.published =
      List.replicate (pushes before) 99 ++ 0 :: List.replicate (pushes after) 99 from h.2
  -- one step at a time after the start
  induction after using List.reverseRecOn generalizing s with
  | nil =>
    obtain ⟨s₀, hr₀, hs, -⟩ := Machine.runWith_concat.mp hr
    rcases published_step hs with ⟨hbefore, hstarted, _, hpublished⟩ | ⟨hne, _⟩
    · rw [hpublished, published_of_not_started hr₀ hbefore]
      exact ⟨hstarted, rfl⟩
    · exact absurd rfl hne
  | append_singleton after e ih =>
    rw [← List.cons_append, ← List.append_assoc] at hr
    obtain ⟨s₀, hr₀, hs, -⟩ := Machine.runWith_concat.mp hr
    obtain ⟨hstarted₀, hpublished₀⟩ := ih hr₀
    rcases published_step hs with ⟨hbefore, _⟩ | ⟨_, hstarted, hpublished⟩
    · simp [hstarted₀] at hbefore
    · rw [hpublished, hpublished₀, pushes_concat, List.replicate_add]
      exact ⟨hstarted.trans hstarted₀, by simp⟩

end Published

/-! ## What the lights show -/

/-- The frames that were written for a light. -/
def Lights.written (s : Lights) : Light → List (List UInt8)
  | .blinking => s.toggled
  | .colour => s.turnedOn

/-- The frame of status 0. -/
def Light.normal : Light → List UInt8
  | .blinking => toggleFrame ⟨1, 3, 100, 3, 1⟩
  | .colour => turnOnFrame 63

/-- The frame of status 99. -/
def Light.emergency : Light → List UInt8
  | .blinking => toggleFrame ⟨1, 10, 100, 10, 1⟩
  | .colour => turnOnFrame 18

section Shown

variable {server : Server} {s : Lights} {es before after : List LightEvent}

theorem known_of_run (hr : (lights server).Run es s) : s.Known :=
  hr.invariant ⟨by simp [lights], by simp [lights]⟩ fun h hs _ => known_step h hs

theorem ordered_of_run (hr : (lights server).Run es s) (light : Light) :
    (s.relay light).Ordered light.frame := by
  induction hr with
  | init => cases light <;> exact List.Sublist.refl _
  | snoc hr hs _ ih =>
    rcases relay_step (known_of_run hr) hs light with hmoves | ⟨hloses, -⟩
    · exact ih.moves hmoves
    · exact ih.loses hloses

theorem complete_of_reliable (hr : (lights server).RunWith (fun s e _ => Reliable s e) es s)
    (light : Light) : (s.relay light).Complete light.frame := by
  induction hr with
  | init => cases light <;> rfl
  | snoc hr hs hreliable ih =>
    rcases relay_step (known_of_run hr.run) hs light with hmoves | ⟨-, hnot⟩
    · exact ih.moves hmoves
    · exact absurd hreliable hnot

theorem filterMap_replicate_frame (n : Nat) (light : Light) :
    (List.replicate n (99 : Int)).filterMap light.frame = List.replicate n light.emergency := by
  induction n with
  | zero => rfl
  | succ n ih =>
    rw [List.replicate_succ, List.replicate_succ, ← ih]
    cases light <;> rfl

theorem frames_of_start (hr : (lights server).Run (before ++ .start :: after) s) (light : Light) :
    (s.relay light).sent.filterMap light.frame =
      List.replicate (pushes before) light.emergency ++
        light.normal :: List.replicate (pushes after) light.emergency := by
  have hsent : (s.relay light).sent = s.published := by cases light <;> rfl
  have hnormal : light.frame 0 = some light.normal := by cases light <;> rfl
  rw [hsent, published_of_start hr, List.filterMap_append, List.filterMap_cons_some hnormal,
    filterMap_replicate_frame, filterMap_replicate_frame]

/--
**In whatever order the nodes take their steps, and whatever gets lost, each light is set to normal
once at most: what is written for it are some, in this order, of an emergency for each push before the
start of `tetra_service`, the normal light, and an emergency for each push after it.**
-/
theorem lights_in_turn (hr : (lights server).Run (before ++ .start :: after) s) (light : Light) :
    List.Sublist (s.written light) (List.replicate (pushes before) light.emergency ++
      light.normal :: List.replicate (pushes after) light.emergency) := by
  have hhandled : (s.relay light).handled = s.written light := by cases light <;> rfl
  rw [← hhandled, ← frames_of_start hr]
  exact (ordered_of_run hr light).handled

/--
**If nothing gets lost, the services are ready and the port is open, then all of this is written by the
time nothing is under way; so the lights are left in emergency if the button was pushed once since the
start, and whether it has been released makes no difference.**
-/
theorem lights_of_reliable
    (hr : (lights server).RunWith (fun s e _ => Reliable s e) (before ++ .start :: after) s)
    (hstatus : s.robotStatus = []) (htoggles : s.toggles = []) (hturnOns : s.turnOns = [])
    (light : Light) :
    s.written light = List.replicate (pushes before) light.emergency ++
      light.normal :: List.replicate (pushes after) light.emergency ∧
    (s.written light).getLast? =
      some (if pushes after = 0 then light.normal else light.emergency) := by
  have hinbox : (s.relay light).inbox = [] := by cases light <;> exact hstatus
  have houtbox : (s.relay light).outbox = [] := by
    cases light
    · exact List.map_eq_nil_iff.mpr htoggles
    · exact List.map_eq_nil_iff.mpr hturnOns
  have hhandled : (s.relay light).handled = s.written light := by cases light <;> rfl
  have hwritten := (complete_of_reliable hr light).handled hinbox houtbox
  rw [hhandled, frames_of_start hr.run] at hwritten
  refine ⟨hwritten, ?_⟩
  rw [hwritten]
  cases pushes after with
  | zero => simp
  | succ n => simp [List.getLast?_append, List.getLast?_cons, List.replicate_succ']

end Shown

/-- The button is pushed and released again. -/
theorem lights_in_turn_pushed :
    ∃ s, (lights { line := { fd := 3 } }).Run
      [.start, .emgState 1, .emgState 0, .status true true, .status false true, .toggleOn] s ∧
    List.Sublist s.turnedOn [turnOnFrame 63, turnOnFrame 18] := by
  have hrun : ((lights { line := { fd := 3 } }).exec
      [.start, .emgState 1, .emgState 0, .status true true, .status false true, .toggleOn]).isSome := by
    decide +kernel
  obtain ⟨s, hs⟩ := Option.isSome_iff_exists.mp hrun
  have hr := Machine.run_of_exec hs
  exact ⟨s, hr, @lights_in_turn _ _ [] _ hr .colour⟩

instance (s : Lights) : (e : LightEvent) → Decidable (Reliable s e)
  | .status toggleReady turnOnReady =>
    inferInstanceAs (Decidable (toggleReady = true ∧ turnOnReady = true))
  | .ledToggle | .toggleOn => inferInstanceAs (Decidable (s.server.line.fd ≠ 0))
  | .lose .. => .isFalse not_false
  | .emgState _ | .start | .others _ => .isTrue trivial

/-- The light stays red when the button has been released. -/
theorem lights_of_reliable_released :
    ∃ s, (lights { line := { fd := 3 } }).RunWith (fun s e _ => Reliable s e)
      ([] ++ .start :: [.emgState 1, .status true true, .toggleOn, .status true true, .emgState 0,
        .ledToggle, .toggleOn, .ledToggle]) s ∧ s.turnedOn.getLast? = some (turnOnFrame 18) := by
  have hrun : ∃ s ∈ (lights { line := { fd := 3 } }).execWith Reliable
      ([] ++ .start :: [.emgState 1, .status true true, .toggleOn, .status true true, .emgState 0,
        .ledToggle, .toggleOn, .ledToggle]),
      s.robotStatus = [] ∧ s.toggles = [] ∧ s.turnOns = [] := by
    decide +kernel
  obtain ⟨s, hs, hstatus, htoggles, hturnOns⟩ := hrun
  have hr := Machine.runWith_of_execWith hs
  exact ⟨s, hr, (lights_of_reliable hr hstatus htoggles hturnOns .colour).2⟩

end Tetra.Interface
