import Tetra.Camera.ImuSync
import Tetra.Lib.Machine

/-!
# The publisher of the united messages

`imu_callback_sync` runs under a mutex and hands its messages to a `SyncedImuPublisher`, which publishes
them or, when `frame_callback` has paused it, keeps them in a list of limited size. The two callbacks run
in threads of their own. A message for which the list has no room is an exception, and the callback ends
with its mutex locked.

Every message made is published, pending or in the hands of the callback, in their order, or was lost in
that exception (`messages_accounted`); after it no reading is taken any more (`stuck_of_thrown`). But
nobody calls `Enable`, without which `Pause` does nothing: no message ever waits (`never_pending`).
-/

namespace Tetra.Camera

/-! ## `SyncedImuPublisher` -/

/-- `SyncedImuPublisher`, with what it has published. -/
structure SyncedImuPublisher where
  published : List Imu := []
  pauseMode : Bool := false
  pendingMessages : List Imu := []
  waitingListSize : Nat := 1000
  isEnabled : Bool := false
  deriving DecidableEq, Repr

namespace SyncedImuPublisher

/-- `Publish`; no result is the exception. -/
def publish (p : SyncedImuPublisher) (imuMsg : Imu) : Option SyncedImuPublisher :=
  if p.pauseMode then
    if p.waitingListSize ≤ p.pendingMessages.length then none
    else some { p with pendingMessages := p.pendingMessages ++ [imuMsg] }
  else some { p with published := p.published ++ [imuMsg] }

/-- `Enable` -/
def enable (p : SyncedImuPublisher) (isEnabled : Bool) : SyncedImuPublisher := { p with isEnabled }

/-- `Pause` -/
def pause (p : SyncedImuPublisher) : SyncedImuPublisher :=
  if !p.isEnabled then p else { p with pauseMode := true }

/-- `PublishPendingMessages` -/
def publishPendingMessages (p : SyncedImuPublisher) : SyncedImuPublisher :=
  { p with published := p.published ++ p.pendingMessages, pendingMessages := [] }

/-- `Resume` -/
def resume (p : SyncedImuPublisher) : SyncedImuPublisher :=
  { p.publishPendingMessages with pauseMode := false }

/-- All messages that have been handed over. -/
def accepted (p : SyncedImuPublisher) : List Imu := p.published ++ p.pendingMessages

end SyncedImuPublisher

/-! ## The node -/

/-- The state that the callbacks of the camera work on. -/
structure ImuNode where
  publisher : SyncedImuPublisher := {}
  sync : ImuSync := {}
  /-- `m_mutex` of `imu_callback_sync` -/
  locked : Bool := false
  /-- What the callback that has locked it is still to publish. -/
  imuMsgs : List Imu := []
  /-- That callback has ended with an exception. -/
  thrown : Bool := false
  deriving DecidableEq

/-- A step of one of the threads. -/
inductive ImuEvent
  /-- `imu_callback_sync` gets its mutex; the flag says whether anybody has subscribed. -/
  | imuFrame (subscribed : Bool) (imuData : CimuData)
  /-- It publishes the first of its messages. -/
  | publish
  /-- It has published all and unlocks the mutex. -/
  | unlock
  /-- `frame_callback` begins. -/
  | pause
  /-- It ends. -/
  | resume
  | enable (isEnabled : Bool)
  deriving DecidableEq

/-- The node, for either method. The callback that it registers does not get the one that was chosen: it
is always called with the default, `.copy`. -/
def imuNode (method : SyncMethod) (waitingListSize : Nat) : Machine ImuNode ImuEvent where
  init := { publisher := { waitingListSize } }
  step s
    | .imuFrame subscribed imuData =>
      if s.locked then none
      else if subscribed then
        let (sync, imuMsgs) := fillImuData method s.sync imuData
        some { s with locked := true, sync, imuMsgs }
      else some { s with locked := true, imuMsgs := [] }
    | .publish =>
      if s.locked ∧ !s.thrown then
        match s.imuMsgs with
        | [] => none
        | imuMsg :: imuMsgs =>
          match s.publisher.publish imuMsg with
          | some publisher => some { s with publisher, imuMsgs }
          | none => some { s with imuMsgs := [], thrown := true }
      else none
    | .unlock =>
      if s.locked ∧ !s.thrown ∧ s.imuMsgs = [] then some { s with locked := false } else none
    | .pause => some { s with publisher := s.publisher.pause }
    | .resume => some { s with publisher := s.publisher.resume }
    | .enable isEnabled => some { s with publisher := s.publisher.enable isEnabled }

/-- The reading that an event takes. -/
def ImuEvent.reading? : ImuEvent → Option CimuData
  | imuFrame true imuData => some imuData
  | _ => none

/-- The readings that were taken. -/
def taken (es : List ImuEvent) : List CimuData := es.filterMap ImuEvent.reading?

/-! ## What the publisher keeps -/

section Publisher

variable {p p' : SyncedImuPublisher} {imuMsg : Imu}

/-- Neither pausing nor resuming loses a message. -/
@[simp] theorem accepted_pause (p : SyncedImuPublisher) : p.pause.accepted = p.accepted := by
  unfold SyncedImuPublisher.pause
  split_ifs <;> rfl

@[simp] theorem accepted_resume (p : SyncedImuPublisher) : p.resume.accepted = p.accepted := by
  simp [SyncedImuPublisher.accepted, SyncedImuPublisher.resume,
    SyncedImuPublisher.publishPendingMessages]

@[simp] theorem accepted_enable (p : SyncedImuPublisher) (isEnabled : Bool) :
    (p.enable isEnabled).accepted = p.accepted := rfl

/-- Nothing is pending unless the publisher is paused. -/
def SyncedImuPublisher.InOrder (p : SyncedImuPublisher) : Prop :=
  p.pauseMode = false → p.pendingMessages = []

theorem inOrder_pause (h : p.InOrder) : p.pause.InOrder := by
  unfold SyncedImuPublisher.pause
  split_ifs
  · exact h
  · exact fun hpause => absurd hpause (by simp)

theorem inOrder_resume (p : SyncedImuPublisher) : p.resume.InOrder := fun _ => rfl

/-- A message that is handed over without an exception comes last. -/
theorem publish_eq_some (hp : p.InOrder) (h : p.publish imuMsg = some p') :
    p'.accepted = p.accepted ++ [imuMsg] ∧ p'.InOrder := by
  unfold SyncedImuPublisher.publish at h
  split_ifs at h with hpause hsize
  · obtain rfl := Option.some.inj h
    exact ⟨by simp [SyncedImuPublisher.accepted], fun h => absurd h (by simp [hpause])⟩
  · obtain rfl := Option.some.inj h
    have hpending := hp (by simpa using hpause)
    exact ⟨by simp [SyncedImuPublisher.accepted, hpending], hp⟩

/-- The list never grows beyond its size. -/
theorem publish_room (hp : p.pendingMessages.length ≤ p.waitingListSize)
    (h : p.publish imuMsg = some p') : p'.pendingMessages.length ≤ p'.waitingListSize := by
  unfold SyncedImuPublisher.publish at h
  split_ifs at h with hpause hsize
  · obtain rfl := Option.some.inj h
    simp only [List.length_append, List.length_singleton]
    omega
  · obtain rfl := Option.some.inj h
    exact hp

end Publisher

/-! ## One step -/

/-- Where the messages of the readings taken so far are. -/
structure Accounted (method : SyncMethod) (es : List ImuEvent) (s : ImuNode) : Prop where
  sync : s.sync = (fillAll method (taken es)).1
  inOrder : s.publisher.InOrder
  room : s.publisher.pendingMessages.length ≤ s.publisher.waitingListSize
  idle : s.locked = false → s.imuMsgs = [] ∧ s.thrown = false
  ended : s.thrown = true → s.imuMsgs = []
  msgs : ∃ lost, s.publisher.accepted ++ (s.imuMsgs ++ lost) = (fillAll method (taken es)).2 ∧
    (lost = [] ↔ s.thrown = false)

section Step

variable {method : SyncMethod} {waitingListSize : Nat} {s s' : ImuNode} {e : ImuEvent}
  {es : List ImuEvent}

theorem taken_concat_of_none (es : List ImuEvent) (h : e.reading? = none) :
    taken (es ++ [e]) = taken es := by
  simp [taken, h]

/-- A step of the publisher that hands nothing over. -/
theorem Accounted.publisher (h : Accounted method es s) (he : e.reading? = none)
    {p : SyncedImuPublisher} (hp : p.InOrder) (haccepted : p.accepted = s.publisher.accepted)
    (hroom : p.pendingMessages.length ≤ p.waitingListSize) :
    Accounted method (es ++ [e]) { s with publisher := p } := by
  refine ⟨?_, hp, hroom, h.idle, h.ended, ?_⟩ <;> rw [taken_concat_of_none es he]
  · exact h.sync
  · rw [haccepted]
    exact h.msgs

theorem room_pause (p : SyncedImuPublisher) (h : p.pendingMessages.length ≤ p.waitingListSize) :
    p.pause.pendingMessages.length ≤ p.pause.waitingListSize := by
  unfold SyncedImuPublisher.pause
  split_ifs <;> exact h

/-- The callback takes a reading, unless nobody has subscribed. -/
theorem accounted_imuFrame {subscribed : Bool} {imuData : CimuData} (h : Accounted method es s)
    (hs : (imuNode method waitingListSize).step s (.imuFrame subscribed imuData) = some s') :
    Accounted method (es ++ [.imuFrame subscribed imuData]) s' := by
  obtain ⟨hlocked, hs⟩ := Option.ite_none_left_eq_some.mp hs
  have hunlocked : s.locked = false := by simpa using hlocked
  obtain ⟨hmsgs, hthrown⟩ := h.idle hunlocked
  obtain ⟨lost, hlost, hiff⟩ := h.msgs
  obtain rfl := hiff.mpr hthrown
  rw [hmsgs, List.append_nil, List.append_nil] at hlost
  cases subscribed with
  | false =>
    obtain rfl := Option.some.inj hs
    have htaken := taken_concat_of_none (e := .imuFrame false imuData) es rfl
    refine ⟨htaken ▸ h.sync, h.inOrder, h.room, fun hl => absurd hl (by simp), fun _ => rfl, [], ?_,
      by simpa using hthrown⟩
    rw [htaken, ← hlost]
    simp
  | true =>
    obtain rfl := Option.some.inj hs
    have htaken : taken (es ++ [.imuFrame true imuData]) = taken es ++ [imuData] := by
      simp [taken, ImuEvent.reading?]
    refine ⟨?_, h.inOrder, h.room, fun hl => absurd hl (by simp),
      fun ht => absurd ht (by simp [hthrown]), [], ?_, by simpa using hthrown⟩
    · show (fillImuData method s.sync imuData).1 = _
      rw [htaken, fillAll_concat, ← h.sync]
    · show s.publisher.accepted ++ ((fillImuData method s.sync imuData).2 ++ []) = _
      rw [htaken, fillAll_concat, ← h.sync, ← hlost, List.append_nil]

/-- It hands one message over, or loses the rest of them. -/
theorem accounted_publish (h : Accounted method es s)
    (hs : (imuNode method waitingListSize).step s .publish = some s') :
    Accounted method (es ++ [.publish]) s' := by
  have htaken := taken_concat_of_none (e := .publish) es rfl
  obtain ⟨⟨hlocked, hthrown⟩, hs⟩ := Option.ite_none_right_eq_some.mp hs
  have hnot : s.thrown = false := by simpa using hthrown
  obtain ⟨lost, hlost, hiff⟩ := h.msgs
  obtain rfl := hiff.mpr hnot
  rcases hmsgs : s.imuMsgs with _ | ⟨imuMsg, imuMsgs⟩
  · simp [hmsgs] at hs
  · simp only [hmsgs] at hs
    rw [hmsgs] at hlost
    cases hpublish : s.publisher.publish imuMsg with
    | some p =>
      simp only [hpublish, Option.some.injEq] at hs
      subst hs
      obtain ⟨haccepted, hinOrder⟩ := publish_eq_some h.inOrder hpublish
      refine ⟨htaken ▸ h.sync, hinOrder, publish_room h.room hpublish,
        fun hl => absurd hlocked (by simpa using hl), fun ht => absurd ht (by simp [hnot]), [], ?_,
        by simpa using hnot⟩
      rw [htaken, ← hlost, haccepted]
      simp
    | none =>
      -- the message that finds no room is lost, and so are those behind it
      simp only [hpublish, Option.some.injEq] at hs
      subst hs
      refine ⟨htaken ▸ h.sync, h.inOrder, h.room, fun hl => absurd hlocked (by simpa using hl),
        fun _ => rfl, imuMsg :: imuMsgs, ?_, by simp⟩
      rw [htaken, ← hlost]
      simp

/-- The step lemma of `messages_accounted`. -/
theorem accounted_step (h : Accounted method es s)
    (hs : (imuNode method waitingListSize).step s e = some s') :
    Accounted method (es ++ [e]) s' := by
  cases e with
  | imuFrame subscribed imuData => exact accounted_imuFrame h hs
  | publish => exact accounted_publish h hs
  | unlock =>
    obtain ⟨⟨-, hthrown, hmsgs⟩, hs⟩ := Option.ite_none_right_eq_some.mp hs
    obtain rfl := Option.some.inj hs
    have htaken := taken_concat_of_none (e := .unlock) es rfl
    exact ⟨htaken ▸ h.sync, h.inOrder, h.room, fun _ => ⟨hmsgs, by simpa using hthrown⟩, h.ended,
      htaken ▸ h.msgs⟩
  | pause =>
    obtain rfl := Option.some.inj hs
    exact h.publisher rfl (inOrder_pause h.inOrder) (accepted_pause _) (room_pause _ h.room)
  | resume =>
    obtain rfl := Option.some.inj hs
    exact h.publisher rfl (inOrder_resume _) (accepted_resume _) (Nat.zero_le _)
  | enable isEnabled =>
    obtain rfl := Option.some.inj hs
    exact h.publisher rfl h.inOrder rfl h.room

end Step

/-! ## Runs -/

section Runs

variable {method : SyncMethod} {waitingListSize : Nat} {s s' : ImuNode} {es es' : List ImuEvent}

theorem accounted_of_run (hr : (imuNode method waitingListSize).Run es s) : Accounted method es s := by
  induction hr with
  | init =>
    exact ⟨rfl, fun _ => rfl, Nat.zero_le _, fun _ => ⟨rfl, rfl⟩, fun _ => rfl, [], rfl, by simp [imuNode]⟩
  | snoc _ hs _ ih => exact accounted_step ih hs

/--
**In every run, however the threads take turns: the messages published, pending and in the hands of the
callback are, in this order, all those that are made of the readings taken, but for the ones that were
lost when the callback ended with an exception; and no more are pending than the list has room for.**
-/
theorem messages_accounted (hr : (imuNode method waitingListSize).Run es s) :
    (∃ lost, s.publisher.published ++ s.publisher.pendingMessages ++ s.imuMsgs ++ lost =
      (fillAll method (taken es)).2 ∧ (lost = [] ↔ s.thrown = false)) ∧
    s.publisher.pendingMessages.length ≤ s.publisher.waitingListSize := by
  have h := accounted_of_run hr
  obtain ⟨lost, hlost, hiff⟩ := h.msgs
  refine ⟨⟨lost, ?_, hiff⟩, h.room⟩
  rw [← hlost, SyncedImuPublisher.accepted, List.append_assoc _ s.imuMsgs]

/-- The callback has ended with an exception, and its mutex is locked. -/
structure Stuck (accepted : List Imu) (s : ImuNode) : Prop where
  thrown : s.thrown = true
  locked : s.locked = true
  accepted : s.publisher.accepted = accepted

/-- Only the other thread goes on. -/
theorem stuck_step {accepted : List Imu} {e : ImuEvent} (h : Stuck accepted s)
    (hs : (imuNode method waitingListSize).step s e = some s') :
    Stuck accepted s' ∧ (e = .pause ∨ e = .resume ∨ ∃ isEnabled, e = .enable isEnabled) := by
  obtain ⟨hthrown, hlocked, haccepted⟩ := h
  cases e with
  | imuFrame subscribed imuData => simp [imuNode, hlocked] at hs
  | publish => simp [imuNode, hthrown] at hs
  | unlock => simp [imuNode, hthrown] at hs
  | pause =>
    obtain rfl := Option.some.inj hs
    exact ⟨⟨hthrown, hlocked, by simpa using haccepted⟩, Or.inl rfl⟩
  | resume =>
    obtain rfl := Option.some.inj hs
    exact ⟨⟨hthrown, hlocked, by simpa using haccepted⟩, Or.inr (Or.inl rfl)⟩
  | enable isEnabled =>
    obtain rfl := Option.some.inj hs
    exact ⟨⟨hthrown, hlocked, haccepted⟩, Or.inr (Or.inr ⟨isEnabled, rfl⟩)⟩

/--
**From the exception on no reading is taken and no message is handed over, whatever comes; only what was
pending may still be published.**
-/
theorem stuck_of_thrown (hr : (imuNode method waitingListSize).Run es s) (hthrown : s.thrown = true)
    (hr' : (imuNode method waitingListSize).Run (es ++ es') s') :
    s'.publisher.published ++ s'.publisher.pendingMessages =
      s.publisher.published ++ s.publisher.pendingMessages ∧
    ∀ e ∈ es', e = .pause ∨ e = .resume ∨ ∃ isEnabled, e = .enable isEnabled := by
  suffices h : Stuck s.publisher.accepted s' ∧
      ∀ e ∈ es', e = .pause ∨ e = .resume ∨ ∃ isEnabled, e = .enable isEnabled from
    ⟨h.1.accepted, h.2⟩
  -- one step at a time after the exception
  induction es' using List.reverseRecOn generalizing s' with
  | nil =>
    rw [List.append_nil] at hr'
    obtain rfl := hr.deterministic hr'
    have hlocked : s.locked = true := by
      by_contra hnot
      have hidle := (accounted_of_run hr).idle (by simpa using hnot)
      simp [hthrown] at hidle
    exact ⟨⟨hthrown, hlocked, rfl⟩, by simp⟩
  | append_singleton es' e ih =>
    rw [← List.append_assoc] at hr'
    obtain ⟨s₀, hr₀, hs, -⟩ := Machine.runWith_concat.mp hr'
    obtain ⟨hstuck, hevents⟩ := ih hr₀
    obtain ⟨hstuck', he⟩ := stuck_step hstuck hs
    refine ⟨hstuck', ?_⟩
    intro e' he'
    rcases List.mem_append.mp he' with h | h
    · exact hevents e' h
    · rw [List.mem_singleton.mp h]
      exact he

/-- The publisher has never been enabled. -/
structure Unheld (s : ImuNode) : Prop where
  disabled : s.publisher.isEnabled = false
  running : s.publisher.pauseMode = false
  thrown : s.thrown = false

/-- Without `Enable(true)` it stays so. -/
theorem unheld_step {e : ImuEvent} (h : Unheld s) (he : e ≠ .enable true)
    (hs : (imuNode method waitingListSize).step s e = some s') : Unheld s' := by
  obtain ⟨hdisabled, hrunning, hthrown⟩ := h
  cases e with
  | imuFrame subscribed imuData =>
    obtain ⟨-, hs⟩ := Option.ite_none_left_eq_some.mp hs
    cases subscribed <;> (obtain rfl := Option.some.inj hs; exact ⟨hdisabled, hrunning, hthrown⟩)
  | publish =>
    obtain ⟨-, hs⟩ := Option.ite_none_right_eq_some.mp hs
    rcases hmsgs : s.imuMsgs with _ | ⟨imuMsg, imuMsgs⟩
    · simp [hmsgs] at hs
    · simp only [hmsgs, SyncedImuPublisher.publish, hrunning, Bool.false_eq_true, if_false,
        Option.some.injEq] at hs
      subst hs
      exact ⟨hdisabled, rfl, hthrown⟩
  | unlock =>
    obtain ⟨-, hs⟩ := Option.ite_none_right_eq_some.mp hs
    obtain rfl := Option.some.inj hs
    exact ⟨hdisabled, hrunning, hthrown⟩
  | pause =>
    obtain rfl := Option.some.inj hs
    have hpause : s.publisher.pause = s.publisher := by simp [SyncedImuPublisher.pause, hdisabled]
    exact ⟨by rw [hpause, hdisabled], by rw [hpause, hrunning], hthrown⟩
  | resume =>
    obtain rfl := Option.some.inj hs
    exact ⟨hdisabled, rfl, hthrown⟩
  | enable isEnabled =>
    obtain rfl := Option.some.inj hs
    cases isEnabled with
    | true => exact absurd rfl he
    | false => exact ⟨rfl, hrunning, hthrown⟩

/--
**As long as nobody calls `Enable(true)`, and nobody does, no message is held back for a frame: none is
ever pending, no callback ends with an exception, and whenever the mutex is free all messages made of the
readings taken have been published.**
-/
theorem never_pending (hr : (imuNode method waitingListSize).Run es s) (hes : .enable true ∉ es) :
    s.publisher.pendingMessages = [] ∧ s.thrown = false ∧
      (s.locked = false → s.publisher.published = (fillAll method (taken es)).2) := by
  have h := accounted_of_run hr
  have hunheld : Unheld s := by
    clear h
    induction hr with
    | init => exact ⟨rfl, rfl, rfl⟩
    | snoc _ hs _ ih =>
      exact unheld_step (ih fun hmem => hes (List.mem_append_left _ hmem))
        (fun he => hes (by simp [he])) hs
  have hpending := h.inOrder hunheld.running
  refine ⟨hpending, hunheld.thrown, ?_⟩
  intro hlocked
  obtain ⟨lost, hlost, hiff⟩ := h.msgs
  rw [← hlost, hiff.mpr hunheld.thrown, (h.idle hlocked).1, SyncedImuPublisher.accepted, hpending]
  simp

end Runs

/-- An acceleration, and a gyro reading whose message finds a list without room. -/
def eventsFull : List ImuEvent :=
  [.imuFrame true ⟨.accel, ⟨0, 0, 8⟩, 1⟩, .unlock, .enable true, .pause,
    .imuFrame true ⟨.gyro, ⟨2, 0, 0⟩, 2⟩, .publish]

theorem messages_accounted_full : ∃ s, (imuNode .copy 0).Run eventsFull s ∧
    ∃ lost, s.publisher.published ++ s.publisher.pendingMessages ++ s.imuMsgs ++ lost =
      [⟨2, ⟨2, 0, 0⟩, ⟨0, 0, 8⟩⟩] ∧ (lost = [] ↔ s.thrown = false) := by
  have hrun : ∃ s, (imuNode .copy 0).exec eventsFull = some s := ⟨_, rfl⟩
  obtain ⟨s, hs⟩ := hrun
  have hr := Machine.run_of_exec hs
  exact ⟨s, hr, (messages_accounted hr).1⟩

theorem stuck_of_thrown_full : ∃ s, (imuNode .copy 0).Run (eventsFull ++ [.resume, .pause]) s ∧
    s.publisher.published ++ s.publisher.pendingMessages = [] := by
  have hrun : ∃ s ∈ (imuNode .copy 0).exec eventsFull, s.thrown = true ∧
      s.publisher.published ++ s.publisher.pendingMessages = [] := ⟨_, rfl, rfl, rfl⟩
  have hrun' : ∃ s, (imuNode .copy 0).exec (eventsFull ++ [.resume, .pause]) = some s := ⟨_, rfl⟩
  obtain ⟨s, hs, hthrown, hnone⟩ := hrun
  obtain ⟨s', hs'⟩ := hrun'
  have hr' := Machine.run_of_exec hs'
  exact ⟨s', hr', (stuck_of_thrown (Machine.run_of_exec hs) hthrown hr').1.trans hnone⟩

theorem never_pending_resumed : ∃ s, (imuNode .copy 1000).Run
      [.imuFrame true ⟨.accel, ⟨0, 0, 8⟩, 1⟩, .unlock, .pause, .imuFrame true ⟨.gyro, ⟨2, 0, 0⟩, 2⟩,
        .publish, .unlock] s ∧
    (s.locked = false → s.publisher.published = [⟨2, ⟨2, 0, 0⟩, ⟨0, 0, 8⟩⟩]) := by
  have hrun : ∃ s, (imuNode .copy 1000).exec
      [.imuFrame true ⟨.accel, ⟨0, 0, 8⟩, 1⟩, .unlock, .pause, .imuFrame true ⟨.gyro, ⟨2, 0, 0⟩, 2⟩,
        .publish, .unlock] = some s := ⟨_, rfl⟩
  obtain ⟨s, hs⟩ := hrun
  have hr := Machine.run_of_exec hs
  exact ⟨s, hr, (never_pending hr (by decide)).2.2⟩

end Tetra.Camera
