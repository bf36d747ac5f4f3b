import Tetra.Camera.Profiles
import Tetra.Lib.Machine

/-!
# Sensors that follow the parameters

The callback of a parameter that enables a stream writes the value and then says so by a flag. A thread
of its own waits for the flag and goes through all sensors two times: it stops those whose profiles are
not the wanted ones any more, and starts them with the wanted ones. It holds the mutex of the flag all
the while and takes the flag down at last; the parameters it reads without a mutex. `setup` goes through
the sensors once, too, without the mutex of the flag.

`streams_follow`: when there is nothing to do, every sensor streams what its parameters say, however the
threads took turns, if the size of a stream is only set while it is disabled and the camera obeys.
`streams_published`: every stream has its publishers, as long as nobody aligns the depth; a stream may
lose them otherwise (`streams_unpublished`).
-/

namespace Tetra.Camera

/-! ## The source -/

/-- Where `updateSensors` is. -/
inductive UpdatePhase
  /-- Nobody is in it. -/
  | waiting
  /-- `stopRequiredSensors` has come to a sensor; the thread is `_monitoring_pc` or that of `setup`. -/
  | stopping (monitoring : Bool) (sensor : Nat)
  /-- `startUpdatedSensors` has. -/
  | starting (monitoring : Bool) (sensor : Nat)
  deriving DecidableEq, Repr

/-- `BaseRealSenseNode` -/
structure BaseRealSenseNode where
  /-- `_available_ros_sensors` -/
  sensors : List RosSensor
  /-- The streams that have publishers. -/
  publishers : List StreamIndexPair := []
  isProfileChanged : Bool := false
  isAlignDepthChanged : Bool := false
  /-- The callbacks that have written the value of a parameter and come to `update_sensor_func`. -/
  callbacks : Nat := 0
  /-- `setup` has not come to `updateSensors` yet. -/
  settingUp : Bool := true
  phase : UpdatePhase := .waiting

namespace RosSensor

variable (r : RosSensor)

/-- `stop`; `close` may fail. -/
def stop (closes : Bool) : RosSensor := if closes then { r with activeStreams := [] } else r

/-- `start`, which does nothing while streams are active; `open` may throw. -/
def start (opens : Bool) : Option RosSensor :=
  if r.activeStreams ≠ [] then some r
  else if opens then some { r with activeStreams := r.wantedProfiles }
  else none

end RosSensor

namespace BaseRealSenseNode

variable (s : BaseRealSenseNode)

/-- `_profile_changes_mutex` can be taken. -/
def mutexFree : Bool :=
  match s.phase with
  | .waiting => true
  | .stopping monitoring _ | .starting monitoring _ => !monitoring

/-- `stopPublishers` -/
def stopPublishers (profiles : List StreamProfile) : List StreamIndexPair :=
  s.publishers.filter fun sip => sip ∉ profiles.map StreamProfile.sip

/-- `startPublishers` -/
def startPublishers (profiles : List StreamProfile) : List StreamIndexPair :=
  s.publishers ++ (profiles.map StreamProfile.sip).filter (· ∉ s.publishers)

/-- The sensor is gone through again. -/
def updates (r : RosSensor) : Bool := r.isProfileChanged || (r.isVideoSensor && s.isAlignDepthChanged)

/-- One turn of `stopRequiredSensors`. -/
def stopRequired (i : Nat) (r : RosSensor) (obeys : Bool) : BaseRealSenseNode :=
  if s.updates r then
    { s with
      sensors := if r.isProfileChanged then s.sensors.set i (r.stop obeys) else s.sensors
      publishers := s.stopPublishers r.activeStreams }
  else s

/-- One turn of `startUpdatedSensors`, and whether it has thrown. -/
def startUpdated (i : Nat) (r : RosSensor) (obeys : Bool) : BaseRealSenseNode × Bool :=
  if s.updates r ∧ r.wantedProfiles ≠ [] then
    let s := { s with publishers := s.startPublishers r.wantedProfiles }
    if r.isProfileChanged then
      match r.start obeys with
      | some r' => ({ s with sensors := s.sensors.set i r' }, false)
      | none => (s, true)
    else (s, false)
  else (s, false)

/-- `updateSensors` is done, or has thrown and the thread has caught it. -/
def finish (monitoring : Bool) : BaseRealSenseNode :=
  if monitoring then
    { s with isProfileChanged := false, isAlignDepthChanged := false, phase := .waiting }
  else { s with phase := .waiting }

/-- The next turn of `updateSensors`. An exception in `setup` ends the node. -/
def turn (obeys : Bool) : Option BaseRealSenseNode :=
  match s.phase with
  | .waiting => none
  | .stopping monitoring i =>
    match s.sensors[i]? with
    | some r => some { s.stopRequired i r obeys with phase := .stopping monitoring (i + 1) }
    | none => some { s with phase := .starting monitoring 0 }
  | .starting monitoring i =>
    match s.sensors[i]? with
    | some r =>
      match s.startUpdated i r obeys with
      | (s', false) => some { s' with phase := .starting monitoring (i + 1) }
      | (s', true) => if monitoring then some (s'.finish true) else none
    | none => some (s.finish monitoring)

/-- The callback of a parameter of a sensor; only that of `enable` goes on to `update_sensor_func`. -/
def set (i : Nat) (setting : Setting) : Option BaseRealSenseNode :=
  match s.sensors[i]? with
  | none => none
  | some r =>
    let s := { s with sensors := s.sensors.set i (r.set setting) }
    match setting with
    | .enable _ _ => some { s with callbacks := s.callbacks + 1 }
    | _ => some s

end BaseRealSenseNode

/-- What one of the threads does. -/
inductive MonitorEvent
  /-- A parameter of a sensor is set. -/
  | set (sensor : Nat) (setting : Setting)
  /-- `update_sensor_func` -/
  | updateSensorFunc
  /-- `enable_rgbd` is set. -/
  | enableRgbd
  /-- The filter that aligns the depth is enabled or disabled. -/
  | alignDepth
  /-- `setup` comes to `updateSensors`. -/
  | setup
  /-- `_monitoring_pc` finds a flag. -/
  | wake
  /-- `updateSensors` goes on; `obeys` is what the camera does if it is asked. -/
  | turn (obeys : Bool)
  deriving DecidableEq, Repr

/-- A camera that nobody has used yet. -/
structure CameraDevice where
  sensors : List RosSensor
  idle : ∀ r ∈ sensors, r.activeStreams = []
  /-- No two sensors have profiles of one stream. -/
  apart : sensors.Pairwise fun r r' => ∀ p ∈ r.profiles, ∀ q ∈ r'.profiles, p.sip ≠ q.sip

/-- The threads, from `monitoringProfileChanges` in `setup` on. -/
def monitoring (device : CameraDevice) : Machine BaseRealSenseNode MonitorEvent where
  init := { sensors := device.sensors }
  step s
    | .set i setting => s.set i setting
    | .updateSensorFunc =>
      if 0 < s.callbacks ∧ s.mutexFree then
        some { s with isProfileChanged := true, callbacks := s.callbacks - 1 }
      else none
    | .enableRgbd => if s.mutexFree then some { s with isProfileChanged := true } else none
    | .alignDepth => if s.mutexFree then some { s with isAlignDepthChanged := true } else none
    | .setup =>
      if s.phase = .waiting ∧ s.settingUp then
        some { s with settingUp := false, phase := .stopping false 0 }
      else none
    | .wake =>
      if s.phase = .waiting ∧ (s.isProfileChanged ∨ s.isAlignDepthChanged) then
        some { s with phase := .stopping true 0 }
      else none
    | .turn obeys => s.turn obeys

/-! ## Sensors and their parameters -/

namespace RosSensor

section Wanted

variable {r : RosSensor} {setting : Setting}

/-- What is set matters to no stream that is enabled. -/
def Unused (r : RosSensor) : Setting → Prop
  | .enable _ _ => True
  | .profile type _ => ∀ p ∈ r.profiles, p.type = type → r.enabledProfiles p.sip = false
  | .format sip _ => r.enabledProfiles sip = false
  | .fps sip _ => r.enabledProfiles sip = false

instance (r : RosSensor) : DecidablePred r.Unused
  | .enable _ _ => inferInstanceAs (Decidable True)
  | .profile type _ =>
    inferInstanceAs (Decidable (∀ p ∈ r.profiles, p.type = type → r.enabledProfiles p.sip = false))
  | .format sip _ => inferInstanceAs (Decidable (r.enabledProfiles sip = false))
  | .fps sip _ => inferInstanceAs (Decidable (r.enabledProfiles sip = false))

theorem equal_self (p : StreamProfile) : p.equal p = true := by
  unfold StreamProfile.equal
  cases p.kind <;> simp

theorem isProfilesInProfiles_self (ps : List StreamProfile) : isProfilesInProfiles ps ps = true := by
  rw [isProfilesInProfiles, List.all_eq_true]
  intro p hp
  exact List.any_eq_true.mpr ⟨p, hp, equal_self p⟩

/-- Where nothing streams, there is nothing to do exactly if nothing is wanted. -/
theorem isProfileChanged_of_idle (hidle : r.activeStreams = []) :
    r.isProfileChanged = false ↔ r.wantedProfiles = [] := by
  rw [isProfileChanged, hidle, compareProfilesLists]
  cases r.wantedProfiles with
  | nil => simp [isProfilesInProfiles]
  | cons p ps => simp [isProfilesInProfiles]

/-- A sensor that is started streams what is wanted. -/
theorem isProfileChanged_start (r : RosSensor) :
    { r with activeStreams := r.wantedProfiles }.isProfileChanged = false := by
  have hwanted : { r with activeStreams := r.wantedProfiles }.wantedProfiles = r.wantedProfiles := rfl
  rw [isProfileChanged, hwanted, compareProfilesLists, isProfilesInProfiles_self]
  rfl

theorem wantedProfiles_congr {r' : RosSensor} (hprofiles : r'.profiles = r.profiles)
    (henabled : r'.enabledProfiles = r.enabledProfiles)
    (hwanted : ∀ p ∈ r.profiles, r.enabledProfiles p.sip = true →
      r'.isWantedVideo p = r.isWantedVideo p ∧ r'.isWantedMotion p = r.isWantedMotion p) :
    r'.wantedProfiles = r.wantedProfiles := by
  have hvideo : ∀ wanted, addWantedProfiles r.enabledProfiles r'.isWantedVideo r.videoProfiles wanted =
      addWantedProfiles r.enabledProfiles r.isWantedVideo r.videoProfiles wanted := by
    intro wanted
    refine addWantedProfiles_congr fun p hp hsip => ?_
    exact (hwanted p (List.mem_of_mem_filter hp) hsip).1
  have hmotion : ∀ wanted, addWantedProfiles r.enabledProfiles r'.isWantedMotion r.motionProfiles wanted =
      addWantedProfiles r.enabledProfiles r.isWantedMotion r.motionProfiles wanted := by
    intro wanted
    refine addWantedProfiles_congr fun p hp hsip => ?_
    exact (hwanted p (List.mem_of_mem_filter hp) hsip).2
  rw [wantedProfiles, videoProfiles, motionProfiles, hprofiles, henabled]
  rw [videoProfiles] at hvideo
  rw [motionProfiles] at hmotion
  rw [hvideo, hmotion]
  rfl

theorem activeStreams_set (r : RosSensor) (setting : Setting) :
    (r.set setting).activeStreams = r.activeStreams := by
  cases setting with
  | enable sip value => rfl
  | profile t text =>
    rcases r.setProfile_cases t text with ⟨_, _, _, -, hset⟩ | hset | hset <;> rw [set, hset]
  | format sip format =>
    rw [set, setFormat]
    split <;> rfl
  | fps sip fps =>
    rw [set, setFps]
    split <;> rfl

/-- A setting that is not used changes nothing of what is wanted. -/
theorem wantedProfiles_set (h : r.Unused setting) (hother : ∀ sip value, setting ≠ .enable sip value) :
    (r.set setting).wantedProfiles = r.wantedProfiles := by
  cases setting with
  | enable sip value => exact absurd rfl (hother sip value)
  | profile t text =>
    rcases r.setProfile_cases t text with ⟨width, height, fps, -, hset⟩ | hset | hset
    · rw [set, hset]
      refine wantedProfiles_congr rfl rfl fun p hp hsip => ⟨?_, rfl⟩
      have hne : p.type ≠ t := fun heq => by simp [h p hp heq] at hsip
      simp only [isWantedVideo, Function.update_of_ne hne]
    · rw [set, hset]
    · rw [set, hset]
  | format sip format =>
    have hsip : ∀ p : StreamProfile, r.enabledProfiles p.sip = true → p.sip ≠ sip := by
      rintro p hp rfl
      simp [Unused] at h
      simp [h] at hp
    rw [set, setFormat]
    split
    · refine wantedProfiles_congr rfl rfl fun p _ hp => ⟨?_, rfl⟩
      simp only [isWantedVideo, Function.update_of_ne (hsip p hp)]
    · rfl
  | fps sip fps =>
    have hsip : ∀ p : StreamProfile, r.enabledProfiles p.sip = true → p.sip ≠ sip := by
      rintro p hp rfl
      simp [Unused] at h
      simp [h] at hp
    rw [set, setFps]
    split
    · refine wantedProfiles_congr rfl rfl fun p _ hp => ⟨rfl, ?_⟩
      simp only [isWantedMotion, Function.update_of_ne (hsip p hp)]
    · rfl

theorem isProfileChanged_set (h : r.Unused setting) (hother : ∀ sip value, setting ≠ .enable sip value) :
    (r.set setting).isProfileChanged = r.isProfileChanged := by
  rw [isProfileChanged, activeStreams_set, wantedProfiles_set h hother, isProfileChanged]

end Wanted

end RosSensor

/-! ## Turns -/

/-- A sensor that streams nothing, or what is wanted. -/
def Ready (r : RosSensor) : Prop := r.activeStreams = [] ∨ r.isProfileChanged = false

section Turns

variable {s s' : BaseRealSenseNode} {r : RosSensor} {i : Nat}

theorem set_self {α : Type} {l : List α} {i : Nat} {a : α} (h : l[i]? = some a) : l.set i a = l := by
  refine List.ext_getElem? fun j => ?_
  rw [List.getElem?_set]
  split
  · next heq =>
    subst heq
    rw [h, if_pos (List.getElem?_eq_some_iff.mp h).1]
  · rfl

/-- What a turn of `stopRequiredSensors` does: the sensor is ready then. -/
structure StopTurn (s : BaseRealSenseNode) (r r' : RosSensor) (publishers : List StreamIndexPair) :
    Prop where
  ready : Ready r'
  profiles : r'.profiles = r.profiles
  activeStreams : r' = r ∨ r'.activeStreams = []
  published : publishers = s.publishers ∨ publishers = s.stopPublishers r.activeStreams ∧
    (r'.activeStreams = [] ∨ s.isAlignDepthChanged = true)

/-- What a turn of `startUpdatedSensors` does: a sensor that is ready streams what is wanted then. -/
structure StartTurn (s : BaseRealSenseNode) (r r' : RosSensor) (publishers : List StreamIndexPair) :
    Prop where
  follows : Ready r → r'.isProfileChanged = false
  profiles : r'.profiles = r.profiles
  published : ∀ sip ∈ s.publishers, sip ∈ publishers
  activeStreams : r' = r ∨
    r'.activeStreams = r.wantedProfiles ∧ ∀ p ∈ r.wantedProfiles, p.sip ∈ publishers

theorem stopRequired_eq (hr : s.sensors[i]? = some r) : ∃ r' publishers,
    s.stopRequired i r true = { s with sensors := s.sensors.set i r', publishers } ∧
      StopTurn s r r' publishers := by
  unfold BaseRealSenseNode.stopRequired
  by_cases hupdates : s.updates r
  · rw [if_pos hupdates]
    by_cases hchanged : r.isProfileChanged
    · rw [if_pos hchanged]
      exact ⟨r.stop true, _, rfl, Or.inl rfl, rfl, Or.inr rfl, Or.inr ⟨rfl, Or.inl rfl⟩⟩
    · rw [if_neg hchanged]
      have halign : s.isAlignDepthChanged = true := by
        simp only [BaseRealSenseNode.updates, Bool.or_eq_true, Bool.and_eq_true] at hupdates
        rcases hupdates with h | ⟨-, h⟩
        · exact absurd h hchanged
        · exact h
      exact ⟨r, _, by rw [set_self hr], Or.inr (by simpa using hchanged), rfl, Or.inl rfl,
        Or.inr ⟨rfl, Or.inr halign⟩⟩
  · rw [if_neg hupdates]
    have hchanged : r.isProfileChanged = false := by
      simp only [BaseRealSenseNode.updates, Bool.or_eq_true, not_or, Bool.not_eq_true] at hupdates
      exact hupdates.1
    exact ⟨r, s.publishers, by rw [set_self hr], Or.inr hchanged, rfl, Or.inl rfl, Or.inl rfl⟩

theorem startUpdated_eq (hr : s.sensors[i]? = some r) : ∃ r' publishers,
    s.startUpdated i r true = ({ s with sensors := s.sensors.set i r', publishers }, false) ∧
      StartTurn s r r' publishers := by
  unfold BaseRealSenseNode.startUpdated
  by_cases hupdates : s.updates r ∧ r.wantedProfiles ≠ []
  · rw [if_pos hupdates]
    have hkept : ∀ sip ∈ s.publishers, sip ∈ s.startPublishers r.wantedProfiles :=
      fun sip hsip => List.mem_append_left _ hsip
    have hstarted : ∀ p ∈ r.wantedProfiles, p.sip ∈ s.startPublishers r.wantedProfiles := by
      intro p hp
      by_cases hmem : p.sip ∈ s.publishers
      · exact hkept _ hmem
      · exact List.mem_append_right _ (List.mem_filter.mpr ⟨List.mem_map_of_mem hp, by simpa using hmem⟩)
    by_cases hchanged : r.isProfileChanged
    · by_cases hidle : r.activeStreams = []
      · refine ⟨{ r with activeStreams := r.wantedProfiles }, _, ?_, fun _ => r.isProfileChanged_start, rfl,
          hkept, Or.inr ⟨rfl, hstarted⟩⟩
        simp [hchanged, RosSensor.start, hidle]
      · refine ⟨r, s.startPublishers r.wantedProfiles, ?_, ?_, rfl, hkept, Or.inl rfl⟩
        · simp [hchanged, RosSensor.start, hidle, set_self hr]
        · rintro (h | h)
          · exact absurd h hidle
          · exact h
    · exact ⟨r, s.startPublishers r.wantedProfiles, by simp [hchanged, set_self hr],
        fun _ => by simpa using hchanged, rfl, hkept, Or.inl rfl⟩
  · rw [if_neg hupdates]
    refine ⟨r, s.publishers, by rw [set_self hr], ?_, rfl, fun sip hsip => hsip, Or.inl rfl⟩
    rintro (hidle | h)
    · -- nothing is wanted either
      by_contra hchanged
      have hupdate : s.updates r = true := by
        simp [BaseRealSenseNode.updates, eq_true_of_ne_false hchanged]
      have hwanted : r.wantedProfiles = [] := by
        by_contra hne
        exact hupdates ⟨hupdate, hne⟩
      exact hchanged ((RosSensor.isProfileChanged_of_idle hidle).mpr hwanted)
    · exact h

/-- What a turn does, by where it is. -/
theorem turn_cases (h : s.turn true = some s') :
    (∃ monitoring i r r' publishers, s.phase = .stopping monitoring i ∧ s.sensors[i]? = some r ∧
      StopTurn s r r' publishers ∧ s' = { s with
        sensors := s.sensors.set i r', publishers, phase := .stopping monitoring (i + 1) }) ∨
    (∃ monitoring i, s.phase = .stopping monitoring i ∧ s.sensors[i]? = none ∧
      s' = { s with phase := .starting monitoring 0 }) ∨
    (∃ monitoring i r r' publishers, s.phase = .starting monitoring i ∧ s.sensors[i]? = some r ∧
      StartTurn s r r' publishers ∧ s' = { s with
        sensors := s.sensors.set i r', publishers, phase := .starting monitoring (i + 1) }) ∨
    ∃ monitoring i, s.phase = .starting monitoring i ∧ s.sensors[i]? = none ∧
      s' = s.finish monitoring := by
  unfold BaseRealSenseNode.turn at h
  split at h
  · simp at h
  · next monitoring i hphase =>
    cases hr : s.sensors[i]? with
    | some r =>
      obtain ⟨r', publishers, hstop, hturn⟩ := stopRequired_eq hr
      simp only [hr, hstop, Option.some.injEq] at h
      exact Or.inl ⟨monitoring, i, r, r', publishers, hphase, hr, hturn, h.symm⟩
    | none =>
      simp only [hr, Option.some.injEq] at h
      exact Or.inr (Or.inl ⟨monitoring, i, hphase, hr, h.symm⟩)
  · next monitoring i hphase =>
    cases hr : s.sensors[i]? with
    | some r =>
      obtain ⟨r', publishers, hstart, hturn⟩ := startUpdated_eq hr
      simp only [hr, hstart, Option.some.injEq] at h
      exact Or.inr (Or.inr (Or.inl ⟨monitoring, i, r, r', publishers, hphase, hr, hturn, h.symm⟩))
    | none =>
      simp only [hr, Option.some.injEq] at h
      exact Or.inr (Or.inr (Or.inr ⟨monitoring, i, hphase, hr, h.symm⟩))

/-- A parameter that is set: that of a stream which is enabled by it, or another one. -/
theorem set_cases {setting : Setting} (h : s.set i setting = some s') :
    ∃ r, s.sensors[i]? = some r ∧
      ((∃ sip value, setting = .enable sip value ∧
          s' = { s with sensors := s.sensors.set i (r.set setting), callbacks := s.callbacks + 1 }) ∨
        ((∀ sip value, setting ≠ .enable sip value) ∧
          s' = { s with sensors := s.sensors.set i (r.set setting) })) := by
  unfold BaseRealSenseNode.set at h
  cases hr : s.sensors[i]? with
  | none => simp [hr] at h
  | some r =>
    refine ⟨r, rfl, ?_⟩
    simp only [hr] at h
    cases setting with
    | enable sip value => exact Or.inl ⟨sip, value, rfl, (Option.some.inj h).symm⟩
    | profile t text => exact Or.inr ⟨fun _ _ heq => by simp at heq, (Option.some.inj h).symm⟩
    | format sip format => exact Or.inr ⟨fun _ _ heq => by simp at heq, (Option.some.inj h).symm⟩
    | fps sip fps => exact Or.inr ⟨fun _ _ heq => by simp at heq, (Option.some.inj h).symm⟩

end Turns

/-! ## Nothing is forgotten -/

/-- What has been done, by where `updateSensors` is. -/
def Progress (s : BaseRealSenseNode) : Prop :=
  ∀ i r, s.sensors[i]? = some r →
    match s.phase with
    | .waiting => r.isProfileChanged = false
    | .stopping _ k => i < k → Ready r
    | .starting _ k => if i < k then r.isProfileChanged = false else Ready r

/-- `updateSensors` will be called again. -/
def Dirty (s : BaseRealSenseNode) : Prop :=
  s.settingUp = true ∨ 0 < s.callbacks ∨ (s.isProfileChanged = true ∧ s.mutexFree = true)

/-- The size of a stream is only set while it is disabled, and the camera obeys. -/
def InOrder (s : BaseRealSenseNode) : MonitorEvent → Prop
  | .set i setting => ∀ r ∈ s.sensors[i]?, r.Unused setting
  | .turn obeys => obeys = true
  | _ => True

instance (s : BaseRealSenseNode) : DecidablePred (InOrder s)
  | .set i setting => inferInstanceAs (Decidable (∀ r ∈ s.sensors[i]?, r.Unused setting))
  | .turn obeys => inferInstanceAs (Decidable (obeys = true))
  | .updateSensorFunc | .enableRgbd | .alignDepth | .setup | .wake => inferInstanceAs (Decidable True)

section Progress

variable {s s' : BaseRealSenseNode} {e : MonitorEvent} {es : List MonitorEvent} {device : CameraDevice}
  {r r' : RosSensor} {i : Nat}

/-- A sensor after one of them has been replaced. -/
theorem getElem?_set_cases {j : Nat} {q : RosSensor} (h : (s.sensors.set i r')[j]? = some q) :
    (j = i ∧ q = r') ∨ (j ≠ i ∧ s.sensors[j]? = some q) := by
  rw [List.getElem?_set] at h
  split at h
  · next heq =>
    split at h
    · exact Or.inl ⟨heq.symm, (Option.some.inj h).symm⟩
    · simp at h
  · next hne => exact Or.inr ⟨Ne.symm hne, h⟩

/-- A sensor is replaced by one with as much to do. -/
theorem progress_replace (hprogress : Progress s) (hr : s.sensors[i]? = some r)
    (hactive : r'.activeStreams = r.activeStreams) (hchanged : r'.isProfileChanged = r.isProfileChanged) :
    Progress { s with sensors := s.sensors.set i r' } := by
  intro j q hq
  rcases getElem?_set_cases hq with ⟨rfl, rfl⟩ | ⟨-, hq⟩
  · have h := hprogress j r hr
    simp only [Ready, hactive, hchanged] at h ⊢
    exact h
  · exact hprogress j q hq

theorem progress_turn (hprogress : Progress s) (h : s.turn true = some s') : Progress s' := by
  rcases turn_cases h with ⟨m, i, r, r', publishers, hphase, hr, hturn, rfl⟩ |
    ⟨m, i, hphase, hnone, rfl⟩ | ⟨m, i, r, r', publishers, hphase, hr, hturn, rfl⟩ |
    ⟨m, i, hphase, hnone, rfl⟩
  · intro j q hq
    have hj := hprogress j
    simp only [hphase] at hj ⊢
    intro hlt
    rcases getElem?_set_cases hq with ⟨rfl, rfl⟩ | ⟨hne, hq⟩
    · exact hturn.ready
    · exact hj q hq (by omega)
  · intro j q hq
    have hj := hprogress j q hq
    have hlt : j < i := (List.getElem?_eq_some_iff.mp hq).1.trans_le (List.getElem?_eq_none_iff.mp hnone)
    simp only [hphase] at hj ⊢
    rw [if_neg (by omega)]
    exact hj hlt
  · intro j q hq
    have hj := hprogress j
    simp only [hphase] at hj ⊢
    rcases getElem?_set_cases hq with ⟨rfl, rfl⟩ | ⟨hne, hq⟩
    · have hr' := hj r hr
      rw [if_neg (by omega)] at hr'
      rw [if_pos (by omega)]
      exact hturn.follows hr'
    · have hq' := hj q hq
      by_cases hlt : j < i
      · rw [if_pos hlt] at hq'
        rw [if_pos (by omega)]
        exact hq'
      · rw [if_neg hlt] at hq'
        rw [if_neg (by omega)]
        exact hq'
  · have hdone : ∀ (j : Nat) (q : RosSensor), s.sensors[j]? = some q → q.isProfileChanged = false := by
      intro j q hq
      have hj := hprogress j q hq
      have hlt : j < i := (List.getElem?_eq_some_iff.mp hq).1.trans_le (List.getElem?_eq_none_iff.mp hnone)
      simpa only [hphase, if_pos hlt] using hj
    intro j q hq
    unfold BaseRealSenseNode.finish at hq ⊢
    cases m <;> exact hdone j q hq

/-- A turn does not hide that there is something to do. -/
theorem dirty_turn (hdirty : Dirty s) (h : s.turn true = some s') : Dirty s' := by
  rcases turn_cases h with ⟨m, i, r, r', publishers, hphase, -, -, rfl⟩ |
    ⟨m, i, hphase, -, rfl⟩ | ⟨m, i, r, r', publishers, hphase, -, -, rfl⟩ |
    ⟨m, i, hphase, hnone, rfl⟩
  · simpa [Dirty, BaseRealSenseNode.mutexFree, hphase] using hdirty
  · simpa [Dirty, BaseRealSenseNode.mutexFree, hphase] using hdirty
  · simpa [Dirty, BaseRealSenseNode.mutexFree, hphase] using hdirty
  · cases m <;>
      simpa [Dirty, BaseRealSenseNode.mutexFree, BaseRealSenseNode.finish, hphase] using hdirty

theorem follows_step (h : Dirty s ∨ Progress s) (hs : (monitoring device).step s e = some s')
    (horder : InOrder s e) : Dirty s' ∨ Progress s' := by
  cases e with
  | set i setting =>
    obtain ⟨r, hr, ⟨sip, value, rfl, rfl⟩ | ⟨hother, rfl⟩⟩ := set_cases hs
    · exact Or.inl (Or.inr (Or.inl (Nat.succ_pos _)))
    · refine h.imp id fun hprogress => ?_
      have hunused : r.Unused setting := horder r hr
      exact progress_replace hprogress hr (r.activeStreams_set setting)
        (RosSensor.isProfileChanged_set hunused hother)
  | updateSensorFunc =>
    obtain ⟨⟨-, hfree⟩, hs⟩ := Option.ite_none_right_eq_some.mp hs
    obtain rfl := Option.some.inj hs
    exact Or.inl (Or.inr (Or.inr ⟨rfl, hfree⟩))
  | enableRgbd =>
    obtain ⟨hfree, hs⟩ := Option.ite_none_right_eq_some.mp hs
    obtain rfl := Option.some.inj hs
    exact Or.inl (Or.inr (Or.inr ⟨rfl, hfree⟩))
  | alignDepth =>
    obtain ⟨-, hs⟩ := Option.ite_none_right_eq_some.mp hs
    obtain rfl := Option.some.inj hs
    exact h
  | setup =>
    obtain ⟨-, hs⟩ := Option.ite_none_right_eq_some.mp hs
    obtain rfl := Option.some.inj hs
    exact Or.inr fun j q _ hlt => absurd hlt (Nat.not_lt_zero j)
  | wake =>
    obtain ⟨-, hs⟩ := Option.ite_none_right_eq_some.mp hs
    obtain rfl := Option.some.inj hs
    exact Or.inr fun j q _ hlt => absurd hlt (Nat.not_lt_zero j)
  | turn obeys =>
    obtain rfl : obeys = true := horder
    exact h.imp (fun hdirty => dirty_turn hdirty hs) fun hprogress => progress_turn hprogress hs

/--
**The sensors follow the parameters.** When nobody is in `updateSensors`, the flag is down and no
callback is about to raise it, every sensor streams what its parameters say.
-/
theorem streams_follow (hr : (monitoring device).RunWith (fun s e _ => InOrder s e) es s)
    (hwaiting : s.phase = .waiting) (hset : s.settingUp = false) (hcallbacks : s.callbacks = 0)
    (hflag : s.isProfileChanged = false) :
    ∀ r ∈ s.sensors, RosSensor.compareProfilesLists r.activeStreams r.wantedProfiles = true := by
  have hinvariant : Dirty s ∨ Progress s :=
    hr.invariant (Or.inl (Or.inl rfl)) fun h hs horder => follows_step h hs horder
  have hclean : ¬Dirty s := by
    rintro (h | h | ⟨h, -⟩)
    · simp [hset] at h
    · omega
    · simp [hflag] at h
  intro r hmem
  obtain ⟨i, hi⟩ := List.getElem?_of_mem hmem
  have hchanged := hinvariant.resolve_left hclean i r hi
  rw [hwaiting] at hchanged
  simpa [RosSensor.isProfileChanged] using hchanged

end Progress

/-! ## Publishers -/

/-- What holds at any time if nobody aligns the depth. -/
structure StreamsPublished (s : BaseRealSenseNode) : Prop where
  align : s.isAlignDepthChanged = false
  profiles : ∀ r ∈ s.sensors, ∀ p ∈ r.activeStreams, p ∈ r.profiles
  apart : s.sensors.Pairwise fun r r' => ∀ p ∈ r.profiles, ∀ q ∈ r'.profiles, p.sip ≠ q.sip
  published : ∀ r ∈ s.sensors, ∀ p ∈ r.activeStreams, p.sip ∈ s.publishers

/-- The camera obeys, and nobody aligns the depth. -/
def Unaligned : MonitorEvent → Prop
  | .turn obeys => obeys = true
  | .alignDepth => False
  | _ => True

section Publishers

variable {s s' : BaseRealSenseNode} {e : MonitorEvent} {es : List MonitorEvent} {device : CameraDevice}
  {r r' : RosSensor} {i : Nat} {publishers : List StreamIndexPair}

/-- The streams of two sensors are others. -/
theorem StreamsPublished.sip_ne (h : StreamsPublished s) {i j : Nat} {q : RosSensor}
    (hr : s.sensors[i]? = some r) (hq : s.sensors[j]? = some q) (hne : i ≠ j) {p p' : StreamProfile}
    (hp : p ∈ r.profiles) (hp' : p' ∈ q.profiles) : p.sip ≠ p'.sip := by
  obtain ⟨hi, rfl⟩ := List.getElem?_eq_some_iff.mp hr
  obtain ⟨hj, rfl⟩ := List.getElem?_eq_some_iff.mp hq
  have hapart := List.pairwise_iff_getElem.mp h.apart
  rcases Nat.lt_or_gt_of_ne hne with hlt | hlt
  · exact hapart i j hi hj hlt p hp p' hp'
  · exact (hapart j i hj hi hlt p' hp' p hp).symm

/-- One sensor is replaced, and publishers come and go. -/
theorem StreamsPublished.replace (h : StreamsPublished s) (hr : s.sensors[i]? = some r)
    (hprofiles : r'.profiles = r.profiles) (hactive : ∀ p ∈ r'.activeStreams, p ∈ r.profiles)
    (hself : ∀ p ∈ r'.activeStreams, p.sip ∈ publishers)
    (hothers : ∀ j q, s.sensors[j]? = some q → j ≠ i → ∀ p ∈ q.activeStreams, p.sip ∈ publishers) :
    StreamsPublished { s with sensors := s.sensors.set i r', publishers } := by
  have hmem : ∀ q ∈ s.sensors.set i r', q = r' ∨ ∃ j, j ≠ i ∧ s.sensors[j]? = some q := by
    intro q hq
    obtain ⟨j, hj⟩ := List.getElem?_of_mem hq
    exact (getElem?_set_cases hj).imp And.right fun hother => ⟨j, hother⟩
  refine ⟨h.align, ?_, ?_, ?_⟩
  · intro q hq p hp
    rcases hmem q hq with rfl | ⟨j, -, hj⟩
    · exact hprofiles ▸ hactive p hp
    · exact h.profiles q (List.mem_of_getElem? hj) p hp
  · -- the profiles of the sensors are the same ones
    have hmap : (s.sensors.set i r').map RosSensor.profiles = s.sensors.map RosSensor.profiles := by
      have hset : s.sensors.map RosSensor.profiles =
          (s.sensors.map RosSensor.profiles).set i r.profiles :=
        (set_self (by rw [List.getElem?_map, hr]; rfl)).symm
      rw [List.map_set, hprofiles, ← hset]
    have hapart : (s.sensors.map RosSensor.profiles).Pairwise fun ps qs =>
        ∀ p ∈ ps, ∀ q ∈ qs, p.sip ≠ q.sip := List.pairwise_map.mpr h.apart
    rw [← hmap] at hapart
    exact List.pairwise_map.mp hapart
  · intro q hq p hp
    rcases hmem q hq with rfl | ⟨j, hne, hj⟩
    · exact hself p hp
    · exact hothers j q hj hne p hp

theorem StreamsPublished.turn (h : StreamsPublished s) (hs : s.turn true = some s') :
    StreamsPublished s' := by
  have hothers : ∀ (j : Nat) (q : RosSensor), s.sensors[j]? = some q →
      ∀ p ∈ q.activeStreams, p.sip ∈ s.publishers :=
    fun j q hq => h.published q (List.mem_of_getElem? hq)
  have hwithin : ∀ (j : Nat) (q : RosSensor), s.sensors[j]? = some q →
      ∀ p ∈ q.activeStreams, p ∈ q.profiles :=
    fun j q hq => h.profiles q (List.mem_of_getElem? hq)
  rcases turn_cases hs with ⟨m, i, r, r', publishers, -, hr, hturn, rfl⟩ | ⟨m, i, -, -, rfl⟩ |
    ⟨m, i, r, r', publishers, -, hr, hturn, rfl⟩ | ⟨m, i, -, -, rfl⟩
  · have hactive : ∀ p ∈ r'.activeStreams, p ∈ r.activeStreams := by
      rcases hturn.activeStreams with rfl | hnone
      · exact fun p hp => hp
      · simp [hnone]
    have hnext : StreamsPublished { s with sensors := s.sensors.set i r', publishers } := by
      refine h.replace hr hturn.profiles (fun p hp => hwithin i r hr p (hactive p hp)) ?_ ?_
      · rcases hturn.published with rfl | ⟨-, hnone | halign⟩
        · exact fun p hp => hothers i r hr p (hactive p hp)
        · simp [hnone]
        · simp [h.align] at halign
      · intro j q hq hne p hp
        rcases hturn.published with rfl | ⟨rfl, -⟩
        · exact hothers j q hq p hp
        · refine List.mem_filter.mpr ⟨hothers j q hq p hp, ?_⟩
          simp only [List.mem_map, decide_eq_true_eq]
          rintro ⟨p', hp', hsip⟩
          exact h.sip_ne hr hq (Ne.symm hne) (hwithin i r hr p' hp') (hwithin j q hq p hp) hsip
    exact ⟨hnext.align, hnext.profiles, hnext.apart, hnext.published⟩
  · exact ⟨h.align, h.profiles, h.apart, h.published⟩
  · have hnext : StreamsPublished { s with sensors := s.sensors.set i r', publishers } := by
      refine h.replace hr hturn.profiles ?_ ?_ ?_
      · rcases hturn.activeStreams with rfl | ⟨hwanted, -⟩
        · exact hwithin i r' hr
        · intro p hp
          exact RosSensor.mem_profiles_of_wanted (hwanted ▸ hp)
      · rcases hturn.activeStreams with rfl | ⟨hwanted, hpublished⟩
        · exact fun p hp => hturn.published _ (hothers i r' hr p hp)
        · intro p hp
          exact hpublished p (hwanted ▸ hp)
      · exact fun j q hq _ p hp => hturn.published _ (hothers j q hq p hp)
    exact ⟨hnext.align, hnext.profiles, hnext.apart, hnext.published⟩
  · unfold BaseRealSenseNode.finish
    cases m
    · exact ⟨h.align, h.profiles, h.apart, h.published⟩
    · exact ⟨rfl, h.profiles, h.apart, h.published⟩

theorem StreamsPublished.step (h : StreamsPublished s) (hs : (monitoring device).step s e = some s')
    (hunaligned : Unaligned e) : StreamsPublished s' := by
  cases e with
  | set i setting =>
    obtain ⟨r, hr, hcases⟩ := set_cases hs
    have hactive := r.activeStreams_set setting
    have hr' := List.mem_of_getElem? hr
    have hnext : StreamsPublished { s with sensors := s.sensors.set i (r.set setting) } := by
      have hprofiles := (r.set_keeps setting .depth).1
      refine h.replace hr hprofiles ?_ ?_ fun j q hq _ => h.published q (List.mem_of_getElem? hq)
      · rw [hactive]
        exact h.profiles r hr'
      · rw [hactive]
        exact h.published r hr'
    rcases hcases with ⟨-, -, -, rfl⟩ | ⟨-, rfl⟩
    · exact ⟨hnext.align, hnext.profiles, hnext.apart, hnext.published⟩
    · exact hnext
  | updateSensorFunc =>
    obtain ⟨-, hs⟩ := Option.ite_none_right_eq_some.mp hs
    obtain rfl := Option.some.inj hs
    exact ⟨h.align, h.profiles, h.apart, h.published⟩
  | enableRgbd =>
    obtain ⟨-, hs⟩ := Option.ite_none_right_eq_some.mp hs
    obtain rfl := Option.some.inj hs
    exact ⟨h.align, h.profiles, h.apart, h.published⟩
  | alignDepth => exact hunaligned.elim
  | setup =>
    obtain ⟨-, hs⟩ := Option.ite_none_right_eq_some.mp hs
    obtain rfl := Option.some.inj hs
    exact ⟨h.align, h.profiles, h.apart, h.published⟩
  | wake =>
    obtain ⟨-, hs⟩ := Option.ite_none_right_eq_some.mp hs
    obtain rfl := Option.some.inj hs
    exact ⟨h.align, h.profiles, h.apart, h.published⟩
  | turn obeys =>
    obtain rfl : obeys = true := hunaligned
    exact h.turn hs

/--
**Every stream has its publishers**, at any time and whatever is set, as long as nobody aligns the depth
and the camera obeys.
-/
theorem streams_published (hr : (monitoring device).RunWith (fun _ e _ => Unaligned e) es s) :
    ∀ r ∈ s.sensors, ∀ p ∈ r.activeStreams, p.sip ∈ s.publishers := by
  have h : StreamsPublished s := by
    refine hr.invariant ⟨rfl, ?_, device.apart, ?_⟩ fun h hs hunaligned => h.step hs hunaligned
    · intro r hmem p hp
      rw [device.idle r hmem] at hp
      exact absurd hp (List.not_mem_nil)
    · intro r hmem p hp
      rw [device.idle r hmem] at hp
      exact absurd hp (List.not_mem_nil)
  exact h.published

end Publishers

section Example

/-- A camera with one sensor. -/
def colorCamera : CameraDevice where
  sensors := [colorSensor.registerSensorParameters streamValue]
  idle := by decide
  apart := List.pairwise_singleton _ _

/-- `updateSensors` for one sensor. -/
def fourTurns : List MonitorEvent := List.replicate 4 (.turn true)

/-- The color stream is disabled, resized and enabled again. -/
def resizing : List MonitorEvent :=
  [.setup] ++ fourTurns ++ [.set 0 (.enable (.color, 0) false), .updateSensorFunc, .wake] ++ fourTurns ++
    [.set 0 (.profile .color "1280x720x15".toList), .set 0 (.enable (.color, 0) true), .updateSensorFunc,
      .wake] ++ fourTurns

theorem streams_follow_resized :
    ∃ s, (monitoring colorCamera).RunWith (fun s e _ => InOrder s e) resizing s ∧
      ∀ r ∈ s.sensors, RosSensor.compareProfilesLists r.activeStreams r.wantedProfiles = true := by
  have hrun : ∃ s ∈ (monitoring colorCamera).execWith InOrder resizing,
      s.phase = .waiting ∧ s.settingUp = false ∧ s.callbacks = 0 ∧ s.isProfileChanged = false := by
    decide +kernel
  obtain ⟨s, hs, hwaiting, hset, hcallbacks, hflag⟩ := hrun
  have hr := Machine.runWith_of_execWith hs
  exact ⟨s, hr, streams_follow hr hwaiting hset hcallbacks hflag⟩

instance : DecidablePred Unaligned
  | .turn obeys => inferInstanceAs (Decidable (obeys = true))
  | .alignDepth => inferInstanceAs (Decidable False)
  | .set _ _ | .updateSensorFunc | .enableRgbd | .setup | .wake => inferInstanceAs (Decidable True)

theorem streams_published_resized :
    ∃ s, (monitoring colorCamera).RunWith (fun _ e _ => Unaligned e) resizing s ∧
      (∃ r ∈ s.sensors, r.activeStreams ≠ []) ∧
      ∀ r ∈ s.sensors, ∀ p ∈ r.activeStreams, p.sip ∈ s.publishers := by
  have hrun : ∃ s ∈ (monitoring colorCamera).execWith (fun _ e => Unaligned e) resizing,
      ∃ r ∈ s.sensors, r.activeStreams ≠ [] := by
    decide +kernel
  obtain ⟨s, hs, hactive⟩ := hrun
  have hr := Machine.runWith_of_execWith hs
  exact ⟨s, hr, hactive, streams_published hr⟩

/-- A stream is disabled between the two loops while the depth is being aligned, and enabled again. -/
theorem streams_unpublished :
    ∃ s, (monitoring colorCamera).Run ([.setup] ++ fourTurns ++
        [.alignDepth, .wake, .turn true, .set 0 (.enable (.depth, 0) false), .turn true, .turn true,
          .turn true, .updateSensorFunc, .set 0 (.enable (.depth, 0) true), .updateSensorFunc, .wake] ++
        fourTurns) s ∧
      s.phase = .waiting ∧ s.isProfileChanged = false ∧ s.callbacks = 0 ∧
      ∃ r ∈ s.sensors, ∃ p ∈ r.activeStreams, p.sip = (.depth, 0) ∧ p.sip ∉ s.publishers := by
  have hrun : ∃ s ∈ (monitoring colorCamera).exec ([.setup] ++ fourTurns ++
        [.alignDepth, .wake, .turn true, .set 0 (.enable (.depth, 0) false), .turn true, .turn true,
          .turn true, .updateSensorFunc, .set 0 (.enable (.depth, 0) true), .updateSensorFunc, .wake] ++
        fourTurns),
      s.phase = .waiting ∧ s.isProfileChanged = false ∧ s.callbacks = 0 ∧
      ∃ r ∈ s.sensors, ∃ p ∈ r.activeStreams, p.sip = (.depth, 0) ∧ p.sip ∉ s.publishers := by
    decide +kernel
  exact Machine.run_of_exec_mem hrun

end Example

end Tetra.Camera
