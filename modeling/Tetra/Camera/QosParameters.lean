import Mathlib.Logic.Function.Basic
import Tetra.Lib.Machine

/-!
# The parameters for the quality of service

`registerSensorQOSParam` declares a parameter for each stream. A value that is set is looked at in the
callback of the parameter server, which accepts any string: one that is unknown is taken back later, by
a thread that sets the parameter to the value which the program goes on with. That this is no request
of a user the callback is told by a list of names. A value that is no string it refuses, unless the name
is on the list: then it looks at nothing.

`unknown_taken_back`: once the thread has nothing to do, the server has none but known values.
`values_agree`: and what the server says is then what the program goes on with, unless a request names a
parameter twice or while it is being taken back, or is refused when its known values have been taken
over. The examples at the end are such requests.
-/

namespace Tetra.Camera

/-! ## The source -/

/-- The strings that `qos_string_to_qos` does not throw for. -/
def knownQos : List String :=
  ["UNKNOWN", "SYSTEM_DEFAULT", "DEFAULT", "PARAMETER_EVENTS", "SERVICES_DEFAULT", "PARAMETERS",
    "SENSOR_DATA"]

/-- What a parameter is for: the pictures of a stream, its readings, or anything else. -/
inductive QosKind
  | image
  | hid
  | default
  deriving DecidableEq, Repr

/-- `rclcpp::ParameterValue`, with one case for the types of arrays. What is in a value is kept of
strings only: the rest is not looked at. A parameter that is set to `notSet` is no longer declared. -/
inductive ParameterValue
  | notSet
  | bool
  | integer
  | double
  | array
  | string (value : String)
  deriving DecidableEq, Repr

/-- `PARAMETER_STRING` -/
def ParameterValue.isString : ParameterValue → Bool
  | .string _ => true
  | _ => false

/-- `Parameters`, with what the node says and what the program goes on with. -/
structure QosParameters where
  /-- The names in `_param_functions`. -/
  paramFunctions : List String := []
  /-- The parameters of the node. -/
  server : String → ParameterValue := fun _ => .notSet
  /-- The strings that the callbacks share with the program. -/
  params : String → String := fun _ => ""
  /-- `_update_functions_v` -/
  updateFunctions : List (String × String) := []
  selfSetParameters : List String := []
  /-- The `setRosParamValue` that the thread is in. -/
  setting : Option (String × String) := none
  /-- What it has asked the node for, to switch on the type. -/
  current : Option ParameterValue := none

namespace QosParameters

/-- `queueSetRosValue` -/
def queueSetRosValue (s : QosParameters) (name value : String) : QosParameters :=
  { s with updateFunctions := s.updateFunctions ++ [(name, value)] }

/-- The callback that `registerSensorQOSParam` gives to `setParam`, and whether it returns: for a value
that is no string, `get_value` throws once more while the first exception is being handled. -/
def paramFunction (s : QosParameters) (name : String) : ParameterValue → QosParameters × Bool
  | .string value =>
    if value ∈ knownQos then ({ s with params := Function.update s.params name value }, true)
    else (s.queueSetRosValue name (s.params name), true)
  | _ => (s, false)

/-- The body of the loop in the callback of the parameter server, and whether it is `successful`. -/
def onSetParameter (s : QosParameters) (name : String) (value : ParameterValue) :
    QosParameters × Bool :=
  if name ∈ s.paramFunctions then
    if name ∈ s.selfSetParameters then
      ({ s with selfSetParameters := s.selfSetParameters.erase name }, true)
    else s.paramFunction name value
  else (s, true)

/-- The callback of the parameter server: it goes on when a function has thrown. -/
def onSetParameters (s : QosParameters) : List (String × ParameterValue) → QosParameters × Bool
  | [] => (s, true)
  | (name, value) :: parameters =>
    let (s, successful) := s.onSetParameter name value
    let (s, successful') := s.onSetParameters parameters
    (s, successful && successful')

/-- The values of a request are stored. -/
def store (server : String → ParameterValue) :
    List (String × ParameterValue) → String → ParameterValue
  | [] => server
  | (name, value) :: parameters => store (Function.update server name value) parameters

/-- `set_parameters_atomically`. A request may also be for other parameters; `otherThrew` says that the
function of one of these has thrown. -/
def setParameters (s : QosParameters) (parameters : List (String × ParameterValue))
    (otherThrew : Bool) : QosParameters × Bool :=
  let (s, successful) := s.onSetParameters parameters
  if successful ∧ ¬ otherThrew then ({ s with server := store s.server parameters }, true)
  else (s, false)

/-- `registerSensorQOSParam` for one stream; `result` is the value that the node was started with, or the
initial one. If it is no string, `setParam` returns before there is a function. -/
def registerSensorQosParam (s : QosParameters) (name value : String) (result : ParameterValue) :
    QosParameters :=
  let s := { s with
    params := Function.update s.params name value
    server := Function.update s.server name result }
  match result with
  | .string value' =>
    let s := { s with paramFunctions := s.paramFunctions ++ [name] }
    if value' ≠ value then (s.paramFunction name result).1 else s
  | _ => s

/-- `IMAGE_QOS`, `HID_QOS` and `DEFAULT_QOS` -/
def defaultQos : QosKind → String
  | .image => "SYSTEM_DEFAULT"
  | .hid => "SENSOR_DATA"
  | .default => "DEFAULT"

/-- The switch of `setRosParamValue`: what it sets a parameter to that has a value. -/
def valueToSet (value : String) : ParameterValue → Option ParameterValue
  | .bool => some .bool
  | .integer => some .integer
  | .double => some .double
  | .string _ => some (.string value)
  | .notSet | .array => none

/-- The end of `setRosParamValue` when the parameter was not set. `pop_back` needs a name. -/
def notSuccessful (s : QosParameters) : Option QosParameters :=
  if s.selfSetParameters = [] then none
  else some { s with
    selfSetParameters := s.selfSetParameters.dropLast, setting := none, current := none }

end QosParameters

/-- What happens in one of the threads. -/
inductive QosEvent
  /-- A parameter is declared that is none yet. -/
  | register (name : String) (kind : QosKind) (result : ParameterValue)
  /-- A user sets parameters, all at once. -/
  | set (parameters : List (String × ParameterValue)) (otherThrew : Bool)
  /-- The thread takes the next update and puts its name on the list. -/
  | beginUpdate
  /-- It asks the node for the type of the parameter. -/
  | readType
  /-- It sets the parameter. -/
  | finishUpdate
  deriving DecidableEq, Repr

/-- The two threads. A request for a parameter that is not declared is turned down without the callback;
the thread does not survive it. -/
def qosParameters : Machine QosParameters QosEvent where
  init := {}
  step s
    | .register name kind result =>
      if name ∈ s.paramFunctions then none
      else some (s.registerSensorQosParam name (QosParameters.defaultQos kind) result)
    | .set parameters otherThrew =>
      if ∀ p ∈ parameters, p.1 ∈ s.paramFunctions ∧ s.server p.1 ≠ .notSet then
        some (s.setParameters parameters otherThrew).1
      else none
    | .beginUpdate =>
      match s.setting, s.updateFunctions with
      | none, (name, value) :: updateFunctions =>
        some { s with
          updateFunctions, selfSetParameters := s.selfSetParameters ++ [name]
          setting := some (name, value) }
      | _, _ => none
    | .readType =>
      match s.setting, s.current with
      | some (name, _), none =>
        if s.server name = .notSet then none else some { s with current := some (s.server name) }
      | _, _ => none
    | .finishUpdate =>
      match s.setting, s.current with
      | some (name, value), some current =>
        match QosParameters.valueToSet value current with
        | none => s.notSuccessful
        | some value' =>
          if s.server name = .notSet then none
          else
            match s.setParameters [(name, value')] false with
            | (s, true) => some { s with setting := none, current := none }
            | (s, false) => s.notSuccessful
      | _, _ => none

namespace QosParameters

/-- The updates that are still to come, with that which the thread is in. -/
def underWay (s : QosParameters) : List (String × String) := s.setting.toList ++ s.updateFunctions

/-- The parameters that are being taken back. -/
def Reverting (s : QosParameters) (name : String) : Prop := name ∈ s.underWay.map Prod.fst

instance (s : QosParameters) (name : String) : Decidable (s.Reverting name) :=
  inferInstanceAs (Decidable (name ∈ s.underWay.map Prod.fst))

end QosParameters

/-! ## What a step does -/

section Steps

variable {s s' : QosParameters} {e : QosEvent} {name : String} {value : ParameterValue}
  {parameters : List (String × ParameterValue)}

theorem defaultQos_mem (kind : QosKind) : QosParameters.defaultQos kind ∈ knownQos := by
  cases kind <;> simp [QosParameters.defaultQos, knownQos]

/-- What the callback makes of a value. -/
inductive Taken (s : QosParameters) (name : String) : ParameterValue → QosParameters × Bool → Prop
  /-- It does not look at it. -/
  | unseen {value : ParameterValue} : name ∈ s.selfSetParameters →
      Taken s name value ({ s with selfSetParameters := s.selfSetParameters.erase name }, true)
  /-- The program goes on with it. -/
  | known {value : String} : name ∉ s.selfSetParameters → value ∈ knownQos →
      Taken s name (.string value) ({ s with params := Function.update s.params name value }, true)
  /-- It is to be taken back. -/
  | unknown {value : String} : name ∉ s.selfSetParameters → value ∉ knownQos →
      Taken s name (.string value)
        ({ s with updateFunctions := s.updateFunctions ++ [(name, s.params name)] }, true)
  /-- It is no string. -/
  | refused {value : ParameterValue} : name ∉ s.selfSetParameters → (∀ t, value ≠ .string t) →
      Taken s name value (s, false)

theorem taken_onSetParameter (hname : name ∈ s.paramFunctions) (value : ParameterValue) :
    Taken s name value (s.onSetParameter name value) := by
  rw [QosParameters.onSetParameter, if_pos hname]
  by_cases hself : name ∈ s.selfSetParameters
  · rw [if_pos hself]
    exact .unseen hself
  · rw [if_neg hself]
    cases value with
    | string value =>
      rw [QosParameters.paramFunction]
      by_cases hvalue : value ∈ knownQos
      · rw [if_pos hvalue]
        exact .known hself hvalue
      · rw [if_neg hvalue]
        exact .unknown hself hvalue
    | _ => exact .refused hself nofun

/-- A value that is stored is the last one of the request, or the one before. -/
theorem store_cases (server : String → ParameterValue) (parameters : List (String × ParameterValue))
    (name : String) :
    QosParameters.store server parameters name = server name ∨
      (name, QosParameters.store server parameters name) ∈ parameters := by
  induction parameters generalizing server with
  | nil => exact .inl rfl
  | cons p parameters ih =>
    rw [QosParameters.store]
    rcases ih (Function.update server p.1 p.2) with h | h
    · -- no later value is for this parameter
      rcases eq_or_ne name p.1 with rfl | hne
      · rw [h, Function.update_self]
        exact .inr List.mem_cons_self
      · rw [h, Function.update_of_ne hne]
        exact .inl rfl
    · exact .inr (List.mem_cons_of_mem p h)

/-- A parameter that is declared: the node was started with a known value, with one to take back or with
one that is no string. -/
theorem registerSensorQosParam_cases (s : QosParameters) (name : String) (result : ParameterValue)
    (kind : QosKind) :
    (∃ value ∈ knownQos, result = .string value ∧
      s.registerSensorQosParam name (QosParameters.defaultQos kind) result =
        { s with
          params := Function.update s.params name value
          server := Function.update s.server name result
          paramFunctions := s.paramFunctions ++ [name] }) ∨
    (∃ value ∉ knownQos, result = .string value ∧
      s.registerSensorQosParam name (QosParameters.defaultQos kind) result =
        { s with
          params := Function.update s.params name (QosParameters.defaultQos kind)
          server := Function.update s.server name result
          paramFunctions := s.paramFunctions ++ [name]
          updateFunctions := s.updateFunctions ++ [(name, QosParameters.defaultQos kind)] }) ∨
    s.registerSensorQosParam name (QosParameters.defaultQos kind) result =
      { s with
        params := Function.update s.params name (QosParameters.defaultQos kind)
        server := Function.update s.server name result } := by
  cases result with
  | string value =>
    unfold QosParameters.registerSensorQosParam
    by_cases hdefault : value = QosParameters.defaultQos kind
    · subst hdefault
      exact .inl ⟨_, defaultQos_mem kind, rfl, by simp⟩
    · by_cases hknown : value ∈ knownQos
      · exact .inl ⟨value, hknown, rfl, by simp [hdefault, QosParameters.paramFunction, hknown]⟩
      · exact .inr (.inl ⟨value, hknown, rfl, by
          simp [hdefault, QosParameters.paramFunction, hknown, QosParameters.queueSetRosValue]⟩)
  | _ => exact .inr (.inr rfl)

theorem step_set {otherThrew : Bool} (h : qosParameters.step s (.set parameters otherThrew) = some s') :
    (∀ p ∈ parameters, p.1 ∈ s.paramFunctions) ∧ s' = (s.setParameters parameters otherThrew).1 := by
  obtain ⟨hnames, hs⟩ := Option.ite_none_right_eq_some.mp h
  exact ⟨fun p hp => (hnames p hp).1, (Option.some.inj hs).symm⟩

theorem step_beginUpdate (h : qosParameters.step s .beginUpdate = some s') :
    ∃ name value updateFunctions, s.setting = none ∧
      s.updateFunctions = (name, value) :: updateFunctions ∧
      s' = { s with
        updateFunctions, selfSetParameters := s.selfSetParameters ++ [name]
        setting := some (name, value) } := by
  rcases hsetting : s.setting with _ | p
  · rcases hupdates : s.updateFunctions with _ | ⟨⟨name, value⟩, updateFunctions⟩
    · simp [qosParameters, hsetting, hupdates] at h
    · simp only [qosParameters, hsetting, hupdates, Option.some.injEq] at h
      exact ⟨name, value, updateFunctions, rfl, rfl, h.symm⟩
  · simp [qosParameters, hsetting] at h

theorem step_readType (h : qosParameters.step s .readType = some s') :
    ∃ name value, s.setting = some (name, value) ∧
      s' = { s with current := some (s.server name) } := by
  rcases hsetting : s.setting with _ | ⟨name, value⟩
  · simp [qosParameters, hsetting] at h
  · rcases hcurrent : s.current with _ | current
    · simp only [qosParameters, hsetting, hcurrent] at h
      obtain ⟨-, hs⟩ := Option.ite_none_left_eq_some.mp h
      exact ⟨name, value, rfl, (Option.some.inj hs).symm⟩
    · simp [qosParameters, hsetting, hcurrent] at h

theorem setParameters_singleton (s : QosParameters) (name : String) (value : ParameterValue) :
    s.setParameters [(name, value)] false =
      if (s.onSetParameter name value).2 then
        ({ (s.onSetParameter name value).1 with
          server := Function.update (s.onSetParameter name value).1.server name value }, true)
      else ((s.onSetParameter name value).1, false) := by
  simp [QosParameters.setParameters, QosParameters.onSetParameters, QosParameters.store]

/-- A known value is accepted. -/
theorem onSetParameter_known {value : String} (hname : name ∈ s.paramFunctions)
    (hvalue : value ∈ knownQos) :
    name ∈ s.selfSetParameters ∧ s.onSetParameter name (.string value) =
        ({ s with selfSetParameters := s.selfSetParameters.erase name }, true) ∨
      name ∉ s.selfSetParameters ∧ s.onSetParameter name (.string value) =
        ({ s with params := Function.update s.params name value }, true) := by
  generalize hr : s.onSetParameter name (.string value) = r
  have htaken := taken_onSetParameter hname (.string value)
  rw [hr] at htaken
  cases htaken with
  | unseen hself => exact .inl ⟨hself, rfl⟩
  | known hself => exact .inr ⟨hself, rfl⟩
  | unknown _ hunknown => exact absurd hvalue hunknown
  | refused _ hnot => exact absurd rfl (hnot value)

/-- A value that is no string is refused, if the name is not on the list. -/
theorem onSetParameter_refused (hname : name ∈ s.paramFunctions) (hself : name ∉ s.selfSetParameters)
    (hvalue : ∀ t, value ≠ .string t) : s.onSetParameter name value = (s, false) := by
  generalize hr : s.onSetParameter name value = r
  have htaken := taken_onSetParameter hname value
  rw [hr] at htaken
  cases htaken with
  | unseen hmem => exact absurd hmem hself
  | known => exact absurd rfl (hvalue _)
  | unknown => exact absurd rfl (hvalue _)
  | refused => rfl

/-- What is set, for a parameter that is no string, is no string. -/
theorem ne_string_of_valueToSet {current : ParameterValue} {t : String}
    (hcurrent : ∀ t, current ≠ .string t) (h : value ∈ QosParameters.valueToSet t current) :
    ∀ t, value ≠ .string t := by
  cases current with
  | string t => exact absurd rfl (hcurrent t)
  | notSet | array => cases h
  | bool | integer | double =>
    cases h
    exact nofun

/-- The thread only survives an update if the type is that of a string. -/
theorem step_finishUpdate (h : qosParameters.step s .finishUpdate = some s')
    (hsetting : ∀ p ∈ s.setting, p.1 ∈ s.paramFunctions ∧ p.2 ∈ knownQos)
    (hcurrent : ∀ v ∈ s.current, (∃ t, v = .string t) ∨ s.selfSetParameters = []) :
    ∃ name value, s.setting = some (name, value) ∧
      (name ∈ s.selfSetParameters ∧ s' =
          { s with
            selfSetParameters := s.selfSetParameters.erase name
            server := Function.update s.server name (.string value)
            setting := none
            current := none } ∨
        name ∉ s.selfSetParameters ∧ s' =
          { s with
            params := Function.update s.params name value
            server := Function.update s.server name (.string value)
            setting := none
            current := none }) := by
  rcases hs : s.setting with _ | ⟨name, value⟩
  · simp [qosParameters, hs] at h
  · rcases hc : s.current with _ | current
    · simp [qosParameters, hs, hc] at h
    · obtain ⟨hname, hknown⟩ := hsetting _ hs
      simp only [qosParameters, hs, hc] at h
      by_cases hstring : ∃ t, current = .string t
      · obtain ⟨t, rfl⟩ := hstring
        simp only [QosParameters.valueToSet] at h
        obtain ⟨-, h⟩ := Option.ite_none_left_eq_some.mp h
        refine ⟨name, value, rfl, ?_⟩
        rcases onSetParameter_known hname hknown with ⟨hself, hset⟩ | ⟨hself, hset⟩
        · simp only [setParameters_singleton, hset, if_true, Option.some.injEq] at h
          exact .inl ⟨hself, h.symm⟩
        · simp only [setParameters_singleton, hset, if_true, Option.some.injEq] at h
          exact .inr ⟨hself, h.symm⟩
      · -- the parameter is not set, and there is no name for `pop_back`
        have hself : s.selfSetParameters = [] := (hcurrent current hc).resolve_left hstring
        have hnone : s.notSuccessful = none := by rw [QosParameters.notSuccessful, if_pos hself]
        have hnot : name ∉ s.selfSetParameters := by
          rw [hself]
          exact List.not_mem_nil
        rcases hset : QosParameters.valueToSet value current with _ | value'
        · simp [hset, hnone] at h
        · have hrefused := onSetParameter_refused hname hnot
            (ne_string_of_valueToSet (not_exists.mp hstring) hset)
          simp only [hset, setParameters_singleton, hrefused, Bool.false_eq_true, if_false] at h
          obtain ⟨-, h⟩ := Option.ite_none_left_eq_some.mp h
          rw [hnone] at h
          cases h

end Steps

/-! ## No unknown value stays -/

/-- What the server may say of a parameter. -/
inductive Shows (s : QosParameters) (name : String) : ParameterValue → Prop
  | known {value : String} : value ∈ knownQos → Shows s name (.string value)
  | unknown {value : String} : s.Reverting name → Shows s name (.string value)
  /-- The callback has not looked at it: the name was on the list. -/
  | unseen {value : ParameterValue} {value' : String} : s.setting = some (name, value') →
      s.selfSetParameters = [] → Shows s name value

/-- What holds at any time. -/
structure Sound (s : QosParameters) : Prop where
  params : ∀ name ∈ s.paramFunctions, s.params name ∈ knownQos
  underWay : ∀ p ∈ s.underWay, p.1 ∈ s.paramFunctions ∧ p.2 ∈ knownQos
  selfSet : s.selfSetParameters = [] ∨ ∃ p, s.setting = some p ∧ s.selfSetParameters = [p.1]
  idle : s.setting = none → s.current = none
  current : ∀ v ∈ s.current, (∃ t, v = .string t) ∨ s.selfSetParameters = []
  server : ∀ name ∈ s.paramFunctions, Shows s name (s.server name)

section Sound

variable {s s' s'' : QosParameters} {e : QosEvent} {name : String} {value : ParameterValue}
  {result : ParameterValue} {parameters : List (String × ParameterValue)} {es : List QosEvent}

theorem Shows.string_or (h : Shows s name value) :
    (∃ t, value = .string t) ∨ s.selfSetParameters = [] := by
  cases h with
  | known => exact .inl ⟨_, rfl⟩
  | unknown => exact .inl ⟨_, rfl⟩
  | unseen _ hself => exact .inr hself

theorem Shows.known_or (h : Shows s name value) :
    (∃ t ∈ knownQos, value = .string t) ∨ s.Reverting name := by
  cases h with
  | known hvalue => exact .inl ⟨_, hvalue, rfl⟩
  | unknown hrevert => exact .inr hrevert
  | unseen hsetting => exact .inr (by simp [QosParameters.Reverting, QosParameters.underWay, hsetting])

theorem Shows.mono (h : Shows s name value) (hrevert : s.Reverting name → s'.Reverting name)
    (hunseen : ∀ t, s.setting = some (name, t) ∧ s.selfSetParameters = [] →
      s'.setting = some (name, t) ∧ s'.selfSetParameters = []) :
    Shows s' name value := by
  cases h with
  | known hvalue => exact .known hvalue
  | unknown h => exact .unknown (hrevert h)
  | unseen hsetting hself =>
    obtain ⟨hsetting', hself'⟩ := hunseen _ ⟨hsetting, hself⟩
    exact .unseen hsetting' hself'

theorem Sound.params_update (h : Sound s) {value : String} (hvalue : value ∈ knownQos) {n : String}
    (hn : n ∈ s.paramFunctions) : Function.update s.params name value n ∈ knownQos := by
  rcases eq_or_ne n name with rfl | hne
  · rwa [Function.update_self]
  · rw [Function.update_of_ne hne]
    exact h.params n hn

/-- An update is queued. -/
theorem Sound.queue (h : Sound s) (hname : name ∈ s.paramFunctions) {value : String}
    (hvalue : value ∈ knownQos) :
    Sound { s with updateFunctions := s.updateFunctions ++ [(name, value)] } := by
  refine ⟨h.params, ?_, h.selfSet, h.idle, h.current, ?_⟩
  · intro p hp
    simp only [QosParameters.underWay, ← List.append_assoc] at hp
    rcases List.mem_append.mp hp with hp | hp
    · exact h.underWay p hp
    · obtain rfl := List.mem_singleton.mp hp
      exact ⟨hname, hvalue⟩
  · intro n hn
    refine (h.server n hn).mono (fun hrevert => ?_) fun _ => id
    simp only [QosParameters.Reverting, QosParameters.underWay, List.map_append, List.mem_append]
      at hrevert ⊢
    exact hrevert.imp_right Or.inl

/-- What the callback keeps. -/
structure Answered (s s' : QosParameters) : Prop where
  sound : Sound s'
  paramFunctions : s'.paramFunctions = s.paramFunctions
  server : s'.server = s.server
  setting : s'.setting = s.setting
  current : s'.current = s.current
  selfSet : s.selfSetParameters = [] → s'.selfSetParameters = []
  reverting : ∀ name, s.Reverting name → s'.Reverting name

theorem Answered.shows (h : Answered s s') (hshows : Shows s name value) : Shows s' name value :=
  hshows.mono (h.reverting name) fun _ hseen => ⟨h.setting.trans hseen.1, h.selfSet hseen.2⟩

theorem Answered.refl (h : Sound s) : Answered s s := ⟨h, rfl, rfl, rfl, rfl, id, fun _ => id⟩

theorem Answered.trans (h : Answered s s') (h' : Answered s' s'') : Answered s s'' where
  sound := h'.sound
  paramFunctions := h'.paramFunctions.trans h.paramFunctions
  server := h'.server.trans h.server
  setting := h'.setting.trans h.setting
  current := h'.current.trans h.current
  selfSet hnil := h'.selfSet (h.selfSet hnil)
  reverting name hrevert := h'.reverting name (h.reverting name hrevert)

theorem answered_onSetParameter (h : Sound s) (hname : name ∈ s.paramFunctions)
    (value : ParameterValue) :
    Answered s (s.onSetParameter name value).1 ∧
      ((s.onSetParameter name value).2 = true → Shows (s.onSetParameter name value).1 name value) := by
  generalize hr : s.onSetParameter name value = r
  have htaken := taken_onSetParameter hname value
  rw [hr] at htaken
  cases htaken with
  | unseen hself =>
    rcases h.selfSet with hnil | ⟨⟨_, value'⟩, hsetting, hlist⟩
    · simp [hnil] at hself
    · -- it is the name of the update that the thread is in, and the thread will set the parameter again
      rw [hlist, List.mem_singleton] at hself
      subst hself
      have hnil : s.selfSetParameters.erase name = [] := by simp [hlist]
      refine ⟨⟨?_, rfl, rfl, rfl, rfl, fun _ => hnil, fun _ => id⟩, fun _ => .unseen hsetting hnil⟩
      refine ⟨h.params, h.underWay, .inl hnil, h.idle, fun _ _ => .inr hnil, ?_⟩
      intro n hn
      exact (h.server n hn).mono id fun _ hseen => ⟨hseen.1, hnil⟩
  | known _ hvalue =>
    refine ⟨⟨?_, rfl, rfl, rfl, rfl, id, fun _ => id⟩, fun _ => .known hvalue⟩
    refine ⟨fun n hn => h.params_update hvalue hn, h.underWay, h.selfSet, h.idle, h.current, ?_⟩
    exact fun n hn => (h.server n hn).mono id fun _ => id
  | unknown =>
    have hreverting : ∀ n, s.Reverting n ∨ n = name →
        QosParameters.Reverting
          { s with updateFunctions := s.updateFunctions ++ [(name, s.params name)] } n := by
      intro n hn
      simp only [QosParameters.Reverting, QosParameters.underWay, List.map_append, List.mem_append]
        at hn ⊢
      simpa [or_assoc] using hn
    refine ⟨⟨h.queue hname (h.params name hname), rfl, rfl, rfl, rfl, id, ?_⟩, ?_⟩
    · exact fun n hn => hreverting n (.inl hn)
    · intro _
      exact .unknown (hreverting name (.inr rfl))
  | refused => exact ⟨.refl h, nofun⟩

theorem answered_onSetParameters (h : Sound s) (hnames : ∀ p ∈ parameters, p.1 ∈ s.paramFunctions) :
    Answered s (s.onSetParameters parameters).1 ∧
      ((s.onSetParameters parameters).2 = true →
        ∀ p ∈ parameters, Shows (s.onSetParameters parameters).1 p.1 p.2) := by
  induction parameters generalizing s with
  | nil => exact ⟨.refl h, fun _ => nofun⟩
  | cons p parameters ih =>
    obtain ⟨hp, hshows⟩ := answered_onSetParameter h (hnames p List.mem_cons_self) p.2
    obtain ⟨hrest, hrestShows⟩ := ih hp.sound fun q hq => by
      rw [hp.paramFunctions]
      exact hnames q (List.mem_cons_of_mem p hq)
    refine ⟨hp.trans hrest, ?_⟩
    intro hsuccessful
    obtain ⟨hfirst, hsecond⟩ := Bool.and_eq_true_iff.mp hsuccessful
    exact List.forall_mem_cons.mpr ⟨hrest.shows (hshows hfirst), hrestShows hsecond⟩

/-- The values that the callback has accepted are stored. -/
theorem Sound.store (h : Sound s) (hshows : ∀ p ∈ parameters, Shows s p.1 p.2) :
    Sound { s with server := QosParameters.store s.server parameters } := by
  refine ⟨h.params, h.underWay, h.selfSet, h.idle, h.current, ?_⟩
  intro n hn
  have hstored : Shows s n (QosParameters.store s.server parameters n) := by
    rcases store_cases s.server parameters n with hsame | hmem
    · rw [hsame]
      exact h.server n hn
    · exact hshows _ hmem
  exact hstored.mono id fun _ => id

theorem setParameters_fst (s : QosParameters) (parameters : List (String × ParameterValue))
    (otherThrew : Bool) :
    (s.setParameters parameters otherThrew).1 =
      if (s.onSetParameters parameters).2 = true ∧ ¬ otherThrew = true then
        { (s.onSetParameters parameters).1 with
          server := QosParameters.store (s.onSetParameters parameters).1.server parameters }
      else (s.onSetParameters parameters).1 := by
  rw [QosParameters.setParameters]
  exact apply_ite Prod.fst _ _ _

theorem sound_setParameters (h : Sound s) (hnames : ∀ p ∈ parameters, p.1 ∈ s.paramFunctions)
    (otherThrew : Bool) : Sound (s.setParameters parameters otherThrew).1 := by
  obtain ⟨hanswered, hshows⟩ := answered_onSetParameters h hnames
  rw [setParameters_fst]
  split
  · next haccepted => exact hanswered.sound.store (hshows haccepted.1)
  · exact hanswered.sound

/-- A parameter that is declared, with an update if its value is to be taken back. -/
theorem Sound.declare (h : Sound s) (hnew : name ∉ s.paramFunctions) {value : String}
    (hvalue : value ∈ knownQos) {updates : List (String × String)}
    (hupdates : ∀ p ∈ updates, p = (name, value)) {result : String}
    (hresult : result ∈ knownQos ∨ updates ≠ []) :
    Sound { s with
      params := Function.update s.params name value
      server := Function.update s.server name (.string result)
      paramFunctions := s.paramFunctions ++ [name]
      updateFunctions := s.updateFunctions ++ updates } := by
  have hne : ∀ n ∈ s.paramFunctions, n ≠ name := by
    rintro n hn rfl
    exact hnew hn
  refine ⟨?_, ?_, h.selfSet, h.idle, h.current, ?_⟩
  · intro n hn
    rcases List.mem_append.mp hn with hn | hn
    · exact h.params_update hvalue hn
    · obtain rfl := List.mem_singleton.mp hn
      simpa using hvalue
  · intro p hp
    simp only [QosParameters.underWay, ← List.append_assoc] at hp
    rcases List.mem_append.mp hp with hp | hp
    · obtain ⟨hmem, hknown⟩ := h.underWay p hp
      exact ⟨List.mem_append_left _ hmem, hknown⟩
    · rw [hupdates p hp]
      exact ⟨by simp, hvalue⟩
  · intro n hn
    rcases List.mem_append.mp hn with hn | hn
    · simp only [Function.update_of_ne (hne n hn)]
      refine (h.server n hn).mono (fun hrevert => ?_) fun _ => id
      simp only [QosParameters.Reverting, QosParameters.underWay, List.map_append, List.mem_append]
        at hrevert ⊢
      exact hrevert.imp_right Or.inl
    · obtain rfl := List.mem_singleton.mp hn
      simp only [Function.update_self]
      rcases hresult with hknown | hnil
      · exact .known hknown
      · obtain ⟨p, hp⟩ := List.exists_mem_of_ne_nil _ hnil
        refine .unknown ?_
        have hfst : p.1 = n := by rw [hupdates p hp]
        simp only [QosParameters.Reverting, QosParameters.underWay, List.map_append, List.mem_append]
        exact .inr (.inr (List.mem_map.mpr ⟨p, hp, hfst⟩))

theorem sound_register (h : Sound s) (hnew : name ∉ s.paramFunctions) (kind : QosKind)
    (result : ParameterValue) :
    Sound (s.registerSensorQosParam name (QosParameters.defaultQos kind) result) := by
  have hdefault := defaultQos_mem kind
  rcases registerSensorQosParam_cases s name result kind with
    ⟨value, hvalue, rfl, hs⟩ | ⟨value, -, rfl, hs⟩ | hs
  · rw [hs]
    have hnone : ∀ p ∈ ([] : List (String × String)), p = (name, value) := nofun
    simpa using h.declare hnew hvalue hnone (Or.inl hvalue)
  · rw [hs]
    exact h.declare hnew hdefault (fun p hp => List.mem_singleton.mp hp) (Or.inr (List.cons_ne_nil _ _))
  · -- it gets no function
    rw [hs]
    have hne : ∀ n ∈ s.paramFunctions, n ≠ name := by
      rintro n hn rfl
      exact hnew hn
    refine ⟨fun n hn => h.params_update hdefault hn, h.underWay, h.selfSet, h.idle, h.current, ?_⟩
    intro n hn
    simp only [Function.update_of_ne (hne n hn)]
    exact (h.server n hn).mono id fun _ => id

theorem sound_beginUpdate (h : Sound s) (hs : qosParameters.step s .beginUpdate = some s') :
    Sound s' := by
  obtain ⟨name, value, updateFunctions, hsetting, hupdates, rfl⟩ := step_beginUpdate hs
  have hself : s.selfSetParameters = [] := by
    rcases h.selfSet with hnone | ⟨p, hp, -⟩
    · exact hnone
    · simp [hsetting] at hp
  -- the update moves from the queue to the thread
  have hway : s.underWay = (name, value) :: updateFunctions := by
    simp [QosParameters.underWay, hsetting, hupdates]
  refine ⟨h.params, fun p hp => h.underWay p ?_, .inr ⟨(name, value), rfl, by simp [hself]⟩, nofun, ?_,
    fun n hn => (h.server n hn).mono (fun hrevert => ?_) fun t hseen => ?_⟩
  · rw [hway]
    exact hp
  · intro v hv
    rw [h.idle hsetting] at hv
    cases hv
  · rw [QosParameters.Reverting, hway] at hrevert
    exact hrevert
  · rw [hsetting] at hseen
    cases hseen.1

theorem sound_readType (h : Sound s) (hs : qosParameters.step s .readType = some s') : Sound s' := by
  obtain ⟨name, value, hsetting, rfl⟩ := step_readType hs
  have hname : name ∈ s.paramFunctions :=
    (h.underWay (name, value) (by simp [QosParameters.underWay, hsetting])).1
  refine ⟨h.params, h.underWay, h.selfSet, ?_, ?_, ?_⟩
  · intro hnone
    rw [hsetting] at hnone
    cases hnone
  · rintro v ⟨⟩
    exact (h.server name hname).string_or
  · intro n hn
    exact (h.server n hn).mono id fun _ => id

theorem Sound.setting (h : Sound s) : ∀ p ∈ s.setting, p.1 ∈ s.paramFunctions ∧ p.2 ∈ knownQos := by
  intro p hp
  exact h.underWay p (List.mem_append_left _ (Option.mem_toList.mpr hp))

theorem Sound.finish (h : Sound s) {value : String} (hsetting : s.setting = some (name, value))
    {params : String → String} (hparams : ∀ n ∈ s.paramFunctions, params n ∈ knownQos) :
    Sound { s with
      params
      selfSetParameters := []
      server := Function.update s.server name (.string value)
      setting := none
      current := none } := by
  have hway : s.underWay = (name, value) :: s.updateFunctions := by
    simp [QosParameters.underWay, hsetting]
  refine ⟨hparams, fun p hp => h.underWay p ?_, .inl rfl, fun _ => rfl, nofun, ?_⟩
  · rw [hway]
    exact List.mem_cons_of_mem _ hp
  · intro n hn
    rcases eq_or_ne n name with rfl | hne
    · simp only [Function.update_self]
      exact .known (h.setting _ hsetting).2
    · simp only [Function.update_of_ne hne]
      refine (h.server n hn).mono (fun hrevert => ?_) fun t hseen => ?_
      · rw [QosParameters.Reverting, hway, List.map_cons, List.mem_cons] at hrevert
        exact hrevert.resolve_left hne
      · rw [hsetting] at hseen
        cases hseen.1
        exact absurd rfl hne

theorem sound_finishUpdate (h : Sound s) (hs : qosParameters.step s .finishUpdate = some s') :
    Sound s' := by
  obtain ⟨name, value, hsetting, ⟨hself, rfl⟩ | ⟨hself, rfl⟩⟩ := step_finishUpdate hs h.setting h.current
  · -- the name is on the list, and is taken off it
    have herase : s.selfSetParameters.erase name = [] := by
      rcases h.selfSet with hnil | ⟨p, -, hlist⟩
      · simp [hnil]
      · rw [hlist, List.mem_singleton] at hself
        simp [hlist, hself]
    rw [herase]
    exact h.finish hsetting h.params
  · -- a user's value has taken it off: the callback looks at the value of the thread, which is known
    have hnil : s.selfSetParameters = [] := by
      rcases h.selfSet with hnil | ⟨p, hp, hlist⟩
      · exact hnil
      · obtain rfl := Option.some.inj (hsetting.symm.trans hp)
        exact absurd (by simp [hlist]) hself
    rw [hnil]
    exact h.finish hsetting fun n hn => h.params_update (h.setting _ hsetting).2 hn

theorem sound_step (h : Sound s) (hs : qosParameters.step s e = some s') : Sound s' := by
  cases e with
  | register name kind result =>
    obtain ⟨hnew, hs⟩ := Option.ite_none_left_eq_some.mp hs
    obtain rfl := Option.some.inj hs
    exact sound_register h hnew kind result
  | set parameters otherThrew =>
    obtain ⟨hnames, rfl⟩ := step_set hs
    exact sound_setParameters h hnames otherThrew
  | beginUpdate => exact sound_beginUpdate h hs
  | readType => exact sound_readType h hs
  | finishUpdate => exact sound_finishUpdate h hs

theorem sound_of_run (hr : qosParameters.Run es s) : Sound s := by
  have hinit : Sound qosParameters.init :=
    ⟨by simp [qosParameters], by simp [qosParameters, QosParameters.underWay], .inl rfl, fun _ => rfl,
      nofun, by simp [qosParameters]⟩
  exact hr.invariant hinit fun h hs _ => sound_step h hs

/--
**Whatever the users set and whenever: the program goes on with known values only, and when no update is
under way, the server has none but known values either.**
-/
theorem unknown_taken_back (hr : qosParameters.Run es s) (hname : name ∈ s.paramFunctions) :
    s.params name ∈ knownQos ∧
      (s.underWay = [] → ∃ value ∈ knownQos, s.server name = .string value) := by
  have h := sound_of_run hr
  refine ⟨h.params name hname, fun hdone => (h.server name hname).known_or.resolve_right ?_⟩
  intro hrevert
  simp [QosParameters.Reverting, hdone] at hrevert

end Sound

/-- A user sets an unknown value, and while the thread takes it back a value that is no string: the
callback does not look at it, and the thread sets the parameter all the same. -/
theorem unknown_taken_back_unseen : ∃ s value, qosParameters.Run
      [.register "color_qos" .image (.string "SYSTEM_DEFAULT"), .set [("color_qos", .string "best")] false,
        .beginUpdate, .readType, .set [("color_qos", .integer)] false, .finishUpdate] s ∧
    s.underWay = [] ∧ value ∈ knownQos ∧ s.server "color_qos" = .string value := by
  have hrun : ∃ s ∈ qosParameters.exec
      [.register "color_qos" .image (.string "SYSTEM_DEFAULT"), .set [("color_qos", .string "best")] false,
        .beginUpdate, .readType, .set [("color_qos", .integer)] false, .finishUpdate],
      "color_qos" ∈ s.paramFunctions ∧ s.underWay = [] := by
    decide +kernel
  obtain ⟨s, hr, hname, hdone⟩ := Machine.run_of_exec_mem hrun
  obtain ⟨value, hknown, hserver⟩ := (unknown_taken_back hr hname).2 hdone
  exact ⟨s, value, hr, hdone, hknown, hserver⟩

/-- Before the thread has asked for the type, it would not survive that: `pop_back` finds no name. -/
example : (qosParameters.exec
    [.register "color_qos" .image (.string "SYSTEM_DEFAULT"), .set [("color_qos", .string "best")] false,
      .beginUpdate, .set [("color_qos", .integer)] false, .readType, .finishUpdate]).isNone := by
  decide +kernel

/-! ## The server and the program -/

/-- A value that `qos_string_to_qos` does not throw for. -/
def Known (value : ParameterValue) : Prop := ∃ t ∈ knownQos, value = .string t

instance : (value : ParameterValue) → Decidable (Known value)
  | .string t => decidable_of_iff (t ∈ knownQos) (by simp [Known])
  | .notSet | .bool | .integer | .double | .array => .isFalse (by simp [Known])

/-- A request names no parameter twice and none that is being taken back; and it is accepted, or none of
its values is known. -/
def Apart (s : QosParameters) : QosEvent → Prop
  | .set parameters otherThrew =>
    (parameters.map Prod.fst).Nodup ∧ (∀ p ∈ parameters, ¬ s.Reverting p.1) ∧
      ((∀ p ∈ parameters, p.2.isString) ∧ ¬ otherThrew ∨ ∀ p ∈ parameters, ¬ Known p.2)
  | _ => True

instance (s : QosParameters) : (e : QosEvent) → Decidable (Apart s e)
  | .set .. => inferInstanceAs (Decidable (_ ∧ _))
  | .register .. | .beginUpdate | .readType | .finishUpdate => .isTrue trivial

namespace QosParameters

/-- The updates of one parameter that are still to come. -/
def pending (s : QosParameters) (name : String) : List (String × String) :=
  s.underWay.filter fun p => p.1 = name

theorem pending_eq_nil {s : QosParameters} {name : String} :
    s.pending name = [] ↔ ¬ s.Reverting name := by
  simp only [pending, Reverting, List.filter_eq_nil_iff, List.mem_map, decide_eq_true_eq, not_exists,
    not_and]

/-- The server says what the program goes on with, or will be told so and nothing else. -/
def Agrees (s : QosParameters) (name : String) : Prop :=
  s.pending name = [] ∧ s.server name = .string (s.params name) ∨
    s.pending name = [(name, s.params name)]

end QosParameters

/-- What holds in addition as long as the requests are like that. -/
structure Agreement (s : QosParameters) : Prop where
  selfSet : s.selfSetParameters = (s.setting.map Prod.fst).toList
  agrees : ∀ name ∈ s.paramFunctions, s.Agrees name

section Agreement

variable {s s' : QosParameters} {e : QosEvent} {name : String} {value : ParameterValue}
  {parameters : List (String × ParameterValue)} {es : List QosEvent}

/-- Where nothing of a parameter has changed. -/
theorem QosParameters.Agrees.congr (h : s.Agrees name) (hpending : s'.pending name = s.pending name)
    (hserver : s'.server name = s.server name) (hparams : s'.params name = s.params name) :
    s'.Agrees name := by
  rw [QosParameters.Agrees, hpending, hserver, hparams]
  exact h

theorem Agreement.not_mem_selfSet (h : Agreement s) (hapart : ¬ s.Reverting name) :
    name ∉ s.selfSetParameters := by
  rw [h.selfSet]
  intro hmem
  obtain ⟨p, hsetting, rfl⟩ := Option.map_eq_some_iff.mp (Option.mem_toList.mp hmem)
  exact hapart (by simp [QosParameters.Reverting, QosParameters.underWay, hsetting])

/-- What the callback does not look at does not matter to it. -/
theorem onSetParameter_server (s : QosParameters) (name : String) (value : ParameterValue)
    (server : String → ParameterValue) :
    QosParameters.onSetParameter { s with server } name value =
      ({ (s.onSetParameter name value).1 with server }, (s.onSetParameter name value).2) := by
  unfold QosParameters.onSetParameter
  split_ifs
  · rfl
  · cases value with
    | string value =>
      by_cases hvalue : value ∈ knownQos
      · simp [QosParameters.paramFunction, hvalue]
      · simp [QosParameters.paramFunction, hvalue, QosParameters.queueSetRosValue]
    | _ => rfl
  · rfl

theorem onSetParameters_server (s : QosParameters) (parameters : List (String × ParameterValue))
    (server : String → ParameterValue) :
    QosParameters.onSetParameters { s with server } parameters =
      ({ (s.onSetParameters parameters).1 with server }, (s.onSetParameters parameters).2) := by
  induction parameters generalizing s with
  | nil => rfl
  | cons p parameters ih =>
    simp only [QosParameters.onSetParameters, onSetParameter_server, ih]

/-- The names that come later in the request are not being taken back either. -/
theorem apart_onSetParameter (hname : name ∈ s.paramFunctions) (value : ParameterValue)
    (hnew : name ∉ parameters.map Prod.fst) (hnames : ∀ p ∈ parameters, p.1 ∈ s.paramFunctions)
    (hapart : ∀ p ∈ parameters, ¬ s.Reverting p.1) :
    (∀ p ∈ parameters, p.1 ∈ (s.onSetParameter name value).1.paramFunctions) ∧
      ∀ p ∈ parameters, ¬ (s.onSetParameter name value).1.Reverting p.1 := by
  have hne : ∀ p ∈ parameters, p.1 ≠ name := fun p hp => ne_of_mem_of_not_mem (List.mem_map_of_mem hp) hnew
  generalize hr : s.onSetParameter name value = r
  have htaken := taken_onSetParameter hname value
  rw [hr] at htaken
  cases htaken with
  | unknown =>
    refine ⟨hnames, fun p hp hrevert => hapart p hp ?_⟩
    simpa [QosParameters.Reverting, QosParameters.underWay, hne p hp] using hrevert
  | _ => exact ⟨hnames, hapart⟩

theorem server_onSetParameters (s : QosParameters) (parameters : List (String × ParameterValue)) :
    (s.onSetParameters parameters).1.server = s.server :=
  congrArg (·.1.server) (onSetParameters_server s parameters s.server)

/-- An update is queued for a parameter that is not being taken back. -/
theorem Agreement.queue (h : Agreement s) (hapart : ¬ s.Reverting name)
    (server : String → ParameterValue) (hserver : ∀ n, n ≠ name → server n = s.server n) :
    Agreement { s with
      server, updateFunctions := s.updateFunctions ++ [(name, s.params name)] } := by
  refine ⟨h.selfSet, ?_⟩
  intro n hn
  rcases eq_or_ne n name with rfl | hne
  · have hnone := QosParameters.pending_eq_nil.mpr hapart
    refine .inr ?_
    simp only [QosParameters.pending, QosParameters.underWay, ← List.append_assoc] at hnone ⊢
    rw [List.filter_append, hnone]
    simp
  · refine (h.agrees n hn).congr ?_ (hserver n hne) rfl
    simp [QosParameters.pending, QosParameters.underWay, Ne.symm hne]

/-- One string of a request that is accepted. -/
theorem agreement_accepted (h : Agreement s) (hname : name ∈ s.paramFunctions)
    (hapart : ¬ s.Reverting name) (value : String) :
    (s.onSetParameter name (.string value)).2 = true ∧
      Agreement { (s.onSetParameter name (.string value)).1 with
        server := Function.update s.server name (.string value) } := by
  have hself := h.not_mem_selfSet hapart
  generalize hr : s.onSetParameter name (.string value) = r
  have htaken := taken_onSetParameter hname (.string value)
  rw [hr] at htaken
  cases htaken with
  | unseen hmem => exact absurd hmem hself
  | known =>
    refine ⟨rfl, h.selfSet, ?_⟩
    intro n hn
    rcases eq_or_ne n name with rfl | hne
    · exact .inl ⟨QosParameters.pending_eq_nil.mpr hapart, by simp⟩
    · exact (h.agrees n hn).congr rfl (Function.update_of_ne hne _ _) (Function.update_of_ne hne _ _)
  | unknown => exact ⟨rfl, h.queue hapart _ fun n hne => Function.update_of_ne hne _ _⟩
  | refused _ hnot => exact absurd rfl (hnot value)

/-- One value of a request that is refused. -/
theorem agreement_refused (h : Agreement s) (hname : name ∈ s.paramFunctions)
    (hapart : ¬ s.Reverting name) (hvalue : ¬ Known value) :
    Agreement (s.onSetParameter name value).1 ∧
      ((s.onSetParameter name value).2 = true → value.isString) := by
  have hself := h.not_mem_selfSet hapart
  generalize hr : s.onSetParameter name value = r
  have htaken := taken_onSetParameter hname value
  rw [hr] at htaken
  cases htaken with
  | unseen hmem => exact absurd hmem hself
  | known _ hknown => exact absurd ⟨_, hknown, rfl⟩ hvalue
  | unknown => exact ⟨h.queue hapart s.server fun _ _ => rfl, fun _ => rfl⟩
  | refused => exact ⟨h, nofun⟩

/-- A request that is accepted. -/
theorem agreement_onSetParameters (h : Agreement s) (hnames : ∀ p ∈ parameters, p.1 ∈ s.paramFunctions)
    (hnodup : (parameters.map Prod.fst).Nodup) (hapart : ∀ p ∈ parameters, ¬ s.Reverting p.1)
    (hstrings : ∀ p ∈ parameters, p.2.isString) :
    (s.onSetParameters parameters).2 = true ∧
      Agreement { (s.onSetParameters parameters).1 with
        server := QosParameters.store s.server parameters } := by
  induction parameters generalizing s with
  | nil => exact ⟨rfl, h⟩
  | cons p parameters ih =>
    obtain ⟨hname, hnames'⟩ := List.forall_mem_cons.mp hnames
    obtain ⟨hnot, hapart'⟩ := List.forall_mem_cons.mp hapart
    obtain ⟨hstring, hstrings'⟩ := List.forall_mem_cons.mp hstrings
    obtain ⟨hnew, hnodup'⟩ := List.nodup_cons.mp hnodup
    obtain ⟨t, ht⟩ : ∃ t, p.2 = .string t := by
      cases hvalue : p.2 with
      | string t => exact ⟨t, rfl⟩
      | _ => rw [hvalue] at hstring; cases hstring
    -- the first value is stored before the rest is looked at, which makes no difference to the callback
    obtain ⟨hsuccessful, hagreement⟩ := agreement_accepted h hname hnot t
    rw [← ht] at hsuccessful hagreement
    obtain ⟨hnames'', hapart''⟩ := apart_onSetParameter hname p.2 hnew hnames' hapart'
    have hrest := ih hagreement hnames'' hnodup' hapart'' hstrings'
    rw [onSetParameters_server] at hrest
    obtain ⟨hrestSuccessful, hrestAgreement⟩ := hrest
    refine ⟨?_, hrestAgreement⟩
    simp only [QosParameters.onSetParameters, hsuccessful, Bool.true_and]
    exact hrestSuccessful

/-- A request without known values, where the parameters are as before. -/
theorem agreement_onSetParameters_unknown (h : Agreement s)
    (hnames : ∀ p ∈ parameters, p.1 ∈ s.paramFunctions) (hnodup : (parameters.map Prod.fst).Nodup)
    (hapart : ∀ p ∈ parameters, ¬ s.Reverting p.1) (hunknown : ∀ p ∈ parameters, ¬ Known p.2) :
    Agreement (s.onSetParameters parameters).1 ∧
      ((s.onSetParameters parameters).2 = true → ∀ p ∈ parameters, p.2.isString) := by
  induction parameters generalizing s with
  | nil => exact ⟨h, fun _ => nofun⟩
  | cons p parameters ih =>
    obtain ⟨hname, hnames'⟩ := List.forall_mem_cons.mp hnames
    obtain ⟨hnot, hapart'⟩ := List.forall_mem_cons.mp hapart
    obtain ⟨hvalue, hunknown'⟩ := List.forall_mem_cons.mp hunknown
    obtain ⟨hnew, hnodup'⟩ := List.nodup_cons.mp hnodup
    obtain ⟨hagreement, hstring⟩ := agreement_refused h hname hnot hvalue
    obtain ⟨hnames'', hapart''⟩ := apart_onSetParameter hname p.2 hnew hnames' hapart'
    obtain ⟨hrest, hstrings⟩ := ih hagreement hnames'' hnodup' hapart'' hunknown'
    refine ⟨hrest, ?_⟩
    intro hsuccessful
    obtain ⟨hfirst, hsecond⟩ := Bool.and_eq_true_iff.mp hsuccessful
    exact List.forall_mem_cons.mpr ⟨hstring hfirst, hstrings hsecond⟩

theorem agreement_setParameters (h : Agreement s) (hnames : ∀ p ∈ parameters, p.1 ∈ s.paramFunctions)
    {otherThrew : Bool} (hapart : Apart s (.set parameters otherThrew)) :
    Agreement (s.setParameters parameters otherThrew).1 := by
  obtain ⟨hnodup, hapart, hrequest⟩ := hapart
  rw [setParameters_fst]
  by_cases haccepted : (∀ p ∈ parameters, p.2.isString) ∧ ¬ otherThrew
  · obtain ⟨hsuccessful, hagreement⟩ := agreement_onSetParameters h hnames hnodup hapart haccepted.1
    rw [if_pos ⟨hsuccessful, haccepted.2⟩, server_onSetParameters]
    exact hagreement
  · -- it is refused: none of its values was known, so the program has taken over none
    obtain ⟨hagreement, hstrings⟩ := agreement_onSetParameters_unknown h hnames hnodup hapart
      (hrequest.resolve_left haccepted)
    rw [if_neg fun hsuccessful => haccepted ⟨hstrings hsuccessful.1, hsuccessful.2⟩]
    exact hagreement

theorem agreement_register (hsound : Sound s) (h : Agreement s) (hnew : name ∉ s.paramFunctions)
    (kind : QosKind) (result : ParameterValue) :
    Agreement (s.registerSensorQosParam name (QosParameters.defaultQos kind) result) := by
  have hne : ∀ n ∈ s.paramFunctions, n ≠ name := by
    rintro n hn rfl
    exact hnew hn
  have hnone : s.pending name = [] := by
    refine List.filter_eq_nil_iff.mpr fun p hp => ?_
    simpa using hne p.1 (hsound.underWay p hp).1
  rcases registerSensorQosParam_cases s name result kind with
    ⟨value, -, rfl, hs⟩ | ⟨value, -, rfl, hs⟩ | hs
  · rw [hs]
    refine ⟨h.selfSet, ?_⟩
    intro n hn
    rcases List.mem_append.mp hn with hn | hn
    · exact (h.agrees n hn).congr rfl (Function.update_of_ne (hne n hn) _ _)
        (Function.update_of_ne (hne n hn) _ _)
    · obtain rfl := List.mem_singleton.mp hn
      exact .inl ⟨hnone, by simp⟩
  · rw [hs]
    refine ⟨h.selfSet, ?_⟩
    intro n hn
    rcases List.mem_append.mp hn with hn | hn
    · refine (h.agrees n hn).congr ?_ (Function.update_of_ne (hne n hn) _ _)
        (Function.update_of_ne (hne n hn) _ _)
      simp [QosParameters.pending, QosParameters.underWay, Ne.symm (hne n hn)]
    · obtain rfl := List.mem_singleton.mp hn
      refine .inr ?_
      simp only [QosParameters.pending, QosParameters.underWay, ← List.append_assoc] at hnone ⊢
      rw [List.filter_append, hnone]
      simp
  · rw [hs]
    refine ⟨h.selfSet, ?_⟩
    intro n hn
    exact (h.agrees n hn).congr rfl (Function.update_of_ne (hne n hn) _ _)
      (Function.update_of_ne (hne n hn) _ _)

theorem agreement_beginUpdate (h : Agreement s) (hs : qosParameters.step s .beginUpdate = some s') :
    Agreement s' := by
  obtain ⟨name, value, updateFunctions, hsetting, hupdates, rfl⟩ := step_beginUpdate hs
  refine ⟨by simp [h.selfSet, hsetting], fun n hn => (h.agrees n hn).congr ?_ rfl rfl⟩
  simp [QosParameters.pending, QosParameters.underWay, hsetting, hupdates]

theorem agreement_readType (h : Agreement s) (hs : qosParameters.step s .readType = some s') :
    Agreement s' := by
  obtain ⟨name, value, -, rfl⟩ := step_readType hs
  exact ⟨h.selfSet, fun n hn => (h.agrees n hn).congr rfl rfl rfl⟩

theorem agreement_finishUpdate (hsound : Sound s) (h : Agreement s)
    (hs : qosParameters.step s .finishUpdate = some s') : Agreement s' := by
  obtain ⟨name, value, hsetting, hcases⟩ := step_finishUpdate hs hsound.setting hsound.current
  have hlist : s.selfSetParameters = [name] := by simp [h.selfSet, hsetting]
  obtain ⟨-, rfl⟩ := hcases.resolve_right fun hnot => hnot.1 (by simp [hlist])
  refine ⟨by simp [hlist], ?_⟩
  intro n hn
  rcases eq_or_ne n name with rfl | hne
  · -- the update of this parameter was the only one
    have hpending : s.pending n = (n, value) :: s.updateFunctions.filter fun p => p.1 = n := by
      simp [QosParameters.pending, QosParameters.underWay, hsetting]
    rcases h.agrees n hn with ⟨hnone, -⟩ | hone
    · simp [hpending] at hnone
    · rw [hpending, List.cons.injEq, Prod.mk.injEq] at hone
      obtain ⟨⟨-, rfl⟩, hrest⟩ := hone
      exact .inl ⟨hrest, Function.update_self _ _ _⟩
  · refine (h.agrees n hn).congr ?_ (Function.update_of_ne hne _ _) rfl
    simp [QosParameters.pending, QosParameters.underWay, hsetting, Ne.symm hne]

theorem agreement_step (hsound : Sound s) (h : Agreement s) (hs : qosParameters.step s e = some s')
    (hapart : Apart s e) : Agreement s' := by
  cases e with
  | register name kind result =>
    obtain ⟨hnew, hs⟩ := Option.ite_none_left_eq_some.mp hs
    obtain rfl := Option.some.inj hs
    exact agreement_register hsound h hnew kind result
  | set parameters otherThrew =>
    obtain ⟨hnames, rfl⟩ := step_set hs
    exact agreement_setParameters h hnames hapart
  | beginUpdate => exact agreement_beginUpdate h hs
  | readType => exact agreement_readType h hs
  | finishUpdate => exact agreement_finishUpdate hsound h hs

end Agreement

/-- A known value is set while an unknown one is being taken back: the server goes back too far. -/
example : ∃ s ∈ qosParameters.exec
    [.register "color_qos" .image (.string "SYSTEM_DEFAULT"), .set [("color_qos", .string "best")] false,
      .set [("color_qos", .string "DEFAULT")] false, .beginUpdate, .readType, .finishUpdate],
    s.underWay = [] ∧ s.server "color_qos" = .string "SYSTEM_DEFAULT" ∧
      s.params "color_qos" = "DEFAULT" := by
  decide +kernel

/-- A request is refused, and the program goes on with its first value nevertheless. -/
example : ∃ s ∈ qosParameters.exec
    [.register "color_qos" .image (.string "SYSTEM_DEFAULT"),
      .register "depth_qos" .image (.string "SYSTEM_DEFAULT"),
      .set [("color_qos", .string "DEFAULT"), ("depth_qos", .integer)] false],
    s.underWay = [] ∧ s.server "color_qos" = .string "SYSTEM_DEFAULT" ∧
      s.params "color_qos" = "DEFAULT" := by
  decide +kernel

end Tetra.Camera
