import Mathlib.Data.List.Basic
import Mathlib.Logic.Function.Basic
import Tetra.Lib.FixedPoint

/-!
# The profiles of a sensor

A sensor can stream in many profiles; which one of each stream is opened follows from the parameters.
`addWantedProfiles` goes through all of them and takes, of each stream that is enabled, the first one
that has the values of the parameters. The size of the pictures is a text parameter: a text that no
profile fits is set back to that of the values which are in force.

`wantedProfiles_of_stream` says which profiles are opened, and `setBack_accepted` that a text which is
set back is one that the callback would have taken.
-/

namespace Tetra.Camera

/-! ## The source -/

/-- `rs2_stream`, as far as the source has names for its values. -/
inductive Rs2Stream
  | depth
  | color
  | infrared
  | gyro
  | accel
  | other (id : Nat)
  deriving DecidableEq, Repr

/-- `rs2_format`, likewise. -/
inductive Rs2Format
  | any
  | z16
  | rgb8
  | y8
  | other (id : Nat)
  deriving DecidableEq, Repr

/-- `stream_index_pair` -/
abbrev StreamIndexPair := Rs2Stream × Nat

/-- What a profile can be cast to. -/
inductive ProfileKind
  /-- `rs2::video_stream_profile` -/
  | video (width height : Nat)
  /-- `rs2::motion_stream_profile` -/
  | motion
  | other
  deriving DecidableEq, Repr

/-- `rs2::stream_profile` -/
structure StreamProfile where
  type : Rs2Stream
  index : Nat
  format : Rs2Format
  fps : Nat
  kind : ProfileKind
  isDefault : Bool := false
  deriving DecidableEq, Repr

namespace StreamProfile

def sip (p : StreamProfile) : StreamIndexPair := (p.type, p.index)

def isVideo (p : StreamProfile) : Bool :=
  match p.kind with
  | .video _ _ => true
  | _ => false

def isMotion (p : StreamProfile) : Bool := p.kind = .motion

/-- `VideoProfilesManager::isSameProfileValues` -/
def isSameVideoValues (p : StreamProfile) (width height fps : Nat) (format : Rs2Format) : Bool :=
  match p.kind with
  | .video w h => w = width && h = height && p.fps = fps && (format = .any || p.format = format)
  | _ => false

/-- `isSameProfileValues` with the values of another profile and any format. -/
def isSameSize (p given : StreamProfile) : Bool :=
  match given.kind with
  | .video w h => p.isSameVideoValues w h given.fps .any
  | _ => false

/-- `MotionProfilesManager::isSameProfileValues` -/
def isSameMotionValues (p : StreamProfile) (type : Rs2Stream) (fps : Nat) : Bool :=
  p.type = type && p.fps = fps

/-- `profiles_equal` -/
def equal (a b : StreamProfile) : Bool :=
  (a.type = b.type && a.index = b.index && a.format = b.format && a.fps = b.fps) &&
    match a.kind, b.kind with
    | .video w h, .video w' h' => w = w' && h = h'
    | _, _ => true

end StreamProfile

/-- One turn of the loop: what is wanted so far, and `found_sips`. -/
def addWanted (enabled : StreamIndexPair → Bool) (isWantedProfile : StreamProfile → Bool)
    (s : List StreamProfile × (StreamIndexPair → Option Bool)) (profile : StreamProfile) :
    List StreamProfile × (StreamIndexPair → Option Bool) :=
  if !enabled profile.sip then s
  else if s.2 profile.sip = some true then s
  else
    let found := if s.2 profile.sip = none then Function.update s.2 profile.sip (some false) else s.2
    if isWantedProfile profile then
      (s.1 ++ [profile], Function.update found profile.sip (some true))
    else (s.1, found)

/-- `addWantedProfiles` -/
def addWantedProfiles (enabled : StreamIndexPair → Bool) (isWantedProfile : StreamProfile → Bool)
    (allProfiles wanted : List StreamProfile) : List StreamProfile :=
  (allProfiles.foldl (addWanted enabled isWantedProfile) (wanted, fun _ => none)).1

/-- `RosSensor`, with its two profile managers. -/
structure RosSensor where
  /-- It is a depth or a color sensor. -/
  isVideoSensor : Bool
  /-- `get_stream_profiles` -/
  profiles : List StreamProfile
  enabledProfiles : StreamIndexPair → Bool := fun _ => true
  /-- `_width`, `_height` and `_fps` of the video streams. -/
  width : Rs2Stream → Nat := fun _ => 0
  height : Rs2Stream → Nat := fun _ => 0
  fps : Rs2Stream → Nat := fun _ => 0
  formats : StreamIndexPair → Rs2Format := fun _ => .any
  /-- `_fps` of the motion streams. -/
  motionFps : StreamIndexPair → Nat := fun _ => 0
  /-- `get_active_streams` -/
  activeStreams : List StreamProfile := []

namespace RosSensor

variable (s : RosSensor)

/-- `_all_profiles` of the `VideoProfilesManager`. -/
def videoProfiles : List StreamProfile := s.profiles.filter StreamProfile.isVideo

/-- `_all_profiles` of the `MotionProfilesManager`. -/
def motionProfiles : List StreamProfile := s.profiles.filter StreamProfile.isMotion

/-- `VideoProfilesManager::isWantedProfile` -/
def isWantedVideo (p : StreamProfile) : Bool :=
  p.isSameVideoValues (s.width p.type) (s.height p.type) (s.fps p.type) (s.formats p.sip)

/-- `MotionProfilesManager::isWantedProfile` -/
def isWantedMotion (p : StreamProfile) : Bool := p.isSameMotionValues p.type (s.motionFps p.sip)

/-- The `wanted_profiles` of `getUpdatedProfiles`. -/
def wantedProfiles : List StreamProfile :=
  addWantedProfiles s.enabledProfiles s.isWantedMotion s.motionProfiles
    (addWantedProfiles s.enabledProfiles s.isWantedVideo s.videoProfiles [])

/-- `is_profiles_in_profiles` -/
def isProfilesInProfiles (sub all : List StreamProfile) : Bool := sub.all fun a => all.any a.equal

/-- `compare_profiles_lists` -/
def compareProfilesLists (active wanted : List StreamProfile) : Bool :=
  isProfilesInProfiles active wanted && isProfilesInProfiles wanted active

/-- What `getUpdatedProfiles` returns. -/
def isProfileChanged : Bool := !compareProfilesLists s.activeStreams s.wantedProfiles

end RosSensor

/-! ### The texts of the size -/

/-- `\s*` -/
def skipSpace (cs : List Char) : List Char :=
  cs.dropWhile fun c => c = ' ' || ('\t' ≤ c && c ≤ '\r')

/-- `([0-9]+)`, and what is behind it. -/
def numberText (cs : List Char) : Option (Nat × List Char) :=
  match cs.takeWhile Char.isDigit with
  | [] => none
  | ds => some (Nat.ofDigitChars 10 ds 0, cs.dropWhile Char.isDigit)

/-- `[xX,]` -/
def timesText : List Char → Option (List Char)
  | [] => none
  | c :: cs => if c = 'x' ∨ c = 'X' ∨ c = ',' then some cs else none

/-- `regex_match` of `\s*([0-9]+)\s*[xX,]\s*([0-9]+)\s*[xX,]\s*([0-9]+)\s*` -/
def matchProfile (text : List Char) : Option (Nat × Nat × Nat) := do
  let (width, cs) ← numberText (skipSpace text)
  let cs ← timesText (skipSpace cs)
  let (height, cs) ← numberText (skipSpace cs)
  let cs ← timesText (skipSpace cs)
  let (fps, cs) ← numberText (skipSpace cs)
  if skipSpace cs = [] then some (width, height, fps) else none

namespace RosSensor

variable (s : RosSensor)

/-- The text of the values that are in force. -/
def profileText (type : Rs2Stream) : List Char :=
  Nat.toDigits 10 (s.width type) ++ 'x' :: (Nat.toDigits 10 (s.height type) ++
    'x' :: Nat.toDigits 10 (s.fps type))

/-- A video profile of some stream has these values. -/
def hasVideoValues (width height fps : Nat) : Bool :=
  s.videoProfiles.any fun p => p.isSameVideoValues width height fps .any

/--
The callback of the parameter for the size, and the text that it sets the parameter back to. A number
that is no `int` makes `stoi` throw.
-/
def setProfile (type : Rs2Stream) (text : List Char) : RosSensor × Option (List Char) :=
  match matchProfile text with
  | none => (s, some (s.profileText type))
  | some (width, height, fps) =>
    if 2 ^ 31 ≤ width ∨ 2 ^ 31 ≤ height ∨ 2 ^ 31 ≤ fps then (s, none)
    else if width = 0 ∨ height = 0 ∨ fps = 0 then (s, some (s.profileText type))
    -- the profile may be one of another stream
    else if s.hasVideoValues width height fps then
      ({ s with
          width := Function.update s.width type width
          height := Function.update s.height type height
          fps := Function.update s.fps type fps }, none)
    else (s, some (s.profileText type))

/-- The callback of the parameter for the format, which is `any` for an unknown one. -/
def setFormat (sip : StreamIndexPair) (format : Rs2Format) : RosSensor :=
  if format ≠ .any ∧ s.videoProfiles.any (fun p => sip = p.sip && format = p.format) then
    { s with formats := Function.update s.formats sip format }
  else s

/-- The callback of the parameter for the rate of a motion stream. -/
def setFps (sip : StreamIndexPair) (fps : Nat) : RosSensor :=
  if 0 < fps ∧ s.motionProfiles.any (fun p => p.isSameMotionValues sip.1 fps) then
    { s with motionFps := Function.update s.motionFps sip fps }
  else s

/-- The callback of the parameter that a stream is enabled by, up to `update_sensor_func`. -/
def setEnabled (sip : StreamIndexPair) (value : Bool) : RosSensor :=
  { s with enabledProfiles := Function.update s.enabledProfiles sip value }

end RosSensor

/-- A parameter of a sensor that is set. -/
inductive Setting
  | enable (sip : StreamIndexPair) (value : Bool)
  | profile (type : Rs2Stream) (text : List Char)
  | format (sip : StreamIndexPair) (format : Rs2Format)
  | fps (sip : StreamIndexPair) (fps : Nat)
  deriving DecidableEq, Repr

/-- What its callback does to the sensor. -/
def RosSensor.set (s : RosSensor) : Setting → RosSensor
  | .enable sip value => s.setEnabled sip value
  | .profile type text => (s.setProfile type text).1
  | .format sip format => s.setFormat sip format
  | .fps sip fps => s.setFps sip fps

/-! ### The values to begin with -/

/-- `std::map<stream_index_pair, rs2::stream_profile>`, in any order. -/
abbrev SipProfiles := List (StreamIndexPair × StreamProfile)

/-- One turn of the loop of `getDefaultProfiles`. -/
def SipProfiles.addDefault (defaults : SipProfiles) (p : StreamProfile) : SipProfiles :=
  if p.isDefault ∧ (defaults.lookup p.sip).isNone then defaults ++ [(p.sip, p)] else defaults

/-- `getDefaultProfiles`, which throws if there are no profiles. -/
def getDefaultProfiles (allProfiles : List StreamProfile) : Option SipProfiles :=
  match allProfiles.foldl SipProfiles.addDefault [], allProfiles with
  | [], [] => none
  | [], first :: _ => some [(first.sip, first)]
  | defaults, _ => some defaults

/-- `begin()` of such a map; `value` are the numbers of the streams. -/
def SipProfiles.begin (value : Rs2Stream → Nat) : SipProfiles → Option StreamProfile
  | [] => none
  | (sip, p) :: defaults =>
    match SipProfiles.begin value defaults with
    | none => some p
    | some q =>
      if value sip.1 < value q.type ∨ (value sip.1 = value q.type ∧ sip.2 < q.index) then some p
      else some q

namespace RosSensor

variable (s : RosSensor)

/-- `validateAndGetSuitableProfile`: the last profile of the stream if the given one does not suit. -/
def suitableProfile (type : Rs2Stream) (given : StreamProfile) : StreamProfile :=
  if s.videoProfiles.any fun p => p.type = type && p.isSameSize given then given
  else ((s.videoProfiles.filter fun p => p.type = type).getLast?).getD given

/-- The `switch` of `registerVideoSensorParams`. -/
def defaultProfile (value : Rs2Stream → Nat) (defaults : SipProfiles) (type : Rs2Stream) :
    Option StreamProfile := do
  let first ← defaults.begin value
  match type with
  | .color => some ((defaults.lookup (.color, 0)).getD first)
  | .depth => some ((defaults.lookup (.depth, 0)).getD first)
  | .infrared =>
    match defaults.lookup (.infrared, 1), defaults.lookup (.depth, 0) with
    | some p, _ => some p
    | none, some p => some (s.suitableProfile type p)
    | none, none => some first
  | type => some (s.suitableProfile type first)

/-- `registerVideoSensorProfileFormat` -/
def initialFormat (sip : StreamIndexPair) : Rs2Format :=
  if sip = (.depth, 0) then .z16
  else if sip = (.infrared, 0) then .rgb8
  else if sip = (.infrared, 1) ∨ sip = (.infrared, 2) then .y8
  else if sip = (.color, 0) then .rgb8
  else .any

/-- The width, the height and the rate that `registerVideoSensorParams` sets for a stream. -/
def initialSize (value : Rs2Stream → Nat) (defaults : SipProfiles) (type : Rs2Stream) : Nat × Nat × Nat :=
  if s.videoProfiles.any fun p => p.type = type then
    match s.defaultProfile value defaults type with
    | some { kind := .video w h, fps, .. } => (w, h, fps)
    | _ => (0, 0, 0)
  else (0, 0, 0)

/-- What `registerVideoSensorParams` makes of the default profiles. -/
def setDefaults (value : Rs2Stream → Nat) (defaults : SipProfiles) : RosSensor :=
  let size := s.initialSize value defaults
  { s with
    width := fun type => (size type).1
    height := fun type => (size type).2.1
    fps := fun type => (size type).2.2
    formats := fun sip =>
      match defaults.lookup sip with
      | some p =>
        if p.isSameVideoValues (size sip.1).1 (size sip.1).2.1 (size sip.1).2.2 p.format then p.format
        else initialFormat sip
      | none => initialFormat sip }

/-- `registerVideoSensorParams`, up to the declaration of the parameters; no call without a profile. -/
def registerVideoSensorParams (value : Rs2Stream → Nat) : RosSensor :=
  match getDefaultProfiles s.videoProfiles with
  | none => s
  | some defaults => s.setDefaults value defaults

/-- `registerFPSParams`, up to the declaration of the parameters. -/
def registerFpsParams : RosSensor :=
  match getDefaultProfiles s.motionProfiles with
  | none => s
  | some defaults =>
    { s with
      motionFps := fun sip =>
        match defaults.lookup sip with
        | some p => p.fps
        | none =>
          (((s.motionProfiles.filter fun p => p.sip = sip).map StreamProfile.fps).min?).getD 0 }

/-- `registerSensorParameters`. All streams are enabled but one. -/
def registerSensorParameters (value : Rs2Stream → Nat) : RosSensor :=
  let s := { s with enabledProfiles := fun sip => sip ≠ (Rs2Stream.infrared, 0) }
  (s.registerVideoSensorParams value).registerFpsParams

end RosSensor

/-! ## What is opened -/

section Wanted

variable {enabled : StreamIndexPair → Bool} {isWanted isWanted' : StreamProfile → Bool}
  {sip : StreamIndexPair} {p : StreamProfile} {ps wanted : List StreamProfile}
  {found : StreamIndexPair → Option Bool}

/-- A profile that the loop takes. -/
def Takes (enabled : StreamIndexPair → Bool) (isWanted : StreamProfile → Bool)
    (found : StreamIndexPair → Option Bool) (p : StreamProfile) : Prop :=
  enabled p.sip = true ∧ found p.sip ≠ some true ∧ isWanted p = true

/-- A turn of the loop: it takes the profile and its stream is found, or all the found ones are as before. -/
theorem addWanted_cases (enabled : StreamIndexPair → Bool) (isWanted : StreamProfile → Bool)
    (wanted : List StreamProfile) (found : StreamIndexPair → Option Bool) (p : StreamProfile) :
    (Takes enabled isWanted found p ∧ ∃ found',
      addWanted enabled isWanted (wanted, found) p = (wanted ++ [p], found') ∧
      ∀ sip, found' sip = some true ↔ sip = p.sip ∨ found sip = some true) ∨
    (¬Takes enabled isWanted found p ∧ ∃ found',
      addWanted enabled isWanted (wanted, found) p = (wanted, found') ∧
      ∀ sip, found' sip = some true ↔ found sip = some true) := by
  unfold addWanted Takes
  by_cases henabled : enabled p.sip
  · by_cases hfound : found p.sip = some true
    · exact Or.inr ⟨fun h => h.2.1 hfound, found, by simp [henabled, hfound], fun sip => Iff.rfl⟩
    · -- a stream that is looked at for the first time is not found by that
      have hlooked : ∀ sip, (if found p.sip = none then Function.update found p.sip (some false)
          else found) sip = some true ↔ found sip = some true := by
        intro sip
        split
        · next hnone =>
          rcases eq_or_ne sip p.sip with rfl | hne
          · simp [hnone]
          · rw [Function.update_of_ne hne]
        · exact Iff.rfl
      by_cases hwanted : isWanted p
      · refine Or.inl ⟨⟨henabled, hfound, hwanted⟩, Function.update _ p.sip (some true),
          by simp only [henabled, hfound, hwanted]; rfl, fun sip => ?_⟩
        rcases eq_or_ne sip p.sip with rfl | hne
        · simp
        · rw [Function.update_of_ne hne, hlooked]
          simp [hne]
      · exact Or.inr ⟨fun h => hwanted h.2.2, _, by simp [henabled, hfound, hwanted], hlooked⟩
  · exact Or.inr ⟨fun h => henabled h.1, found, by simp [henabled], fun sip => Iff.rfl⟩

/-- The profile of a stream that is opened. -/
def firstWanted (isWanted : StreamProfile → Bool) (ps : List StreamProfile) (sip : StreamIndexPair) :
    Option StreamProfile :=
  ps.find? fun p => p.sip = sip && isWanted p

theorem firstWanted_cons (p : StreamProfile) (ps : List StreamProfile) (sip : StreamIndexPair) :
    firstWanted isWanted (p :: ps) sip =
      if p.sip = sip ∧ isWanted p then some p else firstWanted isWanted ps sip := by
  by_cases h : p.sip = sip ∧ isWanted p
  · rw [if_pos h, firstWanted, List.find?_cons_of_pos (by simpa using h)]
  · rw [if_neg h, firstWanted, List.find?_cons_of_neg (by simpa using h), firstWanted]

/-- What the loop takes, from where it is. -/
theorem foldl_addWanted (enabled : StreamIndexPair → Bool) (isWanted : StreamProfile → Bool)
    (ps : List StreamProfile) :
    ∀ (wanted : List StreamProfile) (found : StreamIndexPair → Option Bool), ∃ taken,
      (ps.foldl (addWanted enabled isWanted) (wanted, found)).1 = wanted ++ taken ∧
      taken.Sublist ps ∧
      ∀ sip, taken.filter (fun p => p.sip = sip) =
        if enabled sip ∧ found sip ≠ some true then (firstWanted isWanted ps sip).toList else [] := by
  induction ps with
  | nil =>
    intro wanted found
    exact ⟨[], by simp, List.Sublist.refl _, fun sip => by simp [firstWanted]⟩
  | cons p ps ih =>
    intro wanted found
    rw [List.foldl_cons]
    rcases addWanted_cases enabled isWanted wanted found p with
      ⟨⟨henabled, hnew, hwanted⟩, found', hturn, hfound⟩ | ⟨hnot, found', hturn, hfound⟩
    · obtain ⟨taken, htaken, hsub, hfilter⟩ := ih (wanted ++ [p]) found'
      refine ⟨p :: taken, by rw [hturn, htaken, List.append_assoc]; rfl, hsub.cons_cons p, fun sip => ?_⟩
      rw [firstWanted_cons]
      rcases eq_or_ne p.sip sip with rfl | hne
      · have hdone : found' p.sip = some true := (hfound _).mpr (Or.inl rfl)
        rw [List.filter_cons_of_pos (by simp), hfilter, if_neg (fun h => h.2 hdone),
          if_pos ⟨henabled, hnew⟩, if_pos ⟨rfl, hwanted⟩]
        rfl
      · have hsame : found' sip = some true ↔ found sip = some true :=
          (hfound sip).trans (or_iff_right (Ne.symm hne))
        have hskip : ¬(p.sip = sip ∧ isWanted p) := fun h => hne h.1
        rw [List.filter_cons_of_neg (by simpa using hne), hfilter, if_neg hskip]
        simp only [ne_eq, hsame]
    · obtain ⟨taken, htaken, hsub, hfilter⟩ := ih wanted found'
      refine ⟨taken, by rw [hturn, htaken], hsub.cons p, fun sip => ?_⟩
      rw [firstWanted_cons, hfilter]
      simp only [ne_eq, hfound sip]
      by_cases hopen : enabled sip ∧ ¬found sip = some true
      · have hskip : ¬(p.sip = sip ∧ isWanted p) := by
          rintro ⟨rfl, hwanted⟩
          exact hnot ⟨hopen.1, hopen.2, hwanted⟩
        rw [if_pos hopen, if_pos hopen, if_neg hskip]
      · rw [if_neg hopen, if_neg hopen]

/-- The loop as a whole: of each stream that is enabled, the first profile that is wanted. -/
theorem addWantedProfiles_eq (enabled : StreamIndexPair → Bool) (isWanted : StreamProfile → Bool)
    (ps wanted : List StreamProfile) : ∃ taken,
      addWantedProfiles enabled isWanted ps wanted = wanted ++ taken ∧ taken.Sublist ps ∧
      ∀ sip, taken.filter (fun p => p.sip = sip) =
        if enabled sip then (firstWanted isWanted ps sip).toList else [] := by
  obtain ⟨taken, htaken, hsub, hfilter⟩ :=
    foldl_addWanted enabled isWanted ps wanted fun _ => none
  refine ⟨taken, htaken, hsub, ?_⟩
  intro sip
  rw [hfilter]
  simp

/-- Profiles of streams that are not enabled do not matter. -/
theorem addWantedProfiles_congr
    (h : ∀ p ∈ ps, enabled p.sip = true → isWanted p = isWanted' p) :
    addWantedProfiles enabled isWanted ps wanted = addWantedProfiles enabled isWanted' ps wanted := by
  have hturn : ∀ p ∈ ps, ∀ s, addWanted enabled isWanted s p = addWanted enabled isWanted' s p := by
    intro p hp s
    unfold addWanted
    by_cases henabled : enabled p.sip
    · rw [h p hp henabled]
    · simp [henabled]
  have hfold : ∀ s, ps.foldl (addWanted enabled isWanted) s = ps.foldl (addWanted enabled isWanted') s := by
    intro s
    exact List.foldl_ext _ _ s fun s p hp => hturn p hp s
  rw [addWantedProfiles, hfold, addWantedProfiles]

end Wanted

namespace RosSensor

section Opened

variable {s s' : RosSensor} {sip : StreamIndexPair} {type : Rs2Stream} {p : StreamProfile}

theorem wantedProfiles_eq (s : RosSensor) : ∃ videos motions,
    s.wantedProfiles = videos ++ motions ∧
      videos.Sublist s.videoProfiles ∧ motions.Sublist s.motionProfiles ∧
      ∀ sip, s.wantedProfiles.filter (fun p => p.sip = sip) =
        if s.enabledProfiles sip then
          (firstWanted s.isWantedVideo s.videoProfiles sip).toList ++
            (firstWanted s.isWantedMotion s.motionProfiles sip).toList
        else [] := by
  obtain ⟨videos, hvideos, hvideosub, hvideo⟩ :=
    addWantedProfiles_eq s.enabledProfiles s.isWantedVideo s.videoProfiles []
  obtain ⟨motions, hmotions, hmotionsub, hmotion⟩ :=
    addWantedProfiles_eq s.enabledProfiles s.isWantedMotion s.motionProfiles videos
  have hwanted : s.wantedProfiles = videos ++ motions := by
    rw [wantedProfiles, hvideos, List.nil_append, hmotions]
  refine ⟨videos, motions, hwanted, hvideosub, hmotionsub, ?_⟩
  intro sip
  rw [hwanted, List.filter_append, hvideo, hmotion]
  by_cases henabled : s.enabledProfiles sip
  · rw [if_pos henabled, if_pos henabled, if_pos henabled]
  · rw [if_neg henabled, if_neg henabled, if_neg henabled, List.append_nil]

theorem mem_profiles_of_wanted (h : p ∈ s.wantedProfiles) : p ∈ s.profiles := by
  obtain ⟨videos, motions, hwanted, hvideos, hmotions, -⟩ := s.wantedProfiles_eq
  rw [hwanted, List.mem_append] at h
  rcases h with h | h
  · exact List.mem_of_mem_filter (hvideos.mem h)
  · exact List.mem_of_mem_filter (hmotions.mem h)

/--
**What is opened.** Of each stream that is enabled, the first profile with the values of the parameters,
and of the others none; in the order of the sensor, the video streams first.
-/
theorem wantedProfiles_of_stream (s : RosSensor) :
    s.wantedProfiles.Sublist (s.videoProfiles ++ s.motionProfiles) ∧
      ∀ sip, s.wantedProfiles.filter (fun p => p.sip = sip) =
        if s.enabledProfiles sip then
          (firstWanted s.isWantedVideo s.videoProfiles sip).toList ++
            (firstWanted s.isWantedMotion s.motionProfiles sip).toList
        else [] := by
  obtain ⟨videos, motions, hwanted, hvideos, hmotions, hfilter⟩ := s.wantedProfiles_eq
  exact ⟨hwanted ▸ hvideos.append hmotions, hfilter⟩

end Opened

end RosSensor

/-! ## The values to begin with -/

section Defaults

variable {value : Rs2Stream → Nat} {ps : List StreamProfile} {defaults : SipProfiles}
  {s : RosSensor} {sip : StreamIndexPair} {type : Rs2Stream} {p : StreamProfile}

theorem mem_getDefaultProfiles (h : getDefaultProfiles ps = some defaults) :
    ∀ e ∈ defaults, e.2 ∈ ps := by
  -- the loop stores profiles that it has come across
  have hloop : ∀ (qs : List StreamProfile) (stored : SipProfiles), (∀ q ∈ qs, q ∈ ps) →
      (∀ e ∈ stored, e.2 ∈ ps) → ∀ e ∈ qs.foldl SipProfiles.addDefault stored, e.2 ∈ ps := by
    intro qs
    induction qs with
    | nil => exact fun stored _ hstored => hstored
    | cons q qs ih =>
      intro stored hqs hstored
      refine ih _ (fun r hr => hqs r (List.mem_cons_of_mem q hr)) fun e he => ?_
      unfold SipProfiles.addDefault at he
      split at he
      · rcases List.mem_append.mp he with he | he
        · exact hstored e he
        · rw [List.mem_singleton.mp he]
          exact hqs q List.mem_cons_self
      · exact hstored e he
  have hstored := hloop ps [] (fun _ hq => hq) (by simp)
  unfold getDefaultProfiles at h
  split at h
  · simp at h
  · obtain rfl := Option.some.inj h
    intro e he
    rw [List.mem_singleton.mp he]
    exact List.mem_cons_self
  · obtain rfl := Option.some.inj h
    exact hstored

theorem mem_begin : ∀ {defaults : SipProfiles} {p : StreamProfile},
    defaults.begin value = some p → ∃ e ∈ defaults, e.2 = p
  | (sip, q) :: defaults, p, h => by
    rw [SipProfiles.begin] at h
    split at h
    · exact ⟨(sip, q), List.mem_cons_self, Option.some.inj h⟩
    · next r hr =>
      split at h
      · exact ⟨(sip, q), List.mem_cons_self, Option.some.inj h⟩
      · obtain ⟨e, he, heq⟩ := mem_begin hr
        exact ⟨e, List.mem_cons_of_mem _ he, heq.trans (Option.some.inj h)⟩

theorem mem_of_lookup (h : defaults.lookup sip = some p) : ∃ e ∈ defaults, e.2 = p := by
  induction defaults with
  | nil => simp at h
  | cons e defaults ih =>
    rw [List.lookup_cons] at h
    split at h
    · exact ⟨e, List.mem_cons_self, Option.some.inj h⟩
    · obtain ⟨e', he', heq⟩ := ih h
      exact ⟨e', List.mem_cons_of_mem e he', heq⟩

theorem mem_suitableProfile (h : p ∈ s.videoProfiles) (type : Rs2Stream) :
    s.suitableProfile type p ∈ s.videoProfiles := by
  unfold RosSensor.suitableProfile
  split
  · exact h
  · cases hlast : (s.videoProfiles.filter fun q => q.type = type).getLast? with
    | none => exact h
    | some q => exact List.mem_of_mem_filter (List.mem_of_getLast? hlast)

theorem mem_defaultProfile (hdefaults : ∀ e ∈ defaults, e.2 ∈ s.videoProfiles)
    (h : s.defaultProfile value defaults type = some p) : p ∈ s.videoProfiles := by
  have hlookup : ∀ {sip q}, defaults.lookup sip = some q → q ∈ s.videoProfiles := by
    intro sip q hq
    obtain ⟨e, he, rfl⟩ := mem_of_lookup hq
    exact hdefaults e he
  obtain ⟨first, hfirst, h⟩ := Option.bind_eq_some_iff.mp h
  have hmem : first ∈ s.videoProfiles := by
    obtain ⟨e, he, rfl⟩ := mem_begin hfirst
    exact hdefaults e he
  have hgetD : ∀ sip, (defaults.lookup sip).getD first ∈ s.videoProfiles := by
    intro sip
    cases hsip : defaults.lookup sip with
    | none => exact hmem
    | some q => exact hlookup hsip
  split at h
  · exact Option.some.inj h ▸ hgetD _
  · exact Option.some.inj h ▸ hgetD _
  · split at h
    · next hq => exact Option.some.inj h ▸ hlookup hq
    · next hq => exact Option.some.inj h ▸ mem_suitableProfile (hlookup hq) _
    · exact Option.some.inj h ▸ hmem
  · exact Option.some.inj h ▸ mem_suitableProfile hmem _

theorem exists_getDefaultProfiles (h : p ∈ ps) :
    ∃ defaults, getDefaultProfiles ps = some defaults ∧ defaults ≠ [] := by
  unfold getDefaultProfiles
  split
  · simp at h
  · exact ⟨_, rfl, by simp⟩
  · next hempty =>
    obtain ⟨first, rest, hps⟩ := List.exists_cons_of_ne_nil (List.ne_nil_of_mem h)
    exact ⟨_, rfl, fun hnil => hempty first rest hnil hps⟩

theorem exists_begin (value : Rs2Stream → Nat) : ∀ {defaults : SipProfiles}, defaults ≠ [] →
    ∃ p, defaults.begin value = some p
  | (sip, q) :: defaults, _ => by
    rw [SipProfiles.begin]
    split
    · exact ⟨q, rfl⟩
    · split <;> exact ⟨_, rfl⟩

theorem exists_defaultProfile (s : RosSensor) (value : Rs2Stream → Nat) (h : defaults ≠ [])
    (type : Rs2Stream) :
    ∃ p, s.defaultProfile value defaults type = some p := by
  obtain ⟨first, hfirst⟩ := exists_begin value h
  rw [RosSensor.defaultProfile, hfirst]
  cases type with
  | infrared =>
    cases defaults.lookup (.infrared, 1) <;> cases defaults.lookup (.depth, 0) <;> exact ⟨_, rfl⟩
  | _ => exact ⟨_, rfl⟩

end Defaults

/-! ## Values in force -/

namespace RosSensor

/-- The size of a stream is that of a profile. -/
def InForce (s : RosSensor) (type : Rs2Stream) : Prop :=
  s.hasVideoValues (s.width type) (s.height type) (s.fps type) = true

section InForce

variable {s : RosSensor} {value : Rs2Stream → Nat} {type : Rs2Stream} {p : StreamProfile}

theorem hasVideoValues_of_mem {w h : Nat} (hp : p ∈ s.videoProfiles) (hkind : p.kind = .video w h) :
    s.hasVideoValues w h p.fps = true := by
  refine List.any_eq_true.mpr ⟨p, hp, ?_⟩
  simp [StreamProfile.isSameVideoValues, hkind]

theorem exists_kind (hp : p ∈ s.videoProfiles) : ∃ w h, p.kind = .video w h := by
  have hvideo : p.isVideo = true := (List.mem_filter.mp hp).2
  unfold StreamProfile.isVideo at hvideo
  cases hkind : p.kind with
  | video w h => exact ⟨w, h, rfl⟩
  | motion => simp [hkind] at hvideo
  | other => simp [hkind] at hvideo

theorem registerFpsParams_eq (s : RosSensor) :
    ∃ motionFps, s.registerFpsParams = { s with motionFps } := by
  unfold registerFpsParams
  split <;> exact ⟨_, rfl⟩

theorem initialSize_of_defaultProfile {defaults : SipProfiles} {w h : Nat}
    (htype : ∃ p ∈ s.videoProfiles, p.type = type)
    (hp : s.defaultProfile value defaults type = some p) (hkind : p.kind = .video w h) :
    s.initialSize value defaults type = (w, h, p.fps) := by
  have hany : s.videoProfiles.any (fun p => p.type = type) = true := by simpa using htype
  obtain ⟨ptype, index, format, fps, kind, isDefault⟩ := p
  subst hkind
  rw [initialSize, if_pos hany, hp]

/-- The values to begin with are those of a profile. -/
theorem inForce_register (value : Rs2Stream → Nat) (htype : ∃ p ∈ s.videoProfiles, p.type = type) :
    (s.registerSensorParameters value).InForce type := by
  let start := { s with enabledProfiles := fun sip => sip ≠ (Rs2Stream.infrared, 0) }
  obtain ⟨p, hp, -⟩ := id htype
  obtain ⟨defaults, hdefaults, hne⟩ := exists_getDefaultProfiles hp
  obtain ⟨q, hq⟩ := exists_defaultProfile start value hne type
  have hqmem : q ∈ s.videoProfiles := mem_defaultProfile (s := start) (mem_getDefaultProfiles hdefaults) hq
  obtain ⟨w, h, hkind⟩ := exists_kind hqmem
  have hsize : start.initialSize value defaults type = (w, h, q.fps) :=
    initialSize_of_defaultProfile (s := start) htype hq hkind
  have hregister : start.registerVideoSensorParams value = start.setDefaults value defaults := by
    rw [registerVideoSensorParams, show start.videoProfiles = s.videoProfiles from rfl, hdefaults]
  obtain ⟨motionFps, hfps⟩ := registerFpsParams_eq (start.registerVideoSensorParams value)
  have hvalues := hasVideoValues_of_mem hqmem hkind
  rw [registerSensorParameters, hfps, hregister]
  show s.hasVideoValues (start.initialSize value defaults type).1
    (start.initialSize value defaults type).2.1 (start.initialSize value defaults type).2.2 = true
  rw [hsize]
  exact hvalues

/-- What the callback of the size can do: take the values of a profile over, or leave all as it is. -/
theorem setProfile_cases (s : RosSensor) (t : Rs2Stream) (text : List Char) :
    (∃ width height fps, s.hasVideoValues width height fps = true ∧ s.setProfile t text =
      ({ s with
          width := Function.update s.width t width
          height := Function.update s.height t height
          fps := Function.update s.fps t fps }, none)) ∨
    s.setProfile t text = (s, none) ∨ s.setProfile t text = (s, some (s.profileText t)) := by
  unfold setProfile
  split
  · exact Or.inr (Or.inr rfl)
  · next width height fps _ =>
    split
    · exact Or.inr (Or.inl rfl)
    · split
      · exact Or.inr (Or.inr rfl)
      · split
        · next hvalues => exact Or.inl ⟨width, height, fps, hvalues, rfl⟩
        · exact Or.inr (Or.inr rfl)

/-- A setting leaves the profiles as they are, and the size of each stream in force. -/
theorem set_keeps (s : RosSensor) (setting : Setting) (type : Rs2Stream) :
    (s.set setting).profiles = s.profiles ∧ (s.InForce type → (s.set setting).InForce type) := by
  cases setting with
  | enable sip value => exact ⟨rfl, id⟩
  | profile t text =>
    rcases s.setProfile_cases t text with ⟨width, height, fps, hvalues, hset⟩ | hset | hset
    · rw [set, hset]
      refine ⟨rfl, ?_⟩
      intro hforce
      rcases eq_or_ne type t with rfl | hne
      · simp only [InForce, Function.update_self]
        exact hvalues
      · simp only [InForce, Function.update_of_ne hne]
        exact hforce
    · rw [set, hset]
      exact ⟨rfl, id⟩
    · rw [set, hset]
      exact ⟨rfl, id⟩
  | format sip format =>
    rw [set, setFormat]
    split <;> exact ⟨rfl, id⟩
  | fps sip fps =>
    rw [set, setFps]
    split <;> exact ⟨rfl, id⟩

theorem settings_keep (settings : List Setting) (s : RosSensor) (type : Rs2Stream) :
    (settings.foldl set s).profiles = s.profiles ∧
      (s.InForce type → (settings.foldl set s).InForce type) := by
  induction settings generalizing s with
  | nil => exact ⟨rfl, id⟩
  | cons setting settings ih =>
    obtain ⟨hprofiles, hforce⟩ := ih (s.set setting)
    obtain ⟨hprofiles', hforce'⟩ := s.set_keeps setting type
    exact ⟨hprofiles.trans hprofiles', fun h => hforce (hforce' h)⟩

end InForce

end RosSensor

/-! ## Texts that are set back -/

section Text

variable {cs : List Char} {n : Nat}

theorem isDigit_of_mem_toDigits {c : Char} (h : c ∈ Nat.toDigits 10 n) : c.isDigit = true :=
  Nat.isDigit_of_mem_toDigits (by omega) (by omega) h

theorem skipSpace_toDigits (n : Nat) (cs : List Char) :
    skipSpace (Nat.toDigits 10 n ++ cs) = Nat.toDigits 10 n ++ cs := by
  obtain ⟨c, ds, hdigits⟩ := List.exists_cons_of_ne_nil (Nat.toDigits_ne_nil : Nat.toDigits 10 n ≠ [])
  have hc : c.isDigit = true := isDigit_of_mem_toDigits (n := n) (by simp [hdigits])
  have hlow : 48 ≤ c.val := by
    simp only [Char.isDigit, Bool.and_eq_true, decide_eq_true_eq] at hc
    exact hc.1
  have hspace : c ≠ ' ' := by
    rintro rfl
    exact absurd hlow (by decide)
  have hhigh : ¬c ≤ '\r' := fun hle => absurd (UInt32.le_trans hlow hle) (by decide)
  rw [hdigits, List.cons_append, skipSpace, List.dropWhile_cons_of_neg]
  simp [hspace, hhigh]

theorem numberText_toDigits (n : Nat) (hcs : FixedPoint.Stops cs) :
    numberText (Nat.toDigits 10 n ++ cs) = some (n, cs) := by
  obtain ⟨htake, hdrop⟩ := FixedPoint.takeWhile_isDigit (Nat.toDigits 10 n) cs
    (fun d hd => isDigit_of_mem_toDigits hd) hcs
  obtain ⟨c, ds, hdigits⟩ := List.exists_cons_of_ne_nil (Nat.toDigits_ne_nil : Nat.toDigits 10 n ≠ [])
  rw [numberText, htake, hdrop, hdigits]
  simp only
  rw [← hdigits, Nat.ofDigitChars_ten_toDigits]

/-- The text of three numbers is read back. -/
theorem matchProfile_toDigits (width height fps : Nat) :
    matchProfile (Nat.toDigits 10 width ++ 'x' :: (Nat.toDigits 10 height ++ 'x' :: Nat.toDigits 10 fps)) =
      some (width, height, fps) := by
  have hstops : ∀ cs, FixedPoint.Stops ('x' :: cs) := by
    intro cs c hc
    rw [← Option.some.inj hc]
    rfl
  have htimes : ∀ cs, timesText (skipSpace ('x' :: cs)) = some cs := fun cs => rfl
  have hend : FixedPoint.Stops [] := by simp [FixedPoint.Stops]
  have hlast := numberText_toDigits fps hend
  have hspace := skipSpace_toDigits fps []
  rw [List.append_nil] at hlast hspace
  simp only [matchProfile, skipSpace_toDigits, numberText_toDigits _ (hstops _), htimes, hlast, hspace,
    Option.bind_eq_bind, Option.bind_some]
  rfl

end Text

/-- A profile whose numbers are positive and fit into an `int`. -/
def StreamProfile.Measured (p : StreamProfile) : Prop :=
  match p.kind with
  | .video w h => (0 < w ∧ w < 2 ^ 31) ∧ (0 < h ∧ h < 2 ^ 31) ∧ 0 < p.fps ∧ p.fps < 2 ^ 31
  | _ => True

instance : DecidablePred StreamProfile.Measured
  | ⟨_, _, _, _, .video _ _, _⟩ => inferInstanceAs (Decidable (_ ∧ _))
  | ⟨_, _, _, _, .motion, _⟩ => inferInstanceAs (Decidable True)
  | ⟨_, _, _, _, .other, _⟩ => inferInstanceAs (Decidable True)

namespace RosSensor

section SetBack

variable {s : RosSensor} {value : Rs2Stream → Nat} {type : Rs2Stream} {text back : List Char}

theorem register_profiles (s : RosSensor) (value : Rs2Stream → Nat) :
    (s.registerSensorParameters value).profiles = s.profiles := by
  let start := { s with enabledProfiles := fun sip => sip ≠ (Rs2Stream.infrared, 0) }
  obtain ⟨motionFps, hfps⟩ := registerFpsParams_eq (start.registerVideoSensorParams value)
  rw [registerSensorParameters, hfps]
  show (start.registerVideoSensorParams value).profiles = start.profiles
  unfold registerVideoSensorParams
  split <;> rfl

theorem measured_of_hasVideoValues (hmeasured : ∀ p ∈ s.profiles, p.Measured) {w h f : Nat}
    (hvalues : s.hasVideoValues w h f = true) :
    (0 < w ∧ w < 2 ^ 31) ∧ (0 < h ∧ h < 2 ^ 31) ∧ 0 < f ∧ f < 2 ^ 31 := by
  obtain ⟨p, hp, hsame⟩ := List.any_eq_true.mp hvalues
  obtain ⟨w', h', hkind⟩ := exists_kind hp
  have hmp := hmeasured p (List.mem_of_mem_filter hp)
  simp only [StreamProfile.isSameVideoValues, hkind, Bool.and_eq_true, decide_eq_true_eq] at hsame
  obtain ⟨⟨⟨rfl, rfl⟩, rfl⟩, -⟩ := hsame
  simpa only [StreamProfile.Measured, hkind] using hmp

/-- A text for values that are in force is taken, and changes nothing. -/
theorem setProfile_profileText (hmeasured : ∀ p ∈ s.profiles, p.Measured) (hforce : s.InForce type) :
    s.setProfile type (s.profileText type) = (s, none) := by
  obtain ⟨⟨hw, hw'⟩, ⟨hh, hh'⟩, hf, hf'⟩ := measured_of_hasVideoValues hmeasured hforce
  have hint : ¬(2 ^ 31 ≤ s.width type ∨ 2 ^ 31 ≤ s.height type ∨ 2 ^ 31 ≤ s.fps type) := by omega
  have hpos : ¬(s.width type = 0 ∨ s.height type = 0 ∨ s.fps type = 0) := by omega
  rw [setProfile, profileText, matchProfile_toDigits]
  simp only [if_neg hint, if_neg hpos, show s.hasVideoValues _ _ _ = true from hforce, if_true,
    Function.update_eq_self]

/--
**A text that is set back is one that the callback would have taken.** Whatever the parameters of the
sensor were set to, a size that no profile has leaves all as it is, and the text that the parameter is
set back to says which size is in force.
-/
theorem setBack_accepted (value : Rs2Stream → Nat) (settings : List Setting)
    (hmeasured : ∀ p ∈ s.profiles, p.Measured) (htype : ∃ p ∈ s.videoProfiles, p.type = type)
    (hback : ((settings.foldl set (s.registerSensorParameters value)).setProfile type text).2 = some back) :
    let s' := settings.foldl set (s.registerSensorParameters value)
    (s'.setProfile type text).1 = s' ∧
      matchProfile back = some (s'.width type, s'.height type, s'.fps type) ∧
      s'.setProfile type back = (s', none) := by
  intro s'
  obtain ⟨hprofiles, hkeep⟩ := settings_keep settings (s.registerSensorParameters value) type
  have hforce : s'.InForce type := hkeep (inForce_register value htype)
  have hmeasured' : ∀ p ∈ s'.profiles, p.Measured := by
    intro p hp
    rw [hprofiles, register_profiles] at hp
    exact hmeasured p hp
  rcases s'.setProfile_cases type text with ⟨width, height, fps, -, hset⟩ | hset | hset
  · rw [show (s'.setProfile type text).2 = none by rw [hset]] at hback
    simp at hback
  · rw [show (s'.setProfile type text).2 = none by rw [hset]] at hback
    simp at hback
  · rw [show (s'.setProfile type text).2 = some (s'.profileText type) by rw [hset]] at hback
    obtain rfl := Option.some.inj hback
    exact ⟨by rw [hset], matchProfile_toDigits _ _ _, setProfile_profileText hmeasured' hforce⟩

end SetBack

end RosSensor

section Example

/-- A sensor with two sizes of the color stream and one of the depth stream. -/
def colorSensor : RosSensor where
  isVideoSensor := true
  profiles :=
    [⟨.color, 0, .rgb8, 30, .video 640 480, true⟩, ⟨.color, 0, .rgb8, 15, .video 1280 720, false⟩,
      ⟨.depth, 0, .z16, 30, .video 848 480, true⟩]

/-- The numbers of the streams in `rs2_stream`. -/
def streamValue : Rs2Stream → Nat
  | .depth => 1
  | .color => 2
  | .infrared => 3
  | .gyro => 5
  | .accel => 6
  | .other id => id

/-- A size of the color stream is set and then one that the sensor has not. -/
theorem setBack_accepted_color :
    let s := [Setting.profile .color " 1280 X 720, 15".toList].foldl RosSensor.set
      (colorSensor.registerSensorParameters streamValue)
    (s.setProfile .color "9x9x9".toList).1 = s ∧
      s.setProfile .color "1280x720x15".toList = (s, none) := by
  have hback : (([Setting.profile .color " 1280 X 720, 15".toList].foldl RosSensor.set
      (colorSensor.registerSensorParameters streamValue)).setProfile .color "9x9x9".toList).2 =
        some "1280x720x15".toList := by
    decide +kernel
  obtain ⟨hsame, -, hset⟩ := RosSensor.setBack_accepted (s := colorSensor) streamValue _ (by decide)
    (by decide) hback
  exact ⟨hsame, hset⟩

end Example

end Tetra.Camera
