import Mathlib.Data.List.TakeWhile
import Tetra.Lib.FixedPoint
import Tetra.Service.LocationFile

/-!
# Saving a location

`Set_Location_Command` and `SaveLocation`. A pose that is saved comes back from `OpenLocationFile`
as it was (`openLocationFile_saved`), but neither of the two functions says so: the handler
overwrites `command_result` with its own `bResult`, which is still `false`, and the reader takes the
end of the file behind the newline for a failure.
-/

namespace Tetra.Service

open FixedPoint

/-! ## The source -/

/-- `TF_POSE`. -/
structure TfPose where
  poseTFx : ℚ := 0
  poseTFy : ℚ := 0
  poseTFz : ℚ := 0
  poseTFqx : ℚ := 0
  poseTFqy : ℚ := 0
  poseTFqz : ℚ := 0
  poseTFqw : ℚ := 1
  deriving DecidableEq

/-- The response of `set_location_cmd`. -/
structure SetLocationResponse where
  poseX : ℚ := 0
  poseY : ℚ := 0
  poseZ : ℚ := 0
  poseQx : ℚ := 0
  poseQy : ℚ := 0
  poseQz : ℚ := 0
  poseQw : ℚ := 0
  commandResult : Bool := false
  deriving DecidableEq

/-- The files of `/home/tetra/DATA` by the location they are named after. -/
abbrev DataFiles := String → Option (List Char)

/-- `%lf`. -/
def lf (x : ℚ) : List Char := format 6 x

/-- `"0,%lf,%lf,%lf,%lf,%lf,%lf,%lf \n"`, applied to a pose. -/
def savedLine (t : TfPose) : List Char :=
  [','].intercalate [['0'], lf t.poseTFx, lf t.poseTFy, lf t.poseTFz, lf t.poseTFqx, lf t.poseTFqy,
    lf t.poseTFqz, lf t.poseTFqw ++ [' ', '\n']]

/-- `SaveLocation`; `opens` is whether `fopen` succeeds. -/
def saveLocation (files : DataFiles) (location : String) (t : TfPose) (opens : Bool) :
    Bool × DataFiles :=
  if opens then (true, Function.update files location (some (savedLine t))) else (false, files)

/-- `Set_Location_Command`, with `_pTF_pose`. -/
def setLocationCommand (files : DataFiles) (location : String) (t : TfPose) (opens : Bool) :
    SetLocationResponse × DataFiles :=
  let bResult := false
  if location = "HOME" then
    let response : SetLocationResponse := { commandResult := false }
    ({ response with commandResult := bResult }, files)
  else
    let saved := saveLocation files location t opens
    let response : SetLocationResponse :=
      ⟨t.poseTFx, t.poseTFy, t.poseTFz, t.poseTFqx, t.poseTFqy, t.poseTFqz, t.poseTFqw, saved.1⟩
    ({ response with commandResult := bResult }, saved.2)

/-! ## What is written -/

/-- The goal that a saved pose is to become. -/
def TfPose.goal (t : TfPose) : GoalPose :=
  ⟨t.poseTFx, t.poseTFy, t.poseTFz, t.poseTFqx, t.poseTFqy, t.poseTFqz, t.poseTFqw⟩

/-- A multiple of `10 ^ (-6)` that is in the range of a double. -/
def Micro (x : ℚ) : Prop := ∃ i : Int, x = i / 10 ^ 6 ∧ i.natAbs < 2 ^ 1024 * 10 ^ 6

/-- Each component of a pose. -/
def TfPose.All (P : ℚ → Prop) (t : TfPose) : Prop :=
  P t.poseTFx ∧ P t.poseTFy ∧ P t.poseTFz ∧ P t.poseTFqx ∧ P t.poseTFqy ∧ P t.poseTFqz ∧
    P t.poseTFqw

/-- Neither the separator nor what ends a line or a string is in a number. -/
theorem not_mem_lf {c : Char} (x : ℚ) (hc : c = ',' ∨ c = '\n' ∨ c = '\x00') : c ∉ lf x := by
  intro h
  rcases mem_text h with rfl | rfl | hdigit
  · revert hc
    decide
  · revert hc
    decide
  · rcases hc with rfl | rfl | rfl <;> exact absurd hdigit (by decide)

theorem value_lf {x : ℚ} (hx : Micro x) {cs : List Char} (hcs : Stops cs) :
    value (lf x ++ cs) = x := by
  obtain ⟨i, rfl, _⟩ := hx
  exact value_format i (by decide) hcs

/-- `atof` reads what `%lf` writes, with white space after it or none, as the decimal that it is. -/
def Platform.ReadsDecimals (p : Platform) : Prop :=
  ∀ {x : ℚ}, Micro x → ∀ cs : List Char, (∀ c ∈ cs, c.isWhitespace) →
    p.atof (lf x ++ cs) = value (lf x ++ cs)

theorem length_lf {x : ℚ} (hx : Micro x) : (lf x).length ≤ 317 := by
  obtain ⟨i, rfl, hi⟩ := hx
  have hrange : 2 ^ 1024 * 10 ^ 6 ≤ 10 ^ (309 + 6) := by decide +kernel
  rw [lf, format_eq]
  exact length_text_le (m := 309) (by decide) (by decide) (hi.trans_le hrange)

theorem lf_ne_nil (x : ℚ) : lf x ≠ [] := text_ne_nil 6 _ _

/-! ## Reading the line -/

/-- A line without a newline inside that fits the buffer is read by one call, and the next returns
`NULL`. -/
theorem fgetsFrom_line {cs line : List Char} {room : Nat} (hcs : '\n' ∉ cs)
    (hroom : cs.length < room) :
    fgetsFrom (cs ++ ['\n']) room line = [some (line ++ cs ++ ['\n']), none] := by
  induction cs generalizing room line with
  | nil => simp [fgetsFrom]
  | cons c cs ih =>
    have hc : c ≠ '\n' := fun h => hcs (h ▸ List.mem_cons_self)
    rw [List.length_cons] at hroom
    rw [List.cons_append, fgetsFrom, if_neg (by simp [hc]; omega),
      ih (fun h => hcs (List.mem_cons_of_mem c h)) (by omega)]
    simp

/-- The line up to its newline, in which nothing ends the line or the string. -/
theorem savedLine_eq (t : TfPose) : ∃ front, savedLine t = front ++ ['\n'] ∧
    (∀ c, c = '\n' ∨ c = '\x00' → c ∉ front) ∧
    (t.All Micro → front.length < bufLen - 1) := by
  refine ⟨['0'] ++ ',' :: lf t.poseTFx ++ ',' :: lf t.poseTFy ++ ',' :: lf t.poseTFz ++
    ',' :: lf t.poseTFqx ++ ',' :: lf t.poseTFqy ++ ',' :: lf t.poseTFqz ++
    ',' :: lf t.poseTFqw ++ [' '], ?_, ?_, ?_⟩
  · simp [savedLine, List.intercalate]
  · intro c hc hmem
    have hlf : ∀ x, c ∉ lf x := fun x => not_mem_lf x (Or.inr hc)
    simp only [List.mem_append, List.mem_cons, List.not_mem_nil, or_false, hlf] at hmem
    rcases hc with rfl | rfl <;> simp at hmem
  · rintro ⟨hx, hy, hz, hqx, hqy, hqz, hqw⟩
    have hlengths := And.intro (length_lf hx) (And.intro (length_lf hy) (And.intro (length_lf hz)
      (And.intro (length_lf hqx) (And.intro (length_lf hqy) (And.intro (length_lf hqz)
        (length_lf hqw))))))
    simp only [List.length_append, List.length_cons, List.length_nil, bufLen]
    omega

theorem fgetsCalls_savedLine {t : TfPose} (ht : t.All Micro) :
    fgetsCalls (savedLine t) = [some (savedLine t), none] := by
  obtain ⟨front, hline, hfront, hshort⟩ := savedLine_eq t
  rw [hline, fgetsCalls, fgetsFrom_line (hfront _ (Or.inl rfl)) (hshort ht), List.nil_append]

/-- The fields of the line; the space and the newline stay with the last one. -/
theorem strtokCalls_savedLine (t : TfPose) :
    strtokCalls (savedLine t) = [['0'], lf t.poseTFx, lf t.poseTFy, lf t.poseTFz, lf t.poseTFqx,
      lf t.poseTFqy, lf t.poseTFqz, lf t.poseTFqw ++ [' ', '\n']] := by
  obtain ⟨front, hline, hfront, -⟩ := savedLine_eq t
  have hwhole : (savedLine t).takeWhile (· ≠ '\x00') = savedLine t := by
    refine List.takeWhile_eq_self_iff.mpr fun c hc => ?_
    simp only [decide_eq_true_eq]
    rintro rfl
    rw [hline] at hc
    rcases List.mem_append.mp hc with hc | hc
    · exact hfront _ (Or.inr rfl) hc
    · exact absurd hc (by decide)
  have hcomma : ∀ x, ',' ∉ lf x := fun x => not_mem_lf x (Or.inl rfl)
  rw [strtokCalls, hwhole, savedLine, List.splitOn_intercalate]
  · simp [lf_ne_nil]
  · simp [hcomma]
  · simp

/-! ## Saved and loaded -/

section Saved

variable {p : Platform} {t : TfPose} {location : String}

theorem readLine_savedLine (hatof : p.ReadsDecimals) (ht : t.All Micro) (pose : GoalPose) :
    readLine p pose (savedLine t) = some t.goal := by
  obtain ⟨hx, hy, hz, hqx, hqy, hqz, hqw⟩ := ht
  have hfield : ∀ {x}, Micro x → p.atof (lf x) = x := by
    intro x hx
    have hread := hatof hx [] (by simp)
    have hvalue : value (lf x ++ []) = x := value_lf hx nofun
    rwa [hvalue, List.append_nil] at hread
  have hlast : p.atof (lf t.poseTFqw ++ [' ', '\n']) = t.poseTFqw := by
    rw [hatof hqw _ (by simp)]
    exact value_lf hqw fun c hc => by rw [← Option.some.inj hc]; rfl
  rw [readLine, strtokCalls_savedLine]
  simp only [readFields, storeField, Option.bind_eq_bind, Option.bind_some, hfield hx, hfield hy,
    hfield hz, hfield hqx, hfield hqy, hfield hqz, hlast]
  rfl

/-- **A saved pose is read back as it was, and the reader reports a failure.** -/
theorem openLocationFile_saved (s : Node) (hatof : p.ReadsDecimals) (hname : location ≠ "HOME")
    (ht : t.All Micro) : s.openLocationFile p location (some (savedLine t)) =
      some ({ s with goalPose := t.goal }, false) := by
  rw [Node.openLocationFile, if_neg hname]
  simp only [fgetsCalls_savedLine ht, List.foldlM_cons, List.foldlM_nil, readCall,
    readLine_savedLine hatof ht, Option.map_some, Option.bind_eq_bind, Option.bind_some,
    Option.pure_def]

theorem setLocationCommand_files (files : DataFiles) (hname : location ≠ "HOME") :
    (setLocationCommand files location t true).2 location = some (savedLine t) := by
  rw [setLocationCommand, if_neg hname]
  exact Function.update_self ..

/-- Whatever is saved, the response does not say so. -/
theorem setLocationCommand_result (files : DataFiles) (location : String) (t : TfPose)
    (opens : Bool) : (setLocationCommand files location t opens).1.commandResult = false := by
  unfold setLocationCommand
  split <;> rfl

/-- What is to hold of a location that is saved in a file that opens, and loaded again: both say
that it went well, the goal is the pose, and a save that writes nothing does not say so. -/
def SavedAndLoaded (p : Platform) (s : Node) (files : DataFiles) (location : String) (t : TfPose) :
    Prop :=
  (setLocationCommand files location t true).1.commandResult = true ∧
    (∃ s', s.openLocationFile p location ((setLocationCommand files location t true).2 location) =
      some (s', true) ∧ s'.goalPose = t.goal) ∧
    ∀ opens, (setLocationCommand files location t opens).1.commandResult = true →
      (setLocationCommand files location t opens).2 location = some (savedLine t)

theorem not_savedAndLoaded (s : Node) (files : DataFiles) :
    ¬ SavedAndLoaded p s files location t := by
  rintro ⟨hresult, -, -⟩
  rw [setLocationCommand_result] at hresult
  exact absurd hresult (by simp)

/--
**For no location and no pose do saving and loading report what they have done.** The pose is in the
file, and it is loaded exactly as it was saved.
-/
theorem saved_unreported (s : Node) (files : DataFiles) (location : String) (t : TfPose)
    (hatof : p.ReadsDecimals) (hname : location ≠ "HOME") (ht : t.All Micro) :
    ¬ SavedAndLoaded p s files location t ∧
      (setLocationCommand files location t true).1.commandResult = false ∧
      s.openLocationFile p location ((setLocationCommand files location t true).2 location) =
        some ({ s with goalPose := t.goal }, false) := by
  refine ⟨not_savedAndLoaded s files, setLocationCommand_result files location t true, ?_⟩
  rw [setLocationCommand_files files hname]
  exact openLocationFile_saved s hatof hname ht

end Saved

/-- A platform that reads decimals exactly; saving and loading use nothing else of it. -/
def decimalPlatform : Platform where
  sqrt x := x
  atan2 _ _ := 0
  atof := value
  getRPY _ := ⟨0, 0, 0⟩

/-- One and a half metres ahead, turned by half a circle. -/
def ahead : TfPose where
  poseTFx := 3 / 2
  poseTFqz := 1
  poseTFqw := 0

theorem ahead_micro : ahead.All Micro := by
  have hzero : Micro 0 := ⟨0, by norm_num, by decide +kernel⟩
  exact ⟨⟨1500000, by norm_num [ahead], by decide +kernel⟩, hzero, hzero, hzero, hzero,
    ⟨1000000, by norm_num [ahead], by decide +kernel⟩, hzero⟩

theorem saved_unreported_dock :
    ¬ SavedAndLoaded decimalPlatform {} (fun _ => none) "DOCK" ahead ∧
      (setLocationCommand (fun _ => none) "DOCK" ahead true).1.commandResult = false ∧
      ({} : Node).openLocationFile decimalPlatform "DOCK"
          ((setLocationCommand (fun _ => none) "DOCK" ahead true).2 "DOCK") =
        some ({ goalPose := ahead.goal }, false) :=
  saved_unreported {} (fun _ => none) "DOCK" ahead (fun _ _ _ => rfl) (by decide) ahead_micro

/-- The location is written, and both functions report a failure. -/
theorem dock_reported_as_failure :
    (setLocationCommand (fun _ => none) "DOCK" ahead true).2 "DOCK" =
        some "0,1.500000,0.000000,0.000000,0.000000,0.000000,1.000000,0.000000 \n".toList ∧
      (setLocationCommand (fun _ => none) "DOCK" ahead true).1.commandResult = false ∧
      (({} : Node).openLocationFile decimalPlatform "DOCK" (some (savedLine ahead))).map (·.2) =
        some false ∧
      ¬ SavedAndLoaded decimalPlatform {} (fun _ => none) "DOCK" ahead := by
  refine ⟨by decide +kernel, by decide +kernel, ?_, not_savedAndLoaded {} _⟩
  rw [openLocationFile_saved {} (fun _ _ _ => rfl) (by decide) ahead_micro]
  rfl

end Tetra.Service
