import Mathlib.Data.List.Induction
import Tetra.Service.SavedLocation

/-!
# Loading a location, all or nothing

What `OpenLocationFile` makes of any file. It reads on until the end-of-file flag is up, and
reports what its last call of `fgets` returned; whether a line held a pose has no part in it. A
line with two to seven fields stops it at `atof(NULL)`. `allOrNothing_iff` says which files are
loaded as they should be.
-/

namespace Tetra.Service

open EventLog

variable {p : Platform}

/-! ## One line -/

/-- How many fields a line has. -/
def fieldCount (line : List Char) : Nat := (strtokCalls line).length

/-- The line has either no field for a number, or one for each of the seven. -/
def WholeLine (line : List Char) : Prop := fieldCount line < 2 ∨ 8 ≤ fieldCount line

instance (line : List Char) : Decidable (WholeLine line) := inferInstanceAs (Decidable (_ ∨ _))

theorem linePose_isSome_iff {line : List Char} :
    (∃ pose, linePose p line = some pose) ↔ 8 ≤ fieldCount line := by
  unfold linePose fieldCount
  split
  · next hfields =>
    refine iff_of_true ⟨_, rfl⟩ ?_
    rw [hfields]
    simp
  · next hfew =>
    refine iff_of_false (by simp) fun hlength => ?_
    match htokens : strtokCalls line with
    | _ :: _ :: _ :: _ :: _ :: _ :: _ :: _ :: _ => exact hfew _ _ _ _ _ _ _ _ _ htokens
    | [] | [_] | [_, _] | [_, _, _] | [_, _, _, _] | [_, _, _, _, _] | [_, _, _, _, _, _]
    | [_, _, _, _, _, _, _] =>
      rw [htokens] at hlength
      exact absurd hlength (by simp)

/-- **A line is read to its end exactly if it is whole, and then its pose is stored, if it has one.** -/
theorem readLine_iff {pose pose' : GoalPose} {line : List Char} :
    readLine p pose line = some pose' ↔
      WholeLine line ∧ pose' = (linePose p line).getD pose := by
  constructor
  · intro h
    refine ⟨?_, readLine_eq h⟩
    unfold readLine at h
    unfold WholeLine fieldCount
    match htokens : strtokCalls line with
    | [] | [_] => simp
    | _ :: _ :: _ :: _ :: _ :: _ :: _ :: _ :: _ => simp
    | [_, _] | [_, _, _] | [_, _, _, _] | [_, _, _, _, _] | [_, _, _, _, _, _]
    | [_, _, _, _, _, _, _] =>
      -- the field after the last one is `NULL`
      rw [htokens] at h
      simp [readFields, storeField] at h
  · rintro ⟨hwhole, rfl⟩
    -- a whole line is read to its end, and `readLine_eq` says what it leaves
    suffices hread : ∃ pose', readLine p pose line = some pose' by
      obtain ⟨pose', hpose'⟩ := hread
      rw [hpose', readLine_eq hpose']
    unfold WholeLine fieldCount at hwhole
    unfold readLine
    match htokens : strtokCalls line with
    | [] => exact ⟨pose, rfl⟩
    | [_] => exact ⟨pose, rfl⟩
    | _ :: x :: y :: z :: qx :: qy :: qz :: qw :: rest =>
      simp only [readFields, storeField, Option.bind_eq_bind, Option.bind_some]
      exact ⟨_, readFields_of_le (by omega)⟩
    | [_, _] | [_, _, _] | [_, _, _, _] | [_, _, _, _, _] | [_, _, _, _, _, _]
    | [_, _, _, _, _, _, _] =>
      rw [htokens] at hwhole
      simp at hwhole

/-! ## The whole file -/

/-- The last call of `fgets` returned a line. -/
def endsInLine (calls : List (Option (List Char))) : Bool :=
  (calls.getLast?.map (·.isSome)).getD false

theorem readCall_iff {st st' : GoalPose × Bool} {call : Option (List Char)} :
    readCall p st call = some st' ↔
      (∀ line, call = some line → WholeLine line) ∧
        st' = ((call.bind (linePose p)).getD st.1, call.isSome) := by
  cases call with
  | none =>
    rw [readCall, Option.some.injEq]
    exact ⟨fun h => ⟨fun line hline => by simp at hline, h.symm⟩, fun h => h.2.symm⟩
  | some line =>
    rw [readCall, Option.map_eq_some_iff]
    simp only [readLine_iff, Option.some.injEq, forall_eq', Option.bind_some, Option.isSome_some]
    constructor
    · rintro ⟨pose, ⟨hwhole, rfl⟩, rfl⟩
      exact ⟨hwhole, rfl⟩
    · rintro ⟨hwhole, rfl⟩
      exact ⟨_, ⟨hwhole, rfl⟩, rfl⟩

/-- **The outer loop ends exactly if every line is whole.** The pose is that of the last line with
eight fields, the result that of the last call. -/
theorem foldlM_readCall_iff {calls : List (Option (List Char))} {pose : GoalPose} :
    ∀ {st' : GoalPose × Bool}, calls.foldlM (readCall p) (pose, false) = some st' ↔
      (∀ line, some line ∈ calls → WholeLine line) ∧
        st' = ((lastOf (·.bind (linePose p)) calls).getD pose, endsInLine calls) := by
  induction calls using List.reverseRecOn with
  | nil =>
    intro st'
    simp [endsInLine, eq_comm]
  | append_singleton calls call ih =>
    intro st'
    have hlast : endsInLine (calls ++ [call]) = call.isSome := by simp [endsInLine]
    have hone : ∀ st, [call].foldlM (readCall p) st = readCall p st call := by simp
    rw [List.foldlM_append, Option.bind_eq_bind, Option.bind_eq_some_iff, lastOf_concat, hlast,
      Option.getD_or]
    simp only [ih, hone, readCall_iff]
    constructor
    · rintro ⟨st, ⟨hbefore, rfl⟩, hcall, rfl⟩
      refine ⟨?_, rfl⟩
      intro line hline
      rcases List.mem_append.mp hline with hmem | hmem
      · exact hbefore line hmem
      · exact hcall line (List.mem_singleton.mp hmem).symm
    · rintro ⟨hall, rfl⟩
      refine ⟨_, ⟨fun line hline => hall line (List.mem_append_left _ hline), rfl⟩, ?_, rfl⟩
      rintro line rfl
      exact hall line (List.mem_append_right _ List.mem_cons_self)

/-- A file asks for a pose if one of its lines has eight fields. -/
theorem filePose_isSome_iff {content : List Char} :
    (∃ pose, filePose p content = some pose) ↔
      ∃ line, some line ∈ fgetsCalls content ∧ 8 ≤ fieldCount line := by
  rw [filePose, lastOf_isSome_iff]
  constructor
  · rintro ⟨call, hcall, pose, hpose⟩
    obtain ⟨line, rfl, hline⟩ := Option.bind_eq_some_iff.mp hpose
    exact ⟨line, hcall, linePose_isSome_iff.mp ⟨pose, hline⟩⟩
  · rintro ⟨line, hline, hfields⟩
    obtain ⟨pose, hpose⟩ := linePose_isSome_iff.mpr hfields
    exact ⟨some line, hline, pose, hpose⟩

/-! ## All or nothing -/

/-- The components of a pose are the seven fields of one line of a file. -/
def FromLine (p : Platform) (content : List Char) (pose : GoalPose) : Prop :=
  ∃ line, some line ∈ fgetsCalls content ∧ linePose p line = some pose

/-- `OpenLocationFile` returns, and the pose is from one line and the result true, or there is no
such line, the pose is as before and the result false. -/
def AllOrNothing (p : Platform) (s : Node) (location : String) (content : List Char) : Prop :=
  ∃ s' result, s.openLocationFile p location (some content) = some (s', result) ∧
    (FromLine p content s'.goalPose ∨ s'.goalPose = s.goalPose) ∧
    (result = true ↔ FromLine p content s'.goalPose)

/-- Each line is whole, and the file ends within a line exactly if one of its lines has eight
fields. -/
def WellCut (content : List Char) : Prop :=
  (∀ line, some line ∈ fgetsCalls content → WholeLine line) ∧
    (endsInLine (fgetsCalls content) = true ↔
      ∃ line, some line ∈ fgetsCalls content ∧ 8 ≤ fieldCount line)

section Load

variable {s s' : Node} {location : String} {content : List Char} {result : Bool}

theorem openLocationFile_iff (hname : location ≠ "HOME") :
    s.openLocationFile p location (some content) = some (s', result) ↔
      (∀ line, some line ∈ fgetsCalls content → WholeLine line) ∧
        s' = { s with goalPose := (filePose p content).getD s.goalPose } ∧
        result = endsInLine (fgetsCalls content) := by
  rw [Node.openLocationFile, if_neg hname]
  dsimp only
  rw [Option.bind_eq_bind, Option.bind_eq_some_iff]
  constructor
  · rintro ⟨st, hst, hs⟩
    obtain ⟨hwhole, rfl⟩ := foldlM_readCall_iff.mp hst
    obtain ⟨rfl, rfl⟩ := Prod.mk.inj (Option.some.inj hs)
    exact ⟨hwhole, rfl, rfl⟩
  · rintro ⟨hwhole, rfl, rfl⟩
    exact ⟨_, foldlM_readCall_iff.mpr ⟨hwhole, rfl⟩, rfl⟩

/-- What is loaded is from a line exactly if some line has a pose. -/
theorem fromLine_iff : FromLine p content ((filePose p content).getD s.goalPose) ↔
    ∃ line, some line ∈ fgetsCalls content ∧ 8 ≤ fieldCount line := by
  constructor
  · rintro ⟨line, hline, hpose⟩
    exact ⟨line, hline, linePose_isSome_iff.mp ⟨_, hpose⟩⟩
  · intro hsome
    obtain ⟨pose, hpose⟩ := filePose_isSome_iff.mpr hsome
    obtain ⟨call, hcall, hbind⟩ := exists_of_lastOf hpose
    obtain ⟨line, rfl, hline⟩ := Option.bind_eq_some_iff.mp hbind
    rw [hpose, Option.getD_some]
    exact ⟨line, hcall, hline⟩

/-- Without such a line the pose is as before. -/
theorem goalPose_of_not_fromLine
    (h : ¬ FromLine p content ((filePose p content).getD s.goalPose)) :
    (filePose p content).getD s.goalPose = s.goalPose := by
  cases hpose : filePose p content with
  | none => rfl
  | some pose => exact absurd (fromLine_iff.mpr (filePose_isSome_iff.mp ⟨pose, hpose⟩)) h

theorem AllOrNothing.wellCut (hname : location ≠ "HOME") (h : AllOrNothing p s location content) :
    WellCut content := by
  obtain ⟨s', result, hopen, _, hresult⟩ := h
  obtain ⟨hwhole, rfl, rfl⟩ := (openLocationFile_iff hname).mp hopen
  exact ⟨hwhole, hresult.trans fromLine_iff⟩

theorem WellCut.allOrNothing (hname : location ≠ "HOME") (h : WellCut content) :
    AllOrNothing p s location content := by
  obtain ⟨hwhole, hends⟩ := h
  refine ⟨_, _, (openLocationFile_iff hname).mpr ⟨hwhole, rfl, rfl⟩, ?_, hends.trans fromLine_iff.symm⟩
  by_cases hfrom : FromLine p content ((filePose p content).getD s.goalPose)
  · exact Or.inl hfrom
  · exact Or.inr (goalPose_of_not_fromLine hfrom)

/--
**A file is loaded, all or nothing and with the right result, exactly if no line has two to seven
fields, and it ends within a line if and only if there is a line with eight.**
-/
theorem allOrNothing_iff (hname : location ≠ "HOME") :
    AllOrNothing p s location content ↔ WellCut content :=
  ⟨AllOrNothing.wellCut hname, WellCut.allOrNothing hname⟩

end Load

/-- Behind a newline the end of the file is still to be found: such a file never ends within a line. -/
theorem endsInLine_newline (content : List Char) :
    endsInLine (fgetsCalls (content ++ ['\n'])) = false := by
  have hcons : ∀ (line : Option (List Char)) {calls}, calls ≠ [] →
      endsInLine (line :: calls) = endsInLine calls := by
    intro line calls hne
    rw [endsInLine, List.getLast?_cons_of_ne_nil hne, endsInLine]
  have hne : ∀ (content line : List Char) (room : Nat), fgetsFrom content room line ≠ [] := by
    intro content
    induction content with
    | nil => intro line room; simp [fgetsFrom]; split <;> simp
    | cons c content ih =>
      intro line room
      rw [fgetsFrom]
      split
      · simp
      · exact ih _ _
  -- whatever of a line has been read, and however much room is left
  suffices h : ∀ (line : List Char) (room : Nat),
      endsInLine (fgetsFrom (content ++ ['\n']) room line) = false from h [] _
  induction content with
  | nil => intro line room; simp [fgetsFrom, endsInLine]
  | cons c content ih =>
    intro line room
    rw [List.cons_append, fgetsFrom]
    split
    · rw [hcons _ (hne _ _ _)]
      exact ih [] _
    · exact ih _ _

/-- A pose without a newline after it. -/
def unterminated : List Char := "0,1,2,3,0,0,0,1".toList

theorem allOrNothing_unterminated :
    AllOrNothing decimalPlatform {} "DOCK" unterminated ↔ WellCut unterminated :=
  allOrNothing_iff (by decide)

/-- A line with two fields makes the node crash. A line in the format of `SaveLocation` is loaded,
and reported as a failure. -/
theorem loaded_badly :
    (({} : Node).openLocationFile decimalPlatform "DOCK" (some "0,1\n".toList) = none ∧
        ¬ AllOrNothing decimalPlatform {} "DOCK" "0,1\n".toList) ∧
      (({} : Node).openLocationFile decimalPlatform "DOCK" (some (unterminated ++ ['\n']))).map
          (fun r => (r.1.goalPose, r.2)) = some (⟨1, 2, 3, 0, 0, 0, 1⟩, false) ∧
        ¬ AllOrNothing decimalPlatform {} "DOCK" (unterminated ++ ['\n']) := by
  have hcrash : ({} : Node).openLocationFile decimalPlatform "DOCK" (some "0,1\n".toList) = none := by
    decide +kernel
  refine ⟨⟨hcrash, ?_⟩, by decide +kernel, ?_⟩
  · rintro ⟨s', result, hopen, _⟩
    exact absurd (hcrash.symm.trans hopen) (by simp)
  · intro hall
    obtain ⟨_, hends⟩ := hall.wellCut (by decide)
    rw [endsInLine_newline] at hends
    exact absurd (hends.mpr ⟨_, List.mem_cons_self, by decide +kernel⟩) (by decide)

end Tetra.Service
