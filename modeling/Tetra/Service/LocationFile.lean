import Tetra.Service.Node

/-!
# Location files

`OpenLocationFile` with the C library underneath it: `fgets` in a buffer of `BUF_LEN`
bytes until the end-of-file flag is up, and `strtok` on commas. The content of the file is an
input, `none` when `fopen` fails. A line with two to seven fields makes the source call
`atof(NULL)`; the model ends there.

`filePose` says what a file asks for: the seven numbers after the first field of its last line
with eight fields. `openLocationFile_eq` says that this is what is stored.
-/

namespace Tetra.Service

open EventLog

/-! ## The C library -/

/-- `BUF_LEN`. -/
def bufLen : Nat := 4096

/-- Reads up to `room` more bytes into a line that begins with `line`. -/
def fgetsFrom : List Char → Nat → List Char → List (Option (List Char))
  | [], _, line => if line = [] then [none] else [some line]
  | c :: content, room, line =>
    if c = '\n' ∨ room ≤ 1 then some (line ++ [c]) :: fgetsFrom content (bufLen - 1) []
    else fgetsFrom content (room - 1) (line ++ [c])

/-- What the calls of `fgets` return until `feof` holds. The last one returns `NULL` if the
line before it ended with a newline or filled the buffer. -/
def fgetsCalls (content : List Char) : List (Option (List Char)) :=
  fgetsFrom content (bufLen - 1) []

/-- What the calls of `strtok(…, ",")` return until it is `NULL`. -/
def strtokCalls (line : List Char) : List (List Char) :=
  ((line.takeWhile (· ≠ '\x00')).splitOn ',').filter (· ≠ [])

/-! ## The source -/

/-- The `switch` on `icnt`. -/
def storeField (p : Platform) (pose : GoalPose) (icnt : Nat) (ptr : Option (List Char)) :
    Option GoalPose :=
  match icnt, ptr with
  | 0, some ptr => some { pose with positionX := p.atof ptr }
  | 1, some ptr => some { pose with positionY := p.atof ptr }
  | 2, some ptr => some { pose with positionZ := p.atof ptr }
  | 3, some ptr => some { pose with quarterX := p.atof ptr }
  | 4, some ptr => some { pose with quarterY := p.atof ptr }
  | 5, some ptr => some { pose with quarterZ := p.atof ptr }
  | 6, some ptr => some { pose with quarterW := p.atof ptr }
  | icnt, none =>
    -- only case 0 checks its pointer
    if 1 ≤ icnt ∧ icnt ≤ 6 then none else some pose
  | _, _ => some pose

/-- The inner loop, entered with `ptr` on the token before `rest`. -/
def readFields (p : Platform) : GoalPose → Nat → List (List Char) → Option GoalPose
  | pose, icnt, [] => storeField p pose icnt none
  | pose, icnt, ptr :: rest => do
    let pose ← storeField p pose icnt (some ptr)
    readFields p pose (icnt + 1) rest

/-- One line of the file. -/
def readLine (p : Platform) (pose : GoalPose) (line : List Char) : Option GoalPose :=
  match strtokCalls line with
  | [] => some pose
  | _ :: rest => readFields p pose 0 rest

/-- One turn of the outer loop on `_pGoal_pose` and `bResult`. -/
def readCall (p : Platform) (st : GoalPose × Bool) (call : Option (List Char)) :
    Option (GoalPose × Bool) :=
  match call with
  | some line => (readLine p st.1 line).map (·, true)
  | none => some (st.1, false)

/-- `OpenLocationFile`. -/
def Node.openLocationFile (p : Platform) (s : Node) (location : String)
    (file : Option (List Char)) : Option (Node × Bool) :=
  if location = "HOME" then some ({ s with goalPose := homePose }, true)
  else
    match file with
    | none => some (s, false)
    | some content => do
      let (pose, bResult) ← (fgetsCalls content).foldlM (readCall p) (s.goalPose, false)
      some ({ s with goalPose := pose }, bResult)

/-! ## What a file asks for -/

/-- The pose of a line with eight fields or more. -/
def linePose (p : Platform) (line : List Char) : Option GoalPose :=
  match strtokCalls line with
  | _ :: x :: y :: z :: qx :: qy :: qz :: qw :: _ =>
    some ⟨p.atof x, p.atof y, p.atof z, p.atof qx, p.atof qy, p.atof qz, p.atof qw⟩
  | _ => none

/-- The pose of the last such line. -/
def filePose (p : Platform) (content : List Char) : Option GoalPose :=
  lastOf (·.bind (linePose p)) (fgetsCalls content)

/-- The pose a location stands for, if it resolves to one. -/
def resolve (p : Platform) (location : String) (file : Option (List Char)) : Option GoalPose :=
  if location = "HOME" then some homePose else file.bind (filePose p)

/-! ## What is stored is what the file asks for -/

section Correct

variable {p : Platform}

theorem storeField_none {pose pose' : GoalPose} {icnt : Nat}
    (h : storeField p pose icnt none = some pose') :
    pose' = pose ∧ (icnt = 0 ∨ 7 ≤ icnt) := by
  have hcase : storeField p pose icnt none
      = if 1 ≤ icnt ∧ icnt ≤ 6 then none else some pose := by
    unfold storeField
    split <;> first | rfl | simp_all
  rw [hcase] at h
  split at h
  · simp at h
  · exact ⟨(Option.some.inj h).symm, by omega⟩

/-- From the eighth field on nothing is stored. -/
theorem readFields_of_le {rest : List (List Char)} :
    ∀ {pose : GoalPose} {icnt : Nat}, 7 ≤ icnt → readFields p pose icnt rest = some pose := by
  induction rest with
  | nil =>
    intro pose icnt h
    obtain ⟨k, rfl⟩ := Nat.exists_eq_add_of_le' h
    simp [readFields, storeField]
  | cons ptr rest ih =>
    intro pose icnt h
    obtain ⟨k, rfl⟩ := Nat.exists_eq_add_of_le' h
    simp only [readFields, storeField, Option.bind_eq_bind, Option.bind_some]
    exact ih (by omega)

/-- A line that is read to its end stores its pose, or nothing if it has fewer than eight fields. -/
theorem readLine_eq {pose pose' : GoalPose} {line : List Char}
    (h : readLine p pose line = some pose') : pose' = (linePose p line).getD pose := by
  unfold readLine at h
  unfold linePose
  generalize strtokCalls line = tokens at h ⊢
  match tokens with
  | [] => exact (Option.some.inj h).symm
  | [_] => exact (storeField_none h).1
  | _ :: x :: y :: z :: qx :: qy :: qz :: qw :: rest =>
    simp only [readFields, storeField, Option.bind_eq_bind, Option.bind_some] at h
    -- the seventh number is in, and the fields after it are dropped
    rw [readFields_of_le (by omega)] at h
    exact (Option.some.inj h).symm
  | [_, _] | [_, _, _] | [_, _, _, _] | [_, _, _, _, _] | [_, _, _, _, _, _]
  | [_, _, _, _, _, _, _] =>
    -- the field after the last one is `NULL`, and one of the fields 1 to 6
    simp [readFields, storeField] at h

theorem foldlM_readCall_eq {calls : List (Option (List Char))} :
    ∀ {st st' : GoalPose × Bool}, calls.foldlM (readCall p) st = some st' →
      st'.1 = (lastOf (·.bind (linePose p)) calls).getD st.1 := by
  induction calls with
  | nil =>
    intro st st' h
    rw [← Option.some.inj h]
    rfl
  | cons call calls ih =>
    intro st st' h
    obtain ⟨mid, hmid, hrest⟩ := Option.bind_eq_some_iff.mp (List.foldlM_cons.symm.trans h)
    have hcall : mid.1 = (call.bind (linePose p)).getD st.1 := by
      cases call with
      | none => rw [← Option.some.inj hmid]; rfl
      | some line =>
        obtain ⟨pose, hpose, rfl⟩ := Option.map_eq_some_iff.mp hmid
        exact readLine_eq hpose
    rw [ih hrest, hcall, lastOf_cons, Option.getD_or]

/-- **`OpenLocationFile` stores the pose the location stands for, and nothing otherwise.** -/
theorem openLocationFile_eq {s s' : Node} {location : String} {file : Option (List Char)}
    {bResult : Bool} (h : s.openLocationFile p location file = some (s', bResult)) :
    s' = { s with goalPose := (resolve p location file).getD s.goalPose } := by
  unfold Node.openLocationFile at h
  unfold resolve
  split at h
  · next hHome =>
    rw [if_pos hHome]
    simp only [Option.some.injEq, Prod.mk.injEq] at h
    exact h.1.symm
  · next hHome =>
    rw [if_neg hHome]
    cases file with
    | none =>
      simp only [Option.some.injEq, Prod.mk.injEq] at h
      exact h.1.symm
    | some content =>
      obtain ⟨st, hst, hs⟩ := Option.bind_eq_some_iff.mp h
      simp only [Option.some.injEq, Prod.mk.injEq] at hs
      rw [← hs.1, foldlM_readCall_eq hst]
      rfl

end Correct

/-- A file in the format of `SaveLocation`, and the empty one. -/
example :
    fgetsCalls "0,1,2\n".toList = [some "0,1,2\n".toList, none] ∧
      strtokCalls "0,,1,2\n".toList = ["0".toList, "1".toList, "2\n".toList] ∧
      fgetsCalls [] = [none] := by
  decide +kernel

end Tetra.Service
