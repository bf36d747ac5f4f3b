import Mathlib.Data.List.Induction

/-!
# Gyro and accel in one message

The camera sends the readings of its gyro and those of its accelerometer one by one. The node makes one
message of both, by one of two methods: `FillImuData_Copy` gives each gyro reading the acceleration that
came last, `FillImuData_LinearInterpolation` holds the gyro readings back until the next acceleration
comes and interpolates. What they keep from one call to the next is in static variables.

`fillAll_eq` says what has been made of the readings so far, whichever they are. A `double` is a `Float`,
and so are the times: what is computed with them is what the code computes.
-/

namespace Tetra.Camera

/-! ## Readings and messages -/

/-- `Eigen::Vector3d` -/
structure Vector3 where
  x : Float
  y : Float
  z : Float
  deriving DecidableEq, Repr

/-- The first component of a `stream_index_pair`. -/
inductive StreamType
  | any
  | gyro
  | accel
  deriving DecidableEq, Repr

/-- `CimuData` -/
structure CimuData where
  type : StreamType
  data : Vector3
  timeNs : Float
  deriving DecidableEq, Repr

namespace CimuData

/-- `CimuData()` -/
def unset : CimuData := ⟨.any, ⟨0, 0, 0⟩, -1⟩

/-- `is_set` -/
def isSet (d : CimuData) : Bool := 0 < d.timeNs

end CimuData

/-- What the messages have of a `sensor_msgs::msg::Imu`; the time is in nanoseconds. -/
structure Imu where
  stamp : Int64
  angularVelocity : Vector3
  linearAcceleration : Vector3
  deriving DecidableEq, Repr

/-- `CreateUnitedMessage`. The time becomes an integer again. -/
def createUnitedMessage (accelData gyroData : CimuData) : Imu :=
  ⟨gyroData.timeNs.toModel.toInt64, gyroData.data, accelData.data⟩

/-- `lerp` -/
def lerp (a b : Vector3) (t : Float) : Vector3 :=
  ⟨a.x * (1 - t) + b.x * t, a.y * (1 - t) + b.y * t, a.z * (1 - t) + b.z * t⟩

/-- The message of a gyro reading between two accelerations. -/
def unite (accel0 accel1 crntGyro : CimuData) : Imu :=
  let dt := accel1.timeNs - accel0.timeNs
  let alpha := (crntGyro.timeNs - accel0.timeNs) / dt
  createUnitedMessage ⟨.accel, lerp accel0.data accel1.data alpha, crntGyro.timeNs⟩ crntGyro

/-! ## The two methods -/

/-- The static variables of the two functions. -/
structure ImuSync where
  imuHistory : List CimuData := []
  accelData : CimuData := ⟨.accel, ⟨0, 0, 0⟩, -1⟩
  deriving DecidableEq, Repr

/-- The loop of `FillImuData_LinearInterpolation` over the history. -/
def fillLoop : (imuHistory : List CimuData) → (accel0 : CimuData) → (gyrosData : List CimuData) →
    (imuMsgs : List Imu) → List Imu
  | [], _, _, imuMsgs => imuMsgs
  | crntImu :: imuHistory, accel0, gyrosData, imuMsgs =>
    if !accel0.isSet ∧ crntImu.type = .accel then
      fillLoop imuHistory crntImu gyrosData imuMsgs
    else if accel0.isSet ∧ crntImu.type = .accel then
      fillLoop imuHistory crntImu [] (imuMsgs ++ gyrosData.map (unite accel0 crntImu))
    else if accel0.isSet ∧ accel0.timeNs ≤ crntImu.timeNs ∧ crntImu.type = .gyro then
      fillLoop imuHistory accel0 (gyrosData ++ [crntImu]) imuMsgs
    else fillLoop imuHistory accel0 gyrosData imuMsgs

/-- `FillImuData_LinearInterpolation` -/
def fillImuDataLinearInterpolation (s : ImuSync) (imuData : CimuData) : ImuSync × List Imu :=
  let imuHistory := s.imuHistory ++ [imuData]
  if imuData.type ≠ .accel ∨ imuHistory.length < 3 then ({ s with imuHistory }, [])
  else
    -- the loop empties the history; what it has taken last is put back
    ({ s with imuHistory := [imuData] }, fillLoop imuHistory .unset [] [])

/-- `FillImuData_Copy` -/
def fillImuDataCopy (s : ImuSync) (imuData : CimuData) : ImuSync × List Imu :=
  if imuData.type = .accel then ({ s with accelData := imuData }, [])
  else if !s.accelData.isSet then (s, [])
  else (s, [createUnitedMessage s.accelData imuData])

/-- `imu_sync_method`, without `NONE`. -/
inductive SyncMethod
  | copy
  | linearInterpolation
  deriving DecidableEq, Repr

/-- The `switch` of `imu_callback_sync`. -/
def fillImuData : SyncMethod → ImuSync → CimuData → ImuSync × List Imu
  | .copy => fillImuDataCopy
  | .linearInterpolation => fillImuDataLinearInterpolation

/-- Readings one after the other, with all messages that are made of them. -/
def fillAll (method : SyncMethod) (readings : List CimuData) : ImuSync × List Imu :=
  readings.foldl (fun (s, imuMsgs) imuData =>
    let (s, msgs) := fillImuData method s imuData
    (s, imuMsgs ++ msgs)) ({}, [])

/-! ## What they are for -/

/-- Readings cut in front of each acceleration: what comes before the first one, and each of them with
what comes after it. -/
def segments : List CimuData → List CimuData × List (CimuData × List CimuData)
  | [] => ([], [])
  | d :: ds =>
    if d.type = .accel then ([], (d, (segments ds).1) :: (segments ds).2)
    else (d :: (segments ds).1, (segments ds).2)

/-- The gyro readings that are not older than the acceleration they have come after. -/
def following (accel : CimuData) (ds : List CimuData) : List CimuData :=
  ds.filter fun d => accel.timeNs ≤ d.timeNs ∧ d.type = .gyro

/-- Each of them between the accelerations before and after it. -/
def interpolated : List (CimuData × List CimuData) → List Imu
  | (accel0, ds) :: (accel1, ds') :: segs =>
    (following accel0 ds).map (unite accel0 accel1) ++ interpolated ((accel1, ds') :: segs)
  | _ => []

/-- What a method is to make of readings. -/
def synced : SyncMethod → List (CimuData × List CimuData) → List Imu
  | .copy, segs => segs.flatMap fun (accel, ds) => ds.map (createUnitedMessage accel)
  | .linearInterpolation, segs => interpolated segs

/-- A reading of one of the two sensors, with a time. -/
def CimuData.Measured (d : CimuData) : Prop := d.type ≠ .any ∧ 0 < d.timeNs

theorem CimuData.Measured.isSet {d : CimuData} (h : d.Measured) : d.isSet = true := by
  simpa [CimuData.isSet] using h.2

/-! ## Segments -/

section Segments

variable {a b d : CimuData} {ds ds' pre post : List CimuData}
  {segs segs' : List (CimuData × List CimuData)}

theorem segments_of_forall_ne (h : ∀ d ∈ ds, d.type ≠ .accel) : segments ds = (ds, []) := by
  induction ds with
  | nil => rfl
  | cons d ds ih =>
    rw [segments, if_neg (h d (by simp)), ih fun d' hd' => h d' (List.mem_cons_of_mem _ hd')]

theorem segments_append_accel (pre post : List CimuData) (ha : a.type = .accel) :
    segments (pre ++ a :: post) =
      ((segments pre).1, (segments pre).2 ++ (a, (segments post).1) :: (segments post).2) := by
  induction pre with
  | nil => simp [segments, ha]
  | cons d pre ih => by_cases hd : d.type = .accel <;> simp [segments, hd, ih]

/-- The last acceleration, if there is one. -/
theorem exists_last_accel (ds : List CimuData) : (∀ d ∈ ds, d.type ≠ .accel) ∨
    ∃ pre a post, ds = pre ++ a :: post ∧ a.type = .accel ∧ ∀ d ∈ post, d.type ≠ .accel := by
  induction ds using List.reverseRecOn with
  | nil => exact Or.inl (by simp)
  | append_singleton ds d ih =>
    by_cases hd : d.type = .accel
    · exact Or.inr ⟨ds, d, [], rfl, hd, by simp⟩
    · rcases ih with hnone | ⟨pre, a, post, rfl, ha, hpost⟩
      · refine Or.inl fun d' hd' => ?_
        rcases List.mem_append.mp hd' with h | h
        · exact hnone d' h
        · rwa [List.mem_singleton.mp h]
      · refine Or.inr ⟨pre, a, post ++ [d], by simp, ha, fun d' hd' => ?_⟩
        rcases List.mem_append.mp hd' with h | h
        · exact hpost d' h
        · rwa [List.mem_singleton.mp h]

/-- What comes after the last acceleration is waiting for the next one. -/
theorem interpolated_append (segs : List (CimuData × List CimuData)) (a : CimuData)
    (ds ds' : List CimuData) (segs' : List (CimuData × List CimuData)) :
    interpolated (segs ++ (a, ds) :: segs') =
      interpolated (segs ++ [(a, ds')]) ++ interpolated ((a, ds) :: segs') := by
  induction segs with
  | nil => simp [interpolated]
  | cons seg segs ih =>
    cases segs with
    | nil => simp [interpolated]
    | cons seg' segs =>
      simp only [List.cons_append, interpolated, List.append_assoc] at ih ⊢
      rw [ih]

end Segments

/-! ## Interpolation -/

/-- The messages that are due. -/
def due (ds : List CimuData) : List Imu := interpolated (segments ds).2

section Interpolation

variable {a d : CimuData} {ds pre post held : List CimuData}

theorem due_append (pre post : List CimuData) (ha : a.type = .accel) :
    due (pre ++ a :: post) = due (pre ++ [a]) ++ due (a :: post) := by
  have hpost := segments_append_accel [] post ha
  rw [List.nil_append] at hpost
  rw [due, due, due, segments_append_accel pre post ha, segments_append_accel pre [] ha, hpost]
  exact interpolated_append _ _ _ _ _

/-- Nothing is due for a gyro reading yet. -/
theorem due_concat_of_ne (ds : List CimuData) (hd : d.type ≠ .accel) : due (ds ++ [d]) = due ds := by
  rcases exists_last_accel ds with hnone | ⟨pre, a, post, rfl, ha, hpost⟩
  · have hnone' : ∀ d' ∈ ds ++ [d], d'.type ≠ .accel := by
      simpa [or_imp, forall_and] using ⟨hnone, hd⟩
    rw [due, due, segments_of_forall_ne hnone, segments_of_forall_ne hnone']
  · have hpost' : ∀ d' ∈ post ++ [d], d'.type ≠ .accel := by
      simpa [or_imp, forall_and] using ⟨hpost, hd⟩
    have hsegment : ∀ ds : List CimuData, (∀ d' ∈ ds, d'.type ≠ .accel) → due (a :: ds) = [] := by
      intro ds hds
      simp [due, segments, ha, segments_of_forall_ne hds, interpolated]
    rw [List.append_assoc, List.cons_append, due_append _ _ ha, due_append _ post ha, hsegment _ hpost,
      hsegment _ hpost']

/-- A message needs two accelerations and a gyro reading. -/
theorem due_of_length_lt (h : ds.length < 3) : due ds = [] := by
  match ds with
  | [] => rfl
  | [d] => by_cases hd : d.type = .accel <;> simp [due, segments, interpolated, hd]
  | [d, d'] =>
    by_cases hd : d.type = .accel <;> by_cases hd' : d'.type = .accel <;>
      simp [due, segments, interpolated, following, hd, hd']
  | _ :: _ :: _ :: _ => exact absurd h (by simp)

theorem interpolated_congr {ds' : List CimuData} (segs : List (CimuData × List CimuData))
    (h : following a ds = following a ds') :
    interpolated ((a, ds) :: segs) = interpolated ((a, ds') :: segs) := by
  cases segs with
  | nil => rfl
  | cons seg segs => rw [interpolated, interpolated, h]

/-- The loop from an acceleration on, with the gyro readings after it that it holds. -/
theorem fillLoop_of_isSet {imuHistory : List CimuData} {imuMsgs : List Imu} (ha : a.isSet = true)
    (h : ∀ d ∈ imuHistory, d.Measured) (hheld : following a held = held) :
    fillLoop imuHistory a held imuMsgs = imuMsgs ++
      interpolated ((a, held ++ (segments imuHistory).1) :: (segments imuHistory).2) := by
  induction imuHistory generalizing a held imuMsgs with
  | nil => simp [fillLoop, segments, interpolated]
  | cons d imuHistory ih =>
    have hlater : ∀ d' ∈ imuHistory, d'.Measured := fun d' hd' => h d' (List.mem_cons_of_mem _ hd')
    rw [fillLoop, if_neg (by simp [ha])]
    by_cases hd : d.type = .accel
    · rw [if_pos ⟨ha, hd⟩, ih (h d (by simp)).isSet hlater rfl]
      simp [segments, hd, interpolated, hheld]
    · rw [if_neg (by simp [hd])]
      by_cases hfollow : a.timeNs ≤ d.timeNs ∧ d.type = .gyro
      · rw [if_pos ⟨ha, hfollow⟩, ih ha hlater (by simp_all [following])]
        simp [segments, hd]
      · rw [if_neg (by simpa [ha] using hfollow), ih ha hlater hheld]
        simp only [segments, if_neg hd]
        congr 1
        refine interpolated_congr _ ?_
        rw [following, following, List.filter_append, List.filter_append,
          List.filter_cons_of_neg (by simpa using hfollow)]

/-- What comes before the first acceleration is dropped. -/
theorem fillLoop_eq {imuHistory : List CimuData} (h : ∀ d ∈ imuHistory, d.Measured) :
    fillLoop imuHistory .unset [] [] = due imuHistory := by
  induction imuHistory with
  | nil => rfl
  | cons d imuHistory ih =>
    have hlater : ∀ d' ∈ imuHistory, d'.Measured := fun d' hd' => h d' (List.mem_cons_of_mem _ hd')
    have hunset : CimuData.unset.isSet = false := by decide
    rw [fillLoop, hunset]
    by_cases hd : d.type = .accel
    · rw [if_pos ⟨rfl, hd⟩, fillLoop_of_isSet (h d (by simp)).isSet hlater rfl]
      simp [due, segments, hd]
    · simp only [hd, and_false, if_false, Bool.false_eq_true, false_and]
      rw [ih hlater]
      simp [due, segments, hd]

end Interpolation

/-! ## From one reading to the next -/

section FillAll

variable {d : CimuData} {readings : List CimuData} {method : SyncMethod}

theorem fillAll_concat (method : SyncMethod) (readings : List CimuData) (d : CimuData) :
    fillAll method (readings ++ [d]) =
      ((fillImuData method (fillAll method readings).1 d).1,
        (fillAll method readings).2 ++ (fillImuData method (fillAll method readings).1 d).2) := by
  rw [fillAll, List.foldl_append]
  rfl

/-- The readings that are held back, and no message is due for them. -/
structure Holds (readings held : List CimuData) : Prop where
  due_eq : due held = []
  from_accel : ∃ pre, readings = pre ++ held ∧
    (pre = [] ∨ ∃ a post, held = a :: post ∧ a.type = .accel)

/-- What is due for the readings that come next depends on those that are held back only. -/
theorem Holds.due_append {held : List CimuData} (h : Holds readings held) (ds : List CimuData) :
    due (readings ++ ds) = due readings ++ due (held ++ ds) := by
  obtain ⟨hdue, pre, rfl, rfl | ⟨a, post, rfl, ha⟩⟩ := h
  · rw [List.nil_append, hdue, List.nil_append]
  · rw [List.append_assoc, List.cons_append, Camera.due_append pre (post ++ ds) ha,
      Camera.due_append pre post ha, hdue, List.append_nil]

theorem Holds.measured {held : List CimuData} (h : Holds readings held)
    (hreadings : ∀ d ∈ readings, d.Measured) : ∀ d ∈ held, d.Measured := by
  obtain ⟨-, pre, rfl, -⟩ := h
  exact fun d hd => hreadings d (List.mem_append_right _ hd)

/-- The step of the interpolation. -/
theorem Holds.fill {s : ImuSync} (h : Holds readings s.imuHistory)
    (hreadings : ∀ r ∈ readings ++ [d], r.Measured) :
    Holds (readings ++ [d]) (fillImuDataLinearInterpolation s d).1.imuHistory ∧
      due (readings ++ [d]) = due readings ++ (fillImuDataLinearInterpolation s d).2 := by
  have hdue := h.due_append [d]
  obtain ⟨hnone, pre, hpre, hfrom⟩ := id h
  have hkept : (pre = [] ∨ ∃ a post, s.imuHistory ++ [d] = a :: post ∧ a.type = .accel) := by
    rcases hfrom with rfl | ⟨a, post, hhistory, ha⟩
    · exact Or.inl rfl
    · exact Or.inr ⟨a, post ++ [d], by simp [hhistory], ha⟩
  have hreadings' : readings ++ [d] = pre ++ (s.imuHistory ++ [d]) := by simp [hpre]
  unfold fillImuDataLinearInterpolation
  dsimp only
  by_cases hd : d.type = .accel
  · by_cases hlength : (s.imuHistory ++ [d]).length < 3
    · rw [if_pos (Or.inr hlength)]
      have hshort := due_of_length_lt hlength
      exact ⟨⟨hshort, pre, hreadings', hkept⟩, by rw [hdue, hshort]⟩
    · rw [if_neg (by simp [hd] at hlength ⊢; omega)]
      have hmeasured : ∀ d' ∈ s.imuHistory ++ [d], d'.Measured := by
        intro d' hd'
        refine hreadings d' ?_
        rw [hreadings']
        exact List.mem_append_right _ hd'
      refine ⟨⟨due_of_length_lt (by simp), readings, rfl, Or.inr ⟨d, [], rfl, hd⟩⟩, ?_⟩
      rw [hdue, fillLoop_eq hmeasured]
  · rw [if_pos (Or.inl hd)]
    refine ⟨⟨?_, pre, hreadings', hkept⟩, ?_⟩
    · rw [due_concat_of_ne _ hd, hnone]
    · rw [due_concat_of_ne _ hd, List.append_nil]

theorem fillAll_linearInterpolation (h : ∀ d ∈ readings, d.Measured) :
    Holds readings (fillAll .linearInterpolation readings).1.imuHistory ∧
      (fillAll .linearInterpolation readings).2 = due readings := by
  induction readings using List.reverseRecOn with
  | nil => exact ⟨⟨rfl, [], rfl, Or.inl rfl⟩, rfl⟩
  | append_singleton readings d ih =>
    obtain ⟨hholds, hmsgs⟩ := ih fun d' hd' => h d' (List.mem_append_left _ hd')
    obtain ⟨hholds', hdue⟩ := hholds.fill h
    rw [fillAll_concat]
    exact ⟨hholds', by rw [hmsgs, hdue]; rfl⟩

/-- The last acceleration is in the static variable. -/
structure Copies (readings : List CimuData) (s : ImuSync) : Prop where
  unset : (∀ d ∈ readings, d.type ≠ .accel) → s.accelData.isSet = false
  latest : ∀ pre a post, readings = pre ++ a :: post → a.type = .accel →
    (∀ d ∈ post, d.type ≠ .accel) → s.accelData = a

theorem copies_concat_accel {s : ImuSync} (hd : d.type = .accel) :
    Copies (readings ++ [d]) { s with accelData := d } := by
  refine ⟨fun h => absurd hd (h d (by simp)), ?_⟩
  intro pre a post hsplit ha hpost
  rcases List.eq_nil_or_concat post with rfl | ⟨post', d', rfl⟩
  · exact List.singleton_inj.mp (List.append_inj' hsplit rfl).2
  · rw [List.concat_eq_append, ← List.cons_append, ← List.append_assoc] at hsplit
    have hlast := List.singleton_inj.mp (List.append_inj' hsplit rfl).2
    exact absurd (hlast ▸ hd) (hpost d' (by simp))

theorem Copies.concat_of_ne {s : ImuSync} (h : Copies readings s) (hd : d.type ≠ .accel) :
    Copies (readings ++ [d]) s := by
  refine ⟨fun hnone => h.unset fun d' hd' => hnone d' (List.mem_append_left _ hd'),
    ?_⟩
  intro pre a post hsplit ha hpost
  rcases List.eq_nil_or_concat post with rfl | ⟨post', d', rfl⟩
  · have hlast := List.singleton_inj.mp (List.append_inj' hsplit rfl).2
    exact absurd (hlast ▸ ha) hd
  · rw [List.concat_eq_append, ← List.cons_append, ← List.append_assoc] at hsplit
    refine h.latest pre a post' (List.append_inj' hsplit rfl).1 ha fun r hr => hpost r ?_
    rw [List.concat_eq_append]
    exact List.mem_append_left _ hr

/-- The step of the copy. -/
theorem Copies.fill {s : ImuSync} (h : Copies readings s)
    (hreadings : ∀ r ∈ readings, r.Measured) (d : CimuData) :
    Copies (readings ++ [d]) (fillImuDataCopy s d).1 ∧
      synced .copy (segments (readings ++ [d])).2 =
        synced .copy (segments readings).2 ++ (fillImuDataCopy s d).2 := by
  unfold fillImuDataCopy
  by_cases hd : d.type = .accel
  · rw [if_pos hd, segments_append_accel readings [] hd]
    exact ⟨copies_concat_accel hd, by simp [synced, segments]⟩
  · rw [if_neg hd]
    rcases exists_last_accel readings with hnone | ⟨pre, a, post, rfl, ha, hpost⟩
    · have hnone' : ∀ r ∈ readings ++ [d], r.type ≠ .accel := by
        simpa [or_imp, forall_and] using ⟨hnone, hd⟩
      rw [if_pos (by simp [h.unset hnone]), segments_of_forall_ne hnone, segments_of_forall_ne hnone']
      exact ⟨h.concat_of_ne hd, rfl⟩
    · have hpost' : ∀ r ∈ post ++ [d], r.type ≠ .accel := by
        simpa [or_imp, forall_and] using ⟨hpost, hd⟩
      have hlatest := h.latest pre a post rfl ha hpost
      rw [if_neg (by simp [hlatest, (hreadings a (by simp)).isSet]), hlatest]
      refine ⟨h.concat_of_ne hd, ?_⟩
      rw [List.append_assoc, List.cons_append, segments_append_accel pre post ha,
        segments_append_accel pre (post ++ [d]) ha, segments_of_forall_ne hpost,
        segments_of_forall_ne hpost']
      simp [synced]

theorem fillAll_copy (h : ∀ d ∈ readings, d.Measured) :
    Copies readings (fillAll .copy readings).1 ∧
      (fillAll .copy readings).2 = synced .copy (segments readings).2 := by
  induction readings using List.reverseRecOn with
  | nil => exact ⟨⟨fun _ => rfl, by simp⟩, rfl⟩
  | append_singleton readings d ih =>
    have hbefore : ∀ r ∈ readings, r.Measured := fun r hr => h r (List.mem_append_left _ hr)
    obtain ⟨hcopies, hmsgs⟩ := ih hbefore
    obtain ⟨hcopies', hsynced⟩ := hcopies.fill hbefore d
    rw [fillAll_concat]
    exact ⟨hcopies', by rw [hmsgs, hsynced]; rfl⟩

/--
**Whatever the readings and however the two sensors take turns, the messages made up to a reading are
the united messages of all readings up to it, in order and each once: with the interpolation one for
every gyro reading between two accelerations that is not older than the first of them.**
-/
theorem fillAll_eq (method : SyncMethod) (h : ∀ d ∈ readings, d.Measured) :
    (fillAll method readings).2 = synced method (segments readings).2 := by
  cases method with
  | copy => exact (fillAll_copy h).2
  | linearInterpolation => exact (fillAll_linearInterpolation h).2

end FillAll

/-- A gyro reading that comes too early, and two that do not. -/
def readingsFive : List CimuData :=
  [⟨.gyro, ⟨1, 0, 0⟩, 1⟩, ⟨.accel, ⟨0, 0, 9.80665⟩, 2⟩, ⟨.gyro, ⟨2, 0, 0⟩, 3⟩, ⟨.gyro, ⟨3, 0, 0⟩, 4⟩,
    ⟨.accel, ⟨0, 1, 9.80665⟩, 5⟩]

theorem readingsFive_measured : ∀ d ∈ readingsFive, d.Measured := by
  unfold CimuData.Measured
  decide +kernel

theorem fillAll_eq_five : (fillAll .linearInterpolation readingsFive).2 =
    [⟨3, ⟨2, 0, 0⟩, lerp ⟨0, 0, 9.80665⟩ ⟨0, 1, 9.80665⟩ (1 / 3)⟩,
      ⟨4, ⟨3, 0, 0⟩, lerp ⟨0, 0, 9.80665⟩ ⟨0, 1, 9.80665⟩ (2 / 3)⟩] := by
  rw [fillAll_eq .linearInterpolation readingsFive_measured]
  decide +kernel

/-- Two accelerations at one time: the quotient is not a number. -/
example : (fillAll .linearInterpolation
    [⟨.accel, ⟨0, 0, 8⟩, 2⟩, ⟨.gyro, ⟨2, 0, 0⟩, 2⟩, ⟨.accel, ⟨0, 0, 10⟩, 2⟩]).2 =
      [⟨2, ⟨2, 0, 0⟩, ⟨0 / 0, 0 / 0, 0 / 0⟩⟩] := by
  decide +kernel

end Tetra.Camera
