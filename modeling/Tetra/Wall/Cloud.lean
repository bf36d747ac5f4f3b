import Mathlib.Algebra.Order.Floor.Ring
import Mathlib.Data.Rat.Floor

/-!
# Walls as point clouds

The part of `virtual_wall/src/virtual_wall.cpp` that turns a polygon into a cloud and merges
clouds. Coordinates are exact rationals; how a point is laid out in the bytes of a cloud is up
to `sensor_msgs` and a parameter (`XyzLayout`). Time stamps are left out, nothing reads them.
-/

namespace Tetra.Wall

/-- `geometry_msgs::msg::Point`, and `Point32`. -/
structure Point where
  x : ℚ
  y : ℚ
  z : ℚ
  deriving DecidableEq

/-- `geometry_msgs::msg::Polygon`. -/
structure Polygon where
  points : List Point := []
  deriving DecidableEq

/-- `sensor_msgs::msg::PointField`. -/
structure PointField where
  name : String
  offset : Nat
  datatype : Nat
  count : Nat
  deriving DecidableEq

/-- `sensor_msgs::msg::PointCloud2` without its stamp, as it is default-constructed. -/
structure PointCloud2 where
  frameId : String := ""
  height : Nat := 0
  width : Nat := 0
  fields : List PointField := []
  isBigendian : Bool := false
  pointStep : Nat := 0
  rowStep : Nat := 0
  data : List UInt8 := []
  isDense : Bool := false
  deriving DecidableEq

/-- What `PointCloud2Modifier::setPointCloud2FieldsByString(1, "xyz")` and the three iterators
do to a cloud: its fields, the bytes of one point and how many they are. -/
structure XyzLayout where
  fields : List PointField
  pointStep : Nat
  encode : Point → List UInt8
  length_encode : ∀ point, (encode point).length = pointStep

/-! ## Dense points -/

/-- At most `fuel` turns of `for (double x = …; x <= last; x += resolution)`. -/
def stepsFrom (last resolution : ℚ) : Nat → ℚ → List ℚ
  | 0, _ => []
  | fuel + 1, x => if x ≤ last then x :: stepsFrom last resolution fuel (x + resolution) else []

/-- All turns of the loop from `first` on. -/
def steps (first last : ℚ) (resolution : {r : ℚ // 0 < r}) : List ℚ :=
  stepsFrom last resolution (⌊(last - first) / resolution⌋ + 1).toNat first

/-- The points of the rectangle that the first four vertices span. -/
def densePoints (vertices : List Point) (resolution : {r : ℚ // 0 < r}) : List Point :=
  match vertices with
  | bottomLeft :: bottomRight :: topRight :: topLeft :: _ =>
    let minX := min bottomLeft.x topLeft.x
    let maxX := max bottomRight.x topRight.x
    let minY := min bottomLeft.y bottomRight.y
    let maxY := max topLeft.y topRight.y
    (steps minX maxX resolution).flatMap fun x =>
      (steps minY maxY resolution).map fun y => ⟨x, y, 0⟩
  | _ => []

/-- `generateDensePoints`. -/
def generateDensePoints (vertices : List Point) (resolution : {r : ℚ // 0 < r}) : List Point :=
  densePoints vertices resolution

/-- `generateDensePoints2`, the copy for the local costmap. -/
def generateDensePoints2 (vertices : List Point) (resolution : {r : ℚ // 0 < r}) : List Point :=
  densePoints vertices resolution

/-! ## Clouds -/

/-- The cloud of these points in a frame. -/
def xyzCloud (layout : XyzLayout) (frameId : String) (points : List Point) : PointCloud2 where
  frameId := frameId
  height := 1
  width := points.length
  fields := layout.fields
  isBigendian := false
  pointStep := layout.pointStep
  rowStep := points.length * layout.pointStep
  data := points.flatMap layout.encode
  isDense := true

/-- `createPointCloud`. -/
def createPointCloud (layout : XyzLayout) (densePoints : List Point) : PointCloud2 :=
  xyzCloud layout "map" densePoints

/-- `createPointCloud2`, the copy for the local costmap; its frame is "map" as well. -/
def createPointCloud2 (layout : XyzLayout) (densePoints : List Point) : PointCloud2 :=
  xyzCloud layout "map" densePoints

/-- `mergePointClouds`: the new `combined_cloud`, `none` where it throws. -/
def mergePointClouds (combined new : PointCloud2) : Option PointCloud2 :=
  if combined.data.isEmpty then some new
  else if combined.fields.length ≠ new.fields.length then none
  else if (combined.fields.zip new.fields).any fun (a, b) =>
      a.name ≠ b.name || a.datatype ≠ b.datatype then none
  else
    let width := combined.width + new.width
    some { combined with
      data := combined.data ++ new.data
      width := width
      rowStep := width * combined.pointStep }

/-- The loop that merges clouds into an empty one. -/
def mergeAll (clouds : List PointCloud2) : Option PointCloud2 := clouds.foldlM mergePointClouds {}

/-- `ensurePointCloudFields`. -/
def ensurePointCloudFields (cloud : PointCloud2) : PointCloud2 :=
  let fieldX : PointField := ⟨"x", 0, 7, 1⟩
  { cloud with
    fields := [fieldX, { fieldX with name := "y", offset := 4 },
      { fieldX with name := "z", offset := 8 }]
    pointStep := 12
    isDense := false }

/-! ## What they contain -/

theorem stepsFrom_of_lt {last x : ℚ} (resolution : ℚ) (fuel : Nat) (hx : last < x) :
    stepsFrom last resolution fuel x = [] := by
  cases fuel with
  | zero => rfl
  | succ fuel => rw [stepsFrom, if_neg (not_le.mpr hx)]

/-- **The loop is over when the fuel is: more of it makes no difference.** -/
theorem stepsFrom_fuel {last : ℚ} (resolution : {r : ℚ // 0 < r}) (more : Nat) : ∀ (fuel : Nat)
    {x : ℚ}, last < x + fuel * resolution →
      stepsFrom last resolution (fuel + more) x = stepsFrom last resolution fuel x := by
  intro fuel
  induction fuel with
  | zero =>
    intro x hx
    rw [Nat.cast_zero, zero_mul, add_zero] at hx
    rw [stepsFrom_of_lt _ _ hx, stepsFrom_of_lt _ _ hx]
  | succ fuel ih =>
    intro x hx
    rw [Nat.add_right_comm, stepsFrom, stepsFrom]
    split
    · rw [ih]
      rw [Nat.cast_succ] at hx
      linarith
    · rfl

theorem steps_fuel (first last : ℚ) (resolution : {r : ℚ // 0 < r}) (more : Nat) :
    stepsFrom last resolution ((⌊(last - first) / resolution⌋ + 1).toNat + more) first =
      steps first last resolution := by
  refine stepsFrom_fuel resolution more _ ?_
  have hfloor : (last - first) / resolution < ⌊(last - first) / resolution⌋ + 1 :=
    Int.lt_floor_add_one _
  have hnat : ((⌊(last - first) / resolution⌋ + 1 : ℤ) : ℚ) ≤
      ((⌊(last - first) / resolution⌋ + 1).toNat : ℚ) := by
    exact_mod_cast Int.self_le_toNat _
  have hlt : (last - first) / resolution < ((⌊(last - first) / resolution⌋ + 1).toNat : ℚ) := by
    push_cast at hnat
    linarith
  rw [div_lt_iff₀ resolution.2] at hlt
  linarith

/-- A merge appends the data. -/
theorem data_mergePointClouds {combined new merged : PointCloud2}
    (h : mergePointClouds combined new = some merged) :
    merged.data = combined.data ++ new.data := by
  unfold mergePointClouds at h
  split_ifs at h with hempty hlength hfields
  · rw [← Option.some.inj h, List.isEmpty_iff.mp hempty, List.nil_append]
  · rw [← Option.some.inj h]

theorem data_foldlM_merge {clouds : List PointCloud2} : ∀ {combined merged : PointCloud2},
    clouds.foldlM mergePointClouds combined = some merged →
      merged.data = combined.data ++ (clouds.map (·.data)).flatten := by
  induction clouds with
  | nil =>
    intro combined merged h
    rw [← Option.some.inj h]
    simp
  | cons cloud clouds ih =>
    intro combined merged h
    obtain ⟨mid, hmid, hrest⟩ := Option.bind_eq_some_iff.mp (List.foldlM_cons.symm.trans h)
    rw [ih hrest, data_mergePointClouds hmid]
    simp

/-- **The merged cloud has the bytes of the clouds, in order, and no others.** -/
theorem data_mergeAll {clouds : List PointCloud2} {merged : PointCloud2}
    (h : mergeAll clouds = some merged) : merged.data = (clouds.map (·.data)).flatten := by
  rw [data_foldlM_merge h]
  simp

/-- A cloud of `width` points in one row, laid out like this. -/
structure WellFormed (layout : XyzLayout) (cloud : PointCloud2) : Prop where
  fields : cloud.fields = layout.fields
  pointStep : cloud.pointStep = layout.pointStep
  rowStep : cloud.rowStep = cloud.width * cloud.pointStep
  data : cloud.data.length = cloud.rowStep

theorem wellFormed_xyzCloud (layout : XyzLayout) (frameId : String) (points : List Point) :
    WellFormed layout (xyzCloud layout frameId points) := by
  refine ⟨rfl, rfl, rfl, ?_⟩
  show (points.flatMap layout.encode).length = points.length * layout.pointStep
  rw [List.length_flatMap, List.map_congr_left fun point _ => layout.length_encode point]
  simp

theorem mergePointClouds_of_wellFormed {layout : XyzLayout} {combined new : PointCloud2}
    (hcombined : combined.data = [] ∨ WellFormed layout combined) (hnew : WellFormed layout new) :
    ∃ merged, mergePointClouds combined new = some merged ∧ WellFormed layout merged := by
  unfold mergePointClouds
  split_ifs with hempty hlength hfields
  · exact ⟨new, rfl, hnew⟩
  all_goals
    have hold : WellFormed layout combined := by
      rcases hcombined with hdata | hold
      · exact absurd (List.isEmpty_iff.mpr hdata) hempty
      · exact hold
  · exact absurd (by rw [hold.fields, hnew.fields]) hlength
  · -- a list of fields differs nowhere from itself
    rw [hold.fields, hnew.fields, List.any_eq_true] at hfields
    obtain ⟨⟨a, b⟩, hmem, hne⟩ := hfields
    have hab : a = b := by
      rw [List.zip_eq_zipWith, List.zipWith_self] at hmem
      obtain ⟨field, _, heq⟩ := List.mem_map.mp hmem
      rw [← (Prod.mk.inj heq).1, ← (Prod.mk.inj heq).2]
    simp [hab] at hne
  · refine ⟨_, rfl, hold.fields, hold.pointStep, rfl, ?_⟩
    rw [List.length_append, hold.data, hnew.data, hold.rowStep, hnew.rowStep, hnew.pointStep,
      hold.pointStep, Nat.add_mul]

/-- **Well-formed clouds merge without an exception, and into a well-formed one.** -/
theorem mergeAll_of_wellFormed {layout : XyzLayout} {clouds : List PointCloud2}
    (h : ∀ cloud ∈ clouds, WellFormed layout cloud) :
    ∃ merged, mergeAll clouds = some merged ∧ (clouds ≠ [] → WellFormed layout merged) := by
  suffices hfold : ∀ combined : PointCloud2, combined.data = [] ∨ WellFormed layout combined →
      ∃ merged, clouds.foldlM mergePointClouds combined = some merged ∧
        (clouds ≠ [] → WellFormed layout merged) from hfold {} (Or.inl rfl)
  induction clouds with
  | nil => exact fun combined _ => ⟨combined, rfl, fun hne => absurd rfl hne⟩
  | cons cloud clouds ih =>
    intro combined hcombined
    obtain ⟨mid, hmid, hwell⟩ :=
      mergePointClouds_of_wellFormed hcombined (h cloud List.mem_cons_self)
    obtain ⟨merged, hmerged, hrest⟩ :=
      ih (fun c hc => h c (List.mem_cons_of_mem _ hc)) mid (Or.inr hwell)
    refine ⟨merged, by rw [List.foldlM_cons, hmid]; exact hmerged, fun _ => ?_⟩
    cases clouds with
    | nil => rwa [← Option.some.inj hmerged]
    | cons => exact hrest (by simp)

end Tetra.Wall
