import Tetra.Wall.Sync

/-!
# What the published cloud contains

The points of a cloud, as a reader of its bytes sees them, and what merging does to them. The
merge begins anew whenever the bytes so far are empty, so it matters that a cloud without bytes
has no points either: a point takes at least one byte (`0 < layout.pointStep`, with
`setPointCloud2FieldsByString` it takes 16).
-/

namespace Tetra.Wall

/-! ## Points in bytes -/

/-- The first `n` pieces of `step` bytes. -/
def pieces (step n : Nat) (data : List UInt8) : List (List UInt8) :=
  (List.range n).map fun k => (data.drop (k * step)).take step

theorem pieces_append {step m n : Nat} {front back : List UInt8}
    (hfront : front.length = m * step) :
    pieces step (m + n) (front ++ back) = pieces step m front ++ pieces step n back := by
  unfold pieces
  rw [List.range_add, List.map_append, List.map_map]
  congr 1
  · refine List.map_congr_left fun k hk => ?_
    -- piece `k` ends before the front does
    have hend : k * step + step ≤ m * step := by
      rw [← Nat.succ_mul]
      exact Nat.mul_le_mul_right step (List.mem_range.mp hk)
    rw [List.drop_append_of_le_length (by omega), List.take_append_of_le_length]
    rw [List.length_drop]
    omega
  · refine List.map_congr_left fun k _ => ?_
    have hskip : (m + k) * step - front.length = k * step := by
      rw [hfront, Nat.add_mul]
      omega
    have hnil : front.drop ((m + k) * step) = [] := by
      refine List.drop_eq_nil_of_le ?_
      rw [hfront, Nat.add_mul]
      omega
    rw [Function.comp_apply, List.drop_append, hnil, hskip, List.nil_append]

/-- The points of a cloud, read by `decode`. -/
def PointCloud2.points (decode : List UInt8 → Point) (cloud : PointCloud2) : List Point :=
  (pieces cloud.pointStep (cloud.height * cloud.width) cloud.data).map decode

/-- A cloud of points in one row. -/
structure OneRow (layout : XyzLayout) (cloud : PointCloud2) : Prop
    extends WellFormed layout cloud where
  height : cloud.height = 1

section OneRow

variable {layout : XyzLayout} {decode : List UInt8 → Point} {combined new merged : PointCloud2}

theorem oneRow_xyzCloud (frameId : String) (points : List Point) :
    OneRow layout (xyzCloud layout frameId points) :=
  ⟨wellFormed_xyzCloud layout frameId points, rfl⟩

theorem OneRow.points_eq (h : OneRow layout new) :
    new.points decode = (pieces layout.pointStep new.width new.data).map decode := by
  rw [PointCloud2.points, h.height, Nat.one_mul, h.pointStep]

theorem OneRow.length_data (h : OneRow layout new) :
    new.data.length = new.width * layout.pointStep := by
  rw [h.data, h.rowStep, h.pointStep]

/-- **A merge of two rows is one row, with the points of both.** -/
theorem mergePointClouds_rows (decode : List UInt8 → Point) (hstep : 0 < layout.pointStep)
    (hcombined : OneRow layout combined)
    (hnew : OneRow layout new) (h : mergePointClouds combined new = some merged) :
    OneRow layout merged ∧ merged.width = combined.width + new.width ∧
      merged.points decode = combined.points decode ++ new.points decode := by
  obtain ⟨merged', hmerged, hwell⟩ :=
    mergePointClouds_of_wellFormed (Or.inr hcombined.toWellFormed) hnew.toWellFormed
  obtain rfl : merged' = merged := Option.some.inj (hmerged.symm.trans h)
  by_cases hempty : combined.data = []
  · -- no bytes: no points so far, and the merge begins anew
    have hwidth : combined.width = 0 := by
      have hlength := hcombined.length_data
      rw [hempty, List.length_nil] at hlength
      exact (Nat.mul_eq_zero.mp hlength.symm).resolve_right hstep.ne'
    obtain rfl : new = merged' := by
      unfold mergePointClouds at h
      rw [if_pos (List.isEmpty_iff.mpr hempty)] at h
      exact Option.some.inj h
    refine ⟨hnew, by rw [hwidth, Nat.zero_add], ?_⟩
    rw [hcombined.points_eq, hwidth]
    rfl
  · have hrow : merged'.height = 1 ∧ merged'.width = combined.width + new.width := by
      unfold mergePointClouds at h
      split_ifs at h with hnone hlength hfields
      · exact absurd (List.isEmpty_iff.mp hnone) hempty
      · rw [← Option.some.inj h]
        exact ⟨hcombined.height, rfl⟩
    have hmergedRow : OneRow layout merged' := ⟨hwell, hrow.1⟩
    refine ⟨hmergedRow, hrow.2, ?_⟩
    rw [hmergedRow.points_eq, hcombined.points_eq, hnew.points_eq, data_mergePointClouds h, hrow.2,
      pieces_append hcombined.length_data, List.map_append]

end OneRow

/-! ## The whole fold -/

section Fold

variable {layout : XyzLayout}

/-- From a row on, the fold appends. -/
theorem foldlM_merge_rows (decode : List UInt8 → Point) (hstep : 0 < layout.pointStep)
    {clouds : List PointCloud2} (h : ∀ cloud ∈ clouds, OneRow layout cloud) : ∀ {combined : PointCloud2},
    OneRow layout combined → ∃ merged, clouds.foldlM mergePointClouds combined = some merged ∧
      OneRow layout merged ∧ merged.width = combined.width + (clouds.map (·.width)).sum ∧
      merged.points decode = combined.points decode ++ clouds.flatMap (·.points decode) := by
  induction clouds with
  | nil =>
    intro combined hcombined
    exact ⟨combined, rfl, hcombined, by simp, by simp⟩
  | cons cloud clouds ih =>
    intro combined hcombined
    have hcloud := h cloud List.mem_cons_self
    obtain ⟨mid, hmid, -⟩ :=
      mergePointClouds_of_wellFormed (Or.inr hcombined.toWellFormed) hcloud.toWellFormed
    obtain ⟨hrow, hwidth, hpoints⟩ :=
      mergePointClouds_rows decode hstep hcombined hcloud hmid
    obtain ⟨merged, hmerged, hmergedRow, hmergedWidth, hmergedPoints⟩ :=
      ih (fun c hc => h c (List.mem_cons_of_mem cloud hc)) hrow
    refine ⟨merged, by rw [List.foldlM_cons, hmid]; exact hmerged, hmergedRow, ?_, ?_⟩
    · rw [hmergedWidth, hwidth, List.map_cons, List.sum_cons, Nat.add_assoc]
    · rw [hmergedPoints, hpoints, List.flatMap_cons, List.append_assoc]

/-- The first cloud takes the place of the empty one the fold begins with. -/
theorem mergeAll_rows (decode : List UInt8 → Point) (hstep : 0 < layout.pointStep)
    {clouds : List PointCloud2} (h : ∀ cloud ∈ clouds, OneRow layout cloud) (hne : clouds ≠ []) :
    ∃ merged, mergeAll clouds = some merged ∧ OneRow layout merged ∧
      merged.width = (clouds.map (·.width)).sum ∧
      merged.points decode = clouds.flatMap (·.points decode) := by
  cases clouds with
  | nil => exact absurd rfl hne
  | cons cloud clouds =>
    have hrest : ∀ c ∈ clouds, OneRow layout c := fun c hc => h c (List.mem_cons_of_mem cloud hc)
    obtain ⟨merged, hmerged, hrow, hwidth, hpoints⟩ :=
      foldlM_merge_rows decode hstep hrest (h cloud List.mem_cons_self)
    refine ⟨merged, hmerged, hrow, ?_, ?_⟩
    · rw [hwidth, List.map_cons, List.sum_cons]
    · rw [hpoints, List.flatMap_cons]

/-- Each cloud is one that `createPointCloud` or `createPointCloud2` has made. -/
def Costmap.Built (layout : XyzLayout) (costmap : Costmap) : Prop :=
  ∀ (id : Int) (cloud : PointCloud2), costmap[id]? = some cloud →
    ∃ points, cloud = createPointCloud layout points ∨ cloud = createPointCloud2 layout points

theorem Costmap.Built.oneRow {costmap : Costmap} (h : costmap.Built layout) :
    ∀ cloud ∈ costmap.clouds, OneRow layout cloud := by
  intro cloud hcloud
  obtain ⟨⟨id, c⟩, hmem, rfl⟩ := List.mem_map.mp hcloud
  obtain ⟨points, hglobal | hlocal⟩ := h id c (Std.TreeMap.mem_toList_iff_getElem?_eq_some.mp hmem)
  · rw [hglobal]
    exact oneRow_xyzCloud "map" points
  · rw [hlocal]
    exact oneRow_xyzCloud "map" points

/--
**Merging the clouds of a costmap never throws, and unless there is none the result is the union
of the stored walls:** their points in ascending order of the ids, in one row whose sizes are right, as
long as they fit the 32 bits that the message has for each.
-/
theorem mergeAll_union (hstep : 0 < layout.pointStep) (decode : List UInt8 → Point)
    {costmap : Costmap} (hbuilt : costmap.Built layout) :
    ∃ merged, mergeAll costmap.clouds = some merged ∧
      (costmap.isEmpty = false →
        merged.points decode = costmap.toList.flatMap (fun entry => entry.2.points decode) ∧
          (costmap.toList.map Prod.fst).Pairwise (· < ·) ∧
          merged.width = (costmap.toList.map fun entry => entry.2.width).sum ∧
          merged.rowStep = merged.width * merged.pointStep ∧
          merged.data.length = merged.height * merged.rowStep) := by
  cases hempty : costmap.isEmpty with
  | true =>
    have hclouds : costmap.clouds = [] := by
      rw [Costmap.clouds, List.map_eq_nil_iff, ← List.isEmpty_iff, Std.TreeMap.isEmpty_toList]
      exact hempty
    exact ⟨{}, by rw [hclouds]; rfl, fun hne => absurd hne (by decide)⟩
  | false =>
    have hne : costmap.clouds ≠ [] := by
      rw [Costmap.clouds, Ne, List.map_eq_nil_iff, ← List.isEmpty_iff, Std.TreeMap.isEmpty_toList]
      simp [hempty]
    obtain ⟨merged, hmerged, hrow, hwidth, hpoints⟩ :=
      mergeAll_rows decode hstep hbuilt.oneRow hne
    refine ⟨merged, hmerged, fun _ => ⟨?_, ?_, ?_, hrow.rowStep, ?_⟩⟩
    · rw [hpoints, Costmap.clouds, List.flatMap_map]
    · rw [List.pairwise_map]
      exact Std.TreeMap.ordered_keys_toList.imp fun hlt => Std.compare_eq_lt.mp hlt
    · rw [hwidth, Costmap.clouds, List.map_map]
      rfl
    · rw [hrow.height, Nat.one_mul, hrow.data]

theorem built_empty : Costmap.Built layout ∅ := fun id cloud h => by simp at h

theorem Costmap.Built.insert {costmap : Costmap} (h : costmap.Built layout) (id : Int)
    (points : List Point) : Costmap.Built layout (costmap.insert id (createPointCloud layout points)) := by
  intro k cloud hcloud
  rw [getElem?_insert_costmap] at hcloud
  split at hcloud
  · exact ⟨points, Or.inl (Option.some.inj hcloud).symm⟩
  · exact h k cloud hcloud

end Fold

/-- An empty wall between two others. -/
def emptyBetween : Costmap :=
  (((∅ : Costmap).insert 3 (createPointCloud exampleLayout [⟨0, 0, 0⟩, ⟨0, 0, 0⟩])).insert 1
    (createPointCloud exampleLayout [⟨0, 0, 0⟩])).insert 2 (createPointCloud exampleLayout [])

theorem mergeAll_union_emptyBetween :
    ∃ merged, mergeAll emptyBetween.clouds = some merged ∧ emptyBetween.isEmpty = false ∧
      merged.width = (emptyBetween.toList.map fun entry => entry.2.width).sum ∧
      merged.width = 3 ∧ merged.data.length = merged.height * merged.rowStep := by
  have hbuilt : emptyBetween.Built exampleLayout :=
    ((built_empty.insert 3 _).insert 1 _).insert 2 _
  have hsome : emptyBetween.isEmpty = false := by decide +kernel
  obtain ⟨merged, hmerged, hunion⟩ := mergeAll_union (by decide) (fun _ => ⟨0, 0, 0⟩) hbuilt
  obtain ⟨_, _, hwidth, _, hdata⟩ := hunion hsome
  have hsum : (emptyBetween.toList.map fun entry => entry.2.width).sum = 3 := by decide +kernel
  exact ⟨merged, hmerged, hsome, hwidth, hwidth.trans hsum, hdata⟩

end Tetra.Wall
