import Mathlib.Data.List.ProdSigma
import Tetra.Wall.Coverage

/-!
# The points of a rectangle

For the vertices of an axis-aligned rectangle in the order it assumes, `generateDensePoints` makes a
grid of the rectangle: as many points as fit from the bottom left corner on, all of them different,
and one less than a resolution below and to the left of each location (`densePoints_fill`).
-/

namespace Tetra.Wall

/-- An axis-aligned rectangle. -/
structure Rectangle where
  left : ℚ
  right : ℚ
  bottom : ℚ
  top : ℚ
  left_le_right : left ≤ right
  bottom_le_top : bottom ≤ top

/-! ## The loops -/

section Loops

variable {first last : ℚ} {resolution : {r : ℚ // 0 < r}}

theorem stepsFrom_eq_map {fuel : Nat} : ∀ {first : ℚ}, (∀ k < fuel, first + k * resolution ≤ last) →
    stepsFrom last resolution fuel first =
      (List.range fuel).map fun k : ℕ => first + k * resolution := by
  induction fuel with
  | zero => exact fun _ => rfl
  | succ fuel ih =>
    intro first hlast
    have hfirst : first ≤ last := by simpa using hlast 0 (Nat.succ_pos fuel)
    have htail : ∀ k < fuel, first + resolution + k * resolution ≤ last := by
      intro k hk
      have hnext := hlast (k + 1) (Nat.succ_lt_succ hk)
      push_cast at hnext
      linarith
    rw [stepsFrom, if_pos hfirst, ih htail, List.range_succ_eq_map, List.map_cons, List.map_map]
    congr 1
    · simp
    · refine List.map_congr_left fun k _ => ?_
      simp only [Function.comp_apply]
      push_cast
      ring

/-- The loop goes over the points of the grid in order. -/
theorem steps_eq_enumerate (h : first ≤ last) :
    steps first last resolution = Grid.enumerate first last resolution := by
  have hquot : 0 ≤ (last - first) / resolution :=
    div_nonneg (sub_nonneg.mpr h) resolution.2.le
  -- the fuel of `steps` is one turn for each point
  have hturns : (⌊(last - first) / resolution⌋ + 1).toNat = ⌊(last - first) / resolution⌋₊ + 1 := by
    have hfloor := Int.floor_toNat ((last - first) / resolution)
    have hnonneg := Int.floor_nonneg.mpr hquot
    omega
  rw [steps, hturns, stepsFrom_eq_map, Grid.enumerate]
  intro k hk
  have hle : (k : ℚ) ≤ (last - first) / resolution :=
    (Nat.le_floor_iff hquot).mp (Nat.le_of_lt_succ hk)
  rw [le_div_iff₀ resolution.2] at hle
  linarith

end Loops

/-! ## The points -/

/-- The two nested loops over these boundaries, with at most `turns` turns each. -/
def loops (b : Boundaries) (resolution : ℚ) (turns : Nat) : List Point :=
  (stepsFrom b.maxX resolution turns b.minX).flatMap fun x =>
    (stepsFrom b.maxY resolution turns b.minY).map fun y => ⟨x, y, 0⟩

namespace Rectangle

variable (rect : Rectangle) (resolution : {r : ℚ // 0 < r})

/-- The corners in the order that the generator assumes. -/
def vertices (z₁ z₂ z₃ z₄ : ℚ) : List Point :=
  [⟨rect.left, rect.bottom, z₁⟩, ⟨rect.right, rect.bottom, z₂⟩, ⟨rect.right, rect.top, z₃⟩,
    ⟨rect.left, rect.top, z₄⟩]

/-- The sides. -/
def sides : Boundaries := ⟨rect.left, rect.right, rect.bottom, rect.top⟩

theorem boundaries_vertices (z₁ z₂ z₃ z₄ : ℚ) :
    boundaries (rect.vertices z₁ z₂ z₃ z₄) = some rect.sides := by
  rw [vertices, boundaries, min_self, max_self, min_self, max_self]
  rfl

theorem densePoints_vertices (z₁ z₂ z₃ z₄ : ℚ) :
    densePoints (rect.vertices z₁ z₂ z₃ z₄) resolution =
      (steps rect.left rect.right resolution).flatMap fun x =>
        (steps rect.bottom rect.top resolution).map fun y => ⟨x, y, 0⟩ := by
  rw [vertices, densePoints]
  simp only [min_self, max_self]

/--
The points are those of the loops, however many turns these are given beyond some number; they are as
many as fit, all different and all in the rectangle, and no location of the rectangle is a resolution
or more above or to the right of the next one.
-/
structure Fills (points : List Point) : Prop where
  terminates : ∃ enough, ∀ turns ≥ enough, loops rect.sides resolution turns = points
  count : points.length = (⌊(rect.right - rect.left) / resolution⌋₊ + 1) *
    (⌊(rect.top - rect.bottom) / resolution⌋₊ + 1)
  distinct : points.Nodup
  inside : ∀ point ∈ points, rect.left ≤ point.x ∧ point.x ≤ rect.right ∧
    rect.bottom ≤ point.y ∧ point.y ≤ rect.top
  covers : ∀ x y, rect.left ≤ x → x ≤ rect.right → rect.bottom ≤ y → y ≤ rect.top →
    ∃ point ∈ points, point.x ≤ x ∧ x < point.x + resolution ∧
      point.y ≤ y ∧ y < point.y + resolution

end Rectangle

/-- The pairs of two lists as points. -/
theorem flatMap_eq_product (xs ys : List ℚ) :
    (xs.flatMap fun x => ys.map fun y => (⟨x, y, 0⟩ : Point)) =
      (xs ×ˢ ys).map fun pair => ⟨pair.1, pair.2, 0⟩ := by
  induction xs with
  | nil => rfl
  | cons x xs ih => rw [List.flatMap_cons, ih, List.product_cons, List.map_append, List.map_map]; rfl

section Fills

variable {rect : Rectangle} {resolution : {r : ℚ // 0 < r}} {z₁ z₂ z₃ z₄ : ℚ}

theorem loops_of_enough : ∃ enough, ∀ turns ≥ enough, loops rect.sides resolution turns =
    densePoints (rect.vertices z₁ z₂ z₃ z₄) resolution := by
  obtain ⟨width, hwidth⟩ : ∃ n, n = (⌊(rect.right - rect.left) / resolution⌋ + 1).toNat := ⟨_, rfl⟩
  obtain ⟨height, hheight⟩ : ∃ n, n = (⌊(rect.top - rect.bottom) / resolution⌋ + 1).toNat := ⟨_, rfl⟩
  refine ⟨max width height, ?_⟩
  intro turns hturns
  have hx := steps_fuel rect.left rect.right resolution (turns - width)
  have hy := steps_fuel rect.bottom rect.top resolution (turns - height)
  rw [← hwidth, Nat.add_sub_cancel' ((le_max_left _ _).trans hturns)] at hx
  rw [← hheight, Nat.add_sub_cancel' ((le_max_right _ _).trans hturns)] at hy
  rw [Rectangle.densePoints_vertices, ← hx, ← hy]
  rfl

theorem densePoints_eq_product : densePoints (rect.vertices z₁ z₂ z₃ z₄) resolution =
    (Grid.enumerate rect.left rect.right resolution.1 ×ˢ
      Grid.enumerate rect.bottom rect.top resolution.1).map fun pair => ⟨pair.1, pair.2, 0⟩ := by
  rw [Rectangle.densePoints_vertices, steps_eq_enumerate rect.left_le_right,
    steps_eq_enumerate rect.bottom_le_top, flatMap_eq_product]

theorem nodup_densePoints : (densePoints (rect.vertices z₁ z₂ z₃ z₄) resolution).Nodup := by
  rw [densePoints_eq_product]
  refine List.Nodup.map ?_ ((Grid.nodup_enumerate resolution.2).product
    (Grid.nodup_enumerate resolution.2))
  rintro ⟨x, y⟩ ⟨x', y'⟩ h
  obtain ⟨rfl, rfl, -⟩ := Point.mk.inj h
  rfl

theorem densePoints_fills :
    rect.Fills resolution (densePoints (rect.vertices z₁ z₂ z₃ z₄) resolution) where
  terminates := loops_of_enough
  count := by
    rw [densePoints_eq_product, List.length_map, List.length_product, Grid.length_enumerate,
      Grid.length_enumerate]
  distinct := nodup_densePoints
  inside := by
    intro point hpoint
    obtain ⟨hx, hy, -⟩ := (mem_densePoints (rect.boundaries_vertices z₁ z₂ z₃ z₄)).mp hpoint
    exact ⟨Grid.first_le_of_mem resolution.2 hx, hx.elim fun _ h => h.2,
      Grid.first_le_of_mem resolution.2 hy, hy.elim fun _ h => h.2⟩
  covers := by
    intro x y hleft hright hbottom htop
    obtain ⟨x', hx', hx⟩ := Grid.exists_below resolution.2 hleft hright
    obtain ⟨y', hy', hy⟩ := Grid.exists_below resolution.2 hbottom htop
    exact ⟨⟨x', y', 0⟩, (mem_densePoints (rect.boundaries_vertices z₁ z₂ z₃ z₄)).mpr ⟨hx', hy', rfl⟩,
      hx.1, hx.2, hy.1, hy.2⟩

end Fills

/-- **The dense points of a rectangle fill it, for the global and for the local costmap.** -/
theorem densePoints_fill (rect : Rectangle) (resolution : {r : ℚ // 0 < r}) (z₁ z₂ z₃ z₄ : ℚ) :
    rect.Fills resolution (generateDensePoints (rect.vertices z₁ z₂ z₃ z₄) resolution) ∧
      rect.Fills resolution (generateDensePoints2 (rect.vertices z₁ z₂ z₃ z₄) resolution) :=
  ⟨densePoints_fills, densePoints_fills⟩

end Tetra.Wall
