import Tetra.Lib.Grid
import Tetra.Wall.Published

/-!
# Whether the wall is there

`generateDensePoints` fills the rectangle that the first four vertices span, if they are in the
order it assumes. With fewer vertices it logs an error, and with another order its loops have no
turn; in both cases the list is empty, and `Add_Virtual_Obstacle_Command` answers with success all
the same. `Polygon.Spanned` is what a polygon has to be like for the wall to stand where the
polygon is (`success_iff`). The points of a wall are those that its cloud is made of; the bytes they
get there are up to the layout.
-/

namespace Tetra.Wall

open BufferedReplica

/-! ## The points of a rectangle -/

section Steps

variable {last x : ℚ} {resolution : {r : ℚ // 0 < r}}

theorem mem_stepsFrom {fuel : Nat} : ∀ {first : ℚ},
    x ∈ stepsFrom last resolution fuel first ↔
      ∃ k < fuel, x = first + k * resolution ∧ x ≤ last := by
  induction fuel with
  | zero => simp [stepsFrom]
  | succ fuel ih =>
    intro first
    rw [stepsFrom]
    split
    · next hfirst =>
      rw [List.mem_cons, ih]
      constructor
      · rintro (rfl | ⟨k, hk, rfl, hlast⟩)
        · exact ⟨0, by omega, by simp, hfirst⟩
        · refine ⟨k + 1, by omega, ?_, hlast⟩
          push_cast
          ring
      · rintro ⟨k, hk, rfl, hlast⟩
        cases k with
        | zero => exact Or.inl (by simp)
        | succ k =>
          refine Or.inr ⟨k, by omega, ?_, hlast⟩
          push_cast
          ring
    · next hfirst =>
      -- the first value is too large, and so are those after it
      refine iff_of_false (by simp) ?_
      rintro ⟨k, _, rfl, hlast⟩
      have hstep : (0 : ℚ) ≤ k * resolution := mul_nonneg k.cast_nonneg resolution.2.le
      linarith

/-- The loop goes over a grid. -/
theorem mem_steps {first : ℚ} :
    x ∈ steps first last resolution ↔ x ∈ Grid.points first last resolution.1 := by
  rw [steps, mem_stepsFrom]
  constructor
  · rintro ⟨k, _, hx, hlast⟩
    exact ⟨k, hx, hlast⟩
  · rintro ⟨k, hx, hlast⟩
    refine ⟨k, ?_, hx, hlast⟩
    have hk : (k : ℚ) ≤ (last - first) / resolution := by
      rw [le_div_iff₀ resolution.2]
      linarith
    have hfloor : (k : ℤ) ≤ ⌊(last - first) / resolution⌋ := Int.le_floor.mpr (by exact_mod_cast hk)
    omega

end Steps

/-- The boundaries that the generator takes from the first four vertices. -/
structure Boundaries where
  minX : ℚ
  maxX : ℚ
  minY : ℚ
  maxY : ℚ

def boundaries : List Point → Option Boundaries
  | bottomLeft :: bottomRight :: topRight :: topLeft :: _ =>
    some ⟨min bottomLeft.x topLeft.x, max bottomRight.x topRight.x,
      min bottomLeft.y bottomRight.y, max topLeft.y topRight.y⟩
  | _ => none

theorem densePoints_of_none {vertices : List Point} {resolution : {r : ℚ // 0 < r}}
    (h : boundaries vertices = none) : densePoints vertices resolution = [] := by
  match vertices, h with
  | [], _ => rfl
  | [_], _ => rfl
  | [_, _], _ => rfl
  | [_, _, _], _ => rfl
  | _ :: _ :: _ :: _ :: _, h => simp [boundaries] at h

theorem mem_densePoints {vertices : List Point} {resolution : {r : ℚ // 0 < r}} {b : Boundaries}
    (h : boundaries vertices = some b) {point : Point} :
    point ∈ densePoints vertices resolution ↔
      point.x ∈ Grid.points b.minX b.maxX resolution.1 ∧
        point.y ∈ Grid.points b.minY b.maxY resolution.1 ∧ point.z = 0 := by
  unfold boundaries at h
  split at h
  · next bottomLeft bottomRight topRight topLeft rest =>
    rw [← Option.some.inj h, densePoints]
    simp only [List.mem_flatMap, List.mem_map, mem_steps]
    constructor
    · rintro ⟨x, hx, y, hy, rfl⟩
      exact ⟨hx, hy, rfl⟩
    · rintro ⟨hx, hy, hz⟩
      exact ⟨point.x, hx, point.y, hy, by rw [← hz]⟩
  · simp at h

/-! ## Walls that stand -/

/-- The axis-aligned bounding box of a polygon. -/
def Polygon.BoundingBox (polygon : Polygon) (x y : ℚ) : Prop :=
  (∃ v ∈ polygon.points, ∃ w ∈ polygon.points, v.x ≤ x ∧ x ≤ w.x) ∧
    ∃ v ∈ polygon.points, ∃ w ∈ polygon.points, v.y ≤ y ∧ y ≤ w.y

/-- There are points, and one of them close to each location of the bounding box. -/
def Stands (polygon : Polygon) (points : List Point) : Prop :=
  points ≠ [] ∧ ∀ x y, polygon.BoundingBox x y →
    ∃ point ∈ points, |point.x - x| ≤ resolution ∧ |point.y - y| ≤ resolution

/-- The rectangle of the first four vertices, in the order bottom left, bottom right, top right,
top left, is there, and no vertex is further from its grid than the resolution. -/
def Polygon.Spanned (polygon : Polygon) : Prop :=
  match boundaries polygon.points with
  | none => False
  | some b => b.minX ≤ b.maxX ∧ b.minY ≤ b.maxY ∧ ∀ v ∈ polygon.points,
      (b.minX - resolution ≤ v.x ∧ v.x ≤ Grid.top b.minX b.maxX resolution.1 + resolution) ∧
        b.minY - resolution ≤ v.y ∧ v.y ≤ Grid.top b.minY b.maxY resolution.1 + resolution

instance (polygon : Polygon) : Decidable polygon.Spanned := by
  unfold Polygon.Spanned
  split <;> infer_instance

section Stands

variable {polygon : Polygon}

theorem boundingBox_vertex {v : Point} (hv : v ∈ polygon.points) : polygon.BoundingBox v.x v.y :=
  ⟨⟨v, hv, v, hv, le_refl _, le_refl _⟩, v, hv, v, hv, le_refl _, le_refl _⟩

/-- A location has a dense point close to it if both coordinates have a value of the grid. -/
theorem exists_dense_near_iff {b : Boundaries} (hb : boundaries polygon.points = some b)
    {x y : ℚ} : (∃ point ∈ generateDensePoints polygon.points resolution,
        |point.x - x| ≤ resolution ∧ |point.y - y| ≤ resolution) ↔
      (∃ x' ∈ Grid.points b.minX b.maxX resolution.1, |x' - x| ≤ resolution) ∧
        ∃ y' ∈ Grid.points b.minY b.maxY resolution.1, |y' - y| ≤ resolution := by
  constructor
  · rintro ⟨point, hpoint, hx, hy⟩
    obtain ⟨hgridX, hgridY, -⟩ := (mem_densePoints hb).mp hpoint
    exact ⟨⟨point.x, hgridX, hx⟩, point.y, hgridY, hy⟩
  · rintro ⟨⟨x', hx', hx⟩, y', hy', hy⟩
    exact ⟨⟨x', y', 0⟩, (mem_densePoints hb).mpr ⟨hx', hy', rfl⟩, hx, hy⟩

/-- **The dense points of a polygon are its wall exactly if it is as the generator assumes.** -/
theorem stands_iff :
    Stands polygon (generateDensePoints polygon.points resolution) ↔ polygon.Spanned := by
  rw [Stands, Polygon.Spanned]
  cases hb : boundaries polygon.points with
  | none => exact iff_of_false (fun h => h.1 (densePoints_of_none hb)) id
  | some b =>
    simp only [exists_dense_near_iff hb, Grid.exists_near_iff resolution.2]
    constructor
    · rintro ⟨_, hnear⟩
      have hvertex : ∃ v, v ∈ polygon.points := by
        unfold boundaries at hb
        split at hb
        · next v _ _ _ _ hvertices => exact ⟨v, by rw [hvertices]; exact List.mem_cons_self⟩
        · simp at hb
      obtain ⟨v, hv⟩ := hvertex
      obtain ⟨⟨hX, _⟩, hY, _⟩ := hnear v.x v.y (boundingBox_vertex hv)
      refine ⟨hX, hY, ?_⟩
      intro w hw
      obtain ⟨⟨_, hwX⟩, _, hwY⟩ := hnear w.x w.y (boundingBox_vertex hw)
      exact ⟨hwX, hwY⟩
    · rintro ⟨hX, hY, hvertices⟩
      constructor
      · have hcorner : (⟨b.minX, b.minY, 0⟩ : Point) ∈
            generateDensePoints polygon.points resolution :=
          (mem_densePoints hb).mpr ⟨Grid.first_mem hX, Grid.first_mem hY, rfl⟩
        exact List.ne_nil_of_mem hcorner
      · rintro x y ⟨⟨v, hv, w, hw, hvx, hxw⟩, v', hv', w', hw', hvy, hyw⟩
        -- between two vertices that are close to the grid
        exact ⟨⟨hX, (hvertices v hv).1.1.trans hvx, hxw.trans (hvertices w hw).1.2⟩, hY,
          (hvertices v' hv').2.1.trans hvy, hyw.trans (hvertices w' hw').2.2⟩

end Stands

/-! ## The answer -/

section Answer

variable {layout : XyzLayout} {s s' : Node} {request : Request} {response : Response}

/-- For each id of the request the cloud of some points is stored, and these stand where its last
polygon is. -/
def WallsStand (layout : XyzLayout) (request : Request) (s' : Node) : Prop :=
  ∀ id ∈ request.ids, ∃ polygon points, lastEntry request.entries id = some polygon ∧
    points = generateDensePoints polygon.points resolution ∧
    s'.polygonGlobalCostmap[id]? = some (createPointCloud layout points) ∧ Stands polygon points

theorem exists_lastEntry (hlength : request.ids.length = request.polygons.length) {id : Int}
    (hid : id ∈ request.ids) : ∃ polygon, lastEntry request.entries id = some polygon := by
  rw [← Option.ne_none_iff_exists', Ne, lastEntry_eq_none, Request.entries,
    List.map_fst_zip hlength.le]
  exact fun h => h hid

theorem success_of_add (hremove : request.remove = false)
    (h : s.addVirtualObstacleCommand layout request = some (s', response)) :
    response.success = true := by
  unfold Node.addVirtualObstacleCommand at h
  dsimp only at h
  rw [if_neg (by simp [hremove])] at h
  obtain ⟨s₁, _, hrest⟩ := Option.bind_eq_some_iff.mp h
  obtain ⟨s₂, _, hs⟩ := Option.bind_eq_some_iff.mp hrest
  rw [← (Prod.mk.inj (Option.some.inj hs)).2]

theorem wallsStand_iff (hremove : request.remove = false)
    (hlength : request.ids.length = request.polygons.length)
    (h : s.addVirtualObstacleCommand layout request = some (s', response)) :
    WallsStand layout request s' ↔
      ∀ id polygon, lastEntry request.entries id = some polygon → polygon.Spanned := by
  -- the cloud that is stored is the one of the last polygon
  have hcloud : ∀ id polygon, lastEntry request.entries id = some polygon →
      s'.polygonGlobalCostmap[id]? = some (Node.globalCloud layout polygon) := by
    intro id polygon hlast
    have hprimary : (abs layout s').primary id =
        overlay (abs layout s).primary (cloudEntries layout request.entries) id :=
      congrFun (congrArg State.primary (abs_add hremove h).1) id
    rw [overlay, cloudEntries, lastEntry_map, hlast] at hprimary
    exact hprimary
  constructor
  · intro hwalls id polygon hlast
    obtain ⟨polygon', points, hlast', rfl, -, hstands⟩ :=
      hwalls id (List.of_mem_zip (mem_of_lastEntry hlast)).1
    obtain rfl : polygon = polygon' := Option.some.inj (hlast.symm.trans hlast')
    exact stands_iff.mp hstands
  · intro hspanned id hid
    obtain ⟨polygon, hlast⟩ := exists_lastEntry hlength hid
    exact ⟨polygon, _, hlast, rfl, hcloud id polygon hlast, stands_iff.mpr (hspanned id polygon hlast)⟩

/--
**What success means: for each id the last polygon of the request is as the generator assumes, or
the wall is not there although the request has been answered with success.**
-/
theorem success_iff (hremove : request.remove = false)
    (hlength : request.ids.length = request.polygons.length)
    (h : s.addVirtualObstacleCommand layout request = some (s', response)) :
    (response.success = true → WallsStand layout request s') ↔
      ∀ id polygon, lastEntry request.entries id = some polygon → polygon.Spanned := by
  rw [← wallsStand_iff hremove hlength h]
  exact ⟨fun hwalls => hwalls (success_of_add hremove h), fun hwalls _ => hwalls⟩

end Answer

/-- A square with sides of two steps, from the bottom left corner on. -/
def smallSquare : Polygon :=
  ⟨[⟨1, 2, 0⟩, ⟨11 / 10, 2, 0⟩, ⟨11 / 10, 21 / 10, 0⟩, ⟨1, 21 / 10, 0⟩]⟩

theorem success_smallSquare :
    ∃ s' response, ({} : Node).addVirtualObstacleCommand exampleLayout ⟨[smallSquare], [1], false⟩ =
        some (s', response) ∧
      response.success = true ∧ WallsStand exampleLayout ⟨[smallSquare], [1], false⟩ s' := by
  have hanswer : (({} : Node).addVirtualObstacleCommand exampleLayout
      ⟨[smallSquare], [1], false⟩).isSome = true := by decide +kernel
  obtain ⟨⟨s', response⟩, hcmd⟩ := Option.isSome_iff_exists.mp hanswer
  have hsuccess := success_of_add rfl hcmd
  refine ⟨s', response, hcmd, hsuccess, (success_iff rfl rfl hcmd).mpr ?_ hsuccess⟩
  intro id polygon hlast
  obtain ⟨-, rfl⟩ := Prod.mk.inj (List.mem_singleton.mp (mem_of_lastEntry hlast))
  decide +kernel

/-- A unit square that begins at the top right corner. -/
def fromTopRight : Polygon := ⟨[⟨1, 1, 0⟩, ⟨0, 1, 0⟩, ⟨0, 0, 0⟩, ⟨1, 0, 0⟩]⟩

/-- A triangle. -/
def threeVertices : Polygon := ⟨[⟨0, 0, 0⟩, ⟨1, 0, 0⟩, ⟨1, 1, 0⟩]⟩

/-- A request for one polygon that the generator cannot make a wall of. -/
theorem answered_without_wall {polygon : Polygon} (hnot : ¬ polygon.Spanned)
    (hanswer : (({} : Node).addVirtualObstacleCommand exampleLayout
      ⟨[polygon], [1], false⟩).isSome = true) :
    ∃ s' response, ({} : Node).addVirtualObstacleCommand exampleLayout ⟨[polygon], [1], false⟩ =
        some (s', response) ∧
      response.success = true ∧ ¬ WallsStand exampleLayout ⟨[polygon], [1], false⟩ s' := by
  obtain ⟨⟨s', response⟩, hcmd⟩ := Option.isSome_iff_exists.mp hanswer
  refine ⟨s', response, hcmd, success_of_add rfl hcmd, ?_⟩
  intro hwalls
  exact hnot ((wallsStand_iff rfl rfl hcmd).mp hwalls 1 polygon rfl)

/-- Both are answered with success, and neither gets a point. -/
theorem success_without_wall :
    (generateDensePoints fromTopRight.points resolution = [] ∧
      ∃ s' response, ({} : Node).addVirtualObstacleCommand exampleLayout
        ⟨[fromTopRight], [1], false⟩ = some (s', response) ∧
      response.success = true ∧ ¬ WallsStand exampleLayout ⟨[fromTopRight], [1], false⟩ s') ∧
    (generateDensePoints threeVertices.points resolution = [] ∧
      ∃ s' response, ({} : Node).addVirtualObstacleCommand exampleLayout
        ⟨[threeVertices], [1], false⟩ = some (s', response) ∧
      response.success = true ∧ ¬ WallsStand exampleLayout ⟨[threeVertices], [1], false⟩ s') := by
  constructor
  · exact ⟨by decide +kernel, answered_without_wall (by decide +kernel) (by decide +kernel)⟩
  · exact ⟨by decide +kernel, answered_without_wall (by decide +kernel) (by decide +kernel)⟩

end Tetra.Wall
