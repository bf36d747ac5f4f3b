import Std.Data.TreeMap
import Tetra.Lib.Machine
import Tetra.Wall.Cloud

/-!
# The virtual wall node

The service that adds and removes walls, the timer that updates the local costmap, and the map
subscription of `virtual_wall/src/virtual_wall.cpp`. `_pVirtual_polygon` is the buffer between
the service and the timer: the polygons and ids of the last request that added walls, in arrays
of 255, and the flags `remove` and `noEmpty`.

The timer looks the transform from "map" to "odom" up and computes an offset from it that
nothing uses; only whether the lookup succeeds is an input here.
-/

namespace Tetra.Wall

/-- `VIRTUAL_POLYGON`. -/
structure VirtualPolygon where
  polygons : Vector Polygon 255 := Vector.replicate 255 {}
  iPolygonSize : Nat := 0
  iID : Vector Int 255 := Vector.replicate 255 0
  iIDArraySize : Nat := 0
  remove : Bool := false
  noEmpty : Bool := true

/-- What is published on `Global_virtual_wall` and `Local_virtual_wall`. -/
inductive Output
  | globalWall (cloud : PointCloud2)
  | localWall (cloud : PointCloud2)
  deriving DecidableEq

/-- `std::map<int, sensor_msgs::msg::PointCloud2>`. -/
abbrev Costmap := Std.TreeMap Int PointCloud2

structure Node where
  activeMap : Bool := false
  virtualPolygon : VirtualPolygon := {}
  polygonGlobalCostmap : Costmap := ∅
  polygonLocalCostmap : Costmap := ∅
  log : List Output := []

/-- The request of `AddVirtualWall`. -/
structure Request where
  polygons : List Polygon := []
  ids : List Int
  remove : Bool := false

structure Response where
  success : Bool
  message : String
  deriving DecidableEq

/-- The resolution of both costmaps. -/
def resolution : {r : ℚ // 0 < r} := ⟨1 / 20, by norm_num⟩

/-- The clouds of a costmap in the order of their ids. -/
def Costmap.clouds (costmap : Costmap) : List PointCloud2 := costmap.toList.map (·.2)

namespace Node

variable (layout : XyzLayout)

/-! ## The service -/

/-- The cloud of a polygon in the global costmap. -/
def globalCloud (polygon : Polygon) : PointCloud2 :=
  createPointCloud layout (generateDensePoints polygon.points resolution)

/-- The cloud of a polygon in the local costmap. -/
def localCloud (polygon : Polygon) : PointCloud2 :=
  createPointCloud2 layout (generateDensePoints2 polygon.points resolution)

/-- Turn `i` of the loop that adds polygons; `none` where it leaves an array. -/
def addPolygon (ids : List Int) (s : Node) (i : Nat) (polygon : Polygon) : Option Node := do
  let id ← ids[i]?
  if h : i < 255 then
    some { s with
      virtualPolygon.polygons := s.virtualPolygon.polygons.set i polygon h
      virtualPolygon.iID := s.virtualPolygon.iID.set i id h
      polygonGlobalCostmap := s.polygonGlobalCostmap.insert id (globalCloud layout polygon) }
  else none

/-- The loop from turn `i` on. -/
def addPolygons (ids : List Int) : Node → Nat → List Polygon → Option Node
  | s, _, [] => some s
  | s, i, polygon :: rest => do
    let s ← s.addPolygon layout ids i polygon
    addPolygons ids s (i + 1) rest

/-- The end of the service: the global costmap is published. -/
def publishGlobal (s : Node) : Option Node := do
  let combined ← mergeAll s.polygonGlobalCostmap.clouds
  if s.polygonGlobalCostmap.isEmpty then
    let empty := ensurePointCloudFields { frameId := "map" }
    some { s with log := s.log ++ [.globalWall empty] }
  else
    some { s with virtualPolygon.noEmpty := true, log := s.log ++ [.globalWall combined] }

/-- `Add_Virtual_Obstacle_Command`. -/
def addVirtualObstacleCommand (s : Node) (request : Request) : Option (Node × Response) := do
  let s := { s with virtualPolygon.remove := request.remove }
  if request.remove then
    -- the polygons and ids of the buffer stay, the flag keeps the timer from replaying them
    let s := { s with
      virtualPolygon.iIDArraySize := request.ids.length
      polygonGlobalCostmap := request.ids.foldl (fun costmap id => costmap.erase id)
        s.polygonGlobalCostmap
      polygonLocalCostmap := request.ids.foldl (fun costmap id => costmap.erase id)
        s.polygonLocalCostmap }
    let s ← s.publishGlobal
    some (s, ⟨true, "Virtual Polygons deleted successfully."⟩)
  else
    let s := { s with virtualPolygon.iPolygonSize := request.polygons.length }
    let s ← s.addPolygons layout request.ids 0 request.polygons
    let s ← s.publishGlobal
    some (s, ⟨true, "Virtual Polygons added successfully."⟩)

/-! ## The timer -/

/-- Turn `i` of the loop over the buffer. -/
def addLocal (buffer : VirtualPolygon) (costmap : Costmap) (i : Nat) : Option Costmap := do
  let polygon ← buffer.polygons[i]?
  let id ← buffer.iID[i]?
  some (costmap.insert id (localCloud layout polygon))

/-- The local costmap after the update loop. -/
def updateLocal (s : Node) : Option Costmap :=
  if s.virtualPolygon.remove then some s.polygonLocalCostmap
  else (List.range s.virtualPolygon.iPolygonSize).foldlM (addLocal layout s.virtualPolygon)
    s.polygonLocalCostmap

/-- `CALC_TF_Timer`; without the transform it warns and does nothing. -/
def calcTfTimer (s : Node) (transform : Bool) : Option Node :=
  if s.activeMap && s.virtualPolygon.noEmpty then
    if !transform then some s
    else do
      let costmap ← s.updateLocal layout
      let combined ← mergeAll costmap.clouds
      if costmap.isEmpty then
        let empty := ensurePointCloudFields { frameId := "odom" }
        some { s with
          polygonLocalCostmap := costmap
          virtualPolygon.noEmpty := false
          log := s.log ++ [.localWall empty] }
      else
        some { s with
          polygonLocalCostmap := costmap
          virtualPolygon.noEmpty := true
          log := s.log ++ [.localWall combined] }
  else some s

/-! ## The map subscription, and the node as a machine -/

/-- `map_Callback`. -/
def mapCallback (s : Node) (size : Nat) : Node := { s with activeMap := size > 0 }

end Node

inductive Event
  | request (request : Request)
  | tick (transform : Bool)
  | map (size : Nat)

/-- One callback; `none` where it crashes. -/
def Node.step (layout : XyzLayout) (s : Node) : Event → Option Node
  | .request request => (s.addVirtualObstacleCommand layout request).map (·.1)
  | .tick transform => s.calcTfTimer layout transform
  | .map size => some (s.mapCallback size)

/-- The node, from its start. -/
def walls (layout : XyzLayout) : Machine Node Event := ⟨{}, Node.step layout⟩

end Tetra.Wall
