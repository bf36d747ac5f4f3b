import Tetra.Lib.BufferedReplica
import Tetra.Wall.Node

/-!
# The two costmaps

The global costmap gets each request at once, the local one through `_pVirtual_polygon` at the
next tick. This is a replica behind a buffer for one request (`Tetra.Lib.BufferedReplica`):
`abs` reads the abstract state off the node, and each callback of the node is the operation it
should be (`abs_remove`, `abs_add`, `abs_tick`).

* `walls_synced_iff`: a tick brings the local costmap up to date exactly if every wall that it
  lacks is in the buffer, so two requests between two ticks lose walls;
* `no_ghosts`: the local costmap has no wall that the global one lacks, whatever the order.
-/

namespace Tetra.Wall

open BufferedReplica

/-! ## Costmaps as stores -/

section Costmaps

theorem getElem?_insert_costmap (costmap : Costmap) (id k : Int) (cloud : PointCloud2) :
    (costmap.insert id cloud)[k]? = if id = k then some cloud else costmap[k]? := by
  rw [Std.TreeMap.getElem?_insert]
  simp only [Std.LawfulEqCmp.compare_eq_iff_eq]

theorem getElem?_foldl_insert (entries : List (Int × PointCloud2)) (costmap : Costmap) :
    (fun k => (entries.foldl (fun m entry => m.insert entry.1 entry.2) costmap)[k]?) =
      overlay (fun k => costmap[k]?) entries := by
  induction entries using List.reverseRecOn with
  | nil => rfl
  | append_singleton entries entry ih =>
    rw [List.foldl_append, overlay_concat, ← ih]
    funext k
    exact getElem?_insert_costmap _ _ _ _

theorem getElem?_foldl_erase (ids : List Int) : ∀ costmap : Costmap,
    (fun k => (ids.foldl (fun m id => m.erase id) costmap)[k]?) =
      without (fun k => costmap[k]?) ids := by
  induction ids with
  | nil =>
    intro costmap
    funext k
    simp [without]
  | cons id ids ih =>
    intro costmap
    rw [List.foldl_cons, ih]
    funext k
    simp only [without, Std.TreeMap.getElem?_erase, Std.LawfulEqCmp.compare_eq_iff_eq,
      List.mem_cons]
    by_cases hid : id = k
    · simp [hid]
    · simp [hid, Ne.symm hid]

theorem isEmpty_foldl_insert (entries : List (Int × PointCloud2)) (costmap : Costmap)
    (h : entries ≠ []) :
    (entries.foldl (fun m entry => m.insert entry.1 entry.2) costmap).isEmpty = false := by
  induction entries using List.reverseRecOn with
  | nil => exact absurd rfl h
  | append_singleton entries entry ih =>
    rw [List.foldl_append]
    exact Std.TreeMap.isEmpty_insert

end Costmaps

/-! ## The buffer -/

namespace VirtualPolygon

/-- Place `i` of the arrays. -/
def entry (buffer : VirtualPolygon) (i : Nat) : Option (Int × Polygon) := do
  let id ← buffer.iID[i]?
  let polygon ← buffer.polygons[i]?
  some (id, polygon)

/-- The first `n` places of the arrays. -/
def entries (buffer : VirtualPolygon) (n : Nat) : List (Int × Polygon) :=
  (List.range n).filterMap buffer.entry

theorem entries_succ (buffer : VirtualPolygon) (n : Nat) :
    buffer.entries (n + 1) = buffer.entries n ++ (buffer.entry n).toList := by
  rw [entries, List.range_succ, List.filterMap_append]
  cases h : buffer.entry n <;> simp [entries, h]

/-- Writing a place leaves the places before it. -/
theorem entries_set (buffer : VirtualPolygon) (id : Int) (polygon : Polygon) {i : Nat}
    (hi : i < 255) :
    ({ buffer with
      polygons := buffer.polygons.set i polygon hi
      iID := buffer.iID.set i id hi } : VirtualPolygon).entries (i + 1) =
      buffer.entries i ++ [(id, polygon)] := by
  rw [entries_succ]
  congr 1
  · unfold entries
    refine List.filterMap_congr fun j hj => ?_
    have hne : i ≠ j := by
      have hlt := List.mem_range.mp hj
      omega
    simp [entry, hne]
  · simp [entry]

end VirtualPolygon

/-! ## The node as a replica -/

variable (layout : XyzLayout)

/-- Entries of the buffer, with their clouds. -/
def cloudEntries (entries : List (Int × Polygon)) : List (Int × PointCloud2) :=
  entries.map fun entry => (entry.1, Node.globalCloud layout entry.2)

/-- The abstract state of the node. -/
def abs (s : Node) : State Int PointCloud2 where
  primary id := s.polygonGlobalCostmap[id]?
  replica id := s.polygonLocalCostmap[id]?
  buffer := cloudEntries layout (s.virtualPolygon.entries s.virtualPolygon.iPolygonSize)
  erasing := s.virtualPolygon.remove

section Requests

variable {layout} {s s' : Node}

/-- The loop that adds polygons, from turn `i` on. -/
theorem addPolygons_eq {ids : List Int} {polygons : List Polygon} : ∀ {s s' : Node} {i : Nat},
    s.addPolygons layout ids i polygons = some s' →
      s' = { s with
        virtualPolygon.polygons := s'.virtualPolygon.polygons
        virtualPolygon.iID := s'.virtualPolygon.iID
        polygonGlobalCostmap := (cloudEntries layout ((ids.drop i).zip polygons)).foldl
          (fun m entry => m.insert entry.1 entry.2) s.polygonGlobalCostmap } ∧
      s'.virtualPolygon.entries (i + polygons.length) =
        s.virtualPolygon.entries i ++ (ids.drop i).zip polygons := by
  induction polygons with
  | nil =>
    intro s s' i h
    rw [← Option.some.inj h]
    simp [cloudEntries]
  | cons polygon rest ih =>
    intro s s' i h
    obtain ⟨s₁, hadd, hrest⟩ := Option.bind_eq_some_iff.mp h
    obtain ⟨id, hid, hwrite⟩ := Option.bind_eq_some_iff.mp hadd
    split at hwrite
    · next hi =>
      obtain rfl := Option.some.inj hwrite
      obtain ⟨hs', hentries⟩ := ih hrest
      have hdrop : ids.drop i = id :: ids.drop (i + 1) := by
        obtain ⟨hlt, rfl⟩ := List.getElem?_eq_some_iff.mp hid
        exact List.drop_eq_getElem_cons hlt
      refine ⟨?_, ?_⟩
      · rw [hs', hdrop]
        rfl
      · have hset := VirtualPolygon.entries_set s.virtualPolygon id polygon hi
        rw [List.length_cons, ← Nat.add_assoc, Nat.add_right_comm, hentries, hset, hdrop,
          List.zip_cons_cons, List.append_assoc, List.singleton_append]
    · simp at hwrite

/-- The end of the service leaves the costmaps, and wakes the timer unless there is no wall. -/
theorem publishGlobal_eq (h : s.publishGlobal = some s') :
    s' = { s with virtualPolygon.noEmpty := s'.virtualPolygon.noEmpty, log := s'.log } ∧
      (s.polygonGlobalCostmap.isEmpty = false → s'.virtualPolygon.noEmpty = true) := by
  obtain ⟨combined, _, hs⟩ := Option.bind_eq_some_iff.mp h
  split at hs
  · next hempty =>
    rw [← Option.some.inj hs]
    exact ⟨rfl, fun hne => absurd (hempty.symm.trans hne) (by decide)⟩
  · rw [← Option.some.inj hs]
    exact ⟨rfl, fun _ => rfl⟩

/-- What a request that adds walls writes. -/
def Request.entries (request : Request) : List (Int × Polygon) := request.ids.zip request.polygons

/-- **A request that removes walls is an `erase`.** -/
theorem abs_remove {request : Request} {response : Response} (hremove : request.remove = true)
    (h : s.addVirtualObstacleCommand layout request = some (s', response)) :
    abs layout s' = (abs layout s).erase request.ids ∧
      s'.virtualPolygon.iPolygonSize = s.virtualPolygon.iPolygonSize := by
  unfold Node.addVirtualObstacleCommand at h
  dsimp only at h
  rw [if_pos hremove] at h
  obtain ⟨s₁, hpublish, hs⟩ := Option.bind_eq_some_iff.mp h
  obtain ⟨rfl, -⟩ := Prod.mk.inj (Option.some.inj hs)
  rw [(publishGlobal_eq hpublish).1]
  refine ⟨?_, rfl⟩
  simp only [abs, State.erase, hremove]
  rw [← getElem?_foldl_erase, ← getElem?_foldl_erase]
  rfl

/-- **A request that adds walls is a `put`**, and wakes the timer. -/
theorem abs_add {request : Request} {response : Response} (hremove : request.remove = false)
    (h : s.addVirtualObstacleCommand layout request = some (s', response)) :
    abs layout s' = (abs layout s).put (cloudEntries layout request.entries) ∧
      s'.virtualPolygon.iPolygonSize = request.polygons.length ∧
      (request.entries ≠ [] → s'.virtualPolygon.noEmpty = true) := by
  unfold Node.addVirtualObstacleCommand at h
  dsimp only at h
  rw [if_neg (by simp [hremove])] at h
  obtain ⟨s₁, hadd, hrest⟩ := Option.bind_eq_some_iff.mp h
  obtain ⟨s₂, hpublish, hs⟩ := Option.bind_eq_some_iff.mp hrest
  obtain ⟨rfl, -⟩ := Prod.mk.inj (Option.some.inj hs)
  obtain ⟨hs₁, hentries⟩ := addPolygons_eq hadd
  obtain ⟨hs₂, hawake⟩ := publishGlobal_eq hpublish
  rw [List.drop_zero] at hs₁ hentries
  have hglobal : s₁.polygonGlobalCostmap = (cloudEntries layout request.entries).foldl
      (fun m entry => m.insert entry.1 entry.2) s.polygonGlobalCostmap := by
    rw [hs₁]
    rfl
  have hsize : s₂.virtualPolygon.iPolygonSize = request.polygons.length := by rw [hs₂, hs₁]
  refine ⟨?_, hsize, fun hne => hawake ?_⟩
  · have hprimary : s₂.polygonGlobalCostmap = s₁.polygonGlobalCostmap := by rw [hs₂]
    have hreplica : s₂.polygonLocalCostmap = s.polygonLocalCostmap := by rw [hs₂, hs₁]
    have herasing : s₂.virtualPolygon.remove = false := by rw [hs₂, hs₁]; exact hremove
    have hbuffer : s₂.virtualPolygon.entries request.polygons.length = request.entries := by
      rw [Nat.zero_add] at hentries
      rw [hs₂]
      exact hentries
    simp only [abs, State.put, hprimary, hreplica, hsize, herasing, hbuffer, hglobal]
    rw [← getElem?_foldl_insert]
  · rw [hglobal]
    exact isEmpty_foldl_insert _ _ (by simpa [cloudEntries] using hne)

end Requests

/-! ## The timer -/

section Timer

variable {layout} {s s' : Node} {transform : Bool}

theorem foldlM_addLocal_eq {buffer : VirtualPolygon} (n : Nat) : ∀ {costmap costmap' : Costmap},
    (List.range n).foldlM (Node.addLocal layout buffer) costmap = some costmap' →
      costmap' = (cloudEntries layout (buffer.entries n)).foldl
        (fun m entry => m.insert entry.1 entry.2) costmap := by
  induction n with
  | zero =>
    intro costmap costmap' h
    exact (Option.some.inj h).symm
  | succ n ih =>
    intro costmap costmap' h
    rw [List.range_succ, List.foldlM_append] at h
    obtain ⟨mid, hmid, hlast⟩ := Option.bind_eq_some_iff.mp h
    simp only [List.foldlM_cons, List.foldlM_nil, Node.addLocal, Option.bind_eq_bind,
      Option.bind_eq_some_iff, Option.pure_def, Option.some.injEq] at hlast
    obtain ⟨_, ⟨polygon, hpolygon, id, hid, rfl⟩, rfl⟩ := hlast
    have hentry : buffer.entry n = some (id, polygon) := by
      simp [VirtualPolygon.entry, hid, hpolygon]
    rw [VirtualPolygon.entries_succ, hentry, ih hmid]
    simp only [cloudEntries, Option.toList_some, List.map_append, List.map_cons, List.map_nil,
      List.foldl_append, List.foldl_cons, List.foldl_nil]
    rfl

/-- What a tick publishes is made of the clouds in the local costmap. -/
theorem calcTfTimer_cases (h : s.calcTfTimer layout transform = some s') :
    (s' = s ∧ (s.activeMap = false ∨ s.virtualPolygon.noEmpty = false ∨ transform = false)) ∨
      ∃ costmap cloud, s.updateLocal layout = some costmap ∧
        cloud.data = (costmap.clouds.map (·.data)).flatten ∧
        s' = { s with
          polygonLocalCostmap := costmap
          virtualPolygon.noEmpty := !costmap.isEmpty
          log := s.log ++ [.localWall cloud] } := by
  unfold Node.calcTfTimer at h
  split at h
  · split at h
    · next htransform =>
      refine Or.inl ⟨(Option.some.inj h).symm, Or.inr (Or.inr ?_)⟩
      simpa using htransform
    · obtain ⟨costmap, hcostmap, hrest⟩ := Option.bind_eq_some_iff.mp h
      obtain ⟨combined, hcombined, hs⟩ := Option.bind_eq_some_iff.mp hrest
      split at hs
      · next hempty =>
        refine Or.inr ⟨costmap, _, hcostmap, ?_, (Option.some.inj hs).symm.trans (by rw [hempty]; rfl)⟩
        have hclouds : costmap.clouds = [] := by
          rw [Costmap.clouds, List.map_eq_nil_iff, ← List.isEmpty_iff, Std.TreeMap.isEmpty_toList]
          exact hempty
        rw [hclouds]
        rfl
      · next hempty =>
        refine Or.inr ⟨costmap, combined, hcostmap, data_mergeAll hcombined, ?_⟩
        rw [← Option.some.inj hs, Bool.eq_false_iff.mpr hempty]
        rfl
  · next hidle =>
    refine Or.inl ⟨(Option.some.inj h).symm, ?_⟩
    rw [Bool.and_eq_true, not_and_or, Bool.not_eq_true, Bool.not_eq_true] at hidle
    rcases hidle with hmap | hempty
    · exact Or.inl hmap
    · exact Or.inr (Or.inl hempty)

theorem updateLocal_eq {costmap : Costmap} (hremove : s.virtualPolygon.remove = false)
    (h : s.updateLocal layout = some costmap) :
    costmap = (abs layout s).buffer.foldl (fun m entry => m.insert entry.1 entry.2)
      s.polygonLocalCostmap := by
  unfold Node.updateLocal at h
  rw [if_neg (by simp [hremove])] at h
  exact foldlM_addLocal_eq _ h

/-- The update loop replays the buffer. -/
theorem abs_updateLocal {costmap : Costmap} (h : s.updateLocal layout = some costmap) :
    abs layout { s with polygonLocalCostmap := costmap } = (abs layout s).sync := by
  unfold State.sync
  split
  · next herasing =>
    have hremove : s.virtualPolygon.remove = true := herasing
    unfold Node.updateLocal at h
    rw [if_pos hremove] at h
    rw [← Option.some.inj h]
  · next herasing =>
    have hremove : s.virtualPolygon.remove = false := by simpa [abs] using herasing
    rw [updateLocal_eq hremove h]
    exact congrArg (fun store => ({ abs layout s with replica := store } : State Int PointCloud2))
      (getElem?_foldl_insert (abs layout s).buffer s.polygonLocalCostmap)

end Timer

/-! ## What any run keeps -/

/-- The costmaps are coherent, and the timer is awake while there is something to replay. -/
structure Sound (s : Node) : Prop where
  coherent : (abs layout s).Coherent
  awake : s.virtualPolygon.remove = false → (abs layout s).buffer ≠ [] →
    s.virtualPolygon.noEmpty = true

section Runs

variable {layout} {s s' : Node} {e : Event}

/-- **A tick with an active map and a transform is a `sync`.** -/
theorem abs_tick (hsound : Sound layout s) (hmap : s.activeMap = true)
    (h : s.calcTfTimer layout true = some s') : abs layout s' = (abs layout s).sync := by
  rcases calcTfTimer_cases h with ⟨hsame, hidle⟩ | ⟨costmap, cloud, hcostmap, _, rfl⟩
  · rw [hsame]
    rcases hidle with hoff | hempty | htransform
    · exact absurd (hmap.symm.trans hoff) (by decide)
    · -- the timer sleeps: there is nothing to replay
      by_cases herasing : (abs layout s).erasing = true
      · rw [State.sync, if_pos herasing]
      · have hremove : s.virtualPolygon.remove = false := by simpa [abs] using herasing
        refine (sync_of_buffer_nil ?_).symm
        by_contra hne
        exact absurd (hempty.symm.trans (hsound.awake hremove hne)) (by decide)
    · exact absurd htransform (by decide)
  · exact abs_updateLocal hcostmap

theorem sound_init : Sound layout {} := by
  refine ⟨?_, fun _ _ => rfl⟩
  have hinit : abs layout {} = {} := by
    simp [abs, cloudEntries, VirtualPolygon.entries]
  rw [hinit]
  exact coherent_init

theorem sound_step (hsound : Sound layout s) (h : s.step layout e = some s') :
    Sound layout s' := by
  cases e with
  | request request =>
    obtain ⟨⟨s₁, response⟩, hcmd, rfl⟩ := Option.map_eq_some_iff.mp h
    cases hremove : request.remove with
    | true =>
      have habs := (abs_remove hremove hcmd).1
      refine ⟨habs ▸ coherent_erase hsound.coherent _, ?_⟩
      intro hflag
      have herasing : (abs layout s₁).erasing = true := by rw [habs]; rfl
      exact absurd (hflag.symm.trans herasing) (by decide)
    | false =>
      obtain ⟨habs, _, hawake⟩ := abs_add hremove hcmd
      refine ⟨habs ▸ coherent_put hsound.coherent _, fun _ hne => hawake ?_⟩
      rw [habs] at hne
      simpa [State.put, cloudEntries] using hne
  | tick transform =>
    rcases calcTfTimer_cases h with ⟨hsame, _⟩ | ⟨costmap, cloud, hcostmap, _, rfl⟩
    · rw [hsame]
      exact hsound
    · have habs := abs_updateLocal hcostmap
      refine ⟨habs ▸ coherent_sync hsound.coherent, ?_⟩
      intro hremove hne
      have hloop := updateLocal_eq (s := s) hremove hcostmap
      have hfull : costmap.isEmpty = false := by
        rw [hloop]
        exact isEmpty_foldl_insert _ _ hne
      show (!costmap.isEmpty) = true
      rw [hfull]
      rfl
  | map size =>
    obtain rfl := Option.some.inj h
    exact ⟨hsound.coherent, hsound.awake⟩

end Runs

/-! ## Lost walls -/

/-- The global costmap has a wall that the local one lacks, or has differently. -/
def Lacks (s : Node) (id : Int) : Prop :=
  ∃ cloud, s.polygonGlobalCostmap[id]? = some cloud ∧ s.polygonLocalCostmap[id]? ≠ some cloud

/-- The id is in the buffer, and no removal came after the request that put it there. -/
def Buffered (s : Node) (id : Int) : Prop :=
  s.virtualPolygon.remove = false ∧
    id ∈ (s.virtualPolygon.entries s.virtualPolygon.iPolygonSize).map Prod.fst

/-- Every wall of the global costmap is in the local one, with the same points. -/
def WallsSynced (s : Node) : Prop :=
  ∀ (id : Int) (cloud : PointCloud2),
    s.polygonGlobalCostmap[id]? = some cloud → s.polygonLocalCostmap[id]? = some cloud

variable {layout}

theorem wallsSynced_tick {s s' : Node} (hsound : Sound layout s) (hmap : s.activeMap = true)
    (h : s.calcTfTimer layout true = some s') :
    WallsSynced s' ↔ ∀ id, Lacks s id → Buffered s id := by
  have hids : (abs layout s).buffer.map Prod.fst =
      (s.virtualPolygon.entries s.virtualPolygon.iPolygonSize).map Prod.fst := by
    simp [abs, cloudEntries]
  have hsynced : WallsSynced s' ↔ (abs layout s).sync.Synced := by
    rw [← abs_tick hsound hmap h]
    exact Iff.rfl
  rw [hsynced, synced_sync hsound.coherent, hids]
  exact Iff.rfl

/--
**No tick of a run leaves a wall behind exactly if each tick finds every wall that the local
costmap lacks in the buffer.**
-/
theorem walls_synced_iff {es : List Event} {s : Node} :
    (walls layout).RunWith
        (fun s e s' => e = .tick true → s.activeMap = true → WallsSynced s') es s ↔
      (walls layout).RunWith
        (fun s e _ => e = .tick true → s.activeMap = true → ∀ id, Lacks s id → Buffered s id)
        es s := by
  refine Machine.runWith_congr (I := Sound layout) sound_init sound_step fun hsound hs => ?_
  refine forall_congr' fun he => forall_congr' fun hmap => ?_
  subst he
  exact wallsSynced_tick hsound hmap hs

/-- The layout of the `sensor_msgs` library, right on points at the origin. -/
def exampleLayout : XyzLayout where
  fields := [⟨"x", 0, 7, 1⟩, ⟨"y", 4, 7, 1⟩, ⟨"z", 8, 7, 1⟩]
  pointStep := 16
  encode _ := List.replicate 16 0
  length_encode _ := List.length_replicate

/-- A wall that is one point. -/
def pointWall : Polygon := ⟨List.replicate 4 ⟨0, 0, 0⟩⟩

/-- Two walls are added one after the other, and the next tick brings the second one only. -/
theorem loses_first_wall :
    ∃ s, (walls exampleLayout).Run
        [.map 1, .request ⟨[pointWall], [1], false⟩, .request ⟨[pointWall], [2], false⟩] s ∧
      s.activeMap = true ∧
      ∃ s' ∈ (walls exampleLayout).step s (.tick true), ¬ WallsSynced s' := by
  have hrun : ∃ s, (walls exampleLayout).Run
      [.map 1, .request ⟨[pointWall], [1], false⟩, .request ⟨[pointWall], [2], false⟩] s ∧
      s.activeMap = true ∧ ∃ s' ∈ (walls exampleLayout).step s (.tick true),
        s'.polygonGlobalCostmap[(1 : Int)]?.isSome = true ∧
          s'.polygonLocalCostmap[(1 : Int)]? = none :=
    Machine.run_of_exec_mem (by decide +kernel)
  obtain ⟨s, hr, hmap, s', hs, hglobal, hlocal⟩ := hrun
  obtain ⟨cloud, hcloud⟩ := Option.isSome_iff_exists.mp hglobal
  refine ⟨s, hr, hmap, s', hs, ?_⟩
  intro h
  exact absurd (hlocal.symm.trans (h 1 cloud hcloud)) (by simp)

/-! ## Ghost walls -/

/-- The request adds a wall with this id. -/
def Request.Adds (request : Request) (id : Int) : Prop :=
  request.remove = false ∧ id ∈ request.entries.map Prod.fst

/-- An id that is not in the global costmap gets into it by a request that adds it only. -/
theorem global_step {s s' : Node} {e : Event} {id : Int} (h : s.step layout e = some s')
    (habsent : s.polygonGlobalCostmap[id]? = none)
    (hadds : ∀ request, e = .request request → ¬ request.Adds id) :
    s'.polygonGlobalCostmap[id]? = none := by
  cases e with
  | request request =>
    obtain ⟨⟨s₁, response⟩, hcmd, rfl⟩ := Option.map_eq_some_iff.mp h
    cases hremove : request.remove with
    | true =>
      have hprimary : (abs layout s₁).primary id = none := by
        rw [(abs_remove hremove hcmd).1]
        show (if id ∈ request.ids then none else s.polygonGlobalCostmap[id]?) = none
        rw [habsent, ite_self]
      exact hprimary
    | false =>
      have hprimary : (abs layout s₁).primary id = none := by
        rw [(abs_add hremove hcmd).1]
        have hnone : lastEntry (cloudEntries layout request.entries) id = none := by
          rw [lastEntry_eq_none]
          intro hmem
          refine hadds request rfl ⟨hremove, ?_⟩
          simpa [cloudEntries] using hmem
        show (lastEntry (cloudEntries layout request.entries) id).or _ = none
        rw [hnone]
        exact habsent
      exact hprimary
  | tick transform =>
    rcases calcTfTimer_cases h with ⟨hsame, _⟩ | ⟨costmap, cloud, _, _, rfl⟩
    · rw [hsame]
      exact habsent
    · exact habsent
  | map size =>
    obtain rfl := Option.some.inj h
    exact habsent

/-- A removal takes its ids out of the global costmap. -/
theorem global_removed {s s' : Node} {request : Request} {id : Int}
    (hremove : request.remove = true) (hid : id ∈ request.ids)
    (h : s.step layout (.request request) = some s') : s'.polygonGlobalCostmap[id]? = none := by
  obtain ⟨⟨s₁, response⟩, hcmd, rfl⟩ := Option.map_eq_some_iff.mp h
  have hprimary : (abs layout s₁).primary id = none := by
    rw [(abs_remove hremove hcmd).1]
    show (if id ∈ request.ids then none else s.polygonGlobalCostmap[id]?) = none
    rw [if_pos hid]
  exact hprimary

theorem sound_of_run {es : List Event} {s : Node} (hr : (walls layout).Run es s) :
    Sound layout s :=
  hr.invariant sound_init fun hsound hs _ => sound_step hsound hs

/--
**The local costmap has no wall that the global one lacks.** After a removal no tick publishes
a removed wall, until a request adds it again: what it publishes are the bytes of the walls in
the local costmap, and the removed wall is not among them.
-/
theorem no_ghosts {es : List Event} {s : Node} (hr : (walls layout).Run es s) :
    (∀ id, id ∈ s.polygonLocalCostmap → id ∈ s.polygonGlobalCostmap) ∧
      ∀ before request after id, es = before ++ .request request :: after →
        request.remove = true → id ∈ request.ids →
        (∀ added, .request added ∈ after → ¬ added.Adds id) →
        ∀ transform s', s.step layout (.tick transform) = some s' →
          id ∉ s'.polygonLocalCostmap ∧
            ∀ cloud, .localWall cloud ∈ s'.log.drop s.log.length →
              cloud.data = (s'.polygonLocalCostmap.clouds.map (·.data)).flatten := by
  have hsound := sound_of_run hr
  constructor
  · intro id hlocal
    by_contra hglobal
    have habsent : s.polygonGlobalCostmap[id]? = none := by
      rwa [Std.TreeMap.mem_iff_isSome_getElem?, Option.not_isSome_iff_eq_none] at hglobal
    have hghost := hsound.coherent.ghostFree id habsent
    rw [Std.TreeMap.mem_iff_isSome_getElem?] at hlocal
    exact absurd hlocal (by rw [show s.polygonLocalCostmap[id]? = none from hghost]; decide)
  · rintro before request after id rfl hremove hid hadds transform s' hs
    have habsent : s.polygonGlobalCostmap[id]? = none :=
      hr.since (J := fun s : Node => s.polygonGlobalCostmap[id]? = none) (global_removed hremove hid)
        fun hmem hJ hs => global_step hs hJ fun added heq => hadds added (heq ▸ hmem)
    have habsent' := global_step hs habsent fun _ heq => by simp at heq
    refine ⟨?_, ?_⟩
    · have hghost := (sound_step hsound hs).coherent.ghostFree id habsent'
      rw [Std.TreeMap.mem_iff_isSome_getElem?, Option.not_isSome_iff_eq_none]
      exact hghost
    · intro cloud hcloud
      rcases calcTfTimer_cases hs with ⟨hsame, _⟩ | ⟨costmap, published, _, hdata, rfl⟩
      · rw [hsame, List.drop_length] at hcloud
        exact absurd hcloud (by simp)
      · rw [List.drop_left, List.mem_singleton] at hcloud
        rw [Output.localWall.inj hcloud]
        exact hdata

/-- A wall is added, replayed and removed; no tick after that brings it back. -/
theorem no_ghosts_removed :
    ∃ s, (walls exampleLayout).Run
        [.map 1, .request ⟨[pointWall], [1], false⟩, .tick true, .request ⟨[], [1], true⟩] s ∧
      (∀ id, id ∈ s.polygonLocalCostmap → id ∈ s.polygonGlobalCostmap) ∧
      ∀ transform s', s.step exampleLayout (.tick transform) = some s' →
        1 ∉ s'.polygonLocalCostmap := by
  have hrun : ∃ s, (walls exampleLayout).Run
      [.map 1, .request ⟨[pointWall], [1], false⟩, .tick true, .request ⟨[], [1], true⟩] s ∧
      s.activeMap = true :=
    Machine.run_of_exec_mem (by decide +kernel)
  obtain ⟨s, hr, _⟩ := hrun
  obtain ⟨hsub, hremoved⟩ := no_ghosts hr
  refine ⟨s, hr, hsub, ?_⟩
  intro transform s' hs
  exact (hremoved [.map 1, .request ⟨[pointWall], [1], false⟩, .tick true] _ [] 1 rfl rfl
    (by simp) (by simp) transform s' hs).1

end Tetra.Wall
