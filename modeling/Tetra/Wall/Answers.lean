import Tetra.Wall.Sync

/-!
# Every well-formed request is answered

The callbacks of the node can fail in three places: an id that is missing, a place past the end
of the arrays, and clouds that do not merge. `step_answers` shows that none of them is reached with
enough ids for the polygons, 255 at most, and `walls_answer` that every sequence of requests with as
many ids as polygons is a run.
-/

namespace Tetra.Wall

open BufferedReplica

variable {layout : XyzLayout}

/-- As many ids as polygons and at most 255 of them, or a removal. -/
def Event.WellFormed : Event → Prop
  | .request asked => asked.remove = true ∨
      asked.ids.length = asked.polygons.length ∧ asked.polygons.length ≤ 255
  | _ => True

/-- No more polygons than there are ids, nor than the buffer has places, or a removal. -/
def Event.Fits : Event → Prop
  | .request asked => asked.remove = true ∨
      asked.polygons.length ≤ asked.ids.length ∧ asked.polygons.length ≤ 255
  | _ => True

theorem Event.WellFormed.fits {e : Event} (h : e.WellFormed) : e.Fits := by
  cases e with
  | request request => exact h.imp id fun hboth => ⟨hboth.1.ge, hboth.2⟩
  | tick | map => trivial

/-- Every cloud of a costmap is well-formed. -/
def Costmap.WellFormed (layout : XyzLayout) (costmap : Costmap) : Prop :=
  ∀ (id : Int) (cloud : PointCloud2), costmap[id]? = some cloud → Wall.WellFormed layout cloud

/-- The buffer is within its arrays, and both costmaps are well-formed. -/
structure Intact (layout : XyzLayout) (s : Node) : Prop where
  size : s.virtualPolygon.iPolygonSize ≤ 255
  globalCostmap : s.polygonGlobalCostmap.WellFormed layout
  localCostmap : s.polygonLocalCostmap.WellFormed layout

theorem mergeAll_clouds {costmap : Costmap} (h : costmap.WellFormed layout) :
    ∃ merged, mergeAll costmap.clouds = some merged := by
  have hclouds : ∀ cloud ∈ costmap.clouds, Wall.WellFormed layout cloud := by
    intro cloud hcloud
    obtain ⟨⟨id, c⟩, hmem, rfl⟩ := List.mem_map.mp hcloud
    exact h id c (Std.TreeMap.mem_toList_iff_getElem?_eq_some.mp hmem)
  obtain ⟨merged, hmerged, _⟩ := mergeAll_of_wellFormed hclouds
  exact ⟨merged, hmerged⟩

/-! ## Costmaps stay well-formed -/

theorem wellFormed_of_mem_cloudEntries {entries : List (Int × Polygon)} {id : Int}
    {cloud : PointCloud2} (h : (id, cloud) ∈ cloudEntries layout entries) :
    WellFormed layout cloud := by
  obtain ⟨entry, _, heq⟩ := List.mem_map.mp h
  rw [← (Prod.mk.inj heq).2]
  exact wellFormed_xyzCloud layout "map" _

theorem wellFormed_overlay {entries : List (Int × Polygon)} {costmap costmap' : Costmap}
    (h : costmap.WellFormed layout)
    (hover : (fun k => costmap'[k]?) =
      overlay (fun k => costmap[k]?) (cloudEntries layout entries)) :
    costmap'.WellFormed layout := by
  intro id cloud hcloud
  have hid : overlay (fun k => costmap[k]?) (cloudEntries layout entries) id = some cloud :=
    (congrFun hover id).symm.trans hcloud
  rcases overlay_cases hid with hentry | hold
  · exact wellFormed_of_mem_cloudEntries hentry
  · exact h id cloud hold

theorem wellFormed_without {ids : List Int} {costmap costmap' : Costmap}
    (h : costmap.WellFormed layout)
    (hover : (fun k => costmap'[k]?) = without (fun k => costmap[k]?) ids) :
    costmap'.WellFormed layout := by
  intro id cloud hcloud
  have hid : without (fun k => costmap[k]?) ids id = some cloud :=
    (congrFun hover id).symm.trans hcloud
  unfold without at hid
  split at hid
  · simp at hid
  · exact h id cloud hid

/-! ## The loops end -/

theorem addPolygons_answers {ids : List Int} {polygons : List Polygon} : ∀ {s : Node} {i : Nat},
    i + polygons.length ≤ ids.length → i + polygons.length ≤ 255 →
      ∃ s', s.addPolygons layout ids i polygons = some s' := by
  induction polygons with
  | nil => exact fun _ _ => ⟨_, rfl⟩
  | cons polygon rest ih =>
    intro s i hids hmax
    rw [List.length_cons] at hids hmax
    have hid : ids[i]? = some ids[i] := List.getElem?_eq_getElem (by omega)
    have hi : i < 255 := by omega
    have hadd : ∃ s₁, s.addPolygon layout ids i polygon = some s₁ := by
      simp [Node.addPolygon, hid, hi]
    obtain ⟨s₁, hadd⟩ := hadd
    obtain ⟨s', hs'⟩ := ih (s := s₁) (i := i + 1) (by omega) (by omega)
    exact ⟨s', by rw [Node.addPolygons, hadd]; exact hs'⟩

theorem foldlM_addLocal_answers {buffer : VirtualPolygon} (n : Nat) (hn : n ≤ 255)
    (costmap : Costmap) :
    ∃ costmap', (List.range n).foldlM (Node.addLocal layout buffer) costmap = some costmap' := by
  induction n with
  | zero => exact ⟨costmap, rfl⟩
  | succ n ih =>
    obtain ⟨mid, hmid⟩ := ih (by omega)
    have hpolygon : buffer.polygons[n]? = some buffer.polygons[n] :=
      Vector.getElem?_eq_getElem (by omega)
    have hid : buffer.iID[n]? = some buffer.iID[n] := Vector.getElem?_eq_getElem (by omega)
    refine ⟨mid.insert buffer.iID[n] (Node.localCloud layout buffer.polygons[n]), ?_⟩
    rw [List.range_succ, List.foldlM_append, hmid]
    simp only [List.foldlM_cons, List.foldlM_nil, Node.addLocal, hpolygon, hid]
    rfl

theorem updateLocal_answers {s : Node} (h : Intact layout s) :
    ∃ costmap, s.updateLocal layout = some costmap := by
  unfold Node.updateLocal
  split
  · exact ⟨_, rfl⟩
  · exact foldlM_addLocal_answers _ h.size _

theorem wellFormed_updateLocal {s : Node} {costmap : Costmap} (h : Intact layout s)
    (hcostmap : s.updateLocal layout = some costmap) : costmap.WellFormed layout := by
  unfold Node.updateLocal at hcostmap
  split at hcostmap
  · rw [← Option.some.inj hcostmap]
    exact h.localCostmap
  · rw [foldlM_addLocal_eq _ hcostmap]
    exact wellFormed_overlay h.localCostmap (getElem?_foldl_insert _ _)

theorem publishGlobal_answers {s : Node} (h : s.polygonGlobalCostmap.WellFormed layout) :
    ∃ s', s.publishGlobal = some s' := by
  obtain ⟨merged, hmerged⟩ := mergeAll_clouds h
  unfold Node.publishGlobal
  rw [hmerged]
  simp only [Option.bind_eq_bind, Option.bind_some]
  split
  · exact ⟨_, rfl⟩
  · exact ⟨_, rfl⟩

/-! ## Callbacks -/

theorem intact_remove {s s' : Node} {request : Request} {response : Response}
    (h : Intact layout s) (hremove : request.remove = true)
    (hcmd : s.addVirtualObstacleCommand layout request = some (s', response)) :
    Intact layout s' := by
  obtain ⟨habs, hsize⟩ := abs_remove hremove hcmd
  refine ⟨hsize ▸ h.size, ?_, ?_⟩
  · exact wellFormed_without h.globalCostmap (congrArg State.primary habs)
  · exact wellFormed_without h.localCostmap (congrArg State.replica habs)

theorem intact_add {s s' : Node} {request : Request} {response : Response}
    (h : Intact layout s) (hremove : request.remove = false)
    (hmax : request.polygons.length ≤ 255)
    (hcmd : s.addVirtualObstacleCommand layout request = some (s', response)) :
    Intact layout s' := by
  obtain ⟨habs, hsize, _⟩ := abs_add hremove hcmd
  refine ⟨by omega, ?_, ?_⟩
  · exact wellFormed_overlay h.globalCostmap (congrArg State.primary habs)
  · intro id cloud hcloud
    have hsame : (abs layout s').replica id = (abs layout s).replica id := by rw [habs]; rfl
    exact h.localCostmap id cloud (hsame.symm.trans hcloud)

theorem command_answers {s : Node} {request : Request} (h : Intact layout s)
    (hfits : (Event.request request).Fits) :
    ∃ s' response, s.addVirtualObstacleCommand layout request = some (s', response) := by
  unfold Node.addVirtualObstacleCommand
  dsimp only
  split
  · next hremove =>
    -- the global costmap without the ids is still well-formed
    obtain ⟨s', hs'⟩ := publishGlobal_answers (s := { s with
      virtualPolygon.remove := request.remove
      virtualPolygon.iIDArraySize := request.ids.length
      polygonGlobalCostmap := request.ids.foldl (fun costmap id => costmap.erase id)
        s.polygonGlobalCostmap
      polygonLocalCostmap := request.ids.foldl (fun costmap id => costmap.erase id)
        s.polygonLocalCostmap })
      (wellFormed_without h.globalCostmap (getElem?_foldl_erase request.ids _))
    exact ⟨s', _, Option.bind_eq_some_iff.mpr ⟨s', hs', rfl⟩⟩
  · next hremove =>
    rcases hfits with hremoves | ⟨hlength, hmax⟩
    · exact absurd hremoves hremove
    have hloop : ∃ s₁, Node.addPolygons layout request.ids { s with
        virtualPolygon.remove := request.remove
        virtualPolygon.iPolygonSize := request.polygons.length } 0 request.polygons = some s₁ :=
      addPolygons_answers (by omega) (by omega)
    obtain ⟨s₁, hs₁⟩ := hloop
    have hglobal : s₁.polygonGlobalCostmap.WellFormed layout := by
      rw [(addPolygons_eq hs₁).1]
      exact wellFormed_overlay h.globalCostmap (getElem?_foldl_insert _ _)
    obtain ⟨s', hs'⟩ := publishGlobal_answers hglobal
    refine ⟨s', ⟨true, "Virtual Polygons added successfully."⟩, ?_⟩
    rw [hs₁, Option.bind_eq_bind, Option.bind_some, hs']
    rfl

theorem intact_tick {s s' : Node} {transform : Bool} (h : Intact layout s)
    (htick : s.calcTfTimer layout transform = some s') : Intact layout s' := by
  rcases calcTfTimer_cases htick with ⟨hsame, _⟩ | ⟨costmap, cloud, hcostmap, _, rfl⟩
  · rw [hsame]
    exact h
  · exact ⟨h.size, h.globalCostmap, wellFormed_updateLocal h hcostmap⟩

theorem tick_answers {s : Node} (transform : Bool) (h : Intact layout s) :
    ∃ s', s.calcTfTimer layout transform = some s' := by
  obtain ⟨costmap, hcostmap⟩ := updateLocal_answers h
  obtain ⟨merged, hmerged⟩ := mergeAll_clouds (wellFormed_updateLocal h hcostmap)
  unfold Node.calcTfTimer
  rw [hcostmap]
  simp only [Option.bind_eq_bind, Option.bind_some, hmerged]
  split_ifs
  all_goals exact ⟨_, rfl⟩

/-- **An event that fits is handled, and leaves the node able to handle the next one.** -/
theorem step_answers {s : Node} {e : Event} (h : Intact layout s) (hfits : e.Fits) :
    ∃ s', s.step layout e = some s' ∧ Intact layout s' := by
  cases e with
  | request request =>
    obtain ⟨s', response, hcmd⟩ := command_answers h hfits
    refine ⟨s', Option.map_eq_some_iff.mpr ⟨_, hcmd, rfl⟩, ?_⟩
    cases hremove : request.remove with
    | true => exact intact_remove h hremove hcmd
    | false =>
      rcases hfits with hremoves | ⟨_, hmax⟩
      · exact absurd (hremove.symm.trans hremoves) (by decide)
      · exact intact_add h hremove hmax hcmd
  | tick transform =>
    obtain ⟨s', htick⟩ := tick_answers transform h
    exact ⟨s', htick, intact_tick h htick⟩
  | map size => exact ⟨_, rfl, h.size, h.globalCostmap, h.localCostmap⟩

theorem intact_init : Intact layout {} :=
  ⟨Nat.zero_le _, fun _ _ h => by simp at h, fun _ _ h => by simp at h⟩

/-- **Every sequence of well-formed events is a run.** -/
theorem walls_answer {es : List Event} (h : ∀ e ∈ es, e.WellFormed) :
    ∃ s, (walls layout).Run es s ∧ Intact layout s := by
  induction es using List.reverseRecOn with
  | nil => exact ⟨{}, .init, intact_init⟩
  | append_singleton es e ih =>
    obtain ⟨s, hr, hintact⟩ := ih fun e he => h e (List.mem_append_left _ he)
    obtain ⟨s', hs, hintact'⟩ :=
      step_answers hintact (h e (List.mem_append_right _ List.mem_cons_self)).fits
    exact ⟨s', .snoc hr hs trivial, hintact'⟩

end Tetra.Wall
