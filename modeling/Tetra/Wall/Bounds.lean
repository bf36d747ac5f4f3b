import Tetra.Wall.Answers

/-!
# Indices in range

A request that adds walls walks over its polygons and indexes three more arrays with the same
counter: its ids, and the two arrays of `_pVirtual_polygon`, which have 255 places. The timer
walks over those two up to the size that the last such request has recorded. No index is compared
with anything. A removal goes through its ids by a range-based loop and indexes nothing.

`Node.accesses` lists the indices of a callback, and `step_isSome_iff` says that the model ends
where one of them is out of range, and nowhere else.
-/

namespace Tetra.Wall

open BufferedReplica

/-- The arrays that are indexed: two of the request, two of `_pVirtual_polygon`. -/
inductive Indexed
  | requestPolygons
  | requestIds
  | bufferPolygons
  | bufferIds
  deriving DecidableEq, Repr

/-- An array, the index it is used with, and how many places it has. -/
structure Access where
  array : Indexed
  index : Nat
  size : Nat
  deriving DecidableEq, Repr

def Access.InRange (access : Access) : Prop := access.index < access.size

instance (access : Access) : Decidable access.InRange := inferInstanceAs (Decidable (_ < _))

/-- The loop that adds polygons. -/
def Request.accesses (request : Request) : List Access :=
  (List.range request.polygons.length).flatMap fun i =>
    [⟨.requestPolygons, i, request.polygons.length⟩, ⟨.bufferPolygons, i, 255⟩,
      ⟨.requestIds, i, request.ids.length⟩, ⟨.bufferIds, i, 255⟩]

/-- The update loop of the timer. -/
def VirtualPolygon.accesses (buffer : VirtualPolygon) : List Access :=
  (List.range buffer.iPolygonSize).flatMap fun i =>
    [⟨.bufferPolygons, i, 255⟩, ⟨.bufferIds, i, 255⟩]

/-- The indices of a callback. -/
def Node.accesses (s : Node) : Event → List Access
  | .request request => if request.remove then [] else request.accesses
  | .tick transform =>
    if s.activeMap && s.virtualPolygon.noEmpty && transform && !s.virtualPolygon.remove then
      s.virtualPolygon.accesses
    else []
  | .map _ => []

/-- Every index of a callback is in range. -/
def Node.InBounds (s : Node) (e : Event) : Prop := ∀ access ∈ s.accesses e, access.InRange

instance (s : Node) (e : Event) : Decidable (s.InBounds e) :=
  inferInstanceAs (Decidable (∀ access ∈ s.accesses e, access.InRange))

variable {layout : XyzLayout} {s s' : Node} {e : Event}

/-! ## Requests -/

theorem accesses_inRange_iff {request : Request} :
    (∀ access ∈ request.accesses, access.InRange) ↔
      request.polygons.length ≤ request.ids.length ∧ request.polygons.length ≤ 255 := by
  constructor
  · intro h
    rcases Nat.eq_zero_or_pos request.polygons.length with hnone | hpos
    · omega
    · -- the last turn has the largest index
      have hlast : ∀ access ∈ [(⟨.requestPolygons, request.polygons.length - 1,
          request.polygons.length⟩ : Access), ⟨.bufferPolygons, request.polygons.length - 1, 255⟩,
          ⟨.requestIds, request.polygons.length - 1, request.ids.length⟩,
          ⟨.bufferIds, request.polygons.length - 1, 255⟩], access.InRange := by
        intro access haccess
        exact h access (List.mem_flatMap.mpr ⟨_, List.mem_range.mpr (by omega), haccess⟩)
      have hids : request.polygons.length - 1 < request.ids.length :=
        hlast ⟨.requestIds, _, _⟩ (by simp)
      have hbuffer : request.polygons.length - 1 < 255 := hlast ⟨.bufferIds, _, _⟩ (by simp)
      omega
  · rintro ⟨hids, hmax⟩ access haccess
    obtain ⟨i, hi, hmem⟩ := List.mem_flatMap.mp haccess
    have hlt := List.mem_range.mp hi
    simp only [List.mem_cons, List.not_mem_nil, or_false] at hmem
    rcases hmem with rfl | rfl | rfl | rfl
    · exact hlt
    · exact hlt.trans_le hmax
    · exact hlt.trans_le hids
    · exact hlt.trans_le hmax

theorem inBounds_request_iff {request : Request} :
    s.InBounds (.request request) ↔ (Event.request request).Fits := by
  cases hremove : request.remove with
  | true => exact iff_of_true (by simp [Node.InBounds, Node.accesses, hremove]) (Or.inl hremove)
  | false =>
    rw [Node.InBounds, Node.accesses, if_neg (by simp [hremove]), accesses_inRange_iff, Event.Fits]
    simp [hremove]

/-! ## The timer -/

/-- **While the recorded size is at most 255, a tick stays within the arrays.** -/
theorem inBounds_tick (h : Intact layout s) (transform : Bool) : s.InBounds (.tick transform) := by
  intro access haccess
  rw [Node.accesses] at haccess
  split at haccess
  · obtain ⟨i, hi, hmem⟩ := List.mem_flatMap.mp haccess
    have hlt : i < 255 := (List.mem_range.mp hi).trans_le h.size
    simp only [List.mem_cons, List.not_mem_nil, or_false] at hmem
    rcases hmem with rfl | rfl
    · exact hlt
    · exact hlt
  · simp at haccess

/-- In a state whose size is recorded within the arrays, only a request can leave them. -/
theorem inBounds_iff_fits (h : Intact layout s) : s.InBounds e ↔ e.Fits := by
  cases e with
  | request request => exact inBounds_request_iff
  | tick transform => exact iff_of_true (inBounds_tick h transform) trivial
  | map size => exact iff_of_true (fun access haccess => by simp [Node.accesses] at haccess) trivial

/-! ## The model ends where an index is out of range -/

theorem addPolygons_fits {ids : List Int} {polygons : List Polygon} : ∀ {s s' : Node} {i : Nat},
    s.addPolygons layout ids i polygons = some s' → polygons ≠ [] →
      i + polygons.length ≤ ids.length ∧ i + polygons.length ≤ 255 := by
  induction polygons with
  | nil => exact fun _ hne => absurd rfl hne
  | cons polygon rest ih =>
    intro s s' i h _
    obtain ⟨s₁, hadd, hrest⟩ := Option.bind_eq_some_iff.mp h
    obtain ⟨id, hid, hwrite⟩ := Option.bind_eq_some_iff.mp hadd
    obtain ⟨hids, -⟩ := List.getElem?_eq_some_iff.mp hid
    have hmax : i < 255 := by
      split at hwrite
      · assumption
      · simp at hwrite
    rw [List.length_cons]
    by_cases hlast : rest = []
    · rw [hlast, List.length_nil]
      omega
    · have hbounds := ih hrest hlast
      omega

theorem command_fits {request : Request} {result : Node × Response}
    (h : s.addVirtualObstacleCommand layout request = some result) :
    (Event.request request).Fits := by
  cases hremove : request.remove with
  | true => exact Or.inl hremove
  | false =>
    unfold Node.addVirtualObstacleCommand at h
    dsimp only at h
    rw [if_neg (by simp [hremove])] at h
    obtain ⟨s₁, hadd, -⟩ := Option.bind_eq_some_iff.mp h
    refine Or.inr ?_
    by_cases hnone : request.polygons = []
    · simp [hnone]
    · have hbounds := addPolygons_fits hadd hnone
      omega

/-- **A callback is handled exactly if all its indices are in range.** -/
theorem step_isSome_iff (h : Intact layout s) :
    (∃ s', s.step layout e = some s') ↔ s.InBounds e := by
  rw [inBounds_iff_fits h]
  constructor
  · rintro ⟨s', hs⟩
    cases e with
    | request request =>
      obtain ⟨result, hcmd, -⟩ := Option.map_eq_some_iff.mp hs
      exact command_fits hcmd
    | tick | map => trivial
  · intro hfits
    obtain ⟨s', hs, -⟩ := step_answers h hfits
    exact ⟨s', hs⟩

/-! ## Any sequence of events -/

/-- Each event of a sequence that the node gets to is handled within bounds. -/
def AllInBounds (layout : XyzLayout) (es : List Event) : Prop :=
  ∀ before e after s, es = before ++ e :: after → (walls layout).Run before s → s.InBounds e

theorem intact_run {es : List Event} (hr : (walls layout).Run es s) : Intact layout s :=
  hr.invariant intact_init fun hI hs _ => by
    obtain ⟨s'', hs'', hI''⟩ :=
      step_answers hI ((inBounds_iff_fits hI).mp ((step_isSome_iff hI).mp ⟨_, hs⟩))
    rw [Option.some.inj (hs.symm.trans hs'')]
    exact hI''

/-- As long as all indices are in range there is a state after the events. -/
theorem run_of_allInBounds {es : List Event} (h : AllInBounds layout es) :
    ∃ s, (walls layout).Run es s := by
  induction es using List.reverseRecOn with
  | nil => exact ⟨{}, .init⟩
  | append_singleton es e ih =>
    obtain ⟨s, hr⟩ := ih fun before e' after s' hsplit hr =>
      h before e' (after ++ [e]) s' (by rw [hsplit]; simp) hr
    obtain ⟨s', hs⟩ := (step_isSome_iff (intact_run hr)).mpr (h es e [] s rfl hr)
    exact ⟨s', .snoc hr hs trivial⟩

/--
**A sequence of requests and ticks is handled within bounds exactly if each request that adds
walls has enough ids for its polygons, and 255 polygons at most.**
-/
theorem allInBounds_iff {es : List Event} : AllInBounds layout es ↔ ∀ e ∈ es, e.Fits := by
  constructor
  · intro h e he
    obtain ⟨before, after, rfl⟩ := List.append_of_mem he
    have hbefore : AllInBounds layout before := fun front e' back s' hsplit hr =>
      h front e' (back ++ e :: after) s' (by rw [hsplit]; simp) hr
    obtain ⟨s, hr⟩ := run_of_allInBounds hbefore
    exact (inBounds_iff_fits (intact_run hr)).mp (h before e after s rfl hr)
  · rintro h before e after s rfl hr
    exact (inBounds_iff_fits (intact_run hr)).mpr (h e (by simp))

/-- A polygon without an id, and 256 polygons. -/
theorem indices_out_of_range :
    ¬ AllInBounds exampleLayout [.request ⟨[pointWall], [], false⟩] ∧
      ¬ AllInBounds exampleLayout
        [.request ⟨List.replicate 256 pointWall, List.replicate 256 1, false⟩] := by
  constructor
  · intro h
    exact absurd (h [] _ [] {} rfl .init) (by decide)
  · intro h
    exact absurd (h [] _ [] {} rfl .init) (by decide +kernel)

end Tetra.Wall
