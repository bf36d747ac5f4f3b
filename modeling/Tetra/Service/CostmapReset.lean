import Tetra.Lib.EventLog
import Tetra.Lib.Machine

/-!
# Clearing the costmaps on the charger

The main loop of `tetra_service` counts its iterations on the charger and has the costmaps cleared when
there have been more than 500 of them. Only iterations with a map count, and the one that clears does not
look at the charging status: it is the 502nd at the earliest.

`cleared_iff` is when `Clear_Costmap` is called and what is sent then.
-/

namespace Tetra.Service

open EventLog

/-! ## The source -/

/-- A request to clear a costmap. -/
inductive Costmap
  | globalCostmap
  | localCostmap
  deriving DecidableEq, Repr

/-- An iteration with a map: which of the services are available within a second, what it has found and
what it has done. -/
structure Iteration where
  globalAvailable : Bool
  localAvailable : Bool
  /-- Whether the robot is on the charger, where it has looked. -/
  charging : Option Bool := none
  /-- What `Clear_Costmap` has returned, where it has been called. -/
  cleared : Option Bool := none
  requests : List Costmap := []
  deriving DecidableEq, Repr

/-- What the main loop works on, and the iterations with a map that it has made. -/
structure ResetLoop where
  activeMap : Bool := false
  chargingStatus : Int := 0
  poseResetCnt : Int := 0
  iterations : List Iteration := []
  deriving DecidableEq, Repr

/-- `Clear_Costmap`: what it returns, and the requests that it sends. -/
def clearCostmap (globalAvailable localAvailable : Bool) : Bool × List Costmap :=
  if !globalAvailable then (false, [])
  else if !localAvailable then (false, [])
  else (true, [.globalCostmap, .localCostmap])

namespace ResetLoop

/-- `m_iCallback_Charging_status` says that the robot is on the charger. -/
def Charging (s : ResetLoop) : Prop :=
  s.chargingStatus = 2 ∨ s.chargingStatus = 3 ∨ s.chargingStatus = 6 ∨ s.chargingStatus = 7

instance (s : ResetLoop) : Decidable s.Charging := inferInstanceAs (Decidable (_ ∨ _))

/-- The body of the main loop. -/
def iterate (s : ResetLoop) (globalAvailable localAvailable : Bool) : ResetLoop :=
  let i : Iteration := { globalAvailable, localAvailable }
  if s.activeMap then
    if 500 < s.poseResetCnt then
      let (cleared, requests) := clearCostmap globalAvailable localAvailable
      { s with
        poseResetCnt := 0
        iterations := s.iterations ++ [{ i with cleared := some cleared, requests }] }
    else if s.Charging then
      { s with
        poseResetCnt := s.poseResetCnt + 1
        iterations := s.iterations ++ [{ i with charging := some true }] }
    else
      { s with
        poseResetCnt := 0
        iterations := s.iterations ++ [{ i with charging := some false }] }
  else s

end ResetLoop

/-- A callback, or an iteration of the main loop. -/
inductive ResetEvent
  /-- `map_Callback`, with the size of the map. -/
  | map (size : Nat)
  /-- `DockingStatusCallback` -/
  | dockingStatus (data : Int)
  | iteration (globalAvailable localAvailable : Bool)
  deriving DecidableEq, Repr

def resetLoop : Machine ResetLoop ResetEvent where
  init := {}
  step s
    | .map size => some { s with activeMap := decide (0 < size) }
    | .dockingStatus data => some { s with chargingStatus := data }
    | .iteration globalAvailable localAvailable => some (s.iterate globalAvailable localAvailable)

/-! ## The counter -/

/-- How many iterations in a row, the last ones, have found the robot on the charger. -/
def charged (iterations : List Iteration) : Nat := streak (·.charging = some true) iterations

@[simp] theorem charged_nil : charged [] = 0 := rfl

@[simp] theorem charged_concat (iterations : List Iteration) (i : Iteration) :
    charged (iterations ++ [i]) = if i.charging = some true then charged iterations + 1 else 0 :=
  streak_concat iterations i

/-- What an iteration does, said by those before it. -/
structure Does (before : List Iteration) (i : Iteration) : Prop where
  cleared : i.cleared = if charged before = 501 then some (i.globalAvailable && i.localAvailable) else none
  requests : i.requests =
    if charged before = 501 ∧ i.globalAvailable ∧ i.localAvailable then [.globalCostmap, .localCostmap]
    else []

/-- The counter, and what it is for. -/
structure Counts (s : ResetLoop) : Prop where
  cnt : s.poseResetCnt = charged s.iterations
  bound : s.poseResetCnt ≤ 501
  does : Whenever (fun _ => True) Does s.iterations
  rare : 502 * s.iterations.countP (·.cleared.isSome) + charged s.iterations ≤ s.iterations.length

section Counts

variable {s s' : ResetLoop} {e : ResetEvent} {es : List ResetEvent}

theorem clearCostmap_eq (globalAvailable localAvailable : Bool) :
    clearCostmap globalAvailable localAvailable =
      (globalAvailable && localAvailable,
        if globalAvailable ∧ localAvailable then [.globalCostmap, .localCostmap] else []) := by
  cases globalAvailable <;> cases localAvailable <;> rfl

/-- An iteration that only looks at the charging status. -/
theorem does_looked {before : List Iteration} {i : Iteration} (hless : charged before < 501)
    (hcleared : i.cleared = none) (hrequests : i.requests = []) : Does before i := by
  have hne : charged before ≠ 501 := Nat.ne_of_lt hless
  exact ⟨by rw [hcleared, if_neg hne], by rw [hrequests, if_neg fun h => hne h.1]⟩

theorem counts_iterate (h : Counts s) (globalAvailable localAvailable : Bool) :
    Counts (s.iterate globalAvailable localAvailable) := by
  obtain ⟨hcnt, hbound, hdoes, hrare⟩ := h
  unfold ResetLoop.iterate
  split_ifs with hmap hfull hcharging
  -- the counter is over 500, and never over 501: the costmaps are cleared
  · have hcharged : charged s.iterations = 501 := by omega
    rw [clearCostmap_eq]
    refine ⟨by simp, by simp, whenever_concat.mpr ⟨hdoes, fun _ => ?_⟩, ?_⟩
    · exact ⟨by rw [if_pos hcharged], by simp [hcharged]⟩
    · simp [List.countP_append]
      omega
  -- on the charger: one more
  · have hless : charged s.iterations < 501 := by omega
    refine ⟨by simp [hcnt], by simp; omega, whenever_concat.mpr ⟨hdoes, fun _ => ?_⟩, ?_⟩
    · exact does_looked hless rfl rfl
    · simp [List.countP_append]
      omega
  -- off it: the count starts again
  · have hless : charged s.iterations < 501 := by omega
    refine ⟨by simp, by simp, whenever_concat.mpr ⟨hdoes, fun _ => ?_⟩, ?_⟩
    · exact does_looked hless rfl rfl
    · simp [List.countP_append]
      omega
  · exact ⟨hcnt, hbound, hdoes, hrare⟩

theorem counts_of_run (hr : resetLoop.Run es s) : Counts s := by
  have hinit : Counts resetLoop.init := ⟨rfl, by decide, whenever_nil _ _, Nat.le_refl 0⟩
  refine hr.invariant hinit ?_
  intro s e s' h hs _
  cases e with
  | map size =>
    obtain rfl := Option.some.inj hs
    exact ⟨h.cnt, h.bound, h.does, h.rare⟩
  | dockingStatus data =>
    obtain rfl := Option.some.inj hs
    exact ⟨h.cnt, h.bound, h.does, h.rare⟩
  | iteration globalAvailable localAvailable =>
    obtain rfl := Option.some.inj hs
    exact counts_iterate h globalAvailable localAvailable

/--
**An iteration with a map calls `Clear_Costmap` exactly if the 501 before it have found the robot on the
charger, and no more than these.** It sends a request for each costmap then, if both services are
available, and none otherwise. At most one in 502 iterations calls it.
-/
theorem cleared_iff (hr : resetLoop.Run es s) :
    (∀ before i after, s.iterations = before ++ i :: after →
      (i.cleared =
        if charged before = 501 then some (i.globalAvailable && i.localAvailable) else none) ∧
      i.requests =
        if charged before = 501 ∧ i.globalAvailable ∧ i.localAvailable then
          [.globalCostmap, .localCostmap]
        else []) ∧
    0 ≤ s.poseResetCnt ∧ s.poseResetCnt ≤ 501 ∧
    502 * s.iterations.countP (·.cleared.isSome) ≤ s.iterations.length := by
  have h := counts_of_run hr
  refine ⟨?_, ?_, h.bound, Nat.le_of_add_right_le h.rare⟩
  · intro before i after hsplit
    have hdoes := h.does before i after hsplit trivial
    exact ⟨hdoes.cleared, hdoes.requests⟩
  · rw [h.cnt]
    exact Int.natCast_nonneg _

end Counts

/-- 502 iterations on the charger, with the services there: the last one sends the requests. -/
theorem cleared_iff_charged : ∃ s before i,
    resetLoop.Run ([.map 1, .dockingStatus 2] ++ List.replicate 502 (.iteration true true)) s ∧
      s.iterations = before ++ [i] ∧ charged before = 501 ∧
        i.requests = [.globalCostmap, .localCostmap] := by
  have hrun : ∃ s ∈ resetLoop.exec
      ([.map 1, .dockingStatus 2] ++ List.replicate 502 (.iteration true true)),
      s.iterations =
        List.replicate 501 { globalAvailable := true, localAvailable := true, charging := some true } ++
          [{ globalAvailable := true, localAvailable := true, cleared := some true,
             requests := [.globalCostmap, .localCostmap] }] := by
    decide +kernel
  obtain ⟨s, hr, hsplit⟩ := Machine.run_of_exec_mem hrun
  have hcharged : charged (List.replicate 501
      { globalAvailable := true, localAvailable := true, charging := some true }) = 501 := by
    decide +kernel
  obtain ⟨hdoes, -⟩ := cleared_iff hr
  refine ⟨s, _, _, hr, hsplit, hcharged, ?_⟩
  rw [(hdoes _ _ [] hsplit).2, hcharged]
  rfl

end Tetra.Service
