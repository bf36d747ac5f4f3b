import Tetra.Lib.EventLog
import Tetra.Lib.Machine

/-!
# The port handle of a serial module

`_drv` and `_power` hold the descriptor of the open port, and 0 is for "none". The create
functions ask for 0 to tell whether the port is open, but `drvm_init` and `power_init` answer
-1 when it is not, and 0 is a descriptor like any other. A create that fails then answers 0 and
leaves -1 to be closed later, and one that gets descriptor 0 answers -1 and never closes it.

`lifeCycle_iff` says that nothing else goes wrong.
-/

namespace Tetra.Serial

open EventLog Machine

/-! ## Descriptors -/

/-- A descriptor that `open` returned, or that `close` was called with. -/
inductive DescriptorCall
  | opened (fd : Int)
  | closed (fd : Int)
  deriving DecidableEq, Repr

def DescriptorCall.apply (fds : List Int) : DescriptorCall → List Int
  | .opened fd => fd :: fds
  | .closed fd => fds.erase fd

/-- The descriptors that are open after these calls. -/
def openDescriptors (log : List DescriptorCall) : List Int := log.foldl DescriptorCall.apply []

@[simp] theorem openDescriptors_nil : openDescriptors [] = [] := rfl

@[simp] theorem openDescriptors_opened (log : List DescriptorCall) (fd : Int) :
    openDescriptors (log ++ [.opened fd]) = fd :: openDescriptors log := by
  simp [openDescriptors, DescriptorCall.apply]

@[simp] theorem openDescriptors_closed (log : List DescriptorCall) (fd : Int) :
    openDescriptors (log ++ [.closed fd]) = (openDescriptors log).erase fd := by
  simp [openDescriptors, DescriptorCall.apply]

/-! ## The source -/

/-- The global of a module, `_drv` or `_power`, and its calls of `open` and `close`. -/
structure PortModule where
  handle : Int := 0
  log : List DescriptorCall := []
  deriving DecidableEq, Repr

namespace PortModule

/-- `open_port`; `opened` is what `open` returns. -/
def openPort (s : PortModule) (opened : Int) : PortModule × Int :=
  if opened = -1 then (s, opened) else ({ s with log := s.log ++ [.opened opened] }, opened)

/-- `close(fd)` -/
def close (s : PortModule) (fd : Int) : PortModule := { s with log := s.log ++ [.closed fd] }

/-- `drvm_init`. What `set_terminal` makes of the port is never looked at. -/
def drvmInit (s : PortModule) (opened : Int) : PortModule × Int :=
  let (s, fd) := s.openPort opened
  if fd < 0 then (s, -1) else (s, fd)

/-- `drvm_deinit` -/
def drvmDeinit (s : PortModule) (fd : Int) : PortModule := s.close fd

/-- `power_init`, which besides clears a record that nothing reads. -/
def powerInit (s : PortModule) (opened : Int) : PortModule × Int :=
  let (s, fd) := s.openPort opened
  if fd < 0 then (s, -1) else (s, fd)

/-- `power_deinit` -/
def powerDeinit (s : PortModule) (fd : Int) : PortModule := s.close fd

section Module

variable (init : PortModule → Int → PortModule × Int) (deinit : PortModule → Int → PortModule)

/-- The destroy function of a module. -/
def destroyWith (s : PortModule) : PortModule :=
  if s.handle ≠ 0 then { deinit s s.handle with handle := 0 } else s

/-- The create function of a module. -/
def createWith (s : PortModule) (opened : Int) : PortModule × Int :=
  let s := if s.handle ≠ 0 then { deinit s s.handle with handle := 0 } else s
  let (s, fd) := init s opened
  let s := { s with handle := fd }
  if s.handle = 0 then (s, -1) else (s, 0)

end Module

def dsspRs232DrvModuleCreate : PortModule → Int → PortModule × Int :=
  createWith drvmInit drvmDeinit

def dsspRs232DrvModuleDestroy : PortModule → PortModule := destroyWith drvmDeinit

def dsspRs232PowerModuleCreate : PortModule → Int → PortModule × Int :=
  createWith powerInit powerDeinit

def dsspRs232PowerModuleDestroy : PortModule → PortModule := destroyWith powerDeinit

end PortModule

/-! ## Runs -/

/-- The calls of a module's users, with what `open` returns. -/
inductive PortCall
  | create (opened : Int)
  | destroy
  deriving DecidableEq, Repr

/-- `open` fails, or returns a descriptor that is not open. -/
def Fresh (log : List DescriptorCall) (opened : Int) : Prop :=
  opened = -1 ∨ (0 ≤ opened ∧ opened ∉ openDescriptors log)

instance (log : List DescriptorCall) (opened : Int) : Decidable (Fresh log opened) :=
  inferInstanceAs (Decidable (_ ∨ _))

/-- A module from its start. A create closes before it opens, so what is fresh is asked then. -/
def portModule (create : PortModule → Int → PortModule × Int) (destroy : PortModule → PortModule) :
    Machine PortModule PortCall where
  init := {}
  step s
    | .create opened => if Fresh (destroy s).log opened then some (create s opened).1 else none
    | .destroy => some (destroy s)

/-- The drive module. -/
def drvModule : Machine PortModule PortCall :=
  portModule PortModule.dsspRs232DrvModuleCreate PortModule.dsspRs232DrvModuleDestroy

/-- The power module. -/
def powerModule : Machine PortModule PortCall :=
  portModule PortModule.dsspRs232PowerModuleCreate PortModule.dsspRs232PowerModuleDestroy

/-- The module's global is an open descriptor. -/
def PortModule.Holds (s : PortModule) : Prop := s.handle ∈ openDescriptors s.log

instance (s : PortModule) : Decidable s.Holds :=
  inferInstanceAs (Decidable (_ ∈ openDescriptors _))

/-- What a call has to do, on the states before and after it. -/
structure LifeCycle (create : PortModule → Int → PortModule × Int) (s : PortModule)
    (call : PortCall) (s' : PortModule) : Prop where
  /-- create returns 0 if and only if the module then holds an open descriptor -/
  create : ∀ opened, call = .create opened → ((create s opened).2 = 0 ↔ s'.Holds)
  /-- only what is open, and was opened by the module, is closed -/
  close : Whenever (fun c => ∃ fd, c = .closed fd)
    (fun before c => ∃ fd ∈ openDescriptors before, c = .closed fd) s'.log
  /-- each descriptor obtained is closed exactly once by the end of a destroy -/
  destroy : call = .destroy → ∀ fd, Paired (.opened fd) (.closed fd) s'.log

/-! ## The invariant -/

/-- What a module keeps as long as `open` returns descriptors from 1 up. -/
structure Owned (s : PortModule) : Prop where
  handle : 0 ≤ s.handle
  descriptors : openDescriptors s.log = if s.handle = 0 then [] else [s.handle]
  close : Whenever (fun c => ∃ fd, c = .closed fd)
    (fun before c => ∃ fd ∈ openDescriptors before, c = .closed fd) s.log
  pending : s.handle ≠ 0 → Pending (.opened s.handle) (.closed s.handle) s.log
  paired : ∀ fd, s.handle = 0 ∨ fd ≠ s.handle → Paired (.opened fd) (.closed fd) s.log

section Steps

open PortModule

variable {s : PortModule}

theorem owned_init : Owned {} :=
  ⟨Int.le_refl 0, rfl, whenever_nil _ _, fun h => absurd rfl h, fun _ _ => paired_nil⟩

/-- **A destroy leaves the module without a handle.** -/
theorem Owned.destroy (h : Owned s) :
    Owned (destroyWith PortModule.close s) ∧ (destroyWith PortModule.close s).handle = 0 := by
  unfold destroyWith
  by_cases h0 : s.handle = 0
  · rw [if_neg (not_not.mpr h0)]
    exact ⟨h, h0⟩
  · rw [if_pos h0]
    have hfds : openDescriptors s.log = [s.handle] := by rw [h.descriptors, if_neg h0]
    refine ⟨⟨Int.le_refl 0, ?_, ?_, fun h0 => absurd rfl h0, ?_⟩, rfl⟩
    · simp [PortModule.close, hfds]
    · refine whenever_concat.mpr ⟨h.close, fun _ => ⟨s.handle, ?_, rfl⟩⟩
      rw [hfds]
      exact List.mem_singleton_self _
    · intro fd _
      by_cases hfd : fd = s.handle
      · rw [hfd]
        exact (h.pending h0).concat_second
      · exact (h.paired fd (Or.inr hfd)).concat_other (by simp) (by simpa using Ne.symm hfd)

theorem Owned.descriptors_destroy (h : Owned s) :
    openDescriptors (destroyWith PortModule.close s).log = [] := by
  obtain ⟨hfree, hhandle⟩ := h.destroy
  rw [hfree.descriptors, if_pos hhandle]

/-- A create is a destroy and then `open`. -/
theorem createWith_eq (s : PortModule) (opened : Int) :
    createWith drvmInit PortModule.close s opened =
      let s := destroyWith PortModule.close s
      if opened = -1 then ({ s with handle := -1 }, 0)
      else if opened < 0 then ({ s with handle := -1, log := s.log ++ [.opened opened] }, 0)
      else ({ s with handle := opened, log := s.log ++ [.opened opened] },
        if opened = 0 then -1 else 0) := by
  unfold createWith destroyWith drvmInit openPort
  by_cases hfail : opened = -1
  · simp [hfail]
  · by_cases hneg : opened < 0
    · simp [hfail, hneg]
    · by_cases h0 : opened = 0 <;> simp [hfail, hneg, h0]

/-- A create that gets a descriptor from 1 up. -/
theorem Owned.create (h : Owned s) {opened : Int} (hpos : 1 ≤ opened) :
    Owned (createWith drvmInit PortModule.close s opened).1 ∧
      (createWith drvmInit PortModule.close s opened).1.handle = opened ∧
      (createWith drvmInit PortModule.close s opened).2 = 0 := by
  obtain ⟨hfree, hhandle⟩ := h.destroy
  have hfds := h.descriptors_destroy
  have h0 : opened ≠ 0 := by omega
  rw [createWith_eq, if_neg (by omega), if_neg (by omega), if_neg h0]
  refine ⟨⟨by dsimp only; omega, ?_, ?_, ?_, ?_⟩, rfl, rfl⟩
  · simp [hfds, h0]
  · exact whenever_concat.mpr ⟨hfree.close, fun ⟨fd, hfd⟩ => by simp at hfd⟩
  · intro _
    exact (hfree.paired opened (Or.inl hhandle)).concat_first
  · intro fd hfd
    have hne : fd ≠ opened := hfd.resolve_left h0
    exact (hfree.paired fd (Or.inl hhandle)).concat_other (by simpa using Ne.symm hne) (by simp)

/-- A create whose `open` fails answers 0 and holds nothing, and one that gets descriptor 0
answers -1 and holds it. -/
theorem Owned.create_wrong (h : Owned s) {opened : Int} (hle : opened < 1) (hopen : -1 ≤ opened) :
    ¬ ((createWith drvmInit PortModule.close s opened).2 = 0 ↔
      (createWith drvmInit PortModule.close s opened).1.Holds) := by
  have hfds := h.descriptors_destroy
  rw [createWith_eq]
  rcases Int.lt_or_le opened 0 with hneg | hzero
  · have hfail : opened = -1 := by omega
    simp [hfail, PortModule.Holds, hfds]
  · have h0 : opened = 0 := by omega
    simp [h0, PortModule.Holds]

end Steps

/-! ## The life cycle -/

/-- `open` returns a descriptor from 1 up. -/
def PortCall.OpensAboveZero : PortCall → Prop
  | .create opened => 1 ≤ opened
  | .destroy => True

section Runs

open PortModule

variable {s s' : PortModule} {call : PortCall}

theorem portModule_create {opened : Int}
    (h : (portModule (createWith drvmInit PortModule.close)
      (destroyWith PortModule.close)).step s (.create opened) = some s') :
    -1 ≤ opened ∧ s' = (createWith drvmInit PortModule.close s opened).1 := by
  simp only [portModule] at h
  split at h
  · next hfresh =>
    refine ⟨?_, (Option.some.inj h).symm⟩
    rcases hfresh with hfail | ⟨hzero, _⟩ <;> omega
  · simp at h

theorem owned_step (hI : Owned s)
    (hs : (portModule (createWith drvmInit PortModule.close)
      (destroyWith PortModule.close)).step s call = some s')
    (hcall : call.OpensAboveZero) : Owned s' := by
  cases call with
  | create opened =>
    rw [(portModule_create hs).2]
    exact (hI.create hcall).1
  | destroy =>
    rw [← Option.some.inj hs]
    exact hI.destroy.1

theorem lifeCycle_step (hI : Owned s)
    (hs : (portModule (createWith drvmInit PortModule.close)
      (destroyWith PortModule.close)).step s call = some s') :
    LifeCycle (createWith drvmInit PortModule.close) s call s' ↔ call.OpensAboveZero := by
  cases call with
  | create opened =>
    obtain ⟨hopen, rfl⟩ := portModule_create hs
    constructor
    · intro h
      by_contra hnot
      have hle : opened < 1 := by
        simpa only [PortCall.OpensAboveZero, Int.not_le] using hnot
      exact hI.create_wrong hle hopen (h.create opened rfl)
    · intro hpos
      obtain ⟨howned, hhandle, hret⟩ := hI.create hpos
      have hne : opened ≠ 0 := by
        simp only [PortCall.OpensAboveZero] at hpos
        omega
      refine ⟨?_, howned.close, fun h => PortCall.noConfusion h⟩
      intro opened' hcall
      obtain rfl := PortCall.create.inj hcall
      refine iff_of_true hret ?_
      rw [PortModule.Holds, howned.descriptors, hhandle, if_neg hne]
      exact List.mem_singleton_self _
  | destroy =>
    obtain rfl := Option.some.inj hs
    obtain ⟨howned, hhandle⟩ := hI.destroy
    refine iff_of_true ⟨fun _ h => PortCall.noConfusion h, howned.close, ?_⟩ trivial
    intro _ fd
    exact howned.paired fd (Or.inl hhandle)

/--
**Along a run each call of a module does what it has to exactly if `open` only ever returns
descriptors from 1 up.** The drive module and the power module are the same in this.
-/
theorem lifeCycle_iff {calls : List PortCall} :
    (drvModule.RunWith (LifeCycle dsspRs232DrvModuleCreate) calls s ↔
        drvModule.RunWith (fun _ call _ => call.OpensAboveZero) calls s) ∧
      (powerModule.RunWith (LifeCycle dsspRs232PowerModuleCreate) calls s ↔
        powerModule.RunWith (fun _ call _ => call.OpensAboveZero) calls s) :=
  ⟨runWith_congr_of_right owned_init owned_step lifeCycle_step,
    runWith_congr_of_right owned_init owned_step lifeCycle_step⟩

end Runs

/-- A create without a port that answers 0, before a destroy that calls `close(-1)`; and a create
with descriptor 0 that answers -1, before a destroy that leaves the port open. -/
theorem lifeCycle_broken :
    (∃ s, drvModule.Run [.create (-1)] s ∧
      (PortModule.dsspRs232DrvModuleCreate {} (-1)).2 = 0 ∧ ¬ s.Holds ∧
      ¬ LifeCycle PortModule.dsspRs232DrvModuleCreate {} (.create (-1)) s) ∧
    (∃ s, drvModule.Run [.create (-1), .destroy] s ∧ s.log = [.closed (-1)]) ∧
    ∃ s, drvModule.Run [.create 0, .destroy] s ∧
      (PortModule.dsspRs232DrvModuleCreate {} 0).2 = -1 ∧ openDescriptors s.log = [0] := by
  refine ⟨⟨⟨-1, []⟩, run_of_exec (by decide), by decide, by decide, fun h => ?_⟩,
    ⟨⟨0, [.closed (-1)]⟩, run_of_exec (by decide), rfl⟩,
    ⟨⟨0, [.opened 0]⟩, run_of_exec (by decide), by decide, by decide⟩⟩
  have hholds : PortModule.Holds ⟨-1, []⟩ := (h.create (-1) rfl).mp (by decide)
  exact absurd hholds (by decide)

end Tetra.Serial
