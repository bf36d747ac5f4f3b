import Mathlib.Data.List.Induction

/-!
# Machines and their runs

A machine has one initial state and a partial step on events: `none` is an event that
cannot happen in the state, or a step the program does not survive.

`RunWith P` are the runs each of whose steps satisfies `P`. `Run` asks for nothing, and a
run under a condition `K` on the state before a step and its event is
`RunWith (fun s e _ => K s e)`. Invariants are proved once per step
(`RunWith.invariant`), and a step-wise equivalence is lifted to runs by `runWith_congr`.
-/

/-- A state machine with a partial step. -/
structure Machine (σ ε : Type*) where
  init : σ
  step : σ → ε → Option σ

namespace Machine

variable {σ ε : Type*} {M : Machine σ ε} {P Q : σ → ε → σ → Prop}

variable (M) in
/-- The runs of `M` all of whose steps satisfy `P`, with their events and last state. -/
inductive RunWith (P : σ → ε → σ → Prop) : List ε → σ → Prop
  | init : RunWith P [] M.init
  | snoc {es : List ε} {s s' : σ} {e : ε} :
      RunWith P es s → M.step s e = some s' → P s e s' → RunWith P (es ++ [e]) s'

variable (M) in
/-- The runs of `M`. -/
abbrev Run : List ε → σ → Prop := M.RunWith fun _ _ _ => True

/-! ## Invariants -/

/-- An invariant of the steps of a run holds at its end. -/
theorem RunWith.invariant {I : σ → Prop} {es : List ε} {s : σ} (hr : M.RunWith P es s)
    (hinit : I M.init)
    (hstep : ∀ {s e s'}, I s → M.step s e = some s' → P s e s' → I s') : I s := by
  induction hr with
  | init => exact hinit
  | snoc _ hs hP ih => exact hstep ih hs hP

/-- Weakening what is asked of the steps, with an invariant at hand. -/
theorem RunWith.mono {I : σ → Prop} {es : List ε} {s : σ} (hr : M.RunWith P es s)
    (hinit : I M.init)
    (hstep : ∀ {s e s'}, I s → M.step s e = some s' → P s e s' → I s' ∧ Q s e s') :
    M.RunWith Q es s := by
  suffices h : I s ∧ M.RunWith Q es s from h.2
  induction hr with
  | init => exact ⟨hinit, .init⟩
  | snoc _ hs hP ih =>
    obtain ⟨hI, hQ⟩ := hstep ih.1 hs hP
    exact ⟨hI, .snoc ih.2 hs hQ⟩

theorem RunWith.run {es : List ε} {s : σ} (hr : M.RunWith P es s) : M.Run es s :=
  hr.mono (I := fun _ => True) trivial fun _ _ _ => ⟨trivial, trivial⟩

/-- Where two step conditions agree on the states a run gets into, the runs are the same. -/
theorem runWith_congr {I : σ → Prop} {es : List ε} {s : σ} (hinit : I M.init)
    (hstep : ∀ {s e s'}, I s → M.step s e = some s' → I s')
    (hPQ : ∀ {s e s'}, I s → M.step s e = some s' → (P s e s' ↔ Q s e s')) :
    M.RunWith P es s ↔ M.RunWith Q es s :=
  ⟨fun hr => hr.mono hinit fun hI hs hP => ⟨hstep hI hs, (hPQ hI hs).mp hP⟩,
    fun hr => hr.mono hinit fun hI hs hQ => ⟨hstep hI hs, (hPQ hI hs).mpr hQ⟩⟩

/-- As `runWith_congr`, where `I` is kept by the steps that satisfy `Q` only. -/
theorem runWith_congr_of_right {I : σ → Prop} {es : List ε} {s : σ} (hinit : I M.init)
    (hstep : ∀ {s e s'}, I s → M.step s e = some s' → Q s e s' → I s')
    (hPQ : ∀ {s e s'}, I s → M.step s e = some s' → (P s e s' ↔ Q s e s')) :
    M.RunWith P es s ↔ M.RunWith Q es s := by
  constructor
  · intro hr
    refine hr.mono hinit fun hI hs hP => ?_
    have hQ := (hPQ hI hs).mp hP
    exact ⟨hstep hI hs hQ, hQ⟩
  · exact fun hr => hr.mono hinit fun hI hs hQ => ⟨hstep hI hs hQ, (hPQ hI hs).mpr hQ⟩

/--
**A property that is kept exactly by the steps that satisfy `K` holds in every state of a run
exactly if each of its steps satisfies `K`.**
-/
theorem runWith_invariant_iff {I J : σ → Prop} {K : σ → ε → Prop} {es : List ε} {s : σ}
    (hI : I M.init) (hstepI : ∀ {s e s'}, I s → M.step s e = some s' → I s')
    (hJ : J M.init) (hstepJ : ∀ {s e s'}, I s → J s → M.step s e = some s' → (J s' ↔ K s e)) :
    M.RunWith (fun _ _ s' => J s') es s ↔ M.RunWith (fun s e _ => K s e) es s := by
  constructor
  · intro hr
    refine hr.mono (I := fun s => I s ∧ J s) ⟨hI, hJ⟩ fun hIJ hs hJ' => ?_
    exact ⟨⟨hstepI hIJ.1 hs, hJ'⟩, (hstepJ hIJ.1 hIJ.2 hs).mp hJ'⟩
  · intro hr
    refine hr.mono (I := fun s => I s ∧ J s) ⟨hI, hJ⟩ fun hIJ hs hK => ?_
    have hJ' := (hstepJ hIJ.1 hIJ.2 hs).mpr hK
    exact ⟨⟨hstepI hIJ.1 hs, hJ'⟩, hJ'⟩

/-! ## The last step of a run -/

@[simp] theorem runWith_nil {s : σ} : M.RunWith P [] s ↔ s = M.init := by
  constructor
  · intro hr
    generalize hes : ([] : List ε) = es at hr
    cases hr with
    | init => rfl
    | snoc => simp at hes
  · rintro rfl
    exact .init

theorem runWith_concat {es : List ε} {e : ε} {s' : σ} :
    M.RunWith P (es ++ [e]) s' ↔ ∃ s, M.RunWith P es s ∧ M.step s e = some s' ∧ P s e s' := by
  constructor
  · intro hr
    generalize hes : es ++ [e] = es' at hr
    cases hr with
    | init => simp at hes
    | snoc hr hs hP =>
      obtain ⟨rfl, he⟩ := List.append_inj' hes rfl
      rw [List.singleton_inj.mp he]
      exact ⟨_, hr, hs, hP⟩
  · rintro ⟨s, hr, hs, hP⟩
    exact .snoc hr hs hP

/-- The events of a run determine where it ends. -/
theorem RunWith.deterministic {es : List ε} {s s' : σ} (hr : M.RunWith P es s)
    (hr' : M.RunWith Q es s') : s = s' := by
  induction hr generalizing s' with
  | init => exact (runWith_nil.mp hr').symm
  | snoc _ hs _ ih =>
    obtain ⟨s₀, hr₀, hs₀, _⟩ := runWith_concat.mp hr'
    rw [← ih hr₀, hs] at hs₀
    exact Option.some.inj hs₀

/-- The last step of a run, when the state before it is known. -/
theorem runWith_concat_of_run {es : List ε} {e : ε} {s s' : σ} (hr : M.Run es s)
    (hs : M.step s e = some s') :
    M.RunWith P (es ++ [e]) s' ↔ M.RunWith P es s ∧ P s e s' := by
  rw [runWith_concat]
  constructor
  · rintro ⟨s₀, hr₀, _, hP⟩
    rw [hr.deterministic hr₀]
    exact ⟨hr₀, hP⟩
  · rintro ⟨hr, hP⟩
    exact ⟨s, hr, hs, hP⟩

/-- What a step of a run establishes holds at its end if the steps after it keep it. -/
theorem RunWith.since {J : σ → Prop} {before after : List ε} {e : ε} {s : σ}
    (hr : M.RunWith P (before ++ e :: after) s)
    (hset : ∀ {s s'}, M.step s e = some s' → J s')
    (hkeep : ∀ {s e' s'}, e' ∈ after → J s → M.step s e' = some s' → J s') : J s := by
  -- from the step `e` on, one step at a time
  induction after using List.reverseRecOn generalizing s with
  | nil =>
    obtain ⟨s₀, _, hs, _⟩ := runWith_concat.mp hr
    exact hset hs
  | append_singleton after e' ih =>
    rw [← List.cons_append, ← List.append_assoc] at hr
    obtain ⟨s₀, hr₀, hs, _⟩ := runWith_concat.mp hr
    have hJ := ih hr₀ fun hmem => hkeep (List.mem_append_left _ hmem)
    exact hkeep (List.mem_append_right _ List.mem_cons_self) hJ hs

/-! ## Recording a run -/

section Recording

variable {γ : Type*} {g₀ : γ} {record : σ → ε → γ → γ}

variable (M) in
/-- `M` with a record of what has happened, which its steps do not read. -/
def recording (g₀ : γ) (record : σ → ε → γ → γ) : Machine (σ × γ) ε where
  init := (M.init, g₀)
  step s e := (M.step s.1 e).map fun s' => (s', record s.1 e s.2)

theorem recording_step {s s' : σ × γ} {e : ε} : (M.recording g₀ record).step s e = some s' ↔
    M.step s.1 e = some s'.1 ∧ s'.2 = record s.1 e s.2 := by
  simp only [recording, Option.map_eq_some_iff]
  constructor
  · rintro ⟨t, ht, rfl⟩
    exact ⟨ht, rfl⟩
  · rintro ⟨ht, hrecord⟩
    exact ⟨s'.1, ht, by rw [← hrecord]⟩

/-- The record adds no run and takes none away. -/
theorem exists_run_recording_iff {es : List ε} {s : σ} :
    (∃ g, (M.recording g₀ record).Run es (s, g)) ↔ M.Run es s := by
  constructor
  · rintro ⟨g, hr⟩
    generalize ht : (s, g) = t at hr
    induction hr generalizing s g with
    | init =>
      rw [(Prod.mk.inj ht).1]
      exact .init
    | snoc _ hs _ ih =>
      subst ht
      exact .snoc (ih _ rfl) (recording_step.mp hs).1 trivial
  · intro hr
    induction hr with
    | init => exact ⟨g₀, .init⟩
    | snoc _ hs _ ih =>
      obtain ⟨g, hg⟩ := ih
      exact ⟨_, .snoc hg (recording_step.mpr ⟨hs, rfl⟩) trivial⟩

end Recording

/-! ## Computing a run -/

variable (M) in
/-- The state after a list of events. -/
def exec (es : List ε) : Option σ := es.foldlM M.step M.init

theorem exec_concat (es : List ε) (e : ε) :
    M.exec (es ++ [e]) = (M.exec es).bind fun s => M.step s e := by
  simp [exec, List.foldlM_append]

/-- What `exec` computes is a run. -/
theorem run_of_exec {es : List ε} : ∀ {s : σ}, M.exec es = some s → M.Run es s := by
  induction es using List.reverseRecOn with
  | nil =>
    intro s h
    simp only [exec, List.foldlM_nil, Option.pure_def, Option.some.injEq] at h
    exact h ▸ .init
  | append_singleton es e ih =>
    intro s h
    rw [exec_concat, Option.bind_eq_some_iff] at h
    obtain ⟨s₀, h₀, hs⟩ := h
    exact .snoc (ih h₀) hs trivial

variable (M) in
/-- The state after a list of events, if each of them meets a condition where it comes. -/
def execWith (K : σ → ε → Prop) [∀ s e, Decidable (K s e)] (es : List ε) : Option σ :=
  es.foldlM (fun s e => if K s e then M.step s e else none) M.init

theorem runWith_of_execWith {K : σ → ε → Prop} [∀ s e, Decidable (K s e)] {es : List ε} :
    ∀ {s : σ}, M.execWith K es = some s → M.RunWith (fun s e _ => K s e) es s := by
  induction es using List.reverseRecOn with
  | nil =>
    intro s h
    exact Option.some.inj h ▸ .init
  | append_singleton es e ih =>
    intro s h
    rw [execWith, List.foldlM_append] at h
    obtain ⟨s₀, h₀, hs⟩ := Option.bind_eq_some_iff.mp h
    rw [List.foldlM_cons] at hs
    obtain ⟨s₁, h₁, hlast⟩ := Option.bind_eq_some_iff.mp hs
    split at h₁
    · next hK => exact .snoc (ih h₀) (Option.some.inj hlast ▸ h₁) hK
    · simp at h₁

/-- A state that `exec` computes is reached. -/
theorem run_of_exec_mem {C : σ → Prop} {es : List ε} (h : ∃ s ∈ M.exec es, C s) :
    ∃ s, M.Run es s ∧ C s := by
  obtain ⟨s, hs, hC⟩ := h
  exact ⟨s, run_of_exec hs, hC⟩

end Machine
