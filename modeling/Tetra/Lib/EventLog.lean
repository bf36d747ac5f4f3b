import Mathlib.Data.List.DropRight

/-!
# Event logs

A log is the list of everything a component has done so far, oldest event first.
Five questions are asked about it:

* `lastOf`: what the last event of a kind said;
* `streak`: how many events at its end, one after the other, were of a kind;
* `Whenever`: whether every event of a kind came at a moment at which a condition on
  the log before it held;
* `Armed`: whether a trigger has happened and nothing has released it since;
* `Paired` and `Pending`: whether two events have happened in turn, and which came last.

Logs only grow at the end, so each of them comes with a lemma for `log ++ [e]`.
Together they decide a property of the form "after a trigger, no forbidden event before
a release": `Whenever forbidden (fun before _ => ¬ Armed trigger release before)`.
-/

namespace EventLog

variable {ε α : Type*}

/-! ## The last event of a kind -/

/-- What `f` reads off the last event it is defined on. -/
def lastOf (f : ε → Option α) (log : List ε) : Option α := (log.filterMap f).getLast?

@[simp] theorem lastOf_nil (f : ε → Option α) : lastOf f [] = none := rfl

theorem lastOf_append (f : ε → Option α) (log new : List ε) :
    lastOf f (log ++ new) = (lastOf f new).or (lastOf f log) := by
  simp [lastOf, List.filterMap_append, List.getLast?_append]

@[simp] theorem lastOf_concat (f : ε → Option α) (log : List ε) (e : ε) :
    lastOf f (log ++ [e]) = (f e).or (lastOf f log) := by
  rw [lastOf_append]
  cases h : f e <;> simp [lastOf, h]

theorem lastOf_cons (f : ε → Option α) (e : ε) (log : List ε) :
    lastOf f (e :: log) = (lastOf f log).or (f e) := by
  rw [← List.singleton_append, lastOf_append, ← List.nil_append [e], lastOf_concat]
  simp

theorem exists_of_lastOf {f : ε → Option α} {log : List ε} {a : α} (h : lastOf f log = some a) :
    ∃ e ∈ log, f e = some a := by
  obtain ⟨e, he, hf⟩ := List.mem_filterMap.mp (List.mem_of_getLast? h)
  exact ⟨e, he, hf⟩

/-- There is a last event of a kind if there is one at all. -/
theorem lastOf_isSome_iff {f : ε → Option α} {log : List ε} :
    (∃ a, lastOf f log = some a) ↔ ∃ e ∈ log, ∃ a, f e = some a := by
  constructor
  · rintro ⟨a, ha⟩
    obtain ⟨e, he, hf⟩ := exists_of_lastOf ha
    exact ⟨e, he, a, hf⟩
  · rintro ⟨e, he, a, hf⟩
    rw [← Option.isSome_iff_exists, lastOf, List.getLast?_isSome]
    exact List.ne_nil_of_mem (List.mem_filterMap.mpr ⟨e, he, hf⟩)

/-! ## Events of a kind in a row -/

section Streak

variable {T : ε → Prop} [DecidablePred T]

/-- How many events at the end of the log are of a kind, one after the other. -/
def streak (T : ε → Prop) [DecidablePred T] (log : List ε) : Nat :=
  (log.rtakeWhile fun e => decide (T e)).length

@[simp] theorem streak_nil : streak T [] = 0 := rfl

theorem streak_concat (log : List ε) (e : ε) :
    streak T (log ++ [e]) = if T e then streak T log + 1 else 0 := by
  unfold streak
  by_cases h : T e
  · rw [List.rtakeWhile_concat_pos _ _ _ (by simpa using h), if_pos h]
    simp
  · rw [List.rtakeWhile_concat_neg _ _ _ (by simpa using h), if_neg h]
    rfl

end Streak

/-! ## Splitting a log at an event -/

/-- An event of `log ++ [e]` is the new one, or one of `log` with `e` at the end of what follows. -/
theorem concat_eq_split {log before after : List ε} {e t : ε}
    (h : log ++ [e] = before ++ t :: after) :
    (after = [] ∧ before = log ∧ t = e) ∨
      ∃ after', after = after' ++ [e] ∧ log = before ++ t :: after' := by
  rcases List.eq_nil_or_concat after with rfl | ⟨after', e', rfl⟩
  · have hsplit := List.append_inj' h rfl
    exact Or.inl ⟨rfl, hsplit.1.symm, (List.singleton_inj.mp hsplit.2).symm⟩
  · rw [List.concat_eq_append, ← List.cons_append, ← List.append_assoc] at h
    obtain ⟨hlog, he⟩ := List.append_inj' h rfl
    exact Or.inr ⟨after', by rw [List.concat_eq_append, List.singleton_inj.mp he], hlog⟩

/-! ## Conditions on the log before an event -/

/-- Every event that satisfies `T` came when the log before it satisfied `Q`. -/
def Whenever (T : ε → Prop) (Q : List ε → ε → Prop) (log : List ε) : Prop :=
  ∀ before t after, log = before ++ t :: after → T t → Q before t

@[simp] theorem whenever_nil (T : ε → Prop) (Q : List ε → ε → Prop) : Whenever T Q [] := by
  intro before t after h
  simp at h

@[simp] theorem whenever_concat {T : ε → Prop} {Q : List ε → ε → Prop} {log : List ε} {e : ε} :
    Whenever T Q (log ++ [e]) ↔ Whenever T Q log ∧ (T e → Q log e) := by
  constructor
  · intro h
    refine ⟨?_, h log e [] rfl⟩
    intro before t after hlog ht
    exact h before t (after ++ [e]) (by rw [hlog]; simp) ht
  · rintro ⟨hlog, he⟩ before t after h ht
    rcases concat_eq_split h with ⟨_, rfl, rfl⟩ | ⟨after', _, hsplit⟩
    · exact he ht
    · exact hlog before t after' hsplit ht

/-- A condition that no such event meets: there is no such event. -/
theorem whenever_iff_forall_not {T : ε → Prop} {Q : List ε → ε → Prop} {log : List ε}
    (h : ∀ before t, T t → ¬ Q before t) : Whenever T Q log ↔ ∀ t ∈ log, ¬ T t := by
  constructor
  · intro hall t hmem ht
    obtain ⟨before, after, hlog⟩ := List.append_of_mem hmem
    exact h before t ht (hall before t after hlog ht)
  · intro hnone before t after hlog ht
    exact absurd ht (hnone t (by simp [hlog]))

/-! ## Triggers and releases -/

/-- An event satisfying `T` has happened, and none satisfying `R` after it. -/
def Armed (T R : ε → Prop) (log : List ε) : Prop :=
  ∃ before t after, log = before ++ t :: after ∧ T t ∧ ∀ r ∈ after, ¬ R r

@[simp] theorem not_armed_nil (T R : ε → Prop) : ¬ Armed T R [] := by
  rintro ⟨before, t, after, h, _⟩
  simp at h

@[simp] theorem armed_concat {T R : ε → Prop} {log : List ε} {e : ε} :
    Armed T R (log ++ [e]) ↔ T e ∨ (Armed T R log ∧ ¬ R e) := by
  constructor
  · rintro ⟨before, t, after, h, ht, hafter⟩
    rcases concat_eq_split h with ⟨_, _, rfl⟩ | ⟨after', rfl, hsplit⟩
    · exact Or.inl ht
    · exact Or.inr ⟨⟨before, t, after', hsplit, ht, fun r hr => hafter r (by simp [hr])⟩,
        hafter e (by simp)⟩
  · rintro (ht | ⟨⟨before, t, after, rfl, ht, hafter⟩, he⟩)
    · exact ⟨log, e, [], rfl, ht, by simp⟩
    · refine ⟨before, t, after ++ [e], by simp, ht, fun r hr => ?_⟩
      rcases List.mem_append.mp hr with hr | hr
      · exact hafter r hr
      · rw [List.mem_singleton.mp hr]; exact he

/-! ## Two events in turn -/

section Paired

variable [DecidableEq ε] {t r e : ε} {log : List ε}

/-- `t` and `r` have happened in turn, `t` first and `r` last. -/
def Paired (t r : ε) (log : List ε) : Prop :=
  ∃ k, log.filter (fun e => decide (e = t) || decide (e = r)) = (List.replicate k [t, r]).flatten

/-- `t` and `r` have happened in turn, and `t` last. -/
def Pending (t r : ε) (log : List ε) : Prop :=
  ∃ k, log.filter (fun e => decide (e = t) || decide (e = r)) = (List.replicate k [t, r]).flatten ++ [t]

theorem paired_nil : Paired t r [] := ⟨0, rfl⟩

theorem Paired.concat_first (h : Paired t r log) : Pending t r (log ++ [t]) := by
  obtain ⟨k, hk⟩ := h
  exact ⟨k, by simp [List.filter_append, hk]⟩

theorem Pending.concat_second (h : Pending t r log) : Paired t r (log ++ [r]) := by
  obtain ⟨k, hk⟩ := h
  refine ⟨k + 1, ?_⟩
  rw [List.filter_append, hk, List.replicate_succ', List.flatten_append]
  simp

theorem Paired.concat_other (h : Paired t r log) (ht : e ≠ t) (hr : e ≠ r) :
    Paired t r (log ++ [e]) := by
  obtain ⟨k, hk⟩ := h
  exact ⟨k, by simp [List.filter_append, hk, ht, hr]⟩

end Paired

end EventLog
