import Mathlib.Data.List.Basic

/-!
# Reading input item by item

A scanner is a step on a state and one item of the input. Its `Verdict` says that what has been read
is complete, that it is not acceptable, or that more is needed.

* `scan` reads until there is a verdict, and leaves the rest.
* `drain` reads one unit after the other out of what has arrived, and hands each verdict to `finish`.
* `transduce` is a machine with outputs, run over a list.

What `scan` accepts is described by `Accepts` without the rest of the input, and taken apart one
segment at a time (`accepts_cons_more`, `accepts_span_iff`). `transduce_drain` says that `drain` does
not see where one piece of the input ends and the next begins.
-/

/-- The answer to one item of input: `true`, `false` or `indeterminate`. -/
inductive Verdict
  | accept
  | reject
  | more
  deriving DecidableEq, Repr

namespace Scanner

variable {σ α β γ μ τ : Type*}

/-! ## One unit -/

/-- Reads until there is a verdict: the verdict, the state, and what has not been read. -/
def scan (step : σ → α → Verdict × σ) : σ → List α → Verdict × σ × List α
  | s, [] => (.more, s, [])
  | s, a :: as =>
    match step s a with
    | (.more, s') => scan step s' as
    | (.accept, s') => (.accept, s', as)
    | (.reject, s') => (.reject, s', as)

section Unit

variable {step : σ → α → Verdict × σ} {s s' t : σ} {a : α} {as bs rest : List α} {v : Verdict}

@[simp] theorem scan_nil : scan step s [] = (.more, s, []) := rfl

theorem scan_cons_more (h : step s a = (.more, s')) : scan step s (a :: as) = scan step s' as := by
  rw [scan, h]

theorem scan_cons_accept (h : step s a = (.accept, s')) :
    scan step s (a :: as) = (.accept, s', as) := by
  rw [scan, h]

theorem scan_cons_reject (h : step s a = (.reject, s')) :
    scan step s (a :: as) = (.reject, s', as) := by
  rw [scan, h]

/-- What is left over is shorter than a non-empty input. -/
theorem length_scan_cons_lt (step : σ → α → Verdict × σ) :
    ∀ (s : σ) (a : α) (as : List α), (scan step s (a :: as)).2.2.length < (a :: as).length
  | s, a, as => by
    rcases h : step s a with ⟨v, s'⟩
    cases v with
    | accept => simp [scan_cons_accept h]
    | reject => simp [scan_cons_reject h]
    | more =>
      rw [scan_cons_more h]
      cases as with
      | nil => simp
      | cons b bs => exact Nat.lt_succ_of_lt (length_scan_cons_lt step s' b bs)

/-- All of `as` is read without a verdict. -/
def Reads (step : σ → α → Verdict × σ) (s : σ) (as : List α) (s' : σ) : Prop :=
  scan step s as = (.more, s', [])

/-- `as` is accepted with its last item. -/
def Accepts (step : σ → α → Verdict × σ) (s : σ) (as : List α) (t : σ) : Prop :=
  scan step s as = (.accept, t, [])

@[simp] theorem reads_nil : Reads step s [] s' ↔ s = s' := by simp [Reads]

@[simp] theorem not_accepts_nil : ¬ Accepts step s [] t := by simp [Accepts]

theorem reads_cons (h : step s a = (.more, s')) : Reads step s (a :: as) t ↔ Reads step s' as t := by
  rw [Reads, scan_cons_more h, Reads]

theorem accepts_cons_more (h : step s a = (.more, s')) :
    Accepts step s (a :: as) t ↔ Accepts step s' as t := by
  rw [Accepts, scan_cons_more h, Accepts]

theorem accepts_cons_accept (h : step s a = (.accept, s')) :
    Accepts step s (a :: as) t ↔ s' = t ∧ as = [] := by
  simp [Accepts, scan_cons_accept h]

theorem not_accepts_cons_reject (h : step s a = (.reject, s')) : ¬ Accepts step s (a :: as) t := by
  simp [Accepts, scan_cons_reject h]

/-- Where only `sep` leads on, the input is `sep` and what is accepted behind it. -/
theorem accepts_item_iff {sep : α} (hsep : step s sep = (.more, s'))
    (hother : ∀ b, b ≠ sep → (step s b).1 = .reject) :
    Accepts step s as t ↔ ∃ bs, as = sep :: bs ∧ Accepts step s' bs t := by
  cases as with
  | nil => simp
  | cons b bs =>
    by_cases hb : b = sep
    · subst hb
      simp [accepts_cons_more hsep]
    · have hr : step s b = (.reject, (step s b).2) := Prod.ext (hother b hb) rfl
      simp [not_accepts_cons_reject hr, hb]

/-- Only a verdict leaves something over. -/
theorem scan_more_rest (h : rest ≠ []) : scan step s as ≠ (.more, t, rest) := by
  intro hs
  induction as generalizing s with
  | nil => exact h (by simpa using (congrArg (·.2.2) hs).symm)
  | cons a as ih =>
    rcases ha : step s a with ⟨v, s₁⟩
    cases v with
    | accept => simp [scan_cons_accept ha] at hs
    | reject => simp [scan_cons_reject ha] at hs
    | more => exact ih (by rwa [scan_cons_more ha] at hs)

/-- Input that needs more is followed by reading on. -/
theorem Reads.scan_append (h : Reads step s as s') : scan step s (as ++ bs) = scan step s' bs := by
  induction as generalizing s with
  | nil => rw [reads_nil.mp h, List.nil_append]
  | cons a as ih =>
    rcases ha : step s a with ⟨v, s₁⟩
    cases v with
    | accept => simp [Reads, scan_cons_accept ha] at h
    | reject => simp [Reads, scan_cons_reject ha] at h
    | more => rw [List.cons_append, scan_cons_more ha, ih ((reads_cons ha).mp h)]

/-- A verdict stands whatever comes behind. -/
theorem scan_append_of_ne (h : scan step s as = (v, t, rest)) (hv : v ≠ .more) :
    scan step s (as ++ bs) = (v, t, rest ++ bs) := by
  induction as generalizing s with
  | nil =>
    simp only [scan_nil, Prod.mk.injEq] at h
    exact absurd h.1.symm hv
  | cons a as ih =>
    rcases ha : step s a with ⟨w, s₁⟩
    cases w with
    | accept =>
      simp only [scan_cons_accept ha, Prod.mk.injEq] at h
      obtain ⟨rfl, rfl, rfl⟩ := h
      rw [List.cons_append, scan_cons_accept ha]
    | reject =>
      simp only [scan_cons_reject ha, Prod.mk.injEq] at h
      obtain ⟨rfl, rfl, rfl⟩ := h
      rw [List.cons_append, scan_cons_reject ha]
    | more =>
      rw [scan_cons_more ha] at h
      rw [List.cons_append, scan_cons_more ha, ih h]

theorem Accepts.scan_append (h : Accepts step s as t) :
    scan step s (as ++ bs) = (.accept, t, bs) := by
  rw [scan_append_of_ne h (by decide), List.nil_append]

theorem Accepts.ne_nil (h : Accepts step s as t) : as ≠ [] := by
  rintro rfl
  exact not_accepts_nil h

theorem Reads.accepts (h : Reads step s as s') (h' : Accepts step s' bs t) :
    Accepts step s (as ++ bs) t := by
  rw [Accepts, h.scan_append, h']

/-- **What is accepted at the front of an input is accepted on its own.** -/
theorem scan_eq_accept_iff :
    scan step s as = (.accept, t, rest) ↔ ∃ front, as = front ++ rest ∧ Accepts step s front t := by
  constructor
  · intro h
    induction as generalizing s with
    | nil => simp at h
    | cons a as ih =>
      rcases ha : step s a with ⟨w, s₁⟩
      cases w with
      | accept =>
        simp only [scan_cons_accept ha, Prod.mk.injEq, true_and] at h
        obtain ⟨rfl, rfl⟩ := h
        exact ⟨[a], rfl, scan_cons_accept ha⟩
      | reject => simp [scan_cons_reject ha] at h
      | more =>
        rw [scan_cons_more ha] at h
        obtain ⟨front, rfl, hf⟩ := ih h
        exact ⟨a :: front, rfl, (accepts_cons_more ha).mpr hf⟩
  · rintro ⟨front, rfl, hf⟩
    exact hf.scan_append

/-! ## Segments

A scanner that stays in one kind of state while the items satisfy `P`, adds each of them to an
accumulator, and is led on by `sep`. -/

variable {sep : α}

theorem reads_span (P : α → Prop) (loop : γ → σ) (add : γ → α → γ) (hP : ∀ c a, P a → step (loop c) a = (.more, loop (add c a))) :
    ∀ (l : List α) (c : γ), (∀ a ∈ l, P a) → Reads step (loop c) l (loop (l.foldl add c))
  | [], _, _ => reads_nil.mpr rfl
  | a :: l, c, h => by
    rw [reads_cons (hP c a (h a List.mem_cons_self)), List.foldl_cons]
    exact reads_span P loop add hP l (add c a) fun b hb => h b (List.mem_cons_of_mem a hb)

/-- **What is accepted from such a state is a segment, the separator, and what is accepted behind
it.** -/
theorem accepts_span_iff (P : α → Prop) (loop next : γ → σ) (add : γ → α → γ)
    (hP : ∀ c a, P a → step (loop c) a = (.more, loop (add c a)))
    (hsep : ∀ c, step (loop c) sep = (.more, next c))
    (hother : ∀ c a, ¬ P a → a ≠ sep → (step (loop c) a).1 = .reject) {c : γ} :
    Accepts step (loop c) as t ↔
      ∃ l bs, (∀ a ∈ l, P a) ∧ as = l ++ sep :: bs ∧ Accepts step (next (l.foldl add c)) bs t := by
  constructor
  · intro h
    induction as generalizing c with
    | nil => exact absurd h not_accepts_nil
    | cons a as ih =>
      by_cases ha : P a
      · obtain ⟨l, bs, hl, rfl, hb⟩ := ih ((accepts_cons_more (hP c a ha)).mp h)
        exact ⟨a :: l, bs, List.forall_mem_cons.mpr ⟨ha, hl⟩, rfl, hb⟩
      · by_cases he : a = sep
        · subst he
          exact ⟨[], as, by simp, rfl, (accepts_cons_more (hsep c)).mp h⟩
        · exact absurd h (not_accepts_cons_reject (Prod.ext (hother c a ha he) rfl))
  · rintro ⟨l, bs, hl, rfl, hb⟩
    exact (reads_span P loop add hP l c hl).accepts ((accepts_cons_more (hsep _)).mpr hb)

/-- A segment whose items are collected. -/
theorem accepts_collect_iff (P : α → Prop) (loop next : List α → σ)
    (hP : ∀ c a, P a → step (loop c) a = (.more, loop (c ++ [a])))
    (hsep : ∀ c, step (loop c) sep = (.more, next c))
    (hother : ∀ c a, ¬ P a → a ≠ sep → (step (loop c) a).1 = .reject) {c : List α} :
    Accepts step (loop c) as t ↔
      ∃ l bs, (∀ a ∈ l, P a) ∧ as = l ++ sep :: bs ∧ Accepts step (next (c ++ l)) bs t := by
  have hcollect : ∀ (l c : List α), l.foldl (fun c a => c ++ [a]) c = c ++ l := by
    intro l
    induction l with
    | nil => simp
    | cons a l ih => simp [ih]
  simpa only [hcollect] using accepts_span_iff P loop next (fun c a => c ++ [a]) hP hsep hother

/-- Where the items that satisfy `P` are passed over, the input is some of them, and behind them
begins what is accepted. -/
theorem accepts_skip_iff (P : α → Prop) (hskip : ∀ a, P a → step s a = (.more, s)) :
    Accepts step s as t ↔ ∃ skipped bs, (∀ a ∈ skipped, P a) ∧ (∀ a ∈ bs.head?, ¬ P a) ∧
      as = skipped ++ bs ∧ Accepts step s bs t := by
  constructor
  · intro h
    induction as with
    | nil => exact absurd h not_accepts_nil
    | cons a as ih =>
      by_cases ha : P a
      · obtain ⟨skipped, bs, hskipped, hbs, rfl, hb⟩ := ih ((accepts_cons_more (hskip a ha)).mp h)
        exact ⟨a :: skipped, bs, List.forall_mem_cons.mpr ⟨ha, hskipped⟩, hbs, rfl, hb⟩
      · exact ⟨[], a :: as, by simp, by simpa using ha, rfl, h⟩
  · rintro ⟨skipped, bs, hskipped, -, rfl, hb⟩
    induction skipped with
    | nil => exact hb
    | cons a skipped ih =>
      obtain ⟨ha, hrest⟩ := List.forall_mem_cons.mp hskipped
      rw [List.cons_append, accepts_cons_more (hskip a ha)]
      exact ih hrest

end Unit

/-! ## Codes

Words that a scanner accepts, such that every input begins with one of them or is the beginning of
one. They are then all it accepts, and it rejects nothing.
-/

/-- The words `code w` are what is accepted in `s`, and every input can be read as one of them. -/
structure IsCode (step : σ → α → Verdict × σ) (s : σ) (code : γ → List α) (final : γ → σ) : Prop where
  accepts : ∀ w, Accepts step s (code w) (final w)
  complete : ∀ as, ∃ w, code w <+: as ∨ as <+: code w

section Code

variable {step : σ → α → Verdict × σ} {s t : σ} {code : γ → List α} {final : γ → σ}
  {as rest rest' tail : List α} {w w' : γ}

theorem IsCode.ne_nil (h : IsCode step s code final) (w : γ) : code w ≠ [] := (h.accepts w).ne_nil

/-- Nothing is rejected: an input that no word begins needs more. -/
theorem IsCode.scan_eq_more_iff (h : IsCode step s code final) :
    (scan step s as).1 = .more ↔ ∀ w, ¬ code w <+: as := by
  constructor
  · rintro hs w ⟨r, rfl⟩
    rw [(h.accepts w).scan_append] at hs
    cases hs
  · intro hnone
    obtain ⟨w, hw | ⟨r, hr⟩⟩ := h.complete as
    · exact absurd hw (hnone w)
    · rcases hs : scan step s as with ⟨v, t, rest⟩
      by_contra hv
      have hboth := h.accepts w
      rw [← hr, Accepts, scan_append_of_ne hs hv, Prod.mk.injEq, Prod.mk.injEq,
        List.append_eq_nil_iff] at hboth
      obtain ⟨rfl, rfl, rfl, rfl⟩ := hboth
      exact hnone w ⟨[], by simpa using hr.symm⟩

/-- No word is the beginning of another. -/
theorem IsCode.eq_of_append (h : IsCode step s code final)
    (heq : code w ++ rest = code w' ++ rest') : code w = code w' ∧ rest = rest' := by
  have hr : rest = rest' := by
    have hs : scan step s (code w ++ rest) = (.accept, final w, rest) := (h.accepts w).scan_append
    rw [heq, (h.accepts w').scan_append, Prod.mk.injEq, Prod.mk.injEq] at hs
    exact hs.2.2.symm
  subst hr
  exact ⟨List.append_cancel_right heq, rfl⟩

/-- Every input is words, and then the beginning of one. -/
theorem IsCode.exists_words (h : IsCode step s code final) (as : List α) :
    ∃ (ws : List γ) (tail : List α), as = ws.flatMap code ++ tail ∧ ∀ w, ¬ code w <+: tail := by
  induction hn : as.length using Nat.strongRecOn generalizing as with
  | ind n ih =>
    by_cases hw : ∃ w, code w <+: as
    · obtain ⟨w, rest, rfl⟩ := hw
      have hpos := List.length_pos_of_ne_nil (h.ne_nil w)
      obtain ⟨ws, tail, rfl, htail⟩ := ih rest.length (by simp at hn; omega) rest rfl
      exact ⟨w :: ws, tail, by simp, htail⟩
    · exact ⟨[], as, rfl, not_exists.mp hw⟩

/-- There is one way to read an input as words. -/
theorem IsCode.words_unique (h : IsCode step s code final) {ws ws' : List γ} {tail' : List α}
    (heq : ws.flatMap code ++ tail = ws'.flatMap code ++ tail') (htail : ∀ w, ¬ code w <+: tail)
    (htail' : ∀ w, ¬ code w <+: tail') : ws.map code = ws'.map code ∧ tail = tail' := by
  induction ws generalizing ws' with
  | nil =>
    cases ws' with
    | nil => exact ⟨rfl, by simpa using heq⟩
    | cons w' ws' =>
      rw [List.flatMap_nil, List.nil_append, List.flatMap_cons, List.append_assoc] at heq
      exact absurd ⟨_, heq.symm⟩ (htail w')
  | cons w ws ih =>
    cases ws' with
    | nil =>
      rw [List.flatMap_nil, List.nil_append, List.flatMap_cons, List.append_assoc] at heq
      exact absurd ⟨_, heq⟩ (htail' w)
    | cons w' ws' =>
      simp only [List.flatMap_cons, List.append_assoc] at heq
      obtain ⟨hw, hrest⟩ := h.eq_of_append heq
      obtain ⟨hws, ht⟩ := ih hrest
      exact ⟨by rw [List.map_cons, List.map_cons, hw, hws], ht⟩

end Code

/-! ## A scanner inside a larger state -/

/-- The step on the part of a state that the scanner has. -/
def within (get : τ → σ) (set : τ → σ → τ) (step : σ → α → Verdict × σ) (t : τ) (a : α) : Verdict × τ :=
  ((step (get t) a).1, set t (step (get t) a).2)

theorem scan_within {get : τ → σ} {set : τ → σ → τ} (step : σ → α → Verdict × σ)
    (get_set : ∀ t s, get (set t s) = s) (set_set : ∀ t s s', set (set t s) s' = set t s')
    (set_get : ∀ t, set t (get t) = t) (t : τ) (as : List α) :
    scan (within get set step) t as =
      ((scan step (get t) as).1, set t (scan step (get t) as).2.1, (scan step (get t) as).2.2) := by
  induction as generalizing t with
  | nil => simp [set_get]
  | cons a as ih =>
    rcases ha : step (get t) a with ⟨v, s'⟩
    have hstep : within get set step t a = (v, set t s') := by rw [within, ha]
    cases v with
    | accept => rw [scan_cons_accept hstep, scan_cons_accept ha]
    | reject => rw [scan_cons_reject hstep, scan_cons_reject ha]
    | more => rw [scan_cons_more hstep, scan_cons_more ha, ih, get_set, set_set]

/-! ## Machines with outputs -/

/-- A machine that answers each input with outputs, run over a list of inputs. -/
def transduce (f : σ → μ → σ × List β) : σ → List μ → σ × List β
  | s, [] => (s, [])
  | s, m :: ms => ((transduce f (f s m).1 ms).1, (f s m).2 ++ (transduce f (f s m).1 ms).2)

variable {f : σ → μ → σ × List β}

@[simp] theorem transduce_nil (s : σ) : transduce f s [] = (s, []) := rfl

theorem transduce_append (s : σ) (ms ns : List μ) :
    transduce f s (ms ++ ns) =
      ((transduce f (transduce f s ms).1 ns).1,
        (transduce f s ms).2 ++ (transduce f (transduce f s ms).1 ns).2) := by
  induction ms generalizing s with
  | nil => simp
  | cons m ms ih => simp [transduce, ih]

theorem transduce_concat (s : σ) (ms : List μ) (m : μ) :
    transduce f s (ms ++ [m]) =
      ((f (transduce f s ms).1 m).1, (transduce f s ms).2 ++ (f (transduce f s ms).1 m).2) := by
  simp [transduce_append, transduce]

/-- A machine on pieces of input that does not see where one piece ends and the next begins. -/
structure Seamless (f : σ → List α → σ × List β) : Prop where
  nil : ∀ s, f s [] = (s, [])
  append : ∀ s as bs, f s (as ++ bs) = ((f (f s as).1 bs).1, (f s as).2 ++ (f (f s as).1 bs).2)

/-- **What such a machine does depends on the whole of the pieces only.** -/
theorem Seamless.transduce_eq {f : σ → List α → σ × List β} (h : Seamless f) (s : σ)
    (pieces : List (List α)) : transduce f s pieces = f s pieces.flatten := by
  induction pieces generalizing s with
  | nil => rw [transduce_nil, List.flatten_nil, h.nil]
  | cons as pieces ih => rw [transduce, ih, List.flatten_cons, h.append]

/-! ## One unit after the other -/

variable (step : σ → α → Verdict × σ) (finish : Verdict → σ → σ × List β)

/-- The loop over what has arrived: each verdict is handed to `finish`, which says how to go on. -/
def drain (s : σ) (as : List α) : σ × List β :=
  match as with
  | [] => (s, [])
  | a :: as =>
    let r := scan step s (a :: as)
    let f := if r.1 = .more then (r.2.1, []) else finish r.1 r.2.1
    let t := drain f.1 r.2.2
    (t.1, f.2 ++ t.2)
termination_by as.length
decreasing_by exact length_scan_cons_lt step s a as

/-- What one item does to the loop. -/
def react (s : σ) (a : α) : σ × List β :=
  if (step s a).1 = .more then ((step s a).2, []) else finish (step s a).1 (step s a).2

variable {step finish}

@[simp] theorem drain_nil (s : σ) : drain step finish s [] = (s, []) := by rw [drain]

/-- **The loop is one step for each item.** -/
theorem drain_eq_transduce (s : σ) (as : List α) :
    drain step finish s as = transduce (react step finish) s as := by
  induction as generalizing s with
  | nil => rw [drain_nil, transduce_nil]
  | cons a as ih =>
    rcases ha : step s a with ⟨v, s'⟩
    have hv (h : v ≠ .more) (hr : scan step s (a :: as) = (v, s', as)) :
        drain step finish s (a :: as) = transduce (react step finish) s (a :: as) := by
      simp [drain, transduce, react, ha, hr, h, ih]
    cases v with
    | accept => exact hv (by decide) (scan_cons_accept ha)
    | reject => exact hv (by decide) (scan_cons_reject ha)
    | more =>
      have hr : react step finish s a = (s', []) := by simp [react, ha]
      rw [transduce, hr, ← ih s', List.nil_append]
      -- the rest is scanned on from `s'`, with or without the loop starting again in between
      rw [drain, scan_cons_more ha]
      cases as with
      | nil => simp
      | cons b bs => rw [drain.eq_def step finish s' (b :: bs)]

theorem drain_append (s : σ) (as bs : List α) :
    drain step finish s (as ++ bs) =
      ((drain step finish (drain step finish s as).1 bs).1,
        (drain step finish s as).2 ++ (drain step finish (drain step finish s as).1 bs).2) := by
  simp only [drain_eq_transduce, transduce_append]

theorem seamless_drain : Seamless (drain step finish) := ⟨drain_nil, drain_append⟩

/-- **The loop does not depend on the pieces in which its input arrives.** -/
theorem transduce_drain (s : σ) (pieces : List (List α)) :
    transduce (drain step finish) s pieces = drain step finish s pieces.flatten :=
  seamless_drain.transduce_eq s pieces

theorem Accepts.drain_append {s t : σ} {as bs : List α} (h : Accepts step s as t) :
    drain step finish s (as ++ bs) =
      ((drain step finish (finish .accept t).1 bs).1,
        (finish .accept t).2 ++ (drain step finish (finish .accept t).1 bs).2) := by
  cases as with
  | nil => exact absurd h not_accepts_nil
  | cons a as =>
    have hs : scan step s (a :: (as ++ bs)) = (.accept, t, bs) := h.scan_append
    simp [drain, hs]

/--
**Units of the input as inputs of a machine.** Where each unit is accepted and `finish` follows the
machine `f`, the loop over the units is a run of `f`.
-/
theorem drain_flatMap {f : τ → μ → τ × List β} {R : τ → σ → Prop} {encode : μ → List α} {ms : List μ}
    (h : ∀ q s, ∀ m ∈ ms, R q s → ∃ t, Accepts step s (encode m) t ∧
      R (f q m).1 (finish .accept t).1 ∧ (finish .accept t).2 = (f q m).2)
    {q : τ} {s : σ} (hq : R q s) :
    R (transduce f q ms).1 (drain step finish s (ms.flatMap encode)).1 ∧
      (drain step finish s (ms.flatMap encode)).2 = (transduce f q ms).2 := by
  induction ms generalizing q s with
  | nil => simpa using hq
  | cons m ms ih =>
    obtain ⟨t, ht, hR, hout⟩ := h q s m List.mem_cons_self hq
    obtain ⟨hrun, houts⟩ := ih (fun q s m hm => h q s m (List.mem_cons_of_mem _ hm)) hR
    rw [List.flatMap_cons, ht.drain_append]
    exact ⟨hrun, by simp only [transduce, hout, houts]⟩

/-- Input that needs more has no outputs yet. -/
theorem drain_of_more {s : σ} {as : List α} (h : (scan step s as).1 = .more) :
    (drain step finish s as).2 = [] := by
  cases as with
  | nil => simp
  | cons a as =>
    have hrest : (scan step s (a :: as)).2.2 = [] := by
      rcases hs : scan step s (a :: as) with ⟨v, t, rest⟩
      obtain rfl : v = .more := by simpa [hs] using h
      cases rest with
      | nil => rfl
      | cons b bs => exact absurd hs (scan_more_rest (by simp))
    rw [drain]
    simp [h, hrest]

end Scanner
