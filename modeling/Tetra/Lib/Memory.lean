import Mathlib.Data.List.Forall2

/-!
# Arrays of fixed size

An array is the list of its cells. `load` and `store` check their index, as a program that is
to have a defined behaviour must: outside the array they end in a `Fault`. A loop that writes
consecutive cells is `storeAll`; the cells it passes over without writing are `none`.

`patch` is the same loop without the checks. `storeAll_eq_ok_iff` says when the two agree, and
`getElem?_patch` what the cells hold afterwards.
-/

/-- Where the behaviour of a program is not defined. -/
inductive Fault
  | load (i : Nat)
  | store (i : Nat)
  | overflow
  deriving DecidableEq, Repr

namespace Memory

/-! ## Computations that may end in a fault -/

section Except

variable {ε α β γ : Type}

@[simp] theorem ok_bind (a : α) (f : α → Except ε β) : (Except.ok a >>= f) = f a := rfl

@[simp] theorem error_bind (e : ε) (f : α → Except ε β) :
    ((Except.error e : Except ε α) >>= f) = .error e := rfl

@[simp] theorem pure_eq_ok (a : α) : (pure a : Except ε α) = .ok a := rfl

theorem bind_eq_ok_iff {x : Except ε α} {f : α → Except ε β} {b : β} :
    (x >>= f) = .ok b ↔ ∃ a, x = .ok a ∧ f a = .ok b := by
  cases x <;> simp

theorem pure_pair_eq_ok_iff {a a' : α} {b b' : β} :
    (pure (a, b) : Except ε (α × β)) = .ok (a', b') ↔ a = a' ∧ b = b' := by
  rw [pure_eq_ok, Except.ok.injEq, Prod.mk.injEq]

theorem pure_triple_eq_ok_iff {a a' : α} {b b' : β} {c c' : γ} :
    (pure (a, b, c) : Except ε (α × β × γ)) = .ok (a', b', c') ↔ a = a' ∧ b = b' ∧ c = c' := by
  rw [pure_eq_ok, Except.ok.injEq, Prod.mk.injEq, Prod.mk.injEq]

theorem map_eq_ok_iff {x : Except ε α} {f : α → β} {b : β} :
    x.map f = .ok b ↔ ∃ a, x = .ok a ∧ f a = b := by
  cases x <;> simp [Except.map]

theorem toOption_eq_some_iff {x : Except ε α} {a : α} : x.toOption = some a ↔ x = .ok a := by
  cases x <;> simp [Except.toOption]

/-- A traversal ends well if every step does. -/
theorem mapM_eq_ok_iff {f : α → Except ε β} {as : List α} {bs : List β} :
    as.mapM f = .ok bs ↔ List.Forall₂ (fun a b => f a = .ok b) as bs := by
  induction as generalizing bs with
  | nil => simp [List.forall₂_nil_left_iff, eq_comm]
  | cons a as ih =>
    rw [List.mapM_cons, bind_eq_ok_iff, List.forall₂_cons_left_iff]
    constructor
    · rintro ⟨b, hb, h⟩
      obtain ⟨bs', hbs', hcons⟩ := bind_eq_ok_iff.mp h
      exact ⟨b, bs', hb, ih.mp hbs', by simpa [eq_comm] using hcons⟩
    · rintro ⟨b, bs', hb, hbs', rfl⟩
      exact ⟨b, hb, by rw [ih.mpr hbs']; rfl⟩

theorem mapM_getElem? {f : α → Except ε β} {as : List α} {bs : List β} {i : Nat} {a : α}
    (h : as.mapM f = .ok bs) (ha : as[i]? = some a) : ∃ b, bs[i]? = some b ∧ f a = .ok b := by
  have hall := mapM_eq_ok_iff.mp h
  clear h
  induction hall generalizing i with
  | nil => simp at ha
  | cons hab _ ih =>
    cases i with
    | zero =>
      obtain rfl := Option.some.inj ha
      exact ⟨_, rfl, hab⟩
    | succ i => exact ih ha

theorem exists_mapM_eq_ok {f : α → Except ε β} {as : List α} (h : ∀ a ∈ as, ∃ b, f a = .ok b) :
    ∃ bs, as.mapM f = .ok bs := by
  induction as with
  | nil => exact ⟨[], rfl⟩
  | cons a as ih =>
    obtain ⟨b, hb⟩ := h a List.mem_cons_self
    obtain ⟨bs, hbs⟩ := ih fun a' ha' => h a' (List.mem_cons_of_mem a ha')
    exact ⟨b :: bs, mapM_eq_ok_iff.mpr (.cons hb (mapM_eq_ok_iff.mp hbs))⟩

end Except

variable {α : Type} {m : List α} {i : Nat}

/-! ## Single cells -/

/-- `m[i]` -/
def load (m : List α) (i : Nat) : Except Fault α :=
  match m[i]? with
  | some a => .ok a
  | none => .error (.load i)

/-- `m[i] = a` -/
def store (m : List α) (i : Nat) (a : α) : Except Fault (List α) :=
  if i < m.length then .ok (m.set i a) else .error (.store i)

theorem load_of_getElem? {a : α} (h : m[i]? = some a) : load m i = .ok a := by
  rw [load, h]

theorem load_of_lt (h : i < m.length) : load m i = .ok m[i] :=
  load_of_getElem? (List.getElem?_eq_getElem h)

theorem load_of_not_lt (h : ¬ i < m.length) : load m i = .error (.load i) := by
  rw [load, List.getElem?_eq_none (Nat.le_of_not_lt h)]

theorem store_of_lt (h : i < m.length) (a : α) : store m i a = .ok (m.set i a) := if_pos h

theorem store_of_not_lt (h : ¬ i < m.length) (a : α) : store m i a = .error (.store i) := if_neg h

/-- `memset(m, a, count)` -/
def fill (count : Nat) (a : α) (m : List α) : List α := List.replicate count a ++ m.drop count

theorem length_fill {count : Nat} (h : count ≤ m.length) (a : α) :
    (fill count a m).length = m.length := by
  rw [fill, List.length_append, List.length_replicate, List.length_drop]
  omega

theorem fill_of_length_le {count : Nat} (h : m.length ≤ count) (a : α) :
    fill count a m = List.replicate count a := by
  rw [fill, List.drop_eq_nil_of_le h, List.append_nil]

/-! ## Consecutive cells -/

/-- A loop over the cells from `i` on; `none` passes a cell over. -/
def storeAll (m : List α) (i : Nat) : List (Option α) → Except Fault (List α)
  | [] => .ok m
  | none :: os => storeAll m (i + 1) os
  | some a :: os => do storeAll (← store m i a) (i + 1) os

/-- The loop of `storeAll` without its checks. -/
def patch (m : List α) (i : Nat) : List (Option α) → List α
  | [] => m
  | none :: os => patch m (i + 1) os
  | some a :: os => patch (m.set i a) (i + 1) os

/-- No cell that the loop writes is outside the array. -/
def Fits (m : List α) (i : Nat) (os : List (Option α)) : Prop :=
  ∀ k a, os[k]? = some (some a) → i + k < m.length

@[simp] theorem patch_nil : patch m i [] = m := rfl

@[simp] theorem patch_none (os : List (Option α)) :
    patch m i (none :: os) = patch m (i + 1) os := rfl

@[simp] theorem patch_some (a : α) (os : List (Option α)) :
    patch m i (some a :: os) = patch (m.set i a) (i + 1) os := rfl

@[simp] theorem length_patch (os : List (Option α)) : (patch m i os).length = m.length := by
  induction os generalizing m i with
  | nil => rfl
  | cons o os ih => cases o <;> simp [ih]

/-- What a cell held does not matter where it is written next. -/
theorem patch_set_some (a b : α) (os : List (Option α)) :
    patch (m.set i a) i (some b :: os) = patch m i (some b :: os) := by
  rw [patch_some, patch_some, List.set_set]

theorem patch_append (os os' : List (Option α)) :
    patch m i (os ++ os') = patch (patch m i os) (i + os.length) os' := by
  induction os generalizing m i with
  | nil => rfl
  | cons o os ih => cases o <;> simp [ih, Nat.add_assoc, Nat.add_comm 1]

/-- What a cell holds after the loop: the last value written to it, or what it held before. -/
theorem getElem?_patch (os : List (Option α)) (k : Nat) (hk : k < m.length) :
    (patch m i os)[k]? = if i ≤ k then (os[k - i]?.join.or m[k]?) else m[k]? := by
  induction os generalizing m i with
  | nil => simp
  | cons o os ih =>
    rcases Nat.lt_trichotomy k i with hlt | rfl | hgt
    · cases o with
      | none => rw [patch_none, ih hk, if_neg (by omega), if_neg (by omega)]
      | some a =>
        rw [patch_some, ih (by simpa using hk), if_neg (by omega), if_neg (by omega),
          List.getElem?_set_ne (by omega)]
    · cases o with
      | none => rw [patch_none, ih hk, if_neg (by omega), if_pos (Nat.le_refl k)]; simp
      | some a =>
        rw [patch_some, ih (by simpa using hk), if_neg (by omega), if_pos (Nat.le_refl k),
          List.getElem?_set_self hk]
        simp
    · have hsub : k - i = k - (i + 1) + 1 := by omega
      cases o with
      | none =>
        rw [patch_none, ih hk, if_pos (by omega), if_pos (by omega), hsub, List.getElem?_cons_succ]
      | some a =>
        rw [patch_some, ih (by simpa using hk), if_pos (by omega), if_pos (by omega), hsub,
          List.getElem?_cons_succ, List.getElem?_set_ne (by omega)]

theorem fits_nil : Fits m i [] := fun k a h => by simp at h

theorem fits_none {os : List (Option α)} : Fits m i (none :: os) ↔ Fits m (i + 1) os := by
  constructor
  · intro h k a hk
    have := h (k + 1) a (by simpa using hk)
    omega
  · intro h k a hk
    cases k with
    | zero => simp at hk
    | succ k =>
      have := h k a (by simpa using hk)
      omega

theorem fits_some {a : α} {os : List (Option α)} :
    Fits m i (some a :: os) ↔ i < m.length ∧ Fits (m.set i a) (i + 1) os := by
  constructor
  · intro h
    refine ⟨by simpa using h 0 a (by simp), ?_⟩
    intro k b hk
    have := h (k + 1) b (by simpa using hk)
    rw [List.length_set]
    omega
  · rintro ⟨hi, h⟩ k b hk
    cases k with
    | zero => simpa using hi
    | succ k =>
      have := h k b (by simpa using hk)
      rw [List.length_set] at this
      omega

/-- Without a gap the loop fits if its last cell does. -/
theorem fits_map_some {as : List α} : Fits m i (as.map some) ↔ as = [] ∨ i + as.length ≤ m.length := by
  constructor
  · intro h
    rcases as.eq_nil_or_concat with rfl | ⟨init, a, rfl⟩
    · exact Or.inl rfl
    · have := h init.length a (by simp)
      right
      simp
      omega
  · rintro (rfl | h) k a hk
    · simp at hk
    · have : k < as.length := by
        by_contra hge
        rw [List.getElem?_eq_none (by simpa using hge)] at hk
        exact absurd hk (by simp)
      omega

/-- The loop ends without a fault exactly if it fits, and then it has patched the array. -/
theorem storeAll_eq_ok_iff {os : List (Option α)} {m' : List α} :
    storeAll m i os = .ok m' ↔ Fits m i os ∧ m' = patch m i os := by
  induction os generalizing m i with
  | nil => simp [storeAll, fits_nil, eq_comm]
  | cons o os ih =>
    cases o with
    | none => rw [storeAll, ih, fits_none, patch_none]
    | some a =>
      rw [storeAll, fits_some, patch_some]
      by_cases hi : i < m.length
      · rw [store_of_lt hi, ok_bind, ih]
        simp [hi]
      · simp [store_of_not_lt hi, hi]

theorem storeAll_append (os os' : List (Option α)) :
    storeAll m i (os ++ os') = (do storeAll (← storeAll m i os) (i + os.length) os') := by
  induction os generalizing m i with
  | nil => rfl
  | cons o os ih =>
    have hindex : i + (o :: os).length = i + 1 + os.length := by
      rw [List.length_cons, Nat.add_assoc, Nat.add_comm 1]
    cases o with
    | none => rw [List.cons_append, storeAll, storeAll, ih, hindex]
    | some a =>
      rw [List.cons_append, storeAll, storeAll, hindex]
      cases store m i a with
      | error e => rfl
      | ok m' => exact ih

theorem storeAll_of_fits {os : List (Option α)} (h : Fits m i os) :
    storeAll m i os = .ok (patch m i os) :=
  storeAll_eq_ok_iff.mpr ⟨h, rfl⟩

/-- A loop that does not fit ends in a store fault. -/
theorem storeAll_of_not_fits {os : List (Option α)} (h : ¬ Fits m i os) :
    ∃ k, storeAll m i os = .error (.store k) := by
  induction os generalizing m i with
  | nil => exact absurd fits_nil h
  | cons o os ih =>
    cases o with
    | none => exact ih (fun hf => h (fits_none.mpr hf))
    | some a =>
      by_cases hi : i < m.length
      · rw [storeAll, store_of_lt hi]
        exact ih (fun hf => h (fits_some.mpr ⟨hi, hf⟩))
      · exact ⟨i, by rw [storeAll, store_of_not_lt hi]; rfl⟩

/-- Patching from the start of the array puts the new values in front. -/
theorem patch_zero_map_some {as : List α} (h : as.length ≤ m.length) :
    patch m 0 (as.map some) = as ++ m.drop as.length := by
  refine List.ext_getElem? fun k => ?_
  rcases Nat.lt_or_ge k m.length with hk | hk
  · rw [getElem?_patch _ k hk, if_pos (Nat.zero_le k), Nat.sub_zero, List.getElem?_map]
    rcases Nat.lt_or_ge k as.length with hka | hka
    · rw [List.getElem?_append_left hka, List.getElem?_eq_getElem hka]
      simp
    · rw [List.getElem?_append_right hka, List.getElem?_eq_none hka, List.getElem?_drop]
      simp [Nat.add_sub_of_le hka]
  · rw [List.getElem?_eq_none (by simpa using hk), List.getElem?_eq_none]
    simp
    omega

/-- A loop that starts behind some cells leaves them as they are. -/
theorem patch_append_left (front : List α) (os : List (Option α)) :
    patch (front ++ m) (front.length + i) os = front ++ patch m i os := by
  induction os generalizing m i with
  | nil => rfl
  | cons o os ih =>
    cases o with
    | none => rw [patch_none, patch_none, ← ih, Nat.add_assoc]
    | some a =>
      rw [patch_some, patch_some, ← ih, Nat.add_assoc, List.set_append_right _ _ (by omega),
        Nat.add_sub_cancel_left]

end Memory
