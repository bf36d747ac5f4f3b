import Tetra.Lib.EventLog
import Mathlib.Data.List.Induction

/-!
# A replica behind a buffer for one request

Two stores. A `put` writes to the primary at once and leaves its entries in a buffer, which
`sync` replays on the replica later. An `erase` takes keys out of both stores at once and marks
the buffer, but leaves it as it is; while it is marked `sync` does nothing.

The buffer holds the last `put` only. `Coherent` is what holds of any sequence of operations
nevertheless, and `synced_sync` says exactly when a `sync` brings the replica up to date.
-/

namespace BufferedReplica

open EventLog

variable {κ ν : Type*} [DecidableEq κ]

/-- A store, by what it holds under each key. -/
abbrev Store (κ ν : Type*) := κ → Option ν

/-- The last entry for a key. -/
def lastEntry (entries : List (κ × ν)) (k : κ) : Option ν :=
  lastOf (fun entry => if entry.1 = k then some entry.2 else none) entries

@[simp] theorem lastEntry_nil (k : κ) : lastEntry ([] : List (κ × ν)) k = none := rfl

theorem lastEntry_concat (entries : List (κ × ν)) (entry : κ × ν) (k : κ) :
    lastEntry (entries ++ [entry]) k =
      if entry.1 = k then some entry.2 else lastEntry entries k := by
  rw [lastEntry, lastOf_concat]
  split <;> rfl

theorem lastEntry_eq_none {entries : List (κ × ν)} {k : κ} :
    lastEntry entries k = none ↔ k ∉ entries.map Prod.fst := by
  induction entries using List.reverseRecOn with
  | nil => simp
  | append_singleton entries entry ih =>
    rw [lastEntry_concat]
    by_cases hk : entry.1 = k
    · simp [hk]
    · rw [if_neg hk, ih]
      simp [Ne.symm hk]

theorem mem_of_lastEntry {entries : List (κ × ν)} {k : κ} {v : ν}
    (h : lastEntry entries k = some v) : (k, v) ∈ entries := by
  induction entries using List.reverseRecOn with
  | nil => exact absurd h (by simp)
  | append_singleton entries entry ih =>
    rw [lastEntry_concat] at h
    rw [List.mem_append, List.mem_singleton]
    split at h
    · next hk => exact Or.inr (by rw [← hk, ← Option.some.inj h])
    · exact Or.inl (ih h)

/-- The last entry, with a function applied to what the entries hold. -/
theorem lastEntry_map {μ : Type*} (f : ν → μ) (entries : List (κ × ν)) (k : κ) :
    lastEntry (entries.map fun entry => (entry.1, f entry.2)) k = (lastEntry entries k).map f := by
  induction entries using List.reverseRecOn with
  | nil => rfl
  | append_singleton entries entry ih =>
    rw [List.map_append, List.map_singleton, lastEntry_concat, lastEntry_concat, ih]
    split <;> rfl

/-- A store with entries written over it, the last one for a key on top. -/
def overlay (store : Store κ ν) (entries : List (κ × ν)) : Store κ ν :=
  fun k => (lastEntry entries k).or (store k)

/-- What an overlaid store holds is one of the entries, or was there before. -/
theorem overlay_cases {store : Store κ ν} {entries : List (κ × ν)} {k : κ} {v : ν}
    (h : overlay store entries k = some v) : (k, v) ∈ entries ∨ store k = some v := by
  rw [overlay, Option.or_eq_some_iff] at h
  rcases h with hentry | ⟨_, hstore⟩
  · exact Or.inl (mem_of_lastEntry hentry)
  · exact Or.inr hstore

theorem overlay_concat (store : Store κ ν) (entries : List (κ × ν)) (entry : κ × ν) :
    overlay store (entries ++ [entry]) =
      fun k => if entry.1 = k then some entry.2 else overlay store entries k := by
  funext k
  rw [overlay, lastEntry_concat]
  split <;> rfl

/-- A store without some keys. -/
def without (store : Store κ ν) (keys : List κ) : Store κ ν :=
  fun k => if k ∈ keys then none else store k

/-! ## Operations -/

/-- Both stores, the entries of the last `put`, and whether an `erase` came after it. -/
structure State (κ ν : Type*) where
  primary : Store κ ν := fun _ => none
  replica : Store κ ν := fun _ => none
  buffer : List (κ × ν) := []
  erasing : Bool := false

namespace State

variable (s : State κ ν)

def put (entries : List (κ × ν)) : State κ ν :=
  { s with primary := overlay s.primary entries, buffer := entries, erasing := false }

def erase (keys : List κ) : State κ ν :=
  { s with
    primary := without s.primary keys
    replica := without s.replica keys
    erasing := true }

def sync : State κ ν :=
  if s.erasing then s else { s with replica := overlay s.replica s.buffer }

/-- There is something in the primary that the replica does not have. -/
def Stale (k : κ) : Prop := ∃ v, s.primary k = some v ∧ s.replica k ≠ some v

/-- The replica has everything the primary has. -/
def Synced : Prop := ∀ k v, s.primary k = some v → s.replica k = some v

/-- What any sequence of operations keeps. -/
structure Coherent : Prop where
  /-- The replica has no key that the primary lacks. -/
  ghostFree : ∀ k, s.primary k = none → s.replica k = none
  /-- What the next `sync` writes is in the primary. -/
  buffered : s.erasing = false → ∀ k v, lastEntry s.buffer k = some v → s.primary k = some v

end State

/-! ## Coherence -/

section Coherence

variable {s : State κ ν}

theorem coherent_init : ({} : State κ ν).Coherent :=
  ⟨fun _ _ => rfl, fun _ k v h => by rw [lastEntry_nil] at h; exact absurd h (by simp)⟩

theorem coherent_put (h : s.Coherent) (entries : List (κ × ν)) : (s.put entries).Coherent := by
  constructor
  · intro k hk
    exact h.ghostFree k (Option.or_eq_none_iff.mp hk).2
  · intro _ k v hv
    have hv' : lastEntry entries k = some v := hv
    show (lastEntry entries k).or (s.primary k) = some v
    rw [hv', Option.some_or]

theorem coherent_erase (h : s.Coherent) (keys : List κ) : (s.erase keys).Coherent := by
  constructor
  · intro k hk
    simp only [State.erase, without] at hk ⊢
    split at hk
    · next hmem => rw [if_pos hmem]
    · next hmem => rw [if_neg hmem, h.ghostFree k hk]
  · intro herasing
    exact absurd herasing (by simp [State.erase])

theorem coherent_sync (h : s.Coherent) : s.sync.Coherent := by
  unfold State.sync
  split
  · exact h
  · next herasing =>
    refine ⟨?_, h.buffered⟩
    intro k hk
    have hbuffer : lastEntry s.buffer k = none := by
      cases hlast : lastEntry s.buffer k with
      | none => rfl
      | some v => exact absurd (hk.symm.trans (h.buffered (by simpa using herasing) k v hlast)) (by simp)
    show (lastEntry s.buffer k).or (s.replica k) = none
    rw [hbuffer, h.ghostFree k hk]
    rfl

end Coherence

/-! ## When a replay is enough -/

/-- With nothing in the buffer there is nothing to replay. -/
theorem sync_of_buffer_nil {s : State κ ν} (h : s.buffer = []) : s.sync = s := by
  unfold State.sync
  split
  · rfl
  · cases s
    subst h
    rfl

/-- **A `sync` brings the replica up to date exactly if everything stale is in the buffer, and the
buffer is not marked.** -/
theorem synced_sync {s : State κ ν} (h : s.Coherent) :
    s.sync.Synced ↔ ∀ k, s.Stale k → s.erasing = false ∧ k ∈ s.buffer.map Prod.fst := by
  cases herasing : s.erasing with
  | true =>
    have hsync : s.sync = s := by rw [State.sync, if_pos herasing]
    rw [hsync]
    constructor
    · rintro hsynced k ⟨v, hv, hne⟩
      exact absurd (hsynced k v hv) hne
    · intro hall k v hv
      by_contra hne
      exact absurd (hall k ⟨v, hv, hne⟩).1 (by decide)
  | false =>
    have hsync : s.sync = { s with replica := overlay s.replica s.buffer } := by
      rw [State.sync, if_neg (by simp [herasing])]
    rw [hsync]
    constructor
    · rintro hsynced k ⟨v, hv, hne⟩
      refine ⟨rfl, ?_⟩
      by_contra hmem
      -- outside of the buffer the replica stays as it was
      have hk : overlay s.replica s.buffer k = some v := hsynced k v hv
      rw [overlay, lastEntry_eq_none.mpr hmem, Option.none_or] at hk
      exact hne hk
    · intro hall k v hv
      show overlay s.replica s.buffer k = some v
      rw [overlay]
      cases hlast : lastEntry s.buffer k with
      | some u =>
        have hu : s.primary k = some u := h.buffered herasing k u hlast
        rw [Option.some_or, ← hu]
        exact hv
      | none =>
        rw [Option.none_or]
        by_contra hne
        exact absurd (hall k ⟨v, hv, hne⟩).2 (lastEntry_eq_none.mp hlast)

end BufferedReplica
