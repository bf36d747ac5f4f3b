import Mathlib.Data.List.Basic

/-!
# Reading a line that may fall silent

What the reads of a program find on a line, in order: an item, possibly with the next one right
behind it (`more`), nothing before the time is up, or an error. Behind the last of them the line
stays silent.

* `ready n` is one read of up to `n` items.
* `intake step` is a loop that reads item by item until `step` has seen enough, and gives up at
  the first read without an item.
* `attempts n` is a loop of `n` reads that gives up when the time is up, but not on an error.

`intake_eq_complete_iff` reduces the first loop to a property of the items alone.
-/

/-- What a read finds on the line. -/
inductive Arrival (α : Type)
  | item (a : α) (more : Bool)
  | timeout
  | error
  deriving DecidableEq, Repr

namespace Arrival

variable {α σ : Type} {step : σ → α → Option σ} {s s' : σ} {line front rest : List (Arrival α)}
  {as : List α}

/-! ## Items -/

/-- The item a read returns. -/
def item? : Arrival α → Option α
  | item a _ => some a
  | timeout => none
  | error => none

@[simp] theorem item?_item (a : α) (more : Bool) : (item a more).item? = some a := rfl
@[simp] theorem item?_timeout : (timeout : Arrival α).item? = none := rfl
@[simp] theorem item?_error : (error : Arrival α).item? = none := rfl

/-- The items of a line. -/
def items (line : List (Arrival α)) : List α := line.filterMap item?

@[simp] theorem items_nil : items ([] : List (Arrival α)) = [] := rfl

@[simp] theorem items_append (line line' : List (Arrival α)) :
    items (line ++ line') = items line ++ items line' :=
  List.filterMap_append

@[simp] theorem items_cons_item (a : α) (more : Bool) (line : List (Arrival α)) :
    items (item a more :: line) = a :: items line := rfl

@[simp] theorem items_cons_timeout (line : List (Arrival α)) : items (timeout :: line) = items line :=
  rfl

@[simp] theorem items_cons_error (line : List (Arrival α)) : items (error :: line) = items line :=
  rfl

/-- The reads of `line` return the items `as`, one after the other. -/
def Delivers (line : List (Arrival α)) (as : List α) : Prop := line.map item? = as.map some

@[simp] theorem delivers_nil_right : Delivers line [] ↔ line = [] := by
  simp [Delivers]

@[simp] theorem delivers_nil_left : Delivers [] as ↔ as = [] := by
  cases as <;> simp [Delivers]

@[simp] theorem delivers_cons_item {a b : α} {more : Bool} :
    Delivers (item a more :: line) (b :: as) ↔ a = b ∧ Delivers line as := by
  simp [Delivers]

@[simp] theorem not_delivers_timeout : ¬ Delivers (timeout :: line) as := by
  cases as <;> simp [Delivers]

@[simp] theorem not_delivers_error : ¬ Delivers (error :: line) as := by
  cases as <;> simp [Delivers]

/-- A line that delivers something begins with an item. -/
theorem Delivers.of_cons {a : α} (h : Delivers line (a :: as)) :
    ∃ more back, line = item a more :: back ∧ Delivers back as := by
  match line with
  | [] => simp at h
  | timeout :: back => simp at h
  | error :: back => simp at h
  | item b more :: back =>
    obtain ⟨rfl, hback⟩ := delivers_cons_item.mp h
    exact ⟨more, back, rfl, hback⟩

theorem delivers_map_item (as : List α) (more : Bool) : Delivers (as.map (item · more)) as := by
  rw [Delivers, List.map_map]
  rfl

theorem Delivers.length_eq (h : Delivers line as) : line.length = as.length := by
  simpa [Delivers] using congrArg List.length h

theorem Delivers.items_eq (h : Delivers line as) : items line = as := by
  calc items line = (line.map item?).filterMap id := by rw [List.filterMap_map]; rfl
    _ = as := by rw [h]; simp

theorem Delivers.append {line' : List (Arrival α)} {as' : List α} (h : Delivers line as)
    (h' : Delivers line' as') : Delivers (line ++ line') (as ++ as') := by
  rw [Delivers, List.map_append, List.map_append, h, h']

/-- A line that delivers `as ++ as'` delivers `as` first. -/
theorem Delivers.split {as' : List α} (h : Delivers line (as ++ as')) :
    ∃ front back, line = front ++ back ∧ Delivers front as ∧ Delivers back as' := by
  rw [Delivers, List.map_append] at h
  obtain ⟨front, back, rfl, hfront, hback⟩ := List.map_eq_append_iff.mp h
  exact ⟨front, back, rfl, hfront, hback⟩

/-! ## One read of several items -/

/-- The items that a read of up to `n` items returns, and the line after it. -/
def ready : Nat → List (Arrival α) → List α × List (Arrival α)
  | n + 1, item a more :: line =>
    if more then (a :: (ready n line).1, (ready n line).2) else ([a], line)
  | _, line => ([], line)

theorem ready_spec (n : Nat) (line : List (Arrival α)) :
    (ready n line).1.length ≤ n ∧
      ∃ front, Delivers front (ready n line).1 ∧ line = front ++ (ready n line).2 := by
  induction n generalizing line with
  | zero => exact ⟨by simp [ready], [], by simp [ready]⟩
  | succ n ih =>
    match line with
    | [] => exact ⟨by simp [ready], [], by simp [ready]⟩
    | timeout :: line => exact ⟨by simp [ready], [], by simp [ready]⟩
    | error :: line => exact ⟨by simp [ready], [], by simp [ready]⟩
    | item a false :: line => exact ⟨by simp [ready], [item a false], by simp [ready]⟩
    | item a true :: line =>
      obtain ⟨hlength, front, hfront, hline⟩ := ih line
      exact ⟨by simpa [ready] using hlength, item a true :: front, by simpa [ready] using hfront,
        by simpa [ready] using hline⟩

/-- A read comes back empty only where the line has no item next. -/
theorem ready_eq_nil {n : Nat} (hn : 0 < n) (h : (ready n line).1 = []) :
    (ready n line).2 = line ∧ ∀ a more rest, line ≠ item a more :: rest := by
  obtain ⟨n, rfl⟩ := Nat.exists_eq_add_of_lt hn
  rw [Nat.zero_add] at h ⊢
  match line with
  | [] => simp [ready]
  | timeout :: line => simp [ready]
  | error :: line => simp [ready]
  | item a more :: line => cases more <;> simp [ready] at h

/-! ## Loops of reads -/

/-- What a loop has read, whether it has read enough, and the line after it. -/
structure Intake (α β : Type) where
  items : List β
  complete : Bool
  rest : List (Arrival α)
  deriving DecidableEq, Repr

/-- More items in front of what a loop has read. -/
def Intake.prepend {β : Type} (bs : List β) (r : Intake α β) : Intake α β :=
  { r with items := bs ++ r.items }

/-- Read items until `step` has seen enough. -/
def intake (step : σ → α → Option σ) : σ → List (Arrival α) → Intake α α
  | _, [] => ⟨[], false, []⟩
  | _, timeout :: line => ⟨[], false, line⟩
  | _, error :: line => ⟨[], false, line⟩
  | s, item a _ :: line =>
    match step s a with
    | none => ⟨[a], true, line⟩
    | some s' => (intake step s' line).prepend [a]

/-- A single read, whatever comes of it. -/
def poll : List (Arrival α) → Option α × List (Arrival α)
  | [] => (none, [])
  | a :: line => (a.item?, line)

/-- Up to `n` reads; an error counts as a read without an item. -/
def attempts : Nat → List (Arrival α) → Intake α (Option α)
  | 0, line => ⟨[], true, line⟩
  | _ + 1, [] => ⟨[], false, []⟩
  | _ + 1, timeout :: line => ⟨[], false, line⟩
  | n + 1, error :: line => (attempts n line).prepend [none]
  | n + 1, item a _ :: line => (attempts n line).prepend [some a]

theorem intake_item_none {a : α} (more : Bool) (h : step s a = none) :
    intake step s (item a more :: line) = ⟨[a], true, line⟩ := by
  rw [intake, h]

theorem intake_item_some {a : α} (more : Bool) (h : step s a = some s') :
    intake step s (item a more :: line) = (intake step s' line).prepend [a] := by
  rw [intake, h]

/-- A loop that has not seen enough goes on with the rest of the line. -/
theorem intake_append (hfront : Delivers front as) (hs : as.foldlM step s = some s') :
    intake step s (front ++ line) = (intake step s' line).prepend as := by
  induction as generalizing front s with
  | nil =>
    obtain rfl := delivers_nil_right.mp hfront
    obtain rfl : s = s' := by simpa using hs
    rfl
  | cons a as ih =>
    obtain ⟨more, front, rfl, htail⟩ := hfront.of_cons
    obtain ⟨s₁, hs₁, hs⟩ := Option.bind_eq_some_iff.mp (List.foldlM_cons.symm.trans hs)
    rw [List.cons_append, intake_item_some more hs₁, ih htail hs]
    rfl

/-- A loop leaves behind the items it has not read. -/
theorem items_intake (step : σ → α → Option σ) (s : σ) (line : List (Arrival α)) :
    items line = (intake step s line).items ++ items (intake step s line).rest := by
  fun_induction intake step s line with
  | case1 => rfl
  | case2 => rfl
  | case3 => rfl
  | case4 s a more line h => rfl
  | case5 s a more line s' h ih => simp [Intake.prepend, ih]

/-- A loop is satisfied exactly by items of which the last is the first to be enough. -/
theorem intake_eq_complete_iff :
    intake step s line = ⟨as, true, rest⟩ ↔
      (∃ init a s', as = init ++ [a] ∧ init.foldlM step s = some s' ∧ step s' a = none) ∧
        ∃ front, Delivers front as ∧ line = front ++ rest := by
  constructor
  · intro h
    fun_induction intake step s line generalizing as with
    | case1 => simp at h
    | case2 => simp at h
    | case3 => simp at h
    | case4 s a more line hstep =>
      obtain ⟨rfl, rfl⟩ : as = [a] ∧ line = rest := by simpa [eq_comm] using h
      exact ⟨⟨[], a, s, rfl, rfl, hstep⟩, [item a more], by simp, rfl⟩
    | case5 s a more line s₁ hstep ih =>
      rcases hr : intake step s₁ line with ⟨as₁, c₁, rest₁⟩
      rw [hr] at h ih
      obtain ⟨rfl, rfl, rfl⟩ : a :: as₁ = as ∧ c₁ = true ∧ rest₁ = rest := by
        simpa [Intake.prepend] using h
      obtain ⟨⟨init, b, s', rfl, hinit, hb⟩, front, hfront, rfl⟩ := ih rfl
      refine ⟨⟨a :: init, b, s', rfl, ?_, hb⟩, item a more :: front, by simpa using hfront, rfl⟩
      rw [List.foldlM_cons, hstep]
      exact hinit
  · rintro ⟨⟨init, a, s', rfl, hinit, ha⟩, read, hread, rfl⟩
    obtain ⟨front, back, rfl, hfront, hback⟩ := hread.split
    obtain ⟨more, back, rfl, htail⟩ := hback.of_cons
    obtain rfl := delivers_nil_right.mp htail
    rw [List.append_assoc, intake_append hfront hinit]
    simp [intake_item_none more ha, Intake.prepend]

/-- The items of a loop that gave up were not enough. -/
theorem foldlM_of_not_complete (h : (intake step s line).complete = false) :
    ∃ s', (intake step s line).items.foldlM step s = some s' := by
  fun_induction intake step s line with
  | case1 s => exact ⟨s, rfl⟩
  | case2 s => exact ⟨s, rfl⟩
  | case3 s => exact ⟨s, rfl⟩
  | case4 => simp at h
  | case5 s a more line s₁ hstep ih =>
    obtain ⟨s', hs'⟩ := ih (by simpa [Intake.prepend] using h)
    refine ⟨s', ?_⟩
    simpa [Intake.prepend, hstep] using hs'

/-- Reads that all return an item take these items from the line. -/
theorem attempts_of_delivers (hfront : Delivers front as) :
    attempts as.length (front ++ line) = ⟨as.map some, true, line⟩ := by
  induction as generalizing front with
  | nil =>
    obtain rfl := delivers_nil_right.mp hfront
    rfl
  | cons a as ih =>
    obtain ⟨more, front, rfl, htail⟩ := hfront.of_cons
    rw [List.cons_append, List.length_cons, attempts, ih htail]
    rfl

theorem length_attempts_le (n : Nat) (line : List (Arrival α)) :
    (attempts n line).items.length ≤ n := by
  induction n generalizing line with
  | zero => exact Nat.le_refl 0
  | succ n ih =>
    match line with
    | [] => exact Nat.zero_le _
    | timeout :: line => exact Nat.zero_le _
    | error :: line => exact Nat.succ_le_succ (ih line)
    | item a more :: line => exact Nat.succ_le_succ (ih line)

end Arrival
