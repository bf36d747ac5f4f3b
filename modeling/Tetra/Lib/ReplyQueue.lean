import Mathlib.Data.List.Basic

/-!
# Replies without an identifier

Requests are answered in order over a queue, and nothing in a reply says which request it answers. A
reader finds the start of a reply by a marker: it skips items up to the first marker and takes what
follows. `Queue` keeps, next to each item that is still unread, the number of the request it answers;
the reader cannot see it.

`own_iff` is the whole story: what is taken belongs to the request that was sent last exactly if no
marker was unread when it was sent.
-/

/-- The unread items, each with the number of the request it answers. -/
structure Queue (α : Type) where
  unread : List (Nat × α) := []
  /-- How many requests have been sent. -/
  sent : Nat := 0

namespace Queue

variable {α : Type} {q : Queue α} {reply noise taken rest : List α} {marker : α}

/-- The unread items as the reader sees them. -/
def items (q : Queue α) : List α := q.unread.map (·.2)

/-- A request is sent, and `reply` is what answers it. -/
def send (q : Queue α) (reply : List α) : Queue α :=
  ⟨q.unread ++ reply.map (q.sent, ·), q.sent + 1⟩

/-- The first `n` items are read. -/
def drop (q : Queue α) (n : Nat) : Queue α := { q with unread := q.unread.drop n }

@[simp] theorem items_send (q : Queue α) (reply : List α) : (q.send reply).items = q.items ++ reply := by
  simp [items, send, Function.comp_def]

@[simp] theorem items_drop (q : Queue α) (n : Nat) : (q.drop n).items = q.items.drop n := by
  simp [items, drop, List.map_drop]

@[simp] theorem length_items (q : Queue α) : q.items.length = q.unread.length := by simp [items]

/-! ## Numbers -/

/-- Unread items answer requests that have been sent. -/
def Numbered (q : Queue α) : Prop := ∀ p ∈ q.unread, p.1 < q.sent

theorem numbered_empty : Numbered ({} : Queue α) := fun p hp => absurd hp (by simp)

theorem Numbered.send (h : q.Numbered) (reply : List α) : (q.send reply).Numbered := by
  intro p hp
  show p.1 < q.sent + 1
  rcases List.mem_append.mp hp with hp | hp
  · exact Nat.lt_succ_of_lt (h p hp)
  · obtain ⟨a, _, rfl⟩ := List.mem_map.mp hp
    exact Nat.lt_succ_self q.sent

theorem Numbered.drop (h : q.Numbered) (n : Nat) : (q.drop n).Numbered :=
  fun p hp => h p (List.mem_of_mem_drop hp)

/-! ## Whose reply is taken -/

/-- What is taken when `noise` is skipped. -/
def take (q : Queue α) (noise taken : List α) : List (Nat × α) :=
  (q.unread.drop noise.length).take taken.length

/-- Every item that is taken answers request `k`. -/
def Own (k : Nat) (ps : List (Nat × α)) : Prop := ∀ p ∈ ps, p.1 = k

instance (k : Nat) (ps : List (Nat × α)) : Decidable (Own k ps) :=
  inferInstanceAs (Decidable (∀ p ∈ ps, p.1 = k))

/-- The first marker of a list splits it in one way only. -/
theorem append_marker_inj {front front' back back' : List α} (hfront : marker ∉ front)
    (hfront' : marker ∉ front') (h : front ++ marker :: back = front' ++ marker :: back') :
    front = front' ∧ back = back' := by
  induction front generalizing front' with
  | nil =>
    cases front' with
    | nil => exact ⟨rfl, by simpa using h⟩
    | cons a front' =>
      obtain ⟨rfl, _⟩ := List.cons.inj h
      exact absurd List.mem_cons_self hfront'
  | cons a front ih =>
    cases front' with
    | nil =>
      obtain ⟨rfl, _⟩ := List.cons.inj h
      exact absurd List.mem_cons_self hfront
    | cons a' front' =>
      obtain ⟨rfl, htail⟩ := List.cons.inj h
      obtain ⟨rfl, rfl⟩ := ih (fun hm => hfront (List.mem_cons_of_mem a hm))
        (fun hm => hfront' (List.mem_cons_of_mem a hm)) htail
      exact ⟨rfl, rfl⟩

/-- With no marker unread, the reader skips what is unread and takes from the reply. -/
theorem skip_unread {back back' : List α} (hnoise : marker ∉ noise) (hunread : marker ∉ q.items)
    (hreply : reply = marker :: back) (htaken : taken = marker :: back')
    (h : (q.send reply).items = noise ++ taken ++ rest) :
    noise = q.items ∧ reply = taken ++ rest := by
  subst hreply htaken
  rw [items_send, List.append_assoc, List.cons_append] at h
  obtain ⟨hskip, htail⟩ := append_marker_inj hunread hnoise h
  exact ⟨hskip.symm, by rw [htail]; rfl⟩

/-- Skipping what is unread leads to the reply. -/
theorem take_send (q : Queue α) (reply : List α) (hnoise : noise.length = q.items.length) :
    (q.send reply).take noise taken = (reply.map (q.sent, ·)).take taken.length := by
  unfold take send
  rw [hnoise, length_items, List.drop_left]

theorem own_send (q : Queue α) (reply : List α) (hnoise : noise.length = q.items.length) :
    Own q.sent ((q.send reply).take noise taken) := by
  intro p hp
  rw [take_send q reply hnoise] at hp
  obtain ⟨a, _, rfl⟩ := List.mem_map.mp (List.mem_of_mem_take hp)
  rfl

/-- What starts in front of the last reply is not the last reply. -/
theorem not_own {ps : List (Nat × α)} (hnumbered : q.Numbered) (htaken : taken ≠ [])
    (hnoise : noise.length < q.unread.length) :
    ¬ Own q.sent (({ q with unread := q.unread ++ ps } : Queue α).take noise taken) := by
  intro hown
  obtain ⟨k, hk⟩ := Nat.exists_eq_add_one_of_ne_zero (Nat.ne_of_gt (List.length_pos_of_ne_nil htaken))
  have hmem : q.unread[noise.length] ∈
      ({ q with unread := q.unread ++ ps } : Queue α).take noise taken := by
    unfold take
    rw [List.drop_append_of_le_length (Nat.le_of_lt hnoise), List.drop_eq_getElem_cons hnoise, hk,
      List.cons_append, List.take_succ_cons]
    exact List.mem_cons_self
  have hlt := hnumbered _ (List.getElem_mem hnoise)
  rw [hown _ hmem] at hlt
  exact Nat.lt_irrefl _ hlt

/-- Where a marker is unread, the reader does not get behind it. -/
theorem length_noise_lt {back back' : List α} (hnoise : marker ∉ noise) (hunread : marker ∈ q.items)
    (h : q.items ++ back = noise ++ back') : noise.length < q.unread.length := by
  by_contra hge
  have hle : q.items.length ≤ noise.length := by
    rw [length_items]
    exact Nat.le_of_not_lt hge
  have hfront : q.items <+: noise := List.prefix_of_prefix_length_le ⟨back, h⟩ ⟨back', rfl⟩ hle
  exact hnoise (hfront.subset hunread)

/--
**What the reader takes belongs to the request that was sent last exactly if no marker was unread
when it was sent.**
-/
theorem own_iff {back back' : List α} (hnumbered : q.Numbered) (hnoise : marker ∉ noise)
    (hreply : reply = marker :: back) (htaken : taken = marker :: back')
    (h : (q.send reply).items = noise ++ taken ++ rest) :
    Own q.sent ((q.send reply).take noise taken) ↔ marker ∉ q.items := by
  constructor
  · intro hown hunread
    rw [items_send, List.append_assoc] at h
    exact not_own hnumbered (by simp [htaken]) (length_noise_lt hnoise hunread h) hown
  · intro hunread
    obtain ⟨hskip, _⟩ := skip_unread hnoise hunread hreply htaken h
    exact own_send q reply (by rw [hskip])

/-- If nothing was sent, what is taken is older, and its marker was unread. -/
theorem own_unsent_iff {back' : List α} (hnumbered : q.Numbered) (hnoise : marker ∉ noise)
    (htaken : taken = marker :: back') (h : q.items = noise ++ taken ++ rest) :
    Own q.sent (q.take noise taken) ↔ marker ∉ q.items := by
  have hunread : marker ∈ q.items := by simp [h, htaken]
  have hsplit : q.items ++ [] = noise ++ (taken ++ rest) := by
    rw [List.append_nil, h, List.append_assoc]
  have hlt := length_noise_lt hnoise hunread hsplit
  have hnot := @not_own _ _ noise taken [] hnumbered (by simp [htaken]) hlt
  rw [List.append_nil] at hnot
  exact ⟨fun hown => absurd hown hnot, fun hfree => absurd hunread hfree⟩

end Queue
