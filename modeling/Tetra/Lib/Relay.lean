import Mathlib.Data.List.Basic

/-!
# A stage between two queues

A relay takes the items of its inbox one after the other and makes at most one item of each, which waits
in its outbox until somebody handles it. Both queues are in order; they may lose items or lose none.

`Ordered` is kept by every step, `Complete` by every step that loses nothing.
-/

/-- What was sent to a relay, what it has not taken, what it has made of the rest, and what of that was
handled. -/
structure Relay (α β : Type*) where
  sent : List α := []
  inbox : List α := []
  outbox : List β := []
  handled : List β := []

namespace Relay

variable {α β : Type*} {f : α → Option β} {r r' : Relay α β}

variable (f) in
/-- All that was handled or may still be, in the order in which it is. -/
def passage (r : Relay α β) : List β := r.handled ++ (r.outbox ++ r.inbox.filterMap f)

variable (f) in
/-- Nothing is handled that was not sent, nothing twice and nothing out of turn. -/
def Ordered (r : Relay α β) : Prop := List.Sublist (r.passage f) (r.sent.filterMap f)

variable (f) in
/-- And nothing is missing. -/
def Complete (r : Relay α β) : Prop := r.passage f = r.sent.filterMap f

variable (f) in
/-- The steps that lose nothing. -/
inductive Moves (r : Relay α β) : Relay α β → Prop
  | idle : Moves r r
  | send (x : α) : Moves r { r with sent := r.sent ++ [x], inbox := r.inbox ++ [x] }
  | forward (x : α) (inbox : List α) (h : r.inbox = x :: inbox) :
      Moves r { r with inbox, outbox := r.outbox ++ (f x).toList }
  | handle (y : β) (outbox : List β) (h : r.outbox = y :: outbox) :
      Moves r { r with outbox, handled := r.handled ++ [y] }

/-- Items of the two queues are gone. -/
structure Loses (r r' : Relay α β) : Prop where
  sent : r'.sent = r.sent
  handled : r'.handled = r.handled
  inbox : List.Sublist r'.inbox r.inbox
  outbox : List.Sublist r'.outbox r.outbox

/-! ## Steps -/

theorem passage_send (x : α) :
    passage f { r with sent := r.sent ++ [x], inbox := r.inbox ++ [x] } =
      r.passage f ++ (f x).toList := by
  cases h : f x <;> simp [passage, h]

theorem sent_send (x : α) : (r.sent ++ [x]).filterMap f = r.sent.filterMap f ++ (f x).toList := by
  cases h : f x <;> simp [h]

theorem passage_forward {x : α} {inbox : List α} (h : r.inbox = x :: inbox) :
    passage f { r with inbox, outbox := r.outbox ++ (f x).toList } = r.passage f := by
  cases hx : f x <;> simp [passage, h, hx]

theorem passage_handle {y : β} {outbox : List β} (h : r.outbox = y :: outbox) :
    passage f { r with outbox, handled := r.handled ++ [y] } = r.passage f := by
  simp [passage, h]

theorem Complete.moves (h : r.Complete f) (hm : Moves f r r') : r'.Complete f := by
  cases hm with
  | idle => exact h
  | send x => rw [Complete, passage_send, sent_send, h]
  | forward x inbox hinbox => exact (passage_forward hinbox).trans h
  | handle y outbox houtbox => exact (passage_handle houtbox).trans h

theorem Ordered.moves (h : r.Ordered f) (hm : Moves f r r') : r'.Ordered f := by
  cases hm with
  | idle => exact h
  | send x =>
    rw [Ordered, passage_send, sent_send]
    exact h.append (List.Sublist.refl _)
  | forward x inbox hinbox =>
    rw [Ordered, passage_forward hinbox]
    exact h
  | handle y outbox houtbox =>
    rw [Ordered, passage_handle houtbox]
    exact h

theorem Ordered.loses (h : r.Ordered f) (hl : Loses r r') : r'.Ordered f := by
  have hpassage : List.Sublist (r'.passage f) (r.passage f) := by
    rw [passage, hl.handled]
    exact (List.Sublist.refl _).append (hl.outbox.append (hl.inbox.filterMap f))
  rw [Ordered, hl.sent]
  exact hpassage.trans h

/-! ## What was handled -/

theorem Ordered.handled (h : r.Ordered f) : List.Sublist r.handled (r.sent.filterMap f) :=
  (List.sublist_append_left _ _).trans h

theorem Complete.handled (h : r.Complete f) (hinbox : r.inbox = []) (houtbox : r.outbox = []) :
    r.handled = r.sent.filterMap f := by
  simpa [Complete, passage, hinbox, houtbox] using h

end Relay
