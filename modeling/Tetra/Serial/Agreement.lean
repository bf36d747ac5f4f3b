import Tetra.Lib.Machine
import Tetra.Lib.ReplyQueue
import Tetra.Serial.Calls

/-!
# Whose reply the drive's driver accepts

A reply of the drive says nothing about the command it answers, and no function clears the port before
it writes; so a reply that comes after its function has given up is what the next one reads.
`accepted_reply_iff` says when this happens: exactly if an `STX` is still unread when a command is
written, and never while all earlier replies have been received to their end.

The drive is the function `replies`: what it answers to the commands that have reached it, in order.
-/

namespace Tetra.Serial

open Arrival Memory

/-! ## Receptions once more -/

section Reception

variable {σ : Type} {step : σ → UInt8 → Option σ} {s : σ}

/-- What is skipped, what is kept and what is left are all that has come. -/
theorem reception_items (step : σ → UInt8 → Option σ) (s : σ) (port : Port) :
    items port = (reception (intake step s) port).noise ++ (reception (intake step s) port).frame ++
        items (reception (intake step s) port).rest ∧
      stx ∉ (reception (intake step s) port).noise ∧
      ((reception (intake step s) port).frame = [] ∨
        ∃ tail, (reception (intake step s) port).frame = stx :: tail) := by
  rcases reception_cases (intake step s) port with
    ⟨front, noise, port, rfl, hfront, hnoise⟩ | ⟨hc, hnoise, hframe, _⟩
  · rw [reception_of_delivers hfront hnoise]
    refine ⟨?_, hnoise, Or.inr ⟨_, rfl⟩⟩
    rw [items_append, hfront.items_eq, items_intake step s port]
    simp
  · refine ⟨?_, hnoise, Or.inl hframe⟩
    rw [hframe, List.append_nil]
    unfold reception
    rw [hc]
    exact items_intake seekStx () port

end Reception

namespace Exchange

theorem reception_items (e : Exchange) :
    items e.arrivals = e.reception.noise ++ e.reception.frame ++ items e.reception.rest ∧
      stx ∉ e.reception.noise ∧
      (e.reception.frame = [] ∨ ∃ tail, e.reception.frame = stx :: tail) := by
  unfold reception
  by_cases hbv : IsVelocity2 e.frame
  · rw [if_pos hbv]
    exact Serial.reception_items Drive.countdown 18 e.arrivals
  · rw [if_neg hbv]
    exact Serial.reception_items untilLrc stx e.arrivals

theorem frame_ne_nil_of_complete (e : Exchange) (h : e.reception.complete = true) :
    e.reception.frame ≠ [] := by
  have hne : ∀ tail : Port → Intake UInt8 UInt8, (Serial.reception tail e.arrivals).complete = true →
      (Serial.reception tail e.arrivals).frame ≠ [] := by
    intro tail hc
    unfold Serial.reception at hc ⊢
    by_cases hfound : (intake seekStx () e.arrivals).complete = true
    · rw [if_pos hfound]
      exact List.cons_ne_nil _ _
    · rw [if_neg hfound] at hc
      exact absurd hc Bool.false_ne_true
  unfold reception at h ⊢
  by_cases hbv : IsVelocity2 e.frame
  · rw [if_pos hbv] at h ⊢
    exact hne _ h
  · rw [if_neg hbv] at h ⊢
    exact hne _ h

end Exchange

/-! ## Replies -/

/-- A reply has the form that its command asks for. -/
def Answers (frame reply : List UInt8) : Prop :=
  if IsVelocity2 frame then reply.length = 20 ∧ reply.head? = some stx
  else ∃ content l, reply = stx :: (content ++ [etx, l]) ∧ etx ∉ content

theorem exists_of_answers {frame reply : List UInt8} (h : Answers frame reply) :
    ∃ tail, reply = stx :: tail := by
  unfold Answers at h
  by_cases hbv : IsVelocity2 frame
  · rw [if_pos hbv] at h
    obtain ⟨tail, htail⟩ := List.head?_eq_some_iff.mp h.2
    exact ⟨tail, htail⟩
  · rw [if_neg hbv] at h
    obtain ⟨content, l, hreply, _⟩ := h
    exact ⟨_, hreply⟩

/-- A complete reception of the start of a reply is all of it. -/
theorem frame_eq_reply {e : Exchange} {reply rest : List UInt8} (hanswers : Answers e.frame reply)
    (hcomplete : e.reception.complete = true) (h : reply = e.reception.frame ++ rest) :
    e.reception.frame = reply := by
  unfold Answers at hanswers
  unfold Exchange.reception at hcomplete h ⊢
  by_cases hbv : IsVelocity2 e.frame
  · rw [if_pos hbv] at hanswers hcomplete h ⊢
    have hrest : rest = [] := by
      have hlength := congrArg List.length h
      rw [List.length_append, hanswers.1, Drive.length_frame_fixed hcomplete] at hlength
      exact List.eq_nil_of_length_eq_zero (by omega)
    rw [h, hrest, List.append_nil]
  · rw [if_neg hbv] at hanswers hcomplete h ⊢
    obtain ⟨content, l, hreply, hcontent⟩ := hanswers
    obtain ⟨⟨b, l', hframe, hb⟩, _⟩ := delimited_eq_complete_iff.mp
      (show delimited e.arrivals = ⟨_, _, true, _⟩ by rw [← hcomplete])
    have hsplit : content ++ etx :: [l] = b ++ etx :: (l' :: rest) := by
      rw [hreply, hframe] at h
      simpa using h
    obtain ⟨rfl, hlast⟩ := Queue.append_marker_inj hcontent hb hsplit
    obtain ⟨rfl, _⟩ := List.cons.inj hlast
    rw [hframe, hreply]

/-! ## The account of the drive -/

section Account

variable {replies : Nat → List UInt8} {q : Queue UInt8} {e : Exchange} {es pre post : List Exchange}

/-- A command that is written reaches the drive, and its reply will come. -/
def asked (replies : Nat → List UInt8) (q : Queue UInt8) (e : Exchange) : Queue UInt8 :=
  if 0 < e.written then q.send (replies q.sent) else q

/-- What is unread after an exchange. -/
def settled (replies : Nat → List UInt8) (q : Queue UInt8) (e : Exchange) : Queue UInt8 :=
  match e.left with
  | none => asked replies q e
  | some left => (asked replies q e).drop ((asked replies q e).unread.length - (items left).length)

/-- What is unread after some exchanges, on a port that was new. -/
def account (replies : Nat → List UInt8) (es : List Exchange) : Queue UInt8 :=
  es.foldl (settled replies) {}

/--
The drive answers each command that reaches it with one reply, and nothing else arrives. When it
arrives, and whether the host is still waiting for it, is left open.
-/
def Answered (replies : Nat → List UInt8) : Queue UInt8 → List Exchange → Prop
  | _, [] => True
  | q, e :: es =>
    ((0 < e.written → Answers e.frame (replies q.sent)) ∧
        items e.arrivals = (asked replies q e).items) ∧
      Answered replies (settled replies q e) es

theorem answered_append : Answered replies q (pre ++ post) ↔
    Answered replies q pre ∧ Answered replies (pre.foldl (settled replies) q) post := by
  induction pre generalizing q with
  | nil => simp [Answered]
  | cons e pre ih =>
    rw [List.cons_append, Answered, ih, Answered, List.foldl_cons]
    exact and_assoc.symm

theorem numbered_asked (h : q.Numbered) (e : Exchange) : (asked replies q e).Numbered := by
  unfold asked
  split
  · exact h.send _
  · exact h

theorem numbered_settled (h : q.Numbered) (e : Exchange) : (settled replies q e).Numbered := by
  unfold settled
  split
  · exact numbered_asked h e
  · exact (numbered_asked h e).drop _

theorem numbered_account (es : List Exchange) : (account replies es).Numbered := by
  suffices h : ∀ q : Queue UInt8, q.Numbered → (es.foldl (settled replies) q).Numbered from
    h _ Queue.numbered_empty
  induction es with
  | nil => exact fun q h => h
  | cons e es ih => exact fun q h => ih _ (numbered_settled h e)

/-! ## One exchange -/

/-- The bytes that the receiver takes, each with the number of the command it answers. -/
def accepted (replies : Nat → List UInt8) (q : Queue UInt8) (e : Exchange) : List (Nat × UInt8) :=
  (asked replies q e).take e.reception.noise e.reception.frame

/-- The bytes taken answer the last command exactly if no `STX` was unread before it. -/
theorem own_accepted_iff (hnumbered : q.Numbered)
    (hanswers : 0 < e.written → Answers e.frame (replies q.sent))
    (hitems : items e.arrivals = (asked replies q e).items) (hframe : e.reception.frame ≠ []) :
    Queue.Own q.sent (accepted replies q e) ↔ stx ∉ q.items := by
  obtain ⟨hall, hnoise, hstart⟩ := e.reception_items
  obtain ⟨tail, htaken⟩ := hstart.resolve_left hframe
  rw [hitems] at hall
  unfold accepted
  unfold asked at hall ⊢
  by_cases hw : 0 < e.written
  · rw [if_pos hw] at hall ⊢
    obtain ⟨back, hreply⟩ := exists_of_answers (hanswers hw)
    exact Queue.own_iff hnumbered hnoise hreply htaken hall
  · rw [if_neg hw] at hall ⊢
    exact Queue.own_unsent_iff hnumbered hnoise htaken hall

/-- With no `STX` unread before, a complete reception is the reply and nothing is left of it. -/
theorem complete_accepted (hw : 0 < e.written) (hanswers : Answers e.frame (replies q.sent))
    (hitems : items e.arrivals = (asked replies q e).items) (hunread : stx ∉ q.items)
    (hcomplete : e.reception.complete = true) :
    accepted replies q e = (replies q.sent).map (q.sent, ·) ∧ items e.reception.rest = [] := by
  obtain ⟨hall, hnoise, hstart⟩ := e.reception_items
  obtain ⟨tail, htaken⟩ := hstart.resolve_left (e.frame_ne_nil_of_complete hcomplete)
  obtain ⟨back, hreply⟩ := exists_of_answers hanswers
  have hasked : asked replies q e = q.send (replies q.sent) := if_pos hw
  rw [hitems, hasked] at hall
  obtain ⟨hskip, hsplit⟩ := Queue.skip_unread hnoise hunread hreply htaken hall
  have hframe := frame_eq_reply hanswers hcomplete hsplit
  constructor
  · unfold accepted
    rw [hasked, Queue.take_send q _ (by rw [hskip]), hframe, ← List.length_map (f := (q.sent, ·)),
      List.take_length]
  · rw [hframe] at hsplit
    exact List.self_eq_append_right.mp hsplit

/-- A receiver that takes what was unread has found an `STX` there. -/
theorem written_of_unread (hitems : items e.arrivals = (asked replies q e).items)
    (hframe : e.reception.frame ≠ []) (hunread : stx ∉ q.items) : 0 < e.written := by
  by_contra hw
  obtain ⟨hall, _, hstart⟩ := e.reception_items
  obtain ⟨tail, htaken⟩ := hstart.resolve_left hframe
  have hasked : asked replies q e = q := if_neg hw
  rw [hitems, hasked, htaken] at hall
  exact hunread (by simp [hall])

/-- Nothing is unread behind an exchange that nothing was unread before, if it came to its end. -/
theorem settled_unread (hsound : e.Sound) (hempty : q.unread = [])
    (hanswers : 0 < e.written → Answers e.frame (replies q.sent))
    (hitems : items e.arrivals = (asked replies q e).items)
    (hcomplete : 0 < e.written → e.left.isSome ∧ e.reception.complete = true) :
    (settled replies q e).unread = [] := by
  have hnone : q.items = [] := by simp [Queue.items, hempty]
  by_cases hw : 0 < e.written
  · obtain ⟨hleft, hc⟩ := hcomplete hw
    obtain ⟨left, hleft⟩ := Option.isSome_iff_exists.mp hleft
    have hrest := (complete_accepted hw (hanswers hw) hitems (by simp [hnone]) hc).2
    unfold settled
    rw [hleft]
    simp only
    rw [hsound left hleft, hrest]
    exact List.drop_length
  · have hasked : asked replies q e = q := if_neg hw
    unfold settled
    rw [hasked]
    cases e.left with
    | none => exact hempty
    | some left =>
      show q.unread.drop _ = []
      rw [hempty, List.drop_nil]

/-- While every reception comes to its end, nothing is ever unread when a command is written. -/
theorem account_unread (hsound : ∀ e ∈ es, e.Sound) (hanswered : Answered replies {} es)
    (hcomplete : ∀ e ∈ es, 0 < e.written → e.left.isSome ∧ e.reception.complete = true) :
    (account replies es).unread = [] := by
  suffices h : ∀ q : Queue UInt8, q.unread = [] → Answered replies q es →
      (es.foldl (settled replies) q).unread = [] from h {} rfl hanswered
  clear hanswered
  induction es with
  | nil => exact fun q hempty _ => hempty
  | cons e es ih =>
    rintro q hempty ⟨⟨hanswers, hitems⟩, hlater⟩
    have hnext := settled_unread (hsound e List.mem_cons_self) hempty hanswers hitems
      (hcomplete e List.mem_cons_self)
    exact ih (fun e' he' => hsound e' (List.mem_cons_of_mem e he'))
      (fun e' he' => hcomplete e' (List.mem_cons_of_mem e he')) _ hnext hlater

end Account

/-! ## Runs -/

/-- The drive's port; a call that ends in a fault is not survived. -/
def drivePort (line : Line) : Machine Line Call where
  init := line
  step line call :=
    match call.run line with
    | .ok (_, line') => some line'
    | .error _ => none

theorem step_drivePort {line line₁ line₂ : Line} {call : Call}
    (h : (drivePort line).step line₁ call = some line₂) : ∃ ret, call.run line₁ = .ok (ret, line₂) := by
  unfold drivePort at h
  simp only at h
  split at h
  · rename_i ret line' hrun
    exact ⟨ret, by rw [hrun, Option.some.inj h]⟩
  · exact absurd h (by simp)

/-- A call adds its exchanges to those before it. -/
theorem exchanges_run {line line' : Line} {call : Call} {ret : Int}
    (h : call.run line = .ok (ret, line')) :
    ∃ es, exchanges line'.log = exchanges line.log ++ es ∧ ∀ e ∈ es, e.Sound ∧ (ret = 0 → e.Heard) := by
  obtain ⟨log, hlog, hopens, hall⟩ := call.talks h
  exact ⟨exchanges log, by rw [hlog, exchanges_append line.log hopens], hall⟩

theorem sound_of_run {line line' : Line} {calls : List Call} (hlog : line.log = [])
    (h : (drivePort line).Run calls line') : ∀ e ∈ exchanges line'.log, e.Sound := by
  refine h.invariant (I := fun l => ∀ e ∈ exchanges l.log, e.Sound) ?_ ?_
  · intro e he
    rw [show (drivePort line).init.log = [] from hlog] at he
    exact absurd he (by simp [exchanges])
  · intro line₁ call line₂ hsound hstep _ e he
    obtain ⟨ret, hrun⟩ := step_drivePort hstep
    obtain ⟨es, hes, hall⟩ := exchanges_run hrun
    rw [hes] at he
    rcases List.mem_append.mp he with he | he
    · exact hsound e he
    · exact (hall e he).1

/--
**What a successful call has accepted belongs to the reply to its own command exactly if no `STX` was
unread when the command was written. It is then that reply, if the receiver came to its end; and
nothing at all is unread as long as the receivers before did.**
-/
theorem accepted_reply_iff (line line₁ line₂ : Line) (calls : List Call) (call : Call)
    (replies : Nat → List UInt8) (pre post : List Exchange) (e : Exchange) (hlog : line.log = [])
    (hrun : (drivePort line).Run calls line₁) (hcall : call.run line₁ = .ok (0, line₂))
    (hanswered : Answered replies {} (exchanges line₂.log))
    (hsplit : exchanges line₂.log = pre ++ e :: post)
    (hown : (exchanges line₁.log).length ≤ pre.length) :
    (Queue.Own (account replies pre).sent (accepted replies (account replies pre) e) ↔
        stx ∉ (account replies pre).items) ∧
      (stx ∉ (account replies pre).items → e.reception.complete = true →
        accepted replies (account replies pre) e =
          (replies (account replies pre).sent).map ((account replies pre).sent, ·)) ∧
      ((∀ e' ∈ pre, 0 < e'.written → e'.left.isSome ∧ e'.reception.complete = true) →
        (account replies pre).unread = []) := by
  obtain ⟨es, hes, hall⟩ := exchanges_run hcall
  have hsound : ∀ e' ∈ pre, e'.Sound := by
    intro e' he'
    have hmem : e' ∈ exchanges line₂.log := by
      rw [hsplit]
      exact List.mem_append_left _ he'
    rw [hes] at hmem
    rcases List.mem_append.mp hmem with h | h
    · exact sound_of_run hlog hrun e' h
    · exact (hall e' h).1
  have hmem : e ∈ es := by
    have hboth : exchanges line₁.log ++ es = pre ++ e :: post := by rw [← hes, hsplit]
    rcases List.append_eq_append_iff.mp hboth with ⟨before, _, rfl⟩ | ⟨more, hmore, hrest⟩
    · exact List.mem_append_right before List.mem_cons_self
    · rw [hmore, List.length_append] at hown
      obtain rfl : more = [] := List.eq_nil_of_length_eq_zero (by omega)
      rw [← List.nil_append es, ← hrest]
      exact List.mem_cons_self
  have hheard := (hall e hmem).2 rfl
  rw [hsplit, answered_append, Answered] at hanswered
  obtain ⟨hpre, ⟨hanswers, hitems⟩, _⟩ := hanswered
  refine ⟨own_accepted_iff (numbered_account pre) hanswers hitems hheard.2, ?_, ?_⟩
  · intro hunread hcomplete
    have hw := written_of_unread hitems hheard.2 hunread
    exact (complete_accepted hw (hanswers hw) hitems hunread hcomplete).1
  · exact account_unread hsound hpre

/-! ## Two parameters -/

/-- The line after a call. -/
def Call.after (call : Call) (line : Line) : Line :=
  match call.run line with
  | .ok (_, line') => line'
  | .error _ => line

theorem run_after {line : Line} {call : Call} (h : (call.run line).isOk) :
    (drivePort line).Run [call] (call.after line) := by
  refine .snoc .init ?_ trivial
  unfold drivePort Call.after
  simp only
  cases hrun : call.run line with
  | ok _ => rfl
  | error _ =>
    rw [hrun] at h
    exact absurd h Bool.false_ne_true

/-- The first parameter that is asked for is 7, the next 9. -/
def parameterReplies : Nat → List UInt8
  | 0 => [stx, flagOk, 0x37, etx, 0x04]
  | _ => [stx, flagOk, 0x39, etx, 0x0a]

theorem answers_parameterReplies {frame : List UInt8} (h : ¬ IsVelocity2 frame) (n : Nat) :
    Answers frame (parameterReplies n) := by
  unfold Answers
  rw [if_neg h]
  cases n with
  | zero => exact ⟨[flagOk, 0x37], 0x04, rfl, by decide⟩
  | succ n => exact ⟨[flagOk, 0x39], 0x0a, rfl, by decide⟩

/-- What arrives behind the two requests for a parameter. -/
def parameterLine (first second : Port) : Line := { fd := 3, reactions := [⟨6, first⟩, ⟨6, second⟩] }

def firstRequest (arrivals left : Port) : Exchange :=
  ⟨[stx, 0x58, 0x4c, 0x31, etx, 0x26], 6, arrivals, some left⟩

def secondRequest (arrivals left : Port) : Exchange :=
  ⟨[stx, 0x58, 0x4c, 0x32, etx, 0x25], 6, arrivals, some left⟩

def firstReply : Port := (parameterReplies 0).map (.item · true)

def secondReply : Port := (parameterReplies 1).map (.item · true)

/-- Both replies in time. -/
theorem requests_in_time : ∃ line₁ line₂,
    (drivePort (parameterLine firstReply secondReply)).Run [.readParameter 1 0] line₁ ∧
      (Call.readParameter 2 0).run line₁ = .ok (0, line₂) ∧
      exchanges line₁.log = [firstRequest firstReply []] ∧
      exchanges line₂.log = [firstRequest firstReply []] ++ [secondRequest secondReply []] :=
  let line := (Call.readParameter 1 0).after (parameterLine firstReply secondReply)
  ⟨line, (Call.readParameter 2 0).after line, run_after (by decide +kernel), by decide +kernel,
    by decide +kernel, by decide +kernel⟩

/-- The second reply is what is accepted for the second request. -/
theorem accepted_reply_in_time :
    accepted parameterReplies (account parameterReplies [firstRequest firstReply []])
        (secondRequest secondReply []) = (parameterReplies 1).map (1, ·) := by
  obtain ⟨line₁, line₂, hrun, hcall, hlog₁, hlog₂⟩ := requests_in_time
  have hanswered : Answered parameterReplies {} (exchanges line₂.log) := by
    rw [hlog₂]
    exact ⟨⟨fun _ => answers_parameterReplies (by decide) 0, by decide +kernel⟩,
      ⟨fun _ => answers_parameterReplies (by decide) 1, by decide +kernel⟩, trivial⟩
  exact (accepted_reply_iff _ _ _ _ _ _ _ _ _ rfl hrun hcall hanswered hlog₂
    (by rw [hlog₁])).2.1 (by decide +kernel) (by decide +kernel)

/-- The first reply too late. -/
theorem requests_late : ∃ line₁ line₂,
    (drivePort (parameterLine (.timeout :: firstReply) (firstReply ++ secondReply))).Run
        [.readParameter 1 0] line₁ ∧
      Drive.drvmReadParameter line₁ 2 0 = .ok (0, 7, line₂) ∧
      exchanges line₂.log = [firstRequest (.timeout :: firstReply) firstReply,
        secondRequest (firstReply ++ secondReply) secondReply] :=
  let line := (Call.readParameter 1 0).after
    (parameterLine (.timeout :: firstReply) (firstReply ++ secondReply))
  ⟨line, (Call.readParameter 2 0).after line, run_after (by decide +kernel), by decide +kernel,
    by decide +kernel⟩

/--
The first reply comes when its call has given up, and the second call (number 1, the first one being
number 0) takes it for its own: it reports that the second parameter is 7.
-/
theorem accepted_reply_late : ∃ line₁ line₂ e₁ e₂,
    (drivePort (parameterLine (.timeout :: firstReply) (firstReply ++ secondReply))).Run
        [.readParameter 1 0] line₁ ∧
      Drive.drvmReadParameter line₁ 2 0 = .ok (0, 7, line₂) ∧
      exchanges line₂.log = [e₁, e₂] ∧ Answered parameterReplies {} (exchanges line₂.log) ∧
      ¬ Queue.Own 1 (accepted parameterReplies (account parameterReplies [e₁]) e₂) := by
  obtain ⟨line₁, line₂, hrun, hcall, hlog⟩ := requests_late
  refine ⟨line₁, line₂, _, _, hrun, hcall, hlog, ?_, by decide +kernel⟩
  rw [hlog]
  exact ⟨⟨fun _ => answers_parameterReplies (by decide) 0, by decide +kernel⟩,
    ⟨fun _ => answers_parameterReplies (by decide) 1, by decide +kernel⟩, trivial⟩

end Tetra.Serial
