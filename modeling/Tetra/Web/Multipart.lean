import Tetra.Web.Connection
import Tetra.Web.Reply

/-!
# Video streams

`MultipartStream` sends an image as a part: a header with its length, the image, and a boundary. Each
of these is a call of `HttpConnection::write`, and the connection goes on in between. If
`max_queue_size_` parts of the last half second are still on their way, an image is dropped.

* `parts_separate`: a client can tell the parts apart, whatever bytes the images have.
* `stream_parts`: in every run, the client gets whole parts, in order, up to where it has got.
* `queue_bound`: in every run, at most `max_queue_size_` parts of the last half second are on their way.

A clock value is in nanoseconds.
-/

namespace Tetra.Web

open Scanner ConnectionWriter WriteCall Decimal

/-- What is in a part: the text of the time, the type and the image. -/
structure Part where
  stamp : List UInt8
  type : List UInt8
  data : List UInt8
  deriving DecidableEq, Repr

/-- Which object a shared pointer is to: the footer of the part with a number, or another one. -/
inductive Resource
  | content
  | footer (part : Nat)
  deriving DecidableEq, Repr

/-- The headers of `send_part_header`. -/
def Part.headers (p : Part) : List HttpHeader :=
  [⟨text "Content-type", p.type⟩, ⟨text "X-Timestamp", p.stamp⟩,
    ⟨text "Content-Length", numeral p.data.length⟩]

section Stream

variable (boundary : List UInt8)

/-- The headers of `send_initial_header`. -/
def initialHeaders : List HttpHeader :=
  [⟨text "Connection", text "close"⟩, ⟨text "Server", text "web_video_server"⟩,
    ⟨text "Cache-Control",
      text "no-cache, no-store, must-revalidate, pre-check=0, post-check=0, max-age=0"⟩,
    ⟨text "Pragma", text "no-cache"⟩,
    ⟨text "Content-type", text "multipart/x-mixed-replace;boundary=" ++ boundary⟩,
    ⟨text "Access-Control-Allow-Origin", text "*"⟩]

/-- The calls of `send_initial_header`. -/
def initialCalls : List (WriteCall Resource) :=
  [([StatusType.ok.buffer], none), (toBuffers (initialHeaders boundary), some .content),
    ([text "--" ++ boundary ++ [cr, lf]], some .content)]

/-- The text of `send_part_footer`. -/
def footerText : List UInt8 := [cr, lf] ++ text "--" ++ boundary ++ [cr, lf]

/-- The call of `send_part_header`. -/
def Part.headerCall (p : Part) : WriteCall Resource := (toBuffers p.headers, some .content)

def Part.dataCall (p : Part) : WriteCall Resource := ([p.data], some .content)

/-- The call of `send_part_footer` for the part with a number. -/
def footerCall (number : Nat) : WriteCall Resource := ([footerText boundary], some (.footer number))

/-- The bytes of a part. -/
def Part.render (p : Part) : List UInt8 :=
  (toBuffers p.headers).flatten ++ (p.data ++ footerText boundary)

/-- `MultipartStream` with its connection, and the rest of a call of it: what it is still to write, and
the footer that is to be remembered then. -/
structure MultipartStream where
  connection : ConnectionWriter Resource := {}
  pendingFooters : List (Int × Nat) := []
  toWrite : List (WriteCall Resource × Option (Int × Nat))
  /-- How many parts have not been dropped. -/
  parts : Nat := 0
  /-- The clock when it was read last. -/
  clock : Int

inductive StreamEvent
  /-- `send_part` or `send_part_and_clear` is called, when the clock is at `now`. -/
  | sendPart (now time : Int) (p : Part)
  /-- The next call of `write`. -/
  | write
  /-- The connection goes on. -/
  | connection (e : WriteEvent Resource)

namespace MultipartStream

/-- `contents.expired()` -/
def expired (s : MultipartStream) (footer : Int × Nat) : Bool :=
  !(s.connection.pendingWriteResources.contains (.footer footer.2) ||
    s.connection.operations.any fun op => op.resources.contains (.footer footer.2))

/-- Half a second. -/
def halfSecond : Int := 500000000

/-- The footers that `is_busy` leaves in the queue. -/
def remaining (s : MultipartStream) (now : Int) : List (Int × Nat) :=
  s.pendingFooters.dropWhile fun f => s.expired f || halfSecond < now - f.1

variable (maxQueueSize : Nat)

/-- What `is_busy` answers, when these footers are left. -/
def isBusy (footers : List (Int × Nat)) : Bool := maxQueueSize ≠ 0 && maxQueueSize ≤ footers.length

/-- One step. The streamer calls `send_part` under a mutex; the clock does not go back. -/
def step (s : MultipartStream) : StreamEvent → Option MultipartStream
  | .sendPart now time p =>
    if s.toWrite ≠ [] ∨ now < s.clock then none
    else
      let s := { s with pendingFooters := s.remaining now, clock := now }
      if isBusy maxQueueSize s.pendingFooters then some s
      else
        some { s with
          parts := s.parts + 1
          toWrite := [(p.headerCall, none), (p.dataCall, none),
            (footerCall boundary s.parts, some (time, s.parts))] }
  | .write =>
    match s.toWrite with
    | [] => none
    | (call, footer) :: toWrite =>
      let connection := s.connection.write call.1 call.2
      -- an exception leaves `send_part`
      if s.connection.throws then some { s with connection, toWrite := [] }
      else
        some { s with
          connection, toWrite
          pendingFooters := s.pendingFooters ++ if 0 < maxQueueSize then footer.toList else [] }
  | .connection (.write _ _) => none
  | .connection e => (s.connection.step e).map fun connection => { s with connection }

/-- A new stream, whose initial header is to be written. -/
def machine (clock : Int) : Machine MultipartStream StreamEvent where
  init := { toWrite := (initialCalls boundary).map (·, none), clock }
  step := step boundary maxQueueSize

/-! ## What happens in a run -/

/-- The calls of `write` that have returned, the parts that were not dropped, and the footers that have
been written. -/
structure Record where
  calls : List (WriteCall Resource) := []
  parts : List Part := []
  footers : List (Int × Nat) := []

def record (s : MultipartStream) (e : StreamEvent) (g : Record) : Record :=
  match e with
  | .sendPart now _ p =>
    if isBusy maxQueueSize (s.remaining now) then g else { g with parts := g.parts ++ [p] }
  | .write =>
    match s.toWrite with
    | [] => g
    | (call, footer) :: _ =>
      if s.connection.throws then g
      else { g with calls := g.calls ++ [call], footers := g.footers ++ footer.toList }
  | .connection _ => g

abbrev recorded (clock : Int) : Machine (MultipartStream × Record) StreamEvent :=
  (machine boundary maxQueueSize clock).recording {} (record maxQueueSize)

/-- The calls for whole parts. -/
def callsOf (parts : List Part) : List (WriteCall Resource) :=
  initialCalls boundary ++
    parts.zipIdx.flatMap fun p => [p.1.headerCall, p.1.dataCall, footerCall boundary p.2]

variable {boundary} {maxQueueSize} {s s' : MultipartStream} {g : Record} {es : List StreamEvent}
  {clock : Int}

theorem callsOf_concat (parts : List Part) (p : Part) :
    callsOf boundary (parts ++ [p]) = callsOf boundary parts ++
      [p.headerCall, p.dataCall, footerCall boundary parts.length] := by
  simp [callsOf, List.zipIdx_append]

theorem bytes_callsOf (parts : List Part) :
    bytes (callsOf boundary parts) =
      bytes (initialCalls boundary) ++ parts.flatMap (Part.render boundary) := by
  induction parts using List.reverseRecOn with
  | nil => simp [callsOf]
  | append_singleton parts p ih =>
    rw [callsOf_concat, bytes_append, ih, List.flatMap_append, List.flatMap_singleton, List.append_assoc]
    congr 2
    simp [bytes, Part.headerCall, Part.dataCall, footerCall, Part.render]

/-! ## What a step does -/

theorem step_sendPart {now time : Int} {p : Part}
    (h : step boundary maxQueueSize s (.sendPart now time p) = some s') :
    s.toWrite = [] ∧ s.clock ≤ now ∧
      (isBusy maxQueueSize (s.remaining now) = true ∧
          s' = { s with pendingFooters := s.remaining now, clock := now } ∨
        isBusy maxQueueSize (s.remaining now) = false ∧
          s' = { s with
            pendingFooters := s.remaining now
            clock := now
            parts := s.parts + 1
            toWrite := [(p.headerCall, none), (p.dataCall, none),
              (footerCall boundary s.parts, some (time, s.parts))] }) := by
  simp only [step] at h
  split at h
  · cases h
  · next henabled =>
    obtain ⟨hidle, hclock⟩ := not_or.mp henabled
    refine ⟨not_not.mp hidle, Int.not_lt.mp hclock, ?_⟩
    split at h
    · next hbusy => exact .inl ⟨hbusy, (Option.some.inj h).symm⟩
    · next hbusy => exact .inr ⟨by simpa using hbusy, (Option.some.inj h).symm⟩

theorem step_write (h : step boundary maxQueueSize s .write = some s') :
    ∃ call footer toWrite, s.toWrite = (call, footer) :: toWrite ∧
      (s.connection.throws = true ∧
          s' = { s with connection := s.connection.write call.1 call.2, toWrite := [] } ∨
        s.connection.throws = false ∧
          s' = { s with
            connection := s.connection.write call.1 call.2
            toWrite
            pendingFooters := s.pendingFooters ++ if 0 < maxQueueSize then footer.toList else [] }) := by
  simp only [step] at h
  split at h
  · cases h
  · next call footer toWrite hto =>
    refine ⟨call, footer, toWrite, hto, ?_⟩
    split at h
    · next hthrows => exact .inl ⟨hthrows, (Option.some.inj h).symm⟩
    · next hthrows => exact .inr ⟨by simpa using hthrows, (Option.some.inj h).symm⟩

theorem step_connection {e : WriteEvent Resource}
    (h : step boundary maxQueueSize s (.connection e) = some s') :
    (∀ buffers resource, e ≠ .write buffers resource) ∧
      ∃ c, s.connection.step e = some c ∧ s' = { s with connection := c } := by
  cases e with
  | write buffers resource => cases h
  | transfer | handleWrite | readError =>
    refine ⟨nofun, ?_⟩
    simp only [step, Option.map_eq_some_iff] at h
    obtain ⟨c, hc, hs⟩ := h
    exact ⟨c, hc, hs.symm⟩

/-! ## Whole parts -/

/-- What has been written, and what is still to write. -/
structure Written (boundary : List UInt8) (s : MultipartStream) (g : Record) : Prop where
  placed : ∃ done flying waiting, Placed s.connection g.calls done flying waiting
  parts : s.parts = g.parts.length
  calls : s.connection.throws = true ∧ g.calls <+: callsOf boundary g.parts ∨
    g.calls ++ s.toWrite.map Prod.fst = callsOf boundary g.parts

variable (maxQueueSize clock) in
theorem written_init : Written boundary (machine boundary maxQueueSize clock).init {} where
  placed := ⟨[], [], [], placed_init⟩
  parts := rfl
  calls := .inr (by simp [machine, callsOf, Function.comp_def])

theorem Written.step {e : StreamEvent} (hw : Written boundary s g)
    (h : step boundary maxQueueSize s e = some s') : Written boundary s' (record maxQueueSize s e g) := by
  obtain ⟨done, flying, waiting, hp⟩ := hw.placed
  cases e with
  | sendPart now time p =>
    obtain ⟨hidle, -, ⟨hbusy, rfl⟩ | ⟨hbusy, rfl⟩⟩ := step_sendPart h
    · simp only [record, hbusy, if_true]
      exact ⟨hw.placed, hw.parts, hw.calls⟩
    · simp only [record, hbusy, Bool.false_eq_true, if_false]
      refine ⟨hw.placed, by simp [hw.parts], ?_⟩
      simp only [callsOf_concat]
      rcases hw.calls with ⟨hthrows, hbegin⟩ | hcalls
      · exact .inl ⟨hthrows, hbegin.trans (List.prefix_append _ _)⟩
      · rw [hidle, List.map_nil, List.append_nil] at hcalls
        exact .inr (by simp [hcalls, hw.parts])
  | write =>
    obtain ⟨call, footer, toWrite, hto, ⟨hthrows, rfl⟩ | ⟨hthrows, rfl⟩⟩ := step_write h
    · have hstep : s.connection.step (.write call.1 call.2) =
          some (s.connection.write call.1 call.2) := rfl
      simp only [record, hto, hthrows, if_true]
      obtain ⟨hthrows', hrecord⟩ := throws_step hp hthrows hstep
      obtain ⟨done', flying', waiting', hp'⟩ := hp.step hstep
      rw [hrecord] at hp'
      refine ⟨⟨_, _, _, hp'⟩, hw.parts, .inl ⟨hthrows', ?_⟩⟩
      rcases hw.calls with ⟨-, hbegin⟩ | hcalls
      · exact hbegin
      · exact ⟨_, hcalls⟩
    · have hwrite : ∃ done flying waiting, Placed (s.connection.write call.1 call.2)
          (WriteCall.record s.connection (.write call.1 call.2) g.calls) done flying waiting := hp.write
      obtain ⟨done', flying', waiting', hp'⟩ := hwrite
      rw [WriteCall.record, hthrows] at hp'
      simp only [record, hto, hthrows, Bool.false_eq_true, if_false]
      refine ⟨⟨_, _, _, hp'⟩, hw.parts, .inr ?_⟩
      rcases hw.calls with ⟨habsurd, -⟩ | hcalls
      · rw [hthrows] at habsurd
        cases habsurd
      · rw [← hcalls, hto]
        simp
  | connection e =>
    obtain ⟨hnot, c, hc, rfl⟩ := step_connection h
    obtain ⟨done', flying', waiting', hp'⟩ := hp.step hc
    have hrecord : WriteCall.record s.connection e g.calls = g.calls := by
      cases e with
      | write b r => exact absurd rfl (hnot b r)
      | transfer | handleWrite | readError => rfl
    rw [hrecord] at hp'
    refine ⟨⟨_, _, _, hp'⟩, hw.parts, ?_⟩
    rcases hw.calls with ⟨hthrows, hbegin⟩ | hcalls
    · exact .inl ⟨(throws_step hp hthrows hc).1, hbegin⟩
    · exact .inr hcalls

theorem run_written (hr : (recorded boundary maxQueueSize clock).Run es (s, g)) :
    Written boundary s g :=
  hr.invariant (I := fun t => Written boundary t.1 t.2) (written_init maxQueueSize clock)
    fun hw hs _ => by
      obtain ⟨hstep, hrecord⟩ := Machine.recording_step.mp hs
      rw [hrecord]
      exact hw.step hstep

/--
**The client gets whole parts.** However the connection and the calls of `send_part` come about, the
client has got the beginning of the initial header and the parts that were not dropped, in their order;
and it has got all of it when nothing is left to write, no operation is under way and there was no error.
-/
theorem stream_parts (hr : (recorded boundary maxQueueSize clock).Run es (s, g)) :
    s.connection.socket <+:
        bytes (initialCalls boundary) ++ g.parts.flatMap (Part.render boundary) ∧
      (s.toWrite = [] → s.connection.operations = [] → s.connection.lastError = false →
        s.connection.socket =
          bytes (initialCalls boundary) ++ g.parts.flatMap (Part.render boundary)) := by
  have hw := run_written hr
  obtain ⟨done, flying, waiting, hp⟩ := hw.placed
  obtain ⟨-, hsocket, hall⟩ := hp.socket
  rw [← bytes_callsOf]
  have hbegin : bytes g.calls <+: bytes (callsOf boundary g.parts) := by
    rcases hw.calls with ⟨-, rest, hrest⟩ | hcalls
    · exact ⟨bytes rest, by rw [← hrest, bytes_append]⟩
    · exact ⟨bytes (s.toWrite.map Prod.fst), by rw [← hcalls, bytes_append]⟩
  refine ⟨hsocket.trans hbegin, ?_⟩
  intro hidle hops herror
  rw [hall hops herror]
  rcases hw.calls with ⟨hthrows, -⟩ | hcalls
  · simp [throws, herror] at hthrows
  · rw [← hcalls, hidle, List.map_nil, List.append_nil]

/-- The initial header and a part, while the socket has taken five bytes. -/
theorem stream_parts_part :
    ∃ t, (recorded [98] 1 0).Run [.write, .write, .write, .connection (.transfer 0 5),
        .sendPart 3 3 ⟨[49], [105], [7]⟩, .write, .write, .write] t ∧
      t.1.connection.socket <+: bytes (initialCalls [98]) ++ t.2.parts.flatMap (Part.render [98]) := by
  have hexec : ∃ t, (recorded [98] 1 0).exec [.write, .write, .write, .connection (.transfer 0 5),
      .sendPart 3 3 ⟨[49], [105], [7]⟩, .write, .write, .write] = some t := ⟨_, rfl⟩
  obtain ⟨t, ht⟩ := hexec
  have hrun := Machine.run_of_exec ht
  exact ⟨t, hrun, (stream_parts hrun).1⟩

/-! ## The queue -/

theorem expired_iff {f : Int × Nat} : s.expired f = true ↔ ¬ s.connection.Holds (.footer f.2) := by
  simp [expired, Holds]

/-- A footer that has been released stays released. -/
theorem expired_of_step {f : Int × Nat} {e : WriteEvent Resource} {c : ConnectionWriter Resource}
    (h : s.connection.step e = some c) (hf : s.expired f = true)
    (hne : ∀ buffers, e ≠ .write buffers (some (.footer f.2))) :
    { s with connection := c }.expired f = true := by
  rw [expired_iff] at hf ⊢
  intro hholds
  rcases holds_of_step h hholds with hbefore | ⟨buffers, he⟩
  · exact hf hbefore
  · exact hne buffers he

/-- A call of `write` that is not for a footer. -/
def Plain (w : WriteCall Resource × Option (Int × Nat)) : Prop :=
  w.2 = none ∧ ∀ k, w.1.2 ≠ some (.footer k)

/-- What is still to write: nothing with a footer, or the rest of the last part. -/
inductive Plan (boundary : List UInt8) (maxQueueSize : Nat) (s : MultipartStream)
    (footers : List (Int × Nat)) : Prop
  | plain (plain : ∀ w ∈ s.toWrite, Plain w) (bound : s.pendingFooters.length ≤ maxQueueSize)
  | part (ws : List (WriteCall Resource × Option (Int × Nat))) (time : Int) (k : Nat)
      (toWrite : s.toWrite = ws ++ [(footerCall boundary k, some (time, k))])
      (plain : ∀ w ∈ ws, Plain w) (number : k + 1 = s.parts) (before : ∀ f ∈ footers, f.2 < k)
      (bound : s.pendingFooters.length < maxQueueSize)

/-- The footers that have been written. -/
structure Queued (boundary : List UInt8) (maxQueueSize : Nat) (s : MultipartStream) (g : Record) :
    Prop where
  /-- Those that are not in the queue have been released or are old. -/
  footers : ∃ released, g.footers = released ++ s.pendingFooters ∧
    ∀ f ∈ released, s.expired f = true ∨ halfSecond < s.clock - f.1
  numbers : ∀ f ∈ g.footers, f.2 < s.parts
  sent : ∀ f ∈ g.footers, callsOf boundary (g.parts.take (f.2 + 1)) <+: g.calls
  plan : Plan boundary maxQueueSize s g.footers

theorem Plan.length_le {footers : List (Int × Nat)} (h : Plan boundary maxQueueSize s footers) :
    s.pendingFooters.length ≤ maxQueueSize := by
  cases h with
  | plain _ bound => exact bound
  | part _ _ _ _ _ _ _ bound => exact bound.le

/-- The next call is not for a footer that has been written. -/
theorem Plan.fresh {footers : List (Int × Nat)} (h : Plan boundary maxQueueSize s footers)
    {call : WriteCall Resource} {footer : Option (Int × Nat)}
    {rest : List (WriteCall Resource × Option (Int × Nat))} (hto : s.toWrite = (call, footer) :: rest) :
    ∀ f ∈ footers, call.2 ≠ some (.footer f.2) := by
  intro f hf
  cases h with
  | plain plain =>
    rw [hto] at plain
    exact (plain _ List.mem_cons_self).2 f.2
  | part ws time k toWrite plain number before =>
    rw [hto] at toWrite
    cases ws with
    | nil =>
      obtain ⟨hcall, -⟩ := List.cons.inj toWrite
      obtain ⟨rfl, -⟩ := Prod.mk.inj hcall
      have := before f hf
      rw [footerCall, ne_eq, Option.some.injEq, Resource.footer.injEq]
      omega
    | cons w ws =>
      obtain ⟨rfl, -⟩ := List.cons.inj toWrite
      exact (plain _ List.mem_cons_self).2 f.2

theorem queued_init : Queued boundary maxQueueSize (machine boundary maxQueueSize clock).init {} where
  footers := ⟨[], rfl, by simp⟩
  numbers := by simp
  sent := by simp
  plan := by
    refine .plain ?_ (Nat.zero_le _)
    intro w hw
    obtain ⟨call, hcall, rfl⟩ := List.mem_map.mp hw
    refine ⟨rfl, ?_⟩
    intro k
    rw [initialCalls, List.mem_cons, List.mem_cons, List.mem_singleton] at hcall
    rcases hcall with rfl | rfl | rfl <;> simp

theorem Queued.sendPart (hpos : 0 < maxQueueSize) (hw : Written boundary s g)
    (hq : Queued boundary maxQueueSize s g) {now time : Int} {p : Part}
    (h : step boundary maxQueueSize s (.sendPart now time p) = some s') :
    Queued boundary maxQueueSize s' (record maxQueueSize s (.sendPart now time p) g) := by
  obtain ⟨hidle, hclock, hcases⟩ := step_sendPart h
  obtain ⟨released, hfooters, hreleased⟩ := hq.footers
  -- the footers that `is_busy` takes out of the queue
  have hpopped : ∃ released, g.footers = released ++ s.remaining now ∧
      ∀ f ∈ released, s.expired f = true ∨ halfSecond < now - f.1 := by
    refine ⟨released ++ s.pendingFooters.takeWhile fun f => s.expired f || halfSecond < now - f.1, ?_, ?_⟩
    · rw [hfooters, List.append_assoc, remaining, List.takeWhile_append_dropWhile]
    · intro f hf
      rcases List.mem_append.mp hf with hf | hf
      · rcases hreleased f hf with hexpired | hold
        · exact .inl hexpired
        · exact .inr (by omega)
      · simpa using List.all_eq_true.mp List.all_takeWhile f hf
  have hlength : (s.remaining now).length ≤ maxQueueSize :=
    (List.dropWhile_sublist _).length_le.trans hq.plan.length_le
  rcases hcases with ⟨hbusy, rfl⟩ | ⟨hbusy, rfl⟩
  · simp only [record, hbusy, if_true]
    exact ⟨hpopped, hq.numbers, hq.sent, .plain (by simp [hidle]) hlength⟩
  · simp only [record, hbusy, Bool.false_eq_true, if_false]
    have hlt : (s.remaining now).length < maxQueueSize := by
      simp only [isBusy, Bool.and_eq_false_iff, decide_eq_false_iff_not] at hbusy
      omega
    refine ⟨hpopped, fun f hf => Nat.lt_succ_of_lt (hq.numbers f hf), ?_, ?_⟩
    · intro f hf
      have hnumber := hq.numbers f hf
      rw [hw.parts] at hnumber
      rw [List.take_append_of_le_length (by omega)]
      exact hq.sent f hf
    · refine .part [(p.headerCall, none), (p.dataCall, none)] time s.parts rfl ?_ rfl hq.numbers hlt
      intro w hw
      rw [List.mem_cons, List.mem_singleton] at hw
      rcases hw with rfl | rfl
      · exact ⟨rfl, nofun⟩
      · exact ⟨rfl, nofun⟩

theorem Queued.write (hpos : 0 < maxQueueSize) (hw : Written boundary s g)
    (hq : Queued boundary maxQueueSize s g) (h : step boundary maxQueueSize s .write = some s') :
    Queued boundary maxQueueSize s' (record maxQueueSize s .write g) := by
  obtain ⟨call, footer, toWrite, hto, hcases⟩ := step_write h
  obtain ⟨released, hfooters, hreleased⟩ := hq.footers
  have hfresh := hq.plan.fresh hto
  have hreleased' : ∀ f ∈ released,
      { s with connection := s.connection.write call.1 call.2 }.expired f = true ∨
        halfSecond < s.clock - f.1 := by
    intro f hf
    rcases hreleased f hf with hexpired | hold
    · refine .inl (expired_of_step (e := .write call.1 call.2) rfl hexpired fun buffers heq => ?_)
      obtain ⟨-, hresource⟩ := WriteEvent.write.inj heq
      exact hfresh f (by simp [hfooters, hf]) hresource
    · exact .inr hold
  rcases hcases with ⟨hthrows, rfl⟩ | ⟨hthrows, rfl⟩
  · simp only [record, hto, hthrows, if_true]
    exact ⟨⟨released, hfooters, hreleased'⟩, hq.numbers, hq.sent, .plain (by simp) hq.plan.length_le⟩
  · simp only [record, hto, hthrows, Bool.false_eq_true, if_false, if_pos hpos]
    have hsent : ∀ f ∈ g.footers, callsOf boundary (g.parts.take (f.2 + 1)) <+: g.calls ++ [call] :=
      fun f hf => (hq.sent f hf).trans (List.prefix_append _ _)
    have hplain : footer = none → Plan boundary maxQueueSize
        { s with
          connection := s.connection.write call.1 call.2
          toWrite
          pendingFooters := s.pendingFooters ++ footer.toList } g.footers →
        Queued boundary maxQueueSize
          { s with
            connection := s.connection.write call.1 call.2
            toWrite
            pendingFooters := s.pendingFooters ++ footer.toList }
          { g with calls := g.calls ++ [call], footers := g.footers ++ footer.toList } := by
      rintro rfl hplan
      refine ⟨⟨released, by simp [hfooters], hreleased'⟩, ?_, ?_, ?_⟩
      · simpa using hq.numbers
      · simpa using hsent
      · simpa using hplan
    cases hplan : hq.plan with
    | plain plain bound =>
      rw [hto, List.forall_mem_cons] at plain
      obtain ⟨⟨hnone, -⟩, hrest⟩ := plain
      exact hplain hnone (.plain hrest (by simpa [show footer = none from hnone] using bound))
    | part ws time k hws plain number before bound =>
      rw [hto] at hws
      cases ws with
      | cons w ws =>
        obtain ⟨rfl, rfl⟩ := List.cons.inj hws
        obtain ⟨⟨hnone, -⟩, hrest⟩ := List.forall_mem_cons.mp plain
        exact hplain hnone (.part ws time k rfl hrest number before
          (by simpa [show footer = none from hnone] using bound))
      | nil =>
        -- the footer of the last part
        obtain ⟨hcall, rfl⟩ := List.cons.inj hws
        obtain ⟨rfl, rfl⟩ := Prod.mk.inj hcall
        have hlast : ∀ f ∈ g.footers ++ [(time, k)], f ∈ g.footers ∨ f = (time, k) := by
          intro f hf
          rcases List.mem_append.mp hf with hf | hf
          · exact .inl hf
          · exact .inr (List.mem_singleton.mp hf)
        refine ⟨⟨released, by simp [hfooters], hreleased'⟩, fun f hf => ?_, fun f hf => ?_, ?_⟩
        · rcases hlast f hf with hf | rfl
          · exact hq.numbers f hf
          · show k < s.parts
            omega
        · rcases hlast f hf with hf | rfl
          · exact hsent f hf
          · rcases hw.calls with ⟨habsurd, -⟩ | hcalls
            · rw [hthrows] at habsurd
              cases habsurd
            · rw [hto, List.map_cons, List.map_nil] at hcalls
              rw [show k + 1 = g.parts.length by rw [number, hw.parts], List.take_length, ← hcalls]
        · exact .plain (by simp) (by simpa using bound)

theorem Queued.connection (hq : Queued boundary maxQueueSize s g)
    {e : WriteEvent Resource} (h : step boundary maxQueueSize s (.connection e) = some s') :
    Queued boundary maxQueueSize s' g := by
  obtain ⟨hnot, c, hc, rfl⟩ := step_connection h
  obtain ⟨released, hfooters, hreleased⟩ := hq.footers
  refine ⟨⟨released, hfooters, ?_⟩, hq.numbers, hq.sent, ?_⟩
  · intro f hf
    rcases hreleased f hf with hexpired | hold
    · exact .inl (expired_of_step hc hexpired fun buffers => hnot buffers _)
    · exact .inr hold
  · cases hq.plan with
    | plain plain bound => exact .plain plain bound
    | part ws time k hws plain number before bound => exact .part ws time k hws plain number before bound

theorem run_queued (hpos : 0 < maxQueueSize)
    (hr : (recorded boundary maxQueueSize clock).Run es (s, g)) : Queued boundary maxQueueSize s g := by
  have hboth := hr.invariant
    (I := fun t => Written boundary t.1 t.2 ∧ Queued boundary maxQueueSize t.1 t.2)
    ⟨written_init maxQueueSize clock, queued_init⟩ fun {t e t'} ⟨hw, hq⟩ hs _ => by
      obtain ⟨hstep, hrecord⟩ := Machine.recording_step.mp hs
      rw [hrecord]
      refine ⟨hw.step hstep, ?_⟩
      cases e with
      | sendPart now time p => exact hq.sendPart hpos hw hstep
      | write => exact hq.write hpos hw hstep
      | connection e => exact hq.connection hstep
  exact hboth.2

/-- The client has not got all of the part with a number. -/
def onItsWay (boundary : List UInt8) (s : MultipartStream) (parts : List Part) (number : Nat) : Bool :=
  s.connection.socket.length <
    (bytes (initialCalls boundary) ++ (parts.take (number + 1)).flatMap (Part.render boundary)).length

/-- A part that is on its way is still held. -/
theorem not_expired_of_onItsWay (hw : Written boundary s g) (hq : Queued boundary maxQueueSize s g)
    (hthrows : s.connection.throws = false) {f : Int × Nat} (hf : f ∈ g.footers)
    (hway : onItsWay boundary s g.parts f.2 = true) : s.expired f = false := by
  obtain ⟨done, flying, waiting, hp⟩ := hw.placed
  obtain ⟨after, hafter⟩ := hq.sent f hf
  have hnumber : f.2 < g.parts.length := hw.parts ▸ hq.numbers f hf
  have hcalls : callsOf boundary (g.parts.take (f.2 + 1)) =
      callsOf boundary (g.parts.take f.2) ++ [g.parts[f.2].headerCall, g.parts[f.2].dataCall] ++
        [footerCall boundary f.2] := by
    rw [List.take_succ_eq_append_getElem hnumber, callsOf_concat, List.length_take_of_le hnumber.le]
    simp
  have hlength : s.connection.socket.length <
      (bytes (callsOf boundary (g.parts.take (f.2 + 1)))).length := by
    rw [bytes_callsOf]
    simpa [onItsWay] using hway
  have hholds : s.connection.Holds (.footer f.2) := by
    rw [hcalls] at hlength hafter
    have hsplit : g.calls = callsOf boundary (g.parts.take f.2) ++
        [g.parts[f.2].headerCall, g.parts[f.2].dataCall] ++ footerCall boundary f.2 :: after := by
      rw [← hafter, List.append_assoc _ [footerCall boundary f.2], List.singleton_append]
    exact hp.held hsplit hlength hthrows
  simpa using mt expired_iff.mp (not_not.mpr hholds)

/--
**The queue is bounded.** In every run, unless the connection has failed, at most `max_queue_size_` of
the parts that are written and not older than half a second are still on their way to the client.
-/
theorem queue_bound (hpos : 0 < maxQueueSize)
    (hr : (recorded boundary maxQueueSize clock).Run es (s, g))
    (hthrows : s.connection.throws = false) {now : Int} (hnow : s.clock ≤ now) :
    (g.footers.filter fun f =>
      onItsWay boundary s g.parts f.2 && now - f.1 ≤ halfSecond).length ≤ maxQueueSize := by
  have hw := run_written hr
  have hq := run_queued hpos hr
  obtain ⟨released, hfooters, hreleased⟩ := hq.footers
  have hnone : released.filter (fun f =>
      onItsWay boundary s g.parts f.2 && now - f.1 ≤ halfSecond) = [] := by
    rw [List.filter_eq_nil_iff]
    intro f hf hboth
    obtain ⟨hway, hyoung⟩ := Bool.and_eq_true_iff.mp hboth
    have hyoung : now - f.1 ≤ halfSecond := by simpa using hyoung
    rcases hreleased f hf with hexpired | hold
    · have hmem : f ∈ g.footers := by simp [hfooters, hf]
      rw [not_expired_of_onItsWay hw hq hthrows hmem hway] at hexpired
      cases hexpired
    · omega
  rw [hfooters, List.filter_append, hnone, List.nil_append]
  exact (List.length_filter_le _ _).trans hq.plan.length_le

/-- A second image right behind the first one is dropped. -/
theorem queue_bound_dropped :
    ∃ t, (recorded [98] 1 0).Run [.write, .write, .write, .sendPart 3 3 ⟨[49], [105], [7]⟩, .write, .write,
        .write, .sendPart 4 4 ⟨[49], [105], [8]⟩] t ∧
      (t.2.footers.filter fun f =>
        onItsWay [98] t.1 t.2.parts f.2 && 4 - f.1 ≤ halfSecond).length ≤ 1 := by
  have hexec : ∃ t, (recorded [98] 1 0).exec [.write, .write, .write,
      .sendPart 3 3 ⟨[49], [105], [7]⟩, .write, .write, .write, .sendPart 4 4 ⟨[49], [105], [8]⟩] =
        some t ∧ t.1.connection.throws = false ∧ t.1.clock = 4 := ⟨_, rfl, rfl, rfl⟩
  obtain ⟨t, ht, hthrows, hclock⟩ := hexec
  have hrun := Machine.run_of_exec ht
  exact ⟨t, hrun, queue_bound Nat.zero_lt_one hrun hthrows hclock.le⟩

end MultipartStream

/-! ## Parts can be told apart -/

variable {boundary} {p q : Part} {ps qs : List Part} {rest rest' : List UInt8}

/-- The type and the time of a part do not end their line. -/
def Part.Valid (p : Part) : Prop := (∀ c ∈ p.type, ¬ isCtl c) ∧ ∀ c ∈ p.stamp, ¬ isCtl c

theorem Part.Valid.headers (h : p.Valid) : ∀ header ∈ p.headers, header.item.Valid := by
  intro header hheader
  rw [Part.headers, List.mem_cons, List.mem_cons, List.mem_singleton] at hheader
  rcases hheader with rfl | rfl | rfl
  · exact item_valid (by decide +kernel) h.1
  · exact item_valid (by decide +kernel) h.2
  · exact item_valid (by decide +kernel) not_isCtl_numeral

theorem eq_of_render_append (hp : p.Valid) (hq : q.Valid)
    (h : p.render boundary ++ rest = q.render boundary ++ rest') : p = q ∧ rest = rest' := by
  -- the header of both is read back from the same bytes
  have hscan : ∀ {p : Part} {rest : List UInt8}, p.Valid →
      scan RequestReader.consume (inState .headerLineStart {}) (p.render boundary ++ rest) =
        (.accept, inState .expectingNewline3 { headers := p.headers },
          p.data ++ footerText boundary ++ rest) := by
    intro p rest hvalid
    rw [Part.render, List.append_assoc]
    exact scan_toBuffers hvalid.headers _
  have hboth := @hscan p rest hp
  rw [h, hscan hq] at hboth
  simp only [Prod.mk.injEq, RequestReader.mk.injEq, HttpRequest.mk.injEq, Part.headers, List.cons.injEq,
    HttpHeader.mk.injEq, true_and, and_true] at hboth
  obtain ⟨⟨htype, hstamp, hlength⟩, hrest⟩ := hboth
  have hlength : q.data.length = p.data.length := by
    have hnumeral := numeral?_numeral q.data.length
    rw [hlength, numeral?_numeral] at hnumeral
    exact (Option.some.inj hnumeral).symm
  rw [List.append_assoc, List.append_assoc] at hrest
  obtain ⟨hdata, htail⟩ := List.append_inj hrest hlength
  obtain ⟨stamp, type, data⟩ := p
  obtain ⟨stamp', type', data'⟩ := q
  simp only at htype hstamp hdata
  subst htype hstamp hdata
  exact ⟨rfl, (List.append_cancel_left htail).symm⟩

/--
**Parts can be told apart.** If the bytes of some parts begin with the bytes of others, then the parts
begin with those, whatever bytes the images have, the boundary among them.
-/
theorem parts_separate (hps : ∀ p ∈ ps, p.Valid) (hqs : ∀ q ∈ qs, q.Valid)
    (h : ps.flatMap (Part.render boundary) <+: qs.flatMap (Part.render boundary)) : ps <+: qs := by
  obtain ⟨rest, h⟩ := h
  induction ps generalizing qs with
  | nil => exact List.nil_prefix
  | cons p ps ih =>
    cases qs with
    | nil =>
      have hlength := congrArg List.length h
      simp [Part.render, footerText] at hlength
    | cons q qs =>
      rw [List.flatMap_cons, List.flatMap_cons, List.append_assoc] at h
      obtain ⟨rfl, htail⟩ := eq_of_render_append (hps p List.mem_cons_self) (hqs q List.mem_cons_self) h
      rw [List.prefix_cons_inj]
      exact ih (fun x hx => hps x (List.mem_cons_of_mem _ hx))
        (fun x hx => hqs x (List.mem_cons_of_mem _ hx)) htail

/-- An image that contains the boundary. -/
theorem parts_separate_boundary :
    [(⟨[49], [105], footerText [98]⟩ : Part)] <+: [⟨[49], [105], footerText [98]⟩, ⟨[50], [105], []⟩] :=
  @parts_separate [98] _ _ (by simp [Part.Valid, isCtl]) (by simp [Part.Valid, isCtl])
    (by rw [List.flatMap_cons, List.flatMap_cons, List.flatMap_nil, List.append_nil]
        exact List.prefix_append _ _)

end Stream

end Tetra.Web
