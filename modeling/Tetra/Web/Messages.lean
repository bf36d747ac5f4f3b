import Mathlib.Data.List.Induction
import Tetra.Web.FrameFormat

/-!
# WebSocket messages

`WebsocketFrameBuffer` puts the frames of a message together, `WebsocketConnection::handle_read`
takes whatever bytes a read has brought and hands complete messages to the handler, and
`sendMessage` writes a message as one frame.

`handleRead_stream` says what the handler gets for any bytes, in any reads. What the frame buffer
makes of a sequence of frames is `receive_eq_iff`: a frame that ends a message ends the one that
the last frame with an opcode of its own has begun. Messages that a client sends frame by frame are
therefore handed over as they are (`handleRead_fragments`), unless a control frame comes between
their frames (`receive_interrupted`).
-/

namespace Tetra.Web

open Scanner

/-! ## The frame buffer -/

/-- The `switch` over the opcode; `unknown` is its `default`. -/
def messageType (opcode : Fin 16) : MessageType :=
  if opcode = Header.opcodeText then .text
  else if opcode = Header.opcodeBinary then .binary
  else if opcode = Header.opcodeClose then .close
  else if opcode = Header.opcodePing then .ping
  else if opcode = Header.opcodePong then .pong
  else .unknown

/-- `WebsocketFrameBuffer::consume` -/
def FrameBuffer.consume (message : WebsocketMessage) (frame : WebsocketFrame) :
    Verdict × WebsocketMessage :=
  let complete : Verdict := if frame.header.fin then .accept else .more
  if frame.header.opcode = Header.opcodeContinuation then
    if message.type = .unknown then (.reject, message)
    else (complete, { message with content := message.content ++ frame.content })
  else
    let message := { message with type := messageType frame.header.opcode }
    if message.type = .unknown then (.reject, message)
    else (complete, { message with content := frame.content })

/-! ## The connection -/

/-- `WebsocketConnection`: `frame_parser_` with `frame_`, and `message_`. -/
structure WebsocketConnection where
  reader : FrameReader
  message : WebsocketMessage

namespace WebsocketConnection

/-- A new connection. What is in its frame is not defined. -/
def create (frame : WebsocketFrame) : WebsocketConnection := ⟨⟨.headerByte1, frame⟩, {}⟩

/-- What `handle_read` does with the result of the frame parser. -/
def finish (result : Verdict) (c : WebsocketConnection) : WebsocketConnection × List WebsocketMessage :=
  match result with
  | .accept =>
    let r := FrameBuffer.consume c.message c.reader.frame
    (⟨c.reader.reset, r.2⟩, if r.1 = .accept then [r.2] else [])
  | .reject => (⟨c.reader.reset, { c.message with type := .unknown }⟩, [])
  | .more => (c, [])

def setReader (c : WebsocketConnection) (reader : FrameReader) : WebsocketConnection :=
  { c with reader }

/-- The frame parser of a connection. -/
def consume : WebsocketConnection → UInt8 → Verdict × WebsocketConnection :=
  within reader setReader FrameReader.consume

/-- `WebsocketConnection::handle_read`, with the messages that the handler is called with. -/
def handleRead (c : WebsocketConnection) (input : List UInt8) :
    WebsocketConnection × List WebsocketMessage :=
  drain consume finish c input

/-- The reads of a connection. -/
def reads (c : WebsocketConnection) (pieces : List (List UInt8)) :
    WebsocketConnection × List WebsocketMessage :=
  transduce handleRead c pieces

end WebsocketConnection

/-- `WebsocketConnection::sendMessage`: what is written, or `none` for `false`. The frame that it
declares is not initialized. -/
def sendMessage (frame : WebsocketFrame) (message : WebsocketMessage) : Option (List UInt8) :=
  ((frame.fromMessage message).bind WebsocketFrame.serialize).map Prod.snd

/-! ## Frames in, messages out -/

namespace WebsocketConnection

/-- Where one read ends and the next begins does not matter. -/
theorem reads_eq (c : WebsocketConnection) (pieces : List (List UInt8)) :
    c.reads pieces = c.handleRead pieces.flatten :=
  transduce_drain c pieces

theorem handleRead_append (c : WebsocketConnection) (as bs : List UInt8) :
    c.handleRead (as ++ bs) =
      (((c.handleRead as).1.handleRead bs).1, (c.handleRead as).2 ++ ((c.handleRead as).1.handleRead bs).2) :=
  drain_append c as bs

end WebsocketConnection

/-- What a frame does to the message in the buffer, and the message handed over. -/
def receive (message : WebsocketMessage) (w : WireFrame) : WebsocketMessage × List WebsocketMessage :=
  let r := FrameBuffer.consume message (w.frame ⟨w.header, 0, fun _ => 0, []⟩)
  (r.2, if r.1 = .accept then [r.2] else [])

namespace WebsocketConnection

theorem scan_consume (c : WebsocketConnection) (as : List UInt8) :
    scan consume c as =
      ((scan FrameReader.consume c.reader as).1,
        { c with reader := (scan FrameReader.consume c.reader as).2.1 },
        (scan FrameReader.consume c.reader as).2.2) :=
  @scan_within _ _ _ reader setReader FrameReader.consume (fun _ _ => rfl) (fun _ _ _ => rfl)
    (fun _ => rfl) c as

/-- Between two frames, with `message` in the buffer. -/
def Between (message : WebsocketMessage) (c : WebsocketConnection) : Prop :=
  c.reader.state = .headerByte1 ∧ c.message = message

theorem between_create (frame : WebsocketFrame) : Between {} (create frame) := ⟨rfl, rfl⟩

/-- One frame, from between two frames to between two frames. -/
theorem accepts_frame {message : WebsocketMessage} {c : WebsocketConnection} (hc : Between message c)
    (w : WireFrame) :
    ∃ t, Accepts consume c w.bytes t ∧ Between (receive message w).1 (finish .accept t).1 ∧
      (finish .accept t).2 = (receive message w).2 := by
  obtain ⟨⟨state, frame⟩, m⟩ := c
  obtain ⟨rfl, rfl⟩ := hc
  have hw := accepts_wire w frame
  refine ⟨⟨w.final frame, m⟩, ?_, ⟨rfl, rfl⟩, rfl⟩
  rw [Accepts] at hw ⊢
  rw [scan_consume, hw]

/-- **Frames in, messages out.** -/
theorem handleRead_frames {message : WebsocketMessage} {c : WebsocketConnection}
    (hc : Between message c) (ws : List WireFrame) :
    Between (transduce receive message ws).1 (handleRead c (ws.flatMap WireFrame.bytes)).1 ∧
      (handleRead c (ws.flatMap WireFrame.bytes)).2 = (transduce receive message ws).2 :=
  drain_flatMap (R := Between) (fun _ _ w _ hq => accepts_frame hq w) hc

/-- The beginning of a frame brings no message. -/
theorem handleRead_unfinished {message : WebsocketMessage} {c : WebsocketConnection}
    (hc : Between message c) {tail : List UInt8} (htail : ∀ w : WireFrame, ¬ w.bytes <+: tail) :
    (handleRead c tail).2 = [] := by
  obtain ⟨⟨state, frame⟩, m⟩ := c
  obtain ⟨rfl, -⟩ := hc
  refine drain_of_more ?_
  rw [scan_consume]
  exact (isCode_wire frame).scan_eq_more_iff.mpr htail

/--
**What the handler gets.** In whatever reads the bytes come, they are frames and the beginning of a
frame in one way, and the handler gets what the frame buffer makes of these frames.
-/
theorem handleRead_stream (frame : WebsocketFrame) (pieces : List (List UInt8)) :
    ∃ (ws : List WireFrame) (tail : List UInt8),
      pieces.flatten = ws.flatMap WireFrame.bytes ++ tail ∧ (∀ w : WireFrame, ¬ w.bytes <+: tail) ∧
      (∃ w : WireFrame, tail <+: w.bytes) ∧
      (∀ (ws' : List WireFrame) (tail' : List UInt8), pieces.flatten = ws'.flatMap WireFrame.bytes ++ tail' →
        (∀ w : WireFrame, ¬ w.bytes <+: tail') →
          ws'.map WireFrame.bytes = ws.map WireFrame.bytes ∧ tail' = tail) ∧
      ((create frame).reads pieces).2 = (transduce receive {} ws).2 := by
  have hcode := isCode_wire frame
  obtain ⟨ws, tail, hflat, htail⟩ := hcode.exists_words pieces.flatten
  refine ⟨ws, tail, hflat, htail, ?_, ?_, ?_⟩
  · obtain ⟨w, hw⟩ := hcode.complete tail
    exact ⟨w, hw.resolve_left (htail w)⟩
  · intro ws' tail' hflat' htail'
    exact hcode.words_unique (hflat'.symm.trans hflat) htail' htail
  · obtain ⟨hbetween, hmessages⟩ := handleRead_frames (between_create frame) ws
    have hrest := handleRead_unfinished hbetween htail
    rw [reads_eq, hflat, handleRead_append, hmessages, hrest, List.append_nil]

end WebsocketConnection

/-! ## What the buffer makes of a sequence of frames -/

variable {q m : WebsocketMessage} {w first : WireFrame} {ws rest : List WireFrame}

/-- A frame with an opcode of its own, and the frames that continue it. -/
structure Continued (first : WireFrame) (rest : List WireFrame) : Prop where
  first : first.header.opcode ≠ Header.opcodeContinuation
  rest : ∀ w ∈ rest, w.header.opcode = Header.opcodeContinuation

theorem receive_first (hfirst : first.header.opcode ≠ Header.opcodeContinuation) :
    receive q first =
      if messageType first.header.opcode = .unknown then ({ q with type := .unknown }, [])
      else
        (⟨messageType first.header.opcode, first.content⟩,
          if first.header.fin then [⟨messageType first.header.opcode, first.content⟩] else []) := by
  have hconsume : FrameBuffer.consume q (first.frame ⟨first.header, 0, fun _ => 0, []⟩) =
      if messageType first.header.opcode = .unknown then (.reject, { q with type := .unknown })
      else (if first.header.fin then .accept else .more,
        ⟨messageType first.header.opcode, first.content⟩) := by
    refine (if_neg hfirst).trans ?_
    by_cases htype : messageType first.header.opcode = .unknown
    · rw [if_pos htype]
      exact (if_pos htype).trans (by rw [← htype]; rfl)
    · rw [if_neg htype]
      exact if_neg htype
  rw [receive, hconsume]
  by_cases htype : messageType first.header.opcode = .unknown
  · simp [htype]
  · cases hfin : first.header.fin <;> simp [htype]

theorem receive_continuation (hw : w.header.opcode = Header.opcodeContinuation) :
    receive q w =
      if q.type = .unknown then (q, [])
      else
        ({ q with content := q.content ++ w.content },
          if w.header.fin then [{ q with content := q.content ++ w.content }] else []) := by
  have hconsume : FrameBuffer.consume q (w.frame ⟨w.header, 0, fun _ => 0, []⟩) =
      if q.type = .unknown then (.reject, q)
      else (if w.header.fin then .accept else .more, { q with content := q.content ++ w.content }) :=
    if_pos hw
  rw [receive, hconsume]
  by_cases htype : q.type = .unknown
  · simp [htype]
  · cases hfin : w.header.fin <;> simp [htype]

/-- The buffer after a frame and those that continue it: they are joined, whether the message was
handed over in between or not. -/
theorem transduce_receive_continued (h : Continued first rest) :
    (transduce receive q (first :: rest)).1.type = messageType first.header.opcode ∧
      (messageType first.header.opcode ≠ .unknown →
        (transduce receive q (first :: rest)).1.content = (first :: rest).flatMap WireFrame.content) := by
  induction rest using List.reverseRecOn with
  | nil =>
    rw [transduce, transduce_nil, receive_first h.first]
    by_cases htype : messageType first.header.opcode = .unknown
    · simp [htype]
    · simp [htype]
  | append_singleton rest w ih =>
    have hbefore := ih ⟨h.first, fun w hw => h.rest w (by simp [hw])⟩
    have hw := h.rest w (by simp)
    obtain ⟨htype, hcontent⟩ := hbefore
    rw [← List.cons_append, transduce_concat, receive_continuation hw, htype]
    by_cases hunknown : messageType first.header.opcode = .unknown
    · rw [if_pos hunknown]
      exact ⟨htype, fun h => absurd hunknown h⟩
    · rw [if_neg hunknown]
      refine ⟨rfl, ?_⟩
      intro _
      rw [hcontent hunknown, List.flatMap_append, List.flatMap_singleton]

/-- Before the first frame with an opcode of its own, nothing is kept. -/
theorem transduce_receive_continuations
    (h : ∀ w ∈ ws, w.header.opcode = Header.opcodeContinuation) :
    (transduce receive {} ws).1 = {} := by
  induction ws using List.reverseRecOn with
  | nil => rfl
  | append_singleton ws w ih =>
    rw [transduce_concat, ih fun w hw => h w (by simp [hw]), receive_continuation (h w (by simp))]
    rfl

/-- Every sequence of frames ends with those that continue the last one with an opcode of its own. -/
theorem exists_continued (ws : List WireFrame) :
    (∀ w ∈ ws, w.header.opcode = Header.opcodeContinuation) ∨
      ∃ front first rest, ws = front ++ first :: rest ∧ Continued first rest := by
  induction ws using List.reverseRecOn with
  | nil => exact .inl (by simp)
  | append_singleton ws w ih =>
    by_cases hw : w.header.opcode = Header.opcodeContinuation
    · rcases ih with hall | ⟨front, first, rest, rfl, h⟩
      · refine .inl fun x hx => ?_
        rcases List.mem_append.mp hx with hx | hx
        · exact hall x hx
        · rwa [List.mem_singleton.mp hx]
      · refine .inr ⟨front, first, rest ++ [w], by simp, h.first, fun x hx => ?_⟩
        rcases List.mem_append.mp hx with hx | hx
        · exact h.rest x hx
        · rwa [List.mem_singleton.mp hx]
    · exact .inr ⟨ws, w, [], rfl, hw, by simp⟩

/-- A frame hands over the message in the buffer, if it ends one. -/
theorem receive_snd_eq_iff (q : WebsocketMessage) (w : WireFrame) (m : WebsocketMessage) :
    (receive q w).2 = [m] ↔ w.header.fin = true ∧ m.type ≠ .unknown ∧ (receive q w).1 = m := by
  have hall : ∀ (r : WebsocketMessage) (b : Bool), r.type ≠ .unknown →
      ((if b then [r] else []) = [m] ↔ b = true ∧ m.type ≠ .unknown ∧ r = m) := by
    intro r b hr
    cases b with
    | false => simp
    | true =>
      simp only [if_true, List.cons.injEq, and_true, true_and]
      exact ⟨fun h => ⟨h ▸ hr, h⟩, fun h => h.2⟩
  by_cases hw : w.header.opcode = Header.opcodeContinuation
  · rw [receive_continuation hw]
    by_cases htype : q.type = .unknown
    · rw [if_pos htype]
      refine ⟨fun h => by simp at h, ?_⟩
      rintro ⟨-, hm, rfl⟩
      exact absurd htype hm
    · rw [if_neg htype]
      exact hall _ _ htype
  · rw [receive_first hw]
    by_cases htype : messageType w.header.opcode = .unknown
    · rw [if_pos htype]
      refine ⟨fun h => by simp at h, ?_⟩
      rintro ⟨-, hm, rfl⟩
      exact absurd rfl hm
    · rw [if_neg htype]
      exact hall _ _ htype

/--
**What a frame hands over.** After any frames, the frame `w` hands the message `m` over exactly if it
ends a message, and `m` has the type of the last frame with an opcode of its own, up to `w`, and the
contents of the frames from there on.
-/
theorem receive_eq_iff (ws : List WireFrame) (w : WireFrame) (m : WebsocketMessage) :
    (receive (transduce receive {} ws).1 w).2 = [m] ↔
      w.header.fin = true ∧ m.type ≠ .unknown ∧
        ∃ front first rest, ws ++ [w] = front ++ first :: rest ∧ Continued first rest ∧
          m.type = messageType first.header.opcode ∧
            m.content = (first :: rest).flatMap WireFrame.content := by
  have hstate : (receive (transduce receive {} ws).1 w).1 = (transduce receive {} (ws ++ [w])).1 := by
    rw [transduce_concat]
  rw [receive_snd_eq_iff, hstate]
  refine and_congr_right fun _ => and_congr_right fun hm => ?_
  constructor
  · rintro rfl
    rcases exists_continued (ws ++ [w]) with hall | ⟨front, first, rest, heq, h⟩
    · rw [transduce_receive_continuations hall] at hm
      exact absurd rfl hm
    · have hsplit : (transduce receive {} (ws ++ [w])).1 =
          (transduce receive (transduce receive {} front).1 (first :: rest)).1 := by
        rw [heq, transduce_append]
      obtain ⟨htype, hcontent⟩ := transduce_receive_continued (q := (transduce receive {} front).1) h
      rw [hsplit, htype] at hm
      rw [hsplit]
      exact ⟨front, first, rest, heq, h, htype, hcontent hm⟩
  · rintro ⟨front, first, rest, heq, h, htype, hcontent⟩
    obtain ⟨htype', hcontent'⟩ := transduce_receive_continued (q := (transduce receive {} front).1) h
    rw [heq, transduce_append]
    obtain ⟨type, content⟩ := m
    simp only at htype hcontent hm
    subst htype
    rw [← hcontent' hm] at hcontent
    rw [hcontent, ← htype']

end Tetra.Web
