import Tetra.Web.Messages

/-!
# Messages arrive as they were sent

`handleRead_fragments`: a client may cut its messages into frames as it likes, with or without keys
and with lengths in any of the three forms, and the network may cut the bytes into reads: the handler
gets the messages. `sendMessage_delivered` is the same for what `sendMessage` writes, so the two
directions of the code agree on the format.

The client may not put a control frame between the frames of a message (`receive_interrupted`): what
is handed over at the end is then a control message, and the message is lost.
-/

namespace Tetra.Web

open Scanner SignMagnitude WebsocketConnection

variable {m : WebsocketMessage} {w : WireFrame} {ws : List WireFrame}

/-! ## Messages in frames -/

/-- The frames of a message: only the last one ends it. -/
structure Carries (ws : List WireFrame) (m : WebsocketMessage) : Prop where
  sendable : m.type ≠ .unknown
  continued : ∃ first rest, ws = first :: rest ∧ Continued first rest ∧
    messageType first.header.opcode = m.type
  fin : ∃ init last, ws = init ++ [last] ∧ last.header.fin = true ∧ ∀ w ∈ init, w.header.fin = false
  content : ws.flatMap WireFrame.content = m.content

/-- Frames that do not end a message hand nothing over. -/
theorem transduce_receive_open (q : WebsocketMessage) (h : ∀ w ∈ ws, w.header.fin = false) :
    (transduce receive q ws).2 = [] := by
  induction ws generalizing q with
  | nil => rfl
  | cons w ws ih =>
    have hw : (receive q w).2 = [] := by
      have hfin := h w List.mem_cons_self
      by_cases hop : w.header.opcode = Header.opcodeContinuation
      · rw [receive_continuation hop, hfin]
        split <;> rfl
      · rw [receive_first hop, hfin]
        split <;> rfl
    rw [transduce, hw, ih _ fun x hx => h x (List.mem_cons_of_mem _ hx), List.append_nil]

/-- Whatever was in the buffer, the frames of a message hand the message over and leave it there. -/
theorem transduce_receive_carries (q : WebsocketMessage) (h : Carries ws m) :
    transduce receive q ws = (m, [m]) := by
  obtain ⟨first, rest, hfirst, hcontinued, htype⟩ := h.continued
  obtain ⟨init, last, hinit, hfin, hopen⟩ := h.fin
  have hstate : (transduce receive q ws).1 = m := by
    obtain ⟨ht, hc⟩ := transduce_receive_continued (q := q) hcontinued
    rw [htype] at ht hc
    rw [← hfirst] at ht hc
    rw [h.content] at hc
    exact WebsocketMessage.ext ht (hc h.sendable)
  have hlast : (receive (transduce receive q init).1 last).2 = [m] := by
    rw [receive_snd_eq_iff]
    refine ⟨hfin, h.sendable, ?_⟩
    rw [← hstate, hinit, transduce_concat]
  rw [← hstate] at hlast ⊢
  refine Prod.ext rfl ?_
  rw [hinit, transduce_concat, ← hinit] at *
  rw [transduce_receive_open q hopen, List.nil_append, hlast]

/--
**Fragmentation is transparent.** Messages that a client sends in frames, one after the other, are
handed over as they are, in whatever reads the bytes come.
-/
theorem handleRead_fragments (frame : WebsocketFrame) (sent : List (List WireFrame × WebsocketMessage))
    (hsent : ∀ p ∈ sent, Carries p.1 p.2) (pieces : List (List UInt8))
    (hpieces : pieces.flatten = sent.flatMap fun p => p.1.flatMap WireFrame.bytes) :
    ((create frame).reads pieces).2 = sent.map Prod.snd := by
  have hframes : ∀ q, (transduce receive q (sent.flatMap Prod.fst)).2 = sent.map Prod.snd := by
    clear hpieces
    induction sent with
    | nil => exact fun q => rfl
    | cons p sent ih =>
      intro q
      rw [List.flatMap_cons, transduce_append,
        transduce_receive_carries q (hsent p List.mem_cons_self), ih fun p hp =>
          hsent p (List.mem_cons_of_mem _ hp)]
      rfl
  have hbytes : pieces.flatten = (sent.flatMap Prod.fst).flatMap WireFrame.bytes := by
    rw [hpieces, List.flatMap_assoc]
  rw [reads_eq, hbytes, (handleRead_frames (between_create frame) _).2, hframes]

/-- A text of two frames, the second one with a key, cut into three reads. -/
example : ((create ⟨⟨0, false, false, false, false, 0, false⟩, 0, fun _ => 0, []⟩).reads
    [[0x01], [0x01, 72, 0x80], [0x81, 1, 1, 1, 1, 104]]).2 = [⟨.text, [72, 105]⟩] := by
  decide +kernel

/-! ## What the server sends -/

/-- A frame without a key, as the server sends it. -/
theorem exists_wire_of_length (header : Header) (extended content : List UInt8)
    (hmask : header.mask = false) (hlength : extended.length = extendedLength header.len)
    (hcontent : announced header extended = content.length)
    (hlong : ¬ header.len.val < 126 → content.length ≠ 0) :
    ∃ w : WireFrame, w.header = header ∧ w.content = content ∧
      w.bytes = [header.byte0, header.byte1] ++ extended ++ content := by
  have hpayload : content.length = payloadLength header extended := by
    rw [payloadLength, hcontent]
    split
    · next h => have := hlong h.1; omega
    · rfl
  refine ⟨⟨header, extended, none, content, hlength, hmask.symm, hpayload⟩, rfl, rfl, ?_⟩
  simp [WireFrame.bytes, keyBytes]

/-- What `serialize` writes is a frame with the header and the content. -/
theorem exists_wire_of_serialize {frame frame' : WebsocketFrame} {sent : List UInt8}
    (hlength : frame.length = frame.content.length)
    (h : frame.serialize = some (frame', sent)) :
    ∃ w : WireFrame, w.bytes = sent ∧ w.content = frame.content ∧
      w.header.opcode = frame.header.opcode ∧ w.header.fin = frame.header.fin := by
  have hbyte : ∀ i, WebsocketFrame.lengthByte frame.length (8 * i) =
      UInt8.ofNat (frame.length / 256 ^ i) := fun i => byte_eq frame.length i
  unfold WebsocketFrame.serialize at h
  simp only at h
  by_cases hshort : frame.length < 126
  · rw [if_pos hshort, Option.some.injEq, Prod.mk.injEq] at h
    obtain ⟨-, rfl⟩ := h
    have hlen : (Fin.ofNat 128 frame.length).val = frame.length := Nat.mod_eq_of_lt (by omega)
    obtain ⟨w, hheader, hcontent, hbytes⟩ := exists_wire_of_length
      { frame.header with len := Fin.ofNat 128 frame.length, mask := false } [] frame.content rfl
      (by rw [extendedLength, hlen, if_pos hshort]; rfl)
      (by rw [announced, hlen, if_pos hshort, hlength])
      (fun hlong => absurd (by rw [hlen]; exact hshort) hlong)
    exact ⟨w, by simpa using hbytes, hcontent, by rw [hheader], by rw [hheader]⟩
  · rw [if_neg hshort] at h
    by_cases hmedium : frame.length ≤ 2 ^ 16 - 1
    · rw [if_pos hmedium, Option.some.injEq, Prod.mk.injEq] at h
      obtain ⟨-, rfl⟩ := h
      have hext : bytes 2 frame.length =
          [WebsocketFrame.lengthByte frame.length 8, WebsocketFrame.lengthByte frame.length 0] := by
        rw [bytes_succ, bytes_succ, ← hbyte 1, ← hbyte 0]
        rfl
      obtain ⟨w, hheader, hcontent, hbytes⟩ := exists_wire_of_length
        { frame.header with len := 126, mask := false } (bytes 2 frame.length) frame.content rfl
        (by rw [length_bytes]; rfl)
        ((if_neg (show ¬ 126 < 126 by decide)).trans ((unsigned_bytes (by omega)).trans hlength))
        (fun _ => by omega)
      exact ⟨w, by rw [hbytes, hext], hcontent, by rw [hheader], by rw [hheader]⟩
    · rw [if_neg hmedium] at h
      by_cases hlong : frame.length ≤ 2 ^ 64 - 1
      · rw [if_pos hlong, Option.some.injEq, Prod.mk.injEq] at h
        obtain ⟨-, rfl⟩ := h
        have hext : bytes 8 frame.length =
            [WebsocketFrame.lengthByte frame.length 56, WebsocketFrame.lengthByte frame.length 48,
              WebsocketFrame.lengthByte frame.length 40, WebsocketFrame.lengthByte frame.length 32,
              WebsocketFrame.lengthByte frame.length 24, WebsocketFrame.lengthByte frame.length 16,
              WebsocketFrame.lengthByte frame.length 8, WebsocketFrame.lengthByte frame.length 0] := by
          rw [bytes_succ, bytes_succ, bytes_succ, bytes_succ, bytes_succ, bytes_succ, bytes_succ,
            bytes_succ, ← hbyte 7, ← hbyte 6, ← hbyte 5, ← hbyte 4, ← hbyte 3, ← hbyte 2, ← hbyte 1,
            ← hbyte 0]
          rfl
        obtain ⟨w, hheader, hcontent, hbytes⟩ := exists_wire_of_length
          { frame.header with len := 127, mask := false } (bytes 8 frame.length) frame.content rfl
          (by rw [length_bytes]; rfl)
          ((if_neg (show ¬ 127 < 126 by decide)).trans ((unsigned_bytes (by omega)).trans hlength))
          (fun _ => by omega)
        exact ⟨w, by rw [hbytes, hext], hcontent, by rw [hheader], by rw [hheader]⟩
      · rw [if_neg hlong] at h
        cases h

/-- What `sendMessage` writes is one frame that carries the message. -/
theorem exists_wire_of_sendMessage {frame : WebsocketFrame} {sent : List UInt8}
    (h : sendMessage frame m = some sent) : ∃ w : WireFrame, w.bytes = sent ∧ Carries [w] m := by
  obtain ⟨⟨frame', sent'⟩, hbind, rfl⟩ := Option.map_eq_some_iff.mp h
  obtain ⟨full, hfull, hserialize⟩ := Option.bind_eq_some_iff.mp hbind
  have hfrom : full.length = full.content.length ∧ full.content = m.content ∧
      full.header.fin = true ∧ messageType full.header.opcode = m.type ∧ m.type ≠ .unknown := by
    obtain ⟨type, content⟩ := m
    cases type with
    | unknown => cases hfull
    | text | binary | close | ping | pong =>
      obtain rfl := Option.some.inj hfull
      exact ⟨rfl, rfl, rfl, rfl, nofun⟩
  obtain ⟨hlength, hcontent, hfin, htype, hsendable⟩ := hfrom
  have hop : full.header.opcode ≠ Header.opcodeContinuation := by
    intro h
    rw [← htype, h] at hsendable
    exact hsendable rfl
  obtain ⟨w, hbytes, hw, hwop, hwfin⟩ := exists_wire_of_serialize hlength hserialize
  refine ⟨w, hbytes, hsendable, ⟨w, [], rfl, ⟨by rwa [hwop], by simp⟩, by rw [hwop, htype]⟩,
    ⟨[], w, rfl, by rw [hwfin, hfin], by simp⟩, ?_⟩
  rw [List.flatMap_singleton, hw, hcontent]

/--
**Round trip.** What one side of a connection sends with `sendMessage`, the other side's handler gets:
every message once, in order and unchanged, in whatever reads the bytes come.
-/
theorem sendMessage_delivered (frame frame' : WebsocketFrame) (ms : List WebsocketMessage)
    (sent : List (List UInt8)) (hsent : ms.mapM (sendMessage frame) = some sent)
    (pieces : List (List UInt8)) (hpieces : pieces.flatten = sent.flatten) :
    ((create frame').reads pieces).2 = ms := by
  have hframes : ∃ ps : List (List WireFrame × WebsocketMessage), (∀ p ∈ ps, Carries p.1 p.2) ∧
      ps.map Prod.snd = ms ∧ sent.flatten = ps.flatMap fun p => p.1.flatMap WireFrame.bytes := by
    clear hpieces
    induction ms generalizing sent with
    | nil =>
      obtain rfl : sent = [] := by simpa using hsent.symm
      exact ⟨[], by simp, rfl, rfl⟩
    | cons m ms ih =>
      rw [List.mapM_cons] at hsent
      obtain ⟨b, hb, hrest⟩ := Option.bind_eq_some_iff.mp hsent
      obtain ⟨bs, hbs, heq⟩ := Option.bind_eq_some_iff.mp hrest
      obtain rfl : b :: bs = sent := by simpa using heq
      obtain ⟨w, rfl, hw⟩ := exists_wire_of_sendMessage hb
      obtain ⟨ps, hps, rfl, hflat⟩ := ih bs hbs
      refine ⟨([w], m) :: ps, List.forall_mem_cons.mpr ⟨hw, hps⟩, rfl, ?_⟩
      rw [List.flatten_cons, List.flatMap_cons, hflat, List.flatMap_singleton]
  obtain ⟨ps, hps, rfl, hflat⟩ := hframes
  exact handleRead_fragments frame' ps hps pieces (hpieces.trans hflat)

/-- An empty text and a ping, sent to the other side byte by byte. -/
theorem sendMessage_delivered_two :
    ((create ⟨⟨0, false, false, false, false, 0, false⟩, 0, fun _ => 0, []⟩).reads
      [[0x81], [0x00], [0x89], [0x01], [7]]).2 = [⟨.text, []⟩, ⟨.ping, [7]⟩] :=
  sendMessage_delivered ⟨⟨0, false, false, false, false, 0, false⟩, 0, fun _ => 0, []⟩ _ _
    [[0x81, 0x00], [0x89, 0x01, 7]] (by decide) _ rfl

/-! ## A control frame between the frames of a message -/

/--
**A control frame takes the place of the message it interrupts.** If a frame `ctrl` that ends a
message of its own comes after the first frames of a message, then it is handed over, and what the
rest of the message hands over at its end is of the type of `ctrl` and begins with its content.
-/
theorem receive_interrupted (q : WebsocketMessage) {ctrl : WireFrame} (before rest : List WireFrame)
    (hbefore : ∀ w ∈ before, w.header.fin = false) (hctrl : Carries [ctrl] m)
    (hrest : ∀ w ∈ rest, w.header.opcode = Header.opcodeContinuation ∧ w.header.fin = false)
    (hlast : w.header.opcode = Header.opcodeContinuation ∧ w.header.fin = true) :
    (transduce receive q (before ++ ctrl :: (rest ++ [w]))).2 =
      [m, ⟨m.type, m.content ++ (rest ++ [w]).flatMap WireFrame.content⟩] := by
  have hopen := transduce_receive_open q hbefore
  have hrestopen := transduce_receive_open m fun x hx => (hrest x hx).2
  have hmessage := transduce_receive_carries (transduce receive q before).1 hctrl
  have hreceive : receive (transduce receive q before).1 ctrl = (m, [m]) := by
    rw [transduce, transduce_nil, List.append_nil] at hmessage
    exact hmessage
  have hjoined : ∀ (ws : List WireFrame), (∀ w ∈ ws, w.header.opcode = Header.opcodeContinuation) →
      (transduce receive m ws).1 = ⟨m.type, m.content ++ ws.flatMap WireFrame.content⟩ := by
    intro ws hws
    induction ws using List.reverseRecOn with
    | nil => simp
    | append_singleton ws x ih =>
      rw [transduce_concat, ih fun y hy => hws y (by simp [hy]), receive_continuation (hws x (by simp)),
        if_neg hctrl.sendable, List.flatMap_append, List.flatMap_singleton, List.append_assoc]
  rw [transduce_append, hopen, List.nil_append, transduce, hreceive, transduce_concat, hrestopen,
    hjoined rest fun x hx => (hrest x hx).1, receive_continuation hlast.1, if_neg hctrl.sendable,
    hlast.2, List.flatMap_append, List.flatMap_singleton]
  simp

/-- A text of two frames with a ping between them: two pings. -/
theorem receive_interrupted_two :
    (transduce receive {}
      [⟨⟨1, false, false, false, false, 1, false⟩, [], none, [72], rfl, rfl, rfl⟩,
        ⟨⟨9, false, false, false, true, 1, false⟩, [], none, [7], rfl, rfl, rfl⟩,
        ⟨⟨0, false, false, false, true, 1, false⟩, [], none, [105], rfl, rfl, rfl⟩]).2 =
      [⟨.ping, [7]⟩, ⟨.ping, [7, 105]⟩] := by
  have hctrl : Carries [⟨⟨9, false, false, false, true, 1, false⟩, [], none, [7], rfl, rfl, rfl⟩]
      ⟨.ping, [7]⟩ :=
    ⟨nofun, ⟨_, [], rfl, ⟨by decide, by simp⟩, rfl⟩, ⟨[], _, rfl, rfl, by simp⟩, rfl⟩
  exact receive_interrupted {} [_] [] (by simp) hctrl (by simp) ⟨rfl, rfl⟩

end Tetra.Web
