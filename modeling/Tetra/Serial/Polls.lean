import Tetra.Serial.Counted

/-!
# Polling the power board

The functions that read the values of the board decode their buffer whatever `get_response2` has
returned; they only pass over a reply whose first length byte is 2. So a poll without a reply sets
every output to what a cleared buffer decodes to (`polls_keep_iff`).
-/

namespace Tetra.Serial.Power

open Arrival Memory

/-! ## Words and fields -/

/-- The words that a field can be made of: a bit field has an array of eight cells. -/
def Field.Takes (f : Field) (word : Nat) : Prop :=
  match f with
  | int _ => True
  | double _ _ => True
  | bits _ => word < 256

theorem decimal2binary_iff {decimal : Nat} {binary : List Int} {i : Nat} :
    (∃ binary', decimal2binary decimal binary i = .ok binary') ↔
      decimal < 2 ^ (binary.length - i) := by
  induction decimal using Nat.strongRecOn generalizing binary i with
  | ind decimal ih =>
    unfold decimal2binary
    by_cases hpos : 0 < decimal
    · rw [if_pos hpos]
      rcases Nat.lt_or_ge i binary.length with hlt | hge
      · rw [store_of_lt hlt, ok_bind, ih (decimal / 2) (by omega), List.length_set,
          show binary.length - i = binary.length - (i + 1) + 1 by omega, Nat.pow_succ]
        exact Nat.div_lt_iff_lt_mul (by decide)
      · rw [store_of_not_lt (by omega), error_bind, Nat.sub_eq_zero_of_le hge]
        constructor
        · rintro ⟨_, h⟩
          exact absurd h (by simp)
        · intro h
          omega
    · rw [if_neg hpos]
      have hzero : decimal = 0 := by omega
      exact ⟨fun _ => by rw [hzero]; exact Nat.two_pow_pos _, fun _ => ⟨binary, rfl⟩⟩

theorem Field.takes_iff {f : Field} {word : Nat} : (∃ v, f.decode word = .ok v) ↔ f.Takes word := by
  match f with
  | int _ => exact ⟨fun _ => trivial, fun _ => ⟨_, rfl⟩⟩
  | double _ _ => exact ⟨fun _ => trivial, fun _ => ⟨_, rfl⟩⟩
  | bits offset =>
    have hbinary : (∃ binary, decimal2binary word (List.replicate 8 0) 0 = .ok binary) ↔ word < 256 :=
      decimal2binary_iff
    show (∃ v, Field.decode (bits offset) word = .ok v) ↔ word < 256
    rw [← hbinary]
    unfold Field.decode
    constructor
    · rintro ⟨v, hv⟩
      obtain ⟨binary, hok, _⟩ := bind_eq_ok_iff.mp hv
      exact ⟨binary, hok⟩
    · rintro ⟨binary, hok⟩
      exact ⟨.bits binary, by rw [hok]; rfl⟩

/-- What the variable of an output can hold. -/
def Field.Holds (f : Field) (v : Value) : Prop :=
  match f, v with
  | int _, .int _ => True
  | double _ _, .double _ => True
  | bits _, .bits binary => binary.length = 8
  | _, _ => False

/-- The word at an offset of the buffer, if the payload has all of it. -/
def Reply.word (reply : Reply) (offset : Nat) : Option Nat := do
  let hi ← reply.payload[offset - 3]?
  let lo ← reply.payload[offset - 2]?
  return bigEndian hi.toNat lo.toNat

theorem Reply.word_eq_some_iff {reply : Reply} {offset word : Nat} :
    reply.word offset = some word ↔ ∃ hi lo, reply.payload[offset - 3]? = some hi ∧
      reply.payload[offset - 2]? = some lo ∧ bigEndian hi.toNat lo.toNat = word := by
  simp [Reply.word, Option.bind_eq_some_iff]

section Replies

variable {data : Buffer} {port : Port} {reply : Reply}

theorem room_of_inside (hinside : (counted data port).Inside data) (h : Replies port reply) :
    reply.payload.length + 5 ≤ data.length := by
  obtain ⟨noise, rest, hcounted⟩ := counted_of_replies data h
  rw [hcounted] at hinside
  exact hinside.2 rfl

/-- The buffer has the words of the reply. -/
theorem wordAt_of_replies {offset word : Nat} (h : Replies port reply)
    (hroom : reply.payload.length + 5 ≤ data.length) (h3 : 3 ≤ offset)
    (hword : reply.word offset = some word) :
    wordAt ((counted data port).fill data) offset = word := by
  obtain ⟨hi, lo, hhi, hlo, rfl⟩ := Reply.word_eq_some_iff.mp hword
  have hcell : ∀ i b, 3 ≤ i → reply.payload[i - 3]? = some b →
      byteAt ((counted data port).fill data) i = b.toNat := by
    intro i b hi hb
    have hlt := (List.getElem?_eq_some_iff.mp hb).1
    have hget : (reply.bytes ++ data.drop reply.bytes.length)[i]? = some b := by
      rw [List.getElem?_append_left (by rw [Reply.length_bytes]; omega), Reply.bytes,
        List.getElem?_append_left (by simp; omega), List.getElem?_append_right (by simpa using hi)]
      exact hb
    rw [fill_of_replies h hroom, byteAt, List.getD_eq_getElem?_getD, hget]
    rfl
  rw [wordAt_eq, hcell offset hi h3 hhi, hcell (offset + 1) lo (by omega) (by
    rwa [show offset + 1 - 3 = offset - 2 by omega])]

/-- Whether the first byte of the length is 2, in a buffer that was cleared before. -/
theorem byteAt_one_eq_two_iff {size : Nat} (hsize : 1 < size) (port : Port) :
    byteAt ((counted (List.replicate size 0) port).fill (List.replicate size 0)) 1 = 0x02 ↔
      (counted (List.replicate size 0) port).cells[1]? = some (some 0x02) := by
  unfold Counted.fill
  rcases counted_cases (List.replicate size 0) port with
    ⟨front, noise, port, rfl, hfront, hnoise⟩ | ⟨_, hnone⟩
  · rw [counted_of_delivers hfront hnoise]
    show byteAt (patch (List.replicate size 0) 0 _) 1 = 0x02 ↔ some (poll port).1 = some (some 0x02)
    rw [byteAt_patch (by simpa using hsize)]
    have hold : (List.replicate size (0 : UInt8)).getD 1 0 = 0 :=
      UInt8.toNat_inj.mp (byteAt_replicate_zero size 1)
    rw [hold]
    show ((poll port).1.getD 0).toNat = 0x02 ↔ _
    cases (poll port).1 with
    | none => simp
    | some b => simpa using UInt8.toNat_inj (a := b) (b := 0x02)
  · rw [hnone, if_neg Bool.false_ne_true, byteAt_skipped _ _ Nat.one_pos, byteAt_replicate_zero]
    simp

end Replies

/-! ## Requests -/

section Request

variable {size : Nat} {c₁ c₂ : Char} {line : Line} {r : Reaction} {more : List Reaction}

theorem request_eq (h5 : 5 ≤ size) (hfd : line.fd ≠ 0) :
    request size c₁ c₂ line =
      let buf := packetBuf size (packet [c₁.toUInt8, c₂.toUInt8])
      if (line.reaction 5).written ≤ 0 then .ok (.refused (-2), line.wrote buf 5)
      else do
        let (ret, data, line) ← (line.wrote buf 5).receive getResponse2 (List.replicate size 0)
        return (.replied ret data, line) := by
  have hclear : fill size 0 (packetBuf size (packet [c₁.toUInt8, c₂.toUInt8])) =
      List.replicate size 0 := fill_of_length_le (length_packetBuf (by simpa using h5)).le 0
  rw [request, if_neg hfd, closeFrame_letters h5, ok_bind, ← hclear]
  rfl

/-- A request is refused, or has its reply, or the reply does not fit the buffer. -/
theorem request_cases (h5 : 5 ≤ size) (hline : line.reactions = r :: more) :
    ((line.fd = 0 ∨ r.written ≤ 0) ∧
      ∃ ret < 0, ∃ line', request size c₁ c₂ line = .ok (.refused ret, line')) ∨
    (line.fd ≠ 0 ∧ 0 < r.written ∧
      ((¬ (counted (List.replicate size 0) r.arrivals).Inside (List.replicate size 0) ∧
        ∃ fault, request size c₁ c₂ line = .error fault) ∨
      ((counted (List.replicate size 0) r.arrivals).Inside (List.replicate size 0) ∧
        ∃ line', request size c₁ c₂ line =
          .ok (.replied ((counted (List.replicate size 0) r.arrivals).verdict (List.replicate size 0))
            ((counted (List.replicate size 0) r.arrivals).fill (List.replicate size 0)), line')))) := by
  by_cases hfd : line.fd = 0
  · exact Or.inl ⟨Or.inl hfd, -1, by decide, line, by rw [request, if_pos hfd]; rfl⟩
  · rw [request_eq h5 hfd]
    simp only [Line.written_eq hline]
    by_cases hw : r.written ≤ 0
    · rw [if_pos hw]
      exact Or.inl ⟨Or.inr hw, -2, by decide, _, rfl⟩
    · rw [if_neg hw]
      refine Or.inr ⟨hfd, by omega, ?_⟩
      have h3 : 3 ≤ (List.replicate size (0 : UInt8)).length := by
        rw [List.length_replicate]
        omega
      have hport := Line.port_wrote hline (packetBuf size (packet [c₁.toUInt8, c₂.toUInt8])) 5
      by_cases hinside : (counted (List.replicate size 0) r.arrivals).Inside (List.replicate size 0)
      · refine Or.inr ⟨hinside, ?_⟩
        have hresponse := getResponse2_of_inside h3 hinside
        rw [← hport] at hresponse
        rw [Line.receive_of_ok hresponse, hport]
        exact ⟨_, rfl⟩
      · obtain ⟨fault, hfault⟩ := getResponse2_of_not_inside h3 hinside
        rw [← hport] at hfault
        rw [Line.receive_of_error hfault]
        exact Or.inl ⟨hinside, fault, rfl⟩

end Request

/-! ## What a poll leaves of its outputs -/

/-- The outputs that a decoder makes of a buffer. -/
def Decoder.values (d : Decoder) (data : Buffer) : Except Fault (List Value) :=
  d.fields.mapM fun f => f.decode (wordAt data f.offset)

/-- Outputs that the caller can have: a value of its kind for each. -/
def Decoder.Holds (d : Decoder) (out : List Value) : Prop := List.Forall₂ Field.Holds d.fields out

/-- No outputs are what every buffer decodes to. -/
theorem exists_holds_ne {d : Decoder} (hfields : d.fields ≠ []) (vs : List Value) :
    ∃ out, d.Holds out ∧ vs ≠ out := by
  let filled (i : Int) : Field → Value
    | .int _ => .int i
    | .double _ _ => .double i
    | .bits _ => .bits (List.replicate 8 i)
  have hholds : ∀ i, d.Holds (d.fields.map (filled i)) := by
    intro i
    refine List.forall₂_map_right_iff.mpr (List.forall₂_same.mpr fun f _ => ?_)
    cases f with
    | int _ => trivial
    | double _ _ => trivial
    | bits _ => exact List.length_replicate
  have hdiffer : d.fields.map (filled 0) ≠ d.fields.map (filled 1) := by
    intro hsame
    obtain ⟨f, fields, hf⟩ := List.exists_cons_of_ne_nil hfields
    rw [hf, List.map_cons, List.map_cons, List.cons.injEq] at hsame
    cases f <;> simp [filled] at hsame
  by_cases hzero : vs = d.fields.map (filled 0)
  · exact ⟨_, hholds 1, hzero ▸ hdiffer⟩
  · exact ⟨_, hholds 0, hzero⟩

/--
A poll that keeps its outputs unless there is a reply: each output is as it was, or made of its word
in a reply all of whose bytes come; and all are as they were if the receiver reports a failure, or if
there is no such reply that has all the words.
-/
def Kept (d : Decoder) (result : Except Fault (Option Int × List Value × Line)) (out : List Value)
    (port : Port) : Prop :=
  ∃ ret out' line', result = .ok (ret, out', line') ∧
    (∀ (i : Nat) (f : Field), d.fields[i]? = some f → out'[i]? = out[i]? ∨
      ∃ reply word v, Replies port reply ∧ reply.word f.offset = some word ∧
        f.decode word = .ok v ∧ out'[i]? = some v) ∧
    ((∃ code < 0, ret = some code) ∨
        ¬ (∃ reply, Replies port reply ∧ ∀ f ∈ d.fields, (reply.word f.offset).isSome) →
      out' = out)

section Kept

variable {d : Decoder} {line : Line} {out : List Value} {r : Reaction} {more : List Reaction}

theorem kept_of_same {result : Except Fault (Option Int × List Value × Line)} {ret : Option Int}
    {line' : Line} {port : Port} (h : result = .ok (ret, out, line')) : Kept d result out port :=
  ⟨ret, out, line', h, fun _ _ _ => Or.inl rfl, fun _ => rfl⟩

theorem not_kept_of_error {result : Except Fault (Option Int × List Value × Line)} {fault : Fault}
    {port : Port} (h : result = .error fault) : ¬ Kept d result out port := by
  rintro ⟨ret, out', line', hok, _⟩
  rw [h] at hok
  exact absurd hok (by simp)

/-- The reply has what every output is made of. -/
def Provides (d : Decoder) (port : Port) : Prop :=
  ∃ reply, Replies port reply ∧ ∀ f ∈ d.fields, ∃ word, reply.word f.offset = some word ∧ f.Takes word

theorem values_of_provides {data : Buffer} {port : Port} {reply : Reply} (h : Replies port reply)
    (hroom : reply.payload.length + 5 ≤ data.length) (hoffsets : ∀ f ∈ d.fields, 3 ≤ f.offset)
    (hwords : ∀ f ∈ d.fields, ∃ word, reply.word f.offset = some word ∧ f.Takes word) :
    ∃ vs, d.values ((counted data port).fill data) = .ok vs := by
  refine exists_mapM_eq_ok fun f hf => ?_
  obtain ⟨word, hword, htakes⟩ := hwords f hf
  rw [wordAt_of_replies h hroom (hoffsets f hf) hword]
  exact Field.takes_iff.mpr htakes

/-- A decoded reply is kept to if it is one, or changes nothing. -/
theorem kept_values_iff {data : Buffer} {port : Port} {vs : List Value} {line' : Line}
    {result : Except Fault (Option Int × List Value × Line)}
    (hoffsets : ∀ f ∈ d.fields, 3 ≤ f.offset) (hinside : (counted data port).Inside data)
    (hvalues : d.values ((counted data port).fill data) = .ok vs)
    (h : result = .ok ((counted data port).verdict data, vs, line')) :
    Kept d result out port ↔ vs = out ∨ Provides d port := by
  have hroom : ∀ reply, Replies port reply → reply.payload.length + 5 ≤ data.length :=
    fun _ => room_of_inside hinside
  constructor
  · rintro ⟨ret, out', line'', hok, _, hsame⟩
    rw [h] at hok
    simp only [Except.ok.injEq, Prod.mk.injEq] at hok
    obtain ⟨-, rfl, -⟩ := hok
    by_cases hreply : ∃ reply, Replies port reply ∧ ∀ f ∈ d.fields, (reply.word f.offset).isSome
    · obtain ⟨reply, hreply, hwords⟩ := hreply
      refine Or.inr ⟨reply, hreply, ?_⟩
      intro f hf
      obtain ⟨word, hword⟩ := Option.isSome_iff_exists.mp (hwords f hf)
      obtain ⟨i, hi⟩ := List.getElem?_of_mem hf
      obtain ⟨v, _, hdecode⟩ := mapM_getElem? hvalues hi
      rw [wordAt_of_replies hreply (hroom reply hreply) (hoffsets f hf) hword] at hdecode
      exact ⟨word, hword, Field.takes_iff.mp ⟨v, hdecode⟩⟩
    · exact Or.inl (hsame (Or.inr hreply))
  · rintro (rfl | ⟨reply, hreply, hwords⟩)
    · exact kept_of_same h
    · obtain ⟨noise, rest, hcounted⟩ := counted_of_replies data hreply
      have hverdict : (counted data port).verdict data = none := by
        rcases verdict_cases data port with ⟨_, _, hnone⟩ | ⟨hfailed, _⟩
        · exact hnone
        · exact absurd ⟨by rw [hcounted], matches_of_replies hreply (hroom reply hreply)⟩ hfailed
      refine ⟨_, vs, line', h, ?_, ?_⟩
      · intro i f hf
        obtain ⟨word, hword, _⟩ := hwords f (List.mem_of_getElem? hf)
        obtain ⟨v, hv, hdecode⟩ := mapM_getElem? hvalues hf
        rw [wordAt_of_replies hreply (hroom reply hreply) (hoffsets f (List.mem_of_getElem? hf)) hword]
          at hdecode
        exact Or.inr ⟨reply, word, v, hreply, hword, hdecode, hv⟩
      · rintro (⟨code, _, hcode⟩ | hnot)
        · rw [hverdict] at hcode
          exact absurd hcode (by simp)
        · refine absurd ⟨reply, hreply, ?_⟩ hnot
          intro f hf
          obtain ⟨word, hword, _⟩ := hwords f hf
          exact Option.isSome_iff_exists.mpr ⟨word, hword⟩

end Kept

theorem call_of_refused {d : Decoder} {line line' : Line} {out : List Value} {ret : Int}
    (h : request d.size d.first d.second line = .ok (.refused ret, line')) :
    d.call line out = .ok (some ret, out, line') := by
  rw [Decoder.call, h]
  rfl

theorem call_of_replied {d : Decoder} {line line' : Line} {out : List Value} {ret : Option Int}
    {data : Buffer} (h : request d.size d.first d.second line = .ok (.replied ret data, line')) :
    d.call line out = if byteAt data 1 = 0x02 then .ok (some (-1), out, line')
      else do return (ret, ← d.values data, line') := by
  rw [Decoder.call, h]
  rfl

theorem call_of_error {d : Decoder} {line : Line} {out : List Value} {fault : Fault}
    (h : request d.size d.first d.second line = .error fault) : d.call line out = .error fault := by
  rw [Decoder.call, h]
  rfl

theorem decoders_sound :
    ∀ d ∈ decoders, 5 ≤ d.size ∧ d.fields ≠ [] ∧ ∀ f ∈ d.fields, 3 ≤ f.offset := by
  decide

/-- What a poll takes in, with its cleared buffer. -/
abbrev Decoder.heard (d : Decoder) (port : Port) : Counted := counted (List.replicate d.size 0) port

/-- The buffer that a poll decodes. -/
abbrev Decoder.buffer (d : Decoder) (port : Port) : Buffer :=
  (d.heard port).fill (List.replicate d.size 0)

/--
**A poll keeps its outputs, whatever they are, exactly if nothing is asked, or if what comes fits the
buffer and is either passed over or a reply with all the words.**
-/
theorem polls_keep_iff (d : Decoder) (line : Line) (r : Reaction) (more : List Reaction)
    (hd : d ∈ decoders) (hline : line.reactions = r :: more) :
    (∀ out, d.Holds out → Kept d (d.call line out) out r.arrivals) ↔
      line.fd = 0 ∨ r.written ≤ 0 ∨ (d.heard r.arrivals).Inside (List.replicate d.size 0) ∧
        ((d.heard r.arrivals).cells[1]? = some (some 0x02) ∨ Provides d r.arrivals) := by
  obtain ⟨h5, hfields, hoffsets⟩ := decoders_sound d hd
  obtain ⟨out₀, hout₀, -⟩ := exists_holds_ne hfields []
  have hcases := @request_cases d.size d.first d.second line r more h5 hline
  rcases hcases with ⟨hrefused, ret, _, line', hrequest⟩ |
    ⟨hfd, hw, ⟨hinside, fault, hrequest⟩ | ⟨hinside, line', hrequest⟩⟩
  · constructor
    · intro _
      exact hrefused.elim Or.inl (fun hw => Or.inr (Or.inl hw))
    · intro _ out _
      exact kept_of_same (call_of_refused hrequest)
  · constructor
    · intro hkept
      exact absurd (hkept out₀ hout₀) (not_kept_of_error (call_of_error hrequest))
    · rintro (h | h | h)
      · exact absurd h hfd
      · exact absurd h (not_le.mpr hw)
      · exact absurd h.1 hinside
  · have hrest : (line.fd = 0 ∨ r.written ≤ 0 ∨ (d.heard r.arrivals).Inside (List.replicate d.size 0) ∧
        ((d.heard r.arrivals).cells[1]? = some (some 0x02) ∨ Provides d r.arrivals)) ↔
        ((d.heard r.arrivals).cells[1]? = some (some 0x02) ∨ Provides d r.arrivals) := by
      simp only [hfd, not_le.mpr hw, hinside, false_or, true_and]
    have htwo := byteAt_one_eq_two_iff (show 1 < d.size by omega) r.arrivals
    simp only [hrest, call_of_replied hrequest]
    by_cases hpassed : (d.heard r.arrivals).cells[1]? = some (some 0x02)
    · simp only [if_pos (htwo.mpr hpassed)]
      exact ⟨fun _ => Or.inl hpassed, fun _ out _ => kept_of_same rfl⟩
    · simp only [if_neg (fun h => hpassed (htwo.mp h)), hpassed, false_or]
      cases hvalues : d.values (d.buffer r.arrivals) with
      | error fault =>
        constructor
        · intro hkept
          exact absurd (hkept out₀ hout₀) (not_kept_of_error rfl)
        · rintro ⟨reply, hreply, hwords⟩
          obtain ⟨vs, hvs⟩ := values_of_provides hreply (room_of_inside hinside hreply) hoffsets hwords
          rw [hvalues] at hvs
          exact absurd hvs (by simp)
      | ok vs =>
        have hkept : ∀ out, Kept d (.ok ((d.heard r.arrivals).verdict (List.replicate d.size 0), vs, line'))
            out r.arrivals ↔ vs = out ∨ Provides d r.arrivals :=
          fun _ => kept_values_iff hoffsets hinside hvalues rfl
        constructor
        · intro hall
          obtain ⟨out, hholds, hne⟩ := exists_holds_ne hfields vs
          exact ((hkept out).mp (hall out hholds)).resolve_left hne
        · intro hprovides out _
          exact (hkept out).mpr (Or.inr hprovides)

/-- A line on which the next request meets these arrivals. -/
def requested (port : Port) : Line where
  fd := 3
  reactions := [⟨5, port⟩]

theorem polls_keep_loadcell :
    Kept powerReadLoadcell (powerReadLoadcell.call (requested (fiveReply.bytes.map (.item · true)))
      [.double 7]) [.double 7] (fiveReply.bytes.map (.item · true)) := by
  have hreply : Replies (fiveReply.bytes.map (.item · true)) fiveReply :=
    ⟨_, [], [], (List.append_nil _).symm, delivers_map_item _ true, by simp⟩
  have hinside := @inside_of_replies (List.replicate 255 0) _ _ hreply (by decide +kernel)
  have hprovides : Provides powerReadLoadcell (fiveReply.bytes.map (.item · true)) := by
    refine ⟨fiveReply, hreply, ?_⟩
    intro f hf
    obtain rfl := List.mem_singleton.mp hf
    exact ⟨5, by decide, trivial⟩
  have hkeep := (polls_keep_iff powerReadLoadcell (requested (fiveReply.bytes.map (.item · true))) _ []
    (by simp [decoders]) rfl).mpr (Or.inr (Or.inr ⟨hinside, Or.inr hprovides⟩))
  exact hkeep [.double 7] (.cons trivial .nil)

/-- Nothing comes within the time, and the load is 0 instead of 7. -/
theorem polls_not_keep_silent :
    (powerReadLoadcell.call (requested [.timeout]) [.double 7]).map (fun r => (r.1, r.2.1)) =
      .ok (some (-10), [.double 0]) := by
  decide +kernel

end Tetra.Serial.Power
