import Mathlib.Data.List.TakeDrop
import Tetra.Lib.SignMagnitude
import Tetra.Web.Frame

/-!
# The format of a WebSocket frame

`WireFrame` is a frame as it is sent: two bytes of header, a length that the seven bits of the header
have or announce, a key if the frame is masked, and the payload. A payload has as many bytes as its
length says, with one exception: where a frame without a key spells the length zero out in two or
eight bytes, the parser does not look at it before it has taken one more byte.

`isCode_wire` says that these are the frames the parser accepts, from any frame it was left with, and
that every stream of bytes can be read as frames.
-/

namespace Tetra.Web

open Scanner SignMagnitude FrameReader

/-! ## Frames on the wire -/

/-- How many bytes spell the length out. -/
def extendedLength (len : Fin 128) : Nat :=
  if len.val < 126 then 0 else if len.val = 126 then 2 else 8

/-- The length that a header and the bytes behind it announce. -/
def announced (header : Header) (extended : List UInt8) : Nat :=
  if header.len.val < 126 then header.len.val else unsigned extended

/-- The bytes that the parser takes as payload. -/
def payloadLength (header : Header) (extended : List UInt8) : Nat :=
  if ¬ header.len.val < 126 ∧ header.mask = false then max 1 (announced header extended)
  else announced header extended

/-- A frame as it is sent. -/
structure WireFrame where
  header : Header
  extended : List UInt8
  key : Option (Fin 4 → UInt8)
  payload : List UInt8
  length_extended : extended.length = extendedLength header.len
  isSome_key : key.isSome = header.mask
  length_payload : payload.length = payloadLength header extended

/-- Every byte of a payload with its byte of the key. -/
def xorKey (key : Fin 4 → UInt8) (payload : List UInt8) : List UInt8 :=
  payload.mapIdx fun i c => c ^^^ maskByte key i

@[simp] theorem length_xorKey (key : Fin 4 → UInt8) (payload : List UInt8) :
    (xorKey key payload).length = payload.length := List.length_mapIdx

/-- Masking twice is not masking. -/
@[simp] theorem xorKey_xorKey (key : Fin 4 → UInt8) (payload : List UInt8) :
    xorKey key (xorKey key payload) = payload := by
  refine List.ext_getElem (by simp) fun i h₁ h₂ => ?_
  simp only [xorKey, List.getElem_mapIdx]
  rw [UInt8.xor_assoc, UInt8.xor_self, UInt8.xor_zero]

def keyBytes : Option (Fin 4 → UInt8) → List UInt8
  | none => []
  | some key => [maskByte key 0, maskByte key 1, maskByte key 2, maskByte key 3]

namespace WireFrame

variable (w : WireFrame) (prior : WebsocketFrame)

def bytes : List UInt8 :=
  w.header.byte0 :: w.header.byte1 :: (w.extended ++ (keyBytes w.key ++ w.payload))

/-- What the frame says. -/
def content : List UInt8 :=
  match w.key with
  | none => w.payload
  | some key => xorKey key w.payload

/-- The frame that the parser makes of it; without a key, the last one stays. -/
def frame : WebsocketFrame where
  header := w.header
  length := announced w.header w.extended
  mask := w.key.getD prior.mask
  content := w.content

/-- Where the parser ends. -/
def final : FrameReader where
  state :=
    if payloadLength w.header w.extended = 0 then
      if w.header.mask then .maskByte4 else .headerByte2
    else .body
  frame := w.frame prior

end WireFrame

/-! ## The parser reads a frame -/

section Reads

variable {f prior : WebsocketFrame} {b : UInt8} {h : Header}

/-- The second byte completes the header. -/
theorem consume_headerByte2 (hf : f.header.setByte1 b = h) :
    consume ⟨.headerByte2, f⟩ b =
      if h.len.val < 126 then
        if h.mask then (.more, ⟨.maskByte1, { f with header := h, length := h.len.val, content := [] }⟩)
        else if 0 < h.len.val then
          (.more, ⟨.body, { f with header := h, length := h.len.val, content := [] }⟩)
        else (.accept, ⟨.headerByte2, { f with header := h, length := h.len.val, content := [] }⟩)
      else if h.len.val = 126 then (.more, ⟨.length2BytesLeft, { f with header := h, length := 0 }⟩)
      else (.more, ⟨.length8BytesLeft, { f with header := h, length := 0 }⟩) := by
  subst hf
  rfl

/-- The bytes of a length that is spelled out. -/
theorem reads_extended {extended : List UInt8} (hlen : ¬ h.len.val < 126)
    (hext : extended.length = extendedLength h.len) (hf : f.header = h) (hzero : f.length = 0) :
    Reads consume
      ⟨if h.len.val = 126 then .length2BytesLeft else .length8BytesLeft, f⟩ extended
      ⟨if h.mask then .maskByte1 else .body, { f with length := unsigned extended, content := [] }⟩ := by
  have hor : orBytes 0 extended = unsigned extended := by
    have hplaces := orBytes_eq extended 0
    rwa [Nat.zero_mul, Nat.zero_add] at hplaces
  rw [← hor]
  subst hf
  rw [extendedLength, if_neg hlen] at hext
  by_cases h126 : f.header.len.val = 126
  · rw [if_pos h126] at hext ⊢
    match extended, hext with
    | [b₁, b₀], _ =>
      rw [reads_cons (by rfl), reads_cons (by rfl), reads_nil]
      simp only [orLength, hzero]
      rfl
  · rw [if_neg h126] at hext ⊢
    match extended, hext with
    | [b₇, b₆, b₅, b₄, b₃, b₂, b₁, b₀], _ =>
      rw [reads_cons (by rfl), reads_cons (by rfl), reads_cons (by rfl), reads_cons (by rfl),
        reads_cons (by rfl), reads_cons (by rfl), reads_cons (by rfl), reads_cons (by rfl), reads_nil]
      simp only [orLength, hzero]
      rfl

theorem update_key (key mask : Fin 4 → UInt8) :
    Function.update (Function.update (Function.update (Function.update mask 0 (maskByte key 0)) 1
      (maskByte key 1)) 2 (maskByte key 2)) 3 (maskByte key 3) = key := by
  funext i
  match i with
  | 0 | 1 | 2 | 3 => rfl

/-- What the parser makes of a whole payload. -/
def unmasked (f : WebsocketFrame) : WebsocketFrame :=
  if f.header.mask then { f with content := unmask f } else f

theorem accepts_body (f : WebsocketFrame) {payload : List UInt8} (hne : payload ≠ [])
    (hlen : f.content.length + payload.length = max (f.content.length + 1) f.length) :
    Accepts consume ⟨.body, f⟩ payload
      ⟨.body, unmasked { f with content := f.content ++ payload }⟩ := by
  induction payload generalizing f with
  | nil => exact absurd rfl hne
  | cons b payload ih =>
    rw [List.length_cons] at hlen
    by_cases hlast : f.content.length + 1 < f.length
    · have hstep : consume ⟨.body, f⟩ b =
          (.more, ⟨.body, { f with content := f.content ++ [b] }⟩) := by
        simp [consume, hlast]
      have hrest : payload ≠ [] := by
        rintro rfl
        rw [List.length_nil] at hlen
        omega
      rw [accepts_cons_more hstep]
      have hbody := ih { f with content := f.content ++ [b] } hrest (by
        simp only [List.length_append, List.length_singleton]
        omega)
      simpa using hbody
    · have hstep : consume ⟨.body, f⟩ b =
          (.accept, ⟨.body, unmasked { f with content := f.content ++ [b] }⟩) := by
        simp only [consume, List.length_append, List.length_singleton, if_neg hlast,
          unmasked]
        split <;> rfl
      have hrest : payload = [] := List.length_eq_zero_iff.mp (by omega)
      subst hrest
      exact (accepts_cons_accept hstep).mpr ⟨rfl, rfl⟩

/-- The whole payload, of a frame without a key or with its key. -/
theorem unmasked_eq (w : WireFrame) {length : Nat} {mask : Fin 4 → UInt8}
    (hlen : w.key = none ∨ w.payload.length = length) (hmask : ∀ key, w.key = some key → mask = key) :
    unmasked ⟨w.header, length, mask, w.payload⟩ = ⟨w.header, length, mask, w.content⟩ := by
  have hsome := w.isSome_key
  rw [unmasked, WireFrame.content]
  cases hkey : w.key with
  | none =>
    rw [hkey] at hsome
    exact if_neg (by rw [← hsome]; decide)
  | some key =>
    rw [hkey] at hsome
    refine (if_pos hsome.symm).trans ?_
    have hlength := hlen.resolve_left (by rw [hkey]; exact Option.some_ne_none key)
    obtain rfl := hmask key hkey
    simp only [unmask, xorKey]
    congr 1
    refine List.ext_getElem (by simp) fun i h₁ h₂ => ?_
    have hi : i < length := by
      rw [← hlength]
      simpa using h₁
    simp [hi]

/-- The parser behind the length: a key if there is one, and the payload. -/
theorem accepts_payload (w : WireFrame) (hheader : f.header = w.header) (hcontent : f.content = [])
    (hlength : f.length = announced w.header w.extended)
    (hne : w.header.mask = false → payloadLength w.header w.extended ≠ 0) :
    Accepts consume ⟨if w.header.mask then .maskByte1 else .body, f⟩
      (keyBytes w.key ++ w.payload) ⟨(w.final f).state, { f with
        mask := w.key.getD f.mask, content := w.content }⟩ := by
  obtain ⟨header, length, mask, content⟩ := f
  obtain rfl : content = [] := hcontent
  obtain rfl : header = w.header := hheader
  obtain rfl : length = announced w.header w.extended := hlength
  have hsome := w.isSome_key
  have hpayload := w.length_payload
  cases hkey : w.key with
  | none =>
    have hmask : w.header.mask = false := by rw [← hsome, hkey]; rfl
    have hpos := hne hmask
    have hnonempty : w.payload ≠ [] := by
      rintro h
      rw [h] at hpayload
      exact hpos hpayload.symm
    have hbody := accepts_body ⟨w.header, announced w.header w.extended, mask, []⟩ hnonempty
      (by
        simp only [List.length_nil, hpayload]
        unfold payloadLength at hpos ⊢
        split at hpos <;> split <;> omega)
    simp only [List.nil_append] at hbody
    rw [unmasked_eq w (.inl hkey) (by rw [hkey]; rintro key h; cases h)] at hbody
    simp only [WireFrame.final, hmask, hpos, if_false, keyBytes, List.nil_append, Option.getD_none]
    exact hbody
  | some key =>
    have hmask : w.header.mask = true := by rw [← hsome, hkey]; rfl
    have hlen : payloadLength w.header w.extended = announced w.header w.extended := by
      rw [payloadLength, if_neg (by rw [hmask]; simp)]
    rw [hlen] at hpayload
    rw [if_pos hmask, keyBytes]
    simp only [List.cons_append, List.nil_append, Option.getD_some]
    rw [accepts_cons_more (by rfl), accepts_cons_more (by rfl), accepts_cons_more (by rfl)]
    have hstep : consume ⟨.maskByte4, ⟨w.header, announced w.header w.extended,
        Function.update (Function.update (Function.update mask 0 (maskByte key 0)) 1 (maskByte key 1)) 2
          (maskByte key 2), []⟩⟩ (maskByte key 3) =
          if 0 < announced w.header w.extended then
            (.more, ⟨.body, ⟨w.header, announced w.header w.extended, key, []⟩⟩)
          else (.accept, ⟨.maskByte4, ⟨w.header, announced w.header w.extended, key, []⟩⟩) := by
      simp only [consume, update_key]
    by_cases hzero : announced w.header w.extended = 0
    · -- nothing is behind the key
      have hnil : w.payload = [] := List.length_eq_zero_iff.mp (hpayload.trans hzero)
      rw [if_neg (by omega)] at hstep
      rw [accepts_cons_accept hstep]
      refine ⟨?_, hnil⟩
      simp [WireFrame.final, hlen, hzero, hmask, WireFrame.content, hkey, hnil, xorKey]
    · have hnonempty : w.payload ≠ [] := by
        rintro h
        rw [h] at hpayload
        exact hzero hpayload.symm
      have hbody := accepts_body ⟨w.header, announced w.header w.extended, key, []⟩ hnonempty
        (by simp only [List.length_nil, hpayload]; omega)
      simp only [List.nil_append] at hbody
      rw [unmasked_eq w (.inr hpayload) (by rw [hkey]; rintro _ ⟨⟩; rfl)] at hbody
      rw [if_pos (Nat.pos_of_ne_zero hzero)] at hstep
      rw [accepts_cons_more hstep]
      simp only [WireFrame.final, hlen, hzero, if_false]
      exact hbody

/-- **A frame on the wire is accepted with its last byte.** -/
theorem accepts_wire (w : WireFrame) (prior : WebsocketFrame) :
    Accepts consume ⟨.headerByte1, prior⟩ w.bytes (w.final prior) := by
  have hheader : (prior.header.setByte0 w.header.byte0).setByte1 w.header.byte1 = w.header :=
    Header.setBytes_bytes _ _
  have hext := w.length_extended
  have hstep := consume_headerByte2
    (f := { prior with header := prior.header.setByte0 w.header.byte0 }) hheader
  rw [WireFrame.bytes, accepts_cons_more (by rfl)]
  by_cases hlen : w.header.len.val < 126
  · have hann : announced w.header w.extended = w.header.len.val := if_pos hlen
    have hpay : payloadLength w.header w.extended = w.header.len.val := by
      rw [payloadLength, if_neg (by simp [hlen]), hann]
    have hnil : w.extended = [] := by
      rw [extendedLength, if_pos hlen] at hext
      exact List.length_eq_zero_iff.mp hext
    rw [if_pos hlen] at hstep
    by_cases hzero : w.header.mask = false ∧ w.header.len.val = 0
    · obtain ⟨hmask, hzero⟩ := hzero
      rw [if_neg (by rw [hmask]; decide), if_neg (by omega)] at hstep
      rw [accepts_cons_accept hstep]
      have hkey : w.key = none := by simpa [hmask] using w.isSome_key
      have hpayload : w.payload = [] :=
        List.length_eq_zero_iff.mp (by rw [w.length_payload, hpay, hzero])
      rw [hzero, hnil] at hann hpay
      simp [WireFrame.final, WireFrame.frame, WireFrame.content, hkey, hpayload, hnil, hann, hpay, hzero,
        hmask, keyBytes]
    · have hmore := accepts_payload w (f := { prior with
        header := w.header, length := w.header.len.val, content := [] }) rfl rfl hann.symm
        (by rw [hpay]; intro hm h0; exact hzero ⟨hm, h0⟩)
      have hmid : consume
          ⟨.headerByte2, { prior with header := prior.header.setByte0 w.header.byte0 }⟩ w.header.byte1 =
          (.more, ⟨if w.header.mask then .maskByte1 else .body,
            { prior with header := w.header, length := w.header.len.val, content := [] }⟩) := by
        rw [hstep]
        by_cases hmask : w.header.mask = true
        · rw [if_pos hmask, if_pos hmask]
        · rw [if_neg hmask, if_neg hmask, if_pos]
          exact Nat.pos_of_ne_zero fun h0 => hzero ⟨by simpa using hmask, h0⟩
      rw [hnil, List.nil_append, accepts_cons_more hmid]
      simpa only [WireFrame.final, WireFrame.frame, hann] using hmore
  · rw [if_neg hlen] at hstep
    have hann : announced w.header w.extended = unsigned w.extended := if_neg hlen
    have hread := reads_extended (f := { prior with header := w.header, length := 0 }) hlen hext rfl rfl
    have hmore := accepts_payload w (f := { prior with
      header := w.header, length := unsigned w.extended, content := [] }) rfl rfl hann.symm
      (by intro hm; rw [payloadLength, if_pos ⟨hlen, hm⟩]; omega)
    have hmid : consume
        ⟨.headerByte2, { prior with header := prior.header.setByte0 w.header.byte0 }⟩ w.header.byte1 =
        (.more, ⟨if w.header.len.val = 126 then .length2BytesLeft else .length8BytesLeft,
          { prior with header := w.header, length := 0 }⟩) := by
      rw [hstep]
      split <;> rfl
    rw [accepts_cons_more hmid]
    simpa only [WireFrame.final, WireFrame.frame, hann] using hread.accepts hmore

end Reads

/-! ## Every stream is frames -/

theorem takeD_add {α : Type} (m n : Nat) (l : List α) (d : α) :
    l.takeD (m + n) d = l.takeD m d ++ (l.drop m).takeD n d := by
  induction m generalizing l with
  | zero => simp
  | succ m ih =>
    rw [Nat.succ_add]
    cases l with
    | nil => simp [ih []]
    | cons a l => simp [ih l]

/-- What is cut off with padding is the front of the list, or begins with the list. -/
theorem takeD_comparable {α : Type} (n : Nat) (l : List α) (d : α) :
    l.takeD n d <+: l ∨ l <+: l.takeD n d := by
  induction n generalizing l with
  | zero => exact .inl (by simp)
  | succ n ih =>
    cases l with
    | nil => exact .inr (List.nil_prefix)
    | cons a l => simpa using ih l

theorem keyBytes_getD (masked : Bool) (l : List UInt8) :
    keyBytes (if masked then some fun i => l.getD i 0 else none) =
      l.takeD (if masked then 4 else 0) 0 := by
  cases masked with
  | false => rfl
  | true => rcases l with _ | ⟨_, _ | ⟨_, _ | ⟨_, _ | ⟨_, _⟩⟩⟩⟩ <;> rfl

/-- A frame can be cut off any stream, if it may be padded. -/
theorem exists_wire (as : List UInt8) : ∃ (w : WireFrame) (n : Nat), w.bytes = as.takeD n 0 := by
  let header : Header := Header.setByte1 (Header.setByte0 ⟨0, false, false, false, false, 0, false⟩
    (as.getD 0 0)) (as.getD 1 0)
  let extended := (as.drop 2).takeD (extendedLength header.len) 0
  let behind := (as.drop 2).drop (extendedLength header.len)
  let rest := behind.drop (if header.mask then 4 else 0)
  let w : WireFrame :=
    { header, extended
      key := if header.mask then some fun i => behind.getD i 0 else none
      payload := rest.takeD (payloadLength header extended) 0
      length_extended := List.takeD_length ..
      isSome_key := by cases header.mask <;> rfl
      length_payload := List.takeD_length .. }
  refine ⟨w, 2 + (extendedLength header.len +
    ((if header.mask then 4 else 0) + payloadLength header extended)), ?_⟩
  rw [takeD_add, takeD_add, takeD_add, ← keyBytes_getD]
  have hfirst : as.takeD 2 0 = [header.byte0, header.byte1] := by
    rw [Header.byte0_setByte1, Header.byte0_setByte0, Header.byte1_setByte1]
    rcases as with _ | ⟨_, _ | ⟨_, _⟩⟩ <;> rfl
  rw [hfirst]
  rfl

/-- **The format.** From whatever frame it was left with, the parser accepts exactly the frames on the
wire, and every stream is the beginning of one or begins with one. -/
theorem isCode_wire (prior : WebsocketFrame) :
    IsCode consume ⟨.headerByte1, prior⟩ WireFrame.bytes (fun w => w.final prior) where
  accepts w := accepts_wire w prior
  complete as := by
    obtain ⟨w, n, hw⟩ := exists_wire as
    exact ⟨w, hw ▸ takeD_comparable n as 0⟩

end Tetra.Web
