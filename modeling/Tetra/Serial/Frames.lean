import Tetra.Serial.Reception
import Mathlib.Data.List.TakeDrop

/-!
# The frames that `get_response` accepts

`getResponse_accepts_frames` says which byte streams `get_response` accepts: bytes without `STX`,
then one frame `okReply b`. What is behind the frame stays on the port, so successive calls return
successive frames.

The proof goes through `delimited_eq_complete_iff`, the grammar of a reception that came to its end,
whatever flag and checksum it has.
-/

namespace Tetra.Serial

open Arrival Memory

/-! ## The second loop -/

theorem foldlM_untilLrc {bs : List UInt8} {prev s : UInt8} :
    bs.foldlM untilLrc prev = some s ↔ etx ∉ (prev :: bs).dropLast ∧ (prev :: bs).getLast? = some s := by
  induction bs generalizing prev with
  | nil => simp
  | cons b bs ih =>
    rw [List.foldlM_cons, List.dropLast_cons_cons, List.getLast?_cons_cons]
    by_cases hp : prev = etx
    · simp [untilLrc, hp]
    · simpa [untilLrc, hp, Ne.symm hp] using ih

/-- Behind an `STX`, the second loop ends with the first `ETX` and one byte more. -/
theorem intake_untilLrc_iff {port rest : Port} {items : List UInt8} :
    intake untilLrc stx port = ⟨items, true, rest⟩ ↔
      (∃ b l, items = b ++ [etx, l] ∧ etx ∉ b) ∧ ∃ front, Delivers front items ∧ port = front ++ rest := by
  rw [intake_eq_complete_iff]
  refine and_congr ⟨?_, ?_⟩ Iff.rfl
  · rintro ⟨init, l, s, rfl, hinit, hl⟩
    obtain rfl : s = etx := by
      by_contra hne
      simp [untilLrc, hne] at hl
    obtain ⟨hfree, hlast⟩ := foldlM_untilLrc.mp hinit
    rcases init.eq_nil_or_concat with rfl | ⟨b, c, rfl⟩
    · exact absurd hlast (by decide)
    · rw [List.concat_eq_append, ← List.cons_append, List.dropLast_concat] at hfree
      obtain rfl : c = etx := by simpa [List.getLast?_cons] using hlast
      exact ⟨b, l, by simp, fun h => hfree (List.mem_cons_of_mem _ h)⟩
  · rintro ⟨b, l, rfl, hb⟩
    refine ⟨b ++ [etx], l, etx, by simp, foldlM_untilLrc.mpr ⟨?_, by simp [List.getLast?_cons]⟩,
      by simp [untilLrc]⟩
    rw [← List.cons_append, List.dropLast_concat]
    rintro (_ | ⟨_, h⟩)
    exact hb h

/-- A reception is complete exactly on skipped bytes, an `STX`, the first `ETX` and one byte more. -/
theorem delimited_eq_complete_iff {port rest : Port} {noise frame : List UInt8} :
    delimited port = ⟨noise, frame, true, rest⟩ ↔
      (∃ b l, frame = stx :: (b ++ [etx, l]) ∧ etx ∉ b) ∧ stx ∉ noise ∧
        ∃ front, Delivers front (noise ++ frame) ∧ port = front ++ rest := by
  constructor
  · intro h
    rcases reception_cases (intake untilLrc stx) port with
      ⟨front, noise', port, rfl, hfront, hnoise⟩ | ⟨_, _, _, hc⟩
    · rw [delimited_of_delivers hfront hnoise] at h
      obtain ⟨rfl, rfl, hc, rfl⟩ : noise' = noise ∧ stx :: (intake untilLrc stx port).items = frame ∧
          (intake untilLrc stx port).complete = true ∧ (intake untilLrc stx port).rest = rest := by
        simpa using h
      obtain ⟨⟨b, l, hitems, hb⟩, front', hfront', hport⟩ := intake_untilLrc_iff.mp
        (show intake untilLrc stx port = ⟨_, true, _⟩ by rw [← hc])
      refine ⟨⟨b, l, by rw [hitems], hb⟩, hnoise, front ++ front', ?_, by rw [List.append_assoc, ← hport]⟩
      simpa using hfront.append hfront'
    · rw [← delimited, h] at hc
      simp at hc
  · rintro ⟨⟨b, l, rfl, hb⟩, hnoise, front, hfront, rfl⟩
    rw [← List.singleton_append, ← List.append_assoc] at hfront
    obtain ⟨front, back, rfl, hfront, hback⟩ := hfront.split
    rw [List.append_assoc, delimited_of_delivers hfront hnoise,
      intake_untilLrc_iff.mpr ⟨⟨b, l, rfl, hb⟩, back, hback, rfl⟩]

/-! ## Replies -/

/-- `FLAG_OK`, a body, and the checksum over both and the `ETX` behind them. -/
def okReply (body : List UInt8) : List UInt8 :=
  [stx, flagOk] ++ body ++ [etx, lrc (flagOk :: body ++ [etx])]

theorem okReply_append (body rest : List UInt8) : okReply body ++ rest =
    (stx :: flagOk :: body) ++ etx :: (lrc (flagOk :: body ++ [etx]) :: rest) := by
  simp [okReply]

theorem etx_not_mem_flagged {body : List UInt8} (h : etx ∉ body) : etx ∉ flagOk :: body := by
  rw [List.mem_cons, not_or]
  exact ⟨by decide, h⟩

theorem etx_not_mem_reply {body : List UInt8} (h : etx ∉ body) : etx ∉ stx :: flagOk :: body := by
  rw [List.mem_cons, not_or]
  exact ⟨by decide, etx_not_mem_flagged h⟩

/-- A complete frame is accepted exactly if it is an `okReply`. -/
theorem accepted_iff {b : List UInt8} {l : UInt8} (hb : etx ∉ b) :
    Accepted (stx :: (b ++ [etx, l])) ↔
      ∃ body, etx ∉ body ∧ stx :: (b ++ [etx, l]) = okReply body := by
  have hlast : (stx :: (b ++ [etx, l])).getLast? = some l := by simp [List.getLast?_cons]
  have hsum : (stx :: (b ++ [etx, l])).tail.dropLast = b ++ [etx] := by
    rw [List.tail_cons, ← List.singleton_append, ← List.append_assoc, List.dropLast_concat]
  rw [Accepted, hlast, hsum]
  constructor
  · rintro ⟨hflag, hl⟩
    cases b with
    | nil => exact absurd hflag (by simp [etx, flagOk])
    | cons c body =>
      obtain rfl : c = flagOk := by simpa using hflag
      obtain rfl := Option.some.inj hl
      exact ⟨body, fun h => hb (List.mem_cons_of_mem _ h), by simp [okReply]⟩
  · rintro ⟨body, _, heq⟩
    have hb' : b ++ [etx, l] = (flagOk :: body) ++ [etx, lrc (flagOk :: body ++ [etx])] := by
      simpa [okReply] using heq
    obtain ⟨rfl, hl⟩ := List.append_inj' hb' rfl
    exact ⟨by simp, by simpa using hl⟩

/-- Skipped bytes and a reply. -/
structure Framed where
  noise : List UInt8
  body : List UInt8
  noise_free : stx ∉ noise
  body_free : etx ∉ body

/-- `n ++ [STX, FLAG_OK] ++ b ++ [ETX, l]` -/
def Framed.bytes (f : Framed) : List UInt8 := f.noise ++ okReply f.body

theorem delimited_framed {front rest : Port} {f : Framed} (hfront : Delivers front f.bytes) :
    delimited (front ++ rest) = ⟨f.noise, okReply f.body, true, rest⟩ := by
  have hfree := etx_not_mem_flagged f.body_free
  exact delimited_eq_complete_iff.mpr ⟨⟨flagOk :: f.body, lrc (flagOk :: f.body ++ [etx]),
    by simp [okReply], hfree⟩, f.noise_free, front, hfront, rfl⟩

/-- A reception succeeds exactly if the port delivers skipped bytes and a reply. -/
theorem verdict_delimited_iff {port : Port} :
    (delimited port).verdict = 0 ↔
      ∃ (f : Framed) (front rest : Port), Delivers front f.bytes ∧ port = front ++ rest := by
  rw [Reception.verdict_eq_zero_iff]
  constructor
  · rintro ⟨hc, haccepted⟩
    obtain ⟨⟨b, l, hframe, hb⟩, hnoise, front, hfront, hport⟩ := delimited_eq_complete_iff.mp
      (show delimited port = ⟨_, _, true, _⟩ by rw [← hc])
    rw [hframe, accepted_iff hb] at haccepted
    obtain ⟨body, hbody, heq⟩ := haccepted
    refine ⟨⟨_, body, hnoise, hbody⟩, front, _, ?_, hport⟩
    rwa [hframe, heq] at hfront
  · rintro ⟨f, front, rest, hfront, rfl⟩
    rw [delimited_framed hfront]
    refine ⟨rfl, ?_⟩
    have hfree := etx_not_mem_flagged f.body_free
    have heq : okReply f.body = stx :: (flagOk :: f.body ++ [etx, lrc (flagOk :: f.body ++ [etx])]) := by
      simp [okReply]
    rw [heq, accepted_iff hfree]
    exact ⟨f.body, f.body_free, heq.symm⟩

/-! ## The bytes a reception needs room for -/

theorem dropWhile_append_noise {noise bs : List UInt8} (h : stx ∉ noise) :
    (noise ++ bs).dropWhile (· ≠ stx) = bs.dropWhile (· ≠ stx) := by
  refine List.dropWhile_append_of_pos fun c hc => ?_
  rw [decide_eq_true_eq]
  rintro rfl
  exact h hc

/-- The bytes from the first `STX` to the byte after the next `ETX`, or to the end. -/
def stretch (bs : List UInt8) : List UInt8 :=
  let r := bs.dropWhile (· ≠ stx)
  r.takeWhile (· ≠ etx) ++ (r.dropWhile (· ≠ etx)).take 2

theorem items_untilLrc {port : Port} {bs : List UInt8} (h : Delivers port bs) (prev : UInt8) :
    prev :: (intake untilLrc prev port).items =
      (prev :: bs).takeWhile (· ≠ etx) ++ ((prev :: bs).dropWhile (· ≠ etx)).take 2 := by
  induction bs generalizing port prev with
  | nil =>
    obtain rfl := delivers_nil_right.mp h
    by_cases hp : prev = etx <;> simp [intake, hp]
  | cons b bs ih =>
    cases port with
    | nil => simp at h
    | cons arrival port =>
      cases arrival with
      | timeout => simp at h
      | error => simp at h
      | item c more =>
        obtain ⟨rfl, htail⟩ := delivers_cons_item.mp h
        by_cases hp : prev = etx
        · rw [intake_item_none more (by simp [untilLrc, hp])]
          simp [hp]
        · rw [intake_item_some more (by simp [untilLrc, hp] : untilLrc prev c = some c)]
          simpa [Intake.prepend, hp] using ih htail c

theorem frame_delimited {port : Port} {bs : List UInt8} (h : Delivers port bs) :
    (delimited port).frame = stretch bs := by
  by_cases hstx : stx ∈ bs
  · obtain ⟨noise, r, rfl, hnoise⟩ := List.eq_append_cons_of_mem hstx
    rw [← List.singleton_append, ← List.append_assoc] at h
    obtain ⟨front, port, rfl, hfront, hport⟩ := h.split
    have hdrop : (noise ++ stx :: r).dropWhile (· ≠ stx) = stx :: r := by
      rw [dropWhile_append_noise hnoise]
      simp
    rw [delimited_of_delivers hfront hnoise, stretch, hdrop]
    exact items_untilLrc hport stx
  · have hall : bs.dropWhile (· ≠ stx) = [] := by
      rw [← List.append_nil bs, dropWhile_append_noise hstx, List.dropWhile_nil]
    rw [stretch, hall, delimited, reception_of_not_mem h hstx]
    rfl

/-! ## The grammar of `get_response` -/

/-- What successive calls of `get_response` return, each with a buffer of its own. -/
def responses : List Buffer → Port → Except Fault (List (Int × Buffer) × Port)
  | [], port => return ([], port)
  | data :: datas, port => do
    let (ret, data, port) ← getResponse data port
    let (rets, port) ← responses datas port
    return ((ret, data) :: rets, port)

/-- On skipped bytes and a reply that fits, `get_response` returns the reply. -/
theorem getResponse_framed {data : Buffer} {front rest : Port} {f : Framed}
    (hfit : (okReply f.body).length ≤ data.length) (hfront : Delivers front f.bytes) :
    getResponse data (front ++ rest) =
      .ok (0, okReply f.body ++ data.drop (okReply f.body).length, rest) := by
  have h0 : 0 < data.length := by
    simp [okReply] at hfit
    omega
  have hverdict := verdict_delimited_iff.mpr ⟨f, front, rest, hfront, rfl⟩
  rw [delimited_framed hfront] at hverdict
  rw [getResponse_of_fits h0 (by rwa [delimited_framed hfront]), delimited_framed hfront, hverdict,
    Reception.fill_of_frame (by simp [okReply])]

theorem responses_framed {calls : List (Buffer × Framed)} {port rest : Port}
    (hfit : ∀ c ∈ calls, (okReply c.2.body).length ≤ c.1.length)
    (hport : Delivers port (calls.flatMap fun c => c.2.bytes)) :
    responses (calls.map (·.1)) (port ++ rest) = .ok (calls.map fun (data, f) =>
      (0, okReply f.body ++ data.drop (okReply f.body).length), rest) := by
  induction calls generalizing port with
  | nil =>
    obtain rfl := delivers_nil_right.mp (by simpa using hport)
    rfl
  | cons c calls ih =>
    rw [List.flatMap_cons] at hport
    obtain ⟨front, back, rfl, hfront, hback⟩ := hport.split
    have hcalls := ih (fun c' hc' => hfit c' (List.mem_cons_of_mem _ hc')) hback
    rw [List.map_cons, responses, List.append_assoc, getResponse_framed (hfit c (by simp)) hfront,
      ok_bind]
    simp only [hcalls]
    rfl

section Accepts

variable {data data' : Buffer} {port port' : Port} {bs : List UInt8}

/-- What is accepted is a frame at the front of what the port delivers. -/
theorem verdict_delivered_iff (hport : Delivers port bs) : (delimited port).verdict = 0 ↔
    ∃ (f : Framed) (rest : List UInt8), bs = f.bytes ++ rest := by
  rw [verdict_delimited_iff]
  constructor
  · rintro ⟨f, front, rest, hfront, rfl⟩
    refine ⟨f, items rest, ?_⟩
    rw [← hport.items_eq, items_append, hfront.items_eq]
  · rintro ⟨f, rest, rfl⟩
    obtain ⟨front, back, rfl, hfront, _⟩ := hport.split
    exact ⟨f, front, back, hfront, rfl⟩

theorem getResponse_delivered (hne : data ≠ []) (hport : Delivers port bs)
    (hfit : (stretch bs).length ≤ data.length) : getResponse data port =
      .ok ((delimited port).verdict, (delimited port).fill data, (delimited port).rest) :=
  getResponse_of_fits (List.length_pos_of_ne_nil hne) (by rwa [frame_delimited hport])

theorem getResponse_delivered_iff (hne : data ≠ []) (hport : Delivers port bs)
    (hfit : (stretch bs).length ≤ data.length) : getResponse data port = .ok (0, data', port') ↔
      ∃ (f : Framed) (rest : List UInt8), bs = f.bytes ++ rest ∧
        data' = okReply f.body ++ data.drop (okReply f.body).length ∧
        port' = port.drop f.bytes.length ∧ Delivers port' rest := by
  constructor
  · intro h
    rw [getResponse_delivered hne hport hfit] at h
    simp only [Except.ok.injEq, Prod.mk.injEq] at h
    obtain ⟨f, rest, rfl⟩ := (verdict_delivered_iff hport).mp h.1
    obtain ⟨front, back, rfl, hfront, hback⟩ := hport.split
    rw [delimited_framed hfront, Reception.fill_of_frame (by simp [okReply])] at h
    obtain ⟨_, rfl, rfl⟩ := h
    exact ⟨f, rest, rfl, rfl, by rw [← hfront.length_eq, List.drop_left], hback⟩
  · rintro ⟨f, rest, rfl, rfl, rfl, _⟩
    obtain ⟨front, back, rfl, hfront, _⟩ := hport.split
    have hlength : (okReply f.body).length ≤ data.length := by
      rwa [← frame_delimited hport, delimited_framed hfront] at hfit
    rw [← hfront.length_eq, List.drop_left, getResponse_framed hlength hfront]

end Accepts

/--
**`get_response` accepts skipped bytes and one `okReply`, leaves what is behind it, and fails on
everything else; so its successive calls return the replies of a stream in order.**
-/
theorem getResponse_accepts_frames :
    (∀ (data : Buffer) (port : Port) (bs : List UInt8), data ≠ [] → Delivers port bs →
      (stretch bs).length ≤ data.length →
      (∀ data' port', getResponse data port = .ok (0, data', port') ↔
        ∃ (f : Framed) (rest : List UInt8), bs = f.bytes ++ rest ∧
          data' = okReply f.body ++ data.drop (okReply f.body).length ∧
          port' = port.drop f.bytes.length ∧ Delivers port' rest) ∧
      ((¬ ∃ (f : Framed) (rest : List UInt8), bs = f.bytes ++ rest) →
        ∃ data' port', getResponse data port = .ok (-1, data', port'))) ∧
    ∀ (calls : List (Buffer × Framed)) (port : Port) (rest : List UInt8),
      (∀ c ∈ calls, (okReply c.2.body).length ≤ c.1.length) →
      Delivers port ((calls.flatMap fun c => c.2.bytes) ++ rest) →
      ∃ port', responses (calls.map (·.1)) port = .ok (calls.map fun (data, f) =>
        (0, okReply f.body ++ data.drop (okReply f.body).length), port') ∧ Delivers port' rest := by
  constructor
  · intro data port bs hne hport hfit
    refine ⟨fun data' port' => getResponse_delivered_iff hne hport hfit, ?_⟩
    intro hnone
    have hverdict : (delimited port).verdict = -1 :=
      Reception.verdict_eq_neg_one fun h => hnone ((verdict_delivered_iff hport).mp h)
    exact ⟨_, _, by rw [getResponse_delivered hne hport hfit, hverdict]⟩
  · intro calls port rest hfit hport
    obtain ⟨front, back, rfl, hfront, hback⟩ := hport.split
    exact ⟨back, responses_framed hfit hfront, hback⟩

/-- A reply to `1` behind one byte of noise; its checksum has the value of `STX`. -/
def noisyReply : Framed := ⟨[0x07], [0x31], by decide, by decide⟩

theorem getResponse_accepts_frames_noisy :
    getResponse (List.replicate 8 0) ((noisyReply.bytes ++ [0x09]).map fun b => .item b false) =
        .ok (0, okReply [0x31] ++ [0, 0, 0], [.item 0x09 false]) ∧
      ∃ port', responses [List.replicate 5 0, List.replicate 8 0]
        ((noisyReply.bytes ++ noisyReply.bytes).map fun b => .item b true) =
          .ok ([(0, okReply [0x31]), (0, okReply [0x31] ++ [0, 0, 0])], port') ∧
        Delivers port' [] :=
  ⟨((getResponse_accepts_frames.1 (List.replicate 8 0)
      ((noisyReply.bytes ++ [0x09]).map fun b => .item b false) (noisyReply.bytes ++ [0x09])
      (by decide) (delivers_map_item _ _) (by decide)).1 _ _).mpr
        ⟨noisyReply, [0x09], rfl, rfl, rfl, by unfold Delivers; rfl⟩,
    getResponse_accepts_frames.2 [(List.replicate 5 0, noisyReply), (List.replicate 8 0, noisyReply)]
      ((noisyReply.bytes ++ noisyReply.bytes).map fun b => .item b true) []
      (by decide) (delivers_map_item (noisyReply.bytes ++ noisyReply.bytes) true)⟩

end Tetra.Serial
