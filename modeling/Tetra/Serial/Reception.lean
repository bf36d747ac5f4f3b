import Mathlib.Data.List.GetD
import Tetra.Serial.Common

/-!
# What the receivers take in

`get_response` and the `get_response2` of the drive are the same in outline: bytes are skipped up
to the first `STX`, the bytes from there on go to the buffer, and a reply that is complete is
checked. `Reception` is this without the buffer: what was skipped, what was kept, whether the reply
is complete, and what is left on the port. The receivers differ in how they find the end of the
reply, which is the argument `tail` of `reception`.

`getResponse_of_fits` and `getResponse_of_not_fits` reduce `get_response` to its reception; nothing
after them looks into its loops.
-/

namespace Tetra.Serial

open Arrival Memory

/-! ## The checksum -/

/-- The XOR of some bytes. -/
def lrc (bs : List UInt8) : UInt8 := bs.foldl (· ^^^ ·) 0

theorem makeLrc_eq {data : Buffer} {start num : Nat} (h : start + num ≤ data.length) :
    makeLrc data start num = .ok (lrc ((data.drop start).take num)) := by
  induction num with
  | zero => simp [makeLrc, lrc]
  | succ num ih =>
    have hlt : start + num < data.length := by omega
    have hnext : (data.drop start)[num]? = some data[start + num] := by
      rw [List.getElem?_drop, List.getElem?_eq_getElem hlt]
    rw [makeLrc] at ih ⊢
    rw [List.range_succ, List.foldlM_append, ih (by omega), List.take_add_one, hnext]
    simp [load_of_lt hlt, lrc, List.foldl_append]

theorem makeLrc_of_not_le {data : Buffer} {start num : Nat} (hstart : start ≤ data.length)
    (h : ¬ start + num ≤ data.length) : ∃ i, makeLrc data start num = .error (.load i) := by
  induction num with
  | zero => exact absurd hstart h
  | succ num ih =>
    rw [makeLrc, List.range_succ, List.foldlM_append, ← makeLrc]
    by_cases hle : start + num ≤ data.length
    · refine ⟨start + num, ?_⟩
      rw [makeLrc_eq hle, ok_bind, List.foldlM_cons, load_of_not_lt (by omega)]
      rfl
    · obtain ⟨i, hi⟩ := ih hle
      exact ⟨i, by rw [hi, error_bind]⟩

/-- `STX`, some content, `ETX` and the checksum. -/
def packet (content : List UInt8) : List UInt8 := stx :: content ++ [etx, lrc (content ++ [etx])]

@[simp] theorem length_packet (content : List UInt8) :
    (packet content).length = content.length + 3 := by
  simp [packet]

/-! ## Skipping to the first `STX` -/

/-- The first loop has enough when a byte is `STX`. -/
def seekStx (_ : Unit) (b : UInt8) : Option Unit := if b = stx then none else some ()

theorem foldlM_seekStx {bs : List UInt8} : bs.foldlM seekStx () = some () ↔ stx ∉ bs := by
  induction bs with
  | nil => simp
  | cons b bs ih =>
    rw [List.foldlM_cons]
    by_cases hb : b = stx
    · simp [seekStx, hb]
    · simpa [seekStx, hb, Ne.symm hb] using ih

/-- What `data` holds when skipped bytes have gone to its first cell. -/
def skipped (data : Buffer) (noise : List UInt8) : Buffer := noise.getLast?.elim data (data.set 0)

theorem skipped_cons (data : Buffer) (b : UInt8) (noise : List UInt8) :
    skipped data (b :: noise) = skipped (data.set 0 b) noise := by
  cases noise with
  | nil => rfl
  | cons c noise =>
    rw [skipped, skipped, List.getLast?_cons_cons, List.getLast?_cons]
    simp

@[simp] theorem length_skipped (data : Buffer) (noise : List UInt8) :
    (skipped data noise).length = data.length := by
  rw [skipped]
  cases noise.getLast? <;> simp

theorem byteAt_skipped (data : Buffer) (noise : List UInt8) {i : Nat} (hi : 0 < i) :
    byteAt (skipped data noise) i = byteAt data i := by
  unfold skipped byteAt
  cases noise.getLast? with
  | none => rfl
  | some b =>
    show ((data.set 0 b).getD i 0).toNat = _
    rw [List.getD_eq_getElem?_getD, List.getElem?_set_ne (by omega), ← List.getD_eq_getElem?_getD]

theorem byteAt_replicate_zero (n i : Nat) : byteAt (List.replicate n 0) i = 0 := by
  unfold byteAt
  rw [List.getD_eq_getElem?_getD, List.getElem?_replicate]
  split <;> rfl

theorem awaitStx_eq {data : Buffer} (h : 0 < data.length) (port : Port) :
    awaitStx data port = .ok ((intake seekStx () port).complete,
      skipped data (intake seekStx () port).items, (intake seekStx () port).rest) := by
  induction port generalizing data with
  | nil => rfl
  | cons arrival port ih =>
    match arrival with
    | .timeout => rfl
    | .error => rfl
    | .item b more =>
      rw [awaitStx, store_of_lt h, ok_bind, load_of_getElem? (List.getElem?_set_self h), ok_bind]
      by_cases hb : b = stx
      · rw [if_pos hb, intake_item_none more (by simp [seekStx, hb])]
        rfl
      · rw [if_neg hb, ih (by simpa using h),
          intake_item_some more (show seekStx () b = some () by simp [seekStx, hb])]
        simp [Intake.prepend, skipped_cons]

/-! ## Up to the byte after `ETX` -/

/-- The second loop has enough when the byte before the last is `ETX`. -/
def untilLrc (prev b : UInt8) : Option UInt8 := if prev = etx then none else some b

theorem awaitLrc_eq {data : Buffer} {index : Nat} {prev : UInt8} (port : Port) (hi : 0 < index)
    (hprev : data[index - 1]? = some prev) :
    awaitLrc data index port = do
      let data ← storeAll data index ((intake untilLrc prev port).items.map some)
      return ((intake untilLrc prev port).complete,
        index + (intake untilLrc prev port).items.length, data,
        (intake untilLrc prev port).rest) := by
  induction port generalizing data index prev with
  | nil => rfl
  | cons arrival port ih =>
    match arrival with
    | .timeout => rfl
    | .error => rfl
    | .item b more =>
      rw [awaitLrc]
      rcases Nat.lt_or_ge index data.length with hlt | hge
      · have hload : (data.set index b)[index + 1 - 2]? = some prev := by
          rw [show index + 1 - 2 = index - 1 by omega, List.getElem?_set_ne (by omega), hprev]
        rw [store_of_lt hlt, ok_bind, load_of_getElem? hload, ok_bind]
        by_cases hp : prev = etx
        · rw [if_pos hp, intake_item_none more (by simp [untilLrc, hp])]
          simp [storeAll, store_of_lt hlt]
        · rw [if_neg hp, ih (by omega) (show (data.set index b)[index + 1 - 1]? = some b by simp [hlt]),
            intake_item_some more (by simp [untilLrc, hp] : untilLrc prev b = some b)]
          simp [Intake.prepend, storeAll, store_of_lt hlt, Nat.add_comm, Nat.add_left_comm]
      · rw [store_of_not_lt (by omega)]
        -- the first byte does not fit, and there is one
        have hfirst : ∃ items, (intake untilLrc prev (.item b more :: port)).items = b :: items := by
          by_cases hp : prev = etx
          · exact ⟨[], by rw [intake_item_none more (by simp [untilLrc, hp])]⟩
          · exact ⟨_, by rw [intake_item_some more (by simp [untilLrc, hp] : untilLrc prev b = some b)]; rfl⟩
        obtain ⟨items, hitems⟩ := hfirst
        simp [hitems, storeAll, store_of_not_lt (show ¬ index < data.length by omega)]

/-! ## Receptions -/

/-- What a receiver takes from the port. -/
structure Reception where
  /-- The bytes before the first `STX`. -/
  noise : List UInt8
  /-- The bytes from the first `STX` on. -/
  frame : List UInt8
  complete : Bool
  rest : Port
  deriving DecidableEq, Repr

/-- The reception of a receiver that reads `tail` after the first `STX`. -/
def reception (tail : Port → Intake UInt8 UInt8) (port : Port) : Reception :=
  if (intake seekStx () port).complete then
    ⟨(intake seekStx () port).items.dropLast, stx :: (tail (intake seekStx () port).rest).items,
      (tail (intake seekStx () port).rest).complete, (tail (intake seekStx () port).rest).rest⟩
  else ⟨(intake seekStx () port).items, [], false, (intake seekStx () port).rest⟩

/-- The reception of `get_response`. -/
def delimited (port : Port) : Reception := reception (intake untilLrc stx) port

/-- A reply with the flag `FLAG_OK` and the right checksum. -/
def Accepted (frame : List UInt8) : Prop :=
  frame[1]? = some flagOk ∧ frame.getLast? = some (lrc frame.tail.dropLast)

instance (frame : List UInt8) : Decidable (Accepted frame) :=
  inferInstanceAs (Decidable (_ ∧ _))

namespace Reception

/-- What a receiver returns. -/
def verdict (r : Reception) : Int := if r.complete ∧ Accepted r.frame then 0 else -1

/-- The buffer `data` after the reception. -/
def fill (r : Reception) (data : Buffer) : Buffer :=
  if r.frame = [] then skipped data r.noise else r.frame ++ data.drop r.frame.length

theorem verdict_eq_zero_iff {r : Reception} :
    r.verdict = 0 ↔ r.complete = true ∧ Accepted r.frame := by
  rw [verdict]
  split
  · simpa
  · simpa using ‹¬ (r.complete = true ∧ Accepted r.frame)›

theorem verdict_eq_neg_one {r : Reception} (h : r.verdict ≠ 0) : r.verdict = -1 := by
  rw [verdict, if_neg (by rwa [← verdict_eq_zero_iff])]

theorem fill_of_frame {r : Reception} (h : r.frame ≠ []) (data : Buffer) :
    r.fill data = r.frame ++ data.drop r.frame.length := if_neg h

theorem length_fill {r : Reception} {data : Buffer} (h : r.frame.length ≤ data.length) :
    (r.fill data).length = data.length := by
  rw [fill]
  split
  · simp
  · simp
    omega

/-- Behind its first cell, a buffer that was cleared before holds the reply and nothing else. -/
theorem byteAt_fill_zero {r : Reception} {n i : Nat} (hi : 0 < i) :
    byteAt (r.fill (List.replicate n 0)) i = byteAt r.frame i := by
  unfold fill
  by_cases hframe : r.frame = []
  · rw [if_pos hframe, byteAt_skipped _ _ hi, byteAt_replicate_zero, hframe]
    rfl
  · rw [if_neg hframe, List.drop_replicate]
    rcases Nat.lt_or_ge i r.frame.length with hlt | hge
    · rw [byteAt, List.getD_append _ _ _ _ hlt]
      rfl
    · rw [byteAt, List.getD_append_right _ _ _ _ hge, ← byteAt, byteAt_replicate_zero, byteAt,
        List.getD_eq_default _ _ hge]
      rfl

end Reception

/-! ## Where a reception starts -/

section Start

variable {tail : Port → Intake UInt8 UInt8} {port : Port}

theorem intake_seekStx_of_delivers {front : Port} {noise : List UInt8}
    (hfront : Delivers front (noise ++ [stx])) (hnoise : stx ∉ noise) :
    intake seekStx () (front ++ port) = ⟨noise ++ [stx], true, port⟩ :=
  intake_eq_complete_iff.mpr
    ⟨⟨noise, stx, (), rfl, foldlM_seekStx.mpr hnoise, by simp [seekStx]⟩, front, hfront, rfl⟩

/-- After skipped bytes and an `STX`, a reception is its tail. -/
theorem reception_of_delivers {front : Port} {noise : List UInt8}
    (hfront : Delivers front (noise ++ [stx])) (hnoise : stx ∉ noise) :
    reception tail (front ++ port) =
      ⟨noise, stx :: (tail port).items, (tail port).complete, (tail port).rest⟩ := by
  simp [reception, intake_seekStx_of_delivers hfront hnoise]

/-- Without an `STX` all bytes are skipped. -/
theorem reception_of_not_mem {bs : List UInt8} (hport : Delivers port bs) (h : stx ∉ bs) :
    reception tail port = ⟨bs, [], false, []⟩ := by
  have hseek : intake seekStx () (port ++ []) = ⟨bs, false, []⟩ := by
    rw [intake_append hport (foldlM_seekStx.mpr h)]
    simp [intake, Intake.prepend]
  rw [List.append_nil] at hseek
  simp [reception, hseek]

/-- There is an `STX` and the reception goes on behind it, or there is none and nothing is kept. -/
theorem reception_cases (tail : Port → Intake UInt8 UInt8) (port : Port) :
    (∃ front noise port', port = front ++ port' ∧ Delivers front (noise ++ [stx]) ∧ stx ∉ noise) ∨
      ((intake seekStx () port).complete = false ∧ stx ∉ (reception tail port).noise ∧
        (reception tail port).frame = [] ∧ (reception tail port).complete = false) := by
  cases hc : (intake seekStx () port).complete with
  | true =>
    obtain ⟨⟨noise, b, _, hitems, hnoise, hb⟩, front, hfront, hport⟩ := intake_eq_complete_iff.mp
      (show intake seekStx () port = ⟨_, true, _⟩ by rw [← hc])
    obtain rfl : b = stx := by
      by_contra hne
      simp [seekStx, hne] at hb
    rw [hitems] at hfront
    exact Or.inl ⟨front, noise, _, hport, hfront, foldlM_seekStx.mp hnoise⟩
  | false =>
    obtain ⟨_, hitems⟩ := foldlM_of_not_complete hc
    exact Or.inr ⟨rfl, by simpa [reception, hc] using foldlM_seekStx.mp hitems,
      by simp [reception, hc], by simp [reception, hc]⟩

end Start

/-! ## `get_response` -/

/-- A complete second loop has read at least one byte. -/
theorem items_ne_nil {σ : Type} {step : σ → UInt8 → Option σ} {s : σ} {port : Port}
    (h : (intake step s port).complete = true) : (intake step s port).items ≠ [] := by
  obtain ⟨⟨init, b, _, hitems, _⟩, _⟩ := intake_eq_complete_iff.mp
    (show intake step s port = ⟨_, true, _⟩ by rw [← h])
  simp [hitems]

/-- The tests that a receiver makes on the first `k` cells of its buffer are those of `Accepted`. -/
theorem checks_eq {β : Type} {frame : List UInt8} {data : Buffer} {k : Nat} (hk : frame.length = k)
    (h2 : 2 ≤ k) (hdata : frame <+: data) (y : β) :
    (do
      if (← load data 1) ≠ flagOk then return (-1, y)
      else if (← load data (k - 1)) ≠ (← makeLrc data 1 (k - 2)) then return (-1, y)
      else return (0, y)) = (.ok (if Accepted frame then 0 else -1, y) : Except Fault (Int × β)) := by
  obtain ⟨rest, rfl⟩ := hdata
  subst hk
  have hload : ∀ i, (hi : i < frame.length) → load (frame ++ rest) i = .ok frame[i] := fun i hi => by
    rw [load_of_lt (by simp; omega), List.getElem_append_left hi]
  have htake : ((frame ++ rest).drop 1).take (frame.length - 2) = frame.tail.dropLast := by
    rw [List.drop_append_of_le_length (by omega), List.take_append_of_le_length (by simp; omega),
      List.dropLast_eq_take, List.length_tail, List.drop_one]
    rfl
  have haccepted : Accepted frame ↔
      frame[1] = flagOk ∧ frame[frame.length - 1] = lrc frame.tail.dropLast := by
    rw [Accepted, List.getLast?_eq_getElem?, List.getElem?_eq_getElem h2,
      List.getElem?_eq_getElem (show frame.length - 1 < frame.length by omega)]
    simp
  rw [hload 1 h2, ok_bind, hload _ (by omega), makeLrc_eq (by simp; omega), htake]
  by_cases h1 : frame[1] = flagOk <;>
    by_cases h3 : frame[frame.length - 1] = lrc frame.tail.dropLast <;> simp [haccepted, h1, h3]

theorem delimited_of_delivers {front port : Port} {noise : List UInt8}
    (hfront : Delivers front (noise ++ [stx])) (hnoise : stx ∉ noise) :
    delimited (front ++ port) = ⟨noise, stx :: (intake untilLrc stx port).items,
      (intake untilLrc stx port).complete, (intake untilLrc stx port).rest⟩ :=
  reception_of_delivers hfront hnoise

/-- Behind an `STX`, the rest of a reply is stored behind it. -/
theorem getResponse_of_delivers {front port : Port} {noise : List UInt8} {data : Buffer}
    (h0 : 0 < data.length) (hfront : Delivers front (noise ++ [stx])) (hnoise : stx ∉ noise) :
    getResponse data (front ++ port) = do
      let data ← storeAll data 0 ((stx :: (intake untilLrc stx port).items).map some)
      if (intake untilLrc stx port).complete then
        if (← load data 1) ≠ flagOk then return (-1, data, (intake untilLrc stx port).rest)
        else if (← load data (1 + (intake untilLrc stx port).items.length - 1)) ≠
            (← makeLrc data 1 (1 + (intake untilLrc stx port).items.length - 2)) then
          return (-1, data, (intake untilLrc stx port).rest)
        else return (0, data, (intake untilLrc stx port).rest)
      else return (-1, data, (intake untilLrc stx port).rest) := by
  have hskip : skipped data (noise ++ [stx]) = data.set 0 stx := by simp [skipped]
  have hprev : (data.set 0 stx)[1 - 1]? = some stx := List.getElem?_set_self h0
  rw [getResponse, awaitStx_eq h0, intake_seekStx_of_delivers hfront hnoise, hskip, ok_bind]
  simp only [if_true]
  rw [awaitLrc_eq port Nat.one_pos hprev, List.map_cons, storeAll, store_of_lt h0, ok_bind]
  cases storeAll (data.set 0 stx) (0 + 1) ((intake untilLrc stx port).items.map some) <;> rfl

/-- **`get_response` is its reception, if what it receives fits the buffer.** -/
theorem getResponse_of_fits {data : Buffer} {port : Port} (h0 : 0 < data.length)
    (hfit : (delimited port).frame.length ≤ data.length) :
    getResponse data port =
      .ok ((delimited port).verdict, (delimited port).fill data, (delimited port).rest) := by
  rcases reception_cases (intake untilLrc stx) port with
    ⟨front, noise, port, rfl, hfront, hnoise⟩ | ⟨hc, _, _, _⟩
  · rw [getResponse_of_delivers h0 hfront hnoise]
    rw [delimited_of_delivers hfront hnoise] at hfit ⊢
    rw [storeAll_of_fits (fits_map_some.mpr (Or.inr (by simpa using hfit))), ok_bind,
      patch_zero_map_some (by simpa using hfit)]
    simp only [Reception.fill, List.cons_ne_nil, if_false, Reception.verdict]
    cases hc : (intake untilLrc stx port).complete with
    | false => simp
    | true =>
      have hpos := List.length_pos_of_ne_nil (items_ne_nil hc)
      rw [if_pos rfl, checks_eq (by simp [Nat.add_comm]) (by omega) (List.prefix_append _ _)]
      simp
  · simp [getResponse, awaitStx_eq h0, hc, delimited, reception, Reception.fill, Reception.verdict]

/-- What does not fit is stored outside the buffer. -/
theorem getResponse_of_not_fits {data : Buffer} {port : Port} (h0 : 0 < data.length)
    (hfit : ¬ (delimited port).frame.length ≤ data.length) :
    ∃ i, getResponse data port = .error (.store i) := by
  rcases reception_cases (intake untilLrc stx) port with
    ⟨front, noise, port, rfl, hfront, hnoise⟩ | ⟨_, _, hframe, _⟩
  · rw [delimited_of_delivers hfront hnoise] at hfit
    have hnot : ¬ Fits data 0 ((stx :: (intake untilLrc stx port).items).map some) := by
      rw [fits_map_some]
      simpa using hfit
    obtain ⟨i, hi⟩ := storeAll_of_not_fits hnot
    exact ⟨i, by rw [getResponse_of_delivers h0 hfront hnoise, hi, error_bind]⟩
  · rw [delimited, hframe] at hfit
    exact absurd (Nat.zero_le _) hfit

end Tetra.Serial
