import Tetra.Serial.Drive
import Tetra.Serial.Frames

/-!
# The fixed-length receiver and the pieces it reads

The drive's `get_response2` asks for the 19 bytes behind the `STX` at once and takes what there is.
`getResponse2_any_split` says that it makes no difference in what pieces the bytes come: what it
returns, what it stores and how far it reads are functions of the bytes.
-/

namespace Tetra.Serial.Drive

open Arrival Memory

/-! ## Pieces -/

/-- A port where the bytes of a piece are there together, and one piece after the other. -/
def arriving (pieces : List (List UInt8)) : Port :=
  pieces.flatMap fun piece => piece.dropLast.map (.item · true) ++
    piece.getLast?.toList.map (.item · false)

theorem delivers_arriving (pieces : List (List UInt8)) :
    Delivers (arriving pieces) pieces.flatten := by
  induction pieces with
  | nil => exact delivers_nil_right.mpr rfl
  | cons piece pieces ih =>
    rw [arriving, List.flatMap_cons, List.flatten_cons]
    refine Delivers.append ?_ ih
    rcases piece.eq_nil_or_concat with rfl | ⟨init, b, rfl⟩
    · exact delivers_nil_right.mpr rfl
    · simpa using (delivers_map_item init true).append (delivers_map_item [b] false)

/-- A read returns the next piece, if that is not larger than asked for. -/
theorem ready_arriving {piece : List UInt8} {count : Nat} (hne : piece ≠ [])
    (hcount : piece.length ≤ count) (pieces : List (List UInt8)) :
    ready count (arriving (piece :: pieces)) = (piece, arriving pieces) := by
  have hready : ∀ (init : List UInt8) (b : UInt8) (count : Nat), init.length < count →
      ready count (init.map (.item · true) ++ .item b false :: arriving pieces) =
        (init ++ [b], arriving pieces) := by
    intro init b
    induction init with
    | nil =>
      intro count h
      obtain ⟨count, rfl⟩ := Nat.exists_eq_add_one_of_ne_zero (Nat.ne_of_gt h)
      rfl
    | cons c init ih =>
      intro count h
      obtain ⟨count, rfl⟩ := Nat.exists_eq_add_one_of_ne_zero (Nat.ne_of_gt (Nat.zero_lt_of_lt h))
      rw [List.map_cons, List.cons_append, ready, if_pos rfl, ih count (by simpa using h)]
      rfl
  obtain ⟨init, b, rfl⟩ := piece.eq_nil_or_concat.resolve_left hne
  have hpiece : arriving ((init ++ [b]) :: pieces) =
      init.map (.item · true) ++ .item b false :: arriving pieces := by
    simp [arriving]
  rw [List.concat_eq_append] at hcount ⊢
  rw [hpiece, hready init b count (by simpa using hcount)]

/-! ## The reception of a stream -/

/-- What a stream has from its first `STX` on. -/
def fromStx (bs : List UInt8) : List UInt8 := bs.dropWhile (· ≠ stx)

theorem intake_countdown_delivered {n : Nat} {port : Port} {bs : List UInt8}
    (h : Delivers port bs) : intake countdown n port =
      ⟨bs.take (n + 1), n + 1 ≤ bs.length, port.drop (n + 1)⟩ := by
  induction bs generalizing n port with
  | nil =>
    obtain rfl := delivers_nil_right.mp h
    simp [intake]
  | cons b bs ih =>
    obtain ⟨more, port, rfl, htail⟩ := h.of_cons
    cases n with
    | zero => simp [intake_item_none more (rfl : countdown 0 b = none)]
    | succ n =>
      rw [intake_item_some more (rfl : countdown (n + 1) b = some n), ih htail]
      simp [Intake.prepend]

theorem fixed_delivered {port : Port} {bs : List UInt8} (h : Delivers port bs) :
    fixed port = ⟨bs.takeWhile (· ≠ stx), (fromStx bs).take 20, 20 ≤ (fromStx bs).length,
      port.drop ((bs.takeWhile (· ≠ stx)).length + 20)⟩ := by
  by_cases hstx : stx ∈ bs
  · obtain ⟨noise, r, rfl, hnoise⟩ := List.eq_append_cons_of_mem hstx
    rw [← List.singleton_append, ← List.append_assoc] at h
    obtain ⟨front, port, rfl, hfront, hport⟩ := h.split
    have hfrom : fromStx (noise ++ stx :: r) = stx :: r := by
      rw [fromStx, dropWhile_append_noise hnoise]
      simp
    have hskip : (noise ++ stx :: r).takeWhile (· ≠ stx) = noise := by
      rw [List.takeWhile_append_of_pos (fun c hc => by
        rw [decide_eq_true_eq]; rintro rfl; exact hnoise hc)]
      simp
    have hlength : noise.length + 20 = front.length + 19 := by simp [hfront.length_eq]
    rw [fixed_of_delivers hfront hnoise, intake_countdown_delivered hport, hfrom, hskip, hlength,
      List.drop_append, List.drop_eq_nil_of_le (Nat.le_add_right _ _), Nat.add_sub_cancel_left]
    simp
  · have hfrom : fromStx bs = [] := by
      rw [fromStx, ← List.append_nil bs, dropWhile_append_noise hstx, List.dropWhile_nil]
    have hskip : bs.takeWhile (· ≠ stx) = bs := by
      rw [List.takeWhile_eq_self_iff]
      intro c hc
      rw [decide_eq_true_eq]
      rintro rfl
      exact hstx hc
    have hrest : port.drop (bs.length + 20) = [] :=
      List.drop_eq_nil_of_le (by rw [h.length_eq]; exact Nat.le_add_right _ _)
    rw [fixed, reception_of_not_mem h hstx, hfrom, hskip, hrest]
    rfl

/-! ## The receiver -/

/-- From its first `STX` on, the stream has 20 bytes, the second being `FLAG_OK` and the last the XOR of
those between the first and itself. -/
structure HasReply (bs : List UInt8) : Prop where
  length : 20 ≤ (fromStx bs).length
  flag : (fromStx bs)[1]? = some flagOk
  checksum : (fromStx bs)[19]? = some (lrc (((fromStx bs).drop 1).take 18))

theorem accepted_take_iff {bs : List UInt8} (h : 20 ≤ bs.length) :
    Accepted (bs.take 20) ↔
      bs[1]? = some flagOk ∧ bs[19]? = some (lrc ((bs.drop 1).take 18)) := by
  have hlast : (bs.take 20).getLast? = bs[19]? := by
    rw [List.getLast?_eq_getElem?, List.length_take, Nat.min_eq_left h, List.getElem?_take]
    rfl
  have hsum : (bs.take 20).tail.dropLast = (bs.drop 1).take 18 := by
    rw [List.dropLast_eq_take, ← List.drop_one, List.length_drop, List.length_take,
      Nat.min_eq_left h, List.drop_take, List.take_take]
    rfl
  rw [Accepted, hlast, hsum, List.getElem?_take, if_pos (by decide)]

theorem verdict_fixed_iff {port : Port} {bs : List UInt8} (h : Delivers port bs) :
    (fixed port).verdict = 0 ↔ HasReply bs := by
  rw [Reception.verdict_eq_zero_iff, fixed_delivered h, decide_eq_true_eq]
  constructor
  · rintro ⟨hlength, haccepted⟩
    obtain ⟨hflag, hchecksum⟩ := (accepted_take_iff hlength).mp haccepted
    exact ⟨hlength, hflag, hchecksum⟩
  · intro h
    exact ⟨h.length, (accepted_take_iff h.length).mpr ⟨h.flag, h.checksum⟩⟩

/--
**What `get_response2` returns, stores and consumes depends on the bytes alone. It returns 0 exactly on
a reply, stores exactly that, and reads up to its end.**
-/
theorem getResponse2_any_split (data : Buffer) (bs : List UInt8) (hsize : 20 ≤ data.length) :
    ∃ ret data' consumed,
      (∀ port, Delivers port bs → getResponse2 data port = .ok (ret, data', port.drop consumed)) ∧
      (ret = 0 ↔ HasReply bs) ∧
      (HasReply bs → data' = (fromStx bs).take 20 ++ data.drop 20 ∧
        consumed = (bs.takeWhile (· ≠ stx)).length + 20) := by
  have hport := delivers_map_item bs true
  refine ⟨(fixed (bs.map (.item · true))).verdict, (fixed (bs.map (.item · true))).fill data,
    (bs.takeWhile (· ≠ stx)).length + 20, ?_, verdict_fixed_iff hport,
    fun hreply => ⟨?_, rfl⟩⟩
  · intro port h
    rw [getResponse2_eq port hsize]
    simp only [fixed_delivered h, fixed_delivered hport, Reception.verdict, Reception.fill]
  · have hlength : ((fromStx bs).take 20).length = 20 := by
      rw [List.length_take, Nat.min_eq_left hreply.length]
    have hne : (fromStx bs).take 20 ≠ [] := by
      intro hnil
      rw [hnil] at hlength
      exact absurd hlength (by decide)
    rw [fixed_delivered hport, Reception.fill_of_frame hne, hlength]

/-- The reply of a drive that stands still at the origin. -/
def stillReply : List UInt8 := [stx, flagOk] ++ List.replicate 16 0 ++ [etx, 0x33]

/-- A byte of noise and the reply, whose rest comes in three pieces. -/
theorem getResponse2_any_split_pieces :
    getResponse2 (List.replicate 255 0)
        (arriving [[0x07], [stx], [flagOk, 0, 0], List.replicate 14 0 ++ [etx], [0x33, 0x09]]) =
      .ok (0, stillReply ++ List.replicate 235 0, [.item 0x09 false]) := by
  obtain ⟨ret, data', consumed, hall, hret, hreply⟩ := getResponse2_any_split
    (List.replicate 255 0) (0x07 :: stillReply ++ [0x09]) (by rw [List.length_replicate]; decide)
  have hhas : HasReply (0x07 :: stillReply ++ [0x09]) := ⟨by decide, by decide, by decide⟩
  obtain rfl := hret.mpr hhas
  obtain ⟨rfl, rfl⟩ := hreply hhas
  rw [hall _ (delivers_arriving _)]
  rfl

end Tetra.Serial.Drive
