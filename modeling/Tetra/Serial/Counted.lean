import Tetra.Serial.Power

/-!
# What the receiver of the power board takes in

The power board's `get_response2` reads two bytes for the length whether they come or not, and then
as many bytes as they announce; a read that ends in an error leaves its cell as it was. `Counted` is
this without the buffer: a cell that nothing was stored in is `none`.

`getResponse2_eq` reduces the function to it. A reply that the function should accept is a
`Replies`; on every such reply it ends without a `return` (`receiver_sound_iff`).
-/

namespace Tetra.Serial.Power

open Arrival Memory

/-! ## Two bytes as a number -/

/-- Most significant byte first. -/
def bigEndian (hi lo : Nat) : Nat := 256 * hi + lo

theorem bigEndian_eq {hi lo : Nat} (hhi : hi < 256) (hlo : lo < 256) :
    (lo &&& 0xff) ||| ((hi <<< 8) &&& 0xff00) = bigEndian hi lo := by
  have hlow : ∀ n < 256, n &&& 0xff = n := fun n hn => by
    rw [show 0xff = 2 ^ 8 - 1 from rfl, Nat.and_two_pow_sub_one_eq_mod, Nat.mod_eq_of_lt hn]
  have hhigh : (hi <<< 8) &&& 0xff00 = hi <<< 8 := by
    rw [show 0xff00 = 0xff <<< 8 from rfl, ← Nat.shiftLeft_and_distrib, hlow hi hhi]
  rw [hlow lo hlo, hhigh, Nat.or_comm, ← Nat.shiftLeft_add_eq_or_of_lt (show lo < 2 ^ 8 from hlo),
    Nat.shiftLeft_eq, bigEndian, Nat.mul_comm]

theorem byteAt_lt (data : Buffer) (i : Nat) : byteAt data i < 256 := UInt8.toNat_lt _

theorem totalByte_eq (data : Buffer) : totalByte data = bigEndian (byteAt data 1) (byteAt data 2) :=
  bigEndian_eq (byteAt_lt data 1) (byteAt_lt data 2)

theorem wordAt_eq (data : Buffer) (offset : Nat) :
    wordAt data offset = bigEndian (byteAt data offset) (byteAt data (offset + 1)) :=
  bigEndian_eq (byteAt_lt data offset) (byteAt_lt data (offset + 1))

/-! ## Single reads -/

/-- One read stores what comes. -/
theorem read_one_eq (data : Buffer) (index : Nat) (port : Port) :
    ∃ ret, read data index 1 port = (do
      let data ← storeAll data index [(poll port).1]
      return (ret, data, (poll port).2)) := by
  match port with
  | [] => exact ⟨0, rfl⟩
  | .timeout :: port => exact ⟨0, rfl⟩
  | .error :: port => exact ⟨-1, rfl⟩
  | .item b more :: port => exact ⟨1, by rw [read_one_item]; simp [storeAll, poll]⟩

theorem readCounted_eq (data : Buffer) (index n : Nat) (port : Port) :
    readCounted data index n port = (do
      let data ← storeAll data index (attempts n port).items
      return ((attempts n port).complete, data, (attempts n port).rest)) := by
  induction n generalizing data index port with
  | zero => rfl
  | succ n ih =>
    match port with
    | [] => rfl
    | .timeout :: port => rfl
    | .error :: port =>
      rw [readCounted, read_one_error, ok_bind]
      simp only
      rw [if_neg (by decide), ih]
      rfl
    | .item b more :: port =>
      rw [readCounted, read_one_item, attempts, Intake.prepend]
      simp only [List.singleton_append, storeAll]
      cases store data index b with
      | error e => rfl
      | ok data' =>
        simp only [ok_bind, pure_eq_ok]
        rw [if_neg (by decide), ih]
        rfl

/-! ## Receptions -/

/-- What the receiver takes from the port. -/
structure Counted where
  /-- The bytes before the first `STX`. -/
  noise : List UInt8
  /-- Whether there is an `STX`. -/
  found : Bool
  /-- The cells from the first `STX` on. -/
  cells : List (Option UInt8)
  /-- The length that the second and the third cell announce. -/
  announced : Nat
  /-- Whether the announced number of reads has been made. -/
  complete : Bool
  rest : Port
  deriving DecidableEq, Repr

/-- The reception behind an `STX`. -/
def countedFrom (data : Buffer) (noise : List UInt8) (port : Port) : Counted :=
  let first := poll port
  let second := poll first.2
  let announced := bigEndian ((first.1.getD (data.getD 1 0)).toNat)
    ((second.1.getD (data.getD 2 0)).toNat)
  let body := attempts (announced + 2) second.2
  ⟨noise, true, some stx :: first.1 :: second.1 :: body.items, announced, body.complete, body.rest⟩

/-- The reception of `get_response2`, with the buffer `data`. -/
def counted (data : Buffer) (port : Port) : Counted :=
  if (intake seekStx () port).complete then
    countedFrom data (intake seekStx () port).items.dropLast (intake seekStx () port).rest
  else ⟨(intake seekStx () port).items, false, [], 0, false, (intake seekStx () port).rest⟩

section Counted

variable {data : Buffer} {port front : Port} {noise : List UInt8}

theorem counted_of_delivers (hfront : Delivers front (noise ++ [stx])) (hnoise : stx ∉ noise) :
    counted data (front ++ port) = countedFrom data noise port := by
  simp [counted, intake_seekStx_of_delivers hfront hnoise]

/-- There is an `STX`, or nothing is taken in but skipped bytes. -/
theorem counted_cases (data : Buffer) (port : Port) :
    (∃ front noise port', port = front ++ port' ∧ Delivers front (noise ++ [stx]) ∧ stx ∉ noise) ∨
      ((intake seekStx () port).complete = false ∧ counted data port =
        ⟨(intake seekStx () port).items, false, [], 0, false, (intake seekStx () port).rest⟩) := by
  rcases reception_cases (intake seekStx ()) port with h | ⟨hc, _⟩
  · exact Or.inl h
  · refine Or.inr ⟨hc, ?_⟩
    unfold counted
    rw [hc]
    rfl

theorem byteAt_patch {i : Nat} (hi : i < data.length) (os : List (Option UInt8)) :
    byteAt (patch data 0 os) i = (os[i]?.join.getD (data.getD i 0)).toNat := by
  unfold byteAt
  rw [List.getD_eq_getElem?_getD, List.getD_eq_getElem?_getD, getElem?_patch os i hi,
    if_pos (Nat.zero_le i), Nat.sub_zero]
  cases os[i]?.join <;> rfl

/-- The bytes of the length stay as they are behind them. -/
theorem totalByte_patch (h3 : 3 ≤ data.length) (os : List (Option UInt8)) :
    totalByte (patch data 3 os) = totalByte data := by
  have hkept : ∀ i < 3, byteAt (patch data 3 os) i = byteAt data i := by
    intro i hi
    unfold byteAt
    rw [List.getD_eq_getElem?_getD, List.getD_eq_getElem?_getD, getElem?_patch os i (by omega),
      if_neg (by omega)]
  rw [totalByte_eq, totalByte_eq, hkept 1 (by decide), hkept 2 (by decide)]

/-- Behind an `STX`, the function stores its reception and looks at the checksum. -/
theorem getResponse2_of_delivers (h3 : 3 ≤ data.length) (hfront : Delivers front (noise ++ [stx]))
    (hnoise : stx ∉ noise) :
    getResponse2 data (front ++ port) = do
      let data' ← storeAll data 0 (countedFrom data noise port).cells
      if (countedFrom data noise port).complete then
        let tmp ← makeLrc data' 3 (countedFrom data noise port).announced
        if (← load data' ((countedFrom data noise port).announced + 4)) ≠ tmp then
          return (some (-1), data', (countedFrom data noise port).rest)
        else return (none, data', (countedFrom data noise port).rest)
      else return (some (-11), data', (countedFrom data noise port).rest) := by
  have h0 : 0 < data.length := by omega
  have hskip : skipped data (noise ++ [stx]) = data.set 0 stx := by simp [skipped]
  have hfits : ∀ os : List (Option UInt8), os.length ≤ 3 → Fits data 0 os := by
    intro os hos k a hk
    have := (List.getElem?_eq_some_iff.mp hk).1
    omega
  have hfirst := storeAll_of_fits (hfits [some stx, (poll port).1] (by simp))
  have hheader := storeAll_of_fits (hfits [some stx, (poll port).1, (poll (poll port).2).1] (by simp))
  have hsecond : storeAll (patch data 0 [some stx, (poll port).1]) 2 [(poll (poll port).2).1] =
      .ok (patch data 0 [some stx, (poll port).1, (poll (poll port).2).1]) := by
    have happend := storeAll_append (m := data) (i := 0) [some stx, (poll port).1]
      [(poll (poll port).2).1]
    rw [hfirst, ok_bind] at happend
    exact happend.symm.trans hheader
  have hannounced : totalByte (patch data 0 [some stx, (poll port).1, (poll (poll port).2).1]) =
      (countedFrom data noise port).announced := by
    rw [totalByte_eq, byteAt_patch (by omega), byteAt_patch (by omega)]
    rfl
  have hcells : (countedFrom data noise port).cells =
      [some stx, (poll port).1, (poll (poll port).2).1] ++
        (attempts ((countedFrom data noise port).announced + 2) (poll (poll port).2).2).items := rfl
  obtain ⟨ret₁, hread₁⟩ := read_one_eq (data.set 0 stx) 1 port
  obtain ⟨ret₂, hread₂⟩ := read_one_eq (patch data 0 [some stx, (poll port).1]) 2 (poll port).2
  rw [getResponse2, awaitStx_eq h0, intake_seekStx_of_delivers hfront hnoise, hskip, ok_bind]
  simp only [if_true]
  rw [hcells, storeAll_append, hheader, ok_bind, hread₁]
  rw [storeAll, store_of_lt h0, ok_bind] at hfirst
  rw [hfirst, ok_bind, pure_eq_ok, ok_bind]
  simp only
  rw [hread₂, hsecond, ok_bind, pure_eq_ok, ok_bind]
  simp only
  rw [readCounted_eq, hannounced]
  cases hbody : storeAll (patch data 0 [some stx, (poll port).1, (poll (poll port).2).1]) 3
      (attempts ((countedFrom data noise port).announced + 2) (poll (poll port).2).2).items with
  | error fault => rfl
  | ok data' =>
    have htotal : totalByte data' = (countedFrom data noise port).announced := by
      rw [(storeAll_eq_ok_iff.mp hbody).2, totalByte_patch (by simpa using h3), hannounced]
    simp only [ok_bind, pure_eq_ok, htotal]
    rfl

end Counted

namespace Counted

/-- The buffer `data` after the reception. -/
def fill (c : Counted) (data : Buffer) : Buffer :=
  if c.found then patch data 0 c.cells else skipped data c.noise

/-- The cell behind the payload and the `ETX` holds the XOR of the cells of the payload. -/
def Matches (c : Counted) (data : Buffer) : Prop :=
  (c.fill data)[c.announced + 4]? = some (lrc (((c.fill data).drop 3).take c.announced))

instance (c : Counted) (data : Buffer) : Decidable (c.Matches data) :=
  inferInstanceAs (Decidable (_ = _))

/-- What the receiver returns, if it does. -/
def verdict (c : Counted) (data : Buffer) : Option Int :=
  if c.found then
    if c.complete then if c.Matches data then none else some (-1)
    else some (-11)
  else some (-10)

/-- No byte is stored outside the buffer, and none is looked for there. -/
def Inside (c : Counted) (data : Buffer) : Prop :=
  Fits data 0 c.cells ∧ (c.complete = true → c.announced + 5 ≤ data.length)

theorem length_fill (c : Counted) (data : Buffer) : (c.fill data).length = data.length := by
  unfold fill
  split
  · exact length_patch c.cells
  · exact length_skipped data c.noise

end Counted

section GetResponse2

variable {data : Buffer} {port : Port}

/-- The test of the checksum of `n` bytes behind the first three. -/
theorem checksum_eq {β : Type} {n : Nat} (h : n + 5 ≤ data.length) (y : β) :
    (do
      let tmp ← makeLrc data 3 n
      if (← load data (n + 4)) ≠ tmp then return (some (-1), y)
      else return (none, y) : Except Fault (Option Int × β)) =
        .ok (if data[n + 4]? = some (lrc ((data.drop 3).take n)) then none else some (-1), y) := by
  rw [makeLrc_eq (by omega), ok_bind, load_of_lt (show n + 4 < data.length by omega), ok_bind,
    List.getElem?_eq_getElem (show n + 4 < data.length by omega)]
  by_cases h : data[n + 4] = lrc ((data.drop 3).take n)
  · rw [if_neg (not_not_intro h), if_pos (congrArg some h)]
    rfl
  · rw [if_pos h, if_neg (fun heq => h (Option.some.inj heq))]
    rfl

theorem checksum_load {β : Type} {n : Nat} (h3 : 3 ≤ data.length) (h : ¬ n + 5 ≤ data.length) (y : β) :
    ∃ i, (do
      let tmp ← makeLrc data 3 n
      if (← load data (n + 4)) ≠ tmp then return (some (-1), y)
      else return (none, y) : Except Fault (Option Int × β)) = .error (.load i) := by
  by_cases hle : 3 + n ≤ data.length
  · refine ⟨n + 4, ?_⟩
    rw [makeLrc_eq hle, ok_bind, load_of_not_lt (by omega), error_bind]
  · obtain ⟨i, hi⟩ := makeLrc_of_not_le h3 hle
    exact ⟨i, by rw [hi, error_bind]⟩

/-- **The power board's `get_response2` is its reception, if what it receives fits the buffer.** -/
theorem getResponse2_of_inside (h3 : 3 ≤ data.length) (hinside : (counted data port).Inside data) :
    getResponse2 data port = .ok ((counted data port).verdict data, (counted data port).fill data,
      (counted data port).rest) := by
  rcases counted_cases data port with ⟨front, noise, port, rfl, hfront, hnoise⟩ | ⟨hc, hnone⟩
  · rw [getResponse2_of_delivers h3 hfront hnoise]
    rw [counted_of_delivers hfront hnoise] at hinside ⊢
    rw [storeAll_of_fits hinside.1, ok_bind]
    have hfound : (countedFrom data noise port).found = true := rfl
    show (if (countedFrom data noise port).complete = true then _ else _) = _
    unfold Counted.verdict
    rw [if_pos hfound]
    by_cases hcomplete : (countedFrom data noise port).complete = true
    · have hroom := hinside.2 hcomplete
      rw [if_pos hcomplete, if_pos hcomplete]
      exact checksum_eq (by rw [length_patch]; omega) _
    · rw [if_neg hcomplete, if_neg hcomplete]
      rfl
  · have h0 : 0 < data.length := by omega
    rw [hnone, getResponse2, awaitStx_eq h0, hc, ok_bind]
    rfl

/-- What comes fits the buffer, but the checksum would be outside. -/
theorem getResponse2_of_fits (h3 : 3 ≤ data.length) (hfits : Fits data 0 (counted data port).cells)
    (hinside : ¬ (counted data port).Inside data) :
    ∃ i, getResponse2 data port = .error (.load i) := by
  have hcomplete : (counted data port).complete = true := by
    by_contra hc
    exact hinside ⟨hfits, fun h => absurd h hc⟩
  have hroom : ¬ (counted data port).announced + 5 ≤ data.length :=
    fun h => hinside ⟨hfits, fun _ => h⟩
  rcases counted_cases data port with ⟨front, noise, port, rfl, hfront, hnoise⟩ | ⟨_, hnone⟩
  · rw [getResponse2_of_delivers h3 hfront hnoise]
    rw [counted_of_delivers hfront hnoise] at hfits hcomplete hroom
    rw [storeAll_of_fits hfits, ok_bind, if_pos hcomplete]
    exact checksum_load (by rwa [length_patch]) (by rwa [length_patch]) _
  · rw [hnone] at hcomplete
    exact absurd hcomplete Bool.false_ne_true

/-- A byte that does not fit is stored outside the buffer. -/
theorem getResponse2_of_not_fits (h3 : 3 ≤ data.length)
    (hfits : ¬ Fits data 0 (counted data port).cells) :
    ∃ i, getResponse2 data port = .error (.store i) := by
  rcases counted_cases data port with ⟨front, noise, port, rfl, hfront, hnoise⟩ | ⟨_, hnone⟩
  · rw [counted_of_delivers hfront hnoise] at hfits
    obtain ⟨i, hi⟩ := storeAll_of_not_fits hfits
    exact ⟨i, by rw [getResponse2_of_delivers h3 hfront hnoise, hi, error_bind]⟩
  · rw [hnone] at hfits
    exact absurd fits_nil hfits

theorem getResponse2_of_not_inside (h3 : 3 ≤ data.length)
    (hinside : ¬ (counted data port).Inside data) :
    ∃ fault, getResponse2 data port = .error fault := by
  by_cases hfits : Fits data 0 (counted data port).cells
  · obtain ⟨i, hi⟩ := getResponse2_of_fits h3 hfits hinside
    exact ⟨_, hi⟩
  · obtain ⟨i, hi⟩ := getResponse2_of_not_fits h3 hfits
    exact ⟨_, hi⟩

end GetResponse2

/-! ## Replies -/

/-- A reply of the power board. -/
structure Reply where
  high : UInt8
  low : UInt8
  payload : List UInt8
  /-- Where the board puts `ETX`; the receiver does not look at it. -/
  last : UInt8
  length_payload : payload.length = bigEndian high.toNat low.toNat

namespace Reply

/-- The bytes of a reply. -/
def bytes (reply : Reply) : List UInt8 :=
  [stx, reply.high, reply.low] ++ reply.payload ++ [reply.last, lrc reply.payload]

@[simp] theorem length_bytes (reply : Reply) : reply.bytes.length = reply.payload.length + 5 := by
  simp [bytes]

end Reply

/-- All the bytes of the reply come, behind bytes that are skipped. -/
def Replies (port : Port) (reply : Reply) : Prop :=
  ∃ front rest noise, port = front ++ rest ∧ Delivers front (noise ++ reply.bytes) ∧ stx ∉ noise

section Replies

variable {data : Buffer} {port : Port} {reply : Reply}

theorem counted_of_replies (data : Buffer) (h : Replies port reply) :
    ∃ noise rest, counted data port =
      ⟨noise, true, reply.bytes.map some, reply.payload.length, true, rest⟩ := by
  obtain ⟨front, rest, noise, rfl, hfront, hnoise⟩ := h
  have hbytes : noise ++ reply.bytes = (noise ++ [stx]) ++ (reply.high :: reply.low ::
      (reply.payload ++ [reply.last, lrc reply.payload])) := by
    simp [Reply.bytes]
  rw [hbytes] at hfront
  obtain ⟨start, back, rfl, hstart, hback⟩ := hfront.split
  obtain ⟨more, back, rfl, htail⟩ := hback.of_cons
  obtain ⟨more', back, rfl, hbody⟩ := htail.of_cons
  have hattempts : attempts (reply.payload.length + 2) (back ++ rest) =
      ⟨(reply.payload ++ [reply.last, lrc reply.payload]).map some, true, rest⟩ := by
    have hlength : (reply.payload ++ [reply.last, lrc reply.payload]).length =
        reply.payload.length + 2 := List.length_append
    rw [← hlength]
    exact attempts_of_delivers hbody
  refine ⟨noise, rest, ?_⟩
  rw [List.append_assoc, counted_of_delivers hstart hnoise]
  have hheader : countedFrom data noise (item reply.high more :: item reply.low more' :: back ++ rest) =
      let body := attempts (bigEndian reply.high.toNat reply.low.toNat + 2) (back ++ rest)
      ⟨noise, true, some stx :: some reply.high :: some reply.low :: body.items,
        bigEndian reply.high.toNat reply.low.toNat, body.complete, body.rest⟩ := rfl
  rw [hheader, ← reply.length_payload]
  simp only [hattempts, Reply.bytes]
  simp

/-- The buffer holds the reply, if it fits. -/
theorem fill_of_replies (h : Replies port reply) (hroom : reply.payload.length + 5 ≤ data.length) :
    (counted data port).fill data = reply.bytes ++ data.drop reply.bytes.length := by
  obtain ⟨noise, rest, hcounted⟩ := counted_of_replies data h
  unfold Counted.fill
  rw [hcounted, if_pos rfl]
  exact patch_zero_map_some (by simpa using hroom)

theorem matches_of_replies (h : Replies port reply) (hroom : reply.payload.length + 5 ≤ data.length) :
    (counted data port).Matches data := by
  have hfill := fill_of_replies h hroom
  obtain ⟨noise, rest, hcounted⟩ := counted_of_replies data h
  have hannounced : (counted data port).announced = reply.payload.length := by rw [hcounted]
  unfold Counted.Matches
  rw [hfill, hannounced]
  simp [Reply.bytes]

theorem inside_of_replies (h : Replies port reply) (hroom : reply.payload.length + 5 ≤ data.length) :
    (counted data port).Inside data := by
  obtain ⟨noise, rest, hcounted⟩ := counted_of_replies data h
  rw [hcounted]
  exact ⟨fits_map_some.mpr (Or.inr (by simpa using hroom)), fun _ => hroom⟩

theorem length_cells_le (data : Buffer) (port : Port) :
    (counted data port).cells.length ≤ (counted data port).announced + 5 := by
  unfold counted
  by_cases hc : (intake seekStx () port).complete = true
  · rw [if_pos hc]
    exact Nat.add_le_add_right (length_attempts_le _ _) 3
  · rw [if_neg hc]
    exact Nat.zero_le _

theorem inside_of_room (h : (counted data port).announced + 5 ≤ data.length) :
    (counted data port).Inside data := by
  refine ⟨?_, fun _ => h⟩
  intro k a hk
  have hlt := (List.getElem?_eq_some_iff.mp hk).1
  have := length_cells_le data port
  omega

theorem found_of_complete (h : (counted data port).complete = true) :
    (counted data port).found = true := by
  unfold counted at h ⊢
  by_cases hc : (intake seekStx () port).complete = true
  · rw [if_pos hc]
    rfl
  · rw [if_neg hc] at h
    exact absurd h Bool.false_ne_true

/-- The function ends without a value, or with a negative one. -/
theorem verdict_cases (data : Buffer) (port : Port) :
    ((counted data port).complete = true ∧ (counted data port).Matches data ∧
      (counted data port).verdict data = none) ∨
    (¬ ((counted data port).complete = true ∧ (counted data port).Matches data) ∧
      ∃ ret < 0, (counted data port).verdict data = some ret) := by
  unfold Counted.verdict
  by_cases hcomplete : (counted data port).complete = true
  · rw [if_pos (found_of_complete hcomplete), if_pos hcomplete]
    by_cases hmatches : (counted data port).Matches data
    · exact Or.inl ⟨hcomplete, hmatches, if_pos hmatches⟩
    · exact Or.inr ⟨fun h => hmatches h.2, -1, by decide, if_neg hmatches⟩
  · refine Or.inr ⟨fun h => hcomplete h.1, ?_⟩
    by_cases hfound : (counted data port).found = true
    · exact ⟨-11, by decide, by rw [if_pos hfound, if_neg hcomplete]⟩
    · exact ⟨-10, by decide, if_neg hfound⟩

end Replies

/-! ## When the receiver tells the truth -/

/--
The receiver is sound if it returns a value, which is 0 for a reply all of whose bytes come, and
negative otherwise.
-/
def SoundReceiver (data : Buffer) (port : Port) : Prop :=
  ∃ ret data' port', getResponse2 data port = .ok (some ret, data', port') ∧
    (ret = 0 ↔ ∃ reply, Replies port reply) ∧ ((¬ ∃ reply, Replies port reply) → ret < 0)

/--
**The receiver is sound exactly if the reply does not get through: no `STX`, too few bytes, or a
checksum that does not match.** Where it matches the function has no `return`.
-/
theorem receiver_sound_iff (data : Buffer) (port : Port)
    (hroom : (counted data port).announced + 5 ≤ data.length) :
    SoundReceiver data port ↔
      ¬ ((counted data port).complete = true ∧ (counted data port).Matches data) := by
  have hresult := getResponse2_of_inside (by omega) (inside_of_room hroom)
  rcases verdict_cases data port with ⟨hcomplete, hmatches, hverdict⟩ | ⟨hfailed, ret, hret, hverdict⟩
  · constructor
    · rintro ⟨ret, data', port', hok, _⟩ _
      rw [hresult, hverdict] at hok
      simp at hok
    · intro hfailed
      exact absurd ⟨hcomplete, hmatches⟩ hfailed
  · have hnone : ¬ ∃ reply, Replies port reply := by
      rintro ⟨reply, hreply⟩
      obtain ⟨noise, rest, hcounted⟩ := counted_of_replies data hreply
      refine hfailed ⟨by rw [hcounted], matches_of_replies hreply ?_⟩
      rwa [hcounted] at hroom
    refine ⟨fun _ => hfailed, fun _ => ⟨ret, _, _, by rw [hresult, hverdict], ?_, fun _ => hret⟩⟩
    exact ⟨fun h0 => absurd h0 hret.ne, fun h => absurd h hnone⟩

/-- The reply to a request, with the word 5 in it. -/
def fiveReply : Reply := ⟨0, 2, [0, 5], etx, by decide⟩

/-- Two of the seven bytes of a reply, an error, and then nothing. -/
def brokenOff : Port := [.item stx true, .item 0 false, .error, .timeout]

theorem receiver_sound_brokenOff : SoundReceiver (List.replicate 255 0) brokenOff :=
  (receiver_sound_iff (List.replicate 255 0) brokenOff (by decide +kernel)).mpr (by decide +kernel)

/-- A whole reply comes, and there is no value. -/
theorem receiver_not_sound :
    Replies (fiveReply.bytes.map (.item · true)) fiveReply ∧
      (getResponse2 (List.replicate 255 0) (fiveReply.bytes.map (.item · true))).map (·.1) = .ok none :=
  ⟨⟨_, [], [], (List.append_nil _).symm, delivers_map_item _ true, by simp⟩, by decide +kernel⟩

end Tetra.Serial.Power
