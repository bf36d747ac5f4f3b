import Mathlib.Algebra.BigOperators.Intervals
import Mathlib.Algebra.BigOperators.Ring.Finset
import Tetra.Serial.Polls

/-!
# The inputs and outputs of the power board

The board sends the states of its inputs and those of its outputs as a word each, and
`decimal2binary` writes as many bits as the word has. Each of the arrays has eight cells, so a poll
gets the bits exactly if both words have no more than eight (`gpio_unpacked_iff`).
-/

namespace Tetra.Serial.Power

open Arrival Memory

/-! ## The bits of a number -/

/-- The lowest `n` bits of a number, the lowest one first. -/
def lowBits (n decimal : Nat) : List Int :=
  (List.range n).map fun i => ((decimal.testBit i).toNat : Int)

theorem lowBits_zero (n : Nat) : lowBits n 0 = List.replicate n 0 := by
  simp [lowBits]

theorem lowBits_succ (n decimal : Nat) :
    lowBits (n + 1) decimal = ((decimal % 2 : Nat) : Int) :: lowBits n (decimal / 2) := by
  have hlowest : (decimal.testBit 0).toNat = decimal % 2 := by
    rw [Nat.testBit_zero]
    rcases Nat.mod_two_eq_zero_or_one decimal with h | h <;> simp [h]
  rw [lowBits, List.range_succ_eq_map, List.map_cons, List.map_map, hlowest]
  congr 1
  refine List.map_congr_left fun i _ => ?_
  simp [Nat.testBit_succ]

/-- `decimal2binary` writes the bits behind the cells that are written already. -/
theorem decimal2binary_eq {n decimal : Nat} (h : decimal < 2 ^ n) (front : List Int) :
    decimal2binary decimal (front ++ List.replicate n 0) front.length =
      .ok (front ++ lowBits n decimal) := by
  induction n generalizing decimal front with
  | zero =>
    obtain rfl : decimal = 0 := by simpa using h
    rw [decimal2binary, if_neg (by decide), lowBits_zero]
    rfl
  | succ n ih =>
    rw [decimal2binary]
    by_cases hpos : 0 < decimal
    · -- one bit is written behind `front`, and the others behind it
      have hroom : front.length < (front ++ List.replicate (n + 1) (0 : Int)).length := by
        simp
      have hset : (front ++ List.replicate (n + 1) (0 : Int)).set front.length ((decimal % 2 : Nat) : Int) =
          (front ++ [((decimal % 2 : Nat) : Int)]) ++ List.replicate n 0 := by
        rw [List.set_append_right _ _ le_rfl, Nat.sub_self, List.replicate_succ, List.set_cons_zero,
          List.append_assoc, List.singleton_append]
      have htail := ih (show decimal / 2 < 2 ^ n by omega) (front ++ [((decimal % 2 : Nat) : Int)])
      rw [List.length_append, List.length_singleton] at htail
      rw [if_pos hpos, store_of_lt hroom, ok_bind, hset, htail, lowBits_succ, List.append_assoc,
        List.singleton_append]
    · obtain rfl : decimal = 0 := by omega
      rw [if_neg hpos, lowBits_zero]
      rfl

/-- The bits of a number make it up. -/
theorem sum_lowBits {n decimal : Nat} (h : decimal < 2 ^ n) :
    ∑ i ∈ Finset.range n, (lowBits n decimal).getD i 0 * 2 ^ i = decimal := by
  induction n generalizing decimal with
  | zero =>
    obtain rfl : decimal = 0 := by simpa using h
    rfl
  | succ n ih =>
    have hhalf := ih (show decimal / 2 < 2 ^ n by omega)
    rw [lowBits_succ, Finset.sum_range_succ']
    simp only [List.getD_cons_succ, List.getD_cons_zero, pow_succ, pow_zero, mul_one]
    have hdouble : ∑ i ∈ Finset.range n, (lowBits n (decimal / 2)).getD i 0 * (2 ^ i * 2) =
        (decimal / 2 : Nat) * 2 := by
      rw [← hhalf, Finset.sum_mul]
      exact Finset.sum_congr rfl fun i _ => (mul_assoc _ _ _).symm
    rw [hdouble]
    omega

/-! ## Accepted replies -/

/-- The functions that read the inputs and outputs. -/
def gpioDecoders : List Decoder := [powerReadBattery, powerReadTetra, powerReadGpio]

theorem size_of_gpioDecoders : ∀ d ∈ gpioDecoders, d.size = 255 := by
  decide

/-- What is replied has been received by `get_response2`. -/
theorem getResponse2_of_replied {size : Nat} {c₁ c₂ : Char} {line line' : Line} {ret : Option Int}
    {data : Buffer} (h5 : 5 ≤ size) (h : request size c₁ c₂ line = .ok (.replied ret data, line')) :
    ∃ port rest, getResponse2 (List.replicate size 0) port = .ok (ret, data, rest) := by
  by_cases hfd : line.fd = 0
  · rw [request, if_pos hfd, pure_eq_ok] at h
    simp at h
  · rw [request_eq h5 hfd] at h
    simp only at h
    split at h
    · simp at h
    · obtain ⟨⟨ret', data', line''⟩, hreceive, hreply⟩ := bind_eq_ok_iff.mp h
      obtain ⟨⟨ret'', data'', rest⟩, hresponse, hreceived⟩ := bind_eq_ok_iff.mp hreceive
      simp only [pure_eq_ok, Except.ok.injEq, Prod.mk.injEq, Outcome.replied.injEq] at hreply hreceived
      obtain ⟨⟨rfl, rfl⟩, -⟩ := hreply
      obtain ⟨rfl, rfl, -⟩ := hreceived
      exact ⟨_, rest, hresponse⟩

/-- A reply that fits the buffer is not one that the polls pass over. -/
theorem not_passed_of_accepted {size : Nat} {port rest : Port} {data : Buffer} (h3 : 3 ≤ size)
    (hsize : size < 512) (h : getResponse2 (List.replicate size 0) port = .ok (none, data, rest)) :
    byteAt data 1 ≠ 0x02 := by
  have h3' : 3 ≤ (List.replicate size (0 : UInt8)).length := by rwa [List.length_replicate]
  have hinside : (counted (List.replicate size 0) port).Inside (List.replicate size 0) := by
    by_contra hnot
    obtain ⟨fault, hfault⟩ := getResponse2_of_not_inside h3' hnot
    rw [hfault] at h
    simp at h
  rw [getResponse2_of_inside h3' hinside] at h
  simp only [Except.ok.injEq, Prod.mk.injEq] at h
  obtain ⟨hverdict, rfl, -⟩ := h
  -- the byte in question is the high one of the length
  rw [Ne, byteAt_one_eq_two_iff (by omega)]
  intro hcell
  rcases verdict_cases (List.replicate size 0) port with ⟨hcomplete, -, -⟩ | ⟨-, code, -, hcode⟩
  · -- a first length byte of 2 announces more than there is room for
    have hroom := hinside.2 hcomplete
    rw [List.length_replicate] at hroom
    rcases counted_cases (List.replicate size 0) port with
      ⟨front, noise, port, rfl, hfront, hnoise⟩ | ⟨-, hnone⟩
    · rw [counted_of_delivers hfront hnoise] at hcell hroom
      have hfirst : (poll port).1 = some 0x02 := by simpa [countedFrom] using hcell
      have hannounced : 512 ≤ (countedFrom (List.replicate size 0) noise port).announced := by
        show 512 ≤ bigEndian ((poll port).1.getD _).toNat _
        rw [hfirst]
        exact Nat.le_add_right 512 _
      omega
    · rw [hnone] at hcell
      simp at hcell
  · rw [hverdict] at hcode
    simp at hcode

/-! ## Unpacking -/

/-- The poll ends, and each array of bits has the lowest eight bits of its word in the buffer. -/
def Unpacked (d : Decoder) (result : Except Fault (Option Int × List Value × Line)) (data : Buffer) :
    Prop :=
  ∃ ret out line', result = .ok (ret, out, line') ∧
    ∀ (i offset : Nat), d.fields[i]? = some (.bits offset) →
      out[i]? = some (.bits (lowBits 8 (wordAt data offset)))

theorem decode_bits {offset word : Nat} (h : word < 256) :
    (Field.bits offset).decode word = .ok (.bits (lowBits 8 word)) := by
  have hbits : decimal2binary word (List.replicate 8 0) 0 = .ok (lowBits 8 word) :=
    decimal2binary_eq (n := 8) h []
  rw [Field.decode, hbits]
  rfl

theorem takes_of_bits {d : Decoder} {data : Buffer}
    (h : ∀ offset, .bits offset ∈ d.fields → wordAt data offset < 256) :
    ∀ f ∈ d.fields, f.Takes (wordAt data f.offset) := by
  intro f hf
  cases f with
  | int offset => trivial
  | double offset divisor => trivial
  | bits offset => exact h offset hf

theorem unpacked_iff {d : Decoder} {line line' : Line} {out : List Value} {ret : Option Int}
    {data : Buffer} (hrequest : request d.size d.first d.second line = .ok (.replied ret data, line'))
    (hpassed : byteAt data 1 ≠ 0x02) :
    Unpacked d (d.call line out) data ↔
      ∀ offset, .bits offset ∈ d.fields → wordAt data offset < 256 := by
  rw [call_of_replied hrequest, if_neg hpassed]
  constructor
  · -- a poll that ends has decoded each field
    rintro ⟨ret', out', line'', hok, -⟩ offset hoffset
    obtain ⟨vs, hvalues, -⟩ := bind_eq_ok_iff.mp hok
    obtain ⟨i, hi⟩ := List.getElem?_of_mem hoffset
    obtain ⟨v, -, hdecode⟩ := mapM_getElem? hvalues hi
    exact Field.takes_iff.mp ⟨v, hdecode⟩
  · intro hwords
    obtain ⟨vs, hvalues⟩ : ∃ vs, d.values data = .ok vs :=
      exists_mapM_eq_ok fun f hf => Field.takes_iff.mpr (takes_of_bits hwords f hf)
    refine ⟨ret, vs, line', by rw [hvalues]; rfl, fun i offset hi => ?_⟩
    obtain ⟨v, hv, hdecode⟩ := mapM_getElem? hvalues hi
    rw [Field.offset, decode_bits (hwords offset (List.mem_of_getElem? hi))] at hdecode
    rw [hv, ← Except.ok.inj hdecode]

/--
**The inputs and outputs are unpacked from an accepted reply exactly if both words have at most eight
bits; and `decimal2binary` writes the bits of any number into an array that has room for them.**
-/
theorem gpio_unpacked_iff (d : Decoder) (line line' : Line) (out : List Value) (data : Buffer)
    (hd : d ∈ gpioDecoders)
    (haccepted : request d.size d.first d.second line = .ok (.replied none data, line')) :
    (Unpacked d (d.call line out) data ↔
      ∀ offset, .bits offset ∈ d.fields → wordAt data offset < 256) ∧
    ∀ decimal n : Nat, decimal < 2 ^ n → ∃ binary,
      decimal2binary decimal (List.replicate n 0) 0 = .ok binary ∧
        ∑ i ∈ Finset.range n, binary.getD i 0 * 2 ^ i = decimal := by
  have hsize := size_of_gpioDecoders d hd
  obtain ⟨port, rest, hresponse⟩ := getResponse2_of_replied (by omega) haccepted
  have hpassed := not_passed_of_accepted (by omega) (by omega) hresponse
  exact ⟨unpacked_iff haccepted hpassed, fun decimal n h =>
    ⟨lowBits n decimal, decimal2binary_eq h [], sum_lowBits h⟩⟩

/-- The poll of a line that has a reply to it. -/
theorem accepted_of_replies {d : Decoder} {reply : Reply} (h5 : 5 ≤ d.size)
    (hroom : reply.payload.length + 5 ≤ d.size) :
    ∃ line', request d.size d.first d.second (requested (reply.bytes.map (.item · true))) =
      .ok (.replied none (d.buffer (reply.bytes.map (.item · true))), line') := by
  have hreply : Replies (reply.bytes.map (.item · true)) reply :=
    ⟨_, [], [], (List.append_nil _).symm, delivers_map_item _ true, by simp⟩
  have hroom' : reply.payload.length + 5 ≤ (List.replicate d.size (0 : UInt8)).length := by
    rwa [List.length_replicate]
  have hverdict : (d.heard (reply.bytes.map (.item · true))).verdict (List.replicate d.size 0) = none := by
    rcases verdict_cases (List.replicate d.size 0) (reply.bytes.map (.item · true)) with
      ⟨-, -, hnone⟩ | ⟨hfailed, -⟩
    · exact hnone
    · obtain ⟨noise, rest, hcounted⟩ := counted_of_replies (List.replicate d.size 0) hreply
      exact absurd ⟨by rw [hcounted], matches_of_replies hreply hroom'⟩ hfailed
  have hcases := @request_cases d.size d.first d.second
    (requested (reply.bytes.map (.item · true))) _ [] h5 rfl
  rcases hcases with ⟨hrefused, -⟩ | ⟨-, -, ⟨hinside, -⟩ | ⟨-, line', hrequest⟩⟩
  · simp [requested] at hrefused
  · exact absurd (inside_of_replies hreply hroom') hinside
  · exact ⟨line', by rw [hrequest, hverdict]⟩

/-- Inputs 0 and 2 are set, and outputs 0 and 7. -/
def gpioReply : Reply := ⟨0, 4, [0, 5, 0, 129], etx, by decide⟩

theorem gpio_unpacked_reply : ∃ data line',
    request 255 'P' 'I' (requested (gpioReply.bytes.map (.item · true))) =
        .ok (.replied none data, line') ∧
      Unpacked powerReadGpio (powerReadGpio.call (requested (gpioReply.bytes.map (.item · true))) [])
        data := by
  obtain ⟨line', haccepted⟩ := @accepted_of_replies powerReadGpio gpioReply (by decide) (by decide)
  refine ⟨_, line', haccepted, (gpio_unpacked_iff powerReadGpio _ _ [] _ (by simp [gpioDecoders])
    haccepted).1.mpr fun offset hoffset => ?_⟩
  have hoffsets : offset = 3 ∨ offset = 5 := by simpa [powerReadGpio] using hoffset
  rcases hoffsets with rfl | rfl
  · decide +kernel
  · decide +kernel

/-- There is a ninth input. -/
def wideReply : Reply := ⟨0, 4, [1, 0, 0, 0], etx, by decide⟩

/-- The ninth bit is written behind the array. -/
theorem gpio_not_unpacked : ∃ data line',
    request 255 'P' 'I' (requested (wideReply.bytes.map (.item · true))) =
        .ok (.replied none data, line') ∧
      (powerReadGpio.call (requested (wideReply.bytes.map (.item · true))) []).map (·.2.1) =
        .error (.store 8) ∧
      ¬ Unpacked powerReadGpio (powerReadGpio.call (requested (wideReply.bytes.map (.item · true))) [])
        data := by
  obtain ⟨line', haccepted⟩ := @accepted_of_replies powerReadGpio wideReply (by decide) (by decide)
  have hfault : (powerReadGpio.call (requested (wideReply.bytes.map (.item · true))) []).map (·.2.1) =
      .error (.store 8) := by
    decide +kernel
  refine ⟨_, line', haccepted, hfault, ?_⟩
  rintro ⟨ret, out, line'', hok, -⟩
  rw [hok] at hfault
  simp [Except.map] at hfault

end Tetra.Serial.Power
