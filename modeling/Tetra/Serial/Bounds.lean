import Tetra.Serial.Drive
import Tetra.Serial.Polls

/-!
# Where the receivers store what they read

No receiver is told how large its buffer is. `get_response` stops at a delimiter, the `get_response2`
of the power board at a length that comes over the line; only the `get_response2` of the drive stays
inside any buffer it is called with (`receivers_store_inside_iff`).
-/

namespace Tetra.Serial

open Arrival Memory

/-- A call that stores nothing outside its buffer. -/
def StoresInside {ρ : Type} (result : Except Fault ρ) : Prop := ∀ i, result ≠ .error (.store i)

section StoresInside

variable {ρ : Type} {result : Except Fault ρ}

theorem storesInside_of_ok {a : ρ} (h : result = .ok a) : StoresInside result := by
  intro i hi
  rw [h] at hi
  exact absurd hi (by simp)

theorem storesInside_of_load {i : Nat} (h : result = .error (.load i)) : StoresInside result := by
  intro j hj
  rw [h] at hj
  exact absurd hj (by simp)

theorem not_storesInside {i : Nat} (h : result = .error (.store i)) : ¬ StoresInside result :=
  fun hinside => hinside i h

/-- What follows without a store makes no difference. -/
theorem storesInside_bind_iff {τ : Type} {f : ρ → Except Fault τ} (hf : ∀ a, StoresInside (f a)) :
    StoresInside (result >>= f) ↔ StoresInside result := by
  cases result with
  | ok a => exact ⟨fun _ => storesInside_of_ok rfl, fun _ => hf a⟩
  | error fault =>
    constructor
    · intro hinside i hi
      exact hinside i (by rw [Except.error.inj hi]; rfl)
    · intro hinside i hi
      exact hinside i (by rw [Except.error.inj hi])

end StoresInside

theorem getResponse_storesInside_iff {data : Buffer} (h0 : 0 < data.length) (port : Port) :
    StoresInside (getResponse data port) ↔ (delimited port).frame.length ≤ data.length := by
  constructor
  · intro hinside
    by_contra hfit
    obtain ⟨i, hi⟩ := getResponse_of_not_fits h0 hfit
    exact not_storesInside hi hinside
  · intro hfit
    exact storesInside_of_ok (getResponse_of_fits h0 hfit)

theorem Drive.getResponse2_storesInside {data : Buffer} (h20 : 20 ≤ data.length) (port : Port) :
    StoresInside (Drive.getResponse2 data port) :=
  storesInside_of_ok (Drive.getResponse2_eq port h20)

theorem Power.getResponse2_storesInside_iff {data : Buffer} (h3 : 3 ≤ data.length) (port : Port) :
    StoresInside (Power.getResponse2 data port) ↔ Fits data 0 (Power.counted data port).cells := by
  constructor
  · intro hinside
    by_contra hfits
    obtain ⟨i, hi⟩ := Power.getResponse2_of_not_fits h3 hfits
    exact not_storesInside hi hinside
  · intro hfits
    by_cases hinside : (Power.counted data port).Inside data
    · exact storesInside_of_ok (Power.getResponse2_of_inside h3 hinside)
    · obtain ⟨i, hi⟩ := Power.getResponse2_of_fits h3 hfits hinside
      exact storesInside_of_load hi

/-! ## Their callers -/

section Callers

theorem Line.receive_storesInside_iff {ρ : Type}
    {receiver : Buffer → Port → Except Fault (ρ × Buffer × Port)} (line : Line) (data : Buffer) :
    StoresInside (line.receive receiver data) ↔ StoresInside (receiver data line.port) :=
  storesInside_bind_iff fun _ => storesInside_of_ok rfl

/-- The commands whose reply is received into the buffer they were made in. -/
theorem exchange_storesInside_iff (line : Line) (data : Buffer) (index : Nat) :
    StoresInside (exchange getResponse line data index) ↔
      (line.reaction index).written ≤ 0 ∨
        (delimited (line.reaction index).arrivals).frame.length ≤ max 255 data.length := by
  have hlength : (fill 255 0 data).length = max 255 data.length := by
    rw [fill, List.length_append, List.length_replicate, List.length_drop]
    omega
  rw [exchange_eq]
  by_cases hw : (line.reaction index).written ≤ 0
  · rw [if_pos hw]
    exact ⟨fun _ => Or.inl hw, fun _ => storesInside_of_ok rfl⟩
  · rw [if_neg hw, Line.receive_storesInside_iff, Line.wrote_port,
      getResponse_storesInside_iff (by omega), hlength]
    exact ⟨Or.inr, fun h => h.resolve_left hw⟩

/-- The polls of the power board. -/
theorem Power.request_storesInside_iff {size : Nat} (h5 : 5 ≤ size) (c₁ c₂ : Char) (line : Line) :
    StoresInside (Power.request size c₁ c₂ line) ↔
      line.fd = 0 ∨ (line.reaction 5).written ≤ 0 ∨
        Fits (List.replicate size 0) 0
          (Power.counted (List.replicate size 0) (line.reaction 5).arrivals).cells := by
  by_cases hfd : line.fd = 0
  · rw [Power.request, if_pos hfd]
    exact ⟨fun _ => Or.inl hfd, fun _ => storesInside_of_ok rfl⟩
  · rw [Power.request_eq h5 hfd]
    by_cases hw : (line.reaction 5).written ≤ 0
    · simp only [if_pos hw]
      exact ⟨fun _ => Or.inr (Or.inl hw), fun _ => storesInside_of_ok rfl⟩
    · simp only [if_neg hw]
      refine (storesInside_bind_iff fun _ => storesInside_of_ok rfl).trans ?_
      have h3 : 3 ≤ (List.replicate size (0 : UInt8)).length := by
        rw [List.length_replicate]
        omega
      rw [Line.receive_storesInside_iff, Line.wrote_port, Power.getResponse2_storesInside_iff h3]
      exact ⟨fun h => Or.inr (Or.inr h), fun h => (h.resolve_left hfd).resolve_left hw⟩

/-- A poll whose words are all decoded stores where its receiver does. -/
theorem Power.call_storesInside_iff {d : Power.Decoder} (line : Line) (out : List Power.Value)
    (hdecodes : ∀ f ∈ d.fields, ∀ word, ∃ v, f.decode word = .ok v) :
    StoresInside (d.call line out) ↔ StoresInside (Power.request d.size d.first d.second line) := by
  refine storesInside_bind_iff ?_
  rintro ⟨outcome, line'⟩
  cases outcome with
  | refused ret => exact storesInside_of_ok rfl
  | replied ret data =>
    obtain ⟨vs, hvs⟩ : ∃ vs, d.fields.mapM (fun f => f.decode (Power.wordAt data f.offset)) = .ok vs :=
      exists_mapM_eq_ok fun f hf => hdecodes f hf _
    simp only [hvs, ok_bind]
    by_cases hpassed : byteAt data 1 = 0x02
    · rw [if_pos hpassed]
      exact storesInside_of_ok rfl
    · rw [if_neg hpassed]
      exact storesInside_of_ok rfl

/-- The reads of 500 words, whose buffers have 1024 cells. -/
theorem Power.integral_reads_store_inside_iff (line : Line) (out : List Power.Value) :
    (StoresInside (Power.readIntegralVoltage line) ↔
      line.fd = 0 ∨ (line.reaction 5).written ≤ 0 ∨ Fits (List.replicate 1024 0) 0
        (Power.counted (List.replicate 1024 0) (line.reaction 5).arrivals).cells) ∧
    (StoresInside (Power.powerReadIntegralCurrent.call line out) ↔
      line.fd = 0 ∨ (line.reaction 5).written ≤ 0 ∨ Fits (List.replicate 1024 0) 0
        (Power.counted (List.replicate 1024 0) (line.reaction 5).arrivals).cells) := by
  have hdecodes : ∀ f ∈ Power.powerReadIntegralCurrent.fields, ∀ word, ∃ v, f.decode word = .ok v := by
    intro f hf word
    simp only [Power.powerReadIntegralCurrent] at hf
    obtain ⟨i, rfl⟩ := Power.exists_of_mem_words hf
    exact ⟨.int word, rfl⟩
  constructor
  · exact Power.request_storesInside_iff (by decide) 'I' 'V' line
  · rw [Power.call_storesInside_iff line out hdecodes]
    exact Power.request_storesInside_iff (by decide) 'I' 'C' line

end Callers

/--
**`get_response` stays inside its buffer exactly if the bytes from the first `STX` to the one behind
the next `ETX` fit it, the drive's `get_response2` always does, and the power board's exactly if no
byte comes at a place behind the end of the buffer. So do the commands and the polls that call them.**
-/
theorem receivers_store_inside_iff (data : Buffer) (port : Port) (h20 : 20 ≤ data.length) :
    (StoresInside (getResponse data port) ↔ (delimited port).frame.length ≤ data.length) ∧
    StoresInside (Drive.getResponse2 data port) ∧
    (StoresInside (Power.getResponse2 data port) ↔ Fits data 0 (Power.counted data port).cells) ∧
    (∀ (line : Line) (index : Nat), StoresInside (exchange getResponse line data index) ↔
      (line.reaction index).written ≤ 0 ∨
        (delimited (line.reaction index).arrivals).frame.length ≤ max 255 data.length) ∧
    ∀ (size : Nat) (c₁ c₂ : Char) (line : Line), 5 ≤ size →
      (StoresInside (Power.request size c₁ c₂ line) ↔
        line.fd = 0 ∨ (line.reaction 5).written ≤ 0 ∨ Fits (List.replicate size 0) 0
          (Power.counted (List.replicate size 0) (line.reaction 5).arrivals).cells) :=
  ⟨getResponse_storesInside_iff (by omega) port, Drive.getResponse2_storesInside h20 port,
    Power.getResponse2_storesInside_iff (by omega) port,
    fun line index => exchange_storesInside_iff line data index,
    fun _ c₁ c₂ line h5 => Power.request_storesInside_iff h5 c₁ c₂ line⟩

/-- `STX`, and then digits without an end. -/
def endless (n : Nat) : Port := .item stx true :: List.replicate n (.item flagOk true)

theorem receivers_store_inside_endless :
    StoresInside (getResponse (List.replicate 255 0) (endless 254)) ∧
      StoresInside (Drive.getResponse2 (List.replicate 255 0) (endless 254)) ∧
      StoresInside (Power.getResponse2 (List.replicate 255 0) (endless 254)) ∧
      StoresInside (Power.request 255 'P' 'Q' { fd := 3, reactions := [⟨-1, endless 256⟩] }) := by
  obtain ⟨hdelimited, hfixed, hcounted, _, hrequest⟩ :=
    receivers_store_inside_iff (List.replicate 255 0) (endless 254) (by decide +kernel)
  refine ⟨hdelimited.mpr (by decide +kernel), hfixed, hcounted.mpr ?_,
    (hrequest 255 'P' 'Q' _ (by decide)).mpr (Or.inr (Or.inl (by decide)))⟩
  intro k b hk
  have hlt := (List.getElem?_eq_some_iff.mp hk).1
  have hlength : (Power.counted (List.replicate 255 0) (endless 254)).cells.length = 255 := by
    decide +kernel
  rw [hlength] at hlt
  rw [List.length_replicate]
  omega

/-- A reply without an `ETX`, and one that announces more than 255 bytes, in the buffers they go to. -/
theorem receivers_store_outside :
    ¬ StoresInside (getResponse (List.replicate 256 0) (endless 256)) ∧
      ¬ StoresInside (exchange getResponse { fd := 3, reactions := [⟨7, endless 256⟩] }
        (packetBuf 256 (packet ['D'.toUInt8, 'B'.toUInt8, '1'.toUInt8, '1'.toUInt8])) 7) ∧
      ¬ StoresInside (Power.getResponse2 (List.replicate 255 0)
        (.item stx true :: .item 1 true :: endless 256)) ∧
      ¬ StoresInside (Power.request 255 'P' 'Q'
        { fd := 3, reactions := [⟨5, .item stx true :: .item 1 true :: endless 256⟩] }) := by
  have hlong : ¬ (delimited (endless 256)).frame.length ≤ 256 := by decide +kernel
  have hcell : (Power.counted (List.replicate 255 0)
      (.item stx true :: .item 1 true :: endless 256)).cells[255]? = some (some flagOk) := by
    decide +kernel
  have hunfit : ¬ Fits (List.replicate 255 (0 : UInt8)) 0 (Power.counted (List.replicate 255 0)
      (.item stx true :: .item 1 true :: endless 256)).cells := by
    intro hfits
    have hlt := hfits 255 flagOk hcell
    rw [List.length_replicate] at hlt
    omega
  refine ⟨?_, ?_,
    fun h => hunfit ((Power.getResponse2_storesInside_iff (by decide +kernel) _).mp h), ?_⟩
  · intro h
    have hfit := (getResponse_storesInside_iff (by decide +kernel) _).mp h
    rw [List.length_replicate] at hfit
    exact hlong hfit
  · intro h
    rcases (exchange_storesInside_iff _ _ _).mp h with hw | hfit
    · exact absurd hw (by decide +kernel)
    · rw [length_packetBuf (by decide)] at hfit
      exact hlong hfit
  · intro h
    rcases (Power.request_storesInside_iff (by decide) 'P' 'Q' _).mp h with hfd | hw | hfits
    · exact absurd hfd (by decide)
    · exact absurd hw (by decide +kernel)
    · exact hunfit hfits

end Tetra.Serial
