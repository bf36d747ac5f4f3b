import Tetra.Lidar.Channels

/-!
# A lidar whose scans are two packets

A scan of the R270 does not fit into one packet. `KanaviLidar::r270` takes any first packet and any
second one together, so that a lost packet puts the wrong halves together. `scans_resync` says that
this does not last: after whatever packets have come before, and up to one wrong point cloud, all scans
but the first are published as they were measured, if the first packet of the lidar was for channel 0.

`never_published` is about all models: the first packet of the lidar says which channel a point cloud
is published with. If there is no such channel, there is never a point cloud.
-/

namespace Tetra.Lidar

open KanaviLidar

/-- The calls of `receiveData` for some packets, and the point clouds that are published. -/
def receiveAll {model : Model} (s : KanaviLidar model) :
    List Packet → Option (KanaviLidar model × List Cloud)
  | [] => some (s, [])
  | p :: ps => (receiveData s p).bind fun r =>
      (receiveAll r.1 ps).map fun t => (t.1, r.2.toList ++ t.2)

section All

variable {model : Model} {s t u : KanaviLidar model} {p : Packet} {ps qs : List Packet}
  {clouds clouds' : List Cloud} {cloud : Option Cloud}

theorem receiveAll_cons_eq_some :
    receiveAll s (p :: ps) = some (u, clouds) ↔
      ∃ t cloud clouds', receiveData s p = some (t, cloud) ∧ receiveAll t ps = some (u, clouds') ∧
        clouds = cloud.toList ++ clouds' := by
  simp only [receiveAll, Option.bind_eq_some_iff, Option.map_eq_some_iff, Prod.exists, Prod.mk.injEq]
  constructor
  · rintro ⟨t, cloud, hp, u', clouds', hps, rfl, rfl⟩
    exact ⟨t, cloud, clouds', hp, hps, rfl⟩
  · rintro ⟨t, cloud, clouds', hp, hps, rfl⟩
    exact ⟨t, cloud, hp, u, clouds', hps, rfl, rfl⟩

theorem receiveAll_append (hps : receiveAll s ps = some (t, clouds))
    (hqs : receiveAll t qs = some (u, clouds')) :
    receiveAll s (ps ++ qs) = some (u, clouds ++ clouds') := by
  induction ps generalizing s clouds with
  | nil =>
    obtain ⟨rfl, rfl⟩ := Prod.mk.inj (Option.some.inj hps)
    exact hqs
  | cons p ps ih =>
    obtain ⟨r, cloud, rest, hp, hrest, rfl⟩ := receiveAll_cons_eq_some.mp hps
    rw [List.cons_append, receiveAll_cons_eq_some]
    exact ⟨r, cloud, rest ++ clouds', hp, ih hrest, by rw [List.append_assoc]⟩

/-! ## No point cloud -/

/-- The channel that a point cloud is published with is not there. -/
structure Silent (s : KanaviLidar model) : Prop where
  inputed : s.checkedLidarInputed = true
  checkParseEnd : s.checkParseEnd = false
  checkedChannel : model.channels ≤ s.checkedChannel

theorem Silent.parseLength (h : Silent s) (input : Packet) (ch : Nat) :
    Silent (s.parseLength input ch) := by
  unfold KanaviLidar.parseLength
  split
  · exact h
  · split
    · next hch =>
      rw [s.datagram.length_lenBuf] at hch
      have hne : ch ≠ s.checkedChannel := by
        have := h.checkedChannel
        omega
      exact ⟨h.inputed, by simp [h.checkParseEnd, hne], h.checkedChannel⟩
    · exact h

theorem Silent.r270 (h : Silent s) (input : Packet) : Silent (s.r270 input) := by
  unfold KanaviLidar.r270
  split
  · exact ⟨h.inputed, h.checkParseEnd, h.checkedChannel⟩
  · have hparse := h.parseLength (s.vecTempBuf ++ input) 0
    exact ⟨hparse.inputed, hparse.checkParseEnd, hparse.checkedChannel⟩

theorem Silent.r2 (h : Silent s) (input : Packet) : Silent (s.r2 input) := by
  unfold KanaviLidar.r2
  split
  · exact h.parseLength _ _
  · exact h

theorem Silent.r4 (h : Silent s) (input : Packet) : Silent (s.r4 input) := by
  rw [KanaviLidar.r4]
  by_cases hch : Model.r4.channels ≤ input.channel
  · rwa [if_pos hch]
  · rw [if_neg hch]
    by_cases hbuf : s.datagram.lenBuf = [] ∨ s.datagram.lenBuf.length ≤ input.channel
    · rwa [if_pos hbuf]
    · rw [if_neg hbuf]
      exact h.parseLength _ _

theorem Silent.processData (h : Silent s) (input : Packet) : Silent (s.processData input) := by
  unfold KanaviLidar.processData
  split
  · split
    · exact h.r2 input
    · exact h.r4 input
    · exact h.r270 input
    · exact h
  · exact h

theorem Silent.processed (h : Silent s) (hr : Processed s p t) : Silent t := by
  cases hr with
  | empty => exact h
  | headless =>
    split
    · exact h.r270 p
    · exact h
  | known => exact h.processData p
  | first _ hin => exact absurd h.inputed (Bool.eq_false_iff.mp hin)
  | other _ hin => exact absurd h.inputed (Bool.eq_false_iff.mp hin)

theorem Silent.receiveData (h : Silent s) (hrecv : receiveData s p = some (t, cloud)) :
    Silent t ∧ cloud = none := by
  obtain ⟨r, hr, hpublish⟩ := processed_of_receiveData hrecv
  have hsilent := h.processed hr
  rw [publish_of_checkParseEnd hsilent.checkParseEnd] at hpublish
  obtain ⟨rfl, rfl⟩ := Prod.mk.inj hpublish
  exact ⟨hsilent, rfl⟩

/-- Such a lidar stays so, whatever packets come. -/
theorem Silent.receiveAll (h : Silent s) (hps : receiveAll s ps = some (t, clouds)) :
    Silent t ∧ clouds = [] := by
  induction ps generalizing s clouds with
  | nil =>
    obtain ⟨rfl, rfl⟩ := Prod.mk.inj (Option.some.inj hps)
    exact ⟨h, rfl⟩
  | cons p ps ih =>
    obtain ⟨r, cloud, rest, hp, hrest, rfl⟩ := receiveAll_cons_eq_some.mp hps
    obtain ⟨hr, rfl⟩ := h.receiveData hp
    obtain ⟨ht, rfl⟩ := ih hr hrest
    exact ⟨ht, rfl⟩

/-- Before the first packet of the lidar. -/
structure Waiting (s : KanaviLidar model) : Prop where
  inputed : s.checkedLidarInputed = false
  checkParseEnd : s.checkParseEnd = false
  checkOnGoing : s.checkOnGoing = false

theorem Waiting.processed (h : Waiting s) (hr : Processed s p t) :
    Waiting t ∧ opens model p = false ∨
      opens model p = true ∧ (model.channels ≤ p.channel → Silent t) := by
  cases hr with
  | empty hnil => exact .inl ⟨h, not_opens_of_header (by rw [hnil]; decide)⟩
  | headless _ hheader =>
    rw [h.checkOnGoing]
    exact .inl ⟨h, not_opens_of_header hheader⟩
  | known _ hin => exact absurd hin (Bool.eq_false_iff.mp h.inputed)
  | first hopens =>
    refine .inr ⟨hopens, ?_⟩
    intro hch
    have hsilent : Silent { s with
        checkedModel := some model
        checkedLidarInputed := true
        checkedChannel := p.channel } :=
      ⟨rfl, h.checkParseEnd, hch⟩
    exact hsilent.processData p
  | other hopens hin => exact .inl ⟨⟨hin, h.checkParseEnd, h.checkOnGoing⟩, hopens⟩

theorem Waiting.receiveData (h : Waiting s) (hch : opens model p = true → model.channels ≤ p.channel)
    (hrecv : receiveData s p = some (t, cloud)) :
    (Waiting t ∧ opens model p = false ∨ opens model p = true ∧ Silent t) ∧ cloud = none := by
  obtain ⟨r, hr, hpublish⟩ := processed_of_receiveData hrecv
  rcases h.processed hr with ⟨hwaiting, hopens⟩ | ⟨hopens, hsilent⟩
  · rw [publish_of_checkParseEnd hwaiting.checkParseEnd] at hpublish
    obtain ⟨rfl, rfl⟩ := Prod.mk.inj hpublish
    exact ⟨.inl ⟨hwaiting, hopens⟩, rfl⟩
  · have hr := hsilent (hch hopens)
    rw [publish_of_checkParseEnd hr.checkParseEnd] at hpublish
    obtain ⟨rfl, rfl⟩ := Prod.mk.inj hpublish
    exact ⟨.inr ⟨hopens, hr⟩, rfl⟩

theorem opened_cons : opened model (p :: ps) = if opens model p then p :: ps else opened model ps := by
  cases hopens : opens model p <;> simp [opened, hopens]

/--
**The first packet can silence a lidar.** If the channel that the first packet of the lidar was for is
not one of the model, then no packets whatever bring a point cloud.
-/
theorem never_published (hall : receiveAll (create model) ps = some (t, clouds))
    (hfirst : ∀ c ∈ firstChannel model ps, model.channels ≤ c) : clouds = [] := by
  have hwaiting : Waiting (create model) := ⟨rfl, rfl, rfl⟩
  revert hwaiting hall
  generalize create model = s
  intro hall hwaiting
  induction ps generalizing s clouds with
  | nil => exact ((Prod.mk.inj (Option.some.inj hall)).2).symm
  | cons p ps ih =>
    obtain ⟨r, cloud, rest, hp, hrest, rfl⟩ := receiveAll_cons_eq_some.mp hall
    have hch : opens model p = true → model.channels ≤ p.channel := by
      intro hopens
      exact hfirst _ (by rw [firstChannel, opened_cons, if_pos hopens]; rfl)
    obtain ⟨hr | hr, rfl⟩ := hwaiting.receiveData hch hp
    · have hopened : opened model (p :: ps) = opened model ps := by
        rw [opened_cons, hr.2]
        rfl
      rw [firstChannel, hopened] at hfirst
      rw [ih hfirst r hrest hr.1]
      rfl
    · obtain ⟨-, rfl⟩ := hr.2.receiveAll hrest
      rfl

theorem exists_receiveAll (h : ∀ p ∈ ps, 5 ≤ p.length) (s : KanaviLidar model) :
    ∃ t clouds, receiveAll s ps = some (t, clouds) := by
  induction ps generalizing s with
  | nil => exact ⟨s, [], rfl⟩
  | cons p ps ih =>
    obtain ⟨r, cloud, hp⟩ := exists_receiveData s (h p List.mem_cons_self)
    obtain ⟨t, clouds, hps⟩ := ih (fun q hq => h q (List.mem_cons_of_mem p hq)) r
    exact ⟨t, cloud.toList ++ clouds, receiveAll_cons_eq_some.mpr ⟨r, cloud, clouds, hp, hps, rfl⟩⟩

/-- The first half of a scan, all of whose lengths are the same. -/
def r270First (channel length : UInt8) : Packet :=
  [0xFA, 0x07, 0, 0xDD, 0xC0 + channel, 0, 0] ++ List.replicate 1160 length

/-- The second half. -/
def r270Second (length : UInt8) : Packet := List.replicate 1000 length

theorem length_r270First (channel length : UInt8) : (r270First channel length).length = 1167 := by
  rw [r270First, List.length_append, List.length_replicate]
  rfl

theorem length_r270Second (length : UInt8) : (r270Second length).length = 1000 := by
  rw [r270Second, List.length_replicate]

/-- Two whole halves, the first one for channel 1: the R270 has only channel 0. -/
theorem never_published_channel :
    ∃ t clouds, receiveAll (create .r270) [r270First 1 5, r270Second 5] = some (t, clouds) ∧
      clouds = [] := by
  have hlong : ∀ p ∈ [r270First 1 5, r270Second 5], 5 ≤ p.length := by
    simp [length_r270First, length_r270Second]
  obtain ⟨t, clouds, hall⟩ := exists_receiveAll hlong (create .r270)
  refine ⟨t, clouds, hall, never_published hall ?_⟩
  have hfirst : firstChannel .r270 [r270First 1 5, r270Second 5] = some 1 := rfl
  rw [hfirst]
  rintro c ⟨⟩
  exact Nat.le_refl 1

end All

/-! ## Scans of two packets -/

/-- The two packets of a scan of the R270: only the first one has a header. -/
structure Scan where
  first : Packet
  second : Packet
  length_first : 5 ≤ first.length
  header_first : first.header = Packet.headerValue
  productLine_first : first.productLine = Model.r270.value
  mode_first : first.mode = Packet.distanceData
  length_second : 5 ≤ second.length
  header_second : second.header ≠ Packet.headerValue

namespace Scan

def packets (scan : Scan) : List Packet := [scan.first, scan.second]

/-- A scan all of whose lengths are the same. -/
def constant (length : UInt8) (h : length ≠ Packet.headerValue) : Scan where
  first := r270First 0 length
  second := r270Second length
  length_first := by rw [length_r270First]; decide
  header_first := rfl
  productLine_first := rfl
  mode_first := rfl
  length_second := by rw [length_r270Second]; decide
  header_second := h

theorem bytes_constant (length : UInt8) (h : length ≠ Packet.headerValue) :
    (constant length h).first ++ (constant length h).second =
      [0xFA, 0x07, 0, 0xDD, 0xC0, 0, 0] ++ List.replicate (2 * Model.r270.points) length := by
  show r270First 0 length ++ r270Second length = _
  rw [r270First, r270Second, List.append_assoc, List.replicate_append_replicate]
  rfl

/-- The point cloud of a scan, if it is long enough and point clouds are published with channel 0. -/
def published (checkedChannel : Nat) (scan : Scan) : List Cloud :=
  if checkedChannel = 0 ∧ (scan.first ++ scan.second).Long .r270 then
    [cloudOf .r270 fun _ => (scan.first ++ scan.second).lengths .r270]
  else []

theorem published_constant (length : UInt8) (h : length ≠ Packet.headerValue) :
    (constant length h).published 0 =
      [cloudOf .r270 fun _ => List.replicate 1080 (length.toNat * 101)] := by
  have hlong : ((constant length h).first ++ (constant length h).second).Long .r270 := by
    rw [bytes_constant, Packet.Long, List.length_append, List.length_replicate]
    exact Nat.le_refl _
  rw [published, if_pos ⟨rfl, hlong⟩, bytes_constant, lengths_append_replicate rfl]
  rfl

end Scan

section Halves

variable {s t : KanaviLidar .r270} {p : Packet} {ps : List Packet} {cloud : Option Cloud}

/-- The lidar between two packets: `mbCheckOnGoing` says whether there is a first half. -/
structure Halves (s : KanaviLidar .r270) : Prop where
  checkParseEnd : s.checkParseEnd = false
  checkedModel : s.checkedLidarInputed = true → s.checkedModel = some .r270
  notInputed : s.checkedLidarInputed = false → s.vecTempBuf = []
  onGoing : s.checkOnGoing = true ↔ s.vecTempBuf ≠ []

theorem halves_create : Halves (create .r270) := ⟨rfl, nofun, fun _ => rfl, by simp [create]⟩

theorem processData_r270 (hs : s.checkedModel = some .r270) :
    s.processData p = if p.mode = Packet.distanceData then s.r270 p else s := by
  rw [KanaviLidar.processData, hs]

/-- `parseLength` changes the lengths and the end. -/
theorem publish_parseLength {input : Packet} (hend : s.checkParseEnd = false) :
    publish { s.parseLength input 0 with vecTempBuf := [], checkOnGoing := false } =
      if input.Long .r270 then
        let d := s.datagram.setRow 0 (input.lengths .r270) (input.length_lengths .r270)
        ({ s with datagram := d, vecTempBuf := [], checkOnGoing := false },
          if s.checkedChannel = 0 then some (generatePointCloud d) else none)
      else ({ s with vecTempBuf := [], checkOnGoing := false }, none) := by
  have hch : 0 < s.datagram.lenBuf.length := by
    rw [s.datagram.length_lenBuf]
    decide
  by_cases hlong : input.Long .r270
  · rw [if_pos hlong, parseLength, if_neg (not_not.mpr hlong), if_pos hch]
    by_cases h0 : s.checkedChannel = 0
    · simp [publish, h0, hend]
    · simp [publish, h0, hend, Ne.symm h0]
  · rw [if_neg hlong, parseLength, if_pos hlong]
    simp [publish, hend]

/-- A first half is kept. -/
theorem receiveData_first (scan : Scan) (h : Halves s) (hbuf : s.vecTempBuf = []) :
    ∃ t, receiveData s scan.first = some (t, none) ∧ Halves t ∧ t.checkedLidarInputed = true ∧
      t.vecTempBuf = scan.first ∧
        t.checkedChannel = if s.checkedLidarInputed then s.checkedChannel else scan.first.channel := by
  have hne : scan.first ≠ [] := List.length_pos_iff.mp (by have := scan.length_first; omega)
  have hlength : ¬ scan.first.length < 5 := Nat.not_lt.mpr scan.length_first
  have hclass : classification scan.first = some .r270 := by
    rw [classification_eq_iff, opens]
    simp [scan.header_first, scan.productLine_first]
  rw [receiveData, if_neg hne, process, if_neg hlength, if_neg (not_not.mpr scan.header_first)]
  cases hin : s.checkedLidarInputed with
  | true =>
    refine ⟨{ s with checkOnGoing := true, vecTempBuf := scan.first }, ?_, ⟨h.checkParseEnd,
      fun _ => h.checkedModel hin, ?_, by simp [hne]⟩, hin, rfl, rfl⟩
    · rw [if_pos rfl, processData_r270 (h.checkedModel hin), if_pos scan.mode_first, r270, if_pos hbuf]
      simp [publish, h.checkParseEnd]
    · intro hfalse
      rw [hin] at hfalse
      cases hfalse
  | false =>
    refine ⟨{ s with
      checkedModel := some .r270
      checkedLidarInputed := true
      checkedChannel := scan.first.channel
      checkOnGoing := true
      vecTempBuf := scan.first }, ?_,
      ⟨h.checkParseEnd, fun _ => rfl, fun hfalse => absurd hfalse (by simp), by simp [hne]⟩, rfl, rfl, rfl⟩
    simp only [Bool.false_eq_true, if_false, hclass, if_true]
    rw [processData_r270 rfl, if_pos scan.mode_first, r270, if_pos hbuf]
    simp [publish, h.checkParseEnd]

/-- Whatever comes behind a first half is the second one, if it has no header or is one of distances. -/
theorem receiveData_second (h : Halves s) (hbuf : s.vecTempBuf ≠ []) (hlength : 5 ≤ p.length)
    (hp : p.header ≠ Packet.headerValue ∨ p.mode = Packet.distanceData) :
    receiveData s p = some (publish
      { s.parseLength (s.vecTempBuf ++ p) 0 with vecTempBuf := [], checkOnGoing := false }) := by
  have hne : p ≠ [] := List.length_pos_iff.mp (by omega)
  have hin : s.checkedLidarInputed = true := by
    by_contra hfalse
    exact hbuf (h.notInputed (by simpa using hfalse))
  rw [receiveData, if_neg hne, process, if_neg (Nat.not_lt.mpr hlength)]
  by_cases hheader : p.header = Packet.headerValue
  · have hmode := hp.resolve_left (not_not.mpr hheader)
    rw [if_neg (not_not.mpr hheader), if_pos hin, processData_r270 (h.checkedModel hin), if_pos hmode,
      r270, if_neg hbuf]
    rfl
  · rw [if_pos hheader, if_pos (h.onGoing.mpr hbuf)]
    simp [r270, hbuf]

/-- Between two scans. -/
structure Idle (s : KanaviLidar .r270) : Prop where
  halves : Halves s
  buffer : s.vecTempBuf = []

/-- Whatever is taken as a second half, the lidar is between two scans then. -/
theorem idle_of_second (h : Halves s) (hbuf : s.vecTempBuf ≠ []) (hlength : 5 ≤ p.length)
    (hp : p.header ≠ Packet.headerValue ∨ p.mode = Packet.distanceData) :
    ∃ t cloud, receiveData s p = some (t, cloud) ∧ Idle t ∧
      t.checkedLidarInputed = s.checkedLidarInputed ∧ t.checkedChannel = s.checkedChannel ∧
        cloud = if s.checkedChannel = 0 ∧ (s.vecTempBuf ++ p).Long .r270 then
          some (cloudOf .r270 fun _ => (s.vecTempBuf ++ p).lengths .r270) else none := by
  rw [receiveData_second h hbuf hlength hp, publish_parseLength h.checkParseEnd]
  by_cases hlong : (s.vecTempBuf ++ p).Long .r270
  · rw [if_pos hlong]
    refine ⟨_, _, rfl, ⟨⟨h.checkParseEnd, h.checkedModel, fun _ => rfl, by simp⟩, rfl⟩, rfl, rfl, ?_⟩
    by_cases hch : s.checkedChannel = 0
    · rw [if_pos hch, if_pos ⟨hch, hlong⟩]
      refine congrArg some (generatePointCloud_congr fun c hc => ?_)
      rw [Datagram.row_setRow (by decide), if_pos (Nat.lt_one_iff.mp hc)]
    · rw [if_neg hch, if_neg (fun hboth => hch hboth.1)]
  · rw [if_neg hlong, if_neg (fun hboth => hlong hboth.2)]
    exact ⟨_, _, rfl, ⟨⟨h.checkParseEnd, h.checkedModel, fun _ => rfl, by simp⟩, rfl⟩, rfl, rfl, rfl⟩

/-- Between two scans, a packet without a header is not looked at. -/
theorem Idle.ignore (h : Idle s) (hlength : 5 ≤ p.length) (hp : p.header ≠ Packet.headerValue) :
    receiveData s p = some (s, none) := by
  have hne : p ≠ [] := List.length_pos_iff.mp (by omega)
  have hgoing : s.checkOnGoing = false := by
    by_contra htrue
    exact h.halves.onGoing.mp (by simpa using htrue) h.buffer
  rw [receiveData, if_neg hne, process, if_neg (Nat.not_lt.mpr hlength), if_pos hp, hgoing]
  simp [publish, h.halves.checkParseEnd]

/-- A scan from between two scans to between two scans. -/
theorem Idle.scan (h : Idle s) (scan : Scan) :
    ∃ t, receiveAll s scan.packets = some (t, scan.published t.checkedChannel) ∧ Idle t ∧
      t.checkedLidarInputed = true ∧
        t.checkedChannel = if s.checkedLidarInputed then s.checkedChannel else scan.first.channel := by
  obtain ⟨r, hfirst, hr, hin, hbuf, hchannel⟩ := receiveData_first scan h.halves h.buffer
  have hne : r.vecTempBuf ≠ [] := by
    rw [hbuf]
    exact List.length_pos_iff.mp (by have := scan.length_first; omega)
  obtain ⟨t, cloud, hsecond, ht, htin, htchannel, hcloud⟩ :=
    idle_of_second hr hne scan.length_second (.inl scan.header_second)
  refine ⟨t, ?_, ht, htin.trans hin, htchannel.trans hchannel⟩
  rw [Scan.packets, receiveAll_cons_eq_some]
  refine ⟨r, none, _, hfirst, receiveAll_cons_eq_some.mpr ⟨t, cloud, [], hsecond, rfl, rfl⟩, ?_⟩
  rw [hcloud, hbuf, ← htchannel, Scan.published]
  split <;> rfl

/-- Scans in a row. -/
theorem Idle.scans (h : Idle s) (hin : s.checkedLidarInputed = true) (scans : List Scan) :
    ∃ t, receiveAll s (scans.flatMap Scan.packets) =
      some (t, scans.flatMap (Scan.published s.checkedChannel)) := by
  induction scans generalizing s with
  | nil => exact ⟨s, rfl⟩
  | cons scan scans ih =>
    obtain ⟨r, hscan, hr, hrin, hchannel⟩ := h.scan scan
    rw [if_pos hin] at hchannel
    obtain ⟨t, hrest⟩ := ih hr hrin
    rw [hchannel] at hscan hrest
    exact ⟨t, receiveAll_append hscan hrest⟩

/-- With a first half that has lost its second one, a scan puts an end to it. -/
theorem Halves.scan (h : Halves s) (hbuf : s.vecTempBuf ≠ []) (scan : Scan) :
    ∃ t clouds, receiveAll s scan.packets = some (t, clouds) ∧ clouds.length ≤ 1 ∧ Idle t ∧
      t.checkedLidarInputed = true ∧
        t.checkedChannel = if s.checkedLidarInputed then s.checkedChannel else scan.first.channel := by
  obtain ⟨r, cloud, hfirst, hr, hrin, hchannel, -⟩ :=
    idle_of_second h hbuf scan.length_first (.inr scan.mode_first)
  have hin : s.checkedLidarInputed = true := by
    by_contra hfalse
    exact hbuf (h.notInputed (by simpa using hfalse))
  have hsecond := hr.ignore scan.length_second scan.header_second
  rw [if_pos hin]
  refine ⟨r, cloud.toList, ?_, by cases cloud <;> simp, hr, hrin.trans hin, hchannel⟩
  rw [Scan.packets, receiveAll_cons_eq_some]
  exact ⟨r, cloud, [], hfirst, receiveAll_cons_eq_some.mpr ⟨r, none, [], hsecond, rfl, rfl⟩, by simp⟩

/-! ## Every run -/

theorem Halves.publish (h : Halves s) : Lidar.publish s = (s, none) :=
  publish_of_checkParseEnd h.checkParseEnd

theorem Halves.r270 (h : Halves s) (hin : s.checkedLidarInputed = true) (hne : p ≠ []) :
    Halves (Lidar.publish (s.r270 p)).1 := by
  have hnot : s.checkedLidarInputed = false → ∀ q : Packet, q = [] := by
    intro hfalse
    rw [hin] at hfalse
    cases hfalse
  rw [KanaviLidar.r270]
  by_cases hbuf : s.vecTempBuf = []
  · have hkept : Halves { s with checkOnGoing := true, vecTempBuf := p } :=
      ⟨h.checkParseEnd, h.checkedModel, fun hfalse => hnot hfalse p, by simp [hne]⟩
    rw [if_pos hbuf, hkept.publish]
    exact hkept
  · rw [if_neg hbuf, publish_parseLength h.checkParseEnd]
    split
    · exact ⟨h.checkParseEnd, h.checkedModel, fun _ => rfl, by simp⟩
    · exact ⟨h.checkParseEnd, h.checkedModel, fun _ => rfl, by simp⟩

theorem Halves.processData (h : Halves s) (hin : s.checkedLidarInputed = true) (hne : p ≠ []) :
    Halves (Lidar.publish (s.processData p)).1 := by
  rw [processData_r270 (h.checkedModel hin)]
  split
  · exact h.r270 hin hne
  · rwa [h.publish]

theorem Halves.processed {r : KanaviLidar .r270} (h : Halves s) (hr : Processed s p r) :
    Halves (Lidar.publish r).1 := by
  cases hr with
  | empty => rwa [h.publish]
  | headless hne =>
    split
    · next hgoing =>
      have hin : s.checkedLidarInputed = true := by
        by_contra hfalse
        exact h.onGoing.mp hgoing (h.notInputed (by simpa using hfalse))
      exact h.r270 hin hne
    · rwa [h.publish]
  | known hheader hin => exact h.processData hin (ne_nil_of_header hheader)
  | first hopens hin =>
    have hknown : Halves { s with
        checkedModel := some .r270
        checkedLidarInputed := true
        checkedChannel := p.channel } :=
      ⟨h.checkParseEnd, fun _ => rfl, nofun, h.onGoing⟩
    exact hknown.processData rfl (ne_nil_of_header (header_of_opens hopens))
  | other _ hin =>
    have hsame : Halves { s with checkedModel := classification p } :=
      ⟨h.checkParseEnd, fun htrue => absurd htrue (Bool.eq_false_iff.mp hin), h.notInputed, h.onGoing⟩
    rwa [hsame.publish]

/-- What is known between two packets is kept by every packet. -/
theorem Halves.receiveData (h : Halves s) (hrecv : receiveData s p = some (t, cloud)) : Halves t := by
  obtain ⟨r, hr, hpublish⟩ := processed_of_receiveData hrecv
  have hhalves := h.processed hr
  rwa [hpublish] at hhalves

theorem run_halves (hr : (machine .r270).Run ps s) : Halves s := by
  induction hr with
  | init => exact halves_create
  | snoc _ hs _ ih =>
    obtain ⟨⟨t, cloud⟩, hrecv, rfl⟩ := Option.map_eq_some_iff.mp hs
    exact ih.receiveData hrecv

theorem Scan.opens_first (scan : Scan) : opens .r270 scan.first = true := by
  simp [opens, scan.header_first, scan.productLine_first]

/--
**A lost packet does not matter for long.** Let `c` be the channel that the first packet of the lidar
was for. After whatever packets have come, all of the scans that come then whole are published as they
were measured, if `c` is 0, and none otherwise; except that in place of the first one there may be
another point cloud, or none. The first one is right too, if there is no first half left over.
-/
theorem scans_resync (hr : (machine .r270).Run ps s) (scan : Scan) (scans : List Scan) :
    ∃ c t u clouds, firstChannel .r270 (ps ++ [scan.first]) = some c ∧
      receiveAll s scan.packets = some (t, clouds) ∧ clouds.length ≤ 1 ∧
        (s.checkOnGoing = false → clouds = scan.published c) ∧
          receiveAll t (scans.flatMap Scan.packets) = some (u, scans.flatMap (Scan.published c)) := by
  have h := run_halves hr
  have hfirst := (run_locked hr).firstChannel_concat_of_opens scan.opens_first
  by_cases hbuf : s.vecTempBuf = []
  · obtain ⟨t, hscan, ht, hin, hchannel⟩ := Idle.scan ⟨h, hbuf⟩ scan
    obtain ⟨u, hscans⟩ := ht.scans hin scans
    rw [← hchannel] at hfirst
    refine ⟨t.checkedChannel, t, u, _, hfirst, hscan, ?_, fun _ => rfl, hscans⟩
    rw [Scan.published]
    split <;> simp
  · obtain ⟨t, clouds, hscan, hclouds, ht, hin, hchannel⟩ := h.scan hbuf scan
    obtain ⟨u, hscans⟩ := ht.scans hin scans
    rw [← hchannel] at hfirst
    refine ⟨t.checkedChannel, t, u, clouds, hfirst, hscan, hclouds, ?_, hscans⟩
    intro hgoing
    rw [h.onGoing.mpr hbuf] at hgoing
    cases hgoing

/-- A first half for channel 0 that has lost its second one, and then three whole scans. -/
theorem scans_resync_lost :
    ∃ s t u clouds, (machine .r270).Run [[0xFA, 0x07, 0, 0xDD, 0xC0, 0, 0]] s ∧
      receiveAll s (Scan.constant 1 (by decide)).packets = some (t, clouds) ∧ clouds.length ≤ 1 ∧
        receiveAll t ([Scan.constant 2 (by decide), Scan.constant 3 (by decide)].flatMap Scan.packets) =
          some (u, [cloudOf .r270 fun _ => List.replicate 1080 202,
            cloudOf .r270 fun _ => List.replicate 1080 303]) := by
  obtain ⟨s, hrun⟩ : ∃ s, (machine .r270).Run [[0xFA, 0x07, 0, 0xDD, 0xC0, 0, 0]] s :=
    exists_run (by decide)
  obtain ⟨c, t, u, clouds, hfirst, hscan, hclouds, -, hscans⟩ :=
    scans_resync hrun (.constant 1 (by decide)) [.constant 2 (by decide), .constant 3 (by decide)]
  obtain rfl : 0 = c := Option.some.inj hfirst
  refine ⟨s, t, u, clouds, hrun, hscan, hclouds, hscans.trans ?_⟩
  rw [List.flatMap_cons, List.flatMap_singleton, Scan.published_constant, Scan.published_constant]
  rfl

end Halves

end Tetra.Lidar
