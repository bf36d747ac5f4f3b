import Tetra.Lib.Machine
import Tetra.Lidar.Datagram

/-!
# A lidar whose packets are whole scans

The R2 and the R4 send each channel in a packet of its own. What is kept after a run is said by its
packets alone (`Follows`): from the first packet of the right model on, each channel has the lengths of
its last packet. A point cloud is published exactly with a packet of the channel that this first packet
was for (`published_eq`), and a channel that has once been received stays active (`active_eq`).
-/

namespace Tetra.Lidar

open KanaviLidar

/-- The lidar between two calls of `receiveData`. -/
def machine (model : Model) : Machine (KanaviLidar model) Packet where
  init := .create model
  step s p := (receiveData s p).map Prod.fst

variable {model : Model} {s s' : KanaviLidar model} {p : Packet} {ps : List Packet} {c : Nat}

/-- With packets of five bytes, every run is defined. -/
theorem exists_run (h : ∀ p ∈ ps, 5 ≤ p.length) : ∃ s, (machine model).Run ps s := by
  induction ps using List.reverseRecOn with
  | nil => exact ⟨_, .init⟩
  | append_singleton ps p ih =>
    obtain ⟨s, hr⟩ := ih fun q hq => h q (List.mem_append_left _ hq)
    obtain ⟨t, cloud, hrecv⟩ := exists_receiveData s (h p (by simp))
    have hs : (machine model).step s p = some t := Option.map_eq_some_iff.mpr ⟨(t, cloud), hrecv, rfl⟩
    exact ⟨t, .snoc hr hs trivial⟩

/-! ## What the packets say -/

/-- The packet is from a lidar of the model. -/
def opens (model : Model) (p : Packet) : Bool :=
  p.header = Packet.headerValue ∧ p.productLine = model.value

/-- The packets from the first one on that is from a lidar of the model. -/
def opened (model : Model) (ps : List Packet) : List Packet := ps.dropWhile fun p => !opens model p

/-- The packet has the lengths of a channel. -/
def isScan (model : Model) (c : Nat) (p : Packet) : Bool :=
  p.header = Packet.headerValue ∧ p.mode = Packet.distanceData ∧ p.channel = c ∧ p.Long model

theorem channel_of_isScan (h : isScan model c p = true) : p.channel = c := by
  simp only [isScan, decide_eq_true_eq] at h
  exact h.2.2.1

/-- The channel of the first packet. -/
def firstChannel (model : Model) (ps : List Packet) : Option Nat :=
  (opened model ps).head?.map Packet.channel

/-- The lengths of the last packet of a channel. -/
def latest (model : Model) (ps : List Packet) (c : Nat) : List Nat :=
  match (opened model ps).reverse.find? (isScan model c) with
  | some p => p.lengths model
  | none => List.replicate model.points 0

/-- The point cloud of some rows. -/
def cloudOf (model : Model) (rows : Nat → List Nat) : Cloud :=
  (List.range model.channels).flatMap fun ch =>
    (List.range model.points).map fun i => (ch, i, (rows ch).getD i 0)

theorem cloudOf_congr {rows rows' : Nat → List Nat} (h : ∀ c < model.channels, rows c = rows' c) :
    cloudOf model rows = cloudOf model rows' := by
  rw [cloudOf, cloudOf, List.flatMap_def, List.flatMap_def]
  refine congrArg List.flatten (List.map_congr_left fun ch hch => ?_)
  rw [h ch (List.mem_range.mp hch)]

theorem generatePointCloud_congr {d : Datagram model} {rows : Nat → List Nat}
    (h : ∀ c < model.channels, d.row c = rows c) : generatePointCloud d = cloudOf model rows := by
  rw [generatePointCloud_eq]
  exact cloudOf_congr h

theorem opened_concat_of_open (h : opened model ps ≠ [] ∨ opens model p = true) :
    opened model (ps ++ [p]) = opened model ps ++ [p] := by
  rw [opened, List.dropWhile_append]
  by_cases hnil : opened model ps = []
  · have hopens := h.resolve_left (not_not.mpr hnil)
    have hempty : (List.dropWhile (fun p => !opens model p) ps).isEmpty := by
      rw [List.isEmpty_iff]
      exact hnil
    rw [if_pos hempty, List.dropWhile_cons_of_neg (by simp [hopens]), hnil, List.nil_append]
  · have hempty : ¬ (List.dropWhile (fun p => !opens model p) ps).isEmpty := by
      rw [List.isEmpty_iff]
      exact hnil
    rw [if_neg hempty]
    rfl

theorem opened_concat_of_not (hnil : opened model ps = []) (hopens : opens model p = false) :
    opened model (ps ++ [p]) = [] := by
  have hempty : (List.dropWhile (fun p => !opens model p) ps).isEmpty := by
    rw [List.isEmpty_iff]
    exact hnil
  rw [opened, List.dropWhile_append, if_pos hempty, List.dropWhile_cons_of_pos (by simp [hopens])]
  rfl

theorem latest_concat (h : opened model (ps ++ [p]) = opened model ps ++ [p]) :
    latest model (ps ++ [p]) c =
      if isScan model c p then p.lengths model else latest model ps c := by
  rw [latest, h, List.reverse_append, List.reverse_singleton, List.singleton_append, List.find?_cons]
  cases isScan model c p <;> rfl

theorem firstChannel_concat (h : opened model (ps ++ [p]) = opened model ps ++ [p]) :
    firstChannel model (ps ++ [p]) = some ((firstChannel model ps).getD p.channel) := by
  rw [firstChannel, h, firstChannel]
  cases opened model ps <;> rfl

theorem classification_eq_iff : classification p = some model ↔ opens model p = true := by
  simp only [classification, opens, decide_eq_true_eq]
  by_cases hheader : p.header = Packet.headerValue
  · rw [if_pos hheader]
    cases model <;> by_cases h2 : p.productLine = Model.r2.value <;>
      by_cases h4 : p.productLine = Model.r4.value <;>
      by_cases h270 : p.productLine = Model.r270.value <;> simp_all [Model.value]
  · simp [hheader]

/-! ## One packet -/

/-- What a packet is processed to, before a point cloud is published. -/
inductive Processed (s : KanaviLidar model) (p : Packet) : KanaviLidar model → Prop
  | empty : p = [] → Processed s p s
  | headless : p ≠ [] → p.header ≠ Packet.headerValue →
      Processed s p (if s.checkOnGoing then s.r270 p else s)
  | known : p.header = Packet.headerValue → s.checkedLidarInputed = true →
      Processed s p (s.processData p)
  | first : opens model p = true → s.checkedLidarInputed = false →
      Processed s p ({ s with
        checkedModel := some model
        checkedLidarInputed := true
        checkedChannel := p.channel }.processData p)
  | other : opens model p = false → s.checkedLidarInputed = false →
      Processed s p { s with checkedModel := classification p }

theorem header_of_opens (h : opens model p = true) : p.header = Packet.headerValue := by
  simp only [opens, decide_eq_true_eq] at h
  exact h.1

theorem not_opens_of_header (h : p.header ≠ Packet.headerValue) : opens model p = false := by
  simp [opens, h]

theorem not_isScan_of_header (h : p.header ≠ Packet.headerValue) : isScan model c p = false := by
  simp [isScan, h]

theorem ne_nil_of_header (h : p.header = Packet.headerValue) : p ≠ [] := by
  rintro rfl
  exact absurd h (by decide)

theorem publish_of_checkParseEnd (hend : s.checkParseEnd = false) : publish s = (s, none) := by
  rw [publish, hend]
  rfl

/-- **One packet.** -/
theorem processed_of_receiveData {cloud : Option Cloud} (h : receiveData s p = some (s', cloud)) :
    ∃ r, Processed s p r ∧ publish r = (s', cloud) := by
  obtain ⟨r, hr, hpublish⟩ := Option.map_eq_some_iff.mp h
  refine ⟨r, ?_, hpublish⟩
  by_cases hnil : p = []
  · rw [if_pos hnil] at hr
    obtain rfl := Option.some.inj hr
    exact .empty hnil
  · rw [if_neg hnil] at hr
    unfold process at hr
    split at hr
    · cases hr
    · split at hr
      · next hheader =>
        obtain rfl := Option.some.inj hr
        exact .headless hnil hheader
      · next hheader =>
        by_cases hin : s.checkedLidarInputed = true
        · rw [if_pos hin] at hr
          obtain rfl := Option.some.inj hr
          exact .known (not_not.mp hheader) hin
        · rw [if_neg hin] at hr
          by_cases hclass : classification p = some model
          · simp only [hclass, if_true, Option.some.injEq] at hr
            subst hr
            exact .first (classification_eq_iff.mp hclass) (Bool.eq_false_iff.mpr hin)
          · simp only [hclass, if_false, Option.some.injEq] at hr
            subst hr
            exact .other (Bool.eq_false_iff.mpr (mt classification_eq_iff.mpr hclass))
              (Bool.eq_false_iff.mpr hin)

/-! ## The first packet of the lidar -/

/-- What the first packet of the lidar is kept as. -/
structure Lock where
  inputed : Bool
  model : Option Model
  channel : Nat

def lock (s : KanaviLidar model) : Lock :=
  ⟨s.checkedLidarInputed, s.checkedModel, s.checkedChannel⟩

@[simp] theorem lock_parseLength : lock (s.parseLength p c) = lock s := by
  unfold parseLength
  split
  · rfl
  · split <;> rfl

@[simp] theorem lock_r2 : lock (s.r2 p) = lock s := by
  unfold r2
  split
  · exact lock_parseLength
  · rfl

@[simp] theorem lock_r4 : lock (s.r4 p) = lock s := by
  unfold r4
  split
  · rfl
  · split
    · rfl
    · exact lock_parseLength

@[simp] theorem lock_r270 : lock (s.r270 p) = lock s := by
  unfold r270
  split
  · rfl
  · exact lock_parseLength

@[simp] theorem lock_processData : lock (s.processData p) = lock s := by
  unfold processData
  split
  · split
    · exact lock_r2
    · exact lock_r4
    · exact lock_r270
    · rfl
  · rfl

@[simp] theorem lock_publish : lock (publish s).1 = lock s := by
  unfold publish
  split <;> rfl

/-- What is kept of the first packet, said by the packets. -/
structure Locked (ps : List Packet) (s : KanaviLidar model) : Prop where
  inputed : s.checkedLidarInputed = true ↔ opened model ps ≠ []
  checkedModel : s.checkedLidarInputed = true → s.checkedModel = some model
  checkedChannel : ∀ c ∈ firstChannel model ps, s.checkedChannel = c

theorem locked_create : Locked [] (create model) where
  inputed := by simp [create, opened]
  checkedModel := nofun
  checkedChannel := nofun

theorem Locked.of_lock (h : Locked ps s) (hlock : lock s' = lock s) : Locked ps s' := by
  have hin : s'.checkedLidarInputed = s.checkedLidarInputed := congrArg Lock.inputed hlock
  have hmodel : s'.checkedModel = s.checkedModel := congrArg Lock.model hlock
  have hchannel : s'.checkedChannel = s.checkedChannel := congrArg Lock.channel hlock
  constructor
  · rw [hin]
    exact h.inputed
  · rw [hin, hmodel]
    exact h.checkedModel
  · rw [hchannel]
    exact h.checkedChannel

theorem Locked.opened_ne_nil (h : Locked ps s) (hin : s.checkedLidarInputed = true) :
    opened model ps ≠ [] := h.inputed.mp hin

theorem Locked.opened_eq_nil (h : Locked ps s) (hin : s.checkedLidarInputed = false) :
    opened model ps = [] := by
  by_contra hne
  rw [h.inputed.mpr hne] at hin
  cases hin

theorem Locked.firstChannel_eq (h : Locked ps s) (hin : s.checkedLidarInputed = true) :
    firstChannel model ps = some s.checkedChannel := by
  obtain ⟨q, qs, hq⟩ := List.exists_cons_of_ne_nil (h.opened_ne_nil hin)
  have hfirst : firstChannel model ps = some q.channel := by rw [firstChannel, hq]; rfl
  rw [hfirst, h.checkedChannel q.channel hfirst]

/-- A lidar that is known stays so. -/
theorem Locked.concat (h : Locked ps s) (hin : s.checkedLidarInputed = true) :
    Locked (ps ++ [p]) s := by
  have hconcat : opened model (ps ++ [p]) = opened model ps ++ [p] :=
    opened_concat_of_open (.inl (h.opened_ne_nil hin))
  refine ⟨by simp [hin, hconcat], h.checkedModel, ?_⟩
  rw [firstChannel_concat hconcat, h.firstChannel_eq hin]
  rintro c ⟨⟩
  rfl

/-- A lidar that is not known stays so, with a packet of another one. -/
theorem Locked.concat_of_not_opens (h : Locked ps s) (hin : s.checkedLidarInputed = false)
    (hopens : opens model p = false) : Locked (ps ++ [p]) s := by
  have hnil := opened_concat_of_not (h.opened_eq_nil hin) hopens
  refine ⟨by simp [hin, hnil], h.checkedModel, ?_⟩
  rw [firstChannel, hnil]
  exact nofun

theorem Locked.first (h : Locked ps s) (hin : s.checkedLidarInputed = false)
    (hopens : opens model p = true) :
    Locked (ps ++ [p]) { s with
      checkedModel := some model
      checkedLidarInputed := true
      checkedChannel := p.channel } := by
  have hconcat : opened model (ps ++ [p]) = opened model ps ++ [p] :=
    opened_concat_of_open (.inr hopens)
  refine ⟨by simp [hconcat], fun _ => rfl, ?_⟩
  rw [firstChannel, hconcat, h.opened_eq_nil hin]
  rintro c ⟨⟩
  rfl

/-- The channel that is waited for, once a packet of the lidar has come. -/
theorem Locked.firstChannel_concat_of_opens (h : Locked ps s) (hopens : opens model p = true) :
    firstChannel model (ps ++ [p]) =
      some (if s.checkedLidarInputed then s.checkedChannel else p.channel) := by
  cases hin : s.checkedLidarInputed with
  | true => exact (h.concat hin).firstChannel_eq hin
  | false => exact (h.first hin hopens).firstChannel_eq rfl

theorem Locked.ignored (h : Locked ps s) (hopens : opens model p = false) :
    Locked (ps ++ [p]) s := by
  cases hin : s.checkedLidarInputed with
  | true => exact h.concat hin
  | false => exact h.concat_of_not_opens hin hopens

theorem Locked.processed {r : KanaviLidar model} (h : Locked ps s) (hr : Processed s p r) :
    Locked (ps ++ [p]) r := by
  cases hr with
  | empty hnil => exact h.ignored (not_opens_of_header (by rw [hnil]; decide))
  | headless _ hheader =>
    have hignored := h.ignored (not_opens_of_header hheader)
    split
    · exact hignored.of_lock lock_r270
    · exact hignored
  | known _ hin => exact (h.concat hin).of_lock lock_processData
  | first hopens hin => exact (h.first hin hopens).of_lock lock_processData
  | other hopens hin =>
    have hkept := h.concat_of_not_opens hin hopens
    exact ⟨hkept.inputed, fun htrue => absurd htrue (Bool.eq_false_iff.mp hin),
      hkept.checkedChannel⟩

theorem Locked.receiveData {cloud : Option Cloud} (h : Locked ps s)
    (hrecv : receiveData s p = some (s', cloud)) : Locked (ps ++ [p]) s' := by
  obtain ⟨r, hr, hpublish⟩ := processed_of_receiveData hrecv
  have hlock := (h.processed hr).of_lock (lock_publish (s := r))
  rwa [hpublish] at hlock

/-- **The first packet of the lidar is kept**: its channel is the one that is waited for. -/
theorem run_locked (hr : (machine model).Run ps s) : Locked ps s := by
  induction hr with
  | init => exact locked_create
  | snoc _ hs _ ih =>
    obtain ⟨⟨t, cloud⟩, hrecv, rfl⟩ := Option.map_eq_some_iff.mp hs
    exact ih.receiveData hrecv

/-! ## A packet of a channel -/

/-- A packet of a channel, and any other. -/
theorem processData_eq (hmodel : model ≠ .r270) (hs : s.checkedModel = some model) :
    s.processData p =
      if p.mode = Packet.distanceData ∧ p.channel < model.channels ∧ p.Long model then
        { s with
          datagram := s.datagram.setRow p.channel (p.lengths model) (p.length_lengths model)
          checkParseEnd := s.checkParseEnd || p.channel == s.checkedChannel }
      else s := by
  have hlength := s.datagram.length_lenBuf
  by_cases hmode : p.mode = Packet.distanceData
  · cases model with
    | r270 => exact absurd rfl hmodel
    | r2 =>
      simp only [processData, hmode, if_true, hs, r2, parseLength, hlength, true_and]
      by_cases hlong : p.Long .r2 <;> by_cases hch : p.channel < Model.channels .r2 <;> simp [hlong, hch]
    | r4 =>
      have hne : s.datagram.lenBuf ≠ [] := by
        intro hnil
        rw [hnil] at hlength
        cases hlength
      simp only [processData, hmode, if_true, hs, r4, parseLength, hlength, true_and]
      by_cases hlong : p.Long .r4 <;> by_cases hch : p.channel < Model.channels .r4
      · simp [hlong, hch, hne, Nat.not_le.mpr hch]
      · simp [hch, Nat.not_lt.mp hch]
      · simp [hlong]
      · simp [hlong]
  · simp [processData, hmode]

/-- What is kept of the channels, said by the packets. -/
structure Follows (ps : List Packet) (s : KanaviLidar model) : Prop where
  checkParseEnd : s.checkParseEnd = false
  checkOnGoing : s.checkOnGoing = false
  row : ∀ c < model.channels, s.datagram.row c = latest model ps c
  active : ∀ c < model.channels, s.datagram.active c = (opened model ps).any (isScan model c)

theorem follows_create : Follows [] (create model) where
  checkParseEnd := rfl
  checkOnGoing := rfl
  row _ hc := Datagram.row_create hc
  active _ _ := Datagram.active_create

theorem Follows.concat_of_scan (h : Follows ps s)
    (hconcat : opened model (ps ++ [p]) = opened model ps ++ [p]) (hch : p.channel < model.channels)
    (hscan : isScan model p.channel p = true) :
    Follows (ps ++ [p]) { s with
      datagram := s.datagram.setRow p.channel (p.lengths model) (p.length_lengths model) } where
  checkParseEnd := h.checkParseEnd
  checkOnGoing := h.checkOnGoing
  row c hc := by
    rw [latest_concat hconcat, Datagram.row_setRow hch]
    by_cases heq : c = p.channel
    · subst heq
      rw [if_pos rfl, if_pos hscan]
    · rw [if_neg heq, if_neg (by simp [isScan, Ne.symm heq]), h.row c hc]
  active c hc := by
    rw [hconcat, List.any_append, List.any_cons, List.any_nil, Bool.or_false,
      Datagram.active_setRow hch, h.active c hc, Bool.or_comm]
    by_cases heq : c = p.channel
    · subst heq
      simp [hscan]
    · have hother : isScan model c p = false := by simp [isScan, Ne.symm heq]
      rw [hother, beq_false_of_ne heq]

theorem Follows.concat_of_not_scan (h : Follows ps s)
    (hscan : opened model (ps ++ [p]) ≠ [] → ∀ c < model.channels, isScan model c p = false) :
    Follows (ps ++ [p]) s := by
  by_cases hopen : opened model ps ≠ [] ∨ opens model p = true
  · have hconcat := opened_concat_of_open hopen
    have hnone := hscan (by simp [hconcat])
    refine ⟨h.checkParseEnd, h.checkOnGoing, ?_, ?_⟩
    · intro c hc
      rw [h.row c hc, latest_concat hconcat, hnone c hc]
      rfl
    · intro c hc
      rw [h.active c hc, hconcat, List.any_append, List.any_cons, hnone c hc, List.any_nil,
        Bool.or_false, Bool.or_false]
  · rw [not_or, not_not, Bool.not_eq_true] at hopen
    have hnil := opened_concat_of_not hopen.1 hopen.2
    refine ⟨h.checkParseEnd, h.checkOnGoing, ?_, ?_⟩
    · intro c hc
      rw [h.row c hc, latest, latest, hopen.1, hnil]
    · intro c hc
      rw [h.active c hc, hopen.1, hnil]

/-! ## Every run -/

/-- The packets that are published with. -/
def publishes (model : Model) (ps : List Packet) (p : Packet) : Bool :=
  (firstChannel model (ps ++ [p])).any fun c => c < model.channels && isScan model c p

/-- A packet with the header, when the model is known. -/
theorem publish_processData (hmodel : model ≠ .r270) (hs : s.checkedModel = some model)
    (hend : s.checkParseEnd = false) (hheader : p.header = Packet.headerValue) :
    publish (s.processData p) =
      if p.channel < model.channels ∧ isScan model p.channel p then
        let d := s.datagram.setRow p.channel (p.lengths model) (p.length_lengths model)
        ({ s with datagram := d },
          if p.channel = s.checkedChannel then some (generatePointCloud d) else none)
      else (s, none) := by
  have hscan : (p.channel < model.channels ∧ isScan model p.channel p) ↔
      p.mode = Packet.distanceData ∧ p.channel < model.channels ∧ p.Long model := by
    simp only [isScan, hheader, decide_eq_true_eq]
    constructor
    · rintro ⟨hch, -, hmode, -, hlong⟩
      exact ⟨hmode, hch, hlong⟩
    · rintro ⟨hmode, hch, hlong⟩
      exact ⟨hch, trivial, hmode, trivial, hlong⟩
  rw [processData_eq hmodel hs]
  by_cases h : p.mode = Packet.distanceData ∧ p.channel < model.channels ∧ p.Long model
  -- `checkParseEnd` is only set by the channel that is waited for, and `publish` takes it back
  · rw [if_pos h, if_pos (hscan.mpr h)]
    by_cases hch : p.channel = s.checkedChannel
    · simp [publish, hch, hend]
    · simp [publish, hch, hend]
  · rw [if_neg h, if_neg (mt hscan.mp h)]
    simp [publish, hend]

/-- The point cloud of a packet. -/
def published (model : Model) (ps : List Packet) (p : Packet) : Option Cloud :=
  if publishes model ps p then some (cloudOf model (latest model (ps ++ [p]))) else none

theorem published_eq_none
    (hscan : opened model (ps ++ [p]) ≠ [] → ∀ c < model.channels, isScan model c p = false) :
    published model ps p = none := by
  refine if_neg ?_
  rw [publishes, firstChannel]
  cases hopened : opened model (ps ++ [p]) with
  | nil => exact Bool.false_ne_true
  | cons q qs =>
    have hnone := hscan (by simp [hopened])
    simp only [List.head?_cons, Option.map_some, Option.any_some, Bool.and_eq_true, decide_eq_true_eq]
    rintro ⟨hch, hown⟩
    rw [hnone _ hch] at hown
    cases hown

/-- A packet with the header, for a lidar that is known. -/
theorem Follows.processData (hmodel : model ≠ .r270) (h : Follows ps s) (hlocked : Locked (ps ++ [p]) s)
    (hconcat : opened model (ps ++ [p]) = opened model ps ++ [p])
    (hin : s.checkedLidarInputed = true) (hheader : p.header = Packet.headerValue) :
    Follows (ps ++ [p]) (publish (s.processData p)).1 ∧
      (publish (s.processData p)).2 = published model ps p := by
  rw [publish_processData hmodel (hlocked.checkedModel hin) h.checkParseEnd hheader]
  by_cases hscan : p.channel < model.channels ∧ isScan model p.channel p
  · have hfollows := h.concat_of_scan hconcat hscan.1 hscan.2
    rw [if_pos hscan]
    refine ⟨hfollows, ?_⟩
    simp only [published, publishes, hlocked.firstChannel_eq hin, Option.any_some]
    -- the row of the packet is the latest one already when the cloud is made
    by_cases heq : p.channel = s.checkedChannel
    · rw [if_pos heq, ← heq, generatePointCloud_congr hfollows.row]
      simp [hscan]
    · have hother : isScan model s.checkedChannel p = false := by simp [isScan, heq]
      simp [heq, hother]
  · have hnone : ∀ c < model.channels, isScan model c p = false := by
      intro c hc
      refine Bool.eq_false_iff.mpr fun hown => ?_
      obtain rfl := channel_of_isScan hown
      exact hscan ⟨hc, hown⟩
    rw [if_neg hscan]
    exact ⟨h.concat_of_not_scan fun _ => hnone, (published_eq_none fun _ => hnone).symm⟩

/-- Any other packet. -/
theorem Follows.ignored (h : Follows ps s)
    (hscan : opened model (ps ++ [p]) ≠ [] → ∀ c < model.channels, isScan model c p = false) :
    Follows (ps ++ [p]) (publish s).1 ∧ (publish s).2 = published model ps p := by
  rw [publish_of_checkParseEnd h.checkParseEnd, published_eq_none hscan]
  exact ⟨h.concat_of_not_scan hscan, rfl⟩

theorem Follows.processed (hmodel : model ≠ .r270) {r : KanaviLidar model} (h : Follows ps s)
    (hlocked : Locked ps s) (hr : Processed s p r) :
    Follows (ps ++ [p]) (publish r).1 ∧ (publish r).2 = published model ps p := by
  cases hr with
  | empty hnil => exact h.ignored fun _ _ _ => not_isScan_of_header (by rw [hnil]; decide)
  | headless _ hheader =>
    -- only an R270 has a second half under way
    rw [h.checkOnGoing]
    exact h.ignored fun _ _ _ => not_isScan_of_header hheader
  | known hheader hin =>
    exact h.processData hmodel (hlocked.concat hin)
      (opened_concat_of_open (.inl (hlocked.opened_ne_nil hin))) hin hheader
  | first hopens hin =>
    have hfollows : Follows ps { s with
        checkedModel := some model
        checkedLidarInputed := true
        checkedChannel := p.channel } :=
      ⟨h.checkParseEnd, h.checkOnGoing, h.row, h.active⟩
    exact hfollows.processData hmodel (hlocked.first hin hopens)
      (opened_concat_of_open (.inr hopens)) rfl (header_of_opens hopens)
  | other hopens hin =>
    -- the model of another lidar is kept, and not looked at before the next packet
    have hfollows : Follows ps { s with checkedModel := classification p } :=
      ⟨h.checkParseEnd, h.checkOnGoing, h.row, h.active⟩
    have hnil := opened_concat_of_not (hlocked.opened_eq_nil hin) hopens
    exact hfollows.ignored fun hne => absurd hnil hne

theorem Follows.receiveData (hmodel : model ≠ .r270) (h : Follows ps s) (hlocked : Locked ps s)
    {cloud : Option Cloud} (hrecv : receiveData s p = some (s', cloud)) :
    Follows (ps ++ [p]) s' ∧ cloud = published model ps p := by
  obtain ⟨r, hr, hpublish⟩ := processed_of_receiveData hrecv
  have hprocessed := h.processed hmodel hlocked hr
  rwa [hpublish] at hprocessed

theorem run_follows (hmodel : model ≠ .r270) (hr : (machine model).Run ps s) : Follows ps s := by
  induction hr with
  | init => exact follows_create
  | snoc hrun hs _ ih =>
    obtain ⟨⟨t, cloud⟩, hrecv, rfl⟩ := Option.map_eq_some_iff.mp hs
    exact (ih.receiveData hmodel (run_locked hrun) hrecv).1

/--
**When a point cloud is published, and with what.** After any packets of an R2 or an R4, a packet brings
a point cloud exactly if it has the lengths of the channel that the first packet of the lidar was for;
and each channel of the cloud has the lengths of its last packet.
-/
theorem published_eq (hmodel : model ≠ .r270) (hr : (machine model).Run ps s) {cloud : Option Cloud}
    (hrecv : receiveData s p = some (s', cloud)) :
    cloud = if publishes model ps p then some (cloudOf model (latest model (ps ++ [p]))) else none :=
  ((run_follows hmodel hr).receiveData hmodel (run_locked hr) hrecv).2

/-- The lengths of a packet all of whose bytes behind the settings are the same. -/
theorem lengths_append_replicate {settings : Packet} (h : settings.length = Packet.rawDataStart)
    (length : UInt8) :
    (settings ++ List.replicate (2 * model.points) length).lengths model =
      List.replicate model.points (length.toNat * 101) := by
  have hbyte : ∀ i < 2 * model.points,
      (settings ++ List.replicate (2 * model.points) length).getD (Packet.rawDataStart + i) 0 =
        length := by
    intro i hi
    rw [List.getD_append_right _ _ _ _ (by omega), h, Nat.add_sub_cancel_left, List.getD_replicate _ hi]
  refine List.eq_replicate_iff.mpr ⟨Packet.length_lengths _ model, ?_⟩
  intro b hb
  obtain ⟨i, hi, rfl⟩ := List.mem_map.mp hb
  have hlt : i < model.points := List.mem_range.mp hi
  rw [Packet.lengthAt, hbyte (2 * i) (by omega), Nat.add_assoc, hbyte (2 * i + 1) (by omega)]
  omega

/-- A packet of an R4 for a channel, all of whose lengths are the same. -/
def r4Packet (channel length : UInt8) : Packet :=
  [0xFA, 0x06, 0, 0xDD, 0xC0 + channel, 0, 0] ++ List.replicate (2 * Model.r4.points) length

theorem length_r4Packet (channel length : UInt8) : (r4Packet channel length).length = 807 := by
  rw [r4Packet, List.length_append, List.length_replicate]
  rfl

theorem channel_r4Packet (channel length : UInt8) :
    (r4Packet channel length).channel = (0xC0 + channel).toNat % 16 := rfl

theorem isScan_r4Packet (channel length : UInt8) :
    isScan .r4 c (r4Packet channel length) = decide ((r4Packet channel length).channel = c) := by
  have hheader : (r4Packet channel length).header = Packet.headerValue := rfl
  have hmode : (r4Packet channel length).mode = Packet.distanceData := rfl
  have hlong : (r4Packet channel length).Long .r4 := by
    rw [Packet.Long, length_r4Packet]
    decide
  simp only [isScan, hheader, hmode, hlong, and_true, true_and]

theorem lengths_r4Packet (channel length : UInt8) :
    (r4Packet channel length).lengths .r4 = List.replicate 400 (length.toNat * 101) :=
  lengths_append_replicate rfl length

/-- Channel 0 a second time, with the lengths that channel 1 has had in between. -/
theorem published_eq_two :
    ∃ s t cloud, (machine .r4).Run [r4Packet 0 1, r4Packet 1 2] s ∧
      receiveData s (r4Packet 0 3) = some (t, cloud) ∧
        cloud = some (cloudOf .r4 fun c =>
          List.replicate 400 (if c = 0 then 303 else if c = 1 then 202 else 0)) := by
  obtain ⟨s, hr⟩ : ∃ s, (machine .r4).Run [r4Packet 0 1, r4Packet 1 2] s :=
    exists_run (by simp [length_r4Packet])
  obtain ⟨t, cloud, hrecv⟩ := exists_receiveData s (p := r4Packet 0 3) (by simp [length_r4Packet])
  have hopened : opened .r4 ([r4Packet 0 1, r4Packet 1 2] ++ [r4Packet 0 3]) =
      [r4Packet 0 1, r4Packet 1 2, r4Packet 0 3] := rfl
  have hpublishes : publishes .r4 [r4Packet 0 1, r4Packet 1 2] (r4Packet 0 3) = true := by
    rw [publishes, firstChannel, hopened, List.head?_cons, Option.map_some, Option.any_some,
      isScan_r4Packet]
    decide
  have heq := published_eq (by decide) hr hrecv
  rw [if_pos hpublishes] at heq
  refine ⟨s, t, cloud, hr, hrecv, heq.trans (congrArg some (cloudOf_congr ?_))⟩
  intro c hc
  have h0 : (0xC0 + 0 : UInt8).toNat % 16 = 0 := by decide
  have h1 : (0xC0 + 1 : UInt8).toNat % 16 = 1 := by decide
  rw [latest, hopened]
  simp only [List.reverse_cons, List.reverse_nil, List.nil_append, List.cons_append, List.find?_cons,
    isScan_r4Packet, channel_r4Packet, h0, h1]
  by_cases hc0 : 0 = c
  · subst hc0
    simp [lengths_r4Packet]
  · by_cases hc1 : 1 = c
    · subst hc1
      simp [lengths_r4Packet]
    · simp [hc0, hc1, Ne.symm hc0, Ne.symm hc1, Model.points]

/-- **A channel stays active.** It is active exactly if one of the packets has had its lengths, however
many point clouds have been published since. -/
theorem active_eq (hmodel : model ≠ .r270) (hr : (machine model).Run ps s) (hc : c < model.channels) :
    s.datagram.active c = (opened model ps).any (isScan model c) :=
  (run_follows hmodel hr).active c hc

end Tetra.Lidar
