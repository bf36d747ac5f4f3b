import Mathlib.Data.List.GetD

/-!
# The lidar

`kanavi_datagram.cpp`, `kanavi_lidar.cpp` and `KanaviNode::receiveData`: what is kept of the packets of
a Kanavi lidar, and the point clouds that are made of it.

A length is in hundredths of a metre, which is exact. The sines and cosines of the directions are left
out: a point has its channel, its index and its length.
-/

namespace Tetra.Lidar

/-- `eModel` -/
inductive Model
  | r2
  | r4
  | r270
  deriving DecidableEq, Repr

namespace Model

/-- The value of a model as a product line. -/
def value : Model → UInt8
  | r2 => 0x03
  | r4 => 0x06
  | r270 => 0x07

/-- `HORIZONTAL_DATA_CNT` -/
def points : Model → Nat
  | r2 => 480
  | r4 => 400
  | r270 => 1080

/-- `VERTICAL_CHANNEL` -/
def channels : Model → Nat
  | r2 => 2
  | r4 => 4
  | r270 => 1

end Model

/-! ## Packets -/

/-- A received packet. -/
abbrev Packet := List UInt8

namespace Packet

/-- `protocol::HEADER` -/
def headerValue : UInt8 := 0xFA

/-- `eMode::DISTANCE_DATA` -/
def distanceData : UInt8 := 0xDD

/-- `position::RAWDATA_START` -/
def rawDataStart : Nat := 7

variable (p : Packet)

def header : UInt8 := p.getD 0 0

def productLine : UInt8 := p.getD 1 0

def mode : UInt8 := p.getD 3 0

/-- `ch & 0x0F` -/
def channel : Nat := (p.getD 4 0).toNat % 16

/-- The length at an index: `up + low / 100`. -/
def lengthAt (i : Nat) : Nat :=
  (p.getD (rawDataStart + 2 * i) 0).toNat * 100 + (p.getD (rawDataStart + 2 * i + 1) 0).toNat

/-- What `parseLength` reads of a packet. -/
def lengths (model : Model) : List Nat := (List.range model.points).map p.lengthAt

@[simp] theorem length_lengths (model : Model) : (p.lengths model).length = model.points := by
  simp [lengths]

/-- The packet has as many bytes as `parseLength` asks for. -/
def Long (model : Model) : Prop := rawDataStart + 2 * model.points ≤ p.length

instance (model : Model) : Decidable (p.Long model) := inferInstanceAs (Decidable (_ ≤ _))

end Packet

/-! ## What is kept -/

/-- `KanaviDatagram`: the lengths of each channel, and which channels have been received. -/
structure Datagram (model : Model) where
  lenBuf : List (List Nat)
  channelActive : List Bool
  length_lenBuf : lenBuf.length = model.channels
  length_row : ∀ row ∈ lenBuf, row.length = model.points
  length_channelActive : channelActive.length = model.channels

namespace Datagram

variable {model : Model}

/-- `KanaviDatagram::KanaviDatagram` -/
def create (model : Model) : Datagram model where
  lenBuf := List.replicate model.channels (List.replicate model.points 0)
  channelActive := List.replicate model.channels false
  length_lenBuf := List.length_replicate
  length_row row hrow := by rw [List.eq_of_mem_replicate hrow, List.length_replicate]
  length_channelActive := List.length_replicate

/-- The lengths of one channel are replaced. -/
def setRow (d : Datagram model) (ch : Nat) (row : List Nat) (h : row.length = model.points) :
    Datagram model where
  lenBuf := d.lenBuf.set ch row
  channelActive := d.channelActive.set ch true
  length_lenBuf := by rw [List.length_set, d.length_lenBuf]
  length_row r hr := by
    rcases List.mem_or_eq_of_mem_set hr with hr | rfl
    · exact d.length_row r hr
    · exact h
  length_channelActive := by rw [List.length_set, d.length_channelActive]

end Datagram

/-- `KanaviLidar` -/
structure KanaviLidar (model : Model) where
  datagram : Datagram model
  vecTempBuf : Packet := []
  checkOnGoing : Bool := false
  /-- `none` for `-1`. -/
  checkedModel : Option Model := none
  checkedChannel : Nat := 0
  checkParseEnd : Bool := false
  checkedLidarInputed : Bool := false

namespace KanaviLidar

variable {model : Model}

/-- `KanaviLidar::KanaviLidar` -/
def create (model : Model) : KanaviLidar model where
  datagram := .create model

/-- `KanaviLidar::parseLength` -/
def parseLength (s : KanaviLidar model) (input : Packet) (ch : Nat) : KanaviLidar model :=
  if ¬ input.Long model then s
  else if ch < s.datagram.lenBuf.length then
    { s with
      datagram := s.datagram.setRow ch (input.lengths model) (input.length_lengths model)
      checkParseEnd := s.checkParseEnd || ch == s.checkedChannel }
  else s

/-- `KanaviLidar::r2` -/
def r2 (s : KanaviLidar model) (input : Packet) : KanaviLidar model :=
  if input.mode = Packet.distanceData then s.parseLength input input.channel else s

/-- `KanaviLidar::r4` -/
def r4 (s : KanaviLidar model) (input : Packet) : KanaviLidar model :=
  if Model.r4.channels ≤ input.channel then s
  else if s.datagram.lenBuf = [] ∨ s.datagram.lenBuf.length ≤ input.channel then s
  else s.parseLength input input.channel

/-- `KanaviLidar::r270`: two packets are one scan. -/
def r270 (s : KanaviLidar model) (input : Packet) : KanaviLidar model :=
  if s.vecTempBuf = [] then { s with checkOnGoing := true, vecTempBuf := input }
  else
    { s.parseLength (s.vecTempBuf ++ input) 0 with vecTempBuf := [], checkOnGoing := false }

/-- `KanaviLidar::classification` -/
def classification (input : Packet) : Option Model :=
  if input.header = Packet.headerValue then
    if input.productLine = Model.r2.value then some .r2
    else if input.productLine = Model.r4.value then some .r4
    else if input.productLine = Model.r270.value then some .r270
    else none
  else none

/-- The part of `Process` behind the checks. -/
def processData (s : KanaviLidar model) (input : Packet) : KanaviLidar model :=
  if input.mode = Packet.distanceData then
    match s.checkedModel with
    | some .r2 => s.r2 input
    | some .r4 => s.r4 input
    | some .r270 => s.r270 input
    | none => s
  else s

/-- `KanaviLidar::Process`. It reads five bytes; with fewer, its behaviour is undefined. -/
def process (s : KanaviLidar model) (input : Packet) : Option (KanaviLidar model) :=
  if input.length < 5 then none
  else if input.header ≠ Packet.headerValue then
    some (if s.checkOnGoing then s.r270 input else s)
  else if s.checkedLidarInputed then some (s.processData input)
  else
    let s := { s with checkedModel := classification input }
    if s.checkedModel = some model then
      some ({ s with checkedLidarInputed := true, checkedChannel := input.channel }.processData input)
    else some s

end KanaviLidar

/-! ## Point clouds -/

/-- A point before its direction is applied: its channel, its index and its length. -/
abbrev Cloud := List (Nat × Nat × Nat)

/-- `KanaviNode::generatePointCloud` -/
def generatePointCloud {model : Model} (d : Datagram model) : Cloud :=
  (List.range model.channels).flatMap fun ch =>
    (List.range model.points).map fun i => (ch, i, (d.lenBuf.getD ch []).getD i 0)

/-- The end of `KanaviNode::receiveData`: the point cloud that is published, if one is. The channels that
are set to inactive there are those of a copy. -/
def publish {model : Model} (s : KanaviLidar model) : KanaviLidar model × Option Cloud :=
  if s.checkParseEnd then
    ({ s with checkParseEnd := false }, some (generatePointCloud s.datagram))
  else (s, none)

/-- `KanaviNode::receiveData` -/
def receiveData {model : Model} (s : KanaviLidar model) (recvBuf : Packet) :
    Option (KanaviLidar model × Option Cloud) :=
  (if recvBuf = [] then some s else s.process recvBuf).map publish

/-- With five bytes, the behaviour is defined. -/
theorem exists_receiveData {model : Model} (s : KanaviLidar model) {p : Packet} (h : 5 ≤ p.length) :
    ∃ t cloud, receiveData s p = some (t, cloud) := by
  have hne : p ≠ [] := List.length_pos_iff.mp (by omega)
  have hprocess : ∃ r, s.process p = some r := by
    rw [KanaviLidar.process, if_neg (Nat.not_lt.mpr h)]
    split
    · exact ⟨_, rfl⟩
    · split
      · exact ⟨_, rfl⟩
      · simp only
        split <;> exact ⟨_, rfl⟩
  obtain ⟨r, hr⟩ := hprocess
  rw [receiveData, if_neg hne, hr]
  exact ⟨_, _, rfl⟩

/-! ## Rows -/

namespace Datagram

variable {model : Model} {d : Datagram model} {ch c : Nat}

/-- The lengths of a channel. -/
def row (d : Datagram model) (ch : Nat) : List Nat := d.lenBuf.getD ch []

/-- Whether a channel has been received. -/
def active (d : Datagram model) (ch : Nat) : Bool := d.channelActive.getD ch false

/-- No index of a point cloud is out of range. -/
theorem length_row_of_lt (hch : ch < model.channels) : (d.row ch).length = model.points := by
  have hlt : ch < d.lenBuf.length := by rwa [d.length_lenBuf]
  rw [row, List.getD_eq_getElem _ _ hlt]
  exact d.length_row _ (List.getElem_mem hlt)

theorem row_setRow {r : List Nat} {h : r.length = model.points} (hch : ch < model.channels) :
    (d.setRow ch r h).row c = if c = ch then r else d.row c := by
  have hlt : ch < d.lenBuf.length := by rwa [d.length_lenBuf]
  simp only [Datagram.row, setRow, List.getD_eq_getElem?_getD, List.getElem?_set, hlt, if_true]
  split
  · next heq => simp [heq]
  · next hne => rw [if_neg (Ne.symm hne)]

theorem active_setRow {r : List Nat} {h : r.length = model.points} (hch : ch < model.channels) :
    (d.setRow ch r h).active c = (c == ch || d.active c) := by
  have hlt : ch < d.channelActive.length := by rwa [d.length_channelActive]
  simp only [active, setRow, List.getD_eq_getElem?_getD, List.getElem?_set, hlt, if_true]
  by_cases heq : ch = c
  · simp [heq]
  · have hbeq : (c == ch) = false := beq_false_of_ne (Ne.symm heq)
    rw [if_neg heq, hbeq, Bool.false_or]

@[simp] theorem row_create (hch : ch < model.channels) :
    (create model).row ch = List.replicate model.points 0 := by
  rw [row, create, List.getD_replicate _ hch]

@[simp] theorem active_create : (create model).active ch = false := by
  rw [active, create]
  by_cases hch : ch < model.channels
  · rw [List.getD_replicate _ hch]
  · rw [List.getD_eq_default _ _ (by simpa using hch)]

end Datagram

/-- The points of a cloud are the lengths of the rows. -/
theorem generatePointCloud_eq {model : Model} (d : Datagram model) :
    generatePointCloud d = (List.range model.channels).flatMap fun ch =>
      (List.range model.points).map fun i => (ch, i, (d.row ch).getD i 0) := rfl

end Tetra.Lidar
