import Mathlib
import Aes67.Core.JsonFields

/-!
# The stream channel mapper

The model of `StreamChannelMapper`: which of the device's 128 channels each stream lands on. The
mapper keeps the same fact twice, as a map from streams to mappings and as an array of channel
owners, and each operation updates both by separate helpers.

* `ChannelMapping` with `deviceChannels` and `getValidationError`;
* `Mapper`, its operations and queries, under their names in the source;
* `Op`, `Mapper.step`: one call on the mapper, as a state machine.
-/

namespace Aes67

/-- The number of device channels. -/
def kMaxDeviceChannels : ℕ := 128

/-! ## Mappings -/

/-- One of a stream's channels landing on one of the device's. -/
structure ChannelRoute where
  streamChannel : ℕ := 0
  deviceChannel : ℕ := 0
  deriving DecidableEq

/-- How a stream's channels map to device channels: by its routes, or in order onto the block
from `deviceChannelStart` where it has none. -/
structure ChannelMapping where
  streamID : StreamID := .null
  streamName : Text := []
  streamChannelCount : ℕ := 0
  streamChannelOffset : ℕ := 0
  deviceChannelStart : ℕ := 0
  deviceChannelCount : ℕ := 0
  routes : List ChannelRoute := []
  deriving DecidableEq

namespace ChannelMapping

/-- `ChannelMapping::deviceChannels`. -/
def deviceChannels (m : ChannelMapping) : List ℕ :=
  match m.routes with
  | [] => (List.range m.deviceChannelCount).map (m.deviceChannelStart + ·)
  | routes => routes.map ChannelRoute.deviceChannel

/-- `ChannelMapping::containsDeviceChannel`. -/
def containsDeviceChannel (m : ChannelMapping) (deviceCh : ℕ) : Bool :=
  match m.routes with
  | [] => deviceCh ≥ m.deviceChannelStart &&
      deviceCh < m.deviceChannelStart + m.deviceChannelCount
  | routes => routes.any fun r => r.deviceChannel = deviceCh

/-- The route loop of `getValidationError`, with the device channels taken so far. -/
def routesError (streamChannelCount : ℕ) : List ℕ → List ChannelRoute → Text
  | _, [] => []
  | taken, r :: routes =>
    if r.streamChannel ≥ streamChannelCount then
      "A route names stream channel ".toList ++ showNat r.streamChannel ++
        ", and the stream has ".toList ++ showNat streamChannelCount
    else if r.deviceChannel ≥ kMaxDeviceChannels then
      "A route names device channel ".toList ++ showNat r.deviceChannel ++
        ", and the device has ".toList ++ showNat kMaxDeviceChannels
    else if r.deviceChannel ∈ taken then
      "Two routes land on device channel ".toList ++ showNat r.deviceChannel
    else routesError streamChannelCount (r.deviceChannel :: taken) routes

/-- `ChannelMapping::getValidationError`; empty text is a valid mapping. -/
def getValidationError (m : ChannelMapping) : Text :=
  if m.streamID.isNull then "Stream ID is null".toList
  else if m.streamChannelCount = 0 then "Stream channel count must be non-zero".toList
  else if m.deviceChannelCount = 0 then "Device channel count must be non-zero".toList
  else if m.deviceChannelStart ≥ kMaxDeviceChannels then
    "Device channel start out of range (0-127)".toList
  else if m.deviceChannelStart + m.deviceChannelCount > kMaxDeviceChannels then
    "Device channel range exceeds maximum (128 channels)".toList
  else routesError m.streamChannelCount [] m.routes

/-- `ChannelMapping::isValid`. -/
def isValid (m : ChannelMapping) : Bool := m.getValidationError.isEmpty

/-- `mappingFitsDevice`: what the RTP objects ask before they take a mapping. -/
def fitsDevice (m : ChannelMapping) (streamChannelCount : ℕ) : Bool :=
  match m.routes with
  | [] => m.deviceChannelStart + streamChannelCount ≤ kMaxDeviceChannels
  | routes => routes.all fun r =>
      r.deviceChannel < kMaxDeviceChannels && r.streamChannel < streamChannelCount

/-- What `getValidationError` accepts. -/
structure Valid (m : ChannelMapping) : Prop where
  streamID_ne : m.streamID ≠ .null
  streamChannelCount_pos : 0 < m.streamChannelCount
  deviceChannelCount_pos : 0 < m.deviceChannelCount
  block_le : m.deviceChannelStart + m.deviceChannelCount ≤ kMaxDeviceChannels
  route_lt : ∀ r ∈ m.routes,
    r.streamChannel < m.streamChannelCount ∧ r.deviceChannel < kMaxDeviceChannels
  nodup : (m.routes.map ChannelRoute.deviceChannel).Nodup

theorem routesError_eq_nil {n : ℕ} {routes : List ChannelRoute} {taken : List ℕ} :
    routesError n taken routes = [] ↔
      (∀ r ∈ routes, r.streamChannel < n ∧ r.deviceChannel < kMaxDeviceChannels) ∧
      (∀ r ∈ routes, r.deviceChannel ∉ taken) ∧
      (routes.map ChannelRoute.deviceChannel).Nodup := by
  induction routes generalizing taken with
  | nil => simp [routesError]
  | cons r routes ih =>
    rw [routesError]
    split_ifs with h1 h2 h3
    · simp; omega
    · simp; omega
    · simp [h3]
    · rw [ih]
      simp only [List.mem_cons, not_or, forall_eq_or_imp, List.map_cons, List.nodup_cons,
        List.mem_map]
      grind

theorem isValid_iff {m : ChannelMapping} : m.isValid = true ↔ m.Valid := by
  rw [isValid, List.isEmpty_iff, getValidationError]
  constructor
  · intro h
    split_ifs at h with h1 h2 h3 h4 h5
    case neg =>
      obtain ⟨hr, -, hn⟩ := routesError_eq_nil.mp h
      exact ⟨by simpa [StreamID.isNull] using h1, by omega, by omega, by omega, hr, hn⟩
    all_goals simp at h
  · rintro ⟨h1, h2, h3, h4, h5, h6⟩
    rw [if_neg (by simpa [StreamID.isNull] using h1), if_neg (by omega), if_neg (by omega),
      if_neg (by omega), if_neg (by omega)]
    exact routesError_eq_nil.mpr ⟨h5, by simp, h6⟩

theorem mem_deviceChannels {m : ChannelMapping} {c : ℕ} :
    c ∈ m.deviceChannels ↔ if m.routes = [] then
        m.deviceChannelStart ≤ c ∧ c < m.deviceChannelStart + m.deviceChannelCount
      else ∃ r ∈ m.routes, r.deviceChannel = c := by
  unfold deviceChannels
  split
  · next h =>
    rw [if_pos h]
    simp only [List.mem_map, List.mem_range]
    constructor
    · rintro ⟨i, hi, rfl⟩; omega
    · rintro ⟨h1, h2⟩
      exact ⟨c - m.deviceChannelStart, by omega, by omega⟩
  · next h => rw [if_neg (by simpa using h)]; simp

theorem containsDeviceChannel_iff {m : ChannelMapping} {c : ℕ} :
    m.containsDeviceChannel c = true ↔ c ∈ m.deviceChannels := by
  rw [mem_deviceChannels, containsDeviceChannel]
  split
  · next h => simp [h]
  · next h => rw [if_neg (by simpa using h)]; simp

theorem Valid.lt_of_mem {m : ChannelMapping} (h : m.Valid) {c : ℕ} (hc : c ∈ m.deviceChannels) :
    c < kMaxDeviceChannels := by
  rw [mem_deviceChannels] at hc
  split_ifs at hc with hr
  · have := h.block_le; omega
  · obtain ⟨r, hr, rfl⟩ := hc
    exact (h.route_lt r hr).2

theorem Valid.exists_mem {m : ChannelMapping} (h : m.Valid) : ∃ c, c ∈ m.deviceChannels := by
  have := h.deviceChannelCount_pos
  by_cases hr : m.routes = []
  · exact ⟨m.deviceChannelStart, mem_deviceChannels.mpr (by rw [if_pos hr]; omega)⟩
  · obtain ⟨r, hm⟩ := List.exists_mem_of_ne_nil _ hr
    exact ⟨r.deviceChannel, mem_deviceChannels.mpr (by rw [if_neg hr]; exact ⟨r, hm, rfl⟩)⟩

end ChannelMapping

/-! ## The mapper -/

/-- `StreamChannelMapper`. A channel nobody owns is owned by the null identifier. -/
structure Mapper where
  mappings : OrdMap StreamID ChannelMapping := .empty
  deviceChannelOwners : Fin kMaxDeviceChannels → StreamID := fun _ => .null
  usableChannelCount : ℕ := kMaxDeviceChannels
  usable_le : usableChannelCount ≤ kMaxDeviceChannels := by decide

namespace Mapper

variable (m : Mapper) (mapping : ChannelMapping) (id : StreamID)

/-- The empty mapper. -/
def init : Mapper := {}

/-- The owner of a channel, by its index. -/
def ownerAt (deviceCh : ℕ) : StreamID :=
  if h : deviceCh < kMaxDeviceChannels then m.deviceChannelOwners ⟨deviceCh, h⟩ else .null

/-- `setUsableChannelCount`. -/
def setUsableChannelCount (count : ℕ) : Mapper :=
  { m with usableChannelCount := min count kMaxDeviceChannels, usable_le := Nat.min_le_right _ _ }

/-- `updateDeviceChannelOwners`. -/
def updateDeviceChannelOwners : Mapper :=
  { m with
    deviceChannelOwners := mapping.deviceChannels.foldl
      (fun owners deviceCh =>
        if h : deviceCh < kMaxDeviceChannels then
          Function.update owners ⟨deviceCh, h⟩ mapping.streamID
        else owners)
      m.deviceChannelOwners }

/-- `clearDeviceChannelOwners`. -/
def clearDeviceChannelOwners : Mapper :=
  { m with
    deviceChannelOwners := fun c =>
      if m.deviceChannelOwners c = id then .null else m.deviceChannelOwners c }

/-- `isOverlapWithStream`. -/
def isOverlapWithStream (excludeStream : StreamID) : Bool :=
  mapping.deviceChannels.any fun deviceCh =>
    if h : deviceCh < kMaxDeviceChannels then
      let owner := m.deviceChannelOwners ⟨deviceCh, h⟩
      !owner.isNull && owner != excludeStream
    else false

/-- Whether `addMapping` takes the mapping. -/
def accepts : Bool := mapping.isValid && !m.isOverlapWithStream mapping .null

/-- `addMapping`: the mapper after it, and what it answers. -/
def addMapping : Mapper × Bool :=
  if !mapping.isValid then (m, false)
  else if m.isOverlapWithStream mapping .null then (m, false)
  else
    let m := { m with mappings := m.mappings.insert mapping.streamID mapping }
    (m.updateDeviceChannelOwners mapping, true)

/-- `removeMapping`. -/
def removeMapping : Mapper × Bool :=
  match m.mappings.find? id with
  | none => (m, false)
  | some _ =>
    let m := m.clearDeviceChannelOwners id
    ({ m with mappings := m.mappings.erase id }, true)

/-- `updateMapping`. -/
def updateMapping : Mapper × Bool :=
  if !mapping.isValid then (m, false)
  else if m.isOverlapWithStream mapping mapping.streamID then (m, false)
  else
    let m := m.clearDeviceChannelOwners mapping.streamID
    let m := { m with mappings := m.mappings.insert mapping.streamID mapping }
    (m.updateDeviceChannelOwners mapping, true)

/-- `getMapping`. -/
def getMapping : Option ChannelMapping := m.mappings.find? id

/-- `getAllMappings`. -/
def getAllMappings : List ChannelMapping := m.mappings.values

/-- `clearAll`. -/
def clearAll : Mapper :=
  { m with mappings := .empty, deviceChannelOwners := fun _ => .null }

/-- The loop of `findContiguousBlock` over the channels `i, i + 1, …`, `fuel` of them, with the
start of the current free run and its length. -/
def findBlock (numChannels : ℕ) : (fuel i : ℕ) → Option ℕ → ℕ → Option ℕ
  | 0, _, _, _ => none
  | fuel + 1, i, blockStart, consecutiveCount =>
    if (m.ownerAt i).isNull then
      let start := blockStart.getD i
      if consecutiveCount + 1 ≥ numChannels then some start
      else findBlock numChannels fuel (i + 1) (some start) (consecutiveCount + 1)
    else findBlock numChannels fuel (i + 1) none 0

/-- `findContiguousBlock`. -/
def findContiguousBlock (numChannels : ℕ) : Option ℕ :=
  m.findBlock numChannels m.usableChannelCount 0 none 0

/-- `createDefaultMapping`, with the identifier it is given or has generated. It only proposes a
mapping: nothing is stored. -/
def createDefaultMapping (streamName : Text) (numChannels : ℕ) : Option ChannelMapping :=
  match m.findContiguousBlock numChannels with
  | none => none
  | some blockStart => some
      { streamID := id, streamName := streamName, streamChannelCount := numChannels,
        streamChannelOffset := 0, deviceChannelStart := blockStart,
        deviceChannelCount := numChannels, routes := [] }

/-- `getStreamForDeviceChannel`. -/
def getStreamForDeviceChannel (deviceCh : ℕ) : Option StreamID :=
  if (m.ownerAt deviceCh).isNull then none else some (m.ownerAt deviceCh)

/-- `getUnassignedDeviceChannels`. -/
def getUnassignedDeviceChannels : List ℕ :=
  (List.range kMaxDeviceChannels).filter fun c => (m.ownerAt c).isNull

end Mapper

/-! ## Reading a saved file -/

/-- The `{…}` blocks `fromJSON` cuts out: from each opening brace to the next closing one. The
first argument is the text of the open block, reversed. -/
def cutBlocks : Option Text → Text → List Text
  | _, [] => []
  | none, c :: s => if c = '\x7b' then cutBlocks (some [c]) s else cutBlocks none s
  | some acc, c :: s =>
    if c = '\x7d' then (c :: acc).reverse :: cutBlocks none s else cutBlocks (some (c :: acc)) s

/-- The mapping one block of a saved file describes; nothing where its identifier does not read
and the constructor throws. -/
def readEntry (block : Text) : Option ChannelMapping :=
  match StreamID.ofText ((extractStringField block "streamID".toList).getD []) with
  | none => none
  | some id => some
      { streamID := id
        streamName := (extractStringField block "streamName".toList).getD []
        streamChannelCount := (extractUInt16Field block "streamChannelCount".toList).getD 0
        streamChannelOffset := (extractUInt16Field block "streamChannelOffset".toList).getD 0
        deviceChannelStart := (extractUInt16Field block "deviceChannelStart".toList).getD 0
        deviceChannelCount := (extractUInt16Field block "deviceChannelCount".toList).getD 0 }

/-- The blocks `fromJSON` takes for entries, the outer object skipped. -/
def entryBlocks (json : Text) : List Text :=
  (cutBlocks none json).filter (contains "\"streamID\"".toList)

/-- The mappings `fromJSON` adds one by one, up to the entry whose identifier throws. -/
def readEntries : List Text → List ChannelMapping
  | [] => []
  | block :: blocks =>
    match readEntry block with
    | none => []
    | some mapping => mapping :: readEntries blocks

namespace Mapper

/-- `fromJSON`: the mapper it leaves, and whether it returns. Entries that the mapper refuses are
passed over; an identifier that does not read throws and leaves what was added before it. -/
def fromJSON (m : Mapper) (json : Text) : Mapper × Bool :=
  let blocks := entryBlocks json
  ((readEntries blocks).foldl (fun m mapping => (m.addMapping mapping).1) m.clearAll,
    blocks.all fun block => (readEntry block).isSome)

end Mapper

/-! ## Runs -/

/-- One call on the mapper. -/
inductive Op
  | addMapping (mapping : ChannelMapping)
  | removeMapping (id : StreamID)
  | updateMapping (mapping : ChannelMapping)
  | clearAll
  | createDefaultMapping (id : StreamID) (streamName : Text) (numChannels : ℕ)
  | fromJSON (json : Text)
  | setUsableChannelCount (count : ℕ)

/-- The mapper after one call. -/
def Mapper.step (m : Mapper) : Op → Mapper
  | .addMapping mapping => (m.addMapping mapping).1
  | .removeMapping id => (m.removeMapping id).1
  | .updateMapping mapping => (m.updateMapping mapping).1
  | .clearAll => m.clearAll
  | .createDefaultMapping _ _ _ => m
  | .fromJSON json => (m.fromJSON json).1
  | .setUsableChannelCount count => m.setUsableChannelCount count

end Aes67
