import Mathlib
import Aes67.Lib.Outcome
import Aes67.Lib.Slice

/-!
# DNS-SD packets

The records that make a session discoverable, as bytes, and the two parsers that read such packets
off an open network. A `std::string` is its bytes.

* `encodeName`, `buildRecords`, `buildAnnouncement`, `buildQuery`;
* `parseQueryNames`;
* `readName`, `readRecord`, `parseServiceResponse`.

A read is checked against the bound its function was given: one at or past it is a `Fault`, and so
is a loop that does not end.
-/

namespace Aes67.Ravenna.DnsSd

/-- The bytes of a packet or of a string. -/
abbrev Octets := List UInt8

/-- The bytes of a string written out. -/
def octets (s : String) : Octets := s.toList.map fun c => .ofNat c.toNat

/-! ## Constants -/

def kRtspService : Octets := octets "_rtsp._tcp.local"

def kRavennaSessionSubtype : Octets := octets "_ravenna_session._sub._rtsp._tcp.local"

def kTypeA : UInt16 := 1

def kTypePTR : UInt16 := 12

def kTypeTXT : UInt16 := 16

def kTypeSRV : UInt16 := 33

def kClassIN : UInt16 := 1

def kCacheFlush : UInt16 := 0x8000

def kHostRecordTtl : UInt32 := 120

def kServiceRecordTtl : UInt32 := 4500

/-- `'.'`. -/
def kDot : UInt8 := 46

/-! ## Building -/

/-- `SessionAdvertisement`. -/
structure SessionAdvertisement where
  instanceName : Octets
  hostName : Octets
  port : UInt16 := 554
  addressV4 : UInt32 := 0
  txtEntries : List Octets := []
  serviceType : Octets := kRtspService
  subtype : Octets := kRavennaSessionSubtype

def put16 (value : UInt16) : Octets := [(value >>> 8).toUInt8, value.toUInt8]

def put32 (value : UInt32) : Octets :=
  [(value >>> 24).toUInt8, (value >>> 16).toUInt8, (value >>> 8).toUInt8, value.toUInt8]

/-- The pieces between the dots of a name. A dot at the very end opens no further piece. -/
def pieces : Octets → List Octets
  | [] => []
  | c :: s =>
    if c = kDot then [] :: pieces s
    else match pieces s with
      | [] => [[c]]
      | p :: ps => (c :: p) :: ps

/-- One label: its length, at most 63, and its bytes; nothing for an empty one. -/
def encodeLabel (label : Octets) : Octets :=
  let label := label.take 63
  if label.length > 0 then .ofNat label.length :: label else []

/-- `encodeName`. -/
def encodeName (name : Octets) : Octets := (pieces name).flatMap encodeLabel ++ [0]

/-- `putRecordHeader`. -/
def putRecordHeader (name : Octets) (type : UInt16) (ttl : UInt32) (dataLength : UInt16)
    (cacheFlush : Bool) : Octets :=
  encodeName name ++ put16 type ++ put16 (kClassIN ||| if cacheFlush then kCacheFlush else 0) ++
    put32 ttl ++ put16 dataLength

/-- `instanceFqdn`. -/
def instanceFqdn (session : SessionAdvertisement) : Octets :=
  session.instanceName ++ kDot :: session.serviceType

/-- The data of the TXT record. -/
def encodeTxt (entries : List Octets) : Octets :=
  if entries = [] then [0]
  else entries.flatMap fun entry => .ofNat (min entry.length 255) :: entry.take 255

/-- `buildRecords`. -/
def buildRecords (session : SessionAdvertisement) (includeSubtype : Bool)
    (serviceTtl hostTtl : UInt32) : Octets :=
  let inst := instanceFqdn session
  let instanceName := encodeName inst
  let hostName := encodeName session.hostName
  let txt := encodeTxt session.txtEntries
  putRecordHeader session.serviceType kTypePTR serviceTtl (.ofNat instanceName.length) false ++
    instanceName ++
  (if includeSubtype ∧ session.subtype ≠ [] then
    putRecordHeader session.subtype kTypePTR serviceTtl (.ofNat instanceName.length) false ++
      instanceName
  else []) ++
  putRecordHeader inst kTypeSRV hostTtl (.ofNat (6 + hostName.length)) true ++
    put16 0 ++ put16 0 ++ put16 session.port ++ hostName ++
  putRecordHeader inst kTypeTXT serviceTtl (.ofNat txt.length) true ++ txt ++
  putRecordHeader session.hostName kTypeA hostTtl 4 true ++ put32 session.addressV4

/-- `buildPacket`. -/
def buildPacket (records : Octets) (answerCount : UInt16) : Octets :=
  put16 0 ++ put16 0x8400 ++ put16 0 ++ put16 answerCount ++ put16 0 ++ put16 0 ++ records

/-- `answerCountFor`. -/
def answerCountFor (session : SessionAdvertisement) (includeSubtype : Bool) : UInt16 :=
  if includeSubtype ∧ session.subtype ≠ [] then 5 else 4

def buildAnnouncement (session : SessionAdvertisement) (includeSubtype : Bool) : Octets :=
  buildPacket (buildRecords session includeSubtype kServiceRecordTtl kHostRecordTtl)
    (answerCountFor session includeSubtype)

def buildGoodbye (session : SessionAdvertisement) (includeSubtype : Bool) : Octets :=
  buildPacket (buildRecords session includeSubtype 0 0) (answerCountFor session includeSubtype)

/-- `buildQuery`. -/
def buildQuery (serviceType : Octets) : Octets :=
  [0, 0, 0, 0, 0, 1, 0, 0, 0, 0, 0, 0] ++ encodeName serviceType ++
    [0, kTypePTR.toUInt8, 0, kClassIN.toUInt8]

/-! ## Reading -/

/-- What must never happen while a packet is read. -/
inductive Fault
  | pastEnd | outOfFuel
  deriving DecidableEq

/-- `packet[at]`, for a function that was given so many bytes. -/
def byteAt (packet : Octets) (length i : ℕ) : Except Fault UInt8 :=
  match packet[i]? with
  | some b => if i < length then .ok b else .error .pastEnd
  | none => .error .pastEnd

/-- So many bytes, one after another. -/
def bytesAt (packet : Octets) (length i : ℕ) : ℕ → Except Fault Octets
  | 0 => .ok []
  | n + 1 => do
    let b ← byteAt packet length i
    return b :: (← bytesAt packet length (i + 1) n)

/-- `readBE16`. -/
def readBE16 (packet : Octets) (length i : ℕ) : Except Fault UInt16 := do
  let high ← byteAt packet length i
  let low ← byteAt packet length (i + 1)
  return high.toUInt16 <<< 8 ||| low.toUInt16

/-- The address of an A record. -/
def readBE32 (packet : Octets) (length i : ℕ) : Except Fault UInt32 := do
  let b0 ← byteAt packet length i
  let b1 ← byteAt packet length (i + 1)
  let b2 ← byteAt packet length (i + 2)
  let b3 ← byteAt packet length (i + 3)
  return b0.toUInt32 <<< 24 ||| b1.toUInt32 <<< 16 ||| b2.toUInt32 <<< 8 ||| b3.toUInt32

/-- `std::tolower` in the C locale. -/
def lower (b : UInt8) : UInt8 := if 65 ≤ b ∧ b ≤ 90 then b + 32 else b

/-- A label behind the ones there are. -/
def addLabel (name label : Octets) : Octets :=
  (if name = [] then [] else name ++ [kDot]) ++ label.map lower

/-! ## Questions -/

/-- The loop over one question's name: the name, and what stands behind it; nothing where the
parser gives up. -/
def questionName (packet : Octets) : ℕ → ℕ → Octets → Except Fault (Option (Octets × ℕ))
  | 0, _, _ => .error .outOfFuel
  | fuel + 1, offset, name => do
    if offset < packet.length then
      let label ← byteAt packet packet.length offset
      if label = 0 then return some (name, offset + 1)
      else if label &&& 0xC0 ≠ 0 then return none
      else if offset + 1 + label.toNat > packet.length then return none
      else
        let bytes ← bytesAt packet packet.length (offset + 1) label.toNat
        questionName packet fuel (offset + 1 + label.toNat) (addLabel name bytes)
    else return some (name, offset)

/-- The questions of a query, with the names so far. -/
def questions (packet : Octets) : ℕ → ℕ → List Octets → Except Fault (List Octets)
  | 0, _, names => .ok names
  | n + 1, offset, names => do
    match ← questionName packet (packet.length + 1) offset [] with
    | none => return names
    | some (name, offset) =>
      if offset + 4 > packet.length then return names
      else questions packet n (offset + 4) (if name = [] then names else names ++ [name])

def parseQueryNames (packet : Octets) : Except Fault (List Octets) := do
  if packet.length < 12 then return []
  let flags ← readBE16 packet packet.length 2
  if flags &&& 0x8000 ≠ 0 then return []
  let count ← readBE16 packet packet.length 4
  questions packet count.toNat 12 []

/-! ## Names -/

/-- Where `readName` stands: the next byte, the name so far, the jumps made, and what stands behind
the name once a jump has been made. -/
structure Reading where
  offset : ℕ
  name : Octets := []
  jumps : ℕ := 0
  after : Option ℕ := none

/-- The loop of `readName`. -/
def readLabels (packet : Octets) (length : ℕ) :
    ℕ → Reading → Except Fault (Option (Octets × ℕ))
  | 0, _ => .error .outOfFuel
  | fuel + 1, r => do
    if r.offset < length then
      let label ← byteAt packet length r.offset
      if label &&& 0xC0 = 0xC0 then
        if r.offset + 1 ≥ length then return none
        else
          let low ← byteAt packet length (r.offset + 1)
          let target := (label &&& 0x3F).toNat * 256 + low.toNat
          if target ≥ r.offset then return none
          else if r.jumps + 1 > 16 then return none
          else readLabels packet length fuel { r with
            offset := target, jumps := r.jumps + 1, after := some (r.after.getD (r.offset + 2)) }
      else if label &&& 0xC0 ≠ 0 then return none
      else if label = 0 then return some (r.name, r.after.getD (r.offset + 1))
      else if r.offset + 1 + label.toNat > length then return none
      else
        let bytes ← bytesAt packet length (r.offset + 1) label.toNat
        readLabels packet length fuel { r with
          offset := r.offset + 1 + label.toNat, name := addLabel r.name bytes }
    else return none

/-- Steps enough for a name: each of the runs between 16 jumps goes forwards. -/
def fuelFor (length : ℕ) : ℕ := 17 * (length + 1)

/-- `readName`: the name and what stands behind it; nothing where it is malformed. -/
def readName (packet : Octets) (length offset : ℕ) : Except Fault (Option (Octets × ℕ)) :=
  readLabels packet length (fuelFor length) { offset := offset }

/-! ## Responses -/

/-- `DiscoveredService`. -/
structure DiscoveredService where
  instanceName : Octets := []
  hostName : Octets := []
  port : UInt16 := 0
  addressV4 : UInt32 := 0
  txtEntries : List Octets := []
  deriving DecidableEq

/-- What one record says, with the name of its owner where that matters. -/
inductive Report
  | named (name : Octets)
  | target (owner host : Octets) (port : UInt16)
  | texts (owner : Octets) (entries : List Octets)
  | address (owner : Octets) (value : UInt32)
  | nothing
  deriving DecidableEq

/-- The loop over the strings of a TXT record that ends before `stop`. -/
def readTexts (packet : Octets) (length stop : ℕ) : ℕ → ℕ → Except Fault (List Octets)
  | 0, _ => .error .outOfFuel
  | fuel + 1, i => do
    if i < stop then
      let entryLength ← byteAt packet length i
      if i + 1 + entryLength.toNat > stop then return []
      else
        let entry ← bytesAt packet length (i + 1) entryLength.toNat
        let rest ← readTexts packet length stop fuel (i + 1 + entryLength.toNat)
        return if entryLength > 0 then entry :: rest else rest
    else return []

/-- What a record of a type says, its data being `dataLength` bytes at `data`. -/
def readData (packet wanted owner : Octets) (type : UInt16) (data dataLength : ℕ) :
    Except Fault Report := do
  let length := packet.length
  if type = kTypePTR ∧ owner = wanted then
    match ← readName packet length data with
    | some (inst, _) => return if inst = [] then .nothing else .named inst
    | none => return .nothing
  else if type = kTypeSRV ∧ dataLength ≥ 6 then
    -- Bounded by the record's own end.
    match ← readName packet (data + dataLength) (data + 6) with
    | some (host, _) => return .target owner host (← readBE16 packet length (data + 4))
    | none => return .nothing
  else if type = kTypeTXT then
    return .texts owner (← readTexts packet length (data + dataLength) (dataLength + 1) data)
  else if type = kTypeA ∧ dataLength = 4 then
    return .address owner (← readBE32 packet length data)
  else return .nothing

/-- A record as it stands in a packet: where it starts, its owner, its type and its data. -/
structure Record where
  start : ℕ
  owner : Octets
  type : UInt16
  data : ℕ
  dataLength : ℕ

/-- Where the record ends. -/
def Record.stop (r : Record) : ℕ := r.data + r.dataLength

/-- The record at `offset`; nothing where there is none that fits. -/
def readRecord (packet : Octets) (offset : ℕ) : Except Fault (Option Record) := do
  let length := packet.length
  match ← readName packet length offset with
  | none => return none
  | some (owner, after) =>
    if after + 10 > length then return none
    else
      let type ← readBE16 packet length after
      let dataLength ← readBE16 packet length (after + 8)
      let record : Record := ⟨offset, owner, type, after + 10, dataLength.toNat⟩
      if record.stop > length then return none else return some record

/-- The record loop: the records there are, each with what it says. -/
def readRecords (packet wanted : Octets) : ℕ → ℕ → Except Fault (List (Record × Report))
  | 0, _ => .ok []
  | n + 1, offset => do
    match ← readRecord packet offset with
    | none => return []
    | some record =>
      let report ← readData packet wanted record.owner record.type record.data record.dataLength
      return (record, report) :: (← readRecords packet wanted n record.stop)

/-- The questions of a response, which are passed over. -/
def skipQuestions (packet : Octets) : ℕ → ℕ → Except Fault (Option ℕ)
  | 0, offset => .ok (some offset)
  | n + 1, offset => do
    match ← readName packet packet.length offset with
    | none => return none
    | some (_, after) =>
      if after + 4 > packet.length then return none else skipQuestions packet n (after + 4)

/-- What the records loop collects: the local variables of `parseServiceResponse`. -/
structure Gathered where
  instances : List Octets := []
  byOwner : List (Octets × DiscoveredService) := []
  addresses : List (Octets × UInt32) := []

/-- `owned`, and what is done with the service it finds or makes. -/
def owned (owner : Octets) (f : DiscoveredService → DiscoveredService) :
    List (Octets × DiscoveredService) → List (Octets × DiscoveredService)
  | [] => [(owner, f { instanceName := owner })]
  | (name, service) :: l =>
    if name = owner then (name, f service) :: l else (name, service) :: owned owner f l

/-- One record's part of what is collected. -/
def Gathered.add (g : Gathered) : Report → Gathered
  | .named name => { g with instances := g.instances ++ [name] }
  | .target owner host port =>
    { g with byOwner := owned owner (fun s => { s with port := port, hostName := host }) g.byOwner }
  | .texts owner entries =>
    { g with byOwner :=
        owned owner (fun s => { s with txtEntries := s.txtEntries ++ entries }) g.byOwner }
  | .address owner value => { g with addresses := g.addresses ++ [(owner, value)] }
  | .nothing => g

/-- The service of an instance, as far as its records arrived. -/
def Gathered.serviceOf (g : Gathered) (inst : Octets) : DiscoveredService :=
  let service := ((g.byOwner.find? fun e => e.1 = inst).map Prod.snd).getD { instanceName := inst }
  match g.addresses.find? fun e => e.1 = service.hostName with
  | some (_, address) => { service with addressV4 := address }
  | none => service

def Gathered.found (g : Gathered) : List DiscoveredService := g.instances.map g.serviceOf

/-- The records of a response, each with what it says; none where it is no response. -/
def recordsOf (packet serviceType : Octets) : Except Fault (List (Record × Report)) := do
  let length := packet.length
  if length < 12 then return []
  let flags ← readBE16 packet length 2
  if flags &&& 0x8000 = 0 then return []
  let questions ← readBE16 packet length 4
  let answers ← readBE16 packet length 6
  let authority ← readBE16 packet length 8
  let additional ← readBE16 packet length 10
  match ← skipQuestions packet questions.toNat 12 with
  | none => return []
  | some offset =>
    readRecords packet (serviceType.map lower)
      (answers.toNat + authority.toNat + additional.toNat) offset

/-- `parseServiceResponse`. -/
def parseServiceResponse (packet serviceType : Octets) : Except Fault (List DiscoveredService) := do
  let records ← recordsOf packet serviceType
  return (records.foldl (fun (g : Gathered) r => g.add r.2) {}).found

end Aes67.Ravenna.DnsSd
