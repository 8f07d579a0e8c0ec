import Aes67.Lib.Binary64
import Aes67.Config.Model
import Aes67.Mapper.Model
import Aes67.Manager.Profile

/-!
# The stream manager

The model of `StreamManager`: the streams that are open, the RTP object each runs, and the mapper
that says whose each device channel is. The manager, the mapper and the RTP object each keep the
mapping of a stream.

* `Rtp`: what an `RTPReceiver` and an `RTPTransmitter` have in common, with the device channels the
  one writes and the other reads;
* `StreamManager` with its operations, under their names in the source;
* `Op`, `StreamManager.step`: everything that changes the manager, as a state machine.
-/

namespace Aes67

open Sdp (SDPSession)

/-! ## RTP objects -/

/-- An `RTPReceiver` or an `RTPTransmitter`: its session, its mapping, and whether its threads
run. -/
structure Rtp where
  sdp : SDPSession
  mapping : ChannelMapping
  running : Bool := false

namespace Rtp

/-- `start`; `opens` is whether the socket opens. -/
def start (r : Rtp) (opens : Bool) : Rtp × Bool :=
  if r.running then (r, false)
  else if r.sdp.connectionAddress = [] ∨ r.sdp.port = 0 then (r, false)
  else if r.sdp.numChannels = 0 ∨ r.sdp.numChannels > 128 then (r, false)
  else if !opens then (r, false)
  else ({ r with running := true }, true)

def stop (r : Rtp) : Rtp := { r with running := false }

/-- `updateMapping`: stop, update, restart. -/
def updateMapping (r : Rtp) (newMapping : ChannelMapping) (opens : Bool) : Rtp × Bool :=
  if !newMapping.fitsDevice r.sdp.numChannels.toNat then (r, false)
  else if r.running then ({ r.stop with mapping := newMapping } : Rtp).start opens
  else ({ r with mapping := newMapping }, true)

def kMaxFramesPerPacket : ℕ := 512

/-- The block a mapping without routes takes, nothing where it runs off the device. -/
def block (r : Rtp) : List ℕ :=
  if r.mapping.deviceChannelStart + r.sdp.numChannels.toNat > kMaxDeviceChannels then []
  else (List.range r.sdp.numChannels.toNat).map (r.mapping.deviceChannelStart + ·)

/-- `RTPReceiver::mapChannelsToDevice`: the device channels one packet is written to, stream
channel by stream channel. -/
def mapChannelsToDevice (r : Rtp) (frameCount : ℕ) : List ℕ :=
  if frameCount > kMaxFramesPerPacket then []
  else match r.mapping.routes with
    | [] => r.block
    | routes => (List.range r.sdp.numChannels.toNat).flatMap fun streamChannel =>
        (routes.filter fun route => route.streamChannel = streamChannel ∧
          route.deviceChannel < kMaxDeviceChannels).map ChannelRoute.deviceChannel

/-- `RTPTransmitter::readDeviceChannels`: the device channels one packet is read from. The first
route of a stream channel is the one that counts. -/
def readDeviceChannels (r : Rtp) (frameCount : ℕ) : List ℕ :=
  if frameCount > kMaxFramesPerPacket then []
  else match r.mapping.routes with
    | [] => r.block
    | routes => (List.range r.sdp.numChannels.toNat).filterMap fun streamChannel =>
        match routes.find? fun route => route.streamChannel = streamChannel with
        | some route =>
          if route.deviceChannel < kMaxDeviceChannels then some route.deviceChannel else none
        | none => none

end Rtp

/-! ## The manager -/

/-- `ManagedStream`; `isTransmit` says which of the two RTP objects it holds. -/
structure ManagedStream where
  sdp : SDPSession
  mapping : ChannelMapping
  rtp : Rtp
  isTransmit : Bool := false
  sourcePort : UInt16 := 0

/-- What the surroundings answer during one call: the identifiers `StreamID::generate` makes up
and whether the sockets open, in the order they are asked for, the time, and the domains whose
clock is locked. -/
structure Env where
  generated : ℕ → StreamID
  opens : ℕ → Bool
  time : UInt64
  isLocked : Int32 → Bool

structure StreamManager where
  mapper : Mapper := .init
  streams : OrdMap StreamID ManagedStream := .empty
  profileKind : CompatibilityProfileKind := .aes67
  rxChannelsInUse : UInt32 := 0
  txChannelsInUse : UInt32 := 0
  usableRxChannelCount : UInt32 := 128
  usableTxChannelCount : UInt32 := 128
  txFlowPortOffset : UInt32 := 0
  autoSinkFollowEnabled : Bool := true
  ptpEnabled : Bool := false
  requirePTPLock : Bool := false
  activeGrandmaster : Text := []
  ignoreRefClockMismatch : Bool := false
  ioActive : Bool := false
  currentDeviceSampleRate : Double := .fin 48000

/-- Two rates further apart than a tenth of a hertz. -/
def ratesDiffer (rate : UInt32) : Double → Bool
  | .nan => false
  | .inf _ => true
  | .fin q => |(rate.toNat : ℚ) - q| > round64 (1 / 10)

/-- Two rates no further apart than that; a rate that is no number is near none. -/
def ratesAgree (rate : UInt32) : Double → Bool
  | .nan => false
  | d => !ratesDiffer rate d

/-- A rate the device does not run at. -/
def rateOutOfRange : Double → Bool
  | .nan => false
  | .inf _ => true
  | .fin q => q < 44100 ∨ q > 384000

/-- `static_cast<uint32_t>`, zero where the language leaves the result open. -/
def castUInt32 : Double → UInt32
  | .fin q => if 0 ≤ q ∧ q < 2 ^ 32 then .ofNat ⌊q⌋₊ else 0
  | _ => 0

/-- `normalizeGrandmaster`: separators and case do not tell two clocks apart. -/
def normalizeGrandmaster (id : Text) : Text :=
  (id.filter fun c => c ≠ '-' ∧ c ≠ ':' ∧ c ≠ '.').map Char.toUpper

/-- `announcedTxSession`. -/
def announcedTxSession (name multicastIP : Text) (port numChannels : UInt16) (sampleRate : UInt32)
    (dscp : Int32) (time : UInt64) : SDPSession :=
  { sessionName := name, connectionAddress := multicastIP, port := port,
    numChannels := numChannels, sampleRate := sampleRate, encoding := "L24".toList,
    payloadType := 97, sessionID := time, sessionVersion := 1, dscp := dscp }

namespace StreamManager

variable (s : StreamManager)

/-! ### Validation -/

def validateSampleRate (sdp : SDPSession) : Except Text Unit :=
  if ratesDiffer sdp.sampleRate s.currentDeviceSampleRate then
    .error ("Sample rate mismatch: stream=".toList ++
      showInt (Int32.ofNat sdp.sampleRate.toNat).toInt ++ " Hz, device=".toList ++
      showInt (castInt s.currentDeviceSampleRate) ++ " Hz".toList)
  else .ok ()

def validateChannelAvailability (numChannels : UInt16) : Except Text Unit :=
  let available := s.mapper.getUnassignedDeviceChannels.length
  if numChannels = 0 ∨ numChannels > 128 then
    .error ("Invalid channel count: ".toList ++ showNat numChannels.toNat ++
      " (must be 1-128)".toList)
  else if numChannels.toNat > available then
    .error ("Insufficient channels: need ".toList ++ showNat numChannels.toNat ++
      ", have ".toList ++ showNat available)
  else .ok ()

def validatePacketBudget (sdp : SDPSession) : Except Text Unit :=
  let bytesPerSample := PacketBudget.bytesPerSample sdp.encoding
  let frames := PacketBudget.framesPerPacket sdp.sampleRate sdp.ptimeUs sdp.framecount
  if bytesPerSample = 0 ∨ frames = 0 then .ok ()
  else if PacketBudget.fits sdp.numChannels bytesPerSample frames then .ok ()
  else
    let maxChannels := PacketBudget.maxChannelsPerPacket bytesPerSample frames
    let maxFrames := PacketBudget.maxFramesPerPacket sdp.numChannels bytesPerSample
    let maxPtimeUs : UInt32 := if sdp.sampleRate > 0 then
      .ofNat (maxFrames.toNat * 1000000 / sdp.sampleRate.toNat) else 0
    .error (showNat sdp.numChannels.toNat ++ " channels of ".toList ++ sdp.encoding ++
      " at ".toList ++ showNat frames.toNat ++ " samples per packet is a ".toList ++
      showNat (PacketBudget.rtpPacketBytes sdp.numChannels bytesPerSample frames) ++
      "-byte packet, over the ".toList ++ showNat PacketBudget.kMaxRtpPacketBytes ++
      " an Ethernet frame carries: at this packet time up to ".toList ++
      showNat maxChannels.toNat ++ " channels fit, and for ".toList ++
      showNat sdp.numChannels.toNat ++ " channels a packet time of at most ".toList ++
      showNat maxPtimeUs.toNat ++ " us (".toList ++ showNat maxFrames.toNat ++
      " samples) does".toList)

/-- `validateNetworkConfig`, without the warning it may write: that one refuses nothing. -/
def validateNetworkConfig (sdp : SDPSession) : Except Text Unit :=
  if sdp.connectionAddress = [] then .error "Missing multicast IP address".toList
  else if sdp.connectionAddress.take 4 ≠ "239.".toList then
    .error ("Invalid multicast IP: ".toList ++ sdp.connectionAddress ++
      " (AES67 requires 239.x.x.x)".toList)
  else if sdp.port = 0 then .error "Invalid port: 0".toList
  else .ok ()

def channelsInUse (isTransmit : Bool) : UInt32 :=
  if isTransmit then s.txChannelsInUse else s.rxChannelsInUse

/-- The profile's limit on a direction, which counts every stream of it. -/
def validateTotalChannels (profile : CompatibilityProfile) (sdp : SDPSession)
    (isTransmit : Bool) : Except Text Unit :=
  let total := s.channelsInUse isTransmit + sdp.numChannels.toUInt32
  if profile.maxTotalChannels > 0 ∧ total > profile.maxTotalChannels then
    .error (profile.displayName ++ ": ".toList ++ showNat sdp.numChannels.toNat ++
      " more channels would bring total ".toList ++ (if isTransmit then "TX" else "RX").toList ++
      " usage to ".toList ++ showNat total.toNat ++ ", over its ".toList ++
      showNat profile.maxTotalChannels.toNat ++ "-channel limit".toList)
  else .ok ()

/-- The user's limit on a direction. -/
def validateUsableChannels (sdp : SDPSession) (isTransmit : Bool) : Except Text Unit :=
  let usableCount := if isTransmit then s.usableTxChannelCount else s.usableRxChannelCount
  let total := s.channelsInUse isTransmit + sdp.numChannels.toUInt32
  if usableCount > 0 ∧ total > usableCount then
    .error (showNat sdp.numChannels.toNat ++ " more channels would bring total ".toList ++
      (if isTransmit then "TX" else "RX").toList ++ " usage to ".toList ++ showNat total.toNat ++
      ", over the ".toList ++ showNat usableCount.toNat ++ " channels selected for ".toList ++
      (if isTransmit then "output" else "input").toList ++ " in ManagerApp".toList)
  else .ok ()

def validateLock (isLocked : Int32 → Bool) (sdp : SDPSession) : Except Text Unit :=
  if s.requirePTPLock ∧ s.ptpEnabled ∧ sdp.ptpDomain ≥ 0 ∧ !isLocked sdp.ptpDomain then
    .error ("PTP clock for domain ".toList ++ showInt sdp.ptpDomain.toInt ++
      " is not locked yet ".toList ++ CompatibilityProfile.dash ++
      " this installation is set to require lock before carrying audio".toList)
  else .ok ()

def validateGrandmaster (sdp : SDPSession) : Except Text Unit :=
  if !s.ignoreRefClockMismatch ∧ sdp.ptpMasterMAC ≠ [] ∧ s.activeGrandmaster ≠ [] ∧
      normalizeGrandmaster s.activeGrandmaster ≠ normalizeGrandmaster sdp.ptpMasterMAC then
    .error ("PTP grandmaster ".toList ++ sdp.ptpMasterMAC ++
      " differs from the one every current stream uses (".toList ++ s.activeGrandmaster ++
      ") ".toList ++ CompatibilityProfile.dash ++
      " streams on different grandmasters drift against each other".toList)
  else .ok ()

/-- `StreamManager::canAddStream`; the text is why not. -/
def canAddStream (isLocked : Int32 → Bool) (sdp : SDPSession) (isTransmit : Bool) :
    Except Text Unit := do
  s.validateSampleRate sdp
  s.validateChannelAvailability sdp.numChannels
  validatePacketBudget sdp
  validateNetworkConfig sdp
  let profile := CompatibilityProfile.forKind s.profileKind
  profile.validate sdp isTransmit
  s.validateTotalChannels profile sdp isTransmit
  s.validateUsableChannels sdp isTransmit
  s.validateLock isLocked sdp
  s.validateGrandmaster sdp

/-! ### Streams come and go -/

def adoptGrandmaster (grandmaster : Text) : StreamManager :=
  if grandmaster ≠ [] ∧ s.activeGrandmaster = [] then { s with activeGrandmaster := grandmaster }
  else s

/-- `recomputeActiveGrandmaster`: the first of the streams left to declare one. -/
def recomputeActiveGrandmaster : StreamManager :=
  { s with activeGrandmaster :=
      ((s.streams.values.map fun managed => managed.sdp.ptpMasterMAC).find? (· ≠ [])).getD [] }

/-- The channels of a direction in use, changed. -/
def countChannels (isTransmit : Bool) (change : UInt32 → UInt32) : StreamManager :=
  if isTransmit then { s with txChannelsInUse := change s.txChannelsInUse }
  else { s with rxChannelsInUse := change s.rxChannelsInUse }

/-- What `addStream`, `createTxStream` and `loadSavedStreams` do once a stream is let in: reserve
its channels, create its RTP object, start it where IO is active, and keep it. -/
def enlist (sdp : SDPSession) (mapping : ChannelMapping) (isTransmit : Bool) (sourcePort : UInt16)
    (opens : Bool) : StreamManager × Bool :=
  match s.mapper.addMapping mapping with
  | (_, false) => (s, false)
  | (mapper, true) =>
    let rtp : Rtp := { sdp := sdp, mapping := mapping }
    let (rtp, started) := if s.ioActive then rtp.start opens else (rtp, true)
    if !started then ({ s with mapper := (mapper.removeMapping mapping.streamID).1 }, false)
    else
      let managed : ManagedStream := { sdp, mapping, rtp, isTransmit, sourcePort }
      let s := { s with mapper := mapper, streams := s.streams.insert mapping.streamID managed }
      let s := s.countChannels isTransmit (· + sdp.numChannels.toUInt32)
      (s.adoptGrandmaster sdp.ptpMasterMAC, true)

/-- `addStream` with a mapping; a null identifier where it fails. -/
def addStreamWith (isLocked : Int32 → Bool) (sdp : SDPSession) (mapping : ChannelMapping)
    (generated : StreamID) (opens : Bool) : StreamManager × StreamID :=
  match s.canAddStream isLocked sdp false with
  | .error _ => (s, .null)
  | .ok _ =>
    if (s.streams.find? generated).isSome then (s, .null)
    else
      let completeMapping := { mapping with
        streamID := generated, streamName := sdp.sessionName,
        streamChannelCount := sdp.numChannels.toNat, deviceChannelCount := sdp.numChannels.toNat }
      match s.enlist sdp completeMapping false 0 opens with
      | (s, false) => (s, .null)
      | (s, true) => (s, generated)

/-- `addStream`, which takes the first free block. -/
def addStream (isLocked : Int32 → Bool) (sdp : SDPSession) (generated : StreamID)
    (opens : Bool) : StreamManager × StreamID :=
  match s.mapper.createDefaultMapping .null sdp.sessionName sdp.numChannels.toNat with
  | none => (s, .null)
  | some mapping => s.addStreamWith isLocked sdp mapping generated opens

def removeStream (id : StreamID) : StreamManager × Bool :=
  match s.streams.find? id with
  | none => (s, false)
  | some managed =>
    let s := { s with mapper := (s.mapper.removeMapping id).1 }
    let s := s.countChannels managed.isTransmit (· - managed.sdp.numChannels.toUInt32)
    let s := { s with streams := s.streams.erase id }
    (s.recomputeActiveGrandmaster, true)

def removeAllStreams : StreamManager :=
  recomputeActiveGrandmaster { s with
    streams := .empty, mapper := s.mapper.clearAll, rxChannelsInUse := 0, txChannelsInUse := 0 }

/-! ### Transmit streams -/

/-- `createTxStream`. Unlike `addStream` it does not look whether the identifier is taken. -/
def createTxStream (env : Env) (name multicastIP : Text) (port numChannels : UInt16)
    (mapping : ChannelMapping) (sourcePort : UInt16) (dscp : Int32) (generated : StreamID)
    (opens : Bool) : StreamManager × StreamID :=
  let sdp := announcedTxSession name multicastIP port numChannels
    (castUInt32 s.currentDeviceSampleRate) dscp env.time
  match s.canAddStream env.isLocked sdp true with
  | .error _ => (s, .null)
  | .ok _ =>
    let completeMapping := { mapping with
      streamID := generated, streamName := name,
      streamChannelCount := numChannels.toNat, deviceChannelCount := numChannels.toNat }
    match s.enlist sdp completeMapping true sourcePort opens with
    | (s, false) => (s, .null)
    | (s, true) => (s, generated)

/-- `advanceLastOctet`: nothing where the octet would overrun, or is not one. -/
def advanceLastOctet (ip : Text) (offset : ℕ) : Option Text :=
  let lastPart := (ip.reverse.takeWhile (· ≠ '.')).reverse
  if '.' ∉ ip ∨ lastPart = [] then none
  else if ¬ lastPart.all Char.isDigit ∨ lastPart.length > 3 then none
  else
    let base := Nat.ofDigitChars 10 lastPart 0
    if base > 255 ∨ base + offset > 255 then none
    else some (ip.take (ip.length - lastPart.length) ++ showNat (base + offset))

def kMaxChannelsPerFlow : UInt16 := 64

/-- The widest flow: what a frame holds at the device's rate and 1 ms, and the profile allows. -/
def channelsPerFlow (profile : CompatibilityProfile) : UInt16 :=
  let framesAtOneMs := PacketBudget.framesPerPacket (castUInt32 s.currentDeviceSampleRate) 1000 0
  let budgetPerFlow := PacketBudget.maxChannelsPerPacket
    (PacketBudget.bytesPerSample "L24".toList) framesAtOneMs
  max 1 (min kMaxChannelsPerFlow (min profile.maxChannelsPerFlow budgetPerFlow))

/-- The address and the source port of a flow, nothing where it runs out of them. -/
def flowAddress (profile : CompatibilityProfile) (baseMulticastIP : Text) (port : UInt16)
    (flow : ℕ) : Option (Text × UInt16) :=
  if profile.useFixedMulticastWithPerFlowSourcePort then
    let candidate := port.toUInt32 + 1 + s.txFlowPortOffset + .ofNat flow
    if candidate > 0xFFFF then none else some (baseMulticastIP, candidate.toUInt16)
  else (advanceLastOctet baseMulticastIP flow).map (·, 0)

def flowMapping (mapping : ChannelMapping) (kPerFlow flow flowChannels : ℕ) : ChannelMapping :=
  { mapping with
    deviceChannelStart := (mapping.deviceChannelStart + flow * kPerFlow) % 2 ^ 16
    streamChannelCount := flowChannels
    deviceChannelCount := flowChannels
    routes := [] }

def flowName (baseName : Text) (flow flowCount : ℕ) : Text :=
  if flowCount = 1 then baseName
  else baseName ++ " (flow ".toList ++ showNat (flow + 1) ++ "/".toList ++ showNat flowCount ++
    ")".toList

/-- The streams of a group taken out again. -/
def rollBack (created : List StreamID) : StreamManager :=
  created.foldl (fun s id => (s.removeStream id).1) s

/-- What `createTxStreamFlows` was asked for. -/
structure FlowRequest where
  baseName : Text
  baseMulticastIP : Text
  port : UInt16
  numChannels : UInt16
  mapping : ChannelMapping
  dscp : Int32 := -1

/-- The loop of `createTxStreamFlows` over the flows still to create. -/
def createFlows (env : Env) (request : FlowRequest) (kPerFlow flowCount : ℕ) :
    List ℕ → StreamManager → List StreamID → StreamManager × List StreamID
  | [], s, created => (s, created)
  | flow :: flows, s, created =>
    match s.flowAddress (.forKind s.profileKind) request.baseMulticastIP request.port flow with
    | none => (s.rollBack created, [])
    | some (flowIP, flowSourcePort) =>
      let flowChannels := min (request.numChannels.toNat - flow * kPerFlow) kPerFlow
      match s.createTxStream env (flowName request.baseName flow flowCount) flowIP request.port
          (.ofNat flowChannels) (flowMapping request.mapping kPerFlow flow flowChannels)
          flowSourcePort request.dscp (env.generated flow) (env.opens flow) with
      | (s, id) =>
        if id.isNull then (s.rollBack created, [])
        else createFlows env request kPerFlow flowCount flows s (created ++ [id])

/-- `createTxStreamFlows`. -/
def createTxStreamFlows (env : Env) (request : FlowRequest) : StreamManager × List StreamID :=
  let kPerFlow := (s.channelsPerFlow (.forKind s.profileKind)).toNat
  let flowCount := (request.numChannels.toNat + kPerFlow - 1) / kPerFlow
  if request.numChannels = 0 then (s, [])
  else createFlows env request kPerFlow flowCount (List.range flowCount) s []

/-! ### Mappings -/

/-- The mapping `updateMapping` makes of the one it is given. -/
def completed (id : StreamID) (managed : ManagedStream) (newMapping : ChannelMapping) :
    ChannelMapping :=
  { newMapping with
    streamID := id
    streamName := managed.mapping.streamName
    streamChannelCount := managed.sdp.numChannels.toNat }

/-- `StreamManager::updateMapping`. -/
def updateMapping (id : StreamID) (newMapping : ChannelMapping) (opens : Bool) :
    StreamManager × Bool :=
  match s.streams.find? id with
  | none => (s, false)
  | some managed =>
    let oldMapping := managed.mapping
    let completeMapping := completed id managed newMapping
    match s.mapper.updateMapping completeMapping with
    | (_, false) => (s, false)
    | (mapper, true) =>
      match managed.rtp.updateMapping completeMapping opens with
      | (rtp, false) =>
        ({ s with
          mapper := (mapper.updateMapping oldMapping).1
          streams := s.streams.insert id { managed with rtp := rtp } }, false)
      | (rtp, true) =>
        ({ s with
          mapper := mapper
          streams := s.streams.insert id
            { managed with rtp := rtp, mapping := completeMapping } }, true)

/-! ### Following a source -/

inductive SinkFollowDecision
  | notBound
  | unchanged
  | channelCountChanged
  | follow
  deriving DecidableEq

inductive RepointTrigger
  | announcement
  | controller
  deriving DecidableEq

def evaluateSinkFollow (stored announced : SDPSession) : SinkFollowDecision :=
  if announced.sessionName = [] ∨ stored.sessionName ≠ announced.sessionName then .notBound
  else if stored.originAddress = [] ∨ announced.originAddress = [] ∨
      stored.originAddress ≠ announced.originAddress then .notBound
  else if stored.sourceAddress ≠ [] ∧ announced.sourceAddress ≠ [] ∧
      stored.sourceAddress ≠ announced.sourceAddress then .notBound
  else if ¬ (stored.connectionAddress ≠ announced.connectionAddress ∨
      stored.port ≠ announced.port ∨ stored.payloadType ≠ announced.payloadType ∨
      stored.encoding ≠ announced.encoding ∨ stored.sampleRate ≠ announced.sampleRate ∨
      stored.ptimeUs ≠ announced.ptimeUs ∨ stored.framecount ≠ announced.framecount) then
    .unchanged
  else if stored.numChannels ≠ announced.numChannels then .channelCountChanged
  else .follow

/-- A sink about to be taken to where its source went. -/
structure Repoint where
  id : StreamID
  deviceChannelStart : ℕ
  newSdp : SDPSession

/-- The sinks bound to an announced source. -/
def matching (announced : SDPSession) : List Repoint :=
  s.streams.entries.filterMap fun (id, managed) =>
    if managed.isTransmit then none
    else if evaluateSinkFollow managed.sdp announced = .follow then
      some ⟨id, managed.mapping.deviceChannelStart,
        { announced with sessionName := managed.sdp.sessionName }⟩
    else none

/-- The second phase of following: each sink removed and added again, with how many came back. -/
def repoint (env : Env) : List (Repoint × ℕ) → StreamManager → ℕ → StreamManager × ℕ
  | [], s, followed => (s, followed)
  | (p, k) :: pending, s, followed =>
    match s.removeStream p.id with
    | (s, false) => repoint env pending s followed
    | (s, true) =>
      let newMapping : ChannelMapping :=
        { streamName := p.newSdp.sessionName
          streamChannelCount := p.newSdp.numChannels.toNat
          deviceChannelStart := p.deviceChannelStart
          deviceChannelCount := p.newSdp.numChannels.toNat }
      match s.addStreamWith env.isLocked p.newSdp newMapping (env.generated k) (env.opens k) with
      | (s, newId) => repoint env pending s (if newId.isNull then followed else followed + 1)

/-- `updateReceiveStreamsFromAnnouncement`. -/
def updateReceiveStreamsFromAnnouncement (env : Env) (announced : SDPSession)
    (trigger : RepointTrigger) : StreamManager × ℕ :=
  if trigger = .announcement ∧ !s.autoSinkFollowEnabled then (s, 0)
  else if announced.sessionName = [] then (s, 0)
  else repoint env (s.matching announced).zipIdx s 0

/-! ### A restart -/

/-- One saved stream taken back, with whether it was. Whatever it is, it is let in as a receive
stream. -/
def loadStream (env : Env) (config : PersistedStreamConfig) (opens : Bool) :
    StreamManager × Bool :=
  if !config.enabled then (s, false)
  else if !config.isValid then (s, false)
  else match s.canAddStream env.isLocked config.sdp false with
    | .error _ => (s, false)
    | .ok _ =>
      if (s.streams.find? config.mapping.streamID).isSome then (s, false)
      else s.enlist config.sdp config.mapping config.isTransmit 0 opens

/-- `loadSavedStreams`, on what the file holds. -/
def loadSavedStreams (env : Env) (configs : Option (List PersistedStreamConfig)) :
    StreamManager :=
  match configs with
  | none => s
  | some configs => configs.zipIdx.foldl (fun s c => (s.loadStream env c.1 (env.opens c.2)).1) s

/-- `loadedCount` of `loadSavedStreams`, from where these saved streams are left. -/
def loadedCount (env : Env) : List (PersistedStreamConfig × ℕ) → StreamManager → ℕ
  | [], _ => 0
  | (config, k) :: configs, s =>
    match s.loadStream env config (env.opens k) with
    | (s, loaded) => loadedCount env configs s + if loaded then 1 else 0

/-- What `loadSavedStreams` returns: whether it took any stream back. -/
def loadedSavedStreams (env : Env) (configs : Option (List PersistedStreamConfig)) : Bool :=
  0 < loadedCount env (configs.getD []).zipIdx s

/-- The configuration `saveAllStreams` makes of a stream. The description a stream was opened with
is that of its session. -/
def savedStream (managed : ManagedStream) (now : UInt64) : PersistedStreamConfig :=
  { StreamConfigManager.createConfig managed.sdp managed.mapping managed.sdp.sessionInfo now with
    isTransmit := managed.isTransmit }

/-- The configurations it writes; `now` is the time when a stream's turn comes. -/
def savedStreams (now : StreamID → UInt64) : List PersistedStreamConfig :=
  s.streams.entries.map fun e => savedStream e.2 (now e.1)

/-- `saveAllStreams`: the text of the file. -/
def saveAllStreams (now : StreamID → UInt64) : Text :=
  StreamConfigManager.toJSON (s.savedStreams now)

/-! ### Device state -/

/-- `setIOActive`; `opens` is whether the socket of a stream opens. -/
def setIOActive (active : Bool) (opens : StreamID → Bool) : StreamManager :=
  if s.ioActive = active then s
  else { s with
    ioActive := active
    streams := s.streams.mapWithKey fun id managed =>
      { managed with rtp := if active then (managed.rtp.start (opens id)).1 else managed.rtp.stop } }

/-- `setDeviceSampleRate`. -/
def setDeviceSampleRate (sampleRate : Double) : StreamManager × Bool :=
  if rateOutOfRange sampleRate then (s, false)
  else if s.streams.values.all fun managed => ratesAgree managed.sdp.sampleRate sampleRate then
    ({ s with currentDeviceSampleRate := sampleRate }, true)
  else (s, false)

end StreamManager

/-! ## Runs -/

namespace StreamManager

/-- Everything that changes the manager. -/
inductive Op
  | addStream (env : Env) (sdp : SDPSession)
  | addStreamWith (env : Env) (sdp : SDPSession) (mapping : ChannelMapping)
  | createTxStream (env : Env) (name multicastIP : Text) (port numChannels : UInt16)
      (mapping : ChannelMapping) (sourcePort : UInt16) (dscp : Int32)
  | createTxStreamFlows (env : Env) (request : FlowRequest)
  | updateMapping (env : Env) (id : StreamID) (newMapping : ChannelMapping)
  | removeStream (id : StreamID)
  | removeAllStreams
  | loadSavedStreams (env : Env) (configs : Option (List PersistedStreamConfig))
  | updateReceiveStreamsFromAnnouncement (env : Env) (announced : SDPSession)
      (trigger : RepointTrigger)
  | setIOActive (active : Bool) (opens : StreamID → Bool)
  | setDeviceSampleRate (sampleRate : Double)
  | setCompatibilityProfile (kind : CompatibilityProfileKind)
  | setUsableChannelCount (count : ℕ)
  | setUsableTxChannelCount (count : ℕ)
  | setTxFlowPortOffset (flows : UInt32)
  | setAutoSinkFollow (enabled : Bool)
  | setPTPEnabled (enabled : Bool)
  | setRequirePTPLock (require : Bool)
  | setIgnoreRefClockMismatch (ignore : Bool)

/-- The manager after one of these. -/
def step (s : StreamManager) : Op → StreamManager
  | .addStream env sdp => (s.addStream env.isLocked sdp (env.generated 0) (env.opens 0)).1
  | .addStreamWith env sdp mapping =>
    (s.addStreamWith env.isLocked sdp mapping (env.generated 0) (env.opens 0)).1
  | .createTxStream env name multicastIP port numChannels mapping sourcePort dscp =>
    (s.createTxStream env name multicastIP port numChannels mapping sourcePort dscp
      (env.generated 0) (env.opens 0)).1
  | .createTxStreamFlows env request => (s.createTxStreamFlows env request).1
  | .updateMapping env id newMapping => (s.updateMapping id newMapping (env.opens 0)).1
  | .removeStream id => (s.removeStream id).1
  | .removeAllStreams => s.removeAllStreams
  | .loadSavedStreams env configs => s.loadSavedStreams env configs
  | .updateReceiveStreamsFromAnnouncement env announced trigger =>
    (s.updateReceiveStreamsFromAnnouncement env announced trigger).1
  | .setIOActive active opens => s.setIOActive active opens
  | .setDeviceSampleRate sampleRate => (s.setDeviceSampleRate sampleRate).1
  | .setCompatibilityProfile kind => { s with profileKind := kind }
  | .setUsableChannelCount count =>
    { s with
      mapper := s.mapper.setUsableChannelCount count
      usableRxChannelCount := .ofNat count }
  | .setUsableTxChannelCount count => { s with usableTxChannelCount := .ofNat count }
  | .setTxFlowPortOffset flows => { s with txFlowPortOffset := flows }
  | .setAutoSinkFollow enabled => { s with autoSinkFollowEnabled := enabled }
  | .setPTPEnabled enabled => { s with ptpEnabled := enabled }
  | .setRequirePTPLock required => { s with requirePTPLock := required }
  | .setIgnoreRefClockMismatch ignore => { s with ignoreRefClockMismatch := ignore }

end StreamManager

end Aes67
