import Aes67.Core.JsonObject
import Aes67.Mapper.Model
import Aes67.Sdp.Model

/-!
# The saved streams

The model of `StreamConfigManager`'s document: the text `streams.json` is written as and the reader
that finds its parts again. The writer nests objects. The reader does not parse: it counts brackets
and braces, strings included, takes the `sdp` and `mapping` blocks by a regular expression, and
looks every field up by name.

* `NetworkUtils`, `isIPv4Address`: what the reader asks about a network interface;
* `PersistedStreamConfig`, and `written`, the fields the document carries;
* `toJSON`, `configToJSON`, `sdpToJSON`, `mappingToJSON`;
* `fromJSON`, `configFromJSON`, `sdpFromJSON`, `mappingFromJSON`;
* `createConfig`: the configuration of a stream about to be saved.
-/

namespace Aes67

open Sdp

/-! ## Network interfaces -/

/-- What the host knows of its interfaces. -/
structure NetworkUtils where
  getInterfaceIP : Text → Text
  getPrimaryEthernetInterface : Text

/-- A field `inet_pton` takes: one to three digits, a byte. -/
def isOctet (field : Text) : Bool :=
  field ≠ [] ∧ field.length ≤ 3 ∧ field.all Char.isDigit ∧ Nat.ofDigitChars 10 field 0 ≤ 255

/-- `inet_pton` for `AF_INET`. -/
def inetPton (str : Text) : Bool :=
  match str.splitOn '.' with
  | [a, b, c, d] => isOctet a && isOctet b && isOctet c && isOctet d
  | _ => false

/-- A field that starts with a zero and goes on. -/
def hasLeadingZero : Text → Bool
  | '0' :: _ :: _ => true
  | _ => false

/-- `NetworkUtils::isIPv4Address`. The octal form is refused here, the rest by `inet_pton`, which
reads up to a NUL. -/
def isIPv4Address (str : Text) : Bool :=
  !(str.splitOn '.').any hasLeadingZero && inetPton (str.takeWhile (· ≠ '\x00'))

/-- An IPv4 address in decimal. -/
def IPv4Literal (s : Text) : Prop := ∃ a b c d, a < 256 ∧ b < 256 ∧ c < 256 ∧ d < 256 ∧
  s = showNat a ++ '.' :: (showNat b ++ '.' :: (showNat c ++ '.' :: showNat d))

/-- `NetworkUtils::resolveInterfaceToIP`. -/
def NetworkUtils.resolveInterfaceToIP (network : NetworkUtils) (interfaceSpec : Text) : Text :=
  if interfaceSpec = [] then
    if network.getPrimaryEthernetInterface = [] then []
    else network.getInterfaceIP network.getPrimaryEthernetInterface
  else if isIPv4Address interfaceSpec then interfaceSpec
  else network.getInterfaceIP interfaceSpec

/-! ## Configurations -/

/-- `PersistedStreamConfig`. -/
structure PersistedStreamConfig where
  sdp : SDPSession := {}
  mapping : ChannelMapping := {}
  enabled : Bool := true
  isTransmit : Bool := false
  description : Text := []
  createdTimestamp : UInt64 := 0
  modifiedTimestamp : UInt64 := 0
  jitterBufferDepth : UInt64 := 0
  networkInterface : Text := []
  deriving DecidableEq

/-- `PersistedStreamConfig::isValid`. -/
def PersistedStreamConfig.isValid (config : PersistedStreamConfig) : Bool :=
  config.sdp.isValid && config.mapping.isValid

/-- The session with the fields `sdpToJSON` writes, the others at their defaults. -/
def Sdp.SDPSession.written (sdp : SDPSession) : SDPSession where
  sessionName := sdp.sessionName
  sessionInfo := sdp.sessionInfo
  sessionID := sdp.sessionID
  sessionVersion := sdp.sessionVersion
  originUsername := sdp.originUsername
  originAddress := sdp.originAddress
  connectionAddress := sdp.connectionAddress
  ttl := sdp.ttl
  port := sdp.port
  payloadType := sdp.payloadType
  encoding := sdp.encoding
  sampleRate := sdp.sampleRate
  numChannels := sdp.numChannels
  ptimeUs := sdp.ptimeUs
  framecount := sdp.framecount
  sourceAddress := sdp.sourceAddress
  ptpDomain := sdp.ptpDomain
  ptpMasterMAC := sdp.ptpMasterMAC
  mediaClockType := sdp.mediaClockType
  direction := sdp.direction

/-- The configuration with the fields `toJSON` writes. -/
def PersistedStreamConfig.written (config : PersistedStreamConfig) : PersistedStreamConfig :=
  { config with sdp := config.sdp.written }

namespace StreamConfigManager

/-! ## Writing -/

/-- The fields of `sdpToJSON`. -/
def sdpEntries (sdp : SDPSession) : List (Text × Text) :=
  [("sessionName".toList, quote sdp.sessionName),
    ("sessionInfo".toList, quote sdp.sessionInfo),
    ("sessionID".toList, showNat sdp.sessionID.toNat),
    ("sessionVersion".toList, showNat sdp.sessionVersion.toNat),
    ("originUsername".toList, quote sdp.originUsername),
    ("originAddress".toList, quote sdp.originAddress),
    ("connectionAddress".toList, quote sdp.connectionAddress),
    ("ttl".toList, showNat sdp.ttl.toNat),
    ("port".toList, showNat sdp.port.toNat),
    ("payloadType".toList, showNat sdp.payloadType.toNat),
    ("encoding".toList, quote sdp.encoding),
    ("sampleRate".toList, showNat sdp.sampleRate.toNat),
    ("numChannels".toList, showNat sdp.numChannels.toNat),
    ("ptimeUs".toList, showNat sdp.ptimeUs.toNat),
    ("framecount".toList, showNat sdp.framecount.toNat),
    ("sourceAddress".toList, quote sdp.sourceAddress),
    ("ptpDomain".toList, showInt sdp.ptpDomain.toInt),
    ("ptpMasterMAC".toList, quote sdp.ptpMasterMAC),
    ("mediaClockType".toList, quote sdp.mediaClockType),
    ("direction".toList, quote sdp.direction)]

/-- `StreamConfigManager::sdpToJSON`. -/
def sdpToJSON (sdp : SDPSession) : Text := objectJSON 6 (sdpEntries sdp)

/-- The routes, laid out flat: stream channel, device channel, and so on. -/
def routeList (routes : List ChannelRoute) : Text :=
  List.intercalate ", ".toList (routes.map fun route =>
    showNat route.streamChannel ++ ", ".toList ++ showNat route.deviceChannel)

/-- The fields of `mappingToJSON`. The identifier is written without escapes. -/
def mappingEntries (mapping : ChannelMapping) : List (Text × Text) :=
  [("streamID".toList, '"' :: mapping.streamID.toString ++ ['"']),
    ("streamName".toList, quote mapping.streamName),
    ("streamChannelCount".toList, showNat mapping.streamChannelCount),
    ("streamChannelOffset".toList, showNat mapping.streamChannelOffset),
    ("deviceChannelStart".toList, showNat mapping.deviceChannelStart),
    ("deviceChannelCount".toList, showNat mapping.deviceChannelCount),
    ("routes".toList, '[' :: routeList mapping.routes ++ [']'])]

/-- `StreamConfigManager::mappingToJSON`. -/
def mappingToJSON (mapping : ChannelMapping) : Text := objectJSON 6 (mappingEntries mapping)

/-- The fields of `configToJSON`. -/
def configEntries (config : PersistedStreamConfig) : List (Text × Text) :=
  [("enabled".toList, showBool config.enabled),
    ("isTransmit".toList, showBool config.isTransmit),
    ("description".toList, quote config.description),
    ("createdTimestamp".toList, showNat config.createdTimestamp.toNat),
    ("modifiedTimestamp".toList, showNat config.modifiedTimestamp.toNat),
    ("jitterBufferDepth".toList, showNat config.jitterBufferDepth.toNat),
    ("networkInterface".toList, quote config.networkInterface),
    ("sdp".toList, sdpToJSON config.sdp),
    ("mapping".toList, mappingToJSON config.mapping)]

/-- `StreamConfigManager::configToJSON`. -/
def configToJSON (config : PersistedStreamConfig) : Text := objectJSON 4 (configEntries config)

/-- What `toJSON` writes before the bracket of the array. -/
def preamble : Text := "\x7b\n  \"version\": \"1.0\",\n  \"streams\": ".toList

/-- The array `toJSON` writes, between its brackets. -/
def arrayJSON (configs : List PersistedStreamConfig) : Text :=
  '\n' :: List.intercalate ",\n".toList
    (configs.map fun config => "    ".toList ++ configToJSON config) ++ "\n  ".toList

/-- `StreamConfigManager::toJSON`. -/
def toJSON (configs : List PersistedStreamConfig) : Text :=
  preamble ++ '[' :: arrayJSON configs ++ "]\n\x7d".toList

/-! ## Reading -/

/-- The exceptions the reader lets through. -/
inductive Thrown
  | invalidArgument | outOfRange
  deriving DecidableEq

/-- The pattern `\{([^}]+(?:\{[^}]+\})?[^}]*)\}`. The first repetition takes everything up to the
first closing brace, an opening one included, so nothing is left for the part in the middle. -/
def blockValue : Text → Option Text
  | '\x7b' :: s =>
    match s.takeWhile (· ≠ '\x7d') with
    | [] => none
    | block => if '\x7d' ∈ s then some block else none
  | _ => none

/-- The pattern `\[([^\]]*)\]`. -/
def arrayValue : Text → Option Text
  | '[' :: s => if ']' ∈ s then some (s.takeWhile (· ≠ ']')) else none
  | _ => none

/-- `StreamConfigManager::sdpFromJSON`, which never returns nothing. -/
def sdpFromJSON (json : Text) : SDPSession :=
  let sdp : SDPSession := {}
  let string (field : String) (x : Text) : Text :=
    (extractStringField json field.toList).getD x
  let uint64 (field : String) (x : UInt64) : UInt64 :=
    ((extractUInt64Field json field.toList).map UInt64.ofNat).getD x
  let uint32 (field : String) (x : UInt32) : UInt32 :=
    ((extractUInt32Field json field.toList).map UInt32.ofNat).getD x
  let uint16 (field : String) (x : UInt16) : UInt16 :=
    ((extractUInt16Field json field.toList).map UInt16.ofNat).getD x
  let uint8 (field : String) (x : UInt8) : UInt8 :=
    ((extractUInt8Field json field.toList).map UInt8.ofNat).getD x
  { sdp with
    sessionName := string "sessionName" sdp.sessionName
    sessionInfo := string "sessionInfo" sdp.sessionInfo
    sessionID := uint64 "sessionID" sdp.sessionID
    sessionVersion := uint64 "sessionVersion" sdp.sessionVersion
    originUsername := string "originUsername" sdp.originUsername
    originAddress := string "originAddress" sdp.originAddress
    connectionAddress := string "connectionAddress" sdp.connectionAddress
    ttl := uint8 "ttl" sdp.ttl
    port := uint16 "port" sdp.port
    payloadType := uint8 "payloadType" sdp.payloadType
    encoding := string "encoding" sdp.encoding
    sampleRate := uint32 "sampleRate" sdp.sampleRate
    numChannels := uint16 "numChannels" sdp.numChannels
    -- Files from before packet times were kept in microseconds have `ptime`, in milliseconds.
    ptimeUs := match extractUInt32Field json "ptimeUs".toList with
      | some ptimeUs => .ofNat ptimeUs
      | none => match extractUInt32Field json "ptime".toList with
        | some legacyMs => .ofNat legacyMs * 1000
        | none => sdp.ptimeUs
    framecount := uint32 "framecount" sdp.framecount
    sourceAddress := string "sourceAddress" sdp.sourceAddress
    ptpDomain := ((extractIntField json "ptpDomain".toList).map Int32.ofInt).getD sdp.ptpDomain
    ptpMasterMAC := string "ptpMasterMAC" sdp.ptpMasterMAC
    mediaClockType := string "mediaClockType" sdp.mediaClockType
    direction := string "direction" sdp.direction }

/-- The run read so far, where it has a digit. -/
def flushRun (run : Text) : List Text := if run.any Char.isDigit then [run] else []

/-- The matches of `(\d+)`, or of `(-?\d+)` where `signed`, with the run read so far. -/
def numberRuns (signed : Bool) : Text → Text → List Text
  | run, [] => flushRun run
  | run, c :: s =>
    if c.isDigit then numberRuns signed (run ++ [c]) s
    else flushRun run ++ numberRuns signed (if signed ∧ c = '-' then [c] else []) s

/-- `std::stoi` on each match. -/
def stoiAll : List Text → Except Thrown (List ℤ)
  | [] => .ok []
  | run :: runs =>
    match stoi run with
    | none => .error .outOfRange
    | some number => (stoiAll runs).map (number :: ·)

/-- `static_cast<uint16_t>`. -/
def toUInt16 (n : ℤ) : ℕ := (n % 65536).toNat

/-- The routes of a flat list of pairs. The last number of an odd list is dropped. -/
def routesOf : List ℤ → List ChannelRoute
  | streamChannel :: deviceChannel :: numbers =>
    ⟨toUInt16 streamChannel, toUInt16 deviceChannel⟩ :: routesOf numbers
  | _ => []

/-- The routes of the older shape, one device channel for each stream channel in order. -/
def channelMapRoutes : ℕ → List ℤ → List ChannelRoute
  | _, [] => []
  | streamChannel, value :: values =>
    let rest := channelMapRoutes ((streamChannel + 1) % 65536) values
    if value ≥ 0 then ⟨streamChannel, toUInt16 value⟩ :: rest else rest

/-- The routes of a mapping block. -/
def routesFromJSON (json : Text) : Except Thrown (List ChannelRoute) :=
  match searchField "routes".toList arrayValue json with
  | some content => (stoiAll (numberRuns false [] content)).map routesOf
  | none =>
    match searchField "channelMap".toList arrayValue json with
    | some content => (stoiAll (numberRuns true [] content)).map (channelMapRoutes 0)
    | none => .ok []

/-- `StreamConfigManager::mappingFromJSON`, which never returns nothing. -/
def mappingFromJSON (json : Text) : Except Thrown ChannelMapping :=
  let mapping : ChannelMapping := {}
  let uint16 (field : String) (x : ℕ) : ℕ := (extractUInt16Field json field.toList).getD x
  let streamID := match extractStringField json "streamID".toList with
    | some uuid => StreamID.ofText uuid
    | none => some mapping.streamID
  match streamID with
  | none => .error .invalidArgument
  | some streamID =>
    (routesFromJSON json).map fun routes =>
      { streamID := streamID
        streamName := (extractStringField json "streamName".toList).getD mapping.streamName
        streamChannelCount := uint16 "streamChannelCount" mapping.streamChannelCount
        streamChannelOffset := uint16 "streamChannelOffset" mapping.streamChannelOffset
        deviceChannelStart := uint16 "deviceChannelStart" mapping.deviceChannelStart
        deviceChannelCount := uint16 "deviceChannelCount" mapping.deviceChannelCount
        routes := routes }

/-- The interface `configFromJSON` settles on. -/
def interfaceFromJSON (network : NetworkUtils) (json : Text) : Text :=
  match extractStringField json "networkInterface".toList with
  | some ifaceSpec =>
    if ifaceSpec = "auto".toList ∨ ifaceSpec = [] then network.resolveInterfaceToIP []
    else if ¬ isIPv4Address ifaceSpec then
      if network.getInterfaceIP ifaceSpec = [] then ifaceSpec
      else network.getInterfaceIP ifaceSpec
    else ifaceSpec
  | none => network.resolveInterfaceToIP []

/-- The role: what the file says, or else what a file from before it said so implies. -/
def isTransmitFromJSON (json : Text) (sdp : SDPSession) : Bool :=
  match extractBoolField json "isTransmit".toList with
  | some isTransmit => isTransmit
  | none => sdp.direction = "sendonly".toList ∨ sdp.direction = "sendrecv".toList

/-- The session of a stream object. -/
def sdpOf (json : Text) : SDPSession :=
  match searchField "sdp".toList blockValue json with
  | some block => sdpFromJSON ('\x7b' :: block ++ ['\x7d'])
  | none => {}

/-- The mapping of a stream object. -/
def mappingOf (json : Text) : Except Thrown ChannelMapping :=
  match searchField "mapping".toList blockValue json with
  | some block => mappingFromJSON ('\x7b' :: block ++ ['\x7d'])
  | none => .ok {}

/-- `StreamConfigManager::configFromJSON`. -/
def configFromJSON (network : NetworkUtils) (json : Text) :
    Except Thrown (Option PersistedStreamConfig) :=
  let default : PersistedStreamConfig := {}
  let uint64 (field : String) (x : UInt64) : UInt64 :=
    ((extractUInt64Field json field.toList).map UInt64.ofNat).getD x
  (mappingOf json).map fun mapping =>
    let config : PersistedStreamConfig :=
      { sdp := sdpOf json
        mapping := mapping
        enabled := (extractBoolField json "enabled".toList).getD default.enabled
        isTransmit := isTransmitFromJSON json (sdpOf json)
        description := (extractStringField json "description".toList).getD default.description
        createdTimestamp := uint64 "createdTimestamp" default.createdTimestamp
        modifiedTimestamp := uint64 "modifiedTimestamp" default.modifiedTimestamp
        jitterBufferDepth := uint64 "jitterBufferDepth" default.jitterBufferDepth
        networkInterface := interfaceFromJSON network json }
    if config.isValid then some config else none

/-- The objects that read, in order. -/
def readConfigs (network : NetworkUtils) :
    List Text → Except Thrown (List PersistedStreamConfig)
  | [] => .ok []
  | object :: objects =>
    match configFromJSON network object with
    | .error thrown => .error thrown
    | .ok none => readConfigs network objects
    | .ok (some config) => (readConfigs network objects).map (config :: ·)

/-- The part of the document between the brackets of the `streams` array. -/
def streamsContent (json : Text) : Option Text :=
  match cut "\"streams\"".toList json with
  | none => none
  | some (_, rest) =>
    match cut ['['] rest with
    | none => none
    | some (_, rest) => beforeClose '[' ']' 1 rest

/-- `StreamConfigManager::fromJSON`. -/
def fromJSON (network : NetworkUtils) (json : Text) :
    Except Thrown (Option (List PersistedStreamConfig)) :=
  match streamsContent json with
  | none => .ok none
  | some content => (readConfigs network (groups '\x7b' '\x7d' 0 [] content)).map some

/-! ## Configurations made -/

/-- `StreamConfigManager::createConfig`, at the time `now`. -/
def createConfig (sdp : SDPSession) (mapping : ChannelMapping) (description : Text)
    (now : UInt64) : PersistedStreamConfig where
  sdp := sdp
  mapping := mapping
  enabled := true
  description := description
  createdTimestamp := now
  modifiedTimestamp := now

end StreamConfigManager

end Aes67
