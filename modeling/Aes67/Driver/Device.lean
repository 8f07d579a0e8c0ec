import Aes67.Manager.Model
import Aes67.Nmos.ConnectionServer

/-!
# The device

The model of `AES67Device` as far as it decides about streams: the sample rate it keeps beside the
manager's, whether IO runs, and the requests of IS-05, which it carries out on the manager. It
remembers the senders that a controller stopped, since the manager forgets them.

* `StreamManager.getActiveStreams` and the other listings the device reads;
* `AES67Device`: `SetSampleRate`, `StartIOImpl`, `StopIOImpl`, `applySenderConnectionPatch`,
  `applyConnectionPatch`, and the two listers;
* `AES67Device.Op`, `AES67Device.step`: everything that changes the device; `Initialize`.
-/

namespace Aes67

open Sdp (SDPSession)
open Nmos (ConnectionPatch ConnectionSender ConnectionReceiver)

/-- `SDPParser::nameOwnSource`. A first number too long for an `int` is one that no stream has. -/
def nameOwnSource (session : SDPSession) : SDPSession :=
  let first := session.connectionAddress.takeWhile (· ≠ '.')
  if session.sourceAddress ≠ [] then session
  else if session.originAddress = [] then session
  else if '.' ∉ session.connectionAddress ∨ first = [] then session
  else if ¬ first.all Char.isDigit then session
  else
    let octet := Nat.ofDigitChars 10 first 0
    if octet < 224 ∨ octet > 239 then session
    else { session with sourceAddress := session.originAddress }

/-! ## What the manager lists -/

/-- `StreamInfo`, as far as the device reads it. -/
structure StreamInfo where
  id : StreamID
  name : Text

namespace StreamManager

variable (s : StreamManager)

/-- `getActiveStreams`: a stream is active from when it is kept. -/
def getActiveStreams : List StreamInfo :=
  s.streams.entries.map fun e => ⟨e.1, e.2.sdp.sessionName⟩

/-- The sessions of a direction. -/
def sessions (isTransmit : Bool) : List SDPSession :=
  (s.streams.values.filter fun managed => managed.isTransmit = isTransmit).map ManagedStream.sdp

def getTransmitSessions : List SDPSession := s.sessions true

def getReceiveSessions : List SDPSession := s.sessions false

def getMapping (id : StreamID) : Option ChannelMapping := s.mapper.getMapping id

def getSourcePort (id : StreamID) : Option UInt16 :=
  match s.streams.find? id with
  | some managed => if managed.isTransmit then some managed.sourcePort else none
  | none => none

/-- The first active stream of a name. -/
def activeNamed (name : Text) : Option StreamInfo :=
  s.getActiveStreams.find? fun info => info.name = name

end StreamManager

/-! ## The device -/

/-- A sender that a controller stopped. -/
structure StoppedSender where
  sdp : SDPSession
  mapping : ChannelMapping := {}
  sourcePort : UInt16 := 0

structure AES67Device where
  streamManager : StreamManager := {}
  currentSampleRate : Double := .fin 48000
  ioRunning : Bool := false
  nmosNodeId : Text := []
  stoppedSenders : OrdMap Text StoppedSender := .empty
  receiverSenderIds : OrdMap Text Text := .empty

namespace AES67Device

def kSupportedSampleRates : List ℚ :=
  [44100, 48000, 88200, 96000, 176400, 192000, 352800, 384000]

def kSpareReceiverCount : ℕ := 4

/-- `spareReceiverName`. -/
def spareReceiverName (index : ℕ) : Text := "Free receiver ".toList ++ showNat (index + 1)

/-- A rate that is, but for a tenth of a hertz, one of the device's. -/
def isSupportedRate : Double → Bool
  | .fin q => kSupportedSampleRates.any fun validRate => |q - validRate| < round64 (1 / 10)
  | _ => false

/-! ### Rate and IO -/

/-- What `SetSampleRate` answers. -/
inductive OSStatus
  | noError
  | unsupportedOperation
  | badObject
  deriving DecidableEq

/-- `SetSampleRate`. What the manager answers is not looked at. -/
def SetSampleRate (d : AES67Device) (sampleRate : Double) : AES67Device × OSStatus :=
  if !isSupportedRate sampleRate then (d, .unsupportedOperation)
  else if d.ioRunning then (d, .badObject)
  else
    let d := { d with currentSampleRate := sampleRate }
    ({ d with streamManager := (d.streamManager.setDeviceSampleRate sampleRate).1 }, .noError)

/-- `StartIOImpl`; `opens` is whether the socket of a stream opens. -/
def StartIOImpl (d : AES67Device) (startCount : UInt32) (opens : StreamID → Bool) : AES67Device :=
  if startCount = 0 then
    { d with ioRunning := true, streamManager := d.streamManager.setIOActive true opens }
  else d

/-- `StopIOImpl`. -/
def StopIOImpl (d : AES67Device) (startCount : UInt32) : AES67Device :=
  if startCount = 0 then
    { d with
      streamManager := d.streamManager.setIOActive false fun _ => false
      ioRunning := false }
  else d

/-! ### Senders

`deriveId` is `NMOSRegistrationClient::deriveId`, a digest of its two arguments. -/

variable (deriveId : Text → Text → Text) (d : AES67Device)

/-- `nmosIdFor`. -/
def nmosIdFor (kind : String) (name : Text) : Text :=
  if d.nmosNodeId = [] then [] else deriveId d.nmosNodeId (kind.toList ++ ':' :: name)

/-- A sender as `connectionSenders` lists it, at the time `now`. -/
def listedSender (now : UInt64) (sdp : SDPSession) : ConnectionSender :=
  let sdp := nameOwnSource sdp
  { id := d.nmosIdFor deriveId "sender" sdp.sessionName
    label := sdp.sessionName
    multicastAddress := sdp.connectionAddress
    port := sdp.port
    sourceAddress := sdp.originAddress
    sdp := Sdp.generate now sdp }

/-- `connectionSenders`. -/
def connectionSenders (now : UInt64) : List ConnectionSender :=
  d.streamManager.getTransmitSessions.map (d.listedSender deriveId now)

/-- The running session that a sender's identifier names. -/
def runningSender (senderId : Text) : Option SDPSession :=
  d.streamManager.getTransmitSessions.find? fun sdp =>
    d.nmosIdFor deriveId "sender" sdp.sessionName = senderId

/-- The session that a sender's identifier names, and what is remembered of it where it was
stopped. -/
def senderNamed (senderId : Text) : Option (SDPSession × Option StoppedSender) :=
  match d.runningSender deriveId senderId with
  | some sdp => some (sdp, none)
  | none => (d.stoppedSenders.find? senderId).map fun stopped => (stopped.sdp, some stopped)

/-- Where a sender is to transmit, nothing where the transport file cannot be read. -/
def destination (current : SDPSession) (patch : ConnectionPatch) : Option (Text × UInt16) :=
  let described : Option (Text × UInt16) := match patch.transportFile with
    | none => some (current.connectionAddress, current.port)
    | some file => (Sdp.parseString file).map fun parsed =>
      (if parsed.connectionAddress = [] then current.connectionAddress
        else parsed.connectionAddress,
        if parsed.port = 0 then current.port else parsed.port)
  described.map fun (address, port) =>
    (match patch.multicastAddress with
      | some given => if given = [] then address else given
      | none => address,
      patch.port.getD port)

/-- A sender is stopped: the stream that runs under its name is remembered and taken out. -/
def stopSender (senderId : Text) (current : SDPSession) : AES67Device × Bool :=
  match d.streamManager.activeNamed current.sessionName with
  | none => (d, true)
  | some running =>
    let stopped : StoppedSender :=
      { sdp := current
        mapping := (d.streamManager.getMapping running.id).getD {}
        sourcePort := (d.streamManager.getSourcePort running.id).getD 0 }
    let (manager, removed) := d.streamManager.removeStream running.id
    ({ d with
      stoppedSenders := d.stoppedSenders.insert senderId stopped
      streamManager := manager }, removed)

/-- A running sender is taken to where it is to transmit: its stream is taken out and another
opened. -/
def readdressSender (env : Env) (current : SDPSession) (address : Text) (port : UInt16) :
    AES67Device × Bool :=
  match d.streamManager.activeNamed current.sessionName with
  | none => (d, false)
  | some running =>
    match d.streamManager.getMapping running.id with
    | none => (d, false)
    | some wantedMapping =>
      let sourcePort := (d.streamManager.getSourcePort running.id).getD 0
      match d.streamManager.removeStream running.id with
      | (_, false) => (d, false)
      | (manager, true) =>
        let (manager, createdId) := manager.createTxStream env current.sessionName address port
          current.numChannels wantedMapping sourcePort (-1) (env.generated 0) (env.opens 0)
        ({ d with streamManager := manager }, !createdId.isNull)

/-- A stopped sender is opened again. -/
def restartSender (env : Env) (senderId : Text) (stopped : StoppedSender) (address : Text)
    (port : UInt16) : AES67Device × Bool :=
  let (manager, createdId) := d.streamManager.createTxStream env stopped.sdp.sessionName address
    port stopped.sdp.numChannels stopped.mapping stopped.sourcePort (-1) (env.generated 0)
    (env.opens 0)
  if createdId.isNull then ({ d with streamManager := manager }, false)
  else ({ d with
    streamManager := manager
    stoppedSenders := d.stoppedSenders.erase senderId }, true)

/-- `applySenderConnectionPatch`. -/
def applySenderConnectionPatch (env : Env) (senderId : Text) (patch : ConnectionPatch) :
    AES67Device × Bool :=
  match d.senderNamed deriveId senderId with
  | none => (d, false)
  | some (current, wasStopped) =>
    if !patch.activateImmediate then (d, false)
    else if patch.masterEnable = some false then d.stopSender senderId current
    else match destination current patch with
      | none => (d, false)
      | some (address, port) =>
        match wasStopped with
        | some stopped => d.restartSender env senderId stopped address port
        | none =>
          if address = current.connectionAddress ∧ port = current.port then (d, true)
          else d.readdressSender env current address port

/-! ### Receivers -/

/-- A receiver that takes a stream, as `connectionReceivers` lists it. -/
def listedReceiver (now : UInt64) (sdp : SDPSession) : ConnectionReceiver :=
  let id := d.nmosIdFor deriveId "receiver" sdp.sessionName
  { id := id
    label := sdp.sessionName
    multicastAddress := sdp.connectionAddress
    port := sdp.port
    sdp := Sdp.generate now sdp
    senderId := (d.receiverSenderIds.find? id).getD [] }

/-- A receiver that is free. -/
def spareReceiver (index : ℕ) : ConnectionReceiver :=
  { id := d.nmosIdFor deriveId "receiver" (spareReceiverName index)
    label := spareReceiverName index
    enabled := false }

/-- `connectionReceivers`. -/
def connectionReceivers (now : UInt64) : List ConnectionReceiver :=
  d.streamManager.getReceiveSessions.map (d.listedReceiver deriveId now) ++
    (List.range kSpareReceiverCount).map (d.spareReceiver deriveId)

/-- `subscribeSpareReceiver`. -/
def subscribeSpareReceiver (env : Env) (receiverId : Text) (patch : ConnectionPatch) :
    AES67Device × Bool :=
  if patch.masterEnable = some false then (d, true)
  else if !patch.activateImmediate then (d, false)
  else match patch.transportFile.bind Sdp.parseString with
    | none => (d, false)
    | some parsed =>
      let wanted := { parsed with
        connectionAddress := match patch.multicastAddress with
          | some given => if given = [] then parsed.connectionAddress else given
          | none => parsed.connectionAddress
        port := patch.port.getD parsed.port }
      let (manager, id) :=
        d.streamManager.addStream env.isLocked wanted (env.generated 0) (env.opens 0)
      if id.isNull then ({ d with streamManager := manager }, false)
      else ({ d with
        streamManager := manager
        receiverSenderIds := match patch.senderId with
          | some senderId => (d.receiverSenderIds.insert
              (d.nmosIdFor deriveId "receiver" wanted.sessionName) senderId).erase receiverId
          | none => d.receiverSenderIds }, true)

/-- The receive session that a receiver's identifier names. -/
def runningReceiver (receiverId : Text) : Option SDPSession :=
  d.streamManager.getReceiveSessions.find? fun sdp =>
    d.nmosIdFor deriveId "receiver" sdp.sessionName = receiverId

/-- A receiver is disconnected. -/
def disconnectReceiver (receiverId : Text) (target : SDPSession) : AES67Device × Bool :=
  let d := { d with receiverSenderIds := d.receiverSenderIds.erase receiverId }
  match d.streamManager.activeNamed target.sessionName with
  | none => (d, true)
  | some running =>
    let (manager, removed) := d.streamManager.removeStream running.id
    ({ d with streamManager := manager }, removed)

/-- What a receiver is to take, nothing where the transport file cannot be read. -/
def wantedSession (target : SDPSession) (patch : ConnectionPatch) : Option SDPSession :=
  let described : Option SDPSession := match patch.transportFile with
    | none => some target
    | some file => (Sdp.parseString file).map fun parsed =>
      { parsed with sessionName := target.sessionName, originAddress := target.originAddress }
  described.map fun wanted => { wanted with
    connectionAddress := match patch.multicastAddress with
      | some given => if given = [] then wanted.connectionAddress else given
      | none => wanted.connectionAddress
    port := patch.port.getD wanted.port }

/-- `applyConnectionPatch`. -/
def applyConnectionPatch (env : Env) (receiverId : Text) (patch : ConnectionPatch) :
    AES67Device × Bool :=
  match d.runningReceiver deriveId receiverId with
  | none =>
    if (List.range kSpareReceiverCount).any fun index =>
        d.nmosIdFor deriveId "receiver" (spareReceiverName index) = receiverId then
      d.subscribeSpareReceiver deriveId env receiverId patch
    else (d, false)
  | some target =>
    if !patch.activateImmediate then (d, false)
    else if patch.masterEnable = some false then d.disconnectReceiver receiverId target
    else match wantedSession target patch with
      | none => (d, false)
      | some wanted =>
        let (manager, followed) :=
          d.streamManager.updateReceiveStreamsFromAnnouncement env wanted .controller
        let repointed := decide (followed > 0)
        ({ d with
          streamManager := manager
          receiverSenderIds := match patch.senderId with
            | some senderId => if repointed ∧ senderId ≠ [] then
                d.receiverSenderIds.insert receiverId senderId else d.receiverSenderIds
            | none => d.receiverSenderIds }, repointed)

/-! ## Runs -/

end AES67Device

/-- The rate and the IO state of the manager are the device's to set. -/
def StreamManager.Op.leavesRateAndIO : StreamManager.Op → Bool
  | .setDeviceSampleRate _ | .setIOActive _ _ => false
  | _ => true

/-- What happens to the manager's streams and options. -/
abbrev StreamOp := {op : StreamManager.Op // op.leavesRateAndIO = true}

namespace AES67Device

/-- Everything that changes the device. -/
inductive Op
  | SetSampleRate (sampleRate : Double)
  | StartIO (startCount : UInt32) (opens : StreamID → Bool)
  | StopIO (startCount : UInt32)
  | onStreams (op : StreamOp)
  | patchSender (env : Env) (senderId : Text) (patch : ConnectionPatch)
  | patchReceiver (env : Env) (receiverId : Text) (patch : ConnectionPatch)

variable (deriveId : Text → Text → Text)

/-- The device after one of these. -/
def step (d : AES67Device) : Op → AES67Device
  | .SetSampleRate sampleRate => (d.SetSampleRate sampleRate).1
  | Op.StartIO startCount opens => d.StartIOImpl startCount opens
  | Op.StopIO startCount => d.StopIOImpl startCount
  | .onStreams op => { d with streamManager := d.streamManager.step op.1 }
  | .patchSender env senderId patch => (d.applySenderConnectionPatch deriveId env senderId patch).1
  | .patchReceiver env receiverId patch => (d.applyConnectionPatch deriveId env receiverId patch).1

/-- What `Initialize` reads from the settings files, and the identity the node has. -/
structure Settings where
  usableRxChannelCount : ℕ := 128
  usableTxChannelCount : ℕ := 128
  profileKind : CompatibilityProfileKind := .aes67
  flowOffset : UInt32 := 0
  requireLock : Bool := false
  ptpEnabled : Bool := false
  nodeId : Text := []
  savedStreams : Option (List PersistedStreamConfig) := none

/-- The stream received where no saved stream was taken back. -/
def testSDP : SDPSession :=
  { sessionName := "Test AES67 Stream".toList
    sessionInfo := "Hard-coded test stream for driver development".toList
    connectionAddress := "239.1.1.1".toList
    numChannels := 8
    framecount := 48
    sessionID := 123456
    sessionVersion := 1
    sourceAddress := "0.0.0.0".toList }

/-- The mapping of the stream sent where no saved stream was taken back. -/
def txMapping : ChannelMapping :=
  { streamChannelCount := 8, deviceChannelStart := 8, deviceChannelCount := 8 }

/-- What `Initialize` sets in the manager before it loads the saved streams. -/
def settingOps (settings : Settings) : List StreamManager.Op :=
  [.setUsableChannelCount settings.usableRxChannelCount,
    .setUsableTxChannelCount settings.usableTxChannelCount,
    .setCompatibilityProfile settings.profileKind,
    .setTxFlowPortOffset settings.flowOffset,
    .setRequirePTPLock settings.requireLock,
    .setPTPEnabled settings.ptpEnabled,
    .setDeviceSampleRate (.fin 48000)]

/-- What `Initialize` does to the manager. The test streams are for one that took no stream back. -/
def initialOps (settings : Settings) (env : ℕ → Env) : List StreamManager.Op :=
  settingOps settings ++ .loadSavedStreams (env 0) settings.savedStreams ::
    if ((settingOps settings).foldl StreamManager.step {}).loadedSavedStreams (env 0)
        settings.savedStreams then []
    else
      [.addStream (env 1) testSDP,
        .createTxStream (env 2) "Test AES67 TX Stream".toList "239.1.1.2".toList 5004 8 txMapping 0
          (-1)]

/-- `Initialize`. -/
def Initialize (settings : Settings) (env : ℕ → Env) : AES67Device where
  streamManager := (initialOps settings env).foldl StreamManager.step {}
  nmosNodeId := settings.nodeId

/-- Surroundings in which each call generates identifiers of its own and every socket opens. -/
def opened (call : ℕ) : Env where
  generated k := ⟨(64 * call + k + 1) % 2 ^ 128, Nat.mod_lt _ (by decide)⟩
  opens _ := true
  time := 0
  isLocked _ := true

end AES67Device

end Aes67
