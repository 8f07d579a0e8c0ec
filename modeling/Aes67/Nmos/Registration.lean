import Aes67.Core.JsonEscape
import Aes67.Core.Types
import Aes67.Lib.RemoteStore
import Aes67.Lib.Run

/-!
# Registering with a registry

The model of `NMOSRegistrationClient::syncResources`: the device and everything under it is posted to
the registry, and what the call before published and this one does not mention is deleted. The
client's one memory of what the registry holds is the list it published last. SHA-1 is a parameter.

* `deriveId`, and the data and bodies of the resources; `resources`: what one call publishes, by type
  and id;
* `postResource`, `deleteResource`, `syncResources`.
-/

namespace Aes67.Nmos

/-! ## Resources -/

/-- `NMOSNodeInfo`, as far as its resources mention it. -/
structure NMOSNodeInfo where
  id : Text
  label : Text := "AES67 macOS Driver".toList
  interfaceName : Text := []

/-- `NMOSSenderResource`. -/
structure NMOSSenderResource where
  name : Text
  description : Text := []
  sampleRate : ℕ := 48000
  channels : ℕ := 2
  encoding : Text := "L24".toList
  masterEnable : Bool := true
  subscribedReceiverId : Text := []

/-- `NMOSReceiverResource`. -/
structure NMOSReceiverResource where
  name : Text
  description : Text := []
  masterEnable : Bool := false
  subscribedSenderId : Text := []

/-- The arguments of one `syncResources`, the version stamped on its resources and what becomes of
its requests. -/
structure Call where
  senders : List NMOSSenderResource
  receivers : List NMOSReceiverResource
  controlHref : Text := []
  versionSeconds : ℤ := 0
  versionNanos : ℤ := 0
  fates : List Fate := []

/-! ## Identifiers -/

/-- Pairs of hex digits as characters. -/
def hexBytes : Text → Text
  | a :: b :: s => Char.ofNat ((hexDigit a).getD 0 * 16 + (hexDigit b).getD 0) :: hexBytes s
  | _ => []

/-- `uuidBytes`. -/
def uuidBytes (text : Text) : Option Text :=
  let hex := text.filter fun c => (hexDigit c).isSome
  if hex.length ≠ 32 then none else some (hexBytes hex)

/-- `uuidText`. -/
def uuidText (bytes : List UInt8) : Text :=
  let piece (start n : ℕ) : Text := ((bytes.drop start).take n).flatMap fun b => StreamID.hexByte b.toNat
  piece 0 4 ++ "-".toList ++ piece 4 2 ++ "-".toList ++ piece 6 2 ++ "-".toList ++ piece 8 2 ++
    "-".toList ++ piece 10 6

variable (CC_SHA1 : Text → List UInt8)

/-- `NMOSRegistrationClient::deriveId`. -/
def deriveId (namespaceUuid name : Text) : Text :=
  let input := (uuidBytes namespaceUuid).getD namespaceUuid ++ name
  let bytes := (CC_SHA1 input).take 16
  uuidText ((bytes.modify 6 fun b => (b &&& 0x0F) ||| 0x50).modify 8
    fun b => (b &&& 0x3F) ||| 0x80)

/-! ## Bodies -/

/-- `wrapResource`. -/
def wrapResource (type : String) (data : Text) : Text :=
  "\x7b\n  \"type\": \"".toList ++ type.toList ++ "\",\n  \"data\": ".toList ++ data ++
    "\n\x7d\n".toList

/-- `versionText`. -/
def versionText (seconds nanos : ℤ) : Text := showInt seconds ++ ":".toList ++ showInt nanos

/-- `jsonStringArray`. -/
def jsonStringArray (values : List Text) : Text :=
  "[".toList ++ (", ".toList).intercalate (values.map fun v => "\"".toList ++ v ++ "\"".toList) ++
    "]".toList

/-- `bindingsJson`. -/
def bindingsJson (interfaceName : Text) : Text :=
  if interfaceName = [] then "[]".toList
  else "[\"".toList ++ jsonEscape interfaceName ++ "\"]".toList

/-- The far end of a subscription. -/
def subscribedJson (id : Text) : Text :=
  if id = [] then "null".toList else "\"".toList ++ jsonEscape id ++ "\"".toList

/-- The opening of every resource, its id and version included. -/
def openingJson (id : Text) (versionSeconds versionNanos : ℤ) (label description : Text) : Text :=
  "\x7b\n    \"id\": \"".toList ++ id ++ "\",\n    \"version\": \"".toList ++
    versionText versionSeconds versionNanos ++ "\",\n    \"label\": \"".toList ++
    jsonEscape label ++ "\",\n    \"description\": \"".toList ++ jsonEscape description ++
    "\",\n    \"tags\": \x7b\x7d,\n".toList

/-- `buildDeviceData`. -/
def buildDeviceData (deviceId nodeId label : Text) (senderIds receiverIds : List Text)
    (controlHref : Text) (versionSeconds versionNanos : ℤ) : Text :=
  openingJson deviceId versionSeconds versionNanos label [] ++
    "    \"type\": \"urn:x-nmos:device:audio\",\n    \"node_id\": \"".toList ++ nodeId ++
    "\",\n    \"senders\": ".toList ++ jsonStringArray senderIds ++
    ",\n    \"receivers\": ".toList ++ jsonStringArray receiverIds ++
    ",\n    \"controls\": ".toList ++
    (if controlHref = [] then "[]".toList
      else "[\x7b \"href\": \"".toList ++ jsonEscape controlHref ++
        "\", \"type\": \"urn:x-nmos:control:sr-ctrl/v1.1\" \x7d]".toList) ++ "\n  \x7d".toList

/-- `buildDeviceBody`. -/
def buildDeviceBody (deviceId nodeId label : Text) (senderIds receiverIds : List Text)
    (controlHref : Text) (versionSeconds versionNanos : ℤ) : Text :=
  wrapResource "device" (buildDeviceData deviceId nodeId label senderIds receiverIds controlHref
    versionSeconds versionNanos)

/-- `buildSourceData`. -/
def buildSourceData (sourceId deviceId : Text) (sender : NMOSSenderResource)
    (versionSeconds versionNanos : ℤ) : Text :=
  let channel (c : ℕ) : Text :=
    "\x7b \"label\": \"Channel ".toList ++ showNat (c + 1) ++ "\" \x7d".toList
  openingJson sourceId versionSeconds versionNanos sender.name sender.description ++
    "    \"caps\": \x7b\x7d,\n    \"device_id\": \"".toList ++ deviceId ++
    "\",\n    \"parents\": [],\n    \"clock_name\": \"clk0\",\n".toList ++
    "    \"format\": \"urn:x-nmos:format:audio\",\n    \"channels\": [".toList ++
    (", ".toList).intercalate ((List.range sender.channels).map channel) ++ "]\n  \x7d".toList

/-- `buildSourceBody`. -/
def buildSourceBody (sourceId deviceId : Text) (sender : NMOSSenderResource)
    (versionSeconds versionNanos : ℤ) : Text :=
  wrapResource "source" (buildSourceData sourceId deviceId sender versionSeconds versionNanos)

/-- `buildFlowData`. -/
def buildFlowData (flowId sourceId deviceId : Text) (sender : NMOSSenderResource)
    (versionSeconds versionNanos : ℤ) : Text :=
  openingJson flowId versionSeconds versionNanos sender.name sender.description ++
    "    \"source_id\": \"".toList ++ sourceId ++ "\",\n    \"device_id\": \"".toList ++ deviceId ++
    "\",\n    \"parents\": [],\n    \"format\": \"urn:x-nmos:format:audio\",\n".toList ++
    "    \"media_type\": \"audio/".toList ++ sender.encoding ++
    "\",\n    \"sample_rate\": \x7b \"numerator\": ".toList ++ showNat sender.sampleRate ++
    ", \"denominator\": 1 \x7d,\n    \"bit_depth\": ".toList ++
    showNat (if sender.encoding = "L16".toList then 16 else 24) ++ "\n  \x7d".toList

/-- `buildFlowBody`. -/
def buildFlowBody (flowId sourceId deviceId : Text) (sender : NMOSSenderResource)
    (versionSeconds versionNanos : ℤ) : Text :=
  wrapResource "flow" (buildFlowData flowId sourceId deviceId sender versionSeconds versionNanos)

/-- `buildSenderData`. -/
def buildSenderData (senderId flowId deviceId : Text) (sender : NMOSSenderResource)
    (versionSeconds versionNanos : ℤ) (interfaceName : Text) : Text :=
  openingJson senderId versionSeconds versionNanos sender.name sender.description ++
    "    \"flow_id\": \"".toList ++ flowId ++ "\",\n    \"device_id\": \"".toList ++ deviceId ++
    "\",\n    \"transport\": \"urn:x-nmos:transport:rtp.mcast\",\n".toList ++
    "    \"interface_bindings\": ".toList ++ bindingsJson interfaceName ++
    ",\n    \"manifest_href\": null,\n    \"subscription\": \x7b \"receiver_id\": ".toList ++
    subscribedJson sender.subscribedReceiverId ++ ", \"active\": ".toList ++
    (if sender.masterEnable then "true" else "false").toList ++ " \x7d\n  \x7d".toList

/-- `buildSenderBody`. -/
def buildSenderBody (senderId flowId deviceId : Text) (sender : NMOSSenderResource)
    (versionSeconds versionNanos : ℤ) (interfaceName : Text) : Text :=
  wrapResource "sender" (buildSenderData senderId flowId deviceId sender versionSeconds versionNanos
    interfaceName)

/-- `buildReceiverData`. -/
def buildReceiverData (receiverId deviceId : Text) (receiver : NMOSReceiverResource)
    (versionSeconds versionNanos : ℤ) (interfaceName : Text) : Text :=
  openingJson receiverId versionSeconds versionNanos receiver.name receiver.description ++
    "    \"device_id\": \"".toList ++ deviceId ++
    "\",\n    \"transport\": \"urn:x-nmos:transport:rtp.mcast\",\n".toList ++
    "    \"interface_bindings\": ".toList ++ bindingsJson interfaceName ++
    ",\n    \"format\": \"urn:x-nmos:format:audio\",\n".toList ++
    "    \"caps\": \x7b \"media_types\": [\"audio/L16\", \"audio/L24\"] \x7d,\n".toList ++
    "    \"subscription\": \x7b \"sender_id\": ".toList ++
    subscribedJson receiver.subscribedSenderId ++ ", \"active\": ".toList ++
    (if receiver.masterEnable then "true" else "false").toList ++ " \x7d\n  \x7d".toList

/-- `buildReceiverBody`. -/
def buildReceiverBody (receiverId deviceId : Text) (receiver : NMOSReceiverResource)
    (versionSeconds versionNanos : ℤ) (interfaceName : Text) : Text :=
  wrapResource "receiver" (buildReceiverData receiverId deviceId receiver versionSeconds versionNanos
    interfaceName)

/-! ## The client -/

/-- A resource as the registry keys it: its type, as paths spell it, and its id. -/
abbrev Key := Text × Text

/-- `NMOSRegistry`. -/
structure NMOSRegistry where
  host : Text
  port : UInt16

/-- `NMOSRegistry::valid`. -/
def NMOSRegistry.valid (registry : NMOSRegistry) : Bool := registry.host ≠ [] ∧ registry.port ≠ 0

/-- `NMOSRegistrationClient`: the node, where it is registered and what it published last. -/
structure NMOSRegistrationClient where
  node : NMOSNodeInfo
  registry : NMOSRegistry
  published : List Key := []

namespace NMOSRegistrationClient

variable (client : NMOSRegistrationClient) (replaces : Bool)

/-- `postResource`. A registry that says it has the resource already is told to forget it first. -/
def postResource (store : RemoteStore Key Text) (key : Key) (body : Text) :
    RemoteStore Key Text × Bool :=
  if !client.registry.valid then (store, false)
  else
    let (store, answer) := store.post key body replaces
    if answer = some 201 then (store, true)
    else if answer = some 200 then
      let (store, again) := (store.delete key).1.post key body replaces
      (store, again = some 201)
    else (store, false)

/-- `deleteResource`. -/
def deleteResource (store : RemoteStore Key Text) (key : Key) : RemoteStore Key Text × Bool :=
  if !client.registry.valid then (store, false)
  else
    let (store, answer) := store.delete key
    (store, answer = some 204 ∨ answer = some 404)

/-- The device. -/
def deviceId : Text := deriveId CC_SHA1 client.node.id "device".toList

/-- What one sender is published as: its source, its flow and itself. -/
def senderResources (call : Call) (sender : NMOSSenderResource) : List (Key × Text) :=
  let id (kind : String) := deriveId CC_SHA1 client.node.id (kind.toList ++ sender.name)
  let deviceId := client.deviceId CC_SHA1
  [(("sources".toList, id "source:"), buildSourceBody (id "source:") deviceId sender
      call.versionSeconds call.versionNanos),
    (("flows".toList, id "flow:"), buildFlowBody (id "flow:") (id "source:") deviceId sender
      call.versionSeconds call.versionNanos),
    (("senders".toList, id "sender:"), buildSenderBody (id "sender:") (id "flow:") deviceId sender
      call.versionSeconds call.versionNanos client.node.interfaceName)]

/-- What one receiver is published as. -/
def receiverResource (call : Call) (receiver : NMOSReceiverResource) : Key × Text :=
  let id := deriveId CC_SHA1 client.node.id ("receiver:".toList ++ receiver.name)
  (("receivers".toList, id), buildReceiverBody id (client.deviceId CC_SHA1) receiver
    call.versionSeconds call.versionNanos client.node.interfaceName)

/-- The resources one call publishes, in the order they are posted. -/
def resources (call : Call) : List (Key × Text) :=
  let deviceId := client.deviceId CC_SHA1
  let ids (kind : String) (names : List Text) :=
    names.map fun name => deriveId CC_SHA1 client.node.id (kind.toList ++ name)
  (("devices".toList, deviceId), buildDeviceBody deviceId client.node.id client.node.label
      (ids "sender:" (call.senders.map NMOSSenderResource.name))
      (ids "receiver:" (call.receivers.map NMOSReceiverResource.name)) call.controlHref
      call.versionSeconds call.versionNanos) ::
    (call.senders.flatMap (client.senderResources CC_SHA1 call) ++
      call.receivers.map (client.receiverResource CC_SHA1 call))

end NMOSRegistrationClient

/-- The client and the registry after one `syncResources`, what the call returned, and whether all it
deleted is gone, which it does not look at. -/
structure Synced where
  client : NMOSRegistrationClient
  store : RemoteStore Key Text
  allAccepted : Bool
  allDeleted : Bool

/-- `NMOSRegistrationClient::syncResources`. -/
def NMOSRegistrationClient.syncResources (replaces : Bool) (client : NMOSRegistrationClient)
    (store : RemoteStore Key Text) (call : Call) : Synced :=
  if client.node.id = [] then ⟨client, store, false, true⟩
  else
    let resources := client.resources CC_SHA1 call
    let (store, allAccepted) := RemoteStore.putAll (client.postResource replaces) false
      { store with fates := call.fates } resources
    let published := resources.map Prod.fst
    let gone := client.published.reverse.filter (· ∉ published)
    let (store, allDeleted) := RemoteStore.removeAll client.deleteResource store gone
    ⟨{ client with published := published }, store, allAccepted, allDeleted⟩

end Aes67.Nmos
