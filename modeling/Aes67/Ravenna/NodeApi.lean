import Aes67.Ravenna.Connection
import Aes67.Ravenna.JsonParser
import Aes67.Ravenna.Routing

/-!
# The node

The model of `NodeApi`, the IS-04 API: what the device is made of, built on every read from the
session catalogue and the connections. Each resource carries a version, which is kept while what the
resource says does not change. The hash of the library and the wall clock are parameters.

* `NodeIdentity`, `NodeApi`; `stableUuidFrom` and the ids;
* `Versions.versioned`: the version a resource is given, and `stampAll`;
* `selfResource`, `deviceResource`, `sourceResources`, `flowResources`, `senderResources` and
  `receiverResources`, with `NodeApi.senders` and `NodeApi.receivers`;
* `resourcesInRegistrationOrder`.
-/

namespace Aes67.Ravenna

open Sdp (SDPSession)

/-! ## Writing -/

/-- A JSON object from its members. -/
def jsonObject (members : List (String × Json)) : JsonObject :=
  members.foldl (fun object e => object.insert e.1.toList e.2) .empty

/-- `JsonValue(JsonObject)`. -/
def Json.ofObject (object : JsonObject) : Json := .obj object.entries

/-- A whole number, of either sign. -/
def Json.ofInt (n : ℤ) : Json := .num (.fin n)

def Json.text (s : String) : Json := .str s.toList

/-- A number in hexadecimal, in `width` digits at least. -/
def hexPadded (width n : ℕ) : Text :=
  List.replicate (width - (Nat.toDigits 16 n).length) '0' ++ Nat.toDigits 16 n

/-- `addressText`. -/
def addressText (addressV4 : UInt32) : Text :=
  ['.'].intercalate ([24, 16, 8, 0].map fun shift => showNat (addressV4.toNat / 2 ^ shift % 256))

/-! ## Versions -/

/-- Per resource id the last shape seen and the version stamped on it, and how often the wall clock
has been read. -/
structure Versions where
  known : OrdMap Text (Text × Text) := .empty
  reads : ℕ := 0

namespace Versions

variable (versionNow : ℕ → Text)

/-- What is remembered of a resource: the resource but for its version, and the rest its version
depends on. -/
def shape (resource : JsonObject) (alsoWhenThisChanges : Text) : Text :=
  (Json.ofObject (resource.erase "version".toList)).serialise ++ alsoWhenThisChanges

/-- The id of a resource. -/
def idOf (resource : JsonObject) : Text := ((resource.find? "id".toList).getD .null).asString

/-- What is remembered under an id. -/
def remembered (versions : Versions) (id : Text) : Text × Text :=
  (versions.known.find? id).getD ([], [])

/-- `NodeApi::versioned`. -/
def versioned (versions : Versions) (resource : JsonObject) (alsoWhenThisChanges : Text) :
    Json × Versions :=
  let id := idOf resource
  let serialised := shape resource alsoWhenThisChanges
  if (versions.remembered id).1 ≠ serialised then
    let stamp := versionNow versions.reads
    (.ofObject (resource.insert "version".toList (.str stamp)),
      ⟨versions.known.insert id (serialised, stamp), versions.reads + 1⟩)
  else
    (.ofObject (resource.insert "version".toList (.str (versions.remembered id).2)), versions)

/-- Resources stamped one after another. -/
def stampAll (versions : Versions) : List (JsonObject × Text) → List Json × Versions
  | [] => ([], versions)
  | e :: resources =>
    let (value, versions) := versions.versioned versionNow e.1 e.2
    let (values, versions) := stampAll versions resources
    (value :: values, versions)

end Versions

/-! ## The node -/

/-- `NodeIdentity`. -/
structure NodeIdentity where
  nodeId : Text
  deviceId : Text
  label : Text := "AES67".toList
  description : Text := "AES67 sender and receiver".toList
  hostName : Text := "aes67.local".toList
  addressV4 : UInt32 := 0
  apiPort : UInt16 := 8080
  interfaceName : Text := "eth0".toList
  interfaceMac : Text := "00-00-00-00-00-00".toList
  ptpGrandmaster : Text := []

/-- `NodeApi`, with the catalogue's sessions by name. -/
structure NodeApi where
  identity : NodeIdentity
  catalogue : OrdMap Text SDPSession
  connections : ConnectionApi
  mapping : Option ChannelMappingApi := none
  versions : Versions := {}

section Ids

variable (hash : Text → UInt64)

/-- `stableUuidFrom`. -/
def stableUuidFrom (name : Text) : Text :=
  let high := (hash ("aes67-ravenna/".toList ++ name)).toNat
  let low := (hash (name ++ "/aes67-ravenna".toList)).toNat
  hexPadded 8 (high / 2 ^ 32) ++ '-' :: hexPadded 4 (high / 2 ^ 16 % 2 ^ 16) ++ "-5".toList ++
    hexPadded 3 (high % 2 ^ 12) ++ "-a".toList ++ hexPadded 3 (low / 2 ^ 52 % 2 ^ 12) ++
    '-' :: hexPadded 12 (low % 2 ^ 48)

namespace NodeApi

variable (node : NodeApi)

/-- An id derived from the name of a session. -/
def derivedId (kind : String) (sessionName : Text) : Text :=
  stableUuidFrom hash (node.identity.nodeId ++ kind.toList ++ sessionName)

/-- `NodeApi::senderIdFor`: the id of the sender that has the session's name as its label. -/
def senderIdFor (sessionName : Text) : Text :=
  match node.connections.senders.entries.find? fun e => e.2.label = sessionName with
  | some e => e.1
  | none => node.derivedId hash "/sender/" sessionName

/-- `NodeApi::sourceIdFor`. -/
def sourceIdFor (sessionName : Text) : Text := node.derivedId hash "/source/" sessionName

/-- `NodeApi::flowIdFor`. -/
def flowIdFor (sessionName : Text) : Text := node.derivedId hash "/flow/" sessionName

/-! ## Resources -/

/-- Where the APIs of this device answer. -/
def base : Text :=
  "http://".toList ++ addressText node.identity.addressV4 ++ ":".toList ++
    showNat node.identity.apiPort.toNat

/-- The clock of `NodeApi::self`. -/
def clock : JsonObject :=
  if node.identity.ptpGrandmaster = [] then
    jsonObject [("name", .text "clk0"), ("ref_type", .text "internal")]
  else
    jsonObject [("name", .text "clk0"), ("ref_type", .text "ptp"), ("traceable", .bool false),
      ("version", .text "IEEE1588-2008"),
      ("gmid", .str (node.identity.ptpGrandmaster.map Char.toLower)), ("locked", .bool true)]

/-- What `NodeApi::self` stamps. -/
def selfResource : JsonObject :=
  jsonObject [("id", .str node.identity.nodeId), ("label", .str node.identity.label),
    ("description", .str node.identity.description), ("tags", .obj []),
    ("href", .str (node.base ++ "/".toList)), ("hostname", .str node.identity.hostName),
    ("api", .ofObject (jsonObject [("versions", .arr [.text "v1.3"]),
      ("endpoints", .arr [.ofObject (jsonObject [
        ("host", .str (addressText node.identity.addressV4)),
        ("port", .ofNat node.identity.apiPort.toNat), ("protocol", .text "http"),
        ("authorization", .bool false)])])])),
    ("caps", .obj []), ("services", .arr []), ("clocks", .arr [.ofObject node.clock]),
    ("interfaces", .arr [.ofObject (jsonObject [("name", .str node.identity.interfaceName),
      ("chassis_id", .null), ("port_id", .str node.identity.interfaceMac)])])]

/-- One control of the device. -/
def control (path : Text) (type : String) : Json :=
  .ofObject (jsonObject [("href", .str (node.base ++ path)), ("type", .text type),
    ("authorization", .bool false)])

/-- What `NodeApi::devices` stamps. -/
def deviceResource : JsonObject :=
  jsonObject [("id", .str node.identity.deviceId), ("label", .str node.identity.label),
    ("description", .str node.identity.description), ("tags", .obj []),
    ("type", .text "urn:x-nmos:device:audio"), ("node_id", .str node.identity.nodeId),
    ("senders", .arr (node.catalogue.keys.map fun name => .str (node.senderIdFor hash name))),
    ("receivers", .arr (node.connections.receivers.keys.map .str)),
    ("controls", .arr [
      node.control (ConnectionApi.kConnectionApiRoot ++ "/".toList)
        "urn:x-nmos:control:sr-ctrl/v1.1",
      node.control "/x-nmos/channelmapping/v1.0/".toList "urn:x-nmos:control:cm-ctrl/v1.0"])]

/-- What `NodeApi::sources` stamps for one session. -/
def sourceResource (name : Text) (session : SDPSession) : JsonObject :=
  jsonObject [("id", .str (node.sourceIdFor hash name)), ("label", .str name),
    ("description", .text ""), ("tags", .obj []), ("caps", .obj []),
    ("device_id", .str node.identity.deviceId), ("parents", .arr []), ("clock_name", .text "clk0"),
    ("format", .text "urn:x-nmos:format:audio"),
    ("channels", .arr ((List.range session.numChannels.toNat).map fun i =>
      .ofObject (jsonObject [("label", .str ("Channel ".toList ++ showNat (i + 1)))])))]

/-- What `NodeApi::flows` stamps for one session. -/
def flowResource (name : Text) (session : SDPSession) : JsonObject :=
  jsonObject [("id", .str (node.flowIdFor hash name)), ("label", .str name),
    ("description", .text ""), ("tags", .obj []), ("device_id", .str node.identity.deviceId),
    ("source_id", .str (node.sourceIdFor hash name)), ("parents", .arr []),
    ("format", .text "urn:x-nmos:format:audio"),
    ("media_type", .str ("audio/".toList ++ session.encoding)),
    ("sample_rate", .ofObject (jsonObject [
      ("numerator", .ofInt session.sampleRate.toInt32.toInt), ("denominator", .ofNat 1)])),
    ("bit_depth", .ofNat (if session.encoding = "L16".toList then 16 else 24))]

/-- A subscription as IS-04 reports it: the far end, and whether it is on. -/
def subscription (farEnd : String) (active : Bool) (id : Text) : Json :=
  .ofObject (jsonObject [(farEnd, if active ∧ id ≠ [] then .str id else .null),
    ("active", .bool active)])

/-- What `NodeApi::senders` stamps for one session, and what its version depends on besides. -/
def senderResource (name : Text) : JsonObject × Text :=
  let id := node.senderIdFor hash name
  let connection := node.connections.senders.find? id
  let active := connection.elim false fun sender => sender.active.masterEnable
  (jsonObject [("id", .str id), ("label", .str name), ("description", .text ""), ("tags", .obj []),
    ("device_id", .str node.identity.deviceId), ("flow_id", .str (node.flowIdFor hash name)),
    ("transport", .text "urn:x-nmos:transport:rtp.mcast"),
    ("interface_bindings", .arr [.str node.identity.interfaceName]),
    ("manifest_href", .str (node.base ++ ConnectionApi.kConnectionApiRoot ++
      "/single/senders/".toList ++ id ++ "/transportfile/".toList)),
    ("subscription", subscription "receiver_id" active
      (connection.elim [] fun sender => sender.active.receiverId))],
   connection.elim [] fun sender => sender.active.activationTime)

/-- What `NodeApi::receivers` stamps for one receiver, and what its version depends on besides. -/
def receiverResource (id : Text) (connection : ConnectionReceiver) : JsonObject × Text :=
  (jsonObject [("id", .str id), ("label", .str (if connection.label = [] then id else connection.label)),
    ("description", .text ""), ("tags", .obj []), ("device_id", .str node.identity.deviceId),
    ("transport", .text "urn:x-nmos:transport:rtp.mcast"),
    ("interface_bindings", .arr [.str node.identity.interfaceName]),
    ("format", .text "urn:x-nmos:format:audio"),
    ("caps", .ofObject (jsonObject [
      ("media_types", .arr [.text "audio/L24", .text "audio/L16"])])),
    ("subscription", subscription "sender_id" connection.active.masterEnable
      connection.active.senderId)],
   connection.active.activationTime)

/-! ## Collections -/

/-- The sources, as they are stamped. -/
def sourceResources : List (JsonObject × Text) :=
  node.catalogue.entries.map fun e => (node.sourceResource hash e.1 e.2, [])

/-- The flows, as they are stamped. -/
def flowResources : List (JsonObject × Text) :=
  node.catalogue.entries.map fun e => (node.flowResource hash e.1 e.2, [])

/-- The senders, as they are stamped: one for each session. -/
def senderResources : List (JsonObject × Text) :=
  node.catalogue.keys.map (node.senderResource hash)

/-- The receivers, as they are stamped. -/
def receiverResources : List (JsonObject × Text) :=
  node.connections.receivers.entries.map fun e => node.receiverResource e.1 e.2

/-- What the device resource's version depends on besides. -/
def lastActivation : Text := node.mapping.elim [] ChannelMappingApi.lastActivationTime

variable (versionNow : ℕ → Text)

/-- Some resources stamped, and the node that remembers their versions. -/
def stamp (resources : List (JsonObject × Text)) : List Json × NodeApi :=
  let (values, versions) := node.versions.stampAll versionNow resources
  (values, { node with versions := versions })

/-- `NodeApi::senders`. -/
def senders : List Json × NodeApi := node.stamp versionNow (node.senderResources hash)

/-- `NodeApi::receivers`. -/
def receivers : List Json × NodeApi := node.stamp versionNow node.receiverResources

/-- The types and resources of `NodeApi::resourcesInRegistrationOrder`, as they are stamped. -/
def typedResources : List (String × JsonObject × Text) :=
  ("node", node.selfResource, []) :: ("device", node.deviceResource hash, node.lastActivation) ::
    ((node.sourceResources hash).map (Prod.mk "source") ++
      (node.flowResources hash).map (Prod.mk "flow") ++
      (node.senderResources hash).map (Prod.mk "sender") ++
      node.receiverResources.map (Prod.mk "receiver"))

/-- `NodeApi::resourcesInRegistrationOrder`. -/
def resourcesInRegistrationOrder : List (Text × Json) × NodeApi :=
  let typed := node.typedResources hash
  let (values, node) := node.stamp versionNow (typed.map Prod.snd)
  ((typed.map fun e => e.1.toList).zip values, node)

end NodeApi

end Ids

end Aes67.Ravenna
