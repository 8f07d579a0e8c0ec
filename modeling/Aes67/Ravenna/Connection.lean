import Aes67.Sdp.Model
import Aes67.Ravenna.Json

/-!
# Connections

The model of `ConnectionApi`, the IS-05 API: a controller stages a change on a sender or a receiver,
and the change is activated at once or at a time promised. An activation works out the transport
parameters, takes the transport file along with them, and asks the host.

* `ConnectionState`, `ConnectionSender`, `ConnectionReceiver`, `ConnectionApi`;
* `transportParamsFromSdp`, `resolveAutoLeg`, `followSdpToLeg`, `applyTransportParams`,
  `readActivation`;
* `activateSender`, `activateReceiver`, `applyDueActivations`;
* `patchStagedReceiver`, `patchStagedSender`, `patchInBulk`, `handle`;
* `Op`, `step`: whatever changes the API, as a state machine.

A body comes as what `parseJson` makes of it. The calls of the host's callbacks are kept as a trace,
`told`.
-/

namespace Aes67.Ravenna

open Sdp (SDPSession)

namespace Json

def isString : Json → Bool
  | str _ => true
  | _ => false

/-- `JsonValue::asString`, empty on a value of another kind. -/
def asString : Json → Text
  | str t => t
  | _ => []

def has (j : Json) (key : String) : Bool := (lookupEntry key.toList j.asObject).isSome

/-- Text, or null where there is none. -/
def ofText (t : Text) : Json := if t = [] then null else str t

end Json

/-- `JsonObject`. -/
abbrev JsonObject := OrdMap Text Json

/-- One object's members written over another's. -/
def overlay (leg overrides : JsonObject) : JsonObject :=
  overrides.entries.foldl (fun leg e => leg.insert e.1 e.2) leg

/-! ## States -/

def kActivateImmediate : Text := "activate_immediate".toList

def kActivateRelative : Text := "activate_scheduled_relative".toList

def kActivateAbsolute : Text := "activate_scheduled_absolute".toList

/-- What a sender or a receiver holds in each of its two states. -/
structure ConnectionState where
  masterEnable : Bool := false
  transportFile : Text := []
  senderId : Text := []
  receiverId : Text := []
  transportParams : JsonObject := .empty
  activationMode : Text := "null".toList
  activationRequestedTime : Text := []
  activationTime : Text := []

/-- `PendingActivation`: what has been promised and when. -/
structure ConnectionApi.PendingActivation where
  waiting : Bool := false
  due : TaiTime := {}
  state : ConnectionState := {}

structure ConnectionSender where
  id : Text
  label : Text := []
  sdp : Text := []
  staged : ConnectionState := {}
  active : ConnectionState := {}
  pending : ConnectionApi.PendingActivation := {}

structure ConnectionReceiver where
  id : Text
  label : Text := []
  staged : ConnectionState := {}
  active : ConnectionState := {}
  pending : ConnectionApi.PendingActivation := {}

/-- One call of a callback of the host: the resource, what it has staged by then, the file it had, the
state asked for, what becomes active if the host agrees, and whether it did. The host is handed the
file of `active`. -/
structure Told where
  forSender : Bool
  id : Text
  staged : ConnectionState
  current : Text
  requested : ConnectionState
  active : ConnectionState
  accepted : Bool

structure ConnectionApi where
  senders : OrdMap Text ConnectionSender := .empty
  receivers : OrdMap Text ConnectionReceiver := .empty
  interfaceAddress : Text := []
  told : List Told := []

/-- The surroundings of one request: the time it arrives, the time later on, the session time
`generate` takes for a missing identifier, what `parseJson` makes of what `serialise` writes, and
the host's answers. A callback may read back what the resource has staged. -/
structure Surroundings where
  arrival : TaiTime
  now : TaiTime
  time : UInt64
  reparse : Json → Except Text Json
  onSenderActivation : Text → ConnectionState → Text → Bool → Except Text Unit
  onActivation : Text → ConnectionState → Text → Bool → Except Text Unit

/-! ## Transport parameters -/

/-- `if (!sdp.empty()) session = SDPParser::parseString(sdp)`. -/
def sessionOf (sdp : Text) : Option SDPSession := if sdp = [] then none else Sdp.parseString sdp

/-- An address of the session there is, or null. -/
def addressOf (session : Option SDPSession) (address : SDPSession → Text) : Json :=
  match session with
  | some session => .ofText (address session)
  | none => .null

/-- The name the destination has in a leg of either side. -/
def destinationName (forSender : Bool) : Text :=
  (if forSender then "destination_ip" else "multicast_ip").toList

/-- `transportParamsFromSdp`. -/
def transportParamsFromSdp (sdp : Text) (forSender : Bool) : JsonObject :=
  let session := sessionOf sdp
  let leg := OrdMap.empty.insert "rtp_enabled".toList (Json.bool true)
  let leg :=
    if forSender then
      ((leg.insert "source_ip".toList (addressOf session SDPSession.originAddress)).insert
        "source_port".toList (.str "auto".toList)).insert
        "destination_ip".toList (addressOf session SDPSession.connectionAddress)
    else
      ((leg.insert "source_ip".toList (addressOf session SDPSession.sourceAddress)).insert
        "interface_ip".toList (.str "auto".toList)).insert
        "multicast_ip".toList (addressOf session SDPSession.connectionAddress)
  leg.insert "destination_port".toList (match session with
    | some session => .ofNat session.port.toNat
    | none => .str "auto".toList)

/-- One parameter with "auto" replaced by what the device chose. -/
def resolve (name : String) (chosen : Json) (leg : JsonObject) : JsonObject :=
  match leg.find? name.toList with
  | some (.str t) => if t = "auto".toList then leg.insert name.toList chosen else leg
  | _ => leg

/-- `resolveAutoLeg`. -/
def resolveAutoLeg (leg : JsonObject) (forSender : Bool) (sdp interfaceAddress : Text) :
    JsonObject :=
  let session := sessionOf sdp
  let mediaPort := Json.ofNat (match session with
    | some session => session.port.toNat
    | none => 5004)
  let ownAddress := if interfaceAddress = [] then "0.0.0.0".toList else interfaceAddress
  let leg := resolve "destination_port" mediaPort leg
  if forSender then
    let leg := resolve "source_port" mediaPort leg
    let leg := resolve "source_ip" (.ofText (match session with
      | some session => session.originAddress
      | none => ownAddress)) leg
    match session with
    | some session => resolve "destination_ip" (.ofText session.connectionAddress) leg
    | none => leg
  else
    let leg := resolve "interface_ip" (.str ownAddress) leg
    let leg := resolve "multicast_ip" (addressOf session SDPSession.connectionAddress) leg
    resolve "source_ip" (addressOf session SDPSession.sourceAddress) leg

/-- `static_cast<uint16_t>`, zero where the language leaves the result open. -/
def castUInt16 : Double → UInt16
  | .fin q =>
    let n := q.num.tdiv q.den
    if 0 ≤ n ∧ n < 2 ^ 16 then .ofInt n else 0
  | _ => 0

/-- The destination `followSdpToLeg` reads: the sender's name first, then the receiver's. -/
def destinationOf (leg : JsonObject) : Option Json :=
  match leg.find? "destination_ip".toList with
  | some value => some value
  | none => leg.find? "multicast_ip".toList

/-- `followSdpToLeg`, at the time `generate` may need. -/
def followSdpToLeg (time : UInt64) (sdp : Text) (leg : JsonObject) : Text :=
  match sessionOf sdp with
  | none => sdp
  | some session =>
    let connectionAddress := match destinationOf leg with
      | some (.str t) => if t ≠ "auto".toList then t else session.connectionAddress
      | _ => session.connectionAddress
    let port := match leg.find? "destination_port".toList with
      | some (.num d) => castUInt16 d
      | _ => session.port
    if connectionAddress = session.connectionAddress ∧ port = session.port then sdp
    else Sdp.generate time { session with
      connectionAddress := connectionAddress, port := port
      sessionVersion := session.sessionVersion + 1 }

/-! ## Reading a request -/

/-- `isKnownPatchKey`. -/
def isKnownPatchKey (name : Text) (forSender : Bool) : Bool :=
  name ∈ ["master_enable".toList, "activation".toList, "transport_params".toList] ||
    if forSender then name = "receiver_id".toList
    else name = "sender_id".toList || name = "transport_file".toList

/-- `ActivationRequest`; an empty mode stages without activating. -/
structure ActivationRequest where
  mode : Text := []
  requestedTime : Text := []
  due : TaiTime := {}

/-- `readActivation`, at the time `now`. -/
def readActivation (now : TaiTime) (patch : Json) : Except Text ActivationRequest :=
  if !patch.has "activation" then .ok {}
  else if !(patch.get "activation").isObject then
    .error "activation has to be an object".toList
  else match (patch.get "activation").get "mode" with
    | .null => .ok {}
    | .str mode =>
      if mode = kActivateImmediate then .ok { mode := mode }
      else if mode ≠ kActivateRelative ∧ mode ≠ kActivateAbsolute then
        .error ("no activation mode called ".toList ++ mode)
      else match (patch.get "activation").get "requested_time" with
        | .str requested =>
          match parseTai requested with
          | none => .error
              ("requested_time is not \"<seconds>:<nanoseconds>\": ".toList ++ requested)
          | some asked =>
            .ok { mode := mode, requestedTime := requested,
                  due := if mode = kActivateRelative then taiSum now asked else asked }
        | _ => .error (mode ++ " needs a requested_time of \"<seconds>:<nanoseconds>\"".toList)
    | _ => .error "activation.mode has to be a string".toList

/-- `isKnownTransportParam`. -/
def isKnownTransportParam (name : Text) (forSender : Bool) : Bool :=
  name ∈ ["rtp_enabled".toList, "source_ip".toList, "destination_port".toList] ||
    if forSender then name = "source_port".toList || name = "destination_ip".toList
    else name = "interface_ip".toList || name = "multicast_ip".toList

/-- `value.asNumber() < 0 || value.asNumber() > 65535`, which what is no number is not. -/
def outsidePortRange : Double → Bool
  | .nan => false
  | .inf _ => true
  | .fin q => q < 0 ∨ q > 65535

/-- The checks on one parameter of a leg. -/
def checkTransportParam (forSender : Bool) (name : Text) (value : Json) : Except Text Unit :=
  if !isKnownTransportParam name forSender then
    .error ("no transport parameter called ".toList ++ name)
  else match value with
    | .null => .ok ()
    | value =>
      if name = "rtp_enabled".toList then
        match value with
        | .bool _ => .ok ()
        | _ => .error "rtp_enabled has to be a boolean".toList
      else if name = "destination_port".toList ∨ name = "source_port".toList then
        match value with
        | .num d =>
          if outsidePortRange d then .error (name ++ " is outside the port range".toList)
          else .ok ()
        | .str t =>
          if t = "auto".toList then .ok ()
          else .error (name ++ " has to be a port number or \"auto\"".toList)
        | _ => .error (name ++ " has to be a port number or \"auto\"".toList)
      else
        match value with
        | .str _ => .ok ()
        | _ => .error (name ++ " has to be an address, or null to let the file say".toList)

/-- One parameter written: null drops what was fixed. -/
def writeTransportParam (overrides : JsonObject) (e : Text × Json) : JsonObject :=
  match e.2 with
  | .null => overrides.erase e.1
  | value => overrides.insert e.1 value

/-- `applyTransportParams`. -/
def applyTransportParams (params : Json) (forSender : Bool) (overrides : JsonObject) :
    Except Text JsonObject :=
  match params with
  | .arr [leg] =>
    if !leg.isObject then .error "each leg has to be an object".toList
    else do
      leg.asObject.forM fun e => checkTransportParam forSender e.1 e.2
      return leg.asObject.foldl writeTransportParam overrides
  | .arr legs => .error ("this device has one leg, not ".toList ++ showNat legs.length)
  | _ => .error "transport_params has to be an array".toList

/-- The top-level names of a patch. -/
def checkPatchKeys (forSender : Bool) (patch : Json) : Except Text Unit :=
  patch.asObject.forM fun e =>
    if isKnownPatchKey e.1 forSender then .ok ()
    else .error (("a ".toList ++ (if forSender then "sender" else "receiver").toList) ++
      " has nothing called ".toList ++ e.1)

def readMasterEnable (patch : Json) (staged : ConnectionState) : Except Text ConnectionState :=
  if !patch.has "master_enable" then .ok staged
  else match patch.get "master_enable" with
    | .bool enable => .ok { staged with masterEnable := enable }
    | _ => .error "master_enable has to be a boolean".toList

/-- The far end of a subscription, which null clears. -/
def readFarEnd (patch : Json) (key : String) (old : Text) : Except Text Text :=
  if !patch.has key then .ok old
  else match patch.get key with
    | .null => .ok []
    | .str id => .ok id
    | _ => .error (key.toList ++ " has to be a string or null".toList)

/-- The parameters a transport file determines. -/
def determined : List Text :=
  ["source_ip".toList, "multicast_ip".toList, "destination_port".toList]

/-- A new transport file, which takes back what a controller had fixed by hand. -/
def readTransportFile (patch : Json) (staged : ConnectionState) : Except Text ConnectionState :=
  if !patch.has "transport_file" then .ok staged
  else if !(patch.get "transport_file").isObject then
    .error "transport_file has to be an object".toList
  else
    let replaced (file : Text) : ConnectionState := { staged with
      transportFile := file
      transportParams := determined.foldl OrdMap.erase staged.transportParams }
    match (patch.get "transport_file").get "data" with
    | .null => .ok (replaced [])
    | .str data =>
      if ((patch.get "transport_file").get "type").asString ≠ "application/sdp".toList then
        .error "this receiver takes application/sdp transport files".toList
      else .ok (replaced data)
    | _ => .error "transport_file.data has to be a string".toList

def readTransportParams (patch : Json) (forSender : Bool) (staged : ConnectionState) :
    Except Text ConnectionState :=
  if !patch.has "transport_params" then .ok staged
  else do
    let params ← applyTransportParams (patch.get "transport_params") forSender
      staged.transportParams
    return { staged with transportParams := params }

/-- What `patchStagedReceiver` reads before it writes anything. -/
def readReceiverPatch (now : TaiTime) (staged : ConnectionState) (patch : Json) :
    Except Text (ConnectionState × ActivationRequest) := do
  checkPatchKeys false patch
  let staged ← readMasterEnable patch staged
  let senderId ← readFarEnd patch "sender_id" staged.senderId
  let staged ← readTransportFile patch { staged with senderId := senderId }
  let staged ← readTransportParams patch false staged
  let activation ← readActivation now patch
  return (staged, activation)

/-- What `patchStagedSender` reads before it writes anything. -/
def readSenderPatch (now : TaiTime) (staged : ConnectionState) (patch : Json) :
    Except Text (ConnectionState × ActivationRequest) := do
  checkPatchKeys true patch
  let staged ← readMasterEnable patch staged
  let receiverId ← readFarEnd patch "receiver_id" staged.receiverId
  let staged ← readTransportParams patch true { staged with receiverId := receiverId }
  let activation ← readActivation now patch
  return (staged, activation)

/-- The body, once it is an object. -/
def readBody (body : Except Text Json) : Except Text Json :=
  match body with
  | .error e => .error ("the body is not JSON: ".toList ++ e)
  | .ok patch => if !patch.isObject then .error "the body has to be an object".toList else .ok patch

/-! ## What is reported -/

/-- `stateAsJson`. -/
def stateAsJson (state : ConnectionState) (forSender : Bool) : Json :=
  let activation := Json.obj [
    ("activation_time".toList, .ofText state.activationTime),
    ("mode".toList,
      if state.activationMode = "null".toList then .null else .str state.activationMode),
    ("requested_time".toList, .ofText state.activationRequestedTime)]
  let leg := overlay (transportParamsFromSdp state.transportFile forSender) state.transportParams
  let params := Json.arr [.obj leg.entries]
  if forSender then
    .obj [("activation".toList, activation), ("master_enable".toList, .bool state.masterEnable),
      ("receiver_id".toList, .ofText state.receiverId), ("transport_params".toList, params)]
  else
    .obj [("activation".toList, activation), ("master_enable".toList, .bool state.masterEnable),
      ("sender_id".toList, .ofText state.senderId),
      ("transport_file".toList, .obj [
        ("data".toList, .ofText state.transportFile),
        ("type".toList,
          if state.transportFile = [] then .null else .str "application/sdp".toList)]),
      ("transport_params".toList, params)]

namespace ConnectionApi

variable (api : ConnectionApi) (env : Surroundings)

/-- A leg as it is: the file's values, the controller's on top, every "auto" resolved. -/
def legOf (forSender : Bool) (file : Text) (state : ConnectionState) : JsonObject :=
  resolveAutoLeg (overlay (transportParamsFromSdp file forSender) state.transportParams) forSender
    file api.interfaceAddress

/-- `ConnectionApi::activeAsJson`. -/
def activeAsJson (state : ConnectionState) (forSender : Bool) : Json :=
  stateAsJson { state with
    transportParams := api.legOf forSender state.transportFile state } forSender

/-! ## Activation -/

/-- What becomes active when `state` does, on a resource whose file is `file`. -/
def activated (forSender : Bool) (file : Text) (state : ConnectionState) : ConnectionState :=
  let leg := api.legOf forSender file state
  { state with transportParams := leg, transportFile := followSdpToLeg env.time file leg }

end ConnectionApi

/-- The staged state once it is active. -/
def ConnectionState.cleared (staged : ConnectionState) : ConnectionState :=
  { staged with
    activationMode := "null".toList, activationRequestedTime := [], activationTime := [] }

namespace ConnectionApi

variable (api : ConnectionApi) (env : Surroundings)

/-- `ConnectionApi::activateSender`, on the sender kept under `id`. -/
def activateSender (id : Text) (sender : ConnectionSender) (state : ConnectionState) :
    ConnectionApi × Except Text Unit :=
  let active := api.activated env true sender.sdp state
  let answer :=
    env.onSenderActivation sender.id sender.staged active.transportFile state.masterEnable
  let told := api.told ++
    [⟨true, sender.id, sender.staged, sender.sdp, state, active, answer.isOk⟩]
  match answer with
  | .error e => ({ api with senders := api.senders.insert id sender, told := told }, .error e)
  | .ok _ =>
    ({ api with
      senders := api.senders.insert id { sender with
        sdp := active.transportFile
        active := active
        staged := { sender.staged with transportFile := active.transportFile }.cleared }
      told := told }, .ok ())

/-- `ConnectionApi::activateReceiver`, on the receiver kept under `id`. -/
def activateReceiver (id : Text) (receiver : ConnectionReceiver) (state : ConnectionState) :
    ConnectionApi × Except Text Unit :=
  let active := api.activated env false state.transportFile state
  let answer :=
    env.onActivation receiver.id receiver.staged active.transportFile state.masterEnable
  let told := api.told ++
    [⟨false, receiver.id, receiver.staged, state.transportFile, state, active, answer.isOk⟩]
  match answer with
  | .error e => ({ api with receivers := api.receivers.insert id receiver, told := told }, .error e)
  | .ok _ =>
    ({ api with
      receivers := api.receivers.insert id
        { receiver with active := active, staged := receiver.staged.cleared }
      told := told }, .ok ())

/-- A promise whose time has come. -/
def PendingActivation.isDue (pending : PendingActivation) (now : TaiTime) : Bool :=
  pending.waiting && taiReached pending.due now

/-- What a request does first to one sender. -/
def applyDueSender (api : ConnectionApi) (e : Text × ConnectionSender) : ConnectionApi :=
  if e.2.pending.isDue env.arrival then
    (api.activateSender env e.1 { e.2 with pending := {} } e.2.pending.state).1
  else api

/-- What a request does first to one receiver. -/
def applyDueReceiver (api : ConnectionApi) (e : Text × ConnectionReceiver) : ConnectionApi :=
  if e.2.pending.isDue env.arrival then
    (api.activateReceiver env e.1 { e.2 with pending := {} } e.2.pending.state).1
  else api

/-- `ConnectionApi::applyDueActivations`. An activation changes no entry but its own, so the loops
go over the entries there were. -/
def applyDueActivations : ConnectionApi :=
  api.receivers.entries.foldl (applyDueReceiver env)
    (api.senders.entries.foldl (applyDueSender env) api)

/-! ## Patches -/

/-- The group a receiver is enabled on without a transport file. -/
def addressed (staged : ConnectionState) : Bool :=
  match staged.transportParams.find? "multicast_ip".toList with
  | some (.str group) => group ≠ [] ∧ group ≠ "auto".toList
  | _ => false

/-- The staged state of a scheduled activation. -/
def promisedState (staged : ConnectionState) (activation : ActivationRequest) : ConnectionState :=
  { staged with
    activationMode := activation.mode
    activationRequestedTime := activation.requestedTime
    activationTime := taiText activation.due }

/-- The state of an immediate activation. -/
def immediateState (staged : ConnectionState) : ConnectionState :=
  { staged with
    activationMode := kActivateImmediate
    activationRequestedTime := []
    activationTime := taiText env.now }

/-- `ConnectionApi::patchStagedReceiver`. -/
def patchStagedReceiver (id : Text) (body : Except Text Json) : ConnectionApi × ApiResponse :=
  match api.receivers.find? id with
  | none => (api, errorResponse 404 ("no receiver called ".toList ++ id))
  | some receiver =>
    match readBody body >>= readReceiverPatch env.now receiver.staged with
    | .error e => (api, errorResponse 400 e)
    | .ok (staged, activation) =>
      let receiver := { receiver with staged := staged }
      let committed := { api with receivers := api.receivers.insert id receiver }
      if activation.mode = [] then (committed, jsonResponse 200 (stateAsJson staged false))
      else if staged.masterEnable ∧ staged.transportFile = [] ∧ !addressed staged then
        (committed, errorResponse 400
          "cannot enable a receiver with neither a transport file nor a multicast_ip".toList)
      else if activation.mode ≠ kActivateImmediate then
        let promised := promisedState staged activation
        let waiting := { receiver with staged := promised, pending := ⟨true, activation.due, promised⟩ }
        ({ api with receivers := api.receivers.insert id waiting },
          jsonResponse 202 (stateAsJson promised false))
      else match committed.activateReceiver env id receiver (immediateState env staged) with
        | (api, .error e) => (api, errorResponse 500 ("the receiver refused it: ".toList ++ e))
        | (api, .ok _) =>
          (api, jsonResponse 200 (api.activeAsJson
            (((api.receivers.find? id).map ConnectionReceiver.active).getD {}) false))

/-- `ConnectionApi::patchStagedSender`. -/
def patchStagedSender (id : Text) (body : Except Text Json) : ConnectionApi × ApiResponse :=
  match api.senders.find? id with
  | none => (api, errorResponse 404 ("no sender called ".toList ++ id))
  | some sender =>
    match readBody body >>= readSenderPatch env.now sender.staged with
    | .error e => (api, errorResponse 400 e)
    | .ok (staged, activation) =>
      let staged := { staged with transportFile := sender.sdp }
      let sender := { sender with staged := staged }
      let committed := { api with senders := api.senders.insert id sender }
      if activation.mode = [] then (committed, jsonResponse 200 (stateAsJson staged true))
      else if activation.mode ≠ kActivateImmediate then
        let promised := promisedState staged activation
        let waiting := { sender with staged := promised, pending := ⟨true, activation.due, promised⟩ }
        ({ api with senders := api.senders.insert id waiting },
          jsonResponse 202 (stateAsJson promised true))
      else match committed.activateSender env id sender (immediateState env staged) with
        | (api, .error e) => (api, errorResponse 500 ("the sender refused it: ".toList ++ e))
        | (api, .ok _) =>
          (api, jsonResponse 200 (api.activeAsJson
            (((api.senders.find? id).map ConnectionSender.active).getD {}) true))

/-- The single endpoint a patch goes to. -/
def patchStaged (forSender : Bool) (id : Text) (body : Except Text Json) :
    ConnectionApi × ApiResponse :=
  if forSender then api.patchStagedSender env id body else api.patchStagedReceiver env id body

/-- The loop of `patchInBulk`, with the answers so far. -/
def patchEntries (forSenders : Bool) :
    List Json → ConnectionApi → List Json → ConnectionApi × ApiResponse
  | [], api, answers => (api, jsonResponse 200 (.arr answers))
  | entry :: entries, api, answers =>
    if !entry.isObject ∨ !(entry.get "id").isString then
      (api, errorResponse 400 "every entry in a bulk request needs an id and its params".toList)
    else
      let id := (entry.get "id").asString
      let (api, one) := api.patchStaged env forSenders id (env.reparse (entry.get "params"))
      patchEntries forSenders entries api
        (answers ++ [.obj [("code".toList, .ofNat one.status), ("id".toList, .str id)]])

/-- `ConnectionApi::patchInBulk`. -/
def patchInBulk (forSenders : Bool) (body : Except Text Json) : ConnectionApi × ApiResponse :=
  match body with
  | .error e => (api, errorResponse 400 ("the body is not JSON: ".toList ++ e))
  | .ok (.arr entries) => patchEntries env forSenders entries api []
  | .ok _ => (api, errorResponse 400 "a bulk request is an array".toList)

/-! ## Requests -/

def kConnectionApiRoot : Text := "/x-nmos/connection/v1.1".toList

/-- `segmentsOf`. -/
def segmentsOf (path : Text) : List Text := (getlines '/' path).filter (· ≠ [])

/-- `listResponse`. -/
def listResponse (entries : List Text) : ApiResponse := jsonResponse 200 (.arr (entries.map .str))

def onlyGet (method : Text) (response : ApiResponse) : ApiResponse :=
  if method ≠ "GET".toList then errorResponse 405 "only GET here".toList else response

def noSuchResource : ApiResponse := errorResponse 404 "no such resource".toList

/-- The bounds on a leg's parameters, which are none. -/
def constraints (forSender : Bool) : Json :=
  let names := if forSender then
      ["destination_ip", "destination_port", "rtp_enabled", "source_ip", "source_port"]
    else ["destination_port", "interface_ip", "multicast_ip", "rtp_enabled", "source_ip"]
  .arr [.obj (names.map fun name => (name.toList, .obj []))]

/-- A request below `single/senders/<id>/` or `single/receivers/<id>/`, for a resource there is. A
sender's transport file is answered as it is. -/
def handleLeaf (forSender : Bool) (id leaf method : Text) (body : Except Text Json) :
    ConnectionApi × ApiResponse :=
  let sender := (api.senders.find? id).getD { id := id }
  let receiver := (api.receivers.find? id).getD { id := id }
  if leaf = "transporttype".toList then
    (api, onlyGet method (jsonResponse 200 (.str "urn:x-nmos:transport:rtp".toList)))
  else if leaf = "constraints".toList then
    (api, onlyGet method (jsonResponse 200 (constraints forSender)))
  else if leaf = "transportfile".toList then
    if !forSender then
      (api, errorResponse 404 "receivers have no transport file to serve".toList)
    else (api, onlyGet method (jsonResponse 200 (.str sender.sdp)))
  else if leaf = "active".toList ∨ leaf = "staged".toList then
    if method = "GET".toList then
      if leaf = "staged".toList then
        (api, jsonResponse 200
          (stateAsJson (if forSender then sender.staged else receiver.staged) forSender))
      else (api, jsonResponse 200
        (api.activeAsJson (if forSender then sender.active else receiver.active) forSender))
    else if method = "PATCH".toList then
      if leaf ≠ "staged".toList then
        (api, errorResponse 405 "active is read-only; PATCH staged".toList)
      else api.patchStaged env forSender id body
    else (api, errorResponse 405 "GET or PATCH here".toList)
  else (api, noSuchResource)

/-- A request below `single/`. -/
def handleSingle (segments : List Text) (method : Text) (body : Except Text Json) :
    ConnectionApi × ApiResponse :=
  match segments with
  | [] => (api, onlyGet method (listResponse ["receivers/".toList, "senders/".toList]))
  | kind :: rest =>
    if kind ≠ "senders".toList ∧ kind ≠ "receivers".toList then (api, noSuchResource)
    else
      let forSender : Bool := kind = "senders".toList
      let ids := if forSender then api.senders.keys else api.receivers.keys
      match rest with
      | [] => (api, onlyGet method (listResponse (ids.map (· ++ "/".toList))))
      | id :: rest =>
        if id ∉ ids then
          (api, errorResponse 404
            ((if forSender then "no sender called " else "no receiver called ").toList ++ id))
        else match rest with
          | [] => (api, onlyGet method (listResponse
              (["active/".toList, "constraints/".toList, "staged/".toList] ++
                (if forSender then ["transportfile/".toList] else []) ++
                ["transporttype/".toList])))
          | leaf :: _ => api.handleLeaf env forSender id leaf method body

/-- A request below `bulk/`. -/
def handleBulk (segments : List Text) (method : Text) (body : Except Text Json) :
    ConnectionApi × ApiResponse :=
  match segments with
  | [] => (api, listResponse ["senders/".toList, "receivers/".toList])
  | [kind] =>
    if kind ≠ "senders".toList ∧ kind ≠ "receivers".toList then (api, noSuchResource)
    else if method ≠ "POST".toList then (api, errorResponse 405 "only POST here".toList)
    else api.patchInBulk env (kind = "senders".toList) body
  | _ => (api, noSuchResource)

/-- `ConnectionApi::handle`, once what was due has happened. -/
def answer (method path : Text) (body : Except Text Json) : ConnectionApi × ApiResponse :=
  if ¬ kConnectionApiRoot <+: path then
    (api, errorResponse 404 ("this device serves ".toList ++ kConnectionApiRoot))
  else match segmentsOf (path.drop kConnectionApiRoot.length) with
    | [] => (api, onlyGet method (listResponse ["bulk/".toList, "single/".toList]))
    | first :: rest =>
      if first = "bulk".toList then api.handleBulk env rest method body
      else if first ≠ "single".toList then (api, noSuchResource)
      else api.handleSingle env rest method body

/-- `ConnectionApi::handle`. -/
def handle (method path : Text) (body : Except Text Json) : ConnectionApi × ApiResponse :=
  (api.applyDueActivations env).answer env method path body

/-! ## The host's side -/

/-- `ConnectionApi::addSender`. -/
def addSender (sender : ConnectionSender) : ConnectionApi :=
  { api with senders := api.senders.insert sender.id { sender with
      staged := { sender.staged with transportFile := sender.sdp }
      active := { sender.active with transportFile := sender.sdp } } }

def addReceiver (receiver : ConnectionReceiver) : ConnectionApi :=
  { api with receivers := api.receivers.insert receiver.id receiver }

end ConnectionApi

/-- Whatever changes the API: requests, and the host's resources coming and going. -/
inductive ConnectionApi.Op
  | handle (env : Surroundings) (method path : Text) (body : Except Text Json)
  | addSender (sender : ConnectionSender)
  | addReceiver (receiver : ConnectionReceiver)
  | removeSender (id : Text)
  | removeReceiver (id : Text)
  | setInterfaceAddress (address : Text)

/-- The API after one of these. -/
def ConnectionApi.step (api : ConnectionApi) : ConnectionApi.Op → ConnectionApi
  | .handle env method path body => (api.handle env method path body).1
  | .addSender sender => api.addSender sender
  | .addReceiver receiver => api.addReceiver receiver
  | .removeSender id => { api with senders := api.senders.erase id }
  | .removeReceiver id => { api with receivers := api.receivers.erase id }
  | .setInterfaceAddress address => { api with interfaceAddress := address }

end Aes67.Ravenna
