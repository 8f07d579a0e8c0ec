import Aes67.Mapper.Model
import Aes67.Sdp.Model
import Aes67.Ravenna.Json

/-!
# Receivers, routes and the grid

The model of `ReceiverRouting`, which lays a receiver's stream over the device's channels, and of
`ChannelMappingApi`, the IS-08 grid over it: the active map, activations now or later, and what a
request does first.

* `ReceiverRouting` with `apply`;
* `ChannelMappingApi` with `activeMap`, `applyAction`, `applyDueActivations`, `postActivation`;
* `Op`, `ChannelMappingApi.step`: everything that changes the grid, as a state machine.
-/

namespace Aes67.Ravenna

/-! ## Receivers -/

/-- `ReceiverRouting`, with the matrix it holds by reference. -/
structure ReceiverRouting where
  mapper : Mapper := .init
  remembered : OrdMap Text (List ChannelRoute) := .empty
  streamIdOf : OrdMap Text StreamID := .empty

namespace ReceiverRouting

variable (r : ReceiverRouting) (receiverId : Text)

/-- `ReceiverRouting::mappingFor`. -/
def mappingFor : Option ChannelMapping :=
  match r.streamIdOf.find? receiverId with
  | none => none
  | some id => r.mapper.getMapping id

def rememberedRoutes : List ChannelRoute := (r.remembered.find? receiverId).getD []

def rememberRoutes (routes : List ChannelRoute) : ReceiverRouting :=
  { r with remembered := r.remembered.insert receiverId routes }

/-- `ReceiverRouting::release`. -/
def release : ReceiverRouting :=
  match r.streamIdOf.find? receiverId with
  | none => r
  | some id =>
    { r with
      mapper := (r.mapper.removeMapping id).1
      streamIdOf := r.streamIdOf.erase receiverId }

/-- The session `apply` works from: what the transport file describes, or the one format every
receiver handles. -/
def sessionOf (sdp : Text) : Option Sdp.SDPSession :=
  if sdp = [] then some { sessionName := receiverId } else Sdp.parseString sdp

/-- A remembered grid laid over the block a stream was given, trimmed to the stream's width and
kept only where it is valid. -/
def overlay (mapping : ChannelMapping) : ChannelMapping :=
  match r.remembered.find? receiverId with
  | none => mapping
  | some asked =>
    let routes := asked.filter fun route => route.streamChannel < mapping.streamChannelCount
    let wanted := { mapping with routes := if routes = [] then mapping.routes else routes }
    if wanted.isValid then wanted else mapping

/-- `ReceiverRouting::apply`, with the identifier it generates; the text is why it refused. -/
def apply (sdp : Text) (enable : Bool) (generated : StreamID) :
    ReceiverRouting × Except Text Unit :=
  if !enable then (r.release receiverId, .ok ())
  else match sessionOf receiverId sdp with
    | none => (r, .error "the transport file is not an SDP this device can read".toList)
    | some session =>
      let r := r.release receiverId
      let numChannels := session.numChannels.toNat
      match r.mapper.createDefaultMapping generated session.sessionName numChannels with
      | none => (r, .error ("no free device channels for ".toList ++ showNat numChannels ++
          " channels".toList))
      | some mapping =>
        let mapping := r.overlay receiverId mapping
        if !mapping.isValid then (r, .error mapping.getValidationError)
        else match r.mapper.addMapping mapping with
          | (_, false) => (r, .error "the mapping overlaps one already in place".toList)
          | (mapper, true) =>
            ({ r with
              mapper := mapper
              streamIdOf := r.streamIdOf.insert receiverId mapping.streamID }, .ok ())

end ReceiverRouting

/-! ## The grid -/

/-- `routesOf`: a mapping's routes written out. -/
def routesOf (mapping : ChannelMapping) : List ChannelRoute :=
  if mapping.routes ≠ [] then mapping.routes
  else (List.range (min mapping.deviceChannelCount mapping.streamChannelCount)).map fun i =>
    ⟨i, mapping.deviceChannelStart + i⟩

def unfeed (deviceChannel : ℕ) (routes : List ChannelRoute) : List ChannelRoute :=
  routes.filter fun route => route.deviceChannel ≠ deviceChannel

/-- An activation waiting for its moment. -/
structure PendingActivation where
  id : Text
  mode : Text
  requestedTime : Text := []
  activationTime : Text := []
  due : TaiTime := {}
  action : Json

/-- `ChannelMappingApi`, with the routing it works on and the receivers of the connection API. -/
structure ChannelMappingApi where
  routing : ReceiverRouting := {}
  receivers : OrdMap Text Unit := .empty
  lastActivationTime : Text := []
  pending : List PendingActivation := []
  nextActivationId : UInt64 := 1

def kDeviceOutputId : String := "device"

namespace ChannelMappingApi

variable (api : ChannelMappingApi)

/-- `ConnectionApi::receiverIds`. -/
def receiverIds : List Text := api.receivers.keys

def usable : ℕ := api.routing.mapper.usableChannelCount

/-- The routes the grid shows for a receiver: its stream's, or those a controller set
beforehand. -/
def routesFor (receiverId : Text) : List ChannelRoute :=
  match api.routing.mappingFor receiverId with
  | some mapping => routesOf mapping
  | none => api.routing.rememberedRoutes receiverId

/-- Every receiver's routes, in the order `activeMap` walks them. -/
def feeds : List (Text × ChannelRoute) :=
  api.receiverIds.flatMap fun receiverId => (api.routesFor receiverId).map fun route =>
    (receiverId, route)

/-- The local `feeding` of `activeMap`: a later route takes a channel from an earlier one. -/
def feeding : OrdMap ℕ (Text × ℕ) :=
  api.feeds.foldl (fun m f => m.insert f.2.deviceChannel (f.1, f.2.streamChannel)) .empty

/-- One cell of the active map. -/
def cellJson : Option (Text × ℕ) → Json
  | none => .obj [("channel_index".toList, .null), ("input".toList, .null)]
  | some (input, index) =>
    .obj [("channel_index".toList, .ofNat index), ("input".toList, .str input)]

def outputCells : List (Text × Json) :=
  (List.range api.usable).foldl (fun cells c =>
    insertEntry (showNat c) (cellJson (api.feeding.find? c)) cells) []

/-- `ChannelMappingApi::activeMap`. -/
def activeMap : ApiResponse :=
  let last := api.lastActivationTime
  jsonResponse 200 (.obj [
    ("activation".toList, .obj [
      ("activation_time".toList, if last = [] then .null else .str last),
      ("mode".toList, if last = [] then .null else .str "activate_immediate".toList),
      ("requested_time".toList, .null)]),
    ("map".toList, .obj [(kDeviceOutputId.toList, .obj api.outputCells)])])

/-- What `applyAction` works out before it touches the matrix: the mappings of the receivers that
have one, and the routes of those that wait for a stream. -/
structure Work where
  updated : OrdMap Text ChannelMapping := .empty
  waiting : OrdMap Text (List ChannelRoute) := .empty

/-- The grid as it stands, every block written out as routes. -/
def gather : Work :=
  api.receiverIds.foldl (fun w receiverId =>
    match api.routing.mappingFor receiverId with
    | some mapping =>
      { w with updated := w.updated.insert receiverId { mapping with routes := routesOf mapping } }
    | none =>
      { w with waiting := w.waiting.insert receiverId (api.routing.rememberedRoutes receiverId) })
    {}

namespace Work

variable (w : Work)

/-- Nothing feeds the channel any more. -/
def unfeedAll (deviceChannel : ℕ) : Work where
  updated := w.updated.mapValues fun mapping =>
    { mapping with routes := unfeed deviceChannel mapping.routes }
  waiting := w.waiting.mapValues (unfeed deviceChannel)

/-- One route more for an input. -/
def push (input : Text) (route : ChannelRoute) : Work :=
  match w.updated.find? input with
  | some mapping =>
    { w with updated := w.updated.insert input { mapping with routes := mapping.routes ++ [route] } }
  | none =>
    { w with waiting := w.waiting.insert input ((w.waiting.find? input).getD [] ++ [route]) }

/-- How many channels an input has to offer, nothing where there is no such input. -/
def channelsOf (usable : ℕ) (input : Text) : Option ℕ :=
  match w.updated.find? input with
  | some mapping => some mapping.streamChannelCount
  | none => (w.waiting.find? input).map fun _ => usable

end Work

/-- One cell of an action worked in; the answer where it is refused. -/
def applyCell (usable : ℕ) (w : Work) (entry : Text × Json) : Except ApiResponse Work :=
  let (channelText, cell) := entry
  match stoi channelText with
  | none => .error (errorResponse 400
      ("output channel \"".toList ++ channelText ++ "\" is not a number".toList))
  | some deviceChannel =>
    if deviceChannel < 0 ∨ deviceChannel ≥ usable then .error (errorResponse 400
      ("output channel ".toList ++ channelText ++ " is not on this device".toList))
    else if !cell.isObject then .error (errorResponse 400 "a cell has to be an object".toList)
    else
      let w := w.unfeedAll deviceChannel.toNat
      match cell.get "input" with
      | .null => .ok w
      | .str input =>
        match w.channelsOf usable input with
        | none => .error (errorResponse 404 ("no input called ".toList ++ input ++
            "; io/ lists the ones there are".toList))
        | some channels =>
          match cell.get "channel_index" with
          | .num index =>
            let streamChannel := castInt index
            if streamChannel < 0 ∨ streamChannel ≥ channels then .error (errorResponse 400
              ("input ".toList ++ input ++ " has no channel ".toList ++ showInt streamChannel))
            else .ok (w.push input ⟨streamChannel.toNat, deviceChannel.toNat⟩)
          | _ => .error (errorResponse 400
              "a cell that names an input needs a channel_index".toList)
      | _ => .error (errorResponse 400 "a cell's input has to be a string".toList)

/-- The checks `applyAction` makes on the outputs an action names. -/
def checkOutputs : List (Text × Json) → Except ApiResponse Unit
  | [] => .ok ()
  | (outputId, cells) :: rest =>
    if outputId ≠ kDeviceOutputId.toList then .error (errorResponse 404
      ("this device has one output block, called ".toList ++ kDeviceOutputId.toList))
    else if !cells.isObject then
      .error (errorResponse 400 "an output's action has to be an object".toList)
    else checkOutputs rest

/-- The new mappings put into the emptied matrix one by one; why the matrix refused one. -/
def fillMatrix (mapper : Mapper) : List ChannelMapping → Except Text Mapper
  | [] => .ok mapper
  | mapping :: rest =>
    if !mapping.isValid then .error mapping.getValidationError
    else match mapper.addMapping mapping with
      | (_, false) => .error "it overlaps itself".toList
      | (mapper, true) => fillMatrix mapper rest

/-- The matrix emptied and given back what it held. -/
def restore (mapper : Mapper) (previous : List ChannelMapping) : Mapper :=
  previous.foldl (fun m old => (m.addMapping old).1) mapper.clearAll

/-- The cells of an action. -/
def cellsOf (action : Json) : List (Text × Json) := (action.get kDeviceOutputId).asObject

/-- The first half of `applyAction`: everything short of the matrix. -/
def workOut (action : Json) : Except ApiResponse Work := do
  if !action.isObject then throw (errorResponse 400 "action has to be an object".toList)
  checkOutputs action.asObject
  (cellsOf action).foldlM (applyCell api.usable) api.gather

/-- `ChannelMappingApi::applyAction`, at the time `now`. -/
def applyAction (now : TaiTime) (action : Json) (commit : Bool) : ChannelMappingApi × ApiResponse :=
  match api.workOut action with
  | .error refused => (api, refused)
  | .ok w =>
    let mapper := api.routing.mapper
    let previous := mapper.getAllMappings
    let restored : ChannelMappingApi :=
      { api with routing := { api.routing with mapper := restore mapper previous } }
    match fillMatrix mapper.clearAll w.updated.values with
    | .error why =>
      (restored, errorResponse 400 ("the matrix refused the grid: ".toList ++ why))
    | .ok filled =>
      if !commit then (restored, restored.activeMap)
      else
        let routing := w.waiting.entries.foldl (fun r e => r.rememberRoutes e.1 e.2)
          { api.routing with mapper := filled }
        let api := { api with routing := routing, lastActivationTime := taiText now }
        (api, api.activeMap)

/-- `ChannelMappingApi::activationEnvelope`. -/
def activationEnvelope (activation : PendingActivation) : Json :=
  let text (t : Text) : Json := if t = [] then .null else .str t
  .obj [
    ("action".toList, activation.action),
    ("activation".toList, .obj [
      ("activation_time".toList, text activation.activationTime),
      ("mode".toList, .str activation.mode),
      ("requested_time".toList, text activation.requestedTime)])]

/-- `ChannelMappingApi::applyDueActivations`, over the activations still to look at. -/
def applyDue (now : TaiTime) : List PendingActivation → ChannelMappingApi → ChannelMappingApi
  | [], api => api
  | activation :: rest, api =>
    if taiReached activation.due now then
      applyDue now rest (api.applyAction now activation.action true).1
    else
      let api := applyDue now rest api
      { api with pending := activation :: api.pending }

def applyDueActivations (now : TaiTime) : ChannelMappingApi :=
  applyDue now api.pending { api with pending := [] }

/-- `ChannelMappingApi::postActivation`, on a body that has been parsed. -/
def postActivation (now : TaiTime) (request : Json) : ChannelMappingApi × ApiResponse :=
  if !request.isObject then (api, errorResponse 400 "the body has to be an object".toList)
  else if !(request.get "activation").isObject then
    (api, errorResponse 400 "activation has to be an object".toList)
  else match (request.get "activation").get "mode" with
    | .str wanted =>
      let immediate := wanted = "activate_immediate".toList
      let relative := wanted = "activate_scheduled_relative".toList
      let absolute := wanted = "activate_scheduled_absolute".toList
      if ¬ immediate ∧ ¬ relative ∧ ¬ absolute then
        (api, errorResponse 400 ("no activation mode called ".toList ++ wanted))
      else if api.pending ≠ [] then
        (api, errorResponse 423 "an activation is already waiting; delete it first".toList)
      else
        let queued : PendingActivation :=
          { id := showNat api.nextActivationId.toNat, mode := wanted, action := request.get "action" }
        let api := { api with nextActivationId := api.nextActivationId + 1 }
        if immediate then
          let (api, applied) := api.applyAction now queued.action true
          if !applied.ok then (api, applied)
          else
            let queued := { queued with activationTime := api.lastActivationTime }
            (api, jsonResponse 200 (.obj [(queued.id, activationEnvelope queued)]))
        else match (request.get "activation").get "requested_time" with
          | .str requested =>
            match parseTai requested with
            | none => (api, errorResponse 400
                ("requested_time is not \"<seconds>:<nanoseconds>\": ".toList ++ requested))
            | some asked =>
              let due := if relative then taiSum now asked else asked
              let queued := { queued with
                requestedTime := requested, due := due, activationTime := taiText due }
              let (api, dryRun) := api.applyAction now queued.action false
              if !dryRun.ok then (api, dryRun)
              else ({ api with pending := api.pending ++ [queued] },
                jsonResponse 202 (.obj [(queued.id, activationEnvelope queued)]))
          | _ => (api, errorResponse 400
              (wanted ++ " needs a requested_time of \"<seconds>:<nanoseconds>\"".toList))
    | _ => (api, errorResponse 400 "activation.mode has to be a string".toList)

/-- A POST to `map/activations`: what is due happens first. -/
def handlePost (now : TaiTime) (request : Json) : ChannelMappingApi × ApiResponse :=
  (api.applyDueActivations now).postActivation now request

/-- A GET of `map/active`. -/
def handleActive (now : TaiTime) : ChannelMappingApi × ApiResponse :=
  (api.applyDueActivations now, (api.applyDueActivations now).activeMap)

/-- A DELETE under `map/activations`. -/
def handleDelete (now : TaiTime) (id : Text) : ChannelMappingApi :=
  let api := api.applyDueActivations now
  { api with pending := api.pending.eraseP fun activation => activation.id = id }

end ChannelMappingApi

/-! ## Runs -/

/-- Whatever changes the grid: receivers come and go, IS-05 activates one, the device's width is
set, and IS-08 requests arrive. -/
inductive Op
  | addReceiver (id : Text)
  | removeReceiver (id : Text)
  | setUsableChannelCount (count : ℕ)
  | activate (receiverId sdp : Text) (enable : Bool) (generated : StreamID)
  | post (now : TaiTime) (request : Json)
  | active (now : TaiTime)
  | delete (now : TaiTime) (id : Text)

/-- The API after one of these. -/
def ChannelMappingApi.step (api : ChannelMappingApi) : Op → ChannelMappingApi
  | .addReceiver id => { api with receivers := api.receivers.insert id () }
  | .removeReceiver id => { api with receivers := api.receivers.erase id }
  | .setUsableChannelCount count =>
    { api with routing := { api.routing with
        mapper := api.routing.mapper.setUsableChannelCount count } }
  | .activate receiverId sdp enable generated =>
    { api with routing := (api.routing.apply receiverId sdp enable generated).1 }
  | .post now request => (api.handlePost now request).1
  | .active now => (api.handleActive now).1
  | .delete now id => api.handleDelete now id

end Aes67.Ravenna
