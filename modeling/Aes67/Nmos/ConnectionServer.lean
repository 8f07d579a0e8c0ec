import Aes67.Ravenna.Connection

/-!
# The driver's connection server

The model of `ConnectionAPIServer`, which answers IS-05 for the driver. Every request first copies
into the API what the driver lists and the API was not seeded with; the API then answers, and what it
activates reaches the driver's patchers. The listers and the patchers of one request are parameters.

* `ConnectionSender`, `ConnectionReceiver`, `ConnectionPatch`, `Driver`;
* `legOntoPatch`, `receiverPatch` and `senderPatch`: what the driver is handed;
* `ConnectionAPIServer.syncResources` and `route`, with **`route_eq`**;
* `senderActiveState`, `receiverActiveState`;
* `Op`, `step`: whatever changes the server.
-/

namespace Aes67.Nmos

open Ravenna (ConnectionApi ConnectionState JsonObject Json ApiResponse TaiTime Surroundings
  jsonResponse castUInt16)

/-! ## What the driver says and is told -/

/-- A sender as the driver lists it. -/
structure ConnectionSender where
  id : Text
  label : Text := []
  multicastAddress : Text := []
  port : UInt16 := 0
  sourceAddress : Text := []
  sdp : Text := []
  enabled : Bool := true

/-- A receiver as the driver lists it. -/
structure ConnectionReceiver where
  id : Text
  label : Text := []
  multicastAddress : Text := []
  port : UInt16 := 0
  senderId : Text := []
  sdp : Text := []
  enabled : Bool := true

/-- What a PATCH asked for. -/
structure ConnectionPatch where
  masterEnable : Option Bool := none
  senderId : Option Text := none
  multicastAddress : Option Text := none
  port : Option UInt16 := none
  interfaceAddress : Option Text := none
  transportFile : Option Text := none
  activateImmediate : Bool := false
  deriving DecidableEq

/-- What IS-05 says about one resource; `present` is the source's `exists`. -/
structure ConnectionActiveState where
  present : Bool := false
  masterEnable : Bool := false
  peerId : Text := []

/-- The listers and the patchers, as they are for one request. -/
structure Driver where
  senders : List ConnectionSender := []
  receivers : List ConnectionReceiver := []
  patcher : Option (Text → ConnectionPatch → Bool) := none
  senderPatcher : Option (Text → ConnectionPatch → Bool) := none

/-- The address a leg names, unless it is left to the device. -/
def legText (leg : JsonObject) (name : Text) : Option Text :=
  match leg.find? name with
  | some (.str t) => if t = "auto".toList ∨ t = [] then none else some t
  | _ => none

/-- The port a leg names. -/
def legPort (leg : JsonObject) : Option UInt16 :=
  match leg.find? "destination_port".toList with
  | some (.num (.fin q)) => if 0 < q ∧ q ≤ 65535 then some (castUInt16 (.fin q)) else none
  | _ => none

/-- `legOntoPatch`. -/
def legOntoPatch (leg : JsonObject) (forSender : Bool) (patch : ConnectionPatch) :
    ConnectionPatch :=
  { patch with
    multicastAddress := legText leg (Ravenna.destinationName forSender)
    interfaceAddress :=
      if forSender then patch.interfaceAddress else legText leg "interface_ip".toList
    port := (legPort leg).or patch.port }

/-- A text, or nothing where there is none. -/
def ofText (t : Text) : Option Text := if t = [] then none else some t

/-- The patch of a receiver's activation. -/
def receiverPatch (staged : ConnectionState) (sdp : Text) (masterEnable : Bool) :
    ConnectionPatch :=
  legOntoPatch staged.transportParams false
    { masterEnable := some masterEnable, activateImmediate := true, transportFile := ofText sdp,
      senderId := ofText staged.senderId }

/-- The patch of a sender's activation. -/
def senderPatch (staged : ConnectionState) (sdp : Text) (masterEnable : Bool) : ConnectionPatch :=
  legOntoPatch staged.transportParams true
    { masterEnable := some masterEnable, activateImmediate := true, transportFile := ofText sdp }

namespace Driver

variable (driver : Driver)

def hasSenderPatcher : Bool := driver.senderPatcher.isSome

def patch (id : Text) (patch : ConnectionPatch) : Bool := driver.patcher.any fun f => f id patch

def patchSender (id : Text) (patch : ConnectionPatch) : Bool :=
  driver.senderPatcher.any fun f => f id patch

/-- What `wireApi` answers the activation of a receiver. -/
def onReceiverActivation (id : Text) (staged : ConnectionState) (sdp : Text)
    (masterEnable : Bool) : Except Text Unit :=
  if driver.patch id (receiverPatch staged sdp masterEnable) then .ok ()
  else .error "the driver would not take it".toList

/-- What `wireApi` answers the activation of a sender. -/
def onSenderActivation (id : Text) (staged : ConnectionState) (sdp : Text)
    (masterEnable : Bool) : Except Text Unit :=
  if !driver.hasSenderPatcher then
    .error "this driver's senders cannot be re-addressed".toList
  else if driver.patchSender id (senderPatch staged sdp masterEnable) then .ok ()
  else .error "the driver would not take it".toList

end Driver

/-! ## Seeding -/

/-- The fields of a shape, with a separator between them. -/
def joinShape (fields : List Text) : Text := ['\x1f'].intercalate fields

/-- A flag as a stream writes it. -/
def showFlag (b : Bool) : Text := (if b then "1" else "0").toList

/-- What a sender looks like. -/
def ConnectionSender.shape (sender : ConnectionSender) : Text :=
  joinShape [sender.label, sender.multicastAddress, showNat sender.port.toNat,
    sender.sourceAddress, showFlag sender.enabled, sender.sdp]

/-- What a receiver looks like. -/
def ConnectionReceiver.shape (receiver : ConnectionReceiver) : Text :=
  joinShape [receiver.label, receiver.multicastAddress, showNat receiver.port.toNat,
    receiver.senderId, showFlag receiver.enabled, receiver.sdp]

/-- The sender put into the API for one the driver lists. -/
def ConnectionSender.fresh (sender : ConnectionSender) : Ravenna.ConnectionSender :=
  let active : ConnectionState := { masterEnable := sender.enabled, transportFile := sender.sdp }
  { id := sender.id, label := sender.label, sdp := sender.sdp, active := active, staged := active }

/-- The leg a receiver is put into the API with. -/
def ConnectionReceiver.leg (receiver : ConnectionReceiver) : JsonObject :=
  let leg := if receiver.multicastAddress = [] then .empty
    else OrdMap.empty.insert "multicast_ip".toList (.str receiver.multicastAddress)
  if receiver.port = 0 then leg
  else leg.insert "destination_port".toList (.ofNat receiver.port.toNat)

/-- The receiver put into the API for one the driver lists. -/
def ConnectionReceiver.fresh (receiver : ConnectionReceiver) : Ravenna.ConnectionReceiver :=
  let active : ConnectionState :=
    { masterEnable := receiver.enabled, senderId := receiver.senderId,
      transportFile := receiver.sdp, transportParams := receiver.leg }
  { id := receiver.id, label := receiver.label, active := active, staged := active }

/-- `ConnectionAPIServer`: the API, and the shape of each resource when it was last copied there. -/
structure ConnectionAPIServer where
  api : ConnectionApi := {}
  seeded : OrdMap Text Text := .empty

namespace ConnectionAPIServer

variable (server : ConnectionAPIServer)

/-- A sender that does not look as it did is put into the API. -/
def seedSender (seeded : OrdMap Text Text) (acc : ConnectionApi × OrdMap Text Text)
    (sender : ConnectionSender) : ConnectionApi × OrdMap Text Text :=
  (if seeded.find? sender.id = some sender.shape then acc.1 else acc.1.addSender sender.fresh,
    acc.2.insert sender.id sender.shape)

/-- A receiver that does not look as it did is put into the API. -/
def seedReceiver (seeded : OrdMap Text Text) (acc : ConnectionApi × OrdMap Text Text)
    (receiver : ConnectionReceiver) : ConnectionApi × OrdMap Text Text :=
  (if seeded.find? receiver.id = some receiver.shape then acc.1
    else acc.1.addReceiver receiver.fresh,
    acc.2.insert receiver.id receiver.shape)

/-- A resource that is not listed any more is forgotten. -/
def forget (present : OrdMap Text Text) (api : ConnectionApi) (id : Text) : ConnectionApi :=
  if (present.find? id).isSome then api
  else { api with senders := api.senders.erase id, receivers := api.receivers.erase id }

/-- `syncResources`. -/
def syncResources (driver : Driver) : ConnectionAPIServer :=
  let seeded := driver.receivers.foldl (seedReceiver server.seeded)
    (driver.senders.foldl (seedSender server.seeded) (server.api, .empty))
  ⟨server.seeded.keys.foldl (forget seeded.2) seeded.1, seeded.2⟩

/-! ## Requests -/

/-- `pathPieces`. -/
def pathPieces (path : Text) : List Text := (getlines '/' path).filter (· ≠ [])

def kApiVersion : Text := "v1.1".toList

/-- `jsonList`, in an answer. -/
def listReply (entries : List String) : ApiResponse :=
  jsonResponse 200 (.arr (entries.map fun entry => .str entry.toList))

def emptyReply (status : ℕ) : ApiResponse := jsonResponse status (.arr [])

/-- What surrounds a request: the times and the reading of `Surroundings`, the driver, and what the
router of the other APIs answers, if there is one. -/
structure Visit where
  arrival : TaiTime
  now : TaiTime
  time : UInt64 := 0
  reparse : Json → Except Text Json := .ok
  driver : Driver
  fallback : Option ApiResponse := none

/-- The surroundings the API answers in. -/
def Visit.surroundings (v : Visit) : Surroundings where
  arrival := v.arrival
  now := v.now
  time := v.time
  reparse := v.reparse
  onSenderActivation := v.driver.onSenderActivation
  onActivation := v.driver.onReceiverActivation

/-- The pieces, below the version, of a sender's staged endpoint. -/
def isStagedSender : List Text → Bool
  | [single, senders, _, staged] =>
    single = "single".toList && senders = "senders".toList && staged = "staged".toList
  | _ => false

/-- The API answers, once it is level with what the driver lists. -/
def delegate (v : Visit) (method path : Text) (body : Except Text Json) :
    ConnectionAPIServer × ApiResponse :=
  let synced := server.syncResources v.driver
  let (api, answer) := synced.api.handle v.surroundings method path body
  ({ synced with api := api }, answer)

/-- `route`. -/
def route (v : Visit) (method path : Text) (body : Except Text Json) :
    ConnectionAPIServer × ApiResponse :=
  match pathPieces path with
  | [] => (server, emptyReply 404)
  | root :: pieces =>
    if root ≠ "x-nmos".toList then (server, emptyReply 404)
    else match pieces with
      | [] => (server,
          listReply (if v.fallback.isSome then ["connection/", "node/"] else ["connection/"]))
      | kind :: pieces =>
        if kind ≠ "connection".toList then (server, v.fallback.getD (emptyReply 404))
        else match pieces with
          | [] => (server, listReply ["v1.1/"])
          | version :: pieces =>
            if version ≠ kApiVersion then (server, emptyReply 404)
            else if method = "PATCH".toList ∧ isStagedSender pieces ∧ !v.driver.hasSenderPatcher then
              (server, emptyReply 501)
            else server.delegate v method path body

/-- The request is one the API answers. -/
def Delegated (v : Visit) (method path : Text) : Prop :=
  ∃ pieces, pathPieces path = "x-nmos".toList :: "connection".toList :: kApiVersion :: pieces ∧
    ¬ (method = "PATCH".toList ∧ isStagedSender pieces ∧ !v.driver.hasSenderPatcher)

/-- **A request is answered by the API, or changes nothing.** -/
theorem route_eq (v : Visit) (method path : Text) (body : Except Text Json) :
    (Delegated v method path ∧
      server.route v method path body = server.delegate v method path body) ∨
    (¬ Delegated v method path ∧ (server.route v method path body).1 = server) := by
  unfold route Delegated
  match hp : pathPieces path with
  | [] =>
    refine Or.inr ⟨?_, rfl⟩
    rintro ⟨_, h, -⟩
    cases h
  | [root] =>
    refine Or.inr ⟨?_, ?_⟩
    · rintro ⟨_, h, -⟩
      cases h
    · dsimp only
      split_ifs <;> rfl
  | [root, kind] =>
    refine Or.inr ⟨?_, ?_⟩
    · rintro ⟨_, h, -⟩
      cases h
    · dsimp only
      split_ifs <;> rfl
  | root :: kind :: version :: pieces =>
    dsimp only
    by_cases h1 : root ≠ "x-nmos".toList
    · rw [if_pos h1]
      refine Or.inr ⟨?_, rfl⟩
      rintro ⟨_, h, -⟩
      exact h1 (List.cons.inj h).1
    by_cases h2 : kind ≠ "connection".toList
    · rw [if_neg h1, if_pos h2]
      refine Or.inr ⟨?_, rfl⟩
      rintro ⟨_, h, -⟩
      exact h2 (List.cons.inj (List.cons.inj h).2).1
    by_cases h3 : version ≠ kApiVersion
    · rw [if_neg h1, if_neg h2, if_pos h3]
      refine Or.inr ⟨?_, rfl⟩
      rintro ⟨_, h, -⟩
      exact h3 (List.cons.inj (List.cons.inj (List.cons.inj h).2).2).1
    rw [not_not] at h1 h2 h3
    subst h1 h2 h3
    rw [if_neg (not_not.mpr rfl), if_neg (not_not.mpr rfl), if_neg (not_not.mpr rfl)]
    by_cases h4 : method = "PATCH".toList ∧ isStagedSender pieces ∧ !v.driver.hasSenderPatcher
    · rw [if_pos h4]
      refine Or.inr ⟨?_, rfl⟩
      rintro ⟨rest, h, hn⟩
      rw [← (List.cons.inj (List.cons.inj (List.cons.inj h).2).2).2] at hn
      exact hn h4
    · rw [if_neg h4]
      exact Or.inl ⟨⟨pieces, rfl, h4⟩, rfl⟩

/-! ## The state other publishers ask for -/

/-- `senderActiveState`, with what it leaves of the server. -/
def senderActiveState (driver : Driver) (id : Text) :
    ConnectionAPIServer × ConnectionActiveState :=
  let synced := server.syncResources driver
  (synced, match synced.api.senders.find? id with
    | some sender => ⟨true, sender.active.masterEnable, sender.active.receiverId⟩
    | none => {})

/-- `receiverActiveState`, with what it leaves of the server. -/
def receiverActiveState (driver : Driver) (id : Text) :
    ConnectionAPIServer × ConnectionActiveState :=
  let synced := server.syncResources driver
  (synced, match synced.api.receivers.find? id with
    | some receiver => ⟨true, receiver.active.masterEnable, receiver.active.senderId⟩
    | none => {})

/-- Whatever changes the server: a request, or somebody asking for the state of a resource. -/
inductive Op
  | route (v : Visit) (method path : Text) (body : Except Text Json)
  | activeState (driver : Driver)

/-- The server after one of these. -/
def step : Op → ConnectionAPIServer
  | .route v method path body => (server.route v method path body).1
  | .activeState driver => server.syncResources driver

end ConnectionAPIServer

end Aes67.Nmos
