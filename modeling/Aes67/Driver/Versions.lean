import Aes67.Driver.Callbacks
import Aes67.Nmos.NodeAPIRouter
import Aes67.Nmos.Subscriptions

/-!
# What a version stands for

IS-04 has one version for all that the node describes, and the driver makes a new one whenever a stream is
added or removed or the endpoint changes. What IS-05 has active is part of the description too.

* `Node`, with `nmosSenderResources`, `nmosReceiverResources` and `answer`: the server, the device and the
  router, and what the router answers;
* `Occurrence`, `Node.step`: requests of either API, whatever happens to the streams, and the endpoint;
* `Settled`: copying the lists leaves what is active of each connection; `Quiet`: once the version there is
  was read, nothing else changes a connection without the streams;
* `Kept`, with **`kept_step`**: a quiet step that makes no new version leaves what is described;
* **`versions_differ`**: along quiet runs, documents that differ have versions that differ;
* `pointed_same_version`: a sender that is pointed at a receiver makes for a run that is not quiet.
-/

namespace Aes67.AES67Device

open Nmos (ConnectionActiveState ConnectionAPIServer Driver NMOSNode NMOSReceiverResource
  NMOSSenderResource NodeAPIRouter Reply Resource patchOf)
open Nmos.ConnectionAPIServer (Delegated Lists Undisturbed)
open Ravenna (ConnectionApi ConnectionState Json Record Told kActivateImmediate)
open Sdp (SDPSession)

/-! ## Connections -/

/-- What is active of a connection: whether it is enabled, and its far end. -/
def connection (state : ConnectionState) (forSender : Bool) : Bool × Text :=
  (state.masterEnable, state.farEnd forSender)

/-- What IS-04 says of a connection; one that IS-05 does not know is enabled. -/
def shownOf (state : ConnectionActiveState) : Bool × Text :=
  if state.present then (state.masterEnable, state.peerId) else (true, [])

/-- What it says where this is the API. -/
def shown (api : ConnectionApi) (forSender : Bool) (id : Text) : Bool × Text :=
  (api.activeState forSender id).getD (true, [])

theorem shown_of_none {api : ConnectionApi} {forSender : Bool} {id : Text}
    (h : api.record forSender id = none) : shown api forSender id = (true, []) := by
  rw [shown, ConnectionApi.activeState, h]
  rfl

theorem shown_of_some {api : ConnectionApi} {forSender : Bool} {id : Text} {r : Record}
    (h : api.record forSender id = some r) :
    shown api forSender id = connection r.active forSender := by
  rw [shown, ConnectionApi.activeState, h]
  rfl

section Requests

variable {address : Text} {env : Ravenna.Surroundings} {forSender : Bool} {r r' : Record}
  {state : ConnectionState} {c : Bool × Text}

/-- An activation leaves a connection that it does not ask to be another. -/
theorem connection_activate (hr : connection r.active forSender = c)
    (h : (r.call address env forSender state).accepted = true → connection state forSender = c) :
    connection (r.activate address env forSender state).active forSender = c := by
  unfold Record.activate
  split_ifs with haccepted
  · rw [← h haccepted]
    unfold Record.accepted
    cases forSender <;> rfl
  · exact hr

theorem connection_due (hr : connection r.active forSender = c)
    (h : ∀ t ∈ r.dueCalls address env forSender, t.accepted = true →
      connection t.requested forSender = c) :
    connection (r.due address env forSender).active forSender = c := by
  unfold Record.due
  unfold Record.dueCalls at h
  split_ifs at h ⊢
  · exact connection_activate hr (h _ (List.mem_singleton_self _))
  · exact hr

theorem connection_patched {body : Except Text Json} {calls : List Told} {answer : Ravenna.ApiResponse}
    (hp : r.Patched address env forSender body r' calls answer) (hr : connection r.active forSender = c)
    (h : ∀ t ∈ calls, t.accepted = true → connection t.requested forSender = c) :
    connection r'.active forSender = c := by
  cases hp with
  | refused | staged | placeless | promised | unwilling => exact hr
  | @activated staged _ _ _ _ _ =>
    exact connection_activate (r := { r with staged := staged }) hr (h _ (List.mem_singleton_self _))

theorem connection_patches {bodies : List (Except Text Json)}
    {results : List (List Told × Ravenna.ApiResponse)}
    (hp : r.Patches address env forSender bodies r' results) (hr : connection r.active forSender = c)
    (h : ∀ t ∈ results.flatMap Prod.fst, t.accepted = true → connection t.requested forSender = c) :
    connection r'.active forSender = c := by
  induction hp with
  | nil r => exact hr
  | cons hone _ ih =>
    rw [List.flatMap_cons] at h
    exact ih (connection_patched hone hr fun t ht => h t (List.mem_append_left _ ht))
      fun t ht => h t (List.mem_append_right _ ht)

/-- The calls a request makes about a resource. -/
def newCalls (api api' : ConnectionApi) (forSender : Bool) (id : Text) : List Told :=
  (api'.toldOf forSender id).drop (api.toldOf forSender id).length

/-- **A request leaves a connection that its calls do not ask to be another.** -/
theorem shown_handle {api : ConnectionApi} (hk : api.Keyed) (env : Ravenna.Surroundings)
    (method path : Text) (body : Except Text Json) {forSender : Bool} {id : Text}
    (h : ∀ t ∈ newCalls api (api.handle env method path body).1 forSender id, t.accepted = true →
      connection t.requested forSender = shown api forSender id) :
    shown (api.handle env method path body).1 forSender id = shown api forSender id := by
  obtain ⟨-, -, hspec⟩ := ConnectionApi.handle_spec hk env method path body
  obtain ⟨hnone, hsome⟩ := hspec forSender id
  cases hr : api.record forSender id with
  | none => rw [shown_of_none hr, shown_of_none (hnone hr).1]
  | some r =>
    obtain ⟨r', results, hpatches, hr', htold⟩ := hsome r hr
    rw [newCalls, htold, List.drop_left, shown_of_some hr] at h
    rw [shown_of_some hr, shown_of_some hr']
    refine connection_patches hpatches (connection_due rfl fun t ht => ?_) fun t ht => ?_
    · exact h t (List.mem_append_left _ ht)
    · exact h t (List.mem_append_right _ ht)

end Requests

/-! ## The node -/

/-- The name of a kind of resource in identifiers. -/
def kindOf (forSender : Bool) : String := if forSender then "sender" else "receiver"

/-- The identifier of a session's resource. -/
def resourceId (deriveId : Text → Text → Text) (d : AES67Device) (forSender : Bool) (sdp : SDPSession) :
    Text := d.nmosIdFor deriveId (kindOf forSender) sdp.sessionName

/-- A sender as `nmosSenderResources` lists it. -/
def senderResource (sdp : SDPSession) (shown : Bool × Text) : NMOSSenderResource where
  name := sdp.sessionName
  description := sdp.sessionInfo
  sampleRate := sdp.sampleRate.toNat
  channels := sdp.numChannels.toNat
  encoding := if sdp.encoding = [] then "L24".toList else sdp.encoding
  masterEnable := shown.1
  subscribedReceiverId := shown.2

/-- A receiver as `nmosReceiverResources` lists it. -/
def receiverResource (sdp : SDPSession) (shown : Bool × Text) : NMOSReceiverResource where
  name := sdp.sessionName
  description := sdp.sessionInfo
  masterEnable := shown.1
  subscribedSenderId := shown.2

/-- A free receiver as it is listed. -/
def spareResource (index : ℕ) : NMOSReceiverResource where
  name := spareReceiverName index
  description := "Not subscribed: patch a transport file here to subscribe".toList

/-- The server over its device, and the router; `read` is whether a controller was told of a connection
since the version is what it is. -/
structure Node where
  system : System
  router : NodeAPIRouter
  read : Bool := false

namespace Node

variable (deriveId : Text → Text → Text) (clock : UInt64) (σ : Node)

abbrev device : AES67Device := σ.system.device

abbrev api : ConnectionApi := σ.system.server.api

/-- The lists are copied for somebody who is told. -/
def copied : Node := { σ with system := σ.system.step deriveId (.asked clock), read := true }

/-- The state of each session is asked for, one after another. -/
def askEach (forSender : Bool) : List SDPSession → Node → Node × List (SDPSession × ConnectionActiveState)
  | [], σ => (σ, [])
  | sdp :: sessions, σ =>
    let state := σ.system.server.activeState (σ.device.lists deriveId clock) forSender
      (σ.device.resourceId deriveId forSender sdp)
    let (σ, asked) := askEach forSender sessions (σ.copied deriveId clock)
    (σ, (sdp, state) :: asked)

/-- `nmosSenderResources`. -/
def nmosSenderResources : Node × List NMOSSenderResource :=
  let (σ', asked) := askEach deriveId clock true σ.device.streamManager.getTransmitSessions σ
  (σ', asked.map fun (sdp, state) => senderResource sdp (shownOf state))

/-- `nmosReceiverResources`. -/
def nmosReceiverResources : Node × List NMOSReceiverResource :=
  let (σ', asked) := askEach deriveId clock false σ.device.streamManager.getReceiveSessions σ
  (σ', (asked.map fun (sdp, state) => receiverResource sdp (shownOf state)) ++
    (List.range kSpareReceiverCount).map spareResource)

/-- What the router answers, with what that leaves of the node. -/
def answer (method path : Text) : Node × Reply :=
  σ.router.route deriveId (nmosSenderResources deriveId clock) (nmosReceiverResources deriveId clock)
    method path σ

/-! ### Runs -/

/-- A request of IS-05, with what surrounds what it hands the device; somebody else asking for the state of
a resource; whatever else happens to the device; another endpoint; and a request of IS-04. -/
inductive Occurrence
  | request (r : Request) (env : ℕ → Env)
  | asked (clock : UInt64)
  | device (op : Op)
  | setEndpoint (apiHost : Text) (apiPort : UInt16) (controlHref : Text)
  | get (clock : UInt64) (method path : Text)

/-- What a request hands the device. -/
def handed (r : Request) (env : ℕ → Env) : List Op :=
  ((σ.system.serve deriveId r).1.api.told.drop σ.api.told.length).zipIdx.map fun (t, k) =>
    if t.forSender then .patchSender (env k) t.id (patchOf t)
    else .patchReceiver (env k) t.id (patchOf t)

/-- What happens to the device. -/
def ops : Occurrence → List Op
  | .request r env => σ.handed deriveId r env
  | .device op => [op]
  | _ => []

/-- A callback of the manager is raised. -/
def raises (e : Occurrence) : Bool := σ.device.raisesAmong deriveId (σ.ops deriveId e)

/-- The node with a stream added or removed at this time. -/
def touch (now : ℕ) : Node := { σ with router := σ.router.touch now, read := false }

/-- The node after something that happens at a time. -/
def step (σ : Node) : ℕ × Occurrence → Node
  | (now, .setEndpoint apiHost apiPort controlHref) =>
    { σ with router := σ.router.setEndpoint apiHost apiPort controlHref now, read := false }
  | (_, .get clock method path) => (σ.answer deriveId clock method path).1
  | (_, .asked clock) => { σ with system := σ.system.step deriveId (.asked clock) }
  | (now, .device op) =>
    let σ' := { σ with system := σ.system.step deriveId (.device op) }
    if σ.raises deriveId (.device op) then σ'.touch now else σ'
  | (now, .request r env) =>
    let served : System :=
      ⟨(σ.system.serve deriveId r).1, (σ.handed deriveId r env).foldl (AES67Device.step deriveId) σ.device⟩
    if σ.raises deriveId (.request r env) then ({ σ with system := served } : Node).touch now
    else { σ with system := served }

/-- The node from `Initialize` on. -/
def started (settings : Settings) (initially : ℕ → Env) (node : NMOSNode) (now : ℕ) : Node where
  system := AES67Device.started settings initially
  router := .create { node with id := settings.nodeId } [] now

/-! ### Quiet steps -/

/-- Copying the lists leaves what is active: a resource looks as it did when it was copied last, or is
copied with what is active. -/
def Settled : Prop :=
  ∀ e ∈ (σ.device.lists deriveId clock).resources,
    σ.system.server.seeded.find? e.id = some e.shape ∨
      connection e.record.active e.forSender = shown σ.api e.forSender e.id

/-- Nothing but a stream that is added or removed changes a connection, once one was told of at this
version: the lists are settled whenever they are copied, and an activation that the device accepts without
adding or removing a stream asks for what is active. -/
def Quiet (σ : Node) : ℕ × Occurrence → Prop
  | (_, .request r env) => σ.read = true → σ.raises deriveId (.request r env) = false →
    Delegated (σ.system.visit deriveId r) r.method r.path →
    σ.Settled deriveId r.clock ∧ ∀ forSender id,
      ∀ t ∈ newCalls σ.api (σ.system.serve deriveId r).1.api forSender id, t.accepted = true →
        connection t.requested forSender = shown (σ.copied deriveId r.clock).api forSender id
  | (_, .asked clock) => σ.read = true → σ.Settled deriveId clock
  | (_, .get clock method path) => ∀ wanted, σ.router.named method path = .ok wanted →
    ∀ k, ((copied deriveId clock)^[k] σ).read = true → ((copied deriveId clock)^[k] σ).Settled deriveId clock
  | _ => True

/-! ## What a node is told -/

section Told

variable {deriveId : Text → Text → Text} {clock : UInt64} {σ : Node} {d : AES67Device}
  {router : NodeAPIRouter} {read forSender : Bool} {c : Bool → SDPSession → Bool × Text}

/-- The sessions of both directions are listed. -/
theorem lists_session {sdp : SDPSession} (h : sdp ∈ d.streamManager.sessions forSender) :
    Lists (d.lists deriveId clock).resources (d.resourceId deriveId forSender sdp) := by
  cases forSender with
  | true =>
    refine ⟨_, List.mem_append_left _ (List.mem_map_of_mem (List.mem_map_of_mem h)), ?_⟩
    change d.nmosIdFor deriveId "sender" (nameOwnSource sdp).sessionName = _
    rw [nameOwnSource_sessionName]
    rfl
  | false =>
    exact ⟨_, List.mem_append_right _ (List.mem_map_of_mem (List.mem_append_left _
      (List.mem_map_of_mem h))), rfl⟩

/-- **Copying settled lists changes no connection.** -/
theorem shown_copied (h : σ.Settled deriveId clock) {id : Text}
    (hl : Lists (σ.device.lists deriveId clock).resources id) :
    shown (σ.copied deriveId clock).api forSender id = shown σ.api forSender id := by
  change shown (σ.system.server.syncResources (σ.device.lists deriveId clock)).api forSender id = _
  by_cases hu : Undisturbed σ.system.server.seeded (σ.device.lists deriveId clock).resources forSender id
  · rw [shown, shown, ConnectionApi.activeState, ConnectionApi.activeState,
      ConnectionAPIServer.record_of_undisturbed hl hu]
  · obtain ⟨e, he, rfl, rfl, hshape, hr⟩ := ConnectionAPIServer.record_of_disturbed hu
    rw [shown_of_some hr]
    exact (h e he).resolve_left hshape

/-- The node, however often it is asked: what it says of the sessions of `d` is `c`. -/
structure Telling (deriveId : Text → Text → Text) (clock : UInt64) (d : AES67Device)
    (router : NodeAPIRouter) (read : Bool) (c : Bool → SDPSession → Bool × Text) (σ : Node) : Prop where
  device : σ.device = d
  router : σ.router = router
  told : read = true → σ.read = true
  shown : ∀ forSender, ∀ sdp ∈ d.streamManager.sessions forSender,
    shown (σ.copied deriveId clock).api forSender (d.resourceId deriveId forSender sdp) = c forSender sdp
  shownNow : σ.read = true → ∀ forSender, ∀ sdp ∈ d.streamManager.sessions forSender,
    AES67Device.shown σ.api forSender (d.resourceId deriveId forSender sdp) = c forSender sdp
  settled : ∀ k, ((copied deriveId clock)^[k + 1] σ).Settled deriveId clock

/-- A node that is quiet while it is asked says what it says once the lists are copied. -/
theorem telling_self (h : ∀ k, ((copied deriveId clock)^[k] σ).read = true →
      ((copied deriveId clock)^[k] σ).Settled deriveId clock) :
    Telling deriveId clock σ.device σ.router σ.read (fun forSender sdp =>
      AES67Device.shown (σ.copied deriveId clock).api forSender
        (σ.device.resourceId deriveId forSender sdp)) σ where
  device := rfl
  router := rfl
  told := id
  shown _ _ _ := rfl
  shownNow hread _ _ hsdp := (shown_copied (h 0 hread) (lists_session hsdp)).symm
  settled k := by
    refine h (k + 1) ?_
    rw [Function.iterate_succ_apply']
    rfl

theorem Telling.copied (h : Telling deriveId clock d router read c σ) :
    Telling deriveId clock d router read c (σ.copied deriveId clock) where
  device := h.device
  router := h.router
  told _ := rfl
  shown forSender sdp hsdp := by
    have hl : Lists ((σ.copied deriveId clock).device.lists deriveId clock).resources
        (d.resourceId deriveId forSender sdp) := by
      rw [show (σ.copied deriveId clock).device = d from h.device]
      exact lists_session hsdp
    exact (shown_copied (h.settled 0) hl).trans (h.shown forSender sdp hsdp)
  shownNow _ := h.shown
  settled k := h.settled (k + 1)

/-- The state a session is said to be in. -/
theorem shownOf_activeState (id : Text) :
    shownOf (σ.system.server.activeState (σ.device.lists deriveId clock) forSender id) =
      shown (σ.copied deriveId clock).api forSender id := by
  rw [ConnectionAPIServer.activeState_eq]
  change shownOf _ = ((σ.system.server.syncResources (σ.device.lists deriveId clock)).api.activeState
    forSender id).getD (true, [])
  cases (σ.system.server.syncResources (σ.device.lists deriveId clock)).api.activeState forSender id <;> rfl

theorem askEach_spec (h : Telling deriveId clock d router read c σ) (forSender : Bool)
    (sessions : List SDPSession) (hs : ∀ sdp ∈ sessions, sdp ∈ d.streamManager.sessions forSender) :
    Telling deriveId clock d router read c (askEach deriveId clock forSender sessions σ).1 ∧
      (askEach deriveId clock forSender sessions σ).2.map (fun (sdp, state) => (sdp, shownOf state)) =
        sessions.map fun sdp => (sdp, c forSender sdp) := by
  induction sessions generalizing σ with
  | nil => exact ⟨h, rfl⟩
  | cons sdp sessions ih =>
    obtain ⟨htelling, hlist⟩ := ih h.copied fun sdp' hsdp => hs sdp' (List.mem_cons_of_mem _ hsdp)
    refine ⟨htelling, ?_⟩
    rw [askEach]
    dsimp only
    rw [List.map_cons, List.map_cons, hlist, shownOf_activeState, h.device,
      h.shown forSender sdp (hs sdp List.mem_cons_self)]

/-- What the listers say where the connections are these. -/
def listedSenders (d : AES67Device) (c : Bool → SDPSession → Bool × Text) : List NMOSSenderResource :=
  d.streamManager.getTransmitSessions.map fun sdp => senderResource sdp (c true sdp)

def listedReceivers (d : AES67Device) (c : Bool → SDPSession → Bool × Text) :
    List NMOSReceiverResource :=
  (d.streamManager.getReceiveSessions.map fun sdp => receiverResource sdp (c false sdp)) ++
    (List.range kSpareReceiverCount).map spareResource

theorem steady (d : AES67Device) (router : NodeAPIRouter) (read : Bool)
    (c : Bool → SDPSession → Bool × Text) :
    NodeAPIRouter.Steady (nmosSenderResources deriveId clock) (nmosReceiverResources deriveId clock)
      (Telling deriveId clock d router read c) (listedSenders d c) (listedReceivers d c) where
  senders σ h := by
    obtain ⟨htelling, hlist⟩ := askEach_spec h true d.streamManager.getTransmitSessions fun _ hsdp => hsdp
    have hmap := congrArg (List.map fun e : SDPSession × Bool × Text => senderResource e.1 e.2) hlist
    rw [List.map_map, List.map_map] at hmap
    rw [nmosSenderResources, h.device]
    exact ⟨htelling, hmap⟩
  receivers σ h := by
    obtain ⟨htelling, hlist⟩ := askEach_spec h false d.streamManager.getReceiveSessions fun _ hsdp => hsdp
    have hmap := congrArg (List.map fun e : SDPSession × Bool × Text => receiverResource e.1 e.2) hlist
    rw [List.map_map, List.map_map] at hmap
    rw [nmosReceiverResources, h.device]
    exact ⟨htelling, congrArg (· ++ _) hmap⟩

/-- A quiet node that is asked answers what it says once the lists are copied. -/
theorem answer_spec (h : ∀ k, ((copied deriveId clock)^[k] σ).read = true →
      ((copied deriveId clock)^[k] σ).Settled deriveId clock) (method path : Text) :
    ∃ c, Telling deriveId clock σ.device σ.router σ.read c σ ∧
      Telling deriveId clock σ.device σ.router σ.read c (σ.answer deriveId clock method path).1 ∧
      (σ.answer deriveId clock method path).2 =
        σ.router.reply deriveId (listedSenders σ.device c) (listedReceivers σ.device c) method path :=
  ⟨_, telling_self h, NodeAPIRouter.route_steady (steady σ.device σ.router σ.read _) (telling_self h)
    method path⟩

/-- What copying the lists keeps, an answer keeps. -/
theorem answer_keeps {P : Node → Prop} (hP : ∀ σ, P σ → P (σ.copied deriveId clock)) (h : P σ)
    (method path : Text) : P (σ.answer deriveId clock method path).1 := by
  have hask : ∀ forSender sessions σ, P σ → P (askEach deriveId clock forSender sessions σ).1 := by
    intro forSender sessions
    induction sessions with
    | nil => exact fun σ h => h
    | cons sdp sessions ih => exact fun σ h => ih _ (hP σ h)
  exact NodeAPIRouter.route_keeps (fun σ h => hask true _ σ h) (fun σ h => hask false _ σ h) h method path

/-! ### Nobody is told -/

/-- Whoever asks for a session is told. -/
theorem askEach_frame (forSender : Bool) (sessions : List SDPSession) (σ : Node) :
    (askEach deriveId clock forSender sessions σ).1.device = σ.device ∧
      ((askEach deriveId clock forSender sessions σ).1.read = false → σ.read = false ∧ sessions = []) := by
  induction sessions generalizing σ with
  | nil => exact ⟨rfl, fun h => ⟨h, rfl⟩⟩
  | cons sdp sessions ih =>
    obtain ⟨hdevice, hread⟩ := ih (σ.copied deriveId clock)
    exact ⟨hdevice, fun h => Bool.noConfusion (hread h).1⟩

/-- Where nobody is told of a session, the connections do not matter. -/
theorem collect_unread {collection : Text} (h : (σ.router.collect deriveId
      (nmosSenderResources deriveId clock) (nmosReceiverResources deriveId clock) collection σ).1.read =
        false) (c c' : Bool → SDPSession → Bool × Text) :
    (σ.router.collect deriveId (fun u : Unit => (u, listedSenders σ.device c))
        (fun u => (u, listedReceivers σ.device c)) collection ()).2 =
      (σ.router.collect deriveId (fun u : Unit => (u, listedSenders σ.device c'))
        (fun u => (u, listedReceivers σ.device c')) collection ()).2 := by
  have hsenders : ∀ σ : Node, (nmosSenderResources deriveId clock σ).1.read = false →
      σ.read = false ∧ σ.device.streamManager.getTransmitSessions = [] := fun σ =>
    (askEach_frame true _ σ).2
  have hreceivers : ∀ σ : Node, (nmosReceiverResources deriveId clock σ).1.read = false →
      σ.read = false ∧ σ.device.streamManager.getReceiveSessions = [] := fun σ =>
    (askEach_frame false _ σ).2
  have hdevice : (nmosSenderResources deriveId clock σ).1.device = σ.device := (askEach_frame true _ σ).1
  unfold NodeAPIRouter.collect at h ⊢
  dsimp only at h ⊢
  unfold listedSenders listedReceivers
  split_ifs at h ⊢
  · obtain ⟨hread, hrx⟩ := hreceivers _ h
    rw [hdevice] at hrx
    rw [(hsenders σ hread).2, hrx]
    rfl
  · rw [(hsenders σ h).2]
    rfl
  · rw [(hreceivers σ h).2]
    rfl
  · rfl

theorem reply_unread {method path : Text} (h : (σ.answer deriveId clock method path).1.read = false)
    (c c' : Bool → SDPSession → Bool × Text) :
    σ.router.reply deriveId (listedSenders σ.device c) (listedReceivers σ.device c) method path =
      σ.router.reply deriveId (listedSenders σ.device c') (listedReceivers σ.device c') method path := by
  unfold answer NodeAPIRouter.route at h
  unfold NodeAPIRouter.reply NodeAPIRouter.route
  cases hnamed : σ.router.named method path with
  | error reply => rfl
  | ok wanted =>
    rw [hnamed] at h
    dsimp only at h ⊢
    rw [collect_unread h c c']

end Told

/-! ## Steps -/

section Steps

variable {deriveId : Text → Text → Text} {σ σ' σ'' : Node} {e : ℕ × Occurrence} {t : ℕ}

theorem sessions_congr {s s' : StreamManager} (h : s'.described = s.described) (forSender : Bool) :
    s'.sessions forSender = s.sessions forSender := by
  have hsessions : ∀ s : StreamManager, s.sessions forSender =
      (s.described.values.filter fun v => v.1 = forSender).map Prod.snd := fun s => by
    simp only [StreamManager.sessions, StreamManager.described, OrdMap.values, OrdMap.mapValues,
      OrdMap.mapWithKey, List.map_map, List.filter_map]
    rfl
  rw [hsessions, hsessions, h]

/-- What is described is what it was; and if a controller was told of a connection, the connections are. -/
structure Kept (deriveId : Text → Text → Text) (σ σ' : Node) : Prop where
  described : σ'.device.streamManager.described = σ.device.streamManager.described
  nodeId : σ'.device.nmosNodeId = σ.device.nmosNodeId
  router : σ'.router = σ.router
  shown : σ.read = true → σ'.read = true ∧
    ∀ forSender, ∀ sdp ∈ σ.device.streamManager.sessions forSender,
      shown σ'.api forSender (σ.device.resourceId deriveId forSender sdp) =
        AES67Device.shown σ.api forSender (σ.device.resourceId deriveId forSender sdp)

theorem Kept.sessions (h : Kept deriveId σ σ') (forSender : Bool) :
    σ'.device.streamManager.sessions forSender = σ.device.streamManager.sessions forSender :=
  sessions_congr h.described forSender

theorem Kept.resourceId (h : Kept deriveId σ σ') (forSender : Bool) (sdp : SDPSession) :
    σ'.device.resourceId deriveId forSender sdp = σ.device.resourceId deriveId forSender sdp := by
  rw [AES67Device.resourceId, AES67Device.resourceId, nmosIdFor, nmosIdFor, h.nodeId]

theorem Kept.refl (σ : Node) : Kept deriveId σ σ := ⟨rfl, rfl, rfl, fun h => ⟨h, fun _ _ _ => rfl⟩⟩

theorem Kept.trans (h : Kept deriveId σ σ') (h' : Kept deriveId σ' σ'') : Kept deriveId σ σ'' where
  described := h'.described.trans h.described
  nodeId := h'.nodeId.trans h.nodeId
  router := h'.router.trans h.router
  shown hread := by
    obtain ⟨hread', hshown⟩ := h.shown hread
    obtain ⟨hread'', hshown'⟩ := h'.shown hread'
    refine ⟨hread'', fun forSender sdp hsdp => ?_⟩
    have hlater := hshown' forSender sdp (h.sessions forSender ▸ hsdp)
    rw [h.resourceId] at hlater
    exact hlater.trans (hshown forSender sdp hsdp)

theorem Kept.of_telling {clock : UInt64} {c : Bool → SDPSession → Bool × Text}
    (h : Telling deriveId clock σ.device σ.router σ.read c σ)
    (h' : Telling deriveId clock σ.device σ.router σ.read c σ') : Kept deriveId σ σ' where
  described := by rw [h'.device]
  nodeId := by rw [h'.device]
  router := h'.router
  shown hread := by
    refine ⟨h'.told hread, fun forSender sdp hsdp => ?_⟩
    rw [h'.shownNow (h'.told hread) forSender sdp hsdp, h.shownNow hread forSender sdp hsdp]

/-- The step makes a new version. -/
def touches (deriveId : Text → Text → Text) (σ : Node) : Occurrence → Bool
  | .setEndpoint _ _ _ => true
  | e => σ.raises deriveId e

theorem kept_request (hs : σ.system.server.Sound) {r : Request} {env : ℕ → Env} {now : ℕ}
    (hq : σ.Quiet deriveId (now, .request r env)) (ht : σ.raises deriveId (.request r env) = false) :
    Kept deriveId σ (σ.step deriveId (now, .request r env)) := by
  obtain ⟨hdescribed, hnode⟩ := described_steps ht
  rw [step, if_neg (Bool.eq_false_iff.mp ht)]
  refine ⟨hdescribed, hnode, rfl, fun hread => ⟨hread, fun forSender sdp hsdp => ?_⟩⟩
  change shown (σ.system.serve deriveId r).1.api _ _ = _
  rcases σ.system.server.route_eq (σ.system.visit deriveId r) r.method r.path r.body with
    ⟨hdelegated, e⟩ | ⟨-, e⟩
  · obtain ⟨hsettled, hcalls⟩ := hq hread ht hdelegated
    have hcopied : shown (σ.copied deriveId r.clock).api forSender (σ.device.resourceId deriveId forSender sdp) =
        shown σ.api forSender (σ.device.resourceId deriveId forSender sdp) :=
      shown_copied hsettled (lists_session hsdp)
    have hcalls := hcalls forSender (σ.device.resourceId deriveId forSender sdp)
    rw [← hcopied]
    rw [System.serve, e] at hcalls ⊢
    refine shown_handle (hs.syncResources _).keyed _ _ _ _ fun t htold => hcalls t ?_
    rw [newCalls, ConnectionAPIServer.toldOf_syncResources] at htold
    exact htold
  · rw [System.serve, e]

/-- **A quiet step that makes no new version** leaves what is described. -/
theorem kept_step (hs : σ.system.server.Sound) (hq : σ.Quiet deriveId e)
    (ht : σ.touches deriveId e.2 = false) : Kept deriveId σ (σ.step deriveId e) := by
  obtain ⟨now, e⟩ := e
  cases e with
  | request r env => exact kept_request hs hq ht
  | asked clock =>
    exact ⟨rfl, rfl, rfl, fun hread => ⟨hread, fun forSender sdp hsdp =>
      shown_copied (hq hread) (lists_session hsdp)⟩⟩
  | device op =>
    have ht : σ.raises deriveId (.device op) = false := ht
    obtain ⟨hdescribed, hnode⟩ := described_steps ht
    rw [step, if_neg (Bool.eq_false_iff.mp ht)]
    exact ⟨hdescribed, hnode, rfl, fun hread => ⟨hread, fun _ _ _ => rfl⟩⟩
  | setEndpoint apiHost apiPort controlHref => cases ht
  | get clock method path =>
    rw [step]
    cases hnamed : σ.router.named method path with
    | error answered =>
      rw [answer, NodeAPIRouter.route_of_named hnamed]
      exact Kept.refl σ
    | ok wanted =>
      obtain ⟨c, htelling, htelling', -⟩ := answer_spec (hq wanted hnamed) method path
      exact .of_telling htelling htelling'

theorem sound_step (hs : σ.system.server.Sound) (e : ℕ × Occurrence) :
    (σ.step deriveId e).system.server.Sound := by
  obtain ⟨now, e⟩ := e
  cases e with
  | request r env =>
    have hserved : (σ.system.serve deriveId r).1.Sound :=
      ConnectionAPIServer.sound_step hs (.route (σ.system.visit deriveId r) r.method r.path r.body)
    rw [step]
    split_ifs <;> exact hserved
  | asked clock => exact hs.syncResources _
  | device op =>
    rw [step]
    split_ifs <;> exact hs
  | setEndpoint apiHost apiPort controlHref => exact hs
  | get clock method path =>
    exact answer_keeps (P := fun σ => σ.system.server.Sound) (fun σ h => h.syncResources _) hs method path

/-! ## Runs -/

/-- The version is one of this time. -/
def Stamped (σ : Node) (t : ℕ) : Prop := σ.router.touch t = σ.router

variable (deriveId) in
theorem stamped_step (h : σ.Stamped t) (e : ℕ × Occurrence) :
    (σ.touches deriveId e.2 = false → (σ.step deriveId e).Stamped t) ∧
      (σ.touches deriveId e.2 = true → (σ.step deriveId e).Stamped e.1) := by
  obtain ⟨now, e⟩ := e
  cases e with
  | request r env =>
    change (σ.raises deriveId (.request r env) = false → _) ∧ (σ.raises deriveId (.request r env) = true → _)
    refine ⟨fun ht => ?_, fun ht => ?_⟩
    · rw [step, if_neg (Bool.eq_false_iff.mp ht)]
      exact h
    · rw [step, if_pos ht]
      rfl
  | asked clock => exact ⟨fun _ => h, fun ht => Bool.noConfusion ht⟩
  | device op =>
    change (σ.raises deriveId (.device op) = false → _) ∧ (σ.raises deriveId (.device op) = true → _)
    refine ⟨fun ht => ?_, fun ht => ?_⟩
    · rw [step, if_neg (Bool.eq_false_iff.mp ht)]
      exact h
    · rw [step, if_pos ht]
      rfl
  | setEndpoint apiHost apiPort controlHref => exact ⟨fun ht => Bool.noConfusion ht, fun _ => rfl⟩
  | get clock method path =>
    exact ⟨fun _ => answer_keeps (P := fun σ => σ.Stamped t) (fun σ h => h) h method path,
      fun ht => Bool.noConfusion ht⟩

variable (deriveId) in
/-- The version is the one there was, or is one of a time in between. -/
theorem stamped_run (h : σ.Stamped t) (events : List (ℕ × Occurrence)) :
    ∃ t', (t' = t ∨ t' ∈ events.map Prod.fst) ∧ (events.foldl (step deriveId) σ).Stamped t' := by
  induction events generalizing σ t with
  | nil => exact ⟨t, Or.inl rfl, h⟩
  | cons e events ih =>
    obtain ⟨hkeeps, hstamps⟩ := stamped_step deriveId h e
    cases ht : σ.touches deriveId e.2 with
    | false =>
      obtain ⟨t', htime, hfinal⟩ := ih (hkeeps ht)
      exact ⟨t', htime.imp_right (List.mem_cons_of_mem _), hfinal⟩
    | true =>
      obtain ⟨t', htime, hfinal⟩ := ih (hstamps ht)
      refine ⟨t', Or.inr ?_, hfinal⟩
      rcases htime with rfl | hmem
      · exact List.mem_cons_self
      · exact List.mem_cons_of_mem _ hmem

/-- **A quiet run keeps what is described, or ends with a later version.** -/
theorem kept_run (hs : σ.system.server.Sound) (h : σ.Stamped t) {events : List (ℕ × Occurrence)}
    (hlate : ∀ e ∈ events, t < e.1) (hq : Along (step deriveId) (Quiet deriveId) σ events) :
    Kept deriveId σ (events.foldl (step deriveId) σ) ∨
      ∃ t' > t, (events.foldl (step deriveId) σ).Stamped t' := by
  induction events generalizing σ with
  | nil => exact Or.inl (Kept.refl σ)
  | cons e events ih =>
    obtain ⟨hkeeps, hstamps⟩ := stamped_step deriveId h e
    cases ht : σ.touches deriveId e.2 with
    | false =>
      have hrest := ih (sound_step hs e) (hkeeps ht) (fun e he => hlate e (List.mem_cons_of_mem _ he)) hq.2
      exact hrest.imp_left (kept_step hs hq.1 ht).trans
    | true =>
      obtain ⟨t', htime, hfinal⟩ := stamped_run deriveId (hstamps ht) events
      refine Or.inr ⟨t', ?_, hfinal⟩
      rcases htime with rfl | hmem
      · exact hlate e List.mem_cons_self
      · obtain ⟨e', he', rfl⟩ := List.mem_map.mp hmem
        exact hlate e' (List.mem_cons_of_mem _ he')

/-- Where a node is kept after it was asked, it answers as it did. -/
theorem answer_eq {now now' : ℕ} {clock clock' : UInt64} {method path : Text}
    (hq : σ.Quiet deriveId (now, .get clock method path))
    (hk : Kept deriveId (σ.answer deriveId clock method path).1 σ')
    (hq' : σ'.Quiet deriveId (now', .get clock' method path)) :
    (σ'.answer deriveId clock' method path).2 = (σ.answer deriveId clock method path).2 := by
  have hrouter : σ'.router = σ.router :=
    hk.router.trans (answer_keeps (P := fun τ => τ.router = σ.router) (fun _ h => h) rfl method path)
  cases hnamed : σ.router.named method path with
  | error answered =>
    rw [answer, answer, hrouter, NodeAPIRouter.route_of_named hnamed,
      NodeAPIRouter.route_of_named hnamed]
  | ok wanted =>
    obtain ⟨c, -, htelling, he⟩ := answer_spec (hq wanted hnamed) method path
    obtain ⟨c', htelling', -, he'⟩ := answer_spec (hq' wanted (hrouter.symm ▸ hnamed)) method path
    have hsame : ∀ c, listedSenders σ'.device c = listedSenders σ.device c ∧
        listedReceivers σ'.device c = listedReceivers σ.device c := by
      intro c
      have hsessions := hk.sessions
      rw [htelling.device] at hsessions
      unfold listedSenders listedReceivers StreamManager.getTransmitSessions StreamManager.getReceiveSessions
      rw [hsessions, hsessions]
      exact ⟨rfl, rfl⟩
    rw [he, he', hrouter, (hsame c').1, (hsame c').2]
    cases hread : (σ.answer deriveId clock method path).1.read with
    | false => exact reply_unread hread c' c
    | true =>
      obtain ⟨hread', hshown⟩ := hk.shown hread
      have hc : ∀ forSender, ∀ sdp ∈ σ.device.streamManager.sessions forSender,
          c' forSender sdp = c forSender sdp := by
        intro forSender sdp hsdp
        have hafter := htelling'.shownNow hread' forSender sdp (by rwa [hk.sessions, htelling.device])
        have hbefore := hshown forSender sdp (by rwa [htelling.device])
        rw [hk.resourceId, hbefore, htelling.device] at hafter
        exact hafter.symm.trans (htelling.shownNow hread forSender sdp hsdp)
      have hsenders : listedSenders σ.device c' = listedSenders σ.device c :=
        List.map_congr_left fun sdp hsdp => congrArg (senderResource sdp) (hc true sdp hsdp)
      have hreceivers : listedReceivers σ.device c' = listedReceivers σ.device c :=
        congrArg (· ++ _) (List.map_congr_left fun sdp hsdp =>
          congrArg (receiverResource sdp) (hc false sdp hsdp))
      rw [hsenders, hreceivers]

/-- Where no two resources have one id, a request of IS-04 is quiet as soon as the first copy is. -/
theorem quiet_get {now : ℕ} {clock : UInt64} {method path : Text}
    (hids : ((σ.device.lists deriveId clock).resources.map Resource.id).Nodup)
    (h : σ.read = true → σ.Settled deriveId clock) :
    σ.Quiet deriveId (now, .get clock method path) := by
  have hkeeps : ∀ k, ((copied deriveId clock)^[k] σ).device = σ.device := fun k => by
    induction k with
    | zero => rfl
    | succ k ih => exact (congrArg Node.device (Function.iterate_succ_apply' _ k σ)).trans ih
  intro wanted _ k hread
  cases k with
  | zero => exact h hread
  | succ k =>
    rw [Function.iterate_succ_apply']
    intro e he
    have he : e ∈ (((copied deriveId clock)^[k] σ).device.lists deriveId clock).resources := he
    have hids : (((((copied deriveId clock)^[k] σ).device.lists deriveId clock).resources).map
        Resource.id).Nodup := (hkeeps k).symm ▸ hids
    refine Or.inl ?_
    change (((copied deriveId clock)^[k] σ).system.server.syncResources _).seeded.find? e.id = _
    rw [ConnectionAPIServer.syncResources_eq]
    exact ConnectionAPIServer.foldl_seed_shape hids he _

/-- **Documents that differ have versions that differ**, along every run that is quiet. -/
theorem versions_differ (deriveId : Text → Text → Text) (settings : Settings) (initially : ℕ → Env)
    (node : NMOSNode) (start : ℕ) (before between : List (ℕ × Occurrence)) (now₁ now₂ : ℕ)
    (clock₁ clock₂ : UInt64) (method path : Text) :
    let σ₀ := Node.started settings initially node start
    let first := (now₁, Occurrence.get clock₁ method path)
    let σ₁ := before.foldl (step deriveId) σ₀
    let σ₂ := (before ++ first :: between).foldl (step deriveId) σ₀
    let events := before ++ first :: between ++ [(now₂, Occurrence.get clock₂ method path)]
    (start :: events.map Prod.fst).Pairwise (· < ·) →
    Along (step deriveId) (Quiet deriveId) σ₀ events →
    (σ₁.answer deriveId clock₁ method path).2 ≠ (σ₂.answer deriveId clock₂ method path).2 →
    σ₁.router.version ≠ σ₂.router.version := by
  intro σ₀ first σ₁ σ₂ events htimes hquiet hdiffer hsame
  have hevents : events = before ++ first :: (between ++ [(now₂, .get clock₂ method path)]) := by
    simp only [events, List.append_assoc, List.cons_append]
  have hσ₂ : σ₂ = between.foldl (step deriveId) (σ₁.step deriveId first) := List.foldl_append
  rw [hevents] at htimes hquiet
  obtain ⟨-, hfirst, hrest⟩ := along_append.mp hquiet
  obtain ⟨hbetween, hsecond, -⟩ := along_append.mp hrest
  rw [← hσ₂] at hsecond
  have hsound : σ₁.system.server.Sound :=
    (always_of_step (P := fun σ : Node => σ.system.server.Sound) (fun _ e h => sound_step h e)
      ConnectionAPIServer.sound_empty : Always (step deriveId) _ σ₀ before).run
  obtain ⟨t, ht, hstamp⟩ := stamped_run deriveId (show σ₀.Stamped start from rfl) before
  have hlate : ∀ e ∈ between, t < e.1 := by
    rw [List.map_append, ← List.cons_append] at htimes
    intro e he
    refine (List.pairwise_append.mp htimes).2.2 t ?_ e.1 ?_
    · exact List.mem_cons.mpr ht
    · exact List.mem_map_of_mem (List.mem_cons_of_mem _ (List.mem_append_left _ he))
  have hrun := kept_run (sound_step hsound first) ((stamped_step deriveId hstamp first).1 rfl) hlate hbetween
  rw [← hσ₂] at hrun
  rcases hrun with hkept | ⟨t', hlater, hstamp'⟩
  · exact hdiffer (answer_eq hfirst hkept hsecond).symm
  · refine hlater.ne (NodeAPIRouter.version_touch_injective σ₁.router σ₂.router ?_)
    rw [hstamp, hstamp']
    exact hsame

/-! ### A sender that a controller points at a receiver -/

/-- The sender in a saved file, with the address it is sent from. -/
def savedSender : PersistedStreamConfig where
  sdp := { sessionName := "Test AES67 TX Stream".toList
           sessionID := 7
           originAddress := "10.0.0.1".toList
           connectionAddress := "239.1.1.2".toList
           numChannels := 2 }
  mapping := { streamID := ⟨1, by decide⟩
               streamName := "Test AES67 TX Stream".toList
               streamChannelCount := 2
               deviceChannelCount := 2 }
  isTransmit := true

def savedSettings : Settings := { nodeId := "n".toList, savedStreams := some [savedSender] }

/-- The node that takes the saved sender back. -/
def restored : Node := started savedSettings opened { id := "n".toList } 1

def senderPath : Text := "/x-nmos/node/v1.3/senders/nsender:Test AES67 TX Stream".toList

/-- The patch of a controller that says which receiver the sender feeds. -/
def pointRequest (d : AES67Device) : Request :=
  { switchRequest d true with
    body := .ok (.obj [("activation".toList, .obj [("mode".toList, .str kActivateImmediate)]),
      ("receiver_id".toList, .str "r".toList)]) }

/-- The sender is switched off between two requests, and the second finds it no more. -/
theorem versions_differ_switched_off :
    (restored.router.version ≠ ([(2, .get 0 "GET".toList senderPath),
      (3, .request (switchRequest restored.device false) fun _ => opened 9)].foldl (step joined)
        restored).router.version) := by
  refine versions_differ joined savedSettings opened { id := "n".toList } 1 []
    [(3, .request (switchRequest restored.device false) fun _ => opened 9)] 2 4 0 0 "GET".toList senderPath
    (by decide) ⟨quiet_get (by decide +kernel) fun hread => Bool.noConfusion hread,
      fun _ hraises => absurd hraises (by decide +kernel),
      quiet_get (by decide +kernel) fun hread => absurd hread (by decide +kernel), trivial⟩
    (by decide +kernel)

/-- **A sender that is pointed at a receiver** is described otherwise, with the version it had. -/
theorem pointed_same_version :
    let σ := [(2, .get 0 "GET".toList senderPath),
      (3, .request (pointRequest restored.device) fun _ => opened 9)].foldl (step joined) restored
    (σ.answer joined 0 "GET".toList senderPath).2 ≠ (restored.answer joined 0 "GET".toList senderPath).2 ∧
      σ.router.version = restored.router.version := by
  decide +kernel

end Steps

end Node

end Aes67.AES67Device
