import Aes67.Driver.Readdress
import Aes67.Nmos.ReadBack

/-!
# Off and on again

The connection server lists the device's senders at every request, and forgets what is not listed. A
sender that a controller switches off loses its stream, and with it its place on the list; the device
remembers it, the server does not.

* `Level`: the server keeps exactly the senders it copied last, with **`level_syncResources`**;
* `Event`, `System.step`: requests of the server and whatever happens to the device;
* `status_patch_iff`: a patch of a sender is answered 404 exactly where the device does not list it;
* `Up`: the sender runs as it did, `alike_of_up`: and so it does when it is switched on;
* **`switched_on_again_iff`**: after a sender was switched off, a patch that switches it on gets to
  the device exactly where the device still, or again, lists it.
-/

namespace Aes67

open Nmos (ConnectionAPIServer ConnectionPatch Driver)
open Ravenna (ConnectionApi Json Record kActivateImmediate)
open Nmos.ConnectionAPIServer (Visit Lists Undisturbed Delegated)

/-! ## What the server keeps -/

namespace Nmos.ConnectionAPIServer

variable {server : ConnectionAPIServer} {driver : Driver} {id : Text}

/-- The sender is kept exactly where it was copied last. -/
def Level (id : Text) (server : ConnectionAPIServer) : Prop :=
  (server.api.record true id).isSome = true ↔ (server.seeded.find? id).isSome = true

/-- **After the lists are copied, the sender is kept exactly where it is listed.** -/
theorem level_syncResources (h : Level id server)
    (hreceivers : ∀ receiver ∈ driver.receivers, receiver.id ≠ id) :
    Level id (server.syncResources driver) ∧
      (((server.syncResources driver).api.record true id).isSome = true ↔
        ∃ sender ∈ driver.senders, sender.id = id) := by
  have hlists : Lists driver.resources id ↔ ∃ sender ∈ driver.senders, sender.id = id := by
    constructor
    · rintro ⟨e, he, hid⟩
      rcases List.mem_append.mp he with he | he
      · obtain ⟨sender, hs, rfl⟩ := List.mem_map.mp he
        exact ⟨sender, hs, hid⟩
      · obtain ⟨receiver, hr, rfl⟩ := List.mem_map.mp he
        exact absurd hid (hreceivers receiver hr)
    · rintro ⟨sender, hs, hid⟩
      exact ⟨sender.resource, List.mem_append_left _ (List.mem_map_of_mem hs), hid⟩
  have hrecord : ((server.syncResources driver).api.record true id).isSome = true ↔
      Lists driver.resources id := by
    by_cases hl : Lists driver.resources id
    · refine iff_of_true ?_ hl
      by_cases hu : Undisturbed server.seeded driver.resources true id
      · rw [record_of_undisturbed hl hu]
        obtain ⟨sender, hs, hid⟩ := hlists.mp hl
        refine h.mpr ?_
        rw [hu sender.resource (List.mem_append_left _ (List.mem_map_of_mem hs)) rfl hid]
        rfl
      · obtain ⟨e, -, -, -, -, hrec⟩ := record_of_disturbed hu
        rw [hrec]
        rfl
    · refine iff_of_false ?_ hl
      rw [(record_syncResources true id).2 hl]
      split_ifs with hkey
      · simp
      · refine fun hs => hkey ?_
        obtain ⟨shape, hf⟩ := Option.isSome_iff_exists.mp (h.mp hs)
        exact (OrdMap.mem_keys_iff _).mpr ⟨shape, hf⟩
  have hseeded : ((server.syncResources driver).seeded.find? id).isSome = true ↔
      Lists driver.resources id := by
    rw [syncResources_eq]
    refine (foldl_seed_present server.seeded driver.resources id (server.api, .empty)).trans ?_
    simp
  exact ⟨hrecord.trans hseeded.symm, hrecord.trans hlists⟩

/-- A request leaves every resource where it is. -/
theorem isSome_record_handle {api : ConnectionApi} (hk : api.Keyed) (env : Ravenna.Surroundings)
    (method path : Text) (body : Except Text Json) :
    ((api.handle env method path body).1.record true id).isSome = (api.record true id).isSome := by
  obtain ⟨-, -, hspec⟩ := ConnectionApi.handle_spec hk env method path body
  cases hr : api.record true id with
  | none => rw [((hspec true id).1 hr).1]
  | some r =>
    obtain ⟨r', -, -, hr', -⟩ := (hspec true id).2 r hr
    rw [hr']
    rfl

theorem level_delegate (hs : server.Sound) (h : Level id server) (v : Visit)
    (hreceivers : ∀ receiver ∈ v.driver.receivers, receiver.id ≠ id) (method path : Text)
    (body : Except Text Json) : Level id (server.delegate v method path body).1 := by
  have hlevel := (level_syncResources h hreceivers).1
  rw [delegate]
  dsimp only
  rw [Level, isSome_record_handle (hs.syncResources v.driver).keyed]
  exact hlevel

end Nmos.ConnectionAPIServer

/-- A patch of a resource that there is is not answered 404. -/
theorem Ravenna.Record.Patched.status_ne {r r' : Record} {address : Text} {env : Ravenna.Surroundings}
    {forSender : Bool} {body : Except Text Json} {calls : List Ravenna.Told}
    {answer : Ravenna.ApiResponse} (h : r.Patched address env forSender body r' calls answer) :
    answer.status ≠ 404 := by
  cases h with
  | refused | staged | placeless | promised | activated | unwilling =>
    exact Nat.ne_of_beq_eq_false rfl

/-- **A patch of what is staged is answered 404 exactly where there is no such resource.** -/
theorem Ravenna.ConnectionApi.status_patch_iff {api : ConnectionApi} {env : Ravenna.Surroundings}
    {path id : Text} {forSender : Bool} (hp : Ravenna.ConnectionApi.Leads path forSender id "staged".toList)
    (body : Except Text Json) : (api.answer env "PATCH".toList path body).2.status = 404 ↔
      api.record forSender id = none := by
  cases hr : api.record forSender id with
  | none => exact iff_of_true (status_of_none hp hr) rfl
  | some r =>
    refine iff_of_false ?_ (Option.some_ne_none r)
    rw [answer_of_record hp hr]
    change (api.patchStaged env forSender id body).2.status ≠ 404
    rcases api.patchStaged_cases env forSender id body with
      ⟨hn, -⟩ | ⟨r₀, r', calls, answer, -, hpatched, e⟩
    · rw [hr] at hn
      cases hn
    · rw [e]
      exact hpatched.status_ne

/-! ## The device under its server -/

namespace AES67Device

open Nmos.ConnectionAPIServer (Level)

/-- A request, with the time at which the sessions are described and what the patchers answer while
it is served. The lists of its driver are the device's. -/
structure Request where
  visit : Visit
  clock : UInt64 := 0
  patch : Text → ConnectionPatch → Bool := fun _ _ => false
  patchSender : Text → ConnectionPatch → Bool := fun _ _ => false
  method : Text := "PATCH".toList
  path : Text
  body : Except Text Json

/-- Requests, others asking for the state of a resource, and whatever happens to the device. What a
request hands the device happens to it after the request: nothing the server reads comes between. -/
inductive Event
  | request (r : Request)
  | asked (clock : UInt64)
  | device (op : Op)

structure System where
  server : ConnectionAPIServer := {}
  device : AES67Device

variable (deriveId : Text → Text → Text)

/-- What the device lists. -/
def lists (d : AES67Device) (clock : UInt64) : Driver where
  senders := d.connectionSenders deriveId clock
  receivers := d.connectionReceivers deriveId clock

/-- The driver as the server finds it. -/
def wired (d : AES67Device) (r : Request) : Driver :=
  { d.lists deriveId r.clock with patcher := some r.patch, senderPatcher := some r.patchSender }

namespace System

/-- The visit of a request. -/
def visit (σ : System) (r : Request) : Visit := { r.visit with driver := σ.device.wired deriveId r }

/-- What a request leaves of the server, and what it is answered. -/
def serve (σ : System) (r : Request) : ConnectionAPIServer × Ravenna.ApiResponse :=
  σ.server.route (σ.visit deriveId r) r.method r.path r.body

def step (σ : System) : Event → System
  | .request r => { σ with server := (σ.serve deriveId r).1 }
  | .asked clock => { σ with server := σ.server.syncResources (σ.device.lists deriveId clock) }
  | .device op => { σ with device := σ.device.step deriveId op }

end System

variable {deriveId : Text → Text → Text} {d d' : AES67Device} {σ : System} {id : Text}

/-- Nothing changes the identity of the node. -/
theorem nmosNodeId_step (d : AES67Device) (op : Op) :
    (d.step deriveId op).nmosNodeId = d.nmosNodeId := by
  cases op with
  | SetSampleRate rate =>
    rw [step, SetSampleRate]
    split_ifs <;> rfl
  | StartIO startCount opens =>
    rw [step, StartIOImpl]
    split_ifs <;> rfl
  | StopIO startCount =>
    rw [step, StopIOImpl]
    split_ifs <;> rfl
  | onStreams op => rfl
  | patchSender env senderId patch =>
    change (d.applySenderConnectionPatch deriveId env senderId patch).1.nmosNodeId = _
    rw [applySenderConnectionPatch_eq]
    cases d.senderAction deriveId senderId patch with
    | answer | stop | readdress => rfl
    | restart stopped address port =>
      rw [perform, restartSender]
      dsimp only
      split_ifs <;> rfl
  | patchReceiver env receiverId patch =>
    change (d.applyConnectionPatch deriveId env receiverId patch).1.nmosNodeId = _
    rw [applyConnectionPatch]
    split
    · split_ifs
      · rw [subscribeSpareReceiver]
        split_ifs
        · rfl
        · rfl
        split
        · rfl
        dsimp only
        split_ifs <;> rfl
      · rfl
    split_ifs
    · rfl
    · rw [disconnectReceiver]
      dsimp only
      split <;> rfl
    split <;> rfl

/-- The identifier is no receiver's. -/
def NoReceiver (deriveId : Text → Text → Text) (d : AES67Device) (id : Text) : Prop :=
  ∀ name, d.nmosIdFor deriveId "receiver" name ≠ id

theorem NoReceiver.listed (h : NoReceiver deriveId d id) (clock : UInt64) :
    ∀ receiver ∈ d.connectionReceivers deriveId clock, receiver.id ≠ id := by
  intro receiver hmem
  rcases List.mem_append.mp hmem with hmem | hmem
  · obtain ⟨sdp, -, rfl⟩ := List.mem_map.mp hmem
    exact h _
  · obtain ⟨index, -, rfl⟩ := List.mem_map.mp hmem
    exact h _

theorem nameOwnSource_sessionName (sdp : Sdp.SDPSession) :
    (nameOwnSource sdp).sessionName = sdp.sessionName := by
  rw [nameOwnSource]
  dsimp only
  split_ifs <;> rfl

/-- The device lists the senders that run. -/
theorem mem_connectionSenders_iff (clock : UInt64) :
    (∃ sender ∈ d.connectionSenders deriveId clock, sender.id = id) ↔
      (d.runningSender deriveId id).isSome = true := by
  rw [runningSender, List.find?_isSome]
  constructor
  · rintro ⟨sender, hmem, hid⟩
    obtain ⟨sdp, hsdp, rfl⟩ := List.mem_map.mp hmem
    refine ⟨sdp, hsdp, ?_⟩
    rw [listedSender] at hid
    dsimp only at hid
    rw [nameOwnSource_sessionName] at hid
    simpa using hid
  · rintro ⟨sdp, hsdp, hid⟩
    refine ⟨_, List.mem_map_of_mem hsdp, ?_⟩
    rw [listedSender]
    dsimp only
    rw [nameOwnSource_sessionName]
    simpa using hid

/-- What every run keeps of the server, for one sender. -/
structure InStep (deriveId : Text → Text → Text) (id : Text) (σ : System) : Prop where
  sound : σ.server.Sound
  level : Level id σ.server
  noReceiver : NoReceiver deriveId σ.device id

theorem inStep_step (h : InStep deriveId id σ) (e : Event) :
    InStep deriveId id (σ.step deriveId e) := by
  cases e with
  | request r =>
    refine ⟨?_, ?_, h.noReceiver⟩
    · exact ConnectionAPIServer.sound_step h.sound (.route (σ.visit deriveId r) r.method r.path r.body)
    · change Level id (σ.server.route (σ.visit deriveId r) r.method r.path r.body).1
      rcases σ.server.route_eq (σ.visit deriveId r) r.method r.path r.body with ⟨-, e⟩ | ⟨-, e⟩
      · rw [e]
        exact ConnectionAPIServer.level_delegate h.sound h.level _ (h.noReceiver.listed r.clock) _ _ _
      · rw [e]
        exact h.level
  | asked clock =>
    exact ⟨h.sound.syncResources _,
      (ConnectionAPIServer.level_syncResources h.level (h.noReceiver.listed clock)).1, h.noReceiver⟩
  | device op =>
    refine ⟨h.sound, h.level, fun name => ?_⟩
    have hnode : (σ.step deriveId (.device op)).device.nmosNodeId = σ.device.nmosNodeId :=
      nmosNodeId_step _ op
    rw [nmosIdFor, hnode]
    exact h.noReceiver name

/-- The system from `Initialize` on. -/
def started (settings : Settings) (initially : ℕ → Env) : System where
  device := Initialize settings initially

theorem inStep_run {settings : Settings} {initially : ℕ → Env}
    (h : NoReceiver deriveId (Initialize settings initially) id) (events : List Event) :
    InStep deriveId id (events.foldl (System.step deriveId) (started settings initially)) := by
  have hstart : InStep deriveId id (started settings initially) :=
    ⟨ConnectionAPIServer.sound_empty, by simp [Level, ConnectionApi.record, started], h⟩
  have hall : Always (System.step deriveId) (InStep deriveId id) (started settings initially) events :=
    always_of_step (fun _ e h => inStep_step h e) hstart
  exact hall.run

/-- A patch of what the sender has staged, which asks to be activated at once. -/
structure Switches (on : Bool) (id : Text) (r : Request) : Prop where
  method : r.method = "PATCH".toList
  served : ∃ pieces, ConnectionAPIServer.pathPieces r.path =
    "x-nmos".toList :: "connection".toList :: ConnectionAPIServer.kApiVersion :: pieces
  leads : ConnectionApi.Leads r.path true id "staged".toList
  asks : ∃ patch activation, Ravenna.readBody r.body = .ok patch ∧
    patch.get "master_enable" = .bool on ∧
    Ravenna.readActivation r.visit.now patch = .ok activation ∧
    activation.mode = kActivateImmediate

/-- **A patch of a sender is answered 404 exactly where the device does not list the sender.** -/
theorem status_patch_iff (h : InStep deriveId id σ) {on : Bool} {r : Request}
    (hr : Switches on id r) : (σ.serve deriveId r).2.status = 404 ↔
      σ.device.runningSender deriveId id = none := by
  have hd : Delegated (σ.visit deriveId r) r.method r.path := by
    obtain ⟨pieces, hp⟩ := hr.served
    exact ⟨pieces, hp, fun hc => by cases hc.2.2⟩
  rw [System.serve, ConnectionAPIServer.route_of_delegated hd, hr.method]
  have hlisted : ((σ.server.syncResources (σ.visit deriveId r).driver).api.record true id).isSome =
      true ↔ (σ.device.runningSender deriveId id).isSome = true :=
    (ConnectionAPIServer.level_syncResources h.level (h.noReceiver.listed r.clock)).2.trans
      (mem_connectionSenders_iff r.clock)
  have hkeyed := (h.sound.syncResources (σ.visit deriveId r).driver).keyed
  have hdue := ((ConnectionApi.applyDueActivations_spec hkeyed
    (σ.visit deriveId r).surroundings).2 true id).1
  refine (ConnectionApi.status_patch_iff hr.leads r.body).trans ?_
  rw [hdue, Option.map_eq_none_iff, ← Option.not_isSome_iff_eq_none, hlisted,
    Option.not_isSome_iff_eq_none]

/-! ## What the sender is again -/

/-- The streams have one name, one source port, and one mapping but for the identifier. -/
structure Alike (managed managed' : ManagedStream) : Prop where
  name : managed'.sdp.sessionName = managed.sdp.sessionName
  mapping : managed'.mapping = { managed.mapping with streamID := managed'.mapping.streamID }
  sourcePort : managed'.sourcePort = managed.sourcePort

/-- A stream is sent that is like one that the sender had in the device `d₀`. -/
def RunsAsIn (deriveId : Text → Text → Text) (d d₀ : AES67Device) (id : Text) : Prop :=
  ∃ i managed i₀ managed₀, d.streamManager.streams.find? i = some managed ∧
    managed.isTransmit = true ∧ d₀.streamManager.streams.find? i₀ = some managed₀ ∧
    d₀.IsSender deriveId id managed₀ ∧ Alike managed₀ managed

/-- The sender runs, as the only stream of its name, and is like the one it was in `d₀`; the mapping
counts its channels, as that of a stream that was just created does. -/
structure Up (deriveId : Text → Text → Text) (d d₀ : AES67Device) (id : Text) : Prop where
  running : ∃ i managed i₀ managed₀ mapping,
    Only d.streamManager managed.sdp.sessionName i managed ∧ managed.isTransmit = true ∧
    d.runningSender deriveId id = some managed.sdp ∧
    d.streamManager.getMapping i = some mapping ∧
    StreamManager.sentMapping managed.mapping.streamID managed.sdp.sessionName
      managed.sdp.numChannels mapping = managed.mapping ∧
    d₀.streamManager.streams.find? i₀ = some managed₀ ∧ d₀.IsSender deriveId id managed₀ ∧
    Alike managed₀ managed

/-- **A sender that is up is still so once it is switched on.** -/
theorem runsAsIn_of_up {d₀ : AES67Device} (h : Up deriveId d d₀ id) {env : Env}
    {patch : ConnectionPatch} (hon : patch.masterEnable = some true)
    (haccepted : (d.applySenderConnectionPatch deriveId env id patch).2 = true) :
    RunsAsIn deriveId (d.applySenderConnectionPatch deriveId env id patch).1 d₀ id := by
  obtain ⟨i, managed, i₀, managed₀, mapping, honly, ht, hnamed, hmapping, hcomplete, hf₀, hs₀, halike⟩ :=
    h.running
  rw [applySenderConnectionPatch_eq] at haccepted ⊢
  have henabled : patch.masterEnable ≠ some false := by
    rw [hon]
    decide
  rcases senderAction_of_running honly hnamed henabled with
    ⟨answer, e⟩ | ⟨mapping', address, port, e, hmapping'⟩
  · rw [e]
    exact ⟨i, managed, i₀, managed₀, honly.found, ht, hf₀, hs₀, halike⟩
  obtain rfl : mapping' = mapping := Option.some.inj (hmapping'.symm.trans hmapping)
  rw [e, perform] at haccepted ⊢
  dsimp only at haccepted ⊢
  have hport : (d.streamManager.getSourcePort i).getD 0 = managed.sourcePort := by
    rw [StreamManager.getSourcePort, honly.found]
    simp [ht]
  rw [hport] at haccepted ⊢
  rcases (d.streamManager.removeStream i).1.createTxStream_eq env managed.sdp.sessionName address port
    managed.sdp.numChannels mapping' managed.sourcePort (-1) with
    ⟨-, hnull, -⟩ | ⟨-, -, rtp, hstreams⟩
  · rw [hnull] at haccepted
    cases haccepted
  have hfound := congrArg (fun streams => OrdMap.find? streams (env.generated 0)) hstreams
  rw [OrdMap.find?_insert_self] at hfound
  refine ⟨_, _, i₀, managed₀, hfound, rfl, hf₀, hs₀, halike.name, ?_, halike.sourcePort⟩
  calc StreamManager.sentMapping (env.generated 0) managed.sdp.sessionName managed.sdp.numChannels
        mapping'
      = { StreamManager.sentMapping managed.mapping.streamID managed.sdp.sessionName
          managed.sdp.numChannels mapping' with streamID := env.generated 0 } := rfl
    _ = { managed.mapping with streamID := env.generated 0 } := by rw [hcomplete]
    _ = { managed₀.mapping with streamID := env.generated 0 } := by rw [halike.mapping]

/-- **Off and on again**: after a patch that switches a sender off was answered 200, a patch that
switches it on is answered other than 404 exactly where the device lists the sender at that time;
and where the sender is up when the device carries it out and accepts it, it runs as it did when it
was switched off. -/
theorem switched_on_again_iff (deriveId : Text → Text → Text) (settings : Settings)
    (initially : ℕ → Env) (id : Text)
    (hid : NoReceiver deriveId (Initialize settings initially) id) (before between : List Event)
    (off on : Request) :
    let σ₁ := before.foldl (System.step deriveId) (started settings initially)
    let σ₂ := (before ++ .request off :: between).foldl (System.step deriveId)
      (started settings initially)
    Switches false id off → (σ₁.serve deriveId off).2.status = 200 →
    (Switches true id on → ((σ₂.serve deriveId on).2.status ≠ 404 ↔
      (σ₂.device.runningSender deriveId id).isSome = true)) ∧
    ∀ env patch, patch.masterEnable = some true → patch.activateImmediate = true →
      Up deriveId σ₂.device σ₁.device id →
      (σ₂.device.applySenderConnectionPatch deriveId env id patch).2 = true →
      RunsAsIn deriveId (σ₂.device.applySenderConnectionPatch deriveId env id patch).1 σ₁.device id := by
  intro σ₁ σ₂ _ _
  refine ⟨fun hon => ?_, fun env patch hon _ hup haccepted => runsAsIn_of_up hup hon haccepted⟩
  have hstep : InStep deriveId id σ₂ := inStep_run hid _
  rw [Ne, status_patch_iff hstep hon, ← Option.not_isSome_iff_eq_none, not_not]

/-! ## The sender of a fresh installation -/

/-- An identifier that a path can hold. -/
def joined (node name : Text) : Text := node ++ name

def testSender : Text := "nsender:Test AES67 TX Stream".toList

/-- Where the sender is staged. -/
def testSenderPath : Text :=
  "/x-nmos/connection/v1.1/single/senders/nsender:Test AES67 TX Stream/staged".toList

/-- The patch of a controller that switches the sender off or on; the device, as it is, carries it
out. -/
def switchRequest (d : AES67Device) (on : Bool) : Request where
  visit := Nmos.ConnectionAPIServer.visitAt {} 0
  patchSender id patch := (d.applySenderConnectionPatch joined (opened 9) id patch).2
  path := testSenderPath
  body := .ok (.obj [("activation".toList, .obj [("mode".toList, .str kActivateImmediate)]),
    ("master_enable".toList, .bool on)])

theorem switches_switchRequest (d : AES67Device) (on : Bool) :
    Switches on testSender (switchRequest d on) where
  method := rfl
  served := ⟨["single".toList, "senders".toList, testSender, "staged".toList],
    show ConnectionAPIServer.pathPieces testSenderPath = _ by decide⟩
  leads := ⟨show ConnectionApi.kConnectionApiRoot <+: testSenderPath by decide, [],
    show ConnectionApi.segmentsOf (testSenderPath.drop ConnectionApi.kConnectionApiRoot.length) = _
      by decide⟩
  asks := ⟨_, { mode := kActivateImmediate }, rfl, rfl, rfl, rfl⟩

theorem noReceiver_testSender : NoReceiver joined installed testSender := by
  intro name h
  have hsecond := congrArg (fun text : Text => text.drop 1 |>.head?) h
  rw [nmosIdFor, if_neg (by decide)] at hsecond
  cases hsecond

/-- What switching the sender off does to the device. -/
def switchedOff : Event := .device (.patchSender (opened 9) testSender switchOff)

/-- The sender is created again by hand, as it was. -/
def createdAgain : Event :=
  .device (.onStreams ⟨.createTxStream (opened 10) "Test AES67 TX Stream".toList "239.1.1.2".toList 5004 8
    txMapping 0 (-1), rfl⟩)

/-- The sender switched off, and created again. -/
def offAndCreated : System :=
  [.request (switchRequest installed false), switchedOff, createdAgain].foldl (System.step joined)
    (started { nodeId := "n".toList } opened)

/-- The patch that switches a sender on. -/
def switchOn : ConnectionPatch := { masterEnable := some true, activateImmediate := true }

theorem up_offAndCreated :
    Up joined offAndCreated.device (started { nodeId := "n".toList } opened).device testSender := by
  obtain ⟨hsent, hsent₀, honly, hnamed, hmapping⟩ :
      (offAndCreated.device.streamManager.streams.find? ⟨641, by decide⟩).map
          (fun managed => (managed.isTransmit, managed.sdp, managed.mapping, managed.sourcePort)) =
        some (true, announcedTxSession "Test AES67 TX Stream".toList
          "239.1.1.2".toList 5004 8 48000 (-1) 0, StreamManager.sentMapping ⟨641, by decide⟩
            "Test AES67 TX Stream".toList 8 txMapping, 0) ∧
      ((started { nodeId := "n".toList } opened).device.streamManager.streams.find?
          ⟨129, by decide⟩).map
          (fun managed => (managed.isTransmit, managed.sdp, managed.mapping, managed.sourcePort)) =
        some (true, announcedTxSession "Test AES67 TX Stream".toList
          "239.1.1.2".toList 5004 8 48000 (-1) 0, StreamManager.sentMapping ⟨129, by decide⟩
            "Test AES67 TX Stream".toList 8 txMapping, 0) ∧
      (∀ e ∈ offAndCreated.device.streamManager.streams.entries,
        e.2.sdp.sessionName = "Test AES67 TX Stream".toList → e.1 = ⟨641, by decide⟩) ∧
      offAndCreated.device.runningSender joined testSender =
        (offAndCreated.device.streamManager.streams.find? ⟨641, by decide⟩).map ManagedStream.sdp ∧
      offAndCreated.device.streamManager.getMapping ⟨641, by decide⟩ =
        some (StreamManager.sentMapping ⟨641, by decide⟩ "Test AES67 TX Stream".toList 8
          txMapping) := by
    decide +kernel
  obtain ⟨managed, hf, he⟩ := Option.map_eq_some_iff.mp hsent
  obtain ⟨managed₀, hf₀, he₀⟩ := Option.map_eq_some_iff.mp hsent₀
  obtain ⟨ht, hsdp, hmapped, hport⟩ : _ ∧ _ ∧ _ ∧ _ := by simpa only [Prod.mk.injEq] using he
  obtain ⟨ht₀, hsdp₀, hmapped₀, hport₀⟩ : _ ∧ _ ∧ _ ∧ _ := by simpa only [Prod.mk.injEq] using he₀
  refine ⟨_, managed, _, managed₀, _, ⟨hf, rfl, fun id' managed' hf' hn => ?_⟩, ht, ?_, hmapping, ?_,
    hf₀, ⟨ht₀, ?_⟩, ?_, ?_, ?_⟩
  · rw [hsdp] at hn
    exact honly (id', managed') (OrdMap.mem_entries_iff _ |>.mpr hf') hn
  · rw [hnamed, hf]
    rfl
  · rw [hsdp, hmapped]
    rfl
  · rw [hsdp₀]
    decide
  · rw [hsdp, hsdp₀]
  · rw [hmapped, hmapped₀]
    rfl
  · rw [hport, hport₀]

/-- A sender that is created again in between can be switched on, and then runs as it did. -/
theorem testSender_on_again :
    (offAndCreated.serve joined (switchRequest installed true)).2.status ≠ 404 ∧
      RunsAsIn joined (offAndCreated.device.applySenderConnectionPatch joined (opened 11) testSender
        switchOn).1 (started { nodeId := "n".toList } opened).device testSender := by
  obtain ⟨hoff, hruns', haccepted⟩ :
      ((started { nodeId := "n".toList } opened).serve joined
          (switchRequest installed false)).2.status = 200 ∧
        (offAndCreated.device.runningSender joined testSender).isSome = true ∧
        (offAndCreated.device.applySenderConnectionPatch joined (opened 11) testSender switchOn).2 =
          true := by
    decide +kernel
  obtain ⟨hlisted, hruns⟩ := switched_on_again_iff joined { nodeId := "n".toList } opened testSender
    noReceiver_testSender [] [switchedOff, createdAgain] (switchRequest installed false)
    (switchRequest installed true) (switches_switchRequest _ _) hoff
  exact ⟨(hlisted (switches_switchRequest _ _)).mpr hruns',
    hruns (opened 11) switchOn rfl rfl up_offAndCreated haccepted⟩

/-- **A sender that goes off and never back on**: switched off, it is not there to be switched on. -/
theorem testSender_gone :
    Switches false testSender (switchRequest installed false) ∧
    ((started { nodeId := "n".toList } opened).serve joined
      (switchRequest installed false)).2.status = 200 ∧
    Switches true testSender (switchRequest installed true) ∧
    (([.request (switchRequest installed false), switchedOff].foldl (System.step joined)
      (started { nodeId := "n".toList } opened)).serve joined
        (switchRequest installed true)).2.status = 404 := by
  have hanswers : ((started { nodeId := "n".toList } opened).serve joined
        (switchRequest installed false)).2.status = 200 ∧
      (([.request (switchRequest installed false), switchedOff].foldl (System.step joined)
        (started { nodeId := "n".toList } opened)).serve joined
          (switchRequest installed true)).2.status = 404 := by
    decide +kernel
  exact ⟨switches_switchRequest _ _, hanswers.1, switches_switchRequest _ _, hanswers.2⟩

end AES67Device

end Aes67
