import Aes67.Ravenna.Views
import Aes67.Nmos.ReadBack

/-!
# What is published of a connection

IS-04 and the driver's own publishers report what IS-05 has active, and neither lets what has fallen due
happen first.

* `NodeApi.Lists`: IS-04 lists the resource, with `exists_listed`;
* `ConnectionAPIServer.activeState`, with **`activeState_eq`**; `ConnectionActiveState.Matches`: it says what
  an answer says;
* **`published_iff`**: what is published of a resource is what IS-05 answers just where nothing of it that
  shows is due.
-/

namespace Aes67

open Ravenna (ConnectionApi Json NodeApi NodeIdentity Record Reported Surroundings Versions farEndKey)
open Ravenna.ConnectionApi (Leads)

/-! ## The resources of IS-04 -/

namespace Ravenna.NodeApi

variable {hash : Text → UInt64} {versionNow : ℕ → Text} {node : NodeApi} {forSender : Bool} {id : Text}
  {r : Record}

/-- A receiver; or a sender whose label is the name of a session, and is no other sender's. -/
def Lists (node : NodeApi) (forSender : Bool) (id : Text) : Prop :=
  forSender = true → ∃ sender, node.connections.senders.find? id = some sender ∧
    (node.catalogue.find? sender.label).isSome = true ∧
    ∀ id' other, node.connections.senders.find? id' = some other → other.label = sender.label → id' = id

/-- The sender that has the label is the one the session goes by. -/
theorem senderIdFor_eq {sender : ConnectionSender}
    (hf : node.connections.senders.find? id = some sender)
    (honly : ∀ id' other, node.connections.senders.find? id' = some other →
      other.label = sender.label → id' = id) : node.senderIdFor hash sender.label = id := by
  unfold senderIdFor
  cases hfind : node.connections.senders.entries.find? fun e => e.2.label = sender.label with
  | none =>
    have hno := List.find?_eq_none.mp hfind (id, sender) ((OrdMap.mem_entries_iff _).mpr hf)
    exact absurd (decide_eq_true rfl) hno
  | some e =>
    have hmem := (OrdMap.mem_entries_iff _).mp (List.mem_of_find?_eq_some hfind)
    have hlabel : e.2.label = sender.label := by simpa using List.find?_some hfind
    exact honly e.1 e.2 hmem hlabel

/-- What IS-04 lists has a document. -/
theorem exists_listed (hl : node.Lists forSender id)
    (hr : node.connections.record forSender id = some r) :
    ∃ doc ∈ (node.view hash versionNow forSender).1, doc.get "id" = .str id := by
  have hresource : ∃ e ∈ node.resources hash (collectionOf forSender),
      e.1.find? "id".toList = some (.str id) := by
    cases forSender with
    | true =>
      obtain ⟨sender, hf, hnamed, honly⟩ := hl rfl
      refine ⟨node.senderResource hash sender.label, List.mem_map_of_mem
        ((OrdMap.mem_keys_iff _).mpr (Option.isSome_iff_exists.mp hnamed)), ?_⟩
      rw [senderResource_find?.1, senderIdFor_eq hf honly]
    | false =>
      obtain ⟨receiver, hf, -⟩ := Option.map_eq_some_iff.mp hr
      exact ⟨node.receiverResource id receiver, List.mem_map.mpr
        ⟨(id, receiver), (OrdMap.mem_entries_iff _).mpr hf, rfl⟩, (receiverResource_find? receiver).1⟩
  obtain ⟨e, he, hid⟩ := hresource
  obtain ⟨doc, hdoc, stamp, rfl⟩ :=
    @Versions.exists_of_mem_stampAll versionNow node.versions _ _ he
  rw [view_eq]
  refine ⟨_, hdoc, ?_⟩
  rw [Json.get_ofObject, OrdMap.find?_insert, if_neg (by decide), hid]
  rfl

end Ravenna.NodeApi

/-! ## The driver's server -/

namespace Nmos

/-- What is said of a resource is what an answer says of it. -/
structure ConnectionActiveState.Matches (s : ConnectionActiveState) (forSender : Bool) (body : Json) :
    Prop where
  present : s.present = true
  active : .bool s.masterEnable = body.get "master_enable"
  peer : s.masterEnable = true → .ofText s.peerId = body.get (farEndKey forSender)

namespace ConnectionAPIServer

variable {server : ConnectionAPIServer} {driver : Driver} {forSender : Bool} {id path : Text} {r : Record}

/-- What `senderActiveState` or `receiverActiveState` answers. -/
def activeState (server : ConnectionAPIServer) (driver : Driver) (forSender : Bool) (id : Text) :
    ConnectionActiveState :=
  (if forSender then server.senderActiveState driver id else server.receiverActiveState driver id).2

/-- **It is what the API has active**, once the lists are copied. -/
theorem activeState_eq : server.activeState driver forSender id =
    ((server.syncResources driver).api.activeState forSender id).elim {} fun s => ⟨true, s.1, s.2⟩ := by
  unfold activeState ConnectionApi.activeState ConnectionApi.record
  cases forSender with
  | true =>
    rw [if_pos rfl, if_pos rfl]
    unfold senderActiveState
    dsimp only
    cases (server.syncResources driver).api.senders.find? id <;> rfl
  | false =>
    rw [if_neg Bool.false_ne_true, if_neg Bool.false_ne_true]
    unfold receiverActiveState
    dsimp only
    cases (server.syncResources driver).api.receivers.find? id <;> rfl

/-- **The server says what it answers** just on what is current. -/
theorem matches_iff (hs : server.Sound) {v : Visit} (hget : Delegated v "GET".toList path)
    (hp : Leads path forSender id "active".toList) (body : Except Text Json)
    (hr : (server.syncResources v.driver).api.record forSender id = some r) :
    (server.activeState v.driver forSender id).Matches forSender
        (server.route v "GET".toList path body).2.body ↔
      r.Current [] v.surroundings forSender := by
  have hs' := hs.syncResources v.driver
  have hanswer : (server.route v "GET".toList path body).2 =
      ((server.syncResources v.driver).api.handle v.surroundings "GET".toList path body).2 := by
    rw [server.route_of_delegated hget body]
    rfl
  rw [hanswer, ConnectionApi.handle_active_eq hs'.keyed hp hr, hs'.address, activeState_eq,
    ConnectionApi.activeState, hr, Ravenna.Record.current_iff]
  refine Iff.trans ⟨fun h => ⟨h.active, h.peer⟩, fun h => ⟨rfl, h.1, h.2⟩⟩
    (Ravenna.says_iff { interfaceAddress := [] } r.active.masterEnable (r.active.farEnd forSender))

end ConnectionAPIServer

/-! ## Every run -/

/-- **IS-04 and IS-05 agree just on what is current.** After any run of a node, whatever IS-04 lists says
of a resource what a GET of its `/active` answers then just where it is current, and a later document with
another activation time has another version; a sender with a session's name is listed, and so is every
receiver. After any run of the driver's server, what it says of a resource is what it answers just where
the resource is current. -/
theorem published_iff {forSender : Bool} {id path : Text} (hp : Leads path forSender id "active".toList) :
    (∀ (hash : Text → UInt64) (versionNow : ℕ → Text) (identity : NodeIdentity) (ops : List NodeApi.Op)
        (env : Surroundings) (body : Except Text Json) (r : Record),
      let node := ops.foldl (NodeApi.step hash versionNow) (NodeApi.init identity)
      node.connections.record forSender id = some r →
      (node.Lists forSender id →
        ∃ doc ∈ (node.view hash versionNow forSender).1, doc.get "id" = .str id) ∧
      ∀ doc ∈ (node.view hash versionNow forSender).1, doc.get "id" = .str id →
        (Reported forSender doc none (node.connections.handle env "GET".toList path body).2.body ↔
          r.Current node.connections.interfaceAddress env forSender) ∧
        (Function.Injective versionNow → ∀ (more : List NodeApi.Op) (doc' : Json) (r' : Record),
          let later := more.foldl (NodeApi.step hash versionNow) (node.view hash versionNow forSender).2
          doc' ∈ (later.view hash versionNow forSender).1 → doc'.get "id" = .str id →
          later.connections.record forSender id = some r' →
          r'.active.activationTime ≠ r.active.activationTime →
          Versions.versionOf doc' ≠ Versions.versionOf doc)) ∧
    ∀ (ops : List ConnectionAPIServer.Op) (v : ConnectionAPIServer.Visit) (body : Except Text Json)
      (r : Record),
      let server := ops.foldl ConnectionAPIServer.step {}
      ConnectionAPIServer.Delegated v "GET".toList path →
      (server.syncResources v.driver).api.record forSender id = some r →
      ((server.activeState v.driver forSender id).Matches forSender
          (server.route v "GET".toList path body).2.body ↔
        r.Current [] v.surroundings forSender) := by
  constructor
  · intro hash versionNow identity ops env body r node hr
    obtain ⟨log, htidy⟩ := (NodeApi.tidy_init versionNow identity).run hash ops
    refine ⟨fun hl => NodeApi.exists_listed hl hr, fun doc hdoc hid => ⟨?_, fun hclock => ?_⟩⟩
    · obtain ⟨-, -, -, -, -, hsubscription⟩ := NodeApi.doc_of_record htidy.logged hdoc hid hr
      rw [ConnectionApi.handle_active_eq htidy.keyed hp hr, Ravenna.Record.current_iff]
      exact Ravenna.subscribed_iff hsubscription _
    · intro more doc' r' later hdoc' hid' hr' htime
      exact htidy.version_ne hash hclock hdoc hid hr more hdoc' hid' hr' htime
  · intro ops v body r server hget hr
    exact ConnectionAPIServer.matches_iff (ConnectionAPIServer.sound_run ops) hget hp body hr

/-- Where the receiver is asked what is active. -/
def activePath : Text := "/x-nmos/connection/v1.1/single/receivers/r/active".toList

theorem leads_active : Leads activePath false "r".toList "active".toList :=
  ⟨show ConnectionApi.kConnectionApiRoot <+: activePath by decide, [],
    show ConnectionApi.segmentsOf (activePath.drop ConnectionApi.kConnectionApiRoot.length) = _ by decide⟩

/-- A GET of it at this second. -/
def getAt (second : UInt64) : NodeApi.Op :=
  .connections (.handle (NodeApi.agreeing second) "GET".toList activePath (.error []))

/-- The node once the receivers are read and one is asked for at second ten. -/
def asked : NodeApi :=
  [getAt 10].foldl (NodeApi.step (fun _ => 0) showNat) (NodeApi.promising.view (fun _ => 0) showNat false).2

theorem asked_eq : asked = (NodeApi.promised ++ [.read .receivers, getAt 10]).foldl
    (NodeApi.step (fun _ => 0) showNat)
    (NodeApi.init { nodeId := "n".toList, deviceId := "d".toList }) := by
  rw [List.foldl_append, ← NodeApi.promising, asked, NodeApi.view_eq]
  generalize NodeApi.promising = node
  rfl

/-- The driver's server is asked for a receiver it has just been told of. -/
def asking : ConnectionAPIServer.Visit := ConnectionAPIServer.visitAt ConnectionAPIServer.oneReceiver 10

theorem delegated_asking : ConnectionAPIServer.Delegated asking "GET".toList activePath :=
  ⟨["single".toList, "receivers".toList, "r".toList, "active".toList],
    show ConnectionAPIServer.pathPieces activePath = _ by decide, fun h => absurd h.1 (by decide)⟩

theorem current_asking : ∃ r : Record,
    ((ConnectionAPIServer.syncResources {} asking.driver).api.record false "r".toList) = some r ∧
      r.Current [] asking.surroundings false := by
  have hidle : ((ConnectionAPIServer.syncResources {} asking.driver).api.record false "r".toList).map
      (fun r => r.pending.isDue asking.arrival) = some false := by
    decide
  obtain ⟨r, hr, hnot⟩ := Option.map_eq_some_iff.mp hidle
  exact ⟨r, hr, fun h => absurd (hnot.symm.trans h) Bool.false_ne_true⟩

/-- The receiver promised for second five is listed as it is at second three, and with another version
after a GET at second ten; and a driver that lists one says of it what it answers. -/
theorem published_promising : ∃ doc doc' : Json,
    Reported false doc none (NodeApi.promising.connections.handle (NodeApi.agreeing 3) "GET".toList
      activePath (.error [])).2.body ∧
    Versions.versionOf doc' ≠ Versions.versionOf doc ∧
    (ConnectionAPIServer.activeState {} asking.driver false "r".toList).Matches false
      (ConnectionAPIServer.route {} asking "GET".toList activePath (.error [])).2.body := by
  obtain ⟨hnode, hserver⟩ := published_iff leads_active
  have hnode := hnode (fun _ => 0) showNat { nodeId := "n".toList, deviceId := "d".toList }
  have hfacts : (NodeApi.promising.connections.record false "r".toList).map (fun r =>
      (r.active.activationTime, r.pending.isDue (NodeApi.agreeing 3).arrival)) = some ([], false) := by
    decide +kernel
  obtain ⟨r, hr, hnow⟩ := Option.map_eq_some_iff.mp hfacts
  obtain ⟨hidle, hdue⟩ := Prod.mk.inj hnow
  have hfacts' : (asked.connections.record false "r".toList).map (fun r => r.active.activationTime) =
      some "5:0".toList := by
    decide +kernel
  obtain ⟨r', hr', htime⟩ := Option.map_eq_some_iff.mp hfacts'
  have hthen := hnode NodeApi.promised (NodeApi.agreeing 3) (.error []) r
  rw [← NodeApi.promising] at hthen
  obtain ⟨hlisted, hshown⟩ := hthen hr
  obtain ⟨doc, hdoc, hid⟩ := hlisted fun h => absurd h Bool.false_ne_true
  obtain ⟨hsame, hversion⟩ := hshown doc hdoc hid
  have hafter := hnode (NodeApi.promised ++ [.read .receivers, getAt 10]) (NodeApi.agreeing 10)
    (.error []) r'
  rw [← asked_eq] at hafter
  obtain ⟨doc', hdoc', hid'⟩ := (hafter hr').1 fun h => absurd h Bool.false_ne_true
  refine ⟨doc, doc', hsame.mpr fun h => ?_, ?_, ?_⟩
  · rw [hdue] at h
    exact absurd h Bool.false_ne_true
  · refine hversion showNat_injective [getAt 10] doc' r' hdoc' hid' hr' ?_
    rw [hidle, htime]
    decide
  · obtain ⟨s, hs, hcurrent⟩ := current_asking
    exact (hserver [] asking (.error []) s delegated_asking hs).mpr hcurrent

/-- **A receiver that IS-04 has off and IS-05 on**: nobody has asked IS-05 since second five. -/
theorem promising_not_published : ∃ (doc : Json) (r : Record),
    doc ∈ (NodeApi.promising.view (fun _ => 0) showNat false).1 ∧ doc.get "id" = .str "r".toList ∧
      NodeApi.promising.connections.record false "r".toList = some r ∧
      ¬ Reported false doc none (NodeApi.promising.connections.handle (NodeApi.agreeing 10) "GET".toList
        activePath (.error [])).2.body := by
  obtain ⟨doc, r, hdoc, hid, hr⟩ := NodeApi.promising_shown
  obtain ⟨log, htidy⟩ : ∃ log, NodeApi.promising.Tidy showNat ([] ++ log) :=
    (NodeApi.tidy_init showNat { nodeId := "n".toList, deviceId := "d".toList }).run (fun _ => 0)
      NodeApi.promised
  obtain ⟨-, -, -, -, -, hsubscription⟩ := NodeApi.doc_of_record htidy.logged hdoc hid hr
  have hlate : (NodeApi.promising.connections.record false "r".toList).map (fun r =>
      (r.active.masterEnable, (r.due NodeApi.promising.connections.interfaceAddress (NodeApi.agreeing 10)
        false).active.masterEnable)) = some (false, true) := by
    decide +kernel
  rw [hr, Option.map_some, Option.some.injEq, Prod.mk.injEq] at hlate
  refine ⟨doc, r, hdoc, hid, hr, fun hreported => ?_⟩
  rw [ConnectionApi.handle_active_eq htidy.keyed leads_active hr] at hreported
  have hsame := ((Ravenna.subscribed_iff hsubscription _).mp hreported).1
  rw [hlate.1, hlate.2] at hsame
  cases hsame

end Nmos

end Aes67
