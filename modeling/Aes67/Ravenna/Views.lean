import Aes67.Ravenna.Chosen
import Aes67.Ravenna.Stamps

/-!
# Two views of one connection

IS-04 and IS-05 report the same records. IS-05 first applies what has fallen due, and IS-04 reads them as
they are.

* `NodeApi.Op`, `NodeApi.step`: whatever happens to the node, a read of a collection included;
* `NodeApi.view`: what `senders` and `receivers` report; `ConnectionApi.activeState`;
* `Reported`: both report what a GET of `/active` reports; `Record.Current`: what has fallen due changes
  nothing of that;
* `NodeApi.Tidy`: the invariant, with `Tidy.step`;
* **`views_agree_iff`**: after any run the views agree on a resource just when it is current, and two
  reads with different activation times have different versions.
-/

namespace Aes67.Ravenna

open Sdp (SDPSession)

/-! ## The views -/

/-- `ConnectionAPIServer::senderActiveState` and `receiverActiveState`, once the resources are in step:
whether the resource is on, and its far end. -/
def ConnectionApi.activeState (api : ConnectionApi) (forSender : Bool) (id : Text) :
    Option (Bool × Text) :=
  (api.record forSender id).map fun r => (r.active.masterEnable, r.active.farEnd forSender)

/-- The collections of IS-04, one by one and all of them in the order they are registered. -/
inductive Collection
  | self | devices | sources | flows | senders | receivers | everything

namespace NodeApi

variable (hash : Text → UInt64) (versionNow : ℕ → Text) (node : NodeApi)

/-- The resources of a collection, as they are stamped. -/
def resources : Collection → List (JsonObject × Text)
  | .self => [(node.selfResource, [])]
  | .devices => [(node.deviceResource hash, node.lastActivation)]
  | .sources => node.sourceResources hash
  | .flows => node.flowResources hash
  | .senders => node.senderResources hash
  | .receivers => node.receiverResources
  | .everything => (node.typedResources hash).map Prod.snd

/-- What `senders` or `receivers` reports. -/
def view (forSender : Bool) : List Json × NodeApi :=
  if forSender then node.senders hash versionNow else node.receivers versionNow

/-- Whatever happens to the node: to its connections, to what the host has besides, and a read. -/
inductive Op
  | connections (op : ConnectionApi.Op)
  | host (identity : NodeIdentity) (catalogue : OrdMap Text SDPSession)
    (mapping : Option ChannelMappingApi)
  | read (collection : Collection)

def step : Op → NodeApi
  | .connections op => { node with connections := node.connections.step op }
  | .host identity catalogue mapping =>
    { node with identity := identity, catalogue := catalogue, mapping := mapping }
  | .read collection => (node.stamp versionNow (node.resources hash collection)).2

/-- A node as it is built. -/
def init (identity : NodeIdentity) : NodeApi :=
  { identity := identity, catalogue := .empty, connections := {} }

end NodeApi

/-! ## Agreement -/

/-- What IS-04 and the server's state say of a resource is what an IS-05 answer says: whether it is on,
and the far end where it is. -/
structure Reported (forSender : Bool) (doc : Json) (state : Option (Bool × Text)) (body : Json) :
    Prop where
  active : (doc.get "subscription").get "active" = body.get "master_enable"
  peer : body.get "master_enable" = .bool true →
    (doc.get "subscription").get (farEndKey forSender) = body.get (farEndKey forSender)
  stateActive : ∀ s, state = some s → .bool s.1 = body.get "master_enable"
  statePeer : ∀ s, state = some s → s.1 = true → .ofText s.2 = body.get (farEndKey forSender)

/-- **Nothing that shows is due**: no activation whose time has come waits, or the host refuses it, or
it leaves the resource on with the same far end, or off. -/
def Record.Current (address : Text) (env : Surroundings) (forSender : Bool) (r : Record) : Prop :=
  r.pending.isDue env.arrival = true →
    (r.free.answer address env forSender r.pending.state).isOk = true →
      r.pending.state.masterEnable = r.active.masterEnable ∧
        (r.pending.state.masterEnable = true →
          r.pending.state.farEnd forSender = r.active.farEnd forSender)

section Agreement

variable {forSender : Bool} {doc : Json} {r : Record} {address : Text} {env : Surroundings}
  {state : ConnectionState}

/-- What a subscription says. -/
theorem subscription_get (active : Bool) (id : Text) :
    (NodeApi.subscription (farEndKey forSender) active id).get "active" = .bool active ∧
      (NodeApi.subscription (farEndKey forSender) active id).get (farEndKey forSender) =
        if active then .ofText id else .null := by
  unfold NodeApi.subscription
  rw [Json.get_ofObject, Json.get_ofObject, find?_jsonObject, find?_jsonObject]
  cases forSender <;> cases active <;> refine ⟨rfl, ?_⟩
  · rfl
  · unfold Json.ofText
    by_cases hid : id = [] <;> simp [farEndKey, hid]
  · rfl
  · unfold Json.ofText
    by_cases hid : id = [] <;> simp [farEndKey, hid]

/-- What is said of a resource is what an answer made of a state says. -/
theorem says_iff (api : ConnectionApi) (active : Bool) (peer : Text) :
    (.bool active = (api.activeAsJson state forSender).get "master_enable" ∧
      (active = true → .ofText peer = (api.activeAsJson state forSender).get (farEndKey forSender))) ↔
      state.masterEnable = active ∧ (state.masterEnable = true → state.farEnd forSender = peer) := by
  rw [activeAsJson_masterEnable, activeAsJson_farEnd]
  constructor
  · rintro ⟨hactive, hpeer⟩
    have hsame := (Json.bool.inj hactive).symm
    exact ⟨hsame, fun hon => (Json.ofText_injective (hpeer (hsame.symm.trans hon))).symm⟩
  · rintro ⟨rfl, hpeer⟩
    exact ⟨rfl, fun hon => congrArg Json.ofText (hpeer hon).symm⟩

/-- A document made of a record, beside an answer made of another state. -/
theorem subscribed_iff (hdoc : doc.get "subscription" =
      NodeApi.subscription (farEndKey forSender) r.active.masterEnable (r.active.farEnd forSender))
    (api : ConnectionApi) :
    Reported forSender doc none (api.activeAsJson state forSender) ↔
      state.masterEnable = r.active.masterEnable ∧
        (state.masterEnable = true → state.farEnd forSender = r.active.farEnd forSender) := by
  obtain ⟨hactive, hpeer⟩ := @subscription_get forSender r.active.masterEnable (r.active.farEnd forSender)
  rw [← says_iff api, ← hactive, ← hdoc]
  constructor
  · rintro ⟨hsame, hfar, -, -⟩
    refine ⟨hsame, fun hon => ?_⟩
    have hbody : (api.activeAsJson state forSender).get "master_enable" = .bool true := by
      rw [← hsame, hdoc, hactive, hon]
    rw [← hfar hbody, hdoc, hpeer, if_pos hon]
  · rintro ⟨hsame, hfar⟩
    refine ⟨hsame, fun hon => ?_, fun s hs => ?_, fun s hs => ?_⟩
    · rw [← hsame, hdoc, hactive] at hon
      rw [hdoc, hpeer, if_pos (Json.bool.inj hon), hfar (Json.bool.inj hon)]
    · cases hs
    · cases hs

/-- A document and a state made of one record, beside an answer made of another state. -/
theorem reported_iff (hdoc : doc.get "subscription" =
      NodeApi.subscription (farEndKey forSender) r.active.masterEnable (r.active.farEnd forSender))
    (api : ConnectionApi) :
    Reported forSender doc (some (r.active.masterEnable, r.active.farEnd forSender))
        (api.activeAsJson state forSender) ↔
      state.masterEnable = r.active.masterEnable ∧
        (state.masterEnable = true → state.farEnd forSender = r.active.farEnd forSender) := by
  constructor
  · rintro ⟨-, -, hstate, hfar⟩
    exact (says_iff api _ _).mp ⟨hstate _ rfl, hfar _ rfl⟩
  · intro h
    obtain ⟨hstate, hfar⟩ := (says_iff api _ _).mpr h
    obtain ⟨hactive, hpeer, -, -⟩ := (subscribed_iff hdoc api).mpr h
    refine ⟨hactive, hpeer, fun s hs => ?_, fun s hs => ?_⟩
    · obtain rfl := Option.some.inj hs
      exact hstate
    · obtain rfl := Option.some.inj hs
      exact hfar

/-- What falls due changes what is on and the far end only where it is not current. -/
theorem Record.current_iff : r.Current address env forSender ↔
    (r.due address env forSender).active.masterEnable = r.active.masterEnable ∧
      ((r.due address env forSender).active.masterEnable = true →
        (r.due address env forSender).active.farEnd forSender = r.active.farEnd forSender) := by
  unfold Record.Current Record.due
  by_cases hdue : r.pending.isDue env.arrival = true
  · rw [if_pos hdue, forall_prop_of_true hdue]
    unfold Record.activate
    by_cases hok : (r.free.answer address env forSender r.pending.state).isOk = true
    · have hactive : (r.free.accepted forSender
          (r.free.activated address env forSender r.pending.state)).active =
            r.free.activated address env forSender r.pending.state := by
        unfold Record.accepted
        split_ifs <;> rfl
      rw [if_pos hok, forall_prop_of_true hok, hactive]
      cases forSender <;> rfl
    · rw [if_neg hok, forall_prop_of_false hok]
      exact iff_of_true trivial ⟨rfl, fun _ => rfl⟩
  · rw [if_neg hdue, forall_prop_of_false hdue]
    exact iff_of_true trivial ⟨rfl, fun _ => rfl⟩

end Agreement

/-! ## Documents and records -/

namespace NodeApi

variable {hash : Text → UInt64} {versionNow : ℕ → Text} {node : NodeApi} {forSender : Bool}
  {id name : Text} {e : JsonObject × Text} {doc : Json} {r : Record} {log : List Text}

/-- The collection of one kind of resource. -/
def collectionOf (forSender : Bool) : Collection := if forSender then .senders else .receivers

theorem view_eq : node.view hash versionNow forSender =
    node.stamp versionNow (node.resources hash (collectionOf forSender)) := by
  cases forSender <;> rfl

theorem senderResource_find? : (node.senderResource hash name).1.find? "id".toList =
      some (.str (node.senderIdFor hash name)) ∧
    (node.senderResource hash name).1.find? "subscription".toList =
      some (subscription "receiver_id"
        ((node.connections.senders.find? (node.senderIdFor hash name)).elim false
          fun sender => sender.active.masterEnable)
        ((node.connections.senders.find? (node.senderIdFor hash name)).elim []
          fun sender => sender.active.receiverId)) := by
  unfold senderResource
  dsimp only
  rw [find?_jsonObject, find?_jsonObject]
  exact ⟨rfl, rfl⟩

theorem receiverResource_find? (connection : ConnectionReceiver) :
    (node.receiverResource id connection).1.find? "id".toList = some (.str id) ∧
    (node.receiverResource id connection).1.find? "subscription".toList =
      some (subscription "sender_id" connection.active.masterEnable connection.active.senderId) := by
  unfold receiverResource
  dsimp only
  rw [find?_jsonObject, find?_jsonObject]
  exact ⟨rfl, rfl⟩

/-- **A resource listed is made of its record.** -/
theorem resource_of_record (he : e ∈ node.resources hash (collectionOf forSender))
    (hid : e.1.find? "id".toList = some (.str id))
    (hr : node.connections.record forSender id = some r) :
    e.1.find? "subscription".toList = some (subscription (farEndKey forSender) r.active.masterEnable
      (r.active.farEnd forSender)) ∧ e.2 = r.active.activationTime := by
  cases forSender with
  | true =>
    obtain ⟨name, -, rfl⟩ := List.mem_map.mp he
    obtain ⟨hname, hsubscription⟩ := @senderResource_find? hash node name
    rw [hname] at hid
    have hsame : node.senderIdFor hash name = id := Json.str.inj (Option.some.inj hid)
    obtain ⟨sender, hfind, rfl⟩ := Option.map_eq_some_iff.mp hr
    have hrest : (node.senderResource hash name).2 =
        (node.connections.senders.find? (node.senderIdFor hash name)).elim []
          fun sender => sender.active.activationTime := rfl
    rw [hsubscription, hrest, hsame, hfind]
    exact ⟨rfl, rfl⟩
  | false =>
    obtain ⟨entry, hentry, rfl⟩ := List.mem_map.mp he
    obtain ⟨hname, hsubscription⟩ := @receiverResource_find? node entry.1 entry.2
    rw [hname] at hid
    have hsame : entry.1 = id := Json.str.inj (Option.some.inj hid)
    have hfound : node.connections.receivers.find? entry.1 = some entry.2 :=
      (OrdMap.mem_entries_iff _).mp hentry
    obtain ⟨receiver, hfind, rfl⟩ := Option.map_eq_some_iff.mp hr
    rw [hsame, hfind] at hfound
    obtain rfl := Option.some.inj hfound
    exact ⟨hsubscription, rfl⟩

/-- **A document listed** carries the stamp of the resource its record makes. -/
theorem doc_of_record (hlogged : Versions.Logged versionNow node.versions log)
    (hdoc : doc ∈ (node.view hash versionNow forSender).1) (hid : doc.get "id" = .str id)
    (hr : node.connections.record forSender id = some r) :
    ∃ more e, Versions.Logged versionNow (node.view hash versionNow forSender).2.versions (log ++ more) ∧
      Versions.Carries versionNow (log ++ more) e doc ∧ e.2 = r.active.activationTime ∧
      doc.get "subscription" = subscription (farEndKey forSender) r.active.masterEnable
        (r.active.farEnd forSender) := by
  rw [view_eq] at hdoc ⊢
  obtain ⟨more, hafter, hdocs⟩ := hlogged.stampAll (node.resources hash (collectionOf forSender))
  obtain ⟨e, he, hcarries⟩ := hdocs doc hdoc
  refine ⟨more, e, hafter, hcarries, ?_⟩
  obtain ⟨n, hn, rfl⟩ := hcarries
  rw [Json.get_ofObject, OrdMap.find?_insert, if_neg (by decide)] at hid
  have hid' : e.1.find? "id".toList = some (.str id) := by
    cases hfind : e.1.find? "id".toList with
    | none =>
      rw [hfind] at hid
      cases hid
    | some value =>
      rw [hfind] at hid
      exact congrArg some hid
  obtain ⟨hsubscription, hrest⟩ := resource_of_record he hid' hr
  refine ⟨hrest, ?_⟩
  rw [Json.get_ofObject, OrdMap.find?_insert, if_neg (by decide), hsubscription]
  rfl

/-! ## Every run of the node -/

/-- The resources are kept under their own ids, and each stamp was put on the shape it is remembered
with. -/
structure Tidy (versionNow : ℕ → Text) (node : NodeApi) (log : List Text) : Prop where
  keyed : ConnectionApi.Keyed node.connections
  logged : Versions.Logged versionNow node.versions log

theorem tidy_init (versionNow : ℕ → Text) (identity : NodeIdentity) :
    (init identity).Tidy versionNow [] :=
  ⟨ConnectionApi.keyed_run [], Versions.logged_init versionNow⟩

theorem Tidy.step (h : node.Tidy versionNow log) (hash : Text → UInt64) (op : Op) :
    ∃ more, (node.step hash versionNow op).Tidy versionNow (log ++ more) := by
  cases op with
  | connections op =>
    refine ⟨[], ConnectionApi.keyed_step h.keyed op, ?_⟩
    rw [List.append_nil]
    exact h.logged
  | host identity catalogue mapping =>
    refine ⟨[], h.keyed, ?_⟩
    rw [List.append_nil]
    exact h.logged
  | read collection =>
    obtain ⟨more, hlogged, -⟩ := h.logged.stampAll (node.resources hash collection)
    exact ⟨more, h.keyed, hlogged⟩

theorem Tidy.run (h : node.Tidy versionNow log) (hash : Text → UInt64) (ops : List Op) :
    ∃ more, (ops.foldl (NodeApi.step hash versionNow) node).Tidy versionNow (log ++ more) := by
  induction ops generalizing node log with
  | nil => exact ⟨[], by rw [List.append_nil]; exact h⟩
  | cons op ops ih =>
    obtain ⟨more, hstep⟩ := h.step hash op
    obtain ⟨further, hrun⟩ := ih hstep
    exact ⟨more ++ further, by rw [← List.append_assoc]; exact hrun⟩

/-- **A later read with another activation time** has another version. -/
theorem Tidy.version_ne (h : node.Tidy versionNow log) (hash : Text → UInt64)
    (hclock : Function.Injective versionNow)
    (hdoc : doc ∈ (node.view hash versionNow forSender).1) (hid : doc.get "id" = .str id)
    (hr : node.connections.record forSender id = some r) (more : List Op) {doc' : Json} {r' : Record}
    (hdoc' : doc' ∈ ((more.foldl (NodeApi.step hash versionNow)
      (node.view hash versionNow forSender).2).view hash versionNow forSender).1)
    (hid' : doc'.get "id" = .str id)
    (hr' : (more.foldl (NodeApi.step hash versionNow)
      (node.view hash versionNow forSender).2).connections.record forSender id = some r')
    (htime : r'.active.activationTime ≠ r.active.activationTime) :
    Versions.versionOf doc' ≠ Versions.versionOf doc := by
  intro hversion
  obtain ⟨before, e, hafter, hcarries, hrest, -⟩ := doc_of_record h.logged hdoc hid hr
  have hread : (node.view hash versionNow forSender).2.Tidy versionNow (log ++ before) := by
    refine ⟨?_, hafter⟩
    rw [view_eq]
    exact h.keyed
  obtain ⟨since, hlater⟩ := hread.run hash more
  obtain ⟨now, e', -, hcarries', hrest', -⟩ := doc_of_record hlater.logged hdoc' hid' hr'
  refine htime ?_
  rw [← hrest, ← hrest']
  exact Versions.rest_eq_of_version_eq hclock hcarries' ((hcarries.append since).append now) hversion

/-- **The views agree just on what is current.** After any run, and whenever a GET of `/active` is
answered then, IS-04 and the server's state say of a resource what the answer says just when it is
current; and a later read finds another version wherever it finds another activation time. -/
theorem views_agree_iff (hash : Text → UInt64) (versionNow : ℕ → Text)
    (hclock : Function.Injective versionNow) (identity : NodeIdentity) (ops : List Op)
    (env : Surroundings) (body : Except Text Json) {forSender : Bool} {doc : Json} {id path : Text}
    {r : Record}
    (hdoc : doc ∈ ((ops.foldl (step hash versionNow) (init identity)).view hash versionNow forSender).1)
    (hid : doc.get "id" = .str id)
    (hr : (ops.foldl (step hash versionNow) (init identity)).connections.record forSender id = some r)
    (hp : ConnectionApi.Leads path forSender id "active".toList) :
    (Reported forSender doc
        ((ops.foldl (step hash versionNow) (init identity)).connections.activeState forSender id)
        ((ops.foldl (step hash versionNow) (init identity)).connections.handle env "GET".toList path
          body).2.body ↔
      r.Current (ops.foldl (step hash versionNow) (init identity)).connections.interfaceAddress env
        forSender) ∧
    ∀ (more : List Op) (doc' : Json) (r' : Record),
      doc' ∈ ((more.foldl (step hash versionNow)
        ((ops.foldl (step hash versionNow) (init identity)).view hash versionNow forSender).2).view hash
          versionNow forSender).1 →
      doc'.get "id" = .str id →
      (more.foldl (step hash versionNow)
        ((ops.foldl (step hash versionNow) (init identity)).view hash versionNow
          forSender).2).connections.record forSender id = some r' →
      r'.active.activationTime ≠ r.active.activationTime →
      Versions.versionOf doc' ≠ Versions.versionOf doc := by
  obtain ⟨log, htidy⟩ := (tidy_init versionNow identity).run hash ops
  generalize ops.foldl (step hash versionNow) (init identity) = node at hdoc hr htidy ⊢
  obtain ⟨-, -, -, -, -, hsubscription⟩ := doc_of_record htidy.logged hdoc hid hr
  constructor
  · have hstate : node.connections.activeState forSender id =
        some (r.active.masterEnable, r.active.farEnd forSender) := by
      rw [ConnectionApi.activeState, hr]
      rfl
    rw [ConnectionApi.handle_active_eq htidy.keyed hp hr, hstate, Record.current_iff]
    exact reported_iff hsubscription _
  · intro more doc' r' hdoc' hid' hr' htime
    exact htidy.version_ne hash hclock hdoc hid hr more hdoc' hid' hr' htime

/-- A host that agrees to everything, asked at this second. -/
def agreeing (second : UInt64) : Surroundings :=
  ⟨⟨second, 0⟩, ⟨second, 0⟩, 0, fun _ => .error [], fun _ _ _ _ => .ok (), fun _ _ _ _ => .ok ()⟩

/-- To be on at second five, and to take that sender. -/
def onAtFive : Json :=
  .obj [("activation".toList, .obj [("mode".toList, .str kActivateAbsolute),
      ("requested_time".toList, .str "5:0".toList)]),
    ("master_enable".toList, .bool true), ("sender_id".toList, .str "s".toList),
    ("transport_params".toList, .arr [.obj [("multicast_ip".toList, .str "239.0.0.1".toList)]])]

/-- A receiver, and at second one a promise for second five. -/
def promised : List Op :=
  [.connections (.addReceiver { id := "r".toList }),
    .connections (.handle (agreeing 1) "PATCH".toList
      "/x-nmos/connection/v1.1/single/receivers/r/staged".toList (.ok onAtFive))]

/-- The node by then. -/
def promising : NodeApi :=
  promised.foldl (step (fun _ => 0) showNat) (init { nodeId := "n".toList, deviceId := "d".toList })

/-- It lists the receiver. -/
theorem promising_shown :
    ∃ doc r, doc ∈ (promising.view (fun _ => 0) showNat false).1 ∧ doc.get "id" = .str "r".toList ∧
      promising.connections.record false "r".toList = some r := by
  have hids : "r".toList ∈ (promising.view (fun _ => 0) showNat false).1.map
      (fun doc => (doc.get "id").asString) := by
    decide +kernel
  obtain ⟨doc, hdoc, hid⟩ := List.mem_map.mp hids
  have hr : (promising.connections.record false "r".toList).isSome := by
    decide +kernel
  refine ⟨doc, _, hdoc, ?_, (Option.some_get hr).symm⟩
  cases hget : doc.get "id" with
  | str id => rw [hget] at hid; exact congrArg Json.str hid
  | _ => rw [hget] at hid; exact absurd hid (List.cons_ne_nil _ _).symm

/-- The version and the activation time of the receiver are those of its promise; it is off until
second five. -/
theorem views_agree_iff_promising : ∃ (doc : Json) (r : Record),
    (Reported false doc (promising.connections.activeState false "r".toList)
        (promising.connections.handle (agreeing 10) "GET".toList
          "/x-nmos/connection/v1.1/single/receivers/r/active".toList (.error [])).2.body ↔
      r.Current promising.connections.interfaceAddress (agreeing 10) false) ∧
    ∀ (more : List Op) (doc' : Json) (r' : Record),
      doc' ∈ ((more.foldl (step (fun _ => 0) showNat)
        (promising.view (fun _ => 0) showNat false).2).view (fun _ => 0) showNat false).1 →
      doc'.get "id" = .str "r".toList →
      (more.foldl (step (fun _ => 0) showNat)
        (promising.view (fun _ => 0) showNat false).2).connections.record false "r".toList = some r' →
      r'.active.activationTime ≠ r.active.activationTime →
      Versions.versionOf doc' ≠ Versions.versionOf doc := by
  obtain ⟨doc, r, hdoc, hid, hr⟩ := promising_shown
  exact ⟨doc, r, views_agree_iff (fun _ => 0) showNat showNat_injective
    { nodeId := "n".toList, deviceId := "d".toList } promised (agreeing 10) (.error []) hdoc hid hr
    ⟨by decide, [], by decide⟩⟩

end NodeApi

end Aes67.Ravenna
