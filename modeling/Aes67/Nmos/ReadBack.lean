import Aes67.Ravenna.Reported
import Aes67.Nmos.Handed

/-!
# What is read back after an activation

The driver's lists report what its last accepted patch said. A resource whose listing that changes is
written anew from it, and the listing does not carry everything that became active.

* `Driver.Reports`: the driver lists the resource as a patch said;
* `copied`: what a resource is written anew with;
* `Op.accepted`: what the driver accepts in a step; `active_step`, `active_run`;
* `Carried`: the listing carries all that became active, with `carried_iff`;
* **`read_back_iff`**.
-/

namespace Aes67.Nmos

open Ravenna (ConnectionApi ConnectionState Record Told Json JsonObject SameReport Acceptable Named
  said leftOut leftToDevice reports parameters kActivateImmediate ActivationRequest)
open Ravenna.ConnectionApi (Leads Vetted)

/-! ## Listings -/

/-- The sender is listed as the patch said. -/
structure ConnectionSender.Reports (sender : ConnectionSender) (p : ConnectionPatch) : Prop where
  enabled : p.masterEnable = some sender.enabled
  sdp : sender.sdp = p.transportFile.getD []
  multicastAddress : sender.multicastAddress = p.multicastAddress.getD []
  port : sender.port = p.port.getD 0

/-- The receiver is listed as the patch said. -/
structure ConnectionReceiver.Reports (receiver : ConnectionReceiver) (p : ConnectionPatch) :
    Prop where
  enabled : p.masterEnable = some receiver.enabled
  sdp : receiver.sdp = p.transportFile.getD []
  senderId : receiver.senderId = p.senderId.getD []
  multicastAddress : receiver.multicastAddress = p.multicastAddress.getD []
  port : receiver.port = p.port.getD 0

/-- The driver lists the resource, and as the patch said. -/
def Driver.Reports (driver : Driver) (forSender : Bool) (id : Text) (p : ConnectionPatch) : Prop :=
  if forSender then (∃ s ∈ driver.senders, s.id = id) ∧ ∀ s ∈ driver.senders, s.id = id → s.Reports p
  else (∃ r ∈ driver.receivers, r.id = id) ∧ ∀ r ∈ driver.receivers, r.id = id → r.Reports p

/-- The overrides a receiver is written anew with. -/
def listedLeg (p : ConnectionPatch) : JsonObject :=
  ConnectionReceiver.leg
    { id := [], multicastAddress := p.multicastAddress.getD [], port := p.port.getD 0 }

/-- What is active in a resource that is written anew. -/
def copied (forSender : Bool) (p : ConnectionPatch) : ConnectionState :=
  if forSender then
    { masterEnable := p.masterEnable.getD false, transportFile := p.transportFile.getD [] }
  else
    { masterEnable := p.masterEnable.getD false, transportFile := p.transportFile.getD []
      senderId := p.senderId.getD [], transportParams := listedLeg p }

variable {driver : Driver} {forSender : Bool} {id : Text} {p : ConnectionPatch}

theorem Driver.Reports.lists (h : driver.Reports forSender id p) :
    ∃ e ∈ driver.resources, e.forSender = forSender ∧ e.id = id := by
  cases forSender with
  | true =>
    obtain ⟨s, hs, hid⟩ := h.1
    exact ⟨s.resource, List.mem_append_left _ (List.mem_map_of_mem hs), rfl, hid⟩
  | false =>
    obtain ⟨r, hr, hid⟩ := h.1
    exact ⟨r.resource, List.mem_append_right _ (List.mem_map_of_mem hr), rfl, hid⟩

/-- What the driver lists is what the resource is written anew with. -/
theorem Driver.Reports.active (h : driver.Reports forSender id p) {e : Resource}
    (he : e ∈ driver.resources) (hf : e.forSender = forSender) (hid : e.id = id) :
    e.record.active = copied forSender p := by
  rcases List.mem_append.mp he with he | he
  · obtain ⟨s, hs, rfl⟩ := List.mem_map.mp he
    obtain rfl : true = forSender := hf
    have hr := h.2 s hs hid
    unfold copied
    rw [if_pos rfl, hr.enabled, ← hr.sdp]
    rfl
  · obtain ⟨r, hr, rfl⟩ := List.mem_map.mp he
    obtain rfl : false = forSender := hf
    have hr := h.2 r hr hid
    unfold copied listedLeg
    rw [if_neg Bool.false_ne_true, hr.enabled, ← hr.sdp, ← hr.senderId, ← hr.multicastAddress,
      ← hr.port]
    rfl

theorem named_copied (forSender : Bool) (p : ConnectionPatch) :
    Named forSender (copied forSender p).transportParams := by
  intro name hname
  cases forSender with
  | true => rfl
  | false =>
    simp only [parameters, Ravenna.destinationName, Bool.false_eq_true, if_false, List.mem_cons,
      List.not_mem_nil, or_false, not_or] at hname
    obtain ⟨-, hport, -, haddress, -⟩ := hname
    change (listedLeg p).find? name = none
    unfold listedLeg ConnectionReceiver.leg
    dsimp only
    split_ifs
    · rfl
    · rw [OrdMap.find?_insert, if_neg haddress]
      rfl
    · rw [OrdMap.find?_insert, if_neg hport]
      rfl
    · rw [OrdMap.find?_insert, if_neg hport, OrdMap.find?_insert, if_neg haddress]
      rfl

/-- What becomes active says of a parameter what its override does, or else the file or the device. -/
def given (t : Told) (name : Text) : Json :=
  said t.requested.transportParams name (leftOut t.forSender t.current [] name)
    (leftToDevice t.forSender t.current [] name)

/-- What is reported of a parameter where `value` is active: an "auto" that is left is what the device
makes of it with the file. -/
def settled (forSender : Bool) (file name : Text) (value : Json) : Json :=
  match value with
  | .str t => if t = "auto".toList then leftToDevice forSender file [] name else .str t
  | value => value

/-- The listing carries all that became active: a sender was pointed at no receiver, and each
parameter is what the address and the port that are listed say, or else the file. -/
structure Carried (t : Told) : Prop where
  receiverId : t.forSender = true → t.requested.receiverId = []
  leg : ∀ name ∈ parameters t.forSender,
    settled t.forSender ((patchOf t).transportFile.getD []) name (given t name) =
      reports t.forSender [] (copied t.forSender (patchOf t)) name

theorem getD_ofText (t : Text) : (ofText t).getD [] = t := by
  unfold ofText
  split_ifs with h
  · exact h.symm
  · rfl

section Call

variable {r : Record} {env : Ravenna.Surroundings} {name : Text}

theorem transportFile_patchOf (t : Told) :
    (patchOf t).transportFile.getD [] = t.active.transportFile := by
  unfold patchOf
  split_ifs <;> exact getD_ofText _

/-- What is reported of a parameter once a call is accepted. -/
theorem reports_active (h : name ∈ parameters forSender) {state : ConnectionState} :
    reports forSender [] (r.call [] env forSender state).active name =
      settled forSender (r.call [] env forSender state).active.transportFile name
        (given (r.call [] env forSender state) name) := by
  have hleg : (r.call [] env forSender state).active.transportParams.find? name =
      some (given (r.call [] env forSender state) name) := Ravenna.find?_legOf h
  unfold reports said settled
  rw [hleg]
  cases given (r.call [] env forSender state) name <;> rfl

/-- **When the report of what became active is that of the resource written anew.** -/
theorem carried_iff (h : Named forSender r.staged.transportParams) :
    let t := r.call [] env forSender (ConnectionApi.immediateState env r.staged)
    SameReport forSender (({} : ConnectionApi).activeAsJson (copied forSender (patchOf t)) forSender)
        (({} : ConnectionApi).activeAsJson t.active forSender) ↔ Carried t := by
  intro t
  have hactive : Named forSender t.active.transportParams :=
    (show Named forSender (ConnectionApi.immediateState env r.staged).transportParams from h).legOf
  rw [Ravenna.sameReport_iff (named_copied forSender (patchOf t)) hactive]
  have hleg : (∀ name ∈ parameters forSender,
      reports forSender [] (copied forSender (patchOf t)) name = reports forSender [] t.active name) ↔
      ∀ name ∈ parameters forSender,
        settled forSender ((patchOf t).transportFile.getD []) name (given t name) =
          reports forSender [] (copied forSender (patchOf t)) name := by
    refine forall₂_congr fun name hname => ?_
    rw [reports_active hname, transportFile_patchOf, eq_comm]
  cases forSender with
  | true =>
    refine ⟨fun hs => ⟨fun _ => hs.2.1.symm, hleg.mp hs.2.2⟩,
      fun hc => ⟨rfl, (hc.receiverId rfl).symm, hleg.mpr hc.leg⟩⟩
  | false =>
    have hsender : (copied false (patchOf t)).senderId = t.active.senderId := getD_ofText _
    refine ⟨fun hs => ⟨fun hf => absurd hf Bool.false_ne_true, hleg.mp hs.2.2⟩,
      fun hc => ⟨rfl, hsender, hleg.mpr hc.leg⟩⟩

end Call

namespace ConnectionAPIServer

variable {server : ConnectionAPIServer} {r : Record} {op : Op} {ops : List Op}

/-! ## Steps -/

theorem acceptable_leg (receiver : ConnectionReceiver) : Acceptable false receiver.leg := by
  have haddress : Ravenna.checkTransportParam false "multicast_ip".toList
      (.str receiver.multicastAddress) = .ok () := rfl
  have hport : Ravenna.checkTransportParam false "destination_port".toList
      (.ofNat receiver.port.toNat) = .ok () := by
    have hrange : Ravenna.outsidePortRange (.fin (receiver.port.toNat : ℚ)) = false := by
      have hlt := receiver.port.toNat_lt
      simp only [Ravenna.outsidePortRange, decide_eq_false_iff_not, not_or, not_lt]
      exact ⟨Nat.cast_nonneg _, by exact_mod_cast Nat.le_of_lt_succ hlt⟩
    change (if Ravenna.outsidePortRange _ = true then _ else _) = _
    rw [hrange]
    rfl
  unfold ConnectionReceiver.leg
  dsimp only
  split_ifs
  · exact Ravenna.ConnectionApi.acceptable_empty false
  · exact (Ravenna.ConnectionApi.acceptable_empty false).insert haddress (by simp)
  · exact (Ravenna.ConnectionApi.acceptable_empty false).insert hport (by simp [Json.ofNat])
  · exact ((Ravenna.ConnectionApi.acceptable_empty false).insert haddress (by simp)).insert hport
      (by simp [Json.ofNat])

theorem Driver.acceptable {e : Resource} (he : e ∈ driver.resources) :
    Acceptable e.forSender e.record.staged.transportParams := by
  rcases List.mem_append.mp he with he | he
  · obtain ⟨s, -, rfl⟩ := List.mem_map.mp he
    exact Ravenna.ConnectionApi.acceptable_empty true
  · obtain ⟨r, -, rfl⟩ := List.mem_map.mp he
    exact acceptable_leg r

theorem vetted_syncResources (h : Vetted server.api) (driver : Driver) :
    Vetted (server.syncResources driver).api := by
  intro forSender id r hr
  by_cases hu : Undisturbed server.seeded driver.resources forSender id
  · by_cases hl : Lists driver.resources id
    · rw [record_of_undisturbed hl hu] at hr
      exact h _ _ _ hr
    · rw [(record_syncResources forSender id).2 hl] at hr
      split_ifs at hr
      exact h _ _ _ hr
  · obtain ⟨e, he, hf, -, -, hrec⟩ := record_of_disturbed hu
    obtain rfl := Option.some.inj (hrec.symm.trans hr)
    rw [← hf]
    exact Driver.acceptable he

theorem vetted_step (hs : server.Sound) (h : Vetted server.api) (op : Op) :
    Vetted (server.step op).api := by
  cases op with
  | activeState driver => exact vetted_syncResources h driver
  | route v method path body =>
    rcases server.route_eq v method path body with ⟨-, hgo⟩ | ⟨-, hgo⟩
    · rw [step, hgo]
      exact (vetted_syncResources h v.driver).handle (hs.syncResources v.driver).keyed
        v.surroundings method path body
    · rw [step, hgo]
      exact h

/-- **Whatever is staged in a run has passed the checks.** -/
theorem vetted_run (ops : List Op) : Vetted (ops.foldl step {}).api := by
  induction ops using List.reverseRecOn with
  | nil => exact fun forSender id r hr => by cases forSender <;> cases hr
  | append_singleton ops op ih =>
    rw [List.foldl_append]
    exact vetted_step (sound_run ops) ih op

/-- The calls about the resource the driver accepts in a step. -/
def Op.accepted (forSender : Bool) (id : Text) (server : ConnectionAPIServer) (op : Op) :
    List Told :=
  (((server.step op).api.toldOf forSender id).drop (server.api.toldOf forSender id).length).filter
    Told.accepted

/-- **What a step in which nothing is accepted does to what is active**: nothing, unless the resource
is written anew. -/
theorem active_step (hs : server.Sound) (hr : server.api.record forSender id = some r)
    (hreports : op.Copies → op.driver.Reports forSender id p)
    (hquiet : op.accepted forSender id server = []) :
    ∃ r', (server.step op).api.record forSender id = some r' ∧
      (op.Leaves forSender id server → r'.active = r.active) ∧
      (¬ op.Leaves forSender id server → r'.active = copied forSender p) := by
  have hcopied : op.Copies → ∃ r₀,
      (server.syncResources op.driver).api.record forSender id = some r₀ ∧
      (op.Leaves forSender id server → r₀.active = r.active) ∧
      (¬ op.Leaves forSender id server → r₀.active = copied forSender p) := fun hc => by
    obtain ⟨r₀, hr₀, hleft, hlost⟩ := record_copied hr (fun hc => (hreports hc).lists) hc
    refine ⟨r₀, hr₀, fun h => congrArg Record.active (hleft h), fun h => ?_⟩
    obtain ⟨e, he, hf, hid, rfl⟩ := hlost h
    exact (hreports hc).active he hf hid
  cases op with
  | activeState driver => exact hcopied trivial
  | route v method path body =>
    rcases server.route_eq v method path body with ⟨hd, hgo⟩ | ⟨hd, hgo⟩
    · obtain ⟨r₀, hr₀, hleft, hlost⟩ := hcopied hd
      obtain ⟨r', calls, hr', htold, hkeeps⟩ := ConnectionApi.active_handle
        (hs.syncResources v.driver).keyed hr₀ v.surroundings method path body
      change (server.delegate v method path body).1.api.toldOf forSender id = _ at htold
      unfold Op.accepted at hquiet
      rw [step, hgo] at hquiet ⊢
      have hcalls : ∀ t ∈ calls, t.accepted = false := fun t ht => by
        refine eq_false_of_ne_true fun hacc => ?_
        have hmem : t ∈ ([] : List Told) := by
          rw [← hquiet]
          refine List.mem_filter.mpr ⟨?_, hacc⟩
          rw [htold, toldOf_syncResources, List.drop_left]
          exact ht
        cases hmem
      exact ⟨r', hr', fun h => (hkeeps hcalls).trans (hleft h),
        fun h => (hkeeps hcalls).trans (hlost h)⟩
    · rw [step, hgo]
      exact ⟨r, hr, fun _ => rfl, fun hn => absurd (fun hc => absurd hc hd) hn⟩

/-- **What a run in which nothing is accepted does to what is active**: nothing, unless the resource is
written anew. -/
theorem active_run (hs : server.Sound) (hr : server.api.record forSender id = some r)
    (hreports : ∀ op ∈ ops, op.Copies → op.driver.Reports forSender id p)
    (hquiet : Along step (fun server op => op.accepted forSender id server = []) server ops) :
    ∃ r', (ops.foldl step server).api.record forSender id = some r' ∧
      (Along step (fun server op => op.Leaves forSender id server) server ops →
        r'.active = r.active) ∧
      (¬ Along step (fun server op => op.Leaves forSender id server) server ops →
        r'.active = copied forSender p) := by
  induction ops generalizing server r with
  | nil => exact ⟨r, hr, fun _ => rfl, fun h => absurd trivial h⟩
  | cons op ops ih =>
    obtain ⟨r₁, hr₁, hleft, hlost⟩ := active_step hs hr (hreports op List.mem_cons_self) hquiet.1
    obtain ⟨r', hr', hkept, hgone⟩ := ih (sound_step hs op) hr₁
      (fun op' hop' => hreports op' (List.mem_cons_of_mem _ hop')) hquiet.2
    refine ⟨r', hr', fun h => (hkept h.2).trans (hleft h.1), fun h => ?_⟩
    by_cases hrest : Along step (fun server op => op.Leaves forSender id server) (server.step op) ops
    · exact (hkept hrest).trans (hlost fun hop => h ⟨hop, hrest⟩)
    · exact hgone hrest

/-! ## Reading back -/

/-- The server answers 200 to a patch of what the resource has staged, which asks to be activated at
once. -/
structure Activated (server : ConnectionAPIServer) (v : Visit) (path : Text)
    (body : Except Text Json) (forSender : Bool) (id : Text) : Prop where
  delegated : Delegated v "PATCH".toList path
  leads : Leads path forSender id "staged".toList
  asks : ∃ activation : ActivationRequest, Record.Asks v.surroundings body activation ∧
    activation.mode = kActivateImmediate
  status : (server.route v "PATCH".toList path body).2.status = 200

theorem route_of_delegated {v : Visit} {method path : Text} (h : Delegated v method path)
    (body : Except Text Json) :
    server.route v method path body = server.delegate v method path body :=
  (server.route_eq v method path body).elim And.right fun h' => absurd h h'.1

/-- What the patch answers, and the call that was accepted for it. -/
theorem Activated.report {v : Visit} {path : Text} {body : Except Text Json} (hs : server.Sound)
    (hv : Vetted server.api) (h : server.Activated v path body forSender id) :
    ∃ r t, (server.step (.route v "PATCH".toList path body)).api.record forSender id = some r ∧
      ((server.step (.route v "PATCH".toList path body)).api.toldOf forSender id).getLast? = some t ∧
      (server.route v "PATCH".toList path body).2.body =
        ({} : ConnectionApi).activeAsJson r.active forSender ∧
      r.active = t.active ∧ ∃ r₀ : Record, Named forSender r₀.staged.transportParams ∧
        t = r₀.call [] v.surroundings forSender
          (ConnectionApi.immediateState v.surroundings r₀.staged) := by
  obtain ⟨hd, hleads, ⟨activation, hask, hmode⟩, h200⟩ := h
  have hgo := server.route_of_delegated hd body
  have hs' := hs.syncResources v.driver
  have hv' := vetted_syncResources hv v.driver
  rw [hgo] at h200
  rw [step, hgo]
  cases hr : (server.syncResources v.driver).api.record forSender id with
  | none =>
    have hnone := ((ConnectionApi.applyDueActivations_spec hs'.keyed v.surroundings).2
      forSender id).1
    rw [hr] at hnone
    have h404 : (server.delegate v "PATCH".toList path body).2.status = 404 :=
      ConnectionApi.status_of_none hleads hnone
    rw [h404] at h200
    cases h200
  | some r =>
    obtain ⟨r', t, hr', ht, hanswer, hactive, r₀, hcall, hacc⟩ :=
      ConnectionApi.handle_activated hs'.keyed hleads hr h200 hask hmode
    rw [hs'.address] at hanswer hcall
    exact ⟨r', t, hr', ht, congrArg Ravenna.ApiResponse.body hanswer, hactive, r₀,
      (hacc (hv' _ _ _ hr)).named, hcall⟩

/-- What a GET of `/active` answers: the report of what is active after it. -/
theorem get_report {w : Visit} {path : Text} (body : Except Text Json) (hs : server.Sound)
    (hget : Delegated w "GET".toList path) (hleads : Leads path forSender id "active".toList)
    (hr : (server.step (.route w "GET".toList path body)).api.record forSender id = some r) :
    (server.route w "GET".toList path body).2.body =
      ({} : ConnectionApi).activeAsJson r.active forSender := by
  have hs' := hs.syncResources w.driver
  have hgo := server.route_of_delegated hget body
  rw [step, hgo] at hr
  rw [hgo]
  cases h₀ : (server.syncResources w.driver).api.record forSender id with
  | none =>
    have hnone := (((ConnectionApi.handle_spec hs'.keyed w.surroundings "GET".toList path body).2.2
      forSender id).1 h₀).1
    exact absurd (hnone.symm.trans hr) (Option.some_ne_none r).symm
  | some r₀ =>
    obtain ⟨r', hr', hanswer⟩ := ConnectionApi.handle_active hs'.keyed hleads h₀
    obtain rfl := Option.some.inj (hr'.symm.trans hr)
    rw [hs'.address] at hanswer
    exact congrArg Ravenna.ApiResponse.body hanswer

/-- **When an activation is read back**: where every later step finds the resource as it was, or its
listing carries all that became active. The driver lists it as the patch said it was handed last, and
accepts nothing else for it in between. -/
theorem read_back_iff (earlier : List Op) {v w : Visit} {path activePath : Text}
    {body getBody : Except Text Json} {t : Told}
    (hpatch : (earlier.foldl step {}).Activated v path body forSender id)
    (ht : (((earlier.foldl step {}).step (.route v "PATCH".toList path body)).api.toldOf
      forSender id).getLast? = some t)
    (hget : Delegated w "GET".toList activePath)
    (hleads : Leads activePath forSender id "active".toList) (later : List Op)
    (hreports : ∀ op ∈ later ++ [.route w "GET".toList activePath getBody],
      op.Copies → op.driver.Reports forSender id (patchOf t))
    (hquiet : Along step (fun server op => op.accepted forSender id server = [])
      ((earlier.foldl step {}).step (.route v "PATCH".toList path body))
      (later ++ [.route w "GET".toList activePath getBody])) :
    SameReport forSender
      ((later.foldl step ((earlier.foldl step {}).step (.route v "PATCH".toList path body))).route w
        "GET".toList activePath getBody).2.body
      ((earlier.foldl step {}).route v "PATCH".toList path body).2.body ↔
    Along step (fun server op => op.Leaves forSender id server)
      ((earlier.foldl step {}).step (.route v "PATCH".toList path body))
      (later ++ [.route w "GET".toList activePath getBody]) ∨ Carried t := by
  obtain ⟨r, t', hr, ht', hanswer, hactive, r₀, hnamed, hcall⟩ :=
    hpatch.report (sound_run earlier) (vetted_run earlier)
  obtain rfl := Option.some.inj (ht'.symm.trans ht)
  have hs := sound_step (sound_run earlier) (.route v "PATCH".toList path body)
  obtain ⟨r', hr', hkept, hgone⟩ := active_run hs hr hreports hquiet
  rw [List.foldl_append, List.foldl_cons, List.foldl_nil] at hr'
  have hs' : (later.foldl step ((earlier.foldl step {}).step
      (.route v "PATCH".toList path body))).Sound :=
    (always_of_step (P := Sound) (fun _ op h => sound_step h op) hs).run
  rw [get_report getBody hs' hget hleads hr', hanswer]
  by_cases hleaves : Along step (fun server op => op.Leaves forSender id server)
      ((earlier.foldl step {}).step (.route v "PATCH".toList path body))
      (later ++ [.route w "GET".toList activePath getBody])
  · rw [hkept hleaves]
    exact iff_of_true (SameReport.refl _) (Or.inl hleaves)
  · rw [hgone hleaves, hactive, or_iff_right hleaves, hcall]
    exact carried_iff hnamed

/-! ## A sender pointed at a receiver -/

/-- A driver with one sender, which takes whatever it is handed. -/
def oneSender (enabled : Bool) : Driver where
  senders := [{ id := "s".toList, enabled := enabled }]
  senderPatcher := some fun _ _ => true

/-- An endpoint of the sender. -/
def senderPath (leaf : String) : Text :=
  "/x-nmos/connection/v1.1/single/senders/s/".toList ++ leaf.toList

/-- A patch that enables the sender at once. -/
def enableNow (patch : List (Text × Json)) : Json :=
  .obj (("activation".toList, .obj [("mode".toList, .str kActivateImmediate)]) ::
    ("master_enable".toList, .bool true) :: patch)

/-- The server once the sender is patched, and what it answers. -/
def patchedSender (enabled : Bool) (patch : List (Text × Json)) :
    ConnectionAPIServer × Ravenna.ApiResponse :=
  ({} : ConnectionAPIServer).route (visitAt (oneSender enabled) 0) "PATCH".toList
    (senderPath "staged") (.ok (enableNow patch))

/-- The sender, listed as enabled, is asked what is active. -/
def askActive : Op :=
  .route (visitAt (oneSender true) 0) "GET".toList (senderPath "active") (.error [])

/-- What it answers. -/
def activeSender (server : ConnectionAPIServer) : Json :=
  (server.route (visitAt (oneSender true) 0) "GET".toList (senderPath "active") (.error [])).2.body

theorem delegated_senderPath {method : Text} {leaf : String} (driver : Driver)
    (h : ConnectionAPIServer.pathPieces (senderPath leaf) = ["x-nmos".toList, "connection".toList,
      kApiVersion, "single".toList, "senders".toList, "s".toList, leaf.toList])
    (hp : driver.hasSenderPatcher = true) :
    Delegated (visitAt driver 0) method (senderPath leaf) := by
  refine ⟨_, h, fun hc => ?_⟩
  have hno : (!driver.hasSenderPatcher) = true := hc.2.2
  rw [hp] at hno
  cases hno

theorem activated_oneSender (enabled : Bool) (patch : List (Text × Json))
    (h : (patchedSender enabled patch).2.status = 200) :
    ({} : ConnectionAPIServer).Activated (visitAt (oneSender enabled) 0) (senderPath "staged")
      (.ok (enableNow patch)) true "s".toList where
  delegated := delegated_senderPath _ (by decide) rfl
  leads := ⟨by decide, [], by decide⟩
  asks := ⟨{ mode := kActivateImmediate }, ⟨_, rfl, rfl⟩, rfl⟩
  status := h

/-- The sender is listed as whatever it was handed says, where that names no address and has no file. -/
theorem reports_oneSender {p : ConnectionPatch} (henable : p.masterEnable = some true)
    (hfile : p.transportFile = none) (haddress : p.multicastAddress = none) (hport : p.port = none) :
    (oneSender true).Reports true "s".toList p := by
  refine ⟨⟨_, List.mem_cons_self, rfl⟩, fun s hs _ => ?_⟩
  rw [List.mem_singleton.mp hs]
  refine ⟨henable, ?_, ?_, ?_⟩
  · rw [hfile]
    rfl
  · rw [haddress]
    rfl
  · rw [hport]
    rfl

/-- What the driver was handed. -/
theorem patchOf_oneSender {enabled : Bool} {patch : List (Text × Json)} {t : Told}
    (ht : ((patchedSender enabled patch).1.api.toldOf true "s".toList).getLast? = some t)
    (h : (((patchedSender enabled patch).1.api.toldOf true "s".toList).getLast?.map patchOf) =
      some { masterEnable := some true, activateImmediate := true }) :
    (oneSender true).Reports true "s".toList (patchOf t) := by
  rw [ht] at h
  rw [Option.some.inj h]
  exact reports_oneSender rfl rfl rfl rfl

/-- A sender that is listed as it was. -/
theorem enabled_read_back :
    SameReport true (activeSender (patchedSender true []).1) (patchedSender true []).2.body := by
  have hactivated := activated_oneSender true [] (by decide)
  obtain ⟨-, t, -, ht, -⟩ := hactivated.report sound_empty (vetted_run [])
  refine (read_back_iff [] hactivated ht (delegated_senderPath _ (by decide) rfl)
    ⟨by decide, [], by decide⟩ [] (fun op hop _ => ?_) ⟨?_, trivial⟩).mpr
      (Or.inl ⟨fun _ e he _ _ => ?_, trivial⟩)
  · rw [List.mem_singleton.mp hop]
    exact patchOf_oneSender ht (by decide)
  · exact List.eq_nil_of_length_eq_zero (by decide)
  · rw [List.mem_singleton.mp he]
    decide

/-- The sender is pointed at a receiver. -/
def pointed : List (Text × Json) := [("receiver_id".toList, .str "x".toList)]

/-- **A sender that forgets its receiver**: it is listed as enabled from then on, and is written anew
without the receiver it was pointed at. -/
theorem pointed_not_read_back : ∃ t, ({} : ConnectionAPIServer).Activated
      (visitAt (oneSender false) 0) (senderPath "staged") (.ok (enableNow pointed)) true
      "s".toList ∧
    ((patchedSender false pointed).1.api.toldOf true "s".toList).getLast? = some t ∧
    (oneSender true).Reports true "s".toList (patchOf t) ∧
    askActive.accepted true "s".toList (patchedSender false pointed).1 = [] ∧
    ¬ SameReport true (activeSender (patchedSender false pointed).1)
      (patchedSender false pointed).2.body := by
  have hactivated := activated_oneSender false pointed (by decide)
  obtain ⟨-, t, -, ht, -⟩ := hactivated.report sound_empty (vetted_run [])
  refine ⟨t, hactivated, ht, patchOf_oneSender ht (by decide),
    List.eq_nil_of_length_eq_zero (by decide), fun h => ?_⟩
  exact absurd (congrArg Json.asString h.farEnd) (by decide)

end ConnectionAPIServer

end Aes67.Nmos
