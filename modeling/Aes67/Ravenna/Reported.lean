import Aes67.Ravenna.Early
import Aes67.Ravenna.Parameters
import Aes67.Ravenna.Requests

/-!
# What an active endpoint reports

What a GET of `/active` reports is the state that is active, with its leg worked out once more. Two
such reports agree where the states do on `master_enable` and on the far end, and their legs on each
parameter.

* `Leads`: a path to an endpoint of one resource, with `answer_of_record`;
* `SameReport`: two reports agree, with **`sameReport_iff`**;
* `Record.Patched.active`, `Record.active_due`: only an accepted call changes what is active;
* `Vetted`: the overrides staged anywhere have passed the checks, with `Vetted.handle`.
-/

namespace Aes67.Ravenna

/-! ## Endpoints -/

namespace ConnectionApi

variable {api : ConnectionApi} {env : Surroundings} {forSender : Bool} {id leaf method path : Text}
  {body : Except Text Json} {r : Record}

/-- The path leads to an endpoint of a resource. -/
def Leads (path : Text) (forSender : Bool) (id leaf : Text) : Prop :=
  kConnectionApiRoot <+: path ∧ ∃ rest, segmentsOf (path.drop kConnectionApiRoot.length) =
    "single".toList :: (if forSender then "senders" else "receivers").toList :: id :: leaf :: rest

/-- A request to an endpoint of a resource. -/
theorem answer_of_leads (hp : Leads path forSender id leaf) :
    api.answer env method path body =
      if id ∈ if forSender then api.senders.keys else api.receivers.keys then
        api.handleLeaf env forSender id leaf method body
      else (api, errorResponse 404
        ((if forSender then "no sender called " else "no receiver called ").toList ++ id)) := by
  obtain ⟨hroot, rest, hseg⟩ := hp
  unfold answer
  rw [if_neg (not_not.mpr hroot), hseg]
  dsimp only
  rw [if_neg (by decide), if_neg (by decide)]
  unfold handleSingle
  dsimp only
  cases forSender with
  | true =>
    rw [if_pos rfl, if_neg (by decide)]
    simp only [decide_true, if_true, ite_not]
  | false =>
    have hkind : decide ("receivers".toList = "senders".toList) = false := by decide
    rw [if_neg Bool.false_ne_true, if_neg (by decide)]
    simp only [hkind, Bool.false_eq_true, if_false, ite_not]

/-- It gets to a resource there is, -/
theorem answer_of_record (hp : Leads path forSender id leaf)
    (hr : api.record forSender id = some r) :
    api.answer env method path body = api.handleLeaf env forSender id leaf method body := by
  have hid : id ∈ if forSender then api.senders.keys else api.receivers.keys :=
    mem_keys_of_record (by rw [hr]; exact Option.some_ne_none r)
  rw [answer_of_leads hp, if_pos hid]

/-- and else is answered 404. -/
theorem status_of_none (hp : Leads path forSender id leaf) (hr : api.record forSender id = none) :
    (api.answer env method path body).2.status = 404 := by
  have hid : ¬ id ∈ if forSender then api.senders.keys else api.receivers.keys := by
    intro hid
    cases forSender with
    | true =>
      obtain ⟨sender, hf⟩ := (OrdMap.mem_keys_iff _).mp hid
      exact absurd (hr.symm.trans (congrArg (Option.map _) hf)) (Option.some_ne_none _).symm
    | false =>
      obtain ⟨receiver, hf⟩ := (OrdMap.mem_keys_iff _).mp hid
      exact absurd (hr.symm.trans (congrArg (Option.map _) hf)) (Option.some_ne_none _).symm
  rw [answer_of_leads hp, if_neg hid]
  rfl

theorem active_of_record (hr : api.record forSender id = some r) :
    (if forSender then ((api.senders.find? id).getD { id := id }).active
      else ((api.receivers.find? id).getD { id := id }).active) = r.active := by
  cases forSender with
  | true =>
    obtain ⟨sender, hf, rfl⟩ := Option.map_eq_some_iff.mp hr
    rw [if_pos rfl, hf]
    rfl
  | false =>
    obtain ⟨receiver, hf, rfl⟩ := Option.map_eq_some_iff.mp hr
    rw [if_neg Bool.false_ne_true, hf]
    rfl

/-- **What a GET of `/active` reports.** -/
theorem handleLeaf_active (hr : api.record forSender id = some r) :
    api.handleLeaf env forSender id "active".toList "GET".toList body =
      (api, jsonResponse 200 (api.activeAsJson r.active forSender)) := by
  rw [← active_of_record hr]
  rfl

theorem activeAsJson_of_address (api : ConnectionApi) (state : ConnectionState)
    (forSender : Bool) : api.activeAsJson state forSender =
      ({ interfaceAddress := api.interfaceAddress } : ConnectionApi).activeAsJson state forSender :=
  rfl

end ConnectionApi

/-! ## Legs -/

section Leg

variable {api : ConnectionApi} {forSender : Bool} {file : Text} {state state' : ConnectionState}
  {params : JsonObject} {name : Text}

/-- Overrides of the parameters of a side. -/
def Named (forSender : Bool) (params : JsonObject) : Prop :=
  ∀ name, name ∉ parameters forSender → params.find? name = none

theorem Acceptable.named (h : Acceptable forSender params) : Named forSender params := by
  intro name hname
  cases hf : params.find? name with
  | none => rfl
  | some value =>
    have hknown : isKnownTransportParam name forSender = false := by
      unfold isKnownTransportParam
      cases forSender <;>
        simp only [parameters, destinationName, Bool.false_eq_true, if_true, if_false,
          List.mem_cons, List.not_mem_nil, or_false, not_or] at hname ⊢ <;>
        obtain ⟨h1, h2, h3, h4, h5⟩ := hname <;>
        simp only [h1, h2, h3, h4, h5, or_self, decide_false, Bool.or_self]
    have hc := (h name value hf).1
    unfold checkTransportParam at hc
    rw [hknown] at hc
    cases hc

theorem named_transportParamsFromSdp (file : Text) (forSender : Bool) :
    Named forSender (transportParamsFromSdp file forSender) := by
  intro name hname
  unfold transportParamsFromSdp
  cases forSender <;>
    simp only [parameters, destinationName, Bool.false_eq_true, if_true, if_false, List.mem_cons,
      List.not_mem_nil, or_false, not_or] at hname <;>
    obtain ⟨h1, h2, h3, h4, h5⟩ := hname <;>
    simp only [OrdMap.find?_insert, h1, h2, h3, h4, h5, Bool.false_eq_true, if_true, if_false] <;>
    rfl

theorem Named.resolve {key : String} {chosen : Json} {leg : JsonObject} (h : Named forSender leg) :
    Named forSender (Ravenna.resolve key chosen leg) := by
  intro name hname
  rw [find?_resolve, h name hname]
  exact ite_self _

theorem Named.resolveAutoLeg {leg : JsonObject} {address : Text} (h : Named forSender leg) :
    Named forSender (Ravenna.resolveAutoLeg leg forSender file address) := by
  unfold Ravenna.resolveAutoLeg
  cases forSender with
  | true =>
    dsimp only
    rw [if_pos rfl]
    cases sessionOf file with
    | none => exact h.resolve.resolve.resolve
    | some s => exact h.resolve.resolve.resolve.resolve
  | false => exact h.resolve.resolve.resolve.resolve

theorem Named.legOf (h : Named forSender state.transportParams) :
    Named forSender (api.legOf forSender file state) := by
  unfold ConnectionApi.legOf
  refine Named.resolveAutoLeg fun name hname => ?_
  rw [find?_overlay, h name hname, named_transportParamsFromSdp file forSender name hname]
  rfl

/-- A leg is written over what the file gives, and nothing of that is left. -/
theorem overlay_legOf (h : Named forSender state.transportParams) :
    overlay (transportParamsFromSdp state.transportFile forSender)
      (api.legOf forSender file state) = api.legOf forSender file state := by
  refine OrdMap.ext_find? fun name => ?_
  rw [find?_overlay]
  by_cases hname : name ∈ parameters forSender
  · rw [find?_legOf hname]
    rfl
  · rw [h.legOf name hname, named_transportParamsFromSdp _ forSender name hname]
    rfl

/-- The key of the far end in an answer. -/
def farEndKey (forSender : Bool) : String := if forSender then "receiver_id" else "sender_id"

/-- The far end of a subscription. -/
def ConnectionState.farEnd (state : ConnectionState) (forSender : Bool) : Text :=
  if forSender then state.receiverId else state.senderId

/-- Two answers report the same `master_enable`, the same far end and the same leg. -/
structure SameReport (forSender : Bool) (answer answer' : Json) : Prop where
  masterEnable : answer.get "master_enable" = answer'.get "master_enable"
  farEnd : answer.get (farEndKey forSender) = answer'.get (farEndKey forSender)
  leg : answer.get "transport_params" = answer'.get "transport_params"

theorem SameReport.refl (answer : Json) : SameReport forSender answer answer := ⟨rfl, rfl, rfl⟩

/-- What a report says of a parameter. -/
def reports (forSender : Bool) (address : Text) (state : ConnectionState) (name : Text) : Json :=
  said state.transportParams name (leftOut forSender state.transportFile address name)
    (leftToDevice forSender state.transportFile address name)

theorem find?_legOf_reports (h : name ∈ parameters forSender) :
    (api.legOf forSender state.transportFile state).find? name =
      some (reports forSender api.interfaceAddress state name) :=
  find?_legOf h

theorem activeAsJson_masterEnable (state : ConnectionState) :
    (api.activeAsJson state forSender).get "master_enable" = .bool state.masterEnable := by
  cases forSender <;> rfl

theorem activeAsJson_farEnd (state : ConnectionState) :
    (api.activeAsJson state forSender).get (farEndKey forSender) =
      .ofText (state.farEnd forSender) := by
  cases forSender <;> rfl

theorem activeAsJson_leg (h : Named forSender state.transportParams) :
    (api.activeAsJson state forSender).get "transport_params" =
      .arr [.obj (api.legOf forSender state.transportFile state).entries] := by
  rw [← overlay_legOf h]
  cases forSender <;> rfl

theorem Json.ofText_injective : Function.Injective Json.ofText := by
  intro a b h
  unfold Json.ofText at h
  split_ifs at h with h1 h2
  · rw [h1, h2]
  · exact Json.str.inj h

/-- **When two reports agree.** -/
theorem sameReport_iff (h : Named forSender state.transportParams)
    (h' : Named forSender state'.transportParams) :
    SameReport forSender (api.activeAsJson state forSender) (api.activeAsJson state' forSender) ↔
      state.masterEnable = state'.masterEnable ∧ state.farEnd forSender = state'.farEnd forSender ∧
        ∀ name ∈ parameters forSender, reports forSender api.interfaceAddress state name =
          reports forSender api.interfaceAddress state' name := by
  constructor
  · rintro ⟨henable, hfar, hleg⟩
    rw [activeAsJson_masterEnable, activeAsJson_masterEnable] at henable
    rw [activeAsJson_farEnd, activeAsJson_farEnd] at hfar
    rw [activeAsJson_leg h, activeAsJson_leg h'] at hleg
    refine ⟨Json.bool.inj henable, Json.ofText_injective hfar, fun name hname => ?_⟩
    have hentries := Json.obj.inj (List.cons.inj (Json.arr.inj hleg)).1
    have hfind : (api.legOf forSender state.transportFile state).find? name =
        (api.legOf forSender state'.transportFile state').find? name := by
      unfold OrdMap.find?
      rw [hentries]
    rw [find?_legOf_reports hname, find?_legOf_reports hname] at hfind
    exact Option.some.inj hfind
  · rintro ⟨henable, hfar, hleg⟩
    have hsame : api.legOf forSender state.transportFile state =
        api.legOf forSender state'.transportFile state' := by
      refine OrdMap.ext_find? fun name => ?_
      by_cases hname : name ∈ parameters forSender
      · rw [find?_legOf_reports hname, find?_legOf_reports hname, hleg name hname]
      · rw [h.legOf name hname, h'.legOf name hname]
    refine ⟨?_, ?_, ?_⟩
    · rw [activeAsJson_masterEnable, activeAsJson_masterEnable, henable]
    · rw [activeAsJson_farEnd, activeAsJson_farEnd, hfar]
    · rw [activeAsJson_leg h, activeAsJson_leg h', hsame]

end Leg

/-! ## What is active, and what is staged -/

namespace Record

variable {address : Text} {env : Surroundings} {forSender : Bool} {r r' : Record}
  {state : ConnectionState} {body : Except Text Json} {bodies : List (Except Text Json)}
  {calls : List Told} {answer : ApiResponse} {results : List (List Told × ApiResponse)}

theorem active_activate (h : (r.answer address env forSender state).isOk = false) :
    r.activate address env forSender state = r := by
  unfold activate
  rw [h]
  rfl

/-- Only an accepted call changes what is active: of what falls due, -/
theorem active_due (h : ∀ t ∈ r.dueCalls address env forSender, t.accepted = false) :
    (r.due address env forSender).active = r.active := by
  unfold dueCalls at h
  unfold due
  split_ifs at h ⊢
  · rw [active_activate (h _ (List.mem_singleton_self _))]
    rfl
  · rfl

/-- of what a patch asks for, -/
theorem Patched.active (h : r.Patched address env forSender body r' calls answer)
    (hcalls : ∀ t ∈ calls, t.accepted = false) : r'.active = r.active := by
  cases h with
  | refused | staged | placeless | promised | unwilling => rfl
  | activated _ _ _ ha =>
    have hno := hcalls _ (List.mem_singleton_self _)
    exact absurd (ha.symm.trans hno) (by decide)

/-- and of what several ask for. -/
theorem Patches.active (h : r.Patches address env forSender bodies r' results)
    (hcalls : ∀ t ∈ results.flatMap Prod.fst, t.accepted = false) : r'.active = r.active := by
  induction h with
  | nil r => rfl
  | cons h hs ih =>
    rw [List.flatMap_cons] at hcalls
    exact (ih fun t ht => hcalls t (List.mem_append_right _ ht)).trans
      (h.active fun t ht => hcalls t (List.mem_append_left _ ht))

/-- The activation a body asks for. -/
def Asks (env : Surroundings) (body : Except Text Json) (activation : ActivationRequest) : Prop :=
  ∃ patch, readBody body = .ok patch ∧ readActivation env.now patch = .ok activation

theorem asks_of_read {staged : ConnectionState} {activation : ActivationRequest}
    (h : r.read env forSender body = .ok (staged, activation)) : Asks env body activation := by
  unfold read at h
  cases forSender with
  | true =>
    obtain ⟨⟨staged', activation'⟩, hr, hsame⟩ := ok_of_bind h
    cases hsame
    obtain ⟨patch, hbody, hpatch⟩ := ok_of_bind hr
    exact ⟨patch, hbody, ConnectionApi.readActivation_of_sender hpatch⟩
  | false =>
    obtain ⟨patch, hbody, hpatch⟩ := ok_of_bind h
    exact ⟨patch, hbody, ConnectionApi.readActivation_of_receiver hpatch⟩

theorem Asks.unique {activation activation' : ActivationRequest} (h : Asks env body activation)
    (h' : Asks env body activation') : activation = activation' := by
  obtain ⟨patch, hbody, hread⟩ := h
  obtain ⟨patch', hbody', hread'⟩ := h'
  obtain rfl := Except.ok.inj (hbody.symm.trans hbody')
  exact Except.ok.inj (hread.symm.trans hread')

theorem acceptable_read {staged : ConnectionState} {activation : ActivationRequest}
    (ha : Acceptable forSender r.staged.transportParams)
    (h : r.read env forSender body = .ok (staged, activation)) :
    Acceptable forSender staged.transportParams := by
  unfold read at h
  cases forSender with
  | true =>
    obtain ⟨⟨staged', activation'⟩, hr, hsame⟩ := ok_of_bind h
    cases hsame
    obtain ⟨patch, -, hpatch⟩ := ok_of_bind hr
    have hread : Acceptable true staged'.transportParams := ha.readSenderPatch hpatch
    exact hread
  | false =>
    obtain ⟨patch, -, hpatch⟩ := ok_of_bind h
    exact ha.readReceiverPatch hpatch

/-- An activation leaves the overrides that are staged. -/
theorem staged_activate : (r.activate address env forSender state).staged.transportParams =
    r.staged.transportParams := by
  unfold activate accepted
  split_ifs <;> rfl

theorem staged_due : (r.due address env forSender).staged.transportParams =
    r.staged.transportParams := by
  unfold due
  split_ifs
  · exact staged_activate
  · rfl

theorem Patched.acceptable (h : r.Patched address env forSender body r' calls answer)
    (ha : Acceptable forSender r.staged.transportParams) :
    Acceptable forSender r'.staged.transportParams := by
  cases h with
  | refused => exact ha
  | staged h | placeless h | unwilling h => exact acceptable_read ha h
  | @promised staged _ h =>
    have hread : Acceptable forSender staged.transportParams := acceptable_read ha h
    exact hread
  | activated h =>
    rw [staged_activate]
    exact acceptable_read ha h

theorem Patches.acceptable (h : r.Patches address env forSender bodies r' results)
    (ha : Acceptable forSender r.staged.transportParams) :
    Acceptable forSender r'.staged.transportParams := by
  induction h with
  | nil r => exact ha
  | cons h hs ih => exact ih (h.acceptable ha)

end Record

namespace ConnectionApi

variable {api : ConnectionApi} {env : Surroundings} {forSender : Bool} {id method path : Text}
  {body : Except Text Json} {r : Record}

/-- The overrides staged on every resource have passed the checks. -/
def Vetted (api : ConnectionApi) : Prop :=
  ∀ forSender id r, api.record forSender id = some r →
    Acceptable forSender r.staged.transportParams

theorem Vetted.handle (h : Vetted api) (hk : Keyed api) (env : Surroundings) (method path : Text)
    (body : Except Text Json) : Vetted (api.handle env method path body).1 := by
  intro forSender id r hr
  obtain ⟨hnone, hsome⟩ := (handle_spec hk env method path body).2.2 forSender id
  cases h₀ : api.record forSender id with
  | none =>
    rw [(hnone h₀).1] at hr
    cases hr
  | some r₀ =>
    obtain ⟨r', results, hpatches, hr', -⟩ := hsome r₀ h₀
    obtain rfl := Option.some.inj (hr'.symm.trans hr)
    refine hpatches.acceptable ?_
    rw [Record.staged_due]
    exact h _ _ _ h₀

/-- A request that makes no accepted call about a resource leaves what is active there. -/
theorem active_handle (hk : Keyed api) (hr : api.record forSender id = some r)
    (env : Surroundings) (method path : Text) (body : Except Text Json) :
    ∃ r' calls, (api.handle env method path body).1.record forSender id = some r' ∧
      (api.handle env method path body).1.toldOf forSender id =
        api.toldOf forSender id ++ calls ∧
      ((∀ t ∈ calls, t.accepted = false) → r'.active = r.active) := by
  obtain ⟨r', results, hpatches, hr', htold⟩ :=
    ((handle_spec hk env method path body).2.2 forSender id).2 r hr
  refine ⟨r', _, hr', htold, fun h => ?_⟩
  exact (hpatches.active fun t ht => h t (List.mem_append_right _ ht)).trans
    (Record.active_due fun t ht => h t (List.mem_append_left _ ht))

theorem handle_active_eq (hk : Keyed api) (hp : Leads path forSender id "active".toList)
    (hr : api.record forSender id = some r) :
    api.handle env "GET".toList path body =
      (api.applyDueActivations env, jsonResponse 200
        (({ interfaceAddress := api.interfaceAddress } : ConnectionApi).activeAsJson
          (r.due api.interfaceAddress env forSender).active forSender)) := by
  obtain ⟨haddress, hdue⟩ := applyDueActivations_spec hk env
  have hr' := (hdue forSender id).1
  rw [hr, Option.map_some] at hr'
  rw [handle, answer_of_record hp hr', handleLeaf_active hr', activeAsJson_of_address, haddress]

/-- **What a GET of `/active` answers**: the report of what is active once it is answered. -/
theorem handle_active (hk : Keyed api) (hp : Leads path forSender id "active".toList)
    (hr : api.record forSender id = some r) :
    ∃ r', (api.handle env "GET".toList path body).1.record forSender id = some r' ∧
      (api.handle env "GET".toList path body).2 = jsonResponse 200
        (({ interfaceAddress := api.interfaceAddress } : ConnectionApi).activeAsJson r'.active
          forSender) := by
  have hr' := ((applyDueActivations_spec hk env).2 forSender id).1
  rw [hr, Option.map_some] at hr'
  rw [handle_active_eq hk hp hr]
  exact ⟨_, hr', rfl⟩

/-- **What a patch that is activated at once answers**: the report of what is active once it is
answered, with the call that was accepted for it, the last one made. -/
theorem handle_activated (hk : Keyed api) (hp : Leads path forSender id "staged".toList)
    (hr : api.record forSender id = some r)
    (h200 : (api.handle env "PATCH".toList path body).2.status = 200)
    {activation : ActivationRequest} (hask : Record.Asks env body activation)
    (hmode : activation.mode = kActivateImmediate) :
    ∃ r' t, (api.handle env "PATCH".toList path body).1.record forSender id = some r' ∧
      ((api.handle env "PATCH".toList path body).1.toldOf forSender id).getLast? = some t ∧
      (api.handle env "PATCH".toList path body).2 = jsonResponse 200
        (({ interfaceAddress := api.interfaceAddress } : ConnectionApi).activeAsJson r'.active
          forSender) ∧
      r'.active = t.active ∧
      ∃ r₀ : Record,
        t = r₀.call api.interfaceAddress env forSender (immediateState env r₀.staged) ∧
        (Acceptable forSender r.staged.transportParams →
          Acceptable forSender r₀.staged.transportParams) := by
  obtain ⟨haddress, hdue⟩ := applyDueActivations_spec hk env
  obtain ⟨hr', htold⟩ := hdue forSender id
  rw [hr, Option.map_some] at hr'
  have hgo : api.handle env "PATCH".toList path body =
      (api.applyDueActivations env).patchStaged env forSender id body := by
    rw [handle, answer_of_record hp hr', handleLeaf_staged]
  rw [hgo] at h200 ⊢
  rcases (api.applyDueActivations env).patchStaged_cases env forSender id body with
    ⟨hnone, -⟩ | ⟨r₀, r₁, calls, answer, hr₀, hstep, hpatch⟩
  · rw [hnone] at hr'
    cases hr'
  · obtain rfl := Option.some.inj (hr₀.symm.trans hr')
    rw [hpatch] at h200 ⊢
    have hrec : (((api.applyDueActivations env).put forSender id r₁).tell calls).record
        forSender id = some r₁ :=
      (record_put (hstep.owned (owned_record hr₀))).trans (if_pos ⟨rfl, rfl⟩)
    have hcalls : (((api.applyDueActivations env).put forSender id r₁).tell calls).toldOf
        forSender id = (api.applyDueActivations env).toldOf forSender id ++ calls :=
      (toldOf_tell fun t ht => ⟨(hstep.of_mem ht).1,
        (hstep.of_mem ht).2.trans ((hk.applyDueActivations env) _ _ _ hr₀)⟩).trans
        (by rw [if_pos ⟨rfl, rfl⟩, toldOf_put])
    rw [haddress] at hstep
    cases hstep with
    | refused | placeless | promised | unwilling => cases h200
    | staged h hm =>
      rw [hask.unique (Record.asks_of_read h), hm] at hmode
      exact absurd hmode (by decide)
    | @activated staged _ h hm hplace ha =>
      let committed : Record := { r.due api.interfaceAddress env forSender with staged := staged }
      have hactive : (committed.activate api.interfaceAddress env forSender
          (immediateState env staged)).active =
            committed.activated api.interfaceAddress env forSender (immediateState env staged) := by
        unfold Record.activate Record.accepted
        rw [if_pos ha]
        split_ifs <;> rfl
      have hread : Acceptable forSender r.staged.transportParams →
          Acceptable forSender staged.transportParams := fun hacc =>
        Record.acceptable_read (by rw [Record.staged_due]; exact hacc) h
      refine ⟨_, _, hrec, by rw [hcalls, List.getLast?_concat], ?_, hactive, committed, rfl, hread⟩
      exact congrArg (fun state => jsonResponse 200 (({ interfaceAddress := api.interfaceAddress } :
        ConnectionApi).activeAsJson state forSender)) hactive.symm

end ConnectionApi

end Aes67.Ravenna
