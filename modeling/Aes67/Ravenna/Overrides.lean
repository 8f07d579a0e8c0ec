import Aes67.Ravenna.Leg
import Aes67.Ravenna.Promise

/-!
# Overrides in every run

What a patch puts among the overrides of a resource has passed the checks, and stays there through
every step, staged, promised and handed to an activation.

* `Acceptable.readSenderPatch`, `Acceptable.readReceiverPatch`: what a patch stages;
* `Sound`, `sound_step`: every override there is, and every activation the host was asked about;
* **`followsLeg_iff`**: which activations of a run leave a description that follows its leg.
-/

namespace Aes67.Ravenna

open Sdp (SDPSession parseString)

variable {forSender : Bool} {params : JsonObject}

/-! ## What a patch stages -/

theorem ok_of_forM {α : Type} {f : α → Except Text Unit} {l : List α} (h : l.forM f = .ok ()) :
    ∀ a ∈ l, f a = .ok () := by
  induction l with
  | nil => exact fun a ha => absurd ha List.not_mem_nil
  | cons b l ih =>
    obtain ⟨u, hb, hl⟩ := ok_of_bind (show f b >>= (fun _ => l.forM f) = .ok () from h)
    intro a ha
    rcases List.mem_cons.mp ha with rfl | ha
    · exact hb
    · exact ih hl a ha

theorem Acceptable.erase (h : Acceptable forSender params) (name : Text) :
    Acceptable forSender (params.erase name) := by
  intro k value hf
  rw [OrdMap.find?_erase] at hf
  split_ifs at hf
  exact h k value hf

theorem Acceptable.insert (h : Acceptable forSender params) {name : Text} {value : Json}
    (hc : checkTransportParam forSender name value = .ok ()) (hn : value ≠ .null) :
    Acceptable forSender (params.insert name value) := by
  intro k v hf
  rw [OrdMap.find?_insert] at hf
  split_ifs at hf with hk
  · cases hf
    rw [hk]
    exact ⟨hc, hn⟩
  · exact h k v hf

theorem Acceptable.writeTransportParam (h : Acceptable forSender params) {e : Text × Json}
    (hc : checkTransportParam forSender e.1 e.2 = .ok ()) :
    Acceptable forSender (Ravenna.writeTransportParam params e) := by
  obtain ⟨name, value⟩ := e
  cases value with
  | null => exact h.erase name
  | bool _ | num _ | str _ | obj _ | arr _ => exact h.insert hc (by simp)

theorem Acceptable.foldl_writeTransportParam {l : List (Text × Json)}
    (h : Acceptable forSender params)
    (hl : ∀ e ∈ l, checkTransportParam forSender e.1 e.2 = .ok ()) :
    Acceptable forSender (l.foldl Ravenna.writeTransportParam params) := by
  induction l generalizing params with
  | nil => exact h
  | cons e l ih =>
    exact ih (h.writeTransportParam (hl e List.mem_cons_self))
      fun e' he' => hl e' (List.mem_cons_of_mem _ he')

variable {s₀ s₁ : ConnectionState} {patch value : Json} {now : TaiTime}
  {activation : ActivationRequest}

theorem Acceptable.readTransportParams (h : Acceptable forSender s₀.transportParams)
    (hr : Ravenna.readTransportParams patch forSender s₀ = .ok s₁) :
    Acceptable forSender s₁.transportParams := by
  unfold Ravenna.readTransportParams at hr
  split_ifs at hr
  · cases hr
    exact h
  · obtain ⟨params, hp, hr⟩ := ok_of_bind hr
    cases hr
    unfold applyTransportParams at hp
    match hv : patch.get "transport_params" with
    | .arr [leg] =>
      rw [hv] at hp
      dsimp only at hp
      split_ifs at hp
      obtain ⟨u, hforM, hp⟩ := ok_of_bind hp
      cases hp
      exact h.foldl_writeTransportParam (ok_of_forM hforM)
    | .arr [] | .arr (_ :: _ :: _) | .null | .bool _ | .num _ | .str _ | .obj _ =>
      rw [hv] at hp
      cases hp

theorem transportParams_masterEnable (hr : readMasterEnable patch s₀ = .ok s₁) :
    s₁.transportParams = s₀.transportParams := by
  unfold readMasterEnable at hr
  split_ifs at hr
  · cases hr
    rfl
  · cases hg : patch.get "master_enable" <;> rw [hg] at hr <;> cases hr
    rfl

theorem Acceptable.readTransportFile (h : Acceptable forSender s₀.transportParams)
    (hr : Ravenna.readTransportFile patch s₀ = .ok s₁) :
    Acceptable forSender s₁.transportParams := by
  have hreplaced : Acceptable forSender (determined.foldl OrdMap.erase s₀.transportParams) :=
    ((h.erase _).erase _).erase _
  unfold Ravenna.readTransportFile at hr
  by_cases h1 : (!patch.has "transport_file") = true
  · rw [if_pos h1] at hr
    cases hr
    exact h
  rw [if_neg h1] at hr
  by_cases h2 : (!(patch.get "transport_file").isObject) = true
  · rw [if_pos h2] at hr
    cases hr
  rw [if_neg h2] at hr
  dsimp only at hr
  cases hg : (patch.get "transport_file").get "data" <;> rw [hg] at hr
  case null =>
    cases hr
    exact hreplaced
  case str data =>
    dsimp only at hr
    split_ifs at hr
    cases hr
    exact hreplaced
  all_goals cases hr

theorem Acceptable.readReceiverPatch (h : Acceptable false s₀.transportParams)
    (hr : Ravenna.readReceiverPatch now s₀ patch = .ok (s₁, activation)) :
    Acceptable false s₁.transportParams := by
  obtain ⟨-, -, hr⟩ := ok_of_bind hr
  obtain ⟨s₂, h₂, hr⟩ := ok_of_bind hr
  obtain ⟨far, -, hr⟩ := ok_of_bind hr
  obtain ⟨s₃, h₃, hr⟩ := ok_of_bind hr
  obtain ⟨s₄, h₄, hr⟩ := ok_of_bind hr
  obtain ⟨a, -, hr⟩ := ok_of_bind hr
  cases hr
  rw [← transportParams_masterEnable h₂] at h
  have hfar : Acceptable false { s₂ with senderId := far }.transportParams := h
  exact (hfar.readTransportFile h₃).readTransportParams h₄

theorem Acceptable.readSenderPatch (h : Acceptable true s₀.transportParams)
    (hr : Ravenna.readSenderPatch now s₀ patch = .ok (s₁, activation)) :
    Acceptable true s₁.transportParams := by
  obtain ⟨-, -, hr⟩ := ok_of_bind hr
  obtain ⟨s₂, h₂, hr⟩ := ok_of_bind hr
  obtain ⟨far, -, hr⟩ := ok_of_bind hr
  obtain ⟨s₃, h₃, hr⟩ := ok_of_bind hr
  obtain ⟨a, -, hr⟩ := ok_of_bind hr
  cases hr
  rw [← transportParams_masterEnable h₂] at h
  have hfar : Acceptable true { s₂ with receiverId := far }.transportParams := h
  exact hfar.readTransportParams h₃

namespace ConnectionApi

/-! ## What the host is asked -/

/-- The overrides of every resource have passed the checks, staged and promised, and so have those of
every activation the host was asked about. -/
structure Sound (api : ConnectionApi) : Prop where
  senders : ∀ id sender, api.senders.find? id = some sender →
    Acceptable true sender.staged.transportParams ∧
      Acceptable true sender.pending.state.transportParams
  receivers : ∀ id receiver, api.receivers.find? id = some receiver →
    Acceptable false receiver.staged.transportParams ∧
      Acceptable false receiver.pending.state.transportParams
  told : ∀ t ∈ api.told, Acceptable t.forSender t.requested.transportParams ∧
    ∃ (api' : ConnectionApi) (env : Surroundings),
      t.active = api'.activated env t.forSender t.current t.requested

variable {api : ConnectionApi} {env : Surroundings} {id : Text} {sender : ConnectionSender}
  {receiver : ConnectionReceiver} {state : ConnectionState}

theorem sound_empty : Sound {} :=
  ⟨fun _ _ h => absurd h.symm (Option.some_ne_none _),
    fun _ _ h => absurd h.symm (Option.some_ne_none _), fun _ h => absurd h List.not_mem_nil⟩

theorem Sound.insert_sender (hk : Sound api) (h : Acceptable true sender.staged.transportParams)
    (hp : Acceptable true sender.pending.state.transportParams) :
    Sound { api with senders := api.senders.insert id sender } := by
  refine ⟨fun id' sender' hf => ?_, hk.receivers, hk.told⟩
  replace hf : (api.senders.insert id sender).find? id' = some sender' := hf
  rw [OrdMap.find?_insert] at hf
  split_ifs at hf
  · cases hf
    exact ⟨h, hp⟩
  · exact hk.senders id' sender' hf

theorem Sound.insert_receiver (hk : Sound api)
    (h : Acceptable false receiver.staged.transportParams)
    (hp : Acceptable false receiver.pending.state.transportParams) :
    Sound { api with receivers := api.receivers.insert id receiver } := by
  refine ⟨hk.senders, fun id' receiver' hf => ?_, hk.told⟩
  replace hf : (api.receivers.insert id receiver).find? id' = some receiver' := hf
  rw [OrdMap.find?_insert] at hf
  split_ifs at hf
  · cases hf
    exact ⟨h, hp⟩
  · exact hk.receivers id' receiver' hf

/-- One more question to the host. -/
theorem Sound.ask (hk : Sound api) (forSender accepted : Bool) (id : Text)
    (staged : ConnectionState) (file : Text) (h : Acceptable forSender state.transportParams)
    (api' : ConnectionApi) (env : Surroundings) : Sound { api with told := api.told ++
      [⟨forSender, id, staged, file, state, api'.activated env forSender file state, accepted⟩] } := by
  refine ⟨hk.senders, hk.receivers, fun t ht => ?_⟩
  rcases List.mem_append.mp ht with ht | ht
  · exact hk.told t ht
  · rw [List.mem_singleton.mp ht]
    exact ⟨h, api', env, rfl⟩

theorem Sound.activateSender (hk : Sound api) (env : Surroundings) (id : Text)
    (sender : ConnectionSender) (state : ConnectionState)
    (h : Acceptable true sender.staged.transportParams)
    (hp : Acceptable true sender.pending.state.transportParams)
    (hs : Acceptable true state.transportParams) :
    Sound (api.activateSender env id sender state).1 := by
  unfold ConnectionApi.activateSender
  dsimp only
  cases env.onSenderActivation sender.id sender.staged _ state.masterEnable with
  | error e => exact (hk.ask true _ _ _ sender.sdp hs api env).insert_sender h hp
  | ok u => exact (hk.ask true _ _ _ sender.sdp hs api env).insert_sender h hp

theorem Sound.activateReceiver (hk : Sound api) (env : Surroundings) (id : Text)
    (receiver : ConnectionReceiver) (state : ConnectionState)
    (h : Acceptable false receiver.staged.transportParams)
    (hp : Acceptable false receiver.pending.state.transportParams)
    (hs : Acceptable false state.transportParams) :
    Sound (api.activateReceiver env id receiver state).1 := by
  unfold ConnectionApi.activateReceiver
  dsimp only
  cases env.onActivation receiver.id receiver.staged _ state.masterEnable with
  | error e => exact (hk.ask false _ _ _ state.transportFile hs api env).insert_receiver h hp
  | ok u => exact (hk.ask false _ _ _ state.transportFile hs api env).insert_receiver h hp

/-! ## Every step -/

theorem acceptable_empty (forSender : Bool) : Acceptable forSender .empty :=
  fun _ _ hf => absurd hf.symm (Option.some_ne_none _)

theorem Sound.dueSenders {l : List (Text × ConnectionSender)} (hk : Sound api)
    (h : ∀ e ∈ l, Acceptable true e.2.staged.transportParams ∧
      Acceptable true e.2.pending.state.transportParams) :
    Sound (l.foldl (applyDueSender env) api) := by
  induction l generalizing api with
  | nil => exact hk
  | cons e l ih =>
    refine ih ?_ fun e' he' => h e' (List.mem_cons_of_mem _ he')
    obtain ⟨hstaged, hpending⟩ := h e List.mem_cons_self
    unfold applyDueSender
    split_ifs
    · exact hk.activateSender env _ _ _ hstaged (acceptable_empty _) hpending
    · exact hk

theorem Sound.dueReceivers {l : List (Text × ConnectionReceiver)} (hk : Sound api)
    (h : ∀ e ∈ l, Acceptable false e.2.staged.transportParams ∧
      Acceptable false e.2.pending.state.transportParams) :
    Sound (l.foldl (applyDueReceiver env) api) := by
  induction l generalizing api with
  | nil => exact hk
  | cons e l ih =>
    refine ih ?_ fun e' he' => h e' (List.mem_cons_of_mem _ he')
    obtain ⟨hstaged, hpending⟩ := h e List.mem_cons_self
    unfold applyDueReceiver
    split_ifs
    · exact hk.activateReceiver env _ _ _ hstaged (acceptable_empty _) hpending
    · exact hk

theorem Sound.applyDueActivations (hk : Sound api) (env : Surroundings) :
    Sound (api.applyDueActivations env) :=
  (hk.dueSenders fun e he => hk.senders e.1 e.2 (api.senders.mem_entries_iff.mp he)).dueReceivers
    fun e he => hk.receivers e.1 e.2 (api.receivers.mem_entries_iff.mp he)

theorem Sound.patchStagedSender {body : Except Text Json} (hk : Sound api) :
    Sound (api.patchStagedSender env id body).1 := by
  unfold ConnectionApi.patchStagedSender
  cases hf : api.senders.find? id with
  | none => exact hk
  | some sender =>
    dsimp only
    cases hr : readBody body >>= readSenderPatch env.now sender.staged with
    | error e => exact hk
    | ok read =>
      obtain ⟨staged, activation⟩ := read
      obtain ⟨hold, hpending⟩ := hk.senders id sender hf
      obtain ⟨patch, -, hread⟩ := ok_of_bind hr
      have hstaged := hold.readSenderPatch hread
      let committed : ConnectionSender :=
        { sender with staged := { staged with transportFile := sender.sdp } }
      have hcommitted : Sound { api with senders := api.senders.insert id committed } :=
        hk.insert_sender hstaged hpending
      dsimp only
      split_ifs
      · exact hcommitted
      · exact hk.insert_sender hstaged hstaged
      · have hgo := hcommitted.activateSender env id committed (immediateState env committed.staged)
          hstaged hpending hstaged
        generalize ConnectionApi.activateSender _ _ _ _ _ = after at hgo ⊢
        rcases after with ⟨a, e | u⟩
        · exact hgo
        · exact hgo

theorem Sound.patchStagedReceiver {body : Except Text Json} (hk : Sound api) :
    Sound (api.patchStagedReceiver env id body).1 := by
  unfold ConnectionApi.patchStagedReceiver
  cases hf : api.receivers.find? id with
  | none => exact hk
  | some receiver =>
    dsimp only
    cases hr : readBody body >>= readReceiverPatch env.now receiver.staged with
    | error e => exact hk
    | ok read =>
      obtain ⟨staged, activation⟩ := read
      obtain ⟨hold, hpending⟩ := hk.receivers id receiver hf
      obtain ⟨patch, -, hread⟩ := ok_of_bind hr
      have hstaged := hold.readReceiverPatch hread
      let committed : ConnectionReceiver := { receiver with staged := staged }
      have hcommitted : Sound { api with receivers := api.receivers.insert id committed } :=
        hk.insert_receiver hstaged hpending
      dsimp only
      split_ifs
      · exact hcommitted
      · exact hcommitted
      · exact hk.insert_receiver hstaged hstaged
      · have hgo := hcommitted.activateReceiver env id committed
          (immediateState env committed.staged) hstaged hpending hstaged
        generalize ConnectionApi.activateReceiver _ _ _ _ _ = after at hgo ⊢
        rcases after with ⟨a, e | u⟩
        · exact hgo
        · exact hgo

theorem Sound.patched (hk : Sound api) (p : Patch) : Sound (patched env api p) := by
  obtain ⟨forSender, id, body⟩ := p
  cases forSender with
  | true => exact hk.patchStagedSender
  | false => exact hk.patchStagedReceiver

/-- The overrides a resource comes with have passed the checks, as none at all have. -/
def Checked : Op → Prop
  | .addSender sender => Acceptable true sender.staged.transportParams ∧
      Acceptable true sender.pending.state.transportParams
  | .addReceiver receiver => Acceptable false receiver.staged.transportParams ∧
      Acceptable false receiver.pending.state.transportParams
  | _ => True

/-- **One step keeps the overrides checked.** -/
theorem sound_step (hk : Sound api) {op : Op} (h : Checked op) : Sound (api.step op) := by
  cases op with
  | handle env method path body =>
    have hk' := hk.applyDueActivations env
    change Sound ((api.applyDueActivations env).answer env method path body).1
    rw [answer_fst]
    exact (always_of_step (fun _ p hk => hk.patched p) hk').run
  | addSender sender => exact hk.insert_sender h.1 h.2
  | addReceiver receiver => exact hk.insert_receiver h.1 h.2
  | removeSender id =>
    refine ⟨fun id' sender hf => ?_, hk.receivers, hk.told⟩
    replace hf : (api.senders.erase id).find? id' = some sender := hf
    rw [OrdMap.find?_erase] at hf
    split_ifs at hf
    exact hk.senders id' sender hf
  | removeReceiver id =>
    refine ⟨hk.senders, fun id' receiver hf => ?_, hk.told⟩
    replace hf : (api.receivers.erase id).find? id' = some receiver := hf
    rw [OrdMap.find?_erase] at hf
    split_ifs at hf
    exact hk.receivers id' receiver hf
  | setInterfaceAddress address => exact ⟨hk.senders, hk.receivers, hk.told⟩

/-- **Which activations leave a description that follows the leg**, in every run: those whose port is
a whole number that is not zero, and whose address keeps its place in the description, where the
description has to be written again. -/
theorem followsLeg_iff (l : List Op) (hl : ∀ op ∈ l, Checked op) (t : Told)
    (ht : t ∈ (l.foldl step {}).told) (s : SDPSession) (hs : parseString t.current = some s)
    (api : ConnectionApi) :
    FollowsLeg api t ↔ Rewritable s t.forSender t.requested.transportParams := by
  have hrun : Along step (fun _ op => Checked op) {} l := by
    refine along_iff_prefixes.mpr fun p op hp => hl op (hp.subset ?_)
    simp
  obtain ⟨ha, api', env, hactive⟩ :=
    (always_of_along (P := Sound) (fun _ _ hk h => sound_step hk h) sound_empty hrun).run.told t ht
  exact followsLeg_activated api t hs ha hactive

/-- A sender whose leg is changed and activated at once. -/
def readdressing (leg : List (Text × Json)) : List Op :=
  [.addSender { id := "s".toList, sdp := Sdp.plainSdp },
    .handle agreeable "PATCH".toList "/x-nmos/connection/v1.1/single/senders/s/staged".toList
      (.ok (.obj [("activation".toList, .obj [("mode".toList, .str kActivateImmediate)]),
        ("transport_params".toList, .arr [.obj leg])]))]

/-- A sender moved to another group. -/
theorem followsLeg_group : ∃ t ∈ ((readdressing
    [("destination_ip".toList, .str "239.2.2.2".toList)]).foldl step {}).told, FollowsLeg {} t := by
  obtain ⟨t, ht⟩ := List.exists_mem_of_length_pos (l := ((readdressing
    [("destination_ip".toList, .str "239.2.2.2".toList)]).foldl step {}).told) (by decide +kernel)
  have hall : ∀ t ∈ ((readdressing [("destination_ip".toList, .str "239.2.2.2".toList)]).foldl step
      {}).told, t.current = Sdp.plainSdp ∧
      chosenAddress (Sdp.plainSession 15) t.forSender t.requested.transportParams =
        "239.2.2.2".toList ∧
      chosenPort (Sdp.plainSession 15) t.requested.transportParams = .fin 5004 := by
    decide +kernel
  obtain ⟨hcurrent, haddress, hport⟩ := hall t ht
  refine ⟨t, ht, (followsLeg_iff _ ?_ t ht (Sdp.plainSession 15) ?_ {}).mpr ⟨?_, fun _ => ?_⟩⟩
  · intro op hop
    simp only [readdressing, List.mem_cons, List.not_mem_nil, or_false] at hop
    rcases hop with rfl | rfl
    · exact ⟨acceptable_empty _, acceptable_empty _⟩
    · trivial
  · rw [hcurrent]
    decide +kernel
  · exact ⟨5004, by decide, hport⟩
  · rw [haddress]
    exact ⟨by decide, by decide, by decide, by decide, by decide, by decide, by decide,
      fun _ => by decide⟩

/-- **A description nobody can read**: port zero is in range, and no session. -/
theorem port_zero_not_followsLeg : ∃ t ∈ ((readdressing
    [("destination_port".toList, .ofNat 0)]).foldl step {}).told, t.accepted = true ∧
      (parseString t.current).isSome = true ∧ ¬ FollowsLeg {} t := by
  obtain ⟨t, ht⟩ := List.exists_mem_of_length_pos (l := ((readdressing
    [("destination_port".toList, .ofNat 0)]).foldl step {}).told) (by decide +kernel)
  have hall : ∀ t ∈ ((readdressing [("destination_port".toList, .ofNat 0)]).foldl step {}).told,
      t.accepted = true ∧ (parseString t.current).isSome = true ∧
      (parseString t.active.transportFile).isSome = false := by
    decide +kernel
  obtain ⟨haccepted, hcurrent, hnone⟩ := hall t ht
  refine ⟨t, ht, haccepted, hcurrent, ?_⟩
  rintro ⟨s', hs', -⟩
  rw [hs'] at hnone
  cases hnone

end ConnectionApi

end Aes67.Ravenna
