import Aes67.Lib.Run
import Aes67.Ravenna.Refusal

/-!
# What the API has promised

A scheduled activation is kept twice: in the staged state, where a controller reads it, and in the
pending record, which makes it happen. The two are written by five different steps.

* `Linked`: the two records agree; `Kept`: they do for every sender and receiver;
* `carried`: the patches a request carries, one or a bulk of them, with **`answer_fst`**;
* `Keeps`: no promise that falls due is refused by the host, and no immediate activation is accepted
  while a promise waits;
* `kept_applyDueActivations`, `kept_patch`, `kept_step`: what keeps the records in agreement;
* **`kept_of_keeps`**: then the records agree throughout, and no promise outlives an immediate
  activation.
-/

namespace Aes67.Ravenna

theorem ok_of_bind {α β : Type} {x : Except Text α} {f : α → Except Text β} {b : β}
    (h : x >>= f = .ok b) : ∃ a, x = .ok a ∧ f a = .ok b := by
  cases x with
  | error e => cases h
  | ok a => exact ⟨a, rfl, h⟩

/-! ## What a patch does not touch -/

/-- The activation fields of two states are the same. -/
structure SameActivation (s t : ConnectionState) : Prop where
  mode : t.activationMode = s.activationMode
  requestedTime : t.activationRequestedTime = s.activationRequestedTime
  time : t.activationTime = s.activationTime

variable {patch : Json} {s t u : ConnectionState} {now : TaiTime} {activation : ActivationRequest}

theorem SameActivation.refl : SameActivation s s := ⟨rfl, rfl, rfl⟩

theorem SameActivation.trans (h : SameActivation s t) (h' : SameActivation t u) :
    SameActivation s u :=
  ⟨h'.mode.trans h.mode, h'.requestedTime.trans h.requestedTime, h'.time.trans h.time⟩

theorem sameActivation_masterEnable (h : readMasterEnable patch s = .ok t) :
    SameActivation s t := by
  unfold readMasterEnable at h
  split_ifs at h
  · cases h
    exact .refl
  · cases hg : patch.get "master_enable" <;> rw [hg] at h <;> cases h
    exact ⟨rfl, rfl, rfl⟩

theorem sameActivation_transportFile (h : readTransportFile patch s = .ok t) :
    SameActivation s t := by
  unfold readTransportFile at h
  by_cases h1 : (!patch.has "transport_file") = true
  · rw [if_pos h1] at h
    cases h
    exact .refl
  rw [if_neg h1] at h
  by_cases h2 : (!(patch.get "transport_file").isObject) = true
  · rw [if_pos h2] at h
    cases h
  rw [if_neg h2] at h
  dsimp only at h
  cases hg : (patch.get "transport_file").get "data" <;> rw [hg] at h
  case null =>
    cases h
    exact ⟨rfl, rfl, rfl⟩
  case str data =>
    dsimp only at h
    split_ifs at h
    cases h
    exact ⟨rfl, rfl, rfl⟩
  all_goals cases h

theorem sameActivation_transportParams {forSender : Bool}
    (h : readTransportParams patch forSender s = .ok t) : SameActivation s t := by
  unfold readTransportParams at h
  split_ifs at h
  · cases h
    exact .refl
  · obtain ⟨params, -, h⟩ := ok_of_bind h
    cases h
    exact ⟨rfl, rfl, rfl⟩

theorem sameActivation_receiver (h : readReceiverPatch now s patch = .ok (t, activation)) :
    SameActivation s t := by
  obtain ⟨-, -, h⟩ := ok_of_bind h
  obtain ⟨s₁, h₁, h⟩ := ok_of_bind h
  obtain ⟨far, -, h⟩ := ok_of_bind h
  obtain ⟨s₂, h₂, h⟩ := ok_of_bind h
  obtain ⟨s₃, h₃, h⟩ := ok_of_bind h
  obtain ⟨a, -, h⟩ := ok_of_bind h
  cases h
  have hfar : SameActivation s₁ { s₁ with senderId := far } := ⟨rfl, rfl, rfl⟩
  exact (sameActivation_masterEnable h₁).trans
    (hfar.trans ((sameActivation_transportFile h₂).trans (sameActivation_transportParams h₃)))

theorem sameActivation_sender (h : readSenderPatch now s patch = .ok (t, activation)) :
    SameActivation s t := by
  obtain ⟨-, -, h⟩ := ok_of_bind h
  obtain ⟨s₁, h₁, h⟩ := ok_of_bind h
  obtain ⟨far, -, h⟩ := ok_of_bind h
  obtain ⟨s₂, h₂, h⟩ := ok_of_bind h
  obtain ⟨a, -, h⟩ := ok_of_bind h
  cases h
  have hfar : SameActivation s₁ { s₁ with receiverId := far } := ⟨rfl, rfl, rfl⟩
  exact (sameActivation_masterEnable h₁).trans (hfar.trans (sameActivation_transportParams h₂))

/-- A mode that is one of the two scheduled ones. -/
def IsScheduled (mode : Text) : Prop := mode = kActivateRelative ∨ mode = kActivateAbsolute

instance (mode : Text) : Decidable (IsScheduled mode) := inferInstanceAs (Decidable (_ ∨ _))

/-- An activation is not asked for, or is immediate, or is scheduled. -/
theorem readActivation_mode (h : readActivation now patch = .ok activation) :
    activation.mode = [] ∨ activation.mode = kActivateImmediate ∨ IsScheduled activation.mode := by
  unfold readActivation at h
  by_cases h1 : (!patch.has "activation") = true
  · rw [if_pos h1] at h
    cases h
    exact Or.inl rfl
  rw [if_neg h1] at h
  by_cases h2 : (!(patch.get "activation").isObject) = true
  · rw [if_pos h2] at h
    cases h
  rw [if_neg h2] at h
  cases hm : (patch.get "activation").get "mode" <;> rw [hm] at h
  case null =>
    cases h
    exact Or.inl rfl
  case str mode =>
    dsimp only at h
    by_cases h3 : mode = kActivateImmediate
    · rw [if_pos h3] at h
      cases h
      exact Or.inr (Or.inl h3)
    rw [if_neg h3] at h
    by_cases h4 : mode ≠ kActivateRelative ∧ mode ≠ kActivateAbsolute
    · rw [if_pos h4] at h
      cases h
    rw [if_neg h4] at h
    rw [not_and_or, not_not, not_not] at h4
    cases hr : (patch.get "activation").get "requested_time" <;> rw [hr] at h
    case str requested =>
      dsimp only at h
      cases ht : parseTai requested <;> rw [ht] at h <;> cases h
      exact Or.inr (Or.inr h4)
    all_goals cases h
  all_goals cases h

theorem readReceiverPatch_mode (h : readReceiverPatch now s patch = .ok (t, activation)) :
    activation.mode = [] ∨ activation.mode = kActivateImmediate ∨ IsScheduled activation.mode := by
  obtain ⟨-, -, h⟩ := ok_of_bind h
  obtain ⟨s₁, -, h⟩ := ok_of_bind h
  obtain ⟨far, -, h⟩ := ok_of_bind h
  obtain ⟨s₂, -, h⟩ := ok_of_bind h
  obtain ⟨s₃, -, h⟩ := ok_of_bind h
  obtain ⟨a, ha, h⟩ := ok_of_bind h
  cases h
  exact readActivation_mode ha

theorem readSenderPatch_mode (h : readSenderPatch now s patch = .ok (t, activation)) :
    activation.mode = [] ∨ activation.mode = kActivateImmediate ∨ IsScheduled activation.mode := by
  obtain ⟨-, -, h⟩ := ok_of_bind h
  obtain ⟨s₁, -, h⟩ := ok_of_bind h
  obtain ⟨far, -, h⟩ := ok_of_bind h
  obtain ⟨s₂, -, h⟩ := ok_of_bind h
  obtain ⟨a, ha, h⟩ := ok_of_bind h
  cases h
  exact readActivation_mode ha

/-! ## The two records -/

/-- The staged state and the pending record tell the same promise. -/
structure Linked (staged : ConnectionState) (pending : ConnectionApi.PendingActivation) : Prop where
  scheduled : IsScheduled staged.activationMode ↔ pending.waiting = true
  requestedTime : pending.waiting = true →
    staged.activationRequestedTime = pending.state.activationRequestedTime
  time : pending.waiting = true → staged.activationTime = pending.state.activationTime
  due : pending.waiting = true → staged.activationTime = taiText pending.due

instance (staged : ConnectionState) (pending : ConnectionApi.PendingActivation) :
    Decidable (Linked staged pending) :=
  decidable_of_iff ((IsScheduled staged.activationMode ↔ pending.waiting = true) ∧
      (pending.waiting = true →
        staged.activationRequestedTime = pending.state.activationRequestedTime) ∧
      (pending.waiting = true → staged.activationTime = pending.state.activationTime) ∧
      (pending.waiting = true → staged.activationTime = taiText pending.due))
    ⟨fun h => ⟨h.1, h.2.1, h.2.2.1, h.2.2.2⟩, fun h => ⟨h.1, h.2, h.3, h.4⟩⟩

theorem Linked.of_sameActivation {pending : ConnectionApi.PendingActivation}
    (h : Linked s pending) (hst : SameActivation s t) : Linked t pending where
  scheduled := by rw [hst.mode, h.scheduled]
  requestedTime hw := hst.requestedTime.trans (h.requestedTime hw)
  time hw := hst.time.trans (h.time hw)
  due hw := hst.time.trans (h.due hw)

/-- Nothing is scheduled once the state is active, so nothing may be waiting. -/
theorem linked_cleared {pending : ConnectionApi.PendingActivation}
    (h : pending.waiting = false) : Linked s.cleared pending := by
  have hmode : ¬ IsScheduled "null".toList := by decide
  refine ⟨iff_of_false hmode (by simp [h]), fun hw => ?_, fun hw => ?_, fun hw => ?_⟩ <;>
    simp [h] at hw

namespace ConnectionApi

theorem linked_promisedState (h : IsScheduled activation.mode) :
    Linked (promisedState s activation) ⟨true, activation.due, promisedState s activation⟩ :=
  ⟨iff_of_true h rfl, fun _ => rfl, fun _ => rfl, fun _ => rfl⟩

/-- The two records of every resource tell the same promise. -/
structure Kept (api : ConnectionApi) : Prop where
  senders : ∀ id sender, api.senders.find? id = some sender → Linked sender.staged sender.pending
  receivers : ∀ id receiver, api.receivers.find? id = some receiver →
    Linked receiver.staged receiver.pending

variable {api : ConnectionApi} {env : Surroundings} {id : Text} {sender : ConnectionSender}
  {receiver : ConnectionReceiver} {state : ConnectionState} {told : List Told}

theorem kept_insert_sender (hk : Kept api) (h : Linked sender.staged sender.pending) :
    Kept { api with senders := api.senders.insert id sender, told := told } := by
  refine ⟨fun id' sender' hf => ?_, hk.receivers⟩
  replace hf : (api.senders.insert id sender).find? id' = some sender' := hf
  rw [OrdMap.find?_insert] at hf
  split_ifs at hf
  · cases hf
    exact h
  · exact hk.senders id' sender' hf

theorem kept_insert_receiver (hk : Kept api) (h : Linked receiver.staged receiver.pending) :
    Kept { api with receivers := api.receivers.insert id receiver, told := told } := by
  refine ⟨hk.senders, fun id' receiver' hf => ?_⟩
  replace hf : (api.receivers.insert id receiver).find? id' = some receiver' := hf
  rw [OrdMap.find?_insert] at hf
  split_ifs at hf
  · cases hf
    exact h
  · exact hk.receivers id' receiver' hf

/-! ## What the host says -/

variable (api env) in
/-- The host's answer to a sender's activation. -/
def senderAnswer (sender : ConnectionSender) (state : ConnectionState) : Except Text Unit :=
  env.onSenderActivation sender.id sender.staged
    (api.activated env true sender.sdp state).transportFile state.masterEnable

variable (api env) in
/-- The host's answer to a receiver's activation. -/
def receiverAnswer (receiver : ConnectionReceiver) (state : ConnectionState) : Except Text Unit :=
  env.onActivation receiver.id receiver.staged
    (api.activated env false state.transportFile state).transportFile state.masterEnable

/-- An activation keeps the records, if a refused one finds them so and an accepted one finds
nothing waiting. -/
theorem kept_activateSender (env : Surroundings) (id : Text) (sender : ConnectionSender)
    (state : ConnectionState) (hk : Kept api)
    (hrefused : (api.senderAnswer env sender state).isOk = false →
      Linked sender.staged sender.pending)
    (haccepted : (api.senderAnswer env sender state).isOk = true →
      sender.pending.waiting = false) :
    Kept (api.activateSender env id sender state).1 := by
  unfold activateSender
  dsimp only
  cases ha : api.senderAnswer env sender state with
  | error e =>
    rw [ha] at hrefused
    rw [senderAnswer] at ha
    rw [ha]
    exact kept_insert_sender hk (hrefused rfl)
  | ok u =>
    rw [ha] at haccepted
    rw [senderAnswer] at ha
    rw [ha]
    exact kept_insert_sender hk (linked_cleared (haccepted rfl))

theorem kept_activateReceiver (env : Surroundings) (id : Text) (receiver : ConnectionReceiver)
    (state : ConnectionState) (hk : Kept api)
    (hrefused : (api.receiverAnswer env receiver state).isOk = false →
      Linked receiver.staged receiver.pending)
    (haccepted : (api.receiverAnswer env receiver state).isOk = true →
      receiver.pending.waiting = false) :
    Kept (api.activateReceiver env id receiver state).1 := by
  unfold activateReceiver
  dsimp only
  cases ha : api.receiverAnswer env receiver state with
  | error e =>
    rw [ha] at hrefused
    rw [receiverAnswer] at ha
    rw [ha]
    exact kept_insert_receiver hk (hrefused rfl)
  | ok u =>
    rw [ha] at haccepted
    rw [receiverAnswer] at ha
    rw [ha]
    exact kept_insert_receiver hk (linked_cleared (haccepted rfl))

/-! ## What falls due -/

/-- The host agrees to every promise that falls due. -/
structure DueAccepted (api : ConnectionApi) (env : Surroundings) : Prop where
  senders : ∀ e ∈ api.senders.entries, e.2.pending.isDue env.arrival = true →
    (api.senderAnswer env e.2 e.2.pending.state).isOk = true
  receivers : ∀ e ∈ api.receivers.entries, e.2.pending.isDue env.arrival = true →
    (api.receiverAnswer env e.2 e.2.pending.state).isOk = true

instance : Decidable (DueAccepted api env) :=
  decidable_of_iff (_ ∧ _) ⟨fun h => ⟨h.1, h.2⟩, fun h => ⟨h.1, h.2⟩⟩

/-- What the host is asked depends on the API through its own address alone. -/
theorem activated_congr {a b : ConnectionApi} (h : a.interfaceAddress = b.interfaceAddress)
    (forSender : Bool) (file : Text) (state : ConnectionState) :
    a.activated env forSender file state = b.activated env forSender file state := by
  unfold activated legOf
  rw [h]

theorem senderAnswer_congr {a b : ConnectionApi} (h : a.interfaceAddress = b.interfaceAddress) :
    a.senderAnswer env sender state = b.senderAnswer env sender state := by
  unfold senderAnswer
  rw [activated_congr h]

theorem receiverAnswer_congr {a b : ConnectionApi} (h : a.interfaceAddress = b.interfaceAddress) :
    a.receiverAnswer env receiver state = b.receiverAnswer env receiver state := by
  unfold receiverAnswer
  rw [activated_congr h]

theorem interfaceAddress_activateSender :
    (api.activateSender env id sender state).1.interfaceAddress = api.interfaceAddress := by
  unfold activateSender
  dsimp only
  cases env.onSenderActivation sender.id sender.staged _ state.masterEnable <;> rfl

theorem interfaceAddress_applyDueSender (env : Surroundings) (api : ConnectionApi)
    (e : Text × ConnectionSender) :
    (applyDueSender env api e).interfaceAddress = api.interfaceAddress := by
  unfold applyDueSender
  split_ifs
  · exact interfaceAddress_activateSender
  · rfl

theorem interfaceAddress_activateReceiver :
    (api.activateReceiver env id receiver state).1.interfaceAddress = api.interfaceAddress := by
  unfold activateReceiver
  dsimp only
  cases env.onActivation receiver.id receiver.staged _ state.masterEnable <;> rfl

theorem interfaceAddress_applyDueReceiver (env : Surroundings) (api : ConnectionApi)
    (e : Text × ConnectionReceiver) :
    (applyDueReceiver env api e).interfaceAddress = api.interfaceAddress := by
  unfold applyDueReceiver
  split_ifs
  · exact interfaceAddress_activateReceiver
  · rfl

theorem kept_applyDueSender (hk : Kept api) {e : Text × ConnectionSender}
    (h : e.2.pending.isDue env.arrival = true →
      (api.senderAnswer env e.2 e.2.pending.state).isOk = true) :
    Kept (applyDueSender env api e) := by
  unfold applyDueSender
  split_ifs with hdue
  · refine kept_activateSender env _ _ _ hk (fun hrefused => ?_) fun _ => rfl
    exact absurd ((h hdue).symm.trans hrefused) (by decide)
  · exact hk

theorem kept_applyDueReceiver (hk : Kept api) {e : Text × ConnectionReceiver}
    (h : e.2.pending.isDue env.arrival = true →
      (api.receiverAnswer env e.2 e.2.pending.state).isOk = true) :
    Kept (applyDueReceiver env api e) := by
  unfold applyDueReceiver
  split_ifs with hdue
  · refine kept_activateReceiver env _ _ _ hk (fun hrefused => ?_) fun _ => rfl
    exact absurd ((h hdue).symm.trans hrefused) (by decide)
  · exact hk

/-- The loop over the senders keeps the records, and the address the host is asked with. -/
theorem kept_dueSenders {l : List (Text × ConnectionSender)} (hk : Kept api)
    (h : ∀ e ∈ l, e.2.pending.isDue env.arrival = true →
      (api.senderAnswer env e.2 e.2.pending.state).isOk = true) :
    Kept (l.foldl (applyDueSender env) api) ∧
      (l.foldl (applyDueSender env) api).interfaceAddress = api.interfaceAddress := by
  induction l generalizing api with
  | nil => exact ⟨hk, rfl⟩
  | cons e l ih =>
    have haddress := interfaceAddress_applyDueSender env api e
    have hkept := kept_applyDueSender hk (h e List.mem_cons_self)
    obtain ⟨hrest, hsame⟩ := ih hkept fun e' he' hdue => by
      rw [senderAnswer_congr haddress]
      exact h e' (List.mem_cons_of_mem _ he') hdue
    exact ⟨hrest, hsame.trans haddress⟩

theorem kept_dueReceivers {l : List (Text × ConnectionReceiver)} (hk : Kept api)
    (h : ∀ e ∈ l, e.2.pending.isDue env.arrival = true →
      (api.receiverAnswer env e.2 e.2.pending.state).isOk = true) :
    Kept (l.foldl (applyDueReceiver env) api) := by
  induction l generalizing api with
  | nil => exact hk
  | cons e l ih =>
    have haddress := interfaceAddress_applyDueReceiver env api e
    refine ih (kept_applyDueReceiver hk (h e List.mem_cons_self)) fun e' he' hdue => ?_
    rw [receiverAnswer_congr haddress]
    exact h e' (List.mem_cons_of_mem _ he') hdue

/-- **Promises that fall due keep the records**, where the host agrees to them. -/
theorem kept_applyDueActivations (hk : Kept api) (h : DueAccepted api env) :
    Kept (api.applyDueActivations env) := by
  obtain ⟨hkept, haddress⟩ := kept_dueSenders hk h.senders
  refine kept_dueReceivers hkept fun e he hdue => ?_
  rw [receiverAnswer_congr haddress]
  exact h.receivers e he hdue

/-! ## The patches of a request -/

/-- A patch of one resource's staged state. -/
structure Patch where
  forSender : Bool
  id : Text
  body : Except Text Json

/-- The API after a patch. -/
def patched (env : Surroundings) (api : ConnectionApi) (p : Patch) : ConnectionApi :=
  (api.patchStaged env p.forSender p.id p.body).1

/-- The patches of a bulk request, which stops at the first entry that is none. -/
def bulkPatches (env : Surroundings) (forSenders : Bool) : List Json → List Patch
  | [] => []
  | entry :: entries =>
    if !entry.isObject ∨ !(entry.get "id").isString then []
    else ⟨forSenders, (entry.get "id").asString, env.reparse (entry.get "params")⟩ ::
      bulkPatches env forSenders entries

/-- The segment names one of the two kinds of resources. -/
def IsKind (kind : Text) : Prop := kind = "senders".toList ∨ kind = "receivers".toList

instance (kind : Text) : Decidable (IsKind kind) := inferInstanceAs (Decidable (_ ∨ _))

/-- The patch a request below `single/` carries. -/
def carriedSingle (segments : List Text) (method : Text) (body : Except Text Json) : List Patch :=
  match segments with
  | kind :: id :: leaf :: _ =>
    if IsKind kind ∧ leaf = "staged".toList ∧ method = "PATCH".toList then
      [⟨kind = "senders".toList, id, body⟩]
    else []
  | _ => []

/-- The patches a request below `bulk/` carries. -/
def carriedBulk (env : Surroundings) (segments : List Text) (method : Text)
    (body : Except Text Json) : List Patch :=
  match segments, body with
  | [kind], .ok (.arr entries) =>
    if IsKind kind ∧ method = "POST".toList then bulkPatches env (kind = "senders".toList) entries
    else []
  | _, _ => []

/-- The patches a request carries to a staged or a bulk endpoint. -/
def carried (env : Surroundings) (method path : Text) (body : Except Text Json) : List Patch :=
  if ¬ kConnectionApiRoot <+: path then []
  else match segmentsOf (path.drop kConnectionApiRoot.length) with
    | [] => []
    | first :: rest =>
      if first = "bulk".toList then carriedBulk env rest method body
      else if first ≠ "single".toList then []
      else carriedSingle rest method body

theorem patchEntries_fst (forSenders : Bool) (entries : List Json) (answers : List Json) :
    (patchEntries env forSenders entries api answers).1 =
      (bulkPatches env forSenders entries).foldl (patched env) api := by
  induction entries generalizing api answers with
  | nil => rfl
  | cons entry entries ih =>
    unfold patchEntries bulkPatches
    split_ifs
    · rfl
    · exact ih _

theorem isKind_iff {kind : Text} :
    IsKind kind ↔ ¬ (kind ≠ "senders".toList ∧ kind ≠ "receivers".toList) := by
  unfold IsKind
  tauto

/-- A patch of a resource that is not there changes nothing. -/
theorem patchStaged_of_not_mem
    (h : id ∉ if forSender then api.senders.keys else api.receivers.keys) (body : Except Text Json) :
    (api.patchStaged env forSender id body).1 = api := by
  cases forSender with
  | true =>
    have hnone : api.senders.find? id = none := by
      by_contra hsome
      exact h (api.senders.mem_keys_iff.mpr (Option.ne_none_iff_exists'.mp hsome))
    rw [patchStaged, if_pos rfl, patchStagedSender, hnone]
  | false =>
    have hnone : api.receivers.find? id = none := by
      by_contra hsome
      exact h (api.receivers.mem_keys_iff.mpr (Option.ne_none_iff_exists'.mp hsome))
    rw [patchStaged, if_neg Bool.false_ne_true, patchStagedReceiver, hnone]

theorem handleSingle_fst (segments : List Text) (method : Text) (body : Except Text Json) :
    (api.handleSingle env segments method body).1 =
      (carriedSingle segments method body).foldl (patched env) api := by
  unfold handleSingle carriedSingle
  match segments with
  | [] => rfl
  | [kind] =>
    dsimp only
    split_ifs <;> rfl
  | [kind, id] =>
    dsimp only
    split_ifs <;> rfl
  | kind :: id :: leaf :: rest =>
    dsimp only
    by_cases hkind : IsKind kind
    · rw [if_neg (isKind_iff.mp hkind)]
      by_cases hid : id ∉ if decide (kind = "senders".toList) then api.senders.keys
        else api.receivers.keys
      · rw [if_pos hid]
        by_cases hleaf : IsKind kind ∧ leaf = "staged".toList ∧ method = "PATCH".toList
        · rw [if_pos hleaf]
          exact (patchStaged_of_not_mem hid body).symm
        · rw [if_neg hleaf]
          rfl
      · rw [if_neg hid]
        by_cases hleaf : leaf = "staged".toList ∧ method = "PATCH".toList
        · rw [if_pos ⟨hkind, hleaf⟩, hleaf.1, hleaf.2, handleLeaf_staged]
          rfl
        · rw [if_neg fun h => hleaf h.2]
          exact (api.handleLeaf_cases env _ id leaf method body).resolve_right hleaf
    · rw [if_pos (not_not.mp fun h => hkind (isKind_iff.mpr h)), if_neg fun h => hkind h.1]
      rfl

theorem handleBulk_fst (segments : List Text) (method : Text) (body : Except Text Json) :
    (api.handleBulk env segments method body).1 =
      (carriedBulk env segments method body).foldl (patched env) api := by
  unfold handleBulk carriedBulk
  match segments with
  | [] => rfl
  | _ :: _ :: _ => rfl
  | [kind] =>
    dsimp only
    by_cases hkind : IsKind kind
    · rw [if_neg (isKind_iff.mp hkind)]
      by_cases hpost : method = "POST".toList
      · rw [if_neg (not_not.mpr hpost)]
        unfold patchInBulk
        match body with
        | .error e => rfl
        | .ok (.arr entries) =>
          dsimp only
          rw [if_pos ⟨hkind, hpost⟩, patchEntries_fst]
        | .ok .null | .ok (.bool _) | .ok (.num _) | .ok (.str _) | .ok (.obj _) => rfl
      · rw [if_pos hpost]
        have hno : ¬ (IsKind kind ∧ method = "POST".toList) := fun h => hpost h.2
        match body with
        | .error e => rfl
        | .ok (.arr entries) =>
          dsimp only
          rw [if_neg hno]
          rfl
        | .ok .null | .ok (.bool _) | .ok (.num _) | .ok (.str _) | .ok (.obj _) => rfl
    · rw [if_pos (not_not.mp fun h => hkind (isKind_iff.mpr h))]
      have hno : ¬ (IsKind kind ∧ method = "POST".toList) := fun h => hkind h.1
      match body with
      | .error e => rfl
      | .ok (.arr entries) =>
        dsimp only
        rw [if_neg hno]
        rfl
      | .ok .null | .ok (.bool _) | .ok (.num _) | .ok (.str _) | .ok (.obj _) => rfl

/-- **A request is the patches it carries.** -/
theorem answer_fst (api : ConnectionApi) (env : Surroundings) (method path : Text)
    (body : Except Text Json) : (api.answer env method path body).1 =
      (carried env method path body).foldl (patched env) api := by
  unfold answer carried
  by_cases hroot : ¬ kConnectionApiRoot <+: path
  · rw [if_pos hroot, if_pos hroot]
    rfl
  rw [if_neg hroot, if_neg hroot]
  match segmentsOf (path.drop kConnectionApiRoot.length) with
  | [] => rfl
  | first :: rest =>
    dsimp only
    by_cases hbulk : first = "bulk".toList
    · rw [if_pos hbulk, if_pos hbulk]
      exact handleBulk_fst rest method body
    rw [if_neg hbulk, if_neg hbulk]
    by_cases hsingle : first ≠ "single".toList
    · rw [if_pos hsingle, if_pos hsingle]
      rfl
    rw [if_neg hsingle, if_neg hsingle]
    exact handleSingle_fst rest method body

/-! ## What a patch does -/

/-- The patch is an immediate activation that the host accepts. -/
def activatesNow (env : Surroundings) (api : ConnectionApi) (p : Patch) : Bool :=
  if p.forSender then
    match api.senders.find? p.id with
    | none => false
    | some sender =>
      match readBody p.body >>= readSenderPatch env.now sender.staged with
      | .error _ => false
      | .ok (staged, activation) =>
        let staged := { staged with transportFile := sender.sdp }
        activation.mode = kActivateImmediate ∧ (api.senderAnswer env
          { sender with staged := staged } (immediateState env staged)).isOk
  else
    match api.receivers.find? p.id with
    | none => false
    | some receiver =>
      match readBody p.body >>= readReceiverPatch env.now receiver.staged with
      | .error _ => false
      | .ok (staged, activation) =>
        activation.mode = kActivateImmediate ∧
          ¬ (staged.masterEnable ∧ staged.transportFile = [] ∧ !addressed staged) ∧
          (api.receiverAnswer env { receiver with staged := staged }
            (immediateState env staged)).isOk

/-- A promise of the resource is waiting. -/
def waits (api : ConnectionApi) (forSender : Bool) (id : Text) : Bool :=
  if forSender then
    match api.senders.find? id with
    | none => false
    | some sender => sender.pending.waiting
  else
    match api.receivers.find? id with
    | none => false
    | some receiver => receiver.pending.waiting

/-- No promise of the resource is waiting when the patch activates it at once. -/
def PatchKeeps (env : Surroundings) (api : ConnectionApi) (p : Patch) : Prop :=
  activatesNow env api p = true → waits api p.forSender p.id = false

instance (p : Patch) : Decidable (PatchKeeps env api p) :=
  inferInstanceAs (Decidable (_ → _))

theorem not_immediate {mode : Text} (h : mode = [] ∨ mode = kActivateImmediate ∨ IsScheduled mode)
    (h0 : mode ≠ []) (h1 : mode ≠ kActivateImmediate) : IsScheduled mode :=
  (h.resolve_left h0).resolve_left h1

theorem kept_patchStagedSender {body : Except Text Json} (hk : Kept api)
    (h : PatchKeeps env api ⟨true, id, body⟩) : Kept (api.patchStagedSender env id body).1 := by
  unfold PatchKeeps activatesNow waits at h
  dsimp only at h
  rw [if_pos rfl, if_pos rfl] at h
  unfold patchStagedSender
  cases hf : api.senders.find? id with
  | none => exact hk
  | some sender =>
    rw [hf] at h
    dsimp only at h ⊢
    cases hr : readBody body >>= readSenderPatch env.now sender.staged with
    | error e => exact hk
    | ok read =>
      obtain ⟨staged, activation⟩ := read
      rw [hr] at h
      dsimp only at h ⊢
      obtain ⟨patch, -, hread⟩ := ok_of_bind hr
      have hmode := readSenderPatch_mode hread
      have hsame : SameActivation sender.staged { staged with transportFile := sender.sdp } :=
        (sameActivation_sender hread).trans ⟨rfl, rfl, rfl⟩
      have hlinked := (hk.senders id sender hf).of_sameActivation hsame
      by_cases h0 : activation.mode = []
      · rw [if_pos h0]
        exact kept_insert_sender hk hlinked
      rw [if_neg h0]
      by_cases h1 : activation.mode ≠ kActivateImmediate
      · rw [if_pos h1]
        exact kept_insert_sender hk (linked_promisedState (not_immediate hmode h0 h1))
      rw [if_neg h1]
      let committed : ConnectionSender :=
        { sender with staged := { staged with transportFile := sender.sdp } }
      have hcommitted : Kept { api with senders := api.senders.insert id committed } :=
        kept_insert_sender hk hlinked
      have hgo := kept_activateSender env id committed (immediateState env committed.staged)
        hcommitted (fun _ => hlinked) fun haccepted => h (decide_eq_true ⟨not_not.mp h1, haccepted⟩)
      generalize activateSender _ _ _ _ _ = after at hgo ⊢
      rcases after with ⟨a, e | u⟩
      · exact hgo
      · exact hgo

theorem kept_patchStagedReceiver {body : Except Text Json} (hk : Kept api)
    (h : PatchKeeps env api ⟨false, id, body⟩) : Kept (api.patchStagedReceiver env id body).1 := by
  unfold PatchKeeps activatesNow waits at h
  dsimp only at h
  rw [if_neg (by decide), if_neg (by decide)] at h
  unfold patchStagedReceiver
  cases hf : api.receivers.find? id with
  | none => exact hk
  | some receiver =>
    rw [hf] at h
    dsimp only at h ⊢
    cases hr : readBody body >>= readReceiverPatch env.now receiver.staged with
    | error e => exact hk
    | ok read =>
      obtain ⟨staged, activation⟩ := read
      rw [hr] at h
      dsimp only at h ⊢
      obtain ⟨patch, -, hread⟩ := ok_of_bind hr
      have hmode := readReceiverPatch_mode hread
      have hlinked :=
        (hk.receivers id receiver hf).of_sameActivation (sameActivation_receiver hread)
      by_cases h0 : activation.mode = []
      · rw [if_pos h0]
        exact kept_insert_receiver hk hlinked
      rw [if_neg h0]
      by_cases hplace : staged.masterEnable ∧ staged.transportFile = [] ∧ !addressed staged
      · rw [if_pos hplace]
        exact kept_insert_receiver hk hlinked
      rw [if_neg hplace]
      by_cases h1 : activation.mode ≠ kActivateImmediate
      · rw [if_pos h1]
        exact kept_insert_receiver hk (linked_promisedState (not_immediate hmode h0 h1))
      rw [if_neg h1]
      let committed : ConnectionReceiver := { receiver with staged := staged }
      have hcommitted : Kept { api with receivers := api.receivers.insert id committed } :=
        kept_insert_receiver hk hlinked
      have hgo := kept_activateReceiver env id committed (immediateState env committed.staged)
        hcommitted (fun _ => hlinked)
        fun haccepted => h (decide_eq_true ⟨not_not.mp h1, hplace, haccepted⟩)
      generalize activateReceiver _ _ _ _ _ = after at hgo ⊢
      rcases after with ⟨a, e | u⟩
      · exact hgo
      · exact hgo

/-- **A patch keeps the records**, unless it activates at once what is promised for later. -/
theorem kept_patched (hk : Kept api) {p : Patch} (h : PatchKeeps env api p) :
    Kept (patched env api p) := by
  obtain ⟨forSender, id, body⟩ := p
  cases forSender with
  | true => exact kept_patchStagedSender hk h
  | false => exact kept_patchStagedReceiver hk h

/-- An activation leaves alone what is waiting. -/
theorem waits_activateSender (api : ConnectionApi) (env : Surroundings) (id : Text)
    (sender : ConnectionSender) (state : ConnectionState) :
    waits (api.activateSender env id sender state).1 true id = sender.pending.waiting := by
  unfold activateSender
  dsimp only
  cases env.onSenderActivation sender.id sender.staged _ state.masterEnable <;> simp [waits]

theorem waits_activateReceiver (api : ConnectionApi) (env : Surroundings) (id : Text)
    (receiver : ConnectionReceiver) (state : ConnectionState) :
    waits (api.activateReceiver env id receiver state).1 false id = receiver.pending.waiting := by
  unfold activateReceiver
  dsimp only
  cases env.onActivation receiver.id receiver.staged _ state.masterEnable <;> simp [waits]

theorem waits_patchStagedSender {body : Except Text Json}
    (h : activatesNow env api ⟨true, id, body⟩ = true) :
    waits (api.patchStagedSender env id body).1 true id = waits api true id := by
  unfold activatesNow at h
  dsimp only at h
  rw [if_pos rfl] at h
  unfold patchStagedSender
  cases hf : api.senders.find? id with
  | none => rfl
  | some sender =>
    rw [hf] at h
    dsimp only at h ⊢
    cases hr : readBody body >>= readSenderPatch env.now sender.staged with
    | error e => rfl
    | ok read =>
      obtain ⟨staged, activation⟩ := read
      rw [hr] at h
      dsimp only at h ⊢
      obtain ⟨hmode, -⟩ := of_decide_eq_true h
      rw [hmode, if_neg (by decide), if_neg (by simp)]
      let committed : ConnectionSender :=
        { sender with staged := { staged with transportFile := sender.sdp } }
      have hgo := waits_activateSender { api with senders := api.senders.insert id committed } env
        id committed (immediateState env committed.staged)
      have hwaits : waits api true id = committed.pending.waiting := by simp [waits, hf, committed]
      rw [hwaits, ← hgo]
      generalize activateSender _ _ _ _ _ = after
      rcases after with ⟨a, e | u⟩ <;> rfl

theorem waits_patchStagedReceiver {body : Except Text Json}
    (h : activatesNow env api ⟨false, id, body⟩ = true) :
    waits (api.patchStagedReceiver env id body).1 false id = waits api false id := by
  unfold activatesNow at h
  dsimp only at h
  rw [if_neg (by decide)] at h
  unfold patchStagedReceiver
  cases hf : api.receivers.find? id with
  | none => rfl
  | some receiver =>
    rw [hf] at h
    dsimp only at h ⊢
    cases hr : readBody body >>= readReceiverPatch env.now receiver.staged with
    | error e => rfl
    | ok read =>
      obtain ⟨staged, activation⟩ := read
      rw [hr] at h
      dsimp only at h ⊢
      obtain ⟨hmode, hplace, -⟩ := of_decide_eq_true h
      rw [if_neg hplace, hmode, if_neg (by decide), if_neg (by simp)]
      let committed : ConnectionReceiver := { receiver with staged := staged }
      have hgo := waits_activateReceiver { api with receivers := api.receivers.insert id committed }
        env id committed (immediateState env committed.staged)
      have hwaits : waits api false id = committed.pending.waiting := by
        simp [waits, hf, committed]
      rw [hwaits, ← hgo]
      generalize activateReceiver _ _ _ _ _ = after
      rcases after with ⟨a, e | u⟩ <;> rfl

/-- An immediate activation leaves alone what is waiting. -/
theorem waits_patched {p : Patch} (h : activatesNow env api p = true) :
    waits (patched env api p) p.forSender p.id = waits api p.forSender p.id := by
  obtain ⟨forSender, id, body⟩ := p
  cases forSender with
  | true => exact waits_patchStagedSender h
  | false => exact waits_patchStagedReceiver h

/-! ## Runs -/

/-- What a step must not do: refuse a promise that falls due, activate at once what is promised for
later, or bring along a resource whose records disagree. -/
def Keeps (api : ConnectionApi) : Op → Prop
  | .handle env method path body => DueAccepted api env ∧
      Along (patched env) (PatchKeeps env) (api.applyDueActivations env)
        (carried env method path body)
  | .addSender sender => Linked sender.staged sender.pending
  | .addReceiver receiver => Linked receiver.staged receiver.pending
  | .removeSender _ | .removeReceiver _ | .setInterfaceAddress _ => True

instance (api : ConnectionApi) : ∀ op, Decidable (Keeps api op)
  | .handle _ _ _ _ => inferInstanceAs (Decidable (_ ∧ _))
  | .addSender sender => inferInstanceAs (Decidable (Linked sender.staged sender.pending))
  | .addReceiver receiver => inferInstanceAs (Decidable (Linked receiver.staged receiver.pending))
  | .removeSender _ | .removeReceiver _ | .setInterfaceAddress _ => isTrue trivial

/-- An immediate activation that is accepted leaves no promise waiting. -/
def Supersedes (api : ConnectionApi) : Op → Prop
  | .handle env method path body =>
    Along (patched env) (fun api p => activatesNow env api p = true →
      waits (patched env api p) p.forSender p.id = false) (api.applyDueActivations env)
      (carried env method path body)
  | _ => True

/-- **One step keeps the records** under the condition. -/
theorem kept_step (hk : Kept api) {op : Op} (h : Keeps api op) : Kept (api.step op) := by
  cases op with
  | handle env method path body =>
    obtain ⟨hdue, hpatches⟩ := h
    have hk' := kept_applyDueActivations hk hdue
    change Kept ((api.applyDueActivations env).answer env method path body).1
    rw [answer_fst]
    exact (always_of_along (P := Kept) (fun _ _ hk hp => kept_patched hk hp) hk' hpatches).run
  | addSender sender => exact kept_insert_sender hk (h.of_sameActivation ⟨rfl, rfl, rfl⟩)
  | addReceiver receiver => exact kept_insert_receiver hk h
  | removeSender id =>
    refine ⟨fun id' sender hf => ?_, hk.receivers⟩
    replace hf : (api.senders.erase id).find? id' = some sender := hf
    rw [OrdMap.find?_erase] at hf
    split_ifs at hf
    exact hk.senders id' sender hf
  | removeReceiver id =>
    refine ⟨hk.senders, fun id' receiver hf => ?_⟩
    replace hf : (api.receivers.erase id).find? id' = some receiver := hf
    rw [OrdMap.find?_erase] at hf
    split_ifs at hf
    exact hk.receivers id' receiver hf
  | setInterfaceAddress address => exact ⟨hk.senders, hk.receivers⟩

/-- **When the two records agree throughout**: where no promise that falls due is refused and no
immediate activation is accepted while a promise waits. Then an immediate activation leaves no older
promise that could revert it. -/
theorem kept_of_keeps (api : ConnectionApi) (l : List Op) (hk : Kept api)
    (h : Along step Keeps api l) : Always step Kept api l ∧ Along step Supersedes api l := by
  refine ⟨always_of_along (fun _ _ hk hop => kept_step hk hop) hk h, h.imp fun api op _ hop => ?_⟩
  cases op with
  | handle env method path body =>
    exact hop.2.imp fun api p _ hp hnow => (waits_patched hnow).trans (hp hnow)
  | addSender _ | addReceiver _ | removeSender _ | removeReceiver _ | setInterfaceAddress _ =>
    trivial

/-- A patch of one sender that asks for an activation. -/
def activationPatch (env : Surroundings) (activation : List (Text × Json)) : Op :=
  .handle env "PATCH".toList "/x-nmos/connection/v1.1/single/senders/s/staged".toList
    (.ok (.obj [("activation".toList, .obj activation)]))

/-- One second past the beginning of time. -/
def scheduled : Op := activationPatch agreeable
  [("mode".toList, .str kActivateAbsolute), ("requested_time".toList, .str "1:0".toList)]

def immediate : Op := activationPatch agreeable [("mode".toList, .str kActivateImmediate)]

/-- A request at which what is scheduled is due. -/
def later : Op := .handle { agreeable with arrival := { seconds := 2 } } "GET".toList [] (.ok .null)

theorem kept_empty : Kept {} :=
  ⟨fun _ _ h => absurd h.symm (Option.some_ne_none _),
    fun _ _ h => absurd h.symm (Option.some_ne_none _)⟩

/-- A promise that is kept, and an immediate activation after it. -/
theorem kept_of_keeps_due :
    Always step Kept {} [.addSender { id := "s".toList }, scheduled, later, immediate] ∧
      Along step Supersedes {} [.addSender { id := "s".toList }, scheduled, later, immediate] :=
  kept_of_keeps {} _ kept_empty (by decide +kernel)

/-- **A promise that outlives an immediate activation**: nothing is staged any more, and the promise
still waits. -/
theorem immediate_not_kept :
    ¬ Always step Kept {} [.addSender { id := "s".toList }, scheduled, immediate] := by
  intro h
  have hlinked := (Option.all_eq_true _ _).mpr fun sender hf =>
    decide_eq_true (h.run.senders "s".toList sender hf)
  exact absurd hlinked (by decide +kernel)

end ConnectionApi

end Aes67.Ravenna
