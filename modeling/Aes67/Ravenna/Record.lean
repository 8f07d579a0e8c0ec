import Aes67.Ravenna.Overrides

/-!
# One resource at a time

A sender and a receiver are activated and patched in the same way: they differ in the file an
activation begins with, in what a patch may say, and in that a receiver needs somewhere to listen.

* `Record`: what senders and receivers have in common; `ConnectionApi.record` and `put`;
* `Record.activate`, `Record.due`, `Record.Patched`: what can happen to one of them;
* `activateSender_eq`, `activateReceiver_eq`: an activation changes one resource;
* **`patchStaged_cases`**: what a patch does.
-/

namespace Aes67.Ravenna

/-- A sender or a receiver; a receiver has no `sdp` of its own. -/
structure Record where
  id : Text
  label : Text
  sdp : Text
  staged : ConnectionState
  active : ConnectionState
  pending : ConnectionApi.PendingActivation

def ConnectionSender.record (sender : ConnectionSender) : Record :=
  ⟨sender.id, sender.label, sender.sdp, sender.staged, sender.active, sender.pending⟩

def ConnectionReceiver.record (receiver : ConnectionReceiver) : Record :=
  ⟨receiver.id, receiver.label, [], receiver.staged, receiver.active, receiver.pending⟩

namespace Record

def sender (r : Record) : ConnectionSender := ⟨r.id, r.label, r.sdp, r.staged, r.active, r.pending⟩

def receiver (r : Record) : ConnectionReceiver := ⟨r.id, r.label, r.staged, r.active, r.pending⟩

variable (address : Text) (env : Surroundings) (forSender : Bool) (r : Record)
  (state : ConnectionState)

/-- The file an activation begins with. -/
def file : Text := if forSender then r.sdp else state.transportFile

/-- A receiver has no file of its own. -/
def Owned : Prop := forSender = false → r.sdp = []

/-- What becomes active when `state` does. -/
def activated : ConnectionState :=
  ({ interfaceAddress := address } : ConnectionApi).activated env forSender (r.file forSender state)
    state

/-- The host's answer. -/
def answer : Except Text Unit :=
  let file := (r.activated address env forSender state).transportFile
  if forSender then env.onSenderActivation r.id r.staged file state.masterEnable
  else env.onActivation r.id r.staged file state.masterEnable

/-- The call of the host. -/
def call : Told :=
  ⟨forSender, r.id, r.staged, r.file forSender state, state,
    r.activated address env forSender state, (r.answer address env forSender state).isOk⟩

/-- The resource once `active` is active. -/
def accepted (active : ConnectionState) : Record :=
  if forSender then
    { r with
      sdp := active.transportFile
      active := active
      staged := { r.staged with transportFile := active.transportFile }.cleared }
  else { r with active := active, staged := r.staged.cleared }

/-- The resource after an activation. -/
def activate : Record :=
  if (r.answer address env forSender state).isOk then
    r.accepted forSender (r.activated address env forSender state)
  else r

/-- The promise taken off. -/
def free : Record := { r with pending := {} }

/-- What a request makes of the resource first. -/
def due : Record :=
  if r.pending.isDue env.arrival then r.free.activate address env forSender r.pending.state else r

/-- The calls it makes for that. -/
def dueCalls : List Told :=
  if r.pending.isDue env.arrival then [r.free.call address env forSender r.pending.state] else []

/-- A staged state as a patch leaves it; that of a sender has the sender's file. -/
def read (body : Except Text Json) : Except Text (ConnectionState × ActivationRequest) :=
  if forSender then do
    let read ← readBody body >>= readSenderPatch env.now r.staged
    return ({ read.1 with transportFile := r.sdp }, read.2)
  else readBody body >>= readReceiverPatch env.now r.staged

/-- The resource with a promise. -/
def promise (staged : ConnectionState) (activation : ActivationRequest) : Record :=
  let promised := ConnectionApi.promisedState staged activation
  { r with staged := promised, pending := ⟨true, activation.due, promised⟩ }

/-- What is staged could not be activated: a receiver would be enabled and has nowhere to listen. -/
def Placeless (staged : ConnectionState) : Prop :=
  forSender = false ∧ staged.masterEnable = true ∧ staged.transportFile = [] ∧
    ConnectionApi.addressed staged = false

/-- What a patch makes of the resource: the resource after it, the calls made, and the answer. -/
inductive Patched (body : Except Text Json) : Record → List Told → ApiResponse → Prop
  | refused {e : Text} (h : r.read env forSender body = .error e) :
    Patched body r [] (errorResponse 400 e)
  | staged {staged : ConnectionState} {activation : ActivationRequest}
    (h : r.read env forSender body = .ok (staged, activation)) (hm : activation.mode = []) :
    Patched body { r with staged := staged } [] (jsonResponse 200 (stateAsJson staged forSender))
  | placeless {staged : ConnectionState} {activation : ActivationRequest} {e : Text}
    (h : r.read env forSender body = .ok (staged, activation)) (hm : activation.mode ≠ [])
    (hp : Placeless forSender staged) :
    Patched body { r with staged := staged } [] (errorResponse 400 e)
  | promised {staged : ConnectionState} {activation : ActivationRequest}
    (h : r.read env forSender body = .ok (staged, activation))
    (hm : IsScheduled activation.mode) (hp : ¬ Placeless forSender staged) :
    Patched body (r.promise staged activation) []
      (jsonResponse 202 (stateAsJson (ConnectionApi.promisedState staged activation) forSender))
  | activated {staged : ConnectionState} {activation : ActivationRequest}
    (h : r.read env forSender body = .ok (staged, activation))
    (hm : activation.mode = kActivateImmediate) (hp : ¬ Placeless forSender staged)
    (ha : (({ r with staged := staged } : Record).answer address env forSender
      (ConnectionApi.immediateState env staged)).isOk = true) :
    Patched body
      (({ r with staged := staged } : Record).activate address env forSender
        (ConnectionApi.immediateState env staged))
      [({ r with staged := staged } : Record).call address env forSender
        (ConnectionApi.immediateState env staged)]
      (jsonResponse 200 (({ interfaceAddress := address } : ConnectionApi).activeAsJson
        (({ r with staged := staged } : Record).activated address env forSender
          (ConnectionApi.immediateState env staged)) forSender))
  | unwilling {staged : ConnectionState} {activation : ActivationRequest} {e : Text}
    (h : r.read env forSender body = .ok (staged, activation))
    (hm : activation.mode = kActivateImmediate) (hp : ¬ Placeless forSender staged)
    (ha : (({ r with staged := staged } : Record).answer address env forSender
      (ConnectionApi.immediateState env staged)).isOk = false) :
    Patched body { r with staged := staged }
      [({ r with staged := staged } : Record).call address env forSender
        (ConnectionApi.immediateState env staged)]
      (errorResponse 500 e)

end Record

namespace ConnectionApi

variable (api : ConnectionApi) (env : Surroundings) (forSender : Bool) (id : Text)

/-- One resource of the API. -/
def record : Option Record :=
  if forSender then (api.senders.find? id).map ConnectionSender.record
  else (api.receivers.find? id).map ConnectionReceiver.record

/-- The API with one resource written. -/
def put (r : Record) : ConnectionApi :=
  if forSender then { api with senders := api.senders.insert id r.sender }
  else { api with receivers := api.receivers.insert id r.receiver }

/-- The API after some calls of the host. -/
def tell (calls : List Told) : ConnectionApi := { api with told := api.told ++ calls }

variable {api env forSender id} {forSender' : Bool} {id' : Text} {r : Record}

@[simp] theorem told_put : (api.put forSender id r).told = api.told := by
  cases forSender <;> rfl

@[simp] theorem told_tell (calls : List Told) : (api.tell calls).told = api.told ++ calls := rfl

@[simp] theorem interfaceAddress_put :
    (api.put forSender id r).interfaceAddress = api.interfaceAddress := by
  cases forSender <;> rfl

@[simp] theorem record_tell (calls : List Told) :
    (api.tell calls).record forSender id = api.record forSender id := rfl

theorem put_put (r' : Record) :
    (api.put forSender id r).put forSender id r' = api.put forSender id r' := by
  cases forSender with
  | true => exact congrArg (fun m => { api with senders := m }) (api.senders.insert_insert id _ _)
  | false =>
    exact congrArg (fun m => { api with receivers := m }) (api.receivers.insert_insert id _ _)

theorem owned_record (h : api.record forSender id = some r) : r.Owned forSender := by
  rintro rfl
  obtain ⟨receiver, -, rfl⟩ := Option.map_eq_some_iff.mp h
  rfl

theorem record_put (ho : r.Owned forSender) : (api.put forSender id r).record forSender' id' =
    if forSender' = forSender ∧ id' = id then some r else api.record forSender' id' := by
  cases forSender <;> cases forSender'
  · have hr : r.receiver.record = r := by
      obtain ⟨_, _, sdp, _, _, _⟩ := r
      exact congrArg (fun sdp => Record.mk _ _ sdp _ _ _) (ho rfl).symm
    change ((api.receivers.insert id r.receiver).find? id').map _ = _
    rw [OrdMap.find?_insert]
    by_cases h : id' = id
    · rw [if_pos h, if_pos ⟨rfl, h⟩]
      exact congrArg some hr
    · rw [if_neg h, if_neg fun hc => h hc.2]
      rfl
  · rw [if_neg (by simp)]
    rfl
  · rw [if_neg (by simp)]
    rfl
  · change ((api.senders.insert id r.sender).find? id').map _ = _
    rw [OrdMap.find?_insert]
    by_cases h : id' = id
    · rw [if_pos h, if_pos ⟨rfl, h⟩]
      rfl
    · rw [if_neg h, if_neg fun hc => h hc.2]
      rfl

/-- **A sender is activated by itself.** -/
theorem activateSender_eq (sender : ConnectionSender) (state : ConnectionState) :
    api.activateSender env id sender state =
      ((api.put true id (sender.record.activate api.interfaceAddress env true state)).tell
        [sender.record.call api.interfaceAddress env true state],
       sender.record.answer api.interfaceAddress env true state) := by
  unfold activateSender Record.activate Record.call
  dsimp only
  cases h : sender.record.answer api.interfaceAddress env true state with
  | error e =>
    have ha : env.onSenderActivation sender.id sender.staged
        (api.activated env true sender.sdp state).transportFile state.masterEnable = .error e := h
    rw [ha]
    rfl
  | ok u =>
    have ha : env.onSenderActivation sender.id sender.staged
        (api.activated env true sender.sdp state).transportFile state.masterEnable = .ok u := h
    rw [ha]
    rfl

/-- **A receiver is activated by itself.** -/
theorem activateReceiver_eq (receiver : ConnectionReceiver) (state : ConnectionState) :
    api.activateReceiver env id receiver state =
      ((api.put false id (receiver.record.activate api.interfaceAddress env false state)).tell
        [receiver.record.call api.interfaceAddress env false state],
       receiver.record.answer api.interfaceAddress env false state) := by
  unfold activateReceiver Record.activate Record.call
  dsimp only
  cases h : receiver.record.answer api.interfaceAddress env false state with
  | error e =>
    have ha : env.onActivation receiver.id receiver.staged
        (api.activated env false state.transportFile state).transportFile state.masterEnable =
          .error e := h
    rw [ha]
    rfl
  | ok u =>
    have ha : env.onActivation receiver.id receiver.staged
        (api.activated env false state.transportFile state).transportFile state.masterEnable =
          .ok u := h
    rw [ha]
    rfl

@[simp] theorem tell_nil : api.tell [] = api := by
  unfold tell
  rw [List.append_nil]

theorem put_record (h : api.record forSender id = some r) : api.put forSender id r = api := by
  cases forSender with
  | true =>
    obtain ⟨sender, hf, rfl⟩ := Option.map_eq_some_iff.mp h
    exact congrArg (fun m => { api with senders := m }) (OrdMap.insert_of_find? _ hf)
  | false =>
    obtain ⟨receiver, hf, rfl⟩ := Option.map_eq_some_iff.mp h
    exact congrArg (fun m => { api with receivers := m }) (OrdMap.insert_of_find? _ hf)

/-- What a patch of a sender does. -/
theorem patchStagedSender_cases (api : ConnectionApi) (env : Surroundings) (id : Text)
    (body : Except Text Json) :
    (api.record true id = none ∧ ∃ e, api.patchStagedSender env id body = (api, errorResponse 404 e)) ∨
    ∃ r r' calls answer, api.record true id = some r ∧
      r.Patched api.interfaceAddress env true body r' calls answer ∧
      api.patchStagedSender env id body = ((api.put true id r').tell calls, answer) := by
  generalize hp : api.patchStagedSender env id body = after
  rw [patchStagedSender] at hp
  cases hf : api.senders.find? id with
  | none =>
    rw [hf] at hp
    exact Or.inl ⟨congrArg (Option.map _) hf, _, hp.symm⟩
  | some sender =>
    have hrec : api.record true id = some sender.record := congrArg (Option.map _) hf
    have hread : sender.record.read env true body =
        (readBody body >>= readSenderPatch env.now sender.staged) >>= fun read =>
          .ok ({ read.1 with transportFile := sender.sdp }, read.2) := rfl
    rw [hf] at hp
    dsimp only at hp
    refine Or.inr ⟨sender.record, ?_⟩
    cases hr : readBody body >>= readSenderPatch env.now sender.staged with
    | error e =>
      rw [hr] at hread hp
      subst hp
      exact ⟨_, _, _, hrec, .refused hread, by rw [put_record hrec, tell_nil]⟩
    | ok read =>
      obtain ⟨staged, activation⟩ := read
      obtain ⟨patch, -, hpatch⟩ := ok_of_bind hr
      rw [hr] at hread hp
      dsimp only at hp
      change sender.record.read env true body =
        .ok ({ staged with transportFile := sender.sdp }, activation) at hread
      generalize ({ staged with transportFile := sender.sdp } : ConnectionState) = staged at hread hp
      have hplace : ∀ s, ¬ Record.Placeless true s := fun s h => by cases h.1
      by_cases h0 : activation.mode = []
      · rw [if_pos h0] at hp
        subst hp
        exact ⟨_, _, _, hrec, .staged hread h0, by rw [tell_nil]; rfl⟩
      rw [if_neg h0] at hp
      by_cases h1 : activation.mode ≠ kActivateImmediate
      · rw [if_pos h1] at hp
        subst hp
        have hm := not_immediate (readSenderPatch_mode hpatch) h0 h1
        exact ⟨_, _, _, hrec, .promised hread hm (hplace _), by rw [tell_nil]; rfl⟩
      rw [if_neg h1] at hp
      rw [not_not] at h1
      let committed : Record := { sender.record with staged := staged }
      have hgo : ({ api with senders := api.senders.insert id { sender with staged := staged } } :
          ConnectionApi).activateSender env id { sender with staged := staged }
            (immediateState env staged) =
          ((api.put true id (committed.activate api.interfaceAddress env true
            (immediateState env staged))).tell
            [committed.call api.interfaceAddress env true (immediateState env staged)],
          committed.answer api.interfaceAddress env true (immediateState env staged)) :=
        (activateSender_eq _ _).trans (congrArg (fun a : ConnectionApi => (a.tell _, _))
          (put_put (r := committed) _))
      rw [hgo] at hp
      cases ha : committed.answer api.interfaceAddress env true (immediateState env staged) with
      | error e =>
        have hsame : committed.activate api.interfaceAddress env true
            (immediateState env staged) = committed := by
          rw [Record.activate, ha]
          rfl
        rw [ha, hsame] at hp
        subst hp
        exact ⟨_, _, _, hrec, .unwilling hread h1 (hplace _) (congrArg Except.isOk ha), rfl⟩
      | ok u =>
        rw [ha] at hp
        subst hp
        refine ⟨_, _, _, hrec, .activated hread h1 (hplace _) (congrArg Except.isOk ha), ?_⟩
        have hactive : ((((api.put true id (committed.activate api.interfaceAddress env true
            (immediateState env staged))).tell
            [committed.call api.interfaceAddress env true
              (immediateState env staged)]).senders.find? id).map ConnectionSender.active).getD {} =
            committed.activated api.interfaceAddress env true (immediateState env staged) := by
          change (((api.senders.insert id _).find? id).map ConnectionSender.active).getD {} = _
          rw [OrdMap.find?_insert_self, Record.activate, ha]
          rfl
        dsimp only
        rw [hactive]
        rfl
/-- What a patch of a receiver does. -/
theorem patchStagedReceiver_cases (api : ConnectionApi) (env : Surroundings) (id : Text)
    (body : Except Text Json) :
    (api.record false id = none ∧
      ∃ e, api.patchStagedReceiver env id body = (api, errorResponse 404 e)) ∨
    ∃ r r' calls answer, api.record false id = some r ∧
      r.Patched api.interfaceAddress env false body r' calls answer ∧
      api.patchStagedReceiver env id body = ((api.put false id r').tell calls, answer) := by
  generalize hp : api.patchStagedReceiver env id body = after
  rw [patchStagedReceiver] at hp
  cases hf : api.receivers.find? id with
  | none =>
    rw [hf] at hp
    exact Or.inl ⟨congrArg (Option.map _) hf, _, hp.symm⟩
  | some receiver =>
    have hrec : api.record false id = some receiver.record := congrArg (Option.map _) hf
    rw [hf] at hp
    dsimp only at hp
    refine Or.inr ⟨receiver.record, ?_⟩
    cases hr : readBody body >>= readReceiverPatch env.now receiver.staged with
    | error e =>
      rw [hr] at hp
      subst hp
      exact ⟨_, _, _, hrec, .refused hr, by rw [put_record hrec, tell_nil]⟩
    | ok read =>
      obtain ⟨staged, activation⟩ := read
      obtain ⟨patch, -, hpatch⟩ := ok_of_bind hr
      rw [hr] at hp
      dsimp only at hp
      by_cases h0 : activation.mode = []
      · rw [if_pos h0] at hp
        subst hp
        exact ⟨_, _, _, hrec, .staged hr h0, by rw [tell_nil]; rfl⟩
      rw [if_neg h0] at hp
      have hiff : Record.Placeless false staged ↔
          staged.masterEnable ∧ staged.transportFile = [] ∧ !addressed staged := by
        simp [Record.Placeless]
      by_cases hplace : Record.Placeless false staged
      · rw [if_pos (hiff.mp hplace)] at hp
        subst hp
        exact ⟨_, _, _, hrec, .placeless hr h0 hplace, by rw [tell_nil]; rfl⟩
      rw [if_neg fun h => hplace (hiff.mpr h)] at hp
      by_cases h1 : activation.mode ≠ kActivateImmediate
      · rw [if_pos h1] at hp
        subst hp
        have hm := not_immediate (readReceiverPatch_mode hpatch) h0 h1
        exact ⟨_, _, _, hrec, .promised hr hm hplace, by rw [tell_nil]; rfl⟩
      rw [if_neg h1] at hp
      rw [not_not] at h1
      let committed : Record := { receiver.record with staged := staged }
      have hgo : ({ api with
          receivers := api.receivers.insert id { receiver with staged := staged } } :
          ConnectionApi).activateReceiver env id { receiver with staged := staged }
            (immediateState env staged) =
          ((api.put false id (committed.activate api.interfaceAddress env false
            (immediateState env staged))).tell
            [committed.call api.interfaceAddress env false (immediateState env staged)],
          committed.answer api.interfaceAddress env false (immediateState env staged)) :=
        (activateReceiver_eq _ _).trans (congrArg (fun a : ConnectionApi => (a.tell _, _))
          (put_put (r := committed) _))
      rw [hgo] at hp
      cases ha : committed.answer api.interfaceAddress env false (immediateState env staged) with
      | error e =>
        have hsame : committed.activate api.interfaceAddress env false
            (immediateState env staged) = committed := by
          rw [Record.activate, ha]
          rfl
        rw [ha, hsame] at hp
        subst hp
        exact ⟨_, _, _, hrec, .unwilling hr h1 hplace (congrArg Except.isOk ha), rfl⟩
      | ok u =>
        rw [ha] at hp
        subst hp
        refine ⟨_, _, _, hrec, .activated hr h1 hplace (congrArg Except.isOk ha), ?_⟩
        have hactive : ((((api.put false id (committed.activate api.interfaceAddress env false
            (immediateState env staged))).tell
            [committed.call api.interfaceAddress env false
              (immediateState env staged)]).receivers.find? id).map
                ConnectionReceiver.active).getD {} =
            committed.activated api.interfaceAddress env false (immediateState env staged) := by
          change (((api.receivers.insert id _).find? id).map ConnectionReceiver.active).getD {} = _
          rw [OrdMap.find?_insert_self, Record.activate, ha]
          rfl
        dsimp only
        rw [hactive]
        rfl

/-- **What a patch does**: nothing, where there is no such resource, and else what it does to that. -/
theorem patchStaged_cases (api : ConnectionApi) (env : Surroundings) (forSender : Bool) (id : Text)
    (body : Except Text Json) :
    (api.record forSender id = none ∧
      ∃ e, api.patchStaged env forSender id body = (api, errorResponse 404 e)) ∨
    ∃ r r' calls answer, api.record forSender id = some r ∧
      r.Patched api.interfaceAddress env forSender body r' calls answer ∧
      api.patchStaged env forSender id body = ((api.put forSender id r').tell calls, answer) := by
  cases forSender with
  | true => exact api.patchStagedSender_cases env id body
  | false => exact api.patchStagedReceiver_cases env id body

end ConnectionApi

end Aes67.Ravenna
