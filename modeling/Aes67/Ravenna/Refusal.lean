import Aes67.Ravenna.Connection

/-!
# What a refused patch leaves behind

A PATCH is read to its end before anything is written, but a receiver's is written before it is
asked whether the receiver has somewhere to listen.

* `answer_cases`: a request changes nothing unless it reaches a staged or a bulk endpoint;
* `patchStagedSender_refused`, `patchStagedReceiver_refused`: what a refusal leaves there;
* **`atomic_iff`**: a refused PATCH leaves the API as the activations that were due left it, except
  where it enables a receiver that has nowhere to listen.
-/

namespace Aes67.Ravenna.ConnectionApi

variable {api : ConnectionApi} {env : Surroundings} {id method path : Text}
  {body : Except Text Json}

/-- A status of the 4xx kind. -/
def Refused (r : ApiResponse) : Prop := 400 ≤ r.status ∧ r.status < 500

/-- A refused PATCH leaves everything as the activations that were due left it. -/
def Atomic (api : ConnectionApi) (env : Surroundings) (method path : Text)
    (body : Except Text Json) : Prop :=
  method = "PATCH".toList → Refused (api.handle env method path body).2 →
    (api.handle env method path body).1 = api.applyDueActivations env

/-- The path leads to the staged endpoint of a resource. -/
def Reaches (path : Text) (forSender : Bool) (id : Text) : Prop :=
  kConnectionApiRoot <+: path ∧ ∃ rest, segmentsOf (path.drop kConnectionApiRoot.length) =
    "single".toList :: (if forSender then "senders" else "receivers").toList :: id ::
      "staged".toList :: rest

/-- The staged state is activated, enabled, and has nowhere to listen. -/
def Unplaced (staged : ConnectionState) (activation : ActivationRequest) : Prop :=
  activation.mode ≠ [] ∧ staged.masterEnable = true ∧ staged.transportFile = [] ∧
    addressed staged = false

/-- A patch that reads well, changes what is staged and enables a receiver that has nowhere to
listen. -/
def HalfStaged (api : ConnectionApi) (now : TaiTime) (path : Text) (body : Except Text Json) :
    Prop :=
  ∃ id receiver staged activation, Reaches path false id ∧
    api.receivers.find? id = some receiver ∧
    readBody body >>= readReceiverPatch now receiver.staged = .ok (staged, activation) ∧
    Unplaced staged activation ∧ staged ≠ receiver.staged

theorem not_refused {status : ℕ} {value : Json} (h : status < 400 ∨ 500 ≤ status) :
    ¬ Refused (jsonResponse status value) := by
  rintro ⟨h1, h2⟩
  change 400 ≤ status at h1
  change status < 500 at h2
  omega

/-! ## The staged endpoints -/

/-- A sender's refusal leaves nothing behind. -/
theorem patchStagedSender_refused (h : Refused (api.patchStagedSender env id body).2) :
    (api.patchStagedSender env id body).1 = api := by
  unfold patchStagedSender at h ⊢
  cases hf : api.senders.find? id with
  | none => rfl
  | some sender =>
    rw [hf] at h
    dsimp only at h ⊢
    cases hr : readBody body >>= readSenderPatch env.now sender.staged with
    | error e => rfl
    | ok read =>
      rw [hr] at h
      obtain ⟨staged, activation⟩ := read
      dsimp only at h
      split_ifs at h
      · exact absurd h (not_refused (by omega))
      · exact absurd h (not_refused (by omega))
      · revert h
        rcases activateSender _ _ _ _ _ with ⟨a, e | u⟩
        · exact fun h => absurd h (not_refused (by omega))
        · exact fun h => absurd h (not_refused (by omega))

/-- A receiver's refusal leaves nothing behind, or what was staged. -/
theorem patchStagedReceiver_refused (h : Refused (api.patchStagedReceiver env id body).2) :
    (api.patchStagedReceiver env id body).1 = api ∨
      ∃ receiver staged activation, api.receivers.find? id = some receiver ∧
        readBody body >>= readReceiverPatch env.now receiver.staged = .ok (staged, activation) ∧
        Unplaced staged activation ∧ (api.patchStagedReceiver env id body).1 =
          { api with receivers := api.receivers.insert id { receiver with staged := staged } } := by
  unfold patchStagedReceiver at h ⊢
  cases hf : api.receivers.find? id with
  | none => exact Or.inl rfl
  | some receiver =>
    rw [hf] at h
    dsimp only at h ⊢
    cases hr : readBody body >>= readReceiverPatch env.now receiver.staged with
    | error e => exact Or.inl rfl
    | ok read =>
      rw [hr] at h
      obtain ⟨staged, activation⟩ := read
      dsimp only at h ⊢
      split_ifs at h with h1 h2 h3
      · exact absurd h (not_refused (by omega))
      · rw [if_neg h1, if_pos h2]
        exact Or.inr ⟨receiver, staged, activation, rfl, hr,
          ⟨h1, h2.1, h2.2.1, by simpa using h2.2.2⟩, rfl⟩
      · exact absurd h (not_refused (by omega))
      · revert h
        rcases activateReceiver _ _ _ _ _ with ⟨a, e | u⟩
        · exact fun h => absurd h (not_refused (by omega))
        · exact fun h => absurd h (not_refused (by omega))

/-- Enabling a receiver that has nowhere to listen is refused once it is staged. -/
theorem patchStagedReceiver_unplaced {receiver : ConnectionReceiver} {staged : ConnectionState}
    {activation : ActivationRequest} (hf : api.receivers.find? id = some receiver)
    (hr : readBody body >>= readReceiverPatch env.now receiver.staged = .ok (staged, activation))
    (hu : Unplaced staged activation) :
    Refused (api.patchStagedReceiver env id body).2 ∧ (api.patchStagedReceiver env id body).1 =
      { api with receivers := api.receivers.insert id { receiver with staged := staged } } := by
  obtain ⟨h1, h2, h3, h4⟩ := hu
  rw [patchStagedReceiver, hf]
  dsimp only
  rw [hr]
  dsimp only
  rw [if_neg h1, if_pos ⟨h2, h3, by rw [h4]; rfl⟩]
  exact ⟨(⟨le_rfl, by omega⟩ : 400 ≤ 400 ∧ 400 < 500), rfl⟩

/-! ## Every path -/

/-- The path leads to a bulk endpoint. -/
def ReachesBulk (path : Text) (forSenders : Bool) : Prop :=
  kConnectionApiRoot <+: path ∧ segmentsOf (path.drop kConnectionApiRoot.length) =
    ["bulk".toList, (if forSenders then "senders" else "receivers").toList]

/-- The two kinds of resources, by the segment that names them. -/
theorem kind_eq {kind : Text} (h : ¬ (kind ≠ "senders".toList ∧ kind ≠ "receivers".toList)) :
    kind = (if decide (kind = "senders".toList) then "senders" else "receivers").toList := by
  by_cases hs : kind = "senders".toList
  · rw [if_pos (decide_eq_true hs), ← hs]
  · rw [if_neg (by rwa [decide_eq_true_eq]), ← not_not.mp fun hr => h ⟨hs, hr⟩]

theorem handleLeaf_staged (api : ConnectionApi) (env : Surroundings) (forSender : Bool) (id : Text)
    (body : Except Text Json) :
    api.handleLeaf env forSender id "staged".toList "PATCH".toList body =
      api.patchStaged env forSender id body := by
  unfold handleLeaf
  dsimp only
  rw [if_neg (by decide), if_neg (by decide), if_neg (by decide), if_pos (Or.inr rfl),
    if_neg (by decide), if_pos rfl, if_neg (by decide)]

theorem handleLeaf_cases (api : ConnectionApi) (env : Surroundings) (forSender : Bool)
    (id leaf method : Text) (body : Except Text Json) :
    (api.handleLeaf env forSender id leaf method body).1 = api ∨
      (leaf = "staged".toList ∧ method = "PATCH".toList) := by
  by_cases h : leaf = "staged".toList ∧ method = "PATCH".toList
  · exact Or.inr h
  · refine Or.inl ?_
    unfold handleLeaf
    dsimp only
    split_ifs with h1 h2 h3 h4 h5 h6 h7 h8 h9
    all_goals first | rfl | exact absurd ⟨not_not.mp ‹_›, ‹_›⟩ h

theorem handleSingle_cases (api : ConnectionApi) (env : Surroundings) (segments : List Text)
    (method : Text) (body : Except Text Json) :
    (api.handleSingle env segments method body).1 = api ∨
    method = "PATCH".toList ∧ ∃ forSender : Bool, ∃ id rest, segments =
        (if forSender then "senders" else "receivers").toList :: id :: "staged".toList :: rest ∧
      api.handleSingle env segments method body = api.patchStaged env forSender id body := by
  unfold handleSingle
  match segments with
  | [] => exact Or.inl rfl
  | kind :: rest =>
    dsimp only
    by_cases hkind : kind ≠ "senders".toList ∧ kind ≠ "receivers".toList
    · rw [if_pos hkind]
      exact Or.inl rfl
    rw [if_neg hkind]
    match rest with
    | [] => exact Or.inl rfl
    | id :: rest =>
      dsimp only
      by_cases hid : id ∉ if decide (kind = "senders".toList) then api.senders.keys
        else api.receivers.keys
      · rw [if_pos hid]
        exact Or.inl rfl
      rw [if_neg hid]
      match rest with
      | [] => exact Or.inl rfl
      | leaf :: rest =>
        dsimp only
        rcases api.handleLeaf_cases env (kind = "senders".toList) id leaf method body with
          h | ⟨rfl, rfl⟩
        · exact Or.inl h
        · exact Or.inr ⟨rfl, kind = "senders".toList, id, rest, by rw [← kind_eq hkind],
            api.handleLeaf_staged env _ id body⟩

theorem handleBulk_cases (api : ConnectionApi) (env : Surroundings) (segments : List Text)
    (method : Text) (body : Except Text Json) :
    (api.handleBulk env segments method body).1 = api ∨
    method = "POST".toList ∧ ∃ forSenders : Bool,
      segments = [(if forSenders then "senders" else "receivers").toList] ∧
      api.handleBulk env segments method body = api.patchInBulk env forSenders body := by
  unfold handleBulk
  match segments with
  | [] => exact Or.inl rfl
  | [kind] =>
    dsimp only
    by_cases hkind : kind ≠ "senders".toList ∧ kind ≠ "receivers".toList
    · rw [if_pos hkind]
      exact Or.inl rfl
    rw [if_neg hkind]
    by_cases hpost : method ≠ "POST".toList
    · rw [if_pos hpost]
      exact Or.inl rfl
    rw [if_neg hpost]
    exact Or.inr ⟨not_not.mp hpost, kind = "senders".toList, by rw [← kind_eq hkind], rfl⟩
  | _ :: _ :: _ => exact Or.inl rfl

/-- A request goes to a staged endpoint or to a bulk endpoint, or changes nothing. -/
theorem answer_cases (api : ConnectionApi) (env : Surroundings) (method path : Text)
    (body : Except Text Json) : (api.answer env method path body).1 = api ∨
    (method = "PATCH".toList ∧ ∃ forSender id, Reaches path forSender id ∧
      api.answer env method path body = api.patchStaged env forSender id body) ∨
    (method = "POST".toList ∧ ∃ forSenders, ReachesBulk path forSenders ∧
      api.answer env method path body = api.patchInBulk env forSenders body) := by
  unfold answer
  by_cases hroot : ¬ kConnectionApiRoot <+: path
  · rw [if_pos hroot]
    exact Or.inl rfl
  rw [if_neg hroot]
  cases hseg : segmentsOf (path.drop kConnectionApiRoot.length) with
  | nil => exact Or.inl rfl
  | cons first rest =>
    dsimp only
    by_cases hbulk : first = "bulk".toList
    · rw [if_pos hbulk]
      rcases api.handleBulk_cases env rest method body with h | ⟨hm, forSenders, hrest, h⟩
      · exact Or.inl h
      · refine Or.inr (Or.inr ⟨hm, forSenders, ⟨not_not.mp hroot, ?_⟩, h⟩)
        rw [hseg, hbulk, hrest]
    rw [if_neg hbulk]
    by_cases hsingle : first ≠ "single".toList
    · rw [if_pos hsingle]
      exact Or.inl rfl
    rw [if_neg hsingle]
    rcases api.handleSingle_cases env rest method body with h | ⟨hm, forSender, id, tail, hrest, h⟩
    · exact Or.inl h
    · refine Or.inr (Or.inl ⟨hm, forSender, id, ⟨not_not.mp hroot, tail, ?_⟩, h⟩)
      rw [hseg, not_not.mp hsingle, hrest]

/-- A patch to the staged endpoint of a receiver there is gets to it. -/
theorem answer_of_reaches {receiver : ConnectionReceiver} (hp : Reaches path false id)
    (hf : api.receivers.find? id = some receiver) :
    api.answer env "PATCH".toList path body = api.patchStagedReceiver env id body := by
  obtain ⟨hroot, rest, hseg⟩ := hp
  have hid : id ∈ api.receivers.keys := (OrdMap.mem_keys_iff _).mpr ⟨receiver, hf⟩
  unfold answer
  rw [if_neg (not_not.mpr hroot), hseg]
  dsimp only
  rw [if_neg (by decide), if_neg (by decide)]
  have hkind : decide ("receivers".toList = "senders".toList) = false := by decide
  unfold handleSingle
  dsimp only
  rw [if_neg (by decide)]
  simp only [Bool.false_eq_true, if_false, hkind, hid, not_true_eq_false]
  exact api.handleLeaf_staged env false id body

/-- **When a refused PATCH leaves nothing behind**: always but where it enables a receiver that has
nowhere to listen. -/
theorem atomic_iff (api : ConnectionApi) (env : Surroundings) (method path : Text)
    (body : Except Text Json) : api.Atomic env method path body ↔
      ¬ (method = "PATCH".toList ∧
        (api.applyDueActivations env).HalfStaged env.now path body) := by
  unfold Atomic handle
  generalize api.applyDueActivations env = due
  constructor
  · rintro h ⟨rfl, id, receiver, staged, activation, hp, hf, hr, hu, hne⟩
    obtain ⟨hrefused, hafter⟩ := patchStagedReceiver_unplaced hf hr hu
    rw [answer_of_reaches hp hf] at h
    have hsame := congrArg (fun a => a.receivers.find? id) (hafter.symm.trans (h rfl hrefused))
    rw [hf] at hsame
    simp only [OrdMap.find?_insert_self, Option.some.injEq] at hsame
    exact hne (congrArg ConnectionReceiver.staged hsame)
  · rintro h rfl hrefused
    rcases due.answer_cases env "PATCH".toList path body with
      hsame | ⟨-, forSender, id, hp, hgo⟩ | ⟨hpost, -⟩
    · exact hsame
    swap
    · exact absurd hpost (by decide)
    rw [hgo] at hrefused ⊢
    cases forSender with
    | true => exact patchStagedSender_refused hrefused
    | false =>
      rcases patchStagedReceiver_refused hrefused with
        hsame | ⟨receiver, staged, activation, hf, hr, hu, hafter⟩
      · exact hsame
      · have hstaged : staged = receiver.staged := by
          by_contra hne
          exact h ⟨rfl, id, receiver, staged, activation, hp, hf, hr, hu, hne⟩
        refine hafter.trans ?_
        rw [hstaged]
        exact congrArg (fun m => { due with receivers := m }) (OrdMap.insert_of_find? _ hf)

/-- Surroundings at the beginning of time, with a host that agrees to everything. -/
def agreeable : Surroundings where
  arrival := {}
  now := {}
  time := 0
  reparse := .ok
  onSenderActivation _ _ _ _ := .ok ()
  onActivation _ _ _ _ := .ok ()

/-- **A refusal that leaves a receiver enabled**: it was given neither a file nor a group. -/
theorem enabled_not_atomic : ¬ (addReceiver {} { id := "r".toList }).Atomic agreeable
    "PATCH".toList "/x-nmos/connection/v1.1/single/receivers/r/staged".toList
    (.ok (.obj [("activation".toList, .obj [("mode".toList, .str kActivateImmediate)]),
      ("master_enable".toList, .bool true)])) := by
  intro h
  have hsame := congrArg (fun a => (a.receivers.find? "r".toList).map (·.staged.masterEnable))
    (h rfl ⟨by decide +kernel, by decide +kernel⟩)
  exact absurd hsame (by decide +kernel)

end Aes67.Ravenna.ConnectionApi
