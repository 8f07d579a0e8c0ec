import Aes67.Ravenna.Parameters
import Aes67.Nmos.Seeding

/-!
# What the driver is handed

An activation hands the driver a patch. The transport file in it is that of the state which becomes
active; the addresses, the port and the sender are read back from what the resource has staged by
then, which for a promise may be something staged since.

* `patchOf`: the patch of a call of the host, with `Driver.takes` and `asked_of_told`;
* `Agrees`: the patch agrees with the state that becomes active;
* `Restated`: what is staged says nothing else than what is being activated;
* **`handed_iff`**.
-/

namespace Aes67.Nmos

open Ravenna (ConnectionApi ConnectionState JsonObject Json Record Told destinationName said
  leftOut leftToDevice)

/-! ## Calls -/

/-- The patch the driver is handed in a call of the host. -/
def patchOf (t : Told) : ConnectionPatch :=
  if t.forSender then senderPatch t.staged t.active.transportFile t.requested.masterEnable
  else receiverPatch t.staged t.active.transportFile t.requested.masterEnable

/-- The driver takes a patch of one of its resources. -/
def Driver.takes (driver : Driver) (forSender : Bool) (id : Text) (patch : ConnectionPatch) : Bool :=
  if forSender then driver.patchSender id patch else driver.patch id patch

namespace ConnectionAPIServer

variable {server : ConnectionAPIServer} {v : Visit} {forSender : Bool} {r : Record}
  {state : ConnectionState} {t : Told} {address : Text}

/-- A call is accepted exactly where the driver takes its patch. -/
theorem accepted_call : (r.call address v.surroundings forSender state).accepted =
    v.driver.takes forSender r.id (patchOf (r.call address v.surroundings forSender state)) := by
  unfold Record.call Record.answer patchOf Driver.takes Visit.surroundings
  cases forSender with
  | true =>
    dsimp only
    rw [if_pos rfl, if_pos rfl, if_pos rfl, Driver.onSenderActivation]
    cases hp : v.driver.senderPatcher with
    | none => simp [Driver.hasSenderPatcher, Driver.patchSender, hp, Except.isOk, Except.toBool]
    | some f =>
      simp only [Driver.hasSenderPatcher, Driver.patchSender, hp, Option.isSome_some,
        Bool.not_true, Bool.false_eq_true, if_false, Option.any_some]
      split_ifs with hf
      · exact hf.symm
      · exact (eq_false_of_ne_true hf).symm
  | false =>
    dsimp only
    rw [if_neg Bool.false_ne_true, if_neg Bool.false_ne_true, if_neg Bool.false_ne_true,
      Driver.onReceiverActivation]
    split_ifs with hf
    · exact hf.symm
    · exact (eq_false_of_ne_true hf).symm

theorem mem_told_iff {api : ConnectionApi} :
    t ∈ api.told ↔ t ∈ api.toldOf t.forSender t.id := by
  simp [ConnectionApi.toldOf]

/-- The calls some patches make are calls of the host. -/
theorem call_of_patches {env : Ravenna.Surroundings} {bodies : List (Except Text Json)}
    {r' : Record} {results : List (List Told × Ravenna.ApiResponse)}
    (h : r.Patches address env forSender bodies r' results) (ht : t ∈ results.flatMap Prod.fst) :
    ∃ (r : Record) (state : ConnectionState), t = r.call address env forSender state := by
  induction h with
  | nil r => cases ht
  | cons h hs ih =>
    rw [List.flatMap_cons, List.mem_append] at ht
    rcases ht with ht | ht
    · cases h with
      | refused | staged | placeless | promised => cases ht
      | activated | unwilling => exact ⟨_, _, List.mem_singleton.mp ht⟩
    · exact ih ht

/-- **Whatever the host is told in a request** is a call for that request. -/
theorem call_of_handle {api : ConnectionApi} (hk : api.Keyed) {env : Ravenna.Surroundings}
    {method path : Text} {body : Except Text Json}
    (ht : t ∈ (api.handle env method path body).1.told) :
    t ∈ api.told ∨ ∃ (r : Record) (state : ConnectionState),
      t = r.call api.interfaceAddress env t.forSender state := by
  rw [mem_told_iff] at ht
  obtain ⟨hnone, hsome⟩ := (ConnectionApi.handle_spec hk env method path body).2.2 t.forSender t.id
  cases hr : api.record t.forSender t.id with
  | none =>
    rw [(hnone hr).2] at ht
    exact Or.inl (mem_told_iff.mpr ht)
  | some r =>
    obtain ⟨r', results, hpatches, -, htold⟩ := hsome r hr
    rw [htold, List.mem_append, List.mem_append] at ht
    rcases ht with ht | ht | ht
    · exact Or.inl (mem_told_iff.mpr ht)
    · refine Or.inr ?_
      unfold Record.dueCalls at ht
      split_ifs at ht
      · exact ⟨_, _, List.mem_singleton.mp ht⟩
      · cases ht
    · exact Or.inr (call_of_patches hpatches ht)

/-- The call was made for a request of the run, of a device without an address of its own. -/
def AskedIn (ops : List Op) (t : Told) : Prop :=
  ∃ (v : Visit) (method path : Text) (body : Except Text Json),
    Op.route v method path body ∈ ops ∧ ∃ (r : Record) (state : ConnectionState),
      t = r.call [] v.surroundings t.forSender state

/-- Whatever the host was told in a run. -/
theorem asked_of_told (ops : List Op) (ht : t ∈ (ops.foldl step {}).api.told) :
    AskedIn ops t := by
  induction ops using List.reverseRecOn with
  | nil => cases ht
  | append_singleton ops op ih =>
    have hearlier : t ∈ (ops.foldl step {}).api.told → AskedIn (ops ++ [op]) t := fun h => by
      obtain ⟨v, method, path, body, hmem, hcall⟩ := ih h
      exact ⟨v, method, path, body, List.mem_append_left _ hmem, hcall⟩
    have hs := sound_run ops
    rw [List.foldl_append, List.foldl_cons, List.foldl_nil] at ht
    generalize ops.foldl step {} = server at hs hearlier ht
    cases op with
    | activeState driver =>
      exact hearlier ((syncResources_frame server driver).1 ▸ ht)
    | route v method path body =>
      rcases server.route_eq v method path body with ⟨-, hd⟩ | ⟨-, hd⟩
      · rw [step, hd] at ht
        have hs' := hs.syncResources v.driver
        rcases call_of_handle hs'.keyed ht with h | ⟨r, state, h⟩
        · exact hearlier ((syncResources_frame server v.driver).1 ▸ h)
        · rw [hs'.address] at h
          exact ⟨v, method, path, body, List.mem_append_right _ List.mem_cons_self, r, state, h⟩
      · rw [step, hd] at ht
        exact hearlier ht

end ConnectionAPIServer

/-! ## Agreement -/

/-- The patch agrees with the state that becomes active. -/
structure Agrees (patch : ConnectionPatch) (forSender : Bool) (active : ConnectionState) : Prop where
  transportFile : patch.transportFile = ofText active.transportFile
  senderId : forSender = false → patch.senderId = ofText active.senderId
  multicastAddress : ∀ a, patch.multicastAddress = some a →
    active.transportParams.find? (destinationName forSender) = some (.str a)
  port : ∀ p, patch.port = some p →
    active.transportParams.find? "destination_port".toList = some (.ofNat p.toNat)
  interfaceAddress : ∀ a, patch.interfaceAddress = some a →
    active.transportParams.find? "interface_ip".toList = some (.str a)

/-- The state being activated says this of a parameter: its own override does, or else the file or the
device. -/
def Says (t : Told) (name : Text) (value : Json) : Prop :=
  said t.requested.transportParams name (leftOut t.forSender t.current [] name)
    (leftToDevice t.forSender t.current [] name) = value

/-- What is staged when the host is called says nothing else than what is being activated: it names
the same sender, and a destination, a port or an interface it names is that of the state being
activated. -/
structure Restated (t : Told) : Prop where
  senderId : t.forSender = false → t.staged.senderId = t.requested.senderId
  destination : ∀ a, legText t.staged.transportParams (destinationName t.forSender) = some a →
    Says t (destinationName t.forSender) (.str a)
  port : ∀ p, legPort t.staged.transportParams = some p →
    Says t "destination_port".toList (.ofNat p.toNat)
  interface : t.forSender = false → ∀ a,
    legText t.staged.transportParams "interface_ip".toList = some a →
    Says t "interface_ip".toList (.str a)

/-- What the overrides name is what the state says. -/
theorem says_of_legText {t : Told} {name a : Text}
    (h : legText t.requested.transportParams name = some a) : Says t name (.str a) := by
  unfold legText at h
  unfold Says said
  match hf : t.requested.transportParams.find? name with
  | some (.str text) =>
    rw [hf] at h
    dsimp only at h ⊢
    split_ifs at h with hauto
    cases h
    rw [if_neg fun hc => hauto (Or.inl hc)]
  | none | some .null | some (.bool _) | some (.num _) | some (.obj _) | some (.arr _) =>
    rw [hf] at h
    cases h

theorem ofText_injective : Function.Injective ofText := by
  intro a b h
  unfold ofText at h
  split_ifs at h with h1 h2
  · rw [h1, h2]
  · exact Option.some.inj h

section Call

variable {r : Record} {state : ConnectionState} {env : Ravenna.Surroundings} {forSender : Bool}
  {name : Text} {value : Json}

/-- What becomes active says of a parameter what the state being activated says. -/
theorem find?_active (h : name ∈ Ravenna.parameters forSender) :
    (r.call [] env forSender state).active.transportParams.find? name = some value ↔
      Says (r.call [] env forSender state) name value := by
  have hleg : (r.call [] env forSender state).active.transportParams.find? name =
      some (said state.transportParams name (leftOut forSender (r.file forSender state) [] name)
        (leftToDevice forSender (r.file forSender state) [] name)) :=
    Ravenna.find?_legOf h
  rw [hleg]
  exact Option.some_inj

/-- **Which calls hand over what becomes active.** -/
theorem agrees_call_iff : Agrees (patchOf (r.call [] env forSender state)) forSender
      (r.call [] env forSender state).active ↔ Restated (r.call [] env forSender state) := by
  have hdestination : destinationName forSender ∈ Ravenna.parameters forSender := by
    simp [Ravenna.parameters]
  have hport : "destination_port".toList ∈ Ravenna.parameters forSender := by
    simp [Ravenna.parameters]
  cases forSender with
  | true =>
    have hno : ∀ {P : Prop}, true = false → P := fun hc => absurd hc (by decide)
    refine ⟨fun h => ⟨hno, fun a ha => ?_, fun p hp => ?_, hno⟩,
      fun h => ⟨rfl, hno, fun a ha => ?_, fun p hp => ?_, fun a ha => ?_⟩⟩
    · exact (find?_active hdestination).mp (h.multicastAddress a ha)
    · exact (find?_active hport).mp (h.port p ((Option.or_none).trans hp))
    · exact (find?_active hdestination).mpr (h.destination a ha)
    · exact (find?_active hport).mpr (h.port p ((Option.or_none).symm.trans hp))
    · cases ha
  | false =>
    have hinterface : "interface_ip".toList ∈ Ravenna.parameters false := by decide
    refine ⟨fun h => ⟨fun _ => ?_, fun a ha => ?_, fun p hp => ?_, fun _ a ha => ?_⟩,
      fun h => ⟨rfl, fun _ => ?_, fun a ha => ?_, fun p hp => ?_, fun a ha => ?_⟩⟩
    · exact ofText_injective (h.senderId rfl)
    · exact (find?_active hdestination).mp (h.multicastAddress a ha)
    · exact (find?_active hport).mp (h.port p ((Option.or_none).trans hp))
    · exact (find?_active hinterface).mp (h.interfaceAddress a ha)
    · exact congrArg ofText (h.senderId rfl)
    · exact (find?_active hdestination).mpr (h.destination a ha)
    · exact (find?_active hport).mpr (h.port p ((Option.or_none).symm.trans hp))
    · exact (find?_active hinterface).mpr (h.interface rfl a ha)

end Call

namespace ConnectionAPIServer

/-- **The driver is told what becomes active exactly where what is staged by then says the same**: in
every run, of every activation the driver accepts. -/
theorem handed_iff (ops : List Op) (t : Told) (ht : t ∈ (ops.foldl step {}).api.told)
    (ha : t.accepted = true) :
    (∃ (v : Visit) (method path : Text) (body : Except Text Json),
      Op.route v method path body ∈ ops ∧
        v.driver.takes t.forSender t.id (patchOf t) = true) ∧
    (Agrees (patchOf t) t.forSender t.active ↔ Restated t) := by
  obtain ⟨v, method, path, body, hmem, r, state, hcall⟩ := asked_of_told ops ht
  generalize t.forSender = forSender at hcall ⊢
  subst hcall
  rw [accepted_call] at ha
  exact ⟨⟨v, method, path, body, hmem, ha⟩, agrees_call_iff⟩

/-! ## A promise staged over -/

/-- A driver with one receiver, which takes whatever it is handed. -/
def oneReceiver : Driver where
  receivers := [{ id := "r".toList }]
  patcher := some fun _ _ => true

/-- A request at a time. -/
def visitAt (driver : Driver) (seconds : UInt64) : Visit where
  arrival := { seconds := seconds }
  now := { seconds := seconds }
  driver := driver

/-- Where the receiver is staged. -/
def stagedPath : Text := "/x-nmos/connection/v1.1/single/receivers/r/staged".toList

/-- A patch of what the receiver has staged. -/
def patchAt (driver : Driver) (seconds : UInt64) (patch : List (Text × Json)) : Op :=
  .route (visitAt driver seconds) "PATCH".toList stagedPath (.ok (.obj patch))

/-- The group a patch stages. -/
def group (address : String) : Text × Json :=
  ("transport_params".toList, .arr [.obj [("multicast_ip".toList, .str address.toList)]])

/-- A patch that is to be activated at the first second. -/
def atFirstSecond : List (Text × Json) :=
  [("activation".toList, .obj [("mode".toList, .str Ravenna.kActivateAbsolute),
      ("requested_time".toList, .str "1:0".toList)]),
    ("master_enable".toList, .bool true), group "239.1.1.1"]

/-- A promise, with what comes before it falls due. -/
def promised (between : List Op) : List Op :=
  patchAt oneReceiver 0 atFirstSecond :: between ++ [patchAt oneReceiver 2 []]

/-- A promise nothing is staged over. -/
theorem promised_agrees : ∃ t ∈ ((promised []).foldl step {}).api.told,
    Agrees (patchOf t) t.forSender t.active := by
  obtain ⟨t, ht⟩ := List.exists_mem_of_length_pos
    (l := ((promised []).foldl step {}).api.told) (by decide)
  have hall : ∀ t ∈ ((promised []).foldl step {}).api.told, t.accepted = true ∧
      t.staged.senderId = t.requested.senderId ∧
      legText t.staged.transportParams (destinationName t.forSender) = some "239.1.1.1".toList ∧
      legPort t.staged.transportParams = none ∧
      legText t.staged.transportParams "interface_ip".toList = none ∧
      legText t.requested.transportParams (destinationName t.forSender) =
        some "239.1.1.1".toList := by
    decide
  obtain ⟨haccepted, hsender, hgroup, hport, hinterface, hrequested⟩ := hall t ht
  refine ⟨t, ht, (handed_iff _ t ht haccepted).2.mpr ⟨fun _ => hsender, fun a ha => ?_, fun p hp => ?_,
    fun _ a ha => ?_⟩⟩
  · rw [hgroup] at ha
    cases ha
    exact says_of_legText hrequested
  · rw [hport] at hp
    cases hp
  · rw [hinterface] at ha
    cases ha

/-- **A promise another group is staged over**: the driver is sent there, and the state that becomes
active names the first. -/
theorem restaged_disagrees :
    ¬ ∀ t ∈ ((promised [patchAt oneReceiver 0 [group "239.2.2.2"]]).foldl step {}).api.told,
      t.accepted = true → Agrees (patchOf t) t.forSender t.active := by
  intro h
  obtain ⟨t, ht⟩ := List.exists_mem_of_length_pos
    (l := ((promised [patchAt oneReceiver 0 [group "239.2.2.2"]]).foldl step {}).api.told)
    (by decide)
  have hall : ∀ t ∈ ((promised [patchAt oneReceiver 0 [group "239.2.2.2"]]).foldl step {}).api.told,
      t.accepted = true ∧ (patchOf t).multicastAddress = some "239.2.2.2".toList ∧
      legText t.active.transportParams (destinationName t.forSender) = some "239.1.1.1".toList := by
    decide
  obtain ⟨haccepted, hgroup, hactive⟩ := hall t ht
  rw [legText, (h t ht haccepted).multicastAddress _ hgroup] at hactive
  exact absurd hactive (by decide)

end ConnectionAPIServer

end Aes67.Nmos
