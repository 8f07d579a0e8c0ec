import Aes67.Ravenna.Overrides
import Aes67.Ravenna.Reported

/-!
# What an active leg leaves open

What is active is to name what the device chose, and "auto" names nothing. A sender that has no file to
choose from and is asked to choose its destination is active with the request itself.

* `Plain`: a file that does not have the word for an address; `Undecided`: nothing to choose from;
* **`said_eq_auto_iff`**: which parameters of a leg are left open;
* `Decided`, `Settled`: an activation, and what is active, that leave nothing open;
* `active_handle_cases`: what is active was so before, or was accepted since;
* **`never_auto`**.
-/

namespace Aes67.Ravenna

/-- A transport file in which no address is the word. -/
def Plain (file : Text) : Prop :=
  ∀ session, sessionOf file = some session → session.originAddress ≠ "auto".toList ∧
    session.connectionAddress ≠ "auto".toList ∧ session.sourceAddress ≠ "auto".toList

/-- A sender is to choose its destination, and has no file to take it from. -/
def Undecided (forSender : Bool) (file : Text) (params : JsonObject) : Prop :=
  forSender = true ∧ sessionOf file = none ∧
    params.find? "destination_ip".toList = some (.str "auto".toList)

section Leg

variable {forSender : Bool} {file address name : Text} {params : JsonObject}

theorem ofText_ne_auto {t : Text} (h : t ≠ "auto".toList) : Json.ofText t ≠ .str "auto".toList := by
  unfold Json.ofText
  split_ifs
  · exact fun hc => by cases hc
  · exact fun hc => h (Json.str.inj hc)

/-- What stands for a parameter that is left out is no request. -/
theorem leftOut_ne_auto (hfile : Plain file) (haddress : address ≠ "auto".toList) :
    leftOut forSender file address name ≠ .str "auto".toList := by
  have hown : ownAddress address ≠ "auto".toList := by
    unfold ownAddress
    split_ifs
    · decide
    · exact haddress
  have hsession : ∀ field : Sdp.SDPSession → Text,
      (∀ session, sessionOf file = some session → field session ≠ "auto".toList) →
      addressOf (sessionOf file) field ≠ .str "auto".toList := by
    intro field hfield
    unfold addressOf
    cases hs : sessionOf file with
    | none => exact fun hc => by cases hc
    | some session => exact ofText_ne_auto (hfield session hs)
  unfold leftOut
  split_ifs with _ _ _ _ hsender
  · exact fun hc => by cases hc
  · exact fun hc => by cases hc
  · exact fun hc => hown (Json.str.inj hc)
  · exact hsession _ fun session hs => (hfile session hs).1
  · exact hsession _ fun session hs => (hfile session hs).2.2
  · exact hsession _ fun session hs => (hfile session hs).2.1

/-- **A parameter of a leg is left open exactly where it is the destination of a sender that is to
choose it without a file.** -/
theorem said_eq_auto_iff (hfile : Plain file) (haddress : address ≠ "auto".toList)
    (ha : Acceptable forSender params) (h : name ∈ parameters forSender) :
    said params name (leftOut forSender file address name)
        (leftToDevice forSender file address name) = .str "auto".toList ↔
      name = "destination_ip".toList ∧ Undecided forSender file params := by
  have hout := @leftOut_ne_auto forSender _ _ name hfile haddress
  have hrtp : params.find? "rtp_enabled".toList ≠ some (.str "auto".toList) := by
    intro hf
    have hc := (ha _ _ hf).1
    cases forSender <;> cases hc
  have hown : ownAddress address ≠ "auto".toList := by
    unfold ownAddress
    split_ifs
    · decide
    · exact haddress
  unfold said
  match hf : params.find? name with
  | none =>
    refine iff_of_false hout ?_
    rintro ⟨rfl, -, -, hc⟩
    rw [hf] at hc
    cases hc
  | some (.str t) =>
    dsimp only
    split_ifs with ht
    · subst ht
      unfold leftToDevice
      split_ifs with h1 h2 h3
      · rw [h1] at hf
        exact absurd hf hrtp
      · refine iff_of_false (fun hc => hown (Json.str.inj hc)) ?_
        rintro ⟨hname, -⟩
        rw [h2.2.2] at hname
        exact absurd hname (by decide)
      · exact iff_of_true rfl ⟨h3.2.2, h3.1, h3.2.1, h3.2.2 ▸ hf⟩
      · refine iff_of_false hout ?_
        rintro ⟨hname, hs, hnone, -⟩
        exact h3 ⟨hs, hnone, hname⟩
    · refine iff_of_false (fun hc => ht (Json.str.inj hc)) ?_
      rintro ⟨rfl, -, -, hc⟩
      rw [hf] at hc
      exact ht (Json.str.inj (Option.some.inj hc))
  | some .null | some (.bool _) | some (.num _) | some (.obj _) | some (.arr _) =>
    refine iff_of_false (fun hc => by cases hc) ?_
    rintro ⟨rfl, -, -, hc⟩
    rw [hf] at hc
    cases hc

end Leg

/-! ## What is active -/

/-- The call leaves nothing open. -/
def Told.Decided (t : Told) : Prop :=
  Plain t.current ∧ ¬ Undecided t.forSender t.current t.requested.transportParams

/-- A state that leaves nothing open while it is active, whichever interface the device is on. -/
structure Settled (forSender : Bool) (state : ConnectionState) : Prop where
  named : Named forSender state.transportParams
  decided : ∀ address ≠ "auto".toList, ∀ name ∈ parameters forSender,
    reports forSender address state name ≠ .str "auto".toList

variable {forSender : Bool} {state : ConnectionState} {address : Text} {env : Surroundings}
  {r r' : Record}

/-- What a resource is added with leaves nothing open. -/
theorem settled_of_decided (ha : Acceptable forSender state.transportParams)
    (hfile : Plain state.transportFile)
    (h : ¬ Undecided forSender state.transportFile state.transportParams) :
    Settled forSender state where
  named := ha.named
  decided _ haddress _ hname := fun hc => h ((said_eq_auto_iff hfile haddress ha hname).mp hc).2

/-- What becomes active leaves nothing open. -/
theorem settled_call (haddress : address ≠ "auto".toList)
    (ha : Acceptable forSender state.transportParams)
    (h : (r.call address env forSender state).Decided) :
    Settled forSender (r.call address env forSender state).active where
  named := (show Named forSender state.transportParams from ha.named).legOf
  decided address' _ name hname := by
    have hleg : (r.call address env forSender state).active.transportParams.find? name =
        some (said state.transportParams name
          (leftOut forSender (r.file forSender state) address name)
          (leftToDevice forSender (r.file forSender state) address name)) := find?_legOf hname
    have hsaid : said state.transportParams name
        (leftOut forSender (r.file forSender state) address name)
        (leftToDevice forSender (r.file forSender state) address name) ≠ .str "auto".toList :=
      fun hc => h.2 ((said_eq_auto_iff h.1 haddress ha hname).mp hc).2
    generalize said state.transportParams name _ _ = value at hleg hsaid
    unfold reports said
    rw [hleg]
    match value with
    | .str t =>
      dsimp only
      rw [if_neg fun ht => hsaid (congrArg Json.str ht)]
      exact hsaid
    | .null | .bool _ | .num _ | .obj _ | .arr _ => exact hsaid

/-- What is active after an activation: what was active, or what the host accepted. -/
theorem Record.activate_active : (r.activate address env forSender state).active =
    if (r.call address env forSender state).accepted then (r.call address env forSender state).active
    else r.active := by
  unfold Record.activate Record.call Record.accepted
  dsimp only
  split_ifs <;> rfl

/-- A call of the host that was accepted, and what it made active. -/
def Accepts (address : Text) (env : Surroundings) (forSender : Bool) (calls : List Told)
    (active : ConnectionState) : Prop :=
  ∃ (r : Record) (state : ConnectionState), r.call address env forSender state ∈ calls ∧
    (r.call address env forSender state).accepted = true ∧
    active = (r.call address env forSender state).active

theorem Record.due_active (address : Text) (env : Surroundings) (forSender : Bool) (r : Record) :
    (r.due address env forSender).active = r.active ∨
      Accepts address env forSender (r.dueCalls address env forSender)
        (r.due address env forSender).active := by
  unfold Record.due Record.dueCalls
  split_ifs
  · rw [Record.activate_active]
    split_ifs with ha
    · exact Or.inr ⟨r.free, _, List.mem_singleton_self _, ha, rfl⟩
    · exact Or.inl rfl
  · exact Or.inl rfl

theorem Record.Patched.active_cases {body : Except Text Json} {calls : List Told}
    {answer : ApiResponse} (h : r.Patched address env forSender body r' calls answer) :
    r'.active = r.active ∨ Accepts address env forSender calls r'.active := by
  cases h with
  | refused | staged | placeless | promised | unwilling => exact Or.inl rfl
  | activated _ _ _ ha =>
    refine Or.inr ⟨_, _, List.mem_singleton_self _, ha, ?_⟩
    rw [Record.activate_active]
    exact if_pos ha

theorem Record.Patches.active_cases {bodies : List (Except Text Json)}
    {results : List (List Told × ApiResponse)}
    (h : r.Patches address env forSender bodies r' results) :
    r'.active = r.active ∨ Accepts address env forSender (results.flatMap Prod.fst) r'.active := by
  induction h with
  | nil r => exact Or.inl rfl
  | cons h hs ih =>
    rw [List.flatMap_cons]
    rcases ih with hsame | ⟨r₀, state, hmem, ha, hactive⟩
    · rw [hsame]
      rcases h.active_cases with hsame | ⟨r₀, state, hmem, ha, hactive⟩
      · exact Or.inl hsame
      · exact Or.inr ⟨r₀, state, List.mem_append_left _ hmem, ha, hactive⟩
    · exact Or.inr ⟨r₀, state, List.mem_append_right _ hmem, ha, hactive⟩

/-! ## Runs -/

namespace ConnectionApi

variable {api : ConnectionApi} {id method path : Text} {body : Except Text Json}

/-- **What a request makes active**: what was active before, or what the host accepted in it. -/
theorem active_handle_cases (hk : Keyed api) (hr : (api.handle env method path body).1.record
    forSender id = some r') : (∃ r, api.record forSender id = some r ∧ r'.active = r.active) ∨
      Accepts api.interfaceAddress env forSender (api.handle env method path body).1.told
        r'.active := by
  obtain ⟨hnone, hsome⟩ := (handle_spec hk env method path body).2.2 forSender id
  cases h₀ : api.record forSender id with
  | none =>
    rw [(hnone h₀).1] at hr
    cases hr
  | some r =>
    obtain ⟨r'', results, hpatches, hr'', htold⟩ := hsome r h₀
    obtain rfl := Option.some.inj (hr''.symm.trans hr)
    have hmem : ∀ t ∈ r.dueCalls api.interfaceAddress env forSender ++ results.flatMap Prod.fst,
        t ∈ (api.handle env method path body).1.told := by
      intro t ht
      have hof : t ∈ (api.handle env method path body).1.toldOf forSender id := by
        rw [htold]
        exact List.mem_append_right _ ht
      exact (List.mem_filter.mp hof).1
    rcases hpatches.active_cases with hsame | ⟨r₀, state, ht, ha, hactive⟩
    · rw [hsame]
      rcases Record.due_active api.interfaceAddress env forSender r with hsame | ⟨r₀, state, ht, ha, hactive⟩
      · exact Or.inl ⟨r, rfl, hsame⟩
      · exact Or.inr ⟨r₀, state, hmem _ (List.mem_append_left _ ht), ha, hactive⟩
    · exact Or.inr ⟨r₀, state, hmem _ (List.mem_append_right _ ht), ha, hactive⟩

/-- A resource is added with overrides that have passed the checks, and nothing is left open in it; and
the interface has an address. -/
def Hosted : Op → Prop
  | .addSender sender => Checked (.addSender sender) ∧
      Acceptable true sender.active.transportParams ∧ Plain sender.sdp ∧
      ¬ Undecided true sender.sdp sender.active.transportParams
  | .addReceiver receiver => Checked (.addReceiver receiver) ∧
      Acceptable false receiver.active.transportParams ∧ Plain receiver.active.transportFile
  | .setInterfaceAddress address => address ≠ "auto".toList
  | _ => True

/-- What every run keeps while its activations leave nothing open. -/
structure Closed (api : ConnectionApi) : Prop where
  sound : Sound api
  keyed : Keyed api
  address : api.interfaceAddress ≠ "auto".toList
  settled : ∀ forSender id r, api.record forSender id = some r → Settled forSender r.active

theorem Hosted.checked {op : Op} (h : Hosted op) : Checked op := by
  cases op with
  | handle | removeSender | removeReceiver | setInterfaceAddress => trivial
  | addSender | addReceiver => exact h.1

theorem closed_empty : Closed {} where
  sound := sound_empty
  keyed forSender id r h := by cases forSender <;> cases h
  address := by decide
  settled forSender id r h := by cases forSender <;> cases h

/-- A resource that is removed, and the others. -/
theorem record_removeSender {forSender' : Bool} {id' : Text}
    (hr : (api.step (.removeSender id)).record forSender' id' = some r) :
    api.record forSender' id' = some r := by
  cases forSender' with
  | false => exact hr
  | true =>
    change ((api.senders.erase id).find? id').map _ = _ at hr
    rw [OrdMap.find?_erase] at hr
    split_ifs at hr
    · cases hr
    · exact hr

theorem record_removeReceiver {forSender' : Bool} {id' : Text}
    (hr : (api.step (.removeReceiver id)).record forSender' id' = some r) :
    api.record forSender' id' = some r := by
  cases forSender' with
  | true => exact hr
  | false =>
    change ((api.receivers.erase id).find? id').map _ = _ at hr
    rw [OrdMap.find?_erase] at hr
    split_ifs at hr
    · cases hr
    · exact hr

/-- A sender that is added, as a resource. -/
def added (sender : ConnectionSender) : Record :=
  { sender.record with
    staged := { sender.staged with transportFile := sender.sdp }
    active := { sender.active with transportFile := sender.sdp } }

theorem addSender_eq (sender : ConnectionSender) :
    api.addSender sender = api.put true sender.id (added sender) := rfl

theorem addReceiver_eq (receiver : ConnectionReceiver) :
    api.addReceiver receiver = api.put false receiver.id receiver.record := rfl

theorem Keyed.put (h : Keyed api) (ho : r.Owned forSender) (hid : r.id = id) :
    Keyed (api.put forSender id r) := by
  intro forSender' id' r' hr'
  rw [record_put ho] at hr'
  split_ifs at hr' with hown
  · cases hr'
    exact hid.trans hown.2.symm
  · exact h _ _ _ hr'

theorem keyed_step (h : Keyed api) (op : Op) : Keyed (api.step op) := by
  cases op with
  | handle env method path body => exact (handle_spec h env method path body).1
  | addSender sender =>
    change Keyed (api.addSender sender)
    rw [addSender_eq]
    exact h.put (fun hc => absurd hc.symm Bool.false_ne_true) rfl
  | addReceiver receiver =>
    change Keyed (api.addReceiver receiver)
    rw [addReceiver_eq]
    exact h.put (fun _ => rfl) rfl
  | removeSender id => exact fun _ _ _ hr => h _ _ _ (record_removeSender hr)
  | removeReceiver id => exact fun _ _ _ hr => h _ _ _ (record_removeReceiver hr)
  | setInterfaceAddress address => exact h

theorem keyed_run (ops : List Op) : Keyed (ops.foldl step {}) :=
  (always_of_step (P := Keyed) (fun _ op h => keyed_step h op) closed_empty.keyed).run

theorem Closed.put (h : Closed api) (hsound : Sound (api.put forSender id r))
    (ho : r.Owned forSender) (hid : r.id = id) (hr : Settled forSender r.active) :
    Closed (api.put forSender id r) := by
  refine ⟨hsound, h.keyed.put ho hid, ?_, fun forSender' id' r' hr' => ?_⟩
  · rw [interfaceAddress_put]
    exact h.address
  · rw [record_put ho] at hr'
    split_ifs at hr' with hown
    · cases hr'
      exact hown.1 ▸ hr
    · exact h.settled _ _ _ hr'

/-- **One step keeps it.** -/
theorem closed_step (h : Closed api) {op : Op} (ho : Hosted op)
    (hd : ∀ t ∈ (api.step op).told, t.accepted = true → t.Decided) : Closed (api.step op) := by
  have hsound := sound_step h.sound ho.checked
  have hkeyed := keyed_step h.keyed op
  cases op with
  | handle env method path body =>
    refine ⟨hsound, hkeyed, ?_, fun forSender id r' hr' => ?_⟩
    · change (api.handle env method path body).1.interfaceAddress ≠ _
      rw [(handle_spec h.keyed env method path body).2.1]
      exact h.address
    · rcases active_handle_cases h.keyed hr' with ⟨r, hr, hsame⟩ | ⟨r₀, state, ht, ha, hactive⟩
      · rw [hsame]
        exact h.settled _ _ _ hr
      · rw [hactive]
        exact settled_call h.address (hsound.told _ ht).1 (hd _ ht ha)
  | addSender sender =>
    obtain ⟨-, hactive, hplain, hdecided⟩ := ho
    change Closed (api.addSender sender)
    rw [addSender_eq]
    exact h.put hsound (fun hc => absurd hc.symm Bool.false_ne_true) rfl
      (settled_of_decided hactive hplain hdecided)
  | addReceiver receiver =>
    obtain ⟨-, hactive, hplain⟩ := ho
    change Closed (api.addReceiver receiver)
    rw [addReceiver_eq]
    exact h.put hsound (fun _ => rfl) rfl
      (settled_of_decided hactive hplain fun hc => Bool.false_ne_true hc.1)
  | removeSender id =>
    exact ⟨hsound, hkeyed, h.address, fun _ _ _ hr => h.settled _ _ _ (record_removeSender hr)⟩
  | removeReceiver id =>
    exact ⟨hsound, hkeyed, h.address, fun _ _ _ hr => h.settled _ _ _ (record_removeReceiver hr)⟩
  | setInterfaceAddress address => exact ⟨hsound, hkeyed, ho, h.settled⟩

/-- The host was told before of what it was told, -/
theorem mem_told_step {t : Told} (h : t ∈ api.told) (hk : Keyed api) (op : Op) :
    t ∈ (api.step op).told := by
  cases op with
  | handle env method path body =>
    obtain ⟨hnone, hsome⟩ := (handle_spec hk env method path body).2.2 t.forSender t.id
    have hof : t ∈ api.toldOf t.forSender t.id := by
      rw [toldOf, List.mem_filter]
      exact ⟨h, by simp⟩
    have hof' : t ∈ (api.handle env method path body).1.toldOf t.forSender t.id := by
      cases hr : api.record t.forSender t.id with
      | none =>
        rw [(hnone hr).2]
        exact hof
      | some r =>
        obtain ⟨_, _, -, -, htold⟩ := hsome r hr
        rw [htold]
        exact List.mem_append_left _ hof
    exact (List.mem_filter.mp hof').1
  | addSender | addReceiver | removeSender | removeReceiver | setInterfaceAddress => exact h

/-- **Every run keeps it** whose activations leave nothing open. -/
theorem closed_run (ops : List Op) (ho : ∀ op ∈ ops, Hosted op)
    (hd : ∀ t ∈ (ops.foldl step {}).told, t.accepted = true → t.Decided) :
    Closed (ops.foldl step {}) := by
  induction ops using List.reverseRecOn with
  | nil => exact closed_empty
  | append_singleton ops op ih =>
    have ho' : ∀ op ∈ ops, Hosted op := fun op' h => ho op' (List.mem_append_left _ h)
    rw [List.foldl_append, List.foldl_cons, List.foldl_nil] at hd ⊢
    exact closed_step (ih ho' fun t ht => hd t (mem_told_step ht (keyed_run ops) op))
      (ho op (List.mem_append_right _ (List.mem_singleton_self op))) hd

/-- **What is active never says "auto"**, in every run in which no sender is activated with its
destination left to it and no file to take one from: a GET of `/active` reports a leg in which every
parameter is chosen. -/
theorem never_auto (ops : List Op) (ho : ∀ op ∈ ops, Hosted op) (env : Surroundings)
    (forSender : Bool) (id path : Text) (body : Except Text Json)
    (hp : Leads path forSender id "active".toList)
    (hd : ∀ t ∈ ((ops.foldl step {}).handle env "GET".toList path body).1.told,
      t.accepted = true → t.Decided)
    (hr : ((ops.foldl step {}).record forSender id).isSome = true) :
    ∃ leg : JsonObject, ((ops.foldl step {}).handle env "GET".toList path body).2.body.get
        "transport_params" = .arr [.obj leg.entries] ∧
      ∀ name value, leg.find? name = some value → value ≠ .str "auto".toList := by
  have hclosed : Closed ((ops ++ [Op.handle env "GET".toList path body]).foldl step {}) := by
    refine closed_run _ (fun op hop => ?_) ?_
    · rcases List.mem_append.mp hop with hop | hop
      · exact ho op hop
      · rw [List.mem_singleton.mp hop]
        trivial
    · rw [List.foldl_append]
      exact hd
  rw [List.foldl_append] at hclosed
  obtain ⟨r, hr⟩ := Option.isSome_iff_exists.mp hr
  obtain ⟨r', hr', hanswer⟩ := @handle_active _ env _ _ _ body _ (keyed_run ops) hp hr
  have hsettled := hclosed.settled forSender id r' hr'
  have haddress : (ops.foldl step {}).interfaceAddress ≠ "auto".toList := by
    rw [← (handle_spec (keyed_run ops) env "GET".toList path body).2.1]
    exact hclosed.address
  refine ⟨_, by rw [hanswer]; exact activeAsJson_leg hsettled.named, fun name value hf => ?_⟩
  by_cases hname : name ∈ parameters forSender
  · rw [find?_legOf_reports hname] at hf
    rw [← Option.some.inj hf]
    exact hsettled.decided _ haddress name hname
  · rw [hsettled.named.legOf name hname] at hf
    cases hf

/-! ## A sender that is to choose its destination -/

/-- A sender with a file or without one, whose destination is left to it. -/
def leftOpen (file : Text) : List Op :=
  [.addSender { id := "s".toList, sdp := file },
    .handle agreeable "PATCH".toList "/x-nmos/connection/v1.1/single/senders/s/staged".toList
      (.ok (.obj [("activation".toList, .obj [("mode".toList, .str kActivateImmediate)]),
        ("transport_params".toList, .arr [.obj [("destination_ip".toList, .str "auto".toList)]])]))]

def activePath : Text := "/x-nmos/connection/v1.1/single/senders/s/active".toList

theorem leads_activePath : Leads activePath true "s".toList "active".toList :=
  ⟨by decide, [], by decide⟩

theorem hosted_leftOpen {file : Text} (hplain : Plain file) : ∀ op ∈ leftOpen file, Hosted op := by
  intro op hop
  rcases List.mem_cons.mp hop with rfl | hop
  · refine ⟨⟨acceptable_empty _, acceptable_empty _⟩, acceptable_empty _, hplain, ?_⟩
    rintro ⟨-, -, hc⟩
    cases hc
  · rw [List.mem_singleton.mp hop]
    trivial

theorem plain_plainSdp : Plain Sdp.plainSdp := by
  intro session hs
  have hsession : sessionOf Sdp.plainSdp = some (Sdp.plainSession 15) := by decide +kernel
  obtain rfl := Option.some.inj (hs.symm.trans hsession)
  decide +kernel

/-- With a file, it takes the destination of that. -/
theorem chosen_with_file : ∃ leg : JsonObject,
    (((leftOpen Sdp.plainSdp).foldl step {}).handle agreeable "GET".toList activePath
      (.error [])).2.body.get "transport_params" = .arr [.obj leg.entries] ∧
    ∀ name value, leg.find? name = some value → value ≠ .str "auto".toList := by
  refine never_auto (leftOpen Sdp.plainSdp) (hosted_leftOpen plain_plainSdp) agreeable true "s".toList
    activePath (.error []) leads_activePath (fun t ht _ => ?_) (by decide +kernel)
  have hall : ∀ t ∈ (((leftOpen Sdp.plainSdp).foldl step {}).handle agreeable "GET".toList activePath
      (.error [])).1.told, t.current = Sdp.plainSdp := by
    decide +kernel
  have hsome : sessionOf Sdp.plainSdp ≠ none := by decide +kernel
  rw [Told.Decided, hall t ht]
  exact ⟨plain_plainSdp, fun hu => hsome hu.2.1⟩

/-- The answer reports a leg, and leaves one of its parameters open. -/
def reportsAuto (answer : ApiResponse) : Bool :=
  match answer.body.get "transport_params" with
  | .arr [.obj leg] => leg.any fun e =>
    match e.2 with
    | .str t => t = "auto".toList
    | _ => false
  | _ => false

theorem exists_of_reportsAuto {answer : ApiResponse} (h : reportsAuto answer = true) :
    ∃ leg, answer.body.get "transport_params" = .arr [.obj leg] ∧
      ∃ e ∈ leg, e.2 = .str "auto".toList := by
  unfold reportsAuto at h
  split at h
  next leg hleg =>
    obtain ⟨e, he, hauto⟩ := List.any_eq_true.mp h
    refine ⟨leg, hleg, e, he, ?_⟩
    split at hauto
    next t ht => rw [ht, of_decide_eq_true hauto]
    next => cases hauto
  next => cases h

/-- **Without one, it is active with the word itself.** -/
theorem left_open_without_file : (∀ op ∈ leftOpen [], Hosted op) ∧ ∃ leg : List (Text × Json),
    (((leftOpen []).foldl step {}).handle agreeable "GET".toList activePath
      (.error [])).2.body.get "transport_params" = .arr [.obj leg] ∧
    ∃ e ∈ leg, e.2 = .str "auto".toList := by
  have hplain : Plain [] := fun session hs => by cases hs
  exact ⟨hosted_leftOpen hplain, exists_of_reportsAuto (by decide +kernel)⟩

end ConnectionApi

end Aes67.Ravenna
