import Aes67.Ravenna.Exact

/-!
# The matrix emptied and given back

`applyAction` tries a grid on the matrix itself. A grid that is refused, or was only asked about,
is taken back by emptying the matrix and adding what it held one mapping at a time, each through
the overlap check. The matrix is held by reference, so whoever else holds it moves it too.

* `SharedOp`, `sharedStep`: the grid's operations, and those of whoever shares the matrix;
* **`restore_getAllMappings`**: emptying a consistent matrix and adding what it held gives it back;
* `whole_run`: the matrix stays consistent while new streams get unused identifiers;
* **`refused_unchanged`**: a request that is refused or only scheduled leaves the grid as it was.
-/

namespace Aes67.Ravenna

/-! ## The matrix given back -/

/-- **Emptying a consistent matrix and adding what it held gives it back.** -/
theorem restore_getAllMappings {m : Mapper} (hf : m.Filed) (hc : m.Consistent) :
    ChannelMappingApi.restore m m.getAllMappings = m :=
  Mapper.foldl_addMapping_values hf hc m

namespace ChannelMappingApi

variable {api api' : ChannelMappingApi} {now : TaiTime} {action : Json}

/-! ## The matrix shared -/

/-- The API's operations, and those of whoever else holds the matrix. -/
inductive SharedOp
  | grid (op : Op)
  | matrix (op : Aes67.Op)

/-- The API after one of these. -/
def sharedStep (api : ChannelMappingApi) : SharedOp → ChannelMappingApi
  | .grid op => api.step op
  | .matrix op => { api with routing := { api.routing with mapper := api.routing.mapper.step op } }

/-- Identifiers are new: what `StreamID::generate` makes up, and the streams whoever shares the
matrix adds mappings of. -/
def Unused (api : ChannelMappingApi) : SharedOp → Prop
  | .grid (.activate _ _ _ generated) => generated ≠ .null ∧
      api.routing.mapper.mappings.find? generated = none ∧
      ∀ r, api.routing.streamIdOf.find? r ≠ some generated
  | .grid _ => True
  | .matrix op => api.routing.mapper.FreshAdd op

/-- What holds in every reachable state, the matrix's two representations included. -/
structure Whole (api : ChannelMappingApi) : Prop extends Sound api where
  consistent : api.routing.mapper.Consistent

theorem Whole.of_routing (h : Whole api) (e : api'.routing = api.routing) : Whole api' :=
  ⟨h.toSound.of_routing e, by rw [e]; exact h.consistent⟩

/-- In such a state an action is refused or tried without a trace, or it is taken. -/
theorem Whole.applyAction_cases (h : Whole api) (now : TaiTime) (action : Json) (commit : Bool) :
    (∃ r, api.applyAction now action commit = (api, r) ∧ (r.ok = false ∨ commit = false)) ∨
    ∃ w filled, commit = true ∧
      (cellsOf action).foldlM (applyCell api.usable) api.gather = .ok w ∧
      fillMatrix api.routing.mapper.clearAll w.updated.values = .ok filled ∧
      api.applyAction now action commit =
        (api.settled now w filled, (api.settled now w filled).activeMap) := by
  rcases ChannelMappingApi.applyAction_cases api now action commit with
    ⟨r, e, hr⟩ | ⟨r, e, hr⟩ | taken
  · exact Or.inl ⟨r, e, Or.inl hr⟩
  · rw [restore_getAllMappings h.filed h.consistent] at e
    exact Or.inl ⟨r, e, hr⟩
  · exact Or.inr taken

theorem whole_settled (h : Whole api) {w : Work} {filled : Mapper}
    (hw : (cellsOf action).foldlM (applyCell api.usable) api.gather = .ok w)
    (hf : fillMatrix api.routing.mapper.clearAll w.updated.values = .ok filled) :
    Whole (api.settled now w filled) := by
  refine ⟨sound_settled h.toSound hw hf, ?_⟩
  rw [settled, foldl_rememberRoutes]
  exact (fillMatrix_ok hf (Mapper.filed_clearAll _) (Mapper.consistent_clearAll _)
    (streamIDs_nodup h.toSound hw) fun _ _ => rfl).2.1

/-! ## What actions keep -/

/-- A POST leaves the grid alone, or is an action tried with the next identifier taken; one that
is taken at once is answered 200. -/
theorem postActivation_cases (api : ChannelMappingApi) (now : TaiTime) (request : Json) :
    ((api.postActivation now request).1.routing = api.routing ∧
      (api.postActivation now request).1.lastActivationTime = api.lastActivationTime) ∨
    ∃ commit, let applied := ({ api with nextActivationId := api.nextActivationId + 1 } :
        ChannelMappingApi).applyAction now (request.get "action") commit
      (api.postActivation now request).1.routing = applied.1.routing ∧
      (api.postActivation now request).1.lastActivationTime = applied.1.lastActivationTime ∧
      (commit = true → applied.2.ok = true → (api.postActivation now request).2.status = 200) := by
  rw [postActivation]
  split
  · exact Or.inl ⟨rfl, rfl⟩
  split
  · exact Or.inl ⟨rfl, rfl⟩
  split
  · dsimp only
    split
    · exact Or.inl ⟨rfl, rfl⟩
    split
    · exact Or.inl ⟨rfl, rfl⟩
    split
    · refine Or.inr ⟨true, ?_⟩
      split
      · next hok => exact ⟨rfl, rfl, fun _ h => by simp [h] at hok⟩
      · exact ⟨rfl, rfl, fun _ _ => rfl⟩
    split
    · split
      · exact Or.inl ⟨rfl, rfl⟩
      · refine Or.inr ⟨false, ?_⟩
        split <;> exact ⟨rfl, rfl, fun h => by cases h⟩
    · exact Or.inl ⟨rfl, rfl⟩
  · exact Or.inl ⟨rfl, rfl⟩

section Kept

variable {P : ChannelMappingApi → Prop} (whole : ∀ api, P api → Whole api)
  (same : ∀ api api' : ChannelMappingApi, api'.routing = api.routing → P api → P api')
  (taken : ∀ (api : ChannelMappingApi) (now : TaiTime) (action : Json) (w : Work) (filled : Mapper),
    P api → (cellsOf action).foldlM (applyCell api.usable) api.gather = .ok w →
    fillMatrix api.routing.mapper.clearAll w.updated.values = .ok filled →
    P (api.settled now w filled))

include whole taken in
/-- What taken actions keep, every action keeps. -/
theorem kept_applyAction (h : P api) (commit : Bool) :
    P (api.applyAction now action commit).1 := by
  rcases (whole api h).applyAction_cases now action commit with
    ⟨r, e, -⟩ | ⟨w, filled, -, hw, hf, e⟩
  · rw [e]
    exact h
  · rw [e]
    exact taken api now action w filled h hw hf

include whole same taken

theorem kept_applyDue (h : P api) (l : List PendingActivation) : P (applyDue now l api) := by
  induction l generalizing api with
  | nil => exact h
  | cons activation l ih =>
    rw [applyDue]
    split_ifs
    · exact ih (kept_applyAction whole taken h true)
    · exact same (applyDue now l api) _ rfl (ih h)

theorem kept_applyDueActivations (h : P api) : P (api.applyDueActivations now) :=
  kept_applyDue whole same taken (same api { api with pending := [] } rfl h) _

theorem kept_postActivation (h : P api) (request : Json) :
    P (api.postActivation now request).1 := by
  have hnext : P { api with nextActivationId := api.nextActivationId + 1 } := same api _ rfl h
  rcases postActivation_cases api now request with ⟨e, -⟩ | ⟨commit, e, -⟩
  · exact same _ _ e h
  · exact same _ _ e (kept_applyAction whole taken hnext commit)

end Kept

theorem whole_applyDueActivations (h : Whole api) : Whole (api.applyDueActivations now) :=
  kept_applyDueActivations (fun _ h => h) (fun _ _ e h => h.of_routing e)
    (fun _ _ _ _ _ h hw hf => whole_settled h hw hf) h

theorem whole_postActivation (h : Whole api) (request : Json) :
    Whole (api.postActivation now request).1 :=
  kept_postActivation (fun _ h => h) (fun _ _ e h => h.of_routing e)
    (fun _ _ _ _ _ h hw hf => whole_settled h hw hf) h request

/-! ## One receiver -/

theorem whole_release (h : Whole api) (receiverId : Text) :
    Whole { api with routing := api.routing.release receiverId } := by
  refine ⟨sound_release h.toSound receiverId, ?_⟩
  rw [ReceiverRouting.release]
  split
  · exact h.consistent
  · exact Mapper.consistent_removeMapping h.filed h.consistent _

theorem streamID_createDefaultMapping {m : Mapper} {id : StreamID} {streamName : Text} {n : ℕ}
    {mapping : ChannelMapping} (h : m.createDefaultMapping id streamName n = some mapping) :
    mapping.streamID = id := by
  rw [Mapper.createDefaultMapping] at h
  split at h <;> cases h
  rfl

/-- Only the routes of the mapping change. -/
theorem overlay_routes (r : ReceiverRouting) (receiverId : Text) (mapping : ChannelMapping) :
    ∃ routes, r.overlay receiverId mapping = { mapping with routes := routes } := by
  rw [ReceiverRouting.overlay]
  split
  · exact ⟨mapping.routes, rfl⟩
  · dsimp only
    split_ifs
    · exact ⟨mapping.routes, rfl⟩
    · exact ⟨mapping.routes, rfl⟩
    · exact ⟨_, rfl⟩
    · exact ⟨mapping.routes, rfl⟩

/-- **What `apply` can do**: release, refuse with nothing done, refuse with the old stream
released, or release and take a stream. -/
theorem apply_cases (r : ReceiverRouting) (receiverId sdp : Text) (enable : Bool)
    (generated : StreamID) :
    (enable = false ∧ r.apply receiverId sdp enable generated = (r.release receiverId, .ok ())) ∨
    (enable = true ∧ ReceiverRouting.sessionOf receiverId sdp = none ∧
      ∃ why, r.apply receiverId sdp enable generated = (r, .error why)) ∨
    ∃ session, enable = true ∧ ReceiverRouting.sessionOf receiverId sdp = some session ∧
      let released := r.release receiverId
      let offered := released.mapper.createDefaultMapping generated session.sessionName
        session.numChannels.toNat
      ((∀ mapping, offered = some mapping →
          released.mapper.accepts (released.overlay receiverId mapping) = false) ∧
        ∃ why, r.apply receiverId sdp enable generated = (released, .error why)) ∨
      ∃ mapping, offered = some mapping ∧
        released.mapper.accepts (released.overlay receiverId mapping) = true ∧
        r.apply receiverId sdp enable generated =
          ({ released with
              mapper := (released.mapper.addMapping (released.overlay receiverId mapping)).1
              streamIdOf := released.streamIdOf.insert receiverId generated }, .ok ()) := by
  rw [ReceiverRouting.apply]
  cases enable with
  | false => exact Or.inl ⟨rfl, rfl⟩
  | true =>
  refine Or.inr ?_
  cases hs : ReceiverRouting.sessionOf receiverId sdp with
  | none => exact Or.inl ⟨rfl, rfl, _, rfl⟩
  | some session =>
  refine Or.inr ⟨session, rfl, rfl, ?_⟩
  dsimp only
  cases hm : (r.release receiverId).mapper.createDefaultMapping generated session.sessionName
      session.numChannels.toNat with
  | none => exact Or.inl ⟨by simp, _, rfl⟩
  | some mapping =>
  have hid : ((r.release receiverId).overlay receiverId mapping).streamID = generated := by
    rw [streamID_overlay, streamID_createDefaultMapping hm]
  dsimp only
  rw [if_neg (by simp)]
  cases hv : ((r.release receiverId).overlay receiverId mapping).isValid with
  | false =>
    rw [if_pos (by simp)]
    refine Or.inl ⟨fun _ h => ?_, _, rfl⟩
    cases h
    rw [Mapper.accepts, hv]
    rfl
  | true =>
  rw [if_neg (by simp)]
  rcases Mapper.addMapping_cases (r.release receiverId).mapper
    ((r.release receiverId).overlay receiverId mapping) with ⟨ha, e⟩ | ⟨ha, e⟩
  · simp only [e]
    refine Or.inl ⟨fun _ h => ?_, _, rfl⟩
    cases h
    exact ha
  · simp only [e, hid]
    exact Or.inr ⟨mapping, rfl, ha, by simp only [e, hid]⟩

/-- Releasing adds nothing to the matrix. -/
theorem find?_of_release {r : ReceiverRouting} {receiverId : Text} {id : StreamID}
    {m : ChannelMapping} (h : (r.release receiverId).mapper.mappings.find? id = some m) :
    r.mapper.mappings.find? id = some m := by
  rw [ReceiverRouting.release] at h
  split at h
  · exact h
  · dsimp only at h
    rw [Mapper.find?_removeMapping] at h
    split_ifs at h
    exact h

theorem whole_apply (h : Whole api) {receiverId sdp : Text} {enable : Bool}
    {generated : StreamID} (unused : Unused api (.grid (.activate receiverId sdp enable generated))) :
    Whole { api with routing := (api.routing.apply receiverId sdp enable generated).1 } := by
  refine ⟨sound_apply h.toSound unused.2.2, ?_⟩
  have hrel := whole_release h receiverId
  rcases apply_cases api.routing receiverId sdp enable generated with
    ⟨-, e⟩ | ⟨-, -, why, e⟩ | ⟨session, -, -, ⟨-, why, e⟩ | ⟨mapping, hm, -, e⟩⟩ <;> rw [e]
  · exact hrel.consistent
  · exact h.consistent
  · exact hrel.consistent
  · refine Mapper.consistent_addMapping hrel.filed hrel.consistent fun _ => ?_
    rw [streamID_overlay, streamID_createDefaultMapping hm]
    refine Option.eq_none_iff_forall_ne_some.mpr fun m hfind => ?_
    cases unused.2.1.symm.trans (find?_of_release hfind)

theorem whole_sharedStep (h : Whole api) {op : SharedOp} (unused : Unused api op) :
    Whole (sharedStep api op) := by
  cases op with
  | matrix op =>
    exact ⟨⟨Mapper.filed_step h.filed op, h.injective⟩,
      (Mapper.consistent_step_iff h.filed h.consistent op).mpr unused⟩
  | grid op =>
    cases op with
    | addReceiver id => exact h.of_routing rfl
    | removeReceiver id => exact h.of_routing rfl
    | setUsableChannelCount count =>
      refine ⟨⟨h.filed, h.injective⟩, ?_⟩
      exact (Mapper.consistent_step_iff h.filed h.consistent (.setUsableChannelCount count)).mpr
        trivial
    | activate receiverId sdp enable generated => exact whole_apply h unused
    | post now request => exact whole_postActivation (whole_applyDueActivations h) request
    | active now => exact whole_applyDueActivations h
    | delete now id => exact (whole_applyDueActivations h).of_routing rfl

/-- **The matrix is consistent in every state a run reaches.** -/
theorem whole_run {ops : List SharedOp} (unused : Along sharedStep Unused {} ops) :
    Whole (ops.foldl sharedStep {}) := by
  refine (always_of_along (fun api op h hu => whole_sharedStep h hu) ?_ unused).run
  exact ⟨⟨Mapper.filed_init, fun r r' id h => by cases h⟩, Mapper.consistent_init⟩

/-! ## Refused or only scheduled -/

/-- A POST to `map/activations` whose body may not parse. -/
def handlePostBody (api : ChannelMappingApi) (now : TaiTime) :
    Except Text Json → ChannelMappingApi × ApiResponse
  | .error parseError => (api.applyDueActivations now,
      errorResponse 400 ("the body is not JSON: ".toList ++ parseError))
  | .ok request => api.handlePost now request

/-- Nothing of the grid differs: not the matrix, not what receivers remember, not when an
activation last moved it. -/
structure SameGrid (before after : ChannelMappingApi) : Prop where
  mappings : after.routing.mapper.getAllMappings = before.routing.mapper.getAllMappings
  owners : after.routing.mapper.deviceChannelOwners = before.routing.mapper.deviceChannelOwners
  remembered : ∀ receiverId, after.routing.rememberedRoutes receiverId =
    before.routing.rememberedRoutes receiverId
  lastActivationTime : after.lastActivationTime = before.lastActivationTime

theorem SameGrid.of_eq (hr : api'.routing = api.routing)
    (hl : api'.lastActivationTime = api.lastActivationTime) : SameGrid api api' :=
  ⟨by rw [hr], by rw [hr], by rw [hr]; exact fun _ => rfl, hl⟩

/-- An action that is not answered with success, or only asked about, leaves the API as it is. -/
theorem Whole.applyAction_eq (h : Whole api) (now : TaiTime) (action : Json) (commit : Bool)
    (hn : (api.applyAction now action commit).2.ok = false ∨ commit = false) :
    (api.applyAction now action commit).1 = api := by
  rcases h.applyAction_cases now action commit with ⟨r, e, -⟩ | ⟨w, filled, hc, -, -, e⟩
  · rw [e]
  · rw [e] at hn
    rcases hn with hn | hn
    · cases hn
    · rw [hc] at hn
      cases hn

/-- A POST that is refused or answered with a promise leaves the grid as it is. -/
theorem Whole.sameGrid_postActivation (h : Whole api) (now : TaiTime) (request : Json)
    (hn : (api.postActivation now request).2.ok = false ∨
      (api.postActivation now request).2.status = 202) :
    SameGrid api (api.postActivation now request).1 := by
  have hnext : Whole { api with nextActivationId := api.nextActivationId + 1 } := h.of_routing rfl
  rcases postActivation_cases api now request with ⟨hr, hl⟩ | ⟨commit, hr, hl, h200⟩
  · exact .of_eq hr hl
  · have same := hnext.applyAction_eq now (request.get "action") commit (by
      by_contra hc
      push Not at hc
      have status := h200 (by simpa using hc.2) (by simpa using hc.1)
      simp [ApiResponse.ok, status] at hn)
    exact .of_eq (by rw [hr, same]) (by rw [hl, same])

/-- **A POST that is not answered with success, or only scheduled, is invisible**: whatever its
body, the grid is as it was once the activations that had fallen due were applied. -/
theorem refused_unchanged (ops : List SharedOp) (unused : Along sharedStep Unused {} ops)
    (now : TaiTime) (body : Except Text Json)
    (hn : ((ops.foldl sharedStep {}).handlePostBody now body).2.ok = false ∨
      ((ops.foldl sharedStep {}).handlePostBody now body).2.status = 202) :
    SameGrid ((ops.foldl sharedStep {}).applyDueActivations now)
      ((ops.foldl sharedStep {}).handlePostBody now body).1 := by
  cases body with
  | error parseError => exact .of_eq rfl rfl
  | ok request =>
    exact (whole_applyDueActivations (whole_run unused)).sameGrid_postActivation now request hn

/-- A receiver on channels 0 and 1, and a stream of somebody else's on channels 8 and 9. -/
def besideOther : List SharedOp :=
  [.grid (.addReceiver "a".toList), .grid (.activate "a".toList [] true ⟨1, StreamID.one_lt⟩),
   .matrix (.addMapping { streamID := ⟨2, StreamID.two_lt⟩, streamChannelCount := 2,
                          deviceChannelStart := 8, deviceChannelCount := 2 })]

theorem unused_besideOther : Along sharedStep Unused {} besideOther := by
  refine ⟨trivial, ⟨by decide, rfl, fun r h => by cases h⟩, fun _ => ?_, trivial⟩
  decide

/-- An activation in five seconds. -/
def inFiveSeconds (cells : List (Text × Json)) : Json :=
  .obj [("action".toList, .obj [(kDeviceOutputId.toList, .obj cells)]),
    ("activation".toList, .obj [("mode".toList, .str "activate_scheduled_relative".toList),
      ("requested_time".toList, .str "5:0".toList)])]

/-- A grid promised for later is tried on the matrix and leaves no trace, on the other stream's
channels neither. -/
theorem besideOther_unchanged :
    SameGrid ((besideOther.foldl sharedStep {}).applyDueActivations {})
      ((besideOther.foldl sharedStep {}).handlePostBody {}
        (.ok (inFiveSeconds [("8".toList, cellJson (some ("a".toList, 0)))]))).1 :=
  refused_unchanged besideOther unused_besideOther {} _ (Or.inr (by decide))

end ChannelMappingApi

end Aes67.Ravenna
