import Aes67.Mapper.Blocks
import Aes67.Ravenna.Restore

/-!
# The active map and the routing

The active map is built by walking the receivers of the connection API in order, each with the
routes of its stream or, while it waits for one, those it remembers; a later receiver's route takes
a channel from an earlier one's. Routes remembered for a receiver that waits are not looked at when
another receiver's stream takes their channels, so the map can show a receiver that carries nothing
on a channel that carries another's stream.

* `Carries`: a mapping takes a stream channel to a device channel;
* `Agrees`: the map shows, on each channel a connected receiver's stream owns, that receiver;
* `Clear`: the connected receivers are in the API, and later receivers that wait remember none of
  their channels;
* **`agrees_iff_clear`**: in every state a run reaches the map agrees exactly when it is clear.
-/

namespace Aes67.Ravenna

namespace ChannelMappingApi

variable {api : ChannelMappingApi} {c k : ℕ} {x : Text} {now : TaiTime} {action : Json}

/-! ## What a mapping carries -/

/-- The mapping takes stream channel `k` to device channel `c`. -/
def Carries (m : ChannelMapping) (k c : ℕ) : Prop :=
  if m.routes = [] then c = m.deviceChannelStart + k ∧ k < m.deviceChannelCount
  else ⟨k, c⟩ ∈ m.routes

theorem mem_of_routeAt {routes : List ChannelRoute} (h : routeAt routes c = some k) :
    ⟨k, c⟩ ∈ routes := by
  obtain ⟨route, hr, rfl⟩ := Option.map_eq_some_iff.mp h
  obtain ⟨hmem, hc⟩ := List.mem_filter.mp (List.mem_of_getLast? hr)
  have hc' : route.deviceChannel = c := by simpa using hc
  cases route
  cases hc'
  exact hmem

theorem mem_routesOf_iff {m : ChannelMapping} (hq : m.deviceChannelCount = m.streamChannelCount) :
    ⟨k, c⟩ ∈ routesOf m ↔ Carries m k c := by
  rw [routesOf, Carries]
  by_cases h : m.routes = []
  · rw [if_neg (by simpa using h), if_pos h, hq, Nat.min_self]
    constructor
    · intro hm
      obtain ⟨i, hi, he⟩ := List.mem_map.mp hm
      cases he
      exact ⟨rfl, List.mem_range.mp hi⟩
    · rintro ⟨rfl, hk⟩
      exact List.mem_map.mpr ⟨k, List.mem_range.mpr hk, rfl⟩
  · rw [if_pos h, if_neg h]

/-- A mapping is on a channel exactly when it takes a stream channel there. -/
theorem mem_deviceChannels_iff_carries {m : ChannelMapping} :
    c ∈ m.deviceChannels ↔ ∃ k, Carries m k c := by
  simp only [ChannelMapping.mem_deviceChannels, Carries]
  split_ifs with h
  · constructor
    · rintro ⟨h1, h2⟩
      exact ⟨c - m.deviceChannelStart, by omega, by omega⟩
    · rintro ⟨k, rfl, hk⟩
      omega
  · constructor
    · rintro ⟨route, hr, rfl⟩
      exact ⟨route.streamChannel, hr⟩
    · rintro ⟨k, hk⟩
      exact ⟨_, hk, rfl⟩

/-! ## The invariant -/

/-- What holds in every state the API's own operations reach: the matrix is consistent, and the
block of each mapping is as wide as its stream. -/
structure Square (api : ChannelMappingApi) : Prop extends Whole api where
  square : ∀ id m, api.routing.mapper.mappings.find? id = some m →
    m.deviceChannelCount = m.streamChannelCount

theorem Square.of_routing {api' : ChannelMappingApi} (h : Square api)
    (e : api'.routing = api.routing) : Square api' :=
  ⟨h.toWhole.of_routing e, by rw [e]; exact h.square⟩

theorem square_settled (h : Square api) {w : Work} {filled : Mapper}
    (hw : (cellsOf action).foldlM (applyCell api.usable) api.gather = .ok w)
    (hf : fillMatrix api.routing.mapper.clearAll w.updated.values = .ok filled) :
    Square (api.settled now w filled) := by
  refine ⟨whole_settled h.toWhole hw hf, fun id m hm => ?_⟩
  obtain ⟨-, -, -, hin, hout⟩ := fillMatrix_ok hf (Mapper.filed_clearAll _)
    (Mapper.consistent_clearAll _) (streamIDs_nodup h.toSound hw) fun _ _ => rfl
  rw [settled, foldl_rememberRoutes] at hm
  by_cases hid : id ∈ w.updated.values.map ChannelMapping.streamID
  · obtain ⟨mp, hv, rfl⟩ := List.mem_map.mp hid
    obtain ⟨⟨x, mp'⟩, he, rfl⟩ := List.mem_map.mp hv
    obtain ⟨-, hx, m₀, h₀, e⟩ := updated_of_foldlM h.toSound hw (w.updated.mem_entries_iff.mp he)
    obtain rfl : mp' = m := Option.some.inj ((hin mp' hv).symm.trans hm)
    -- Only its routes differ from those of the mapping the receiver had.
    rw [ReceiverRouting.mappingFor, hx] at h₀
    have := h.square _ m₀ h₀
    rw [e]
    exact this
  · cases (hout id hid).symm.trans hm

theorem square_apply (h : Square api) {receiverId sdp : Text} {enable : Bool}
    {generated : StreamID} (unused : Unused api (.grid (.activate receiverId sdp enable generated))) :
    Square { api with routing := (api.routing.apply receiverId sdp enable generated).1 } := by
  refine ⟨whole_apply h.toWhole unused, fun id m hm => ?_⟩
  have hrel : ∀ id m, (api.routing.release receiverId).mapper.mappings.find? id = some m →
      m.deviceChannelCount = m.streamChannelCount := fun id m hm =>
    h.square id m (find?_of_release hm)
  rcases apply_cases api.routing receiverId sdp enable generated with
    ⟨-, e⟩ | ⟨-, -, why, e⟩ | ⟨session, -, -, ⟨-, why, e⟩ | ⟨mapping, hmap, -, e⟩⟩ <;> rw [e] at hm
  · exact hrel id m hm
  · exact h.square id m hm
  · exact hrel id m hm
  · rcases Mapper.addMapping_cases (api.routing.release receiverId).mapper
      ((api.routing.release receiverId).overlay receiverId mapping) with ⟨-, ha⟩ | ⟨-, ha⟩
    · rw [ha] at hm
      exact hrel id m hm
    · rw [ha] at hm
      dsimp only at hm
      rw [Mapper.updateDeviceChannelOwners_mappings, OrdMap.find?_insert] at hm
      split_ifs at hm
      · cases hm
        obtain ⟨routes, he⟩ := overlay_routes (api.routing.release receiverId) receiverId mapping
        rw [Mapper.createDefaultMapping] at hmap
        split at hmap <;> cases hmap
        rw [he]
      · exact hrel id m hm

theorem square_step (h : Square api) {op : Op} (unused : Unused api (.grid op)) :
    Square (api.step op) := by
  have hdue : ∀ now, Square (api.applyDueActivations now) := fun now =>
    kept_applyDueActivations (fun _ h => h.toWhole) (fun _ _ e h => h.of_routing e)
      (fun _ _ _ _ _ h hw hf => square_settled h hw hf) h
  cases op with
  | addReceiver id => exact h.of_routing rfl
  | removeReceiver id => exact h.of_routing rfl
  | setUsableChannelCount count => exact ⟨whole_sharedStep h.toWhole unused, h.square⟩
  | activate receiverId sdp enable generated => exact square_apply h unused
  | post now request =>
    exact kept_postActivation (fun _ h => h.toWhole) (fun _ _ e h => h.of_routing e)
      (fun _ _ _ _ _ h hw hf => square_settled h hw hf) (hdue now) request
  | active now => exact hdue now
  | delete now id => exact (hdue now).of_routing rfl

theorem square_run {ops : List Op} (unused : Along step (fun api op => Unused api (.grid op)) {} ops) :
    Square (ops.foldl step {}) := by
  refine (always_of_along (fun api op h hu => square_step h hu) ?_ unused).run
  exact ⟨whole_run (show Along sharedStep Unused {} [] from trivial), fun id m h => by cases h⟩

/-! ## Agreement -/

/-- On each usable channel the matrix records as owned by a connected receiver's stream, the
active map shows that receiver, with the stream channel its mapping takes there. -/
def Agrees (api : ChannelMappingApi) : Prop :=
  ∀ receiverId id c, c < api.usable → api.routing.streamIdOf.find? receiverId = some id →
    api.routing.mapper.getStreamForDeviceChannel c = some id →
    ∃ m k, api.routing.mappingFor receiverId = some m ∧ Carries m k c ∧
      shown api.activeMap c = cellJson (some (receiverId, k))

/-- The receivers whose streams are on usable channels are in the API, and no later receiver that
waits for a stream remembers a route to such a channel. -/
def Clear (api : ChannelMappingApi) : Prop :=
  ∀ receiverId m c, c < api.usable → api.routing.mappingFor receiverId = some m →
    c ∈ m.deviceChannels → receiverId ∈ api.receiverIds ∧
    ∀ later ∈ api.receiverIds, receiverId < later → api.routing.mappingFor later = none →
      ∀ route ∈ api.routing.rememberedRoutes later, route.deviceChannel ≠ c

theorem lt_of_usable (hc : c < api.usable) : c < kMaxDeviceChannels :=
  lt_of_lt_of_le hc api.routing.mapper.usable_le

/-- A connected receiver's stream owns the channels its mapping is on. -/
theorem Whole.owned_iff (h : Whole api) {id : StreamID} (hc : c < api.usable)
    (hid : api.routing.streamIdOf.find? x = some id) :
    api.routing.mapper.getStreamForDeviceChannel c = some id ↔
      ∃ m, api.routing.mappingFor x = some m ∧ c ∈ m.deviceChannels := by
  rw [Mapper.getStreamForDeviceChannel, Mapper.ownerAt_of_lt (lt_of_usable hc),
    ReceiverRouting.mappingFor, hid]
  constructor
  · intro ho
    split_ifs at ho with hn
    have hne : api.routing.mapper.deviceChannelOwners ⟨c, lt_of_usable hc⟩ ≠ .null := by
      simpa [StreamID.isNull] using hn
    have := h.consistent.used ⟨c, lt_of_usable hc⟩ hne
    rw [Option.some.inj ho] at this
    exact this
  · rintro ⟨m, hm, hmem⟩
    obtain ⟨hv, rfl⟩ := h.filed id m hm
    have own := (h.consistent.owner_iff ⟨c, lt_of_usable hc⟩ _ hv.streamID_ne).mpr ⟨m, hm, hmem⟩
    rw [own, if_neg (by simpa [StreamID.isNull] using hv.streamID_ne)]

/-- **In such a state the map agrees with the routing exactly when it is clear.** -/
theorem Square.agrees_clear (h : Square api) : Agrees api ↔ Clear api := by
  have sorted : api.receiverIds.Pairwise (· < ·) := api.receivers.keys_pairwise
  have shown_iff : ∀ {c k x}, c < api.usable → (shown api.activeMap c = cellJson (some (x, k)) ↔
      x ∈ api.receiverIds ∧ routeAt (api.routesFor x) c = some k ∧
        ∀ y ∈ api.receiverIds, x < y → routeAt (api.routesFor y) c = none) := by
    intro c k x hc
    rw [shown_activeMap, if_pos hc, cellJson_injective.eq_iff, find?_feeding,
      lastSome_eq_some sorted]
  constructor
  · intro ha x m c hc hm hmem
    obtain ⟨id, hid⟩ : ∃ id, api.routing.streamIdOf.find? x = some id :=
      ⟨_, (h.streamID_eq hm).1⟩
    obtain ⟨-, k, -, -, hshown⟩ := ha x id c hc hid ((h.owned_iff hc hid).mpr ⟨m, hm, hmem⟩)
    obtain ⟨hx, -, hlater⟩ := (shown_iff hc).mp hshown
    refine ⟨hx, fun y hy hlt hn => ?_⟩
    have := hlater y hy hlt
    rw [routesFor, hn] at this
    exact routeAt_eq_none.mp this
  · intro hclear x id c hc hid ho
    obtain ⟨m, hm, hmem⟩ := (h.owned_iff hc hid).mp ho
    obtain ⟨hx, hwait⟩ := hclear x m c hc hm hmem
    have hq : m.deviceChannelCount = m.streamChannelCount := by
      have hm' := hm
      rw [ReceiverRouting.mappingFor, hid] at hm'
      exact h.square id m hm'
    obtain ⟨k₀, hk₀⟩ := mem_deviceChannels_iff_carries.mp hmem
    obtain ⟨k, hk⟩ : ∃ k, routeAt (routesOf m) c = some k := by
      refine Option.ne_none_iff_exists'.mp fun hn => ?_
      exact routeAt_eq_none.mp hn _ ((mem_routesOf_iff hq).mpr hk₀) rfl
    refine ⟨m, k, hm, (mem_routesOf_iff hq).mp (mem_of_routeAt hk), (shown_iff hc).mpr ⟨hx, ?_, ?_⟩⟩
    · rw [routesFor, hm]
      exact hk
    · intro y hy hlt
      rw [routeAt_eq_none, routesFor]
      cases hm' : api.routing.mappingFor y with
      | none => exact hwait y hy hlt hm'
      | some m' =>
        intro route hr hrc
        -- Two streams cannot be on one channel.
        have hid' := (h.streamID_eq hm').1
        have hq' : m'.deviceChannelCount = m'.streamChannelCount := by
          rw [ReceiverRouting.mappingFor, hid'] at hm'
          exact h.square _ m' hm'
        have hmem' : c ∈ m'.deviceChannels :=
          mem_deviceChannels_iff_carries.mpr ⟨route.streamChannel, (mem_routesOf_iff hq').mp
            (by rw [← hrc]; exact hr)⟩
        have ho' := (h.owned_iff hc hid').mpr ⟨m', hm', hmem'⟩
        rw [ho] at ho'
        rw [← Option.some.inj ho'] at hid'
        exact absurd (h.injective x y id hid hid') (ne_of_lt hlt)

/-- **The active map agrees with the routing exactly when it is clear**, in every state that
activations, disconnections and IS-08 requests reach in any order. -/
theorem agrees_iff_clear (ops : List Op)
    (unused : Along step (fun api op => Unused api (.grid op)) {} ops) :
    Agrees (ops.foldl step {}) ↔ Clear (ops.foldl step {}) :=
  (square_run unused).agrees_clear

theorem unused_oneReceiver :
    Along step (fun api op => Unused api (.grid op)) {} oneReceiver :=
  ⟨trivial, ⟨by decide, rfl, fun r h => by cases h⟩, trivial⟩

/-- The one receiver is on its channels, and the map shows it there. -/
theorem oneReceiver_agrees : Agrees (oneReceiver.foldl step {}) := by
  refine (agrees_iff_clear oneReceiver unused_oneReceiver).mpr fun x m c _ hm _ => ?_
  have hids : (oneReceiver.foldl step {}).receiverIds = ["a".toList] := by decide
  have hkeys : (oneReceiver.foldl step {}).routing.streamIdOf.keys = ["a".toList] := by
    decide
  have hx : x ∈ (oneReceiver.foldl step {}).routing.streamIdOf.keys := by
    rw [OrdMap.mem_keys_iff]
    exact ⟨_, ((square_run unused_oneReceiver).streamID_eq hm).1⟩
  rw [hkeys] at hx
  rw [hids]
  refine ⟨hx, fun y hy hlt => ?_⟩
  rw [List.mem_singleton.mp hx, List.mem_singleton.mp hy] at hlt
  exact absurd hlt (lt_irrefl _)

/-- A grid set on a receiver that waits, and another receiver then connected. -/
def patchedBeforehand : List Op :=
  [.addReceiver "a".toList, .addReceiver "b".toList,
   .post {} (immediate [("0".toList, cellJson (some ("b".toList, 0)))]),
   .activate "a".toList [] true ⟨1, StreamID.one_lt⟩]

/-- **Channel 0 carries the first receiver's stream, and the map shows the second**, which carries
nothing. -/
theorem patchedBeforehand_disagrees :
    Along step (fun api op => Unused api (.grid op)) {} patchedBeforehand ∧
    ¬ Agrees (patchedBeforehand.foldl step {}) := by
  refine ⟨⟨trivial, trivial, trivial, ⟨by decide, by decide, fun r h => ?_⟩, trivial⟩,
    fun h => ?_⟩
  · have hempty : (([.addReceiver "a".toList, .addReceiver "b".toList,
        .post {} (immediate [("0".toList, cellJson (some ("b".toList, 0)))])] : List Op).foldl
          step {}).routing.streamIdOf = .empty := by decide
    have hnone : OrdMap.find? (OrdMap.empty : OrdMap Text StreamID) r = some ⟨1, by decide⟩ :=
      hempty ▸ h
    cases hnone
  · obtain ⟨m, k, -, -, hshown⟩ := h "a".toList ⟨1, by decide⟩ 0 (by decide)
      (by decide) (by decide)
    have hfed : (patchedBeforehand.foldl step {}).feeding.find? 0 = some ("b".toList, 0) := by
      decide
    rw [shown_activeMap, if_pos (by decide), hfed] at hshown
    cases cellJson_injective hshown

end ChannelMappingApi

end Aes67.Ravenna
