import Aes67.Mapper.Owners
import Aes67.Manager.Model

/-!
# One producer a ring

The mapper reserves the channels a mapping counts, and an RTP object uses as many as its stream
has. `addStream` and `createTxStream` make the two counts one; `updateMapping` and
`loadSavedStreams` take the count they are given, and `updateMapping` leaves the RTP object on the
new mapping when it does not start again and the mapper goes back to the old one.

* `touches`: the device channels the RTP object of a stream uses;
* `Disciplined`: they are the stream's own, so no two receivers write one ring;
* `Covers`, `Guarded`: the mappings and the calls that keep it so;
* **`always_disciplined`**: a run of guarded calls is disciplined throughout.
-/

namespace Aes67

open Sdp (SDPSession)

/-! ## The mapper's owners -/

namespace Mapper

variable {m m' : Mapper} {mapping : ChannelMapping} {id : StreamID}

/-- A stream owns the channels of a mapping. -/
def Owns (m : Mapper) (id : StreamID) (mapping : ChannelMapping) : Prop :=
  ∀ c : Fin kMaxDeviceChannels, c.val ∈ mapping.deviceChannels → m.deviceChannelOwners c = id

/-- An add claims the channels of its mapping, and takes none that is owned. -/
theorem owns_addMapping (h : m.addMapping mapping = (m', true)) :
    mapping.Valid ∧ m'.Owns mapping.streamID mapping ∧
      ∀ id mp, id ≠ .null → m.Owns id mp → m'.Owns id mp := by
  rcases addMapping_cases m mapping with ⟨-, e⟩ | ⟨ha, e⟩
  · rw [e] at h
    cases h
  · rw [e] at h
    cases h
    obtain ⟨hv, free⟩ := accepts_iff.mp ha
    refine ⟨hv, fun c hc => ?_, fun id mp hid ho c hc => ?_⟩
    · rw [updateDeviceChannelOwners_owners, if_pos hc]
    · have hn : c.val ∉ mapping.deviceChannels := fun hm => hid ((ho c hc).symm.trans (free c hm))
      rw [updateDeviceChannelOwners_owners, if_neg hn]
      exact ho c hc

/-- An update claims the channels of its mapping, and takes none of another stream. -/
theorem owns_updateMapping (h : m.updateMapping mapping = (m', true)) :
    mapping.Valid ∧ m'.Owns mapping.streamID mapping ∧
      (∀ id mp, id ≠ .null → id ≠ mapping.streamID → m.Owns id mp → m'.Owns id mp) ∧
      ∀ mp, m.Owns mapping.streamID mp → ∀ c : Fin kMaxDeviceChannels,
        c.val ∈ mp.deviceChannels →
          m'.deviceChannelOwners c = .null ∨ m'.deviceChannelOwners c = mapping.streamID := by
  rcases updateMapping_cases m mapping with e | ⟨hv, free, e⟩
  · rw [e] at h
    cases h
  · rw [e] at h
    cases h
    refine ⟨hv, fun c hc => ?_, fun id mp hid hne ho c hc => ?_, fun mp ho c hc => ?_⟩
    · rw [updateDeviceChannelOwners_owners, if_pos hc]
    · have hn : c.val ∉ mapping.deviceChannels := fun hm => by
        rcases free c hm with h' | h'
        · exact hid ((ho c hc).symm.trans h')
        · exact hne ((ho c hc).symm.trans h')
      rw [updateDeviceChannelOwners_owners, if_neg hn]
      exact (clear_owner_iff hid).mpr ⟨hne, ho c hc⟩
    · rw [updateDeviceChannelOwners_owners]
      split_ifs
      · exact Or.inr rfl
      · left
        simp [clearDeviceChannelOwners, ho c hc]

theorem owns_removeMapping {id' : StreamID} {mp : ChannelMapping} (hid : id' ≠ .null)
    (hne : id' ≠ id) (ho : m.Owns id' mp) : (m.removeMapping id).1.Owns id' mp := by
  rw [removeMapping]
  split
  · exact ho
  · intro c hc
    exact (clear_owner_iff hid).mpr ⟨hne, ho c hc⟩

/-- Going back to a mapping the stream had is never refused. -/
theorem updateMapping_back {old : ChannelMapping} (hv : old.Valid)
    (h : m.updateMapping mapping = (m', true)) (hid : old.streamID = mapping.streamID)
    (ho : m.Owns mapping.streamID old) : ∃ m'', m'.updateMapping old = (m'', true) := by
  have free := (owns_updateMapping h).2.2.2 old ho
  have hov : m'.isOverlapWithStream old old.streamID = false := by
    rw [isOverlapWithStream_eq_false hv, hid]
    exact free
  rw [updateMapping, ChannelMapping.isValid_iff.mpr hv, hov]
  exact ⟨_, rfl⟩

end Mapper

namespace StreamManager

variable {s s' : StreamManager} {id : StreamID} {managed : ManagedStream} {env : Env}

/-! ## What an RTP object uses -/

/-- The device channels the RTP object of a stream uses for one packet: those a receiver writes,
or a transmitter reads. -/
def touches (managed : ManagedStream) (frameCount : ℕ) : List ℕ :=
  if managed.isTransmit then managed.rtp.readDeviceChannels frameCount
  else managed.rtp.mapChannelsToDevice frameCount

/-- The mapping counts every channel a stream of `n` channels uses: it names them, or its block is
wide enough, or the block does not fit the device and nothing is used. -/
def Covers (mapping : ChannelMapping) (n : ℕ) : Prop :=
  mapping.routes ≠ [] ∨ n ≤ mapping.deviceChannelCount ∨
    kMaxDeviceChannels < mapping.deviceChannelStart + n

/-- **Under a mapping that covers its stream, an RTP object uses only the mapping's channels.** -/
theorem mem_deviceChannels_of_touches {n c : ℕ}
    (h : Covers managed.rtp.mapping managed.rtp.sdp.numChannels.toNat)
    (hc : c ∈ touches managed n) :
    c ∈ managed.rtp.mapping.deviceChannels ∧ c < kMaxDeviceChannels := by
  have block : managed.rtp.mapping.routes = [] → c ∈ managed.rtp.block →
      c ∈ managed.rtp.mapping.deviceChannels ∧ c < kMaxDeviceChannels := by
    intro hr hb
    rw [Rtp.block] at hb
    split_ifs at hb with hfit
    · cases hb
    · obtain ⟨i, hi, rfl⟩ := List.mem_map.mp hb
      have hi := List.mem_range.mp hi
      rw [ChannelMapping.mem_deviceChannels, if_pos hr]
      rcases h with h | h | h
      · exact absurd hr h
      · omega
      · omega
  have routed : ∀ route ∈ managed.rtp.mapping.routes, route.deviceChannel = c →
      c ∈ managed.rtp.mapping.deviceChannels := by
    intro route hr he
    rw [ChannelMapping.mem_deviceChannels, if_neg (List.ne_nil_of_mem hr)]
    exact ⟨route, hr, he⟩
  rw [touches] at hc
  split_ifs at hc
  · rw [Rtp.readDeviceChannels] at hc
    split_ifs at hc
    · cases hc
    split at hc
    · next hr => exact block hr hc
    · obtain ⟨i, -, hi⟩ := List.mem_filterMap.mp hc
      split at hi
      · next route hf =>
        split_ifs at hi with hlt
        cases hi
        exact ⟨routed route (List.mem_of_find?_eq_some hf) rfl, hlt⟩
      · cases hi
  · rw [Rtp.mapChannelsToDevice] at hc
    split_ifs at hc
    · cases hc
    split at hc
    · next hr => exact block hr hc
    · obtain ⟨i, -, hi⟩ := List.mem_flatMap.mp hc
      obtain ⟨route, hf, rfl⟩ := List.mem_map.mp hi
      obtain ⟨hm, hlt⟩ := List.mem_filter.mp hf
      exact ⟨routed route hm rfl, by simpa using (of_decide_eq_true hlt).2⟩

/-- The channels an RTP object uses are those the mapper has its stream own, and no two receive
streams write one ring. -/
structure Disciplined (s : StreamManager) : Prop where
  owned : ∀ id managed, s.streams.find? id = some managed → ∀ frameCount,
    ∀ c ∈ touches managed frameCount, s.mapper.getStreamForDeviceChannel c = some id
  single : ∀ id managed id' managed', s.streams.find? id = some managed →
    s.streams.find? id' = some managed' → managed.isTransmit = false →
    managed'.isTransmit = false → ∀ n n' c, c ∈ touches managed n → c ∈ touches managed' n' →
    id = id'

/-! ## The invariant -/

/-- A session an RTP object can start on. -/
structure Startable (sdp : SDPSession) : Prop where
  connectionAddress_ne : sdp.connectionAddress ≠ []
  port_ne : sdp.port ≠ 0
  numChannels_ne : sdp.numChannels ≠ 0
  numChannels_le : sdp.numChannels ≤ 128

/-- What holds of an open stream: its three owners hold one mapping, which covers the stream, and
its channels are its own. -/
structure Held (m : Mapper) (id : StreamID) (managed : ManagedStream) : Prop where
  rtp_mapping : managed.rtp.mapping = managed.mapping
  rtp_sdp : managed.rtp.sdp = managed.sdp
  streamID : managed.mapping.streamID = id
  valid : managed.mapping.Valid
  covers : Covers managed.mapping managed.sdp.numChannels.toNat
  ready : managed.rtp.running = true → Startable managed.sdp
  owns : m.Owns id managed.mapping

/-- Every open stream is held. -/
def Sound (s : StreamManager) : Prop :=
  ∀ id managed, s.streams.find? id = some managed → Held s.mapper id managed

theorem Held.id_ne {m : Mapper} (h : Held m id managed) : id ≠ .null :=
  h.streamID ▸ h.valid.streamID_ne

theorem Held.of_owns {m m' : Mapper} (h : Held m id managed)
    (ho : m.Owns id managed.mapping → m'.Owns id managed.mapping) : Held m' id managed :=
  ⟨h.rtp_mapping, h.rtp_sdp, h.streamID, h.valid, h.covers, h.ready, ho h.owns⟩

theorem Sound.disciplined (h : Sound s) : Disciplined s := by
  have owned : ∀ id managed, s.streams.find? id = some managed → ∀ frameCount,
      ∀ c ∈ touches managed frameCount, s.mapper.getStreamForDeviceChannel c = some id := by
    intro id managed hm n c hc
    have hh := h id managed hm
    have hcov : Covers managed.rtp.mapping managed.rtp.sdp.numChannels.toNat := by
      rw [hh.rtp_mapping, hh.rtp_sdp]
      exact hh.covers
    obtain ⟨hmem, hlt⟩ := mem_deviceChannels_of_touches hcov hc
    rw [hh.rtp_mapping] at hmem
    have hown : s.mapper.ownerAt c = id := by
      rw [Mapper.ownerAt, dif_pos hlt]
      exact hh.owns ⟨c, hlt⟩ hmem
    rw [Mapper.getStreamForDeviceChannel, hown, if_neg (by simpa [StreamID.isNull] using hh.id_ne)]
  refine ⟨owned, fun id managed id' managed' hm hm' _ _ n n' c hc hc' => ?_⟩
  have h1 := owned id managed hm n c hc
  have h2 := owned id' managed' hm' n' c hc'
  rw [h1] at h2
  exact Option.some.inj h2

/-! ## One call -/

/-- Starting is refused, or the session can be started on and the socket opens. -/
theorem start_cases (r : Rtp) (opens : Bool) : r.start opens = (r, false) ∨
    (Startable r.sdp ∧ opens = true ∧ r.start opens = ({ r with running := true }, true)) := by
  rw [Rtp.start]
  split_ifs with h1 h2 h3 h4
  · exact Or.inl rfl
  · exact Or.inl rfl
  · exact Or.inl rfl
  · exact Or.inl rfl
  · refine Or.inr ⟨⟨fun h => h2 (Or.inl h), fun h => h2 (Or.inr h), fun h => h3 (Or.inl h),
      UInt16.not_lt.mp fun h => h3 (Or.inr h)⟩, by simpa using h4, rfl⟩

/-- A stopped object starts again where the socket opens. -/
theorem start_of_startable {r : Rtp} (hr : r.running = false) (hs : Startable r.sdp) :
    r.start true = ({ r with running := true }, true) := by
  obtain ⟨h1, h2, h3, h4⟩ := hs
  simp [Rtp.start, hr, h1, h2, h3, h4]

@[simp] theorem countChannels_mapper (s : StreamManager) (t : Bool) (f : UInt32 → UInt32) :
    (s.countChannels t f).mapper = s.mapper := by
  cases t <;> rfl

@[simp] theorem countChannels_streams (s : StreamManager) (t : Bool) (f : UInt32 → UInt32) :
    (s.countChannels t f).streams = s.streams := by
  cases t <;> rfl

@[simp] theorem adoptGrandmaster_mapper (s : StreamManager) (g : Text) :
    (s.adoptGrandmaster g).mapper = s.mapper := by
  rw [adoptGrandmaster]
  split_ifs <;> rfl

@[simp] theorem adoptGrandmaster_streams (s : StreamManager) (g : Text) :
    (s.adoptGrandmaster g).streams = s.streams := by
  rw [adoptGrandmaster]
  split_ifs <;> rfl

/-- **A stream is refused, or fails to start and its channels are given back, or is kept.** -/
theorem enlist_cases (s : StreamManager) (sdp : SDPSession) (mapping : ChannelMapping)
    (isTransmit : Bool) (sourcePort : UInt16) (opens : Bool) :
    s.enlist sdp mapping isTransmit sourcePort opens = (s, false) ∨
    (∃ mapper, s.mapper.addMapping mapping = (mapper, true) ∧
      s.enlist sdp mapping isTransmit sourcePort opens =
        ({ s with mapper := (mapper.removeMapping mapping.streamID).1 }, false)) ∨
    ∃ mapper rtp, s.mapper.addMapping mapping = (mapper, true) ∧ rtp.sdp = sdp ∧
      rtp.mapping = mapping ∧ (rtp.running = true → Startable sdp) ∧
      (s.ioActive = true → opens = true) ∧
      (s.enlist sdp mapping isTransmit sourcePort opens).1.mapper = mapper ∧
      (s.enlist sdp mapping isTransmit sourcePort opens).1.streams =
        s.streams.insert mapping.streamID { sdp, mapping, rtp, isTransmit, sourcePort } := by
  rw [enlist]
  rcases hadd : s.mapper.addMapping mapping with ⟨mapper, _ | _⟩
  · exact Or.inl rfl
  dsimp only
  cases hio : s.ioActive with
  | false =>
    refine Or.inr (Or.inr ⟨mapper, { sdp, mapping }, rfl, rfl, rfl, by simp, by simp, ?_, ?_⟩) <;>
      simp
  | true =>
    rcases start_cases { sdp, mapping } opens with e | ⟨hready, hopens, e⟩
    · exact Or.inr (Or.inl ⟨mapper, rfl, by simp [e]⟩)
    · refine Or.inr (Or.inr ⟨mapper, { sdp, mapping, running := true }, rfl, rfl, rfl,
        fun _ => hready, fun _ => hopens, ?_, ?_⟩) <;> simp [e]

theorem sound_insert {mapper : Mapper} (hm : s'.mapper = mapper)
    (hs : s'.streams = s.streams.insert id managed) (hnew : Held mapper id managed)
    (hold : ∀ id' managed', id' ≠ id → s.streams.find? id' = some managed' →
      Held mapper id' managed') : Sound s' := by
  intro id' managed' hf
  rw [hs, OrdMap.find?_insert] at hf
  rw [hm]
  split_ifs at hf with he
  · cases hf
    exact he ▸ hnew
  · exact hold id' managed' he hf

theorem sound_enlist (h : Sound s) (sdp : SDPSession) (mapping : ChannelMapping) (t : Bool)
    (sourcePort : UInt16) (opens : Bool) (hnew : s.streams.find? mapping.streamID = none)
    (hcov : s.mapper.accepts mapping = true → (s.ioActive = true → opens = true) →
      Covers mapping sdp.numChannels.toNat) :
    Sound (s.enlist sdp mapping t sourcePort opens).1 := by
  rcases s.enlist_cases sdp mapping t sourcePort opens with
    e | ⟨mapper, hadd, e⟩ | ⟨mapper, rtp, hadd, h1, h2, hready, hopens, hm, hs⟩
  · rw [e]
    exact h
  · rw [e]
    obtain ⟨-, -, keep⟩ := Mapper.owns_addMapping hadd
    intro id managed hf
    have hh := h id managed hf
    refine hh.of_owns fun ho => ?_
    refine Mapper.owns_removeMapping hh.id_ne ?_ (keep id _ hh.id_ne ho)
    rintro rfl
    rw [hnew] at hf
    cases hf
  · obtain ⟨hv, own, keep⟩ := Mapper.owns_addMapping hadd
    have hacc : s.mapper.accepts mapping = true := by
      rcases Mapper.addMapping_cases s.mapper mapping with ⟨-, e⟩ | ⟨ha, -⟩
      · rw [e] at hadd
        cases hadd
      · exact ha
    refine sound_insert hm hs ⟨h2, h1, rfl, hv, hcov hacc hopens, hready, own⟩ fun id managed _ hf => ?_
    have hh := h id managed hf
    exact hh.of_owns fun ho => keep id _ hh.id_ne ho

theorem sound_addStreamWith (h : Sound s) (isLocked : Int32 → Bool) (sdp : SDPSession)
    (mapping : ChannelMapping) (generated : StreamID) (opens : Bool) :
    Sound (s.addStreamWith isLocked sdp mapping generated opens).1 := by
  rw [addStreamWith]
  split
  · exact h
  split_ifs with hlive
  · exact h
  have hs := sound_enlist h sdp { mapping with
      streamID := generated, streamName := sdp.sessionName,
      streamChannelCount := sdp.numChannels.toNat, deviceChannelCount := sdp.numChannels.toNat }
    false 0 opens (by simpa using hlive) fun _ _ => Or.inr (Or.inl le_rfl)
  dsimp only
  split
  · next e => rw [e] at hs; exact hs
  · next e => rw [e] at hs; exact hs

theorem sound_addStream (h : Sound s) (isLocked : Int32 → Bool) (sdp : SDPSession)
    (generated : StreamID) (opens : Bool) :
    Sound (s.addStream isLocked sdp generated opens).1 := by
  rw [addStream]
  split
  · exact h
  · exact sound_addStreamWith h isLocked sdp _ generated opens

theorem sound_removeStream (h : Sound s) (id : StreamID) : Sound (s.removeStream id).1 := by
  rw [removeStream]
  split
  · exact h
  · intro id' managed' hf
    simp only [recomputeActiveGrandmaster, countChannels_streams, OrdMap.find?_erase] at hf
    split_ifs at hf with hne
    have hh := h id' managed' hf
    simp only [recomputeActiveGrandmaster, countChannels_mapper]
    exact hh.of_owns (Mapper.owns_removeMapping hh.id_ne hne)

theorem sound_rollBack (h : Sound s) (created : List StreamID) : Sound (s.rollBack created) := by
  induction created generalizing s with
  | nil => exact h
  | cons id created ih => exact ih (sound_removeStream h id)

theorem sound_loadStream (h : Sound s) (config : PersistedStreamConfig) (opens : Bool)
    (hcov : config.enabled = true → config.isValid = true →
      s.canAddStream env.isLocked config.sdp false = .ok () →
      s.streams.find? config.mapping.streamID = none →
      s.mapper.accepts config.mapping = true → (s.ioActive = true → opens = true) →
      Covers config.mapping config.sdp.numChannels.toNat) :
    Sound (s.loadStream env config opens).1 := by
  rw [loadStream]
  split
  · exact h
  next he =>
  split
  · exact h
  next hv =>
  split
  · exact h
  · next hcan =>
    split_ifs with hlive
    · exact h
    · have hnew : s.streams.find? config.mapping.streamID = none := by simpa using hlive
      exact sound_enlist h _ _ _ _ _ hnew
        (hcov (by simpa using he) (by simpa using hv) hcan hnew)

/-! ### Transmit streams -/

/-- Creating a transmit stream opens at most the stream it is given the identifier of. -/
theorem find?_createTxStream {name multicastIP : Text} {port numChannels : UInt16}
    {mapping : ChannelMapping} {sourcePort : UInt16} {dscp : Int32} {generated x : StreamID}
    {opens : Bool} (hx : x ≠ generated) (hn : s.streams.find? x = none) :
    (s.createTxStream env name multicastIP port numChannels mapping sourcePort dscp generated
      opens).1.streams.find? x = none := by
  rw [createTxStream]
  dsimp only
  split
  · exact hn
  · have hadm : ∀ sdp mp, mp.streamID = generated →
        (s.enlist sdp mp true sourcePort opens).1.streams.find? x = none := by
      intro sdp mp hid
      rcases s.enlist_cases sdp mp true sourcePort opens with
        e | ⟨mapper, -, e⟩ | ⟨mapper, rtp, -, -, -, -, -, -, hs⟩
      · rw [e]
        exact hn
      · rw [e]
        exact hn
      · rw [hs, OrdMap.find?_insert, hid, if_neg hx]
        exact hn
    split
    · next e => exact congrArg (fun p => p.1.streams.find? x) e ▸ hadm _ _ rfl
    · next e => exact congrArg (fun p => p.1.streams.find? x) e ▸ hadm _ _ rfl

theorem sound_createTxStream (h : Sound s) (name multicastIP : Text) (port numChannels : UInt16)
    (mapping : ChannelMapping) (sourcePort : UInt16) (dscp : Int32) (generated : StreamID)
    (opens : Bool) (hnew : s.streams.find? generated = none) :
    Sound (s.createTxStream env name multicastIP port numChannels mapping sourcePort dscp
      generated opens).1 := by
  rw [createTxStream]
  dsimp only
  split
  · exact h
  have hs := sound_enlist h (announcedTxSession name multicastIP port numChannels
      (castUInt32 s.currentDeviceSampleRate) dscp env.time)
    { mapping with
      streamID := generated, streamName := name,
      streamChannelCount := numChannels.toNat, deviceChannelCount := numChannels.toNat }
    true sourcePort opens hnew fun _ _ => Or.inr (Or.inl le_rfl)
  split
  · next e => rw [e] at hs; exact hs
  · next e => rw [e] at hs; exact hs

/-- The flows one after another: the identifiers still to be given stay new. -/
theorem sound_createFlows {request : FlowRequest} {kPerFlow flowCount : ℕ} {flows : List ℕ}
    (hinj : Set.InjOn env.generated {flow | flow ∈ flows}) (hnodup : flows.Nodup) (h : Sound s)
    (hnew : ∀ flow ∈ flows, s.streams.find? (env.generated flow) = none)
    (created : List StreamID) :
    Sound (createFlows env request kPerFlow flowCount flows s created).1 := by
  induction flows generalizing s created with
  | nil => exact h
  | cons flow flows ih =>
    obtain ⟨hmem, hnodup⟩ := List.nodup_cons.mp hnodup
    rw [createFlows]
    split
    · exact sound_rollBack h created
    · dsimp only
      have hone := hnew flow List.mem_cons_self
      split_ifs
      · exact sound_rollBack (sound_createTxStream h _ _ _ _ _ _ _ _ _ hone) created
      · refine ih (hinj.mono fun f hf => List.mem_cons_of_mem _ hf) hnodup
          (sound_createTxStream h _ _ _ _ _ _ _ _ _ hone) (fun f hf => ?_) _
        refine find?_createTxStream (fun e => ?_) (hnew f (List.mem_cons_of_mem _ hf))
        exact hmem (hinj (List.mem_cons_of_mem _ hf) List.mem_cons_self e ▸ hf)

theorem toNat_max (a b : UInt16) : (max a b).toNat = max a.toNat b.toNat := by
  change (if a ≤ b then b else a).toNat = _
  split_ifs with h <;> rw [UInt16.le_iff_toNat_le] at h <;> omega

theorem channelsPerFlow_pos (s : StreamManager) (profile : CompatibilityProfile) :
    0 < (s.channelsPerFlow profile).toNat := by
  rw [channelsPerFlow, toNat_max]
  exact lt_max_of_lt_left Nat.one_pos

/-- There are no more flows than channels. -/
theorem lt_of_mem_flows {kPerFlow : ℕ} (hk : 0 < kPerFlow) (n flow : ℕ)
    (h : flow ∈ List.range ((n + kPerFlow - 1) / kPerFlow)) : flow < n := by
  have hlt : (flow + 1) * kPerFlow ≤ n + kPerFlow - 1 :=
    (Nat.le_div_iff_mul_le hk).mp (List.mem_range.mp h)
  have hle : flow + kPerFlow ≤ (flow + 1) * kPerFlow := by nlinarith
  omega

/-! ### Mappings -/

/-- An RTP object that can start again refuses a mapping off the device, or is on the new one. -/
theorem rtp_updateMapping_cases {r : Rtp} (mapping : ChannelMapping) {opens : Bool}
    (h : r.running = true → opens = true ∧ Startable r.sdp) :
    (mapping.fitsDevice r.sdp.numChannels.toNat = false ∧
      r.updateMapping mapping opens = (r, false)) ∨
    (mapping.fitsDevice r.sdp.numChannels.toNat = true ∧
      r.updateMapping mapping opens = ({ r with mapping := mapping }, true)) := by
  rw [Rtp.updateMapping]
  cases hfit : mapping.fitsDevice r.sdp.numChannels.toNat with
  | false => exact Or.inl ⟨rfl, rfl⟩
  | true =>
    refine Or.inr ⟨rfl, ?_⟩
    cases hr : r.running with
    | false => simp
    | true =>
      obtain ⟨rfl, hready⟩ := h hr
      have e := start_of_startable (r := { r.stop with mapping := mapping }) rfl hready
      simpa [hr, Rtp.stop] using e

theorem mapper_updateMapping_true {m m' : Mapper} {mapping : ChannelMapping}
    (h : m.updateMapping mapping = (m', true)) :
    mapping.isValid = true ∧ m.isOverlapWithStream mapping mapping.streamID = false := by
  rw [Mapper.updateMapping] at h
  cases hv : mapping.isValid with
  | false => simp [hv] at h
  | true =>
    cases ho : m.isOverlapWithStream mapping mapping.streamID with
    | true => simp [hv, ho] at h
    | false => exact ⟨rfl, rfl⟩

/-- The update of an open stream's mapping keeps the count and restarts: where both the mapper and
the RTP object take the mapping, it covers the stream, and a stream that runs runs again. -/
def SafeUpdate (s : StreamManager) (id : StreamID) (newMapping : ChannelMapping)
    (opens : Bool) : Prop :=
  ∀ managed, s.streams.find? id = some managed →
    (completed id managed newMapping).isValid = true →
    s.mapper.isOverlapWithStream (completed id managed newMapping) id = false →
    (completed id managed newMapping).fitsDevice managed.sdp.numChannels.toNat = true →
    (newMapping.routes ≠ [] ∨ managed.sdp.numChannels.toNat ≤ newMapping.deviceChannelCount) ∧
      (managed.rtp.running = true → opens = true)

theorem sound_updateMapping (h : Sound s) {newMapping : ChannelMapping} {opens : Bool}
    (hg : SafeUpdate s id newMapping opens) : Sound (s.updateMapping id newMapping opens).1 := by
  rw [updateMapping]
  split
  · exact h
  next managed hfind =>
  dsimp only
  split
  · exact h
  next mapper hup =>
  have hh := h id managed hfind
  obtain ⟨hvalid, hover⟩ := mapper_updateMapping_true hup
  obtain ⟨hv, own, keep, -⟩ := Mapper.owns_updateMapping hup
  have hsafe := hg managed hfind hvalid hover
  rw [← hh.rtp_sdp] at hsafe
  cases hfit : (completed id managed newMapping).fitsDevice managed.rtp.sdp.numChannels.toNat with
  | false =>
    -- The RTP object refuses before it stops: the mapper goes back to the old mapping.
    have e : managed.rtp.updateMapping (completed id managed newMapping) opens =
        (managed.rtp, false) := by
      rw [Rtp.updateMapping, hfit]
      rfl
    obtain ⟨mapper', hback⟩ := Mapper.updateMapping_back hh.valid hup hh.streamID hh.owns
    obtain ⟨-, own', keep', -⟩ := Mapper.owns_updateMapping hback
    rw [e]
    refine sound_insert (congrArg Prod.fst hback) rfl
      ⟨hh.rtp_mapping, hh.rtp_sdp, hh.streamID, hh.valid, hh.covers, hh.ready,
        hh.streamID ▸ own'⟩ fun id' managed' hne hf' => ?_
    have hh' := h id' managed' hf'
    exact hh'.of_owns fun ho =>
      keep' id' _ hh'.id_ne (hh.streamID ▸ hne) (keep id' _ hh'.id_ne hne ho)
  | true =>
    obtain ⟨hcov, hopens⟩ := hsafe hfit
    have hrun : managed.rtp.running = true → opens = true ∧ Startable managed.rtp.sdp := by
      intro hr
      exact ⟨hopens hr, hh.rtp_sdp ▸ hh.ready hr⟩
    rcases rtp_updateMapping_cases (completed id managed newMapping) hrun with
      ⟨hn, -⟩ | ⟨-, e⟩
    · rw [hfit] at hn
      cases hn
    · rw [e]
      refine sound_insert rfl rfl
        ⟨rfl, hh.rtp_sdp, rfl, hv, ?_, hh.ready, own⟩ fun id' managed' hne hf' => ?_
      · rw [hh.rtp_sdp] at hcov
        rcases hcov with hc | hc
        · exact Or.inl hc
        · exact Or.inr (Or.inl hc)
      · have hh' := h id' managed' hf'
        exact hh'.of_owns fun ho => keep id' _ hh'.id_ne hne ho

/-! ### Following, restarting, and the device -/

theorem sound_repoint (pending : List (Repoint × ℕ)) (h : Sound s) (followed : ℕ) :
    Sound (repoint env pending s followed).1 := by
  induction pending generalizing s followed with
  | nil => exact h
  | cons e pending ih =>
    obtain ⟨p, k⟩ := e
    have hr := sound_removeStream h p.id
    rw [repoint]
    split
    · next e => rw [e] at hr; exact ih hr followed
    · next e =>
      rw [e] at hr
      exact ih (sound_addStreamWith hr _ _ _ _ _) _

/-- A saved stream that would be let in and start has a mapping that covers it. -/
def SafeConfig (env : Env) (s : StreamManager) (c : PersistedStreamConfig × ℕ) : Prop :=
  c.1.enabled = true → c.1.isValid = true → s.canAddStream env.isLocked c.1.sdp false = .ok () →
    s.streams.find? c.1.mapping.streamID = none → s.mapper.accepts c.1.mapping = true →
    (s.ioActive = true → env.opens c.2 = true) → Covers c.1.mapping c.1.sdp.numChannels.toNat

theorem sound_loadSavedStreams (h : Sound s) {configs : Option (List PersistedStreamConfig)}
    (hg : Along (fun s c => (s.loadStream env c.1 (env.opens c.2)).1) (SafeConfig env) s
      (configs.getD []).zipIdx) : Sound (s.loadSavedStreams env configs) := by
  cases configs with
  | none => exact h
  | some configs =>
    have hall : Always (fun s c => (s.loadStream env c.1 (env.opens c.2)).1) Sound s
        configs.zipIdx :=
      always_of_along (fun s c hs hc => sound_loadStream hs c.1 (env.opens c.2) hc) h hg
    exact hall.run

theorem sound_setIOActive (h : Sound s) (active : Bool) (opens : StreamID → Bool) :
    Sound (s.setIOActive active opens) := by
  rw [setIOActive]
  split
  · exact h
  · intro id managed hf
    rw [OrdMap.find?_mapWithKey] at hf
    obtain ⟨managed₀, h₀, rfl⟩ := Option.map_eq_some_iff.mp hf
    have hh := h id managed₀ h₀
    cases active with
    | false => exact ⟨hh.rtp_mapping, hh.rtp_sdp, hh.streamID, hh.valid, hh.covers, nofun, hh.owns⟩
    | true =>
      rcases start_cases managed₀.rtp (opens id) with e | ⟨hready, -, e⟩
      · simp only [if_true, e]
        exact ⟨hh.rtp_mapping, hh.rtp_sdp, hh.streamID, hh.valid, hh.covers, hh.ready, hh.owns⟩
      · simp only [if_true, e]
        exact ⟨hh.rtp_mapping, hh.rtp_sdp, hh.streamID, hh.valid, hh.covers,
          fun _ => hh.rtp_sdp ▸ hready, hh.owns⟩

/-! ## Whole runs -/

/-- The identifiers `StreamID::generate` makes up for transmit streams are new, and no two of one
call are the same. -/
def Fresh (s : StreamManager) : Op → Prop
  | .createTxStream env _ _ _ _ _ _ _ => s.streams.find? (env.generated 0) = none
  | .createTxStreamFlows env request =>
    Set.InjOn env.generated {flow | flow < request.numChannels.toNat} ∧
      ∀ flow < request.numChannels.toNat, s.streams.find? (env.generated flow) = none
  | _ => True

/-- The calls that take a mapping with the count it has: an update, and each stream of a saved
file when its turn comes. -/
def Guarded (s : StreamManager) : Op → Prop
  | .updateMapping env id newMapping => SafeUpdate s id newMapping (env.opens 0)
  | .loadSavedStreams env configs =>
    Along (fun s c => (s.loadStream env c.1 (env.opens c.2)).1) (SafeConfig env) s
      (configs.getD []).zipIdx
  | _ => True

theorem sound_step (h : Sound s) {op : Op} (hf : Fresh s op) (hg : Guarded s op) :
    Sound (s.step op) := by
  cases op with
  | addStream env sdp => exact sound_addStream h _ _ _ _
  | addStreamWith env sdp mapping => exact sound_addStreamWith h _ _ _ _ _
  | createTxStream env name multicastIP port numChannels mapping sourcePort dscp =>
    exact sound_createTxStream h _ _ _ _ _ _ _ _ _ hf
  | createTxStreamFlows env request =>
    change Sound (s.createTxStreamFlows env request).1
    rw [createTxStreamFlows]
    split_ifs
    · exact h
    · have hlt := lt_of_mem_flows (s.channelsPerFlow_pos (.forKind s.profileKind))
        request.numChannels.toNat
      exact sound_createFlows (hf.1.mono hlt) List.nodup_range h
        (fun flow hmem => hf.2 flow (hlt flow hmem)) []
  | updateMapping env id newMapping => exact sound_updateMapping h hg
  | removeStream id => exact sound_removeStream h id
  | removeAllStreams =>
    intro id managed hf
    cases hf
  | loadSavedStreams env configs => exact sound_loadSavedStreams h hg
  | updateReceiveStreamsFromAnnouncement env announced trigger =>
    change Sound (s.updateReceiveStreamsFromAnnouncement env announced trigger).1
    rw [updateReceiveStreamsFromAnnouncement]
    split_ifs
    · exact h
    · exact h
    · exact sound_repoint _ h 0
  | setIOActive active opens => exact sound_setIOActive h active opens
  | setDeviceSampleRate sampleRate =>
    change Sound (s.setDeviceSampleRate sampleRate).1
    rw [setDeviceSampleRate]
    split_ifs <;> exact h
  | setUsableChannelCount count =>
    exact fun id managed hf => (h id managed hf).of_owns fun ho => ho
  | setCompatibilityProfile _ | setUsableTxChannelCount _ | setTxFlowPortOffset _
  | setAutoSinkFollow _ | setPTPEnabled _ | setRequirePTPLock _ | setIgnoreRefClockMismatch _ =>
    exact h

/-- **In every run of guarded calls, every RTP object uses only channels its stream owns, and no
two receive streams write one ring.** -/
theorem always_disciplined (ops : List Op)
    (h : Along step (fun s op => Fresh s op ∧ Guarded s op) {} ops) :
    Always step Disciplined {} ops := by
  have hs : Always step Sound {} ops :=
    always_of_along (fun s op hs hc => sound_step hs hc.1 hc.2) (fun id managed hf => by cases hf) h
  exact hs.imp fun s hs => hs.disciplined

/-- A stereo stream to receive. -/
def stereo (name address : String) : SDPSession :=
  { sessionName := name.toList, connectionAddress := address.toList }

/-- Surroundings in which the identifier `n` is generated and every socket opens. -/
def quiet (n : ℕ) (h : n < 2 ^ 128) : Env where
  generated _ := ⟨n, h⟩
  opens _ := true
  time := 0
  isLocked _ := true

/-- A running stream moved from channels 0 and 1 to channels 8 and 9. -/
theorem moved_disciplined : Always step Disciplined {}
    [.setIOActive true fun _ => true,
     .addStream (quiet 1 (by decide)) (stereo "a" "239.1.1.1"),
     .updateMapping (quiet 1 (by decide)) ⟨1, by decide⟩
       { deviceChannelStart := 8, deviceChannelCount := 2 }] := by
  refine always_disciplined _ ⟨⟨trivial, trivial⟩, ⟨trivial, trivial⟩, ⟨trivial, ?_⟩, trivial⟩
  intro managed hf _ _ _
  have hn : ((step (step {} (.setIOActive true fun _ => true)) (.addStream (quiet 1 (by decide))
      (stereo "a" "239.1.1.1"))).streams.find? ⟨1, by decide⟩).map (·.sdp.numChannels.toNat) =
        some 2 := by
    decide +kernel
  rw [hf] at hn
  exact ⟨Or.inr (Option.some.inj hn).le, fun _ => rfl⟩

/-- **Two receivers on one ring**: a stream on channels 0 and 1 has its mapping narrowed to
channel 0, and the next stream is given channel 1, which the first still writes. -/
theorem narrowed_not_disciplined : ¬ Always step Disciplined {}
    [.setIOActive true fun _ => true,
     .addStream (quiet 1 (by decide)) (stereo "a" "239.1.1.1"),
     .updateMapping (quiet 1 (by decide)) ⟨1, by decide⟩ { deviceChannelCount := 1 },
     .addStream (quiet 2 (by decide)) (stereo "b" "239.1.1.2")] := by
  intro h
  have hrun := h.run
  have h1 : ((([.setIOActive true fun _ => true,
      .addStream (quiet 1 (by decide)) (stereo "a" "239.1.1.1"),
      .updateMapping (quiet 1 (by decide)) ⟨1, by decide⟩ { deviceChannelCount := 1 },
      .addStream (quiet 2 (by decide)) (stereo "b" "239.1.1.2")] : List Op).foldl step
        {}).streams.find? ⟨1, by decide⟩).map (fun e => (touches e 48, e.isTransmit)) =
      some ([0, 1], false) := by
    decide +kernel
  have h2 : ((([.setIOActive true fun _ => true,
      .addStream (quiet 1 (by decide)) (stereo "a" "239.1.1.1"),
      .updateMapping (quiet 1 (by decide)) ⟨1, by decide⟩ { deviceChannelCount := 1 },
      .addStream (quiet 2 (by decide)) (stereo "b" "239.1.1.2")] : List Op).foldl step
        {}).streams.find? ⟨2, by decide⟩).map (fun e => (touches e 48, e.isTransmit)) =
      some ([1, 2], false) := by
    decide +kernel
  obtain ⟨a, ha, ea⟩ := Option.map_eq_some_iff.mp h1
  obtain ⟨b, hb, eb⟩ := Option.map_eq_some_iff.mp h2
  have hab := hrun.single _ a _ b ha hb (congrArg Prod.snd ea) (congrArg Prod.snd eb) 48 48 1
    (by rw [show touches a 48 = [0, 1] from congrArg Prod.fst ea]; simp)
    (by rw [show touches b 48 = [1, 2] from congrArg Prod.fst eb]; simp)
  exact absurd hab (by decide)

end StreamManager

end Aes67
