import Aes67.Manager.Accounting

/-!
# A group of flows

`createTxStreamFlows` splits a group of channels into flows that each fit one packet, and takes
back the flows it made where one of them cannot be had.

* `List.flatMap_range_blocks`: a range cut into blocks of one width, the last one narrower;
* `createTxStream_cases`: a transmit stream is created in full or not at all;
* `IsFlow`: what one flow of a request is; `Grown`: a manager with some of them, from which taking
  them out leads back;
* `createFlows_cases`: the loop creates every flow or none;
* **`createTxStreamFlows_allOrNothing`**: in any state of any run the flows are all there and
  share out the channels, or everything is as it was.
-/

namespace Aes67

/-! ## Blocks -/

/-- The blocks of `k` that `n` takes, the last of them narrower. -/
theorem flatMap_range_blocks (n k m : ℕ) :
    (List.range m).flatMap (fun i => (List.range (min (n - i * k) k)).map (i * k + ·)) =
      List.range (min n (m * k)) := by
  induction m with
  | zero => simp
  | succ m ih =>
    rw [List.range_succ, List.flatMap_append, ih, List.flatMap_singleton, Nat.succ_mul]
    rcases Nat.le_total n (m * k) with h | h
    · rw [Nat.sub_eq_zero_of_le h, Nat.zero_min, List.range_zero, List.map_nil, List.append_nil,
        min_eq_left h, min_eq_left (h.trans (Nat.le_add_right _ _))]
    · rw [min_eq_right h, ← List.range_add]
      congr 1
      omega

namespace StreamManager

open Sdp (SDPSession)

variable {s s' s₀ : StreamManager} {env : Env} {request : FlowRequest}

/-! ## Where a flow is sent -/

theorem advanceLastOctet_inj {ip out : Text} {i j : ℕ} (hi : advanceLastOctet ip i = some out)
    (hj : advanceLastOctet ip j = some out) : i = j := by
  rw [advanceLastOctet] at hi hj
  dsimp only at hi hj
  split_ifs at hi hj
  have h := List.append_cancel_left ((Option.some.inj hi).trans (Option.some.inj hj).symm)
  exact Nat.add_left_cancel (showNat_injective h)

/-- A candidate that is a port is not cut off. -/
theorem eq_of_toUInt16_eq {a b : UInt32} (ha : ¬ a > 0xFFFF) (hb : ¬ b > 0xFFFF)
    (h : a.toUInt16 = b.toUInt16) : a = b := by
  rw [UInt32.not_lt, UInt32.le_iff_toNat_le] at ha hb
  have hn := congrArg UInt16.toNat h
  rw [UInt32.toNat_toUInt16, UInt32.toNat_toUInt16] at hn
  change a.toNat ≤ 65535 at ha
  change b.toNat ≤ 65535 at hb
  exact UInt32.toNat_inj.mp (by omega)

/-- Two flows are told apart by their addresses, or by their source ports under a fixed address. -/
theorem flowAddress_ne {profile : CompatibilityProfile} {ip a b : Text} {port p q : UInt16}
    {i j : ℕ} (hi : s.flowAddress profile ip port i = some (a, p))
    (hj : s.flowAddress profile ip port j = some (b, q)) (hi' : i < 2 ^ 32) (hj' : j < 2 ^ 32)
    (hne : i ≠ j) : if profile.useFixedMulticastWithPerFlowSourcePort then p ≠ q else a ≠ b := by
  rw [flowAddress] at hi hj
  dsimp only at hi hj
  split_ifs at hi hj ⊢ with hfixed hle hle'
  · rintro rfl
    refine hne ?_
    have hp := (Prod.mk.inj (Option.some.inj hi)).2.trans (Prod.mk.inj (Option.some.inj hj)).2.symm
    have hflow := congrArg UInt32.toNat
      ((UInt32.add_right_inj _).mp (eq_of_toUInt16_eq hle hle' hp))
    rwa [UInt32.toNat_ofNat_of_lt' hi', UInt32.toNat_ofNat_of_lt' hj'] at hflow
  · rintro rfl
    obtain ⟨x, hx, ex⟩ := Option.map_eq_some_iff.mp hi
    obtain ⟨y, hy, ey⟩ := Option.map_eq_some_iff.mp hj
    rw [(Prod.mk.inj ex).1] at hx
    rw [(Prod.mk.inj ey).1] at hy
    exact hne (advanceLastOctet_inj hx hy)

/-! ## One transmit stream -/

/-- The settings that a transmit stream depends on, and the mapper's count, are as they were. -/
structure SameSettings (s s' : StreamManager) : Prop extends SameOptions s s' where
  currentDeviceSampleRate : s'.currentDeviceSampleRate = s.currentDeviceSampleRate
  usable : s'.mapper.usableChannelCount = s.mapper.usableChannelCount

theorem SameSettings.refl (s : StreamManager) : SameSettings s s := ⟨.refl s, rfl, rfl⟩

theorem SameSettings.trans {s₁ : StreamManager} (h : SameSettings s s₁) (h' : SameSettings s₁ s') :
    SameSettings s s' :=
  ⟨h.toSameOptions.trans h'.toSameOptions,
    h'.currentDeviceSampleRate.trans h.currentDeviceSampleRate, h'.usable.trans h.usable⟩

theorem sameSettings_keep {mapper : Mapper} (managed : ManagedStream)
    (hu : mapper.usableChannelCount = s.mapper.usableChannelCount) :
    SameSettings s (s.keep mapper managed) := by
  refine ⟨sameOptions_keep s mapper managed, ?_, by rwa [keep_mapper]⟩
  rw [keep_eq]

theorem sameSettings_removeStream (s : StreamManager) (id : StreamID) :
    SameSettings s (s.removeStream id).1 := by
  refine ⟨sameOptions_removeStream s id, ?_, ?_⟩
  · cases hf : s.streams.find? id with
    | none => rw [removeStream_of_none hf]
    | some managed =>
      rw [removeStream_of_find? hf]
      rfl
  · cases hf : s.streams.find? id with
    | none => rw [removeStream_of_none hf]
    | some managed =>
      rw [removeStream_of_find? hf]
      exact s.mapper.usable_removeMapping id

/-- **A transmit stream is created in full or not at all.** -/
theorem createTxStream_cases (s : StreamManager) (env : Env) (name multicastIP : Text)
    (port numChannels : UInt16) (mapping : ChannelMapping) (sourcePort : UInt16) (dscp : Int32)
    (generated : StreamID) (opens : Bool) :
    ∃ s' id, s.createTxStream env name multicastIP port numChannels mapping sourcePort dscp
      generated opens = (s', id) ∧ SameSettings s s' ∧
      ((id = .null ∧ s'.streams = s.streams) ∨
        ∃ sdp rtp, sdp = announcedTxSession name multicastIP port numChannels
            (castUInt32 s.currentDeviceSampleRate) dscp env.time ∧
          s.canAddStream env.isLocked sdp true = .ok () ∧ id = generated ∧
          s'.streams = s.streams.insert generated
            { sdp := sdp
              mapping :=
                { mapping with
                  streamID := generated, streamName := name,
                  streamChannelCount := numChannels.toNat,
                  deviceChannelCount := numChannels.toNat }
              rtp := rtp
              isTransmit := true
              sourcePort := sourcePort }) := by
  rw [createTxStream]
  dsimp only
  split
  · exact ⟨s, .null, rfl, .refl s, Or.inl ⟨rfl, rfl⟩⟩
  next hcan =>
  have husable : ∀ {mp : ChannelMapping} {mapper : Mapper},
      s.mapper.addMapping mp = (mapper, true) →
      mapper.usableChannelCount = s.mapper.usableChannelCount := by
    intro mp mapper hadd
    have := s.mapper.usable_addMapping mp
    rwa [hadd] at this
  rcases s.enlist_eq (announcedTxSession name multicastIP port numChannels
      (castUInt32 s.currentDeviceSampleRate) dscp env.time)
    { mapping with
      streamID := generated, streamName := name,
      streamChannelCount := numChannels.toNat, deviceChannelCount := numChannels.toNat }
    true sourcePort opens with e | ⟨mapper, hadd, e⟩ | ⟨mapper, rtp, hadd, -, e⟩
  · rw [e]
    exact ⟨s, .null, rfl, .refl s, Or.inl ⟨rfl, rfl⟩⟩
  · rw [e]
    exact ⟨_, .null, rfl, ⟨⟨⟨rfl, rfl, rfl⟩, rfl, rfl⟩, rfl,
      (Mapper.usable_removeMapping _ _).trans (husable hadd)⟩, Or.inl ⟨rfl, rfl⟩⟩
  · rw [e]
    exact ⟨_, generated, rfl, sameSettings_keep _ (husable hadd),
      Or.inr ⟨_, rtp, rfl, hcan, rfl, keep_streams _ _ _⟩⟩

/-- What the packet check lets pass fits one packet. -/
theorem fits_of_validatePacketBudget {sdp : SDPSession} (h : validatePacketBudget sdp = .ok ())
    (hb : PacketBudget.bytesPerSample sdp.encoding ≠ 0) :
    PacketBudget.fits sdp.numChannels (PacketBudget.bytesPerSample sdp.encoding)
      (PacketBudget.framesPerPacket sdp.sampleRate sdp.ptimeUs sdp.framecount) = true := by
  rw [validatePacketBudget] at h
  dsimp only at h
  split_ifs at h with h0 h1
  · rw [h0.resolve_left hb]
    exact decide_eq_true (by simp [PacketBudget.rtpPacketBytes, PacketBudget.kRtpHeaderBytes,
      PacketBudget.kMaxRtpPacketBytes, PacketBudget.kEthernetMtuBytes,
      PacketBudget.kIpv4UdpOverheadBytes])
  · exact h1

theorem numChannels_le_of_validate {p : CompatibilityProfile} {sdp : SDPSession} {t : Bool}
    (h : p.validate sdp t = .ok ()) : sdp.numChannels ≤ p.maxChannelsPerFlow := by
  rw [CompatibilityProfile.validate] at h
  dsimp only at h
  split_ifs at h with h1 h2 h3 h4 h5 h6
  exact UInt16.not_lt.mp h6

/-! ## The loop -/

/-- The channels of one flow. -/
def flowWidth (request : FlowRequest) (kPerFlow flow : ℕ) : ℕ :=
  min (request.numChannels.toNat - flow * kPerFlow) kPerFlow

/-- How many flows the channels take. -/
def flowCount (request : FlowRequest) (kPerFlow : ℕ) : ℕ :=
  (request.numChannels.toNat + kPerFlow - 1) / kPerFlow

/-- What one flow of a request is, made in a state with the settings of `s`. -/
structure IsFlow (s : StreamManager) (request : FlowRequest) (kPerFlow flow : ℕ)
    (managed : ManagedStream) : Prop where
  isTransmit : managed.isTransmit = true
  numChannels : managed.sdp.numChannels.toNat = flowWidth request kPerFlow flow
  start : managed.mapping.deviceChannelStart =
    (request.mapping.deviceChannelStart + flow * kPerFlow) % 2 ^ 16
  streamChannelCount : managed.mapping.streamChannelCount = flowWidth request kPerFlow flow
  deviceChannelCount : managed.mapping.deviceChannelCount = flowWidth request kPerFlow flow
  routes : managed.mapping.routes = []
  valid : managed.mapping.Valid
  profile : managed.sdp.numChannels ≤
    (CompatibilityProfile.forKind s.profileKind).maxChannelsPerFlow
  fits : PacketBudget.fits managed.sdp.numChannels (PacketBudget.bytesPerSample "L24".toList)
    (PacketBudget.framesPerPacket (castUInt32 s.currentDeviceSampleRate) 1000 0) = true
  address : s.flowAddress (.forKind s.profileKind) request.baseMulticastIP request.port flow =
    some (managed.sdp.connectionAddress, managed.sourcePort)

/-- A manager with streams that `s₀` did not have; without them it has the same. -/
structure Grown (s₀ s : StreamManager) (created : List StreamID) : Prop where
  books : Books s
  settings : SameSettings s₀ s
  streams : ∀ id, s₀.streams.find? id = if id ∈ created then none else s.streams.find? id

/-- Everything of the manager that the streams are recorded in. -/
structure Unchanged (s s' : StreamManager) : Prop where
  streams : s'.streams = s.streams
  mapper : s'.mapper = s.mapper
  rxChannelsInUse : s'.rxChannelsInUse = s.rxChannelsInUse
  txChannelsInUse : s'.txChannelsInUse = s.txChannelsInUse

theorem sameSettings_rollBack (s : StreamManager) (created : List StreamID) :
    SameSettings s (s.rollBack created) := by
  induction created generalizing s with
  | nil => exact .refl s
  | cons id created ih => exact (sameSettings_removeStream s id).trans (ih _)

theorem find?_rollBack (s : StreamManager) (created : List StreamID) (id : StreamID) :
    (s.rollBack created).streams.find? id = if id ∈ created then none else s.streams.find? id := by
  induction created generalizing s with
  | nil => simp [rollBack]
  | cons a created ih =>
    have hrest := ih (s.removeStream a).1
    rw [removeStream_streams, OrdMap.find?_erase] at hrest
    rw [rollBack, List.foldl_cons]
    refine hrest.trans ?_
    by_cases hmem : id ∈ created
    · simp [hmem]
    · by_cases ha : id = a <;> simp [hmem, ha]

/-- **Taking out what was made leads back.** -/
theorem Grown.rollBack (h₀ : Books s₀) {created : List StreamID} (h : Grown s₀ s created) :
    Unchanged s₀ (s.rollBack created) := by
  have hbooks : Books (s.rollBack created) :=
    kept_rollBack (A := fun _ _ _ => True) (fun _ _ hm h => books_move h hm) h.books created
  have hstreams : (s.rollBack created).streams = s₀.streams :=
    OrdMap.ext_find? fun id => (find?_rollBack s created id).trans (h.streams id).symm
  obtain ⟨hmapper, hrx, htx⟩ := h₀.determined hbooks hstreams
    (h.settings.trans (sameSettings_rollBack s created)).usable
  exact ⟨hstreams, hmapper, hrx, htx⟩

/-- A flow of the request is open. -/
def HasFlow (env : Env) (request : FlowRequest) (kPerFlow : ℕ) (s₀ s : StreamManager)
    (flow : ℕ) : Prop :=
  ∃ managed, s.streams.find? (env.generated flow) = some managed ∧
    IsFlow s₀ request kPerFlow flow managed

theorem flowAddress_congr (h : SameSettings s₀ s) (profile : CompatibilityProfile) (ip : Text)
    (port : UInt16) (flow : ℕ) :
    s.flowAddress profile ip port flow = s₀.flowAddress profile ip port flow := by
  rw [flowAddress, flowAddress, h.txFlowPortOffset]

/-- **One turn of the loop**: the stream is not created and nothing has changed, or it is the
flow. -/
theorem createFlow_cases (env : Env) (kPerFlow flowCount : ℕ) {created : List StreamID}
    (h : Grown s₀ s created) {flow : ℕ} {flowIP : Text} {flowSourcePort : UInt16}
    (haddress : s₀.flowAddress (.forKind s₀.profileKind) request.baseMulticastIP request.port
      flow = some (flowIP, flowSourcePort))
    (hnew : s.streams.find? (env.generated flow) = none) :
    ∃ s' id, s.createTxStream env (flowName request.baseName flow flowCount) flowIP request.port
        (.ofNat (flowWidth request kPerFlow flow))
        (flowMapping request.mapping kPerFlow flow (flowWidth request kPerFlow flow))
        flowSourcePort request.dscp (env.generated flow) (env.opens flow) = (s', id) ∧
      ((id = .null ∧ Grown s₀ s' created) ∨
        (id = env.generated flow ∧ id ≠ .null ∧ Grown s₀ s' (created ++ [env.generated flow]) ∧
          (∀ id' ≠ env.generated flow, s'.streams.find? id' = s.streams.find? id') ∧
          HasFlow env request kPerFlow s₀ s' flow)) := by
  have hbooks := kept_createTxStream (A := fun _ _ _ => True) (fun _ _ hm h => books_move h hm)
    (fun _ _ _ _ _ => trivial) h.books env (flowName request.baseName flow flowCount) flowIP
    request.port (.ofNat (flowWidth request kPerFlow flow))
    (flowMapping request.mapping kPerFlow flow (flowWidth request kPerFlow flow)) flowSourcePort
    request.dscp (env.generated flow) (env.opens flow) hnew
  obtain ⟨s', id, e, hset, hcases⟩ := s.createTxStream_cases env
    (flowName request.baseName flow flowCount) flowIP request.port
    (.ofNat (flowWidth request kPerFlow flow))
    (flowMapping request.mapping kPerFlow flow (flowWidth request kPerFlow flow)) flowSourcePort
    request.dscp (env.generated flow) (env.opens flow)
  rw [e] at hbooks
  refine ⟨s', id, e, ?_⟩
  rcases hcases with ⟨hid, hs⟩ | ⟨sdp, rtp, hsdp, hcan, hid, hs⟩
  · exact Or.inl ⟨hid, hbooks, h.settings.trans hset, fun id' => by rw [hs]; exact h.streams id'⟩
  have hwidth : (UInt16.ofNat (flowWidth request kPerFlow flow)).toNat =
      flowWidth request kPerFlow flow := by
    refine UInt16.toNat_ofNat_of_lt' (lt_of_le_of_lt ?_ request.numChannels.toNat_lt)
    exact (Nat.min_le_left _ _).trans (Nat.sub_le _ _)
  have hfound := congrArg (OrdMap.find? · (env.generated flow)) hs
  simp only [OrdMap.find?_insert_self] at hfound
  obtain ⟨hv, -⟩ := hbooks.valid hfound
  obtain ⟨-, -, hbudget, -, hprofile, -⟩ := canAddStream_eq_ok.mp hcan
  refine Or.inr ⟨hid, hid ▸ hv.streamID_ne, ⟨hbooks, h.settings.trans hset, fun id' => ?_⟩,
    fun id' hne => ?_, _, hfound, rfl, ?_, rfl, hwidth, hwidth, rfl, hv, ?_, ?_, ?_⟩
  · rw [hs, OrdMap.find?_insert, h.streams id']
    by_cases he : id' = env.generated flow
    · simp [he, hnew]
    · simp [he]
  · rw [hs, OrdMap.find?_insert, if_neg hne]
  · rw [hsdp]
    exact hwidth
  · rw [← h.settings.profileKind]
    exact numChannels_le_of_validate hprofile
  · rw [← h.settings.currentDeviceSampleRate]
    rw [hsdp] at hbudget ⊢
    have hL24 : PacketBudget.bytesPerSample "L24".toList ≠ 0 := by decide
    exact fits_of_validatePacketBudget hbudget hL24
  · rw [hsdp]
    exact haddress

/-- **The loop creates every flow or none.** -/
theorem createFlows_cases (h₀ : Books s₀) {kPerFlow flowCount : ℕ} {flows : List ℕ} (done : List ℕ)
    (hinj : Set.InjOn env.generated {flow | flow ∈ flows}) (hnodup : flows.Nodup)
    (hnew : ∀ flow ∈ flows, s.streams.find? (env.generated flow) = none)
    (h : Grown s₀ s (done.map env.generated))
    (hdone : ∀ flow ∈ done, HasFlow env request kPerFlow s₀ s flow) :
    ∃ s' created, createFlows env request kPerFlow flowCount flows s (done.map env.generated) =
        (s', created) ∧
      ((created = [] ∧ Unchanged s₀ s') ∨
        (created = (done ++ flows).map env.generated ∧
          ∀ flow ∈ done ++ flows, HasFlow env request kPerFlow s₀ s' flow)) := by
  induction flows generalizing s done with
  | nil => exact ⟨s, _, rfl, Or.inr ⟨by rw [List.append_nil], by rwa [List.append_nil]⟩⟩
  | cons flow flows ih =>
    obtain ⟨hmem, hnodup⟩ := List.nodup_cons.mp hnodup
    rw [createFlows, flowAddress_congr h.settings, h.settings.profileKind]
    cases haddress : s₀.flowAddress (.forKind s₀.profileKind) request.baseMulticastIP request.port
        flow with
    | none => exact ⟨_, _, rfl, Or.inl ⟨rfl, h.rollBack h₀⟩⟩
    | some address =>
    obtain ⟨flowIP, flowSourcePort⟩ := address
    have hone := hnew flow List.mem_cons_self
    obtain ⟨s', id, e, hcases⟩ := createFlow_cases env kPerFlow flowCount h haddress hone
    dsimp only
    rw [flowWidth] at e
    rw [e]
    dsimp only
    rcases hcases with ⟨rfl, hgrown⟩ | ⟨rfl, hne, hgrown, hrest, hflow⟩
    · exact ⟨_, _, rfl, Or.inl ⟨rfl, hgrown.rollBack h₀⟩⟩
    rw [if_neg (by simpa [StreamID.isNull] using hne)]
    have hmap : done.map env.generated ++ [env.generated flow] =
        (done ++ [flow]).map env.generated := by
      rw [List.map_append, List.map_singleton]
    rw [hmap] at hgrown ⊢
    have hkeep : ∀ f ∈ done, HasFlow env request kPerFlow s₀ s' f := fun f hf => by
      obtain ⟨managed, hfound, his⟩ := hdone f hf
      refine ⟨managed, (hrest _ fun he => ?_).trans hfound, his⟩
      rw [he, hone] at hfound
      cases hfound
    have hall := ih (done ++ [flow]) (hinj.mono fun f hf => List.mem_cons_of_mem _ hf) hnodup
      (fun f hf => ?_) hgrown (fun f hf => ?_)
    · rwa [List.append_assoc] at hall
    · refine (hrest _ fun he => ?_).trans (hnew f (List.mem_cons_of_mem _ hf))
      exact hmem (hinj (List.mem_cons_of_mem _ hf) List.mem_cons_self he ▸ hf)
    · rcases List.mem_append.mp hf with hf | hf
      · exact hkeep f hf
      · rw [List.mem_singleton.mp hf]
        exact hflow

/-! ## The whole group -/

/-- The flows of a group share out its channels: block after block from where the mapping starts,
none empty, none wider than the profile and the driver allow or than one packet holds at the
device's rate, and each told apart from the others. -/
structure SharedOut (s : StreamManager) (request : FlowRequest) (flows : List ManagedStream) :
    Prop where
  covers : flows.flatMap (fun flow => flow.mapping.deviceChannels) =
    (List.range request.numChannels.toNat).map (request.mapping.deviceChannelStart + ·)
  isTransmit : ∀ flow ∈ flows, flow.isTransmit = true
  block : ∀ flow ∈ flows, flow.mapping.routes = [] ∧
    flow.mapping.streamChannelCount = flow.sdp.numChannels.toNat ∧
    flow.mapping.deviceChannelCount = flow.sdp.numChannels.toNat
  nonempty : ∀ flow ∈ flows, 0 < flow.sdp.numChannels
  narrow : ∀ flow ∈ flows,
    flow.sdp.numChannels ≤ s.channelsPerFlow (.forKind s.profileKind) ∧
    flow.sdp.numChannels ≤ (CompatibilityProfile.forKind s.profileKind).maxChannelsPerFlow ∧
    flow.sdp.numChannels ≤ kMaxChannelsPerFlow
  fits : ∀ flow ∈ flows,
    PacketBudget.fits flow.sdp.numChannels (PacketBudget.bytesPerSample "L24".toList)
      (PacketBudget.framesPerPacket (castUInt32 s.currentDeviceSampleRate) 1000 0) = true
  apart : flows.Pairwise fun a b =>
    if (CompatibilityProfile.forKind s.profileKind).useFixedMulticastWithPerFlowSourcePort then
      a.sourcePort ≠ b.sourcePort
    else a.sdp.connectionAddress ≠ b.sdp.connectionAddress

theorem toNat_min (a b : UInt16) : (min a b).toNat = min a.toNat b.toNat := by
  change (if a ≤ b then a else b).toNat = _
  split_ifs with h <;> rw [UInt16.le_iff_toNat_le] at h <;> omega

theorem channelsPerFlow_le (s : StreamManager) (profile : CompatibilityProfile) :
    (s.channelsPerFlow profile).toNat ≤ kMaxChannelsPerFlow.toNat := by
  rw [channelsPerFlow, toNat_max, toNat_min]
  exact max_le (by decide) (Nat.min_le_left _ _)

theorem mul_lt_of_lt_flowCount {kPerFlow flow : ℕ} (hk : 0 < kPerFlow)
    (h : flow < flowCount request kPerFlow) : flow * kPerFlow < request.numChannels.toNat := by
  have hle : (flow + 1) * kPerFlow ≤ request.numChannels.toNat + kPerFlow - 1 :=
    (Nat.le_div_iff_mul_le hk).mp h
  rw [Nat.succ_mul] at hle
  omega

theorem flowCount_pos {kPerFlow : ℕ} (hk : 0 < kPerFlow) (hn : request.numChannels ≠ 0) :
    0 < flowCount request kPerFlow := by
  have : request.numChannels.toNat ≠ 0 := fun h => hn (UInt16.toNat_inj.mp h)
  exact Nat.div_pos (by omega) hk

theorem le_flowCount_mul {kPerFlow : ℕ} (hk : 0 < kPerFlow) :
    request.numChannels.toNat ≤ flowCount request kPerFlow * kPerFlow := by
  rw [flowCount]
  have hmod := Nat.div_add_mod (request.numChannels.toNat + kPerFlow - 1) kPerFlow
  have hlt := Nat.mod_lt (request.numChannels.toNat + kPerFlow - 1) hk
  rw [Nat.mul_comm] at hmod
  omega

/-- Where a flow starts: the flow before it ended on the device, so the number does not wrap. -/
theorem IsFlow.start_eq {kPerFlow flow : ℕ} {managed : ManagedStream}
    (h : IsFlow s request kPerFlow flow managed) (hk : kPerFlow ≤ kMaxChannelsPerFlow.toNat)
    (hstart : request.mapping.deviceChannelStart < 2 ^ 16)
    (hbefore : ∀ i < flow, ∃ m, IsFlow s request kPerFlow i m)
    (hlt : flow * kPerFlow < request.numChannels.toNat) :
    managed.mapping.deviceChannelStart = request.mapping.deviceChannelStart + flow * kPerFlow := by
  have hwrap : request.mapping.deviceChannelStart + flow * kPerFlow < 2 ^ 16 := by
    clear h managed
    induction flow with
    | zero => simpa using hstart
    | succ flow ih =>
      rw [Nat.succ_mul] at hlt ⊢
      have hprev := ih (fun i hi => hbefore i (by omega)) (by omega)
      obtain ⟨m, hm⟩ := hbefore flow (Nat.lt_succ_self _)
      have hend := hm.valid.block_le
      rw [hm.start, Nat.mod_eq_of_lt hprev] at hend
      have hmax : kMaxChannelsPerFlow.toNat = 64 := rfl
      have hdevice : kMaxDeviceChannels = 128 := rfl
      omega
  rw [h.start, Nat.mod_eq_of_lt hwrap]

theorem sharedOut_of_isFlow {kPerFlow : ℕ} (flowOf : ℕ → ManagedStream)
    (hk : kPerFlow = (s.channelsPerFlow (.forKind s.profileKind)).toNat)
    (hstart : request.mapping.deviceChannelStart < 2 ^ 16)
    (h : ∀ flow < flowCount request kPerFlow,
      IsFlow s request kPerFlow flow (flowOf flow)) :
    SharedOut s request
      ((List.range (flowCount request kPerFlow)).map flowOf) := by
  have hpos : 0 < kPerFlow := hk ▸ s.channelsPerFlow_pos _
  have hle : kPerFlow ≤ kMaxChannelsPerFlow.toNat := hk ▸ s.channelsPerFlow_le _
  have hall : ∀ managed ∈ (List.range (flowCount request kPerFlow)).map
      flowOf, ∃ flow < flowCount request kPerFlow,
        IsFlow s request kPerFlow flow managed := by
    intro managed hm
    obtain ⟨flow, hflow, rfl⟩ := List.mem_map.mp hm
    exact ⟨flow, List.mem_range.mp hflow, h flow (List.mem_range.mp hflow)⟩
  refine ⟨?_, fun m hm => ?_, fun m hm => ?_, fun m hm => ?_, fun m hm => ?_, fun m hm => ?_, ?_⟩
  · have hblock : ∀ flow ∈ List.range (flowCount request kPerFlow),
        (flowOf flow).mapping.deviceChannels =
          ((List.range (min (request.numChannels.toNat - flow * kPerFlow) kPerFlow)).map
            (flow * kPerFlow + ·)).map (request.mapping.deviceChannelStart + ·) := by
      intro flow hflow
      rw [List.mem_range] at hflow
      have hf := h flow hflow
      rw [ChannelMapping.deviceChannels, hf.routes]
      dsimp only
      rw [hf.deviceChannelCount, hf.start_eq hle hstart (fun i hi => ⟨_, h i (hi.trans hflow)⟩)
        (mul_lt_of_lt_flowCount hpos hflow), List.map_map, flowWidth]
      exact List.map_congr_left fun i _ => Nat.add_assoc _ _ _
    rw [List.flatMap_map, List.flatMap_congr hblock, ← List.map_flatMap, flatMap_range_blocks]
    congr 2
    exact min_eq_left (le_flowCount_mul hpos)
  · obtain ⟨flow, -, hf⟩ := hall m hm
    exact hf.isTransmit
  · obtain ⟨flow, -, hf⟩ := hall m hm
    exact ⟨hf.routes, hf.streamChannelCount.trans hf.numChannels.symm,
      hf.deviceChannelCount.trans hf.numChannels.symm⟩
  · obtain ⟨flow, hflow, hf⟩ := hall m hm
    have := mul_lt_of_lt_flowCount hpos hflow
    rw [UInt16.lt_iff_toNat_lt, hf.numChannels, flowWidth]
    exact lt_min (Nat.sub_pos_of_lt this) hpos
  · obtain ⟨flow, -, hf⟩ := hall m hm
    have hwidth : m.sdp.numChannels.toNat ≤ kPerFlow := by
      rw [hf.numChannels]
      exact Nat.min_le_right _ _
    exact ⟨UInt16.le_iff_toNat_le.mpr (hk ▸ hwidth), hf.profile,
      UInt16.le_iff_toNat_le.mpr (hwidth.trans hle)⟩
  · obtain ⟨flow, -, hf⟩ := hall m hm
    exact hf.fits
  · rw [List.pairwise_map]
    refine List.pairwise_lt_range.imp_of_mem fun {i j} hi hj hij => ?_
    rw [List.mem_range] at hi hj
    have hbound : ∀ flow < flowCount request kPerFlow,
        flow < 2 ^ 32 := fun flow hflow => by
      have := mul_lt_of_lt_flowCount hpos hflow
      have := Nat.le_mul_of_pos_right flow hpos
      have := request.numChannels.toNat_lt
      omega
    exact flowAddress_ne (h i hi).address (h j hj).address (hbound i hi) (hbound j hj) hij.ne

/-- What may come of asking for a group. -/
structure AllOrNothing (s : StreamManager) (request : FlowRequest)
    (result : StreamManager × List StreamID) : Prop where
  all : result.2 ≠ [] → ∃ flows : List ManagedStream,
    result.2.map result.1.streams.find? = flows.map some ∧ SharedOut s request flows
  nothing : result.2 = [] → Unchanged s result.1

theorem allOrNothing_of_books (h : Books s)
    (fresh : Fresh s (.createTxStreamFlows env request))
    (hstart : request.mapping.deviceChannelStart < 2 ^ 16) :
    AllOrNothing s request (s.createTxStreamFlows env request) := by
  rw [createTxStreamFlows]
  split_ifs with hn
  · exact ⟨fun hne => absurd rfl hne, fun _ => ⟨rfl, rfl, rfl, rfl⟩⟩
  have hk := s.channelsPerFlow_pos (.forKind s.profileKind)
  have hlt := lt_of_mem_flows hk request.numChannels.toNat
  obtain ⟨s', created, e, hcases⟩ := createFlows_cases h [] (fresh.1.mono hlt)
    List.nodup_range (fun flow hmem => fresh.2 flow (hlt flow hmem))
    ⟨h, .refl s, fun id => by simp⟩ (by simp)
  rw [List.map_nil] at e
  rw [e]
  rcases hcases with ⟨rfl, hunchanged⟩ | ⟨rfl, hflows⟩
  · exact ⟨fun hne => absurd rfl hne, fun _ => hunchanged⟩
  rw [List.nil_append] at hflows ⊢
  have : Nonempty ManagedStream := ⟨{ sdp := {}, mapping := {}, rtp := { sdp := {}, mapping := {} } }⟩
  choose! flowOf hflowOf using hflows
  refine ⟨fun _ => ⟨_, ?_, sharedOut_of_isFlow flowOf rfl hstart fun flow hflow =>
    (hflowOf flow (List.mem_range.mpr hflow)).2⟩, fun hnil => ?_⟩
  · rw [List.map_map, List.map_map]
    exact List.map_congr_left fun flow hflow => (hflowOf flow hflow).1
  · rw [List.map_eq_nil_iff, List.range_eq_nil] at hnil
    exact absurd hnil (flowCount_pos hk hn).ne'

/-- **All or nothing**: in every state of every run, a group is created in flows that share out its
channels, or the streams, the mapper and the totals are as before. The mapping starts at a number
of sixteen bits. -/
theorem createTxStreamFlows_allOrNothing (ops : List Op) (env : Env) (request : FlowRequest)
    (fresh : Along step Fresh {} ops)
    (next : Fresh (ops.foldl step {}) (.createTxStreamFlows env request))
    (hstart : request.mapping.deviceChannelStart < 2 ^ 16) :
    AllOrNothing (ops.foldl step {}) request
      ((ops.foldl step {}).createTxStreamFlows env request) :=
  allOrNothing_of_books (always_books fresh).run next hstart

/-- Ten channels at 48 kHz are a flow of eight and a flow of two. -/
theorem tenChannels_allOrNothing : AllOrNothing
    ([.addStream (numbered 1) (stereo "a" "239.1.1.1")].foldl step {}) tenChannels
    (([.addStream (numbered 1) (stereo "a" "239.1.1.1")].foldl step {}).createTxStreamFlows
      (numbered 2) tenChannels) := by
  refine createTxStreamFlows_allOrNothing _ _ _ ⟨trivial, trivial⟩ ⟨numbered_injOn (by decide), ?_⟩
    (by decide)
  decide +kernel

end StreamManager

end Aes67
