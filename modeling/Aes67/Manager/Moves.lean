import Aes67.Manager.Follow

/-!
# What one call can do

Every call on the manager comes down to a few moves: a stream is kept, or is tried and gives its
channels back, or is taken out; all of them are; a stream is remapped; the device starts, stops or
changes its rate. A property that the moves keep holds throughout every run.

* `keep`, `enlist_eq`: what letting a stream in does to the whole manager;
* `LetIn`, `loadStream_eq`: which stream of a saved file is let in;
* `Move`: the moves, under a condition on the streams that are kept; `Move.sameOptions`;
* **`kept_step`**: a property that every move keeps is kept by every call.
-/

namespace Aes67.StreamManager

open Sdp (SDPSession)

variable {s s' : StreamManager} {env : Env} {A : StreamManager → SDPSession → Bool → Prop}
  {P : StreamManager → Prop}

/-! ## Letting a stream in -/

/-- The manager with a stream kept, and its channels the mapper's. -/
def keep (s : StreamManager) (mapper : Mapper) (managed : ManagedStream) : StreamManager :=
  let held : StreamManager :=
    { s with mapper := mapper, streams := s.streams.insert managed.mapping.streamID managed }
  (held.countChannels managed.isTransmit (· + managed.sdp.numChannels.toUInt32)).adoptGrandmaster
    managed.sdp.ptpMasterMAC

theorem keep_eq (s : StreamManager) (mapper : Mapper) (managed : ManagedStream) :
    s.keep mapper managed =
      { s with
        mapper := mapper
        streams := s.streams.insert managed.mapping.streamID managed
        rxChannelsInUse := if managed.isTransmit then s.rxChannelsInUse
          else s.rxChannelsInUse + managed.sdp.numChannels.toUInt32
        txChannelsInUse := if managed.isTransmit then
          s.txChannelsInUse + managed.sdp.numChannels.toUInt32 else s.txChannelsInUse
        activeGrandmaster := if managed.sdp.ptpMasterMAC ≠ [] ∧ s.activeGrandmaster = [] then
          managed.sdp.ptpMasterMAC else s.activeGrandmaster } := by
  unfold keep countChannels adoptGrandmaster
  cases managed.isTransmit <;> simp only [if_true, if_false, Bool.false_eq_true] <;> split_ifs <;> rfl

@[simp] theorem keep_mapper (s : StreamManager) (mapper : Mapper) (managed : ManagedStream) :
    (s.keep mapper managed).mapper = mapper := by
  rw [keep_eq]

@[simp] theorem keep_streams (s : StreamManager) (mapper : Mapper) (managed : ManagedStream) :
    (s.keep mapper managed).streams = s.streams.insert managed.mapping.streamID managed := by
  rw [keep_eq]

theorem keep_activeGrandmaster (s : StreamManager) (mapper : Mapper) (managed : ManagedStream) :
    (s.keep mapper managed).activeGrandmaster =
      if managed.sdp.ptpMasterMAC ≠ [] ∧ s.activeGrandmaster = [] then managed.sdp.ptpMasterMAC
      else s.activeGrandmaster := by
  rw [keep_eq]

/-- A stream as it is first kept: its RTP object has its session and its mapping, and runs only
where it could be started. -/
structure Opened (managed : ManagedStream) : Prop where
  rtp_sdp : managed.rtp.sdp = managed.sdp
  rtp_mapping : managed.rtp.mapping = managed.mapping
  ready : managed.rtp.running = true → Startable managed.sdp

/-- **Letting a stream in, in full**: it is refused, or fails to start and its channels are given
back, or is kept. -/
theorem enlist_eq (s : StreamManager) (sdp : SDPSession) (mapping : ChannelMapping)
    (isTransmit : Bool) (sourcePort : UInt16) (opens : Bool) :
    s.enlist sdp mapping isTransmit sourcePort opens = (s, false) ∨
    (∃ mapper, s.mapper.addMapping mapping = (mapper, true) ∧
      s.enlist sdp mapping isTransmit sourcePort opens =
        ({ s with mapper := (mapper.removeMapping mapping.streamID).1 }, false)) ∨
    ∃ mapper rtp, s.mapper.addMapping mapping = (mapper, true) ∧
      Opened { sdp, mapping, rtp, isTransmit, sourcePort } ∧
      s.enlist sdp mapping isTransmit sourcePort opens =
        (s.keep mapper { sdp, mapping, rtp, isTransmit, sourcePort }, true) := by
  rw [enlist]
  rcases hadd : s.mapper.addMapping mapping with ⟨mapper, _ | _⟩
  · exact Or.inl rfl
  dsimp only
  by_cases hio : s.ioActive = true
  · rw [if_pos hio]
    rcases start_cases { sdp, mapping } opens with e | ⟨hready, -, e⟩
    · rw [e]
      exact Or.inr (Or.inl ⟨mapper, rfl, rfl⟩)
    · rw [e]
      exact Or.inr (Or.inr ⟨mapper, { sdp, mapping, running := true }, rfl,
        ⟨rfl, rfl, fun _ => hready⟩, rfl⟩)
  · rw [if_neg hio]
    exact Or.inr (Or.inr ⟨mapper, { sdp, mapping }, rfl, ⟨rfl, rfl, fun hr => by cases hr⟩, rfl⟩)

/-! ### From a file -/

/-- A session that a stream can be opened on is kept exactly when the mapper takes its mapping and
the socket opens where it has to. -/
theorem enlist_kept_iff (s : StreamManager) {sdp : SDPSession} (mapping : ChannelMapping)
    (isTransmit : Bool) (sourcePort : UInt16) (opens : Bool) (hs : Startable sdp) :
    (s.enlist sdp mapping isTransmit sourcePort opens).2 = true ↔
      s.mapper.accepts mapping = true ∧ (s.ioActive = true → opens = true) := by
  rw [enlist]
  rcases s.mapper.addMapping_cases mapping with ⟨ha, e⟩ | ⟨ha, e⟩
  · rw [e, ha]
    simp
  · rw [e, ha]
    dsimp only
    by_cases hio : s.ioActive = true
    · rw [if_pos hio]
      cases opens with
      | true =>
        have hstart : Rtp.start { sdp := sdp, mapping := mapping } true = _ :=
          start_of_startable rfl hs
        rw [hstart]
        simp
      | false =>
        rcases start_cases { sdp := sdp, mapping := mapping } false with hstart | ⟨-, h, -⟩
        · rw [hstart]
          simp [hio]
        · cases h
    · rw [if_neg hio]
      simp [hio]

/-- A saved stream is let in; the check is the one of a receive stream whatever the stream is. -/
structure LetIn (env : Env) (s : StreamManager) (c : PersistedStreamConfig × ℕ) : Prop where
  enabled : c.1.enabled = true
  valid : c.1.isValid = true
  checked : s.canAddStream env.isLocked c.1.sdp false = .ok ()
  new : s.streams.find? c.1.mapping.streamID = none
  accepted : s.mapper.accepts c.1.mapping = true
  opens : s.ioActive = true → env.opens c.2 = true

/-- **A saved stream is kept exactly when it is let in.** -/
theorem loadStream_eq (s : StreamManager) (env : Env) (c : PersistedStreamConfig × ℕ) :
    (¬ LetIn env s c ∧ (s.loadStream env c.1 (env.opens c.2) = (s, false) ∨
      ∃ mapper, s.mapper.addMapping c.1.mapping = (mapper, true) ∧
        s.streams.find? c.1.mapping.streamID = none ∧
        s.loadStream env c.1 (env.opens c.2) =
          ({ s with mapper := (mapper.removeMapping c.1.mapping.streamID).1 }, false))) ∨
    (LetIn env s c ∧ ∃ mapper rtp, s.mapper.addMapping c.1.mapping = (mapper, true) ∧
      Opened { sdp := c.1.sdp, mapping := c.1.mapping, rtp, isTransmit := c.1.isTransmit } ∧
      s.loadStream env c.1 (env.opens c.2) =
        (s.keep mapper
          { sdp := c.1.sdp, mapping := c.1.mapping, rtp, isTransmit := c.1.isTransmit }, true)) := by
  rw [loadStream]
  split
  · next h => exact Or.inl ⟨fun hin => by simp [hin.enabled] at h, Or.inl rfl⟩
  next henabled =>
  split
  · next h => exact Or.inl ⟨fun hin => by simp [hin.valid] at h, Or.inl rfl⟩
  next hvalid =>
  split
  · next h => exact Or.inl ⟨fun hin => (by rw [hin.checked] at h; cases h), Or.inl rfl⟩
  next hcan =>
  split_ifs with hlive
  · exact Or.inl ⟨fun hin => by simp [hin.new] at hlive, Or.inl rfl⟩
  have hnew : s.streams.find? c.1.mapping.streamID = none := by simpa using hlive
  obtain ⟨-, hchannels, -, hnetwork, -⟩ := canAddStream_eq_ok.mp hcan
  have hkept := s.enlist_kept_iff c.1.mapping c.1.isTransmit 0 (env.opens c.2)
    (startable_of_checks hchannels hnetwork)
  rcases s.enlist_eq c.1.sdp c.1.mapping c.1.isTransmit 0 (env.opens c.2) with
    e | ⟨mapper, hadd, e⟩ | ⟨mapper, rtp, hadd, hopened, e⟩
  · rw [e] at hkept ⊢
    exact Or.inl ⟨fun hin => Bool.noConfusion (hkept.mpr ⟨hin.accepted, hin.opens⟩), Or.inl rfl⟩
  · rw [e] at hkept ⊢
    exact Or.inl ⟨fun hin => Bool.noConfusion (hkept.mpr ⟨hin.accepted, hin.opens⟩),
      Or.inr ⟨mapper, hadd, hnew, rfl⟩⟩
  · rw [e] at hkept ⊢
    obtain ⟨haccepted, hopens⟩ := hkept.mp rfl
    exact Or.inr ⟨⟨by simpa using henabled, by simpa using hvalid, hcan, hnew, haccepted, hopens⟩,
      mapper, rtp, hadd, hopened, rfl⟩

/-! ## Taking a stream out, and remapping one -/

theorem removeStream_of_none {id : StreamID} (hn : s.streams.find? id = none) :
    s.removeStream id = (s, false) := by
  rw [removeStream, hn]

theorem removeStream_of_find? {id : StreamID} {managed : ManagedStream}
    (hf : s.streams.find? id = some managed) : s.removeStream id =
      (recomputeActiveGrandmaster { s with
        mapper := (s.mapper.removeMapping id).1
        streams := s.streams.erase id
        rxChannelsInUse := if managed.isTransmit then s.rxChannelsInUse
          else s.rxChannelsInUse - managed.sdp.numChannels.toUInt32
        txChannelsInUse := if managed.isTransmit then
          s.txChannelsInUse - managed.sdp.numChannels.toUInt32 else s.txChannelsInUse }, true) := by
  rw [removeStream, hf]
  unfold countChannels
  dsimp only
  cases managed.isTransmit <;> rfl

theorem removeStream_streams (s : StreamManager) (id : StreamID) :
    (s.removeStream id).1.streams = s.streams.erase id := by
  cases hf : s.streams.find? id with
  | some managed =>
    rw [removeStream_of_find? hf]
    rfl
  | none =>
    rw [removeStream_of_none hf]
    refine OrdMap.ext_find? fun id' => ?_
    rw [OrdMap.find?_erase]
    split_ifs with h
    · rw [h, hf]
    · rfl

/-- Remapping changes the mapper and the stream, of which the session and the direction stay. -/
theorem updateMapping_eq (s : StreamManager) (id : StreamID) (newMapping : ChannelMapping)
    (opens : Bool) : (s.updateMapping id newMapping opens).1 = s ∨
    ∃ managed managed' mapper, s.streams.find? id = some managed ∧ managed'.sdp = managed.sdp ∧
      managed'.isTransmit = managed.isTransmit ∧ (s.updateMapping id newMapping opens).1 =
        { s with mapper := mapper, streams := s.streams.insert id managed' } := by
  rw [updateMapping]
  cases hf : s.streams.find? id with
  | none => exact Or.inl rfl
  | some managed =>
  dsimp only
  rcases s.mapper.updateMapping (completed id managed newMapping) with ⟨mapper, _ | _⟩
  · exact Or.inl rfl
  dsimp only
  rcases managed.rtp.updateMapping (completed id managed newMapping) opens with ⟨rtp, _ | _⟩
  · exact Or.inr ⟨managed, { managed with rtp := rtp }, _, rfl, rfl, rfl, rfl⟩
  · exact Or.inr ⟨managed, { managed with rtp := rtp, mapping := completed id managed newMapping },
      mapper, rfl, rfl, rfl, rfl⟩

/-! ## Moves -/

/-- One move. A stream that is kept meets `A` in the manager that lets it in. -/
inductive Move (A : StreamManager → SDPSession → Bool → Prop) :
    StreamManager → StreamManager → Prop
  | tried {s : StreamManager} {mapping : ChannelMapping} {mapper : Mapper}
      (added : s.mapper.addMapping mapping = (mapper, true))
      (new : s.streams.find? mapping.streamID = none) :
      Move A s { s with mapper := (mapper.removeMapping mapping.streamID).1 }
  | kept {s : StreamManager} {managed : ManagedStream} {mapper : Mapper}
      (added : s.mapper.addMapping managed.mapping = (mapper, true))
      (new : s.streams.find? managed.mapping.streamID = none) (opened : Opened managed)
      (admitted : A s managed.sdp managed.isTransmit) : Move A s (s.keep mapper managed)
  | removed {s : StreamManager} (id : StreamID) : Move A s (s.removeStream id).1
  | cleared {s : StreamManager} : Move A s s.removeAllStreams
  | remapped {s : StreamManager} (id : StreamID) (newMapping : ChannelMapping) (opens : Bool) :
      Move A s (s.updateMapping id newMapping opens).1
  | switched {s : StreamManager} (active : Bool) (opens : StreamID → Bool) :
      Move A s (s.setIOActive active opens)
  | retuned {s : StreamManager} (sampleRate : Double) : Move A s (s.setDeviceSampleRate sampleRate).1

/-- The limits on the channels of a direction are the same. -/
structure SameLimits (s s' : StreamManager) : Prop where
  profileKind : s'.profileKind = s.profileKind
  usableRxChannelCount : s'.usableRxChannelCount = s.usableRxChannelCount
  usableTxChannelCount : s'.usableTxChannelCount = s.usableTxChannelCount

/-- The options that a stream depends on are the same. -/
structure SameOptions (s s' : StreamManager) : Prop extends SameLimits s s' where
  txFlowPortOffset : s'.txFlowPortOffset = s.txFlowPortOffset
  ignoreRefClockMismatch : s'.ignoreRefClockMismatch = s.ignoreRefClockMismatch

theorem SameLimits.trans {s₁ : StreamManager} (h : SameLimits s s₁) (h' : SameLimits s₁ s') :
    SameLimits s s' :=
  ⟨h'.profileKind.trans h.profileKind, h'.usableRxChannelCount.trans h.usableRxChannelCount,
    h'.usableTxChannelCount.trans h.usableTxChannelCount⟩

theorem SameLimits.symm (h : SameLimits s s') : SameLimits s' s :=
  ⟨h.profileKind.symm, h.usableRxChannelCount.symm, h.usableTxChannelCount.symm⟩

theorem SameOptions.refl (s : StreamManager) : SameOptions s s := ⟨⟨rfl, rfl, rfl⟩, rfl, rfl⟩

theorem SameOptions.trans {s₁ : StreamManager} (h : SameOptions s s₁) (h' : SameOptions s₁ s') :
    SameOptions s s' :=
  ⟨h.toSameLimits.trans h'.toSameLimits, h'.txFlowPortOffset.trans h.txFlowPortOffset,
    h'.ignoreRefClockMismatch.trans h.ignoreRefClockMismatch⟩

theorem sameOptions_keep (s : StreamManager) (mapper : Mapper) (managed : ManagedStream) :
    SameOptions s (s.keep mapper managed) := by
  rw [keep_eq]
  exact ⟨⟨rfl, rfl, rfl⟩, rfl, rfl⟩

theorem sameOptions_removeStream (s : StreamManager) (id : StreamID) :
    SameOptions s (s.removeStream id).1 := by
  cases hf : s.streams.find? id with
  | none =>
    rw [removeStream_of_none hf]
    exact .refl s
  | some managed =>
    rw [removeStream_of_find? hf]
    exact ⟨⟨rfl, rfl, rfl⟩, rfl, rfl⟩

/-- **No move touches an option.** -/
theorem Move.sameOptions (hm : Move A s s') : SameOptions s s' := by
  cases hm with
  | tried added new => exact ⟨⟨rfl, rfl, rfl⟩, rfl, rfl⟩
  | kept added new opened admitted => exact sameOptions_keep _ _ _
  | removed id => exact sameOptions_removeStream s id
  | cleared => exact ⟨⟨rfl, rfl, rfl⟩, rfl, rfl⟩
  | remapped id newMapping opens =>
    rcases s.updateMapping_eq id newMapping opens with e | ⟨managed, managed', mapper, -, -, -, e⟩
    · rw [e]
      exact .refl s
    · rw [e]
      exact ⟨⟨rfl, rfl, rfl⟩, rfl, rfl⟩
  | switched active opens =>
    rw [setIOActive]
    split_ifs <;> exact ⟨⟨rfl, rfl, rfl⟩, rfl, rfl⟩
  | retuned sampleRate =>
    rw [setDeviceSampleRate]
    split_ifs <;> exact ⟨⟨rfl, rfl, rfl⟩, rfl, rfl⟩

section Kept

variable (closed : ∀ s s', Move A s s' → P s → P s')

include closed

theorem kept_enlist (h : P s) (sdp : SDPSession) (mapping : ChannelMapping) (t : Bool)
    (sourcePort : UInt16) (opens : Bool) (hnew : s.streams.find? mapping.streamID = none)
    (ha : A s sdp t) : P (s.enlist sdp mapping t sourcePort opens).1 := by
  rcases s.enlist_eq sdp mapping t sourcePort opens with
    e | ⟨mapper, hadd, e⟩ | ⟨mapper, rtp, hadd, hopened, e⟩
  · rw [e]
    exact h
  · rw [e]
    exact closed _ _ (.tried hadd hnew) h
  · rw [e]
    exact closed _ _ (.kept hadd hnew hopened ha) h

theorem kept_rollBack (h : P s) (created : List StreamID) : P (s.rollBack created) := by
  induction created generalizing s with
  | nil => exact h
  | cons id created ih => exact ih (closed _ _ (.removed id) h)

theorem kept_loadStream (h : P s) (c : PersistedStreamConfig × ℕ)
    (ha : LetIn env s c → A s c.1.sdp c.1.isTransmit) :
    P (s.loadStream env c.1 (env.opens c.2)).1 := by
  rcases s.loadStream_eq env c with ⟨-, e | ⟨mapper, hadd, hnew, e⟩⟩ |
    ⟨hin, mapper, rtp, hadd, hopened, e⟩
  · rw [e]
    exact h
  · rw [e]
    exact closed _ _ (.tried hadd hnew) h
  · rw [e]
    exact closed _ _ (.kept hadd hin.new hopened (ha hin)) h

/-! ### Streams that are asked about in their own direction -/

variable (own : ∀ (s : StreamManager) (isLocked : Int32 → Bool) (sdp : SDPSession) (t : Bool),
  s.canAddStream isLocked sdp t = .ok () → A s sdp t)

include own

theorem kept_addStreamWith (h : P s) (isLocked : Int32 → Bool) (sdp : SDPSession)
    (mapping : ChannelMapping) (generated : StreamID) (opens : Bool) :
    P (s.addStreamWith isLocked sdp mapping generated opens).1 := by
  rw [addStreamWith]
  split
  · exact h
  next hcan =>
  split_ifs with hlive
  · exact h
  have hs := kept_enlist closed h sdp { mapping with
      streamID := generated, streamName := sdp.sessionName,
      streamChannelCount := sdp.numChannels.toNat, deviceChannelCount := sdp.numChannels.toNat }
    false 0 opens (by simpa using hlive) (own s isLocked sdp false hcan)
  dsimp only
  split
  · next e => rw [e] at hs; exact hs
  · next e => rw [e] at hs; exact hs

theorem kept_createTxStream (h : P s) (env : Env) (name multicastIP : Text) (port numChannels : UInt16)
    (mapping : ChannelMapping) (sourcePort : UInt16) (dscp : Int32) (generated : StreamID)
    (opens : Bool) (hnew : s.streams.find? generated = none) :
    P (s.createTxStream env name multicastIP port numChannels mapping sourcePort dscp
      generated opens).1 := by
  rw [createTxStream]
  dsimp only
  split
  · exact h
  next hcan =>
  have hs := kept_enlist closed h (announcedTxSession name multicastIP port numChannels
      (castUInt32 s.currentDeviceSampleRate) dscp env.time)
    { mapping with
      streamID := generated, streamName := name,
      streamChannelCount := numChannels.toNat, deviceChannelCount := numChannels.toNat }
    true sourcePort opens hnew (own s env.isLocked _ true hcan)
  split
  · next e => rw [e] at hs; exact hs
  · next e => rw [e] at hs; exact hs

theorem kept_createFlows {request : FlowRequest} {kPerFlow flowCount : ℕ} {flows : List ℕ}
    (hinj : Set.InjOn env.generated {flow | flow ∈ flows}) (hnodup : flows.Nodup) (h : P s)
    (hnew : ∀ flow ∈ flows, s.streams.find? (env.generated flow) = none)
    (created : List StreamID) :
    P (createFlows env request kPerFlow flowCount flows s created).1 := by
  induction flows generalizing s created with
  | nil => exact h
  | cons flow flows ih =>
    obtain ⟨hmem, hnodup⟩ := List.nodup_cons.mp hnodup
    rw [createFlows]
    split
    · exact kept_rollBack closed h created
    · dsimp only
      have hone := hnew flow List.mem_cons_self
      have hs := fun name flowIP numChannels mapping port =>
        kept_createTxStream closed own h env name flowIP request.port numChannels mapping
          port request.dscp (env.generated flow) (env.opens flow) hone
      split_ifs
      · exact kept_rollBack closed (hs _ _ _ _ _) created
      · refine ih (hinj.mono fun f hf => List.mem_cons_of_mem _ hf) hnodup (hs _ _ _ _ _)
          (fun f hf => ?_) _
        refine find?_createTxStream (fun e => ?_) (hnew f (List.mem_cons_of_mem _ hf))
        exact hmem (hinj (List.mem_cons_of_mem _ hf) List.mem_cons_self e ▸ hf)

theorem kept_repoint (pending : List (Repoint × ℕ)) (h : P s) (followed : ℕ) :
    P (repoint env pending s followed).1 := by
  induction pending generalizing s followed with
  | nil => exact h
  | cons e pending ih =>
    obtain ⟨p, k⟩ := e
    rw [repoint]
    have hr := closed _ _ (.removed p.id) h
    split
    · next hrem =>
      rw [hrem] at hr
      exact ih hr followed
    · next hrem =>
      rw [hrem] at hr
      exact ih (kept_addStreamWith closed own hr env.isLocked p.newSdp _ _ _) _

/-- The calls that only set an option of the manager. -/
def Op.IsSetting : Op → Prop
  | .setCompatibilityProfile _ | .setUsableChannelCount _ | .setUsableTxChannelCount _
  | .setTxFlowPortOffset _ | .setAutoSinkFollow _ | .setPTPEnabled _ | .setRequirePTPLock _
  | .setIgnoreRefClockMismatch _ => True
  | _ => False

/-- Each stream of a saved file that is let in meets `A`, when its turn comes. -/
def Restorable (A : StreamManager → SDPSession → Bool → Prop) (env : Env) (s : StreamManager)
    (c : PersistedStreamConfig × ℕ) : Prop :=
  LetIn env s c → A s c.1.sdp c.1.isTransmit

/-- The streams of a saved file one after another. -/
def restoreStep (env : Env) (s : StreamManager) (c : PersistedStreamConfig × ℕ) : StreamManager :=
  (s.loadStream env c.1 (env.opens c.2)).1

/-- **A property that every move keeps is kept by every call.** -/
theorem kept_step (h : P s) {op : Op} (fresh : Fresh s op)
    (restored : ∀ env configs, op = .loadSavedStreams env (some configs) →
      Along (restoreStep env) (Restorable A env) s configs.zipIdx)
    (setting : op.IsSetting → P (s.step op)) : P (s.step op) := by
  cases op with
  | addStream env sdp =>
    change P (s.addStream env.isLocked sdp (env.generated 0) (env.opens 0)).1
    rw [addStream]
    split
    · exact h
    · exact kept_addStreamWith closed own h _ _ _ _ _
  | addStreamWith env sdp mapping => exact kept_addStreamWith closed own h _ _ _ _ _
  | createTxStream env name multicastIP port numChannels mapping sourcePort dscp =>
    exact kept_createTxStream closed own h env _ _ _ _ _ _ _ _ _ fresh
  | createTxStreamFlows env request =>
    change P (s.createTxStreamFlows env request).1
    rw [createTxStreamFlows]
    split_ifs
    · exact h
    · have hlt := lt_of_mem_flows (s.channelsPerFlow_pos (.forKind s.profileKind))
        request.numChannels.toNat
      exact kept_createFlows closed own (fresh.1.mono hlt) List.nodup_range h
        (fun flow hmem => fresh.2 flow (hlt flow hmem)) []
  | updateMapping env id newMapping => exact closed _ _ (.remapped id newMapping _) h
  | removeStream id => exact closed _ _ (.removed id) h
  | removeAllStreams => exact closed _ _ .cleared h
  | loadSavedStreams env configs =>
    cases configs with
    | none => exact h
    | some configs =>
      have hall : Always (restoreStep env) P s configs.zipIdx :=
        always_of_along (fun s c h hc => kept_loadStream closed h c hc) h
          (restored env configs rfl)
      exact hall.run
  | updateReceiveStreamsFromAnnouncement env announced trigger =>
    change P (s.updateReceiveStreamsFromAnnouncement env announced trigger).1
    rw [updateReceiveStreamsFromAnnouncement]
    split_ifs
    · exact h
    · exact h
    · exact kept_repoint closed own _ h 0
  | setIOActive active opens => exact closed _ _ (.switched active opens) h
  | setDeviceSampleRate sampleRate => exact closed _ _ (.retuned sampleRate) h
  | setCompatibilityProfile _ | setUsableChannelCount _ | setUsableTxChannelCount _
  | setTxFlowPortOffset _ | setAutoSinkFollow _ | setPTPEnabled _ | setRequirePTPLock _
  | setIgnoreRefClockMismatch _ => exact setting trivial

end Kept

end Aes67.StreamManager
