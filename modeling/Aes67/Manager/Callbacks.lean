import Aes67.Manager.Moves

/-!
# The callbacks of the manager

The manager says of every stream that it is added, and of every one that it is removed.

* `described`: the sessions of the streams, each with its direction;
* `Op.raises`: whether a call raises a callback;
* **`described_step`**: a call that raises none leaves the sessions what they were.
-/

namespace Aes67.StreamManager

open Sdp (SDPSession)

variable {s s' : StreamManager} {env : Env}

/-! ## Calls that raise one -/

section Raises

variable (s : StreamManager)

/-- `addStream` with a mapping keeps the stream. -/
def addsWith (isLocked : Int32 → Bool) (sdp : SDPSession) (mapping : ChannelMapping)
    (generated : StreamID) (opens : Bool) : Bool :=
  match s.canAddStream isLocked sdp false with
  | .error _ => false
  | .ok _ =>
    (s.streams.find? generated).isNone &&
      (s.enlist sdp { mapping with
        streamID := generated, streamName := sdp.sessionName,
        streamChannelCount := sdp.numChannels.toNat, deviceChannelCount := sdp.numChannels.toNat }
        false 0 opens).2

/-- `addStream` keeps the stream. -/
def adds (isLocked : Int32 → Bool) (sdp : SDPSession) (generated : StreamID) (opens : Bool) : Bool :=
  match s.mapper.createDefaultMapping .null sdp.sessionName sdp.numChannels.toNat with
  | none => false
  | some mapping => s.addsWith isLocked sdp mapping generated opens

/-- `createTxStream` keeps the stream. -/
def creates (env : Env) (name multicastIP : Text) (port numChannels : UInt16) (mapping : ChannelMapping)
    (sourcePort : UInt16) (dscp : Int32) (generated : StreamID) (opens : Bool) : Bool :=
  let sdp := announcedTxSession name multicastIP port numChannels
    (castUInt32 s.currentDeviceSampleRate) dscp env.time
  match s.canAddStream env.isLocked sdp true with
  | .error _ => false
  | .ok _ =>
    (s.enlist sdp { mapping with
      streamID := generated, streamName := name,
      streamChannelCount := numChannels.toNat, deviceChannelCount := numChannels.toNat }
      true sourcePort opens).2

/-- `createTxStreamFlows` keeps a stream, if only until a later flow fails: its first flow is kept. -/
def createsFlows (env : Env) (request : FlowRequest) : Bool :=
  let kPerFlow := (s.channelsPerFlow (.forKind s.profileKind)).toNat
  let flowCount := (request.numChannels.toNat + kPerFlow - 1) / kPerFlow
  if request.numChannels = 0 then false
  else match List.range flowCount with
    | [] => false
    | flow :: _ =>
      match s.flowAddress (.forKind s.profileKind) request.baseMulticastIP request.port flow with
      | none => false
      | some (flowIP, flowSourcePort) =>
        let flowChannels := min (request.numChannels.toNat - flow * kPerFlow) kPerFlow
        s.creates env (flowName request.baseName flow flowCount) flowIP request.port
          (.ofNat flowChannels) (flowMapping request.mapping kPerFlow flow flowChannels)
          flowSourcePort request.dscp (env.generated flow) (env.opens flow)

/-- `updateReceiveStreamsFromAnnouncement` takes a sink out. -/
def takesAlong (announced : SDPSession) (trigger : RepointTrigger) : Bool :=
  if trigger = .announcement ∧ !s.autoSinkFollowEnabled then false
  else if announced.sessionName = [] then false
  else !(s.matching announced).isEmpty

/-- The call raises the callback of an added stream or that of a removed one. -/
def raises : Op → Bool
  | .addStream env sdp => s.adds env.isLocked sdp (env.generated 0) (env.opens 0)
  | .addStreamWith env sdp mapping =>
    s.addsWith env.isLocked sdp mapping (env.generated 0) (env.opens 0)
  | .createTxStream env name multicastIP port numChannels mapping sourcePort dscp =>
    s.creates env name multicastIP port numChannels mapping sourcePort dscp (env.generated 0)
      (env.opens 0)
  | .createTxStreamFlows env request => s.createsFlows env request
  | .removeStream id => (s.streams.find? id).isSome
  | .removeAllStreams => !s.streams.entries.isEmpty
  | .loadSavedStreams env configs => s.loadedSavedStreams env configs
  | .updateReceiveStreamsFromAnnouncement _ announced trigger => s.takesAlong announced trigger
  | _ => false

/-- One of the calls does, in the manager it meets. -/
def raisesAmong (s : StreamManager) : List Op → Bool
  | [] => false
  | op :: ops => s.raises op || raisesAmong (s.step op) ops

end Raises

/-! ## The sessions -/

/-- The sessions of the streams, each with its direction. -/
def described (s : StreamManager) : OrdMap StreamID (Bool × SDPSession) :=
  s.streams.mapValues fun managed => (managed.isTransmit, managed.sdp)

theorem described_congr (h : s'.streams = s.streams) : s'.described = s.described := by
  rw [described, h]
  rfl

theorem streams_enlist {sdp : SDPSession} {mapping : ChannelMapping} {t : Bool} {sourcePort : UInt16}
    {opens : Bool} (h : (s.enlist sdp mapping t sourcePort opens).2 = false) :
    (s.enlist sdp mapping t sourcePort opens).1.streams = s.streams := by
  rcases s.enlist_eq sdp mapping t sourcePort opens with e | ⟨mapper, -, e⟩ | ⟨mapper, rtp, -, -, e⟩
  · rw [e]
  · rw [e]
  · rw [e] at h
    cases h

theorem streams_addStreamWith {isLocked : Int32 → Bool} {sdp : SDPSession} {mapping : ChannelMapping}
    {generated : StreamID} {opens : Bool} (h : s.addsWith isLocked sdp mapping generated opens = false) :
    (s.addStreamWith isLocked sdp mapping generated opens).1.streams = s.streams := by
  rw [addsWith] at h
  rw [addStreamWith]
  split
  · rfl
  next hcan =>
  rw [hcan] at h
  dsimp only at h
  split_ifs with hlive
  · rfl
  rw [Option.not_isSome_iff_eq_none.mp hlive, Option.isNone_none, Bool.true_and] at h
  have hstreams := streams_enlist h
  dsimp only
  split
  · next e => rw [e] at hstreams; exact hstreams
  · next e => rw [e] at hstreams; exact hstreams

theorem streams_addStream {isLocked : Int32 → Bool} {sdp : SDPSession} {generated : StreamID}
    {opens : Bool} (h : s.adds isLocked sdp generated opens = false) :
    (s.addStream isLocked sdp generated opens).1.streams = s.streams := by
  rw [adds] at h
  rw [addStream]
  split
  · rfl
  next hmapping =>
  rw [hmapping] at h
  exact streams_addStreamWith h

/-- A stream that is not kept leaves the others, and has no identifier. -/
theorem createTxStream_of_not_creates {name multicastIP : Text} {port numChannels : UInt16}
    {mapping : ChannelMapping} {sourcePort : UInt16} {dscp : Int32} {generated : StreamID} {opens : Bool}
    (h : s.creates env name multicastIP port numChannels mapping sourcePort dscp generated opens =
      false) :
    (s.createTxStream env name multicastIP port numChannels mapping sourcePort dscp generated
        opens).1.streams = s.streams ∧
      (s.createTxStream env name multicastIP port numChannels mapping sourcePort dscp generated
        opens).2 = .null := by
  rw [creates] at h
  rw [createTxStream]
  dsimp only at h ⊢
  split
  · exact ⟨rfl, rfl⟩
  next hcan =>
  rw [hcan] at h
  dsimp only at h
  have hstreams := streams_enlist h
  split
  · next e => rw [e] at hstreams; exact ⟨hstreams, rfl⟩
  · next e => rw [e] at h; cases h

theorem streams_createTxStreamFlows {request : FlowRequest} (h : s.createsFlows env request = false) :
    (s.createTxStreamFlows env request).1.streams = s.streams := by
  rw [createsFlows] at h
  rw [createTxStreamFlows]
  dsimp only at h ⊢
  split_ifs at h ⊢ with hnone
  · rfl
  cases hflows : List.range ((request.numChannels.toNat +
      (s.channelsPerFlow (.forKind s.profileKind)).toNat - 1) /
      (s.channelsPerFlow (.forKind s.profileKind)).toNat) with
  | nil => rfl
  | cons flow flows =>
    rw [hflows] at h
    dsimp only at h
    rw [createFlows]
    split
    · rfl
    next flowIP flowSourcePort haddress =>
    rw [haddress] at h
    dsimp only at h ⊢
    obtain ⟨hstreams, hnull⟩ := createTxStream_of_not_creates h
    rw [hnull, if_pos (by rfl : StreamID.null.isNull = true)]
    exact hstreams

theorem streams_loadedCount {configs : List (PersistedStreamConfig × ℕ)}
    (h : loadedCount env configs s = 0) :
    (configs.foldl (restoreStep env) s).streams = s.streams := by
  induction configs generalizing s with
  | nil => rfl
  | cons c configs ih =>
    rw [loadedCount] at h
    rw [List.foldl_cons, restoreStep]
    rcases s.loadStream_eq env c with ⟨-, e | ⟨mapper, -, -, e⟩⟩ | ⟨-, mapper, rtp, -, -, e⟩
    · rw [e] at h ⊢
      exact ih (by simpa using h)
    · rw [e] at h ⊢
      exact (ih (by simpa using h)).trans rfl
    · rw [e] at h
      simp at h

/-- **A call that raises no callback leaves the sessions what they were.** -/
theorem described_step {op : Op} (h : s.raises op = false) : (s.step op).described = s.described := by
  cases op with
  | addStream env sdp => exact described_congr (streams_addStream h)
  | addStreamWith env sdp mapping => exact described_congr (streams_addStreamWith h)
  | createTxStream env name multicastIP port numChannels mapping sourcePort dscp =>
    exact described_congr (createTxStream_of_not_creates h).1
  | createTxStreamFlows env request => exact described_congr (streams_createTxStreamFlows h)
  | updateMapping env id newMapping =>
    rcases s.updateMapping_eq id newMapping (env.opens 0) with e | ⟨managed, managed', mapper, hf, hsdp, ht, e⟩
    · exact congrArg described e
    · rw [step, e]
      refine OrdMap.ext_find? fun id' => ?_
      rw [described, described, OrdMap.find?_mapValues, OrdMap.find?_mapValues, OrdMap.find?_insert]
      split_ifs with hid
      · rw [hid, hf, Option.map_some, Option.map_some, hsdp, ht]
      · rfl
  | removeStream id =>
    change (s.removeStream id).1.described = s.described
    rw [removeStream_of_none (Option.not_isSome_iff_eq_none.mp (Bool.eq_false_iff.mp h))]
  | removeAllStreams =>
    have hempty : s.streams.entries = [] := by simpa [raises] using h
    have hnone : ∀ id, s.streams.find? id = none := fun id => by rw [OrdMap.find?, hempty]; rfl
    refine OrdMap.ext_find? fun id => ?_
    rw [described, described, OrdMap.find?_mapValues, OrdMap.find?_mapValues, hnone]
    rfl
  | loadSavedStreams env configs =>
    cases configs with
    | none => rfl
    | some configs =>
      have hnone : loadedCount env configs.zipIdx s = 0 := by
        simpa [raises, loadedSavedStreams] using h
      exact described_congr (streams_loadedCount hnone)
  | updateReceiveStreamsFromAnnouncement env announced trigger =>
    change (s.updateReceiveStreamsFromAnnouncement env announced trigger).1.described = s.described
    rw [raises, takesAlong] at h
    rw [updateReceiveStreamsFromAnnouncement]
    split_ifs at h ⊢
    · rfl
    · rfl
    · rw [show s.matching announced = [] by simpa using h]
      rfl
  | setIOActive active opens =>
    change (s.setIOActive active opens).described = s.described
    rw [setIOActive]
    split_ifs
    · rfl
    all_goals
      refine OrdMap.ext_find? fun id => ?_
      rw [described, described, OrdMap.find?_mapValues, OrdMap.find?_mapValues, OrdMap.find?_mapWithKey,
        Option.map_map]
      rfl
  | setDeviceSampleRate sampleRate =>
    change (s.setDeviceSampleRate sampleRate).1.described = s.described
    rw [setDeviceSampleRate]
    split_ifs <;> rfl
  | setCompatibilityProfile _ | setUsableChannelCount _ | setUsableTxChannelCount _
  | setTxFlowPortOffset _ | setAutoSinkFollow _ | setPTPEnabled _ | setRequirePTPLock _
  | setIgnoreRefClockMismatch _ => rfl

theorem described_run {ops : List Op} (h : s.raisesAmong ops = false) :
    (ops.foldl step s).described = s.described := by
  induction ops generalizing s with
  | nil => rfl
  | cons op ops ih =>
    rw [raisesAmong, Bool.or_eq_false_iff] at h
    exact (ih h.2).trans (described_step h.1)

end Aes67.StreamManager
