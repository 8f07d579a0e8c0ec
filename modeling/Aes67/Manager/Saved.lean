import Aes67.Config.Losses
import Aes67.Manager.Accounting

/-!
# Streams that a file can hold

A saved file has a place for most of what a session is, and what it has none for comes back at its
default. `createTxStream` sets nothing else but the marking of the packets, and what is read from a
file has nothing else either, so of a stream that is sent the file loses the marking at most.

* `Savable`: what the file holds of a stream; `Given`: what the manager's callers hand it;
* `savable_enlist`: a stream let in, the one way in which streams come;
* **`always_savable`**: the file can hold every stream of every run.
-/

namespace Aes67.StreamManager

open Sdp (SDPSession)
open StreamConfigManager (Fits)

variable {s : StreamManager} {env : Env}

/-- The file holds the numbers of the mapping, and of a session that is sent all but the
marking. -/
structure Savable (sdp : SDPSession) (mapping : ChannelMapping) (isTransmit : Bool) : Prop where
  fits : Fits mapping
  written : isTransmit = true → sdp.written = { sdp with dscp := -1 }

/-- The file can hold every stream. -/
def AllSavable (s : StreamManager) : Prop :=
  ∀ id managed, s.streams.find? id = some managed →
    Savable managed.sdp managed.mapping managed.isTransmit

/-- What a call is handed: a mapping whose offset has sixteen bits, as in the source, and of a saved
file what the reader makes of some text. -/
def Given : Op → Prop
  | .addStreamWith _ _ mapping => mapping.streamChannelOffset < 65536
  | .createTxStream _ _ _ _ _ mapping _ _ => mapping.streamChannelOffset < 65536
  | .createTxStreamFlows _ request => request.mapping.streamChannelOffset < 65536
  | .updateMapping _ _ newMapping => newMapping.streamChannelOffset < 65536
  | .loadSavedStreams _ configs =>
    ∃ network json, StreamConfigManager.fromJSON network json = .ok configs
  | _ => True

/-! ## One call -/

theorem savable_enlist (h : AllSavable s) {sdp : SDPSession} {mapping : ChannelMapping} {t : Bool}
    (new : Savable sdp mapping t) (sourcePort : UInt16) (opens : Bool) :
    AllSavable (s.enlist sdp mapping t sourcePort opens).1 := by
  rcases s.enlist_eq sdp mapping t sourcePort opens with e | ⟨mapper, -, e⟩ | ⟨mapper, rtp, -, -, e⟩
  · rw [e]
    exact h
  · rw [e]
    exact h
  · rw [e]
    intro id managed hf
    rw [keep_streams, OrdMap.find?_insert] at hf
    split_ifs at hf
    · cases hf
      exact new
    · exact h id managed hf

theorem savable_removeStream (h : AllSavable s) (id : StreamID) :
    AllSavable (s.removeStream id).1 := by
  intro id' managed hf
  rw [removeStream_streams, OrdMap.find?_erase] at hf
  split_ifs at hf
  exact h id' managed hf

theorem savable_rollBack (h : AllSavable s) (created : List StreamID) :
    AllSavable (s.rollBack created) := by
  induction created generalizing s with
  | nil => exact h
  | cons id created ih => exact ih (savable_removeStream h id)

/-- A mapping completed with the channels of a session. -/
theorem fits_of_numChannels {mapping : ChannelMapping} (n : UInt16)
    (hn : mapping.streamChannelCount = n.toNat) (ho : mapping.streamChannelOffset < 65536) :
    Fits mapping :=
  ⟨hn ▸ n.toNat_lt, ho⟩

theorem savable_addStreamWith (h : AllSavable s) (isLocked : Int32 → Bool) (sdp : SDPSession)
    {mapping : ChannelMapping} (ho : mapping.streamChannelOffset < 65536) (generated : StreamID)
    (opens : Bool) : AllSavable (s.addStreamWith isLocked sdp mapping generated opens).1 := by
  rw [addStreamWith]
  split
  · exact h
  split_ifs
  · exact h
  have new : Savable sdp { mapping with
      streamID := generated, streamName := sdp.sessionName,
      streamChannelCount := sdp.numChannels.toNat,
      deviceChannelCount := sdp.numChannels.toNat } false :=
    ⟨fits_of_numChannels sdp.numChannels rfl ho, fun ht => by cases ht⟩
  have hs := savable_enlist h new 0 opens
  dsimp only
  split
  · next e => rw [e] at hs; exact hs
  · next e => rw [e] at hs; exact hs

theorem savable_addStream (h : AllSavable s) (isLocked : Int32 → Bool) (sdp : SDPSession)
    (generated : StreamID) (opens : Bool) :
    AllSavable (s.addStream isLocked sdp generated opens).1 := by
  rw [addStream]
  split
  · exact h
  · next mapping hm =>
    refine savable_addStreamWith h _ _ ?_ _ _
    rw [Mapper.createDefaultMapping] at hm
    split at hm
    · cases hm
    · cases hm
      exact Nat.zero_lt_succ _

/-- `announcedTxSession` sets no field but what is written and the marking. -/
theorem savable_createTxStream (h : AllSavable s) (env : Env) (name multicastIP : Text)
    (port numChannels : UInt16) {mapping : ChannelMapping}
    (ho : mapping.streamChannelOffset < 65536) (sourcePort : UInt16) (dscp : Int32)
    (generated : StreamID) (opens : Bool) :
    AllSavable (s.createTxStream env name multicastIP port numChannels mapping sourcePort dscp
      generated opens).1 := by
  rw [createTxStream]
  dsimp only
  split
  · exact h
  have new : Savable (announcedTxSession name multicastIP port numChannels
      (castUInt32 s.currentDeviceSampleRate) dscp env.time)
      { mapping with
        streamID := generated, streamName := name,
        streamChannelCount := numChannels.toNat, deviceChannelCount := numChannels.toNat } true :=
    ⟨fits_of_numChannels numChannels rfl ho, fun _ => rfl⟩
  have hs := savable_enlist h new sourcePort opens
  split
  · next e => rw [e] at hs; exact hs
  · next e => rw [e] at hs; exact hs

theorem savable_createFlows {request : FlowRequest} (ho : request.mapping.streamChannelOffset < 65536)
    (kPerFlow flowCount : ℕ) (flows : List ℕ) (h : AllSavable s) (created : List StreamID) :
    AllSavable (createFlows env request kPerFlow flowCount flows s created).1 := by
  induction flows generalizing s created with
  | nil => exact h
  | cons flow flows ih =>
    rw [createFlows]
    split
    · exact savable_rollBack h created
    · next flowIP flowSourcePort _ =>
      have hs := savable_createTxStream h env (flowName request.baseName flow flowCount) flowIP
        request.port (.ofNat (min (request.numChannels.toNat - flow * kPerFlow) kPerFlow))
        (show (flowMapping request.mapping kPerFlow flow
          (min (request.numChannels.toNat - flow * kPerFlow) kPerFlow)).streamChannelOffset < 65536
          from ho) flowSourcePort request.dscp (env.generated flow) (env.opens flow)
      dsimp only
      split_ifs
      · exact savable_rollBack hs created
      · exact ih hs _

theorem savable_updateMapping (h : AllSavable s) (id : StreamID) {newMapping : ChannelMapping}
    (ho : newMapping.streamChannelOffset < 65536) (opens : Bool) :
    AllSavable (s.updateMapping id newMapping opens).1 := by
  rw [updateMapping]
  cases hf : s.streams.find? id with
  | none => exact h
  | some managed =>
  have hm := h id managed hf
  dsimp only
  rcases s.mapper.updateMapping (completed id managed newMapping) with ⟨mapper, _ | _⟩
  · exact h
  dsimp only
  rcases managed.rtp.updateMapping (completed id managed newMapping) opens with ⟨rtp, _ | _⟩
  · intro id' managed' hf'
    dsimp only at hf'
    rw [OrdMap.find?_insert] at hf'
    split_ifs at hf'
    · cases hf'
      exact hm
    · exact h id' managed' hf'
  · intro id' managed' hf'
    dsimp only at hf'
    rw [OrdMap.find?_insert] at hf'
    split_ifs at hf'
    · cases hf'
      exact ⟨fits_of_numChannels managed.sdp.numChannels rfl ho, hm.written⟩
    · exact h id' managed' hf'

theorem savable_repoint (pending : List (Repoint × ℕ)) (h : AllSavable s) (followed : ℕ) :
    AllSavable (repoint env pending s followed).1 := by
  induction pending generalizing s followed with
  | nil => exact h
  | cons e pending ih =>
    obtain ⟨p, k⟩ := e
    rw [repoint]
    have hr := savable_removeStream h p.id
    split
    · next hrem =>
      rw [hrem] at hr
      exact ih hr followed
    · next hrem =>
      rw [hrem] at hr
      exact ih (savable_addStreamWith hr env.isLocked p.newSdp (by dsimp only; decide) _ _) _

theorem savable_loadStream (h : AllSavable s) {c : PersistedStreamConfig × ℕ}
    (new : Savable c.1.sdp c.1.mapping c.1.isTransmit) : AllSavable (restoreStep env s c) := by
  rw [restoreStep, loadStream]
  split
  · exact h
  split
  · exact h
  split
  · exact h
  split
  · exact h
  · exact savable_enlist h new 0 (env.opens c.2)

theorem savable_loadSavedStreams (h : AllSavable s) {configs : Option (List PersistedStreamConfig)}
    {network : NetworkUtils} {json : Text}
    (hread : StreamConfigManager.fromJSON network json = .ok configs) :
    AllSavable (s.loadSavedStreams env configs) := by
  cases configs with
  | none => exact h
  | some configs =>
    have hfile : ∀ c ∈ configs.zipIdx, Savable c.1.sdp c.1.mapping c.1.isTransmit := by
      intro c hc
      obtain ⟨o, ho⟩ := StreamConfigManager.exists_readFrom_of_fromJSON hread c.1
        (List.fst_mem_of_mem_zipIdx hc)
      refine ⟨ho.fits, fun _ => ?_⟩
      have hw := ho.written
      have hdscp : c.1.sdp.dscp = -1 := (congrArg SDPSession.dscp hw).symm
      rw [hw, ← hdscp]
    have hall : Always (restoreStep env) AllSavable s configs.zipIdx :=
      always_of_along (fun _ _ hs hc => savable_loadStream hs hc) h
        (along_of_mem fun _ c hc => hfile c hc)
    exact hall.run

theorem savable_setIOActive (h : AllSavable s) (active : Bool) (opens : StreamID → Bool) :
    AllSavable (s.setIOActive active opens) := by
  rw [setIOActive]
  split
  · exact h
  · intro id managed hf
    rw [OrdMap.find?_mapWithKey] at hf
    obtain ⟨managed₀, h₀, rfl⟩ := Option.map_eq_some_iff.mp hf
    exact h id managed₀ h₀

/-! ## Whole runs -/

theorem savable_step (h : AllSavable s) {op : Op} (given : Given op) : AllSavable (s.step op) := by
  cases op with
  | addStream env sdp => exact savable_addStream h _ _ _ _
  | addStreamWith env sdp mapping => exact savable_addStreamWith h _ _ given _ _
  | createTxStream env name multicastIP port numChannels mapping sourcePort dscp =>
    exact savable_createTxStream h env _ _ _ _ given _ _ _ _
  | createTxStreamFlows env request =>
    change AllSavable (s.createTxStreamFlows env request).1
    rw [createTxStreamFlows]
    split_ifs
    · exact h
    · exact savable_createFlows given _ _ _ h []
  | updateMapping env id newMapping => exact savable_updateMapping h id given _
  | removeStream id => exact savable_removeStream h id
  | removeAllStreams =>
    intro id managed hf
    cases hf
  | loadSavedStreams env configs =>
    obtain ⟨network, json, hread⟩ := given
    exact savable_loadSavedStreams h hread
  | updateReceiveStreamsFromAnnouncement env announced trigger =>
    change AllSavable (s.updateReceiveStreamsFromAnnouncement env announced trigger).1
    rw [updateReceiveStreamsFromAnnouncement]
    split_ifs
    · exact h
    · exact h
    · exact savable_repoint _ h 0
  | setIOActive active opens => exact savable_setIOActive h active opens
  | setDeviceSampleRate sampleRate =>
    change AllSavable (s.setDeviceSampleRate sampleRate).1
    rw [setDeviceSampleRate]
    split_ifs <;> exact h
  | setUsableChannelCount _ | setCompatibilityProfile _ | setUsableTxChannelCount _
  | setTxFlowPortOffset _ | setAutoSinkFollow _ | setPTPEnabled _ | setRequirePTPLock _
  | setIgnoreRefClockMismatch _ =>
    exact h

/-- **The file can hold every stream of every run.** -/
theorem always_savable {ops : List Op} (given : ∀ op ∈ ops, Given op) :
    Always step AllSavable {} ops :=
  always_of_along (fun _ _ h hg => savable_step h hg) (fun id managed hf => by cases hf)
    (along_of_mem fun _ op hop => given op hop)

end Aes67.StreamManager
