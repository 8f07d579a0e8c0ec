import Aes67.Manager.Moves

/-!
# Where the streams' sessions come from

Every way to a stream goes through `canAddStream`, and only `setDeviceSampleRate` changes the rate it
checks against. So whatever the identifiers are that get generated, the session of a stream was there
before, or has passed the checks of a manager at the rate there is.

* `Vouched`: the rate stays, and each session afterwards is an earlier one or passes the checks; it
  composes, and every operation on the streams is of this kind, **`vouched_step`**;
* `Tuned`, `InTune`: the same of the rates, with **`tuned_step`** and `Tuned.inTune`.
-/

namespace Aes67.StreamManager

open Sdp (SDPSession)

variable {s s' : StreamManager} {env : Env}

/-- The rate stays, and no stream comes up whose session is not an earlier stream's and does not pass
the checks of a manager at that rate. -/
structure Vouched (s s' : StreamManager) : Prop where
  rate : s'.currentDeviceSampleRate = s.currentDeviceSampleRate
  sessions : ∀ id managed', s'.streams.find? id = some managed' →
    (∃ id managed, s.streams.find? id = some managed ∧ managed.sdp = managed'.sdp) ∨
    ∃ (s₁ : StreamManager) (isLocked : Int32 → Bool) (t : Bool),
      s₁.currentDeviceSampleRate = s.currentDeviceSampleRate ∧
      s₁.canAddStream isLocked managed'.sdp t = .ok ()

namespace Vouched

theorem refl (s : StreamManager) : Vouched s s :=
  ⟨rfl, fun id managed hf => Or.inl ⟨id, managed, hf, rfl⟩⟩

theorem trans {s₁ : StreamManager} (h : Vouched s s₁) (h' : Vouched s₁ s') : Vouched s s' := by
  refine ⟨h'.rate.trans h.rate, fun id managed' hf => ?_⟩
  rcases h'.sessions id managed' hf with ⟨id₁, managed₁, hf₁, e₁⟩ | ⟨s₂, isLocked, t, hrate, hcan⟩
  · rcases h.sessions id₁ managed₁ hf₁ with ⟨id₀, managed₀, hf₀, e₀⟩ | hcan
    · exact Or.inl ⟨id₀, managed₀, hf₀, e₀.trans e₁⟩
    · exact Or.inr (e₁ ▸ hcan)
  · exact Or.inr ⟨s₂, isLocked, t, hrate.trans h.rate, hcan⟩

/-- No stream comes up at all. -/
theorem of_subset (hr : s'.currentDeviceSampleRate = s.currentDeviceSampleRate)
    (hs : ∀ id managed, s'.streams.find? id = some managed → s.streams.find? id = some managed) :
    Vouched s s' :=
  ⟨hr, fun id managed hf => Or.inl ⟨id, managed, hs id managed hf, rfl⟩⟩

end Vouched

/-! ## One operation -/

theorem vouched_enlist (sdp : SDPSession) (mapping : ChannelMapping) (t : Bool) (sourcePort : UInt16)
    (opens : Bool) {isLocked : Int32 → Bool} {t₀ : Bool}
    (hcan : s.canAddStream isLocked sdp t₀ = .ok ()) :
    Vouched s (s.enlist sdp mapping t sourcePort opens).1 := by
  rcases s.enlist_eq sdp mapping t sourcePort opens with
    e | ⟨mapper, -, e⟩ | ⟨mapper, rtp, -, -, e⟩
  · rw [e]
    exact .refl s
  · rw [e]
    exact ⟨rfl, fun id managed hf => Or.inl ⟨id, managed, hf, rfl⟩⟩
  · rw [e]
    refine ⟨by rw [keep_eq], fun id managed' hf => ?_⟩
    rw [keep_streams, OrdMap.find?_insert] at hf
    split_ifs at hf with hid
    · cases hf
      exact Or.inr ⟨s, isLocked, t₀, rfl, hcan⟩
    · exact Or.inl ⟨id, managed', hf, rfl⟩

theorem vouched_removeStream (s : StreamManager) (id : StreamID) : Vouched s (s.removeStream id).1 := by
  refine .of_subset ?_ fun id' managed hf => ?_
  · cases hf : s.streams.find? id with
    | none => rw [removeStream_of_none hf]
    | some managed => rw [removeStream_of_find? hf]; rfl
  · rw [removeStream_streams, OrdMap.find?_erase] at hf
    split_ifs at hf
    exact hf

theorem vouched_rollBack (s : StreamManager) (created : List StreamID) :
    Vouched s (s.rollBack created) := by
  induction created generalizing s with
  | nil => exact .refl s
  | cons id created ih => exact (vouched_removeStream s id).trans (ih _)

theorem vouched_addStreamWith (s : StreamManager) (isLocked : Int32 → Bool) (sdp : SDPSession)
    (mapping : ChannelMapping) (generated : StreamID) (opens : Bool) :
    Vouched s (s.addStreamWith isLocked sdp mapping generated opens).1 := by
  rw [addStreamWith]
  split
  · exact .refl s
  next hcan =>
  split_ifs
  · exact .refl s
  have hs := vouched_enlist sdp { mapping with
      streamID := generated, streamName := sdp.sessionName,
      streamChannelCount := sdp.numChannels.toNat, deviceChannelCount := sdp.numChannels.toNat }
    false 0 opens hcan
  dsimp only
  split
  · next e => rw [e] at hs; exact hs
  · next e => rw [e] at hs; exact hs

theorem vouched_addStream (s : StreamManager) (isLocked : Int32 → Bool) (sdp : SDPSession)
    (generated : StreamID) (opens : Bool) :
    Vouched s (s.addStream isLocked sdp generated opens).1 := by
  rw [addStream]
  split
  · exact .refl s
  · exact vouched_addStreamWith s _ _ _ _ _

theorem vouched_createTxStream (s : StreamManager) (env : Env) (name multicastIP : Text)
    (port numChannels : UInt16) (mapping : ChannelMapping) (sourcePort : UInt16) (dscp : Int32)
    (generated : StreamID) (opens : Bool) :
    Vouched s (s.createTxStream env name multicastIP port numChannels mapping sourcePort dscp
      generated opens).1 := by
  rw [createTxStream]
  dsimp only
  split
  · exact .refl s
  next hcan =>
  have hs := vouched_enlist (announcedTxSession name multicastIP port numChannels
      (castUInt32 s.currentDeviceSampleRate) dscp env.time)
    { mapping with
      streamID := generated, streamName := name,
      streamChannelCount := numChannels.toNat, deviceChannelCount := numChannels.toNat }
    true sourcePort opens hcan
  split
  · next e => rw [e] at hs; exact hs
  · next e => rw [e] at hs; exact hs

theorem vouched_createFlows (s : StreamManager) (env : Env) (request : FlowRequest)
    (kPerFlow flowCount : ℕ) (flows : List ℕ) (created : List StreamID) :
    Vouched s (createFlows env request kPerFlow flowCount flows s created).1 := by
  induction flows generalizing s created with
  | nil => exact .refl s
  | cons flow flows ih =>
    rw [createFlows]
    split
    · exact vouched_rollBack s created
    · dsimp only
      split_ifs
      · exact (vouched_createTxStream s env _ _ _ _ _ _ _ _ _).trans (vouched_rollBack _ created)
      · exact (vouched_createTxStream s env _ _ _ _ _ _ _ _ _).trans (ih _ _)

theorem vouched_updateMapping (s : StreamManager) (id : StreamID) (newMapping : ChannelMapping)
    (opens : Bool) : Vouched s (s.updateMapping id newMapping opens).1 := by
  rcases s.updateMapping_eq id newMapping opens with e | ⟨managed, managed', mapper, hf, hsdp, -, e⟩
  · rw [e]
    exact .refl s
  · rw [e]
    refine ⟨rfl, fun id' managed'' hf' => Or.inl ?_⟩
    rw [OrdMap.find?_insert] at hf'
    split_ifs at hf' with hid
    · cases hf'
      exact ⟨id, managed, hf, by rw [hsdp]⟩
    · exact ⟨id', managed'', hf', rfl⟩

theorem vouched_loadStream (s : StreamManager) (env : Env) (config : PersistedStreamConfig)
    (opens : Bool) : Vouched s (s.loadStream env config opens).1 := by
  rw [loadStream]
  split
  · exact .refl s
  split
  · exact .refl s
  split
  · exact .refl s
  next hcan =>
  split_ifs
  · exact .refl s
  · exact vouched_enlist _ _ _ _ _ hcan

theorem vouched_repoint (env : Env) (pending : List (Repoint × ℕ)) (s : StreamManager)
    (followed : ℕ) : Vouched s (repoint env pending s followed).1 := by
  induction pending generalizing s followed with
  | nil => exact .refl s
  | cons e pending ih =>
    obtain ⟨p, k⟩ := e
    rw [repoint]
    have hr := vouched_removeStream s p.id
    split
    · next hrem =>
      rw [hrem] at hr
      exact hr.trans (ih _ followed)
    · next hrem =>
      rw [hrem] at hr
      exact (hr.trans (vouched_addStreamWith _ _ _ _ _ _)).trans (ih _ _)

theorem vouched_updateReceiveStreamsFromAnnouncement (s : StreamManager) (env : Env)
    (announced : SDPSession) (trigger : RepointTrigger) :
    Vouched s (s.updateReceiveStreamsFromAnnouncement env announced trigger).1 := by
  rw [updateReceiveStreamsFromAnnouncement]
  split_ifs
  · exact .refl s
  · exact .refl s
  · exact vouched_repoint env _ s 0

theorem vouched_loadSavedStreams (s : StreamManager) (env : Env)
    (configs : Option (List PersistedStreamConfig)) :
    Vouched s (s.loadSavedStreams env configs) := by
  cases configs with
  | none => exact .refl s
  | some configs =>
    rw [loadSavedStreams]
    generalize configs.zipIdx = pending
    induction pending generalizing s with
    | nil => exact .refl s
    | cons c pending ih => exact (vouched_loadStream s env c.1 _).trans (ih _)

theorem vouched_setIOActive (s : StreamManager) (active : Bool) (opens : StreamID → Bool) :
    Vouched s (s.setIOActive active opens) := by
  rw [setIOActive]
  by_cases hsame : s.ioActive = active
  · rw [if_pos hsame]
    exact .refl s
  rw [if_neg hsame]
  refine ⟨rfl, fun id managed' hf => Or.inl ?_⟩
  dsimp only at hf
  rw [OrdMap.find?_mapWithKey] at hf
  obtain ⟨managed, hfound, rfl⟩ := Option.map_eq_some_iff.mp hf
  exact ⟨id, managed, hfound, rfl⟩

/-- **Every operation but a change of the rate is vouched for.** -/
theorem vouched_step (s : StreamManager) {op : Op} (h : ∀ rate, op ≠ .setDeviceSampleRate rate) :
    Vouched s (s.step op) := by
  cases op with
  | addStream env sdp => exact vouched_addStream s _ _ _ _
  | addStreamWith env sdp mapping => exact vouched_addStreamWith s _ _ _ _ _
  | createTxStream env name multicastIP port numChannels mapping sourcePort dscp =>
    exact vouched_createTxStream s env _ _ _ _ _ _ _ _ _
  | createTxStreamFlows env request =>
    change Vouched s (s.createTxStreamFlows env request).1
    rw [createTxStreamFlows]
    split_ifs
    · exact .refl s
    · exact vouched_createFlows s env _ _ _ _ _
  | updateMapping env id newMapping => exact vouched_updateMapping s _ _ _
  | removeStream id => exact vouched_removeStream s id
  | removeAllStreams => exact .of_subset rfl fun id managed hf => by cases hf
  | loadSavedStreams env configs => exact vouched_loadSavedStreams s env configs
  | updateReceiveStreamsFromAnnouncement env announced trigger =>
    exact vouched_updateReceiveStreamsFromAnnouncement s env _ _
  | setIOActive active opens => exact vouched_setIOActive s _ _
  | setDeviceSampleRate rate => exact absurd rfl (h rate)
  | setCompatibilityProfile _ | setUsableChannelCount _ | setUsableTxChannelCount _
  | setTxFlowPortOffset _ | setAutoSinkFollow _ | setPTPEnabled _ | setRequirePTPLock _
  | setIgnoreRefClockMismatch _ => exact .of_subset rfl fun _ _ hf => hf

/-! ## Streams at the manager's rate -/

/-- The rate stays, and no stream comes up whose rate is another's than an earlier stream's and does
not pass the check. -/
structure Tuned (s s' : StreamManager) : Prop where
  rate : s'.currentDeviceSampleRate = s.currentDeviceSampleRate
  passed : ∀ id managed', s'.streams.find? id = some managed' →
    (∃ id managed, s.streams.find? id = some managed ∧
      managed.sdp.sampleRate = managed'.sdp.sampleRate) ∨
    ratesDiffer managed'.sdp.sampleRate s.currentDeviceSampleRate = false

theorem passed_of_canAddStream {isLocked : Int32 → Bool} {sdp : SDPSession} {t : Bool}
    (h : s.canAddStream isLocked sdp t = .ok ()) :
    ratesDiffer sdp.sampleRate s.currentDeviceSampleRate = false := by
  obtain ⟨hrate, -⟩ := canAddStream_eq_ok.mp h
  rw [validateSampleRate] at hrate
  split_ifs at hrate with hdiffer
  simpa using hdiffer

theorem Vouched.tuned (h : Vouched s s') : Tuned s s' := by
  refine ⟨h.rate, fun id managed' hf => ?_⟩
  rcases h.sessions id managed' hf with ⟨id, managed, hf, e⟩ | ⟨s₁, isLocked, t, hrate, hcan⟩
  · exact Or.inl ⟨id, managed, hf, congrArg SDPSession.sampleRate e⟩
  · exact Or.inr (hrate ▸ passed_of_canAddStream hcan)

/-- **Every operation but a change of the rate keeps the streams in tune.** -/
theorem tuned_step (s : StreamManager) {op : Op} (h : ∀ rate, op ≠ .setDeviceSampleRate rate) :
    Tuned s (s.step op) :=
  (vouched_step s h).tuned

/-- The manager's rate is a number, and every stream runs at it but for a tenth of a hertz. -/
structure InTune (s : StreamManager) : Prop where
  rate_ne_nan : s.currentDeviceSampleRate ≠ .nan
  agree : ∀ id managed, s.streams.find? id = some managed →
    ratesAgree managed.sdp.sampleRate s.currentDeviceSampleRate = true

theorem ratesAgree_eq {rate : UInt32} {d : Double} (h : d ≠ .nan) :
    ratesAgree rate d = !ratesDiffer rate d := by
  cases d with
  | nan => exact absurd rfl h
  | inf neg => rfl
  | fin q => rfl

theorem Tuned.inTune (h : Tuned s s') (hs : InTune s) : InTune s' := by
  refine ⟨h.rate ▸ hs.rate_ne_nan, fun id managed' hf => ?_⟩
  rw [h.rate]
  rcases h.passed id managed' hf with ⟨id, managed, hf, e⟩ | hpassed
  · rw [← e]
    exact hs.agree id managed hf
  · rw [ratesAgree_eq hs.rate_ne_nan, hpassed]
    rfl

/-- A change of the rate that is accepted is to one that the streams run at. -/
theorem setDeviceSampleRate_cases (s : StreamManager) (sampleRate : Double) :
    (s.setDeviceSampleRate sampleRate = ({ s with currentDeviceSampleRate := sampleRate }, true) ∧
      rateOutOfRange sampleRate = false ∧ ∀ id managed, s.streams.find? id = some managed →
        ratesAgree managed.sdp.sampleRate sampleRate = true) ∨
    (s.setDeviceSampleRate sampleRate = (s, false) ∧ (rateOutOfRange sampleRate = true ∨
      ∃ id managed, s.streams.find? id = some managed ∧
        ratesAgree managed.sdp.sampleRate sampleRate = false)) := by
  rw [setDeviceSampleRate]
  split_ifs with hrange hall
  · exact Or.inr ⟨rfl, Or.inl hrange⟩
  · refine Or.inl ⟨rfl, by simpa using hrange, fun id managed hf => ?_⟩
    exact List.all_eq_true.mp hall managed
      (List.mem_map.mpr ⟨(id, managed), s.streams.mem_entries_iff.mpr hf, rfl⟩)
  · refine Or.inr ⟨rfl, Or.inr ?_⟩
    simp only [Bool.not_eq_true, List.all_eq_false] at hall
    obtain ⟨managed, hmem, hdiffer⟩ := hall
    obtain ⟨⟨id, managed⟩, hentry, rfl⟩ := List.mem_map.mp hmem
    exact ⟨id, managed, s.streams.mem_entries_iff.mp hentry, by simpa using hdiffer⟩

end Aes67.StreamManager
