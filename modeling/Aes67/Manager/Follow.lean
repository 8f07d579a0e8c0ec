import Mathlib
import Aes67.Manager.Rings

/-!
# Sinks that follow their source

`updateReceiveStreamsFromAnnouncement` takes each sink bound to an announced source out and adds it
again on the announced session. What adding refuses is gone.

* `NoSinkLost`: every sink is as it was or runs on the announced session, each in a stream of its
  own; it holds from call to call (`NoSinkLost.trans`);
* `CanFollow`: what one sink's following asks of the manager before it; `repointOne_spec`: the sink
  is taken along exactly then;
* **`noSinkLost_iff`**: an announcement loses no sink exactly when each sink bound to it can follow,
  in turn.
-/

namespace Aes67.StreamManager

open Sdp (SDPSession)

variable {s s' s₁ s₂ : StreamManager} {announced : SDPSession} {env : Env}

/-! ## Sinks -/

def IsSink (s : StreamManager) (id : StreamID) : Prop :=
  ∃ managed, s.streams.find? id = some managed ∧ managed.isTransmit = false

/-- What became of a sink: it is in the manager and in the mapper as it was, or a stream of the
announced session runs in its place, as far as the device does. -/
def GoesOn (announced : SDPSession) (s s' : StreamManager) (id id' : StreamID)
    (managed : ManagedStream) : Prop :=
  (id' = id ∧ s'.streams.find? id = some managed ∧
    s'.mapper.getMapping id = s.mapper.getMapping id) ∨
  ∃ managed', s'.streams.find? id' = some managed' ∧ managed'.isTransmit = false ∧
    managed'.sdp = announced ∧ managed'.rtp.sdp = announced ∧
    managed'.rtp.running = s.ioActive ∧
    managed'.mapping.deviceChannelStart = managed.mapping.deviceChannelStart ∧
    s'.mapper.getMapping id' = some managed'.mapping

/-- No sink is lost: each goes on in a stream of its own. -/
def NoSinkLost (announced : SDPSession) (s s' : StreamManager) : Prop :=
  ∃ successor : StreamID → StreamID, Set.InjOn successor {id | s.IsSink id} ∧
    ∀ id managed, s.streams.find? id = some managed → managed.isTransmit = false →
      GoesOn announced s s' id (successor id) managed

theorem GoesOn.isSink {id id' : StreamID} {managed : ManagedStream}
    (h : GoesOn announced s s' id id' managed) (hr : managed.isTransmit = false) :
    s'.IsSink id' := by
  rcases h with ⟨rfl, hf, -⟩ | ⟨managed', hf, hr', -⟩
  · exact ⟨managed, hf, hr⟩
  · exact ⟨managed', hf, hr'⟩

theorem NoSinkLost.refl : NoSinkLost announced s s :=
  ⟨id, Set.injOn_id _, fun _ _ hf _ => Or.inl ⟨rfl, hf, rfl⟩⟩

theorem NoSinkLost.trans (hio : s₁.ioActive = s.ioActive) (h₁ : NoSinkLost announced s s₁)
    (h₂ : NoSinkLost announced s₁ s₂) : NoSinkLost announced s s₂ := by
  obtain ⟨f₁, hinj₁, hgo₁⟩ := h₁
  obtain ⟨f₂, hinj₂, hgo₂⟩ := h₂
  refine ⟨f₂ ∘ f₁, hinj₂.comp hinj₁ ?_, fun id managed hf hr => ?_⟩
  · rintro id ⟨managed, hf, hr⟩
    exact (hgo₁ id managed hf hr).isSink hr
  · rcases hgo₁ id managed hf hr with ⟨he, hf₁, hm₁⟩ | ⟨m₁, hf₁, hr₁, ha, hra, hrun, hstart, hmap⟩
    · have h := hgo₂ id managed hf₁ hr
      rw [← he] at h
      rcases h with ⟨he₂, hf₂, hm₂⟩ | ⟨m₂, hf₂, hr₂, ha, hra, hrun, hstart, hmap⟩
      · rw [he] at he₂ hf₂ hm₂
        exact Or.inl ⟨by rw [Function.comp, he, he₂], hf₂, hm₂.trans hm₁⟩
      · exact Or.inr ⟨m₂, hf₂, hr₂, ha, hra, hrun.trans hio, hstart, hmap⟩
    · rcases hgo₂ _ m₁ hf₁ hr₁ with ⟨he₂, hf₂, hm₂⟩ | ⟨m₂, hf₂, hr₂, ha₂, hra₂, hrun₂, hstart₂, hmap₂⟩
      · refine Or.inr ⟨m₁, ?_, hr₁, ha, hra, hrun, hstart, ?_⟩
        · rw [Function.comp, he₂]
          exact hf₂
        · rw [Function.comp, he₂]
          exact hm₂.trans hmap
      · exact Or.inr ⟨m₂, hf₂, hr₂, ha₂, hra₂, hrun₂.trans hio, hstart₂.trans hstart, hmap₂⟩

/-- The identifiers of the sinks. -/
def sinks (s : StreamManager) : Finset StreamID :=
  ((s.streams.entries.filter fun e => !e.2.isTransmit).map Prod.fst).toFinset

theorem mem_sinks {id : StreamID} : id ∈ s.sinks ↔ s.IsSink id := by
  simp [sinks, IsSink, OrdMap.mem_entries_iff]

theorem NoSinkLost.card_le (h : NoSinkLost announced s s') : s.sinks.card ≤ s'.sinks.card := by
  obtain ⟨f, hinj, hgo⟩ := h
  refine Finset.card_le_card_of_injOn f (fun id hid => ?_) (fun a ha b hb he => ?_)
  · obtain ⟨managed, hf, hr⟩ := mem_sinks.mp hid
    exact mem_sinks.mpr ((hgo id managed hf hr).isSink hr)
  · exact hinj (mem_sinks.mp ha) (mem_sinks.mp hb) he

/-! ## One sink -/

/-- The mapping a sink is added again with. -/
def Repoint.newMapping (p : Repoint) : ChannelMapping where
  streamName := p.newSdp.sessionName
  streamChannelCount := p.newSdp.numChannels.toNat
  deviceChannelStart := p.deviceChannelStart
  deviceChannelCount := p.newSdp.numChannels.toNat

/-- One sink of the second phase: removed, and added again. -/
def repointOne (env : Env) (s : StreamManager) (e : Repoint × ℕ) : StreamManager :=
  match s.removeStream e.1.id with
  | (s, false) => s
  | (s, true) =>
    (s.addStreamWith env.isLocked e.1.newSdp e.1.newMapping (env.generated e.2) (env.opens e.2)).1

theorem repoint_eq (pending : List (Repoint × ℕ)) (s : StreamManager) (followed : ℕ) :
    (repoint env pending s followed).1 = pending.foldl (repointOne env) s := by
  induction pending generalizing s followed with
  | nil => rfl
  | cons e pending ih =>
    obtain ⟨p, k⟩ := e
    rw [repoint, List.foldl_cons, repointOne]
    rcases hr : s.removeStream p.id with ⟨s₁, _ | _⟩
    · exact ih s₁ followed
    · exact ih _ _

/-- What a sink's following asks of the manager before it. Of the manager's own state, the sink's
channels count as free and its grandmaster as gone; the channels in use stay the same number. -/
structure CanFollow (env : Env) (s : StreamManager) (e : Repoint × ℕ) : Prop where
  sampleRate : s.validateSampleRate e.1.newSdp = .ok ()
  channels : validateChannelAvailability { s with mapper := (s.mapper.removeMapping e.1.id).1 }
    e.1.newSdp.numChannels = .ok ()
  budget : validatePacketBudget e.1.newSdp = .ok ()
  network : validateNetworkConfig e.1.newSdp = .ok ()
  profile : (CompatibilityProfile.forKind s.profileKind).validate e.1.newSdp false = .ok ()
  total : (CompatibilityProfile.forKind s.profileKind).maxTotalChannels > 0 →
    s.rxChannelsInUse ≤ (CompatibilityProfile.forKind s.profileKind).maxTotalChannels
  usable : s.usableRxChannelCount > 0 → s.rxChannelsInUse ≤ s.usableRxChannelCount
  lock : s.validateLock env.isLocked e.1.newSdp = .ok ()
  grandmaster : (recomputeActiveGrandmaster
    { s with streams := s.streams.erase e.1.id }).validateGrandmaster e.1.newSdp = .ok ()
  generated : (s.streams.erase e.1.id).find? (env.generated e.2) = none
  accepts : (s.mapper.removeMapping e.1.id).1.accepts
    { e.1.newMapping with streamID := env.generated e.2 } = true
  opens : s.ioActive = true → env.opens e.2 = true

/-- The sink is in the manager, and is bound to the announced source. -/
structure Bound (announced : SDPSession) (s : StreamManager) (p : Repoint) : Prop where
  exists_sink : ∃ managed, s.streams.find? p.id = some managed ∧ managed.isTransmit = false ∧
    managed.sdp.numChannels = announced.numChannels ∧
    managed.mapping.deviceChannelStart = p.deviceChannelStart
  newSdp : p.newSdp = announced

theorem bind_eq_ok {x : Except Text Unit} {y : Except Text Unit} :
    (do x; y) = .ok () ↔ x = .ok () ∧ y = .ok () := by
  cases x with
  | error e => simp [bind, Except.bind]
  | ok u => simp [bind, Except.bind]

theorem canAddStream_eq_ok {isLocked : Int32 → Bool} {sdp : SDPSession} {t : Bool} :
    s.canAddStream isLocked sdp t = .ok () ↔ s.validateSampleRate sdp = .ok () ∧
      s.validateChannelAvailability sdp.numChannels = .ok () ∧
      validatePacketBudget sdp = .ok () ∧ validateNetworkConfig sdp = .ok () ∧
      (CompatibilityProfile.forKind s.profileKind).validate sdp t = .ok () ∧
      s.validateTotalChannels (.forKind s.profileKind) sdp t = .ok () ∧
      s.validateUsableChannels sdp t = .ok () ∧ s.validateLock isLocked sdp = .ok () ∧
      s.validateGrandmaster sdp = .ok () := by
  unfold canAddStream
  simp only [bind_eq_ok]

/-- The manager with a sink taken out. -/
def without (s : StreamManager) (id : StreamID) (numChannels : UInt16) : StreamManager :=
  recomputeActiveGrandmaster { s with
    mapper := (s.mapper.removeMapping id).1
    rxChannelsInUse := s.rxChannelsInUse - numChannels.toUInt32
    streams := s.streams.erase id }

theorem removeStream_of_sink {id : StreamID} {managed : ManagedStream}
    (hf : s.streams.find? id = some managed) (hr : managed.isTransmit = false) :
    s.removeStream id = (s.without id managed.sdp.numChannels, true) := by
  rw [removeStream, hf]
  dsimp only
  rw [hr]
  rfl

theorem limit_eq_ok {limit used : UInt32} {e : Text} :
    (if limit > 0 ∧ used > limit then .error e else .ok () : Except Text Unit) = .ok () ↔
      (limit > 0 → used ≤ limit) := by
  split_ifs with h
  · exact iff_of_false (fun he => by cases he) fun hle => UInt32.not_lt.mpr (hle h.1) h.2
  · exact iff_of_true rfl fun h0 => UInt32.not_lt.mp fun hlt => h ⟨h0, hlt⟩

/-- The sink's channels were counted before, and are counted again. -/
theorem channelsInUse_without {id : StreamID} {n : UInt16} :
    (s.without id n).channelsInUse false + n.toUInt32 = s.rxChannelsInUse :=
  UInt32.sub_add_cancel _ _

theorem validateTotalChannels_eq_ok {profile : CompatibilityProfile} {sdp : SDPSession}
    {id : StreamID} :
    (s.without id sdp.numChannels).validateTotalChannels profile sdp false = .ok () ↔
      (profile.maxTotalChannels > 0 → s.rxChannelsInUse ≤ profile.maxTotalChannels) := by
  unfold validateTotalChannels
  dsimp only
  rw [channelsInUse_without]
  exact limit_eq_ok

theorem validateUsableChannels_eq_ok {sdp : SDPSession} {id : StreamID} :
    (s.without id sdp.numChannels).validateUsableChannels sdp false = .ok () ↔
      (s.usableRxChannelCount > 0 → s.rxChannelsInUse ≤ s.usableRxChannelCount) := by
  unfold validateUsableChannels
  dsimp only
  rw [channelsInUse_without]
  exact limit_eq_ok

/-- The checks of `canAddStream` once the sink is out. -/
theorem canAddStream_without {isLocked : Int32 → Bool} {sdp : SDPSession} {id : StreamID} :
    (s.without id sdp.numChannels).canAddStream isLocked sdp false = .ok () ↔
      s.validateSampleRate sdp = .ok () ∧
      validateChannelAvailability { s with mapper := (s.mapper.removeMapping id).1 }
        sdp.numChannels = .ok () ∧
      validatePacketBudget sdp = .ok () ∧ validateNetworkConfig sdp = .ok () ∧
      (CompatibilityProfile.forKind s.profileKind).validate sdp false = .ok () ∧
      ((CompatibilityProfile.forKind s.profileKind).maxTotalChannels > 0 →
        s.rxChannelsInUse ≤ (CompatibilityProfile.forKind s.profileKind).maxTotalChannels) ∧
      (s.usableRxChannelCount > 0 → s.rxChannelsInUse ≤ s.usableRxChannelCount) ∧
      s.validateLock isLocked sdp = .ok () ∧
      (recomputeActiveGrandmaster { s with streams := s.streams.erase id }).validateGrandmaster
        sdp = .ok () := by
  rw [canAddStream_eq_ok, validateTotalChannels_eq_ok, validateUsableChannels_eq_ok]
  rfl

/-- A session the network checks let pass is one that an RTP object can be started on. -/
theorem startable_of_checks {sdp : SDPSession}
    (hc : s.validateChannelAvailability sdp.numChannels = .ok ())
    (hn : validateNetworkConfig sdp = .ok ()) : Startable sdp := by
  unfold validateChannelAvailability at hc
  unfold validateNetworkConfig at hn
  dsimp only at hc
  split_ifs at hc with h1
  split_ifs at hn with h3 h4 h5
  rw [not_or] at h1
  exact ⟨h3, h5, h1.1, UInt16.not_lt.mp h1.2⟩

@[simp] theorem countChannels_ioActive (s : StreamManager) (t : Bool) (f : UInt32 → UInt32) :
    (s.countChannels t f).ioActive = s.ioActive := by
  cases t <;> rfl

@[simp] theorem adoptGrandmaster_ioActive (s : StreamManager) (g : Text) :
    (s.adoptGrandmaster g).ioActive = s.ioActive := by
  rw [adoptGrandmaster]
  split_ifs <;> rfl

/-- A receive stream as it is kept on a manager. -/
def sinkOn (ioActive : Bool) (sdp : SDPSession) (mapping : ChannelMapping) : ManagedStream where
  sdp := sdp
  mapping := mapping
  rtp := { sdp := sdp, mapping := mapping, running := ioActive }

/-- A session that can be started on is kept exactly when the mapper takes its mapping and the
socket opens where it has to. -/
theorem enlist_sink (s : StreamManager) {sdp : SDPSession} (mapping : ChannelMapping)
    (opens : Bool) (hs : Startable sdp) :
    (s.mapper.accepts mapping = true ∧ (s.ioActive = true → opens = true) ∧
      (s.enlist sdp mapping false 0 opens).2 = true ∧
      (s.enlist sdp mapping false 0 opens).1.streams =
        s.streams.insert mapping.streamID (sinkOn s.ioActive sdp mapping) ∧
      (s.enlist sdp mapping false 0 opens).1.mapper = (s.mapper.addMapping mapping).1 ∧
      (s.enlist sdp mapping false 0 opens).1.ioActive = s.ioActive) ∨
    (¬ (s.mapper.accepts mapping = true ∧ (s.ioActive = true → opens = true)) ∧
      (s.enlist sdp mapping false 0 opens).2 = false ∧
      (s.enlist sdp mapping false 0 opens).1.streams = s.streams ∧
      (s.enlist sdp mapping false 0 opens).1.ioActive = s.ioActive) := by
  rw [enlist]
  rcases s.mapper.addMapping_cases mapping with ⟨ha, e⟩ | ⟨ha, e⟩
  · rw [e]
    exact Or.inr ⟨fun h => by rw [ha] at h; exact Bool.noConfusion h.1, rfl, rfl, rfl⟩
  · rw [e]
    dsimp only
    cases hio : s.ioActive with
    | false => exact Or.inl ⟨ha, by simp, by simp, by simp [sinkOn], by simp, by simp⟩
    | true =>
      cases opens with
      | true =>
        have hstart : Rtp.start { sdp := sdp, mapping := mapping } true =
            ({ sdp := sdp, mapping := mapping, running := true }, true) :=
          start_of_startable rfl hs
        rw [if_pos rfl, hstart]
        exact Or.inl ⟨ha, fun _ => rfl, by simp, by simp [sinkOn], by simp, by simp⟩
      | false =>
        have hstart : Rtp.start { sdp := sdp, mapping := mapping } false =
            ({ sdp := sdp, mapping := mapping }, false) := by
          rcases start_cases { sdp := sdp, mapping := mapping } false with h | ⟨-, h, -⟩
          · exact h
          · cases h
        rw [if_pos rfl, hstart]
        exact Or.inr ⟨fun h => Bool.noConfusion (h.2 rfl), rfl, rfl, rfl⟩

/-- What becomes of one sink. -/
theorem repointOne_spec (env : Env) {e : Repoint × ℕ} (hb : Bound announced s e.1) :
    (CanFollow env s e ∧
      (repointOne env s e).streams = (s.streams.erase e.1.id).insert (env.generated e.2)
        (sinkOn s.ioActive announced { e.1.newMapping with streamID := env.generated e.2 }) ∧
      (repointOne env s e).mapper = ((s.mapper.removeMapping e.1.id).1.addMapping
        { e.1.newMapping with streamID := env.generated e.2 }).1 ∧
      (repointOne env s e).ioActive = s.ioActive) ∨
    (¬ CanFollow env s e ∧ (repointOne env s e).streams = s.streams.erase e.1.id ∧
      (repointOne env s e).ioActive = s.ioActive) := by
  obtain ⟨p, k⟩ := e
  obtain ⟨⟨managed, hf, hr, hn, -⟩, rfl⟩ := hb
  have hout : repointOne env s (p, k) = ((s.without p.id p.newSdp.numChannels).addStreamWith
      env.isLocked p.newSdp p.newMapping (env.generated k) (env.opens k)).1 := by
    rw [repointOne, removeStream_of_sink hf hr, hn]
  rw [hout, addStreamWith]
  dsimp only
  cases hcan : (s.without p.id p.newSdp.numChannels).canAddStream env.isLocked p.newSdp false with
  | error text =>
    refine Or.inr ⟨fun hc => ?_, rfl, rfl⟩
    have hok := canAddStream_without.mpr ⟨hc.sampleRate, hc.channels, hc.budget, hc.network,
      hc.profile, hc.total, hc.usable, hc.lock, hc.grandmaster⟩
    rw [hcan] at hok
    cases hok
  | ok u =>
    obtain ⟨h1, h2, h3, h4, h5, h6, h7, h8, h9⟩ := canAddStream_without.mp hcan
    dsimp only
    cases hgen : (s.streams.erase p.id).find? (env.generated k) with
    | some other =>
      have hsome : ((s.without p.id p.newSdp.numChannels).streams.find?
          (env.generated k)).isSome = true := congrArg Option.isSome hgen
      rw [if_pos hsome]
      refine Or.inr ⟨fun hc => ?_, rfl, rfl⟩
      rw [hc.generated] at hgen
      cases hgen
    | none =>
      have hnone : ¬ ((s.without p.id p.newSdp.numChannels).streams.find?
          (env.generated k)).isSome = true := by
        rw [show (s.without p.id p.newSdp.numChannels).streams.find? (env.generated k) = none
          from hgen]
        simp
      rw [if_neg hnone]
      have hstart : Startable p.newSdp := startable_of_checks h2 h4
      have hen := enlist_sink (s.without p.id p.newSdp.numChannels)
        { p.newMapping with streamID := env.generated k } (env.opens k) hstart
      have hcomplete : ({ p.newMapping with
          streamID := env.generated k, streamName := p.newSdp.sessionName,
          streamChannelCount := p.newSdp.numChannels.toNat,
          deviceChannelCount := p.newSdp.numChannels.toNat } : ChannelMapping) =
          { p.newMapping with streamID := env.generated k } := rfl
      rw [hcomplete]
      rcases he : (s.without p.id p.newSdp.numChannels).enlist p.newSdp
        { p.newMapping with streamID := env.generated k } false 0 (env.opens k) with ⟨t, b⟩
      rw [he] at hen
      rcases hen with ⟨ha, ho, rfl, e2, e3, e4⟩ | ⟨hno, rfl, e2, e3⟩
      · exact Or.inl ⟨⟨h1, h2, h3, h4, h5, h6, h7, h8, h9, hgen, ha, ho⟩, e2, e3, e4⟩
      · exact Or.inr ⟨fun hc => hno ⟨hc.accepts, hc.opens⟩, e2, e3⟩

/-- A sink that can follow is taken along, and every other is as it was. -/
theorem noSinkLost_repointOne {e : Repoint × ℕ} (hb : Bound announced s e.1)
    (hc : CanFollow env s e) : NoSinkLost announced s (repointOne env s e) := by
  rcases repointOne_spec env hb with ⟨-, hstreams, hmapper, -⟩ | ⟨hn, -⟩
  swap
  · exact absurd hc hn
  obtain ⟨⟨managed, hf, hr, -, hstart⟩, -⟩ := hb
  have hfresh : ∀ id, id ≠ e.1.id → s.IsSink id → id ≠ env.generated e.2 := by
    rintro id hne ⟨managed', hf', -⟩ rfl
    have hgen := hc.generated
    rw [OrdMap.find?_erase, if_neg hne, hf'] at hgen
    cases hgen
  rcases Mapper.addMapping_cases (s.mapper.removeMapping e.1.id).1
    { e.1.newMapping with streamID := env.generated e.2 } with ⟨ha, -⟩ | ⟨-, hadd⟩
  · rw [hc.accepts] at ha
    cases ha
  have hmap : ∀ id, (repointOne env s e).mapper.getMapping id =
      if id = env.generated e.2 then some { e.1.newMapping with streamID := env.generated e.2 }
      else (s.mapper.removeMapping e.1.id).1.getMapping id := by
    intro id
    rw [hmapper, hadd]
    exact OrdMap.find?_insert ..
  refine ⟨fun id => if id = e.1.id then env.generated e.2 else id, ?_, fun id managed' hf' hr' => ?_⟩
  · intro a ha b hb hab
    dsimp only at hab
    split_ifs at hab with h1 h2 h2
    · rw [h1, h2]
    · exact absurd hab.symm (hfresh b h2 hb)
    · exact absurd hab (hfresh a h1 ha)
    · exact hab
  · by_cases hid : id = e.1.id
    · subst hid
      rw [hf] at hf'
      cases hf'
      dsimp only
      rw [if_pos rfl]
      refine Or.inr ⟨sinkOn s.ioActive announced
        { e.1.newMapping with streamID := env.generated e.2 }, ?_, rfl, rfl, rfl, rfl,
        hstart.symm, ?_⟩
      · rw [hstreams]
        exact OrdMap.find?_insert_self ..
      · rw [hmap, if_pos rfl]
        rfl
    · have hne := hfresh id hid ⟨managed', hf', hr'⟩
      dsimp only
      rw [if_neg hid]
      refine Or.inl ⟨rfl, ?_, ?_⟩
      · rw [hstreams, OrdMap.find?_insert, if_neg hne, OrdMap.find?_erase, if_neg hid]
        exact hf'
      · rw [hmap, if_neg hne, Mapper.getMapping, Mapper.getMapping, Mapper.removeMapping]
        split
        · rfl
        · exact (OrdMap.find?_erase ..).trans (if_neg hid)

/-! ## One announcement -/

theorem bound_repointOne {e : Repoint × ℕ} {q : Repoint} (hb : Bound announced s e.1)
    (hq : Bound announced s q) (hne : q.id ≠ e.1.id) : Bound announced (repointOne env s e) q := by
  obtain ⟨⟨managed, hf, h⟩, hnew⟩ := hq
  refine ⟨⟨managed, ?_, h⟩, hnew⟩
  rcases repointOne_spec env hb with ⟨hc, hstreams, -⟩ | ⟨-, hstreams, -⟩
  · have hgen := hc.generated
    have hq' : q.id ≠ env.generated e.2 := by
      rintro he
      rw [← he, OrdMap.find?_erase, if_neg hne, hf] at hgen
      cases hgen
    rw [hstreams, OrdMap.find?_insert, if_neg hq', OrdMap.find?_erase, if_neg hne, hf]
  · rw [hstreams, OrdMap.find?_erase, if_neg hne, hf]

theorem bound_mem_sinks {p : Repoint} (hb : Bound announced s p) : p.id ∈ s.sinks := by
  obtain ⟨⟨managed, hf, hr, -⟩, -⟩ := hb
  exact mem_sinks.mpr ⟨managed, hf, hr⟩

theorem card_repointOne_lt {e : Repoint × ℕ} (hb : Bound announced s e.1)
    (hn : ¬ CanFollow env s e) : (repointOne env s e).sinks.card < s.sinks.card := by
  rcases repointOne_spec env hb with ⟨hc, -⟩ | ⟨-, hstreams, -⟩
  · exact absurd hc hn
  have hsub : (repointOne env s e).sinks ⊆ s.sinks.erase e.1.id := by
    intro id hid
    obtain ⟨managed, hf, hr⟩ := mem_sinks.mp hid
    rw [hstreams, OrdMap.find?_erase] at hf
    split_ifs at hf with hne
    exact Finset.mem_erase.mpr ⟨hne, mem_sinks.mpr ⟨managed, hf, hr⟩⟩
  exact (Finset.card_le_card hsub).trans_lt (Finset.card_erase_lt_of_mem (bound_mem_sinks hb))

/-- There are no more sinks than before. -/
theorem card_repointOne_le {e : Repoint × ℕ} (hb : Bound announced s e.1) :
    (repointOne env s e).sinks.card ≤ s.sinks.card := by
  rcases repointOne_spec env hb with ⟨-, hstreams, -⟩ | ⟨hn, -⟩
  · have hsub : (repointOne env s e).sinks ⊆
        insert (env.generated e.2) (s.sinks.erase e.1.id) := by
      intro id hid
      obtain ⟨managed, hf, hr⟩ := mem_sinks.mp hid
      rw [hstreams, OrdMap.find?_insert] at hf
      split_ifs at hf with hgen
      · exact Finset.mem_insert.mpr (Or.inl hgen)
      · rw [OrdMap.find?_erase] at hf
        split_ifs at hf with hne
        exact Finset.mem_insert_of_mem
          (Finset.mem_erase.mpr ⟨hne, mem_sinks.mpr ⟨managed, hf, hr⟩⟩)
    calc (repointOne env s e).sinks.card
        ≤ (insert (env.generated e.2) (s.sinks.erase e.1.id)).card := Finset.card_le_card hsub
      _ ≤ (s.sinks.erase e.1.id).card + 1 := Finset.card_insert_le _ _
      _ = s.sinks.card := Finset.card_erase_add_one (bound_mem_sinks hb)
  · exact (card_repointOne_lt hb hn).le

/-- The sinks still to take along are different ones, and in the manager. -/
def Pending (announced : SDPSession) (s : StreamManager) (pending : List (Repoint × ℕ)) : Prop :=
  pending.Pairwise (fun e f => f.1.id ≠ e.1.id) ∧ ∀ e ∈ pending, Bound announced s e.1

theorem Pending.tail {e : Repoint × ℕ} {pending : List (Repoint × ℕ)}
    (h : Pending announced s (e :: pending)) :
    Pending announced (repointOne env s e) pending := by
  obtain ⟨hne, hb⟩ := h
  obtain ⟨hhead, htail⟩ := List.pairwise_cons.mp hne
  exact ⟨htail, fun f hf => bound_repointOne (hb e List.mem_cons_self)
    (hb f (List.mem_cons_of_mem _ hf)) (hhead f hf)⟩

theorem card_foldl_le (env : Env) {pending : List (Repoint × ℕ)}
    (h : Pending announced s pending) : (pending.foldl (repointOne env) s).sinks.card ≤ s.sinks.card := by
  induction pending generalizing s with
  | nil => exact le_rfl
  | cons e pending ih =>
    exact (ih h.tail).trans (card_repointOne_le (h.2 e List.mem_cons_self))

theorem noSinkLost_foldl_iff {pending : List (Repoint × ℕ)} (h : Pending announced s pending) :
    NoSinkLost announced s (pending.foldl (repointOne env) s) ↔
      Along (repointOne env) (CanFollow env) s pending := by
  constructor
  · intro hlost
    have hcard := hlost.card_le
    clear hlost
    induction pending generalizing s with
    | nil => trivial
    | cons e pending ih =>
      have hb := h.2 e List.mem_cons_self
      have htail : Pending announced (repointOne env s e) pending := h.tail
      rw [List.foldl_cons] at hcard
      refine ⟨?_, ih htail ((card_repointOne_le hb).trans hcard)⟩
      by_contra hn
      have h1 := card_repointOne_lt hb hn
      have h2 := card_foldl_le env htail
      omega
  · intro halong
    induction pending generalizing s with
    | nil => exact .refl
    | cons e pending ih =>
      have hb := h.2 e List.mem_cons_self
      have hio : (repointOne env s e).ioActive = s.ioActive := by
        rcases repointOne_spec env hb with ⟨-, -, -, hio⟩ | ⟨-, -, hio⟩ <;> exact hio
      exact (noSinkLost_repointOne hb halong.1).trans hio (ih h.tail halong.2)

theorem of_follow {stored : SDPSession} (h : evaluateSinkFollow stored announced = .follow) :
    announced.sessionName ≠ [] ∧ stored.sessionName = announced.sessionName ∧
      stored.numChannels = announced.numChannels := by
  unfold evaluateSinkFollow at h
  split_ifs at h with h1 h2 h3 h4 h5
  rw [not_or] at h1
  exact ⟨h1.1, not_not.mp h1.2, not_not.mp h5⟩

theorem bound_of_mem_matching {p : Repoint} (h : p ∈ s.matching announced) :
    Bound announced s p := by
  obtain ⟨⟨id, managed⟩, hmem, hp⟩ := List.mem_filterMap.mp h
  dsimp only at hp
  split_ifs at hp with hr hd
  cases hp
  obtain ⟨-, hname, hn⟩ := of_follow hd
  refine ⟨⟨managed, (OrdMap.mem_entries_iff _).mp hmem, by simpa using hr, hn, rfl⟩, ?_⟩
  show { announced with sessionName := managed.sdp.sessionName } = announced
  rw [hname]

theorem matching_pairwise (s : StreamManager) (announced : SDPSession) :
    (s.matching announced).Pairwise fun p q => q.id ≠ p.id := by
  have hkeys : s.streams.entries.Pairwise fun a b => a.1 < b.1 := s.streams.sorted
  refine List.Pairwise.filterMap _ (fun a b hab p hp q hq => ?_) hkeys
  dsimp only at hp hq
  split_ifs at hp hq
  cases hp
  cases hq
  exact ne_of_gt hab

theorem pending_matching : Pending announced s (s.matching announced).zipIdx := by
  refine ⟨?_, fun e he => bound_of_mem_matching (List.fst_mem_of_mem_zipIdx he)⟩
  have h := matching_pairwise s announced
  rw [← List.zipIdx_map_fst 0 (s.matching announced), List.pairwise_map] at h
  exact h

/-- The sinks an announcement is taken to: none where following is switched off. -/
def followers (s : StreamManager) (announced : SDPSession) (trigger : RepointTrigger) :
    List (Repoint × ℕ) :=
  if trigger = .announcement ∧ !s.autoSinkFollowEnabled then []
  else (s.matching announced).zipIdx

theorem pending_followers (s : StreamManager) (announced : SDPSession) (trigger : RepointTrigger) :
    Pending announced s (s.followers announced trigger) := by
  rw [followers]
  split_ifs
  · exact ⟨List.Pairwise.nil, nofun⟩
  · exact pending_matching

/-- An announcement takes its followers along one after another. -/
theorem updateReceiveStreamsFromAnnouncement_eq (s : StreamManager) (env : Env)
    (announced : SDPSession) (trigger : RepointTrigger) :
    (s.updateReceiveStreamsFromAnnouncement env announced trigger).1 =
      (s.followers announced trigger).foldl (repointOne env) s := by
  unfold updateReceiveStreamsFromAnnouncement followers
  split_ifs with hoff hname
  · rfl
  · have hnone : s.matching announced = [] := by
      refine List.filterMap_eq_nil_iff.mpr fun e _ => ?_
      dsimp only
      split_ifs with hr hd
      · rfl
      · exact absurd hname (of_follow hd).1
      · rfl
    rw [hnone]
    rfl
  · rw [repoint_eq]

/-- **When an announcement loses no sink**: exactly when each sink bound to the announced source can
follow, each on the manager the ones before it leave. -/
theorem noSinkLost_iff (s : StreamManager) (env : Env) (announced : SDPSession)
    (trigger : RepointTrigger) :
    NoSinkLost announced s (s.updateReceiveStreamsFromAnnouncement env announced trigger).1 ↔
      Along (repointOne env) (CanFollow env) s (s.followers announced trigger) := by
  rw [updateReceiveStreamsFromAnnouncement_eq]
  exact noSinkLost_foldl_iff (pending_followers s announced trigger)

/-- A session with a known origin. -/
def fromOrigin (address : String) (sampleRate : UInt32) : SDPSession :=
  { stereo "a" address with originAddress := "10.0.0.1".toList, sampleRate := sampleRate }

/-- **A sink lost**: its source comes back at a rate the device does not run at. -/
theorem rate_change_loses : ¬ NoSinkLost (fromOrigin "239.1.1.2" 96000)
    ([.addStream (quiet 1 (by decide)) (fromOrigin "239.1.1.1" 48000)].foldl step {})
    (updateReceiveStreamsFromAnnouncement
      ([.addStream (quiet 1 (by decide)) (fromOrigin "239.1.1.1" 48000)].foldl step {})
      (quiet 2 (by decide)) (fromOrigin "239.1.1.2" 96000) .announcement).1 := by
  intro h
  exact absurd h.card_le (by decide +kernel)

end Aes67.StreamManager
