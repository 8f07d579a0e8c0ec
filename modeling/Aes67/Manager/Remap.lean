import Aes67.Manager.Accounting

/-!
# Remapping a stream

`updateMapping` changes the mapping in the mapper, then in the RTP object, which stops for it and
starts again, then in the record. A mapping that the RTP object refuses is taken back from the
mapper; one that it has taken and cannot start on again is not taken back from it.

* `Ready`: an RTP object runs only where it could be started, in every state of every run
  (`always_ready`);
* `HeldBy`: the three have the same mapping; `Atomic`: all three keep the old mapping or all three
  have the new one;
* `updateMapping_cases`: what an update comes to;
* **`atomic_iff`**: an update is atomic exactly where a stream that runs can start again, and no
  earlier one has left the RTP object behind.
-/

namespace Aes67.StreamManager

open Sdp (SDPSession)

variable {s s' : StreamManager} {id : StreamID} {managed : ManagedStream}
  {newMapping : ChannelMapping} {opens : Bool}

/-! ## RTP objects that can start -/

/-- Each RTP object has its stream's session, and runs only where it could be started. -/
def Ready (s : StreamManager) : Prop :=
  ∀ id managed, s.streams.find? id = some managed →
    managed.rtp.sdp = managed.sdp ∧ (managed.rtp.running = true → Startable managed.sdp)

/-- What an RTP object makes of a mapping. -/
theorem rtp_updateMapping_eq (r : Rtp) (mapping : ChannelMapping) (opens : Bool)
    (h : r.running = true → Startable r.sdp) :
    (mapping.fitsDevice r.sdp.numChannels.toNat = false ∧
      r.updateMapping mapping opens = (r, false)) ∨
    (mapping.fitsDevice r.sdp.numChannels.toNat = true ∧ (r.running = true → opens = true) ∧
      r.updateMapping mapping opens = ({ r with mapping := mapping }, true)) ∨
    (mapping.fitsDevice r.sdp.numChannels.toNat = true ∧ r.running = true ∧ opens = false ∧
      r.updateMapping mapping opens = ({ r.stop with mapping := mapping }, false)) := by
  by_cases hstart : r.running = true → opens = true
  · rcases rtp_updateMapping_cases mapping (fun hr => ⟨hstart hr, h hr⟩) with hrest | ⟨hfit, e⟩
    · exact Or.inl hrest
    · exact Or.inr (Or.inl ⟨hfit, hstart, e⟩)
  · obtain ⟨hr, hopens⟩ := Classical.not_imp.mp hstart
    rw [Bool.not_eq_true] at hopens
    rw [Rtp.updateMapping]
    cases hfit : mapping.fitsDevice r.sdp.numChannels.toNat with
    | false => exact Or.inl ⟨rfl, rfl⟩
    | true =>
      refine Or.inr (Or.inr ⟨rfl, hr, hopens, ?_⟩)
      rw [if_neg (by simp), if_pos hr, hopens]
      rcases start_cases { r.stop with mapping := mapping } false with e | ⟨-, hf, -⟩
      · exact e
      · cases hf

theorem ready_remapped (h : Ready s) (id : StreamID) (newMapping : ChannelMapping) (opens : Bool) :
    Ready (s.updateMapping id newMapping opens).1 := by
  rw [updateMapping]
  cases hf : s.streams.find? id with
  | none => exact h
  | some managed =>
  dsimp only
  rcases s.mapper.updateMapping (completed id managed newMapping) with ⟨mapper, _ | _⟩
  · exact h
  dsimp only
  obtain ⟨hsdp, hready⟩ := h id managed hf
  have hnext : ∀ (rtp : Rtp) (mapping : ChannelMapping), rtp.sdp = managed.rtp.sdp →
      (rtp.running = true → managed.rtp.running = true) → ∀ id' managed',
      (s.streams.insert id { managed with rtp := rtp, mapping := mapping }).find? id' =
        some managed' →
      managed'.rtp.sdp = managed'.sdp ∧ (managed'.rtp.running = true → Startable managed'.sdp) := by
    intro rtp mapping hs hrun id' managed' hf'
    rw [OrdMap.find?_insert] at hf'
    split_ifs at hf'
    · cases hf'
      exact ⟨hs.trans hsdp, fun hr => hready (hrun hr)⟩
    · exact h id' managed' hf'
  rcases rtp_updateMapping_eq managed.rtp (completed id managed newMapping) opens
      (fun hr => hsdp ▸ hready hr) with ⟨-, e⟩ | ⟨-, -, e⟩ | ⟨-, -, -, e⟩
  · rw [e]
    exact hnext managed.rtp managed.mapping rfl fun hr => hr
  · rw [e]
    exact hnext _ _ rfl fun hr => hr
  · rw [e]
    exact hnext _ managed.mapping rfl fun hr => by cases hr

theorem ready_move {A : StreamManager → SDPSession → Bool → Prop} (h : Ready s)
    (hm : Move A s s') : Ready s' := by
  cases hm with
  | tried added new => exact h
  | kept added new opened _ =>
    intro id managed' hf
    rw [keep_streams, OrdMap.find?_insert] at hf
    split_ifs at hf
    · cases hf
      exact ⟨opened.rtp_sdp, opened.ready⟩
    · exact h id managed' hf
  | removed id =>
    intro id' managed hf
    rw [removeStream_streams, OrdMap.find?_erase] at hf
    split_ifs at hf
    exact h id' managed hf
  | cleared => exact fun _ _ hf => by cases hf
  | remapped id newMapping opens => exact ready_remapped h id newMapping opens
  | switched active opens =>
    rw [setIOActive]
    by_cases hio : s.ioActive = active
    · rw [if_pos hio]
      exact h
    · rw [if_neg hio]
      intro id managed' hf
      dsimp only at hf
      rw [OrdMap.find?_mapWithKey] at hf
      obtain ⟨managed, hfound, rfl⟩ := Option.map_eq_some_iff.mp hf
      obtain ⟨hsdp, hready⟩ := h id managed hfound
      cases active with
      | false => exact ⟨hsdp, fun hr => by cases hr⟩
      | true =>
        rcases start_cases managed.rtp (opens id) with e | ⟨hstart, -, e⟩
        · simp only [if_true, e]
          exact ⟨hsdp, hready⟩
        · simp only [if_true, e]
          exact ⟨hsdp, fun _ => hsdp ▸ hstart⟩
  | retuned sampleRate =>
    rw [setDeviceSampleRate]
    split_ifs
    · exact h
    · exact h
    · exact h

theorem ready_step (h : Ready s) {op : Op} (fresh : Fresh s op) : Ready (s.step op) := by
  refine kept_step (A := fun _ _ _ => True) (fun _ _ hm h => ready_move h hm)
    (fun _ _ _ _ _ => trivial) h fresh (fun _ _ _ => along_of_forall fun _ _ _ => trivial) ?_
  intro setting
  cases op with
  | setCompatibilityProfile _ | setUsableChannelCount _ | setUsableTxChannelCount _
  | setTxFlowPortOffset _ | setAutoSinkFollow _ | setPTPEnabled _ | setRequirePTPLock _
  | setIgnoreRefClockMismatch _ => exact h
  | _ => cases setting

theorem always_ready {ops : List Op} (fresh : Along step Fresh {} ops) : Always step Ready {} ops :=
  always_of_along (fun _ _ h hf => ready_step h hf) (fun _ _ hf => by cases hf) fresh

/-! ## One update -/

/-- The mapper, the record and the RTP object of a stream have the mapping. -/
structure HeldBy (s : StreamManager) (id : StreamID) (mapping : ChannelMapping) : Prop where
  mapper : s.mapper.getMapping id = some mapping
  record : (s.streams.find? id).map ManagedStream.mapping = some mapping
  rtp : (s.streams.find? id).map (fun managed => managed.rtp.mapping) = some mapping

/-- An update changes the mapping everywhere or nowhere. -/
structure Atomic (s : StreamManager) (id : StreamID) (managed : ManagedStream)
    (newMapping : ChannelMapping) (opens : Bool) : Prop where
  failed : (s.updateMapping id newMapping opens).2 = false →
    (s.updateMapping id newMapping opens).1.mapper = s.mapper ∧
      HeldBy (s.updateMapping id newMapping opens).1 id managed.mapping
  done : (s.updateMapping id newMapping opens).2 = true →
    HeldBy (s.updateMapping id newMapping opens).1 id (completed id managed newMapping)

/-- The mapper takes the mapping for the stream, and the RTP object finds that it fits. -/
structure Taken (s : StreamManager) (id : StreamID) (managed : ManagedStream)
    (mapping : ChannelMapping) : Prop where
  valid : mapping.isValid = true
  free : s.mapper.isOverlapWithStream mapping id = false
  fits : mapping.fitsDevice managed.sdp.numChannels.toNat = true

/-- A mapping that is taken can be started on where the stream runs, or is the one it had; one that
is refused finds the RTP object on the stream's mapping. -/
structure Recovers (s : StreamManager) (id : StreamID) (managed : ManagedStream)
    (newMapping : ChannelMapping) (opens : Bool) : Prop where
  taken : Taken s id managed (completed id managed newMapping) →
    (managed.rtp.running = true → opens = true) ∨ completed id managed newMapping = managed.mapping
  refused : ¬ Taken s id managed (completed id managed newMapping) →
    managed.rtp.mapping = managed.mapping

section Outcomes

variable {mapper : Mapper} {rtp : Rtp} (hf : s.streams.find? id = some managed)

include hf

theorem updateMapping_of_refused
    (h : s.mapper.updateMapping (completed id managed newMapping) = (mapper, false)) :
    s.updateMapping id newMapping opens = (s, false) := by
  rw [updateMapping, hf]
  dsimp only
  rw [h]

theorem updateMapping_of_false
    (h : s.mapper.updateMapping (completed id managed newMapping) = (mapper, true))
    (hr : managed.rtp.updateMapping (completed id managed newMapping) opens = (rtp, false)) :
    s.updateMapping id newMapping opens =
      ({ s with
        mapper := (mapper.updateMapping managed.mapping).1
        streams := s.streams.insert id { managed with rtp := rtp } }, false) := by
  rw [updateMapping, hf]
  dsimp only
  rw [h]
  dsimp only
  rw [hr]

theorem updateMapping_of_true
    (h : s.mapper.updateMapping (completed id managed newMapping) = (mapper, true))
    (hr : managed.rtp.updateMapping (completed id managed newMapping) opens = (rtp, true)) :
    s.updateMapping id newMapping opens =
      ({ s with
        mapper := mapper
        streams := s.streams.insert id
          { managed with rtp := rtp, mapping := completed id managed newMapping } }, true) := by
  rw [updateMapping, hf]
  dsimp only
  rw [h]
  dsimp only
  rw [hr]

/-- **Where the RTP object fails, the mapper has its old mapping back.** -/
theorem mapper_of_false (hm : Mapped s)
    (h : s.mapper.updateMapping (completed id managed newMapping) = (mapper, true))
    (hr : managed.rtp.updateMapping (completed id managed newMapping) opens = (rtp, false)) :
    (s.updateMapping id newMapping opens).1.mapper = s.mapper := by
  have hu := s.mapper.usable_updateMapping (completed id managed newMapping)
  rw [h] at hu
  refine hm.mapper_eq (mapped_remapped hm id newMapping opens) (fun id' => ?_) ?_
  · rw [updateMapping_of_false hf h hr]
    dsimp only
    rw [OrdMap.find?_insert]
    split_ifs with hid
    · rw [hid, hf]
      rfl
    · rfl
  · rw [updateMapping_of_false hf h hr]
    exact (mapper.usable_updateMapping managed.mapping).trans hu

end Outcomes

theorem mapper_updateMapping_snd (m : Mapper) (mapping : ChannelMapping) :
    (m.updateMapping mapping).2 = true ↔
      mapping.isValid = true ∧ m.isOverlapWithStream mapping mapping.streamID = false := by
  rw [Mapper.updateMapping]
  split_ifs with h1 h2
  · simp_all
  · simp_all
  · simp_all

/-- **What an update comes to.** -/
theorem updateMapping_cases (newMapping : ChannelMapping) (opens : Bool) (h : Mapped s)
    (hready : Ready s) (hf : s.streams.find? id = some managed) :
    (¬ Taken s id managed (completed id managed newMapping) ∧
      (s.updateMapping id newMapping opens).2 = false ∧
      (s.updateMapping id newMapping opens).1.mapper = s.mapper ∧
      (s.updateMapping id newMapping opens).1.streams.find? id = some managed) ∨
    (Taken s id managed (completed id managed newMapping) ∧
      (managed.rtp.running = true → opens = true) ∧
      (s.updateMapping id newMapping opens).2 = true ∧
      (s.updateMapping id newMapping opens).1.streams.find? id =
        some { managed with
          mapping := completed id managed newMapping
          rtp := { managed.rtp with mapping := completed id managed newMapping } }) ∨
    (Taken s id managed (completed id managed newMapping) ∧ managed.rtp.running = true ∧
      opens = false ∧ (s.updateMapping id newMapping opens).2 = false ∧
      (s.updateMapping id newMapping opens).1.mapper = s.mapper ∧
      (s.updateMapping id newMapping opens).1.streams.find? id =
        some { managed with
          rtp := { managed.rtp.stop with mapping := completed id managed newMapping } }) := by
  obtain ⟨hsdp, hstart⟩ := hready id managed hf
  have hsnd := mapper_updateMapping_snd s.mapper (completed id managed newMapping)
  rcases hup : s.mapper.updateMapping (completed id managed newMapping) with ⟨mapper, _ | _⟩
  · rw [updateMapping_of_refused hf hup]
    rw [hup] at hsnd
    exact Or.inl ⟨fun ht => Bool.noConfusion (hsnd.mpr ⟨ht.valid, ht.free⟩), rfl, rfl, hf⟩
  · rw [hup] at hsnd
    obtain ⟨hvalid, hfree⟩ := hsnd.mp rfl
    rcases rtp_updateMapping_eq managed.rtp (completed id managed newMapping) opens
        (fun hr => hsdp ▸ hstart hr) with ⟨hfit, e⟩ | ⟨hfit, hopens, e⟩ | ⟨hfit, hr, hopens, e⟩
    · rw [mapper_of_false hf h hup e, updateMapping_of_false hf hup e]
      refine Or.inl ⟨fun ht => ?_, rfl, rfl, OrdMap.find?_insert_self _ _ _⟩
      rw [hsdp, ht.fits] at hfit
      cases hfit
    · rw [updateMapping_of_true hf hup e]
      exact Or.inr (Or.inl ⟨⟨hvalid, hfree, hsdp ▸ hfit⟩, hopens, rfl, OrdMap.find?_insert_self _ _ _⟩)
    · rw [mapper_of_false hf h hup e, updateMapping_of_false hf hup e]
      exact Or.inr (Or.inr ⟨⟨hvalid, hfree, hsdp ▸ hfit⟩, hr, hopens, rfl, rfl,
        OrdMap.find?_insert_self _ _ _⟩)

/-- **An update is atomic exactly where it recovers.** -/
theorem atomic_iff_of_mapped (newMapping : ChannelMapping) (opens : Bool) (h : Mapped s)
    (hready : Ready s) (hf : s.streams.find? id = some managed) :
    Atomic s id managed newMapping opens ↔ Recovers s id managed newMapping opens := by
  have hold : s.mapper.getMapping id = some managed.mapping := h.find?_eq_some hf
  rcases updateMapping_cases newMapping opens h hready hf with ⟨hnot, hfail, hmapper, hfound⟩ |
    ⟨ht, hopens, hok, hfound⟩ | ⟨ht, hr, hopens, hfail, hmapper, hfound⟩
  · constructor
    · intro ha
      have hrtp := (ha.failed hfail).2.rtp
      rw [hfound] at hrtp
      exact ⟨fun ht => absurd ht hnot, fun _ => Option.some.inj hrtp⟩
    · intro hrec
      refine ⟨fun _ => ⟨hmapper, ?_, ?_, ?_⟩, fun hok => ?_⟩
      · rw [hmapper]
        exact hold
      · rw [hfound]
        rfl
      · rw [hfound]
        exact congrArg some (hrec.refused hnot)
      · rw [hfail] at hok
        cases hok
  · refine iff_of_true ⟨fun hfail => ?_, fun _ => ⟨?_, ?_, ?_⟩⟩
      ⟨fun _ => Or.inl hopens, fun hnot => absurd ht hnot⟩
    · rw [hok] at hfail
      cases hfail
    · exact (mapped_remapped h id newMapping opens).find?_eq_some hfound
    · rw [hfound]
      rfl
    · rw [hfound]
      rfl
  · constructor
    · intro ha
      have hrtp := (ha.failed hfail).2.rtp
      rw [hfound] at hrtp
      exact ⟨fun _ => Or.inr (Option.some.inj hrtp), fun hnot => absurd ht hnot⟩
    · intro hrec
      refine ⟨fun _ => ⟨hmapper, ?_, ?_, ?_⟩, fun hok => ?_⟩
      · rw [hmapper]
        exact hold
      · rw [hfound]
        rfl
      · rw [hfound]
        refine congrArg some ((hrec.taken ht).resolve_left fun hstart => ?_)
        rw [hstart hr] at hopens
        cases hopens
      · rw [hfail] at hok
        cases hok

/-- **In every state of every run, an update changes the mapping everywhere or nowhere exactly where
it recovers.** -/
theorem updateMapping_atomic_iff (ops : List Op) (fresh : Along step Fresh {} ops)
    (hf : (ops.foldl step {}).streams.find? id = some managed) (newMapping : ChannelMapping)
    (opens : Bool) :
    Atomic (ops.foldl step {}) id managed newMapping opens ↔
      Recovers (ops.foldl step {}) id managed newMapping opens :=
  atomic_iff_of_mapped newMapping opens (always_books fresh).run.toMapped (always_ready fresh).run hf

/-- A stream received on channels 0 and 1. -/
def oneRunning : List Op :=
  [.setIOActive true fun _ => true, .addStream (numbered 1) (stereo "a" "239.1.1.1")]

/-- It is moved to channels 8 and 9. -/
theorem oneRunning_atomic : ∃ managed,
    (oneRunning.foldl step {}).streams.find? ⟨1, by decide⟩ = some managed ∧
      Atomic (oneRunning.foldl step {}) ⟨1, by decide⟩ managed
        { deviceChannelStart := 8, deviceChannelCount := 2 } true := by
  have hsync : ((oneRunning.foldl step {}).streams.find? ⟨1, by decide⟩).map
      (fun managed => decide (managed.rtp.mapping = managed.mapping)) = some true := by
    decide +kernel
  obtain ⟨managed, hf, hmapping⟩ := Option.map_eq_some_iff.mp hsync
  exact ⟨managed, hf, (updateMapping_atomic_iff oneRunning ⟨trivial, trivial, trivial⟩ hf
    { deviceChannelStart := 8, deviceChannelCount := 2 } true).mpr
      ⟨fun _ => Or.inl fun _ => rfl, fun _ => of_decide_eq_true hmapping⟩⟩

/-- **The RTP object is left on channels 8 and 9** when its socket does not open again: the mapper
and the record go back to channels 0 and 1. -/
theorem oneRunning_not_atomic : ∃ managed,
    (oneRunning.foldl step {}).streams.find? ⟨1, by decide⟩ = some managed ∧
      ¬ Atomic (oneRunning.foldl step {}) ⟨1, by decide⟩ managed
        { deviceChannelStart := 8, deviceChannelCount := 2 } false := by
  have hstart : ((oneRunning.foldl step {}).streams.find? ⟨1, by decide⟩).map
      (fun managed => managed.mapping.deviceChannelStart) = some 0 := by
    decide +kernel
  have hafter : (((oneRunning.foldl step {}).updateMapping ⟨1, by decide⟩
      { deviceChannelStart := 8, deviceChannelCount := 2 } false).1.streams.find?
        ⟨1, by decide⟩).map (fun managed => managed.rtp.mapping.deviceChannelStart) = some 8 := by
    decide +kernel
  obtain ⟨managed, hf, hzero⟩ := Option.map_eq_some_iff.mp hstart
  refine ⟨managed, hf, fun h => ?_⟩
  obtain ⟨-, hheld⟩ := h.failed (by decide +kernel)
  obtain ⟨managed', hf', hmapping⟩ := Option.map_eq_some_iff.mp hheld.rtp
  rw [hf', Option.map_some, hmapping, hzero] at hafter
  exact absurd hafter (by decide)

end Aes67.StreamManager
