import Aes67.Lib.Totals
import Aes67.Manager.Moves

/-!
# The manager's books

The manager keeps three records of the same streams: the table of them, the mapper's mappings, and
a running total of channels in each direction. Every call changes all three, or gives back what it
took.

* `channelTotal`: the channels of a direction, counted over the streams;
* `Accounted`: the totals are these, and the mapper holds the streams' mappings and no others;
* `Books`: with it, that the mapper is consistent, which bounds the streams by the device's
  channels and so keeps the totals from wrapping;
* `Books.determined`: the streams decide the mapper and the totals;
* **`always_accounted`**: the records agree throughout every run.
-/

namespace Aes67.StreamManager

open Sdp (SDPSession)

variable {s s' : StreamManager} {A : StreamManager → SDPSession → Bool → Prop}

/-! ## The records -/

/-- A stream's channels where they count for the direction. -/
def channelsOf (isTransmit : Bool) (managed : ManagedStream) : ℕ :=
  if managed.isTransmit = isTransmit then managed.sdp.numChannels.toNat else 0

/-- The channels of a direction, over the streams. -/
def channelTotal (s : StreamManager) (isTransmit : Bool) : ℕ :=
  s.streams.total (channelsOf isTransmit)

/-- The three records agree. -/
structure Accounted (s : StreamManager) : Prop where
  totals : ∀ t, (s.channelsInUse t).toNat = s.channelTotal t
  mappings : ∀ id, s.mapper.getMapping id = (s.streams.find? id).map ManagedStream.mapping

/-- The mapper holds the streams' mappings and no others, and its two representations agree. -/
structure Mapped (s : StreamManager) : Prop where
  mappings : ∀ id, s.mapper.getMapping id = (s.streams.find? id).map ManagedStream.mapping
  filed : s.mapper.Filed
  consistent : s.mapper.Consistent

/-- The books in order. -/
structure Books (s : StreamManager) : Prop extends Mapped s where
  totals : ∀ t, (s.channelsInUse t).toNat = s.channelTotal t

theorem Books.accounted (h : Books s) : Accounted s := ⟨h.totals, h.mappings⟩

namespace Mapped

variable {id : StreamID} {managed : ManagedStream}

theorem find?_eq_none (h : Mapped s) (hn : s.streams.find? id = none) :
    s.mapper.mappings.find? id = none := by
  have := h.mappings id
  rw [hn] at this
  exact this

theorem find?_eq_some (h : Mapped s) (hf : s.streams.find? id = some managed) :
    s.mapper.mappings.find? id = some managed.mapping := by
  have := h.mappings id
  rw [hf] at this
  exact this

theorem valid (h : Mapped s) (hf : s.streams.find? id = some managed) :
    managed.mapping.Valid ∧ managed.mapping.streamID = id :=
  h.filed id managed.mapping (h.find?_eq_some hf)

/-- A stream owns the channels of its mapping. -/
theorem owns (h : Mapped s) (hf : s.streams.find? id = some managed) :
    s.mapper.Owns id managed.mapping := by
  intro c hc
  obtain ⟨hv, hid⟩ := h.valid hf
  exact (h.consistent.owner_iff c id (hid ▸ hv.streamID_ne)).mpr
    ⟨managed.mapping, h.find?_eq_some hf, hc⟩

/-- No more streams than the device has channels. -/
theorem length_le (h : Mapped s) : s.streams.keys.length ≤ kMaxDeviceChannels := by
  have := s.streams.length_keys_le s.mapper.deviceChannelOwners fun id managed hf => by
    obtain ⟨c, hc⟩ := (h.valid hf).1.exists_mem
    exact ⟨⟨c, (h.valid hf).1.lt_of_mem hc⟩, h.owns hf _ hc⟩
  simpa using this

/-- A total is far from wrapping. -/
theorem total_lt (h : Mapped s) (t : Bool) : s.channelTotal t < 2 ^ 32 := by
  have hle : s.channelTotal t ≤ s.streams.keys.length * 2 ^ 16 := by
    refine s.streams.total_le _ fun id managed _ => ?_
    rw [channelsOf]
    split_ifs
    · exact managed.sdp.numChannels.toNat_lt.le
    · exact Nat.zero_le _
  calc s.channelTotal t ≤ s.streams.keys.length * 2 ^ 16 := hle
    _ ≤ kMaxDeviceChannels * 2 ^ 16 := Nat.mul_le_mul_right _ h.length_le
    _ < 2 ^ 32 := by decide

end Mapped

/-- The mappings of the streams decide the mapper. -/
theorem Mapped.mapper_eq (h : Mapped s) (h' : Mapped s')
    (hs : ∀ id, (s'.streams.find? id).map ManagedStream.mapping =
      (s.streams.find? id).map ManagedStream.mapping)
    (hu : s'.mapper.usableChannelCount = s.mapper.usableChannelCount) : s'.mapper = s.mapper := by
  refine h'.consistent.ext h.consistent (OrdMap.ext_find? fun id => ?_) hu
  have := h'.mappings id
  rw [hs, ← h.mappings id] at this
  exact this

/-- **The streams decide the rest.** -/
theorem Books.determined (h : Books s) (h' : Books s') (hs : s'.streams = s.streams)
    (hu : s'.mapper.usableChannelCount = s.mapper.usableChannelCount) :
    s'.mapper = s.mapper ∧ s'.rxChannelsInUse = s.rxChannelsInUse ∧
      s'.txChannelsInUse = s.txChannelsInUse := by
  have htotal : ∀ t, s'.channelsInUse t = s.channelsInUse t := fun t => by
    refine UInt32.toNat_inj.mp ?_
    rw [h'.totals, h.totals, channelTotal, channelTotal, hs]
  exact ⟨h.mapper_eq h'.toMapped (fun id => by rw [hs]) hu, htotal false, htotal true⟩

/-! ## What each move does to them -/

theorem channelsInUse_keep (s : StreamManager) (mapper : Mapper) (managed : ManagedStream)
    (t : Bool) : (s.keep mapper managed).channelsInUse t =
      if managed.isTransmit = t then s.channelsInUse t + managed.sdp.numChannels.toUInt32
      else s.channelsInUse t := by
  rw [keep_eq]
  unfold channelsInUse
  cases t <;> cases managed.isTransmit <;> rfl

/-- A direction's total with one stream more. -/
theorem channelTotal_keep {mapper : Mapper} {managed : ManagedStream}
    (new : s.streams.find? managed.mapping.streamID = none) (t : Bool) :
    (s.keep mapper managed).channelTotal t = s.channelTotal t + channelsOf t managed := by
  rw [channelTotal, keep_streams, OrdMap.total_insert_of_none _ _ _ new]
  rfl

section Moves

variable {mapping : ChannelMapping} {mapper : Mapper} {managed : ManagedStream} {id : StreamID}

theorem mapped_tried (h : Mapped s) (added : s.mapper.addMapping mapping = (mapper, true))
    (new : s.streams.find? mapping.streamID = none) :
    Mapped { s with mapper := (mapper.removeMapping mapping.streamID).1 } := by
  have hadd : (s.mapper.addMapping mapping).1 = mapper := by rw [added]
  have hfiled := Mapper.filed_addMapping h.filed mapping
  have hcons := Mapper.consistent_addMapping h.filed h.consistent
    (fun _ => h.find?_eq_none new : s.mapper.FreshEntry mapping)
  rw [hadd] at hfiled hcons
  refine ⟨fun id => ?_, Mapper.filed_removeMapping hfiled _,
    Mapper.consistent_removeMapping hfiled hcons _⟩
  rw [← h.mappings id, Mapper.getMapping, Mapper.find?_removeMapping]
  split_ifs with hid
  · rw [hid, Mapper.getMapping, h.find?_eq_none new]
  · exact (Mapper.find?_addMapping added id).trans (if_neg hid)

theorem books_tried (h : Books s) (added : s.mapper.addMapping mapping = (mapper, true))
    (new : s.streams.find? mapping.streamID = none) :
    Books { s with mapper := (mapper.removeMapping mapping.streamID).1 } :=
  ⟨mapped_tried h.toMapped added new, h.totals⟩

theorem mapped_keep (h : Mapped s) (added : s.mapper.addMapping managed.mapping = (mapper, true))
    (new : s.streams.find? managed.mapping.streamID = none) : Mapped (s.keep mapper managed) := by
  have hadd : (s.mapper.addMapping managed.mapping).1 = mapper := by rw [added]
  have hfiled := Mapper.filed_addMapping h.filed managed.mapping
  have hcons := Mapper.consistent_addMapping h.filed h.consistent
    (fun _ => h.find?_eq_none new : s.mapper.FreshEntry managed.mapping)
  rw [hadd] at hfiled hcons
  refine ⟨fun id => ?_, by rwa [keep_mapper], by rwa [keep_mapper]⟩
  rw [keep_mapper, keep_streams, OrdMap.find?_insert, Mapper.getMapping,
    Mapper.find?_addMapping added]
  split_ifs
  · rfl
  · exact h.mappings id

theorem books_keep (h : Books s) (added : s.mapper.addMapping managed.mapping = (mapper, true))
    (new : s.streams.find? managed.mapping.streamID = none) : Books (s.keep mapper managed) := by
  have hmapped := mapped_keep h.toMapped added new
  refine ⟨hmapped, fun t => ?_⟩
  have hlt := hmapped.total_lt t
  rw [channelTotal_keep new] at hlt ⊢
  rw [channelsInUse_keep, ← h.totals, channelsOf] at *
  split_ifs at hlt ⊢
  · rw [UInt32.toNat_add, UInt16.toNat_toUInt32, Nat.mod_eq_of_lt hlt]
  · rfl

theorem channelsInUse_removed (hf : s.streams.find? id = some managed) (t : Bool) :
    (s.removeStream id).1.channelsInUse t =
      if managed.isTransmit = t then s.channelsInUse t - managed.sdp.numChannels.toUInt32
      else s.channelsInUse t := by
  rw [removeStream_of_find? hf]
  unfold channelsInUse
  cases t <;> cases managed.isTransmit <;> rfl

theorem channelTotal_removed (hf : s.streams.find? id = some managed) (t : Bool) :
    (s.removeStream id).1.channelTotal t + channelsOf t managed = s.channelTotal t := by
  have := s.streams.total_erase (channelsOf t) id
  rw [hf] at this
  rw [channelTotal, removeStream_streams]
  exact this

theorem books_removed (h : Books s) (id : StreamID) : Books (s.removeStream id).1 := by
  cases hf : s.streams.find? id with
  | none =>
    rw [removeStream_of_none hf]
    exact h
  | some managed =>
    have hmapper : (s.removeStream id).1.mapper = (s.mapper.removeMapping id).1 := by
      rw [removeStream_of_find? hf]
      rfl
    refine ⟨⟨fun id' => ?_, ?_, ?_⟩, fun t => ?_⟩
    · rw [removeStream_streams, hmapper, Mapper.getMapping, Mapper.find?_removeMapping, OrdMap.find?_erase]
      split_ifs
      · rfl
      · exact h.mappings id'
    · rw [hmapper]
      exact Mapper.filed_removeMapping h.filed id
    · rw [hmapper]
      exact Mapper.consistent_removeMapping h.filed h.consistent id
    · have htotal := channelTotal_removed hf t
      rw [channelsInUse_removed hf t]
      rw [← h.totals t, channelsOf] at htotal
      split_ifs at htotal ⊢
      · rw [UInt32.toNat_sub_of_le, UInt16.toNat_toUInt32]
        · omega
        · rw [UInt32.le_iff_toNat_le, UInt16.toNat_toUInt32]
          omega
      · omega

theorem books_cleared (s : StreamManager) : Books s.removeAllStreams :=
  ⟨⟨fun _ => rfl, Mapper.filed_clearAll s.mapper, Mapper.consistent_clearAll s.mapper⟩,
    fun t => by cases t <;> rfl⟩

/-- A stream whose record changes in what the books do not read. -/
theorem channelTotal_insert (hf : s.streams.find? id = some managed) (managed' : ManagedStream)
    (hn : managed'.sdp = managed.sdp) (ht : managed'.isTransmit = managed.isTransmit) (t : Bool) :
    (s.streams.insert id managed').total (channelsOf t) = s.channelTotal t := by
  have := s.streams.total_insert (channelsOf t) id managed'
  have hsame : channelsOf t managed' = channelsOf t managed := by
    rw [channelsOf, channelsOf, hn, ht]
  rw [hf, hsame] at this
  simp only [Option.map_some, Option.getD_some] at this
  rw [channelTotal]
  omega

/-- Remapping a stream changes no total. -/
theorem totals_remapped (s : StreamManager) (id : StreamID) (newMapping : ChannelMapping)
    (opens t : Bool) :
    (s.updateMapping id newMapping opens).1.channelTotal t = s.channelTotal t ∧
      (s.updateMapping id newMapping opens).1.channelsInUse t = s.channelsInUse t := by
  rcases s.updateMapping_eq id newMapping opens with
    e | ⟨managed, managed', mapper, hf, hsdp, hdirection, e⟩
  · rw [e]
    exact ⟨rfl, rfl⟩
  · rw [e]
    exact ⟨channelTotal_insert hf managed' hsdp hdirection t, rfl⟩

theorem mapped_remapped (h : Mapped s) (id : StreamID) (newMapping : ChannelMapping)
    (opens : Bool) : Mapped (s.updateMapping id newMapping opens).1 := by
  rw [updateMapping]
  cases hf : s.streams.find? id with
  | none => exact h
  | some managed =>
  dsimp only
  rcases hup : s.mapper.updateMapping (completed id managed newMapping) with ⟨mapper, _ | _⟩
  · exact h
  have hnew : (s.mapper.updateMapping (completed id managed newMapping)).1 = mapper := by rw [hup]
  have hfiled := Mapper.filed_updateMapping h.filed (completed id managed newMapping)
  have hcons := Mapper.consistent_updateMapping h.filed h.consistent (completed id managed newMapping)
  rw [hnew] at hfiled hcons
  dsimp only
  rcases managed.rtp.updateMapping (completed id managed newMapping) opens with ⟨rtp, _ | _⟩
  · -- The mapper takes the old mapping back.
    obtain ⟨hv, hid⟩ := h.valid hf
    obtain ⟨mapper', hback⟩ := Mapper.updateMapping_back hv hup hid (h.owns hf)
    refine ⟨fun id' => ?_, Mapper.filed_updateMapping hfiled _,
      Mapper.consistent_updateMapping hfiled hcons _⟩
    dsimp only
    rw [hback, Mapper.getMapping, Mapper.find?_updateMapping hback, OrdMap.find?_insert, hid]
    split_ifs with he
    · rfl
    · rw [Mapper.find?_updateMapping hup]
      exact (if_neg he).trans (h.mappings id')
  · refine ⟨fun id' => ?_, hfiled, hcons⟩
    dsimp only
    rw [Mapper.getMapping, Mapper.find?_updateMapping hup, OrdMap.find?_insert]
    split_ifs with h1 h2 h2
    · rfl
    · exact absurd h1 h2
    · exact absurd h2 h1
    · exact h.mappings id'

theorem books_remapped (h : Books s) (id : StreamID) (newMapping : ChannelMapping) (opens : Bool) :
    Books (s.updateMapping id newMapping opens).1 := by
  refine ⟨mapped_remapped h.toMapped id newMapping opens, fun t => ?_⟩
  obtain ⟨htotal, hinUse⟩ := s.totals_remapped id newMapping opens t
  rw [htotal, hinUse]
  exact h.totals t

/-- Nor does starting or stopping the device. -/
theorem channelTotal_switched (s : StreamManager) (active : Bool) (opens : StreamID → Bool)
    (t : Bool) : (s.setIOActive active opens).channelTotal t = s.channelTotal t := by
  rw [setIOActive]
  split
  · rfl
  · exact s.streams.total_mapWithKey (channelsOf t) (g := fun id managed =>
      { managed with
        rtp := if active then (managed.rtp.start (opens id)).1 else managed.rtp.stop })
      fun _ _ => rfl

theorem books_switched (h : Books s) (active : Bool) (opens : StreamID → Bool) :
    Books (s.setIOActive active opens) := by
  have htotals := fun t => (h.totals t).trans (s.channelTotal_switched active opens t).symm
  rw [setIOActive] at htotals ⊢
  by_cases hio : s.ioActive = active
  · rw [if_pos hio]
    exact h
  · rw [if_neg hio] at htotals ⊢
    refine ⟨⟨fun id => ?_, h.filed, h.consistent⟩, htotals⟩
    dsimp only
    rw [OrdMap.find?_mapWithKey, Option.map_map]
    exact h.mappings id

/-- **Every move keeps the books in order.** -/
theorem books_move (h : Books s) (hm : Move A s s') : Books s' := by
  cases hm with
  | tried added new => exact books_tried h added new
  | kept added new _ _ => exact books_keep h added new
  | removed id => exact books_removed h id
  | cleared => exact books_cleared s
  | remapped id newMapping opens => exact books_remapped h id newMapping opens
  | switched active opens => exact books_switched h active opens
  | retuned sampleRate =>
    rw [setDeviceSampleRate]
    split_ifs
    · exact h
    · exact ⟨⟨h.mappings, h.filed, h.consistent⟩, h.totals⟩
    · exact h

/-- Options are not in the books. -/
theorem books_setting (h : Books s) {op : Op} (hop : op.IsSetting) : Books (s.step op) := by
  cases op with
  | setUsableChannelCount count =>
    exact ⟨⟨h.mappings, h.filed, (Mapper.consistent_step_iff h.filed h.consistent
      (.setUsableChannelCount count)).mpr trivial⟩, h.totals⟩
  | setCompatibilityProfile _ | setUsableTxChannelCount _ | setTxFlowPortOffset _
  | setAutoSinkFollow _ | setPTPEnabled _ | setRequirePTPLock _ | setIgnoreRefClockMismatch _ =>
    exact ⟨⟨h.mappings, h.filed, h.consistent⟩, h.totals⟩
  | _ => cases hop

end Moves

/-! ## Whole runs -/

theorem books_step (h : Books s) {op : Op} (fresh : Fresh s op) : Books (s.step op) :=
  kept_step (A := fun _ _ _ => True) (fun _ _ hm h => books_move h hm) (fun _ _ _ _ _ => trivial) h
    fresh (fun _ _ _ => along_of_forall fun _ _ _ => trivial) (books_setting h)

theorem books_init : Books {} :=
  ⟨⟨fun _ => rfl, Mapper.filed_init, Mapper.consistent_init⟩, fun t => by cases t <;> rfl⟩

theorem always_books {ops : List Op} (fresh : Along step Fresh {} ops) : Always step Books {} ops :=
  always_of_along (fun _ _ h hf => books_step h hf) books_init fresh

/-- **The totals are the channels of the open streams and the mapper holds exactly their mappings,
throughout every run.** -/
theorem always_accounted (ops : List Op) (fresh : Along step Fresh {} ops) :
    Always step Accounted {} ops :=
  (always_books fresh).imp fun _ h => h.accounted

/-- Surroundings in which identifiers are generated from `n` on and every socket opens. -/
def numbered (n : ℕ) : Env where
  generated k := ⟨(n + k) % 2 ^ 128, Nat.mod_lt _ (by decide)⟩
  opens _ := true
  time := 0
  isLocked _ := true

/-- Ten channels to send, from device channel 2 on. -/
def tenChannels : FlowRequest where
  baseName := "group".toList
  baseMulticastIP := "239.1.1.10".toList
  port := 5004
  numChannels := 10
  mapping := { deviceChannelStart := 2 }

/-- The identifiers of one call differ. -/
theorem numbered_injOn {n count : ℕ} (h : n + count < 2 ^ 128) :
    Set.InjOn (numbered n).generated {flow | flow < count} := by
  intro a ha b hb he
  have hmod : (n + a) % 2 ^ 128 = (n + b) % 2 ^ 128 := congrArg StreamID.uuid he
  change a < count at ha
  change b < count at hb
  rw [Nat.mod_eq_of_lt (by omega), Nat.mod_eq_of_lt (by omega)] at hmod
  omega

/-- A stream received and two flows sent, the first of them taken out again. -/
theorem tenChannels_accounted : Always step Accounted {}
    [.setIOActive true fun _ => true,
     .addStream (numbered 1) (stereo "a" "239.1.1.1"),
     .createTxStreamFlows (numbered 2) tenChannels,
     .removeStream ⟨2, by decide⟩] := by
  refine always_accounted _ ⟨trivial, trivial, ⟨numbered_injOn (by decide), ?_⟩, trivial, trivial⟩
  decide +kernel

end Aes67.StreamManager
