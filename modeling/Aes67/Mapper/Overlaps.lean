import Aes67.Mapper.Blocks

/-!
# Whom a mapping overlaps

`hasOverlap` and `updateMapping` ask about the channels a mapping uses, which are those its routes
land on where it has any. `getOverlappingStreams` lists the owners of the block behind the routes.

* `Mapper.hasOverlap`, `Mapper.getOverlappingStreams`;
* `mem_getOverlappingStreams`: who is listed;
* `Agrees`: the questions have one answer;
* **`agrees_iff`**: they do exactly where the block and the channels in use have the same owners.
-/

namespace Aes67

namespace Mapper

variable {m : Mapper} {mapping : ChannelMapping} {id : StreamID}

/-- `hasOverlap`. -/
def hasOverlap (m : Mapper) (mapping : ChannelMapping) : Bool :=
  m.isOverlapWithStream mapping mapping.streamID

/-- One channel of the loop of `getOverlappingStreams`. -/
def noteOwner (streamID : StreamID) (overlaps : List StreamID) (owner : StreamID) : List StreamID :=
  if !owner.isNull && owner != streamID then
    if owner ∈ overlaps then overlaps else overlaps ++ [owner]
  else overlaps

/-- `getOverlappingStreams`. -/
def getOverlappingStreams (m : Mapper) (mapping : ChannelMapping) : List StreamID :=
  (List.range mapping.deviceChannelCount).foldl
    (fun overlaps i =>
      noteOwner mapping.streamID overlaps (m.ownerAt (mapping.deviceChannelStart + i))) []

/-! ## Who is listed -/

/-- Another stream than the mapping's own. -/
def Other (mapping : ChannelMapping) (id : StreamID) : Prop := id ≠ .null ∧ id ≠ mapping.streamID

theorem mem_noteOwner {overlaps : List StreamID} {owner : StreamID} :
    id ∈ noteOwner mapping.streamID overlaps owner ↔
      id ∈ overlaps ∨ (Other mapping id ∧ id = owner) := by
  rw [noteOwner]
  by_cases ho : (!owner.isNull && owner != mapping.streamID) = true
  · have hother : Other mapping owner := by simpa [StreamID.isNull, Other] using ho
    rw [if_pos ho]
    split_ifs with hin
    · refine ⟨Or.inl, ?_⟩
      rintro (h | ⟨-, rfl⟩)
      · exact h
      · exact hin
    · rw [List.mem_append, List.mem_singleton]
      refine or_congr_right ⟨?_, And.right⟩
      rintro rfl
      exact ⟨hother, rfl⟩
  · rw [if_neg ho]
    refine ⟨Or.inl, ?_⟩
    rintro (h | ⟨⟨h1, h2⟩, rfl⟩)
    · exact h
    · exact absurd (by simp [StreamID.isNull, h1, h2]) ho

theorem nodup_noteOwner {streamID : StreamID} {overlaps : List StreamID} {owner : StreamID}
    (h : overlaps.Nodup) : (noteOwner streamID overlaps owner).Nodup := by
  rw [noteOwner]
  split_ifs with _ hin
  · exact h
  · exact List.nodup_append.mpr ⟨h, List.nodup_singleton _, fun a ha b hb => by
      rw [List.mem_singleton.mp hb]
      rintro rfl
      exact hin ha⟩
  · exact h

/-- **Listed are the other streams that own a channel of the block.** -/
theorem mem_getOverlappingStreams : id ∈ m.getOverlappingStreams mapping ↔
    Other mapping id ∧ ∃ c, mapping.deviceChannelStart ≤ c ∧
      c < mapping.deviceChannelStart + mapping.deviceChannelCount ∧ m.ownerAt c = id := by
  have key : ∀ n, id ∈ (List.range n).foldl (fun overlaps i =>
      noteOwner mapping.streamID overlaps (m.ownerAt (mapping.deviceChannelStart + i))) [] ↔
        Other mapping id ∧ ∃ c, mapping.deviceChannelStart ≤ c ∧
          c < mapping.deviceChannelStart + n ∧ m.ownerAt c = id := by
    intro n
    induction n with
    | zero =>
      simp only [List.range_zero, List.foldl_nil, List.not_mem_nil, false_iff]
      rintro ⟨-, c, h1, h2, -⟩
      omega
    | succ n ih =>
      rw [List.range_succ, List.foldl_append, List.foldl_cons, List.foldl_nil, mem_noteOwner, ih]
      constructor
      · rintro (⟨ho, c, h1, h2, hc⟩ | ⟨ho, he⟩)
        · exact ⟨ho, c, h1, by omega, hc⟩
        · exact ⟨ho, _, Nat.le_add_right _ n, by omega, he.symm⟩
      · rintro ⟨ho, c, h1, h2, hc⟩
        rcases Nat.lt_or_ge c (mapping.deviceChannelStart + n) with h | h
        · exact Or.inl ⟨ho, c, h1, h, hc⟩
        · obtain rfl : c = mapping.deviceChannelStart + n := by omega
          exact Or.inr ⟨ho, hc.symm⟩
  exact key _

theorem nodup_getOverlappingStreams : (m.getOverlappingStreams mapping).Nodup := by
  have key : ∀ (l : List ℕ) (overlaps : List StreamID), overlaps.Nodup →
      (l.foldl (fun overlaps i => noteOwner mapping.streamID overlaps
        (m.ownerAt (mapping.deviceChannelStart + i))) overlaps).Nodup := by
    intro l
    induction l with
    | nil => exact fun _ h => h
    | cons i l ih => exact fun _ h => ih _ (nodup_noteOwner h)
  exact key _ _ List.nodup_nil

theorem hasOverlap_iff (hv : mapping.Valid) : m.hasOverlap mapping = true ↔
    ∃ id, Other mapping id ∧ ∃ c ∈ mapping.deviceChannels, m.ownerAt c = id := by
  rw [← Bool.not_eq_false, hasOverlap, isOverlapWithStream_eq_false hv]
  constructor
  · intro h
    by_contra hno
    refine h fun c hc => ?_
    by_contra hown
    rw [not_or] at hown
    exact hno ⟨_, hown, c.val, hc, ownerAt_of_lt c.2⟩
  · rintro ⟨id, ⟨h1, h2⟩, c, hc, rfl⟩ h
    rw [ownerAt_of_lt (hv.lt_of_mem hc)] at h1 h2
    exact (h ⟨c, hv.lt_of_mem hc⟩ hc).elim h1 h2

theorem updateMapping_refused_iff (hv : mapping.Valid) :
    (m.updateMapping mapping).2 = false ↔ m.hasOverlap mapping = true := by
  rw [updateMapping, ChannelMapping.isValid_iff.mpr hv, hasOverlap]
  cases m.isOverlapWithStream mapping mapping.streamID <;> simp

/-! ## One answer -/

/-- The two questions and the update have one answer, and the list is that of the other streams
owning a channel the mapping uses. -/
structure Agrees (m : Mapper) (mapping : ChannelMapping) : Prop where
  overlap : m.hasOverlap mapping = true ↔ m.getOverlappingStreams mapping ≠ []
  listed : ∀ id, id ∈ m.getOverlappingStreams mapping ↔
    Other mapping id ∧ ∃ c ∈ mapping.deviceChannels, m.ownerAt c = id
  nodup : (m.getOverlappingStreams mapping).Nodup
  refused : (m.updateMapping mapping).2 = false ↔ m.getOverlappingStreams mapping ≠ []

/-- The other streams that own a channel of the block are those that own a channel in use. -/
def SameOwners (m : Mapper) (mapping : ChannelMapping) : Prop :=
  ∀ id, Other mapping id →
    ((∃ c, mapping.deviceChannelStart ≤ c ∧
        c < mapping.deviceChannelStart + mapping.deviceChannelCount ∧ m.ownerAt c = id) ↔
      ∃ c ∈ mapping.deviceChannels, m.ownerAt c = id)

/-- A mapping without routes uses its block. -/
theorem sameOwners_of_block (h : mapping.routes = []) : m.SameOwners mapping := by
  intro id _
  simp only [ChannelMapping.mem_deviceChannels, if_pos h, and_assoc]

/-- **The questions have one answer exactly where the block and the channels in use have the same
other owners**, so for every mapping without routes. -/
theorem agrees_iff (m : Mapper) (mapping : ChannelMapping) (hv : mapping.Valid) :
    (m.Agrees mapping ↔ m.SameOwners mapping) ∧ (mapping.routes = [] → m.Agrees mapping) := by
  have hiff : m.Agrees mapping ↔ m.SameOwners mapping := by
    constructor
    · intro h id hid
      have hin := (mem_getOverlappingStreams (m := m)).symm.trans (h.listed id)
      exact ⟨fun hc => (hin.mp ⟨hid, hc⟩).2, fun hc => (hin.mpr ⟨hid, hc⟩).2⟩
    · intro h
      have listed : ∀ id, id ∈ m.getOverlappingStreams mapping ↔
          Other mapping id ∧ ∃ c ∈ mapping.deviceChannels, m.ownerAt c = id := fun id =>
        mem_getOverlappingStreams.trans (and_congr_right (h id))
      have overlap : m.hasOverlap mapping = true ↔ m.getOverlappingStreams mapping ≠ [] := by
        rw [hasOverlap_iff hv, Ne, List.eq_nil_iff_forall_not_mem, not_forall_not]
        exact exists_congr fun id => (listed id).symm
      exact ⟨overlap, listed, nodup_getOverlappingStreams,
        (updateMapping_refused_iff hv).trans overlap⟩
  exact ⟨hiff, fun h => hiff.mpr (sameOwners_of_block h)⟩

/-- A stream on the first two channels. -/
def taken : Mapper :=
  init.step (.addMapping { streamID := ⟨1, StreamID.one_lt⟩, streamChannelCount := 2,
                           deviceChannelCount := 2 })

/-- A block over the second of them. -/
def overlapping : ChannelMapping :=
  { streamID := ⟨2, StreamID.two_lt⟩, streamChannelCount := 4, deviceChannelStart := 1,
    deviceChannelCount := 4 }

theorem overlapping_agrees : (taken.Agrees overlapping ↔ taken.SameOwners overlapping) ∧
    (overlapping.routes = [] → taken.Agrees overlapping) :=
  agrees_iff taken overlapping (ChannelMapping.isValid_iff.mp (by decide))

/-- A route onto the first channel, from a mapping whose block is free. -/
def routedOver : ChannelMapping :=
  { streamID := ⟨2, StreamID.two_lt⟩, streamChannelCount := 1, deviceChannelStart := 4,
    deviceChannelCount := 1, routes := [⟨0, 0⟩] }

/-- It overlaps, and nobody is listed. -/
theorem routedOver_disagrees : routedOver.Valid ∧ taken.hasOverlap routedOver = true ∧
    taken.getOverlappingStreams routedOver = [] ∧ (taken.updateMapping routedOver).2 = false ∧
    ¬ taken.Agrees routedOver := by
  have hover : taken.hasOverlap routedOver = true := by decide
  have hnone : taken.getOverlappingStreams routedOver = [] := by decide
  refine ⟨ChannelMapping.isValid_iff.mp (by decide), hover, hnone, by decide, fun h => ?_⟩
  exact h.overlap.mp hover hnone

end Mapper

end Aes67
