import Aes67.Lib.Run
import Aes67.Mapper.Model

/-!
# Owners and mappings agree

The mapper's two representations, compared over whole runs. `addMapping` writes the owners of the
mapping it stores and never clears those of the mapping it replaces, so a second accepted add under
one identifier leaves the first one's channels owned and unused; `updateMapping` clears them first.

* `Consistent`: a channel is owned by a stream exactly when the stream's stored mapping uses it;
* `FreshAdd`: every mapping the call adds and the mapper accepts is of a stream with no mapping;
* `addMapping_cases`, `updateMapping_cases`: what one call can do;
* `Consistent.ext`: a consistent mapper is what its mappings say; `foldl_addMapping_values`: and what
  adding them to an empty one gives;
* **`always_consistent_iff`**: the representations agree throughout a run exactly when every call
  of it is a `FreshAdd`.
-/

namespace Aes67

namespace Mapper

variable {m : Mapper} {mapping : ChannelMapping} {id : StreamID}

/-! ## What the helpers and the operations do -/

theorem foldl_owners (chs : List ℕ) (owners : Fin kMaxDeviceChannels → StreamID)
    (c : Fin kMaxDeviceChannels) :
    chs.foldl (fun owners deviceCh =>
        if h : deviceCh < kMaxDeviceChannels then Function.update owners ⟨deviceCh, h⟩ id
        else owners) owners c =
      if c.val ∈ chs then id else owners c := by
  induction chs generalizing owners with
  | nil => simp
  | cons d chs ih =>
    rw [List.foldl_cons, ih]
    by_cases hd : d < kMaxDeviceChannels
    · by_cases hc : c.val = d
      · subst hc; simp
      · have : c ≠ ⟨d, hd⟩ := fun h => hc (congrArg Fin.val h)
        simp [hd, hc, Function.update_of_ne this]
    · have : c.val ≠ d := fun h => hd (h ▸ c.2)
      simp [hd, this]

@[simp] theorem updateDeviceChannelOwners_owners (c : Fin kMaxDeviceChannels) :
    (m.updateDeviceChannelOwners mapping).deviceChannelOwners c =
      if c.val ∈ mapping.deviceChannels then mapping.streamID else m.deviceChannelOwners c :=
  foldl_owners _ _ c

@[simp] theorem updateDeviceChannelOwners_mappings :
    (m.updateDeviceChannelOwners mapping).mappings = m.mappings := rfl

theorem clear_owner_iff {id' : StreamID} {c : Fin kMaxDeviceChannels} (hid : id' ≠ .null) :
    (m.clearDeviceChannelOwners id).deviceChannelOwners c = id' ↔
      id' ≠ id ∧ m.deviceChannelOwners c = id' := by
  rw [clearDeviceChannelOwners]
  by_cases h : m.deviceChannelOwners c = id
  · simp only [h, if_true]
    exact ⟨fun e => absurd e.symm hid, fun ⟨e, e'⟩ => absurd e'.symm e⟩
  · simp only [h, if_false]
    exact ⟨fun e => ⟨fun e' => h (e.trans e'), e⟩, And.right⟩

theorem isOverlapWithStream_eq_false (hv : mapping.Valid) :
    m.isOverlapWithStream mapping id = false ↔ ∀ c : Fin kMaxDeviceChannels,
      c.val ∈ mapping.deviceChannels →
        m.deviceChannelOwners c = .null ∨ m.deviceChannelOwners c = id := by
  rw [isOverlapWithStream, List.any_eq_false]
  constructor
  · intro h c hc
    have := h c.val hc
    simp [c.2, StreamID.isNull] at this
    tauto
  · intro h d hd
    have := h ⟨d, hv.lt_of_mem hd⟩ hd
    simp [hv.lt_of_mem hd, StreamID.isNull]
    tauto

theorem accepts_iff : m.accepts mapping = true ↔ mapping.Valid ∧
    ∀ c : Fin kMaxDeviceChannels, c.val ∈ mapping.deviceChannels →
      m.deviceChannelOwners c = .null := by
  rw [accepts, Bool.and_eq_true, ChannelMapping.isValid_iff, Bool.not_eq_true']
  refine and_congr_right fun hv => ?_
  rw [isOverlapWithStream_eq_false hv]
  simp

/-- **An add is refused, or stores the mapping and claims its channels.** -/
theorem addMapping_cases (m : Mapper) (mapping : ChannelMapping) :
    (m.accepts mapping = false ∧ m.addMapping mapping = (m, false)) ∨
    (m.accepts mapping = true ∧ m.addMapping mapping =
      (({ m with mappings := m.mappings.insert mapping.streamID mapping } :
        Mapper).updateDeviceChannelOwners mapping, true)) := by
  unfold accepts addMapping
  cases h1 : mapping.isValid <;> cases h2 : m.isOverlapWithStream mapping .null <;> simp

/-- **An update is refused, or frees the stream's channels, stores the mapping and claims its
channels.** -/
theorem updateMapping_cases (m : Mapper) (mapping : ChannelMapping) :
    m.updateMapping mapping = (m, false) ∨
    (mapping.Valid ∧
      (∀ c : Fin kMaxDeviceChannels, c.val ∈ mapping.deviceChannels →
        m.deviceChannelOwners c = .null ∨ m.deviceChannelOwners c = mapping.streamID) ∧
      m.updateMapping mapping =
        (({ m.clearDeviceChannelOwners mapping.streamID with
            mappings := m.mappings.insert mapping.streamID mapping } :
          Mapper).updateDeviceChannelOwners mapping, true)) := by
  unfold updateMapping
  cases h1 : mapping.isValid with
  | false => left; simp
  | true =>
    have hv := ChannelMapping.isValid_iff.mp h1
    cases h2 : m.isOverlapWithStream mapping mapping.streamID with
    | true => left; simp
    | false =>
      right
      refine ⟨hv, (isOverlapWithStream_eq_false hv).mp h2, ?_⟩
      simp [clearDeviceChannelOwners]

/-! ## The invariant -/

/-- The channel is used by the mapping stored for `id`. -/
def Uses (m : Mapper) (id : StreamID) (c : ℕ) : Prop :=
  ∃ mapping, m.mappings.find? id = some mapping ∧ c ∈ mapping.deviceChannels

/-- The two representations agree, no two stored mappings share a device channel, and no channel
is owned by a stream that does not use it. -/
structure Consistent (m : Mapper) : Prop where
  owner_iff : ∀ (c : Fin kMaxDeviceChannels) (id : StreamID), id ≠ .null →
    (m.deviceChannelOwners c = id ↔ m.Uses id c)
  disjoint : ∀ (id id' : StreamID) (c : ℕ), m.Uses id c → m.Uses id' c → id = id'
  used : ∀ c : Fin kMaxDeviceChannels, m.deviceChannelOwners c ≠ .null →
    m.Uses (m.deviceChannelOwners c) c

/-- Every stored mapping is valid and filed under its own identifier. -/
def Filed (m : Mapper) : Prop :=
  ∀ id mapping, m.mappings.find? id = some mapping → mapping.Valid ∧ mapping.streamID = id

/-- Where the stored mappings are valid, the agreement of the representations carries the rest. -/
theorem Filed.consistent (hf : m.Filed)
    (h : ∀ (c : Fin kMaxDeviceChannels) (id : StreamID), id ≠ .null →
      (m.deviceChannelOwners c = id ↔ m.Uses id c)) : m.Consistent where
  owner_iff := h
  used c hc := (h c _ hc).mp rfl
  disjoint := by
    rintro id id' c ⟨mp, hm, hc⟩ ⟨mp', hm', hc'⟩
    obtain ⟨hv, rfl⟩ := hf id mp hm
    obtain ⟨hv', rfl⟩ := hf id' mp' hm'
    have own := (h ⟨c, hv.lt_of_mem hc⟩ _ hv.streamID_ne).mpr ⟨mp, hm, hc⟩
    have own' := (h ⟨c, hv.lt_of_mem hc⟩ _ hv'.streamID_ne).mpr ⟨mp', hm', hc'⟩
    exact own.symm.trans own'

theorem Filed.insert (hf : m.Filed) (hv : mapping.Valid) {m' : Mapper}
    (h : m'.mappings = m.mappings.insert mapping.streamID mapping) : m'.Filed := by
  intro id mp hm
  rw [h, OrdMap.find?_insert] at hm
  split_ifs at hm with hid
  · cases hm; exact ⟨hv, hid.symm⟩
  · exact hf id mp hm

theorem Filed.erase (hf : m.Filed) {m' : Mapper} (h : m'.mappings = m.mappings.erase id) :
    m'.Filed := by
  intro id' mp hm
  rw [h, OrdMap.find?_erase] at hm
  split_ifs at hm with hid
  exact hf id' mp hm

theorem filed_clearAll (m : Mapper) : m.clearAll.Filed := by
  intro id mp hm
  simp [clearAll] at hm

theorem filed_addMapping (hf : m.Filed) (mapping : ChannelMapping) :
    (m.addMapping mapping).1.Filed := by
  rcases addMapping_cases m mapping with ⟨-, h⟩ | ⟨ha, h⟩
  · rwa [h]
  · rw [h]
    exact hf.insert (accepts_iff.mp ha).1 rfl

theorem uses_insert {m' : Mapper} (h : m'.mappings = m.mappings.insert mapping.streamID mapping)
    (id : StreamID) (c : ℕ) :
    m'.Uses id c ↔ if id = mapping.streamID then c ∈ mapping.deviceChannels else m.Uses id c := by
  unfold Uses
  rw [h, OrdMap.find?_insert]
  split_ifs <;> simp

/-! ## One call -/

/-- The mapping is refused, or is of a stream with no mapping yet. -/
def FreshEntry (m : Mapper) (mapping : ChannelMapping) : Prop :=
  m.accepts mapping = true → m.mappings.find? mapping.streamID = none

/-- Every mapping the call adds is a `FreshEntry` when its turn comes: the argument of an add, or
an entry of a saved file. -/
def FreshAdd (m : Mapper) : Op → Prop
  | .addMapping mapping => m.FreshEntry mapping
  | .fromJSON json => Along (fun m mapping => (m.addMapping mapping).1) FreshEntry m.clearAll
      (readEntries (entryBlocks json))
  | _ => True

/-- A channel is owned by a stream that does not use it. -/
def Stale (m : Mapper) : Prop :=
  ∃ c : Fin kMaxDeviceChannels, m.deviceChannelOwners c ≠ .null ∧
    ¬ m.Uses (m.deviceChannelOwners c) c

theorem Stale.not_consistent (h : m.Stale) : ¬ m.Consistent := by
  obtain ⟨c, hc, hu⟩ := h
  exact fun hm => hu (hm.used c hc)

-- An accepted mapping only takes channels nobody owns, so the stale channel stays out of it.
theorem Stale.addMapping (h : m.Stale) (mapping : ChannelMapping) :
    (m.addMapping mapping).1.Stale := by
  rcases addMapping_cases m mapping with ⟨-, e⟩ | ⟨ha, e⟩
  · rwa [e]
  · obtain ⟨c, hc, hu⟩ := h
    have hn : c.val ∉ mapping.deviceChannels := fun hm => hc ((accepts_iff.mp ha).2 c hm)
    refine ⟨c, ?_, ?_⟩
    · simpa [e, hn] using hc
    · rw [e, uses_insert rfl]
      simp only [updateDeviceChannelOwners_owners, if_neg hn]
      split_ifs <;> assumption

theorem Stale.foldl (h : m.Stale) (l : List ChannelMapping) :
    (l.foldl (fun m mapping => (m.addMapping mapping).1) m).Stale := by
  induction l generalizing m with
  | nil => exact h
  | cons mapping l ih => exact ih (h.addMapping mapping)

/-- A second accepted add under one identifier strands the channels of the first. -/
theorem stale_addMapping (hf : m.Filed) (hm : m.Consistent) (ha : m.accepts mapping = true)
    (hp : m.mappings.find? mapping.streamID ≠ none) : (m.addMapping mapping).1.Stale := by
  obtain ⟨old, hold⟩ := Option.ne_none_iff_exists'.mp hp
  obtain ⟨hv, hid⟩ := hf _ old hold
  obtain ⟨c, hc⟩ := hv.exists_mem
  have hne : mapping.streamID ≠ .null := hid ▸ hv.streamID_ne
  have own := (hm.owner_iff ⟨c, hv.lt_of_mem hc⟩ _ hne).mpr ⟨old, hold, hc⟩
  have hn : c ∉ mapping.deviceChannels := fun h =>
    hne (own.symm.trans ((accepts_iff.mp ha).2 ⟨c, hv.lt_of_mem hc⟩ h))
  rcases addMapping_cases m mapping with ⟨h, -⟩ | ⟨-, e⟩
  · rw [ha] at h; cases h
  · refine ⟨⟨c, hv.lt_of_mem hc⟩, ?_, ?_⟩
    · simpa [e, hn, own] using hne
    · rw [e, uses_insert rfl]
      simp [hn, own]

theorem consistent_addMapping (hf : m.Filed) (hm : m.Consistent) (hp : m.FreshEntry mapping) :
    (m.addMapping mapping).1.Consistent := by
  rcases addMapping_cases m mapping with ⟨-, e⟩ | ⟨ha, e⟩
  · rwa [e]
  · refine (filed_addMapping hf mapping).consistent fun c id hid => ?_
    have free := (accepts_iff.mp ha).2 c
    have new : ¬ m.Uses mapping.streamID c := fun ⟨_, h, _⟩ => by simp [hp ha] at h
    have old := hm.owner_iff c id hid
    rw [e, uses_insert rfl, updateDeviceChannelOwners_owners]
    by_cases hc : c.val ∈ mapping.deviceChannels
    · rw [if_pos hc]
      rw [free hc] at old
      by_cases he : id = mapping.streamID
      · simp [he, hc]
      · rw [if_neg he, ← old]
        exact ⟨fun h => absurd h.symm he, fun h => absurd h.symm hid⟩
    · rw [if_neg hc, old]
      by_cases he : id = mapping.streamID
      · subst he; simp [hc, new]
      · rw [if_neg he]

theorem consistent_addMapping_iff (hf : m.Filed) (hm : m.Consistent) :
    (m.addMapping mapping).1.Consistent ↔ m.FreshEntry mapping := by
  refine ⟨fun h ha => ?_, consistent_addMapping hf hm⟩
  by_contra hp
  exact (stale_addMapping hf hm ha hp).not_consistent h

/-- The entries of a saved file, one add after the other. -/
theorem consistent_foldl_iff (hf : m.Filed) (hm : m.Consistent) (l : List ChannelMapping) :
    (l.foldl (fun m mapping => (m.addMapping mapping).1) m).Consistent ↔
      Along (fun m mapping => (m.addMapping mapping).1) FreshEntry m l := by
  induction l generalizing m with
  | nil => exact ⟨fun _ => trivial, fun _ => hm⟩
  | cons mapping l ih =>
    by_cases hp : m.FreshEntry mapping
    · have hm' := consistent_addMapping hf hm hp
      rw [List.foldl_cons, ih (filed_addMapping hf mapping) hm']
      exact ⟨fun h => ⟨hp, h⟩, fun h => h.2⟩
    · obtain ⟨ha, hq⟩ := Classical.not_imp.mp hp
      have hs := (stale_addMapping hf hm ha hq).foldl l
      exact ⟨fun h => absurd h hs.not_consistent, fun h => absurd h.1 hp⟩

theorem filed_foldl (hf : m.Filed) (l : List ChannelMapping) :
    (l.foldl (fun m mapping => (m.addMapping mapping).1) m).Filed := by
  induction l generalizing m with
  | nil => exact hf
  | cons mapping l ih => exact ih (filed_addMapping hf mapping)

theorem consistent_clearAll (m : Mapper) : m.clearAll.Consistent := by
  refine (filed_clearAll m).consistent fun c id hid => ?_
  simp [clearAll, Uses, Ne.symm hid]

theorem filed_removeMapping (hf : m.Filed) (id : StreamID) : (m.removeMapping id).1.Filed := by
  unfold removeMapping
  split
  · exact hf
  · exact hf.erase rfl

theorem consistent_removeMapping (hf : m.Filed) (hm : m.Consistent) (id : StreamID) :
    (m.removeMapping id).1.Consistent := by
  refine (filed_removeMapping hf id).consistent ?_
  unfold removeMapping
  split
  · exact hm.owner_iff
  · intro c id' hid
    simp only [Uses, OrdMap.find?_erase]
    rw [clear_owner_iff hid, hm.owner_iff c id' hid]
    simp only [Uses, clearDeviceChannelOwners]
    by_cases he : id' = id <;> simp [he]

theorem filed_updateMapping (hf : m.Filed) (mapping : ChannelMapping) :
    (m.updateMapping mapping).1.Filed := by
  rcases updateMapping_cases m mapping with e | ⟨hv, -, e⟩
  · rwa [e]
  · rw [e]
    exact hf.insert hv rfl

theorem consistent_updateMapping (hf : m.Filed) (hm : m.Consistent) (mapping : ChannelMapping) :
    (m.updateMapping mapping).1.Consistent := by
  refine (filed_updateMapping hf mapping).consistent ?_
  rcases updateMapping_cases m mapping with e | ⟨-, free, e⟩
  · rw [e]
    exact hm.owner_iff
  · rw [e]
    intro c id hid
    have old := hm.owner_iff c id hid
    rw [uses_insert (m := m) rfl, updateDeviceChannelOwners_owners]
    by_cases hc : c.val ∈ mapping.deviceChannels
    · rw [if_pos hc]
      by_cases he : id = mapping.streamID
      · simp [he, hc]
      · rw [if_neg he, ← old]
        refine ⟨fun h => absurd h.symm he, fun h => ?_⟩
        rcases free c hc with h' | h'
        · exact absurd (h.symm.trans h') hid
        · exact absurd (h.symm.trans h') he
    · rw [if_neg hc, clear_owner_iff hid, old]
      by_cases he : id = mapping.streamID <;> simp [he, hc]

theorem filed_step (hf : m.Filed) (op : Op) : (m.step op).Filed := by
  cases op with
  | addMapping mapping => exact filed_addMapping hf mapping
  | removeMapping id => exact filed_removeMapping hf id
  | updateMapping mapping => exact filed_updateMapping hf mapping
  | clearAll => exact filed_clearAll m
  | createDefaultMapping _ _ _ => exact hf
  | fromJSON json => exact filed_foldl (filed_clearAll m) _
  | setUsableChannelCount _ => exact hf

/-- **One call keeps the representations in agreement exactly when it is a `FreshAdd`.** -/
theorem consistent_step_iff (hf : m.Filed) (hm : m.Consistent) (op : Op) :
    (m.step op).Consistent ↔ m.FreshAdd op := by
  cases op with
  | addMapping mapping => exact consistent_addMapping_iff hf hm
  | removeMapping id => exact iff_of_true (consistent_removeMapping hf hm id) trivial
  | updateMapping mapping => exact iff_of_true (consistent_updateMapping hf hm mapping) trivial
  | clearAll => exact iff_of_true (consistent_clearAll m) trivial
  | createDefaultMapping _ _ _ => exact iff_of_true hm trivial
  | fromJSON json => exact consistent_foldl_iff (filed_clearAll m) (consistent_clearAll m) _
  | setUsableChannelCount _ => exact iff_of_true ⟨hm.owner_iff, hm.disjoint, hm.used⟩ trivial

/-! ## What the mappings decide -/

section Mappings

variable {m' : Mapper}

theorem find?_addMapping (h : m.addMapping mapping = (m', true)) (id : StreamID) :
    m'.mappings.find? id =
      if id = mapping.streamID then some mapping else m.mappings.find? id := by
  rcases addMapping_cases m mapping with ⟨-, e⟩ | ⟨-, e⟩
  · rw [e] at h
    cases h
  · rw [e] at h
    cases h
    exact OrdMap.find?_insert ..

theorem find?_updateMapping (h : m.updateMapping mapping = (m', true)) (id : StreamID) :
    m'.mappings.find? id =
      if id = mapping.streamID then some mapping else m.mappings.find? id := by
  rcases updateMapping_cases m mapping with e | ⟨-, -, e⟩
  · rw [e] at h
    cases h
  · rw [e] at h
    cases h
    exact OrdMap.find?_insert ..

theorem find?_removeMapping (m : Mapper) (id id' : StreamID) :
    (m.removeMapping id).1.mappings.find? id' =
      if id' = id then none else m.mappings.find? id' := by
  rw [removeMapping]
  split
  · next h =>
    split_ifs with he
    · rw [he, h]
    · rfl
  · exact OrdMap.find?_erase ..

theorem usable_addMapping (m : Mapper) (mapping : ChannelMapping) :
    (m.addMapping mapping).1.usableChannelCount = m.usableChannelCount := by
  rcases addMapping_cases m mapping with ⟨-, e⟩ | ⟨-, e⟩
  · rw [e]
  · rw [e]
    rfl

theorem usable_updateMapping (m : Mapper) (mapping : ChannelMapping) :
    (m.updateMapping mapping).1.usableChannelCount = m.usableChannelCount := by
  rcases updateMapping_cases m mapping with e | ⟨-, -, e⟩
  · rw [e]
  · rw [e]
    rfl

theorem usable_removeMapping (m : Mapper) (id : StreamID) :
    (m.removeMapping id).1.usableChannelCount = m.usableChannelCount := by
  rw [removeMapping]
  split <;> rfl

/-- A consistent matrix is what its mappings say. -/
theorem Consistent.ext (hm : m.Consistent) (hm' : m'.Consistent) (he : m.mappings = m'.mappings)
    (hu : m.usableChannelCount = m'.usableChannelCount) : m = m' := by
  have uses : ∀ id c, m.Uses id c ↔ m'.Uses id c := fun id c => by rw [Uses, Uses, he]
  have owners : m.deviceChannelOwners = m'.deviceChannelOwners := by
    funext c
    by_cases h : m.deviceChannelOwners c = .null
    · rw [h]
      by_contra h'
      have own := (hm.owner_iff c _ (Ne.symm h')).mpr ((uses _ _).mpr (hm'.used c (Ne.symm h')))
      exact h' (h.symm.trans own)
    · exact ((hm'.owner_iff c _ h).mpr ((uses _ _).mp (hm.used c h))).symm
  cases m
  cases m'
  cases he
  cases owners
  cases hu
  rfl

theorem Filed.streamID_values (hf : m.Filed) :
    m.mappings.values.map ChannelMapping.streamID = m.mappings.keys := by
  rw [OrdMap.values, OrdMap.keys, List.map_map]
  refine List.map_congr_left fun e he => ?_
  exact (hf e.1 e.2 (m.mappings.mem_entries_iff.mp he)).2

theorem Filed.mem_values (hf : m.Filed) {mapping : ChannelMapping} :
    mapping ∈ m.mappings.values ↔ m.mappings.find? mapping.streamID = some mapping := by
  constructor
  · intro h
    obtain ⟨⟨id, mp⟩, he, rfl⟩ := List.mem_map.mp h
    have hfind := m.mappings.mem_entries_iff.mp he
    rw [(hf id mp hfind).2]
    exact hfind
  · intro h
    exact List.mem_map.mpr ⟨_, m.mappings.mem_entries_iff.mpr h, rfl⟩

/-- No two of the mappings a consistent matrix holds share a device channel. -/
theorem Consistent.pairwise_values (hm : m.Consistent) :
    m.mappings.values.Pairwise fun a b => ∀ c ∈ a.deviceChannels, c ∉ b.deviceChannels := by
  rw [OrdMap.values, List.pairwise_map]
  refine m.mappings.sorted.imp_of_mem fun {e e'} he he' hlt c hc hc' => ?_
  exact ne_of_lt hlt (hm.disjoint e.1 e'.1 c ⟨e.2, m.mappings.mem_entries_iff.mp he, hc⟩
    ⟨e'.2, m.mappings.mem_entries_iff.mp he', hc'⟩)

/-- Mappings of streams the matrix does not have, on channels of their own, are all taken. -/
theorem foldl_addMapping_of_disjoint {l : List ChannelMapping} (hf : m.Filed) (hm : m.Consistent)
    (hv : ∀ mp ∈ l, mp.Valid) (hn : (l.map ChannelMapping.streamID).Nodup)
    (hd : l.Pairwise fun a b => ∀ c ∈ a.deviceChannels, c ∉ b.deviceChannels)
    (hnew : ∀ mp ∈ l, m.mappings.find? mp.streamID = none)
    (free : ∀ mp ∈ l, ∀ c : Fin kMaxDeviceChannels, c.val ∈ mp.deviceChannels →
      m.deviceChannelOwners c = .null)
    {r : Mapper} (hr : l.foldl (fun m mapping => (m.addMapping mapping).1) m = r) :
    r.Consistent ∧ r.usableChannelCount = m.usableChannelCount ∧
      (∀ mp ∈ l, r.mappings.find? mp.streamID = some mp) ∧
      ∀ id, id ∉ l.map ChannelMapping.streamID → r.mappings.find? id = m.mappings.find? id := by
  induction l generalizing m with
  | nil =>
    subst hr
    exact ⟨hm, rfl, by simp, fun _ _ => rfl⟩
  | cons mp l ih =>
    obtain ⟨hmp, hn⟩ := List.nodup_cons.mp hn
    obtain ⟨hdis, hd⟩ := List.pairwise_cons.mp hd
    have ha : m.accepts mp = true :=
      accepts_iff.mpr ⟨hv mp List.mem_cons_self, free mp List.mem_cons_self⟩
    have hm' := consistent_addMapping hf hm fun _ => hnew mp List.mem_cons_self
    have hf' := filed_addMapping hf mp
    rcases addMapping_cases m mp with ⟨h, -⟩ | ⟨-, e⟩
    · rw [ha] at h
      cases h
    have hfind := find?_addMapping e
    have hne : ∀ mp' ∈ l, mp'.streamID ≠ mp.streamID := fun mp' h he =>
      hmp (List.mem_map.mpr ⟨mp', h, he⟩)
    rw [List.foldl_cons, e] at hr
    rw [e] at hm' hf'
    obtain ⟨hcons, husable, hin, hout⟩ := ih hf' hm' (fun mp' h => hv mp' (List.mem_cons_of_mem _ h))
      hn hd (fun mp' h => by rw [hfind, if_neg (hne mp' h)]; exact hnew mp' (List.mem_cons_of_mem _ h))
      (fun mp' h c hc => by
        rw [updateDeviceChannelOwners_owners, if_neg fun hc' => hdis mp' h c hc' hc]
        exact free mp' (List.mem_cons_of_mem _ h) c hc) hr
    refine ⟨hcons, husable, fun mp' h => ?_, fun id hid => ?_⟩
    · rcases List.mem_cons.mp h with rfl | h
      · rw [hout _ hmp, hfind, if_pos rfl]
      · exact hin mp' h
    · rw [List.map_cons, List.mem_cons, not_or] at hid
      rw [hout id hid.2, hfind, if_neg hid.1]

/-- **What a consistent matrix held, added to an empty one, gives it back.** -/
theorem foldl_addMapping_values (hf : m.Filed) (hm : m.Consistent) (n : Mapper) :
    m.mappings.values.foldl (fun m mapping => (m.addMapping mapping).1) n.clearAll =
      { m with usableChannelCount := n.usableChannelCount, usable_le := n.usable_le } := by
  have hn : (m.mappings.values.map ChannelMapping.streamID).Nodup := by
    rw [hf.streamID_values]
    exact m.mappings.keys_nodup
  obtain ⟨hcons, husable, hin, hout⟩ := foldl_addMapping_of_disjoint (filed_clearAll n)
    (consistent_clearAll n) (fun mp h => (hf _ mp (hf.mem_values.mp h)).1) hn hm.pairwise_values
    (fun _ _ => rfl) (fun _ _ _ _ => rfl) rfl
  refine hcons.ext ⟨hm.owner_iff, hm.disjoint, hm.used⟩ (OrdMap.ext_find? fun id => ?_) husable
  cases hid : m.mappings.find? id with
  | some mp =>
    obtain ⟨-, rfl⟩ := hf id mp hid
    exact hin mp (hf.mem_values.mpr hid)
  | none =>
    refine hout id fun hmem => ?_
    rw [hf.streamID_values, OrdMap.mem_keys_iff, hid] at hmem
    obtain ⟨v, hv⟩ := hmem
    cases hv

end Mappings

/-! ## Whole runs -/

theorem filed_init : init.Filed := filed_clearAll init

theorem consistent_init : init.Consistent := consistent_clearAll init

/-- **Owners and mappings agree throughout a run exactly when no accepted add of it names a stream
that already has a mapping.** -/
theorem always_consistent_iff (ops : List Op) :
    Always step Consistent init ops ↔ Along step FreshAdd init ops := by
  have both : Always step (fun m => m.Filed ∧ m.Consistent) init ops ↔
      Along step FreshAdd init ops := by
    refine always_iff_along (fun m op h => ?_) ⟨filed_init, consistent_init⟩
    rw [← consistent_step_iff h.1 h.2 op]
    exact ⟨And.right, fun h' => ⟨filed_step h.1 op, h'⟩⟩
  refine ⟨fun h => both.mp (Always.and ?_ h), fun h => (both.mpr h).imp fun _ => And.right⟩
  exact always_of_step (fun m op h => filed_step h op) filed_init

/-- A stream added twice on free channels: channels 0 and 1 stay owned by it, though its only
stored mapping uses 4 and 5. -/
theorem not_always_consistent :
    ¬ Always step Consistent init
      [.addMapping { streamID := ⟨1, by decide⟩, streamChannelCount := 2, deviceChannelCount := 2 },
       .addMapping { streamID := ⟨1, by decide⟩, streamChannelCount := 2,
                     deviceChannelStart := 4, deviceChannelCount := 2 }] := by
  intro h
  obtain ⟨mapping, hm, hc⟩ := h.run.used ⟨0, by decide⟩ (by decide)
  have hm' : mapping =
      { streamID := ⟨1, by decide⟩, streamChannelCount := 2, deviceChannelStart := 4,
        deviceChannelCount := 2 } := (Option.some.inj hm).symm
  rw [hm'] at hc
  exact absurd hc (by decide)

end Mapper

end Aes67
