import Aes67.Mapper.Owners

/-!
# Free blocks

`findContiguousBlock` walks the usable channels once, with the free run it is in. What it answers
is the start of a free block of the asked width, and it finds one wherever there is one.

* `Mapper.Free`: a block nobody owns a channel of;
* `findBlock_spec`: what the walk answers from any point of it;
* `createDefaultMapping_isSome_iff`: a default mapping is proposed exactly where a block is free;
* **`createDefaultMapping_firstFit`**: on the lowest of them, and it can be added.
-/

namespace Aes67

namespace Mapper

variable {m : Mapper} {n : ℕ}

/-- Nobody owns the `n` channels from `start`. -/
def Free (m : Mapper) (start n : ℕ) : Prop := ∀ c, start ≤ c → c < start + n → m.ownerAt c = .null

/-- The walk at channel `i`, with a free run of `count` channels behind it: it answers with the first
free block from that run on, or there is none. -/
theorem findBlock_spec (hn : 0 < n) (fuel i count : ℕ) (b : Option ℕ) (hb : b.getD i + count = i)
    (hc : count < n) (free : ∀ c, b.getD i ≤ c → c < i → m.ownerAt c = .null) :
    match m.findBlock n fuel i b count with
    | some start => start + n ≤ i + fuel ∧ m.Free start n ∧
        ∀ s, b.getD i ≤ s → s < start → ¬ m.Free s n
    | none => ∀ start, b.getD i ≤ start → start + n ≤ i + fuel → ¬ m.Free start n := by
  induction fuel generalizing i count b with
  | zero =>
    intro start h1 h2
    omega
  | succ fuel ih =>
    rw [findBlock]
    by_cases hi : m.ownerAt i = .null
    · have free' : ∀ c, b.getD i ≤ c → c < i + 1 → m.ownerAt c = .null := by
        intro c h1 h2
        rcases Nat.lt_succ_iff_lt_or_eq.mp h2 with h | rfl
        · exact free c h1 h
        · exact hi
      rw [if_pos (by simp [hi, StreamID.isNull])]
      dsimp only
      by_cases hfull : count + 1 ≥ n
      · rw [if_pos hfull]
        exact ⟨by omega, fun c h1 h2 => free' c h1 (by omega), fun s h1 h2 => by omega⟩
      · rw [if_neg hfull]
        have := ih (i + 1) (count + 1) (some (b.getD i)) (by simp; omega) (by omega) free'
        rw [show i + 1 + fuel = i + (fuel + 1) by omega] at this
        exact this
    · rw [if_neg (by simpa [StreamID.isNull] using hi)]
      have := ih (i + 1) 0 none (by simp) hn fun c h1 h2 => absurd h2 (by simpa using h1)
      rw [show i + 1 + fuel = i + (fuel + 1) by omega] at this
      -- A block from before the taken channel would hold it.
      have before : ∀ s, b.getD i ≤ s → s ≤ i → ¬ m.Free s n := fun s h1 h2 hf =>
        hi (hf i h2 (by omega))
      cases he : m.findBlock n fuel (i + 1) none 0 with
      | some start =>
        rw [he] at this
        obtain ⟨hle, hfree, hleast⟩ := this
        refine ⟨hle, hfree, fun s h1 h2 => ?_⟩
        rcases Nat.lt_or_ge i s with h | h
        · exact hleast s h h2
        · exact before s h1 h
      | none =>
        rw [he] at this
        intro start h1 h2
        rcases Nat.lt_or_ge i start with h | h
        · exact this start h h2
        · exact before start h1 h

theorem findContiguousBlock_eq_some (hn : 0 < n) {start : ℕ}
    (h : m.findContiguousBlock n = some start) :
    start + n ≤ m.usableChannelCount ∧ m.Free start n := by
  have := findBlock_spec (m := m) hn m.usableChannelCount 0 0 none rfl hn (by simp)
  rw [findContiguousBlock] at h
  rw [h] at this
  exact ⟨by simpa using this.1, this.2.1⟩

theorem findContiguousBlock_least (hn : 0 < n) {start : ℕ}
    (h : m.findContiguousBlock n = some start) {s : ℕ} (hs : s < start) : ¬ m.Free s n := by
  have := findBlock_spec (m := m) hn m.usableChannelCount 0 0 none rfl hn (by simp)
  rw [findContiguousBlock] at h
  rw [h] at this
  exact this.2.2 s (Nat.zero_le _) hs

theorem findContiguousBlock_eq_none (hn : 0 < n) (h : m.findContiguousBlock n = none) {start : ℕ}
    (hs : start + n ≤ m.usableChannelCount) : ¬ m.Free start n := by
  have := findBlock_spec (m := m) hn m.usableChannelCount 0 0 none rfl hn (by simp)
  rw [findContiguousBlock] at h
  rw [h] at this
  exact this start (Nat.zero_le _) (by simpa using hs)

/-- What a default mapping looks like. -/
theorem createDefaultMapping_eq_some (hn : 0 < n) {id : StreamID} {streamName : Text}
    {mapping : ChannelMapping} (h : m.createDefaultMapping id streamName n = some mapping) :
    ∃ start, start + n ≤ m.usableChannelCount ∧ m.Free start n ∧ mapping =
      { streamID := id, streamName := streamName, streamChannelCount := n,
        deviceChannelStart := start, deviceChannelCount := n } := by
  rw [createDefaultMapping] at h
  split at h
  · cases h
  · next start hs =>
    cases h
    obtain ⟨hle, hfree⟩ := findContiguousBlock_eq_some hn hs
    exact ⟨start, hle, hfree, rfl⟩

/-- **A default mapping is proposed exactly where a block is free.** -/
theorem createDefaultMapping_isSome_iff (hn : 0 < n) (id : StreamID) (streamName : Text) :
    (∃ mapping, m.createDefaultMapping id streamName n = some mapping) ↔
      ∃ start, start + n ≤ m.usableChannelCount ∧ m.Free start n := by
  constructor
  · rintro ⟨mapping, h⟩
    obtain ⟨start, hle, hfree, -⟩ := createDefaultMapping_eq_some hn h
    exact ⟨start, hle, hfree⟩
  · rintro ⟨start, hle, hfree⟩
    rw [createDefaultMapping]
    cases hb : m.findContiguousBlock n with
    | none => exact absurd hfree (findContiguousBlock_eq_none hn hb hle)
    | some s => exact ⟨_, rfl⟩

theorem ownerAt_of_lt {c : ℕ} (hc : c < kMaxDeviceChannels) :
    m.ownerAt c = m.deviceChannelOwners ⟨c, hc⟩ := by
  rw [ownerAt, dif_pos hc]

/-- A valid mapping is taken exactly where nobody owns its channels. -/
theorem accepts_iff_ownerAt {mapping : ChannelMapping} (hv : mapping.Valid) :
    m.accepts mapping = true ↔ ∀ c ∈ mapping.deviceChannels, m.ownerAt c = .null := by
  rw [accepts_iff]
  constructor
  · rintro ⟨-, h⟩ c hc
    rw [ownerAt_of_lt (hv.lt_of_mem hc)]
    exact h ⟨c, hv.lt_of_mem hc⟩ hc
  · intro h
    refine ⟨hv, fun c hc => ?_⟩
    rw [← h c hc, ownerAt_of_lt c.2]

/-- **First fit.** A default mapping is proposed exactly where some run of free channels lies below
the usable count, on the lowest such run, and a stream with an identifier can be added with it. -/
theorem createDefaultMapping_firstFit (m : Mapper) (id : StreamID) (streamName : Text) (n : ℕ)
    (hn : 1 ≤ n) :
    ((∃ mapping, m.createDefaultMapping id streamName n = some mapping) ↔
      ∃ start, start + n ≤ m.usableChannelCount ∧ m.Free start n) ∧
    ∀ mapping, m.createDefaultMapping id streamName n = some mapping →
      IsLeast {start | start + n ≤ m.usableChannelCount ∧ m.Free start n}
        mapping.deviceChannelStart ∧
      mapping.deviceChannels = (List.range n).map (mapping.deviceChannelStart + ·) ∧
      (id ≠ .null → m.mappings.find? id = none → (m.addMapping mapping).2 = true) := by
  refine ⟨createDefaultMapping_isSome_iff hn id streamName, fun mapping h => ?_⟩
  rw [createDefaultMapping] at h
  split at h
  · cases h
  next start hs =>
  cases h
  obtain ⟨hle, hfree⟩ := findContiguousBlock_eq_some hn hs
  refine ⟨⟨⟨hle, hfree⟩, fun s hfits => ?_⟩, rfl, fun hid _ => ?_⟩
  · by_contra hlt
    exact findContiguousBlock_least hn hs (Nat.lt_of_not_le hlt) hfits.2
  · have husable := m.usable_le
    have hvalid : ChannelMapping.Valid
        { streamID := id, streamName := streamName, streamChannelCount := n,
          deviceChannelStart := start, deviceChannelCount := n } :=
      ⟨hid, hn, hn, hle.trans husable, nofun, List.nodup_nil⟩
    have haccepts := (accepts_iff_ownerAt (m := m) hvalid).mpr fun c hc => by
      obtain ⟨i, hi, rfl⟩ := List.mem_map.mp hc
      exact hfree _ (Nat.le_add_right _ _) (Nat.add_lt_add_left (List.mem_range.mp hi) _)
    rcases addMapping_cases m _ with ⟨hno, -⟩ | ⟨-, e⟩
    · exact absurd (haccepts.symm.trans hno) (by decide)
    · exact congrArg Prod.snd e

/-- Beside a stream on channels 0 to 3, eight channels are proposed from channel 4 on. -/
theorem createDefaultMapping_firstFit_eight :
    let m := init.step (.addMapping { streamID := ⟨1, by decide⟩, streamChannelCount := 4,
                                      deviceChannelCount := 4 })
    ((∃ mapping, m.createDefaultMapping ⟨2, by decide⟩ [] 8 = some mapping) ↔
      ∃ start, start + 8 ≤ m.usableChannelCount ∧ m.Free start 8) ∧
    ∀ mapping, m.createDefaultMapping ⟨2, by decide⟩ [] 8 = some mapping →
      IsLeast {start | start + 8 ≤ m.usableChannelCount ∧ m.Free start 8}
        mapping.deviceChannelStart ∧
      mapping.deviceChannels = (List.range 8).map (mapping.deviceChannelStart + ·) ∧
      ((⟨2, by decide⟩ : StreamID) ≠ .null → m.mappings.find? ⟨2, by decide⟩ = none →
        (m.addMapping mapping).2 = true) :=
  createDefaultMapping_firstFit _ _ _ 8 (by decide)

end Mapper

end Aes67
