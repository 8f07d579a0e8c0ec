import Aes67.Manager.Flows
import Aes67.Manager.Saved

/-!
# A restart

`saveAllStreams` and then `loadSavedStreams` into an empty manager. The streams come back one by one
in the order of the map, and each is asked about anew, as a receive stream, when its turn comes. The
file has no place for the marking of a stream's packets, nor for its source port.

* `restart`, `Preserves`: a restart, and that it preserves the streams;
* `below`: what is there when a stream's turn comes; `Restartable`: what a restart asks of them;
* `Partway`: a manager some way into its file, and `letIn_iff`: the next stream it lets in;
* **`preserves_iff_of_books`**: the restart of a readable file preserves the streams exactly where
  they are `Restartable`;
* **`restart_preserves_iff`**: throughout every run.
-/

namespace Aes67.StreamManager

open Sdp (SDPSession)
open StreamConfigManager (Thrown Findable Readable reread rereadAll fromJSON toJSON)

variable {s t : StreamManager} {env : Env} {network : NetworkUtils} {now : StreamID → UInt64}
  {id : StreamID} {managed : ManagedStream}

/-! ## Restarting -/

/-- A manager with the settings of `s`, no stream, and its device not running. -/
def emptied (s : StreamManager) : StreamManager :=
  { s with
    mapper := s.mapper.clearAll
    streams := .empty
    rxChannelsInUse := 0
    txChannelsInUse := 0
    activeGrandmaster := []
    ioActive := false }

/-- The manager after a restart; nothing where the reader throws. -/
def restart (s : StreamManager) (network : NetworkUtils) (env : Env) (now : StreamID → UInt64) :
    Except Thrown StreamManager :=
  (fromJSON network (s.saveAllStreams now)).map (s.emptied.loadSavedStreams env)

/-- A stream is back: its role and its mapping are what they were, and where it is sent so is what
is seen of it on the wire. -/
structure IsBack (managed managed' : ManagedStream) : Prop where
  isTransmit : managed'.isTransmit = managed.isTransmit
  mapping : managed'.mapping = managed.mapping
  generate : managed.isTransmit = true →
    ∀ time, Sdp.generate time managed'.sdp = Sdp.generate time managed.sdp
  dscp : managed.isTransmit = true → managed'.sdp.dscp = managed.sdp.dscp
  sourcePort : managed.isTransmit = true → managed'.sourcePort = managed.sourcePort

/-- The restart preserves the streams: the identifiers are the same, and each stream is back. -/
def Preserves (s : StreamManager) (network : NetworkUtils) (env : Env)
    (now : StreamID → UInt64) : Prop :=
  ∃ s', s.restart network env now = .ok s' ∧ s'.streams.keys = s.streams.keys ∧
    ∀ id managed managed', s.streams.find? id = some managed →
      s'.streams.find? id = some managed' → IsBack managed managed'

/-- The manager without the streams from `id` on: what is there when the turn of `id` comes. -/
def below (s : StreamManager) (id : StreamID) : StreamManager :=
  s.rollBack (s.streams.keys.filter (id ≤ ·))

/-- The reader takes the session for a valid one, and it passes as one to receive beside the streams
below it. -/
structure Passes (env : Env) (s : StreamManager) (id : StreamID) (managed : ManagedStream) :
    Prop where
  valid : managed.sdp.isValid = true
  admitted : (s.below id).canAddStream env.isLocked managed.sdp false = .ok ()

/-- Where the stream is sent, its packets are marked as the profile has it, from a port the system
chose. -/
structure Unmarked (managed : ManagedStream) : Prop where
  dscp : managed.isTransmit = true → managed.sdp.dscp = -1
  sourcePort : managed.isTransmit = true → managed.sourcePort = 0

/-- What a restart asks of the streams. -/
def Restartable (env : Env) (s : StreamManager) : Prop :=
  ∀ e ∈ s.streams.entries, Passes env s e.1 e.2 ∧ Unmarked e.2

/-! ## What a check depends on -/

/-- The settings that the checks of a stream depend on are the same. -/
structure SameChecks (s s' : StreamManager) : Prop extends SameSettings s s' where
  requirePTPLock : s'.requirePTPLock = s.requirePTPLock
  ptpEnabled : s'.ptpEnabled = s.ptpEnabled

theorem SameChecks.trans {s₁ s' : StreamManager} (h : SameChecks s s₁) (h' : SameChecks s₁ s') :
    SameChecks s s' :=
  ⟨h.toSameSettings.trans h'.toSameSettings, h'.requirePTPLock.trans h.requirePTPLock,
    h'.ptpEnabled.trans h.ptpEnabled⟩

theorem SameChecks.symm (h : SameChecks s t) : SameChecks t s :=
  ⟨⟨⟨h.toSameLimits.symm, h.txFlowPortOffset.symm, h.ignoreRefClockMismatch.symm⟩,
    h.currentDeviceSampleRate.symm, h.usable.symm⟩, h.requirePTPLock.symm, h.ptpEnabled.symm⟩

theorem sameChecks_keep {mapper : Mapper} (managed : ManagedStream)
    (hu : mapper.usableChannelCount = s.mapper.usableChannelCount) :
    SameChecks s (s.keep mapper managed) := by
  refine ⟨sameSettings_keep managed hu, ?_, ?_⟩
  · rw [keep_eq]
  · rw [keep_eq]

theorem sameChecks_rollBack (s : StreamManager) (ids : List StreamID) :
    SameChecks s (s.rollBack ids) := by
  induction ids generalizing s with
  | nil => exact ⟨.refl s, rfl, rfl⟩
  | cons id ids ih =>
    refine SameChecks.trans ⟨sameSettings_removeStream s id, ?_, ?_⟩ (ih _)
    all_goals
      cases hf : s.streams.find? id with
      | none => rw [removeStream_of_none hf]
      | some managed =>
        rw [removeStream_of_find? hf]
        rfl

/-- The checks of a stream depend on the settings, the mapper, the totals and the clock. -/
theorem canAddStream_congr {isLocked : Int32 → Bool} {sdp : SDPSession} {d : Bool}
    (h : SameChecks s t) (hm : t.mapper = s.mapper)
    (hc : t.channelsInUse d = s.channelsInUse d) (hg : t.activeGrandmaster = s.activeGrandmaster) :
    t.canAddStream isLocked sdp d = s.canAddStream isLocked sdp d := by
  have h1 : t.validateSampleRate sdp = s.validateSampleRate sdp := by
    rw [validateSampleRate, validateSampleRate, h.currentDeviceSampleRate]
  have h2 : t.validateChannelAvailability sdp.numChannels =
      s.validateChannelAvailability sdp.numChannels := by
    rw [validateChannelAvailability, validateChannelAvailability, hm]
  have h3 : ∀ profile, t.validateTotalChannels profile sdp d =
      s.validateTotalChannels profile sdp d := fun profile => by
    rw [validateTotalChannels, validateTotalChannels, hc]
  have h4 : t.validateUsableChannels sdp d = s.validateUsableChannels sdp d := by
    rw [validateUsableChannels, validateUsableChannels, hc, h.usableRxChannelCount,
      h.usableTxChannelCount]
  have h5 : t.validateLock isLocked sdp = s.validateLock isLocked sdp := by
    rw [validateLock, validateLock, h.requirePTPLock, h.ptpEnabled]
  have h6 : t.validateGrandmaster sdp = s.validateGrandmaster sdp := by
    rw [validateGrandmaster, validateGrandmaster, h.ignoreRefClockMismatch, hg]
  rw [canAddStream, canAddStream, h1, h2, h4, h5, h6, h.profileKind]
  dsimp only
  rw [h3]

/-! ## The clock -/

/-- The clock of the first stream to declare one. -/
def firstDeclared (streams : OrdMap StreamID ManagedStream) : Text :=
  ((streams.values.map fun managed => managed.sdp.ptpMasterMAC).find? (· ≠ [])).getD []

theorem clock_removeStream (hf : s.streams.find? id = some managed) :
    (s.removeStream id).1.activeGrandmaster = firstDeclared (s.removeStream id).1.streams := by
  rw [removeStream_of_find? hf]
  rfl

theorem clock_rollBack (h : s.activeGrandmaster = firstDeclared s.streams) (ids : List StreamID) :
    (s.rollBack ids).activeGrandmaster = firstDeclared (s.rollBack ids).streams := by
  induction ids generalizing s with
  | nil => exact h
  | cons id ids ih =>
    have hone : (s.removeStream id).1.activeGrandmaster =
        firstDeclared (s.removeStream id).1.streams := by
      cases hf : s.streams.find? id with
      | none =>
        rw [removeStream_of_none hf]
        exact h
      | some managed => exact clock_removeStream hf
    exact ih hone

/-- A stream that comes behind all others declares a clock only where they do not. -/
theorem firstDeclared_insert {streams : OrdMap StreamID ManagedStream}
    (hlast : ∀ e ∈ streams.entries, e.1 < id) (managed : ManagedStream) :
    firstDeclared (streams.insert id managed) =
      if firstDeclared streams = [] then managed.sdp.ptpMasterMAC else firstDeclared streams := by
  rw [firstDeclared, firstDeclared, OrdMap.values, OrdMap.values, OrdMap.entries_insert_last hlast,
    List.map_append, List.map_append, List.find?_append]
  cases hfind : ((streams.entries.map Prod.snd).map fun managed => managed.sdp.ptpMasterMAC).find?
      (· ≠ []) with
  | some grandmaster =>
    have hne : grandmaster ≠ [] := by simpa using List.find?_some hfind
    simp [hne]
  | none =>
    by_cases hm : managed.sdp.ptpMasterMAC = [] <;> simp [hm]

/-! ## Below a stream -/

section Below

variable {done rest : List (StreamID × ManagedStream)}

/-- The streams before one in the map. -/
theorem lt_of_mem_done (hs : s.streams.entries = done ++ (id, managed) :: rest) :
    ∀ e ∈ done, e.1 < id := by
  have hsorted := s.streams.sorted
  rw [hs, KeySorted, List.pairwise_append] at hsorted
  exact fun e he => hsorted.2.2 e he (id, managed) List.mem_cons_self

theorem lt_of_mem_rest (hs : s.streams.entries = done ++ (id, managed) :: rest) :
    ∀ e ∈ rest, id < e.1 := by
  have hsorted := s.streams.sorted
  rw [hs, KeySorted, List.pairwise_append, List.pairwise_cons] at hsorted
  exact hsorted.2.1.1

theorem entries_below (hs : s.streams.entries = done ++ (id, managed) :: rest) :
    (s.below id).streams.entries = done := by
  have hsorted : KeySorted done := by
    have hall := s.streams.sorted
    rw [hs] at hall
    exact (List.pairwise_append.mp hall).1
  refine (s.below id).streams.sorted.ext hsorted fun id' => ?_
  have hfind : s.streams.find? id' = (done ++ (id, managed) :: rest).lookup id' := by
    rw [← hs]
    rfl
  refine (find?_rollBack s _ id').trans ?_
  rw [hfind, List.lookup_append]
  by_cases hlt : id' < id
  · have hrest : ((id, managed) :: rest).lookup id' = none :=
      OrdMap.lookup_eq_none_of_lt (List.forall_mem_cons.mpr
        ⟨hlt, fun e he => hlt.trans (lt_of_mem_rest hs e he)⟩)
    rw [if_neg (by simp [hlt]), hrest, Option.or_none]
  · have hdone : done.lookup id' = none := by
      rw [List.lookup_eq_none_iff]
      intro e he
      have := (lt_of_mem_done hs e he).trans_le (not_lt.mp hlt)
      simpa using ne_of_gt this
    rw [hdone, Option.none_or]
    split_ifs with hmem
    · rfl
    · have hkey : id' ∉ s.streams.keys := fun hk =>
        hmem (List.mem_filter.mpr ⟨hk, by simpa using not_lt.mp hlt⟩)
      rw [OrdMap.mem_keys_iff, not_exists] at hkey
      have hnone : s.streams.find? id' = none := Option.eq_none_iff_forall_ne_some.mpr hkey
      rw [hfind, List.lookup_append, hdone, Option.none_or] at hnone
      exact hnone

theorem books_below (h : Books s) (id : StreamID) : Books (s.below id) :=
  kept_rollBack (A := fun _ _ _ => True) (fun _ _ hm h => books_move h hm) h _

theorem find?_of_entries (hs : s.streams.entries = done ++ (id, managed) :: rest) :
    s.streams.find? id = some managed :=
  s.streams.mem_entries_iff.mp (hs ▸ List.mem_append_right done List.mem_cons_self)

/-- Below a stream the clock is that of the streams left: the stream itself was taken out. -/
theorem clock_below (hs : s.streams.entries = done ++ (id, managed) :: rest) :
    (s.below id).activeGrandmaster = firstDeclared (s.below id).streams := by
  have hdone : (done.map Prod.fst).filter (id ≤ ·) = [] := by
    refine List.filter_eq_nil_iff.mpr fun id' hid' => ?_
    obtain ⟨e, he, rfl⟩ := List.mem_map.mp hid'
    simpa using lt_of_mem_done hs e he
  have hids : s.streams.keys.filter (id ≤ ·) = id :: (rest.map Prod.fst).filter (id ≤ ·) := by
    rw [OrdMap.keys, hs, List.map_append, List.filter_append, hdone, List.nil_append, List.map_cons,
      List.filter_cons_of_pos (by simp)]
  rw [below, hids]
  exact clock_rollBack (clock_removeStream (find?_of_entries hs)) _

end Below

/-! ## Some way into the file -/

/-- A stream as it comes back. -/
def restored (managed : ManagedStream) : ManagedStream where
  sdp := managed.sdp.written
  mapping := managed.mapping
  rtp := { sdp := managed.sdp.written, mapping := managed.mapping }
  isTransmit := managed.isTransmit

/-- The manager some way into its file: the streams that are `done` are back. -/
structure Partway (s t : StreamManager) (done : List (StreamID × ManagedStream)) : Prop where
  books : Books t
  checks : SameChecks s t
  ioActive : t.ioActive = false
  entries : t.streams.entries = done.map fun e => (e.1, restored e.2)
  clock : t.activeGrandmaster = firstDeclared t.streams

theorem partway_emptied (s : StreamManager) : Partway s s.emptied [] where
  books := ⟨⟨fun _ => rfl, Mapper.filed_clearAll s.mapper, Mapper.consistent_clearAll s.mapper⟩,
    fun d => by cases d <;> rfl⟩
  checks := ⟨⟨⟨⟨rfl, rfl, rfl⟩, rfl, rfl⟩, rfl, rfl⟩, rfl, rfl⟩
  ioActive := rfl
  entries := rfl
  clock := rfl

section Partway

variable {done rest : List (StreamID × ManagedStream)} {c : PersistedStreamConfig × ℕ} {n : UInt64}

theorem streams_of_entries {streams streams' : OrdMap StreamID ManagedStream}
    (h : streams'.entries = streams.entries.map fun e => (e.1, restored e.2)) :
    streams' = streams.mapValues restored := by
  cases streams'
  cases streams
  simpa [OrdMap.mapValues, OrdMap.mapWithKey] using h

theorem firstDeclared_restored (streams : OrdMap StreamID ManagedStream) :
    firstDeclared (streams.mapValues restored) = firstDeclared streams := by
  simp only [firstDeclared, OrdMap.values, OrdMap.mapValues, OrdMap.mapWithKey, List.map_map]
  rfl

/-- **A check some way into the file** is the one beside the streams below. -/
theorem Partway.canAddStream_eq (h : Partway s t done) (hb : Books s)
    (hs : s.streams.entries = done ++ (id, managed) :: rest) (isLocked : Int32 → Bool)
    (sdp : SDPSession) (d : Bool) :
    t.canAddStream isLocked sdp d = (s.below id).canAddStream isLocked sdp d := by
  have hbelow := books_below hb id
  have hchecks : SameChecks (s.below id) t := (sameChecks_rollBack s _).symm.trans h.checks
  have hstreams : t.streams = (s.below id).streams.mapValues restored :=
    streams_of_entries (by rw [h.entries, entries_below hs])
  have hmapper : t.mapper = (s.below id).mapper := by
    refine hbelow.toMapped.mapper_eq h.books.toMapped (fun id' => ?_) hchecks.usable
    rw [hstreams, OrdMap.find?_mapValues, Option.map_map]
    rfl
  have htotal : t.channelTotal d = (s.below id).channelTotal d := by
    rw [channelTotal, hstreams]
    exact (s.below id).streams.total_mapWithKey (channelsOf d) (g := fun _ => restored)
      fun _ _ => rfl
  have hinUse : t.channelsInUse d = (s.below id).channelsInUse d :=
    UInt32.toNat_inj.mp (by rw [h.books.totals, hbelow.totals, htotal])
  have hclock : t.activeGrandmaster = (s.below id).activeGrandmaster := by
    rw [h.clock, hstreams, firstDeclared_restored, clock_below hs]
  exact canAddStream_congr hchecks hmapper hinUse hclock

/-- The channels of a stream are free until its turn comes. -/
theorem Partway.accepts (h : Partway s t done) (hb : Books s)
    (hs : s.streams.entries = done ++ (id, managed) :: rest) :
    t.mapper.accepts managed.mapping = true := by
  obtain ⟨hv, hid⟩ := hb.valid (find?_of_entries hs)
  refine Mapper.accepts_iff.mpr ⟨hv, fun ch hch => ?_⟩
  by_contra hne
  obtain ⟨mapping, hfind, hmem⟩ := h.books.consistent.used ch hne
  have hstream := h.books.mappings (t.mapper.deviceChannelOwners ch)
  rw [Mapper.getMapping, hfind] at hstream
  obtain ⟨managed', hf', rfl⟩ := Option.map_eq_some_iff.mp hstream.symm
  -- The owner is one of the streams that are back, so it was beside this one before.
  rw [← OrdMap.mem_entries_iff, h.entries] at hf'
  obtain ⟨e, he, heq⟩ := List.mem_map.mp hf'
  have hlt := lt_of_mem_done hs e he
  obtain ⟨hid', rfl⟩ := Prod.mk.inj heq
  have hf : s.streams.find? e.1 = some e.2 :=
    s.streams.mem_entries_iff.mp (hs ▸ List.mem_append_left _ he)
  have huse : s.mapper.Uses e.1 ch := ⟨e.2.mapping, hb.find?_eq_some hf, hmem⟩
  have huse' : s.mapper.Uses id ch := ⟨managed.mapping, hb.find?_eq_some (find?_of_entries hs), hch⟩
  exact absurd (hb.consistent.disjoint _ _ _ huse huse') (ne_of_lt hlt)

theorem Partway.find?_eq_none (h : Partway s t done)
    (hs : s.streams.entries = done ++ (id, managed) :: rest) : t.streams.find? id = none := by
  refine Option.eq_none_iff_forall_ne_some.mpr fun managed' hf => ?_
  rw [← OrdMap.mem_entries_iff, h.entries] at hf
  obtain ⟨e, he, heq⟩ := List.mem_map.mp hf
  exact absurd (Prod.mk.inj heq).1 (ne_of_lt (lt_of_mem_done hs e he))

/-- What is read of a stream is valid where its session is: its mapping was in the mapper. -/
theorem isValid_reread (hb : Books s) (hf : s.streams.find? id = some managed) :
    (reread network (savedStream managed n)).isValid = managed.sdp.isValid := by
  have hm : managed.mapping.isValid = true := ChannelMapping.isValid_iff.mpr (hb.valid hf).1
  change (managed.sdp.isValid && managed.mapping.isValid) = _
  rw [hm, Bool.and_true]

/-- **The next stream is let in exactly where it passes.** -/
theorem Partway.letIn_iff (h : Partway s t done) (hb : Books s)
    (hs : s.streams.entries = done ++ (id, managed) :: rest)
    (hc : c.1 = reread network (savedStream managed n)) :
    LetIn env t c ↔ Passes env s id managed := by
  have hid := (hb.valid (find?_of_entries hs)).2
  have hcan : t.canAddStream env.isLocked c.1.sdp false =
      (s.below id).canAddStream env.isLocked managed.sdp false := by
    rw [h.canAddStream_eq hb hs, hc]
    rfl
  have hvalid : c.1.isValid = managed.sdp.isValid :=
    hc ▸ isValid_reread hb (find?_of_entries hs)
  have hmapping : c.1.mapping = managed.mapping := by
    rw [hc]
    rfl
  constructor
  · intro hin
    exact ⟨hvalid ▸ hin.valid, hcan ▸ hin.checked⟩
  · rintro ⟨hsdp, hadmitted⟩
    refine ⟨by rw [hc]; rfl, hvalid.trans hsdp, hcan.trans hadmitted, ?_, ?_, fun hio => ?_⟩
    · rw [hmapping, hid]
      exact h.find?_eq_none hs
    · rw [hmapping]
      exact h.accepts hb hs
    · rw [h.ioActive] at hio
      cases hio

theorem restoreStep_of_letIn (hin : LetIn env t c) (hio : t.ioActive = false) :
    ∃ mapper, t.mapper.addMapping c.1.mapping = (mapper, true) ∧
      restoreStep env t c = t.keep mapper
        { sdp := c.1.sdp, mapping := c.1.mapping, rtp := { sdp := c.1.sdp, mapping := c.1.mapping },
          isTransmit := c.1.isTransmit } := by
  rcases t.mapper.addMapping_cases c.1.mapping with ⟨hrefused, -⟩ | ⟨-, hadd⟩
  · rw [hin.accepted] at hrefused
    cases hrefused
  · refine ⟨_, hadd, ?_⟩
    rw [restoreStep, loadStream, if_neg (by simp [hin.enabled]), if_neg (by simp [hin.valid]),
      hin.checked]
    dsimp only
    rw [if_neg (by simp [hin.new]), enlist, hadd]
    have hstopped : ¬ t.ioActive = true := by simp [hio]
    simp only [if_neg hstopped, Bool.not_true, Bool.false_eq_true, if_false]
    rfl

/-- **A stream that passes is back**, and the rest is as it was. -/
theorem Partway.next (h : Partway s t done) (hb : Books s)
    (hs : s.streams.entries = done ++ (id, managed) :: rest)
    (hc : c.1 = reread network (savedStream managed n)) (hp : Passes env s id managed) :
    Partway s (restoreStep env t c) (done ++ [(id, managed)]) := by
  have hin := (h.letIn_iff hb hs hc).mpr hp
  obtain ⟨mapper, hadd, e⟩ := restoreStep_of_letIn hin h.ioActive
  have hnew := hin.new
  rw [hc] at e hadd hnew
  have hback : restoreStep env t c = t.keep mapper (restored managed) := e
  have hadd' : t.mapper.addMapping (restored managed).mapping = (mapper, true) := hadd
  have hid : (restored managed).mapping.streamID = id := (hb.valid (find?_of_entries hs)).2
  have hlast : ∀ e ∈ t.streams.entries, e.1 < id := by
    rw [h.entries]
    intro e he
    obtain ⟨e', he', rfl⟩ := List.mem_map.mp he
    exact lt_of_mem_done hs e' he'
  rw [hback]
  refine ⟨books_keep h.books hadd' hnew, ?_, ?_, ?_, ?_⟩
  · refine h.checks.trans (sameChecks_keep _ ?_)
    have hu := t.mapper.usable_addMapping (restored managed).mapping
    rwa [hadd'] at hu
  · rw [keep_eq]
    exact h.ioActive
  · rw [keep_streams, hid, OrdMap.entries_insert_last hlast, h.entries, List.map_append]
    rfl
  · rw [keep_activeGrandmaster, keep_streams, hid, firstDeclared_insert hlast, h.clock]
    by_cases hg : firstDeclared t.streams = []
    · by_cases hm : (restored managed).sdp.ptpMasterMAC = [] <;> simp [hg, hm]
    · simp [hg]

/-- A stream that does not pass is not back. -/
theorem Partway.refused (h : Partway s t done) (hb : Books s)
    (hs : s.streams.entries = done ++ (id, managed) :: rest)
    (hc : c.1 = reread network (savedStream managed n)) (hp : ¬ Passes env s id managed) :
    (restoreStep env t c).streams.find? id = none := by
  have hout : ¬ LetIn env t c := fun hin => hp ((h.letIn_iff hb hs hc).mp hin)
  have hnone := h.find?_eq_none hs
  rw [restoreStep]
  rcases t.loadStream_eq env c with ⟨-, e | ⟨mapper, -, -, e⟩⟩ | ⟨hin, -⟩
  · rw [e]
    exact hnone
  · rw [e]
    exact hnone
  · exact absurd hin hout

theorem find?_restore_of_ne {l : List (PersistedStreamConfig × ℕ)}
    (hne : ∀ c ∈ l, c.1.mapping.streamID ≠ id) (hn : t.streams.find? id = none) :
    (l.foldl (restoreStep env) t).streams.find? id = none := by
  induction l generalizing t with
  | nil => exact hn
  | cons c l ih =>
    obtain ⟨hc, hl⟩ := List.forall_mem_cons.mp hne
    refine ih hl ?_
    rw [restoreStep]
    rcases t.loadStream_eq env c with ⟨-, e | ⟨mapper, -, -, e⟩⟩ | ⟨-, mapper, rtp, -, -, e⟩
    · rw [e]
      exact hn
    · rw [e]
      exact hn
    · rw [e, keep_streams, OrdMap.find?_insert, if_neg (Ne.symm hc)]
      exact hn

/-! ## The whole file -/

/-- What the reader makes of a stream's part of the file. -/
def readBack (network : NetworkUtils) (now : StreamID → UInt64) (e : StreamID × ManagedStream) :
    PersistedStreamConfig :=
  reread network (savedStream e.2 (now e.1))

/-- **Streams that all pass are all back.** -/
theorem Partway.all (network : NetworkUtils) (now : StreamID → UInt64) (h : Partway s t done) (hb : Books s) (hs : s.streams.entries = done ++ rest)
    (hp : ∀ e ∈ rest, Passes env s e.1 e.2) (k : ℕ) :
    Partway s (((rest.map (readBack network now)).zipIdx k).foldl (restoreStep env) t)
      (done ++ rest) := by
  induction rest generalizing t done k with
  | nil =>
    rw [List.append_nil]
    exact h
  | cons e rest ih =>
    obtain ⟨hpe, hprest⟩ := List.forall_mem_cons.mp hp
    rw [List.map_cons, List.zipIdx_cons, List.foldl_cons]
    have hnext := h.next (c := (readBack network now e, k)) hb hs rfl hpe
    have hs' : s.streams.entries = (done ++ [e]) ++ rest := by simpa using hs
    have hall := ih hnext hs' hprest (k + 1)
    rwa [List.append_assoc] at hall

/-- Streams that are all back have all passed. -/
theorem Partway.passes (network : NetworkUtils) (now : StreamID → UInt64) (h : Partway s t done) (hb : Books s)
    (hs : s.streams.entries = done ++ rest) (k : ℕ)
    (hback : ∀ e ∈ rest, (((rest.map (readBack network now)).zipIdx k).foldl (restoreStep env)
      t).streams.find? e.1 ≠ none) : ∀ e ∈ rest, Passes env s e.1 e.2 := by
  induction rest generalizing t done k with
  | nil => exact fun e he => absurd he List.not_mem_nil
  | cons e rest ih =>
    rw [List.map_cons, List.zipIdx_cons, List.foldl_cons] at hback
    obtain ⟨hhead, htail⟩ := List.forall_mem_cons.mp hback
    have hpe : Passes env s e.1 e.2 := by
      by_contra hp
      refine hhead (find?_restore_of_ne (fun c hc => ?_)
        (h.refused (c := (readBack network now e, k)) hb hs rfl hp))
      -- The streams behind have other identifiers.
      obtain ⟨e', he', hce⟩ := List.mem_map.mp (List.fst_mem_of_mem_zipIdx hc)
      have hmem : s.streams.find? e'.1 = some e'.2 := s.streams.mem_entries_iff.mp
        (hs ▸ List.mem_append_right done (List.mem_cons_of_mem _ he'))
      have hid : c.1.mapping.streamID = e'.1 := by
        rw [← hce]
        exact (hb.valid hmem).2
      rw [hid]
      exact ne_of_gt (lt_of_mem_rest hs e' he')
    have hs' : s.streams.entries = (done ++ [e]) ++ rest := by simpa using hs
    exact List.forall_mem_cons.mpr ⟨hpe,
      ih (h.next (c := (readBack network now e, k)) hb hs rfl hpe) hs' (k + 1) htail⟩

end Partway

/-! ## The restart -/

theorem findable_savedStreams (hb : Books s) (hv : AllSavable s) :
    ∀ config ∈ s.savedStreams now, Findable config := by
  intro config hc
  obtain ⟨e, he, rfl⟩ := List.mem_map.mp hc
  have hf := s.streams.mem_entries_iff.mp he
  exact ⟨(hb.valid hf).1, (hv e.1 e.2 hf).fits, fun _ _ => List.not_mem_nil⟩

/-- The streams a readable file gives: those whose sessions are valid, in order. -/
theorem restart_eq (hb : Books s) (hv : AllSavable s) (hr : Readable (s.savedStreams now)) :
    s.restart network env now = .ok
      (((s.streams.entries.map (readBack network now)).filter PersistedStreamConfig.isValid).zipIdx.foldl
        (restoreStep env) s.emptied) := by
  have hread : fromJSON network (toJSON (s.savedStreams now)) =
      .ok (some (rereadAll network (s.savedStreams now))) :=
    StreamConfigManager.fromJSON_rereadAll (findable_savedStreams hb hv) hr
  rw [rereadAll, savedStreams, List.map_map] at hread
  rw [restart, saveAllStreams, savedStreams, hread]
  rfl

theorem filter_valid (hb : Books s) (h : ∀ e ∈ s.streams.entries, e.2.sdp.isValid = true) :
    (s.streams.entries.map (readBack network now)).filter PersistedStreamConfig.isValid =
      s.streams.entries.map (readBack network now) := by
  refine List.filter_eq_self.mpr fun c hc => ?_
  obtain ⟨e, he, rfl⟩ := List.mem_map.mp hc
  exact (isValid_reread hb (s.streams.mem_entries_iff.mp he)).trans (h e he)

/-- A stream that is back has a valid session: the reader drops the others. -/
theorem valid_of_back (hb : Books s) {e : StreamID × ManagedStream} (he : e ∈ s.streams.entries)
    (hback : (((s.streams.entries.map (readBack network now)).filter
      PersistedStreamConfig.isValid).zipIdx.foldl (restoreStep env) s.emptied).streams.find? e.1 ≠
        none) : e.2.sdp.isValid = true := by
  by_contra hinvalid
  refine hback (find?_restore_of_ne (fun c hc hid => hinvalid ?_) rfl)
  obtain ⟨hc, hvalid⟩ := List.mem_filter.mp (List.fst_mem_of_mem_zipIdx hc)
  obtain ⟨e', he', hce⟩ := List.mem_map.mp hc
  have hf := s.streams.mem_entries_iff.mp he
  have hf' := s.streams.mem_entries_iff.mp he'
  have hid' : c.1.mapping.streamID = e'.1 := by
    rw [← hce]
    exact (hb.valid hf').2
  rw [← hid'.symm.trans hid, hf'] at hf
  rw [← Option.some.inj hf, ← isValid_reread hb hf', ← hvalid, ← hce]
  rfl

/-- A stream as it comes back is the stream where its packets are unmarked, and only there. -/
theorem isBack_restored_iff (h : Savable managed.sdp managed.mapping managed.isTransmit) :
    IsBack managed (restored managed) ↔ Unmarked managed := by
  refine ⟨fun hback => ⟨fun ht => (hback.dscp ht).symm, fun ht => (hback.sourcePort ht).symm⟩,
    fun hu => ⟨rfl, rfl, fun ht time => ?_, fun ht => (hu.dscp ht).symm,
      fun ht => (hu.sourcePort ht).symm⟩⟩
  have hsdp : (restored managed).sdp = managed.sdp := by
    change managed.sdp.written = managed.sdp
    rw [h.written ht, ← hu.dscp ht]
  rw [hsdp]

/-- **The restart of a readable file preserves the streams exactly where each passes and is
unmarked.** -/
theorem preserves_iff_of_books (hb : Books s) (hv : AllSavable s)
    (hr : Readable (s.savedStreams now)) : s.Preserves network env now ↔ Restartable env s := by
  have start := partway_emptied s
  have hall : s.streams.entries = [] ++ s.streams.entries := rfl
  have hback : ∀ s', Partway s s' s.streams.entries → s'.streams = s.streams.mapValues restored :=
    fun s' h => streams_of_entries h.entries
  constructor
  · rintro ⟨s', hs', hkeys, hsame⟩
    rw [restart_eq hb hv hr] at hs'
    have hs'' := Except.ok.inj hs'
    have hfound : ∀ e ∈ s.streams.entries, s'.streams.find? e.1 ≠ none := by
      intro e he hnone
      have hmem : e.1 ∈ s'.streams.keys := hkeys ▸ List.mem_map_of_mem he
      obtain ⟨managed', hf⟩ := s'.streams.mem_keys_iff.mp hmem
      rw [hnone] at hf
      cases hf
    have hvalid : ∀ e ∈ s.streams.entries, e.2.sdp.isValid = true := fun e he =>
      valid_of_back hb he (hs''.symm ▸ hfound e he)
    rw [filter_valid hb hvalid] at hs''
    have hpasses := start.passes network now hb hall 0 (hs''.symm ▸ hfound)
    have hlast := start.all network now hb hall hpasses 0
    rw [hs''] at hlast
    intro e he
    have hf := s.streams.mem_entries_iff.mp he
    have hf' : s'.streams.find? e.1 = some (restored e.2) := by
      rw [hback s' hlast, OrdMap.find?_mapValues, hf]
      rfl
    exact ⟨hpasses e he, (isBack_restored_iff (hv e.1 e.2 hf)).mp (hsame _ _ _ hf hf')⟩
  · intro h
    have hpasses := fun e he => (h e he).1
    have hlast := start.all network now hb hall hpasses 0
    have heq := @restart_eq s env network now hb hv hr
    rw [filter_valid hb fun e he => (hpasses e he).valid] at heq
    refine ⟨_, heq, ?_, ?_⟩
    · rw [hback _ hlast]
      simp [OrdMap.keys, OrdMap.mapValues, OrdMap.mapWithKey]
    · intro id managed managed' hf hf'
      rw [hback _ hlast, OrdMap.find?_mapValues, hf] at hf'
      cases hf'
      exact (isBack_restored_iff (hv id managed hf)).mpr
        (h (id, managed) (s.streams.mem_entries_iff.mpr hf)).2

/-! ## Whole runs -/

/-- **In every state of every run**, a restart whose file is readable preserves the streams exactly
where each passes and is unmarked. -/
theorem restart_preserves_iff (ops : List Op) (fresh : Along step Fresh {} ops)
    (given : ∀ op ∈ ops, Given op) :
    Always step (fun s => ∀ network env now, Readable (s.savedStreams now) →
      (s.Preserves network env now ↔ Restartable env s)) {} ops :=
  ((always_books fresh).and (always_savable given)).imp
    fun _ h _ _ _ hr => preserves_iff_of_books h.1 h.2 hr

instance : Decidable (Passes env s id managed) :=
  decidable_of_iff (managed.sdp.isValid = true ∧
    (s.below id).canAddStream env.isLocked managed.sdp false = .ok ()) ⟨fun h => ⟨h.1, h.2⟩,
      fun h => ⟨h.1, h.2⟩⟩

instance : Decidable (Unmarked managed) :=
  decidable_of_iff ((managed.isTransmit = true → managed.sdp.dscp = -1) ∧
    (managed.isTransmit = true → managed.sourcePort = 0)) ⟨fun h => ⟨h.1, h.2⟩,
      fun h => ⟨h.1, h.2⟩⟩

instance : Decidable (Restartable env s) :=
  inferInstanceAs (Decidable (∀ e ∈ s.streams.entries, Passes env s e.1 e.2 ∧ Unmarked e.2))

/-- A host without interfaces. -/
def noInterfaces : NetworkUtils where
  getInterfaceIP _ := []
  getPrimaryEthernetInterface := []

/-- A stream to receive, and one to send. -/
def oneOfEach : List Op :=
  [.addStream (quiet 1 StreamID.one_lt) (stereo "a" "239.1.1.1"),
    .createTxStream (quiet 2 StreamID.two_lt) "b".toList "239.1.1.2".toList 5004 2
      { deviceChannelStart := 2 } 0 (-1)]

/-- Both are back after a restart. -/
theorem oneOfEach_preserved :
    (oneOfEach.foldl step {}).Preserves noInterfaces (quiet 3 (by decide)) fun _ => 0 := by
  have hnew : ((step {} (.addStream (quiet 1 (by decide)) (stereo "a" "239.1.1.1"))).streams.find?
      ⟨2, by decide⟩) = none := by
    decide +kernel
  have hrun := (restart_preserves_iff oneOfEach ⟨trivial, hnew, trivial⟩
    (by simp [oneOfEach, Given])).run
  exact (hrun noInterfaces (quiet 3 (by decide)) (fun _ => 0) (by decide +kernel)).mpr
    (by decide +kernel)

/-- A stream to send, marked for expedited forwarding, from a port of its own. -/
def markedSender : List Op :=
  [.createTxStream (quiet 1 StreamID.one_lt) "a".toList "239.1.1.1".toList 5004 2 {} 5005 46]

/-- **A marked stream is not back as it was**, though it passes every check. -/
theorem markedSender_not_preserved :
    (∀ e ∈ (markedSender.foldl step {}).streams.entries, e.2.sdp.isValid = true ∧
      ((markedSender.foldl step {}).below e.1).canAddStream (fun _ => true) e.2.sdp e.2.isTransmit =
        .ok ()) ∧
    ¬ (markedSender.foldl step {}).Preserves noInterfaces (quiet 2 (by decide)) fun _ => 0 := by
  have hfresh : Along step Fresh {} markedSender := ⟨rfl, trivial⟩
  have hgiven : ∀ op ∈ markedSender, Given op := by simp [markedSender, Given]
  have hbooks := (always_books hfresh).run
  have hsavable := (always_savable hgiven).run
  refine ⟨by decide +kernel, fun h => ?_⟩
  have hr := (preserves_iff_of_books hbooks hsavable (by decide +kernel)).mp h
  exact absurd hr (by decide +kernel)

end Aes67.StreamManager
