import Aes67.Lib.Window
import Aes67.Ptp.Overflow

/-!
# What the filters say of the samples

The slave keeps its latest eight offsets and its latest eight path delays in two rings, and counts the
measurements that were good. Beside it, the samples since it was started are kept in full.

* `Slave.start`; `Slave.samples`: what an event measures;
* `Measured`, `Measured.step`: the slave with every sample since it was started;
* `tally`: the count of good measurements, as a fold over what was published;
* `Measured.Filtering`: what the filters are to say of the samples;
* **`filtering_iff`**: they say it in every state of a run, just when the latest offsets always add up
  within 64 bits.
-/

namespace Aes67.Ptp

/-! ## The samples of an event -/

namespace Slave

/-- The state `PTPSlave::start` resets. The rings keep their cells, and the path delay its value. -/
def start (s : Slave) : Slave :=
  { s with
    hasMaster := false
    locked := false
    waitingForFollowUp := false
    waitingForDelayResp := false
    consecutiveGoodMeasurements := 0
    offsetHistory := { s.offsetHistory with index := 0, count := 0 }
    delayHistory := { s.delayHistory with index := 0, count := 0 }
    syncCount := 0 }

variable (better : MasterDataset → MasterDataset → Bool) (cfg : SlaveConfig) (s : Slave)

/-- The offset `calculateOffsetAndDelay` computes, where it computes one. -/
def offsetSample : List ℤ :=
  match s.readSync with
  | none => []
  | some (t1, t2) =>
    match s.readDelay with
    | some (t3, t4) => [(fullSample t1 t2 t3 t4).1]
    | none => [i64 (i64 (t2 - t1) - s.pathDelayNs)]

/-- The path delay `calculateOffsetAndDelay` computes. -/
def delaySample : List ℤ :=
  match s.readSync, s.readDelay with
  | some (t1, t2), some (t3, t4) => [(fullSample t1 t2 t3 t4).2]
  | _, _ => []

/-- The path delay `completePdelay` computes. -/
def linkSample (t3MinusT2Ns : ℤ) : List ℤ :=
  match s.readPdelay with
  | none => []
  | some (t1, t4, correctionNs) => [linkDelay t1 t4 correctionNs t3MinusT2Ns]

/-- What an event measures, and whether the master is lost or left for a better one. -/
structure Samples where
  offsets : List ℤ := []
  delays : List ℤ := []
  losesMaster : Bool := false

def samplesOf : Message → Samples
  | .pdelayResp header data receiveTimeNs => {
      delays := if header.isTwoStep then []
        else (s.recordPdelayResp header data receiveTimeNs).linkSample 0 }
  | .pdelayFollowUp header data => {
      delays := (s.recordPdelayFollowUp header).linkSample (s.turnaround data) }
  | .announce header data now => {
      losesMaster := data.length ≥ 64 && s.hasMaster &&
        better (parseAnnounce header data now).dataset s.currentMaster.dataset }
  | message =>
    match s.computing message with
    | some s' => { offsets := s'.offsetSample, delays := s'.delaySample }
    | none => {}

def samples : Event → Samples
  | .checkAnnounceTimeout now => {
      losesMaster := s.hasMaster &&
        ((now - s.currentMaster.lastReceived) / 1000000 : ℕ) > s.announceTimeoutMs cfg }
  | e =>
    match s.messageOf cfg e with
    | some message => s.samplesOf better message
    | none => {}

end Slave

/-! ## The slave with its samples -/

/-- The slave, with every offset and every accepted path delay since it was started, and every offset
published since the master was last lost or left for another. -/
structure Measured where
  slave : Slave := {}
  offsets : List ℤ := []
  delays : List ℤ := []
  published : List ℤ := []

/-- What happens to a slave: an event while it runs, or it is stopped and started. -/
inductive Life
  | event (e : Event)
  | restart

/-- The count of good measurements after one more was published. -/
def tally (good published : ℤ) : ℤ :=
  if |published| < kLockToleranceNs then if good < kLockThreshold * 2 then good + 1 else good
  else max 0 (good - 1)

/-- The truncated mean. -/
def mean (l : List ℤ) : ℤ := l.sum.tdiv l.length

namespace Measured

variable (better : MasterDataset → MasterDataset → Bool) (cfg : SlaveConfig)

def step (m : Measured) : Life → Measured
  | .event e =>
    let slave := m.slave.step better cfg e
    let samples := m.slave.samples better cfg e
    { slave
      offsets := m.offsets ++ samples.offsets
      delays := m.delays ++ samples.delays.filter (0 ≤ ·)
      published := if samples.losesMaster then []
        else m.published ++ samples.offsets.map fun _ => slave.offsetNs }
  | .restart => { slave := m.slave.start }

/-- **What the filters are to say**: the least of the latest path delays, the mean of the latest
offsets, a count in its range, and a lock while the count is at its threshold. -/
structure Filtering (m : Measured) : Prop where
  pathDelay : m.delays ≠ [] → (m.delays.rtake kFilterSize).min? = some m.slave.pathDelayNs
  offset : m.offsets ≠ [] → m.slave.offsetNs = mean (m.offsets.rtake kFilterSize)
  good : m.slave.consecutiveGoodMeasurements = m.published.foldl tally 0
  range : 0 ≤ m.slave.consecutiveGoodMeasurements ∧
    m.slave.consecutiveGoodMeasurements ≤ 2 * kLockThreshold
  locked : m.slave.locked = true ↔ kLockThreshold ≤ m.slave.consecutiveGoodMeasurements

/-- The latest offsets, the one the event measures among them, add up within 64 bits. -/
def AddsUp (m : Measured) : Life → Prop
  | .event e => (m.slave.samples better cfg e).offsets ≠ [] →
    Fits ((m.offsets ++ (m.slave.samples better cfg e).offsets).rtake kFilterSize).sum
  | .restart => True

end Measured

/-! ## The rings -/

/-- The ring after these samples. -/
structure History.Of (h : History) (l : List ℤ) : Prop where
  window : Window kFilterSize h.cells l
  index_eq : h.index = l.length % kFilterSize
  count_eq : h.count = min kFilterSize l.length

section Rings

variable {h : History} {l : List ℤ} {x : ℤ}

theorem History.Of.push (hl : h.Of l) (x : ℤ) : (h.push x).Of (l ++ [x]) := by
  have hlen : (l ++ [x]).length = l.length + 1 := by
    rw [List.length_append, List.length_singleton]
  refine ⟨?_, ?_, ?_⟩
  · have := hl.window.push (by decide) x
    rwa [← hl.index_eq] at this
  · rw [hlen, History.push, hl.index_eq, Nat.mod_add_mod]
  · rw [hlen, History.push, hl.count_eq]
    dsimp only
    split_ifs <;> omega

theorem History.Of.perm (hl : h.Of l) : h.recent.Perm (l.rtake kFilterSize) := by
  rw [History.recent, hl.count_eq]
  exact hl.window.perm

theorem History.Of.count_eq_length (hl : h.Of l) : h.count = (l.rtake kFilterSize).length := by
  rw [hl.count_eq, List.rtake, List.length_drop]
  omega

/-- A ring emptied is the ring after no samples. -/
theorem History.Of.clear (hl : h.Of l) : ({ h with index := 0, count := 0 } : History).Of [] :=
  ⟨.nil hl.window.length_eq, rfl, rfl⟩

theorem mem_rtake_concat : x ∈ (l ++ [x]).rtake kFilterSize := by
  have hlen : (l ++ [x]).length = l.length + 1 := by
    rw [List.length_append, List.length_singleton]
  rw [List.rtake, hlen, List.drop_append_of_le_length (by unfold kFilterSize; omega)]
  exact List.mem_append_right _ (List.mem_singleton_self x)

end Rings

/-- The word the latest offsets add up to has their mean just when it is their sum. -/
theorem i64_tdiv_iff {x c : ℤ} (hc : 0 < c) (hc' : c ≤ kFilterSize) :
    (i64 x).tdiv c = x.tdiv c ↔ Fits x := by
  refine ⟨fun h => ?_, fun h => by rw [i64_of_fits h]⟩
  have hdvd : (2 ^ 64 : ℤ) ∣ i64 x - x := Int.dvd_bmod_sub_self
  have hfits := fits_i64 x
  have h1 := Int.mul_tdiv_add_tmod (i64 x) c
  have h2 := Int.mul_tdiv_add_tmod x c
  have h3 := Int.tmod_lt_of_pos (i64 x) hc
  have h4 := Int.tmod_lt_of_pos x hc
  have h5 := Int.lt_tmod_of_pos (i64 x) hc
  have h6 := Int.lt_tmod_of_pos x hc
  rw [h] at h1
  unfold kFilterSize at hc'
  obtain ⟨k, hk⟩ := hdvd
  have hk0 : k = 0 := by
    generalize c * x.tdiv c = q at h1 h2
    omega
  rw [hk0, mul_zero, sub_eq_zero] at hk
  rwa [hk] at hfits

/-! ## The count -/

theorem tally_range {good published : ℤ} (h : 0 ≤ good ∧ good ≤ 2 * kLockThreshold) :
    0 ≤ tally good published ∧ tally good published ≤ 2 * kLockThreshold := by
  unfold tally
  split_ifs <;> omega

theorem foldl_tally_range (l : List ℤ) {good : ℤ} (h : 0 ≤ good ∧ good ≤ 2 * kLockThreshold) :
    0 ≤ l.foldl tally good ∧ l.foldl tally good ≤ 2 * kLockThreshold := by
  induction l generalizing good with
  | nil => exact h
  | cons x l ih => exact ih (tally_range h)

/-! ## One measurement -/

namespace Slave

/-- What the filters hold and publish. -/
structure SameFilters (s s' : Slave) : Prop where
  offsetHistory : s'.offsetHistory = s.offsetHistory
  delayHistory : s'.delayHistory = s.delayHistory
  good : s'.consecutiveGoodMeasurements = s.consecutiveGoodMeasurements
  offsetNs : s'.offsetNs = s.offsetNs
  pathDelayNs : s'.pathDelayNs = s.pathDelayNs
  locked : s'.locked = s.locked

/-- The filters by the samples they have had. -/
structure Tracks (s : Slave) (offsets delays published : List ℤ) : Prop where
  offsetRing : s.offsetHistory.Of offsets
  delayRing : s.delayHistory.Of delays
  pathDelay : delays ≠ [] → (delays.rtake kFilterSize).min? = some s.pathDelayNs
  good : s.consecutiveGoodMeasurements = published.foldl tally 0
  locked : s.locked = decide (kLockThreshold ≤ s.consecutiveGoodMeasurements)

variable {s s' : Slave} {offsets delays published : List ℤ} {x : ℤ}

theorem Tracks.congr (h : s.Tracks offsets delays published) (hs : s.SameFilters s') :
    s'.Tracks offsets delays published := by
  obtain ⟨ho, hd, hg, -, hp, hl⟩ := hs
  exact ⟨ho ▸ h.offsetRing, hd ▸ h.delayRing, hp ▸ h.pathDelay, hg ▸ h.good,
    by rw [hl, hg]; exact h.locked⟩

theorem Tracks.storeFilteredPathDelay (h : s.Tracks offsets delays published) (x : ℤ) :
    (s.storeFilteredPathDelay x).Tracks offsets (delays ++ [x].filter (0 ≤ ·)) published ∧
      (s.storeFilteredPathDelay x).offsetNs = s.offsetNs := by
  unfold Slave.storeFilteredPathDelay
  split_ifs with hneg
  · have hnone : [x].filter (0 ≤ ·) = [] := by simpa using hneg
    rw [hnone, List.append_nil]
    exact ⟨h, rfl⟩
  · have hone : [x].filter (0 ≤ ·) = [x] := by simpa using hneg
    have hpush := h.delayRing.push x
    have hmem : x ∈ (s.delayHistory.push x).recent := hpush.perm.mem_iff.mpr mem_rtake_concat
    rw [hone]
    refine ⟨⟨h.offsetRing, hpush, fun _ => ?_, h.good, h.locked⟩, rfl⟩
    obtain ⟨hleast, hle⟩ := List.min?_eq_some_iff.mp (foldl_min_eq_min? hmem)
    exact List.min?_eq_some_iff.mpr
      ⟨hpush.perm.mem_iff.mp hleast, fun b hb => hle b (hpush.perm.mem_iff.mpr hb)⟩

/-- **One offset published**: the count follows it, and it is the mean where the sum has room. -/
theorem Tracks.publishOffset (h : s.Tracks offsets delays published) (x : ℤ) :
    (s.publishOffset x).Tracks (offsets ++ [x]) delays
        (published ++ [(s.publishOffset x).offsetNs]) ∧
      ((s.publishOffset x).offsetNs = mean ((offsets ++ [x]).rtake kFilterSize) ↔
        Fits ((offsets ++ [x]).rtake kFilterSize).sum) := by
  have hpush := h.offsetRing.push x
  have hgood : (s.publishOffset x).consecutiveGoodMeasurements =
      tally s.consecutiveGoodMeasurements (s.publishOffset x).offsetNs := by
    unfold Slave.publishOffset tally
    dsimp only
    rw [Int.natCast_natAbs]
  refine ⟨⟨hpush, h.delayRing, h.pathDelay, ?_, ?_⟩, ?_⟩
  · rw [hgood, h.good, List.foldl_concat]
  · simp only [Slave.publishOffset, ge_iff_le]
  · have hcount : ((s.offsetHistory.push x).count : ℤ) =
        ((offsets ++ [x]).rtake kFilterSize).length := by rw [hpush.count_eq_length]
    have hpos := @History.count_push_pos s.offsetHistory x
    have hle : (s.offsetHistory.push x).count ≤ kFilterSize := by
      rw [hpush.count_eq]
      exact min_le_left _ _
    rw [mean, ← hcount, ← hpush.perm.sum_eq]
    exact i64_tdiv_iff (by exact_mod_cast hpos) (by exact_mod_cast hle)

/-- **One computation**: it has the samples it is said to have. -/
theorem Tracks.calculate (h : s.Tracks offsets delays published) :
    s.calculateOffsetAndDelay.Tracks (offsets ++ s.offsetSample)
        (delays ++ s.delaySample.filter (0 ≤ ·))
        (published ++ s.offsetSample.map fun _ => s.calculateOffsetAndDelay.offsetNs) ∧
      (s.offsetSample = [] → s.calculateOffsetAndDelay.offsetNs = s.offsetNs) ∧
      (s.offsetSample ≠ [] → (s.calculateOffsetAndDelay.offsetNs =
          mean ((offsets ++ s.offsetSample).rtake kFilterSize) ↔
        Fits ((offsets ++ s.offsetSample).rtake kFilterSize).sum)) := by
  unfold Slave.calculateOffsetAndDelay offsetSample delaySample
  cases hsync : s.readSync with
  | none => simpa using h
  | some times =>
    obtain ⟨t1, t2⟩ := times
    dsimp only
    cases hdelay : s.readDelay with
    | none =>
      obtain ⟨htracks, hmean⟩ := h.publishOffset (i64 (i64 (t2 - t1) - s.pathDelayNs))
      simp only [List.filter_nil, List.append_nil, List.map_cons, List.map_nil]
      exact ⟨htracks, nofun, fun _ => hmean⟩
    | some requestTimes =>
      obtain ⟨t3, t4⟩ := requestTimes
      obtain ⟨hstored, -⟩ := h.storeFilteredPathDelay (fullSample t1 t2 t3 t4).2
      obtain ⟨htracks, hmean⟩ := hstored.publishOffset (fullSample t1 t2 t3 t4).1
      exact ⟨htracks, nofun, fun _ => hmean⟩

theorem Tracks.completePdelay (h : s.Tracks offsets delays published) (t3MinusT2Ns : ℤ) :
    (s.completePdelay t3MinusT2Ns).Tracks offsets
        (delays ++ (s.linkSample t3MinusT2Ns).filter (0 ≤ ·)) published ∧
      (s.completePdelay t3MinusT2Ns).offsetNs = s.offsetNs := by
  unfold Slave.completePdelay linkSample
  cases s.readPdelay with
  | none => simpa using h
  | some times => exact h.storeFilteredPathDelay _

/-- What an event leaves of the filters. -/
structure Follows (s s' : Slave) (samples : Samples) (offsets delays published : List ℤ) : Prop where
  tracks : s'.Tracks (offsets ++ samples.offsets) (delays ++ samples.delays.filter (0 ≤ ·))
    (if samples.losesMaster then []
      else published ++ samples.offsets.map fun _ => s'.offsetNs)
  kept : samples.offsets = [] → s'.offsetNs = s.offsetNs
  mean : samples.offsets ≠ [] → (s'.offsetNs = mean ((offsets ++ samples.offsets).rtake kFilterSize) ↔
    Fits ((offsets ++ samples.offsets).rtake kFilterSize).sum)

variable {better : MasterDataset → MasterDataset → Bool} {cfg : SlaveConfig}

/-- Nothing is measured. -/
theorem Tracks.idle (h : s.Tracks offsets delays published) (hs : s.SameFilters s') :
    s.Follows s' {} offsets delays published := by
  refine ⟨?_, fun _ => hs.offsetNs, fun h => absurd rfl h⟩
  simpa using h.congr hs

/-- A path delay is measured. -/
theorem Follows.of_delay {samples : List ℤ}
    (hs : s'.Tracks offsets (delays ++ samples.filter (0 ≤ ·)) published)
    (hn : s'.offsetNs = s.offsetNs) :
    s.Follows s' { delays := samples } offsets delays published := by
  refine ⟨?_, fun _ => hn, fun h => absurd rfl h⟩
  simpa using hs

/-- The master is lost: the count and the lock go with it. -/
theorem Tracks.lose (h : s.Tracks offsets delays published)
    (hs : ({ s with locked := false, consecutiveGoodMeasurements := 0 } : Slave).SameFilters s') :
    s.Follows s' { losesMaster := true } offsets delays published := by
  refine ⟨?_, fun _ => hs.offsetNs, fun h => absurd rfl h⟩
  have hlost : ({ s with locked := false, consecutiveGoodMeasurements := 0 } : Slave).Tracks
      offsets delays [] :=
    ⟨h.offsetRing, h.delayRing, h.pathDelay, rfl,
      (decide_eq_false (p := kLockThreshold ≤ 0) (by decide)).symm⟩
  simpa using hlost.congr hs

theorem computing_sameFilters {message : Message} (h : s.computing message = some s') :
    s.SameFilters s' := by
  obtain ⟨ho, hd, hp, hg, hl⟩ := computing_filters h
  refine ⟨ho, hd, hg, ?_, hp, hl⟩
  cases message with
  | sync header data receiveTimeNs =>
    rw [computing] at h
    split_ifs at h with htwo
    cases h
    rw [recordSync, if_neg htwo]
  | followUp header data | delayResp header data =>
    cases h
    rfl
  | _ => cases h

theorem Tracks.computes (h : s.Tracks offsets delays published) {message : Message}
    (hc : s.computing message = some s') :
    s.Follows s'.calculateOffsetAndDelay { offsets := s'.offsetSample, delays := s'.delaySample }
      offsets delays published := by
  have hsame := computing_sameFilters hc
  obtain ⟨htracks, hkept, hmean⟩ := (h.congr hsame).calculate
  exact ⟨by simpa using htracks, fun hnone => (hkept hnone).trans hsame.offsetNs, hmean⟩

theorem samplesOf_of_computing {message : Message} (h : s.computing message = some s') :
    s.samplesOf better message = { offsets := s'.offsetSample, delays := s'.delaySample } := by
  cases message with
  | sync header data receiveTimeNs =>
    show (match s.computing _ with
      | some s' => ({ offsets := s'.offsetSample, delays := s'.delaySample } : Samples)
      | none => {}) = _
    rw [h]
  | followUp header data | delayResp header data =>
    cases h
    rfl
  | _ => cases h

/-- A Sync that is not computed with measures nothing. -/
theorem samplesOf_sync_of_none {header : Header} {data : Datagram} {receiveTimeNs : ℕ}
    (h : s.computing (.sync header data receiveTimeNs) = none) :
    s.samplesOf better (.sync header data receiveTimeNs) = {} := by
  unfold samplesOf
  dsimp only
  rw [h]

theorem Tracks.announce (h : s.Tracks offsets delays published) (header : Header) (data : Datagram)
    (now : ℕ) :
    s.Follows (s.handleAnnounce better cfg header data now)
      (s.samplesOf better (.announce header data now)) offsets delays published := by
  have hfollow : ∀ logInterval, s.SameFilters (s.followInterval cfg logInterval) ∧
      (s.followInterval cfg logInterval).hasMaster = s.hasMaster ∧
      (s.followInterval cfg logInterval).currentMaster = s.currentMaster := fun logInterval => by
    unfold followInterval
    dsimp only
    split_ifs <;> exact ⟨⟨rfl, rfl, rfl, rfl, rfl, rfl⟩, rfl, rfl⟩
  obtain ⟨⟨ho, hd, hg, hn, hp, hl⟩, hmaster, hcurrent⟩ := hfollow header.logMessageInterval
  have hsamples : s.samplesOf better (.announce header data now) = {
      losesMaster := data.length ≥ 64 && s.hasMaster &&
        better (parseAnnounce header data now).dataset s.currentMaster.dataset } := rfl
  rw [hsamples]
  unfold handleAnnounce considerMaster
  rw [hmaster, hcurrent]
  split_ifs with h64 hnone hbetter hrefresh
  · rw [decide_eq_false (not_le.mpr h64)]
    exact h.idle ⟨rfl, rfl, rfl, rfl, rfl, rfl⟩
  · rw [Bool.not_eq_true' _ |>.mp hnone, Bool.and_false]
    exact h.idle ⟨ho, hd, hg, hn, hp, hl⟩
  · have hsome : s.hasMaster = true := by
      cases hm : s.hasMaster with
      | false => exact absurd (by rw [hm]; rfl) hnone
      | true => rfl
    rw [hbetter, hsome, decide_eq_true (not_lt.mp h64)]
    exact h.lose ⟨ho, hd, rfl, hn, hp, rfl⟩
  · rw [Bool.eq_false_iff.mpr hbetter, Bool.and_false]
    exact h.idle ⟨ho, hd, hg, hn, hp, hl⟩
  · rw [Bool.eq_false_iff.mpr hbetter, Bool.and_false]
    exact h.idle ⟨ho, hd, hg, hn, hp, hl⟩

theorem Tracks.message (h : s.Tracks offsets delays published) (message : Message) :
    s.Follows (s.handle cfg better message) (s.samplesOf better message) offsets delays published := by
  cases message with
  | sync header data receiveTimeNs =>
    by_cases htwo : header.isTwoStep
    · have hhandle : s.handle cfg better (.sync header data receiveTimeNs) =
          s.recordSync header data receiveTimeNs := if_pos htwo
      have hnone : s.computing (.sync header data receiveTimeNs) = none := if_pos htwo
      rw [hhandle, samplesOf_sync_of_none hnone, recordSync, if_pos htwo]
      exact h.idle ⟨rfl, rfl, rfl, rfl, rfl, rfl⟩
    · have hsome : s.computing (.sync header data receiveTimeNs) =
          some (s.recordSync header data receiveTimeNs) := if_neg htwo
      rw [handle_of_computing hsome, samplesOf_of_computing hsome]
      exact h.computes hsome
  | followUp header data =>
    have hsome : s.computing (.followUp header data) = some (s.recordFollowUp header data) := rfl
    rw [handle_of_computing hsome, samplesOf_of_computing hsome]
    exact h.computes hsome
  | delayResp header data =>
    have hsome : s.computing (.delayResp header data) = some (s.recordDelayResp header data) := rfl
    rw [handle_of_computing hsome, samplesOf_of_computing hsome]
    exact h.computes hsome
  | pdelayResp header data receiveTimeNs =>
    have hsame : s.SameFilters (s.recordPdelayResp header data receiveTimeNs) :=
      ⟨rfl, rfl, rfl, rfl, rfl, rfl⟩
    unfold handle samplesOf
    dsimp only
    split_ifs
    · exact h.idle hsame
    · obtain ⟨hdone, hn⟩ := (h.congr hsame).completePdelay 0
      exact .of_delay hdone hn
  | pdelayFollowUp header data =>
    have hsame : s.SameFilters (s.recordPdelayFollowUp header) := ⟨rfl, rfl, rfl, rfl, rfl, rfl⟩
    obtain ⟨hdone, hn⟩ := (h.congr hsame).completePdelay (s.turnaround data)
    exact .of_delay hdone hn
  | announce header data now => exact h.announce header data now

/-- **One event** leaves the filters with the samples it measured. -/
theorem Tracks.step (h : s.Tracks offsets delays published) (e : Event) :
    s.Follows (s.step better cfg e) (s.samples better cfg e) offsets delays published := by
  cases e with
  | datagram data receiveTimeNs onEventSocket now =>
    rw [step_datagram]
    unfold samples
    dsimp only
    cases s.messageOf cfg (.datagram data receiveTimeNs onEventSocket now) with
    | none => exact h.idle ⟨rfl, rfl, rfl, rfl, rfl, rfl⟩
    | some message => exact h.message message
  | request sendTimeNs sent =>
    have hsame : s.SameFilters (s.request cfg sendTimeNs sent) := by
      unfold request sendPdelayReq sendDelayReq
      dsimp only
      cases cfg.delayMechanism <;> dsimp only <;> split_ifs <;> exact ⟨rfl, rfl, rfl, rfl, rfl, rfl⟩
    exact h.idle hsame
  | checkAnnounceTimeout now =>
    unfold Slave.step checkAnnounceTimeout samples
    dsimp only
    split_ifs with hlost
    · rw [hlost]
      exact h.lose ⟨rfl, rfl, rfl, rfl, rfl, rfl⟩
    · rw [Bool.eq_false_iff.mpr hlost]
      exact h.idle ⟨rfl, rfl, rfl, rfl, rfl, rfl⟩

end Slave

/-! ## Every state of a run -/

namespace Measured

variable {better : MasterDataset → MasterDataset → Bool} {cfg : SlaveConfig} {m : Measured}

/-- The filters have the samples that are kept beside them. -/
def Tracks (m : Measured) : Prop := m.slave.Tracks m.offsets m.delays m.published

theorem tracks_init : ({} : Measured).Tracks where
  offsetRing := ⟨.nil rfl, rfl, rfl⟩
  delayRing := ⟨.nil rfl, rfl, rfl⟩
  pathDelay := fun h => absurd rfl h
  good := rfl
  locked := (decide_eq_false (p := kLockThreshold ≤ 0) (by decide)).symm

theorem Tracks.step (h : m.Tracks) (i : Life) : (m.step better cfg i).Tracks := by
  cases i with
  | event e => exact (Slave.Tracks.step h e).tracks
  | restart =>
    exact ⟨h.offsetRing.clear, h.delayRing.clear, fun h => absurd rfl h, rfl,
      (decide_eq_false (p := kLockThreshold ≤ 0) (by decide)).symm⟩

/-- The published offset is the mean of the latest. -/
def Mean (m : Measured) : Prop :=
  m.offsets ≠ [] → m.slave.offsetNs = mean (m.offsets.rtake kFilterSize)

/-- **One event keeps the mean** just when the latest offsets add up. -/
theorem mean_step_iff (h : m.Tracks) (hm : m.Mean) (i : Life) :
    (m.step better cfg i).Mean ↔ m.AddsUp better cfg i := by
  cases i with
  | restart => exact iff_of_true (fun h => absurd rfl h) trivial
  | event e =>
    have hfollows : m.slave.Follows (m.slave.step better cfg e) (m.slave.samples better cfg e)
        m.offsets m.delays m.published := Slave.Tracks.step h e
    obtain ⟨-, hkept, hmean⟩ := hfollows
    unfold Mean AddsUp step
    dsimp only
    rcases eq_or_ne (m.slave.samples better cfg e).offsets [] with hnone | hsome
    · rw [hnone, List.append_nil, hkept hnone]
      exact iff_of_true hm fun h => absurd rfl h
    · rw [← hmean hsome]
      have hne : m.offsets ++ (m.slave.samples better cfg e).offsets ≠ [] := fun hnil =>
        hsome (List.append_eq_nil_iff.mp hnil).2
      exact ⟨fun h _ => h hne, fun h _ => h hsome⟩

theorem Filtering.of_tracks (h : m.Tracks) (hm : m.Mean) : m.Filtering where
  pathDelay := h.pathDelay
  offset := hm
  good := h.good
  range := by
    rw [h.good]
    exact foldl_tally_range _ (by decide)
  locked := by rw [h.locked, decide_eq_true_iff]

/-- **The filters say what they are to**, in every state of a run, just when at each offset measured
the latest add up within 64 bits. -/
theorem filtering_iff (better : MasterDataset → MasterDataset → Bool) (cfg : SlaveConfig)
    (events : List Life) :
    Always (step better cfg) Filtering {} events ↔ Along (step better cfg) (AddsUp better cfg) {} events := by
  have htracks : Always (step better cfg) Tracks {} events :=
    always_of_step (fun _ i h => h.step i) tracks_init
  have hboth : Always (step better cfg) (fun m => m.Tracks ∧ m.Mean) {} events ↔
      Along (step better cfg) (AddsUp better cfg) {} events :=
    always_iff_along (fun m i h => ⟨fun h' => (mean_step_iff h.1 h.2 i).mp h'.2,
      fun h' => ⟨h.1.step i, (mean_step_iff h.1 h.2 i).mpr h'⟩⟩)
      ⟨tracks_init, fun h => absurd rfl h⟩
  rw [← hboth]
  constructor
  · intro h
    exact (htracks.and h).imp fun m hm => ⟨hm.1, hm.2.offset⟩
  · intro h
    exact h.imp fun m hm => .of_tracks hm.1 hm.2

/-- Syncs and Follow_Ups from a master that counts from when it was switched on. -/
def syncs (l : List UInt8) : List Life :=
  (l.flatMap (Servo.syncAt 1770000000000000000)).map fun i => .event i.1

/-- **Six offsets of fifty-six years** have no mean: their sum is over. -/
theorem syncs_not_filtering :
    ¬ Always (step (fun _ _ => false) {}) Filtering {} (syncs [1, 2, 3, 4, 5, 6]) := by
  have hlast : ((syncs [1, 2, 3, 4, 5, 6]).foldl (step (fun _ _ => false) {}) {}).offsets ≠ [] ∧
      ((syncs [1, 2, 3, 4, 5, 6]).foldl (step (fun _ _ => false) {}) {}).slave.offsetNs ≠
        mean (((syncs [1, 2, 3, 4, 5, 6]).foldl (step (fun _ _ => false) {}) {}).offsets.rtake
          kFilterSize) := by decide
  exact fun h => hlast.2 (h.run.offset hlast.1)

end Measured

end Aes67.Ptp
