import Aes67.Ptp.Interface

/-!
# The time the clock shows

`PTPClock::getTime` adds the published offset to the local time. The slave that measures it, in this
process or in the daemon, measures local time less the master's, so the clock shows the master's time
with the difference taken twice.

* `PTPDInterface.getTime`;
* `Reading`: the times one measurement reads; `Slave.readings`: the measurements of an event, with
  `samples_offsets`; `Reading.Exact`: of a constant difference over a symmetric path;
* `Exactly`: the latest of them, as many as the filter holds, are exact; `Shows`: then an offset is the
  difference;
* `Clock`: the interface, the daemon's slave, and what has been read; `Clock.step`, `Clock.Reads`;
* **`getTime_eq_iff`**: after any run, under a published lock whose measurement followed exact ones, the
  clock shows the master's time just when there is no difference.
-/

namespace Aes67.Ptp

/-- `PTPClock::getTime`, at local time `localTime`. -/
def PTPDInterface.getTime (p : PTPDInterface) (localTime : ℕ) : ℕ :=
  if p.isLocked then u64 (localTime + p.masterOffsetNs) else localTime

/-! ## What a measurement reads -/

/-- The times `calculateOffsetAndDelay` reads: those of the Sync, those of the request where it has
them, and the path delay in store. -/
structure Reading where
  t1 : ℤ
  t2 : ℤ
  request : Option (ℤ × ℤ)
  storedDelay : ℤ
  deriving DecidableEq

namespace Reading

/-- The offset `calculateOffsetAndDelay` derives. -/
def offset (x : Reading) : ℤ :=
  match x.request with
  | some (t3, t4) => (Slave.fullSample x.t1 x.t2 t3 t4).1
  | none => i64 (i64 (x.t2 - x.t1) - x.storedDelay)

/-- The local clock is `θ` ahead of the master's, and the path takes `d` either way: of the request
where its times are read, and by the path delay in store where they are not. -/
structure Exact (θ d : ℤ) (x : Reading) : Prop where
  sync : x.t2 - x.t1 = d + θ
  request : ∀ t3 t4, x.request = some (t3, t4) → t4 - t3 = d - θ
  stored : x.request = none → x.storedDelay = d

end Reading

namespace Slave

variable (cfg : SlaveConfig) (s : Slave)

/-- What `calculateOffsetAndDelay` reads, where it goes on. -/
def reading : List Reading :=
  match s.readSync with
  | none => []
  | some (t1, t2) => [⟨t1, t2, s.readDelay, s.pathDelayNs⟩]

/-- What the measurements of an event read. -/
def readings (e : Event) : List Reading :=
  match s.messageOf cfg e with
  | none => []
  | some message =>
    match s.computing message with
    | none => []
    | some s' => s'.reading

end Slave

/-! ## The latest readings -/

/-- The latest readings, as many as the filter holds, are exact. -/
structure Exactly (θ d : ℤ) (l : List Reading) : Prop where
  full : kFilterSize ≤ l.length
  exact : ∀ x ∈ l.rtake kFilterSize, x.Exact θ d

/-- Behind exact readings of a difference small enough to lock, the offset is the difference. -/
def Shows (l : List Reading) (offsetNs : ℤ) : Prop :=
  ∀ θ d, |θ| < kLockToleranceNs → Exactly θ d l → offsetNs = θ

/-! ## The clock -/

/-- The reader of the daemon's statuses, where the engine is one. -/
def Engine.reader? : Engine → Option ServiceReader
  | slave _ | arbitrator .. => none
  | service reader .. => some reader

/-- The three paths of `PTPDInterface::init`. -/
inductive Path
  | slave | arbitrator | service

/-- The engine as it is built. -/
def Path.engine : Path → Engine
  | slave => .slave {}
  | arbitrator => .arbitrator {} false
  | service => .service {} 0 false

/-- The slave of this process, where it runs. -/
def PTPDInterface.runningSlave (p : PTPDInterface) : Option Slave :=
  if !p.live then none
  else
    match p.engine with
    | .slave s => some s
    | .arbitrator s true => some s
    | _ => none

/-- A turn of the service loop handles the status that is held. -/
def PTPDInterface.handles (p : PTPDInterface) (now : ℕ) : Bool :=
  p.live &&
    match p.engine with
    | .service reader lastServiceSequence _ =>
      reader.hasFreshStatus now && reader.status.sequence != lastServiceSequence
    | _ => false

/-- `PTPClock`: its interface, and the slave `aes67ptpd` runs. The rest is a trace: what either slave has
read since it was started, the statuses the daemon has published with what it had read by then, and what
had been read by the status the interface holds and by the measurement that reached it last. -/
structure Clock where
  interface : PTPDInterface
  readings : List Reading := []
  daemon : Measured := {}
  daemonReadings : List Reading := []
  published : List (PTPServiceStatus × List Reading) := []
  held : List Reading := []
  reached : List Reading := []

namespace Clock

/-- What happens to the clock: anything that happens to its interface, the daemon's slave takes an event
or is started again, the daemon publishes a status, or the interface's reader reads one of these. -/
inductive Act
  | interface (a : PTPDInterface.Act)
  | daemon (i : Life)
  | publish (status : PTPServiceStatus)
  | receive (i : ℕ) (receivedAt : ℕ)

variable (better : MasterDataset → MasterDataset → Bool) (cfg : SlaveConfig) (c : Clock)

/-- What the slave of this process reads. -/
def newReadings (a : PTPDInterface.Act) : List Reading :=
  match a, c.interface.runningSlave with
  | .slave e, some s => s.readings cfg e
  | _, _ => []

/-- What the slave of this process has read since it was started, behind a step. -/
def readingsAfter (a : PTPDInterface.Act) : List Reading :=
  if c.interface.runningSlave.isSome then c.readings ++ c.newReadings cfg a else []

/-- The interface takes a step. -/
def interfaceStep (a : PTPDInterface.Act) : Clock :=
  { c with
    interface := c.interface.step better cfg a
    readings := c.readingsAfter cfg a
    held := match a with
      | .receive .. => if c.interface.live then [] else c.held
      | _ => c.held
    reached := match a with
      | .slave _ => if c.newReadings cfg a = [] then c.reached else c.readingsAfter cfg a
      | .serviceIteration now => if c.interface.handles now then c.held else c.reached
      | _ => c.reached }

/-- The daemon publishes its slave's lock and offset, with all else as it may be. -/
def statusOf (status : PTPServiceStatus) : PTPServiceStatus :=
  { status with
    locked := if c.daemon.slave.locked then 1 else 0
    offsetNs := .ofInt c.daemon.slave.offsetNs }

def step : Act → Clock
  | .interface a => c.interfaceStep better cfg a
  | .daemon (.event e) =>
    { c with
      daemon := c.daemon.step better cfg (.event e)
      daemonReadings := c.daemonReadings ++ c.daemon.slave.readings cfg e }
  | .daemon .restart =>
    { c with daemon := c.daemon.step better cfg .restart, daemonReadings := [] }
  | .publish status =>
    { c with published := c.published ++ [(c.statusOf status, c.daemonReadings)] }
  | .receive i receivedAt =>
    match c.published[i]? with
    | none => c
    | some (status, readings) =>
      { c with
        interface := c.interface.receive status receivedAt
        held := if c.interface.live then readings else c.held }

/-- The clock as it is built. -/
def init (path : Path) : Clock := { interface := { engine := path.engine } }

end Clock

/-! ## Exact readings -/

theorem Reading.Exact.offset_eq {x : Reading} {θ d : ℤ} (h : x.Exact θ d)
    (hθ : |θ| < kLockToleranceNs) : x.offset = θ := by
  have hbounds := abs_lt.mp hθ
  unfold kLockToleranceNs at hbounds
  unfold Reading.offset
  cases hrequest : x.request with
  | none =>
    have hsub : i64 (i64 (d + θ) - d) = i64 (d + θ - d) := Int.bmod_sub_bmod
    rw [h.sync, h.stored hrequest]
    dsimp only
    rw [hsub, add_sub_cancel_left, i64_of_bounds (by omega) (by omega)]
  | some times =>
    obtain ⟨t3, t4⟩ := times
    have hsub : i64 (i64 (d + θ) - i64 (d - θ)) = i64 (d + θ - (d - θ)) :=
      (Int.sub_bmod _ _ _).symm
    have htwice : d + θ - (d - θ) = θ * 2 := by ring
    show (i64 (i64 (x.t2 - x.t1) - i64 (t4 - t3))).tdiv 2 = θ
    rw [h.sync, h.request t3 t4 hrequest, hsub, htwice, i64_of_bounds (by omega) (by omega), Int.mul_tdiv_cancel _ (by omega)]

theorem Exactly.offsets_eq {θ d : ℤ} {l : List Reading} (h : Exactly θ d l)
    (hθ : |θ| < kLockToleranceNs) :
    (l.map Reading.offset).rtake kFilterSize = List.replicate kFilterSize θ := by
  have hfull := h.full
  have hmap : (l.map Reading.offset).rtake kFilterSize =
      (l.rtake kFilterSize).map Reading.offset := by
    rw [List.rtake, List.rtake, List.length_map, List.map_drop]
  have hlength : (l.rtake kFilterSize).length = kFilterSize := by
    rw [List.rtake, List.length_drop]
    omega
  rw [hmap, List.eq_replicate_iff]
  refine ⟨by rw [List.length_map, hlength], fun y hy => ?_⟩
  obtain ⟨x, hx, rfl⟩ := List.mem_map.mp hy
  exact (h.exact x hx).offset_eq hθ

theorem shows_nil (offsetNs : ℤ) : Shows [] offsetNs := fun _ _ _ h =>
  absurd h.full (Nat.not_succ_le_zero 7)

/-- A mean wherever the sum has room is the difference behind exact readings. -/
theorem Shows.of_mean {l : List Reading} {offsetNs : ℤ}
    (h : offsetNs = mean ((l.map Reading.offset).rtake kFilterSize) ↔
      Fits ((l.map Reading.offset).rtake kFilterSize).sum) : Shows l offsetNs := by
  intro θ d hθ hexact
  have hbounds := abs_lt.mp hθ
  unfold kLockToleranceNs at hbounds
  rw [hexact.offsets_eq hθ, mean, List.sum_replicate, List.length_replicate, nsmul_eq_mul,
    mul_comm] at h
  have hfits : Fits (θ * (kFilterSize : ℤ)) := by
    unfold Fits kFilterSize
    omega
  rw [h.mpr hfits]
  exact Int.mul_tdiv_cancel _ (by decide)

/-! ## The readings of an event -/

namespace Slave

variable {better : MasterDataset → MasterDataset → Bool} {cfg : SlaveConfig} {s : Slave}

theorem offsetSample_eq_reading : s.offsetSample = s.reading.map Reading.offset := by
  unfold offsetSample reading
  cases s.readSync with
  | none => rfl
  | some times => cases s.readDelay <;> rfl

/-- **An event measures the offsets of its readings.** -/
theorem samples_offsets (e : Event) :
    (s.samples better cfg e).offsets = (s.readings cfg e).map Reading.offset := by
  cases e with
  | datagram data receiveTimeNs onEventSocket now =>
    unfold samples readings
    dsimp only
    cases s.messageOf cfg (.datagram data receiveTimeNs onEventSocket now) with
    | none => rfl
    | some message =>
      dsimp only
      cases hcomputing : s.computing message with
      | some s' =>
        rw [samplesOf_of_computing hcomputing]
        exact offsetSample_eq_reading
      | none =>
        cases message with
        | sync header data receiveTimeNs =>
          rw [samplesOf_sync_of_none hcomputing]
          rfl
        | followUp header data | delayResp header data => cases hcomputing
        | pdelayResp header data receiveTimeNs => rfl
        | pdelayFollowUp header data => rfl
        | announce header data now => rfl
  | request sendTimeNs sent => rfl
  | checkAnnounceTimeout now => rfl

/-- Its rings hold some samples. -/
def Ringed (s : Slave) : Prop := ∃ offsets delays, s.offsetHistory.Of offsets ∧ s.delayHistory.Of delays

/-- The filters have what was read. -/
def HasRead (s : Slave) (l : List Reading) : Prop :=
  ∃ delays published, s.Tracks (l.map Reading.offset) delays published

variable {l : List Reading}

theorem ringed_init : ({} : Slave).Ringed :=
  ⟨[], [], ⟨.nil rfl, rfl, rfl⟩, ⟨.nil rfl, rfl, rfl⟩⟩

theorem HasRead.ringed (h : s.HasRead l) : s.Ringed := by
  obtain ⟨delays, published, htracks⟩ := h
  exact ⟨_, _, htracks.offsetRing, htracks.delayRing⟩

/-- A slave started has read nothing. -/
theorem Ringed.start (h : s.Ringed) : s.start.HasRead [] := by
  obtain ⟨offsets, delays, hoffsets, hdelays⟩ := h
  exact ⟨[], [], hoffsets.clear, hdelays.clear, fun h => absurd rfl h, rfl,
    (decide_eq_false (p := kLockThreshold ≤ 0) (by decide)).symm⟩

/-- **One event**: the slave has read what it had and what the event made it read, and behind exact
readings it shows the difference. -/
theorem HasRead.step (h : s.HasRead l) (e : Event) :
    (s.step better cfg e).HasRead (l ++ s.readings cfg e) ∧
      (s.readings cfg e ≠ [] → Shows (l ++ s.readings cfg e) (s.step better cfg e).offsetNs) ∧
      (s.readings cfg e = [] → (s.step better cfg e).offsetNs = s.offsetNs) := by
  obtain ⟨delays, published, htracks⟩ := h
  have hfollows : s.Follows (s.step better cfg e) (s.samples better cfg e) (l.map Reading.offset)
      delays published := htracks.step e
  have hoffsets : (s.samples better cfg e).offsets = (s.readings cfg e).map Reading.offset :=
    samples_offsets e
  obtain ⟨hafter, hkept, hmean⟩ := hfollows
  rw [hoffsets] at hafter hkept hmean
  rw [← List.map_append] at hafter hmean
  refine ⟨⟨_, _, hafter⟩, fun hsome => ?_, fun hnone => hkept (by rw [hnone]; rfl)⟩
  exact .of_mean (hmean fun hnil => hsome (List.map_eq_nil_iff.mp hnil))

end Slave

/-! ## The interface by what its slave has read -/

namespace PTPDInterface

variable {better : MasterDataset → MasterDataset → Bool} {cfg : SlaveConfig} {p : PTPDInterface}
  {l : List Reading}

/-- The slave of this process has read this since it was started, where it runs. -/
def HasRead (p : PTPDInterface) (l : List Reading) : Prop :=
  match p.engine with
  | .slave s => if p.live then s.HasRead l else s.Ringed
  | .arbitrator s true => p.live = true ∧ s.HasRead l
  | .arbitrator s false => s.Ringed
  | .service .. => True

theorem runningSlave_of_idle (h : p.live = false) : p.runningSlave = none := by
  rw [runningSlave, h]
  rfl

/-- Where no slave runs, none has read anything since it was started. -/
theorem HasRead.of_none (h : p.HasRead l) (hnone : p.runningSlave = none) (l' : List Reading) :
    p.HasRead l' := by
  unfold HasRead at h ⊢
  unfold runningSlave at hnone
  cases hlive : p.live with
  | false =>
    rw [hlive] at h
    cases hengine : p.engine with
    | slave s =>
      rw [hengine] at h
      exact h
    | arbitrator s slaveActive =>
      rw [hengine] at h
      cases slaveActive with
      | false => exact h
      | true => cases h.1
    | service reader lastServiceSequence sawLocked => trivial
  | true =>
    rw [hlive] at h hnone
    cases hengine : p.engine with
    | slave s =>
      rw [hengine] at hnone
      cases hnone
    | arbitrator s slaveActive =>
      rw [hengine] at h hnone
      cases slaveActive with
      | false => exact h
      | true => cases hnone
    | service reader lastServiceSequence sawLocked => trivial

theorem HasRead.since (h : p.HasRead l) : p.HasRead (if p.runningSlave.isSome then l else []) := by
  split_ifs with hsome
  · exact h
  · exact h.of_none (Option.not_isSome_iff_eq_none.mp hsome) []

/-- The slave of an interface that does not run has its rings. -/
theorem HasRead.ringed (h : p.HasRead l) (hlive : p.live = false) :
    match p.engine with
    | .slave s => s.Ringed
    | .arbitrator s slaveActive => s.Ringed ∧ slaveActive = false
    | .service .. => True := by
  unfold HasRead at h
  cases hengine : p.engine with
  | slave s =>
    rw [hengine, hlive] at h
    exact h
  | arbitrator s slaveActive =>
    rw [hengine, hlive] at h
    cases slaveActive with
    | false => exact ⟨h, rfl⟩
    | true => cases h.1
  | service reader lastServiceSequence sawLocked => trivial

theorem HasRead.start (h : p.HasRead l) (started : Bool) :
    (p.start started).HasRead (if p.runningSlave.isSome then l else []) := by
  cases hrunning : p.running with
  | true =>
    rw [start_of_running hrunning]
    exact h.since
  | false =>
    have hidle : p.live = false := by rw [live, hrunning, Bool.false_and]
    have hringed := h.ringed hidle
    rw [runningSlave_of_idle hidle]
    unfold PTPDInterface.start HasRead live
    rw [hrunning, if_neg Bool.false_ne_true]
    cases hstub : p.stubMode with
    | true =>
      rw [if_pos rfl]
      cases hengine : p.engine with
      | slave s =>
        rw [hengine] at hringed
        exact hringed
      | arbitrator s slaveActive =>
        rw [hengine] at hringed
        obtain ⟨hs, rfl⟩ := hringed
        exact hs
      | service reader lastServiceSequence sawLocked => trivial
    | false =>
      rw [if_neg Bool.false_ne_true]
      cases hengine : p.engine with
      | slave s =>
        rw [hengine] at hringed
        cases started with
        | true => exact hringed.start
        | false => exact hringed
      | arbitrator s slaveActive =>
        rw [hengine] at hringed
        obtain ⟨hs, rfl⟩ := hringed
        cases started with
        | true => exact hs
        | false => exact hs
      | service reader lastServiceSequence sawLocked => trivial

theorem HasRead.stop (h : p.HasRead l) :
    p.stop.HasRead (if p.runningSlave.isSome then l else []) := by
  have hread := h
  unfold HasRead at hread
  cases hrunning : p.running with
  | false =>
    have hstop : p.stop = p := by
      rw [PTPDInterface.stop, hrunning]
      rfl
    rw [hstop]
    exact h.since
  | true =>
    unfold PTPDInterface.stop
    rw [hrunning, Bool.not_true, if_neg Bool.false_ne_true]
    cases hstub : p.stubMode with
    | true =>
      have hidle : p.live = false := by rw [live, hstub, Bool.not_true, Bool.and_false]
      have hringed := h.ringed hidle
      rw [if_pos rfl]
      unfold HasRead live
      cases hengine : p.engine with
      | slave s =>
        rw [hengine] at hringed
        exact hringed
      | arbitrator s slaveActive =>
        rw [hengine] at hringed
        obtain ⟨hs, rfl⟩ := hringed
        exact hs
      | service reader lastServiceSequence sawLocked => trivial
    | false =>
      have hlive : p.live = true := by
        rw [live, hstub, hrunning]
        rfl
      rw [if_neg Bool.false_ne_true]
      unfold HasRead live
      cases hengine : p.engine with
      | slave s =>
        rw [hengine, hlive] at hread
        have hs : s.Ringed := Slave.HasRead.ringed hread
        exact hs
      | arbitrator s slaveActive =>
        rw [hengine, hlive] at hread
        cases slaveActive with
        | true => exact hread.2.ringed
        | false => exact hread
      | service reader lastServiceSequence sawLocked => trivial

theorem slaveEvent_of_none (h : p.runningSlave = none) (e : Event) :
    p.slaveEvent better cfg e = p := by
  unfold runningSlave at h
  unfold slaveEvent
  cases hlive : p.live with
  | false => rfl
  | true =>
    rw [hlive, Bool.not_true, if_neg Bool.false_ne_true] at h
    rw [Bool.not_true, if_neg Bool.false_ne_true]
    cases hengine : p.engine with
    | slave s =>
      rw [hengine] at h
      cases h
    | arbitrator s slaveActive =>
      rw [hengine] at h
      cases slaveActive with
      | true => cases h
      | false => rfl
    | service reader lastServiceSequence sawLocked => rfl

theorem handOn_engine (samples : Slave.Samples) (offsetNs : ℤ) :
    (p.handOn samples offsetNs).engine = p.engine ∧ (p.handOn samples offsetNs).live = p.live := by
  unfold handOn
  split_ifs <;> exact ⟨rfl, rfl⟩

theorem handOn_masterOffsetNs (samples : Slave.Samples) (offsetNs : ℤ) :
    (p.handOn samples offsetNs).masterOffsetNs =
      if samples.offsets = [] then p.masterOffsetNs else offsetNs := by
  unfold handOn
  split_ifs <;> rfl

/-- **One event of the running slave.** -/
theorem HasRead.slaveEvent (h : p.HasRead l) {s : Slave} (hs : p.runningSlave = some s) (e : Event) :
    (p.slaveEvent better cfg e).HasRead (l ++ s.readings cfg e) ∧
      (s.readings cfg e = [] → (p.slaveEvent better cfg e).masterOffsetNs = p.masterOffsetNs) ∧
      (s.readings cfg e ≠ [] →
        Shows (l ++ s.readings cfg e) (p.slaveEvent better cfg e).masterOffsetNs) := by
  have hoffsets : (s.samples better cfg e).offsets = [] ↔ s.readings cfg e = [] := by
    rw [Slave.samples_offsets, List.map_eq_nil_iff]
  have hoffsetNs : ∀ q : PTPDInterface, q.masterOffsetNs = p.masterOffsetNs → s.HasRead l →
      (s.readings cfg e = [] → (q.handOn (s.samples better cfg e)
        (s.step better cfg e).offsetNs).masterOffsetNs = p.masterOffsetNs) ∧
      (s.readings cfg e ≠ [] → Shows (l ++ s.readings cfg e) (q.handOn (s.samples better cfg e)
        (s.step better cfg e).offsetNs).masterOffsetNs) := by
    intro q hq hread
    rw [handOn_masterOffsetNs]
    refine ⟨fun hnone => ?_, fun hsome => ?_⟩
    · rw [if_pos (hoffsets.mpr hnone), hq]
    · rw [if_neg (mt hoffsets.mp hsome)]
      have hstep : (s.step better cfg e).HasRead (l ++ s.readings cfg e) ∧ _ := hread.step e
      exact hstep.2.1 hsome
  unfold runningSlave at hs
  cases hlive : p.live with
  | false =>
    rw [hlive] at hs
    cases hs
  | true =>
    rw [hlive, Bool.not_true, if_neg Bool.false_ne_true] at hs
    unfold PTPDInterface.slaveEvent
    rw [hlive, Bool.not_true, if_neg Bool.false_ne_true]
    unfold HasRead at h ⊢
    cases hengine : p.engine with
    | slave s' =>
      rw [hengine] at hs h
      rw [hlive] at h
      cases hs
      dsimp only
      rw [(handOn_engine _ _).1, (handOn_engine _ _).2]
      refine ⟨?_, hoffsetNs _ rfl h⟩
      show (if p.live = true then _ else _)
      rw [hlive]
      exact (Slave.HasRead.step h e).1
    | arbitrator s' slaveActive =>
      rw [hengine] at hs h
      cases slaveActive with
      | false => cases hs
      | true =>
        cases hs
        dsimp only
        rw [(handOn_engine _ _).1, (handOn_engine _ _).2]
        exact ⟨⟨hlive, (Slave.HasRead.step h.2 e).1⟩, hoffsetNs _ rfl h.2⟩
    | service reader lastServiceSequence sawLocked =>
      rw [hengine] at hs
      cases hs

theorem HasRead.monitor (h : p.HasRead l) (weAreMaster started : Bool) :
    (p.monitor weAreMaster started).HasRead (if p.runningSlave.isSome then l else []) := by
  cases hlive : p.live with
  | false =>
    have hidle : p.monitor weAreMaster started = p := by
      rw [PTPDInterface.monitor, hlive]
      rfl
    rw [hidle]
    exact h.since
  | true =>
    cases hengine : p.engine with
    | slave s | service reader lastServiceSequence sawLocked =>
      have hsame : p.monitor weAreMaster started = p := by
        rw [PTPDInterface.monitor, hlive, hengine]
        rfl
      rw [hsame]
      exact h.since
    | arbitrator s slaveActive =>
      have hsame := h.since
      have hread := h
      unfold HasRead at hread
      rw [hengine] at hread
      unfold PTPDInterface.monitor
      rw [hlive, Bool.not_true, if_neg Bool.false_ne_true, hengine]
      dsimp only
      cases slaveActive with
      | true =>
        cases weAreMaster with
        | true => exact hread.2.ringed
        | false => exact hsame
      | false =>
        have hnone : p.runningSlave = none := by
          rw [runningSlave, hlive, hengine]
          rfl
        rw [hnone] at hsame ⊢
        cases weAreMaster with
        | true => exact hsame
        | false =>
          cases started with
          | true => exact ⟨hlive, Slave.Ringed.start hread⟩
          | false => exact hsame

theorem receive_of_slave (h : p.engine.reader? = none) (status : PTPServiceStatus)
    (receivedAt : ℕ) : p.receive status receivedAt = p := by
  unfold receive
  cases p.live with
  | false => rfl
  | true =>
    rw [Bool.not_true, if_neg Bool.false_ne_true]
    cases hengine : p.engine with
    | slave s | arbitrator s slaveActive => rfl
    | service reader lastServiceSequence sawLocked =>
      rw [hengine] at h
      cases h

theorem serviceIteration_of_slave (h : p.engine.reader? = none) (now : ℕ) :
    p.serviceIteration now = p := by
  unfold serviceIteration
  cases p.live with
  | false => rfl
  | true =>
    rw [Bool.not_true, if_neg Bool.false_ne_true]
    cases hengine : p.engine with
    | slave s | arbitrator s slaveActive => rfl
    | service reader lastServiceSequence sawLocked =>
      rw [hengine] at h
      cases h

theorem HasRead.of_reader {reader : ServiceReader} (h : p.engine.reader? = some reader) :
    p.HasRead l := by
  unfold HasRead
  cases hengine : p.engine with
  | slave s | arbitrator s slaveActive =>
    rw [hengine] at h
    cases h
  | service reader' lastServiceSequence sawLocked => trivial

/-! ## The interface by the status it holds -/

theorem reader?_receive (status : PTPServiceStatus) (receivedAt : ℕ) :
    (p.receive status receivedAt).engine.reader? =
      p.engine.reader?.map fun reader => if p.live then ⟨true, status, receivedAt⟩ else reader := by
  unfold receive
  cases p.live with
  | false =>
    rw [Bool.not_false, if_pos rfl]
    exact Option.map_id'.symm
  | true =>
    rw [Bool.not_true, if_neg Bool.false_ne_true]
    cases hengine : p.engine with
    | slave s | arbitrator s slaveActive =>
      dsimp only
      rw [hengine]
      rfl
    | service reader lastServiceSequence sawLocked => rfl

theorem receive_masterOffsetNs (status : PTPServiceStatus) (receivedAt : ℕ) :
    (p.receive status receivedAt).masterOffsetNs = p.masterOffsetNs := by
  unfold receive
  split_ifs
  · rfl
  · split <;> rfl

theorem HasRead.receive (h : p.HasRead l) (status : PTPServiceStatus) (receivedAt : ℕ) :
    (p.receive status receivedAt).HasRead l := by
  cases hreader : p.engine.reader? with
  | none =>
    rw [receive_of_slave hreader]
    exact h
  | some reader =>
    have hafter := reader?_receive (p := p) status receivedAt
    rw [hreader] at hafter
    exact .of_reader hafter

/-- The status held and the offset published stay. -/
def Keeps (p q : PTPDInterface) : Prop :=
  q.engine.reader? = p.engine.reader? ∧ q.masterOffsetNs = p.masterOffsetNs

theorem start_keeps (started : Bool) : p.Keeps (p.start started) := by
  unfold Keeps start
  cases p.running with
  | true => exact ⟨rfl, rfl⟩
  | false =>
    cases p.stubMode with
    | true => exact ⟨rfl, rfl⟩
    | false =>
      rw [if_neg Bool.false_ne_true, if_neg Bool.false_ne_true]
      cases p.engine <;> cases started <;> exact ⟨rfl, rfl⟩

theorem stop_keeps : p.Keeps p.stop := by
  unfold Keeps stop
  cases p.running with
  | false => exact ⟨rfl, rfl⟩
  | true =>
    cases p.stubMode with
    | true => exact ⟨rfl, rfl⟩
    | false =>
      rw [Bool.not_true, if_neg Bool.false_ne_true, if_neg Bool.false_ne_true]
      cases p.engine <;> exact ⟨rfl, rfl⟩

theorem monitor_keeps (weAreMaster started : Bool) :
    p.Keeps (p.monitor weAreMaster started) := by
  unfold Keeps monitor
  cases p.live with
  | false => exact ⟨rfl, rfl⟩
  | true =>
    rw [Bool.not_true, if_neg Bool.false_ne_true]
    cases hengine : p.engine with
    | slave s | service reader lastServiceSequence sawLocked =>
      dsimp only
      rw [hengine]
      exact ⟨rfl, rfl⟩
    | arbitrator s slaveActive =>
      dsimp only
      split_ifs <;> first | exact ⟨rfl, rfl⟩ | (rw [hengine]; exact ⟨rfl, rfl⟩)

theorem slaveEvent_reader? (e : Event) :
    (p.slaveEvent better cfg e).engine.reader? = p.engine.reader? := by
  unfold slaveEvent
  cases p.live with
  | false => rfl
  | true =>
    rw [Bool.not_true, if_neg Bool.false_ne_true]
    cases hengine : p.engine with
    | slave s =>
      dsimp only
      rw [(handOn_engine _ _).1]
      rfl
    | arbitrator s slaveActive =>
      cases slaveActive with
      | true =>
        dsimp only
        rw [(handOn_engine _ _).1]
        rfl
      | false =>
        dsimp only
        rw [hengine]
    | service reader lastServiceSequence sawLocked =>
      dsimp only
      rw [hengine]

/-- **One turn of the service loop** takes the offset of the status it handles. -/
theorem serviceIteration_keeps (now : ℕ) :
    (p.serviceIteration now).engine.reader? = p.engine.reader? ∧
      (p.handles now = false → (p.serviceIteration now).masterOffsetNs = p.masterOffsetNs) ∧
      (p.handles now = true → ∃ reader, p.engine.reader? = some reader ∧
        (p.serviceIteration now).masterOffsetNs = reader.status.offsetNs.toInt) := by
  unfold serviceIteration handles
  cases p.live with
  | false => exact ⟨rfl, fun _ => rfl, fun h => absurd h Bool.false_ne_true⟩
  | true =>
    rw [Bool.not_true, if_neg Bool.false_ne_true, Bool.true_and]
    cases hengine : p.engine with
    | slave s | arbitrator s slaveActive =>
      refine ⟨?_, fun _ => rfl, fun h => absurd h Bool.false_ne_true⟩
      dsimp only
      rw [hengine]
    | service reader lastServiceSequence sawLocked =>
      dsimp only
      split_ifs with hnew hstale
      · exact ⟨rfl, fun h => absurd h (by rw [hnew]; exact Bool.noConfusion), fun _ =>
          ⟨reader, rfl, rfl⟩⟩
      · exact ⟨rfl, fun _ => rfl, fun h => absurd h hnew⟩
      · exact ⟨rfl, fun _ => rfl, fun h => absurd h hnew⟩

end PTPDInterface

/-! ## Every run of the clock -/

namespace Clock

variable {better : MasterDataset → MasterDataset → Bool} {cfg : SlaveConfig} {c : Clock}

/-- The slaves have read what is kept of it, and offsets wherever they have got to show the difference
behind exact readings: in the daemon, in its statuses, in the status held and at the interface. -/
structure Inv (c : Clock) : Prop where
  hasRead : c.interface.HasRead c.readings
  tracks : c.daemon.Tracks
  offsets_eq : c.daemon.offsets = c.daemonReadings.map Reading.offset
  daemon : Shows c.daemonReadings c.daemon.slave.offsetNs
  published : ∀ x ∈ c.published, Shows x.2 x.1.offsetNs.toInt
  held : ∀ reader, c.interface.engine.reader? = some reader → Shows c.held reader.status.offsetNs.toInt
  reached : Shows c.reached c.interface.masterOffsetNs

theorem inv_init (path : Path) : (init path).Inv where
  hasRead := by
    cases path with
    | slave | arbitrator => exact Slave.ringed_init
    | service => trivial
  tracks := Measured.tracks_init
  offsets_eq := rfl
  daemon := shows_nil _
  published := fun _ hx => absurd hx List.not_mem_nil
  held := fun _ _ => shows_nil _
  reached := shows_nil _

/-- An offset that is the difference fits the status. -/
theorem ofInt_shows {l : List Reading} {offsetNs : ℤ} (h : Shows l offsetNs) :
    Shows l (Int64.ofInt offsetNs).toInt := by
  intro θ d hθ hexact
  have hbounds := abs_lt.mp hθ
  unfold kLockToleranceNs at hbounds
  rw [h θ d hθ hexact, Int64.toInt_ofInt]
  exact i64_of_bounds (by omega) (by omega)

theorem Inv.daemonEvent (h : c.Inv) (e : Event) : (c.step better cfg (.daemon (.event e))).Inv := by
  have hread : c.daemon.slave.HasRead c.daemonReadings := by
    have htracks := h.tracks
    unfold Measured.Tracks at htracks
    rw [h.offsets_eq] at htracks
    exact ⟨_, _, htracks⟩
  have hstep : (c.daemon.slave.step better cfg e).HasRead
      (c.daemonReadings ++ c.daemon.slave.readings cfg e) ∧ _ := hread.step e
  refine ⟨h.hasRead, h.tracks.step _, ?_, ?_, h.published, h.held, h.reached⟩
  · show c.daemon.offsets ++ (c.daemon.slave.samples better cfg e).offsets = _
    rw [Slave.samples_offsets, h.offsets_eq]
    exact List.map_append.symm
  · show Shows (c.daemonReadings ++ c.daemon.slave.readings cfg e)
      (c.daemon.slave.step better cfg e).offsetNs
    rcases eq_or_ne (c.daemon.slave.readings cfg e) [] with hnone | hsome
    · rw [hstep.2.2 hnone, hnone, List.append_nil]
      exact h.daemon
    · exact hstep.2.1 hsome

/-- A status is read, with what had been read by then. -/
theorem Inv.hold (h : c.Inv) (status : PTPServiceStatus) (receivedAt : ℕ) {readings l : List Reading}
    (hreadings : c.interface.HasRead readings) (hl : Shows l status.offsetNs.toInt) :
    { c with
      interface := c.interface.receive status receivedAt
      readings := readings
      held := if c.interface.live then l else c.held : Clock }.Inv := by
  refine ⟨hreadings.receive status receivedAt, h.tracks, h.offsets_eq, h.daemon, h.published,
    fun reader hreader => ?_, ?_⟩
  · dsimp only at hreader ⊢
    rw [PTPDInterface.reader?_receive] at hreader
    obtain ⟨reader', hreader', rfl⟩ := Option.map_eq_some_iff.mp hreader
    cases c.interface.live with
    | true => exact hl
    | false => exact h.held _ hreader'
  · dsimp only
    rw [PTPDInterface.receive_masterOffsetNs]
    exact h.reached

/-- A step of the interface that measures nothing and reads no status. -/
theorem Inv.keep (h : c.Inv) {q : PTPDInterface} {readings : List Reading}
    (hreadings : q.HasRead readings) (hkeeps : c.interface.Keeps q) :
    { c with interface := q, readings := readings : Clock }.Inv := by
  refine ⟨hreadings, h.tracks, h.offsets_eq, h.daemon, h.published, fun reader hreader => ?_, ?_⟩
  · exact h.held reader (hkeeps.1 ▸ hreader)
  · show Shows c.reached q.masterOffsetNs
    rw [hkeeps.2]
    exact h.reached

theorem readingsAfter_eq (a : PTPDInterface.Act) (h : c.newReadings cfg a = []) :
    c.readingsAfter cfg a = if c.interface.runningSlave.isSome then c.readings else [] := by
  rw [readingsAfter, h, List.append_nil]

theorem Inv.interfaceSlave (h : c.Inv) (e : Event) :
    (c.interfaceStep better cfg (.slave e)).Inv := by
  cases hs : c.interface.runningSlave with
  | none =>
    have hnew : c.newReadings cfg (.slave e) = [] := by
      unfold newReadings
      rw [hs]
    have hsame : c.interface.step better cfg (.slave e) = c.interface :=
      PTPDInterface.slaveEvent_of_none hs e
    unfold interfaceStep
    dsimp only
    rw [hnew, if_pos rfl, hsame, readingsAfter_eq _ hnew]
    exact h.keep h.hasRead.since ⟨rfl, rfl⟩
  | some s =>
    have hnew : c.newReadings cfg (.slave e) = s.readings cfg e := by
      unfold newReadings
      rw [hs]
    have hafter : c.readingsAfter cfg (.slave e) = c.readings ++ s.readings cfg e := by
      rw [readingsAfter, hs, hnew]
      rfl
    have hstep : (c.interface.slaveEvent better cfg e).HasRead (c.readings ++ s.readings cfg e) ∧ _ :=
      h.hasRead.slaveEvent hs e
    obtain ⟨hread, hkept, hshows⟩ := hstep
    unfold interfaceStep
    dsimp only
    rw [hnew, hafter]
    refine ⟨hread, h.tracks, h.offsets_eq, h.daemon, h.published, fun reader hreader => ?_, ?_⟩
    · have hreader' : c.interface.engine.reader? = some reader := by
        rw [← hreader]
        exact (PTPDInterface.slaveEvent_reader? e).symm
      exact h.held reader hreader'
    · show Shows (if _ then _ else _) (c.interface.slaveEvent better cfg e).masterOffsetNs
      split_ifs with hnone
      · rw [hkept hnone]
        exact h.reached
      · exact hshows hnone

theorem Inv.interfaceService (h : c.Inv) (now : ℕ) :
    (c.interfaceStep better cfg (.serviceIteration now)).Inv := by
  obtain ⟨hreader, hkept, htaken⟩ := c.interface.serviceIteration_keeps now
  have hread : (c.interface.serviceIteration now).HasRead
      (c.readingsAfter cfg (.serviceIteration now)) := by
    cases hnone : c.interface.engine.reader? with
    | none =>
      rw [PTPDInterface.serviceIteration_of_slave hnone, readingsAfter_eq _ rfl]
      exact h.hasRead.since
    | some reader => exact .of_reader (hreader.trans hnone)
  refine ⟨hread, h.tracks, h.offsets_eq, h.daemon, h.published, fun reader hheld => ?_, ?_⟩
  · exact h.held reader (hreader ▸ hheld)
  · show Shows (if _ then _ else _) (c.interface.serviceIteration now).masterOffsetNs
    split_ifs with hhandles
    · obtain ⟨reader, hheld, hoffset⟩ := htaken hhandles
      rw [hoffset]
      exact h.held reader hheld
    · rw [hkept (Bool.not_eq_true _ |>.mp hhandles)]
      exact h.reached

theorem Inv.interfaceStep (h : c.Inv) (a : PTPDInterface.Act) :
    (c.interfaceStep better cfg a).Inv := by
  cases a with
  | start started =>
    unfold Clock.interfaceStep
    rw [readingsAfter_eq _ rfl]
    exact h.keep (h.hasRead.start started) (PTPDInterface.start_keeps started)
  | stop =>
    unfold Clock.interfaceStep
    rw [readingsAfter_eq _ rfl]
    exact h.keep h.hasRead.stop PTPDInterface.stop_keeps
  | slave e => exact h.interfaceSlave e
  | monitor weAreMaster started =>
    unfold Clock.interfaceStep
    rw [readingsAfter_eq _ rfl]
    exact h.keep (h.hasRead.monitor weAreMaster started)
      (PTPDInterface.monitor_keeps weAreMaster started)
  | receive status receivedAt =>
    unfold Clock.interfaceStep
    rw [readingsAfter_eq _ rfl]
    exact h.hold status receivedAt h.hasRead.since (shows_nil _)
  | serviceIteration now => exact h.interfaceService now

theorem Inv.step (h : c.Inv) (a : Act) : (c.step better cfg a).Inv := by
  cases a with
  | interface a => exact h.interfaceStep a
  | daemon i =>
    cases i with
    | event e => exact h.daemonEvent e
    | restart =>
      have htracks : (c.daemon.step better cfg .restart).Tracks := h.tracks.step .restart
      exact ⟨h.hasRead, htracks, rfl, shows_nil _, h.published, h.held, h.reached⟩
  | publish status =>
    refine ⟨h.hasRead, h.tracks, h.offsets_eq, h.daemon, fun x hx => ?_, h.held, h.reached⟩
    rcases List.mem_append.mp hx with hold | hnew
    · exact h.published x hold
    · obtain rfl := List.mem_singleton.mp hnew
      exact ofInt_shows h.daemon
  | receive i receivedAt =>
    unfold Clock.step
    dsimp only
    cases hi : c.published[i]? with
    | none => exact h
    | some status =>
      exact h.hold status.1 receivedAt h.hasRead (h.published _ (List.mem_of_getElem? hi))

/-- Adding a difference is taking it away just when there is none. -/
theorem u64_add_eq_sub_iff {θ : ℤ} (hθ : |θ| < kLockToleranceNs) (localTime : ℕ) :
    u64 (localTime + θ) = u64 (localTime - θ) ↔ θ = 0 := by
  have hbounds := abs_lt.mp hθ
  unfold kLockToleranceNs at hbounds
  unfold u64
  omega

/-- **The clock shows the master's time just when there is no difference**: after any run over any of
the engines, while the lock is published and the measurement that reached the interface last followed as
many exact ones as the filter holds. -/
theorem getTime_eq_iff (better : MasterDataset → MasterDataset → Bool) (cfg : SlaveConfig) (path : Path)
    (acts : List Act) {θ d : ℤ} (hθ : |θ| < kLockToleranceNs)
    (hexact : Exactly θ d (acts.foldl (step better cfg) (init path)).reached)
    (hlocked : (acts.foldl (step better cfg) (init path)).interface.isLocked = true)
    (localTime : ℕ) :
    (acts.foldl (step better cfg) (init path)).interface.getTime localTime = u64 (localTime - θ) ↔
      θ = 0 := by
  have hinv : Always (step better cfg) Inv (init path) acts :=
    always_of_step (fun _ a h => h.step a) (inv_init path)
  rw [PTPDInterface.getTime, if_pos hlocked, hinv.run.reached θ d hθ hexact]
  exact u64_add_eq_sub_iff hθ localTime

/-- A Delay_Resp of sequence number `seq`, with the request received at this many seconds. -/
def respAt (seq seconds : UInt8) : Event :=
  .datagram ([0x09, 2, 0, 54] ++ List.replicate 27 0 ++ [seq, 0, 0] ++
    [0, 0, 0, 0, 0, seconds, 0, 0, 0, 0] ++ List.replicate 10 0) 0 false 0

/-- One exchange with a master this clock is fifty microseconds ahead of, a microsecond away. -/
def exchange (seq : UInt8) : List Event :=
  (Servo.syncAt 100000051000 seq).map Prod.fst ++ [.request 101000049000 true, respAt seq 101]

/-- A slave that hears the master, and eight exchanges with it. -/
def exchanges : List Act :=
  .interface (.start true) :: .interface (PTPDInterface.announceAt 0) ::
    ([1, 2, 3, 4, 5, 6, 7, 8].flatMap exchange).map fun e => .interface (.slave e)

theorem exchanges_exactly :
    Exactly 50000 1000 (exchanges.foldl (step (fun _ _ => false) {}) (init .slave)).reached := by
  have hlatest : (exchanges.foldl (step (fun _ _ => false) {}) (init .slave)).reached.rtake
        kFilterSize =
      List.replicate kFilterSize
        ⟨100000000000, 100000051000, some (101000049000, 101000000000), 1000⟩ := by decide +kernel
  refine ⟨by decide +kernel, fun x hx => ?_⟩
  rw [hlatest] at hx
  obtain rfl := List.eq_of_mem_replicate hx
  exact ⟨by norm_num, fun t3 t4 h => by cases h; norm_num, fun h => by cases h⟩

theorem exchanges_locked :
    (exchanges.foldl (step (fun _ _ => false) {}) (init .slave)).interface.isLocked = true := by
  decide +kernel

theorem getTime_eq_iff_exchanges :
    (exchanges.foldl (step (fun _ _ => false) {}) (init .slave)).interface.getTime 200000000000 =
      u64 ((200000000000 : ℕ) - 50000) ↔ (50000 : ℤ) = 0 :=
  getTime_eq_iff (fun _ _ => false) {} .slave exchanges (by decide) exchanges_exactly exchanges_locked
    200000000000

/-- **Fifty microseconds ahead**, the clock shows a hundred. -/
theorem exchanges_not_masterTime :
    Exactly 50000 1000 (exchanges.foldl (step (fun _ _ => false) {}) (init .slave)).reached ∧
    (exchanges.foldl (step (fun _ _ => false) {}) (init .slave)).interface.isLocked = true ∧
    (exchanges.foldl (step (fun _ _ => false) {}) (init .slave)).interface.getTime 200000000000 =
      200000050000 ∧
    (exchanges.foldl (step (fun _ _ => false) {}) (init .slave)).interface.getTime 200000000000 ≠
      u64 ((200000000000 : ℕ) - 50000) :=
  ⟨exchanges_exactly, exchanges_locked, by decide +kernel, by decide +kernel⟩

end Clock

end Aes67.Ptp
