import Aes67.Ptp.Filters
import Aes67.Ptp.Service

/-!
# The lock that is published

The model of `PTPDInterface`: the driver's one view of its PTP engine, whichever of three it has. It
publishes a copy of the engine's lock, and a measurement is what brings the copy up to date.

* `ServiceReader`: the status `PTPServiceClient` holds, and how old it is;
* `Engine`: the slave of this process, the arbitrator with its slave, or the reader of the daemon's
  statuses; `Engine.isLocked`: the engine's own lock;
* `PTPDInterface` with `start`, `stop`, `slaveEvent`, `monitor`, `receive`, `serviceIteration`;
* `locked_step`: what an event that measures nothing does to the slave's lock;
* `Honest`: a published lock is the engine's; `Refreshed`: nothing takes the engine's lock away
  without a measurement;
* **`honest_iff`**: a run is honest throughout just when it is refreshed throughout.
-/

namespace Aes67.Ptp

/-! ## The engines -/

/-- In milliseconds. -/
def kPTPServiceStaleMs : ℕ := 2000

/-- What `PTPServiceClient` holds of its last status: `haveStatus_`, `status_` and `receivedAt_`. -/
structure ServiceReader where
  haveStatus : Bool := false
  status : PTPServiceStatus := {}
  receivedAt : ℕ := 0

/-- `PTPServiceClient::hasFreshStatus`, at steady time `now` in nanoseconds. -/
def ServiceReader.hasFreshStatus (reader : ServiceReader) (now : ℕ) : Bool :=
  reader.haveStatus && (now - reader.receivedAt) / 1000000 ≤ kPTPServiceStaleMs

/-- `PTPSlave::stop`, where the slave runs. -/
def Slave.stop (s : Slave) : Slave := { s with locked := false }

/-- What `PTPDInterface::init` built: `ptpSlave_`, `ptpArbitrator_` with whether its slave runs, or
`serviceClient_` with the number of the last status handled. `sawLocked` is a trace: whether at the
last turn of the service loop the daemon's status was fresh and said locked. -/
inductive Engine
  | slave (s : Slave)
  | arbitrator (s : Slave) (slaveActive : Bool)
  | service (reader : ServiceReader) (lastServiceSequence : UInt32) (sawLocked : Bool)

/-- The engine's own lock: `PTPSlave::isLocked`, `PTPArbitrator::isSlaveLocked`, or what the daemon
said when it was last asked. -/
def Engine.isLocked : Engine → Bool
  | slave s => s.locked
  | arbitrator s slaveActive => slaveActive && s.locked
  | service _ _ sawLocked => sawLocked

/-- `PTPDInterface`, after `init`, with the two fields of its `PTPState` the clock reads. -/
structure PTPDInterface where
  engine : Engine
  running : Bool := false
  stubMode : Bool := false
  masterOffsetNs : ℤ := 0
  isLocked : Bool := false

namespace PTPDInterface

variable (better : MasterDataset → MasterDataset → Bool) (cfg : SlaveConfig) (p : PTPDInterface)

/-! ## What the interface does -/

/-- The engine was started, and not stopped since. -/
def live : Bool := p.running && !p.stubMode

/-- `onPTPMeasurement`. The argument counts for a daemon only: an engine in this process is asked. -/
def onPTPMeasurement (offsetNs : ℤ) (locked : Bool) : PTPDInterface :=
  { p with
    masterOffsetNs := offsetNs
    isLocked :=
      match p.engine with
      | .arbitrator .. | .slave _ => p.engine.isLocked
      | .service .. => locked }

/-- `start`, where the engine can be started and where it cannot. -/
def start (started : Bool) : PTPDInterface :=
  if p.running then p
  else if p.stubMode then { p with running := true, isLocked := false }
  else
    match p.engine with
    | .service .. => { p with running := true }
    | .arbitrator .. =>
      if started then { p with running := true }
      else { p with running := true, stubMode := true, isLocked := false }
    | .slave s =>
      if started then { p with running := true, engine := .slave s.start }
      else { p with running := true, stubMode := true, isLocked := false }

/-- `stop`. An engine that did not start is left as it is. -/
def stop : PTPDInterface :=
  if !p.running then p
  else
    let engine :=
      if p.stubMode then p.engine
      else
        match p.engine with
        | .service .. => p.engine
        | .arbitrator s slaveActive => .arbitrator (if slaveActive then s.stop else s) false
        | .slave s => .slave s.stop
    { p with running := false, engine := engine, isLocked := false }

/-- The measurement callback, where the slave has measured an offset. -/
def handOn (samples : Slave.Samples) (offsetNs : ℤ) : PTPDInterface :=
  if samples.offsets = [] then p else p.onPTPMeasurement offsetNs true

/-- The running slave of this process takes an event. -/
def slaveEvent (e : Event) : PTPDInterface :=
  if !p.live then p
  else
    match p.engine with
    | .slave s =>
      { p with engine := .slave (s.step better cfg e) }.handOn (s.samples better cfg e)
        (s.step better cfg e).offsetNs
    | .arbitrator s true =>
      { p with engine := .arbitrator (s.step better cfg e) true }.handOn (s.samples better cfg e)
        (s.step better cfg e).offsetNs
    | _ => p

/-- One turn of `PTPArbitrator::monitorThread`: the slave runs while we are not the master. -/
def monitor (weAreMaster started : Bool) : PTPDInterface :=
  if !p.live then p
  else
    match p.engine with
    | .arbitrator s slaveActive =>
      if !weAreMaster && !slaveActive then
        if started then { p with engine := .arbitrator s.start true } else p
      else if weAreMaster && slaveActive then { p with engine := .arbitrator s.stop false }
      else p
    | _ => p

/-- `PTPServiceClient::readLoop` has read a status. -/
def receive (status : PTPServiceStatus) (receivedAt : ℕ) : PTPDInterface :=
  if !p.live then p
  else
    match p.engine with
    | .service _ lastServiceSequence sawLocked =>
      { p with engine := .service ⟨true, status, receivedAt⟩ lastServiceSequence sawLocked }
    | _ => p

/-- One turn of `serviceLoop`. -/
def serviceIteration (now : ℕ) : PTPDInterface :=
  if !p.live then p
  else
    match p.engine with
    | .service reader lastServiceSequence _ =>
      let status := reader.status
      let sawLocked := reader.hasFreshStatus now && status.locked != 0
      if reader.hasFreshStatus now && status.sequence != lastServiceSequence then
        { p with engine := .service reader status.sequence sawLocked }.onPTPMeasurement
          status.offsetNs.toInt (status.locked != 0)
      else if !reader.hasFreshStatus now then
        { p with engine := .service reader lastServiceSequence sawLocked, isLocked := false }
      else { p with engine := .service reader lastServiceSequence sawLocked }
    | _ => p

/-- What happens to the interface, or to its engine. -/
inductive Act
  | start (started : Bool)
  | stop
  | slave (e : Event)
  | monitor (weAreMaster started : Bool)
  | receive (status : PTPServiceStatus) (receivedAt : ℕ)
  | serviceIteration (now : ℕ)

def step : Act → PTPDInterface
  | .start started => p.start started
  | .stop => p.stop
  | .slave e => p.slaveEvent better cfg e
  | .monitor weAreMaster started => p.monitor weAreMaster started
  | .receive status receivedAt => p.receive status receivedAt
  | .serviceIteration now => p.serviceIteration now

/-! ## Honesty -/

/-- A published lock is the engine's. -/
def Honest : Prop := p.isLocked = true → p.engine.isLocked = true

/-- **Nothing takes the engine's lock away without a measurement**: while the lock is published, no
announce times out and no better master announces itself, we do not become the master, and the daemon
does not say unlocked under the number it said locked under. -/
def Refreshed (a : Act) : Prop :=
  p.isLocked = true →
    match a, p.engine with
    | .slave e, .slave s => (s.samples better cfg e).losesMaster = false
    | .slave e, .arbitrator s _ => (s.samples better cfg e).losesMaster = false
    | .monitor weAreMaster _, .arbitrator .. => weAreMaster = false
    | .serviceIteration now, .service reader lastServiceSequence _ =>
      reader.hasFreshStatus now = true → reader.status.sequence = lastServiceSequence →
        reader.status.locked ≠ 0
    | _, _ => True

end PTPDInterface

/-! ## The slave's lock without a measurement -/

namespace Slave

variable {better : MasterDataset → MasterDataset → Bool} {cfg : SlaveConfig} {s s' : Slave}

theorem calculate_of_no_sample (h : s.offsetSample = []) : s.calculateOffsetAndDelay = s := by
  unfold offsetSample at h
  unfold calculateOffsetAndDelay
  cases hsync : s.readSync with
  | none => rfl
  | some times =>
    rw [hsync] at h
    cases hdelay : s.readDelay with
    | none =>
      rw [hdelay] at h
      cases h
    | some requestTimes =>
      rw [hdelay] at h
      cases h

theorem completePdelay_locked (t3MinusT2Ns : ℤ) :
    (s.completePdelay t3MinusT2Ns).locked = s.locked := by
  unfold completePdelay storeFilteredPathDelay
  cases s.readPdelay with
  | none => rfl
  | some times =>
    dsimp only
    split_ifs <;> rfl

theorem announce_locked (header : Header) (data : Datagram) (now : ℕ) :
    (s.handleAnnounce better cfg header data now).locked =
      (s.locked && !(s.samplesOf better (.announce header data now)).losesMaster) := by
  have hfollow : ∀ logInterval, (s.followInterval cfg logInterval).locked = s.locked ∧
      (s.followInterval cfg logInterval).hasMaster = s.hasMaster ∧
      (s.followInterval cfg logInterval).currentMaster = s.currentMaster := fun logInterval => by
    unfold followInterval
    dsimp only
    split_ifs <;> exact ⟨rfl, rfl, rfl⟩
  obtain ⟨hlocked, hmaster, hcurrent⟩ := hfollow header.logMessageInterval
  have hloses : (s.samplesOf better (.announce header data now)).losesMaster =
      (data.length ≥ 64 && s.hasMaster &&
        better (parseAnnounce header data now).dataset s.currentMaster.dataset) := rfl
  rw [hloses]
  unfold handleAnnounce considerMaster
  rw [hmaster, hcurrent]
  split_ifs with h64 hnone hbetter hsame
  · rw [decide_eq_false (not_le.mpr h64), Bool.false_and, Bool.false_and, Bool.not_false,
      Bool.and_true]
  · rw [Bool.not_eq_true' _ |>.mp hnone, Bool.and_false, Bool.false_and, Bool.not_false,
      Bool.and_true]
    exact hlocked
  · have hsome : s.hasMaster = true := by simpa using hnone
    rw [hbetter, hsome, decide_eq_true (not_lt.mp h64), Bool.true_and, Bool.true_and, Bool.not_true,
      Bool.and_false]
  · rw [Bool.eq_false_iff.mpr hbetter, Bool.and_false, Bool.not_false, Bool.and_true]
    exact hlocked
  · rw [Bool.eq_false_iff.mpr hbetter, Bool.and_false, Bool.not_false, Bool.and_true]
    exact hlocked

/-- **A message that measures no offset** takes the lock only with the master. -/
theorem handle_locked (message : Message) (h : (s.samplesOf better message).offsets = []) :
    (s.handle cfg better message).locked =
      (s.locked && !(s.samplesOf better message).losesMaster) := by
  have hcomputed : ∀ s', s.computing message = some s' →
      (s.handle cfg better message).locked =
        (s.locked && !(s.samplesOf better message).losesMaster) := by
    intro s' hs
    rw [samplesOf_of_computing hs] at h ⊢
    rw [handle_of_computing hs, calculate_of_no_sample h, (computing_sameFilters hs).locked,
      Bool.not_false, Bool.and_true]
  cases message with
  | sync header data receiveTimeNs =>
    by_cases htwo : header.isTwoStep
    · have hnone : s.computing (.sync header data receiveTimeNs) = none := if_pos htwo
      have hhandle : s.handle cfg better (.sync header data receiveTimeNs) =
          s.recordSync header data receiveTimeNs := if_pos htwo
      have hsamples : s.samplesOf better (.sync header data receiveTimeNs) = {} :=
        samplesOf_sync_of_none hnone
      rw [hhandle, hsamples, recordSync, if_pos htwo, Bool.not_false, Bool.and_true]
    · exact hcomputed _ (if_neg htwo)
  | followUp header data => exact hcomputed _ rfl
  | delayResp header data => exact hcomputed _ rfl
  | pdelayResp header data receiveTimeNs =>
    have hrecorded : (s.recordPdelayResp header data receiveTimeNs).locked = s.locked := rfl
    unfold handle samplesOf
    dsimp only
    rw [Bool.not_false, Bool.and_true]
    split_ifs
    · exact hrecorded
    · rw [completePdelay_locked, hrecorded]
  | pdelayFollowUp header data =>
    have hloses : (s.samplesOf better (.pdelayFollowUp header data)).losesMaster = false := rfl
    rw [hloses, Bool.not_false, Bool.and_true]
    exact completePdelay_locked _
  | announce header data now => exact announce_locked header data now

theorem request_locked (sendTimeNs : ℕ) (sent : Bool) :
    (s.request cfg sendTimeNs sent).locked = s.locked := by
  unfold request sendPdelayReq sendDelayReq
  dsimp only
  cases cfg.delayMechanism <;> dsimp only <;> split_ifs <;> rfl

/-- **An event that measures no offset** takes the lock only with the master. -/
theorem locked_step (e : Event) (h : (s.samples better cfg e).offsets = []) :
    (s.step better cfg e).locked = (s.locked && !(s.samples better cfg e).losesMaster) := by
  cases e with
  | datagram data receiveTimeNs onEventSocket now =>
    rw [step_datagram]
    unfold samples at h ⊢
    dsimp only at h ⊢
    cases hmessage : s.messageOf cfg (.datagram data receiveTimeNs onEventSocket now) with
    | none => rw [Bool.not_false, Bool.and_true]
    | some message =>
      rw [hmessage] at h
      exact handle_locked message h
  | request sendTimeNs sent =>
    have hloses : (s.samples better cfg (.request sendTimeNs sent)).losesMaster = false := rfl
    rw [hloses, Bool.not_false, Bool.and_true]
    exact request_locked sendTimeNs sent
  | checkAnnounceTimeout now =>
    unfold step checkAnnounceTimeout samples
    dsimp only
    split_ifs with hlost
    · rw [hlost, Bool.not_true, Bool.and_false]
    · rw [Bool.eq_false_iff.mpr hlost, Bool.not_false, Bool.and_true]

/-- An event that measures an offset keeps the master. -/
theorem losesMaster_of_offsets (e : Event) (h : (s.samples better cfg e).offsets ≠ []) :
    (s.samples better cfg e).losesMaster = false := by
  cases e with
  | datagram data receiveTimeNs onEventSocket now =>
    unfold samples at h ⊢
    dsimp only at h ⊢
    cases hmessage : s.messageOf cfg (.datagram data receiveTimeNs onEventSocket now) with
    | none => rfl
    | some message =>
      rw [hmessage] at h
      dsimp only at h ⊢
      cases message with
      | sync header data receiveTimeNs =>
        cases hcomputing : s.computing (.sync header data receiveTimeNs) with
        | none => rw [samplesOf_sync_of_none hcomputing]
        | some s' => rw [samplesOf_of_computing hcomputing]
      | followUp header data => rfl
      | delayResp header data => rfl
      | pdelayResp header data receiveTimeNs => rfl
      | pdelayFollowUp header data => rfl
      | announce header data now => exact absurd rfl h
  | request sendTimeNs sent => rfl
  | checkAnnounceTimeout now => exact absurd rfl h

end Slave

/-! ## Every state of a run -/

namespace PTPDInterface

variable {better : MasterDataset → MasterDataset → Bool} {cfg : SlaveConfig} {p : PTPDInterface}

/-- Without a running engine there is no lock. -/
def Off (p : PTPDInterface) : Prop := p.live = false → p.isLocked = false

structure Inv (p : PTPDInterface) : Prop where
  honest : p.Honest
  off : p.Off

theorem Honest.of_unlocked (h : p.isLocked = false) : p.Honest := fun hlocked => by
  rw [h] at hlocked
  cases hlocked

theorem Refreshed.of_unlocked (h : p.isLocked = false) (a : Act) : p.Refreshed better cfg a :=
  fun hlocked => by
    rw [h] at hlocked
    cases hlocked

theorem inv_init (engine : Engine) : ({ engine := engine } : PTPDInterface).Inv :=
  ⟨.of_unlocked rfl, fun _ => rfl⟩

/-- A step that leaves an idle interface as it was, or a live one live. -/
theorem Off.of {q : PTPDInterface} (h : p.Off) (hsame : p.live = false → q = p)
    (hlive : p.live = true → q.live = true) : q.Off := fun hq => by
  cases hp : p.live with
  | false =>
    rw [hsame hp]
    exact h hp
  | true =>
    rw [hlive hp] at hq
    cases hq

theorem start_unlocked (h : p.Off) (hrunning : p.running = false) (started : Bool) :
    (p.start started).isLocked = false := by
  have hoff : p.isLocked = false := h (by rw [live, hrunning, Bool.false_and])
  unfold start
  rw [hrunning, if_neg Bool.false_ne_true]
  by_cases hstub : p.stubMode = true
  · rw [if_pos hstub]
  · rw [if_neg hstub]
    cases p.engine with
    | service reader lastServiceSequence sawLocked => exact hoff
    | slave s | arbitrator s slaveActive =>
      cases started with
      | true => exact hoff
      | false => rfl

theorem start_of_running (hrunning : p.running = true) (started : Bool) : p.start started = p :=
  if_pos hrunning

theorem stop_unlocked (h : p.Off) : p.stop.isLocked = false := by
  unfold stop
  cases hrunning : p.running with
  | true => rfl
  | false => exact h (by rw [live, hrunning, Bool.false_and])

/-- **One event of a slave**: the lock is honest behind it just when it was measured, or kept. -/
theorem handOn_honest_iff {s : Slave} {e : Event} {q : PTPDInterface}
    (hengine : q.engine.isLocked = (s.step better cfg e).locked)
    (hmeasured : ∀ offsetNs locked, (q.onPTPMeasurement offsetNs locked).isLocked =
      q.engine.isLocked)
    (hbefore : q.isLocked = true → s.locked = true) (offsetNs : ℤ) :
    (q.handOn (s.samples better cfg e) offsetNs).Honest ↔
      (q.isLocked = true → (s.samples better cfg e).losesMaster = false) := by
  unfold handOn
  split_ifs with hnone
  · have hstep := Slave.locked_step e hnone
    unfold Honest
    rw [hengine, hstep]
    refine forall_congr' fun hlocked => ?_
    rw [hbefore hlocked, Bool.true_and, Bool.not_eq_true']
  · refine iff_of_true (fun hlocked => ?_) fun _ => Slave.losesMaster_of_offsets e hnone
    rw [hmeasured] at hlocked
    exact hlocked

theorem slaveEvent_honest_iff (h : p.Inv) (e : Event) :
    (p.slaveEvent better cfg e).Honest ↔ p.Refreshed better cfg (.slave e) := by
  have hbefore := h.honest
  unfold slaveEvent
  cases hlive : p.live with
  | false => exact iff_of_true h.honest (.of_unlocked (h.off hlive) _)
  | true =>
    rw [Bool.not_true, if_neg Bool.false_ne_true]
    unfold Honest at hbefore
    unfold Refreshed
    cases hengine : p.engine with
    | slave s =>
      rw [hengine] at hbefore
      exact handOn_honest_iff (q := { p with engine := .slave (s.step better cfg e) }) rfl
        (fun _ _ => rfl) hbefore _
    | arbitrator s slaveActive =>
      rw [hengine] at hbefore
      cases slaveActive with
      | true =>
        exact handOn_honest_iff (q := { p with engine := .arbitrator (s.step better cfg e) true })
          (Bool.true_and _) (fun _ _ => rfl) hbefore _
      | false =>
        refine iff_of_true h.honest fun hlocked => ?_
        cases hbefore hlocked
    | service reader lastServiceSequence sawLocked => exact iff_of_true h.honest fun _ => trivial

theorem monitor_honest_iff (h : p.Inv) (weAreMaster started : Bool) :
    (p.monitor weAreMaster started).Honest ↔
      p.Refreshed better cfg (.monitor weAreMaster started) := by
  have hbefore := h.honest
  unfold monitor
  cases hlive : p.live with
  | false => exact iff_of_true h.honest (.of_unlocked (h.off hlive) _)
  | true =>
    rw [Bool.not_true, if_neg Bool.false_ne_true]
    unfold Honest at hbefore
    unfold Refreshed
    cases hengine : p.engine with
    | slave s => exact iff_of_true h.honest fun _ => trivial
    | service reader lastServiceSequence sawLocked => exact iff_of_true h.honest fun _ => trivial
    | arbitrator s slaveActive =>
      rw [hengine] at hbefore
      dsimp only
      cases slaveActive with
      | false =>
        have hunlocked : p.isLocked = false := by
          cases hlocked : p.isLocked with
          | false => rfl
          | true => cases hbefore hlocked
        refine iff_of_true ?_ fun hlocked => absurd hlocked ?_
        · split_ifs <;> exact .of_unlocked hunlocked
        · rw [hunlocked]
          exact Bool.false_ne_true
      | true =>
        cases weAreMaster with
        | false => exact iff_of_true h.honest fun _ => rfl
        | true => exact forall_congr' fun _ => iff_of_false Bool.false_ne_true nofun

theorem receive_honest (h : p.Inv) (status : PTPServiceStatus) (receivedAt : ℕ) :
    (p.receive status receivedAt).Honest := by
  have hbefore := h.honest
  unfold Honest at hbefore
  unfold receive
  cases hlive : p.live with
  | false => exact h.honest
  | true =>
    cases hengine : p.engine with
    | slave s => exact h.honest
    | arbitrator s slaveActive => exact h.honest
    | service reader lastServiceSequence sawLocked =>
      rw [hengine] at hbefore
      exact hbefore

/-- **One turn of the service loop** leaves the lock honest unless it meets a fresh status that says
unlocked under the number handled last. -/
theorem serviceIteration_honest_iff (h : p.Inv) (now : ℕ) :
    (p.serviceIteration now).Honest ↔ p.Refreshed better cfg (.serviceIteration now) := by
  unfold serviceIteration
  cases hlive : p.live with
  | false => exact iff_of_true h.honest (.of_unlocked (h.off hlive) _)
  | true =>
    rw [Bool.not_true, if_neg Bool.false_ne_true]
    unfold Refreshed
    cases hengine : p.engine with
    | slave s => exact iff_of_true h.honest fun _ => trivial
    | arbitrator s slaveActive => exact iff_of_true h.honest fun _ => trivial
    | service reader lastServiceSequence sawLocked =>
      dsimp only
      cases hfresh : reader.hasFreshStatus now with
      | false =>
        rw [Bool.false_and, if_neg Bool.false_ne_true, Bool.not_false, if_pos rfl]
        exact iff_of_true (.of_unlocked rfl) fun _ hfresh' => absurd hfresh' Bool.false_ne_true
      | true =>
        rw [Bool.true_and, Bool.true_and, Bool.not_true, if_neg Bool.false_ne_true]
        split_ifs with hnew
        · refine iff_of_true (fun hlocked => hlocked) fun _ _ hsame => ?_
          exact absurd hsame (bne_iff_ne.mp hnew)
        · have hsame : reader.status.sequence = lastServiceSequence := by simpa using hnew
          refine forall_congr' fun _ => ?_
          show (reader.status.locked != 0) = true ↔ _
          rw [bne_iff_ne]
          exact ⟨fun h _ _ => h, fun h => h rfl hsame⟩

theorem slaveEvent_live (hlive : p.live = true) (e : Event) :
    (p.slaveEvent better cfg e).live = true := by
  unfold slaveEvent handOn
  rw [hlive, Bool.not_true, if_neg Bool.false_ne_true]
  split
  · split_ifs <;> exact hlive
  · split_ifs <;> exact hlive
  · exact hlive

theorem monitor_live (hlive : p.live = true) (weAreMaster started : Bool) :
    (p.monitor weAreMaster started).live = true := by
  unfold monitor
  rw [hlive, Bool.not_true, if_neg Bool.false_ne_true]
  split
  · split_ifs <;> exact hlive
  · exact hlive

theorem receive_live (hlive : p.live = true) (status : PTPServiceStatus) (receivedAt : ℕ) :
    (p.receive status receivedAt).live = true := by
  unfold receive
  rw [hlive, Bool.not_true, if_neg Bool.false_ne_true]
  split <;> exact hlive

theorem serviceIteration_live (hlive : p.live = true) (now : ℕ) :
    (p.serviceIteration now).live = true := by
  unfold serviceIteration
  rw [hlive, Bool.not_true, if_neg Bool.false_ne_true]
  split
  · dsimp only
    split_ifs <;> exact hlive
  · exact hlive

theorem Off.step (h : p.Off) (a : Act) : (p.step better cfg a).Off := by
  have hidle : p.live = false → (!p.live) = true := fun hlive => by rw [hlive, Bool.not_false]
  cases a with
  | start started =>
    cases hrunning : p.running with
    | true =>
      rw [PTPDInterface.step, start_of_running hrunning started]
      exact h
    | false => exact fun _ => start_unlocked h hrunning started
  | stop => exact fun _ => stop_unlocked h
  | slave e => exact h.of (fun hlive => if_pos (hidle hlive)) fun hlive => slaveEvent_live hlive e
  | monitor weAreMaster started =>
    exact h.of (fun hlive => if_pos (hidle hlive)) fun hlive => monitor_live hlive _ _
  | receive status receivedAt =>
    exact h.of (fun hlive => if_pos (hidle hlive)) fun hlive => receive_live hlive _ _
  | serviceIteration now =>
    exact h.of (fun hlive => if_pos (hidle hlive)) fun hlive => serviceIteration_live hlive _

/-- **One step** leaves the interface honest just when it is refreshed. -/
theorem Inv.step_iff (h : p.Inv) (a : Act) :
    (p.step better cfg a).Inv ↔ p.Refreshed better cfg a := by
  have honest_iff : (p.step better cfg a).Honest ↔ p.Refreshed better cfg a := by
    cases a with
    | start started =>
      refine iff_of_true ?_ fun _ => trivial
      cases hrunning : p.running with
      | true =>
        rw [step, start_of_running hrunning started]
        exact h.honest
      | false => exact .of_unlocked (start_unlocked h.off hrunning started)
    | stop => exact iff_of_true (.of_unlocked (stop_unlocked h.off)) fun _ => trivial
    | slave e => exact slaveEvent_honest_iff h e
    | monitor weAreMaster started => exact monitor_honest_iff h weAreMaster started
    | receive status receivedAt =>
      exact iff_of_true (receive_honest h status receivedAt) fun _ => trivial
    | serviceIteration now => exact serviceIteration_honest_iff h now
  exact ⟨fun hinv => honest_iff.mp hinv.honest,
    fun hrefreshed => ⟨honest_iff.mpr hrefreshed, h.off.step a⟩⟩

/-- **A run is honest throughout just when it is refreshed throughout**, over any engine. -/
theorem honest_iff (better : MasterDataset → MasterDataset → Bool) (cfg : SlaveConfig)
    (engine : Engine) (acts : List Act) :
    Always (step better cfg) Honest { engine := engine } acts ↔
      Along (step better cfg) (Refreshed better cfg) { engine := engine } acts := by
  have hoff : Always (step better cfg) Off { engine := engine } acts :=
    always_of_step (fun _ a h => h.step a) (inv_init engine).off
  have hinv : Always (step better cfg) Inv { engine := engine } acts ↔
      Along (step better cfg) (Refreshed better cfg) { engine := engine } acts :=
    always_iff_along (fun _ a h => h.step_iff a) (inv_init engine)
  rw [← hinv]
  constructor
  · intro h
    exact (h.and hoff).imp fun _ hp => ⟨hp.1, hp.2⟩
  · intro h
    exact h.imp fun _ hp => hp.honest

/-- An Announce of a master at steady time `now`. -/
def announceAt (now : ℕ) : Act :=
  .slave (.datagram ([0x0B, 2, 0, 64] ++ List.replicate 60 0) 0 false now)

/-- A slave hears a master, measures no offset against it eight times, and hears of it no more. -/
def silence : List Act :=
  .start true :: announceAt 0 ::
    ([1, 2, 3, 4, 5, 6, 7, 8].flatMap (Servo.syncAt 100000000000)).map (fun i => .slave i.1) ++
    [.slave (.checkAnnounceTimeout 4000000000)]

/-- **The lock outlives its evidence**: the slave has lost its master, and its lock is published. -/
theorem silence_not_honest :
    ¬ Always (step (fun _ _ => false) {}) Honest { engine := .slave {} } silence := by
  have hlast : (silence.foldl (step (fun _ _ => false) {}) { engine := .slave {} }).isLocked = true ∧
      (silence.foldl (step (fun _ _ => false) {}) { engine := .slave {} }).engine.isLocked =
        false := by decide +kernel
  intro h
  have hlocked := h.run hlast.1
  rw [hlast.2] at hlocked
  exact Bool.false_ne_true hlocked

end PTPDInterface

end Aes67.Ptp
