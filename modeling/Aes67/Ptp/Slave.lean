import Aes67.Lib.Run
import Aes67.Ptp.Wire

/-!
# The PTP slave

The model of `PTPSlave`: one record for the selected master, one for the Sync awaiting its
Follow_Up, one for the Delay_Req awaiting its answer, one for the peer delay exchange, and the
filters behind the published offset and path delay.

Each handler is written as the critical sections of the source: what is recorded under a lock
(`recordSync`, `recordDelayResp`, …), what is read under one (`readSync`, `readDelay`,
`readPdelay`), and the arithmetic between them. The comparison `better` of two datasets is a
parameter.

* `Slave`, `SlaveConfig`; `History`: the ring of the last eight samples;
* `handleSync`, `handleFollowUp`, `handleDelayResp`, `handleAnnounce`, the peer delay handlers,
  `sendDelayReq`, `sendPdelayReq`, `checkAnnounceTimeout`;
* `Event`, `Slave.step`: one datagram, request or timeout check;
* **`calculateOffsetAndDelay_frame`**: the computation touches the filters only.
-/

namespace Aes67.Ptp

/-! ## Configuration and state -/

/-- `DelayMechanism`. -/
inductive DelayMechanism
  | EndToEnd | PeerToPeer
  deriving DecidableEq

/-- `PTPSlaveConfig`, the settings the state machine reads, and the port's own identity. -/
structure SlaveConfig where
  domain : ℤ := 0
  announceTimeoutMultiplier : ℤ := 3
  announceIntervalMs : ℤ := 1000
  twoStepOnly : Bool := true
  followAdvertisedIntervals : Bool := true
  minLogInterval : ℤ := -5
  maxLogInterval : ℤ := 5
  majorSdoId : ℕ := 0
  enforceMajorSdoId : Bool := true
  delayMechanism : DelayMechanism := .EndToEnd
  selfPortId : PortIdentity := {}

/-- `kOffsetFilterSize` and `kDelayFilterSize`. -/
def kFilterSize : ℕ := 8

/-- A ring of the last `kFilterSize` samples. -/
structure History where
  cells : List ℤ := List.replicate kFilterSize 0
  index : ℕ := 0
  count : ℕ := 0
  deriving DecidableEq

/-- Write a sample over the oldest one. -/
def History.push (h : History) (sample : ℤ) : History where
  cells := h.cells.set h.index sample
  index := (h.index + 1) % kFilterSize
  count := if h.count < kFilterSize then h.count + 1 else h.count

/-- The samples written so far, in cell order. -/
def History.recent (h : History) : List ℤ := h.cells.take h.count

/-- `PTPSlave`. Times of this clock are unsigned 64-bit nanoseconds. -/
structure Slave where
  -- the selected master
  hasMaster : Bool := false
  currentMaster : AnnounceData := {}
  grandmasterIdentity : ClockIdentity := 0
  advertisedAnnounceIntervalMs : ℤ := 0
  -- the Sync awaiting its Follow_Up
  syncCount : ℕ := 0
  lastSyncSequenceId : ℕ := 0
  t2ReceiveTimeNs : ℕ := 0
  waitingForFollowUp : Bool := false
  syncCorrectionField : ℤ := 0
  t1SyncOriginTimestamp : Timestamp := {}
  -- the Delay_Req awaiting its Delay_Resp
  delayReqSequenceId : ℕ := 0
  t3DelayReqSendTimeNs : ℕ := 0
  waitingForDelayResp : Bool := false
  t4DelayRespReceiveTimestamp : Timestamp := {}
  -- the peer delay exchange
  pdelayReqSequenceId : ℕ := 0
  t1PdelayReqSendTimeNs : ℕ := 0
  t4PdelayRespReceiveTimeNs : ℕ := 0
  t2PdelayRequestReceipt : Timestamp := {}
  pdelayCorrectionNs : ℤ := 0
  waitingForPdelayResp : Bool := false
  waitingForPdelayFollowUp : Bool := false
  -- the filters and what is published
  offsetHistory : History := {}
  delayHistory : History := {}
  consecutiveGoodMeasurements : ℤ := 0
  offsetNs : ℤ := 0
  pathDelayNs : ℤ := 0
  locked : Bool := false
  deriving DecidableEq

/-- `kLockThreshold`. -/
def kLockThreshold : ℤ := 8

/-- `kLockToleranceNs`. -/
def kLockToleranceNs : ℤ := 10000000

variable (better : MasterDataset → MasterDataset → Bool) (cfg : SlaveConfig)

namespace Slave

variable (s : Slave)

/-! ## Offset and path delay -/

/-- `storeFilteredPathDelay`: the smallest recent sample is published. -/
def storeFilteredPathDelay (delayNs : ℤ) : Slave :=
  if delayNs < 0 then s
  else
    let delayHistory := s.delayHistory.push delayNs
    { s with
      delayHistory := delayHistory
      pathDelayNs := delayHistory.recent.foldl min delayNs }

/-- The Sync times `calculateOffsetAndDelay` reads under the sync lock: `t1` and `t2`. -/
def readSync : Option (ℤ × ℤ) :=
  if s.waitingForFollowUp then none
  else if s.t1SyncOriginTimestamp.isZero then none
  else some (i64 s.t1SyncOriginTimestamp.toNanoseconds, i64 s.t2ReceiveTimeNs)

/-- The request times `calculateOffsetAndDelay` reads under the delay lock: `t3` and `t4`. -/
def readDelay : Option (ℤ × ℤ) :=
  if !s.waitingForDelayResp && s.t3DelayReqSendTimeNs != 0 &&
      !s.t4DelayRespReceiveTimestamp.isZero then
    some (i64 s.t3DelayReqSendTimeNs, i64 s.t4DelayRespReceiveTimestamp.toNanoseconds)
  else none

/-- The offset and the path delay of four times. -/
def fullSample (t1 t2 t3 t4 : ℤ) : ℤ × ℤ :=
  let ms2slave := i64 (t2 - t1)
  let slave2m := i64 (t4 - t3)
  ((i64 (ms2slave - slave2m)).tdiv 2, (i64 (ms2slave + slave2m)).tdiv 2)

/-- Filter an offset, publish it and decide the lock. -/
def publishOffset (offset : ℤ) : Slave :=
  let offsetHistory := s.offsetHistory.push offset
  let filteredOffset := (i64 offsetHistory.recent.sum).tdiv offsetHistory.count
  let good :=
    if (filteredOffset.natAbs : ℤ) < kLockToleranceNs then
      if s.consecutiveGoodMeasurements < kLockThreshold * 2 then s.consecutiveGoodMeasurements + 1
      else s.consecutiveGoodMeasurements
    else max 0 (s.consecutiveGoodMeasurements - 1)
  { s with
    offsetHistory := offsetHistory
    offsetNs := filteredOffset
    consecutiveGoodMeasurements := good
    locked := good ≥ kLockThreshold }

/-- The computation of `calculateOffsetAndDelay` on the times it has read. -/
def applySample (t1 t2 : ℤ) : Option (ℤ × ℤ) → Slave
  | some (t3, t4) =>
    let (offset, delay) := fullSample t1 t2 t3 t4
    (s.storeFilteredPathDelay delay).publishOffset offset
  | none => s.publishOffset (i64 (i64 (t2 - t1) - s.pathDelayNs))

/-- `calculateOffsetAndDelay`. -/
def calculateOffsetAndDelay : Slave :=
  match s.readSync with
  | none => s
  | some (t1, t2) => s.applySample t1 t2 s.readDelay

/-! ## Sync, Follow_Up and Delay_Resp -/

/-- Whether `handleSync` takes the message. -/
def acceptsSync (header : Header) (data : Datagram) : Bool :=
  data.length ≥ 44 && (header.isTwoStep || !cfg.twoStepOnly)

/-- What `handleSync` records under the sync lock. A one-step Sync carries `t1` itself. -/
def recordSync (header : Header) (data : Datagram) (receiveTimeNs : ℕ) : Slave :=
  let s := { s with
    syncCount := s.syncCount + 1
    t2ReceiveTimeNs := receiveTimeNs
    lastSyncSequenceId := header.sequenceId
    syncCorrectionField := header.correctionField }
  if header.isTwoStep then { s with waitingForFollowUp := true }
  else { s with
    t1SyncOriginTimestamp := parseTimestamp data kTimestampOffset
    waitingForFollowUp := false }

/-- `handleSync`. -/
def handleSync (header : Header) (data : Datagram) (receiveTimeNs : ℕ) : Slave :=
  if !acceptsSync cfg header data then s
  else
    let s := s.recordSync header data receiveTimeNs
    if header.isTwoStep then s else s.calculateOffsetAndDelay

/-- Whether `handleFollowUp` takes the message. -/
def acceptsFollowUp (header : Header) (data : Datagram) : Bool :=
  data.length ≥ 44 && s.waitingForFollowUp && header.sequenceId = s.lastSyncSequenceId

/-- What `handleFollowUp` records under the sync lock. -/
def recordFollowUp (header : Header) (data : Datagram) : Slave :=
  let totalCorrectionFixed := i64 (s.syncCorrectionField + header.correctionField)
  let correctionNs := totalCorrectionFixed / 2 ^ 16
  let t1Ns := u64 ((parseTimestamp data kTimestampOffset).toNanoseconds + correctionNs)
  { s with t1SyncOriginTimestamp := .ofNs t1Ns, waitingForFollowUp := false }

/-- `handleFollowUp`. -/
def handleFollowUp (header : Header) (data : Datagram) : Slave :=
  if !s.acceptsFollowUp header data then s
  else (s.recordFollowUp header data).calculateOffsetAndDelay

/-- Whether `handleDelayResp` takes the message. -/
def acceptsDelayResp (header : Header) (data : Datagram) : Bool :=
  data.length ≥ 54 && s.waitingForDelayResp && header.sequenceId = s.delayReqSequenceId &&
    parsePortIdentity data kRequestingPortOffset = cfg.selfPortId

/-- What `handleDelayResp` records under the delay lock. -/
def recordDelayResp (header : Header) (data : Datagram) : Slave :=
  let correctionNs := header.correctionField / 2 ^ 16
  let t4Ns := u64 ((parseTimestamp data kTimestampOffset).toNanoseconds + correctionNs)
  { s with t4DelayRespReceiveTimestamp := .ofNs t4Ns, waitingForDelayResp := false }

/-- `handleDelayResp`. -/
def handleDelayResp (header : Header) (data : Datagram) : Slave :=
  if !s.acceptsDelayResp cfg header data then s
  else (s.recordDelayResp header data).calculateOffsetAndDelay

/-! ## Delay requests -/

/-- The sequence id of the next Delay_Req, taken under the delay lock. -/
def advanceDelayReq : Slave :=
  { s with delayReqSequenceId := (s.delayReqSequenceId + 1) % 2 ^ 16 }

/-- What `sendDelayReq` stores once the message is out. -/
def storeDelayReq (t3 : ℕ) : Slave :=
  { s with t3DelayReqSendTimeNs := t3, waitingForDelayResp := true }

/-- `sendDelayReq`, sent at `t3`; `sent` is what the socket answers. -/
def sendDelayReq (t3 : ℕ) (sent : Bool) : Slave :=
  let s := s.advanceDelayReq
  if sent then s.storeDelayReq t3 else s

/-- The sequence id of the next Pdelay_Req. -/
def advancePdelayReq : Slave :=
  { s with pdelayReqSequenceId := (s.pdelayReqSequenceId + 1) % 2 ^ 16 }

/-- What `sendPdelayReq` stores once the message is out. -/
def storePdelayReq (t1 : ℕ) : Slave :=
  { s with
    t1PdelayReqSendTimeNs := t1
    t4PdelayRespReceiveTimeNs := 0
    t2PdelayRequestReceipt := {}
    pdelayCorrectionNs := 0
    waitingForPdelayResp := true
    waitingForPdelayFollowUp := false }

/-- `sendPdelayReq`. -/
def sendPdelayReq (t1 : ℕ) (sent : Bool) : Slave :=
  let s := s.advancePdelayReq
  if sent then s.storePdelayReq t1 else s

/-! ## Peer delay -/

/-- The checks `handlePdelayResp` and `handlePdelayRespFollowUp` share. -/
def forThisPort (data : Datagram) : Bool :=
  cfg.delayMechanism = .PeerToPeer && data.length ≥ 54 &&
    parsePortIdentity data kRequestingPortOffset = cfg.selfPortId

/-- Whether `handlePdelayResp` takes the message. -/
def acceptsPdelayResp (header : Header) (data : Datagram) : Bool :=
  forThisPort cfg data && s.waitingForPdelayResp && header.sequenceId = s.pdelayReqSequenceId

/-- What `handlePdelayResp` records under the peer delay lock. -/
def recordPdelayResp (header : Header) (data : Datagram) (receiveTimeNs : ℕ) : Slave :=
  { s with
    t2PdelayRequestReceipt := parseTimestamp data kTimestampOffset
    t4PdelayRespReceiveTimeNs := receiveTimeNs
    pdelayCorrectionNs := i64 (s.pdelayCorrectionNs + header.correctionField / 2 ^ 16)
    waitingForPdelayResp := false
    waitingForPdelayFollowUp := header.isTwoStep }

/-- The times `completePdelay` reads under the lock: `t1`, `t4` and the correction. -/
def readPdelay : Option (ℤ × ℤ × ℤ) :=
  if s.t1PdelayReqSendTimeNs = 0 ∨ s.t4PdelayRespReceiveTimeNs = 0 then none
  else some (i64 s.t1PdelayReqSendTimeNs, i64 s.t4PdelayRespReceiveTimeNs, s.pdelayCorrectionNs)

/-- The link delay of one peer exchange. -/
def linkDelay (t1 t4 correctionNs t3MinusT2Ns : ℤ) : ℤ :=
  (i64 (i64 (i64 (t4 - t1) - t3MinusT2Ns) - correctionNs)).tdiv 2

/-- `completePdelay`. -/
def completePdelay (t3MinusT2Ns : ℤ) : Slave :=
  match s.readPdelay with
  | none => s
  | some (t1, t4, correctionNs) =>
    s.storeFilteredPathDelay (linkDelay t1 t4 correctionNs t3MinusT2Ns)

/-- `handlePdelayResp`. A one-step answer leaves nothing to wait for. -/
def handlePdelayResp (header : Header) (data : Datagram) (receiveTimeNs : ℕ) : Slave :=
  if !s.acceptsPdelayResp cfg header data then s
  else
    let s := s.recordPdelayResp header data receiveTimeNs
    if header.isTwoStep then s else s.completePdelay 0

/-- Whether `handlePdelayRespFollowUp` takes the message. -/
def acceptsPdelayFollowUp (header : Header) (data : Datagram) : Bool :=
  forThisPort cfg data && s.waitingForPdelayFollowUp && header.sequenceId = s.pdelayReqSequenceId

/-- The turnaround `handlePdelayRespFollowUp` computes under the lock. -/
def turnaround (data : Datagram) : ℤ :=
  i64 (i64 (parseTimestamp data kTimestampOffset).toNanoseconds -
    i64 s.t2PdelayRequestReceipt.toNanoseconds)

/-- What `handlePdelayRespFollowUp` records under the peer delay lock. -/
def recordPdelayFollowUp (header : Header) : Slave :=
  { s with
    pdelayCorrectionNs := i64 (s.pdelayCorrectionNs + header.correctionField / 2 ^ 16)
    waitingForPdelayFollowUp := false }

/-- `handlePdelayRespFollowUp`. -/
def handlePdelayRespFollowUp (header : Header) (data : Datagram) : Slave :=
  if !s.acceptsPdelayFollowUp cfg header data then s
  else (s.recordPdelayFollowUp header).completePdelay (s.turnaround data)

/-! ## Masters -/

/-- `ptpLogIntervalToMilliseconds`. -/
def ptpLogIntervalToMilliseconds (logInterval : ℤ) : ℤ :=
  if 0 ≤ logInterval then
    if logInterval > 21 then 0 else 1000 * 2 ^ logInterval.toNat
  else if logInterval < -9 then 0
  else
    let divisor := 2 ^ (-logInterval).toNat
    (1000 + divisor / 2) / divisor

/-- `logIntervalToMs`: zero for an interval that is not followed. -/
def logIntervalToMs (logInterval : ℤ) : ℤ :=
  if logInterval = 0x7F then 0
  else if logInterval < cfg.minLogInterval ∨ logInterval > cfg.maxLogInterval then 0
  else ptpLogIntervalToMilliseconds logInterval

/-- Select the master of an Announce. -/
def select (announce : AnnounceData) : Slave :=
  { s with
    hasMaster := true
    currentMaster := announce
    grandmasterIdentity := announce.dataset.grandmasterIdentity }

/-- The interval an Announce advertises, where it is to be followed. -/
def followInterval (logInterval : ℤ) : Slave :=
  if cfg.followAdvertisedIntervals then
    let advertised := logIntervalToMs cfg logInterval
    if advertised > 0 then { s with advertisedAnnounceIntervalMs := advertised } else s
  else s

/-- What `handleAnnounce` does with the Announce it has read, under the master lock. -/
def considerMaster (announce : AnnounceData) : Slave :=
  if !s.hasMaster then s.select announce
  else if better announce.dataset s.currentMaster.dataset then
    { s.select announce with locked := false, consecutiveGoodMeasurements := 0 }
  else if announce.dataset.grandmasterIdentity = s.grandmasterIdentity then
    { s with currentMaster := { s.currentMaster with lastReceived := announce.lastReceived } }
  else s

/-- `handleAnnounce`. -/
def handleAnnounce (header : Header) (data : Datagram) (now : ℕ) : Slave :=
  if data.length < 64 then s
  else
    (s.followInterval cfg header.logMessageInterval).considerMaster better
      (parseAnnounce header data now)

/-- The announce timeout, in milliseconds. -/
def announceTimeoutMs : ℤ :=
  let announceIntervalMs :=
    if cfg.followAdvertisedIntervals && s.advertisedAnnounceIntervalMs > 0 then
      s.advertisedAnnounceIntervalMs
    else cfg.announceIntervalMs
  announceIntervalMs * cfg.announceTimeoutMultiplier

/-- The announce timeout check of the receive loop. -/
def checkAnnounceTimeout (now : ℕ) : Slave :=
  if s.hasMaster && ((now - s.currentMaster.lastReceived) / 1000000 : ℕ) > s.announceTimeoutMs cfg
  then { s with hasMaster := false, locked := false, consecutiveGoodMeasurements := 0 }
  else s

/-! ## Dispatch -/

/-- The header of a datagram that passes the version, profile and domain checks. -/
def admittedHeader (data : Datagram) : Option Header :=
  match parseHeader data with
  | none => none
  | some header =>
    if cfg.enforceMajorSdoId && header.getMajorSdoId != cfg.majorSdoId then none
    else if (header.domainNumber : ℤ) ≠ cfg.domain then none
    else some header

/-- `dispatchMessage`, at steady time `now`. A Pdelay_Req is answered and changes nothing here. -/
def dispatchMessage (data : Datagram) (receiveTimeNs : ℕ) (onEventSocket : Bool) (now : ℕ) :
    Slave :=
  match admittedHeader cfg data with
  | none => s
  | some header =>
    match header.getMessageType, onEventSocket with
    | .Sync, true => s.handleSync cfg header data receiveTimeNs
    | .Pdelay_Resp, true => s.handlePdelayResp cfg header data receiveTimeNs
    | .Follow_Up, false => s.handleFollowUp header data
    | .Announce, false => s.handleAnnounce better cfg header data now
    | .Pdelay_Resp_FU, false => s.handlePdelayRespFollowUp cfg header data
    | .Delay_Resp, _ => s.handleDelayResp cfg header data
    | _, _ => s

/-- One turn of `delayReqThread`. End to end it asks only a selected master that has sent a Sync. -/
def request (sendTimeNs : ℕ) (sent : Bool) : Slave :=
  match cfg.delayMechanism with
  | .PeerToPeer => s.sendPdelayReq sendTimeNs sent
  | .EndToEnd => if s.hasMaster && s.syncCount > 0 then s.sendDelayReq sendTimeNs sent else s

/-! ## What the computation leaves alone -/

/-- The two slaves differ in the filters and in what is published from them. -/
def SameInputs (s s' : Slave) : Prop :=
  ∃ offsetHistory delayHistory good offsetNs pathDelayNs locked, s' = { s with
    offsetHistory := offsetHistory, delayHistory := delayHistory
    consecutiveGoodMeasurements := good
    offsetNs := offsetNs, pathDelayNs := pathDelayNs, locked := locked }

theorem SameInputs.refl (s : Slave) : s.SameInputs s := ⟨_, _, _, _, _, _, rfl⟩

theorem SameInputs.trans {s t u : Slave} (h : s.SameInputs t) (h' : t.SameInputs u) :
    s.SameInputs u := by
  obtain ⟨_, _, _, _, _, _, rfl⟩ := h
  obtain ⟨_, _, _, _, _, _, rfl⟩ := h'
  exact ⟨_, _, _, _, _, _, rfl⟩

theorem storeFilteredPathDelay_frame (s : Slave) (delayNs : ℤ) :
    s.SameInputs (s.storeFilteredPathDelay delayNs) := by
  unfold storeFilteredPathDelay
  split_ifs
  · exact .refl s
  · exact ⟨_, _, _, _, _, _, rfl⟩

theorem publishOffset_frame (s : Slave) (offset : ℤ) : s.SameInputs (s.publishOffset offset) := by
  unfold publishOffset
  exact ⟨_, _, _, _, _, _, rfl⟩

theorem applySample_frame (s : Slave) (t1 t2 : ℤ) (delay : Option (ℤ × ℤ)) :
    s.SameInputs (s.applySample t1 t2 delay) := by
  unfold applySample
  split
  · exact (storeFilteredPathDelay_frame s _).trans (publishOffset_frame _ _)
  · exact publishOffset_frame s _

/-- **The computation touches the filters only.** -/
theorem calculateOffsetAndDelay_frame (s : Slave) : s.SameInputs s.calculateOffsetAndDelay := by
  unfold calculateOffsetAndDelay
  split
  · exact .refl s
  · exact applySample_frame s _ _ _

end Slave

/-! ## Runs -/

/-- What happens to the slave: a datagram arrives, the request thread takes a turn, the receive
loop checks for a lost master. -/
inductive Event
  | datagram (data : Datagram) (receiveTimeNs : ℕ) (onEventSocket : Bool) (now : ℕ)
  | request (sendTimeNs : ℕ) (sent : Bool)
  | checkAnnounceTimeout (now : ℕ)

/-- The slave after one event. -/
def Slave.step (s : Slave) : Event → Slave
  | .datagram data receiveTimeNs onEventSocket now =>
    s.dispatchMessage better cfg data receiveTimeNs onEventSocket now
  | .request sendTimeNs sent => s.request cfg sendTimeNs sent
  | .checkAnnounceTimeout now => s.checkAnnounceTimeout cfg now

end Aes67.Ptp
