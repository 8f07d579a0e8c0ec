import Aes67.Lib.Slice
import Aes67.Ptp.Slave

/-!
# What the master writes and the slave reads

The messages of `PTPMaster`, byte by byte, and what `PTPSlave` makes of them. The two engines have
their offsets, shifts and masks each for itself.

* `bytesBE`, **`ofBE_bytesBE`**: numbers as bytes, the high one first;
* `messageHeader`, `buildAnnounce`, `buildSync`, `buildFollowUp`, `buildDelayResp`: what the master
  sends;
* `parseHeader_messageHeader`, `parseTimestamp_of_holds`, `parseAnnounce_buildAnnounce`: what
  the readers find;
* **`wire_agreement`**: the slave has of each message what the master put into it, to the
  nanosecond.
-/

namespace Aes67.Ptp

/-! ## Numbers as bytes -/

/-- The low `n` bytes of a number, the high one first. -/
def bytesBE : ℕ → ℕ → Datagram
  | 0, _ => []
  | n + 1, v => bytesBE n (v / 256) ++ [UInt8.ofNat v]

/-- The number of some bytes. -/
def ofBE (l : Datagram) : ℕ := l.foldl (fun v b => v * 256 + b.toNat) 0

variable {data rest : Datagram} {n offset v : ℕ}

@[simp]
theorem length_bytesBE (n v : ℕ) : (bytesBE n v).length = n := by
  induction n generalizing v with
  | zero => rfl
  | succ n ih => rw [bytesBE, List.length_append, ih, List.length_singleton]

theorem ofBE_concat (l : Datagram) (b : UInt8) : ofBE (l ++ [b]) = ofBE l * 256 + b.toNat :=
  List.foldl_concat ..

/-- **Bytes give back their number.** -/
theorem ofBE_bytesBE (n v : ℕ) : ofBE (bytesBE n v) = v % 256 ^ n := by
  induction n generalizing v with
  | zero => rw [pow_zero, Nat.mod_one]; rfl
  | succ n ih =>
    rw [bytesBE, ofBE_concat, ih, UInt8.toNat_ofNat', pow_succ' 256 n, Nat.mod_mul]
    omega

theorem ofBE_bytesBE_of_lt (h : v < 256 ^ n) : ofBE (bytesBE n v) = v := by
  rw [ofBE_bytesBE, Nat.mod_eq_of_lt h]

theorem readBE_eq (h : offset + n ≤ data.length) :
    readBE data offset n = ofBE ((data.drop offset).take n) := by
  induction n with
  | zero => rfl
  | succ n ih =>
    have hlt : offset + n < data.length := by omega
    rw [readBE, ih (by omega), List.take_add_one, List.getElem?_drop,
      List.getElem?_eq_getElem hlt, Option.toList_some, ofBE_concat, byteAt, List.getD_eq_getElem _ _ hlt]

/-- A field is read where it was written. -/
theorem readBE_of_holds (hfield : Holds data offset (bytesBE n v)) (h : v < 256 ^ n) :
    readBE data offset n = v := by
  rw [Holds, length_bytesBE] at hfield
  have hlen := congrArg List.length hfield
  rw [List.length_take, List.length_drop, length_bytesBE] at hlen
  cases n with
  | zero => exact (Nat.lt_one_iff.mp h).symm
  | succ n => rw [readBE_eq (by omega), hfield, ofBE_bytesBE_of_lt h]

theorem byteAt_of_getElem? {b : UInt8} (h : data[offset]? = some b) : byteAt data offset = b.toNat := by
  rw [byteAt, List.getD_eq_getElem?_getD, h, Option.getD_some]

/-! ## What the master sends -/

/-- A port identity, in the types of the source. -/
structure OwnPort where
  clockIdentity : UInt64
  portNumber : UInt16

def OwnPort.toPortIdentity (port : OwnPort) : PortIdentity where
  clockIdentity := port.clockIdentity.toNat
  portNumber := port.portNumber.toNat

/-- What an Announce carries of a dataset, in the types of the source. -/
structure OwnDataset where
  priority1 : UInt8
  clockClass : UInt8
  clockAccuracy : UInt8
  offsetScaledLogVariance : UInt16
  priority2 : UInt8
  grandmasterIdentity : UInt64
  stepsRemoved : UInt16

def OwnDataset.toDataset (dataset : OwnDataset) (port : OwnPort) : MasterDataset where
  priority1 := dataset.priority1.toNat
  clockClass := dataset.clockClass.toNat
  clockAccuracy := dataset.clockAccuracy.toNat
  offsetScaledLogVariance := dataset.offsetScaledLogVariance.toNat
  priority2 := dataset.priority2.toNat
  grandmasterIdentity := dataset.grandmasterIdentity.toNat
  stepsRemoved := dataset.stepsRemoved.toNat
  portIdentity := port.toPortIdentity

def portBytes (port : OwnPort) : Datagram :=
  bytesBE 8 port.clockIdentity.toNat ++ bytesBE 2 port.portNumber.toNat

/-- The 34 bytes before the body. The version is at 1, the length at 2, the domain at 4, the flags
at 6, the correction at 8, the port at 20, the sequence id at 30, the interval at 33. -/
def messageHeader (type messageLength : UInt8) (domain : ℤ) (flags : UInt16) (port : OwnPort)
    (seqId : UInt16) (controlField : UInt8) (logInterval : Int8) : Datagram :=
  [type, 2, 0, messageLength, .ofInt domain, 0] ++ bytesBE 2 flags.toNat ++ List.replicate 12 0 ++
    portBytes port ++ bytesBE 2 seqId.toNat ++ [controlField, logInterval.toUInt8]

def timestampBytes (t : Timestamp) : Datagram :=
  bytesBE 2 t.secondsHi ++ bytesBE 4 t.secondsLo ++ bytesBE 4 t.nanoseconds

/-- `kFlagTwoStep`. -/
def kFlagTwoStep : UInt16 := 0x0200

/-- The Announce of `sendAnnounce`: the time and the offset at 34 to 46 stay zero, and the dataset
begins at 47. -/
def buildAnnounce (domain : ℤ) (port : OwnPort) (seqId : UInt16) (logAnnounceInterval : Int8)
    (dataset : OwnDataset) (timeSource : UInt8) : Datagram :=
  messageHeader 0x0B 64 domain 0 port seqId 5 logAnnounceInterval ++
    (List.replicate 13 0 ++ [dataset.priority1, dataset.clockClass, dataset.clockAccuracy] ++
      bytesBE 2 dataset.offsetScaledLogVariance.toNat ++ [dataset.priority2] ++
      bytesBE 8 dataset.grandmasterIdentity.toNat ++ bytesBE 2 dataset.stepsRemoved.toNat ++
      [timeSource])

/-- The Sync of `sendSyncAndFollowUp`. -/
def buildSync (domain : ℤ) (port : OwnPort) (seqId : UInt16) (logSyncInterval : Int8) : Datagram :=
  messageHeader 0x00 44 domain kFlagTwoStep port seqId 0 logSyncInterval ++ List.replicate 10 0

/-- The Follow_Up of `sendSyncAndFollowUp`. -/
def buildFollowUp (domain : ℤ) (port : OwnPort) (seqId : UInt16) (t1 : UInt64) : Datagram :=
  messageHeader 0x08 44 domain 0 port seqId 2 0 ++ timestampBytes (.ofNs t1.toNat)

/-- The Delay_Resp of `handleDelayReq`. -/
def buildDelayResp (domain : ℤ) (port : OwnPort) (sequenceId : UInt16)
    (logMinDelayReqInterval : Int8) (t4Ns : UInt64) (requestingPort : OwnPort) : Datagram :=
  messageHeader 0x09 54 domain 0 port sequenceId 3 logMinDelayReqInterval ++
    (timestampBytes (.ofNs t4Ns.toNat) ++ portBytes requestingPort)

/-! ## What is read -/

variable {type messageLength controlField timeSource : UInt8} {domain : ℤ} {flags : UInt16}
  {port requestingPort : OwnPort} {seqId : UInt16} {logInterval : Int8} {t : Timestamp}
  {dataset : OwnDataset}

theorem length_messageHeader :
    (messageHeader type messageLength domain flags port seqId controlField logInterval).length =
      34 := rfl

theorem i8_toUInt8 (l : Int8) : i8 l.toUInt8.toNat = l.toInt := by
  rw [i8, Int8.toInt, BitVec.toInt_eq_toNat_bmod]
  rfl

@[simp]
theorem length_portBytes : (portBytes port).length = 10 := rfl

@[simp]
theorem length_timestampBytes : (timestampBytes t).length = 10 := rfl

theorem parsePortIdentity_of_holds (h : Holds data offset (portBytes port)) :
    parsePortIdentity data offset = port.toPortIdentity := by
  obtain ⟨hidentity, hnumber⟩ := holds_append.mp h
  rw [length_bytesBE] at hnumber
  rw [parsePortIdentity, readBE_of_holds hidentity port.clockIdentity.toNat_lt,
    readBE_of_holds hnumber port.portNumber.toNat_lt]
  rfl

/-- **A timestamp.** -/
theorem parseTimestamp_of_holds (h : Holds data offset (timestampBytes (.ofNs v))) :
    parseTimestamp data offset = .ofNs v := by
  have h1 : v / 1000000000 / 2 ^ 32 % 2 ^ 16 < 256 ^ 2 := by omega
  have h2 : v / 1000000000 % 2 ^ 32 < 256 ^ 4 := by omega
  have h3 : v % 1000000000 < 256 ^ 4 := by omega
  obtain ⟨hseconds, hns⟩ := holds_append.mp h
  obtain ⟨hhi, hlo⟩ := holds_append.mp hseconds
  rw [List.length_append, length_bytesBE, length_bytesBE] at hns
  rw [length_bytesBE] at hlo
  rw [parseTimestamp, readBE_of_holds hhi h1, readBE_of_holds hlo h2, readBE_of_holds hns h3]

/-- Where the fields of a header are. -/
theorem holds_messageHeader (rest : Datagram) :
    let data := messageHeader type messageLength domain flags port seqId controlField logInterval ++ rest
    (data[0]? = some type ∧ data[1]? = some 2 ∧ data[4]? = some (.ofInt domain) ∧
      data[33]? = some logInterval.toUInt8) ∧
    (Holds data 6 (bytesBE 2 flags.toNat) ∧ Holds data 8 (bytesBE 8 0) ∧ Holds data 20 (portBytes port) ∧
      Holds data 30 (bytesBE 2 seqId.toNat)) ∧ Holds data 34 rest := by
  intro data
  have h : Holds data 0 ([type, 2, 0, messageLength, .ofInt domain, 0] ++ bytesBE 2 flags.toNat ++
      (bytesBE 8 0 ++ bytesBE 4 0) ++ portBytes port ++ bytesBE 2 seqId.toNat ++
        [controlField, logInterval.toUInt8] ++ rest) := holds_self
  simp only [holds_append, holds_cons, holds_nil, length_bytesBE, length_portBytes, List.length_append,
    List.length_cons, List.length_nil, Nat.reduceAdd, and_true] at h
  obtain ⟨⟨⟨⟨⟨⟨htype, hversion, -, -, hdomain, -⟩, hflags⟩, hcorrection, -⟩, hport⟩, hseq⟩, -, hinterval⟩ :=
    h.1
  exact ⟨⟨htype, hversion, hdomain, hinterval⟩, ⟨hflags, hcorrection, hport, hseq⟩, h.2⟩

/-- **The header.** -/
theorem parseHeader_messageHeader (rest : Datagram) :
    parseHeader (messageHeader type messageLength domain flags port seqId controlField logInterval ++
      rest) = some
      { transportAndType := type.toNat
        domainNumber := (UInt8.ofInt domain).toNat
        flagField := flags.toNat
        correctionField := 0
        sourcePortIdentity := port.toPortIdentity
        sequenceId := seqId.toNat
        logMessageInterval := logInterval.toInt } := by
  have hlen : ¬ (messageHeader type messageLength domain flags port seqId controlField logInterval ++
      rest).length < kPTPHeaderSize := by
    rw [List.length_append, length_messageHeader, kPTPHeaderSize]
    omega
  obtain ⟨⟨htype, hversion, hdomain, hinterval⟩, ⟨hflags, hcorrection, hport, hseq⟩, -⟩ :=
    @holds_messageHeader type messageLength controlField domain flags port seqId logInterval rest
  rw [parseHeader, if_neg hlen, byteAt_of_getElem? hversion, if_neg (by decide),
    byteAt_of_getElem? htype, byteAt_of_getElem? hdomain, readBE_of_holds hflags flags.toNat_lt,
    readBE_of_holds hcorrection (by decide), parsePortIdentity_of_holds hport,
    readBE_of_holds hseq seqId.toNat_lt, byteAt_of_getElem? hinterval, i8_toUInt8]
  rfl

/-- **An Announce.** -/
theorem parseAnnounce_buildAnnounce (header : Header)
    (hport : header.sourcePortIdentity = port.toPortIdentity) (now : ℕ) :
    parseAnnounce header (buildAnnounce domain port seqId logInterval dataset timeSource) now =
      { dataset := dataset.toDataset port
        timeSource := timeSource.toNat
        logAnnounceInterval := header.logMessageInterval
        lastReceived := now } := by
  obtain ⟨-, -, h⟩ : _ ∧ _ ∧ Holds (buildAnnounce domain port seqId logInterval dataset timeSource) 34 _ :=
    holds_messageHeader _
  simp only [holds_append, holds_cons, holds_nil, length_bytesBE, List.length_replicate, List.length_append,
    List.length_cons, List.length_nil, Nat.reduceAdd, and_true] at h
  obtain ⟨⟨⟨⟨⟨⟨-, hpriority1, hclass, haccuracy⟩, hvariance⟩, hpriority2⟩, hidentity⟩, hsteps⟩, hsource⟩ := h
  rw [parseAnnounce, byteAt_of_getElem? hpriority1, byteAt_of_getElem? hclass,
    byteAt_of_getElem? haccuracy, readBE_of_holds hvariance dataset.offsetScaledLogVariance.toNat_lt,
    byteAt_of_getElem? hpriority2, readBE_of_holds hidentity dataset.grandmasterIdentity.toNat_lt,
    readBE_of_holds hsteps dataset.stepsRemoved.toNat_lt, byteAt_of_getElem? hsource, hport]
  rfl

theorem length_buildSync : (buildSync domain port seqId logInterval).length = 44 := by
  rw [buildSync, List.length_append, length_messageHeader, List.length_replicate]

theorem length_buildFollowUp {t1 : UInt64} : (buildFollowUp domain port seqId t1).length = 44 := by
  rw [buildFollowUp, List.length_append, length_messageHeader, length_timestampBytes]

theorem length_buildDelayResp {t4 : UInt64} :
    (buildDelayResp domain port seqId logInterval t4 requestingPort).length = 54 := by
  rw [buildDelayResp, List.length_append, length_messageHeader, List.length_append,
    length_timestampBytes, length_portBytes]

theorem length_buildAnnounce :
    (buildAnnounce domain port seqId logInterval dataset timeSource).length = 64 := by
  simp only [buildAnnounce, length_messageHeader, length_bytesBE, List.length_append,
    List.length_replicate, List.length_cons, List.length_nil]

theorem parseTimestamp_buildFollowUp {t1 : UInt64} :
    parseTimestamp (buildFollowUp domain port seqId t1) kTimestampOffset = .ofNs t1.toNat :=
  parseTimestamp_of_holds (holds_messageHeader _).2.2

/-- A Delay_Resp holds the time of the request, and whose it was. -/
theorem holds_buildDelayResp {t4 : UInt64} :
    Holds (buildDelayResp domain port seqId logInterval t4 requestingPort) kTimestampOffset
        (timestampBytes (.ofNs t4.toNat)) ∧
      Holds (buildDelayResp domain port seqId logInterval t4 requestingPort) kRequestingPortOffset
        (portBytes requestingPort) :=
  holds_append.mp (holds_messageHeader _).2.2

/-! ## What the slave makes of it -/

/-- What the header of a message says, whatever its body. -/
def ownHeader (type : UInt8) (domain : ℤ) (flags : UInt16) (port : OwnPort) (seqId : UInt16)
    (logInterval : Int8) : Header where
  transportAndType := type.toNat
  domainNumber := (UInt8.ofInt domain).toNat
  flagField := flags.toNat
  sourcePortIdentity := port.toPortIdentity
  sequenceId := seqId.toNat
  logMessageInterval := logInterval.toInt

namespace Slave

variable {s : Slave} {cfg : SlaveConfig} {t1 t4 : UInt64}

theorem SameInputs.sync_eq {s' : Slave} (h : s.SameInputs s') :
    s'.t1SyncOriginTimestamp = s.t1SyncOriginTimestamp ∧
      s'.lastSyncSequenceId = s.lastSyncSequenceId ∧ s'.t2ReceiveTimeNs = s.t2ReceiveTimeNs ∧
      s'.waitingForFollowUp = s.waitingForFollowUp ∧
      s'.t4DelayRespReceiveTimestamp = s.t4DelayRespReceiveTimestamp := by
  obtain ⟨_, _, _, _, _, _, rfl⟩ := h
  exact ⟨rfl, rfl, rfl, rfl, rfl⟩

theorem u64_toNanoseconds {n : ℕ} (h : n < 2 ^ 64) :
    u64 ((Timestamp.ofNs n).toNanoseconds + 0) = n := by
  rw [Timestamp.toNanoseconds_ofNs h, u64, add_zero]
  omega

theorem isTwoStep_ownHeader (type : UInt8) (logInterval : Int8) :
    (ownHeader type domain kFlagTwoStep port seqId logInterval).isTwoStep = true := by
  show decide (kFlagTwoStep.toNat / 0x0200 % 2 = 1) = true
  decide

/-- A two-step Sync is recorded and waits. -/
theorem handleSync_buildSync (t2 : ℕ) (logSyncInterval : Int8) :
    let s' := s.handleSync cfg (ownHeader 0x00 domain kFlagTwoStep port seqId logSyncInterval)
      (buildSync domain port seqId logSyncInterval) t2
    s'.waitingForFollowUp = true ∧ s'.lastSyncSequenceId = seqId.toNat ∧ s'.t2ReceiveTimeNs = t2 ∧
      s'.syncCorrectionField = 0 := by
  have htwo := @isTwoStep_ownHeader domain port seqId 0x00
    logSyncInterval
  intro s'
  unfold s'
  rw [handleSync, acceptsSync, length_buildSync, htwo, Bool.true_or, Bool.and_true]
  simp only [ge_iff_le, le_refl, decide_true, Bool.not_true, Bool.false_eq_true, if_false, if_true,
    recordSync, htwo, true_and]
  exact ⟨rfl, rfl⟩

/-- A Follow_Up of the Sync that waits for it. -/
theorem handleFollowUp_buildFollowUp (hw : s.waitingForFollowUp = true)
    (hseq : s.lastSyncSequenceId = seqId.toNat) (h0 : s.syncCorrectionField = 0) :
    let s' := s.handleFollowUp (ownHeader 0x08 domain 0 port seqId 0)
      (buildFollowUp domain port seqId t1)
    s'.t1SyncOriginTimestamp.toNanoseconds = t1.toNat ∧
      s'.lastSyncSequenceId = s.lastSyncSequenceId ∧ s'.t2ReceiveTimeNs = s.t2ReceiveTimeNs ∧
      s'.waitingForFollowUp = false := by
  have haccepts : s.acceptsFollowUp (ownHeader 0x08 domain 0 port seqId 0)
      (buildFollowUp domain port seqId t1) = true := by
    rw [acceptsFollowUp, length_buildFollowUp, hw, hseq]
    simp [ownHeader]
  have hcorrection : i64 (s.syncCorrectionField +
      (ownHeader 0x08 domain 0 port seqId 0).correctionField) / 2 ^ 16 = 0 := by
    rw [h0]
    rfl
  intro s'
  unfold s'
  rw [handleFollowUp, haccepts]
  obtain ⟨h1, h2, h3, h4, -⟩ := SameInputs.sync_eq
    (calculateOffsetAndDelay_frame (s.recordFollowUp (ownHeader 0x08 domain 0 port seqId 0)
      (buildFollowUp domain port seqId t1)))
  refine ⟨?_, h2, h3, h4⟩
  rw [Bool.not_true, if_neg (by decide), h1, recordFollowUp, parseTimestamp_buildFollowUp, hcorrection]
  dsimp only
  rw [u64_toNanoseconds t1.toNat_lt, Timestamp.toNanoseconds_ofNs t1.toNat_lt]

/-- A Delay_Resp to the request the slave waits for. -/
theorem handleDelayResp_buildDelayResp (hw : s.waitingForDelayResp = true)
    (hseq : s.delayReqSequenceId = seqId.toNat)
    (hport : cfg.selfPortId = requestingPort.toPortIdentity) (logMinDelayReqInterval : Int8) :
    (s.handleDelayResp cfg (ownHeader 0x09 domain 0 port seqId logMinDelayReqInterval)
      (buildDelayResp domain port seqId logMinDelayReqInterval t4
        requestingPort)).t4DelayRespReceiveTimestamp.toNanoseconds = t4.toNat := by
  obtain ⟨htime, hreq⟩ := @holds_buildDelayResp domain port requestingPort seqId logMinDelayReqInterval t4
  have haccepts : s.acceptsDelayResp cfg (ownHeader 0x09 domain 0 port seqId logMinDelayReqInterval)
      (buildDelayResp domain port seqId logMinDelayReqInterval t4 requestingPort) = true := by
    rw [acceptsDelayResp, length_buildDelayResp, hw, hseq, parsePortIdentity_of_holds hreq, hport]
    simp [ownHeader]
  rw [handleDelayResp, haccepts, Bool.not_true, if_neg (by decide),
    (SameInputs.sync_eq (calculateOffsetAndDelay_frame _)).2.2.2.2, recordDelayResp,
    parseTimestamp_of_holds htime]
  dsimp only [ownHeader]
  rw [Int.zero_ediv, u64_toNanoseconds t4.toNat_lt, Timestamp.toNanoseconds_ofNs t4.toNat_lt]

/-- An Announce, by a slave without a master. -/
theorem handleAnnounce_buildAnnounce {better : MasterDataset → MasterDataset → Bool}
    {header : Header} {now : ℕ} (hnone : s.hasMaster = false) :
    (s.handleAnnounce better cfg header
      (buildAnnounce domain port seqId logInterval dataset timeSource) now).currentMaster =
      parseAnnounce header (buildAnnounce domain port seqId logInterval dataset timeSource) now := by
  have hfollow : (s.followInterval cfg header.logMessageInterval).hasMaster = false := by
    unfold followInterval
    dsimp only
    split_ifs <;> exact hnone
  rw [handleAnnounce, length_buildAnnounce, if_neg (by decide), considerMaster, hfollow]
  rfl

end Slave

/-- **The slave has of each message what the master put into it.** -/
theorem wire_agreement (better : MasterDataset → MasterDataset → Bool) (s : Slave)
    (cfg : SlaveConfig) (domain : ℤ) (port requestingPort : OwnPort) (seqId : UInt16)
    (logAnnounceInterval logSyncInterval logMinDelayReqInterval : Int8) (dataset : OwnDataset)
    (timeSource : UInt8) (t1 t4 : UInt64) (t2 now : ℕ) :
    let announce := buildAnnounce domain port seqId logAnnounceInterval dataset timeSource
    let sync := buildSync domain port seqId logSyncInterval
    let followUp := buildFollowUp domain port seqId t1
    let delayResp := buildDelayResp domain port seqId logMinDelayReqInterval t4 requestingPort
    let announceHeader := ownHeader 0x0B domain 0 port seqId logAnnounceInterval
    let syncHeader := ownHeader 0x00 domain kFlagTwoStep port seqId logSyncInterval
    let followUpHeader := ownHeader 0x08 domain 0 port seqId 0
    let delayRespHeader := ownHeader 0x09 domain 0 port seqId logMinDelayReqInterval
    -- the headers
    (parseHeader announce = some announceHeader ∧ parseHeader sync = some syncHeader ∧
      parseHeader followUp = some followUpHeader ∧ parseHeader delayResp = some delayRespHeader) ∧
    (announceHeader.getMessageType = .Announce ∧ syncHeader.getMessageType = .Sync ∧
      followUpHeader.getMessageType = .Follow_Up ∧ delayRespHeader.getMessageType = .Delay_Resp) ∧
    (syncHeader.isTwoStep = true ∧ followUpHeader.isTwoStep = false) ∧
    -- the Announce, by a slave that has no master
    (({ s with hasMaster := false } : Slave).handleAnnounce better cfg announceHeader announce
      now).currentMaster =
      { dataset := dataset.toDataset port
        timeSource := timeSource.toNat
        logAnnounceInterval := logAnnounceInterval.toInt
        lastReceived := now } ∧
    -- the Sync and its Follow_Up
    (let s' := (s.handleSync cfg syncHeader sync t2).handleFollowUp followUpHeader followUp
     s'.t1SyncOriginTimestamp.toNanoseconds = t1.toNat ∧ s'.lastSyncSequenceId = seqId.toNat ∧
       s'.t2ReceiveTimeNs = t2 ∧ s'.waitingForFollowUp = false) ∧
    -- the Delay_Resp, by a slave that waits for it
    parsePortIdentity delayResp kRequestingPortOffset = requestingPort.toPortIdentity ∧
    (({ s with waitingForDelayResp := true, delayReqSequenceId := seqId.toNat } : Slave).handleDelayResp
      { cfg with selfPortId := requestingPort.toPortIdentity } delayRespHeader
      delayResp).t4DelayRespReceiveTimestamp.toNanoseconds = t4.toNat ∧
    -- any time
    ∀ ns : UInt64, (Timestamp.ofNs ns.toNat).toNanoseconds = ns.toNat := by
  intro announce sync followUp delayResp announceHeader syncHeader followUpHeader delayRespHeader
  refine ⟨⟨parseHeader_messageHeader _, parseHeader_messageHeader _, parseHeader_messageHeader _,
    parseHeader_messageHeader _⟩, ⟨?_, ?_, ?_, ?_⟩, ⟨Slave.isTwoStep_ownHeader _ _, ?_⟩, ?_, ?_,
    parsePortIdentity_of_holds holds_buildDelayResp.2,
    Slave.handleDelayResp_buildDelayResp rfl rfl rfl logMinDelayReqInterval,
    fun ns => Timestamp.toNanoseconds_ofNs ns.toNat_lt⟩
  · show MessageType.ofCode ((0x0B : UInt8).toNat % 16) = _
    rfl
  · show MessageType.ofCode ((0x00 : UInt8).toNat % 16) = _
    rfl
  · show MessageType.ofCode ((0x08 : UInt8).toNat % 16) = _
    rfl
  · show MessageType.ofCode ((0x09 : UInt8).toNat % 16) = _
    rfl
  · show decide ((0 : UInt16).toNat / 0x0200 % 2 = 1) = false
    decide
  · rw [Slave.handleAnnounce_buildAnnounce rfl]
    exact parseAnnounce_buildAnnounce announceHeader rfl now
  · obtain ⟨hw, hseq, ht2, h0⟩ := @Slave.handleSync_buildSync domain port seqId s cfg t2
      logSyncInterval
    obtain ⟨h1, h2, h3, h4⟩ := @Slave.handleFollowUp_buildFollowUp domain port _ _ t1 hw
      hseq h0
    exact ⟨h1, h2.trans hseq, h3.trans ht2, h4⟩

end Aes67.Ptp
