import Aes67.Ptp.MasterSettings
import Aes67.Ptp.OnWire
import Aes67.Ptp.Reference

/-!
# The port of the Linux grandmaster

The model of `PtpWire.cpp`, of the profile table and of the part of `Grandmaster` that sends and
answers. Each function of the port returns the port after it and the datagrams that left.

* `putHeader` with **`putHeader_eq`**: the header is the one the other master writes;
* `buildAnnounce`, `buildSync`, `buildFollowUp`, `buildDelayResp`; **`parseHeader_putHeader`** and
  `parse_buildFollowUp`, `parse_buildDelayResp`: what a slave reads of them;
* `PortContext.admittedHeader`: a slave of the domain and the profile takes them;
* `ptpProfileByName`, `GrandmasterPort.start`; `start_eq_ok_iff`: it starts on the profiles of the table;
* `sendAnnounce`, `sendSyncPair`, `handleDelayReq`, `serviceMessage`.
-/

namespace Aes67.LinuxPtpd

open Ptp (Header PortIdentity Timestamp MessageType OwnPort bytesBE ofBE byteAt readBE
  parsePortIdentity parseTimestamp timestampBytes messageHeader)

/-! ## Messages -/

def kHeaderSize : ℕ := 34

def kFlagTwoStep : UInt16 := 0x0200

def kFlagPtpTimescale : UInt16 := 0x0008

def kFlagCurrentUtcOffsetValid : UInt16 := 0x0004

def kControlSync : UInt8 := 0x00

def kControlFollowUp : UInt8 := 0x02

def kControlDelayResp : UInt8 := 0x03

def kControlOther : UInt8 := 0x05

/-- `AnnounceDataset`. -/
structure AnnounceDataset where
  clockIdentity : UInt64 := 0
  priority1 : UInt8 := 128
  priority2 : UInt8 := 128
  clockClass : UInt8 := 248
  clockAccuracy : UInt8 := 0xFE
  offsetScaledLogVariance : UInt16 := 0xFFFF
  stepsRemoved : UInt16 := 0
  timeSource : UInt8 := 0xA0
  currentUtcOffset : Int16 := 37
  currentUtcOffsetValid : Bool := false

/-- `PortContext`. -/
structure PortContext where
  clockIdentity : UInt64 := 0
  portNumber : UInt16 := 1
  domainNumber : UInt8 := 0
  majorSdoId : UInt8 := 0

def PortContext.toOwnPort (port : PortContext) : OwnPort := ⟨port.clockIdentity, port.portNumber⟩

/-- Octet 0: the profile's nibble over the message's. -/
def PortContext.transportAndType (port : PortContext) (type : UInt8) : UInt8 :=
  (port.majorSdoId <<< 4) ||| (type &&& 0x0F)

/-- `putTimestamp`. -/
def putTimestamp (timeNs : UInt64) : Ptp.Datagram :=
  bytesBE 2 (timeNs.toNat / 1000000000 / 2 ^ 32 % 2 ^ 16) ++
    bytesBE 4 (timeNs.toNat / 1000000000 % 2 ^ 32) ++ bytesBE 4 (timeNs.toNat % 1000000000)

/-- `putHeader`: octets 8 to 19, the correction and the reserved ones, stay zero. -/
def putHeader (port : PortContext) (type : UInt8) (messageLength flags sequenceId : UInt16)
    (controlField : UInt8) (logMessageInterval : Int8) : Ptp.Datagram :=
  [port.transportAndType type, 0x02] ++ bytesBE 2 messageLength.toNat ++ [port.domainNumber, 0] ++
    bytesBE 2 flags.toNat ++ List.replicate 12 0 ++ bytesBE 8 port.clockIdentity.toNat ++
    bytesBE 2 port.portNumber.toNat ++ bytesBE 2 sequenceId.toNat ++
    [controlField, logMessageInterval.toUInt8]

/-- `buildAnnounce`. -/
def buildAnnounce (port : PortContext) (dataset : AnnounceDataset) (sequenceId : UInt16)
    (logAnnounceInterval : Int8) (originTimeNs : UInt64) : Ptp.Datagram :=
  let flags := if dataset.currentUtcOffsetValid then kFlagPtpTimescale ||| kFlagCurrentUtcOffsetValid
    else kFlagPtpTimescale
  putHeader port 0x0B 64 flags sequenceId kControlOther logAnnounceInterval ++
    (putTimestamp originTimeNs ++ bytesBE 2 dataset.currentUtcOffset.toUInt16.toNat ++
      [0, dataset.priority1, dataset.clockClass, dataset.clockAccuracy] ++
      bytesBE 2 dataset.offsetScaledLogVariance.toNat ++ [dataset.priority2] ++
      bytesBE 8 dataset.clockIdentity.toNat ++ bytesBE 2 dataset.stepsRemoved.toNat ++
      [dataset.timeSource])

/-- `buildSync`: the time is left to the Follow_Up. -/
def buildSync (port : PortContext) (sequenceId : UInt16) (logSyncInterval : Int8) : Ptp.Datagram :=
  putHeader port 0x00 44 (kFlagTwoStep ||| kFlagPtpTimescale) sequenceId kControlSync
    logSyncInterval ++ List.replicate 10 0

/-- `buildFollowUp`. -/
def buildFollowUp (port : PortContext) (sequenceId : UInt16) (logSyncInterval : Int8)
    (preciseOriginTimeNs : UInt64) : Ptp.Datagram :=
  putHeader port 0x08 44 kFlagPtpTimescale sequenceId kControlFollowUp logSyncInterval ++
    putTimestamp preciseOriginTimeNs

/-- `buildDelayResp`: the sequence id and the port are the request's. -/
def buildDelayResp (port : PortContext) (requester : OwnPort) (sequenceId : UInt16)
    (logMinDelayReqInterval : Int8) (receiveTimeNs : UInt64) : Ptp.Datagram :=
  putHeader port 0x09 54 kFlagPtpTimescale sequenceId kControlDelayResp logMinDelayReqInterval ++
    (putTimestamp receiveTimeNs ++
      (bytesBE 8 requester.clockIdentity.toNat ++ bytesBE 2 requester.portNumber.toNat))

/-- `parseHeader`, the fields the grandmaster reads. The version is not one of them. -/
def parseHeader (data : Ptp.Datagram) : Option Header :=
  if data.length < kHeaderSize then none
  else some
    { transportAndType := byteAt data 0
      domainNumber := byteAt data 4
      flagField := readBE data 6 2
      sourcePortIdentity := parsePortIdentity data 20
      sequenceId := readBE data 30 2
      logMessageInterval := Ptp.i8 (byteAt data 33) }

/-! ## Profiles -/

/-- `PtpProfileSettings`. -/
structure PtpProfileSettings where
  domainNumber : UInt8 := 0
  majorSdoId : UInt8 := 0
  logSyncInterval : Int8 := 0
  logAnnounceInterval : Int8 := 1
  logMinDelayReqInterval : Int8 := 0
  deriving DecidableEq

/-- `kPtpProfiles`: the name of a profile and what it fixes. -/
def kPtpProfiles : List (String × PtpProfileSettings) :=
  [("default1588", ⟨0, 0, 0, 1, 0⟩), ("aes67", ⟨0, 0, -3, 0, -3⟩),
    ("aes67-tight", ⟨0, 0, -4, 0, -4⟩), ("gptp", ⟨0, 1, -3, 0, 0⟩)]

/-- `ptpProfileByName`. -/
def ptpProfileByName (name : String) : Option PtpProfileSettings := kPtpProfiles.lookup name

/-! ## The port -/

/-- `GrandmasterConfig`, what the port reads of it. -/
structure GrandmasterConfig where
  profileName : String := "aes67"
  priority1 : UInt8 := 128
  priority2 : UInt8 := 128
  currentUtcOffset : Int16 := 37

/-- `Grandmaster`, with what it sends. The class and the time source of the dataset are the ones it
takes from its reference. -/
structure GrandmasterPort extends Grandmaster where
  settings : PtpProfileSettings := {}
  port : PortContext := {}
  ownDataset : AnnounceDataset := {}
  announceSequence : UInt16 := 0
  syncSequence : UInt16 := 0
  droppedFollowUps : ℕ := 0
  announcesSent : ℕ := 0
  syncsSent : ℕ := 0
  delayResponsesSent : ℕ := 0

namespace GrandmasterPort

/-- `Grandmaster::start`, on an interface with this identity and a clock of this accuracy. -/
def start (config : GrandmasterConfig) (reference : Option ExternalReference)
    (clockIdentity : UInt64) (clockAccuracy : UInt8) : Except String GrandmasterPort :=
  match ptpProfileByName config.profileName with
  | none => .error ("no profile called " ++ config.profileName ++
      " (the table is packages/aes67-profiles)")
  | some settings =>
    if ptpLogIntervalToNanoseconds settings.logSyncInterval = 0 ∨
        ptpLogIntervalToNanoseconds settings.logAnnounceInterval = 0 then
      .error ("profile " ++ config.profileName ++
        " carries an interval outside the range this daemon can send at")
    else .ok
      { reference
        settings
        port :=
          { clockIdentity, portNumber := 1
            domainNumber := settings.domainNumber, majorSdoId := settings.majorSdoId }
        ownDataset :=
          { clockIdentity, priority1 := config.priority1, priority2 := config.priority2
            clockAccuracy, currentUtcOffset := config.currentUtcOffset
            currentUtcOffsetValid := false } }

variable (g : GrandmasterPort)

def dataset : AnnounceDataset :=
  { g.ownDataset with clockClass := g.clockClass, timeSource := g.timeSource }

/-- `followTheReference`. -/
def follow (call : Call) : GrandmasterPort :=
  { g with toGrandmaster := g.toGrandmaster.followTheReference call }

/-- `sendAnnounce`; `sent` is what the socket answers. -/
def sendAnnounce (currentTimeNs : UInt64) (sent : Bool) : GrandmasterPort × List Ptp.Datagram :=
  let message := buildAnnounce g.port g.dataset g.announceSequence g.settings.logAnnounceInterval
    currentTimeNs
  let g := { g with announceSequence := g.announceSequence + 1 }
  if sent then ({ g with announcesSent := g.announcesSent + 1 }, [message]) else (g, [])

/-- `sendSyncPair`: without a transmit stamp no Follow_Up is sent. -/
def sendSyncPair (transmitTimeNs : UInt64) (sent followUpSent : Bool) :
    GrandmasterPort × List Ptp.Datagram :=
  let sequence := g.syncSequence
  let sync := buildSync g.port sequence g.settings.logSyncInterval
  let followUp := buildFollowUp g.port sequence g.settings.logSyncInterval transmitTimeNs
  let g := { g with syncSequence := g.syncSequence + 1 }
  if !sent then (g, [])
  else if transmitTimeNs = 0 then ({ g with droppedFollowUps := g.droppedFollowUps + 1 }, [sync])
  else if !followUpSent then (g, [sync])
  else ({ g with syncsSent := g.syncsSent + 1 }, [sync, followUp])

/-- `handleDelayReq`. -/
def handleDelayReq (header : Header) (receiveTimeNs : UInt64) (sent : Bool) :
    GrandmasterPort × List Ptp.Datagram :=
  let requester : OwnPort := ⟨.ofNat header.sourcePortIdentity.clockIdentity,
    .ofNat header.sourcePortIdentity.portNumber⟩
  let response := buildDelayResp g.port requester (.ofNat header.sequenceId)
    g.settings.logMinDelayReqInterval receiveTimeNs
  if sent then ({ g with delayResponsesSent := g.delayResponsesSent + 1 }, [response]) else (g, [])

/-- One turn of the loop of `servicePort`. Another master's Announce is reported and nothing more. -/
def serviceMessage (data : Ptp.Datagram) (receiveTimeNs currentTimeNs : UInt64) (sent : Bool) :
    GrandmasterPort × List Ptp.Datagram :=
  match parseHeader data with
  | none => (g, [])
  | some header =>
    if header.domainNumber ≠ g.port.domainNumber.toNat then (g, [])
    else if header.sourcePortIdentity.clockIdentity = g.port.clockIdentity.toNat then (g, [])
    else if header.getMessageType = .Delay_Req then
      let receiveTimeNs := if receiveTimeNs = 0 then currentTimeNs else receiveTimeNs
      g.handleDelayReq header receiveTimeNs sent
    else (g, [])

end GrandmasterPort

/-! ## The wire -/

variable {port : PortContext} {type low controlField : UInt8}
  {messageLength flags sequenceId : UInt16} {logInterval : Int8} {data rest : Ptp.Datagram} {n offset : ℕ}

theorem ofInt_toNat (b : UInt8) : UInt8.ofInt (b.toNat : ℤ) = b := by
  have hlt := b.toNat_lt
  rw [UInt8.ofInt, Int.emod_eq_of_lt (by omega) (by omega), Int.toNat_natCast, UInt8.ofNat_toNat]

/-- **The header is the other master's**, with the profile's nibble over the type. -/
theorem putHeader_eq (hlength : bytesBE 2 messageLength.toNat = [0, low]) :
    putHeader port type messageLength flags sequenceId controlField logInterval =
      messageHeader (port.transportAndType type) low port.domainNumber.toNat flags
        port.toOwnPort sequenceId controlField logInterval := by
  rw [putHeader, messageHeader, hlength, ofInt_toNat]
  rfl

/-- The low nibble of octet 0 is the type, the high one the profile's. -/
theorem toNat_transportAndType :
    (port.transportAndType type).toNat % 16 = type.toNat % 16 ∧
      (port.transportAndType type).toNat / 16 = port.majorSdoId.toNat % 16 := by
  have hand : type.toNat &&& 15 = type.toNat % 16 := Nat.and_two_pow_sub_one_eq_mod type.toNat 4
  have hor : port.majorSdoId.toNat <<< 4 % 256 ||| type.toNat % 16 =
      port.majorSdoId.toNat % 16 * 16 + type.toNat % 16 := by
    rw [Nat.shiftLeft_eq, show (256 : ℕ) = 16 * 2 ^ 4 from rfl, Nat.mul_mod_mul_right,
      ← Nat.shiftLeft_eq, Nat.shiftLeft_add_eq_or_of_lt (Nat.mod_lt _ (by decide))]
  rw [PortContext.transportAndType, UInt8.toNat_or, UInt8.toNat_and, UInt8.toNat_shiftLeft]
  show (port.majorSdoId.toNat <<< 4 % 256 ||| type.toNat &&& 15) % 16 = _ ∧
    (port.majorSdoId.toNat <<< 4 % 256 ||| type.toNat &&& 15) / 16 = _
  rw [hand, hor]
  omega

/-- The header of a message of the port. -/
def PortContext.header (port : PortContext) (type : UInt8) (flags sequenceId : UInt16)
    (logInterval : Int8) : Header where
  transportAndType := (port.transportAndType type).toNat
  domainNumber := port.domainNumber.toNat
  flagField := flags.toNat
  sourcePortIdentity := port.toOwnPort.toPortIdentity
  sequenceId := sequenceId.toNat
  logMessageInterval := logInterval.toInt

theorem PortContext.getMessageType_header :
    (port.header type flags sequenceId logInterval).getMessageType = .ofCode (type.toNat % 16) :=
  congrArg _ toNat_transportAndType.1

theorem PortContext.getMajorSdoId_header :
    (port.header type flags sequenceId logInterval).getMajorSdoId = port.majorSdoId.toNat % 16 := by
  rw [Header.getMajorSdoId, header, toNat_transportAndType.2, Nat.mod_mod]

/-- **A slave of the domain and the profile** takes what the port sends. -/
theorem PortContext.admittedHeader {cfg : Ptp.SlaveConfig}
    (h : Ptp.parseHeader data = some (port.header type flags sequenceId logInterval))
    (hdomain : cfg.domain = port.domainNumber.toNat)
    (hprofile : cfg.majorSdoId = port.majorSdoId.toNat % 16) :
    Ptp.Slave.admittedHeader cfg data = some (port.header type flags sequenceId logInterval) := by
  have hsame : (port.header type flags sequenceId logInterval).getMajorSdoId = cfg.majorSdoId :=
    getMajorSdoId_header.trans hprofile.symm
  rw [Ptp.Slave.admittedHeader, h]
  dsimp only
  rw [hsame, bne_self_eq_false, Bool.and_false, if_neg Bool.false_ne_true]
  exact if_neg (not_not.mpr hdomain.symm)

/-- **A slave reads the header that was written.** -/
theorem parseHeader_putHeader (hlength : bytesBE 2 messageLength.toNat = [0, low])
    (rest : Ptp.Datagram) :
    Ptp.parseHeader (putHeader port type messageLength flags sequenceId controlField logInterval ++
      rest) = some (port.header type flags sequenceId logInterval) := by
  rw [putHeader_eq hlength, Ptp.parseHeader_messageHeader, ofInt_toNat]
  rfl

/-- What follows the header stands behind it. -/
theorem holds_putHeader (hlength : bytesBE 2 messageLength.toNat = [0, low]) (rest : Ptp.Datagram) :
    Holds (putHeader port type messageLength flags sequenceId controlField logInterval ++ rest)
      Ptp.kTimestampOffset rest := by
  rw [putHeader_eq hlength]
  exact (Ptp.holds_messageHeader rest).2.2

/-- The grandmaster reads what a slave does, the correction apart, and no version keeps it from it. -/
theorem parseHeader_of_slave {header : Header} (h : Ptp.parseHeader data = some header) :
    parseHeader data = some { header with correctionField := 0 } := by
  unfold Ptp.parseHeader at h
  split_ifs at h with hlen hversion
  cases h
  rw [parseHeader, if_neg (show ¬ data.length < kHeaderSize from hlen)]

section Messages

variable {dataset : AnnounceDataset} {requester : OwnPort} {timeNs : UInt64}

theorem parseHeader_buildAnnounce : ∃ flags,
    Ptp.parseHeader (buildAnnounce port dataset sequenceId logInterval timeNs) =
      some (port.header 0x0B flags sequenceId logInterval) :=
  ⟨_, parseHeader_putHeader rfl _⟩

theorem parseHeader_buildSync : Ptp.parseHeader (buildSync port sequenceId logInterval) =
    some (port.header 0x00 (kFlagTwoStep ||| kFlagPtpTimescale) sequenceId logInterval) :=
  parseHeader_putHeader rfl _

/-- **A Follow_Up** is its Sync's, and says when it left. -/
theorem parse_buildFollowUp :
    Ptp.parseHeader (buildFollowUp port sequenceId logInterval timeNs) =
      some (port.header 0x08 kFlagPtpTimescale sequenceId logInterval) ∧
    parseTimestamp (buildFollowUp port sequenceId logInterval timeNs) Ptp.kTimestampOffset =
      .ofNs timeNs.toNat :=
  ⟨parseHeader_putHeader rfl _, Ptp.parseTimestamp_of_holds (holds_putHeader rfl _)⟩

/-- **A Delay_Resp** is the request's and its sender's, and says when the request came. -/
theorem parse_buildDelayResp :
    Ptp.parseHeader (buildDelayResp port requester sequenceId logInterval timeNs) =
      some (port.header 0x09 kFlagPtpTimescale sequenceId logInterval) ∧
    parseTimestamp (buildDelayResp port requester sequenceId logInterval timeNs)
      Ptp.kTimestampOffset = .ofNs timeNs.toNat ∧
    parsePortIdentity (buildDelayResp port requester sequenceId logInterval timeNs)
      Ptp.kRequestingPortOffset = requester.toPortIdentity := by
  obtain ⟨htime, hport⟩ : Holds (buildDelayResp port requester sequenceId logInterval timeNs)
      Ptp.kTimestampOffset (timestampBytes (.ofNs timeNs.toNat)) ∧
      Holds (buildDelayResp port requester sequenceId logInterval timeNs) Ptp.kRequestingPortOffset
        (Ptp.portBytes requester) := holds_append.mp (holds_putHeader rfl _)
  exact ⟨parseHeader_putHeader rfl _, Ptp.parseTimestamp_of_holds htime,
    Ptp.parsePortIdentity_of_holds hport⟩

end Messages

/-! ## The profiles -/

/-- Every profile of the table is one the daemon can send at. -/
theorem sendable_of_mem_kPtpProfiles : ∀ p ∈ kPtpProfiles,
    ptpLogIntervalToNanoseconds p.2.logSyncInterval ≠ 0 ∧
      ptpLogIntervalToNanoseconds p.2.logAnnounceInterval ≠ 0 := by
  decide

/-- **The daemon starts just on the profiles of the table.** -/
theorem GrandmasterPort.start_eq_ok_iff {config : GrandmasterConfig}
    {reference : Option ExternalReference} {clockIdentity : UInt64} {clockAccuracy : UInt8} :
    (∃ g, start config reference clockIdentity clockAccuracy = .ok g) ↔
      config.profileName ∈ kPtpProfiles.map Prod.fst := by
  rw [start]
  cases hfound : ptpProfileByName config.profileName with
  | none =>
    have hnone := List.lookup_eq_none_iff.mp hfound
    refine iff_of_false (fun ⟨_, h⟩ => nomatch h) fun hmem => ?_
    obtain ⟨p, hp, hname⟩ := List.mem_map.mp hmem
    exact (bne_iff_ne.mp (hnone p hp)) hname.symm
  | some settings =>
    obtain ⟨l, l', hl, -⟩ := List.lookup_eq_some_iff.mp hfound
    have hmem : (config.profileName, settings) ∈ kPtpProfiles := by
      rw [hl]
      exact List.mem_append_right _ List.mem_cons_self
    obtain ⟨hsync, hannounce⟩ := sendable_of_mem_kPtpProfiles _ hmem
    refine iff_of_true ⟨_, if_neg (not_or.mpr ⟨hsync, hannounce⟩)⟩ (List.mem_map_of_mem hmem)

end Aes67.LinuxPtpd
