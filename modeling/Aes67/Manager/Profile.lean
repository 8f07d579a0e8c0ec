import Aes67.Sdp.Model

/-!
# Packet budgets and compatibility profiles

What a stream has to fit before the manager takes it: one Ethernet frame a packet, and the limits
of the gear the driver is pointed at.

* `PacketBudget`: bytes a packet takes, channels and samples it holds;
* `CompatibilityProfile` with `forKind`, the table of limits, and `validate`.
-/

namespace Aes67

/-! ## The bytes of a packet -/

namespace PacketBudget

def kRtpHeaderBytes : ℕ := 12

def kIpv4UdpOverheadBytes : ℕ := 20 + 8

def kEthernetMtuBytes : ℕ := 1500

def kMaxRtpPacketBytes : ℕ := kEthernetMtuBytes - kIpv4UdpOverheadBytes

def kMaxAudioBytesPerPacket : ℕ := kMaxRtpPacketBytes - kRtpHeaderBytes

def bytesPerSample (encoding : Text) : ℕ :=
  if encoding = "L16".toList then 2
  else if encoding = "L24".toList then 3
  else if encoding = "AM824".toList then 4
  else 0

def framesPerPacket (sampleRate ptimeUs framecount : UInt32) : UInt32 :=
  if framecount > 0 then framecount
  else .ofNat (sampleRate.toNat * ptimeUs.toNat / 1000000)

def rtpPacketBytes (channels : UInt16) (bytesPerSample : ℕ) (framesPerPacket : UInt32) : ℕ :=
  kRtpHeaderBytes + channels.toNat * bytesPerSample * framesPerPacket.toNat

def fits (channels : UInt16) (bytesPerSample : ℕ) (framesPerPacket : UInt32) : Bool :=
  rtpPacketBytes channels bytesPerSample framesPerPacket ≤ kMaxRtpPacketBytes

def maxChannelsPerPacket (bytesPerSample : ℕ) (framesPerPacket : UInt32) : UInt16 :=
  if bytesPerSample = 0 ∨ framesPerPacket = 0 then 0
  else
    let channels := kMaxAudioBytesPerPacket / (bytesPerSample * framesPerPacket.toNat)
    if channels > 0xFFFF then 0xFFFF else .ofNat channels

def maxFramesPerPacket (channels : UInt16) (bytesPerSample : ℕ) : UInt32 :=
  if channels = 0 ∨ bytesPerSample = 0 then 0
  else .ofNat (kMaxAudioBytesPerPacket / (channels.toNat * bytesPerSample))

end PacketBudget

/-! ## Profiles -/

/-- Which way the driver may use the gear a profile describes. -/
inductive ProfileDirection
  | any
  | receiveOnly
  | transmitOnly
  deriving DecidableEq

inductive CompatibilityProfileKind
  | aes67
  | ravenna
  | st2110_30
  | st2110_30_LevelB
  | dante
  | dolby
  | dolbyLAN
  | dolbyDAC3202
  | dolbyDMA16
  | dolbyDMA24
  | dolbyDMA32
  | dolbyCP850
  | dolbyCP950
  | dolbyCP950A
  deriving DecidableEq

/-- `CompatibilityProfile`, the fields the manager reads. The sample rates are whole; an empty list
accepts anything, and so does a total of no channels. -/
structure CompatibilityProfile where
  displayName : Text
  allowedSampleRates : List ℕ
  allowedPtimesUs : List UInt32
  allowedEncodings : List Text
  maxChannelsPerFlow : UInt16 := 8
  useFixedMulticastWithPerFlowSourcePort : Bool := false
  direction : ProfileDirection := .any
  maxTotalChannels : UInt32 := 0
  requiredMulticastPrefix : Text := []
  domainIsFixed : Bool := false
  fixedDomain : UInt8 := 0

namespace CompatibilityProfile

/-- The family profile of the Dolby gear. -/
def dolby : CompatibilityProfile where
  displayName := "Generic".toList
  allowedSampleRates := [48000, 96000]
  allowedPtimesUs := [1000]
  allowedEncodings := ["L16".toList, "L24".toList]
  useFixedMulticastWithPerFlowSourcePort := true

/-- `makeDolbyModelProfile`: one model of the family. -/
def makeDolbyModelProfile (name : String) (channels : UInt32) (isOutput : Bool) :
    CompatibilityProfile :=
  { dolby with
    displayName := name.toList
    maxTotalChannels := channels
    direction := if isOutput then .transmitOnly else .receiveOnly }

/-- `CompatibilityProfile::forKind`. -/
def forKind : CompatibilityProfileKind → CompatibilityProfile
  | .aes67 =>
    { displayName := "AES67".toList
      allowedSampleRates := [44100, 48000, 96000]
      allowedPtimesUs := [1000]
      allowedEncodings := ["L16".toList, "L24".toList]
      domainIsFixed := true }
  | .ravenna =>
    { displayName := "RAVENNA".toList
      allowedSampleRates := [44100, 48000, 88200, 96000, 176400, 192000, 352800, 384000]
      allowedPtimesUs := []
      allowedEncodings := ["L16".toList, "L24".toList]
      maxChannelsPerFlow := 64 }
  | .st2110_30 =>
    { displayName := "SMPTE ST 2110-30 (Level A)".toList
      allowedSampleRates := [48000]
      allowedPtimesUs := [1000]
      allowedEncodings := ["L16".toList, "L24".toList] }
  | .st2110_30_LevelB =>
    { displayName := "SMPTE ST 2110-30 (Level B)".toList
      allowedSampleRates := [48000]
      allowedPtimesUs := [125]
      allowedEncodings := ["L16".toList, "L24".toList] }
  | .dante =>
    { displayName := "Dante (AES67 mode)".toList
      allowedSampleRates := [48000]
      allowedPtimesUs := [1000]
      allowedEncodings := ["L24".toList]
      domainIsFixed := true
      requiredMulticastPrefix := "239.69".toList }
  | .dolby => dolby
  | .dolbyLAN => { dolby with displayName := "Autodetect".toList }
  | .dolbyDAC3202 => makeDolbyModelProfile "Dolby DAC3202" 32 true
  | .dolbyDMA16 => makeDolbyModelProfile "Dolby DMA (16-channel)" 16 true
  | .dolbyDMA24 => makeDolbyModelProfile "Dolby DMA (24-channel)" 24 true
  | .dolbyDMA32 => makeDolbyModelProfile "Dolby DMA (32-channel)" 32 true
  | .dolbyCP850 => makeDolbyModelProfile "Dolby CP850" 64 false
  | .dolbyCP950 => makeDolbyModelProfile "Dolby CP950" 16 false
  | .dolbyCP950A => makeDolbyModelProfile "Dolby CP950A" 64 false

/-- The items of a list, with a comma and a space between them. -/
def joined (items : List Text) : Text := List.intercalate ", ".toList items

/-- The dash of the messages, in the bytes it is written in. -/
def dash : Text := "\xe2\x80\x94".toList

def addressHasPrefix (address pre : Text) : Bool :=
  address.length > pre.length && address.take pre.length == pre && address[pre.length]? == some '.'

/-- `CompatibilityProfile::validate`, on the description `describeStream` makes of a session; the
text is why it refuses. -/
def validate (p : CompatibilityProfile) (stream : Sdp.SDPSession) (isTransmit : Bool) :
    Except Text Unit :=
  let fail (reason : Text) : Except Text Unit := .error (p.displayName ++ ": ".toList ++ reason)
  if p.direction = .receiveOnly ∧ isTransmit then
    fail ("this device has no network audio input ".toList ++ dash ++
      " this driver may only receive from it, not send to it".toList)
  else if p.direction = .transmitOnly ∧ !isTransmit then
    fail ("this device has no network audio output ".toList ++ dash ++
      " this driver may only send to it, not receive from it".toList)
  else if p.allowedSampleRates ≠ [] ∧
      ¬ p.allowedSampleRates.any (fun rate => |(rate : ℤ) - stream.sampleRate.toNat| < 1) then
    fail ("sample rate ".toList ++ showNat stream.sampleRate.toNat ++
      " Hz not permitted (allowed: ".toList ++ joined (p.allowedSampleRates.map showNat) ++
      ")".toList)
  else if p.allowedPtimesUs ≠ [] ∧ stream.ptimeUs > 0 ∧ stream.ptimeUs ∉ p.allowedPtimesUs then
    fail ("packet time ".toList ++ showNat stream.ptimeUs.toNat ++ " us not permitted".toList)
  else if p.allowedEncodings ≠ [] ∧ stream.encoding ≠ [] ∧
      stream.encoding ∉ p.allowedEncodings then
    fail ("encoding ".toList ++ stream.encoding ++ " not permitted (allowed: ".toList ++
      joined p.allowedEncodings ++ ")".toList)
  else if stream.numChannels > p.maxChannelsPerFlow then
    fail (showNat stream.numChannels.toNat ++ " channels exceeds the ".toList ++
      showNat p.maxChannelsPerFlow.toNat ++ "-channel flow limit ".toList ++ dash ++
      " split it across multiple flows".toList)
  else if p.requiredMulticastPrefix ≠ [] ∧ stream.connectionAddress ≠ [] ∧
      ¬ addressHasPrefix stream.connectionAddress p.requiredMulticastPrefix then
    fail ("multicast address ".toList ++ stream.connectionAddress ++
      " outside the required ".toList ++ p.requiredMulticastPrefix ++ ".0.0/16 range".toList)
  else if p.domainIsFixed ∧ stream.ptpDomain ≠ -1 ∧
      stream.ptpDomain.toInt ≠ p.fixedDomain.toNat then
    fail ("PTP domain ".toList ++ showInt stream.ptpDomain.toInt ++ " not permitted ".toList ++
      dash ++ " fixed at ".toList ++ showNat p.fixedDomain.toNat)
  else .ok ()

end CompatibilityProfile

end Aes67
