import Aes67.Ravenna.DnsSd
import Aes67.Manager.Flows

/-!
# The size of a packet, three times

How many frames a packet of a session holds is worked out by the packet budget that lets the session
in, by the transmitter and by the receiver, each for itself. The transmitter alone has a ceiling, and
the receiver drops what is over its own.

* `RTPTransmitter.samplesPerPacket`, `RTPReceiver.samplesPerPacket`;
* `RTPTransmitter.sendPacket`, `RTPSocket.parseFrame`: a packet as bytes;
* `RTPReceiver.validatePacket`, `decode`;
* `samplesPerPacket_eq_iff`, `received_iff`: when the sizes agree, and when a packet is decoded;
* **`packetSize_iff`**: an admitted session is sent and received as it was admitted, just when its
  packet holds 512 frames at most and its payload type has seven bits.
-/

namespace Aes67

open Sdp (SDPSession)
open Ravenna.DnsSd (Octets put16 put32)

/-! ## The three sizes -/

/-- The ceiling of the transmitter's buffers, and the receiver's `kMaxFramesPerPacket`. -/
def kMaxFrames : ℕ := 512

/-- `samplesPerPacket_`, as the constructor leaves it. -/
def RTPTransmitter.samplesPerPacket (sdp : SDPSession) : UInt32 :=
  let samplesPerPacket : UInt32 := if sdp.framecount > 0 then sdp.framecount
    else .ofNat (sdp.sampleRate.toNat * sdp.ptimeUs.toNat / 1000000)
  let samplesPerPacket := if samplesPerPacket = 0 then 1 else samplesPerPacket
  if samplesPerPacket.toNat > kMaxFrames then 512 else samplesPerPacket

/-- The count the constructor derives its interval from. -/
def RTPReceiver.samplesPerPacket (sdp : SDPSession) : UInt32 :=
  let rate := max sdp.sampleRate.toNat 1
  let samplesPerPacket : UInt32 := if sdp.framecount > 0 then sdp.framecount
    else .ofNat (rate * sdp.ptimeUs.toNat / 1000000)
  if samplesPerPacket = 0 then 1 else samplesPerPacket

/-! ## Packets -/

/-- The packet `sendPacket` puts on the wire: the header's bit fields take what fits them. -/
def RTPTransmitter.sendPacket (sdp : SDPSession) (sequenceNumber : UInt16)
    (timestamp ssrc : UInt32) (payload : Octets) : Octets :=
  let (version, padding, extension, cc, marker) := (2, 0, 0, 0, 0)
  let payloadType := sdp.payloadType.toNat % 128
  [.ofNat (cc + extension * 16 + padding * 32 + version * 64),
    .ofNat (payloadType + marker * 128)] ++
    put16 sequenceNumber ++ put32 timestamp ++ put32 ssrc ++ payload

/-- `RTPPacket`, the fields `validatePacket` and the decoders read. -/
structure RTPPacket where
  version : ℕ
  payloadType : ℕ
  payload : Octets
  deriving DecidableEq

/-- `RTPSocket::parseFrame`. -/
def RTPSocket.parseFrame (buffer : Octets) : Option RTPPacket :=
  let u i : ℕ := (buffer.getD i 0).toNat
  let (version, padding, extension, cc) := (u 0 / 64, u 0 / 32 % 2, u 0 / 16 % 2, u 0 % 16)
  let fixedBytes := 12 + cc * 4
  if buffer.length < 12 then none
  else if extension = 1 ∧ buffer.length < fixedBytes + 4 then none
  else
    let headerBytes := if extension = 1 then
      fixedBytes + 4 + (u (fixedBytes + 2) * 256 + u (fixedBytes + 3)) * 4 else fixedBytes
    if buffer.length ≤ headerBytes then none
    else
      let payloadBytes := buffer.length - headerBytes
      let pad := if padding = 1 then u (buffer.length - 1) else 0
      if padding = 1 ∧ (pad = 0 ∨ pad ≥ payloadBytes) then none
      else some ⟨version, u 1 % 128, (buffer.drop headerBytes).take (payloadBytes - pad)⟩

/-- `RTPReceiver::validatePacket`. -/
def RTPReceiver.validatePacket (sdp : SDPSession) (packet : RTPPacket) : Bool :=
  if packet.version ≠ 2 then false
  else if packet.payloadType ≠ sdp.payloadType.toNat then false
  else if packet.payload.length = 0 ∨ packet.payload.length > 1500 then false
  else true

/-- The frames `decodeL16` and `decodeL24` hand to the device, of samples this wide; nothing where
they drop the packet. -/
def RTPReceiver.decode (bytesPerSample : ℕ) (sdp : SDPSession) (payload : Octets) : Option ℕ :=
  let bytesPerFrame := bytesPerSample * sdp.numChannels.toNat
  let frameCount := payload.length / bytesPerFrame
  if frameCount = 0 ∨ frameCount > kMaxFrames then none
  else if frameCount * sdp.numChannels.toNat > kMaxFrames * sdp.numChannels.toNat then none
  else some frameCount

def RTPReceiver.decodeL16 : SDPSession → Octets → Option ℕ := decode 2

def RTPReceiver.decodeL24 : SDPSession → Octets → Option ℕ := decode 3

/-- The frames of a datagram that reach the device. -/
def RTPReceiver.received (sdp : SDPSession) (datagram : Octets) : Option ℕ :=
  match RTPSocket.parseFrame datagram with
  | none => none
  | some packet =>
    if !validatePacket sdp packet then none
    else if sdp.encoding = "L16".toList then decodeL16 sdp packet.payload
    else if sdp.encoding = "L24".toList then decodeL24 sdp packet.payload
    else none

/-! ## What admission says -/

variable {sdp : SDPSession} {s : StreamManager} {isLocked : Int32 → Bool} {isTransmit : Bool}
  {payload : Octets} {sequenceNumber : UInt16} {timestamp ssrc : UInt32} {n : ℕ}

/-- The frames of a packet as it is admitted, none read as one. -/
def PacketBudget.size (sdp : SDPSession) : UInt32 :=
  let frames := framesPerPacket sdp.sampleRate sdp.ptimeUs sdp.framecount
  if frames = 0 then 1 else frames

theorem PacketBudget.size_pos : 0 < (size sdp).toNat := by
  unfold size
  dsimp only
  split_ifs with h
  · decide
  · exact Nat.pos_of_ne_zero fun h0 => h (UInt32.toNat_inj.mp h0)

/-- Every profile names its sample rates, and zero is not one of them. -/
theorem sampleRate_of_validate {kind : CompatibilityProfileKind}
    (h : (CompatibilityProfile.forKind kind).validate sdp isTransmit = .ok ()) :
    1 ≤ sdp.sampleRate.toNat := by
  have hrates : (CompatibilityProfile.forKind kind).allowedSampleRates ≠ [] ∧
      ∀ rate ∈ (CompatibilityProfile.forKind kind).allowedSampleRates, 1 ≤ rate := by
    cases kind <;> decide
  rw [CompatibilityProfile.validate] at h
  dsimp only at h
  split_ifs at h with h1 h2 h3
  obtain ⟨rate, hrate, hnear⟩ :=
    List.any_eq_true.mp (not_not.mp fun hnone => h3 ⟨hrates.1, hnone⟩)
  have := hrates.2 rate hrate
  rw [decide_eq_true_iff, abs_lt] at hnear
  omega

theorem bytesPerSample_L16 : PacketBudget.bytesPerSample "L16".toList = 2 := by decide

theorem bytesPerSample_L24 : PacketBudget.bytesPerSample "L24".toList = 3 := by decide

/-- What an admitted session is known by. -/
structure Sized (sdp : SDPSession) : Prop where
  sampleRate : 1 ≤ sdp.sampleRate.toNat
  numChannels : 0 < sdp.numChannels.toNat ∧ sdp.numChannels.toNat ≤ 128
  bytes : (PacketBudget.size sdp).toNat *
    (PacketBudget.bytesPerSample sdp.encoding * sdp.numChannels.toNat) ≤ 1460

theorem sized_of_canAddStream (h : s.canAddStream isLocked sdp isTransmit = .ok ())
    (henc : sdp.encoding = "L16".toList ∨ sdp.encoding = "L24".toList) : Sized sdp := by
  obtain ⟨-, hchannels, hbudget, -, hprofile, -⟩ := StreamManager.canAddStream_eq_ok.mp h
  have hcount : 0 < sdp.numChannels.toNat ∧ sdp.numChannels.toNat ≤ 128 := by
    rw [StreamManager.validateChannelAvailability] at hchannels
    split_ifs at hchannels with h1
    obtain ⟨h0, h128⟩ := not_or.mp h1
    exact ⟨Nat.pos_of_ne_zero fun hz => h0 (UInt16.toNat_inj.mp hz),
      UInt16.le_iff_toNat_le.mp (UInt16.not_lt.mp h128)⟩
  have hbps : PacketBudget.bytesPerSample sdp.encoding = 2 ∨
      PacketBudget.bytesPerSample sdp.encoding = 3 :=
    henc.imp (fun he => by rw [he, bytesPerSample_L16]) fun he => by rw [he, bytesPerSample_L24]
  have hfits := StreamManager.fits_of_validatePacketBudget hbudget (by omega)
  refine ⟨sampleRate_of_validate hprofile, hcount, ?_⟩
  rw [PacketBudget.fits, decide_eq_true_iff, PacketBudget.rtpPacketBytes] at hfits
  unfold PacketBudget.size
  dsimp only
  split_ifs with h0
  · have hle : PacketBudget.bytesPerSample sdp.encoding * sdp.numChannels.toNat ≤ 3 * 128 :=
      Nat.mul_le_mul (by omega) hcount.2
    rw [UInt32.toNat_one]
    omega
  · rw [mul_comm, mul_comm (PacketBudget.bytesPerSample sdp.encoding)]
    simp only [PacketBudget.kRtpHeaderBytes, PacketBudget.kMaxRtpPacketBytes,
      PacketBudget.kEthernetMtuBytes, PacketBudget.kIpv4UdpOverheadBytes] at hfits
    omega

/-! ## The sizes agree -/

theorem transmitter_eq : RTPTransmitter.samplesPerPacket sdp =
    if (PacketBudget.size sdp).toNat > kMaxFrames then 512 else PacketBudget.size sdp := rfl

theorem receiver_eq (h : 1 ≤ sdp.sampleRate.toNat) :
    RTPReceiver.samplesPerPacket sdp = PacketBudget.size sdp := by
  rw [RTPReceiver.samplesPerPacket, max_eq_left h]
  rfl

theorem transmitter_eq_size_iff : RTPTransmitter.samplesPerPacket sdp = PacketBudget.size sdp ↔
    (PacketBudget.size sdp).toNat ≤ kMaxFrames := by
  rw [transmitter_eq]
  split_ifs with h
  · refine ⟨fun he => absurd h ?_, fun hle => absurd hle (not_le.mpr h)⟩
    rw [← he]
    decide
  · exact ⟨fun _ => not_lt.mp h, fun _ => rfl⟩

/-! ## A packet arrives -/

theorem parseFrame_sendPacket (h : payload ≠ []) :
    RTPSocket.parseFrame (RTPTransmitter.sendPacket sdp sequenceNumber timestamp ssrc payload) =
      some ⟨2, sdp.payloadType.toNat % 128, payload⟩ := by
  have hpos : 0 < payload.length := List.length_pos_iff.mpr h
  have hlen : (RTPTransmitter.sendPacket sdp sequenceNumber timestamp ssrc payload).length =
      12 + payload.length := by
    simp only [RTPTransmitter.sendPacket, List.length_append, put16, put32, List.length_cons,
      List.length_nil]
  have hdrop : (RTPTransmitter.sendPacket sdp sequenceNumber timestamp ssrc payload).drop 12 =
      payload := rfl
  have h0 : ((RTPTransmitter.sendPacket sdp sequenceNumber timestamp ssrc payload).getD 0 0).toNat =
      128 := rfl
  have h1 : ((RTPTransmitter.sendPacket sdp sequenceNumber timestamp ssrc payload).getD 1 0).toNat =
      sdp.payloadType.toNat % 128 := by
    show (UInt8.ofNat (sdp.payloadType.toNat % 128 + 0 * 128)).toNat = _
    rw [UInt8.toNat_ofNat']
    omega
  have hdrop' : (RTPTransmitter.sendPacket sdp sequenceNumber timestamp ssrc payload).drop
      (12 + 128 % 16 * 4) = payload := hdrop
  have htake : payload.take (12 + payload.length - (12 + 128 % 16 * 4)) = payload :=
    List.take_of_length_le (by omega)
  have hx : ¬ 128 / 16 % 2 = 1 := by decide
  unfold RTPSocket.parseFrame
  simp only [h0, h1, hlen, hx, false_and, if_false, Nat.sub_zero]
  rw [if_neg (by omega), if_neg (by omega), hdrop', htake, Nat.mod_mod]

theorem decode_eq {bytesPerSample : ℕ} (hb : 0 < bytesPerSample) (hc : 0 < sdp.numChannels.toNat)
    (hp : payload.length = n * (bytesPerSample * sdp.numChannels.toNat)) :
    RTPReceiver.decode bytesPerSample sdp payload = if n = 0 ∨ n > kMaxFrames then none else some n := by
  have hn : payload.length / (bytesPerSample * sdp.numChannels.toNat) = n := by
    rw [hp, Nat.mul_div_cancel _ (Nat.mul_pos hb hc)]
  unfold RTPReceiver.decode
  dsimp only
  rw [hn]
  split_ifs with h1 h2
  · rfl
  · have := Nat.mul_le_mul_right sdp.numChannels.toNat (by omega : n ≤ kMaxFrames)
    omega
  · rfl

/-- **A packet is decoded** where its payload type has seven bits and its frames fit. -/
theorem received_iff (h : Sized sdp)
    (henc : sdp.encoding = "L16".toList ∨ sdp.encoding = "L24".toList)
    (hp : payload.length = (PacketBudget.size sdp).toNat *
      (PacketBudget.bytesPerSample sdp.encoding * sdp.numChannels.toNat)) :
    RTPReceiver.received sdp
        (RTPTransmitter.sendPacket sdp sequenceNumber timestamp ssrc payload) =
      some (PacketBudget.size sdp).toNat ↔
    (PacketBudget.size sdp).toNat ≤ kMaxFrames ∧ sdp.payloadType.toNat < 128 := by
  have hpos := @PacketBudget.size_pos sdp
  have hb : 0 < PacketBudget.bytesPerSample sdp.encoding := by
    rcases henc with he | he <;> rw [he]
    · rw [bytesPerSample_L16]
      decide
    · rw [bytesPerSample_L24]
      decide
  have hlen : 0 < payload.length ∧ payload.length ≤ 1460 :=
    hp ▸ ⟨Nat.mul_pos hpos (Nat.mul_pos hb h.numChannels.1), h.bytes⟩
  have hdecode : (if sdp.encoding = "L16".toList then RTPReceiver.decodeL16 sdp payload
      else if sdp.encoding = "L24".toList then RTPReceiver.decodeL24 sdp payload else none) =
      if (PacketBudget.size sdp).toNat > kMaxFrames then none
      else some (PacketBudget.size sdp).toNat := by
    rcases henc with he | he
    · rw [he, bytesPerSample_L16] at hp
      rw [if_pos he, RTPReceiver.decodeL16, decode_eq (by decide) h.numChannels.1 hp]
      simp only [hpos.ne', false_or]
    · rw [he, bytesPerSample_L24] at hp
      rw [if_neg (by rw [he]; decide), if_pos he, RTPReceiver.decodeL24,
        decode_eq (by decide) h.numChannels.1 hp]
      simp only [hpos.ne', false_or]
  have hvalid : RTPReceiver.validatePacket sdp ⟨2, sdp.payloadType.toNat % 128, payload⟩ =
      decide (sdp.payloadType.toNat < 128) := by
    unfold RTPReceiver.validatePacket
    dsimp only
    rw [if_neg (by decide), if_neg (c := _ ∨ _) (by omega)]
    have hmod : sdp.payloadType.toNat % 128 ≠ sdp.payloadType.toNat ↔
        ¬ sdp.payloadType.toNat < 128 := by omega
    simp only [hmod]
    split_ifs with hpt <;> simp [hpt]
  unfold RTPReceiver.received
  rw [parseFrame_sendPacket (List.length_pos_iff.mp hlen.1)]
  dsimp only
  rw [hvalid, hdecode]
  by_cases hpt : sdp.payloadType.toNat < 128 <;>
    by_cases hle : (PacketBudget.size sdp).toNat > kMaxFrames
  · simp [hpt, hle]
  · simp [hpt, hle, not_lt.mp hle]
  · simp [hpt]
  · simp [hpt]

/-- **An admitted session is sent and received as it was admitted**, just when its packet holds 512
frames at most and its payload type has seven bits. -/
theorem packetSize_iff (h : s.canAddStream isLocked sdp isTransmit = .ok ())
    (henc : sdp.encoding = "L16".toList ∨ sdp.encoding = "L24".toList) :
    (RTPTransmitter.samplesPerPacket sdp = PacketBudget.size sdp ∧
      RTPReceiver.samplesPerPacket sdp = PacketBudget.size sdp ∧
      ∀ (sequenceNumber : UInt16) (timestamp ssrc : UInt32) (payload : Octets),
        payload.length = (PacketBudget.size sdp).toNat *
          (PacketBudget.bytesPerSample sdp.encoding * sdp.numChannels.toNat) →
        RTPReceiver.received sdp
          (RTPTransmitter.sendPacket sdp sequenceNumber timestamp ssrc payload) =
        some (PacketBudget.size sdp).toNat) ↔
    (PacketBudget.framesPerPacket sdp.sampleRate sdp.ptimeUs sdp.framecount).toNat ≤ 512 ∧
      sdp.payloadType.toNat < 128 := by
  have hsized := sized_of_canAddStream h henc
  have hsize : (PacketBudget.framesPerPacket sdp.sampleRate sdp.ptimeUs sdp.framecount).toNat ≤ 512 ↔
      (PacketBudget.size sdp).toNat ≤ kMaxFrames := by
    unfold PacketBudget.size
    dsimp only
    split_ifs with h0
    · rw [h0]
      decide
    · rfl
  rw [hsize, transmitter_eq_size_iff, receiver_eq hsized.sampleRate]
  constructor
  · rintro ⟨hle, -, hall⟩
    exact (received_iff hsized henc List.length_replicate).mp
      (hall 0 0 0 (List.replicate _ 0) List.length_replicate)
  · rintro ⟨hle, hpt⟩
    exact ⟨hle, rfl, fun _ _ _ _ hp => (received_iff hsized henc hp).mpr ⟨hle, hpt⟩⟩

/-- A mono session of two bytes a sample, with this many frames in a packet. -/
def monoL16 (framecount : UInt32) : SDPSession where
  connectionAddress := "239.1.1.1".toList
  encoding := "L16".toList
  numChannels := 1
  framecount

/-- A packet of 48 frames is one size for all three. -/
theorem monoL16_packetSize :
    RTPTransmitter.samplesPerPacket (monoL16 48) = PacketBudget.size (monoL16 48) :=
  ((@packetSize_iff (monoL16 48) {} (fun _ => true) true (by decide +kernel) (Or.inl rfl)).mpr
    ⟨by decide, by decide⟩).1

/-- **A session of 600 frames is let in, and sent 512 at a time**; a packet of the 600 it was
admitted with is dropped where it is received. -/
theorem monoL16_not_packetSize :
    StreamManager.canAddStream {} (fun _ => true) (monoL16 600) true = .ok () ∧
    PacketBudget.size (monoL16 600) = 600 ∧
    RTPTransmitter.samplesPerPacket (monoL16 600) = 512 ∧
    RTPReceiver.samplesPerPacket (monoL16 600) = 600 ∧
    RTPReceiver.received (monoL16 600)
      (RTPTransmitter.sendPacket (monoL16 600) 0 0 0 (List.replicate 1200 0)) = none := by
  decide +kernel

end Aes67
