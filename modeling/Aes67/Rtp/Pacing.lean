import Aes67.Lib.Fraction
import Aes67.Manager.PacketSize

/-!
# The pace of the transmitter

`RTPTransmitter::transmitLoop` sends a packet, waits for as long as the frames of a packet last, and
sends the next. A packet's frames rarely last a whole number of nanoseconds, so the loop keeps the
interval as a fraction and carries what the rounding leaves.

* `PacketBudget.packetInterval`: the interval as a fraction;
* `RTPTransmitter.TransmitLoop`, `turn`: what the loop carries, and one turn of it;
* `pace_spec`: a turn adds one numerator to a sum of fractions, without overflow;
* **`transmitLoop_exact`**: the time of every turn is the exact one rounded down.
-/

namespace Aes67

open Sdp (SDPSession)
open Filter Topology

namespace PacketBudget

/-- Whole nanoseconds, and a numerator over the sample rate. -/
structure PacketInterval where
  wholeNs : UInt64 := 0
  remainder : UInt32 := 0

def packetInterval (framesPerPacketCount sampleRate : UInt32) : PacketInterval :=
  if sampleRate = 0 then {}
  else
    let numerator : UInt64 := framesPerPacketCount.toUInt64 * 1000000000
    ⟨numerator / sampleRate.toUInt64, (numerator % sampleRate.toUInt64).toUInt32⟩

variable {framesPerPacketCount sampleRate : UInt32}

theorem numerator_toNat : (framesPerPacketCount.toUInt64 * 1000000000).toNat =
    framesPerPacketCount.toNat * 10 ^ 9 := by
  have := framesPerPacketCount.toNat_lt
  have hbillion : (1000000000 : UInt64).toNat = 10 ^ 9 := rfl
  rw [UInt64.toNat_mul, UInt32.toNat_toUInt64, hbillion]
  exact Nat.mod_eq_of_lt (by omega)

theorem packetInterval_wholeNs (h : 0 < sampleRate.toNat) :
    (packetInterval framesPerPacketCount sampleRate).wholeNs.toNat =
      framesPerPacketCount.toNat * 10 ^ 9 / sampleRate.toNat := by
  have h0 : sampleRate ≠ 0 := fun h0 => h.ne' (by rw [h0]; rfl)
  rw [packetInterval, if_neg h0]
  dsimp only
  rw [UInt64.toNat_div, numerator_toNat, UInt32.toNat_toUInt64]

theorem packetInterval_remainder (h : 0 < sampleRate.toNat) :
    (packetInterval framesPerPacketCount sampleRate).remainder.toNat =
      framesPerPacketCount.toNat * 10 ^ 9 % sampleRate.toNat := by
  have h0 : sampleRate ≠ 0 := fun h0 => h.ne' (by rw [h0]; rfl)
  have hlt : framesPerPacketCount.toNat * 10 ^ 9 % sampleRate.toNat < 2 ^ 32 :=
    (Nat.mod_lt _ h).trans sampleRate.toNat_lt
  rw [packetInterval, if_neg h0]
  dsimp only
  rw [UInt64.toNat_toUInt32, UInt64.toNat_mod, numerator_toNat, UInt32.toNat_toUInt64,
    Nat.mod_eq_of_lt hlt]

end PacketBudget

namespace RTPTransmitter

open PacketBudget (PacketInterval packetInterval)

/-- What `transmitLoop` carries from turn to turn; the steady clock counts nanoseconds. -/
structure TransmitLoop where
  nextTransmitTime : Int64
  remainderCarry : UInt32 := 0
  timestamp : UInt32 := 0
  sequenceNumber : UInt16 := 0
  bytesSent : UInt64 := 0

/-- The step of a turn and the carry after it. -/
def pace (exact : PacketInterval) (sampleRate remainderCarry : UInt32) : UInt64 × UInt32 :=
  let stepNs := exact.wholeNs
  let remainderCarry := remainderCarry + exact.remainder
  if sampleRate > 0 ∧ remainderCarry ≥ sampleRate then
    (stepNs + (remainderCarry / sampleRate).toUInt64, remainderCarry % sampleRate)
  else (stepNs, remainderCarry)

/-- One turn of `transmitLoop`. -/
def turn (sdp : SDPSession) (samplesPerPacket : UInt32) (s : TransmitLoop) : TransmitLoop :=
  let exact := packetInterval samplesPerPacket sdp.sampleRate
  let (stepNs, remainderCarry) := pace exact sdp.sampleRate s.remainderCarry
  let s := { s with nextTransmitTime := s.nextTransmitTime + stepNs.toInt64, remainderCarry }
  let bytesPerSample := if sdp.encoding = "L16".toList then 2
    else if sdp.encoding = "L24".toList then 3 else 0
  let payloadSize := samplesPerPacket.toNat * sdp.numChannels.toNat * bytesPerSample
  -- an unsupported encoding keeps the pace and sends nothing
  if bytesPerSample = 0 then s
  else
    { s with
      -- `sendPacket` leaves an empty payload alone
      sequenceNumber := if payloadSize = 0 then s.sequenceNumber else s.sequenceNumber + 1
      timestamp := s.timestamp + samplesPerPacket
      bytesSent := s.bytesSent + .ofNat payloadSize }

/-- `transmitLoop` after this many turns. -/
def transmitLoop (sdp : SDPSession) (samplesPerPacket : UInt32) (startTime : Int64) (n : ℕ) :
    TransmitLoop :=
  (turn sdp samplesPerPacket)^[n] { nextTransmitTime := startTime }

/-- The nanoseconds turn `n` adds. -/
def stepNs (sdp : SDPSession) (samplesPerPacket : UInt32) (startTime : Int64) (n : ℕ) : ℕ :=
  (pace (packetInterval samplesPerPacket sdp.sampleRate) sdp.sampleRate
    (transmitLoop sdp samplesPerPacket startTime n).remainderCarry).1.toNat

/-- The time accumulated in `n` turns. -/
def elapsedNs (sdp : SDPSession) (samplesPerPacket : UInt32) (startTime : Int64) (n : ℕ) : ℕ :=
  ∑ i ∈ Finset.range n, stepNs sdp samplesPerPacket startTime i

variable {sdp : SDPSession} {samplesPerPacket sampleRate carry : UInt32} {startTime : Int64}

/-! ## One turn -/

/-- A carry below the rate leaves room for the remainder. -/
theorem carry_add_lt (hR : 0 < sampleRate.toNat) (hR' : sampleRate.toNat ≤ 2 ^ 31)
    (hc : carry.toNat < sampleRate.toNat) :
    carry.toNat + (packetInterval samplesPerPacket sampleRate).remainder.toNat < 2 ^ 32 := by
  have := Nat.mod_lt (samplesPerPacket.toNat * 10 ^ 9) hR
  rw [PacketBudget.packetInterval_remainder hR]
  omega

/-- **A turn adds one numerator to the sum.** -/
theorem pace_spec (hR : 0 < sampleRate.toNat) (hR' : sampleRate.toNat ≤ 2 ^ 31)
    (hc : carry.toNat < sampleRate.toNat) (whole : ℕ) :
    let paced := pace (packetInterval samplesPerPacket sampleRate) sampleRate carry
    Fraction.Acc.add sampleRate.toNat ⟨whole, carry.toNat⟩ (samplesPerPacket.toNat * 10 ^ 9) =
      ⟨whole + paced.1.toNat, paced.2.toNat⟩ := by
  have hfit : carry.toNat + (packetInterval samplesPerPacket sampleRate).remainder.toNat < 2 ^ 32 :=
    carry_add_lt hR hR' hc
  have hsum : (carry + (packetInterval samplesPerPacket sampleRate).remainder).toNat =
      carry.toNat + samplesPerPacket.toNat * 10 ^ 9 % sampleRate.toNat := by
    rw [UInt32.toNat_add, Nat.mod_eq_of_lt hfit, PacketBudget.packetInterval_remainder hR]
  have hwhole : (packetInterval samplesPerPacket sampleRate).wholeNs.toNat =
      samplesPerPacket.toNat * 10 ^ 9 / sampleRate.toNat := PacketBudget.packetInterval_wholeNs hR
  have hpos : sampleRate > 0 := UInt32.lt_iff_toNat_lt.mpr hR
  dsimp only [pace]
  rw [Fraction.Acc.add]
  split_ifs with h
  · have hquot : samplesPerPacket.toNat * 10 ^ 9 / sampleRate.toNat < 2 ^ 62 := by
      have := samplesPerPacket.toNat_lt
      exact (Nat.div_le_self _ _).trans_lt (by omega)
    have hcarry := ((carry + (packetInterval samplesPerPacket sampleRate).remainder) /
      sampleRate).toNat_lt
    have hroom : samplesPerPacket.toNat * 10 ^ 9 / sampleRate.toNat +
        ((carry + (packetInterval samplesPerPacket sampleRate).remainder) / sampleRate).toNat <
          2 ^ 64 := by omega
    dsimp only
    rw [UInt64.toNat_add, hwhole, UInt32.toNat_toUInt64, UInt32.toNat_mod,
      Nat.mod_eq_of_lt hroom, UInt32.toNat_div, hsum, add_assoc]
  · have hlt : carry.toNat + samplesPerPacket.toNat * 10 ^ 9 % sampleRate.toNat <
        sampleRate.toNat := by
      rw [← hsum, ← UInt32.lt_iff_toNat_lt]
      exact UInt32.not_le.mp fun hge => h ⟨hpos, hge⟩
    rw [hwhole, hsum, Nat.div_eq_of_lt hlt, Nat.mod_eq_of_lt hlt, add_zero]

@[simp] theorem turn_remainderCarry (s : TransmitLoop) :
    (turn sdp samplesPerPacket s).remainderCarry =
      (pace (packetInterval samplesPerPacket sdp.sampleRate) sdp.sampleRate s.remainderCarry).2 := by
  unfold turn
  dsimp only
  split_ifs <;> rfl

@[simp] theorem turn_nextTransmitTime (s : TransmitLoop) :
    (turn sdp samplesPerPacket s).nextTransmitTime = s.nextTransmitTime +
      (pace (packetInterval samplesPerPacket sdp.sampleRate)
        sdp.sampleRate s.remainderCarry).1.toInt64 := by
  unfold turn
  dsimp only
  split_ifs <;> rfl

/-! ## Every turn -/

theorem transmitLoop_succ (n : ℕ) : transmitLoop sdp samplesPerPacket startTime (n + 1) =
    turn sdp samplesPerPacket (transmitLoop sdp samplesPerPacket startTime n) :=
  Function.iterate_succ_apply' _ _ _

/-- What the loop has slept and what it carries sum the fractions of its turns. -/
theorem sums_transmitLoop (hR : 0 < sdp.sampleRate.toNat) (hR' : sdp.sampleRate.toNat ≤ 2 ^ 31)
    (n : ℕ) :
    Fraction.Acc.Sums sdp.sampleRate.toNat (n * (samplesPerPacket.toNat * 10 ^ 9))
      ⟨elapsedNs sdp samplesPerPacket startTime n,
        (transmitLoop sdp samplesPerPacket startTime n).remainderCarry.toNat⟩ := by
  induction n with
  | zero =>
    rw [zero_mul]
    exact Fraction.Acc.sums_zero hR
  | succ n ih =>
    have hadd := ih.add (samplesPerPacket.toNat * 10 ^ 9)
    rw [pace_spec hR hR' ih.carry_lt] at hadd
    rw [Nat.succ_mul, transmitLoop_succ, turn_remainderCarry, elapsedNs, Finset.sum_range_succ]
    exact hadd

theorem ofNat_toNat_toInt64 (x : UInt64) : Int64.ofNat x.toNat = x.toInt64 := by
  rw [← UInt64.toInt64_ofNat', UInt64.ofNat_toNat]

/-- The steady clock's count is the time slept since the start. -/
theorem nextTransmitTime_eq (n : ℕ) :
    (transmitLoop sdp samplesPerPacket startTime n).nextTransmitTime =
      startTime + .ofNat (elapsedNs sdp samplesPerPacket startTime n) := by
  induction n with
  | zero => exact (Int64.add_zero _).symm
  | succ n ih =>
    rw [transmitLoop_succ, turn_nextTransmitTime, ih, elapsedNs, elapsedNs, Finset.sum_range_succ,
      Int64.ofNat_add, ← Int64.add_assoc, stepNs, ofNat_toNat_toInt64]

/-- **The pace is exact.** After any number of turns the time accumulated is that of the frames sent,
rounded down; the carry is below the rate and leaves room for the remainder, and the rate over the
whole run tends to the session's. -/
theorem transmitLoop_exact (sdp : SDPSession) (samplesPerPacket : UInt32) (startTime : Int64)
    (hF : 1 ≤ samplesPerPacket.toNat) (hR : 1 ≤ sdp.sampleRate.toNat)
    (hR' : sdp.sampleRate.toNat ≤ 2 ^ 31) :
    (∀ n,
      elapsedNs sdp samplesPerPacket startTime n =
        n * samplesPerPacket.toNat * 10 ^ 9 / sdp.sampleRate.toNat ∧
      (transmitLoop sdp samplesPerPacket startTime n).nextTransmitTime =
        startTime + .ofNat (n * samplesPerPacket.toNat * 10 ^ 9 / sdp.sampleRate.toNat) ∧
      (transmitLoop sdp samplesPerPacket startTime n).remainderCarry.toNat <
        sdp.sampleRate.toNat ∧
      (transmitLoop sdp samplesPerPacket startTime n).remainderCarry.toNat +
        (packetInterval samplesPerPacket sdp.sampleRate).remainder.toNat < 2 ^ 32) ∧
    Tendsto (fun n => ((n * samplesPerPacket.toNat * 10 ^ 9 : ℕ) : ℝ) /
      elapsedNs sdp samplesPerPacket startTime n) atTop (𝓝 (sdp.sampleRate.toNat : ℝ)) := by
  have helapsed : ∀ n, elapsedNs sdp samplesPerPacket startTime n =
      n * samplesPerPacket.toNat * 10 ^ 9 / sdp.sampleRate.toNat := fun n => by
    rw [mul_assoc]
    exact (sums_transmitLoop hR hR' n).whole_eq
  refine ⟨fun n => ⟨helapsed n, ?_, (sums_transmitLoop hR hR' n).carry_lt, ?_⟩, ?_⟩
  · rw [nextTransmitTime_eq, helapsed]
  · exact carry_add_lt hR hR' (sums_transmitLoop hR hR' n).carry_lt
  · refine (Fraction.tendsto_div_whole (p := samplesPerPacket.toNat * 10 ^ 9) (by omega) hR).congr
      fun n => ?_
    rw [helapsed, mul_assoc]

/-- A stream at 44.1 kHz and 1 ms. -/
def compactDisc : SDPSession := { sampleRate := 44100 }

/-- Ten thousand packets of 44 frames take 9.977 seconds, to the nanosecond. -/
theorem transmitLoop_exact_compactDisc :
    elapsedNs compactDisc 44 0 10000 = 9977324263 ∧
    Tendsto (fun n => ((n * 44 * 10 ^ 9 : ℕ) : ℝ) / elapsedNs compactDisc 44 0 n) atTop
      (𝓝 ((44100 : ℕ) : ℝ)) := by
  obtain ⟨hpace, hrate⟩ :=
    transmitLoop_exact compactDisc 44 0 (by decide) (by decide) (by decide)
  exact ⟨(hpace 10000).1, hrate⟩

end RTPTransmitter

end Aes67
