import Mathlib

/-!
# PTP messages

What the PTP engines read from the wire: bytes, timestamps, port identities, the common header
and the Announce dataset, with the 64-bit arithmetic they are put through.

* `i64`, `u64`: reduction to a signed or unsigned 64-bit word;
* `Timestamp.toNanoseconds_ofNs`: a time survives its wire form;
* `parseHeader`, `parseTimestamp`, `parsePortIdentity`, `parseAnnounce`.
-/

namespace Aes67.Ptp

/-! ## Machine words -/

/-- A signed 64-bit word. -/
def i64 (x : ℤ) : ℤ := x.bmod (2 ^ 64)

/-- An unsigned 64-bit word. -/
def u64 (x : ℤ) : ℕ := (x % 2 ^ 64).toNat

/-- A signed 8-bit word. -/
def i8 (x : ℤ) : ℤ := x.bmod (2 ^ 8)

theorem i64_of_bounds {x : ℤ} (h : -2 ^ 63 ≤ x) (h' : x < 2 ^ 63) : i64 x = x := by
  rw [i64, Int.bmod_eq_of_le] <;> omega

theorem u64_of_bounds {x : ℤ} (h : 0 ≤ x) (h' : x < 2 ^ 64) : (u64 x : ℤ) = x := by
  rw [u64, Int.emod_eq_of_lt h h', Int.toNat_of_nonneg h]

theorem u64_lt (x : ℤ) : u64 x < 2 ^ 64 := by
  rw [u64]; omega

/-! ## Bytes and timestamps -/

/-- A received datagram. -/
abbrev Datagram := List UInt8

/-- The byte at an offset. -/
def byteAt (data : Datagram) (i : ℕ) : ℕ := (data.getD i 0).toNat

/-- The big-endian number of `n` bytes. -/
def readBE (data : Datagram) (offset : ℕ) : ℕ → ℕ
  | 0 => 0
  | n + 1 => readBE data offset n * 256 + byteAt data (offset + n)

/-- `PTPTimestamp`: 48 bits of seconds in two parts, and nanoseconds. -/
structure Timestamp where
  secondsHi : ℕ := 0
  secondsLo : ℕ := 0
  nanoseconds : ℕ := 0
  deriving DecidableEq

namespace Timestamp

/-- `PTPTimestamp(uint64_t)`. -/
def ofNs (totalNs : ℕ) : Timestamp where
  secondsHi := totalNs / 1000000000 / 2 ^ 32 % 2 ^ 16
  secondsLo := totalNs / 1000000000 % 2 ^ 32
  nanoseconds := totalNs % 1000000000

/-- `PTPTimestamp::toNanoseconds`. -/
def toNanoseconds (t : Timestamp) : ℕ :=
  ((t.secondsHi * 2 ^ 32 + t.secondsLo) * 1000000000 + t.nanoseconds) % 2 ^ 64

/-- `PTPTimestamp::isZero`. -/
def isZero (t : Timestamp) : Bool := t.secondsHi = 0 ∧ t.secondsLo = 0 ∧ t.nanoseconds = 0

/-- **A time of 64 bits survives its wire form.** -/
theorem toNanoseconds_ofNs {n : ℕ} (h : n < 2 ^ 64) : (ofNs n).toNanoseconds = n := by
  have hs : n / 1000000000 / 2 ^ 32 < 2 ^ 16 := by omega
  rw [toNanoseconds, ofNs, Nat.mod_eq_of_lt hs, Nat.div_add_mod', Nat.div_add_mod',
    Nat.mod_eq_of_lt h]

theorem isZero_ofNs {n : ℕ} (h : n < 2 ^ 64) : (ofNs n).isZero = decide (n = 0) := by
  rw [isZero, decide_eq_decide]
  have hs : n / 1000000000 / 2 ^ 32 < 2 ^ 16 := by omega
  constructor
  · rintro ⟨h1, h2, h3⟩
    simp only [ofNs] at h1 h2 h3
    rw [Nat.mod_eq_of_lt hs] at h1
    omega
  · rintro rfl
    exact ⟨rfl, rfl, rfl⟩

theorem isZero_ofNs_u64 {x : ℤ} (h : 0 < x) (h' : x < 2 ^ 63) : (ofNs (u64 x)).isZero = false := by
  have := u64_of_bounds h.le (lt_trans h' (by norm_num))
  rw [isZero_ofNs (u64_lt x), decide_eq_false_iff_not]
  omega

theorem i64_toNanoseconds_u64 {x : ℤ} (h : 0 < x) (h' : x < 2 ^ 63) :
    i64 (ofNs (u64 x)).toNanoseconds = x := by
  rw [toNanoseconds_ofNs (u64_lt x), u64_of_bounds h.le (lt_trans h' (by norm_num))]
  exact i64_of_bounds (by omega) h'

end Timestamp

/-- `parseTimestamp`. -/
def parseTimestamp (data : Datagram) (offset : ℕ) : Timestamp where
  secondsHi := readBE data offset 2
  secondsLo := readBE data (offset + 2) 4
  nanoseconds := readBE data (offset + 6) 4

/-! ## Identities and headers -/

/-- The eight bytes of a clock identity, as their big-endian number. -/
abbrev ClockIdentity := ℕ

/-- `PTPPortIdentity`. -/
structure PortIdentity where
  clockIdentity : ClockIdentity := 0
  portNumber : ℕ := 0
  deriving DecidableEq

/-- `parsePortIdentity`. -/
def parsePortIdentity (data : Datagram) (offset : ℕ) : PortIdentity where
  clockIdentity := readBE data offset 8
  portNumber := readBE data (offset + 8) 2

/-- `PTPMessageType`. -/
inductive MessageType
  | Sync | Delay_Req | Pdelay_Req | Pdelay_Resp | Follow_Up | Delay_Resp | Pdelay_Resp_FU
  | Announce | Signaling | Management | other
  deriving DecidableEq

/-- The message type of a nibble. -/
def MessageType.ofCode : ℕ → MessageType
  | 0x00 => Sync
  | 0x01 => Delay_Req
  | 0x02 => Pdelay_Req
  | 0x03 => Pdelay_Resp
  | 0x08 => Follow_Up
  | 0x09 => Delay_Resp
  | 0x0A => Pdelay_Resp_FU
  | 0x0B => Announce
  | 0x0C => Signaling
  | 0x0D => Management
  | _ => other

/-- `PTPHeader`, the fields the engines read. -/
structure Header where
  transportAndType : ℕ := 0
  domainNumber : ℕ := 0
  flagField : ℕ := 0
  correctionField : ℤ := 0
  sourcePortIdentity : PortIdentity := {}
  sequenceId : ℕ := 0
  logMessageInterval : ℤ := 0
  deriving DecidableEq

/-- `getMessageType`: the low nibble of octet 0. -/
def Header.getMessageType (h : Header) : MessageType := .ofCode (h.transportAndType % 16)

/-- `getMajorSdoId`: the high nibble of octet 0. -/
def Header.getMajorSdoId (h : Header) : ℕ := h.transportAndType / 16 % 16

/-- The two-step flag. -/
def Header.isTwoStep (h : Header) : Bool := h.flagField / 0x0200 % 2 = 1

/-- `kPTPHeaderSize`. -/
def kPTPHeaderSize : ℕ := 34

/-- `kTimestampOffset`. -/
def kTimestampOffset : ℕ := 34

/-- `kRequestingPortOffset`. -/
def kRequestingPortOffset : ℕ := 44

/-- `PTPSlave::parseHeader`; nothing for a short datagram or another PTP version. -/
def parseHeader (data : Datagram) : Option Header :=
  if data.length < kPTPHeaderSize then none
  else if byteAt data 1 % 16 ≠ 2 then none
  else some
    { transportAndType := byteAt data 0
      domainNumber := byteAt data 4
      flagField := readBE data 6 2
      correctionField := i64 (readBE data 8 8)
      sourcePortIdentity := parsePortIdentity data 20
      sequenceId := readBE data 30 2
      logMessageInterval := i8 (byteAt data 33) }

/-! ## Announce data -/

/-- `MasterDataset`: what the best master comparison reads. -/
structure MasterDataset where
  priority1 : ℕ := 0
  clockClass : ℕ := 0
  clockAccuracy : ℕ := 0
  offsetScaledLogVariance : ℕ := 0
  priority2 : ℕ := 0
  grandmasterIdentity : ClockIdentity := 0
  stepsRemoved : ℕ := 0
  portIdentity : PortIdentity := {}
  deriving DecidableEq

/-- `PTPAnnounceData`; `lastReceived` is on the steady clock, in nanoseconds. -/
structure AnnounceData where
  dataset : MasterDataset := {}
  timeSource : ℕ := 0
  logAnnounceInterval : ℤ := 0
  lastReceived : ℕ := 0
  deriving DecidableEq

/-- The Announce fields both engines read, received at `now`. -/
def parseAnnounce (header : Header) (data : Datagram) (now : ℕ) : AnnounceData where
  dataset :=
    { priority1 := byteAt data 47
      clockClass := byteAt data 48
      clockAccuracy := byteAt data 49
      offsetScaledLogVariance := readBE data 50 2
      priority2 := byteAt data 52
      grandmasterIdentity := readBE data 53 8
      stepsRemoved := readBE data 61 2
      portIdentity := header.sourcePortIdentity }
  timeSource := byteAt data 63
  logAnnounceInterval := header.logMessageInterval
  lastReceived := now

end Aes67.Ptp
