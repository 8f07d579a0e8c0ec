import Aes67.Lib.Cells

/-!
# The jitter buffer

`LockFreeCircularJitterBuffer`: slots indexed by sequence number modulo a power of two, each with an
atomic state, and a count of the packets stored. Here the calls are whole; `Rtp.Threads` takes them
apart into their atomic steps.

* `SlotState`, `Slot`, `JitterBuffer`;
* `nextPowerOf2`, `construct`, `getIndex`;
* `addPacket`, `getNextPacket`, `getBufferedPacketCount`, `reset`;
* `Filled.smear`, `nextPowerOf2_eq`: the smearing fills the number from its highest bit down;
* `nextPowerOf2_mem`, `bufferSize_dvd`, `getIndex_eq`: the index is the sequence number modulo the
  size, and the size divides `2 ^ 16`;
* `ready`: the number of `READY` slots; `ready_setSlot`: what a store to a slot does to it.
-/

namespace Aes67.Rtp

inductive SlotState
  | EMPTY
  | WRITING
  | READY
  | READING
  deriving DecidableEq

/-- The bytes a slot holds, `sizeof(slot.data)`. -/
def slotSize : ℕ := 1500

/-- A packet on its way into the buffer: the arguments of `addPacket`. -/
structure Packet where
  packetData : List UInt8
  sequenceNumber : UInt32
  presentationTime : UInt64
  deriving DecidableEq

/-- `LockFreeBufferPacket`. -/
structure Slot where
  data : List UInt8 := List.replicate slotSize 0
  length : ℕ := 0
  sequenceNumber : UInt32 := 0
  presentationTime : UInt64 := 0
  state : SlotState := .EMPTY

namespace Slot

def isReady (s : Slot) : Bool := s.state = .READY

/-- The slot with the packet copied into it: of the data what fits, over the old bytes. -/
def fill (s : Slot) (p : Packet) : Slot :=
  let copySize := min p.packetData.length slotSize
  { s with
    data := p.packetData.take copySize ++ s.data.drop copySize
    length := copySize
    sequenceNumber := p.sequenceNumber
    presentationTime := p.presentationTime }

end Slot

/-- What `getNextPacket` gives its caller. -/
structure Output where
  bytes : List UInt8
  outputLength : ℕ
  presentationTime : UInt64
  deriving DecidableEq

/-- What the reader of a slot makes of it: the packet asked for, if it is that packet and fits in
`bufferSize` bytes. -/
def Slot.read (s : Slot) (bufferSize : ℕ) (sequenceNumber : UInt32) : Option Output :=
  if s.sequenceNumber ≠ sequenceNumber then none
  else if bufferSize < s.length then none
  else some ⟨s.data.take s.length, s.length, s.presentationTime⟩

structure JitterBuffer where
  bufferSize : ℕ
  slots : ℕ → Slot := fun _ => {}
  validPackets : ℕ := 0

namespace JitterBuffer

/-- Rounding up by smearing the highest bit, as the source does. -/
def nextPowerOf2 (v : ℕ) : ℕ :=
  if v = 0 then 1
  else if v &&& (v - 1) = 0 then v
  else
    let v := v - 1
    let v := v ||| v >>> 1
    let v := v ||| v >>> 2
    let v := v ||| v >>> 4
    let v := v ||| v >>> 8
    let v := v ||| v >>> 16
    let v := v ||| v >>> 32
    v + 1

def MIN_BUFFER_SIZE : ℕ := 32

def MAX_BUFFER_SIZE : ℕ := 4096

def DEFAULT_BUFFER_SIZE : ℕ := 256

/-- `std::clamp`. -/
def clamp (v lo hi : ℕ) : ℕ := if v < lo then lo else if hi < v then hi else v

def construct (depth : ℕ) : JitterBuffer :=
  { bufferSize := nextPowerOf2 (clamp depth MIN_BUFFER_SIZE MAX_BUFFER_SIZE) }

variable (b : JitterBuffer)

def sequenceMask : UInt32 := UInt32.ofNat (b.bufferSize - 1)

def getIndex (sequenceNumber : UInt32) : ℕ := (sequenceNumber &&& b.sequenceMask).toNat

/-- The slot a sequence number is kept in. -/
def slotOf (sequenceNumber : UInt32) : Slot := b.slots (b.getIndex sequenceNumber)

def setSlot (i : ℕ) (s : Slot) : JitterBuffer := { b with slots := Function.update b.slots i s }

/-- The buffer with one slot's state stored. -/
def setState (i : ℕ) (st : SlotState) : JitterBuffer := b.setSlot i { b.slots i with state := st }

/-- `addPacket`: the buffer afterwards, and whether the packet was taken. -/
def addPacket (p : Packet) : JitterBuffer × Bool :=
  if (b.slotOf p.sequenceNumber).state ≠ .EMPTY then (b, false)
  else
    ({ b.setSlot (b.getIndex p.sequenceNumber)
        { (b.slotOf p.sequenceNumber).fill p with state := .READY } with
        validPackets := sizeAdd b.validPackets 1 }, true)

/-- `getNextPacket`: the buffer afterwards, and the packet if it was there. Whatever was in the slot
is gone. -/
def getNextPacket (bufferSize : ℕ) (sequenceNumber : UInt32) : JitterBuffer × Option Output :=
  if (b.slotOf sequenceNumber).state ≠ .READY then (b, none)
  else
    ({ b.setSlot (b.getIndex sequenceNumber)
        { b.slotOf sequenceNumber with state := .EMPTY } with
        validPackets := sizeSub b.validPackets 1 },
      (b.slotOf sequenceNumber).read bufferSize sequenceNumber)

def getBufferedPacketCount : ℕ := b.validPackets

def reset : JitterBuffer :=
  { b with
    slots := fun i => if i < b.bufferSize then { b.slots i with state := .EMPTY } else b.slots i
    validPackets := 0 }

/-- The number of `READY` slots. -/
def ready : ℕ := countBelow Slot.isReady b.slots b.bufferSize

/-! ## The size and the index -/

/-- The sizes a buffer can have. -/
def sizes : List ℕ := [32, 64, 128, 256, 512, 1024, 2048, 4096]

/-- The highest bit is bit `k`, and the `m` bits from it downwards are set. -/
structure Filled (x k m : ℕ) : Prop where
  lt : x < 2 ^ (k + 1)
  set : ∀ j ≤ k, k < j + m → x.testBit j = true

/-- **A shift by `m` fills twice as many.** -/
theorem Filled.smear {x k m : ℕ} (h : Filled x k m) : Filled (x ||| x >>> m) k (2 * m) where
  lt := Nat.or_lt_two_pow h.lt ((Nat.shiftRight_le x m).trans_lt h.lt)
  set j hj hk := by
    rw [Nat.testBit_or, Nat.testBit_shiftRight]
    rcases lt_or_ge k (j + m) with hnear | hfar
    · rw [h.set j hj hnear, Bool.true_or]
    · rw [h.set (m + j) (by omega) (by omega), Bool.or_true]

theorem Filled.eq {x k m : ℕ} (h : Filled x k m) (hm : k < m) : x = 2 ^ (k + 1) - 1 := by
  apply Nat.eq_of_testBit_eq
  intro j
  rw [Nat.testBit_two_pow_sub_one]
  rcases lt_or_ge j (k + 1) with hj | hj
  · rw [h.set j (by omega) (by omega), decide_eq_true hj]
  · rw [Nat.testBit_lt_two_pow (h.lt.trans_le (Nat.pow_le_pow_right (by decide) hj)),
      decide_eq_false (by omega)]

theorem nextPowerOf2_eq {v k : ℕ} (hk : k < 12) (h : 2 ^ k ≤ v - 1) (h' : v - 1 < 2 ^ (k + 1)) :
    nextPowerOf2 v = 2 ^ (k + 1) := by
  have hpos := Nat.two_pow_pos k
  have hfilled : Filled (v - 1) k 1 := by
    refine ⟨h', fun j hj hlast => ?_⟩
    obtain rfl : j = k := by omega
    exact Nat.testBit_of_two_pow_le_and_two_pow_add_one_gt h h'
  rw [nextPowerOf2, if_neg (by omega)]
  split_ifs with hself
  · -- below the power, the highest bit is that of both
    by_contra hne
    have hboth : (v &&& (v - 1)).testBit k = true := by
      rw [Nat.testBit_and, hfilled.set k le_rfl (by omega),
        Nat.testBit_of_two_pow_le_and_two_pow_add_one_gt (by omega) (by omega), Bool.and_true]
    rw [hself, Nat.zero_testBit] at hboth
    cases hboth
  · have hall := hfilled.smear.smear.smear.smear.smear.smear.eq (by omega)
    dsimp only
    rw [hall]
    have := Nat.two_pow_pos (k + 1)
    omega

/-- A depth in range is rounded up to one of the sizes. -/
theorem nextPowerOf2_mem {v : ℕ} (h : 32 ≤ v) (h' : v ≤ 4096) : nextPowerOf2 v ∈ sizes := by
  have hle : Nat.log2 (v - 1) < 12 := (Nat.log2_lt (by omega)).mpr (by omega)
  have hge : 4 ≤ Nat.log2 (v - 1) := (Nat.le_log2 (by omega)).mpr (by omega)
  rw [nextPowerOf2_eq hle (Nat.log2_self_le (by omega)) Nat.lt_log2_self]
  generalize Nat.log2 (v - 1) = k at hle hge
  interval_cases k <;> decide
theorem bufferSize_mem (depth : ℕ) : (construct depth).bufferSize ∈ sizes := by
  refine nextPowerOf2_mem ?_ ?_ <;>
  · unfold clamp MIN_BUFFER_SIZE MAX_BUFFER_SIZE
    split_ifs <;> omega

/-- The size is a power of two. -/
theorem exists_of_mem_sizes {n : ℕ} (h : n ∈ sizes) : ∃ k, 5 ≤ k ∧ k ≤ 12 ∧ n = 2 ^ k := by
  simp only [sizes, List.mem_cons, List.not_mem_nil, or_false] at h
  rcases h with rfl | rfl | rfl | rfl | rfl | rfl | rfl | rfl
  · exact ⟨5, by omega, by omega, rfl⟩
  · exact ⟨6, by omega, by omega, rfl⟩
  · exact ⟨7, by omega, by omega, rfl⟩
  · exact ⟨8, by omega, by omega, rfl⟩
  · exact ⟨9, by omega, by omega, rfl⟩
  · exact ⟨10, by omega, by omega, rfl⟩
  · exact ⟨11, by omega, by omega, rfl⟩
  · exact ⟨12, by omega, by omega, rfl⟩

variable {b}

theorem bufferSize_ge (h : b.bufferSize ∈ sizes) : 32 ≤ b.bufferSize := by
  obtain ⟨k, hk, -, he⟩ := exists_of_mem_sizes h
  rw [he, show 32 = 2 ^ 5 from rfl]
  exact Nat.pow_le_pow_right (by omega) hk

theorem bufferSize_le (h : b.bufferSize ∈ sizes) : b.bufferSize ≤ 4096 := by
  obtain ⟨k, -, hk, he⟩ := exists_of_mem_sizes h
  rw [he]
  exact Nat.pow_le_pow_right (by omega) hk

theorem bufferSize_dvd (h : b.bufferSize ∈ sizes) : b.bufferSize ∣ 65536 := by
  obtain ⟨k, -, hk, he⟩ := exists_of_mem_sizes h
  rw [he, show 65536 = 2 ^ 16 from rfl]
  exact Nat.pow_dvd_pow 2 (by omega)

/-- Masking is taking the remainder. -/
theorem getIndex_eq (h : b.bufferSize ∈ sizes) (n : UInt32) :
    b.getIndex n = n.toNat % b.bufferSize := by
  obtain ⟨k, h5, h12, hk⟩ := exists_of_mem_sizes h
  have hle : 2 ^ k ≤ 2 ^ 12 := Nat.pow_le_pow_right (by omega) h12
  have hmask : (b.bufferSize - 1) % 2 ^ 32 = 2 ^ k - 1 := by
    rw [hk]
    exact Nat.mod_eq_of_lt (by omega)
  rw [getIndex, UInt32.toNat_and, sequenceMask, UInt32.toNat_ofNat', hmask,
    Nat.and_two_pow_sub_one_eq_mod, hk]

theorem getIndex_lt (h : b.bufferSize ∈ sizes) (n : UInt32) : b.getIndex n < b.bufferSize := by
  rw [getIndex_eq h]
  obtain ⟨k, -, -, hk⟩ := exists_of_mem_sizes h
  exact Nat.mod_lt _ (hk ▸ Nat.two_pow_pos k)

/-! ## Slots and counts -/

variable {i j : ℕ} {x : Slot} {st : SlotState}

theorem slots_setSlot_self : (b.setSlot i x).slots i = x := Function.update_self ..

theorem slots_setSlot_of_ne (h : j ≠ i) : (b.setSlot i x).slots j = b.slots j :=
  Function.update_of_ne h ..

theorem slotOf_setSlot {n : UInt32} : (b.setSlot (b.getIndex n) x).slotOf n = x :=
  slots_setSlot_self

/-- What a store to a slot does to the number of `READY` slots. -/
theorem ready_setSlot (h : i < b.bufferSize) :
    ((b.setSlot i x).ready + if (b.slots i).state = .READY then 1 else 0) =
      b.ready + if x.state = .READY then 1 else 0 := by
  have h := countBelow_update (p := Slot.isReady) (f := b.slots) (x := x) h
  simp only [Slot.isReady, decide_eq_true_eq] at h
  exact h

theorem ready_setState_of_ne (h : i < b.bufferSize) (hi : (b.slots i).state ≠ .READY)
    (hst : st ≠ .READY) : (b.setState i st).ready = b.ready := by
  have hr := ready_setSlot (x := { b.slots i with state := st }) h
  rw [if_neg hi, if_neg hst] at hr
  exact hr

/-- Taking a packet out of a slot. -/
theorem ready_setState_of_ready (h : i < b.bufferSize) (hi : (b.slots i).state = .READY)
    (hst : st ≠ .READY) : (b.setState i st).ready + 1 = b.ready := by
  have hr := ready_setSlot (x := { b.slots i with state := st }) h
  rw [if_pos hi, if_neg hst] at hr
  exact hr

/-- Publishing a slot. -/
theorem ready_setState_ready (h : i < b.bufferSize) (hi : (b.slots i).state ≠ .READY) :
    (b.setState i .READY).ready = b.ready + 1 := by
  have hr := ready_setSlot (x := { b.slots i with state := .READY }) h
  rw [if_neg hi, if_pos rfl] at hr
  exact hr

end JitterBuffer

end Aes67.Rtp
