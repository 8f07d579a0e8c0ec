import Aes67.Lib.SlotRing
import Aes67.Rtp.Receiver

/-!
# What a reset of the statistics does to the audio

`resetStatistics` also empties the jitter buffer and sets the number expected to `0`, but the
receiver stays connected, so no packet sets that number again. Two runs from one state, one with the
reset and one without, are compared by the packets that come afterwards.

* `Followed`, `Followed.run`: a receiver with the packets that came since, each known by its place
  in the order of arrival; `Uninterrupted`: the same ones are decoded with and without the reset;
* `Alike`, `alike_run`: receivers that differ in their statistics and time stamps decode the same
  packets;
* `Draining`: a sender that begins at `0` is decoded after the reset; `Doomed`: without it, one of
  its packets is not;
* **`uninterrupted_iff`**: a reset interrupts nothing exactly when there is nothing to reset, or
  when nothing is decoded at all.
-/

namespace Aes67.Rtp

/-- What happens next: the sender's next packet, or a tick. -/
inductive Event
  | packet
  | tick

/-- A receiver, and what became of the packets that came since it was first looked at, numbered from
`0`: which of them each slot holds, and which were decoded to the device's rings. -/
structure Followed where
  receiver : RTPReceiver
  arrived : ℕ := 0
  origin : ℕ → Option ℕ := fun _ => none
  decoded : List ℕ := []

namespace Followed

variable (t : Followed) (packets : ℕ → RTPPacket)

/-- The slot of a packet is empty, so that the packet is taken. -/
def takes (packet : RTPPacket) : Prop :=
  t.receiver.validatePacket packet = true ∧
    (t.receiver.jitterBuffer.slotOf packet.sequenceNumber.toUInt32).state = .EMPTY

instance (packet : RTPPacket) : Decidable (t.takes packet) := inferInstanceAs (Decidable (_ ∧ _))

def packet : Followed where
  receiver := t.receiver.processPacket (packets t.arrived)
  arrived := t.arrived + 1
  origin :=
    if t.takes (packets t.arrived) then
      Function.update t.origin
        (t.receiver.jitterBuffer.getIndex (packets t.arrived).sequenceNumber.toUInt32)
        (some t.arrived)
    else t.origin
  decoded := t.decoded

/-- The slot the next tick looks into. -/
def next : ℕ := t.receiver.jitterBuffer.getIndex t.receiver.expectedSequenceNumber

def tick : Followed where
  receiver := t.receiver.consumeTick.1
  arrived := t.arrived
  origin := if t.receiver.prefillComplete then Function.update t.origin t.next none else t.origin
  decoded :=
    match t.receiver.consumeTick.2 with
    | none => t.decoded
    | some output =>
      if t.receiver.decode output.outputLength = [] then t.decoded
      else t.decoded ++ (t.origin t.next).toList

def step : Event → Followed
  | .packet => t.packet packets
  | .tick => t.tick

def run (events : ℕ → Event) : ℕ → Followed
  | 0 => t
  | n + 1 => (run events n).step packets (events n)

end Followed

namespace RTPReceiver

/-- The packet of number `k` since is decoded sooner or later. -/
def Decodes (r : RTPReceiver) (packets : ℕ → RTPPacket) (events : ℕ → Event) (k : ℕ) : Prop :=
  ∃ n, k ∈ (Followed.run { receiver := r } packets events n).decoded

/-- A reset of the statistics makes no difference to the packets that come afterwards. -/
def Uninterrupted (r : RTPReceiver) : Prop :=
  ∀ (p : UInt16) (packets : ℕ → RTPPacket),
    (∀ k, (packets k).sequenceNumber = p + UInt16.ofNat k) → ∀ (events : ℕ → Event) (k : ℕ),
      r.resetStatistics.Decodes packets events k ↔ r.Decodes packets events k

/-- Some packet could be decoded to the rings: the encoding is one of the two, and the mapping
reaches the device. -/
def Decodable (r : RTPReceiver) : Prop := ∃ length ≤ slotSize, r.decode length ≠ []

/-- There is nothing a reset would change: the buffer is empty and the number expected is `0`. -/
def Settled (r : RTPReceiver) : Prop :=
  r.expectedSequenceNumber = 0 ∧ r.jitterBuffer.ready = 0

end RTPReceiver

/-! ## Receivers that differ in statistics and time stamps -/

def Slot.untimed (s : Slot) : Slot := { s with presentationTime := 0 }

theorem Slot.eq_of_untimed {x y : Slot} (h : x.untimed = y.untimed) : x.data = y.data ∧
    x.length = y.length ∧ x.sequenceNumber = y.sequenceNumber ∧ x.state = y.state := by
  simpa [Slot.untimed] using h

namespace JitterBuffer

def untimed (b : JitterBuffer) : JitterBuffer := { b with slots := fun i => (b.slots i).untimed }

variable {b c : JitterBuffer} {n : UInt32}

theorem untimed_setSlot {i v : ℕ} {x : Slot} :
    untimed { b.setSlot i x with validPackets := v } =
      { b.untimed.setSlot i x.untimed with validPackets := v } := by
  have hslots : (fun j => ((b.setSlot i x).slots j).untimed) =
      (b.untimed.setSlot i x.untimed).slots := by
    funext j
    by_cases hj : j = i
    · rw [hj, slots_setSlot_self, slots_setSlot_self]
    · rw [slots_setSlot_of_ne hj, slots_setSlot_of_ne hj]
      rfl
  unfold untimed at hslots ⊢
  rw [hslots]
  rfl

theorem eq_of_untimed (h : b.untimed = c.untimed) : b.bufferSize = c.bufferSize ∧
    b.validPackets = c.validPackets ∧ ∀ i, (b.slots i).untimed = (c.slots i).untimed := by
  injection h with hsize hslots hvalid
  exact ⟨hsize, hvalid, congrFun hslots⟩

theorem getIndex_untimed (h : b.untimed = c.untimed) : b.getIndex n = c.getIndex n := by
  unfold getIndex sequenceMask
  rw [(eq_of_untimed h).1]

theorem slotOf_untimed (h : b.untimed = c.untimed) :
    (b.slotOf n).untimed = (c.slotOf n).untimed := by
  unfold slotOf
  rw [getIndex_untimed h]
  exact (eq_of_untimed h).2.2 _

theorem untimed_addPacket (h : b.untimed = c.untimed) (data : List UInt8) (s t : UInt64) :
    (b.addPacket ⟨data, n, s⟩).1.untimed = (c.addPacket ⟨data, n, t⟩).1.untimed := by
  have hslot := slotOf_untimed (n := n) h
  obtain ⟨hdata, hlen, hnum, hstate⟩ := Slot.eq_of_untimed hslot
  have hvalid := (eq_of_untimed h).2.1
  unfold addPacket
  dsimp only
  rw [hvalid, hstate]
  split_ifs
  · exact h
  · have hfill : Slot.untimed { (b.slotOf n).fill ⟨data, n, s⟩ with state := .READY } =
        Slot.untimed { (c.slotOf n).fill ⟨data, n, t⟩ with state := .READY } := by
      unfold Slot.untimed Slot.fill
      rw [hdata]
    rw [untimed_setSlot, untimed_setSlot, hfill, h, getIndex_untimed h]

theorem untimed_getNextPacket (h : b.untimed = c.untimed) (m : ℕ) :
    (b.getNextPacket m n).1.untimed = (c.getNextPacket m n).1.untimed ∧
      (b.getNextPacket m n).2.map Output.outputLength =
        (c.getNextPacket m n).2.map Output.outputLength := by
  have hslot := slotOf_untimed (n := n) h
  obtain ⟨hdata, hlen, hnum, hstate⟩ := Slot.eq_of_untimed hslot
  have hvalid := (eq_of_untimed h).2.1
  unfold getNextPacket
  rw [hvalid, hstate]
  split_ifs
  · exact ⟨h, rfl⟩
  · have hempty : Slot.untimed { b.slotOf n with state := .EMPTY } =
        Slot.untimed { c.slotOf n with state := .EMPTY } :=
      congrArg (fun x : Slot => { x with state := .EMPTY }) hslot
    have hread : ((b.slotOf n).read m n).map Output.outputLength =
        ((c.slotOf n).read m n).map Output.outputLength := by
      unfold Slot.read
      rw [hnum, hlen]
      split_ifs <;> rfl
    refine ⟨?_, hread⟩
    dsimp only
    rw [untimed_setSlot, untimed_setSlot, hempty, h, getIndex_untimed h]

end JitterBuffer

namespace RTPReceiver

/-- The same, but for what the audio does not depend on. -/
structure Alike (r q : RTPReceiver) : Prop where
  rtp : r.rtp = q.rtp
  buffer : r.jitterBuffer.untimed = q.jitterBuffer.untimed
  expected : r.expectedSequenceNumber = q.expectedSequenceNumber
  connected : r.connected = q.connected
  prefillComplete : r.prefillComplete = q.prefillComplete
  prefillPacketCount : r.prefillPacketCount = q.prefillPacketCount

variable {r q : RTPReceiver}

theorem alike_processPacket (h : Alike r q) (packet : RTPPacket) :
    Alike (r.processPacket packet) (q.processPacket packet) := by
  have hvq : r.validatePacket packet = q.validatePacket packet := validatePacket_congr h.rtp
  cases hv : q.validatePacket packet with
  | false =>
    rw [processPacket_of_invalid (hvq.trans hv), processPacket_of_invalid hv]
    exact ⟨h.rtp, h.buffer, h.expected, h.connected, h.prefillComplete, h.prefillPacketCount⟩
  | true =>
    obtain ⟨⟨s, r1⟩, r2, r3, r4, r5, r6⟩ := processPacket_spec (hvq.trans hv)
    obtain ⟨⟨t, q1⟩, q2, q3, q4, q5, q6⟩ := processPacket_spec hv
    refine ⟨?_, ?_, ?_, r3.trans q3.symm, ?_, ?_⟩
    · rw [r4, q4, h.rtp]
    · rw [r1, q1]
      exact JitterBuffer.untimed_addPacket h.buffer _ s t
    · rw [r2, q2, h.connected, h.expected]
    · rw [r5, q5, h.prefillComplete]
    · rw [r6, q6, h.prefillPacketCount]

theorem alike_consume (h : Alike r q) : Alike r.consume.1 q.consume.1 ∧
    r.consume.2.map Output.outputLength = q.consume.2.map Output.outputLength := by
  obtain ⟨r1, r2, r3, r4, r5, r6, r7⟩ := r.consume_spec
  obtain ⟨q1, q2, q3, q4, q5, q6, q7⟩ := q.consume_spec
  have hget := JitterBuffer.untimed_getNextPacket (n := q.expectedSequenceNumber) h.buffer slotSize
  rw [h.expected] at r1 r2 r3
  rw [← r1, ← q1, ← r2, ← q2] at hget
  obtain ⟨hbuf, hout⟩ := hget
  have hgot : r.consume.2.isSome = q.consume.2.isSome := by
    have := congrArg Option.isSome hout
    rwa [Option.isSome_map, Option.isSome_map] at this
  refine ⟨⟨?_, hbuf, ?_, ?_, ?_, ?_⟩, hout⟩
  · rw [r5, q5, h.rtp]
  · rw [r3, q3, hgot, (JitterBuffer.eq_of_untimed hbuf).2.1]
  · rw [r4, q4, h.connected]
  · rw [r6, q6, h.prefillComplete]
  · rw [r7, q7, h.prefillPacketCount]

theorem alike_consumeTick (h : Alike r q) : Alike r.consumeTick.1 q.consumeTick.1 ∧
    r.consumeTick.2.map Output.outputLength = q.consumeTick.2.map Output.outputLength := by
  unfold consumeTick JitterBuffer.getBufferedPacketCount
  rw [h.prefillComplete, h.prefillPacketCount, (JitterBuffer.eq_of_untimed h.buffer).2.1]
  split_ifs
  · exact alike_consume h
  · exact ⟨⟨h.rtp, h.buffer, h.expected, h.connected, rfl, rfl⟩, rfl⟩
  · exact ⟨h, rfl⟩

/-- Where there is nothing to reset, the receiver is the same afterwards but for its statistics. -/
theorem alike_resetStatistics (hb : r.jitterBuffer.Between) (h : r.Settled) :
    Alike r.resetStatistics r := by
  obtain ⟨he, h0⟩ := h
  have hempty : ∀ i < r.jitterBuffer.bufferSize, (r.jitterBuffer.slots i).state = .EMPTY := by
    intro i hi
    rw [← JitterBuffer.held_eq_none hb hi]
    by_contra hne
    have := JitterBuffer.ready_pos_iff.mpr ⟨i, hi, hne⟩
    omega
  have hreset : r.jitterBuffer.reset = r.jitterBuffer := by
    have hslots : r.jitterBuffer.reset.slots = r.jitterBuffer.slots := by
      funext i
      show (if i < _ then { r.jitterBuffer.slots i with state := .EMPTY } else _) = _
      split_ifs with hi
      · rw [← hempty i hi]
      · rfl
    have hvalid : r.jitterBuffer.reset.validPackets = r.jitterBuffer.validPackets :=
      h0.symm.trans hb.count.symm
    calc r.jitterBuffer.reset
        = ⟨r.jitterBuffer.bufferSize, r.jitterBuffer.reset.slots,
            r.jitterBuffer.reset.validPackets⟩ := rfl
      _ = r.jitterBuffer := by rw [hslots, hvalid]
  exact ⟨rfl, congrArg JitterBuffer.untimed hreset, he.symm, rfl, rfl, rfl⟩

end RTPReceiver

namespace Followed

variable {packets : ℕ → RTPPacket} {events : ℕ → Event} {t u : Followed}

/-- The same packets in the same slots, and the same packets decoded. -/
structure Alike (t u : Followed) : Prop where
  receiver : t.receiver.Alike u.receiver
  arrived : t.arrived = u.arrived
  origin : t.origin = u.origin
  decoded : t.decoded = u.decoded

theorem alike_packet (h : Alike t u) : Alike (t.packet packets) (u.packet packets) := by
  have hslot := JitterBuffer.slotOf_untimed
    (n := (packets u.arrived).sequenceNumber.toUInt32) h.receiver.buffer
  have htakes : t.takes (packets u.arrived) ↔ u.takes (packets u.arrived) := by
    unfold takes
    rw [RTPReceiver.validatePacket_congr h.receiver.rtp, (Slot.eq_of_untimed hslot).2.2.2]
  refine ⟨?_, ?_, ?_, h.decoded⟩
  · show (t.receiver.processPacket (packets t.arrived)).Alike _
    rw [h.arrived]
    exact RTPReceiver.alike_processPacket h.receiver _
  · show t.arrived + 1 = u.arrived + 1
    rw [h.arrived]
  · show (if t.takes (packets t.arrived) then _ else _) = if _ then _ else _
    rw [h.arrived, h.origin, JitterBuffer.getIndex_untimed h.receiver.buffer]
    simp only [htakes]

theorem next_alike (h : Alike t u) : t.next = u.next := by
  unfold next
  rw [h.receiver.expected]
  exact JitterBuffer.getIndex_untimed h.receiver.buffer

theorem alike_tick (h : Alike t u) : Alike t.tick u.tick := by
  obtain ⟨hr, hout⟩ := RTPReceiver.alike_consumeTick h.receiver
  refine ⟨hr, h.arrived, ?_, ?_⟩
  · show (if t.receiver.prefillComplete then _ else _) = if _ then _ else _
    rw [h.receiver.prefillComplete, h.origin, next_alike h]
  · unfold tick
    dsimp only
    rw [h.decoded, h.origin, next_alike h]
    cases ht : t.receiver.consumeTick.2 with
    | none =>
      cases hu : u.receiver.consumeTick.2 with
      | none => rfl
      | some o => simp [ht, hu] at hout
    | some o =>
      cases hu : u.receiver.consumeTick.2 with
      | none => simp [ht, hu] at hout
      | some o' =>
        rw [ht, hu] at hout
        dsimp only
        rw [Option.some.inj hout, RTPReceiver.decode_congr h.receiver.rtp]

/-- **Alike receivers decode the same packets.** -/
theorem alike_run (h : Alike t u) (n : ℕ) :
    Alike (t.run packets events n) (u.run packets events n) := by
  induction n with
  | zero => exact h
  | succ n ih =>
    rw [run, run]
    cases events n with
    | packet => exact alike_packet ih
    | tick => exact alike_tick ih

end Followed

/-! ## Receivers that decode nothing -/

namespace RTPReceiver

variable {r : RTPReceiver}

theorem rtp_processPacket (packet : RTPPacket) : (r.processPacket packet).rtp = r.rtp := by
  cases hv : r.validatePacket packet with
  | false => rw [processPacket_of_invalid hv]
  | true => exact (processPacket_spec hv).2.2.2.1

theorem rtp_consumeTick : r.consumeTick.1.rtp = r.rtp := by
  unfold consumeTick
  split_ifs
  · exact r.consume_spec.2.2.2.2.1
  · rfl
  · rfl

end RTPReceiver

/-- What the reader of a slot gets is as long as the packet in it, and no longer than a slot. -/
theorem Slot.outputLength_of_read {x : Slot} {m : ℕ} {n : UInt32} {o : Output}
    (h : x.read m n = some o) : o.outputLength = x.length ∧ x.length ≤ m := by
  unfold Slot.read at h
  split_ifs at h with hn hlen
  cases h
  exact ⟨rfl, not_lt.mp hlen⟩

namespace JitterBuffer

variable {b : JitterBuffer} {p : Packet} {m : ℕ} {n : UInt32} {i : ℕ}

theorem outputLength_of_getNextPacket {o : Output} (h : (b.getNextPacket m n).2 = some o) :
    o.outputLength = (b.slotOf n).length ∧ (b.slotOf n).length ≤ m := by
  unfold getNextPacket at h
  split_ifs at h
  exact Slot.outputLength_of_read h

theorem slots_getNextPacket_of_ne (h : i ≠ b.getIndex n) :
    (b.getNextPacket m n).1.slots i = b.slots i := by
  unfold getNextPacket
  split_ifs
  · rfl
  · exact slots_setSlot_of_ne h

theorem slots_addPacket_of_ne (h : i ≠ b.getIndex p.sequenceNumber) :
    (b.addPacket p).1.slots i = b.slots i := by
  unfold addPacket
  split_ifs
  · rfl
  · exact slots_setSlot_of_ne h

theorem length_addPacket (h : (b.slotOf p.sequenceNumber).state = .EMPTY) :
    ((b.addPacket p).1.slotOf p.sequenceNumber).length = min p.packetData.length slotSize := by
  rw [addPacket, if_neg (not_not.mpr h)]
  exact congrArg Slot.length slotOf_setSlot

end JitterBuffer

namespace Followed

variable {packets : ℕ → RTPPacket} {events : ℕ → Event} {t : Followed}

theorem outputLength_le {o : Output} (h : t.receiver.consumeTick.2 = some o) :
    o.outputLength ≤ slotSize := by
  unfold RTPReceiver.consumeTick at h
  split_ifs at h
  rw [t.receiver.consume_spec.2.1] at h
  obtain ⟨ho, hle⟩ := JitterBuffer.outputLength_of_getNextPacket h
  omega

/-- **Nothing is decoded** where no packet can be. -/
theorem decoded_run_of_not_decodable (h : ¬ t.receiver.Decodable) (h0 : t.decoded = []) (n : ℕ) :
    (t.run packets events n).receiver.rtp = t.receiver.rtp ∧
      (t.run packets events n).decoded = [] := by
  induction n with
  | zero => exact ⟨rfl, h0⟩
  | succ n ih =>
    obtain ⟨hrtp, hdec⟩ := ih
    rw [run]
    generalize t.run packets events n = u at hrtp hdec
    cases events n with
    | packet => exact ⟨(RTPReceiver.rtp_processPacket _).trans hrtp, hdec⟩
    | tick =>
      refine ⟨RTPReceiver.rtp_consumeTick.trans hrtp, ?_⟩
      show u.tick.decoded = []
      unfold tick
      dsimp only
      cases ho : u.receiver.consumeTick.2 with
      | none => exact hdec
      | some o =>
        have hnil : u.receiver.decode o.outputLength = [] := by
          by_contra hne
          rw [RTPReceiver.decode_congr hrtp] at hne
          exact h ⟨o.outputLength, outputLength_le ho, hne⟩
        dsimp only
        rw [if_pos hnil]
        exact hdec

end Followed

namespace Followed

variable {packets : ℕ → RTPPacket} {events : ℕ → Event} {t : Followed} {r : RTPReceiver}
  {length m : ℕ}

/-! ## A sender that begins at `0` -/

/-- A packet for the receiver, with number `k` and so many bytes. -/
def packetFor (r : RTPReceiver) (length k : ℕ) : RTPPacket where
  payloadType := r.rtp.sdp.payloadType
  sequenceNumber := UInt16.ofNat k
  timestamp := 0
  payload := List.replicate length 0

theorem validatePacket_packetFor (h0 : length ≠ 0) (hlen : length ≤ slotSize) (k : ℕ)
    (hrtp : t.receiver.rtp = r.rtp) : t.receiver.validatePacket (packetFor r length k) = true := by
  have hle : length ≤ 1500 := hlen
  rw [RTPReceiver.validatePacket_congr hrtp]
  simp [RTPReceiver.validatePacket, packetFor, h0, hle]

/-- While the first packets come to a receiver that is connected: each is in the slot of its number,
unless that was in use before. -/
structure Filling (r : RTPReceiver) (length m : ℕ) (t : Followed) : Prop where
  between : t.receiver.jitterBuffer.Between
  size : t.receiver.jitterBuffer.bufferSize = r.jitterBuffer.bufferSize
  rtp : t.receiver.rtp = r.rtp
  connected : t.receiver.connected = true
  expected : t.receiver.expectedSequenceNumber = r.expectedSequenceNumber
  prefillPacketCount : t.receiver.prefillPacketCount = r.prefillPacketCount
  arrived : t.arrived = m
  held : ∀ i, t.receiver.jitterBuffer.held i =
    if i < m ∧ r.jitterBuffer.held i = none then some i else r.jitterBuffer.held i
  origin : ∀ i, t.origin i = if i < m ∧ r.jitterBuffer.held i = none then some i else none
  length : ∀ i < m, r.jitterBuffer.held i = none →
    (t.receiver.jitterBuffer.slots i).length = length
  decoded : t.decoded = []

theorem filling_zero (hb : r.jitterBuffer.Between) (hc : r.connected = true) :
    Filling r length 0 { receiver := r } where
  between := hb
  size := rfl
  rtp := rfl
  connected := hc
  expected := rfl
  prefillPacketCount := rfl
  arrived := rfl
  held i := by rw [if_neg (by omega)]
  origin i := by rw [if_neg (by omega)]
  length i hi := absurd hi (by omega)
  decoded := rfl

theorem filling_packet (h : Filling r length m t) (h0 : length ≠ 0) (hlen : length ≤ slotSize)
    (hm : m < r.jitterBuffer.bufferSize) :
    Filling r length (m + 1) (t.packet (packetFor r length)) := by
  have hb := h.between
  have hle := JitterBuffer.bufferSize_le hb.size
  have hsize := h.size
  have hv := validatePacket_packetFor h0 hlen m h.rtp
  have hnum : (packetFor r length m).sequenceNumber.toUInt32.toNat = m := by
    show m % 2 ^ 16 = m
    omega
  have hidx : t.receiver.jitterBuffer.getIndex (packetFor r length m).sequenceNumber.toUInt32 =
      m := by
    rw [JitterBuffer.getIndex_eq hb.size, hnum]
    exact Nat.mod_eq_of_lt (by omega)
  have hold : t.receiver.jitterBuffer.held m = r.jitterBuffer.held m := by
    rw [h.held, if_neg fun hc => lt_irrefl m hc.1]
  have htakes : t.takes (packetFor r length m) ↔ r.jitterBuffer.held m = none := by
    rw [takes, JitterBuffer.slotOf, hidx, ← JitterBuffer.held_eq_none hb (by omega), hold]
    exact and_iff_right hv
  obtain ⟨⟨time, hbuf⟩, he, hc, hrtp, -, hpre⟩ := RTPReceiver.processPacket_spec hv
  rw [if_pos h.connected] at he
  obtain ⟨hb1, hb2, hb3⟩ := JitterBuffer.addPacket_spec hb
    ⟨(packetFor r length m).payload, (packetFor r length m).sequenceNumber.toUInt32, time⟩
  have hp : (t.packet (packetFor r length)).receiver =
      t.receiver.processPacket (packetFor r length m) := by rw [← h.arrived]; rfl
  rw [← hbuf, ← hp] at hb1 hb2 hb3
  refine ⟨hb1, hb2.trans hsize, ?_, ?_, ?_, ?_, ?_, fun i => ?_, fun i => ?_, fun i hi hheld => ?_,
    h.decoded⟩
  · rw [hp, hrtp, h.rtp]
  · rw [hp, hc]
  · rw [hp, he, h.expected]
  · rw [hp, hpre, h.prefillPacketCount]
  · show t.arrived + 1 = m + 1
    rw [h.arrived]
  · rw [hb3]
    dsimp only
    rw [hidx, hnum, hold]
    by_cases him : i = m
    · subst him
      by_cases hnone : r.jitterBuffer.held i = none
      · rw [if_pos hnone, if_pos ⟨by omega, hnone⟩, Function.update_self]
      · rw [if_neg hnone, if_neg (fun hc => hnone hc.2), hold]
    · have hupd : (if r.jitterBuffer.held m = none then
            Function.update t.receiver.jitterBuffer.held m (some m)
          else t.receiver.jitterBuffer.held) i = t.receiver.jitterBuffer.held i := by
        split_ifs
        · exact Function.update_of_ne him ..
        · rfl
      rw [hupd, h.held]
      have hlt : i < m + 1 ↔ i < m := by omega
      simp only [hlt]
  · show (if t.takes (packetFor r length t.arrived) then _ else _ : ℕ → Option ℕ) i = _
    rw [h.arrived, hidx]
    by_cases him : i = m
    · subst him
      by_cases hnone : r.jitterBuffer.held i = none
      · rw [if_pos (htakes.mpr hnone), if_pos ⟨by omega, hnone⟩, Function.update_self]
      · rw [if_neg (fun hc => hnone (htakes.mp hc)), if_neg (fun hc => hnone hc.2), h.origin,
          if_neg (by omega)]
    · have hupd : (if t.takes (packetFor r length m) then Function.update t.origin m (some m)
          else t.origin) i = t.origin i := by
        split_ifs
        · exact Function.update_of_ne him ..
        · rfl
      rw [hupd, h.origin]
      have hlt : i < m + 1 ↔ i < m := by omega
      simp only [hlt]
  · rw [hp, hbuf]
    by_cases him : i = m
    · subst him
      have hstate := (htakes.mpr hheld).2
      have hslot := JitterBuffer.length_addPacket (b := t.receiver.jitterBuffer)
        (p := ⟨(packetFor r length i).payload, (packetFor r length i).sequenceNumber.toUInt32, time⟩)
        hstate
      have hidx' : (t.receiver.jitterBuffer.addPacket ⟨(packetFor r length i).payload,
          (packetFor r length i).sequenceNumber.toUInt32, time⟩).1.getIndex
          (packetFor r length i).sequenceNumber.toUInt32 = i := by
        rw [JitterBuffer.getIndex_eq (by rw [← hbuf, ← hp]; exact hb1.size), hnum, ← hbuf, ← hp,
          hb2]
        exact Nat.mod_eq_of_lt (by omega)
      rw [JitterBuffer.slotOf, hidx'] at hslot
      rw [hslot]
      show min (List.replicate length (0 : UInt8)).length slotSize = length
      rw [List.length_replicate]
      exact Nat.min_eq_left hlen
    · rw [JitterBuffer.slots_addPacket_of_ne (by rw [hidx]; exact him)]
      exact h.length i (by omega) hheld

/-- First as many packets as there are slots, then ticks for ever. -/
def fillThenTick (r : RTPReceiver) (n : ℕ) : Event :=
  if n < r.jitterBuffer.bufferSize then .packet else .tick

theorem filling_run (r : RTPReceiver) (length : ℕ) (hb : r.jitterBuffer.Between)
    (hc : r.connected = true) (h0 : length ≠ 0) (hlen : length ≤ slotSize)
    (hm : m ≤ r.jitterBuffer.bufferSize) :
    Filling r length m (run { receiver := r } (packetFor r length) (fillThenTick r) m) := by
  induction m with
  | zero => exact filling_zero hb hc
  | succ m ih =>
    have hevent : fillThenTick r m = .packet := if_pos (by omega)
    rw [run, hevent]
    exact filling_packet (ih (by omega)) h0 hlen (by omega)

/-! ## After the reset: every one of the packets is decoded -/

/-- A buffer filled from `0` is read in its order, and is read up to `j`. -/
structure Draining (S length j : ℕ) (t : Followed) : Prop where
  between : t.receiver.jitterBuffer.Between
  size : t.receiver.jitterBuffer.bufferSize = S
  decodes : t.receiver.decode length ≠ []
  expected : t.receiver.expectedSequenceNumber.toNat = j
  held : ∀ i, j ≤ i → i < S → t.receiver.jitterBuffer.held i = some i ∧ t.origin i = some i ∧
    (t.receiver.jitterBuffer.slots i).length = length
  decoded : ∀ i < j, i ∈ t.decoded

variable {S j s : ℕ}

theorem consumeTick_of_prefilled (h : t.receiver.prefillComplete = true) :
    t.receiver.consumeTick = t.receiver.consume := if_pos h

/-- Once the cushion is there a tick decodes the next packet. -/
theorem draining_tick (h : Draining S length j t) (hpre : t.receiver.prefillComplete = true)
    (hj : j < S) :
    Draining S length (j + 1) t.tick ∧ t.tick.receiver.prefillComplete = true := by
  have hb := h.between
  have hle := JitterBuffer.bufferSize_le hb.size
  have hsize := h.size
  have hnext : t.next = j := by
    rw [next, JitterBuffer.getIndex_eq hb.size, h.expected]
    exact Nat.mod_eq_of_lt (by omega)
  have hidx : t.receiver.jitterBuffer.getIndex t.receiver.expectedSequenceNumber = j := hnext
  obtain ⟨hheld, horigin, hlength⟩ := h.held j le_rfl hj
  obtain ⟨hb1, hb2, hb3, hb4⟩ :=
    JitterBuffer.getNextPacket_spec hb t.receiver.expectedSequenceNumber
  obtain ⟨c1, c2, c3, -, c5, c6, -⟩ := t.receiver.consume_spec
  have hrec : t.tick.receiver = t.receiver.consume.1 :=
    congrArg Prod.fst (consumeTick_of_prefilled hpre)
  rw [← c1, ← hrec] at hb1 hb2 hb3
  -- the packet of number `j` is there
  have hgot : t.receiver.consume.2.isSome = true := by
    rw [c2, hb4, hidx, hheld, h.expected]
  obtain ⟨o, ho⟩ := Option.isSome_iff_exists.mp hgot
  have hout : o.outputLength = length := by
    rw [c2] at ho
    rw [(JitterBuffer.outputLength_of_getNextPacket ho).1, JitterBuffer.slotOf, hidx, hlength]
  have hdecoded : t.tick.decoded = t.decoded ++ [j] := by
    unfold tick
    dsimp only
    rw [consumeTick_of_prefilled hpre, ho]
    dsimp only
    rw [hout, if_neg h.decodes, hnext, horigin]
    rfl
  refine ⟨⟨hb1, hb2.trans hsize, ?_, ?_, fun i hi his => ?_, fun i hi => ?_⟩, ?_⟩
  · rw [hrec, RTPReceiver.decode_congr c5]
    exact h.decodes
  · rw [hrec, c3, if_pos (Or.inl hgot), RTPReceiver.next_toNat, h.expected]
    exact Nat.mod_eq_of_lt (by omega)
  · have hne : i ≠ j := by omega
    obtain ⟨h1, h2, h3⟩ := h.held i (by omega) his
    refine ⟨?_, ?_, ?_⟩
    · rw [hb3, hidx, Function.update_of_ne hne, h1]
    · show (if t.receiver.prefillComplete then _ else _ : ℕ → Option ℕ) i = _
      rw [if_pos hpre, hnext, Function.update_of_ne hne, h2]
    · rw [hrec, c1, JitterBuffer.slots_getNextPacket_of_ne (by rw [hidx]; exact hne), h3]
  · rw [hdecoded]
    rcases Nat.lt_succ_iff_lt_or_eq.mp hi with hlt | rfl
    · exact List.mem_append_left _ (h.decoded i hlt)
    · exact List.mem_append_right _ List.mem_cons_self
  · rw [hrec, c6, hpre]

/-- A full buffer is cushion enough. -/
theorem draining_prefill (h : Draining S length 0 t)
    (hpre : t.receiver.prefillComplete = false) (hcount : t.receiver.prefillPacketCount ≤ S) :
    Draining S length 0 t.tick ∧ t.tick.receiver.prefillComplete = true := by
  have hfull : t.receiver.jitterBuffer.validPackets = S := by
    rw [h.between.count, ← JitterBuffer.countBelow_held, h.size]
    have hlen : (List.range S).countP
        (fun i => (t.receiver.jitterBuffer.held i).isSome) = (List.range S).length :=
      List.countP_eq_length.mpr fun i hi => by
        rw [(h.held i (Nat.zero_le _) (List.mem_range.mp hi)).1]
        rfl
    rw [List.length_range] at hlen
    exact hlen
  have hcushion : t.receiver.jitterBuffer.getBufferedPacketCount ≥ t.receiver.prefillPacketCount :=
    hcount.trans hfull.ge
  have htick : t.receiver.consumeTick = ({ t.receiver with prefillComplete := true }, none) := by
    rw [RTPReceiver.consumeTick, if_neg (by simp [hpre]), if_pos hcushion]
  have hrec : t.tick.receiver = { t.receiver with prefillComplete := true } :=
    congrArg Prod.fst htick
  have horigin : t.tick.origin = t.origin := if_neg (by simp [hpre])
  refine ⟨⟨?_, ?_, ?_, ?_, ?_, fun i hi => absurd hi (Nat.not_lt_zero i)⟩, by rw [hrec]⟩
  · rw [hrec]
    exact h.between
  · rw [hrec]
    exact h.size
  · rw [hrec]
    exact h.decodes
  · rw [hrec]
    exact h.expected
  · rw [hrec, horigin]
    exact h.held

theorem draining_of_filling (h : Filling r length S t) (hsize : r.jitterBuffer.bufferSize = S)
    (hempty : ∀ i < S, r.jitterBuffer.held i = none) (he : r.expectedSequenceNumber = 0)
    (hd : r.decode length ≠ []) : Draining S length 0 t where
  between := h.between
  size := h.size.trans hsize
  decodes := by
    rw [RTPReceiver.decode_congr h.rtp]
    exact hd
  expected := by
    rw [h.expected, he]
    rfl
  held i _ hi := by
    refine ⟨?_, ?_, h.length i hi (hempty i hi)⟩
    · rw [h.held, if_pos ⟨hi, hempty i hi⟩]
    · rw [h.origin, if_pos ⟨hi, hempty i hi⟩]
  decoded i hi := absurd hi (Nat.not_lt_zero i)

theorem draining_run {n : ℕ} (hticks : ∀ m, n ≤ m → events m = .tick)
    (h : Draining S length 0 (t.run packets events n))
    (hpre : (t.run packets events n).receiver.prefillComplete = true) (hj : j ≤ S) :
    Draining S length j (t.run packets events (n + j)) ∧
      (t.run packets events (n + j)).receiver.prefillComplete = true := by
  induction j with
  | zero => exact ⟨h, hpre⟩
  | succ j ih =>
    obtain ⟨hd, hp⟩ := ih (by omega)
    rw [← Nat.add_assoc, run, hticks (n + j) (by omega)]
    exact draining_tick hd hp (by omega)

/-- A full buffer is read to its end. -/
theorem exists_decoded {n : ℕ} (hticks : ∀ m, n ≤ m → events m = .tick)
    (h : Draining S length 0 (t.run packets events n))
    (hcount : (t.run packets events n).receiver.prefillPacketCount ≤ S) (hs : s < S) :
    ∃ n, s ∈ (t.run packets events n).decoded := by
  cases hpre : (t.run packets events n).receiver.prefillComplete with
  | true => exact ⟨_, (draining_run hticks h hpre le_rfl).1.decoded s hs⟩
  | false =>
    obtain ⟨h1, h2⟩ := draining_prefill h hpre hcount
    have hrun : t.run packets events (n + 1) = (t.run packets events n).tick := by
      rw [run, hticks n le_rfl]
      rfl
    rw [← hrun] at h1 h2
    exact ⟨_, (draining_run (fun m hm => hticks m (by omega)) h1 h2 le_rfl).1.decoded s hs⟩

/-! ## Without the reset: one of them is not -/

/-- Packet `s` is in no slot, or it is in its own and the reader comes to that slot looking for
another number. -/
structure Doomed (s : ℕ) (t : Followed) : Prop where
  between : t.receiver.jitterBuffer.Between
  undecoded : s ∉ t.decoded
  passed : ∀ i, t.origin i = some s → i = s ∧ t.receiver.jitterBuffer.held s = some s ∧
    ∃ c < t.receiver.jitterBuffer.bufferSize,
      (t.receiver.expectedSequenceNumber.toNat + c) % t.receiver.jitterBuffer.bufferSize = s ∧
      (t.receiver.expectedSequenceNumber.toNat + c) % 65536 ≠ s

theorem doomed_tick (h : Doomed s t) : Doomed s t.tick := by
  cases hpre : t.receiver.prefillComplete with
  | false =>
    have horigin : t.tick.origin = t.origin := if_neg (by simp [hpre])
    have hnone : t.receiver.consumeTick.2 = none ∧
        t.receiver.consumeTick.1.jitterBuffer = t.receiver.jitterBuffer ∧
        t.receiver.consumeTick.1.expectedSequenceNumber = t.receiver.expectedSequenceNumber := by
      rw [RTPReceiver.consumeTick, if_neg (by simp [hpre])]
      split_ifs <;> exact ⟨rfl, rfl, rfl⟩
    obtain ⟨h1, h2, h3⟩ := hnone
    have hbuf : t.tick.receiver.jitterBuffer = t.receiver.jitterBuffer := h2
    have hexp : t.tick.receiver.expectedSequenceNumber = t.receiver.expectedSequenceNumber := h3
    have hdec : t.tick.decoded = t.decoded := by
      unfold tick
      rw [h1]
    refine ⟨hbuf ▸ h.between, hdec ▸ h.undecoded, fun i hi => ?_⟩
    rw [horigin] at hi
    rw [hbuf, hexp]
    exact h.passed i hi
  | true =>
    have hb := h.between
    obtain ⟨hb1, hb2, hb3, hb4⟩ :=
      JitterBuffer.getNextPacket_spec hb t.receiver.expectedSequenceNumber
    obtain ⟨c1, c2, c3, -⟩ := t.receiver.consume_spec
    have hrec : t.tick.receiver = t.receiver.consume.1 :=
      congrArg Prod.fst (consumeTick_of_prefilled hpre)
    rw [← c1, ← hrec] at hb1 hb2 hb3
    rw [← c2] at hb4
    have hdvd := JitterBuffer.bufferSize_dvd hb.size
    have h32 := JitterBuffer.bufferSize_ge hb.size
    have hle := JitterBuffer.bufferSize_le hb.size
    have hnext : t.next = t.receiver.expectedSequenceNumber.toNat %
        t.receiver.jitterBuffer.bufferSize := JitterBuffer.getIndex_eq hb.size _
    have hidx : t.receiver.jitterBuffer.getIndex t.receiver.expectedSequenceNumber = t.next := rfl
    -- where the reader comes to the packet's slot, it looks for another number
    have hmiss : t.origin t.next = some s → t.receiver.consume.2 = none := by
      intro ho
      obtain ⟨hs, hheld, c, hc, hslot, hnum⟩ := h.passed _ ho
      by_contra hne
      rw [← Ne, ← Option.isSome_iff_ne_none, hb4, hidx, hs, hheld] at hne
      have hes := Option.some.inj hne
      have hc0 : c = 0 :=
        SlotRing.add_mod_inj hc (by omega) (hslot.trans (hs.symm.trans hnext))
      have hsl : s < t.receiver.jitterBuffer.bufferSize := hslot ▸ Nat.mod_lt _ (by omega)
      rw [hc0, ← hes] at hnum
      omega
    have hdec : ∀ x, x ∈ t.tick.decoded →
        x ∈ t.decoded ∨ (t.receiver.consume.2.isSome = true ∧ t.origin t.next = some x) := by
      intro x hx
      unfold tick at hx
      dsimp only at hx
      rw [consumeTick_of_prefilled hpre] at hx
      cases ho : t.receiver.consume.2 with
      | none =>
        rw [ho] at hx
        exact Or.inl hx
      | some o =>
        rw [ho] at hx
        dsimp only at hx
        split_ifs at hx
        · exact Or.inl hx
        · rw [List.mem_append, Option.mem_toList] at hx
          exact hx.imp_right fun hx => ⟨rfl, hx⟩
    have horigin : t.tick.origin = Function.update t.origin t.next none := if_pos hpre
    refine ⟨hb1, fun hs => ?_, fun i hi => ?_⟩
    · rcases hdec s hs with hs | ⟨hgot, hs⟩
      · exact h.undecoded hs
      · rw [hmiss hs] at hgot
        cases hgot
    · rw [horigin] at hi
      have hin : i ≠ t.next := by
        rintro rfl
        rw [Function.update_self] at hi
        cases hi
      rw [Function.update_of_ne hin] at hi
      obtain ⟨rfl, hheld, c, hc, hslot, hnum⟩ := h.passed i hi
      have hcpos : c ≠ 0 := by
        rintro rfl
        rw [Nat.add_zero] at hslot
        exact hin (hslot.symm.trans hnext.symm)
      refine ⟨rfl, ?_, ?_⟩
      · rw [hb3, hidx, Function.update_of_ne hin, hheld]
      · rw [hb2, hrec, c3]
        split_ifs
        · refine ⟨c - 1, by omega, ?_, ?_⟩
          · rw [RTPReceiver.next_toNat, Nat.add_mod, Nat.mod_mod_of_dvd _ hdvd, ← Nat.add_mod,
              show ∀ x, x + 1 + (c - 1) = x + c by omega]
            exact hslot
          · rw [RTPReceiver.next_toNat]
            omega
        · exact ⟨c, hc, hslot, hnum⟩

theorem doomed_run {n : ℕ} (hticks : ∀ m, n ≤ m → events m = .tick)
    (h : Doomed s (t.run packets events n)) (j : ℕ) :
    Doomed s (t.run packets events (n + j)) := by
  induction j with
  | zero => exact h
  | succ j ih =>
    rw [← Nat.add_assoc, run, hticks (n + j) (by omega)]
    exact doomed_tick ih

/-- What was decoded stays so. -/
theorem decoded_mono {n k : ℕ} (hnk : n ≤ k) (h : s ∈ (t.run packets events n).decoded) :
    s ∈ (t.run packets events k).decoded := by
  induction k, hnk using Nat.le_induction with
  | base => exact h
  | succ k _ ih =>
    rw [run]
    cases events k with
    | packet => exact ih
    | tick =>
      show s ∈ (tick _).decoded
      unfold tick
      dsimp only
      split
      · exact ih
      · split_ifs
        · exact ih
        · exact List.mem_append_left _ ih

theorem not_decoded_of_doomed {n : ℕ} (hticks : ∀ m, n ≤ m → events m = .tick)
    (h : Doomed s (t.run packets events n)) : ¬ ∃ k, s ∈ (t.run packets events k).decoded := by
  rintro ⟨k, hk⟩
  exact (doomed_run hticks h k).undecoded (decoded_mono (Nat.le_add_left k n) hk)

/-- Where there is something to reset, a buffer filled from `0` holds a packet that is not heard. -/
theorem exists_doomed (h : Filling r length r.jitterBuffer.bufferSize t)
    (hlt : r.expectedSequenceNumber.toNat < 65536) (hns : ¬ r.Settled) :
    ∃ s < r.jitterBuffer.bufferSize, Doomed s t := by
  have hundecoded : ∀ s, s ∉ t.decoded := by
    intro s
    rw [h.decoded]
    exact List.not_mem_nil
  have horigin : ∀ {i s}, t.origin i = some s → i = s ∧ i < r.jitterBuffer.bufferSize ∧
      r.jitterBuffer.held i = none := by
    intro i s hi
    rw [h.origin] at hi
    split_ifs at hi with hc
    exact ⟨Option.some.inj hi, hc⟩
  have hsize := h.size
  have h32 := JitterBuffer.bufferSize_ge h.between.size
  by_cases hready : r.jitterBuffer.ready = 0
  · -- the buffer was empty, but the number expected is not `0`
    have hne : r.expectedSequenceNumber.toNat ≠ 0 := by
      intro he
      exact hns ⟨UInt32.toNat_inj.mp he, hready⟩
    have hheld : ∀ s < r.jitterBuffer.bufferSize, t.receiver.jitterBuffer.held s = some s := by
      intro s hs
      have hnone : r.jitterBuffer.held s = none := by
        by_contra hne'
        have := JitterBuffer.ready_pos_iff.mpr ⟨s, hs, hne'⟩
        omega
      rw [h.held, if_pos ⟨hs, hnone⟩]
    rcases le_or_gt (r.expectedSequenceNumber.toNat + r.jitterBuffer.bufferSize) 65536 with
      hle | hgt
    · -- the reader comes to slot `0` with a number that is a multiple of the size
      refine ⟨0, by omega, h.between, hundecoded 0, fun i hi => ⟨(horigin hi).1, ?_, ?_⟩⟩
      · exact hheld 0 (by omega)
      · rw [h.expected, hsize]
        have hmod := Nat.mod_lt r.expectedSequenceNumber.toNat (show 0 < r.jitterBuffer.bufferSize by
          omega)
        have hdiv := Nat.mod_add_div r.expectedSequenceNumber.toNat r.jitterBuffer.bufferSize
        by_cases h0 : r.expectedSequenceNumber.toNat % r.jitterBuffer.bufferSize = 0
        · exact ⟨0, by omega, h0, by omega⟩
        · refine ⟨r.jitterBuffer.bufferSize -
            r.expectedSequenceNumber.toNat % r.jitterBuffer.bufferSize, by omega, ?_, by omega⟩
          have hsum : r.expectedSequenceNumber.toNat + (r.jitterBuffer.bufferSize -
              r.expectedSequenceNumber.toNat % r.jitterBuffer.bufferSize) =
              r.jitterBuffer.bufferSize *
                (r.expectedSequenceNumber.toNat / r.jitterBuffer.bufferSize) +
              r.jitterBuffer.bufferSize := by omega
          rw [hsum, Nat.add_mod_right, Nat.mul_mod_right]
    · -- the reader's next slot holds the number one turn before
      have hs := Nat.mod_lt r.expectedSequenceNumber.toNat (show 0 < r.jitterBuffer.bufferSize by
        omega)
      have hle := JitterBuffer.bufferSize_le h.between.size
      refine ⟨_, hs, h.between, hundecoded _, fun i hi => ⟨(horigin hi).1, hheld _ hs, 0, ?_⟩⟩
      rw [h.expected, hsize, Nat.add_zero]
      exact ⟨by omega, rfl, by omega⟩
  · -- a slot that was in use refuses its packet
    obtain ⟨s, hs, hused⟩ := JitterBuffer.ready_pos_iff.mp (Nat.pos_of_ne_zero hready)
    refine ⟨s, hs, h.between, hundecoded s, fun i hi => ?_⟩
    obtain ⟨rfl, -, hnone⟩ := horigin hi
    exact absurd hnone hused

end Followed

/-! ## When a reset interrupts nothing -/

namespace RTPReceiver

variable {r : RTPReceiver}

/-- A receiver as it may be found at some time of its life. -/
def Reachable (r : RTPReceiver) : Prop :=
  ∃ sdp mapping jitterBufferDepth playoutDelaySamples, ∃ ops : List Op,
    r = ops.foldl step (construct sdp mapping jitterBufferDepth playoutDelaySamples)

theorem Reachable.inv (h : r.Reachable) : r.Inv := by
  obtain ⟨sdp, mapping, depth, delay, ops, rfl⟩ := h
  exact inv_run (inv_construct sdp mapping depth delay) ops

theorem uninterrupted_of_settled (h : r.Inv) (hs : r.Settled) : r.Uninterrupted := by
  intro p packets _ events k
  have halike : Followed.Alike { receiver := r.resetStatistics } { receiver := r } :=
    ⟨alike_resetStatistics h.between hs, rfl, rfl, rfl⟩
  unfold Decodes
  simp only [(Followed.alike_run halike _).decoded]

theorem not_decodes (h : ¬ r.Decodable) (packets : ℕ → RTPPacket) (events : ℕ → Event) (k : ℕ) :
    ¬ r.Decodes packets events k := by
  rintro ⟨n, hn⟩
  rw [(Followed.decoded_run_of_not_decodable h rfl n).2] at hn
  exact List.not_mem_nil hn

theorem uninterrupted_of_not_decodable (h : ¬ r.Decodable) : r.Uninterrupted := by
  intro p packets _ events k
  exact iff_of_false (not_decodes (r := r.resetStatistics) h packets events k)
    (not_decodes h packets events k)

theorem decode_zero : r.decode 0 = [] := by
  unfold decode decodePcm
  simp

theorem not_uninterrupted (h : r.Inv) (hrun : r.rtp.running = true) (hd : r.Decodable)
    (hs : ¬ r.Settled) : ¬ r.Uninterrupted := by
  intro hun
  obtain ⟨length, hlen, hdec⟩ := hd
  have h0 : length ≠ 0 := by
    rintro rfl
    exact hdec decode_zero
  have hc : r.connected = true := by
    cases hc : r.connected with
    | true => rfl
    | false => exact absurd (h.started hrun hc) hs
  have hreset := inv_resetStatistics h
  obtain ⟨-, -, hempty⟩ := JitterBuffer.reset_spec h.between
  have hticks : ∀ m, r.jitterBuffer.bufferSize ≤ m → Followed.fillThenTick r m = .tick :=
    fun m hm => if_neg (Nat.not_lt.mpr hm)
  -- without the reset a packet is lost
  have hfill := Followed.filling_run r length h.between hc h0 hlen le_rfl
  obtain ⟨s, hs', hdoomed⟩ := Followed.exists_doomed hfill h.expected_lt hs
  have hnot := Followed.not_decoded_of_doomed hticks hdoomed
  -- with it every one is decoded
  have hfill' := Followed.filling_run r.resetStatistics length hreset.between hc h0 hlen
    le_rfl
  have hdrain := Followed.draining_of_filling hfill' rfl
    (fun i _ => congrFun hempty i) rfl hdec
  have hyes := Followed.exists_decoded (s := s) hticks hdrain
    (hfill'.prefillPacketCount.trans_le hreset.prefill_le) hs'
  refine hnot ((hun 0 (Followed.packetFor r length) (fun k => ?_) (Followed.fillThenTick r) s).mp
    hyes)
  exact (UInt16.zero_add _).symm

/-- **When a reset of the statistics interrupts nothing**: exactly when there is nothing in the
buffer and the number expected is `0`, or when no packet can be decoded at all. -/
theorem uninterrupted_iff (r : RTPReceiver) (h : r.Reachable) (hrun : r.rtp.running = true) :
    r.Uninterrupted ↔ (r.Decodable → r.Settled) := by
  refine ⟨fun hun hd => ?_, fun hcond => ?_⟩
  · by_contra hs
    exact not_uninterrupted h.inv hrun hd hs hun
  · by_cases hd : r.Decodable
    · exact uninterrupted_of_settled h.inv (hcond hd)
    · exact uninterrupted_of_not_decodable hd

/-- A stereo receiver that was started and heard packet `5`. -/
def heard : RTPReceiver :=
  [Op.start true, Op.packet ⟨2, 97, 5, 0, [0, 0, 0, 0, 0, 0]⟩].foldl step
    (construct { connectionAddress := "239.1.1.1".toList } {} 0 0)

theorem reachable_heard : heard.Reachable := ⟨_, _, _, _, _, rfl⟩

theorem uninterrupted_iff_heard : heard.Reachable ∧ heard.rtp.running = true ∧
    (heard.Uninterrupted ↔ (heard.Decodable → heard.Settled)) :=
  ⟨reachable_heard, by decide,
    uninterrupted_iff heard reachable_heard (by decide)⟩

/-- A reset of its statistics interrupts it. -/
theorem interrupted_heard : heard.Reachable ∧ heard.rtp.running = true ∧
    ¬ heard.Uninterrupted := by
  have hrun : heard.rtp.running = true := by decide
  have hdec : heard.decode 6 ≠ [] := by decide
  have hexp : heard.expectedSequenceNumber ≠ 0 := by decide
  exact ⟨reachable_heard, hrun, not_uninterrupted reachable_heard.inv hrun
    ⟨6, by unfold slotSize; omega, hdec⟩ fun hs => hexp hs.1⟩

end RTPReceiver

end Aes67.Rtp
