import Aes67.Lib.Run
import Aes67.Manager.Model
import Aes67.Rtp.JitterBuffer

/-!
# The RTP receiver

`RTPReceiver`: the network thread checks each packet and puts it into the jitter buffer
(`processPacket`); the consume thread waits for a cushion of packets and then takes one packet a
tick, in the order of their sequence numbers, and decodes it into the device's rings
(`consumeTick`). Here the calls of the two threads are whole and follow one another in any order.

* `RTPPacket`, `Statistics`, `RTPReceiver`, `construct`;
* `validatePacket`, `updateStats`, `processPacket`, `decode`, `consumeTick`;
* `start`, `stop`, `updateMapping`, `resetStatistics`;
* `Op`, `step`: what happens to a receiver in its life;
* `JitterBuffer.Between`: the buffer between two calls, `JitterBuffer.held`: the sequence numbers in
  it, with what `addPacket`, `getNextPacket` and `reset` do to them;
* `RTPReceiver.Inv`: what every receiver keeps.
-/

namespace Aes67.Rtp

/-- An RTP packet, as far as the receiver reads it. -/
structure RTPPacket where
  version : ℕ := 2
  payloadType : UInt8
  sequenceNumber : UInt16
  timestamp : UInt32
  payload : List UInt8

structure Statistics where
  packetsReceived : UInt64 := 0
  packetsLost : UInt64 := 0
  bytesReceived : UInt64 := 0
  malformedPackets : UInt64 := 0
  outOfOrderPackets : UInt64 := 0
  underruns : UInt64 := 0
  overruns : UInt64 := 0

structure RTPReceiver where
  rtp : Rtp
  jitterBuffer : JitterBuffer
  prefillPacketCount : ℕ := 6
  prefillComplete : Bool := false
  expectedSequenceNumber : UInt32 := 0
  connected : Bool := false
  stats : Statistics := {}
  lastSequenceNumber : UInt16 := 0
  firstTimestampSet : Bool := false
  firstTimestamp : UInt32 := 0

/-- `RTP::sequenceGap`: the packets lost, and whether the packet is late. -/
def sequenceGap (expected received : UInt16) : UInt16 × Bool :=
  if received = expected then (0, false)
  else if (received - expected).toNat < 2 ^ 15 then (received - expected, false)
  else (0, true)

namespace RTPReceiver

/-- The samples of one packet: `a=framecount` if there is one, else from the packet time. -/
def samplesPerPacket (sdp : Sdp.SDPSession) : UInt32 :=
  let samples :=
    if sdp.framecount > 0 then sdp.framecount
    else UInt32.ofNat ((max sdp.sampleRate.toNat 1 * sdp.ptimeUs.toNat) % 2 ^ 64 / 1000000)
  if samples = 0 then 1 else samples

def construct (sdp : Sdp.SDPSession) (mapping : ChannelMapping) (jitterBufferDepth : ℕ)
    (playoutDelaySamples : UInt32) : RTPReceiver :=
  let jitterBuffer := JitterBuffer.construct
    (if 0 < jitterBufferDepth then jitterBufferDepth else JitterBuffer.DEFAULT_BUFFER_SIZE)
  let packets := ((playoutDelaySamples + samplesPerPacket sdp - 1) / samplesPerPacket sdp).toNat
  { rtp := { sdp := sdp, mapping := mapping }
    jitterBuffer := jitterBuffer
    prefillPacketCount :=
      if playoutDelaySamples > 0 then min (max packets 1) jitterBuffer.bufferSize else 6 }

variable (r : RTPReceiver)

def validatePacket (packet : RTPPacket) : Bool :=
  packet.version = 2 ∧ packet.payloadType = r.rtp.sdp.payloadType ∧
    ¬ (packet.payload.length = 0 ∨ packet.payload.length > 1500)

/-- `updateStats`: the statistics, and the last sequence number. -/
def updateStats (sequenceNumber : UInt16) (payloadSize : ℕ) : RTPReceiver :=
  let gap := sequenceGap (r.lastSequenceNumber + 1) sequenceNumber
  let stats :=
    if r.stats.packetsReceived > 0 then
      if gap.1 > 0 then { r.stats with packetsLost := r.stats.packetsLost + gap.1.toUInt64 }
      else if gap.2 then { r.stats with outOfOrderPackets := r.stats.outOfOrderPackets + 1 }
      else r.stats
    else r.stats
  { r with
    lastSequenceNumber := sequenceNumber
    stats := { stats with
      packetsReceived := stats.packetsReceived + 1
      bytesReceived := stats.bytesReceived + UInt64.ofNat payloadSize } }

/-- The first packet since `start` sets the number expected. -/
def connect (sequenceNumber : UInt16) : RTPReceiver :=
  if r.connected then r
  else { r with connected := true, expectedSequenceNumber := sequenceNumber.toUInt32 }

/-- The presentation time of a packet, and the first timestamp recorded. -/
def present (timestamp : UInt32) : RTPReceiver × UInt64 :=
  if r.rtp.sdp.sampleRate > 0 then
    if r.firstTimestampSet then
      (r, (timestamp - r.firstTimestamp).toUInt64 * 1000000000 / r.rtp.sdp.sampleRate.toUInt64)
    else ({ r with firstTimestamp := timestamp, firstTimestampSet := true }, 0)
  else (r, 0)

/-- The end of `processPacket`: into the jitter buffer, or one overrun more. -/
def enqueue (p : Packet) : RTPReceiver :=
  match r.jitterBuffer.addPacket p with
  | (jitterBuffer, true) => { r with jitterBuffer := jitterBuffer }
  | (jitterBuffer, false) =>
    { r with
      jitterBuffer := jitterBuffer
      stats := { r.stats with overruns := r.stats.overruns + 1 } }

def processPacket (packet : RTPPacket) : RTPReceiver :=
  if !r.validatePacket packet ∨ packet.payload.length = 0 then
    { r with stats := { r.stats with malformedPackets := r.stats.malformedPackets + 1 } }
  else
    let (r, presentationTime) := ((r.connect packet.sequenceNumber).updateStats
      packet.sequenceNumber packet.payload.length).present packet.timestamp
    r.enqueue ⟨packet.payload, packet.sequenceNumber.toUInt32, presentationTime⟩

/-- `decodeL16` and `decodeL24` by their bytes per sample: the device channels whose rings are
written. The check against the size of `audioBuffer_` never fails, the buffer being sized from the
same bound. -/
def decodePcm (bytesPerSample payloadSize : ℕ) : List ℕ :=
  let frameCount := payloadSize / (bytesPerSample * r.rtp.sdp.numChannels.toNat)
  if frameCount = 0 ∨ frameCount > Rtp.kMaxFramesPerPacket then []
  else r.rtp.mapChannelsToDevice frameCount

/-- The device channels whose rings a packet taken from the buffer is written to. -/
def decode (outputLength : ℕ) : List ℕ :=
  if r.rtp.sdp.encoding = "L16".toList then r.decodePcm 2 outputLength
  else if r.rtp.sdp.encoding = "L24".toList then r.decodePcm 3 outputLength
  else []

/-- The size of `jitterReadBuffer_`. -/
def jitterReadBufferSize : ℕ := 1500

/-- One tick of the paced consumption in `consumeLoop`, and the packet it took. -/
def consume : RTPReceiver × Option Output :=
  let next := (r.expectedSequenceNumber + 1) &&& 0xFFFF
  match r.jitterBuffer.getNextPacket jitterReadBufferSize r.expectedSequenceNumber with
  | (jitterBuffer, some output) =>
    ({ r with jitterBuffer := jitterBuffer, expectedSequenceNumber := next }, some output)
  | (jitterBuffer, none) =>
    if jitterBuffer.getBufferedPacketCount > 0 then
      ({ r with
        jitterBuffer := jitterBuffer
        expectedSequenceNumber := next
        stats := { r.stats with packetsLost := r.stats.packetsLost + 1 } }, none)
    else
      ({ r with
        jitterBuffer := jitterBuffer
        stats := { r.stats with underruns := r.stats.underruns + 1 } }, none)

/-- One tick of `consumeLoop`: while the cushion is not there it is waited for. -/
def consumeTick : RTPReceiver × Option Output :=
  if r.prefillComplete then r.consume
  else if r.jitterBuffer.getBufferedPacketCount ≥ r.prefillPacketCount then
    ({ r with prefillComplete := true }, none)
  else (r, none)

def start (opens : Bool) : RTPReceiver × Bool :=
  match r.rtp.start opens with
  | (rtp, true) =>
    ({ r with
      rtp := rtp
      jitterBuffer := r.jitterBuffer.reset
      expectedSequenceNumber := 0
      prefillComplete := false }, true)
  | (_, false) => (r, false)

def stop : RTPReceiver :=
  if r.rtp.running then { r with rtp := r.rtp.stop, connected := false } else r

def updateMapping (newMapping : ChannelMapping) (opens : Bool) : RTPReceiver × Bool :=
  if !newMapping.fitsDevice r.rtp.sdp.numChannels.toNat then (r, false)
  else if r.rtp.running then
    start { r.stop with rtp := { r.stop.rtp with mapping := newMapping } } opens
  else ({ r with rtp := { r.rtp with mapping := newMapping } }, true)

def resetStatistics : RTPReceiver :=
  { r with
    stats := {}
    lastSequenceNumber := 0
    expectedSequenceNumber := 0
    firstTimestampSet := false
    firstTimestamp := 0
    jitterBuffer := r.jitterBuffer.reset }

/-- What happens to a receiver. -/
inductive Op
  | start (opens : Bool)
  | stop
  | updateMapping (newMapping : ChannelMapping) (opens : Bool)
  | resetStatistics
  | packet (packet : RTPPacket)
  | tick

/-- The threads take packets and ticks only while they run. -/
def step (r : RTPReceiver) : Op → RTPReceiver
  | .start opens => (r.start opens).1
  | .stop => r.stop
  | .updateMapping newMapping opens => (r.updateMapping newMapping opens).1
  | .resetStatistics => r.resetStatistics
  | .packet packet => if r.rtp.running then r.processPacket packet else r
  | .tick => if r.rtp.running then r.consumeTick.1 else r

end RTPReceiver

/-! ## The buffer between two calls -/

namespace JitterBuffer

/-- No call is in progress: every slot is empty or published, and the count is right. -/
structure Between (b : JitterBuffer) : Prop where
  size : b.bufferSize ∈ sizes
  state : ∀ i, (b.slots i).state = .EMPTY ∨ (b.slots i).state = .READY
  length : ∀ i, (b.slots i).length ≤ slotSize
  count : b.validPackets = b.ready

/-- The sequence numbers in the buffer, slot by slot. -/
def held (b : JitterBuffer) (i : ℕ) : Option ℕ :=
  if i < b.bufferSize ∧ (b.slots i).state = .READY then some (b.slots i).sequenceNumber.toNat
  else none

variable {b : JitterBuffer}

theorem held_eq_none {i : ℕ} (h : b.Between) (hi : i < b.bufferSize) :
    b.held i = none ↔ (b.slots i).state = .EMPTY := by
  unfold held
  rcases h.state i with hs | hs <;> simp [hs, hi]

theorem held_eq_some {i x : ℕ} (hi : i < b.bufferSize) :
    b.held i = some x ↔ (b.slots i).state = .READY ∧ (b.slots i).sequenceNumber.toNat = x := by
  unfold held
  by_cases hs : (b.slots i).state = .READY <;> simp [hs, hi]

theorem countBelow_held : countBelow Option.isSome b.held b.bufferSize = b.ready := by
  refine List.countP_congr fun i hi => ?_
  rw [List.mem_range] at hi
  unfold held Slot.isReady
  by_cases hs : (b.slots i).state = .READY <;> simp [hs, hi]

theorem ready_pos_iff : 0 < b.ready ↔ ∃ i < b.bufferSize, b.held i ≠ none := by
  rw [← countBelow_held, countBelow_pos]
  simp only [Option.isSome_iff_ne_none]

theorem held_setSlot {i : ℕ} {x : Slot} (hi : i < b.bufferSize) :
    (b.setSlot i x).held = Function.update b.held i
      (if x.state = .READY then some x.sequenceNumber.toNat else none) := by
  funext j
  by_cases hj : j = i
  · subst hj
    rw [Function.update_self, held, slots_setSlot_self]
    show (if j < b.bufferSize ∧ x.state = .READY then _ else _) = _
    simp only [hi, true_and]
  · rw [Function.update_of_ne hj, held, held, slots_setSlot_of_ne hj]
    rfl

theorem ready_le : b.ready ≤ b.bufferSize := countBelow_le

theorem Between.setSlot (h : b.Between) {i v : ℕ} {x : Slot}
    (hx : x.state = .EMPTY ∨ x.state = .READY) (hlen : x.length ≤ slotSize)
    (hv : v = (b.setSlot i x).ready) : Between { b.setSlot i x with validPackets := v } := by
  refine ⟨h.size, fun j => ?_, fun j => ?_, hv⟩
  · show ((b.setSlot i x).slots j).state = .EMPTY ∨ ((b.setSlot i x).slots j).state = .READY
    by_cases hj : j = i
    · rw [hj, slots_setSlot_self]
      exact hx
    · rw [slots_setSlot_of_ne hj]
      exact h.state j
  · show ((b.setSlot i x).slots j).length ≤ slotSize
    by_cases hj : j = i
    · rw [hj, slots_setSlot_self]
      exact hlen
    · rw [slots_setSlot_of_ne hj]
      exact h.length j

theorem Between.count_lt (h : b.Between) : b.validPackets + 1 < 2 ^ 64 := by
  have h1 := h.count
  have h2 := bufferSize_le h.size
  have h3 : b.ready ≤ b.bufferSize := ready_le
  omega

/-- What `addPacket` does between two other calls. -/
theorem addPacket_spec (h : b.Between) (p : Packet) :
    (b.addPacket p).1.Between ∧ (b.addPacket p).1.bufferSize = b.bufferSize ∧
      (b.addPacket p).1.held =
        if b.held (b.getIndex p.sequenceNumber) = none then
          Function.update b.held (b.getIndex p.sequenceNumber) (some p.sequenceNumber.toNat)
        else b.held := by
  have hi := getIndex_lt h.size p.sequenceNumber
  have hv := sizeAdd_of_lt h.count_lt
  unfold addPacket slotOf
  generalize sizeAdd b.validPackets 1 = v at hv ⊢
  by_cases hs : (b.slots (b.getIndex p.sequenceNumber)).state = .EMPTY
  · have hr := ready_setSlot
      (x := { (b.slots (b.getIndex p.sequenceNumber)).fill p with state := .READY }) hi
    rw [if_neg (by simp [hs]), if_pos rfl] at hr
    have hheld := held_setSlot
      (x := { (b.slots (b.getIndex p.sequenceNumber)).fill p with state := .READY }) hi
    rw [if_neg (not_not.mpr hs), if_pos ((held_eq_none h hi).mpr hs)]
    refine ⟨h.setSlot (Or.inr rfl) (Nat.min_le_right _ _) ?_, rfl, hheld⟩
    rw [hv, h.count]
    exact hr.symm
  · rw [if_pos hs, if_neg (fun hn => hs ((held_eq_none h hi).mp hn))]
    exact ⟨h, rfl, rfl⟩

/-- A published slot given back, and the count gone down by one. -/
theorem taken_spec (h : b.Between) {i v : ℕ} (hi : i < b.bufferSize)
    (hs : (b.slots i).state = .READY) (hv : v + 1 = b.validPackets) :
    Between { b.setSlot i { b.slots i with state := .EMPTY } with validPackets := v } ∧
      held { b.setSlot i { b.slots i with state := .EMPTY } with validPackets := v } =
        Function.update b.held i none := by
  have hr := ready_setSlot (x := { b.slots i with state := .EMPTY }) hi
  rw [if_pos hs, if_neg (by simp)] at hr
  have hheld := held_setSlot (x := { b.slots i with state := .EMPTY }) hi
  rw [if_neg (by simp)] at hheld
  refine ⟨h.setSlot (Or.inl rfl) (h.length _) ?_, hheld⟩
  have := h.count
  omega

theorem read_isSome_iff {x : Slot} {n : UInt32} (hlen : x.length ≤ slotSize) :
    (x.read slotSize n).isSome = true ↔ x.sequenceNumber = n := by
  unfold Slot.read
  by_cases hn : x.sequenceNumber = n
  · rw [if_neg (not_not.mpr hn), if_neg (not_lt.mpr hlen)]
    simp [hn]
  · rw [if_pos hn]
    simp [hn]

/-- What `getNextPacket` does between two other calls, into a buffer of the size of a slot. -/
theorem getNextPacket_spec (h : b.Between) (n : UInt32) :
    (b.getNextPacket slotSize n).1.Between ∧
      (b.getNextPacket slotSize n).1.bufferSize = b.bufferSize ∧
      (b.getNextPacket slotSize n).1.held = Function.update b.held (b.getIndex n) none ∧
      ((b.getNextPacket slotSize n).2.isSome = true ↔ b.held (b.getIndex n) = some n.toNat) := by
  have hi := getIndex_lt h.size n
  unfold getNextPacket slotOf
  by_cases hs : (b.slots (b.getIndex n)).state = .READY
  · have hpos : 0 < b.ready := countBelow_pos.mpr ⟨_, hi, by simp [Slot.isReady, hs]⟩
    have hv : sizeSub b.validPackets 1 + 1 = b.validPackets := by
      have h1 := h.count
      have h2 := h.count_lt
      rw [sizeSub_of_le (by omega) (by omega)]
      omega
    obtain ⟨hb, hheld⟩ := taken_spec h hi hs hv
    rw [if_neg (not_not.mpr hs)]
    refine ⟨hb, rfl, hheld, (read_isSome_iff (h.length _)).trans ?_⟩
    rw [held_eq_some hi, UInt32.toNat_inj]
    exact ⟨fun he => ⟨hs, he⟩, fun he => he.2⟩
  · have hnone : b.held (b.getIndex n) = none := if_neg fun hc => hs hc.2
    rw [if_pos hs]
    refine ⟨h, rfl, ?_, ?_⟩
    · funext j
      by_cases hj : j = b.getIndex n
      · rw [hj, Function.update_self, hnone]
      · rw [Function.update_of_ne hj]
    · rw [hnone]
      simp

theorem between_construct (depth : ℕ) : (construct depth).Between := by
  refine ⟨bufferSize_mem depth, fun _ => Or.inl rfl, fun _ => Nat.zero_le _, ?_⟩
  exact (countBelow_eq_zero.mpr fun _ _ => rfl).symm

theorem held_construct (depth : ℕ) : (construct depth).held = fun _ => none := by
  funext i
  exact if_neg fun hc => SlotState.noConfusion hc.2

/-- What `reset` does between two other calls. -/
theorem reset_spec (h : b.Between) :
    b.reset.Between ∧ b.reset.bufferSize = b.bufferSize ∧ b.reset.held = fun _ => none := by
  have hheld : b.reset.held = fun _ => none := by
    funext i
    refine if_neg fun hc => ?_
    have hi : i < b.bufferSize := hc.1
    have hs : (if i < b.bufferSize then { b.slots i with state := .EMPTY } else b.slots i).state =
      .READY := hc.2
    rw [if_pos hi] at hs
    cases hs
  refine ⟨⟨h.size, fun i => ?_, fun i => ?_, ?_⟩, rfl, hheld⟩
  · show (if _ then _ else _ : Slot).state = _ ∨ (if _ then _ else _ : Slot).state = _
    split_ifs
    · exact Or.inl rfl
    · exact h.state i
  · show (if _ then _ else _ : Slot).length ≤ _
    split_ifs
    · exact h.length i
    · exact h.length i
  · rw [← countBelow_held, hheld]
    exact (countBelow_eq_zero.mpr fun i _ => rfl).symm

end JitterBuffer

/-! ## What the threads do to a receiver -/

namespace RTPReceiver

variable {r : RTPReceiver}

theorem validatePacket_congr {q : RTPReceiver} {packet : RTPPacket} (h : q.rtp = r.rtp) :
    q.validatePacket packet = r.validatePacket packet := by
  unfold validatePacket
  rw [h]

theorem decode_congr {q : RTPReceiver} {length : ℕ} (h : q.rtp = r.rtp) :
    q.decode length = r.decode length := by
  unfold decode decodePcm
  rw [h]

theorem present_spec (t : UInt32) : (r.present t).1.jitterBuffer = r.jitterBuffer ∧
    (r.present t).1.expectedSequenceNumber = r.expectedSequenceNumber ∧
    (r.present t).1.connected = r.connected ∧ (r.present t).1.rtp = r.rtp ∧
    (r.present t).1.prefillComplete = r.prefillComplete ∧
    (r.present t).1.prefillPacketCount = r.prefillPacketCount := by
  unfold present
  split_ifs <;> exact ⟨rfl, rfl, rfl, rfl, rfl, rfl⟩

theorem enqueue_spec (x : Packet) :
    (r.enqueue x).jitterBuffer = (r.jitterBuffer.addPacket x).1 ∧
    (r.enqueue x).expectedSequenceNumber = r.expectedSequenceNumber ∧
    (r.enqueue x).connected = r.connected ∧ (r.enqueue x).rtp = r.rtp ∧
    (r.enqueue x).prefillComplete = r.prefillComplete ∧
    (r.enqueue x).prefillPacketCount = r.prefillPacketCount := by
  unfold enqueue
  rcases r.jitterBuffer.addPacket x with ⟨b, _ | _⟩ <;> exact ⟨rfl, rfl, rfl, rfl, rfl, rfl⟩

theorem connect_spec (n : UInt16) : (r.connect n).jitterBuffer = r.jitterBuffer ∧
    (r.connect n).expectedSequenceNumber =
      (if r.connected then r.expectedSequenceNumber else n.toUInt32) ∧
    (r.connect n).connected = true ∧ (r.connect n).rtp = r.rtp ∧
    (r.connect n).prefillComplete = r.prefillComplete ∧
    (r.connect n).prefillPacketCount = r.prefillPacketCount := by
  unfold connect
  split_ifs with hc
  · exact ⟨rfl, rfl, hc, rfl, rfl, rfl⟩
  · exact ⟨rfl, rfl, rfl, rfl, rfl, rfl⟩

/-- A packet that passes the checks goes to the jitter buffer; the first one also sets the number
expected. -/
theorem processPacket_spec {packet : RTPPacket} (h : r.validatePacket packet = true) :
    (∃ time, (r.processPacket packet).jitterBuffer =
      (r.jitterBuffer.addPacket ⟨packet.payload, packet.sequenceNumber.toUInt32, time⟩).1) ∧
    (r.processPacket packet).expectedSequenceNumber =
      (if r.connected then r.expectedSequenceNumber else packet.sequenceNumber.toUInt32) ∧
    (r.processPacket packet).connected = true ∧
    (r.processPacket packet).rtp = r.rtp ∧
    (r.processPacket packet).prefillComplete = r.prefillComplete ∧
    (r.processPacket packet).prefillPacketCount = r.prefillPacketCount := by
  have hlen : packet.payload.length ≠ 0 := by
    simp only [validatePacket, decide_eq_true_eq] at h
    exact fun h0 => h.2.2 (Or.inl h0)
  have hcheck : ¬ ((!r.validatePacket packet) = true ∨ packet.payload.length = 0) := by
    rw [h]
    simp [hlen]
  rw [processPacket, if_neg hcheck]
  dsimp only
  set q := (r.connect packet.sequenceNumber).updateStats packet.sequenceNumber
    packet.payload.length
  obtain ⟨c1, c2, c3, c4, c5, c6⟩ := r.connect_spec packet.sequenceNumber
  obtain ⟨p1, p2, p3, p4, p5, p6⟩ := q.present_spec packet.timestamp
  obtain ⟨e1, e2, e3, e4, e5, e6⟩ := (q.present packet.timestamp).1.enqueue_spec
    ⟨packet.payload, packet.sequenceNumber.toUInt32, (q.present packet.timestamp).2⟩
  refine ⟨⟨(q.present packet.timestamp).2, ?_⟩, e2.trans (p2.trans c2), e3.trans (p3.trans c3),
    e4.trans (p4.trans c4), e5.trans (p5.trans c5), e6.trans (p6.trans c6)⟩
  rw [e1, p1]
  exact congrArg (fun b => (JitterBuffer.addPacket b _).1) c1

/-- A tick takes what the slot of the expected number holds, and goes on unless it found nothing and
nothing is left. -/
theorem consume_spec :
    r.consume.1.jitterBuffer =
      (r.jitterBuffer.getNextPacket slotSize r.expectedSequenceNumber).1 ∧
    r.consume.2 = (r.jitterBuffer.getNextPacket slotSize r.expectedSequenceNumber).2 ∧
    r.consume.1.expectedSequenceNumber =
      (if r.consume.2.isSome ∨ 0 < r.consume.1.jitterBuffer.validPackets then
        (r.expectedSequenceNumber + 1) &&& 0xFFFF else r.expectedSequenceNumber) ∧
    r.consume.1.connected = r.connected ∧ r.consume.1.rtp = r.rtp ∧
    r.consume.1.prefillComplete = r.prefillComplete ∧
    r.consume.1.prefillPacketCount = r.prefillPacketCount := by
  have hsize : jitterReadBufferSize = slotSize := rfl
  unfold consume
  rw [hsize]
  rcases hg : r.jitterBuffer.getNextPacket slotSize r.expectedSequenceNumber with ⟨b, _ | output⟩
  · dsimp only
    unfold JitterBuffer.getBufferedPacketCount
    by_cases hpos : b.validPackets > 0
    · simp [hpos]
    · simp [hpos]
  · simp

theorem processPacket_of_invalid {packet : RTPPacket} (h : r.validatePacket packet = false) :
    r.processPacket packet =
      { r with stats := { r.stats with malformedPackets := r.stats.malformedPackets + 1 } } := by
  rw [processPacket, h]
  exact if_pos (Or.inl rfl)

/-- Sequence numbers go on modulo `2 ^ 16`. -/
theorem next_toNat (e : UInt32) : ((e + 1) &&& 0xFFFF).toNat = (e.toNat + 1) % 65536 := by
  rw [UInt32.toNat_and, UInt32.toNat_add]
  have hmask : (0xFFFF : UInt32).toNat = 2 ^ 16 - 1 := rfl
  rw [hmask, Nat.and_two_pow_sub_one_eq_mod]
  show (e.toNat + 1) % 2 ^ 32 % 2 ^ 16 = _
  omega

/-! ## What every receiver keeps -/

structure Inv (r : RTPReceiver) : Prop where
  between : r.jitterBuffer.Between
  expected_lt : r.expectedSequenceNumber.toNat < 65536
  prefill_pos : 1 ≤ r.prefillPacketCount
  prefill_le : r.prefillPacketCount ≤ r.jitterBuffer.bufferSize
  /-- A receiver that does not run has heard nothing. -/
  stopped : r.rtp.running = false → r.connected = false
  /-- A receiver that has heard nothing since it runs is as it was started. -/
  started : r.rtp.running = true → r.connected = false →
    r.expectedSequenceNumber = 0 ∧ r.jitterBuffer.ready = 0

theorem zero_toNat_lt : (0 : UInt32).toNat < 65536 := by decide

theorem inv_construct (sdp : Sdp.SDPSession) (mapping : ChannelMapping) (jitterBufferDepth : ℕ)
    (playoutDelaySamples : UInt32) :
    (construct sdp mapping jitterBufferDepth playoutDelaySamples).Inv := by
  unfold construct
  generalize (if 0 < jitterBufferDepth then _ else _) = depth
  have hbet := JitterBuffer.between_construct depth
  have h32 := JitterBuffer.bufferSize_ge hbet.size
  refine ⟨hbet, zero_toNat_lt, ?_, ?_, fun _ => rfl, fun h => Bool.noConfusion h⟩ <;> dsimp only
  · split_ifs
    · exact le_min (le_max_right _ _) (by omega)
    · omega
  · split_ifs
    · exact min_le_right _ _
    · omega

theorem ready_reset (h : r.jitterBuffer.Between) : r.jitterBuffer.reset.ready = 0 := by
  rw [← JitterBuffer.countBelow_held, (JitterBuffer.reset_spec h).2.2]
  exact countBelow_eq_zero.mpr fun _ _ => rfl

theorem inv_processPacket (h : r.Inv) (hr : r.rtp.running = true) (packet : RTPPacket) :
    (r.processPacket packet).Inv := by
  cases hv : r.validatePacket packet with
  | false =>
    rw [processPacket_of_invalid hv]
    exact ⟨h.between, h.expected_lt, h.prefill_pos, h.prefill_le, h.stopped, h.started⟩
  | true =>
    obtain ⟨⟨time, hb⟩, he, hc, hrtp, -, hpre⟩ := processPacket_spec hv
    obtain ⟨hb1, hb2, -⟩ := JitterBuffer.addPacket_spec h.between
      ⟨packet.payload, packet.sequenceNumber.toUInt32, time⟩
    rw [← hb] at hb1 hb2
    refine ⟨hb1, ?_, hpre ▸ h.prefill_pos, ?_, ?_, ?_⟩
    · rw [he]
      split_ifs
      · exact h.expected_lt
      · exact packet.sequenceNumber.toNat_lt
    · rw [hpre, hb2]
      exact h.prefill_le
    · rw [hrtp, hr]
      exact fun h0 => Bool.noConfusion h0
    · rw [hc]
      exact fun _ h0 => Bool.noConfusion h0

/-- A buffer without packets gives none. -/
theorem consume_of_ready_eq_zero (h : r.jitterBuffer.Between) (h0 : r.jitterBuffer.ready = 0) :
    r.consume.1.expectedSequenceNumber = r.expectedSequenceNumber ∧
      r.consume.1.jitterBuffer.ready = 0 := by
  obtain ⟨hb1, hb2, hb3, hb4⟩ := JitterBuffer.getNextPacket_spec h r.expectedSequenceNumber
  obtain ⟨c1, c2, c3, -⟩ := r.consume_spec
  have hnone : ∀ i < r.jitterBuffer.bufferSize, r.jitterBuffer.held i = none := by
    intro i hi
    by_contra hne
    have := JitterBuffer.ready_pos_iff.mpr ⟨i, hi, hne⟩
    omega
  have hleft : r.consume.1.jitterBuffer.ready = 0 := by
    by_contra hne
    obtain ⟨i, hi, hheld⟩ := JitterBuffer.ready_pos_iff.mp (Nat.pos_of_ne_zero hne)
    rw [c1, hb2] at hi
    rw [c1, hb3] at hheld
    by_cases hslot : i = r.jitterBuffer.getIndex r.expectedSequenceNumber
    · rw [hslot, Function.update_self] at hheld
      exact hheld rfl
    · rw [Function.update_of_ne hslot, hnone i hi] at hheld
      exact hheld rfl
  refine ⟨?_, hleft⟩
  have hgot : ¬ r.consume.2.isSome = true := by
    rw [c2, hb4, hnone _ (JitterBuffer.getIndex_lt h.size _)]
    simp
  rw [c3, if_neg]
  rintro (hc | hc)
  · exact hgot hc
  · rw [← c1] at hb1
    rw [hb1.count, hleft] at hc
    exact absurd hc (lt_irrefl _)

theorem inv_consumeTick (h : r.Inv) : r.consumeTick.1.Inv := by
  unfold consumeTick
  split_ifs
  · obtain ⟨hb1, hb2, -⟩ := JitterBuffer.getNextPacket_spec h.between r.expectedSequenceNumber
    obtain ⟨c1, -, c3, c4, c5, -, c7⟩ := r.consume_spec
    rw [← c1] at hb1 hb2
    refine ⟨hb1, ?_, c7 ▸ h.prefill_pos, ?_, ?_, ?_⟩
    · rw [c3]
      split_ifs
      · rw [next_toNat]
        exact Nat.mod_lt _ (by omega)
      · exact h.expected_lt
    · rw [c7, hb2]
      exact h.prefill_le
    · rw [c4, c5]
      exact h.stopped
    · rw [c4, c5]
      intro hrun hc
      obtain ⟨he, h0⟩ := h.started hrun hc
      obtain ⟨he', h0'⟩ := consume_of_ready_eq_zero h.between h0
      exact ⟨he'.trans he, h0'⟩
  · exact ⟨h.between, h.expected_lt, h.prefill_pos, h.prefill_le, h.stopped, h.started⟩
  · exact h

theorem inv_start (h : r.Inv) (opens : Bool) : (r.start opens).1.Inv := by
  unfold start
  rcases hs : r.rtp.start opens with ⟨rtp, _ | _⟩
  · exact h
  · have hc : r.connected = false := by
      cases hr : r.rtp.running with
      | false => exact h.stopped hr
      | true =>
        rw [Rtp.start, if_pos hr] at hs
        cases hs
    obtain ⟨hb, hsize, -⟩ := JitterBuffer.reset_spec h.between
    refine ⟨hb, zero_toNat_lt, h.prefill_pos, ?_, fun _ => hc, fun _ _ => ⟨rfl, ready_reset h.between⟩⟩
    rw [hsize]
    exact h.prefill_le

theorem inv_stop (h : r.Inv) : r.stop.Inv := by
  unfold stop
  split_ifs
  · exact ⟨h.between, h.expected_lt, h.prefill_pos, h.prefill_le, fun _ => rfl,
      fun h0 => Bool.noConfusion h0⟩
  · exact h

/-- The mapping is not among what the invariant is about. -/
theorem inv_mapping (h : r.Inv) (newMapping : ChannelMapping) :
    Inv { r with rtp := { r.rtp with mapping := newMapping } } :=
  ⟨h.between, h.expected_lt, h.prefill_pos, h.prefill_le, h.stopped, h.started⟩

theorem inv_updateMapping (h : r.Inv) (newMapping : ChannelMapping) (opens : Bool) :
    (r.updateMapping newMapping opens).1.Inv := by
  unfold updateMapping
  split_ifs
  · exact h
  · exact inv_start (inv_mapping (inv_stop h) newMapping) opens
  · exact inv_mapping h newMapping

theorem inv_resetStatistics (h : r.Inv) : r.resetStatistics.Inv := by
  obtain ⟨hb, hsize, -⟩ := JitterBuffer.reset_spec h.between
  refine ⟨hb, zero_toNat_lt, h.prefill_pos, ?_, h.stopped, fun _ _ => ⟨rfl, ready_reset h.between⟩⟩
  show r.prefillPacketCount ≤ r.jitterBuffer.reset.bufferSize
  rw [hsize]
  exact h.prefill_le

theorem inv_step (h : r.Inv) (op : Op) : (r.step op).Inv := by
  cases op with
  | start opens => exact inv_start h opens
  | stop => exact inv_stop h
  | updateMapping newMapping opens => exact inv_updateMapping h newMapping opens
  | resetStatistics => exact inv_resetStatistics h
  | packet packet =>
    show (if r.rtp.running then r.processPacket packet else r).Inv
    split_ifs with hr
    · exact inv_processPacket h hr packet
    · exact h
  | tick =>
    show (if r.rtp.running then r.consumeTick.1 else r).Inv
    split_ifs
    · exact inv_consumeTick h
    · exact h

/-- **Every receiver keeps the invariant**, whatever happens to it. -/
theorem inv_run (h : r.Inv) (ops : List Op) : (ops.foldl step r).Inv :=
  (always_of_step (P := Inv) (fun _ op hr => inv_step hr op) h).run

end RTPReceiver

end Aes67.Rtp
