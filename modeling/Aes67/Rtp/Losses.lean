import Aes67.Lib.Arrivals
import Aes67.Rtp.Receiver

/-!
# Packets counted as lost

Both threads of a receiver add to `packetsLost`: the network thread the gap before a packet, counted
from the packet that came last, and the audio thread each number it passes over while the buffer
holds others. Here the calls of the two threads are taken apart where the one can come between the
other's, and the sequence numbers lie in a window of `2 ^ 15`.

* `RTPReceiver.hear`, `RTPReceiver.ask`, `RTPReceiver.passOver`: the halves of `processPacket` and
  of `consumeTick`, with `processPacket_eq` and `consumeTick_eq`;
* `Receiving`, `Receiving.Event`, `Receiving.step`: a receiver between its threads' steps, and what arrived;
* `Honest`: at most the packets are counted that had not arrived when a higher number had;
  `Current`: at most those that still have not;
* `Counted`, `InTime`: what a step is to be for that;
* **`honest_iff_counted`**: a run is honest just when its steps are so.
-/

namespace Aes67.Rtp

namespace RTPReceiver

variable (r : RTPReceiver)

/-- `processPacket` before the packet goes to the jitter buffer. -/
def hear (packet : RTPPacket) : RTPReceiver × Option Packet :=
  if !r.validatePacket packet ∨ packet.payload.length = 0 then
    ({ r with stats := { r.stats with malformedPackets := r.stats.malformedPackets + 1 } }, none)
  else
    let (r, presentationTime) := ((r.connect packet.sequenceNumber).updateStats
      packet.sequenceNumber packet.payload.length).present packet.timestamp
    (r, some ⟨packet.payload, packet.sequenceNumber.toUInt32, presentationTime⟩)

/-- A tick of `consumeLoop` up to where it looks how many packets there are: the number it has asked
the jitter buffer for in vain. -/
def ask : RTPReceiver × Option UInt32 :=
  if r.prefillComplete then
    match r.jitterBuffer.getNextPacket jitterReadBufferSize r.expectedSequenceNumber with
    | (jitterBuffer, some _) =>
      ({ r with
        jitterBuffer := jitterBuffer
        expectedSequenceNumber := (r.expectedSequenceNumber + 1) &&& 0xFFFF }, none)
    | (jitterBuffer, none) =>
      ({ r with jitterBuffer := jitterBuffer }, some r.expectedSequenceNumber)
  else if r.jitterBuffer.getBufferedPacketCount ≥ r.prefillPacketCount then
    ({ r with prefillComplete := true }, none)
  else (r, none)

/-- The rest of such a tick. -/
def passOver (expectedSeq : UInt32) : RTPReceiver :=
  if r.jitterBuffer.getBufferedPacketCount > 0 then
    { r with
      expectedSequenceNumber := (expectedSeq + 1) &&& 0xFFFF
      stats := { r.stats with packetsLost := r.stats.packetsLost + 1 } }
  else { r with stats := { r.stats with underruns := r.stats.underruns + 1 } }

/-- Uninterrupted, the halves of `processPacket` are the whole. -/
theorem processPacket_eq (packet : RTPPacket) :
    r.processPacket packet =
      match r.hear packet with
      | (r, some p) => r.enqueue p
      | (r, none) => r := by
  unfold processPacket hear
  split_ifs <;> rfl

/-- Uninterrupted, the halves of a tick are the whole. -/
theorem consumeTick_eq :
    r.consumeTick.1 =
      match r.ask with
      | (r, some expectedSeq) => r.passOver expectedSeq
      | (r, none) => r := by
  unfold consumeTick ask
  split_ifs
  · unfold consume passOver
    rcases r.jitterBuffer.getNextPacket jitterReadBufferSize r.expectedSequenceNumber with
      ⟨b, _ | output⟩
    · dsimp only
      split_ifs <;> rfl
    · rfl
  · rfl
  · rfl

/-- What `updateStats` adds to `packetsLost`. -/
def gap (sequenceNumber : UInt16) : UInt64 :=
  if r.stats.packetsReceived > 0 then
    (sequenceGap (r.lastSequenceNumber + 1) sequenceNumber).1.toUInt64
  else 0

/-- What the counting of losses reads and writes. -/
structure Counts (r q : RTPReceiver) (lost received : UInt64) (last : UInt16) : Prop where
  lost : q.stats.packetsLost = r.stats.packetsLost + lost
  received : q.stats.packetsReceived = r.stats.packetsReceived + received
  last : q.lastSequenceNumber = last
  rtp : q.rtp = r.rtp

variable {r}

theorem counts_of_stats {q : RTPReceiver} (hstats : q.stats = r.stats)
    (hlast : q.lastSequenceNumber = r.lastSequenceNumber) (hrtp : q.rtp = r.rtp) :
    r.Counts q 0 0 r.lastSequenceNumber := by
  refine ⟨?_, ?_, hlast, hrtp⟩ <;> rw [hstats] <;> exact (UInt64.add_zero _).symm

theorem counts_updateStats (r : RTPReceiver) (n : UInt16) (payloadSize : ℕ) :
    r.Counts (r.updateStats n payloadSize) (r.gap n) 1 n := by
  unfold updateStats gap
  generalize sequenceGap (r.lastSequenceNumber + 1) n = g
  refine ⟨?_, ?_, rfl, rfl⟩ <;> dsimp only
  · by_cases hreceived : r.stats.packetsReceived > 0
    · rw [if_pos hreceived, if_pos hreceived]
      by_cases hgap : g.1 > 0
      · rw [if_pos hgap]
      · have h0 : g.1.toUInt64 = 0 := by
          rw [show g.1 = 0 by by_contra hne; exact hgap (UInt16.pos_iff_ne_zero.mpr hne)]
          rfl
        rw [if_neg hgap, h0, UInt64.add_zero]
        split_ifs <;> rfl
    · rw [if_neg hreceived, if_neg hreceived, UInt64.add_zero]
  · split_ifs <;> rfl

/-- A packet that passes the checks is counted, with the gap before it. -/
theorem counts_hear {packet : RTPPacket} (h : r.validatePacket packet = true) :
    r.Counts (r.hear packet).1 (r.gap packet.sequenceNumber) 1 packet.sequenceNumber ∧
      (r.hear packet).2.isSome = true := by
  have hlen : packet.payload.length ≠ 0 := by
    simp only [validatePacket, decide_eq_true_eq] at h
    exact fun h0 => h.2.2 (Or.inl h0)
  have hconnect : ∀ n : UInt16, (r.connect n).stats = r.stats ∧
      (r.connect n).lastSequenceNumber = r.lastSequenceNumber ∧ (r.connect n).rtp = r.rtp := by
    intro n
    unfold connect
    split_ifs <;> exact ⟨rfl, rfl, rfl⟩
  have hpresent : ∀ (q : RTPReceiver) (t : UInt32), (q.present t).1.stats = q.stats ∧
      (q.present t).1.lastSequenceNumber = q.lastSequenceNumber ∧ (q.present t).1.rtp = q.rtp := by
    intro q t
    unfold present
    split_ifs <;> exact ⟨rfl, rfl, rfl⟩
  rw [hear, if_neg (by rw [h]; simp [hlen])]
  dsimp only
  obtain ⟨c1, c2, c3⟩ := hconnect packet.sequenceNumber
  obtain ⟨u1, u2, u3, u4⟩ := (r.connect packet.sequenceNumber).counts_updateStats
    packet.sequenceNumber packet.payload.length
  obtain ⟨p1, p2, p3⟩ := hpresent ((r.connect packet.sequenceNumber).updateStats
    packet.sequenceNumber packet.payload.length) packet.timestamp
  have hgap : (r.connect packet.sequenceNumber).gap packet.sequenceNumber =
      r.gap packet.sequenceNumber := by rw [gap, gap, c1, c2]
  refine ⟨⟨?_, ?_, p2.trans u3, p3.trans (u4.trans c3)⟩, rfl⟩
  · rw [p1, u1, c1, hgap]
  · rw [p1, u2, c1]

theorem hear_of_invalid {packet : RTPPacket} (h : r.validatePacket packet = false) :
    r.Counts (r.hear packet).1 0 0 r.lastSequenceNumber ∧ (r.hear packet).2 = none := by
  rw [hear, h, if_pos (Or.inl (by rfl))]
  exact ⟨⟨(UInt64.add_zero _).symm, (UInt64.add_zero _).symm, rfl, rfl⟩, rfl⟩

theorem counts_enqueue (p : Packet) : r.Counts (r.enqueue p) 0 0 r.lastSequenceNumber := by
  unfold enqueue
  rcases r.jitterBuffer.addPacket p with ⟨b, _ | _⟩ <;>
    exact ⟨(UInt64.add_zero _).symm, (UInt64.add_zero _).symm, rfl, rfl⟩

theorem counts_ask : r.Counts r.ask.1 0 0 r.lastSequenceNumber := by
  unfold ask
  split_ifs
  · rcases r.jitterBuffer.getNextPacket jitterReadBufferSize r.expectedSequenceNumber with
      ⟨b, _ | output⟩ <;> exact counts_of_stats rfl rfl rfl
  · exact counts_of_stats rfl rfl rfl
  · exact counts_of_stats rfl rfl rfl

theorem counts_passOver (expectedSeq : UInt32) :
    r.Counts (r.passOver expectedSeq)
      (if 0 < r.jitterBuffer.getBufferedPacketCount then 1 else 0) 0 r.lastSequenceNumber := by
  unfold passOver
  by_cases h : 0 < r.jitterBuffer.getBufferedPacketCount
  · rw [if_pos h, if_pos h]
    exact ⟨rfl, (UInt64.add_zero _).symm, rfl, rfl⟩
  · rw [if_neg h, if_neg h]
    exact ⟨(UInt64.add_zero _).symm, (UInt64.add_zero _).symm, rfl, rfl⟩

end RTPReceiver

/-- A receiver between the steps of its threads, and the numbers that have arrived, the latest
first. -/
structure Receiving where
  receiver : RTPReceiver
  /-- the packet on its way to the jitter buffer -/
  pending : Option Packet := none
  /-- the number the audio thread has asked for in vain -/
  wanted : Option UInt32 := none
  arrived : List UInt16 := []

namespace Receiving

/-- A step of the network thread or of the audio thread. -/
inductive Event
  | packet (packet : RTPPacket)
  | enqueue
  | ask
  | passOver

/-- The threads take steps only while they run, each where it is. -/
def step (t : Receiving) (e : Event) : Receiving :=
  if !t.receiver.rtp.running then t
  else
    match e, t.pending, t.wanted with
    | .packet packet, none, _ =>
      let (receiver, pending) := t.receiver.hear packet
      { t with
        receiver := receiver
        pending := pending
        arrived := if pending.isSome then packet.sequenceNumber :: t.arrived else t.arrived }
    | .enqueue, some p, _ => { t with receiver := t.receiver.enqueue p, pending := none }
    | .ask, _, none =>
      let (receiver, wanted) := t.receiver.ask
      { t with receiver := receiver, wanted := wanted }
    | .passOver, _, some expectedSeq =>
      { t with receiver := t.receiver.passOver expectedSeq, wanted := none }
    | _, _, _ => t

/-- A receiver that has been started. -/
def opened (sdp : Sdp.SDPSession) (mapping : ChannelMapping) (jitterBufferDepth : ℕ)
    (playoutDelaySamples : UInt32) : Receiving :=
  { receiver :=
      ((RTPReceiver.construct sdp mapping jitterBufferDepth playoutDelaySamples).start true).1 }

/-! ## Honest counting -/

/-- How far a number is into the window from `base` on. -/
def position (base n : UInt16) : ℕ := (n - base).toNat

/-- The size of the window. -/
def window : ℕ := 32768

variable (base : UInt16) (t : Receiving)

/-- How far the numbers that have arrived are into the window. -/
def positions : List ℕ := t.arrived.map (position base)

/-- **Honest**: no more are counted than were missing when a higher number had arrived. -/
def Honest : Prop :=
  t.receiver.stats.packetsLost.toNat ≤ (Arrivals.missed (t.positions base)).card

/-- No more are counted than are missing now. -/
def Current : Prop :=
  t.receiver.stats.packetsLost.toNat ≤ (Arrivals.missing (t.positions base)).card

/-- The step is the arrival of a packet that passes the checks. -/
def Hears (e : Event) (packet : RTPPacket) : Prop :=
  e = .packet packet ∧ t.receiver.rtp.running = true ∧ t.pending = none ∧
    t.receiver.validatePacket packet = true

/-- The step passes over a number. -/
def Skips (e : Event) : Prop :=
  e = .passOver ∧ t.receiver.rtp.running = true ∧ t.wanted ≠ none ∧
    0 < t.receiver.jitterBuffer.getBufferedPacketCount

/-- **What a step is to be**: the audio thread passes over nothing, and a packet that jumps over
others comes right after the highest so far. -/
def Counted (e : Event) : Prop :=
  ¬ t.Skips e ∧ ∀ packet, t.Hears e packet → t.arrived ≠ [] →
    Arrivals.last (t.positions base) = Arrivals.highest (t.positions base) ∨
      position base packet.sequenceNumber ≤ Arrivals.last (t.positions base) + 1

/-- The step is not the late arrival of a packet that was missing. -/
def InTime (e : Event) : Prop :=
  ∀ packet, t.Hears e packet →
    position base packet.sequenceNumber ∉ Arrivals.missed (t.positions base)

/-! ## One step -/

variable {t base} {e : Event} {packet : RTPPacket} {n m : UInt16}

/-- A packet that passes the checks has arrived and is counted. -/
theorem step_of_hears (h : t.Hears e packet) :
    (t.step e).arrived = packet.sequenceNumber :: t.arrived ∧
      t.receiver.Counts (t.step e).receiver (t.receiver.gap packet.sequenceNumber) 1
        packet.sequenceNumber := by
  obtain ⟨rfl, hrun, hpending, hvalid⟩ := h
  obtain ⟨hcounts, hsome⟩ := RTPReceiver.counts_hear hvalid
  simp only [step, hrun, hpending]
  exact ⟨if_pos hsome, hcounts⟩

/-- A number passed over is counted. -/
theorem step_of_skips (h : t.Skips e) :
    (t.step e).arrived = t.arrived ∧
      t.receiver.Counts (t.step e).receiver 1 0 t.receiver.lastSequenceNumber := by
  obtain ⟨rfl, hrun, hwanted, hleft⟩ := h
  obtain ⟨expectedSeq, hsome⟩ := Option.ne_none_iff_exists'.mp hwanted
  have hcounts := t.receiver.counts_passOver expectedSeq
  rw [if_pos hleft] at hcounts
  simp only [step, hrun, hsome]
  exact ⟨rfl, hcounts⟩

/-- Nothing else counts. -/
theorem step_of_quiet (hhears : ∀ packet, ¬ t.Hears e packet) (hskips : ¬ t.Skips e) :
    (t.step e).arrived = t.arrived ∧
      t.receiver.Counts (t.step e).receiver 0 0 t.receiver.lastSequenceNumber := by
  have hsame : t.receiver.Counts t.receiver 0 0 t.receiver.lastSequenceNumber :=
    RTPReceiver.counts_of_stats rfl rfl rfl
  cases hrun : t.receiver.rtp.running with
  | false =>
    simp only [step, hrun]
    exact ⟨rfl, hsame⟩
  | true =>
    cases e with
    | packet packet =>
      cases hpending : t.pending with
      | some p =>
        simp only [step, hrun, hpending]
        exact ⟨rfl, hsame⟩
      | none =>
        have hinvalid : t.receiver.validatePacket packet = false := by
          rw [← Bool.not_eq_true]
          exact fun hvalid => hhears packet ⟨rfl, hrun, hpending, hvalid⟩
        obtain ⟨hcounts, hnone⟩ := RTPReceiver.hear_of_invalid hinvalid
        simp only [step, hrun, hpending]
        refine ⟨if_neg ?_, hcounts⟩
        rw [hnone]
        exact Bool.false_ne_true
    | enqueue =>
      cases hpending : t.pending with
      | none =>
        simp only [step, hrun, hpending]
        exact ⟨rfl, hsame⟩
      | some p =>
        simp only [step, hrun, hpending]
        exact ⟨rfl, RTPReceiver.counts_enqueue p⟩
    | ask =>
      cases hwanted : t.wanted with
      | some expectedSeq =>
        simp only [step, hrun, hwanted]
        exact ⟨rfl, hsame⟩
      | none =>
        simp only [step, hrun, hwanted]
        exact ⟨rfl, RTPReceiver.counts_ask⟩
    | passOver =>
      cases hwanted : t.wanted with
      | none =>
        simp only [step, hrun, hwanted]
        exact ⟨rfl, hsame⟩
      | some expectedSeq =>
        have hleft : ¬ 0 < t.receiver.jitterBuffer.getBufferedPacketCount := fun hleft =>
          hskips ⟨rfl, hrun, by simp [hwanted], hleft⟩
        have hcounts := t.receiver.counts_passOver expectedSeq
        rw [if_neg hleft] at hcounts
        simp only [step, hrun, hwanted]
        exact ⟨rfl, hcounts⟩

/-- Within the window the gap is the numbers between. -/
theorem sequenceGap_position (hn : position base n < window) (hm : position base m < window) :
    (sequenceGap (m + 1) n).1.toNat = position base n - position base m - 1 := by
  have hn1 := n.toNat_lt
  have hm1 := m.toNat_lt
  have hb1 := base.toNat_lt
  have hsub : ∀ a b : UInt16, (a - b).toNat = (65536 - b.toNat + a.toNat) % 65536 :=
    fun a b => UInt16.toNat_sub a b
  have hsucc : (m + 1).toNat = (m.toNat + 1) % 65536 := UInt16.toNat_add m 1
  have hnext : (n = m + 1) ↔ n.toNat = (m.toNat + 1) % 65536 := by
    rw [← UInt16.toNat_inj, hsucc]
  simp only [position, window, hsub] at hn hm ⊢
  unfold sequenceGap
  rw [hsub, hsucc]
  split_ifs with heq hlt
  · rw [hnext] at heq
    show 0 = _
    omega
  · rw [hsub, hsucc]
    omega
  · show 0 = _
    rw [hnext] at heq
    omega

/-! ## The counters follow what arrived -/

/-- What the counting of gaps goes by. -/
structure Tracks (base : UInt16) (t : Receiving) : Prop where
  inWindow : ∀ k ∈ t.positions base, k < window
  received : t.receiver.stats.packetsReceived.toNat = t.arrived.length % 2 ^ 64
  last : t.arrived ≠ [] →
    position base t.receiver.lastSequenceNumber = Arrivals.last (t.positions base)

theorem tracks_step (ht : t.Tracks base)
    (he : ∀ packet, e = .packet packet → position base packet.sequenceNumber < window) :
    (t.step e).Tracks base := by
  by_cases hhears : ∃ packet, t.Hears e packet
  · obtain ⟨packet, h⟩ := hhears
    obtain ⟨harrived, hcounts⟩ := step_of_hears h
    have hpositions : (t.step e).positions base =
        position base packet.sequenceNumber :: t.positions base := by
      rw [positions, harrived, List.map_cons, positions]
    refine ⟨fun k hk => ?_, ?_, fun _ => ?_⟩
    · rw [hpositions, List.mem_cons] at hk
      rcases hk with rfl | hk
      · exact he packet h.1
      · exact ht.inWindow k hk
    · rw [hcounts.received, UInt64.toNat_add, ht.received, harrived, List.length_cons]
      show (_ % 2 ^ 64 + 1) % 2 ^ 64 = _
      omega
    · rw [hcounts.last, hpositions, Arrivals.last_cons]
  · have hquiet : (t.step e).arrived = t.arrived ∧ ∃ lost,
        t.receiver.Counts (t.step e).receiver lost 0 t.receiver.lastSequenceNumber := by
      by_cases hskips : t.Skips e
      · exact ⟨(step_of_skips hskips).1, 1, (step_of_skips hskips).2⟩
      · have hnone : ∀ packet, ¬ t.Hears e packet := fun packet h => hhears ⟨packet, h⟩
        exact ⟨(step_of_quiet hnone hskips).1, 0, (step_of_quiet hnone hskips).2⟩
    obtain ⟨harrived, lost, hcounts⟩ := hquiet
    have hpositions : (t.step e).positions base = t.positions base := by
      rw [positions, harrived, positions]
    refine ⟨?_, ?_, ?_⟩
    · rw [hpositions]
      exact ht.inWindow
    · rw [hcounts.received, UInt64.add_zero, ht.received, harrived]
    · rw [harrived, hcounts.last, hpositions]
      exact ht.last

/-- The gap before a packet is the numbers between the last one and it, or not counted where the
count of the packets has come round. -/
theorem Tracks.gap_toNat (ht : t.Tracks base) (hn : position base n < window) :
    (t.receiver.gap n).toNat = if t.arrived.length % 2 ^ 64 = 0 then 0
      else position base n - Arrivals.last (t.positions base) - 1 := by
  have hpos : t.receiver.stats.packetsReceived > 0 ↔ t.arrived.length % 2 ^ 64 ≠ 0 := by
    rw [← ht.received, gt_iff_lt, UInt64.lt_iff_toNat_lt]
    exact Nat.pos_iff_ne_zero
  unfold RTPReceiver.gap
  by_cases h0 : t.arrived.length % 2 ^ 64 = 0
  · rw [if_pos h0, if_neg (by rw [hpos]; exact not_not.mpr h0)]
    rfl
  · have hne : t.arrived ≠ [] := by
      rintro hnil
      exact h0 (by rw [hnil]; rfl)
    have hlast : position base t.receiver.lastSequenceNumber < window := by
      obtain ⟨m, l, hcons⟩ := List.exists_cons_of_ne_nil hne
      rw [ht.last hne]
      refine ht.inWindow _ ?_
      rw [positions, hcons, List.map_cons, Arrivals.last_cons]
      exact List.mem_cons_self
    rw [if_neg h0, if_pos (hpos.mpr h0), ← ht.last hne, ← sequenceGap_position hn hlast]
    exact UInt16.toNat_toUInt64 _

/-- A packet leaves the count of the missed where it is if it is the first, and else adds those it
jumps over. -/
theorem card_missed_of_hears (h : t.Hears e packet) :
    (Arrivals.missed ((t.step e).positions base)).card =
      (Arrivals.missed (t.positions base)).card +
        if t.arrived = [] then 0
        else position base packet.sequenceNumber - Arrivals.highest (t.positions base) - 1 := by
  have hpositions : (t.step e).positions base =
      position base packet.sequenceNumber :: t.positions base := by
    rw [positions, (step_of_hears h).1, List.map_cons, positions]
  rw [hpositions]
  split_ifs with hnil
  · rw [positions, hnil, List.map_nil, Arrivals.missed_singleton]
    rfl
  · exact Arrivals.card_missed_cons (List.map_eq_nil_iff.not.mpr hnil)

/-- Nothing else arrives. -/
theorem arrived_of_not_hears (h : ∀ packet, ¬ t.Hears e packet) :
    (t.step e).arrived = t.arrived := by
  by_cases hskips : t.Skips e
  · exact (step_of_skips hskips).1
  · exact (step_of_quiet h hskips).1

theorem card_missed_of_not_hears (h : ∀ packet, ¬ t.Hears e packet) :
    (Arrivals.missed ((t.step e).positions base)).card =
      (Arrivals.missed (t.positions base)).card := by
  rw [positions, arrived_of_not_hears h, positions]

/-- There are no more of the missed than the window has numbers. -/
theorem Tracks.card_missed_le (ht : t.Tracks base) :
    (Arrivals.missed (t.positions base)).card ≤ window :=
  Arrivals.card_missed_le ht.inWindow

/-- **An honest receiver stays so over a step that is as it is to be.** -/
theorem honest_step (ht : t.Tracks base) (h : t.Honest base)
    (he : ∀ packet, e = .packet packet → position base packet.sequenceNumber < window)
    (hc : t.Counted base e) : (t.step e).Honest base := by
  unfold Honest at *
  by_cases hhears : ∃ packet, t.Hears e packet
  · obtain ⟨packet, hp⟩ := hhears
    have hgap : (t.receiver.gap packet.sequenceNumber).toNat ≤ if t.arrived = [] then 0
        else position base packet.sequenceNumber - Arrivals.highest (t.positions base) - 1 := by
      rw [ht.gap_toNat (he packet hp.1)]
      by_cases hnil : t.arrived = []
      · rw [hnil, if_pos (by rfl)]
        exact Nat.zero_le _
      · rw [if_neg hnil]
        split_ifs
        · exact Nat.zero_le _
        · exact (Arrivals.jump_eq_iff.mpr (hc.2 packet hp hnil)).le
    rw [(step_of_hears hp).2.lost, card_missed_of_hears hp, UInt64.toNat_add]
    exact (Nat.mod_le _ _).trans (add_le_add h hgap)
  · have hnone : ∀ packet, ¬ t.Hears e packet := fun packet hp => hhears ⟨packet, hp⟩
    rw [(step_of_quiet hnone hc.1).2.lost, UInt64.add_zero, card_missed_of_not_hears hnone]
    exact h

/-- **Where every missed packet is counted**, an honest step is as it is to be and counts the ones
missed anew. -/
theorem counted_of_honest (ht : t.Tracks base)
    (heq : t.receiver.stats.packetsLost.toNat = (Arrivals.missed (t.positions base)).card)
    (he : ∀ packet, e = .packet packet → position base packet.sequenceNumber < window)
    (hlen : t.arrived.length < 2 ^ 64) (h : (t.step e).Honest base) :
    t.Counted base e ∧ (t.step e).receiver.stats.packetsLost.toNat =
      (Arrivals.missed ((t.step e).positions base)).card := by
  have hcard : (Arrivals.missed (t.positions base)).card ≤ 32768 := ht.card_missed_le
  unfold Honest at h
  by_cases hhears : ∃ packet, t.Hears e packet
  · obtain ⟨packet, hp⟩ := hhears
    have hskips : ¬ t.Skips e := fun hs => by
      rw [hs.1] at hp
      cases hp.1
    have hone : ∀ packet', t.Hears e packet' → packet' = packet := by
      intro packet' hp'
      have hcons := hp'.1.symm.trans hp.1
      injection hcons
    have hgap := ht.gap_toNat (he packet hp.1)
    have hposition : position base packet.sequenceNumber < 32768 := he packet hp.1
    have hadd : (t.step e).receiver.stats.packetsLost.toNat =
        (Arrivals.missed (t.positions base)).card +
          (t.receiver.gap packet.sequenceNumber).toNat := by
      rw [(step_of_hears hp).2.lost, UInt64.toNat_add, heq]
      refine Nat.mod_eq_of_lt ?_
      split_ifs at hgap <;> omega
    rw [hadd, card_missed_of_hears hp] at h ⊢
    by_cases hnil : t.arrived = []
    · rw [if_pos hnil]
      rw [hnil, if_pos (by rfl)] at hgap
      exact ⟨⟨hskips, fun _ _ hne => absurd hnil hne⟩, by rw [hgap]⟩
    · have hpos : 0 < t.arrived.length := List.length_pos_iff.mpr hnil
      rw [if_neg (by rw [Nat.mod_eq_of_lt hlen]; exact hpos.ne')] at hgap
      rw [if_neg hnil] at h ⊢
      have hjump : position base packet.sequenceNumber - Arrivals.highest (t.positions base) - 1 ≤
          position base packet.sequenceNumber - Arrivals.last (t.positions base) - 1 :=
        Arrivals.jump_le
      have hsame : position base packet.sequenceNumber - Arrivals.last (t.positions base) - 1 =
          position base packet.sequenceNumber - Arrivals.highest (t.positions base) - 1 := by
        omega
      refine ⟨⟨hskips, fun packet' hp' _ => ?_⟩, by rw [hgap, hsame]⟩
      rw [hone packet' hp']
      exact Arrivals.jump_eq_iff.mp hsame
  · have hnone : ∀ packet, ¬ t.Hears e packet := fun packet hp => hhears ⟨packet, hp⟩
    rw [card_missed_of_not_hears hnone] at h ⊢
    by_cases hskips : t.Skips e
    · have hadd : (t.step e).receiver.stats.packetsLost.toNat =
          (Arrivals.missed (t.positions base)).card + 1 := by
        rw [(step_of_skips hskips).2.lost, UInt64.toNat_add, heq]
        refine Nat.mod_eq_of_lt ?_
        show _ + 1 < 2 ^ 64
        omega
      omega
    · rw [(step_of_quiet hnone hskips).2.lost, UInt64.add_zero]
      exact ⟨⟨hskips, fun packet hp => absurd hp (hnone packet)⟩, heq⟩

/-- A packet that comes in time leaves no arrived packet among the missed. -/
theorem disjoint_step
    (h : Disjoint (Arrivals.missed (t.positions base)) (t.positions base).toFinset)
    (hc : t.InTime base e) :
    Disjoint (Arrivals.missed ((t.step e).positions base))
      ((t.step e).positions base).toFinset := by
  by_cases hhears : ∃ packet, t.Hears e packet
  · obtain ⟨packet, hp⟩ := hhears
    have hnew := hc packet hp
    rw [positions, (step_of_hears hp).1, List.map_cons]
    exact Arrivals.disjoint_cons h hnew
  · have hnone : ∀ packet, ¬ t.Hears e packet := fun packet hp => hhears ⟨packet, hp⟩
    rw [positions, arrived_of_not_hears hnone]
    exact h

/-! ## Runs -/

variable {events : List Event}

theorem tracks_opened (sdp : Sdp.SDPSession) (mapping : ChannelMapping) (jitterBufferDepth : ℕ)
    (playoutDelaySamples : UInt32) :
    (opened sdp mapping jitterBufferDepth playoutDelaySamples).Tracks base ∧
      (opened sdp mapping jitterBufferDepth playoutDelaySamples).receiver.stats = {} := by
  have hstats : (opened sdp mapping jitterBufferDepth playoutDelaySamples).receiver.stats = {} := by
    unfold opened RTPReceiver.start
    dsimp only
    split <;> rfl
  refine ⟨⟨fun k hk => absurd hk List.not_mem_nil, ?_, fun hne => absurd rfl hne⟩, hstats⟩
  rw [hstats]
  rfl

/-- A run whose steps are as they are to be is honest. -/
theorem always_honest (ht : t.Tracks base) (h : t.Honest base)
    (hwindow : ∀ packet, Event.packet packet ∈ events →
      position base packet.sequenceNumber < window)
    (hc : Along step (Counted base) t events) : Always step (Honest base) t events := by
  have hboth : Along step (fun t e => t.Counted base e ∧ ∀ packet, e = .packet packet →
      position base packet.sequenceNumber < window) t events :=
    hc.imp fun t e he hcounted => ⟨hcounted, fun packet hp => hwindow packet (hp ▸ he)⟩
  have hkeep : Always step (fun t => t.Tracks base ∧ t.Honest base) t events :=
    always_of_along (fun t e ht hc => ⟨tracks_step ht.1 hc.2, honest_step ht.1 ht.2 hc.2 hc.1⟩)
      ⟨ht, h⟩ hboth
  exact hkeep.imp fun _ h => h.2

/-- An honest run has steps as they are to be, and counts every missed packet. -/
theorem along_counted (ht : t.Tracks base)
    (heq : t.receiver.stats.packetsLost.toNat = (Arrivals.missed (t.positions base)).card)
    (hwindow : ∀ packet, Event.packet packet ∈ events →
      position base packet.sequenceNumber < window)
    (hlen : t.arrived.length + events.length < 2 ^ 64) (h : Always step (Honest base) t events) :
    Along step (Counted base) t events ∧ Always step (fun t =>
      t.receiver.stats.packetsLost.toNat = (Arrivals.missed (t.positions base)).card) t events := by
  induction events generalizing t with
  | nil => exact ⟨trivial, heq⟩
  | cons e events ih =>
    have he : ∀ packet, e = .packet packet → position base packet.sequenceNumber < window :=
      fun packet hp => hwindow packet (hp ▸ List.mem_cons_self)
    rw [List.length_cons] at hlen
    obtain ⟨hcounted, heq'⟩ := counted_of_honest ht heq he (by omega) h.2.head
    have hlen' : (t.step e).arrived.length + events.length < 2 ^ 64 := by
      have hle : (t.step e).arrived.length ≤ t.arrived.length + 1 := by
        by_cases hhears : ∃ packet, t.Hears e packet
        · obtain ⟨packet, hp⟩ := hhears
          rw [(step_of_hears hp).1, List.length_cons]
        · rw [arrived_of_not_hears fun packet hp => hhears ⟨packet, hp⟩]
          exact Nat.le_succ _
      omega
    obtain ⟨hc, ha⟩ := ih (tracks_step ht he) heq'
      (fun packet hp => hwindow packet (List.mem_cons_of_mem _ hp)) hlen' h.2
    exact ⟨⟨hcounted, hc⟩, heq, ha⟩

/-- A run that never counts more than is missing has no packet that was missed come late. -/
theorem along_inTime (heq : Always step (fun t =>
      t.receiver.stats.packetsLost.toNat = (Arrivals.missed (t.positions base)).card) t events)
    (h : Always step (Current base) t events) : Along step (InTime base) t events := by
  induction events generalizing t with
  | nil => trivial
  | cons e events ih =>
    refine ⟨fun packet hp => ?_, ih heq.2 h.2⟩
    have hcurrent : (t.step e).Current base := h.2.head
    unfold Current at hcurrent
    rw [heq.2.head, positions, (step_of_hears hp).1, List.map_cons] at hcurrent
    exact Arrivals.notMem_missed_of_card_le hcurrent

theorem always_disjoint
    (h : Disjoint (Arrivals.missed (t.positions base)) (t.positions base).toFinset)
    (hc : Along step (InTime base) t events) : Always step (fun t =>
      Disjoint (Arrivals.missed (t.positions base)) (t.positions base).toFinset) t events :=
  always_of_along (fun _ _ h hc => disjoint_step h hc) h hc

/-- Where no arrived packet is among the missed, these are missing. -/
theorem Honest.current (h : t.Honest base)
    (hdisjoint : Disjoint (Arrivals.missed (t.positions base)) (t.positions base).toFinset) :
    t.Current base := by
  unfold Current
  rw [Arrivals.missing_eq, Finset.sdiff_eq_self_of_disjoint hdisjoint]
  exact h

theorem Current.honest (h : t.Current base) : t.Honest base :=
  le_trans h (Finset.card_le_card Arrivals.missing_subset_missed)

/-- **Losses are counted honestly just when no number is passed over and every jump is made from the
highest**: then no more are counted than were missing when a higher number had arrived, and no more
than still are where none of them comes late. -/
theorem honest_iff_counted (sdp : Sdp.SDPSession) (mapping : ChannelMapping)
    (jitterBufferDepth : ℕ) (playoutDelaySamples : UInt32) (base : UInt16) (events : List Event)
    (hwindow : ∀ packet, Event.packet packet ∈ events →
      position base packet.sequenceNumber < window) :
    let t := opened sdp mapping jitterBufferDepth playoutDelaySamples
    (Along step (Counted base) t events → Always step (Honest base) t events ∧
      (Along step (InTime base) t events → Always step (Current base) t events)) ∧
    (events.length < 2 ^ 64 →
      (Always step (Honest base) t events → Along step (Counted base) t events) ∧
      (Always step (Current base) t events →
        Along step (Counted base) t events ∧ Along step (InTime base) t events)) := by
  intro t
  obtain ⟨htracks, hstats⟩ :=
    @tracks_opened base sdp mapping jitterBufferDepth playoutDelaySamples
  have hzero : t.receiver.stats.packetsLost.toNat = 0 := by
    rw [hstats]
    rfl
  refine ⟨fun hc => ?_, fun hlen => ?_⟩
  · have hhonest : Always step (Honest base) t events :=
      always_honest htracks (hzero.trans_le (Nat.zero_le _)) hwindow hc
    refine ⟨hhonest, fun htime => ?_⟩
    have hdisjoint : Always step (fun t =>
        Disjoint (Arrivals.missed (t.positions base)) (t.positions base).toFinset) t events :=
      always_disjoint (Finset.disjoint_empty_left (∅ : Finset ℕ)) htime
    exact (hhonest.and hdisjoint).imp fun _ h => h.1.current h.2
  · have hrun : Always step (Honest base) t events →
        Along step (Counted base) t events ∧ Always step (fun t =>
          t.receiver.stats.packetsLost.toNat = (Arrivals.missed (t.positions base)).card)
            t events :=
      along_counted htracks hzero hwindow ((Nat.zero_add _).trans_lt hlen)
    refine ⟨fun h => (hrun h).1, fun h => ?_⟩
    obtain ⟨hcounted, heq⟩ := hrun (h.imp fun _ h => h.honest)
    exact ⟨hcounted, along_inTime heq h⟩

/-- A mono stream of two samples a packet. -/
def mono : Sdp.SDPSession :=
  { connectionAddress := "239.1.1.1".toList, encoding := "L16".toList, numChannels := 1,
    framecount := 2 }

/-- The packet `n` of such a stream. -/
def numbered (n : UInt16) : RTPPacket :=
  { payloadType := 97, sequenceNumber := n, timestamp := 0, payload := [0, 0, 0, 0] }

/-- A packet that never comes is counted, and no more. -/
theorem honest_iff_counted_gap : Always step (Honest 1) (opened mono {} 0 1)
    [.packet (numbered 1), .enqueue, .packet (numbered 3), .enqueue] := by
  have hwindow : ∀ packet, Event.packet packet ∈
      [.packet (numbered 1), .enqueue, .packet (numbered 3), .enqueue] →
        position 1 packet.sequenceNumber < window := by
    simp [numbered]
    decide
  have hcounted : Along step (Counted 1) (opened mono {} 0 1)
      [.packet (numbered 1), .enqueue, .packet (numbered 3), .enqueue] := by
    refine ⟨⟨fun h => Event.noConfusion h.1, fun _ _ hne => absurd rfl hne⟩,
      ⟨fun h => Event.noConfusion h.1, fun _ h => Event.noConfusion h.1⟩,
      ⟨fun h => Event.noConfusion h.1, fun _ _ _ => Or.inl (by rfl)⟩,
      ⟨fun h => Event.noConfusion h.1, fun _ h => Event.noConfusion h.1⟩, trivial⟩
  exact ((honest_iff_counted mono {} 0 1 1 _ hwindow).1 hcounted).1

/-! ## A packet counted twice -/

/-- Two packets of four change places. -/
def reordered : List Event :=
  [.packet (numbered 1), .enqueue, .packet (numbered 3), .enqueue, .packet (numbered 2), .enqueue,
    .packet (numbered 4), .enqueue]

/-- The second of three packets never comes, and its turn does. -/
def overdue : List Event :=
  [.packet (numbered 1), .enqueue, .ask, .ask, .packet (numbered 3), .enqueue, .ask, .passOver]

/-- **Two are counted lost** where one was late, and two where one was. -/
theorem reordered_not_honest :
    (∀ packet, Event.packet packet ∈ reordered ++ overdue →
      position 1 packet.sequenceNumber < window) ∧
    ¬ Always step (Honest 1) (opened mono {} 0 1) reordered ∧
    ¬ Always step (Honest 1) (opened mono {} 0 1) overdue := by
  have htwice : ∀ events, Always step (Honest 1) (opened mono {} 0 1) events →
      (events.foldl step (opened mono {} 0 1)).receiver.stats.packetsLost.toNat ≤
        (Arrivals.missed ((events.foldl step (opened mono {} 0 1)).positions 1)).card :=
    fun _ h => h.run
  refine ⟨?_, fun h => absurd (htwice _ h) ?_, fun h => absurd (htwice _ h) ?_⟩
  · simp [reordered, overdue, numbered]
    decide
  · decide
  · with_unfolding_all decide

end Receiving

end Aes67.Rtp
