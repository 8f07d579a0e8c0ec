import Aes67.Lib.SlotRing
import Aes67.Rtp.Receiver

/-!
# Whether the receiver finds its stream again

A sender goes on with consecutive packets from any sequence number, whatever the receiver expects
and whatever its buffer holds; each round is one packet and one tick. The tick goes on by one number
a round, as the sender does, so the distance between them stays what it is: the receiver finds the
stream again only where the distance is less than the buffer, or where it meets a packet it already
holds.

* `rounds`, `Delivers`: the rounds of a receiver, and the rounds that deliver a packet;
* `Follows`: the receiver as a reader on a ring of slots; `follows_round`: one round is one of the
  ring's;
* `Reaches`: the distance, or a packet held; **`exists_delivers_iff`**: a packet is delivered within
  `65536` rounds exactly then.
-/

namespace Aes67.Rtp.RTPReceiver

/-- The receiver after `k` rounds of a packet and a tick. -/
def rounds (r : RTPReceiver) (packets : ℕ → RTPPacket) : ℕ → RTPReceiver
  | 0 => r
  | k + 1 => ((rounds r packets k).processPacket (packets k)).consumeTick.1

/-- The tick of round `k` delivers a packet. -/
def Delivers (r : RTPReceiver) (packets : ℕ → RTPPacket) (k : ℕ) : Prop :=
  ((r.rounds packets k).processPacket (packets k)).consumeTick.2.isSome = true

/-- Consecutive packets that pass the receiver's checks, from `p` on. -/
def Consecutive (r : RTPReceiver) (p : UInt16) (packets : ℕ → RTPPacket) : Prop :=
  ∀ k, r.validatePacket (packets k) = true ∧ (packets k).sequenceNumber = p + UInt16.ofNat k

/-- The receiver is consuming: its buffer is between two calls and its cushion is there. -/
structure Consuming (r : RTPReceiver) : Prop where
  between : r.jitterBuffer.Between
  expected_lt : r.expectedSequenceNumber.toNat < 65536
  prefilled : r.prefillComplete = true

/-- How far `p` is ahead of the number expected, modulo `2 ^ 16`. -/
def distance (r : RTPReceiver) (p : UInt16) : ℕ :=
  (p.toNat + 65536 - r.expectedSequenceNumber.toNat) % 65536

/-- The stream can be found again: no packet has come yet, or the sender is ahead by less than the
buffer, or one of the packets expected next is held already. -/
def Reaches (r : RTPReceiver) (p : UInt16) : Prop :=
  r.connected = false ∨ r.distance p < r.jitterBuffer.bufferSize ∨
    ∃ j < r.jitterBuffer.bufferSize,
      r.jitterBuffer.held ((r.expectedSequenceNumber.toNat + j) % r.jitterBuffer.bufferSize) =
        some ((r.expectedSequenceNumber.toNat + j) % 65536)

/-- The receiver as a reader on a ring of slots. -/
structure Follows (r : RTPReceiver) (l : SlotRing) : Prop where
  consuming : r.Consuming
  connected : r.connected = true
  held : r.jitterBuffer.held = l.held
  expected : r.expectedSequenceNumber.toNat = l.expected % 65536

variable {r : RTPReceiver} {l : SlotRing} {packet : RTPPacket} {n : ℕ}

/-- The slot of a number is the slot of the number modulo `2 ^ 16`. -/
theorem getIndex_mod (h : r.jitterBuffer.bufferSize ∈ JitterBuffer.sizes) {m : UInt32} {n : ℕ}
    (hm : m.toNat = n % 65536) : r.jitterBuffer.getIndex m = n % r.jitterBuffer.bufferSize := by
  rw [JitterBuffer.getIndex_eq h, hm, Nat.mod_mod_of_dvd _ (JitterBuffer.bufferSize_dvd h)]

/-- A packet is one offer to the ring. -/
theorem follows_processPacket (h : Follows r l) (hv : r.validatePacket packet = true)
    (hn : packet.sequenceNumber.toNat = n % 65536) :
    Follows (r.processPacket packet) (l.put r.jitterBuffer.bufferSize 65536 n) ∧
      (r.processPacket packet).jitterBuffer.bufferSize = r.jitterBuffer.bufferSize ∧
      (r.processPacket packet).rtp = r.rtp := by
  obtain ⟨⟨time, hb⟩, he, hc, hrtp, hpre, -⟩ := processPacket_spec hv
  rw [if_pos h.connected] at he
  have hbet := h.consuming.between
  have hidx : r.jitterBuffer.getIndex packet.sequenceNumber.toUInt32 =
      n % r.jitterBuffer.bufferSize := getIndex_mod hbet.size hn
  obtain ⟨hb1, hb2, hb3⟩ := JitterBuffer.addPacket_spec hbet
    ⟨packet.payload, packet.sequenceNumber.toUInt32, time⟩
  rw [← hb] at hb1 hb2 hb3
  refine ⟨⟨⟨hb1, ?_, ?_⟩, hc, ?_, ?_⟩, hb2, hrtp⟩
  · rw [he]
    exact h.consuming.expected_lt
  · rw [hpre]
    exact h.consuming.prefilled
  · have hnum : packet.sequenceNumber.toUInt32.toNat = n % 65536 := hn
    rw [hb3]
    dsimp only
    rw [hidx, h.held, hnum, SlotRing.put]
    split_ifs <;> rfl
  · rw [he, SlotRing.expected_put]
    exact h.expected

/-- A tick is one of the ring's, and it delivers what the ring's reader finds. -/
theorem follows_consumeTick (h : Follows r l) :
    Follows r.consumeTick.1 (l.tick r.jitterBuffer.bufferSize 65536) ∧
      r.consumeTick.1.jitterBuffer.bufferSize = r.jitterBuffer.bufferSize ∧
      r.consumeTick.1.rtp = r.rtp ∧
      (r.consumeTick.2.isSome = true ↔ l.Hit r.jitterBuffer.bufferSize 65536) := by
  have hbet := h.consuming.between
  have hidx : r.jitterBuffer.getIndex r.expectedSequenceNumber =
      l.expected % r.jitterBuffer.bufferSize := getIndex_mod hbet.size h.expected
  obtain ⟨hb1, hb2, hb3, hb4⟩ := JitterBuffer.getNextPacket_spec hbet r.expectedSequenceNumber
  obtain ⟨c1, c2, c3, c4, c5, c6, -⟩ := r.consume_spec
  rw [consumeTick, if_pos h.consuming.prefilled]
  rw [← c1] at hb1 hb2 hb3
  rw [← c2, hidx, h.held, h.expected] at hb4
  rw [hidx, h.held] at hb3
  have hhit : r.consume.2.isSome = true ↔ l.Hit r.jitterBuffer.bufferSize 65536 := hb4
  have hleft : 0 < r.consume.1.jitterBuffer.validPackets ↔
      0 < countBelow Option.isSome (l.rest r.jitterBuffer.bufferSize) r.jitterBuffer.bufferSize := by
    rw [hb1.count, ← JitterBuffer.countBelow_held, hb3, hb2]
    rfl
  have hexp : r.consume.1.expectedSequenceNumber.toNat =
      (l.tick r.jitterBuffer.bufferSize 65536).expected % 65536 := by
    rw [c3, SlotRing.tick]
    by_cases hgo : r.consume.2.isSome = true ∨ 0 < r.consume.1.jitterBuffer.validPackets
    · rw [if_pos hgo, if_pos (by rwa [← hhit, ← hleft]), next_toNat, h.expected]
      dsimp only
      omega
    · rw [if_neg hgo, if_neg (by rwa [← hhit, ← hleft])]
      exact h.expected
  refine ⟨⟨⟨hb1, ?_, ?_⟩, ?_, hb3, hexp⟩, hb2, c5, hhit⟩
  · rw [hexp]
    exact Nat.mod_lt _ (by omega)
  · rw [c6]
    exact h.consuming.prefilled
  · rw [c4]
    exact h.connected

/-! ## All rounds -/

variable {p : UInt16} {packets : ℕ → RTPPacket} {k : ℕ}

theorem Consecutive.toNat (h : r.Consecutive p packets) (hn : p.toNat = n % 65536) :
    (packets k).sequenceNumber.toNat = (n + k) % 65536 := by
  rw [(h k).2, UInt16.toNat_add, UInt16.toNat_ofNat', hn]
  show (n % 65536 + k % 65536) % 65536 = _
  omega

/-- The rounds of the receiver are those of the ring. -/
theorem follows_rounds (h : Follows r l) (hp : r.Consecutive p packets)
    (hn : p.toNat = n % 65536) :
    Follows (r.rounds packets k) (l.after r.jitterBuffer.bufferSize 65536 n k) ∧
      (r.rounds packets k).jitterBuffer.bufferSize = r.jitterBuffer.bufferSize ∧
      (r.rounds packets k).rtp = r.rtp := by
  induction k with
  | zero => exact ⟨h, rfl, rfl⟩
  | succ k ih =>
    obtain ⟨hf, hsize, hrtp⟩ := ih
    have hv : (r.rounds packets k).validatePacket (packets k) = true :=
      (validatePacket_congr hrtp).trans (hp k).1
    obtain ⟨hf1, hs1, hr1⟩ := follows_processPacket hf hv (hp.toNat hn)
    obtain ⟨hf2, hs2, hr2, -⟩ := follows_consumeTick hf1
    rw [hs1, hsize] at hf2
    exact ⟨hf2, hs2.trans (hs1.trans hsize), hr2.trans (hr1.trans hrtp)⟩

theorem delivers_iff_hitAt (h : Follows r l) (hp : r.Consecutive p packets)
    (hn : p.toNat = n % 65536) :
    r.Delivers packets k ↔ l.HitAt r.jitterBuffer.bufferSize 65536 n k := by
  obtain ⟨hf, hsize, hrtp⟩ := follows_rounds (k := k) h hp hn
  have hv : (r.rounds packets k).validatePacket (packets k) = true :=
    (validatePacket_congr hrtp).trans (hp k).1
  obtain ⟨hf1, hs1, -⟩ := follows_processPacket hf hv (hp.toNat hn)
  obtain ⟨-, -, -, hhit⟩ := follows_consumeTick hf1
  rw [hs1, hsize] at hhit
  exact hhit

theorem follows_self (h : r.Consuming) (hc : r.connected = true) :
    Follows r ⟨r.jitterBuffer.held, r.expectedSequenceNumber.toNat⟩ :=
  ⟨h, hc, rfl, (Nat.mod_eq_of_lt h.expected_lt).symm⟩

theorem distance_spec (h : r.Consuming) : r.distance p < 65536 ∧
    p.toNat = (r.expectedSequenceNumber.toNat + r.distance p) % 65536 := by
  have hlt := h.expected_lt
  have hp := p.toNat_lt
  unfold distance
  omega

/-- Once a packet has come. -/
theorem exists_delivers_iff_of_connected (h : r.Consuming) (hc : r.connected = true)
    (hp : r.Consecutive p packets) :
    (∃ k < 65536, r.Delivers packets k) ↔ r.distance p < r.jitterBuffer.bufferSize ∨
      ∃ j < r.jitterBuffer.bufferSize,
        r.jitterBuffer.held ((r.expectedSequenceNumber.toNat + j) % r.jitterBuffer.bufferSize) =
          some ((r.expectedSequenceNumber.toNat + j) % 65536) := by
  have hsize := h.between.size
  have h32 := JitterBuffer.bufferSize_ge hsize
  have h4096 := JitterBuffer.bufferSize_le hsize
  obtain ⟨hd, hn⟩ := distance_spec (p := p) h
  rw [← SlotRing.exists_hitAt_iff (l := ⟨r.jitterBuffer.held, r.expectedSequenceNumber.toNat⟩)
    (by omega) (JitterBuffer.bufferSize_dvd hsize) (by omega) hd rfl]
  simp only [delivers_iff_hitAt (follows_self h hc) hp hn]

/-- The first packet sets the number expected before anything else. -/
theorem processPacket_connect (hv : r.validatePacket packet = true) :
    r.processPacket packet = (r.connect packet.sequenceNumber).processPacket packet := by
  have hrtp := (r.connect_spec packet.sequenceNumber).2.2.2.1
  have hidem : (r.connect packet.sequenceNumber).connect packet.sequenceNumber =
      r.connect packet.sequenceNumber := by
    have hc := (r.connect_spec packet.sequenceNumber).2.2.1
    generalize r.connect packet.sequenceNumber = q at hc ⊢
    rw [connect, if_pos hc]
  unfold processPacket
  rw [hidem, validatePacket_congr hrtp, hv]
  by_cases h0 : packet.payload.length = 0
  · simp only [validatePacket, decide_eq_true_eq] at hv
    exact absurd (Or.inl h0) hv.2.2
  · simp only [h0, or_false, Bool.not_true, Bool.false_eq_true, if_false]

theorem delivers_connect (hp : r.Consecutive p packets) :
    r.Delivers packets k ↔ (r.connect p).Delivers packets k := by
  have h0 : (packets 0).sequenceNumber = p := by
    rw [(hp 0).2]
    exact UInt16.add_zero p
  have hfirst : r.processPacket (packets 0) = (r.connect p).processPacket (packets 0) := by
    rw [processPacket_connect (hp 0).1, h0]
  have hrounds : ∀ k, r.rounds packets (k + 1) = (r.connect p).rounds packets (k + 1) := by
    intro k
    induction k with
    | zero =>
      show (r.processPacket (packets 0)).consumeTick.1 =
        ((r.connect p).processPacket (packets 0)).consumeTick.1
      rw [hfirst]
    | succ k ih =>
      show ((r.rounds packets (k + 1)).processPacket (packets (k + 1))).consumeTick.1 =
        (((r.connect p).rounds packets (k + 1)).processPacket (packets (k + 1))).consumeTick.1
      rw [ih]
  unfold Delivers
  cases k with
  | zero =>
    show (r.processPacket (packets 0)).consumeTick.2.isSome = true ↔
      ((r.connect p).processPacket (packets 0)).consumeTick.2.isSome = true
    rw [hfirst]
  | succ k => rw [hrounds]

/-- **When the receiver finds its stream again**: whatever its buffer holds and whatever number it
expects, a sender that goes on from `p`, one packet a tick, is heard within `65536` rounds exactly
when it is within reach. -/
theorem exists_delivers_iff (r : RTPReceiver) (h : r.Consuming) (p : UInt16)
    (packets : ℕ → RTPPacket) (hp : r.Consecutive p packets) :
    (∃ k < 65536, r.Delivers packets k) ↔ r.Reaches p := by
  unfold Reaches
  cases hc : r.connected with
  | true =>
    rw [exists_delivers_iff_of_connected h hc hp]
    simp
  | false =>
    obtain ⟨c1, c2, c3, c4, c5, -⟩ := r.connect_spec p
    rw [hc, if_neg (by simp)] at c2
    have hcons : (r.connect p).Consuming := by
      refine ⟨c1 ▸ h.between, ?_, c5.trans h.prefilled⟩
      rw [c2]
      exact p.toNat_lt
    have hp' : (r.connect p).Consecutive p packets := fun k =>
      ⟨(validatePacket_congr c4).trans (hp k).1, (hp k).2⟩
    have hdist : (r.connect p).distance p = 0 := by
      unfold distance
      rw [c2]
      show (p.toNat + 65536 - p.toNat) % 65536 = 0
      omega
    simp only [true_or, iff_true, delivers_connect hp]
    rw [exists_delivers_iff_of_connected hcons c3 hp', hdist]
    left
    have := JitterBuffer.bufferSize_ge hcons.between.size
    omega

/-- A receiver that has heard a packet, has an empty buffer and expects `0`. -/
def drained : RTPReceiver :=
  { construct {} {} 0 0 with connected := true, prefillComplete := true }

/-- A sender's packets from `p` on, for that receiver. -/
def sent (p : UInt16) (k : ℕ) : RTPPacket where
  payloadType := 97
  sequenceNumber := p + UInt16.ofNat k
  timestamp := 0
  payload := [0]

theorem consuming_drained : drained.Consuming :=
  ⟨JitterBuffer.between_construct _, by decide, rfl⟩

theorem consecutive_sent (p : UInt16) : drained.Consecutive p (sent p) :=
  fun _ => ⟨rfl, rfl⟩

/-- The sender that did not stop is heard. -/
theorem exists_delivers_level : drained.Consuming ∧ drained.Consecutive 0 (sent 0) ∧
    ∃ k < 65536, drained.Delivers (sent 0) k := by
  refine ⟨consuming_drained, consecutive_sent 0, ?_⟩
  refine (exists_delivers_iff drained consuming_drained 0 _ (consecutive_sent 0)).mpr ?_
  exact Or.inr (Or.inl (by decide))

/-- A sender that begins again half the numbers away is not heard any more. -/
theorem not_delivers_apart : drained.Consuming ∧ drained.Consecutive 32768 (sent 32768) ∧
    ¬ ∃ k < 65536, drained.Delivers (sent 32768) k := by
  refine ⟨consuming_drained, consecutive_sent _, ?_⟩
  rintro ⟨k, -, hk⟩
  have hsize := consuming_drained.between.size
  rw [delivers_iff_hitAt (follows_self consuming_drained rfl) (consecutive_sent _)
    (n := 32768) rfl] at hk
  refine SlotRing.not_hitAt_of_apart ⟨⟨32768, ?_, by omega, rfl⟩, fun j _ => ?_⟩ ?_
    (JitterBuffer.bufferSize_dvd hsize) hk
  · have := JitterBuffer.bufferSize_le hsize
    omega
  · show JitterBuffer.held (JitterBuffer.construct _) _ ≠ _
    rw [JitterBuffer.held_construct]
    simp
  · have := JitterBuffer.bufferSize_ge hsize
    omega

end Aes67.Rtp.RTPReceiver
