import Aes67.Lib.Run
import Aes67.Rtp.JitterBuffer

/-!
# The network thread and the audio thread on the jitter buffer

`addPacket` and `getNextPacket` taken apart at their atomic steps: the two compare-and-exchanges,
the copies made while a slot is owned, the changes of the count and the releases of the slot. The
two threads take these steps in every order.

Beside the buffer the state keeps what the calls have answered: the packets taken so far, which of
them each slot holds, what was given out, and the state of the slot each refused packet met.

* `AddPc`, `GetPc`, `Threads`, `Act`, `Threads.step`;
* `buffer_of_addPacket`, `buffer_of_getNextPacket`: uninterrupted, the steps are the whole calls;
* `Threads.Inv`: what every step keeps;
* `Threads.Delivers`: what the callers rely on; **`always_delivers`**: it holds throughout every
  interleaving, for every depth.
-/

namespace Aes67.Rtp

/-- The producer's place inside `addPacket`. -/
inductive AddPc
  | idle
  /-- before the exchange of `EMPTY` for `WRITING` -/
  | called (p : Packet)
  /-- the slot is `WRITING`, nothing is copied yet -/
  | acquired (p : Packet)
  /-- before the packet is counted -/
  | filled (p : Packet)
  /-- before the store of `READY` -/
  | counted (p : Packet)

/-- The consumer's place inside `getNextPacket`. -/
inductive GetPc
  | idle
  /-- before the exchange of `READY` for `READING` -/
  | called (sequenceNumber : UInt32) (bufferSize : ℕ)
  /-- the slot is `READING`, nothing is read yet -/
  | acquired (sequenceNumber : UInt32) (bufferSize : ℕ)
  /-- before the store of `EMPTY`, with what was read and which packet it was -/
  | read (sequenceNumber : UInt32) (result : Option Output) (origin : ℕ)
  /-- before the count goes down -/
  | released (sequenceNumber : UInt32) (result : Option Output) (origin : ℕ)

/-- A packet given out: the number asked for, the answer, and which of the packets taken it is. -/
structure Delivery where
  sequenceNumber : UInt32
  output : Output
  origin : ℕ

structure Threads where
  buffer : JitterBuffer
  producer : AddPc := .idle
  consumer : GetPc := .idle
  /-- the packets `addPacket` has taken -/
  added : List Packet := []
  /-- which of them each slot holds -/
  origin : ℕ → ℕ := fun _ => 0
  /-- what `getNextPacket` has given out -/
  deliveries : List Delivery := []
  /-- the slot states that made `addPacket` refuse -/
  drops : List SlotState := []
  /-- the count has been taken below zero -/
  wrapped : Bool := false

/-- A call by an idle thread, or the next atomic step of the call a thread is in. -/
inductive Act
  | addPacket (p : Packet)
  | getNextPacket (sequenceNumber : UInt32) (bufferSize : ℕ)
  | producer
  | consumer

namespace Threads

variable (t : Threads)

/-- The store of `READY`, with which `addPacket` has taken the packet. -/
def publish (p : Packet) : Threads :=
  { t with
    buffer := t.buffer.setState (t.buffer.getIndex p.sequenceNumber) .READY
    producer := .idle
    added := t.added ++ [p]
    origin := Function.update t.origin (t.buffer.getIndex p.sequenceNumber) t.added.length }

/-- The next step of `addPacket`. -/
def stepProducer : Threads :=
  match t.producer with
  | .idle => t
  | .called p =>
    if (t.buffer.slotOf p.sequenceNumber).state = .EMPTY then
      { t with
        buffer := t.buffer.setState (t.buffer.getIndex p.sequenceNumber) .WRITING
        producer := .acquired p }
    else
      { t with
        producer := .idle
        drops := t.drops ++ [(t.buffer.slotOf p.sequenceNumber).state] }
  | .acquired p =>
    { t with
      buffer := t.buffer.setSlot (t.buffer.getIndex p.sequenceNumber)
        ((t.buffer.slotOf p.sequenceNumber).fill p)
      producer := .filled p }
  | .filled p =>
    { t with
      buffer := { t.buffer with validPackets := sizeAdd t.buffer.validPackets 1 }
      producer := .counted p }
  | .counted p => t.publish p

/-- The next step of `getNextPacket`. -/
def stepConsumer : Threads :=
  match t.consumer with
  | .idle => t
  | .called n bufferSize =>
    if (t.buffer.slotOf n).state = .READY then
      { t with
        buffer := t.buffer.setState (t.buffer.getIndex n) .READING
        consumer := .acquired n bufferSize }
    else { t with consumer := .idle }
  | .acquired n bufferSize =>
    { t with
      consumer := .read n ((t.buffer.slotOf n).read bufferSize n) (t.origin (t.buffer.getIndex n)) }
  | .read n result origin =>
    { t with
      buffer := t.buffer.setState (t.buffer.getIndex n) .EMPTY
      consumer := .released n result origin }
  | .released n result origin =>
    { t with
      buffer := { t.buffer with validPackets := sizeSub t.buffer.validPackets 1 }
      consumer := .idle
      deliveries := t.deliveries ++ (result.map fun output => ⟨n, output, origin⟩).toList
      wrapped := t.wrapped || t.buffer.validPackets == 0 }

def step : Act → Threads
  | .addPacket p =>
    match t.producer with
    | .idle => { t with producer := .called p }
    | _ => t
  | .getNextPacket n bufferSize =>
    match t.consumer with
    | .idle => { t with consumer := .called n bufferSize }
    | _ => t
  | .producer => t.stepProducer
  | .consumer => t.stepConsumer

/-- No call is in progress. -/
def Quiescent : Prop := t.producer = .idle ∧ t.consumer = .idle

/-- The slot the producer owns. -/
def producerSlot : Option ℕ :=
  match t.producer with
  | .acquired p | .filled p | .counted p => some (t.buffer.getIndex p.sequenceNumber)
  | _ => none

/-- The slot the consumer owns. -/
def consumerSlot : Option ℕ :=
  match t.consumer with
  | .acquired n _ | .read n _ _ => some (t.buffer.getIndex n)
  | _ => none

/-! ## The whole calls -/

/-- Taken without interruption, the steps of `addPacket` are the call. -/
theorem buffer_of_addPacket (p : Packet) (h : t.producer = .idle) :
    ([.addPacket p, .producer, .producer, .producer, .producer].foldl step t).buffer =
      (t.buffer.addPacket p).1 := by
  have hcalled : t.step (.addPacket p) = { t with producer := .called p } := by
    simp only [step, h]
  by_cases hs : (t.buffer.slotOf p.sequenceNumber).state = .EMPTY
  · rw [JitterBuffer.addPacket, if_neg (not_not.mpr hs)]
    simp only [List.foldl_cons, List.foldl_nil, hcalled]
    simp only [step, stepProducer, publish, hs, if_true]
    simp only [JitterBuffer.setState, JitterBuffer.setSlot, JitterBuffer.slotOf,
      JitterBuffer.getIndex, JitterBuffer.sequenceMask, Function.update_self, Function.update_idem,
      Slot.fill]
  · rw [JitterBuffer.addPacket, if_pos hs]
    simp only [List.foldl_cons, List.foldl_nil, hcalled]
    simp only [step, stepProducer, hs, if_false]

/-- Taken without interruption, the steps of `getNextPacket` are the call. -/
theorem buffer_of_getNextPacket (n : UInt32) (bufferSize : ℕ) (h : t.consumer = .idle) :
    ([.getNextPacket n bufferSize, .consumer, .consumer, .consumer, .consumer].foldl step t).buffer =
      (t.buffer.getNextPacket bufferSize n).1 := by
  have hcalled : t.step (.getNextPacket n bufferSize) =
      { t with consumer := .called n bufferSize } := by
    simp only [step, h]
  by_cases hs : (t.buffer.slotOf n).state = .READY
  · rw [JitterBuffer.getNextPacket, if_neg (not_not.mpr hs)]
    simp only [List.foldl_cons, List.foldl_nil, hcalled]
    simp only [step, stepConsumer, hs, if_true]
    simp only [JitterBuffer.setState, JitterBuffer.setSlot, JitterBuffer.slotOf,
      JitterBuffer.getIndex, JitterBuffer.sequenceMask, Function.update_self, Function.update_idem]
  · rw [JitterBuffer.getNextPacket, if_pos hs]
    simp only [List.foldl_cons, List.foldl_nil, hcalled]
    simp only [step, stepConsumer, hs, if_false]

end Threads

/-! ## Packets in slots -/

/-- The slot is published, whether or not it is being read. -/
def Slot.Full (s : Slot) : Prop := s.state = .READY ∨ s.state = .READING

/-- The slot holds the packet, as far as it fits. -/
structure Slot.Holds (s : Slot) (p : Packet) : Prop where
  sequenceNumber : s.sequenceNumber = p.sequenceNumber
  data : s.data.take s.length = p.packetData.take slotSize
  length : s.length = (p.packetData.take slotSize).length
  presentationTime : s.presentationTime = p.presentationTime

theorem Slot.holds_fill (s : Slot) (p : Packet) : (s.fill p).Holds p := by
  have hlen : (p.packetData.take (min p.packetData.length slotSize)).length =
      min p.packetData.length slotSize := by
    rw [List.length_take]
    omega
  refine ⟨rfl, ?_, ?_, rfl⟩
  · show List.take (min _ _) (_ ++ _) = _
    rw [List.take_left' hlen]
    rcases Nat.le_total p.packetData.length slotSize with h | h
    · rw [Nat.min_eq_left h, List.take_length, List.take_of_length_le h]
    · rw [Nat.min_eq_right h]
  · show min _ _ = _
    rw [List.length_take, Nat.min_comm]

/-- The answer is the packet it is said to be: one already taken, with the number asked for, cut to
the slot. -/
structure Delivery.Genuine (added : List Packet) (d : Delivery) : Prop where
  exists_added : ∃ p, added[d.origin]? = some p ∧ p.sequenceNumber = d.sequenceNumber ∧
    d.output.bytes = p.packetData.take slotSize ∧ d.output.outputLength = d.output.bytes.length ∧
    d.output.presentationTime = p.presentationTime

theorem Slot.genuine_of_read {s : Slot} {p : Packet} (h : s.Holds p) {added : List Packet} {o : ℕ}
    (ho : added[o]? = some p) {bufferSize : ℕ} {n : UInt32} {output : Output}
    (hr : s.read bufferSize n = some output) : Delivery.Genuine added ⟨n, output, o⟩ := by
  unfold Slot.read at hr
  split_ifs at hr with hn hlen
  obtain rfl := Option.some.inj hr
  refine ⟨p, ho, ?_, h.data, ?_, h.presentationTime⟩
  · rw [← h.sequenceNumber]
    exact not_not.mp hn
  · show s.length = (s.data.take s.length).length
    rw [h.data, ← h.length]

theorem Delivery.Genuine.append {added : List Packet} {d : Delivery} (h : d.Genuine added)
    (l : List Packet) : d.Genuine (added ++ l) := by
  obtain ⟨p, hp, hrest⟩ := h.exists_added
  exact ⟨p, List.getElem?_append_left (List.getElem?_eq_some_iff.mp hp).1 ▸ hp, hrest⟩

namespace Threads

/-- Slot `i` holds the packet it is said to hold, one that has not been given out. -/
def Keeps (t : Threads) (i : ℕ) : Prop :=
  (∃ p, t.added[t.origin i]? = some p ∧ (t.buffer.slots i).Holds p ∧
    t.buffer.getIndex p.sequenceNumber = i) ∧
  t.origin i ∉ t.deliveries.map Delivery.origin

/-- What holds at each place of `addPacket`: between the two changes of state the slot is
`WRITING`, and once it is filled it holds the packet. -/
def ProducerOk (t : Threads) : AddPc → Prop
  | .idle => True
  | .called _ => True
  | .acquired p => (t.buffer.slotOf p.sequenceNumber).state = .WRITING
  | .filled p => (t.buffer.slotOf p.sequenceNumber).state = .WRITING ∧
    (t.buffer.slotOf p.sequenceNumber).Holds p
  | .counted p => (t.buffer.slotOf p.sequenceNumber).state = .WRITING ∧
    (t.buffer.slotOf p.sequenceNumber).Holds p

/-- What holds at each place of `getNextPacket`: between the two changes of state the slot is
`READING`; what was read is genuine; once the slot is given back the packet is in none. -/
def ConsumerOk (t : Threads) : GetPc → Prop
  | .idle => True
  | .called _ _ => True
  | .acquired n _ => (t.buffer.slotOf n).state = .READING
  | .read n result o => (t.buffer.slotOf n).state = .READING ∧ o = t.origin (t.buffer.getIndex n) ∧
    ∀ output, result = some output → Delivery.Genuine t.added ⟨n, output, o⟩
  | .released n result o => o ∉ t.deliveries.map Delivery.origin ∧ o < t.added.length ∧
    (∀ i, (t.buffer.slots i).Full → t.origin i ≠ o) ∧
    ∀ output, result = some output → Delivery.Genuine t.added ⟨n, output, o⟩

/-- The packets counted that are in no `READY` slot: one the producer is about to publish. -/
def owedByProducer : AddPc → ℕ
  | .counted _ => 1
  | _ => 0

/-- The packets counted that are in no `READY` slot: one the consumer has taken. -/
def owedByConsumer : GetPc → ℕ
  | .acquired _ _ => 1
  | .read _ _ _ => 1
  | .released _ _ _ => 1
  | _ => 0

structure Inv (t : Threads) : Prop where
  size : t.buffer.bufferSize ∈ JitterBuffer.sizes
  producer : ProducerOk t t.producer
  consumer : ConsumerOk t t.consumer
  keeps : ∀ i, (t.buffer.slots i).Full → Keeps t i
  genuine : ∀ d ∈ t.deliveries, d.Genuine t.added
  once : (t.deliveries.map Delivery.origin).Nodup
  occupied : ∀ st ∈ t.drops, st ≠ .EMPTY
  noWrap : t.wrapped = false
  count : t.buffer.validPackets =
    t.buffer.ready + owedByProducer t.producer + owedByConsumer t.consumer

/-! ## One step -/

variable {t : Threads}

/-- A store to a slot that is not `READING` leaves the consumer alone, unless it fills the slot. -/
theorem consumerOk_setSlot {pc : GetPc} (h : ConsumerOk t pc) {i : ℕ} {x : Slot} {a : AddPc}
    (hi : (t.buffer.slots i).state ≠ .READING) (hx : ¬ x.Full) :
    ConsumerOk { t with buffer := t.buffer.setSlot i x, producer := a } pc := by
  have hslot : ∀ n, (t.buffer.slotOf n).state = .READING →
      ((t.buffer.setSlot i x).slotOf n).state = .READING := by
    intro n hn
    have hne : t.buffer.getIndex n ≠ i := by
      rintro rfl
      exact hi hn
    show ((t.buffer.setSlot i x).slots (t.buffer.getIndex n)).state = _
    rw [JitterBuffer.slots_setSlot_of_ne hne]
    exact hn
  cases pc with
  | idle => trivial
  | called n bufferSize => trivial
  | acquired n bufferSize => exact hslot n h
  | read n result o => exact ⟨hslot n h.1, h.2⟩
  | released n result o =>
    refine ⟨h.1, h.2.1, fun j hj => ?_, h.2.2.2⟩
    by_cases hji : j = i
    · subst hji
      rw [JitterBuffer.slots_setSlot_self] at hj
      exact absurd hj hx
    · rw [JitterBuffer.slots_setSlot_of_ne hji] at hj
      exact h.2.2.1 j hj

/-- A store that does not fill a slot takes nothing from the others. -/
theorem keeps_setSlot
    (h : ∀ i, (t.buffer.slots i).Full → Keeps t i) {i : ℕ} {x : Slot} {a : AddPc} {c : GetPc}
    (hx : ¬ x.Full) (j : ℕ) (hj : ((t.buffer.setSlot i x).slots j).Full) :
    Keeps { t with buffer := t.buffer.setSlot i x, producer := a, consumer := c } j := by
  have hji : j ≠ i := by
    rintro rfl
    rw [JitterBuffer.slots_setSlot_self] at hj
    exact hx hj
  rw [JitterBuffer.slots_setSlot_of_ne hji] at hj
  obtain ⟨⟨p, hp, hold, hidx⟩, hf⟩ := h j hj
  refine ⟨⟨p, hp, ?_, hidx⟩, hf⟩
  show ((t.buffer.setSlot i x).slots j).Holds p
  rw [JitterBuffer.slots_setSlot_of_ne hji]
  exact hold

theorem count_lt (h : Inv t) : t.buffer.validPackets + 1 < 2 ^ 64 := by
  have h1 : t.buffer.ready ≤ t.buffer.bufferSize := countBelow_le
  have h2 : owedByProducer t.producer ≤ 1 := by
    cases t.producer <;> simp [owedByProducer]
  have h3 : owedByConsumer t.consumer ≤ 1 := by
    cases t.consumer <;> simp [owedByConsumer]
  have h4 : t.buffer.bufferSize ≤ 4096 := by
    obtain ⟨k, -, hk, he⟩ := JitterBuffer.exists_of_mem_sizes h.size
    rw [he]
    exact Nat.pow_le_pow_right (by omega) hk
  rw [h.count]
  omega

section Publish

variable {p : Packet} {j : ℕ}

theorem slots_publish_of_ne (h : j ≠ t.buffer.getIndex p.sequenceNumber) :
    (t.publish p).buffer.slots j = t.buffer.slots j :=
  JitterBuffer.slots_setSlot_of_ne h

theorem slots_publish_self : (t.publish p).buffer.slots (t.buffer.getIndex p.sequenceNumber) =
    { t.buffer.slotOf p.sequenceNumber with state := .READY } :=
  JitterBuffer.slots_setSlot_self

theorem origin_publish_of_ne (h : j ≠ t.buffer.getIndex p.sequenceNumber) :
    (t.publish p).origin j = t.origin j :=
  Function.update_of_ne h ..

theorem origin_publish_self :
    (t.publish p).origin (t.buffer.getIndex p.sequenceNumber) = t.added.length :=
  Function.update_self ..

theorem added_publish_of_lt {o : ℕ} {q : Packet} (h : t.added[o]? = some q) :
    (t.publish p).added[o]? = some q :=
  (List.getElem?_append_left (List.getElem?_eq_some_iff.mp h).1).trans h

/-- The consumer owns another slot than the one published. -/
theorem getIndex_ne_of_reading {n : UInt32} (hs : (t.buffer.slotOf p.sequenceNumber).state = .WRITING)
    (hn : (t.buffer.slotOf n).state = .READING) :
    t.buffer.getIndex n ≠ t.buffer.getIndex p.sequenceNumber := by
  intro he
  unfold JitterBuffer.slotOf at hn hs
  rw [he, hs] at hn
  cases hn

theorem consumerOk_publish {pc : GetPc} (h : ConsumerOk t pc)
    (hs : (t.buffer.slotOf p.sequenceNumber).state = .WRITING) : ConsumerOk (t.publish p) pc := by
  have hread : ∀ n, (t.buffer.slotOf n).state = .READING →
      ((t.publish p).buffer.slotOf n).state = .READING := by
    intro n hn
    show ((t.publish p).buffer.slots (t.buffer.getIndex n)).state = _
    rw [slots_publish_of_ne (getIndex_ne_of_reading hs hn)]
    exact hn
  cases pc with
  | idle => trivial
  | called n bufferSize => trivial
  | acquired n bufferSize => exact hread n h
  | read n result o =>
    obtain ⟨h1, h2, h3⟩ := h
    refine ⟨hread n h1, ?_, fun output ho => (h3 output ho).append [p]⟩
    show o = (t.publish p).origin (t.buffer.getIndex n)
    rw [origin_publish_of_ne (getIndex_ne_of_reading hs h1)]
    exact h2
  | released n result o =>
    obtain ⟨h1, h2, h3, h4⟩ := h
    refine ⟨h1, ?_, fun j hj => ?_, fun output ho => (h4 output ho).append [p]⟩
    · show o < (t.added ++ [p]).length
      rw [List.length_append]
      omega
    · by_cases hji : j = t.buffer.getIndex p.sequenceNumber
      · rw [hji, origin_publish_self]
        omega
      · rw [slots_publish_of_ne hji] at hj
        rw [origin_publish_of_ne hji]
        exact h3 j hj

theorem keeps_publish
    (h : ∀ i, (t.buffer.slots i).Full → Keeps t i)
    (hgen : ∀ d ∈ t.deliveries, d.Genuine t.added)
    (hold : (t.buffer.slotOf p.sequenceNumber).Holds p)
    (hj : ((t.publish p).buffer.slots j).Full) : Keeps (t.publish p) j := by
  by_cases hji : j = t.buffer.getIndex p.sequenceNumber
  · subst hji
    refine ⟨⟨p, ?_, ?_, rfl⟩, ?_⟩
    · rw [origin_publish_self]
      exact (List.getElem?_append_right (Nat.le_refl _)).trans (by rw [Nat.sub_self]; rfl)
    · rw [slots_publish_self]
      exact ⟨hold.sequenceNumber, hold.data, hold.length, hold.presentationTime⟩
    · -- the packets given out are all older than the one published
      rw [origin_publish_self]
      intro hmem
      obtain ⟨d, hd, hdo⟩ := List.mem_map.mp hmem
      obtain ⟨q, hq, -⟩ := (hgen d hd).exists_added
      have := (List.getElem?_eq_some_iff.mp hq).1
      omega
  · rw [slots_publish_of_ne hji] at hj
    obtain ⟨⟨q, hq, hqold, hqidx⟩, hf⟩ := h j hj
    refine ⟨⟨q, ?_, ?_, hqidx⟩, ?_⟩
    · rw [origin_publish_of_ne hji]
      exact added_publish_of_lt hq
    · rw [slots_publish_of_ne hji]
      exact hqold
    · rw [origin_publish_of_ne hji]
      exact hf

theorem ready_publish (hsize : t.buffer.bufferSize ∈ JitterBuffer.sizes)
    (hs : (t.buffer.slotOf p.sequenceNumber).state ≠ .READY) :
    (t.publish p).buffer.ready = t.buffer.ready + 1 :=
  JitterBuffer.ready_setState_ready (JitterBuffer.getIndex_lt hsize _) hs

end Publish

theorem inv_stepProducer (h : Inv t) : Inv t.stepProducer := by
  have hlt := count_lt h
  obtain ⟨hsize, hp, hc, hkeep, hgen, honce, hdrop, hwrap, hcount⟩ := h
  unfold stepProducer
  cases hpc : t.producer with
  | idle => exact ⟨hsize, hp, hc, hkeep, hgen, honce, hdrop, hwrap, hcount⟩
  | called p =>
    rw [hpc] at hcount
    dsimp only
    split_ifs with hs
    · have hs' : (t.buffer.slots (t.buffer.getIndex p.sequenceNumber)).state = .EMPTY := hs
      refine ⟨hsize, ?_, consumerOk_setSlot hc (by simp [hs']) (by simp [Slot.Full]),
        keeps_setSlot hkeep (by simp [Slot.Full]), hgen, honce, hdrop, hwrap, ?_⟩
      · exact congrArg Slot.state JitterBuffer.slotOf_setSlot
      · show t.buffer.validPackets = (t.buffer.setState _ _).ready + _ + _
        rw [JitterBuffer.ready_setState_of_ne (JitterBuffer.getIndex_lt hsize _) (by simp [hs'])
          (by simp)]
        exact hcount
    · refine ⟨hsize, trivial, hc, hkeep, hgen, honce, ?_, hwrap, hcount⟩
      intro st hst
      rcases List.mem_append.mp hst with hst | hst
      · exact hdrop st hst
      · obtain rfl := List.mem_singleton.mp hst
        exact hs
  | acquired p =>
    rw [hpc] at hp hcount
    have hs : (t.buffer.slots (t.buffer.getIndex p.sequenceNumber)).state = .WRITING := hp
    have hs' : ((t.buffer.slotOf p.sequenceNumber).fill p).state = .WRITING := hp
    have hr := JitterBuffer.ready_setSlot (b := t.buffer)
      (x := (t.buffer.slotOf p.sequenceNumber).fill p)
      (JitterBuffer.getIndex_lt hsize p.sequenceNumber)
    simp only [hs, hs', reduceCtorEq, if_false] at hr
    have hx : ¬ ((t.buffer.slotOf p.sequenceNumber).fill p).Full := by simp [Slot.Full, hs']
    refine ⟨hsize, ?_, consumerOk_setSlot hc (by simp [hs]) hx, keeps_setSlot hkeep hx, hgen, honce, hdrop, hwrap, ?_⟩
    · have hself := JitterBuffer.slotOf_setSlot (b := t.buffer) (n := p.sequenceNumber)
        (x := (t.buffer.slotOf p.sequenceNumber).fill p)
      exact ⟨(congrArg Slot.state hself).trans hs', hself ▸ Slot.holds_fill _ p⟩
    · show t.buffer.validPackets = (t.buffer.setSlot _ _).ready + _ + _
      rw [hcount]
      exact congrArg (· + _ + _) hr.symm
  | filled p =>
    rw [hpc] at hp hcount
    have hv := sizeAdd_of_lt hlt
    dsimp only
    generalize sizeAdd t.buffer.validPackets 1 = v at hv ⊢
    refine ⟨hsize, hp, hc, hkeep, hgen, honce, hdrop, hwrap, ?_⟩
    show v = t.buffer.ready + 1 + owedByConsumer t.consumer
    simp only [owedByProducer] at hcount
    omega
  | counted p =>
    rw [hpc] at hp hcount
    have hr : (t.publish p).buffer.ready = t.buffer.ready + 1 :=
      ready_publish hsize (by rw [hp.1]; simp)
    refine ⟨hsize, trivial, consumerOk_publish hc hp.1, fun j hj => keeps_publish hkeep hgen hp.2 hj,
      fun d hd => (hgen d hd).append [p], honce, hdrop, hwrap, ?_⟩
    show t.buffer.validPackets = (t.publish p).buffer.ready + 0 + owedByConsumer t.consumer
    rw [hcount, hr]
    rfl

/-- A store to a slot that is not `WRITING` leaves the producer alone. -/
theorem producerOk_setSlot {pc : AddPc} (h : ProducerOk t pc) {i : ℕ} {x : Slot} {c : GetPc}
    (hi : (t.buffer.slots i).state ≠ .WRITING) :
    ProducerOk { t with buffer := t.buffer.setSlot i x, consumer := c } pc := by
  have hslot : ∀ n, (t.buffer.slotOf n).state = .WRITING →
      (t.buffer.setSlot i x).slotOf n = t.buffer.slotOf n := by
    intro n hn
    have hne : t.buffer.getIndex n ≠ i := by
      rintro rfl
      exact hi hn
    exact JitterBuffer.slots_setSlot_of_ne hne
  cases pc with
  | idle => trivial
  | called p => trivial
  | acquired p => exact (congrArg Slot.state (hslot _ h)).trans h
  | filled p => exact ⟨(congrArg Slot.state (hslot _ h.1)).trans h.1, (hslot _ h.1) ▸ h.2⟩
  | counted p => exact ⟨(congrArg Slot.state (hslot _ h.1)).trans h.1, (hslot _ h.1) ▸ h.2⟩

/-- The count is nothing to the producer. -/
theorem producerOk_setCount {pc : AddPc} (h : ProducerOk t pc) {v : ℕ} {c : GetPc}
    {l : List Delivery} {w : Bool} :
    ProducerOk { t with
      buffer := { t.buffer with validPackets := v }, consumer := c, deliveries := l, wrapped := w }
      pc := by
  cases pc <;> exact h

/-- The return from `getNextPacket`, the count gone down by one. -/
theorem inv_answer (h : Inv t) {n : UInt32} {result : Option Output} {o v : ℕ}
    (hcc : t.consumer = .released n result o) (hv : v + 1 = t.buffer.validPackets) :
    Inv { t with
      buffer := { t.buffer with validPackets := v }
      consumer := .idle
      deliveries := t.deliveries ++ (result.map fun output => ⟨n, output, o⟩).toList
      wrapped := false } := by
  obtain ⟨hsize, hp, hc, hkeep, hgen, honce, hdrop, -, hcount⟩ := h
  rw [hcc] at hc hcount
  obtain ⟨hfresh, -, hother, hout⟩ := hc
  cases result with
  | none =>
    rw [Option.map_none, Option.toList_none, List.append_nil]
    refine ⟨hsize, producerOk_setCount hp, trivial, hkeep, hgen, honce, hdrop, rfl, ?_⟩
    show v = t.buffer.ready + owedByProducer t.producer + 0
    simp only [owedByConsumer] at hcount
    omega
  | some output =>
    rw [Option.map_some, Option.toList_some]
    refine ⟨hsize, producerOk_setCount hp, trivial, fun j hj => ⟨(hkeep j hj).1, ?_⟩, fun d hd => ?_,
      ?_, hdrop, rfl, ?_⟩
    · show t.origin j ∉ List.map Delivery.origin (t.deliveries ++ [_])
      rw [List.map_append, List.mem_append, not_or]
      exact ⟨(hkeep j hj).2, fun hmem => hother j hj (List.mem_singleton.mp hmem)⟩
    · rcases List.mem_append.mp hd with hd | hd
      · exact hgen d hd
      · obtain rfl := List.mem_singleton.mp hd
        exact hout output rfl
    · rw [List.map_append]
      refine List.nodup_append.mpr ⟨honce, by simp, fun a ha c hc => ?_⟩
      obtain rfl := List.mem_singleton.mp hc
      rintro rfl
      exact hfresh ha
    · show v = t.buffer.ready + owedByProducer t.producer + 0
      simp only [owedByConsumer] at hcount
      omega

theorem inv_stepConsumer (h : Inv t) : Inv t.stepConsumer := by
  have hlt := count_lt h
  obtain ⟨hsize, hp, hc, hkeep, hgen, honce, hdrop, hwrap, hcount⟩ := h
  unfold stepConsumer
  cases hcc : t.consumer with
  | idle => exact ⟨hsize, hp, hc, hkeep, hgen, honce, hdrop, hwrap, hcount⟩
  | called n bufferSize =>
    rw [hcc] at hcount
    dsimp only
    split_ifs with hs
    · have hs' : (t.buffer.slots (t.buffer.getIndex n)).state = .READY := hs
      have hr : (t.buffer.setState (t.buffer.getIndex n) .READING).ready + 1 = t.buffer.ready :=
        JitterBuffer.ready_setState_of_ready (JitterBuffer.getIndex_lt hsize n) hs' (by simp)
      refine ⟨hsize, producerOk_setSlot hp (by simp [hs']),
        congrArg Slot.state JitterBuffer.slotOf_setSlot, fun j hj => ?_, hgen, honce, hdrop, hwrap, ?_⟩
      · by_cases hji : j = t.buffer.getIndex n
        · subst hji
          obtain ⟨⟨p, hq, hold, hidx⟩, hf⟩ := hkeep _ (Or.inl hs')
          refine ⟨⟨p, hq, ?_, hidx⟩, hf⟩
          show ((t.buffer.setSlot _ _).slots _).Holds p
          rw [JitterBuffer.slots_setSlot_self]
          exact ⟨hold.sequenceNumber, hold.data, hold.length, hold.presentationTime⟩
        · have hj' : ((t.buffer.setSlot _ _).slots j).Full := hj
          rw [JitterBuffer.slots_setSlot_of_ne hji] at hj'
          obtain ⟨⟨p, hq, hold, hidx⟩, hf⟩ := hkeep j hj'
          refine ⟨⟨p, hq, ?_, hidx⟩, hf⟩
          show ((t.buffer.setSlot _ _).slots j).Holds p
          rw [JitterBuffer.slots_setSlot_of_ne hji]
          exact hold
      · show t.buffer.validPackets =
          (t.buffer.setState (t.buffer.getIndex n) .READING).ready + owedByProducer t.producer + 1
        rw [hcount, ← hr]
        simp only [owedByConsumer]
        omega
    · exact ⟨hsize, hp, trivial, hkeep, hgen, honce, hdrop, hwrap, hcount⟩
  | acquired n bufferSize =>
    rw [hcc] at hc hcount
    refine ⟨hsize, hp, ⟨hc, rfl, fun output ho => ?_⟩, hkeep, hgen, honce, hdrop, hwrap, hcount⟩
    obtain ⟨⟨p, hq, hold, -⟩, -⟩ := hkeep _ (Or.inr hc)
    exact Slot.genuine_of_read hold hq ho
  | read n result o =>
    rw [hcc] at hc hcount
    obtain ⟨hs, rfl, hout⟩ := hc
    have hs' : (t.buffer.slots (t.buffer.getIndex n)).state = .READING := hs
    obtain ⟨⟨p, hq, -, hidx⟩, hf⟩ := hkeep _ (Or.inr hs')
    refine ⟨hsize, producerOk_setSlot hp (by simp [hs']),
      ⟨hf, (List.getElem?_eq_some_iff.mp hq).1, fun j hj => ?_, hout⟩,
      keeps_setSlot hkeep (by simp [Slot.Full]), hgen, honce, hdrop, hwrap, ?_⟩
    · -- a packet is in the slot of its own number, so in one slot only
      have hji : j ≠ t.buffer.getIndex n := by
        rintro rfl
        have hj' : ((t.buffer.setSlot _ _).slots _).Full := hj
        rw [JitterBuffer.slots_setSlot_self] at hj'
        simp [Slot.Full] at hj'
      have hj' : ((t.buffer.setSlot _ _).slots j).Full := hj
      rw [JitterBuffer.slots_setSlot_of_ne hji] at hj'
      obtain ⟨⟨q, hq', -, hidx'⟩, -⟩ := hkeep j hj'
      intro ho
      have ho' : t.origin j = t.origin (t.buffer.getIndex n) := ho
      rw [ho', hq] at hq'
      obtain rfl := Option.some.inj hq'
      exact hji (hidx'.symm.trans hidx)
    · show t.buffer.validPackets = (t.buffer.setState _ _).ready + _ + 1
      rw [JitterBuffer.ready_setState_of_ne (JitterBuffer.getIndex_lt hsize _) (by simp [hs'])
        (by simp)]
      exact hcount
  | released n result o =>
    have hpos : t.buffer.validPackets ≠ 0 := by
      rw [hcount, hcc]
      simp [owedByConsumer]
    have hw : (t.wrapped || t.buffer.validPackets == 0) = false := by
      rw [hwrap, Bool.false_or]
      exact beq_eq_false_iff_ne.mpr hpos
    dsimp only
    rw [hw]
    refine inv_answer ⟨hsize, hp, hc, hkeep, hgen, honce, hdrop, hwrap, hcount⟩ hcc ?_
    rw [sizeSub_of_le (by omega) (by omega)]
    omega

theorem inv_step (h : Inv t) (a : Act) : Inv (t.step a) := by
  cases a with
  | addPacket p =>
    unfold step
    cases hpc : t.producer with
    | idle =>
      obtain ⟨hsize, hp, hc, hkeep, hgen, honce, hdrop, hwrap, hcount⟩ := h
      rw [hpc] at hcount
      exact ⟨hsize, trivial, hc, hkeep, hgen, honce, hdrop, hwrap, hcount⟩
    | called p => exact h
    | acquired p => exact h
    | filled p => exact h
    | counted p => exact h
  | getNextPacket n bufferSize =>
    unfold step
    cases hcc : t.consumer with
    | idle =>
      obtain ⟨hsize, hp, hc, hkeep, hgen, honce, hdrop, hwrap, hcount⟩ := h
      rw [hcc] at hcount
      exact ⟨hsize, hp, trivial, hkeep, hgen, honce, hdrop, hwrap, hcount⟩
    | called n bufferSize => exact h
    | acquired n bufferSize => exact h
    | read n result o => exact h
    | released n result o => exact h
  | producer => exact inv_stepProducer h
  | consumer => exact inv_stepConsumer h

/-! ## Every run -/

/-- What the callers rely on: what is given out is a packet taken before, with the number asked for,
and no packet twice; a packet is refused only by a slot in use; no slot is written and read at once;
the count never goes below zero and between calls it is the number of `READY` slots. -/
structure Delivers (t : Threads) : Prop where
  genuine : ∀ d ∈ t.deliveries, d.Genuine t.added
  once : (t.deliveries.map Delivery.origin).Nodup
  occupied : ∀ st ∈ t.drops, st ≠ .EMPTY
  apart : ∀ i, t.producerSlot = some i → t.consumerSlot ≠ some i
  noWrap : t.wrapped = false
  count : t.Quiescent → t.buffer.getBufferedPacketCount = t.buffer.ready ∧
    t.buffer.getBufferedPacketCount ≤ t.buffer.bufferSize

theorem state_of_producerSlot (h : ProducerOk t t.producer) {i : ℕ} (hi : t.producerSlot = some i) :
    (t.buffer.slots i).state = .WRITING := by
  unfold producerSlot at hi
  cases hpc : t.producer with
  | idle => simp [hpc] at hi
  | called p => simp [hpc] at hi
  | acquired p =>
    rw [hpc] at h hi
    obtain rfl := Option.some.inj hi
    exact h
  | filled p =>
    rw [hpc] at h hi
    obtain rfl := Option.some.inj hi
    exact h.1
  | counted p =>
    rw [hpc] at h hi
    obtain rfl := Option.some.inj hi
    exact h.1

theorem state_of_consumerSlot (h : ConsumerOk t t.consumer) {i : ℕ} (hi : t.consumerSlot = some i) :
    (t.buffer.slots i).state = .READING := by
  unfold consumerSlot at hi
  cases hcc : t.consumer with
  | idle => simp [hcc] at hi
  | called n bufferSize => simp [hcc] at hi
  | acquired n bufferSize =>
    rw [hcc] at h hi
    obtain rfl := Option.some.inj hi
    exact h
  | read n result o =>
    rw [hcc] at h hi
    obtain rfl := Option.some.inj hi
    exact h.1
  | released n result o => simp [hcc] at hi

theorem delivers_of_inv (h : Inv t) : Delivers t := by
  refine ⟨h.genuine, h.once, h.occupied, fun i hp hc => ?_, h.noWrap, fun hq => ?_⟩
  · have hw := state_of_producerSlot h.producer hp
    have hr := state_of_consumerSlot h.consumer hc
    rw [hw] at hr
    cases hr
  · have hcount : t.buffer.validPackets = t.buffer.ready := by
      rw [h.count, hq.1, hq.2]
      rfl
    exact ⟨hcount, hcount.trans_le countBelow_le⟩

theorem inv_construct (depth : ℕ) : Inv { buffer := JitterBuffer.construct depth } := by
  refine ⟨JitterBuffer.bufferSize_mem depth, trivial, trivial, fun i hi => ?_, fun d hd => ?_,
    List.nodup_nil, fun st hst => ?_, rfl, ?_⟩
  · rcases hi with hi | hi <;> cases hi
  · cases hd
  · cases hst
  · exact (countBelow_eq_zero.mpr fun i _ => rfl).symm

/-- **What the jitter buffer gives out is what was put in, once**: for every depth and every
interleaving of the steps of `addPacket` and `getNextPacket`. -/
theorem always_delivers (depth : ℕ) (acts : List Act) :
    Always step Delivers { buffer := JitterBuffer.construct depth } acts :=
  Always.imp (fun _ => delivers_of_inv)
    (always_of_step (fun _ a h => inv_step h a) (inv_construct depth))

end Threads

end Aes67.Rtp
