import Aes67.Rtp.Threads

/-!
# A reset while both threads run

`RTPReceiver::resetStatistics` resets the jitter buffer from a third thread, with the network and
the audio thread running: it stores `EMPTY` into one slot after the other and then zero into the
count. The stores are interleaved with the steps of the other two in every order.

A packet is owed when it is counted and in no `READY` slot (`owedByProducer`, `owedByConsumer`).
Clearing a slot can leave the count too high for a while, which the store of zero puts right; the
store of zero itself leaves it too low when something is stored or owed at that moment.

* `ResetPc`, `Live`, `LiveAct`, `Live.step`;
* `Live.Sound`: the count never goes below zero, and between calls it is the number of `READY` slots;
* `Live.Settled`, `Live.Guarded`: the store of zero finds nothing stored and nothing owed;
* `Live.Inv`: the count is between what is stored and owed, and that plus the slots cleared;
* **`always_sound`**: in every run whose resets are guarded the count is sound throughout.
-/

namespace Aes67.Rtp

/-- The place of the third thread inside `reset`. -/
inductive ResetPc
  | idle
  /-- the slots below `i` are cleared; after the last slot, before the store of zero -/
  | clearing (i : ℕ)

/-- The two threads on the buffer and the one that resets it. -/
structure Live where
  threads : Threads
  resetter : ResetPc := .idle

inductive LiveAct
  | thread (a : Act)
  | resetStatistics
  | resetter

namespace Live

variable (l : Live)

/-- The next store of `reset`. -/
def stepResetter : Live :=
  match l.resetter with
  | .idle => l
  | .clearing i =>
    if i < l.threads.buffer.bufferSize then
      { threads := { l.threads with buffer := l.threads.buffer.setState i .EMPTY }
        resetter := .clearing (i + 1) }
    else
      { threads := { l.threads with buffer := { l.threads.buffer with validPackets := 0 } }
        resetter := .idle }

def step : LiveAct → Live
  | .thread a => { l with threads := l.threads.step a }
  | .resetStatistics =>
    match l.resetter with
    | .idle => { l with resetter := .clearing 0 }
    | _ => l
  | .resetter => l.stepResetter

/-- All calls have finished. -/
def Quiescent : Prop := l.threads.Quiescent ∧ l.resetter = .idle

/-- The count has never gone below zero, and once all calls have finished it is the number of
`READY` slots. -/
structure Sound : Prop where
  noWrap : l.threads.wrapped = false
  count : l.Quiescent → l.threads.buffer.getBufferedPacketCount = l.threads.buffer.ready

/-- Nothing is stored and nothing is owed. -/
def Settled : Prop :=
  l.threads.buffer.ready = 0 ∧ Threads.owedByProducer l.threads.producer = 0 ∧
    Threads.owedByConsumer l.threads.consumer = 0

instance : Decidable l.Settled := inferInstanceAs (Decidable (_ ∧ _ ∧ _))

/-- The step is not the store of zero, or it finds the buffer settled. -/
def Guarded : LiveAct → Prop
  | .resetter =>
    match l.resetter with
    | .idle => True
    | .clearing i => i < l.threads.buffer.bufferSize ∨ l.Settled
  | _ => True

instance decidableGuarded (a : LiveAct) : Decidable (l.Guarded a) :=
  match a with
  | .thread _ => isTrue trivial
  | .resetStatistics => isTrue trivial
  | .resetter =>
    match h : l.resetter with
    | .idle => isTrue (by simp [Guarded, h])
    | .clearing i =>
      decidable_of_iff (i < l.threads.buffer.bufferSize ∨ l.Settled) (by simp [Guarded, h])

/-- The slots the reset in progress has cleared. -/
def cleared : ℕ :=
  match l.resetter with
  | .idle => 0
  | .clearing i => i

/-- The consumer has a slot that has been cleared under it. -/
def stolen (t : Threads) : ℕ :=
  match t.consumerSlot with
  | none => 0
  | some i => if (t.buffer.slots i).state = .READING then 0 else 1

/-- The count is at least what is stored and owed, and at most that and the `c` slots cleared. -/
structure Counts (t : Threads) (c : ℕ) : Prop where
  size : t.buffer.bufferSize ∈ JitterBuffer.sizes
  noWrap : t.wrapped = false
  /-- nobody but the producer fills its slot -/
  unfilled : ∀ i, t.producerSlot = some i → ¬ (t.buffer.slots i).Full
  low : t.buffer.ready + Threads.owedByProducer t.producer + Threads.owedByConsumer t.consumer ≤
    t.buffer.validPackets
  high : t.buffer.validPackets + stolen t ≤
    t.buffer.ready + Threads.owedByProducer t.producer + Threads.owedByConsumer t.consumer + c
  cleared_le : c ≤ t.buffer.bufferSize

variable {t : Threads} {c : ℕ}

theorem stolen_eq {t' : Threads} (hslot : t'.consumerSlot = t.consumerSlot)
    (h : ∀ i, t.consumerSlot = some i →
      ((t'.buffer.slots i).state = .READING ↔ (t.buffer.slots i).state = .READING)) :
    stolen t' = stolen t := by
  unfold stolen
  rw [hslot]
  cases hs : t.consumerSlot with
  | none => rfl
  | some i => simp only [h i hs]

/-- A store that neither makes nor unmakes a slot `READING` steals nothing. -/
theorem stolen_setSlot {i : ℕ} {x : Slot} {a : AddPc}
    (h : x.state = .READING ↔ (t.buffer.slots i).state = .READING) :
    stolen { t with buffer := t.buffer.setSlot i x, producer := a } = stolen t := by
  refine stolen_eq ?_ fun j _ => ?_
  · unfold Threads.consumerSlot
    cases t.consumer <;> rfl
  · by_cases hj : j = i
    · subst hj
      show ((t.buffer.setSlot j x).slots j).state = _ ↔ _
      rw [JitterBuffer.slots_setSlot_self]
      exact h
    · show ((t.buffer.setSlot i x).slots j).state = _ ↔ _
      rw [JitterBuffer.slots_setSlot_of_ne hj]

theorem Counts.count_lt (h : Counts t c) : t.buffer.validPackets + 1 < 2 ^ 64 := by
  have h1 : t.buffer.ready ≤ t.buffer.bufferSize := countBelow_le
  have h2 : Threads.owedByProducer t.producer ≤ 1 := by
    cases t.producer <;> simp [Threads.owedByProducer]
  have h3 : Threads.owedByConsumer t.consumer ≤ 1 := by
    cases t.consumer <;> simp [Threads.owedByConsumer]
  have h4 : t.buffer.bufferSize ≤ 4096 := by
    obtain ⟨k, -, hk, he⟩ := JitterBuffer.exists_of_mem_sizes h.size
    rw [he]
    exact Nat.pow_le_pow_right (by omega) hk
  have h5 := h.high
  have h6 := h.cleared_le
  omega

/-! ## The producer -/

theorem counts_stepProducer (h : Counts t c) : Counts t.stepProducer c := by
  have hlt := h.count_lt
  obtain ⟨hsize, hwrap, hfree, hlow, hhigh, hc⟩ := h
  unfold Threads.stepProducer
  unfold Threads.producerSlot at hfree
  cases hpc : t.producer with
  | idle => exact ⟨hsize, hwrap, fun i hi => by simp [Threads.producerSlot, hpc] at hi, hlow, hhigh, hc⟩
  | called p =>
    rw [hpc] at hlow hhigh
    dsimp only
    split_ifs with hs
    · have hs' : (t.buffer.slots (t.buffer.getIndex p.sequenceNumber)).state = .EMPTY := hs
      have hr : (t.buffer.setState (t.buffer.getIndex p.sequenceNumber) .WRITING).ready =
          t.buffer.ready :=
        JitterBuffer.ready_setState_of_ne (JitterBuffer.getIndex_lt hsize _) (by simp [hs']) (by simp)
      have hst := stolen_setSlot (t := t) (i := t.buffer.getIndex p.sequenceNumber)
        (x := { t.buffer.slots (t.buffer.getIndex p.sequenceNumber) with state := .WRITING })
        (a := .acquired p) (by simp [hs'])
      refine ⟨hsize, hwrap, fun i hi => ?_, ?_, ?_, hc⟩
      · obtain rfl : t.buffer.getIndex p.sequenceNumber = i := Option.some.inj hi
        show ¬ ((t.buffer.setSlot _ _).slots _).Full
        rw [JitterBuffer.slots_setSlot_self]
        simp [Slot.Full]
      · show (t.buffer.setState _ _).ready + _ + _ ≤ _
        rw [hr]
        exact hlow
      · show t.buffer.validPackets + stolen { t with buffer := t.buffer.setSlot _ _, producer := _ } ≤
          (t.buffer.setState _ _).ready + _ + _ + c
        rw [hr, hst]
        exact hhigh
    · exact ⟨hsize, hwrap, fun i hi => by simp [Threads.producerSlot] at hi, hlow, hhigh, hc⟩
  | acquired p =>
    rw [hpc] at hlow hhigh hfree
    have hs : ¬ (t.buffer.slots (t.buffer.getIndex p.sequenceNumber)).Full := hfree _ rfl
    have hready : (t.buffer.slots (t.buffer.getIndex p.sequenceNumber)).state ≠ .READY :=
      fun h => hs (Or.inl h)
    have hr := JitterBuffer.ready_setSlot (x := (t.buffer.slotOf p.sequenceNumber).fill p)
      (JitterBuffer.getIndex_lt hsize p.sequenceNumber)
    have hfill : ((t.buffer.slotOf p.sequenceNumber).fill p).state ≠ .READY := hready
    rw [if_neg hready, if_neg hfill] at hr
    have hst := stolen_setSlot (t := t) (i := t.buffer.getIndex p.sequenceNumber)
      (x := (t.buffer.slotOf p.sequenceNumber).fill p) (a := .filled p) Iff.rfl
    refine ⟨hsize, hwrap, fun i hi => ?_, ?_, ?_, hc⟩
    · obtain rfl : t.buffer.getIndex p.sequenceNumber = i := Option.some.inj hi
      show ¬ ((t.buffer.setSlot _ _).slots _).Full
      rw [JitterBuffer.slots_setSlot_self]
      exact hs
    · show (t.buffer.setSlot _ _).ready + 0 + _ ≤ _
      rw [hr]
      exact hlow
    · show t.buffer.validPackets + stolen { t with buffer := t.buffer.setSlot _ _, producer := _ } ≤
        (t.buffer.setSlot _ _).ready + 0 + _ + c
      rw [hr, hst]
      exact hhigh
  | filled p =>
    rw [hpc] at hlow hhigh hfree
    have hv := sizeAdd_of_lt hlt
    dsimp only
    generalize sizeAdd t.buffer.validPackets 1 = v at hv ⊢
    have hst : stolen { t with
        buffer := { t.buffer with validPackets := v }, producer := .counted p } = stolen t := by
      refine stolen_eq ?_ fun j _ => Iff.rfl
      unfold Threads.consumerSlot
      cases t.consumer <;> rfl
    simp only [Threads.owedByProducer] at hlow hhigh
    refine ⟨hsize, hwrap, hfree, ?_, ?_, hc⟩
    · show t.buffer.ready + 1 + Threads.owedByConsumer t.consumer ≤ v
      omega
    · rw [hst]
      show v + stolen t ≤ t.buffer.ready + 1 + Threads.owedByConsumer t.consumer + c
      omega
  | counted p =>
    rw [hpc] at hlow hhigh hfree
    have hs : ¬ (t.buffer.slots (t.buffer.getIndex p.sequenceNumber)).Full := hfree _ rfl
    have hr : (t.publish p).buffer.ready = t.buffer.ready + 1 :=
      Threads.ready_publish hsize fun h => hs (Or.inl h)
    have hst : stolen (t.publish p) = stolen t := by
      refine stolen_eq ?_ fun j _ => ?_
      · unfold Threads.consumerSlot Threads.publish
        cases t.consumer <;> rfl
      · by_cases hj : j = t.buffer.getIndex p.sequenceNumber
        · subst hj
          rw [Threads.slots_publish_self]
          exact ⟨fun h => (by cases h), fun h => absurd (Or.inr h) hs⟩
        · rw [Threads.slots_publish_of_ne hj]
    simp only [Threads.owedByProducer] at hlow hhigh
    refine ⟨hsize, hwrap, fun i hi => ?_, ?_, ?_, hc⟩
    · cases hi
    · show (t.publish p).buffer.ready + 0 + Threads.owedByConsumer t.consumer ≤ t.buffer.validPackets
      omega
    · show t.buffer.validPackets + stolen (t.publish p) ≤
        (t.publish p).buffer.ready + 0 + Threads.owedByConsumer t.consumer + c
      omega

/-! ## The consumer -/

/-- The count is nothing to what was stolen. -/
theorem stolen_of_released {t' : Threads} (h : t'.consumerSlot = none) : stolen t' = 0 := by
  rw [stolen, h]

/-- The return from `getNextPacket`, the count gone down by one. -/
theorem counts_answer (h : Counts t c) {n : UInt32} {result : Option Output} {o v : ℕ}
    {l : List Delivery} (hcc : t.consumer = .released n result o)
    (hv : v + 1 = t.buffer.validPackets) :
    Counts { t with
      buffer := { t.buffer with validPackets := v }
      consumer := .idle
      deliveries := l
      wrapped := false } c := by
  obtain ⟨hsize, -, hfree, hlow, hhigh, hc⟩ := h
  rw [hcc] at hlow hhigh
  simp only [Threads.owedByConsumer] at hlow hhigh
  refine ⟨hsize, rfl, hfree, ?_, ?_, hc⟩
  · show t.buffer.ready + Threads.owedByProducer t.producer + 0 ≤ v
    omega
  · rw [stolen_of_released rfl]
    show v + 0 ≤ t.buffer.ready + Threads.owedByProducer t.producer + 0 + c
    omega

theorem counts_stepConsumer (h : Counts t c) : Counts t.stepConsumer c := by
  have hlt := h.count_lt
  obtain ⟨hsize, hwrap, hfree, hlow, hhigh, hc⟩ := h
  unfold Threads.stepConsumer
  cases hcc : t.consumer with
  | idle => exact ⟨hsize, hwrap, hfree, hlow, hhigh, hc⟩
  | called n bufferSize =>
    rw [hcc] at hlow hhigh
    have hst0 : stolen t = 0 := stolen_of_released (by rw [Threads.consumerSlot, hcc])
    simp only [Threads.owedByConsumer] at hlow hhigh
    dsimp only
    split_ifs with hs
    · have hs' : (t.buffer.slots (t.buffer.getIndex n)).state = .READY := hs
      have hr : (t.buffer.setState (t.buffer.getIndex n) .READING).ready + 1 = t.buffer.ready :=
        JitterBuffer.ready_setState_of_ready (JitterBuffer.getIndex_lt hsize n) hs' (by simp)
      refine ⟨hsize, hwrap, fun i hi => ?_, ?_, ?_, hc⟩
      · have hne : i ≠ t.buffer.getIndex n := by
          rintro rfl
          exact hfree _ hi (Or.inl hs')
        show ¬ ((t.buffer.setSlot _ _).slots i).Full
        rw [JitterBuffer.slots_setSlot_of_ne hne]
        exact hfree i hi
      · show (t.buffer.setState (t.buffer.getIndex n) .READING).ready +
          Threads.owedByProducer t.producer + 1 ≤ t.buffer.validPackets
        omega
      · have hst : stolen { t with
            buffer := t.buffer.setState (t.buffer.getIndex n) .READING
            consumer := .acquired n bufferSize } = 0 := by
          show (if ((t.buffer.setSlot _ _).slots (t.buffer.getIndex n)).state = _ then 0 else 1) = 0
          rw [JitterBuffer.slots_setSlot_self, if_pos rfl]
        rw [hst]
        show t.buffer.validPackets + 0 ≤ (t.buffer.setState (t.buffer.getIndex n) .READING).ready +
          Threads.owedByProducer t.producer + 1 + c
        omega
    · exact ⟨hsize, hwrap, hfree, hlow, by rw [stolen_of_released rfl]; rw [hst0] at hhigh; exact hhigh,
        hc⟩
  | acquired n bufferSize =>
    rw [hcc] at hlow hhigh
    have hst : stolen { t with
        consumer := .read n ((t.buffer.slotOf n).read bufferSize n)
          (t.origin (t.buffer.getIndex n)) } = stolen t :=
      stolen_eq (by rw [Threads.consumerSlot, Threads.consumerSlot, hcc]) fun _ _ => Iff.rfl
    exact ⟨hsize, hwrap, hfree, hlow, by rw [hst]; exact hhigh, hc⟩
  | read n result o =>
    rw [hcc] at hlow hhigh
    -- the slot may have been cleared and filled again: that was stolen before
    have hr : t.buffer.ready ≤ (t.buffer.setState (t.buffer.getIndex n) .EMPTY).ready + stolen t ∧
        (t.buffer.setState (t.buffer.getIndex n) .EMPTY).ready ≤ t.buffer.ready := by
      by_cases hs : (t.buffer.slots (t.buffer.getIndex n)).state = .READY
      · have hst : stolen t = 1 := by
          rw [stolen, Threads.consumerSlot, hcc]
          exact if_neg (by rw [hs]; simp)
        have := JitterBuffer.ready_setState_of_ready (JitterBuffer.getIndex_lt hsize n) hs
          (show SlotState.EMPTY ≠ .READY by simp)
        omega
      · rw [JitterBuffer.ready_setState_of_ne (JitterBuffer.getIndex_lt hsize n) hs (by simp)]
        omega
    simp only [Threads.owedByConsumer] at hlow hhigh
    refine ⟨hsize, hwrap, fun i hi => ?_, ?_, ?_, hc⟩
    · by_cases hin : i = t.buffer.getIndex n
      · subst hin
        show ¬ ((t.buffer.setSlot _ _).slots _).Full
        rw [JitterBuffer.slots_setSlot_self]
        simp [Slot.Full]
      · show ¬ ((t.buffer.setSlot _ _).slots i).Full
        rw [JitterBuffer.slots_setSlot_of_ne hin]
        exact hfree i hi
    · show (t.buffer.setState (t.buffer.getIndex n) .EMPTY).ready +
        Threads.owedByProducer t.producer + 1 ≤ t.buffer.validPackets
      omega
    · rw [stolen_of_released rfl]
      show t.buffer.validPackets + 0 ≤ (t.buffer.setState (t.buffer.getIndex n) .EMPTY).ready +
        Threads.owedByProducer t.producer + 1 + c
      omega
  | released n result o =>
    rw [hcc] at hlow hhigh
    simp only [Threads.owedByConsumer] at hlow hhigh
    have hw : (t.wrapped || t.buffer.validPackets == 0) = false := by
      rw [hwrap, Bool.false_or]
      exact beq_eq_false_iff_ne.mpr (by omega)
    dsimp only
    rw [hw]
    refine counts_answer ⟨hsize, hwrap, hfree, ?_, ?_, hc⟩ hcc ?_
    · rw [hcc]
      exact hlow
    · rw [hcc]
      exact hhigh
    · rw [sizeSub_of_le (by omega) (by omega)]
      omega

/-! ## The resetter -/

/-- Clearing a slot: what the count has too many by it is one of the slots cleared. -/
theorem counts_clear (h : Counts t c) {i : ℕ} (hi : i < t.buffer.bufferSize)
    (hc : c < t.buffer.bufferSize) :
    Counts { t with buffer := t.buffer.setState i .EMPTY } (c + 1) := by
  obtain ⟨hsize, hwrap, hfree, hlow, hhigh, -⟩ := h
  have hst : stolen { t with buffer := t.buffer.setState i .EMPTY } ≤
      stolen t + if (t.buffer.slots i).state = .READING then 1 else 0 := by
    unfold stolen Threads.consumerSlot
    cases t.consumer with
    | idle => exact Nat.zero_le _
    | called n bufferSize => exact Nat.zero_le _
    | released n result o => exact Nat.zero_le _
    | acquired n bufferSize =>
      show (if ((t.buffer.setSlot i _).slots (t.buffer.getIndex n)).state = _ then 0 else 1) ≤
        (if (t.buffer.slots (t.buffer.getIndex n)).state = _ then 0 else 1) + _
      by_cases hin : t.buffer.getIndex n = i
      · subst hin
        split_ifs <;> omega
      · rw [JitterBuffer.slots_setSlot_of_ne hin]
        omega
    | read n result o =>
      show (if ((t.buffer.setSlot i _).slots (t.buffer.getIndex n)).state = _ then 0 else 1) ≤
        (if (t.buffer.slots (t.buffer.getIndex n)).state = _ then 0 else 1) + _
      by_cases hin : t.buffer.getIndex n = i
      · subst hin
        split_ifs <;> omega
      · rw [JitterBuffer.slots_setSlot_of_ne hin]
        omega
  have hr : (t.buffer.setState i .EMPTY).ready +
      (if (t.buffer.slots i).state = .READY then 1 else 0) = t.buffer.ready := by
    have := JitterBuffer.ready_setSlot (x := { t.buffer.slots i with state := .EMPTY }) hi
    rw [if_neg (show SlotState.EMPTY ≠ .READY by simp)] at this
    exact this
  have hone : (if (t.buffer.slots i).state = .READY then 1 else 0) +
      (if (t.buffer.slots i).state = .READING then 1 else 0) ≤ 1 := by
    cases (t.buffer.slots i).state <;> simp
  refine ⟨hsize, hwrap, fun j hj => ?_, ?_, ?_, hc⟩
  · by_cases hji : j = i
    · subst hji
      show ¬ ((t.buffer.setSlot j _).slots j).Full
      rw [JitterBuffer.slots_setSlot_self]
      simp [Slot.Full]
    · show ¬ ((t.buffer.setSlot i _).slots j).Full
      rw [JitterBuffer.slots_setSlot_of_ne hji]
      exact hfree j hj
  · show (t.buffer.setState i .EMPTY).ready + Threads.owedByProducer t.producer +
      Threads.owedByConsumer t.consumer ≤ t.buffer.validPackets
    omega
  · show t.buffer.validPackets + stolen { t with buffer := t.buffer.setState i .EMPTY } ≤
      (t.buffer.setState i .EMPTY).ready + Threads.owedByProducer t.producer +
        Threads.owedByConsumer t.consumer + (c + 1)
    omega

/-- The store of zero, with nothing stored and nothing owed. -/
theorem counts_zero {l : Live} (h : Counts l.threads c) (hs : l.Settled) :
    Counts { l.threads with buffer := { l.threads.buffer with validPackets := 0 } } 0 := by
  obtain ⟨h1, h2, h3⟩ := hs
  have hst : stolen { l.threads with buffer := { l.threads.buffer with validPackets := 0 } } = 0 := by
    refine stolen_of_released ?_
    unfold Threads.consumerSlot
    cases hcc : l.threads.consumer with
    | idle => rfl
    | called n bufferSize => rfl
    | released n result o => rfl
    | acquired n bufferSize =>
      rw [hcc] at h3
      cases h3
    | read n result o =>
      rw [hcc] at h3
      cases h3
  refine ⟨h.size, h.noWrap, h.unfilled, ?_, ?_, Nat.zero_le _⟩
  · show l.threads.buffer.ready + Threads.owedByProducer l.threads.producer +
      Threads.owedByConsumer l.threads.consumer ≤ 0
    omega
  · rw [hst]
    exact Nat.zero_le _

/-! ## Every run -/

variable {l : Live}

/-- The invariant: the counts of the two threads, with the slots the reset has cleared. -/
def Inv (l : Live) : Prop := Counts l.threads l.cleared

theorem counts_step (h : Counts t c) (a : Act) : Counts (t.step a) c := by
  cases a with
  | addPacket p =>
    unfold Threads.step
    cases hpc : t.producer with
    | idle =>
      obtain ⟨hsize, hwrap, -, hlow, hhigh, hc⟩ := h
      rw [hpc] at hlow hhigh
      exact ⟨hsize, hwrap, fun i hi => (nomatch hi), hlow, hhigh, hc⟩
    | called p => exact h
    | acquired p => exact h
    | filled p => exact h
    | counted p => exact h
  | getNextPacket n bufferSize =>
    unfold Threads.step
    cases hcc : t.consumer with
    | idle =>
      obtain ⟨hsize, hwrap, hfree, hlow, hhigh, hc⟩ := h
      have hst : stolen t = 0 := stolen_of_released (by rw [Threads.consumerSlot, hcc])
      rw [hcc] at hlow
      rw [hcc, hst] at hhigh
      exact ⟨hsize, hwrap, hfree, hlow, by rw [stolen_of_released rfl]; exact hhigh, hc⟩
    | called n bufferSize => exact h
    | acquired n bufferSize => exact h
    | read n result o => exact h
    | released n result o => exact h
  | producer => exact counts_stepProducer h
  | consumer => exact counts_stepConsumer h

theorem inv_step (h : Inv l) (a : LiveAct) (hg : l.Guarded a) : Inv (l.step a) := by
  cases a with
  | thread a => exact counts_step h a
  | resetStatistics =>
    unfold Inv cleared at h
    unfold step
    cases hr : l.resetter with
    | idle =>
      rw [hr] at h
      exact h
    | clearing i =>
      rw [hr] at h
      unfold Inv cleared
      rw [hr]
      exact h
  | resetter =>
    unfold Inv cleared at h
    unfold Guarded at hg
    unfold step stepResetter
    cases hr : l.resetter with
    | idle =>
      unfold Inv cleared
      rw [hr] at h ⊢
      exact h
    | clearing i =>
      rw [hr] at h hg
      dsimp only
      split_ifs with hi
      · exact counts_clear h hi hi
      · exact counts_zero h (hg.resolve_left hi)

theorem sound_of_inv (h : Inv l) : Sound l := by
  refine ⟨h.noWrap, fun hq => ?_⟩
  have hlow := h.low
  have hhigh := h.high
  have hc : l.cleared = 0 := by
    rw [cleared, hq.2]
  rw [hc] at hhigh
  rw [hq.1.1, hq.1.2] at hlow hhigh
  simp only [Threads.owedByProducer, Threads.owedByConsumer] at hlow hhigh
  show l.threads.buffer.validPackets = l.threads.buffer.ready
  omega

theorem inv_construct (depth : ℕ) :
    Inv { threads := { buffer := JitterBuffer.construct depth } } := by
  have hr : (JitterBuffer.construct depth).ready = 0 := countBelow_eq_zero.mpr fun i _ => rfl
  refine ⟨JitterBuffer.bufferSize_mem depth, rfl, fun i hi => (nomatch hi), ?_, Nat.zero_le _,
    Nat.zero_le _⟩
  show (JitterBuffer.construct depth).ready + 0 + 0 ≤ 0
  omega

/-- **A reset is safe when its store of zero finds the buffer settled**: in every run in which every
reset does, whatever the steps before and between, the count never goes below zero and is right
whenever all calls have finished. -/
theorem always_sound (depth : ℕ) (acts : List LiveAct)
    (h : Along step Guarded { threads := { buffer := JitterBuffer.construct depth } } acts) :
    Always step Sound { threads := { buffer := JitterBuffer.construct depth } } acts :=
  Always.imp (fun _ => sound_of_inv) (always_of_along (fun _ a => (inv_step · a)) (inv_construct depth) h)

/-- A packet with this sequence number. -/
def tick (n : UInt32) : Packet := ⟨[1, 2], n, 0⟩

/-- A packet taken while the reset clears its first slots, and given out before the store of zero. -/
def harmless : List LiveAct :=
  [.resetStatistics, .resetter, .resetter] ++
    List.map LiveAct.thread [.addPacket (tick 40), .producer, .producer, .producer, .producer,
      .getNextPacket 40 1500, .consumer, .consumer, .consumer, .consumer] ++
    List.replicate 31 .resetter

/-- The reset comes between the exchange and the decrement of a `getNextPacket`. -/
def between : List LiveAct :=
  List.map LiveAct.thread [.addPacket (tick 0), .producer, .producer, .producer, .producer,
      .getNextPacket 0 1500, .consumer] ++
    .resetStatistics :: List.replicate 33 .resetter ++
    List.map LiveAct.thread [.consumer, .consumer, .consumer]

theorem harmless_sound :
    Always step Sound { threads := { buffer := JitterBuffer.construct 32 } } harmless :=
  always_sound 32 harmless (by decide)

theorem between_not_sound :
    ¬ Always step Sound { threads := { buffer := JitterBuffer.construct 32 } } between := by
  intro h
  have hw : (between.foldl step
      { threads := { buffer := JitterBuffer.construct 32 } }).threads.wrapped = true := by
    decide
  rw [h.run.noWrap] at hw
  cases hw

end Live

end Aes67.Rtp
