import Mathlib
import Aes67.Shared.Queue

/-!
# Calls on the ring buffer, from the caller's side

What a thread that runs `write` or `read` to the end sees of it: the amount of the transfer is
settled when the second index is loaded, from the indices as they are then, and the queue changes
with the call's last step.

* `WritePc.data`, `ReadPc.count`: the arguments of the call in progress; `WritePc.settled`,
  `ReadPc.settled`: the amount it will transfer, once that is settled; `measuring`: its next step
  settles it; `writes`, `reads`: the amount, settled already or by the next step;
* **`write_step`**, **`read_step`**: a step that does not return leaves the queue alone and keeps the
  argument; the one that returns transfers the amount;
* **`contents_write`**, **`contents_read`**: a call nothing comes between.
-/

namespace Aes67.SPSCRingBuffer

variable {α : Type}

/-- The data of the `write` in progress. -/
def WritePc.data : WritePc α → Option (List α)
  | .idle => none
  | .called data => some data
  | .loaded data _ => some data
  | .copying data _ _ _ => some data

/-- The elements the `write` in progress has settled to take. -/
def WritePc.settled : WritePc α → Option ℕ
  | .copying _ _ toWrite _ => some toWrite
  | _ => none

/-- The next step of the `write` in progress looks how much room there is. -/
def WritePc.measuring : WritePc α → Bool
  | .loaded _ _ => true
  | _ => false

/-- The count of the `read` in progress: none once it is settled. -/
def ReadPc.count : ReadPc α → Option ℕ
  | .called count => some count
  | .loaded count _ => some count
  | _ => none

/-- The elements the `read` in progress has settled to give. -/
def ReadPc.settled : ReadPc α → Option ℕ
  | .copying _ toRead _ _ => some toRead
  | _ => none

/-- The next step of the `read` in progress looks how many elements there are. -/
def ReadPc.measuring : ReadPc α → Bool
  | .loaded _ _ => true
  | _ => false

theorem WritePc.data_of_settled {pc : WritePc α} {n : ℕ} (h : n ∈ pc.settled) :
    ∃ data, pc.data = some data := by
  cases pc with
  | copying data writeIdx toWrite todo => exact ⟨data, rfl⟩
  | idle => cases h
  | called data => cases h
  | loaded data writeIdx => cases h

namespace Shared

variable (s : Shared α)

/-- The elements the `write` in progress takes if its next step settles it, or has settled to
take. -/
def writes : Option ℕ :=
  match s.producer with
  | .loaded data writeIdx => some (s.toWrite data writeIdx)
  | .copying _ _ toWrite _ => some toWrite
  | _ => none

/-- The elements the `read` in progress gives if its next step settles it, or has settled to
give. -/
def reads : Option ℕ :=
  match s.consumer with
  | .loaded count readIdx => some (s.toRead count readIdx)
  | .copying _ toRead _ _ => some toRead
  | _ => none

variable {s} {data : List α} {n : ℕ}

theorem mem_writes (h : Inv s) (hd : s.producer.data = some data) (hn : n ∈ s.writes) :
    (s.producer.measuring = true ∧ n = min data.length s.ring.availableWrite) ∨
      n ∈ s.producer.settled := by
  have hp := h.producer
  unfold writes at hn
  cases hpc : s.producer with
  | idle => simp [hpc] at hn
  | called d => simp [hpc] at hn
  | copying d writeIdx m todo =>
    rw [hpc] at hn
    exact .inr hn
  | loaded d writeIdx =>
    rw [hpc] at hn hd hp
    obtain rfl : d = data := Option.some.inj hd
    obtain rfl : writeIdx = s.ring.writeIndex := hp
    obtain rfl := Option.some.inj hn
    exact .inl ⟨rfl, rfl⟩

theorem mem_reads (h : Inv s) (hn : n ∈ s.reads) :
    (s.consumer.measuring = true ∧ ∃ count ∈ s.consumer.count, n = min count s.ring.available) ∨
      n ∈ s.consumer.settled := by
  have hc := h.consumer
  unfold reads at hn
  cases hcc : s.consumer with
  | idle => simp [hcc] at hn
  | called count => simp [hcc] at hn
  | copying readIdx m got left =>
    rw [hcc] at hn
    exact .inr hn
  | loaded count readIdx =>
    rw [hcc] at hn hc
    obtain rfl : readIdx = s.ring.readIndex := hc
    obtain rfl := Option.some.inj hn
    exact .inl ⟨rfl, count, rfl, rfl⟩

/-! ## Calls do not meet -/

@[simp] theorem producer_step_consumer : (s.step .consumer).producer = s.producer := by
  unfold step stepConsumer
  cases s.consumer with
  | idle => rfl
  | called count => rfl
  | loaded count readIdx =>
    dsimp only
    split_ifs <;> rfl
  | copying readIdx m got left => cases left <;> rfl

@[simp] theorem producer_step_read : (s.step (.read n)).producer = s.producer := by
  unfold step
  cases s.consumer <;> rfl

@[simp] theorem consumer_step_producer : (s.step .producer).consumer = s.consumer := by
  unfold step stepProducer
  cases s.producer with
  | idle => rfl
  | called data => rfl
  | loaded data writeIdx =>
    dsimp only
    split_ifs <;> rfl
  | copying data writeIdx n todo => cases todo <;> rfl

@[simp] theorem consumer_step_write : (s.step (.write data)).consumer = s.consumer := by
  unfold step
  cases s.producer <;> rfl

@[simp] theorem ring_step_write : (s.step (.write data)).ring = s.ring := by
  unfold step
  cases s.producer <;> rfl

@[simp] theorem ring_step_read : (s.step (.read n)).ring = s.ring := by
  unfold step
  cases s.consumer <;> rfl

theorem producer_step_write (h : s.producer = .idle) :
    (s.step (.write data)).producer = .called data := by
  simp only [step, h]

theorem consumer_step_read (h : s.consumer = .idle) :
    (s.step (.read n)).consumer = .called n := by
  simp only [step, h]

/-! ## One step of a call -/

/-- **A step of `write`**: it keeps the data and what is settled comes from the amount before, or it
returns and has put the amount in. -/
theorem write_step (h : Inv s) (hd : s.producer.data = some data) :
    (s.event .producer = none ∧ (s.step .producer).producer.data = some data ∧
        (s.step .producer).ring.contents = s.ring.contents ∧
        ∀ n ∈ (s.step .producer).producer.settled, n ∈ s.writes) ∨
      ∃ n ∈ s.writes, n ≤ data.length ∧ s.event .producer = some (.accept (data.take n)) ∧
        (s.step .producer).producer = .idle ∧
        (s.step .producer).ring.contents = s.ring.contents ++ data.take n := by
  have hsilent := contents_of_silent h .producer
  have hevent := contents_of_event h .producer
  obtain ⟨hb, hp, -⟩ := h
  cases hpc : s.producer with
  | idle =>
    rw [hpc] at hd
    cases hd
  | called d =>
    rw [hpc] at hd
    obtain rfl : d = data := Option.some.inj hd
    have he : s.event .producer = none := by simp only [event, hpc]
    refine .inl ⟨he, ?_, hsilent he, ?_⟩ <;> simp [step, stepProducer, hpc, WritePc.data,
      WritePc.settled]
  | loaded d writeIdx =>
    rw [hpc] at hd
    obtain rfl : d = data := Option.some.inj hd
    have hw : s.writes = some (s.toWrite d writeIdx) := by simp only [writes, hpc]
    by_cases h0 : s.toWrite d writeIdx = 0
    · have he : s.event .producer = some (.accept []) := by simp only [event, hpc, if_pos h0]
      refine .inr ⟨0, h0 ▸ hw, Nat.zero_le _, he, ?_, (hevent _ he).2⟩
      simp only [step, stepProducer, hpc, if_pos h0]
    · have he : s.event .producer = none := by simp only [event, hpc, if_neg h0]
      refine .inl ⟨he, ?_, hsilent he, ?_⟩ <;>
        simp [step, stepProducer, hpc, if_neg h0, WritePc.data, WritePc.settled, hw]
  | copying d writeIdx m todo =>
    rw [hpc] at hd hp
    obtain rfl : d = data := Option.some.inj hd
    have hw : s.writes = some m := by simp only [writes, hpc]
    cases todo with
    | cons t todo =>
      have he : s.event .producer = none := by simp only [event, hpc]
      refine .inl ⟨he, ?_, hsilent he, ?_⟩ <;>
        simp [step, stepProducer, hpc, WritePc.data, WritePc.settled, hw]
    | nil =>
      have he : s.event .producer = some (.accept (d.take m)) := by simp only [event, hpc]
      have hlen : m ≤ d.length := by
        have := congrArg List.length hp.2.2.2
        rw [length_window, List.length_take] at this
        omega
      refine .inr ⟨m, hw, hlen, he, ?_, (hevent _ he).2⟩
      simp only [step, stepProducer, hpc]

/-- **A step of `read`**: what is settled comes from the amount before, or it returns and has taken
the amount out. -/
theorem read_step (h : Inv s) (hc : s.consumer ≠ .idle) :
    (s.event .consumer = none ∧ (s.step .consumer).consumer ≠ .idle ∧
        (s.step .consumer).ring.contents = s.ring.contents ∧
        (∀ n ∈ (s.step .consumer).consumer.count, n ∈ s.consumer.count) ∧
        ∀ n ∈ (s.step .consumer).consumer.settled, n ∈ s.reads) ∨
      ∃ n ∈ s.reads, n ≤ s.ring.contents.length ∧
        s.event .consumer = some (.give (s.ring.contents.take n)) ∧
        (s.step .consumer).consumer = .idle ∧
        (s.step .consumer).ring.contents = s.ring.contents.drop n := by
  have hsilent := contents_of_silent h .consumer
  have hevent := contents_of_event h .consumer
  obtain ⟨hb, -, hok⟩ := h
  have gives {xs : List α} (he : s.event .consumer = some (.give xs)) (hr : s.reads = some xs.length)
      (hidle : (s.step .consumer).consumer = .idle) : ∃ n ∈ s.reads, n ≤ s.ring.contents.length ∧
      s.event .consumer = some (.give (s.ring.contents.take n)) ∧
      (s.step .consumer).consumer = .idle ∧
      (s.step .consumer).ring.contents = s.ring.contents.drop n := by
    have hq : s.ring.contents = xs ++ (s.step .consumer).ring.contents := hevent _ he
    refine ⟨xs.length, hr, ?_, ?_, hidle, ?_⟩
    · rw [hq, List.length_append]
      omega
    · rw [hq, List.take_left, he]
    · rw [hq, List.drop_left]
  cases hcc : s.consumer with
  | idle => exact absurd hcc hc
  | called count =>
    have he : s.event .consumer = none := by simp only [event, hcc]
    refine .inl ⟨he, ?_, hsilent he, ?_, ?_⟩ <;>
      simp [step, stepConsumer, hcc, ReadPc.count, ReadPc.settled]
  | loaded count readIdx =>
    have hr : s.reads = some (s.toRead count readIdx) := by simp only [reads, hcc]
    by_cases h0 : s.toRead count readIdx = 0
    · have he : s.event .consumer = some (.give []) := by simp only [event, hcc, if_pos h0]
      refine .inr (gives he (hr.trans (congrArg some h0)) ?_)
      simp only [step, stepConsumer, hcc, if_pos h0]
    · have he : s.event .consumer = none := by simp only [event, hcc, if_neg h0]
      refine .inl ⟨he, ?_, hsilent he, ?_, ?_⟩ <;>
        simp [step, stepConsumer, hcc, if_neg h0, ReadPc.count, ReadPc.settled, hr]
  | copying readIdx m got left =>
    rw [hcc] at hok
    have hr : s.reads = some m := by simp only [reads, hcc]
    cases left with
    | cons i left =>
      have he : s.event .consumer = none := by simp only [event, hcc]
      refine .inl ⟨he, ?_, hsilent he, ?_, ?_⟩ <;>
        simp [step, stepConsumer, hcc, ReadPc.count, ReadPc.settled, hr]
    | nil =>
      have he : s.event .consumer = some (.give got) := by simp only [event, hcc]
      have hlen : got.length = m := by
        have := congrArg List.length hok.2.2.2
        rwa [List.map_nil, List.append_nil, length_window] at this
      refine .inr (gives he (hlen ▸ hr) ?_)
      simp only [step, stepConsumer, hcc]

/-! ## Calls nothing comes between -/

theorem copied_write (h : Inv s) {writeIdx m : ℕ} {todo : List (ℕ × α)}
    (hp : s.producer = .copying data writeIdx m todo) : ∃ k,
    ((List.replicate k .producer).foldl step s).producer = .idle ∧
      ((List.replicate k .producer).foldl step s).ring.contents =
        s.ring.contents ++ data.take m := by
  induction todo generalizing s with
  | nil =>
    have he : s.event .producer = some (.accept (data.take m)) := by simp only [event, hp]
    refine ⟨1, ?_, (contents_of_event h _ _ he).2⟩
    simp only [List.replicate_one, List.foldl_cons, List.foldl_nil, step, stepProducer, hp]
  | cons t todo ih =>
    have he : s.event .producer = none := by simp only [event, hp]
    have hp' : (s.step .producer).producer = .copying data writeIdx m todo := by
      simp only [step, stepProducer, hp]
    obtain ⟨k, hidle, hk⟩ := ih (inv_step h .producer) hp'
    rw [contents_of_silent h _ he] at hk
    exact ⟨k + 1, by rwa [List.replicate_succ], by rwa [List.replicate_succ]⟩

/-- **A `write` run to its end** puts in what there is room for. -/
theorem contents_write (h : Inv s) (hp : s.producer = .idle) (data : List α) : ∃ k,
    ((List.replicate k .producer).foldl step (s.step (.write data))).producer = .idle ∧
      ((List.replicate k .producer).foldl step (s.step (.write data))).ring.contents =
        s.ring.contents ++ data.take (s.ring.capacity - 1 - s.ring.contents.length) := by
  let t : Shared α := { s with producer := .loaded data s.ring.writeIndex }
  have ht : (s.step (.write data)).step .producer = t := by
    simp only [step, stepProducer, hp, t]
  have hinv : Inv t := ht ▸ inv_step (inv_step h _) _
  have hn : t.toWrite data s.ring.writeIndex =
      min data.length (s.ring.capacity - 1 - s.ring.contents.length) :=
    (toWrite_eq hinv.bounded data).trans (by rw [length_contents])
  have hdata : data.take (t.toWrite data s.ring.writeIndex) =
      data.take (s.ring.capacity - 1 - s.ring.contents.length) := by
    rw [hn, List.take_eq_take_iff]
    omega
  rw [← hdata]
  by_cases h0 : t.toWrite data s.ring.writeIndex = 0
  · have he : t.event .producer = some (.accept []) := if_pos h0
    refine ⟨2, ?_, ?_⟩
    · simp only [List.replicate, List.foldl_cons, List.foldl_nil, ht]
      simp only [step, stepProducer, t, if_pos h0]
    · simp only [List.replicate, List.foldl_cons, List.foldl_nil, ht]
      rw [h0, (contents_of_event hinv _ _ he).2]
      rfl
  · have he : t.event .producer = none := if_neg h0
    have hp' : (t.step .producer).producer = .copying data s.ring.writeIndex
        (t.toWrite data s.ring.writeIndex)
        ((s.ring.cells s.ring.writeIndex (t.toWrite data s.ring.writeIndex)).zip data) := by
      simp only [step, stepProducer, t, if_neg h0]
    obtain ⟨k, hidle, hk⟩ := copied_write (inv_step hinv .producer) hp'
    rw [contents_of_silent hinv _ he] at hk
    refine ⟨k + 2, ?_, ?_⟩
    · simpa only [List.replicate_succ, List.foldl_cons, ht] using hidle
    · simpa only [List.replicate_succ, List.foldl_cons, ht] using hk

theorem copied_read (h : Inv s) {readIdx m : ℕ} {got : List α} {left : List ℕ}
    (hp : s.consumer = .copying readIdx m got left) : ∃ k,
    ((List.replicate k .consumer).foldl step s).consumer = .idle ∧
      ((List.replicate k .consumer).foldl step s).ring.contents = s.ring.contents.drop m := by
  induction left generalizing s got with
  | nil =>
    have hm : s.reads = some m := by simp only [reads, hp]
    rcases read_step h (by rw [hp]; simp) with ⟨he, -⟩ | ⟨n, hn, -, -, hidle, hq⟩
    · simp only [event, hp] at he
      cases he
    · obtain rfl : m = n := Option.some.inj (hm.symm.trans hn)
      exact ⟨1, hidle, hq⟩
  | cons i left ih =>
    have he : s.event .consumer = none := by simp only [event, hp]
    have hp' : (s.step .consumer).consumer =
        .copying readIdx m (got ++ [s.ring.buffer i]) left := by
      simp only [step, stepConsumer, hp]
    obtain ⟨k, hidle, hk⟩ := ih (inv_step h .consumer) hp'
    rw [contents_of_silent h _ he] at hk
    exact ⟨k + 1, by rwa [List.replicate_succ], by rwa [List.replicate_succ]⟩

/-- **A `read` run to its end** takes out what is there. -/
theorem contents_read (h : Inv s) (hp : s.consumer = .idle) (n : ℕ) : ∃ k,
    ((List.replicate k .consumer).foldl step (s.step (.read n))).consumer = .idle ∧
      ((List.replicate k .consumer).foldl step (s.step (.read n))).ring.contents =
        s.ring.contents.drop n := by
  let t : Shared α := { s with consumer := .loaded n s.ring.readIndex }
  have ht : (s.step (.read n)).step .consumer = t := by
    simp only [step, stepConsumer, hp, t]
  have hinv : Inv t := ht ▸ inv_step (inv_step h _) _
  have hn : t.toRead n s.ring.readIndex = min n s.ring.contents.length :=
    (toRead_eq hinv.bounded n).trans (by rw [length_contents])
  have hdata : s.ring.contents.drop n = s.ring.contents.drop (t.toRead n s.ring.readIndex) := by
    rw [hn]
    rcases le_total n s.ring.contents.length with h | h
    · rw [min_eq_left h]
    · rw [min_eq_right h, List.drop_length, List.drop_eq_nil_of_le h]
  rw [hdata]
  by_cases h0 : t.toRead n s.ring.readIndex = 0
  · have he : t.event .consumer = some (.give []) := if_pos h0
    have hq : t.ring.contents = [] ++ (t.step .consumer).ring.contents :=
      contents_of_event hinv _ _ he
    refine ⟨2, ?_, ?_⟩
    · simp only [List.replicate, List.foldl_cons, List.foldl_nil, ht]
      simp only [step, stepConsumer, t, if_pos h0]
    · simp only [List.replicate, List.foldl_cons, List.foldl_nil, ht]
      rw [h0, List.drop_zero]
      exact hq.symm
  · have he : t.event .consumer = none := if_neg h0
    have hp' : (t.step .consumer).consumer = .copying s.ring.readIndex
        (t.toRead n s.ring.readIndex) []
        (s.ring.cells s.ring.readIndex (t.toRead n s.ring.readIndex)) := by
      simp only [step, stepConsumer, t, if_neg h0]
    obtain ⟨k, hidle, hk⟩ := copied_read (inv_step hinv .consumer) hp'
    rw [contents_of_silent hinv _ he] at hk
    refine ⟨k + 2, ?_, ?_⟩
    · simpa only [List.replicate_succ, List.foldl_cons, ht] using hidle
    · simpa only [List.replicate_succ, List.foldl_cons, ht] using hk

end Shared

end Aes67.SPSCRingBuffer
