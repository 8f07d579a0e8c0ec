import Mathlib
import Aes67.Lib.Run
import Aes67.Shared.RingBuffer

/-!
# The ring buffer is a bounded queue

The elements stored are those of the circular window between the two indices (`contents`). What a
thread holds inside a call stays true under the other's steps: the producer's cells lie beyond the
window, the consumer's inside it, and the loaded index of the other thread can only be out of date
in the safe direction.

* `Bounded`, `stored`, `contents`: the buffer between two calls;
* `getAvailableRead_eq`, `getAvailableWrite_eq`, `wrapIndex_eq`, `cells_eq`: the source's arithmetic
  on a bounded buffer;
* `ProducerOk`, `ConsumerOk`, `Shared.Inv`: what holds at every place of the two calls;
* `inv_step`, `sim_step`: one step keeps it and is a step of the queue;
* `Shared.Queued`: what a client relies on; **`queued_iff`**: every run has it exactly when the
  constructor's `capacity + 1` does not wrap.
-/

namespace Aes67.SPSCRingBuffer

variable {α : Type}

/-! ## The buffer between two calls -/

/-- How far `w` lies ahead of `r` on a circle of `c` cells. -/
def ahead (c r w : ℕ) : ℕ := if r ≤ w then w - r else c - r + w

section Ahead

variable {c r w n : ℕ}

theorem ahead_lt (hr : r < c) (hw : w < c) : ahead c r w < c := by
  unfold ahead
  split_ifs <;> omega

theorem wrap_add_ahead (hr : r < c) (hw : w < c) : wrap c (r + ahead c r w) = w := by
  unfold ahead wrap
  split_ifs <;> omega

theorem ahead_wrap_right (hr : r < c) (hw : w < c) (hn : ahead c r w + n < c) :
    ahead c r (wrap c (w + n)) = ahead c r w + n := by
  unfold ahead wrap at *
  split_ifs at * <;> omega

theorem ahead_wrap_left (hr : r < c) (hw : w < c) (hn : n ≤ ahead c r w) :
    ahead c (wrap c (r + n)) w = ahead c r w - n := by
  unfold ahead wrap at *
  split_ifs at * <;> omega

/-- Cells beyond the window are not cells of the window. -/
theorem wrap_ne_wrap (hr : r < c) (hw : w < c) {j k : ℕ} (hj : j < ahead c r w)
    (hk : ahead c r w + k < c) : wrap c (r + j) ≠ wrap c (w + k) := by
  intro h
  rw [← wrap_add_ahead hr hw, wrap_wrap_add (by omega), Nat.add_assoc] at h
  have := wrap_add_inj (by omega) hk h
  omega

end Ahead

variable (b : SPSCRingBuffer α)

/-- The indices are inside the vector, and the vector is one that can be built. -/
structure Bounded : Prop where
  capacity_le : b.capacity ≤ vectorMaxSize
  write_lt : b.writeIndex < b.capacity
  read_lt : b.readIndex < b.capacity

/-- The number of elements stored. -/
def stored : ℕ := ahead b.capacity b.readIndex b.writeIndex

/-- The elements stored, oldest first. -/
def contents : List α := window b.buffer b.capacity b.readIndex b.stored

variable {b}

theorem length_contents : b.contents.length = b.stored := length_window

theorem getAvailableRead_eq {r w : ℕ} (hc : b.capacity ≤ vectorMaxSize) (hr : r < b.capacity)
    (hw : w < b.capacity) : b.getAvailableRead r w = ahead b.capacity r w := by
  unfold getAvailableRead ahead vectorMaxSize at *
  split_ifs with h
  · exact sizeSub_of_le h (by omega)
  · rw [sizeSub_of_le (by omega) (by omega), sizeAdd_of_lt (by omega)]

theorem getAvailableWrite_eq {r w : ℕ} (hc : b.capacity ≤ vectorMaxSize) (hr : r < b.capacity)
    (hw : w < b.capacity) : b.getAvailableWrite w r = b.capacity - 1 - ahead b.capacity r w := by
  unfold getAvailableWrite ahead vectorMaxSize at *
  by_cases h : w < r
  · have hi : sizeSub r w = r - w := sizeSub_of_le (by omega) (by omega)
    rw [if_pos h, if_neg (by omega), hi, sizeSub_of_le (by omega) (by omega)]
    omega
  · have hi : sizeSub b.capacity w = b.capacity - w := sizeSub_of_le (by omega) (by omega)
    rw [if_neg h, if_pos (by omega), hi, sizeAdd_of_lt (by omega),
      sizeSub_of_le (by omega) (by omega)]
    omega

theorem wrapIndex_eq {i n : ℕ} (hc : b.capacity ≤ vectorMaxSize) (h : i + n < 2 * b.capacity) :
    b.wrapIndex (sizeAdd i n) = wrap b.capacity (i + n) := by
  unfold vectorMaxSize at hc
  rw [sizeAdd_of_lt (by omega), wrapIndex, wrap]
  split_ifs with hi
  · exact sizeSub_of_le hi (by omega)
  · rfl

theorem cells_eq {i n : ℕ} (hc : b.capacity ≤ vectorMaxSize) (hi : i < b.capacity) :
    b.cells i n = (List.range n).map fun k => wrap b.capacity (i + k) := by
  unfold vectorMaxSize at hc
  rw [← range'_append_range' hi.le, cells, firstChunk, sizeSub_of_le hi.le (by omega)]
  split_ifs with h
  · rfl
  · rw [show n - min n (b.capacity - i) = 0 by omega]
    rfl

theorem map_cells {i n : ℕ} (f : ℕ → α) (hc : b.capacity ≤ vectorMaxSize) (hi : i < b.capacity) :
    (b.cells i n).map f = window f b.capacity i n := by
  rw [cells_eq hc hi, List.map_map]
  rfl

theorem mem_cells {i n x : ℕ} (hc : b.capacity ≤ vectorMaxSize) (hi : i < b.capacity)
    (hx : x ∈ b.cells i n) : ∃ k < n, x = wrap b.capacity (i + k) := by
  rw [cells_eq hc hi, List.mem_map] at hx
  obtain ⟨k, hk, rfl⟩ := hx
  exact ⟨k, List.mem_range.mp hk, rfl⟩

theorem nodup_cells {i n : ℕ} (hc : b.capacity ≤ vectorMaxSize) (hi : i < b.capacity)
    (hn : n ≤ b.capacity) : (b.cells i n).Nodup := by
  rw [cells_eq hc hi]
  refine List.Nodup.map_on (fun j hj k hk h => ?_) List.nodup_range
  rw [List.mem_range] at hj hk
  exact wrap_add_inj (by omega) (by omega) h

/-- The memory after the elements still to be copied have been copied. -/
def copyAll (f : ℕ → α) (todo : List (ℕ × α)) : ℕ → α :=
  todo.foldl (fun f t => Function.update f t.1 t.2) f

theorem copyAll_of_not_mem {f : ℕ → α} {todo : List (ℕ × α)} {i : ℕ}
    (h : ∀ t ∈ todo, t.1 ≠ i) : copyAll f todo i = f i := by
  induction todo generalizing f with
  | nil => rfl
  | cons t todo ih =>
    rw [copyAll, List.foldl_cons, ← copyAll, ih fun u hu => h u (List.mem_cons_of_mem _ hu)]
    exact Function.update_of_ne (h t List.mem_cons_self).symm _ _

/-- Copied to cells that all differ, data can be read back from them. -/
theorem map_copyAll_zip {l : List ℕ} {data : List α} {f : ℕ → α} (hl : l.Nodup)
    (hlen : l.length ≤ data.length) : l.map (copyAll f (l.zip data)) = data.take l.length := by
  induction l generalizing f data with
  | nil => rfl
  | cons i l ih =>
    obtain ⟨x, data, rfl⟩ := List.exists_cons_of_length_pos (lt_of_lt_of_le (Nat.succ_pos _) hlen)
    rw [List.nodup_cons] at hl
    have hi : ∀ t ∈ l.zip data, t.1 ≠ i := by
      rintro t ht rfl
      exact hl.1 (List.of_mem_zip ht).1
    rw [List.zip_cons_cons, List.map_cons, copyAll, List.foldl_cons, ← copyAll,
      copyAll_of_not_mem hi, ih hl.2 (by simpa using hlen), Function.update_self, List.length_cons,
      List.take_succ_cons]

/-! ## The calls in progress -/

/-- What holds of the producer at each place of `write`: a loaded index is the current one; the
transfer fits behind the elements stored now, its remaining cells lie there, and once they are
copied the cells hold the data. -/
def ProducerOk (b : SPSCRingBuffer α) : WritePc α → Prop
  | .idle => True
  | .called _ => True
  | .loaded _ writeIdx => writeIdx = b.writeIndex
  | .copying data writeIdx toWrite todo =>
    writeIdx = b.writeIndex ∧ b.stored + toWrite < b.capacity ∧
      (∀ t ∈ todo, ∃ k < toWrite, t.1 = wrap b.capacity (b.writeIndex + k)) ∧
      window (copyAll b.buffer todo) b.capacity b.writeIndex toWrite = data.take toWrite

/-- What holds of the consumer at each place of `read`: a loaded index is the current one; the
transfer is within the elements stored now, and what has been copied together with what the
remaining cells hold is the front of them. -/
def ConsumerOk (b : SPSCRingBuffer α) : ReadPc α → Prop
  | .idle => True
  | .called _ => True
  | .loaded _ readIdx => readIdx = b.readIndex
  | .copying readIdx toRead data todo =>
    readIdx = b.readIndex ∧ toRead ≤ b.stored ∧
      (∀ i ∈ todo, ∃ k < toRead, i = wrap b.capacity (b.readIndex + k)) ∧
      data ++ todo.map b.buffer = window b.buffer b.capacity b.readIndex toRead

namespace Shared

variable {s : Shared α}

structure Inv (s : Shared α) : Prop where
  bounded : s.ring.Bounded
  producer : ProducerOk s.ring s.producer
  consumer : ConsumerOk s.ring s.consumer

theorem stored_lt (h : s.ring.Bounded) : s.ring.stored < s.ring.capacity :=
  ahead_lt h.read_lt h.write_lt

/-- A cell the producer still has to copy to holds no stored element. -/
theorem ne_of_producer (h : s.ring.Bounded) {n i : ℕ} (hn : s.ring.stored + n < s.ring.capacity)
    (hi : ∃ k < n, i = wrap s.ring.capacity (s.ring.writeIndex + k)) {j : ℕ}
    (hj : j < s.ring.stored) : wrap s.ring.capacity (s.ring.readIndex + j) ≠ i := by
  obtain ⟨k, hk, rfl⟩ := hi
  have hk' : s.ring.stored + k < s.ring.capacity := by omega
  exact wrap_ne_wrap h.read_lt h.write_lt hj hk'

theorem toWrite_eq (h : s.ring.Bounded) (data : List α) :
    s.toWrite data s.ring.writeIndex =
      min data.length (s.ring.capacity - 1 - s.ring.stored) := by
  rw [toWrite, getAvailableWrite_eq h.capacity_le h.read_lt h.write_lt]
  rfl

theorem toRead_eq (h : s.ring.Bounded) (count : ℕ) :
    s.toRead count s.ring.readIndex = min count s.ring.stored := by
  rw [toRead, getAvailableRead_eq h.capacity_le h.read_lt h.write_lt]
  rfl

/-! ## One step -/

theorem inv_stepProducer (h : Inv s) : Inv s.stepProducer := by
  obtain ⟨hb, hp, hc⟩ := h
  unfold stepProducer
  cases hpc : s.producer with
  | idle => exact ⟨hb, hp, hc⟩
  | called data => exact ⟨hb, rfl, hc⟩
  | loaded data writeIdx =>
    rw [hpc] at hp
    obtain rfl : writeIdx = s.ring.writeIndex := hp
    have hn := toWrite_eq hb data
    have hlt := stored_lt hb
    have hfit : s.ring.stored + s.toWrite data s.ring.writeIndex < s.ring.capacity := by omega
    dsimp only
    split_ifs with h0
    · exact ⟨hb, trivial, hc⟩
    · refine ⟨hb, ⟨rfl, hfit, ?_, ?_⟩, hc⟩
      · intro t ht
        exact mem_cells hb.capacity_le hb.write_lt (List.of_mem_zip ht).1
      · have hlen : (s.ring.cells s.ring.writeIndex (s.toWrite data s.ring.writeIndex)).length =
            s.toWrite data s.ring.writeIndex := by
          rw [cells_eq hb.capacity_le hb.write_lt, List.length_map, List.length_range]
        rw [← map_cells _ hb.capacity_le hb.write_lt,
          map_copyAll_zip (nodup_cells hb.capacity_le hb.write_lt (by omega)) (by omega), hlen]
  | copying data writeIdx n todo =>
    rw [hpc] at hp
    obtain ⟨rfl, hn, htodo, hdata⟩ := hp
    cases todo with
    | nil =>
      have hw : s.ring.wrapIndex (sizeAdd s.ring.writeIndex n) =
          wrap s.ring.capacity (s.ring.writeIndex + n) :=
        wrapIndex_eq hb.capacity_le (by have := hb.write_lt; omega)
      have hst : ahead s.ring.capacity s.ring.readIndex
          (wrap s.ring.capacity (s.ring.writeIndex + n)) = s.ring.stored + n :=
        ahead_wrap_right hb.read_lt hb.write_lt hn
      dsimp only
      rw [hw]
      refine ⟨⟨hb.capacity_le, wrap_lt (by have := hb.write_lt; omega), hb.read_lt⟩, trivial, ?_⟩
      -- the index moves on, so the consumer finds no fewer elements than it has counted
      cases hcc : s.consumer with
      | idle => trivial
      | called count => trivial
      | loaded count readIdx =>
        rw [hcc] at hc
        exact hc
      | copying readIdx m got left =>
        rw [hcc] at hc
        obtain ⟨h1, h2, h3, h4⟩ := hc
        refine ⟨h1, ?_, h3, h4⟩
        show m ≤ ahead _ _ _
        rw [hst]
        omega
    | cons t todo =>
      obtain ⟨i, x⟩ := t
      have hi := htodo (i, x) List.mem_cons_self
      refine ⟨⟨hb.capacity_le, hb.write_lt, hb.read_lt⟩,
        ⟨rfl, hn, fun t ht => htodo t (List.mem_cons_of_mem _ ht), hdata⟩, ?_⟩
      -- the write is to a cell the consumer does not read
      cases hcc : s.consumer with
      | idle => trivial
      | called count => trivial
      | loaded count readIdx =>
        rw [hcc] at hc
        exact hc
      | copying readIdx m got left =>
        rw [hcc] at hc
        obtain ⟨h1, h2, h3, h4⟩ := hc
        refine ⟨h1, h2, h3, ?_⟩
        dsimp only
        rw [window_update fun k hk => ne_of_producer hb hn hi (by omega), ← h4]
        congr 1
        refine List.map_congr_left fun j hj => ?_
        obtain ⟨k, hk, rfl⟩ := h3 j hj
        exact Function.update_of_ne (ne_of_producer hb hn hi (by omega)) _ _

theorem inv_stepConsumer (h : Inv s) : Inv s.stepConsumer := by
  obtain ⟨hb, hp, hc⟩ := h
  unfold stepConsumer
  cases hcc : s.consumer with
  | idle => exact ⟨hb, hp, hc⟩
  | called count => exact ⟨hb, hp, rfl⟩
  | loaded count readIdx =>
    rw [hcc] at hc
    obtain rfl : readIdx = s.ring.readIndex := hc
    have hfit : s.toRead count s.ring.readIndex ≤ s.ring.stored := by
      rw [toRead_eq hb]
      exact min_le_right _ _
    dsimp only
    split_ifs with h0
    · exact ⟨hb, hp, trivial⟩
    · refine ⟨hb, hp, ⟨rfl, hfit, ?_, ?_⟩⟩
      · intro i hi
        exact mem_cells hb.capacity_le hb.read_lt hi
      · rw [List.nil_append, map_cells _ hb.capacity_le hb.read_lt]
  | copying readIdx m got left =>
    rw [hcc] at hc
    obtain ⟨rfl, hm, hleft, hdata⟩ := hc
    cases left with
    | nil =>
      have hlt := stored_lt hb
      have hr : s.ring.wrapIndex (sizeAdd s.ring.readIndex m) =
          wrap s.ring.capacity (s.ring.readIndex + m) :=
        wrapIndex_eq hb.capacity_le (by have := hb.read_lt; omega)
      have hst : ahead s.ring.capacity (wrap s.ring.capacity (s.ring.readIndex + m))
          s.ring.writeIndex = s.ring.stored - m :=
        ahead_wrap_left hb.read_lt hb.write_lt hm
      dsimp only
      rw [hr]
      refine ⟨⟨hb.capacity_le, hb.write_lt, wrap_lt (by have := hb.read_lt; omega)⟩, ?_, trivial⟩
      -- the index moves on, so the producer finds no less room than it has counted
      cases hpc : s.producer with
      | idle => trivial
      | called data => trivial
      | loaded data writeIdx =>
        rw [hpc] at hp
        exact hp
      | copying data writeIdx n todo =>
        rw [hpc] at hp
        obtain ⟨h1, h2, h3, h4⟩ := hp
        refine ⟨h1, ?_, h3, h4⟩
        show ahead _ _ _ + n < _
        rw [hst]
        exact lt_of_le_of_lt (by omega) h2
    | cons i left =>
      refine ⟨hb, hp, ⟨rfl, hm, fun j hj => hleft j (List.mem_cons_of_mem _ hj), ?_⟩⟩
      rw [List.append_assoc]
      exact hdata

theorem inv_step (h : Inv s) (a : Act α) : Inv (s.step a) := by
  cases a with
  | write data =>
    unfold step
    cases hpc : s.producer with
    | idle => exact ⟨h.bounded, trivial, h.consumer⟩
    | called data => exact h
    | loaded data writeIdx => exact h
    | copying data writeIdx n todo => exact h
  | read count =>
    unfold step
    cases hcc : s.consumer with
    | idle => exact ⟨h.bounded, h.producer, trivial⟩
    | called count => exact h
    | loaded count readIdx => exact h
    | copying readIdx m got left => exact h
  | producer => exact inv_stepProducer h
  | consumer => exact inv_stepConsumer h

/-- A step that returns from no call leaves the elements stored as they are. -/
theorem contents_of_silent (h : Inv s) (a : Act α) (he : s.event a = none) :
    (s.step a).ring.contents = s.ring.contents := by
  obtain ⟨hb, hp, hc⟩ := h
  cases a with
  | write data =>
    unfold step
    cases hpc : s.producer <;> rfl
  | read count =>
    unfold step
    cases hcc : s.consumer <;> rfl
  | producer =>
    unfold event at he
    unfold step stepProducer
    cases hpc : s.producer with
    | idle => rfl
    | called data => rfl
    | loaded data writeIdx =>
      dsimp only
      split_ifs <;> rfl
    | copying data writeIdx n todo =>
      rw [hpc] at hp he
      obtain ⟨rfl, hn, htodo, -⟩ := hp
      cases todo with
      | nil => cases he
      | cons t todo =>
        exact window_update fun k hk => ne_of_producer hb hn (htodo t List.mem_cons_self) hk
  | consumer =>
    unfold event at he
    unfold step stepConsumer
    cases hcc : s.consumer with
    | idle => rfl
    | called count => rfl
    | loaded count readIdx =>
      dsimp only
      split_ifs <;> rfl
    | copying readIdx m got left =>
      rw [hcc] at he
      cases left with
      | nil => cases he
      | cons i left => rfl

/-- A step that returns from `write` or `read` is a step of the queue of `capacity - 1` elements. -/
theorem contents_of_event (h : Inv s) (a : Act α) (e : Fifo.Event α) (he : s.event a = some e) :
    Fifo.Step (s.ring.capacity - 1) s.ring.contents e (s.step a).ring.contents := by
  obtain ⟨hb, hp, hc⟩ := h
  have hlt := stored_lt hb
  cases a with
  | write data => cases he
  | read count => cases he
  | producer =>
    unfold event at he
    unfold step stepProducer
    cases hpc : s.producer with
    | idle => simp [hpc] at he
    | called data => simp [hpc] at he
    | loaded data writeIdx =>
      simp only [hpc] at he ⊢
      split_ifs at he ⊢
      obtain rfl := Option.some.inj he
      exact ⟨by rw [length_contents, List.length_nil]; omega, (List.append_nil _).symm⟩
    | copying data writeIdx n todo =>
      rw [hpc] at hp
      obtain ⟨rfl, hn, -, hdata⟩ := hp
      cases todo with
      | cons t todo => simp [hpc] at he
      | nil =>
        simp only [hpc] at he ⊢
        obtain rfl := Option.some.inj he
        have hw : s.ring.wrapIndex (sizeAdd s.ring.writeIndex n) =
            wrap s.ring.capacity (s.ring.writeIndex + n) :=
          wrapIndex_eq hb.capacity_le (by have := hb.write_lt; omega)
        have hst : ahead s.ring.capacity s.ring.readIndex
            (wrap s.ring.capacity (s.ring.writeIndex + n)) = s.ring.stored + n :=
          ahead_wrap_right hb.read_lt hb.write_lt hn
        rw [hw, ← hdata]
        refine ⟨by rw [length_contents, length_window]; omega, ?_⟩
        show window _ _ _ (ahead _ _ _) = _
        rw [hst, window_append hb.read_lt (by omega), stored, wrap_add_ahead hb.read_lt hb.write_lt]
        rfl
  | consumer =>
    unfold event at he
    unfold step stepConsumer
    cases hcc : s.consumer with
    | idle => simp [hcc] at he
    | called count => simp [hcc] at he
    | loaded count readIdx =>
      simp only [hcc] at he ⊢
      split_ifs at he ⊢
      obtain rfl := Option.some.inj he
      rfl
    | copying readIdx m got left =>
      rw [hcc] at hc
      obtain ⟨rfl, hm, -, hdata⟩ := hc
      cases left with
      | cons i left => simp [hcc] at he
      | nil =>
        simp only [hcc] at he ⊢
        obtain rfl := Option.some.inj he
        have hr : s.ring.wrapIndex (sizeAdd s.ring.readIndex m) =
            wrap s.ring.capacity (s.ring.readIndex + m) :=
          wrapIndex_eq hb.capacity_le (by have := hb.read_lt; omega)
        have hst : ahead s.ring.capacity (wrap s.ring.capacity (s.ring.readIndex + m))
            s.ring.writeIndex = s.ring.stored - m :=
          ahead_wrap_left hb.read_lt hb.write_lt hm
        rw [List.map_nil, List.append_nil] at hdata
        rw [hr, hdata, ← take_window hm]
        show _ = _ ++ window _ _ _ (ahead _ _ _)
        rw [hst, window_drop hb.read_lt hlt hm]
        exact (List.take_append_drop m _).symm

theorem capacity_step (a : Act α) : (s.step a).ring.capacity = s.ring.capacity := by
  cases a with
  | write data =>
    unfold step
    cases s.producer <;> rfl
  | read count =>
    unfold step
    cases s.consumer <;> rfl
  | producer =>
    unfold step stepProducer
    cases s.producer with
    | idle => rfl
    | called data => rfl
    | loaded data writeIdx =>
      dsimp only
      split_ifs <;> rfl
    | copying data writeIdx n todo => cases todo <;> rfl
  | consumer =>
    unfold step stepConsumer
    cases s.consumer with
    | idle => rfl
    | called count => rfl
    | loaded count readIdx =>
      dsimp only
      split_ifs <;> rfl
    | copying readIdx m got left => cases left <;> rfl

theorem capacity_run (acts : List (Act α)) :
    (acts.foldl step s).ring.capacity = s.ring.capacity := by
  induction acts generalizing s with
  | nil => rfl
  | cons a acts ih => exact ih.trans (capacity_step a)

/-! ## Every run -/

/-- What the clients of a buffer for `n` elements rely on, in a state and with what the calls have
transferred until then: the transfers are those of a queue of `n` elements, which holds what
`available` says; what was returned is a prefix of what was accepted; a cell that is copied to or
from is inside the vector, and no cell is copied to and from at once; between calls the two counts
make up the capacity. -/
structure Queued (n : ℕ) (transfers : List (Fifo.Event α)) (s : Shared α) : Prop where
  fifo : ∃ q, History (Fifo.Step n) [] transfers q ∧ q.length = s.ring.available
  order : Fifo.returned transfers <+: Fifo.accepted transfers
  inside : ∀ i, s.producerCell = some i ∨ s.consumerCell = some i → i < s.ring.capacity
  apart : ∀ i, s.producerCell = some i → s.consumerCell ≠ some i
  counts : s.Quiescent → s.ring.available + s.ring.availableWrite = s.ring.usable ∧
    s.ring.usable = n

theorem producerCell_eq (h : Inv s) {i : ℕ} (hi : s.producerCell = some i) :
    ∃ n k, s.ring.stored + n < s.ring.capacity ∧ k < n ∧
      i = wrap s.ring.capacity (s.ring.writeIndex + k) := by
  obtain ⟨hb, hp, hc⟩ := h
  unfold producerCell at hi
  cases hpc : s.producer with
  | idle => simp [hpc] at hi
  | called data => simp [hpc] at hi
  | loaded data writeIdx => simp [hpc] at hi
  | copying data writeIdx n todo =>
    rw [hpc] at hp hi
    obtain ⟨-, hn, htodo, -⟩ := hp
    cases todo with
    | nil => cases hi
    | cons t todo =>
      obtain rfl : t.1 = i := Option.some.inj hi
      obtain ⟨k, hk, ht⟩ := htodo t List.mem_cons_self
      exact ⟨n, k, hn, hk, ht⟩

theorem consumerCell_eq (h : Inv s) {i : ℕ} (hi : s.consumerCell = some i) :
    ∃ k < s.ring.stored, i = wrap s.ring.capacity (s.ring.readIndex + k) := by
  obtain ⟨hb, hp, hc⟩ := h
  unfold consumerCell at hi
  cases hcc : s.consumer with
  | idle => simp [hcc] at hi
  | called count => simp [hcc] at hi
  | loaded count readIdx => simp [hcc] at hi
  | copying readIdx m got left =>
    rw [hcc] at hc hi
    obtain ⟨-, hm, hleft, -⟩ := hc
    cases left with
    | nil => cases hi
    | cons j left =>
      obtain rfl : j = i := Option.some.inj hi
      obtain ⟨k, hk, hj⟩ := hleft j List.mem_cons_self
      exact ⟨k, lt_of_lt_of_le hk hm, hj⟩

theorem queued_of_inv (h : Inv s) {transfers : List (Fifo.Event α)}
    (hist : History (Fifo.Step (s.ring.capacity - 1)) [] transfers s.ring.contents) :
    Queued (s.ring.capacity - 1) transfers s := by
  have hb := h.bounded
  have hlt := stored_lt hb
  have hr : s.ring.available = s.ring.stored :=
    getAvailableRead_eq hb.capacity_le hb.read_lt hb.write_lt
  have hw : s.ring.availableWrite = s.ring.capacity - 1 - s.ring.stored :=
    getAvailableWrite_eq hb.capacity_le hb.read_lt hb.write_lt
  refine ⟨⟨_, hist, length_contents.trans hr.symm⟩, ⟨_, (Fifo.accepted_eq hist).symm⟩, ?_, ?_, ?_⟩
  · rintro i (hi | hi)
    · obtain ⟨n, k, hn, hk, rfl⟩ := producerCell_eq h hi
      exact wrap_lt (by have := hb.write_lt; omega)
    · obtain ⟨k, hk, rfl⟩ := consumerCell_eq h hi
      exact wrap_lt (by have := hb.read_lt; omega)
  · intro i hp hc
    obtain ⟨n, k, hn, hk, rfl⟩ := producerCell_eq h hp
    obtain ⟨j, hj, hjk⟩ := consumerCell_eq h hc
    exact ne_of_producer hb hn ⟨k, hk, rfl⟩ hj hjk.symm
  · intro _
    have hu : s.ring.usable = s.ring.capacity - 1 :=
      sizeSub_of_le (by omega) (by have := hb.capacity_le; unfold vectorMaxSize at this; omega)
    rw [hr, hw, hu]
    exact ⟨by omega, rfl⟩

theorem queued_run {ring : SPSCRingBuffer α} (h : Inv { ring := ring })
    (h0 : ring.contents = []) (acts : List (Act α)) :
    Queued (ring.capacity - 1) (emitted step event { ring := ring } acts)
      (acts.foldl step { ring := ring }) := by
  have hkeep : ∀ (t : Shared α) a, Inv t ∧ t.ring.capacity = ring.capacity →
      Inv (t.step a) ∧ (t.step a).ring.capacity = ring.capacity :=
    fun t a ht => ⟨inv_step ht.1 a, (capacity_step a).trans ht.2⟩
  have hrun : Always step Inv { ring := ring } acts :=
    always_of_step (fun t a ht => inv_step ht a) h
  have hist := history_emitted (P := Fifo.Step (ring.capacity - 1))
    (f := fun t : Shared α => t.ring.contents) hkeep
    (fun t a ht he => contents_of_silent ht.1 a he)
    (fun t a e ht he => ht.2 ▸ contents_of_event ht.1 a e he) ⟨h, rfl⟩ acts
  simp only [h0] at hist
  have hc : (acts.foldl step { ring := ring }).ring.capacity = ring.capacity := capacity_run acts
  rw [← hc] at hist ⊢
  exact queued_of_inv hrun.run hist

theorem inv_construct {fill : α} {capacity : ℕ} {ring : SPSCRingBuffer α}
    (h : construct fill capacity = some ring) (hwrap : capacity + 1 < 2 ^ 64) :
    ring.capacity = capacity + 1 ∧ ring.contents = [] ∧ Inv { ring := ring } := by
  rw [construct, Option.ite_none_right_eq_some, sizeAdd_of_lt hwrap] at h
  obtain ⟨hle, h⟩ := h
  obtain rfl := Option.some.inj h
  exact ⟨rfl, rfl, ⟨hle, Nat.succ_pos _, Nat.succ_pos _⟩, trivial, trivial⟩

/-- The capacity that wraps around gives a vector without elements. -/
theorem construct_max (fill : α) :
    construct fill (2 ^ 64 - 1) = some { buffer := fun _ => fill, capacity := 0 } := by
  simp [construct, sizeAdd, vectorMaxSize]

/-- In a vector without elements the first write finds `2 ^ 64 - 1` cells free. -/
theorem producerCell_of_empty (fill x : α) :
    ([.write [x], .producer, .producer].foldl step
      { ring := { buffer := fun _ => fill, capacity := 0 } }).producerCell = some 0 := by
  have hn : min [x].length (getAvailableWrite (⟨fun _ => fill, 0, 0, 0⟩ : SPSCRingBuffer α) 0 0) =
      1 := by
    simp [getAvailableWrite, sizeSub, sizeAdd]
  simp only [List.foldl_cons, List.foldl_nil, step, stepProducer, toWrite, hn]
  simp [cells, firstChunk, sizeSub, producerCell]

/-- **The buffer refines a bounded queue**: for every capacity a buffer can be constructed with, all
calls of the producer and the consumer, interleaved in any way, are those of a queue of that
capacity, exactly when `capacity + 1` does not wrap around. -/
theorem queued_iff (fill : α) (capacity : UInt64) (ring : SPSCRingBuffer α)
    (hring : construct fill capacity.toNat = some ring) :
    (∀ acts, Queued capacity.toNat (emitted step event { ring := ring } acts)
      (acts.foldl step { ring := ring })) ↔ capacity.toNat ≠ 2 ^ 64 - 1 := by
  have hlt := capacity.toNat_lt
  constructor
  · intro h hmax
    rw [hmax, construct_max] at hring
    obtain rfl := Option.some.inj hring
    have hcell := (h [.write [fill], .producer, .producer]).inside 0
      (Or.inl (producerCell_of_empty fill fill))
    rw [capacity_run] at hcell
    exact absurd hcell (Nat.not_lt_zero 0)
  · intro hne acts
    obtain ⟨hc, h0, hinv⟩ := inv_construct hring (by omega)
    have h := queued_run hinv h0 acts
    rw [hc] at h
    exact h

/-- A buffer for four samples, with one written and one read. -/
theorem queued_four :
    Queued 4 (emitted step event { ring := { buffer := fun _ => (0 : ℤ), capacity := 5 } }
      [.write [7], .producer, .producer, .read 1, .consumer])
      ([.write [7], .producer, .producer, .read 1, .consumer].foldl step
        { ring := { buffer := fun _ => 0, capacity := 5 } }) :=
  (queued_iff 0 4 _ (by simp [construct, sizeAdd, vectorMaxSize])).mpr (by decide) _

/-- A buffer whose vector has no elements: the first write goes to its cell `0`. -/
theorem not_queued_max : ∃ ring, construct (0 : ℤ) (2 ^ 64 - 1) = some ring ∧
    ¬ ∀ acts, Queued (2 ^ 64 - 1) (emitted step event { ring := ring } acts)
      (acts.foldl step { ring := ring }) := by
  refine ⟨_, construct_max 0, fun h => ?_⟩
  have hcell := (h [.write [7], .producer, .producer]).inside 0 (Or.inl (producerCell_of_empty 0 7))
  rw [capacity_run] at hcell
  exact absurd hcell (Nat.not_lt_zero 0)

end Shared

end Aes67.SPSCRingBuffer
