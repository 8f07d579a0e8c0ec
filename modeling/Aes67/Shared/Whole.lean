import Aes67.Shared.Queue

/-!
# Whole calls

`write` and `read` of the ring buffer as one step each, for a thread that finds the other one
outside its calls.

* `SPSCRingBuffer.write`, `read`;
* **`contents_write_fst`**, **`contents_read_fst`**, `read_snd`: what they do to the elements
  stored.
-/

namespace Aes67.SPSCRingBuffer

variable {α : Type} (b : SPSCRingBuffer α)

/-- `write`: the buffer afterwards and the number of elements taken. -/
def write (data : List α) : SPSCRingBuffer α × ℕ :=
  let toWrite := min data.length b.availableWrite
  if toWrite = 0 then (b, 0)
  else ({ b with
    buffer := copyAll b.buffer ((b.cells b.writeIndex toWrite).zip data)
    writeIndex := b.wrapIndex (sizeAdd b.writeIndex toWrite) }, toWrite)

/-- `read`: the buffer afterwards and the elements it gives. -/
def read (count : ℕ) : SPSCRingBuffer α × List α :=
  let toRead := min count b.available
  if toRead = 0 then (b, [])
  else ({ b with readIndex := b.wrapIndex (sizeAdd b.readIndex toRead) },
    (b.cells b.readIndex toRead).map b.buffer)

/-- The number of elements there is room for. -/
def room : ℕ := b.capacity - 1 - b.contents.length

variable {b} {data : List α} {n : ℕ}

theorem available_eq (h : b.Bounded) : b.available = b.stored :=
  getAvailableRead_eq h.capacity_le h.read_lt h.write_lt

theorem availableWrite_eq (h : b.Bounded) : b.availableWrite = b.room := by
  rw [room, length_contents]
  exact getAvailableWrite_eq h.capacity_le h.read_lt h.write_lt

/-- **A `write`** puts in what there is room for. -/
theorem contents_write_fst (h : b.Bounded) :
    (b.write data).1.contents = b.contents ++ data.take b.room := by
  have hroom := availableWrite_eq h
  have hdata : data.take (min data.length b.availableWrite) = data.take b.room := by
    rw [hroom, List.take_eq_take_iff]
    omega
  unfold write
  dsimp only
  split_ifs with h0
  · rw [← hdata, h0, List.take_zero, List.append_nil]
  rw [← hdata]
  generalize hn : min data.length b.availableWrite = n at h0
  have hlt : b.stored < b.capacity := ahead_lt h.read_lt h.write_lt
  have hfit : b.stored + n < b.capacity := by
    rw [room, length_contents] at hroom
    omega
  have hw := h.write_lt
  have hmid : wrap b.capacity (b.readIndex + b.stored) = b.writeIndex :=
    wrap_add_ahead h.read_lt h.write_lt
  have hlen : (b.cells b.writeIndex n).length = n := by
    rw [cells_eq h.capacity_le h.write_lt, List.length_map, List.length_range]
  -- the cells written lie behind the elements stored
  have hold : window (copyAll b.buffer ((b.cells b.writeIndex n).zip data)) b.capacity b.readIndex
      b.stored = b.contents := by
    refine window_congr fun j hj => copyAll_of_not_mem fun t ht he => ?_
    obtain ⟨k, hk, hcell⟩ := mem_cells h.capacity_le h.write_lt (List.of_mem_zip ht).1
    have hk' : b.stored + k < b.capacity := by omega
    exact wrap_ne_wrap h.read_lt h.write_lt hj hk' (he.symm.trans hcell)
  have hnew : window (copyAll b.buffer ((b.cells b.writeIndex n).zip data)) b.capacity b.writeIndex
      n = data.take n := by
    rw [← map_cells _ h.capacity_le h.write_lt,
      map_copyAll_zip (nodup_cells h.capacity_le h.write_lt (by omega)) (by omega), hlen]
  unfold contents stored
  dsimp only
  rw [wrapIndex_eq h.capacity_le (by omega),
    ahead_wrap_right h.read_lt h.write_lt (show ahead _ _ _ + n < _ from hfit),
    window_append h.read_lt (show ahead _ _ _ + n ≤ _ from hfit.le)]
  exact congrArg₂ (· ++ ·) hold (by rw [← hnew]; exact congrArg (window _ _ · n) hmid)

/-- **A `read`** takes out what is there. -/
theorem contents_read_fst (h : b.Bounded) : (b.read n).1.contents = b.contents.drop n := by
  have hdrop : b.contents.drop n = b.contents.drop (min n b.available) := by
    rw [available_eq h, ← length_contents]
    rcases le_total n b.contents.length with h | h
    · rw [min_eq_left h]
    · rw [min_eq_right h, List.drop_length, List.drop_eq_nil_of_le h]
  unfold read
  dsimp only
  rw [hdrop]
  split_ifs with h0
  · rw [h0, List.drop_zero]
  have hle : min n b.available ≤ b.stored := by
    rw [available_eq h]
    exact min_le_right _ _
  generalize min n b.available = m at h0 hle
  have hlt : b.stored < b.capacity := ahead_lt h.read_lt h.write_lt
  have hr := h.read_lt
  unfold contents stored
  dsimp only
  rw [wrapIndex_eq h.capacity_le (by omega), ahead_wrap_left h.read_lt h.write_lt hle]
  exact window_drop h.read_lt hlt hle

theorem read_snd (h : b.Bounded) : (b.read n).2 = b.contents.take n := by
  have hlt : b.stored < b.capacity := ahead_lt h.read_lt h.write_lt
  have htake : b.contents.take n = b.contents.take (min n b.available) := by
    rw [available_eq h, ← length_contents, List.take_eq_take_iff]
    omega
  unfold read
  dsimp only
  rw [htake]
  split_ifs with h0
  · rw [h0, List.take_zero]
  · rw [map_cells _ h.capacity_le h.read_lt, contents, take_window]
    rw [available_eq h]
    exact min_le_right _ _

end Aes67.SPSCRingBuffer
