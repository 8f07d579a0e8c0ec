import Mathlib

/-!
# Records of one size over a stream of bytes

A sender puts records one behind another on an ordered stream, a reader takes the stream apart in
whatever pieces arrive. Nothing marks where a record starts, so the two have to keep count.

* `leBytes`, `ofLe`: a number in bytes, the low one first; `pack`, `unpack`: fields of fixed widths,
  with **`unpack_pack`**;
* `InStep`: what the reader has of a record, and what is on its way, are the rest of what was sent:
  whole records, and behind them at most a part of one;
* `InStep.send`, `InStep.cut`: a record sent, whole or in part;
* `InStep.read`, **`InStep.whole`**: bytes read, and the record they complete.
-/

namespace Aes67

/-! ## Fields -/

/-- A number in `n` bytes, the low one first. -/
def leBytes : ℕ → ℕ → List UInt8
  | 0, _ => []
  | n + 1, v => UInt8.ofNat v :: leBytes n (v / 256)

/-- The number some bytes spell, the low one first. -/
def ofLe : List UInt8 → ℕ
  | [] => 0
  | b :: s => b.toNat + 256 * ofLe s

@[simp] theorem length_leBytes (n v : ℕ) : (leBytes n v).length = n := by
  induction n generalizing v with
  | zero => rfl
  | succ n ih => rw [leBytes, List.length_cons, ih]

theorem ofLe_leBytes (n v : ℕ) : ofLe (leBytes n v) = v % 256 ^ n := by
  induction n generalizing v with
  | zero => simp [leBytes, ofLe, Nat.mod_one]
  | succ n ih =>
    rw [leBytes, ofLe, ih, UInt8.toNat_ofNat', pow_succ' 256 n, Nat.mod_mul]

/-- Fields packed one behind another, each in its width. -/
def pack : List ℕ → List ℕ → List UInt8
  | w :: widths, v :: values => leBytes w v ++ pack widths values
  | _, _ => []

/-- The fields a packed record has. -/
def unpack : List ℕ → List UInt8 → List ℕ
  | [], _ => []
  | w :: widths, bytes => ofLe (bytes.take w) :: unpack widths (bytes.drop w)

/-- A packed record has its size from its layout. -/
theorem length_pack {widths values : List ℕ} (h : widths.length = values.length) :
    (pack widths values).length = widths.sum := by
  induction widths generalizing values with
  | nil => simp [pack]
  | cons w widths ih =>
    rcases values with _ | ⟨v, values⟩
    · cases h
    · rw [pack, List.length_append, length_leBytes, ih (Nat.succ.inj h), List.sum_cons]

/-- **Packed fields are read back**, each up to its width. -/
theorem unpack_pack {widths values : List ℕ} (h : widths.length = values.length) :
    unpack widths (pack widths values) = List.zipWith (fun w v => v % 256 ^ w) widths values := by
  induction widths generalizing values with
  | nil => rfl
  | cons w widths ih =>
    rcases values with _ | ⟨v, values⟩
    · cases h
    · rw [unpack, pack, List.take_left' (length_leBytes w v), List.drop_left' (length_leBytes w v),
        ofLe_leBytes, ih (Nat.succ.inj h), List.zipWith_cons_cons]

/-! ## Streams -/

section Stream

variable {ρ β : Type} (bytes : ρ → List β) (n : ℕ)

/-- A reader that has taken `done` of the records `sent` and has `buffer` of the next, with `rest` on
its way: together they are the records left and at most a part of one more, `tail`. -/
structure InStep (sent : List ρ) (done : ℕ) (buffer rest tail : List β) : Prop where
  done_le : done ≤ sent.length
  bytes_eq : buffer ++ rest = (sent.drop done).flatMap bytes ++ tail
  buffer_lt : buffer.length < n
  tail_lt : tail.length < n

variable {bytes} {n} {sent : List ρ} {done : ℕ} {buffer rest rest' tail w : List β}

namespace InStep

theorem start (hn : 0 < n) : InStep bytes n [] 0 [] [] [] := ⟨le_rfl, rfl, hn, hn⟩

theorem send (h : InStep bytes n sent done buffer rest []) (r : ρ) :
    InStep bytes n (sent ++ [r]) done buffer (rest ++ bytes r) [] where
  done_le := h.done_le.trans (by simp)
  bytes_eq := by
    rw [← List.append_assoc, h.bytes_eq, List.drop_append_of_le_length h.done_le]
    simp
  buffer_lt := h.buffer_lt
  tail_lt := h.tail_lt

/-- A part of a record, behind which nothing may be sent. -/
theorem cut (h : InStep bytes n sent done buffer rest []) (hw : w.length < n) :
    InStep bytes n sent done buffer (rest ++ w) w where
  done_le := h.done_le
  bytes_eq := by rw [← List.append_assoc, h.bytes_eq, List.append_nil]
  buffer_lt := h.buffer_lt
  tail_lt := hw

theorem read (h : InStep bytes n sent done buffer (w ++ rest') tail)
    (hw : (buffer ++ w).length < n) : InStep bytes n sent done (buffer ++ w) rest' tail where
  done_le := h.done_le
  bytes_eq := by rw [List.append_assoc, h.bytes_eq]
  buffer_lt := hw
  tail_lt := h.tail_lt

/-- **A full buffer is the next record.** -/
theorem whole (hsize : ∀ r, (bytes r).length = n)
    (h : InStep bytes n sent done buffer (w ++ rest') tail) (hw : (buffer ++ w).length = n) :
    ∃ r, sent[done]? = some r ∧ buffer ++ w = bytes r ∧
      InStep bytes n sent (done + 1) [] rest' tail := by
  have hn : 0 < n := Nat.zero_lt_of_lt h.tail_lt
  have heq := h.bytes_eq
  rw [← List.append_assoc] at heq
  -- a part of a record is too short to fill the buffer, so a whole one is left
  have hlt : done < sent.length := by
    by_contra hge
    rw [List.drop_eq_nil_of_le (Nat.le_of_not_lt hge), List.flatMap_nil, List.nil_append] at heq
    have hlen := congrArg List.length heq
    rw [List.length_append, hw] at hlen
    have := h.tail_lt
    omega
  rw [List.drop_eq_getElem_cons hlt, List.flatMap_cons,
    List.append_assoc (bytes _)] at heq
  obtain ⟨hfirst, hrest⟩ := List.append_inj heq (hw.trans (hsize _).symm)
  refine ⟨sent[done], List.getElem?_eq_getElem hlt, hfirst, ?_⟩
  exact ⟨hlt, hrest, hn, h.tail_lt⟩

end InStep

end Stream

end Aes67
