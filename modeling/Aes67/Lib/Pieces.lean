import Mathlib

/-!
# Lists in pieces

A list cut into pieces of one width.

* `piece`: the piece with a number;
* **`flatMap_piece`**: the pieces of a list make it up;
* **`piece_flatMap`**: the pieces of a list that is made of them.
-/

namespace Aes67

variable {α : Type*} {l : List α} {w n i : ℕ}

/-- The piece of width `w` with number `i`. -/
def piece (w : ℕ) (l : List α) (i : ℕ) : List α := (l.drop (i * w)).take w

theorem piece_zero : piece w l 0 = l.take w := by
  rw [piece, Nat.zero_mul, List.drop_zero]

theorem piece_succ (w : ℕ) (l : List α) (i : ℕ) : piece w l (i + 1) = piece w (l.drop w) i := by
  rw [piece, piece, List.drop_drop, Nat.succ_mul, Nat.add_comm]

theorem length_piece (h : l.length = n * w) (hi : i < n) : (piece w l i).length = w := by
  have hle : (i + 1) * w ≤ n * w := Nat.mul_le_mul_right _ hi
  rw [piece, List.length_take, List.length_drop]
  rw [Nat.add_mul, Nat.one_mul] at hle
  omega

/-- The elements of a piece. -/
theorem piece_eq_map (h : l.length = n * w) (hi : i < n) (d : α) :
    piece w l i = (List.range w).map fun j => l.getD (i * w + j) d := by
  refine List.ext_getElem (by simpa using length_piece h hi) fun j h1 h2 => ?_
  have hle : (i + 1) * w ≤ n * w := Nat.mul_le_mul_right _ hi
  have hj : i * w + j < l.length := by
    rw [length_piece h hi] at h1
    rw [Nat.add_mul, Nat.one_mul] at hle
    omega
  simp only [piece, List.getElem_take, List.getElem_drop, List.getElem_map, List.getElem_range,
    List.getD_eq_getElem _ _ hj]

/-- **A list is made up of its pieces.** -/
theorem flatMap_piece (h : l.length = n * w) : (List.range n).flatMap (piece w l) = l := by
  induction n generalizing l with
  | zero => exact (List.length_eq_zero_iff.mp (by simpa using h)).symm
  | succ n ih =>
    rw [Nat.succ_mul] at h
    rw [List.range_succ_eq_map, List.flatMap_cons, List.flatMap_map, piece_zero]
    simp only [Nat.succ_eq_add_one, piece_succ]
    rw [ih (by rw [List.length_drop]; omega), List.take_append_drop]

/-- **The pieces of a list** are those it is made of. -/
theorem piece_flatMap {f : ℕ → List α} (hf : ∀ i < n, (f i).length = w) (hi : i < n) :
    piece w ((List.range n).flatMap f) i = f i := by
  induction n generalizing f i with
  | zero => cases hi
  | succ n ih =>
    have h0 := hf 0 (Nat.succ_pos n)
    rw [List.range_succ_eq_map, List.flatMap_cons, List.flatMap_map]
    cases i with
    | zero => rw [piece_zero, List.take_left' h0]
    | succ i =>
      rw [piece_succ, List.drop_left' h0]
      exact ih (fun j hj => hf (j + 1) (Nat.succ_lt_succ hj)) (Nat.lt_of_succ_lt_succ hi)

end Aes67
