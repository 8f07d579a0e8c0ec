import Mathlib

/-!
# Cells and machine sizes

A buffer is a table `ℕ → α` of which the cells below its size are used, written with
`Function.update`. Sizes and indices of the program are `size_t` values, so sums and differences of
them are taken modulo `2 ^ 64`.

* `sizeAdd`, `sizeSub`;
* `countBelow`: the cells below a bound that meet a test; **`countBelow_update`**: what one write
  does to the count;
* `wrap`, `window`: cells of a circular buffer by their distance from a start, with the lemmas on
  moving the start (`window_drop`), on the end (`window_append`) and on writes outside
  (`window_update`).
-/

namespace Aes67

/-! ## Machine sizes -/

/-- Addition of two `size_t` values. -/
@[irreducible] def sizeAdd (a b : ℕ) : ℕ := (a + b) % 2 ^ 64

/-- Subtraction of two `size_t` values. -/
@[irreducible] def sizeSub (a b : ℕ) : ℕ := (a + 2 ^ 64 - b) % 2 ^ 64

theorem sizeAdd_of_lt {a b : ℕ} (h : a + b < 2 ^ 64) : sizeAdd a b = a + b := by
  unfold sizeAdd
  exact Nat.mod_eq_of_lt h

theorem sizeSub_of_le {a b : ℕ} (h : b ≤ a) (ha : a < 2 ^ 64) : sizeSub a b = a - b := by
  unfold sizeSub
  omega

/-! ## Counting -/

/-- The number of cells below `n` that meet the test. -/
def countBelow {α : Type} (p : α → Bool) (f : ℕ → α) (n : ℕ) : ℕ :=
  (List.range n).countP fun i => p (f i)

section Count

variable {α : Type} {p : α → Bool} {f : ℕ → α} {n i : ℕ} {x : α}

theorem countBelow_le : countBelow p f n ≤ n := by
  have h := List.countP_le_length (p := fun i => p (f i)) (l := List.range n)
  rwa [List.length_range] at h

theorem countBelow_eq_zero : countBelow p f n = 0 ↔ ∀ i < n, p (f i) = false := by
  simp [countBelow, List.countP_eq_zero]

theorem countBelow_pos : 0 < countBelow p f n ↔ ∃ i < n, p (f i) = true := by
  simp [countBelow, List.countP_pos_iff]

theorem countBelow_succ :
    countBelow p f (n + 1) = countBelow p f n + if p (f n) then 1 else 0 := by
  rw [countBelow, List.range_succ, List.countP_append, List.countP_singleton]
  rfl

theorem countBelow_update_of_le (h : n ≤ i) :
    countBelow p (Function.update f i x) n = countBelow p f n := by
  refine List.countP_congr fun j hj => ?_
  rw [List.mem_range] at hj
  rw [Function.update_of_ne (by omega)]

/-- **One write** takes the old cell out of the count and puts the new one in. -/
theorem countBelow_update (h : i < n) :
    (countBelow p (Function.update f i x) n + if p (f i) then 1 else 0) =
      countBelow p f n + if p x then 1 else 0 := by
  induction n with
  | zero => omega
  | succ n ih =>
    rw [countBelow_succ, countBelow_succ]
    rcases Nat.lt_succ_iff_lt_or_eq.mp h with hlt | rfl
    · have := ih hlt
      rw [Function.update_of_ne (by omega)]
      omega
    · rw [countBelow_update_of_le (Nat.le_refl _), Function.update_self]
      omega

end Count

/-! ## Circular windows -/

/-- An index less than twice the size, back inside. -/
def wrap (c i : ℕ) : ℕ := if c ≤ i then i - c else i

/-- The `n` cells from `start` on, circularly. -/
def window {α : Type} (f : ℕ → α) (c start n : ℕ) : List α :=
  (List.range n).map fun k => f (wrap c (start + k))

section Window

variable {α : Type} {f : ℕ → α} {c start n m : ℕ}

theorem wrap_lt {i : ℕ} (h : i < 2 * c) : wrap c i < c := by
  unfold wrap
  split_ifs <;> omega

/-- Wrapping on the way does not matter. -/
theorem wrap_wrap_add {i k : ℕ} (hk : i + k < 2 * c) :
    wrap c (wrap c i + k) = wrap c (i + k) := by
  unfold wrap
  split_ifs <;> omega

/-- Two distances short of a whole turn lead to two cells. -/
theorem wrap_add_inj {j k : ℕ} (hj : j < c) (hk : k < c)
    (h : wrap c (start + j) = wrap c (start + k)) : j = k := by
  unfold wrap at h
  split_ifs at h <;> omega

@[simp]
theorem length_window : (window f c start n).length = n := by simp [window]

theorem window_add :
    window f c start (n + m) =
      window f c start n ++ (List.range m).map fun k => f (wrap c (start + n + k)) := by
  simp only [window, List.range_add, List.map_append, List.map_map, Function.comp_def,
    Nat.add_assoc]

/-- A longer window is the window and the one from its end. -/
theorem window_append (hs : start < c) (hm : n + m ≤ c) :
    window f c start (n + m) = window f c start n ++ window f c (wrap c (start + n)) m := by
  rw [window_add, window]
  congr 1
  refine List.map_congr_left fun k hk => ?_
  rw [List.mem_range] at hk
  rw [wrap_wrap_add (by omega)]

theorem take_window (h : m ≤ n) : (window f c start n).take m = window f c start m := by
  obtain ⟨k, rfl⟩ := Nat.exists_eq_add_of_le h
  rw [window_add, List.take_left' length_window]

/-- Moving the start on drops the front. -/
theorem window_drop (hs : start < c) (hn : n < c) (hm : m ≤ n) :
    window f c (wrap c (start + m)) (n - m) = (window f c start n).drop m := by
  obtain ⟨k, rfl⟩ := Nat.exists_eq_add_of_le hm
  rw [window_append hs (by omega), List.drop_left' length_window, Nat.add_sub_cancel_left]

/-- Windows look at their own cells only. -/
theorem window_congr {g : ℕ → α} (h : ∀ k < n, f (wrap c (start + k)) = g (wrap c (start + k))) :
    window f c start n = window g c start n :=
  List.map_congr_left fun k hk => h k (List.mem_range.mp hk)

/-- A write outside a window does not change it. -/
theorem window_update {i : ℕ} {x : α} (h : ∀ k < n, wrap c (start + k) ≠ i) :
    window (Function.update f i x) c start n = window f c start n :=
  window_congr fun k hk => Function.update_of_ne (h k hk) x f

/-- The cells of a window in two runs, the second from the first cell of the buffer on. -/
theorem range'_append_range' (hs : start ≤ c) :
    List.range' start (min n (c - start)) ++ List.range' 0 (n - min n (c - start)) =
      (List.range n).map fun k => wrap c (start + k) := by
  have hn : n = min n (c - start) + (n - min n (c - start)) := by omega
  conv_rhs => rw [hn, List.range_add, List.map_append, List.map_map]
  rw [List.range'_eq_map_range, List.range'_eq_map_range]
  congr 1
  · refine List.map_congr_left fun k hk => ?_
    rw [List.mem_range] at hk
    rw [wrap, if_neg (by omega)]
  · refine List.map_congr_left fun k hk => ?_
    rw [List.mem_range] at hk
    rw [Function.comp_apply, wrap, if_pos (by omega)]
    omega

end Window

end Aes67
