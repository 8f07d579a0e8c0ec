import Mathlib

/-!
# The latest values in a ring of cells

A list grows at its end; the cells keep its latest values, each in the cell its place is congruent
to.

* `Window n cells l`: the cells hold the latest `n` values of `l`;
* `Window.push`: the value added is written over the oldest one;
* **`Window.perm`**: the cells in use hold the latest values, in some order;
* `foldl_min_eq_min?`: a minimum of them all, begun with one of them.
-/

namespace Aes67

variable {α : Type} {n : ℕ} {cells l : List α}

/-- The cells hold the latest values. -/
structure Window (n : ℕ) (cells l : List α) : Prop where
  length_eq : cells.length = n
  get : ∀ i, i < l.length → l.length ≤ i + n → cells[i % n]? = l[i]?

theorem Window.nil (h : cells.length = n) : Window n cells [] :=
  ⟨h, fun _ hi => absurd hi (Nat.not_lt_zero _)⟩

/-- Places less than `n` apart have cells of their own. -/
theorem mod_ne_of_lt {i j : ℕ} (h : i < j) (h' : j < i + n) : i % n ≠ j % n := by
  intro he
  have hdvd := Nat.sub_mod_eq_zero_of_mod_eq he.symm
  rw [Nat.mod_eq_of_lt (by omega)] at hdvd
  omega

/-- **A value more** is written over the oldest one. -/
theorem Window.push (hn : 0 < n) (h : Window n cells l) (x : α) :
    Window n (cells.set (l.length % n) x) (l ++ [x]) := by
  refine ⟨List.length_set.trans h.length_eq, fun i hi hi' => ?_⟩
  rw [List.length_append, List.length_singleton] at hi hi'
  rcases Nat.lt_succ_iff_lt_or_eq.mp hi with hlt | rfl
  · rw [List.getElem?_set_ne (mod_ne_of_lt hlt (by omega)).symm, List.getElem?_append_left hlt]
    exact h.get i hlt (by omega)
  · have hcell : l.length % n < cells.length := by
      rw [h.length_eq]
      exact Nat.mod_lt _ hn
    rw [List.getElem?_set_self hcell, List.getElem?_concat_length]

/-- The cells turned so that the oldest value comes first are the latest values. -/
theorem Window.rotate_eq (h : Window n cells l) (hn : n ≤ l.length) :
    cells.rotate l.length = l.rtake n := by
  have hlen : (l.rtake n).length = n := by
    rw [List.rtake, List.length_drop, Nat.sub_sub_self hn]
  apply List.ext_getElem?
  intro j
  rcases lt_or_ge j n with hj | hj
  · have hcell : (j + l.length) % n = (l.length - n + j) % n := by
      rw [← Nat.add_mod_right (l.length - n + j)]
      congr 1
      omega
    rw [List.getElem?_rotate (h.length_eq.symm ▸ hj), h.length_eq, hcell, List.rtake,
      List.getElem?_drop]
    exact h.get _ (by omega) (by omega)
  · rw [List.getElem?_eq_none (by rw [List.length_rotate, h.length_eq]; exact hj),
      List.getElem?_eq_none (by rw [hlen]; exact hj)]

theorem Window.take_eq (h : Window n cells l) (hn : l.length ≤ n) : cells.take l.length = l := by
  apply List.ext_getElem?
  intro i
  rcases lt_or_ge i l.length with hi | hi
  · rw [List.getElem?_take_of_lt hi, ← h.get i hi (by omega), Nat.mod_eq_of_lt (by omega)]
  · rw [List.getElem?_eq_none (by rw [List.length_take]; omega), List.getElem?_eq_none hi]

/-- **The cells in use hold the latest values**, in some order. -/
theorem Window.perm (h : Window n cells l) :
    (cells.take (min n l.length)).Perm (l.rtake n) := by
  rcases le_total n l.length with hn | hn
  · rw [min_eq_left hn, ← h.rotate_eq hn, List.take_of_length_le h.length_eq.le]
    exact (List.rotate_perm cells l.length).symm
  · rw [min_eq_right hn, h.take_eq hn, List.rtake, Nat.sub_eq_zero_of_le hn, List.drop_zero]

/-- The least of values, begun with one of them. -/
theorem foldl_min_eq_min? {l : List ℤ} {x : ℤ} (hx : x ∈ l) : l.min? = some (l.foldl min x) := by
  have hmin : (x :: l).min? = some (l.foldl min x) := rfl
  obtain ⟨hmem, hle⟩ := List.min?_eq_some_iff.mp hmin
  refine List.min?_eq_some_iff.mpr ⟨?_, fun b hb => hle b (List.mem_cons_of_mem _ hb)⟩
  rcases List.mem_cons.mp hmem with he | hmem
  · rw [he]
    exact hx
  · exact hmem

end Aes67
