import Mathlib

/-!
# Slices of a list

`Holds l i w`: the list holds `w` from its index `i` on.

* `holds_cons`, `holds_append`: a slice taken apart from the front, and in two;
* `holds_of_eq`: where a list was put together;
* `Holds.take`, `Holds.congr`: lists that agree up to an index hold the same slices below it.
-/

namespace Aes67

variable {α : Type} {l l' v w : List α} {a : α} {i n : ℕ}

/-- The list holds `w` from its index `i` on. -/
def Holds (l : List α) (i : ℕ) (w : List α) : Prop := (l.drop i).take w.length = w

@[simp] theorem holds_nil : Holds l i [] := rfl

theorem holds_self : Holds l 0 l := by
  rw [Holds, List.drop_zero, List.take_length]

theorem holds_cons : Holds l i (a :: w) ↔ l[i]? = some a ∧ Holds l (i + 1) w := by
  rw [Holds, Holds, List.length_cons, ← List.head?_drop, ← List.tail_drop]
  cases l.drop i with
  | nil => simp
  | cons b s => simp

theorem holds_append : Holds l i (v ++ w) ↔ Holds l i v ∧ Holds l (i + v.length) w := by
  induction v generalizing i with
  | nil => simp
  | cons a v ih =>
    rw [List.cons_append, holds_cons, holds_cons, ih, and_assoc, List.length_cons,
      show i + 1 + v.length = i + (v.length + 1) by omega]

/-- A list that was put together holds each of its parts. -/
theorem holds_of_eq {s t : List α} (h : l = s ++ w ++ t) : Holds l s.length w := by
  rw [Holds, h, List.append_assoc, List.drop_left, List.take_left]

theorem holds_take (h : i + n ≤ l.length) : Holds l i ((l.drop i).take n) := by
  rw [Holds, List.length_take, List.length_drop, Nat.min_eq_left (by omega)]

/-- Lists that agree up to an index hold the same slices below it. -/
theorem Holds.congr (h : Holds l i w) (hn : i + w.length ≤ n) (hl : l'.take n = l.take n) :
    Holds l' i w := by
  have hcut : ∀ s : List α, (s.drop i).take w.length = ((s.take n).drop i).take w.length := by
    intro s
    rw [List.drop_take, List.take_take, Nat.min_eq_left (by omega)]
  rw [Holds, hcut, hl, ← hcut]
  exact h

theorem getElem?_congr (hi : i < n) (hl : l'.take n = l.take n) : l'[i]? = l[i]? := by
  rw [← List.getElem?_take_of_lt hi, hl, List.getElem?_take_of_lt hi]

end Aes67
