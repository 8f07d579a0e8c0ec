import Mathlib
import Aes67.Lib.OrdMap

/-!
# Totals over a map

A number read off each value of a map, summed. A map that is summed as it changes keeps its total
by what each change adds and takes away.

* `OrdMap.total_insert`, `OrdMap.total_erase`: what storing and dropping a value does to the total;
* `OrdMap.total_le`: a bound on each value bounds the total;
* `OrdMap.length_keys_le`: keys told apart by the members of a finite type are not many.
-/

namespace Aes67

namespace OrdMap

variable {α β : Type} [LinearOrder α] (m : OrdMap α β) (f : β → ℕ) (k : α) (v : β)

/-- The sum of what `f` reads off the values. -/
def total : ℕ := (m.values.map f).sum

@[simp] theorem total_empty : (empty : OrdMap α β).total f = 0 := rfl

theorem lookup_eq_none_of_lt {l : List (α × β)} {k : α} (h : ∀ e ∈ l, k < e.1) :
    l.lookup k = none := by
  induction l with
  | nil => rfl
  | cons e l ih =>
    obtain ⟨a, b⟩ := e
    rw [lookup_cons_ite, if_neg (ne_of_lt (h (a, b) List.mem_cons_self))]
    exact ih fun e he => h e (List.mem_cons_of_mem _ he)

theorem sum_insertEntry {l : List (α × β)} (hl : KeySorted l) :
    ((insertEntry k v l).map fun e => f e.2).sum + ((l.lookup k).map f).getD 0 =
      (l.map fun e => f e.2).sum + f v := by
  induction l with
  | nil => simp [insertEntry]
  | cons e l ih =>
    obtain ⟨a, b⟩ := e
    obtain ⟨h0, ht⟩ := List.pairwise_cons.mp hl
    rw [insertEntry, lookup_cons_ite]
    split_ifs with h1 h2 h3
    · exact absurd h2 (ne_of_lt h1)
    · rw [lookup_eq_none_of_lt fun e he => h1.trans (h0 e he)]
      simp
      omega
    · simp
      omega
    · have := ih ht
      simp only [List.map_cons, List.sum_cons]
      omega

/-- Storing a value adds it, and takes away the one it replaces. -/
theorem total_insert :
    (m.insert k v).total f + ((m.find? k).map f).getD 0 = m.total f + f v := by
  have := sum_insertEntry f k v m.sorted
  rw [total, total, values, values, List.map_map, List.map_map]
  exact this

theorem total_insert_of_none {k : α} (h : m.find? k = none) :
    (m.insert k v).total f = m.total f + f v := by
  have := m.total_insert f k v
  rw [h] at this
  simpa using this

theorem sum_filter_ne {l : List (α × β)} (hl : KeySorted l) :
    ((l.filter fun e => e.1 ≠ k).map fun e => f e.2).sum + ((l.lookup k).map f).getD 0 =
      (l.map fun e => f e.2).sum := by
  induction l with
  | nil => simp
  | cons e l ih =>
    obtain ⟨a, b⟩ := e
    obtain ⟨h0, ht⟩ := List.pairwise_cons.mp hl
    have := ih ht
    rw [lookup_cons_ite, List.filter_cons]
    by_cases hk : k = a
    · subst hk
      have hnone : l.lookup k = none := lookup_eq_none_of_lt h0
      rw [hnone] at this
      simp at this ⊢
      omega
    · rw [if_pos (by simpa using Ne.symm hk), if_neg hk]
      simp only [List.map_cons, List.sum_cons]
      omega

/-- Dropping a value takes it away. -/
theorem total_erase : (m.erase k).total f + ((m.find? k).map f).getD 0 = m.total f := by
  have := sum_filter_ne f k m.sorted
  rw [total, total, values, values, List.map_map, List.map_map]
  exact this

/-- A change that `f` does not see. -/
theorem total_mapWithKey {g : α → β → β} (h : ∀ k v, f (g k v) = f v) :
    (m.mapWithKey g).total f = m.total f := by
  rw [total, total, values, values, mapWithKey, List.map_map, List.map_map, List.map_map]
  exact congrArg List.sum (List.map_congr_left fun e _ => h e.1 e.2)

/-- A bound on each value bounds the total. -/
theorem total_le {b : ℕ} (h : ∀ k v, m.find? k = some v → f v ≤ b) :
    m.total f ≤ m.keys.length * b := by
  have hle : ∀ x ∈ m.values.map f, x ≤ b := by
    intro x hx
    obtain ⟨v, hv, rfl⟩ := List.mem_map.mp hx
    obtain ⟨⟨k, v'⟩, he, rfl⟩ := List.mem_map.mp hv
    exact h k v' (m.mem_entries_iff.mp he)
  have := List.sum_le_card_nsmul _ b hle
  rw [total]
  simpa [keys, values] using this

/-- Keys that are the values of a function on a finite type are no more than its members. -/
theorem length_keys_le {γ : Type} [Fintype γ] (g : γ → α)
    (h : ∀ k v, m.find? k = some v → ∃ c, g c = k) : m.keys.length ≤ Fintype.card γ := by
  have hsub : m.keys.toFinset ⊆ Finset.univ.image g := by
    intro k hk
    obtain ⟨v, hv⟩ := m.mem_keys_iff.mp (List.mem_toFinset.mp hk)
    obtain ⟨c, rfl⟩ := h k v hv
    exact Finset.mem_image_of_mem g (Finset.mem_univ c)
  calc m.keys.length = m.keys.toFinset.card := (List.toFinset_card_of_nodup m.keys_nodup).symm
    _ ≤ (Finset.univ.image g).card := Finset.card_le_card hsub
    _ ≤ Fintype.card γ := Finset.card_image_le

end OrdMap

end Aes67
