import Mathlib

/-!
# Numbers as they arrive

Numbered things arrive in any order, some twice and some never; those that have arrived are a list
with the latest first. A number between the first and the highest is missing while it has not
arrived.

* `Arrivals.first`, `Arrivals.last`, `Arrivals.highest`, `Arrivals.missing`;
* `Arrivals.missed`: what was missing at some time;
* `Arrivals.missed_cons`: a number has others missed only where it jumps over them, and
  **`Arrivals.card_missed_cons`**: how many they are;
* `Arrivals.missing_eq`: what is missing now was missed and has not come late;
* **`Arrivals.jump_eq_iff`**: when a jump counted from the last number is one counted from the
  highest.
-/

namespace Aes67.Arrivals

/-- The first to arrive. -/
def first (arrived : List ℕ) : ℕ := arrived.getLastD 0

/-- The last to arrive. -/
def last (arrived : List ℕ) : ℕ := arrived.headD 0

def highest (arrived : List ℕ) : ℕ := arrived.foldr max 0

/-- The numbers between the first and the highest that have not arrived. -/
def missing (arrived : List ℕ) : Finset ℕ :=
  Finset.Ioo (first arrived) (highest arrived) \ arrived.toFinset

/-- The numbers that were missing at some time. -/
def missed : List ℕ → Finset ℕ
  | [] => ∅
  | k :: arrived => missed arrived ∪ missing (k :: arrived)

variable {arrived : List ℕ} {k x : ℕ}

@[simp] theorem last_cons : last (k :: arrived) = k := rfl

@[simp] theorem highest_cons : highest (k :: arrived) = max k (highest arrived) := rfl

theorem first_cons (h : arrived ≠ []) : first (k :: arrived) = first arrived := by
  obtain ⟨j, l, rfl⟩ := List.exists_cons_of_ne_nil h
  rfl

theorem le_highest (h : x ∈ arrived) : x ≤ highest arrived := by
  induction arrived with
  | nil => cases h
  | cons k arrived ih =>
    rcases List.mem_cons.mp h with rfl | h
    · exact le_max_left _ _
    · exact (ih h).trans (le_max_right _ _)

theorem highest_mem (h : arrived ≠ []) : highest arrived ∈ arrived := by
  induction arrived with
  | nil => exact absurd rfl h
  | cons k arrived ih =>
    rw [highest_cons]
    rcases eq_or_ne arrived [] with rfl | hne
    · simp [highest]
    · rcases max_choice k (highest arrived) with hmax | hmax
      · rw [hmax]
        exact List.mem_cons_self
      · rw [hmax]
        exact List.mem_cons_of_mem _ (ih hne)

theorem first_le_highest : first arrived ≤ highest arrived := by
  rcases eq_or_ne arrived [] with rfl | h
  · exact le_rfl
  · apply le_highest
    rw [first, List.getLastD_eq_getLast?, List.getLast?_eq_getLast_of_ne_nil h]
    exact List.getLast_mem h

theorem last_le_highest : last arrived ≤ highest arrived := by
  cases arrived with
  | nil => exact le_rfl
  | cons k arrived => exact le_max_left _ _

theorem mem_missing :
    x ∈ missing arrived ↔ (first arrived < x ∧ x < highest arrived) ∧ x ∉ arrived := by
  rw [missing, Finset.mem_sdiff, Finset.mem_Ioo, List.mem_toFinset]

theorem missing_subset_missed : missing arrived ⊆ missed arrived := by
  cases arrived with
  | nil => exact fun x hx => absurd (mem_missing.mp hx).1.2 (Nat.not_lt_zero x)
  | cons k arrived => exact Finset.subset_union_right

/-- **Only what a number jumps over comes to be missed.** -/
theorem missed_cons (h : arrived ≠ []) :
    missed (k :: arrived) = missed arrived ∪ Finset.Ioo (highest arrived) k := by
  ext x
  rw [missed, Finset.mem_union, Finset.mem_union, Finset.mem_Ioo, mem_missing, first_cons h,
    highest_cons]
  constructor
  · rintro (hx | ⟨⟨hlow, hhigh⟩, hx⟩)
    · exact Or.inl hx
    · rw [List.mem_cons, not_or] at hx
      have hne : x ≠ highest arrived := fun he => hx.2 (he ▸ highest_mem h)
      rcases lt_or_ge x (highest arrived) with hlt | hge
      · exact Or.inl (missing_subset_missed (mem_missing.mpr ⟨⟨hlow, hlt⟩, hx.2⟩))
      · exact Or.inr (by omega)
  · rintro (hx | ⟨hlow, hhigh⟩)
    · exact Or.inl hx
    · have hfirst : first arrived ≤ highest arrived := first_le_highest
      refine Or.inr ⟨⟨by omega, by omega⟩, ?_⟩
      rw [List.mem_cons, not_or]
      exact ⟨by omega, fun hx => absurd (le_highest hx) (by omega)⟩

theorem missed_singleton : missed [k] = ∅ := by
  ext x
  rw [missed, missed, Finset.mem_union, mem_missing]
  simp [first, highest]
  omega

theorem lt_highest_of_missed (h : x ∈ missed arrived) : x < highest arrived := by
  induction arrived with
  | nil => exact absurd h (Finset.notMem_empty x)
  | cons k arrived ih =>
    rw [missed, Finset.mem_union, mem_missing] at h
    rcases h with h | h
    · exact (ih h).trans_le (le_max_right _ _)
    · exact h.1.2

theorem first_lt_of_missed (h : x ∈ missed arrived) : first arrived < x := by
  induction arrived with
  | nil => exact absurd h (Finset.notMem_empty x)
  | cons k arrived ih =>
    rw [missed, Finset.mem_union, mem_missing] at h
    rcases h with h | h
    · rcases eq_or_ne arrived [] with rfl | hne
      · exact absurd h (Finset.notMem_empty x)
      · rw [first_cons hne]
        exact ih h
    · exact h.1.1

theorem card_missed_cons (h : arrived ≠ []) :
    (missed (k :: arrived)).card = (missed arrived).card + (k - highest arrived - 1) := by
  have hdisj : Disjoint (missed arrived) (Finset.Ioo (highest arrived) k) := by
    apply Finset.disjoint_left.mpr
    intro x hx hnew
    have := lt_highest_of_missed hx
    have := (Finset.mem_Ioo.mp hnew).1
    omega
  rw [missed_cons h, Finset.card_union_of_disjoint hdisj, Nat.card_Ioo]

theorem card_missed_le {n : ℕ} (h : ∀ x ∈ arrived, x < n) : (missed arrived).card ≤ n := by
  rcases eq_or_ne arrived [] with rfl | hne
  · exact Nat.zero_le n
  · have hsub : missed arrived ⊆ Finset.range n := fun x hx =>
      Finset.mem_range.mpr ((lt_highest_of_missed hx).trans (h _ (highest_mem hne)))
    calc (missed arrived).card
        ≤ (Finset.range n).card := Finset.card_le_card hsub
      _ = n := Finset.card_range n

/-- What is missing was missed, and has not come late. -/
theorem missing_eq : missing arrived = missed arrived \ arrived.toFinset := by
  ext x
  rw [Finset.mem_sdiff, List.mem_toFinset]
  constructor
  · exact fun hx => ⟨missing_subset_missed hx, (mem_missing.mp hx).2⟩
  · exact fun ⟨hx, hnew⟩ => mem_missing.mpr ⟨⟨first_lt_of_missed hx, lt_highest_of_missed hx⟩, hnew⟩

/-- A number that was not missed leaves those that have arrived apart from the missed. -/
theorem disjoint_cons (h : Disjoint (missed arrived) arrived.toFinset) (hk : k ∉ missed arrived) :
    Disjoint (missed (k :: arrived)) (k :: arrived).toFinset := by
  rcases eq_or_ne arrived [] with rfl | hne
  · rw [missed_singleton]
    exact Finset.disjoint_empty_left _
  · rw [missed_cons hne, Finset.disjoint_left]
    intro x hx harrived
    rw [List.mem_toFinset, List.mem_cons] at harrived
    rw [Finset.mem_union, Finset.mem_Ioo] at hx
    rcases hx with hx | hx <;> rcases harrived with rfl | harrived
    · exact hk hx
    · exact Finset.disjoint_left.mp h hx (List.mem_toFinset.mpr harrived)
    · exact lt_irrefl _ hx.2
    · exact absurd (le_highest harrived) (not_le.mpr hx.1)

/-- Where no more are missing than were missed, the latest number had not been missed. -/
theorem notMem_missed_of_card_le
    (h : (missed (k :: arrived)).card ≤ (missing (k :: arrived)).card) : k ∉ missed arrived := by
  intro hk
  have heq : missing (k :: arrived) = missed (k :: arrived) :=
    Finset.eq_of_subset_of_card_le missing_subset_missed h
  have hmissing : k ∈ missing (k :: arrived) := by
    rw [heq, missed]
    exact Finset.mem_union_left _ hk
  exact (mem_missing.mp hmissing).2 List.mem_cons_self

theorem jump_le : k - highest arrived - 1 ≤ k - last arrived - 1 := by
  have : last arrived ≤ highest arrived := last_le_highest
  omega

theorem jump_eq_iff : k - last arrived - 1 = k - highest arrived - 1 ↔
    last arrived = highest arrived ∨ k ≤ last arrived + 1 := by
  have : last arrived ≤ highest arrived := last_le_highest
  omega

end Aes67.Arrivals
