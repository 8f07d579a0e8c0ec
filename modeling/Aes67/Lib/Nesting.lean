import Mathlib

/-!
# Nesting

Two marks in a sequence, one that opens and one that closes, and two scans that count them: the
part before the mark that closes everything open, and the cutting of a sequence into its outermost
groups.

* `net`, `low`: the depth a sequence adds, and the lowest depth it visits;
* `Balanced`: no close mark without its open mark, and none left open; `Like`: sequences that
  change the depth alike;
* `beforeClose`, `groups`: the two scans, and `Inside`, what neither of them stops in;
* **`groups_cases`**: the first group ends at the first mark that brings the depth to zero.
-/

namespace Aes67

variable {α : Type} [DecidableEq α] {o c x : α} {d : ℤ} {p q s t cur : List α}

/-! ## Prefixes -/

omit [DecidableEq α] in
/-- A prefix of a concatenation that ends in `x` ends in the first part or in the second. -/
theorem snoc_prefix_append (h : p ++ [x] <+: s ++ t) :
    p ++ [x] <+: s ∨ ∃ q, p = s ++ q ∧ q ++ [x] <+: t := by
  rcases List.prefix_or_prefix_of_prefix h (List.prefix_append s t) with h1 | ⟨r, hr⟩
  · exact Or.inl h1
  · rcases List.eq_nil_or_concat r with rfl | ⟨q, y, rfl⟩
    · rw [List.append_nil] at hr
      exact Or.inl (hr ▸ List.prefix_rfl)
    · rw [List.concat_eq_append, ← List.append_assoc] at hr
      obtain ⟨rfl, hy⟩ := List.append_inj' hr rfl
      cases hy
      rw [List.append_assoc] at h
      exact Or.inr ⟨q, rfl, (List.prefix_append_right_inj s).mp h⟩

omit [DecidableEq α] in
/-- The same with what follows the `x`. -/
theorem prefix_append_cases (h : p ++ x :: q <+: s ++ t) :
    (∃ r, s = p ++ x :: r ∧ q <+: r ++ t) ∨ ∃ r, p = s ++ r ∧ r ++ x :: q <+: t := by
  have hx : p ++ [x] <+: s ++ t := List.IsPrefix.trans ⟨q, by simp⟩ h
  rcases snoc_prefix_append hx with ⟨r, rfl⟩ | ⟨r, rfl, -⟩
  · left
    refine ⟨r, by simp, ?_⟩
    have he : p ++ [x] ++ r ++ t = p ++ (x :: (r ++ t)) := by simp
    rw [he, List.prefix_append_right_inj, List.cons_prefix_cons] at h
    exact h.2
  · right
    rw [List.append_assoc, List.prefix_append_right_inj] at h
    exact ⟨r, rfl, h⟩

/-! ## Depth -/

/-- What one element adds to the depth. -/
def weight (o c x : α) : ℤ := if x = o then 1 else if x = c then -1 else 0

/-- What a sequence adds to the depth. -/
def net (o c : α) (s : List α) : ℤ := (s.map (weight o c)).sum

/-- The lowest depth a sequence visits from depth zero, where it starts included. -/
def low (o c : α) : List α → ℤ
  | [] => 0
  | x :: s => min 0 (weight o c x + low o c s)

/-- Every close mark has its open mark before it, and every open mark is closed. -/
structure Balanced (o c : α) (s : List α) : Prop where
  nonneg : ∀ p, p <+: s → 0 ≤ net o c p
  net_eq : net o c s = 0

@[simp] theorem net_nil : net o c [] = 0 := rfl

@[simp] theorem net_cons : net o c (x :: s) = weight o c x + net o c s := by
  simp [net]

@[simp] theorem net_append : net o c (s ++ t) = net o c s + net o c t := by
  simp [net]

@[simp] theorem low_nil : low o c [] = 0 := rfl

@[simp] theorem low_append : low o c (s ++ t) = min (low o c s) (net o c s + low o c t) := by
  induction s with
  | nil =>
    have : low o c t ≤ 0 := by cases t <;> simp [low]
    simp [this]
  | cons x s ih =>
    rw [List.cons_append, low, low, ih, net_cons, ← min_add_add_left, min_assoc, add_assoc]

theorem weight_of_ne (ho : x ≠ o) (hc : x ≠ c) : weight o c x = 0 := by
  rw [weight, if_neg ho, if_neg hc]

theorem net_of_not_mem (ho : o ∉ s) (hc : c ∉ s) : net o c s = 0 := by
  induction s with
  | nil => rfl
  | cons x s ih =>
    rw [List.mem_cons, not_or] at ho hc
    rw [net_cons, weight_of_ne (Ne.symm ho.1) (Ne.symm hc.1), ih ho.2 hc.2, add_zero]

theorem low_of_not_mem (ho : o ∉ s) (hc : c ∉ s) : low o c s = 0 := by
  induction s with
  | nil => rfl
  | cons x s ih =>
    rw [List.mem_cons, not_or] at ho hc
    rw [low, weight_of_ne (Ne.symm ho.1) (Ne.symm hc.1), ih ho.2 hc.2]
    rfl

/-- Without a close mark the depth only grows. -/
theorem net_nonneg_of_not_mem (hc : c ∉ s) : 0 ≤ net o c s := by
  induction s with
  | nil => simp
  | cons x s ih =>
    rw [List.mem_cons, not_or] at hc
    have hx : 0 ≤ weight o c x := by
      rw [weight, if_neg (Ne.symm hc.1)]
      split <;> omega
    have hs := ih hc.2
    rw [net_cons]
    omega

theorem not_mem_of_net_eq_zero (hc : c ∉ s) (h : net o c s = 0) : o ∉ s := by
  induction s with
  | nil => simp
  | cons x s ih =>
    rw [List.mem_cons, not_or] at hc
    have hs : 0 ≤ net o c s := net_nonneg_of_not_mem hc.2
    have hx : weight o c x = if x = o then 1 else 0 := by rw [weight, if_neg (Ne.symm hc.1)]
    rw [net_cons, hx] at h
    rw [List.mem_cons, not_or]
    by_cases hxo : x = o
    · rw [if_pos hxo] at h
      omega
    · rw [if_neg hxo, zero_add] at h
      exact ⟨Ne.symm hxo, ih hc.2 h⟩

theorem le_low_iff {k : ℤ} : k ≤ low o c s ↔ ∀ p, p <+: s → k ≤ net o c p := by
  induction s generalizing k with
  | nil =>
    constructor
    · intro h p hp
      rw [List.prefix_nil.mp hp]
      exact h
    · exact fun h => h [] List.prefix_rfl
  | cons x s ih =>
    have hshift : k ≤ weight o c x + low o c s ↔ k - weight o c x ≤ low o c s := by omega
    rw [low, le_min_iff, hshift, ih]
    constructor
    · rintro ⟨h0, h⟩ p hp
      rcases List.prefix_cons_iff.mp hp with rfl | ⟨q, rfl, hq⟩
      · exact h0
      · have := h q hq
        rw [net_cons]
        omega
    · refine fun h => ⟨h [] List.nil_prefix, fun q hq => ?_⟩
      have := h (x :: q) (List.cons_prefix_cons.mpr ⟨rfl, hq⟩)
      rw [net_cons] at this
      omega

theorem low_le_net : low o c s ≤ net o c s := le_low_iff.mp le_rfl s List.prefix_rfl

theorem balanced_iff : Balanced o c s ↔ 0 ≤ low o c s ∧ net o c s = 0 :=
  ⟨fun h => ⟨le_low_iff.mpr h.nonneg, h.net_eq⟩, fun h => ⟨le_low_iff.mp h.1, h.2⟩⟩

instance : Decidable (Balanced o c s) := decidable_of_iff _ balanced_iff.symm

/-- Sequences that change the depth alike. -/
structure Like (o c : α) (s t : List α) : Prop where
  net_eq : net o c s = net o c t
  low_eq : low o c s = low o c t

theorem Like.refl (s : List α) : Like o c s s := ⟨rfl, rfl⟩

theorem Like.trans (h1 : Like o c s t) (h2 : Like o c t p) : Like o c s p :=
  ⟨h1.net_eq.trans h2.net_eq, h1.low_eq.trans h2.low_eq⟩

theorem Like.append (h1 : Like o c s t) (h2 : Like o c p q) : Like o c (s ++ p) (t ++ q) :=
  ⟨by rw [net_append, net_append, h1.net_eq, h2.net_eq],
    by rw [low_append, low_append, h1.low_eq, h1.net_eq, h2.low_eq]⟩

theorem like_nil (ho : o ∉ s) (hc : c ∉ s) : Like o c s [] :=
  ⟨net_of_not_mem ho hc, low_of_not_mem ho hc⟩

theorem Like.balanced_iff (h : Like o c s t) : Balanced o c s ↔ Balanced o c t := by
  rw [Aes67.balanced_iff, Aes67.balanced_iff, h.net_eq, h.low_eq]

/-- An open mark and the close mark after it change nothing. -/
theorem like_pair (hoc : o ≠ c) (ho : o ∉ s) (hc : c ∉ s) : Like o c (o :: s ++ [c]) [] := by
  have h1 : weight o c o = 1 := if_pos rfl
  have h2 : weight o c c = -1 := by rw [weight, if_neg hoc.symm, if_pos rfl]
  have hs := like_nil ho hc
  constructor
  · rw [List.cons_append, net_cons, net_append, hs.net_eq, net_cons, h1, h2]
    rfl
  · have h3 : low o c [c] = -1 := by
      rw [low, h2]
      rfl
    change min 0 (weight o c o + low o c (s ++ [c])) = 0
    rw [low_append, hs.low_eq, hs.net_eq, h1, h3]
    rfl

theorem like_intercalate {sep : List α} (h : Like o c sep []) (l : List (List α)) :
    Like o c (List.intercalate sep l) l.flatten := by
  induction l with
  | nil => exact Like.refl []
  | cons t l ih =>
    rcases l with _ | ⟨t', l⟩
    · rw [List.intercalate_singleton, List.flatten_singleton]
      exact Like.refl t
    · rw [List.intercalate_cons_cons, List.flatten_cons]
      have := ((Like.refl t).append h).append ih
      rwa [List.append_nil] at this

/-! ## The two scans -/

/-- What stands before the mark that brings the depth to zero. -/
def beforeClose (o c : α) : ℤ → List α → Option (List α)
  | _, [] => none
  | d, x :: s =>
    if x = o then (beforeClose o c (d + 1) s).map (x :: ·)
    else if x = c then
      if d - 1 = 0 then some [] else (beforeClose o c (d - 1) s).map (x :: ·)
    else (beforeClose o c d s).map (x :: ·)

/-- The sequence cut after each close mark that brings the depth to zero, with what was read
since the last cut. What follows the last cut is left out. -/
def groups (o c : α) : ℤ → List α → List α → List (List α)
  | _, _, [] => []
  | d, cur, x :: s =>
    if x = o then groups o c (d + 1) (cur ++ [x]) s
    else if x = c then
      if d - 1 = 0 then (cur ++ [x]) :: groups o c 0 [] s
      else groups o c (d - 1) (cur ++ [x]) s
    else groups o c d (cur ++ [x]) s

/-- No close mark of the sequence brings the depth `d` to zero. -/
def Inside (o c : α) (d : ℤ) (s : List α) : Prop :=
  ∀ p, p ++ [c] <+: s → d + net o c (p ++ [c]) ≠ 0

theorem inside_nil : Inside o c d [] := fun p h => by simp at h

theorem inside_cons (hoc : o ≠ c) :
    Inside o c d (x :: s) ↔ (x = c → d - 1 ≠ 0) ∧ Inside o c (d + weight o c x) s := by
  have hwc : weight o c c = -1 := by rw [weight, if_neg hoc.symm, if_pos rfl]
  constructor
  · intro h
    constructor
    · rintro rfl
      have := h [] (by simp)
      rw [List.nil_append, net_cons, hwc, net_nil] at this
      omega
    · intro p hp
      have := h (x :: p) (by simpa using hp)
      rw [List.cons_append, net_cons] at this
      omega
  · rintro ⟨hx, h⟩ p hp
    rcases p with _ | ⟨y, p⟩
    · have hxc : c = x := (List.cons_prefix_cons.mp hp).1
      have := hx hxc.symm
      rw [List.nil_append, net_cons, hwc, net_nil]
      omega
    · rw [List.cons_append, List.cons_prefix_cons] at hp
      obtain ⟨rfl, hp⟩ := hp
      have := h p hp
      rw [List.cons_append, net_cons]
      omega

/-- From a positive depth the scan stays above zero. -/
theorem Inside.pos (hoc : o ≠ c) (h : Inside o c d s) (hd : 0 < d) (hp : p <+: s) :
    0 < d + net o c p := by
  induction s generalizing d p with
  | nil => simpa [List.prefix_nil.mp hp] using hd
  | cons x s ih =>
    rcases List.prefix_cons_iff.mp hp with rfl | ⟨q, rfl, hq⟩
    · simpa using hd
    · obtain ⟨hx, hs⟩ := (inside_cons hoc).mp h
      have hpos : 0 < d + weight o c x := by
        rw [weight]
        split_ifs with h1 h2
        · omega
        · have := hx h2
          omega
        · omega
      have := ih hs hpos hq
      rw [net_cons]
      omega

theorem inside_of_pos (h : ∀ p, p <+: s → 0 < d + net o c p) : Inside o c d s :=
  fun p hp => (h (p ++ [c]) hp).ne'

/-- From an open mark on, a sequence that never goes below zero is not stopped in. -/
theorem inside_open (hoc : o ≠ c) (ho : o ∉ s) (hc : c ∉ s) (h : 0 ≤ low o c t) :
    Inside o c 0 (s ++ o :: t) := by
  intro p hp
  have hs := like_nil ho hc
  rcases snoc_prefix_append hp with h1 | ⟨q, rfl, hq⟩
  · exact absurd (h1.subset (List.mem_append_right p List.mem_cons_self)) hc
  · rcases q with _ | ⟨x, q⟩
    · have := (List.cons_prefix_cons.mp hq).1
      exact absurd this.symm hoc
    · rw [List.cons_append, List.cons_prefix_cons] at hq
      obtain ⟨rfl, hq⟩ := hq
      have hlow := le_low_iff.mp h _ hq
      have hw : weight x c x = 1 := if_pos rfl
      rw [List.append_assoc, net_append, hs.net_eq, List.cons_append, net_cons, hw, net_nil]
      omega

theorem Inside.of_append (h : Inside o c d (s ++ t)) :
    Inside o c d s ∧ Inside o c (d + net o c s) t := by
  refine ⟨fun p hp => h p (hp.trans (List.prefix_append s t)), fun p hp => ?_⟩
  have := h (s ++ p) (by simpa [List.append_assoc] using hp)
  rw [List.append_assoc, net_append] at this
  omega

theorem beforeClose_append (hoc : o ≠ c) (h : Inside o c d p) (hd : d + net o c p = 1) :
    beforeClose o c d (p ++ c :: t) = some p := by
  induction p generalizing d with
  | nil =>
    rw [net_nil] at hd
    rw [List.nil_append, beforeClose, if_neg hoc.symm, if_pos rfl, if_pos (by omega)]
  | cons x p ih =>
    obtain ⟨hx, hp⟩ := (inside_cons hoc).mp h
    rw [net_cons, ← add_assoc] at hd
    have hrec := ih hp hd
    rw [List.cons_append, beforeClose]
    by_cases h1 : x = o
    · rw [weight, if_pos h1] at hrec
      rw [if_pos h1, hrec]
      rfl
    · rw [weight, if_neg h1] at hrec
      rw [if_neg h1]
      by_cases h2 : x = c
      · rw [if_pos h2] at hrec
        rw [if_pos h2, if_neg (hx h2), sub_eq_add_neg, hrec]
        rfl
      · rw [if_neg h2, add_zero] at hrec
        rw [if_neg h2, hrec]
        rfl

theorem beforeClose_eq_some (hoc : o ≠ c) (h : beforeClose o c d s = some p) :
    ∃ t, s = p ++ c :: t ∧ Inside o c d p ∧ d + net o c p = 1 := by
  induction s generalizing d p with
  | nil => cases h
  | cons x s ih =>
    have step : ∀ {e}, (beforeClose o c e s).map (x :: ·) = some p → e = d + weight o c x →
        (x = c → d - 1 ≠ 0) →
        ∃ t, x :: s = p ++ c :: t ∧ Inside o c d p ∧ d + net o c p = 1 := by
      rintro e he rfl hx
      obtain ⟨q, hq, rfl⟩ := Option.map_eq_some_iff.mp he
      obtain ⟨t, rfl, hi, hn⟩ := ih hq
      exact ⟨t, rfl, (inside_cons hoc).mpr ⟨hx, hi⟩, by rw [net_cons]; omega⟩
    rw [beforeClose] at h
    by_cases h1 : x = o
    · rw [if_pos h1] at h
      exact step h (by rw [weight, if_pos h1]) fun h2 => absurd (h1.symm.trans h2) hoc
    · rw [if_neg h1] at h
      by_cases h2 : x = c
      · rw [if_pos h2] at h
        by_cases h3 : d - 1 = 0
        · rw [if_pos h3] at h
          cases h
          exact ⟨s, by rw [h2]; rfl, inside_nil, by rw [net_nil]; omega⟩
        · rw [if_neg h3] at h
          exact step h (by rw [weight, if_neg h1, if_pos h2]; omega) fun _ => h3
      · rw [if_neg h2] at h
        exact step h (by rw [weight_of_ne h1 h2, add_zero]) fun h3 => absurd h3 h2

theorem inside_of_beforeClose (hoc : o ≠ c) (h : beforeClose o c d s = none) : Inside o c d s := by
  induction s generalizing d with
  | nil => exact inside_nil
  | cons x s ih =>
    rw [beforeClose] at h
    rw [inside_cons hoc, weight]
    by_cases h1 : x = o
    · rw [if_pos h1, Option.map_eq_none_iff] at h
      rw [if_pos h1]
      exact ⟨fun h2 => absurd (h1.symm.trans h2) hoc, ih h⟩
    · rw [if_neg h1] at h
      rw [if_neg h1]
      by_cases h2 : x = c
      · rw [if_pos h2] at h
        rw [if_pos h2]
        by_cases h3 : d - 1 = 0
        · rw [if_pos h3] at h
          cases h
        · rw [if_neg h3, Option.map_eq_none_iff] at h
          exact ⟨fun _ => h3, ih h⟩
      · rw [if_neg h2, Option.map_eq_none_iff] at h
        rw [if_neg h2, add_zero]
        exact ⟨fun h3 => absurd h3 h2, ih h⟩

/-- What the scan does not stop in is added to what it has read. -/
theorem groups_append (hoc : o ≠ c) (h : Inside o c d p) :
    groups o c d cur (p ++ t) = groups o c (d + net o c p) (cur ++ p) t := by
  induction p generalizing d cur with
  | nil => simp
  | cons x p ih =>
    obtain ⟨hx, hp⟩ := (inside_cons hoc).mp h
    have hrec : groups o c _ (cur ++ [x]) (p ++ t) = _ := ih hp
    rw [net_cons, ← add_assoc, List.append_cons, ← hrec, List.cons_append, groups]
    by_cases h1 : x = o
    · rw [if_pos h1, weight, if_pos h1]
    · rw [if_neg h1, weight, if_neg h1]
      by_cases h2 : x = c
      · rw [if_pos h2, if_pos h2, if_neg (hx h2), sub_eq_add_neg]
      · rw [if_neg h2, if_neg h2, add_zero]

theorem groups_close (hoc : o ≠ c) :
    groups o c 1 cur (c :: t) = (cur ++ [c]) :: groups o c 0 [] t := by
  rw [groups, if_neg hoc.symm, if_pos rfl, if_pos (by omega)]

/-- A whole group is cut off. -/
theorem groups_group (hoc : o ≠ c) (h : Inside o c d p) (hd : d + net o c p = 1) :
    groups o c d cur (p ++ c :: t) = (cur ++ p ++ [c]) :: groups o c 0 [] t := by
  rw [groups_append hoc h, hd, groups_close hoc]

/-- **The first group.** Either the scan stops nowhere, or it stops first at a close mark that
brings the depth to zero. -/
theorem groups_cases (hoc : o ≠ c) (d : ℤ) (cur s : List α) :
    groups o c d cur s = [] ∨ ∃ p t, s = p ++ c :: t ∧ Inside o c d p ∧ d + net o c p = 1 ∧
      groups o c d cur s = (cur ++ p ++ [c]) :: groups o c 0 [] t := by
  by_cases h : Inside o c d s
  · left
    rw [← List.append_nil s, groups_append hoc h]
    rfl
  · right
    cases hb : beforeClose o c d s with
    | none => exact absurd (inside_of_beforeClose hoc hb) h
    | some p =>
      obtain ⟨t, rfl, hi, hd⟩ := beforeClose_eq_some hoc hb
      exact ⟨p, t, rfl, hi, hd, groups_group hoc hi hd⟩

end Aes67
