import Mathlib
import Aes67.Lib.Cells

/-!
# A reader and a writer on a ring of slots

Numbers modulo `M` are kept in `S` slots, each number in the slot it is congruent to; `S` divides
`M`. The writer offers consecutive numbers, one a round, and a slot in use refuses. The reader looks
once a round into the slot of the number it expects and empties it; it goes on to the next number
unless nothing is left at all. Numbers are counted here without wrapping around.

* `SlotRing`, `put`, `Hit`, `tick`, `after`, `HitAt`;
* `hitAt_of_held`: a number kept within the next `S` expected is read;
* `hitAt_of_near`: a writer less than `S` ahead is read;
* `Apart`, `not_hitAt_of_apart`: a writer `S` or more ahead is never read, if nothing kept is;
* **`exists_hitAt_iff`**: the reader finds a number within `M` rounds exactly when the writer is less
  than `S` ahead, or one of the next `S` numbers is kept already.
-/

namespace Aes67

/-- What the slots hold, and the number the reader expects. -/
structure SlotRing where
  held : ℕ → Option ℕ
  expected : ℕ

namespace SlotRing

variable (S M : ℕ) (l : SlotRing)

/-- The writer offers `n`. -/
def put (n : ℕ) : SlotRing :=
  if l.held (n % S) = none then { l with held := Function.update l.held (n % S) (some (n % M)) }
  else l

/-- The reader finds the number it expects. -/
def Hit : Prop := l.held (l.expected % S) = some (l.expected % M)

instance : Decidable (l.Hit S M) := inferInstanceAs (Decidable (_ = _))

/-- What is left when the reader has emptied its slot. -/
def rest : ℕ → Option ℕ := Function.update l.held (l.expected % S) none

def tick : SlotRing where
  held := l.rest S
  expected :=
    if l.Hit S M ∨ 0 < countBelow Option.isSome (l.rest S) S then l.expected + 1 else l.expected

/-- The ring after `k` rounds, the writer having begun with `n`. -/
def after (n : ℕ) : ℕ → SlotRing
  | 0 => l
  | k + 1 => ((after n k).put S M (n + k)).tick S M

/-- The reader finds the number it expects in round `k`. -/
def HitAt (n k : ℕ) : Prop := ((l.after S M n k).put S M (n + k)).Hit S M

variable {S M l} {n k : ℕ}

/-! ## One round -/

theorem held_put_of_ne {i : ℕ} (h : i ≠ n % S) : (l.put S M n).held i = l.held i := by
  unfold put
  split_ifs
  · exact Function.update_of_ne h ..
  · rfl

theorem held_put_of_some {i x : ℕ} (h : l.held i = some x) : (l.put S M n).held i = some x := by
  unfold put
  split_ifs with hn
  · show Function.update _ _ _ i = _
    rw [Function.update_of_ne, h]
    rintro rfl
    rw [hn] at h
    cases h
  · exact h

theorem held_put_of_none (h : l.held (n % S) = none) :
    (l.put S M n).held (n % S) = some (n % M) := by
  rw [put, if_pos h]
  exact Function.update_self ..

theorem held_put_self : (l.put S M n).held (n % S) ≠ none := by
  by_cases h : l.held (n % S) = none
  · rw [held_put_of_none h]
    simp
  · rw [put, if_neg h]
    exact h

@[simp]
theorem expected_put : (l.put S M n).expected = l.expected := by
  unfold put
  split_ifs <;> rfl

theorem held_tick_self : (l.tick S M).held (l.expected % S) = none := Function.update_self ..

theorem held_tick_of_ne {i : ℕ} (h : i ≠ l.expected % S) : (l.tick S M).held i = l.held i :=
  Function.update_of_ne h ..

/-- While something else is left the reader goes on. -/
theorem expected_tick_of_held {i : ℕ} (hi : i < S) (hne : i ≠ l.expected % S)
    (h : l.held i ≠ none) : (l.tick S M).expected = l.expected + 1 := by
  refine if_pos (Or.inr (countBelow_pos.mpr ⟨i, hi, ?_⟩))
  rw [rest, Function.update_of_ne hne]
  exact Option.isSome_iff_ne_none.mpr h

/-- The first round, and then the others. -/
theorem after_succ : l.after S M n (k + 1) = ((l.put S M n).tick S M).after S M (n + 1) k := by
  induction k with
  | zero => rfl
  | succ k ih =>
    rw [after, ih, after]
    congr 2
    omega

theorem hitAt_succ : l.HitAt S M n (k + 1) ↔ ((l.put S M n).tick S M).HitAt S M (n + 1) k := by
  unfold HitAt
  rw [after_succ, show n + (k + 1) = n + 1 + k by omega]

theorem hitAt_add {j : ℕ} : l.HitAt S M n (k + j) ↔ (l.after S M n k).HitAt S M (n + k) j := by
  induction k generalizing l n with
  | zero =>
    rw [Nat.zero_add]
    rfl
  | succ k ih =>
    rw [show k + 1 + j = k + j + 1 by omega, hitAt_succ, ih, after_succ,
      show n + 1 + k = n + (k + 1) by omega]

theorem add_mod_inj {e i j : ℕ} (hi : i < S) (hj : j < S) (h : (e + i) % S = (e + j) % S) :
    i = j := by
  have hij : i ≡ j [MOD S] := Nat.ModEq.add_left_cancel' e h
  exact hij.eq_of_lt_of_lt hi hj

/-! ## A number that is kept is read -/

/-- **A number kept within the next `S` expected is read** when its turn comes. -/
theorem hitAt_of_held {j : ℕ} (hj : j < S)
    (h : l.held ((l.expected + j) % S) = some ((l.expected + j) % M)) : l.HitAt S M n j := by
  induction j generalizing l n with
  | zero =>
    show (l.put S M n).held ((l.put S M n).expected % S) = some ((l.put S M n).expected % M)
    rw [expected_put]
    exact held_put_of_some h
  | succ j ih =>
    have hS : 0 < S := by omega
    have hne : (l.expected + (j + 1)) % S ≠ (l.put S M n).expected % S := by
      rw [expected_put]
      intro he
      have := add_mod_inj (i := j + 1) (j := 0) hj hS he
      omega
    have hput := held_put_of_some (S := S) (M := M) (n := n) h
    have hexp : ((l.put S M n).tick S M).expected = l.expected + 1 := by
      rw [expected_tick_of_held (Nat.mod_lt _ hS) hne (by rw [hput]; simp), expected_put]
    refine hitAt_succ.mpr (ih (by omega) ?_)
    rw [hexp, show l.expected + 1 + j = l.expected + (j + 1) by omega, held_tick_of_ne hne]
    exact hput

/-! ## A writer that is near is read -/

/-- As long as writer and reader look into two slots, the reader goes on in every round. -/
theorem expected_after {d : ℕ} (hd : 0 < d) (hdS : d < S) (hn : n = l.expected + d) :
    (l.after S M n k).expected = l.expected + k := by
  induction k with
  | zero => rfl
  | succ k ih =>
    have hS : 0 < S := by omega
    have hne : (n + k) % S ≠ ((l.after S M n k).put S M (n + k)).expected % S := by
      rw [expected_put, ih]
      intro he
      have he' : (l.expected + k + d) % S = (l.expected + k + 0) % S := by
        rw [show l.expected + k + d = n + k by omega]
        exact he
      have := add_mod_inj hdS hS he'
      omega
    rw [after, expected_tick_of_held (Nat.mod_lt _ hS) hne held_put_self, expected_put, ih]
    omega

/-- The slot emptied in the first round stays empty until the writer comes to it. -/
theorem held_after_of_near {d : ℕ} (hd : 0 < d) (hn : n = l.expected + d) (hk : k + d < S) :
    (l.after S M n (k + 1)).held (l.expected % S) = none := by
  have hS : 0 < S := by omega
  induction k with
  | zero =>
    show ((l.put S M n).tick S M).held (l.expected % S) = none
    have h := held_tick_self (S := S) (M := M) (l := l.put S M n)
    rwa [expected_put] at h
  | succ k ih =>
    have hexp := expected_after (S := S) (M := M) (k := k + 1) hd (by omega) hn
    have hput : l.expected % S ≠ (n + (k + 1)) % S := by
      intro he
      have he' : (l.expected + 0) % S = (l.expected + (d + (k + 1))) % S := by
        rw [show l.expected + (d + (k + 1)) = n + (k + 1) by omega]
        exact he
      have := add_mod_inj hS (by omega) he'
      omega
    have htick : l.expected % S ≠ ((l.after S M n (k + 1)).put S M (n + (k + 1))).expected % S := by
      rw [expected_put, hexp]
      intro he
      have := add_mod_inj (i := 0) (j := k + 1) hS (by omega) he
      omega
    rw [after, held_tick_of_ne htick, held_put_of_ne hput]
    exact ih (by omega)

/-- **A writer ahead by less than `S` is read** when the reader has gone round once. -/
theorem hitAt_of_ahead {d : ℕ} (hd : 0 < d) (hdS : d < S) (hn : n = l.expected + d) :
    l.HitAt S M n S := by
  have hS : 0 < S := by omega
  obtain ⟨k, hk⟩ : ∃ k, S = k + 1 + d := ⟨S - d - 1, by omega⟩
  have hnum : n + (k + 1) = l.expected + S := by omega
  have hslot : (n + (k + 1)) % S = l.expected % S := by rw [hnum, Nat.add_mod_right]
  have hnone := held_after_of_near (M := M) hd hn (show k + d < S by omega)
  have hexp := expected_after (S := S) (M := M) (k := k + 1) hd hdS hn
  have hexp' := expected_after (S := S) (M := M) (k := k + 2) hd hdS hn
  -- the round in which the writer comes to the slot emptied first
  have hput : ((l.after S M n (k + 1)).put S M (n + (k + 1))).held (l.expected % S) =
      some ((l.expected + S) % M) := by
    rw [← hslot, held_put_of_none (by rw [hslot]; exact hnone), hnum]
  have hne : l.expected % S ≠ ((l.after S M n (k + 1)).put S M (n + (k + 1))).expected % S := by
    rw [expected_put, hexp]
    intro he
    have := add_mod_inj (i := 0) (j := k + 1) hS (by omega) he
    omega
  have hheld : (l.after S M n (k + 2)).held (l.expected % S) = some ((l.expected + S) % M) := by
    rw [after, held_tick_of_ne hne]
    exact hput
  have hsum : (l.after S M n (k + 2)).expected + (d - 1) = l.expected + S := by omega
  have hhit : (l.after S M n (k + 2)).HitAt S M (n + (k + 2)) (d - 1) := by
    refine hitAt_of_held (by omega) ?_
    rw [hsum, Nat.add_mod_right]
    exact hheld
  have h := hitAt_add.mpr hhit
  rwa [show k + 2 + (d - 1) = S by omega] at h

/-- A writer level with the reader is read too: each round that finds a stale number empties a
slot, and when the last is empty the reader waits for one round. -/
theorem exists_hitAt_of_level (hS : 2 ≤ S) :
    ∀ c, countBelow Option.isSome l.held S = c → l.expected = n →
      ∃ k ≤ c + S + 1, l.HitAt S M n k := by
  intro c
  induction c generalizing l n with
  | zero =>
    rintro hc rfl
    have hnone : l.held (l.expected % S) = none := by
      have := countBelow_eq_zero.mp hc (l.expected % S) (Nat.mod_lt _ (by omega))
      simpa using this
    refine ⟨0, by omega, ?_⟩
    show (l.put S M l.expected).held ((l.put S M l.expected).expected % S) =
      some ((l.put S M l.expected).expected % M)
    rw [expected_put]
    exact held_put_of_none hnone
  | succ c ih =>
    rintro hc rfl
    by_cases hhit : l.HitAt S M l.expected 0
    · exact ⟨0, by omega, hhit⟩
    · have hsome : l.held (l.expected % S) ≠ none := by
        intro hnone
        refine hhit ?_
        show (l.put S M l.expected).held ((l.put S M l.expected).expected % S) =
          some ((l.put S M l.expected).expected % M)
        rw [expected_put]
        exact held_put_of_none hnone
      have hput : l.put S M l.expected = l := by rw [put, if_neg hsome]
      have hmiss : ¬ l.Hit S M := by
        have h := hhit
        unfold HitAt after at h
        rwa [Nat.add_zero, hput] at h
      have hcount : countBelow Option.isSome (l.rest S) S = c := by
        have h := countBelow_update (p := Option.isSome) (f := l.held) (x := none)
          (Nat.mod_lt l.expected (show 0 < S by omega))
        rw [if_pos (Option.isSome_iff_ne_none.mpr hsome), if_neg (by simp), hc] at h
        exact Nat.succ.inj h
      rcases Nat.eq_zero_or_pos c with rfl | hpos
      · -- nothing is left: the reader waits and the writer gets one ahead
        have hexp : (l.tick S M).expected = l.expected := if_neg (by simp [hmiss, hcount])
        have hS1 : 1 < S := by omega
        have h := hitAt_of_ahead (l := l.tick S M) (M := M) (n := l.expected + 1) Nat.one_pos hS1
          (by rw [hexp])
        refine ⟨S + 1, by omega, hitAt_succ.mpr ?_⟩
        rw [hput]
        exact h
      · have hexp : (l.tick S M).expected = l.expected + 1 := if_pos (Or.inr (by omega))
        obtain ⟨k, hk, h⟩ := ih (l := l.tick S M) hcount hexp
        refine ⟨k + 1, by omega, hitAt_succ.mpr ?_⟩
        rw [hput]
        exact h

/-! ## A writer that is far is never read -/

/-- The writer is `S` or more ahead, and none of the next `S` numbers is kept. -/
structure Apart (S M : ℕ) (l : SlotRing) (n : ℕ) : Prop where
  exists_ahead : ∃ d, S ≤ d ∧ d < M ∧ n = l.expected + d
  unheld : ∀ j < S, l.held ((l.expected + j) % S) ≠ some ((l.expected + j) % M)

theorem Apart.not_hit (h : Apart S M l n) (hS : 2 ≤ S) : ¬ (l.put S M n).Hit S M ∧
    ∀ j < S, (l.put S M n).held ((l.expected + j) % S) ≠ some ((l.expected + j) % M) := by
  obtain ⟨d, hSd, hdM, hn⟩ := h.exists_ahead
  have hall : ∀ j < S,
      (l.put S M n).held ((l.expected + j) % S) ≠ some ((l.expected + j) % M) := by
    intro j hj
    by_cases hslot : (l.expected + j) % S = n % S
    · by_cases hnone : l.held (n % S) = none
      · rw [hslot, held_put_of_none hnone]
        intro he
        have he' : (l.expected + d) % M = (l.expected + j) % M := by
          rw [← hn]
          exact Option.some.inj he
        have := add_mod_inj hdM (by omega) he'
        omega
      · rw [put, if_neg hnone]
        exact h.unheld j hj
    · rw [held_put_of_ne hslot]
      exact h.unheld j hj
  refine ⟨?_, hall⟩
  unfold Hit
  rw [expected_put]
  exact hall 0 (by omega)

theorem Apart.round (h : Apart S M l n) (hS : 2 ≤ S) (hdvd : S ∣ M) :
    Apart S M ((l.put S M n).tick S M) (n + 1) := by
  obtain ⟨hmiss, hunheld⟩ := h.not_hit hS
  obtain ⟨d, hSd, hdM, hn⟩ := h.exists_ahead
  by_cases hrest : 0 < countBelow Option.isSome ((l.put S M n).rest S) S
  · have hexp : ((l.put S M n).tick S M).expected = l.expected + 1 := by
      rw [tick, if_pos (Or.inr hrest), expected_put]
    refine ⟨⟨d, hSd, hdM, by omega⟩, fun j hj => ?_⟩
    rw [hexp]
    by_cases hlast : j + 1 = S
    · -- the slot just emptied
      rw [show l.expected + 1 + j = l.expected + S by omega, Nat.add_mod_right]
      have hnone := held_tick_self (S := S) (M := M) (l := l.put S M n)
      rw [expected_put] at hnone
      rw [hnone]
      simp
    · have hne : (l.expected + (j + 1)) % S ≠ (l.put S M n).expected % S := by
        rw [expected_put]
        intro he
        have := add_mod_inj (i := j + 1) (j := 0) (by omega) (by omega) he
        omega
      rw [show l.expected + 1 + j = l.expected + (j + 1) by omega, held_tick_of_ne hne]
      exact hunheld (j + 1) (by omega)
  · have hexp : ((l.put S M n).tick S M).expected = l.expected := by
      rw [tick, if_neg (by simp [hmiss, hrest]), expected_put]
    have hempty := countBelow_eq_zero.mp (Nat.eq_zero_of_not_pos hrest)
    -- nothing is left, so the writer's number was in the reader's slot
    have hslot : n % S = l.expected % S := by
      by_contra hne
      have h1 := hempty (n % S) (Nat.mod_lt _ (by omega))
      rw [rest, expected_put, Function.update_of_ne hne] at h1
      exact held_put_self (by simpa using h1)
    have hd : S ∣ d := by
      have h1 : l.expected + d ≡ l.expected + 0 [MOD S] := by
        rw [← hn]
        exact hslot
      exact (Nat.modEq_zero_iff_dvd).mp (Nat.ModEq.add_left_cancel' _ h1)
    have hlt : d + 1 < M := by
      have hle : d + S ≤ M := by
        have hd' : S ∣ M - d := Nat.dvd_sub hdvd hd
        have := Nat.le_of_dvd (by omega) hd'
        omega
      omega
    refine ⟨⟨d + 1, by omega, hlt, by omega⟩, fun j hj => ?_⟩
    have hnone : ((l.put S M n).tick S M).held
        ((((l.put S M n).tick S M).expected + j) % S) = none := by
      have h1 : (((l.put S M n).tick S M).held
          ((((l.put S M n).tick S M).expected + j) % S)).isSome = false :=
        hempty _ (Nat.mod_lt _ (by omega))
      simpa using h1
    rw [hnone]
    simp

/-- **A writer `S` or more ahead is never read**, when none of the next `S` numbers is kept. -/
theorem not_hitAt_of_apart (h : Apart S M l n) (hS : 2 ≤ S) (hdvd : S ∣ M) : ¬ l.HitAt S M n k := by
  induction k generalizing l n with
  | zero => exact (h.not_hit hS).1
  | succ k ih =>
    rw [hitAt_succ]
    exact ih (h.round hS hdvd)

/-- **When the reader finds its number**: within `M` rounds exactly when the writer is less than `S`
ahead, or one of the next `S` numbers is kept already. -/
theorem exists_hitAt_iff {d : ℕ} (hS : 2 ≤ S) (hdvd : S ∣ M) (hSM : 2 * S + 1 < M) (hd : d < M)
    (hn : n = l.expected + d) :
    (∃ k < M, l.HitAt S M n k) ↔
      d < S ∨ ∃ j < S, l.held ((l.expected + j) % S) = some ((l.expected + j) % M) := by
  constructor
  · rintro ⟨k, -, hk⟩
    by_contra hno
    rw [not_or, not_lt, not_exists] at hno
    refine not_hitAt_of_apart ⟨⟨d, hno.1, hd, hn⟩, fun j hj hheld => ?_⟩ hS hdvd hk
    exact hno.2 j ⟨hj, hheld⟩
  · rintro (hnear | ⟨j, hj, hheld⟩)
    · rcases Nat.eq_zero_or_pos d with rfl | hpos
      · obtain ⟨k, hk, hhit⟩ := exists_hitAt_of_level (l := l) (n := n) (M := M) hS _ rfl (by omega)
        have hle : countBelow Option.isSome l.held S ≤ S := countBelow_le
        exact ⟨k, by omega, hhit⟩
      · exact ⟨S, by omega, hitAt_of_ahead hpos hnear hn⟩
    · exact ⟨j, by omega, hitAt_of_held hj hheld⟩

end SlotRing

end Aes67
