import Mathlib

/-!
# Fractions added up whole

A sum of fractions over one denominator, kept as a whole part and a numerator below the denominator:
adding a fraction adds its quotient, and the remainders are carried.

* `Fraction.Acc`, `Fraction.Acc.add`: the sum and its carry, and one more numerator;
* `Fraction.Acc.Sums`: the two together are the exact sum;
* `Fraction.Acc.Sums.whole_eq`: the whole part is then the sum rounded down, once and at the end;
* `Fraction.tendsto_div_whole`: so the rate of equal fractions is met in the long run.
-/

namespace Aes67.Fraction

open Filter Topology

/-- A sum of fractions: the whole part, and the numerator of what is left. -/
structure Acc where
  whole : ℕ := 0
  carry : ℕ := 0

namespace Acc

variable {q p n : ℕ} {s : Acc}

/-- One numerator more. -/
def add (q : ℕ) (s : Acc) (p : ℕ) : Acc where
  whole := s.whole + p / q + (s.carry + p % q) / q
  carry := (s.carry + p % q) % q

/-- The carry is a proper numerator, and with the whole part it is the sum `n / q`. -/
structure Sums (q n : ℕ) (s : Acc) : Prop where
  carry_lt : s.carry < q
  exact : s.whole * q + s.carry = n

theorem sums_zero (hq : 0 < q) : Sums q 0 {} := ⟨hq, by rw [zero_mul, zero_add]⟩

theorem Sums.add (h : Sums q n s) (p : ℕ) : Sums q (n + p) (s.add q p) := by
  have hq : 0 < q := (Nat.zero_le _).trans_lt h.carry_lt
  refine ⟨Nat.mod_lt _ hq, ?_⟩
  have hp := Nat.div_add_mod p q
  have hc := Nat.div_add_mod (s.carry + p % q) q
  have he := h.exact
  calc (s.whole + p / q + (s.carry + p % q) / q) * q + (s.carry + p % q) % q
      = s.whole * q + q * (p / q) +
          (q * ((s.carry + p % q) / q) + (s.carry + p % q) % q) := by ring
    _ = n + p := by rw [hc]; omega

/-- **The whole part is the sum rounded down.** -/
theorem Sums.whole_eq (h : Sums q n s) : s.whole = n / q := by
  have hq : 0 < q := (Nat.zero_le _).trans_lt h.carry_lt
  rw [← h.exact, mul_comm, Nat.mul_add_div hq, Nat.div_eq_of_lt h.carry_lt, add_zero]

end Acc

/-- **The rate of the whole parts is that of the fractions**, for a step of one numerator `p`. -/
theorem tendsto_div_whole {p q : ℕ} (hp : 0 < p) (hq : 0 < q) :
    Tendsto (fun n : ℕ => ((n * p : ℕ) : ℝ) / ((n * p / q : ℕ) : ℝ)) atTop (𝓝 (q : ℝ)) := by
  have hq' : (q : ℝ) ≠ 0 := Nat.cast_ne_zero.mpr hq.ne'
  have hgrow : Tendsto (fun n : ℕ => ((n * p : ℕ) : ℝ) / q) atTop atTop :=
    (tendsto_natCast_atTop_atTop.comp (tendsto_id.atTop_mul_const' hp)).atTop_div_const
      (Nat.cast_pos.mpr hq)
  have hfloor := (tendsto_nat_floor_div_atTop (R := ℝ)).comp hgrow
  have hinv := (hfloor.inv₀ one_ne_zero).const_mul (q : ℝ)
  rw [inv_one, mul_one] at hinv
  refine hinv.congr fun n => ?_
  rw [Function.comp_apply, Nat.floor_div_eq_div, inv_div, mul_div_assoc', mul_div_cancel₀ _ hq']

end Aes67.Fraction
