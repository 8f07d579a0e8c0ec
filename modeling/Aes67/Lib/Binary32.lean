import Mathlib
import Aes67.Lib.Binary64

/-!
# Single precision

The C++ `float` as far as programs that scale samples need it: a value is a rational number, and
every operation rounds its exact result to the nearest representable one, ties to even.

* `round32`: the nearest `float`;
* `OnGrid`: a multiple of the unit in the last place;
* **`round32_mem_Icc`**: rounding does not leave an interval whose ends are on the grid;
* **`round32_div_two_pow`**: whole numbers of 24 binary digits scale by powers of two exactly;
* **`round32_shaved`**: a whole number less its share of a power of two stays below itself;
* `truncate`: a conversion to an integer type.
-/

namespace Aes67

variable {q a b : ℚ} {n s : ℤ} {p : ℕ}

theorem le_roundEven (h : n ≤ q) : n ≤ roundEven q := by
  have hfloor : n ≤ ⌊q⌋ := Int.le_floor.mpr h
  rw [roundEven]
  split_ifs <;> omega

theorem roundEven_le (h : q ≤ n) : roundEven q ≤ n := by
  rcases h.lt_or_eq with hlt | rfl
  · have hfloor : ⌊q⌋ < n := Int.floor_lt.mpr hlt
    rw [roundEven]
    split_ifs <;> omega
  · rw [roundEven, Int.floor_intCast, sub_self, if_pos (by norm_num)]

/-! ## Rounding -/

/-- The exponent of the last place of the `float`s around `q`. -/
def ulpExponent32 (q : ℚ) : ℤ := max (Int.log 2 |q| - 23) (-149)

/-- The nearest `float` of a number below the overflow threshold. -/
def round32 (q : ℚ) : ℚ := roundEven (q / 2 ^ ulpExponent32 q) * 2 ^ ulpExponent32 q

/-- A multiple of the unit with this exponent. -/
def OnGrid (e : ℤ) (b : ℚ) : Prop := ∃ n : ℤ, b = n * 2 ^ e

/-- **Rounding respects the grid**: what lies between two of its points stays between them. -/
theorem round32_mem_Icc (ha : OnGrid (ulpExponent32 q) a) (hb : OnGrid (ulpExponent32 q) b)
    (h : q ∈ Set.Icc a b) : round32 q ∈ Set.Icc a b := by
  obtain ⟨n, rfl⟩ := ha
  obtain ⟨k, rfl⟩ := hb
  have hpos : (0 : ℚ) < 2 ^ ulpExponent32 q := zpow_pos (by norm_num) _
  have hlow : n ≤ roundEven (q / 2 ^ ulpExponent32 q) :=
    le_roundEven ((le_div_iff₀ hpos).mpr h.1)
  have hhigh : roundEven (q / 2 ^ ulpExponent32 q) ≤ k :=
    roundEven_le ((div_le_iff₀ hpos).mpr h.2)
  constructor
  · exact mul_le_mul_of_nonneg_right (by exact_mod_cast hlow) hpos.le
  · exact mul_le_mul_of_nonneg_right (by exact_mod_cast hhigh) hpos.le

theorem round32_of_onGrid (h : OnGrid (ulpExponent32 q) q) : round32 q = q := by
  have hmem := round32_mem_Icc h h ⟨le_rfl, le_rfl⟩
  exact le_antisymm hmem.2 hmem.1

/-- Quotients by a power of two are on every finer grid. -/
theorem onGrid_div {e : ℤ} (h : e ≤ -p) : OnGrid e (s / 2 ^ p) := by
  obtain ⟨k, hk⟩ : ∃ k : ℕ, -(p : ℤ) = e + k := ⟨(-p - e).toNat, by omega⟩
  refine ⟨s * 2 ^ k, ?_⟩
  have hp : (1 : ℚ) / 2 ^ p = 2 ^ e * 2 ^ k := by
    rw [← zpow_natCast, ← zpow_natCast, one_div, ← zpow_neg, hk, zpow_add₀ (by norm_num)]
  calc (s : ℚ) / 2 ^ p = s * (1 / 2 ^ p) := by rw [mul_one_div]
    _ = (s * 2 ^ k : ℤ) * 2 ^ e := by rw [hp]; push_cast; ring

theorem onGrid_intCast {e : ℤ} (h : e ≤ 0) : OnGrid e s := by
  simpa using onGrid_div (s := s) (p := 0) (by simpa using h)

/-- **Whole numbers of 24 digits** scale by powers of two without rounding. -/
theorem round32_div_two_pow (hs : |s| < 2 ^ 24) (hp : p ≤ 149) :
    round32 (s / 2 ^ p) = s / 2 ^ p := by
  rcases eq_or_ne s 0 with rfl | h0
  · exact round32_of_onGrid ⟨0, by simp⟩
  refine round32_of_onGrid (onGrid_div (max_le ?_ (by omega)))
  have hs' : |(s : ℚ)| < 2 ^ 24 := by exact_mod_cast hs
  have habs : |(s : ℚ) / 2 ^ p| < 2 ^ ((24 : ℤ) - p) := by
    rw [abs_div, abs_of_pos (by positivity : (0 : ℚ) < 2 ^ p), zpow_sub₀ (by norm_num),
      zpow_natCast]
    exact div_lt_div_of_pos_right (by exact_mod_cast hs') (by positivity)
  have hpos : 0 < |(s : ℚ) / 2 ^ p| := by
    have : (s : ℚ) ≠ 0 := by exact_mod_cast h0
    positivity
  have hlog := (Int.lt_zpow_iff_log_lt (b := 2) (by norm_num) hpos).mp (by push_cast; exact habs)
  omega

/-- A whole number less its share of a power of two. -/
def shaved (p : ℕ) (s : ℤ) : ℚ := s - s / 2 ^ p

/-- The unit in the last place of such a number divides one, and is no more than the share. -/
theorem ulpExponent32_shaved (h0 : s ≠ 0) (hp : 0 < p) (hp' : p ≤ 23) (hs : |s| ≤ 2 ^ p) :
    ulpExponent32 (shaved p s) ≤ 0 ∧
      (2 : ℚ) ^ ulpExponent32 (shaved p s) ≤ |(s : ℚ)| / 2 ^ p := by
  have hpow : (2 : ℚ) ≤ 2 ^ p := by
    calc (2 : ℚ) = 2 ^ 1 := (pow_one 2).symm
      _ ≤ 2 ^ p := pow_le_pow_right₀ (by norm_num) hp
  have hpos : (0 : ℚ) < 2 ^ p := by positivity
  have habs : |shaved p s| = |(s : ℚ)| * (1 - 1 / 2 ^ p) := by
    have hfactor : (0 : ℚ) ≤ 1 - 1 / 2 ^ p := by
      rw [sub_nonneg, div_le_one hpos]
      linarith
    calc |shaved p s| = |(s : ℚ) * (1 - 1 / 2 ^ p)| := by rw [shaved]; congr 1; ring
      _ = |(s : ℚ)| * (1 - 1 / 2 ^ p) := by rw [abs_mul, abs_of_nonneg hfactor]
  have hone : (1 : ℚ) ≤ |(s : ℚ)| := by exact_mod_cast Int.one_le_abs h0
  have hs' : |(s : ℚ)| ≤ 2 ^ p := by exact_mod_cast hs
  have hhalf : (1 : ℚ) / 2 ^ p ≤ 1 / 2 := one_div_le_one_div_of_le (by norm_num) hpow
  have hshare : (0 : ℚ) < 1 / 2 ^ p := by positivity
  have hlow : (1 : ℚ) / 2 ≤ |shaved p s| := by
    rw [habs]
    nlinarith
  have hlt : |shaved p s| < |(s : ℚ)| := by
    rw [habs]
    nlinarith
  have hk1 : (-1 : ℤ) ≤ Int.log 2 |shaved p s| := by
    refine (Int.zpow_le_iff_le_log (b := 2) (by norm_num) (by linarith)).mp ?_
    norm_num at hlow ⊢
    linarith
  have hpow23 : (2 : ℚ) ^ p ≤ 2 ^ 23 := pow_le_pow_right₀ (by norm_num) hp'
  have hk2 : Int.log 2 |shaved p s| < 23 := by
    refine (Int.lt_zpow_iff_log_lt (b := 2) (by norm_num) (by linarith)).mp ?_
    have : |shaved p s| < 2 ^ 23 := by linarith
    exact_mod_cast this
  have hulp : ulpExponent32 (shaved p s) = Int.log 2 |shaved p s| - 23 := max_eq_left (by omega)
  refine ⟨by omega, ?_⟩
  have hle : (2 : ℚ) ^ Int.log 2 |shaved p s| ≤ |shaved p s| := by
    simpa using Int.zpow_log_le_self (b := 2) (by norm_num) (by linarith : 0 < |shaved p s|)
  rw [hulp, zpow_sub₀ (by norm_num)]
  calc (2 : ℚ) ^ Int.log 2 |shaved p s| / 2 ^ (23 : ℤ)
      ≤ |(s : ℚ)| / 2 ^ (23 : ℤ) := div_le_div_of_nonneg_right (by linarith) (by positivity)
    _ ≤ |(s : ℚ)| / 2 ^ p := div_le_div_of_nonneg_left (by linarith) hpos (by exact_mod_cast hpow23)

/-! ## Truncation -/

/-- The conversion of a number to a wide enough integer type. -/
def truncate (q : ℚ) : ℤ := if 0 ≤ q then ⌊q⌋ else ⌈q⌉

/-- One step towards zero, and so on. -/
def towardsZero (n : ℕ) (s : ℤ) : ℤ := if 0 ≤ s then max (s - n) 0 else min (s + n) 0

theorem towardsZero_succ (n : ℕ) (s : ℤ) :
    towardsZero (n + 1) s = towardsZero 1 (towardsZero n s) := by
  simp only [towardsZero]
  split_ifs <;> omega

/-- **A whole number less its share** of a power of two is truncated one short of itself. -/
theorem truncate_round32_shaved (hp : 0 < p) (hp' : p ≤ 23) (hs : |s| ≤ 2 ^ p) :
    truncate (round32 (shaved p s)) = towardsZero 1 s := by
  rcases eq_or_ne s 0 with rfl | h0
  · have hzero : shaved p 0 = ((0 : ℤ) : ℚ) := by simp [shaved]
    have hround : round32 (shaved p 0) = ((0 : ℤ) : ℚ) := by
      rw [hzero]
      simpa using round32_div_two_pow (s := 0) (p := 0) (by norm_num) (by norm_num)
    rw [hround]
    simp [truncate, towardsZero]
  obtain ⟨he, hulp⟩ := ulpExponent32_shaved h0 hp hp' hs
  have hs' : |(s : ℚ)| / 2 ^ p ≤ 1 := by
    rw [div_le_one (by positivity)]
    exact_mod_cast hs
  have hgrid (n : ℤ) : OnGrid (ulpExponent32 (shaved p s)) n := onGrid_intCast he
  have hstep (n : ℤ) (d : ℤ) : OnGrid (ulpExponent32 (shaved p s))
      (n + d * 2 ^ ulpExponent32 (shaved p s)) := by
    obtain ⟨m, hm⟩ := hgrid n
    exact ⟨m + d, by rw [hm]; push_cast; ring⟩
  have hpos : (0 : ℚ) < 2 ^ ulpExponent32 (shaved p s) := zpow_pos (by norm_num) _
  have hdef : shaved p s = s - s / 2 ^ p := rfl
  rcases lt_or_gt_of_ne h0 with hneg | hsign
  · have habs : |(s : ℚ)| = -s := abs_of_neg (by exact_mod_cast hneg)
    rw [habs] at hulp hs'
    have hmem := round32_mem_Icc (hstep s 1) (hgrid (s + 1)) ⟨by
      rw [neg_div] at hulp
      push_cast
      linarith, by
      rw [neg_div] at hs'
      push_cast
      linarith⟩
    rw [Int.cast_one, one_mul] at hmem
    have hceil : ⌈round32 (shaved p s)⌉ = s + 1 := by
      rw [Int.ceil_eq_iff]
      exact ⟨by push_cast; linarith [hmem.1], hmem.2⟩
    have hone : towardsZero 1 s = s + 1 := by
      rw [towardsZero, if_neg (by omega)]
      omega
    rw [truncate, hone]
    split_ifs with h
    · have hzero : (0 : ℚ) ≤ (s + 1 : ℤ) := h.trans hmem.2
      have hs1 : s = -1 := by
        have : (0 : ℤ) ≤ s + 1 := by exact_mod_cast hzero
        omega
      subst hs1
      have hround : round32 (shaved p (-1)) = 0 := le_antisymm (by simpa using hmem.2) h
      rw [hround]
      rfl
    · exact hceil
  · have habs : |(s : ℚ)| = s := abs_of_pos (by exact_mod_cast hsign)
    rw [habs] at hulp hs'
    have hmem := round32_mem_Icc (hgrid (s - 1)) (hstep s (-1)) ⟨by
      push_cast
      linarith, by
      push_cast
      linarith⟩
    rw [Int.cast_neg, Int.cast_one, neg_one_mul] at hmem
    have hnonneg : 0 ≤ round32 (shaved p s) := by
      have hs1 : (0 : ℚ) ≤ (s - 1 : ℤ) := by exact_mod_cast (by omega : (0 : ℤ) ≤ s - 1)
      exact hs1.trans hmem.1
    have hfloor : ⌊round32 (shaved p s)⌋ = s - 1 := by
      rw [Int.floor_eq_iff]
      exact ⟨hmem.1, by push_cast; linarith [hmem.2]⟩
    rw [truncate, if_pos hnonneg, hfloor, towardsZero, if_pos hsign.le]
    omega

end Aes67
