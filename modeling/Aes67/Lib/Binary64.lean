import Mathlib
import Aes67.Lib.Text

/-!
# Double precision

The C++ `double` as far as programs that read, scale and print decimal fractions need it: a value
is a rational number, and every operation rounds its exact result to the nearest representable
one, ties to even.

* `roundEven`, `lround`: the two roundings to an integer;
* `round64`: the nearest `double`, with its error bound **`abs_round64_sub_le`**;
* `stod`: `std::stod`, nothing where the library throws;
* `printFixed`: the `%.kf` conversion of `printf`.
-/

namespace Aes67

/-! ## Rounding -/

/-- The nearest integer, ties to even. -/
def roundEven (q : ℚ) : ℤ :=
  if q - ⌊q⌋ < 1 / 2 then ⌊q⌋
  else if 1 / 2 < q - ⌊q⌋ then ⌊q⌋ + 1
  else if ⌊q⌋ % 2 = 0 then ⌊q⌋ else ⌊q⌋ + 1

/-- `std::lround`: the nearest integer, ties away from zero. -/
def lround (q : ℚ) : ℤ := if 0 ≤ q then ⌊q + 1 / 2⌋ else -⌊-q + 1 / 2⌋

/-- The exponent of the last place of the `double`s around `q`. -/
def ulpExponent (q : ℚ) : ℤ := max (Int.log 2 |q| - 52) (-1074)

/-- The nearest `double` of a number below the overflow threshold. -/
def round64 (q : ℚ) : ℚ := roundEven (q / 2 ^ ulpExponent q) * 2 ^ ulpExponent q

variable {q : ℚ}

theorem abs_roundEven_sub_le (q : ℚ) : |(roundEven q : ℚ) - q| ≤ 1 / 2 := by
  have h0 := Int.floor_le q
  have h1 := Int.lt_floor_add_one q
  rw [abs_le, roundEven]
  split_ifs <;> push_cast <;> constructor <;> linarith

theorem roundEven_eq_of_abs_lt {n : ℤ} (h : |q - n| < 1 / 2) : roundEven q = n := by
  have h1 := abs_roundEven_sub_le q
  have h2 : |((roundEven q - n : ℤ) : ℚ)| < 1 := by
    have := abs_sub_le (roundEven q : ℚ) q n
    push_cast
    linarith
  have h3 : |roundEven q - n| < 1 := by exact_mod_cast h2
  have := abs_lt.mp h3
  omega

theorem lround_eq_of_abs_lt {n : ℤ} (h0 : 0 ≤ q) (h : |q - n| < 1 / 2) : lround q = n := by
  have h1 := abs_lt.mp h
  rw [lround, if_pos h0, Int.floor_eq_iff]
  constructor <;> linarith

theorem lround_le {n : ℤ} (h0 : 0 ≤ q) (h : q < n + 1 / 2) : lround q ≤ n := by
  rw [lround, if_pos h0, ← Int.lt_add_one_iff, Int.floor_lt]
  push_cast
  linarith

theorem round64_zero : round64 0 = 0 := by
  have : roundEven 0 = 0 := roundEven_eq_of_abs_lt (by simp)
  simp [round64, this]

theorem round64_nonneg (h : 0 ≤ q) : 0 ≤ round64 q := by
  have hpos : (0 : ℚ) < 2 ^ ulpExponent q := zpow_pos (by norm_num) _
  have h1 := (abs_le.mp (abs_roundEven_sub_le (q / 2 ^ ulpExponent q))).1
  have h2 : 0 ≤ q / 2 ^ ulpExponent q := div_nonneg h hpos.le
  have h3 : (-1 : ℤ) < roundEven (q / 2 ^ ulpExponent q) := by
    have : ((-1 : ℤ) : ℚ) < roundEven (q / 2 ^ ulpExponent q) := by push_cast; linarith
    exact_mod_cast this
  have h4 : (0 : ℚ) ≤ roundEven (q / 2 ^ ulpExponent q) := by
    exact_mod_cast (by omega : (0 : ℤ) ≤ roundEven (q / 2 ^ ulpExponent q))
  exact mul_nonneg h4 hpos.le

/-- A whole number of at most `53` binary digits is exact. -/
theorem round64_natCast {n : ℕ} (h : n < 2 ^ 53) : round64 n = n := by
  rcases Nat.eq_zero_or_pos n with rfl | hn
  · exact_mod_cast round64_zero
  have hlog : Nat.log 2 n ≤ 52 := by
    have := Nat.log_lt_of_lt_pow hn.ne' h
    omega
  obtain ⟨k, hk⟩ : ∃ k : ℕ, ulpExponent n = -(k : ℤ) := by
    refine ⟨(-ulpExponent n).toNat, ?_⟩
    have : ulpExponent n ≤ 0 := by
      rw [ulpExponent, abs_of_nonneg (by positivity), Int.log_natCast]
      omega
    omega
  have he : roundEven ((n : ℚ) * 2 ^ k) = (n * 2 ^ k : ℕ) :=
    roundEven_eq_of_abs_lt (by push_cast; simp)
  rw [round64, hk, zpow_neg, zpow_natCast, div_inv_eq_mul, he]
  push_cast
  rw [mul_assoc, mul_inv_cancel₀ (by positivity), mul_one]

/-- **The rounding error** is half a unit in the last place: relative in the normal range,
absolute below it. -/
theorem abs_round64_sub_le (q : ℚ) : |round64 q - q| ≤ |q| / 2 ^ 53 + 1 / 2 ^ 1075 := by
  rcases eq_or_ne q 0 with rfl | hq
  · rw [round64_zero, sub_zero, abs_zero]
    positivity
  have hpos : (0 : ℚ) < 2 ^ ulpExponent q := zpow_pos (by norm_num) _
  have herr : |round64 q - q| ≤ 2 ^ ulpExponent q / 2 := by
    have h := abs_roundEven_sub_le (q / 2 ^ ulpExponent q)
    have e : round64 q - q = (roundEven (q / 2 ^ ulpExponent q) - q / 2 ^ ulpExponent q) *
        2 ^ ulpExponent q := by
      rw [round64, sub_mul, div_mul_cancel₀ _ hpos.ne']
    rw [e, abs_mul, abs_of_pos hpos]
    nlinarith
  have hlog : (2 : ℚ) ^ Int.log 2 |q| ≤ |q| := by
    simpa using Int.zpow_log_le_self (b := 2) (by norm_num) (abs_pos.mpr hq)
  -- The last place is `52` binary digits below the leading one, or at the very bottom.
  have hulp : (2 : ℚ) ^ ulpExponent q ≤ |q| / 2 ^ 52 + 1 / 2 ^ 1074 := by
    rcases max_choice (Int.log 2 |q| - 52) (-1074) with h | h
    · have : (2 : ℚ) ^ ulpExponent q = 2 ^ Int.log 2 |q| / 2 ^ 52 := by
        rw [ulpExponent, h, zpow_sub₀ (by norm_num)]
        norm_cast
      rw [this]
      exact le_add_of_le_of_nonneg (div_le_div_of_nonneg_right hlog (by positivity))
        (by positivity)
    · have : (2 : ℚ) ^ ulpExponent q = 1 / 2 ^ 1074 := by
        rw [ulpExponent, h, zpow_neg, one_div]
        norm_cast
      rw [this]
      exact le_add_of_nonneg_left (by positivity)
  calc |round64 q - q| ≤ 2 ^ ulpExponent q / 2 := herr
    _ ≤ (|q| / 2 ^ 52 + 1 / 2 ^ 1074) / 2 := div_le_div_of_nonneg_right hulp (by norm_num)
    _ = |q| / 2 ^ 53 + 1 / 2 ^ 1075 := by
        rw [add_div, div_div, div_div, ← pow_succ, ← pow_succ]

/-- The error of a number up to a million is far below what three decimals show. -/
theorem abs_round64_sub_lt (h : |q| ≤ 2 ^ 20) : |round64 q - q| < 1 / 2 ^ 30 := by
  have h2 : |q| / 2 ^ 53 ≤ 1 / 2 ^ 33 := by
    rw [div_le_div_iff₀ (by positivity) (by positivity)]
    norm_num at h ⊢
    linarith
  have h3 : (1 : ℚ) / 2 ^ 1075 ≤ 1 / 2 ^ 33 :=
    one_div_le_one_div_of_le (by positivity) (pow_le_pow_right₀ (by norm_num) (by norm_num))
  calc |round64 q - q| ≤ |q| / 2 ^ 53 + 1 / 2 ^ 1075 := abs_round64_sub_le q
    _ ≤ 1 / 2 ^ 33 + 1 / 2 ^ 33 := add_le_add h2 h3
    _ < 1 / 2 ^ 30 := by norm_num

/-! ## Reading -/

/-- What a text can spell. The sign of zero is not kept. -/
inductive Double
  | nan
  | inf (neg : Bool)
  | fin (q : ℚ)
  deriving DecidableEq

def scanSign : Text → Bool × Text
  | '-' :: s => (true, s)
  | '+' :: s => (false, s)
  | s => (false, s)

/-- Digits with a point among them: the number they spell, and what follows. -/
def scanMantissa (isDig : Char → Bool) (base : ℕ) (value : Text → ℕ) (s : Text) :
    Option (ℚ × Text) :=
  let whole := s.takeWhile isDig
  let (part, rest) := match s.dropWhile isDig with
    | '.' :: t => (t.takeWhile isDig, t.dropWhile isDig)
    | t => ([], t)
  if whole = [] ∧ part = [] then none
  else some (value (whole ++ part) / base ^ part.length, rest)

/-- The exponent after its mark, zero where there is none. -/
def scanExponent (mark : Char) : Text → ℤ
  | [] => 0
  | c :: s =>
    if c.toLower = mark then
      let (neg, s) := scanSign s
      let n : ℤ := Nat.ofDigitChars 10 (s.takeWhile Char.isDigit) 0
      if neg then -n else n
    else 0

def scanDecimal (s : Text) : Option ℚ :=
  (scanMantissa Char.isDigit 10 (fun ds => Nat.ofDigitChars 10 ds 0) s).map fun p =>
    p.1 * 10 ^ scanExponent 'e' p.2

def scanHexadecimal (s : Text) : Option ℚ :=
  (scanMantissa (fun c => (hexDigit c).isSome) 16
    (fun ds => ds.foldl (fun n c => n * 16 + (hexDigit c).getD 0) 0) s).map fun p =>
    p.1 * 2 ^ scanExponent 'p' p.2

/-- The number at the start of a text without a sign. A hexadecimal mark with no digit after it
leaves the zero it starts with. -/
def scanMagnitude : Text → Option ℚ
  | '0' :: x :: s =>
    if x.toLower = 'x' then (scanHexadecimal s).or (some 0) else scanDecimal ('0' :: x :: s)
  | s => scanDecimal s

/-- `std::stod`; nothing where it throws. A result too small for a normal number is one it
returns, unless it is zero. -/
def stod (s : Text) : Option Double :=
  let (neg, s) := scanSign (s.dropWhile isSpace)
  let lower := s.map Char.toLower
  if "nan".toList.isPrefixOf lower then some .nan
  else if "inf".toList.isPrefixOf lower then some (.inf neg)
  else match scanMagnitude s with
    | none => none
    | some q =>
      let r := round64 q
      if 2 ^ 1024 ≤ r ∨ (r = 0 ∧ q ≠ 0) then none else some (.fin (if neg then -r else r))

/-- `static_cast<int>`. Outside the range of `int` the language leaves the result open; the model
takes the least `int`, the conversion instruction's mark for it. -/
def castInt : Double → ℤ
  | .fin q =>
    let n := q.num.tdiv q.den
    if -2 ^ 31 ≤ n ∧ n < 2 ^ 31 then n else -2 ^ 31
  | _ => -2 ^ 31

/-! ## Printing -/

/-- The `%.kf` conversion. -/
def printFixed (k : ℕ) (q : ℚ) : Text :=
  let n := (roundEven (|q| * 10 ^ k)).toNat
  (if q < 0 then ['-'] else []) ++ showNat (n / 10 ^ k) ++
    (if k = 0 then [] else '.' :: (showNat (n % 10 ^ k)).leftpad k '0')

section Decimal

variable {w p : Text}

theorem toLower_of_isDigit {c : Char} (h : c.isDigit = true) : c.toLower = c := by
  rw [Char.isDigit, Bool.and_eq_true, decide_eq_true_iff, decide_eq_true_iff] at h
  rw [Char.toLower, dif_neg]
  intro hc
  have h1 : c.val ≤ 57 := h.2
  have h2 : (65 : UInt32) ≤ c.val := hc.1
  exact absurd (UInt32.le_trans h2 h1) (by decide)

theorem scanMantissa_decimal (hw : ∀ c ∈ w, c.isDigit = true) (h0 : w ≠ [])
    (hp : ∀ c ∈ p, c.isDigit = true) (v : Text → ℕ) :
    scanMantissa Char.isDigit 10 v (w ++ '.' :: p) =
      some ((v (w ++ p) : ℚ) / 10 ^ p.length, []) := by
  have h1 : (w ++ '.' :: p).takeWhile Char.isDigit = w := by
    rw [List.takeWhile_append_of_pos hw]; simp
  have h2 : (w ++ '.' :: p).dropWhile Char.isDigit = '.' :: p := by
    rw [List.dropWhile_append_of_pos hw]; simp
  have h3 : p.takeWhile Char.isDigit = p := List.takeWhile_eq_self_iff.mpr hp
  have h4 : p.dropWhile Char.isDigit = [] := List.dropWhile_eq_nil_iff.mpr hp
  simp [scanMantissa, h1, h2, h3, h4, h0]

theorem scanMantissa_whole (hw : ∀ c ∈ w, c.isDigit = true) (h0 : w ≠ []) (v : Text → ℕ) :
    scanMantissa Char.isDigit 10 v w = some ((v w : ℚ), []) := by
  have h1 : w.takeWhile Char.isDigit = w := List.takeWhile_eq_self_iff.mpr hw
  have h2 : w.dropWhile Char.isDigit = [] := List.dropWhile_eq_nil_iff.mpr hw
  simp [scanMantissa, h1, h2, h0]

/-- Reading a text of digits and points that starts with a digit. -/
theorem stod_of_scanDecimal {s : Text} {c : Char} (hc : c.isDigit = true)
    (hs : ∀ x ∈ s, x.isDigit = true ∨ x = '.') (hq : scanDecimal (c :: s) = some q)
    (h1 : 1 / 2 ^ 20 ≤ q) (h2 : q ≤ 2 ^ 20) : stod (c :: s) = some (.fin (round64 q)) := by
  have hq0 : 0 < q := lt_of_lt_of_le (by positivity) h1
  have hr := abs_lt.mp (abs_round64_sub_lt (q := q) (by rwa [abs_of_pos hq0]))
  have hbig : (2 : ℚ) ^ 21 ≤ 2 ^ 1024 := pow_le_pow_right₀ (by norm_num) (by norm_num)
  have hlt : ¬ (2 : ℚ) ^ 1024 ≤ round64 q := by
    intro h
    have : (2 : ℚ) ^ 21 ≤ round64 q := hbig.trans h
    norm_num at this hr h2
    linarith only [this, hr.2, h2]
  have hne : round64 q ≠ 0 := by
    intro h
    rw [h] at hr
    norm_num at hr h1
    linarith [hr.1]
  have hdrop : (c :: s).dropWhile isSpace = c :: s := by
    rw [List.dropWhile_cons, isSpace_of_isDigit hc]; rfl
  have hsign : scanSign (c :: s) = (false, c :: s) := by
    rw [scanSign]
    · rintro t h; cases h; exact absurd hc (by decide)
    · rintro t h; cases h; exact absurd hc (by decide)
  have hmag : scanMagnitude (c :: s) = some q := by
    rw [scanMagnitude.eq_def]
    split
    · next x t h =>
      obtain ⟨rfl, rfl⟩ := List.cons.inj h
      rw [if_neg, hq]
      rcases hs x List.mem_cons_self with hx | rfl
      · rw [toLower_of_isDigit hx]
        rintro rfl
        exact absurd hx (by decide)
      · decide
    · exact hq
  have hpre : ∀ (a : Char) (l : Text), a.isDigit = false →
      (a :: l).isPrefixOf ((c :: s).map Char.toLower) = false := by
    intro a l ha
    have : (a == c) = false := beq_false_of_ne fun e => by rw [e, hc] at ha; cases ha
    rw [List.map_cons, toLower_of_isDigit hc, List.isPrefixOf, this, Bool.false_and]
  simp only [stod, hdrop, hsign, hmag]
  rw [show "nan".toList = 'n' :: ['a', 'n'] from rfl, show "inf".toList = 'i' :: ['n', 'f'] from rfl,
    hpre _ _ (by decide), hpre _ _ (by decide)]
  simp [hlt, hne]

end Decimal

end Aes67
