import Mathlib

/-!
# Computations that succeed

What an `Except` computation comes to, as a rule for each way of putting two together. An error is
a step that must not happen, so `Total` says both that none does and what the result is like.

* `Total`, with `Total.bind`, `Total.pure` and `Total.mono`;
* `Yields`, with the same rules: what is known of a result, if there is one.
-/

namespace Aes67

variable {ε α β : Type}

/-- The computation succeeds, with a result that `Q` holds of. -/
def Total (x : Except ε α) (Q : α → Prop) : Prop := ∃ a, x = .ok a ∧ Q a

theorem ok_bind (a : α) (f : α → Except ε β) : (Except.ok a >>= f) = f a := rfl

namespace Total

variable {x : Except ε α} {f : α → Except ε β} {Q Q' : α → Prop} {R : β → Prop} {a : α}

theorem ok (h : Q a) : Total (.ok a : Except ε α) Q := ⟨a, rfl, h⟩

theorem pure (h : Q a) : Total (Pure.pure a : Except ε α) Q := ⟨a, rfl, h⟩

theorem mono (h : Total x Q) (hQ : ∀ a, Q a → Q' a) : Total x Q' := by
  obtain ⟨a, rfl, ha⟩ := h
  exact ⟨a, rfl, hQ a ha⟩

/-- One computation after another. -/
theorem bind (h : Total x Q) (hf : ∀ a, Q a → Total (f a) R) : Total (x >>= f) R := by
  obtain ⟨a, rfl, ha⟩ := h
  exact hf a ha

end Total

/-- If the computation succeeds, `Q` holds of its result. -/
def Yields (x : Except ε α) (Q : α → Prop) : Prop := ∀ a, x = .ok a → Q a

namespace Yields

variable {x : Except ε α} {f : α → Except ε β} {Q Q' : α → Prop} {R : β → Prop} {a : α} {e : ε}

theorem ok (h : Q a) : Yields (.ok a : Except ε α) Q := by
  rintro b hb
  cases hb
  exact h

theorem pure (h : Q a) : Yields (Pure.pure a : Except ε α) Q := ok h

theorem error : Yields (.error e : Except ε α) Q := nofun

theorem mono (h : Yields x Q) (hQ : ∀ a, Q a → Q' a) : Yields x Q' := fun a ha => hQ a (h a ha)

/-- One computation after another. -/
theorem bind (h : Yields x Q) (hf : ∀ a, Q a → Yields (f a) R) : Yields (x >>= f) R := by
  cases x with
  | error e => exact error
  | ok a => exact hf a (h a rfl)

end Yields

end Aes67
