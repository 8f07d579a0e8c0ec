import Mathlib

/-!
# The first to accept

The members of a list are tried in order until one accepts. A trial changes a state, accepted or not,
and the answers depend on it; some members are not to be tried at all.

* `Trials.First`: the member that accepts when its turn comes;
* `Trials.First.unique`: there is one at most.
-/

namespace Aes67.Trials

variable {σ α : Type} (skip : α → Prop) (accepts : σ → α → Prop) (after : σ → α → σ)

/-- `a` is the first that accepts, the trials before it having left their state behind. -/
inductive First : σ → List α → α → Prop
  | here {s : σ} {a : α} {l : List α} : ¬ skip a → accepts s a → First s (a :: l) a
  | skip {s : σ} {a b : α} {l : List α} : skip a → First s l b → First s (a :: l) b
  | next {s : σ} {a b : α} {l : List α} :
    ¬ skip a → ¬ accepts s a → First (after s a) l b → First s (a :: l) b

variable {skip accepts after} {s : σ} {l : List α} {a b : α}

theorem First.unique (h : First skip accepts after s l a) (h' : First skip accepts after s l b) :
    a = b := by
  induction h with
  | here hs ha =>
    cases h' with
    | here _ _ => rfl
    | skip hs' _ => exact absurd hs' hs
    | next _ ha' _ => exact absurd ha ha'
  | skip hs _ ih =>
    cases h' with
    | here hs' _ => exact absurd hs hs'
    | skip _ h' => exact ih h'
    | next hs' _ _ => exact absurd hs hs'
  | next hs ha _ ih =>
    cases h' with
    | here _ ha' => exact absurd ha' ha
    | skip hs' _ => exact absurd hs' hs
    | next _ _ h' => exact ih h'

end Aes67.Trials
