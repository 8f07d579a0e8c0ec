import Mathlib

/-!
# Refinement of a specification, and bounded queues

A machine whose steps may emit events refines a specification of event sequences when there is an
abstraction of its states under which every step is a stutter or a legal event.

* `emitted`: the events of a run; `History`: the event sequences a specification allows;
* **`history_emitted`**: the simulation rule, from one step to a run;
* `Fifo.Step`: a bounded queue; `Fifo.accepted`, `Fifo.returned`: what a history put in and took out;
* **`Fifo.accepted_eq`**: in a history of the queue what was accepted is what was returned, in order, and
  then what is left.
-/

namespace Aes67

/-! ## The simulation rule -/

section Refine

variable {σ ι ε τ : Type}

/-- The events of a run, in order. -/
def emitted (step : σ → ι → σ) (emit : σ → ι → Option ε) (s : σ) : List ι → List ε
  | [] => []
  | i :: l => (emit s i).toList ++ emitted step emit (step s i) l

/-- A history the specification allows, from one abstract state to another. -/
inductive History (spec : τ → ε → τ → Prop) : τ → List ε → τ → Prop
  | nil (t : τ) : History spec t [] t
  | cons {t u v : τ} {e : ε} {l : List ε} (h : spec t e u) (hl : History spec u l v) :
    History spec t (e :: l) v

variable {step : σ → ι → σ} {emit : σ → ι → Option ε} {P : τ → ε → τ → Prop} {f : σ → τ}
  {I : σ → Prop}

/-- **Simulation**: if every step from a state of the invariant keeps the invariant, and leaves the
abstract state alone when it is silent and takes it along an allowed event otherwise, every run is
an allowed history. -/
theorem history_emitted (hinv : ∀ s i, I s → I (step s i))
    (hsilent : ∀ s i, I s → emit s i = none → f (step s i) = f s)
    (hevent : ∀ s i e, I s → emit s i = some e → P (f s) e (f (step s i)))
    {s : σ} (h0 : I s) (l : List ι) :
    History P (f s) (emitted step emit s l) (f (l.foldl step s)) := by
  induction l generalizing s with
  | nil => exact .nil _
  | cons i l ih =>
    have hl := ih (hinv s i h0)
    rw [emitted, List.foldl_cons]
    cases he : emit s i with
    | none =>
      rw [hsilent s i h0 he] at hl
      exact hl
    | some e => exact .cons (hevent s i e h0 he) hl

end Refine

/-! ## Bounded queues -/

namespace Fifo

variable {α : Type}

/-- What passes between a queue and its clients. -/
inductive Event (α : Type)
  | accept (xs : List α)
  | give (xs : List α)

/-- A queue of at most `n` elements: it accepts what fits and gives from its front. -/
def Step (n : ℕ) (q : List α) : Event α → List α → Prop
  | .accept xs, q' => q.length + xs.length ≤ n ∧ q' = q ++ xs
  | .give xs, q' => q = xs ++ q'

/-- The elements a history put in. -/
def accepted : List (Event α) → List α
  | [] => []
  | .accept xs :: l => xs ++ accepted l
  | .give _ :: l => accepted l

/-- The elements a history took out. -/
def returned : List (Event α) → List α
  | [] => []
  | .accept _ :: l => returned l
  | .give xs :: l => xs ++ returned l

/-- **First in, first out**: what a history of the queue accepted is what it returned, in order, and
then what is left. -/
theorem accepted_eq {n : ℕ} {q q' : List α} {l : List (Event α)}
    (h : History (Step n) q l q') : q ++ accepted l = returned l ++ q' := by
  induction h with
  | nil q => simp [accepted, returned]
  | @cons q p q' e l he _ ih =>
    cases e with
    | accept xs =>
      obtain ⟨-, rfl⟩ := he
      rw [accepted, returned, ← List.append_assoc]
      exact ih
    | give xs =>
      obtain rfl : q = xs ++ p := he
      rw [accepted, returned, List.append_assoc, List.append_assoc, ih]

end Fifo

end Aes67
