import Mathlib.Data.List.Induction

/-!
# Since

What an input of a run brings about and others undo: it holds at the end of the run just when an input
brought it about and none behind it has undone it.

* `Since`: an input that meets `C` in its state, with none behind it that meets `U`;
* **`iff_since`**: what one step says of it, carried over a run.
-/

namespace Aes67

variable {σ ι : Type} {step : σ → ι → σ} {P I : σ → Prop} {C : σ → ι → Prop} {U V : ι → Prop} {s : σ}

/-- The run has an input that meets `C`, and none of those behind it meets `U`. -/
def Since (step : σ → ι → σ) (C : σ → ι → Prop) (U : ι → Prop) (s : σ) (l : List ι) : Prop :=
  ∃ before i after, l = before ++ i :: after ∧ C (before.foldl step s) i ∧ ∀ j ∈ after, ¬ U j

theorem since_concat (l : List ι) (i : ι) :
    Since step C U s (l ++ [i]) ↔ C (l.foldl step s) i ∨ Since step C U s l ∧ ¬ U i := by
  constructor
  · rintro ⟨before, j, after, hl, hc, hafter⟩
    rcases after.eq_nil_or_concat with rfl | ⟨after, k, rfl⟩
    · obtain ⟨rfl, hij⟩ := List.append_inj' hl rfl
      cases hij
      exact .inl hc
    · rw [List.concat_eq_append, ← List.cons_append, ← List.append_assoc] at hl
      obtain ⟨rfl, hik⟩ := List.append_inj' hl rfl
      cases hik
      rw [List.concat_eq_append] at hafter
      refine .inr ⟨⟨before, j, after, rfl, hc, fun x hx => ?_⟩, ?_⟩
      · exact hafter x (List.mem_append_left _ hx)
      · exact hafter i (List.mem_append_right _ List.mem_cons_self)
  · rintro (hc | ⟨⟨before, j, after, rfl, hc, hafter⟩, hi⟩)
    · exact ⟨l, i, [], rfl, hc, fun _ h => absurd h List.not_mem_nil⟩
    · refine ⟨before, j, after ++ [i], by simp, hc, fun x hx => ?_⟩
      rcases List.mem_append.mp hx with hx | hx
      · exact hafter x hx
      · exact List.mem_singleton.mp hx ▸ hi

/-- **What an input brings about and others undo**, over a run of valid inputs that keep an
invariant. -/
theorem iff_since (h0 : ¬ P s) (hI : I s) (hkeep : ∀ s i, I s → V i → I (step s i))
    (hstep : ∀ s i, I s → V i → (P (step s i) ↔ C s i ∨ P s ∧ ¬ U i)) {l : List ι}
    (hV : ∀ i ∈ l, V i) :
    P (l.foldl step s) ↔ Since step C U s l := by
  suffices h : I (l.foldl step s) ∧ (P (l.foldl step s) ↔ Since step C U s l) from h.2
  induction l using List.reverseRecOn with
  | nil =>
    refine ⟨hI, iff_of_false h0 ?_⟩
    rintro ⟨before, i, after, hl, -⟩
    exact absurd hl.symm (List.append_ne_nil_of_right_ne_nil _ (List.cons_ne_nil _ _))
  | append_singleton l i ih =>
    obtain ⟨hl, ih⟩ := ih fun j hj => hV j (List.mem_append_left _ hj)
    have hi : V i := hV i (List.mem_append_right _ List.mem_cons_self)
    rw [List.foldl_append, List.foldl_cons, List.foldl_nil, since_concat, ← ih]
    exact ⟨hkeep _ i hl hi, hstep _ i hl hi⟩

end Aes67
