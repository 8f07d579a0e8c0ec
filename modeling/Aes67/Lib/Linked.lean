import Mathlib

/-!
# Lists linked through a table

`next` says of every node which one follows it. A pointer to the first node and the links tell a
list; threads that share the table each change one link at a time.

* `Linked next p l`: following the links from `p` gives `l`;
* `Linked.unique`: they give one list only;
* `Linked.update`: a link changed off the list leaves it, `Linked.push`: a node linked to the first
  one and made the first, `Linked.pop`;
* `threadSum`: a number read off where each thread is, summed; **`threadSum_update`**: what the step of one
  thread does to the sum, `le_threadSum`, `add_le_threadSum`: what one or two of them have part in.
-/

namespace Aes67

section Linked

variable {ι : Type}

/-- Following the links from `p` gives the list. -/
def Linked (next : ι → Option ι) : Option ι → List ι → Prop
  | p, [] => p = none
  | p, i :: l => p = some i ∧ Linked next (next i) l

variable {next : ι → Option ι} {p : Option ι} {i : ι} {l l' : List ι}

theorem Linked.unique (h : Linked next p l) (h' : Linked next p l') : l = l' := by
  induction l generalizing p l' with
  | nil =>
    cases l' with
    | nil => rfl
    | cons j l' => cases h.symm.trans h'.1
  | cons i l ih =>
    cases l' with
    | nil => cases h'.symm.trans h.1
    | cons j l' =>
      obtain rfl : i = j := Option.some.inj (h.1.symm.trans h'.1)
      rw [ih h.2 h'.2]

theorem Linked.update [DecidableEq ι] (h : Linked next p l) (hi : i ∉ l) (q : Option ι) :
    Linked (Function.update next i q) p l := by
  induction l generalizing p with
  | nil => exact h
  | cons j l ih =>
    obtain ⟨hne, hl⟩ := List.ne_and_not_mem_of_not_mem_cons hi
    refine ⟨h.1, ?_⟩
    rw [Function.update_of_ne (Ne.symm hne)]
    exact ih h.2 hl

theorem Linked.push (h : Linked next p l) (hi : next i = p) : Linked next (some i) (i :: l) :=
  ⟨rfl, hi ▸ h⟩

theorem Linked.pop (h : Linked next (some i) l) : ∃ l', l = i :: l' ∧ Linked next (next i) l' := by
  cases l with
  | nil => cases h
  | cons j l' =>
    obtain rfl := Option.some.inj h.1
    exact ⟨l', rfl, h.2⟩

theorem Linked.mem_of_some (h : Linked next (some i) l) : i ∈ l := by
  obtain ⟨l', rfl, -⟩ := h.pop
  exact List.mem_cons_self

end Linked

section Tally

variable {τ α M : Type} [Fintype τ] [AddCommMonoid M]

/-- The sum of what `f` reads off where each thread is. -/
def threadSum (f : α → M) (pc : τ → α) : M := ∑ t, f (pc t)

theorem threadSum_update [DecidableEq τ] (f : α → M) (pc : τ → α) (t : τ) (c : α) :
    threadSum f (Function.update pc t c) + f (pc t) = threadSum f pc + f c := by
  have hcomp : ∀ u, f (Function.update pc t c u) = Function.update (f ∘ pc) t (f c) u := by
    intro u
    rw [← Function.comp_update]
    rfl
  have hsplit : threadSum f pc = f (pc t) + ∑ u ∈ Finset.univ \ {t}, f (pc u) :=
    (Finset.sum_eq_add_sum_sdiff_singleton_of_mem (Finset.mem_univ t) _)
  rw [hsplit, threadSum, Finset.sum_congr rfl fun u _ => hcomp u,
    Finset.sum_update_of_mem (Finset.mem_univ t)]
  simp only [Function.comp_apply]
  abel

theorem le_threadSum (f : α → ℕ) (pc : τ → α) (t : τ) : f (pc t) ≤ threadSum f pc :=
  Finset.single_le_sum (f := fun u => f (pc u)) (fun _ _ => Nat.zero_le _) (Finset.mem_univ t)

theorem add_le_threadSum (f : α → ℕ) (pc : τ → α) {t u : τ} (h : t ≠ u) :
    f (pc t) + f (pc u) ≤ threadSum f pc :=
  Finset.add_le_sum (f := fun u => f (pc u)) (fun _ _ => Nat.zero_le _) (Finset.mem_univ t)
    (Finset.mem_univ u) h

end Tally

end Aes67
