import Mathlib

/-!
# A store at the far end of a link

Documents by key, kept by a server that is asked over requests any of which may fail. A client that
gets no answer does not know whether its request was carried out.

* `Fate`: what becomes of one request; `RemoteStore`, `post`, `delete`, `ask`;
* `Writes`, `Removes`: what a client's way of writing or removing one document has to do;
* `putAll`, `removeAll`, with `putAll_docs` and `removeAll_docs`: a whole list of them;
* `Exactly`: the store holds the documents of a list and no others;
* **`exactly_reconcile`**: after everything is written and the remembered rest is removed, the store
  holds exactly the new list where it held nothing that was neither remembered nor written.
-/

namespace Aes67

/-- What becomes of one request: it is carried out and answered, or carried out with the answer lost
on the way back, or lost on the way there, or turned down. -/
inductive Fate
  | served | unanswered | lost | refused
  deriving DecidableEq

namespace Fate

/-- The request is carried out. -/
def arrives : Fate → Bool
  | served | unanswered => true
  | lost | refused => false

/-- The status that comes back, if any does; a request turned down is answered 500. -/
def answer (status : ℕ) : Fate → Option ℕ
  | served => some status
  | unanswered | lost => none
  | refused => some 500

end Fate

/-- Documents by key, and what becomes of the requests to come. Those beyond the list are served. -/
structure RemoteStore (κ δ : Type) where
  docs : κ → Option δ := fun _ => none
  fates : List Fate := []

namespace RemoteStore

variable {κ δ : Type} [DecidableEq κ]

/-! ## One request -/

section Requests

variable (s : RemoteStore κ δ) (k : κ) (d : δ)

/-- A request that, carried out, leaves `docs` and is answered with `status`. -/
def request (docs : κ → Option δ) (status : ℕ) : RemoteStore κ δ × Option ℕ :=
  let fate := s.fates.headD .served
  (⟨if fate.arrives then docs else s.docs, s.fates.tail⟩, fate.answer status)

/-- POST: 201 for a new key and 200 for a known one, whose document is replaced or kept. -/
def post (replaces : Bool) : RemoteStore κ δ × Option ℕ :=
  if (s.docs k).isNone then s.request (Function.update s.docs k (some d)) 201
  else s.request (if replaces then Function.update s.docs k (some d) else s.docs) 200

/-- DELETE: 204 for a known key and 404 for any other. -/
def delete : RemoteStore κ δ × Option ℕ :=
  if (s.docs k).isNone then s.request s.docs 404
  else s.request (Function.update s.docs k none) 204

/-- A request after a key: 200 for a known one and 404 for any other. -/
def ask : RemoteStore κ δ × Option ℕ :=
  s.request s.docs (if (s.docs k).isNone then 404 else 200)

end Requests

variable {s : RemoteStore κ δ} {k k' : κ} {d : δ} {docs : κ → Option δ} {status : ℕ}
  {replaces : Bool}

omit [DecidableEq κ] in
theorem request_docs (s : RemoteStore κ δ) (docs : κ → Option δ) (status : ℕ) :
    (s.request docs status).1.docs = docs ∨ (s.request docs status).1.docs = s.docs := by
  rw [request]
  dsimp only
  split
  · exact Or.inl rfl
  · exact Or.inr rfl

omit [DecidableEq κ] in
/-- An answer that is no refusal is the answer to a request carried out. -/
theorem request_answered {n : ℕ} (h : (s.request docs status).2 = some n) (hn : n ≠ 500) :
    n = status ∧ (s.request docs status).1.docs = docs := by
  rw [request] at h ⊢
  dsimp only at h ⊢
  cases hf : s.fates.headD .served <;> rw [hf] at h <;> cases h
  · exact ⟨rfl, rfl⟩
  · exact absurd rfl hn

theorem post_frame (h : k' ≠ k) : (s.post k d replaces).1.docs k' = s.docs k' := by
  rw [post]
  split
  · rcases request_docs s (Function.update s.docs k (some d)) 201 with he | he <;> rw [he]
    exact Function.update_of_ne h _ _
  · rcases request_docs s (if replaces then Function.update s.docs k (some d) else s.docs) 200 with
      he | he <;> rw [he]
    split
    · exact Function.update_of_ne h _ _
    · rfl

/-- A document that is new is stored. -/
theorem post_created (h : (s.post k d replaces).2 = some 201) :
    (s.post k d replaces).1.docs = Function.update s.docs k (some d) := by
  rw [post] at h ⊢
  split at h
  · next hnone =>
    rw [if_pos hnone]
    exact (request_answered h (by decide)).2
  · exact absurd (request_answered h (by decide)).1 (by decide)

/-- Where known documents are replaced, whatever is accepted is stored. -/
theorem post_accepted (h : (s.post k d true).2 = some 200 ∨ (s.post k d true).2 = some 201) :
    (s.post k d true).1.docs = Function.update s.docs k (some d) := by
  rcases h with h | h
  · rw [post] at h ⊢
    split at h
    · exact absurd (request_answered h (by decide)).1 (by decide)
    · next hnone =>
      rw [if_neg hnone]
      exact (request_answered h (by decide)).2
  · exact post_created h

theorem delete_frame (h : k' ≠ k) : (s.delete k).1.docs k' = s.docs k' := by
  rw [delete]
  split
  · rcases request_docs s s.docs 404 with he | he <;> rw [he]
  · rcases request_docs s (Function.update s.docs k none) 204 with he | he <;> rw [he]
    exact Function.update_of_ne h _ _

/-- What is answered as deleted, or as never there, is gone. -/
theorem delete_gone (h : (s.delete k).2 = some 204 ∨ (s.delete k).2 = some 404) :
    (s.delete k).1.docs k = none := by
  rw [delete] at h ⊢
  split at h
  · next hnone =>
    rw [if_pos hnone]
    rcases request_docs s s.docs 404 with he | he <;> rw [he]
    · exact Option.isNone_iff_eq_none.mp hnone
    · exact Option.isNone_iff_eq_none.mp hnone
  · next hnone =>
    rw [if_neg hnone]
    have hgo : (s.request (Function.update s.docs k none) 204).1.docs =
        Function.update s.docs k none := by
      rcases h with h | h
      · exact (request_answered h (by decide)).2
      · exact (request_answered h (by decide)).2
    rw [hgo, Function.update_self]

omit [DecidableEq κ] in
theorem ask_docs : (s.ask k).1.docs = s.docs := by
  rw [ask]
  rcases request_docs s s.docs (if (s.docs k).isNone then 404 else 200) with he | he <;> rw [he]

omit [DecidableEq κ] in
theorem ask_known (h : (s.ask k).2 = some 200) : ∃ d, s.docs k = some d := by
  rw [ask] at h
  have hstatus := (request_answered h (by decide)).1
  cases hd : s.docs k with
  | none => simp [hd] at hstatus
  | some d => exact ⟨d, rfl⟩

omit [DecidableEq κ] in
theorem ask_unknown (h : (s.ask k).2 = some 404) : s.docs k = none := by
  rw [ask] at h
  have hstatus := (request_answered h (by decide)).1
  cases hd : s.docs k with
  | none => rfl
  | some d => simp [hd] at hstatus

/-! ## Lists of requests -/

/-- A way to write one document: it touches its own key alone, and where it reports success the
document is there. -/
structure Writes (put : RemoteStore κ δ → κ → δ → RemoteStore κ δ × Bool) : Prop where
  frame : ∀ {s k d k'}, k' ≠ k → (put s k d).1.docs k' = s.docs k'
  stored : ∀ {s k d}, (put s k d).2 = true → (put s k d).1.docs k = some d

/-- A way to remove one document. -/
structure Removes (remove : RemoteStore κ δ → κ → RemoteStore κ δ × Bool) : Prop where
  frame : ∀ {s k k'}, k' ≠ k → (remove s k).1.docs k' = s.docs k'
  gone : ∀ {s k}, (remove s k).2 = true → (remove s k).1.docs k = none

section Lists

variable (put : RemoteStore κ δ → κ → δ → RemoteStore κ δ × Bool)
  (remove : RemoteStore κ δ → κ → RemoteStore κ δ × Bool)

/-- Write one document after another, stopping at the first that fails or going on. -/
def putAll (stops : Bool) : RemoteStore κ δ → List (κ × δ) → RemoteStore κ δ × Bool
  | s, [] => (s, true)
  | s, e :: l =>
    let (s, ok) := put s e.1 e.2
    if stops && !ok then (s, false)
    else
      let (s, all) := putAll stops s l
      (s, ok && all)

/-- Remove one document after another. -/
def removeAll : RemoteStore κ δ → List κ → RemoteStore κ δ × Bool
  | s, [] => (s, true)
  | s, k :: l =>
    let (s, ok) := remove s k
    let (s, all) := removeAll s l
    (s, ok && all)

end Lists

variable {put : RemoteStore κ δ → κ → δ → RemoteStore κ δ × Bool}
  {remove : RemoteStore κ δ → κ → RemoteStore κ δ × Bool} {stops : Bool} {l : List (κ × δ)}
  {ks : List κ}

omit [DecidableEq κ] in
/-- What is not in the list is left alone. -/
theorem putAll_frame (hput : Writes put) (h : ∀ e ∈ l, k ≠ e.1) :
    (putAll put stops s l).1.docs k = s.docs k := by
  induction l generalizing s with
  | nil => rfl
  | cons e l ih =>
    obtain ⟨he, hl⟩ := List.forall_mem_cons.mp h
    rw [putAll]
    dsimp only
    split
    · exact hput.frame he
    · exact (ih hl).trans (hput.frame he)

/-- **A list written without a failure** is there, where no key stands for two documents. -/
theorem putAll_docs (hput : Writes put) (h : (putAll put stops s l).2 = true)
    (hl : ∀ e ∈ l, ∀ e' ∈ l, e.1 = e'.1 → e.2 = e'.2) {e : κ × δ} (he : e ∈ l) :
    (putAll put stops s l).1.docs e.1 = some e.2 := by
  induction l generalizing s e with
  | nil => cases he
  | cons a l ih =>
    rw [putAll] at h ⊢
    dsimp only at h ⊢
    split at h
    · cases h
    · next hgo =>
      rw [if_neg hgo]
      obtain ⟨hok, hall⟩ := Bool.and_eq_true_iff.mp h
      by_cases hmem : ∃ e' ∈ l, e'.1 = e.1
      · obtain ⟨e', he', hk⟩ := hmem
        have hd := hl e' (List.mem_cons_of_mem _ he') e he hk
        rw [← hk, ← hd]
        exact ih hall (fun b hb c hc => hl b (List.mem_cons_of_mem _ hb) c
          (List.mem_cons_of_mem _ hc)) he'
      · rcases List.mem_cons.mp he with rfl | he
        · refine (putAll_frame hput fun e' he' hk => hmem ⟨e', he', hk.symm⟩).trans ?_
          exact hput.stored hok
        · exact absurd ⟨e, he, rfl⟩ hmem

omit [DecidableEq κ] in
theorem removeAll_frame (hremove : Removes remove) (h : k ∉ ks) :
    (removeAll remove s ks).1.docs k = s.docs k := by
  induction ks generalizing s with
  | nil => rfl
  | cons a ks ih =>
    obtain ⟨ha, hks⟩ := List.ne_and_not_mem_of_not_mem_cons h
    exact (ih hks).trans (hremove.frame ha)

/-- **A list removed without a failure** is gone. -/
theorem removeAll_docs (hremove : Removes remove) (h : (removeAll remove s ks).2 = true)
    (hk : k ∈ ks) : (removeAll remove s ks).1.docs k = none := by
  induction ks generalizing s with
  | nil => cases hk
  | cons a ks ih =>
    rw [removeAll] at h ⊢
    dsimp only at h ⊢
    obtain ⟨hok, hall⟩ := Bool.and_eq_true_iff.mp h
    by_cases hmem : k ∈ ks
    · exact ih hall hmem
    · obtain rfl := (List.mem_cons.mp hk).resolve_right hmem
      exact (removeAll_frame hremove hmem).trans (hremove.gone hok)

/-! ## Reconciliation -/

/-- The store holds the documents of a list and no others. -/
structure Exactly (docs : κ → Option δ) (l : List (κ × δ)) : Prop where
  held : ∀ e ∈ l, docs e.1 = some e.2
  only : ∀ k, (∀ e ∈ l, k ≠ e.1) → docs k = none

/-- **Reconciliation**: everything is written and what was remembered besides is removed, without a
failure. Then the store holds exactly what was written where it held nothing before that was neither
remembered nor written. -/
theorem exactly_reconcile (hput : Writes put) (hremove : Removes remove) {previous : List κ}
    (hl : ∀ e ∈ l, ∀ e' ∈ l, e.1 = e'.1 → e.2 = e'.2)
    (hks : ∀ k, k ∈ ks ↔ k ∈ previous ∧ ∀ e ∈ l, k ≠ e.1)
    (hwritten : (putAll put stops s l).2 = true)
    (hremoved : (removeAll remove (putAll put stops s l).1 ks).2 = true) :
    Exactly (removeAll remove (putAll put stops s l).1 ks).1.docs l ↔
      ∀ k, k ∉ previous → (∀ e ∈ l, k ≠ e.1) → s.docs k = none := by
  have hout : ∀ k, k ∉ previous → (∀ e ∈ l, k ≠ e.1) →
      (removeAll remove (putAll put stops s l).1 ks).1.docs k = s.docs k := fun k hk hne =>
    (removeAll_frame hremove fun h => hk ((hks k).mp h).1).trans (putAll_frame hput hne)
  refine ⟨fun h k hk hne => (hout k hk hne).symm.trans (h.only k hne), fun h => ⟨fun e he => ?_,
    fun k hne => ?_⟩⟩
  · have hnot : e.1 ∉ ks := fun hk => ((hks e.1).mp hk).2 e he rfl
    exact (removeAll_frame hremove hnot).trans (putAll_docs hput hwritten hl he)
  · by_cases hk : k ∈ previous
    · exact removeAll_docs hremove hremoved ((hks k).mpr ⟨hk, hne⟩)
    · exact (hout k hk hne).trans (h k hk hne)

end RemoteStore

end Aes67
