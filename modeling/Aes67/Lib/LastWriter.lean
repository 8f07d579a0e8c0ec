import Aes67.Lib.OrdMap

/-!
# The last writer of a key

Several writers, in order, each store a list of values in a map, and a later value replaces an
earlier one of the same key. What the map holds at a key is what the last writer that has the key
stored there last.

* `lastSome`: the last writer with an answer, with the answer;
* `lastSome_eq_some`, `lastSome_eq_none`: its characterisation over writers in increasing order;
* **`find?_foldl_writers`**: the map the writers leave.
-/

namespace Aes67

variable {α β γ κ : Type} [LinearOrder α] [LinearOrder κ]

/-- The last of the writers that answers, with its answer. -/
def lastSome (ids : List α) (g : α → Option β) : Option (α × β) :=
  ids.foldl (fun acc r => ((g r).map (r, ·)).or acc) none

omit [LinearOrder α] in
theorem foldl_lastSome (ids : List α) (g : α → Option β) (acc : Option (α × β)) :
    ids.foldl (fun acc r => ((g r).map (r, ·)).or acc) acc = (lastSome ids g).or acc := by
  induction ids generalizing acc with
  | nil => simp [lastSome]
  | cons r ids ih =>
    rw [lastSome, List.foldl_cons, List.foldl_cons, ih, ih, Option.or_none, Option.or_assoc]

omit [LinearOrder α] in
theorem lastSome_cons (r : α) (ids : List α) (g : α → Option β) :
    lastSome (r :: ids) g = (lastSome ids g).or ((g r).map (r, ·)) := by
  rw [lastSome, List.foldl_cons, foldl_lastSome, Option.or_none]

omit [LinearOrder α] in
theorem lastSome_eq_none {ids : List α} {g : α → Option β} :
    lastSome ids g = none ↔ ∀ r ∈ ids, g r = none := by
  induction ids with
  | nil => simp [lastSome]
  | cons r ids ih => rw [lastSome_cons, Option.or_eq_none_iff, ih]; simp [and_comm]

theorem lastSome_eq_some {ids : List α} (h : ids.Pairwise (· < ·)) {g : α → Option β} {r : α}
    {b : β} : lastSome ids g = some (r, b) ↔
      r ∈ ids ∧ g r = some b ∧ ∀ x ∈ ids, r < x → g x = none := by
  induction ids with
  | nil => simp [lastSome]
  | cons a ids ih =>
    obtain ⟨ha, ht⟩ := List.pairwise_cons.mp h
    rw [lastSome_cons, Option.or_eq_some_iff, ih ht, lastSome_eq_none]
    constructor
    · rintro (⟨h1, h2, h3⟩ | ⟨h1, h2⟩)
      · refine ⟨List.mem_cons_of_mem _ h1, h2, fun x hx hr => ?_⟩
        rcases List.mem_cons.mp hx with rfl | hx
        · exact absurd (hr.trans (ha r h1)) (lt_irrefl r)
        · exact h3 x hx hr
      · obtain ⟨b', hb, he⟩ := Option.map_eq_some_iff.mp h2
        cases he
        refine ⟨List.mem_cons_self, hb, fun x hx hr => ?_⟩
        rcases List.mem_cons.mp hx with rfl | hx
        · exact absurd hr (lt_irrefl _)
        · exact h1 x hx
    · rintro ⟨h1, h2, h3⟩
      rcases List.mem_cons.mp h1 with rfl | h1
      · exact Or.inr ⟨fun x hx => h3 x (List.mem_cons_of_mem _ hx) (ha x hx), by simp [h2]⟩
      · exact Or.inl ⟨h1, h2, fun x hx hr => h3 x (List.mem_cons_of_mem _ hx) hr⟩

/-- More answers change nothing where a later writer answers anyway. -/
theorem lastSome_of_later {ids : List α} (h : ids.Pairwise (· < ·)) {g g' : α → Option β}
    (hg : ∀ r ∈ ids, g' r = g r ∨ ∃ x ∈ ids, r < x ∧ g x ≠ none ∧ g' x = g x) :
    lastSome ids g' = lastSome ids g := by
  rcases hl : lastSome ids g' with _ | ⟨r, b⟩
  · refine (lastSome_eq_none.mpr fun r hr => ?_).symm
    have hn := lastSome_eq_none.mp hl
    rcases hg r hr with e | ⟨x, hx, -, h1, h2⟩
    · exact e ▸ hn r hr
    · exact absurd (h2 ▸ hn x hx) h1
  · obtain ⟨h1, h2, h3⟩ := (lastSome_eq_some h).mp hl
    refine ((lastSome_eq_some h).mpr ⟨h1, ?_, fun x hx hr => ?_⟩).symm
    · rcases hg r h1 with e | ⟨x, hx, hr, hn, he⟩
      · exact e ▸ h2
      · exact absurd (he ▸ h3 x hx hr) hn
    · rcases hg x hx with e | ⟨y, hy, hxy, hn, he⟩
      · exact e ▸ h3 x hx hr
      · exact absurd (he ▸ h3 y hy (hr.trans hxy)) hn

theorem find?_foldl_writer (f : List β) (key : β → κ) (val : β → γ) (m : OrdMap κ γ) (k : κ) :
    (f.foldl (fun m e => m.insert (key e) (val e)) m).find? k =
      ((f.filter fun e => key e = k).getLast?.map val).or (m.find? k) := by
  induction f generalizing m with
  | nil => simp
  | cons e f ih =>
    rw [List.foldl_cons, ih, OrdMap.find?_insert, List.filter_cons]
    by_cases hk : key e = k
    · rw [if_pos hk.symm, if_pos (by simpa using hk)]
      rcases hf : f.filter fun e => decide (key e = k) with _ | ⟨e', l⟩
      · simp
      · rw [List.getLast?_cons_cons]
        obtain ⟨x, hx⟩ : ∃ x, (e' :: l).getLast? = some x := by
          rw [List.getLast?_eq_getLast_of_ne_nil (by simp)]
          exact ⟨_, rfl⟩
        simp [hx]
    · rw [if_neg (Ne.symm hk), if_neg (by simpa using hk)]

omit [LinearOrder α] in
/-- **What a map holds after several writers.** -/
theorem find?_foldl_writers (ids : List α) (f : α → List β) (key : β → κ) (val : β → γ) (k : κ) :
    ((ids.flatMap fun r => (f r).map fun e => (r, e)).foldl
      (fun m e => m.insert (key e.2) (e.1, val e.2)) (OrdMap.empty : OrdMap κ (α × γ))).find? k =
      lastSome ids fun r => ((f r).filter fun e => key e = k).getLast?.map val := by
  suffices h : ∀ m : OrdMap κ (α × γ), ((ids.flatMap fun r => (f r).map fun e => (r, e)).foldl
      (fun m e => m.insert (key e.2) (e.1, val e.2)) m).find? k =
      (lastSome ids fun r => ((f r).filter fun e => key e = k).getLast?.map val).or (m.find? k) by
    rw [h, OrdMap.find?_empty, Option.or_none]
  induction ids with
  | nil => intro m; simp [lastSome]
  | cons r ids ih =>
    intro m
    have hr := find?_foldl_writer ((f r).map fun e => (r, e)) (fun e => key e.2)
      (fun e => (e.1, val e.2)) m k
    rw [List.flatMap_cons, List.foldl_append, ih, hr, lastSome_cons, Option.or_assoc,
      List.filter_map, List.getLast?_map, Option.map_map, Option.map_map]
    rfl

end Aes67
