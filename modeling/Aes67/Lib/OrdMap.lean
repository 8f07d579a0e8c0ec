import Mathlib

/-!
# Ordered maps

A finite map kept as its entries in strictly increasing key order, the way a `std::map` is
iterated. Lookups are `List.lookup`; the order of the entries is a field of the structure, so two
maps with the same lookups are equal (**`OrdMap.ext_find?`**).

* `insertEntry`: the sorted insertion on bare entry lists, for types that nest themselves;
* `OrdMap.find?_insert`, `OrdMap.find?_erase`: what each update does to each key;
* `OrdMap.mem_entries_iff`: an entry is listed exactly when its key is found with its value.
-/

namespace Aes67

variable {α β γ : Type} [LinearOrder α]

/-! ## Entry lists -/

/-- Insert an entry in key order, replacing the entry of the same key. -/
def insertEntry (k : α) (v : β) : List (α × β) → List (α × β)
  | [] => [(k, v)]
  | (a, b) :: l =>
    if k < a then (k, v) :: (a, b) :: l
    else if k = a then (k, v) :: l
    else (a, b) :: insertEntry k v l

/-- The value stored at `k` in an entry list. -/
def lookupEntry (k : α) (l : List (α × β)) : Option β := l.lookup k

/-- The entries stand in strictly increasing key order. -/
def KeySorted (l : List (α × β)) : Prop := l.Pairwise fun a b => a.1 < b.1

theorem lookup_cons_ite (k a : α) (b : β) (l : List (α × β)) :
    ((a, b) :: l).lookup k = if k = a then some b else l.lookup k := by
  rw [List.lookup_cons]
  by_cases h : k = a
  · simp [h]
  · rw [if_neg h, beq_false_of_ne h]

theorem lookup_insertEntry (k k' : α) (v : β) (l : List (α × β)) :
    (insertEntry k v l).lookup k' = if k' = k then some v else l.lookup k' := by
  induction l with
  | nil => rw [insertEntry, lookup_cons_ite]
  | cons e l ih =>
    obtain ⟨a, b⟩ := e
    rw [insertEntry]
    split_ifs with h1 h2 h3 h4 <;> simp_all [lookup_cons_ite]

theorem mem_insertEntry {k : α} {v : β} {l : List (α × β)} {e : α × β}
    (h : e ∈ insertEntry k v l) : e = (k, v) ∨ e ∈ l := by
  induction l with
  | nil => left; simpa [insertEntry] using h
  | cons f l ih =>
    obtain ⟨a, b⟩ := f
    rw [insertEntry] at h
    split_ifs at h with h1 h2
    · simpa using h
    · rcases List.mem_cons.mp h with h | h
      · exact Or.inl h
      · exact Or.inr (List.mem_cons_of_mem _ h)
    · rcases List.mem_cons.mp h with h | h
      · exact Or.inr (h ▸ List.mem_cons_self)
      · exact (ih h).imp_right (List.mem_cons_of_mem _)

theorem KeySorted.insertEntry {l : List (α × β)} (h : KeySorted l) (k : α) (v : β) :
    KeySorted (insertEntry k v l) := by
  induction l with
  | nil => simp [Aes67.insertEntry, KeySorted]
  | cons e l ih =>
    obtain ⟨a, b⟩ := e
    obtain ⟨h0, hl⟩ := List.pairwise_cons.mp h
    rw [Aes67.insertEntry]
    split_ifs with h1 h2
    · refine List.pairwise_cons.mpr ⟨fun e he => ?_, h⟩
      rcases List.mem_cons.mp he with rfl | he
      · exact h1
      · exact h1.trans (h0 e he)
    · subst h2
      exact List.pairwise_cons.mpr ⟨h0, hl⟩
    · refine List.pairwise_cons.mpr ⟨fun e he => ?_, ih hl⟩
      rcases mem_insertEntry he with rfl | he
      · exact lt_of_le_of_ne (not_lt.mp h1) (Ne.symm h2)
      · exact h0 e he

theorem KeySorted.lookup_eq_some {l : List (α × β)} (h : KeySorted l) {k : α} {v : β} :
    l.lookup k = some v ↔ (k, v) ∈ l := by
  induction l with
  | nil => simp
  | cons e l ih =>
    obtain ⟨a, b⟩ := e
    obtain ⟨h0, hl⟩ := List.pairwise_cons.mp h
    rw [lookup_cons_ite]
    by_cases hk : k = a
    · subst hk
      have hn : (k, v) ∉ l := fun hm => lt_irrefl k (h0 (k, v) hm)
      simp [hn, eq_comm]
    · simp [hk, ih hl]

/-- **Key-sorted entry lists with the same lookups are equal.** -/
theorem KeySorted.ext {l m : List (α × β)} (hl : KeySorted l) (hm : KeySorted m)
    (h : ∀ k, l.lookup k = m.lookup k) : l = m := by
  have mem : ∀ e, e ∈ l ↔ e ∈ m := fun e => by
    rw [show e = (e.1, e.2) from rfl, ← hl.lookup_eq_some, ← hm.lookup_eq_some, h]
  have nodup : ∀ {l : List (α × β)}, KeySorted l → l.Nodup := fun hs =>
    List.Pairwise.imp (fun hab e => absurd (congrArg Prod.fst e) (ne_of_lt hab)) hs
  have perm := (List.perm_ext_iff_of_nodup (nodup hl) (nodup hm)).mpr mem
  exact perm.eq_of_pairwise (fun a b _ _ h1 h2 => absurd (h1.trans h2) (lt_irrefl _)) hl hm

/-! ## Maps -/

/-- A finite map as its entries in key order. -/
structure OrdMap (α β : Type) [LinearOrder α] where
  entries : List (α × β)
  sorted : KeySorted entries

namespace OrdMap

instance [DecidableEq β] : DecidableEq (OrdMap α β) := fun m n =>
  decidable_of_iff (m.entries = n.entries) ⟨fun h => by cases m; cases n; simpa using h, congrArg _⟩

/-- The empty map. -/
def empty : OrdMap α β := ⟨[], List.Pairwise.nil⟩

instance : Inhabited (OrdMap α β) := ⟨empty⟩

/-- The value stored at `k`. -/
def find? (m : OrdMap α β) (k : α) : Option β := m.entries.lookup k

/-- `m[k] = v`. -/
def insert (m : OrdMap α β) (k : α) (v : β) : OrdMap α β :=
  ⟨insertEntry k v m.entries, m.sorted.insertEntry k v⟩

/-- Drop the entry of `k`, if there is one. -/
def erase (m : OrdMap α β) (k : α) : OrdMap α β :=
  ⟨m.entries.filter fun e => e.1 ≠ k, m.sorted.filter _⟩

/-- The keys, in order. -/
def keys (m : OrdMap α β) : List α := m.entries.map Prod.fst

/-- The values, in key order. -/
def values (m : OrdMap α β) : List β := m.entries.map Prod.snd

/-- Each value changed in place, knowing its key. -/
def mapWithKey (f : α → β → γ) (m : OrdMap α β) : OrdMap α γ :=
  ⟨m.entries.map fun e => (e.1, f e.1 e.2), by rw [KeySorted, List.pairwise_map]; exact m.sorted⟩

/-- Each value changed in place. -/
def mapValues (f : β → γ) (m : OrdMap α β) : OrdMap α γ := m.mapWithKey fun _ => f

variable (m : OrdMap α β) (k k' : α) (v : β)

theorem ext_find? {m n : OrdMap α β} (h : ∀ k, m.find? k = n.find? k) : m = n := by
  have := m.sorted.ext n.sorted h
  cases m; cases n; simpa using this

@[simp] theorem find?_empty : (empty : OrdMap α β).find? k = none := rfl

theorem find?_insert : (m.insert k v).find? k' = if k' = k then some v else m.find? k' :=
  lookup_insertEntry k k' v m.entries

@[simp] theorem find?_insert_self : (m.insert k v).find? k = some v := by
  rw [find?_insert, if_pos rfl]

theorem insert_insert (w : β) : (m.insert k v).insert k w = m.insert k w := by
  refine ext_find? fun k' => ?_
  rw [find?_insert, find?_insert, find?_insert]
  split_ifs <;> rfl

/-- Storing what is stored. -/
theorem insert_of_find? {k : α} {v : β} (h : m.find? k = some v) : m.insert k v = m := by
  refine ext_find? fun k' => ?_
  rw [find?_insert]
  split_ifs with hk
  · rw [hk, h]
  · rfl

theorem mem_entries_iff {k : α} {v : β} : (k, v) ∈ m.entries ↔ m.find? k = some v :=
  m.sorted.lookup_eq_some.symm

theorem find?_mapWithKey (f : α → β → γ) : (m.mapWithKey f).find? k = (m.find? k).map (f k) := by
  obtain ⟨l, hl⟩ := m
  simp only [find?, mapWithKey]
  clear hl
  induction l with
  | nil => rfl
  | cons e l ih =>
    rw [List.map_cons, lookup_cons_ite, lookup_cons_ite, ih]
    split_ifs with h
    · rw [h]
      rfl
    · rfl

theorem find?_mapValues (f : β → γ) : (m.mapValues f).find? k = (m.find? k).map f :=
  m.find?_mapWithKey k fun _ => f

theorem find?_erase : (m.erase k).find? k' = if k' = k then none else m.find? k' := by
  ext v
  rw [← mem_entries_iff]
  by_cases h : k' = k <;> simp [erase, h, ← mem_entries_iff]

@[simp] theorem find?_erase_self : (m.erase k).find? k = none := by
  rw [find?_erase, if_pos rfl]

theorem insertEntry_last {l : List (α × β)} {k : α} (h : ∀ e ∈ l, e.1 < k) (v : β) :
    insertEntry k v l = l ++ [(k, v)] := by
  induction l with
  | nil => rfl
  | cons e l ih =>
    obtain ⟨a, b⟩ := e
    obtain ⟨hk, hl⟩ := List.forall_mem_cons.mp h
    rw [insertEntry, if_neg (lt_asymm hk), if_neg (ne_of_gt hk), ih hl]
    rfl

/-- What is stored behind all keys is listed last. -/
theorem entries_insert_last {m : OrdMap α β} {k : α} (h : ∀ e ∈ m.entries, e.1 < k) (v : β) :
    (m.insert k v).entries = m.entries ++ [(k, v)] :=
  insertEntry_last h v

theorem find?_foldl_insertEntry {l : List (α × β)} (hl : KeySorted l) (n : OrdMap α β) :
    (l.foldl (fun n e => n.insert e.1 e.2) n).find? k = (l.lookup k).or (n.find? k) := by
  induction l generalizing n with
  | nil => simp
  | cons e l ih =>
    obtain ⟨a, b⟩ := e
    obtain ⟨h0, ht⟩ := List.pairwise_cons.mp hl
    rw [List.foldl_cons, ih ht, find?_insert, lookup_cons_ite]
    by_cases hk : k = a
    · subst hk
      have : l.lookup k = none := by
        cases hv : l.lookup k with
        | none => rfl
        | some v => exact absurd (h0 (k, v) (KeySorted.lookup_eq_some ht |>.mp hv)) (lt_irrefl k)
      simp [this]
    · simp [hk]

/-- Inserting a map's entries into another one by one. -/
theorem find?_foldl_insert (n : OrdMap α β) :
    (m.entries.foldl (fun n e => n.insert e.1 e.2) n).find? k = (m.find? k).or (n.find? k) :=
  find?_foldl_insertEntry k m.sorted n

theorem mem_keys_iff {k : α} : k ∈ m.keys ↔ ∃ v, m.find? k = some v := by
  simp [keys, ← mem_entries_iff]

theorem keys_pairwise : m.keys.Pairwise (· < ·) :=
  List.pairwise_map.mpr m.sorted

theorem keys_nodup : m.keys.Nodup := m.keys_pairwise.imp ne_of_lt

end OrdMap

end Aes67
