import Mathlib
import Aes67.Lib.OrdMap
import Aes67.Lib.Run

/-!
# Tables that forget

A table of rows by key, fed with sightings: a sighting of an unknown key makes a row, one of a known
key refreshes it, and when the table is full a new row takes the place of the one seen least
recently. A sweep drops what has gone unseen too long.

* `Ageing`: the bounds of such a table and what a sighting makes of a row;
* `Ageing.record`, `Ageing.sweep`; `find?_evict`, `find?_record`, `find?_sweep`: what each leaves;
* `Ageing.watch`: the table beside the sightings of each key since its row was made;
* **`Ageing.keeps`**: what holds after every run of sightings and sweeps.
-/

namespace Aes67

/-! ## Entries -/

namespace OrdMap

variable {K R : Type} [LinearOrder K] {m : OrdMap K R} {k k' : K} {row : R}

/-- The entries whose rows stay. -/
def retain (keep : R → Bool) (m : OrdMap K R) : OrdMap K R :=
  ⟨m.entries.filter fun e => keep e.2, m.sorted.filter _⟩

theorem find?_retain {keep : R → Bool} :
    (m.retain keep).find? k = some row ↔ m.find? k = some row ∧ keep row = true := by
  rw [← mem_entries_iff, ← mem_entries_iff, retain, List.mem_filter]

theorem length_insertEntry (k : K) (v : R) (l : List (K × R)) :
    (insertEntry k v l).length ≤ l.length + 1 := by
  induction l with
  | nil => exact le_refl _
  | cons e l ih =>
    rw [insertEntry]
    split_ifs
    · exact le_refl _
    · rw [List.length_cons, List.length_cons]
      omega
    · rw [List.length_cons, List.length_cons]
      omega

/-- A row replaced takes no more room. -/
theorem length_insert_of_find? (h : m.find? k = some row) (v : R) :
    (m.insert k v).entries.length = m.entries.length := by
  have hkeys : (m.insert k v).keys.toFinset = m.keys.toFinset := by
    ext k'
    rw [List.mem_toFinset, List.mem_toFinset, mem_keys_iff, mem_keys_iff]
    constructor
    · rintro ⟨w, hw⟩
      rw [find?_insert] at hw
      split_ifs at hw with he
      · exact ⟨row, he ▸ h⟩
      · exact ⟨w, hw⟩
    · rintro ⟨w, hw⟩
      rw [find?_insert]
      split_ifs
      · exact ⟨v, rfl⟩
      · exact ⟨w, hw⟩
  have hcard := congrArg Finset.card hkeys
  rw [List.toFinset_card_of_nodup (keys_nodup _), List.toFinset_card_of_nodup (keys_nodup _)] at hcard
  simpa [keys] using hcard

theorem length_erase_of_find? (h : m.find? k = some row) :
    (m.erase k).entries.length < m.entries.length := by
  refine List.length_filter_lt_length_iff_exists.mpr ⟨(k, row), m.mem_entries_iff.mpr h, ?_⟩
  simp

end OrdMap

/-! ## Tables -/

/-- How a table of rows `R` by key `K` is kept from sightings `I`: how many rows it may have, how
long one may go unseen, and what a sighting makes of a row. A row counts its sightings, and takes
the first of them for the one that finds the count at zero. -/
structure Ageing (K R I : Type) where
  capacity : ℕ
  timeout : ℤ
  key : I → K
  seenAt : I → ℤ
  blank : R
  touch : I → R → R
  name : R → K
  firstSeen : R → ℤ
  lastSeen : R → ℤ
  count : R → UInt64
  capacity_pos : 0 < capacity
  count_blank : count blank = 0
  name_touch : ∀ i r, name (touch i r) = if count r = 0 then key i else name r
  firstSeen_touch : ∀ i r, firstSeen (touch i r) = if count r = 0 then seenAt i else firstSeen r
  lastSeen_touch : ∀ i r, lastSeen (touch i r) = seenAt i
  count_touch : ∀ i r, count (touch i r) = count r + 1

/-- What happens to a table. -/
inductive Watch (I : Type)
  | record (i : I)
  | sweep (now : ℤ)

namespace Ageing

variable {K R I : Type} [LinearOrder K] (p : Ageing K R I)

/-- The row seen least recently goes, the first of them in the table. -/
def evict (rows : OrdMap K R) : OrdMap K R :=
  match rows.entries.minOn? fun e => p.lastSeen e.2 with
  | some oldest => rows.erase oldest.1
  | none => rows

/-- Whether the sighting has to make room: its key is new and the table full. -/
def crowded (rows : OrdMap K R) (i : I) : Bool :=
  (rows.find? (p.key i)).isNone && rows.entries.length ≥ p.capacity

/-- One sighting. -/
def record (rows : OrdMap K R) (i : I) : OrdMap K R :=
  let rows := if p.crowded rows i then p.evict rows else rows
  rows.insert (p.key i) (p.touch i ((rows.find? (p.key i)).getD p.blank))

/-- The row has gone unseen too long. -/
def stale (now : ℤ) (row : R) : Bool := now - p.lastSeen row > p.timeout

def sweep (rows : OrdMap K R) (now : ℤ) : OrdMap K R := rows.retain fun row => !p.stale now row

def step (rows : OrdMap K R) : Watch I → OrdMap K R
  | .record i => p.record rows i
  | .sweep now => p.sweep rows now

/-- When it happens. -/
def moment : Watch I → ℤ
  | .record i => p.seenAt i
  | .sweep now => now

/-! ## One step -/

variable {p} {rows : OrdMap K R} {i : I} {k k' : K} {row row' : R}

/-- What an eviction takes from a table that has a row. -/
theorem evict_spec (h : rows.entries ≠ []) : ∃ k row, rows.find? k = some row ∧
    (∀ k' row', rows.find? k' = some row' → p.lastSeen row ≤ p.lastSeen row') ∧
    p.evict rows = rows.erase k := by
  refine ⟨(rows.entries.minOn (fun e => p.lastSeen e.2) h).1,
    (rows.entries.minOn (fun e => p.lastSeen e.2) h).2,
    (OrdMap.mem_entries_iff _).mp (List.minOn_mem), fun k' row' hrow => ?_, ?_⟩
  · exact List.apply_minOn_le_of_mem (f := fun e : K × R => p.lastSeen e.2)
      (rows.mem_entries_iff.mpr hrow)
  · rw [evict, List.minOn?_eq_some_minOn h]

theorem entries_ne_of_crowded (h : p.crowded rows i = true) : rows.entries ≠ [] := by
  have hlen : rows.entries.length ≥ p.capacity := by
    rw [crowded, Bool.and_eq_true] at h
    exact of_decide_eq_true h.2
  have hpos := p.capacity_pos
  exact List.ne_nil_of_length_pos (by omega)

theorem find?_of_crowded (h : p.crowded rows i = true) : rows.find? (p.key i) = none := by
  rw [crowded, Bool.and_eq_true, Option.isNone_iff_eq_none] at h
  exact h.1

/-- A sighting that has to make room. -/
theorem record_of_crowded (h : p.crowded rows i = true) :
    p.record rows i = (p.evict rows).insert (p.key i) (p.touch i p.blank) := by
  obtain ⟨k, row, -, -, he⟩ := evict_spec (p := p) (entries_ne_of_crowded h)
  have hnone : (p.evict rows).find? (p.key i) = none := by
    rw [he, OrdMap.find?_erase, find?_of_crowded h, ite_self]
  rw [record, if_pos h, hnone, Option.getD_none]

/-- **What a sighting leaves.** Its own key has the row refreshed; of the others one may be gone,
the least recently seen, where the key is new and the table full. -/
theorem find?_record : (p.record rows i).find? (p.key i) =
      some (p.touch i ((rows.find? (p.key i)).getD p.blank)) ∧
    ∀ k, k ≠ p.key i → (p.record rows i).find? k = rows.find? k ∨
      p.crowded rows i = true ∧ (p.record rows i).find? k = none ∧
        ∀ row, rows.find? k = some row →
          ∀ k' row', rows.find? k' = some row' → p.lastSeen row ≤ p.lastSeen row' := by
  rw [record]
  cases hc : p.crowded rows i with
  | false =>
    refine ⟨by simp, fun k hk => .inl ?_⟩
    rw [if_neg (by simp), OrdMap.find?_insert, if_neg hk]
  | true =>
    obtain ⟨old, oldRow, hold, hmin, he⟩ := evict_spec (p := p) (entries_ne_of_crowded hc)
    have hnone := find?_of_crowded hc
    simp only [if_true, he]
    refine ⟨?_, fun k hk => ?_⟩
    · rw [OrdMap.find?_insert_self, OrdMap.find?_erase, hnone, ite_self]
    · rw [OrdMap.find?_insert, if_neg hk, OrdMap.find?_erase]
      split_ifs with heq
      · refine .inr ⟨trivial, rfl, fun row hrow => ?_⟩
        subst heq
        cases hold.symm.trans hrow
        exact hmin
      · exact .inl rfl

/-- A sighting makes no row but its own. -/
theorem find?_of_record (hk : k ≠ p.key i) (h : (p.record rows i).find? k = some row) :
    rows.find? k = some row := by
  rcases find?_record.2 k hk with hsame | ⟨-, hgone, -⟩
  · exact hsame.symm.trans h
  · cases hgone.symm.trans h

theorem find?_sweep {now : ℤ} : (p.sweep rows now).find? k = some row ↔
    rows.find? k = some row ∧ ¬ now - p.lastSeen row > p.timeout := by
  rw [sweep, OrdMap.find?_retain, stale, Bool.not_eq_true', decide_eq_false_iff_not]

theorem length_record (h : rows.entries.length ≤ p.capacity) :
    (p.record rows i).entries.length ≤ p.capacity := by
  rw [record]
  cases hc : p.crowded rows i with
  | false =>
    rw [if_neg (by simp)]
    rcases hrow : rows.find? (p.key i) with _ | row
    · have hlen := OrdMap.length_insertEntry (p.key i) (p.touch i p.blank) rows.entries
      rw [crowded, hrow, Option.isNone_none, Bool.true_and, decide_eq_false_iff_not] at hc
      change (insertEntry _ _ _).length ≤ _
      rw [Option.getD_none]
      omega
    · rw [OrdMap.length_insert_of_find? hrow]
      exact h
  | true =>
    obtain ⟨old, oldRow, hold, -, he⟩ := evict_spec (p := p) (entries_ne_of_crowded hc)
    have hless := OrdMap.length_erase_of_find? hold
    simp only [if_true, he]
    refine (OrdMap.length_insertEntry _ _ _).trans ?_
    omega

theorem length_sweep {now : ℤ} : (p.sweep rows now).entries.length ≤ rows.entries.length :=
  List.length_filter_le _ _

/-! ## Histories -/

variable (p) in
/-- What a run of sightings makes of a row. -/
def made (l : List I) : R := l.foldl (fun row i => p.touch i row) p.blank

omit [LinearOrder K] in
theorem made_snoc (l : List I) (i : I) : p.made (l ++ [i]) = p.touch i (p.made l) := by
  rw [made, List.foldl_append]
  rfl

omit [LinearOrder K] in
theorem count_made (l : List I) : p.count (p.made l) = UInt64.ofNat l.length := by
  induction l using List.reverseRecOn with
  | nil => exact p.count_blank
  | append_singleton l i ih =>
    rw [made_snoc, p.count_touch, ih, List.length_append, List.length_singleton, UInt64.ofNat_add]
    rfl

omit [LinearOrder K] in
theorem lastSeen_made {l : List I} (h : l ≠ []) :
    p.lastSeen (p.made l) = p.seenAt (l.getLast h) := by
  induction l using List.reverseRecOn with
  | nil => exact absurd rfl h
  | append_singleton l i ih => rw [made_snoc, p.lastSeen_touch, List.getLast_append_singleton]

omit [LinearOrder K] in
theorem name_made {l : List I} (h : l ≠ []) (hk : ∀ i ∈ l, p.key i = k) : p.name (p.made l) = k := by
  induction l using List.reverseRecOn with
  | nil => exact absurd rfl h
  | append_singleton l i ih =>
    rw [made_snoc, p.name_touch]
    split_ifs with hcount
    · exact hk i (List.mem_append_right _ (List.mem_singleton_self i))
    · rcases l with _ | ⟨j, l⟩
      · exact absurd p.count_blank hcount
      · exact ih (List.cons_ne_nil j l) fun i hi => hk i (List.mem_append_left _ hi)

omit [LinearOrder K] in
/-- As long as the counter does not come round, no later sighting is taken for the first. -/
theorem firstSeen_made {l : List I} (h : l ≠ []) (hlen : l.length ≤ 2 ^ 64) :
    p.firstSeen (p.made l) = p.seenAt (l.head h) := by
  induction l using List.reverseRecOn with
  | nil => exact absurd rfl h
  | append_singleton l i ih =>
    rw [made_snoc, p.firstSeen_touch, count_made]
    rcases l with _ | ⟨j, l⟩
    · rfl
    · rw [List.length_append, List.length_singleton] at hlen
      have hcount : UInt64.ofNat (j :: l).length ≠ 0 := by
        intro he
        have hnat := congrArg UInt64.toNat he
        rw [UInt64.toNat_ofNat_of_lt' (by rw [UInt64.size]; omega)] at hnat
        exact absurd hnat (Nat.succ_ne_zero _)
      rw [if_neg hcount, ih (List.cons_ne_nil j l) (by omega)]
      rfl

/-- The table beside the sightings of each key since its row was made. -/
structure Watched (K R I : Type) [LinearOrder K] where
  rows : OrdMap K R := .empty
  log : K → List I := fun _ => []

variable (p) in
def watch (s : Watched K R I) (op : Watch I) : Watched K R I where
  rows := p.step s.rows op
  log := match op with
    | .record i => Function.update s.log (p.key i)
        ((if (s.rows.find? (p.key i)).isSome then s.log (p.key i) else []) ++ [i])
    | .sweep _ => s.log

variable (p) in
/-- What holds of the table after any run. -/
structure Holds (s : Watched K R I) : Prop where
  size : s.rows.entries.length ≤ p.capacity
  row : ∀ k row, s.rows.find? k = some row →
    s.log k ≠ [] ∧ (∀ i ∈ s.log k, p.key i = k) ∧ row = p.made (s.log k)

variable {s : Watched K R I}

theorem log_record : (p.watch s (.record i)).log k = if k = p.key i then
    (if (s.rows.find? (p.key i)).isSome then s.log (p.key i) else []) ++ [i] else s.log k := by
  rw [watch]
  by_cases he : k = p.key i
  · rw [if_pos he, he]
    exact Function.update_self ..
  · rw [if_neg he]
    exact Function.update_of_ne he ..

theorem holds_start : p.Holds ({} : Watched K R I) :=
  ⟨Nat.zero_le _, fun _ _ h => by cases h⟩

theorem holds_watch (h : p.Holds s) (op : Watch I) : p.Holds (p.watch s op) := by
  cases op with
  | sweep now =>
    exact ⟨length_sweep.trans h.size, fun k row hk => h.row k row (find?_sweep.mp hk).1⟩
  | record i =>
    refine ⟨length_record h.size, fun k row hk => ?_⟩
    have hself := (@find?_record _ _ _ _ p s.rows i).1
    change (p.record s.rows i).find? k = some row at hk
    rw [log_record]
    by_cases he : k = p.key i
    · subst he
      rw [hself, Option.some.injEq] at hk
      rw [if_pos rfl]
      refine ⟨by simp, fun j hj => ?_, ?_⟩
      · rcases List.mem_append.mp hj with hj | hj
        · split_ifs at hj with hsome
          · obtain ⟨old, hold⟩ := Option.isSome_iff_exists.mp hsome
            exact (h.row _ _ hold).2.1 j hj
          · cases hj
        · rw [List.mem_singleton.mp hj]
      · rw [made_snoc, ← hk]
        congr 1
        rcases hrow : s.rows.find? (p.key i) with _ | old
        · rfl
        · exact (h.row _ _ hrow).2.2
    · rw [if_neg he]
      exact h.row k row (find?_of_record he hk)

theorem holds_run (ops : List (Watch I)) : p.Holds (ops.foldl p.watch {}) := by
  have h : Always p.watch p.Holds {} ops :=
    always_of_step (fun _ op h => holds_watch h op) holds_start
  exact h.run

/-- No row is seen later than the latest of the run. -/
theorem lastSeen_le {ops : List (Watch I)} {now : ℤ} (h : ∀ op ∈ ops, p.moment op ≤ now)
    (hk : (ops.foldl p.watch {}).rows.find? k = some row) : p.lastSeen row ≤ now := by
  have hstep : ∀ (s : Watched K R I) op,
      (∀ k row, s.rows.find? k = some row → p.lastSeen row ≤ now) → p.moment op ≤ now →
      ∀ k row, (p.watch s op).rows.find? k = some row → p.lastSeen row ≤ now := by
    intro s op hs hm k row hk
    cases op with
    | sweep now => exact hs k row (find?_sweep.mp hk).1
    | record i =>
      have hself := (@find?_record _ _ _ _ p s.rows i).1
      change (p.record s.rows i).find? k = some row at hk
      by_cases he : k = p.key i
      · subst he
        rw [hself, Option.some.injEq] at hk
        rw [← hk, p.lastSeen_touch]
        exact hm
      · exact hs k row (find?_of_record he hk)
  exact (always_of_along hstep (fun _ _ h => by cases h) (along_of_mem fun _ => h)).run k row hk

/-! ## Runs -/

variable (p) in
/-- The row is what its sightings make it; its first sighting and their number are told while the
counter has not come round. -/
def Told (row : R) (l : List I) : Prop :=
  ∃ h : l ≠ [], row = p.made l ∧ p.lastSeen row = p.seenAt (l.getLast h) ∧
    p.count row = UInt64.ofNat l.length ∧
    (l.length < 2 ^ 64 → p.firstSeen row = p.seenAt (l.head h) ∧ (p.count row).toNat = l.length)

variable (p) in
/-- How a table is kept through one step. -/
structure Keeps (s : Watched K R I) (op : Watch I) : Prop where
  size : (p.watch s op).rows.entries.length ≤ p.capacity
  single : (p.watch s op).rows.keys.Nodup
  present : ∀ i, op = .record i → ∃ row, (p.watch s op).rows.find? (p.key i) = some row
  /-- Nobody is evicted but to make room, and nobody seen later than a row that stays. -/
  evicted : ∀ i, op = .record i → ∀ k row, s.rows.find? k = some row →
    (p.watch s op).rows.find? k = none → s.rows.find? (p.key i) = none ∧
      s.rows.entries.length = p.capacity ∧ ∀ k' row', (p.watch s op).rows.find? k' = some row' →
        p.lastSeen row ≤ p.lastSeen row'
  others : ∀ i, op = .record i → ∀ k row, k ≠ p.key i →
    (p.watch s op).rows.find? k = some row → s.rows.find? k = some row
  swept : ∀ now, op = .sweep now → ∀ k row, (p.watch s op).rows.find? k = some row ↔
    s.rows.find? k = some row ∧ ¬ now - p.lastSeen row > p.timeout
  told : ∀ k row, (p.watch s op).rows.find? k = some row →
    p.name row = k ∧ p.Told row ((p.watch s op).log k)

omit [LinearOrder K] in
theorem told_made {l : List I} (h : l ≠ []) : p.Told (p.made l) l := by
  refine ⟨h, rfl, lastSeen_made h, count_made l, fun hlen => ⟨firstSeen_made h hlen.le, ?_⟩⟩
  rw [count_made, UInt64.toNat_ofNat_of_lt' (by rw [UInt64.size]; omega)]

/-- **How a table is kept**, whatever has been seen and swept before, in order of time. -/
theorem keeps (ops : List (Watch I)) (op : Watch I)
    (hsorted : (ops ++ [op]).Pairwise fun a b => p.moment a ≤ p.moment b) :
    p.Keeps (ops.foldl p.watch {}) op := by
  have hs := holds_run (p := p) ops
  have hbefore : ∀ a ∈ ops, p.moment a ≤ p.moment op := fun a ha =>
    (List.pairwise_append.mp hsorted).2.2 a ha op (List.mem_singleton_self op)
  have hseen := fun k row => @lastSeen_le _ _ _ _ p k row _ _ hbefore
  generalize ops.foldl p.watch {} = s at hs hseen
  have hnext := holds_watch hs op
  refine ⟨hnext.size, OrdMap.keys_nodup _, ?_, ?_, ?_, ?_, fun k row hk => ?_⟩
  · rintro i rfl
    exact ⟨_, (find?_record (p := p)).1⟩
  · rintro i rfl k row hk hgone
    obtain ⟨hself, hothers⟩ := @find?_record _ _ _ _ p s.rows i
    have hne : k ≠ p.key i := by
      rintro rfl
      cases hself.symm.trans hgone
    rcases hothers k hne with hsame | ⟨hcrowded, -, hmin⟩
    · cases hk.symm.trans (hsame.symm.trans hgone)
    · have hfull : s.rows.entries.length ≥ p.capacity := by
        rw [crowded, Bool.and_eq_true] at hcrowded
        exact of_decide_eq_true hcrowded.2
      refine ⟨find?_of_crowded hcrowded, le_antisymm hs.size hfull, fun k' row' hk' => ?_⟩
      by_cases he : k' = p.key i
      · subst he
        have hrow := Option.some.inj (hself.symm.trans hk')
        rw [← hrow, p.lastSeen_touch]
        exact hseen k row hk
      · exact hmin row hk k' row' (find?_of_record he hk')
  · rintro i rfl k row he hk
    exact find?_of_record he hk
  · rintro now rfl k row
    exact find?_sweep
  · obtain ⟨hne, hkey, hmade⟩ := hnext.row k row hk
    exact ⟨hmade ▸ name_made hne hkey, hmade ▸ told_made hne⟩

/-- The same sighting again and again. -/
theorem log_replicate (i : I) (n : ℕ) :
    ((List.replicate (n + 1) (Watch.record i)).foldl p.watch {}).log (p.key i) =
      List.replicate (n + 1) i ∧
    ∃ row, ((List.replicate (n + 1) (Watch.record i)).foldl p.watch {}).rows.find? (p.key i) =
      some row := by
  induction n with
  | zero => exact ⟨log_record.trans (if_pos rfl), _, (find?_record (p := p)).1⟩
  | succ n ih =>
    obtain ⟨hlog, row, hrow⟩ := ih
    rw [List.replicate_succ' (n := n + 1), List.foldl_append, List.foldl_cons, List.foldl_nil]
    refine ⟨?_, _, (find?_record (p := p)).1⟩
    rw [log_record, if_pos rfl, hrow, Option.isSome_some, if_pos rfl, hlog,
      List.replicate_succ' (n := n + 1)]

end Ageing

end Aes67
