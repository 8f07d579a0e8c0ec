import Mathlib

/-!
# Lanes

Queues side by side. A writer takes a block round all the lanes, one after another, and each takes
what it has room for; a reader takes from them in the same way, one after another, and pads what is
missing. The two go round independently of one another.

* `Pass`: a round of one of the two; `Pass.Fair`: of a set of lanes it passes all or none, and the
  ones it has passed have all transferred the same amount;
* `Bundle` and its four operations `write`, `accept`, `read`, `give`;
* `Level`: the lanes of a set have had the same blocks enter and the same elements leave, the ones
  a round has passed one transfer ahead of the ones it has not;
* **`Level.agree`**: what two lanes of the set have delivered agrees place by place.
-/

namespace Aes67.Lanes

variable {κ α : Type} {S : Set κ} {c c' : κ} {n k : ℕ}

/-! ## Rounds -/

/-- A round over the lanes: the length of the transfer each is asked for, the lanes still to come,
and what the ones passed have transferred. -/
structure Pass (κ : Type) where
  size : ℕ := 0
  rest : List κ := []
  done : κ → Option ℕ := fun _ => none

namespace Pass

def start (size : ℕ) (walk : List κ) : Pass κ := { size := size, rest := walk }

variable [DecidableEq κ] (p : Pass κ)

/-- The lane `c` in front has transferred `k` elements. -/
def next (c : κ) (k : ℕ) : Pass κ :=
  { p with rest := p.rest.tail, done := Function.update p.done c (some k) }

omit [DecidableEq κ] in
/-- What a round keeps of a set of lanes. -/
structure Fair (S : Set κ) (p : Pass κ) : Prop where
  nodup : p.rest.Nodup
  whole : (∀ c ∈ S, p.done c = none ↔ c ∈ p.rest) ∨ ∀ c ∈ S, p.done c = none ∧ c ∉ p.rest
  even : ∀ c ∈ S, ∀ c' ∈ S, ∀ k ∈ p.done c, ∀ k' ∈ p.done c', k = k'

variable {p} {walk tail : List κ}

omit [DecidableEq κ] in
theorem Fair.start (hn : walk.Nodup) (hw : (∀ c ∈ S, c ∈ walk) ∨ ∀ c ∈ S, c ∉ walk) :
    (start n walk).Fair S where
  nodup := hn
  whole := hw.imp (fun h c hc => ⟨fun _ => h c hc, fun _ => rfl⟩) fun h c hc => ⟨rfl, h c hc⟩
  even := by
    intro c _ c' _ k hk
    cases hk

omit [DecidableEq κ] in
theorem Fair.done_eq_none (h : p.Fair S) (hp : p.rest = c :: tail) (hc : c ∈ S) :
    p.done c = none := by
  have hmem : c ∈ p.rest := hp ▸ List.mem_cons_self
  rcases h.whole with h | h
  · exact (h c hc).mpr hmem
  · exact absurd hmem (h c hc).2

/-- The round stays fair where the lane in front transfers what the ones behind it have. -/
theorem Fair.next (h : p.Fair S) (hp : p.rest = c :: tail)
    (heven : c ∈ S → ∀ c' ∈ S, ∀ k' ∈ p.done c', k' = k) : (p.next c k).Fair S := by
  have hn : (c :: tail).Nodup := hp ▸ h.nodup
  obtain ⟨hc, ht⟩ := List.nodup_cons.mp hn
  have hrest : (p.next c k).rest = tail := by rw [Pass.next, hp, List.tail_cons]
  refine ⟨hrest ▸ ht, ?_, ?_⟩
  · rw [hrest]
    refine h.whole.imp (fun hw d hd => ?_) fun hw d hd => ?_
    · by_cases hdc : d = c
      · subst hdc
        simp [Pass.next, hc]
      · have := hw d hd
        rw [hp] at this
        simpa [Pass.next, hdc] using this
    · have hd' := hw d hd
      rw [hp] at hd'
      have hdc : d ≠ c := fun e => hd'.2 (e ▸ List.mem_cons_self)
      exact ⟨by simpa [Pass.next, hdc] using hd'.1, fun hm => hd'.2 (List.mem_cons_of_mem _ hm)⟩
  · intro d hd d' hd' m hm m' hm'
    simp only [Pass.next, Function.update_apply] at hm hm'
    split_ifs at hm hm' with h1 h2 h2
    · exact (Option.some.inj hm).symm.trans (Option.some.inj hm')
    · obtain rfl := Option.some.inj hm
      exact (heven (h1 ▸ hd) d' hd' m' hm').symm
    · obtain rfl := Option.some.inj hm'
      exact heven (h2 ▸ hd') d hd m hm
    · exact h.even d hd d' hd' m hm m' hm'

omit [DecidableEq κ] in
/-- A round that is over has passed all the lanes, each with the same transfer, or none. -/
theorem Fair.over (h : p.Fair S) (hp : p.rest = []) :
    (∀ c ∈ S, p.done c = none) ∨ ∃ k, ∀ c ∈ S, p.done c = some k := by
  rcases h.whole with hw | hw
  · by_cases hS : ∃ c, c ∈ S
    · obtain ⟨c, hc⟩ := hS
      have some_of : ∀ d ∈ S, ∃ k, p.done d = some k := fun d hd =>
        Option.ne_none_iff_exists'.mp fun hnone => by
          have := (hw d hd).mp hnone
          rw [hp] at this
          cases this
      obtain ⟨k, hk⟩ := some_of c hc
      refine .inr ⟨k, fun d hd => ?_⟩
      obtain ⟨k', hk'⟩ := some_of d hd
      rw [hk', h.even d hd c hc k' hk' k hk]
    · exact .inl fun c hc => absurd ⟨c, hc⟩ hS
  · exact .inl fun c hc => (hw c hc).1

end Pass

/-! ## The bundle -/

/-- What a read of `n` elements delivers that finds `xs`. -/
def pad (n : ℕ) (xs : List α) : List (Option α) :=
  xs.map some ++ List.replicate (n - xs.length) none

@[simp] theorem reduceOption_pad (xs : List α) : (pad n xs).reduceOption = xs := by
  rw [pad, List.reduceOption_append, List.reduceOption_replicate_none, List.append_nil]
  induction xs with
  | nil => rfl
  | cons x xs ih => rw [List.map_cons, List.reduceOption_cons_of_some, ih]

/-- The lanes, what has been delivered from each, the block being written, and the two rounds. -/
structure Bundle (κ α : Type) where
  queue : κ → List α
  delivered : κ → List (Option α)
  block : List α
  writer : Pass κ
  reader : Pass κ

namespace Bundle

variable (b : Bundle κ α)

def write (block : List α) (walk : List κ) : Bundle κ α :=
  { b with block := block, writer := .start block.length walk }

/-- A new round of reads of `n` elements; first, `silent` empty places are delivered from every
lane. -/
def read (n silent : ℕ) (walk : List κ) : Bundle κ α :=
  { b with
    delivered := fun c => b.delivered c ++ List.replicate silent none
    reader := .start n walk }

variable [DecidableEq κ]

def accept (c : κ) (k : ℕ) : Bundle κ α :=
  { b with
    queue := Function.update b.queue c (b.queue c ++ b.block.take k)
    writer := b.writer.next c k }

def give (c : κ) (k : ℕ) : Bundle κ α :=
  { b with
    queue := Function.update b.queue c ((b.queue c).drop k)
    delivered := Function.update b.delivered c
      (b.delivered c ++ pad b.reader.size ((b.queue c).take k))
    reader := b.reader.next c k }

end Bundle

/-! ## Level lanes -/

variable {b : Bundle κ α}

/-- The lanes of `S` are level. -/
structure Level (S : Set κ) (b : Bundle κ α) : Prop where
  writer : b.writer.Fair S
  reader : b.reader.Fair S
  /-- what has entered a lane: the blocks before, and its part of this one -/
  entered : ∃ B, ∀ c ∈ S, (b.delivered c).reduceOption ++ b.queue c =
    B ++ b.block.take ((b.writer.done c).getD 0)
  /-- what has left it: the reads before, and the one of this round -/
  left : ∃ D ys, ∀ c ∈ S,
    b.delivered c = D ++ (if (b.reader.done c).isSome then pad b.reader.size ys else []) ∧
      ∀ k ∈ b.reader.done c, ys.length = k

theorem level_of_empty (hq : ∀ c ∈ S, b.queue c = []) (hd : ∀ c ∈ S, b.delivered c = [])
    (hw : b.writer = {}) (hr : b.reader = {}) : Level S b where
  writer := hw ▸ Pass.Fair.start List.nodup_nil (.inr fun _ _ => List.not_mem_nil)
  reader := hr ▸ Pass.Fair.start List.nodup_nil (.inr fun _ _ => List.not_mem_nil)
  entered := ⟨[], fun c hc => by rw [hq c hc, hd c hc, hw]; rfl⟩
  left := ⟨[], [], fun c hc => by rw [hd c hc, hr]; exact ⟨rfl, fun k hk => by cases hk⟩⟩

theorem Level.write (h : Level S b) (hp : b.writer.rest = []) {block : List α} {walk : List κ}
    (hn : walk.Nodup) (hw : (∀ c ∈ S, c ∈ walk) ∨ ∀ c ∈ S, c ∉ walk) :
    Level S (b.write block walk) := by
  refine ⟨Pass.Fair.start hn hw, h.reader, ?_, h.left⟩
  obtain ⟨B, hB⟩ := h.entered
  rcases h.writer.over hp with hdone | ⟨k, hdone⟩
  · exact ⟨B, fun c hc => by simpa [Bundle.write, Pass.start, hdone c hc] using hB c hc⟩
  · exact ⟨B ++ b.block.take k, fun c hc => by
      simpa [Bundle.write, Pass.start, hdone c hc] using hB c hc⟩

theorem Level.read (h : Level S b) (hp : b.reader.rest = []) {silent : ℕ} {walk : List κ}
    (hn : walk.Nodup) (hw : (∀ c ∈ S, c ∈ walk) ∨ ∀ c ∈ S, c ∉ walk) :
    Level S (b.read n silent walk) := by
  have empty (D : List (Option α)) (hD : ∀ c ∈ S, b.delivered c = D) : ∃ D' ys, ∀ c ∈ S,
      (b.read n silent walk).delivered c =
        D' ++ (if ((b.read n silent walk).reader.done c).isSome then pad n ys else []) ∧
      ∀ k ∈ (b.read n silent walk).reader.done c, ys.length = k :=
    ⟨D ++ List.replicate silent none, [], fun c hc =>
      ⟨by simp [Bundle.read, Pass.start, hD c hc], fun k hk => by cases hk⟩⟩
  refine ⟨h.writer, Pass.Fair.start hn hw, ?_, ?_⟩
  · obtain ⟨B, hB⟩ := h.entered
    refine ⟨B, fun c hc => ?_⟩
    rw [Bundle.read, List.reduceOption_append, List.reduceOption_replicate_none, List.append_nil]
    exact hB c hc
  · obtain ⟨D, ys, hD⟩ := h.left
    rcases h.reader.over hp with hdone | ⟨k, hdone⟩
    · exact empty D fun c hc => by simpa [hdone c hc] using (hD c hc).1
    · exact empty (D ++ pad b.reader.size ys) fun c hc => by
        simpa [hdone c hc] using (hD c hc).1

variable [DecidableEq κ] {tail : List κ}

theorem Level.accept (h : Level S b) (hp : b.writer.rest = c :: tail)
    (heven : c ∈ S → ∀ c' ∈ S, ∀ k' ∈ b.writer.done c', k' = k) : Level S (b.accept c k) := by
  refine ⟨h.writer.next hp heven, h.reader, ?_, h.left⟩
  obtain ⟨B, hB⟩ := h.entered
  refine ⟨B, fun d hd => ?_⟩
  have hd' := hB d hd
  by_cases hdc : d = c
  · subst hdc
    rw [h.writer.done_eq_none hp hd, Option.getD_none, List.take_zero, List.append_nil] at hd'
    simp [Bundle.accept, Pass.next, ← hd']
  · simpa [Bundle.accept, Pass.next, hdc] using hd'

omit [DecidableEq κ] in
/-- What the next lane of a round gives is what the lanes behind it have given. -/
theorem Level.take_eq (h : Level S b) {D : List (Option α)} {ys : List α} (hc : c ∈ S)
    (hc' : c' ∈ S) (hD : b.delivered c = D) (hD' : b.delivered c' = D ++ pad n ys)
    (hk : ys.length ≤ (b.queue c).length) : (b.queue c).take ys.length = ys := by
  obtain ⟨B, hB⟩ := h.entered
  have hB1 := hB c hc
  have hB2 := hB c' hc'
  rw [hD] at hB1
  rw [hD', List.reduceOption_append, reduceOption_pad, List.append_assoc] at hB2
  have bound (m : ℕ) : B ++ b.block.take m <+: B ++ b.block :=
    (List.prefix_append_right_inj B).mpr (List.take_prefix m _)
  have h1 : D.reduceOption ++ (b.queue c).take ys.length <+: B ++ b.block :=
    ((List.prefix_append_right_inj _).mpr (List.take_prefix _ _)).trans (hB1 ▸ bound _)
  have h2 : D.reduceOption ++ ys <+: B ++ b.block :=
    ((List.prefix_append_right_inj _).mpr (List.prefix_append _ _)).trans (hB2 ▸ bound _)
  have hlen : (D.reduceOption ++ (b.queue c).take ys.length).length =
      (D.reduceOption ++ ys).length := by
    rw [List.length_append, List.length_append, List.length_take, min_eq_left hk]
  exact List.append_cancel_left
    ((List.prefix_of_prefix_length_le h1 h2 hlen.le).eq_of_length hlen)

theorem Level.give (h : Level S b) (hp : b.reader.rest = c :: tail) (hk : k ≤ (b.queue c).length)
    (heven : c ∈ S → ∀ c' ∈ S, ∀ k' ∈ b.reader.done c', k' = k) : Level S (b.give c k) := by
  refine ⟨h.writer, h.reader.next hp heven, ?_, ?_⟩
  · obtain ⟨B, hB⟩ := h.entered
    refine ⟨B, fun d hd => ?_⟩
    have hd' := hB d hd
    by_cases hdc : d = c
    · subst hdc
      simpa [Bundle.give, List.reduceOption_append] using hd'
    · simpa [Bundle.give, hdc] using hd'
  · obtain ⟨D, ys, hD⟩ := h.left
    have unread (hc : c ∈ S) : b.delivered c = D := by
      simpa [h.reader.done_eq_none hp hc] using (hD c hc).1
    -- the transfer of the round: that of the lanes behind, or of this one where it is the first
    have same (zs : List α) (hzs : ∀ d ∈ S, ∀ k' ∈ b.reader.done d, zs = ys)
        (hc : c ∈ S → (b.queue c).take k = zs) : ∃ D ys, ∀ d ∈ S,
        (b.give c k).delivered d =
          D ++ (if ((b.give c k).reader.done d).isSome then pad b.reader.size ys else []) ∧
        ∀ k' ∈ (b.give c k).reader.done d, ys.length = k' := by
      refine ⟨D, zs, fun d hd => ?_⟩
      by_cases hdc : d = c
      · subst hdc
        have hlen : zs.length = k := by rw [← hc hd, List.length_take, min_eq_left hk]
        simp [Bundle.give, Pass.next, unread hd, hc hd, hlen]
      · have hd' := hD d hd
        simp only [Bundle.give, Pass.next, Function.update_of_ne hdc]
        cases hdone : b.reader.done d with
        | none => simpa [hdone] using hd'
        | some k' =>
          rw [hzs d hd k' hdone]
          simpa [hdone] using hd'
    by_cases hbehind : c ∈ S ∧ ∃ c' ∈ S, ∃ k', b.reader.done c' = some k'
    · obtain ⟨hc, c', hc', k', hk'⟩ := hbehind
      have hD' := hD c' hc'
      rw [hk', Option.isSome_some, if_pos rfl] at hD'
      have hlen : ys.length = k := (hD'.2 k' rfl).trans (heven hc c' hc' k' hk')
      refine same ys (fun _ _ _ _ => rfl) fun _ => ?_
      rw [← hlen]
      exact h.take_eq hc hc' (unread hc) hD'.1 (hlen ▸ hk)
    · by_cases hc : c ∈ S
      · refine same _ (fun d hd k' hk' => absurd ⟨hc, d, hd, k', hk'⟩ hbehind) fun _ => rfl
      · exact same ys (fun _ _ _ _ => rfl) fun hc' => absurd hc' hc

omit [DecidableEq κ] in
/-- **Level lanes deliver the same**, place by place. -/
theorem Level.agree (h : Level S b) (hc : c ∈ S) (hc' : c' ∈ S) {i : ℕ} {o o' : Option α}
    (ho : (b.delivered c)[i]? = some o) (ho' : (b.delivered c')[i]? = some o') : o = o' := by
  obtain ⟨D, ys, hD⟩ := h.left
  have upto (d : κ) (hd : d ∈ S) : b.delivered d <+: D ++ pad b.reader.size ys := by
    rw [(hD d hd).1]
    split_ifs
    · exact List.prefix_rfl
    · rw [List.append_nil]
      exact List.prefix_append _ _
  have place {d : κ} (hd : d ∈ S) {o : Option α} (ho : (b.delivered d)[i]? = some o) :
      (D ++ pad b.reader.size ys)[i]? = some o := by
    obtain ⟨t, ht⟩ := upto d hd
    obtain ⟨hi, -⟩ := List.getElem?_eq_some_iff.mp ho
    rw [← ht, List.getElem?_append_left hi, ho]
  exact Option.some.inj ((place hc ho).symm.trans (place hc' ho'))

end Aes67.Lanes
