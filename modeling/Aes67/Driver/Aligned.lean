import Mathlib
import Aes67.Driver.Alignment

/-!
# Channels that stay aligned

The rings of one stream are level lanes as long as every one of a packet's writes, and of a cycle's
reads, comes out like the others. The buffers are run step by step, so the amount of a call is
settled at one step and the ring changes at a later one; in between only the other end can move.

* `Path.bundle`: the lanes behind a path; `Sound`: what holds of path, calls and lanes;
* `sound_write`, `sound_read`: a step of one end; **`sound_step`**;
* **`stream_aligned`**: in a run of even steps two channels never deliver from different places;
  **`stereo_apart`**: one cycle across one packet sets two channels apart.
-/

namespace Aes67

open Lanes (Pass Bundle Level pad)
open SPSCRingBuffer (Shared)

namespace Path

variable {e : Ends} {s : Path} {c : ℕ} {tail : List ℕ} {n : ℕ}

@[simp] theorem length_blockOf (block frames : ℕ) : (blockOf block frames).length = frames := by
  rw [blockOf, List.length_map, List.length_range]

/-- The block the writer is going round with. -/
def block (s : Path) : List Origin := blockOf s.blocks s.writer.size

/-- The lanes behind a path. -/
def bundle (s : Path) : Bundle ℕ Origin where
  queue c := (s.rings c).ring.contents
  delivered := s.delivered
  block := s.block
  writer := s.writer
  reader := s.reader

/-- The rings are in order, only the ones in front of the two ends are in a call, what these calls
have settled is what the stream's rings behind them have had, and the stream's rings are level. -/
structure Sound (e : Ends) (s : Path) : Prop where
  rings : ∀ c, (s.rings c).Inv
  level : Level {c | c ∈ e.lanes} s.bundle
  writing : ∀ c, ∀ data ∈ (s.rings c).producer.data,
    s.writer.rest.head? = some c ∧ data = s.block
  reading : ∀ c, (s.rings c).consumer ≠ .idle → s.reader.rest.head? = some c
  asked : ∀ c, ∀ n ∈ (s.rings c).consumer.count, n = s.reader.size
  settledWrite : ∀ c ∈ e.lanes, ∀ n ∈ (s.rings c).producer.settled,
    ∀ c' ∈ e.lanes, ∀ k ∈ s.writer.done c', k = n
  settledRead : ∀ c ∈ e.lanes, ∀ n ∈ (s.rings c).consumer.settled,
    ∀ c' ∈ e.lanes, ∀ k ∈ s.reader.done c', k = n
  walked : (∀ c ∈ s.writer.rest, c ∈ e.writes 0) ∧ ∀ c ∈ s.reader.rest, c ∈ e.reads 0
  /-- nothing gets into a ring the writer does not walk -/
  dry : ∀ c ∉ e.writes 0, (s.rings c).ring.contents = []
  /-- and only silence comes from one that the two ends do not share -/
  silent : ∀ c ∉ e.lanes, ∀ o ∈ s.delivered c, o = none

/-! ## The writer -/

/-- What the writer's ring takes is what the stream's rings behind it have taken. -/
theorem Sound.even_write (h : Sound e s) (heven : Even e s .write) (hp : s.writer.rest = c :: tail)
    {data : List Origin} (hd : (s.rings c).producer.data = some data)
    (hn : n ∈ (s.rings c).writes) (hc : c ∈ e.lanes) :
    ∀ c' ∈ e.lanes, ∀ k ∈ s.writer.done c', k = n := by
  obtain ⟨-, rfl⟩ := h.writing c data hd
  have hhead : c ∈ s.writer.rest.head? := by rw [hp]; rfl
  rcases Shared.mem_writes (h.rings c) hd hn with ⟨hm, hmin⟩ | hs
  · rw [block, length_blockOf] at hmin
    intro c' hc' k hk
    exact (heven c hhead hc hm c' hc' k hk).trans hmin.symm
  · exact h.settledWrite c hc n hs

/-- A step of the writer that does not return from its call. -/
theorem Sound.write_on (h : Sound e s) (hp : s.writer.rest = c :: tail) {ring : Shared Origin}
    (hinv : ring.Inv) (hq : ring.ring.contents = (s.rings c).ring.contents)
    (hcons : ring.consumer = (s.rings c).consumer) (hdata : ∀ data ∈ ring.producer.data,
      data = s.block)
    (hsettled : c ∈ e.lanes → ∀ n ∈ ring.producer.settled, ∀ c' ∈ e.lanes,
      ∀ k ∈ s.writer.done c', k = n) :
    Sound e { s with rings := Function.update s.rings c ring } := by
  have hqueue : (fun d => (Function.update s.rings c ring d).ring.contents) =
      fun d => (s.rings d).ring.contents := by
    funext d
    by_cases hd : d = c
    · rw [hd, Function.update_self, hq]
    · rw [Function.update_of_ne hd]
  have hconsumer (d : ℕ) : (Function.update s.rings c ring d).consumer = (s.rings d).consumer := by
    by_cases hd : d = c
    · rw [hd, Function.update_self, hcons]
    · rw [Function.update_of_ne hd]
  have hlevel : bundle { s with rings := Function.update s.rings c ring } = s.bundle := by
    unfold bundle
    rw [hqueue]
    rfl
  have hhead : s.writer.rest.head? = some c := by rw [hp]; rfl
  refine ⟨?_, hlevel ▸ h.level, ?_, ?_, ?_, ?_, ?_, h.walked, ?_, h.silent⟩
  · exact (Function.forall_update_iff s.rings fun _ r => r.Inv).mpr ⟨hinv, fun d _ => h.rings d⟩
  · refine (Function.forall_update_iff s.rings fun d r => ∀ data ∈ r.producer.data,
      s.writer.rest.head? = some d ∧ data = s.block).mpr ⟨?_, fun d _ => h.writing d⟩
    exact fun data hd => ⟨hhead, hdata data hd⟩
  · intro d hd
    rw [hconsumer] at hd
    exact h.reading d hd
  · intro d n hn
    rw [hconsumer] at hn
    exact h.asked d n hn
  · refine (Function.forall_update_iff s.rings fun d r => d ∈ e.lanes → ∀ n ∈ r.producer.settled,
      ∀ c' ∈ e.lanes, ∀ k ∈ s.writer.done c', k = n).mpr ⟨hsettled, fun d _ => h.settledWrite d⟩
  · intro d hd n hn
    rw [hconsumer] at hn
    exact h.settledRead d hd n hn
  · intro d hd
    exact (congrFun hqueue d).trans (h.dry d hd)

/-- The step of the writer that returns from its call. -/
theorem Sound.write_over (h : Sound e s) (hp : s.writer.rest = c :: tail) {ring : Shared Origin}
    (hinv : ring.Inv) (hcons : ring.consumer = (s.rings c).consumer) (hidle : ring.producer = .idle)
    (hq : ring.ring.contents = (s.rings c).ring.contents ++ s.block.take n)
    (heven : c ∈ e.lanes → ∀ c' ∈ e.lanes, ∀ k ∈ s.writer.done c', k = n) :
    Sound e { s with rings := Function.update s.rings c ring, writer := s.writer.next c n } := by
  have hconsumer (d : ℕ) : (Function.update s.rings c ring d).consumer = (s.rings d).consumer := by
    by_cases hd : d = c
    · rw [hd, Function.update_self, hcons]
    · rw [Function.update_of_ne hd]
  have hlevel : bundle { s with
      rings := Function.update s.rings c ring, writer := s.writer.next c n } =
      s.bundle.accept c n := by
    unfold bundle Bundle.accept
    congr 1
    funext d
    by_cases hd : d = c
    · subst hd
      dsimp only
      rw [Function.update_self, Function.update_self, hq]
    · dsimp only
      rw [Function.update_of_ne hd, Function.update_of_ne hd]
  have hrest : (s.writer.next c n).rest = tail := by rw [Pass.next, hp, List.tail_cons]
  -- a ring other than `c` is in no call
  have others {d : ℕ} (hd : d ≠ c) {data : List Origin} (hdata : data ∈ (s.rings d).producer.data) :
      False := by
    have := (h.writing d data hdata).1
    rw [hp] at this
    exact hd (Option.some.inj this).symm
  refine ⟨?_, ?_, ?_, ?_, ?_, ?_, ?_, ⟨?_, h.walked.2⟩, ?_, h.silent⟩
  · exact (Function.forall_update_iff s.rings fun _ r => r.Inv).mpr ⟨hinv, fun d _ => h.rings d⟩
  · rw [hlevel]
    exact h.level.accept hp heven
  · intro d data hdata
    by_cases hd : d = c
    · subst hd
      dsimp only at hdata
      rw [Function.update_self, hidle] at hdata
      cases hdata
    · dsimp only at hdata
      rw [Function.update_of_ne hd] at hdata
      exact (others hd hdata).elim
  · intro d hd
    rw [hconsumer] at hd
    exact h.reading d hd
  · intro d n hn
    rw [hconsumer] at hn
    exact h.asked d n hn
  · intro d _ m hm
    by_cases hd : d = c
    · subst hd
      dsimp only at hm
      rw [Function.update_self, hidle] at hm
      cases hm
    · dsimp only at hm
      rw [Function.update_of_ne hd] at hm
      obtain ⟨data, hdata⟩ := SPSCRingBuffer.WritePc.data_of_settled hm
      exact (others hd hdata).elim
  · intro d hd n hn
    rw [hconsumer] at hn
    exact h.settledRead d hd n hn
  · intro d hd
    rw [hrest] at hd
    exact h.walked.1 d (hp ▸ List.mem_cons_of_mem _ hd)
  · intro d hd
    have hdc : d ≠ c := by
      rintro rfl
      exact hd (h.walked.1 d (hp ▸ List.mem_cons_self))
    dsimp only
    rw [Function.update_of_ne hdc]
    exact h.dry d hd

theorem stepWrite_of_idle (h : (s.rings c).producer = .idle) :
    s.stepWrite c = { s with
      rings := Function.update s.rings c ((s.rings c).step (.write s.block)) } := by
  simp only [stepWrite, h, block]

theorem stepWrite_of_busy {data : List Origin} (h : (s.rings c).producer.data = some data) :
    s.stepWrite c = { s with
      rings := Function.update s.rings c ((s.rings c).step .producer)
      writer := match (s.rings c).event .producer with
        | some (.accept xs) => s.writer.next c xs.length
        | _ => s.writer } := by
  unfold stepWrite
  cases hpc : (s.rings c).producer with
  | idle =>
    rw [hpc] at h
    cases h
  | called data => rfl
  | loaded data writeIdx => rfl
  | copying data writeIdx m todo => rfl

/-- **The writer's step.** -/
theorem sound_stepWrite (h : Sound e s) (heven : Even e s .write)
    (hp : s.writer.rest = c :: tail) : Sound e (s.stepWrite c) := by
  have hring := h.rings c
  cases hd : (s.rings c).producer.data with
  | none =>
    have hpc : (s.rings c).producer = .idle := by
      cases hpc : (s.rings c).producer <;> simp [hpc, SPSCRingBuffer.WritePc.data] at hd ⊢
    rw [stepWrite_of_idle hpc]
    have hring' : ((s.rings c).step (.write s.block)).ring = (s.rings c).ring :=
      Shared.ring_step_write
    refine h.write_on hp (Shared.inv_step hring _) (by rw [hring']) Shared.consumer_step_write
      (fun d hd => ?_) fun _ n hn => ?_
    · rw [Shared.producer_step_write hpc] at hd
      exact (Option.some.inj hd).symm
    · rw [Shared.producer_step_write hpc] at hn
      cases hn
  | some data =>
    rw [stepWrite_of_busy hd]
    have hblock : data = s.block := (h.writing c data hd).2
    have hinv := Shared.inv_step hring .producer
    rcases Shared.write_step hring hd with ⟨he, hdata, hq, hs⟩ | ⟨n, hn, hle, he, hidle, hq⟩
    · rw [he]
      refine h.write_on hp hinv hq Shared.consumer_step_producer (fun d hd' => ?_) ?_
      · rw [hdata] at hd'
        exact (Option.some.inj hd').symm.trans hblock
      · exact fun hc n hn => h.even_write heven hp hd (hs n hn) hc
    · rw [he]
      dsimp only
      rw [List.length_take, min_eq_left hle]
      exact h.write_over hp hinv Shared.consumer_step_producer hidle (hblock ▸ hq)
        (h.even_write heven hp hd hn)

/-! ## The reader -/

/-- What the reader's ring gives is what the stream's rings behind it have given. -/
theorem Sound.even_read (h : Sound e s) (heven : Even e s .read) (hp : s.reader.rest = c :: tail)
    (hn : n ∈ (s.rings c).reads) (hc : c ∈ e.lanes) :
    ∀ c' ∈ e.lanes, ∀ k ∈ s.reader.done c', k = n := by
  have hhead : c ∈ s.reader.rest.head? := by rw [hp]; rfl
  rcases Shared.mem_reads (h.rings c) hn with ⟨hm, count, hcount, hmin⟩ | hs
  · obtain rfl := h.asked c count hcount
    intro c' hc' k hk
    exact (heven c hhead hc hm c' hc' k hk).trans hmin.symm
  · exact h.settledRead c hc n hs

/-- A step of the reader that does not return from its call. -/
theorem Sound.read_on (h : Sound e s) (hp : s.reader.rest = c :: tail) {ring : Shared Origin}
    (hinv : ring.Inv) (hq : ring.ring.contents = (s.rings c).ring.contents)
    (hprod : ring.producer = (s.rings c).producer)
    (hcount : ∀ n ∈ ring.consumer.count, n = s.reader.size)
    (hsettled : c ∈ e.lanes → ∀ n ∈ ring.consumer.settled, ∀ c' ∈ e.lanes,
      ∀ k ∈ s.reader.done c', k = n) :
    Sound e { s with rings := Function.update s.rings c ring } := by
  have hqueue : (fun d => (Function.update s.rings c ring d).ring.contents) =
      fun d => (s.rings d).ring.contents := by
    funext d
    by_cases hd : d = c
    · rw [hd, Function.update_self, hq]
    · rw [Function.update_of_ne hd]
  have hproducer (d : ℕ) : (Function.update s.rings c ring d).producer = (s.rings d).producer := by
    by_cases hd : d = c
    · rw [hd, Function.update_self, hprod]
    · rw [Function.update_of_ne hd]
  have hlevel : bundle { s with rings := Function.update s.rings c ring } = s.bundle := by
    unfold bundle
    rw [hqueue]
    rfl
  have hhead : s.reader.rest.head? = some c := by rw [hp]; rfl
  refine ⟨?_, hlevel ▸ h.level, ?_, ?_, ?_, ?_, ?_, h.walked, ?_, h.silent⟩
  · exact (Function.forall_update_iff s.rings fun _ r => r.Inv).mpr ⟨hinv, fun d _ => h.rings d⟩
  · intro d data hd
    rw [hproducer] at hd
    exact h.writing d data hd
  · exact (Function.forall_update_iff s.rings fun d r => r.consumer ≠ .idle →
      s.reader.rest.head? = some d).mpr ⟨fun _ => hhead, fun d _ => h.reading d⟩
  · exact (Function.forall_update_iff s.rings fun d r => ∀ n ∈ r.consumer.count,
      n = s.reader.size).mpr ⟨hcount, fun d _ => h.asked d⟩
  · intro d hd n hn
    rw [hproducer] at hn
    exact h.settledWrite d hd n hn
  · refine (Function.forall_update_iff s.rings fun d r => d ∈ e.lanes → ∀ n ∈ r.consumer.settled,
      ∀ c' ∈ e.lanes, ∀ k ∈ s.reader.done c', k = n).mpr ⟨hsettled, fun d _ => h.settledRead d⟩
  · intro d hd
    exact (congrFun hqueue d).trans (h.dry d hd)

/-- The step of the reader that returns from its call. -/
theorem Sound.read_over (h : Sound e s) (hp : s.reader.rest = c :: tail) {ring : Shared Origin}
    (hinv : ring.Inv) (hprod : ring.producer = (s.rings c).producer) (hidle : ring.consumer = .idle)
    (hn : n ≤ (s.rings c).ring.contents.length)
    (hq : ring.ring.contents = (s.rings c).ring.contents.drop n)
    (heven : c ∈ e.lanes → ∀ c' ∈ e.lanes, ∀ k ∈ s.reader.done c', k = n) :
    Sound e { s with
      rings := Function.update s.rings c ring
      reader := s.reader.next c n
      delivered := Function.update s.delivered c
        (s.delivered c ++ pad s.reader.size ((s.rings c).ring.contents.take n)) } := by
  have hproducer (d : ℕ) : (Function.update s.rings c ring d).producer = (s.rings d).producer := by
    by_cases hd : d = c
    · rw [hd, Function.update_self, hprod]
    · rw [Function.update_of_ne hd]
  have hlevel : bundle { s with
      rings := Function.update s.rings c ring
      reader := s.reader.next c n
      delivered := Function.update s.delivered c
        (s.delivered c ++ pad s.reader.size ((s.rings c).ring.contents.take n)) } =
      s.bundle.give c n := by
    unfold bundle Bundle.give
    congr 1
    funext d
    by_cases hd : d = c
    · subst hd
      dsimp only
      rw [Function.update_self, Function.update_self, hq]
    · dsimp only
      rw [Function.update_of_ne hd, Function.update_of_ne hd]
  have hrest : (s.reader.next c n).rest = tail := by rw [Pass.next, hp, List.tail_cons]
  have hcread : c ∈ e.reads 0 := h.walked.2 c (hp ▸ List.mem_cons_self)
  -- a ring other than `c` is in no call
  have others {d : ℕ} (hd : d ≠ c) : (s.rings d).consumer = .idle := by
    by_contra hne
    have := h.reading d hne
    rw [hp] at this
    exact hd (Option.some.inj this).symm
  have idle (d : ℕ) : (Function.update s.rings c ring d).consumer = .idle := by
    by_cases hd : d = c
    · rw [hd, Function.update_self, hidle]
    · rw [Function.update_of_ne hd, others hd]
  refine ⟨?_, ?_, ?_, ?_, ?_, ?_, ?_, ⟨h.walked.1, ?_⟩, ?_, ?_⟩
  · exact (Function.forall_update_iff s.rings fun _ r => r.Inv).mpr ⟨hinv, fun d _ => h.rings d⟩
  · rw [hlevel]
    exact h.level.give hp hn heven
  · intro d data hd
    rw [hproducer] at hd
    exact h.writing d data hd
  · intro d hd
    exact absurd (idle d) hd
  · intro d m hm
    rw [idle] at hm
    cases hm
  · intro d hd m hm
    rw [hproducer] at hm
    exact h.settledWrite d hd m hm
  · intro d _ m hm
    rw [idle] at hm
    cases hm
  · intro d hd
    rw [hrest] at hd
    exact h.walked.2 d (hp ▸ List.mem_cons_of_mem _ hd)
  · intro d hd
    by_cases hdc : d = c
    · subst hdc
      dsimp only
      rw [Function.update_self, hq, h.dry d hd, List.drop_nil]
    · dsimp only
      rw [Function.update_of_ne hdc]
      exact h.dry d hd
  · intro d hd o ho
    by_cases hdc : d = c
    · -- read but not shared, so never written
      subst hdc
      have hdry := h.dry d fun hw => hd (Ends.mem_lanes.mpr ⟨hw, hcread⟩)
      dsimp only at ho
      rw [Function.update_self, hdry, List.take_nil, pad, List.map_nil, List.nil_append,
        List.mem_append] at ho
      exact ho.elim (h.silent d hd o) fun ho => List.eq_of_mem_replicate ho
    · dsimp only at ho
      rw [Function.update_of_ne hdc] at ho
      exact h.silent d hd o ho

theorem stepRead_of_idle (h : (s.rings c).consumer = .idle) :
    s.stepRead c = { s with
      rings := Function.update s.rings c ((s.rings c).step (.read s.reader.size)) } := by
  simp only [stepRead, h]

theorem stepRead_of_busy (h : (s.rings c).consumer ≠ .idle) :
    s.stepRead c = match (s.rings c).event .consumer with
      | some (.give xs) =>
        { s with
          rings := Function.update s.rings c ((s.rings c).step .consumer)
          reader := s.reader.next c xs.length
          delivered := Function.update s.delivered c (s.delivered c ++ pad s.reader.size xs) }
      | _ => { s with rings := Function.update s.rings c ((s.rings c).step .consumer) } := by
  unfold stepRead
  cases hcc : (s.rings c).consumer with
  | idle => exact absurd hcc h
  | called count => rfl
  | loaded count readIdx => rfl
  | copying readIdx m got left => rfl

/-- **The reader's step.** -/
theorem sound_stepRead (h : Sound e s) (heven : Even e s .read) (hp : s.reader.rest = c :: tail) :
    Sound e (s.stepRead c) := by
  have hring := h.rings c
  by_cases hcc : (s.rings c).consumer = .idle
  · rw [stepRead_of_idle hcc]
    have hring' := Shared.ring_step_read (s := s.rings c) (n := s.reader.size)
    refine h.read_on hp (Shared.inv_step hring _) (by rw [hring']) Shared.producer_step_read
      (fun n hn => ?_) fun _ n hn => ?_
    · rw [Shared.consumer_step_read hcc] at hn
      exact (Option.some.inj hn).symm
    · rw [Shared.consumer_step_read hcc] at hn
      cases hn
  · rw [stepRead_of_busy hcc]
    have hinv := Shared.inv_step hring .consumer
    rcases Shared.read_step hring hcc with ⟨he, -, hq, hcount, hs⟩ | ⟨n, hn, hle, he, hidle, hq⟩
    · rw [he]
      exact h.read_on hp hinv hq Shared.producer_step_consumer
        (fun n hn => h.asked c n (hcount n hn))
        fun hc n hn => h.even_read heven hp (hs n hn) hc
    · rw [he]
      dsimp only
      rw [List.length_take, min_eq_left hle]
      exact h.read_over hp hinv Shared.producer_step_consumer hidle hle hq
        (h.even_read heven hp hn)

/-! ## A step of either -/

theorem sound_arrive (he : e.Regular) (h : Sound e s) (hp : s.writer.rest = []) (frames : ℕ) :
    Sound e { s with blocks := s.blocks + 1, writer := .start frames (e.writes frames) } := by
  -- between two walks no ring is being written
  have none (d : ℕ) {data : List Origin} (hdata : data ∈ (s.rings d).producer.data) : False := by
    have := (h.writing d data hdata).1
    rw [hp] at this
    cases this
  have hlevel : bundle { s with
      blocks := s.blocks + 1, writer := .start frames (e.writes frames) } =
      s.bundle.write (blockOf (s.blocks + 1) frames) (e.writes frames) := by
    unfold bundle Bundle.write
    rw [length_blockOf]
    rfl
  refine ⟨h.rings, ?_, fun d data hd => (none d hd).elim, h.reading, h.asked, ?_, h.settledRead,
    ⟨fun d hd => he.mem_writes hd, h.walked.2⟩, h.dry, h.silent⟩
  · rw [hlevel]
    exact h.level.write hp (he.nodup_writes _) (he.whole_writes _)
  · intro d _ n hn
    obtain ⟨data, hd⟩ := SPSCRingBuffer.WritePc.data_of_settled hn
    exact (none d hd).elim

theorem sound_ask (he : e.Regular) (h : Sound e s) (hp : s.reader.rest = []) (frames : ℕ) :
    Sound e { s with
      reader := .start frames (e.reads frames)
      delivered := fun c => s.delivered c ++ List.replicate (e.silent frames) none } := by
  have idle (d : ℕ) : (s.rings d).consumer = .idle := by
    by_contra hne
    have := h.reading d hne
    rw [hp] at this
    cases this
  refine ⟨h.rings, h.level.read hp (he.nodup_reads _) (he.whole_reads _), h.writing,
    fun d hd => absurd (idle d) hd, fun d n hn => ?_, h.settledWrite, fun d _ n hn => ?_,
    ⟨h.walked.1, fun d hd => he.mem_reads hd⟩, h.dry, fun d hd o ho => ?_⟩
  · rw [idle d] at hn
    cases hn
  · rw [idle d] at hn
    cases hn
  · rw [List.mem_append] at ho
    exact ho.elim (h.silent d hd o) fun ho => List.eq_of_mem_replicate ho

/-- **An even step keeps the rings level.** -/
theorem sound_step (he : e.Regular) (h : Sound e s) (a : Act) (heven : Even e s a) :
    Sound e (step e s a) := by
  unfold step
  cases a with
  | arrive frames =>
    cases hp : s.writer.rest with
    | nil => exact sound_arrive he h hp frames
    | cons c tail => exact h
  | write =>
    cases hp : s.writer.rest with
    | nil => exact h
    | cons c tail => exact sound_stepWrite h heven hp
  | ask frames =>
    cases hp : s.reader.rest with
    | nil => exact sound_ask he h hp frames
    | cons c tail => exact h
  | read =>
    cases hp : s.reader.rest with
    | nil => exact h
    | cons c tail => exact sound_stepRead h heven hp

theorem Sound.aligned (h : Sound e s) : s.Aligned := by
  intro c c' i o o' ho ho'
  have lane {d : ℕ} {o : Origin} (ho : (s.delivered d)[i]? = some (some o)) : d ∈ e.lanes := by
    by_contra hd
    have := h.silent d hd _ (List.mem_of_getElem? ho)
    cases this
  exact Option.some.inj (h.level.agree (lane ho) (lane ho') ho ho')

/-! ## Runs -/

/-- The path at first, over rings between two calls. -/
def start (rings : ℕ → SPSCRingBuffer Origin) : Path where
  rings c := { ring := rings c }

theorem sound_start {rings : ℕ → SPSCRingBuffer Origin}
    (h : ∀ c, (rings c).Bounded ∧ (rings c).contents = []) : Sound e (start rings) where
  rings c := ⟨(h c).1, trivial, trivial⟩
  level := Lanes.level_of_empty (fun c _ => (h c).2) (fun _ _ => rfl) rfl rfl
  writing _ _ hd := by cases hd
  reading _ hd := absurd rfl hd
  asked _ _ hn := by cases hn
  settledWrite _ _ _ hn := by cases hn
  settledRead _ _ _ hn := by cases hn
  walked := ⟨fun _ hc => (by cases hc), fun _ hc => (by cases hc)⟩
  dry c _ := (h c).2
  silent _ _ _ ho := by cases ho

theorem aligned_of_even (he : e.Regular) {rings : ℕ → SPSCRingBuffer Origin}
    (h : ∀ c, (rings c).Bounded ∧ (rings c).contents = []) {acts : List Act}
    (heven : Along (step e) (Even e) (start rings) acts) :
    Always (step e) Aligned (start rings) acts := by
  have hsound : Always (step e) (Sound e) (start rings) acts :=
    always_of_along (fun _ a hs ha => sound_step he hs a ha) (sound_start h) heven
  exact hsound.imp fun _ hs => hs.aligned

/-- **The channels of a stream stay aligned in every run of even steps**: from empty rings, whatever
arrives, is asked for and comes between, in either direction. -/
theorem stream_aligned (r : Rtp) (channelCount : ℕ)
    (hr : (r.mapping.routes.map ChannelRoute.deviceChannel).Nodup)
    (rings : ℕ → SPSCRingBuffer Origin)
    (h : ∀ c, (rings c).Bounded ∧ (rings c).contents = []) (acts : List Act) :
    (Along (step (.receiving r channelCount)) (Even (.receiving r channelCount)) (start rings) acts →
      Always (step (.receiving r channelCount)) Aligned (start rings) acts) ∧
    (Along (step (.transmitting r channelCount)) (Even (.transmitting r channelCount)) (start rings)
        acts →
      Always (step (.transmitting r channelCount)) Aligned (start rings) acts) :=
  ⟨aligned_of_even (Ends.regular_receiving hr channelCount) h,
    aligned_of_even (Ends.regular_transmitting hr channelCount) h⟩

/-! A stereo stream on the first two of the device's channels, over rings for four samples. -/

def stereo : Rtp where
  sdp := { numChannels := 2 }
  mapping := { streamChannelCount := 2, deviceChannelCount := 2 }

def fourSamples (_ : ℕ) : SPSCRingBuffer Origin where
  buffer _ := ⟨0, 0⟩
  capacity := 5

theorem fourSamples_empty (c : ℕ) :
    (fourSamples c).Bounded ∧ (fourSamples c).contents = [] :=
  ⟨⟨by simp [fourSamples, vectorMaxSize], by simp [fourSamples],
    by simp [fourSamples]⟩, rfl⟩

/-- Packets of one sample, each written before the cycle that asks for it. -/
def inTurn : List Act :=
  (Act.arrive 1 :: List.replicate 10 Act.write) ++ (Act.ask 1 :: List.replicate 10 Act.read)

theorem stereo_aligned :
    Always (step (.receiving stereo 128)) Aligned (start fourSamples) inTurn ∧
      Always (step (.transmitting stereo 2)) Aligned (start fourSamples) inTurn := by
  have h (channelCount : ℕ) :=
    stream_aligned stereo channelCount List.nodup_nil fourSamples fourSamples_empty inTurn
  exact ⟨(h 128).1 (by decide +kernel), (h 2).2 (by decide +kernel)⟩

/-- A cycle that comes between the two writes of a packet, then one packet and one cycle more. -/
def across : List Act :=
  (Act.arrive 1 :: List.replicate 5 Act.write) ++ (Act.ask 1 :: List.replicate 8 Act.read) ++
    List.replicate 5 Act.write ++ (Act.arrive 1 :: List.replicate 10 Act.write) ++
    (Act.ask 1 :: List.replicate 10 Act.read)

/-- **One cycle across one packet sets the channels apart**: the next cycle has the second packet on
one of them and the first on the other. -/
theorem stereo_apart :
    ¬ Always (step (.receiving stereo 2)) Aligned (start fourSamples) across ∧
      ¬ Always (step (.transmitting stereo 2)) Aligned (start fourSamples) across := by
  have apart {e : Ends}
      (h0 : ((across.foldl (step e) (start fourSamples)).delivered 0)[1]? = some (some ⟨2, 0⟩))
      (h1 : ((across.foldl (step e) (start fourSamples)).delivered 1)[1]? = some (some ⟨1, 0⟩)) :
      ¬ Always (step e) Aligned (start fourSamples) across := by
    intro h
    have := h.run 0 1 1 _ _ h0 h1
    cases this
  exact ⟨apart (by decide +kernel) (by decide +kernel), apart (by decide +kernel) (by decide +kernel)⟩

end Path

end Aes67
