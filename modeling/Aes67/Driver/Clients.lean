import Mathlib
import Aes67.Lib.Run
import Aes67.Driver.IOHandler

/-!
# The clients of the device

The device asks the vendored library for unmixed output, so the handler is called once for every
client that takes part in an IO cycle. It does not look at which client it is called for: every
client reads from the one set of rings, and what is read is gone.

* `Cycle`, `Operation`: one IO cycle and what `DoIOOperation` is asked in it;
* `Net`: what the network does to the rings before an operation;
* `step`, `cycleStep`, `heard`: the device over a run of cycles, and what a client is given;
* `takes`, `puts`: the operations of the cycle reach the rings;
* **`undisturbed_iff`**: for all contents of the rings clients hear what they would hear alone, and
  a cycle appends no more than its frames, exactly when one client reads at most and the writers of
  each cycle come to its frames.
-/

namespace Aes67.AES67IOHandler

variable {α : Type} {capacity : ℕ}

/-- One IO cycle. -/
structure Cycle where
  isIORunning : Bool
  ioFrameCount : UInt32
  ioBytesCount : UInt32
  ioChannelCount : UInt32

/-- What the device is asked for one client: `ReadInput` and `MixOutput` of `DoIOOperation`. -/
inductive Operation (α : Type)
  | readInput (clientID : UInt32)
  | mixOutput (clientID : UInt32) (frames : List α)

namespace Operation

def isWrite : Operation α → Bool
  | .readInput _ => false
  | .mixOutput _ _ => true

/-- The operation reads for this client. -/
def ReadsFor (clientID : UInt32) : Operation α → Prop
  | .readInput c => c = clientID
  | .mixOutput _ _ => False

end Operation

/-- What the network threads write to the input rings and read from the output rings. -/
structure Net (α : Type) where
  received : ℕ → List α
  sent : ℕ → ℕ

/-- The rings, and how many operations there have been. -/
structure Device (α : Type) (capacity : ℕ) where
  rt : RTSafeStreamInterface α capacity
  operations : ℕ := 0

/-- The rings as an operation of the cycle finds them. -/
def Device.before (net : ℕ → Net α) (d : Device α capacity) (cycle : Cycle) :
    RTSafeStreamInterface α capacity :=
  { d.rt with
    isIORunning := cycle.isIORunning
    inputBuffers := fun channel =>
      (d.rt.inputBuffers channel).write ((net d.operations).received channel)
    outputBuffers := fun channel =>
      (d.rt.outputBuffers channel).read ((net d.operations).sent channel) }

section Model

variable [Zero α] (h : AES67IOHandler) (net : ℕ → Net α) (keep : UInt32 → Bool)

/-- One operation; of the reads, only those of the clients to keep take place. -/
def step (d : Device α capacity) (q : Cycle × Operation α) : Device α capacity where
  operations := d.operations + 1
  rt := match q.2 with
    | .readInput c =>
      if keep c then (h.OnReadClientInput (d.before net q.1) true q.1.ioBytesCount).1
      else d.before net q.1
    | .mixOutput _ frames =>
      OnWriteClientOutput (d.before net q.1) (some frames) q.1.ioFrameCount q.1.ioChannelCount

/-- What the client is given by the operation. -/
def heard (client : UInt32) (d : Device α capacity) (q : Cycle × Operation α) : List (Filled α) :=
  match q.2 with
  | .readInput c =>
    if c = client then
      (h.OnReadClientInput (d.before net q.1) true q.1.ioBytesCount).2.toList
    else []
  | .mixOutput _ _ => []

/-- The operations of a run of cycles. -/
def requests (run : List (Cycle × List (Operation α))) : List (Cycle × Operation α) :=
  run.flatMap fun x => x.2.map (Prod.mk x.1)

/-- One cycle, with all its operations. -/
def cycleStep (d : Device α capacity) (x : Cycle × List (Operation α)) : Device α capacity :=
  (x.2.map (Prod.mk x.1)).foldl (step h net fun _ => true) d

/-- A read in this cycle reaches the rings. -/
def takes (cycle : Cycle) : Prop :=
  cycle.isIORunning = true ∧ h.frameCount cycle.ioBytesCount ≠ 0 ∧
    (h.frameCount cycle.ioBytesCount).toNat ≤ kMaxFramesPerBuffer ∧ h.cachedChannelCount ≠ 0 ∧
    h.cachedChannelCount.toNat ≤ kNumChannels

omit [Zero α] in
/-- A write in this cycle reaches the rings. -/
def puts (cycle : Cycle) : Prop :=
  cycle.isIORunning = true ∧ cycle.ioFrameCount.toNat ≤ kMaxFramesPerBuffer ∧
    cycle.ioChannelCount ≠ 0 ∧ cycle.ioChannelCount.toNat ≤ kNumChannels

/-- Over a run of cycles every client hears what it would hear if the other clients did not read, and
no cycle appends more than its frames to an output ring. -/
def Undisturbed (rt : RTSafeStreamInterface α capacity)
    (run : List (Cycle × List (Operation α))) : Prop :=
  (∀ client, outputs (step h net fun _ => true) (heard h net client) { rt := rt } (requests run) =
      outputs (step h net fun c => c = client) (heard h net client) { rt := rt } (requests run)) ∧
    Along (cycleStep h net) (fun d x => ∀ channel,
      (cycleStep h net d x).rt.written channel ≤ d.rt.written channel + x.1.ioFrameCount.toNat)
      { rt := rt } run

/-- Only one client ever reads from the rings. -/
def OneReader (run : List (Cycle × List (Operation α))) : Prop :=
  ∀ q ∈ requests run, ∀ q' ∈ requests run, ∀ c c', q.2.ReadsFor c → q'.2.ReadsFor c' →
    takes h q.1 → takes h q'.1 → c = c'

omit [Zero α] in
/-- The writers of the cycle, each with as much as a ring takes, come to its frames. -/
def WritersFit (capacity : ℕ) (x : Cycle × List (Operation α)) : Prop :=
  puts x.1 → x.2.countP Operation.isWrite * min x.1.ioFrameCount.toNat capacity ≤
    x.1.ioFrameCount.toNat

end Model

/-! ## One operation -/

section Step

variable [Zero α] {h : AES67IOHandler} {net : ℕ → Net α} {keep : UInt32 → Bool}
  {d : Device α capacity} {cycle : Cycle} {c client : UInt32}

variable (α capacity) in
/-- A read that does not reach the rings leaves them alone, and gives the same whatever they hold. -/
theorem OnReadClientInput_of_not_takes (ht : ¬ takes h cycle) : ∃ out : Filled α,
    (∀ samples, out = .samples samples → ∀ x ∈ samples, x = 0) ∧
      ∀ rt : RTSafeStreamInterface α capacity, rt.isIORunning = cycle.isIORunning →
        h.OnReadClientInput rt true cycle.ioBytesCount = (rt, some out) := by
  by_cases hr : cycle.isIORunning = true
  · by_cases hf : h.frameCount cycle.ioBytesCount = 0 ∨ h.cachedChannelCount = 0 ∨
        h.cachedChannelCount.toNat > kNumChannels
    · refine ⟨.silence cycle.ioBytesCount, fun samples he => (by cases he), fun rt hrt => ?_⟩
      rw [OnReadClientInput, hrt, hr, if_neg (by simp), if_neg (by simp), if_pos hf]
    · have hlong : (h.frameCount cycle.ioBytesCount).toNat > kMaxFramesPerBuffer := by
        by_contra hle
        push Not at hf hle
        exact ht ⟨hr, hf.1, hle, hf.2.1, hf.2.2⟩
      refine ⟨.samples (List.replicate ((h.frameCount cycle.ioBytesCount).toNat *
        h.cachedChannelCount.toNat) 0), fun samples he x hx => ?_, fun rt hrt => ?_⟩
      · obtain rfl := Filled.samples.inj he
        exact List.eq_of_mem_replicate hx
      · rw [OnReadClientInput, hrt, hr, if_neg (by simp), if_neg (by simp), if_neg hf, processInput,
          if_pos hlong]
  · refine ⟨.silence cycle.ioBytesCount, fun samples he => (by cases he), fun rt hrt => ?_⟩
    rw [OnReadClientInput, hrt, if_neg (by simp), if_pos (by simpa using hr)]

/-- A read that does is `processInput`. -/
theorem OnReadClientInput_of_takes (ht : takes h cycle) {rt : RTSafeStreamInterface α capacity}
    (hrt : rt.isIORunning = cycle.isIORunning) :
    h.OnReadClientInput rt true cycle.ioBytesCount =
      ((processInput rt (h.frameCount cycle.ioBytesCount).toNat h.cachedChannelCount.toNat).1,
        some (.samples (processInput rt (h.frameCount cycle.ioBytesCount).toNat
          h.cachedChannelCount.toNat).2)) := by
  obtain ⟨hr, hf, -, hc, hn⟩ := ht
  rw [OnReadClientInput, hrt, hr, if_neg (by simp), if_neg (by simp), if_neg (by
    push Not
    exact ⟨hf, hc, hn⟩)]

theorem step_read_of_not_takes (ht : ¬ takes h cycle) :
    step h net keep d (cycle, .readInput c) = ⟨d.before net cycle, d.operations + 1⟩ := by
  obtain ⟨out, -, hout⟩ := OnReadClientInput_of_not_takes α capacity ht
  unfold step
  dsimp only
  rw [hout _ rfl]
  split_ifs <;> rfl

theorem step_read_of_not_keep (hk : keep c = false) :
    step h net keep d (cycle, .readInput c) = ⟨d.before net cycle, d.operations + 1⟩ := by
  unfold step
  simp only [hk, Bool.false_eq_true, if_false]

/-- What a client is given by a read that does not reach the rings depends on the cycle only. -/
theorem heard_of_not_takes {q : Cycle × Operation α}
    (ht : q.2.ReadsFor client → ¬ takes h q.1) (net' : ℕ → Net α) (d' : Device α capacity) :
    heard h net client d q = heard h net' client d' q := by
  obtain ⟨cycle, _ | _⟩ := q
  · unfold heard
    dsimp only
    split_ifs with hc
    · obtain ⟨out, -, hout⟩ :=
        OnReadClientInput_of_not_takes α capacity (ht hc)
      rw [hout _ rfl, hout _ rfl]
    · rfl
  · rfl

end Step

/-! ## Readers -/

section Readers

variable [Zero α] {h : AES67IOHandler} {net : ℕ → Net α} {client : UInt32}
  {l : List (Cycle × Operation α)}

/-- A client none of whose reads reaches the rings is given the same in every run. -/
theorem outputs_of_not_takes (ht : ∀ q ∈ l, q.2.ReadsFor client → ¬ takes h q.1)
    (keep keep' : UInt32 → Bool) (d d' : Device α capacity) :
    outputs (step h net keep) (heard h net client) d l =
      outputs (step h net keep') (heard h net client) d' l := by
  induction l generalizing d d' with
  | nil => rfl
  | cons q l ih =>
    rw [outputs, outputs, heard_of_not_takes (ht q List.mem_cons_self) net d',
      ih (fun q hq => ht q (List.mem_cons_of_mem _ hq))]

/-- Where only the client's own reads reach the rings, leaving out the others' changes nothing. -/
theorem outputs_of_own (ht : ∀ q ∈ l, ∀ c, q.2.ReadsFor c → takes h q.1 → c = client)
    (d : Device α capacity) :
    outputs (step h net fun _ => true) (heard h net client) d l =
      outputs (step h net fun c => c = client) (heard h net client) d l := by
  have hsame (q : Cycle × Operation α) (hq : q ∈ l) (d : Device α capacity) :
      step h net (fun _ => true) d q = step h net (fun c => c = client) d q := by
    obtain ⟨cycle, c | _⟩ := q
    · by_cases htakes : takes h cycle
      · obtain rfl : c = client := ht _ hq c rfl htakes
        simp [step]
      · rw [step_read_of_not_takes htakes, step_read_of_not_takes htakes]
    · rfl
  exact ((agree_iff_along _ _ _ _ d l).mpr
    (along_of_mem fun d q hq => ⟨hsame q hq d, rfl⟩) l List.prefix_rfl).2

/-! ### A single sample -/

/-- There is something else than silence. -/
def Audible (l : List (Filled α)) : Prop :=
  ∃ samples, Filled.samples samples ∈ l ∧ ∃ x ∈ samples, x ≠ 0

theorem audible_append {l m : List (Filled α)} : Audible (l ++ m) ↔ Audible l ∨ Audible m := by
  constructor
  · rintro ⟨samples, hm, hx⟩
    exact (List.mem_append.mp hm).imp (fun hm => ⟨samples, hm, hx⟩) fun hm => ⟨samples, hm, hx⟩
  · rintro (⟨samples, hm, hx⟩ | ⟨samples, hm, hx⟩)
    · exact ⟨samples, List.mem_append_left _ hm, hx⟩
    · exact ⟨samples, List.mem_append_right _ hm, hx⟩

theorem not_audible_nil : ¬ Audible ([] : List (Filled α)) := by
  rintro ⟨_, hm, _⟩
  cases hm

/-- A network that writes nothing, and reads all there is. -/
def draining (capacity : ℕ) (_ : ℕ) : Net α where
  received _ := []
  sent _ := capacity

variable {d : Device α capacity} {cycle : Cycle} {c c' : UInt32} {a : α} {keep : UInt32 → Bool}

omit [Zero α] in
@[simp] theorem inputBuffers_before :
    (d.before (draining capacity) cycle).inputBuffers = d.rt.inputBuffers := by
  funext channel
  exact Ring.write_nil

theorem inputBuffers_mixOutput {frames : List α} :
    (step h (draining capacity) keep d (cycle, .mixOutput c frames)).rt.inputBuffers =
      d.rt.inputBuffers := by
  have hkept (rt : RTSafeStreamInterface α capacity) (n m : UInt32) :
      (OnWriteClientOutput rt (some frames) n m).inputBuffers = rt.inputBuffers := by
    unfold OnWriteClientOutput
    dsimp only
    split_ifs <;> rfl
  exact (hkept _ _ _).trans inputBuffers_before

theorem processInput_of_le {rt : RTSafeStreamInterface α capacity} {n m : ℕ}
    (hn : n ≤ kMaxFramesPerBuffer) :
    (∀ channel, (processInput rt n m).1.inputBuffers channel =
        if channel < m then (rt.inputBuffers channel).read n else rt.inputBuffers channel) ∧
      (processInput rt n m).2 = (List.range n).flatMap fun frame => (List.range m).map fun channel =>
        (inputBuffer (rt.inputBuffers channel) n).getD frame 0 := by
  have hle : ¬ n > kMaxFramesPerBuffer := by omega
  rw [processInput, if_neg hle, inputChannels, if_neg hle]
  exact ⟨fun channel => by simp only [List.mem_range], rfl⟩

/-- The input rings hold nothing. -/
def Dry (d : Device α capacity) : Prop := ∀ channel, (d.rt.inputBuffers channel).elements = []

/-- A read of a client to keep, where it reaches the rings. -/
theorem step_read_of_takes (ht : takes h cycle) (hk : keep c = true) (channel : ℕ) :
    ((step h (draining capacity) keep d (cycle, .readInput c)).rt.inputBuffers channel).elements =
      if channel < h.cachedChannelCount.toNat then
        (d.rt.inputBuffers channel).elements.drop (h.frameCount cycle.ioBytesCount).toNat
      else (d.rt.inputBuffers channel).elements := by
  unfold step
  dsimp only
  rw [if_pos hk, OnReadClientInput_of_takes ht rfl, (processInput_of_le ht.2.2.1).1,
    inputBuffers_before]
  split_ifs <;> rfl

theorem heard_of_takes (ht : takes h cycle) :
    heard h (draining capacity) c d (cycle, .readInput c) =
      [.samples ((List.range (h.frameCount cycle.ioBytesCount).toNat).flatMap fun frame =>
        (List.range h.cachedChannelCount.toNat).map fun channel =>
          (inputBuffer (d.rt.inputBuffers channel)
            (h.frameCount cycle.ioBytesCount).toNat).getD frame 0)] := by
  unfold heard
  dsimp only
  rw [if_pos rfl, OnReadClientInput_of_takes ht rfl, (processInput_of_le ht.2.2.1).2,
    inputBuffers_before]
  rfl

theorem not_audible_of_not_takes {q : Cycle × Operation α}
    (ht : q.2.ReadsFor client → ¬ takes h q.1) : ¬ Audible (heard h net client d q) := by
  obtain ⟨cycle, c | _⟩ := q
  · unfold heard
    dsimp only
    split_ifs with hc
    · obtain ⟨out, hzero, hout⟩ :=
        OnReadClientInput_of_not_takes α capacity (ht hc)
      rw [hout _ rfl]
      rintro ⟨samples, hm, x, hx, hne⟩
      exact hne (hzero samples (List.mem_singleton.mp hm).symm x hx)
    · exact not_audible_nil
  · exact not_audible_nil

theorem not_audible_of_dry {q : Cycle × Operation α} (hd : Dry d) :
    ¬ Audible (heard h (draining capacity) client d q) := by
  by_cases ht : q.2.ReadsFor client ∧ takes h q.1
  · obtain ⟨cycle, c | _⟩ := q
    · obtain ⟨rfl : c = client, ht⟩ := ht
      rw [heard_of_takes ht]
      rintro ⟨samples, hm, x, hx, hne⟩
      obtain rfl := Filled.samples.inj (List.mem_singleton.mp hm)
      simp only [List.mem_flatMap, List.mem_map] at hx
      obtain ⟨frame, -, channel, -, rfl⟩ := hx
      refine hne ?_
      rw [inputBuffer, hd channel, List.take_nil, List.nil_append, List.getD_eq_getElem?_getD,
        List.getElem?_replicate]
      split_ifs <;> rfl
    · exact ht.1.elim
  · exact not_audible_of_not_takes fun hr htakes => ht ⟨hr, htakes⟩

theorem dry_step {q : Cycle × Operation α} (hd : Dry d) :
    Dry (step h (draining capacity) keep d q) := by
  intro channel
  obtain ⟨cycle, c | _⟩ := q
  · by_cases ht : takes h cycle
    · cases hk : keep c with
      | false =>
        rw [step_read_of_not_keep hk, inputBuffers_before]
        exact hd channel
      | true =>
        rw [step_read_of_takes ht hk, hd channel, List.drop_nil, ite_self]
    · rw [step_read_of_not_takes ht, inputBuffers_before]
      exact hd channel
  · rw [inputBuffers_mixOutput]
    exact hd channel

theorem outputs_of_dry (hd : Dry d) :
    ¬ Audible (outputs (step h (draining capacity) keep) (heard h (draining capacity) client) d l) := by
  induction l generalizing d with
  | nil => exact not_audible_nil
  | cons q l ih =>
    rw [outputs, audible_append]
    exact fun ha => ha.elim (not_audible_of_dry hd) (ih (dry_step hd))

/-- The input rings hold one sample, `a`. -/
def Single (a : α) (d : Device α capacity) : Prop :=
  (d.rt.inputBuffers 0).elements = [a] ∧ ∀ channel, channel ≠ 0 →
    (d.rt.inputBuffers channel).elements = []

variable (keep) in
/-- Whoever reads the one sample hears it, and the rings are dry. -/
theorem Single.read (hd : Single a d) (ha : a ≠ 0) (ht : takes h cycle) :
    Audible (heard h (draining capacity) c d (cycle, .readInput c)) ∧
      (keep c = true → Dry (step h (draining capacity) keep d (cycle, .readInput c))) := by
  have hn : 0 < (h.frameCount cycle.ioBytesCount).toNat := by
    have := ht.2.1
    rw [Nat.pos_iff_ne_zero]
    exact fun h0 => this (UInt32.toNat_inj.mp h0)
  have hm : 0 < h.cachedChannelCount.toNat := by
    have := ht.2.2.2.1
    rw [Nat.pos_iff_ne_zero]
    exact fun h0 => this (UInt32.toNat_inj.mp h0)
  constructor
  · rw [heard_of_takes ht]
    refine ⟨_, List.mem_singleton_self _, a, ?_, ha⟩
    simp only [List.mem_flatMap, List.mem_map, List.mem_range]
    refine ⟨0, hn, 0, hm, ?_⟩
    obtain ⟨n, hn⟩ := Nat.exists_eq_succ_of_ne_zero hn.ne'
    rw [inputBuffer, hd.1, hn]
    rfl
  · intro hk channel
    rw [step_read_of_takes ht hk]
    by_cases h0 : channel = 0
    · rw [h0, if_pos hm, hd.1]
      exact List.drop_eq_nil_of_le hn
    · rw [hd.2 channel h0, List.drop_nil, ite_self]

/-- An operation that does not read the rings leaves the one sample there. -/
theorem Single.step (hd : Single a d) {q : Cycle × Operation α}
    (ht : ∀ c, q.2.ReadsFor c → keep c = true → ¬ takes h q.1) :
    Single a (step h (draining capacity) keep d q) := by
  have hsame : (AES67IOHandler.step h (draining capacity) keep d q).rt.inputBuffers =
      d.rt.inputBuffers := by
    obtain ⟨cycle, c | _⟩ := q
    · cases hk : keep c with
      | false => rw [step_read_of_not_keep hk, inputBuffers_before]
      | true => rw [step_read_of_not_takes (ht c rfl hk), inputBuffers_before]
    · exact inputBuffers_mixOutput
  unfold Single
  rw [hsame]
  exact hd

/-- Alone, a client one of whose reads reaches the rings hears the sample. -/
theorem audible_alone (ha : a ≠ 0) (hd : Single a d)
    (hq : ∃ q ∈ l, q.2.ReadsFor client ∧ takes h q.1) :
    Audible (outputs (step h (draining capacity) fun c => c = client)
      (heard h (draining capacity) client) d l) := by
  induction l generalizing d with
  | nil =>
    obtain ⟨q, hq, -⟩ := hq
    cases hq
  | cons q l ih =>
    rw [outputs, audible_append]
    by_cases hfirst : q.2.ReadsFor client ∧ takes h q.1
    · obtain ⟨cycle, c | _⟩ := q
      · obtain ⟨rfl : c = client, ht⟩ := hfirst
        exact .inl (hd.read (fun _ => true) ha ht).1
      · exact hfirst.1.elim
    · refine .inr (ih (hd.step fun c hc hk ht => hfirst ?_) ?_)
      · obtain rfl : c = client := by simpa using hk
        exact ⟨hc, ht⟩
      · obtain ⟨q', hq', hr⟩ := hq
        rcases List.mem_cons.mp hq' with rfl | hq'
        · exact absurd hr hfirst
        · exact ⟨q', hq', hr⟩

/-- Together, two clients do not both hear it. -/
theorem not_both_audible (ha : a ≠ 0) (hd : Single a d) (hc : c ≠ c') :
    ¬ (Audible (outputs (step h (draining capacity) fun _ => true)
        (heard h (draining capacity) c) d l) ∧
      Audible (outputs (step h (draining capacity) fun _ => true)
        (heard h (draining capacity) c') d l)) := by
  induction l generalizing d with
  | nil => exact fun hboth => not_audible_nil hboth.1
  | cons q l ih =>
    rw [outputs, outputs, audible_append, audible_append]
    by_cases hreads : (∃ k, q.2.ReadsFor k) ∧ takes h q.1
    · obtain ⟨⟨k, hk⟩, ht⟩ := hreads
      obtain ⟨cycle, k' | _⟩ := q
      · -- the read is for one of the two at most, and leaves nothing for later
        have hdry := (hd.read (c := k') (fun _ => true) ha ht).2 rfl
        have only {e : UInt32} (he : e ≠ k') :
            ¬ Audible (heard h (draining capacity) e d (cycle, .readInput k')) := by
          unfold heard
          dsimp only
          rw [if_neg he.symm]
          exact not_audible_nil
        rintro ⟨h1, h2⟩
        have h1 := h1.resolve_right (outputs_of_dry hdry)
        have h2 := h2.resolve_right (outputs_of_dry hdry)
        by_cases he : c = k'
        · exact only (fun he' => hc (he.trans he'.symm)) h2
        · exact only he h1
      · exact hk.elim
    · have hnot (e : UInt32) (hr : q.2.ReadsFor e) : ¬ takes h q.1 := fun ht => hreads ⟨⟨e, hr⟩, ht⟩
      rintro ⟨h1, h2⟩
      exact ih (hd.step fun e hr _ => hnot e hr)
        ⟨h1.resolve_left (not_audible_of_not_takes (hnot c)),
          h2.resolve_left (not_audible_of_not_takes (hnot c'))⟩

end Readers

/-! ## Writers -/

section Writers

variable [Zero α] {h : AES67IOHandler} {net : ℕ → Net α} {keep : UInt32 → Bool}
  {d : Device α capacity} {cycle : Cycle} {channel : ℕ}

omit [Zero α] in
theorem written_le (r : Ring α capacity) (data : List α) :
    r.written data ≤ min data.length capacity := by
  unfold Ring.written
  omega

theorem length_outputBuffer {inputData : List α} {n m : ℕ} :
    (outputBuffer inputData n m channel).length = n := by
  rw [outputBuffer, List.length_map, List.length_range]

theorem written_readInput {c : UInt32} :
    (step h net keep d (cycle, .readInput c)).rt.written = d.rt.written := by
  unfold step
  dsimp only
  split_ifs
  · unfold OnReadClientInput processInput
    dsimp only
    split_ifs <;> rfl
  · rfl

theorem written_of_not_puts (hp : ¬ puts cycle) {q : Operation α} :
    (step h net keep d (cycle, q)).rt.written = d.rt.written := by
  cases q with
  | readInput c => exact written_readInput
  | mixOutput c frames =>
    unfold step OnWriteClientOutput
    dsimp only
    by_cases hr : cycle.isIORunning = true
    · by_cases hm : cycle.ioChannelCount = 0 ∨ cycle.ioChannelCount.toNat > kNumChannels
      · rw [if_pos hm, ite_self]
        rfl
      · have hlong : cycle.ioFrameCount.toNat > kMaxFramesPerBuffer := by
          by_contra hle
          push Not at hm hle
          exact hp ⟨hr, hle, hm.1, hm.2⟩
        rw [if_neg (by simpa [Device.before] using hr), if_neg hm]
        funext channel
        rw [processOutput, outputChannels, if_pos hlong]
        rfl
    · rw [if_pos (by simpa [Device.before] using hr)]
      rfl

theorem written_of_puts (hp : puts cycle) {c : UInt32} {frames : List α} :
    (step h net keep d (cycle, .mixOutput c frames)).rt.written channel = d.rt.written channel +
      if channel < cycle.ioChannelCount.toNat then
        ((d.before net cycle).outputBuffers channel).written
          (outputBuffer frames cycle.ioFrameCount.toNat cycle.ioChannelCount.toNat channel)
      else 0 := by
  obtain ⟨hr, hn, hc, hm⟩ := hp
  unfold step OnWriteClientOutput
  dsimp only
  rw [if_neg (by simpa [Device.before] using hr), if_neg (by
    push Not
    exact ⟨hc, hm⟩), processOutput, outputChannels, if_neg (by omega)]
  simp only [List.mem_range]
  rfl

/-- The samples that the operations of a cycle append. -/
theorem written_cycle (ops : List (Operation α)) :
    ((ops.map (Prod.mk cycle)).foldl (step h net keep) d).rt.written channel ≤
      d.rt.written channel +
        ops.countP Operation.isWrite * min cycle.ioFrameCount.toNat capacity := by
  induction ops generalizing d with
  | nil => simp
  | cons op ops ih =>
    rw [List.map_cons, List.foldl_cons]
    refine ih.trans ?_
    cases op with
    | readInput c =>
      rw [written_readInput, List.countP_cons_of_neg (by simp [Operation.isWrite])]
    | mixOutput c frames =>
      rw [List.countP_cons_of_pos (by rfl), Nat.succ_mul]
      by_cases hp : puts cycle
      · rw [written_of_puts hp]
        have hle := written_le ((d.before net cycle).outputBuffers channel)
          (outputBuffer frames cycle.ioFrameCount.toNat cycle.ioChannelCount.toNat channel)
        rw [length_outputBuffer] at hle
        split_ifs <;> omega
      · rw [written_of_not_puts hp]
        omega

/-- Over rings that the network empties before every operation they append that much. -/
theorem written_draining (hp : puts cycle) (ops : List (Operation α)) :
    ((ops.map (Prod.mk cycle)).foldl (step h (draining capacity) keep) d).rt.written 0 =
      d.rt.written 0 +
        ops.countP Operation.isWrite * min cycle.ioFrameCount.toNat capacity := by
  induction ops generalizing d with
  | nil => simp
  | cons op ops ih =>
    rw [List.map_cons, List.foldl_cons, ih]
    cases op with
    | readInput c =>
      rw [written_readInput, List.countP_cons_of_neg (by simp [Operation.isWrite])]
    | mixOutput c frames =>
      have hm : 0 < cycle.ioChannelCount.toNat := by
        rw [Nat.pos_iff_ne_zero]
        exact fun h0 => hp.2.2.1 (UInt32.toNat_inj.mp h0)
      have hempty : ((d.before (draining capacity) cycle).outputBuffers 0).elements = [] :=
        List.drop_eq_nil_of_le (d.rt.outputBuffers 0).length_le
      rw [List.countP_cons_of_pos (by rfl), Nat.succ_mul, written_of_puts hp, if_pos hm,
        Ring.written, hempty, length_outputBuffer]
      simp only [List.length_nil, Nat.sub_zero]
      omega

theorem written_cycle_of_not_puts (hp : ¬ puts cycle) (ops : List (Operation α)) :
    ((ops.map (Prod.mk cycle)).foldl (step h net keep) d).rt.written = d.rt.written := by
  induction ops generalizing d with
  | nil => rfl
  | cons op ops ih => rw [List.map_cons, List.foldl_cons, ih, written_of_not_puts hp]

end Writers

/-! ## Undisturbed -/

section Undisturbed

variable [Zero α] {h : AES67IOHandler} {run : List (Cycle × List (Operation α))}

theorem undisturbed_of (hr : OneReader h run) (hw : ∀ x ∈ run, WritersFit capacity x)
    (net : ℕ → Net α) (rt : RTSafeStreamInterface α capacity) : Undisturbed h net rt run := by
  refine ⟨fun client => ?_, along_of_mem fun d x hx channel => ?_⟩
  · by_cases hown : ∃ q ∈ requests run, q.2.ReadsFor client ∧ takes h q.1
    · obtain ⟨q, hq, hc, ht⟩ := hown
      exact outputs_of_own (fun q' hq' c' hc' ht' => hr q' hq' q hq c' client hc' hc ht' ht) _
    · exact outputs_of_not_takes (fun q hq hc ht => hown ⟨q, hq, hc, ht⟩) _ _ _ _
  · unfold cycleStep
    by_cases hp : puts x.1
    · have hle : ((x.2.map (Prod.mk x.1)).foldl (step h net fun _ => true) d).rt.written channel ≤
          d.rt.written channel +
            x.2.countP Operation.isWrite * min x.1.ioFrameCount.toNat capacity :=
        written_cycle x.2
      have := hw x hx hp
      omega
    · rw [written_cycle_of_not_puts hp]
      omega

variable [Nontrivial α]

theorem oneReader_of (hcap : 0 < capacity)
    (hall : ∀ (net : ℕ → Net α) (rt : RTSafeStreamInterface α capacity), Undisturbed h net rt run) :
    OneReader h run := by
  intro q hq q' hq' c c' hc hc' ht ht'
  by_contra hne
  obtain ⟨a, ha⟩ := exists_ne (0 : α)
  let rt : RTSafeStreamInterface α capacity :=
    { isIORunning := true
      inputBuffers := fun channel => if channel = 0 then ⟨[a], hcap⟩ else .empty
      outputBuffers := fun _ => .empty }
  have hsingle : Single a ({ rt := rt } : Device α capacity) :=
    ⟨by simp [rt], fun channel h0 => by simp [rt, h0, Ring.empty]⟩
  have hsame := (hall (draining capacity) rt).1
  refine not_both_audible (l := requests run) (h := h) ha hsingle hne ⟨?_, ?_⟩
  · rw [hsame c]
    exact audible_alone ha hsingle ⟨q, hq, hc, ht⟩
  · rw [hsame c']
    exact audible_alone ha hsingle ⟨q', hq', hc', ht'⟩

omit [Nontrivial α] in
theorem writersFit_of
    (hall : ∀ (net : ℕ → Net α) (rt : RTSafeStreamInterface α capacity), Undisturbed h net rt run) :
    ∀ x ∈ run, WritersFit capacity x := by
  intro x hx hp
  let rt : RTSafeStreamInterface α capacity :=
    { isIORunning := true, inputBuffers := fun _ => .empty, outputBuffers := fun _ => .empty }
  obtain ⟨before, after, rfl⟩ := List.append_of_mem hx
  have hbound := along_iff_prefixes.mp (hall (draining capacity) rt).2 before x
    ⟨after, by simp⟩ 0
  unfold cycleStep at hbound
  rw [written_draining hp] at hbound
  omega

/-- **Clients do not disturb one another** for all contents of the rings, all the network does and
all clients, exactly when one client at most ever reads from the rings and the writers of each cycle
come to its frames. -/
theorem undisturbed_iff (h : AES67IOHandler) (hcap : 0 < capacity)
    (run : List (Cycle × List (Operation α))) :
    (∀ (net : ℕ → Net α) (rt : RTSafeStreamInterface α capacity), Undisturbed h net rt run) ↔
      OneReader h run ∧ ∀ x ∈ run, WritersFit capacity x :=
  ⟨fun hall => ⟨oneReader_of hcap hall, writersFit_of hall⟩,
    fun hcond net rt => undisturbed_of hcond.1 hcond.2 net rt⟩

/-! A device of one channel, over rings for four samples, in cycles of one frame. -/

def mono : AES67IOHandler where
  cachedChannelCount := 1

def oneFrame : Cycle where
  isIORunning := true
  ioFrameCount := 1
  ioBytesCount := 4
  ioChannelCount := 1

/-- Rings of which the first input ring holds one sample. -/
def oneSample : RTSafeStreamInterface ℤ 4 where
  isIORunning := true
  inputBuffers channel := if channel = 0 then ⟨[7], by decide⟩ else .empty
  outputBuffers _ := .empty

theorem mono_undisturbed :
    Undisturbed mono (draining 4) oneSample [(oneFrame, [.readInput 1, .mixOutput 1 [5]])] := by
  refine (undisturbed_iff mono (by decide) _).mpr ⟨?_, ?_⟩ (draining 4) oneSample
  · simp [OneReader, requests, Operation.ReadsFor]
  · simp [WritersFit, oneFrame, List.countP_cons, Operation.isWrite]

/-- **Two clients of one cycle**: of two that read, the second hears silence where alone it would
hear the sample; and two that write append two frames. -/
theorem mono_disturbed :
    ¬ Undisturbed mono (draining 4) oneSample [(oneFrame, [.readInput 1, .readInput 2])] ∧
      ¬ Undisturbed mono (draining 4) oneSample [(oneFrame, [.mixOutput 1 [5], .mixOutput 2 [6]])] := by
  refine ⟨fun h => ?_, fun h => ?_⟩
  · have := h.1 2
    revert this
    decide
  · have := h.2.1 0
    revert this
    decide

end Undisturbed

end Aes67.AES67IOHandler
