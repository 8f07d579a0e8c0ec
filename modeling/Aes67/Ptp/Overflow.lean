import Aes67.Ptp.Messages

/-!
# The servo's 64-bit arithmetic

Every signed addition, subtraction and negation between a message and the published offset, with the
value it has in exact arithmetic. Timestamps and corrections are whatever the bytes say, and the
filter adds eight offsets up.

* `Slave.recordOps`, `Servo.calculateOps`: the values the handler of a message computes;
* `Servo`: the slave with what its drift estimate remembers;
* `Slave.Near`: the two clocks are less than `2 ^ 60` ns apart by the times the servo has;
* `Servo.Inv`, **`inv_step`**: what one message leaves in the filters;
* **`noOverflow_of_near`**: a run in which the clocks stay near overflows nowhere.
-/

namespace Aes67.Ptp

/-! ## What is computed -/

/-- A signed 64-bit word holds the value. -/
def Fits (x : ℤ) : Prop := -2 ^ 63 ≤ x ∧ x < 2 ^ 63

instance (x : ℤ) : Decidable (Fits x) := inferInstanceAs (Decidable (_ ∧ _))

namespace Slave

variable (s : Slave)

/-- The signed operations of `completePdelay`. -/
def completeOps (t3MinusT2Ns : ℤ) : List ℤ :=
  match s.readPdelay with
  | none => []
  | some (t1, t4, correctionNs) =>
    [t4 - t1, t4 - t1 - t3MinusT2Ns, t4 - t1 - t3MinusT2Ns - correctionNs]

/-- The signed operations of a handler, `calculateOffsetAndDelay` apart. -/
def recordOps : Message → List ℤ
  | .followUp header _ => [s.syncCorrectionField + header.correctionField]
  | .pdelayResp header data receiveTimeNs =>
    (s.pdelayCorrectionNs + header.correctionField / 2 ^ 16) ::
      if header.isTwoStep then []
      else (s.recordPdelayResp header data receiveTimeNs).completeOps 0
  | .pdelayFollowUp header data =>
    (i64 (parseTimestamp data kTimestampOffset).toNanoseconds -
      i64 s.t2PdelayRequestReceipt.toNanoseconds) ::
    (s.pdelayCorrectionNs + header.correctionField / 2 ^ 16) ::
      (s.recordPdelayFollowUp header).completeOps (s.turnaround data)
  | _ => []

end Slave

/-- The slave and what its drift estimate remembers. -/
structure Servo where
  slave : Slave := {}
  lastDriftCalcTimeNs : ℕ := 0
  lastDriftCalcOffsetNs : ℤ := 0

namespace Servo

variable (better : MasterDataset → MasterDataset → Bool) (cfg : SlaveConfig) (v : Servo)

/-- Whether the drift is estimated once more: half a second has passed. -/
def driftDue (nowNs : ℕ) : Bool :=
  v.lastDriftCalcTimeNs ≠ 0 ∧ u64 (nowNs - v.lastDriftCalcTimeNs) > 500000000

/-- What the drift estimate remembers of a filtered offset. -/
def estimateDrift (nowNs : ℕ) (filteredOffset : ℤ) : Servo :=
  if v.lastDriftCalcTimeNs = 0 ∨ v.driftDue nowNs then
    { v with lastDriftCalcTimeNs := nowNs, lastDriftCalcOffsetNs := filteredOffset }
  else v

/-- `calculateOffsetAndDelay`, the drift estimate included. -/
def calculate (nowNs : ℕ) : Servo :=
  let v' := { v with slave := v.slave.calculateOffsetAndDelay }
  if v.slave.readSync.isNone then v' else v'.estimateDrift nowNs v'.slave.offsetNs

/-- The signed operations on the times `calculateOffsetAndDelay` reads. -/
def sampleOps (pathDelayNs t1 t2 : ℤ) : Option (ℤ × ℤ) → List ℤ
  | some (t3, t4) => [t2 - t1, t4 - t3, t2 - t1 - (t4 - t3), t2 - t1 + (t4 - t3)]
  | none => [t2 - t1, t2 - t1 - pathDelayNs]

/-- The signed operations of `calculateOffsetAndDelay`: the sample, the sum of the offsets, the drift
and `std::abs`. -/
def calculateOps (nowNs : ℕ) : List ℤ :=
  match v.slave.readSync with
  | none => []
  | some (t1, t2) =>
    let slave := v.slave.calculateOffsetAndDelay
    sampleOps v.slave.pathDelayNs t1 t2 v.slave.readDelay ++
      slave.offsetHistory.recent.scanl (· + ·) 0 ++
      (if v.driftDue nowNs then [slave.offsetNs - v.lastDriftCalcOffsetNs] else []) ++
      if slave.offsetNs < 0 then [-slave.offsetNs] else []

/-- One event, with the system time the drift estimate reads. -/
def step (i : Event × ℕ) : Servo :=
  match (v.slave.messageOf cfg i.1).bind v.slave.computing with
  | some slave => { v with slave }.calculate i.2
  | none => { v with slave := v.slave.step better cfg i.1 }

/-- The signed operations of one event. -/
def signedOps (i : Event × ℕ) : List ℤ :=
  match v.slave.messageOf cfg i.1 with
  | none => []
  | some message => v.slave.recordOps message ++
    match v.slave.computing message with
    | some slave => { v with slave }.calculateOps i.2
    | none => []

/-- No signed operation of the event overflows. -/
def NoOverflow (i : Event × ℕ) : Prop := ∀ x ∈ v.signedOps cfg i, Fits x

instance (i : Event × ℕ) : Decidable (v.NoOverflow cfg i) := inferInstanceAs (Decidable (∀ _ ∈ _, _))

end Servo

/-! ## Clocks that are near -/

/-- By the times of the sync path, and of the request path where there are any, the two clocks are
less than `2 ^ 60` ns apart. -/
def Near (pathDelayNs : ℤ) : Option (ℤ × ℤ) × Option (ℤ × ℤ) → Prop
  | (none, _) => True
  | (some (t1, t2), none) => -2 ^ 60 ≤ t2 - t1 - pathDelayNs ∧ t2 - t1 - pathDelayNs < 2 ^ 60
  | (some (t1, t2), some (t3, t4)) => |t2 - t1| < 2 ^ 62 ∧ |t4 - t3| < 2 ^ 62 ∧
    -2 ^ 61 ≤ t2 - t1 - (t4 - t3) ∧ t2 - t1 - (t4 - t3) < 2 ^ 61

instance (pathDelayNs : ℤ) : ∀ times, Decidable (Near pathDelayNs times)
  | (none, _) => isTrue trivial
  | (some (_, _), none) => inferInstanceAs (Decidable (_ ∧ _))
  | (some (_, _), some (_, _)) => inferInstanceAs (Decidable (_ ∧ _ ∧ _ ∧ _))

namespace Slave

/-- The times of the two paths the servo has with a message: the message's own, corrected, and those
the slave has stored. -/
def times (s : Slave) : Message → Option (ℤ × ℤ) × Option (ℤ × ℤ)
  | .sync header data receiveTimeNs =>
    (if header.isTwoStep ∨ (parseTimestamp data kTimestampOffset).isZero then none
      else some (i64 (parseTimestamp data kTimestampOffset).toNanoseconds, i64 receiveTimeNs),
      s.readDelay)
  | .followUp header data =>
    let origin : ℤ := (parseTimestamp data kTimestampOffset).toNanoseconds +
      (s.syncCorrectionField + header.correctionField) / 2 ^ 16
    (if u64 origin = 0 then none else some (i64 origin, i64 s.t2ReceiveTimeNs), s.readDelay)
  | .delayResp header data =>
    let receipt : ℤ := (parseTimestamp data kTimestampOffset).toNanoseconds +
      header.correctionField / 2 ^ 16
    (s.readSync, if s.t3DelayReqSendTimeNs = 0 ∨ u64 receipt = 0 then none
      else some (i64 s.t3DelayReqSendTimeNs, i64 receipt))
  | _ => (none, none)

/-- The clocks are near by the times of the message; two corrections add up, and a neighbour reports a
turnaround of less than `2 ^ 61` ns. -/
def Moderate (s : Slave) (message : Message) : Prop :=
  Near s.pathDelayNs (s.times message) ∧
  match message with
  | .followUp header _ => Fits (s.syncCorrectionField + header.correctionField)
  | .pdelayFollowUp _ data => |i64 (parseTimestamp data kTimestampOffset).toNanoseconds -
      i64 s.t2PdelayRequestReceipt.toNanoseconds| < 2 ^ 61
  | _ => True

instance (s : Slave) : DecidablePred s.Moderate
  | .followUp _ _ | .pdelayFollowUp _ _ => inferInstanceAs (Decidable (_ ∧ _))
  | .sync _ _ _ | .delayResp _ _ | .pdelayResp _ _ _ | .announce _ _ _ =>
    inferInstanceAs (Decidable (_ ∧ True))

end Slave

/-- The message of the event, if any, is moderate. -/
def Servo.Moderate (cfg : SlaveConfig) (v : Servo) (i : Event × ℕ) : Prop :=
  ∀ message ∈ v.slave.messageOf cfg i.1, v.slave.Moderate message

instance (cfg : SlaveConfig) (v : Servo) (i : Event × ℕ) : Decidable (v.Moderate cfg i) :=
  inferInstanceAs (Decidable (∀ _ ∈ _, _))

/-- The local clock is below `2 ^ 62` ns. -/
def Event.ClockBelow : Event → Prop
  | .datagram _ receiveTimeNs _ _ => receiveTimeNs < 2 ^ 62
  | .request sendTimeNs _ => sendTimeNs < 2 ^ 62
  | .checkAnnounceTimeout _ => True

instance : DecidablePred Event.ClockBelow
  | .datagram _ _ _ _ | .request _ _ => inferInstanceAs (Decidable (_ < _))
  | .checkAnnounceTimeout _ => isTrue trivial

/-! ## The state machine -/

theorem Servo.calculate_slave {v : Servo} {nowNs : ℕ} :
    (v.calculate nowNs).slave = v.slave.calculateOffsetAndDelay := by
  unfold calculate estimateDrift
  dsimp only
  split_ifs <;> rfl

/-- The slave is the one of the state machine. -/
theorem Servo.step_slave {better : MasterDataset → MasterDataset → Bool} {cfg : SlaveConfig}
    {v : Servo} {i : Event × ℕ} : (v.step better cfg i).slave = v.slave.step better cfg i.1 := by
  obtain ⟨e, nowNs⟩ := i
  cases e with
  | datagram data receiveTimeNs onEventSocket now =>
    have hstep := v.slave.step_datagram cfg better data receiveTimeNs onEventSocket now
    unfold step
    dsimp only
    cases hmessageOf : v.slave.messageOf cfg (.datagram data receiveTimeNs onEventSocket now) with
    | none => rfl
    | some message =>
      rw [hstep, hmessageOf, Option.bind_some]
      cases hcomputing : v.slave.computing message with
      | none => rfl
      | some s' => exact calculate_slave.trans (Slave.handle_of_computing hcomputing).symm
  | request sendTimeNs sent => rfl
  | checkAnnounceTimeout now => rfl

/-! ## The filters -/

theorem fits_i64 (x : ℤ) : Fits (i64 x) := by
  have h := Int.le_bmod (x := x) (m := 2 ^ 64) (by norm_num)
  have h' := Int.bmod_lt (x := x) (m := 2 ^ 64) (by norm_num)
  unfold Fits i64
  omega

theorem i64_of_fits {x : ℤ} (h : Fits x) : i64 x = x := i64_of_bounds h.1 h.2

theorem i64_u64 (x : ℤ) : i64 (u64 x) = i64 x := by
  have h : ((u64 x : ℕ) : ℤ) = x % 2 ^ 64 := Int.toNat_of_nonneg (Int.emod_nonneg _ (by norm_num))
  rw [i64, h]
  exact Int.emod_bmod x (2 ^ 64)

/-- The samples of a history are in a range. -/
structure History.Within (h : History) (a b : ℤ) : Prop where
  length_eq : h.cells.length = kFilterSize
  count_le : h.count ≤ kFilterSize
  cells : ∀ x ∈ h.cells, a ≤ x ∧ x < b

section Filters

variable {h : History} {a b sample x : ℤ} {l : List ℤ}

theorem History.Within.push (hw : h.Within a b) (hs : a ≤ sample ∧ sample < b) :
    (h.push sample).Within a b := by
  refine ⟨?_, ?_, fun x hx => ?_⟩
  · exact List.length_set.trans hw.length_eq
  · have := hw.count_le
    unfold History.push
    dsimp only
    split_ifs <;> omega
  · rcases List.mem_or_eq_of_mem_set hx with hx | rfl
    · exact hw.cells x hx
    · exact hs

theorem History.Within.recent (hw : h.Within a b) :
    h.recent.length = h.count ∧ ∀ x ∈ h.recent, a ≤ x ∧ x < b := by
  refine ⟨?_, fun x hx => hw.cells x (List.mem_of_mem_take hx)⟩
  rw [History.recent, List.length_take, hw.length_eq, min_eq_left hw.count_le]

theorem History.count_push_pos : 0 < (h.push sample).count := by
  unfold History.push kFilterSize
  dsimp only
  split_ifs <;> omega

/-- Sums from `x` on stay between `x` with that many of the bounds. -/
theorem scanl_add_bounds (hl : ∀ y ∈ l, a ≤ y ∧ y ≤ b) (ha : a ≤ 0) (hb : 0 ≤ b) :
    ∀ y ∈ l.scanl (· + ·) x, x + l.length * a ≤ y ∧ y ≤ x + l.length * b := by
  induction l generalizing x with
  | nil => simp
  | cons z l ih =>
    intro y hy
    have hz := hl z List.mem_cons_self
    have hla : (l.length : ℤ) * a ≤ 0 := mul_nonpos_of_nonneg_of_nonpos (by positivity) ha
    have hlb : 0 ≤ (l.length : ℤ) * b := by positivity
    rw [List.scanl_cons, List.mem_cons] at hy
    rw [List.length_cons]
    push_cast
    rcases hy with rfl | hy
    · constructor <;> linarith
    · have := ih (fun y hy => hl y (List.mem_cons_of_mem _ hy)) y hy
      constructor <;> linarith

theorem sum_mem_scanl : x + l.sum ∈ l.scanl (· + ·) x := by
  induction l generalizing x with
  | nil => simp
  | cons z l ih =>
    rw [List.scanl_cons, List.sum_cons, ← add_assoc]
    exact List.mem_cons_of_mem _ ih

end Filters

/-- An average of at most eight values is no further from zero than they are. -/
theorem average_bounds {sum c B : ℤ} (hc : 0 < c) (hsum : -(c * B) ≤ sum ∧ sum ≤ c * B) :
    -B ≤ sum.tdiv c ∧ sum.tdiv c ≤ B := by
  constructor
  · have h := Int.tdiv_le_tdiv hc hsum.1
    rwa [Int.neg_tdiv, Int.mul_tdiv_cancel_left _ hc.ne'] at h
  · have h := Int.tdiv_le_tdiv hc hsum.2
    rwa [Int.mul_tdiv_cancel_left _ hc.ne'] at h

namespace Slave

/-- What the filters hold while the clocks are near. -/
structure Filtered (s : Slave) : Prop where
  offsets : s.offsetHistory.Within (-2 ^ 60) (2 ^ 60)
  delays : s.delayHistory.Within 0 (2 ^ 62)
  pathDelay : 0 ≤ s.pathDelayNs ∧ s.pathDelayNs < 2 ^ 62

variable {s : Slave}

theorem Filtered.storeFilteredPathDelay (h : s.Filtered) {delayNs : ℤ} (hd : delayNs < 2 ^ 62) :
    (s.storeFilteredPathDelay delayNs).Filtered := by
  unfold Slave.storeFilteredPathDelay
  split_ifs with hneg
  · exact h
  · have hdelays := h.delays.push ⟨not_lt.mp hneg, hd⟩
    have hmin {l : List ℤ} (hl : ∀ x ∈ l, 0 ≤ x) {m : ℤ} (hm : 0 ≤ m ∧ m < 2 ^ 62) :
        0 ≤ l.foldl min m ∧ l.foldl min m < 2 ^ 62 := by
      induction l generalizing m with
      | nil => exact hm
      | cons x l ih =>
        have hx := hl x List.mem_cons_self
        exact ih (fun y hy => hl y (List.mem_cons_of_mem _ hy)) ⟨le_min hm.1 hx, min_lt_of_left_lt hm.2⟩
    exact ⟨h.offsets, hdelays, hmin (fun x hx => (hdelays.recent.2 x hx).1) ⟨not_lt.mp hneg, hd⟩⟩

/-- The eight offsets add up inside a word, and so their average is bounded. -/
theorem Filtered.publishOffset (h : s.Filtered) {offset : ℤ}
    (ho : -2 ^ 60 ≤ offset ∧ offset < 2 ^ 60) :
    (s.publishOffset offset).Filtered ∧
      (-2 ^ 60 ≤ (s.publishOffset offset).offsetNs ∧ (s.publishOffset offset).offsetNs ≤ 2 ^ 60) ∧
      ∀ x ∈ (s.publishOffset offset).offsetHistory.recent.scanl (· + ·) 0, Fits x := by
  have hw := h.offsets.push ho
  obtain ⟨hlen, hrecent⟩ := hw.recent
  have hpos := @History.count_push_pos s.offsetHistory offset
  have hcount : ((s.offsetHistory.push offset).count : ℤ) ≤ 8 := by exact_mod_cast hw.count_le
  have hsums := scanl_add_bounds (x := 0) (a := -2 ^ 60) (b := 2 ^ 60 - 1)
    (fun y hy => ⟨(hrecent y hy).1, Int.le_sub_one_of_lt (hrecent y hy).2⟩) (by norm_num)
    (by norm_num)
  rw [hlen] at hsums
  have hfits : ∀ x ∈ (s.offsetHistory.push offset).recent.scanl (· + ·) 0, Fits x := by
    intro x hx
    have := hsums x hx
    unfold Fits
    omega
  have hsum := sum_mem_scanl (x := 0) (l := (s.offsetHistory.push offset).recent)
  rw [zero_add] at hsum
  refine ⟨⟨hw, h.delays, h.pathDelay⟩, ?_, hfits⟩
  have hbounds := hsums _ hsum
  have haverage := @average_bounds (s.offsetHistory.push offset).recent.sum _ (2 ^ 60)
    (Int.natCast_pos.mpr hpos) ⟨by linarith, by linarith⟩
  unfold Slave.publishOffset
  dsimp only
  rw [i64_of_fits (hfits _ hsum)]
  exact haverage

/-- **One computation of the servo** on times that are near. -/
theorem Filtered.applySample (h : s.Filtered) {t1 t2 : ℤ} {delay : Option (ℤ × ℤ)}
    (hnear : Near s.pathDelayNs (some (t1, t2), delay)) :
    (s.applySample t1 t2 delay).Filtered ∧
      (-2 ^ 60 ≤ (s.applySample t1 t2 delay).offsetNs ∧
        (s.applySample t1 t2 delay).offsetNs ≤ 2 ^ 60) ∧
      (∀ x ∈ (s.applySample t1 t2 delay).offsetHistory.recent.scanl (· + ·) 0, Fits x) ∧
      ∀ x ∈ Servo.sampleOps s.pathDelayNs t1 t2 delay, Fits x := by
  have hpath := h.pathDelay
  cases delay with
  | none =>
    have hops : ∀ x ∈ Servo.sampleOps s.pathDelayNs t1 t2 none, Fits x := by
      simp only [Servo.sampleOps, List.forall_mem_cons, List.not_mem_nil, false_imp_iff,
        implies_true, and_true]
      unfold Near at hnear
      unfold Fits
      omega
    have h1 := hops _ List.mem_cons_self
    have h2 := hops _ (List.mem_cons_of_mem _ List.mem_cons_self)
    unfold Slave.applySample
    dsimp only
    rw [i64_of_fits h1, i64_of_fits h2]
    obtain ⟨hf, hb, hs⟩ := h.publishOffset hnear
    exact ⟨hf, hb, hs, hops⟩
  | some times =>
    obtain ⟨t3, t4⟩ := times
    obtain ⟨h21, h43, hlo, hhi⟩ := hnear
    rw [abs_lt] at h21 h43
    have hops : ∀ x ∈ Servo.sampleOps s.pathDelayNs t1 t2 (some (t3, t4)), Fits x := by
      simp only [Servo.sampleOps, List.forall_mem_cons, List.not_mem_nil, false_imp_iff,
        implies_true, and_true]
      unfold Fits
      omega
    obtain ⟨h1, h2, h3, h4, -⟩ : Fits _ ∧ Fits _ ∧ Fits _ ∧ Fits _ ∧ True := by
      simpa only [Servo.sampleOps, List.forall_mem_cons, List.not_mem_nil, false_imp_iff,
        implies_true, and_true] using hops
    have hoffset : -2 ^ 60 ≤ (t2 - t1 - (t4 - t3)).tdiv 2 ∧
        (t2 - t1 - (t4 - t3)).tdiv 2 < 2 ^ 60 :=
      ⟨(average_bounds (c := 2) (B := 2 ^ 60) (by norm_num) (by omega)).1,
        lt_of_le_of_lt (Int.tdiv_le_tdiv (by norm_num) (Int.le_sub_one_of_lt hhi)) (by decide)⟩
    have hdelay : (t2 - t1 + (t4 - t3)).tdiv 2 ≤ 2 ^ 62 - 1 :=
      (average_bounds (c := 2) (by norm_num) (by omega)).2
    unfold Slave.applySample fullSample
    dsimp only
    rw [i64_of_fits h1, i64_of_fits h2, i64_of_fits h3, i64_of_fits h4]
    obtain ⟨hf, hb, hs⟩ :=
      (h.storeFilteredPathDelay (Int.lt_of_le_sub_one hdelay)).publishOffset hoffset
    exact ⟨hf, hb, hs, hops⟩

/-! ## One message -/

/-- A time in nanoseconds is read back as the word it was. -/
theorem i64_ofNs (x : ℤ) : i64 (Timestamp.ofNs (u64 x)).toNanoseconds = i64 x := by
  rw [Timestamp.toNanoseconds_ofNs (u64_lt x), i64_u64]

/-- The servo reads the times of the message it has recorded. -/
theorem times_eq {message : Message} {s' : Slave} (hm : s.Moderate message)
    (h : s.computing message = some s') : s.times message = (s'.readSync, s'.readDelay) := by
  cases message with
  | sync header data receiveTimeNs =>
    rw [computing] at h
    split_ifs at h with htwo
    cases h
    simp [times, recordSync, readSync, readDelay, htwo]
  | followUp header data =>
    cases h
    have hsum : i64 (s.syncCorrectionField + header.correctionField) =
        s.syncCorrectionField + header.correctionField := i64_of_fits hm.2
    simp [times, recordFollowUp, readSync, readDelay, hsum, Timestamp.isZero_ofNs (u64_lt _),
      i64_ofNs]
  | delayResp header data =>
    cases h
    refine Prod.ext rfl ?_
    simp only [times, recordDelayResp, readDelay, Timestamp.isZero_ofNs (u64_lt _), i64_ofNs]
    by_cases h3 : s.t3DelayReqSendTimeNs = 0
    · simp [h3]
    · simp [h3]
  | _ => cases h

/-- What the peer delay exchange has stored. -/
structure Peers (s : Slave) : Prop where
  sent : s.t1PdelayReqSendTimeNs < 2 ^ 62
  received : s.t4PdelayRespReceiveTimeNs < 2 ^ 62
  first : s.waitingForPdelayResp = true → s.pdelayCorrectionNs = 0
  second : s.waitingForPdelayFollowUp = true →
    s.waitingForPdelayResp = false ∧ |s.pdelayCorrectionNs| ≤ 2 ^ 47

theorem Filtered.computing (h : s.Filtered) {message : Message} {s' : Slave}
    (hs' : s.computing message = some s') : s'.Filtered ∧ s'.pathDelayNs = s.pathDelayNs := by
  obtain ⟨hoffsets, hdelays, hpath, -, -⟩ := computing_filters hs'
  exact ⟨⟨hoffsets ▸ h.offsets, hdelays ▸ h.delays, hpath ▸ h.pathDelay⟩, hpath⟩

theorem Peers.computing (h : s.Peers) {message : Message} {s' : Slave}
    (hs' : s.computing message = some s') : s'.Peers := by
  cases message with
  | sync header data receiveTimeNs =>
    rw [Slave.computing] at hs'
    split_ifs at hs' with htwo
    cases hs'
    rw [recordSync, if_neg htwo]
    exact ⟨h.sent, h.received, h.first, h.second⟩
  | followUp header data | delayResp header data =>
    cases hs'
    exact ⟨h.sent, h.received, h.first, h.second⟩
  | _ => cases hs'

theorem Peers.sameInputs (h : s.Peers) {s' : Slave} (hs : s.SameInputs s') : s'.Peers := by
  obtain ⟨_, _, _, _, _, _, rfl⟩ := hs
  exact ⟨h.sent, h.received, h.first, h.second⟩

/-- **The end of a peer delay exchange.** -/
theorem Filtered.completePdelay (h : s.Filtered) (hsent : s.t1PdelayReqSendTimeNs < 2 ^ 62)
    (hreceived : s.t4PdelayRespReceiveTimeNs < 2 ^ 62) (hc : |s.pdelayCorrectionNs| ≤ 2 ^ 48)
    {t3MinusT2Ns : ℤ} (ht : |t3MinusT2Ns| < 2 ^ 61) :
    (s.completePdelay t3MinusT2Ns).Filtered ∧ ∀ x ∈ s.completeOps t3MinusT2Ns, Fits x := by
  rw [abs_le] at hc
  rw [abs_lt] at ht
  unfold Slave.completePdelay completeOps
  cases hread : s.readPdelay with
  | none => exact ⟨h, by simp⟩
  | some times =>
    obtain ⟨t1, t4, correctionNs⟩ := times
    rw [readPdelay] at hread
    split_ifs at hread
    simp only [Option.some.injEq, Prod.mk.injEq] at hread
    obtain ⟨rfl, rfl, rfl⟩ := hread
    have h1 : i64 s.t1PdelayReqSendTimeNs = s.t1PdelayReqSendTimeNs :=
      i64_of_bounds (by omega) (by omega)
    have h4 : i64 s.t4PdelayRespReceiveTimeNs = s.t4PdelayRespReceiveTimeNs :=
      i64_of_bounds (by omega) (by omega)
    dsimp only
    rw [h1, h4, linkDelay]
    have hd1 : Fits (s.t4PdelayRespReceiveTimeNs - s.t1PdelayReqSendTimeNs) := by
      constructor <;> omega
    have hd2 : Fits (s.t4PdelayRespReceiveTimeNs - s.t1PdelayReqSendTimeNs - t3MinusT2Ns) := by
      constructor <;> omega
    have hd3 : Fits (s.t4PdelayRespReceiveTimeNs - s.t1PdelayReqSendTimeNs - t3MinusT2Ns -
        s.pdelayCorrectionNs) := by
      constructor <;> omega
    have hlink := @average_bounds (s.t4PdelayRespReceiveTimeNs - s.t1PdelayReqSendTimeNs -
      t3MinusT2Ns - s.pdelayCorrectionNs) 2 (2 ^ 62 - 1) (by norm_num) (by omega)
    rw [i64_of_fits hd1, i64_of_fits hd2, i64_of_fits hd3]
    exact ⟨h.storeFilteredPathDelay (Int.lt_of_le_sub_one hlink.2), by simp [hd1, hd2, hd3]⟩

/-- The first correction is added to nothing. -/
theorem Filtered.recordPdelayResp (h : s.Filtered) (hp : s.Peers)
    (hw : s.waitingForPdelayResp = true) {header : Header} {data : Datagram} {t : ℕ}
    (hc : |header.correctionField / 2 ^ 16| ≤ 2 ^ 47) (ht : t < 2 ^ 62) :
    (s.recordPdelayResp header data t).Filtered ∧ (s.recordPdelayResp header data t).Peers ∧
      |(s.recordPdelayResp header data t).pdelayCorrectionNs| ≤ 2 ^ 47 := by
  have hcorrection : i64 (s.pdelayCorrectionNs + header.correctionField / 2 ^ 16) =
      header.correctionField / 2 ^ 16 := by
    rw [hp.first hw, zero_add]
    rw [abs_le] at hc
    exact i64_of_bounds (by omega) (by omega)
  have hnew : |(s.recordPdelayResp header data t).pdelayCorrectionNs| ≤ 2 ^ 47 := by
    rw [Slave.recordPdelayResp, hcorrection]
    exact hc
  exact ⟨⟨h.offsets, h.delays, h.pathDelay⟩, ⟨hp.sent, ht, nofun, fun _ => ⟨rfl, hnew⟩⟩, hnew⟩

/-- The second correction is added to the first. -/
theorem Filtered.recordPdelayFollowUp (h : s.Filtered) (hp : s.Peers)
    (hw : s.waitingForPdelayFollowUp = true) {header : Header}
    (hc : |header.correctionField / 2 ^ 16| ≤ 2 ^ 47) :
    (s.recordPdelayFollowUp header).Filtered ∧ (s.recordPdelayFollowUp header).Peers ∧
      |(s.recordPdelayFollowUp header).pdelayCorrectionNs| ≤ 2 ^ 48 ∧
      Fits (s.pdelayCorrectionNs + header.correctionField / 2 ^ 16) := by
  obtain ⟨hidle, hfirst⟩ := hp.second hw
  have hsum : |s.pdelayCorrectionNs + header.correctionField / 2 ^ 16| ≤ 2 ^ 48 := by
    rw [abs_le] at *
    omega
  have hfits : Fits (s.pdelayCorrectionNs + header.correctionField / 2 ^ 16) := by
    rw [abs_le] at hsum
    constructor <;> omega
  have hnew : |(s.recordPdelayFollowUp header).pdelayCorrectionNs| ≤ 2 ^ 48 := by
    rw [Slave.recordPdelayFollowUp, i64_of_fits hfits]
    exact hsum
  exact ⟨⟨h.offsets, h.delays, h.pathDelay⟩,
    ⟨hp.sent, hp.received, fun h => absurd (hidle.symm.trans h) Bool.false_ne_true, nofun⟩, hnew,
    hfits⟩

/-- The corrections of a moderate Follow_Up add up. -/
theorem fits_recordOps {message : Message} {s' : Slave} (hm : s.Moderate message)
    (h : s.computing message = some s') : ∀ x ∈ s.recordOps message, Fits x := by
  cases message with
  | followUp header data => simpa [recordOps] using hm.2
  | sync header data receiveTimeNs | delayResp header data => simp [recordOps]
  | _ => cases h

theorem correction_bounds {cfg : SlaveConfig} {data : Datagram} {header : Header}
    (h : admittedHeader cfg data = some header) : |header.correctionField / 2 ^ 16| ≤ 2 ^ 47 := by
  have hfits : Fits header.correctionField := by
    unfold admittedHeader at h
    split at h
    · cases h
    · next hparse =>
      split_ifs at h
      unfold parseHeader at hparse
      split_ifs at hparse
      simp only [Option.some.injEq] at h hparse
      rw [← h, ← hparse]
      dsimp only
      exact fits_i64 _
  unfold Fits at hfits
  rw [abs_le]
  omega

end Slave

/-! ## One step -/

namespace Servo

variable {better : MasterDataset → MasterDataset → Bool} {cfg : SlaveConfig} {v : Servo} {nowNs : ℕ}
  {i : Event × ℕ}

/-- What holds while the clocks stay near. -/
structure Inv (v : Servo) : Prop where
  filtered : v.slave.Filtered
  peers : v.slave.Peers
  drift : -2 ^ 60 ≤ v.lastDriftCalcOffsetNs ∧ v.lastDriftCalcOffsetNs ≤ 2 ^ 60

theorem inv_init : ({} : Servo).Inv where
  filtered :=
    { offsets := ⟨rfl, by decide, by decide⟩
      delays := ⟨rfl, by decide, by decide⟩
      pathDelay := by decide }
  peers := ⟨by decide, by decide, fun _ => rfl, fun h => by cases h⟩
  drift := by decide

theorem Inv.estimateDrift (h : v.Inv) {filteredOffset : ℤ}
    (ho : -2 ^ 60 ≤ filteredOffset ∧ filteredOffset ≤ 2 ^ 60) :
    (v.estimateDrift nowNs filteredOffset).Inv := by
  unfold Servo.estimateDrift
  split_ifs
  · exact ⟨h.filtered, h.peers, ho⟩
  · exact h

theorem Inv.calculate (h : v.Inv)
    (hnear : Near v.slave.pathDelayNs (v.slave.readSync, v.slave.readDelay)) :
    (v.calculate nowNs).Inv ∧ ∀ x ∈ v.calculateOps nowNs, Fits x := by
  have hpeers := h.peers.sameInputs (Slave.calculateOffsetAndDelay_frame v.slave)
  have hdrift := h.drift
  unfold Servo.calculate calculateOps
  cases hsync : v.slave.readSync with
  | none =>
    have hsame : v.slave.calculateOffsetAndDelay = v.slave := by
      rw [Slave.calculateOffsetAndDelay, hsync]
    dsimp only
    rw [hsame]
    exact ⟨h, by simp⟩
  | some times =>
    obtain ⟨t1, t2⟩ := times
    have hsample : v.slave.calculateOffsetAndDelay =
        v.slave.applySample t1 t2 v.slave.readDelay := by
      rw [Slave.calculateOffsetAndDelay, hsync]
    rw [hsync] at hnear
    obtain ⟨hfiltered, hoffset, hsums, hops⟩ := h.filtered.applySample hnear
    rw [← hsample] at hfiltered hoffset hsums
    refine ⟨Inv.estimateDrift (v := { v with slave := v.slave.calculateOffsetAndDelay })
      ⟨hfiltered, hpeers, hdrift⟩ hoffset, fun x hx => ?_⟩
    simp only [List.mem_append] at hx
    rcases hx with ((hx | hx) | hx) | hx
    · exact hops x hx
    · exact hsums x hx
    · split_ifs at hx
      · obtain rfl := List.mem_singleton.mp hx
        constructor <;> omega
      · cases hx
    · split_ifs at hx
      · obtain rfl := List.mem_singleton.mp hx
        constructor <;> omega
      · cases hx

/-- A message that leaves nothing to the servo is a peer delay message, or changes nothing the
arithmetic reads. -/
theorem Inv.handle (h : v.Inv) {data : Datagram} {t now : ℕ} {onEventSocket : Bool}
    {message : Message} (ht : t < 2 ^ 62) (hm : v.slave.Moderate message)
    (hmessageOf : v.slave.messageOf cfg (.datagram data t onEventSocket now) = some message)
    (hnone : v.slave.computing message = none) :
    ({ v with slave := v.slave.handle cfg better message } : Servo).Inv ∧
      ∀ x ∈ v.slave.recordOps message, Fits x := by
  obtain ⟨filtered, peers, drift⟩ := h
  obtain ⟨header, hheader, hmessage⟩ := Slave.of_messageOf hmessageOf
  have hc := Slave.correction_bounds hheader
  cases message with
  | sync header data receiveTimeNs =>
    have htwo : header.isTwoStep = true := by
      by_contra hone
      rw [Slave.computing, if_neg hone] at hnone
      cases hnone
    have hhandle : v.slave.handle cfg better (.sync header data receiveTimeNs) =
        v.slave.recordSync header data receiveTimeNs := if_pos htwo
    rw [hhandle, Slave.recordSync, if_pos htwo]
    exact ⟨⟨⟨filtered.offsets, filtered.delays, filtered.pathDelay⟩,
      ⟨peers.sent, peers.received, peers.first, peers.second⟩, drift⟩, by simp [Slave.recordOps]⟩
  | followUp header data | delayResp header data => cases hnone
  | announce header data now =>
    refine ⟨?_, by simp [Slave.recordOps]⟩
    obtain ⟨hasMaster, currentMaster, grandmasterIdentity, interval, locked, good, hannounce⟩ :=
      v.slave.handleAnnounce_frame better cfg header data now
    rw [Slave.handle, hannounce]
    exact ⟨⟨filtered.offsets, filtered.delays, filtered.pathDelay⟩,
      ⟨peers.sent, peers.received, peers.first, peers.second⟩, drift⟩
  | pdelayResp header' data' t' =>
    obtain ⟨rfl, rfl, rfl, haccepts⟩ := hmessage
    have hwaiting : v.slave.waitingForPdelayResp = true := by
      simp only [Slave.acceptsPdelayResp, Bool.and_eq_true] at haccepts
      exact haccepts.1.2
    obtain ⟨hfiltered, hpeers⟩ := @Slave.Filtered.recordPdelayResp _ filtered peers hwaiting _ data' _ hc ht
    have hsum : Fits (v.slave.pdelayCorrectionNs + header'.correctionField / 2 ^ 16) := by
      rw [peers.first hwaiting, abs_le] at *
      constructor <;> omega
    have hcorrection := hpeers.2
    have hzero : |(0 : ℤ)| < 2 ^ 61 := by norm_num
    obtain ⟨hdone, hops⟩ := hfiltered.completePdelay hpeers.1.sent hpeers.1.received
      (hcorrection.trans (by norm_num)) hzero
    refine ⟨?_, List.forall_mem_cons.mpr ⟨hsum, ?_⟩⟩
    · unfold Slave.handle
      dsimp only
      split_ifs
      · exact ⟨hfiltered, hpeers.1, drift⟩
      · exact ⟨hdone, hpeers.1.sameInputs (Slave.completePdelay_frame _ 0), drift⟩
    · split_ifs
      · simp
      · exact hops
  | pdelayFollowUp header' data' =>
    obtain ⟨rfl, rfl, haccepts⟩ := hmessage
    have hwaiting : v.slave.waitingForPdelayFollowUp = true := by
      simp only [Slave.acceptsPdelayFollowUp, Bool.and_eq_true] at haccepts
      exact haccepts.1.2
    obtain ⟨hfiltered, hpeers, hcorrection, hsum⟩ :=
      filtered.recordPdelayFollowUp peers hwaiting hc
    have hturn : |i64 (parseTimestamp data' kTimestampOffset).toNanoseconds -
        i64 v.slave.t2PdelayRequestReceipt.toNanoseconds| < 2 ^ 61 := hm.2
    have hturnaround : |v.slave.turnaround data'| < 2 ^ 61 := by
      rw [Slave.turnaround, i64_of_fits (by rw [abs_lt] at hturn; constructor <;> omega)]
      exact hturn
    obtain ⟨hdone, hops⟩ := hfiltered.completePdelay hpeers.sent hpeers.received hcorrection
      hturnaround
    refine ⟨⟨hdone, hpeers.sameInputs (Slave.completePdelay_frame _ _), drift⟩,
      List.forall_mem_cons.mpr ⟨?_, List.forall_mem_cons.mpr ⟨hsum, hops⟩⟩⟩
    rw [abs_lt] at hturn
    constructor <;> omega

/-- A turn of the request thread starts a new exchange. -/
theorem Inv.request (h : v.Inv) {sendTimeNs : ℕ} {sent : Bool} (ht : sendTimeNs < 2 ^ 62) :
    (v.step better cfg (.request sendTimeNs sent, nowNs)).Inv := by
  obtain ⟨filtered, ⟨hsent, hreceived, hfirst, hsecond⟩, drift⟩ := h
  rw [Servo.step]
  dsimp only [Slave.messageOf, Option.bind_none]
  rw [Slave.step, Slave.request]
  split
  · rw [Slave.sendPdelayReq]
    split_ifs
    · exact ⟨⟨filtered.offsets, filtered.delays, filtered.pathDelay⟩,
        ⟨ht, by norm_num [Slave.storePdelayReq], fun _ => rfl, fun hsome => by cases hsome⟩,
        drift⟩
    · exact ⟨⟨filtered.offsets, filtered.delays, filtered.pathDelay⟩,
        ⟨hsent, hreceived, hfirst, hsecond⟩, drift⟩
  · rw [Slave.sendDelayReq]
    split_ifs <;> exact ⟨⟨filtered.offsets, filtered.delays, filtered.pathDelay⟩,
      ⟨hsent, hreceived, hfirst, hsecond⟩, drift⟩

/-- **One event** while the clocks are near. -/
theorem inv_step (h : v.Inv) (hclock : i.1.ClockBelow) (hm : v.Moderate cfg i) :
    (v.step better cfg i).Inv ∧ v.NoOverflow cfg i := by
  obtain ⟨e, nowNs⟩ := i
  cases e with
  | datagram data t onEventSocket now =>
    have hstep := v.slave.step_datagram cfg better data t onEventSocket now
    unfold NoOverflow signedOps
    rw [Servo.step]
    dsimp only at hm ⊢
    cases hmessageOf : v.slave.messageOf cfg (.datagram data t onEventSocket now) with
    | none =>
      rw [hmessageOf] at hstep
      dsimp only [Option.bind_none]
      rw [hstep]
      exact ⟨h, by simp⟩
    | some message =>
      have hmoderate := hm message hmessageOf
      rw [Option.bind_some]
      rw [hmessageOf] at hstep
      dsimp only at hstep ⊢
      cases hcomputing : v.slave.computing message with
      | none =>
        obtain ⟨hinv, hops⟩ := @Inv.handle better _ _ h _ _ _ _ _ hclock hmoderate hmessageOf hcomputing
        dsimp only
        rw [hstep, List.append_nil]
        exact ⟨hinv, hops⟩
      | some s' =>
        obtain ⟨hfiltered, hpath⟩ := h.filtered.computing hcomputing
        have hnear := hmoderate.1
        rw [Slave.times_eq hmoderate hcomputing, ← hpath] at hnear
        obtain ⟨hinv, hops⟩ := @Inv.calculate { v with slave := s' } nowNs
          ⟨hfiltered, h.peers.computing hcomputing, h.drift⟩ hnear
        refine ⟨hinv, fun x hx => ?_⟩
        rcases List.mem_append.mp hx with hx | hx
        · exact Slave.fits_recordOps hmoderate hcomputing x hx
        · exact hops x hx
  | request sendTimeNs sent =>
    exact ⟨h.request hclock, by simp [NoOverflow, signedOps, Slave.messageOf]⟩
  | checkAnnounceTimeout now =>
    refine ⟨?_, by simp [NoOverflow, signedOps, Slave.messageOf]⟩
    rw [Servo.step]
    dsimp only [Slave.messageOf, Option.bind_none]
    rw [Slave.step, Slave.checkAnnounceTimeout]
    split_ifs
    · exact ⟨⟨h.filtered.offsets, h.filtered.delays, h.filtered.pathDelay⟩,
        ⟨h.peers.sent, h.peers.received, h.peers.first, h.peers.second⟩, h.drift⟩
    · exact h

/-- **A run in which the clocks stay near** overflows nowhere. -/
theorem noOverflow_of_near (events : List (Event × ℕ)) (hclock : ∀ i ∈ events, i.1.ClockBelow)
    (hm : Along (step better cfg) (Moderate cfg) {} events) :
    Along (step better cfg) (NoOverflow cfg) {} events :=
  along_of_along (fun _ i hi h hmoderate => inv_step h (hclock i hi) hmoderate) inv_init hm

/-- A Sync or a Follow_Up at this many seconds. -/
def syncWire (type flags seq seconds : UInt8) : Datagram :=
  [type, 2, 0, 44, 0, 0, flags, 0] ++ List.replicate 23 0 ++ [seq, 0, 0] ++
    [0, 0, 0, 0, 0, seconds, 0, 0, 0, 0]

/-- A Sync received at `t`, and its Follow_Up from a master that counts from when it was switched on,
a hundred seconds ago. -/
def syncAt (t : ℕ) (seq : UInt8) : List (Event × ℕ) :=
  [(.datagram (syncWire 0x00 2 seq 0) t true 0, t), (.datagram (syncWire 0x08 0 seq 100) 0 false 0, t)]

/-- A slave that counts from about then as well. -/
theorem syncAt_noOverflow :
    Along (step (fun _ _ => false) {}) (NoOverflow {}) {} (syncAt 100000050000 1) :=
  noOverflow_of_near _ (by decide) (by decide +kernel)

/-- **A slave on the time of day**, fifty-six years on: the sum of six offsets is over. -/
theorem syncAt_overflow :
    (∀ i ∈ [1, 2, 3, 4, 5, 6].flatMap (syncAt 1770000000000000000), i.1.ClockBelow) ∧
    ¬ Along (step (fun _ _ => false) {}) (NoOverflow {}) {}
      ([1, 2, 3, 4, 5, 6].flatMap (syncAt 1770000000000000000)) := by
  decide +kernel

end Servo

end Aes67.Ptp
