import Mathlib
import Aes67.Ptp.Slave

/-!
# One exchange with a master

What the slave derives from a complete exchange, Sync, Follow_Up, Delay_Req and Delay_Resp, over a
path with transparent clocks. The correction of the Sync path is added to `t1`, as it should be;
the correction of the request path is added to `t4`, where it should be subtracted.

* `Exchange`: the messages of one exchange, with the ranges in which 64 bits hold their times;
* `Exchange.measurement_recorded`: the sample the slave derives from it;
* **`Exchange.measurement_accurate_iff`**: the sample is the true offset and delay, up to the truncation of
  whole nanoseconds, exactly when the request path's correction is below a nanosecond, or a
  rounding of the last bit hides it.
-/

namespace Aes67.Ptp

namespace Slave

variable {cfg : SlaveConfig} {s : Slave}

/-! ## The sample of a state -/

/-- The offset and the path delay `calculateOffsetAndDelay` derives from all four times. -/
def measurement (s : Slave) : Option (ℤ × ℤ) :=
  match s.readSync, s.readDelay with
  | some (t1, t2), some (t3, t4) => some (fullSample t1 t2 t3 t4)
  | _, _ => none

end Slave

/-! ## One exchange -/

/-- The messages of one exchange, as a slave in state `s` takes them: a two-step Sync received at
`t2`, its Follow_Up, a Delay_Req sent at `t3` and the Delay_Resp to it. Times are positive and
below `2 ^ 62` ns, after correction too. -/
structure Exchange (cfg : SlaveConfig) (s : Slave) where
  syncHeader : Header
  syncData : Datagram
  t2 : ℕ
  followUpHeader : Header
  followUpData : Datagram
  t3 : ℕ
  respHeader : Header
  respData : Datagram
  sync_ok : Slave.acceptsSync cfg syncHeader syncData = true
  sync_twoStep : syncHeader.isTwoStep = true
  followUp_length : 44 ≤ followUpData.length
  followUp_seq : followUpHeader.sequenceId = syncHeader.sequenceId
  resp_length : 54 ≤ respData.length
  resp_seq : respHeader.sequenceId = (s.delayReqSequenceId + 1) % 2 ^ 16
  resp_port : parsePortIdentity respData kRequestingPortOffset = cfg.selfPortId
  corr_ge : -2 ^ 63 ≤ syncHeader.correctionField + followUpHeader.correctionField
  corr_lt : syncHeader.correctionField + followUpHeader.correctionField < 2 ^ 63
  t1_pos : 0 < (parseTimestamp followUpData kTimestampOffset).toNanoseconds +
    (syncHeader.correctionField + followUpHeader.correctionField) / 2 ^ 16
  t1_lt : (parseTimestamp followUpData kTimestampOffset).toNanoseconds +
    (syncHeader.correctionField + followUpHeader.correctionField) / 2 ^ 16 < 2 ^ 62
  t2_lt : t2 < 2 ^ 62
  t3_pos : 0 < t3
  t3_lt : t3 < 2 ^ 62
  t4_pos : 0 < (parseTimestamp respData kTimestampOffset).toNanoseconds +
    respHeader.correctionField / 2 ^ 16
  t4_lt : (parseTimestamp respData kTimestampOffset).toNanoseconds +
    respHeader.correctionField / 2 ^ 16 < 2 ^ 62

namespace Exchange

variable {cfg : SlaveConfig} {s : Slave} (e : Exchange cfg s)

/-- The origin time the Follow_Up carries. -/
def t1 : ℕ := (parseTimestamp e.followUpData kTimestampOffset).toNanoseconds

/-- The receive time the Delay_Resp carries. -/
def t4 : ℕ := (parseTimestamp e.respData kTimestampOffset).toNanoseconds

/-- The reported residence on the Sync path, in units of `2 ^ -16` ns. -/
def corr1 : ℤ := e.syncHeader.correctionField + e.followUpHeader.correctionField

/-- The reported residence on the request path, in units of `2 ^ -16` ns. -/
def corr2 : ℤ := e.respHeader.correctionField

/-- The slave once it has recorded the Delay_Resp, at its computation of the sample. -/
def recorded : Slave :=
  (((s.handleSync cfg e.syncHeader e.syncData e.t2).handleFollowUp e.followUpHeader
    e.followUpData).sendDelayReq e.t3 true).recordDelayResp e.respHeader e.respData

/-- The difference of the slave's two one-way times. -/
def oneWayDiff : ℤ :=
  (e.t2 - (e.t1 + e.corr1 / 2 ^ 16)) - ((e.t4 + e.corr2 / 2 ^ 16) - e.t3)

/-- The sum of the slave's two one-way times. -/
def oneWaySum : ℤ :=
  (e.t2 - (e.t1 + e.corr1 / 2 ^ 16)) + ((e.t4 + e.corr2 / 2 ^ 16) - e.t3)

/-- The state after Sync and Follow_Up, up to the filters. -/
theorem followUp_state : ∃ s' : Slave,
    (s.handleSync cfg e.syncHeader e.syncData e.t2).handleFollowUp e.followUpHeader
      e.followUpData = s' ∧
    s'.waitingForFollowUp = false ∧ s'.t2ReceiveTimeNs = e.t2 ∧
    s'.t1SyncOriginTimestamp = .ofNs (u64 (e.t1 + e.corr1 / 2 ^ 16)) ∧
    s'.delayReqSequenceId = s.delayReqSequenceId := by
  have hc : i64 (e.syncHeader.correctionField + e.followUpHeader.correctionField) = e.corr1 :=
    i64_of_bounds e.corr_ge e.corr_lt
  refine ⟨_, rfl, ?_⟩
  rw [Slave.handleSync, e.sync_ok, Slave.recordSync, e.sync_twoStep]
  simp only [Bool.not_true, Bool.false_eq_true, if_false, if_true]
  rw [Slave.handleFollowUp, Slave.acceptsFollowUp]
  simp only [e.followUp_length, e.followUp_seq, decide_true, Bool.and_self, Bool.not_true,
    Bool.false_eq_true, if_false]
  obtain ⟨_, _, _, _, _, _, h⟩ := Slave.calculateOffsetAndDelay_frame _
  rw [h]
  refine ⟨rfl, rfl, ?_, rfl⟩
  simp only [Slave.recordFollowUp, hc]
  rfl

/-- **The sample the slave derives from an exchange.** -/
theorem measurement_recorded :
    e.recorded.measurement = some (e.oneWayDiff.tdiv 2, e.oneWaySum.tdiv 2) := by
  obtain ⟨s', hs, hw, h2, h1, hq⟩ := e.followUp_state
  have b1 : e.t1 + e.corr1 / 2 ^ 16 < 2 ^ 62 := e.t1_lt
  have p1 : 0 < e.t1 + e.corr1 / 2 ^ 16 := e.t1_pos
  have b4 : e.t4 + e.corr2 / 2 ^ 16 < 2 ^ 62 := e.t4_lt
  have p4 : 0 < e.t4 + e.corr2 / 2 ^ 16 := e.t4_pos
  have b2 := e.t2_lt
  have b3 := e.t3_lt
  have hsync : e.recorded.readSync = some (e.t1 + e.corr1 / 2 ^ 16, (e.t2 : ℤ)) := by
    rw [recorded, hs]
    simp only [Slave.recordDelayResp, Slave.sendDelayReq, Slave.storeDelayReq,
      Slave.advanceDelayReq, Slave.readSync, if_true, hw, h1, h2]
    rw [Timestamp.isZero_ofNs_u64 p1 (by omega), Timestamp.i64_toNanoseconds_u64 p1 (by omega),
      i64_of_bounds (by omega) (by omega)]
    rfl
  have hdelay : e.recorded.readDelay = some ((e.t3 : ℤ), e.t4 + e.corr2 / 2 ^ 16) := by
    rw [recorded, hs]
    simp only [Slave.recordDelayResp, Slave.sendDelayReq, Slave.storeDelayReq,
      Slave.advanceDelayReq, Slave.readDelay, if_true]
    have h3 : (e.t3 != 0) = true := bne_iff_ne.mpr e.t3_pos.ne'
    change (if (!false && e.t3 != 0 &&
      !(Timestamp.ofNs (u64 (e.t4 + e.corr2 / 2 ^ 16))).isZero) = true then _ else _) = _
    rw [Timestamp.isZero_ofNs_u64 p4 (by omega), h3, if_pos (by rfl)]
    change some (_, i64 (Timestamp.ofNs (u64 (e.t4 + e.corr2 / 2 ^ 16))).toNanoseconds) = _
    rw [Timestamp.i64_toNanoseconds_u64 p4 (by omega), i64_of_bounds (by omega) (by omega)]
  rw [Slave.measurement, hsync, hdelay]
  simp only [Slave.fullSample]
  rw [i64_of_bounds (x := (e.t2 : ℤ) - _) (by omega) (by omega),
    i64_of_bounds (x := _ - (e.t3 : ℤ)) (by omega) (by omega),
    i64_of_bounds (x := _ - _) (by omega) (by omega), i64_of_bounds (by omega) (by omega)]
  rfl

/-! ## Accuracy -/

/-- The correction of the request path is below a nanosecond in whole nanoseconds, or it is one
nanosecond and the halving of the two one-way times rounds the doubled error away. -/
def CorrectionHidden : Prop :=
  e.corr2 / 2 ^ 16 = 0 ∨
  (e.corr2 / 2 ^ 16 = 1 ∧ e.oneWayDiff % 2 = 1 ∧ e.oneWayDiff < 0 ∧
    e.corr1 % 2 ^ 16 + e.corr2 % 2 ^ 16 < 2 ^ 16) ∨
  (e.corr2 / 2 ^ 16 = -1 ∧
    ((e.oneWayDiff % 2 = 0 ∧ e.corr1 % 2 ^ 16 < e.corr2 % 2 ^ 16) ∨
     (e.oneWayDiff % 2 = 1 ∧ 0 < e.oneWayDiff ∧
       (e.oneWaySum < 0 ∨ 2 ^ 16 < e.corr1 % 2 ^ 16 + e.corr2 % 2 ^ 16))))

theorem abs_sub_lt_one_iff {q : ℚ} {n o t : ℤ} (hn : 0 < n) (h : q * n = t) :
    |(o : ℚ) - q| < 1 ↔ |n * o - t| < n := by
  have hn' : (0 : ℚ) < n := by exact_mod_cast hn
  have key : |(o : ℚ) - q| * n = ((|n * o - t| : ℤ) : ℚ) := by
    calc |(o : ℚ) - q| * n = |((o : ℚ) - q) * n| := by rw [abs_mul, abs_of_pos hn']
      _ = |(n * o - t : ℚ)| := by rw [← h]; ring_nf
      _ = ((|n * o - t| : ℤ) : ℚ) := by push_cast; rfl
  rw [← mul_lt_mul_iff_of_pos_right hn', key, one_mul]
  exact_mod_cast Iff.rfl

theorem cast_split (c : ℤ) :
    (c : ℚ) = 2 ^ 16 * ((c / 2 ^ 16 : ℤ) : ℚ) + ((c % 2 ^ 16 : ℤ) : ℚ) := by
  have h : ((2 ^ 16 * (c / 2 ^ 16) + c % 2 ^ 16 : ℤ) : ℚ) = c :=
    congrArg _ (Int.mul_ediv_add_emod c (2 ^ 16))
  rw [← h]
  push_cast
  rfl

theorem two_mul_tdiv (x : ℤ) : (x % 2 = 0 ∧ 2 * x.tdiv 2 = x) ∨
    (x % 2 = 1 ∧ 0 < x ∧ 2 * x.tdiv 2 = x - 1) ∨ (x % 2 = 1 ∧ x < 0 ∧ 2 * x.tdiv 2 = x + 1) := by
  have h := Int.mul_tdiv_add_tmod x 2
  have hm := Int.tmod_eq_emod (a := x) (b := 2)
  split_ifs at hm <;> omega

/-- With halves that are cut off towards zero, both errors are below a unit just where the whole part of
the correction is hidden. -/
theorem hidden_iff {x y u v c f₁ f₂ : ℤ} (hf₁ : 0 ≤ f₁ ∧ f₁ < 2 ^ 16) (hf₂ : 0 ≤ f₂ ∧ f₂ < 2 ^ 16)
    (even : (x + y) % 2 = 0) (hd : 0 ≤ 2 ^ 16 * y - f₁ - f₂ - 2 ^ 17 * c)
    (hu : (x % 2 = 0 ∧ 2 * u = x) ∨ (x % 2 = 1 ∧ 0 < x ∧ 2 * u = x - 1) ∨
      (x % 2 = 1 ∧ x < 0 ∧ 2 * u = x + 1))
    (hv : (y % 2 = 0 ∧ 2 * v = y) ∨ (y % 2 = 1 ∧ 0 < y ∧ 2 * v = y - 1) ∨
      (y % 2 = 1 ∧ y < 0 ∧ 2 * v = y + 1)) :
    ((-2 ^ 17 < 2 ^ 17 * u - (2 ^ 16 * x - f₁ + f₂ + 2 ^ 17 * c) ∧
        2 ^ 17 * u - (2 ^ 16 * x - f₁ + f₂ + 2 ^ 17 * c) < 2 ^ 17) ∧
      -2 ^ 17 < 2 ^ 17 * v - (2 ^ 16 * y - f₁ - f₂ - 2 ^ 17 * c) ∧
        2 ^ 17 * v - (2 ^ 16 * y - f₁ - f₂ - 2 ^ 17 * c) < 2 ^ 17) ↔
    c = 0 ∨ (c = 1 ∧ x % 2 = 1 ∧ x < 0 ∧ f₁ + f₂ < 2 ^ 16) ∨
      (c = -1 ∧ ((x % 2 = 0 ∧ f₁ < f₂) ∨
        (x % 2 = 1 ∧ 0 < x ∧ (y < 0 ∨ 2 ^ 16 < f₁ + f₂)))) := by
  constructor
  · rintro ⟨⟨h1, h2⟩, h3, h4⟩
    obtain rfl | rfl | rfl : c = -1 ∨ c = 0 ∨ c = 1 := by
      rcases hu with hu | hu | hu <;> omega
    · rcases hu with hu | hu | hu <;> rcases hv with hv | hv | hv <;> omega
    · exact Or.inl rfl
    · rcases hu with hu | hu | hu <;> rcases hv with hv | hv | hv <;> omega
  · rintro (rfl | ⟨rfl, h⟩ | ⟨rfl, h⟩)
    · rcases hu with hu | hu | hu <;> rcases hv with hv | hv | hv <;> omega
    · rcases hu with hu | hu | hu <;> rcases hv with hv | hv | hv <;> omega
    · rcases hu with hu | hu | hu <;> rcases hv with hv | hv | hv <;> omega

/-- **The sample is the true offset and path delay, up to truncation to whole nanoseconds, exactly
when the request path's correction is hidden.** -/
theorem measurement_accurate_iff (θ d : ℚ) (hd : 0 ≤ d)
    (h2 : (e.t2 : ℚ) = e.t1 + d + e.corr1 / 2 ^ 16 + θ)
    (h4 : (e.t4 : ℚ) = e.t3 + d + e.corr2 / 2 ^ 16 - θ) :
    (∃ offset delay, e.recorded.measurement = some (offset, delay) ∧
      |(offset : ℚ) - θ| < 1 ∧ |(delay : ℚ) - d| < 1) ↔ e.CorrectionHidden := by
  have c1 := cast_split e.corr1
  have c2 := cast_split e.corr2
  -- Both true values in units of `2 ^ -17` ns are whole numbers.
  have hθ : θ * (2 ^ 17 : ℤ) = ((2 ^ 16 * e.oneWayDiff - e.corr1 % 2 ^ 16 + e.corr2 % 2 ^ 16 +
      2 ^ 17 * (e.corr2 / 2 ^ 16) : ℤ) : ℚ) := by
    simp only [oneWayDiff]
    push_cast
    linarith
  have hδ : d * (2 ^ 17 : ℤ) = ((2 ^ 16 * e.oneWaySum - e.corr1 % 2 ^ 16 - e.corr2 % 2 ^ 16 -
      2 ^ 17 * (e.corr2 / 2 ^ 16) : ℤ) : ℚ) := by
    simp only [oneWaySum]
    push_cast
    linarith
  have hd' : 0 ≤ 2 ^ 16 * e.oneWaySum - e.corr1 % 2 ^ 16 - e.corr2 % 2 ^ 16 -
      2 ^ 17 * (e.corr2 / 2 ^ 16) := by
    have : (0 : ℚ) ≤ d * (2 ^ 17 : ℤ) := by positivity
    rw [hδ] at this
    exact_mod_cast this
  have even : (e.oneWayDiff + e.oneWaySum) % 2 = 0 := by
    simp only [oneWayDiff, oneWaySum]; omega
  have accurate : (∃ offset delay, e.recorded.measurement = some (offset, delay) ∧
      |(offset : ℚ) - θ| < 1 ∧ |(delay : ℚ) - d| < 1) ↔
      |((e.oneWayDiff.tdiv 2 : ℤ) : ℚ) - θ| < 1 ∧ |((e.oneWaySum.tdiv 2 : ℤ) : ℚ) - d| < 1 := by
    rw [e.measurement_recorded]
    simp
  rw [accurate, abs_sub_lt_one_iff (by norm_num) hθ, abs_sub_lt_one_iff (by norm_num) hδ,
    abs_lt, abs_lt, CorrectionHidden]
  exact hidden_iff (by omega) (by omega) even hd' (two_mul_tdiv _) (two_mul_tdiv _)

/-- A Follow_Up with origin time 1000 ns. -/
def followUpWire : Datagram := List.replicate 42 0 ++ [3, 232]

/-- A Delay_Resp with receive time `256 * hi + lo` ns, for port zero. -/
def respWire (hi lo : UInt8) : Datagram := List.replicate 42 0 ++ [hi, lo] ++ List.replicate 10 0

/-- Half a nanosecond of residence each way: `t1 = 1000`, `t2 = 1100`, `t3 = 2000`, `t4 = 2100`. -/
def quietExchange : Exchange {} {} where
  syncHeader := { flagField := 0x0200, sequenceId := 7 }
  syncData := List.replicate 44 0
  t2 := 1100
  followUpHeader := { sequenceId := 7, correctionField := 32768 }
  followUpData := followUpWire
  t3 := 2000
  respHeader := { sequenceId := 1, correctionField := 32768 }
  respData := respWire 8 52
  sync_ok := by decide
  sync_twoStep := by decide
  followUp_length := by decide
  followUp_seq := by decide
  resp_length := by decide
  resp_seq := by decide
  resp_port := by decide
  corr_ge := by decide
  corr_lt := by decide
  t1_pos := by decide
  t1_lt := by decide
  t2_lt := by decide
  t3_pos := by decide
  t3_lt := by decide
  t4_pos := by decide
  t4_lt := by decide

theorem quietExchange_accurate :
    ∃ offset delay, quietExchange.recorded.measurement = some (offset, delay) ∧
      |(offset : ℚ) - 0| < 1 ∧ |(delay : ℚ) - 199 / 2| < 1 := by
  have h1 : quietExchange.t1 = 1000 := by decide
  have h4 : quietExchange.t4 = 2100 := by decide
  refine (measurement_accurate_iff quietExchange 0 (199 / 2) (by norm_num) ?_ ?_).mpr ?_
  · rw [h1, show quietExchange.t2 = 1100 from rfl, show quietExchange.corr1 = 32768 from rfl]
    norm_num
  · rw [h4, show quietExchange.t3 = 2000 from rfl, show quietExchange.corr2 = 32768 from rfl]
    norm_num
  · exact Or.inl (by decide)

/-- A request that waits 1000 ns in a transparent clock, on clocks that agree over a path of
100 ns: `t1 = 1000`, `t2 = 1100`, `t3 = 2000`, `t4 = 3100`. -/
def queuedExchange : Exchange {} {} :=
  { quietExchange with
    followUpHeader := { sequenceId := 7 }
    respHeader := { sequenceId := 1, correctionField := 65536000 }
    respData := respWire 12 28
    followUp_seq := by decide
    resp_length := by decide
    resp_seq := by decide
    resp_port := by decide
    corr_ge := by decide
    corr_lt := by decide
    t1_pos := by decide
    t1_lt := by decide
    t4_pos := by decide
    t4_lt := by decide }

/-- The slave finds an offset of -1000 ns and a path of 1100 ns where the truth is 0 and 100. -/
theorem queuedExchange_inaccurate :
    (queuedExchange.t2 : ℚ) = queuedExchange.t1 + 100 + queuedExchange.corr1 / 2 ^ 16 + 0 ∧
    (queuedExchange.t4 : ℚ) = queuedExchange.t3 + 100 + queuedExchange.corr2 / 2 ^ 16 - 0 ∧
    queuedExchange.recorded.measurement = some (-1000, 1100) ∧
    ¬ ∃ offset delay, queuedExchange.recorded.measurement = some (offset, delay) ∧
      |(offset : ℚ) - 0| < 1 ∧ |(delay : ℚ) - 100| < 1 := by
  have h1 : queuedExchange.t1 = 1000 := by decide
  have h4 : queuedExchange.t4 = 3100 := by decide
  have hm : queuedExchange.recorded.measurement = some (-1000, 1100) := by
    rw [measurement_recorded]
    decide
  refine ⟨?_, ?_, hm, ?_⟩
  · rw [h1, show queuedExchange.t2 = 1100 from rfl, show queuedExchange.corr1 = 0 from rfl]
    norm_num
  · rw [h4, show queuedExchange.t3 = 2000 from rfl, show queuedExchange.corr2 = 65536000 from rfl]
    norm_num
  · rintro ⟨offset, delay, h, ho, -⟩
    rw [hm] at h
    cases h
    norm_num at ho

end Exchange

end Aes67.Ptp
