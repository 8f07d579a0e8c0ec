import Aes67.Ptp.Reference
import Aes67.Ptp.Wire

/-!
# What the reference servo is fed

`ExternalReference::service` measures each edge of the reference from the one before it and tells the
servo that a second has passed. Here the edges wait where the kernel keeps them, each stamped by a
clock that the servo's outcomes may have stepped, and each a pulse of the reference or not one at all.
The servo is a parameter.

* `Pulse`, `Stamped`: an edge as it happens, and as it is stamped;
* `Disciplined`, `Op`, `Disciplined.step`: the reference with its servo, and what happens to them;
* `Disciplined.service`, `service_reference`: a call of `service`, and the reference it leaves;
* `ServoCall.Proper`: one second of the reference beside one second of the clock;
* **`proper_iff`**: in every run each call is proper, just when each edge measured follows its base.
-/

namespace Aes67.LinuxPtpd

open Ptp (i64)

/-! ## Edges and calls -/

/-- An edge on an input: the time the clock gives it, and the second of the reference it marks, where
it is the reference's. -/
structure Pulse where
  index : UInt32
  sec : Int64
  nsec : UInt32
  mark : Option ℤ

/-- An edge as it waits to be read, with the steps the clock had taken when it was stamped. -/
structure Stamped extends Pulse where
  steps : ℕ

namespace Stamped

/-- `edgeNs`. -/
def edgeNs (e : Stamped) : UInt64 := e.sec.toUInt64 * 1000000000 + e.nsec.toUInt64

/-- `offsetNs`. -/
def offsetNs (e : Stamped) : ℤ := offsetFromSecondBoundary e.edgeNs

def Credible (e : Stamped) : Prop :=
  ¬ (e.offsetNs > kCredibleOffsetNs ∨ e.offsetNs < -kCredibleOffsetNs)

instance (e : Stamped) : Decidable e.Credible := inferInstanceAs (Decidable (¬ _))

/-- The edge marks the second after the one `base` marks, by a clock that has not been stepped. -/
def Follows (base e : Stamped) : Prop :=
  (∃ k, base.mark = some k ∧ e.mark = some (k + 1)) ∧ e.steps = base.steps

end Stamped

/-- The arguments of one `servoUpdate`, with the edge it is for and those read before it, the last one
first. -/
structure ServoCall where
  referenceDiff : ℤ
  localDiff : ℤ
  offsetNs : ℤ
  edge : Stamped
  before : List Stamped

/-- **One second of the reference beside one second of the clock**: the difference between two credible
edges that mark seconds next to each other, the clock not having been stepped. -/
def ServoCall.Proper (c : ServoCall) : Prop :=
  c.referenceDiff = kNanosecondsPerSecond ∧
    ∃ base, c.before.head? = some base ∧ base.Credible ∧ c.edge.Credible ∧
      c.localDiff = i64 ((c.edge.edgeNs.toNat : ℤ) - base.edgeNs.toNat) ∧ base.Follows c.edge

/-- `ServoOutcome`, as far as a step goes. -/
structure ServoOutcome where
  stepClock : Bool
  offsetCorrectionNs : ℤ

/-! ## The reference with its servo -/

/-- `ExternalReference` with the state of its servo, the edges that wait, the steps the clock has taken,
the edges read on the channel, the last one first, and every call of the servo. -/
structure Disciplined (Servo : Type) where
  reference : ExternalReference
  servo : Servo
  waiting : List Stamped := []
  steps : ℕ := 0
  read : List Stamped := []
  calls : List ServoCall := []

/-- What happens: `service` is called, an edge is stamped, `service` reads the next edge. -/
inductive Op
  | call (now : ℕ)
  | pulse (p : Pulse)
  | readEdge (readAt : ℕ) (adjusted : Bool)

namespace Disciplined

variable {Servo : Type} (servoUpdate : Servo → ℤ → ℤ → ℤ → Servo × ServoOutcome)
  (s : Disciplined Servo)

/-- The call of the servo for an edge on the channel, if it comes to one. -/
def servoCall (e : Stamped) : Option ServoCall :=
  if !e.Credible then none
  else if !s.reference.haveLastEdge then none
  else some ⟨kNanosecondsPerSecond,
    i64 (e.edgeNs - s.reference.lastEdgeNs).toNat, e.offsetNs, e, s.read⟩

/-- The servo is given the arguments of a call, and its outcome applied to the clock. -/
def steer (c : ServoCall) (adjusted : Bool) : Disciplined Servo :=
  let (servo, outcome) := servoUpdate s.servo c.referenceDiff c.localDiff c.offsetNs
  { s with
    servo
    steps := if outcome.stepClock && adjusted then s.steps + 1 else s.steps
    calls := c :: s.calls }

/-- One edge on the channel: it is measured and the servo steers, `adjusted` being what the system
answers. -/
def onEdge (e : Stamped) (readAt : ℕ) (adjusted : Bool) : Disciplined Servo :=
  let steered := match s.servoCall e with
    | none => s
    | some c => s.steer servoUpdate c adjusted
  { steered with reference := s.reference.onEdge e.edgeNs readAt, read := e :: s.read }

/-- One thing that happens. -/
def step : Op → Disciplined Servo
  | .call now =>
    if !s.reference.isEnabled then s else { s with reference := s.reference.holdover now }
  | .pulse p => { s with waiting := s.waiting ++ [{ p with steps := s.steps }] }
  | .readEdge readAt adjusted =>
    match s.waiting with
    | [] => s
    | e :: waiting =>
      if !s.reference.isEnabled then s
      else
        let s := { s with waiting }
        if e.index ≠ s.reference.channel then s else s.onEdge servoUpdate e readAt adjusted

/-- A reference just enabled, with a servo in any state. -/
def start (channel : UInt32) (servo : Servo) : Disciplined Servo :=
  { reference := .enable {} channel, servo }

/-- Every call of the servo was proper. -/
def AllProper : Prop := ∀ c ∈ s.calls, c.Proper

/-- **An edge that is measured follows its base**: where a credible edge is read on the channel and the
one read before it was kept, it marks the second after, and the clock was not stepped between them. -/
def Steady (s : Disciplined Servo) : Op → Prop
  | .readEdge _ _ => ∀ e ∈ s.waiting.head?, s.reference.isEnabled = true →
    e.index = s.reference.channel → e.Credible → s.reference.haveLastEdge = true →
      ∀ base ∈ s.read.head?, base.Follows e
  | _ => True

/-! ## The base -/

/-- The edge kept to measure from is the last one read, and was credible. -/
structure Inv : Prop where
  base : s.reference.haveLastEdge = true →
    ∃ e, s.read.head? = some e ∧ e.Credible ∧ s.reference.lastEdgeNs = e.edgeNs

variable {servoUpdate s} {e : Stamped} {c : ServoCall}

theorem inv_start (channel : UInt32) (servo : Servo) : (start channel servo).Inv :=
  ⟨fun h => by cases h⟩

/-- What an edge leaves to measure the next one from. -/
theorem onEdge_base (r : ExternalReference) (edgeNs : UInt64) (readAt : ℕ) :
    ((r.onEdge edgeNs readAt).haveLastEdge = true ↔
      ¬ (offsetFromSecondBoundary edgeNs > kCredibleOffsetNs ∨
        offsetFromSecondBoundary edgeNs < -kCredibleOffsetNs)) ∧
    ((r.onEdge edgeNs readAt).haveLastEdge = true → (r.onEdge edgeNs readAt).lastEdgeNs = edgeNs) := by
  unfold ExternalReference.onEdge
  dsimp only
  generalize offsetFromSecondBoundary edgeNs = offset
  by_cases hc : offset > kCredibleOffsetNs ∨ offset < -kCredibleOffsetNs
  · simp [hc]
  · cases hl : r.haveLastEdge <;> simp [hc]

theorem holdover_base (r : ExternalReference) (now : ℕ) :
    ((r.holdover now).haveLastEdge = true → r.haveLastEdge = true) ∧
      (r.holdover now).lastEdgeNs = r.lastEdgeNs := by
  unfold ExternalReference.holdover
  dsimp only
  split_ifs
  · exact ⟨id, rfl⟩
  · exact ⟨nofun, rfl⟩
  · exact ⟨id, rfl⟩

theorem servoCall_eq_some : s.servoCall e = some c ↔
    e.Credible ∧ s.reference.haveLastEdge = true ∧
      c = ⟨kNanosecondsPerSecond, i64 (e.edgeNs - s.reference.lastEdgeNs).toNat, e.offsetNs, e,
        s.read⟩ := by
  unfold servoCall
  by_cases hc : e.Credible
  · cases hl : s.reference.haveLastEdge with
    | false => simp [hc]
    | true => simp [hc, eq_comm]
  · simp [hc]

/-- The difference of two stamps, read as a signed word. -/
theorem i64_toNat_sub (a b : UInt64) : i64 (a - b).toNat = i64 ((a.toNat : ℤ) - b.toNat) := by
  have hb := b.toNat_lt
  have hsub : ((a - b).toNat : ℤ) = ((a.toNat : ℤ) - b.toNat) % 2 ^ 64 := by
    rw [UInt64.toNat_sub]
    push_cast
    omega
  rw [hsub]
  exact Int.emod_bmod _ (2 ^ 64)

/-- **A call is proper just when its edge follows its base.** -/
theorem proper_servoCall (h : s.Inv) (hc : s.servoCall e = some c) :
    c.Proper ↔ ∀ base ∈ s.read.head?, base.Follows e := by
  obtain ⟨hcredible, hlast, rfl⟩ := servoCall_eq_some.mp hc
  obtain ⟨base, hbase, hbaseCredible, hns⟩ := h.base hlast
  have hdiff := i64_toNat_sub e.edgeNs base.edgeNs
  dsimp only [ServoCall.Proper]
  rw [hbase, hns]
  constructor
  · rintro ⟨-, base', hbase', -, -, -, hfollows⟩ base'' hbase''
    rw [← Option.some.inj (hbase'.symm.trans hbase'')]
    exact hfollows
  · intro hfollows
    exact ⟨Eq.refl _, base, Eq.refl _, hbaseCredible, hcredible, hdiff, hfollows base (Eq.refl _)⟩

/-! ## One step -/

theorem onEdge_fields (readAt : ℕ) (adjusted : Bool) :
    (s.onEdge servoUpdate e readAt adjusted).reference = s.reference.onEdge e.edgeNs readAt ∧
      (s.onEdge servoUpdate e readAt adjusted).read = e :: s.read ∧
      (s.onEdge servoUpdate e readAt adjusted).calls = (s.servoCall e).toList ++ s.calls := by
  cases hc : s.servoCall e with
  | none =>
    rw [onEdge, hc]
    exact ⟨Eq.refl _, Eq.refl _, Eq.refl _⟩
  | some c =>
    rw [onEdge, hc]
    exact ⟨Eq.refl _, Eq.refl _, Eq.refl _⟩

theorem inv_onEdge (readAt : ℕ) (adjusted : Bool) :
    (s.onEdge servoUpdate e readAt adjusted).Inv := by
  obtain ⟨hlast, hns⟩ := onEdge_base s.reference e.edgeNs readAt
  obtain ⟨hreference, hread, -⟩ := @onEdge_fields _ servoUpdate s e readAt adjusted
  refine ⟨fun h => ⟨e, ?_, ?_, ?_⟩⟩
  · rw [hread, List.head?_cons]
  · rw [hreference] at h
    exact hlast.mp h
  · rw [hreference] at h ⊢
    exact hns h

theorem Inv.step (h : s.Inv) (op : Op) : (s.step servoUpdate op).Inv := by
  cases op with
  | call now =>
    rw [Disciplined.step]
    split_ifs
    · exact h
    · obtain ⟨hlast, hns⟩ := holdover_base s.reference now
      exact ⟨fun hk => by rw [hns]; exact h.base (hlast hk)⟩
  | pulse p => exact ⟨h.base⟩
  | readEdge readAt adjusted =>
    rw [Disciplined.step]
    cases s.waiting with
    | nil => exact h
    | cons e waiting =>
      dsimp only
      split_ifs
      · exact h
      · exact ⟨h.base⟩
      · exact inv_onEdge readAt adjusted

/-- One edge on the channel keeps every call proper just when it follows its base. -/
theorem allProper_onEdge_iff (h : s.Inv) (hp : s.AllProper) (readAt : ℕ) (adjusted : Bool) :
    (s.onEdge servoUpdate e readAt adjusted).AllProper ↔
      (e.Credible → s.reference.haveLastEdge = true → ∀ base ∈ s.read.head?, base.Follows e) := by
  obtain ⟨-, -, hcalls⟩ := @onEdge_fields _ servoUpdate s e readAt adjusted
  unfold AllProper
  rw [hcalls]
  cases hc : s.servoCall e with
  | none =>
    rw [Option.toList_none, List.nil_append]
    refine iff_of_true hp fun hcredible hlast => ?_
    have hsome := servoCall_eq_some.mpr ⟨hcredible, hlast, Eq.refl _⟩
    rw [hc] at hsome
    cases hsome
  | some c =>
    obtain ⟨hcredible, hlast, -⟩ := servoCall_eq_some.mp hc
    rw [Option.toList_some, List.singleton_append, List.forall_mem_cons, proper_servoCall h hc]
    exact ⟨fun hall _ _ => hall.1, fun hall => ⟨hall hcredible hlast, hp⟩⟩

/-- **One step keeps every call proper** just when it is steady. -/
theorem allProper_step_iff (h : s.Inv) (hp : s.AllProper) (op : Op) :
    (s.step servoUpdate op).AllProper ↔ s.Steady op := by
  cases op with
  | call now =>
    refine iff_of_true ?_ trivial
    rw [Disciplined.step]
    split_ifs <;> exact hp
  | pulse p => exact iff_of_true hp trivial
  | readEdge readAt adjusted =>
    rw [Disciplined.step, Steady]
    cases hw : s.waiting with
    | nil => exact iff_of_true hp fun e he => by cases he
    | cons e waiting =>
      have hhead : (∀ e' ∈ (e :: waiting).head?, s.reference.isEnabled = true →
          e'.index = s.reference.channel → e'.Credible → s.reference.haveLastEdge = true →
            ∀ base ∈ s.read.head?, base.Follows e') ↔
          (s.reference.isEnabled = true → e.index = s.reference.channel → e.Credible →
            s.reference.haveLastEdge = true → ∀ base ∈ s.read.head?, base.Follows e) := by
        simp only [List.head?_cons, Option.mem_some_iff, forall_eq']
      rw [hhead]
      dsimp only
      cases henabled : s.reference.isEnabled with
      | false => exact iff_of_true hp nofun
      | true =>
        by_cases hindex : e.index = s.reference.channel
        · have hiff := @allProper_onEdge_iff _ servoUpdate { s with waiting } e ⟨h.base⟩ hp readAt
            adjusted
          rw [if_neg (by decide), if_neg (not_not.mpr hindex), hiff]
          exact ⟨fun hall _ _ => hall, fun hall => hall rfl hindex⟩
        · rw [if_neg (by decide), if_pos hindex]
          exact iff_of_true hp fun _ hi => absurd hi hindex

/-! ## Every run -/

/-- **Every call of the servo is proper, in every state of a run, just when each step is steady.** -/
theorem proper_iff (servoUpdate : Servo → ℤ → ℤ → ℤ → Servo × ServoOutcome) (channel : UInt32)
    (servo : Servo) (ops : List Op) :
    Always (step servoUpdate) AllProper (start channel servo) ops ↔
      Along (step servoUpdate) Steady (start channel servo) ops := by
  have hinv : Always (step servoUpdate) Inv (start channel servo) ops :=
    always_of_step (fun _ op h => h.step op) (inv_start channel servo)
  have hboth : Always (step servoUpdate) (fun s => s.Inv ∧ s.AllProper) (start channel servo) ops ↔
      Along (step servoUpdate) Steady (start channel servo) ops :=
    always_iff_along (fun s op h => ⟨fun h' => (allProper_step_iff h.1 h.2 op).mp h'.2,
      fun h' => ⟨h.1.step op, (allProper_step_iff h.1 h.2 op).mpr h'⟩⟩)
      ⟨inv_start channel servo, fun c hc => by cases hc⟩
  rw [← hboth]
  exact ⟨fun h => hinv.and h, fun h => h.imp fun s hs => hs.2⟩

theorem marks_of_proper (h : c.Proper) :
    c.edge.mark = (c.before.head?.bind fun base => base.mark).map (· + 1) := by
  obtain ⟨-, base, hbase, -, -, -, ⟨k, hk, hk'⟩, -⟩ := h
  rw [hbase, hk', Option.bind_some, hk, Option.map_some]

/-- A pulse on channel 0 at a second of the reference, stamped to the nanosecond and read. -/
def pulseAt (second : ℕ) : List Op :=
  [.pulse ⟨0, .ofNat second, 0, some second⟩, .readEdge second false]

/-- **A pulse is missed**: the servo is told that the clock ran two seconds in one of the reference. -/
theorem missedPulse_not_proper :
    (([100, 101, 103].flatMap pulseAt).foldl (step fun _ _ _ _ => ((), ⟨false, 0⟩))
      (start 0 ())).calls.map (fun c => (c.referenceDiff, c.localDiff)) =
        [(1000000000, 2000000000), (1000000000, 1000000000)] ∧
    ¬ Always (step fun _ _ _ _ => ((), ⟨false, 0⟩)) AllProper (start 0 ())
      ([100, 101, 103].flatMap pulseAt) := by
  refine ⟨by decide, fun h => ?_⟩
  have hmarks : ¬ ∀ c ∈ (([100, 101, 103].flatMap pulseAt).foldl
      (step fun _ _ _ _ => ((), ⟨false, 0⟩)) (start 0 ())).calls,
      c.edge.mark = (c.before.head?.bind fun base => base.mark).map (· + 1) := by decide
  exact hmarks fun c hc => marks_of_proper (h.run c hc)

/-! ## A call of `service` -/

/-- One call of `service`, with when each edge is read and what the system answers to a step. -/
def serviceOps (now : ℕ) (reads : List (ℕ × Bool)) : List Op :=
  .call now :: reads.map fun r => .readEdge r.1 r.2

/-- The edges that wait, as they are read. -/
def events (waiting : List Stamped) (reads : List (ℕ × Bool)) : List Event :=
  List.zipWith (fun (e : Stamped) r => ⟨e.index, e.sec, e.nsec, r.1⟩) waiting reads

theorem onEdge_waiting (readAt : ℕ) (adjusted : Bool) :
    (s.onEdge servoUpdate e readAt adjusted).waiting = s.waiting := by
  cases hc : s.servoCall e with
  | none => rw [onEdge, hc]
  | some c =>
    rw [onEdge, hc]
    exact Eq.refl _

/-- One edge is read as `onEvent` reads it. -/
theorem readEdge_reference {waiting : List Stamped} (hw : s.waiting = e :: waiting)
    (h : s.reference.isEnabled = true) (r : ℕ × Bool) :
    (s.step servoUpdate (.readEdge r.1 r.2)).reference =
        s.reference.onEvent ⟨e.index, e.sec, e.nsec, r.1⟩ ∧
      (s.step servoUpdate (.readEdge r.1 r.2)).waiting = waiting := by
  rw [Disciplined.step, hw]
  dsimp only
  rw [h, if_neg (by decide), ExternalReference.onEvent]
  dsimp only
  split_ifs
  · exact ⟨Eq.refl _, Eq.refl _⟩
  · exact ⟨onEdge_fields r.1 r.2 |>.1, onEdge_waiting r.1 r.2⟩

theorem isEnabled_onEvent (r : ExternalReference) (event : Event) :
    (r.onEvent event).isEnabled = r.isEnabled := by
  rw [ExternalReference.onEvent]
  split_ifs
  · rfl
  · exact ExternalReference.isEnabled_onEdge _ _

theorem reads_reference (reads : List (ℕ × Bool)) (h : s.reference.isEnabled = true) :
    ((reads.map fun r => Op.readEdge r.1 r.2).foldl (step servoUpdate) s).reference =
      (events s.waiting reads).foldl ExternalReference.onEvent s.reference := by
  induction reads generalizing s with
  | nil => rw [events, List.zipWith_nil_right]; rfl
  | cons r reads ih =>
    rw [List.map_cons, List.foldl_cons]
    cases hw : s.waiting with
    | nil =>
      have hsame : s.step servoUpdate (.readEdge r.1 r.2) = s := by rw [Disciplined.step, hw]
      rw [hsame, ih h, hw, events, events, List.zipWith_nil_left, List.zipWith_nil_left]
    | cons e waiting =>
      obtain ⟨hreference, hwaiting⟩ := @readEdge_reference _ servoUpdate s e waiting hw h r
      rw [ih (by rw [hreference, isEnabled_onEvent, h]), hreference, hwaiting, events, events,
        List.zipWith_cons_cons, List.foldl_cons]

/-- A reference that is not enabled is left alone. -/
theorem reference_of_disabled (ops : List Op) (h : s.reference.isEnabled = false) :
    (ops.foldl (step servoUpdate) s).reference = s.reference := by
  induction ops generalizing s with
  | nil => rfl
  | cons op ops ih =>
    have hstep : (s.step servoUpdate op).reference = s.reference := by
      cases op with
      | call now => rw [Disciplined.step, h]; rfl
      | pulse p => rfl
      | readEdge readAt adjusted =>
        rw [Disciplined.step]
        cases s.waiting with
        | nil => rfl
        | cons e waiting => dsimp only; rw [h]; rfl
    rw [List.foldl_cons, ih (by rw [hstep, h]), hstep]

/-- **The reference is the one `service` leaves**, whatever the servo does. -/
theorem service_reference (now : ℕ) (reads : List (ℕ × Bool))
    (hlater : ∀ e ∈ events s.waiting reads, now ≤ e.readAt) :
    ((serviceOps now reads).foldl (step servoUpdate) s).reference =
      s.reference.service ⟨now, events s.waiting reads, hlater⟩ := by
  rw [serviceOps, List.foldl_cons, ExternalReference.service]
  cases h : s.reference.isEnabled with
  | false =>
    rw [← List.foldl_cons, reference_of_disabled _ h, if_pos (by rfl)]
  | true =>
    have hcall : s.step servoUpdate (.call now) =
        { s with reference := s.reference.holdover now } := by
      rw [Disciplined.step, h]
      rfl
    have henabled : (s.reference.holdover now).isEnabled = true := by
      rw [ExternalReference.holdover]
      dsimp only
      split_ifs <;> exact h
    rw [hcall, if_neg (by decide)]
    exact reads_reference reads henabled

end Disciplined

end Aes67.LinuxPtpd
