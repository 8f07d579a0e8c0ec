import Mathlib
import Aes67.Lib.Run

/-!
# The reference of the Linux grandmaster

The model of `ExternalReference::service`, which reads the edges of a one-per-second reference, and of
`Grandmaster::followTheReference`, which announces whether the clock is locked to it. The servo is left
out: it steers the clock that stamps the edges, and their timestamps are arbitrary here.

* `offsetFromSecondBoundary`; `ExternalReference` with `holdover`, `onEdge`, `service`; `Grandmaster`;
* `Backed`: the last ten edges were good and the last credible one is recent enough;
* `Sound`: what ties the lock flag, the counter and the time of the last edge to the edges received;
  `Sound.onEdge`, `Sound.holdover`;
* **`announced_iff`**: in every run a clock that is announced as locked is backed just where the last
  two edges were credible;
* `announced_glitch`: an edge that is not.
-/

namespace Aes67.LinuxPtpd

/-! ## Edges -/

def kNanosecondsPerSecond : ℤ := 1000000000

/-- `offsetFromSecondBoundary`. -/
def offsetFromSecondBoundary (edgeTimeNs : UInt64) : ℤ :=
  let withinSecond := (edgeTimeNs.toNat : ℤ) % kNanosecondsPerSecond
  if withinSecond ≥ kNanosecondsPerSecond / 2 then withinSecond - kNanosecondsPerSecond
  else withinSecond

def kCredibleOffsetNs : ℤ := 500000

/-- `ServoTuning::lockThresholdNs`, as `enable` sets it. -/
def lockThresholdNs : ℤ := 100

/-- `kHoldoverSeconds`, in nanoseconds. -/
def kHoldoverNs : ℕ := 3000000000

/-- An edge as it was received: its offset from the second, and when it was read. -/
structure Edge where
  offsetNs : ℤ
  readAt : ℕ

namespace Edge

def Credible (e : Edge) : Prop := e.offsetNs ≤ kCredibleOffsetNs ∧ -kCredibleOffsetNs ≤ e.offsetNs

def InWindow (e : Edge) : Prop := e.offsetNs ≤ lockThresholdNs ∧ -lockThresholdNs ≤ e.offsetNs

instance (e : Edge) : Decidable e.Credible := inferInstanceAs (Decidable (_ ∧ _))

instance (e : Edge) : Decidable e.InWindow := inferInstanceAs (Decidable (_ ∧ _))

theorem InWindow.credible {e : Edge} (h : e.InWindow) : e.Credible := by
  obtain ⟨h1, h2⟩ := h
  rw [lockThresholdNs] at h1 h2
  exact ⟨h1.trans (by decide), le_trans (by decide) h2⟩

end Edge

/-- An external timestamp: its channel, the time the clock stamped it with, and the steady clock when
it is read. -/
structure Event where
  index : UInt32
  sec : Int64
  nsec : UInt32
  readAt : ℕ

/-- One call of `service`: the steady clock when it starts, and the timestamps it finds, which it reads
after that. -/
structure Call where
  now : ℕ
  events : List Event
  later : ∀ e ∈ events, now ≤ e.readAt

/-! ## The reference -/

/-- `ReferenceStatus`, with the age of the last edge in nanoseconds. -/
structure ReferenceStatus where
  available : Bool := false
  locked : Bool := false
  offsetNs : ℤ := 0
  edges : UInt64 := 0
  rejected : UInt64 := 0
  sinceEdgeNs : ℕ := 0

/-- `ExternalReference`, with a trace of the edges received on its channel, the last one first. -/
structure ExternalReference where
  channel : UInt32 := 0
  isEnabled : Bool := false
  lastEdgeNs : UInt64 := 0
  haveLastEdge : Bool := false
  lastEdgeAt : ℕ := 0
  haveEdgeTime : Bool := false
  consecutiveInWindow : UInt64 := 0
  status : ReferenceStatus := {}
  received : List Edge := []

namespace ExternalReference

variable (r : ExternalReference)

/-- `ExternalReference::enable` on a clock that has the channel. -/
def enable (channel : UInt32) : ExternalReference :=
  { r with channel := channel, isEnabled := true, status := { r.status with available := true } }

/-- What `service` does before it reads anything. -/
def holdover (now : ℕ) : ExternalReference :=
  if !r.haveEdgeTime then r
  else
    let idle := now - r.lastEdgeAt
    let r := { r with status := { r.status with sinceEdgeNs := idle } }
    if idle > kHoldoverNs ∧ r.status.locked then
      { r with
        status := { r.status with locked := false }
        consecutiveInWindow := 0
        haveLastEdge := false }
    else r

/-- One edge on the channel. -/
def onEdge (edgeNs : UInt64) (readAt : ℕ) : ExternalReference :=
  let offsetNs := offsetFromSecondBoundary edgeNs
  let status :=
    { r.status with edges := r.status.edges + 1, offsetNs := offsetNs, sinceEdgeNs := 0 }
  let r :=
    { r with lastEdgeAt := readAt, haveEdgeTime := true, received := ⟨offsetNs, readAt⟩ :: r.received }
  if offsetNs > kCredibleOffsetNs ∨ offsetNs < -kCredibleOffsetNs then
    { r with
      status := { status with rejected := status.rejected + 1 }
      consecutiveInWindow := 0
      haveLastEdge := false }
  else if !r.haveLastEdge then
    { r with status := status, lastEdgeNs := edgeNs, haveLastEdge := true }
  else
    let consecutive :=
      if offsetNs ≤ lockThresholdNs ∧ offsetNs ≥ -lockThresholdNs then r.consecutiveInWindow + 1
      else 0
    { r with
      status := { status with locked := consecutive ≥ 10 }
      lastEdgeNs := edgeNs
      consecutiveInWindow := consecutive }

/-- One timestamp, which may be another channel's. -/
def onEvent (r : ExternalReference) (event : Event) : ExternalReference :=
  if event.index ≠ r.channel then r
  else r.onEdge (event.sec.toUInt64 * 1000000000 + event.nsec.toUInt64) event.readAt

/-- `ExternalReference::service`. -/
def service (call : Call) : ExternalReference :=
  if !r.isEnabled then r else call.events.foldl onEvent (r.holdover call.now)

/-! ## What a lock rests on -/

/-- The last ten edges received were credible and inside the window, and the last credible edge is at
most `kHoldoverSeconds` old. -/
def Backed (now : ℕ) : Prop :=
  (10 ≤ r.received.length ∧ ∀ e ∈ r.received.take 10, e.Credible ∧ e.InWindow) ∧
    ∃ e, r.received.find? (fun e => e.Credible) = some e ∧ now ≤ e.readAt + kHoldoverNs

/-- The last two edges received were credible. -/
def Undisturbed : Prop := ∀ e ∈ r.received.take 2, e.Credible

structure Sound : Prop where
  counted : r.consecutiveInWindow.toNat ≤ r.received.length
  inWindow : ∀ e ∈ r.received.take r.consecutiveInWindow.toNat, e.InWindow
  idle : r.haveLastEdge = false → r.consecutiveInWindow = 0
  last : ∀ e, r.received.head? = some e → r.haveEdgeTime = true ∧ r.lastEdgeAt = e.readAt
  /-- A lock without an edge to measure the next one from has just seen a glitch. -/
  glitch : r.status.locked = true → r.haveLastEdge = false →
    ∃ e, r.received.head? = some e ∧ ¬ e.Credible
  locked : r.status.locked = true → 10 ≤ r.consecutiveInWindow ∨ ¬ r.Undisturbed

namespace Sound

variable {r}

theorem start (channel : UInt32) : (enable {} channel).Sound where
  counted := Nat.zero_le _
  inWindow e he := by cases he
  idle _ := rfl
  last e he := by cases he
  glitch h := by cases h
  locked h := by cases h

theorem holdover (h : r.Sound) (now : ℕ) : (r.holdover now).Sound := by
  rw [ExternalReference.holdover]
  by_cases ht : (!r.haveEdgeTime) = true
  · rw [if_pos ht]
    exact h
  rw [if_neg ht]
  dsimp only
  by_cases hidle : now - r.lastEdgeAt > kHoldoverNs ∧ r.status.locked = true
  · rw [if_pos hidle]
    exact
      { counted := Nat.zero_le _
        inWindow := fun e he => by simp at he
        idle := fun _ => rfl
        last := h.last
        glitch := fun hl => by cases hl
        locked := fun hl => by cases hl }
  · rw [if_neg hidle]
    exact
      { counted := h.counted
        inWindow := h.inWindow
        idle := h.idle
        last := h.last
        glitch := h.glitch
        locked := h.locked }

/-- One more edge inside the window. -/
theorem inWindow_cons (h : r.Sound) {e : Edge} (he : e.InWindow) :
    (r.consecutiveInWindow + 1).toNat ≤ (e :: r.received).length ∧
      ∀ e' ∈ (e :: r.received).take (r.consecutiveInWindow + 1).toNat, e'.InWindow := by
  have hle : (r.consecutiveInWindow + 1).toNat ≤ r.consecutiveInWindow.toNat + 1 := by
    rw [UInt64.toNat_add]
    exact Nat.mod_le _ _
  refine ⟨hle.trans (Nat.succ_le_succ h.counted), fun e' he' => ?_⟩
  have hmem := List.take_subset_take_left _ hle he'
  rw [List.take_succ_cons] at hmem
  rcases List.mem_cons.mp hmem with rfl | hmem
  · exact he
  · exact h.inWindow e' hmem

theorem onEdge (h : r.Sound) (edgeNs : UInt64) (readAt : ℕ) : (r.onEdge edgeNs readAt).Sound := by
  rw [ExternalReference.onEdge]
  dsimp only
  generalize offsetFromSecondBoundary edgeNs = offset
  have hlast : ∀ e, (⟨offset, readAt⟩ :: r.received).head? = some e → true = true ∧ readAt = e.readAt :=
    fun e he => ⟨rfl, by rw [← Option.some.inj he]⟩
  by_cases hc : offset > kCredibleOffsetNs ∨ offset < -kCredibleOffsetNs
  · -- a glitch: the flag stays as it was, and the glitch stands first
    rw [if_pos hc]
    have hnot : ¬ (⟨offset, readAt⟩ : Edge).Credible := fun hcred =>
      hc.elim (not_lt.mpr hcred.1) (not_lt.mpr hcred.2)
    exact
      { counted := Nat.zero_le _
        inWindow := fun e he => by simp at he
        idle := fun _ => rfl
        last := hlast
        glitch := fun _ _ => ⟨_, rfl, hnot⟩
        locked := fun _ => Or.inr fun hall => hnot (hall _ List.mem_cons_self) }
  rw [if_neg hc]
  cases hl : r.haveLastEdge with
  | false =>
    -- the first edge again: where a lock is still set there was a glitch just before
    have h0 := h.idle hl
    exact
      { counted := h.counted.trans (Nat.le_succ _)
        inWindow := fun e he => by simp [h0] at he
        idle := fun hh => by cases hh
        last := hlast
        glitch := fun _ hh => by cases hh
        locked := fun hk => Or.inr fun hall => by
          obtain ⟨e, he, hnot⟩ := h.glitch hk hl
          obtain ⟨rest, hrest⟩ := List.head?_eq_some_iff.mp he
          refine hnot (hall e ?_)
          simp [hrest] }
  | true =>
    simp only [Bool.not_true, Bool.false_eq_true, if_false]
    by_cases hw : offset ≤ lockThresholdNs ∧ offset ≥ -lockThresholdNs
    · rw [if_pos hw]
      obtain ⟨hcounted, hin⟩ := h.inWindow_cons (e := ⟨offset, readAt⟩) hw
      exact
        { counted := hcounted
          inWindow := hin
          idle := fun hh => by cases hh
          last := hlast
          glitch := fun _ hh => by cases hh
          locked := fun hk => Or.inl (of_decide_eq_true hk) }
    · rw [if_neg hw]
      exact
        { counted := Nat.zero_le _
          inWindow := fun e he => by simp at he
          idle := fun hh => by cases hh
          last := hlast
          glitch := fun _ hh => by cases hh
          locked := fun hk => Or.inl (of_decide_eq_true hk) }

theorem onEvent (h : r.Sound) (event : Event) : (r.onEvent event).Sound := by
  rw [ExternalReference.onEvent]
  split_ifs
  · exact h
  · exact h.onEdge _ _

theorem service (h : r.Sound) (call : Call) : (r.service call).Sound := by
  rw [ExternalReference.service]
  split_ifs
  · exact h
  generalize call.events = events
  have hstart := h.holdover call.now
  generalize r.holdover call.now = r' at hstart ⊢
  induction events generalizing r' with
  | nil => exact hstart
  | cons event events ih => exact ih _ (hstart.onEvent event)

/-- A lock has seen edges. -/
theorem received_ne_nil (h : r.Sound) (hk : r.status.locked = true) : r.received ≠ [] := by
  intro hnil
  rcases h.locked hk with hten | hdisturbed
  · have hcounted := h.counted
    rw [hnil] at hcounted
    have h10 : 10 ≤ r.consecutiveInWindow.toNat := UInt64.le_iff_toNat_le.mp hten
    exact absurd (h10.trans hcounted) (by decide)
  · exact hdisturbed fun e he => by simp [hnil] at he

/-- **A lock is backed** where the last edge is recent, just if the last two were credible. -/
theorem backed_iff (h : r.Sound) (hk : r.status.locked = true) {now : ℕ}
    (hnow : now ≤ r.lastEdgeAt + kHoldoverNs) : r.Backed now ↔ r.Undisturbed := by
  refine ⟨fun hb e he => (hb.1.2 e (List.take_subset_take_left _ (by decide) he)).1, fun hu => ?_⟩
  have hten : 10 ≤ r.consecutiveInWindow.toNat :=
    UInt64.le_iff_toNat_le.mp ((h.locked hk).resolve_right (not_not.mpr hu))
  obtain ⟨e, rest, hrest⟩ := List.exists_cons_of_ne_nil (h.received_ne_nil hk)
  refine ⟨⟨hten.trans h.counted, fun e he => ?_⟩, e, ?_, ?_⟩
  · have hin := h.inWindow e (List.take_subset_take_left _ hten he)
    exact ⟨hin.credible, hin⟩
  · rw [hrest, List.find?_cons_of_pos]
    exact decide_eq_true (hu e (by simp [hrest]))
  · rwa [← (h.last e (by rw [hrest]; rfl)).2]

end Sound

/-! ## One call -/

/-- Where a lock is set, the last edge is at most `kHoldoverSeconds` old. -/
def Recent (now : ℕ) : Prop := r.status.locked = true → now ≤ r.lastEdgeAt + kHoldoverNs

variable {r}

theorem recent_holdover (h : r.Sound) (now : ℕ) : (r.holdover now).Recent now := by
  intro hk
  rw [holdover] at hk ⊢
  by_cases ht : (!r.haveEdgeTime) = true
  · rw [if_pos ht] at hk ⊢
    obtain ⟨e, rest, hrest⟩ := List.exists_cons_of_ne_nil (h.received_ne_nil hk)
    have htime := (h.last e (by rw [hrest]; rfl)).1
    simp [htime] at ht
  rw [if_neg ht] at hk ⊢
  dsimp only at hk ⊢
  by_cases hidle : now - r.lastEdgeAt > kHoldoverNs ∧ r.status.locked = true
  · rw [if_pos hidle] at hk
    cases hk
  · rw [if_neg hidle] at hk ⊢
    have hle := Nat.not_lt.mp fun hgt => hidle ⟨hgt, hk⟩
    change now ≤ r.lastEdgeAt + kHoldoverNs
    omega

theorem onEdge_lastEdgeAt (edgeNs : UInt64) (readAt : ℕ) :
    (r.onEdge edgeNs readAt).lastEdgeAt = readAt := by
  rw [onEdge]
  dsimp only
  split_ifs <;> rfl

theorem recent_events {events : List Event} {now : ℕ} (h : r.Recent now)
    (hlater : ∀ e ∈ events, now ≤ e.readAt) : (events.foldl onEvent r).Recent now := by
  induction events generalizing r with
  | nil => exact h
  | cons event events ih =>
    obtain ⟨hevent, hrest⟩ := List.forall_mem_cons.mp hlater
    refine ih (fun hk => ?_) hrest
    rw [onEvent] at hk ⊢
    split_ifs at hk ⊢
    · exact h hk
    · rw [onEdge_lastEdgeAt]
      exact hevent.trans (Nat.le_add_right _ _)

theorem recent_service (h : r.Sound) (he : r.isEnabled = true) (call : Call) :
    (r.service call).Recent call.now := by
  rw [service, if_neg (by simp [he])]
  exact recent_events (recent_holdover h call.now) call.later

theorem isEnabled_onEdge (edgeNs : UInt64) (readAt : ℕ) :
    (r.onEdge edgeNs readAt).isEnabled = r.isEnabled := by
  rw [onEdge]
  dsimp only
  split_ifs <;> rfl

theorem isEnabled_service (call : Call) : (r.service call).isEnabled = r.isEnabled := by
  rw [service]
  split_ifs
  · rfl
  have hstart : (r.holdover call.now).isEnabled = r.isEnabled := by
    rw [holdover]
    dsimp only
    split_ifs <;> rfl
  rw [← hstart]
  generalize r.holdover call.now = r'
  induction call.events generalizing r' with
  | nil => rfl
  | cons event events ih =>
    rw [List.foldl_cons, ih, onEvent]
    split_ifs
    · rfl
    · exact isEnabled_onEdge _ _

end ExternalReference

/-! ## The grandmaster -/

def kClockClassLocked : UInt8 := 13

def kClockClassFree : UInt8 := 248

def kTimeSourceLocked : UInt8 := 0x90

def kTimeSourceFree : UInt8 := 0xA0

/-- `Grandmaster`, as far as it follows a reference: what it announces of its clock. -/
structure Grandmaster where
  reference : Option ExternalReference := none
  announcedLocked : Bool := false
  clockClass : UInt8 := kClockClassFree
  timeSource : UInt8 := kTimeSourceFree

namespace Grandmaster

variable (g : Grandmaster) (call : Call)

/-- `Grandmaster::followTheReference`. -/
def followTheReference : Grandmaster :=
  match g.reference with
  | none => g
  | some reference =>
    let reference := reference.service call
    let locked := reference.status.locked
    if locked = g.announcedLocked then { g with reference := some reference }
    else
      { reference := some reference
        announcedLocked := locked
        clockClass := if locked then kClockClassLocked else kClockClassFree
        timeSource := if locked then kTimeSourceLocked else kTimeSourceFree }

/-- A grandmaster that has just started, on a reference that has just been enabled. -/
def start (channel : UInt32) : Grandmaster := { reference := some (.enable {} channel) }

/-- What holds between one call and the next: the class says whether a lock was announced. -/
structure Following (reference : ExternalReference) : Prop where
  found : g.reference = some reference
  sound : reference.Sound
  isEnabled : reference.isEnabled = true
  clockClass : g.clockClass = if g.announcedLocked then kClockClassLocked else kClockClassFree

variable {g call}

theorem Following.start (channel : UInt32) :
    (start channel).Following (.enable {} channel) where
  found := rfl
  sound := .start channel
  isEnabled := rfl
  clockClass := rfl

/-- One call: the reference is read, and the announcement says what its flag says. -/
theorem Following.follow {reference : ExternalReference} (h : g.Following reference)
    (call : Call) :
    (g.followTheReference call).Following (reference.service call) ∧
      (g.followTheReference call).announcedLocked = (reference.service call).status.locked := by
  have hsound := h.sound.service call
  have henabled := (ExternalReference.isEnabled_service call).trans h.isEnabled
  rw [followTheReference, h.found]
  dsimp only
  by_cases hl : (reference.service call).status.locked = g.announcedLocked
  · rw [if_pos hl]
    exact ⟨⟨rfl, hsound, henabled, h.clockClass⟩, hl.symm⟩
  · rw [if_neg hl]
    exact ⟨⟨rfl, hsound, henabled, rfl⟩, rfl⟩

/-- **A lock is announced just where the flag is set, and is backed just where the last two edges were
credible**, after every call of every run: ten edges inside the window stand behind it, and the last one
is at most three seconds old. -/
theorem announced_iff (channel : UInt32) (calls : List Call) :
    Along followTheReference
      (fun g call => ∃ r, (g.followTheReference call).reference = some r ∧
        ((g.followTheReference call).clockClass = kClockClassLocked ↔ r.status.locked = true) ∧
        (r.status.locked = true → (r.Backed call.now ↔ r.Undisturbed)))
      (Grandmaster.start channel) calls := by
  refine along_of_along (P := fun g => ∃ r, g.Following r) (C := fun _ _ => True)
    (fun g call _ hg _ => ?_) ⟨_, .start channel⟩ (along_of_forall fun _ _ => trivial)
  obtain ⟨reference, h⟩ := hg
  obtain ⟨hnext, hannounced⟩ := h.follow call
  refine ⟨⟨_, hnext⟩, _, hnext.found, ?_, fun hk => ?_⟩
  · rw [hnext.clockClass, hannounced]
    cases (reference.service call).status.locked <;> decide
  · exact hnext.sound.backed_iff hk
      (ExternalReference.recent_service h.sound h.isEnabled call hk)

/-! ## A glitch -/

/-- Eleven edges on the second, and one a fifth of a second late. -/
def lateEdge : Call where
  now := 0
  events :=
    (List.range 11).map (fun i => ⟨0, Int64.ofNat (i + 1), 0, 1000000000 * (i + 1)⟩) ++
      [⟨0, 12, 200000000, 12200000000⟩]
  later _ _ := Nat.zero_le _

/-- **The lock outlives an edge that is not credible.** -/
theorem announced_glitch : ¬ ∀ (channel : UInt32) (calls : List Call),
    Along followTheReference
      (fun g call => ∀ r, (g.followTheReference call).reference = some r →
        r.status.locked = true → r.Backed call.now) (Grandmaster.start channel) calls := by
  intro h
  have hbacked := (h 0 [lateEdge]).1 _ rfl (by decide)
  have hnot : ¬ ∀ e ∈ ((ExternalReference.enable {} 0).service lateEdge).received.take 10,
      e.Credible ∧ e.InWindow := by
    decide
  exact hnot hbacked.1.2

end Grandmaster

end Aes67.LinuxPtpd
