import Aes67.Ptp.Foreign
import Aes67.Ptp.Messages
import Aes67.Ptp.Select

/-!
# Changes of master

A change of master resets the lock and the run of good measurements, and nothing else: the filters,
the Sync that waits for its Follow_Up and the request that waits for its answer stay. Each of them is
followed here with a mark that says whether it was taken since the last change.

* `Marks`, `Tracked.step`: the slave with its marks;
* `Tracked.Unmixed`: what is published was computed from marked samples only, and the lock counts good
  measurements since the change; `Tracked.Separate`: the change found no offset in the filter, and the
  exchanges at hand were begun after it;
* `Tracked.Inv`, **`separate_step`**: one event; **`unmixed_iff`**: a run is unmixed just when it keeps
  its masters separate.
-/

namespace Aes67.Ptp

/-! ## Marks -/

/-- Which of the slave's data were taken since the last change of master; before the first change
all of them. -/
structure Marks where
  /-- a master has been selected before -/
  selected : Bool := false
  /-- the Sync awaiting its Follow_Up -/
  sync : Bool := true
  /-- `t1` and `t2` -/
  times : Bool := true
  /-- `t3` and `t4` -/
  request : Bool := true
  answer : Bool := true
  /-- the samples of the two filters, cell by cell -/
  offsets : List Bool := List.replicate kFilterSize true
  delays : List Bool := List.replicate kFilterSize true
  /-- good measurements since the change -/
  good : ℕ := 0
  /-- the change found no offset in the filter -/
  clean : Bool := true

/-- The mark of a sample goes to the cell the sample was written to, if one was. -/
def markAfter (before after : History) (marks : List Bool) (fresh : Bool) : List Bool :=
  if after.index = before.index then marks else marks.set before.index fresh

/-- All samples in use are marked. -/
def History.Marked (h : History) (marks : List Bool) : Prop := ∀ m ∈ marks.take h.count, m = true

instance (h : History) (marks : List Bool) : Decidable (h.Marked marks) :=
  inferInstanceAs (Decidable (∀ _ ∈ _, _))

namespace Slave

variable (better : MasterDataset → MasterDataset → Bool) (cfg : SlaveConfig) (s : Slave)

/-- Whether the message ends in a new offset. -/
def publishes (message : Message) : Bool :=
  match s.computing message with
  | some s' => s'.readSync.isSome
  | none => false

/-- Whether the computation uses the request as well as the Sync. -/
def usesRequest (message : Message) : Bool :=
  match s.computing message with
  | some s' => s'.readDelay.isSome
  | none => false

/-- Whether a turn of the request thread asks the master. -/
def asks : Bool := cfg.delayMechanism = .EndToEnd && s.hasMaster && s.syncCount > 0

end Slave

namespace Marks

variable (better : MasterDataset → MasterDataset → Bool) (cfg : SlaveConfig) (m : Marks) (s : Slave)

/-- A switch to a better master, or another one selected after the last was lost. -/
def changes : Message → Bool
  | .announce header data now =>
    let announce := parseAnnounce header data now
    data.length ≥ 64 && if s.hasMaster then better announce.dataset s.currentMaster.dataset
      else m.selected && announce.dataset.grandmasterIdentity != s.grandmasterIdentity
  | _ => false

/-- After a change nothing is marked, what a neighbour measured apart. -/
def change : Marks where
  selected := true
  sync := false
  times := false
  request := false
  answer := false
  offsets := List.replicate kFilterSize false
  delays := if cfg.delayMechanism = .PeerToPeer then m.delays else List.replicate kFilterSize false
  good := 0
  clean := s.offsetHistory.count = 0

/-- A message that is recorded is of now. -/
def record : Message → Marks
  | .sync header _ _ => { m with sync := true, times := if header.isTwoStep then m.times else true }
  | .followUp _ _ => { m with times := m.sync }
  | .delayResp _ _ => { m with answer := true }
  | .announce _ data _ => { m with selected := m.selected || data.length ≥ 64 }
  | .pdelayResp _ _ _ | .pdelayFollowUp _ _ => m

theorem record_clean (message : Message) : (m.record message).clean = m.clean := by
  cases message <;> rfl

/-- The mark of the sample a message ends in: of the times it is computed from, and of the stored path
delay. A peer delay is no measurement of a master. -/
def fresh (message : Message) : Bool :=
  match s.computing message with
  | some _ => (m.record message).times && if s.usesRequest message then
      (m.record message).request && (m.record message).answer
    else decide (s.delayHistory.Marked m.delays)
  | none => true

/-- The marks after a message. -/
def step (message : Message) : Marks :=
  if m.changes better s message then m.change cfg s
  else
    let s' := s.handle cfg better message
    { m.record message with
      offsets := markAfter s.offsetHistory s'.offsetHistory m.offsets (m.fresh s message)
      delays := markAfter s.delayHistory s'.delayHistory m.delays (m.fresh s message)
      good := if s.publishes message ∧ (s'.offsetNs.natAbs : ℤ) < kLockToleranceNs then m.good + 1
        else m.good }

end Marks

/-- The slave with its marks. -/
structure Tracked where
  slave : Slave := {}
  marks : Marks := {}

namespace Tracked

variable (better : MasterDataset → MasterDataset → Bool) (cfg : SlaveConfig) (p : Tracked) (e : Event)

def step : Tracked where
  slave := p.slave.step better cfg e
  marks := match p.slave.messageOf cfg e, e with
    | some message, _ => p.marks.step better cfg p.slave message
    | none, .request _ sent =>
      if sent && p.slave.asks cfg then { p.marks with request := true } else p.marks
    | none, _ => p.marks

/-- The event publishes an offset. -/
def Publishes : Prop := ∃ message ∈ p.slave.messageOf cfg e, p.slave.publishes message = true

/-- The offsets that are averaged and the delays of which the smallest is published are marked, and
the lock is reported after eight good measurements. -/
def Unmixed : Prop :=
  let p' := p.step better cfg e
  (p.Publishes cfg e → p'.slave.offsetHistory.Marked p'.marks.offsets ∧
    p'.slave.delayHistory.Marked p'.marks.delays) ∧
  (p'.slave.locked = true → kLockThreshold ≤ p'.marks.good)

/-- A message that ends in an offset does so after a change that found none, and from a Sync and a
request of its own time; a change does not take over a lock. -/
def Separate : Prop :=
  ∀ message ∈ p.slave.messageOf cfg e,
    (p.slave.publishes message = true → p.marks.clean = true ∧
      (p.marks.record message).times = true ∧ (p.slave.usesRequest message = true →
        (p.marks.record message).request = true ∧ (p.marks.record message).answer = true)) ∧
    (p.marks.changes better p.slave message = true → p.slave.hasMaster = true ∨
      p.slave.locked = false)

end Tracked

/-! ## Marks of a ring -/

section Ring

variable {h : History} {marks : List Bool} {x : ℤ} {f : Bool}

/-- The ring fills up from its first cell and then goes round. -/
structure History.Regular (h : History) : Prop where
  index_lt : h.index < kFilterSize
  count_le : h.count ≤ kFilterSize
  index_eq : h.count < kFilterSize → h.index = h.count

theorem History.Regular.push (hr : h.Regular) : (h.push x).Regular := by
  obtain ⟨hi, hc, he⟩ := hr
  unfold kFilterSize at hi hc he
  constructor <;> unfold History.push kFilterSize <;> dsimp only
  · omega
  · split_ifs <;> omega
  · intro hlt
    split_ifs at hlt ⊢ with hcount
    · have := he hcount
      omega
    · omega

theorem History.Regular.index_push_ne (hr : h.Regular) : (h.push x).index ≠ h.index := by
  have := hr.index_lt
  unfold kFilterSize at this
  unfold History.push kFilterSize
  dsimp only
  omega

theorem markAfter_self : markAfter h h marks f = marks := if_pos rfl

theorem markAfter_push (hr : h.Regular) : markAfter h (h.push x) marks f = marks.set h.index f :=
  if_neg hr.index_push_ne

theorem marked_iff : h.Marked marks ↔ ∀ j < h.count, marks.getD j true = true := by
  unfold History.Marked
  constructor
  · intro hm j hj
    rcases lt_or_ge j marks.length with hlt | hge
    · rw [List.getD_eq_getElem _ _ hlt]
      exact hm _ (List.mem_take_iff_getElem.mpr ⟨j, by omega, rfl⟩)
    · rw [List.getD_eq_default _ _ hge]
  · intro hm m hmem
    obtain ⟨j, hj, rfl⟩ := List.mem_take_iff_getElem.mp hmem
    have := hm j (by omega)
    rwa [List.getD_eq_getElem _ _ (by omega)] at this

theorem getD_set {i j : ℕ} (hi : i < marks.length) :
    (marks.set i f).getD j true = if j = i then f else marks.getD j true := by
  rw [List.getD_eq_getElem?_getD, List.getD_eq_getElem?_getD, List.getElem?_set]
  by_cases hij : i = j
  · subst hij
    rw [if_pos rfl, if_pos hi, if_pos rfl]
    rfl
  · rw [if_neg hij, if_neg (Ne.symm hij)]

/-- **A sample joins marked ones**: all are marked just when it is. -/
theorem marked_push (hr : h.Regular) (hl : marks.length = kFilterSize) (hm : h.Marked marks) :
    (h.push x).Marked (marks.set h.index f) ↔ f = true := by
  obtain ⟨hi, hc, he⟩ := hr
  rw [marked_iff] at hm ⊢
  have hcount : (h.push x).count = if h.count < kFilterSize then h.count + 1 else h.count := rfl
  rw [hcount]
  constructor
  · intro hall
    have := hall h.index (by split_ifs <;> omega)
    rwa [getD_set (by omega), if_pos rfl] at this
  · intro hf j hj
    rw [getD_set (by omega)]
    split_ifs with hji
    · exact hf
    · exact hm j (by split_ifs at hj <;> omega)

/-- A sample joins unmarked ones, of which one stays at least. -/
theorem not_marked_push (hr : h.Regular) (hpos : 0 < h.count) :
    ¬ (h.push x).Marked ((List.replicate kFilterSize false).set h.index f) := by
  obtain ⟨hi, hc, he⟩ := hr
  have hcount : (h.push x).count = if h.count < kFilterSize then h.count + 1 else h.count := rfl
  have hget (j : ℕ) (hj : j < kFilterSize) :
      (List.replicate kFilterSize false).getD j true = false := by
    rw [List.getD_eq_getElem _ _ (by rwa [List.length_replicate]), List.getElem_replicate]
  rw [marked_iff, hcount]
  intro hall
  unfold kFilterSize at hi hc he hall hget
  by_cases h0 : h.index = 0
  · have := hall 1 (by split_ifs <;> omega)
    rw [getD_set (by simp; omega), if_neg (by omega), hget 1 (by omega)] at this
    exact Bool.false_ne_true this
  · have := hall 0 (by split_ifs <;> omega)
    rw [getD_set (by simp; omega), if_neg (by omega), hget 0 (by omega)] at this
    exact Bool.false_ne_true this

end Ring

/-! ## What a message does to the filters -/

namespace Slave

variable {better : MasterDataset → MasterDataset → Bool} {cfg : SlaveConfig} {s s' : Slave}
  {message : Message}

/-- No offset is published; a neighbour's delay may be, and a lock may be lost. -/
structure Quiet (cfg : SlaveConfig) (s s' : Slave) : Prop where
  offsets : s'.offsetHistory = s.offsetHistory
  delays : s'.delayHistory = s.delayHistory ∨
    cfg.delayMechanism = .PeerToPeer ∧ ∃ x, s'.delayHistory = s.delayHistory.push x
  lock : s'.consecutiveGoodMeasurements = s.consecutiveGoodMeasurements ∧ s'.locked = s.locked ∨
    s'.consecutiveGoodMeasurements = 0 ∧ s'.locked = false

theorem Quiet.refl (s : Slave) : s.Quiet cfg s := ⟨rfl, Or.inl rfl, Or.inl ⟨rfl, rfl⟩⟩

theorem quiet_completePdelay (h : s.Quiet cfg s') (hp : cfg.delayMechanism = .PeerToPeer)
    (hd : s'.delayHistory = s.delayHistory) (t3MinusT2Ns : ℤ) :
    s.Quiet cfg (s'.completePdelay t3MinusT2Ns) := by
  unfold completePdelay
  split
  · exact h
  · unfold storeFilteredPathDelay
    split_ifs
    · exact h
    · exact ⟨h.offsets, Or.inr ⟨hp, _, congrArg (History.push · _) hd⟩, h.lock⟩

theorem quiet_request (sendTimeNs : ℕ) (sent : Bool) : s.Quiet cfg (s.request cfg sendTimeNs sent) := by
  unfold request sendPdelayReq sendDelayReq
  dsimp only
  split <;> split_ifs <;> exact ⟨rfl, Or.inl rfl, Or.inl ⟨rfl, rfl⟩⟩

theorem quiet_checkAnnounceTimeout (now : ℕ) : s.Quiet cfg (s.checkAnnounceTimeout cfg now) := by
  unfold checkAnnounceTimeout
  split_ifs
  · exact ⟨rfl, Or.inl rfl, Or.inr ⟨rfl, rfl⟩⟩
  · exact .refl s

/-- An Announce leaves the filters, and the lock where it selects no better master. -/
theorem quiet_handleAnnounce (header : Header) (data : Datagram) (now : ℕ) :
    s.Quiet cfg (s.handleAnnounce better cfg header data now) := by
  unfold handleAnnounce considerMaster followInterval select
  dsimp only
  split_ifs <;> first
    | exact ⟨rfl, Or.inl rfl, Or.inl ⟨rfl, rfl⟩⟩
    | exact ⟨rfl, Or.inl rfl, Or.inr ⟨rfl, rfl⟩⟩

/-- A message that publishes no offset; a computation that is not made stores no delay. -/
theorem quiet_handle {data : Datagram} {t now : ℕ} {onEventSocket : Bool}
    (h : s.messageOf cfg (.datagram data t onEventSocket now) = some message)
    (hp : s.publishes message = false) : s.Quiet cfg (s.handle cfg better message) ∧
      ((s.handle cfg better message).delayHistory = s.delayHistory ∨ s.computing message = none) := by
  obtain ⟨header, -, hmessage⟩ := of_messageOf h
  unfold publishes at hp
  cases hcomputing : s.computing message with
  | some s' =>
    rw [hcomputing] at hp
    have hnone : s'.readSync = none := by simpa using hp
    rw [handle_of_computing hcomputing, calculateOffsetAndDelay, hnone]
    obtain ⟨hoffsets, hdelays, -, hlock⟩ := computing_filters hcomputing
    exact ⟨⟨hoffsets, Or.inl hdelays, Or.inl hlock⟩, Or.inl hdelays⟩
  | none =>
    refine ⟨?_, Or.inr rfl⟩
    cases message with
    | sync header data receiveTimeNs =>
      have htwo : header.isTwoStep = true := by
        by_contra hone
        rw [computing, if_neg hone] at hcomputing
        cases hcomputing
      rw [handle, if_pos htwo, recordSync, if_pos htwo]
      exact ⟨rfl, Or.inl rfl, Or.inl ⟨rfl, rfl⟩⟩
    | followUp header data | delayResp header data => cases hcomputing
    | announce header data now => exact quiet_handleAnnounce header data now
    | pdelayResp header data receiveTimeNs =>
      have haccepts := hmessage.2.2.2
      simp only [acceptsPdelayResp, Bool.and_eq_true] at haccepts
      have hpeer := peerToPeer_of_forThisPort haccepts.1.1
      rw [handle]
      split_ifs
      · exact ⟨rfl, Or.inl rfl, Or.inl ⟨rfl, rfl⟩⟩
      · have hrecord : s.Quiet cfg (s.recordPdelayResp header data receiveTimeNs) :=
          ⟨rfl, Or.inl rfl, Or.inl ⟨rfl, rfl⟩⟩
        exact quiet_completePdelay hrecord hpeer rfl 0
    | pdelayFollowUp header data =>
      have haccepts := hmessage.2.2
      simp only [acceptsPdelayFollowUp, Bool.and_eq_true] at haccepts
      have hpeer := peerToPeer_of_forThisPort haccepts.1.1
      have hrecord : s.Quiet cfg (s.recordPdelayFollowUp header) :=
        ⟨rfl, Or.inl rfl, Or.inl ⟨rfl, rfl⟩⟩
      exact quiet_completePdelay hrecord hpeer rfl _

/-- What the computation leaves in the filters and in the lock. -/
structure Published (s s' : Slave) (usesRequest : Bool) : Prop where
  offsets : ∃ x, s'.offsetHistory = s.offsetHistory.push x
  delays : s'.delayHistory = s.delayHistory ∨
    usesRequest = true ∧ ∃ x, s'.delayHistory = s.delayHistory.push x
  good : 0 ≤ s.consecutiveGoodMeasurements → 0 ≤ s'.consecutiveGoodMeasurements ∧
    s'.consecutiveGoodMeasurements ≤ s.consecutiveGoodMeasurements +
      if (s'.offsetNs.natAbs : ℤ) < kLockToleranceNs then 1 else 0
  locked : s'.locked = true → kLockThreshold ≤ s'.consecutiveGoodMeasurements

theorem published_publishOffset (s : Slave) (offset : ℤ) (usesRequest : Bool) :
    s.Published (s.publishOffset offset) usesRequest where
  offsets := ⟨offset, rfl⟩
  delays := Or.inl rfl
  good := by
    unfold publishOffset
    dsimp only
    intro h0
    split_ifs <;> omega
  locked := by
    unfold publishOffset
    dsimp only
    intro hlocked
    exact of_decide_eq_true hlocked

theorem published_applySample (s : Slave) (t1 t2 : ℤ) (delay : Option (ℤ × ℤ)) :
    s.Published (s.applySample t1 t2 delay) delay.isSome := by
  unfold applySample
  split
  · next t3 t4 =>
    generalize fullSample t1 t2 t3 t4 = sample
    obtain ⟨offset, delay⟩ := sample
    dsimp only
    unfold storeFilteredPathDelay
    split_ifs
    · exact published_publishOffset s offset true
    · obtain ⟨hoffsets, -, hgood, hlocked⟩ := published_publishOffset { s with
        delayHistory := s.delayHistory.push delay
        pathDelayNs := (s.delayHistory.push delay).recent.foldl min delay } offset true
      exact ⟨hoffsets, Or.inr ⟨rfl, delay, rfl⟩, hgood, hlocked⟩
  · exact published_publishOffset s _ false

/-- A message that publishes an offset. -/
theorem published_handle (hp : s.publishes message = true) :
    s.Published (s.handle cfg better message) (s.usesRequest message) := by
  unfold publishes at hp
  cases hcomputing : s.computing message with
  | none =>
    rw [hcomputing] at hp
    cases hp
  | some s' =>
    obtain ⟨hoffsets, hdelays, -, hgood, -⟩ := computing_filters hcomputing
    rw [hcomputing] at hp
    obtain ⟨⟨t1, t2⟩, hsync⟩ := Option.isSome_iff_exists.mp hp
    have hrequest : s.usesRequest message = s'.readDelay.isSome := by rw [usesRequest, hcomputing]
    obtain ⟨h1, h2, h3, h4⟩ := published_applySample s' t1 t2 s'.readDelay
    rw [handle_of_computing hcomputing, calculateOffsetAndDelay, hsync, hrequest]
    exact ⟨hoffsets ▸ h1, hdelays ▸ h2, hgood ▸ h3, h4⟩

end Slave

/-! ## One event -/

namespace Tracked

variable {better : MasterDataset → MasterDataset → Bool} {cfg : SlaveConfig} {p : Tracked}
  {s' : Slave} {m' : Marks} {e : Event}

/-- While the masters are kept separate, either the change found no offset and all samples in use are
marked, or none has been published since. -/
structure Inv (cfg : SlaveConfig) (p : Tracked) : Prop where
  offsets : p.slave.offsetHistory.Regular
  delays : p.slave.delayHistory.Regular
  offsets_length : p.marks.offsets.length = kFilterSize
  delays_length : p.marks.delays.length = kFilterSize
  good : 0 ≤ p.slave.consecutiveGoodMeasurements
  locked : p.slave.locked = true → kLockThreshold ≤ p.slave.consecutiveGoodMeasurements
  unmeasured : p.slave.offsetHistory.count = 0 → p.slave.consecutiveGoodMeasurements = 0 ∧
    (cfg.delayMechanism = .EndToEnd → p.slave.delayHistory.count = 0)
  clean : p.marks.clean = true → p.slave.offsetHistory.Marked p.marks.offsets ∧
    p.slave.consecutiveGoodMeasurements ≤ p.marks.good
  peers : p.marks.clean = true ∨ cfg.delayMechanism = .PeerToPeer →
    p.slave.delayHistory.Marked p.marks.delays
  dirty : p.marks.clean = false → 0 < p.slave.offsetHistory.count ∧
    p.marks.offsets = List.replicate kFilterSize false ∧ p.slave.locked = false

theorem inv_init : ({} : Tracked).Inv cfg where
  offsets := ⟨by decide, by decide, fun _ => rfl⟩
  delays := ⟨by decide, by decide, fun _ => rfl⟩
  offsets_length := rfl
  delays_length := rfl
  good := le_rfl
  locked := nofun
  unmeasured _ := ⟨rfl, fun _ => rfl⟩
  clean _ := ⟨by decide, by decide⟩
  peers _ := by decide
  dirty := nofun

/-- The lock counts good measurements since the change. -/
theorem Inv.lock (h : p.Inv cfg) (hl : p.slave.locked = true) : kLockThreshold ≤ p.marks.good := by
  cases hclean : p.marks.clean with
  | true => exact (h.locked hl).trans (h.clean hclean).2
  | false => exact absurd ((h.dirty hclean).2.2.symm.trans hl) Bool.false_ne_true

/-- Nothing is published, and a neighbour's delay is marked. -/
theorem Inv.quiet (h : p.Inv cfg) (hq : p.slave.Quiet cfg s') (ho : m'.offsets = p.marks.offsets)
    (hd : m'.delays = markAfter p.slave.delayHistory s'.delayHistory p.marks.delays true)
    (hg : m'.good = p.marks.good) (hc : m'.clean = p.marks.clean) : Inv cfg ⟨s', m'⟩ := by
  obtain ⟨hoffsets, hdelays, hlock⟩ := hq
  have hlock' : 0 ≤ s'.consecutiveGoodMeasurements ∧
      s'.consecutiveGoodMeasurements ≤ p.slave.consecutiveGoodMeasurements ∧
      (s'.locked = true → kLockThreshold ≤ s'.consecutiveGoodMeasurements ∧
        p.slave.locked = true) := by
    rcases hlock with ⟨hgood, hlocked⟩ | ⟨hgood, hlocked⟩ <;> rw [hgood, hlocked]
    · exact ⟨h.good, le_rfl, fun hl => ⟨h.locked hl, hl⟩⟩
    · exact ⟨le_rfl, h.good, nofun⟩
  have hmarks : s'.delayHistory.Regular ∧ m'.delays.length = kFilterSize ∧
      (cfg.delayMechanism = .EndToEnd → s'.delayHistory = p.slave.delayHistory) ∧
      (p.slave.delayHistory.Marked p.marks.delays → s'.delayHistory.Marked m'.delays) := by
    rcases hdelays with heq | ⟨hpeer, x, heq⟩ <;> rw [hd, heq]
    · rw [markAfter_self]
      exact ⟨h.delays, h.delays_length, fun _ => rfl, id⟩
    · rw [markAfter_push h.delays, List.length_set]
      exact ⟨h.delays.push, h.delays_length, fun he => absurd (hpeer.symm.trans he) (by decide),
        fun hm => (marked_push h.delays h.delays_length hm).mpr rfl⟩
  obtain ⟨hregular, hlength, hsame, hmarked⟩ := hmarks
  refine ⟨hoffsets ▸ h.offsets, hregular, ho ▸ h.offsets_length, hlength, hlock'.1,
    fun hl => (hlock'.2.2 hl).1, fun h0 => ?_, fun hclean => ?_, fun hp => ?_, fun hclean => ?_⟩
  · obtain ⟨hzero, hcount⟩ := h.unmeasured (hoffsets ▸ h0)
    exact ⟨le_antisymm (hzero ▸ hlock'.2.1) hlock'.1, fun he => (hsame he).symm ▸ hcount he⟩
  · obtain ⟨hm, hgood⟩ := h.clean (hc ▸ hclean)
    exact ⟨show s'.offsetHistory.Marked m'.offsets from hoffsets.symm ▸ ho.symm ▸ hm,
      hlock'.2.1.trans (hg.symm ▸ hgood)⟩
  · exact hmarked (h.peers (hp.imp_left (hc ▸ ·)))
  · obtain ⟨hpos, hnone, hfree⟩ := h.dirty (hc ▸ hclean)
    refine ⟨hoffsets.symm ▸ hpos, ho.trans hnone, ?_⟩
    by_contra hl
    rw [Bool.not_eq_false] at hl
    exact Bool.false_ne_true (hfree.symm.trans (hlock'.2.2 hl).2)

/-- The lock of a change is the one the slave had, unless it had a master. -/
theorem locked_of_changes {marks : Marks} {s : Slave} {message : Message}
    (h : marks.changes better s message = true) :
    (s.handle cfg better message).locked = (!s.hasMaster && s.locked) := by
  cases message with
  | announce header data now =>
    simp only [Marks.changes, Bool.and_eq_true, decide_eq_true_eq] at h
    obtain ⟨hlen, hbetter⟩ := h
    have hinterval : (s.followInterval cfg header.logMessageInterval).hasMaster = s.hasMaster ∧
        (s.followInterval cfg header.logMessageInterval).currentMaster = s.currentMaster ∧
        (s.followInterval cfg header.logMessageInterval).locked = s.locked := by
      unfold Slave.followInterval
      dsimp only
      split_ifs <;> exact ⟨rfl, rfl, rfl⟩
    obtain ⟨hmaster, hcurrent, hlocked⟩ := hinterval
    rw [Slave.handle, Slave.handleAnnounce, if_neg (not_lt.mpr hlen), Slave.considerMaster, hmaster,
      hcurrent]
    cases hm : s.hasMaster with
    | false => exact hlocked
    | true =>
      rw [hm, if_pos rfl] at hbetter
      rw [if_neg (by decide), if_pos hbetter]
      rfl
  | _ => cases h

/-- **A change** that takes over no lock. -/
theorem Inv.change (h : p.Inv cfg) {message : Message}
    (hc : p.marks.changes better p.slave message = true)
    (hl : p.slave.hasMaster = true ∨ p.slave.locked = false) :
    Inv cfg ⟨p.slave.handle cfg better message, p.marks.change cfg p.slave⟩ := by
  have hfree : (p.slave.handle cfg better message).locked = false := by
    rw [locked_of_changes hc]
    rcases hl with hl | hl <;> simp [hl]
  have hquiet : p.slave.Quiet cfg (p.slave.handle cfg better message) ∧
      (p.slave.handle cfg better message).delayHistory = p.slave.delayHistory := by
    cases message with
    | announce header data now =>
      obtain ⟨_, _, _, _, _, _, hframe⟩ := p.slave.handleAnnounce_frame better cfg header data now
      exact ⟨Slave.quiet_handleAnnounce header data now, by rw [Slave.handle, hframe]⟩
    | _ => cases hc
  obtain ⟨⟨hoffsets, -, hlock⟩, hdelays⟩ := hquiet
  have hgood : 0 ≤ (p.slave.handle cfg better message).consecutiveGoodMeasurements ∧
      (p.slave.handle cfg better message).consecutiveGoodMeasurements ≤
        p.slave.consecutiveGoodMeasurements := by
    rcases hlock with ⟨hgood, -⟩ | ⟨hgood, -⟩ <;> rw [hgood]
    · exact ⟨h.good, le_rfl⟩
    · exact ⟨le_rfl, h.good⟩
  have hunmeasured : p.slave.offsetHistory.count = 0 →
      (p.slave.handle cfg better message).consecutiveGoodMeasurements = 0 := fun h0 =>
    le_antisymm (hgood.2.trans (h.unmeasured h0).1.le) hgood.1
  have hclean : (p.marks.change cfg p.slave).clean = decide (p.slave.offsetHistory.count = 0) := rfl
  refine ⟨hoffsets ▸ h.offsets, hdelays ▸ h.delays, List.length_replicate, ?_, hgood.1,
    fun hl => absurd (hfree.symm.trans hl) Bool.false_ne_true, fun h0 => ?_, fun hnow => ?_,
    fun hp => ?_, fun hnow => ?_⟩
  · unfold Marks.change
    dsimp only
    split_ifs
    · exact h.delays_length
    · exact List.length_replicate
  · have h0' : p.slave.offsetHistory.count = 0 := hoffsets ▸ h0
    exact ⟨hunmeasured h0', fun he => hdelays.symm ▸ (h.unmeasured h0').2 he⟩
  · have h0 : p.slave.offsetHistory.count = 0 := of_decide_eq_true (hclean ▸ hnow)
    refine ⟨?_, (hunmeasured h0).le⟩
    dsimp only
    rw [hoffsets, marked_iff, h0]
    exact fun j hj => absurd hj (Nat.not_lt_zero j)
  · dsimp only at hp ⊢
    rw [hdelays]
    by_cases hpeer : cfg.delayMechanism = .PeerToPeer
    · rw [Marks.change, if_pos hpeer]
      exact h.peers (Or.inr hpeer)
    · have he : cfg.delayMechanism = .EndToEnd := by
        cases hmech : cfg.delayMechanism with
        | EndToEnd => rfl
        | PeerToPeer => exact absurd hmech hpeer
      have h0 : p.slave.offsetHistory.count = 0 :=
        of_decide_eq_true (hclean ▸ hp.resolve_right hpeer)
      rw [marked_iff, (h.unmeasured h0).2 he]
      exact fun j hj => absurd hj (Nat.not_lt_zero j)
  · have h0 : ¬ p.slave.offsetHistory.count = 0 := of_decide_eq_false (hclean ▸ hnow)
    exact ⟨Nat.pos_of_ne_zero (hoffsets.symm ▸ h0), rfl, hfree⟩

/-- The mark of a sample is what is asked of its exchanges, where the stored delays are marked. -/
theorem fresh_iff {marks : Marks} {s : Slave} {message : Message}
    (hp : s.publishes message = true) (hd : s.delayHistory.Marked marks.delays) :
    marks.fresh s message = true ↔ (marks.record message).times = true ∧
      (s.usesRequest message = true →
        (marks.record message).request = true ∧ (marks.record message).answer = true) := by
  unfold Slave.publishes at hp
  unfold Marks.fresh
  cases hcomputing : s.computing message with
  | none =>
    rw [hcomputing] at hp
    cases hp
  | some s' =>
    dsimp only
    cases s.usesRequest message <;> simp [hd]

/-- **A published offset**: everything behind it is marked just when the change found no offset and
its exchanges are of now. -/
theorem Inv.publish (h : p.Inv cfg) {message : Message} (hp : p.slave.publishes message = true)
    (hc : p.marks.changes better p.slave message = false) :
    ((p.slave.handle cfg better message).offsetHistory.Marked
        (p.marks.step better cfg p.slave message).offsets ∧
      (p.slave.handle cfg better message).delayHistory.Marked
        (p.marks.step better cfg p.slave message).delays ↔
      p.marks.clean = true ∧ p.marks.fresh p.slave message = true) ∧
    (p.marks.clean = true → p.marks.fresh p.slave message = true →
      Inv cfg ⟨p.slave.handle cfg better message, p.marks.step better cfg p.slave message⟩) := by
  obtain ⟨⟨x, hoffsets⟩, hdelays, hgood, hlocked⟩ :=
    @Slave.published_handle better cfg _ _ hp
  have hstep : p.marks.step better cfg p.slave message =
      let s' := p.slave.handle cfg better message
      { p.marks.record message with
        offsets := markAfter p.slave.offsetHistory s'.offsetHistory p.marks.offsets
          (p.marks.fresh p.slave message)
        delays := markAfter p.slave.delayHistory s'.delayHistory p.marks.delays
          (p.marks.fresh p.slave message)
        good := if p.slave.publishes message ∧ (s'.offsetNs.natAbs : ℤ) < kLockToleranceNs then
            p.marks.good + 1 else p.marks.good } := by
    rw [Marks.step, hc, if_neg Bool.false_ne_true]
  rw [hstep]
  dsimp only
  generalize p.marks.fresh p.slave message = fresh
  generalize p.slave.handle cfg better message = s' at *
  have hoffset : markAfter p.slave.offsetHistory s'.offsetHistory p.marks.offsets fresh =
      p.marks.offsets.set p.slave.offsetHistory.index fresh := by
    rw [hoffsets, markAfter_push h.offsets]
  cases hclean : p.marks.clean with
  | false =>
    obtain ⟨hpos, hnone, -⟩ := h.dirty hclean
    refine ⟨⟨fun hm => ?_, fun hm => nomatch hm.1⟩, nofun⟩
    rw [hoffset, hoffsets, hnone] at hm
    exact absurd hm.1 (not_marked_push h.offsets hpos)
  | true =>
    obtain ⟨hm, hcount⟩ := h.clean hclean
    have hmarked : s'.offsetHistory.Marked (markAfter p.slave.offsetHistory s'.offsetHistory
        p.marks.offsets fresh) ↔ fresh = true := by
      rw [hoffset, hoffsets]
      exact marked_push h.offsets h.offsets_length hm
    obtain ⟨hdr, hdl, hdm⟩ : s'.delayHistory.Regular ∧ (markAfter p.slave.delayHistory
        s'.delayHistory p.marks.delays fresh).length = kFilterSize ∧ (fresh = true →
        s'.delayHistory.Marked (markAfter p.slave.delayHistory s'.delayHistory p.marks.delays
          fresh)) := by
      have hd := h.peers (Or.inl hclean)
      rcases hdelays with heq | ⟨-, y, heq⟩ <;> rw [heq]
      · rw [markAfter_self]
        exact ⟨h.delays, h.delays_length, fun _ => hd⟩
      · rw [markAfter_push h.delays, List.length_set]
        exact ⟨h.delays.push, h.delays_length, (marked_push h.delays h.delays_length hd).mpr⟩
    refine ⟨⟨fun hall => ⟨rfl, hmarked.mp hall.1⟩, fun hf => ⟨hmarked.mpr hf.2, hdm hf.2⟩⟩,
      fun _ hf => ?_⟩
    have hpos : s'.offsetHistory.count ≠ 0 := by
      rw [hoffsets]
      unfold History.push kFilterSize
      dsimp only
      split_ifs <;> omega
    have hrecord : (p.marks.record message).clean = true :=
      (p.marks.record_clean message).trans hclean
    obtain ⟨hgood0, hgood1⟩ := hgood h.good
    refine ⟨hoffsets ▸ h.offsets.push, hdr, ?_, hdl, hgood0, hlocked, fun h0 => absurd h0 hpos,
      fun _ => ⟨hmarked.mpr hf, ?_⟩, fun _ => hdm hf,
      fun hdirty => absurd (hrecord.symm.trans hdirty) (by decide)⟩
    · rw [hoffset, List.length_set]
      exact h.offsets_length
    · simp only [hp, true_and]
      split_ifs at hgood1 ⊢ with hnear
      · push_cast
        omega
      · omega

theorem step_none (h : p.Inv cfg) (hnone : p.slave.messageOf cfg e = none) :
    (p.step better cfg e).Inv cfg := by
  cases e with
  | datagram data t onEventSocket now =>
    have hslave := p.slave.step_datagram cfg better data t onEventSocket now
    rw [hnone] at hslave
    unfold step
    rw [hnone, hslave]
    exact h
  | request sendTimeNs sent =>
    have hquiet := @Slave.quiet_request cfg p.slave sendTimeNs sent
    have hdelays : (p.slave.request cfg sendTimeNs sent).delayHistory = p.slave.delayHistory := by
      unfold Slave.request Slave.sendPdelayReq Slave.sendDelayReq
      dsimp only
      split <;> split_ifs <;> rfl
    unfold step
    rw [hnone]
    refine h.quiet hquiet ?_ ?_ ?_ ?_
    all_goals
      dsimp only [Slave.step]
      try rw [hdelays, markAfter_self]
      split_ifs <;> rfl
  | checkAnnounceTimeout now =>
    have hquiet := @Slave.quiet_checkAnnounceTimeout cfg p.slave now
    have hdelays : (p.slave.checkAnnounceTimeout cfg now).delayHistory = p.slave.delayHistory := by
      unfold Slave.checkAnnounceTimeout
      split_ifs <;> rfl
    unfold step
    rw [hnone]
    refine h.quiet hquiet rfl ?_ rfl rfl
    dsimp only [Slave.step]
    rw [hdelays, markAfter_self]

theorem step_quiet (h : p.Inv cfg) {message : Message}
    (hmessage : p.slave.messageOf cfg e = some message)
    (hc : p.marks.changes better p.slave message = false)
    (hp : p.slave.publishes message = false) :
    Inv cfg ⟨p.slave.handle cfg better message, p.marks.step better cfg p.slave message⟩ := by
  obtain ⟨hquiet, hdelays⟩ : p.slave.Quiet cfg (p.slave.handle cfg better message) ∧
      ((p.slave.handle cfg better message).delayHistory = p.slave.delayHistory ∨
        p.slave.computing message = none) := by
    cases e with
    | datagram data t onEventSocket now => exact Slave.quiet_handle hmessage hp
    | request sendTimeNs sent => cases hmessage
    | checkAnnounceTimeout now => cases hmessage
  refine h.quiet hquiet ?_ ?_ ?_ ?_ <;> rw [Marks.step, hc, if_neg Bool.false_ne_true] <;> dsimp only
  · rw [hquiet.offsets, markAfter_self]
  · rcases hdelays with heq | hnone
    · rw [heq, markAfter_self, markAfter_self]
    · rw [Marks.fresh, hnone]
  · rw [hp, if_neg (by simp)]
  · exact p.marks.record_clean message

/-- **One event** is unmixed just when it keeps the masters separate, and then the next is like it. -/
theorem separate_step (h : p.Inv cfg) : (p.Unmixed better cfg e ↔ p.Separate better cfg e) ∧
    (p.Separate better cfg e → (p.step better cfg e).Inv cfg) := by
  cases hmessage : p.slave.messageOf cfg e with
  | none =>
    have hinv := @step_none better _ _ _ h hmessage
    refine ⟨⟨fun _ => ?_, fun _ => ⟨?_, hinv.lock⟩⟩, fun _ => hinv⟩
    · unfold Separate
      rw [hmessage]
      nofun
    · rintro ⟨message, hm, -⟩
      rw [hmessage] at hm
      cases hm
  | some message =>
    have hslave : (p.step better cfg e).slave = p.slave.handle cfg better message :=
      Slave.step_of_messageOf hmessage
    have hmarks : (p.step better cfg e).marks = p.marks.step better cfg p.slave message := by
      unfold step
      rw [hmessage]
    have hstep : p.step better cfg e =
        ⟨p.slave.handle cfg better message, p.marks.step better cfg p.slave message⟩ := by
      rw [← hslave, ← hmarks]
    have hpublishes : p.Publishes cfg e ↔ p.slave.publishes message = true := by
      simp [Publishes, hmessage]
    unfold Unmixed Separate
    rw [hstep, hpublishes, hmessage]
    simp only [Option.mem_some_iff, forall_eq']
    cases hchange : p.marks.changes better p.slave message with
    | true =>
      have hquiet : p.slave.publishes message = false := by
        cases message with
        | announce header data now => rfl
        | _ => cases hchange
      have hnew : p.marks.step better cfg p.slave message = p.marks.change cfg p.slave :=
        if_pos hchange
      have hlocked := @locked_of_changes _ cfg _ _ _ hchange
      rw [hquiet, hnew]
      refine ⟨⟨fun hu => ⟨nofun, fun _ => ?_⟩, fun hs => ⟨nofun, fun hl => ?_⟩⟩,
        fun hs => h.change hchange (hs.2 rfl)⟩
      · by_contra hkept
        have hl : (p.slave.handle cfg better message).locked = true := by
          rw [hlocked]
          simpa using hkept
        have hgood : (8 : ℤ) ≤ ((0 : ℕ) : ℤ) := hu.2 hl
        exact absurd hgood (by decide)
      · rw [hlocked] at hl
        rcases hs.2 rfl with hm | hm <;> simp [hm] at hl
    | false =>
      cases hpublishes : p.slave.publishes message with
      | false =>
        have hinv := @step_quiet better _ _ _ h _ hmessage hchange hpublishes
        exact ⟨⟨fun _ => ⟨nofun, nofun⟩, fun _ => ⟨nofun, hinv.lock⟩⟩, fun _ => hinv⟩
      | true =>
        obtain ⟨hmarked, hinv⟩ := @Inv.publish better _ _ h _ hpublishes hchange
        have hfresh (hclean : p.marks.clean = true) := fresh_iff hpublishes (h.peers (Or.inl hclean))
        refine ⟨⟨fun hu => ⟨fun _ => ?_, nofun⟩, fun hs => ?_⟩, fun hs => ?_⟩
        · obtain ⟨hclean, hf⟩ := hmarked.mp (hu.1 rfl)
          exact ⟨hclean, (hfresh hclean).mp hf⟩
        · obtain ⟨hclean, hf⟩ := hs.1 rfl
          have hf := (hfresh hclean).mpr hf
          exact ⟨fun _ => hmarked.mpr ⟨hclean, hf⟩, (hinv hclean hf).lock⟩
        · obtain ⟨hclean, hf⟩ := hs.1 rfl
          exact hinv hclean ((hfresh hclean).mpr hf)

/-- **Every published value is of one master's samples, and every lock of eight good measurements**,
along a run, just when it keeps its masters separate. -/
theorem unmixed_iff (events : List Event) :
    Along (step better cfg) (Unmixed better cfg) {} events ↔
      Along (step better cfg) (Separate better cfg) {} events :=
  ⟨along_of_along (fun _ _ _ h hu => have hs := (separate_step h).1.mp hu
      ⟨(separate_step h).2 hs, hs⟩) inv_init,
    along_of_along (fun _ _ _ h hs => ⟨(separate_step h).2 hs, (separate_step h).1.mpr hs⟩) inv_init⟩

instance : DecidablePred (p.Publishes cfg) := fun e =>
  inferInstanceAs (Decidable (∃ message ∈ p.slave.messageOf cfg e, _))

instance : DecidablePred (p.Unmixed better cfg) := fun _ => inferInstanceAs (Decidable (_ ∧ _))

/-- A clock is announced, and sends a Sync stamped one microsecond that arrives at `t`. -/
def selected (clock priority1 seq : UInt8) (t : ℕ) : List Event :=
  [announceOn clock priority1, .datagram (Slave.wire 0 2 clock seq 0 0 []) t true 0,
    .datagram (Slave.wire 8 0 clock seq 3 232 []) 0 false 0]

/-- **Two masters in one average**: clock 9 is in step with the slave, the better clock 5 a second
behind it, and half a second is published. -/
theorem mixed_by_better :
    ¬ Along (step standardBetter {}) (Unmixed standardBetter {}) {}
        (selected 9 10 1 1000 ++ selected 5 5 2 1000001000) ∧
      ((selected 9 10 1 1000 ++ selected 5 5 2 1000001000).foldl
        (step standardBetter {}) {}).slave.offsetNs = 500000000 ∧
      ((selected 5 5 2 1000001000).foldl (step standardBetter {}) {}).slave.offsetNs = 1000000000 := by
  decide

end Tracked

end Aes67.Ptp
