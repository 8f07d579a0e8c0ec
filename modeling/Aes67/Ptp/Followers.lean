import Aes67.Ptp.Filters
import Aes67.Ptp.Grandmaster

/-!
# The slaves of the Linux grandmaster

One grandmaster of the Linux daemon and any number of slaves of the driver, over a network that loses,
delays, repeats and reorders what it carries, and brings everyone everything. All they have of each
other is the bytes.

* `Member`, `Sent`, `Domain`, `Act`, `Domain.step`;
* `Bounds`: how far the slaves' clocks are from the grandmaster's, and how long a datagram is under way;
* `Timely`: an act keeps to the bounds, and starts a sequence id anew only once it is out of use;
* `Expecting`, `Inv`: what is under way agrees with what each slave is waiting for; `Inv.step`;
* **`offset_within`**: in every run of timely acts every offset a slave publishes is the true one, up to
  the time a datagram is under way.
-/

namespace Aes67.LinuxPtpd

open Ptp (Header MessageType OwnPort Slave SlaveConfig MasterDataset parsePortIdentity
  parseTimestamp messageHeader kTimestampOffset kRequestingPortOffset i64 i64_of_bounds kFilterSize)

/-! ## The domain -/

/-- A slave: its settings and its port. -/
structure Member where
  cfg : SlaveConfig
  port : OwnPort
  selfPortId_eq : cfg.selfPortId = port.toPortIdentity
  endToEnd : cfg.delayMechanism = .EndToEnd

/-- A datagram under way, and when it left by the grandmaster's clock. -/
structure Sent where
  data : Ptp.Datagram
  leftAt : ℤ
  deriving DecidableEq

/-- The Delay_Req of `PTPSlave::sendDelayReq`. -/
def buildDelayReq (domain : ℤ) (port : OwnPort) (seqId : UInt16) : Ptp.Datagram :=
  messageHeader 0x01 44 domain 0 port seqId 1 0x7F ++ List.replicate 10 0

/-- What a turn of the slave's request thread puts on the network. -/
def Member.requests (member : Member) (s : Slave) (sent : Bool) : List Ptp.Datagram :=
  if s.hasMaster && s.syncCount > 0 && sent then
    [buildDelayReq member.cfg.domain member.port (.ofNat (s.delayReqSequenceId + 1))]
  else []

structure Domain (ι : Type) where
  master : GrandmasterPort
  slaves : ι → Slave := fun _ => {}
  inFlight : List Sent := []

inductive Act (ι : Type)
  | announce (currentTimeNs : UInt64) (sent : Bool) (leftAt : ℤ)
  | syncPair (transmitTimeNs : UInt64) (sent followUpSent : Bool) (leftAt : ℤ)
  | follow (call : Call)
  | serve (m : Sent) (receiveTimeNs currentTimeNs : UInt64) (sent : Bool) (leftAt : ℤ)
  | request (i : ι) (sendTimeNs : ℕ) (sent : Bool) (leftAt : ℤ)
  | deliver (i : ι) (m : Sent) (receiveTimeNs : ℕ) (onEventSocket : Bool) (now : ℕ)
  | checkAnnounceTimeout (i : ι) (now : ℕ)
  | lose (m : Sent)

namespace Domain

variable {ι : Type} [DecidableEq ι] (better : MasterDataset → MasterDataset → Bool)
  (members : ι → Member) (d : Domain ι)

/-- The grandmaster after a function of its own, and what it sent. -/
def emit (r : GrandmasterPort × List Ptp.Datagram) (leftAt : ℤ) : Domain ι :=
  { d with master := r.1, inFlight := d.inFlight ++ r.2.map (⟨·, leftAt⟩) }

def event (i : ι) (e : Ptp.Event) : Domain ι :=
  { d with
    slaves := Function.update d.slaves i ((d.slaves i).step better (members i).cfg e) }

/-- The domain after one act. What is delivered stays under way, and may be again. -/
def step : Act ι → Domain ι
  | .announce currentTimeNs sent leftAt => d.emit (d.master.sendAnnounce currentTimeNs sent) leftAt
  | .syncPair transmitTimeNs sent followUpSent leftAt =>
    d.emit (d.master.sendSyncPair transmitTimeNs sent followUpSent) leftAt
  | .follow call => { d with master := d.master.follow call }
  | .serve m receiveTimeNs currentTimeNs sent leftAt =>
    d.emit (d.master.serviceMessage m.data receiveTimeNs currentTimeNs sent) leftAt
  | .request i sendTimeNs sent leftAt =>
    { d.event better members i (.request sendTimeNs sent) with
      inFlight := d.inFlight ++ ((members i).requests (d.slaves i) sent).map (⟨·, leftAt⟩) }
  | .deliver i m receiveTimeNs onEventSocket now =>
    d.event better members i (.datagram m.data receiveTimeNs onEventSocket now)
  | .checkAnnounceTimeout i now => d.event better members i (.checkAnnounceTimeout now)
  | .lose m => { d with inFlight := d.inFlight.erase m }

end Domain

/-! ## What is under way -/

namespace Sent

variable (m : Sent)

/-- A message of this type and sequence id, as a slave reads it. -/
def Carries (type : MessageType) (seq : ℕ) : Prop :=
  ∃ header ∈ Ptp.parseHeader m.data, header.getMessageType = type ∧ header.sequenceId = seq

/-- A Delay_Req of this port. -/
def Requests (port : OwnPort) (seq : ℕ) : Prop :=
  ∃ header ∈ Ptp.parseHeader m.data, header.getMessageType = .Delay_Req ∧ header.sequenceId = seq ∧
    header.sourcePortIdentity = port.toPortIdentity

/-- A Delay_Resp to this port. -/
def Answers (port : OwnPort) (seq : ℕ) : Prop :=
  m.Carries .Delay_Resp seq ∧
    parsePortIdentity m.data kRequestingPortOffset = port.toPortIdentity

def timestamp : ℕ := (parseTimestamp m.data kTimestampOffset).toNanoseconds

/-- Nothing on the way corrects a time, and every Sync announces its Follow_Up. -/
def Formed : Prop :=
  ∃ header ∈ Ptp.parseHeader m.data, header.correctionField = 0 ∧
    (header.getMessageType = .Sync → header.isTwoStep = true)

instance (type : MessageType) (seq : ℕ) : Decidable (m.Carries type seq) :=
  inferInstanceAs (Decidable (∃ header ∈ Ptp.parseHeader m.data, _))

instance (port : OwnPort) (seq : ℕ) : Decidable (m.Requests port seq) :=
  inferInstanceAs (Decidable (∃ header ∈ Ptp.parseHeader m.data, _))

instance (port : OwnPort) (seq : ℕ) : Decidable (m.Answers port seq) :=
  inferInstanceAs (Decidable (_ ∧ _))

end Sent

/-! ## The bounds -/

/-- A slave's clock is ahead of the grandmaster's by `lo` to `hi`, and a datagram is under way for
`least` to `most`: so little that eight offsets add up within 64 bits. -/
structure Bounds where
  lo : ℤ
  hi : ℤ
  least : ℤ
  most : ℤ
  lo_le : lo ≤ hi
  least_nonneg : 0 ≤ least
  least_le : least ≤ most
  lo_ge : -2 ^ 58 ≤ lo
  hi_le : hi ≤ 2 ^ 58
  most_le : most ≤ 2 ^ 58

namespace Bounds

variable (b : Bounds)

/-- The times of a Sync that left at `t1` and was received at `t2`. -/
def SyncPath (t1 t2 : ℤ) : Prop := b.lo + b.least ≤ t2 - t1 ∧ t2 - t1 ≤ b.hi + b.most

/-- The times of a Delay_Req that left at `t3` and was received at `t4`. -/
def RequestPath (t3 t4 : ℤ) : Prop := b.least - b.hi ≤ t4 - t3 ∧ t4 - t3 ≤ b.most - b.lo

/-- A reading of the slave's clock at a time of the grandmaster's. -/
def Reads (localNs masterNs : ℤ) : Prop := b.lo ≤ localNs - masterNs ∧ localNs - masterNs ≤ b.hi

/-- The least offset a slave may publish. -/
def lowest : ℤ := b.lo - (b.most - b.least) - (b.hi - b.lo)

/-- The greatest. -/
def highest : ℤ := b.hi + b.most

/-- The greatest path delay. -/
def longest : ℤ := b.most + (b.hi - b.lo)

/-- **What a slave publishes is near the truth.** -/
structure Accurate (s : Slave) : Prop where
  offset : 0 < s.offsetHistory.count → b.lowest ≤ s.offsetNs ∧ s.offsetNs ≤ b.highest
  pathDelay : 0 ≤ s.pathDelayNs ∧ s.pathDelayNs ≤ b.longest

end Bounds

namespace Domain

variable {ι : Type} [DecidableEq ι] (b : Bounds) (members : ι → Member) (d : Domain ι)

/-- The next Sync's id is out of use: nothing under way has it, and no slave waits on it. -/
def SyncRetired : Prop :=
  (∀ m ∈ d.inFlight, ¬ m.Carries .Sync d.master.syncSequence.toNat ∧
    ¬ m.Carries .Follow_Up d.master.syncSequence.toNat) ∧
  ∀ i, (d.slaves i).waitingForFollowUp = true →
    (d.slaves i).lastSyncSequenceId ≠ d.master.syncSequence.toNat

/-- The id of a slave's next request is out of use. -/
def RequestRetired (i : ι) : Prop :=
  ∀ m ∈ d.inFlight,
    ¬ m.Requests (members i).port (((d.slaves i).delayReqSequenceId + 1) % 2 ^ 16) ∧
    ¬ m.Answers (members i).port (((d.slaves i).delayReqSequenceId + 1) % 2 ^ 16)

/-- **An act in time**: a stamp is the moment the Sync left; what is received was under way, and was so
for `least` to `most`; a slave's stamp is a reading of its clock; ids are not in use twice. -/
def Timely : Act ι → Prop
  | .syncPair transmitTimeNs _ _ leftAt =>
    (transmitTimeNs = 0 ∨ (transmitTimeNs.toNat : ℤ) = leftAt) ∧ d.SyncRetired
  | .serve m receiveTimeNs currentTimeNs _ _ =>
    m ∈ d.inFlight ∧
      let arrival : ℤ := (if receiveTimeNs = 0 then currentTimeNs else receiveTimeNs).toNat
      m.leftAt + b.least ≤ arrival ∧ arrival ≤ m.leftAt + b.most
  | .request i sendTimeNs _ leftAt =>
    sendTimeNs < 2 ^ 62 ∧ b.Reads sendTimeNs leftAt ∧ d.RequestRetired members i
  | .deliver _ m receiveTimeNs onEventSocket _ =>
    m ∈ d.inFlight ∧ (onEventSocket = true → receiveTimeNs < 2 ^ 62 ∧
      m.leftAt + b.least + b.lo ≤ receiveTimeNs ∧ (receiveTimeNs : ℤ) ≤ m.leftAt + b.most + b.hi)
  | _ => True

instance [Fintype ι] : Decidable d.SyncRetired :=
  inferInstanceAs (Decidable ((∀ m ∈ d.inFlight, _ ∧ _) ∧ ∀ _, _ = true → _))

instance (i : ι) : Decidable (d.RequestRetired members i) :=
  inferInstanceAs (Decidable (∀ m ∈ d.inFlight, _ ∧ _))

instance (localNs masterNs : ℤ) : Decidable (b.Reads localNs masterNs) :=
  inferInstanceAs (Decidable (_ ∧ _))

instance [Fintype ι] : ∀ act, Decidable (d.Timely b members act)
  | .syncPair _ _ _ _ => inferInstanceAs (Decidable (_ ∧ _))
  | .serve _ _ _ _ _ => inferInstanceAs (Decidable (_ ∧ _ ∧ _))
  | .request _ _ _ _ => inferInstanceAs (Decidable (_ ∧ _ ∧ _))
  | .deliver _ _ _ _ _ => inferInstanceAs (Decidable (_ ∧ (_ → _ ∧ _)))
  | .announce _ _ _ => isTrue trivial
  | .follow _ => isTrue trivial
  | .checkAnnounceTimeout _ _ => isTrue trivial
  | .lose _ => isTrue trivial

end Domain

/-! ## The filters of a slave -/

theorem tdiv_mem {x c lo hi : ℤ} (hc : 0 < c) (h : c * lo ≤ x ∧ x ≤ c * hi) :
    lo ≤ x.tdiv c ∧ x.tdiv c ≤ hi := by
  constructor
  · have := Int.tdiv_le_tdiv hc h.1
    rwa [Int.mul_tdiv_cancel_left _ hc.ne'] at this
  · have := Int.tdiv_le_tdiv hc h.2
    rwa [Int.mul_tdiv_cancel_left _ hc.ne'] at this

theorem sum_mem {l : List ℤ} {lo hi : ℤ} (h : ∀ x ∈ l, lo ≤ x ∧ x ≤ hi) :
    l.length * lo ≤ l.sum ∧ l.sum ≤ l.length * hi := by
  have h1 := List.card_nsmul_le_sum l lo fun x hx => (h x hx).1
  have h2 := List.sum_le_card_nsmul l hi fun x hx => (h x hx).2
  rw [nsmul_eq_mul] at h1 h2
  exact ⟨h1, h2⟩

/-- What is true of every sample and of one more is true of all of them, and of those a window keeps. -/
theorem forall_mem_push {w : Ptp.History} {l : List ℤ} {x : ℤ} {p : ℤ → Prop} (hof : w.Of l)
    (hl : ∀ y ∈ l, p y) (hx : p x) :
    (∀ y ∈ l ++ [x], p y) ∧ ∀ y ∈ (w.push x).recent, p y := by
  have hmem : ∀ y ∈ l ++ [x], p y := by
    intro y hy
    rcases List.mem_append.mp hy with hy | hy
    · exact hl y hy
    · rwa [List.mem_singleton.mp hy]
  exact ⟨hmem, fun y hy => hmem y (List.mem_of_mem_drop ((hof.push x).perm.mem_iff.mp hy))⟩

/-- The filters have had nothing but samples in these ranges. -/
structure Bounds.Steady (b : Bounds) (s : Slave) : Prop where
  offsets : ∃ l, s.offsetHistory.Of l ∧ ∀ x ∈ l, b.lowest ≤ x ∧ x ≤ b.highest
  delays : ∃ l, s.delayHistory.Of l ∧ ∀ x ∈ l, 0 ≤ x ∧ x ≤ b.longest
  accurate : b.Accurate s

namespace Bounds

variable {b : Bounds} {s : Slave} {x t1 t2 t3 t4 : ℤ}

theorem le_highest : -2 ^ 60 ≤ b.lowest ∧ b.highest ≤ 2 ^ 59 ∧ 0 ≤ b.longest := by
  have h1 := b.lo_le
  have h2 := b.least_nonneg
  have h3 := b.least_le
  have h4 := b.lo_ge
  have h5 := b.hi_le
  have h6 := b.most_le
  unfold lowest highest longest
  omega

theorem steady_init (b : Bounds) : b.Steady {} where
  offsets := ⟨[], ⟨.nil rfl, rfl, rfl⟩, fun _ hx => absurd hx List.not_mem_nil⟩
  delays := ⟨[], ⟨.nil rfl, rfl, rfl⟩, fun _ hx => absurd hx List.not_mem_nil⟩
  accurate := ⟨fun h => absurd h (by decide), le_rfl, le_highest.2.2⟩

theorem Steady.congr {s' : Slave} (h : b.Steady s) (ho : s'.offsetHistory = s.offsetHistory)
    (hd : s'.delayHistory = s.delayHistory) (hn : s'.offsetNs = s.offsetNs)
    (hp : s'.pathDelayNs = s.pathDelayNs) : b.Steady s' :=
  ⟨ho ▸ h.offsets, hd ▸ h.delays, by rw [ho, hn]; exact h.accurate.offset,
    by rw [hp]; exact h.accurate.pathDelay⟩

/-- Another offset in range: their mean is. -/
theorem Steady.publishOffset (h : b.Steady s) (hx : b.lowest ≤ x ∧ x ≤ b.highest) :
    b.Steady (s.publishOffset x) := by
  obtain ⟨l, hof, hl⟩ := h.offsets
  have hpush := hof.push x
  obtain ⟨hmem, hrecent⟩ := forall_mem_push hof hl hx
  have hcount : (s.offsetHistory.push x).recent.length = (s.offsetHistory.push x).count := by
    rw [hpush.perm.length_eq, hpush.count_eq_length]
  have hle : (s.offsetHistory.push x).count ≤ 8 := by
    rw [hpush.count_eq]
    exact min_le_left _ _
  have hpos : 0 < (s.offsetHistory.push x).count := Ptp.History.count_push_pos
  obtain ⟨hlow, hhigh, -⟩ := @le_highest b
  have hsum := sum_mem hrecent
  rw [hcount] at hsum
  have hfits : i64 (s.offsetHistory.push x).recent.sum = (s.offsetHistory.push x).recent.sum := by
    refine i64_of_bounds ?_ ?_
    · nlinarith [hsum.1]
    · nlinarith [hsum.2]
  refine ⟨⟨_, hpush, hmem⟩, h.delays, fun _ => ?_, h.accurate.pathDelay⟩
  show b.lowest ≤ (i64 _).tdiv _ ∧ (i64 _).tdiv _ ≤ b.highest
  rw [hfits]
  exact tdiv_mem (by exact_mod_cast hpos) hsum

/-- Another path delay in range: the least is. -/
theorem Steady.storeFilteredPathDelay (h : b.Steady s) (hx : x ≤ b.longest) :
    b.Steady (s.storeFilteredPathDelay x) := by
  unfold Slave.storeFilteredPathDelay
  split_ifs with hneg
  · exact h
  · obtain ⟨l, hof, hl⟩ := h.delays
    have hpush := hof.push x
    obtain ⟨hmem, hrecent⟩ := forall_mem_push hof hl ⟨not_lt.mp hneg, hx⟩
    have hnew : x ∈ (s.delayHistory.push x).recent :=
      hpush.perm.mem_iff.mpr Ptp.mem_rtake_concat
    have hleast := hrecent _ (List.min?_eq_some_iff.mp (foldl_min_eq_min? hnew)).1
    exact ⟨h.offsets, ⟨_, hpush, hmem⟩, h.accurate.offset, hleast⟩

/-- **A computation on times of true paths** publishes what is in range. -/
theorem Steady.applySample (h : b.Steady s) (hsync : b.SyncPath t1 t2) {delay : Option (ℤ × ℤ)}
    (hdelay : ∀ t ∈ delay, b.RequestPath t.1 t.2) : b.Steady (s.applySample t1 t2 delay) := by
  obtain ⟨hs1, hs2⟩ := hsync
  have h1 := b.lo_le
  have h2 := b.least_nonneg
  have h3 := b.least_le
  have h4 := b.lo_ge
  have h5 := b.hi_le
  have h6 := b.most_le
  obtain ⟨hp1, hp2⟩ := h.accurate.pathDelay
  cases delay with
  | none =>
    have hpath : i64 (t2 - t1) = t2 - t1 := i64_of_bounds (by omega) (by omega)
    unfold longest at hp2
    unfold Slave.applySample
    dsimp only
    rw [hpath, i64_of_bounds (by omega) (by omega)]
    refine h.publishOffset ?_
    unfold lowest highest
    omega
  | some t =>
    obtain ⟨t3, t4⟩ := t
    obtain ⟨hr1, hr2⟩ := hdelay _ rfl
    dsimp only at hr1 hr2
    unfold Slave.applySample Slave.fullSample
    dsimp only
    rw [i64_of_bounds (x := t2 - t1) (by omega) (by omega),
      i64_of_bounds (x := t4 - t3) (by omega) (by omega),
      i64_of_bounds (x := t2 - t1 - (t4 - t3)) (by omega) (by omega),
      i64_of_bounds (x := t2 - t1 + (t4 - t3)) (by omega) (by omega)]
    have hoffset := @tdiv_mem (t2 - t1 - (t4 - t3)) 2 b.lowest b.highest (by decide)
      (by unfold lowest highest; omega)
    have hlongest := (@tdiv_mem (t2 - t1 + (t4 - t3)) 2 (b.least - (b.hi - b.lo)) b.longest
      (by decide) (by unfold longest; omega)).2
    exact (h.storeFilteredPathDelay hlongest).publishOffset hoffset

end Bounds

/-! ## What a slave waits for -/

/-- What a slave has of the times of a path is of one, and what is under way will complete it. -/
structure Expecting (b : Bounds) (member : Member) (inFlight : List Sent) (s : Slave) : Prop where
  received_lt : s.t2ReceiveTimeNs < 2 ^ 62
  asked_lt : s.t3DelayReqSendTimeNs < 2 ^ 62
  sync : s.waitingForFollowUp = false → s.t1SyncOriginTimestamp.isZero = false →
    b.SyncPath s.t1SyncOriginTimestamp.toNanoseconds s.t2ReceiveTimeNs
  delay : s.waitingForDelayResp = false → s.t3DelayReqSendTimeNs ≠ 0 →
    s.t4DelayRespReceiveTimestamp.isZero = false →
    b.RequestPath s.t3DelayReqSendTimeNs s.t4DelayRespReceiveTimestamp.toNanoseconds
  correction : s.waitingForFollowUp = true → s.syncCorrectionField = 0
  followUp : s.waitingForFollowUp = true → ∀ m ∈ inFlight,
    m.Carries .Follow_Up s.lastSyncSequenceId → b.SyncPath m.timestamp s.t2ReceiveTimeNs
  request : s.waitingForDelayResp = true → ∀ m ∈ inFlight,
    m.Requests member.port s.delayReqSequenceId → b.Reads s.t3DelayReqSendTimeNs m.leftAt
  response : s.waitingForDelayResp = true → ∀ m ∈ inFlight,
    m.Answers member.port s.delayReqSequenceId → b.RequestPath s.t3DelayReqSendTimeNs m.timestamp
  steady : b.Steady s

namespace Expecting

variable {b : Bounds} {member : Member} {inFlight new : List Sent} {s : Slave} {m : Sent}

theorem init : Expecting b member [] {} where
  received_lt := by decide
  asked_lt := by decide
  sync _ h := absurd h (by decide)
  delay _ h := absurd rfl h
  correction h := nomatch h
  followUp h := nomatch h
  request h := nomatch h
  response h := nomatch h
  steady := b.steady_init

/-- More is under way, and nothing that would be taken for something else. -/
theorem append (h : Expecting b member inFlight s)
    (hf : s.waitingForFollowUp = true → ∀ m ∈ new,
      m.Carries .Follow_Up s.lastSyncSequenceId → b.SyncPath m.timestamp s.t2ReceiveTimeNs)
    (hq : s.waitingForDelayResp = true → ∀ m ∈ new,
      m.Requests member.port s.delayReqSequenceId → b.Reads s.t3DelayReqSendTimeNs m.leftAt)
    (hr : s.waitingForDelayResp = true → ∀ m ∈ new, m.Answers member.port s.delayReqSequenceId →
      b.RequestPath s.t3DelayReqSendTimeNs m.timestamp) :
    Expecting b member (inFlight ++ new) s :=
  { h with
    followUp := fun hw => List.forall_mem_append.mpr ⟨h.followUp hw, hf hw⟩
    request := fun hw => List.forall_mem_append.mpr ⟨h.request hw, hq hw⟩
    response := fun hw => List.forall_mem_append.mpr ⟨h.response hw, hr hw⟩ }

/-- The times the computation reads are of true paths. -/
theorem readSync {t1 t2 : ℤ} (h : Expecting b member inFlight s) (hr : s.readSync = some (t1, t2)) :
    b.SyncPath t1 t2 := by
  have h1 := b.least_nonneg
  have h2 := b.lo_ge
  have h3 := h.received_lt
  unfold Slave.readSync at hr
  split_ifs at hr with hw hzero
  rw [Option.some.injEq, Prod.mk.injEq] at hr
  obtain ⟨rfl, rfl⟩ := hr
  have hpath := h.sync (by simpa using hw) (by simpa using hzero)
  have hlt := hpath.1
  rw [i64_of_bounds (by omega) (by omega), i64_of_bounds (by omega) (by omega)]
  exact hpath

theorem readDelay {t : ℤ × ℤ} (h : Expecting b member inFlight s) (hr : s.readDelay = some t) :
    b.RequestPath t.1 t.2 := by
  have h1 := b.most_le
  have h2 := b.lo_ge
  have h3 := h.asked_lt
  unfold Slave.readDelay at hr
  split_ifs at hr with hread
  obtain rfl := Option.some.inj hr
  simp only [Bool.and_eq_true, Bool.not_eq_true', bne_iff_ne, ne_eq] at hread
  have hpath := h.delay hread.1.1 hread.1.2 hread.2
  have hlt := hpath.2
  rw [i64_of_bounds (x := (s.t3DelayReqSendTimeNs : ℤ)) (by omega) (by omega),
    i64_of_bounds (by omega) (by omega)]
  exact hpath

theorem calculate (h : Expecting b member inFlight s) :
    Expecting b member inFlight s.calculateOffsetAndDelay := by
  have hsteady : b.Steady s.calculateOffsetAndDelay := by
    unfold Slave.calculateOffsetAndDelay
    split
    · exact h.steady
    · next t1 t2 hr => exact h.steady.applySample (h.readSync hr) fun t ht => h.readDelay ht
  obtain ⟨_, _, _, _, _, _, heq⟩ := Slave.calculateOffsetAndDelay_frame s
  rw [heq] at hsteady ⊢
  exact ⟨h.received_lt, h.asked_lt, h.sync, h.delay, h.correction, h.followUp, h.request, h.response,
    hsteady⟩

variable {cfg : SlaveConfig} {header : Header} {better : MasterDataset → MasterDataset → Bool}

/-- A Sync: the Follow_Ups under way to it say when it left. -/
theorem handleSync (h : Expecting b member inFlight s) (htwo : header.isTwoStep = true)
    (hcorrection : header.correctionField = 0) {t : ℕ} (ht : t < 2 ^ 62)
    (hnext : ∀ m ∈ inFlight, m.Carries .Follow_Up header.sequenceId → b.SyncPath m.timestamp t)
    (data : Ptp.Datagram) : Expecting b member inFlight (s.handleSync cfg header data t) := by
  unfold Slave.handleSync
  dsimp only
  split_ifs
  · exact h
  · rw [Slave.recordSync, if_pos htwo]
    exact ⟨ht, h.asked_lt, fun hw => absurd hw.symm Bool.false_ne_true, h.delay, fun _ => hcorrection,
      fun _ => hnext, h.request, h.response, h.steady.congr rfl rfl rfl rfl⟩

/-- Without a correction the time of a message is the time it carries. -/
theorem ofNs_timestamp (m : Sent) :
    Ptp.Timestamp.ofNs (Ptp.u64 ((parseTimestamp m.data kTimestampOffset).toNanoseconds + 0 / 2 ^ 16)) =
      .ofNs m.timestamp := by
  have hlt : m.timestamp < 2 ^ 64 := Nat.mod_lt _ (by decide)
  have h : Ptp.u64 ((m.timestamp : ℤ) + 0 / 2 ^ 16) = m.timestamp := by
    rw [Int.zero_ediv, add_zero, Ptp.u64]
    omega
  rw [← h]
  rfl

theorem toNanoseconds_timestamp (m : Sent) :
    (Ptp.Timestamp.ofNs m.timestamp).toNanoseconds = m.timestamp :=
  Ptp.Timestamp.toNanoseconds_ofNs (Nat.mod_lt _ (by decide))

/-- The Follow_Up that is waited for. -/
theorem handleFollowUp (h : Expecting b member inFlight s) (hm : m ∈ inFlight)
    (hparse : Ptp.parseHeader m.data = some header) (htype : header.getMessageType = .Follow_Up)
    (hcorrection : header.correctionField = 0) :
    Expecting b member inFlight (s.handleFollowUp header m.data) := by
  unfold Slave.handleFollowUp
  split_ifs with haccepts
  · exact h
  · simp only [Slave.acceptsFollowUp, Bool.not_eq_true, Bool.not_eq_false', Bool.and_eq_true,
      decide_eq_true_eq] at haccepts
    obtain ⟨⟨-, hw⟩, hseq⟩ := haccepts
    have hpath := h.followUp hw m hm ⟨header, hparse, htype, hseq⟩
    refine Expecting.calculate ?_
    have hzero : i64 (s.syncCorrectionField + header.correctionField) = 0 := by
      rw [h.correction hw, hcorrection]
      rfl
    unfold Slave.recordFollowUp
    dsimp only
    rw [hzero, ofNs_timestamp]
    refine ⟨h.received_lt, h.asked_lt, fun _ _ => ?_, h.delay, fun hw => absurd hw Bool.false_ne_true,
      fun hw => absurd hw Bool.false_ne_true, h.request, h.response,
      h.steady.congr rfl rfl rfl rfl⟩
    dsimp only
    rw [toNanoseconds_timestamp]
    exact hpath

/-- The Delay_Resp that is waited for. -/
theorem handleDelayResp (h : Expecting b member inFlight s) (hm : m ∈ inFlight)
    (hparse : Ptp.parseHeader m.data = some header) (htype : header.getMessageType = .Delay_Resp)
    (hcorrection : header.correctionField = 0) :
    Expecting b member inFlight (s.handleDelayResp member.cfg header m.data) := by
  unfold Slave.handleDelayResp
  split_ifs with haccepts
  · exact h
  · simp only [Slave.acceptsDelayResp, Bool.not_eq_true, Bool.not_eq_false', Bool.and_eq_true,
      decide_eq_true_eq] at haccepts
    obtain ⟨⟨⟨-, hw⟩, hseq⟩, hport⟩ := haccepts
    have hpath := h.response hw m hm
      ⟨⟨header, hparse, htype, hseq⟩, hport.trans member.selfPortId_eq⟩
    refine Expecting.calculate ?_
    unfold Slave.recordDelayResp
    dsimp only
    rw [hcorrection, ofNs_timestamp]
    refine ⟨h.received_lt, h.asked_lt, h.sync, fun _ _ _ => ?_, h.correction, h.followUp,
      fun hw => absurd hw Bool.false_ne_true, fun hw => absurd hw Bool.false_ne_true,
      h.steady.congr rfl rfl rfl rfl⟩
    dsimp only
    rw [toNanoseconds_timestamp]
    exact hpath

theorem handleAnnounce (h : Expecting b member inFlight s) (data : Ptp.Datagram) (now : ℕ) :
    Expecting b member inFlight (s.handleAnnounce better cfg header data now) := by
  obtain ⟨_, _, _, _, _, _, heq⟩ := Slave.handleAnnounce_frame s better cfg header data now
  rw [heq]
  exact ⟨h.received_lt, h.asked_lt, h.sync, h.delay, h.correction, h.followUp, h.request, h.response,
    h.steady.congr rfl rfl rfl rfl⟩

theorem checkAnnounceTimeout (h : Expecting b member inFlight s) (now : ℕ) :
    Expecting b member inFlight (s.checkAnnounceTimeout cfg now) := by
  unfold Slave.checkAnnounceTimeout
  split_ifs
  · exact ⟨h.received_lt, h.asked_lt, h.sync, h.delay, h.correction, h.followUp, h.request, h.response,
      h.steady.congr rfl rfl rfl rfl⟩
  · exact h

/-- **A datagram that is under way** leaves the slave with what it is to expect. -/
theorem dispatchMessage (h : Expecting b member inFlight s) (hm : m ∈ inFlight) (hformed : m.Formed)
    {t : ℕ} {onEventSocket : Bool} (ht : onEventSocket = true → t < 2 ^ 62)
    (hnext : onEventSocket = true → ∀ n, m.Carries .Sync n → ∀ m' ∈ inFlight,
      m'.Carries .Follow_Up n → b.SyncPath m'.timestamp t) (now : ℕ) :
    Expecting b member inFlight
      (s.dispatchMessage better member.cfg m.data t onEventSocket now) := by
  obtain ⟨header, hparse, hcorrection, htwo⟩ := hformed
  have hpeer : Slave.forThisPort member.cfg m.data = false := by
    rw [Slave.forThisPort, member.endToEnd]
    rfl
  unfold Slave.dispatchMessage Slave.admittedHeader
  rw [show Ptp.parseHeader m.data = some header from hparse]
  dsimp only
  split_ifs
  · exact h
  · exact h
  · dsimp only
    generalize htype : header.getMessageType = type
    cases type <;> cases onEventSocket <;> try exact h
    case Sync.true =>
      exact h.handleSync (htwo htype) hcorrection (ht rfl)
        (hnext rfl _ ⟨header, hparse, htype, rfl⟩) m.data
    case Pdelay_Resp.true =>
      dsimp only
      rw [Slave.handlePdelayResp, Slave.acceptsPdelayResp, hpeer]
      exact h
    case Follow_Up.false => exact h.handleFollowUp hm hparse htype hcorrection
    case Announce.false => exact h.handleAnnounce m.data now
    case Pdelay_Resp_FU.false =>
      dsimp only
      rw [Slave.handlePdelayRespFollowUp, Slave.acceptsPdelayFollowUp, hpeer]
      exact h
    all_goals exact h.handleDelayResp hm hparse htype hcorrection

theorem mono {less : List Sent} (h : Expecting b member inFlight s)
    (hless : ∀ m ∈ less, m ∈ inFlight) : Expecting b member less s :=
  { h with
    followUp := fun hw m hm => h.followUp hw m (hless m hm)
    request := fun hw m hm => h.request hw m (hless m hm)
    response := fun hw m hm => h.response hw m (hless m hm) }

end Expecting

/-! ## What is sent -/

section Sending

variable {m : Sent} {header : Header} {type : MessageType} {n : ℕ} {data : Ptp.Datagram}

theorem Sent.carries_iff (h : Ptp.parseHeader m.data = some header) :
    m.Carries type n ↔ header.getMessageType = type ∧ header.sequenceId = n := by
  constructor
  · rintro ⟨header', h', hcarries⟩
    cases h.symm.trans h'
    exact hcarries
  · exact fun hcarries => ⟨header, h, hcarries⟩

theorem Sent.not_carries {type' : MessageType} (h : Ptp.parseHeader m.data = some header)
    (htype : header.getMessageType = type') (hne : type ≠ type') : ¬ m.Carries type n :=
  fun hcarries => hne (((Sent.carries_iff h).mp hcarries).1.symm.trans htype)

theorem Sent.type_of_requests {port : OwnPort} (h : Ptp.parseHeader m.data = some header)
    (hr : m.Requests port n) : header.getMessageType = .Delay_Req := by
  obtain ⟨header', h', htype, -⟩ := hr
  cases h.symm.trans h'
  exact htype

theorem readBE_lt (data : Ptp.Datagram) (offset n : ℕ) : Ptp.readBE data offset n < 256 ^ n := by
  induction n with
  | zero => exact Nat.one_pos
  | succ n ih =>
    have hbyte : Ptp.byteAt data (offset + n) < 256 := UInt8.toNat_lt _
    rw [Ptp.readBE, pow_succ]
    omega

/-- What is read of an identity fits the types of the source. -/
theorem sequenceId_lt (h : Ptp.parseHeader data = some header) :
    header.sequenceId < 2 ^ 16 ∧ header.sourcePortIdentity.clockIdentity < 2 ^ 64 ∧
      header.sourcePortIdentity.portNumber < 2 ^ 16 := by
  unfold Ptp.parseHeader at h
  split_ifs at h
  obtain rfl := Option.some.inj h
  exact ⟨readBE_lt data 30 2, readBE_lt data 20 8, readBE_lt data (20 + 8) 2⟩

theorem parseHeader_buildDelayReq (domain : ℤ) (port : OwnPort) (seqId : UInt16) :
    Ptp.parseHeader (buildDelayReq domain port seqId) =
      some (Ptp.ownHeader 0x01 domain 0 port seqId 0x7F) :=
  Ptp.parseHeader_messageHeader _

/-- A Sync and its Follow_Up have one sequence id, and the Follow_Up has the stamp of the Sync. -/
theorem GrandmasterPort.mem_sendSyncPair {g : GrandmasterPort} {transmitTimeNs : UInt64}
    {sent followUpSent : Bool}
    (h : data ∈ (g.sendSyncPair transmitTimeNs sent followUpSent).2) :
    ∃ header, Ptp.parseHeader data = some header ∧ header.correctionField = 0 ∧
      header.sequenceId = g.syncSequence.toNat ∧
      (header.getMessageType = .Sync ∧ header.isTwoStep = true ∨
        header.getMessageType = .Follow_Up ∧ transmitTimeNs ≠ 0 ∧
          (parseTimestamp data kTimestampOffset).toNanoseconds = transmitTimeNs.toNat) := by
  have hsync : ∀ l, ∃ header,
      Ptp.parseHeader (buildSync g.port g.syncSequence l) = some header ∧ header.correctionField = 0 ∧
      header.sequenceId = g.syncSequence.toNat ∧ header.getMessageType = .Sync ∧
      header.isTwoStep = true := fun l =>
    ⟨_, parseHeader_buildSync, rfl, rfl, PortContext.getMessageType_header,
      (by decide : decide ((kFlagTwoStep ||| kFlagPtpTimescale).toNat / 0x0200 % 2 = 1) = true)⟩
  obtain ⟨header, hparse, hcorrection, hseq, htype⟩ := hsync g.settings.logSyncInterval
  unfold sendSyncPair at h
  dsimp only at h
  split_ifs at h with hsent hstamp hfollow
  · exact absurd h List.not_mem_nil
  · rw [List.mem_singleton.mp h]
    exact ⟨header, hparse, hcorrection, hseq, .inl htype⟩
  · rw [List.mem_singleton.mp h]
    exact ⟨header, hparse, hcorrection, hseq, .inl htype⟩
  · rcases List.mem_cons.mp h with rfl | h
    · exact ⟨header, hparse, hcorrection, hseq, .inl htype⟩
    · obtain ⟨hp, ht⟩ := @parse_buildFollowUp g.port g.syncSequence g.settings.logSyncInterval
        transmitTimeNs
      rw [List.mem_singleton.mp h]
      refine ⟨_, hp, rfl, rfl, .inr ⟨PortContext.getMessageType_header, hstamp, ?_⟩⟩
      rw [ht, Ptp.Timestamp.toNanoseconds_ofNs transmitTimeNs.toNat_lt]

/-- A Delay_Resp goes to whom the request came from, with its sequence id and when it arrived. -/
theorem GrandmasterPort.mem_handleDelayReq {g : GrandmasterPort} {receiveTimeNs : UInt64} {sent : Bool}
    (hseq : header.sequenceId < 2 ^ 16) (hclock : header.sourcePortIdentity.clockIdentity < 2 ^ 64)
    (hport : header.sourcePortIdentity.portNumber < 2 ^ 16)
    (h : data ∈ (g.handleDelayReq header receiveTimeNs sent).2) :
    ∃ answer, Ptp.parseHeader data = some answer ∧ answer.correctionField = 0 ∧
      answer.getMessageType = .Delay_Resp ∧ answer.sequenceId = header.sequenceId ∧
      parsePortIdentity data kRequestingPortOffset = header.sourcePortIdentity ∧
      (parseTimestamp data kTimestampOffset).toNanoseconds = receiveTimeNs.toNat := by
  unfold handleDelayReq at h
  dsimp only at h
  split_ifs at h
  · obtain rfl := List.mem_singleton.mp h
    refine ⟨_, parse_buildDelayResp.1, rfl, PortContext.getMessageType_header, ?_, ?_, ?_⟩
    · exact UInt16.toNat_ofNat_of_lt' hseq
    · rw [parse_buildDelayResp.2.2, OwnPort.toPortIdentity]
      dsimp only
      rw [UInt64.toNat_ofNat_of_lt' hclock, UInt16.toNat_ofNat_of_lt' hport]
    · rw [parse_buildDelayResp.2.1, Ptp.Timestamp.toNanoseconds_ofNs receiveTimeNs.toNat_lt]
  · exact absurd h List.not_mem_nil

theorem GrandmasterPort.mem_serviceMessage {g : GrandmasterPort} {asked : Ptp.Datagram}
    {receiveTimeNs currentTimeNs : UInt64} {sent : Bool}
    (hparse : Ptp.parseHeader asked = some header)
    (h : data ∈ (g.serviceMessage asked receiveTimeNs currentTimeNs sent).2) :
    header.getMessageType = .Delay_Req ∧
    ∃ answer, Ptp.parseHeader data = some answer ∧ answer.correctionField = 0 ∧
      answer.getMessageType = .Delay_Resp ∧ answer.sequenceId = header.sequenceId ∧
      parsePortIdentity data kRequestingPortOffset = header.sourcePortIdentity ∧
      (parseTimestamp data kTimestampOffset).toNanoseconds =
        (if receiveTimeNs = 0 then currentTimeNs else receiveTimeNs).toNat := by
  obtain ⟨hseq, hclock, hport⟩ := sequenceId_lt hparse
  unfold serviceMessage at h
  rw [parseHeader_of_slave hparse] at h
  dsimp only at h
  generalize (if receiveTimeNs = 0 then currentTimeNs else receiveTimeNs) = stamp at h ⊢
  split_ifs at h with hdomain hself htype
  · exact absurd h List.not_mem_nil
  · exact absurd h List.not_mem_nil
  · exact ⟨htype, @mem_handleDelayReq { header with correctionField := 0 } data g stamp sent hseq
      hclock hport h⟩
  · exact absurd h List.not_mem_nil

end Sending

/-! ## The invariant -/

namespace Domain

variable {ι : Type} {better : MasterDataset → MasterDataset → Bool} {b : Bounds}
  {members : ι → Member} {d : Domain ι} {new : List Sent} {m : Sent} {leftAt : ℤ}

/-- What is under way agrees with itself, and with what each slave waits for. -/
structure Inv (b : Bounds) (members : ι → Member) (d : Domain ι) : Prop where
  formed : ∀ m ∈ d.inFlight, m.Formed
  pair : ∀ m ∈ d.inFlight, ∀ m' ∈ d.inFlight, ∀ n, m.Carries .Sync n → m'.Carries .Follow_Up n →
    (m'.timestamp : ℤ) = m.leftAt
  expecting : ∀ i, Expecting b (members i) d.inFlight (d.slaves i)

theorem inv_init (g : GrandmasterPort) : Inv b members { master := g } where
  formed _ hm := absurd hm List.not_mem_nil
  pair _ hm := absurd hm List.not_mem_nil
  expecting _ := .init

/-- Messages of the request path say nothing of a Sync. -/
theorem Inv.append (h : Inv b members d) {slaves : ι → Slave} {g : GrandmasterPort}
    (hformed : ∀ m ∈ new, m.Formed)
    (hquiet : ∀ m ∈ new, ∀ n, ¬ m.Carries .Sync n ∧ ¬ m.Carries .Follow_Up n)
    (hexpecting : ∀ i, Expecting b (members i) (d.inFlight ++ new) (slaves i)) :
    Inv b members ⟨g, slaves, d.inFlight ++ new⟩ where
  formed := List.forall_mem_append.mpr ⟨h.formed, hformed⟩
  pair m hm m' hm' n hs hf := by
    rcases List.mem_append.mp hm with hm | hm
    · rcases List.mem_append.mp hm' with hm' | hm'
      · exact h.pair m hm m' hm' n hs hf
      · exact absurd hf (hquiet m' hm' n).2
    · exact absurd hs (hquiet m hm n).1
  expecting := hexpecting

theorem Inv.announce (h : Inv b members d) (currentTimeNs : UInt64) (sent : Bool) :
    Inv b members (d.emit (d.master.sendAnnounce currentTimeNs sent) leftAt) := by
  have hmem : ∀ m ∈ (d.master.sendAnnounce currentTimeNs sent).2.map (Sent.mk · leftAt),
      ∃ header, Ptp.parseHeader m.data = some header ∧ header.correctionField = 0 ∧
        header.getMessageType = .Announce := by
    intro m hm
    obtain ⟨data, hdata, rfl⟩ := List.mem_map.mp hm
    unfold GrandmasterPort.sendAnnounce at hdata
    dsimp only at hdata
    split_ifs at hdata
    · rw [List.mem_singleton.mp hdata]
      obtain ⟨flags, hparse⟩ := @parseHeader_buildAnnounce d.master.port d.master.announceSequence
        d.master.settings.logAnnounceInterval d.master.dataset currentTimeNs
      exact ⟨_, hparse, rfl, PortContext.getMessageType_header⟩
    · exact absurd hdata List.not_mem_nil
  have hother : ∀ m ∈ (d.master.sendAnnounce currentTimeNs sent).2.map (Sent.mk · leftAt),
      ∀ type n, type ≠ .Announce → ¬ m.Carries type n := by
    intro m hm type n hne
    obtain ⟨header, hparse, -, htype⟩ := hmem m hm
    exact Sent.not_carries hparse htype hne
  refine h.append (fun m hm => ?_) (fun m hm n => ⟨hother m hm _ n (by decide),
    hother m hm _ n (by decide)⟩) fun i => (h.expecting i).append
      (fun _ m hm hf => absurd hf (hother m hm _ _ (by decide))) (fun _ m hm hq => ?_)
      (fun _ m hm hr => absurd hr.1 (hother m hm _ _ (by decide)))
  · obtain ⟨header, hparse, hcorrection, htype⟩ := hmem m hm
    exact ⟨header, hparse, hcorrection, fun hs => nomatch hs.symm.trans htype⟩
  · obtain ⟨header, hparse, -, htype⟩ := hmem m hm
    exact nomatch (Sent.type_of_requests hparse hq).symm.trans htype

/-- **A Sync and its Follow_Up** are each other's, since their id was out of use. -/
theorem Inv.syncPair (h : Inv b members d) {transmitTimeNs : UInt64} {sent followUpSent : Bool}
    (hstamp : transmitTimeNs = 0 ∨ (transmitTimeNs.toNat : ℤ) = leftAt) (hretired : d.SyncRetired) :
    Inv b members (d.emit (d.master.sendSyncPair transmitTimeNs sent followUpSent) leftAt) := by
  have hmem : ∀ m ∈ (d.master.sendSyncPair transmitTimeNs sent followUpSent).2.map
      (Sent.mk · leftAt), ∃ header, Ptp.parseHeader m.data = some header ∧
        header.correctionField = 0 ∧ header.sequenceId = d.master.syncSequence.toNat ∧
        m.leftAt = leftAt ∧ (header.getMessageType = .Sync ∧ header.isTwoStep = true ∨
          header.getMessageType = .Follow_Up ∧ (m.timestamp : ℤ) = leftAt) := by
    intro m hm
    obtain ⟨data, hdata, rfl⟩ := List.mem_map.mp hm
    obtain ⟨header, hparse, hcorrection, hseq, htype⟩ := GrandmasterPort.mem_sendSyncPair hdata
    refine ⟨header, hparse, hcorrection, hseq, rfl, htype.imp_right fun ⟨ht, hne, htime⟩ => ⟨ht, ?_⟩⟩
    rw [← hstamp.resolve_left hne, ← htime]
    rfl
  change Inv b members ⟨(d.master.sendSyncPair transmitTimeNs sent followUpSent).1, d.slaves,
    d.inFlight ++ (d.master.sendSyncPair transmitTimeNs sent followUpSent).2.map (Sent.mk · leftAt)⟩
  generalize (d.master.sendSyncPair transmitTimeNs sent followUpSent).2.map (Sent.mk · leftAt) = new
    at hmem ⊢
  have hseq : ∀ m ∈ new, ∀ type n, m.Carries type n → n = d.master.syncSequence.toNat := by
    intro m hm type n hcarries
    obtain ⟨header, hparse, -, hseq, -⟩ := hmem m hm
    exact ((Sent.carries_iff hparse).mp hcarries).2.symm.trans hseq
  have hother : ∀ m ∈ new, ∀ type n, type ≠ .Sync → type ≠ .Follow_Up → ¬ m.Carries type n := by
    intro m hm type n hs hf
    obtain ⟨header, hparse, -, -, -, htype⟩ := hmem m hm
    rcases htype with ⟨htype, -⟩ | ⟨htype, -⟩
    · exact Sent.not_carries hparse htype hs
    · exact Sent.not_carries hparse htype hf
  have htime : ∀ m ∈ new, ∀ n, m.Carries .Follow_Up n → (m.timestamp : ℤ) = leftAt := by
    intro m hm n hcarries
    obtain ⟨header, hparse, -, -, -, htype⟩ := hmem m hm
    obtain ⟨ht, -⟩ := (Sent.carries_iff hparse).mp hcarries
    rcases htype with ⟨htype, -⟩ | ⟨-, htime⟩
    · exact nomatch ht.symm.trans htype
    · exact htime
  refine ⟨List.forall_mem_append.mpr ⟨h.formed, fun m hm => ?_⟩, fun m hm m' hm' n hs hf => ?_,
    fun i => (h.expecting i).append (fun hw m hm hf => ?_) (fun _ m hm hq => ?_)
      (fun _ m hm hr => absurd hr.1 (hother m hm _ _ (by decide) (by decide)))⟩
  · obtain ⟨header, hparse, hcorrection, -, -, htype⟩ := hmem m hm
    refine ⟨header, hparse, hcorrection, fun hs => ?_⟩
    rcases htype with ⟨-, htwo⟩ | ⟨htype, -⟩
    · exact htwo
    · exact nomatch hs.symm.trans htype
  · rcases List.mem_append.mp hm with hm | hm <;> rcases List.mem_append.mp hm' with hm' | hm'
    · exact h.pair m hm m' hm' n hs hf
    · rw [hseq m' hm' _ n hf] at hs
      exact absurd hs (hretired.1 m hm).1
    · rw [hseq m hm _ n hs] at hf
      exact absurd hf (hretired.1 m' hm').2
    · obtain ⟨-, -, -, -, hleft, -⟩ := hmem m hm
      rw [htime m' hm' n hf, hleft]
  · exact absurd (hseq m hm _ _ hf) (hretired.2 i hw)
  · obtain ⟨header, hparse, -⟩ := id hq
    exact absurd ⟨header, hparse, Sent.type_of_requests hparse hq, rfl⟩
      (hother m hm .Delay_Req header.sequenceId (by decide) (by decide))

/-- **An answer** carries when its request arrived, to the port the request came from. -/
theorem Inv.serve (h : Inv b members d) (hm : m ∈ d.inFlight) {receiveTimeNs currentTimeNs : UInt64}
    {sent : Bool} {arrival : ℤ}
    (harrival : ((if receiveTimeNs = 0 then currentTimeNs else receiveTimeNs).toNat : ℤ) = arrival)
    (hleast : m.leftAt + b.least ≤ arrival) (hmost : arrival ≤ m.leftAt + b.most) :
    Inv b members (d.emit (d.master.serviceMessage m.data receiveTimeNs currentTimeNs sent) leftAt) := by
  obtain ⟨header, hparse, -⟩ := h.formed m hm
  have hmem : ∀ m' ∈ (d.master.serviceMessage m.data receiveTimeNs currentTimeNs sent).2.map
      (Sent.mk · leftAt), header.getMessageType = .Delay_Req ∧
        ∃ answer, Ptp.parseHeader m'.data = some answer ∧ answer.correctionField = 0 ∧
          answer.getMessageType = .Delay_Resp ∧ answer.sequenceId = header.sequenceId ∧
          parsePortIdentity m'.data kRequestingPortOffset = header.sourcePortIdentity ∧
          (m'.timestamp : ℤ) = arrival := by
    intro m' hm'
    obtain ⟨data, hdata, rfl⟩ := List.mem_map.mp hm'
    obtain ⟨htype, answer, hp, hcorrection, ht, hseq, hport, htime⟩ :=
      GrandmasterPort.mem_serviceMessage hparse hdata
    refine ⟨htype, answer, hp, hcorrection, ht, hseq, hport, ?_⟩
    rw [← harrival, ← htime]
    rfl
  change Inv b members ⟨(d.master.serviceMessage m.data receiveTimeNs currentTimeNs sent).1, d.slaves,
    d.inFlight ++ (d.master.serviceMessage m.data receiveTimeNs currentTimeNs sent).2.map
      (Sent.mk · leftAt)⟩
  generalize (d.master.serviceMessage m.data receiveTimeNs currentTimeNs sent).2.map
    (Sent.mk · leftAt) = new at hmem ⊢
  have hother : ∀ m' ∈ new, ∀ type n, type ≠ .Delay_Resp → ¬ m'.Carries type n := by
    intro m' hm' type n hne
    obtain ⟨-, answer, hp, -, ht, -⟩ := hmem m' hm'
    exact Sent.not_carries hp ht hne
  refine h.append (fun m' hm' => ?_) (fun m' hm' n => ⟨hother m' hm' _ n (by decide),
    hother m' hm' _ n (by decide)⟩) fun i => (h.expecting i).append
      (fun _ m' hm' hf => absurd hf (hother m' hm' _ _ (by decide))) (fun _ m' hm' hq => ?_)
      (fun hw m' hm' hr => ?_)
  · obtain ⟨-, answer, hp, hcorrection, ht, -⟩ := hmem m' hm'
    exact ⟨answer, hp, hcorrection, fun hs => nomatch hs.symm.trans ht⟩
  · obtain ⟨-, answer, hp, -, ht, -⟩ := hmem m' hm'
    exact nomatch (Sent.type_of_requests hp hq).symm.trans ht
  · obtain ⟨htype, answer, hp, -, -, hseq, hport, htime⟩ := hmem m' hm'
    have hasked : m.Requests (members i).port (d.slaves i).delayReqSequenceId :=
      ⟨header, hparse, htype, hseq.symm.trans ((Sent.carries_iff hp).mp hr.1).2,
        hport.symm.trans hr.2⟩
    obtain ⟨hlo, hhi⟩ := (h.expecting i).request hw m hm hasked
    rw [htime]
    constructor <;> omega

/-- What the request thread sends is a Delay_Req of the slave's own. -/
theorem mem_requests {member : Member} {s : Slave} {sent : Bool}
    (hm : m ∈ (member.requests s sent).map (Sent.mk · leftAt)) :
    m.leftAt = leftAt ∧ ∃ header, Ptp.parseHeader m.data = some header ∧
      header.correctionField = 0 ∧ header.getMessageType = .Delay_Req ∧
      header.sourcePortIdentity = member.port.toPortIdentity := by
  obtain ⟨data, hdata, rfl⟩ := List.mem_map.mp hm
  unfold Member.requests at hdata
  split_ifs at hdata
  · rw [List.mem_singleton.mp hdata]
    exact ⟨rfl, _, parseHeader_buildDelayReq _ _ _, rfl, rfl, rfl⟩
  · exact absurd hdata List.not_mem_nil

/-- **A turn of the request thread**, with an id that was out of use. -/
theorem expecting_request {member : Member} {inFlight : List Sent} {s : Slave}
    (h : Expecting b member inFlight s) {t : ℕ} (ht : t < 2 ^ 62) (hreads : b.Reads t leftAt)
    (hretired : ∀ m ∈ inFlight, ¬ m.Requests member.port ((s.delayReqSequenceId + 1) % 2 ^ 16) ∧
      ¬ m.Answers member.port ((s.delayReqSequenceId + 1) % 2 ^ 16)) (sent : Bool) :
    Expecting b member (inFlight ++ (member.requests s sent).map (Sent.mk · leftAt))
      (s.request member.cfg t sent) := by
  have hadvance : Expecting b member inFlight s.advanceDelayReq :=
    ⟨h.received_lt, h.asked_lt, h.sync, h.delay, h.correction, h.followUp,
      fun _ m hm hq => absurd hq (hretired m hm).1, fun _ m hm hr => absurd hr (hretired m hm).2,
      h.steady.congr rfl rfl rfl rfl⟩
  have hstore : Expecting b member inFlight (s.advanceDelayReq.storeDelayReq t) :=
    ⟨h.received_lt, ht, h.sync, fun hw => absurd hw.symm Bool.false_ne_true, h.correction, h.followUp,
      fun _ m hm hq => absurd hq (hretired m hm).1, fun _ m hm hr => absurd hr (hretired m hm).2,
      h.steady.congr rfl rfl rfl rfl⟩
  have hrequest : s.request member.cfg t sent =
      if s.hasMaster && s.syncCount > 0 then s.sendDelayReq t sent else s := by
    rw [Slave.request, member.endToEnd]
  have hnone : ∀ s' : Slave, Expecting b member inFlight s' → member.requests s sent = [] →
      Expecting b member (inFlight ++ (member.requests s sent).map (Sent.mk · leftAt)) s' := by
    intro s' h' hnil
    rw [hnil, List.map_nil, List.append_nil]
    exact h'
  rw [hrequest]
  by_cases hask : (s.hasMaster && decide (s.syncCount > 0)) = true
  · rw [if_pos hask]
    cases sent with
    | false => exact hnone _ hadvance (if_neg (by rw [Bool.and_false]; exact Bool.false_ne_true))
    | true =>
      refine hstore.append (fun _ m hm hf => ?_) (fun _ m hm _ => ?_) (fun _ m hm hr => ?_)
      · obtain ⟨-, header, hp, -, htype, -⟩ := mem_requests hm
        exact absurd hf (Sent.not_carries hp htype (by decide))
      · rw [(mem_requests hm).1]
        exact hreads
      · obtain ⟨-, header, hp, -, htype, -⟩ := mem_requests hm
        exact absurd hr.1 (Sent.not_carries hp htype (by decide))
  · rw [if_neg hask]
    exact hnone _ h (if_neg fun hall => hask (Bool.and_eq_true_iff.mp hall).1)

variable [DecidableEq ι]

/-- One slave takes a step, and nothing is sent. -/
theorem Inv.event (h : Inv b members d) {i : ι} {e : Ptp.Event}
    (hi : Expecting b (members i) d.inFlight ((d.slaves i).step better (members i).cfg e)) :
    Inv b members (d.event better members i e) where
  formed := h.formed
  pair := h.pair
  expecting j := by
    change Expecting b (members j) d.inFlight (Function.update d.slaves i _ j)
    rcases eq_or_ne j i with rfl | hj
    · rw [Function.update_self]
      exact hi
    · rw [Function.update_of_ne hj]
      exact h.expecting j

/-- Of a request the others take no notice: it is not theirs. -/
theorem Inv.request (h : Inv b members d)
    (hports : Function.Injective fun i => (members i).port.toPortIdentity) {i : ι} {t : ℕ}
    (ht : t < 2 ^ 62) (hreads : b.Reads t leftAt) (hretired : d.RequestRetired members i)
    (sent : Bool) : Inv b members (d.step better members (.request i t sent leftAt)) := by
  change Inv b members ⟨d.master,
    Function.update d.slaves i ((d.slaves i).request (members i).cfg t sent),
    d.inFlight ++ ((members i).requests (d.slaves i) sent).map (Sent.mk · leftAt)⟩
  refine h.append (fun m hm => ?_) (fun m hm n => ?_) fun j => ?_
  · obtain ⟨-, header, hp, hcorrection, htype, -⟩ := mem_requests hm
    exact ⟨header, hp, hcorrection, fun hs => nomatch hs.symm.trans htype⟩
  · obtain ⟨-, header, hp, -, htype, -⟩ := mem_requests hm
    exact ⟨Sent.not_carries hp htype (by decide), Sent.not_carries hp htype (by decide)⟩
  · rcases eq_or_ne j i with rfl | hj
    · rw [Function.update_self]
      exact expecting_request (h.expecting j) ht hreads hretired sent
    · rw [Function.update_of_ne hj]
      refine (h.expecting j).append (fun _ m hm hf => ?_) (fun _ m hm hq => ?_) (fun _ m hm hr => ?_)
      · obtain ⟨-, header, hp, -, htype, -⟩ := mem_requests hm
        exact absurd hf (Sent.not_carries hp htype (by decide))
      · obtain ⟨-, header, hp, -, -, hsource⟩ := mem_requests hm
        obtain ⟨header', hp', -, -, hsource'⟩ := hq
        cases hp.symm.trans hp'
        exact absurd (hports (hsource'.symm.trans hsource)) hj
      · obtain ⟨-, header, hp, -, htype, -⟩ := mem_requests hm
        exact absurd hr.1 (Sent.not_carries hp htype (by decide))

/-- **One act in time.** -/
theorem Inv.step (h : Inv b members d)
    (hports : Function.Injective fun i => (members i).port.toPortIdentity) (act : Act ι)
    (ht : d.Timely b members act) : Inv b members (d.step better members act) := by
  cases act with
  | announce currentTimeNs sent leftAt => exact h.announce currentTimeNs sent
  | syncPair transmitTimeNs sent followUpSent leftAt => exact h.syncPair ht.1 ht.2
  | follow call => exact ⟨h.formed, h.pair, h.expecting⟩
  | serve m receiveTimeNs currentTimeNs sent leftAt => exact h.serve ht.1 rfl ht.2.1 ht.2.2
  | request i sendTimeNs sent leftAt => exact h.request hports ht.1 ht.2.1 ht.2.2 sent
  | deliver i m receiveTimeNs onEventSocket now =>
    obtain ⟨hm, htime⟩ := ht
    refine h.event ((h.expecting i).dispatchMessage hm (h.formed m hm) (fun hev => (htime hev).1)
      (fun hev n hs m' hm' hf => ?_) now)
    obtain ⟨-, h1, h2⟩ := htime hev
    have hleft := h.pair m hm m' hm' n hs hf
    constructor <;> omega
  | checkAnnounceTimeout i now => exact h.event ((h.expecting i).checkAnnounceTimeout now)
  | lose m =>
    have hless : ∀ m' ∈ d.inFlight.erase m, m' ∈ d.inFlight := fun _ => List.mem_of_mem_erase
    exact ⟨fun m' hm' => h.formed m' (hless m' hm'),
      fun m' hm' m'' hm'' => h.pair m' (hless m' hm') m'' (hless m'' hm''),
      fun i => (h.expecting i).mono hless⟩

/-- **The slaves have the grandmaster's time**, in every state of every run of acts in time: whatever
is lost, repeated or overtaken, each offset a slave has published is how far its clock is ahead, up to
the time a datagram is under way and what the clocks drift apart; each path delay is one. -/
theorem offset_within (better : MasterDataset → MasterDataset → Bool) (b : Bounds)
    (members : ι → Member) (hports : Function.Injective fun i => (members i).port.toPortIdentity)
    (g : GrandmasterPort) (acts : List (Act ι))
    (ht : Along (step better members) (Timely b members) { master := g } acts) :
    Always (step better members) (fun d => ∀ i, b.Accurate (d.slaves i)) { master := g } acts :=
  (always_of_along (fun _ act h => h.step hports act) (inv_init g) ht).imp
    fun _ h i => (h.expecting i).steady.accurate

end Domain

/-! ## One exchange -/

/-- A slave half a microsecond ahead. -/
def follower : Member := ⟨{ selfPortId := ⟨7, 1⟩ }, ⟨7, 1⟩, rfl, rfl⟩

def grandmaster : GrandmasterPort := { settings := ⟨0, 0, -3, 0, -3⟩, port := { clockIdentity := 1 } }

def bench : Bounds := ⟨500, 500, 100, 300, by decide, by decide, by decide, by decide, by decide, by decide⟩

def sync : Sent := ⟨buildSync grandmaster.port 0 (-3), 1000⟩

def followUp : Sent := ⟨buildFollowUp grandmaster.port 0 (-3) 1000, 1000⟩

def delayReq : Sent := ⟨buildDelayReq 0 ⟨7, 1⟩ 1, 2000⟩

def delayResp : Sent := ⟨buildDelayResp grandmaster.port ⟨7, 1⟩ 1 (-3) 2150, 2150⟩

/-- An Announce, a Sync received twice, and a request. -/
def exchange : List (Act Unit) :=
  [.announce 0 true 0, .deliver () ⟨buildAnnounce grandmaster.port grandmaster.dataset 0 0 0, 0⟩ 0 false 0,
    .syncPair 1000 true true 1000, .deliver () sync 1700 true 0, .deliver () followUp 0 false 0,
    .request () 2500 true 2000, .serve delayReq 2150 0 true 2150, .deliver () sync 1650 true 0,
    .deliver () delayResp 0 false 0, .deliver () followUp 0 false 0]

/-- **An exchange in which the Sync came twice**: what is published is within the bounds, and the true
offset of 500 is missed by the filter's first sample, which had no path delay yet. -/
theorem offset_within_exchange :
    Along (Domain.step (fun _ _ => false) fun _ => follower) (Domain.Timely bench fun _ => follower)
      { master := grandmaster } exchange ∧
    Always (Domain.step (fun _ _ => false) fun _ => follower) (fun d => ∀ i, bench.Accurate (d.slaves i))
      { master := grandmaster } exchange ∧
    ((exchange.foldl (Domain.step (fun _ _ => false) fun _ => follower)
      { master := grandmaster }).slaves ()).offsetNs = 600 := by
  have htimely : Along (Domain.step (fun _ _ => false) fun _ => follower)
      (Domain.Timely bench fun _ => follower) { master := grandmaster } exchange := by
    decide +kernel
  exact ⟨htimely, Domain.offset_within _ bench _ (fun _ _ _ => rfl) grandmaster exchange htimely,
    by decide +kernel⟩

end Aes67.LinuxPtpd
