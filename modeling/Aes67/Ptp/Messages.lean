import Aes67.Ptp.Slave

/-!
# What a datagram is taken for

The handlers of the slave by the message they take: what each records, and the slave it leaves to
`calculateOffsetAndDelay`.

* `Message`, `Slave.messageOf`: the message of an event, where the slave takes it;
* `Slave.handle`, `step_datagram`: what the handler does;
* `Slave.computing`, `handle_of_computing`: the messages that end in a computation.
-/

namespace Aes67.Ptp

/-- What the slave takes a datagram for, where it takes it. -/
inductive Message
  | sync (header : Header) (data : Datagram) (receiveTimeNs : ℕ)
  | followUp (header : Header) (data : Datagram)
  | delayResp (header : Header) (data : Datagram)
  | pdelayResp (header : Header) (data : Datagram) (receiveTimeNs : ℕ)
  | pdelayFollowUp (header : Header) (data : Datagram)
  | announce (header : Header) (data : Datagram) (now : ℕ)

namespace Slave

variable (cfg : SlaveConfig) (s : Slave)

def messageOf : Event → Option Message
  | .datagram data receiveTimeNs onEventSocket now =>
    match admittedHeader cfg data with
    | none => none
    | some header =>
      match header.getMessageType, onEventSocket with
      | .Sync, true =>
        if acceptsSync cfg header data then some (.sync header data receiveTimeNs) else none
      | .Pdelay_Resp, true =>
        if s.acceptsPdelayResp cfg header data then
          some (.pdelayResp header data receiveTimeNs) else none
      | .Follow_Up, false =>
        if s.acceptsFollowUp header data then some (.followUp header data) else none
      | .Pdelay_Resp_FU, false =>
        if s.acceptsPdelayFollowUp cfg header data then some (.pdelayFollowUp header data) else none
      | .Delay_Resp, _ =>
        if s.acceptsDelayResp cfg header data then some (.delayResp header data) else none
      | .Announce, false => some (.announce header data now)
      | _, _ => none
  | _ => none

/-- What the handler does with the message. -/
def handle (better : MasterDataset → MasterDataset → Bool) : Message → Slave
  | .sync header data receiveTimeNs =>
    let s := s.recordSync header data receiveTimeNs
    if header.isTwoStep then s else s.calculateOffsetAndDelay
  | .followUp header data => (s.recordFollowUp header data).calculateOffsetAndDelay
  | .delayResp header data => (s.recordDelayResp header data).calculateOffsetAndDelay
  | .pdelayResp header data receiveTimeNs =>
    let s := s.recordPdelayResp header data receiveTimeNs
    if header.isTwoStep then s else s.completePdelay 0
  | .pdelayFollowUp header data =>
    (s.recordPdelayFollowUp header).completePdelay (s.turnaround data)
  | .announce header data now => s.handleAnnounce better cfg header data now

theorem step_datagram (better : MasterDataset → MasterDataset → Bool) (data : Datagram)
    (receiveTimeNs : ℕ) (onEventSocket : Bool) (now : ℕ) :
    s.step better cfg (.datagram data receiveTimeNs onEventSocket now) =
      match s.messageOf cfg (.datagram data receiveTimeNs onEventSocket now) with
      | some message => s.handle cfg better message
      | none => s := by
  rw [step, dispatchMessage, messageOf]
  cases admittedHeader cfg data with
  | none => rfl
  | some header =>
    dsimp only
    generalize header.getMessageType = type
    cases type <;> cases onEventSocket <;> try rfl
    case Sync.true =>
      dsimp only
      rw [handleSync]
      cases acceptsSync cfg header data <;> rfl
    case Pdelay_Resp.true =>
      dsimp only
      rw [handlePdelayResp]
      cases s.acceptsPdelayResp cfg header data <;> rfl
    case Follow_Up.false =>
      dsimp only
      rw [handleFollowUp]
      cases s.acceptsFollowUp header data <;> rfl
    case Pdelay_Resp_FU.false =>
      dsimp only
      rw [handlePdelayRespFollowUp]
      cases s.acceptsPdelayFollowUp cfg header data <;> rfl
    all_goals
      dsimp only
      rw [handleDelayResp]
      cases s.acceptsDelayResp cfg header data <;> rfl

theorem step_of_messageOf {better : MasterDataset → MasterDataset → Bool} {cfg : SlaveConfig}
    {s : Slave} {e : Event} {message : Message} (h : s.messageOf cfg e = some message) :
    s.step better cfg e = s.handle cfg better message := by
  cases e with
  | datagram data receiveTimeNs onEventSocket now => rw [step_datagram, h]
  | request sendTimeNs sent => cases h
  | checkAnnounceTimeout now => cases h

/-- The slave a message leaves to `calculateOffsetAndDelay`. -/
def computing : Message → Option Slave
  | .sync header data receiveTimeNs =>
    if header.isTwoStep then none else some (s.recordSync header data receiveTimeNs)
  | .followUp header data => some (s.recordFollowUp header data)
  | .delayResp header data => some (s.recordDelayResp header data)
  | _ => none

theorem handle_of_computing {better : MasterDataset → MasterDataset → Bool} {cfg : SlaveConfig}
    {s s' : Slave} {message : Message} (h : s.computing message = some s') :
    s.handle cfg better message = s'.calculateOffsetAndDelay := by
  cases message with
  | sync header data receiveTimeNs =>
    rw [computing] at h
    split_ifs at h with htwo
    cases h
    exact if_neg htwo
  | followUp header data | delayResp header data =>
    cases h
    rfl
  | _ => cases h

/-- What is recorded before a computation is not in the filters. -/
theorem computing_filters {s s' : Slave} {message : Message} (h : s.computing message = some s') :
    s'.offsetHistory = s.offsetHistory ∧ s'.delayHistory = s.delayHistory ∧
      s'.pathDelayNs = s.pathDelayNs ∧
      s'.consecutiveGoodMeasurements = s.consecutiveGoodMeasurements ∧ s'.locked = s.locked := by
  cases message with
  | sync header data receiveTimeNs =>
    rw [computing] at h
    split_ifs at h with htwo
    cases h
    rw [recordSync, if_neg htwo]
    exact ⟨rfl, rfl, rfl, rfl, rfl⟩
  | followUp header data | delayResp header data =>
    cases h
    exact ⟨rfl, rfl, rfl, rfl, rfl⟩
  | _ => cases h

theorem peerToPeer_of_forThisPort {cfg : SlaveConfig} {data : Datagram}
    (h : forThisPort cfg data = true) : cfg.delayMechanism = .PeerToPeer := by
  simp only [forThisPort, Bool.and_eq_true, decide_eq_true_eq] at h
  exact h.1.1

/-- What the slave takes has been admitted, and a peer delay message accepted. -/
theorem of_messageOf {cfg : SlaveConfig} {data : Datagram} {t now : ℕ} {onEventSocket : Bool}
    {message : Message} {s : Slave} (h : s.messageOf cfg (.datagram data t onEventSocket now) = some message) :
    ∃ header, admittedHeader cfg data = some header ∧ match message with
      | .pdelayResp header' data' t' => header' = header ∧ data' = data ∧ t' = t ∧
        s.acceptsPdelayResp cfg header data = true
      | .pdelayFollowUp header' data' => header' = header ∧ data' = data ∧
        s.acceptsPdelayFollowUp cfg header data = true
      | _ => True := by
  unfold messageOf at h
  dsimp only at h
  cases hheader : admittedHeader cfg data with
  | none =>
    rw [hheader] at h
    cases h
  | some header =>
    rw [hheader] at h
    dsimp only at h
    generalize header.getMessageType = type at h
    refine ⟨header, rfl, ?_⟩
    cases type <;> cases onEventSocket <;> dsimp only at h
    case Pdelay_Resp.true =>
      split_ifs at h with haccepts
      cases h
      exact ⟨rfl, rfl, rfl, haccepts⟩
    case Pdelay_Resp_FU.false =>
      split_ifs at h with haccepts
      cases h
      exact ⟨rfl, rfl, haccepts⟩
    case Announce.false =>
      cases h
      trivial
    all_goals
      first
      | cases h
      | (split_ifs at h
         cases h
         trivial)

/-- An Announce changes the selection and the lock. -/
theorem handleAnnounce_frame (s : Slave) (better : MasterDataset → MasterDataset → Bool)
    (cfg : SlaveConfig) (header : Header) (data : Datagram) (now : ℕ) :
    ∃ hasMaster currentMaster grandmasterIdentity interval locked good,
      s.handleAnnounce better cfg header data now = { s with
        hasMaster := hasMaster, currentMaster := currentMaster
        grandmasterIdentity := grandmasterIdentity, advertisedAnnounceIntervalMs := interval
        locked := locked, consecutiveGoodMeasurements := good } := by
  unfold handleAnnounce considerMaster followInterval select
  dsimp only
  split_ifs <;> exact ⟨_, _, _, _, _, _, rfl⟩

theorem completePdelay_frame (s : Slave) (t3MinusT2Ns : ℤ) :
    s.SameInputs (s.completePdelay t3MinusT2Ns) := by
  unfold completePdelay
  split
  · exact .refl s
  · exact storeFilteredPathDelay_frame s _

end Slave

end Aes67.Ptp
