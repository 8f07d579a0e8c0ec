import Aes67.Ptp.Slave

/-!
# The request thread and the receive thread

A delay measurement takes two threads. The request thread advances the sequence id in one critical
section, sends, and stores its send time in another; the receive thread handles the answers and
reads the stored times in sections of its own. This module interleaves the sections of the two
threads in every order, with every loss, duplication and reordering of the answers.

Requests are numbered; the number of a request modulo `2 ^ 16` is its sequence id. Beside the slave
the state carries, for each stored time, the number of the request it belongs to (`Origins`), so
that a sample can be asked whether it is of one exchange (`Sample.Single`).

* `Threads`, `Act`, `Threads.step`: the interleaving;
* `slave_of_delayResp`, `slave_of_request`: uninterrupted, the sections are the handlers;
* `Prompt`: no answer is taken between its request's advance and its store;
* `Threads.Inv`: what a run of prompt steps keeps, with one preservation lemma an act;
* **`samples_single`**: in a run of prompt steps every sample that reaches the path delay filter is
  of one single exchange.
-/

namespace Aes67.Ptp

/-! ## The interleaving -/

/-- Which request each stored time belongs to. -/
structure Origins where
  /-- the request whose send time is stored -/
  sendTime : ℕ := 0
  /-- the request whose answer's times are stored -/
  answer : ℕ := 0
  /-- the requests whose corrections are summed up -/
  corrections : List ℕ := []

/-- The requests a delay sample is made of. -/
structure Sample where
  origins : Origins
  /-- the request of the turnaround, end to end the same as the answer's -/
  turnaround : ℕ

/-- All times of the sample belong to one request. -/
def Sample.Single (x : Sample) : Prop :=
  x.origins.answer = x.origins.sendTime ∧ x.turnaround = x.origins.sendTime ∧
    ∀ k ∈ x.origins.corrections, k = x.origins.sendTime

instance (x : Sample) : Decidable x.Single := inferInstanceAs (Decidable (_ ∧ _ ∧ _))

/-- Where the request thread stands: before the advance, before the send, before the store. -/
inductive ReqPc
  | idle
  | advanced
  | sent (sendTimeNs : ℕ)
  deriving DecidableEq

/-- Where the receive thread stands: between two messages, inside `calculateOffsetAndDelay` or
inside `completePdelay`, with the locals of the function. -/
inductive RecvPc
  | idle
  | computing
  | haveSync (t1 t2 : ℤ)
  | haveDelay (t1 t2 : ℤ) (delay : Option (ℤ × ℤ)) (sample : Sample)
  | completing (t3MinusT2Ns : ℤ) (turnaround : ℕ)
  | haveLink (delayNs : ℤ) (sample : Sample)

/-- The slave, its two threads, the requests begun and sent, and the samples passed on so far. -/
structure Threads where
  slave : Slave := {}
  req : ReqPc := .idle
  recv : RecvPc := .idle
  requests : ℕ := 0
  sent : List ℕ := []
  origins : Origins := {}
  samples : List Sample := []

/-- An answer to a request, with its arrival time. -/
structure Reply where
  request : ℕ
  header : Header
  data : Datagram
  receiveTimeNs : ℕ
  seq : header.sequenceId = request % 2 ^ 16

/-- One section of one of the two threads. -/
inductive Act
  | advance
  | send (sendTimeNs : ℕ) (ok : Bool)
  | store
  | sync (header : Header) (data : Datagram) (receiveTimeNs : ℕ)
  | followUp (header : Header) (data : Datagram)
  | delayResp (reply : Reply)
  | pdelayResp (reply : Reply)
  | pdelayFollowUp (reply : Reply)
  | continue

namespace Threads

variable (cfg : SlaveConfig) (t : Threads)

/-- The answer can arrive: its request has been sent, and fewer than `2 ^ 16` are outstanding. -/
def arrives (reply : Reply) : Bool :=
  reply.request ∈ t.sent ∧ t.requests < reply.request + 2 ^ 16

/-- The sample the stored times make up. -/
def sample (turnaround : ℕ) : Sample := ⟨t.origins, turnaround⟩

/-- The request thread takes the next sequence id. -/
def advance : Threads :=
  { t with
    slave := match cfg.delayMechanism with
      | .EndToEnd => t.slave.advanceDelayReq
      | .PeerToPeer => t.slave.advancePdelayReq
    requests := t.requests + 1
    req := .advanced }

/-- The request thread stores its send time. -/
def store (sendTimeNs : ℕ) : Threads :=
  { t with
    slave := match cfg.delayMechanism with
      | .EndToEnd => t.slave.storeDelayReq sendTimeNs
      | .PeerToPeer => t.slave.storePdelayReq sendTimeNs
    origins := { t.origins with sendTime := t.requests, corrections := [] }
    req := .idle }

/-- The answers the slave takes in its present state. -/
def takesDelayResp (reply : Reply) : Bool :=
  t.arrives reply && t.slave.acceptsDelayResp cfg reply.header reply.data

/-- The peer answers the slave takes in its present state. -/
def takesPdelayResp (reply : Reply) : Bool :=
  t.arrives reply && t.slave.acceptsPdelayResp cfg reply.header reply.data

/-- The peer follow-ups the slave takes in its present state. -/
def takesPdelayFollowUp (reply : Reply) : Bool :=
  t.arrives reply && t.slave.acceptsPdelayFollowUp cfg reply.header reply.data

/-- The next section of the function the receive thread is in. -/
def resume : Threads :=
  match t.recv with
  | .idle => t
  | .computing =>
    match t.slave.readSync with
    | none => { t with recv := .idle }
    | some (t1, t2) => { t with recv := .haveSync t1 t2 }
  | .haveSync t1 t2 =>
    { t with recv := .haveDelay t1 t2 t.slave.readDelay (t.sample t.origins.answer) }
  | .haveDelay t1 t2 delay sample =>
    { t with
      slave := t.slave.applySample t1 t2 delay
      recv := .idle
      samples := if delay.isSome then sample :: t.samples else t.samples }
  | .completing t3MinusT2Ns turnaround =>
    match t.slave.readPdelay with
    | none => { t with recv := .idle }
    | some (t1, t4, correctionNs) =>
      { t with
        recv := .haveLink (Slave.linkDelay t1 t4 correctionNs t3MinusT2Ns) (t.sample turnaround) }
  | .haveLink delayNs sample =>
    { t with
      slave := t.slave.storeFilteredPathDelay delayNs
      recv := .idle
      samples := sample :: t.samples }

/-- What the receive thread does with a message when it is between two. -/
def receive : Act → Threads
  | .sync header data receiveTimeNs =>
    if Slave.acceptsSync cfg header data then
      { t with
        slave := t.slave.recordSync header data receiveTimeNs
        recv := if header.isTwoStep then .idle else .computing }
    else t
  | .followUp header data =>
    if t.slave.acceptsFollowUp header data then
      { t with slave := t.slave.recordFollowUp header data, recv := .computing }
    else t
  | .delayResp reply =>
    if t.takesDelayResp cfg reply then
      { t with
        slave := t.slave.recordDelayResp reply.header reply.data
        origins := { t.origins with answer := reply.request, corrections := [reply.request] }
        recv := .computing }
    else t
  | .pdelayResp reply =>
    if t.takesPdelayResp cfg reply then
      { t with
        slave := t.slave.recordPdelayResp reply.header reply.data reply.receiveTimeNs
        origins := { t.origins with
          answer := reply.request, corrections := reply.request :: t.origins.corrections }
        recv := if reply.header.isTwoStep then .idle else .completing 0 reply.request }
    else t
  | .pdelayFollowUp reply =>
    if t.takesPdelayFollowUp cfg reply then
      { t with
        slave := t.slave.recordPdelayFollowUp reply.header
        origins := { t.origins with corrections := reply.request :: t.origins.corrections }
        recv := .completing (t.slave.turnaround reply.data) reply.request }
    else t
  | _ => t

/-- The state after one act. An act of a thread that stands elsewhere does nothing. -/
def step : Act → Threads
  | .advance => if t.req = .idle then t.advance cfg else t
  | .send sendTimeNs ok =>
    if t.req = .advanced then
      if ok then { t with req := .sent sendTimeNs, sent := t.requests :: t.sent }
      else { t with req := .idle }
    else t
  | .store =>
    match t.req with
    | .sent sendTimeNs => t.store cfg sendTimeNs
    | _ => t
  | .continue => t.resume
  | act =>
    match t.recv with
    | .idle => t.receive cfg act
    | _ => t

/-- The act is no answer, or one that is not taken, or one taken while the request thread is not
between the advance and the store of a request. -/
def Prompt (act : Act) : Prop :=
  t.recv = .idle →
    match act with
    | .delayResp reply => t.takesDelayResp cfg reply = true → t.req = .idle
    | .pdelayResp reply => t.takesPdelayResp cfg reply = true → t.req = .idle
    | .pdelayFollowUp reply => t.takesPdelayFollowUp cfg reply = true → t.req = .idle
    | _ => True

/-! ## Uninterrupted, the sections are the handlers -/

variable {cfg t} in
theorem resume_computing (h : t.recv = .computing) :
    t.resume.resume.resume.slave = t.slave.calculateOffsetAndDelay := by
  simp only [Slave.calculateOffsetAndDelay]
  cases hs : t.slave.readSync with
  | none => simp [resume, h, hs]
  | some p => simp [resume, h, hs]

/-- The sections of a Delay_Resp, taken one after the other, are its handler. -/
theorem slave_of_delayResp {reply : Reply} (hr : t.recv = .idle) (ha : t.arrives reply = true) :
    ([Act.delayResp reply, .continue, .continue, .continue].foldl (step cfg) t).slave =
      t.slave.handleDelayResp cfg reply.header reply.data := by
  cases h : t.slave.acceptsDelayResp cfg reply.header reply.data with
  | false => simp [step, receive, hr, takesDelayResp, h, resume, Slave.handleDelayResp]
  | true =>
    simp only [List.foldl_cons, List.foldl_nil, step, receive, hr, takesDelayResp, h, ha,
      Bool.and_self, if_true, Slave.handleDelayResp, Bool.not_true, Bool.false_eq_true, if_false]
    exact resume_computing rfl

/-- The sections of a request, taken one after the other, are `sendDelayReq`. -/
theorem slave_of_request (hm : cfg.delayMechanism = .EndToEnd) (hr : t.req = .idle)
    (sendTimeNs : ℕ) (ok : Bool) :
    ([Act.advance, .send sendTimeNs ok, .store].foldl (step cfg) t).slave =
      t.slave.sendDelayReq sendTimeNs ok := by
  cases ok <;> simp [step, hr, advance, store, hm, Slave.sendDelayReq]

/-! ## The invariant -/

/-- What the locals of the receive thread promise. -/
def RecvOk : Prop :=
  match t.recv with
  | .haveDelay _ _ delay sample => delay.isSome = true → sample.Single
  | .completing _ turnaround => cfg.delayMechanism = .PeerToPeer ∧
      (t.slave.t4PdelayRespReceiveTimeNs ≠ 0 → turnaround = t.origins.sendTime)
  | .haveLink _ sample => sample.Single
  | _ => True

/-- Requests and answers stay paired. -/
structure Inv : Prop where
  seq : cfg.delayMechanism = .EndToEnd → t.slave.delayReqSequenceId = t.requests % 2 ^ 16
  pseq : cfg.delayMechanism = .PeerToPeer → t.slave.pdelayReqSequenceId = t.requests % 2 ^ 16
  sent_le : ∀ k ∈ t.sent, k ≤ t.requests
  unsent : t.req = .advanced → t.requests ∉ t.sent
  stored : t.req = .idle → t.requests ∈ t.sent → t.origins.sendTime = t.requests
  corrections : ∀ k ∈ t.origins.corrections, k = t.origins.sendTime
  answered : cfg.delayMechanism = .EndToEnd → t.slave.waitingForDelayResp = false →
    t.origins.answer = t.origins.sendTime
  noRequest : cfg.delayMechanism = .PeerToPeer →
    t.slave.t3DelayReqSendTimeNs = 0 ∧ t.slave.waitingForDelayResp = false
  pending : cfg.delayMechanism = .PeerToPeer →
    t.slave.t4PdelayRespReceiveTimeNs ≠ 0 ∨ t.slave.waitingForPdelayFollowUp = true →
    t.origins.answer = t.origins.sendTime
  recv : t.RecvOk cfg
  samples : ∀ x ∈ t.samples, x.Single

variable {cfg t}

theorem inv_init : ({} : Threads).Inv cfg where
  seq _ := rfl
  pseq _ := rfl
  sent_le := by simp
  unsent h := by cases h
  stored _ h := by simp at h
  corrections := by simp
  answered _ _ := rfl
  noRequest _ := ⟨rfl, rfl⟩
  pending _ _ := rfl
  recv := trivial
  samples := by simp

/-- Sequence ids tell apart the requests that can still be answered. -/
theorem request_eq_of_arrives (hi : t.Inv cfg) {reply : Reply} (ha : t.arrives reply = true)
    (hq : reply.header.sequenceId = t.requests % 2 ^ 16) :
    reply.request = t.requests ∧ t.requests ∈ t.sent := by
  simp only [arrives, decide_eq_true_eq] at ha
  have hle := hi.sent_le _ ha.1
  have heq : reply.request = t.requests := by
    have := reply.seq
    omega
  exact ⟨heq, heq ▸ ha.1⟩

theorem RecvOk.congr {t' : Threads} (h : t.RecvOk cfg) (h1 : t'.recv = t.recv)
    (h2 : t'.slave.t4PdelayRespReceiveTimeNs = t.slave.t4PdelayRespReceiveTimeNs)
    (h3 : t'.origins.sendTime = t.origins.sendTime) : t'.RecvOk cfg := by
  unfold RecvOk at h ⊢
  rw [h1]
  split at h <;> simp_all

/-! ## The request thread -/

theorem inv_advance (hi : t.Inv cfg) : (t.advance cfg).Inv cfg where
  seq h := by simp [advance, h, Slave.advanceDelayReq, hi.seq h]
  pseq h := by simp [advance, h, Slave.advancePdelayReq, hi.pseq h]
  sent_le k hk := (hi.sent_le k hk).trans (Nat.le_succ _)
  unsent _ h := by
    have := hi.sent_le _ h
    simp only [advance] at this
    omega
  stored h := by cases h
  corrections := hi.corrections
  answered h hw := hi.answered h (by simpa [advance, h, Slave.advanceDelayReq] using hw)
  noRequest h := by simpa [advance, h, Slave.advancePdelayReq] using hi.noRequest h
  pending h hp := hi.pending h (by simpa [advance, h, Slave.advancePdelayReq] using hp)
  recv := hi.recv.congr rfl (by simp only [advance]; split <;> rfl) rfl
  samples := hi.samples

theorem inv_send (hi : t.Inv cfg) (sendTimeNs : ℕ) :
    ({ t with req := .sent sendTimeNs, sent := t.requests :: t.sent } : Threads).Inv cfg where
  seq := hi.seq
  pseq := hi.pseq
  sent_le k hk := by
    rcases List.mem_cons.mp hk with rfl | hk
    · exact le_rfl
    · exact hi.sent_le k hk
  unsent h := by cases h
  stored h := by cases h
  corrections := hi.corrections
  answered := hi.answered
  noRequest := hi.noRequest
  pending := hi.pending
  recv := hi.recv
  samples := hi.samples

theorem inv_sendFailed (hi : t.Inv cfg) (hr : t.req = .advanced) :
    ({ t with req := .idle } : Threads).Inv cfg where
  seq := hi.seq
  pseq := hi.pseq
  sent_le := hi.sent_le
  unsent h := by cases h
  stored _ h := absurd h (hi.unsent hr)
  corrections := hi.corrections
  answered := hi.answered
  noRequest := hi.noRequest
  pending := hi.pending
  recv := hi.recv
  samples := hi.samples

theorem inv_store (hi : t.Inv cfg) (sendTimeNs : ℕ) : (t.store cfg sendTimeNs).Inv cfg where
  seq h := by simpa [store, h, Slave.storeDelayReq] using hi.seq h
  pseq h := by simpa [store, h, Slave.storePdelayReq] using hi.pseq h
  sent_le := hi.sent_le
  unsent h := by cases h
  stored _ _ := rfl
  corrections := by simp [store]
  answered h hw := by simp [store, h, Slave.storeDelayReq] at hw
  noRequest h := by simpa [store, h, Slave.storePdelayReq] using hi.noRequest h
  pending h hp := by simp [store, h, Slave.storePdelayReq] at hp
  recv := by
    -- The peer exchange in flight is given up: its receive time is cleared.
    have := hi.recv
    unfold RecvOk at this ⊢
    simp only [store]
    split at this <;> simp_all [Slave.storePdelayReq]
  samples := hi.samples

/-! ## The receive thread -/

theorem Inv.sameInputs (hi : t.Inv cfg) {s' : Slave} (hs : t.slave.SameInputs s') :
    ({ t with slave := s' } : Threads).Inv cfg := by
  obtain ⟨_, _, _, _, _, _, rfl⟩ := hs
  exact ⟨hi.seq, hi.pseq, hi.sent_le, hi.unsent, hi.stored, hi.corrections, hi.answered,
    hi.noRequest, hi.pending, hi.recv.congr rfl rfl rfl, hi.samples⟩

theorem Inv.setRecv (hi : t.Inv cfg) {r : RecvPc} {samples : List Sample}
    (hr : ({ t with recv := r } : Threads).RecvOk cfg) (hs : ∀ x ∈ samples, x.Single) :
    ({ t with recv := r, samples := samples } : Threads).Inv cfg :=
  ⟨hi.seq, hi.pseq, hi.sent_le, hi.unsent, hi.stored, hi.corrections, hi.answered,
    hi.noRequest, hi.pending, hr.congr rfl rfl rfl, hs⟩

theorem inv_sync (hi : t.Inv cfg) (header : Header) (data : Datagram) (receiveTimeNs : ℕ) :
    ({ t with slave := t.slave.recordSync header data receiveTimeNs } : Threads).Inv cfg := by
  unfold Slave.recordSync
  split_ifs
  all_goals
    exact ⟨hi.seq, hi.pseq, hi.sent_le, hi.unsent, hi.stored, hi.corrections, hi.answered,
      hi.noRequest, hi.pending, hi.recv.congr rfl rfl rfl, hi.samples⟩

theorem inv_followUp (hi : t.Inv cfg) (header : Header) (data : Datagram) :
    ({ t with slave := t.slave.recordFollowUp header data } : Threads).Inv cfg :=
  ⟨hi.seq, hi.pseq, hi.sent_le, hi.unsent, hi.stored, hi.corrections, hi.answered,
    hi.noRequest, hi.pending, hi.recv.congr rfl rfl rfl, hi.samples⟩

theorem inv_delayResp (hi : t.Inv cfg) {reply : Reply} (ht : t.takesDelayResp cfg reply = true)
    (hr : t.req = .idle) : ({ t with
      slave := t.slave.recordDelayResp reply.header reply.data
      origins := { t.origins with answer := reply.request, corrections := [reply.request] }
      recv := .computing } : Threads).Inv cfg := by
  simp only [takesDelayResp, Slave.acceptsDelayResp, Bool.and_eq_true, decide_eq_true_eq] at ht
  obtain ⟨ha, ⟨⟨-, hw⟩, hq⟩, -⟩ := ht
  -- Peer to peer no Delay_Resp is ever awaited.
  have hm : cfg.delayMechanism = .EndToEnd := by
    cases hm : cfg.delayMechanism with
    | EndToEnd => rfl
    | PeerToPeer => rw [(hi.noRequest hm).2] at hw; cases hw
  obtain ⟨hk, hs⟩ := request_eq_of_arrives hi ha (hq.trans (hi.seq hm))
  have own : reply.request = t.origins.sendTime := hk.trans (hi.stored hr hs).symm
  refine ⟨hi.seq, hi.pseq, hi.sent_le, hi.unsent, hi.stored, ?_, fun _ _ => own, ?_, ?_,
    trivial, hi.samples⟩
  · simpa using own
  · intro h; rw [hm] at h; cases h
  · intro h; rw [hm] at h; cases h

theorem inv_pdelayResp (hi : t.Inv cfg) {reply : Reply} (ht : t.takesPdelayResp cfg reply = true)
    (hr : t.req = .idle) : ({ t with
      slave := t.slave.recordPdelayResp reply.header reply.data reply.receiveTimeNs
      origins := { t.origins with
        answer := reply.request, corrections := reply.request :: t.origins.corrections }
      recv := if reply.header.isTwoStep then .idle else .completing 0 reply.request } :
      Threads).Inv cfg := by
  simp only [takesPdelayResp, Slave.acceptsPdelayResp, Slave.forThisPort, Bool.and_eq_true,
    decide_eq_true_eq] at ht
  obtain ⟨ha, ⟨⟨⟨hm, -⟩, -⟩, -⟩, hq⟩ := ht
  obtain ⟨hk, hs⟩ := request_eq_of_arrives hi ha (hq.trans (hi.pseq hm))
  have own : reply.request = t.origins.sendTime := hk.trans (hi.stored hr hs).symm
  refine ⟨hi.seq, hi.pseq, hi.sent_le, hi.unsent, hi.stored, ?_, ?_, hi.noRequest,
    fun _ _ => own, ?_, hi.samples⟩
  · simpa [own] using hi.corrections
  · intro h; rw [hm] at h; cases h
  · unfold RecvOk
    split_ifs
    · trivial
    · exact ⟨hm, fun _ => own⟩

theorem inv_pdelayFollowUp (hi : t.Inv cfg) {reply : Reply}
    (ht : t.takesPdelayFollowUp cfg reply = true) (hr : t.req = .idle) : ({ t with
      slave := t.slave.recordPdelayFollowUp reply.header
      origins := { t.origins with corrections := reply.request :: t.origins.corrections }
      recv := .completing (t.slave.turnaround reply.data) reply.request } : Threads).Inv cfg := by
  simp only [takesPdelayFollowUp, Slave.acceptsPdelayFollowUp, Slave.forThisPort,
    Bool.and_eq_true, decide_eq_true_eq] at ht
  obtain ⟨ha, ⟨⟨⟨hm, -⟩, -⟩, hw⟩, hq⟩ := ht
  obtain ⟨hk, hs⟩ := request_eq_of_arrives hi ha (hq.trans (hi.pseq hm))
  have own : reply.request = t.origins.sendTime := hk.trans (hi.stored hr hs).symm
  refine ⟨hi.seq, hi.pseq, hi.sent_le, hi.unsent, hi.stored, ?_, ?_, hi.noRequest,
    fun h _ => hi.pending h (Or.inr hw), ⟨hm, fun _ => own⟩, hi.samples⟩
  · simpa [own] using hi.corrections
  · intro h; rw [hm] at h; cases h

theorem single_of_readDelay (hi : t.Inv cfg) (hd : t.slave.readDelay.isSome = true) :
    (t.sample t.origins.answer).Single := by
  unfold Slave.readDelay at hd
  split_ifs at hd with h
  · simp only [Bool.and_eq_true, Bool.not_eq_true', bne_iff_ne] at h
    obtain ⟨⟨hw, h3⟩, -⟩ := h
    cases hm : cfg.delayMechanism with
    | EndToEnd => exact ⟨hi.answered hm hw, hi.answered hm hw, hi.corrections⟩
    | PeerToPeer => exact absurd (hi.noRequest hm).1 h3
  · cases hd

theorem inv_resume (hi : t.Inv cfg) : t.resume.Inv cfg := by
  have hrecv := hi.recv
  unfold RecvOk at hrecv
  unfold resume
  split
  · exact hi
  · split
    · exact hi.setRecv trivial hi.samples
    · exact hi.setRecv trivial hi.samples
  · exact hi.setRecv (single_of_readDelay hi) hi.samples
  · next t1 t2 delay sample h =>
    rw [h] at hrecv
    refine (hi.sameInputs (Slave.applySample_frame _ t1 t2 delay)).setRecv (r := .idle) trivial
      fun x hx => ?_
    split_ifs at hx with hd
    · rcases List.mem_cons.mp hx with rfl | hx
      · exact hrecv hd
      · exact hi.samples x hx
    · exact hi.samples x hx
  · next t3MinusT2Ns turnaround h =>
    rw [h] at hrecv
    split
    · exact hi.setRecv trivial hi.samples
    · next t1 t4 correctionNs hread =>
      -- The receive time is there, so the exchange it belongs to has not been given up.
      have h4 : t.slave.t4PdelayRespReceiveTimeNs ≠ 0 := fun h0 => by
        simp [Slave.readPdelay, h0] at hread
      exact hi.setRecv ⟨hi.pending hrecv.1 (Or.inl h4), hrecv.2 h4, hi.corrections⟩ hi.samples
  · next delayNs sample h =>
    rw [h] at hrecv
    refine (hi.sameInputs (Slave.storeFilteredPathDelay_frame _ _)).setRecv (r := .idle) trivial
      fun x hx => ?_
    rcases List.mem_cons.mp hx with rfl | hx
    · exact hrecv
    · exact hi.samples x hx

/-! ## Runs -/

theorem inv_receive (hi : t.Inv cfg) (hr : t.recv = .idle) {act : Act} (hp : t.Prompt cfg act) :
    (t.receive cfg act).Inv cfg := by
  have hp' := hp hr
  cases act with
  | sync header data receiveTimeNs =>
    simp only [receive]
    split_ifs
    · exact (inv_sync hi header data receiveTimeNs).setRecv trivial hi.samples
    · exact (inv_sync hi header data receiveTimeNs).setRecv trivial hi.samples
    · exact hi
  | followUp header data =>
    simp only [receive]
    split_ifs
    · exact (inv_followUp hi header data).setRecv trivial hi.samples
    · exact hi
  | delayResp reply =>
    simp only [receive]
    split_ifs with ht
    · exact inv_delayResp hi ht (hp' ht)
    · exact hi
  | pdelayResp reply =>
    simp only [receive]
    by_cases ht : t.takesPdelayResp cfg reply = true
    · rw [if_pos ht]
      exact inv_pdelayResp hi ht (hp' ht)
    · rwa [if_neg ht]
  | pdelayFollowUp reply =>
    simp only [receive]
    split_ifs with ht
    · exact inv_pdelayFollowUp hi ht (hp' ht)
    · exact hi
  | _ => exact hi

/-- **A prompt act keeps requests and answers paired.** -/
theorem inv_step (hi : t.Inv cfg) {act : Act} (hp : t.Prompt cfg act) : (t.step cfg act).Inv cfg := by
  have message : (match t.recv with
      | .idle => t.receive cfg act
      | _ => t).Inv cfg := by
    split
    · next h => exact inv_receive hi h hp
    · exact hi
  cases act with
  | advance =>
    simp only [step]
    split_ifs
    · exact inv_advance hi
    · exact hi
  | send sendTimeNs ok =>
    simp only [step]
    split_ifs with h
    · exact inv_send hi sendTimeNs
    · exact inv_sendFailed hi h
    · exact hi
  | store =>
    simp only [step]
    split
    · exact inv_store hi _
    · exact hi
  | «continue» => exact inv_resume hi
  | _ => exact message

/-- **In a run of prompt steps every delay sample is of one single exchange.** -/
theorem samples_single (acts : List Act) (h : Along (step cfg) (Prompt cfg) {} acts) :
    Always (step cfg) (fun t => ∀ x ∈ t.samples, x.Single) {} acts := by
  have hi : Always (step cfg) (fun t => t.Inv cfg) {} acts :=
    always_of_along (fun _ _ hi hp => inv_step hi hp) inv_init h
  exact hi.imp fun _ hi => hi.samples

/-- A Delay_Resp to request `k`, received by the master at `256 * hi + lo` ns. -/
def answerTo (k : ℕ) (hi lo : UInt8) : Reply where
  request := k
  header := { sequenceId := k % 2 ^ 16 }
  data := List.replicate 42 0 ++ [hi, lo] ++ List.replicate 10 0
  receiveTimeNs := 0
  seq := rfl

/-- A Sync and its Follow_Up, up to the computation on them. -/
def syncActs : List Act :=
  [.sync { flagField := 0x0200, sequenceId := 7 } (List.replicate 44 0) 1100,
   .followUp { sequenceId := 7 } (List.replicate 42 0 ++ [3, 232]), .continue, .continue, .continue]

/-- A request answered after its store. -/
theorem samples_single_of_late_answer :
    Always (step {}) (fun t => ∀ x ∈ t.samples, x.Single) {}
      (syncActs ++ [Act.advance, .send 2000 true, .store, .delayResp (answerTo 1 8 52), .continue,
        .continue, .continue]) := by
  refine samples_single _ ?_
  exact ⟨fun _ => trivial, fun _ => trivial, fun _ => trivial, fun _ => trivial, fun _ => trivial,
    fun _ => trivial, fun _ => trivial, fun _ => trivial, fun _ _ => rfl, fun _ => trivial,
    fun _ => trivial, fun _ => trivial, trivial⟩

/-- Request 1 goes unanswered; the answer to request 2 is handled before the request thread has
stored the send time of request 2, and is paired with the send time of request 1. -/
theorem sample_of_two_exchanges :
    ¬ Always (step {}) (fun t => ∀ x ∈ t.samples, x.Single) {}
      (syncActs ++ [Act.advance, .send 2000 true, .store, .advance, .send 9000 true,
        .delayResp (answerTo 2 35 140), .continue, .continue, .continue]) :=
  fun h => absurd h.run (by decide)

end Threads

end Aes67.Ptp
