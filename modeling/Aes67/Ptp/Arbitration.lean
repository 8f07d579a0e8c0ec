import Mathlib
import Aes67.Ptp.Master
import Aes67.Ptp.OnWire

/-!
# Ports that arbitrate

Any number of `PTPMaster`s on one segment, each at its own pace and with its own clock. An Announce
that a port has sent may reach any port at any time, more than once or not at all.

* `Master.headerOf`, `Master.receive`: what the receive thread makes of a datagram;
* `Segment.step`: a port evaluates the best master, sends an Announce, or receives one;
* `Held`: what a port holds of the Announces it has heard, and **`held_note`**: one event keeps it;
* `Segment.Hears`: at its last evaluation a port had heard another within its timeout;
* **`hears_passive`**: a port that hears a better one is passive;
* **`single_master`**: of two ports that hear each other, at most one is the master.
-/

namespace Aes67.Ptp

variable (better : MasterDataset → MasterDataset → Bool)

namespace Master

/-- The header as the receive thread of the master reads it. -/
def headerOf (data : Datagram) : Header where
  transportAndType := byteAt data 0
  domainNumber := byteAt data 4
  sourcePortIdentity := parsePortIdentity data 20
  sequenceId := readBE data 30 2
  logMessageInterval := i8 (byteAt data 33)

/-- What the receive thread does with a datagram, where it is an Announce. -/
def receive (data : Datagram) (now : ℕ) : Option MasterEvent :=
  if data.length < kPTPHeaderSize then none
  else if (headerOf data).getMessageType = .Announce then some (.announce (headerOf data) data now)
  else none

variable {better} {m : Master} {cfg : MasterConfig} {now : ℕ}

theorem expire_of_fresh (h : ((now - m.competitorLastSeen : ℕ) : ℤ) ≤ cfg.timeout) :
    m.expire cfg now = m := by
  rw [expire, if_neg]
  rintro ⟨-, hx⟩
  omega

/-- A tick within the timeout keeps the record. -/
theorem competitor_of_fresh (h : ((now - m.competitorLastSeen : ℕ) : ℤ) ≤ cfg.timeout)
    (ours : MasterDataset) : (m.evaluateBMCA better cfg now ours).competitor = m.competitor := by
  rw [evaluateBMCA, expire_of_fresh h]
  split_ifs
  · rfl
  · cases hm : m.competitor with
    | none =>
      simp only [hm]
      split_ifs
      · exact hm
      · rfl
    | some c => simp only [hm]

end Master

/-! ## What a port holds of what it has heard -/

variable {better} {cfg : MasterConfig} {p : Master × List AnnounceData} {now now' : ℕ}
  {ours : MasterDataset} {a : AnnounceData} {header : Header} {data : Datagram}

/-- The Announce was heard within the timeout. -/
def Fresh (cfg : MasterConfig) (now : ℕ) (a : AnnounceData) : Prop :=
  ((now - a.lastReceived : ℕ) : ℤ) ≤ cfg.timeout

theorem Fresh.mono (h : Fresh cfg now' a) (hle : now ≤ now') : Fresh cfg now a := by
  rw [Fresh] at h ⊢
  omega

/-- What holds of a port whose clock shows `now`, with the Announces it has heard: the stamp is the
last arrival, and no fresh Announce beats the record. -/
structure Held (better : MasterDataset → MasterDataset → Bool) (cfg : MasterConfig)
    (p : Master × List AnnounceData) (now : ℕ) : Prop where
  seen : ∀ a ∈ p.2, a.lastReceived ≤ now
  stamped : p.1.competitor.isSome = true → ∀ a ∈ p.2, a.lastReceived ≤ p.1.competitorLastSeen
  heard : ∀ c, p.1.competitor = some c → c ∈ p.2
  unbeaten : ∀ a ∈ p.2, Fresh cfg now a →
    ∃ c, p.1.competitor = some c ∧ better a.dataset c.dataset = false

theorem Held.mono (h : Held better cfg p now) (hle : now ≤ now') : Held better cfg p now' where
  seen a ha := (h.seen a ha).trans hle
  stamped := h.stamped
  heard := h.heard
  unbeaten a ha hf := h.unbeaten a ha (hf.mono hle)

theorem eq_of_foreignAnnounce (h : Master.foreignAnnounce cfg header data now = some a) :
    a = parseAnnounce header data now := by
  rw [Master.foreignAnnounce] at h
  dsimp only at h
  split_ifs at h
  exact (Option.some.inj h).symm

section StrictOrder

variable [IsStrictTotalOrder MasterDataset fun a b => better a b = true]

theorem better_irrefl (d : MasterDataset) : better d d = false := by
  have := irrefl_of (fun a b => better a b = true) d
  simpa using this

theorem better_trans {d d' d'' : MasterDataset} (h : better d d' = true)
    (h' : better d' d'' = true) : better d d'' = true :=
  trans_of (fun a b => better a b = true) h h'

/-- A dataset that beats another one also beats whatever does not beat it. -/
theorem better_of_not_better {d d' d'' : MasterDataset} (h : better d d'' = true)
    (h' : better d d' = false) : better d' d'' = true := by
  rcases trichotomous_of (fun a b => better a b = true) d d' with hlt | rfl | hgt
  · rw [hlt] at h'
    cases h'
  · exact h
  · exact better_trans hgt h

/-- An Announce that is heard is held, or beaten by what is. -/
theorem held_announce (h : Held better cfg p now) (hle : now ≤ now')
    (ha : Master.foreignAnnounce cfg header data now' = some a) :
    Held better cfg (Master.note better cfg p (.announce header data now')) now' := by
  have hlast : a.lastReceived = now' := congrArg AnnounceData.lastReceived (eq_of_foreignAnnounce ha)
  have hmaster : (Master.note better cfg p (.announce header data now')).1 =
      { p.1 with
        competitor := some (p.1.competitor.elim a fun c =>
          if better a.dataset c.dataset then a else c)
        competitorLastSeen := now' } := by
    cases hcomp : p.1.competitor <;>
      simp only [Master.note, Master.step, Master.handleForeignAnnounce, ha, hlast, hcomp,
        Option.elim_none, Option.elim_some]
  have hheard : (Master.note better cfg p (.announce header data now')).2 = a :: p.2 := by
    simp only [Master.note, Master.heardIn, ha, Option.toList_some, List.singleton_append]
  refine ⟨?_, ?_, ?_, ?_⟩ <;> rw [hheard]
  · intro b hb
    rcases List.mem_cons.mp hb with rfl | hb
    · exact hlast.le
    · exact (h.seen b hb).trans hle
  · intro _ b hb
    rw [hmaster]
    rcases List.mem_cons.mp hb with rfl | hb
    · exact hlast.le
    · exact (h.seen b hb).trans hle
  · intro c hc
    rw [hmaster] at hc
    dsimp only at hc
    obtain rfl := Option.some.inj hc
    cases hold : p.1.competitor with
    | none => exact List.mem_cons_self
    | some c =>
      rw [Option.elim_some]
      split_ifs
      · exact List.mem_cons_self
      · exact List.mem_cons_of_mem _ (h.heard c hold)
  · intro b hb hf
    rw [hmaster]
    refine ⟨_, rfl, ?_⟩
    cases hold : p.1.competitor with
    | none =>
      rw [Option.elim_none]
      rcases List.mem_cons.mp hb with rfl | hb
      · exact better_irrefl _
      · obtain ⟨c, hc, -⟩ := h.unbeaten b hb (hf.mono hle)
        rw [hold] at hc
        cases hc
    | some c =>
      rw [Option.elim_some]
      rcases List.mem_cons.mp hb with rfl | hb
      · split_ifs with hwins
        · exact better_irrefl _
        · exact Bool.eq_false_iff.mpr hwins
      · obtain ⟨c', hc', hbeaten⟩ := h.unbeaten b hb (hf.mono hle)
        obtain rfl : c = c' := Option.some.inj (hold.symm.trans hc')
        split_ifs with hwins
        · refine Bool.eq_false_iff.mpr fun hba => ?_
          rw [better_trans hba hwins] at hbeaten
          cases hbeaten
        · exact hbeaten

omit [IsStrictTotalOrder MasterDataset fun a b => better a b = true] in
/-- What a tick drops has not been heard within the timeout. -/
theorem held_evaluateBMCA (h : Held better cfg p now) (hle : now ≤ now') (ours : MasterDataset) :
    Held better cfg (Master.note better cfg p (.evaluateBMCA now' ours)) now' := by
  have h := h.mono hle
  have hheard : (Master.note better cfg p (.evaluateBMCA now' ours)).2 = p.2 := rfl
  obtain ⟨hcompetitor, hstamp⟩ := Master.evaluateBMCA_record better cfg p.1 now' ours
  have hcompetitor : (Master.note better cfg p (.evaluateBMCA now' ours)).1.competitor =
      p.1.competitor ∨ ((Master.note better cfg p (.evaluateBMCA now' ours)).1.competitor = none ∧
        ∀ a ∈ p.2, ¬ Fresh cfg now' a) := by
    change (p.1.evaluateBMCA better cfg now' ours).competitor = _ ∨
      (p.1.evaluateBMCA better cfg now' ours).competitor = none ∧ _
    rcases hcompetitor with hkept | hdropped
    · exact .inl hkept
    cases hold : p.1.competitor with
    | none => exact .inl hdropped
    | some c =>
      refine .inr ⟨hdropped, fun a ha hf => ?_⟩
      have hle := h.stamped (by rw [hold]; rfl) a ha
      have hexpired : cfg.timeout < ((now' - p.1.competitorLastSeen : ℕ) : ℤ) := by
        by_contra hfresh
        rw [Master.competitor_of_fresh (not_lt.mp hfresh), hold] at hdropped
        cases hdropped
      rw [Fresh] at hf
      omega
  refine ⟨h.seen, fun hsome a ha => ?_, fun c hc => ?_, fun a ha hf => ?_⟩
  · rcases hcompetitor with hkept | ⟨hdropped, -⟩
    · rw [hkept] at hsome
      exact (h.stamped hsome a ha).trans_eq hstamp.symm
    · rw [hdropped] at hsome
      cases hsome
  · rcases hcompetitor with hkept | ⟨hdropped, -⟩
    · exact h.heard c (hkept.symm.trans hc)
    · rw [hdropped] at hc
      cases hc
  · rcases hcompetitor with hkept | ⟨-, hstale⟩
    · obtain ⟨c, hc, hbeaten⟩ := h.unbeaten a ha hf
      exact ⟨c, hkept.trans hc, hbeaten⟩
    · exact absurd hf (hstale a ha)

/-- **A tick leaves the port passive** where it has heard a better dataset within the timeout. -/
theorem passive_of_fresh (h : Held better cfg p now) (hle : now ≤ now') (ha : a ∈ p.2)
    (hf : Fresh cfg now' a) (hb : better a.dataset ours = true) :
    (p.1.evaluateBMCA better cfg now' ours).role = .Passive := by
  obtain ⟨c, hc, hbeaten⟩ := h.unbeaten a ha (hf.mono hle)
  have hstamp := h.stamped (by rw [hc]; rfl) a ha
  rw [Fresh] at hf
  rw [Master.evaluateBMCA, Master.expire_of_fresh (by omega)]
  split_ifs
  · rfl
  · simp only [hc, better_of_not_better hb hbeaten, if_true]

end StrictOrder

/-! ## The segment -/

variable {ι : Type} [DecidableEq ι]

/-- A port as it is set up, with its dataset, which does not change. -/
structure Station where
  port : OwnPort
  dataset : OwnDataset
  logAnnounceInterval : Int8
  timeSource : UInt8
  announcePeriod : ℕ
  announceReceiptTimeoutMultiplier : ℤ

namespace Station

variable (s : Station)

/-- The configuration of a port of this domain: the grandmaster it announces is itself. -/
def config (domain : ℤ) : MasterConfig where
  domain := domain
  announcePeriod := s.announcePeriod
  announceReceiptTimeoutMultiplier := s.announceReceiptTimeoutMultiplier
  grandmasterIdentity := s.dataset.grandmasterIdentity.toNat

/-- `ourAnnounceData`. -/
def ourDataset : MasterDataset := s.dataset.toDataset s.port

end Station

/-- A port with the Announces it has heard, its clock, and its last evaluation: the time of it and
what had been heard by then. -/
structure Port where
  master : Master
  heard : List AnnounceData := []
  clock : ℕ
  judged : ℕ × List AnnounceData := (0, [])

/-- One event at a port. -/
def Port.note (better : MasterDataset → MasterDataset → Bool) (cfg : MasterConfig) (port : Port)
    (now : ℕ) (e : MasterEvent) : Port :=
  let noted := Master.note better cfg (port.master, port.heard) e
  { port with master := noted.1, heard := noted.2, clock := now }

/-- The ports of a segment, and the datagrams sent so far, with their senders. -/
structure Segment (ι : Type) where
  ports : ι → Port
  sent : List (ι × Datagram) := []

namespace Segment

/-- A port evaluates the best master, sends an Announce, or receives a datagram of the segment. -/
inductive Op (ι : Type)
  | evaluateBMCA (i : ι) (now : ℕ)
  | sendAnnounce (i : ι) (seqId : UInt16)
  | receive (i : ι) (k now : ℕ)

variable (better) (domain : ℤ) (station : ι → Station)

def start (startTime : ι → ℕ) : Segment ι where
  ports i := { master := { startTime := startTime i }, clock := startTime i }

/-- What a port does at an evaluation. -/
def evaluated (i : ι) (port : Port) (now : ℕ) : Port :=
  { port.note better ((station i).config domain) now (.evaluateBMCA now (station i).ourDataset) with
    judged := (now, port.heard) }

def step (net : Segment ι) : Op ι → Segment ι
  | .evaluateBMCA i now =>
    { net with
      ports := Function.update net.ports i (evaluated better domain station i (net.ports i) now) }
  | .sendAnnounce i seqId =>
    if (net.ports i).master.role = .Master then
      { net with
        sent := net.sent ++ [(i, buildAnnounce domain (station i).port seqId
          (station i).logAnnounceInterval (station i).dataset (station i).timeSource)] }
    else net
  | .receive i k now =>
    match net.sent[k]?.bind fun m => Master.receive m.2 now with
    | some e =>
      { net with
        ports := Function.update net.ports i
          ((net.ports i).note better ((station i).config domain) now e) }
    | none => net

/-- Each port's clock does not go back. -/
def Timely (net : Segment ι) : Op ι → Prop
  | .evaluateBMCA i now => (net.ports i).clock ≤ now
  | .sendAnnounce _ _ => True
  | .receive i _ now => (net.ports i).clock ≤ now

instance (net : Segment ι) : ∀ op, Decidable (net.Timely op)
  | .evaluateBMCA i now => inferInstanceAs (Decidable ((net.ports i).clock ≤ now))
  | .sendAnnounce _ _ => inferInstanceAs (Decidable True)
  | .receive i _ now => inferInstanceAs (Decidable ((net.ports i).clock ≤ now))

/-- At its last evaluation port `i` had heard port `j` within its timeout. -/
def Hears (net : Segment ι) (i j : ι) : Prop :=
  ∃ a ∈ (net.ports i).judged.2, a.gm = (station j).ourDataset.grandmasterIdentity ∧
    Fresh ((station i).config domain) (net.ports i).judged.1 a

/-- What holds of port `i`: it has heard Announces of the ports, holds the best of them, and is
passive where it had heard a better one in time. -/
structure Sound (i : ι) (port : Port) : Prop where
  sources : ∀ a ∈ port.heard, ∃ j, a.dataset = (station j).ourDataset
  earlier : ∀ a ∈ port.judged.2, ∃ j, a.dataset = (station j).ourDataset
  held : Held better ((station i).config domain) (port.master, port.heard) port.clock
  obeyed : ∀ a ∈ port.judged.2, Fresh ((station i).config domain) port.judged.1 a →
    better a.dataset (station i).ourDataset = true → port.master.role = .Passive

/-- What holds throughout: what has been sent are Announces of the ports. -/
structure Inv (net : Segment ι) : Prop where
  announced : ∀ m ∈ net.sent, ∃ seqId, m.2 = buildAnnounce domain (station m.1).port seqId
    (station m.1).logAnnounceInterval (station m.1).dataset (station m.1).timeSource
  sound : ∀ i, Sound better domain station i (net.ports i)

variable {better domain station} {net : Segment ι} {port : Port} {i : ι}

omit [DecidableEq ι] in
theorem inv_start (startTime : ι → ℕ) : Inv better domain station (start startTime) where
  announced m hm := absurd hm List.not_mem_nil
  sound i :=
    { sources := fun a ha => absurd ha List.not_mem_nil
      earlier := fun a ha => absurd ha List.not_mem_nil
      held :=
        { seen := fun a ha => absurd ha List.not_mem_nil
          stamped := fun _ a ha => absurd ha List.not_mem_nil
          heard := fun c hc => by cases hc
          unbeaten := fun a ha => absurd ha List.not_mem_nil }
      obeyed := fun a ha => absurd ha List.not_mem_nil }

theorem eq_of_receive {data : Datagram} {e : MasterEvent} (h : Master.receive data now = some e) :
    e = .announce (Master.headerOf data) data now := by
  rw [Master.receive] at h
  split_ifs at h
  exact (Option.some.inj h).symm

/-- What is heard of an Announce of the segment. -/
theorem foreignAnnounce_dataset {s : Station} {seqId : UInt16} {e : MasterEvent} {cfg : MasterConfig}
    (he : Master.receive (buildAnnounce domain s.port seqId s.logAnnounceInterval s.dataset
      s.timeSource) now = some e) (ha : Master.heardIn cfg e = some a) : a.dataset = s.ourDataset := by
  obtain rfl := eq_of_receive he
  obtain rfl := eq_of_foreignAnnounce ha
  have hport : (Master.headerOf (buildAnnounce domain s.port seqId s.logAnnounceInterval s.dataset
      s.timeSource)).sourcePortIdentity = s.port.toPortIdentity :=
    parsePortIdentity_of_holds (holds_messageHeader _).2.1.2.2.1
  rw [parseAnnounce_buildAnnounce _ hport now]
  rfl

section StrictOrder

variable [IsStrictTotalOrder MasterDataset fun a b => better a b = true]

omit [DecidableEq ι] in
theorem Sound.evaluated (h : Sound better domain station i port) (hle : port.clock ≤ now) :
    Sound better domain station i (evaluated better domain station i port now) where
  sources := h.sources
  earlier := h.sources
  held := held_evaluateBMCA h.held hle _
  obeyed _ ha hf hb := passive_of_fresh h.held hle ha hf hb

omit [DecidableEq ι] in
/-- A datagram of the segment leaves the role alone. -/
theorem Sound.received (h : Sound better domain station i port) (hle : port.clock ≤ now)
    {data : Datagram} {e : MasterEvent} (he : Master.receive data now = some e)
    (hdataset : ∀ a, Master.heardIn ((station i).config domain) e = some a →
      ∃ j, a.dataset = (station j).ourDataset) :
    Sound better domain station i (port.note better ((station i).config domain) now e) := by
  obtain rfl := eq_of_receive he
  cases ha : Master.foreignAnnounce ((station i).config domain) (Master.headerOf data) data now with
  | none =>
    have hsame : port.note better ((station i).config domain) now
        (.announce (Master.headerOf data) data now) = { port with clock := now } := by
      simp only [Port.note, Master.note, Master.step, Master.handleForeignAnnounce, Master.heardIn,
        ha, Option.toList_none, List.nil_append]
    rw [hsame]
    exact ⟨h.sources, h.earlier, h.held.mono hle, h.obeyed⟩
  | some a =>
    have hheard : Master.heardIn ((station i).config domain)
        (.announce (Master.headerOf data) data now) = some a := ha
    refine ⟨fun b hb => ?_, h.earlier, held_announce h.held hle ha, fun b hb hf hbetter => ?_⟩
    · rw [Port.note, Master.note, hheard] at hb
      rcases List.mem_cons.mp hb with rfl | hb
      · exact hdataset b hheard
      · exact h.sources b hb
    · have hrole : (port.note better ((station i).config domain) now
          (.announce (Master.headerOf data) data now)).master.role = port.master.role := by
        simp only [Port.note, Master.note, Master.step, Master.handleForeignAnnounce, ha]
      rw [hrole]
      exact h.obeyed b hb hf hbetter

/-- **Every step keeps the invariant.** -/
theorem inv_step (h : Inv better domain station net) {op : Op ι} (ht : net.Timely op) :
    Inv better domain station (net.step better domain station op) := by
  have hupdate {i : ι} {port : Port} (hs : Sound better domain station i port) (j : ι) :
      Sound better domain station j (Function.update net.ports i port j) := by
    rcases eq_or_ne j i with rfl | hj
    · rw [Function.update_self]
      exact hs
    · rw [Function.update_of_ne hj]
      exact h.sound j
  cases op with
  | evaluateBMCA i now => exact ⟨h.announced, hupdate ((h.sound i).evaluated ht)⟩
  | sendAnnounce i seqId =>
    rw [step]
    split_ifs
    · refine ⟨fun m hm => ?_, h.sound⟩
      rcases List.mem_append.mp hm with hm | hm
      · exact h.announced m hm
      · rw [List.mem_singleton] at hm
        exact ⟨seqId, hm ▸ rfl⟩
    · exact h
  | receive i k now =>
    rw [step]
    cases hm : net.sent[k]?.bind fun m => Master.receive m.2 now with
    | none => exact h
    | some e =>
      obtain ⟨m, hk, he⟩ := Option.bind_eq_some_iff.mp hm
      obtain ⟨seqId, hdata⟩ := h.announced m (List.mem_of_getElem? hk)
      refine ⟨h.announced, hupdate ((h.sound i).received ht he fun a ha => ⟨m.1, ?_⟩)⟩
      rw [hdata] at he
      exact foreignAnnounce_dataset he ha

omit [DecidableEq ι] [IsStrictTotalOrder MasterDataset fun a b => better a b = true] in
/-- **A port that hears a better one is passive.** -/
theorem Inv.hears_passive (h : Inv better domain station net)
    (hid : Function.Injective fun i => (station i).ourDataset.grandmasterIdentity) {i j : ι}
    (hears : net.Hears domain station i j)
    (hb : better (station j).ourDataset (station i).ourDataset = true) :
    (net.ports i).master.role = .Passive := by
  obtain ⟨a, ha, hgm, hf⟩ := hears
  obtain ⟨k, hk⟩ := (h.sound i).earlier a ha
  have hkj : k = j := hid ((congrArg MasterDataset.grandmasterIdentity hk).symm.trans hgm)
  exact (h.sound i).obeyed a ha hf (by rw [hk, hkj]; exact hb)

/-- **Of two ports that hear each other at most one is the master**, and a port that hears a better
one is passive: at any time in any run, whatever is lost, repeated, delayed or reordered. -/
theorem single_master (startTime : ι → ℕ) (ops : List (Op ι))
    (hid : Function.Injective fun i => (station i).ourDataset.grandmasterIdentity)
    (h : Along (step better domain station) Timely (start startTime) ops) :
    Always (step better domain station) (fun net =>
      (∀ i j, net.Hears domain station i j →
        better (station j).ourDataset (station i).ourDataset = true →
          (net.ports i).master.role = .Passive) ∧
      ∀ i j, i ≠ j → net.Hears domain station i j → net.Hears domain station j i →
        ¬ ((net.ports i).master.role = .Master ∧ (net.ports j).master.role = .Master))
      (start startTime) ops := by
  refine Always.imp (P := Inv better domain station) (fun net hinv => ?_)
    (always_of_along (fun _ _ hinv ht => inv_step hinv ht) (inv_start startTime) h)
  refine ⟨fun i j hears hb => hinv.hears_passive hid hears hb, fun i j hij hi hj hmaster => ?_⟩
  rcases trichotomous_of (fun a b => better a b = true) (station i).ourDataset
    (station j).ourDataset with hlt | heq | hgt
  · rw [hinv.hears_passive hid hj hlt] at hmaster
    cases hmaster.2
  · exact hij (hid (congrArg MasterDataset.grandmasterIdentity heq))
  · rw [hinv.hears_passive hid hi hgt] at hmaster
    cases hmaster.1

end StrictOrder

/-! Two ports of different priority. -/

/-- Priority1 is 10 for one of them and 20 for the other, and so is the clock. -/
def pair (first : Bool) : Station where
  port := ⟨if first then 10 else 20, 1⟩
  dataset := ⟨if first then 10 else 20, 248, 0xFE, 0xFFFF, 128, if first then 10 else 20, 0⟩
  logAnnounceInterval := 0
  timeSource := 0xA0
  announcePeriod := 1000000000
  announceReceiptTimeoutMultiplier := 3

/-- Both become masters after the listen window; the first announces itself, and the other hears
it. -/
def meeting : List (Op Bool) :=
  [.evaluateBMCA true 4000000000, .evaluateBMCA false 4000000000, .sendAnnounce true 0,
    .sendAnnounce false 0, .receive false 0 4000000001, .receive true 1 4000000001,
    .evaluateBMCA false 4200000000, .evaluateBMCA true 4200000000]

theorem single_master_pair :
    Always (step standardBetter 0 pair) (fun net =>
      (∀ i j, net.Hears 0 pair i j →
        standardBetter (pair j).ourDataset (pair i).ourDataset = true →
          (net.ports i).master.role = .Passive) ∧
      ∀ i j, i ≠ j → net.Hears 0 pair i j → net.Hears 0 pair j i →
        ¬ ((net.ports i).master.role = .Master ∧ (net.ports j).master.role = .Master))
      (start fun _ => 0) meeting := by
  refine single_master (fun _ => 0) meeting ?_ (by decide +kernel)
  rintro (_ | _) (_ | _) h <;> first | rfl | exact absurd h (by decide)

end Segment

end Aes67.Ptp
