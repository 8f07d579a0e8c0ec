import Mathlib
import Aes67.Ptp.Slave

/-!
# Selecting a master

The slave keeps one record, of the master it has selected. An Announce replaces the record when
there is none or when its dataset is better; one of the selected grandmaster itself that is no
better only refreshes the time of the record, whatever dataset it carries.

* `announceOf`, `note`: a run together with the Announces it has heard, newest first;
* `considerMaster_cases`: the four things an Announce can do;
* `Current`: the record holds the selected grandmaster's latest dataset, and no other grandmaster
  heard since has a better one;
* `Steady`: an Announce of the selected grandmaster that is no better repeats the recorded dataset;
* **`selection_current_iff`**: the record is `Current` throughout a run exactly when every step of
  it is `Steady`; and with unchanging datasets the selection does not depend on their order.
-/

namespace Aes67.Ptp

variable (better : MasterDataset → MasterDataset → Bool) (cfg : SlaveConfig)

/-! ## Announces heard -/

/-- The Announce an event delivers to `handleAnnounce`, where it is long enough. -/
def announceOf : Event → Option AnnounceData
  | .datagram data _ false now =>
    match Slave.admittedHeader cfg data with
    | none => none
    | some header =>
      if header.getMessageType = .Announce ∧ 64 ≤ data.length then
        some (parseAnnounce header data now)
      else none
  | _ => none

/-- The grandmaster an Announce is about. -/
abbrev AnnounceData.gm (a : AnnounceData) : ClockIdentity := a.dataset.grandmasterIdentity

/-- One event, with the Announces heard so far, newest first. -/
def note (p : Slave × List AnnounceData) (e : Event) : Slave × List AnnounceData :=
  (p.1.step better cfg e, (announceOf cfg e).toList ++ p.2)

/-- The most recent Announce of a grandmaster. -/
def latest (g : ClockIdentity) (heard : List AnnounceData) : Option AnnounceData :=
  heard.find? fun a => a.gm = g

/-- The Announces heard since the latest one of a grandmaster. -/
def since (g : ClockIdentity) (heard : List AnnounceData) : List AnnounceData :=
  heard.takeWhile fun a => a.gm ≠ g

/-- The record holds the latest dataset of the selected grandmaster, and no other grandmaster that
has announced since has a better latest dataset. -/
def Current (p : Slave × List AnnounceData) : Prop :=
  p.1.hasMaster = true →
    (latest p.1.grandmasterIdentity p.2).map AnnounceData.dataset =
      some p.1.currentMaster.dataset ∧
    ∀ g ≠ p.1.grandmasterIdentity, ∀ a, latest g p.2 = some a →
      a ∈ since p.1.grandmasterIdentity p.2 →
      better a.dataset p.1.currentMaster.dataset = false

/-- An Announce of the selected grandmaster that is no better than the record repeats it. -/
def Steady (p : Slave × List AnnounceData) (e : Event) : Prop :=
  ∀ a, announceOf cfg e = some a → p.1.hasMaster = true → a.gm = p.1.grandmasterIdentity →
    better a.dataset p.1.currentMaster.dataset = false → a.dataset = p.1.currentMaster.dataset

/-! ## What a step does to the record -/

/-- The master record of the slave. -/
def Slave.master (s : Slave) : Bool × AnnounceData × ClockIdentity :=
  (s.hasMaster, s.currentMaster, s.grandmasterIdentity)

variable {better cfg} {s : Slave} {e : Event}

theorem Slave.SameInputs.master {s s' : Slave} (h : s.SameInputs s') : s'.master = s.master := by
  obtain ⟨_, _, _, _, _, _, rfl⟩ := h
  rfl

/-- **No message but an Announce touches the master record.** -/
theorem master_of_datagram {data : Datagram} {receiveTimeNs now : ℕ} {onEventSocket : Bool}
    (h : announceOf cfg (.datagram data receiveTimeNs onEventSocket now) = none) :
    (s.dispatchMessage better cfg data receiveTimeNs onEventSocket now).master = s.master := by
  have frame : ∀ s : Slave, s.calculateOffsetAndDelay.master = s.master := fun s =>
    (Slave.calculateOffsetAndDelay_frame s).master
  have complete : ∀ (s : Slave) (x : ℤ), (s.completePdelay x).master = s.master := fun s x => by
    unfold Slave.completePdelay
    split
    · rfl
    · exact (Slave.storeFilteredPathDelay_frame s _).master
  unfold Slave.dispatchMessage
  split
  · rfl
  · next header hh =>
    split
    · unfold Slave.handleSync Slave.recordSync
      split_ifs <;> first | rfl | (rw [frame]; rfl)
    · unfold Slave.handlePdelayResp
      split_ifs <;> first | rfl | (rw [complete]; rfl)
    · unfold Slave.handleFollowUp
      split_ifs <;> first | rfl | (rw [frame]; rfl)
    · next hty =>
      simp only [announceOf, hh, hty, true_and, ite_eq_right_iff, reduceCtorEq, imp_false,
        not_le] at h
      rw [Slave.handleAnnounce, if_pos h]
    · unfold Slave.handlePdelayRespFollowUp
      split_ifs <;> first | rfl | (rw [complete]; rfl)
    · unfold Slave.handleDelayResp
      split_ifs <;> first | rfl | (rw [frame]; rfl)
    · rfl

variable (better s) in
theorem master_of_no_announce (h : announceOf cfg e = none) :
    (s.step better cfg e).master = s.master ∨ (s.step better cfg e).hasMaster = false := by
  rcases e with ⟨data, receiveTimeNs, onEventSocket, now⟩ | ⟨sendTimeNs, sent⟩ | now
  · exact Or.inl (master_of_datagram h)
  · left
    simp only [Slave.step, Slave.request, Slave.sendPdelayReq, Slave.sendDelayReq]
    split <;> split_ifs <;> rfl
  · simp only [Slave.step, Slave.checkAnnounceTimeout]
    split_ifs
    · exact Or.inr rfl
    · exact Or.inl rfl

theorem considerMaster_master (a : AnnounceData) : (s.considerMaster better a).master =
    if (!s.hasMaster || better a.dataset s.currentMaster.dataset) = true then (true, a, a.gm)
    else if a.gm = s.grandmasterIdentity then
      (true, { s.currentMaster with lastReceived := a.lastReceived }, s.grandmasterIdentity)
    else s.master := by
  unfold Slave.considerMaster
  cases hm : s.hasMaster <;> cases hb : better a.dataset s.currentMaster.dataset <;>
    simp [Slave.master, Slave.select]
  split_ifs <;> simp [hm]

variable (better s) in
/-- **What an Announce does to the master record.** -/
theorem master_of_announce {a : AnnounceData} (h : announceOf cfg e = some a) :
    (s.step better cfg e).master =
      if (!s.hasMaster || better a.dataset s.currentMaster.dataset) = true then (true, a, a.gm)
      else if a.gm = s.grandmasterIdentity then
        (true, { s.currentMaster with lastReceived := a.lastReceived }, s.grandmasterIdentity)
      else s.master := by
  rcases e with ⟨data, receiveTimeNs, onEventSocket, now⟩ | _ | _
  case request => cases h
  case checkAnnounceTimeout => cases h
  cases onEventSocket with
  | true => cases h
  | false =>
    simp only [announceOf] at h
    cases hh : Slave.admittedHeader cfg data with
    | none => simp [hh] at h
    | some header =>
      simp only [hh, Option.ite_none_right_eq_some, Option.some.injEq] at h
      obtain ⟨⟨hty, hl⟩, rfl⟩ := h
      have interval : (s.followInterval cfg header.logMessageInterval).master = s.master := by
        simp only [Slave.followInterval]
        split_ifs <;> rfl
      simp only [Slave.master, Prod.mk.injEq] at interval
      obtain ⟨h1, h2, h3⟩ := interval
      simp only [Slave.step, Slave.dispatchMessage, hh, hty, Slave.handleAnnounce,
        if_neg (not_lt.mpr hl)]
      rw [considerMaster_master, h1, h2, h3]
      simp only [Slave.master, h1, h2, h3]

/-! ## One step -/

theorem latest_cons (g : ClockIdentity) (a : AnnounceData) (heard : List AnnounceData) :
    latest g (a :: heard) = if a.gm = g then some a else latest g heard := by
  unfold latest
  rw [List.find?_cons]
  split_ifs with h <;> simp [h]

theorem since_cons (g : ClockIdentity) (a : AnnounceData) (heard : List AnnounceData) :
    since g (a :: heard) = if a.gm = g then [] else a :: since g heard := by
  unfold since
  rw [List.takeWhile_cons]
  split_ifs with h <;> simp_all

theorem gm_of_latest {g : ClockIdentity} {a : AnnounceData} {heard : List AnnounceData}
    (h : latest g heard = some a) : a.gm = g := by
  simpa using List.find?_some h

theorem current_congr {p p' : Slave × List AnnounceData} (hs : p'.1.master = p.1.master)
    (hh : p'.2 = p.2) : Current better p' ↔ Current better p := by
  simp only [Slave.master, Prod.mk.injEq] at hs
  rw [Current, Current, hs.1, hs.2.1, hs.2.2, hh]

/-- An Announce just selected is current. -/
theorem current_of_selected {p : Slave × List AnnounceData} {a : AnnounceData}
    {heard : List AnnounceData} (hs : p.1.master = (true, a, a.gm)) (hh : p.2 = a :: heard) :
    Current better p := by
  simp only [Slave.master, Prod.mk.injEq] at hs
  intro _
  rw [hs.2.1, hs.2.2, hh, latest_cons, since_cons, if_pos rfl, if_pos rfl]
  exact ⟨rfl, by simp⟩

/-- **One step keeps the record current exactly when it is steady.** -/
theorem current_note_iff {p : Slave × List AnnounceData} (hp : Current better p) (e : Event) :
    Current better (note better cfg p e) ↔ Steady better cfg p e := by
  cases ha : announceOf cfg e with
  | none =>
    refine iff_of_true ?_ fun a h => by rw [ha] at h; cases h
    rcases master_of_no_announce better p.1 ha with h | h
    · refine (current_congr h ?_).mpr hp
      simp [note, ha]
    · intro hm
      rw [note, h] at hm
      cases hm
  | some a =>
    have hm := master_of_announce better p.1 ha
    have hh : (note better cfg p e).2 = a :: p.2 := by simp [note, ha]
    split_ifs at hm with h1 h2
    · refine iff_of_true (current_of_selected hm hh) fun b hb hmaster _ hbetter => ?_
      rw [ha, Option.some.injEq] at hb
      subst hb
      simp [hmaster, hbetter] at h1
    · -- The selected grandmaster again, no better: only the time is refreshed.
      simp only [Bool.or_eq_true, Bool.not_eq_true', not_or, Bool.not_eq_false,
        Bool.not_eq_true] at h1
      simp only [Slave.master, Prod.mk.injEq] at hm
      have key : Current better (note better cfg p e) ↔
          a.dataset = p.1.currentMaster.dataset := by
        rw [Current, hh, note]
        rw [hm.1, hm.2.1, hm.2.2, latest_cons, since_cons, if_pos h2, if_pos h2]
        simp
      rw [key]
      refine ⟨fun h b hb _ _ _ => ?_, fun h => h a ha h1.1 h2 h1.2⟩
      rw [ha, Option.some.injEq] at hb
      rw [← hb, h]
    · simp only [Bool.or_eq_true, Bool.not_eq_true', not_or, Bool.not_eq_false,
        Bool.not_eq_true] at h1
      simp only [Slave.master, Prod.mk.injEq] at hm
      refine iff_of_true ?_ fun b hb _ hg => ?_
      · intro _
        rw [hh, note]
        rw [hm.2.1, hm.2.2, latest_cons, since_cons, if_neg h2, if_neg h2]
        refine ⟨(hp h1.1).1, fun g hg b hb hmem => ?_⟩
        rw [latest_cons] at hb
        split_ifs at hb with hga
        · cases hb
          exact h1.2
        · rcases List.mem_cons.mp hmem with rfl | hmem
          · exact absurd (gm_of_latest hb) hga
          · exact (hp h1.1).2 g hg b hb hmem
      · rw [ha, Option.some.injEq] at hb
        exact absurd (hb ▸ hg) h2

/-! ## Unchanging datasets -/

/-- The selected record is of a grandmaster heard, with its dataset, and no dataset heard is
better. -/
def Best (better : MasterDataset → MasterDataset → Bool) (f : ClockIdentity → MasterDataset)
    (p : Slave × List AnnounceData) : Prop :=
  (p.1.hasMaster = true ↔ p.2 ≠ []) ∧
  (p.1.hasMaster = true → (∃ a ∈ p.2, a.gm = p.1.grandmasterIdentity) ∧
    p.1.currentMaster.dataset = f p.1.grandmasterIdentity ∧
    ∀ a ∈ p.2, better (f a.gm) p.1.currentMaster.dataset = false)

/-- No timeout check of the run finds its master lost. -/
def NeverLost (better : MasterDataset → MasterDataset → Bool) (cfg : SlaveConfig)
    (events : List Event) : Prop :=
  Along (note better cfg) (fun p e => p.1.hasMaster = true →
    (note better cfg p e).1.hasMaster = true) ({}, []) events

section StrictTotal

variable [IsStrictTotalOrder MasterDataset fun a b => better a b = true]

theorem best_note {f : ClockIdentity → MasterDataset} {p : Slave × List AnnounceData}
    (hp : Best better f p) (hl : p.1.hasMaster = true → (note better cfg p e).1.hasMaster = true)
    (hf : ∀ a, announceOf cfg e = some a → a.dataset = f a.gm) :
    Best better f (note better cfg p e) := by
  cases ha : announceOf cfg e with
  | none =>
    have hh : (note better cfg p e).2 = p.2 := by simp [note, ha]
    rcases master_of_no_announce better p.1 ha with h | h
    · simp only [Slave.master, Prod.mk.injEq] at h
      unfold Best
      rw [hh]
      simp only [note, h]
      exact hp
    · have hm : p.1.hasMaster = false := by
        by_contra hm
        have := hl (by simpa using hm)
        rw [note, h] at this
        cases this
      have hnil : p.2 = [] := by
        by_contra hne
        rw [hp.1.mpr hne] at hm
        cases hm
      simp [Best, note, h, ha, hnil]
  | some a =>
    have hm := master_of_announce better p.1 ha
    have hh : (note better cfg p e).2 = a :: p.2 := by simp [note, ha]
    have hd := hf a ha
    unfold Best
    rw [hh]
    split_ifs at hm with h1 h2
    · simp only [Slave.master, Prod.mk.injEq] at hm
      simp only [note, hm]
      refine ⟨by simp, fun _ => ⟨⟨a, by simp, rfl⟩, hd, fun b hb => ?_⟩⟩
      rcases List.mem_cons.mp hb with rfl | hb
      · rw [← hd]
        exact eq_false_of_ne_true (irrefl (r := fun a b => better a b = true) _)
      · -- Nothing heard before is better than the old record, which the new one beats.
        have hmaster := hp.1.mpr (List.ne_nil_of_mem hb)
        have hb' := (hp.2 hmaster).2.2 b hb
        have hbetter : better a.dataset p.1.currentMaster.dataset = true := by
          simpa [hmaster] using h1
        by_contra hne
        have := IsTrans.trans (r := fun a b => better a b = true) _ _ _ (eq_true_of_ne_false hne)
          hbetter
        rw [hb'] at this
        cases this
    · simp only [Bool.or_eq_true, Bool.not_eq_true', not_or, Bool.not_eq_false,
        Bool.not_eq_true] at h1
      simp only [Slave.master, Prod.mk.injEq] at hm
      simp only [note, hm]
      refine ⟨by simp, fun _ => ⟨⟨a, by simp, h2⟩, (hp.2 h1.1).2.1, fun b hb => ?_⟩⟩
      rcases List.mem_cons.mp hb with rfl | hb
      · rw [← hd]; exact h1.2
      · exact (hp.2 h1.1).2.2 b hb
    · simp only [Bool.or_eq_true, Bool.not_eq_true', not_or, Bool.not_eq_false,
        Bool.not_eq_true] at h1
      simp only [Slave.master, Prod.mk.injEq] at hm
      simp only [note, hm]
      obtain ⟨⟨b, hb, hbg⟩, hcur, hbest⟩ := hp.2 h1.1
      refine ⟨by simp [h1.1], fun _ => ⟨⟨b, by simp [hb], hbg⟩, hcur, fun c hc => ?_⟩⟩
      rcases List.mem_cons.mp hc with rfl | hc
      · rw [← hd]; exact h1.2
      · exact hbest c hc

/-- Every Announce of the run carries the dataset `f` gives its grandmaster. -/
def Unchanging (cfg : SlaveConfig) (f : ClockIdentity → MasterDataset) (events : List Event) :
    Prop :=
  ∀ e ∈ events, ∀ a, announceOf cfg e = some a → a.dataset = f a.gm

/-- A grandmaster announced in the run. -/
def Announced (cfg : SlaveConfig) (events : List Event) (g : ClockIdentity) : Prop :=
  ∃ e ∈ events, ∃ a, announceOf cfg e = some a ∧ a.gm = g

/-- The selected grandmaster and its recorded dataset. -/
def Slave.selection (s : Slave) : Option (ClockIdentity × MasterDataset) :=
  if s.hasMaster then some (s.grandmasterIdentity, s.currentMaster.dataset) else none

/-- The run from a slave that has heard nothing. -/
def noted (better : MasterDataset → MasterDataset → Bool) (cfg : SlaveConfig)
    (events : List Event) : Slave × List AnnounceData :=
  events.foldl (note better cfg) ({}, [])

theorem best_noted {f : ClockIdentity → MasterDataset} {events : List Event}
    (hf : Unchanging cfg f events) (hl : NeverLost better cfg events) :
    Best better f (noted better cfg events) := by
  have h0 : Best better f (({}, []) : Slave × List AnnounceData) := by simp [Best]
  unfold NeverLost at hl
  unfold noted
  generalize (({}, []) : Slave × List AnnounceData) = p at h0 hl ⊢
  induction events generalizing p with
  | nil => exact h0
  | cons e events ih =>
    exact ih (fun e' he => hf e' (List.mem_cons_of_mem _ he)) _
      (best_note h0 hl.1 (hf e List.mem_cons_self)) hl.2

omit [IsStrictTotalOrder MasterDataset fun a b => better a b = true] in
theorem mem_noted {events : List Event} {a : AnnounceData} :
    a ∈ (noted better cfg events).2 ↔ ∃ e ∈ events, announceOf cfg e = some a := by
  have gen : ∀ p : Slave × List AnnounceData, a ∈ (events.foldl (note better cfg) p).2 ↔
      (∃ e ∈ events, announceOf cfg e = some a) ∨ a ∈ p.2 := by
    induction events with
    | nil => simp
    | cons e events ih =>
      intro p
      rw [List.foldl_cons, ih]
      simp only [note, List.mem_append, Option.mem_toList, List.mem_cons, exists_eq_or_imp]
      rw [← or_assoc, or_comm (a := ∃ e ∈ events, announceOf cfg e = some a)]
  simpa [noted] using gen ({}, [])

/-- **With unchanging datasets and no master lost, the selection is the same in whatever order the
same grandmasters have announced.** -/
theorem selection_of_unchanging {f : ClockIdentity → MasterDataset} {events events' : List Event}
    (hf : Unchanging cfg f events) (hf' : Unchanging cfg f events')
    (hl : NeverLost better cfg events) (hl' : NeverLost better cfg events')
    (hg : ∀ g, Announced cfg events g ↔ Announced cfg events' g) :
    (noted better cfg events).1.selection = (noted better cfg events').1.selection := by
  obtain ⟨hm, hb⟩ := best_noted hf hl
  obtain ⟨hm', hb'⟩ := best_noted hf' hl'
  have heard : ∀ {events events' : List Event}, (∀ g, Announced cfg events g ↔
      Announced cfg events' g) → ∀ a ∈ (noted better cfg events).2,
        ∃ b ∈ (noted better cfg events').2, b.gm = a.gm := by
    intro events events' hg a ha
    obtain ⟨e, he, ha⟩ := mem_noted.mp ha
    obtain ⟨e', he', b, hb, hba⟩ := (hg a.gm).mp ⟨e, he, a, ha, rfl⟩
    exact ⟨b, mem_noted.mpr ⟨e', he', hb⟩, hba⟩
  unfold Slave.selection
  by_cases h : (noted better cfg events).1.hasMaster = true
  · obtain ⟨⟨a, ha, hag⟩, hd, hbest⟩ := hb h
    obtain ⟨b, hb1, hb2⟩ := heard hg a ha
    have h' := hm'.mpr (List.ne_nil_of_mem hb1)
    obtain ⟨⟨a', ha', hag'⟩, hd', hbest'⟩ := hb' h'
    obtain ⟨b', hb1', hb2'⟩ := heard (fun g => (hg g).symm) a' ha'
    have n1 := hbest b' hb1'
    have n2 := hbest' b hb1
    rw [hb2', hag', ← hd'] at n1
    rw [hb2, hag, ← hd] at n2
    -- Neither record is better than the other, so they are equal, grandmaster included.
    have eq : (noted better cfg events).1.currentMaster.dataset =
        (noted better cfg events').1.currentMaster.dataset := by
      rcases trichotomous_of (fun a b => better a b = true)
        (noted better cfg events).1.currentMaster.dataset
        (noted better cfg events').1.currentMaster.dataset with h | h | h
      · rw [n2] at h; cases h
      · exact h
      · rw [n1] at h; cases h
    have gmOf : ∀ {events : List Event} {a : AnnounceData}, Unchanging cfg f events →
        a ∈ (noted better cfg events).2 → (f a.gm).grandmasterIdentity = a.gm := by
      intro events a hf ha
      obtain ⟨e, he, ha⟩ := mem_noted.mp ha
      rw [← hf e he a ha]
    have g1 := gmOf hf ha
    have g2 := gmOf hf' ha'
    rw [hag, ← hd] at g1
    rw [hag', ← hd'] at g2
    rw [if_pos h, if_pos h', eq, ← g1, ← g2, eq]
  · have h' : ¬ (noted better cfg events').1.hasMaster = true := fun h' => by
      obtain ⟨⟨a, ha, -⟩, -⟩ := hb' h'
      obtain ⟨b, hb, -⟩ := heard (fun g => (hg g).symm) a ha
      exact h (hm.mpr (List.ne_nil_of_mem hb))
    rw [if_neg h, if_neg h']

/-! ## Whole runs -/

/-- **The record is current throughout a run exactly when every step of it is steady; and where
every grandmaster keeps announcing an unchanging dataset, the selection after all have announced
does not depend on the order of arrival.** -/
theorem selection_current_iff (events : List Event) :
    (Always (note better cfg) (Current better) ({}, []) events ↔
      Along (note better cfg) (Steady better cfg) ({}, []) events) ∧
    ∀ (events' : List Event) (f : ClockIdentity → MasterDataset),
      Unchanging cfg f events → Unchanging cfg f events' → NeverLost better cfg events →
      NeverLost better cfg events' → (∀ g, Announced cfg events g ↔ Announced cfg events' g) →
      (noted better cfg events).1.selection = (noted better cfg events').1.selection :=
  ⟨always_iff_along (fun _ e hp => current_note_iff hp e) (fun h => by cases h),
    fun _ _ => selection_of_unchanging⟩

end StrictTotal

/-- A comparison in the standard's order: priority1, class, accuracy, variance, priority2, the
grandmaster's identity, and then the steps and the port it is heard through. -/
def datasetKey (d : MasterDataset) : List ℕ :=
  [d.priority1, d.clockClass, d.clockAccuracy, d.offsetScaledLogVariance, d.priority2,
    d.grandmasterIdentity, d.stepsRemoved, d.portIdentity.clockIdentity, d.portIdentity.portNumber]

theorem datasetKey_injective : Function.Injective datasetKey := by
  rintro ⟨_, _, _, _, _, _, _, ⟨_, _⟩⟩ ⟨_, _, _, _, _, _, _, ⟨_, _⟩⟩ h
  simpa [datasetKey, and_assoc] using h

/-- The dataset that comes first in that order is the better one. -/
def standardBetter (a b : MasterDataset) : Bool := datasetKey a < datasetKey b

instance : IsStrictTotalOrder MasterDataset fun a b => standardBetter a b = true where
  trichotomous a b h1 h2 := by
    simp only [standardBetter, decide_eq_true_eq, not_lt] at h1 h2
    exact datasetKey_injective (le_antisymm h2 h1)
  irrefl a := by simp [standardBetter]
  trans a b c h1 h2 := by
    simp only [standardBetter, decide_eq_true_eq] at *
    exact h1.trans h2

/-- An Announce of a clock, with its priority1. -/
def announceOn (clock priority1 : UInt8) : Event :=
  .datagram ([0x0B, 2, 0, 0, 0, 0, 0, 0] ++ List.replicate 19 0 ++ [clock, 0, 1, 0, 0, 0, 0] ++
    List.replicate 13 0 ++ [priority1] ++ List.replicate 12 0 ++ [clock] ++ List.replicate 3 0)
    0 false 0

/-- Clock 9 announces priority 10, then clock 5 priority 100. -/
theorem selection_current_of_two :
    Always (note standardBetter {}) (Current standardBetter) ({}, [])
      [announceOn 9 10, announceOn 5 100] := by
  refine (selection_current_iff _).1.mpr ⟨fun a _ h => (by cases h), fun a ha _ hg => ?_, trivial⟩
  cases ha
  exact absurd hg (by decide)

/-- Clock 9 announces priority 10 and degrades to 200; its old dataset stays on record, and clock 5
with priority 100 is not selected. -/
theorem selection_keeps_degraded :
    ¬ Always (note standardBetter {}) (Current standardBetter) ({}, [])
      [announceOn 9 10, announceOn 9 200, announceOn 5 100] := by
  intro h
  exact absurd (h.run rfl).1 (by decide)

end Aes67.Ptp
