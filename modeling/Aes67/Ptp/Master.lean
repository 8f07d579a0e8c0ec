import Aes67.Ptp.Select

/-!
# The PTP master and its competitors

The model of the best master part of `PTPMaster`. One record stands for all foreign clocks: the
best dataset heard, kept while any foreign Announce at all has been heard within the timeout.

* `Master.evaluateBMCA`, `Master.handleForeignAnnounce`;
* `MasterEvent`, `Master.note`: a run together with the foreign Announces it has taken;
* `Justified`: where a tick leaves the port passive, some foreign clock has announced a dataset
  better than ours within the timeout, and it is its latest;
* `Supported`: the record's clock still stands behind it, or the Announce that set its stamp is
  better than ours itself;
* **`passive_justified`**: in a run of supported ticks passivity is always justified.
-/

namespace Aes67.Ptp

/-! ## The model -/

/-- `PTPMasterRole`. -/
inductive MasterRole
  | Listening | Master | Passive
  deriving DecidableEq

/-- The settings the best master logic reads, with the port's own clock identity. Periods are in
nanoseconds. -/
structure MasterConfig where
  domain : ℤ := 0
  announcePeriod : ℕ := 1000000000
  announceReceiptTimeoutMultiplier : ℤ := 3
  grandmasterIdentity : ClockIdentity := 0
  clockClassSlaveOnly : ℕ := 255

/-- The silence after which a foreign clock no longer counts. -/
def MasterConfig.timeout (cfg : MasterConfig) : ℤ :=
  cfg.announcePeriod * cfg.announceReceiptTimeoutMultiplier

/-- `PTPMaster`, the state the best master logic keeps. -/
structure Master where
  competitor : Option AnnounceData := none
  competitorLastSeen : ℕ := 0
  role : MasterRole := .Listening
  startTime : ℕ := 0

variable (better : MasterDataset → MasterDataset → Bool) (cfg : MasterConfig)

namespace Master

variable (m : Master)

/-- Drop the competitor that has gone quiet. -/
def expire (now : ℕ) : Master :=
  if m.competitor.isSome ∧ ((now - m.competitorLastSeen : ℕ) : ℤ) > cfg.timeout then
    { m with competitor := none }
  else m

/-- `evaluateBMCA` at steady time `now`, with our own dataset as it is then. -/
def evaluateBMCA (now : ℕ) (ours : MasterDataset) : Master :=
  if ours.clockClass = cfg.clockClassSlaveOnly then { m with role := .Passive }
  else
    let m := m.expire cfg now
    match m.competitor with
    | none =>
      if m.role = .Listening ∧ ((now - m.startTime : ℕ) : ℤ) < cfg.timeout then m
      else { m with role := .Master }
    | some competitor =>
      { m with role := if better competitor.dataset ours then .Passive else .Master }

/-- The foreign Announce of a datagram; nothing for another domain, a short one, or our own. -/
def foreignAnnounce (header : Header) (data : Datagram) (now : ℕ) : Option AnnounceData :=
  if (header.domainNumber : ℤ) ≠ cfg.domain % 256 then none
  else if data.length < 64 then none
  else
    let announce := parseAnnounce header data now
    if announce.gm = cfg.grandmasterIdentity then none else some announce

/-- `handleForeignAnnounce`: the best dataset is kept, and any Announce renews its stamp. -/
def handleForeignAnnounce (header : Header) (data : Datagram) (now : ℕ) : Master :=
  match foreignAnnounce cfg header data now with
  | none => m
  | some announce =>
    let competitor :=
      match m.competitor with
      | none => announce
      | some c => if better announce.dataset c.dataset then announce else c
    { m with competitor := some competitor, competitorLastSeen := announce.lastReceived }

end Master

/-! ## Runs -/

/-- An Announce arrives, or the transmit thread evaluates the best master. -/
inductive MasterEvent
  | announce (header : Header) (data : Datagram) (now : ℕ)
  | evaluateBMCA (now : ℕ) (ours : MasterDataset)

namespace Master

/-- The master after one event. -/
def step (m : Master) : MasterEvent → Master
  | .announce header data now => m.handleForeignAnnounce better cfg header data now
  | .evaluateBMCA now ours => m.evaluateBMCA better cfg now ours

/-- The foreign Announce an event delivers. -/
def heardIn : MasterEvent → Option AnnounceData
  | .announce header data now => foreignAnnounce cfg header data now
  | .evaluateBMCA _ _ => none

/-- One event, with the foreign Announces heard so far, newest first. -/
def note (p : Master × List AnnounceData) (e : MasterEvent) : Master × List AnnounceData :=
  (p.1.step better cfg e, (heardIn cfg e).toList ++ p.2)

/-- A tick that leaves the port passive has a better foreign clock to show for it: one whose most
recent Announce was received within the timeout and carries a dataset better than ours. -/
def Justified (p : Master × List AnnounceData) : MasterEvent → Prop
  | .announce _ _ _ => True
  | .evaluateBMCA now ours => ours.clockClass ≠ cfg.clockClassSlaveOnly →
      (p.1.evaluateBMCA better cfg now ours).role = .Passive →
      ∃ g a, latest g p.2 = some a ∧ ((now - a.lastReceived : ℕ) : ℤ) ≤ cfg.timeout ∧
        better a.dataset ours = true

/-- Where a tick finds an unexpired record better than ours, either the record's own clock has
announced it within the timeout and has announced nothing else since, or the Announce heard last,
whose stamp keeps the record alive, is better than ours as well. -/
def Supported (p : Master × List AnnounceData) : MasterEvent → Prop
  | .announce _ _ _ => True
  | .evaluateBMCA now ours => ∀ c, p.1.competitor = some c →
      ((now - p.1.competitorLastSeen : ℕ) : ℤ) ≤ cfg.timeout → better c.dataset ours = true →
      (∃ a, latest c.gm p.2 = some a ∧ a.dataset = c.dataset ∧
        ((now - a.lastReceived : ℕ) : ℤ) ≤ cfg.timeout) ∨
      ∃ a, p.2.head? = some a ∧ better a.dataset ours = true

/-- The stamp of the record is the arrival of the Announce heard last. -/
def Stamped (p : Master × List AnnounceData) : Prop :=
  p.1.competitor.isSome = true →
    ∃ a heard, p.2 = a :: heard ∧ p.1.competitorLastSeen = a.lastReceived

variable {better cfg} {m : Master} {now : ℕ} {ours : MasterDataset}

/-- **A tick ends passive only on an unexpired record better than ours.** -/
theorem passive_cases (hc : ours.clockClass ≠ cfg.clockClassSlaveOnly)
    (h : (m.evaluateBMCA better cfg now ours).role = .Passive) :
    ∃ c, m.competitor = some c ∧ ((now - m.competitorLastSeen : ℕ) : ℤ) ≤ cfg.timeout ∧
      better c.dataset ours = true := by
  rw [evaluateBMCA, if_neg hc] at h
  unfold expire at h
  split_ifs at h with hx
  · simp only at h
    split_ifs at h with hl
    rw [hl.1] at h
    cases h
  · cases hm : m.competitor with
    | none =>
      simp only [hm] at h
      split_ifs at h with hl
      rw [hl.1] at h
      cases h
    | some c =>
      simp only [hm] at h
      split_ifs at h with hb
      simp only [hm, Option.isSome_some, true_and, not_lt] at hx
      exact ⟨c, rfl, hx, hb⟩

variable (better cfg) in
/-- A tick drops the record or keeps it, and never touches its stamp. -/
theorem evaluateBMCA_record (m : Master) (now : ℕ) (ours : MasterDataset) :
    ((m.evaluateBMCA better cfg now ours).competitor = m.competitor ∨
      (m.evaluateBMCA better cfg now ours).competitor = none) ∧
    (m.evaluateBMCA better cfg now ours).competitorLastSeen = m.competitorLastSeen := by
  have expired : m.expire cfg now = m ∨ m.expire cfg now = { m with competitor := none } := by
    unfold expire
    split_ifs
    · exact Or.inr rfl
    · exact Or.inl rfl
  unfold evaluateBMCA
  split_ifs
  · exact ⟨Or.inl rfl, rfl⟩
  · rcases expired with h | h
    · simp only [h]
      split
      · split_ifs <;> exact ⟨Or.inl rfl, rfl⟩
      · exact ⟨Or.inl rfl, rfl⟩
    · simp only [h]
      split_ifs <;> exact ⟨Or.inr rfl, rfl⟩

theorem stamped_note {p : Master × List AnnounceData} (hp : Stamped p) (e : MasterEvent) :
    Stamped (note better cfg p e) := by
  cases e with
  | announce header data now =>
    simp only [note, step, heardIn, handleForeignAnnounce]
    cases hf : foreignAnnounce cfg header data now with
    | none => simpa using hp
    | some a => exact fun _ => ⟨a, p.2, by simp, rfl⟩
  | evaluateBMCA now ours =>
    obtain ⟨hc, hst⟩ := evaluateBMCA_record better cfg p.1 now ours
    intro h
    have hsome : p.1.competitor.isSome = true := by
      rcases hc with hc | hc
      · exact hc ▸ h
      · rw [note, step, hc] at h; cases h
    obtain ⟨a, heard, h1, h2⟩ := hp hsome
    exact ⟨a, heard, by simpa [note, heardIn] using h1, hst.trans h2⟩

theorem justified_of_supported {p : Master × List AnnounceData} (hp : Stamped p) {e : MasterEvent}
    (hs : Supported better cfg p e) : Justified better cfg p e := by
  cases e with
  | announce header data now => trivial
  | evaluateBMCA now ours =>
    intro hc hr
    obtain ⟨c, hm, hfresh, hb⟩ := passive_cases hc hr
    rcases hs c hm hfresh hb with ⟨a, ha, hd, ht⟩ | ⟨a, ha, hba⟩
    · exact ⟨c.gm, a, ha, ht, by rwa [hd]⟩
    · obtain ⟨a', heard, hh, hst⟩ := hp (by rw [hm]; rfl)
      rw [hh, List.head?_cons, Option.some.injEq] at ha
      subst ha
      refine ⟨a'.gm, a', ?_, by rwa [← hst], hba⟩
      rw [hh, latest_cons, if_pos rfl]

/-- **In a run whose ticks are all supported, every tick that leaves the port passive is
justified.** -/
theorem passive_justified (m : Master) (h0 : m.competitor = none) (events : List MasterEvent)
    (h : Along (note better cfg) (Supported better cfg) (m, []) events) :
    Along (note better cfg) (Justified better cfg) (m, []) events :=
  along_of_along (P := Stamped)
    (fun _ e _ hp hs => ⟨stamped_note hp e, justified_of_supported hp hs⟩)
    (fun hs => by simp [h0] at hs) h

/-- An Announce of a clock, with its priority1, received at `now` seconds. -/
def announceAt (clock priority1 : UInt8) (now : ℕ) : MasterEvent :=
  .announce {} (List.replicate 47 0 ++ [priority1] ++ List.replicate 12 0 ++ [clock] ++
    List.replicate 3 0) (now * 1000000000)

/-- A tick at `now` seconds, with our priority1 at 128. -/
def tickAt (now : ℕ) : MasterEvent :=
  .evaluateBMCA (now * 1000000000) { priority1 := 128, clockClass := 248 }

/-- The better clock 9 announces, and the tick two seconds later leaves the port passive. -/
theorem passive_justified_by_announcer :
    Along (note standardBetter {}) (Justified standardBetter {}) ({}, [])
      [announceAt 9 10 0, tickAt 2] ∧
    ([announceAt 9 10 0, tickAt 2].foldl (step standardBetter {}) {}).role = .Passive := by
  refine ⟨passive_justified {} rfl _ ⟨trivial, fun c hc _ _ => Or.inr ?_, trivial⟩, by decide⟩
  exact ⟨_, rfl, by decide⟩

/-- The better clock 9 announces once and goes quiet; the worse clock 5 keeps announcing, and ten
seconds later the port is passive with no better clock alive. -/
theorem passive_by_worse_announcer :
    ¬ Along (note standardBetter {}) (Justified standardBetter {}) ({}, [])
      [announceAt 9 10 0, announceAt 5 200 2, announceAt 5 200 4, announceAt 5 200 6,
       announceAt 5 200 8, tickAt 10] := by
  rintro ⟨-, -, -, -, -, h, -⟩
  obtain ⟨g, a, ha, ht, hb⟩ := h (by decide) (by decide)
  have none_better : ∀ a ∈ ([announceAt 9 10 0, announceAt 5 200 2, announceAt 5 200 4,
      announceAt 5 200 6, announceAt 5 200 8].foldl (note standardBetter {}) ({}, [])).2,
      ¬ (((10 * 1000000000 - a.lastReceived : ℕ) : ℤ) ≤ ({} : MasterConfig).timeout ∧
        standardBetter a.dataset { priority1 := 128, clockClass := 248 } = true) := by decide
  exact none_better a (List.mem_of_find?_eq_some ha) ⟨ht, hb⟩

end Master

end Aes67.Ptp
