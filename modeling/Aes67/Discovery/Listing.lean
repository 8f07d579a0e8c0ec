import Aes67.Lib.Run
import Aes67.Discovery.SessionDirectory

/-!
# What the directory lists

The directory is to list each session as it was offered last. A sighting refreshes the entry that is
there field by field, and a field with its default value refreshes nothing: a session that leaves its
PTP domain for domain 0 is listed in the one it left. An entry that has gone quiet is there until the
next reading, and a session that comes back by then is merged with it.

* `History`: the directory with what was offered of each identity, and when; `Event`, `step`;
* `Reflects`: a reading lists the sessions offered and not forgotten, as they were described last;
* `Timely`, `Restates`: what an offer has to be for that; `Inv.step`;
* `sessions_run`: readings in between change no later reading;
* **`along_reflects`**.
-/

namespace Aes67

namespace DiscoveredSessionEntry

/-- The identity an entry is offered under. -/
def offeredAs (entry : DiscoveredSessionEntry) : Text :=
  if entry.identity = [] then
    identityOf entry.sessionDescription entry.multicastAddress entry.port
  else entry.identity

/-- The entry is no older than the timeout. -/
def live (now : ℤ) (entry : DiscoveredSessionEntry) : Bool :=
  !decide (now - entry.lastSeen > kSessionTimeout)

theorem live_iff {now : ℤ} {entry : DiscoveredSessionEntry} :
    entry.live now = true ↔ now - entry.lastSeen ≤ kSessionTimeout := by
  simp [live]

variable {identity : Text} {entry e : DiscoveredSessionEntry} {now : ℤ}
  {entries : List DiscoveredSessionEntry}

/-- What there is after a sighting. -/
theorem mem_offerTo (hd : (entries.map DiscoveredSessionEntry.identity).Nodup)
    (h : e ∈ offerTo identity entry now entries) :
    (e ∈ entries ∧ e.identity ≠ identity) ∨
    (∃ existing ∈ entries, existing.identity = identity ∧ e = existing.refresh entry now) ∨
    ((∀ existing ∈ entries, existing.identity ≠ identity) ∧
      e = { entry with identity := identity, lastSeen := now }) := by
  induction entries with
  | nil => exact .inr (.inr ⟨fun _ he => (List.not_mem_nil he).elim, List.mem_singleton.mp h⟩)
  | cons a entries ih =>
    rw [List.map_cons, List.nodup_cons] at hd
    rw [offerTo] at h
    split_ifs at h with ha
    · rcases List.mem_cons.mp h with rfl | h
      · exact .inr (.inl ⟨a, List.mem_cons_self, ha, rfl⟩)
      · refine .inl ⟨List.mem_cons_of_mem _ h, fun he => hd.1 ?_⟩
        rw [ha, ← he]
        exact List.mem_map_of_mem h
    · rcases List.mem_cons.mp h with rfl | h
      · exact .inl ⟨List.mem_cons_self, ha⟩
      rcases ih hd.2 h with ⟨he, hne⟩ | ⟨existing, hmem, hid, rfl⟩ | ⟨hnone, rfl⟩
      · exact .inl ⟨List.mem_cons_of_mem _ he, hne⟩
      · exact .inr (.inl ⟨existing, List.mem_cons_of_mem _ hmem, hid, rfl⟩)
      · refine .inr (.inr ⟨fun existing hmem => ?_, rfl⟩)
        rcases List.mem_cons.mp hmem with rfl | hmem
        · exact ha
        · exact hnone existing hmem

/-- A sighting of what has not gone quiet, and the sweep. -/
theorem filter_live_offerTo
    (h : ∀ existing ∈ entries, existing.identity = identity → existing.live now = true) :
    (offerTo identity entry now entries).filter (live now) =
      offerTo identity entry now (entries.filter (live now)) := by
  have hnow : ∀ e : DiscoveredSessionEntry, e.lastSeen = now → e.live now = true := by
    rintro e rfl
    rw [live_iff, sub_self]
    decide
  induction entries with
  | nil => rw [offerTo, List.filter_cons_of_pos (hnow _ rfl)]; rfl
  | cons a entries ih =>
    have ih := ih fun existing hmem => h existing (List.mem_cons_of_mem _ hmem)
    rw [offerTo]
    split_ifs with ha
    · rw [List.filter_cons_of_pos (hnow _ rfl), List.filter_cons_of_pos (h a List.mem_cons_self ha),
        offerTo, if_pos ha]
    · cases hlive : a.live now with
      | true =>
        rw [List.filter_cons_of_pos hlive, List.filter_cons_of_pos hlive, ih, offerTo, if_neg ha]
      | false =>
        have hnot : ¬ a.live now = true := by rw [hlive]; decide
        rw [List.filter_cons_of_neg hnot, List.filter_cons_of_neg hnot, ih]

/-- A source is added where it is new. -/
theorem nodup_sources_refresh (h : e.sources.Nodup) : (e.refresh entry now).sources.Nodup := by
  unfold refresh
  dsimp only
  generalize e.sources = sources at h
  induction entry.sources generalizing sources with
  | nil => exact h
  | cons source rest ih =>
    rw [List.foldl_cons]
    refine ih _ ?_
    split_ifs with hmem
    · exact h
    · exact List.nodup_append.mpr ⟨h, List.nodup_singleton _, fun a ha b hb => by
        rw [List.mem_singleton.mp hb]
        rintro rfl
        exact hmem ha⟩

end DiscoveredSessionEntry

open DiscoveredSessionEntry

namespace SessionDirectory

/-- What happens to a directory. -/
inductive Event
  | offer (entry : DiscoveredSessionEntry) (now : ℤ)
  | forget (identity : Text)
  | sessions (now : ℤ)

/-- The event is no reading. -/
def Event.changes : Event → Bool
  | .sessions _ => false
  | _ => true

/-- A directory; when each identity was offered last, unless it has been forgotten since; and what the
last offer of it that carried a description said. -/
structure History where
  directory : SessionDirectory := {}
  clock : ℤ
  offered : Text → Option ℤ := fun _ => none
  described : Text → Option (Text × ℤ) := fun _ => none

namespace History

def step (s : History) : Event → History
  | .offer entry now =>
    { directory := s.directory.offer entry now
      clock := now
      offered := Function.update s.offered entry.offeredAs (some now)
      described := if entry.sessionDescription = [] then s.described else
        Function.update s.described entry.offeredAs (some (entry.sessionDescription, entry.ptpDomain)) }
  | .forget identity =>
    { s with
      directory := s.directory.forget identity
      offered := Function.update s.offered identity none }
  | .sessions now => { s with directory := s.directory.sessions now, clock := now }

/-- The times of a run do not decrease, and an offer names each source once. -/
def Orderly (s : History) : Event → Prop
  | .offer entry now => s.clock ≤ now ∧ entry.sources.Nodup
  | .forget _ => True
  | .sessions now => s.clock ≤ now

/-- A reading lists the sessions offered within the timeout and not forgotten since, each once; their
sources are distinct, and the descriptions and domains the last that were given. -/
structure Lists (s : History) (now : ℤ) : Prop where
  distinct : (s.directory.sessions now).identities.Nodup
  offered : ∀ identity, identity ∈ (s.directory.sessions now).identities ↔
    ∃ t, s.offered identity = some t ∧ now - t ≤ kSessionTimeout
  sources : ∀ e ∈ (s.directory.sessions now).entries, e.sources.Nodup
  described : ∀ e ∈ (s.directory.sessions now).entries, ∀ said, s.described e.identity = some said →
    (e.sessionDescription, e.ptpDomain) = said

def Reflects (s : History) : Event → Prop
  | .sessions now => s.Lists now
  | _ => True

/-- A session that was offered and not forgotten is not offered again after it went quiet. -/
def Timely (s : History) : Event → Prop
  | .offer entry now => ∀ t, s.offered entry.offeredAs = some t → now - t ≤ kSessionTimeout
  | _ => True

/-- An offer that finds its session in another domain carries a domain other than 0 and a description,
or neither, unless there is no description yet; and one that finds a session gone that was described
before carries a description. -/
def Restates (s : History) : Event → Prop
  | .offer entry _ =>
    (∀ e ∈ s.directory.entries, e.identity = entry.offeredAs →
      entry.ptpDomain = e.ptpDomain ∨ (entry.ptpDomain ≠ 0 ↔ entry.sessionDescription ≠ []) ∨
        entry.sessionDescription = [] ∧ e.sessionDescription = []) ∧
    (entry.sessionDescription = [] → s.offered entry.offeredAs = none →
      s.described entry.offeredAs = none)
  | _ => True

instance (s : History) (e : Event) : Decidable (s.Orderly e) := by
  cases e <;> unfold Orderly <;> infer_instance

instance (s : History) : (e : Event) → Decidable (s.Timely e)
  | .offer entry now => inferInstanceAs
      (Decidable (∀ t ∈ s.offered entry.offeredAs, now - t ≤ kSessionTimeout))
  | .forget _ => isTrue trivial
  | .sessions _ => isTrue trivial

instance (s : History) (e : Event) : Decidable (s.Restates e) := by
  cases e <;> unfold Restates <;> infer_instance

/-- What holds between the directory and what was offered. -/
structure Inv (s : History) : Prop where
  offered : ∀ e ∈ s.directory.entries, s.offered e.identity = some e.lastSeen
  kept : ∀ identity t, s.offered identity = some t →
    (∃ e ∈ s.directory.entries, e.identity = identity) ∨ s.clock - t > kSessionTimeout
  sources : ∀ e ∈ s.directory.entries, e.sources.Nodup
  level : ∀ e ∈ s.directory.entries, ∀ said, s.described e.identity = some said →
    (e.sessionDescription, e.ptpDomain) = said
  silent : ∀ e ∈ s.directory.entries, s.described e.identity = none → e.sessionDescription = []
  described : ∀ identity said, s.described identity = some said → said.1 ≠ []

variable {s s' : History} {e : Event} {events : List Event} {now : ℤ} {identity : Text}
  {entry : DiscoveredSessionEntry}

theorem Inv.start (clock : ℤ) : Inv { clock := clock } where
  offered e he := by cases he
  kept i t h := by cases h
  sources e he := by cases he
  level e he := by cases he
  silent e he := by cases he
  described i said h := by cases h

theorem entries_sessions (directory : SessionDirectory) (now : ℤ) :
    (directory.sessions now).entries = directory.entries.filter (live now) := rfl

theorem mem_forget {directory : SessionDirectory} {e : DiscoveredSessionEntry} :
    e ∈ (directory.forget identity).entries ↔ e ∈ directory.entries ∧ e.identity ≠ identity := by
  change e ∈ directory.entries.filter (fun e => decide (e.identity ≠ identity)) ↔ _
  rw [List.mem_filter, decide_eq_true_iff]

/-! ## One event -/

/-- An entry was last seen when its session was offered last. -/
def Told (s : History) : Prop := ∀ e ∈ s.directory.entries, s.offered e.identity = some e.lastSeen

theorem told_step (h : Told s) (e : Event) : Told (s.step e) := by
  cases e with
  | offer entry now =>
    intro e he
    have hmem : e ∈ offerTo entry.offeredAs entry now s.directory.entries := he
    change Function.update s.offered entry.offeredAs (some now) e.identity = _
    rcases mem_offerTo s.directory.distinct hmem with ⟨hold, hne⟩ | ⟨existing, -, hid, rfl⟩ | ⟨-, rfl⟩
    · rw [Function.update_of_ne hne]
      exact h e hold
    · change Function.update s.offered _ _ existing.identity = _
      rw [hid, Function.update_self]
      rfl
    · exact Function.update_self _ _ _
  | forget identity =>
    intro e he
    obtain ⟨hmem, hne⟩ := mem_forget.mp he
    change Function.update s.offered identity none e.identity = _
    rw [Function.update_of_ne hne]
    exact h e hmem
  | sessions now => exact fun e he => h e (List.mem_of_mem_filter he)

/-- What is listed, given the invariant. -/
theorem Inv.lists (h : Inv s) (hclock : s.clock ≤ now) : s.Lists now where
  distinct := (s.directory.sessions now).distinct
  offered identity := by
    constructor
    · intro hi
      obtain ⟨e, he, rfl⟩ := List.mem_map.mp hi
      rw [entries_sessions, List.mem_filter, live_iff] at he
      exact ⟨e.lastSeen, h.offered e he.1, he.2⟩
    · rintro ⟨t, ht, hrecent⟩
      rcases h.kept identity t ht with ⟨e, he, rfl⟩ | hgone
      · obtain rfl := Option.some.inj ((h.offered e he).symm.trans ht)
        refine List.mem_map_of_mem ?_
        rw [entries_sessions, List.mem_filter, live_iff]
        exact ⟨he, hrecent⟩
      · omega
  sources e he := h.sources e (List.mem_of_mem_filter he)
  described e he := h.level e (List.mem_of_mem_filter he)

/-- **An offer**, where it is timely and restates what is there. -/
theorem Inv.offer (h : Inv s) (hclock : s.clock ≤ now) (hsources : entry.sources.Nodup)
    (htimely : s.Timely (.offer entry now)) (hrestates : s.Restates (.offer entry now)) :
    Inv (s.step (.offer entry now)) := by
  have hdescribed : ∀ i, i ≠ entry.offeredAs →
      (s.step (.offer entry now)).described i = s.described i := by
    intro i hi
    dsimp only [step]
    split_ifs
    · rfl
    · exact Function.update_of_ne hi _ _
  have hoffered : ∀ i, i ≠ entry.offeredAs →
      (s.step (.offer entry now)).offered i = s.offered i := fun i hi => Function.update_of_ne hi _ _
  -- There is an entry unless the session is new or was forgotten, as none has gone quiet.
  have hnew : (∀ e ∈ s.directory.entries, e.identity ≠ entry.offeredAs) →
      s.offered entry.offeredAs = none := by
    intro hnone
    rw [Option.eq_none_iff_forall_ne_some]
    intro t ht
    have hrecent : now - t ≤ kSessionTimeout := htimely t ht
    rcases h.kept _ t ht with ⟨e, he, hid⟩ | hgone
    · exact hnone e he hid
    · omega
  have hcases : ∀ e ∈ (s.step (.offer entry now)).directory.entries,
      (e ∈ s.directory.entries ∧ e.identity ≠ entry.offeredAs) ∨
      (∃ existing ∈ s.directory.entries, existing.identity = entry.offeredAs ∧
        e = existing.refresh entry now) ∨
      (s.offered entry.offeredAs = none ∧
        e = { entry with identity := entry.offeredAs, lastSeen := now }) := by
    intro e he
    rcases mem_offerTo s.directory.distinct he with hold | hrefreshed | ⟨hnone, hfresh⟩
    · exact .inl hold
    · exact .inr (.inl hrefreshed)
    · exact .inr (.inr ⟨hnew hnone, hfresh⟩)
  refine ⟨told_step h.offered _, fun i t ht => ?_, fun e he => ?_, fun e he said hsaid => ?_,
    fun e he hnone => ?_, fun i said hsaid => ?_⟩
  · have hmem : entry.offeredAs ∈
        (s.step (.offer entry now)).directory.entries.map DiscoveredSessionEntry.identity := by
      change _ ∈ (offerTo entry.offeredAs entry now s.directory.entries).map _
      rw [map_identity_offerTo]
      split_ifs with hin
      · exact hin
      · exact List.mem_append_right _ (List.mem_singleton_self _)
    have hstay : ∀ j ∈ s.directory.entries.map DiscoveredSessionEntry.identity,
        j ∈ (s.step (.offer entry now)).directory.entries.map DiscoveredSessionEntry.identity := by
      intro j hj
      change _ ∈ (offerTo entry.offeredAs entry now s.directory.entries).map _
      rw [map_identity_offerTo]
      split_ifs
      · exact hj
      · exact List.mem_append_left _ hj
    by_cases hi : i = entry.offeredAs
    · subst hi
      obtain ⟨e, he, hid⟩ := List.mem_map.mp hmem
      exact .inl ⟨e, he, hid⟩
    · rw [hoffered i hi] at ht
      rcases h.kept i t ht with ⟨e, he, rfl⟩ | hgone
      · obtain ⟨e', he', hid⟩ := List.mem_map.mp (hstay _ (List.mem_map_of_mem he))
        exact .inl ⟨e', he', hid⟩
      · refine .inr ?_
        change now - t > kSessionTimeout
        omega
  · rcases hcases e he with ⟨hold, -⟩ | ⟨existing, hmem, -, rfl⟩ | ⟨-, rfl⟩
    · exact h.sources e hold
    · exact nodup_sources_refresh (h.sources existing hmem)
    · exact hsources
  · rcases hcases e he with ⟨hold, hne⟩ | ⟨existing, hmem, hid, rfl⟩ | ⟨hoff, rfl⟩
    · rw [hdescribed _ hne] at hsaid
      exact h.level e hold said hsaid
    · have hdomain := hrestates.1 existing hmem hid
      change (s.step (.offer entry now)).described existing.identity = _ at hsaid
      dsimp only [step] at hsaid
      by_cases hempty : entry.sessionDescription = []
      · rw [if_pos hempty] at hsaid
        have hlevel := h.level existing hmem said hsaid
        have hsaidne := h.described _ said hsaid
        rw [← hlevel] at hsaidne ⊢
        have hno : ¬ (entry.sessionDescription = [] ∧ existing.sessionDescription = []) :=
          fun hb => hsaidne hb.2
        refine Prod.ext (by simp [refresh, hempty]) ?_
        by_cases hzero : entry.ptpDomain = 0
        · simp [refresh, hzero]
        · have hsame : entry.ptpDomain = existing.ptpDomain := by tauto
          simp [refresh, hsame]
      · rw [if_neg hempty, hid, Function.update_self] at hsaid
        rw [← Option.some.inj hsaid]
        refine Prod.ext (by simp [refresh, hempty]) ?_
        by_cases hzero : entry.ptpDomain = 0
        · have hsame : entry.ptpDomain = existing.ptpDomain := by tauto
          simp [refresh, hsame]
        · simp [refresh, hzero]
    · change (s.step (.offer entry now)).described entry.offeredAs = _ at hsaid
      dsimp only [step] at hsaid
      split_ifs at hsaid with hempty
      · rw [hrestates.2 hempty hoff] at hsaid
        cases hsaid
      · rw [Function.update_self] at hsaid
        exact Option.some.inj hsaid
  · rcases hcases e he with ⟨hold, hne⟩ | ⟨existing, hmem, hid, rfl⟩ | ⟨hoff, rfl⟩
    · rw [hdescribed _ hne] at hnone
      exact h.silent e hold hnone
    · change (s.step (.offer entry now)).described existing.identity = _ at hnone
      dsimp only [step] at hnone
      split_ifs at hnone with hempty
      · have hsilent := h.silent existing hmem hnone
        simp [refresh, hempty, hsilent]
      · rw [hid, Function.update_self] at hnone
        cases hnone
    · change (s.step (.offer entry now)).described entry.offeredAs = _ at hnone
      dsimp only [step] at hnone
      split_ifs at hnone with hempty
      · exact hempty
      · rw [Function.update_self] at hnone
        cases hnone
  · dsimp only [step] at hsaid
    split_ifs at hsaid with hempty
    · exact h.described i said hsaid
    · by_cases hi : i = entry.offeredAs
      · rw [hi, Function.update_self] at hsaid
        rw [← Option.some.inj hsaid]
        exact hempty
      · rw [Function.update_of_ne hi] at hsaid
        exact h.described i said hsaid

/-- **Every event that is timely and restates what is there keeps the invariant.** -/
theorem Inv.step (h : Inv s) (hin : s.Orderly e) (htimely : s.Timely e) (hrestates : s.Restates e) :
    Inv (s.step e) := by
  cases e with
  | offer entry now => exact h.offer hin.1 hin.2 htimely hrestates
  | forget identity =>
    refine ⟨told_step h.offered (.forget identity), fun i t ht => ?_, fun e he => ?_, fun e he => ?_,
      fun e he => ?_, h.described⟩
    · change Function.update s.offered identity none i = _ at ht
      by_cases hi : i = identity
      · rw [hi, Function.update_self] at ht
        cases ht
      · rw [Function.update_of_ne hi] at ht
        rcases h.kept i t ht with ⟨e, he, rfl⟩ | hgone
        · exact .inl ⟨e, mem_forget.mpr ⟨he, hi⟩, rfl⟩
        · exact .inr hgone
    · exact h.sources e (mem_forget.mp he).1
    · exact h.level e (mem_forget.mp he).1
    · exact h.silent e (mem_forget.mp he).1
  | sessions now =>
    have hsub : ∀ e ∈ (s.step (.sessions now)).directory.entries, e ∈ s.directory.entries :=
      fun e he => List.mem_of_mem_filter he
    refine ⟨told_step h.offered (.sessions now), fun i t ht => ?_, fun e he => h.sources e (hsub e he),
      fun e he => h.level e (hsub e he), fun e he => h.silent e (hsub e he), h.described⟩
    rcases h.kept i t ht with ⟨e, he, rfl⟩ | hgone
    · by_cases hlive : e.live now = true
      · exact .inl ⟨e, List.mem_filter.mpr ⟨he, hlive⟩, rfl⟩
      · rw [live_iff, not_le] at hlive
        obtain rfl := Option.some.inj ((h.offered e he).symm.trans ht)
        exact .inr hlive
    · have hclock : s.clock ≤ now := hin
      refine .inr ?_
      change now - t > kSessionTimeout
      omega

/-! ## Readings in between -/

/-- The histories differ at most in what has gone quiet. -/
structure Level (s s' : History) : Prop where
  offered : s.offered = s'.offered
  live : s.directory.entries.filter (live s.clock) = s'.directory.entries.filter (live s.clock)

theorem Level.later (h : Level s s') (hnow : s.clock ≤ now) :
    s.directory.entries.filter (DiscoveredSessionEntry.live now) =
      s'.directory.entries.filter (DiscoveredSessionEntry.live now) := by
  have hlive : ∀ l : List DiscoveredSessionEntry, l.filter (DiscoveredSessionEntry.live now) =
      (l.filter (DiscoveredSessionEntry.live s.clock)).filter (DiscoveredSessionEntry.live now) := by
    intro l
    rw [List.filter_filter]
    refine List.filter_congr fun e _ => ?_
    have himp : e.live now = true → e.live s.clock = true := by
      rw [live_iff, live_iff]
      omega
    cases hl : e.live now with
    | false => rfl
    | true => rw [himp hl]; rfl
  rw [hlive, hlive s'.directory.entries, h.live]

/-- An offer is timely by when sessions were offered. -/
theorem timely_congr (h : s.offered = s'.offered) : s.Timely e ↔ s'.Timely e := by
  cases e <;> simp only [Timely, h]

theorem offered_congr (h : s.offered = s'.offered) : (s.step e).offered = (s'.step e).offered := by
  cases e <;> simp only [step, h]

theorem timely_filter (h : s.offered = s'.offered) :
    Along step Timely s events ↔ Along step Timely s' (events.filter Event.changes) := by
  induction events generalizing s s' with
  | nil => exact Iff.rfl
  | cons e events ih =>
    cases e with
    | sessions now => exact (and_iff_right trivial).trans (ih h)
    | offer entry now => exact and_congr (timely_congr h) (ih (offered_congr h))
    | forget identity => exact and_congr (timely_congr h) (ih (offered_congr h))

/-- One event, read or not. -/
theorem Level.step (h : Level s s') (hs : Told s) (hs' : Told s') (ho : s.Orderly e)
    (ht : s.Timely e) : Level (s.step e) (if e.changes then s'.step e else s') := by
  cases e with
  | sessions now =>
    refine ⟨h.offered, ?_⟩
    change (s.directory.entries.filter (DiscoveredSessionEntry.live now)).filter _ = _
    rw [List.filter_filter]
    refine (List.filter_congr fun e _ => Bool.and_self _).trans (h.later ho)
  | offer entry now =>
    refine ⟨offered_congr h.offered, ?_⟩
    change (offerTo entry.offeredAs entry now s.directory.entries).filter
        (DiscoveredSessionEntry.live now) =
      (offerTo entry.offeredAs entry now s'.directory.entries).filter (DiscoveredSessionEntry.live now)
    rw [filter_live_offerTo, filter_live_offerTo, h.later ho.1]
    · intro e he hid
      rw [live_iff]
      refine ht e.lastSeen ?_
      rw [h.offered, ← hid]
      exact hs' e he
    · intro e he hid
      rw [live_iff]
      refine ht e.lastSeen ?_
      rw [← hid]
      exact hs e he
  | forget identity =>
    refine ⟨offered_congr h.offered, ?_⟩
    change (s.directory.entries.filter fun e => decide (e.identity ≠ identity)).filter
        (DiscoveredSessionEntry.live s.clock) =
      (s'.directory.entries.filter fun e => decide (e.identity ≠ identity)).filter
        (DiscoveredSessionEntry.live s.clock)
    rw [List.filter_comm, h.live, List.filter_comm]

/-- **Readings change no later reading**, where sessions that went quiet do not come back. -/
theorem Level.run (h : Level s s') (hs : Told s) (hs' : Told s') (ho : Along History.step Orderly s events)
    (ht : Along History.step Timely s events) :
    Level (events.foldl History.step s) ((events.filter Event.changes).foldl History.step s') := by
  induction events generalizing s s' with
  | nil => exact h
  | cons e events ih =>
    have hone := h.step hs hs' ho.1 ht.1
    rw [List.filter_cons, List.foldl_cons]
    split_ifs at hone ⊢ with hchanges
    · exact ih hone (told_step hs e) (told_step hs' e) ho.2 ht.2
    · exact ih hone (told_step hs e) hs' ho.2 ht.2

/-! ## Runs -/

/-- **The listing follows the offers, and readings do not matter**, in every run in which sessions that
went quiet do not come back and each offer restates what it changes. -/
theorem along_reflects (clock : ℤ) (events : List Event)
    (h : Along step (fun s e => s.Orderly e ∧ s.Timely e ∧ s.Restates e) { clock := clock } events) :
    Along step Reflects { clock := clock } events ∧
    ∀ events' : List Event, events'.filter Event.changes = events.filter Event.changes →
      Along step Orderly { clock := clock } events' →
      ∀ now, (events.foldl step { clock := clock }).clock ≤ now →
        (events'.foldl step { clock := clock }).clock ≤ now →
        ((events'.foldl step { clock := clock }).directory.sessions now).entries =
          ((events.foldl step { clock := clock }).directory.sessions now).entries := by
  have ho : Along step Orderly { clock := clock } events := h.imp fun _ _ _ hc => hc.1
  have htimely : Along step Timely { clock := clock } events := h.imp fun _ _ _ hc => hc.2.1
  have htold : Told { clock := clock } := fun e he => by cases he
  constructor
  · refine along_of_along (fun s e _ hs hc => ⟨hs.step hc.1 hc.2.1 hc.2.2, ?_⟩) (Inv.start clock) h
    cases e with
    | sessions now => exact hs.lists hc.1
    | offer entry now => trivial
    | forget identity => trivial
  · intro events' hsame ho' now hnow hnow'
    have htimely' : Along step Timely { clock := clock } events' := by
      rw [timely_filter rfl, hsame, ← timely_filter rfl]
      exact htimely
    have hlevel := Level.run (s := { clock := clock }) ⟨rfl, rfl⟩ htold htold ho htimely
    have hlevel' := Level.run (s := { clock := clock }) ⟨rfl, rfl⟩ htold htold ho' htimely'
    rw [hsame] at hlevel'
    rw [entries_sessions, entries_sessions, hlevel.later hnow, hlevel'.later hnow']

/-- A session in a PTP domain. -/
def inDomain (ptpDomain : ℤ) (sessionDescription : String) : DiscoveredSessionEntry where
  identity := "s".toList
  ptpDomain := ptpDomain
  sessionDescription := sessionDescription.toList
  sources := [.SAP]

/-- A session that goes from domain 5 to domain 6 is listed there. -/
theorem reflects_moved : Along step Reflects { clock := 0 }
    [.offer (inDomain 5 "a") 0, .offer (inDomain 6 "b") 1, .sessions 2] :=
  (along_reflects 0 [.offer (inDomain 5 "a") 0, .offer (inDomain 6 "b") 1, .sessions 2]
    (by decide)).1

/-- **A stale domain, and a stale source**: a session that goes from domain 5 to domain 0 is listed in
domain 5; and one that comes back after it went quiet is listed with the source it was found by
before, unless there was a reading in between. -/
theorem not_reflects :
    (Along step Orderly { clock := 0 }
        [.offer (inDomain 5 "a") 0, .offer (inDomain 0 "b") 1, .sessions 2] ∧
      ¬ Along step Reflects { clock := 0 }
        [.offer (inDomain 5 "a") 0, .offer (inDomain 0 "b") 1, .sessions 2]) ∧
    (([.offer (inDomain 0 "a") 0, .offer { inDomain 0 "a" with sources := [.RTSP] } (400 * 10 ^ 9)].foldl
        step { clock := 0 }).directory.sessions (400 * 10 ^ 9)).entries ≠
      (([.offer (inDomain 0 "a") 0, .sessions (400 * 10 ^ 9),
        .offer { inDomain 0 "a" with sources := [.RTSP] } (400 * 10 ^ 9)].foldl
        step { clock := 0 }).directory.sessions (400 * 10 ^ 9)).entries := by
  refine ⟨⟨by decide, fun h => ?_⟩, by decide⟩
  have hlists := h.2.2.1
  have hstale := hlists.described { inDomain 5 "b" with lastSeen := 1 } (by decide)
    ("b".toList, 0) (by decide)
  exact absurd hstale (by decide)

end History

end SessionDirectory

end Aes67
