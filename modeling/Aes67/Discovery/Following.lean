import Mathlib
import Aes67.Lib.Run
import Aes67.Discovery.SAPListener
import Aes67.Discovery.SessionDirectory

/-!
# The session list and what SAP says

The discovery bridge feeds the directory from the listener's callback, which is told of a session
only when it enters the listener's table: neither a repeat nor a deletion gets as far as the
directory. A packet is parsed, and offered to the directory, at one time.

* `onAnnouncement`: the bridge's callback;
* `Bridge`, `Heard`, `step`: the listener and the directory, with what has been heard of each
  session, over packets and readings of the list;
* `Live`, `Follows`: a session that SAP says is there, and a reading that lists just these;
* `Timely`: no reading comes so late after a session's entry into the table that it matters;
* **`follows_sap_iff`**: the list follows SAP over a run exactly when every reading is timely.
-/

namespace Aes67.Discovery

/-- The announcement callback of `aes67_discovery_start`. -/
def onAnnouncement (directory : SessionDirectory) (announcement : SAPAnnouncement) (now : ℤ) :
    SessionDirectory :=
  if announcement.isDeletion then
    directory.forget (identityOf announcement.sessionDescription announcement.multicastAddress
      announcement.port)
  else if announcement.sessionDescription = [] then directory
  else
    directory.offer
      { sessionName := announcement.sessionName
        sourceAddress := announcement.sourceAddress
        multicastAddress := announcement.multicastAddress
        port := announcement.port
        ptpDomain := announcement.ptpDomain
        sessionDescription := announcement.sessionDescription
        sources := [.SAP] } now

/-- How SAP names a session: the message hash and the originating source. -/
abbrev Key := UInt16 × UInt32

/-- What the bridge meets: a packet, or a reading of the session list. -/
inductive Event
  | receive (announcement : SAPAnnouncement)
  | read (now : ℤ)

def Event.time : Event → ℤ
  | .receive announcement => announcement.lastSeen
  | .read now => now

/-- The packet describes a session. -/
def Announces (a : SAPAnnouncement) : Prop :=
  a.sessionDescription ≠ [] ∧ a.isDeletion = false

instance (a : SAPAnnouncement) : Decidable (Announces a) := inferInstanceAs (Decidable (_ ∧ _))

/-- What has been heard of a session: when it last entered the listener's table, when it was last
announced, and whether it has been deleted since. -/
structure Heard where
  entered : ℤ
  last : ℤ
  withdrawn : Bool
  deriving DecidableEq

structure Bridge where
  listener : SAPListener := {}
  directory : SessionDirectory := {}
  clock : ℤ
  heard : Key → Option Heard := fun _ => none

namespace Bridge

/-- What has been heard of a session once the packet has come. -/
def hearing (s : Bridge) (a : SAPAnnouncement) (k : Key) : Option Heard :=
  if k ≠ a.key then s.heard k
  else if a.isDeletion then (s.heard k).map fun h => { h with withdrawn := true }
  else if a.sessionDescription = [] then s.heard k
  else some
    { entered := if s.listener.holds a then ((s.heard k).map Heard.entered).getD a.lastSeen
        else a.lastSeen
      last := a.lastSeen
      withdrawn := false }

def step (s : Bridge) : Event → Bridge
  | .receive a =>
    { listener := (s.listener.hear a).1
      directory := match (s.listener.hear a).2 with
        | some told => onAnnouncement s.directory told a.lastSeen
        | none => s.directory
      clock := a.lastSeen
      heard := s.hearing a }
  | .read now => { s with directory := s.directory.sessions now, clock := now }

/-- Announced no longer ago than the timeout, and not deleted since. -/
def Live (s : Bridge) (now : ℤ) (k : Key) : Prop :=
  ∃ h, s.heard k = some h ∧ h.withdrawn = false ∧ now - h.last ≤ kSessionTimeout

/-- A reading lists the live sessions and no others. -/
def Follows (ident : Key → Text) (s : Bridge) : Event → Prop
  | .receive _ => True
  | .read now => ∀ identity, identity ∈ (s.directory.sessions now).identities ↔
      ∃ k, Live s now k ∧ ident k = identity

/-- A withdrawn session entered the listener's table longer ago than the timeout; any other did so
within it, unless it was not announced within it either. -/
def Timely (s : Bridge) : Event → Prop
  | .receive _ => True
  | .read now => ∀ k h, s.heard k = some h →
      if h.withdrawn then now - h.entered > kSessionTimeout
      else now - h.entered ≤ kSessionTimeout ∨ now - h.last > kSessionTimeout

/-- The sessions announced in a run. -/
def announcedIn (events : List Event) : Set Key :=
  {k | ∃ a, .receive a ∈ events ∧ Announces a ∧ a.key = k}

/-- Every packet has a hash, and every session an identity of its own. -/
structure Sessions (ident : Key → Text) (events : List Event) : Prop where
  hashed : ∀ a, .receive a ∈ events → a.msgIdHash ≠ 0
  named : ∀ a, .receive a ∈ events → Announces a →
    identityOf a.sessionDescription a.multicastAddress a.port = ident a.key
  distinct : Set.InjOn ident (announcedIn events)

/-- The times of a run do not decrease. -/
def InTime (s : Bridge) (e : Event) : Prop := s.clock ≤ e.time

instance (s : Bridge) (e : Event) : Decidable (InTime s e) := inferInstanceAs (Decidable (_ ≤ _))

/-! ## What one event does -/

/-- What holds between the table, the directory and what has been heard, for the sessions `K`. -/
structure Inv (ident : Key → Text) (K : Set Key) (s : Bridge) : Prop where
  hashed : ∀ a ∈ s.listener.discoveredStreams, a.msgIdHash ≠ 0
  known : ∀ a ∈ s.listener.discoveredStreams, (s.heard a.key).isSome
  mem : ∀ k h, s.heard k = some h → k ∈ K
  times : ∀ k h, s.heard k = some h → h.entered ≤ h.last ∧ h.last ≤ s.clock
  /-- The directory has a session as it was when it entered the table, for as long as that lasts. -/
  seen : ∀ k h, s.heard k = some h → s.directory.seen (ident k) = some h.entered ∨
    s.directory.seen (ident k) = none ∧ s.clock - h.entered > kSessionTimeout
  only : ∀ identity, (s.directory.seen identity).isSome → ∃ k, (s.heard k).isSome ∧ ident k = identity

variable {ident : Key → Text} {K : Set Key} {s : Bridge} {a : SAPAnnouncement} {now : ℤ}

theorem Inv.start (ident : Key → Text) (K : Set Key) (clock : ℤ) :
    Inv ident K { clock := clock } where
  hashed a ha := by cases ha
  known a ha := by cases ha
  mem k h hk := by cases hk
  times k h hk := by cases hk
  seen k h hk := by cases hk
  only identity hi := by cases hi

/-- A session the table has an entry of has been heard of. -/
theorem Inv.isSome_of_holds (hs : Inv ident K s) (ha : a.msgIdHash ≠ 0)
    (h : s.listener.holds a = true) : (s.heard a.key).isSome := by
  obtain ⟨b, hb, hsame⟩ := List.any_eq_true.mp h
  rw [← (SAPAnnouncement.sameSession_iff (hs.hashed b hb) ha).mp hsame]
  exact hs.known b hb

theorem hearing_other {k : Key} (h : k ≠ a.key) : s.hearing a k = s.heard k := if_pos h

theorem hearing_announced (ha : Announces a) : s.hearing a a.key = some
    { entered := if s.listener.holds a then ((s.heard a.key).map Heard.entered).getD a.lastSeen
        else a.lastSeen
      last := a.lastSeen
      withdrawn := false } := by
  simp [hearing, ha.1, ha.2]

/-- A packet that announces nothing leaves the times. -/
theorem hearing_of_not_announces (ha : ¬ Announces a) {k : Key} {h : Heard}
    (hk : s.hearing a k = some h) :
    ∃ h', s.heard k = some h' ∧ h'.entered = h.entered ∧ h'.last = h.last := by
  unfold hearing at hk
  split_ifs at hk with hkey hdeletion hempty
  · exact ⟨h, hk, rfl, rfl⟩
  · obtain ⟨h', hh', rfl⟩ := Option.map_eq_some_iff.mp hk
    exact ⟨h', hh', rfl, rfl⟩
  · exact ⟨h, hk, rfl, rfl⟩
  all_goals exact absurd ⟨hempty, by simpa using hdeletion⟩ ha

theorem isSome_hearing {k : Key} (h : (s.heard k).isSome) : (s.hearing a k).isSome := by
  unfold hearing
  split_ifs <;> simp [h]

/-- **What the directory is told of a packet**: its session, if the packet announces one that the
table has no entry of. -/
theorem directory_receive (s : Bridge) (a : SAPAnnouncement) (identity : Text) :
    (step s (.receive a)).directory.seen identity =
      if (Announces a ∧ s.listener.holds a = false) ∧
        identity = identityOf a.sessionDescription a.multicastAddress a.port
      then some a.lastSeen else s.directory.seen identity := by
  by_cases h : Announces a ∧ s.listener.holds a = false
  · have htold : (s.listener.hear a).2 = some a := by
      rw [SAPListener.hear_told, if_pos ⟨h.1.1, h.1.2, h.2⟩]
    simp only [step, htold, onAnnouncement, h.1.2, Bool.false_eq_true, if_false, if_neg h.1.1]
    rw [SessionDirectory.seen_offer rfl]
    simp only [h, true_and]
  · have htold : (s.listener.hear a).2 = none := by
      rw [SAPListener.hear_told, if_neg fun h' => h ⟨⟨h'.1, h'.2.1⟩, h'.2.2⟩]
    simp only [step, htold, h, false_and, if_false]

/-- What a packet leaves of the invariant: a session's entry is refreshed when the session enters
the table, and only then. -/
theorem Inv.receive (hs : Inv ident K s) (hK : Set.InjOn ident K) (ha : a.msgIdHash ≠ 0)
    (hn : Announces a → a.key ∈ K ∧
      identityOf a.sessionDescription a.multicastAddress a.port = ident a.key)
    (hclock : s.clock ≤ a.lastSeen) : Inv ident K (step s (.receive a)) where
  hashed b hb := by
    rcases SAPListener.mem_hear hb with hb | ⟨rfl, -⟩
    · exact hs.hashed b hb
    · exact ha
  known b hb := by
    rcases SAPListener.mem_hear hb with hb | ⟨rfl, hannounces⟩
    · exact isSome_hearing (hs.known b hb)
    · exact Option.isSome_iff_exists.mpr ⟨_, hearing_announced hannounces⟩
  mem k h hk := by
    by_cases hannounces : Announces a
    · by_cases hkey : k = a.key
      · exact hkey ▸ (hn hannounces).1
      · exact hs.mem k h ((hearing_other hkey).symm.trans hk)
    · obtain ⟨h', hk', -⟩ := hearing_of_not_announces hannounces hk
      exact hs.mem k h' hk'
  times k h hk := by
    by_cases hannounces : Announces a
    · by_cases hkey : k = a.key
      · subst hkey
        obtain rfl := Option.some.inj ((hearing_announced hannounces).symm.trans hk)
        refine ⟨?_, le_rfl⟩
        dsimp only
        split_ifs
        · cases hh : s.heard a.key with
          | none => exact le_rfl
          | some h =>
            obtain ⟨h1, h2⟩ := hs.times _ h hh
            exact (h1.trans h2).trans hclock
        · exact le_rfl
      · obtain ⟨h1, h2⟩ := hs.times k h ((hearing_other hkey).symm.trans hk)
        exact ⟨h1, h2.trans hclock⟩
    · obtain ⟨h', hk', he, hl⟩ := hearing_of_not_announces hannounces hk
      obtain ⟨h1, h2⟩ := hs.times k h' hk'
      exact ⟨he ▸ hl ▸ h1, hl ▸ h2.trans hclock⟩
  seen k h hk := by
    rw [directory_receive]
    have hlater : ∀ h', s.heard k = some h' → s.directory.seen (ident k) = some h'.entered ∨
        s.directory.seen (ident k) = none ∧ a.lastSeen - h'.entered > kSessionTimeout := by
      intro h' hk'
      exact (hs.seen k h' hk').imp_right fun ⟨hnone, hlate⟩ => ⟨hnone, by omega⟩
    by_cases hannounces : Announces a
    · obtain ⟨hmem, hident⟩ := hn hannounces
      by_cases hkey : k = a.key
      · subst hkey
        obtain rfl := Option.some.inj ((hearing_announced hannounces).symm.trans hk)
        cases hholds : s.listener.holds a with
        | false => simp [hannounces, hident]
        | true =>
          obtain ⟨h', hh'⟩ := Option.isSome_iff_exists.mp (hs.isSome_of_holds ha hholds)
          simpa [hh', step] using hlater h' hh'
      · have hk' := (hearing_other hkey).symm.trans hk
        rw [if_neg fun hif => hkey (hK (hs.mem k h hk') hmem (hif.2.trans hident))]
        exact hlater h hk'
    · obtain ⟨h', hk', he, -⟩ := hearing_of_not_announces hannounces hk
      rw [if_neg fun hif => hannounces hif.1.1, ← he]
      exact hlater h' hk'
  only identity hi := by
    rw [directory_receive] at hi
    split_ifs at hi with hif
    · refine ⟨a.key, ?_, (hn hif.1.1).2.symm.trans hif.2.symm⟩
      exact Option.isSome_iff_exists.mpr ⟨_, hearing_announced hif.1.1⟩
    · obtain ⟨k, hk, rfl⟩ := hs.only identity hi
      exact ⟨k, isSome_hearing hk, rfl⟩

theorem Inv.read (hs : Inv ident K s) (hclock : s.clock ≤ now) :
    Inv ident K (step s (.read now)) where
  hashed := hs.hashed
  known := hs.known
  mem := hs.mem
  times k h hk := ⟨(hs.times k h hk).1, (hs.times k h hk).2.trans hclock⟩
  seen k h hk := by
    simp only [step, SessionDirectory.seen_sessions]
    rcases hs.seen k h hk with hseen | ⟨hnone, hlate⟩
    · rw [hseen]
      by_cases hold : now - h.entered > kSessionTimeout
      · exact .inr ⟨by simp [Option.filter, hold], hold⟩
      · exact .inl (by simp [Option.filter, hold])
    · exact .inr ⟨by rw [hnone]; rfl, by omega⟩
  only identity hi := by
    simp only [step, SessionDirectory.seen_sessions] at hi
    cases hseen : s.directory.seen identity with
    | none => rw [hseen] at hi; cases hi
    | some _ => exact hs.only identity (by rw [hseen]; rfl)

/-- **What a reading lists**: the sessions that entered the listener's table no longer ago than the
timeout. -/
theorem Inv.mem_read (hs : Inv ident K s) (hclock : s.clock ≤ now) (identity : Text) :
    identity ∈ (s.directory.sessions now).identities ↔
      ∃ k h, s.heard k = some h ∧ ident k = identity ∧ now - h.entered ≤ kSessionTimeout := by
  rw [SessionDirectory.mem_identities, SessionDirectory.seen_sessions]
  constructor
  · intro hi
    have hsome : (s.directory.seen identity).isSome := by
      cases hseen : s.directory.seen identity with
      | none => rw [hseen] at hi; cases hi
      | some _ => rfl
    obtain ⟨k, hk, rfl⟩ := hs.only identity hsome
    obtain ⟨h, hh⟩ := Option.isSome_iff_exists.mp hk
    rcases hs.seen k h hh with hseen | ⟨hnone, -⟩
    · refine ⟨k, h, hh, rfl, ?_⟩
      by_contra hlate
      simp [hseen, Option.filter, not_le.mp hlate] at hi
    · rw [hnone] at hsome
      cases hsome
  · rintro ⟨k, h, hh, rfl, hrecent⟩
    rcases hs.seen k h hh with hseen | ⟨-, hlate⟩
    · simp [hseen, Option.filter, hrecent]
    · omega

/-- **One reading**: it lists the live sessions exactly when it is timely. -/
theorem Inv.follows_read (hs : Inv ident K s) (hK : Set.InjOn ident K) (hclock : s.clock ≤ now) :
    Follows ident s (.read now) ↔ Timely s (.read now) := by
  have hone : ∀ k h, s.heard k = some h →
      ((ident k ∈ (s.directory.sessions now).identities ↔ ∃ k', Live s now k' ∧ ident k' = ident k) ↔
        if h.withdrawn then now - h.entered > kSessionTimeout
        else now - h.entered ≤ kSessionTimeout ∨ now - h.last > kSessionTimeout) := by
    intro k h hk
    have hlisted : ident k ∈ (s.directory.sessions now).identities ↔
        now - h.entered ≤ kSessionTimeout := by
      rw [hs.mem_read hclock]
      refine ⟨fun ⟨k', h', hk', hident, hrecent⟩ => ?_, fun hrecent => ⟨k, h, hk, rfl, hrecent⟩⟩
      obtain rfl := hK (hs.mem k' h' hk') (hs.mem k h hk) hident
      cases hk.symm.trans hk'
      exact hrecent
    have hlive : (∃ k', Live s now k' ∧ ident k' = ident k) ↔
        h.withdrawn = false ∧ now - h.last ≤ kSessionTimeout := by
      refine ⟨fun ⟨k', ⟨h', hk', hl⟩, hident⟩ => ?_, fun hl => ⟨k, ⟨h, hk, hl⟩, rfl⟩⟩
      obtain rfl := hK (hs.mem k' h' hk') (hs.mem k h hk) hident
      cases hk.symm.trans hk'
      exact hl
    have htimes := hs.times k h hk
    rw [hlisted, hlive]
    cases h.withdrawn with
    | false =>
      simp only [true_and, Bool.false_eq_true, if_false]
      omega
    | true =>
      simp only [Bool.true_eq_false, false_and, iff_false, if_true]
      omega
  constructor
  · intro hf k h hk
    exact (hone k h hk).mp (hf (ident k))
  · intro ht identity
    constructor
    · intro hi
      obtain ⟨k, h, hk, rfl, -⟩ := (hs.mem_read hclock identity).mp hi
      exact ((hone k h hk).mpr (ht k h hk)).mp hi
    · rintro ⟨k, ⟨h, hk, hl⟩, rfl⟩
      exact ((hone k h hk).mpr (ht k h hk)).mpr ⟨k, ⟨h, hk, hl⟩, rfl⟩

/-! ## Runs -/

/-- **The list follows SAP exactly when every reading is timely**, over every run in which the
packets have hashes and the sessions identities of their own. -/
theorem follows_sap_iff (ident : Key → Text) (clock : ℤ) (events : List Event)
    (hsessions : Sessions ident events) (htime : Along step InTime { clock := clock } events) :
    Along step (Follows ident) { clock := clock } events ↔
      Along step Timely { clock := clock } events := by
  refine along_iff_along (fun s e he hs hclock => ?_)
    (Inv.start ident (announcedIn events) clock) htime
  cases e with
  | receive a =>
    have hn (ha : Announces a) := And.intro
      (show a.key ∈ announcedIn events from ⟨a, he, ha, rfl⟩) (hsessions.named a he ha)
    exact ⟨hs.receive hsessions.distinct (hsessions.hashed a he) hn hclock, Iff.rfl⟩
  | read now => exact ⟨hs.read hclock, hs.follows_read hsessions.distinct hclock⟩

/-! One session, announced at 0 s and again at 200 s, or withdrawn at 10 s. -/

def description : Text := "v=0\r\no=- 7 1 IN IP4 10.0.0.1\r\ns=A\r\n".toList

/-- The session's announcement, received at a time in seconds. -/
def announcement (seconds : ℤ) : SAPAnnouncement where
  sessionDescription := description
  sourceAddress := "10.0.0.1".toList
  sessionName := "A".toList
  lastSeen := seconds * 10 ^ 9
  msgIdHash := 7
  originatingSource := 0x0A000001

def deletion (seconds : ℤ) : SAPAnnouncement where
  lastSeen := seconds * 10 ^ 9
  isDeletion := true
  msgIdHash := 7
  originatingSource := 0x0A000001

def theKey : Key := (7, 0x0A000001)

/-- The one identity there is. -/
def theIdentity (_ : Key) : Text := "o:- 7 10.0.0.1".toList

theorem sessions_of_one {events : List Event}
    (h : ∀ a, .receive a ∈ events → ∃ seconds, a = announcement seconds ∨ a = deletion seconds) :
    Sessions theIdentity events where
  hashed a ha := by
    have hhash : (7 : UInt16) ≠ 0 := by decide
    obtain ⟨seconds, rfl | rfl⟩ := h a ha <;> exact hhash
  named a ha hannounces := by
    have hidentity : identityOf description [] 0 = theIdentity theKey := by decide
    obtain ⟨seconds, rfl | rfl⟩ := h a ha
    · exact hidentity
    · exact absurd rfl hannounces.1
  distinct := by
    rintro k ⟨a, ha, hannounces, rfl⟩ k' ⟨b, hb, hannounces', rfl⟩ -
    obtain ⟨seconds, rfl | rfl⟩ := h a ha
    · obtain ⟨seconds', rfl | rfl⟩ := h b hb <;> rfl
    · exact absurd rfl hannounces.1

/-- The bridge when the session has been announced at 0 s. -/
def announced : Bridge := step { clock := 0 } (.receive (announcement 0))

theorem heard_announced (k : Key) :
    announced.heard k = if k = theKey then some ⟨0, 0, false⟩ else none := by
  by_cases hkey : k = theKey
  · rw [if_pos hkey, hkey]
    decide
  · rw [if_neg hkey]
    exact hearing_other (s := { clock := 0 }) (a := announcement 0) hkey

theorem one_follows : Along step (Follows theIdentity) { clock := 0 }
    [.receive (announcement 0), .read (100 * 10 ^ 9)] := by
  refine (follows_sap_iff theIdentity 0 _ (sessions_of_one fun a ha => ?_) (by decide)).mpr
    ⟨trivial, fun k h hk => ?_, trivial⟩
  · exact ⟨0, .inl (by simpa using ha)⟩
  · rw [← announced, heard_announced] at hk
    split_ifs at hk
    cases hk
    decide

/-- **A session that keeps repeating itself disappears, and one that is withdrawn stays.** -/
theorem one_strays :
    (Sessions theIdentity [.receive (announcement 0), .receive (announcement 200),
        .read (301 * 10 ^ 9)] ∧
      ¬ Along step (Follows theIdentity) { clock := 0 }
        [.receive (announcement 0), .receive (announcement 200), .read (301 * 10 ^ 9)]) ∧
    (Sessions theIdentity [.receive (announcement 0), .receive (deletion 10), .read (20 * 10 ^ 9)] ∧
      ¬ Along step (Follows theIdentity) { clock := 0 }
        [.receive (announcement 0), .receive (deletion 10), .read (20 * 10 ^ 9)]) := by
  refine ⟨⟨sessions_of_one fun a ha => ?_, fun h => ?_⟩,
    ⟨sessions_of_one fun a ha => ?_, fun h => ?_⟩⟩
  · simp only [List.mem_cons, Event.receive.injEq, List.not_mem_nil, reduceCtorEq, or_false] at ha
    rcases ha with rfl | rfl
    · exact ⟨0, .inl rfl⟩
    · exact ⟨200, .inl rfl⟩
  · have hheard : (announced.step (.receive (announcement 200))).heard theKey =
        some ⟨0, 200 * 10 ^ 9, false⟩ := by decide
    have hgone : theIdentity theKey ∉ ((announced.step
        (.receive (announcement 200))).directory.sessions (301 * 10 ^ 9)).identities := by
      decide
    exact hgone ((h.2.2.1 _).mpr ⟨theKey, ⟨_, hheard, rfl, by decide⟩, rfl⟩)
  · simp only [List.mem_cons, Event.receive.injEq, List.not_mem_nil, reduceCtorEq, or_false] at ha
    rcases ha with rfl | rfl
    · exact ⟨0, .inl rfl⟩
    · exact ⟨10, .inr rfl⟩
  · have hthere : theIdentity theKey ∈ ((announced.step
        (.receive (deletion 10))).directory.sessions (20 * 10 ^ 9)).identities := by
      decide
    obtain ⟨k, ⟨heard, hk, hlive, -⟩, -⟩ := (h.2.2.1 _).mp hthere
    have hdeleted : (announced.step (.receive (deletion 10))).heard theKey = some ⟨0, 0, true⟩ := by
      decide
    by_cases hkey : k = theKey
    · cases (hkey ▸ hdeleted).symm.trans hk
      cases hlive
    · have hnone : (announced.step (.receive (deletion 10))).heard k = none :=
        (hearing_other hkey).trans ((heard_announced k).trans (if_neg hkey))
      cases hnone.symm.trans hk

end Bridge

end Aes67.Discovery
