import Aes67.Lib.Run
import Aes67.Discovery.SAPPackets

/-!
# The listener's table

The listener keeps one entry a session, fifty at most. Which session a packet is of is decided by a
relation that is no equivalence: an entry without a hash is of the session of any entry of its name and
source, and two with different hashes are of different sessions. A packet is matched with the first
entry of its session only.

* `getDiscoveredStreams`: the sweep; `Event`, `step`: packets and sweeps;
* `Tidy`: no more than fifty entries, no two of one session; `Tidied`: what an event is to leave;
* `Single`: no more than one entry is of the packet's session; `tidied_iff_single`: one event;
* **`along_tidied_iff`**: a run keeps the table tidy exactly where every packet meets no more than one
  entry of its session.
-/

namespace Aes67.SAPListener

open SAPAnnouncement

/-- `SAPListener::kSessionTimeout`, 300 s. -/
def kSessionTimeout : ℤ := 300 * 10 ^ 9

/-- `getDiscoveredStreams`, which returns what it leaves. -/
def getDiscoveredStreams (listener : SAPListener) (now : ℤ) : SAPListener where
  discoveredStreams :=
    listener.discoveredStreams.filter fun s => !decide (now - s.lastSeen > kSessionTimeout)

/-- What happens to the table: a packet that was read, or a sweep. -/
inductive Event
  | packet (announcement : SAPAnnouncement)
  | sweep (now : ℤ)

def step (listener : SAPListener) : Event → SAPListener
  | .packet announcement => (listener.hear announcement).1
  | .sweep now => listener.getDiscoveredStreams now

/-- No two entries are of one session. -/
def Unique (streams : List SAPAnnouncement) : Prop :=
  streams.Pairwise fun a b => sameSession a b = false

instance : DecidablePred Unique := fun streams => inferInstanceAs (Decidable (streams.Pairwise _))

structure Tidy (listener : SAPListener) : Prop where
  capped : listener.discoveredStreams.length ≤ 50
  unique : Unique listener.discoveredStreams

/-- The table is tidy after the event, and a deletion has removed the entries of its session. -/
def Tidied (listener : SAPListener) (e : Event) : Prop :=
  Tidy (listener.step e) ∧ ∀ announcement, e = .packet announcement → announcement.isDeletion = true →
    (listener.step e).discoveredStreams =
      listener.discoveredStreams.filter fun s => !sameSession s announcement

/-- The packet is of the session of one entry at most, if it says anything. -/
def Single (listener : SAPListener) : Event → Prop
  | .packet announcement =>
    announcement.sessionDescription = [] ∧ announcement.isDeletion = false ∨
      (listener.discoveredStreams.filter (sameSession · announcement)).length ≤ 1
  | .sweep _ => True

instance (listener : SAPListener) (e : Event) : Decidable (Single listener e) := by
  cases e <;> unfold Single <;> infer_instance

variable {listener : SAPListener} {announcement a b : SAPAnnouncement}
  {streams : List SAPAnnouncement}

theorem sameSession_comm (a b : SAPAnnouncement) : sameSession a b = sameSession b a := by
  have hname : (decide (a.sessionName ≠ []) && a.sessionName == b.sessionName) =
      (decide (b.sessionName ≠ []) && b.sessionName == a.sessionName) := by
    by_cases h : a.sessionName = b.sessionName
    · rw [h]
    · rw [beq_false_of_ne h, beq_false_of_ne (Ne.symm h), Bool.and_false, Bool.and_false]
  unfold sameSession
  rw [hname, Bool.and_comm (decide (a.msgIdHash ≠ 0)), BEq.comm (a := a.msgIdHash),
    BEq.comm (a := a.originatingSource), BEq.comm (a := a.sourceAddress)]

/-! ## One packet -/

theorem Unique.sublist {streams' : List SAPAnnouncement} (h : Unique streams)
    (hs : List.Sublist streams' streams) : Unique streams' :=
  List.Pairwise.sublist hs h

theorem length_dropOldest_le (h : streams.length ≤ 51) : (dropOldest streams).length ≤ 50 := by
  unfold dropOldest
  split
  next oldest ho =>
    have hlt := List.lt_length_of_minIdxOn?_eq_some ho
    rw [List.length_eraseIdx_of_lt hlt]
    omega
  next hnone =>
    cases streams with
    | nil => exact Nat.zero_le _
    | cons s streams =>
      have hsome := List.isSome_minIdxOn?_of_mem (f := SAPAnnouncement.lastSeen)
        (List.mem_cons_self (a := s) (l := streams))
      rw [hnone] at hsome
      cases hsome

/-- Removing the first entry of a session removes them all exactly where it is the only one. -/
theorem eraseP_eq_filter_iff (p : SAPAnnouncement → Bool) (streams : List SAPAnnouncement) :
    streams.eraseP p = streams.filter (fun s => !p s) ↔ (streams.filter p).length ≤ 1 := by
  induction streams with
  | nil => simp
  | cons s streams ih =>
    by_cases hs : p s = true
    · rw [List.eraseP_cons_of_pos hs, List.filter_cons_of_neg (by simp [hs]),
        List.filter_cons_of_pos hs, List.length_cons, eq_comm, List.filter_eq_self]
      simp
    · rw [List.eraseP_cons_of_neg hs, List.filter_cons_of_pos (by simp [hs]),
        List.filter_cons_of_neg hs, List.cons_inj_right, ih]

/-- The entry that takes the place of the first of its session. -/
def refreshed (announcement : SAPAnnouncement) (streams : List SAPAnnouncement) :
    List SAPAnnouncement :=
  streams.replaceF fun s => if sameSession s announcement then some announcement else none

theorem length_refreshed : (refreshed announcement streams).length = streams.length := by
  induction streams with
  | nil => rfl
  | cons s streams ih =>
    rw [refreshed, List.replaceF_cons]
    split_ifs
    · rfl
    · rw [List.length_cons, List.length_cons, ← ih]
      rfl

/-- **A refreshed table is without duplicates exactly where one entry was of the session.** -/
theorem unique_refreshed_iff (h : Unique streams)
    (hm : ∃ s ∈ streams, sameSession s announcement = true) :
    Unique (refreshed announcement streams) ↔
      (streams.filter (sameSession · announcement)).length ≤ 1 := by
  induction streams with
  | nil => simp at hm
  | cons s streams ih =>
    obtain ⟨hhead, htail⟩ := List.pairwise_cons.mp h
    rw [refreshed, List.replaceF_cons]
    by_cases hs : sameSession s announcement = true
    · rw [if_pos hs, List.filter_cons_of_pos (p := (sameSession · announcement)) hs, List.length_cons]
      dsimp only
      have hnone : (streams.filter (sameSession · announcement)).length + 1 ≤ 1 ↔
          ∀ t ∈ streams, sameSession announcement t = false := by
        rw [← Nat.le_sub_iff_add_le (le_refl 1), Nat.sub_self, Nat.le_zero, List.length_eq_zero_iff,
          List.filter_eq_nil_iff]
        simp only [sameSession_comm _ announcement, Bool.not_eq_true]
      rw [hnone]
      exact ⟨fun hu => (List.pairwise_cons.mp hu).1, fun hall => List.pairwise_cons.mpr ⟨hall, htail⟩⟩
    · rw [if_neg hs, List.filter_cons_of_neg (p := (sameSession · announcement)) hs]
      dsimp only
      have hm' : ∃ t ∈ streams, sameSession t announcement = true := by
        obtain ⟨t, ht, hsame⟩ := hm
        rcases List.mem_cons.mp ht with rfl | ht
        · exact absurd hsame hs
        · exact ⟨t, ht, hsame⟩
      rw [← ih htail hm']
      -- What is put in is no duplicate of an entry before it: that entry would have been found.
      have hfirst : ∀ t ∈ refreshed announcement streams, sameSession s t = false := by
        intro t ht
        rcases mem_replaceF ht with ht | ⟨t', -, hf⟩
        · exact hhead t ht
        · split_ifs at hf
          cases hf
          exact eq_false_of_ne_true hs
      exact ⟨fun hu => (List.pairwise_cons.mp hu).2, fun hu => List.pairwise_cons.mpr ⟨hfirst, hu⟩⟩

/-- **One event leaves the table tidy exactly where its packet meets one entry of its session at
most.** -/
theorem tidied_iff_single (h : Tidy listener) (e : Event) : Tidied listener e ↔ Single listener e := by
  cases e with
  | sweep now =>
    refine iff_of_true ⟨⟨?_, ?_⟩, fun _ he => by cases he⟩ trivial
    · exact (List.length_filter_le _ _).trans h.capped
    · exact h.unique.sublist List.filter_sublist
  | packet announcement =>
    have hdeletes : (∀ a, Event.packet announcement = .packet a → a.isDeletion = true →
          (listener.step (.packet announcement)).discoveredStreams =
            listener.discoveredStreams.filter fun s => !sameSession s a) ↔
        (announcement.isDeletion = true → (listener.hear announcement).1.discoveredStreams =
          listener.discoveredStreams.filter fun s => !sameSession s announcement) :=
      ⟨fun hd => hd announcement rfl, fun hd a ha => by cases ha; exact hd⟩
    rw [Tidied, hdeletes, Single]
    change Tidy (listener.hear announcement).1 ∧ _ ↔ _
    unfold hear
    dsimp only
    by_cases hsilent : announcement.sessionDescription = [] ∧ announcement.isDeletion = false
    · rw [if_pos hsilent, hsilent.2]
      exact iff_of_true ⟨h, fun hd => absurd hd Bool.false_ne_true⟩ (.inl ⟨hsilent.1, rfl⟩)
    rw [if_neg hsilent, or_iff_right hsilent]
    by_cases hdeletion : announcement.isDeletion = true
    · rw [if_pos hdeletion, ← eraseP_eq_filter_iff]
      have hsub := List.eraseP_sublist (p := (sameSession · announcement)) (l := listener.discoveredStreams)
      exact ⟨fun ht => ht.2 hdeletion,
        fun he => ⟨⟨hsub.length_le.trans h.capped, h.unique.sublist hsub⟩, fun _ => he⟩⟩
    rw [if_neg hdeletion]
    have hnot : ∀ {P : Prop}, announcement.isDeletion = true → P := fun hd => absurd hd hdeletion
    by_cases hholds : listener.holds announcement = true
    · rw [if_pos hholds]
      have hm : ∃ s ∈ listener.discoveredStreams, sameSession s announcement = true :=
        List.any_eq_true.mp hholds
      rw [← unique_refreshed_iff h.unique hm]
      exact ⟨fun ht => ht.1.unique, fun hu => ⟨⟨length_refreshed.trans_le h.capped, hu⟩, hnot⟩⟩
    · rw [if_neg hholds]
      have hnone : ∀ s ∈ listener.discoveredStreams, ¬ sameSession s announcement = true := by
        intro s hs hsame
        exact hholds (List.any_eq_true.mpr ⟨s, hs, hsame⟩)
      have hfilter : listener.discoveredStreams.filter (sameSession · announcement) = [] :=
        List.filter_eq_nil_iff.mpr hnone
      have hadded : Unique (listener.discoveredStreams ++ [announcement]) := by
        refine List.pairwise_append.mpr ⟨h.unique, List.pairwise_singleton _ _, fun s hs t ht => ?_⟩
        rw [List.mem_singleton.mp ht]
        exact eq_false_of_ne_true (hnone s hs)
      have hlength : (listener.discoveredStreams ++ [announcement]).length ≤ 51 := by
        have hcapped := h.capped
        rw [List.length_append, List.length_singleton]
        omega
      refine iff_of_true ⟨?_, hnot⟩ (by rw [hfilter]; exact Nat.zero_le 1)
      dsimp only
      split_ifs with hfull
      · exact ⟨length_dropOldest_le hlength, hadded.sublist (dropOldest_sublist _)⟩
      · exact ⟨not_lt.mp hfull, hadded⟩

/-! ## Runs -/

/-- **The table is kept tidy exactly where every packet meets one entry of its session at most**, in
every run from an empty table. -/
theorem along_tidied_iff (events : List Event) :
    Along step Tidied {} events ↔ Along step Single {} events := by
  have hempty : Tidy {} := ⟨Nat.zero_le _, List.Pairwise.nil⟩
  constructor
  · exact along_of_along (fun s e _ hs hd => ⟨hd.1, (tidied_iff_single hs e).mp hd⟩) hempty
  · refine along_of_along (fun s e _ hs hc => ?_) hempty
    have hd := (tidied_iff_single hs e).mpr hc
    exact ⟨hd.1, hd⟩

/-- A datagram that announces a session, with a hash or without, from one host. -/
def announcing (hash : UInt8) : Event :=
  .packet (Reception.read
    { datagram := [0x20, 0, 0, hash, 10, 0, 0, 1] ++ Ravenna.DnsSd.octets "v=0\r\ns=A\r\n"
      sourceAddress := "10.0.0.1".toList
      now := 0 })

/-- **One session twice**: after two sessions of a name, one without a hash takes the place of the
first and is of the session of the second. -/
theorem not_tidied_wildcard : ¬ Along step Tidied {} [announcing 1, announcing 2, announcing 0] := by
  have htwice : ¬ Unique ([announcing 1, announcing 2, announcing 0].foldl step {}).discoveredStreams := by
    decide
  exact fun h => htwice h.2.2.1.1.unique

end Aes67.SAPListener
