import Mathlib
import Aes67.Lib.Text

/-!
# The session directory

The model of `SessionDirectory`: the one list of the sessions on the network, keyed by their own
identity, whichever way they were found. Times are nanoseconds of the steady clock.

* `identityOf`: the identity of a session, out of the `o=` line of its description;
* `SessionDirectory.offer`, `sessions`, `forget`: the operations, which keep the identities
  distinct;
* `SessionDirectory.seen`: when the session of an identity was last offered, and what each
  operation does to it: **`seen_offer`**, **`seen_sessions`**.
-/

namespace Aes67

/-- How a session reached the directory. -/
inductive DiscoverySource
  | SAP
  | RTSP
  | NMOS
  deriving DecidableEq

structure DiscoveredSessionEntry where
  identity : Text := []
  sessionName : Text := []
  sourceAddress : Text := []
  multicastAddress : Text := []
  port : ℤ := 0
  ptpDomain : ℤ := 0
  sessionDescription : Text := []
  sources : List DiscoverySource := []
  lastSeen : ℤ := 0
  deriving DecidableEq

/-- The `o=` line's fields, or nothing when there is no such line. -/
def originFields (sdp : Text) : List Text :=
  let lines := (getlines '\n' sdp).map fun line =>
    if line.getLast? = some '\r' then line.dropLast else line
  match lines.find? ("o=".toList.isPrefixOf ·) with
  | some line => fields (line.drop 2)
  | none => []

/-- `SessionDirectory::identityOf`: everything of the `o=` line but the version, or else the
destination. -/
def identityOf (sdp multicastAddress : Text) (port : ℤ) : Text :=
  match originFields sdp with
  | user :: id :: _ :: _ :: _ :: address :: _ =>
    "o:".toList ++ user ++ " ".toList ++ id ++ " ".toList ++ address
  | _ => "c:".toList ++ multicastAddress ++ ":".toList ++ showInt port

/-- `SessionDirectory::kSessionTimeout`, 300 s. -/
def kSessionTimeout : ℤ := 300 * 10 ^ 9

namespace DiscoveredSessionEntry

/-- A sighting of a session that is there already. -/
def refresh (existing entry : DiscoveredSessionEntry) (now : ℤ) : DiscoveredSessionEntry where
  identity := existing.identity
  sessionName := if entry.sessionName ≠ [] then entry.sessionName else existing.sessionName
  sourceAddress :=
    if entry.sourceAddress ≠ [] then entry.sourceAddress else existing.sourceAddress
  multicastAddress :=
    if entry.multicastAddress ≠ [] then entry.multicastAddress else existing.multicastAddress
  port := if entry.port ≠ 0 then entry.port else existing.port
  ptpDomain := if entry.ptpDomain ≠ 0 then entry.ptpDomain else existing.ptpDomain
  sessionDescription :=
    if entry.sessionDescription ≠ [] then entry.sessionDescription
    else existing.sessionDescription
  sources := entry.sources.foldl
    (fun sources source => if source ∈ sources then sources else sources ++ [source])
    existing.sources
  lastSeen := now

/-- The entries with a sighting of the identity: the first of them refreshed, or one more. -/
def offerTo (identity : Text) (entry : DiscoveredSessionEntry) (now : ℤ) :
    List DiscoveredSessionEntry → List DiscoveredSessionEntry
  | [] => [{ entry with identity := identity, lastSeen := now }]
  | existing :: entries =>
    if existing.identity = identity then existing.refresh entry now :: entries
    else existing :: offerTo identity entry now entries

/-- When the first entry of the identity was last seen. -/
def seenIn (identity : Text) : List DiscoveredSessionEntry → Option ℤ
  | [] => none
  | e :: entries => if e.identity = identity then some e.lastSeen else seenIn identity entries

variable {identity other : Text} {entry e : DiscoveredSessionEntry} {now : ℤ}
  {entries : List DiscoveredSessionEntry}

theorem map_identity_offerTo :
    (offerTo identity entry now entries).map DiscoveredSessionEntry.identity =
      if identity ∈ entries.map DiscoveredSessionEntry.identity
      then entries.map DiscoveredSessionEntry.identity
      else entries.map DiscoveredSessionEntry.identity ++ [identity] := by
  induction entries with
  | nil => simp [offerTo]
  | cons e entries ih =>
    rw [offerTo]
    by_cases h : e.identity = identity
    · simp [h, refresh]
    · have hm : identity ∈ (e :: entries).map DiscoveredSessionEntry.identity ↔
          identity ∈ entries.map DiscoveredSessionEntry.identity := by
        rw [List.map_cons, List.mem_cons, or_iff_right (Ne.symm h)]
      rw [if_neg h, List.map_cons, ih, if_congr hm rfl rfl]
      split_ifs <;> rfl

theorem nodup_offerTo (h : (entries.map DiscoveredSessionEntry.identity).Nodup) :
    ((offerTo identity entry now entries).map DiscoveredSessionEntry.identity).Nodup := by
  rw [map_identity_offerTo]
  split_ifs with hm
  · exact h
  · rw [List.nodup_append]
    refine ⟨h, List.nodup_singleton _, fun a ha b hb => ?_⟩
    rintro rfl
    exact hm (List.mem_singleton.mp hb ▸ ha)

theorem seenIn_offerTo : seenIn other (offerTo identity entry now entries) =
    if other = identity then some now else seenIn other entries := by
  induction entries with
  | nil => simp [offerTo, seenIn, eq_comm]
  | cons e entries ih =>
    rw [offerTo]
    by_cases h : e.identity = identity
    · rw [if_pos h, seenIn, seenIn]
      simp only [refresh, h]
      by_cases ho : other = identity
      · rw [if_pos ho.symm, if_pos ho]
      · rw [if_neg (Ne.symm ho), if_neg ho, if_neg (Ne.symm ho)]
    · rw [if_neg h, seenIn, seenIn, ih]
      by_cases ho : e.identity = other
      · rw [if_pos ho, if_pos ho, if_neg (ho ▸ h)]
      · rw [if_neg ho, if_neg ho]

theorem seenIn_eq_none : seenIn identity entries = none ↔
    identity ∉ entries.map DiscoveredSessionEntry.identity := by
  induction entries with
  | nil => simp [seenIn]
  | cons e entries ih =>
    rw [seenIn, List.map_cons, List.mem_cons, not_or]
    by_cases h : e.identity = identity
    · simp [h]
    · rw [if_neg h, ih, and_iff_right (Ne.symm h)]

/-- What stays of distinct entries: the entry of the identity, if it is to stay. -/
theorem seenIn_filter (h : (entries.map DiscoveredSessionEntry.identity).Nodup)
    (keep : Text → ℤ → Bool) :
    seenIn identity (entries.filter fun e => keep e.identity e.lastSeen) =
      (seenIn identity entries).filter (keep identity) := by
  induction entries with
  | nil => rfl
  | cons e entries ih =>
    rw [List.map_cons, List.nodup_cons] at h
    rw [List.filter_cons, seenIn]
    by_cases he : e.identity = identity
    · subst he
      rw [if_pos rfl]
      cases hk : keep e.identity e.lastSeen with
      | true => simp [seenIn, Option.filter, hk]
      | false =>
        rw [if_neg (by simp), ih h.2, seenIn_eq_none.mpr h.1]
        simp [Option.filter, hk]
    · rw [if_neg he, ← ih h.2]
      split_ifs
      · rw [seenIn, if_neg he]
      · rfl

end DiscoveredSessionEntry

open DiscoveredSessionEntry

structure SessionDirectory where
  entries : List DiscoveredSessionEntry := []
  /-- `offer` looks for the identity before it adds it. -/
  distinct : (entries.map DiscoveredSessionEntry.identity).Nodup := by simp

namespace SessionDirectory

/-- The entries that are to stay. -/
def keeping (directory : SessionDirectory) (keep : Text → ℤ → Bool) : SessionDirectory where
  entries := directory.entries.filter fun e => keep e.identity e.lastSeen
  distinct := directory.distinct.sublist (List.filter_sublist.map _)

def offer (directory : SessionDirectory) (entry : DiscoveredSessionEntry) (now : ℤ) :
    SessionDirectory :=
  let identity :=
    if entry.identity = [] then
      identityOf entry.sessionDescription entry.multicastAddress entry.port
    else entry.identity
  { entries := offerTo identity entry now directory.entries
    distinct := nodup_offerTo directory.distinct }

/-- What `sessions` leaves, which is what it returns. -/
def sessions (directory : SessionDirectory) (now : ℤ) : SessionDirectory :=
  directory.keeping fun _ lastSeen => !decide (now - lastSeen > kSessionTimeout)

def forget (directory : SessionDirectory) (identity : Text) : SessionDirectory :=
  directory.keeping fun other _ => other ≠ identity

/-- When the session of the identity was last offered, if it is there. -/
def seen (directory : SessionDirectory) (identity : Text) : Option ℤ :=
  seenIn identity directory.entries

/-- The identities of the sessions listed. -/
def identities (directory : SessionDirectory) : List Text :=
  directory.entries.map DiscoveredSessionEntry.identity

variable {directory : SessionDirectory} {entry : DiscoveredSessionEntry} {now : ℤ}
  {identity other : Text}

theorem seen_offer (h : entry.identity = []) : (directory.offer entry now).seen other =
    if other = identityOf entry.sessionDescription entry.multicastAddress entry.port
    then some now else directory.seen other := by
  simp only [offer, seen, if_pos h, seenIn_offerTo]

theorem seen_sessions : (directory.sessions now).seen identity =
    (directory.seen identity).filter fun lastSeen => !decide (now - lastSeen > kSessionTimeout) :=
  seenIn_filter directory.distinct fun _ lastSeen => !decide (now - lastSeen > kSessionTimeout)

theorem mem_identities : identity ∈ directory.identities ↔ (directory.seen identity).isSome := by
  rw [Option.isSome_iff_ne_none, Ne, seen, seenIn_eq_none, not_not, identities]

end SessionDirectory

end Aes67
