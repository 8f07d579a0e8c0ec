import Aes67.Lib.Text
import Aes67.Ravenna.DnsSd

/-!
# The SAP announcer

The model of `SAPAnnouncer`: what each refresh of its thread sends, and what it remembers. A body
is its bytes. The thread runs between `start` and `stop`, while the socket is open, so `sendPacket`
always sends; the order of an `unordered_map` is the order of insertion, which no result looks at.

* `hashSdp`, `buildPacket`: the packet of a session;
* `Announced`: the bodies announced and their hashes, no body twice;
* `SAPAnnouncer.refreshAndAnnounce`: one refresh, with the datagrams it sends;
* **`withdraws_announced`**: in any history of refreshes a body that was announced and is no longer
  current is withdrawn once in each group, with the hash it was announced with; no other is.
-/

namespace Aes67

open Ravenna.DnsSd (Octets octets put16)

/-- `kSapGroups`. -/
def kSapGroups : List Text := ["224.2.127.254".toList, "239.255.255.255".toList]

/-- FNV-1a folded to sixteen bits. -/
def hashSdp (sdp : Octets) : UInt16 :=
  let h : UInt32 := sdp.foldl (fun h c => (h ^^^ c.toUInt32) * 16777619) 2166136261
  ((h >>> 16) ^^^ (h &&& 0xFFFF)).toUInt16

/-- The four bytes an address in network byte order has in memory, of a little-endian machine. -/
def addressBytes (source : UInt32) : Octets :=
  [source.toUInt8, (source >>> 8).toUInt8, (source >>> 16).toUInt8, (source >>> 24).toUInt8]

/-- `kPayloadType`, with the NUL that ends it. -/
def kPayloadType : Octets := octets "application/sdp" ++ [0]

/-- `SAPAnnouncer::buildPacket`. -/
def buildPacket (sdp : Octets) (msgIdHash : UInt16) (originatingSource : UInt32)
    (deletion : Bool) : Octets :=
  let b0 : UInt8 := ((1 : UInt8) <<< 5) ||| (if deletion then (1 : UInt8) <<< 2 else 0)
  [b0, 0] ++ put16 msgIdHash ++ addressBytes originatingSource ++ kPayloadType ++ sdp

/-- What `announced_` holds: the bodies and the hashes they were announced with. -/
structure Announced where
  entries : List (Octets × UInt16) := []
  distinct : (entries.map Prod.fst).Nodup := by simp

namespace Announced

def bodies (a : Announced) : List Octets := a.entries.map Prod.fst

def find? (a : Announced) (sdp : Octets) : Option UInt16 :=
  (a.entries.find? (·.1 == sdp)).map Prod.snd

/-- `emplace`: a body that is there keeps its hash. -/
def emplace (a : Announced) (sdp : Octets) (hash : UInt16) : Announced :=
  if h : sdp ∈ a.bodies then a
  else
    { entries := a.entries ++ [(sdp, hash)]
      distinct := by
        rw [List.map_append, List.map_singleton]
        exact a.distinct.append (List.nodup_singleton _) (by simpa [bodies] using h) }

end Announced

/-- A packet on its way to a group. -/
structure Datagram where
  group : Text
  packet : Octets
  deriving DecidableEq

structure SAPAnnouncer where
  originatingSource : UInt32 := 0
  announced : Announced := {}

namespace SAPAnnouncer

def sendPacket (a : SAPAnnouncer) (sdp : Octets) (msgIdHash : UInt16) (deletion : Bool) :
    List Datagram :=
  kSapGroups.map fun group => ⟨group, buildPacket sdp msgIdHash a.originatingSource deletion⟩

/-- One body of a snapshot, under the hash it had before or else its own. -/
def keep (a : SAPAnnouncer) (present : Announced) (sdp : Octets) : Announced :=
  if sdp = [] then present
  else present.emplace sdp ((a.announced.find? sdp).getD (hashSdp sdp))

def stillPresent (a : SAPAnnouncer) (current : List Octets) : Announced :=
  current.foldl a.keep {}

/-- `refreshAndAnnounce` with what the provider gives, and the datagrams it sends. -/
def refreshAndAnnounce (a : SAPAnnouncer) (current : List Octets) :
    SAPAnnouncer × List Datagram :=
  let present := a.stillPresent current
  let deletions := (a.announced.entries.filter (·.1 ∉ present.bodies)).flatMap
    fun kv => a.sendPacket kv.1 kv.2 true
  let announcements := present.entries.flatMap fun kv => a.sendPacket kv.1 kv.2 false
  ({ a with announced := present }, deletions ++ announcements)

/-- The announcer of a source, with nothing announced. -/
def start (source : UInt32) : SAPAnnouncer := { originatingSource := source }

/-- The announcer after these refreshes. -/
def after (source : UInt32) (history : List (List Octets)) : SAPAnnouncer :=
  history.foldl (fun a current => (a.refreshAndAnnounce current).1) (start source)

/-- All that these refreshes send. -/
def sent (a : SAPAnnouncer) : List (List Octets) → List Datagram
  | [] => []
  | current :: history =>
    (a.refreshAndAnnounce current).2 ++ (a.refreshAndAnnounce current).1.sent history

end SAPAnnouncer

/-! ## What a packet says -/

namespace Datagram

def isDeletion (d : Datagram) : Bool := (d.packet.getD 0 0) &&& 4 ≠ 0

def msgIdHash (d : Datagram) : Octets := (d.packet.drop 2).take 2

def body (d : Datagram) : Octets := d.packet.drop 24

/-- It withdraws a body in a group, or announces it there. -/
def concerns (group : Text) (sdp : Octets) (deletion : Bool) (d : Datagram) : Bool :=
  d.group = group ∧ d.body = sdp ∧ d.isDeletion = deletion

end Datagram

variable {sdp body : Octets} {msgIdHash : UInt16} {source : UInt32} {deletion : Bool}
  {group : Text}

@[simp]
theorem body_buildPacket :
    (Datagram.mk group (buildPacket sdp msgIdHash source deletion)).body = sdp := rfl

@[simp]
theorem isDeletion_buildPacket :
    (Datagram.mk group (buildPacket sdp msgIdHash source deletion)).isDeletion = deletion := by
  cases deletion <;> simp [Datagram.isDeletion, buildPacket] <;> decide

@[simp]
theorem msgIdHash_buildPacket :
    (Datagram.mk group (buildPacket sdp msgIdHash source deletion)).msgIdHash =
      put16 msgIdHash := rfl

theorem nodup_kSapGroups : kSapGroups.Nodup := by decide

/-! ## The announced bodies -/

namespace Announced

variable {a : Announced} {hash : UInt16}

theorem mem_of_find? (h : a.find? sdp = some hash) : (sdp, hash) ∈ a.entries := by
  obtain ⟨kv, hkv, rfl⟩ := Option.map_eq_some_iff.mp h
  have hkey : kv.1 = sdp := by simpa using List.find?_some hkv
  rw [← hkey]
  exact List.mem_of_find?_eq_some hkv

theorem mem_bodies_emplace : body ∈ (a.emplace sdp hash).bodies ↔ body ∈ a.bodies ∨ body = sdp := by
  unfold emplace
  split_ifs with h
  · exact ⟨.inl, fun hb => hb.elim id fun he => he ▸ h⟩
  · simp [bodies]

theorem mem_entries_emplace {kv : Octets × UInt16} (h : kv ∈ (a.emplace sdp hash).entries) :
    kv ∈ a.entries ∨ kv = (sdp, hash) := by
  unfold emplace at h
  split_ifs at h
  · exact .inl h
  · simpa using h

/-- Every body goes by its own hash, and none is empty. -/
def Hashed (a : Announced) : Prop := ∀ kv ∈ a.entries, kv.2 = hashSdp kv.1 ∧ kv.1 ≠ []

theorem hashed_empty : Hashed {} := fun _ h => absurd h List.not_mem_nil

theorem Hashed.emplace (h : a.Hashed) (hh : hash = hashSdp sdp) (hs : sdp ≠ []) :
    (a.emplace sdp hash).Hashed := by
  intro kv hkv
  rcases mem_entries_emplace hkv with hkv | rfl
  · exact h kv hkv
  · exact ⟨hh, hs⟩

theorem Hashed.ne_nil (h : a.Hashed) (hs : sdp ∈ a.bodies) : sdp ≠ [] := by
  obtain ⟨kv, hkv, rfl⟩ := List.mem_map.mp hs
  exact (h kv hkv).2

end Announced

namespace SAPAnnouncer

variable {a : SAPAnnouncer} {current : List Octets} {history : List (List Octets)} {d : Datagram}

theorem Hashed.keep {present : Announced} (h : a.announced.Hashed) (hp : present.Hashed)
    (sdp : Octets) : (a.keep present sdp).Hashed := by
  unfold SAPAnnouncer.keep
  split_ifs with hs
  · exact hp
  · refine hp.emplace ?_ hs
    cases hf : a.announced.find? sdp with
    | none => rfl
    | some hash => exact (h _ (Announced.mem_of_find? hf)).1

theorem mem_bodies_keep {present : Announced} :
    body ∈ (a.keep present sdp).bodies ↔ body ∈ present.bodies ∨ body = sdp ∧ body ≠ [] := by
  unfold keep
  split_ifs with hs
  · subst hs
    tauto
  · rw [Announced.mem_bodies_emplace]
    constructor
    · rintro (hb | rfl)
      · exact .inl hb
      · exact .inr ⟨rfl, hs⟩
    · exact fun hb => hb.imp_right And.left

theorem foldl_keep {present : Announced} (h : a.announced.Hashed) (hp : present.Hashed) :
    (current.foldl a.keep present).Hashed ∧ ∀ sdp,
      sdp ∈ (current.foldl a.keep present).bodies ↔
        sdp ∈ present.bodies ∨ sdp ∈ current ∧ sdp ≠ [] := by
  induction current generalizing present with
  | nil => exact ⟨hp, fun sdp => by simp⟩
  | cons first current ih =>
    obtain ⟨h1, h2⟩ := ih (Hashed.keep h hp first)
    refine ⟨h1, fun sdp => (h2 sdp).trans ?_⟩
    rw [mem_bodies_keep, List.mem_cons, or_and_right, or_assoc]

/-- **What is current**: the bodies of the snapshot that are not empty, by their own hashes. -/
theorem stillPresent_spec (h : a.announced.Hashed) (current : List Octets) :
    (a.stillPresent current).Hashed ∧
      ∀ sdp, sdp ∈ (a.stillPresent current).bodies ↔ sdp ∈ current ∧ sdp ≠ [] := by
  obtain ⟨h1, h2⟩ := foldl_keep h Announced.hashed_empty
  exact ⟨h1, fun sdp => (h2 sdp).trans (by simp [Announced.bodies])⟩

theorem originatingSource_after : (after source history).originatingSource = source := by
  have key (a : SAPAnnouncer) : (history.foldl
      (fun a current => (a.refreshAndAnnounce current).1) a).originatingSource =
        a.originatingSource := by
    induction history generalizing a with
    | nil => rfl
    | cons current history ih => exact (ih _).trans rfl
  exact key _

theorem after_concat : after source (history ++ [current]) =
    ((after source history).refreshAndAnnounce current).1 :=
  List.foldl_concat ..

theorem hashed_after : (after source history).announced.Hashed := by
  induction history using List.reverseRecOn with
  | nil => exact Announced.hashed_empty
  | append_singleton history current ih =>
    rw [after_concat]
    exact (stillPresent_spec ih current).1

/-! ## The datagrams -/

theorem concerns_buildPacket {g : Text} {withdraws : Bool} :
    Datagram.concerns group sdp deletion ⟨g, buildPacket body msgIdHash source withdraws⟩ =
      decide (g = group ∧ body = sdp ∧ withdraws = deletion) := by
  rw [Datagram.concerns, body_buildPacket, isDeletion_buildPacket]

theorem filter_sendPacket (hg : group ∈ kSapGroups) (withdraws : Bool) :
    (a.sendPacket body msgIdHash withdraws).filter (Datagram.concerns group sdp deletion) =
      if body = sdp ∧ withdraws = deletion then
        [⟨group, buildPacket sdp msgIdHash a.originatingSource deletion⟩] else [] := by
  have hcomp : Datagram.concerns group sdp deletion ∘
      (fun g => ⟨g, buildPacket body msgIdHash a.originatingSource withdraws⟩) =
      fun g => decide (g = group ∧ body = sdp ∧ withdraws = deletion) := by
    funext g
    exact concerns_buildPacket
  rw [sendPacket, List.filter_map, hcomp]
  split_ifs with h
  · obtain ⟨rfl, rfl⟩ := h
    simp only [and_self, and_true]
    rw [List.filter_eq, List.count_eq_one_of_mem nodup_kSapGroups hg]
    rfl
  · simp [h]

/-- Where no two entries have one body, one entry at most speaks of it. -/
theorem filter_flatMap_sendPacket {l : List (Octets × UInt16)} (hl : (l.map Prod.fst).Nodup)
    (hh : ∀ kv ∈ l, kv.2 = hashSdp kv.1 ∧ kv.1 ≠ []) (hg : group ∈ kSapGroups)
    (withdraws : Bool) :
    (l.flatMap fun kv => a.sendPacket kv.1 kv.2 withdraws).filter
        (Datagram.concerns group sdp deletion) =
      if sdp ∈ l.map Prod.fst ∧ withdraws = deletion then
        [⟨group, buildPacket sdp (hashSdp sdp) a.originatingSource deletion⟩] else [] := by
  induction l with
  | nil => simp
  | cons kv l ih =>
    rw [List.map_cons, List.nodup_cons] at hl
    rw [List.flatMap_cons, List.filter_append, filter_sendPacket hg,
      ih hl.2 fun kv hkv => hh kv (List.mem_cons_of_mem _ hkv), List.map_cons,
      (hh kv List.mem_cons_self).1]
    by_cases hkey : kv.1 = sdp
    · subst hkey
      simp [hl.1]
    · simp [hkey, Ne.symm hkey]

/-- A refresh withdraws in a group what it had announced and does not find current. -/
theorem filter_withdrawals (h : a.announced.Hashed) (hg : group ∈ kSapGroups)
    (current : List Octets) (sdp : Octets) :
    (a.refreshAndAnnounce current).2.filter (Datagram.concerns group sdp true) =
      if sdp ∈ a.announced.bodies ∧ sdp ∉ current then
        [⟨group, buildPacket sdp (hashSdp sdp) a.originatingSource true⟩] else [] := by
  obtain ⟨hp, hmem⟩ := stillPresent_spec h current
  have hgone : sdp ∈ (a.announced.entries.filter
      (·.1 ∉ (a.stillPresent current).bodies)).map Prod.fst ↔
      sdp ∈ a.announced.bodies ∧ sdp ∉ current := by
    have hmap : (a.announced.entries.filter (·.1 ∉ (a.stillPresent current).bodies)).map Prod.fst =
        a.announced.bodies.filter (· ∉ (a.stillPresent current).bodies) :=
      (List.filter_map (p := (· ∉ (a.stillPresent current).bodies))).symm
    rw [hmap, List.mem_filter, decide_eq_true_iff, hmem]
    refine and_congr_right fun hb => not_congr ⟨And.left, fun hc => ⟨hc, h.ne_nil hb⟩⟩
  rw [refreshAndAnnounce, List.filter_append,
    filter_flatMap_sendPacket (a.announced.distinct.sublist (List.filter_sublist.map _))
      (fun kv hkv => h kv (List.mem_of_mem_filter hkv)) hg,
    filter_flatMap_sendPacket (a.stillPresent current).distinct hp hg]
  simp only [hgone, and_true, Bool.false_eq_true, and_false, if_false, List.append_nil]

/-- A refresh announces in a group what it finds current. -/
theorem filter_announcements (h : a.announced.Hashed) (hg : group ∈ kSapGroups)
    (current : List Octets) (sdp : Octets) :
    (a.refreshAndAnnounce current).2.filter (Datagram.concerns group sdp false) =
      if sdp ∈ current ∧ sdp ≠ [] then
        [⟨group, buildPacket sdp (hashSdp sdp) a.originatingSource false⟩] else [] := by
  obtain ⟨hp, hmem⟩ := stillPresent_spec h current
  have hthere : sdp ∈ (a.stillPresent current).entries.map Prod.fst ↔
      sdp ∈ current ∧ sdp ≠ [] := hmem sdp
  rw [refreshAndAnnounce, List.filter_append,
    filter_flatMap_sendPacket (a.announced.distinct.sublist (List.filter_sublist.map _))
      (fun kv hkv => h kv (List.mem_of_mem_filter hkv)) hg,
    filter_flatMap_sendPacket (a.stillPresent current).distinct hp hg]
  simp only [hthere, and_true, Bool.true_eq_false, and_false, if_false, List.nil_append]

theorem mem_sendPacket {h : UInt16} {withdraws : Bool} (hd : d ∈ a.sendPacket body h withdraws) :
    d.body = body ∧ d.msgIdHash = put16 h := by
  obtain ⟨g, -, rfl⟩ := List.mem_map.mp hd
  exact ⟨body_buildPacket, msgIdHash_buildPacket⟩

/-- What goes out carries the hash of its body. -/
theorem msgIdHash_of_mem (h : a.announced.Hashed) (hd : d ∈ (a.refreshAndAnnounce current).2) :
    d.msgIdHash = put16 (hashSdp d.body) := by
  have hsent : ∀ kv : Octets × UInt16, kv.2 = hashSdp kv.1 → ∀ withdraws,
      d ∈ a.sendPacket kv.1 kv.2 withdraws → d.msgIdHash = put16 (hashSdp d.body) := by
    intro kv hkv withdraws hd
    obtain ⟨hbody, hhash⟩ := mem_sendPacket hd
    rw [hhash, hbody, hkv]
  rcases List.mem_append.mp hd with hd | hd
  · obtain ⟨kv, hkv, hd⟩ := List.mem_flatMap.mp hd
    exact hsent kv (h kv (List.mem_of_mem_filter hkv)).1 _ hd
  · obtain ⟨kv, hkv, hd⟩ := List.mem_flatMap.mp hd
    exact hsent kv ((stillPresent_spec h current).1 kv hkv).1 _ hd

theorem msgIdHash_of_sent (h : a.announced.Hashed) (hd : d ∈ a.sent history) :
    d.msgIdHash = put16 (hashSdp d.body) := by
  induction history generalizing a with
  | nil => exact absurd hd List.not_mem_nil
  | cons current history ih =>
    rcases List.mem_append.mp hd with hd | hd
    · exact msgIdHash_of_mem h hd
    · exact ih (stillPresent_spec h current).1 hd

/-- **Withdrawal of what was announced**: after each refresh what is announced is what is current;
in it a body announced until then is withdrawn in a group, once, if it is not current any more, and
otherwise not; what is current is announced again; and all that was ever sent of a body carries one
hash. -/
theorem withdraws_announced (source : UInt32) (history : List (List Octets))
    (current : List Octets) :
    (∀ sdp, sdp ∈ (after source (history ++ [current])).announced.bodies ↔
      sdp ∈ current ∧ sdp ≠ []) ∧
    (∀ group ∈ kSapGroups, ∀ sdp,
      ((after source history).refreshAndAnnounce current).2.filter
          (Datagram.concerns group sdp true) =
        (if sdp ∈ (after source history).announced.bodies ∧ sdp ∉ current then
          [⟨group, buildPacket sdp (hashSdp sdp) source true⟩] else []) ∧
      ((after source history).refreshAndAnnounce current).2.filter
          (Datagram.concerns group sdp false) =
        (if sdp ∈ current ∧ sdp ≠ [] then
          [⟨group, buildPacket sdp (hashSdp sdp) source false⟩] else [])) ∧
    ∀ d ∈ (start source).sent (history ++ [current]), d.msgIdHash = put16 (hashSdp d.body) := by
  have h : (after source history).announced.Hashed := hashed_after
  refine ⟨fun sdp => ?_, fun group hg sdp => ⟨?_, ?_⟩, fun d hd => ?_⟩
  · rw [after_concat]
    exact (stillPresent_spec h current).2 sdp
  · rw [filter_withdrawals h hg, originatingSource_after]
  · rw [filter_announcements h hg, originatingSource_after]
  · exact msgIdHash_of_sent Announced.hashed_empty hd

end SAPAnnouncer

end Aes67
