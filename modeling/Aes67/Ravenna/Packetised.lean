import Mathlib
import Aes67.Ravenna.DnsRecords
import Aes67.Ravenna.DnsRoundTrip
import Aes67.Ravenna.RegistryBrowser

/-!
# An advertisement in several packets

The records that make up a service may come in several packets. One packet's records are gathered by
owner and attached to the instances that its own PTRs name, and only these reach the browser's
table, where what a later packet says of an instance is filled in.

* `saidIn`: what the records of a datagram say; `recordsFor`: the four records of a service;
* `gathered`: what any of the four come to in one packet, in whatever order;
* `Spread`: the four records over any packets, with others between; `Complete`: what the records of
  one packet leave out is known already;
* **`known_iff`**: the entry is the one a single packet gives exactly when the packet with the PTR is
  complete.
-/

namespace Aes67.Ravenna

open DnsSd

variable {s old : DiscoveredService} {l : List Report} {datagram : Octets} {b : RegistryBrowser}

/-- What the records of a datagram say, those that say something. -/
def saidIn (datagram : Octets) : List Report :=
  match recordsOf (datagram.take kDatagram) kNmosRegisterService with
  | .ok records => (records.map Prod.snd).filter (· ≠ .nothing)
  | .error _ => []

theorem foldl_add_filter (g : Gathered) (l : List Report) :
    (l.filter (· ≠ .nothing)).foldl Gathered.add g = l.foldl Gathered.add g := by
  induction l generalizing g with
  | nil => rfl
  | cons r l ih =>
    by_cases h : r = .nothing
    · rw [List.filter_cons_of_neg (by simpa using h), ih, List.foldl_cons, h]
      rfl
    · rw [List.filter_cons_of_pos (by simpa using h), List.foldl_cons, List.foldl_cons, ih]

/-- **The services of a datagram are what its records come to.** -/
theorem found_eq (datagram : Octets) :
    found datagram = ((saidIn datagram).foldl Gathered.add {}).found := by
  obtain ⟨records, h, -⟩ := total_recordsOf (datagram.take kDatagram) kNmosRegisterService
  rw [found, saidIn, parseServiceResponse, h, ok_bind]
  dsimp only
  rw [foldl_add_filter, List.foldl_map]
  rfl

/-- The records of a service: its PTR, SRV, TXT and A. -/
def recordsFor (s : DiscoveredService) : List Report :=
  [.named s.instanceName, .target s.instanceName s.hostName s.port,
    .texts s.instanceName s.txtEntries, .address s.hostName s.addressV4]

theorem nodup_recordsFor : (recordsFor s).Nodup := by simp [recordsFor]

/-! ## One packet -/

/-- The SRV and TXT of the service that are among the records. -/
def partOf (s : DiscoveredService) (l : List Report) : DiscoveredService where
  instanceName := s.instanceName
  hostName := if .target s.instanceName s.hostName s.port ∈ l then s.hostName else []
  port := if .target s.instanceName s.hostName s.port ∈ l then s.port else 0
  txtEntries := if .texts s.instanceName s.txtEntries ∈ l then s.txtEntries else []

/-- What some of the four records come to, in whatever order. -/
theorem gathered (hn : l.Nodup) (hl : l ⊆ recordsFor s) : l.foldl Gathered.add {} =
    { instances := if .named s.instanceName ∈ l then [s.instanceName] else []
      byOwner := if .target s.instanceName s.hostName s.port ∈ l ∨
          .texts s.instanceName s.txtEntries ∈ l then [(s.instanceName, partOf s l)] else []
      addresses := if .address s.hostName s.addressV4 ∈ l then
          [(s.hostName, s.addressV4)] else [] } := by
  induction l using List.reverseRecOn with
  | nil => rfl
  | append_singleton l r ih =>
    have hn' := List.nodup_append.mp hn
    have hr : r ∉ l := fun hr => hn'.2.2 r hr r (List.mem_singleton_self r) rfl
    rw [List.foldl_append, ih hn'.1 fun x hx => hl (List.mem_append_left _ hx)]
    have hmem : r ∈ recordsFor s := hl (List.mem_append_right _ (List.mem_singleton_self r))
    simp only [recordsFor, List.mem_cons, List.not_mem_nil, or_false] at hmem
    rcases hmem with rfl | rfl | rfl | rfl
    · simp [Gathered.add, hr, partOf]
    · by_cases ht : Report.texts s.instanceName s.txtEntries ∈ l <;>
        simp [Gathered.add, hr, partOf, ht, owned]
    · by_cases ht : Report.target s.instanceName s.hostName s.port ∈ l <;>
        simp [Gathered.add, hr, partOf, ht, owned]
    · simp [Gathered.add, hr, partOf]

/-- The service that some of the four records make. -/
def serviceIn (s : DiscoveredService) (l : List Report) : DiscoveredService :=
  { partOf s l with
    addressV4 := if .address s.hostName s.addressV4 ∈ l ∧ s.hostName = (partOf s l).hostName then
      s.addressV4 else 0 }

theorem serviceOf_gathered (hn : l.Nodup) (hl : l ⊆ recordsFor s) :
    (l.foldl Gathered.add {}).serviceOf s.instanceName = serviceIn s l := by
  have hpart : ((((l.foldl Gathered.add {}).byOwner.find? fun e => e.1 = s.instanceName).map
      Prod.snd).getD { instanceName := s.instanceName }) = partOf s l := by
    rw [gathered hn hl]
    dsimp only
    split_ifs with ho
    · simp
    · push Not at ho
      simp [partOf, ho.1, ho.2]
  unfold Gathered.serviceOf
  rw [hpart, gathered hn hl]
  dsimp only
  unfold serviceIn
  by_cases ha : Report.address s.hostName s.addressV4 ∈ l
  · rw [if_pos ha]
    by_cases hh : s.hostName = (partOf s l).hostName
    · rw [List.find?_cons_of_pos (by simpa using hh), if_pos ⟨ha, hh⟩]
    · rw [List.find?_cons_of_neg (by simpa using hh), List.find?_nil, if_neg fun h => hh h.2]
      rfl
  · rw [if_neg ha, List.find?_nil, if_neg fun h => ha h.1]
    rfl

/-- A datagram of some of the four records is about the service if it has the PTR, and then says what
they make. -/
theorem found_of_subset (hn : (saidIn datagram).Nodup) (hl : saidIn datagram ⊆ recordsFor s) :
    found datagram =
      if .named s.instanceName ∈ saidIn datagram then [serviceIn s (saidIn datagram)] else [] := by
  have hinstances := congrArg Gathered.instances (gathered hn hl)
  dsimp only at hinstances
  rw [found_eq, Gathered.found, hinstances]
  split_ifs with hi
  · rw [List.map_singleton, serviceOf_gathered hn hl]
  · rfl

/-- A datagram without a PTR for the instance says nothing of it. -/
theorem not_mem_names (h : .named s.instanceName ∉ saidIn datagram) :
    s.instanceName ∉ (found datagram).map DiscoveredService.instanceName := by
  intro hm
  obtain ⟨service, hs, he⟩ := List.mem_map.mp hm
  rw [found_eq] at hs
  have := (sourced_found (said_all (saidIn datagram)) service hs).named
  rw [he] at this
  exact h this

theorem find_of_not_named (h : .named s.instanceName ∉ saidIn datagram) :
    (b.hear datagram).known.find? s.instanceName = b.known.find? s.instanceName := by
  rw [RegistryBrowser.hear_find, if_neg (not_mem_names h)]

theorem find_of_named (hn : (saidIn datagram).Nodup) (hl : saidIn datagram ⊆ recordsFor s)
    (h : .named s.instanceName ∈ saidIn datagram) :
    (b.hear datagram).known.find? s.instanceName =
      some (fillIn (b.held s.instanceName) (serviceIn s (saidIn datagram))) := by
  have hf := found_of_subset hn hl
  rw [if_pos h] at hf
  have hname : (serviceIn s (saidIn datagram)).instanceName = s.instanceName := rfl
  rw [RegistryBrowser.hear_find, hf, if_pos (by simp [hname]), RegistryBrowser.filledIn]
  simp [hname]

/-! ## Several -/

/-- The records of one packet leave nothing out that is not known already. -/
structure Complete (s old : DiscoveredService) (l : List Report) : Prop where
  target : .target s.instanceName s.hostName s.port ∈ l ∨
    (s.hostName = [] ∨ s.hostName = old.hostName) ∧ (s.port = 0 ∨ s.port = old.port)
  texts : .texts s.instanceName s.txtEntries ∈ l ∨ s.txtEntries = [] ∨ s.txtEntries = old.txtEntries
  address : .address s.hostName s.addressV4 ∈ l ∧
      (.target s.instanceName s.hostName s.port ∈ l ∨ s.hostName = []) ∨
    s.addressV4 = 0 ∨ s.addressV4 = old.addressV4

/-- The four records of the service, each once, over the packets marked; the others are about other
services. -/
structure Spread (s : DiscoveredService) (packets : List (Octets × Bool)) : Prop where
  own : ((packets.filter Prod.snd).flatMap fun p => saidIn p.1).Perm (recordsFor s)
  others : ∀ p ∈ packets, p.2 = false → .named s.instanceName ∉ saidIn p.1

theorem fillIn_whole : fillIn old (serviceIn s (recordsFor s)) = fillIn old s := by
  simp [serviceIn, partOf, recordsFor, fillIn]

theorem serviceIn_perm {l' : List Report} (h : l.Perm l') : serviceIn s l = serviceIn s l' := by
  simp [serviceIn, partOf, h.mem_iff]

/-- **Filling in what one packet says is filling in all of it exactly when it is complete.** -/
theorem fillIn_iff : fillIn old (serviceIn s l) = fillIn old s ↔ Complete s old l := by
  have hcomplete : Complete s old l ↔
      (.target s.instanceName s.hostName s.port ∈ l ∨
        (s.hostName = [] ∨ s.hostName = old.hostName) ∧ (s.port = 0 ∨ s.port = old.port)) ∧
      (.texts s.instanceName s.txtEntries ∈ l ∨ s.txtEntries = [] ∨
        s.txtEntries = old.txtEntries) ∧
      (.address s.hostName s.addressV4 ∈ l ∧
          (.target s.instanceName s.hostName s.port ∈ l ∨ s.hostName = []) ∨
        s.addressV4 = 0 ∨ s.addressV4 = old.addressV4) :=
    ⟨fun h => ⟨h.target, h.texts, h.address⟩, fun h => ⟨h.1, h.2.1, h.2.2⟩⟩
  rw [hcomplete]
  simp only [fillIn, serviceIn, partOf, DiscoveredService.mk.injEq, true_and]
  by_cases ht : Report.target s.instanceName s.hostName s.port ∈ l <;>
    by_cases hx : Report.texts s.instanceName s.txtEntries ∈ l <;>
      by_cases ha : Report.address s.hostName s.addressV4 ∈ l <;>
        simp only [ht, hx, ha, if_true, if_false, true_and, false_and, true_or, false_or] <;> grind

/-- **One packet has the PTR**, with some of the other records; no other packet is about the
service. -/
theorem Spread.split {packets : List (Octets × Bool)} (h : Spread s packets) :
    ∃ before q after, packets = before ++ (q, true) :: after ∧
      .named s.instanceName ∈ saidIn q ∧ (saidIn q).Nodup ∧ saidIn q ⊆ recordsFor s ∧
      ∀ p ∈ before ++ after, .named s.instanceName ∉ saidIn p.1 := by
  have hmem : Report.named s.instanceName ∈ recordsFor s := List.mem_cons_self
  obtain ⟨⟨q, own⟩, hq, hnamed⟩ := List.mem_flatMap.mp (h.own.mem_iff.mpr hmem)
  obtain ⟨hq, rfl : own = true⟩ := List.mem_filter.mp hq
  obtain ⟨before, after, rfl⟩ := List.append_of_mem hq
  have hperm := h.own
  rw [List.filter_append, List.filter_cons_of_pos rfl, List.flatMap_append,
    List.flatMap_cons] at hperm
  have hnodup := hperm.nodup_iff.mpr nodup_recordsFor
  obtain ⟨-, htail, hbefore⟩ := List.nodup_append.mp hnodup
  obtain ⟨hqn, -, hafter⟩ := List.nodup_append.mp htail
  refine ⟨before, q, after, rfl, hnamed, hqn, fun r hr => ?_, fun p hp hpn => ?_⟩
  · exact hperm.mem_iff.mp (List.mem_append_right _ (List.mem_append_left _ hr))
  · cases hown : p.2 with
    | false =>
      refine h.others p ?_ hown hpn
      rcases List.mem_append.mp hp with hp | hp
      · exact List.mem_append_left _ hp
      · exact List.mem_append_right _ (List.mem_cons_of_mem _ hp)
    | true =>
      rcases List.mem_append.mp hp with hp | hp
      · exact hbefore _ (List.mem_flatMap.mpr ⟨p, List.mem_filter.mpr ⟨hp, hown⟩, hpn⟩) _
          (List.mem_append_left _ hnamed) rfl
      · exact hafter _ hnamed _ (List.mem_flatMap.mpr ⟨p, List.mem_filter.mpr ⟨hp, hown⟩, hpn⟩) rfl

theorem find_of_none {packets : List (Octets × Bool)}
    (h : ∀ p ∈ packets, .named s.instanceName ∉ saidIn p.1) (b : RegistryBrowser) :
    (packets.foldl (fun b p => b.hear p.1) b).known.find? s.instanceName =
      b.known.find? s.instanceName := by
  induction packets generalizing b with
  | nil => rfl
  | cons p packets ih =>
    rw [List.foldl_cons, ih (fun p hp => h p (List.mem_cons_of_mem _ hp)),
      find_of_not_named (h p List.mem_cons_self)]

/-- **Packets make the entry that one packet makes exactly when the one with the PTR is complete**,
for every service, however its records are spread and ordered and whatever comes between. -/
theorem known_iff (b : RegistryBrowser) (s : DiscoveredService) (whole : Octets)
    (hw : (saidIn whole).Perm (recordsFor s)) (packets : List (Octets × Bool))
    (hp : Spread s packets) :
    (packets.foldl (fun b p => b.hear p.1) b).known.find? s.instanceName =
        (b.hear whole).known.find? s.instanceName ↔
      ∀ p ∈ packets, p.2 = true → .named s.instanceName ∈ saidIn p.1 →
        Complete s (b.held s.instanceName) (saidIn p.1) := by
  obtain ⟨before, q, after, rfl, hnamed, hn, hl, hrest⟩ := hp.split
  have hbefore := find_of_none (fun p hp => hrest p (List.mem_append_left _ hp)) b
  have hall : (b.hear whole).known.find? s.instanceName =
      some (fillIn (b.held s.instanceName) s) := by
    rw [find_of_named (hw.nodup_iff.mpr nodup_recordsFor) hw.subset
      (hw.mem_iff.mpr List.mem_cons_self), serviceIn_perm hw, fillIn_whole]
  have hrun : ((before ++ (q, true) :: after).foldl (fun b p => b.hear p.1) b).known.find?
      s.instanceName = some (fillIn (b.held s.instanceName) (serviceIn s (saidIn q))) := by
    rw [List.foldl_append, List.foldl_cons,
      find_of_none fun p hp => hrest p (List.mem_append_right _ hp), find_of_named hn hl hnamed,
      RegistryBrowser.held, hbefore]
    rfl
  rw [hall, hrun, Option.some_inj, fillIn_iff]
  constructor
  · intro hc p hp _ hpn
    rcases List.mem_append.mp hp with hp | hp
    · exact absurd hpn (hrest p (List.mem_append_left _ hp))
    · rcases List.mem_cons.mp hp with rfl | hp
      · exact hc
      · exact absurd hpn (hrest p (List.mem_append_right _ hp))
  · intro hc
    exact hc (q, true) (List.mem_append_right _ List.mem_cons_self) rfl hnamed

/-! A registry, its four records in one packet, and with the PTR in a packet of its own. -/

def aRegistry : SessionAdvertisement where
  instanceName := octets "reg"
  hostName := octets "reg.local"
  port := 8010
  addressV4 := 0xC0A8000A
  txtEntries := [octets "api_ver=v1.3"]
  serviceType := kNmosRegisterService
  subtype := []

def inOne : Octets := buildAnnouncement aRegistry false

def withPtr : Octets :=
  DnsSd.buildPacket (putRecordHeader kNmosRegisterService kTypePTR kServiceRecordTtl
    (.ofNat (encodeName (instanceFqdn aRegistry)).length) false ++
      encodeName (instanceFqdn aRegistry)) 1

def withoutPtr : Octets :=
  DnsSd.buildPacket ((buildRecords aRegistry false kServiceRecordTtl kHostRecordTtl).drop
    (withPtr.length - 12)) 3

/-- The announcement of a device, which is about another service. -/
def aDevice : Octets :=
  buildAnnouncement { instanceName := octets "Box", hostName := octets "Box.local" } true

theorem reg_known :
    ([(aDevice, false), (inOne, true)].foldl (fun b p => b.hear p.1)
        ({} : RegistryBrowser)).known.find? (announced aRegistry).instanceName =
      (({} : RegistryBrowser).hear inOne).known.find? (announced aRegistry).instanceName := by
  have hown : (saidIn inOne).Perm (recordsFor (announced aRegistry)) := by decide +kernel
  have hdevice : .named (announced aRegistry).instanceName ∉ saidIn aDevice := by decide +kernel
  refine (known_iff {} (announced aRegistry) inOne hown [(aDevice, false), (inOne, true)]
    ⟨?_, ?_⟩).mpr ?_
  · exact hown.append_right []
  · intro p hp hother
    rcases List.mem_pair.mp hp with rfl | rfl
    · exact hdevice
    · cases hother
  · intro p hp hmarked _
    rcases List.mem_pair.mp hp with rfl | rfl
    · cases hmarked
    · exact ⟨.inl (hown.mem_iff.mpr (by simp [recordsFor])),
        .inl (hown.mem_iff.mpr (by simp [recordsFor])),
        .inl ⟨hown.mem_iff.mpr (by simp [recordsFor]),
          .inl (hown.mem_iff.mpr (by simp [recordsFor]))⟩⟩

/-- **A PTR on its own**: the records that come after it are never attached to the name. -/
theorem reg_unknown :
    (saidIn inOne).Perm (recordsFor (announced aRegistry)) ∧
    (saidIn withPtr ++ saidIn withoutPtr).Perm (recordsFor (announced aRegistry)) ∧
    ((({} : RegistryBrowser).hear withPtr).hear withoutPtr).known.find?
        (announced aRegistry).instanceName =
      some { instanceName := (announced aRegistry).instanceName } ∧
    ((({} : RegistryBrowser).hear withPtr).hear withoutPtr).known.find?
        (announced aRegistry).instanceName ≠
      (({} : RegistryBrowser).hear inOne).known.find? (announced aRegistry).instanceName := by
  decide +kernel

end Aes67.Ravenna
