import Mathlib
import Aes67.Lib.Run
import Aes67.Ravenna.DnsRoundTrip
import Aes67.Ravenna.RegistryBrowser

/-!
# Goodbyes

A goodbye is an announcement whose records live for no time. The parser does not look at how long a
record lives, so to the browser a goodbye is an announcement, and what it has once held of an
instance it holds for good.

* `Message`: an announcement or a goodbye; **`goodbye_found`**: the two are found alike;
* `Browsing`, `step`: the browser, and which kind of message each instance was last heard in;
* `Follows`: every instance listed was last announced; `Unusable`: what the message names, with what
  it says filled in, is no registry this node could use;
* **`follows_iff`**: the list follows throughout a run exactly when every goodbye of it is about
  instances that are unusable then.
-/

namespace Aes67.Ravenna

open DnsSd

/-- An announcement, or a goodbye, of a service of the registry type. -/
structure Message where
  session : SessionAdvertisement
  includeSubtype : Bool
  goodbye : Bool
  type : session.serviceType = kNmosRegisterService

namespace Message

variable (m : Message)

def packet : Octets :=
  if m.goodbye then buildGoodbye m.session m.includeSubtype
  else buildAnnouncement m.session m.includeSubtype

/-- The instances the message is about. -/
def names : List Octets := (found m.packet).map DiscoveredService.instanceName

variable {m}

/-- **A goodbye says what an announcement says**: the service it is about, with nothing to tell that
it is going away. -/
theorem goodbye_found (hs : Proper m.session)
    (hi : (encodeName (instanceFqdn m.session)).length ≤ 65535)
    (hh : 6 + (encodeName m.session.hostName).length ≤ 65535)
    (hsub : m.includeSubtype = true →
      spelled (labelsOf m.session.subtype) ≠ m.session.serviceType.map lower)
    (hlen : m.packet.length ≤ kDatagram) : found m.packet = [announced m.session] := by
  have hparse (serviceTtl hostTtl : UInt32) : parseServiceResponse
      (DnsSd.buildPacket (buildRecords m.session m.includeSubtype serviceTtl hostTtl)
        (answerCountFor m.session m.includeSubtype)) m.session.serviceType =
      .ok [announced m.session] := by
    rw [buildRecords_eq, parse_buildPacket (tells_told hs hi hh hsub _ _)
      (answerCountFor_eq m.session m.includeSubtype _ _), found_told]
  have hm : parseServiceResponse m.packet m.session.serviceType = .ok [announced m.session] := by
    unfold packet
    split_ifs
    · exact hparse 0 0
    · exact hparse kServiceRecordTtl kHostRecordTtl
  rw [found, List.take_of_length_le hlen, ← m.type, hm]

end Message

/-- The browser, and for each instance whether the last message about it was an announcement. -/
structure Browsing where
  browser : RegistryBrowser
  announcedLast : Octets → Option Bool := fun _ => none

namespace Browsing

def step (s : Browsing) (m : Message) : Browsing where
  browser := s.browser.hear m.packet
  announcedLast inst := if m.names.contains inst then some !m.goodbye else s.announcedLast inst

/-- The instance has an entry that `registries` lists (`RegistryBrowser.mem_registries`). -/
def Listed (b : RegistryBrowser) (inst : Octets) : Prop :=
  ∃ service, b.known.find? inst = some service ∧ (registryOf b.wantedVersion service).isSome

/-- Every registry listed is of an instance last heard in an announcement. -/
def Follows (s : Browsing) : Prop :=
  ∀ inst, Listed s.browser inst → s.announcedLast inst = some true

/-- If the message is a goodbye, the entries of the instances it names, with what it says filled in,
are of no registry this node could use. -/
def Unusable (s : Browsing) (m : Message) : Prop :=
  m.goodbye = true → ∀ inst ∈ m.names,
    registryOf s.browser.wantedVersion
      (RegistryBrowser.filledIn inst (s.browser.held inst) (found m.packet)) = none

instance (s : Browsing) (m : Message) : Decidable (Unusable s m) :=
  inferInstanceAs (Decidable (_ → _))

variable {s : Browsing} {m : Message} {inst : Octets}

theorem listed_hear_of_mem (hm : inst ∈ m.names) :
    Listed (s.browser.hear m.packet) inst ↔
      (registryOf s.browser.wantedVersion
        (RegistryBrowser.filledIn inst (s.browser.held inst) (found m.packet))).isSome := by
  have hm' : inst ∈ (found m.packet).map DiscoveredService.instanceName := hm
  unfold Listed
  rw [RegistryBrowser.hear_find, if_pos hm', RegistryBrowser.wantedVersion_hear]
  simp

theorem listed_hear_of_not_mem (hm : inst ∉ m.names) :
    Listed (s.browser.hear m.packet) inst ↔ Listed s.browser inst := by
  have hm' : inst ∉ (found m.packet).map DiscoveredService.instanceName := hm
  unfold Listed
  rw [RegistryBrowser.hear_find, if_neg hm', RegistryBrowser.wantedVersion_hear]

/-- **One message**: the list goes on following exactly when a goodbye leaves its instances
unusable. -/
theorem follows_step (h : Follows s) (m : Message) : Follows (step s m) ↔ Unusable s m := by
  constructor
  · intro hf hg inst hm
    by_contra hne
    have hlast := hf inst ((listed_hear_of_mem hm).mpr (Option.isSome_iff_ne_none.mpr hne))
    simp only [step, if_pos (List.contains_iff_mem.mpr hm), hg] at hlast
    cases hlast
  · intro hu inst hl
    by_cases hm : inst ∈ m.names
    · simp only [step, if_pos (List.contains_iff_mem.mpr hm)]
      cases hg : m.goodbye with
      | false => rfl
      | true =>
        have := (listed_hear_of_mem hm).mp hl
        rw [hu hg inst hm] at this
        cases this
    · simp only [step, if_neg (mt List.contains_iff_mem.mp hm)]
      exact h inst ((listed_hear_of_not_mem hm).mp hl)

/-- **The list follows the messages** throughout a run, from a browser that knows nothing, exactly
when every goodbye of the run is about instances that are unusable when it comes. -/
theorem follows_iff (wantedVersion : Octets) (messages : List Message) :
    Always step Follows { browser := { wantedVersion := wantedVersion } } messages ↔
      Along step Unusable { browser := { wantedVersion := wantedVersion } } messages := by
  refine always_iff_along (fun s m hs => follows_step hs m) fun inst hl => ?_
  obtain ⟨service, hf, -⟩ := hl
  cases hf

/-! A registry that announces itself and says goodbye. -/

def reg : SessionAdvertisement where
  instanceName := octets "reg"
  hostName := octets "reg.local"
  port := 8010
  addressV4 := 0xC0A8000A
  txtEntries := [octets "api_ver=v1.3"]
  serviceType := kNmosRegisterService
  subtype := []

def itComes : Message := ⟨reg, false, false, rfl⟩

def itGoes : Message := ⟨reg, false, true, rfl⟩

/-- **The goodbye is followed by nothing**: the registry that said it is listed as before. -/
theorem reg_stays :
    ¬ Always step Follows { browser := {} } [itComes, itGoes] ∧
      ([itComes, itGoes].foldl step { browser := {} }).browser.registries =
        [{ host := octets "192.168.0.10", port := 8010 }] := by
  obtain ⟨hlast, hlisted, husable, hregistries⟩ :
      ([itComes, itGoes].foldl step { browser := {} }).announcedLast (announced reg).instanceName =
          some false ∧
        ([itComes, itGoes].foldl step { browser := {} }).browser.known.find?
          (announced reg).instanceName = some (announced reg) ∧
        (registryOf ([itComes, itGoes].foldl step { browser := {} }).browser.wantedVersion
          (announced reg)).isSome ∧
        ([itComes, itGoes].foldl step { browser := {} }).browser.registries =
          [{ host := octets "192.168.0.10", port := 8010 }] := by
    decide +kernel
  refine ⟨fun h => ?_, hregistries⟩
  have := h.run (announced reg).instanceName ⟨_, hlisted, husable⟩
  rw [hlast] at this
  cases this

end Browsing

end Aes67.Ravenna
