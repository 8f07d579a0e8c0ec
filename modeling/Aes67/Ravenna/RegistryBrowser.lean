import Mathlib
import Aes67.Lib.OrdMap
import Aes67.Ravenna.DnsBounds
import Aes67.Ravenna.NodeApi

/-!
# The registry browser

The model of `RegistryBrowser`: it listens for the advertisements of NMOS registries, folds each
response into what it knows of the instance, and lists the registries this node could use. A run of
`service` is the datagrams it takes from the socket, one after another.

* `kNmosRegisterService`, `found`: the services a datagram describes;
* `fillIn`, `RegistryBrowser.hear`: one datagram folded into the table;
* `speaks`, `registryOf`, `registriesFrom`, `RegistryBrowser.registries`;
* **`hear_find`**: what one datagram does to each entry; **`mem_registries`**: whom the list is of.
-/

namespace Aes67.Ravenna

open DnsSd

def kNmosRegisterService : Octets := octets "_nmos-register._tcp.local"

/-- The bytes `service` has room for. -/
def kDatagram : ℕ := 4096

/-- What `parseServiceResponse` finds in a datagram. -/
def found (datagram : Octets) : List DiscoveredService :=
  match parseServiceResponse (datagram.take kDatagram) kNmosRegisterService with
  | .ok services => services
  | .error _ => []

/-- What is held of an instance, with what has arrived filled in. -/
def fillIn (held service : DiscoveredService) : DiscoveredService where
  instanceName := service.instanceName
  hostName := if service.hostName ≠ [] then service.hostName else held.hostName
  port := if service.port ≠ 0 then service.port else held.port
  addressV4 := if service.addressV4 ≠ 0 then service.addressV4 else held.addressV4
  txtEntries := if service.txtEntries ≠ [] then service.txtEntries else held.txtEntries

/-- `DiscoveredService::txt`. -/
def txt (service : DiscoveredService) (key : Octets) (fallback : Octets := []) : Octets :=
  match service.txtEntries.find? fun entry => (key ++ [61]).isPrefixOf entry with
  | some entry => entry.drop (key.length + 1)
  | none => fallback

/-! ## Registries -/

/-- `NmosRegistry`. -/
structure NmosRegistry where
  host : Octets := []
  port : UInt16 := 0
  apiVersion : Octets := octets "v1.3"
  priority : ℕ := 100
  deriving DecidableEq

def NmosRegistry.valid (registry : NmosRegistry) : Bool :=
  registry.host ≠ [] && registry.port ≠ 0

/-- A blank or a tab. -/
def isBlank (b : UInt8) : Bool := b = 32 || b = 9

/-- A text without the blanks before and behind it. -/
def trim (text : Octets) : Octets :=
  ((text.dropWhile isBlank).reverse.dropWhile isBlank).reverse

/-- `speaks`: `wanted` is one of the versions between the commas, and a registry that names none is
taken at its word. -/
def speaks (versions wanted : Octets) : Bool :=
  versions = [] || (versions.splitOn 44).any fun one => trim one = wanted

def isDigit (b : UInt8) : Bool := 48 ≤ b && b ≤ 57

/-- The priority a registry is given: at most six digits, else the default. -/
def priorityOf (text : Octets) : ℕ :=
  if text ≠ [] ∧ text.length ≤ 6 ∧ text.all isDigit then
    text.foldl (fun n b => 10 * n + (b.toNat - 48)) 0
  else 100

/-- The loop body of `registriesFrom`: the registry a service is, if this node could use it. -/
def registryOf (wantedVersion : Octets) (service : DiscoveredService) : Option NmosRegistry :=
  if !speaks (txt service (octets "api_ver")) wantedVersion then none
  else if txt service (octets "api_proto") (octets "http") ≠ octets "http" then none
  else
    let registry : NmosRegistry :=
      { host := if service.addressV4 ≠ 0 then
          (addressText service.addressV4).map fun c => UInt8.ofNat c.toNat
        else service.hostName
        port := service.port
        apiVersion := wantedVersion
        priority := priorityOf (txt service (octets "pri")) }
    if registry.valid then some registry else none

/-- `registriesFrom`; the sort is stable. -/
def registriesFrom (services : List DiscoveredService) (wantedVersion : Octets) :
    List NmosRegistry :=
  (services.filterMap (registryOf wantedVersion)).insertionSort fun left right =>
    left.priority ≤ right.priority

/-! ## The browser -/

/-- Strings in the order of their bytes. -/
instance : LinearOrder Octets :=
  LinearOrder.lift' (List.map UInt8.toNat)
    (List.map_injective_iff.mpr fun _ _ h => UInt8.toNat_inj.mp h)

structure RegistryBrowser where
  wantedVersion : Octets := octets "v1.3"
  known : OrdMap Octets DiscoveredService := .empty

namespace RegistryBrowser

variable (b : RegistryBrowser)

/-- What is held of an instance: an empty entry where there is none. -/
def held (inst : Octets) : DiscoveredService := (b.known.find? inst).getD {}

/-- One service of a datagram. -/
def learn (service : DiscoveredService) : RegistryBrowser :=
  { b with
    known := b.known.insert service.instanceName
      (fillIn (b.held service.instanceName) service) }

/-- The loop body of `service`: one datagram. -/
def hear (datagram : Octets) : RegistryBrowser := (found datagram).foldl learn b

def registries : List NmosRegistry := registriesFrom b.known.values b.wantedVersion

variable {b} {inst : Octets} {datagram : Octets}

theorem find_learn (service : DiscoveredService) :
    (b.learn service).known.find? inst =
      if inst = service.instanceName then some (fillIn (b.held inst) service)
      else b.known.find? inst := by
  rw [learn, OrdMap.find?_insert]
  split_ifs with h
  · rw [h]
  · rfl

@[simp] theorem wantedVersion_hear : (b.hear datagram).wantedVersion = b.wantedVersion := by
  unfold hear
  induction found datagram generalizing b with
  | nil => rfl
  | cons service services ih => exact ih

/-- What the services of a datagram say of an instance, one after another. -/
def filledIn (inst : Octets) (held : DiscoveredService) (services : List DiscoveredService) :
    DiscoveredService :=
  (services.filter fun service => service.instanceName = inst).foldl fillIn held

/-- **What a datagram does to an entry.** -/
theorem hear_find : (b.hear datagram).known.find? inst =
    if inst ∈ (found datagram).map DiscoveredService.instanceName then
      some (filledIn inst (b.held inst) (found datagram))
    else b.known.find? inst := by
  unfold hear filledIn
  induction found datagram generalizing b with
  | nil => rfl
  | cons service services ih =>
    rw [List.foldl_cons, ih, find_learn]
    by_cases h : inst = service.instanceName
    · have hheld : (b.learn service).held inst = fillIn (b.held inst) service := by
        rw [held, find_learn, if_pos h]
        rfl
      rw [hheld, if_pos h, List.map_cons, if_pos (List.mem_cons.mpr (.inl h)),
        List.filter_cons_of_pos (by simp [h]), List.foldl_cons]
      split_ifs with hm
      · rfl
      · rw [List.filter_eq_nil_iff.mpr]
        · rfl
        · intro s hs he
          exact hm (List.mem_map.mpr ⟨s, hs, by simpa using he⟩)
    · have hheld : (b.learn service).held inst = b.held inst := by
        rw [held, find_learn, if_neg h]
        rfl
      rw [hheld, if_neg h, List.map_cons, List.filter_cons_of_neg (by simpa using Ne.symm h)]
      simp only [List.mem_cons, or_iff_right h]

/-- **The list is of the registries that entries are.** -/
theorem mem_registries {registry : NmosRegistry} : registry ∈ b.registries ↔
    ∃ inst service, b.known.find? inst = some service ∧
      registryOf b.wantedVersion service = some registry := by
  rw [registries, registriesFrom, List.mem_insertionSort, List.mem_filterMap]
  constructor
  · rintro ⟨service, hs, hr⟩
    obtain ⟨e, he, rfl⟩ := List.mem_map.mp hs
    exact ⟨e.1, e.2, b.known.mem_entries_iff.mp he, hr⟩
  · rintro ⟨inst, service, hf, hr⟩
    exact ⟨service, List.mem_map.mpr ⟨(inst, service), b.known.mem_entries_iff.mpr hf, rfl⟩, hr⟩

end RegistryBrowser

end Aes67.Ravenna
