import Aes67.Lib.Trials
import Aes67.Nmos.Registration

/-!
# Failing over to another registry

`NMOSRegistrationClient::failOverTo` goes through the registries on the link and moves to the first
that answers a heartbeat, or takes the node again after a 404. What answers the requests is a
parameter: it has a state of its own and answers each request as it likes. So are the body of a node,
which carries the time, and with it the version.

* `HTTPResponse`, `Request`, `Failover.Client`: the client with what answers it;
* `postNode`, `heartbeat`, `failOverTo`;
* `Answers`, `afterTrial`: a heartbeat as requests and answers, `heartbeat_spec`;
* `Failover.FailsOver`: what a failover is to do;
* **`failsOver_iff`**: it does so just when a registry answers in its turn, or there is no other.
-/

namespace Aes67.Nmos.Failover

/-! ## Requests -/

structure HTTPResponse where
  status : ℤ
  error : Text

inductive Method
  | POST | DELETE

structure Request where
  host : Text
  port : UInt16
  method : Method
  path : Text
  body : Text := []

/-- `NMOSRegistry` and `Ravenna::NmosRegistry`: where a registry is, and the version it speaks. -/
structure Registry extends NMOSRegistry where
  apiVersion : Text := "v1.3".toList

/-- `NmosRegistry::endpoint`. -/
def endpoint (registry : NMOSRegistry) : Text := registry.host ++ ":".toList ++ showNat registry.port.toNat

def registrationPath (apiVersion : Text) : Text :=
  "/x-nmos/registration/".toList ++ apiVersion ++ "/resource".toList

def healthPath (apiVersion nodeId : Text) : Text :=
  "/x-nmos/registration/".toList ++ apiVersion ++ "/health/nodes/".toList ++ nodeId

def Registry.health (registry : Registry) (nodeId : Text) : Request :=
  ⟨registry.host, registry.port, .POST, healthPath registry.apiVersion nodeId, []⟩

def Registry.post (registry : Registry) (body : Text) : Request :=
  ⟨registry.host, registry.port, .POST, registrationPath registry.apiVersion, body⟩

def Registry.del (registry : Registry) (nodeId : Text) : Request :=
  ⟨registry.host, registry.port, .DELETE,
    registrationPath registry.apiVersion ++ "/nodes/".toList ++ nodeId, []⟩

/-! ## The client -/

/-- `NMOSRegistrationClient`, with what answers it; `again` counts the calls of `registeredAgain_`. -/
structure Client (ν : Type) where
  node : NMOSNodeInfo
  registry : Registry
  registered : Bool := false
  again : ℕ := 0
  network : ν

variable {ν : Type} (http : ν → Request → HTTPResponse × ν)
  (buildRegistrationBody : NMOSNodeInfo → ν → Text)

namespace Client

variable (client : Client ν)

/-- `postNode`. A 200 may be a stale copy, which is deleted first. -/
def postNode : Client ν × Bool :=
  let registry := client.registry
  if !registry.valid then (client, false)
  else
    let body := buildRegistrationBody client.node client.network
    let (response, network) := http client.network (registry.post body)
    if response.error ≠ [] then ({ client with network, registered := false }, false)
    else if response.status = 200 then
      let (_, network) := http network (registry.del client.node.id)
      let (again, network) := http network (registry.post body)
      let retook := again.error = [] ∧ again.status = 201
      ({ client with network, registered := retook }, retook)
    else
      let accepted := response.status = 201
      ({ client with network, registered := accepted }, accepted)

/-- `heartbeat`. -/
def heartbeat : Client ν × Bool :=
  let registry := client.registry
  if !registry.valid then (client, false)
  else
    let (response, network) := http client.network (registry.health client.node.id)
    if response.error = [] ∧ response.status = 200 then
      ({ client with network, registered := true }, true)
    else if response.status = 404 then
      let (client, posted) :=
        { client with network, registered := false }.postNode http buildRegistrationBody
      if !posted then (client, false) else ({ client with again := client.again + 1 }, true)
    else ({ client with network, registered := false }, false)

/-- The registry a candidate is installed as. -/
def installed (candidate : Registry) : Registry :=
  if candidate.apiVersion = [] then { candidate with apiVersion := "v1.3".toList } else candidate

/-- The loop of `failOverTo`, `current` being where the client was. -/
def failOver (current : Text) (client : Client ν) : List Registry → Client ν × Bool
  | [] => (client, false)
  | candidate :: candidates =>
    if endpoint candidate.toNMOSRegistry = current then failOver current client candidates
    else
      let (client, answered) :=
        { client with registry := installed candidate }.heartbeat http buildRegistrationBody
      if answered then (client, true) else failOver current client candidates

/-- `failOverTo`. -/
def failOverTo (candidates : List Registry) : Client ν × Bool :=
  failOver http buildRegistrationBody (endpoint client.registry.toNMOSRegistry) client candidates

end Client

/-! ## What the registries answer -/

/-- The registry takes the node: a 201, or a 200 and a 201 once the stale copy is deleted. -/
def Accepts (node : NMOSNodeInfo) (network : ν) (registry : Registry) : Prop :=
  let body := buildRegistrationBody node network
  let (first, network) := http network (registry.post body)
  first.error = [] ∧ (first.status = 201 ∨ first.status = 200 ∧
    let (_, network) := http network (registry.del node.id)
    let (second, _) := http network (registry.post body)
    second.error = [] ∧ second.status = 201)

/-- **The registry answers**: a heartbeat with a 200, or with a 404 and takes the node again. -/
def Answers (node : NMOSNodeInfo) (network : ν) (registry : Registry) : Prop :=
  registry.valid ∧
    let (beat, network) := http network (registry.health node.id)
    beat.error = [] ∧ beat.status = 200 ∨
      beat.status = 404 ∧ Accepts http buildRegistrationBody node network registry

/-- What the requests of `Accepts` leave behind. -/
def afterPost (node : NMOSNodeInfo) (network : ν) (registry : Registry) : ν :=
  let body := buildRegistrationBody node network
  let (first, network) := http network (registry.post body)
  if first.error = [] ∧ first.status = 200 then
    let (_, network) := http network (registry.del node.id)
    (http network (registry.post body)).2
  else network

/-- What a trial leaves behind. -/
def afterTrial (node : NMOSNodeInfo) (network : ν) (registry : Registry) : ν :=
  if !registry.valid then network
  else
    let (beat, network) := http network (registry.health node.id)
    if ¬ (beat.error = [] ∧ beat.status = 200) ∧ beat.status = 404 then
      afterPost http buildRegistrationBody node network registry
    else network

/-- The first of the candidates that answers in its turn; the one at `current` is not tried. -/
def FirstToAnswer (current : Text) (node : NMOSNodeInfo) (network : ν)
    (candidates : List Registry) (registry : Registry) : Prop :=
  Trials.First (fun candidate : Registry => endpoint candidate.toNMOSRegistry = current)
    (fun network candidate =>
      Answers http buildRegistrationBody node network (Client.installed candidate))
    (fun network candidate =>
      afterTrial http buildRegistrationBody node network (Client.installed candidate))
    network candidates registry

/-- The first that answers a client, where it was not to be tried. -/
def Client.Finds (client : Client ν) (candidates : List Registry) (registry : Registry) : Prop :=
  FirstToAnswer http buildRegistrationBody (endpoint client.registry.toNMOSRegistry) client.node
    client.network candidates registry

/-- **What a failover is to do**: it succeeds just when a registry answers, the client is then with the
first that does, and it stays where it was if none does. -/
structure FailsOver (client : Client ν) (candidates : List Registry) : Prop where
  moved : (client.failOverTo http buildRegistrationBody candidates).2 = true ↔
    ∃ registry, client.Finds http buildRegistrationBody candidates registry
  first : ∀ registry, client.Finds http buildRegistrationBody candidates registry →
    (client.failOverTo http buildRegistrationBody candidates).1.registry = Client.installed registry
  kept : (client.failOverTo http buildRegistrationBody candidates).2 = false →
    (client.failOverTo http buildRegistrationBody candidates).1.registry = client.registry

/-! ## One heartbeat -/

namespace Client

variable {http : ν → Request → HTTPResponse × ν} {buildRegistrationBody : NMOSNodeInfo → ν → Text}
  {client : Client ν} {current : Text}

/-- `postNode` asks what it is said to ask, and stays with its registry. -/
theorem postNode_spec (h : client.registry.valid = true) :
    ((client.postNode http buildRegistrationBody).2 = true ↔
      Accepts http buildRegistrationBody client.node client.network client.registry) ∧
    (client.postNode http buildRegistrationBody).1.network =
      afterPost http buildRegistrationBody client.node client.network client.registry ∧
    (client.postNode http buildRegistrationBody).1.registry = client.registry ∧
    (client.postNode http buildRegistrationBody).1.node = client.node := by
  unfold postNode Accepts afterPost
  dsimp only
  rw [if_neg (by rw [h]; decide)]
  split_ifs with herror h200 h200' h200' <;> simp_all

/-- **A heartbeat** asks what a trial is said to ask, and stays with its registry. -/
theorem heartbeat_spec :
    ((client.heartbeat http buildRegistrationBody).2 = true ↔
      Answers http buildRegistrationBody client.node client.network client.registry) ∧
    (client.heartbeat http buildRegistrationBody).1.network =
      afterTrial http buildRegistrationBody client.node client.network client.registry ∧
    (client.heartbeat http buildRegistrationBody).1.registry = client.registry ∧
    (client.heartbeat http buildRegistrationBody).1.node = client.node := by
  unfold heartbeat Answers afterTrial
  dsimp only
  cases hv : client.registry.valid with
  | false => simp
  | true =>
    generalize http client.network (client.registry.health client.node.id) = asked
    obtain ⟨beat, network⟩ := asked
    obtain ⟨htakes, hnetwork, hregistry, hnode⟩ := @postNode_spec ν http buildRegistrationBody
      { client with network, registered := false } hv
    dsimp only at htakes hnetwork hregistry hnode ⊢
    generalize postNode http buildRegistrationBody
      { client with network, registered := false } = posted at *
    obtain ⟨client', took⟩ := posted
    by_cases h200 : beat.error = [] ∧ beat.status = 200
    · simp [h200]
    · by_cases h404 : beat.status = 404
      · cases took <;> simp_all
      · simp only [h200, h404, if_false, false_and, or_false, and_false]
        simp

/-! ## The candidates in turn -/

theorem endpoint_installed (candidate : Registry) :
    endpoint (installed candidate).toNMOSRegistry = endpoint candidate.toNMOSRegistry := by
  unfold installed
  split_ifs <;> rfl

/-- The loop, from any of its turns: it ends with the first that answers, and otherwise with the last
it tried. -/
theorem failOver_spec (candidates : List Registry) :
    let result := client.failOver http buildRegistrationBody current candidates
    (result.2 = true ↔ ∃ registry,
      FirstToAnswer http buildRegistrationBody current client.node client.network candidates registry) ∧
    (∀ registry,
      FirstToAnswer http buildRegistrationBody current client.node client.network candidates registry →
        result.1.registry = installed registry) ∧
    (result.2 = false →
      result.1.registry = client.registry ∧
          (∀ candidate ∈ candidates, endpoint candidate.toNMOSRegistry = current) ∨
        ∃ candidate ∈ candidates, endpoint candidate.toNMOSRegistry ≠ current ∧
          result.1.registry = installed candidate) := by
  dsimp only
  induction candidates generalizing client with
  | nil =>
    refine ⟨⟨nofun, ?_⟩, ?_, fun _ => .inl ⟨rfl, fun _ h => absurd h (List.not_mem_nil)⟩⟩
    · rintro ⟨_, h⟩
      cases h
    · intro _ h
      cases h
  | cons candidate candidates ih =>
    by_cases hskip : endpoint candidate.toNMOSRegistry = current
    · obtain ⟨hmoved, hfirst, hkept⟩ := @ih client
      rw [failOver, if_pos hskip]
      refine ⟨hmoved.trans (exists_congr fun registry => ?_), fun registry h => ?_, fun h => ?_⟩
      · refine ⟨.skip hskip, fun h => ?_⟩
        cases h with
        | here hs _ | next hs _ _ => exact absurd hskip hs
        | skip _ h => exact h
      · cases h with
        | here hs _ | next hs _ _ => exact absurd hskip hs
        | skip _ h => exact hfirst registry h
      · rcases hkept h with ⟨hregistry, hall⟩ | ⟨candidate', hmem, hne, hregistry⟩
        · exact .inl ⟨hregistry, List.forall_mem_cons.mpr ⟨hskip, hall⟩⟩
        · exact .inr ⟨candidate', List.mem_cons_of_mem _ hmem, hne, hregistry⟩
    · obtain ⟨hanswers, hnetwork, hregistry, hnode⟩ := @heartbeat_spec ν http buildRegistrationBody
        { client with registry := installed candidate }
      dsimp only at hanswers hnetwork hregistry hnode
      rw [failOver, if_neg hskip]
      generalize heartbeat http buildRegistrationBody
        { client with registry := installed candidate } = tried at *
      obtain ⟨client', answered⟩ := tried
      dsimp only at hanswers hnetwork hregistry hnode ⊢
      cases answered with
      | true =>
        have hhere : FirstToAnswer http buildRegistrationBody current client.node client.network
            (candidate :: candidates) candidate := .here hskip (hanswers.mp rfl)
        refine ⟨iff_of_true rfl ⟨candidate, hhere⟩, fun registry h => ?_, nofun⟩
        rw [Trials.First.unique h hhere]
        exact hregistry
      | false =>
        obtain ⟨hmoved, hfirst, hkept⟩ := @ih client'
        rw [hnode, hnetwork] at hmoved hfirst
        have hrefuses : ¬ Answers http buildRegistrationBody client.node client.network
            (installed candidate) := fun h => absurd (hanswers.mpr h) (by decide)
        refine ⟨hmoved.trans (exists_congr fun registry => ?_), fun registry h => ?_, fun h => ?_⟩
        · refine ⟨.next hskip hrefuses, fun h => ?_⟩
          cases h with
          | here _ ha => exact absurd ha hrefuses
          | skip hs _ => exact absurd hs hskip
          | next _ _ h => exact h
        · cases h with
          | here _ ha => exact absurd ha hrefuses
          | skip hs _ => exact absurd hs hskip
          | next _ _ h => exact hfirst registry h
        · rcases hkept h with ⟨hregistry', -⟩ | ⟨candidate', hmem, hne, hregistry'⟩
          · exact .inr ⟨candidate, List.mem_cons_self, hskip, hregistry'.trans hregistry⟩
          · exact .inr ⟨candidate', List.mem_cons_of_mem _ hmem, hne, hregistry'⟩

end Client

/-! ## Where a failover ends -/

/-- **A failover does what it is to do just when a registry answers in its turn, or there is no other
to try**: where all of them refuse, the client is left with the last. -/
theorem failsOver_iff (http : ν → Request → HTTPResponse × ν)
    (buildRegistrationBody : NMOSNodeInfo → ν → Text) (client : Client ν)
    (candidates : List Registry) :
    FailsOver http buildRegistrationBody client candidates ↔
      (∃ registry, client.Finds http buildRegistrationBody candidates registry) ∨
      ∀ candidate ∈ candidates,
        endpoint candidate.toNMOSRegistry = endpoint client.registry.toNMOSRegistry := by
  obtain ⟨hmoved, hfirst, hkept⟩ := @Client.failOver_spec ν http buildRegistrationBody client
    (endpoint client.registry.toNMOSRegistry) candidates
  constructor
  · rintro ⟨-, -, hstays⟩
    by_contra hnot
    obtain ⟨hnone, hother⟩ := not_or.mp hnot
    have hfalse : (client.failOverTo http buildRegistrationBody candidates).2 = false :=
      Bool.eq_false_iff.mpr fun h => hnone (hmoved.mp h)
    rcases hkept hfalse with ⟨-, hall⟩ | ⟨candidate, -, hne, hregistry⟩
    · exact hother hall
    · have hsame : Client.installed candidate = client.registry :=
        hregistry.symm.trans (hstays hfalse)
      rw [← hsame, Client.endpoint_installed] at hne
      exact hne rfl
  · intro h
    refine ⟨hmoved, hfirst, fun hfalse => ?_⟩
    rcases h with hsome | hall
    · exact absurd (hmoved.mpr hsome) (by rw [Client.failOverTo] at hfalse; rw [hfalse]; decide)
    · rcases hkept hfalse with ⟨hregistry, -⟩ | ⟨candidate, hmem, hne, -⟩
      · exact hregistry
      · exact absurd (hall candidate hmem) hne

/-- Nothing on the link answers. -/
def silent (_ : Unit) (_ : Request) : HTTPResponse × Unit := (⟨0, "refused".toList⟩, ())

/-- **The one candidate refuses**, and the client is left with it. -/
theorem silent_not_failsOver :
    ¬ FailsOver silent (fun _ _ => []) ⟨{ id := "n".toList }, ⟨⟨"a".toList, 80⟩, "v1.3".toList⟩, true, 0, ()⟩
      [⟨⟨"b".toList, 80⟩, "v1.3".toList⟩] := by
  intro h
  have hhost := congrArg (fun registry : Registry => registry.host) (h.kept (by decide))
  exact absurd hhost (by decide)

end Aes67.Nmos.Failover
