import Aes67.Nmos.ConnectionServer
import Aes67.Nmos.Registration

/-!
# The node API

The model of `NodeAPIRouter`, which answers IS-04 for the driver: the node, its device, a source, a flow
and a sender for each stream that is sent, a receiver for each that is received or could be. One version
is stamped on all of them. The streams are listed while a request is answered, and listing them may
change what they are listed from; that is a parameter, with the two listers.

* `NMOSNode`, `buildNodeData`;
* `NodeAPIRouter`, with `touch`, `setEndpoint` and `version`, **`version_touch_injective`**;
* `named`, `collect`, `route`: what a request names, and what it is answered;
* **`route_steady`**: listers that go on saying the same make for the same answers.
-/

namespace Aes67.Nmos

open ConnectionAPIServer (pathPieces)

/-! ## The node -/

/-- `NMOSNodeInfo`, with what only the node's own resource mentions. -/
structure NMOSNode extends NMOSNodeInfo where
  description : Text := "AES67 virtual audio device".toList
  hostname : Text := []
  href : Text := []
  apiHost : Text := []
  apiPort : UInt16 := 0
  interfaceMac : Text := []

/-- `interfacesJson`. -/
def interfacesJson (node : NMOSNode) : Text :=
  if node.interfaceName = [] then "[]".toList
  else "[\x7b \"name\": \"".toList ++ jsonEscape node.interfaceName ++
    "\", \"chassis_id\": null, \"port_id\": \"".toList ++
    jsonEscape (if node.interfaceMac = [] then "00-00-00-00-00-00".toList else node.interfaceMac) ++
    "\" \x7d]".toList

/-- `buildNodeData`. -/
def buildNodeData (node : NMOSNode) (versionSeconds versionNanos : ℤ) : Text :=
  openingJson (jsonEscape node.id) versionSeconds versionNanos node.label node.description ++
    "    \"href\": \"".toList ++ jsonEscape node.href ++
    "\",\n    \"hostname\": \"".toList ++ jsonEscape node.hostname ++
    "\",\n    \"caps\": \x7b\x7d,\n    \"api\": \x7b\n      \"versions\": [\"v1.3\"],\n".toList ++
    "      \"endpoints\": ".toList ++
    (if node.apiPort = 0 then "[]".toList
      else "[\x7b \"host\": \"".toList ++ jsonEscape node.apiHost ++ "\", \"port\": ".toList ++
        showNat node.apiPort.toNat ++ ", \"protocol\": \"http\" \x7d]".toList) ++
    "\n    \x7d,\n    \"services\": [],\n".toList ++
    "    \"clocks\": [\x7b \"name\": \"clk0\", \"ref_type\": \"internal\" \x7d],\n".toList ++
    "    \"interfaces\": ".toList ++ interfacesJson node ++ "\n  \x7d".toList

/-! ## The router -/

/-- `NodeAPIRouter`, without its listers. -/
structure NodeAPIRouter where
  node : NMOSNode
  controlHref : Text := []
  versionSeconds : ℤ := 0
  versionNanos : ℤ := 0

/-- `ConnectionAPIServer::Reply`. -/
structure Reply where
  status : ℕ
  contentType : Text
  body : Text
  deriving DecidableEq

namespace NodeAPIRouter

variable (router : NodeAPIRouter)

/-- `touch`, `now` nanoseconds after the epoch. -/
def touch (now : ℕ) : NodeAPIRouter :=
  { router with versionSeconds := (now / 10 ^ 9 : ℕ), versionNanos := (now % 10 ^ 9 : ℕ) }

/-- The router as it is constructed. -/
def create (node : NMOSNode) (controlHref : Text) (now : ℕ) : NodeAPIRouter :=
  ({ node, controlHref } : NodeAPIRouter).touch now

/-- `setEndpoint`. -/
def setEndpoint (apiHost : Text) (apiPort : UInt16) (controlHref : Text) (now : ℕ) : NodeAPIRouter :=
  ({ router with
    node := { router.node with
      apiHost := apiHost
      apiPort := apiPort
      href := "http://".toList ++ apiHost ++ ":".toList ++ showNat apiPort.toNat ++ "/".toList }
    controlHref := controlHref } : NodeAPIRouter).touch now

/-- The version that is stamped on every resource. -/
def version : Text := versionText router.versionSeconds router.versionNanos

/-! ### Answers -/

def kApiVersion : Text := "v1.3".toList

/-- `jsonStringList`. -/
def jsonStringList (items : List String) : Text :=
  "[".toList ++ (",".toList).intercalate (items.map fun item => '"' :: item.toList ++ ['"']) ++
    "]".toList

/-- `jsonArrayOf`. -/
def jsonArrayOf (objects : List Text) : Text :=
  "[".toList ++ (",".toList).intercalate objects ++ "]".toList

def success (body : Text) : Reply := ⟨200, "application/json".toList, body⟩

def error (status : ℕ) (text : String) : Reply :=
  ⟨status, "application/json".toList, "\x7b\"code\": ".toList ++ showNat status ++
    ", \"error\": \"".toList ++ text.toList ++ "\", \"debug\": null\x7d".toList⟩

/-- The pieces, below the API, of a receiver's `target`. -/
def isTarget : List Text → Bool
  | [version, receivers, _, target] =>
    version = kApiVersion && receivers = "receivers".toList && target = "target".toList
  | _ => false

/-- What a request names: a collection, and perhaps one of its resources; or it is answered at once. -/
def named (method path : Text) : Except Reply (Text × Option Text) :=
  match pathPieces path with
  | root :: api :: pieces =>
    if root ≠ "x-nmos".toList ∨ api ≠ "node".toList then .error (error 404 "not found")
    else if method = "PUT".toList ∧ isTarget pieces then
      .error (error 501 "connection management is on the IS-05 Connection API")
    else if method ≠ "GET".toList then .error (error 405 "method not allowed")
    else match pieces with
      | [] => .error (success (jsonStringList ["v1.3/"]))
      | version :: pieces =>
        if version ≠ kApiVersion then .error (error 404 "version not served")
        else match pieces with
          | [] => .error (success (jsonStringList
              ["self/", "devices/", "sources/", "flows/", "senders/", "receivers/"]))
          | collection :: pieces =>
            if collection = "self".toList then
              .error (success (buildNodeData router.node router.versionSeconds router.versionNanos))
            else if collection = "subscriptions".toList then
              .error (error 501 "subscriptions are not served")
            else .ok (collection, pieces.head?)
  | _ => .error (error 404 "not found")

variable (deriveId : Text → Text → Text)

def idOf (kind : String) (name : Text) : Text := deriveId router.node.id (kind.toList ++ name)

def deviceId : Text := router.idOf deriveId "device" []

/-- `deviceData`. -/
def deviceData (senders : List NMOSSenderResource) (receivers : List NMOSReceiverResource) : Text :=
  buildDeviceData (router.deviceId deriveId) router.node.id router.node.label
    (senders.map fun sender => router.idOf deriveId "sender:" sender.name)
    (receivers.map fun receiver => router.idOf deriveId "receiver:" receiver.name)
    router.controlHref router.versionSeconds router.versionNanos

/-- The id and the document of a sender in one of its three collections. -/
def senderObject (collection : Text) (sender : NMOSSenderResource) : Text × Text :=
  let sourceId := router.idOf deriveId "source:" sender.name
  let flowId := router.idOf deriveId "flow:" sender.name
  let senderId := router.idOf deriveId "sender:" sender.name
  let deviceId := router.deviceId deriveId
  if collection = "sources".toList then
    (sourceId, buildSourceData sourceId deviceId sender router.versionSeconds router.versionNanos)
  else if collection = "flows".toList then
    (flowId, buildFlowData flowId sourceId deviceId sender router.versionSeconds router.versionNanos)
  else
    (senderId, buildSenderData senderId flowId deviceId sender router.versionSeconds
      router.versionNanos router.node.interfaceName)

/-- The id and the document of a receiver. -/
def receiverObject (receiver : NMOSReceiverResource) : Text × Text :=
  let receiverId := router.idOf deriveId "receiver:" receiver.name
  (receiverId, buildReceiverData receiverId (router.deviceId deriveId) receiver router.versionSeconds
    router.versionNanos router.node.interfaceName)

/-- The collection, or the one of its documents that is wanted. -/
def answer (objects : List (Text × Text)) : Option Text → Reply
  | none => success (jsonArrayOf (objects.map Prod.snd))
  | some wantedId => match objects.find? fun object => object.1 = wantedId with
    | some wanted => success wanted.2
    | none => error 404 "no such resource"

section Listers

variable {σ : Type} (senders : σ → σ × List NMOSSenderResource)
  (receivers : σ → σ × List NMOSReceiverResource)

/-- The objects of a collection, for which the listers are asked. -/
def collect (collection : Text) (s : σ) : σ × Option (List (Text × Text)) :=
  if collection = "devices".toList then
    let (s, listed) := senders s
    let (s, listed') := receivers s
    (s, some [(router.deviceId deriveId, router.deviceData deriveId listed listed')])
  else if collection = "sources".toList ∨ collection = "flows".toList ∨
      collection = "senders".toList then
    let (s, listed) := senders s
    (s, some (listed.map (router.senderObject deriveId collection)))
  else if collection = "receivers".toList then
    let (s, listed) := receivers s
    (s, some (listed.map (router.receiverObject deriveId)))
  else (s, none)

/-- `route`. -/
def route (method path : Text) (s : σ) : σ × Reply :=
  match router.named method path with
  | .error reply => (s, reply)
  | .ok (collection, wanted) =>
    let (s, objects) := router.collect deriveId senders receivers collection s
    (s, match objects with
      | none => error 404 "not found"
      | some objects => answer objects wanted)

end Listers

/-! ## What a router answers -/

section Steady

variable {router : NodeAPIRouter} {deriveId : Text → Text → Text} {σ : Type}
  {senders : σ → σ × List NMOSSenderResource} {receivers : σ → σ × List NMOSReceiverResource}
  {P : σ → Prop} {listed : List NMOSSenderResource} {listed' : List NMOSReceiverResource} {s : σ}

/-- What the listers keep, a request keeps. -/
theorem route_keeps (hsenders : ∀ s, P s → P (senders s).1) (hreceivers : ∀ s, P s → P (receivers s).1)
    (hs : P s) (method path : Text) : P (router.route deriveId senders receivers method path s).1 := by
  unfold route
  cases router.named method path with
  | error reply => exact hs
  | ok wanted =>
    unfold collect
    dsimp only
    split_ifs
    · exact hreceivers _ (hsenders s hs)
    · exact hsenders s hs
    · exact hreceivers s hs
    · exact hs

/-- While `P` holds, the listers say this, and it holds afterwards. -/
structure Steady (senders : σ → σ × List NMOSSenderResource)
    (receivers : σ → σ × List NMOSReceiverResource) (P : σ → Prop) (listed : List NMOSSenderResource)
    (listed' : List NMOSReceiverResource) : Prop where
  senders : ∀ s, P s → P (senders s).1 ∧ (senders s).2 = listed
  receivers : ∀ s, P s → P (receivers s).1 ∧ (receivers s).2 = listed'

/-- What is answered where this is listed. -/
def reply (router : NodeAPIRouter) (deriveId : Text → Text → Text) (listed : List NMOSSenderResource)
    (listed' : List NMOSReceiverResource) (method path : Text) : Reply :=
  (router.route deriveId (fun u : Unit => (u, listed)) (fun u => (u, listed')) method path ()).2

theorem collect_steady (h : Steady senders receivers P listed listed') (hs : P s) (collection : Text) :
    (router.collect deriveId senders receivers collection s).2 =
      (router.collect deriveId (fun u : Unit => (u, listed)) (fun u => (u, listed')) collection ()).2 := by
  obtain ⟨hs₁, e₁⟩ := h.senders s hs
  obtain ⟨-, e₂⟩ := h.receivers s hs
  obtain ⟨-, e₃⟩ := h.receivers _ hs₁
  unfold collect
  dsimp only
  split_ifs
  · rw [e₁, e₃]
  · rw [e₁]
  · rw [e₂]
  · rfl

/-- **Listers that go on saying the same make for the same answers.** -/
theorem route_steady (h : Steady senders receivers P listed listed') (hs : P s) (method path : Text) :
    P (router.route deriveId senders receivers method path s).1 ∧
      (router.route deriveId senders receivers method path s).2 =
        router.reply deriveId listed listed' method path := by
  refine ⟨route_keeps (fun s hs => (h.senders s hs).1) (fun s hs => (h.receivers s hs).1) hs method path, ?_⟩
  unfold reply route
  cases router.named method path with
  | error reply => rfl
  | ok wanted =>
    dsimp only
    rw [collect_steady h hs wanted.1]

/-- A request that asks no lister is answered without them. -/
theorem route_of_named {answered : Reply} (h : router.named method path = .error answered) :
    router.route deriveId senders receivers method path s = (s, answered) := by
  unfold route
  rw [h]

end Steady

/-! ## Versions -/

theorem showInt_natCast (n : ℕ) : showInt n = showNat n := by
  rw [showInt, if_neg (by omega), Int.natAbs_natCast]

theorem version_touch (router : NodeAPIRouter) (now : ℕ) : (router.touch now).version =
    showNat (now / 10 ^ 9) ++ ':' :: showNat (now % 10 ^ 9) := by
  rw [version, touch, versionText, showInt_natCast, showInt_natCast, List.append_assoc]
  rfl

/-- **No two times have one version.** -/
theorem version_touch_injective (router router' : NodeAPIRouter) {now now' : ℕ}
    (h : (router.touch now).version = (router'.touch now').version) : now = now' := by
  have hcolon : ∀ n, ':' ∉ showNat n := fun n hmem => by
    have hdigit := isDigit_of_mem_showNat hmem
    exact absurd hdigit (by decide)
  rw [version_touch, version_touch] at h
  obtain ⟨hseconds, -, hnanos⟩ := (List.append_cons_inj_of_notMem (hcolon _) (hcolon _)).mp h
  have hseconds := showNat_injective hseconds
  have hnanos := showNat_injective hnanos
  omega

end NodeAPIRouter

end Aes67.Nmos
