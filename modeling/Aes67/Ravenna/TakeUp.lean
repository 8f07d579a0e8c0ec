import Aes67.Lib.RemoteStore
import Aes67.Lib.Run
import Aes67.Ravenna.NodeApi

/-!
# Taking up with a registry

The model of `RegistrationClient`'s requests: a heartbeat first, and a registration of everything
where the registry does not know the node. A registry keeps documents by id, and answers a heartbeat
by whether it has one for the node.

* `registerEverything`, `heartbeat`, `takeUp`; `Attempt`, one call of `takeUp`;
* `registerAll_eq_putAll`: behind its first resource the loop is one list of posts;
* **`takeUp_iff`**: an attempt that reports success leaves the registry with the current documents if
  and only if the registry did not know the node, or had them all before;
* `takeUp_stale`: a node that the registry remembers from before.
-/

namespace Aes67.Ravenna

open RemoteStore

namespace RegistrationClient

/-! ## Requests -/

/-- What a registry holds: documents by the id of their resource. -/
abbrev Registry := RemoteStore Text Text

def resourceBody (type : Text) (data : Json) : Text :=
  (Json.ofObject (jsonObject [("type", .str type), ("data", data)])).serialise

/-- The document of a resource, under its id. -/
def documentOf (e : Text × Json) : Text × Text := ((e.2.get "id").asString, resourceBody e.1 e.2)

variable (nodeId : Text)

/-- The loop of `registerEverything`; `first` until one resource is through. -/
def registerAll : Bool → Registry → List (Text × Text) → Registry × Bool
  | _, store, [] => (store, true)
  | first, store, e :: documents =>
    let (store, status) := store.post e.1 e.2 true
    -- a registry that has the node already is told to forget it first
    let (store, status) :=
      if first ∧ status = some 200 then (store.delete nodeId).1.post e.1 e.2 true
      else (store, status)
    if status ≠ some 200 ∧ status ≠ some 201 then (store, false)
    else registerAll false store documents

/-- `RegistrationClient::registerEverything`. -/
def registerEverything (store : Registry) (documents : List (Text × Text)) : Registry × Bool :=
  registerAll nodeId true store documents

/-- `RegistrationClient::heartbeat`: whether it was taken, and whether the node is unknown. -/
def heartbeat (store : Registry) : Registry × Bool × Bool :=
  let (store, status) := store.ask nodeId
  (store, status = some 200, status = some 404)

variable (hash : Text → UInt64) (versionNow : ℕ → Text)

/-- `RegistrationClient::takeUp`: what the registry holds then, the node and the answer. -/
def takeUp (node : NodeApi) (store : Registry) : Registry × NodeApi × Bool :=
  let (store, known, unknown) := heartbeat nodeId store
  if known then (store, node, true)
  else if !unknown then (store, node, false)
  else
    let (resources, node) := node.resourcesInRegistrationOrder hash versionNow
    let (store, registered) := registerEverything nodeId store (resources.map documentOf)
    if !registered then (store, node, false)
    else ((heartbeat nodeId store).1, node, true)

/-! ## What they do -/

/-- One resource posted: taken as new or as known. -/
def postResource (store : Registry) (id body : Text) : Registry × Bool :=
  let (store, status) := store.post id body true
  (store, status = some 200 ∨ status = some 201)

theorem writes_postResource : Writes postResource where
  frame hne := post_frame hne
  stored h := by
    rw [postResource] at h ⊢
    dsimp only at h ⊢
    rw [post_accepted (of_decide_eq_true h), Function.update_self]

variable {nodeId} {store : Registry} {documents : List (Text × Text)} {e : Text × Text}

theorem registerAll_eq_putAll :
    registerAll nodeId false store documents = putAll postResource true store documents := by
  induction documents generalizing store with
  | nil => rfl
  | cons e documents ih =>
    rw [registerAll, putAll]
    simp only [postResource, Bool.false_eq_true, false_and, if_false]
    by_cases hs : (store.post e.1 e.2 true).2 = some 200 ∨ (store.post e.1 e.2 true).2 = some 201
    · rw [if_neg fun h => hs.elim h.1 h.2, ih]
      simp [hs]
    · rw [if_pos (not_or.mp hs)]
      simp [hs]

/-- The first resource of all, by whichever way it goes in. -/
theorem registerAll_first (h : (registerAll nodeId true store (e :: documents)).2 = true) :
    ∃ store', store'.docs e.1 = some e.2 ∧
      registerAll nodeId true store (e :: documents) = putAll postResource true store' documents := by
  rw [registerAll] at h ⊢
  dsimp only at h ⊢
  generalize hgo : (if true = true ∧ (store.post e.1 e.2 true).2 = some 200 then
      ((store.post e.1 e.2 true).1.delete nodeId).1.post e.1 e.2 true
    else ((store.post e.1 e.2 true).1, (store.post e.1 e.2 true).2)) = went at h ⊢
  have hpost : ∃ s : Registry, went = s.post e.1 e.2 true := by
    split_ifs at hgo
    · exact ⟨_, hgo.symm⟩
    · exact ⟨_, hgo.symm⟩
  by_cases hs : went.2 = some 200 ∨ went.2 = some 201
  · rw [if_neg fun h => hs.elim h.1 h.2] at h ⊢
    obtain ⟨s, rfl⟩ := hpost
    refine ⟨_, ?_, registerAll_eq_putAll⟩
    rw [post_accepted hs, Function.update_self]
  · rw [if_pos (not_or.mp hs)] at h
    cases h

/-- The registry holds a list of documents. -/
def Holds (store : Registry) (documents : List (Text × Text)) : Prop :=
  ∀ e ∈ documents, store.docs e.1 = some e.2

/-- No id stands for two documents. -/
def OneEach (documents : List (Text × Text)) : Prop :=
  ∀ e ∈ documents, ∀ e' ∈ documents, e.1 = e'.1 → e.2 = e'.2

theorem Holds.oneEach (h : Holds store documents) : OneEach documents := fun e he e' he' hk =>
  Option.some.inj ((h e he).symm.trans ((congrArg store.docs hk).trans (h e' he')))

/-- **Everything is registered** once the registration succeeds. -/
theorem holds_registerEverything (hone : OneEach documents)
    (h : (registerEverything nodeId store documents).2 = true) :
    Holds (registerEverything nodeId store documents).1 documents := by
  rw [registerEverything] at h ⊢
  rcases documents with _ | ⟨e, documents⟩
  · exact fun e he => by cases he
  obtain ⟨store', hfirst, hrest⟩ := registerAll_first h
  rw [hrest] at h ⊢
  have hl : OneEach documents := fun a ha b hb =>
    hone a (List.mem_cons_of_mem _ ha) b (List.mem_cons_of_mem _ hb)
  refine List.forall_mem_cons.mpr ⟨?_, fun a ha => putAll_docs writes_postResource h hl ha⟩
  by_cases hmem : ∃ a ∈ documents, a.1 = e.1
  · obtain ⟨a, ha, hk⟩ := hmem
    rw [← hk, ← hone a (List.mem_cons_of_mem _ ha) e List.mem_cons_self hk]
    exact putAll_docs writes_postResource h hl ha
  · exact (putAll_frame writes_postResource fun a ha hk => hmem ⟨a, ha, hk.symm⟩).trans hfirst

/-! ## Attempts -/

variable (nodeId)

/-- One call of `takeUp`: the node as it is then, what its clock says and what becomes of the
requests. -/
structure Attempt where
  node : NodeApi
  versionNow : ℕ → Text
  fates : List Fate := []

namespace Attempt

variable (a : Attempt) (store : Registry)

def run : Registry × NodeApi × Bool :=
  takeUp nodeId hash a.versionNow a.node ⟨store.docs, a.fates⟩

/-- The documents that are current when the attempt is made. -/
def current : List (Text × Text) :=
  (a.node.resourcesInRegistrationOrder hash a.versionNow).1.map documentOf

/-- `takeUp` answers true. -/
def Succeeds : Prop := (a.run nodeId hash store).2.2 = true

/-- The registry has never heard of the node, and no two of its resources share an id. -/
def Unknown : Prop := store.docs nodeId = none ∧ OneEach (a.current hash)

variable {nodeId hash a store}

/-- **One attempt** that reports success. -/
theorem holds_run_iff (h : a.Succeeds nodeId hash store) :
    Holds (a.run nodeId hash store).1 (a.current hash) ↔
      a.Unknown nodeId hash store ∨ Holds store (a.current hash) := by
  have hask : ((⟨store.docs, a.fates⟩ : Registry).ask nodeId).1.docs = store.docs := ask_docs
  rw [Succeeds, run, takeUp] at h
  rw [run, takeUp]
  simp only [heartbeat, decide_eq_true_eq] at h ⊢
  by_cases h200 : ((⟨store.docs, a.fates⟩ : Registry).ask nodeId).2 = some 200
  · rw [if_pos h200] at h ⊢
    obtain ⟨d, hd⟩ := ask_known h200
    have hknown : ¬ a.Unknown nodeId hash store := fun hu => by cases hd.symm.trans hu.1
    rw [Holds, hask, or_iff_right hknown, Holds]
  rw [if_neg h200] at h ⊢
  by_cases h404 : ((⟨store.docs, a.fates⟩ : Registry).ask nodeId).2 = some 404
  · have hnone : store.docs nodeId = none := ask_unknown (s := ⟨store.docs, a.fates⟩) h404
    simp only [h404, decide_true, Bool.not_true, Bool.false_eq_true, if_false] at h ⊢
    change (if (!(registerEverything nodeId _ (a.current hash)).2) = true then _ else _ :
      Registry × NodeApi × Bool).2.2 = true at h
    change Holds (if (!(registerEverything nodeId _ (a.current hash)).2) = true then _ else _ :
      Registry × NodeApi × Bool).1 _ ↔ _
    by_cases hreg : (registerEverything nodeId
        ((⟨store.docs, a.fates⟩ : Registry).ask nodeId).1 (a.current hash)).2 = true
    · rw [if_neg (by simp [hreg])]
      have hafter : ∀ s : Registry, (s.ask nodeId).1.docs = s.docs := fun s => ask_docs
      rw [Holds, hafter]
      refine ⟨fun hheld => Or.inl ⟨hnone, Holds.oneEach hheld⟩, fun hor => ?_⟩
      exact holds_registerEverything (hor.elim And.right Holds.oneEach) hreg
    · rw [if_pos (by simpa using hreg)] at h
      cases h
  · simp [h404] at h

end Attempt

/-- **Taking up with a registry**, whatever it holds and however many attempts are made. An attempt
that reports success leaves it with the documents that were current, just where it had never heard of
the node, or had them all already. -/
theorem takeUp_iff (store : Registry) (attempts : List Attempt) :
    Along (fun store a => (Attempt.run nodeId hash a store).1)
      (fun store a => a.Succeeds nodeId hash store →
        (Holds (a.run nodeId hash store).1 (a.current hash) ↔
          a.Unknown nodeId hash store ∨ Holds store (a.current hash))) store attempts :=
  along_of_forall fun _ _ h => Attempt.holds_run_iff h

/-! ## A node that is remembered -/

/-- A node with nothing to offer, on its first attempt. -/
def restarted : Attempt where
  node :=
    { identity := { nodeId := "node".toList, deviceId := "device".toList }
      catalogue := .empty
      connections := {} }
  versionNow _ := "1700000000:0".toList

/-- A registry that has heard of the node before. -/
def rememberedFrom : Registry where
  docs := Function.update (fun _ => none) "node".toList (some "what the node was".toList)

/-- **The old description stays**: the heartbeat is taken, and nothing is posted. -/
theorem takeUp_stale : ¬ ∀ (store : Registry) (attempts : List Attempt),
    Along (fun store a => (Attempt.run "node".toList (fun _ => 0) a store).1)
      (fun store a => a.Succeeds "node".toList (fun _ => 0) store →
        Holds (a.run "node".toList (fun _ => 0) store).1 (a.current fun _ => 0)) store attempts := by
  intro h
  have hheld := (h rememberedFrom [restarted]).1 (by unfold Attempt.Succeeds; decide)
  have hnot : ¬ ∀ e ∈ restarted.current fun _ => 0,
      (restarted.run "node".toList (fun _ => 0) rememberedFrom).1.docs e.1 = some e.2 := by
    decide
  exact hnot hheld

end RegistrationClient

end Aes67.Ravenna
