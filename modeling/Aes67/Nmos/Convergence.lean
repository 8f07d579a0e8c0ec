import Aes67.Nmos.Registration

/-!
# What the registry converges to

The client remembers what it published last and deletes from that what the next call leaves out. A
deletion that fails is not tried again: its resource is forgotten while the registry still holds it.

* `Publisher`: the client beside its registry, and `Publisher.sync`;
* `writes_postResource`, `removes_deleteResource`: what one request of the client does;
* `Publisher.Remembered`: every resource the registry holds was published last or is to be published;
* **`converges_iff`**: after a call whose requests all succeed the registry holds exactly the
  resources of the call, if and only if the registry held nothing forgotten; and nothing is forgotten
  while every deletion succeeds;
* `not_converges`: one lost deletion.
-/

namespace Aes67.Nmos

open RemoteStore

variable {CC_SHA1 : Text → List UInt8} {replaces : Bool}

/-! ## Requests -/

namespace NMOSRegistrationClient

variable (client : NMOSRegistrationClient)

theorem writes_postResource : Writes (client.postResource replaces) where
  frame {store key body other} hne := by
    rw [postResource]
    dsimp only
    split_ifs with hvalid h201 h200
    · rfl
    · exact post_frame hne
    · exact (post_frame hne).trans ((delete_frame hne).trans (post_frame hne))
    · exact post_frame hne
  stored {store key body} h := by
    have hself : ∀ s : RemoteStore Key Text, (s.post key body replaces).2 = some 201 →
        (s.post key body replaces).1.docs key = some body := fun s hs => by
      rw [post_created hs, Function.update_self]
    rw [postResource] at h ⊢
    dsimp only at h ⊢
    split_ifs at h ⊢ with hvalid h201 h200
    · exact hself _ h201
    · exact hself _ (of_decide_eq_true h)

theorem removes_deleteResource : Removes client.deleteResource where
  frame {store key other} hne := by
    rw [deleteResource]
    split_ifs
    · rfl
    · exact delete_frame hne
  gone {store key} h := by
    rw [deleteResource] at h ⊢
    split_ifs at h ⊢
    exact delete_gone (of_decide_eq_true h)

end NMOSRegistrationClient

/-! ## Calls -/

/-- The client beside its registry. -/
structure Publisher where
  client : NMOSRegistrationClient
  store : RemoteStore Key Text := {}

namespace Publisher

variable (CC_SHA1) (replaces) (p : Publisher) (call : Call)

/-- One call. -/
def sync : Publisher :=
  let synced := p.client.syncResources CC_SHA1 replaces p.store call
  ⟨synced.client, synced.store⟩

/-- No two resources of the call have one id. -/
def Distinct : Prop := ((p.client.resources CC_SHA1 call).map Prod.fst).Nodup

/-- What the call deletes is gone. -/
def Deletes : Prop := (p.client.syncResources CC_SHA1 replaces p.store call).allDeleted = true

/-- All requests of the call succeed. -/
def Succeeds : Prop :=
  (p.client.syncResources CC_SHA1 replaces p.store call).allAccepted = true ∧
    p.Deletes CC_SHA1 replaces call

/-- What the registry holds was published last, or is to be published now. -/
def Remembered : Prop :=
  ∀ key, p.store.docs key ≠ none →
    key ∈ p.client.published ∨ ∃ e ∈ p.client.resources CC_SHA1 call, key = e.1

/-- The registry holds the resources of the call as the call describes them, and nothing else. -/
def Converged : Prop :=
  Exactly (p.sync CC_SHA1 replaces call).store.docs (p.client.resources CC_SHA1 call)

/-- What a call of a node with a name does to the registry. -/
theorem sync_of_named (h : p.client.node.id ≠ []) :
    let resources := p.client.resources CC_SHA1 call
    let gone := p.client.published.reverse.filter (· ∉ resources.map Prod.fst)
    let put := putAll (p.client.postResource replaces) false ⟨p.store.docs, call.fates⟩ resources
    let removed := removeAll p.client.deleteResource put.1 gone
    (p.sync CC_SHA1 replaces call).store = removed.1 ∧
      (p.sync CC_SHA1 replaces call).client =
        { p.client with published := resources.map Prod.fst } ∧
      (p.Deletes CC_SHA1 replaces call ↔ removed.2 = true) ∧
      (p.Succeeds CC_SHA1 replaces call ↔ put.2 = true ∧ removed.2 = true) := by
  dsimp only
  rw [Succeeds, Deletes, sync, NMOSRegistrationClient.syncResources, if_neg h]
  exact ⟨rfl, rfl, Iff.rfl, Iff.rfl⟩

variable {CC_SHA1 replaces p call}

theorem not_succeeds_of_nameless (h : p.client.node.id = []) :
    ¬ p.Succeeds CC_SHA1 replaces call := by
  rw [Succeeds, NMOSRegistrationClient.syncResources, if_pos h]
  exact fun hs => Bool.false_ne_true hs.1

/-- What is deleted is what was published last and is not to be published now. -/
theorem mem_gone {key : Key} {previous : List Key} {resources : List (Key × Text)} :
    key ∈ previous.reverse.filter (· ∉ resources.map Prod.fst) ↔
      key ∈ previous ∧ ∀ e ∈ resources, key ≠ e.1 := by
  rw [List.mem_filter, List.mem_reverse, decide_eq_true_eq, List.mem_map]
  exact and_congr_right fun _ =>
    ⟨fun h e he hk => h ⟨e, he, hk.symm⟩, fun h ⟨e, he, hk⟩ => h e he hk.symm⟩

/-- **One call** whose requests all succeed. -/
theorem converged_iff (hd : p.Distinct CC_SHA1 call) (hs : p.Succeeds CC_SHA1 replaces call) :
    p.Converged CC_SHA1 replaces call ↔ p.Remembered CC_SHA1 call := by
  have hnamed : p.client.node.id ≠ [] := fun h => not_succeeds_of_nameless h hs
  obtain ⟨hstore, -, -, hsucceeds⟩ := p.sync_of_named CC_SHA1 replaces call hnamed
  obtain ⟨hput, hremoved⟩ := hsucceeds.mp hs
  have hsame : ∀ e ∈ p.client.resources CC_SHA1 call, ∀ e' ∈ p.client.resources CC_SHA1 call,
      e.1 = e'.1 → e.2 = e'.2 := fun e he e' he' hk =>
    congrArg Prod.snd (List.inj_on_of_nodup_map hd he he' hk)
  rw [Converged, hstore,
    exactly_reconcile p.client.writes_postResource p.client.removes_deleteResource hsame
      (fun key => mem_gone) hput hremoved]
  refine ⟨fun h key hheld => ?_, fun h key hnot hne => ?_⟩
  · by_contra hk
    obtain ⟨hnot, hne⟩ := not_or.mp hk
    exact hheld (h key hnot fun e he hk => hne ⟨e, he, hk⟩)
  · by_contra hheld
    rcases h key hheld with hin | ⟨e, he, hk⟩
    · exact hnot hin
    · exact hne e he hk

variable (p) in
/-- The client remembers all the registry holds. -/
def Known : Prop := ∀ key, p.store.docs key ≠ none → key ∈ p.client.published

/-- A call whose deletions succeed forgets nothing. -/
theorem Known.sync (h : p.Known) (hd : p.Deletes CC_SHA1 replaces call) :
    (p.sync CC_SHA1 replaces call).Known := by
  by_cases hnamed : p.client.node.id = []
  · rw [Publisher.sync, NMOSRegistrationClient.syncResources, if_pos hnamed]
    exact h
  obtain ⟨hstore, hclient, hdeletes, -⟩ :=
    p.sync_of_named CC_SHA1 replaces call hnamed
  have hremoved := hdeletes.mp hd
  rw [Known, hstore, hclient]
  intro key hheld
  by_contra hnot
  have hne : ∀ e ∈ p.client.resources CC_SHA1 call, key ≠ e.1 := fun e he hk =>
    hnot (List.mem_map.mpr ⟨e, he, hk.symm⟩)
  apply hheld
  by_cases hin : key ∈ p.client.published
  · exact removeAll_docs p.client.removes_deleteResource hremoved (mem_gone.mpr ⟨hin, hne⟩)
  · rw [removeAll_frame p.client.removes_deleteResource fun hg => hin (mem_gone.mp hg).1,
      putAll_frame p.client.writes_postResource hne]
    by_contra hkey
    exact hin (h key hkey)

end Publisher

/-! ## Runs -/

/-- **What a registry converges to**, over every run of calls from a client that has published nothing
to a registry that holds nothing. After a call whose requests all succeed it holds exactly the
resources of the call, just where it held nothing before that the client had forgotten. While every
deletion succeeds that is so of every call. -/
theorem converges_iff (node : NMOSNodeInfo) (registry : NMOSRegistry) (calls : List Call) :
    Along (Publisher.sync CC_SHA1 replaces)
      (fun p call => p.Distinct CC_SHA1 call → p.Succeeds CC_SHA1 replaces call →
        (p.Converged CC_SHA1 replaces call ↔ p.Remembered CC_SHA1 call))
      ⟨⟨node, registry, []⟩, {}⟩ calls ∧
    (Along (Publisher.sync CC_SHA1 replaces)
        (fun p call => p.Deletes CC_SHA1 replaces call) ⟨⟨node, registry, []⟩, {}⟩ calls →
      Along (Publisher.sync CC_SHA1 replaces)
        (fun p call => p.Distinct CC_SHA1 call → p.Succeeds CC_SHA1 replaces call →
          p.Converged CC_SHA1 replaces call) ⟨⟨node, registry, []⟩, {}⟩ calls) := by
  refine ⟨along_of_forall fun p call hd hs => Publisher.converged_iff hd hs, fun h => ?_⟩
  refine along_of_along (P := Publisher.Known) (fun p call _ hk hdel => ⟨hk.sync hdel, ?_⟩)
    (fun key hheld => absurd rfl hheld) h
  exact fun hd hs => (Publisher.converged_iff hd hs).mpr fun key hheld => Or.inl (hk key hheld)

/-! ## A lost deletion -/

/-- The node of the runs below. -/
def studioNode : NMOSNodeInfo where
  id := "0f5c3c2e-8f3f-5a5e-9d0e-3b1c2d4e5f60".toList

/-- SHA-1 of the names the runs below hash, behind the bytes of the node's id. -/
def studioDigests : List (String × List UInt8) :=
  [("device", [127, 180, 53, 227, 177, 205, 60, 176, 58, 29, 140, 8, 171, 54, 67, 56, 76, 230, 33, 138]),
    ("source:Main", [236, 32, 15, 4, 160, 27, 199, 53, 213, 156, 21, 18, 150, 88, 49, 33, 198, 82, 3, 119]),
    ("flow:Main", [205, 210, 6, 145, 9, 206, 181, 174, 207, 27, 60, 225, 141, 179, 211, 139, 250, 213, 193, 201]),
    ("sender:Main", [61, 188, 157, 88, 94, 115, 218, 239, 121, 63, 201, 210, 108, 84, 246, 177, 26, 174, 63, 255])]

def studioSha1 (input : Text) : List UInt8 :=
  (studioDigests.find? fun e =>
    (uuidBytes studioNode.id).getD [] ++ e.1.toList = input).elim [] Prod.snd

/-- A sender is published and then is gone; the request that deletes it is lost. -/
def lostDeletion : List Call :=
  [{ senders := [{ name := "Main".toList }], receivers := [] },
    { senders := [], receivers := [], fates := [.served, .served, .served, .lost] },
    { senders := [], receivers := [] }]

def studio : Publisher := ⟨⟨studioNode, ⟨"registry".toList, 80⟩, []⟩, {}⟩

/-- The client that has forgotten the sender, and the registry that has not. -/
def forgetful : Publisher := (lostDeletion.take 2).foldl (Publisher.sync studioSha1 true) studio

/-- **The sender stays in the registry** after a later call whose requests all succeed. -/
theorem not_converges : ¬ ∀ calls,
    Along (Publisher.sync studioSha1 true)
      (fun p call => p.Distinct studioSha1 call → p.Succeeds studioSha1 true call →
        p.Converged studioSha1 true call) studio calls := by
  intro h
  have hlast : forgetful.Distinct studioSha1 { senders := [], receivers := [] } →
      forgetful.Succeeds studioSha1 true { senders := [], receivers := [] } →
      forgetful.Converged studioSha1 true { senders := [], receivers := [] } :=
    (h lostDeletion).2.2.1
  have hdistinct : forgetful.Distinct studioSha1 { senders := [], receivers := [] } := by
    unfold Publisher.Distinct
    decide
  have hsucceeds : forgetful.Succeeds studioSha1 true { senders := [], receivers := [] } := by
    unfold Publisher.Succeeds Publisher.Deletes
    decide +kernel
  have hgone : (forgetful.sync studioSha1 true { senders := [], receivers := [] }).store.docs
      ("senders".toList, deriveId studioSha1 studioNode.id "sender:Main".toList) = none :=
    (hlast hdistinct hsucceeds).only _ (by decide)
  have hheld : ((forgetful.sync studioSha1 true { senders := [], receivers := [] }).store.docs
      ("senders".toList, deriveId studioSha1 studioNode.id "sender:Main".toList)).isSome = true := by
    decide +kernel
  exact Option.isSome_iff_ne_none.mp hheld hgone

end Aes67.Nmos
