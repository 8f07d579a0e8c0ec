import Aes67.Ravenna.Requests
import Aes67.Nmos.ConnectionServer

/-!
# What the driver's lists do to the API

Before a request is answered, each resource the driver lists with another look than the one it was
seeded with is written anew, and one that is listed no longer is forgotten. What a controller staged
there, what was active and what was promised go with it.

* `Resource`, `Driver.resources`: senders and receivers as they are listed, in one list;
* `Undisturbed`: the resource looks as it did wherever it is listed;
* `syncResources_spec`, with **`record_of_undisturbed`** and **`record_of_disturbed`**;
* `Op.Lists`, `Op.Leaves`, with `record_copied`: what a step makes of a listed resource first;
* `Sound`, with **`sound_step`**: what every run keeps.
-/

namespace Aes67.Nmos

open Ravenna (ConnectionApi Record)

/-- A resource as it is listed, and as it is put into the API. -/
structure Resource where
  forSender : Bool
  id : Text
  shape : Text
  record : Record

def ConnectionSender.resource (sender : ConnectionSender) : Resource :=
  ⟨true, sender.id, sender.shape, sender.fresh.record⟩

def ConnectionReceiver.resource (receiver : ConnectionReceiver) : Resource :=
  ⟨false, receiver.id, receiver.shape, receiver.fresh.record⟩

/-- Everything the driver lists, in the order it is copied. -/
def Driver.resources (driver : Driver) : List Resource :=
  driver.senders.map ConnectionSender.resource ++ driver.receivers.map ConnectionReceiver.resource

/-- What is put into the API is fresh: it is kept under its id, and nothing is promised there. -/
theorem Driver.of_mem_resources {driver : Driver} {e : Resource} (h : e ∈ driver.resources) :
    e.record.id = e.id ∧ e.record.pending = {} ∧ e.record.Owned e.forSender := by
  rcases List.mem_append.mp h with h | h
  · obtain ⟨sender, -, rfl⟩ := List.mem_map.mp h
    exact ⟨rfl, rfl, fun hc => by cases hc⟩
  · obtain ⟨receiver, -, rfl⟩ := List.mem_map.mp h
    exact ⟨rfl, rfl, fun _ => rfl⟩

namespace ConnectionAPIServer

/-- The driver as it is for a step. -/
def Op.driver : Op → Driver
  | .route v _ _ _ => v.driver
  | .activeState driver => driver

/-- The step copies the driver's lists. -/
def Op.Copies : Op → Prop
  | .route v method path _ => Delegated v method path
  | .activeState _ => True

/-- A resource that does not look as it did is written. -/
def seed (seeded : OrdMap Text Text) (acc : ConnectionApi × OrdMap Text Text) (e : Resource) :
    ConnectionApi × OrdMap Text Text :=
  (if seeded.find? e.id = some e.shape then acc.1 else acc.1.put e.forSender e.id e.record,
    acc.2.insert e.id e.shape)

variable {server : ConnectionAPIServer} {driver : Driver} {seeded : OrdMap Text Text}
  {api : ConnectionApi} {forSender : Bool} {id : Text} {l : List Resource}

theorem syncResources_eq (server : ConnectionAPIServer) (driver : Driver) :
    server.syncResources driver =
      ⟨server.seeded.keys.foldl
          (forget (driver.resources.foldl (seed server.seeded) (server.api, .empty)).2)
          (driver.resources.foldl (seed server.seeded) (server.api, .empty)).1,
        (driver.resources.foldl (seed server.seeded) (server.api, .empty)).2⟩ := by
  have hsenders : ∀ (l : List ConnectionSender) (acc : ConnectionApi × OrdMap Text Text),
      (l.map ConnectionSender.resource).foldl (seed server.seeded) acc =
        l.foldl (seedSender server.seeded) acc := fun l acc => List.foldl_map
  have hreceivers : ∀ (l : List ConnectionReceiver) (acc : ConnectionApi × OrdMap Text Text),
      (l.map ConnectionReceiver.resource).foldl (seed server.seeded) acc =
        l.foldl (seedReceiver server.seeded) acc := fun l acc => List.foldl_map
  rw [Driver.resources, List.foldl_append, hsenders, hreceivers]
  rfl

/-- What the driver's listing of a resource says of the one in the API. -/
def Undisturbed (seeded : OrdMap Text Text) (l : List Resource) (forSender : Bool) (id : Text) :
    Prop :=
  ∀ e ∈ l, e.forSender = forSender → e.id = id → seeded.find? id = some e.shape

/-- The resource is listed. -/
def Lists (l : List Resource) (id : Text) : Prop := ∃ e ∈ l, e.id = id

/-- Copying what is listed touches neither the calls nor the address. -/
theorem foldl_seed_frame (seeded : OrdMap Text Text) (l : List Resource)
    (acc : ConnectionApi × OrdMap Text Text) :
    (l.foldl (seed seeded) acc).1.told = acc.1.told ∧
      (l.foldl (seed seeded) acc).1.interfaceAddress = acc.1.interfaceAddress := by
  induction l generalizing acc with
  | nil => exact ⟨rfl, rfl⟩
  | cons e l ih =>
    obtain ⟨h1, h2⟩ := ih (seed seeded acc e)
    rw [List.foldl_cons, h1, h2, seed]
    dsimp only
    split_ifs
    · exact ⟨rfl, rfl⟩
    · exact ⟨ConnectionApi.told_put, ConnectionApi.interfaceAddress_put⟩

theorem foldl_seed_present (seeded : OrdMap Text Text) (l : List Resource) (id : Text)
    (acc : ConnectionApi × OrdMap Text Text) :
    ((l.foldl (seed seeded) acc).2.find? id).isSome ↔ (acc.2.find? id).isSome ∨ Lists l id := by
  induction l generalizing acc with
  | nil => simp [Lists]
  | cons e l ih =>
    rw [List.foldl_cons, ih, seed, OrdMap.find?_insert]
    by_cases h : id = e.id
    · rw [if_pos h]
      exact iff_of_true (Or.inl rfl) (Or.inr ⟨e, List.mem_cons_self, h.symm⟩)
    · rw [if_neg h]
      refine or_congr_right ⟨fun ⟨e', he', hid⟩ => ⟨e', List.mem_cons_of_mem _ he', hid⟩, ?_⟩
      rintro ⟨e', he', hid⟩
      rcases List.mem_cons.mp he' with rfl | he'
      · exact absurd hid.symm h
      · exact ⟨e', he', hid⟩

/-- Each resource is remembered as it was copied, where no two have one id. -/
theorem foldl_seed_shape (hl : (l.map Resource.id).Nodup) {e : Resource} (he : e ∈ l)
    (acc : ConnectionApi × OrdMap Text Text) :
    (l.foldl (seed seeded) acc).2.find? e.id = some e.shape := by
  induction l using List.reverseRecOn with
  | nil => cases he
  | append_singleton l e' ih =>
    rw [List.map_append, List.nodup_append] at hl
    rw [List.foldl_append, List.foldl_cons, List.foldl_nil, seed]
    rcases List.mem_append.mp he with he | he
    · have hid : e.id ≠ e'.id :=
        hl.2.2 _ (List.mem_map_of_mem he) _ (List.mem_map_of_mem (List.mem_singleton_self e'))
      rw [OrdMap.find?_insert, if_neg hid]
      exact ih hl.1 he
    · rw [List.mem_singleton.mp he, OrdMap.find?_insert_self]

/-- Copying what is listed leaves a resource that looks as it did. -/
theorem foldl_seed_of_undisturbed (hl : ∀ e ∈ l, e.record.Owned e.forSender)
    (h : Undisturbed seeded l forSender id) (acc : ConnectionApi × OrdMap Text Text) :
    (l.foldl (seed seeded) acc).1.record forSender id = acc.1.record forSender id := by
  induction l generalizing acc with
  | nil => rfl
  | cons e l ih =>
    rw [List.foldl_cons, ih (fun e' he' => hl e' (List.mem_cons_of_mem _ he'))
      fun e' he' => h e' (List.mem_cons_of_mem _ he'), seed]
    split_ifs with hs
    · rfl
    · dsimp only
      rw [ConnectionApi.record_put (hl e List.mem_cons_self), if_neg]
      rintro ⟨hf, hid⟩
      exact hs (hid ▸ h e List.mem_cons_self hf.symm hid.symm)

/-- Copying what is listed replaces a resource that does not look as it did. -/
theorem foldl_seed_of_disturbed (hl : ∀ e ∈ l, e.record.Owned e.forSender)
    (h : ¬ Undisturbed seeded l forSender id) (acc : ConnectionApi × OrdMap Text Text) :
    ∃ e ∈ l, e.forSender = forSender ∧ e.id = id ∧ seeded.find? id ≠ some e.shape ∧
      (l.foldl (seed seeded) acc).1.record forSender id = some e.record := by
  induction l generalizing acc with
  | nil => exact absurd (fun e he => by cases he) h
  | cons e l ih =>
    have hl' : ∀ e' ∈ l, e'.record.Owned e'.forSender := fun e' he' =>
      hl e' (List.mem_cons_of_mem _ he')
    by_cases hrest : Undisturbed seeded l forSender id
    · have he : e.forSender = forSender ∧ e.id = id ∧ seeded.find? id ≠ some e.shape := by
        by_contra hc
        refine h fun e' he' hf hid => ?_
        rcases List.mem_cons.mp he' with rfl | he'
        · by_contra hs
          exact hc ⟨hf, hid, hs⟩
        · exact hrest e' he' hf hid
      obtain ⟨hf, hid, hs⟩ := he
      refine ⟨e, List.mem_cons_self, hf, hid, hs, ?_⟩
      rw [List.foldl_cons, foldl_seed_of_undisturbed hl' hrest, seed, if_neg (hid.symm ▸ hs)]
      dsimp only
      rw [ConnectionApi.record_put (hl e List.mem_cons_self), if_pos ⟨hf.symm, hid.symm⟩]
    · obtain ⟨e', he', hfound⟩ := ih hl' hrest (seed seeded acc e)
      exact ⟨e', List.mem_cons_of_mem _ he', hfound⟩

/-- Forgetting what is not listed leaves the rest. -/
theorem foldl_forget_spec (present : OrdMap Text Text) (keys : List Text) (api : ConnectionApi) :
    (keys.foldl (forget present) api).told = api.told ∧
    (keys.foldl (forget present) api).interfaceAddress = api.interfaceAddress ∧
    ∀ forSender id, (keys.foldl (forget present) api).record forSender id =
      if id ∈ keys ∧ (present.find? id).isSome = false then none
      else api.record forSender id := by
  induction keys generalizing api with
  | nil => exact ⟨rfl, rfl, fun _ _ => (if_neg (by simp)).symm⟩
  | cons key keys ih =>
    obtain ⟨h1, h2, h3⟩ := ih (forget present api key)
    have hone : (forget present api key).told = api.told ∧
        (forget present api key).interfaceAddress = api.interfaceAddress ∧
        ∀ forSender id, (forget present api key).record forSender id =
          if id = key ∧ (present.find? id).isSome = false then none
          else api.record forSender id := by
      unfold forget
      split_ifs with hp
      · refine ⟨rfl, rfl, fun forSender id => (if_neg ?_).symm⟩
        rintro ⟨rfl, hn⟩
        rw [hp] at hn
        cases hn
      · refine ⟨rfl, rfl, fun forSender id => ?_⟩
        by_cases hk : id = key
        · subst hk
          rw [if_pos ⟨rfl, eq_false_of_ne_true hp⟩]
          cases forSender <;> simp [ConnectionApi.record]
        · rw [if_neg fun hc => hk hc.1]
          cases forSender <;> simp [ConnectionApi.record, OrdMap.find?_erase, hk]
    rw [List.foldl_cons, h1, h2]
    refine ⟨hone.1, hone.2.1, fun forSender id => ?_⟩
    rw [h3, hone.2.2]
    by_cases hp : (present.find? id).isSome = false
    · rcases eq_or_ne id key with rfl | hk
      · simp [hp]
      · simp [hp, hk]
    · simp [hp]

variable (server driver) in
/-- What copying the lists leaves alone. -/
theorem syncResources_frame : (server.syncResources driver).api.told = server.api.told ∧
    (server.syncResources driver).api.interfaceAddress = server.api.interfaceAddress := by
  rw [syncResources_eq]
  obtain ⟨h1, h2, -⟩ := foldl_forget_spec
    (driver.resources.foldl (seed server.seeded) (server.api, .empty)).2 server.seeded.keys
    (driver.resources.foldl (seed server.seeded) (server.api, .empty)).1
  obtain ⟨h3, h4⟩ := foldl_seed_frame server.seeded driver.resources (server.api, .empty)
  exact ⟨h1.trans h3, h2.trans h4⟩

theorem toldOf_syncResources (driver : Driver) :
    (server.syncResources driver).api.toldOf forSender id = server.api.toldOf forSender id := by
  unfold ConnectionApi.toldOf
  rw [(syncResources_frame server driver).1]

/-- Whether copying the lists forgets a resource. -/
theorem record_syncResources (forSender : Bool) (id : Text) :
    (Lists driver.resources id → (server.syncResources driver).api.record forSender id =
      (driver.resources.foldl (seed server.seeded) (server.api, .empty)).1.record forSender id) ∧
    (¬ Lists driver.resources id → (server.syncResources driver).api.record forSender id =
      if id ∈ server.seeded.keys then none else server.api.record forSender id) := by
  have hpresent := foldl_seed_present server.seeded driver.resources id (server.api, .empty)
  rw [syncResources_eq]
  dsimp only
  rw [(foldl_forget_spec _ _ _).2.2]
  refine ⟨fun hl => if_neg ?_, fun hl => ?_⟩
  · rintro ⟨-, hn⟩
    rw [hpresent.mpr (Or.inr hl)] at hn
    cases hn
  · have hn : ((driver.resources.foldl (seed server.seeded)
        (server.api, .empty)).2.find? id).isSome = false := by
      refine eq_false_of_ne_true fun hc => ?_
      rcases hpresent.mp hc with h | h
      · cases h
      · exact hl h
    rw [hn, foldl_seed_of_undisturbed (fun _ he => (Driver.of_mem_resources he).2.2)
      fun e he _ hid => absurd ⟨e, he, hid⟩ hl]
    simp

/-- **A listed resource that looks as it did** is left as it is. -/
theorem record_of_undisturbed (hl : Lists driver.resources id)
    (h : Undisturbed server.seeded driver.resources forSender id) :
    (server.syncResources driver).api.record forSender id = server.api.record forSender id :=
  ((record_syncResources forSender id).1 hl).trans
    (foldl_seed_of_undisturbed (fun _ he => (Driver.of_mem_resources he).2.2) h _)

/-- **A listed resource that looks different** is written anew. -/
theorem record_of_disturbed
    (h : ¬ Undisturbed server.seeded driver.resources forSender id) :
    ∃ e ∈ driver.resources, e.forSender = forSender ∧ e.id = id ∧
      server.seeded.find? id ≠ some e.shape ∧
      (server.syncResources driver).api.record forSender id = some e.record := by
  obtain ⟨e, he, hf, hid, hs, hr⟩ := foldl_seed_of_disturbed
    (fun _ he => (Driver.of_mem_resources he).2.2) h (server.api, .empty)
  exact ⟨e, he, hf, hid, hs, ((record_syncResources forSender id).1 ⟨e, he, hid⟩).trans hr⟩

/-! ## Steps -/

/-- The resource is listed, if anything is. -/
def Op.Lists (forSender : Bool) (id : Text) (op : Op) : Prop :=
  op.Copies → ∃ e ∈ op.driver.resources, e.forSender = forSender ∧ e.id = id

/-- The resource looks as it did, if it is looked at. -/
def Op.Leaves (forSender : Bool) (id : Text) (server : ConnectionAPIServer) (op : Op) : Prop :=
  op.Copies → Undisturbed server.seeded op.driver.resources forSender id

/-- **What a step makes of a listed resource first**: it leaves one that looks as it did, and writes
another anew. -/
theorem record_copied {op : Op} {r : Record} (hr : server.api.record forSender id = some r)
    (hl : op.Lists forSender id) (hc : op.Copies) :
    ∃ r₀, (server.syncResources op.driver).api.record forSender id = some r₀ ∧
      (op.Leaves forSender id server → r₀ = r) ∧
      (¬ op.Leaves forSender id server → ∃ e ∈ op.driver.resources,
        e.forSender = forSender ∧ e.id = id ∧ r₀ = e.record) := by
  obtain ⟨e, he, -, hid⟩ := hl hc
  by_cases hu : Undisturbed server.seeded op.driver.resources forSender id
  · exact ⟨r, (record_of_undisturbed ⟨e, he, hid⟩ hu).trans hr, fun _ => rfl,
      fun hn => absurd (fun _ => hu) hn⟩
  · obtain ⟨e', he', hf, hid', -, hrec⟩ := record_of_disturbed hu
    exact ⟨e'.record, hrec, fun h => absurd (h hc) hu, fun _ => ⟨e', he', hf, hid', rfl⟩⟩

/-! ## What every run keeps -/

/-- Every resource is kept under its own id, and the API has been told of no address of the
device. -/
structure Sound (server : ConnectionAPIServer) : Prop where
  keyed : server.api.Keyed
  address : server.api.interfaceAddress = []

theorem sound_empty : Sound {} where
  keyed forSender id r h := by cases forSender <;> cases h
  address := rfl

theorem Sound.syncResources (h : server.Sound) (driver : Driver) :
    (server.syncResources driver).Sound where
  keyed forSender id r hr := by
    by_cases hu : Undisturbed server.seeded driver.resources forSender id
    · by_cases hl : Lists driver.resources id
      · rw [record_of_undisturbed hl hu] at hr
        exact h.keyed _ _ _ hr
      · rw [(record_syncResources forSender id).2 hl] at hr
        split_ifs at hr
        exact h.keyed _ _ _ hr
    · obtain ⟨e, he, -, hid, -, hrec⟩ := record_of_disturbed hu
      rw [hrec] at hr
      cases hr
      exact (Driver.of_mem_resources he).1.trans hid
  address := (syncResources_frame server driver).2.trans h.address

theorem Sound.delegate (h : server.Sound) (v : Visit) (method path : Text)
    (body : Except Text Ravenna.Json) : (server.delegate v method path body).1.Sound := by
  have hs := h.syncResources v.driver
  obtain ⟨hkeyed, haddress, -⟩ :=
    ConnectionApi.handle_spec hs.keyed v.surroundings method path body
  exact ⟨hkeyed, haddress.trans hs.address⟩

/-- **One step keeps it.** -/
theorem sound_step (h : server.Sound) (op : Op) : (server.step op).Sound := by
  cases op with
  | route v method path body =>
    rcases server.route_eq v method path body with ⟨-, hd⟩ | ⟨-, hd⟩
    · rw [step, hd]
      exact h.delegate v method path body
    · rw [step, hd]
      exact h
  | activeState driver => exact h.syncResources driver

/-- **Every run keeps it.** -/
theorem sound_run (ops : List Op) : (ops.foldl step {}).Sound :=
  (always_of_step (P := Sound) (fun _ op h => sound_step h op) sound_empty).run

end ConnectionAPIServer

end Aes67.Nmos
