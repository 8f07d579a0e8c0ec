import Aes67.Ravenna.Record

/-!
# What a request does to each resource

The API keeps its resources as machines that do not see each other: what happens to one of them in a
request is what has fallen due there, and then the patches of that request which name it, in turn.

* `applyDueActivations_spec`: what a request does first;
* **`handle_fst`**: a request is what has fallen due and the patches it carries;
* `Record.Patches`, with **`handle_spec`**: what a request does to each resource.
-/

namespace Aes67.Ravenna

namespace ConnectionApi

variable {api : ConnectionApi} {env : Surroundings} {forSender forSender' : Bool} {id id' : Text}
  {r : Record}

/-! ## What has fallen due -/

variable (api forSender id) in
/-- The calls of the host about one resource. -/
def toldOf : List Told := api.told.filter fun t => t.forSender = forSender ∧ t.id = id

/-- Every resource is kept under its own id. -/
def Keyed (api : ConnectionApi) : Prop :=
  ∀ forSender id r, api.record forSender id = some r → r.id = id

theorem toldOf_put : (api.put forSender id r).toldOf forSender' id' = api.toldOf forSender' id' := by
  cases forSender <;> rfl

/-- Calls about one resource are all told of it, and of no other. -/
theorem toldOf_tell {calls : List Told} (h : ∀ t ∈ calls, t.forSender = forSender ∧ t.id = id) :
    (api.tell calls).toldOf forSender' id' =
      api.toldOf forSender' id' ++ if forSender' = forSender ∧ id' = id then calls else [] := by
  unfold toldOf
  rw [told_tell, List.filter_append]
  congr 1
  split_ifs with hc
  · rw [List.filter_eq_self]
    intro t ht
    rw [decide_eq_true_eq, hc.1, hc.2]
    exact h t ht
  · rw [List.filter_eq_nil_iff]
    intro t ht
    rw [decide_eq_true_eq, (h t ht).1, (h t ht).2]
    exact fun hn => hc ⟨hn.1.symm, hn.2.symm⟩

end ConnectionApi

namespace Record

variable {address : Text} {env : Surroundings} {forSender : Bool} {r : Record}
  {state : ConnectionState}

theorem id_activate : (r.activate address env forSender state).id = r.id := by
  unfold activate accepted
  split_ifs <;> rfl

theorem Owned.activate (ho : r.Owned forSender) :
    (r.activate address env forSender state).Owned forSender := by
  rintro rfl
  unfold Record.activate accepted
  rw [if_neg Bool.false_ne_true]
  split_ifs <;> exact ho rfl

theorem id_due : (r.due address env forSender).id = r.id := by
  unfold due
  split_ifs
  · exact id_activate
  · rfl

theorem Owned.due (ho : r.Owned forSender) : (r.due address env forSender).Owned forSender := by
  unfold Record.due
  split_ifs
  · exact Owned.activate (r := r.free) ho
  · exact ho

/-- What falls due is told of the resource itself. -/
theorem of_mem_dueCalls {t : Told} (h : t ∈ r.dueCalls address env forSender) :
    t.forSender = forSender ∧ t.id = r.id := by
  unfold dueCalls at h
  split_ifs at h
  · rw [List.mem_singleton.mp h]
    exact ⟨rfl, rfl⟩
  · cases h

theorem due_of_early (address : Text) (forSender : Bool)
    (h : r.pending.isDue env.arrival = false) :
    r.due address env forSender = r ∧ r.dueCalls address env forSender = [] := by
  unfold due dueCalls
  rw [h]
  exact ⟨rfl, rfl⟩

end Record

namespace ConnectionApi

variable {api : ConnectionApi} {env : Surroundings} {forSender forSender' : Bool} {id id' : Text}
  {r : Record}

theorem applyDueSender_eq {e : Text × ConnectionSender}
    (h : api.record true e.1 = some e.2.record) : applyDueSender env api e =
      (api.put true e.1 (e.2.record.due api.interfaceAddress env true)).tell
        (e.2.record.dueCalls api.interfaceAddress env true) := by
  unfold applyDueSender
  by_cases hd : e.2.pending.isDue env.arrival = true
  · rw [if_pos hd, activateSender_eq, Record.due, Record.dueCalls]
    have hd' : e.2.record.pending.isDue env.arrival = true := hd
    rw [if_pos hd', if_pos hd']
    rfl
  · rw [if_neg hd]
    have hd' : e.2.record.pending.isDue env.arrival = false := eq_false_of_ne_true hd
    rw [(Record.due_of_early _ _ hd').1, (Record.due_of_early _ _ hd').2, put_record h, tell_nil]

theorem applyDueReceiver_eq {e : Text × ConnectionReceiver}
    (h : api.record false e.1 = some e.2.record) : applyDueReceiver env api e =
      (api.put false e.1 (e.2.record.due api.interfaceAddress env false)).tell
        (e.2.record.dueCalls api.interfaceAddress env false) := by
  unfold applyDueReceiver
  by_cases hd : e.2.pending.isDue env.arrival = true
  · rw [if_pos hd, activateReceiver_eq, Record.due, Record.dueCalls]
    have hd' : e.2.record.pending.isDue env.arrival = true := hd
    rw [if_pos hd', if_pos hd']
    rfl
  · rw [if_neg hd]
    have hd' : e.2.record.pending.isDue env.arrival = false := eq_false_of_ne_true hd
    rw [(Record.due_of_early _ _ hd').1, (Record.due_of_early _ _ hd').2, put_record h, tell_nil]

/-- A step that makes of one resource what has fallen due there. -/
def dueStep (env : Surroundings) (forSender : Bool) (api : ConnectionApi) (e : Text × Record) :
    ConnectionApi :=
  (api.put forSender e.1 (e.2.due api.interfaceAddress env forSender)).tell
    (e.2.dueCalls api.interfaceAddress env forSender)

/-- **A loop over resources that are there** does with each what has fallen due, once. -/
theorem foldl_dueStep (env : Surroundings) (forSender : Bool) (api : ConnectionApi)
    {l : List (Text × Record)} (hl : (l.map Prod.fst).Nodup)
    (h : ∀ e ∈ l, api.record forSender e.1 = some e.2 ∧ e.2.id = e.1) :
    (l.foldl (dueStep env forSender) api).interfaceAddress = api.interfaceAddress ∧
    ∀ forSender' id',
      (l.foldl (dueStep env forSender) api).record forSender' id' =
        (if forSender' = forSender ∧ id' ∈ l.map Prod.fst then
          (api.record forSender' id').map (Record.due api.interfaceAddress env forSender')
        else api.record forSender' id') ∧
      (l.foldl (dueStep env forSender) api).toldOf forSender' id' = api.toldOf forSender' id' ++
        if forSender' = forSender ∧ id' ∈ l.map Prod.fst then
          (api.record forSender' id').elim [] (Record.dueCalls api.interfaceAddress env forSender')
        else [] := by
  induction l generalizing api with
  | nil => exact ⟨rfl, fun _ _ => ⟨(if_neg (by simp)).symm, by simp⟩⟩
  | cons e l ih =>
    obtain ⟨hrec, hid⟩ := h e List.mem_cons_self
    obtain ⟨hnot, hl⟩ := List.nodup_cons.mp hl
    have hput : ∀ forSender' id', (dueStep env forSender api e).record forSender' id' =
        if forSender' = forSender ∧ id' = e.1 then some (e.2.due api.interfaceAddress env forSender)
        else api.record forSender' id' :=
      fun _ _ => record_put (owned_record hrec).due
    have htold : ∀ forSender' id', (dueStep env forSender api e).toldOf forSender' id' =
        api.toldOf forSender' id' ++ if forSender' = forSender ∧ id' = e.1 then
          e.2.dueCalls api.interfaceAddress env forSender else [] := fun _ _ =>
      (toldOf_tell fun t ht => ⟨(Record.of_mem_dueCalls ht).1,
        (Record.of_mem_dueCalls ht).2.trans hid⟩).trans (congrArg (· ++ _) toldOf_put)
    have haddress : (dueStep env forSender api e).interfaceAddress = api.interfaceAddress :=
      interfaceAddress_put
    obtain ⟨hsame, hrest⟩ := ih (dueStep env forSender api e) hl fun e' he' => by
      have hne : e'.1 ≠ e.1 := fun hc => hnot (hc ▸ List.mem_map_of_mem he')
      rw [hput, if_neg fun hc => hne hc.2]
      exact h e' (List.mem_cons_of_mem _ he')
    refine ⟨hsame.trans haddress, fun forSender' id' => ?_⟩
    obtain ⟨hr, ht⟩ := hrest forSender' id'
    rw [List.foldl_cons, hr, ht, haddress, hput, htold, List.map_cons, List.append_assoc]
    by_cases hfs : forSender' = forSender
    · subst hfs
      by_cases hk : id' = e.1
      · subst hk
        simp [hnot, hrec]
      · by_cases hm : id' ∈ l.map Prod.fst <;> simp [hk, hm]
    · simp [hfs]

/-- A loop over senders or receivers is one over resources. -/
theorem foldl_eq_dueStep {α : Type} {f : ConnectionApi → Text × α → ConnectionApi} {g : α → Record}
    (hf : ∀ api e, api.record forSender e.1 = some (g e.2) →
      f api e = dueStep env forSender api (e.1, g e.2)) {l : List (Text × α)}
    (hl : (l.map Prod.fst).Nodup) (h : ∀ e ∈ l, api.record forSender e.1 = some (g e.2)) :
    l.foldl f api = (l.map fun e => (e.1, g e.2)).foldl (dueStep env forSender) api := by
  induction l generalizing api with
  | nil => rfl
  | cons e l ih =>
    obtain ⟨hnot, hl⟩ := List.nodup_cons.mp hl
    have hrec := h e List.mem_cons_self
    rw [List.foldl_cons, List.map_cons, List.foldl_cons, hf api e hrec]
    refine ih hl fun e' he' => ?_
    have hne : e'.1 ≠ e.1 := fun hc => hnot (hc ▸ List.mem_map_of_mem he')
    rw [← h e' (List.mem_cons_of_mem _ he'), dueStep, record_tell,
      record_put (owned_record hrec).due, if_neg fun hc => hne hc.2]

theorem entries_senders {e : Text × ConnectionSender} (he : e ∈ api.senders.entries) :
    api.record true e.1 = some e.2.record :=
  congrArg (Option.map _) (api.senders.mem_entries_iff.mp he)

theorem entries_receivers {e : Text × ConnectionReceiver} (he : e ∈ api.receivers.entries) :
    api.record false e.1 = some e.2.record :=
  congrArg (Option.map _) (api.receivers.mem_entries_iff.mp he)

/-- What is not kept under an id is no resource. -/
theorem mem_keys_of_record (h : api.record forSender id ≠ none) :
    id ∈ if forSender then api.senders.keys else api.receivers.keys := by
  cases forSender with
  | true =>
    obtain ⟨r, hr⟩ := Option.ne_none_iff_exists'.mp h
    obtain ⟨sender, hf, -⟩ := Option.map_eq_some_iff.mp hr
    exact api.senders.mem_keys_iff.mpr ⟨sender, hf⟩
  | false =>
    obtain ⟨r, hr⟩ := Option.ne_none_iff_exists'.mp h
    obtain ⟨receiver, hf, -⟩ := Option.map_eq_some_iff.mp hr
    exact api.receivers.mem_keys_iff.mpr ⟨receiver, hf⟩

/-- **What a request does first**, to each resource by itself. -/
theorem applyDueActivations_spec (hk : Keyed api) (env : Surroundings) :
    (api.applyDueActivations env).interfaceAddress = api.interfaceAddress ∧
    ∀ forSender id,
      (api.applyDueActivations env).record forSender id =
        (api.record forSender id).map (Record.due api.interfaceAddress env forSender) ∧
      (api.applyDueActivations env).toldOf forSender id = api.toldOf forSender id ++
        (api.record forSender id).elim [] (Record.dueCalls api.interfaceAddress env forSender) := by
  have hkeys : ∀ {α : Type} {g : α → Record} (l : List (Text × α)),
      (l.map fun e => (e.1, g e.2)).map Prod.fst = l.map Prod.fst := fun l => by
    rw [List.map_map]
    rfl
  obtain ⟨ha, hs⟩ := foldl_dueStep env true api
    (l := api.senders.entries.map fun e => (e.1, e.2.record))
    (by rw [hkeys]; exact api.senders.keys_nodup) fun e he => by
      obtain ⟨e', he', rfl⟩ := List.mem_map.mp he
      exact ⟨entries_senders he', hk _ _ _ (entries_senders he')⟩
  rw [← foldl_eq_dueStep (fun a e he => applyDueSender_eq he) api.senders.keys_nodup
    fun e he => entries_senders he] at ha hs
  rw [applyDueActivations]
  generalize api.senders.entries.foldl (applyDueSender env) api = due at ha hs ⊢
  have hsame : ∀ id, due.record false id = api.record false id := fun id =>
    (hs false id).1.trans (if_neg (by simp))
  obtain ⟨hb, hr⟩ := foldl_dueStep env false due
    (l := api.receivers.entries.map fun e => (e.1, e.2.record))
    (by rw [hkeys]; exact api.receivers.keys_nodup) fun e he => by
      obtain ⟨e', he', rfl⟩ := List.mem_map.mp he
      exact ⟨(hsame _).trans (entries_receivers he'), hk _ _ _ (entries_receivers he')⟩
  rw [← foldl_eq_dueStep (fun a e he => applyDueReceiver_eq he) api.receivers.keys_nodup
    fun e he => (hsame _).trans (entries_receivers he)] at hb hr
  refine ⟨hb.trans ha, fun forSender id => ?_⟩
  obtain ⟨hr, ht⟩ := hr forSender id
  obtain ⟨hs, hst⟩ := hs forSender id
  rw [hr, ht, hs, hst, ha, hkeys, hkeys]
  by_cases hnone : api.record forSender id = none
  · simp [hnone]
  have hin := mem_keys_of_record hnone
  cases forSender with
  | true => simp [show id ∈ api.senders.entries.map Prod.fst from hin]
  | false => simp [show id ∈ api.receivers.entries.map Prod.fst from hin]

/-! ## The patches of a request -/

theorem patchStaged_of_none (h : api.record forSender id = none) (body : Except Text Json) :
    (api.patchStaged env forSender id body).1 = api := by
  rcases api.patchStaged_cases env forSender id body with ⟨-, e, hp⟩ | ⟨r, _, _, _, hr, -⟩
  · rw [hp]
  · rw [h] at hr
    cases hr

/-- **A request is what has fallen due and the patches it carries.** -/
theorem handle_fst (api : ConnectionApi) (env : Surroundings) (method path : Text)
    (body : Except Text Json) : (api.handle env method path body).1 =
      (carried env method path body).foldl (patched env) (api.applyDueActivations env) :=
  answer_fst _ env method path body

end ConnectionApi

/-! ## What a request does -/

namespace Record

variable {address : Text} {env : Surroundings} {forSender : Bool} {r r' r'' : Record}
  {body : Except Text Json} {calls : List Told} {answer : ApiResponse}

theorem Patched.id_eq (h : r.Patched address env forSender body r' calls answer) :
    r'.id = r.id := by
  cases h with
  | refused | staged | placeless | promised | unwilling => rfl
  | activated => exact id_activate

theorem Patched.owned (h : r.Patched address env forSender body r' calls answer)
    (ho : r.Owned forSender) : r'.Owned forSender := by
  cases h with
  | refused | staged | placeless | promised | unwilling => exact ho
  | @activated staged _ _ _ _ _ => exact Owned.activate (r := { r with staged := staged }) ho

/-- The calls a patch makes are about the resource itself. -/
theorem Patched.of_mem (h : r.Patched address env forSender body r' calls answer) {t : Told}
    (ht : t ∈ calls) : t.forSender = forSender ∧ t.id = r.id := by
  cases h with
  | refused | staged | placeless | promised => cases ht
  | activated | unwilling =>
    rw [List.mem_singleton.mp ht]
    exact ⟨rfl, rfl⟩

/-- What some patches make of a resource, one after another, with the calls and the answers. -/
inductive Patches (address : Text) (env : Surroundings) (forSender : Bool) :
    Record → List (Except Text Json) → Record → List (List Told × ApiResponse) → Prop
  | nil (r : Record) : Patches address env forSender r [] r []
  | cons {r r' r'' : Record} {body : Except Text Json} {bodies : List (Except Text Json)}
    {calls : List Told} {answer : ApiResponse} {rest : List (List Told × ApiResponse)}
    (h : r.Patched address env forSender body r' calls answer)
    (hs : Patches address env forSender r' bodies r'' rest) :
    Patches address env forSender r (body :: bodies) r'' ((calls, answer) :: rest)

end Record

namespace ConnectionApi

variable {api : ConnectionApi} {env : Surroundings}

/-- **A patch leaves the other resources alone.** -/
theorem patched_spec (hk : Keyed api) (env : Surroundings) (p : Patch) :
    (patched env api p).interfaceAddress = api.interfaceAddress ∧
    ∀ forSender id, (p.forSender = forSender ∧ p.id = id →
      (api.record forSender id = none ∧ (patched env api p).record forSender id = none ∧
        (patched env api p).toldOf forSender id = api.toldOf forSender id) ∨
      ∃ r r' calls, api.record forSender id = some r ∧
        r.Patched api.interfaceAddress env forSender p.body r' calls
          (api.patchStaged env forSender id p.body).2 ∧
        (patched env api p).record forSender id = some r' ∧
        (patched env api p).toldOf forSender id = api.toldOf forSender id ++ calls) ∧
    (¬ (p.forSender = forSender ∧ p.id = id) →
      (patched env api p).record forSender id = api.record forSender id ∧
        (patched env api p).toldOf forSender id = api.toldOf forSender id) := by
  obtain ⟨forSender, id, body⟩ := p
  unfold patched
  dsimp only
  rcases api.patchStaged_cases env forSender id body with
    ⟨hnone, e, hp⟩ | ⟨r, r', calls, answer, hr, hstep, hp⟩
  · rw [hp]
    refine ⟨rfl, fun forSender' id' => ⟨?_, fun _ => ⟨rfl, rfl⟩⟩⟩
    rintro ⟨rfl, rfl⟩
    exact Or.inl ⟨hnone, hnone, rfl⟩
  · have hrec : ∀ forSender' id', ((api.put forSender id r').tell calls).record forSender' id' =
        if forSender' = forSender ∧ id' = id then some r' else api.record forSender' id' :=
      fun _ _ => record_put (hstep.owned (owned_record hr))
    have htold : ∀ forSender' id', ((api.put forSender id r').tell calls).toldOf forSender' id' =
        api.toldOf forSender' id' ++ if forSender' = forSender ∧ id' = id then calls else [] :=
      fun _ _ => (toldOf_tell fun t ht => ⟨(hstep.of_mem ht).1,
        (hstep.of_mem ht).2.trans (hk _ _ _ hr)⟩).trans (congrArg (· ++ _) toldOf_put)
    refine ⟨by rw [hp]; exact interfaceAddress_put, fun forSender' id' => ⟨?_, fun hne => ?_⟩⟩
    · rintro ⟨rfl, rfl⟩
      refine Or.inr ⟨r, r', calls, hr, by rw [hp]; exact hstep, ?_, ?_⟩
      · rw [hp, hrec, if_pos ⟨rfl, rfl⟩]
      · rw [hp, htold, if_pos ⟨rfl, rfl⟩]
    · have hne' : ¬ (forSender' = forSender ∧ id' = id) := fun h => hne ⟨h.1.symm, h.2.symm⟩
      rw [hp, hrec, htold, if_neg hne', if_neg hne', List.append_nil]
      exact ⟨rfl, rfl⟩

theorem Keyed.patched (hk : Keyed api) (p : Patch) : Keyed (patched env api p) := by
  intro forSender id r hr
  obtain ⟨-, hspec⟩ := patched_spec hk env p
  obtain ⟨hown, hother⟩ := hspec forSender id
  by_cases h : p.forSender = forSender ∧ p.id = id
  · rcases hown h with ⟨-, hnone, -⟩ | ⟨r₀, r', calls, hr₀, hstep, hr', -⟩
    · rw [hnone] at hr
      cases hr
    · rw [hr'] at hr
      cases hr
      exact hstep.id_eq.trans (hk _ _ _ hr₀)
  · rw [(hother h).1] at hr
    exact hk _ _ _ hr

/-- The bodies of the patches of one resource. -/
def bodiesOf (forSender : Bool) (id : Text) (l : List Patch) : List (Except Text Json) :=
  (l.filter fun p => p.forSender = forSender ∧ p.id = id).map Patch.body

/-- What patches, and calls made for them, do to the resource there. -/
structure Becomes (env : Surroundings) (forSender : Bool) (id : Text)
    (bodies : List (Except Text Json)) (api api' : ConnectionApi) (r r' : Record)
    (results : List (List Told × ApiResponse)) : Prop where
  patches : r.Patches api.interfaceAddress env forSender bodies r' results
  record : api'.record forSender id = some r'
  told : api'.toldOf forSender id = api.toldOf forSender id ++ results.flatMap Prod.fst

theorem foldl_patched_spec (hk : Keyed api) (env : Surroundings) (l : List Patch) :
    Keyed (l.foldl (ConnectionApi.patched env) api) ∧
    (l.foldl (ConnectionApi.patched env) api).interfaceAddress = api.interfaceAddress ∧
    ∀ forSender id,
      (api.record forSender id = none →
        (l.foldl (ConnectionApi.patched env) api).record forSender id = none ∧
        (l.foldl (ConnectionApi.patched env) api).toldOf forSender id = api.toldOf forSender id) ∧
      ∀ r, api.record forSender id = some r → ∃ r' results,
        Becomes env forSender id (bodiesOf forSender id l) api
          (l.foldl (ConnectionApi.patched env) api) r r' results := by
  induction l generalizing api with
  | nil => exact ⟨hk, rfl, fun _ _ => ⟨fun h => ⟨h, rfl⟩, fun r hr =>
      ⟨r, [], .nil r, hr, (List.append_nil _).symm⟩⟩⟩
  | cons p l ih =>
    obtain ⟨haddress, hspec⟩ := patched_spec hk env p
    obtain ⟨hkeyed, hsame, hrest⟩ := ih (hk.patched p)
    refine ⟨hkeyed, hsame.trans haddress, fun forSender id => ?_⟩
    obtain ⟨hown, hother⟩ := hspec forSender id
    obtain ⟨hnone, hsome⟩ := hrest forSender id
    rw [List.foldl_cons]
    by_cases h : p.forSender = forSender ∧ p.id = id
    · have hbodies : bodiesOf forSender id (p :: l) = p.body :: bodiesOf forSender id l := by
        unfold bodiesOf
        rw [List.filter_cons_of_pos (by simpa using h), List.map_cons]
      rcases hown h with ⟨h0, hn, ht⟩ | ⟨r₀, r₁, calls, hr₀, hstep, hr₁, ht⟩
      · refine ⟨fun _ => ⟨(hnone hn).1, (hnone hn).2.trans ht⟩, fun r hr => ?_⟩
        rw [h0] at hr
        cases hr
      · refine ⟨fun h0 => ?_, fun r hr => ?_⟩
        · rw [hr₀] at h0
          cases h0
        · rw [hr₀] at hr
          cases hr
          obtain ⟨r', results, hb⟩ := hsome r₁ hr₁
          have hpatches := hb.patches
          rw [haddress] at hpatches
          refine ⟨r', (calls, (api.patchStaged env forSender id p.body).2) :: results, ?_,
            hb.record, ?_⟩
          · rw [hbodies]
            exact .cons hstep hpatches
          · rw [hb.told, ht, List.append_assoc]
            rfl
    · have hbodies : bodiesOf forSender id (p :: l) = bodiesOf forSender id l := by
        unfold bodiesOf
        rw [List.filter_cons_of_neg (by simpa using h)]
      obtain ⟨hr, ht⟩ := hother h
      rw [hr, ht] at hnone
      refine ⟨hnone, fun r h0 => ?_⟩
      obtain ⟨r', results, hb⟩ := hsome r (hr.trans h0)
      have hpatches := hb.patches
      rw [haddress] at hpatches
      exact ⟨r', results, by rw [hbodies]; exact hpatches, hb.record, by rw [hb.told, ht]⟩

theorem Keyed.applyDueActivations (hk : Keyed api) (env : Surroundings) :
    Keyed (api.applyDueActivations env) := by
  intro forSender id r hr
  rw [((applyDueActivations_spec hk env).2 forSender id).1] at hr
  obtain ⟨r₀, hr₀, rfl⟩ := Option.map_eq_some_iff.mp hr
  exact Record.id_due.trans (hk _ _ _ hr₀)

/-- **What a request does to each resource**: what has fallen due there happens, and then the patches
the request carries for it. -/
theorem handle_spec (hk : Keyed api) (env : Surroundings) (method path : Text)
    (body : Except Text Json) :
    Keyed (api.handle env method path body).1 ∧
    (api.handle env method path body).1.interfaceAddress = api.interfaceAddress ∧
    ∀ forSender id,
      (api.record forSender id = none →
        (api.handle env method path body).1.record forSender id = none ∧
        (api.handle env method path body).1.toldOf forSender id = api.toldOf forSender id) ∧
      ∀ r, api.record forSender id = some r → ∃ r' results,
        (r.due api.interfaceAddress env forSender).Patches api.interfaceAddress env forSender
          (bodiesOf forSender id (carried env method path body)) r' results ∧
        (api.handle env method path body).1.record forSender id = some r' ∧
        (api.handle env method path body).1.toldOf forSender id = api.toldOf forSender id ++
          (r.dueCalls api.interfaceAddress env forSender ++ results.flatMap Prod.fst) := by
  rw [handle_fst]
  obtain ⟨haddress, hdue⟩ := applyDueActivations_spec hk env
  obtain ⟨hkeyed, hsame, hspec⟩ :=
    foldl_patched_spec (hk.applyDueActivations env) env (carried env method path body)
  refine ⟨hkeyed, hsame.trans haddress, fun forSender id => ?_⟩
  obtain ⟨hr, ht⟩ := hdue forSender id
  obtain ⟨hnone, hsome⟩ := hspec forSender id
  refine ⟨fun h0 => ?_, fun r h0 => ?_⟩
  · rw [h0] at hr ht
    obtain ⟨h1, h2⟩ := hnone hr
    exact ⟨h1, h2.trans (ht.trans (List.append_nil _))⟩
  · rw [h0] at hr ht
    obtain ⟨r', results, hb⟩ := hsome _ hr
    have hpatches := hb.patches
    rw [haddress] at hpatches
    refine ⟨r', results, hpatches, hb.record, ?_⟩
    rw [hb.told, ht, List.append_assoc]
    rfl

end ConnectionApi

end Aes67.Ravenna
