import Aes67.Ravenna.Reported
import Aes67.Nmos.Handed

/-!
# Promises of the driver's server

A scheduled activation is promised with a 202 and waits in the API. It is handed to the driver by the
first request that finds it due, unless the resource was written anew before, as it is whenever the
driver lists it with another look.

* `Activates`: a patch answered with an activation; `Promises`: a request that makes a promise;
* `Op.handed`, `handedIn`: what a step and a run hand to the driver's patcher;
* `Steps`, with `pending_step`: what a step does to a promise;
* `Survives`: the resource looks as it did until the promise is due;
* **`handed_once_iff`**.
-/

namespace Aes67.Ravenna

namespace Record

variable {address : Text} {env : Surroundings} {forSender : Bool} {r r' : Record}
  {body : Except Text Json} {calls : List Told} {answer : ApiResponse}

/-- A patch that is not answered with an activation leaves what is promised. -/
theorem Patched.quiet (h : r.Patched address env forSender body r' calls answer)
    (hq : ¬ (answer.ok = true ∧ ∃ activation, Asks env body activation ∧ activation.mode ≠ [])) :
    r'.pending = r.pending := by
  cases h with
  | refused | staged | placeless | unwilling => rfl
  | promised h hm _ =>
    refine absurd ⟨rfl, _, asks_of_read h, ?_⟩ hq
    rcases hm with hm | hm <;> rw [hm] <;> decide
  | activated h hm _ _ =>
    refine absurd ⟨rfl, _, asks_of_read h, ?_⟩ hq
    rw [hm]
    decide

/-- A patch hands nothing over but what it asks for itself, and at once. -/
theorem Patched.immediate (h : r.Patched address env forSender body r' calls answer) {t : Told}
    (ht : t ∈ calls) : t.requested.activationMode = kActivateImmediate := by
  cases h with
  | refused | staged | placeless | promised => cases ht
  | activated | unwilling =>
    rw [List.mem_singleton.mp ht]
    rfl

theorem Patches.immediate {bodies : List (Except Text Json)}
    {results : List (List Told × ApiResponse)}
    (h : r.Patches address env forSender bodies r' results) {t : Told}
    (ht : t ∈ results.flatMap Prod.fst) : t.requested.activationMode = kActivateImmediate := by
  induction h with
  | nil r => cases ht
  | cons h hs ih =>
    rw [List.flatMap_cons, List.mem_append] at ht
    exact ht.elim h.immediate ih

/-- A patch answered 202 has made a promise. -/
theorem Patched.promises (h : r.Patched address env forSender body r' calls answer)
    (h202 : answer.status = 202) :
    r'.pending.waiting = true ∧ IsScheduled r'.pending.state.activationMode := by
  cases h with
  | promised _ hm _ => exact ⟨rfl, hm⟩
  | refused | staged | placeless | activated | unwilling => cases h202

end Record

namespace ConnectionApi

variable {api : ConnectionApi} {env : Surroundings} {forSender : Bool} {id : Text}

/-- The patch is answered with an activation, scheduled or immediate. -/
def Activates (env : Surroundings) (api : ConnectionApi) (p : Patch) : Prop :=
  (api.patchStaged env p.forSender p.id p.body).2.ok = true ∧
    ∃ activation, Record.Asks env p.body activation ∧ activation.mode ≠ []

/-- No patch of the resource among these is answered with an activation. -/
def Quiet (env : Surroundings) (forSender : Bool) (id : Text) (api : ConnectionApi)
    (l : List Patch) : Prop :=
  Along (patched env) (fun api p => p.forSender = forSender → p.id = id → ¬ Activates env api p)
    api l

/-- **Quiet patches leave what is promised.** -/
theorem Quiet.pending {l : List Patch} (hk : Keyed api) (hq : Quiet env forSender id api l)
    {r r' : Record} (hr : api.record forSender id = some r)
    (hr' : (l.foldl (patched env) api).record forSender id = some r') :
    r'.pending = r.pending := by
  induction l generalizing api r with
  | nil => rw [Option.some.inj (hr'.symm.trans hr)]
  | cons p l ih =>
    obtain ⟨hown, hother⟩ := (patched_spec hk env p).2 forSender id
    by_cases h : p.forSender = forSender ∧ p.id = id
    · rcases hown h with ⟨hnone, -⟩ | ⟨r₀, r₁, calls, hr₀, hstep, hr₁, -⟩
      · rw [hnone] at hr
        cases hr
      · rw [hr₀] at hr
        cases hr
        have hquiet := hq.1 h.1 h.2
        rw [Activates, h.1, h.2] at hquiet
        exact (ih (hk.patched p) hq.2 hr₁ hr').trans (hstep.quiet hquiet)
    · exact ih (hk.patched p) hq.2 ((hother h).1.trans hr) hr'

end ConnectionApi

end Aes67.Ravenna

namespace Aes67.Nmos

open Ravenna (ConnectionApi ConnectionState Record Told TaiTime taiReached kActivateImmediate
  IsScheduled)
open Ravenna.ConnectionApi (PendingActivation carried patched)

/-- There is a patcher for the kind of resource. -/
def Driver.hasPatcher (driver : Driver) (forSender : Bool) : Bool :=
  if forSender then driver.hasSenderPatcher else driver.patcher.isSome

/-- The states of the scheduled activations among some calls. -/
def scheduledOf (l : List Told) : List ConnectionState :=
  (l.filter fun t => t.requested.activationMode ≠ kActivateImmediate).map Told.requested

@[simp] theorem scheduledOf_append (l l' : List Told) :
    scheduledOf (l ++ l') = scheduledOf l ++ scheduledOf l' := by
  simp [scheduledOf]

theorem scheduledOf_immediate {l : List Told}
    (h : ∀ t ∈ l, t.requested.activationMode = kActivateImmediate) : scheduledOf l = [] := by
  unfold scheduledOf
  rw [List.filter_eq_nil_iff.mpr fun t ht => by simp [h t ht], List.map_nil]

theorem scheduledOf_singleton {t : Told}
    (h : t.requested.activationMode ≠ kActivateImmediate) : scheduledOf [t] = [t.requested] := by
  simp [scheduledOf, h]

namespace ConnectionAPIServer

namespace Op

/-- The step is a request the API answers once the time has come. -/
def Due (due : TaiTime) : Op → Prop
  | .route v method path _ => Delegated v method path ∧ taiReached due v.arrival = true
  | .activeState _ => False

variable (forSender : Bool) (id : Text) (server : ConnectionAPIServer)

/-- No patch of the resource is answered with an activation. -/
def Quiet : Op → Prop
  | .route v method path body => Delegated v method path →
    ConnectionApi.Quiet v.surroundings forSender id
      ((server.syncResources v.driver).api.applyDueActivations v.surroundings)
      (carried v.surroundings method path body)
  | .activeState _ => True

/-- What the step hands to the driver's patcher for the resource. -/
def handed (op : Op) : List Told :=
  if op.driver.hasPatcher forSender then
    ((server.step op).api.toldOf forSender id).drop (server.api.toldOf forSender id).length
  else []

end Op

variable {server : ConnectionAPIServer} {forSender : Bool} {id : Text} {r : Record} {op : Op}
  {ops : List Op} {pending : PendingActivation}

/-- What a step does to a resource whose promise, once the lists are copied, is `pending`: it hands
the promise over once it is due. What is promised then stays, unless a patch is answered with an
activation. -/
structure Steps (forSender : Bool) (id : Text) (server : ConnectionAPIServer) (op : Op)
    (pending : PendingActivation) (r : Record) : Prop where
  record : (server.step op).api.record forSender id = some r
  due : pending.waiting = true → op.Due pending.due → scheduledOf (op.handed forSender id server) =
    if op.driver.hasPatcher forSender then [pending.state] else []
  early : ¬ (pending.waiting = true ∧ op.Due pending.due) →
    scheduledOf (op.handed forSender id server) = []
  freed : op.Quiet forSender id server → pending.waiting = true → op.Due pending.due →
    r.pending.waiting = false
  kept : op.Quiet forSender id server → ¬ (pending.waiting = true ∧ op.Due pending.due) →
    r.pending = pending

/-- Nothing is handed over where no call is made. -/
theorem handed_of_told (h : (server.step op).api.toldOf forSender id =
    server.api.toldOf forSender id) : op.handed forSender id server = [] := by
  unfold Op.handed
  rw [h, List.drop_length, ite_self]

/-- A request answered by the API. -/
theorem steps_delegate (hs : server.Sound) {v : Visit} {method path : Text}
    {body : Except Text Ravenna.Json} (hd : Delegated v method path)
    (hgo : server.route v method path body = server.delegate v method path body)
    (hr : (server.syncResources v.driver).api.record forSender id = some r)
    (hmode : r.pending.waiting = true →
      r.pending.state.activationMode ≠ kActivateImmediate) :
    ∃ r', Steps forSender id server (.route v method path body) r.pending r' := by
  have hk := (hs.syncResources v.driver).keyed
  obtain ⟨-, hdue⟩ := ConnectionApi.applyDueActivations_spec hk v.surroundings
  obtain ⟨hrec, -⟩ := hdue forSender id
  rw [hr, Option.map_some] at hrec
  obtain ⟨-, -, hhandle⟩ := ConnectionApi.handle_spec hk v.surroundings method path body
  obtain ⟨r', results, hpatches, hr', htold⟩ := (hhandle forSender id).2 r hr
  rw [toldOf_syncResources] at htold
  have hquiet : (Op.route v method path body).Quiet forSender id server → r'.pending =
      (r.due (server.syncResources v.driver).api.interfaceAddress v.surroundings
        forSender).pending := fun hq => by
    refine (hq hd).pending (hk.applyDueActivations v.surroundings) hrec ?_
    rw [← ConnectionApi.handle_fst]
    exact hr'
  have hstep : (server.step (.route v method path body)).api =
      ((server.syncResources v.driver).api.handle v.surroundings method path body).1 := by
    rw [step, hgo]
    rfl
  have hhanded : scheduledOf ((Op.route v method path body).handed forSender id server) =
      if v.driver.hasPatcher forSender then
        scheduledOf (r.dueCalls (server.syncResources v.driver).api.interfaceAddress
          v.surroundings forSender)
      else [] := by
    unfold Op.handed
    rw [hstep, htold, List.drop_left, apply_ite scheduledOf, scheduledOf_append,
      scheduledOf_immediate fun t ht => hpatches.immediate ht, List.append_nil]
    rfl
  refine ⟨r', by rw [hstep]; exact hr', fun hw hdue => ?_, fun hnot => ?_, fun hq hw hdue => ?_,
    fun hq hnot => ?_⟩
  · have hisDue : r.pending.isDue v.surroundings.arrival = true :=
      Bool.and_eq_true_iff.mpr ⟨hw, hdue.2⟩
    rw [hhanded, Record.dueCalls, if_pos hisDue]
    have hone := scheduledOf_singleton (t := r.free.call
      (server.syncResources v.driver).api.interfaceAddress v.surroundings forSender
      r.pending.state) (hmode hw)
    rw [hone]
    rfl
  · have hisDue : r.pending.isDue v.surroundings.arrival = false :=
      eq_false_of_ne_true fun h => hnot
        ⟨(Bool.and_eq_true_iff.mp h).1, hd, (Bool.and_eq_true_iff.mp h).2⟩
    rw [hhanded, (Record.due_of_early _ forSender hisDue).2]
    exact ite_self _
  · have hisDue : r.pending.isDue v.surroundings.arrival = true :=
      Bool.and_eq_true_iff.mpr ⟨hw, hdue.2⟩
    rw [hquiet hq, Record.due, if_pos hisDue]
    unfold Record.activate Record.accepted
    split_ifs <;> rfl
  · have hisDue : r.pending.isDue v.surroundings.arrival = false :=
      eq_false_of_ne_true fun h => hnot
        ⟨(Bool.and_eq_true_iff.mp h).1, hd, (Bool.and_eq_true_iff.mp h).2⟩
    rw [hquiet hq, (Record.due_of_early _ forSender hisDue).1]

/-- **What a step does to a promise**: it leaves it, or hands it over once it is due; where the
resource is written anew, there is none any more. -/
theorem pending_step (hs : server.Sound) (hr : server.api.record forSender id = some r)
    (hl : op.Lists forSender id)
    (hmode : r.pending.waiting = true →
      r.pending.state.activationMode ≠ kActivateImmediate) :
    ∃ pending r', (op.Leaves forSender id server → pending = r.pending) ∧
      (¬ op.Leaves forSender id server → pending = {}) ∧
      Steps forSender id server op pending r' := by
  have hcopied : op.Copies → ∃ r₀,
      (server.syncResources op.driver).api.record forSender id = some r₀ ∧
      (op.Leaves forSender id server → r₀ = r) ∧
      (¬ op.Leaves forSender id server → r₀.pending = {}) := fun hc => by
    obtain ⟨r₀, hr₀, hleft, hlost⟩ := record_copied hr hl hc
    refine ⟨r₀, hr₀, hleft, fun h => ?_⟩
    obtain ⟨e, he, -, -, rfl⟩ := hlost h
    exact (Driver.of_mem_resources he).2.1
  cases op with
  | activeState driver =>
    obtain ⟨r₀, hr₀, hleft, hlost⟩ := hcopied trivial
    refine ⟨r₀.pending, r₀, fun h => congrArg Record.pending (hleft h), hlost, hr₀,
      fun _ hdue => hdue.elim, fun _ => ?_, fun _ _ hdue => hdue.elim, fun _ _ => rfl⟩
    have htold : (server.step (.activeState driver)).api.toldOf forSender id =
        server.api.toldOf forSender id := toldOf_syncResources driver
    rw [handed_of_told htold]
    rfl
  | route v method path body =>
    rcases server.route_eq v method path body with ⟨hd, hgo⟩ | ⟨hd, hgo⟩
    · obtain ⟨r₀, hr₀, hleft, hlost⟩ := hcopied hd
      obtain ⟨r', hsteps⟩ := steps_delegate hs hd hgo hr₀ fun hw => by
        by_cases hc : (Op.route v method path body).Leaves forSender id server
        · rw [hleft hc] at hw ⊢
          exact hmode hw
        · rw [hlost hc] at hw
          cases hw
      exact ⟨r₀.pending, r', fun h => congrArg Record.pending (hleft h), hlost, hsteps⟩
    · refine ⟨r.pending, r, fun _ => rfl, fun hn => absurd (fun hc => absurd hc hd) hn, ?_,
        fun _ hdue => absurd hdue.1 hd, fun _ => ?_, fun _ _ hdue => absurd hdue.1 hd,
        fun _ _ => rfl⟩
      · rw [step, hgo]
        exact hr
      · rw [handed_of_told (by rw [step, hgo])]
        rfl

/-! ## Runs -/

variable (forSender id) in
open Classical in
/-- The scheduled activations a run hands over, one after another, up to the request that answers a
patch of the resource with another activation. What is handed over in that request is what was
promised before. -/
noncomputable def handedIn : ConnectionAPIServer → List Op → List ConnectionState
  | _, [] => []
  | server, op :: ops => scheduledOf (op.handed forSender id server) ++
      if op.Quiet forSender id server then handedIn (server.step op) ops else []

/-- Where nothing is promised, nothing is handed over. -/
theorem handedIn_of_free (hs : server.Sound) (hr : server.api.record forSender id = some r)
    (hfree : r.pending.waiting = false) (hl : ∀ op ∈ ops, op.Lists forSender id) :
    handedIn forSender id server ops = [] := by
  induction ops generalizing server r with
  | nil => rfl
  | cons op ops ih =>
    obtain ⟨pending, r', hleft, hlost, hsteps⟩ :=
      pending_step hs hr (hl op List.mem_cons_self) fun hw => by
        rw [hfree] at hw
        cases hw
    have hpending : pending.waiting = false := by
      by_cases hc : op.Leaves forSender id server
      · rw [hleft hc, hfree]
      · rw [hlost hc]
    have hnot : ¬ (pending.waiting = true ∧ op.Due pending.due) := fun h => by
      rw [hpending] at h
      cases h.1
    rw [handedIn, hsteps.early hnot, List.nil_append]
    split_ifs with hq
    · exact ih (sound_step hs op) hsteps.record (by rw [hsteps.kept hq hnot, hpending])
        fun op' hop' => hl op' (List.mem_cons_of_mem _ hop')
    · rfl

/-- No patch of the resource is answered with another activation before a request finds the promise
due. -/
def Stands (due : TaiTime) (forSender : Bool) (id : Text) : ConnectionAPIServer → List Op → Prop
  | _, [] => True
  | server, op :: ops => op.Due due ∨
      op.Quiet forSender id server ∧ Stands due forSender id (server.step op) ops

/-- Until a request finds the promise due, that one included, the resource looks as it did; and there
is a patcher for that request. -/
def Survives (due : TaiTime) (forSender : Bool) (id : Text) :
    ConnectionAPIServer → List Op → Prop
  | _, [] => False
  | server, op :: ops => op.Leaves forSender id server ∧
    (op.Due due ∧ op.driver.hasPatcher forSender = true ∨
      ¬ op.Due due ∧ Survives due forSender id (server.step op) ops)

/-- **What becomes of a promise.** -/
theorem handedIn_iff (hs : server.Sound) (hr : server.api.record forSender id = some r)
    (hw : r.pending.waiting = true) (hm : r.pending.state.activationMode ≠ kActivateImmediate)
    (hl : ∀ op ∈ ops, op.Lists forSender id)
    (hstands : Stands r.pending.due forSender id server ops) :
    handedIn forSender id server ops = [r.pending.state] ↔
      Survives r.pending.due forSender id server ops := by
  induction ops generalizing server r with
  | nil => exact iff_of_false (fun h => by cases h) not_false
  | cons op ops ih =>
    obtain ⟨pending, r', hleft, hlost, hsteps⟩ :=
      pending_step hs hr (hl op List.mem_cons_self) fun _ => hm
    have hl' : ∀ op' ∈ ops, op'.Lists forSender id := fun op' hop' =>
      hl op' (List.mem_cons_of_mem _ hop')
    have hs' := sound_step hs op
    -- where the promise is gone, the rest of the run has nothing to hand over
    have hrest : (op.Quiet forSender id server → r'.pending.waiting = false) →
        handedIn forSender id server (op :: ops) =
          scheduledOf (op.handed forSender id server) := fun hfree => by
      rw [handedIn]
      split_ifs with hq
      · rw [handedIn_of_free hs' hsteps.record (hfree hq) hl', List.append_nil]
      · exact List.append_nil _
    rw [Survives]
    by_cases hc : op.Leaves forSender id server
    · obtain rfl := hleft hc
      by_cases hd : op.Due r.pending.due
      · rw [hrest fun hq => hsteps.freed hq hw hd, hsteps.due hw hd]
        by_cases hp : op.driver.hasPatcher forSender = true
        · rw [if_pos hp]
          exact iff_of_true rfl ⟨hc, Or.inl ⟨hd, hp⟩⟩
        · rw [if_neg hp]
          refine iff_of_false (fun h => by cases h) ?_
          rintro ⟨-, ⟨-, hp'⟩ | ⟨hd', -⟩⟩
          · exact hp hp'
          · exact hd' hd
      · have hnot : ¬ (r.pending.waiting = true ∧ op.Due r.pending.due) := fun h => hd h.2
        obtain ⟨hq, hstands⟩ := hstands.resolve_left hd
        have hsame := hsteps.kept hq hnot
        rw [← hsame] at hw hm hstands
        have hiff := ih hs' hsteps.record hw hm hl' hstands
        rw [hsame] at hiff
        rw [handedIn, if_pos hq, hsteps.early hnot, List.nil_append, hiff]
        exact ⟨fun h => ⟨hc, Or.inr ⟨hd, h⟩⟩, fun h => h.2.elim (fun h' => absurd h'.1 hd) And.right⟩
    · obtain rfl := hlost hc
      have hnot : ¬ (({} : PendingActivation).waiting = true ∧
          op.Due ({} : PendingActivation).due) := fun h => by cases h.1
      rw [hrest fun hq => by rw [hsteps.kept hq hnot], hsteps.early hnot]
      exact iff_of_false (fun h => by cases h) fun h => hc h.1

/-- The request answers 202 to a patch of the resource, and no patch after it in the same request is
answered with an activation: what is promised then. -/
def Promises (server : ConnectionAPIServer) (v : Visit) (method path : Text)
    (body : Except Text Ravenna.Json) (forSender : Bool) (id : Text)
    (pending : PendingActivation) : Prop :=
  Delegated v method path ∧ ∃ before patch after,
    carried v.surroundings method path body = before ++ ⟨forSender, id, patch⟩ :: after ∧
    let api := before.foldl (patched v.surroundings)
      ((server.syncResources v.driver).api.applyDueActivations v.surroundings)
    let answered := api.patchStaged v.surroundings forSender id patch
    answered.2.status = 202 ∧ answered.1.promiseOf forSender id = some pending ∧
      ConnectionApi.Quiet v.surroundings forSender id answered.1 after

theorem promiseOf_eq {api : ConnectionApi} :
    api.promiseOf forSender id = (api.record forSender id).map Record.pending := by
  unfold ConnectionApi.promiseOf ConnectionApi.record
  cases forSender <;> simp [Function.comp_def] <;> rfl

/-- What was promised waits, and is scheduled. -/
theorem waiting_of_promises (hs : server.Sound) {v : Visit} {method path : Text}
    {body : Except Text Ravenna.Json}
    (h : Promises server v method path body forSender id pending) :
    ∃ r, (server.step (.route v method path body)).api.record forSender id = some r ∧
      r.pending = pending ∧ pending.waiting = true ∧ IsScheduled pending.state.activationMode := by
  obtain ⟨hd, before, patch, after, hcarried, h202, hpromise, hquiet⟩ := h
  have hgo : server.route v method path body = server.delegate v method path body :=
    (server.route_eq v method path body).elim And.right fun h => absurd hd h.1
  have hk := ((hs.syncResources v.driver).keyed).applyDueActivations v.surroundings
  have hk' := (ConnectionApi.foldl_patched_spec hk v.surroundings before).1
  rw [promiseOf_eq] at hpromise
  obtain ⟨r, hr, rfl⟩ := Option.map_eq_some_iff.mp hpromise
  obtain ⟨-, -, hafter⟩ := ConnectionApi.foldl_patched_spec
    (hk'.patched ⟨forSender, id, patch⟩) v.surroundings after
  obtain ⟨r', results, hbecomes⟩ := (hafter forSender id).2 r hr
  refine ⟨r', ?_, hquiet.pending (hk'.patched ⟨forSender, id, patch⟩) hr hbecomes.record, ?_⟩
  · rw [step, hgo]
    change ((server.syncResources v.driver).api.handle v.surroundings method path body).1.record
      forSender id = some r'
    rw [ConnectionApi.handle_fst, hcarried, List.foldl_append, List.foldl_cons]
    exact hbecomes.record
  · obtain ⟨hown, -⟩ := (ConnectionApi.patched_spec hk' v.surroundings
      ⟨forSender, id, patch⟩).2 forSender id
    rcases hown ⟨rfl, rfl⟩ with ⟨-, hnone, -⟩ | ⟨r₀, r₁, calls, -, hstep, hr₁, -⟩
    · exact absurd (hnone.symm.trans hr) (by simp)
    · obtain rfl := Option.some.inj (hr₁.symm.trans hr)
      exact hstep.promises h202

/-- **When a promise is handed over exactly once**: where every step that copies the driver's lists,
up to the request that finds the promise due, finds the resource as it was, and there is a patcher
then. Before the promise the run is arbitrary; after it, it lists the resource, and no patch of it is
answered with another activation first. -/
theorem handed_once_iff (earlier : List Op) {v : Visit} {method path : Text}
    {body : Except Text Ravenna.Json}
    (hpromise : Promises (earlier.foldl step {}) v method path body forSender id pending)
    (later : List Op) (hlisted : ∀ op ∈ later, op.Lists forSender id)
    (hstands : Stands pending.due forSender id
      ((earlier.foldl step {}).step (.route v method path body)) later) :
    handedIn forSender id ((earlier.foldl step {}).step (.route v method path body)) later =
        [pending.state] ↔
      Survives pending.due forSender id
        ((earlier.foldl step {}).step (.route v method path body)) later := by
  have hs := sound_run earlier
  obtain ⟨r, hr, rfl, hw, hm⟩ := waiting_of_promises hs hpromise
  refine handedIn_iff (sound_step hs _) hr hw ?_ hlisted hstands
  rcases hm with hm | hm <;> rw [hm] <;> decide

/-! ## A receiver with another label -/

/-- The receiver, listed with another label. -/
def relabelled : Driver := { oneReceiver with receivers := [{ id := "r".toList, label := "x".toList }] }

theorem delegated_stagedPath (v : Visit) : Delegated v "PATCH".toList stagedPath :=
  ⟨["single".toList, "receivers".toList, "r".toList, "staged".toList], by decide,
    fun h => absurd h.2.1 (by decide)⟩

/-- What the first patch promises. -/
theorem promises_atFirstSecond : ∃ pending : PendingActivation, pending.due = { seconds := 1 } ∧
    Promises {} (visitAt oneReceiver 0) "PATCH".toList stagedPath (.ok (.obj atFirstSecond)) false
      "r".toList pending := by
  let api := (({} : ConnectionAPIServer).syncResources oneReceiver).api.applyDueActivations
    (visitAt oneReceiver 0).surroundings
  let answered := api.patchStaged (visitAt oneReceiver 0).surroundings false "r".toList
    (.ok (.obj atFirstSecond))
  have hdue : (answered.1.promiseOf false "r".toList).map PendingActivation.due =
      some { seconds := 1 } := by decide +kernel
  have h202 : answered.2.status = 202 := by decide +kernel
  obtain ⟨pending, hpending, hat⟩ := Option.map_eq_some_iff.mp hdue
  exact ⟨pending, hat, delegated_stagedPath _, [], .ok (.obj atFirstSecond), [], rfl, h202,
    hpending, trivial⟩

/-- A patch that changes nothing, once the promise is due. -/
def afterwards (driver : Driver) : List Op := [patchAt driver 2 []]

theorem lists_afterwards {driver : Driver}
    (h : ∃ e ∈ driver.resources, e.forSender = false ∧ e.id = "r".toList) :
    ∀ op ∈ afterwards driver, op.Lists false "r".toList := by
  intro op hop _
  rw [List.mem_singleton.mp hop]
  exact h

theorem due_afterwards (driver : Driver) :
    (patchAt driver 2 []).Due { seconds := 1 } := ⟨delegated_stagedPath _, rfl⟩

/-- A promise that is kept. -/
theorem kept_atFirstSecond : ∃ pending : PendingActivation,
    handedIn false "r".toList (({} : ConnectionAPIServer).step (patchAt oneReceiver 0 atFirstSecond))
      (afterwards oneReceiver) = [pending.state] := by
  obtain ⟨pending, hat, hpromise⟩ := promises_atFirstSecond
  have hdue : (patchAt oneReceiver 2 []).Due pending.due := hat ▸ due_afterwards oneReceiver
  refine ⟨pending, (handed_once_iff [] hpromise (afterwards oneReceiver)
    (lists_afterwards ⟨_, List.mem_cons_self, rfl, rfl⟩) (Or.inl hdue)).mpr ?_⟩
  refine ⟨fun _ e he _ _ => ?_, Or.inl ⟨hdue, rfl⟩⟩
  rw [List.mem_singleton.mp he]
  decide +kernel

/-- **A promise that is lost**: the receiver is listed with another label before it is due. -/
theorem relabelled_loses : ¬ ∀ pending : PendingActivation,
    Promises {} (visitAt oneReceiver 0) "PATCH".toList stagedPath (.ok (.obj atFirstSecond)) false
      "r".toList pending →
    (∀ op ∈ afterwards relabelled, op.Lists false "r".toList) →
    Stands pending.due false "r".toList
      (({} : ConnectionAPIServer).step (patchAt oneReceiver 0 atFirstSecond))
      (afterwards relabelled) →
    handedIn false "r".toList
      (({} : ConnectionAPIServer).step (patchAt oneReceiver 0 atFirstSecond))
      (afterwards relabelled) = [pending.state] := by
  intro h
  obtain ⟨pending, hat, hpromise⟩ := promises_atFirstSecond
  have hkept := h pending hpromise (lists_afterwards ⟨_, List.mem_cons_self, rfl, rfl⟩)
    (Or.inl (hat ▸ due_afterwards relabelled))
  have hnone : (scheduledOf ((patchAt relabelled 2 []).handed false "r".toList
      (({} : ConnectionAPIServer).step (patchAt oneReceiver 0 atFirstSecond)))).length = 0 := by
    decide +kernel
  rw [afterwards, handedIn, List.eq_nil_of_length_eq_zero hnone, handedIn, ite_self] at hkept
  cases hkept

end ConnectionAPIServer

end Aes67.Nmos
