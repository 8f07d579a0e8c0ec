import Aes67.Ravenna.Restore

/-!
# The pending lock

A grid with a change promised is locked until the change happens or is deleted. The API has no
thread: a promise is kept inside the next request, before the request itself is looked at.

* `SharedOp.time`, `applied`, `scheduled`: when a request arrives, which promises it keeps and
  which it makes;
* `applyDueActivations_eq`: the promises that have come due are taken one after another, the others
  stay;
* `pending_sharedStep`: what one operation does to what is pending;
* **`locked`**: at most one promise waits, nothing else moves the grid meanwhile, and each is kept
  at most once, by the first request that is not early for it.
-/

namespace Aes67.Ravenna

namespace ChannelMappingApi

variable {api : ChannelMappingApi} {now : TaiTime} {a : PendingActivation} {op : SharedOp}
  {request : Json}

/-! ## Promises made and kept -/

/-- When a request arrives; what is no request of this API has no time. Any GET does what a GET of
`map/active` does. -/
def SharedOp.time : SharedOp → Option TaiTime
  | .grid (.post now _) | .grid (.active now) | .grid (.delete now _) => some now
  | _ => none

/-- The operation deletes the activation. -/
def SharedOp.Deletes (op : SharedOp) (id : Text) : Prop := ∃ now, op = .grid (.delete now id)

/-- The activations that are still early. -/
def early (now : TaiTime) (l : List PendingActivation) : List PendingActivation :=
  l.filter fun a => !taiReached a.due now

/-- The activations an operation applies. -/
def applied (api : ChannelMappingApi) (op : SharedOp) : List PendingActivation :=
  match op.time with
  | none => []
  | some now => api.pending.filter fun a => taiReached a.due now

/-- The activations an operation schedules. -/
def scheduled (api : ChannelMappingApi) : SharedOp → List PendingActivation
  | .grid (.post now request) => (api.handlePost now request).1.pending.drop
      (api.applyDueActivations now).pending.length
  | _ => []

/-- An activation that has come due. -/
def applyOne (now : TaiTime) (api : ChannelMappingApi) (a : PendingActivation) :
    ChannelMappingApi := (api.applyAction now a.action true).1

theorem applyAction_pending (api : ChannelMappingApi) (now : TaiTime) (action : Json)
    (commit : Bool) : (api.applyAction now action commit).1.pending = api.pending := by
  rw [applyAction]
  split
  · rfl
  · dsimp only
    split
    · rfl
    · split_ifs <;> rfl

theorem applyDue_eq (l : List PendingActivation) : applyDue now l api =
    let taken := (l.filter fun a => taiReached a.due now).foldl (applyOne now) api
    { taken with pending := early now l ++ api.pending } := by
  induction l generalizing api with
  | nil => rfl
  | cons a l ih =>
    rw [applyDue, early, List.filter_cons, List.filter_cons]
    split_ifs with h1 h2
    · simp [h1] at h2
    · rw [ih, applyAction_pending]
      rfl
    · rw [ih]
      rfl
    · simp [h1] at *

/-- **What a request does first**: the promises that have come due are taken, the others stay. -/
theorem applyDueActivations_eq (api : ChannelMappingApi) (now : TaiTime) :
    api.applyDueActivations now =
      let taken := (api.pending.filter fun a => taiReached a.due now).foldl (applyOne now)
        { api with pending := [] }
      { taken with pending := early now api.pending } := by
  rw [applyDueActivations, applyDue_eq, List.append_nil]

theorem applyDueActivations_pending : (api.applyDueActivations now).pending = early now api.pending :=
  congrArg pending (api.applyDueActivations_eq now)

/-- Nothing is due. -/
theorem applyDueActivations_of_early (h : ∀ a ∈ api.pending, taiReached a.due now = false) :
    api.applyDueActivations now = api := by
  have hdue : (api.pending.filter fun a => taiReached a.due now) = [] := by
    rw [List.filter_eq_nil_iff]
    intro a ha
    rw [h a ha]
    decide
  have hearly : early now api.pending = api.pending := by
    rw [early, List.filter_eq_self]
    intro a ha
    rw [h a ha]
    rfl
  rw [applyDueActivations_eq, hdue, hearly]
  rfl

theorem applyDueActivations_of_pending (hp : api.pending = [a]) (h : taiReached a.due now = false) :
    api.applyDueActivations now = api :=
  applyDueActivations_of_early fun b hb => by
    rw [hp, List.mem_singleton] at hb
    rw [hb, h]

/-! ## What is pending -/

/-- What a POST at `now` promises: the mode, the time and the instant are those of its body. -/
structure Promises (now : TaiTime) (request : Json) (a : PendingActivation) : Prop where
  mode : (request.get "activation").get "mode" = .str a.mode
  scheduled : a.mode = "activate_scheduled_relative".toList ∨
    a.mode = "activate_scheduled_absolute".toList
  requestedTime : (request.get "activation").get "requested_time" = .str a.requestedTime
  due : ∃ asked, parseTai a.requestedTime = some asked ∧
    a.due = if a.mode = "activate_scheduled_relative".toList then taiSum now asked else asked

/-- What a POST puts behind what is pending. -/
def queued (api : ChannelMappingApi) (mode requestedTime : Text) (action : Json) (due : TaiTime) :
    PendingActivation where
  id := showNat api.nextActivationId.toNat
  mode := mode
  requestedTime := requestedTime
  activationTime := taiText due
  due := due
  action := action

/-- A POST promises nothing, or the first thing there is. -/
theorem postActivation_pending (api : ChannelMappingApi) (now : TaiTime) (request : Json) :
    (api.postActivation now request).1.pending = api.pending ∨
      api.pending = [] ∧ ∃ a, (api.postActivation now request).1.pending = [a] ∧
        Promises now request a := by
  rw [postActivation]
  split
  · exact Or.inl rfl
  split
  · exact Or.inl rfl
  split
  · next wanted hmode =>
    dsimp only
    split
    · exact Or.inl rfl
    next hknown =>
    split
    · exact Or.inl rfl
    next hfree =>
    rw [not_not] at hfree
    split
    · split <;> exact Or.inl (applyAction_pending _ _ _ _)
    next himmediate =>
    split
    · next requested htime =>
      split
      · exact Or.inl rfl
      · next asked hasked =>
        split
        · exact Or.inl (applyAction_pending _ _ _ _)
        · have hpend := congrArg (· ++ [queued api wanted requested (request.get "action")
            (if wanted = "activate_scheduled_relative".toList then taiSum now asked else asked)])
            (applyAction_pending { api with nextActivationId := api.nextActivationId + 1 } now
              (request.get "action") false)
          have hmodes := Classical.or_iff_not_imp_left.mpr fun h1 =>
            of_not_not fun h2 => hknown ⟨himmediate, h1, h2⟩
          exact Or.inr ⟨hfree, _, hpend.trans (congrArg (· ++ [_]) hfree),
            hmode, hmodes, htime, asked, hasked, rfl⟩
    · exact Or.inl rfl
  · exact Or.inl rfl

/-- What is pending behind a POST. -/
theorem handlePost_pending (api : ChannelMappingApi) (now : TaiTime) (request : Json) :
    (api.handlePost now request).1.pending =
        early now api.pending ++ scheduled api (.grid (.post now request)) ∧
      (scheduled api (.grid (.post now request)) = [] ∨ early now api.pending = [] ∧
        ∃ a, scheduled api (.grid (.post now request)) = [a] ∧ Promises now request a) := by
  rw [scheduled, handlePost, applyDueActivations_pending]
  rcases (api.applyDueActivations now).postActivation_pending now request with
    h | ⟨h0, a, h, ha⟩
  · rw [h, applyDueActivations_pending, List.drop_length, List.append_nil]
    exact ⟨rfl, Or.inl rfl⟩
  · rw [applyDueActivations_pending] at h0
    rw [h, h0]
    exact ⟨rfl, Or.inr ⟨rfl, a, rfl, ha⟩⟩

theorem applied_append_early (l : List PendingActivation) :
    ((l.filter fun a => taiReached a.due now) ++ early now l).Perm l :=
  List.filter_append_perm _ l

/-- **What one operation does to what is pending**: what is due is applied, what is scheduled comes
behind, and only a DELETE takes anything else away. -/
theorem subperm_sharedStep (api : ChannelMappingApi) (op : SharedOp) :
    (applied api op ++ (sharedStep api op).pending).Subperm (api.pending ++ scheduled api op) := by
  have hsplit (now : TaiTime) :
      ((api.pending.filter fun a => taiReached a.due now) ++ early now api.pending).Subperm
        api.pending :=
    (applied_append_early api.pending).subperm
  match op with
  | .matrix _ | .grid (.addReceiver _) | .grid (.removeReceiver _)
  | .grid (.setUsableChannelCount _) | .grid (.activate _ _ _ _) =>
    exact (List.append_nil _ ▸ List.Subperm.refl _ : List.Subperm api.pending (api.pending ++ []))
  | .grid (.post now request) =>
    change List.Subperm (_ ++ (api.handlePost now request).1.pending) _
    rw [(handlePost_pending api now request).1, ← List.append_assoc]
    exact (List.subperm_append_right _).mpr (hsplit now)
  | .grid (.active now) =>
    change List.Subperm (_ ++ (api.applyDueActivations now).pending) (_ ++ [])
    rw [applyDueActivations_pending, List.append_nil]
    exact hsplit now
  | .grid (.delete now id) =>
    change List.Subperm (_ ++ (api.applyDueActivations now).pending.eraseP _) (_ ++ [])
    rw [applyDueActivations_pending, List.append_nil]
    exact (((List.eraseP_sublist).append_left _).subperm).trans (hsplit now)

theorem length_pending_sharedStep (h : api.pending.length ≤ 1) (op : SharedOp) :
    (sharedStep api op).pending.length ≤ 1 := by
  have hearly : ∀ now, (early now api.pending).length ≤ 1 := fun now =>
    (List.length_filter_le _ _).trans h
  match op with
  | .matrix _ | .grid (.addReceiver _) | .grid (.removeReceiver _)
  | .grid (.setUsableChannelCount _) | .grid (.activate _ _ _ _) => exact h
  | .grid (.post now request) =>
    change (api.handlePost now request).1.pending.length ≤ 1
    obtain ⟨he, hs | ⟨h0, a, hs, -⟩⟩ := handlePost_pending api now request
    · rw [he, hs, List.append_nil]
      exact hearly now
    · rw [he, h0, hs]
      exact le_rfl
  | .grid (.active now) =>
    change (api.applyDueActivations now).pending.length ≤ 1
    rw [applyDueActivations_pending]
    exact hearly now
  | .grid (.delete now id) =>
    change ((api.applyDueActivations now).pending.eraseP _).length ≤ 1
    rw [applyDueActivations_pending]
    exact (List.eraseP_sublist.length_le).trans (hearly now)

/-! ## The lock -/

/-- A body as IS-08 has it: an activation of a mode there is. -/
def WellFormed (request : Json) : Prop :=
  request.isObject ∧ (request.get "activation").isObject ∧
    ∃ mode ∈ ["activate_immediate".toList, "activate_scheduled_relative".toList,
      "activate_scheduled_absolute".toList], (request.get "activation").get "mode" = .str mode

/-- Any body finds the grid locked, and one that is well formed is told so. -/
theorem postActivation_locked (hp : api.pending ≠ []) (now : TaiTime) (request : Json) :
    (api.postActivation now request).1 = api ∧ (WellFormed request →
      api.postActivation now request =
        (api, errorResponse 423 "an activation is already waiting; delete it first".toList)) := by
  rw [postActivation]
  split
  · next h => exact ⟨rfl, fun hw => by simp [hw.1] at h⟩
  split
  · next h => exact ⟨rfl, fun hw => by simp [hw.2.1] at h⟩
  split
  · next wanted hmode =>
    dsimp only
    split
    · next h =>
      refine ⟨rfl, fun hw => ?_⟩
      obtain ⟨mode, hm, he⟩ := hw.2.2
      rw [hmode] at he
      cases he
      rcases List.mem_cons.mp hm with hm | hm
      · exact absurd hm h.1
      rcases List.mem_cons.mp hm with hm | hm
      · exact absurd hm h.2.1
      · exact absurd (List.mem_singleton.mp hm) h.2.2
    · exact ⟨rfl, fun _ => rfl⟩
  · next h =>
    refine ⟨rfl, fun hw => ?_⟩
    obtain ⟨mode, -, he⟩ := hw.2.2
    exact absurd he (h mode)

/-- **While a promise waits, no request moves the grid**, and only its DELETE takes it away. -/
theorem sharedStep_locked (hp : api.pending = [a]) (ht : op.time = some now)
    (he : taiReached a.due now = false) : SameGrid api (sharedStep api op) ∧
      (¬ op.Deletes a.id → (sharedStep api op).pending = [a]) := by
  have hsame := applyDueActivations_of_pending hp he
  match op with
  | .grid (.post _ request) =>
    cases ht
    change SameGrid api (api.handlePost now request).1 ∧
      (_ → (api.handlePost now request).1.pending = [a])
    rw [handlePost, hsame, (postActivation_locked (by simp [hp]) now request).1]
    exact ⟨.of_eq rfl rfl, fun _ => hp⟩
  | .grid (.active _) =>
    cases ht
    change SameGrid api (api.applyDueActivations now) ∧
      (_ → (api.applyDueActivations now).pending = [a])
    rw [hsame]
    exact ⟨.of_eq rfl rfl, fun _ => hp⟩
  | .grid (.delete _ id) =>
    cases ht
    change SameGrid api (api.handleDelete now id) ∧ (_ → (api.handleDelete now id).pending = [a])
    rw [handleDelete, hsame]
    refine ⟨.of_eq rfl rfl, fun hn => ?_⟩
    have hid : a.id ≠ id := by
      rintro rfl
      exact hn ⟨now, rfl⟩
    simp [hp, hid]

/-- Over a run: while every request is early for it and none deletes it, the promise waits. -/
theorem waits_run (hp : api.pending = [a]) {mid : List SharedOp}
    (h : ∀ op ∈ mid, ¬ op.Deletes a.id ∧
      ∀ now, op.time = some now → taiReached a.due now = false) :
    (mid.foldl sharedStep api).pending = [a] ∧ outputs sharedStep applied api mid = [] := by
  induction mid generalizing api with
  | nil => exact ⟨hp, rfl⟩
  | cons op mid ih =>
    obtain ⟨hdel, hearly⟩ := h op List.mem_cons_self
    have hstep : (sharedStep api op).pending = [a] ∧ applied api op = [] := by
      rw [applied]
      cases ht : op.time with
      | none =>
        match op with
        | .matrix _ | .grid (.addReceiver _) | .grid (.removeReceiver _)
        | .grid (.setUsableChannelCount _) | .grid (.activate _ _ _ _) => exact ⟨hp, rfl⟩
      | some now =>
        refine ⟨(sharedStep_locked hp ht (hearly now ht)).2 hdel, ?_⟩
        simp [hp, hearly now ht]
    rw [List.foldl_cons, outputs, hstep.2]
    exact ih hstep.1 fun op hop => h op (List.mem_cons_of_mem _ hop)

theorem with_pending {l : List PendingActivation} (h : api.pending = l) :
    { api with pending := l } = api := by
  subst h
  rfl

/-- A promise that has come due is kept, and waits no more. -/
theorem applyDueActivations_due (hp : api.pending = [a]) (h : taiReached a.due now = true) :
    api.applyDueActivations now = (({ api with pending := [] } : ChannelMappingApi).applyAction now
      a.action true).1 ∧ (api.applyDueActivations now).pending = [] := by
  have hearly : early now [a] = [] := by simp [early, h]
  have heq := api.applyDueActivations_eq now
  rw [hp, hearly, List.filter_cons_of_pos (by simp [h])] at heq
  exact ⟨heq.trans (with_pending (applyAction_pending _ now a.action true)), congrArg pending heq⟩

/-- **The pending lock.** In every run at most one activation waits, and what was applied or still
waits was scheduled, each once. While one waits, a request that is early for it moves nothing of the
grid and is told 423 where it asks for another one in form; only a DELETE takes the promise away,
which leaves the grid and lifts the lock. The first request that is not early applies it, before
anything else. Scheduling itself leaves the grid as it is. -/
theorem locked (ops : List SharedOp) (unused : Along sharedStep Unused {} ops) :
    let api := ops.foldl sharedStep {}
    api.pending.length ≤ 1 ∧
    (outputs sharedStep applied {} ops ++ api.pending).Subperm
      (outputs sharedStep scheduled {} ops) ∧
    (∀ a, api.pending = [a] → ∀ now, taiReached a.due now = false →
      (∀ request, WellFormed request → api.handlePostBody now (.ok request) =
        (api, errorResponse 423 "an activation is already waiting; delete it first".toList)) ∧
      (∀ op : SharedOp, op.time = some now → SameGrid api (sharedStep api op)) ∧
      api.handleDelete now a.id = { api with pending := [] }) ∧
    (∀ a, api.pending = [a] → ∀ mid : List SharedOp, (∀ op ∈ mid, ¬ op.Deletes a.id ∧
        ∀ now, op.time = some now → taiReached a.due now = false) →
      (mid.foldl sharedStep api).pending = [a] ∧ outputs sharedStep applied api mid = [] ∧
      ∀ (op : SharedOp) now, op.time = some now → taiReached a.due now = true →
        let before := mid.foldl sharedStep api
        applied before op = [a] ∧ before.applyDueActivations now =
          (({ before with pending := [] } : ChannelMappingApi).applyAction now a.action true).1 ∧
        (before.applyDueActivations now).pending = []) ∧
    ∀ now body, (api.handlePostBody now body).2.status = 202 →
      SameGrid (api.applyDueActivations now) (api.handlePostBody now body).1 := by
  refine ⟨?_, ?_, fun a hp now he => ⟨fun request hw => ?_, fun op ht => ?_, ?_⟩,
    fun a hp mid hmid => ?_, fun now body h => refused_unchanged ops unused now body (Or.inr h)⟩
  · exact (always_of_step (P := fun api : ChannelMappingApi => api.pending.length ≤ 1)
      (fun api op h => length_pending_sharedStep h op) (Nat.zero_le _)).run
  · exact outputs_subperm subperm_sharedStep {} ops
  · rw [handlePostBody, handlePost, applyDueActivations_of_pending hp he]
    exact (postActivation_locked (by simp [hp]) now request).2 hw
  · exact (sharedStep_locked hp ht he).1
  · rw [handleDelete, applyDueActivations_of_pending hp he]
    simp [hp]
  · obtain ⟨hwait, hnone⟩ := waits_run hp hmid
    refine ⟨hwait, hnone, fun op now ht hdue => ⟨?_, applyDueActivations_due hwait hdue⟩⟩
    rw [applied, ht, hwait]
    simp [hdue]

/-- A grid promised beside the stream of somebody else. -/
def promised : List SharedOp :=
  besideOther ++ [.grid (.post {} (inFiveSeconds [("8".toList, cellJson (some ("a".toList, 0)))]))]

/-- Making the promise leaves the grid as it is. Four seconds later another activation is refused, the
grid asked for does not keep it, and a second after that it does. -/
theorem promised_locked :
    SameGrid ((besideOther.foldl sharedStep {}).applyDueActivations {})
      ((besideOther.foldl sharedStep {}).handlePostBody {}
        (.ok (inFiveSeconds [("8".toList, cellJson (some ("a".toList, 0)))]))).1 ∧
    ((promised.foldl sharedStep {}).handlePostBody ⟨4, 0⟩ (.ok (inFiveSeconds []))).2.status = 423 ∧
    ∃ a, (promised.foldl sharedStep {}).pending = [a] ∧
      outputs sharedStep applied (promised.foldl sharedStep {}) [.grid (.active ⟨4, 0⟩)] = [] ∧
      applied ([SharedOp.grid (.active ⟨4, 0⟩)].foldl sharedStep (promised.foldl sharedStep {}))
        (.grid (.active ⟨5, 0⟩)) = [a] := by
  have unused : Along sharedStep Unused {} promised := by
    refine ⟨trivial, ⟨by decide, rfl, fun r h => by cases h⟩, fun _ => ?_, trivial, trivial⟩
    decide
  have hdue : (promised.foldl sharedStep {}).pending.map PendingActivation.due = [⟨5, 0⟩] := by
    decide
  obtain ⟨a, hp, ha⟩ := List.map_eq_singleton_iff.mp hdue
  obtain ⟨-, -, hlock, hkeep, -⟩ := locked promised unused
  have hrefused := (hlock a hp ⟨4, 0⟩ (by rw [ha]; decide)).1 (inFiveSeconds [])
    ⟨rfl, rfl, _, List.mem_cons_of_mem _ List.mem_cons_self, rfl⟩
  obtain ⟨-, hnone, hkept⟩ := hkeep a hp [.grid (.active ⟨4, 0⟩)] fun op hop => by
    rw [List.mem_singleton.mp hop]
    refine ⟨?_, fun now ht => ?_⟩
    · rintro ⟨now, hdelete⟩
      cases hdelete
    · obtain rfl := Option.some.inj ht
      rw [ha]
      decide
  refine ⟨(locked besideOther unused_besideOther).2.2.2.2 {} _ (by decide), ?_, a, hp, hnone,
    (hkept (.grid (.active ⟨5, 0⟩)) ⟨5, 0⟩ rfl (by rw [ha]; decide)).1⟩
  rw [hrefused]
  rfl

end ChannelMappingApi

end Aes67.Ravenna
