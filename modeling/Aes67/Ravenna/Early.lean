import Aes67.Ravenna.Lock
import Aes67.Ravenna.Promise

/-!
# Never early

A scheduled activation is not applied before its time, by IS-05 or by IS-08: whatever happens in
between, the request that applies it is not earlier than the instant it was asked for. Relative
times are added to the present in 64 bits of seconds, so this holds exactly where the sum fits.

* `TaiTime.count`: a time as a number of nanoseconds, with `count_taiSum` and `taiReached_iff`;
* `parseTai_taiText`: a time is read back from its text;
* `ConnectionApi.dueAt`: what a request applies, with **`calls_applyDueActivations`**;
* **`never_early_iff`**.
-/

namespace Aes67.Ravenna

/-! ## Times -/

namespace TaiTime

/-- The time in nanoseconds. -/
def count (t : TaiTime) : ℕ := t.seconds.toNat * 10 ^ 9 + t.nanos.toNat

/-- Less than a second of nanoseconds. -/
def Normal (t : TaiTime) : Prop := t.nanos < kNanosPerSecond

instance (t : TaiTime) : Decidable t.Normal := inferInstanceAs (Decidable (_ < _))

end TaiTime

open TaiTime

variable {s t d : TaiTime} {text : Text}

theorem normal_iff : t.Normal ↔ t.nanos.toNat < 10 ^ 9 := UInt32.lt_iff_toNat_lt

theorem parseTai_normal (h : parseTai text = some d) : d.Normal := by
  rw [parseTai] at h
  split at h
  · cases h
  · split_ifs at h
    split at h
    · next n _ _ =>
      split_ifs at h with hn
      cases h
      rw [normal_iff]
      have hn : n < 10 ^ 9 := not_le.mp hn
      rw [UInt32.toNat_ofNat_of_lt' (by simp [UInt32.size]; omega)]
      exact hn
    · cases h

theorem parseTai_taiText (h : t.Normal) : parseTai (taiText t) = some t := by
  have hcolon : ':' ∉ showNat t.seconds.toNat := fun hm =>
    absurd (isDigit_of_mem_showNat hm) (by decide)
  have hdigits : ∀ n, (showNat n).all Char.isDigit = true := fun n =>
    List.all_eq_true.mpr fun _ => isDigit_of_mem_showNat
  have hn := normal_iff.mp h
  rw [parseTai, taiText, cut_char hcolon]
  dsimp only
  rw [if_neg (by simp [showNat_ne_nil]), if_neg (by simp [hdigits]),
    stoull_showNat t.seconds.toNat_lt, stoull_showNat (by omega)]
  dsimp only
  rw [if_neg (by exact not_le.mpr hn), UInt64.ofNat_toNat, UInt32.ofNat_toNat]

/-- How many nanoseconds the 64 bits of seconds reach. -/
def span : ℕ := 2 ^ 64 * 10 ^ 9

theorem taiSum_toNat (hs : s.Normal) (ht : t.Normal) :
    let nanos := s.nanos.toNat + t.nanos.toNat
    (taiSum s t).seconds.toNat = (s.seconds.toNat + t.seconds.toNat + nanos / 10 ^ 9) % 2 ^ 64 ∧
      (taiSum s t).nanos.toNat = nanos % 10 ^ 9 := by
  rw [normal_iff] at hs ht
  have hadd : (s.nanos + t.nanos).toNat = s.nanos.toNat + t.nanos.toNat := by
    rw [UInt32.toNat_add]
    omega
  have hk : kNanosPerSecond.toNat = 10 ^ 9 := rfl
  rw [taiSum]
  dsimp only
  split_ifs with h
  · have h := UInt32.le_iff_toNat_le.mp h
    rw [hadd, hk] at h
    have hone : (1 : UInt64).toNat = 1 := rfl
    refine ⟨?_, ?_⟩
    · rw [UInt64.toNat_add, UInt64.toNat_add, hone]
      omega
    · rw [UInt32.toNat_sub_of_le _ _ (UInt32.le_iff_toNat_le.mpr (by rw [hadd, hk]; exact h)), hadd,
        hk]
      omega
  · have h : s.nanos.toNat + t.nanos.toNat < 10 ^ 9 := by
      rw [← hadd]
      exact UInt32.lt_iff_toNat_lt.mp (UInt32.not_le.mp h)
    refine ⟨?_, ?_⟩
    · rw [UInt64.toNat_add]
      omega
    · rw [hadd]
      omega

theorem taiSum_normal (hs : s.Normal) (ht : t.Normal) : (taiSum s t).Normal := by
  rw [normal_iff, (taiSum_toNat hs ht).2]
  exact Nat.mod_lt _ (by decide)

/-- The seconds wrap. -/
theorem count_taiSum (hs : s.Normal) (ht : t.Normal) :
    (taiSum s t).count = (s.count + t.count) % span := by
  obtain ⟨h1, h2⟩ := taiSum_toNat hs ht
  rw [count, h1, h2, count, count, span]
  omega

theorem le_of_taiReached (hs : s.Normal) (h : taiReached s t = true) : s.count ≤ t.count := by
  rw [normal_iff] at hs
  rw [taiReached] at h
  rw [count, count]
  split_ifs at h with hne
  · have h := UInt64.lt_iff_toNat_lt.mp (of_decide_eq_true h)
    omega
  · have h := UInt32.le_iff_toNat_le.mp (of_decide_eq_true h)
    rw [not_not.mp hne]
    omega

theorem taiReached_self (t : TaiTime) : taiReached t t = true := by
  simp [taiReached]

/-- When an activation is meant to happen: `d` after `now`, or at `d`. -/
def meant (relative : Bool) (now d : TaiTime) : ℕ := if relative then now.count + d.count else d.count

/-- When it is due. -/
def dueOf (relative : Bool) (now d : TaiTime) : TaiTime := if relative then taiSum now d else d

/-- The time meant has a number of seconds. -/
def Fits (relative : Bool) (now d : TaiTime) : Prop := meant relative now d < span

theorem count_lt_span (h : t.Normal) : t.count < span := by
  have := t.seconds.toNat_lt
  rw [normal_iff] at h
  rw [count, span]
  omega

theorem dueOf_normal {relative : Bool} (hs : s.Normal) (hd : d.Normal) :
    (dueOf relative s d).Normal := by
  rw [dueOf]
  split_ifs
  · exact taiSum_normal hs hd
  · exact hd

/-- **What is due is due when it is meant exactly where that fits**; elsewhere it is due early. -/
theorem fits_iff {relative : Bool} (hs : s.Normal) (hd : d.Normal) :
    Fits relative s d ↔ meant relative s d ≤ (dueOf relative s d).count := by
  have hlt : (dueOf relative s d).count < _ := count_lt_span (dueOf_normal hs hd)
  refine ⟨fun h => ?_, fun h => h.trans_lt hlt⟩
  rw [Fits] at h
  rw [meant, dueOf] at *
  split_ifs at h ⊢ with hr
  · rw [count_taiSum hs hd, Nat.mod_eq_of_lt h]
  · exact le_rfl

/-- The name of a scheduled mode, the same in both APIs. -/
def modeOf (relative : Bool) : Text := if relative then kActivateRelative else kActivateAbsolute

/-! ## The grid -/

/-- An activation object of a scheduled mode. -/
def activationBody (relative : Bool) (text : Text) : Json :=
  .obj [("mode".toList, .str (modeOf relative)), ("requested_time".toList, .str text)]

namespace ChannelMappingApi

/-- No activation that a POST at `now` schedules for `text` is applied before its time, whatever the
state it is scheduled in and whatever happens afterwards. -/
def NeverEarly (relative : Bool) (now : TaiTime) (text : Text) (d : TaiTime) : Prop :=
  ∀ (api : ChannelMappingApi) (request : Json),
    (request.get "activation").get "mode" = .str (modeOf relative) →
    (request.get "activation").get "requested_time" = .str text →
    ∀ a ∈ scheduled api (.grid (.post now request)), ∀ (ops : List SharedOp) (op : SharedOp) (t : TaiTime),
      op.time = some t →
      a ∈ applied (ops.foldl sharedStep (sharedStep api (.grid (.post now request)))) op →
      meant relative now d ≤ t.count

theorem due_of_scheduled {api : ChannelMappingApi} {request : Json} {relative : Bool}
    {a : PendingActivation} (hd : parseTai text = some d)
    (hm : (request.get "activation").get "mode" = .str (modeOf relative))
    (ht : (request.get "activation").get "requested_time" = .str text)
    (h : a ∈ scheduled api (.grid (.post s request))) : a.due = dueOf relative s d := by
  obtain ⟨-, h0 | ⟨-, b, hb, hp⟩⟩ := handlePost_pending api s request
  · rw [h0] at h
    cases h
  · rw [hb, List.mem_singleton] at h
    subst h
    obtain ⟨asked, hasked, hdue⟩ := hp.due
    have hmode := hp.mode
    have htime := hp.requestedTime
    rw [hm, Json.str.injEq] at hmode
    rw [ht, Json.str.injEq] at htime
    rw [← htime, hd] at hasked
    cases hasked
    rw [hdue, ← hmode]
    cases relative <;> rfl

theorem reached_of_applied {api : ChannelMappingApi} {op : SharedOp} {a : PendingActivation}
    (ht : op.time = some t) (h : a ∈ applied api op) : taiReached a.due t = true := by
  rw [applied, ht] at h
  exact (List.mem_filter.mp h).2

/-- A POST that passes its dry run is scheduled. -/
theorem postActivation_dryRun {api : ChannelMappingApi} {request : Json} {relative : Bool}
    (ho : request.isObject = true) (ha : (request.get "activation").isObject = true)
    (hm : (request.get "activation").get "mode" = .str (modeOf relative))
    (ht : (request.get "activation").get "requested_time" = .str text)
    (hd : parseTai text = some d) (hfree : api.pending = [])
    (hok : (({ api with nextActivationId := api.nextActivationId + 1 } :
      ChannelMappingApi).applyAction s (request.get "action") false).2.ok = true) :
    (api.postActivation s request).1.pending =
      [queued api (modeOf relative) text (request.get "action") (dueOf relative s d)] := by
  have himmediate : modeOf relative ≠ "activate_immediate".toList := by
    cases relative <;> decide
  have hknown : ¬ (¬ modeOf relative = "activate_immediate".toList ∧
      ¬ modeOf relative = "activate_scheduled_relative".toList ∧
      ¬ modeOf relative = "activate_scheduled_absolute".toList) := by
    cases relative <;> decide
  have hdue : (if modeOf relative = "activate_scheduled_relative".toList then taiSum s d else d) =
      dueOf relative s d := by
    cases relative <;> rfl
  rw [postActivation, ho, ha, if_neg (by decide), if_neg (by decide), hm]
  dsimp only
  rw [if_neg hknown, if_neg (not_not.mpr hfree), if_neg himmediate, ht]
  dsimp only
  rw [hd]
  dsimp only
  rw [hok, if_neg (by decide), hdue]
  dsimp only
  rw [applyAction_pending, hfree]
  rfl

/-- A POST that schedules an empty action. -/
def emptyPost (relative : Bool) (text : Text) : Json :=
  .obj [("action".toList, .obj []), ("activation".toList, activationBody relative text)]

theorem scheduled_emptyPost {relative : Bool} (hd : parseTai text = some d) :
    scheduled {} (.grid (.post s (emptyPost relative text))) = [queued {} (modeOf relative) text
      (.obj []) (dueOf relative s d)] := by
  rw [scheduled, handlePost, applyDueActivations_of_early (by simp)]
  exact congrArg (List.drop 0) (postActivation_dryRun rfl rfl rfl rfl hd rfl rfl)

/-- **Over the grid**, an activation is never early exactly where its time fits. -/
theorem neverEarly_iff {relative : Bool} (hs : s.Normal) (hd : parseTai text = some d) :
    NeverEarly relative s text d ↔ Fits relative s d := by
  have hn := parseTai_normal hd
  rw [fits_iff hs hn]
  refine ⟨fun h => ?_, fun h api request hm ht a ha ops op t hop happ => ?_⟩
  · refine h {} (emptyPost relative text) rfl rfl _
      (by rw [scheduled_emptyPost hd]; exact List.mem_singleton_self _) []
      (.grid (.active (dueOf relative s d))) _ rfl ?_
    refine List.mem_filter.mpr ⟨?_, taiReached_self _⟩
    change _ ∈ (handlePost {} s (emptyPost relative text)).1.pending
    rw [(handlePost_pending {} s _).1, scheduled_emptyPost hd]
    exact List.mem_append_right _ (List.mem_singleton_self _)
  · have hr := reached_of_applied hop happ
    rw [due_of_scheduled hd hm ht ha] at hr
    exact h.trans (le_of_taiReached (dueOf_normal hs hn) hr)

end ChannelMappingApi

/-! ## Connections -/

namespace ConnectionApi

variable {api : ConnectionApi} {env : Surroundings}

/-- A promise of one resource: its side, its name and what was promised. -/
abbrev Promised : Type := Bool × Text × PendingActivation

/-- What a request at `now` applies: senders first, each in the order of the names. -/
def dueAt (api : ConnectionApi) (now : TaiTime) : List Promised :=
  (api.senders.entries.filter (·.2.pending.isDue now)).map (fun e => (true, e.1, e.2.pending)) ++
    (api.receivers.entries.filter (·.2.pending.isDue now)).map fun e => (false, e.1, e.2.pending)

/-- The callbacks so far, with the state each was asked to activate. -/
def calls (api : ConnectionApi) : List (Bool × ConnectionState) :=
  api.told.map fun call => (call.forSender, call.requested)

theorem calls_applyDueSender (e : Text × ConnectionSender) : (applyDueSender env api e).calls =
    api.calls ++ if e.2.pending.isDue env.arrival then [(true, e.2.pending.state)] else [] := by
  rw [applyDueSender]
  split_ifs with h
  · rw [activateSender]
    dsimp only
    split <;> simp [calls]
  · rw [List.append_nil]

theorem calls_applyDueReceiver (e : Text × ConnectionReceiver) :
    (applyDueReceiver env api e).calls =
      api.calls ++ if e.2.pending.isDue env.arrival then [(false, e.2.pending.state)] else [] := by
  rw [applyDueReceiver]
  split_ifs with h
  · rw [activateReceiver]
    dsimp only
    split <;> simp [calls]
  · rw [List.append_nil]

theorem calls_dueSenders (l : List (Text × ConnectionSender)) :
    (l.foldl (applyDueSender env) api).calls = api.calls ++
      (l.filter (·.2.pending.isDue env.arrival)).map fun e => (true, e.2.pending.state) := by
  induction l generalizing api with
  | nil => exact (List.append_nil _).symm
  | cons e l ih =>
    rw [List.foldl_cons, ih, calls_applyDueSender, List.filter_cons, List.append_assoc]
    split_ifs <;> rfl

theorem calls_dueReceivers (l : List (Text × ConnectionReceiver)) :
    (l.foldl (applyDueReceiver env) api).calls = api.calls ++
      (l.filter (·.2.pending.isDue env.arrival)).map fun e => (false, e.2.pending.state) := by
  induction l generalizing api with
  | nil => exact (List.append_nil _).symm
  | cons e l ih =>
    rw [List.foldl_cons, ih, calls_applyDueReceiver, List.filter_cons, List.append_assoc]
    split_ifs <;> rfl

/-- **What is due is what the host is asked to activate**, before the request is looked at. -/
theorem calls_applyDueActivations : (api.applyDueActivations env).calls =
    api.calls ++ (api.dueAt env.arrival).map fun x => (x.1, x.2.2.state) := by
  rw [applyDueActivations, calls_dueReceivers, calls_dueSenders, dueAt, List.map_append,
    List.map_map, List.map_map, List.append_assoc]
  rfl

/-- What waits for one resource. -/
def promiseOf (api : ConnectionApi) (forSender : Bool) (id : Text) : Option PendingActivation :=
  if forSender then (api.senders.find? id).map ConnectionSender.pending
  else (api.receivers.find? id).map ConnectionReceiver.pending

theorem isObject_of_get {j : Json} {key : String} (h : j.get key = .str text) :
    j.isObject = true := by
  cases j <;> first | rfl | cases h

theorem has_of_get {j : Json} {key : String} (h : (j.get key).isObject = true) :
    j.has key = true := by
  rw [Json.has]
  rw [Json.get, Json.member] at h
  cases hl : lookupEntry key.toList j.asObject with
  | none =>
    rw [hl] at h
    cases h
  | some v => rfl

/-- A scheduled activation as it is read. -/
theorem readActivation_scheduled {relative : Bool} {patch : Json}
    (hm : (patch.get "activation").get "mode" = .str (modeOf relative))
    (ht : (patch.get "activation").get "requested_time" = .str text)
    (hd : parseTai text = some d) : readActivation s patch =
      .ok { mode := modeOf relative, requestedTime := text, due := dueOf relative s d } := by
  have hobj := isObject_of_get hm
  have himmediate : modeOf relative ≠ kActivateImmediate := by cases relative <;> decide
  have hknown : ¬ (modeOf relative ≠ kActivateRelative ∧ modeOf relative ≠ kActivateAbsolute) := by
    cases relative <;> decide
  have hdue : (if modeOf relative = kActivateRelative then taiSum s d else d) =
      dueOf relative s d := by
    cases relative <;> rfl
  rw [readActivation, has_of_get hobj, hobj, if_neg (by decide), if_neg (by decide), hm]
  dsimp only
  rw [if_neg himmediate, if_neg hknown, ht]
  dsimp only
  rw [hd]
  dsimp only
  rw [hdue]

theorem readActivation_of_sender {now : TaiTime} {staged read : ConnectionState} {patch : Json}
    {activation : ActivationRequest} (h : readSenderPatch now staged patch = .ok (read, activation)) :
    readActivation now patch = .ok activation := by
  obtain ⟨-, -, h⟩ := ok_of_bind h
  obtain ⟨s₁, -, h⟩ := ok_of_bind h
  obtain ⟨far, -, h⟩ := ok_of_bind h
  obtain ⟨s₂, -, h⟩ := ok_of_bind h
  obtain ⟨a, ha, h⟩ := ok_of_bind h
  cases h
  exact ha

theorem readActivation_of_receiver {now : TaiTime} {staged read : ConnectionState} {patch : Json}
    {activation : ActivationRequest}
    (h : readReceiverPatch now staged patch = .ok (read, activation)) :
    readActivation now patch = .ok activation := by
  obtain ⟨-, -, h⟩ := ok_of_bind h
  obtain ⟨s₁, -, h⟩ := ok_of_bind h
  obtain ⟨far, -, h⟩ := ok_of_bind h
  obtain ⟨s₂, -, h⟩ := ok_of_bind h
  obtain ⟨s₃, -, h⟩ := ok_of_bind h
  obtain ⟨a, ha, h⟩ := ok_of_bind h
  cases h
  exact ha

theorem eq_of_readBody {patch read : Json} (h : readBody (.ok patch) = .ok read) : read = patch := by
  rw [readBody] at h
  split_ifs at h
  cases h
  rfl

section Promise

variable {relative : Bool} {id : Text} {patch : Json} {promise : PendingActivation}
  (hm : (patch.get "activation").get "mode" = .str (modeOf relative))
  (ht : (patch.get "activation").get "requested_time" = .str text)
  (hd : parseTai text = some d)

include hm ht hd

theorem due_of_patchStagedSender
    (h202 : (api.patchStagedSender env id (.ok patch)).2.status = 202)
    (hp : ((api.patchStagedSender env id (.ok patch)).1.senders.find? id).map
      ConnectionSender.pending = some promise) : promise.due = dueOf relative env.now d := by
  rw [patchStagedSender] at h202 hp
  split at h202
  · cases h202
  · next sender hf =>
    rw [hf] at hp
    dsimp only at hp
    split at h202
    · cases h202
    · next staged activation hr =>
      obtain ⟨p, hbody, hread⟩ := ok_of_bind hr
      rw [eq_of_readBody hbody] at hread
      have ha := (readActivation_of_sender hread).symm.trans (readActivation_scheduled hm ht hd)
      cases ha
      rw [hr] at hp
      dsimp only at hp
      rw [if_neg (by cases relative <;> decide), if_pos (by cases relative <;> decide)] at hp
      dsimp only at hp
      rw [OrdMap.find?_insert_self] at hp
      cases hp
      rfl

theorem due_of_patchStagedReceiver
    (h202 : (api.patchStagedReceiver env id (.ok patch)).2.status = 202)
    (hp : ((api.patchStagedReceiver env id (.ok patch)).1.receivers.find? id).map
      ConnectionReceiver.pending = some promise) : promise.due = dueOf relative env.now d := by
  rw [patchStagedReceiver] at h202 hp
  split at h202
  · cases h202
  · next receiver hf =>
    rw [hf] at hp
    dsimp only at hp
    split at h202
    · cases h202
    · next staged activation hr =>
      obtain ⟨p, hbody, hread⟩ := ok_of_bind hr
      rw [eq_of_readBody hbody] at hread
      have ha := (readActivation_of_receiver hread).symm.trans (readActivation_scheduled hm ht hd)
      cases ha
      rw [hr] at hp
      dsimp only at h202 hp
      rw [if_neg (by cases relative <;> decide)] at h202 hp
      split_ifs at h202 hp
      · cases h202
      · dsimp only at hp
        rw [OrdMap.find?_insert_self] at hp
        cases hp
        rfl
      · next himmediate => exact absurd (by cases relative <;> decide) himmediate

/-- A PATCH that is answered with a promise has made it. -/
theorem due_of_patchStaged {forSender : Bool}
    (h202 : (api.patchStaged env forSender id (.ok patch)).2.status = 202)
    (hp : (api.patchStaged env forSender id (.ok patch)).1.promiseOf forSender id = some promise) :
    promise.due = dueOf relative env.now d := by
  cases forSender with
  | true => exact due_of_patchStagedSender hm ht hd h202 hp
  | false => exact due_of_patchStagedReceiver hm ht hd h202 hp

end Promise

theorem reached_of_dueAt {forSender : Bool} {id : Text} {promise : PendingActivation}
    (h : (forSender, id, promise) ∈ api.dueAt t) : taiReached promise.due t = true := by
  rw [dueAt, List.mem_append] at h
  rcases h with h | h
  · obtain ⟨e, he, heq⟩ := List.mem_map.mp h
    cases heq
    exact (Bool.and_eq_true_iff.mp (List.mem_filter.mp he).2).2
  · obtain ⟨e, he, heq⟩ := List.mem_map.mp h
    cases heq
    exact (Bool.and_eq_true_iff.mp (List.mem_filter.mp he).2).2

/-- No activation that a PATCH at `now` schedules for `text` is applied before its time, whatever
the state it is scheduled in and whatever happens afterwards. -/
def NeverEarly (relative : Bool) (now : TaiTime) (text : Text) (d : TaiTime) : Prop :=
  ∀ (api : ConnectionApi) (env : Surroundings) (forSender : Bool) (id : Text) (patch : Json),
    env.now = now → (patch.get "activation").get "mode" = .str (modeOf relative) →
    (patch.get "activation").get "requested_time" = .str text →
    (api.patchStaged env forSender id (.ok patch)).2.status = 202 →
    ∀ promise, (api.patchStaged env forSender id (.ok patch)).1.promiseOf forSender id = some promise →
      ∀ (ops : List Op) (t : TaiTime), (forSender, id, promise) ∈
          (ops.foldl step (api.patchStaged env forSender id (.ok patch)).1).dueAt t →
        meant relative now d ≤ t.count

/-- A sender that nothing has happened to. -/
def oneSender : ConnectionApi := { senders := OrdMap.empty.insert [] { id := [] } }

/-- What a PATCH of that sender promises. -/
def promiseAt (relative : Bool) (text : Text) (due : TaiTime) : PendingActivation :=
  ⟨true, due, promisedState {} { mode := modeOf relative, requestedTime := text, due := due }⟩

/-- The PATCH. -/
def patchOf (relative : Bool) (text : Text) : Json :=
  .obj [("activation".toList, activationBody relative text)]

/-- The sender once the activation is promised. -/
def promisedSender (relative : Bool) (text : Text) (due : TaiTime) : ConnectionSender where
  id := []
  staged := (promiseAt relative text due).state
  pending := promiseAt relative text due

theorem patchStaged_oneSender {relative : Bool} (hd : parseTai text = some d) :
    oneSender.patchStaged env true [] (.ok (patchOf relative text)) =
      ({ oneSender with
        senders := oneSender.senders.insert [] (promisedSender relative text (dueOf relative env.now d)) },
        jsonResponse 202 (stateAsJson (promiseAt relative text (dueOf relative env.now d)).state
          true)) := by
  have hact : readActivation env.now (patchOf relative text) = _ :=
    readActivation_scheduled rfl rfl hd
  have hread : readBody (.ok (patchOf relative text)) >>= readSenderPatch env.now {} =
      .ok ({}, { mode := modeOf relative, requestedTime := text, due := dueOf relative env.now d }) := by
    change (readActivation env.now (patchOf relative text) >>= fun a => pure (({} : ConnectionState), a)) = _
    rw [hact]
    rfl
  have hfound : oneSender.senders.find? [] = some { id := [] } := rfl
  change oneSender.patchStagedSender env [] (.ok (patchOf relative text)) = _
  rw [patchStagedSender, hfound]
  dsimp only
  rw [hread]
  cases relative <;> rfl

/-- **Over connections**, an activation is never early exactly where its time fits. -/
theorem neverEarly_iff {relative : Bool} (hs : s.Normal) (hd : parseTai text = some d) :
    NeverEarly relative s text d ↔ Fits relative s d := by
  have hn := parseTai_normal hd
  rw [fits_iff hs hn]
  refine ⟨fun h => ?_, fun h api env forSender id patch hnow hm ht h202 promise hp ops t hdue => ?_⟩
  · let env : Surroundings := ⟨s, s, 0, fun _ => .error [],
      fun _ _ _ _ => .ok (), fun _ _ _ _ => .ok ()⟩
    have hpatch : oneSender.patchStaged env true [] (.ok (patchOf relative text)) = _ :=
      patchStaged_oneSender hd
    have h202 := congrArg (fun x => x.2.status) hpatch
    have hapi := congrArg Prod.fst hpatch
    refine h oneSender env true [] (patchOf relative text) rfl rfl rfl h202
      (promiseAt relative text (dueOf relative s d)) (by rw [hapi]; rfl) []
      (dueOf relative s d) ?_
    rw [List.foldl_nil, hapi]
    refine List.mem_append_left _ (List.mem_map.mpr ⟨([], promisedSender relative text
      (dueOf relative s d)), List.mem_filter.mpr ⟨List.mem_singleton_self _, ?_⟩, rfl⟩)
    exact taiReached_self _
  · have hr := reached_of_dueAt hdue
    rw [due_of_patchStaged hm ht hd h202 hp, hnow] at hr
    exact h.trans (le_of_taiReached (dueOf_normal hs hn) hr)

end ConnectionApi

/-! ## Both APIs -/

/-- **Scheduled activations are never early**, over connections and over the grid, exactly where
the time meant has a number of seconds; and every time is read back from its text. -/
theorem never_early_iff {now d : TaiTime} {text : Text} (relative : Bool) (hnow : now.Normal)
    (hd : parseTai text = some d) :
    (ConnectionApi.NeverEarly relative now text d ↔ Fits relative now d) ∧
    (ChannelMappingApi.NeverEarly relative now text d ↔ Fits relative now d) ∧
    ∀ t : TaiTime, t.Normal → parseTai (taiText t) = some t :=
  ⟨ConnectionApi.neverEarly_iff hnow hd, ChannelMappingApi.neverEarly_iff hnow hd,
    fun _ => parseTai_taiText⟩

theorem fiveSeconds_neverEarly : ConnectionApi.NeverEarly true ⟨1, 0⟩ "5:0".toList ⟨5, 0⟩ :=
  (never_early_iff true (by decide) (by decide)).1.mpr (by unfold Fits; decide)

/-- The longest time there is, from the first second on, is due at once. -/
theorem wrapped_early : ¬ ConnectionApi.NeverEarly true ⟨1, 0⟩ "18446744073709551615:0".toList
      ⟨18446744073709551615, 0⟩ ∧
    ¬ ChannelMappingApi.NeverEarly true ⟨1, 0⟩ "18446744073709551615:0".toList
      ⟨18446744073709551615, 0⟩ := by
  have hd : parseTai "18446744073709551615:0".toList = some ⟨18446744073709551615, 0⟩ := by decide
  have hfits : ¬ Fits true ⟨1, 0⟩ ⟨18446744073709551615, 0⟩ := by unfold Fits; decide
  exact ⟨fun h => hfits ((ConnectionApi.neverEarly_iff (by decide) hd).mp h),
    fun h => hfits ((ChannelMappingApi.neverEarly_iff (by decide) hd).mp h)⟩

end Aes67.Ravenna
