import Aes67.Lib.Run
import Aes67.Ravenna.Connection
import Aes67.Ravenna.JsonRoundTrip

/-!
# Patches in bulk

A bulk request is meant to be the patches of its entries, one after another. Each entry's params
are written out and parsed again on the way to the endpoint, and an entry that is none is only found
when its turn comes.

* `rereads`: what comes of a value on the way;
* `patchAlone`, `patchWithin`: an entry's patch as the single endpoint is sent it and as the bulk
  request sends it;
* `patchInBulk_entries`, `patchInBulk_malformed`: what a bulk request does;
* **`bulk_iff`**.
-/

namespace Aes67.Ravenna

/-- What `parseJson` makes of what `serialise` writes. -/
def rereads (v : Json) : Except Text Json :=
  match parseJson v.serialise with
  | .ok r => r
  | .error _ => .error []

theorem rereads_of_sound {v : Json} (hv : v.Sound Prints) (hd : v.levels ≤ kMaxNestingDepth) :
    rereads v = .ok v := by
  rw [rereads, parseJson_serialise hv hd]

namespace ConnectionApi

/-- An entry of a bulk request: an object with the name of a resource. -/
def IsEntry (e : Json) : Prop := e.isObject = true ∧ (e.get "id").isString = true

instance (e : Json) : Decidable (IsEntry e) := inferInstanceAs (Decidable (_ ∧ _))

section Bulk

variable (env : Surroundings) (forSenders : Bool) (api : ConnectionApi)

/-- The single PATCH an entry stands for. -/
def patchAlone (e : Json) : ConnectionApi × ApiResponse :=
  api.patchStaged env forSenders (e.get "id").asString (.ok (e.get "params"))

/-- The PATCH a bulk request makes of an entry. -/
def patchWithin (e : Json) : ConnectionApi × ApiResponse :=
  api.patchStaged env forSenders (e.get "id").asString (rereads (e.get "params"))

/-- What a bulk request reports of an entry. -/
def reported (e : Json) (one : ApiResponse) : List Json :=
  [.obj [("code".toList, .ofNat one.status), ("id".toList, .str (e.get "id").asString)]]

/-- The entries' patches one after another, and what there is to report of them. -/
def inTurn (patch : ConnectionApi → Json → ConnectionApi × ApiResponse) (l : List Json) :
    ConnectionApi × ApiResponse :=
  (l.foldl (fun api e => (patch api e).1) api,
    jsonResponse 200 (.arr (outputs (fun api e => (patch api e).1)
      (fun api e => reported e (patch api e).2) api l)))

/-- The surroundings of a request whose params are really written out and parsed again. -/
def rereading : Surroundings := { env with reparse := rereads }

variable {env forSenders api} {l : List Json} {e : Json}

theorem patchEntries_entries (hl : ∀ e ∈ l, IsEntry e) (rest answers : List Json) :
    patchEntries (rereading env) forSenders (l ++ rest) api answers =
      patchEntries (rereading env) forSenders rest
        (l.foldl (fun api e => (patchWithin env forSenders api e).1) api)
        (answers ++ outputs (fun api e => (patchWithin env forSenders api e).1)
          (fun api e => reported e (patchWithin env forSenders api e).2) api l) := by
  induction l generalizing api answers with
  | nil => rw [outputs, List.append_nil]; rfl
  | cons e l ih =>
    obtain ⟨ho, hid⟩ := hl e List.mem_cons_self
    rw [List.cons_append, patchEntries, if_neg (by simp [ho, hid])]
    exact (ih (fun e he => hl e (List.mem_cons_of_mem _ he)) _).trans
      (by rw [outputs, ← List.append_assoc]; rfl)

/-- A bulk request of entries. -/
theorem patchInBulk_entries (hl : ∀ e ∈ l, IsEntry e) :
    api.patchInBulk (rereading env) forSenders (.ok (.arr l)) =
      inTurn api (patchWithin env forSenders) l := by
  have h : patchEntries (rereading env) forSenders (l ++ []) api [] = _ :=
    patchEntries_entries hl [] []
  rw [List.append_nil] at h
  exact h

/-- A bulk request with an entry that is none. -/
theorem patchInBulk_malformed {bad : Json} (hl : ∀ e ∈ l, IsEntry e) (hbad : ¬ IsEntry bad)
    (rest : List Json) : api.patchInBulk (rereading env) forSenders (.ok (.arr (l ++ bad :: rest))) =
      ((inTurn api (patchWithin env forSenders) l).1,
        errorResponse 400 "every entry in a bulk request needs an id and its params".toList) := by
  refine (patchEntries_entries hl (bad :: rest) []).trans ?_
  rw [patchEntries, if_pos]
  · rfl
  · rw [IsEntry, not_and_or] at hbad
    simpa using hbad

/-- What is reported of an entry tells the status apart. -/
theorem reported_inj {one two : ApiResponse} :
    reported e one = reported e two ↔ one.status = two.status := by
  refine ⟨fun h => ?_, fun h => by rw [reported, reported, h]⟩
  simpa [reported, Json.ofNat] using h

/-- The bulk request's PATCH of an entry does and answers what the single one does. -/
def SamePatch (env : Surroundings) (forSenders : Bool) (api : ConnectionApi) (e : Json) : Prop :=
  (patchWithin env forSenders api e).1 = (patchAlone env forSenders api e).1 ∧
    (patchWithin env forSenders api e).2.status = (patchAlone env forSenders api e).2.status

theorem samePatch_of_sound (hv : (e.get "params").Sound Prints)
    (hd : (e.get "params").levels ≤ kMaxNestingDepth) : SamePatch env forSenders api e := by
  rw [SamePatch, patchWithin, rereads_of_sound hv hd]
  exact ⟨rfl, rfl⟩

theorem inTurn_eq_iff {f g : ConnectionApi → Json → ConnectionApi × ApiResponse} :
    inTurn api f l = inTurn api g l ↔
      l.foldl (fun api e => (f api e).1) api = l.foldl (fun api e => (g api e).1) api ∧
      outputs (fun api e => (f api e).1) (fun api e => reported e (f api e).2) api l =
        outputs (fun api e => (g api e).1) (fun api e => reported e (g api e).2) api l := by
  rw [inTurn, inTurn, Prod.mk.injEq]
  simp [jsonResponse]

/-- What no step moves is where it was all along. -/
theorem unmoved_iff {f : ConnectionApi → Json → ConnectionApi × ApiResponse} :
    (∀ p, p <+: l → (inTurn api f p).1 = api) ↔ ∀ e ∈ l, (f api e).1 = api := by
  induction l with
  | nil =>
    refine ⟨fun _ e he => absurd he List.not_mem_nil, fun _ p hp => ?_⟩
    obtain rfl := List.prefix_nil.mp hp
    rfl
  | cons e l ih =>
    constructor
    · intro h
      have he : (f api e).1 = api := h [e] (List.cons_prefix_cons.mpr ⟨rfl, List.nil_prefix⟩)
      have hl := ih.mp fun p hp => by
        have hp' := h (e :: p) (List.cons_prefix_cons.mpr ⟨rfl, hp⟩)
        change p.foldl _ (f api e).1 = api at hp'
        rwa [he] at hp'
      exact List.forall_mem_cons.mpr ⟨he, hl⟩
    · intro h p hp
      obtain ⟨he, hl⟩ := List.forall_mem_cons.mp h
      rcases p with _ | ⟨e', p⟩
      · rfl
      · obtain ⟨rfl, hp'⟩ := List.cons_prefix_cons.mp hp
        change p.foldl _ (f api e').1 = api
        rw [he]
        exact ih.mpr hl p hp'

/-- **Bulk equals single exactly where each params is the same patch once it is reread**, all along
the array; and an entry that is none finds everything untouched exactly where no entry before it
moves anything. Params that hold no zero byte and only numbers that print are reread as they are. -/
theorem bulk_iff (api : ConnectionApi) (env : Surroundings) (forSenders : Bool) (l : List Json)
    (hl : ∀ e ∈ l, IsEntry e) :
    ((∀ p, p <+: l → api.patchInBulk (rereading env) forSenders (.ok (.arr p)) =
        inTurn api (patchAlone env forSenders) p) ↔
      Along (fun api e => (patchAlone env forSenders api e).1) (SamePatch env forSenders) api l) ∧
    (∀ bad rest, ¬ IsEntry bad →
      ((∀ p, p <+: l → (api.patchInBulk (rereading env) forSenders
          (.ok (.arr (p ++ bad :: rest)))).2.status = 400 ∧
        (api.patchInBulk (rereading env) forSenders (.ok (.arr (p ++ bad :: rest)))).1 = api) ↔
      ∀ e ∈ l, (patchWithin env forSenders api e).1 = api)) ∧
    ∀ (api : ConnectionApi) (e : Json), (e.get "params").Sound Prints →
      (e.get "params").levels ≤ kMaxNestingDepth → SamePatch env forSenders api e := by
  have hp : ∀ p, p <+: l → ∀ e ∈ p, IsEntry e := fun p hp e he => hl e (hp.subset he)
  refine ⟨?_, fun bad rest hbad => ?_, fun api e => samePatch_of_sound⟩
  · have hagree := agree_iff_along (fun api e => (patchWithin env forSenders api e).1)
      (fun api e => (patchAlone env forSenders api e).1)
      (fun api e => reported e (patchWithin env forSenders api e).2)
      (fun api e => reported e (patchAlone env forSenders api e).2) api l
    simp only [reported_inj] at hagree
    refine Iff.trans (forall₂_congr fun p hpre => ?_) hagree
    rw [patchInBulk_entries (hp p hpre)]
    exact inTurn_eq_iff
  · rw [← unmoved_iff]
    refine forall₂_congr fun p hpre => ?_
    rw [patchInBulk_malformed (hp p hpre) hbad]
    exact and_iff_right rfl

end Bulk

/-! ## Two requests that go wrong -/

/-- A sender, and a host that agrees to everything. -/
def oneResource : ConnectionApi :=
  { senders := OrdMap.empty.insert "s".toList { id := "s".toList } }

def willing : Surroundings :=
  ⟨{}, {}, 0, fun _ => .error [], fun _ _ _ _ => .ok (), fun _ _ _ _ => .ok ()⟩

/-- An entry that stages a port for that sender. -/
def portEntry (port : ℚ) : Json :=
  .obj [("id".toList, .str "s".toList), ("params".toList, .obj [("transport_params".toList,
    .arr [.obj [("destination_port".toList, .num (.fin port))]])])]

/-- The port that is staged. -/
def stagedPort (api : ConnectionApi) : Option Double :=
  match (api.senders.find? "s".toList).bind fun s =>
    s.staged.transportParams.find? "destination_port".toList with
  | some (.num d) => some d
  | _ => none

/-- A whole port prints, so bulk and single agree. -/
theorem wholePort_agrees : oneResource.patchInBulk (rereading willing) true
    (.ok (.arr [portEntry 5004])) = inTurn oneResource (patchAlone willing true) [portEntry 5004] := by
  have h := bulk_iff oneResource willing true [portEntry 5004] (by decide)
  have hsound : ((portEntry 5004).get "params").Sound Prints :=
    ⟨List.pairwise_singleton _ _, by decide, ⟨⟨List.pairwise_singleton _ _, by decide,
      Whole15.prints ⟨5004, by decide, rfl⟩, trivial⟩, trivial⟩, trivial⟩
  exact h.1.mpr ⟨h.2.2 _ _ hsound (by decide), trivial⟩ _ List.prefix_rfl

/-- A port with a fraction is staged rounded to ten digits by a bulk request, and what stands before
an entry that is none is staged although the request is answered 400. -/
theorem fractionalPort_differs :
    ¬ (∀ (api : ConnectionApi) (env : Surroundings) (forSenders : Bool) (l : List Json),
      (∀ e ∈ l, IsEntry e) → api.patchInBulk (rereading env) forSenders (.ok (.arr l)) =
        inTurn api (patchAlone env forSenders) l) ∧
    ¬ (∀ (api : ConnectionApi) (env : Surroundings) (forSenders : Bool) (l : List Json),
      (api.patchInBulk (rereading env) forSenders (.ok (.arr l))).2.status = 400 →
        (api.patchInBulk (rereading env) forSenders (.ok (.arr l))).1 = api) := by
  constructor
  · intro h
    have hport := congrArg (fun x => stagedPort x.1)
      (h oneResource willing true [portEntry (5004 + 1 / 1024)] (by decide))
    revert hport
    decide +kernel
  · intro h
    have hport := congrArg stagedPort
      (h oneResource willing true [portEntry 5004, .null] (by decide))
    revert hport
    decide +kernel

end ConnectionApi

end Aes67.Ravenna
