import Aes67.Ravenna.Activation

/-!
# What an activation does to the grid

A successful activation leaves the routes it worked out, except for a receiver with a stream that
is left without any: a mapping without routes is its whole block, so the receiver comes back on
the channels it was first given.

* `routesFor_applyAction`: the routes the grid has afterwards;
* `lastSome_effect_iff`: when the map shows the routes that were worked out;
* `Exact`, `Faithful`: the effect asked for, and the actions that have it;
* **`activation_exact_iff`**: a successful activation has exactly the effect asked for when it is
  `Faithful`, and only then.
-/

namespace Aes67.Ravenna

namespace ChannelMappingApi

variable {api : ChannelMappingApi} {c : ℕ} {x y : Text} {w : Work} {action : Json} {now : TaiTime}

/-! ## Answers -/

theorem applyCell_error {usable : ℕ} {e : Text × Json} {r : ApiResponse}
    (h : applyCell usable w e = .error r) : r.ok = false := by
  obtain ⟨channelText, cell⟩ := e
  rw [applyCell] at h
  dsimp only at h
  split at h
  · cases h; rfl
  split_ifs at h
  · cases h; rfl
  · cases h; rfl
  split at h
  · cases h
  · split at h
    · cases h; rfl
    split at h
    · split_ifs at h
      cases h; rfl
    · cases h; rfl
  · cases h; rfl

theorem foldlM_applyCell_error {usable : ℕ} {cells : List (Text × Json)} {r : ApiResponse}
    (h : cells.foldlM (applyCell usable) w = .error r) : r.ok = false := by
  induction cells generalizing w with
  | nil => cases h
  | cons e cells ih =>
    rw [List.foldlM_cons] at h
    cases h1 : applyCell usable w e with
    | error r' =>
      rw [h1] at h
      cases h
      exact applyCell_error h1
    | ok w1 =>
      rw [h1] at h
      exact ih h

theorem checkOutputs_error {outputs : List (Text × Json)} {r : ApiResponse}
    (h : checkOutputs outputs = .error r) : r.ok = false := by
  induction outputs with
  | nil => cases h
  | cons e outputs ih =>
    rw [checkOutputs] at h
    split_ifs at h
    · cases h; rfl
    · cases h; rfl
    · exact ih h

/-- Working an action out is refused with an error, or is the cells one after another. -/
theorem workOut_cases (api : ChannelMappingApi) (action : Json) :
    (∃ r, api.workOut action = .error r ∧ r.ok = false) ∨
      ∃ w, api.workOut action = .ok w ∧
        (cellsOf action).foldlM (applyCell api.usable) api.gather = .ok w := by
  rw [workOut]
  cases action.isObject with
  | false => exact Or.inl ⟨_, rfl, rfl⟩
  | true =>
    cases ho : checkOutputs action.asObject with
    | error r => exact Or.inl ⟨r, rfl, checkOutputs_error ho⟩
    | ok _ =>
      cases hc : (cellsOf action).foldlM (applyCell api.usable) api.gather with
      | error r => exact Or.inl ⟨r, rfl, foldlM_applyCell_error hc⟩
      | ok w => exact Or.inr ⟨w, rfl, rfl⟩

/-- The API an action leaves once the matrix took it. -/
def settled (api : ChannelMappingApi) (now : TaiTime) (w : Work) (filled : Mapper) :
    ChannelMappingApi :=
  { api with
    routing := w.waiting.entries.foldl (fun r e => r.rememberRoutes e.1 e.2)
      { api.routing with mapper := filled }
    lastActivationTime := taiText now }

/-- **An action is refused and the matrix put back, or it is worked out and the matrix filled
with it.** -/
theorem applyAction_cases (api : ChannelMappingApi) (now : TaiTime) (action : Json)
    (commit : Bool) :
    (∃ r, api.applyAction now action commit = (api, r) ∧ r.ok = false) ∨
    (∃ r, api.applyAction now action commit =
        ({ api with routing := { api.routing with
            mapper := restore api.routing.mapper api.routing.mapper.getAllMappings } }, r) ∧
      (r.ok = false ∨ commit = false)) ∨
    ∃ w filled, commit = true ∧
      (cellsOf action).foldlM (applyCell api.usable) api.gather = .ok w ∧
      fillMatrix api.routing.mapper.clearAll w.updated.values = .ok filled ∧
      api.applyAction now action commit =
        (api.settled now w filled, (api.settled now w filled).activeMap) := by
  rw [applyAction]
  rcases api.workOut_cases action with ⟨r, hr, hok⟩ | ⟨w, hw, hcells⟩
  · rw [hr]
    exact Or.inl ⟨r, rfl, hok⟩
  rw [hw]
  dsimp only
  cases hf : fillMatrix api.routing.mapper.clearAll w.updated.values with
  | error why => exact Or.inr (Or.inl ⟨_, rfl, Or.inl rfl⟩)
  | ok filled =>
    cases commit with
    | false => exact Or.inr (Or.inl ⟨_, rfl, Or.inr rfl⟩)
    | true => exact Or.inr (Or.inr ⟨w, filled, rfl, hcells, hf, rfl⟩)

/-! ## The routes afterwards -/

theorem foldl_rememberRoutes (l : List (Text × List ChannelRoute)) (r : ReceiverRouting) :
    l.foldl (fun r e => r.rememberRoutes e.1 e.2) r =
      { r with remembered := l.foldl (fun m e => m.insert e.1 e.2) r.remembered } := by
  induction l generalizing r with
  | nil => rfl
  | cons e l ih => rw [List.foldl_cons, List.foldl_cons, ih]; rfl

/-- The mapping an action works out for a receiver is the one the receiver has, with other
routes. -/
theorem updated_of_foldlM (hs : Sound api)
    (hw : (cellsOf action).foldlM (applyCell api.usable) api.gather = .ok w)
    {m : ChannelMapping} (hm : w.updated.find? x = some m) :
    x ∈ api.receiverIds ∧ api.routing.streamIdOf.find? x = some m.streamID ∧
      ∃ m₀, api.routing.mappingFor x = some m₀ ∧ m = { m₀ with routes := m.routes } := by
  have hf := (foldlM_applyCell hw).2.1.updated x
  by_cases hx : x ∈ api.receiverIds
  · rw [hm, updated_gather api hx] at hf
    obtain ⟨m₀, h₀, he⟩ := Option.map_eq_some_iff.mp (Option.map_map _ _ _ ▸ hf.symm)
    obtain ⟨hid, -⟩ := hs.streamID_eq h₀
    cases m
    cases he
    exact ⟨hx, hid, m₀, h₀, rfl⟩
  · rw [hm, (not_mem_gather api hx).1] at hf
    cases hf

theorem isNone_of_foldlM
    (hw : (cellsOf action).foldlM (applyCell api.usable) api.gather = .ok w)
    (hx : x ∈ api.receiverIds) (hm : w.updated.find? x = none) :
    api.routing.mappingFor x = none := by
  have hf := (foldlM_applyCell hw).2.1.isSome_updated x
  rw [hm, updated_gather api hx] at hf
  cases h : api.routing.mappingFor x with
  | none => rfl
  | some m => rw [h] at hf; cases hf

theorem streamIDs_nodup (hs : Sound api)
    (hw : (cellsOf action).foldlM (applyCell api.usable) api.gather = .ok w) :
    (w.updated.values.map ChannelMapping.streamID).Nodup := by
  rw [OrdMap.values, List.map_map, List.Nodup, List.pairwise_map]
  refine w.updated.sorted.imp_of_mem fun {e e'} he he' hlt heq => ?_
  have h1 := updated_of_foldlM hs hw ((w.updated.mem_entries_iff).mp he)
  have h2 := updated_of_foldlM hs hw ((w.updated.mem_entries_iff).mp he')
  have h2' : api.routing.streamIdOf.find? e'.1 = some e.2.streamID := by
    rw [h2.2.1]; exact congrArg some heq.symm
  exact absurd (hs.injective _ _ _ h1.2.1 h2') (ne_of_lt hlt)

theorem mappingFor_settled (hs : Sound api)
    (hw : (cellsOf action).foldlM (applyCell api.usable) api.gather = .ok w) {filled : Mapper}
    (hf : fillMatrix api.routing.mapper.clearAll w.updated.values = .ok filled) (x : Text) :
    (api.settled now w filled).routing.mappingFor x = w.updated.find? x := by
  obtain ⟨-, -, -, hin, hout⟩ := fillMatrix_ok hf (Mapper.filed_clearAll _)
    (Mapper.consistent_clearAll _) (streamIDs_nodup hs hw) fun _ _ => rfl
  rw [settled, foldl_rememberRoutes, ReceiverRouting.mappingFor]
  dsimp only
  cases hm : w.updated.find? x with
  | some m =>
    rw [(updated_of_foldlM hs hw hm).2.1]
    exact hin m (List.mem_map.mpr ⟨(x, m), w.updated.mem_entries_iff.mpr hm, rfl⟩)
  | none =>
    cases hid : api.routing.streamIdOf.find? x with
    | none => rfl
    | some id =>
      refine (hout id fun hmem => ?_).trans rfl
      obtain ⟨m, hv, rfl⟩ := List.mem_map.mp hmem
      obtain ⟨⟨y, m'⟩, he, rfl⟩ := List.mem_map.mp hv
      have hy := w.updated.mem_entries_iff.mp he
      have := hs.injective _ _ _ hid (updated_of_foldlM hs hw hy).2.1
      rw [this, hy] at hm
      cases hm

/-- **The routes the grid has after an action.** -/
theorem routesFor_settled (hs : Sound api)
    (hw : (cellsOf action).foldlM (applyCell api.usable) api.gather = .ok w) {filled : Mapper}
    (hf : fillMatrix api.routing.mapper.clearAll w.updated.values = .ok filled)
    (hx : x ∈ api.receiverIds) :
    (api.settled now w filled).routesFor x = match w.updated.find? x with
      | some m => routesOf m
      | none => (w.routes x).getD [] := by
  rw [routesFor, mappingFor_settled hs hw hf x]
  cases hm : w.updated.find? x with
  | some m => rfl
  | none =>
    have hwait := (foldlM_applyCell hw).2.1.waiting x
    rw [waiting_gather api hx, isNone_of_foldlM hw hx hm] at hwait
    obtain ⟨l, hl⟩ := Option.isSome_iff_exists.mp hwait
    rw [settled, foldl_rememberRoutes, ReceiverRouting.rememberedRoutes]
    dsimp only
    rw [OrdMap.find?_foldl_insert, Work.routes, hm, hl]
    rfl

/-! ## The map afterwards -/

theorem routeAt_eq_none {routes : List ChannelRoute} :
    routeAt routes c = none ↔ ∀ route ∈ routes, route.deviceChannel ≠ c := by
  simp [routeAt]

/-- A receiver with a stream that an action leaves without routes, and a channel of its block. -/
def Returns (w : Work) (x : Text) (c : ℕ) : Prop :=
  ∃ m, w.updated.find? x = some m ∧ m.routes = [] ∧ m.deviceChannelStart ≤ c ∧
    c < m.deviceChannelStart + min m.deviceChannelCount m.streamChannelCount

theorem routeAt_block {m : ChannelMapping} (hm : m.routes = []) :
    routeAt (routesOf m) c ≠ none ↔ m.deviceChannelStart ≤ c ∧
      c < m.deviceChannelStart + min m.deviceChannelCount m.streamChannelCount := by
  rw [Ne, routeAt_eq_none, routesOf, if_neg (by simpa using hm)]
  push Not
  constructor
  · rintro ⟨route, hr, rfl⟩
    obtain ⟨i, hi, rfl⟩ := List.mem_map.mp hr
    have := List.mem_range.mp hi
    dsimp only
    omega
  · rintro ⟨h1, h2⟩
    exact ⟨⟨c - m.deviceChannelStart, c⟩, List.mem_map.mpr ⟨c - m.deviceChannelStart,
      List.mem_range.mpr (by omega), by simp; omega⟩, rfl⟩

section Settled

variable (hs : Sound api)
  (hw : (cellsOf action).foldlM (applyCell api.usable) api.gather = .ok w) {filled : Mapper}
  (hf : fillMatrix api.routing.mapper.clearAll w.updated.values = .ok filled)

include hs hw hf

/-- Away from the blocks that come back, the grid is the one worked out. -/
theorem routeAt_settled (hx : x ∈ api.receiverIds) (hr : ¬ Returns w x c) :
    routeAt ((api.settled now w filled).routesFor x) c = w.sends x c := by
  rw [routesFor_settled hs hw hf hx]
  cases hm : w.updated.find? x with
  | none =>
    dsimp only
    rw [Work.sends]
    cases w.routes x <;> rfl
  | some m =>
    rw [Work.sends, Work.routes, hm]
    by_cases he : m.routes = []
    · have hn : routeAt (routesOf m) c = none := by
        by_contra h
        exact hr ⟨m, hm, he, (routeAt_block he).mp h⟩
      exact hn.trans (by simp [he, routeAt])
    · simp [routesOf, he]

theorem routeAt_returns (hx : x ∈ api.receiverIds) (hr : Returns w x c) :
    routeAt ((api.settled now w filled).routesFor x) c ≠ none ∧ w.sends x c = none := by
  obtain ⟨m, hm, he, hc⟩ := hr
  rw [routesFor_settled hs hw hf hx, Work.sends, Work.routes, hm]
  exact ⟨(routeAt_block he).mpr hc, by simp [he, routeAt]⟩

/-- The matrix lets no two streams onto one channel. -/
theorem eq_of_routeAt_settled {m m' : ChannelMapping} (hx : w.updated.find? x = some m)
    (hy : w.updated.find? y = some m') (hc : routeAt (routesOf m) c ≠ none)
    (hc' : routeAt (routesOf m') c ≠ none) : x = y := by
  obtain ⟨-, hcons, -, hin, -⟩ := fillMatrix_ok hf (Mapper.filed_clearAll _)
    (Mapper.consistent_clearAll _) (streamIDs_nodup hs hw) fun _ _ => rfl
  have uses : ∀ {z : Text} {n : ChannelMapping}, w.updated.find? z = some n →
      routeAt (routesOf n) c ≠ none → filled.Uses n.streamID c := by
    intro z n hz hn
    refine ⟨n, hin n (List.mem_map.mpr ⟨(z, n), w.updated.mem_entries_iff.mpr hz, rfl⟩), ?_⟩
    rw [ChannelMapping.mem_deviceChannels]
    split_ifs with he
    · have := (routeAt_block he).mp hn
      omega
    · rw [Ne, routeAt_eq_none, routesOf, if_pos he] at hn
      push Not at hn
      exact hn
  have hid := hcons.disjoint _ _ c (uses hx hc) (uses hy hc')
  have h1 := (updated_of_foldlM hs hw hx).2.1
  have h2 := (updated_of_foldlM hs hw hy).2.1
  rw [hid] at h1
  exact hs.injective _ _ _ h1 h2

/-- **When the map shows the routes that were worked out**: a block that comes back is hidden by a
later receiver without a stream. -/
theorem lastSome_effect_iff :
    (api.settled now w filled).feeding.find? c = lastSome api.receiverIds (w.sends · c) ↔
      ∀ x, Returns w x c → ∃ y ∈ api.receiverIds, x < y ∧ w.updated.find? y = none ∧
        w.sends y c ≠ none := by
  have hids : (api.settled now w filled).receiverIds = api.receiverIds := rfl
  have sorted : api.receiverIds.Pairwise (· < ·) := api.receivers.keys_pairwise
  rw [find?_feeding, hids]
  constructor
  · intro h x hr
    have hx : x ∈ api.receiverIds := by
      obtain ⟨m, hm, -⟩ := hr
      exact (updated_of_foldlM hs hw hm).1
    obtain ⟨h1, h2⟩ : routeAt ((api.settled now w filled).routesFor x) c ≠ none ∧
        w.sends x c = none := routeAt_returns hs hw hf hx hr
    rcases hl : lastSome api.receiverIds (w.sends · c) with _ | ⟨z, b⟩
    · rw [hl] at h
      exact absurd (lastSome_eq_none.mp h x hx) h1
    obtain ⟨hz, hzs, -⟩ := (lastSome_eq_some sorted).mp hl
    rw [hl] at h
    obtain ⟨-, hza, hlast⟩ := (lastSome_eq_some sorted).mp h
    have hxz : x < z := by
      refine lt_of_le_of_ne (not_lt.mp fun hlt => h1 (hlast x hx hlt)) fun e => ?_
      rw [← e, h2] at hzs
      cases hzs
    refine ⟨z, hz, hxz, ?_, by rw [hzs]; simp⟩
    -- two receivers with streams cannot both be on the channel
    by_contra hne
    obtain ⟨m', hm'⟩ := Option.ne_none_iff_exists'.mp hne
    obtain ⟨m, hm, he, hc⟩ := hr
    rw [routesFor_settled hs hw hf hz, hm'] at hza
    exact ne_of_lt hxz (eq_of_routeAt_settled hs hw hf hm hm' ((routeAt_block he).mpr hc)
      (by rw [hza]; simp))
  · intro h
    refine lastSome_of_later sorted fun x hx => ?_
    by_cases hr : Returns w x c
    · obtain ⟨y, hy, hxy, hn, hsend⟩ := h x hr
      refine Or.inr ⟨y, hy, hxy, hsend, routeAt_settled hs hw hf hy ?_⟩
      rintro ⟨m, hm, -⟩
      rw [hn] at hm
      cases hm
    · exact Or.inl (routeAt_settled hs hw hf hx hr)

end Settled

/-! ## What was asked -/

/-- The cell of the active map an action's cell asks for. -/
def asked (cell : Json) : Json :=
  match cell.get "input" with
  | .null => cellJson none
  | input => .obj [("channel_index".toList, cell.get "channel_index"), ("input".toList, input)]

/-- The action has a cell for the channel. -/
def Names (action : Json) (c : ℕ) : Prop := ∃ e ∈ cellsOf action, stoi e.1 = some (c : ℤ)

/-- The answers before and after an action show exactly its effect. -/
structure Exact (before after : ApiResponse) (action : Json) : Prop where
  named : ∀ e ∈ cellsOf action, ∀ c : ℕ, stoi e.1 = some (c : ℤ) → shown after c = asked e.2
  others : ∀ c, ¬ Names action c → shown after c = shown before c

/-- In the grid asked for, the receiver feeds the channel. -/
def Assigns (api : ChannelMappingApi) (action : Json) (receiverId : Text) (c : ℕ) : Prop :=
  (∃ e ∈ cellsOf action, stoi e.1 = some (c : ℤ) ∧ e.2.get "input" = .str receiverId) ∨
    ¬ Names action c ∧ ∃ route ∈ api.routesFor receiverId, route.deviceChannel = c

/-- The actions that have exactly the effect asked for: their channel indices are whole, cells for
one channel agree, and a receiver with a stream that is to feed nothing has its block hidden by
later receivers that wait for a stream. -/
structure Faithful (api : ChannelMappingApi) (action : Json) : Prop where
  whole : ∀ e ∈ cellsOf action, ∀ input, e.2.get "input" = .str input →
    ∃ n, e.2.get "channel_index" = .ofNat n
  agree : ∀ e ∈ cellsOf action, ∀ e' ∈ cellsOf action, ∀ c : ℕ, stoi e.1 = some (c : ℤ) →
    stoi e'.1 = some (c : ℤ) → asked e.2 = asked e'.2
  hidden : ∀ r ∈ api.receiverIds, ∀ m, api.routing.mappingFor r = some m →
    (∀ c, ¬ Assigns api action r c) → ∀ c < api.usable, m.deviceChannelStart ≤ c →
    c < m.deviceChannelStart + min m.deviceChannelCount m.streamChannelCount →
    ∃ x ∈ api.receiverIds, r < x ∧ api.routing.mappingFor x = none ∧ Assigns api action x c

theorem cellJson_injective : Function.Injective cellJson := by
  intro a b h
  rcases a with _ | ⟨x, i⟩ <;> rcases b with _ | ⟨y, j⟩
  · rfl
  · simp [cellJson] at h
  · simp [cellJson] at h
  · simpa [cellJson, Json.ofNat, and_comm] using h

theorem castInt_fin {n : ℕ} (h : 0 ≤ castInt (.fin n)) : castInt (.fin n) = n := by
  simp only [castInt] at h ⊢
  split_ifs at h ⊢
  · simp
  · omega

section Work

variable {usable : ℕ} {e : Text × Json}

/-- A cell gives its input what it asks for exactly when its channel index is whole. -/
theorem asked_eq_iff (h : Taken usable w e c) : asked e.2 = cellJson (ask e.2) ↔
    ∀ input, e.2.get "input" = .str input → ∃ n, e.2.get "channel_index" = .ofNat n := by
  rcases h.shape with hn | ⟨input, index, hin, -, hidx, h0⟩
  · simp [asked, ask, hn]
  · simp only [asked, ask, hin, hidx, cellJson]
    constructor
    · intro he input' _
      have : index = .fin ((castInt index).toNat : ℕ) := by simpa [Json.ofNat] using he
      exact ⟨_, congrArg Json.num this⟩
    · intro he
      obtain ⟨n, hn⟩ := he input rfl
      have hq : index = .fin n := by simpa [Json.ofNat] using hn
      subst hq
      rw [castInt_fin h0]
      rfl

theorem grants_ne_none_iff (h : Taken usable w e c) :
    grants e.2 x ≠ none ↔ e.2.get "input" = .str x := by
  rcases h.shape with hn | ⟨input, index, hin, -, hidx, -⟩
  · simp [grants, ask, hn]
  · simp [grants, ask, hin, hidx]

theorem get_input_asked (cell : Json) : (asked cell).get "input" = cell.get "input" := by
  rw [asked]
  split
  · next h => rw [h]; rfl
  · rfl

theorem lastCell_taken {cells : List (Text × Json)}
    (ht : ∀ e ∈ cells, ∃ c, Taken usable w e c) {cell : Json} (h : lastCell cells c = some cell) :
    ∃ e ∈ cells, e.2 = cell ∧ Taken usable w e c := by
  obtain ⟨e, he, hc, hcell⟩ := mem_of_lastCell h
  obtain ⟨d, hd⟩ := ht e he
  have : d = c := by
    have := hd.channel.symm.trans hc
    simpa using this
  exact ⟨e, he, hcell, this ▸ hd⟩

theorem names_iff : Names action c ↔ ∃ cell, lastCell (cellsOf action) c = some cell := by
  rw [← Option.ne_none_iff_exists', Ne, lastCell_eq_none, Names]
  push Not
  rfl

end Work

section WorkedOut

variable (hw : (cellsOf action).foldlM (applyCell api.usable) api.gather = .ok w)

include hw

theorem sends_eq (hx : x ∈ api.receiverIds) : w.sends x c =
    match lastCell (cellsOf action) c with
    | some cell => grants cell x
    | none => routeAt (api.routesFor x) c := by
  have hr := routes_gather api hx
  rw [(foldlM_applyCell hw).2.2 x c (by rw [hr]; rfl)]
  cases lastCell (cellsOf action) c with
  | some cell => rfl
  | none => rw [Work.sends, hr]; rfl

/-- A named channel goes to the input its last cell asks for. -/
theorem lastSome_sends_named {cell : Json} (hc : lastCell (cellsOf action) c = some cell) :
    lastSome api.receiverIds (w.sends · c) = ask cell := by
  have sorted : api.receiverIds.Pairwise (· < ·) := api.receivers.keys_pairwise
  have hsend : ∀ x ∈ api.receiverIds, w.sends x c = grants cell x := fun x hx => by
    rw [sends_eq hw hx, hc]
  obtain ⟨e, -, rfl, ht⟩ := lastCell_taken (foldlM_applyCell hw).1 hc
  cases ha : ask e.2 with
  | none =>
    refine lastSome_eq_none.mpr fun x hx => ?_
    rw [hsend x hx, grants, ha]
  | some p =>
    obtain ⟨input, i⟩ := p
    have hin : e.2.get "input" = .str input := by
      rw [← grants_ne_none_iff ht, grants, ha]
      simp
    have hmem : input ∈ api.receiverIds := by
      rcases ht.shape with hn | ⟨input', -, hin', hk, -⟩
      · rw [hn] at hin
        cases hin
      · rw [hin'] at hin
        cases hin
        exact mem_receiverIds_of_routes hk
    refine (lastSome_eq_some sorted).mpr ⟨hmem, ?_, fun x hx hlt => ?_⟩
    · rw [hsend input hmem, grants, ha]
      simp
    · rw [hsend x hx, grants, ha]
      simp [ne_of_lt hlt]

/-- A channel no cell names stays as it is. -/
theorem lastSome_sends_other (hc : ¬ Names action c) :
    lastSome api.receiverIds (w.sends · c) = api.feeding.find? c := by
  have hn : lastCell (cellsOf action) c = none := by
    by_contra h
    exact hc (names_iff.mpr (Option.ne_none_iff_exists'.mp h))
  rw [find?_feeding]
  refine lastSome_of_later api.receivers.keys_pairwise fun x hx => Or.inl ?_
  rw [sends_eq hw hx, hn]

/-- Where the cells agree, a receiver is sent to the channels it is assigned. -/
theorem sends_ne_none_iff (hx : x ∈ api.receiverIds)
    (agree : ∀ e ∈ cellsOf action, ∀ e' ∈ cellsOf action, ∀ c : ℕ, stoi e.1 = some (c : ℤ) →
      stoi e'.1 = some (c : ℤ) → asked e.2 = asked e'.2) :
    w.sends x c ≠ none ↔ Assigns api action x c := by
  have taken := (foldlM_applyCell hw).1
  rw [sends_eq hw hx, Assigns]
  cases hl : lastCell (cellsOf action) c with
  | none =>
    have hn : ¬ Names action c := by rw [names_iff, hl]; simp
    have hr : (∃ e ∈ cellsOf action, stoi e.1 = some (c : ℤ) ∧ e.2.get "input" = .str x) ↔
        False := iff_false_intro fun ⟨e, he, hc, _⟩ => hn ⟨e, he, hc⟩
    rw [hr, false_or, Ne, routeAt_eq_none]
    push Not
    exact ⟨fun h => ⟨hn, h⟩, And.right⟩
  | some cell =>
    obtain ⟨e, he, rfl, ht⟩ := lastCell_taken taken hl
    rw [grants_ne_none_iff ht]
    constructor
    · intro h
      exact Or.inl ⟨e, he, ht.channel, h⟩
    · rintro (⟨e', he', hc', hin⟩ | ⟨hn, -⟩)
      · rw [← get_input_asked, ← agree e' he' e he c hc' ht.channel, get_input_asked, hin]
      · exact absurd (names_iff.mpr ⟨_, hl⟩) hn

/-- Where the cells agree, a block comes back when its receiver is assigned nothing. -/
theorem returns_iff (hs : Sound api)
    (agree : ∀ e ∈ cellsOf action, ∀ e' ∈ cellsOf action, ∀ c : ℕ, stoi e.1 = some (c : ℤ) →
      stoi e'.1 = some (c : ℤ) → asked e.2 = asked e'.2) :
    Returns w x c ↔ x ∈ api.receiverIds ∧ ∃ m, api.routing.mappingFor x = some m ∧
      (∀ c, ¬ Assigns api action x c) ∧ m.deviceChannelStart ≤ c ∧
      c < m.deviceChannelStart + min m.deviceChannelCount m.streamChannelCount := by
  have empty_iff : ∀ {m : ChannelMapping}, x ∈ api.receiverIds → w.updated.find? x = some m →
      (m.routes = [] ↔ ∀ c, ¬ Assigns api action x c) := by
    intro m hx hm
    have hsends : ∀ c, w.sends x c = routeAt m.routes c := fun c => by
      rw [Work.sends, Work.routes, hm]
      rfl
    constructor
    · intro he c
      rw [← sends_ne_none_iff hw hx agree, hsends, he]
      simp [routeAt]
    · intro h
      refine List.eq_nil_iff_forall_not_mem.mpr fun route hr => ?_
      refine h route.deviceChannel ((sends_ne_none_iff hw hx agree).mp ?_)
      rw [hsends, Ne, routeAt_eq_none]
      exact fun hn => hn route hr rfl
  constructor
  · rintro ⟨m, hm, he, hc⟩
    obtain ⟨hx, -, m₀, h₀, hmm⟩ := updated_of_foldlM hs hw hm
    refine ⟨hx, m₀, h₀, (empty_iff hx hm).mp he, ?_⟩
    rw [hmm] at hc
    exact hc
  · rintro ⟨hx, m₀, h₀, hn, hc⟩
    cases hm : w.updated.find? x with
    | none => rw [isNone_of_foldlM hw hx hm] at h₀; cases h₀
    | some m =>
      obtain ⟨-, -, m₁, h₁, hmm⟩ := updated_of_foldlM hs hw hm
      rw [h₀] at h₁
      cases h₁
      refine ⟨m, hm, (empty_iff hx hm).mpr hn, ?_⟩
      rw [hmm]
      exact hc

end WorkedOut

section Settled

variable (hs : Sound api)
  (hw : (cellsOf action).foldlM (applyCell api.usable) api.gather = .ok w) {filled : Mapper}
  (hf : fillMatrix api.routing.mapper.clearAll w.updated.values = .ok filled)

include hs hw hf

theorem usable_settled : (api.settled now w filled).usable = api.usable := by
  obtain ⟨-, -, h, -⟩ := fillMatrix_ok hf (Mapper.filed_clearAll _)
    (Mapper.consistent_clearAll _) (streamIDs_nodup hs hw) fun _ _ => rfl
  rw [settled, foldl_rememberRoutes]
  exact h

/-- An action has exactly its effect when its cells are whole and agree and the map shows the
routes worked out. -/
theorem exact_iff_shows : Exact api.activeMap (api.settled now w filled).activeMap action ↔
    (∀ e ∈ cellsOf action, ∀ input, e.2.get "input" = .str input →
      ∃ n, e.2.get "channel_index" = .ofNat n) ∧
    (∀ e ∈ cellsOf action, ∀ e' ∈ cellsOf action, ∀ c : ℕ, stoi e.1 = some (c : ℤ) →
      stoi e'.1 = some (c : ℤ) → asked e.2 = asked e'.2) ∧
    ∀ c < api.usable, (api.settled now w filled).feeding.find? c =
      lastSome api.receiverIds (w.sends · c) := by
  have taken := (foldlM_applyCell hw).1
  have before : ∀ c, shown api.activeMap c = _ := shown_activeMap api
  have after : ∀ c, shown (api.settled now w filled).activeMap c = _ :=
    shown_activeMap (api.settled now w filled)
  simp only [usable_settled hs hw hf] at after
  constructor
  · intro h
    have whole : ∀ e ∈ cellsOf action, ∀ input, e.2.get "input" = .str input →
        ∃ n, e.2.get "channel_index" = .ofNat n := by
      intro e he input hin
      obtain ⟨c, ht⟩ := taken e he
      have hc := h.named e he c ht.channel
      rw [after, if_pos ht.lt, asked, hin] at hc
      rcases hv : (api.settled now w filled).feeding.find? c with _ | ⟨y, n⟩
      · rw [hv] at hc
        simp [cellJson] at hc
      · rw [hv] at hc
        simp only [cellJson, Json.obj.injEq, List.cons.injEq, Prod.mk.injEq, true_and] at hc
        exact ⟨n, hc.1.symm⟩
    refine ⟨whole, fun e he e' he' c hc hc' => ?_, fun c hc => ?_⟩
    · rw [← h.named e he c hc, h.named e' he' c hc']
    · refine cellJson_injective ?_
      by_cases hn : Names action c
      · obtain ⟨cell, hl⟩ := names_iff.mp hn
        rw [lastSome_sends_named hw hl]
        obtain ⟨e, he, rfl, ht⟩ := lastCell_taken taken hl
        rw [← (asked_eq_iff ht).mpr (whole e he), ← h.named e he c ht.channel, after, if_pos hc]
      · have := h.others c hn
        rw [after, before, if_pos hc, if_pos hc] at this
        rw [this, lastSome_sends_other hw hn]
  · rintro ⟨whole, agree, hmap⟩
    constructor
    · intro e he c hc
      obtain ⟨cell, hl⟩ := names_iff.mp ⟨e, he, hc⟩
      have hsend := lastSome_sends_named hw hl
      obtain ⟨e', he', rfl, ht⟩ := lastCell_taken taken hl
      rw [after, if_pos ht.lt, hmap c ht.lt, hsend, ← (asked_eq_iff ht).mpr (whole e' he')]
      exact agree e' he' e he c ht.channel hc
    · intro c hn
      rw [after, before]
      split_ifs with hc
      · rw [hmap c hc, lastSome_sends_other hw hn]
      · rfl

/-- **An activation the matrix took has exactly its effect when it is faithful.** -/
theorem exact_settled_iff :
    Exact api.activeMap (api.settled now w filled).activeMap action ↔ Faithful api action := by
  rw [exact_iff_shows hs hw hf]
  have waiting_iff : ∀ x ∈ api.receiverIds,
      (w.updated.find? x = none ↔ api.routing.mappingFor x = none) := by
    intro x hx
    refine ⟨isNone_of_foldlM hw hx, fun h => ?_⟩
    by_contra hne
    obtain ⟨m, hm⟩ := Option.ne_none_iff_exists'.mp hne
    obtain ⟨-, -, m₀, h₀, -⟩ := updated_of_foldlM hs hw hm
    rw [h] at h₀
    cases h₀
  constructor
  · rintro ⟨whole, agree, hmap⟩
    refine ⟨whole, agree, fun r hr m hm hn c hc h1 h2 => ?_⟩
    have ret := (returns_iff hw hs agree).mpr ⟨hr, m, hm, hn, h1, h2⟩
    obtain ⟨y, hy, hlt, hnone, hsend⟩ := (lastSome_effect_iff hs hw hf).mp (hmap c hc) r ret
    exact ⟨y, hy, hlt, (waiting_iff y hy).mp hnone, (sends_ne_none_iff hw hy agree).mp hsend⟩
  · intro h
    refine ⟨h.whole, h.agree, fun c hc => (lastSome_effect_iff hs hw hf).mpr fun x ret => ?_⟩
    obtain ⟨hx, m, hm, hn, h1, h2⟩ := (returns_iff hw hs h.agree).mp ret
    obtain ⟨y, hy, hlt, hnone, has⟩ := h.hidden x hx m hm hn c hc h1 h2
    exact ⟨y, hy, hlt, (waiting_iff y hy).mpr hnone, (sends_ne_none_iff hw hy h.agree).mpr has⟩

end Settled

/-! ## Runs -/

theorem Sound.of_routing {api' : ChannelMappingApi} (h : Sound api)
    (e : api'.routing = api.routing) : Sound api' := by
  constructor
  · rw [e]
    exact h.filed
  · rw [e]
    exact h.injective

theorem sound_settled (hs : Sound api)
    (hw : (cellsOf action).foldlM (applyCell api.usable) api.gather = .ok w) {filled : Mapper}
    (hf : fillMatrix api.routing.mapper.clearAll w.updated.values = .ok filled) :
    Sound (api.settled now w filled) := by
  obtain ⟨h, -⟩ := fillMatrix_ok hf (Mapper.filed_clearAll _) (Mapper.consistent_clearAll _)
    (streamIDs_nodup hs hw) fun _ _ => rfl
  constructor
  · rw [settled, foldl_rememberRoutes]
    exact h
  · rw [settled, foldl_rememberRoutes]
    exact hs.injective

theorem sound_applyAction (hs : Sound api) (commit : Bool) :
    Sound (api.applyAction now action commit).1 := by
  rcases api.applyAction_cases now action commit with
    ⟨r, e, -⟩ | ⟨r, e, -⟩ | ⟨w, filled, -, hw, hf, e⟩
  · rw [e]
    exact hs
  · rw [e]
    exact ⟨Mapper.filed_foldl (Mapper.filed_clearAll _) _, hs.injective⟩
  · rw [e]
    exact sound_settled hs hw hf

theorem sound_applyDue (hs : Sound api) (l : List PendingActivation) :
    Sound (applyDue now l api) := by
  induction l generalizing api with
  | nil => exact hs
  | cons activation l ih =>
    rw [applyDue]
    split_ifs
    · exact ih (sound_applyAction hs true)
    · exact (ih hs).of_routing rfl

theorem sound_applyDueActivations (hs : Sound api) : Sound (api.applyDueActivations now) :=
  sound_applyDue (Sound.of_routing hs rfl : Sound { api with pending := [] }) _

theorem sound_postActivation (hs : Sound api) (request : Json) :
    Sound (api.postActivation now request).1 := by
  have hnext : Sound { api with nextActivationId := api.nextActivationId + 1 } := hs.of_routing rfl
  rw [postActivation]
  split
  · exact hs
  split
  · exact hs
  split
  · dsimp only
    split
    · exact hs
    split
    · exact hs
    split
    · split <;> exact sound_applyAction hnext true
    split
    · split
      · exact hnext
      · split
        · exact sound_applyAction hnext false
        · exact (sound_applyAction hnext false).of_routing rfl
    · exact hnext
  · exact hs

theorem sound_release (hs : Sound api) (receiverId : Text) :
    Sound { api with routing := api.routing.release receiverId } := by
  rw [ReceiverRouting.release]
  split
  · exact hs
  · refine ⟨Mapper.filed_removeMapping hs.filed _, fun r r' id h h' => ?_⟩
    dsimp only at h h'
    rw [OrdMap.find?_erase] at h h'
    split_ifs at h h'
    exact hs.injective r r' id h h'

theorem streamID_overlay (r : ReceiverRouting) (receiverId : Text) (m : ChannelMapping) :
    (r.overlay receiverId m).streamID = m.streamID := by
  rw [ReceiverRouting.overlay]
  split
  · rfl
  · dsimp only
    split_ifs <;> rfl

/-- The identifiers `StreamID::generate` makes up are new. -/
def Fresh (api : ChannelMappingApi) : Op → Prop
  | .activate _ _ _ generated => ∀ r, api.routing.streamIdOf.find? r ≠ some generated
  | _ => True

theorem sound_apply (hs : Sound api) {receiverId sdp : Text} {enable : Bool}
    {generated : StreamID} (fresh : ∀ r, api.routing.streamIdOf.find? r ≠ some generated) :
    Sound { api with routing := (api.routing.apply receiverId sdp enable generated).1 } := by
  have hrel := sound_release hs receiverId
  have hfresh : ∀ r, (api.routing.release receiverId).streamIdOf.find? r ≠ some generated := by
    intro r
    rw [ReceiverRouting.release]
    split
    · exact fresh r
    · dsimp only
      rw [OrdMap.find?_erase]
      split_ifs
      · simp
      · exact fresh r
  rw [ReceiverRouting.apply]
  split_ifs
  · exact hrel
  split
  · exact hs
  dsimp only
  split
  · exact hrel
  next mapping hmap =>
  have hid : (((api.routing.release receiverId).overlay receiverId mapping)).streamID =
      generated := by
    rw [streamID_overlay]
    rw [Mapper.createDefaultMapping] at hmap
    split at hmap
    · cases hmap
    · cases hmap
      rfl
  split_ifs
  · exact hrel
  split
  · exact hrel
  next mapper hadd =>
  constructor
  · have := Mapper.filed_addMapping hrel.filed
      ((api.routing.release receiverId).overlay receiverId mapping)
    dsimp only at this
    rw [hadd] at this
    exact this
  · intro r r' id h h'
    dsimp only at h h'
    rw [OrdMap.find?_insert, hid] at h h'
    split_ifs at h h' with e e' e'
    · rw [e, e']
    · cases h
      exact absurd h' (hfresh r')
    · cases h'
      exact absurd h (hfresh r)
    · exact hrel.injective r r' id h h'

theorem sound_step (hs : Sound api) {op : Op} (fresh : Fresh api op) : Sound (api.step op) := by
  cases op with
  | addReceiver id => exact hs.of_routing rfl
  | removeReceiver id => exact hs.of_routing rfl
  | setUsableChannelCount count => exact ⟨hs.filed, hs.injective⟩
  | activate receiverId sdp enable generated => exact sound_apply hs fresh
  | post now request => exact sound_postActivation (sound_applyDueActivations hs) request
  | active now => exact sound_applyDueActivations hs
  | delete now id => exact (sound_applyDueActivations hs).of_routing rfl

theorem sound_run {ops : List Op} (fresh : Along step Fresh {} ops) :
    Sound (ops.foldl step {}) := by
  refine (always_of_along (fun api op hs hf => sound_step hs hf) ?_ fresh).run
  exact ⟨Mapper.filed_init, fun r r' id h => by cases h⟩

/-- An immediate activation that is answered with success found nothing waiting and was taken by
the matrix. -/
theorem postActivation_immediate {request : Json}
    (himm : (request.get "activation").get "mode" = .str "activate_immediate".toList)
    (hok : (api.postActivation now request).2.ok = true) :
    api.pending = [] ∧
      (({ api with nextActivationId := api.nextActivationId + 1 } :
        ChannelMappingApi).applyAction now (request.get "action") true).2.ok = true ∧
      (api.postActivation now request).1 =
        (({ api with nextActivationId := api.nextActivationId + 1 } :
          ChannelMappingApi).applyAction now (request.get "action") true).1 := by
  cases ho : request.isObject with
  | false => simp [postActivation, ho, errorResponse, jsonResponse, ApiResponse.ok] at hok
  | true =>
  cases ha : (request.get "activation").isObject with
  | false => simp [postActivation, ho, ha, errorResponse, jsonResponse, ApiResponse.ok] at hok
  | true =>
  rw [postActivation, ho, ha, himm] at hok ⊢
  by_cases hp : api.pending = []
  · refine ⟨hp, ?_⟩
    rw [if_neg (by simp), if_neg (by simp)] at hok ⊢
    dsimp only at hok ⊢
    rw [if_neg (by simp), if_neg (by simpa using hp), if_pos rfl] at hok ⊢
    split at hok
    · next hn => simp [hok] at hn
    · next hn => rw [if_neg hn]; exact ⟨by simpa using hn, rfl⟩
  · simp [hp, errorResponse, jsonResponse, ApiResponse.ok] at hok

/-- Where nothing waits, reading the active map does nothing first. -/
theorem handleActive_of_pending (api : ChannelMappingApi) (hp : api.pending = []) (now : TaiTime) :
    (api.handleActive now).2 = api.activeMap := by
  rw [handleActive, applyDueActivations, hp]
  rfl

/-- **A successful immediate activation has exactly the effect asked for when it is faithful, and
only then**, in every state a run reaches. -/
theorem activation_exact_iff (ops : List Op) (fresh : Along step Fresh {} ops)
    (now later : TaiTime) (request : Json)
    (himm : (request.get "activation").get "mode" = .str "activate_immediate".toList)
    (hok : ((ops.foldl step {}).handlePost now request).2.ok = true) :
    Exact ((ops.foldl step {}).handleActive now).2
        (((ops.foldl step {}).handlePost now request).1.handleActive later).2
        (request.get "action") ↔
      Faithful ((ops.foldl step {}).applyDueActivations now) (request.get "action") := by
  have hs : Sound ((ops.foldl step {}).applyDueActivations now) :=
    sound_applyDueActivations (sound_run fresh)
  rw [handlePost] at hok ⊢
  rw [handleActive]
  dsimp only
  generalize (ops.foldl step {}).applyDueActivations now = api at hs hok ⊢
  obtain ⟨hp, hok', he⟩ := postActivation_immediate himm hok
  have hnext : Sound { api with nextActivationId := api.nextActivationId + 1 } := hs.of_routing rfl
  rw [he]
  rcases applyAction_cases { api with nextActivationId := api.nextActivationId + 1 } now
    (request.get "action") true with ⟨r, e, hr⟩ | ⟨r, e, hr⟩ | ⟨w, filled, -, hw, hf, e⟩
  · rw [e] at hok'
    simp [hr] at hok'
  · rw [e] at hok'
    simp [hr.resolve_right (by simp)] at hok'
  · rw [e]
    have hlater := handleActive_of_pending
      (settled { api with nextActivationId := api.nextActivationId + 1 } now w filled) hp later
    dsimp only
    rw [hlater]
    refine (exact_settled_iff hnext hw hf).trans ?_
    exact ⟨fun h => ⟨h.whole, h.agree, h.hidden⟩, fun h => ⟨h.whole, h.agree, h.hidden⟩⟩

/-- An immediate activation of one or more cells, as a request body. -/
def immediate (cells : List (Text × Json)) : Json :=
  .obj [("action".toList, .obj [(kDeviceOutputId.toList, .obj cells)]),
    ("activation".toList, .obj [("mode".toList, .str "activate_immediate".toList)])]

/-- A receiver on its block, channels 0 and 1 in order. -/
def oneReceiver : List Op :=
  [.addReceiver "a".toList, .activate "a".toList [] true ⟨1, StreamID.one_lt⟩]

theorem fresh_oneReceiver : Along step Fresh {} oneReceiver := by
  refine ⟨trivial, ?_, trivial⟩
  intro r h
  cases h

/-- Its first channel taken to channel 64 as well. -/
theorem oneReceiver_exact :
    Exact ((oneReceiver.foldl step {}).handleActive {}).2
      (((oneReceiver.foldl step {}).handlePost {}
        (immediate [("64".toList, cellJson (some ("a".toList, 0)))])).1.handleActive {}).2
      ((immediate [("64".toList, cellJson (some ("a".toList, 0)))]).get "action") := by
  refine (activation_exact_iff oneReceiver fresh_oneReceiver {} {} _ rfl (by decide)).mpr ?_
  have hcells : cellsOf ((immediate [("64".toList, cellJson (some ("a".toList, 0)))]).get "action")
      = [("64".toList, cellJson (some ("a".toList, 0)))] := rfl
  constructor
  · intro e he input _
    rw [hcells, List.mem_singleton] at he
    exact ⟨0, by rw [he]; rfl⟩
  · intro e he e' he' c _ _
    rw [hcells, List.mem_singleton] at he he'
    rw [he, he']
  · intro r hr m _ hn
    have hr' : r ∈ ["a".toList] := hr
    rw [List.mem_singleton] at hr'
    refine absurd (Or.inl ⟨("64".toList, cellJson (some ("a".toList, 0))), ?_, ?_, ?_⟩) (hn 64)
    · rw [hcells]
      exact List.mem_singleton_self _
    · decide
    · rw [hr']
      rfl

/-- **Both channels of a receiver emptied**: the request is answered with success, and the map
still shows the receiver on them. -/
theorem emptied_not_exact :
    Along step Fresh {} oneReceiver ∧
    ((oneReceiver.foldl step {}).handlePost {}
      (immediate [("0".toList, cellJson none), ("1".toList, cellJson none)])).2.ok = true ∧
    ¬ Exact ((oneReceiver.foldl step {}).handleActive {}).2
      (((oneReceiver.foldl step {}).handlePost {}
        (immediate [("0".toList, cellJson none), ("1".toList, cellJson none)])).1.handleActive {}).2
      ((immediate [("0".toList, cellJson none), ("1".toList, cellJson none)]).get "action") := by
  refine ⟨fresh_oneReceiver, by decide, fun h => ?_⟩
  have h0 := h.named ("0".toList, cellJson none) List.mem_cons_self 0 (by decide)
  rw [handleActive_of_pending _ (by decide), shown_activeMap, if_pos (by decide)]
    at h0
  have hfed : (((oneReceiver.foldl step {}).handlePost {} (immediate [("0".toList, cellJson none),
      ("1".toList, cellJson none)])).1.feeding.find? 0) = some ("a".toList, 0) := by
    decide
  rw [hfed] at h0
  cases h0

end ChannelMappingApi

end Aes67.Ravenna
