import Aes67.Lib.Run
import Aes67.Lib.LastWriter
import Aes67.Mapper.Owners
import Aes67.Ravenna.Routing

/-!
# Working an action out

The active map, and what `applyAction` makes of the cells of an action before it touches the
matrix: each channel a cell names is taken off whatever fed it and given to the input the cell
names.

* `shown_activeMap`, `find?_feeding`: the active map shows the last receiver that feeds a channel;
* `Work.sends`: the stream channel an input sends to a device channel;
* **`foldlM_applyCell`**: what the cells of an action do to it, one after another;
* `routes_gather`: the routes an action starts from are those the grid shows;
* `fillMatrix_ok`: the matrix emptied and filled with mappings of different streams.
-/

namespace Aes67.Ravenna

namespace ChannelMappingApi

variable {api : ChannelMappingApi} {c : ℕ} {x : Text}

/-! ## The active map -/

/-- The stream channel that routes send to a device channel. -/
def routeAt (routes : List ChannelRoute) (c : ℕ) : Option ℕ :=
  (routes.filter fun route => route.deviceChannel = c).getLast?.map ChannelRoute.streamChannel

theorem find?_feeding (api : ChannelMappingApi) (c : ℕ) : api.feeding.find? c =
    lastSome api.receiverIds fun receiverId => routeAt (api.routesFor receiverId) c :=
  find?_foldl_writers api.receiverIds api.routesFor ChannelRoute.deviceChannel
    ChannelRoute.streamChannel c

/-- The cell an answer shows for a channel. -/
def shown (response : ApiResponse) (c : ℕ) : Json :=
  ((response.body.get "map").get kDeviceOutputId).member (showNat c)

theorem lookup_foldl_cells (f : ℕ → Json) (l : List ℕ) (cells : List (Text × Json)) :
    lookupEntry (showNat c) (l.foldl (fun cells c => insertEntry (showNat c) (f c) cells) cells) =
      if c ∈ l then some (f c) else lookupEntry (showNat c) cells := by
  induction l generalizing cells with
  | nil => simp
  | cons a l ih =>
    rw [List.foldl_cons, ih, lookupEntry, lookup_insertEntry, lookupEntry]
    by_cases hc : c ∈ l
    · simp [hc]
    · by_cases ha : c = a
      · simp [ha]
      · simp [hc, ha, showNat_injective.ne ha]

theorem shown_activeMap (api : ChannelMappingApi) (c : ℕ) :
    shown api.activeMap c = if c < api.usable then cellJson (api.feeding.find? c) else .null := by
  have hcells : shown api.activeMap c = (lookupEntry (showNat c) api.outputCells).getD .null := rfl
  rw [hcells, outputCells, lookup_foldl_cells]
  by_cases h : c < api.usable <;> simp [h, lookupEntry]

/-! ## Working an action out -/

theorem routeAt_unfeed (routes : List ChannelRoute) (d : ℕ) :
    routeAt (unfeed d routes) c = if c = d then none else routeAt routes c := by
  rw [routeAt, unfeed, List.filter_filter]
  split_ifs with h
  · have : routes.filter (fun route => decide (route.deviceChannel = c) &&
        decide (route.deviceChannel ≠ d)) = [] := by
      rw [List.filter_eq_nil_iff]
      intro route _
      simp [h]
    rw [this]
    rfl
  · rw [routeAt]
    congr 2
    refine List.filter_congr fun route _ => ?_
    by_cases hc : route.deviceChannel = c <;> simp [hc, h]

theorem routeAt_push (routes : List ChannelRoute) (i d : ℕ) :
    routeAt (routes ++ [⟨i, d⟩]) c = if c = d then some i else routeAt routes c := by
  rw [routeAt, List.filter_append]
  split_ifs with h
  · simp [h]
  · simp [routeAt, Ne.symm h]

namespace Work

variable {w w' : Work}

/-- The routes an input has, nothing where there is no such input. -/
def routes (w : Work) (input : Text) : Option (List ChannelRoute) :=
  match w.updated.find? input with
  | some mapping => some mapping.routes
  | none => w.waiting.find? input

/-- The stream channel an input sends to a device channel. -/
def sends (w : Work) (input : Text) (c : ℕ) : Option ℕ := (w.routes input).bind (routeAt · c)

/-- Only routes differ. -/
structure Follows (w w' : Work) : Prop where
  updated : ∀ input, (w'.updated.find? input).map (fun m => { m with routes := [] }) =
    (w.updated.find? input).map fun m => { m with routes := [] }
  waiting : ∀ input, (w'.waiting.find? input).isSome = (w.waiting.find? input).isSome

theorem Follows.refl (w : Work) : Follows w w := ⟨fun _ => rfl, fun _ => rfl⟩

theorem Follows.trans {w'' : Work} (h : Follows w w') (h' : Follows w' w'') : Follows w w'' :=
  ⟨fun x => (h'.updated x).trans (h.updated x), fun x => (h'.waiting x).trans (h.waiting x)⟩

theorem Follows.isSome_updated (h : Follows w w') (input : Text) :
    (w'.updated.find? input).isSome = (w.updated.find? input).isSome := by
  have := congrArg Option.isSome (h.updated input)
  simpa using this

theorem Follows.isSome_routes (h : Follows w w') (input : Text) :
    (w'.routes input).isSome = (w.routes input).isSome := by
  have h1 := h.isSome_updated input
  have h2 := h.waiting input
  rw [routes, routes]
  cases hu : w.updated.find? input <;> cases hu' : w'.updated.find? input <;> simp_all

theorem routes_unfeedAll (w : Work) (d : ℕ) (input : Text) :
    (w.unfeedAll d).routes input = (w.routes input).map (unfeed d) := by
  rw [routes, routes, unfeedAll, OrdMap.find?_mapValues, OrdMap.find?_mapValues]
  cases w.updated.find? input <;> rfl

theorem follows_unfeedAll (w : Work) (d : ℕ) : Follows w (w.unfeedAll d) := by
  constructor
  · intro input
    rw [unfeedAll, OrdMap.find?_mapValues, Option.map_map]
    rfl
  · intro input
    rw [unfeedAll, OrdMap.find?_mapValues, Option.isSome_map]

theorem routes_push (w : Work) (input : Text) (hi : (w.routes input).isSome) (route : ChannelRoute)
    (x : Text) : (w.push input route).routes x =
      if x = input then (w.routes x).map (· ++ [route]) else w.routes x := by
  rw [push]
  cases hu : w.updated.find? input with
  | some mapping =>
    simp only [routes, OrdMap.find?_insert]
    by_cases hx : x = input
    · simp [hx, hu]
    · simp [hx]
  | none =>
    obtain ⟨l, hl⟩ := Option.isSome_iff_exists.mp hi
    rw [routes, hu] at hl
    simp only [routes, OrdMap.find?_insert]
    by_cases hx : x = input
    · simp only [hx, hu, if_true]
      simp only at hl
      simp [hl]
    · simp [hx]

theorem follows_push (w : Work) (input : Text) (hi : (w.routes input).isSome)
    (route : ChannelRoute) : Follows w (w.push input route) := by
  rw [push]
  cases hu : w.updated.find? input with
  | some mapping =>
    refine ⟨fun x => ?_, fun _ => rfl⟩
    simp only [OrdMap.find?_insert]
    by_cases hx : x = input
    · simp [hx, hu]
    · simp [hx]
  | none =>
    rw [routes, hu] at hi
    refine ⟨fun _ => rfl, fun x => ?_⟩
    simp only [OrdMap.find?_insert]
    by_cases hx : x = input
    · simpa [hx] using hi.symm
    · simp [hx]

theorem isSome_routes_of_channelsOf {usable n : ℕ} {input : Text}
    (h : w.channelsOf usable input = some n) : (w.routes input).isSome := by
  rw [channelsOf] at h
  rw [routes]
  cases hu : w.updated.find? input with
  | some mapping => rfl
  | none =>
    rw [hu] at h
    obtain ⟨l, hl, -⟩ := Option.map_eq_some_iff.mp h
    exact Option.isSome_of_eq_some hl

end Work

/-- The input and the channel a cell asks for. -/
def ask (cell : Json) : Option (Text × ℕ) :=
  match cell.get "input", cell.get "channel_index" with
  | .str input, .num index => some (input, (castInt index).toNat)
  | _, _ => none

/-- What a cell gives an input. -/
def grants (cell : Json) (input : Text) : Option ℕ :=
  match ask cell with
  | some (x, i) => if x = input then some i else none
  | none => none

/-- What a cell that was taken looks like. -/
structure Taken (usable : ℕ) (w : Work) (e : Text × Json) (c : ℕ) : Prop where
  channel : stoi e.1 = some (c : ℤ)
  lt : c < usable
  shape : e.2.get "input" = .null ∨ ∃ input index, e.2.get "input" = .str input ∧
    (w.routes input).isSome ∧ e.2.get "channel_index" = .num index ∧ 0 ≤ castInt index

theorem Taken.of_follows {usable : ℕ} {w w' : Work} {e : Text × Json} (hf : w.Follows w')
    (h : Taken usable w' e c) : Taken usable w e c := by
  refine ⟨h.channel, h.lt, h.shape.imp_right ?_⟩
  rintro ⟨input, index, hin, hk, hidx⟩
  exact ⟨input, index, hin, by rwa [← hf.isSome_routes], hidx⟩

theorem applyCell_ok {usable : ℕ} {w w' : Work} {e : Text × Json}
    (h : applyCell usable w e = .ok w') : ∃ c, Taken usable w e c ∧ w.Follows w' ∧
      ∀ x d, (w.routes x).isSome → w'.sends x d = if d = c then grants e.2 x else w.sends x d := by
  obtain ⟨channelText, cell⟩ := e
  rw [applyCell] at h
  dsimp only at h
  split at h
  · cases h
  next deviceChannel hs =>
  split_ifs at h with hr ho
  have hc : ((deviceChannel.toNat : ℕ) : ℤ) = deviceChannel := by omega
  have hunfeed : ∀ x d, ((w.unfeedAll deviceChannel.toNat).sends x d) =
      if d = deviceChannel.toNat then none else w.sends x d := by
    intro x d
    rw [Work.sends, Work.routes_unfeedAll, Work.sends]
    cases w.routes x with
    | none => simp
    | some l => simp [routeAt_unfeed]
  refine ⟨deviceChannel.toNat, ?_⟩
  split at h
  · next hnull =>
    cases h
    refine ⟨⟨by rw [hs, hc], by omega, Or.inl hnull⟩, w.follows_unfeedAll _, fun x d _ => ?_⟩
    have hg : grants cell x = none := by simp [grants, ask, hnull]
    rw [hunfeed, hg]
  · next input hin =>
    split at h
    · cases h
    next channels hch =>
    split at h
    · next index hidx =>
      split_ifs at h with hlt
      cases h
      have hsome := Work.isSome_routes_of_channelsOf hch
      have hknown : (w.routes input).isSome := by
        rwa [← (w.follows_unfeedAll deviceChannel.toNat).isSome_routes]
      refine ⟨⟨by rw [hs, hc], by omega, Or.inr ⟨input, index, hin, hknown, hidx, by omega⟩⟩,
        (w.follows_unfeedAll _).trans (Work.follows_push _ input hsome _), fun x d hx => ?_⟩
      have hg : grants cell x = if input = x then some (castInt index).toNat else none := by
        simp [grants, ask, hin, hidx]
      rw [Work.sends, Work.routes_push _ _ hsome, hg]
      by_cases hxi : x = input
      · subst hxi
        obtain ⟨l, hl⟩ := Option.isSome_iff_exists.mp hx
        simp [Work.routes_unfeedAll, hl, routeAt_push, routeAt_unfeed, Work.sends]
        split_ifs <;> rfl
      · rw [if_neg hxi, if_neg (Ne.symm hxi), ← Work.sends, hunfeed]
    · cases h
  · cases h

/-- The last cell that names a channel. -/
def lastCell (cells : List (Text × Json)) (c : ℕ) : Option Json :=
  (cells.filter fun e => stoi e.1 = some (c : ℤ)).getLast?.map Prod.snd

theorem lastCell_cons (e : Text × Json) (cells : List (Text × Json)) :
    lastCell (e :: cells) c =
      (lastCell cells c).or (if stoi e.1 = some (c : ℤ) then some e.2 else none) := by
  rw [lastCell, lastCell, List.filter_cons]
  by_cases h : stoi e.1 = some (c : ℤ)
  · rw [if_pos h, if_pos (by simpa using h), List.getLast?_cons]
    cases (cells.filter fun e => decide (stoi e.1 = some (c : ℤ))).getLast? <;> rfl
  · rw [if_neg h, if_neg (by simpa using h), Option.or_none]

theorem lastCell_eq_none {cells : List (Text × Json)} :
    lastCell cells c = none ↔ ∀ e ∈ cells, stoi e.1 ≠ some (c : ℤ) := by
  simp [lastCell]

theorem mem_of_lastCell {cells : List (Text × Json)} {cell : Json}
    (h : lastCell cells c = some cell) :
    ∃ e ∈ cells, stoi e.1 = some (c : ℤ) ∧ e.2 = cell := by
  obtain ⟨e, he, rfl⟩ := Option.map_eq_some_iff.mp h
  have := List.mem_filter.mp (List.mem_of_getLast? he)
  exact ⟨e, this.1, by simpa using this.2, rfl⟩

/-- **The cells one after another**: each channel goes to the input its last cell names, and a
channel no cell names stays. -/
theorem foldlM_applyCell {usable : ℕ} {cells : List (Text × Json)} {w w' : Work}
    (h : cells.foldlM (applyCell usable) w = .ok w') :
    (∀ e ∈ cells, ∃ c, Taken usable w e c) ∧ w.Follows w' ∧
      ∀ x c, (w.routes x).isSome → w'.sends x c = match lastCell cells c with
        | some cell => grants cell x
        | none => w.sends x c := by
  induction cells generalizing w with
  | nil =>
    cases h
    exact ⟨by simp, .refl _, fun x c _ => by simp [lastCell]⟩
  | cons e cells ih =>
    rw [List.foldlM_cons] at h
    cases h1 : applyCell usable w e with
    | error r => rw [h1] at h; cases h
    | ok w1 =>
      rw [h1] at h
      obtain ⟨d, ht, hf, hs⟩ := applyCell_ok h1
      obtain ⟨htl, hfl, hsl⟩ := ih h
      refine ⟨?_, hf.trans hfl, fun x c hx => ?_⟩
      · intro e' he
        rcases List.mem_cons.mp he with rfl | he
        · exact ⟨d, ht⟩
        · obtain ⟨c, hc⟩ := htl e' he
          exact ⟨c, hc.of_follows hf⟩
      · rw [hsl x c (by rw [hf.isSome_routes]; exact hx), lastCell_cons]
        cases hl : lastCell cells c with
        | some cell => rfl
        | none =>
          rw [Option.none_or, hs x c hx]
          by_cases hc : c = d
          · subst hc
            simp [ht.channel]
          · have : stoi e.1 ≠ some (c : ℤ) := by
              rw [ht.channel]
              simpa using Ne.symm hc
            simp [hc, this]

/-! ## The grid before -/

theorem foldl_gather (api : ChannelMappingApi) (ids : List Text) (w : Work) :
    let w' := ids.foldl (fun w receiverId =>
      match api.routing.mappingFor receiverId with
      | some mapping => { w with
          updated := w.updated.insert receiverId { mapping with routes := routesOf mapping } }
      | none => { w with
          waiting := w.waiting.insert receiverId (api.routing.rememberedRoutes receiverId) }) w
    (∀ x, w'.updated.find? x = if x ∈ ids ∧ (api.routing.mappingFor x).isSome then
      (api.routing.mappingFor x).map fun m => { m with routes := routesOf m }
      else w.updated.find? x) ∧
    ∀ x, w'.waiting.find? x = if x ∈ ids ∧ (api.routing.mappingFor x).isNone then
      some (api.routing.rememberedRoutes x) else w.waiting.find? x := by
  induction ids generalizing w with
  | nil => simp
  | cons r ids ih =>
    obtain ⟨h1, h2⟩ := ih (match api.routing.mappingFor r with
      | some mapping => { w with
          updated := w.updated.insert r { mapping with routes := routesOf mapping } }
      | none => { w with waiting := w.waiting.insert r (api.routing.rememberedRoutes r) })
    refine ⟨fun x => (h1 x).trans ?_, fun x => (h2 x).trans ?_⟩
    · cases hr : api.routing.mappingFor r with
      | none =>
        by_cases hx : x = r
        · simp [hx, hr]
        · simp [hx]
      | some m =>
        by_cases hx : x = r
        · simp [hx, hr]
        · simp [hx, OrdMap.find?_insert]
    · cases hr : api.routing.mappingFor r with
      | none =>
        by_cases hx : x = r
        · simp [hx, hr]
        · simp [hx, OrdMap.find?_insert]
      | some m =>
        by_cases hx : x = r
        · simp [hx, hr]
        · simp [hx]

theorem updated_gather (api : ChannelMappingApi) (hx : x ∈ api.receiverIds) :
    api.gather.updated.find? x =
      (api.routing.mappingFor x).map fun m => { m with routes := routesOf m } := by
  refine ((foldl_gather api api.receiverIds {}).1 x).trans ?_
  cases h : api.routing.mappingFor x <;> simp [hx]

theorem waiting_gather (api : ChannelMappingApi) (hx : x ∈ api.receiverIds) :
    api.gather.waiting.find? x =
      if (api.routing.mappingFor x).isNone then some (api.routing.rememberedRoutes x) else none := by
  refine ((foldl_gather api api.receiverIds {}).2 x).trans ?_
  cases h : api.routing.mappingFor x <;> simp [hx]

theorem not_mem_gather (api : ChannelMappingApi) (hx : x ∉ api.receiverIds) :
    api.gather.updated.find? x = none ∧ api.gather.waiting.find? x = none := by
  obtain ⟨h1, h2⟩ := foldl_gather api api.receiverIds {}
  exact ⟨(h1 x).trans (by simp [hx]), (h2 x).trans (by simp [hx])⟩

theorem mem_receiverIds_of_routes (hx : (api.gather.routes x).isSome) : x ∈ api.receiverIds := by
  by_contra h
  obtain ⟨h1, h2⟩ := not_mem_gather api h
  rw [Work.routes, h1, h2] at hx
  cases hx

/-- The routes the action starts from are those the grid shows. -/
theorem routes_gather (api : ChannelMappingApi) (hx : x ∈ api.receiverIds) :
    api.gather.routes x = some (api.routesFor x) := by
  rw [Work.routes, updated_gather api hx, waiting_gather api hx, routesFor]
  cases h : api.routing.mappingFor x <;> rfl

/-! ## The grid after -/

/-- What holds in every reachable state: the matrix files its mappings under their own streams,
and no two receivers hold the same stream. -/
structure Sound (api : ChannelMappingApi) : Prop where
  filed : api.routing.mapper.Filed
  injective : ∀ r r' id, api.routing.streamIdOf.find? r = some id →
    api.routing.streamIdOf.find? r' = some id → r = r'

theorem Sound.streamID_eq (h : Sound api) {m : ChannelMapping}
    (hm : api.routing.mappingFor x = some m) :
    api.routing.streamIdOf.find? x = some m.streamID ∧ m.Valid := by
  rw [ReceiverRouting.mappingFor] at hm
  split at hm
  · cases hm
  · next id hid =>
    obtain ⟨hv, he⟩ := h.filed id m hm
    exact ⟨by rw [hid, he], hv⟩

theorem fillMatrix_ok {m m' : Mapper} {l : List ChannelMapping} (h : fillMatrix m l = .ok m')
    (hf : m.Filed) (hc : m.Consistent) (hn : (l.map ChannelMapping.streamID).Nodup)
    (hfresh : ∀ mp ∈ l, m.mappings.find? mp.streamID = none) :
    m'.Filed ∧ m'.Consistent ∧ m'.usableChannelCount = m.usableChannelCount ∧
      (∀ mp ∈ l, m'.mappings.find? mp.streamID = some mp) ∧
      ∀ id, id ∉ l.map ChannelMapping.streamID → m'.mappings.find? id = m.mappings.find? id := by
  induction l generalizing m with
  | nil =>
    cases h
    exact ⟨hf, hc, rfl, by simp, fun _ _ => rfl⟩
  | cons mp l ih =>
    rw [fillMatrix] at h
    split_ifs at h
    rcases Mapper.addMapping_cases m mp with ⟨-, e⟩ | ⟨ha, e⟩
    · rw [e] at h
      cases h
    have hadd : (m.addMapping mp).1.Consistent :=
      Mapper.consistent_addMapping hf hc fun _ => hfresh mp List.mem_cons_self
    have hfile := Mapper.filed_addMapping hf mp
    rw [e] at h hadd hfile
    obtain ⟨hmp, hn⟩ := List.nodup_cons.mp (List.map_cons ▸ hn)
    have hfind : ∀ id, (({ m with mappings := m.mappings.insert mp.streamID mp } :
        Mapper).updateDeviceChannelOwners mp).mappings.find? id =
          if id = mp.streamID then some mp else m.mappings.find? id :=
      fun id => OrdMap.find?_insert m.mappings mp.streamID id mp
    obtain ⟨h1, h2, h3, h4, h5⟩ := ih h hfile hadd hn fun mp' hm => by
      rw [hfind, if_neg fun e => hmp (List.mem_map.mpr ⟨mp', hm, e⟩)]
      exact hfresh mp' (List.mem_cons_of_mem _ hm)
    refine ⟨h1, h2, h3, fun mp' hm => ?_, fun id hid => ?_⟩
    · rcases List.mem_cons.mp hm with rfl | hm
      · rw [h5 _ hmp, hfind, if_pos rfl]
      · exact h4 mp' hm
    · rw [List.map_cons, List.mem_cons, not_or] at hid
      rw [h5 id hid.2, hfind, if_neg hid.1]

end ChannelMappingApi

end Aes67.Ravenna
