import Aes67.Config.Fields

/-!
# What the readers of saved mappings convert

The readers take an identifier and the numbers of the routes out of a text by conversions that throw
where there is no number, or one too large. Nothing catches that; and a route's number is cast to 16
bits.

* `IdLegible`: an identifier whose conversion does not throw; `ofText_ne_none_iff`;
* `routeRuns`, `writtenRoutes`: the numbers a mapping states, and the routes they make;
* `mappingFromJSON_ok_iff`, `asPairs_mappingFromJSON`: when a mapping is read, and its routes;
* **`lawful_iff_convertible`**: both readers return, with the routes as they are written, just when
  every number is one that its conversion takes and its cast keeps.
-/

namespace Aes67

/-! ## Identifiers -/

namespace StreamID

/-- The pairs of characters `readPairs` takes one by one. -/
def pairs : Text → List (Char × Char)
  | a :: b :: s => (a, b) :: pairs s
  | _ => []

/-- `std::stoul` in base 16 finds a digit: the first character, or the second behind a blank or a
sign. -/
def PairReads (a b : Char) : Prop :=
  (hexDigit a).isSome ∨ (isSpace a = true ∨ a = '+') ∧ (hexDigit b).isSome

/-- No pair of the identifier makes its conversion throw. -/
def IdLegible (uuidString : Text) : Prop :=
  (uuidString.filter (· ≠ '-')).length = 32 →
    ∀ pair ∈ pairs (uuidString.filter (· ≠ '-')), PairReads pair.1 pair.2

theorem hexDigit_of_isSpace {c : Char} (h : isSpace c = true) : hexDigit c = none := by
  simp only [isSpace, Bool.or_eq_true, beq_iff_eq] at h
  rcases h with ((((rfl | rfl) | rfl) | rfl) | rfl) | rfl <;> decide

theorem hexDigit_lt {c : Char} {v : ℕ} (h : hexDigit c = some v) : v < 16 := by
  simp only [hexDigit, Char.isDigit, Char.le_def, UInt32.le_iff_toNat_le, Bool.and_eq_true,
    decide_eq_true_iff] at h
  split_ifs at h with h1 h2 h3
  · cases h
    have : c.toNat ≤ 57 := h1.2
    omega
  · cases h
    have : c.toNat ≤ 102 := h2.2
    omega
  · cases h
    have : c.toNat ≤ 70 := h3.2
    omega

/-- The value of what two characters spell fits. -/
theorem scanHex_one (b : Char) : scanHex none [b] = hexDigit b := by
  cases h : hexDigit b <;> simp [scanHex, h]

theorem scanHex_two {a : Char} {v : ℕ} (h : hexDigit a = some v) (b : Char) :
    scanHex none [a, b] = some ((hexDigit b).elim v (v * 16 + ·)) := by
  rw [scanHex, h]
  dsimp only
  rw [scanHex]
  cases hexDigit b with
  | none => simp
  | some w => simp [scanHex]

theorem stoulHex_pair {a b : Char} (ha : a ≠ '-') (hb : b ≠ '-') :
    stoulHex [a, b] ≠ none ↔ PairReads a b := by
  have hplus : hexDigit '+' = none := by decide
  rw [PairReads]
  by_cases hsa : isSpace a = true
  · rw [hexDigit_of_isSpace hsa]
    by_cases hsb : isSpace b = true
    · simp [stoulHex, hsa, hsb, scanHex, hexDigit_of_isSpace]
    · by_cases hp : b = '+'
      · subst hp
        simp [stoulHex, hsa, hsb, scanHex, hplus]
      · cases hv : hexDigit b with
        | none => simp [stoulHex, hsa, hsb, hb, hp, scanHex_one, hv]
        | some v =>
          have hlt := hexDigit_lt hv
          have hsmall : v < 18446744073709551616 := by omega
          simp [stoulHex, hsa, hsb, hb, hp, scanHex_one, hv, hsmall]
  · by_cases hp : a = '+'
    · subst hp
      cases hv : hexDigit b with
      | none => simp [stoulHex, hsa, scanHex_one, hv, hplus]
      | some v =>
        have hlt := hexDigit_lt hv
        have hsmall : v < 18446744073709551616 := by omega
        simp [stoulHex, hsa, scanHex_one, hv, hsmall]
    · cases hv : hexDigit a with
      | none => simp [stoulHex, hsa, ha, hp, scanHex, hv]
      | some v =>
        have hlt := hexDigit_lt hv
        cases hw : hexDigit b with
        | none =>
          have hsmall : v < 18446744073709551616 := by omega
          simp [stoulHex, hsa, ha, hp, scanHex_two hv, hw, hsmall]
        | some w =>
          have hlt' := hexDigit_lt hw
          have hsmall : v * 16 + w < 18446744073709551616 := by omega
          simp [stoulHex, hsa, ha, hp, scanHex_two hv, hw, hsmall]

theorem readPairs_ne_none_iff (id : StreamID) (s : Text) :
    readPairs id s ≠ none ↔ ∀ pair ∈ pairs s, stoulHex [pair.1, pair.2] ≠ none := by
  fun_induction readPairs id s with
  | case1 id a b s hnone =>
    exact iff_of_false (fun h => h rfl) fun h => h (a, b) List.mem_cons_self hnone
  | case2 id a b s v hv ih =>
    rw [pairs, List.forall_mem_cons, ih, hv]
    exact (and_iff_right (Option.some_ne_none v)).symm
  | case3 id s hshort =>
    refine iff_of_true (Option.some_ne_none _) fun pair hpair => ?_
    unfold pairs at hpair
    split at hpair
    · exact absurd rfl (hshort _ _ _)
    · cases hpair

theorem mem_of_mem_pairs {s : Text} {pair : Char × Char} (h : pair ∈ pairs s) :
    pair.1 ∈ s ∧ pair.2 ∈ s := by
  fun_induction pairs s with
  | case1 a b s ih =>
    rcases List.mem_cons.mp h with rfl | h
    · exact ⟨List.mem_cons_self, List.mem_cons_of_mem _ List.mem_cons_self⟩
    · have hmem := ih h
      exact ⟨List.mem_cons_of_mem _ (List.mem_cons_of_mem _ hmem.1),
        List.mem_cons_of_mem _ (List.mem_cons_of_mem _ hmem.2)⟩
  | case2 s hshort => cases h

/-- **The constructor throws just where an identifier is not legible.** -/
theorem ofText_ne_none_iff (uuidString : Text) :
    ofText uuidString ≠ none ↔ IdLegible uuidString := by
  rw [ofText, IdLegible]
  split_ifs with hlen
  · exact iff_of_true (Option.some_ne_none _) fun h => absurd h hlen
  · rw [not_not] at hlen
    rw [readPairs_ne_none_iff, forall_prop_of_true hlen]
    refine forall₂_congr fun pair hpair => stoulHex_pair ?_ ?_
    · exact of_decide_eq_true (List.mem_filter.mp (mem_of_mem_pairs hpair).1).2
    · exact of_decide_eq_true (List.mem_filter.mp (mem_of_mem_pairs hpair).2).2

end StreamID

/-! ## Numbers -/

namespace StreamConfigManager

/-- The number a run stands for, a sign in front of it or not. -/
def numberOf (run : Text) : ℤ :=
  match scanInt run with
  | some (neg, n) => if neg then -n else n
  | none => 0

/-- What an `int` holds. -/
def IsInt (z : ℤ) : Prop := -2 ^ 31 ≤ z ∧ z < 2 ^ 31

instance (z : ℤ) : Decidable (IsInt z) := inferInstanceAs (Decidable (_ ∧ _))

/-- The array of a mapping block that its routes are taken from, whether it is the older one. -/
def routeArray (block : Text) : Option (Bool × Text) :=
  match searchField "routes".toList arrayValue block with
  | some content => some (false, content)
  | none => (searchField "channelMap".toList arrayValue block).map fun content => (true, content)

/-- The numbers of the array. -/
def routeRuns (block : Text) : List Text :=
  match routeArray block with
  | some (older, content) => numberRuns older [] content
  | none => []

/-- Numbers two by two. -/
def pairsOf : List ℤ → List (ℤ × ℤ)
  | streamChannel :: deviceChannel :: numbers => (streamChannel, deviceChannel) :: pairsOf numbers
  | _ => []

/-- Numbers with their places, without those below zero. -/
def placesOf : ℕ → List ℤ → List (ℤ × ℤ)
  | _, [] => []
  | place, value :: values =>
    if value ≥ 0 then (place, value) :: placesOf (place + 1) values
    else placesOf (place + 1) values

/-- The routes are in the older shape. -/
def isOlder (block : Text) : Bool := (routeArray block).any Prod.fst

/-- **The routes as they are written**, two numbers each. -/
def writtenRoutes (block : Text) : List (ℤ × ℤ) :=
  if isOlder block then placesOf 0 ((routeRuns block).map numberOf)
  else pairsOf ((routeRuns block).map numberOf)

/-- Routes as two numbers each. -/
def asPairs (routes : List ChannelRoute) : List (ℤ × ℤ) :=
  routes.map fun route => (route.streamChannel, route.deviceChannel)

/-- Both numbers modulo `2 ^ 16`. -/
def reduced (route : ℤ × ℤ) : ℤ × ℤ := (route.1 % 65536, route.2 % 65536)

/-- Both numbers have 16 bits. -/
def IsShort (route : ℤ × ℤ) : Prop :=
  (0 ≤ route.1 ∧ route.1 < 65536) ∧ 0 ≤ route.2 ∧ route.2 < 65536

theorem reduced_eq_iff (route : ℤ × ℤ) : reduced route = route ↔ IsShort route := by
  rw [reduced, IsShort, Prod.ext_iff]
  dsimp only
  omega

theorem map_reduced_eq_iff (routes : List (ℤ × ℤ)) :
    routes.map reduced = routes ↔ ∀ route ∈ routes, IsShort route := by
  induction routes with
  | nil => exact iff_of_true rfl fun route h => absurd h List.not_mem_nil
  | cons route routes ih =>
    rw [List.map_cons, List.cons.injEq, ih, reduced_eq_iff, List.forall_mem_cons]

theorem cast_toUInt16 (z : ℤ) : ((toUInt16 z : ℕ) : ℤ) = z % 65536 := by
  rw [toUInt16]
  omega

theorem asPairs_routesOf (numbers : List ℤ) :
    asPairs (routesOf numbers) = (pairsOf numbers).map reduced := by
  fun_induction routesOf numbers with
  | case1 streamChannel deviceChannel numbers ih =>
    rw [asPairs, List.map_cons, ← asPairs, ih, pairsOf, List.map_cons, cast_toUInt16,
      cast_toUInt16]
    rfl
  | case2 numbers hshort =>
    unfold pairsOf
    split
    · exact absurd rfl (hshort _ _ _)
    · rfl

theorem asPairs_channelMapRoutes (place : ℕ) (values : List ℤ) :
    asPairs (channelMapRoutes (place % 65536) values) = (placesOf place values).map reduced := by
  induction values generalizing place with
  | nil => rfl
  | cons value values ih =>
    have hnext : (place % 65536 + 1) % 65536 = (place + 1) % 65536 := by omega
    have hplace : ((place % 65536 : ℕ) : ℤ) = (place : ℤ) % 65536 := by omega
    rw [channelMapRoutes, placesOf, hnext]
    split_ifs
    · rw [asPairs, List.map_cons, ← asPairs, ih, List.map_cons, cast_toUInt16, hplace]
      rfl
    · exact ih (place + 1)

/-! ## Runs -/

/-- What a run is made of. -/
def IsSigned (run : Text) : Prop :=
  (∀ c ∈ run, c.isDigit = true) ∨ ∃ ds, run = '-' :: ds ∧ ∀ c ∈ ds, c.isDigit = true

theorem scanInt_ne_none_of_mem_flushRun {run x : Text} (hrun : IsSigned run)
    (h : x ∈ flushRun run) : scanInt x ≠ none := by
  rw [flushRun] at h
  split_ifs at h with hany
  · obtain rfl := List.mem_singleton.mp h
    obtain ⟨d, hd, hdigit⟩ := List.any_eq_true.mp hany
    rcases hrun with hrun | ⟨ds, rfl, hds⟩
    · have hscan := scanInt_of_digits (t := []) hrun (List.ne_nil_of_mem hd) rfl
      rw [List.append_nil] at hscan
      rw [hscan]
      exact Option.some_ne_none _
    · have hmem : d ∈ ds := (List.mem_cons.mp hd).resolve_left fun he => by
        rw [he] at hdigit
        cases hdigit
      have htake : ds.takeWhile Char.isDigit = ds := List.takeWhile_eq_self_iff.mpr hds
      obtain ⟨c, ds, rfl⟩ := List.exists_cons_of_ne_nil (List.ne_nil_of_mem hmem)
      have hminus : isSpace '-' = false := by decide
      simp [scanInt, hminus, htake]
  · cases h

theorem scanInt_ne_none_of_mem {signed : Bool} {run s x : Text} (hrun : IsSigned run)
    (h : x ∈ numberRuns signed run s) : scanInt x ≠ none := by
  induction s generalizing run with
  | nil => exact scanInt_ne_none_of_mem_flushRun hrun h
  | cons c s ih =>
    rw [numberRuns] at h
    by_cases hc : c.isDigit = true
    · rw [if_pos hc] at h
      refine ih ?_ h
      have hone : ∀ d ∈ [c], d.isDigit = true := fun d hd => List.mem_singleton.mp hd ▸ hc
      rcases hrun with hrun | ⟨ds, rfl, hds⟩
      · exact Or.inl fun d hd => (List.mem_append.mp hd).elim (hrun d) (hone d)
      · exact Or.inr ⟨ds ++ [c], rfl, fun d hd => (List.mem_append.mp hd).elim (hds d) (hone d)⟩
    · rw [if_neg hc] at h
      rcases List.mem_append.mp h with h | h
      · exact scanInt_ne_none_of_mem_flushRun hrun h
      · refine ih ?_ h
        split_ifs with hsign
        · exact Or.inr ⟨[], by rw [hsign.2], fun d hd => absurd hd List.not_mem_nil⟩
        · exact Or.inl fun d hd => absurd hd List.not_mem_nil

theorem stoi_eq {run : Text} (h : scanInt run ≠ none) :
    stoi run = if IsInt (numberOf run) then some (numberOf run) else none := by
  rw [stoi, stoSigned, numberOf]
  cases hscan : scanInt run with
  | none => exact absurd hscan h
  | some p => rfl

theorem stoiAll_eq {runs : List Text} (h : ∀ run ∈ runs, scanInt run ≠ none) : stoiAll runs =
    if ∀ run ∈ runs, IsInt (numberOf run) then .ok (runs.map numberOf) else .error .outOfRange := by
  induction runs with
  | nil => exact (if_pos fun run hrun => absurd hrun List.not_mem_nil).symm
  | cons run runs ih =>
    rw [stoiAll, stoi_eq (h run List.mem_cons_self), ih fun x hx => h x (List.mem_cons_of_mem _ hx)]
    simp only [List.forall_mem_cons, List.map_cons]
    by_cases h1 : IsInt (numberOf run)
    · by_cases h2 : ∀ run ∈ runs, IsInt (numberOf run)
      · rw [if_pos h1, if_pos h2, if_pos (And.intro h1 h2)]
        rfl
      · rw [if_pos h1, if_neg h2, if_neg (mt And.right h2)]
        rfl
    · rw [if_neg h1, if_neg (mt And.left h1)]

theorem scanInt_ne_none_of_mem_routeRuns {block run : Text} (h : run ∈ routeRuns block) :
    scanInt run ≠ none := by
  rw [routeRuns] at h
  split at h
  · exact scanInt_ne_none_of_mem (Or.inl fun c hc => absurd hc List.not_mem_nil) h
  · cases h

/-- **The routes that are read**: those that are written, reduced, where every number is an
`int`. -/
theorem routesFromJSON_eq (block : Text) : ∃ routes,
    asPairs routes = (writtenRoutes block).map reduced ∧ routesFromJSON block =
      if ∀ run ∈ routeRuns block, IsInt (numberOf run) then .ok routes else .error .outOfRange := by
  have hall := stoiAll_eq fun run h => @scanInt_ne_none_of_mem_routeRuns block run h
  have hread : routesFromJSON block = (stoiAll (routeRuns block)).map fun numbers =>
      if isOlder block then channelMapRoutes 0 numbers else routesOf numbers := by
    rw [routesFromJSON, routeRuns, isOlder, routeArray]
    cases searchField "routes".toList arrayValue block with
    | some content => rfl
    | none => cases searchField "channelMap".toList arrayValue block <;> rfl
  rw [hread, hall]
  refine ⟨if isOlder block then channelMapRoutes 0 ((routeRuns block).map numberOf)
    else routesOf ((routeRuns block).map numberOf), ?_, ?_⟩
  · rw [writtenRoutes]
    split_ifs
    · exact asPairs_channelMapRoutes 0 _
    · exact asPairs_routesOf _
  · by_cases hint : ∀ run ∈ routeRuns block, IsInt (numberOf run)
    · rw [if_pos hint, if_pos hint]
      rfl
    · rw [if_neg hint, if_neg hint]
      rfl

/-! ## Mappings -/

/-- The identifier a block states, if any, is legible, and every number is an `int`. -/
def MappingReads (block : Text) : Prop :=
  (∀ uuid, extractStringField block "streamID".toList = some uuid → StreamID.IdLegible uuid) ∧
    ∀ run ∈ routeRuns block, IsInt (numberOf run)

theorem mappingFromJSON_ok_iff (block : Text) :
    (∃ mapping, mappingFromJSON block = .ok mapping) ↔ MappingReads block := by
  obtain ⟨routes, -, hroutes⟩ := routesFromJSON_eq block
  have hid : (match extractStringField block "streamID".toList with
      | some uuid => StreamID.ofText uuid
      | none => some ({} : ChannelMapping).streamID) ≠ none ↔
        ∀ uuid, extractStringField block "streamID".toList = some uuid →
          StreamID.IdLegible uuid := by
    cases extractStringField block "streamID".toList with
    | none => simp
    | some uuid =>
      rw [StreamID.ofText_ne_none_iff]
      exact ⟨fun h _ he => Option.some.inj he ▸ h, fun h => h uuid rfl⟩
  rw [MappingReads, ← hid, mappingFromJSON, hroutes]
  dsimp only
  split
  · next hnone =>
    refine iff_of_false ?_ fun h => h.1 hnone
    rintro ⟨mapping, h⟩
    cases h
  · next id hsome =>
    refine Iff.trans ?_ (and_iff_right (ne_of_eq_of_ne hsome (Option.some_ne_none id))).symm
    split_ifs with hint
    · exact iff_of_true ⟨_, rfl⟩ hint
    · refine iff_of_false ?_ hint
      rintro ⟨mapping, h⟩
      cases h

theorem asPairs_mappingFromJSON {block : Text} {mapping : ChannelMapping}
    (h : mappingFromJSON block = .ok mapping) :
    asPairs mapping.routes = (writtenRoutes block).map reduced := by
  obtain ⟨routes, hpairs, hroutes⟩ := routesFromJSON_eq block
  rw [mappingFromJSON, hroutes] at h
  dsimp only at h
  split at h
  · cases h
  · split_ifs at h
    · cases h
      exact hpairs
    · cases h

/-! ## Files -/

/-- The stream objects of a file. -/
def objectsOf (json : Text) : List Text :=
  ((streamsContent json).map (groups '\x7b' '\x7d' 0 [])).getD []

/-- The mapping block of a stream object. -/
def blockOf (object : Text) : Option Text :=
  (searchField "mapping".toList blockValue object).map fun block => '\x7b' :: block ++ ['\x7d']

variable {network : NetworkUtils} {json object : Text}

theorem mappingOf_eq_channels (object : Text) :
    mappingOf object = (blockOf object).elim (.ok {}) mappingFromJSON := by
  rw [mappingOf, blockOf]
  cases searchField "mapping".toList blockValue object <;> rfl

theorem configFromJSON_ok_iff (network : NetworkUtils) (object : Text) :
    (∃ result, configFromJSON network object = .ok result) ↔
      ∀ block, blockOf object = some block → MappingReads block := by
  have hmapping : (∃ result, configFromJSON network object = .ok result) ↔
      ∃ mapping, mappingOf object = .ok mapping := by
    rw [configFromJSON]
    cases mappingOf object with
    | error thrown => exact iff_of_false (by rintro ⟨_, h⟩; cases h) (by rintro ⟨_, h⟩; cases h)
    | ok mapping => exact iff_of_true ⟨_, rfl⟩ ⟨_, rfl⟩
  rw [hmapping, mappingOf_eq_channels]
  cases blockOf object with
  | none => exact iff_of_true ⟨_, rfl⟩ fun block h => by cases h
  | some block =>
    rw [Option.elim_some, mappingFromJSON_ok_iff]
    exact ⟨fun h _ he => Option.some.inj he ▸ h, fun h => h block rfl⟩

/-- The objects a file's streams are made of, each with its stream. -/
def accepted (network : NetworkUtils) (json : Text) : List (Text × PersistedStreamConfig) :=
  (objectsOf json).filterMap fun object =>
    match configFromJSON network object with
    | .ok (some config) => some (object, config)
    | _ => none

/-- Every object is read, and a stream is returned for each that is accepted. -/
theorem readConfigs_ok_iff (network : NetworkUtils) (objects : List Text) :
    (∃ configs, readConfigs network objects = .ok configs) ↔
      ∀ object ∈ objects, ∃ result, configFromJSON network object = .ok result := by
  induction objects with
  | nil => exact iff_of_true ⟨[], rfl⟩ fun object h => absurd h List.not_mem_nil
  | cons object objects ih =>
    rw [List.forall_mem_cons, readConfigs, ← ih]
    cases configFromJSON network object with
    | error thrown =>
      refine iff_of_false ?_ fun h => ?_
      · rintro ⟨_, h⟩
        cases h
      · obtain ⟨⟨_, h⟩, -⟩ := h
        cases h
    | ok result =>
      rw [and_iff_right ⟨result, rfl⟩]
      cases result with
      | none => rfl
      | some config =>
        cases readConfigs network objects with
        | error thrown =>
          exact iff_of_false (by rintro ⟨_, h⟩; cases h) (by rintro ⟨_, h⟩; cases h)
        | ok configs => exact iff_of_true ⟨_, rfl⟩ ⟨_, rfl⟩

theorem readConfigs_accepted {objects : List Text} {configs : List PersistedStreamConfig}
    (h : readConfigs network objects = .ok configs) : configs = (objects.filterMap fun object =>
      match configFromJSON network object with
      | .ok (some config) => some (object, config)
      | _ => none).map Prod.snd := by
  induction objects generalizing configs with
  | nil =>
    cases h
    rfl
  | cons object objects ih =>
    rw [readConfigs] at h
    rw [List.filterMap_cons]
    cases hconfig : configFromJSON network object with
    | error thrown =>
      rw [hconfig] at h
      cases h
    | ok result =>
      rw [hconfig] at h
      cases result with
      | none => exact ih h
      | some config =>
        dsimp only at h ⊢
        cases hrest : readConfigs network objects with
        | error thrown =>
          rw [hrest] at h
          cases h
        | ok rest =>
          rw [hrest] at h
          cases h
          rw [List.map_cons, ← ih hrest]

theorem fromJSON_ok_iff (network : NetworkUtils) (json : Text) :
    (∃ result, fromJSON network json = .ok result) ↔
      ∀ object ∈ objectsOf json, ∀ block, blockOf object = some block → MappingReads block := by
  have hobjects : (∃ result, fromJSON network json = .ok result) ↔
      ∃ configs, readConfigs network (objectsOf json) = .ok configs := by
    rw [fromJSON, objectsOf]
    cases streamsContent json with
    | none => exact iff_of_true ⟨_, rfl⟩ ⟨_, rfl⟩
    | some content =>
      dsimp only [Option.map_some, Option.getD_some]
      cases readConfigs network (groups '\x7b' '\x7d' 0 [] content) with
      | error thrown => exact iff_of_false (by rintro ⟨_, h⟩; cases h) (by rintro ⟨_, h⟩; cases h)
      | ok configs => exact iff_of_true ⟨_, rfl⟩ ⟨_, rfl⟩
  rw [hobjects, readConfigs_ok_iff]
  exact forall₂_congr fun object _ => configFromJSON_ok_iff network object

theorem fromJSON_accepted {result : Option (List PersistedStreamConfig)}
    (h : fromJSON network json = .ok result) :
    result.getD [] = (accepted network json).map Prod.snd := by
  rw [fromJSON] at h
  rw [accepted, objectsOf]
  cases hcontent : streamsContent json with
  | none =>
    rw [hcontent] at h
    cases h
    rfl
  | some content =>
    rw [hcontent] at h
    dsimp only at h
    cases hread : readConfigs network (groups '\x7b' '\x7d' 0 [] content) with
    | error thrown =>
      rw [hread] at h
      cases h
    | ok configs =>
      rw [hread] at h
      cases h
      exact readConfigs_accepted hread

theorem configFromJSON_of_accepted {stream : Text × PersistedStreamConfig}
    (h : stream ∈ accepted network json) :
    configFromJSON network stream.1 = .ok (some stream.2) := by
  obtain ⟨object, -, ho⟩ := List.mem_filterMap.mp h
  split at ho
  · next config hconfig =>
    cases ho
    exact hconfig
  · cases ho

/-- A stream has the routes that are written, reduced. -/
theorem routes_of_accepted {stream : Text × PersistedStreamConfig}
    (h : stream ∈ accepted network json) : asPairs stream.2.mapping.routes =
      ((blockOf stream.1).elim [] writtenRoutes).map reduced := by
  have hconfig := configFromJSON_of_accepted h
  have hmapping : mappingOf stream.1 = .ok stream.2.mapping := by
    rw [configFromJSON] at hconfig
    cases hm : mappingOf stream.1 with
    | error thrown =>
      rw [hm] at hconfig
      cases hconfig
    | ok mapping =>
      rw [hm] at hconfig
      dsimp only [Except.map] at hconfig
      split_ifs at hconfig
      · rw [← Option.some.inj (Except.ok.inj hconfig)]
      · cases hconfig
  rw [mappingOf_eq_channels] at hmapping
  cases hblock : blockOf stream.1 with
  | none =>
    rw [hblock] at hmapping
    rw [← Except.ok.inj hmapping]
    rfl
  | some block =>
    rw [hblock] at hmapping
    exact asPairs_mappingFromJSON hmapping

/-! ## Both readers -/

/-- **Both readers return**, and every stream that is returned has its routes as they are
written. -/
def Lawful (network : NetworkUtils) (mapper : Mapper) (json : Text) : Prop :=
  (∃ result, fromJSON network json = .ok result ∧
    result.getD [] = (accepted network json).map Prod.snd) ∧
  (mapper.fromJSON json).2 = true ∧
  ∀ stream ∈ accepted network json, asPairs stream.2.mapping.routes =
    (blockOf stream.1).elim [] writtenRoutes

/-- What the conversions take, and the casts keep. -/
structure Convertible (network : NetworkUtils) (json : Text) : Prop where
  objects : ∀ object ∈ objectsOf json, ∀ block, blockOf object = some block → MappingReads block
  entries : ∀ block ∈ entryBlocks json, ∀ uuid,
    extractStringField block "streamID".toList = some uuid → StreamID.IdLegible uuid
  routes : ∀ stream ∈ accepted network json, ∀ block, blockOf stream.1 = some block →
    ∀ route ∈ writtenRoutes block, IsShort route

theorem readEntry_isSome_iff (block : Text) : (readEntry block).isSome = true ↔
    ∀ uuid, extractStringField block "streamID".toList = some uuid → StreamID.IdLegible uuid := by
  have hid : (readEntry block).isSome = true ↔
      StreamID.ofText ((extractStringField block "streamID".toList).getD []) ≠ none := by
    rw [readEntry]
    cases StreamID.ofText ((extractStringField block "streamID".toList).getD []) <;> simp
  rw [hid, StreamID.ofText_ne_none_iff]
  cases extractStringField block "streamID".toList with
  | none => exact iff_of_true (fun h => absurd h (by decide)) fun uuid h => by cases h
  | some uuid => exact ⟨fun h _ he => Option.some.inj he ▸ h, fun h => h uuid rfl⟩

/-- **The readers return what is written just when it can be converted.** -/
theorem lawful_iff_convertible (network : NetworkUtils) (mapper : Mapper) (json : Text) :
    Lawful network mapper json ↔ Convertible network json := by
  have hentries : (mapper.fromJSON json).2 = true ↔ ∀ block ∈ entryBlocks json, ∀ uuid,
      extractStringField block "streamID".toList = some uuid → StreamID.IdLegible uuid := by
    rw [Mapper.fromJSON, List.all_eq_true]
    exact forall₂_congr fun block _ => readEntry_isSome_iff block
  have hroutes : ∀ stream ∈ accepted network json,
      (asPairs stream.2.mapping.routes = (blockOf stream.1).elim [] writtenRoutes ↔
        ∀ block, blockOf stream.1 = some block → ∀ route ∈ writtenRoutes block, IsShort route) := by
    intro stream hstream
    rw [routes_of_accepted hstream, map_reduced_eq_iff]
    cases blockOf stream.1 with
    | none => exact iff_of_true (fun _ h => absurd h List.not_mem_nil) fun block h => by cases h
    | some block => exact ⟨fun h _ he => Option.some.inj he ▸ h, fun h => h block rfl⟩
  constructor
  · rintro ⟨⟨result, hresult, -⟩, hmapper, hwritten⟩
    exact ⟨(fromJSON_ok_iff network json).mp ⟨result, hresult⟩, hentries.mp hmapper,
      fun stream hstream => (hroutes stream hstream).mp (hwritten stream hstream)⟩
  · intro h
    obtain ⟨result, hresult⟩ := (fromJSON_ok_iff network json).mpr h.objects
    exact ⟨⟨result, hresult, fromJSON_accepted hresult⟩, hentries.mpr h.entries,
      fun stream hstream => (hroutes stream hstream).mpr (h.routes stream hstream)⟩

/-- A mapping whose identifier is 32 characters that are no digits. -/
def illegible : Text :=
  "\x7b\"streamID\": \"zzzzzzzzzzzzzzzzzzzzzzzzzzzzzzzz\"\x7d".toList

/-- A mapping with a route that has 17 bits. -/
def seventeenBits : Text := "\x7b\"routes\": [0, 65537]\x7d".toList

/-- The one makes its reader throw, and the route of the other is read as one of 16 bits. -/
theorem not_always_lawful : (¬ ∀ network mapper json, Lawful network mapper json) ∧
    (mappingFromJSON seventeenBits).map ChannelMapping.routes = .ok [⟨0, 1⟩] := by
  refine ⟨fun h => ?_, by decide⟩
  have hreturns : (Mapper.init.fromJSON illegible).2 = true :=
    (h ⟨fun _ => [], []⟩ .init illegible).2.1
  exact absurd hreturns (by decide)

end StreamConfigManager

end Aes67
