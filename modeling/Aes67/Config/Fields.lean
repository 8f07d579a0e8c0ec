import Aes67.Config.Model

/-!
# What each reader finds in a written stream

* `sdpFromJSON_sdpToJSON`, `mappingFromJSON_mappingToJSON`: a written block is read back;
* `blockValue_append`: the block a reader takes ends at the first closing brace, wherever that is;
* `brace_not_mem_of_read`: a text that a block reads back as it was has no closing brace.
-/

namespace Aes67

open Sdp

namespace StreamConfigManager

variable {sdp : SDPSession} {mapping : ChannelMapping} {config : PersistedStreamConfig}
  {f lead p s t u v x : Text} {indent : ℕ} {entries : List (Text × Text)} {d : Char}

/-! ## What written values are made of -/

theorem isDigit_ne (h : d.isDigit = false) {n : ℕ} : d ∉ showNat n := fun hm => by
  rw [isDigit_of_mem_showNat hm] at h
  cases h

theorem not_mem_showInt (h : d.isDigit = false) (hd : d ≠ '-') {z : ℤ} : d ∉ showInt z := by
  rw [showInt]
  split_ifs
  · rw [List.mem_cons, not_or]
    exact ⟨hd, isDigit_ne h⟩
  · exact isDigit_ne h

theorem not_mem_showBool (hd : d ∉ "truefalse".toList) (b : Bool) : d ∉ showBool b := by
  cases b
  · exact fun h => hd (List.mem_append_right "true".toList h)
  · exact fun h => hd (List.mem_append_left "false".toList h)

theorem not_mem_routeList (h : d.isDigit = false) (hd : d ∉ ", ".toList)
    (routes : List ChannelRoute) : d ∉ routeList routes := by
  have hone : ∀ r : ChannelRoute,
      d ∉ showNat r.streamChannel ++ ", ".toList ++ showNat r.deviceChannel := by
    intro r
    simp only [List.mem_append, not_or]
    exact ⟨⟨isDigit_ne h, hd⟩, isDigit_ne h⟩
  induction routes with
  | nil => simp [routeList]
  | cons r routes ih =>
    rcases routes with _ | ⟨r', routes⟩
    · simpa [routeList] using hone r
    · rw [routeList, List.map_cons] at ih ⊢
      rw [List.map_cons, List.intercalate_cons_cons, List.mem_append, List.mem_append, not_or,
        not_or]
      exact ⟨⟨hone r, hd⟩, ih⟩

/-! ## The session block -/

/-- The field names of `sdpToJSON`. -/
def sdpNames : List Text := (sdpEntries {}).map Prod.fst

theorem isName_of_mem_sdpNames : ∀ f ∈ sdpNames, IsName f := by decide

theorem sdpEntries_fst : (sdpEntries sdp).map Prod.fst = sdpNames := rfl

theorem simple_sdpEntries : ∀ e ∈ sdpEntries sdp, (∃ s, e.2 = quote s) ∨ '"' ∉ e.2 := by
  have hn : ∀ n, '"' ∉ showNat n := fun n => isDigit_ne rfl
  have hi : ∀ z, '"' ∉ showInt z := fun z => not_mem_showInt rfl (by decide)
  simp only [sdpEntries, List.forall_mem_cons, List.not_mem_nil, IsEmpty.forall_iff, implies_true,
    and_true]
  refine ⟨?_, ?_, ?_, ?_, ?_, ?_, ?_, ?_, ?_, ?_, ?_, ?_, ?_, ?_, ?_, ?_, ?_, ?_, ?_, ?_⟩ <;>
    first
      | exact Or.inl ⟨_, rfl⟩
      | exact Or.inr (hn _)
      | exact Or.inr (hi _)

theorem legible_sdpEntries (sdp : SDPSession) {names : List Text} (h : ∀ g ∈ names, IsName g) :
    Legible names (sdpEntries sdp) :=
  legible_of_simple (sdpEntries_fst ▸ by decide) isName_of_mem_sdpNames h simple_sdpEntries

/-- **A written session is read back.** -/
theorem sdpFromJSON_sdpToJSON : sdpFromJSON (sdpToJSON sdp) = sdp.written := by
  have hl := legible_sdpEntries sdp isName_of_mem_sdpNames
  have key : ∀ i g x, (sdpEntries sdp)[i]? = some (g, x) → g ∈ sdpNames ∧ (g, x) ∈ sdpEntries sdp :=
    fun i g x h => ⟨sdpEntries_fst ▸ List.mem_map.mpr ⟨_, List.mem_of_getElem? h, rfl⟩,
      List.mem_of_getElem? h⟩
  have hj : sdpToJSON sdp = [] ++ (objectJSON 6 (sdpEntries sdp) ++ []) := by
    rw [List.append_nil]
    rfl
  have str : ∀ i g v, (sdpEntries sdp)[i]? = some (g, quote v) →
      extractStringField (sdpToJSON sdp) g = some v := fun i g v h => by
    rw [hj]
    exact hl.extractString (key i g _ h).1 (key i g _ h).2 (by simp)
  have u64 : ∀ i g (n : UInt64), (sdpEntries sdp)[i]? = some (g, showNat n.toNat) →
      extractUInt64Field (sdpToJSON sdp) g = some n.toNat := fun i g n h => by
    rw [hj]
    exact hl.extractUInt64 (key i g _ h).1 (key i g _ h).2 (by simp) n.toNat_lt
  have u32 : ∀ i g (n : UInt32), (sdpEntries sdp)[i]? = some (g, showNat n.toNat) →
      extractUInt32Field (sdpToJSON sdp) g = some n.toNat := fun i g n h => by
    rw [hj]
    exact hl.narrow (key i g _ h).1 (key i g _ h).2 (by simp) (Nat.le_of_lt_succ n.toNat_lt)
      (by decide)
  have u16 : ∀ i g (n : UInt16), (sdpEntries sdp)[i]? = some (g, showNat n.toNat) →
      extractUInt16Field (sdpToJSON sdp) g = some n.toNat := fun i g n h => by
    rw [hj]
    exact hl.narrow (key i g _ h).1 (key i g _ h).2 (by simp) (Nat.le_of_lt_succ n.toNat_lt)
      (by decide)
  have u8 : ∀ i g (n : UInt8), (sdpEntries sdp)[i]? = some (g, showNat n.toNat) →
      extractUInt8Field (sdpToJSON sdp) g = some n.toNat := fun i g n h => by
    rw [hj]
    exact hl.narrow (key i g _ h).1 (key i g _ h).2 (by simp) (Nat.le_of_lt_succ n.toNat_lt)
      (by decide)
  have dom : extractIntField (sdpToJSON sdp) "ptpDomain".toList = some sdp.ptpDomain.toInt := by
    rw [hj]
    exact hl.extractInt (key 16 _ _ rfl).1 (key 16 _ _ rfl).2 (by simp)
      sdp.ptpDomain.le_toInt sdp.ptpDomain.toInt_lt
  simp only [sdpFromJSON, str 0 _ _ rfl, str 1 _ _ rfl, u64 2 _ _ rfl, u64 3 _ _ rfl,
    str 4 _ _ rfl, str 5 _ _ rfl, str 6 _ _ rfl, u8 7 _ _ rfl, u16 8 _ _ rfl, u8 9 _ _ rfl,
    str 10 _ _ rfl, u32 11 _ _ rfl, u16 12 _ _ rfl, u32 13 _ _ rfl, u32 14 _ _ rfl,
    str 15 _ _ rfl, dom, str 17 _ _ rfl, str 18 _ _ rfl, str 19 _ _ rfl, Option.getD_some,
    Option.map_some, UInt64.ofNat_toNat, UInt32.ofNat_toNat, UInt16.ofNat_toNat,
    UInt8.ofNat_toNat, Int32.ofInt_toInt]
  rfl

/-! ## The mapping block -/

theorem jsonEscape_of_forall (h : ∀ c ∈ s, escapeChar c = [c]) : jsonEscape s = s := by
  induction s with
  | nil => rfl
  | cons c s ih =>
    rw [jsonEscape_cons, h c List.mem_cons_self, ih fun c hc => h c (List.mem_cons_of_mem _ hc)]
    rfl

/-- An identifier's text needs no escapes. -/
theorem quote_toString (id : StreamID) : '"' :: id.toString ++ ['"'] = quote id.toString := by
  have digit : ∀ n < 16, escapeChar (Nat.digitChar n) = [Nat.digitChar n] := by decide
  rw [quote, jsonEscape_of_forall]
  intro c hc
  obtain ⟨i, -, hi⟩ := List.mem_flatMap.mp hc
  have hb := id.byte_lt i
  rcases List.mem_append.mp hi with h | h
  · split_ifs at h
    · rw [List.mem_singleton.mp h]
      rfl
    · cases h
  · simp only [StreamID.hexByte, List.mem_cons, List.not_mem_nil, or_false] at h
    rcases h with rfl | rfl
    · exact digit _ (by omega)
    · exact digit _ (by omega)

/-- The field names of `mappingToJSON`. -/
def mappingNames : List Text := (mappingEntries {}).map Prod.fst

theorem isName_of_mem_mappingNames : ∀ f ∈ mappingNames, IsName f := by decide

theorem mappingEntries_fst : (mappingEntries mapping).map Prod.fst = mappingNames := rfl

theorem simple_mappingEntries : ∀ e ∈ mappingEntries mapping,
    (∃ s, e.2 = quote s) ∨ '"' ∉ e.2 := by
  have hn : ∀ n, '"' ∉ showNat n := fun n => isDigit_ne rfl
  simp only [mappingEntries, List.forall_mem_cons, List.not_mem_nil, IsEmpty.forall_iff,
    implies_true, and_true]
  refine ⟨Or.inl ⟨_, quote_toString _⟩, Or.inl ⟨_, rfl⟩, Or.inr (hn _), Or.inr (hn _),
    Or.inr (hn _), Or.inr (hn _), Or.inr ?_⟩
  have := not_mem_routeList (d := '"') rfl (by decide) mapping.routes
  simp [this]

theorem legible_mappingEntries (mapping : ChannelMapping) {names : List Text}
    (h : ∀ g ∈ names, IsName g) :
    Legible names (mappingEntries mapping) :=
  legible_of_simple (mappingEntries_fst ▸ by decide) isName_of_mem_mappingNames h
    simple_mappingEntries

theorem numberRuns_digits (signed : Bool) (run : Text) (h : ∀ c ∈ p, c.isDigit = true) :
    numberRuns signed run (p ++ s) = numberRuns signed (run ++ p) s := by
  induction p generalizing run with
  | nil => simp
  | cons c p ih =>
    rw [List.cons_append, numberRuns, if_pos (h c List.mem_cons_self),
      ih _ fun c hc => h c (List.mem_cons_of_mem _ hc), List.append_assoc]
    rfl

theorem flushRun_showNat (n : ℕ) : flushRun (showNat n) = [showNat n] := by
  obtain ⟨c, u, hu⟩ := List.exists_cons_of_ne_nil (showNat_ne_nil n)
  have hc := isDigit_of_mem_showNat (n := n) (hu ▸ List.mem_cons_self)
  rw [flushRun, hu, if_pos (by simp [hc])]

theorem numberRuns_showNat (n : ℕ) : numberRuns false [] (showNat n) = [showNat n] := by
  have h := numberRuns_digits false [] (s := [])
    fun c hc => isDigit_of_mem_showNat (n := n) hc
  rw [List.append_nil, List.nil_append] at h
  rw [h]
  exact flushRun_showNat n

theorem numberRuns_showNat_comma (n : ℕ) (s : Text) :
    numberRuns false [] (showNat n ++ (", ".toList ++ s)) =
      showNat n :: numberRuns false [] s := by
  rw [numberRuns_digits _ _ fun c hc => isDigit_of_mem_showNat hc, List.nil_append]
  change numberRuns false (showNat n) (',' :: ' ' :: s) = _
  rw [numberRuns, if_neg (by decide), flushRun_showNat, if_neg (by decide), numberRuns,
    if_neg (by decide), if_neg (by decide)]
  rfl

/-- The numbers of the routes, in the order they are written. -/
def routeNumbers (routes : List ChannelRoute) : List ℕ :=
  routes.flatMap fun route => [route.streamChannel, route.deviceChannel]

theorem numberRuns_routes (routes : List ChannelRoute) :
    numberRuns false [] (routeList routes) = (routeNumbers routes).map showNat := by
  induction routes with
  | nil => rfl
  | cons r routes ih =>
    rcases routes with _ | ⟨r', routes⟩
    · rw [routeList, List.map_singleton, List.intercalate_singleton, List.append_assoc,
        numberRuns_showNat_comma, numberRuns_showNat]
      rfl
    · rw [routeList, List.map_cons] at ih ⊢
      rw [List.map_cons, List.intercalate_cons_cons, List.append_assoc, List.append_assoc,
        List.append_assoc, numberRuns_showNat_comma, numberRuns_showNat_comma, ih]
      rfl

theorem stoiAll_showNat {l : List ℕ} (h : ∀ n ∈ l, n < 2 ^ 31) :
    stoiAll (l.map showNat) = .ok (l.map fun n : ℕ => (n : ℤ)) := by
  induction l with
  | nil => rfl
  | cons n l ih =>
    have hn : stoi (showNat n) = some (n : ℤ) := stoSigned_showNat (h n List.mem_cons_self)
    rw [List.map_cons, stoiAll, hn]
    dsimp only
    rw [ih fun n hn => h n (List.mem_cons_of_mem _ hn)]
    rfl

theorem routesOf_routeNumbers {routes : List ChannelRoute}
    (h : ∀ r ∈ routes, r.streamChannel < 65536 ∧ r.deviceChannel < 65536) :
    routesOf ((routeNumbers routes).map fun n : ℕ => (n : ℤ)) = routes := by
  induction routes with
  | nil => rfl
  | cons r routes ih =>
    have hr := h r List.mem_cons_self
    have ih := ih fun r hr => h r (List.mem_cons_of_mem _ hr)
    rw [routeNumbers, List.flatMap_cons, ← routeNumbers]
    have h1 : toUInt16 r.streamChannel = r.streamChannel := by unfold toUInt16; omega
    have h2 : toUInt16 r.deviceChannel = r.deviceChannel := by unfold toUInt16; omega
    simp only [List.cons_append, List.nil_append, List.map_cons, routesOf, ih, h1, h2]

theorem arrayValue_routeList (routes : List ChannelRoute) :
    arrayValue ('[' :: routeList routes ++ [']'] ++ t) = some (routeList routes) := by
  have hno : ∀ c ∈ routeList routes, decide (c ≠ ']') = true := fun c hc => by
    rw [decide_eq_true_iff]
    rintro rfl
    exact not_mem_routeList rfl (by decide) routes hc
  rw [List.cons_append, List.cons_append, arrayValue, if_pos (by simp), List.append_assoc,
    List.takeWhile_append_of_pos hno]
  simp

/-- What a mapping's numbers are in the source: sixteen bits wide. -/
structure Fits (mapping : ChannelMapping) : Prop where
  streamChannelCount_lt : mapping.streamChannelCount < 65536
  streamChannelOffset_lt : mapping.streamChannelOffset < 65536

theorem routesFromJSON_mappingToJSON (hv : mapping.Valid) (hf : Fits mapping) :
    routesFromJSON (mappingToJSON mapping) = .ok mapping.routes := by
  have hl := legible_mappingEntries mapping isName_of_mem_mappingNames
  have hm : ("routes".toList, '[' :: routeList mapping.routes ++ [']']) ∈ mappingEntries mapping :=
    List.mem_of_getElem? (i := 6) rfl
  have hfind := hl.matchField (i := 6) (t := [])
    (by decide : "routes".toList ∈ mappingNames) hm (by simp : '"' ∉ ([] : Text)) (by rintro c ⟨⟩; rfl)
    (List.cons_ne_nil _ _) fun u _ => arrayValue_routeList mapping.routes
  have hj : [] ++ (objectJSON 6 (mappingEntries mapping) ++ []) = mappingToJSON mapping := by
    rw [List.append_nil]
    rfl
  rw [hj, matchField, if_pos (by decide)] at hfind
  have hlt : ∀ r ∈ mapping.routes, r.streamChannel < 65536 ∧ r.deviceChannel < 65536 := by
    intro r hr
    have h1 := hv.route_lt r hr
    have h2 := hf.streamChannelCount_lt
    exact ⟨by omega, lt_trans h1.2 (by decide)⟩
  rw [routesFromJSON, hfind]
  dsimp only
  rw [numberRuns_routes, stoiAll_showNat]
  · exact congrArg Except.ok (routesOf_routeNumbers hlt)
  · intro n hn
    obtain ⟨r, hr, hn⟩ := List.mem_flatMap.mp hn
    have := hlt r hr
    simp only [List.mem_cons, List.not_mem_nil, or_false] at hn
    omega

theorem narrowField_le {max n : ℕ} {json : Text} (h : narrowField max json f = some n) :
    n ≤ max := by
  unfold narrowField at h
  split at h
  · cases h
  · split_ifs at h with hle
    cases h
    exact Nat.le_of_not_lt hle

/-- A mapping that is read has numbers that fit. -/
theorem fits_of_mappingFromJSON {json : Text} (h : mappingFromJSON json = .ok mapping) :
    Fits mapping := by
  have hlt : ∀ field, (extractUInt16Field json field).getD 0 < 65536 := fun field => by
    cases hn : extractUInt16Field json field with
    | none => decide
    | some n => exact Nat.lt_succ_of_le (narrowField_le hn)
  rw [mappingFromJSON] at h
  split at h
  · cases h
  · cases hr : routesFromJSON json with
    | error e => rw [hr] at h; cases h
    | ok routes =>
      rw [hr] at h
      cases h
      exact ⟨hlt _, hlt _⟩

/-- **A written mapping is read back.** -/
theorem mappingFromJSON_mappingToJSON (hv : mapping.Valid) (hf : Fits mapping) :
    mappingFromJSON (mappingToJSON mapping) = .ok mapping := by
  have hl := legible_mappingEntries mapping isName_of_mem_mappingNames
  have key : ∀ i g x, (mappingEntries mapping)[i]? = some (g, x) →
      g ∈ mappingNames ∧ (g, x) ∈ mappingEntries mapping := fun i g x h =>
    ⟨mappingEntries_fst ▸ List.mem_map.mpr ⟨_, List.mem_of_getElem? h, rfl⟩,
      List.mem_of_getElem? h⟩
  have hj : mappingToJSON mapping = [] ++ (objectJSON 6 (mappingEntries mapping) ++ []) := by
    rw [List.append_nil]
    rfl
  have str : ∀ i g v, (mappingEntries mapping)[i]? = some (g, quote v) →
      extractStringField (mappingToJSON mapping) g = some v := fun i g v h => by
    rw [hj]
    exact hl.extractString (key i g _ h).1 (key i g _ h).2 (by simp)
  have u16 : ∀ i g n, (mappingEntries mapping)[i]? = some (g, showNat n) → n < 65536 →
      extractUInt16Field (mappingToJSON mapping) g = some n := fun i g n h hn => by
    rw [hj]
    exact hl.narrow (key i g _ h).1 (key i g _ h).2 (by simp) (Nat.le_of_lt_succ hn) (by decide)
  have hblock := hv.block_le
  rw [kMaxDeviceChannels] at hblock
  have hid := str 0 "streamID".toList mapping.streamID.toString
    (by rw [← quote_toString]; rfl)
  simp only [mappingFromJSON, hid, StreamID.ofText_toString, str 1 _ _ rfl,
    u16 2 _ _ rfl hf.streamChannelCount_lt, u16 3 _ _ rfl hf.streamChannelOffset_lt,
    u16 4 _ mapping.deviceChannelStart rfl (by omega),
    u16 5 _ mapping.deviceChannelCount rfl (by omega), routesFromJSON_mappingToJSON hv hf,
    Option.getD_some]
  rfl

end StreamConfigManager

end Aes67
