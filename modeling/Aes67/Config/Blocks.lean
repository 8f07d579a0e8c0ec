import Aes67.Config.Fields

/-!
# The blocks of a written stream

The reader takes the `sdp` and `mapping` blocks up to the first closing brace, also where that brace
is in one of their texts. What stands in the block from there on is lost.

* `throughBrace`: a text up to its first closing brace, and `searchField_block`: the block taken;
* `sdpOf_eq`, `mappingOf_eq`: what a stream object's blocks read as;
* `sdpTexts_not_mem`, `streamName_not_mem`: a block that reads as what was written has no closing
  brace in its texts;
* `Findable`, `reread`: a stream whose parts are found again, and what is made of them;
* **`configFromJSON_reread`**: a stream whose blocks have no closing brace is read as that, where it
  is valid.
-/

namespace Aes67.StreamConfigManager

open Sdp

variable {sdp : SDPSession} {mapping : ChannelMapping} {config x : PersistedStreamConfig}
  {f lead p r s t v : Text} {indent i : ℕ} {network : NetworkUtils}

/-! ## The first closing brace -/

/-- The text up to its first closing brace. -/
def throughBrace (s : Text) : Text := s.takeWhile (· ≠ '\x7d') ++ ['\x7d']

theorem throughBrace_append (h : '\x7d' ∉ s) : throughBrace (s ++ '\x7d' :: t) = s ++ ['\x7d'] := by
  have hs : ∀ c ∈ s, decide (c ≠ '\x7d') = true := fun c hc => by
    rw [decide_eq_true_iff]
    rintro rfl
    exact h hc
  rw [throughBrace, List.takeWhile_append_of_pos hs]
  simp

theorem exists_throughBrace (h : '\x7d' ∈ s) :
    ∃ a b, s = a ++ '\x7d' :: b ∧ '\x7d' ∉ a ∧ throughBrace s = a ++ ['\x7d'] := by
  obtain ⟨a, b, rfl, ha⟩ := List.eq_append_cons_of_mem h
  exact ⟨a, b, rfl, ha, throughBrace_append ha⟩

theorem throughBrace_of_prefix (hp : p <+: s) (h : '\x7d' ∈ p) : throughBrace p = throughBrace s := by
  obtain ⟨u, rfl⟩ := hp
  obtain ⟨a, b, rfl, ha, hp⟩ := exists_throughBrace h
  rw [hp, List.append_assoc, List.cons_append, throughBrace_append ha]

theorem throughBrace_cons {c : Char} (hc : c ≠ '\x7d') :
    throughBrace (c :: s) = c :: throughBrace s := by
  rw [throughBrace, List.takeWhile_cons, if_pos (by simpa using hc)]
  rfl

/-- What ends at the first closing brace is within every part that has one. -/
theorem throughBrace_prefix_of_mem (hp : p <+: s) (h : '\x7d' ∈ p) : throughBrace s <+: p := by
  obtain ⟨a, b, rfl, ha, hp'⟩ := exists_throughBrace h
  rw [← throughBrace_of_prefix hp h, hp']
  exact ⟨b, by simp⟩

/-- **The block taken.** -/
theorem searchField_block {pre : List (Text × Text)} (hf : IsName f) (hpre : Silent f pre)
    (hl : '"' ∉ lead) (hr : '\x7d' ∈ r) :
    ∃ block, searchField f blockValue
        (lead ++ (objectBefore indent pre ++ (label f ++ '\x7b' :: '\n' :: r))) = some block ∧
      '\x7b' :: block ++ ['\x7d'] = throughBrace ('\x7b' :: '\n' :: r) := by
  refine ⟨('\n' :: r).takeWhile (· ≠ '\x7d'), ?_, ?_⟩
  · have hblock : blockValue ('\x7b' :: '\n' :: r) = some (('\n' :: r).takeWhile (· ≠ '\x7d')) := by
      rw [blockValue, List.takeWhile_cons, if_pos (by decide)]
      exact if_pos (List.mem_cons_of_mem _ hr)
    have hd : ('\x7b' :: '\n' :: r).dropWhile isSpace = '\x7b' :: '\n' :: r := rfl
    rw [searchField_append (noKey_of_not_mem hl), searchField_append (noKey_objectBefore hf hpre),
      searchField_label hf, hd, hblock]
    rfl
  · rw [throughBrace_cons (by decide), throughBrace]
    rfl

theorem sdpOf_eq {pre : List (Text × Text)} (hpre : Silent "sdp".toList pre) (hl : '"' ∉ lead)
    (hr : '\x7d' ∈ r) :
    sdpOf (lead ++ (objectBefore indent pre ++ (label "sdp".toList ++ '\x7b' :: '\n' :: r))) =
      sdpFromJSON (throughBrace ('\x7b' :: '\n' :: r)) := by
  obtain ⟨block, hs, hb⟩ := searchField_block (by decide) hpre hl hr
  rw [sdpOf, hs, ← hb]

theorem mappingOf_eq {pre : List (Text × Text)} (hpre : Silent "mapping".toList pre)
    (hl : '"' ∉ lead) (hr : '\x7d' ∈ r) :
    mappingOf (lead ++ (objectBefore indent pre ++
      (label "mapping".toList ++ '\x7b' :: '\n' :: r))) =
      mappingFromJSON (throughBrace ('\x7b' :: '\n' :: r)) := by
  obtain ⟨block, hs, hb⟩ := searchField_block (by decide) hpre hl hr
  rw [mappingOf, hs, ← hb]

/-! ## Texts cut off -/

/-- A field whose text has a closing brace is not found in what ends at the first one. -/
theorem extractString_throughBrace {names : List Text} {entries : List (Text × Text)}
    (h : Legible names entries) (hf : f ∈ names) (hm : (f, quote v) ∈ entries) (hv : '\x7d' ∈ v) :
    extractStringField (throughBrace (objectJSON indent entries ++ t)) f = none := by
  obtain ⟨pre, post, rfl, hn, hpre, -⟩ := h.split hf hm
  have hp : [] ++ (objectBefore indent pre ++ (label f ++ '"' :: jsonEscape v)) <+:
      objectJSON indent (pre ++ (f, quote v) :: post) ++ t := by
    rw [objectJSON_split]
    exact ⟨'"' :: (objectAfter indent post ++ t), by simp [quote]⟩
  rw [extractStringField, matchField_cut hn hpre (by simp) (throughBrace_prefix_of_mem hp ?_)]
  · rfl
  · have := (mem_jsonEscape (d := '\x7d') rfl).mpr hv
    simp [this]

/-- A field that is read back as it was, or stays at a default without braces, has no closing brace
in its text. -/
theorem brace_not_mem {names : List Text} {entries : List (Text × Text)} {default : Text}
    (h : Legible names entries) (hf : f ∈ names) (hm : (f, quote v) ∈ entries)
    (hd : '\x7d' ∉ default)
    (hv : (extractStringField (throughBrace (objectJSON indent entries ++ t)) f).getD default =
      v) : '\x7d' ∉ v := by
  intro hb
  rw [extractString_throughBrace h hf hm hb, Option.getD_none] at hv
  exact hd (hv ▸ hb)

/-- The texts of the session block. -/
def sdpTexts (sdp : SDPSession) : List Text :=
  [sdp.sessionName, sdp.sessionInfo, sdp.originUsername, sdp.originAddress, sdp.connectionAddress,
    sdp.encoding, sdp.sourceAddress, sdp.ptpMasterMAC, sdp.mediaClockType, sdp.direction]

theorem sdpTexts_written : sdpTexts sdp.written = sdpTexts sdp := rfl

theorem sdpTexts_sdpFromJSON (json : Text) : sdpTexts (sdpFromJSON json) =
    [(extractStringField json "sessionName".toList).getD [],
      (extractStringField json "sessionInfo".toList).getD [],
      (extractStringField json "originUsername".toList).getD "-".toList,
      (extractStringField json "originAddress".toList).getD [],
      (extractStringField json "connectionAddress".toList).getD [],
      (extractStringField json "encoding".toList).getD "L24".toList,
      (extractStringField json "sourceAddress".toList).getD [],
      (extractStringField json "ptpMasterMAC".toList).getD [],
      (extractStringField json "mediaClockType".toList).getD "direct=0".toList,
      (extractStringField json "direction".toList).getD "recvonly".toList] := rfl

/-- **A session block that reads as what was written** has no closing brace in its texts. -/
theorem sdpTexts_not_mem
    (h : (sdpFromJSON (throughBrace (sdpToJSON sdp ++ t))).written = sdp.written) :
    ∀ v ∈ sdpTexts sdp, '\x7d' ∉ v := by
  have hl := legible_sdpEntries sdp isName_of_mem_sdpNames
  have text : ∀ i g v default, (sdpEntries sdp)[i]? = some (g, quote v) → '\x7d' ∉ default →
      (extractStringField (throughBrace (sdpToJSON sdp ++ t)) g).getD default = v → '\x7d' ∉ v :=
    fun i g v default hi hd hv =>
      brace_not_mem hl (sdpEntries_fst ▸
        List.mem_map.mpr ⟨_, List.mem_of_getElem? hi, rfl⟩) (List.mem_of_getElem? hi) hd hv
  have he := congrArg sdpTexts h
  rw [sdpTexts_written, sdpTexts_written, sdpTexts_sdpFromJSON, sdpTexts] at he
  simp only [List.cons.injEq, and_true] at he
  obtain ⟨h1, h2, h3, h4, h5, h6, h7, h8, h9, h10⟩ := he
  simp only [sdpTexts, List.forall_mem_cons, List.not_mem_nil, IsEmpty.forall_iff, implies_true,
    and_true]
  exact ⟨text 0 _ _ _ rfl (by decide) h1, text 1 _ _ _ rfl (by decide) h2,
    text 4 _ _ _ rfl (by decide) h3, text 5 _ _ _ rfl (by decide) h4,
    text 6 _ _ _ rfl (by decide) h5, text 10 _ _ _ rfl (by decide) h6,
    text 15 _ _ _ rfl (by decide) h7, text 17 _ _ _ rfl (by decide) h8,
    text 18 _ _ _ rfl (by decide) h9, text 19 _ _ _ rfl (by decide) h10⟩

/-- A mapping block that reads as what was written has no closing brace in its name. -/
theorem streamName_not_mem {m : ChannelMapping}
    (h : mappingFromJSON (throughBrace (mappingToJSON mapping ++ t)) = .ok m)
    (hm : m.streamName = mapping.streamName) : '\x7d' ∉ mapping.streamName := by
  have hl := legible_mappingEntries mapping isName_of_mem_mappingNames
  have hname : (extractStringField (throughBrace (mappingToJSON mapping ++ t))
      "streamName".toList).getD [] = m.streamName := by
    rw [mappingFromJSON] at h
    split at h
    · cases h
    · cases hr : routesFromJSON (throughBrace (mappingToJSON mapping ++ t)) with
      | error e => simp only [hr] at h; cases h
      | ok routes => simp only [hr] at h; cases h; rfl
  exact brace_not_mem hl (by decide) (List.mem_of_getElem? (i := 1) rfl) (by decide)
    (hname.trans hm)

/-! ## Stream objects -/

/-- The field names of `configToJSON`. -/
def configNames : List Text := (configEntries {}).map Prod.fst

/-- The entries before the two blocks. -/
def topEntries (config : PersistedStreamConfig) : List (Text × Text) :=
  (configEntries config).take 7

theorem configEntries_eq : configEntries config = topEntries config ++
    ("sdp".toList, sdpToJSON config.sdp) :: [("mapping".toList, mappingToJSON config.mapping)] :=
  rfl

theorem isName_of_mem_configNames : ∀ f ∈ configNames, IsName f := by decide

theorem configEntries_fst : (configEntries config).map Prod.fst = configNames := rfl

theorem quiet_sdpToJSON (hf : f ∈ configNames) : Quiet f (sdpToJSON sdp) := by
  have hne : ∀ f ∈ configNames, f ∉ sdpNames := by decide
  refine quiet_objectJSON (isName_of_mem_configNames f hf) (List.cons_ne_nil _ _) fun e he => ?_
  have hmem : e.1 ∈ sdpNames := sdpEntries_fst ▸ List.mem_map_of_mem he
  refine ⟨isName_of_mem_sdpNames _ hmem, fun h => hne f hf (h ▸ hmem), ?_⟩
  exact (legible_sdpEntries _ isName_of_mem_configNames).quiet e he f hf

theorem quiet_mappingToJSON (hf : f ∈ configNames) : Quiet f (mappingToJSON mapping) := by
  have hne : ∀ f ∈ configNames, f ∉ mappingNames := by decide
  refine quiet_objectJSON (isName_of_mem_configNames f hf) (List.cons_ne_nil _ _) fun e he => ?_
  have hmem : e.1 ∈ mappingNames := mappingEntries_fst ▸ List.mem_map_of_mem he
  refine ⟨isName_of_mem_mappingNames _ hmem, fun h => hne f hf (h ▸ hmem), ?_⟩
  exact (legible_mappingEntries _ isName_of_mem_configNames).quiet e he f hf

theorem legible_configEntries (config : PersistedStreamConfig) :
    Legible configNames (configEntries config) where
  nodup := configEntries_fst ▸ by decide
  name e he := isName_of_mem_configNames _ (configEntries_fst ▸
    List.mem_map_of_mem he)
  quiet e he f hf := by
    have hn := isName_of_mem_configNames f hf
    have num : ∀ n, Quiet f (showNat n) := fun n => quiet_of_not_mem (isDigit_ne rfl)
    have bool : ∀ b, Quiet f (showBool b) := fun b =>
      quiet_of_not_mem (not_mem_showBool (by decide) b)
    revert e
    simp only [configEntries, List.forall_mem_cons, List.not_mem_nil, IsEmpty.forall_iff,
      implies_true, and_true]
    exact ⟨bool _, bool _, quiet_quote hn _, num _, num _, num _, quiet_quote hn _,
      quiet_sdpToJSON hf, quiet_mappingToJSON hf⟩

theorem silent_of_mem {pre post : List (Text × Text)} {e : Text × Text}
    (h : configEntries config = pre ++ e :: post) : Silent e.1 pre ∧ Silent e.1 post := by
  have hl := legible_configEntries config
  have hf : e.1 ∈ configNames := by
    rw [← configEntries_fst, h]
    simp
  have hn := hl.nodup
  rw [h, List.map_append, List.map_cons, List.nodup_append, List.nodup_cons] at hn
  constructor
  · intro e' he
    have hin : e' ∈ configEntries config := h ▸ List.mem_append_left _ he
    exact ⟨hl.name e' hin, hn.2.2 e'.1 (List.mem_map_of_mem he) e.1 List.mem_cons_self,
      hl.quiet e' hin e.1 hf⟩
  · intro e' he
    have hin : e' ∈ configEntries config :=
      h ▸ List.mem_append_right _ (List.mem_cons_of_mem _ he)
    refine ⟨hl.name e' hin, fun he' => hn.2.1.1 ?_, hl.quiet e' hin e.1 hf⟩
    exact List.mem_map.mpr ⟨e', he, he'⟩

theorem objectJSON_append (indent : ℕ) (entries : List (Text × Text)) (t : Text) :
    ∃ r, objectJSON indent entries ++ t = '\x7b' :: '\n' :: r ∧ '\x7d' ∈ r :=
  ⟨_, rfl, by simp⟩

/-- A text with the session block of `config` in it. -/
theorem sdpOf_written (hl : '"' ∉ lead) :
    sdpOf (lead ++ (objectBefore 4 (topEntries config) ++
      (label "sdp".toList ++ (sdpToJSON config.sdp ++ t)))) =
      sdpFromJSON (throughBrace (sdpToJSON config.sdp ++ t)) := by
  obtain ⟨r, hr, hb⟩ := objectJSON_append 6 (sdpEntries config.sdp) t
  rw [sdpToJSON, hr]
  exact sdpOf_eq (silent_of_mem configEntries_eq).1 hl hb

/-- A text with the mapping block of `config` in it, or what its first brace leaves of it. -/
theorem mappingOf_written (hl : '"' ∉ lead) (hp : p <+: mappingToJSON config.mapping ++ t)
    (hb : '\x7d' ∈ p) :
    mappingOf (lead ++ (objectBefore 4 (topEntries config ++
      [("sdp".toList, sdpToJSON config.sdp)]) ++ (label "mapping".toList ++ p))) =
      mappingFromJSON (throughBrace (mappingToJSON config.mapping ++ t)) := by
  obtain ⟨r, hr, -⟩ := objectJSON_append 6 (mappingEntries config.mapping) t
  have hsilent : Silent "mapping".toList
      (topEntries config ++ [("sdp".toList, sdpToJSON config.sdp)]) :=
    (silent_of_mem (show configEntries config =
      (topEntries config ++ [("sdp".toList, sdpToJSON config.sdp)]) ++
        ("mapping".toList, mappingToJSON config.mapping) :: [] from rfl)).1
  rw [← throughBrace_of_prefix hp hb]
  rw [mappingToJSON, hr] at hp
  rcases p with _ | ⟨c, _ | ⟨c', p⟩⟩
  · cases hb
  · rw [(List.cons_prefix_cons.mp hp).1] at hb
    exact absurd hb (by decide)
  · rw [List.cons_prefix_cons, List.cons_prefix_cons] at hp
    obtain ⟨rfl, rfl, -⟩ := hp
    refine mappingOf_eq hsilent hl ?_
    simpa using hb

/-- A literal is an address, so the reader leaves it as it is. -/
theorem isIPv4Address_of_literal (h : IPv4Literal s) : isIPv4Address s = true := by
  obtain ⟨a, b, c, d, ha, hb, hc, hd, rfl⟩ := h
  have decimal : ∀ n < 256, hasLeadingZero (showNat n) = false := by decide +kernel
  have octet : ∀ n < 256, isOctet (showNat n) = true := by decide +kernel
  have dot : ∀ n, '.' ∉ showNat n := fun n => isDigit_ne rfl
  have hsplit : (showNat a ++ '.' :: (showNat b ++ '.' :: (showNat c ++ '.' :: showNat d))).splitOn
      '.' = [showNat a, showNat b, showNat c, showNat d] := by
    rw [List.splitOn_append_cons_self_of_not_mem (dot a),
      List.splitOn_append_cons_self_of_not_mem (dot b),
      List.splitOn_append_cons_self_of_not_mem (dot c), List.splitOn_eq_singleton (dot d)]
  have hnul : ∀ n, '\x00' ∉ showNat n := fun n => isDigit_ne rfl
  have htake : (showNat a ++ '.' :: (showNat b ++ '.' :: (showNat c ++ '.' :: showNat d))).takeWhile
      (· ≠ '\x00') = showNat a ++ '.' :: (showNat b ++ '.' :: (showNat c ++ '.' :: showNat d)) := by
    rw [List.takeWhile_eq_self_iff]
    intro x hx
    rw [decide_eq_true_iff]
    rintro rfl
    simp only [List.mem_append, List.mem_cons, hnul, false_or] at hx
    rcases hx with hx | hx | hx <;> exact absurd hx (by decide)
  simp only [isIPv4Address, inetPton, htake, hsplit, List.any_cons, List.any_nil, decimal a ha,
    decimal b hb, decimal c hc, decimal d hd, octet a ha, octet b hb, octet c hc, octet d hd]
  rfl

/-! ## Reading a stream back -/

/-- What a saved stream is: a valid one on a literal address. -/
structure Storable (config : PersistedStreamConfig) : Prop where
  valid : config.isValid = true
  interface : IPv4Literal config.networkInterface
  fits : Fits config.mapping

/-- The texts in the blocks of a stream object. -/
def blockTexts (config : PersistedStreamConfig) : List Text :=
  sdpTexts config.sdp ++ [config.mapping.streamName]

theorem Storable.mapping_valid (h : Storable config) : config.mapping.Valid := by
  have hv := h.valid
  rw [PersistedStreamConfig.isValid, Bool.and_eq_true] at hv
  exact ChannelMapping.isValid_iff.mp hv.2

/-- A text without braces and brackets. -/
def Bare (s : Text) : Prop := ∀ d, isBracket d = true → d ∉ s

theorem bare_of_literal (h : IPv4Literal s) : Bare s := by
  intro d hd
  obtain ⟨a, b, c, e, -, -, -, -, rfl⟩ := h
  have digit : d.isDigit = false := by
    rw [isBracket, decide_eq_true_iff] at hd
    rcases hd with rfl | rfl | rfl | rfl <;> rfl
  have num : ∀ n, d ∉ showNat n := fun n => isDigit_ne digit
  have hdot : d ≠ '.' := by
    rintro rfl
    exact absurd hd (by decide)
  simp [num, hdot]

/-- What the reader needs of a stream to find its parts again, whether or not it is valid. -/
structure Findable (config : PersistedStreamConfig) : Prop where
  mapping : config.mapping.Valid
  fits : Fits config.mapping
  interface : Bare config.networkInterface

theorem Storable.findable (h : Storable config) : Findable config :=
  ⟨h.mapping_valid, h.fits, bare_of_literal h.interface⟩

/-- The interface the reader makes of one it has read. -/
def settled (network : NetworkUtils) (ifaceSpec : Text) : Text :=
  if ifaceSpec = "auto".toList ∨ ifaceSpec = [] then network.resolveInterfaceToIP []
  else if ¬ isIPv4Address ifaceSpec then
    if network.getInterfaceIP ifaceSpec = [] then ifaceSpec else network.getInterfaceIP ifaceSpec
  else ifaceSpec

/-- The stream the reader makes of a stream's text: its written fields, on the interface settled
on. -/
def reread (network : NetworkUtils) (config : PersistedStreamConfig) : PersistedStreamConfig :=
  { config.written with networkInterface := settled network config.networkInterface }

theorem reread_of_literal (network : NetworkUtils) (h : IPv4Literal config.networkInterface) :
    reread network config = config.written := by
  have hip := isIPv4Address_of_literal h
  have hne : ¬ (config.networkInterface = "auto".toList ∨ config.networkInterface = []) := by
    rintro (h | h) <;> rw [h] at hip <;> exact absurd hip (by decide)
  rw [reread, settled, if_neg hne, if_neg (not_not.mpr hip)]
  rfl

theorem interfaceFromJSON_written (network : NetworkUtils) (hl : '"' ∉ lead) :
    interfaceFromJSON network (lead ++ (configToJSON config ++ t)) =
      settled network config.networkInterface := by
  have he := (legible_configEntries config).extractString (i := 4) (t := t)
    (by decide : "networkInterface".toList ∈ configNames)
    (List.mem_of_getElem? (l := configEntries config) (i := 6) rfl) hl
  rw [interfaceFromJSON, configToJSON, he]
  rfl

theorem throughBrace_objectJSON {entries : List (Text × Text)} (hn : ∀ e ∈ entries, IsName e.1)
    (h : ∀ e ∈ entries, '\x7d' ∉ e.2) :
    throughBrace (objectJSON indent entries ++ t) = objectJSON indent entries := by
  have hb := not_mem_objectBody (d := '\x7d') (i := indent) rfl hn h
  have he : objectJSON indent entries ++ t =
      '\x7b' :: objectBody indent entries ++ '\x7d' :: t := by simp [objectJSON_eq]
  have hb' : '\x7d' ∉ '\x7b' :: objectBody indent entries := by simp [hb]
  rw [he, throughBrace_append hb']
  rfl

theorem not_mem_quote {d : Char} (hd : isBracket d = true) (h : d ∉ v) : d ∉ quote v := by
  have hq : d ≠ '"' := by
    rintro rfl
    exact absurd hd (by decide)
  simp [quote, mem_jsonEscape hd, h, hq]

/-- The brackets of a session block are those of its texts. -/
theorem sdpEntries_not_mem {d : Char} (hd : isBracket d = true) (h : ∀ v ∈ sdpTexts sdp, d ∉ v) :
    ∀ e ∈ sdpEntries sdp, d ∉ e.2 := by
  have digit : d.isDigit = false := by
    rw [isBracket, decide_eq_true_iff] at hd
    rcases hd with rfl | rfl | rfl | rfl <;> rfl
  have minus : d ≠ '-' := by
    rintro rfl
    exact absurd hd (by decide)
  have num : ∀ n, d ∉ showNat n := fun n => isDigit_ne digit
  simp only [sdpTexts, List.forall_mem_cons, List.not_mem_nil, IsEmpty.forall_iff, implies_true,
    and_true] at h
  obtain ⟨h1, h2, h3, h4, h5, h6, h7, h8, h9, h10⟩ := h
  simp only [sdpEntries, List.forall_mem_cons, List.not_mem_nil, IsEmpty.forall_iff, implies_true,
    and_true, num, not_false_eq_true, true_and]
  exact ⟨not_mem_quote hd h1, not_mem_quote hd h2, not_mem_quote hd h3, not_mem_quote hd h4,
    not_mem_quote hd h5, not_mem_quote hd h6, not_mem_quote hd h7, not_mem_showInt digit minus,
    not_mem_quote hd h8, not_mem_quote hd h9, not_mem_quote hd h10⟩

theorem not_mem_toString {d : Char} (hd : isBracket d = true) (id : StreamID) :
    d ∉ quote id.toString := by
  refine not_mem_quote hd fun h => ?_
  have digit : ∀ n < 16, isBracket (Nat.digitChar n) = false := by decide
  obtain ⟨i, -, hi⟩ := List.mem_flatMap.mp h
  have hb := id.byte_lt i
  have hc : isBracket d = false := by
    rcases List.mem_append.mp hi with h | h
    · split_ifs at h
      · rw [List.mem_singleton.mp h]
        rfl
      · cases h
    · simp only [StreamID.hexByte, List.mem_cons, List.not_mem_nil, or_false] at h
      rcases h with rfl | rfl
      · exact digit _ (by omega)
      · exact digit _ (by omega)
  rw [hd] at hc
  cases hc

/-- The braces of a mapping block are those of its name. -/
theorem mappingEntries_not_mem {d : Char} (hd : d = '\x7b' ∨ d = '\x7d')
    (h : d ∉ mapping.streamName) : ∀ e ∈ mappingEntries mapping, d ∉ e.2 := by
  have hbr : isBracket d = true := by rcases hd with rfl | rfl <;> rfl
  have digit : d.isDigit = false := by rcases hd with rfl | rfl <;> rfl
  have num : ∀ n, d ∉ showNat n := fun n => isDigit_ne digit
  have hroutes : d ∉ '[' :: routeList mapping.routes ++ [']'] := by
    have hr := not_mem_routeList digit (by rcases hd with rfl | rfl <;> decide) mapping.routes
    rcases hd with rfl | rfl <;> simp [hr]
  simp only [mappingEntries, quote_toString, List.forall_mem_cons, List.not_mem_nil,
    IsEmpty.forall_iff, implies_true, and_true, num, not_false_eq_true, true_and]
  exact ⟨not_mem_toString hbr _, not_mem_quote hbr h, hroutes⟩

theorem throughBrace_sdpToJSON (h : ∀ v ∈ sdpTexts sdp, '\x7d' ∉ v) :
    throughBrace (sdpToJSON sdp ++ t) = sdpToJSON sdp :=
  throughBrace_objectJSON
    (fun _ he => isName_of_mem_sdpNames _ (sdpEntries_fst ▸ List.mem_map_of_mem he))
    (sdpEntries_not_mem rfl h)

theorem throughBrace_mappingToJSON (h : '\x7d' ∉ mapping.streamName) :
    throughBrace (mappingToJSON mapping ++ t) = mappingToJSON mapping :=
  throughBrace_objectJSON
    (fun _ he => isName_of_mem_mappingNames _
      (mappingEntries_fst ▸ List.mem_map_of_mem he))
    (mappingEntries_not_mem (Or.inr rfl) h)

/-- **A stream is read again** where no text in its blocks has a closing brace, and dropped where
it is not valid. -/
theorem configFromJSON_reread (hl : '"' ∉ lead) (hc : Findable config)
    (h : ∀ v ∈ blockTexts config, '\x7d' ∉ v) :
    configFromJSON network (lead ++ configToJSON config) =
      .ok (if (reread network config).isValid then some (reread network config) else none) := by
  have hsdp : ∀ v ∈ sdpTexts config.sdp, '\x7d' ∉ v := fun v hv => h v (List.mem_append_left _ hv)
  have hname : '\x7d' ∉ config.mapping.streamName :=
    h _ (List.mem_append_right _ List.mem_cons_self)
  have hj : lead ++ configToJSON config = lead ++ (configToJSON config ++ []) := by
    rw [List.append_nil]
  have s1 : sdpOf (lead ++ configToJSON config) = config.sdp.written := by
    rw [configToJSON, configEntries_eq, objectJSON_split, sdpOf_written hl,
      throughBrace_sdpToJSON hsdp, sdpFromJSON_sdpToJSON]
  have s2 : mappingOf (lead ++ configToJSON config) = .ok config.mapping := by
    have he : configToJSON config = objectBefore 4 (topEntries config ++
        [("sdp".toList, sdpToJSON config.sdp)]) ++ (label "mapping".toList ++
          (mappingToJSON config.mapping ++ objectAfter 4 [])) :=
      objectJSON_split 4 (topEntries config ++ [("sdp".toList, sdpToJSON config.sdp)]) []
        ("mapping".toList, mappingToJSON config.mapping)
    have hb : '\x7d' ∈ mappingToJSON config.mapping ++ objectAfter 4 [] :=
      List.mem_append_right _ (by simp [objectAfter])
    rw [he, mappingOf_written hl List.prefix_rfl hb, throughBrace_mappingToJSON hname,
      mappingFromJSON_mappingToJSON hc.mapping hc.fits]
  have hi : interfaceFromJSON network (lead ++ configToJSON config) =
      settled network config.networkInterface := by
    rw [hj]
    exact interfaceFromJSON_written network hl
  have key : ∀ i g x, (configEntries config)[i]? = some (g, x) →
      g ∈ configNames ∧ (g, x) ∈ configEntries config := fun i g x h =>
    ⟨configEntries_fst ▸ List.mem_map.mpr ⟨_, List.mem_of_getElem? h, rfl⟩,
      List.mem_of_getElem? h⟩
  have hl' := legible_configEntries config
  have bool : ∀ i g b, (configEntries config)[i]? = some (g, showBool b) →
      extractBoolField (lead ++ configToJSON config) g = some b := fun i g b h => by
    rw [hj]
    exact hl'.extractBool (key i g _ h).1 (key i g _ h).2 hl
  have u64 : ∀ i g (n : UInt64), (configEntries config)[i]? = some (g, showNat n.toNat) →
      extractUInt64Field (lead ++ configToJSON config) g = some n.toNat := fun i g n h => by
    rw [hj]
    exact hl'.extractUInt64 (key i g _ h).1 (key i g _ h).2 hl n.toNat_lt
  have str : extractStringField (lead ++ configToJSON config) "description".toList =
      some config.description := by
    rw [hj]
    exact hl'.extractString (key 2 _ _ rfl).1 (key 2 _ _ rfl).2 hl
  simp only [configFromJSON, isTransmitFromJSON, s1, s2, hi, bool 0 _ _ rfl, bool 1 _ _ rfl, str,
    u64 3 _ _ rfl, u64 4 _ _ rfl, u64 5 _ _ rfl, Option.getD_some, Option.map_some,
    UInt64.ofNat_toNat]
  rfl

end Aes67.StreamConfigManager
