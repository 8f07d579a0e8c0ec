import Aes67.Config.Brackets

/-!
# The document as a whole

* `Readable`: what the texts of the saved streams may have of braces and brackets;
* `arrayJSON_cons`, `tailJSON_cons`: the array, one stream after the other;
* `streamsContent_toJSON`: the reader finds the array;
* `rereadAll`, **`fromJSON_rereadAll`**: readable streams are read again;
* **`fromJSON_toJSON`**: of saved streams, every one is.
-/

namespace Aes67.StreamConfigManager

open Sdp

variable {network : NetworkUtils} {config c : PersistedStreamConfig}
  {configs cs : List PersistedStreamConfig} {lead : Text}

/-- What the reader asks of the texts of the saved streams: the braces of each stream as `Plain`
has it, and brackets that close each other in the order the texts are written. -/
structure Readable (configs : List PersistedStreamConfig) : Prop where
  plain : ∀ config ∈ configs, Plain config
  brackets : Balanced '[' ']' (configs.flatMap writtenText)

instance : Decidable (Readable configs) :=
  decidable_of_iff ((∀ config ∈ configs, Plain config) ∧
    Balanced '[' ']' (configs.flatMap writtenText)) ⟨fun h => ⟨h.1, h.2⟩, fun h => ⟨h.1, h.2⟩⟩

/-! ## The document -/

/-- What the array has after its first stream. -/
def tailJSON (configs : List PersistedStreamConfig) : Text :=
  configs.flatMap (fun config => ",\n    ".toList ++ configToJSON config) ++ "\n  ".toList

theorem tailJSON_cons : tailJSON (c :: cs) =
    ",\n    ".toList ++ (configToJSON c ++ tailJSON cs) := by
  simp [tailJSON]

theorem arrayJSON_cons : arrayJSON (c :: cs) =
    "\n    ".toList ++ (configToJSON c ++ tailJSON cs) := by
  rw [arrayJSON, List.map_cons, show ("    ".toList ++ configToJSON c) ::
    cs.map (fun config => "    ".toList ++ configToJSON config) = [] ++ ("    ".toList ++
      configToJSON c) :: cs.map (fun config => "    ".toList ++ configToJSON config) from rfl,
    intercalate_split]
  simp [tailJSON, List.flatMap_map]

theorem cut_preamble : cut "\"streams\"".toList preamble =
    some ("\x7b\n  \"version\": \"1.0\",\n  ".toList, ": ".toList) := by
  decide

/-- The reader finds the array. -/
theorem streamsContent_toJSON : streamsContent (toJSON configs) =
    beforeClose '[' ']' 1 (arrayJSON configs ++ "]\n\x7d".toList) := by
  have hb : cut ['['] (": ".toList ++ ('[' :: arrayJSON configs ++ "]\n\x7d".toList)) =
      some (": ".toList, arrayJSON configs ++ "]\n\x7d".toList) :=
    cut_char (d := '[') (p := ": ".toList) (by decide) (arrayJSON configs ++ "]\n\x7d".toList)
  rw [streamsContent, toJSON, List.append_assoc, cut_append_right cut_preamble]
  dsimp only
  rw [hb]

theorem groups_tailJSON (h : ∀ config ∈ cs, Findable config ∧ Plain config) :
    groups '\x7b' '\x7d' 0 [] (tailJSON cs) =
      cs.map fun config => ",\n    ".toList ++ configToJSON config := by
  induction cs with
  | nil => rfl
  | cons c cs ih =>
    obtain ⟨hc, hp⟩ := h c List.mem_cons_self
    rw [tailJSON_cons, groups_config (by decide) (by decide) hc.interface hp,
      ih fun c hc => h c (List.mem_cons_of_mem _ hc)]
    rfl

theorem Plain.not_mem (h : Plain config) : ∀ v ∈ blockTexts config, '\x7d' ∉ v :=
  fun v hv => (h.texts v hv).2

/-- The streams the reader makes of the texts of streams, those that are valid. -/
def rereadAll (network : NetworkUtils) (configs : List PersistedStreamConfig) :
    List PersistedStreamConfig :=
  (configs.map (reread network)).filter PersistedStreamConfig.isValid

theorem readConfigs_cons {objects : List Text} (hl : '"' ∉ lead) (hc : Findable c) (hp : Plain c)
    (h : readConfigs network objects = .ok (rereadAll network cs)) :
    readConfigs network ((lead ++ configToJSON c) :: objects) =
      .ok (rereadAll network (c :: cs)) := by
  rw [readConfigs, configFromJSON_reread hl hc hp.not_mem, rereadAll, List.map_cons]
  by_cases hv : (reread network c).isValid = true
  · rw [if_pos hv, List.filter_cons_of_pos hv]
    dsimp only
    rw [h]
    rfl
  · rw [if_neg hv, List.filter_cons_of_neg hv]
    exact h

theorem readConfigs_map (hl : '"' ∉ lead) (h : ∀ config ∈ cs, Findable config ∧ Plain config) :
    readConfigs network (cs.map fun config => lead ++ configToJSON config) =
      .ok (rereadAll network cs) := by
  induction cs with
  | nil => rfl
  | cons c cs ih =>
    obtain ⟨hc, hp⟩ := h c List.mem_cons_self
    exact readConfigs_cons hl hc hp (ih fun c hc => h c (List.mem_cons_of_mem _ hc))

theorem readConfigs_arrayJSON (h : ∀ config ∈ configs, Findable config ∧ Plain config) :
    readConfigs network (groups '\x7b' '\x7d' 0 [] (arrayJSON configs)) =
      .ok (rereadAll network configs) := by
  cases configs with
  | nil => rfl
  | cons c cs =>
    obtain ⟨hc, hp⟩ := h c List.mem_cons_self
    have htail : ∀ config ∈ cs, Findable config ∧ Plain config :=
      fun c hc => h c (List.mem_cons_of_mem _ hc)
    rw [arrayJSON_cons, groups_config (by decide) (by decide) hc.interface hp,
      groups_tailJSON htail]
    exact readConfigs_cons (by decide) hc hp (readConfigs_map (by decide) htail)

/-- **Readable streams are read again**, those that are valid. -/
theorem fromJSON_rereadAll (hs : ∀ config ∈ configs, Findable config) (h : Readable configs) :
    fromJSON network (toJSON configs) = .ok (some (rereadAll network configs)) := by
  have hlike := brackets_arrayJSON fun config hc => (hs config hc).interface
  obtain ⟨hlow, hnet⟩ := balanced_iff.mp (hlike.balanced_iff.mpr h.brackets)
  have hi : Inside '[' ']' 1 (arrayJSON configs) :=
    inside_of_pos fun p hp => by
      have := le_low_iff.mp hlow p hp
      omega
  have hclose : streamsContent (toJSON configs) = some (arrayJSON configs) := by
    rw [streamsContent_toJSON]
    exact beforeClose_append (by decide) hi (by omega)
  rw [fromJSON, hclose]
  dsimp only
  rw [readConfigs_arrayJSON fun config hc => ⟨hs config hc, h.plain config hc⟩]
  rfl

/-- **Saved streams that are readable are restored.** -/
theorem fromJSON_toJSON (hs : ∀ config ∈ configs, Storable config) (h : Readable configs) :
    fromJSON network (toJSON configs) = .ok (some (configs.map PersistedStreamConfig.written)) := by
  have hmap : configs.map (reread network) = configs.map PersistedStreamConfig.written :=
    List.map_congr_left fun config hc => reread_of_literal network (hs config hc).interface
  have hvalid : ∀ c ∈ configs.map PersistedStreamConfig.written, c.isValid = true := by
    intro c hc
    obtain ⟨config, hm, rfl⟩ := List.mem_map.mp hc
    exact (hs config hm).valid
  rw [fromJSON_rereadAll (fun config hc => (hs config hc).findable) h, rereadAll, hmap,
    List.filter_eq_self.mpr hvalid]

end Aes67.StreamConfigManager
