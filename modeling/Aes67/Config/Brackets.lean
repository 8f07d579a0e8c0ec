import Aes67.Config.Blocks

/-!
# The braces and brackets of the document

Text is written into the document with its braces and brackets as they are, so the marks the reader
counts are those of the layout and those of the texts, in the order of writing.

* `Plain`: what a stream's texts may have of braces;
* `like_sdpToJSON`, `like_mappingToJSON`, `like_configToJSON`: the marks of the parts;
* `like_arrayJSON`: the brackets of the whole array are those of its texts;
* **`groups_config`**: the reader cuts a plain stream off whole.
-/

namespace Aes67.StreamConfigManager

open Sdp

variable {sdp : SDPSession} {mapping : ChannelMapping} {config : PersistedStreamConfig}
  {lead s t v : Text} {o d : Char} {configs : List PersistedStreamConfig}

/-- What the reader's brace counting asks of a stream: the description's braces close each other,
and no text of the blocks has one. -/
structure Plain (config : PersistedStreamConfig) : Prop where
  description : Balanced '\x7b' '\x7d' config.description
  texts : ∀ v ∈ blockTexts config, '\x7b' ∉ v ∧ '\x7d' ∉ v

instance : Decidable (Plain config) :=
  decidable_of_iff (Balanced '\x7b' '\x7d' config.description ∧
    ∀ v ∈ blockTexts config, '\x7b' ∉ v ∧ '\x7d' ∉ v) ⟨fun h => ⟨h.1, h.2⟩, fun h => ⟨h.1, h.2⟩⟩

/-- The texts of a stream in the order they are written. -/
def writtenText (config : PersistedStreamConfig) : Text :=
  config.description ++ (blockTexts config).flatten

theorem isDigit_of_isBracket (h : isBracket d = true) : d.isDigit = false := by
  rw [isBracket, decide_eq_true_iff] at h
  rcases h with rfl | rfl | rfl | rfl <;> rfl

theorem like_quote (ho : isBracket o = true) (hd : isBracket d = true) (v : Text) :
    Like o d (quote v) v := by
  have hq : ∀ c, isBracket c = true → c ∉ ['"'] := by
    rintro c hc h
    rw [List.mem_singleton.mp h] at hc
    exact absurd hc (by decide)
  have h1 := like_nil (hq o ho) (hq d hd)
  have h := (h1.append (like_jsonEscape ho hd v)).append h1
  rwa [List.append_nil] at h

theorem like_showNat (ho : isBracket o = true) (hd : isBracket d = true) (n : ℕ) :
    Like o d (showNat n) [] :=
  like_nil (isDigit_ne (isDigit_of_isBracket ho)) (isDigit_ne (isDigit_of_isBracket hd))

theorem like_showBool (ho : isBracket o = true) (hd : isBracket d = true) (b : Bool) :
    Like o d (showBool b) [] := by
  have hb : ∀ c, isBracket c = true → c ∉ showBool b := by
    refine fun c hc => not_mem_showBool ?_ b
    rw [isBracket, decide_eq_true_iff] at hc
    rcases hc with rfl | rfl | rfl | rfl <;> decide
  exact like_nil (hb o ho) (hb d hd)

theorem like_showInt (ho : isBracket o = true) (hd : isBracket d = true) (z : ℤ) :
    Like o d (showInt z) [] := by
  have hz : ∀ c, isBracket c = true → c ∉ showInt z := by
    refine fun c hc => not_mem_showInt (isDigit_of_isBracket hc) ?_
    rintro rfl
    exact absurd hc (by decide)
  exact like_nil (hz o ho) (hz d hd)

/-! ## The blocks -/

theorem like_sdpBody (ho : isBracket o = true) (hd : isBracket d = true) (sdp : SDPSession) :
    Like o d (objectBody 6 (sdpEntries sdp)) (sdpTexts sdp).flatten := by
  have hn : ∀ e ∈ sdpEntries sdp, IsName e.1 := fun e he =>
    isName_of_mem_sdpNames _ (sdpEntries_fst ▸ List.mem_map_of_mem he)
  have q := like_quote ho hd
  have n := like_showNat ho hd
  refine (like_objectBody ho hd hn).trans ?_
  exact (q _).append ((q _).append ((n _).append ((n _).append ((q _).append ((q _).append
    ((q _).append ((n _).append ((n _).append ((n _).append ((q _).append ((n _).append
    ((n _).append ((n _).append ((n _).append ((q _).append ((like_showInt ho hd _).append
    ((q _).append ((q _).append ((q _).append (Like.refl []))))))))))))))))))))

theorem like_routes (h : o = '\x7b' ∧ d = '\x7d' ∨ o = '[' ∧ d = ']') (routes : List ChannelRoute) :
    Like o d ('[' :: routeList routes ++ [']']) [] := by
  rcases h with ⟨rfl, rfl⟩ | ⟨rfl, rfl⟩
  · have h1 := not_mem_routeList (d := '\x7b') rfl (by decide) routes
    have h2 := not_mem_routeList (d := '\x7d') rfl (by decide) routes
    exact like_nil (by simp [h1]) (by simp [h2])
  · exact like_pair (by decide) (not_mem_routeList rfl (by decide) routes)
      (not_mem_routeList rfl (by decide) routes)

theorem like_mappingBody (h : o = '\x7b' ∧ d = '\x7d' ∨ o = '[' ∧ d = ']')
    (mapping : ChannelMapping) :
    Like o d (objectBody 6 (mappingEntries mapping)) mapping.streamName := by
  have hb : isBracket o = true ∧ isBracket d = true := by
    rcases h with ⟨rfl, rfl⟩ | ⟨rfl, rfl⟩ <;> exact ⟨rfl, rfl⟩
  have hn : ∀ e ∈ mappingEntries mapping, IsName e.1 := fun e he =>
    isName_of_mem_mappingNames _ (mappingEntries_fst ▸ List.mem_map_of_mem he)
  have n := like_showNat hb.1 hb.2
  have hid : Like o d ('"' :: mapping.streamID.toString ++ ['"']) [] := by
    rw [quote_toString]
    exact like_nil (not_mem_toString hb.1 _) (not_mem_toString hb.2 _)
  have hall := hid.append ((like_quote hb.1 hb.2 mapping.streamName).append
    ((n mapping.streamChannelCount).append ((n mapping.streamChannelOffset).append
    ((n mapping.deviceChannelStart).append ((n mapping.deviceChannelCount).append
    ((like_routes h mapping.routes).append (Like.refl [])))))))
  refine (like_objectBody hb.1 hb.2 hn).trans (hall.trans ?_)
  simpa using Like.refl mapping.streamName

/-- The marks of a stream object's body: the description, and the two blocks in their braces. -/
theorem like_configBody (ho : isBracket o = true) (hd : isBracket d = true)
    (h : Bare config.networkInterface) :
    Like o d (objectBody 4 (configEntries config))
      (config.description ++ (sdpToJSON config.sdp ++ mappingToJSON config.mapping)) := by
  have hn : ∀ e ∈ configEntries config, IsName e.1 := fun e he =>
    isName_of_mem_configNames _ (configEntries_fst ▸ List.mem_map_of_mem he)
  have n := like_showNat ho hd
  have b := like_showBool ho hd
  have hi : Like o d (quote config.networkInterface) [] :=
    (like_quote ho hd _).trans (like_nil (h _ ho) (h _ hd))
  have hall := (b config.enabled).append ((b config.isTransmit).append
    ((like_quote ho hd config.description).append
    ((n config.createdTimestamp.toNat).append ((n config.modifiedTimestamp.toNat).append
    ((n config.jitterBufferDepth.toNat).append (hi.append
    ((Like.refl (sdpToJSON config.sdp)).append
    ((Like.refl (mappingToJSON config.mapping)).append (Like.refl [])))))))))
  refine (like_objectBody ho hd hn).trans (hall.trans ?_)
  simpa using Like.refl _

/-! ## Braces -/

/-- The braces of a stream object's body. -/
theorem braces_configBody (h : Bare config.networkInterface) (hp : Plain config) :
    Like '\x7b' '\x7d' (objectBody 4 (configEntries config)) config.description := by
  have hs : ∀ c, (∀ v ∈ blockTexts config, c ∉ v) → c ∉ (sdpTexts config.sdp).flatten ∧
      c ∉ config.mapping.streamName := by
    refine fun c hc => ⟨fun hm => ?_, hc _ (List.mem_append_right _ List.mem_cons_self)⟩
    obtain ⟨v, hv, hcv⟩ := List.mem_flatten.mp hm
    exact hc v (List.mem_append_left _ hv) hcv
  have h1 := hs '\x7b' fun v hv => (hp.texts v hv).1
  have h2 := hs '\x7d' fun v hv => (hp.texts v hv).2
  have wrap : ∀ body : Text, Like '\x7b' '\x7d' body [] →
      Like '\x7b' '\x7d' ('\x7b' :: (body ++ ['\x7d'])) [] := by
    intro body hb
    have := ((Like.refl ['\x7b']).append hb).append (Like.refl ['\x7d'])
    exact this.trans ⟨rfl, rfl⟩
  have hsdp : Like '\x7b' '\x7d' (sdpToJSON config.sdp) [] :=
    wrap _ ((like_sdpBody rfl rfl _).trans (like_nil h1.1 h2.1))
  have hmap : Like '\x7b' '\x7d' (mappingToJSON config.mapping) [] :=
    wrap _ ((like_mappingBody (Or.inl ⟨rfl, rfl⟩) _).trans (like_nil h1.2 h2.2))
  have hall := (Like.refl config.description).append (hsdp.append hmap)
  rw [List.append_nil, List.append_nil] at hall
  exact (like_configBody rfl rfl h).trans hall

/-- **A plain stream is cut off whole.** -/
theorem groups_config (ho : '\x7b' ∉ lead) (hc : '\x7d' ∉ lead)
    (h : Bare config.networkInterface) (hp : Plain config) :
    groups '\x7b' '\x7d' 0 [] (lead ++ (configToJSON config ++ t)) =
      (lead ++ configToJSON config) :: groups '\x7b' '\x7d' 0 [] t := by
  have hbody := braces_configBody h hp
  obtain ⟨hlow, hnet⟩ := balanced_iff.mp hp.description
  have hi := inside_open (by decide) ho hc (hbody.low_eq.trans_ge hlow)
  have he : lead ++ (configToJSON config ++ t) =
      (lead ++ '\x7b' :: objectBody 4 (configEntries config)) ++ '\x7d' :: t := by
    rw [configToJSON, objectJSON_eq]
    simp
  have hd : (0 : ℤ) + net '\x7b' '\x7d' (lead ++ '\x7b' :: objectBody 4 (configEntries config)) =
      1 := by
    rw [net_append, (like_nil ho hc).net_eq, net_cons, hbody.net_eq, hnet]
    rfl
  rw [he, groups_group (by decide) hi hd, configToJSON, objectJSON_eq]
  simp

/-! ## Brackets -/

theorem brackets_configToJSON (h : Bare config.networkInterface) :
    Like '[' ']' (configToJSON config) (writtenText config) := by
  have wrap : ∀ body v : Text, Like '[' ']' body v →
      Like '[' ']' ('\x7b' :: (body ++ ['\x7d'])) v := by
    intro body v hb
    have h1 := like_nil (o := '[') (c := ']') (s := ['\x7b']) (by decide) (by decide)
    have h2 := like_nil (o := '[') (c := ']') (s := ['\x7d']) (by decide) (by decide)
    have := (h1.append hb).append h2
    rwa [List.append_nil] at this
  have hsdp : Like '[' ']' (sdpToJSON config.sdp) (sdpTexts config.sdp).flatten :=
    wrap _ _ (like_sdpBody rfl rfl _)
  have hmap : Like '[' ']' (mappingToJSON config.mapping) config.mapping.streamName :=
    wrap _ _ (like_mappingBody (Or.inr ⟨rfl, rfl⟩) _)
  have hall := (Like.refl config.description).append (hsdp.append hmap)
  refine wrap _ _ ((like_configBody rfl rfl h).trans ?_)
  simpa [writtenText, blockTexts] using hall

/-- The brackets between those of the array are the brackets of the texts. -/
theorem brackets_arrayJSON (h : ∀ config ∈ configs, Bare config.networkInterface) :
    Like '[' ']' (arrayJSON configs) (configs.flatMap writtenText) := by
  have plain : ∀ s : Text, '[' ∉ s → ']' ∉ s → Like '[' ']' s [] := fun _ h1 h2 => like_nil h1 h2
  have rows : Like '[' ']' (configs.map fun config => "    ".toList ++ configToJSON config).flatten
      (configs.flatMap writtenText) := by
    induction configs with
    | nil => exact Like.refl []
    | cons config configs ih =>
      have h1 := (plain "    ".toList (by decide) (by decide)).append
        (brackets_configToJSON (h config List.mem_cons_self))
      exact h1.append (ih fun c hc => h c (List.mem_cons_of_mem _ hc))
  have hsep := plain ",\n".toList (by decide) (by decide)
  have hall := ((plain ['\n'] (by decide) (by decide)).append
    ((like_intercalate hsep _).trans rows)).append
    (plain "\n  ".toList (by decide) (by decide))
  rw [List.nil_append, List.append_nil] at hall
  exact hall

end Aes67.StreamConfigManager
