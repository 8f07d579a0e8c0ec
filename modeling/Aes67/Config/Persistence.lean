import Aes67.Config.Losses

/-!
# Saved streams read back

* `Restored`: the streams that are read back from what is saved are those that were saved;
* `plain_of_group`: a stream object cut off whole, and read back, was plain;
* `plain_of_read`: streams that are all read back were plain, and all of the array was read;
* **`restored_iff`**: the streams are restored exactly when they are readable.
-/

namespace Aes67.StreamConfigManager

open Sdp

variable {network : NetworkUtils} {config c x : PersistedStreamConfig}
  {configs cs l : List PersistedStreamConfig} {lead p q r s t v w : Text}

/-- The streams read back from what is saved have the fields that are written as they were. -/
def Restored (network : NetworkUtils) (configs : List PersistedStreamConfig) : Prop :=
  ∃ result, fromJSON network (toJSON configs) = .ok (some result) ∧
    result.map PersistedStreamConfig.written = configs.map PersistedStreamConfig.written

/-! ## One stream -/

theorem net_sdpToJSON : net '\x7b' '\x7d' (sdpToJSON config.sdp) =
    net '\x7b' '\x7d' (sdpTexts config.sdp).flatten := by
  have h := (like_sdpBody (o := '\x7b') (d := '\x7d') rfl rfl config.sdp).net_eq
  rw [sdpToJSON, objectJSON_eq, net_cons, net_append, h]
  change 1 + (_ + (-1 + 0)) = _
  omega

theorem net_mappingToJSON : net '\x7b' '\x7d' (mappingToJSON config.mapping) =
    net '\x7b' '\x7d' config.mapping.streamName := by
  have h := (like_mappingBody (o := '\x7b') (d := '\x7d') (Or.inl ⟨rfl, rfl⟩)
    config.mapping).net_eq
  rw [mappingToJSON, objectJSON_eq, net_cons, net_append, h]
  change 1 + (_ + (-1 + 0)) = _
  omega

/-- A stream object that is cut off whole and has no closing brace in its blocks is plain. -/
theorem plain_of_group (hi : Bare config.networkInterface)
    (hin : Inside '\x7b' '\x7d' 1 (objectBody 4 (configEntries config)))
    (hnet : net '\x7b' '\x7d' (objectBody 4 (configEntries config)) = 0)
    (hb : ∀ v ∈ blockTexts config, '\x7d' ∉ v) : Plain config := by
  have hlike := like_configBody (o := '\x7b') (d := '\x7d') rfl rfl hi
  have hlow : 0 ≤ low '\x7b' '\x7d' (objectBody 4 (configEntries config)) := by
    refine le_low_iff.mpr fun p hp => ?_
    have := hin.pos (by decide) (by decide) hp
    omega
  rw [hlike.low_eq, low_append, le_min_iff] at hlow
  rw [hlike.net_eq, net_append, net_append, net_sdpToJSON, net_mappingToJSON] at hnet
  have hs : '\x7d' ∉ (sdpTexts config.sdp).flatten := fun h => by
    obtain ⟨v, hv, hm⟩ := List.mem_flatten.mp h
    exact hb v (List.mem_append_left _ hv) hm
  have hn : '\x7d' ∉ config.mapping.streamName := hb _ (List.mem_append_right _ List.mem_cons_self)
  -- No part lowers the depth and together they do not raise it.
  have h1 : 0 ≤ net '\x7b' '\x7d' config.description := hlow.1.trans low_le_net
  have h2 : 0 ≤ net '\x7b' '\x7d' (sdpTexts config.sdp).flatten := net_nonneg_of_not_mem hs
  have h3 : 0 ≤ net '\x7b' '\x7d' config.mapping.streamName := net_nonneg_of_not_mem hn
  refine ⟨balanced_iff.mpr ⟨hlow.1, by omega⟩, fun v hv => ⟨fun hm => ?_, hb v hv⟩⟩
  rcases List.mem_append.mp hv with hv | hv
  · exact not_mem_of_net_eq_zero hs (by omega) (List.mem_flatten.mpr ⟨v, hv, hm⟩)
  · rw [List.mem_singleton] at hv
    exact not_mem_of_net_eq_zero hn (by omega) (hv ▸ hm)

/-! ## Where an object can end -/

/-- No object ends in a description, or as many streams as are left would not be read behind it. -/
theorem not_cut_in_description (hs : ∀ c' ∈ cs, Storable c') (hl : '\x7d' ∉ lead)
    (hq : lead ++ (openText c ++ jsonEscape c.description) = q ++ '\x7d' :: r)
    (ht : t <+: r ++ (midText c ++ (sdpToJSON c.sdp ++ behindText c (tailJSON cs))))
    (h : read network t = .ok l)
    (hw : l.map PersistedStreamConfig.written = (c :: cs).map PersistedStreamConfig.written) :
    False := by
  have hopen : '\x7d' ∉ lead ++ openText c := by
    rw [List.mem_append, not_or]
    exact ⟨hl, brace_openText⟩
  have hcut : q ++ '\x7d' :: r <+: (lead ++ openText c) ++ jsonEscape c.description := by
    rw [← hq, List.append_assoc]
  rcases prefix_append_cases hcut with ⟨r', hr', -⟩ | ⟨q', rfl, hq'⟩
  · exact hopen (hr' ▸ by simp)
  · have he : jsonEscape c.description = q' ++ '\x7d' :: r := by
      rw [← List.append_assoc, List.append_assoc (lead ++ openText c)] at hq
      exact List.append_cancel_left hq
    have hmem : '\x7d' ∈ c.description := (mem_jsonEscape rfl).mp (he ▸ by simp)
    rcases l with _ | ⟨x, l⟩
    · simp at hw
    · obtain ⟨hx, hl'⟩ := List.cons.inj hw
      have hrest : midText c ++ (sdpToJSON c.sdp ++ behindText c (tailJSON cs)) =
          restText c ++ tailJSON cs := by
        rw [restText_eq, behindText, objectAfter_mapping]
        simp
      rw [hrest] at ht
      have hlost := head_description hs ⟨q' ++ ['\x7d'], by rw [he]; simp⟩ ht h
        (by simpa using congrArg List.length hl')
      have hd : x.written.description = c.written.description :=
        congrArg PersistedStreamConfig.description hx
      change x.description = c.description at hd
      rw [← hd, hlost] at hmem
      cases hmem

/-- An object that ends behind a description ends behind the key of the session block, where the
document has one session block less. -/
theorem behind_midText (hc : Storable c) (h : q ++ '\x7d' :: t <+:
    midText c ++ (sdpToJSON c.sdp ++ behindText c (tailJSON cs))) :
    ∃ q', q = midText c ++ q' ∧
      q' ++ '\x7d' :: t <+: sdpToJSON c.sdp ++ behindText c (tailJSON cs) ∧
      keys "sdp".toList t ≤ cs.length := by
  rcases prefix_append_cases h with ⟨r, hr, -⟩ | ⟨q', rfl, hq'⟩
  · exact absurd (hr ▸ by simp) (brace_midText hc.findable.interface)
  · refine ⟨q', rfl, hq', ?_⟩
    have h1 := keys_le_of_suffix (f := "sdp".toList)
      (show t <:+ q' ++ '\x7d' :: t from ⟨q' ++ ['\x7d'], by simp⟩)
    have h2 := keys_le_of_prefix (f := "sdp".toList) hq'
    rw [behindText, keys_behind, keys_tailJSON] at h2
    exact h1.trans h2

/-- What a stream object that was read from the whole session block and the start of the mapping
block says of the texts in them. -/
theorem texts_of_readFrom (hl : '"' ∉ lead)
    (hq : q ++ ['\x7d'] <+: mappingToJSON c.mapping ++ t)
    (h : ReadFrom (lead ++ (openText c ++ (jsonEscape c.description ++ (midText c ++
      (sdpToJSON c.sdp ++ (joinText ++ (q ++ ['\x7d']))))))) x)
    (hx : x.written = c.written) : ∀ v ∈ blockTexts c, '\x7d' ∉ v := by
  have hopen := openText_midText c
  have e1 : lead ++ (openText c ++ (jsonEscape c.description ++ (midText c ++
      (sdpToJSON c.sdp ++ (joinText ++ (q ++ ['\x7d'])))))) =
      lead ++ (objectBefore 4 (topEntries c) ++ (label "sdp".toList ++
        (sdpToJSON c.sdp ++ (joinText ++ (q ++ ['\x7d']))))) := by
    rw [← List.append_assoc (objectBefore 4 (topEntries c)), ← hopen]
    simp
  have e2 : lead ++ (openText c ++ (jsonEscape c.description ++ (midText c ++
      (sdpToJSON c.sdp ++ (joinText ++ (q ++ ['\x7d'])))))) =
      lead ++ (objectBefore 4 (topEntries c ++ [("sdp".toList, sdpToJSON c.sdp)]) ++
        (label "mapping".toList ++ (q ++ ['\x7d']))) := by
    rw [e1]
    simp [objectBefore, entryJSON, joinText]
  have hsdp := h.sdp
  rw [e1, sdpOf_written hl] at hsdp
  have hmap := h.mapping
  rw [e2, mappingOf_written hl hq (by simp)] at hmap
  have hw1 : x.written.sdp = c.written.sdp := congrArg PersistedStreamConfig.sdp hx
  have hw2 : x.written.mapping = c.written.mapping := congrArg PersistedStreamConfig.mapping hx
  change x.sdp.written = c.sdp.written at hw1
  rw [hsdp] at hw1
  have h1 := sdpTexts_not_mem hw1
  have h2 := streamName_not_mem hmap (congrArg ChannelMapping.streamName hw2)
  intro v hv
  rcases List.mem_append.mp hv with hv | hv
  · exact h1 v hv
  · rw [List.mem_singleton] at hv
    exact hv ▸ h2

/-- A stream object that is read back reaches into the mapping block, and the rest of the streams
are read behind it. -/
theorem reach_mapping (hs : ∀ c' ∈ c :: cs, Storable c') (hl : '"' ∉ lead) (hb : '\x7d' ∉ lead)
    (hp : p ++ '\x7d' :: t <+: lead ++ (configToJSON c ++ tailJSON cs))
    (h : read network (p ++ '\x7d' :: t) = .ok l)
    (hg : groups '\x7b' '\x7d' 0 [] (p ++ '\x7d' :: t) =
      (p ++ ['\x7d']) :: groups '\x7b' '\x7d' 0 [] t)
    (hw : l.map PersistedStreamConfig.written = (c :: cs).map PersistedStreamConfig.written) :
    ∃ q x l', p = lead ++ (openText c ++ (jsonEscape c.description ++ (midText c ++
        (sdpToJSON c.sdp ++ (joinText ++ q))))) ∧
      q ++ '\x7d' :: t <+: mappingToJSON c.mapping ++ (closeText ++ '\x7d' :: tailJSON cs) ∧
      l = x :: l' ∧ ReadFrom (p ++ ['\x7d']) x ∧ read network t = .ok l' := by
  have hc := hs c List.mem_cons_self
  have hlen : l.length = cs.length + 1 := by simpa using congrArg List.length hw
  rw [read_group hg] at h
  rw [stream_eq] at hp
  rcases prefix_append_cases hp with ⟨r, hr, ht⟩ | ⟨q, rfl, hq⟩
  · -- The object ends in the description, before the session block.
    have hkey : keys "sdp".toList (p ++ ['\x7d']) = 0 := by
      have hpre : p ++ ['\x7d'] <+: lead ++ (openText c ++ jsonEscape c.description) :=
        ⟨r, by rw [hr]; simp⟩
      exact Nat.le_zero.mp (keys_openText hl ▸ keys_le_of_prefix hpre)
    cases ho : configFromJSON network (p ++ ['\x7d']) with
    | error e => simp only [ho] at h; cases h
    | ok read =>
      simp only [ho] at h
      cases read with
      | none =>
        exact (not_cut_in_description (fun c' hc' => hs c' (List.mem_cons_of_mem _ hc')) hb hr ht h
          hw).elim
      | some x =>
        have := (readFrom_of_configFromJSON ho).sdp_key
        omega
  · obtain ⟨q', rfl, hq', hkeys⟩ := behind_midText hc hq
    cases ho : configFromJSON network ((lead ++ (openText c ++ jsonEscape c.description)) ++
      (midText c ++ q') ++ ['\x7d']) with
    | error e => simp only [ho] at h; cases h
    | ok read =>
      simp only [ho] at h
      cases read with
      | none =>
        -- A session block is used up, so the streams behind are too few.
        have := length_le_keys h
        omega
      | some x =>
        have hx := readFrom_of_configFromJSON ho
        rcases prefix_append_cases hq' with ⟨r, hr, -⟩ | ⟨q2, rfl, hq2⟩
        · have hpre : (lead ++ (openText c ++ jsonEscape c.description)) ++ (midText c ++ q') ++
              ['\x7d'] <+: lead ++ (openText c ++ (jsonEscape c.description ++ (midText c ++
                sdpToJSON c.sdp))) := ⟨r, by rw [hr]; simp⟩
          have h1 := keys_le_of_prefix (f := "mapping".toList) hpre
          rw [keys_openText_sdp hl] at h1
          have := hx.mapping_key
          omega
        · rw [behindText, objectAfter_mapping, List.append_assoc] at hq2
          rcases prefix_append_cases hq2 with ⟨r, hr, -⟩ | ⟨q3, rfl, hq3⟩
          · exact absurd (hr ▸ by simp) brace_joinText
          · cases hr : StreamConfigManager.read network t with
            | error e => simp only [hr] at h; cases h
            | ok l' =>
              simp only [hr] at h
              cases h
              refine ⟨q3, x, l', by simp, by simpa using hq3, rfl, hx, rfl⟩

/-- An object does not end in its mapping block: the object's own brace is still open there. -/
theorem not_cut_in_mapping (ho : '\x7b' ∉ lead) (hb : '\x7d' ∉ lead) {u : Text}
    (hin : Inside '\x7b' '\x7d' 0 (lead ++ '\x7b' :: (u ++ q)))
    (hd : net '\x7b' '\x7d' (lead ++ '\x7b' :: (u ++ q)) = 1)
    (hn : '\x7d' ∉ c.mapping.streamName) (hq : mappingToJSON c.mapping = q ++ '\x7d' :: r) :
    False := by
  have hbody : '\x7d' ∉ objectBody 6 (mappingEntries c.mapping) :=
    not_mem_objectBody rfl (fun e he => isName_of_mem_mappingNames _
      (mappingEntries_fst ▸ List.mem_map_of_mem he))
      (mappingEntries_not_mem (Or.inr rfl) hn)
  have hcut : q ++ '\x7d' :: r <+: ('\x7b' :: objectBody 6 (mappingEntries c.mapping)) ++ ['\x7d'] :=
    hq ▸ List.prefix_rfl
  rcases prefix_append_cases hcut with ⟨r', hr', -⟩ | ⟨q', rfl, hq'⟩
  · have hmem : '\x7d' ∈ '\x7b' :: objectBody 6 (mappingEntries c.mapping) := hr' ▸ by simp
    simp [hbody] at hmem
  · have hlead := (like_nil ho hb).net_eq
    have he : lead ++ '\x7b' :: (u ++ ('\x7b' :: objectBody 6 (mappingEntries c.mapping) ++ q')) =
        (lead ++ ['\x7b']) ++ (u ++ ('\x7b' :: objectBody 6 (mappingEntries c.mapping) ++ q')) := by
      simp
    have hq0 : q' = [] := by
      have := hq'.length_le
      rw [List.length_append, List.length_cons, List.length_singleton] at this
      exact List.length_eq_zero_iff.mp (by omega)
    rw [he] at hin hd
    have hpos := hin.of_append.2.pos (p := u) (by decide)
      (by rw [net_append, hlead]; decide) (List.prefix_append _ _)
    have hnn : 0 ≤ net '\x7b' '\x7d' (objectBody 6 (mappingEntries c.mapping)) :=
      net_nonneg_of_not_mem hbody
    have hw : weight '\x7b' '\x7d' '\x7b' = 1 := rfl
    rw [net_append, hlead, net_cons, hw, net_nil] at hpos
    rw [hq0, List.append_nil, net_append, net_append, hlead, net_append, net_cons, net_cons, hw,
      net_nil] at hd
    omega

/-- An object does not end behind its own closing brace. -/
theorem not_cut_behind (hs : ∀ c' ∈ cs, Storable c') (h : read network t = .ok l)
    (hw : l.map PersistedStreamConfig.written = cs.map PersistedStreamConfig.written)
    (hq : q ++ '\x7d' :: t <+: tailJSON cs) : False := by
  cases cs with
  | nil =>
    have hmem : '\x7d' ∈ tailJSON [] := hq.subset (by simp)
    exact absurd hmem (by decide)
  | cons c cs =>
    have hlen : l.length = cs.length + 1 := by simpa using congrArg List.length hw
    rw [tailJSON_cons, stream_eq] at hq
    rcases prefix_append_cases hq with ⟨r, hr, ht⟩ | ⟨q', rfl, hq'⟩
    · exact not_cut_in_description (fun c' hc' => hs c' (List.mem_cons_of_mem _ hc')) (by decide)
        hr ht h hw
    · obtain ⟨q2, -, -, hkeys⟩ := behind_midText (hs c List.mem_cons_self) hq'
      have := length_le_keys h
      omega

/-- **A stream object that is read back was cut off whole**, and the stream was plain. -/
theorem first_object (hs : ∀ c' ∈ c :: cs, Storable c') (hl : '"' ∉ lead) (ho : '\x7b' ∉ lead)
    (hb : '\x7d' ∉ lead) (hp : p ++ '\x7d' :: t <+: lead ++ (configToJSON c ++ tailJSON cs))
    (h : read network (p ++ '\x7d' :: t) = .ok l)
    (hg : groups '\x7b' '\x7d' 0 [] (p ++ '\x7d' :: t) =
      (p ++ ['\x7d']) :: groups '\x7b' '\x7d' 0 [] t)
    (hin : Inside '\x7b' '\x7d' 0 p) (hd : net '\x7b' '\x7d' p = 1)
    (hw : l.map PersistedStreamConfig.written = (c :: cs).map PersistedStreamConfig.written) :
    Plain c ∧ p ++ ['\x7d'] = lead ++ configToJSON c ∧ t <+: tailJSON cs ∧
      ∃ x l', l = x :: l' ∧ read network t = .ok l' := by
  have hc := hs c List.mem_cons_self
  obtain ⟨q, x, l', rfl, hq, rfl, hx, ht⟩ := reach_mapping hs hl hb hp h hg hw
  obtain ⟨hxw, hlw⟩ := List.cons.inj hw
  have htexts : ∀ v ∈ blockTexts c, '\x7d' ∉ v := by
    refine texts_of_readFrom (q := q) (x := x) hl (List.IsPrefix.trans ⟨t, ?_⟩ hq) ?_ hxw
    · simp
    · simpa using hx
  rcases prefix_append_cases hq with ⟨r, hr, -⟩ | ⟨q5, rfl, hq5⟩
  · have hopen : ∃ u, openText c = '\x7b' :: u := ⟨_, rfl⟩
    obtain ⟨u, hu⟩ := hopen
    have he : lead ++ (openText c ++ (jsonEscape c.description ++ (midText c ++
        (sdpToJSON c.sdp ++ (joinText ++ q))))) = lead ++ '\x7b' :: ((u ++ (jsonEscape c.description ++
          (midText c ++ (sdpToJSON c.sdp ++ joinText)))) ++ q) := by
      rw [hu]
      simp
    rw [he] at hin hd
    exact (not_cut_in_mapping ho hb hin hd
      (htexts _ (List.mem_append_right _ List.mem_cons_self)) hr).elim
  · rcases prefix_append_cases hq5 with ⟨r, hr, -⟩ | ⟨q6, rfl, hq6⟩
    · exact absurd (hr ▸ by simp) brace_closeText
    · rcases q6 with _ | ⟨b, q7⟩
      · have hwhole : lead ++ (openText c ++ (jsonEscape c.description ++ (midText c ++
            (sdpToJSON c.sdp ++ (joinText ++ (mappingToJSON c.mapping ++ (closeText ++ []))))))) ++
            ['\x7d'] = lead ++ configToJSON c := by
          rw [configToJSON_open, restText_eq]
          simp
        have hbody : lead ++ (openText c ++ (jsonEscape c.description ++ (midText c ++
            (sdpToJSON c.sdp ++ (joinText ++ (mappingToJSON c.mapping ++ (closeText ++ []))))))) =
            (lead ++ ['\x7b']) ++ objectBody 4 (configEntries c) := by
          rw [← List.append_left_inj ['\x7d']]
          rw [hwhole, configToJSON, objectJSON_eq]
          simp
        have hlead := (like_nil ho hb).net_eq
        rw [hbody] at hin hd
        have hin' := hin.of_append.2
        rw [net_append, hlead] at hin'
        rw [net_append, net_append, hlead] at hd
        change (0 + 1 : ℤ) + _ = 1 at hd
        refine ⟨plain_of_group hc.findable.interface hin' (by omega) htexts, hwhole, ?_, x, l', rfl, ht⟩
        exact (List.cons_prefix_cons.mp hq6).2
      · rw [List.cons_append, List.cons_prefix_cons] at hq6
        exact (not_cut_behind (fun c' hc' => hs c' (List.mem_cons_of_mem _ hc')) ht hlw
          hq6.2).elim

/-- The streams of the array behind the first. -/
def rows (cs : List PersistedStreamConfig) : Text :=
  cs.flatMap fun config => ",\n    ".toList ++ configToJSON config

/-- **Streams that are all read back were plain**, and the text they were read from has all of
them. -/
theorem plain_of_read (hs : ∀ c' ∈ c :: cs, Storable c') (hl : '"' ∉ lead) (ho : '\x7b' ∉ lead)
    (hb : '\x7d' ∉ lead) (hp : p <+: lead ++ (configToJSON c ++ tailJSON cs))
    (h : read network p = .ok l)
    (hw : l.map PersistedStreamConfig.written = (c :: cs).map PersistedStreamConfig.written) :
    (∀ c' ∈ c :: cs, Plain c') ∧ lead ++ (configToJSON c ++ rows cs) <+: p := by
  induction cs generalizing c lead p l with
  | nil =>
    rcases groups_cases (o := '\x7b') (c := '\x7d') (by decide) 0 [] p with he |
      ⟨p, t, rfl, hin, hd, hg⟩
    · rw [read, he] at h
      cases h
      simp at hw
    · obtain ⟨hplain, hwhole, -, -⟩ := first_object hs hl ho hb hp h hg hin (by omega) hw
      refine ⟨by simpa using hplain, ⟨t, ?_⟩⟩
      rw [show rows [] = [] from rfl, List.append_nil, ← hwhole]
      simp
  | cons c2 cs ih =>
    rcases groups_cases (o := '\x7b') (c := '\x7d') (by decide) 0 [] p with he |
      ⟨p, t, rfl, hin, hd, hg⟩
    · rw [read, he] at h
      cases h
      simp at hw
    · obtain ⟨hplain, hwhole, ht, x, l', rfl, hr⟩ :=
        first_object hs hl ho hb hp h hg hin (by omega) hw
      have hs' : ∀ c' ∈ c2 :: cs, Storable c' := fun c' hc' => hs c' (List.mem_cons_of_mem _ hc')
      rw [tailJSON_cons] at ht
      obtain ⟨hrest, ⟨u, hu⟩⟩ := ih hs' (by decide) (by decide) (by decide) ht hr
        (List.cons.inj hw).2
      refine ⟨List.forall_mem_cons.mpr ⟨hplain, hrest⟩, ⟨u, ?_⟩⟩
      have hrows : rows (c2 :: cs) = ",\n    ".toList ++ (configToJSON c2 ++ rows cs) := by
        simp [rows]
      rw [hrows, ← hu, ← List.append_assoc lead, ← hwhole]
      simp

/-! ## The document -/

theorem arrayJSON_rows : arrayJSON (c :: cs) =
    ("\n    ".toList ++ (configToJSON c ++ rows cs)) ++ "\n  ".toList := by
  rw [arrayJSON_cons, tailJSON, rows]
  simp

/-- The part of the document the reader takes for the array, up to a bracket in it or to its end. -/
theorem streamsContent_cases (h : streamsContent (toJSON configs) = some p) :
    (p ++ [']'] <+: arrayJSON configs ∨ p = arrayJSON configs) ∧ Inside '[' ']' 1 p ∧
      net '[' ']' p = 0 := by
  rw [streamsContent_toJSON] at h
  obtain ⟨t, ht, hin, hd⟩ := beforeClose_eq_some (by decide) h
  refine ⟨?_, hin, by omega⟩
  have hp : p ++ [']'] <+: arrayJSON configs ++ "]\n\x7d".toList :=
    ⟨t, by rw [ht]; simp⟩
  rcases snoc_prefix_append hp with h1 | ⟨q, rfl, hq⟩
  · exact Or.inl h1
  · rcases q with _ | ⟨b, q⟩
    · exact Or.inr (List.append_nil _)
    · -- The document has no bracket behind the one that closes the array.
      have hq' : q ++ [']'] <+: "\n\x7d".toList := (List.cons_prefix_cons.mp hq).2
      exact absurd (hq'.subset (List.mem_append_right q List.mem_cons_self)) (by decide)

/-- **Streams that are restored were readable.** -/
theorem readable_of_restored (hs : ∀ c ∈ configs, Storable c) (h : Restored network configs) :
    Readable configs := by
  obtain ⟨result, hr, hw⟩ := h
  rw [fromJSON] at hr
  cases hcont : streamsContent (toJSON configs) with
  | none => simp only [hcont] at hr; cases hr
  | some p =>
    simp only [hcont] at hr
    cases hread : read network p with
    | error e => rw [read] at hread; rw [hread] at hr; cases hr
    | ok l =>
      rw [read] at hread
      rw [hread] at hr
      cases hr
      obtain ⟨hp, hin, hnet⟩ := streamsContent_cases hcont
      have hpre : p <+: arrayJSON configs := by
        rcases hp with hp | rfl
        · exact (List.prefix_append p [']']).trans hp
        · exact List.prefix_rfl
      have hall : (∀ c ∈ configs, Plain c) ∧ p = arrayJSON configs := by
        cases configs with
        | nil =>
          refine ⟨by simp, hp.resolve_left fun h => ?_⟩
          have hmem : ']' ∈ arrayJSON [] := h.subset (List.mem_append_right p List.mem_cons_self)
          exact absurd hmem (by decide)
        | cons c cs =>
          have hpre' : p <+: "\n    ".toList ++ (configToJSON c ++ tailJSON cs) :=
            arrayJSON_cons ▸ hpre
          obtain ⟨hplain, u, hu⟩ := plain_of_read hs (by decide) (by decide) (by decide) hpre'
            hread hw
          refine ⟨hplain, hp.resolve_left fun h => ?_⟩
          -- Behind the streams the array has no bracket.
          rw [arrayJSON_rows, ← hu, List.append_assoc, List.prefix_append_right_inj] at h
          have hmem : ']' ∈ "\n  ".toList := h.subset (List.mem_append_right u List.mem_cons_self)
          exact absurd hmem (by decide)
      obtain ⟨hplain, rfl⟩ := hall
      refine ⟨hplain, ?_⟩
      have hlike := brackets_arrayJSON fun c hc => (hs c hc).findable.interface
      refine hlike.balanced_iff.mp (balanced_iff.mpr ⟨le_low_iff.mpr fun q hq => ?_, hnet⟩)
      have := hin.pos (by decide) (by decide) hq
      omega

/-- **The saved streams are restored exactly when they are readable.** -/
theorem restored_iff (network : NetworkUtils) (configs : List PersistedStreamConfig)
    (hs : ∀ config ∈ configs, Storable config) :
    Restored network configs ↔ Readable configs := by
  refine ⟨readable_of_restored hs, fun h => ⟨_, fromJSON_toJSON hs h, ?_⟩⟩
  rw [List.map_map]
  rfl

section Examples

/-- A host with no interface of its own. -/
def noInterfaces : NetworkUtils := ⟨fun _ => [], []⟩

/-- A stereo stream with a session name off the network. -/
def named (name : String) : PersistedStreamConfig where
  sdp := { sessionName := name.toList, connectionAddress := "239.69.1.1".toList }
  mapping := { streamID := ⟨1, StreamID.one_lt⟩, streamChannelCount := 2, deviceChannelCount := 2 }
  networkInterface := "192.168.1.10".toList

theorem interface_named (name : String) : IPv4Literal (named name).networkInterface := by
  show IPv4Literal "192.168.1.10".toList
  exact ⟨192, 168, 1, 10, by decide⟩

theorem restored_named :
    Restored noInterfaces [named "\"sdp\": []", named "\\"] := by
  refine (restored_iff noInterfaces _ ?_).mpr ⟨by decide, by decide +kernel⟩
  simp only [List.forall_mem_cons, List.not_mem_nil, false_imp_iff, implies_true, and_true]
  exact ⟨⟨by decide, interface_named _, by decide, by decide⟩,
    ⟨by decide, interface_named _, by decide, by decide⟩⟩

/-- A closing brace in the name ends the block the reader takes the session from. -/
theorem not_restored_brace : Storable (named "A\x7d") ∧
    ¬ Restored noInterfaces [named "A\x7d"] := by
  have hs : Storable (named "A\x7d") := ⟨by decide, interface_named _, by decide, by decide⟩
  refine ⟨hs, fun h => ?_⟩
  have hreadable := readable_of_restored (List.forall_mem_singleton.mpr hs) h
  exact absurd hreadable (by decide)

end Examples

end Aes67.StreamConfigManager
