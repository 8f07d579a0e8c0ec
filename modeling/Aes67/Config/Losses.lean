import Aes67.Config.Document

/-!
# What a misplaced mark costs

Every stream that is read back takes a session block and a mapping block of its own, and the
document has one of each a stream. So a stream object that ends where it should not costs a stream,
or a field of one.

* `length_le_keys`: at most as many streams are read as the text has session blocks;
* `read_cons`: the first stream read, and the text behind its object;
* `keys_stream`, `keys_tailJSON`: the session blocks of the document;
* **`head_description`**: behind a cut in a description that description is lost.
-/

namespace Aes67.StreamConfigManager

open Sdp

variable {network : NetworkUtils} {config c x : PersistedStreamConfig}
  {cs l : List PersistedStreamConfig} {f lead o p q s t v w : Text} {value : Text → Option Text}

/-! ## Streams read -/

/-- What a stream that is read back was made from. -/
structure ReadFrom (o : Text) (x : PersistedStreamConfig) : Prop where
  sdp : x.sdp = sdpOf o
  mapping : mappingOf o = .ok x.mapping
  description : x.description = (extractStringField o "description".toList).getD []
  valid : x.isValid = true

theorem readFrom_of_configFromJSON (h : configFromJSON network o = .ok (some x)) :
    ReadFrom o x := by
  rw [configFromJSON] at h
  cases hm : mappingOf o with
  | error e => rw [hm] at h; cases h
  | ok mapping =>
    rw [hm] at h
    simp only [Except.map, Except.ok.injEq] at h
    split at h
    · next hv =>
      cases h
      exact ⟨rfl, hm, rfl, hv⟩
    · cases h

/-- A stream that is read back has a session block. -/
theorem ReadFrom.sdp_key (h : ReadFrom o x) : 0 < keys "sdp".toList o := by
  refine keys_pos_of_searchField fun hs : searchField _ blockValue o = none => ?_
  have hx : x.sdp = {} := by rw [h.sdp, sdpOf, hs]
  have hv := h.valid
  rw [PersistedStreamConfig.isValid, hx, Bool.and_eq_true] at hv
  exact absurd hv.1 (by decide)

/-- A stream that is read back has a mapping block. -/
theorem ReadFrom.mapping_key (h : ReadFrom o x) : 0 < keys "mapping".toList o := by
  refine keys_pos_of_searchField fun hs : searchField _ blockValue o = none => ?_
  have hx : x.mapping = {} := by
    have := h.mapping
    rw [mappingOf, hs] at this
    exact (Except.ok.inj this).symm
  have hv := h.valid
  rw [PersistedStreamConfig.isValid, hx, Bool.and_eq_true] at hv
  exact absurd hv.2 (by decide)

/-- A session that is read has no field but those that are written. -/
theorem ReadFrom.written (h : ReadFrom o x) : x.sdp.written = x.sdp := by
  rw [h.sdp, sdpOf]
  split <;> rfl

theorem ReadFrom.fits (h : ReadFrom o x) : Fits x.mapping := by
  have hm := h.mapping
  rw [mappingOf] at hm
  split at hm
  · exact fits_of_mappingFromJSON hm
  · rw [← Except.ok.inj hm]
    exact ⟨by decide, by decide⟩

theorem exists_readFrom {objects : List Text} (h : readConfigs network objects = .ok l) :
    ∀ x ∈ l, ∃ o, ReadFrom o x := by
  induction objects generalizing l with
  | nil =>
    cases h
    exact fun x hx => absurd hx List.not_mem_nil
  | cons object objects ih =>
    rw [readConfigs] at h
    cases ho : configFromJSON network object with
    | error e => simp only [ho] at h; cases h
    | ok found =>
      cases found with
      | none =>
        simp only [ho] at h
        exact ih h
      | some y =>
        cases hr : readConfigs network objects with
        | error e => simp only [ho, hr] at h; cases h
        | ok rest =>
          simp only [ho, hr] at h
          cases h
          exact List.forall_mem_cons.mpr ⟨⟨object, readFrom_of_configFromJSON ho⟩, ih hr⟩

/-- Every stream that a file gives was made from one of its objects. -/
theorem exists_readFrom_of_fromJSON {json : Text} (h : fromJSON network json = .ok (some l)) :
    ∀ x ∈ l, ∃ o, ReadFrom o x := by
  rw [fromJSON] at h
  split at h
  · cases h
  · next content _ =>
    cases hr : readConfigs network (groups '\x7b' '\x7d' 0 [] content) with
    | error e => rw [hr] at h; cases h
    | ok configs =>
      rw [hr] at h
      cases h
      exact exists_readFrom hr

/-- The streams read from a text. -/
def read (network : NetworkUtils) (s : Text) : Except Thrown (List PersistedStreamConfig) :=
  readConfigs network (groups '\x7b' '\x7d' 0 [] s)

theorem read_group (h : groups '\x7b' '\x7d' 0 [] s = o :: groups '\x7b' '\x7d' 0 [] t) :
    read network s =
      match configFromJSON network o with
      | .error thrown => .error thrown
      | .ok none => read network t
      | .ok (some config) => (read network t).map (config :: ·) := by
  rw [read, h, readConfigs]
  rfl

/-- **The streams are bounded by the session blocks.** -/
theorem length_le_keys (h : read network s = .ok l) : l.length ≤ keys "sdp".toList s := by
  obtain ⟨n, hn⟩ : ∃ n, s.length = n := ⟨_, rfl⟩
  induction n using Nat.strong_induction_on generalizing s l with
  | _ n ih =>
    rcases groups_cases (o := '\x7b') (c := '\x7d') (by decide) 0 [] s with he |
      ⟨p, t, rfl, -, -, he⟩
    · rw [read, he] at h
      cases h
      exact Nat.zero_le _
    · rw [List.nil_append] at he
      have hadd := keys_add_le (f := "sdp".toList) (p ++ ['\x7d']) t
      rw [List.append_assoc, List.singleton_append] at hadd
      have hlt : t.length < n := by
        rw [← hn]
        simp
        omega
      rw [read_group he] at h
      cases ho : configFromJSON network (p ++ ['\x7d']) with
      | error e => simp only [ho] at h; cases h
      | ok read =>
        simp only [ho] at h
        cases read with
        | none =>
          have := ih _ hlt h rfl
          omega
        | some x =>
          have hx := (readFrom_of_configFromJSON ho).sdp_key
          cases hr : StreamConfigManager.read network t with
          | error e => simp only [hr] at h; cases h
          | ok l' =>
            simp only [hr] at h
            cases h
            have := ih _ hlt hr rfl
            rw [List.length_cons]
            omega

/-- The first stream read: what stands before its object and in it, and what is read behind. -/
theorem read_cons (h : read network s = .ok (x :: l)) :
    ∃ u p t, s = u ++ (p ++ '\x7d' :: t) ∧ ReadFrom (p ++ ['\x7d']) x ∧ read network t = .ok l := by
  obtain ⟨n, hn⟩ : ∃ n, s.length = n := ⟨_, rfl⟩
  induction n using Nat.strong_induction_on generalizing s with
  | _ n ih =>
    rcases groups_cases (o := '\x7b') (c := '\x7d') (by decide) 0 [] s with he |
      ⟨p, t, rfl, -, -, he⟩
    · rw [read, he] at h
      cases h
    · rw [List.nil_append] at he
      have hlt : t.length < n := by
        rw [← hn]
        simp
        omega
      rw [read_group he] at h
      cases ho : configFromJSON network (p ++ ['\x7d']) with
      | error e => simp only [ho] at h; cases h
      | ok read =>
        simp only [ho] at h
        cases read with
        | none =>
          obtain ⟨u, p', t', rfl, hx, hl⟩ := ih _ hlt h rfl
          exact ⟨p ++ '\x7d' :: u, p', t', by simp, hx, hl⟩
        | some y =>
          cases hr : StreamConfigManager.read network t with
          | error e => simp only [hr] at h; cases h
          | ok l' =>
            simp only [hr] at h
            cases h
            exact ⟨[], p, t, rfl, readFrom_of_configFromJSON ho, hr⟩

/-! ## The parts of a stream object -/

/-- A stream object up to the text of its description. -/
def openText (config : PersistedStreamConfig) : Text :=
  objectBefore 4 ((configEntries config).take 2) ++ label "description".toList ++ ['"']

/-- A stream object from the end of its description. -/
def restText (config : PersistedStreamConfig) : Text :=
  '"' :: objectAfter 4 ((configEntries config).drop 3)

/-- A stream object from the end of its description to its session block. -/
def midText (config : PersistedStreamConfig) : Text :=
  '"' :: ((topEntries config).drop 3).flatMap (fun entry => ',' :: '\n' :: entryJSON 6 entry) ++
    ',' :: '\n' :: List.replicate 6 ' ' ++ label "sdp".toList

/-- What stands between the blocks. -/
def joinText : Text := ',' :: '\n' :: List.replicate 6 ' ' ++ label "mapping".toList

/-- A stream object behind its mapping block. -/
def closeText : Text := '\n' :: List.replicate 4 ' '

theorem configToJSON_open (config : PersistedStreamConfig) : configToJSON config =
    openText config ++ (jsonEscape config.description ++ restText config) := by
  have h := objectJSON_split 4 ((configEntries config).take 2) ((configEntries config).drop 3)
    ("description".toList, quote config.description)
  refine Eq.trans (Eq.trans rfl h) ?_
  simp [openText, restText, quote]

theorem objectAfter_mapping : objectAfter 4 [("mapping".toList, mappingToJSON config.mapping)] =
    joinText ++ (mappingToJSON config.mapping ++ (closeText ++ ['\x7d'])) := by
  simp [objectAfter, joinText, closeText, entryJSON]

theorem restText_eq : restText config = midText config ++ (sdpToJSON config.sdp ++
    (joinText ++ (mappingToJSON config.mapping ++ (closeText ++ ['\x7d'])))) := by
  have h : (configEntries config).drop 3 = (topEntries config).drop 3 ++
      [("sdp".toList, sdpToJSON config.sdp), ("mapping".toList, mappingToJSON config.mapping)] :=
    rfl
  rw [restText, h, ← objectAfter_mapping]
  simp [midText, objectAfter, entryJSON]

theorem configToJSON_sdp : configToJSON config = objectBefore 4 (topEntries config) ++
    (label "sdp".toList ++ (sdpToJSON config.sdp ++
      objectAfter 4 [("mapping".toList, mappingToJSON config.mapping)])) :=
  objectJSON_split 4 (topEntries config) [("mapping".toList, mappingToJSON config.mapping)]
    ("sdp".toList, sdpToJSON config.sdp)

theorem brace_openText : '\x7d' ∉ openText config := by
  have h := not_mem_showBool (d := '\x7d') (by decide)
  simp [openText, configEntries, objectBefore, entryJSON, label, h]

theorem brace_midText (h : Bare config.networkInterface) : '\x7d' ∉ midText config := by
  have hn : ∀ n, '\x7d' ∉ showNat n := fun n => isDigit_ne rfl
  have hi := not_mem_quote (d := '\x7d') rfl (h _ rfl)
  simp [midText, topEntries, configEntries, entryJSON, label, hn, hi]

theorem brace_joinText : '\x7d' ∉ joinText := by decide

theorem brace_closeText : '\x7d' ∉ closeText := by decide

theorem openText_midText (config : PersistedStreamConfig) :
    openText config ++ (jsonEscape config.description ++ midText config) =
    objectBefore 4 (topEntries config) ++ label "sdp".toList := by
  have h := configToJSON_open config
  rw [restText_eq, ← objectAfter_mapping] at h
  rw [configToJSON_sdp] at h
  rw [← List.append_left_inj (sdpToJSON config.sdp ++
    objectAfter 4 [("mapping".toList, mappingToJSON config.mapping)])]
  simpa using h.symm

theorem silent_description (config : PersistedStreamConfig) :
    Silent "description".toList ((configEntries config).take 2) ∧
    Silent "description".toList ((configEntries config).drop 3) :=
  silent_of_mem (show configEntries config = (configEntries config).take 2 ++
    ("description".toList, quote config.description) :: (configEntries config).drop 3 from rfl)

theorem silent_sdp (config : PersistedStreamConfig) : Silent "sdp".toList (topEntries config) ∧
    Silent "sdp".toList [("mapping".toList, mappingToJSON config.mapping)] :=
  silent_of_mem configEntries_eq

theorem silent_mapping : Silent "mapping".toList
    (topEntries config ++ [("sdp".toList, sdpToJSON config.sdp)]) :=
  (silent_of_mem (show configEntries config =
    (topEntries config ++ [("sdp".toList, sdpToJSON config.sdp)]) ++
      ("mapping".toList, mappingToJSON config.mapping) :: [] from rfl)).1

/-! ## Session blocks of the document -/

/-- Behind its session block a stream object has no other. -/
theorem keys_behind : keys "sdp".toList (sdpToJSON config.sdp ++
    (objectAfter 4 [("mapping".toList, mappingToJSON config.mapping)] ++ t)) =
      keys "sdp".toList t := by
  rw [keys_append (quiet_sdpToJSON (by decide) _ apart_objectAfter),
    keys_append (noKey_objectAfter (by decide) (silent_sdp _).2)]

theorem keys_stream (hl : '"' ∉ lead) : keys "sdp".toList (lead ++ (configToJSON config ++ t)) =
    keys "sdp".toList t + 1 := by
  rw [configToJSON_sdp, keys_append (noKey_of_not_mem hl), List.append_assoc,
    keys_append (noKey_objectBefore (by decide) (silent_sdp _).1), List.append_assoc,
    keys_label (by decide), List.append_assoc, keys_behind]

theorem keys_tailJSON : keys "sdp".toList (tailJSON cs) = cs.length := by
  induction cs with
  | nil => decide
  | cons c cs ih => rw [tailJSON_cons, keys_stream (by decide), ih, List.length_cons]

/-- Up to a cut in its description a stream object has no session block. -/
theorem keys_openText (hl : '"' ∉ lead) :
    keys "sdp".toList (lead ++ (openText config ++ jsonEscape config.description)) = 0 := by
  have h0 := silent_sdp config
  have hpre : Silent "sdp".toList ((configEntries config).take 2) :=
    fun e he => h0.1 e ((List.take_subset_take_left _ (by decide : 2 ≤ 7)) he)
  have hcut := noKey_cut (f := "sdp".toList) (v := config.description) (by decide) List.suffix_rfl
  have hlabel : NoKey "sdp".toList (label "description".toList)
      ('"' :: jsonEscape config.description ++ []) :=
    noKey_label (by decide) (by decide) (by decide)
  have he : lead ++ (openText config ++ jsonEscape config.description) =
      lead ++ (objectBefore 4 ((configEntries config).take 2) ++
        (label "description".toList ++ ('"' :: jsonEscape config.description ++ []))) := by
    simp [openText]
  rw [he, keys_append (noKey_of_not_mem hl), keys_append (noKey_objectBefore (by decide) hpre),
    keys_append hlabel, keys_append hcut]
  rfl

/-- Up to the end of its session block a stream object has no mapping block. -/
theorem keys_openText_sdp (hl : '"' ∉ lead) : keys "mapping".toList (lead ++ (openText config ++
    (jsonEscape config.description ++ (midText config ++ sdpToJSON config.sdp)))) = 0 := by
  have hkeys : keys "mapping".toList (lead ++ (objectBefore 4 (topEntries config ++
      [("sdp".toList, sdpToJSON config.sdp)]) ++ [])) = 0 := by
    rw [keys_append (noKey_of_not_mem hl), keys_append (noKey_objectBefore (by decide)
      silent_mapping)]
    rfl
  refine Nat.le_zero.mp (hkeys ▸ keys_le_of_prefix ⟨',' :: '\n' :: List.replicate 6 ' ', ?_⟩)
  have h := openText_midText config
  have he : objectBefore 4 (topEntries config ++ [("sdp".toList, sdpToJSON config.sdp)]) =
      openText config ++ (jsonEscape config.description ++ (midText config ++ (sdpToJSON config.sdp ++
        ',' :: '\n' :: List.replicate 6 ' '))) := by
    have h1 : objectBefore 4 (topEntries config ++ [("sdp".toList, sdpToJSON config.sdp)]) =
        objectBefore 4 (topEntries config) ++ label "sdp".toList ++ (sdpToJSON config.sdp ++
          ',' :: '\n' :: List.replicate 6 ' ') := by
      simp [objectBefore, entryJSON]
    rw [h1, ← h]
    simp
  rw [he]
  simp

/-! ## A cut in a description -/

theorem noKey_restText (hw : w <:+ jsonEscape config.description) :
    NoKey "description".toList (w ++ restText config) t := by
  have h1 := noKey_tail (f := "description".toList)
    (t := objectAfter 4 ((configEntries config).drop 3) ++ t) (by decide) hw apart_objectAfter
  have h2 := noKey_objectAfter (i := 4) (t := t) (f := "description".toList) (by decide)
    (silent_description config).2
  have h := NoKey.append h1 h2
  rwa [List.append_assoc, List.singleton_append] at h

theorem searchField_cons_ne_none (h : searchField f value s ≠ none) (u : Text) :
    searchField f value (u ++ s) ≠ none := by
  induction u with
  | nil => exact h
  | cons c u ih =>
    rw [List.cons_append, searchField, Ne, Option.or_eq_none_iff]
    exact fun h => ih h.2

/-- A stream read back with a description was read from a text in which one is found. -/
theorem ReadFrom.description_found (h : ReadFrom o x) (h0 : x.description ≠ []) :
    searchField "description".toList stringValue o ≠ none := by
  intro hs
  apply h0
  rw [h.description, extractStringField, matchField, if_pos (by decide), hs]
  rfl

/-- What follows the session block of a stream object in the document. -/
def behindText (config : PersistedStreamConfig) (t : Text) : Text :=
  objectAfter 4 [("mapping".toList, mappingToJSON config.mapping)] ++ t

/-- A stream of the document, cut behind its description and before its session block. -/
theorem stream_eq : lead ++ (configToJSON config ++ t) =
    (lead ++ (openText config ++ jsonEscape config.description)) ++
      (midText config ++ (sdpToJSON config.sdp ++ behindText config t)) := by
  rw [configToJSON_open, restText_eq, ← objectAfter_mapping, behindText]
  simp

theorem searchField_openText (hl : '"' ∉ lead) : searchField "description".toList stringValue
    (lead ++ (openText config ++ jsonEscape config.description)) = none := by
  have h := matchField_cut (i := 4) (v := config.description) (f := "description".toList)
    (by decide) (silent_description config).1 hl List.prefix_rfl
  rw [matchField, if_pos (by decide)] at h
  simpa [openText] using h

/-- **Behind a cut in a description that description is lost.** Where as many streams are read
behind the cut as the document has left, the first of them has none. -/
theorem head_description (hs : ∀ c ∈ cs, Storable c) (hw : w <:+ jsonEscape config.description)
    (hp : p <+: w ++ (restText config ++ tailJSON cs)) (h : read network p = .ok (x :: l))
    (hlen : l.length = cs.length) : x.description = [] := by
  by_contra h0
  obtain ⟨u, q, t, rfl, hx, hl⟩ := read_cons h
  have hfound := searchField_cons_ne_none (hx.description_found h0) u
  rw [← List.append_assoc u q, ← List.append_assoc w] at hp
  have lost : ∀ s r, s = (u ++ q) ++ '\x7d' :: r →
      searchField "description".toList stringValue s ≠ none := by
    rintro s r rfl
    have he : (u ++ q) ++ '\x7d' :: r = (u ++ (q ++ ['\x7d'])) ++ r := by simp
    rw [he]
    exact searchField_ne_none_append rfl stringValue_ne_none_append hfound
  cases cs with
  | nil =>
    obtain ⟨r, hr⟩ := hp
    refine lost (w ++ restText config ++ tailJSON []) (t ++ r) (by rw [← hr]; simp) ?_
    rw [searchField_append (noKey_restText hw)]
    decide
  | cons c cs =>
    have hc := hs c List.mem_cons_self
    rw [tailJSON_cons, stream_eq, ← List.append_assoc (w ++ restText config)] at hp
    rcases prefix_append_cases hp with ⟨r, hr, -⟩ | ⟨r, -, hr⟩
    · refine lost _ r hr ?_
      rw [searchField_append (noKey_restText hw)]
      exact searchField_openText (by decide)
    · rcases prefix_append_cases hr with ⟨r', hr', -⟩ | ⟨r', -, hr'⟩
      · exact brace_midText hc.findable.interface (hr' ▸ by simp)
      · have h1 := length_le_keys hl
        have h2 := keys_le_of_suffix (f := "sdp".toList)
          (show t <:+ r' ++ '\x7d' :: t from ⟨r' ++ ['\x7d'], by simp⟩)
        have h3 := keys_le_of_prefix (f := "sdp".toList) hr'
        rw [behindText, keys_behind, keys_tailJSON] at h3
        rw [List.length_cons] at hlen
        omega

end Aes67.StreamConfigManager
