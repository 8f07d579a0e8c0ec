import Aes67.Sdp.RoundTrip

/-!
# What the parser builds

Every session the parser builds is legible, whatever the text: each reader keeps to pieces of one
line. Generation is therefore stable on accepted descriptions up to the generator's conventions
for absent fields.

* `Legible.parseLine`, `legible_of_parseString`: the invariant over a line and over a description;
* `stable_iff_complete`: which accepted descriptions are written out again without loss;
* **`stable_of_complete`**.
-/

namespace Aes67.Sdp

open SDPSession

variable {st st' s : SDPSession} {line value t : Text}

/-! ## The invariant -/

theorem token_of_mem_splitString (hl : '\n' ∉ line) (h : t ∈ splitString line ' ') : Token t := by
  obtain ⟨p, hp, rfl⟩ := List.mem_map.mp h
  exact ⟨fun hm => not_mem_of_mem_getlines hp (trim_subset p hm),
    fun hm => hl (subset_of_mem_getlines hp (trim_subset p hm)), trimmed_trim p⟩

/-- What a reader may do: keep the session legible and leave the packet marking alone. -/
def Keeps (st st' : SDPSession) : Prop := Legible st → Legible st' ∧ st'.dscp = st.dscp

theorem keeps_origin (hl : '\n' ∉ line) (hp : parseOriginLine line st = some st') :
    Keeps st st' := by
  intro h
  rw [parseOriginLine] at hp
  split at hp
  · next username id version nettype addrtype address rest hs =>
    have tok : ∀ t ∈ username :: id :: version :: nettype :: addrtype :: address :: rest, Token t :=
      fun t ht => token_of_mem_splitString hl (hs ▸ ht)
    simp only [List.mem_cons, forall_eq_or_imp] at tok
    obtain ⟨h1, -, -, h2, h3, h4, -⟩ := tok
    split at hp
    · cases hp
      exact ⟨{ h with
        originUsername := h1
        originNetworkType := h2
        originAddressType := h3
        originAddress := h4 }, rfl⟩
    · cases hp
  · cases hp

theorem keeps_connection (hl : '\n' ∉ line) (hp : parseConnectionLine line st = some st') :
    Keeps st st' := by
  intro h
  rw [parseConnectionLine] at hp
  split at hp
  · next nettype addrtype addrPart rest hs =>
    have tok : ∀ t ∈ nettype :: addrtype :: addrPart :: rest, Token t :=
      fun t ht => token_of_mem_splitString hl (hs ▸ ht)
    simp only [List.mem_cons, forall_eq_or_imp] at tok
    obtain ⟨h1, h2, h3, -⟩ := tok
    have hhead := (trimmed_iff.mp h3.trimmed).1
    dsimp only at hp
    split at hp
    · next address ttl hc =>
      cases hp
      have he := eq_append_of_cut hc
      have hsub : address ⊆ addrPart := by rw [he]; simp
      refine ⟨{ h with
        connectionType := h1
        connectionNetwork := h2
        connectionAddress := ⟨fun hm => h3.space (hsub hm), not_mem_of_cut_char hc,
          fun hm => h3.line (hsub hm), ?_⟩ }, rfl⟩
      rcases address with _ | ⟨c, address⟩
      · rfl
      · rw [he] at hhead
        simpa using hhead
    · next hc =>
      cases hp
      exact ⟨{ h with
        connectionType := h1
        connectionNetwork := h2
        connectionAddress := ⟨h3.space, cut_char_eq_none.mp hc, h3.line, hhead⟩ }, rfl⟩
  · cases hp

theorem keeps_timing (hp : parseTimingLine line st = some st') : Keeps st st' := by
  intro h
  rw [parseTimingLine] at hp
  split at hp
  · split at hp
    · cases hp
      exact ⟨{ h with }, rfl⟩
    · cases hp
  · cases hp

theorem keeps_media (hl : '\n' ∉ line) (hp : parseMediaLine line st = some st') :
    Keeps st st' := by
  intro h
  rw [parseMediaLine] at hp
  split at hp
  · next media port proto fmt rest hs =>
    have tok : ∀ t ∈ media :: port :: proto :: fmt :: rest, Token t :=
      fun t ht => token_of_mem_splitString hl (hs ▸ ht)
    simp only [List.mem_cons, forall_eq_or_imp] at tok
    obtain ⟨h1, -, h2, -⟩ := tok
    split at hp
    · next port payloadType _ _ =>
      split_ifs at hp with hport hpt
      cases hp
      refine ⟨{ h with mediaType := h1, transport := h2, payloadType := ?_ }, rfl⟩
      change UInt8.ofInt payloadType ≤ 127
      rw [UInt8.le_iff_toNat_le, UInt8.ofInt, UInt8.toNat_ofNat']
      change _ ≤ 127
      omega
    · cases hp
  · cases hp

theorem keeps_rtpmap (hp : parseRTPMapAttribute value st = some st') : Keeps st st' := by
  intro h
  simp only [parseRTPMapAttribute] at hp
  repeat' split at hp
  all_goals first
    | cases hp; done
    | cases hp; exact ⟨{ h with }, rfl⟩

theorem keeps_ptime (hp : parsePTimeAttribute value st = some st') : Keeps st st' := by
  intro h
  rw [parsePTimeAttribute] at hp
  split at hp
  · split_ifs at hp with hms
    cases hp
    rw [not_or, not_not, not_lt] at hms
    exact ⟨{ h with ptimeUs := ptime_le hms.1 hms.2 }, rfl⟩
  · cases hp

theorem keeps_framecount (hp : parseFrameCountAttribute value st = some st') : Keeps st st' := by
  intro h
  rw [parseFrameCountAttribute] at hp
  split at hp
  · cases hp
    exact ⟨{ h with }, rfl⟩
  · cases hp

theorem keeps_sourceFilter (hl : '\n' ∉ value)
    (hp : parseSourceFilterAttribute value st = some st') : Keeps st st' := by
  intro h
  rw [parseSourceFilterAttribute] at hp
  split at hp
  · next hs =>
    cases hp
    have ht : '\n' ∉ trim value := fun hm => hl (trim_subset _ hm)
    exact ⟨{ h with sourceAddress := token_of_mem_splitString ht (by rw [hs]; simp) }, rfl⟩
  · cases hp

/-- A grandmaster's identity is a piece of the value, which has neither mark. -/
theorem keeps_grandmaster {rest : Text} (hl : '\n' ∉ rest) (ht : ¬ "traceable".toList <:+: rest) :
    Keeps st (parseGrandmaster rest st) := by
  intro h
  have whole : ¬ ":domain-nmbr=".toList <:+: rest → ∀ {gmid : Text}, gmid <+: rest →
      '\n' ∉ gmid ∧ ¬ "traceable".toList <:+: gmid ∧ ¬ ":domain-nmbr=".toList <:+: gmid :=
    fun hn gmid hg => ⟨fun hm => hl (hg.subset hm), fun hi => ht (hi.trans hg.isInfix),
      fun hi => hn (hi.trans hg.isInfix)⟩
  rw [parseGrandmaster]
  split
  · next gmid domain hc =>
    have hg : gmid <+: rest := by
      rw [eq_append_of_cut hc, List.append_assoc]
      exact List.prefix_append _ _
    exact ⟨{ h with ptpMasterMAC := ⟨fun hm => hl (hg.subset hm),
      fun hi => ht (hi.trans hg.isInfix), not_infix_of_cut (by decide) hc⟩ }, rfl⟩
  · next hc =>
    have hn := cut_eq_none.mp hc
    split
    · next gmid tail hcut =>
      have hg : gmid <+: rest := by
        rw [cutLast] at hcut
        split_ifs at hcut
        cases hcut
        exact (List.dropLast_prefix _).trans (List.rdropWhile_prefix _ _)
      split_ifs
      · exact ⟨{ h with ptpMasterMAC := whole hn hg }, rfl⟩
      · exact ⟨{ h with ptpMasterMAC := whole hn (List.prefix_refl rest) }, rfl⟩
    · exact ⟨{ h with ptpMasterMAC := whole hn (List.prefix_refl rest) }, rfl⟩

theorem keeps_refClock (hl : '\n' ∉ value) : Keeps st (parsePTPRefClockAttribute value st) := by
  rw [parsePTPRefClockAttribute]
  split_ifs with ht
  · exact fun h => ⟨{ h with ptpMasterMAC := ⟨by simp, by simp, by simp⟩ }, rfl⟩
  · rw [contains_iff] at ht
    split
    · next before rest hc =>
      have hs : rest.rdropWhile isTrailing <:+: value := by
        rw [eq_append_of_cut hc]
        exact (List.rdropWhile_prefix _ _).isInfix.trans (List.suffix_append _ _).isInfix
      exact keeps_grandmaster (fun hm => hl (hs.subset hm)) fun hi => ht (hi.trans hs)
    · exact fun h => ⟨h, rfl⟩

theorem keeps_attribute {name : Text} (hc : ':' ∉ name) (hn : '\n' ∉ name) (hl : '\n' ∉ value)
    (hp : parseAttribute name value st = some st') : Keeps st st' := by
  rw [parseAttribute] at hp
  split_ifs at hp with h1 h2 h3 h4 h5 h6 h7
  · exact keeps_rtpmap hp
  · exact keeps_ptime hp
  · exact keeps_framecount hp
  · exact keeps_sourceFilter hl hp
  · cases hp
    exact keeps_refClock hl
  · cases hp
    exact fun h => ⟨{ h with mediaClockType := hl }, rfl⟩
  · cases hp
    exact fun h => ⟨{ h with direction := h7 }, rfl⟩
  · cases hp
    refine fun h => ⟨{ h with customAttributes := fun e he => ?_ }, rfl⟩
    rcases mem_insertEntry he with rfl | he
    · refine ⟨hc, hn, ?_, h7, hl⟩
      simp only [interpreted, List.mem_cons, List.not_mem_nil, or_false, not_or]
      exact ⟨h1, h2, h3, h4, h5, h6⟩
    · exact h.customAttributes e he

theorem keeps_attributeLine (hl : '\n' ∉ line) (hp : parseAttributeLine line st = some st') :
    Keeps st st' := by
  rw [parseAttributeLine] at hp
  split at hp
  · next name value hc =>
    have he := eq_append_of_cut hc
    refine keeps_attribute (not_mem_of_cut_char hc) (fun hm => hl ?_) (fun hm => hl ?_) hp
    · rw [he]; simp [hm]
    · rw [he]; simp [hm]
  · next hc => exact keeps_attribute (cut_char_eq_none.mp hc) hl (by simp) hp

/-- **Every line keeps the session legible.** -/
theorem keeps_line (hl : '\n' ∉ line) (hp : parseLine st line = some st') : Keeps st st' := by
  rw [parseLine.eq_def] at hp
  split at hp
  · next type value =>
    have hv : '\n' ∉ value := fun hm => hl (by simp [hm])
    have hf : '\n' ∉ trim value := fun hm => hv (trim_subset _ hm)
    split_ifs at hp
    · cases hp
      exact fun h => ⟨h, rfl⟩
    · exact keeps_origin hv hp
    · cases hp
      exact fun h => ⟨{ h with sessionName := ⟨trimmed_trim _, hf⟩ }, rfl⟩
    · cases hp
      exact fun h => ⟨{ h with sessionInfo := ⟨trimmed_trim _, hf⟩ }, rfl⟩
    · exact keeps_connection hv hp
    · exact keeps_timing hp
    · exact keeps_media hv hp
    · exact keeps_attributeLine hv hp
    · cases hp
      exact fun h => ⟨h, rfl⟩
  · cases hp
    exact fun h => ⟨h, rfl⟩

theorem keeps_lines {ls : List Text} (hl : ∀ l ∈ ls, '\n' ∉ l)
    (hp : ls.foldlM parseLine st = some st') : Keeps st st' := by
  induction ls generalizing st with
  | nil =>
    cases hp
    exact fun h => ⟨h, rfl⟩
  | cons l ls ih =>
    rw [List.foldlM_cons] at hp
    obtain ⟨mid, h1, h2⟩ := Option.bind_eq_some_iff.mp hp
    intro h
    obtain ⟨hm, hd⟩ := keeps_line (hl l List.mem_cons_self) h1 h
    obtain ⟨hs, hd'⟩ := ih (fun l h' => hl l (List.mem_cons_of_mem _ h')) h2 hm
    exact ⟨hs, hd'.trans hd⟩

theorem legible_default : Legible {} where
  sessionName := by decide
  sessionInfo := by decide
  originUsername := .of_forall (forall_of_any (by decide))
  originNetworkType := .of_forall (forall_of_any (by decide))
  originAddressType := .of_forall (forall_of_any (by decide))
  originAddress := .of_forall (forall_of_any (by decide))
  connectionType := .of_forall (forall_of_any (by decide))
  connectionNetwork := .of_forall (forall_of_any (by decide))
  connectionAddress := by decide
  mediaType := .of_forall (forall_of_any (by decide))
  transport := .of_forall (forall_of_any (by decide))
  payloadType := by decide
  ptimeUs := by decide
  sourceAddress := .of_forall (forall_of_any (by decide))
  ptpMasterMAC := by decide
  mediaClockType := by decide
  direction := by decide
  customAttributes := by simp [OrdMap.empty]

theorem newline_splitLines : ∀ l ∈ splitLines t, '\n' ∉ l := by
  intro l hl
  obtain ⟨p, hp, rfl⟩ := List.mem_map.mp hl
  rw [chomp]
  split_ifs
  · exact fun hm => not_mem_of_mem_getlines hp ((List.dropLast_prefix p).subset hm)
  · exact not_mem_of_mem_getlines hp

/-- **Every session the parser builds is legible and valid.** -/
theorem legible_of_parseString (h : parseString t = some s) :
    Legible s ∧ s.Valid ∧ s.dscp = -1 := by
  rw [parseString] at h
  split at h
  · next session hf =>
    split_ifs at h with hv
    cases h
    obtain ⟨h1, h2⟩ := keeps_lines newline_splitLines hf legible_default
    exact ⟨h1, isValid_iff.mp hv, h2⟩
  · cases h

/-! ## Stability -/

/-- A description written again from what was read means the same, at whatever time. -/
def Stable (s : SDPSession) : Prop :=
  ∀ now, parseString (generate now s) = some { s with customAttributes := announced s }

/-- Which accepted descriptions are written out again without loss. -/
theorem stable_iff_complete (h : parseString t = some s) : Stable s ↔ Complete s := by
  obtain ⟨hl, hv, hd⟩ := legible_of_parseString h
  have hself : { s with dscp := -1, customAttributes := announced s } =
      { s with customAttributes := announced s } := by rw [← hd]
  constructor
  · intro hs
    have h0 : ¬ (s.originAddress = [] ∨ s.ptimeUs = 0) := fun h0 => by
      have := hs 0
      rw [parseString_generate_eq_none 0 hl hv h0] at this
      cases this
    rw [not_or] at h0
    have he : ∀ now, reread now s = { s with customAttributes := announced s } := fun now => by
      have := hs now
      rw [parseString_generate now hl hv h0.1 h0.2] at this
      exact Option.some.inj this
    refine ⟨h0.1, fun hid => ?_, fun httl => ?_, h0.2, fun hm => ?_, ?_⟩
    · have := congrArg SDPSession.sessionID (he 1)
      simp only [reread, hid, if_true] at this
      exact absurd this (by decide)
    · have := congrArg SDPSession.ttl (he 0)
      simp only [reread, httl, if_true] at this
      exact absurd this (by decide)
    · have := congrArg SDPSession.mediaClockType (he 0)
      simp only [reread, hm, if_true] at this
      exact absurd this (by decide)
    · have h1 : (if Named s then s.ptpMasterMAC else []) = s.ptpMasterMAC :=
        congrArg SDPSession.ptpMasterMAC (he 0)
      have h2 : (if Named s then s.ptpDomain else 0) = s.ptpDomain :=
        congrArg SDPSession.ptpDomain (he 0)
      by_cases hn : Named s
      · exact Or.inr (Or.inl ⟨hn.1, hn.2.2, hn.2.1⟩)
      · rw [if_neg hn] at h1 h2
        cases htr : s.ptpTraceable
        · exact Or.inr (Or.inr ⟨htr, h1.symm, h2.symm⟩)
        · exact Or.inl ⟨htr, h1.symm, h2.symm⟩
  · intro hc now
    rw [parseString_generate now hl hv hc.originAddress hc.ptimeUs, hc.reread_eq now, hself]

/-- **Generation is stable on the parser's image**, where the generator's conventions for absent
fields do not apply. -/
theorem stable_of_complete (h : parseString t = some s) (hc : Complete s) : Stable s :=
  (stable_iff_complete h).mpr hc

/-- A description with everything the generator needs to write it again. -/
def plainSdp : Text := "o=- 1 1 IN IP4 10.0.0.1\ns=A\nc=IN IP4 239.1.1.1/15".toList

/-- The same with a time to live of zero. -/
def localSdp : Text := "o=- 1 1 IN IP4 10.0.0.1\ns=A\nc=IN IP4 239.1.1.1/0".toList

/-- The session both describe, but for the time to live. -/
def plainSession (ttl : UInt8) : SDPSession where
  sessionName := "A".toList
  sessionID := 1
  sessionVersion := 1
  originAddress := "10.0.0.1".toList
  connectionAddress := "239.1.1.1".toList
  ttl := ttl

theorem plainSdp_stable : parseString plainSdp = some (plainSession 15) ∧ Stable (plainSession 15) :=
  ⟨by decide, stable_of_complete (t := plainSdp) (by decide)
    ⟨by decide, by decide, by decide, by decide, by decide, Or.inr (Or.inr (by decide))⟩⟩

theorem localSdp_changes_ttl : parseString localSdp = some (plainSession 0) ∧
    ∀ now, ∃ s', parseString (generate now (plainSession 0)) = some s' ∧
      s'.ttl ≠ (plainSession 0).ttl := by
  have h : parseString localSdp = some (plainSession 0) := by decide
  obtain ⟨hl, hv, -⟩ := legible_of_parseString h
  exact ⟨h, fun now => ⟨_, parseString_generate now hl hv (by decide) (by decide), by
    change (32 : UInt8) ≠ 0
    decide⟩⟩

end Aes67.Sdp
