import Aes67.Sdp.Lines

/-!
# A generated description is read back

`Legible` says what a session's texts must be for its lines to come apart where they were put
together; it is also what every session the parser builds satisfies. What the parser makes of the
description of such a session is `reread`, which names each convention of the generator that loses
something.

* `parseString_generate`: the description is accepted and gives `reread`;
* `parseString_generate_eq_none`: the two cases where it is not accepted;
* **`parseString_generate_of_lineSafe`**: the round trip of a session without such losses.
-/

namespace Aes67.Sdp

open SDPSession

/-- The texts of a session can be told apart in its description. -/
structure Legible (s : SDPSession) : Prop where
  sessionName : Trimmed s.sessionName ∧ '\n' ∉ s.sessionName
  sessionInfo : Trimmed s.sessionInfo ∧ '\n' ∉ s.sessionInfo
  originUsername : Token s.originUsername
  originNetworkType : Token s.originNetworkType
  originAddressType : Token s.originAddressType
  originAddress : Token s.originAddress
  connectionType : Token s.connectionType
  connectionNetwork : Token s.connectionNetwork
  connectionAddress : ' ' ∉ s.connectionAddress ∧ '/' ∉ s.connectionAddress ∧
    '\n' ∉ s.connectionAddress ∧ s.connectionAddress.head?.all fun c => !isSpace c
  mediaType : Token s.mediaType
  transport : Token s.transport
  payloadType : s.payloadType ≤ 127
  ptimeUs : s.ptimeUs ≤ 1000000
  sourceAddress : Token s.sourceAddress
  ptpMasterMAC : '\n' ∉ s.ptpMasterMAC ∧ ¬ "traceable".toList <:+: s.ptpMasterMAC ∧
    ¬ ":domain-nmbr=".toList <:+: s.ptpMasterMAC
  mediaClockType : '\n' ∉ s.mediaClockType
  direction : s.direction ∈ directions
  customAttributes : ∀ e ∈ s.customAttributes.entries, Custom e

/-- The custom attributes with the clock domain `generate` adds. -/
def announced (s : SDPSession) : OrdMap Text Text :=
  if s.ptpDomain ≥ 0 ∧ s.customAttributes.find? clockDomain = none then
    s.customAttributes.insert clockDomain (clockDomainValue s)
  else s.customAttributes

/-- What the parser reads from the description written at the time `now`. -/
def reread (now : UInt64) (s : SDPSession) : SDPSession :=
  { s with
    sessionID := if s.sessionID = 0 then now else s.sessionID
    connectionAddress := if s.ttl = 0 then trim s.connectionAddress else s.connectionAddress
    ttl := if s.ttl = 0 then 32 else s.ttl
    ptpMasterMAC := if Named s then s.ptpMasterMAC else []
    ptpDomain := if Named s then s.ptpDomain else 0
    mediaClockType := if s.mediaClockType = [] then "direct=0".toList else s.mediaClockType
    dscp := -1
    customAttributes := announced s }

variable {s : SDPSession} (now : UInt64)

/-! ## The lines -/

theorem newline_showNat (n : ℕ) : '\n' ∉ showNat n := (token_showNat n).line

theorem newline_words {l : List Text} (h : ∀ t ∈ l, '\n' ∉ t) : '\n' ∉ words l := by
  rw [words]
  induction l with
  | nil => simp
  | cons t l ih =>
    have ht := h t List.mem_cons_self
    have hl := ih fun t h' => h t (List.mem_cons_of_mem _ h')
    rcases l with _ | ⟨t', l⟩
    · simpa using ht
    · rw [List.intercalate_cons_cons]
      simp only [List.mem_append, not_or]
      exact ⟨⟨ht, by decide⟩, hl⟩

theorem newline_append {a b : Text} (ha : '\n' ∉ a) (hb : '\n' ∉ b) : '\n' ∉ a ++ b := by
  simp [ha, hb]

theorem newline_cons {c : Char} {b : Text} (hc : c ≠ '\n') (hb : '\n' ∉ b) : '\n' ∉ c :: b := by
  simp [hb, Ne.symm hc]

theorem newline_showInt (d : ℤ) : '\n' ∉ showInt d := by
  rw [showInt]
  split_ifs
  · exact newline_cons (by decide) (newline_showNat _)
  · exact newline_showNat _

theorem Legible.newline_headerLines (h : Legible s) : ∀ t ∈ headerLines now s, '\n' ∉ t := by
  have hconn : '\n' ∉ generateConnectionLine s := by
    refine newline_append (by decide) (newline_words ?_)
    simp only [List.mem_cons, List.not_mem_nil, or_false]
    rintro t (rfl | rfl | rfl)
    · exact h.connectionType.line
    · exact h.connectionNetwork.line
    · refine newline_append h.connectionAddress.2.2.1 ?_
      split_ifs
      · exact newline_cons (by decide) (newline_showNat _)
      · simp
  intro t ht
  simp only [headerLines, List.mem_cons, List.mem_append, List.not_mem_nil, or_false] at ht
  rcases ht with rfl | rfl | rfl | ht | rfl | rfl | rfl | rfl
  · decide
  · refine newline_append (by decide) (newline_words ?_)
    simp [h.originUsername.line, h.originNetworkType.line, h.originAddressType.line,
      h.originAddress.line, newline_showNat]
  · exact newline_append (by decide) h.sessionName.2
  · split_ifs at ht with hi
    · rw [List.mem_singleton.mp ht]
      exact newline_append (by decide) h.sessionInfo.2
    · simp at ht
  · exact hconn
  · exact newline_append (by decide) (newline_words (by simp [newline_showNat]))
  · refine newline_append (by decide) (newline_words ?_)
    simp [h.mediaType.line, h.transport.line, newline_showNat]
  · exact hconn

theorem Legible.newline_generateAttributes (h : Legible s) (hv : s.Valid) :
    ∀ t ∈ generateAttributes s, '\n' ∉ t := by
  intro t ht
  simp only [Sdp.generateAttributes, List.mem_append, List.mem_cons, List.not_mem_nil, or_false,
    List.mem_map] at ht
  rcases ht with (((((((rfl | rfl) | ht) | rfl) | ht) | ht) | ht) | ht) | ⟨e, he, rfl⟩
  · refine newline_append (by decide) (newline_words ?_)
    simp [newline_showNat, (token_rtpmapFormat s hv).line]
  · refine newline_append (by decide) fun hm => ?_
    rcases isDigit_or_of_mem_formatPTimeMs h.ptimeUs hm with hm | hm
    · exact absurd hm (by decide)
    · exact absurd hm (by decide)
  · rw [framecountLines] at ht
    split_ifs at ht
    · rw [List.mem_singleton.mp ht]
      exact newline_append (by decide) (newline_showNat _)
    · simp at ht
  · refine newline_append (by decide) ?_
    have hd := h.direction
    simp only [directions, List.mem_cons, List.not_mem_nil, or_false] at hd
    rcases hd with hd | hd | hd | hd <;> rw [hd] <;> decide
  · rw [sourceFilterLines] at ht
    split_ifs at ht
    · rw [List.mem_singleton.mp ht]
      refine newline_append (by decide) (newline_words ?_)
      simp [h.connectionAddress.2.2.1, h.sourceAddress.line]
    · simp at ht
  · rw [refClockLines] at ht
    split_ifs at ht
    · rw [List.mem_singleton.mp ht]
      decide
    · rw [List.mem_singleton.mp ht]
      exact newline_append (newline_append (by decide) h.ptpMasterMAC.1)
        (newline_cons (by decide) (newline_showInt _))
    · simp at ht
  · rw [clockDomainLines] at ht
    split_ifs at ht
    · rw [List.mem_singleton.mp ht]
      exact newline_append (by decide) (newline_append (by decide) (newline_showInt _))
    · simp at ht
  · rw [mediaClockLines] at ht
    split_ifs at ht
    · rw [List.mem_singleton.mp ht]
      exact newline_append (by decide) h.mediaClockType
    · simp at ht
  · have hc := h.customAttributes e he
    rw [customLine]
    split_ifs
    · exact newline_append (by decide) hc.line
    · exact newline_append (newline_append (by decide) hc.line) (newline_cons (by decide) hc.value)

/-- The parser sees the lines as they were written. -/
theorem Legible.splitLines_generate (h : Legible s) (hv : s.Valid) :
    splitLines (generate now s) = generateLines now s := by
  refine splitLines_flatMap fun t ht => ?_
  rcases List.mem_append.mp ht with ht | ht
  · exact h.newline_headerLines now t ht
  · exact h.newline_generateAttributes hv t ht

theorem parseLine_ptime (h : s.ptimeUs ≤ 1000000) (h0 : s.ptimeUs ≠ 0) (st : SDPSession) :
    parseLine st (ptimeLine s) = some { st with ptimeUs := s.ptimeUs } := by
  change parseLine st ("a=".toList ++ "ptime".toList ++ ':' :: _) = _
  rw [parseLine_attribute _ (by decide), ← parsePTime_format st h0 h]
  rfl

theorem parseLine_ptime_zero (h0 : s.ptimeUs = 0) (st : SDPSession) :
    parseLine st (ptimeLine s) = none := by
  change parseLine st ("a=".toList ++ "ptime".toList ++ ':' :: _) = _
  rw [parseLine_attribute _ (by decide), h0, ← parsePTime_zero st]
  rfl

/-- The attributes stored line by line, after the clock domain. -/
theorem foldl_customAttributes : s.customAttributes.entries.foldl (fun m e => m.insert e.1 e.2)
    (if s.ptpDomain ≥ 0 ∧ s.customAttributes.find? clockDomain = none then
      OrdMap.empty.insert clockDomain (clockDomainValue s) else OrdMap.empty) = announced s := by
  refine OrdMap.ext_find? fun k => ?_
  rw [OrdMap.find?_foldl_insert, announced]
  split_ifs with h
  · rw [OrdMap.find?_insert, OrdMap.find?_insert]
    by_cases hk : k = clockDomain
    · simp [hk, h.2]
    · simp [hk]
  · simp

theorem foldlM_cons_of {st st' : SDPSession} {l : Text} {ls : List Text} {r : Option SDPSession}
    (h : parseLine st l = some st') (hr : ls.foldlM parseLine st' = r) :
    (l :: ls).foldlM parseLine st = r := by
  rw [List.foldlM_cons, h]
  exact hr

theorem foldlM_cons_eq_none {st : SDPSession} {l : Text} (h : parseLine st l = none)
    (ls : List Text) : (l :: ls).foldlM parseLine st = none := by
  rw [List.foldlM_cons, h]
  rfl

theorem foldlM_append_of {st st' : SDPSession} {l ls : List Text} {r : Option SDPSession}
    (h : l.foldlM parseLine st = some st') (hr : ls.foldlM parseLine st' = r) :
    (l ++ ls).foldlM parseLine st = r := by
  rw [List.foldlM_append, h]
  exact hr

/-- The session the lines before the attributes leave. -/
def header (now : UInt64) (s : SDPSession) : SDPSession where
  originUsername := s.originUsername
  sessionID := if s.sessionID = 0 then now else s.sessionID
  sessionVersion := s.sessionVersion
  originNetworkType := s.originNetworkType
  originAddressType := s.originAddressType
  originAddress := s.originAddress
  sessionName := s.sessionName
  sessionInfo := s.sessionInfo
  connectionType := s.connectionType
  connectionNetwork := s.connectionNetwork
  connectionAddress := if s.ttl = 0 then trim s.connectionAddress else s.connectionAddress
  ttl := if s.ttl = 0 then 32 else s.ttl
  timeStart := s.timeStart
  timeStop := s.timeStop
  mediaType := s.mediaType
  port := s.port
  transport := s.transport
  payloadType := s.payloadType

theorem Legible.foldlM_headerLines (h : Legible s) (hc : s.connectionAddress ≠ [])
    (ha : s.originAddress ≠ []) :
    (Sdp.headerLines now s).foldlM parseLine {} = some (header now s) := by
  have hinfo : ∀ st : SDPSession, st.sessionInfo = [] →
      (if s.sessionInfo ≠ [] then ["i=".toList ++ s.sessionInfo] else []).foldlM parseLine st =
        some { st with sessionInfo := s.sessionInfo } := by
    intro st h0
    split_ifs with hs
    · exact foldlM_cons_of (parseLine_sessionInfo _ s h.sessionInfo.1) rfl
    · rw [not_ne_iff.mp hs, ← h0]
      rfl
  have hconn := fun st => parseLine_connection st s h.connectionType h.connectionNetwork
    h.connectionAddress.1 h.connectionAddress.2.1 h.connectionAddress.2.2.2 hc
  have httl : (if s.ttl = 0 then (if s.ttl = 0 then 32 else s.ttl) else s.ttl) =
      if s.ttl = 0 then 32 else s.ttl := by
    split_ifs <;> rfl
  refine foldlM_cons_of (parseLine_version _) ?_
  refine foldlM_cons_of (parseLine_origin _ s now h.originUsername h.originNetworkType
    h.originAddressType h.originAddress ha) ?_
  dsimp only
  refine foldlM_cons_of (parseLine_sessionName _ s h.sessionName.1) ?_
  dsimp only
  refine foldlM_append_of (hinfo _ rfl) ?_
  dsimp only
  refine foldlM_cons_of (hconn _) ?_
  dsimp only
  refine foldlM_cons_of (parseLine_timing _ s) ?_
  dsimp only
  refine foldlM_cons_of (parseLine_media _ s h.mediaType h.transport h.payloadType) ?_
  dsimp only
  refine foldlM_cons_of (hconn _) ?_
  dsimp only
  rw [List.foldlM_nil, httl]
  rfl

theorem Legible.foldlM_generateAttributes (h : Legible s) (hv : s.Valid) (hp : s.ptimeUs ≠ 0) :
    (Sdp.generateAttributes s).foldlM parseLine (header now s) = some (reread now s) := by
  have hrtp := parseLine_rtpmap (header now s) s hv rfl
  simp only [Sdp.generateAttributes, List.foldlM_append, List.foldlM_cons, List.foldlM_nil, hrtp,
    parseLine_ptime h.ptimeUs hp, parseLine_framecount,
    parseLine_direction _ s h.direction,
    parseLine_sourceFilter _ s h.connectionAddress.1 h.sourceAddress,
    parseLine_refClock _ s h.ptpMasterMAC.2.1 h.ptpMasterMAC.2.2, parseLine_clockDomain,
    parseLine_mediaClock, parseLine_customs _ h.customAttributes, Option.bind_eq_bind,
    Option.bind_some, Option.pure_def]
  have h1 : (if s.framecount = 0 then 0 else s.framecount) = s.framecount := by
    split_ifs with h0
    · exact h0.symm
    · rfl
  have h2 : (if s.sourceAddress = [] then [] else s.sourceAddress) = s.sourceAddress := by
    split_ifs with h0
    · exact h0.symm
    · rfl
  have h3 : (if s.ptpTraceable = true then true else false) = s.ptpTraceable := by simp
  have h4 : (if s.ptpTraceable = true then [] else if Named s then s.ptpMasterMAC else []) =
      if Named s then s.ptpMasterMAC else [] := by
    split_ifs with ht hn
    · rw [hn.1] at ht; cases ht
    · rfl
    · rfl
    · rfl
  dsimp only [header, reread]
  rw [h1, h2, h3, h4, foldl_customAttributes]

/-! ## The round trip -/

theorem Legible.isValid_reread (h : Legible s) (hv : s.Valid) : (reread now s).isValid = true := by
  refine isValid_iff.mpr { hv with connectionAddress_ne := ?_ }
  change (if s.ttl = 0 then trim s.connectionAddress else s.connectionAddress) ≠ []
  split_ifs
  · exact trim_ne_nil h.connectionAddress.2.2.2 hv.connectionAddress_ne
  · exact hv.connectionAddress_ne

theorem parseString_generate (h : Legible s) (hv : s.Valid) (ha : s.originAddress ≠ [])
    (hp : s.ptimeUs ≠ 0) : parseString (generate now s) = some (reread now s) := by
  have hfold : (generateLines now s).foldlM parseLine {} = some (reread now s) :=
    foldlM_append_of (h.foldlM_headerLines now hv.connectionAddress_ne ha)
      (h.foldlM_generateAttributes now hv hp)
  rw [parseString, h.splitLines_generate now hv, hfold]
  exact if_pos (h.isValid_reread now hv)

/-- A description without an origin address, or with a packet time that rounds to nothing, is not
read back at all. -/
theorem parseString_generate_eq_none (h : Legible s) (hv : s.Valid)
    (h0 : s.originAddress = [] ∨ s.ptimeUs = 0) : parseString (generate now s) = none := by
  have hfold : (generateLines now s).foldlM parseLine {} = none := by
    by_cases ha : s.originAddress = []
    · exact foldlM_cons_of (parseLine_version _) (foldlM_cons_eq_none (parseLine_origin_empty _ s now
        h.originUsername h.originNetworkType h.originAddressType ha) _)
    · refine foldlM_append_of (h.foldlM_headerLines now hv.connectionAddress_ne ha) ?_
      simp only [generateAttributes, List.append_assoc, List.cons_append]
      exact foldlM_cons_of (parseLine_rtpmap (header now s) s hv rfl)
        (foldlM_cons_eq_none (parseLine_ptime_zero (h0.resolve_left ha) _) _)
  rw [parseString, h.splitLines_generate now hv, hfold]

/-- A PTP reference the generator writes without loss. -/
def PtpReference (s : SDPSession) : Prop :=
  (s.ptpTraceable = true ∧ s.ptpMasterMAC = [] ∧ s.ptpDomain = 0) ∨
  (s.ptpTraceable = false ∧ s.ptpMasterMAC ≠ [] ∧ s.ptpDomain ≥ 0) ∨
  (s.ptpTraceable = false ∧ s.ptpMasterMAC = [] ∧ s.ptpDomain = 0)

/-- The generator's conventions for absent fields do not apply. -/
structure Complete (s : SDPSession) : Prop where
  originAddress : s.originAddress ≠ []
  sessionID : s.sessionID ≠ 0
  ttl : s.ttl ≠ 0
  ptimeUs : s.ptimeUs ≠ 0
  mediaClockType : s.mediaClockType ≠ []
  ptpReference : PtpReference s

theorem Complete.reread_eq (h : Complete s) :
    reread now s = { s with dscp := -1, customAttributes := announced s } := by
  have hptp : (if Named s then s.ptpMasterMAC else []) = s.ptpMasterMAC ∧
      (if Named s then s.ptpDomain else 0) = s.ptpDomain := by
    rcases h.ptpReference with ⟨h1, h2, h3⟩ | ⟨h1, h2, h3⟩ | ⟨h1, h2, h3⟩
    · simp [h2, h3]
    · simp [show Named s from ⟨h1, h3, h2⟩]
    · simp [h2, h3]
  simp only [reread, h.sessionID, h.ttl, h.mediaClockType, hptp, if_false]

/-- The texts of a session that stays on its lines: tokens without white space, a connection
address without a slash, and single-line texts elsewhere. -/
structure LineSafe (s : SDPSession) : Prop where
  tokens : ∀ t ∈ [s.originUsername, s.originNetworkType, s.originAddressType, s.originAddress,
    s.connectionType, s.connectionNetwork, s.connectionAddress, s.mediaType, s.transport,
    s.sourceAddress], ∀ c ∈ t, isSpace c = false
  originAddress : s.originAddress ≠ []
  connectionAddress : '/' ∉ s.connectionAddress
  sessionName : Trimmed s.sessionName ∧ '\n' ∉ s.sessionName
  sessionInfo : Trimmed s.sessionInfo ∧ '\n' ∉ s.sessionInfo
  mediaClockType : s.mediaClockType ≠ [] ∧ '\n' ∉ s.mediaClockType
  direction : s.direction ∈ directions
  customAttributes : ∀ e ∈ s.customAttributes.entries, Custom e
  ptpMasterMAC : (∀ c ∈ s.ptpMasterMAC, isSpace c = false) ∧
    ¬ "traceable".toList <:+: s.ptpMasterMAC ∧ ¬ ":domain-nmbr=".toList <:+: s.ptpMasterMAC
  ptpReference : PtpReference s

theorem LineSafe.legible (h : LineSafe s) (ht : s.payloadType ≤ 127) (hp : s.ptimeUs ≤ 1000000) :
    Legible s := by
  have tok : ∀ t ∈ [s.originUsername, s.originNetworkType, s.originAddressType, s.originAddress,
      s.connectionType, s.connectionNetwork, s.connectionAddress, s.mediaType, s.transport,
      s.sourceAddress], Token t := fun t ht => .of_forall (h.tokens t ht)
  simp only [List.mem_cons, List.not_mem_nil, or_false, forall_eq_or_imp, forall_eq] at tok
  obtain ⟨h1, h2, h3, h4, h5, h6, h7, h8, h9, h10⟩ := tok
  exact {
    sessionName := h.sessionName
    sessionInfo := h.sessionInfo
    originUsername := h1
    originNetworkType := h2
    originAddressType := h3
    originAddress := h4
    connectionType := h5
    connectionNetwork := h6
    connectionAddress := ⟨h7.space, h.connectionAddress, h7.line, (trimmed_iff.mp h7.trimmed).1⟩
    mediaType := h8
    transport := h9
    payloadType := ht
    ptimeUs := hp
    sourceAddress := h10
    ptpMasterMAC := ⟨(Token.of_forall h.ptpMasterMAC.1).line, h.ptpMasterMAC.2⟩
    mediaClockType := h.mediaClockType.2
    direction := h.direction
    customAttributes := h.customAttributes }

/-- **The round trip.** A valid session whose texts stay on their lines is read back from its
description, but for the marking of its packets and the clock domain the description adds. -/
theorem parseString_generate_of_lineSafe (hv : s.isValid = true) (hs : LineSafe s)
    (hid : s.sessionID ≠ 0) (httl : s.ttl ≠ 0) (ht : s.payloadType ≤ 127)
    (hp : s.ptimeUs ≠ 0) (hp' : s.ptimeUs ≤ 1000000) :
    parseString (generate now s) =
      some { s with dscp := -1, customAttributes := announced s } := by
  have hc : Complete s :=
    ⟨hs.originAddress, hid, httl, hp, hs.mediaClockType.1, hs.ptpReference⟩
  rw [parseString_generate now (hs.legible ht hp') (isValid_iff.mp hv) hs.originAddress hp,
    hc.reread_eq now]

/-- A stage box with a named grandmaster, eighth-millisecond packets and an attribute of its own. -/
def stageBox : SDPSession where
  sessionName := "Stage box".toList
  sessionInfo := "Inputs 1-2".toList
  sessionID := 7
  originAddress := "10.0.0.1".toList
  connectionAddress := "239.69.1.1".toList
  ptimeUs := 125
  sourceAddress := "10.0.0.1".toList
  ptpDomain := 2
  ptpMasterMAC := "00-1D-C1-FF-FE-12-34-56".toList
  dscp := 46
  customAttributes := OrdMap.empty.insert "sync-time".toList "0".toList

theorem stageBox_read_back : stageBox.isValid = true ∧ parseString (generate 0 stageBox) =
    some { stageBox with dscp := -1, customAttributes := announced stageBox } :=
  ⟨by decide, parseString_generate_of_lineSafe 0 (by decide)
    { tokens := fun t ht => forall_of_any (by revert t; decide)
      originAddress := by decide
      connectionAddress := by decide
      sessionName := by decide
      sessionInfo := by decide
      mediaClockType := by decide
      direction := by decide
      customAttributes := by
        intro e he
        rw [List.mem_singleton.mp he]
        exact ⟨by decide, by decide, by decide, by decide, by decide⟩
      ptpMasterMAC := ⟨forall_of_any (by decide), by decide, by decide⟩
      ptpReference := Or.inr (Or.inl (by decide)) }
    (by decide) (by decide) (by decide) (by decide) (by decide)⟩

end Aes67.Sdp
