import Aes67.Sdp.Model

/-!
# Each generated line is read back

For every line `generate` writes, what `parseLine` makes of it in an arbitrary session, under the
weakest condition on the fields the line carries.

* `splitLines_flatMap`: the parser sees the lines the generator wrote;
* `Token`: text that stands between two spaces and is read back as it is;
* `stod_formatPTimeMs`, `parsePTime_format`: a packet time survives its decimal form;
* `parseGrandmaster_show`: the bare-number form of a grandmaster.
-/

namespace Aes67.Sdp

/-! ## Splitting -/

theorem splitLines_flatMap {l : List Text} (h : ∀ t ∈ l, '\n' ∉ t) :
    splitLines (l.flatMap (· ++ "\r\n".toList)) = l := by
  induction l with
  | nil => rfl
  | cons t l ih =>
    have ht : '\n' ∉ t ++ ['\r'] := by simp [h t List.mem_cons_self]
    have e : (t :: l).flatMap (· ++ "\r\n".toList) =
        (t ++ ['\r']) ++ '\n' :: l.flatMap (· ++ "\r\n".toList) := by
      simp [List.flatMap_cons]
    have hc : chomp (t ++ ['\r']) = t := by simp [chomp]
    rw [e, splitLines, getlines_append_cons ht, List.map_cons, hc]
    rw [splitLines] at ih
    rw [ih fun t h' => h t (List.mem_cons_of_mem _ h')]

/-- Text that stands between two spaces of a line and is read back as it is. -/
structure Token (t : Text) : Prop where
  space : ' ' ∉ t
  line : '\n' ∉ t
  trimmed : Trimmed t

theorem Token.of_forall {t : Text} (h : ∀ c ∈ t, isSpace c = false) : Token t where
  space := fun hm => absurd (h _ hm) (by decide)
  line := fun hm => absurd (h _ hm) (by decide)
  trimmed := trim_of_forall h

theorem forall_of_any {t : Text} (h : t.any isSpace = false) : ∀ c ∈ t, isSpace c = false := by
  simpa using h

theorem token_showNat (n : ℕ) : Token (showNat n) :=
  .of_forall fun _ => isSpace_of_mem_showNat

theorem splitString_words {l : List Text} (h : ∀ t ∈ l, ' ' ∉ t)
    (hl : ∀ t, l.getLast? = some t → t ≠ []) : splitString (words l) ' ' = l.map trim := by
  rw [splitString, words]
  exact congrArg (List.map trim) (getlines_intercalate h hl)

theorem splitString_tokens {l : List Text} (h : ∀ t ∈ l, Token t)
    (hl : ∀ t, l.getLast? = some t → t ≠ []) : splitString (words l) ' ' = l := by
  rw [splitString_words (fun t ht => (h t ht).space) hl]
  exact (List.map_congr_left fun t ht => (h t ht).trimmed).trans (List.map_id _)

/-! ## Numbers -/

theorem stoull_toNat (n : UInt64) : stoull (showNat n.toNat) = some n.toNat :=
  stoull_showNat n.toNat_lt

theorem ofInt_toNat8 (n : UInt8) : UInt8.ofInt n.toNat = n := by
  have : ((n.toNat : ℤ) % 2 ^ 8).toNat = n.toNat := by have := n.toNat_lt; omega
  rw [UInt8.ofInt, this, UInt8.ofNat_toNat]

theorem ofInt_toNat16 (n : UInt16) : UInt16.ofInt n.toNat = n := by
  have : ((n.toNat : ℤ) % 2 ^ 16).toNat = n.toNat := by have := n.toNat_lt; omega
  rw [UInt16.ofInt, this, UInt16.ofNat_toNat]

theorem ofInt_toNat32 (n : UInt32) : UInt32.ofInt n.toNat = n := by
  have : ((n.toNat : ℤ) % 2 ^ 32).toNat = n.toNat := by have := n.toNat_lt; omega
  rw [UInt32.ofInt, this, UInt32.ofNat_toNat]

/-! ## The packet time -/

section PTime

variable {u : ℕ}

/-- The three decimals of a count of thousandths. -/
def decimals (u : ℕ) : Text := (showNat (u % 1000)).leftpad 3 '0'

theorem isDigit_of_mem_decimals {c : Char} (h : c ∈ decimals u) : c.isDigit = true := by
  rw [decimals, List.leftpad, List.mem_append] at h
  rcases h with h | h
  · rw [List.eq_of_mem_replicate h]; rfl
  · exact isDigit_of_mem_showNat h

theorem length_decimals (u : ℕ) : (decimals u).length = 3 := by
  have : (showNat (u % 1000)).length ≤ 3 := by
    rw [showNat, Nat.length_toDigits_le_iff (by norm_num) (by norm_num)]
    omega
  rw [decimals, List.length_leftpad]
  omega

theorem ofDigitChars_decimals (u : ℕ) :
    Nat.ofDigitChars 10 (showNat (u / 1000) ++ decimals u) 0 = u := by
  have h : Nat.ofDigitChars 10 (decimals u) 0 = u % 1000 := by
    rw [decimals, List.leftpad, Nat.ofDigitChars_append, Nat.ofDigitChars_replicate_zero, mul_zero,
      showNat, Nat.ofDigitChars_ten_toDigits]
  rw [Nat.ofDigitChars_append, showNat, Nat.ofDigitChars_ten_toDigits,
    Nat.ofDigitChars_eq_ofDigitChars_zero, h, length_decimals]
  omega

theorem rdropWhile_append_cons {p : Char → Bool} {c : Char} (hc : p c = false) (l ds : Text) :
    (l ++ c :: ds).rdropWhile p = l ++ c :: ds.rdropWhile p := by
  induction ds using List.reverseRecOn with
  | nil => rw [List.rdropWhile_concat_neg _ _ _ (by simp [hc]), List.rdropWhile_nil]
  | append_singleton ds x ih =>
    rw [← List.cons_append, ← List.append_assoc]
    by_cases hx : p x
    · rw [List.rdropWhile_concat_pos _ _ _ hx, List.rdropWhile_concat_pos _ _ _ hx, ih]
    · rw [List.rdropWhile_concat_neg _ _ _ hx, List.rdropWhile_concat_neg _ _ _ hx]
      simp

theorem printFixed_ptime (h : u ≤ 1000000) :
    printFixed 3 (round64 (u / 1000)) = showNat (u / 1000) ++ '.' :: decimals u := by
  have hq : |(u : ℚ) / 1000| ≤ 2 ^ 20 := by
    have : (u : ℚ) ≤ 1000000 := by exact_mod_cast h
    rw [abs_of_nonneg (by positivity), div_le_iff₀ (by norm_num)]
    norm_num
    linarith
  have h0 : 0 ≤ round64 ((u : ℚ) / 1000) := round64_nonneg (by positivity)
  have hr : roundEven (|round64 ((u : ℚ) / 1000)| * 10 ^ 3) = (u : ℤ) := by
    refine roundEven_eq_of_abs_lt ?_
    have := abs_lt.mp (abs_round64_sub_lt hq)
    norm_num at this
    rw [abs_of_nonneg h0, abs_lt]
    push_cast
    constructor <;> linarith [this.1, this.2]
  rw [printFixed, hr, if_neg (not_lt.mpr h0)]
  simp [decimals]

/-- Trailing zeros go, and the point with them where nothing is left of the fraction. -/
theorem formatPTimeMs_eq {p : UInt32} (h : p ≤ 1000000) :
    formatPTimeMs p = showNat (p.toNat / 1000) ++
      (let f := (decimals p.toNat).rdropWhile (· = '0'); if f = [] then [] else '.' :: f) := by
  have hp : p.toNat ≤ 1000000 := UInt32.le_iff_toNat_le.mp h
  rw [formatPTimeMs, printFixed_ptime hp]
  simp only [List.mem_append, List.mem_cons, true_or, or_true, if_true]
  rw [rdropWhile_append_cons (by decide)]
  by_cases hf : (decimals p.toNat).rdropWhile (· = '0') = []
  · simp [hf]
  · have hlast : (showNat (p.toNat / 1000) ++ '.' :: (decimals p.toNat).rdropWhile (· = '0')).getLast?
        ≠ some '.' := by
      rw [List.getLast?_append_of_ne_nil _ (by simp), List.getLast?_cons_of_ne_nil hf]
      intro he
      have := isDigit_of_mem_decimals ((List.rdropWhile_prefix _ _).subset (List.mem_of_getLast? he))
      exact absurd this (by decide)
    simp only [if_neg hlast, if_neg hf]

theorem isDigit_or_of_mem_formatPTimeMs {p : UInt32} (h : p ≤ 1000000) {c : Char}
    (hc : c ∈ formatPTimeMs p) : c.isDigit = true ∨ c = '.' := by
  rw [formatPTimeMs_eq h, List.mem_append] at hc
  rcases hc with hc | hc
  · exact Or.inl (isDigit_of_mem_showNat hc)
  · by_cases hf : (decimals p.toNat).rdropWhile (· = '0') = []
    · simp [hf] at hc
    · simp only [hf, if_false, List.mem_cons] at hc
      exact hc.symm.imp_left fun hc =>
        isDigit_of_mem_decimals ((List.rdropWhile_prefix _ _).subset hc)

/-- The printed packet time is a decimal numeral of as many thousandths. -/
theorem scanDecimal_formatPTimeMs {p : UInt32} (h : p ≤ 1000000) :
    scanDecimal (formatPTimeMs p) = some ((p.toNat : ℚ) / 1000) := by
  rw [formatPTimeMs_eq h]
  generalize hw : showNat (p.toNat / 1000) = w
  generalize hf : (decimals p.toNat).rdropWhile (· = '0') = f
  have hwd : ∀ c ∈ w, c.isDigit = true := fun c hc => isDigit_of_mem_showNat (hw ▸ hc)
  have hw0 : w ≠ [] := hw ▸ showNat_ne_nil _
  have hfd : ∀ c ∈ f, c.isDigit = true := fun c hc =>
    isDigit_of_mem_decimals ((List.rdropWhile_prefix _ _).subset (hf ▸ hc))
  -- The zeros dropped only scale the number.
  obtain ⟨k, hk⟩ : ∃ k, decimals p.toNat = f ++ List.replicate k '0' := by
    have h1 : (decimals p.toNat).rdropWhile (· = '0') ++ (decimals p.toNat).rtakeWhile (· = '0') =
        decimals p.toNat := List.rdropWhile_append_rtakeWhile
    have h2 : (decimals p.toNat).rtakeWhile (· = '0') =
        List.replicate ((decimals p.toNat).rtakeWhile (· = '0')).length '0' :=
      List.eq_replicate_iff.mpr ⟨rfl, fun c hc => by simpa using List.mem_rtakeWhile_imp hc⟩
    exact ⟨((decimals p.toNat).rtakeWhile (· = '0')).length, by rw [← hf, ← h2, h1]⟩
  have hlen : f.length + k = 3 := by
    have := length_decimals p.toNat
    rw [hk] at this
    simpa using this
  have hval : Nat.ofDigitChars 10 (w ++ f) 0 * 10 ^ k = p.toNat := by
    have := ofDigitChars_decimals p.toNat
    rw [hw, hk, ← List.append_assoc, Nat.ofDigitChars_append, Nat.ofDigitChars_replicate_zero] at this
    rw [mul_comm]
    exact this
  have hq : (Nat.ofDigitChars 10 (w ++ f) 0 : ℚ) / 10 ^ f.length = (p.toNat : ℚ) / 1000 := by
    have h10 : (1000 : ℚ) = 10 ^ f.length * 10 ^ k := by rw [← pow_add, hlen]; norm_num
    rw [← hval, h10]
    push_cast
    rw [mul_div_mul_right _ _ (by positivity)]
  by_cases h0 : f = []
  · rw [h0] at hq
    rw [scanDecimal]
    simp only [h0, if_true, List.append_nil, scanMantissa_whole hwd hw0]
    simpa [scanExponent] using hq
  · rw [scanDecimal]
    simp only [h0, if_false, scanMantissa_decimal hwd hw0 hfd]
    simpa [scanExponent] using hq

theorem stod_formatPTimeMs {p : UInt32} (h0 : p ≠ 0) (h : p ≤ 1000000) :
    stod (formatPTimeMs p) = some (.fin (round64 (p.toNat / 1000))) := by
  have hscan := scanDecimal_formatPTimeMs h
  have h1 : (1 : ℚ) ≤ p.toNat := by
    have : p.toNat ≠ 0 := fun e => h0 (UInt32.toNat_inj.mp e)
    exact_mod_cast Nat.one_le_iff_ne_zero.mpr this
  have h2 : (p.toNat : ℚ) ≤ 1000000 := by exact_mod_cast UInt32.le_iff_toNat_le.mp h
  obtain ⟨c, w, hw⟩ := List.exists_cons_of_ne_nil (showNat_ne_nil (p.toNat / 1000))
  rw [formatPTimeMs_eq h, hw, List.cons_append] at hscan ⊢
  have hdig : ∀ x ∈ c :: w, x.isDigit = true := fun x hx => isDigit_of_mem_showNat (hw ▸ hx)
  refine stod_of_scanDecimal (hdig c List.mem_cons_self) (fun x hx => ?_) hscan ?_ ?_
  · refine isDigit_or_of_mem_formatPTimeMs h ?_
    rw [formatPTimeMs_eq h, hw]
    exact List.mem_cons_of_mem _ hx
  · rw [le_div_iff₀ (by norm_num)]; norm_num; linarith
  · rw [div_le_iff₀ (by norm_num)]; linarith

/-- **A packet time survives its decimal form.** -/
theorem parsePTime_format (st : SDPSession) {p : UInt32} (h0 : p ≠ 0) (h : p ≤ 1000000) :
    parsePTimeAttribute (formatPTimeMs p) st = some { st with ptimeUs := p } := by
  have h1 : (1 : ℚ) ≤ p.toNat := by
    have : p.toNat ≠ 0 := fun e => h0 (UInt32.toNat_inj.mp e)
    exact_mod_cast Nat.one_le_iff_ne_zero.mpr this
  have hp : p.toNat ≤ 1000000 := UInt32.le_iff_toNat_le.mp h
  have h2 : (p.toNat : ℚ) ≤ 1000000 := by exact_mod_cast hp
  have hms := abs_lt.mp (abs_round64_sub_lt (q := (p.toNat : ℚ) / 1000) (by
    rw [abs_of_nonneg (by positivity), div_le_iff₀ (by norm_num)]; norm_num; linarith))
  have hms1 := hms.1
  have hms2 := hms.2
  norm_num at hms1 hms2
  have hpos : 0 < round64 ((p.toNat : ℚ) / 1000) := by linarith
  -- At the upper end the bound on the error is not enough, but `1000` itself is exact.
  have hle : round64 ((p.toNat : ℚ) / 1000) ≤ 1000 := by
    rcases Nat.lt_or_ge p.toNat 1000000 with hlt | hge
    · have : (p.toNat : ℚ) ≤ 999999 := by exact_mod_cast Nat.le_of_lt_succ hlt
      linarith
    · have e : (p.toNat : ℚ) / 1000 = (1000 : ℕ) := by
        have : p.toNat = 1000000 := le_antisymm hp hge
        rw [this]; norm_num
      rw [e, round64_natCast (by norm_num)]
      norm_num
  have hus := abs_lt.mp (abs_round64_sub_lt (q := round64 ((p.toNat : ℚ) / 1000) * 1000) (by
    rw [abs_of_nonneg (by linarith)]; norm_num; linarith))
  have hus1 := hus.1
  have hus2 := hus.2
  norm_num at hus1 hus2
  have hround : lround (round64 (round64 ((p.toNat : ℚ) / 1000) * 1000)) = (p.toNat : ℤ) := by
    refine lround_eq_of_abs_lt (round64_nonneg (by linarith)) ?_
    rw [abs_lt]
    push_cast
    constructor <;> linarith
  simp only [parsePTimeAttribute, stod_formatPTimeMs h0 h]
  rw [if_neg (by simp [hpos, hle]), hround, ofInt_toNat32]

theorem parsePTime_zero (st : SDPSession) : parsePTimeAttribute (formatPTimeMs 0) st = none := by
  have h : stod (formatPTimeMs 0) = some (.fin 0) := by decide +kernel
  simp [parsePTimeAttribute, h]

theorem lround_scaled_le {ms : ℚ} (h0 : 0 < ms) (h : ms ≤ 1000) :
    lround (round64 (ms * 1000)) ≤ 1000000 := by
  have hus := (abs_lt.mp (abs_round64_sub_lt (q := ms * 1000) (by
    rw [abs_of_nonneg (by linarith)]; norm_num; linarith))).2
  norm_num at hus
  exact lround_le (round64_nonneg (by linarith)) (by push_cast; linarith)

/-- A packet time read from a description is at most a second. -/
theorem ptime_le {ms : ℚ} (h0 : 0 < ms) (h : ms ≤ 1000) :
    UInt32.ofInt (lround (round64 (ms * 1000))) ≤ 1000000 := by
  have hle := lround_scaled_le h0 h
  have hge : 0 ≤ lround (round64 (ms * 1000)) := by
    rw [lround, if_pos (round64_nonneg (by linarith))]
    exact Int.floor_nonneg.mpr (by linarith [round64_nonneg (q := ms * 1000) (by linarith)])
  rw [UInt32.le_iff_toNat_le, UInt32.ofInt, UInt32.toNat_ofNat']
  change _ ≤ 1000000
  omega

end PTime

variable (st s : SDPSession)

/-! ## Session level -/

theorem parseLine_version : parseLine st "v=0".toList = some st := rfl

theorem parseLine_origin (now : UInt64) (hu : Token s.originUsername)
    (hn : Token s.originNetworkType) (ht : Token s.originAddressType) (ha : Token s.originAddress)
    (h0 : s.originAddress ≠ []) :
    parseLine st (generateOriginLine now s) = some { st with
      originUsername := s.originUsername
      sessionID := if s.sessionID = 0 then now else s.sessionID
      sessionVersion := s.sessionVersion
      originNetworkType := s.originNetworkType
      originAddressType := s.originAddressType
      originAddress := s.originAddress } := by
  have hs := splitString_tokens (l := [s.originUsername,
    showNat (if s.sessionID = 0 then now else s.sessionID).toNat, showNat s.sessionVersion.toNat,
    s.originNetworkType, s.originAddressType, s.originAddress])
    (by simp [hu, hn, ht, ha, token_showNat]) (by simp [h0])
  change parseOriginLine (words _) st = _
  simp only [parseOriginLine, hs, stoull_toNat, UInt64.ofNat_toNat]

theorem parseLine_origin_empty (now : UInt64) (hu : Token s.originUsername)
    (hn : Token s.originNetworkType) (ht : Token s.originAddressType) (h0 : s.originAddress = []) :
    parseLine st (generateOriginLine now s) = none := by
  have hw : ∀ id version : Text, words [s.originUsername, id, version, s.originNetworkType,
      s.originAddressType, s.originAddress] = s.originUsername ++ ' ' :: (id ++ ' ' :: (version ++
        ' ' :: (s.originNetworkType ++ ' ' :: (s.originAddressType ++ ' ' :: [])))) := by
    intro id version
    simp [words, List.intercalate, h0]
  change parseOriginLine (words _) st = _
  rw [parseOriginLine, hw, splitString, getlines_append_cons hu.space,
    getlines_append_cons (token_showNat _).space, getlines_append_cons (token_showNat _).space,
    getlines_append_cons hn.space, getlines_append_cons ht.space]
  rfl

theorem parseLine_sessionName (h : Trimmed s.sessionName) :
    parseLine st ("s=".toList ++ s.sessionName) = some { st with sessionName := s.sessionName } := by
  change some { st with sessionName := trim s.sessionName } = _
  rw [h]

theorem parseLine_sessionInfo (h : Trimmed s.sessionInfo) :
    parseLine st ("i=".toList ++ s.sessionInfo) = some { st with sessionInfo := s.sessionInfo } := by
  change some { st with sessionInfo := trim s.sessionInfo } = _
  rw [h]

theorem parseLine_timing :
    parseLine st ("t=".toList ++ words [showNat s.timeStart.toNat, showNat s.timeStop.toNat]) =
      some { st with timeStart := s.timeStart, timeStop := s.timeStop } := by
  have hs := splitString_tokens (l := [showNat s.timeStart.toNat, showNat s.timeStop.toNat])
    (by simp [token_showNat]) (by simp [showNat_ne_nil])
  change parseTimingLine (words _) st = _
  simp only [parseTimingLine, hs, stoull_toNat, UInt64.ofNat_toNat]

theorem parseLine_media (hm : Token s.mediaType) (ht : Token s.transport)
    (hp : s.payloadType ≤ 127) :
    parseLine st (generateMediaLine s) = some { st with
      mediaType := s.mediaType
      port := s.port
      transport := s.transport
      payloadType := s.payloadType } := by
  have hs := splitString_tokens (l := [s.mediaType, showNat s.port.toNat, s.transport,
    showNat s.payloadType.toNat]) (by simp [hm, ht, token_showNat]) (by simp [showNat_ne_nil])
  have h1 : s.port.toNat < 2 ^ 16 := s.port.toNat_lt
  have h2 : s.payloadType.toNat ≤ 127 := UInt8.le_iff_toNat_le.mp hp
  change parseMediaLine (words _) st = _
  rw [parseMediaLine, hs]
  simp only [stoi, stoSigned_showNat (w := 32) (n := s.port.toNat) (by omega),
    stoSigned_showNat (w := 32) (n := s.payloadType.toNat) (by omega)]
  rw [if_neg (by omega), if_neg (by omega), ofInt_toNat16, ofInt_toNat8]

theorem parseLine_connection (hc : Token s.connectionType) (hn : Token s.connectionNetwork)
    (hsp : ' ' ∉ s.connectionAddress) (hsl : '/' ∉ s.connectionAddress)
    (hh : s.connectionAddress.head?.all fun c => !isSpace c) (h0 : s.connectionAddress ≠ []) :
    parseLine st (generateConnectionLine s) = some { st with
      connectionType := s.connectionType
      connectionNetwork := s.connectionNetwork
      connectionAddress := if s.ttl = 0 then trim s.connectionAddress else s.connectionAddress
      ttl := if s.ttl = 0 then st.ttl else s.ttl } := by
  change parseConnectionLine (words _) st = _
  by_cases ht : s.ttl = 0
  · have hs := splitString_words (l := [s.connectionType, s.connectionNetwork,
      s.connectionAddress]) (by simp [hc.space, hn.space, hsp]) (by simp [h0])
    have hcut : cut ['/'] (trim s.connectionAddress) = none :=
      cut_char_eq_none.mpr fun h => hsl (trim_subset _ h)
    have e1 : trim s.connectionType = s.connectionType := hc.trimmed
    have e2 : trim s.connectionNetwork = s.connectionNetwork := hn.trimmed
    simp only [ht, ne_eq, not_true_eq_false, if_false, List.append_nil, if_true]
    simp only [parseConnectionLine, hs, List.map_cons, List.map_nil, e1, e2, hcut]
  · have htr : Trimmed (s.connectionAddress ++ '/' :: showNat s.ttl.toNat) := by
      rw [trimmed_iff]
      constructor
      · obtain ⟨c, l, hl⟩ := List.exists_cons_of_ne_nil h0
        rw [hl] at hh ⊢
        simpa using hh
      · rw [List.getLast?_append_of_ne_nil _ (by simp), List.getLast?_cons_of_ne_nil
          (showNat_ne_nil _), List.getLast?_eq_getLast_of_ne_nil (showNat_ne_nil _)]
        simp [isSpace_of_mem_showNat (List.getLast_mem (showNat_ne_nil s.ttl.toNat))]
    have hs := splitString_words (l := [s.connectionType, s.connectionNetwork,
      s.connectionAddress ++ '/' :: showNat s.ttl.toNat])
      (by simp [hc.space, hn.space, hsp, (token_showNat _).space]) (by simp)
    have e1 : trim s.connectionType = s.connectionType := hc.trimmed
    have e2 : trim s.connectionNetwork = s.connectionNetwork := hn.trimmed
    have e3 : stoi (showNat s.ttl.toNat) = some (s.ttl.toNat : ℤ) :=
      stoSigned_showNat (by have := s.ttl.toNat_lt; omega)
    rw [Trimmed] at htr
    simp only [ht, ne_eq, not_false_eq_true, if_true, if_false]
    simp only [parseConnectionLine, hs, List.map_cons, List.map_nil, e1, e2, htr, cut_char hsl, e3,
      ofInt_toNat8]

/-! ## Attributes -/

theorem parseLine_attribute {name : Text} (h : ':' ∉ name) (value : Text) :
    parseLine st ("a=".toList ++ name ++ ':' :: value) = parseAttribute name value st := by
  change parseAttributeLine (name ++ ':' :: value) st = _
  rw [parseAttributeLine, cut_char h]

theorem parseLine_flag {name : Text} (h : ':' ∉ name) :
    parseLine st ("a=".toList ++ name) = parseAttribute name [] st := by
  change parseAttributeLine name st = _
  rw [parseAttributeLine, cut_char_eq_none.mpr h]

theorem token_encoding (h : s.Valid) : ∀ c ∈ s.encoding, isSpace c = false ∧ c ≠ '/' := by
  have := h.encoding_known
  simp only [List.mem_cons, List.not_mem_nil, or_false] at this
  have hall : s.encoding.all (fun c => !isSpace c && c != '/') = true := by
    rcases this with h | h | h <;> rw [h] <;> decide
  simpa using hall

theorem token_rtpmapFormat (h : s.Valid) : Token (rtpmapFormat s) := by
  refine .of_forall fun c hc => ?_
  have hc : c ∈ s.encoding ++ '/' :: (showNat s.sampleRate.toNat ++
      '/' :: showNat s.numChannels.toNat) := by
    simpa [rtpmapFormat, List.intercalate] using hc
  simp only [List.mem_append, List.mem_cons] at hc
  rcases hc with hc | rfl | hc | rfl | hc
  · exact (token_encoding s h c hc).1
  · rfl
  · exact isSpace_of_mem_showNat hc
  · rfl
  · exact isSpace_of_mem_showNat hc

theorem splitString_rtpmapFormat (h : s.Valid) : splitString (rtpmapFormat s) '/' =
    [s.encoding, showNat s.sampleRate.toNat, showNat s.numChannels.toNat] := by
  have hslash : ∀ n, '/' ∉ showNat n := fun n hm => absurd (isDigit_of_mem_showNat hm) (by decide)
  have e : ∀ n, trim (showNat n) = showNat n := fun n => (token_showNat n).trimmed
  change (getlines '/' (List.intercalate ['/'] _)).map trim = _
  rw [getlines_intercalate]
  · simp only [List.map_cons, List.map_nil, e,
      trim_of_forall fun c hc => (token_encoding s h c hc).1]
  · simp only [List.mem_cons, List.not_mem_nil, or_false]
    rintro t (rfl | rfl | rfl)
    · exact fun hm => (token_encoding s h _ hm).2 rfl
    · exact hslash _
    · exact hslash _
  · simp [showNat_ne_nil]

theorem parseLine_rtpmap (h : s.Valid) (hp : st.payloadType = s.payloadType) :
    parseLine st (rtpmapLine s) = some { st with
      encoding := s.encoding
      sampleRate := s.sampleRate
      numChannels := s.numChannels } := by
  have hparts := splitString_tokens (l := [showNat s.payloadType.toNat, rtpmapFormat s])
    (by simp [token_showNat, token_rtpmapFormat s h]) (by simp [rtpmapFormat, List.intercalate])
  have h1 : stoi (showNat s.payloadType.toNat) = some (s.payloadType.toNat : ℤ) :=
    stoSigned_showNat (by have := s.payloadType.toNat_lt; omega)
  have h2 : stoull (showNat s.sampleRate.toNat) = some s.sampleRate.toNat :=
    stoull_showNat (by have := s.sampleRate.toNat_lt; omega)
  have h3 : stol (showNat s.numChannels.toNat) = some (s.numChannels.toNat : ℤ) :=
    stoSigned_showNat (by have := s.numChannels.toNat_lt; omega)
  have h4 : ¬ ((s.numChannels.toNat : ℤ) < 1 ∨ (s.numChannels.toNat : ℤ) > 65535) := by
    have := s.numChannels.toNat_lt
    have : s.numChannels.toNat ≠ 0 := fun e => h.numChannels_ne (UInt16.toNat_inj.mp e)
    omega
  change parseLine st ("a=".toList ++ "rtpmap".toList ++ ':' :: words _) = _
  rw [parseLine_attribute _ (by decide)]
  change parseRTPMapAttribute _ st = _
  simp only [parseRTPMapAttribute, hparts, splitString_rtpmapFormat s h, h1, h2, h3, if_neg h4, hp,
    ne_eq, not_true_eq_false, if_false, UInt32.ofNat_toNat, ofInt_toNat16]

theorem parseLine_framecount : (framecountLines s).foldlM parseLine st = some { st with
    framecount := if s.framecount = 0 then st.framecount else s.framecount } := by
  rw [framecountLines]
  by_cases h : s.framecount = 0
  · simp [h]
  · have h1 : stoull (showNat s.framecount.toNat) = some s.framecount.toNat :=
      stoull_showNat (by have := s.framecount.toNat_lt; omega)
    rw [if_pos (UInt32.pos_iff_ne_zero.mpr h), List.foldlM_cons]
    change (parseLine st ("a=".toList ++ "framecount".toList ++ ':' :: _) >>= _) = _
    rw [parseLine_attribute _ (by decide)]
    change (parseFrameCountAttribute _ st >>= _) = _
    simp [parseFrameCountAttribute, h1, h]

theorem parseLine_direction (h : s.direction ∈ directions) :
    parseLine st ("a=".toList ++ s.direction) = some { st with direction := s.direction } := by
  have hd := h
  simp only [directions, List.mem_cons, List.not_mem_nil, or_false] at hd
  rcases hd with hd | hd | hd | hd <;> rw [hd] <;> rfl

theorem parseLine_mediaClock : (mediaClockLines s).foldlM parseLine st = some { st with
    mediaClockType := if s.mediaClockType = [] then st.mediaClockType else s.mediaClockType } := by
  rw [mediaClockLines]
  by_cases h : s.mediaClockType = []
  · simp [h]
  · rw [if_pos h, List.foldlM_cons]
    change (parseLine st ("a=".toList ++ "mediaclk".toList ++ ':' :: _) >>= _) = _
    rw [parseLine_attribute _ (by decide), if_neg h]
    rfl

theorem parseLine_sourceFilter (hc : ' ' ∉ s.connectionAddress) (hs : Token s.sourceAddress) :
    (sourceFilterLines s).foldlM parseLine st = some { st with
      sourceAddress := if s.sourceAddress = [] then st.sourceAddress else s.sourceAddress } := by
  rw [sourceFilterLines]
  by_cases h : s.sourceAddress = []
  · simp [h]
  · -- The value starts with the space after the colon, which the parser strips first.
    have htrim : trim (' ' :: words ["incl".toList, "IN".toList, "IP4".toList,
        s.connectionAddress, s.sourceAddress]) = words ["incl".toList, "IN".toList, "IP4".toList,
        s.connectionAddress, s.sourceAddress] := by
      rw [trim_cons_of_isSpace (by decide)]
      refine trimmed_iff.mpr ⟨rfl, ?_⟩
      have hw : words ["incl".toList, "IN".toList, "IP4".toList, s.connectionAddress,
          s.sourceAddress] = ("incl IN IP4 ".toList ++ s.connectionAddress ++ [' ']) ++
            s.sourceAddress := by
        simp [words, List.intercalate]
      rw [hw, List.getLast?_append_of_ne_nil _ h]
      exact (trimmed_iff.mp hs.trimmed).2
    have hsplit := splitString_words (l := ["incl".toList, "IN".toList, "IP4".toList,
      s.connectionAddress, s.sourceAddress]) (by simp [hc, hs.space]) (by simp [h])
    have e : trim s.sourceAddress = s.sourceAddress := hs.trimmed
    rw [if_pos h, List.foldlM_cons]
    change (parseLine st ("a=".toList ++ "source-filter".toList ++ ':' :: ' ' :: words _) >>= _) = _
    rw [parseLine_attribute _ (by decide)]
    change (parseSourceFilterAttribute _ st >>= _) = _
    simp only [parseSourceFilterAttribute, htrim, hsplit, List.map_cons, e, if_neg h]
    rfl

/-! ## The reference clock -/

theorem cutLast_append {d : Char} {b : Text} (h : d ∉ b) (a : Text) :
    cutLast d (a ++ d :: b) = some (a, b) := by
  have hb : ∀ c ∈ b, decide (c ≠ d) = true := fun c hc => by
    simpa using fun e : c = d => h (e ▸ hc)
  have h1 : (a ++ d :: b).rdropWhile (· ≠ d) = a ++ [d] := by
    rw [rdropWhile_append_cons (by simp), List.rdropWhile_eq_nil_iff.mpr hb]
  have h2 : (a ++ d :: b).rtakeWhile (· ≠ d) = b := by
    rw [List.rtakeWhile, List.reverse_append, List.reverse_cons, List.append_assoc,
      List.takeWhile_append_of_pos fun c hc => hb c (List.mem_reverse.mp hc)]
    simp
  simp only [cutLast, List.mem_append, List.mem_cons, true_or, or_true, if_true, h1, h2,
    List.dropLast_concat]

theorem not_contains_domain {gmid ds : Text} (h : ¬ ":domain-nmbr=".toList <:+: gmid)
    (hd : ∀ c ∈ ds, c.isDigit = true) : ¬ ":domain-nmbr=".toList <:+: gmid ++ ':' :: ds := by
  intro hin
  have hhead : ':' :: "domain-nmbr=".toList <:+: gmid ++ ':' :: ds := hin
  rcases infix_append_cons_head (by decide) hhead with hin | hin
  · exact h hin
  · exact absurd (hd 'd' (hin (by decide))) (by decide)

theorem parseGrandmaster_show {gmid : Text} (h : ¬ ":domain-nmbr=".toList <:+: gmid) {n : ℕ}
    (hn : n < 2 ^ 31) : parseGrandmaster (gmid ++ ':' :: showNat n) st =
      { st with ptpMasterMAC := gmid, ptpDomain := Int32.ofInt n } := by
  have hd : ∀ c ∈ showNat n, c.isDigit = true := fun _ => isDigit_of_mem_showNat
  have h1 := cut_eq_none.mpr (not_contains_domain h hd)
  have h2 : cutLast ':' (gmid ++ ':' :: showNat n) = some (gmid, showNat n) :=
    cutLast_append (fun hm => absurd (hd _ hm) (by decide)) gmid
  have h3 : stoi (showNat n) = some (n : ℤ) := stoSigned_showNat hn
  simp only [parseGrandmaster, h1, h2]
  rw [if_pos ⟨showNat_ne_nil n, List.all_eq_true.mpr hd⟩]
  simp only [parseDomainOr, h3]

theorem showInt_of_nonneg {d : Int32} (h : 0 ≤ d) : showInt d.toInt = showNat d.toInt.natAbs := by
  have : 0 ≤ d.toInt := Int32.le_iff_toInt_le.mp h
  rw [showInt, if_neg (by omega)]

/-- The description names a grandmaster. -/
def Named (s : SDPSession) : Prop :=
  s.ptpTraceable = false ∧ s.ptpDomain ≥ 0 ∧ s.ptpMasterMAC ≠ []

instance : DecidablePred Named := fun _ => inferInstanceAs (Decidable (_ ∧ _))

theorem parseLine_refClock (ht : ¬ "traceable".toList <:+: s.ptpMasterMAC)
    (hn : ¬ ":domain-nmbr=".toList <:+: s.ptpMasterMAC) :
    (refClockLines s).foldlM parseLine st = some { st with
      ptpTraceable := if s.ptpTraceable then true else st.ptpTraceable
      ptpMasterMAC := if s.ptpTraceable then [] else
        if Named s then s.ptpMasterMAC else st.ptpMasterMAC
      ptpDomain := if Named s then s.ptpDomain else st.ptpDomain } := by
  rw [refClockLines]
  by_cases h1 : s.ptpTraceable = true
  · have : ¬ Named s := fun h => by rw [h.1] at h1; cases h1
    simp only [h1, if_true, List.foldlM_cons, List.foldlM_nil, this, if_false]
    rfl
  rw [if_neg h1]
  by_cases h2 : s.ptpDomain ≥ 0 ∧ s.ptpMasterMAC ≠ []
  swap
  · have : ¬ Named s := fun h => h2 h.2
    simp only [h1, h2, this, if_false]
    rfl
  have hnamed : Named s := ⟨by simpa using h1, h2⟩
  simp only [h1, hnamed, if_true]
  rw [if_pos h2, List.foldlM_cons, showInt_of_nonneg h2.1]
  have hd : 0 ≤ s.ptpDomain.toInt := Int32.le_iff_toInt_le.mp h2.1
  have hlt := s.ptpDomain.toInt_lt
  generalize hk : s.ptpDomain.toInt.natAbs = n
  have hdig : ∀ c ∈ showNat n, c.isDigit = true := fun _ => isDigit_of_mem_showNat
  have hdom : Int32.ofInt n = s.ptpDomain := by
    rw [← Int32.ofInt_toInt s.ptpDomain]
    congr 1
    omega
  have htr : contains "traceable".toList ("ptp=IEEE1588-2008:".toList ++
      (s.ptpMasterMAC ++ ':' :: showNat n)) = false := by
    rw [Bool.eq_false_iff, Ne, contains_iff]
    intro hin
    rw [show "ptp=IEEE1588-2008:".toList = "ptp=IEEE1588-2008".toList ++ [':'] from rfl,
      List.append_assoc, List.singleton_append] at hin
    rcases infix_append_cons (by decide) hin with hin | hin
    · exact absurd (contains_iff.mpr hin) (by decide)
    · rcases infix_append_cons (by decide) hin with hin | hin
      · exact ht hin
      · exact absurd (hdig 't' (hin.subset (by decide))) (by decide)
  have hstrip : (s.ptpMasterMAC ++ ':' :: showNat n).rdropWhile isTrailing =
      s.ptpMasterMAC ++ ':' :: showNat n := by
    rw [List.rdropWhile_eq_self_iff]
    intro hne
    have hmem : (s.ptpMasterMAC ++ ':' :: showNat n).getLast hne ∈ showNat n := by
      rw [List.getLast_append_of_ne_nil _ (by simp), List.getLast_cons (showNat_ne_nil n)]
      exact List.getLast_mem _
    have := isSpace_of_mem_showNat hmem
    simp_all [isSpace, isTrailing]
  have hprefix : "ptp=IEEE1588-2008:".toList ≠ [] := by decide
  have hcut := cut_append hprefix (s.ptpMasterMAC ++ ':' :: showNat n)
  have hline : "a=ts-refclk:ptp=IEEE1588-2008:".toList ++ s.ptpMasterMAC ++ ':' :: showNat n =
      "a=".toList ++ "ts-refclk".toList ++ ':' :: ("ptp=IEEE1588-2008:".toList ++
        (s.ptpMasterMAC ++ ':' :: showNat n)) := by
    simp
  rw [hline, parseLine_attribute _ (by decide)]
  change (some (parsePTPRefClockAttribute _ st) >>= _) = _
  rw [parsePTPRefClockAttribute, htr, hcut]
  simp only [Bool.false_eq_true, if_false, hstrip, parseGrandmaster_show st hn (n := n) (by omega),
    hdom]
  rfl

/-! ## Custom attributes -/

theorem parseAttribute_custom {name : Text} (h : name ∉ interpreted) (hd : name ∉ directions)
    (value : Text) : parseAttribute name value st =
      some { st with customAttributes := st.customAttributes.insert name value } := by
  simp only [interpreted, List.mem_cons, List.not_mem_nil, or_false, not_or] at h
  simp only [parseAttribute, h.1, h.2.1, h.2.2.1, h.2.2.2.1, h.2.2.2.2.1, h.2.2.2.2.2, hd, if_false]

theorem parseLine_clockDomain : (clockDomainLines s).foldlM parseLine st = some { st with
    customAttributes := if s.ptpDomain ≥ 0 ∧ s.customAttributes.find? clockDomain = none then
      st.customAttributes.insert clockDomain (clockDomainValue s) else st.customAttributes } := by
  rw [clockDomainLines]
  split_ifs with h
  · rw [List.foldlM_cons]
    change (parseLine st ("a=".toList ++ clockDomain ++ ':' :: _) >>= _) = _
    rw [parseLine_attribute _ (by decide), parseAttribute_custom _ (by decide) (by decide)]
    rfl
  · rfl

/-- A custom attribute the parser stores as it finds it. -/
structure Custom (e : Text × Text) : Prop where
  colon : ':' ∉ e.1
  line : '\n' ∉ e.1
  interpreted : e.1 ∉ interpreted
  direction : e.1 ∉ directions
  value : '\n' ∉ e.2

theorem parseLine_custom {e : Text × Text} (h : Custom e) : parseLine st (customLine e) =
    some { st with customAttributes := st.customAttributes.insert e.1 e.2 } := by
  rw [customLine]
  split_ifs with h0
  · rw [parseLine_flag _ h.colon, parseAttribute_custom _ h.interpreted h.direction, h0]
  · rw [parseLine_attribute _ h.colon, parseAttribute_custom _ h.interpreted h.direction]

theorem parseLine_customs {l : List (Text × Text)} (h : ∀ e ∈ l, Custom e) :
    (l.map customLine).foldlM parseLine st = some { st with
      customAttributes := l.foldl (fun m e => m.insert e.1 e.2) st.customAttributes } := by
  induction l generalizing st with
  | nil => rfl
  | cons e l ih =>
    rw [List.map_cons, List.foldlM_cons, parseLine_custom st (h e List.mem_cons_self)]
    exact ih _ fun e he => h e (List.mem_cons_of_mem _ he)

end Aes67.Sdp
