import Aes67.Sdp.Numbers

/-!
# What repeated attributes leave of a session

The lines of a description arrive in any order and any number, and each one overwrites fields of
the session the lines before it left. For the format, the packet time and the reference clock the
last line that speaks of a field decides it.

* `attributeOf`, `given`: the attributes of the lines, and the values a name is given;
* `parseLine_cases`: the four things a line can do to these fields; `foldlM_last`: the last line
  that sets a field decides it;
* **`accepted_iff`**: an accepted session names a grandmaster or a traceable reference and not both,
  and has a packet time, just where the lines say so;
* **`selected_format`**: the format is that of the last `a=rtpmap` for the selected payload type, and
  the lines for other payload types are of no account.
-/

namespace Aes67.Sdp

open SDPSession

/-! ## Attributes -/

/-- The attribute a line gives, with its value. -/
def attributeOf : Text → Option (Text × Text)
  | 'a' :: '=' :: line => some ((cut [':'] line).getD (line, []))
  | _ => none

/-- The value a line gives the attribute `name`. -/
def valueOf (name line : Text) : Option Text :=
  match attributeOf line with
  | some (n, value) => if n = name then some value else none
  | none => none

/-- The values the lines give the attribute `name`, in order. -/
def given (name : Text) (lines : List Text) : List Text := lines.filterMap (valueOf name)

theorem valueOf_eq_some {name line value : Text} :
    valueOf name line = some value ↔ attributeOf line = some (name, value) := by
  rw [valueOf]
  split
  · next n v ha =>
    rw [ha]
    constructor
    · intro h
      split_ifs at h with hn
      cases h
      rw [hn]
    · intro h
      cases h
      rw [if_pos rfl]
  · next ha => simp [ha]

/-- The fields no line writes but `a=rtpmap`, `a=ptime` and `a=ts-refclk`. -/
structure Untouched (s s' : SDPSession) : Prop where
  encoding : s'.encoding = s.encoding
  sampleRate : s'.sampleRate = s.sampleRate
  numChannels : s'.numChannels = s.numChannels
  ptimeUs : s'.ptimeUs = s.ptimeUs
  ptpMasterMAC : s'.ptpMasterMAC = s.ptpMasterMAC
  ptpTraceable : s'.ptpTraceable = s.ptpTraceable

theorem Untouched.refl (s : SDPSession) : Untouched s s := ⟨rfl, rfl, rfl, rfl, rfl, rfl⟩

/-- What an attribute does to these fields. -/
inductive Does (s s' : SDPSession) (named : Text → Option Text) : Prop
  | rtpmap (value : Text) (h : named "rtpmap".toList = some value)
      (parsed : parseRTPMapAttribute value s = some s')
  | ptime (value : Text) (h : named "ptime".toList = some value)
      (parsed : parsePTimeAttribute value s = some s')
  | refClock (value : Text) (h : named "ts-refclk".toList = some value)
      (parsed : parsePTPRefClockAttribute value s = s')
  | other (hr : named "rtpmap".toList = none) (hp : named "ptime".toList = none)
      (hc : named "ts-refclk".toList = none) (kept : Untouched s s')

variable {s s' : SDPSession} {line : Text}

theorem parseAttribute_cases {name value : Text} (h : parseAttribute name value s = some s') :
    Does s s' (fun n => if name = n then some value else none) := by
  rw [parseAttribute] at h
  split_ifs at h with h1 h2 h3 h4 h5 h6 h7
  · exact .rtpmap value (if_pos h1) h
  · exact .ptime value (if_pos h2) h
  · refine .other (if_neg h1) (if_neg h2) (if_neg fun e => absurd (h3.symm.trans e) (by decide)) ?_
    rw [parseFrameCountAttribute] at h
    split at h <;> cases h
    exact ⟨rfl, rfl, rfl, rfl, rfl, rfl⟩
  · refine .other (if_neg h1) (if_neg h2) (if_neg fun e => absurd (h4.symm.trans e) (by decide)) ?_
    rw [parseSourceFilterAttribute] at h
    split at h <;> cases h
    exact ⟨rfl, rfl, rfl, rfl, rfl, rfl⟩
  · exact .refClock value (if_pos h5) (Option.some.inj h)
  all_goals
    cases h
    exact .other (if_neg h1) (if_neg h2) (if_neg h5) ⟨rfl, rfl, rfl, rfl, rfl, rfl⟩

def isMedia : Text → Bool
  | 'm' :: '=' :: _ => true
  | _ => false

theorem parseOriginLine_untouched {value : Text} (h : parseOriginLine value s = some s') :
    Untouched s s' ∧ s'.payloadType = s.payloadType := by
  rw [parseOriginLine] at h
  repeat' split at h
  all_goals cases h
  exact ⟨⟨rfl, rfl, rfl, rfl, rfl, rfl⟩, rfl⟩

theorem parseConnectionLine_untouched {value : Text} (h : parseConnectionLine value s = some s') :
    Untouched s s' ∧ s'.payloadType = s.payloadType := by
  simp only [parseConnectionLine] at h
  split at h
  · split at h
    · cases h
      exact ⟨⟨rfl, rfl, rfl, rfl, rfl, rfl⟩, rfl⟩
    · cases h
      exact ⟨⟨rfl, rfl, rfl, rfl, rfl, rfl⟩, rfl⟩
  · cases h

theorem parseTimingLine_untouched {value : Text} (h : parseTimingLine value s = some s') :
    Untouched s s' ∧ s'.payloadType = s.payloadType := by
  rw [parseTimingLine] at h
  repeat' split at h
  all_goals cases h
  exact ⟨⟨rfl, rfl, rfl, rfl, rfl, rfl⟩, rfl⟩

theorem parseMediaLine_untouched {value : Text} (h : parseMediaLine value s = some s') :
    Untouched s s' := by
  rw [parseMediaLine] at h
  repeat' split at h
  all_goals cases h
  exact ⟨rfl, rfl, rfl, rfl, rfl, rfl⟩

/-- Nothing but an attribute touches these fields, and nothing but an `m=` line the payload type. -/
theorem parseLine_untouched (ha : attributeOf line = none) (h : parseLine s line = some s') :
    Untouched s s' ∧ (isMedia line = false → s'.payloadType = s.payloadType) := by
  rw [parseLine.eq_def] at h
  split at h
  · next type value =>
    split_ifs at h with h1 h2 h3 h4 h5 h6 h7 h8 h9
    · cases h
      exact ⟨.refl s, fun _ => rfl⟩
    · exact (parseOriginLine_untouched h).imp_right fun h _ => h
    · cases h
      exact ⟨⟨rfl, rfl, rfl, rfl, rfl, rfl⟩, fun _ => rfl⟩
    · cases h
      exact ⟨⟨rfl, rfl, rfl, rfl, rfl, rfl⟩, fun _ => rfl⟩
    · exact (parseConnectionLine_untouched h).imp_right fun h _ => h
    · exact (parseTimingLine_untouched h).imp_right fun h _ => h
    · refine ⟨parseMediaLine_untouched h, fun hm => ?_⟩
      subst h8
      cases hm
    · subst h9
      cases ha
    · cases h
      exact ⟨.refl s, fun _ => rfl⟩
  · cases h
    exact ⟨.refl s, fun _ => rfl⟩

theorem parseLine_of_attribute {name value : Text} (ha : attributeOf line = some (name, value)) :
    parseLine s line = parseAttribute name value s := by
  rw [attributeOf.eq_def] at ha
  split at ha
  · next rest =>
    change parseAttributeLine rest s = _
    rw [parseAttributeLine]
    rcases hcut : cut [':'] rest with _ | ⟨n, v⟩
    · rw [hcut] at ha
      cases ha
      rfl
    · rw [hcut] at ha
      cases ha
      rfl
  · cases ha

/-- **What a line can do** to the format, the packet time and the reference clock. -/
theorem parseLine_cases (h : parseLine s line = some s') : Does s s' (valueOf · line) := by
  rcases ha : attributeOf line with _ | ⟨name, value⟩
  · have hnone : ∀ name, valueOf name line = none := fun name => by rw [valueOf, ha]
    exact .other (hnone _) (hnone _) (hnone _) (parseLine_untouched ha h).1
  · have hvalue : (valueOf · line) = fun n => if name = n then some value else none := by
      funext n
      rw [valueOf, ha]
    rw [hvalue]
    rw [parseLine_of_attribute ha] at h
    exact parseAttribute_cases h

theorem valueOf_eq_none {n m : Text} {value : Text} (h : valueOf n line = some value) (hnm : n ≠ m) :
    valueOf m line = none := by
  rw [valueOf, valueOf_eq_some.mp h]
  exact if_neg hnm

theorem parseRTPMapAttribute_kept {value : Text} (h : parseRTPMapAttribute value s = some s') :
    s'.ptimeUs = s.ptimeUs ∧ s'.ptpMasterMAC = s.ptpMasterMAC ∧ s'.ptpTraceable = s.ptpTraceable ∧
      s'.payloadType = s.payloadType := by
  simp only [parseRTPMapAttribute] at h
  repeat' split at h
  all_goals
    cases h
    try exact ⟨rfl, rfl, rfl, rfl⟩

theorem parsePTimeAttribute_kept {value : Text} (h : parsePTimeAttribute value s = some s') :
    s'.encoding = s.encoding ∧ s'.sampleRate = s.sampleRate ∧ s'.numChannels = s.numChannels ∧
      s'.ptpMasterMAC = s.ptpMasterMAC ∧ s'.ptpTraceable = s.ptpTraceable := by
  rw [parsePTimeAttribute] at h
  split at h
  · split_ifs at h
    cases h
    exact ⟨rfl, rfl, rfl, rfl, rfl⟩
  · cases h

theorem parsePTPRefClockAttribute_kept (value : Text) :
    (parsePTPRefClockAttribute value s).encoding = s.encoding ∧
      (parsePTPRefClockAttribute value s).sampleRate = s.sampleRate ∧
      (parsePTPRefClockAttribute value s).numChannels = s.numChannels ∧
      (parsePTPRefClockAttribute value s).ptimeUs = s.ptimeUs := by
  rw [parsePTPRefClockAttribute]
  split_ifs
  · exact ⟨rfl, rfl, rfl, rfl⟩
  · split
    · rw [parseGrandmaster]
      repeat' split
      all_goals exact ⟨rfl, rfl, rfl, rfl⟩
    · exact ⟨rfl, rfl, rfl, rfl⟩

/-- The reference clock is changed by `a=ts-refclk` alone. -/
theorem refClock_of_parseLine (h : parseLine s line = some s') :
    (valueOf "ts-refclk".toList line = none ∧ s'.ptpMasterMAC = s.ptpMasterMAC ∧
      s'.ptpTraceable = s.ptpTraceable) ∨
    ∃ value, valueOf "ts-refclk".toList line = some value ∧
      s' = parsePTPRefClockAttribute value s := by
  cases parseLine_cases h with
  | rtpmap value hv parsed =>
    obtain ⟨-, h1, h2, -⟩ := parseRTPMapAttribute_kept parsed
    exact .inl ⟨valueOf_eq_none hv (by decide), h1, h2⟩
  | ptime value hv parsed =>
    obtain ⟨-, -, -, h1, h2⟩ := parsePTimeAttribute_kept parsed
    exact .inl ⟨valueOf_eq_none hv (by decide), h1, h2⟩
  | refClock value hv parsed => exact .inr ⟨value, hv, parsed.symm⟩
  | other hr hp hc kept => exact .inl ⟨hc, kept.ptpMasterMAC, kept.ptpTraceable⟩

/-- The packet time is changed by `a=ptime` alone. -/
theorem ptimeUs_of_parseLine (h : parseLine s line = some s') :
    (valueOf "ptime".toList line = none ∧ s'.ptimeUs = s.ptimeUs) ∨
    ∃ value, valueOf "ptime".toList line = some value ∧ parsePTimeAttribute value s = some s' := by
  cases parseLine_cases h with
  | rtpmap value hv parsed =>
    exact .inl ⟨valueOf_eq_none hv (by decide), (parseRTPMapAttribute_kept parsed).1⟩
  | ptime value hv parsed => exact .inr ⟨value, hv, parsed⟩
  | refClock value hv parsed =>
    subst parsed
    exact .inl ⟨valueOf_eq_none hv (by decide), (parsePTPRefClockAttribute_kept value).2.2.2⟩
  | other hr hp hc kept => exact .inl ⟨hp, kept.ptimeUs⟩

/-- The format is changed by `a=rtpmap` alone. -/
theorem format_of_parseLine (h : parseLine s line = some s') :
    (valueOf "rtpmap".toList line = none ∧ s'.encoding = s.encoding ∧
      s'.sampleRate = s.sampleRate ∧ s'.numChannels = s.numChannels) ∨
    ∃ value, valueOf "rtpmap".toList line = some value ∧
      parseRTPMapAttribute value s = some s' := by
  cases parseLine_cases h with
  | rtpmap value hv parsed => exact .inr ⟨value, hv, parsed⟩
  | ptime value hv parsed =>
    obtain ⟨h1, h2, h3, -⟩ := parsePTimeAttribute_kept parsed
    exact .inl ⟨valueOf_eq_none hv (by decide), h1, h2, h3⟩
  | refClock value hv parsed =>
    subst parsed
    obtain ⟨h1, h2, h3, -⟩ := parsePTPRefClockAttribute_kept (s := s) value
    exact .inl ⟨valueOf_eq_none hv (by decide), h1, h2, h3⟩
  | other hr hp hc kept => exact .inl ⟨hr, kept.encoding, kept.sampleRate, kept.numChannels⟩

/-! ## All lines -/

section Lines

variable {β : Type*} {field : SDPSession → β} {setBy : Text → Option β} {P : SDPSession → Prop}
  {lines : List Text}

/-- **The last line that sets a field decides it**, and what every line keeps is kept. -/
theorem foldlM_last (hstep : ∀ line ∈ lines, ∀ s s', P s → parseLine s line = some s' →
      P s' ∧ field s' = (setBy line).getD (field s))
    (h0 : P s) (h : lines.foldlM parseLine s = some s') :
    P s' ∧ field s' = (lines.filterMap setBy).getLast?.getD (field s) := by
  induction lines generalizing s with
  | nil =>
    cases h
    exact ⟨h0, rfl⟩
  | cons line lines ih =>
    rw [List.foldlM_cons] at h
    obtain ⟨s₁, h1, h2⟩ := Option.bind_eq_some_iff.mp h
    obtain ⟨hp, hf⟩ := hstep line List.mem_cons_self s s₁ h0 h1
    obtain ⟨hp', hf'⟩ := ih (fun l hl => hstep l (List.mem_cons_of_mem _ hl)) hp h2
    refine ⟨hp', hf'.trans ?_⟩
    rw [hf]
    rcases hset : setBy line with _ | b
    · rw [List.filterMap_cons_none hset, Option.getD_none]
    · rw [List.filterMap_cons_some hset, List.getLast?_cons, Option.getD_some, Option.getD_some]

/-- Every line of a description that is read to the end is read. -/
theorem exists_parseLine_of_mem (h : lines.foldlM parseLine s = some s') (hl : line ∈ lines) :
    ∃ s₁ s₂, parseLine s₁ line = some s₂ := by
  induction lines generalizing s with
  | nil => cases hl
  | cons l lines ih =>
    rw [List.foldlM_cons] at h
    obtain ⟨s₁, h1, h2⟩ := Option.bind_eq_some_iff.mp h
    rcases List.mem_cons.mp hl with rfl | hl
    · exact ⟨s, s₁, h1⟩
    · exact ih h2 hl

end Lines

/-! ## The reference clock -/

/-- A domain with no identity before it. -/
def bareDomain : Text → Bool
  | ':' :: tail => !tail.isEmpty && tail.all Char.isDigit
  | _ => false

/-- The references `parseGrandmaster` finds no identity in. -/
def nameless (rest : Text) : Bool :=
  rest.isEmpty || ":domain-nmbr=".toList.isPrefixOf rest || bareDomain rest

/-- Whether a reference clock names a grandmaster. A traceable one does not, and one of another
form says nothing. -/
def names (value : Text) : Option Bool :=
  if contains "traceable".toList value then some false
  else (cut "ptp=IEEE1588-2008:".toList value).map fun e => !nameless (e.2.rdropWhile isTrailing)

theorem parseGrandmaster_traceable (rest : Text) :
    (parseGrandmaster rest s).ptpTraceable = s.ptpTraceable := by
  rw [parseGrandmaster]
  repeat' split
  all_goals rfl

theorem exists_last_of_mem {d : Char} {t : Text} (h : d ∈ t) :
    ∃ a b, t = a ++ d :: b ∧ d ∉ b := by
  obtain ⟨b, a, hr, hb⟩ := List.eq_append_cons_of_mem (List.mem_reverse.mpr h)
  refine ⟨a.reverse, b.reverse, ?_, fun hm => hb (List.mem_reverse.mp hm)⟩
  have ht : t = (b ++ d :: a).reverse := by rw [← hr, List.reverse_reverse]
  rw [ht]
  simp

theorem not_all_isDigit (a b : Text) : (a ++ ':' :: b).all Char.isDigit = false := by
  rw [List.all_append, List.all_cons, show Char.isDigit ':' = false by decide, Bool.false_and,
    Bool.and_false]

theorem bareDomain_iff {rest : Text} : bareDomain rest = true ↔
    ∃ tail, rest = ':' :: tail ∧ tail ≠ [] ∧ tail.all Char.isDigit = true := by
  rw [bareDomain.eq_def]
  split
  · next tail =>
    rw [Bool.and_eq_true, Bool.not_eq_true', ← Bool.not_eq_true, List.isEmpty_iff]
    constructor
    · rintro ⟨hne, hd⟩
      exact ⟨tail, rfl, hne, hd⟩
    · rintro ⟨_, heq, hne, hd⟩
      cases heq
      exact ⟨hne, hd⟩
  · next hne =>
    constructor
    · intro hf
      cases hf
    · rintro ⟨tail, heq, -, -⟩
      exact absurd heq (hne tail)

theorem nameless_iff {rest : Text} : nameless rest = true ↔
    rest = [] ∨ ":domain-nmbr=".toList <+: rest ∨ bareDomain rest = true := by
  rw [nameless, Bool.or_eq_true, Bool.or_eq_true, List.isEmpty_iff, List.isPrefixOf_iff_prefix,
    or_assoc]

/-- Before the last colon of a bare domain nothing stands. -/
theorem bareDomain_append {a b : Text} (hb : bareDomain (a ++ ':' :: b) = true) :
    a = [] ∧ b ≠ [] ∧ b.all Char.isDigit = true := by
  obtain ⟨tail, htail, hne, hall⟩ := bareDomain_iff.mp hb
  rcases List.append_eq_cons_iff.mp htail with ⟨ha, hab⟩ | ⟨a', -, rfl⟩
  · cases hab
    exact ⟨ha, hne, hall⟩
  · rw [not_all_isDigit] at hall
    cases hall

theorem parseGrandmaster_eq_nil (rest : Text) :
    (parseGrandmaster rest s).ptpMasterMAC = [] ↔ nameless rest = true := by
  rw [parseGrandmaster, nameless_iff]
  rcases hcut : cut ":domain-nmbr=".toList rest with _ | ⟨gmid, domain⟩
  · have hprefix : ¬ ":domain-nmbr=".toList <+: rest :=
      fun hp => cut_eq_none.mp hcut hp.isInfix
    rw [or_iff_right_of_imp fun hp => absurd hp hprefix]
    by_cases hc : ':' ∈ rest
    · obtain ⟨a, b, rfl, hb⟩ := exists_last_of_mem hc
      have hne : a ++ ':' :: b ≠ [] := by simp
      rw [or_iff_right hne]
      simp only [cutLast_append hb]
      split_ifs with hd
      · change a = [] ↔ _
        constructor
        · rintro rfl
          exact bareDomain_iff.mpr ⟨b, rfl, hd⟩
        · exact fun h => (bareDomain_append h).1
      · change a ++ ':' :: b = [] ↔ _
        exact iff_of_false hne fun h => hd (bareDomain_append h).2
    · have hlast : cutLast ':' rest = none := if_neg hc
      simp only [hlast]
      refine (or_iff_left fun h => ?_).symm
      obtain ⟨tail, rfl, -⟩ := bareDomain_iff.mp h
      exact hc List.mem_cons_self
  · change gmid = [] ↔ _
    have heq := eq_append_of_cut hcut
    constructor
    · rintro rfl
      exact .inr (.inl ⟨domain, heq.symm⟩)
    · rintro (rfl | ⟨after, rfl⟩ | hb)
      · simp at heq
      · rw [cut_append (by decide)] at hcut
        cases hcut
        rfl
      · obtain ⟨tail, rfl, -, hall⟩ := bareDomain_iff.mp hb
        have hd : 'd' ∈ ':' :: tail := by
          rw [heq]
          simp
        have hdt : 'd' ∈ tail := by simpa using hd
        exact absurd (List.all_eq_true.mp hall _ hdt) (by decide)

theorem parsePTPRefClockAttribute_traceable (value : Text) :
    (parsePTPRefClockAttribute value s).ptpTraceable =
      (if contains "traceable".toList value then some true else none).getD s.ptpTraceable := by
  rw [parsePTPRefClockAttribute]
  split_ifs
  · rfl
  · split
    · exact parseGrandmaster_traceable _
    · rfl

theorem parsePTPRefClockAttribute_named (value : Text) :
    (!(parsePTPRefClockAttribute value s).ptpMasterMAC.isEmpty) =
      (names value).getD (!s.ptpMasterMAC.isEmpty) := by
  rw [parsePTPRefClockAttribute, names]
  split_ifs
  · rfl
  · rcases hcut : cut "ptp=IEEE1588-2008:".toList value with _ | ⟨before, rest⟩
    · rfl
    · have hnil : (parseGrandmaster (rest.rdropWhile isTrailing) s).ptpMasterMAC.isEmpty =
          nameless (rest.rdropWhile isTrailing) := by
        rw [Bool.eq_iff_iff, List.isEmpty_iff, parseGrandmaster_eq_nil]
      exact congrArg not hnil

/-! ## The packet time -/

/-- The packet time a value stands for. -/
def microseconds (value : Text) : UInt32 :=
  match stod value with
  | some (.fin ms) => .ofInt (lround (round64 (ms * 1000)))
  | _ => 0

theorem parsePTimeAttribute_ptimeUs {value : Text} (h : parsePTimeAttribute value s = some s') :
    s'.ptimeUs = microseconds value ∧
      ∃ ms, stod value = some (.fin ms) ∧ 0 < ms ∧ ms ≤ 1000 := by
  rw [parsePTimeAttribute] at h
  rw [microseconds]
  split at h
  · next ms hms =>
    split_ifs at h with hrange
    cases h
    rw [not_or, not_not, not_lt] at hrange
    rw [hms]
    exact ⟨rfl, ms, rfl, hrange⟩
  · cases h

theorem one_le_lround {q : ℚ} (h0 : 0 ≤ q) : 1 ≤ lround q ↔ 1 / 2 ≤ q := by
  rw [lround, if_pos h0, Int.le_floor]
  push_cast
  constructor <;> intro h <;> linarith

/-- A value in range gives a packet time just where it is half a microsecond at least. -/
theorem one_le_microseconds {value : Text} {ms : ℚ} (h : stod value = some (.fin ms))
    (h0 : 0 < ms) (h1 : ms ≤ 1000) :
    1 ≤ microseconds value ↔ 1 / 2 ≤ round64 (ms * 1000) := by
  have hnn : 0 ≤ round64 (ms * 1000) := round64_nonneg (by linarith)
  have hup : lround (round64 (ms * 1000)) ≤ 1000000 := lround_scaled_le h0 h1
  have hlow : 0 ≤ lround (round64 (ms * 1000)) := by
    rw [lround, if_pos hnn]
    exact Int.floor_nonneg.mpr (by linarith)
  rw [← one_le_lround hnn, microseconds, h]
  change 1 ≤ UInt32.ofInt _ ↔ _
  rw [UInt32.le_iff_toNat_le, UInt32.ofInt, UInt32.toNat_ofNat']
  change 1 ≤ _ ↔ _
  omega

/-! ## Accepted sessions -/

theorem filterMap_given {β : Type*} (f : Text → Option β) (name : Text) (lines : List Text) :
    (given name lines).filterMap f = lines.filterMap fun line => (valueOf name line).bind f := by
  rw [given, List.filterMap_filterMap]

theorem getD_false {o : Option Bool} : o.getD false = true ↔ o = some true := by
  rcases o with _ | b <;> simp

section Lines

variable {lines : List Text}

/-- A session is traceable from the first traceable reference on. -/
theorem foldlM_traceable (h : lines.foldlM parseLine {} = some s) :
    s.ptpTraceable = true ↔ ∃ v ∈ given "ts-refclk".toList lines,
      contains "traceable".toList v = true := by
  have hstep : ∀ line ∈ lines, ∀ s s', True → parseLine s line = some s' → True ∧
      s'.ptpTraceable = ((valueOf "ts-refclk".toList line).bind fun v =>
        if contains "traceable".toList v then some true else none).getD s.ptpTraceable := by
    intro line _ s s' _ hp
    refine ⟨trivial, ?_⟩
    rcases refClock_of_parseLine hp with ⟨hv, -, hkept⟩ | ⟨v, hv, rfl⟩
    · rw [hv]
      exact hkept
    · rw [hv]
      exact parsePTPRefClockAttribute_traceable v
  have hlast := (foldlM_last hstep trivial h).2
  rw [← filterMap_given] at hlast
  rw [hlast]
  refine getD_false.trans ?_
  constructor
  · intro hb
    obtain ⟨v, hv, hset⟩ := List.mem_filterMap.mp (List.mem_of_getLast? hb)
    exact ⟨v, hv, by_contra fun hn => by rw [if_neg hn] at hset; cases hset⟩
  · rintro ⟨v, hv, ht⟩
    have hmem : true ∈ (given "ts-refclk".toList lines).filterMap fun v =>
        if contains "traceable".toList v then some true else none :=
      List.mem_filterMap.mpr ⟨v, hv, if_pos ht⟩
    have hne := List.ne_nil_of_mem hmem
    obtain ⟨w, -, hw⟩ := List.mem_filterMap.mp (List.getLast_mem hne)
    split_ifs at hw
    rw [List.getLast?_eq_some_getLast hne, ← Option.some.inj hw]

/-- The last reference clock that speaks of a grandmaster decides whether one is named. -/
theorem foldlM_named (h : lines.foldlM parseLine {} = some s) :
    s.ptpMasterMAC ≠ [] ↔
      ((given "ts-refclk".toList lines).filterMap names).getLast? = some true := by
  have hstep : ∀ line ∈ lines, ∀ s s', True → parseLine s line = some s' → True ∧
      (!s'.ptpMasterMAC.isEmpty) = ((valueOf "ts-refclk".toList line).bind names).getD
        (!s.ptpMasterMAC.isEmpty) := by
    intro line _ s s' _ hp
    refine ⟨trivial, ?_⟩
    rcases refClock_of_parseLine hp with ⟨hv, hkept, -⟩ | ⟨v, hv, rfl⟩
    · rw [hv, hkept]
      rfl
    · rw [hv]
      exact parsePTPRefClockAttribute_named v
  have hlast := (foldlM_last hstep trivial h).2
  rw [← filterMap_given] at hlast
  rw [ne_eq, ← List.isEmpty_iff, Bool.not_eq_true, ← Bool.not_eq_true', hlast]
  exact getD_false

theorem foldlM_ptimeUs (h : lines.foldlM parseLine {} = some s) :
    s.ptimeUs = ((given "ptime".toList lines).getLast?.map microseconds).getD 1000 := by
  have hstep : ∀ line ∈ lines, ∀ s s', True → parseLine s line = some s' → True ∧
      s'.ptimeUs = ((valueOf "ptime".toList line).bind (some ∘ microseconds)).getD s.ptimeUs := by
    intro line _ s s' _ hp
    refine ⟨trivial, ?_⟩
    rcases ptimeUs_of_parseLine hp with ⟨hv, hkept⟩ | ⟨v, hv, hp⟩
    · rw [hv]
      exact hkept
    · rw [hv]
      exact (parsePTimeAttribute_ptimeUs hp).1
  have hlast := (foldlM_last hstep trivial h).2
  rw [← filterMap_given, List.filterMap_eq_map, List.getLast?_map] at hlast
  exact hlast

/-- Every packet time of a description that is read to the end is in range. -/
theorem ptime_range (h : lines.foldlM parseLine {} = some s) {v : Text}
    (hv : v ∈ given "ptime".toList lines) :
    ∃ ms, stod v = some (.fin ms) ∧ 0 < ms ∧ ms ≤ 1000 := by
  obtain ⟨line, hl, hv⟩ := List.mem_filterMap.mp hv
  obtain ⟨s₁, s₂, hp⟩ := exists_parseLine_of_mem h hl
  rcases ptimeUs_of_parseLine hp with ⟨hn, -⟩ | ⟨w, hw, hp⟩
  · rw [hn] at hv
    cases hv
  · rw [hw] at hv
    cases hv
    exact (parsePTimeAttribute_ptimeUs hp).2

end Lines

theorem parseString_eq_some {sdp : Text} : parseString sdp = some s ↔
    (splitLines sdp).foldlM parseLine {} = some s ∧ s.isValid = true := by
  rw [parseString]
  constructor
  · intro h
    split at h
    · next session hf =>
      split_ifs at h with hv
      cases h
      exact ⟨hf, hv⟩
    · cases h
  · rintro ⟨hf, hv⟩
    rw [hf]
    exact if_pos hv

theorem one_le16 {n : UInt16} (h : n ≠ 0) : 1 ≤ n :=
  UInt16.le_iff_toNat_le.mpr (Nat.one_le_iff_ne_zero.mpr fun e => h (UInt16.toNat_inj.mp e))

theorem one_le32 {n : UInt32} (h : n ≠ 0) : 1 ≤ n :=
  UInt32.le_iff_toNat_le.mpr (Nat.one_le_iff_ne_zero.mpr fun e => h (UInt32.toNat_inj.mp e))

/-- What a session is to have whatever lines it is from. -/
structure Sound (s : SDPSession) : Prop where
  oneClock : ¬ (s.ptpTraceable = true ∧ s.ptpMasterMAC ≠ [])
  ptimeUs : 1 ≤ s.ptimeUs
  port : 1 ≤ s.port
  sampleRate : 1 ≤ s.sampleRate
  numChannels : 1 ≤ s.numChannels
  payloadType : s.payloadType ≤ 127

/-- Where one reference clock is traceable, the last one that speaks of a grandmaster names
none. -/
def OneClock (lines : List Text) : Prop :=
  (∃ v ∈ given "ts-refclk".toList lines, contains "traceable".toList v = true) →
    ((given "ts-refclk".toList lines).filterMap names).getLast? ≠ some true

/-- The last packet time comes to half a microsecond at least. -/
def Timed (lines : List Text) : Prop :=
  ∀ v ∈ (given "ptime".toList lines).getLast?,
    ∃ ms, stod v = some (.fin ms) ∧ 1 / 2 ≤ round64 (ms * 1000)

/-- **Accepted sessions.** The clock is named one way only, and the packet time is not zero, just
where the lines say so; the other fields are always in range. -/
theorem accepted_iff {sdp : Text} (h : parseString sdp = some s) :
    Sound s ↔ OneClock (splitLines sdp) ∧ Timed (splitLines sdp) := by
  have hl := (legible_of_parseString h).1
  have hv := (legible_of_parseString h).2.1
  have hf := (parseString_eq_some.mp h).1
  have hclock : ¬ (s.ptpTraceable = true ∧ s.ptpMasterMAC ≠ []) ↔ OneClock (splitLines sdp) := by
    rw [foldlM_traceable hf, foldlM_named hf, not_and]
    rfl
  have htime : 1 ≤ s.ptimeUs ↔ Timed (splitLines sdp) := by
    rw [foldlM_ptimeUs hf, Timed]
    rcases hlast : (given "ptime".toList (splitLines sdp)).getLast? with _ | v
    · simp
    · obtain ⟨ms, hms, h0, h1⟩ := ptime_range hf (List.mem_of_getLast? hlast)
      change 1 ≤ microseconds v ↔ _
      rw [one_le_microseconds hms h0 h1]
      constructor
      · rintro hle w hw
        cases hw
        exact ⟨ms, hms, hle⟩
      · intro ht
        obtain ⟨ms', hms', hle⟩ := ht v rfl
        rw [hms] at hms'
        cases hms'
        exact hle
  constructor
  · exact fun hs => ⟨hclock.mp hs.oneClock, htime.mp hs.ptimeUs⟩
  · rintro ⟨hc, ht⟩
    exact {
      oneClock := hclock.mpr hc
      ptimeUs := htime.mpr ht
      port := one_le16 hv.port_ne
      sampleRate := one_le32 hv.sampleRate_ne
      numChannels := one_le16 hv.numChannels_ne
      payloadType := hl.payloadType }

/-- A description of a traceable clock with packets of an eighth of a millisecond. -/
def traceableSdp : Text := plainSdp ++
  "\na=ts-refclk:ptp=IEEE1588-2008:39-A7-94-FF-FE-07-CB-D0:0\na=ptime:0.125".toList ++
  "\na=ts-refclk:ptp=IEEE1588-2008:traceable".toList

theorem traceableSdp_sound : ∃ s, parseString traceableSdp = some s ∧ Sound s := by
  have h : (parseString traceableSdp).isSome = true := by decide +kernel
  obtain ⟨s, hs⟩ := Option.isSome_iff_exists.mp h
  refine ⟨s, hs, (accepted_iff hs).mpr ⟨fun _ => by decide +kernel, ?_⟩⟩
  have hlast : (given "ptime".toList (splitLines traceableSdp)).getLast? =
      some "0.125".toList := by decide +kernel
  intro v hv
  rw [hlast] at hv
  cases hv
  exact ⟨1 / 8, by decide +kernel, by decide +kernel⟩

/-- The two the other way round. -/
def pinnedSdp : Text := plainSdp ++ "\na=ts-refclk:ptp=IEEE1588-2008:traceable".toList ++
  "\na=ts-refclk:ptp=IEEE1588-2008:39-A7-94-FF-FE-07-CB-D0:0".toList

/-- A packet time that rounds to zero. -/
def instantSdp : Text := plainSdp ++ "\na=ptime:0.0004".toList

theorem not_sound :
    (∃ s, parseString pinnedSdp = some s ∧ s.ptpTraceable = true ∧ s.ptpMasterMAC ≠ []) ∧
    (∃ s, parseString instantSdp = some s ∧ s.ptimeUs = 0) ∧
    ¬ ∀ sdp s, parseString sdp = some s → Sound s := by
  have hpinned : (parseString pinnedSdp).map (fun s => (s.ptpTraceable, s.ptpMasterMAC.isEmpty)) =
      some (true, false) := by decide +kernel
  have hinstant : (parseString instantSdp).map (·.ptimeUs) = some 0 := by decide +kernel
  obtain ⟨s₁, h1, hclock⟩ := Option.map_eq_some_iff.mp hpinned
  obtain ⟨s₂, h2, htime⟩ := Option.map_eq_some_iff.mp hinstant
  obtain ⟨ht, hm⟩ := Prod.mk.inj hclock
  refine ⟨⟨s₁, h1, ht, fun he => ?_⟩, ⟨s₂, h2, htime⟩, fun h => ?_⟩
  · rw [he] at hm
    cases hm
  · have hle := (h _ _ h2).ptimeUs
    rw [htime] at hle
    exact absurd hle (by decide)

/-! ## The selected format -/

/-- What an `a=rtpmap` line tells of a payload type. -/
structure RtpMap where
  payloadType : ℤ
  encoding : Text
  rate : ℕ
  /-- Left out by the lines that do not change the number of channels. -/
  channels : Option ℤ

/-- A well-formed `a=rtpmap`, whatever payload type it is for. -/
def readRtpMap (value : Text) : Option RtpMap :=
  match splitString value ' ' with
  | pt :: format :: _ =>
    match splitString format '/' with
    | encoding :: rate :: params =>
      match stoi pt, stoull rate, params with
      | some pt, some rate, [] => some ⟨pt, encoding, rate, none⟩
      | some pt, some rate, channels :: _ =>
        ((stol channels).filter fun n => 1 ≤ n ∧ n ≤ 65535).map fun n =>
          ⟨pt, encoding, rate, some n⟩
      | _, _, _ => none
    | _ => none
  | _ => none

/-- The session with the format of a line. -/
def RtpMap.select (m : RtpMap) (s : SDPSession) : SDPSession :=
  { s with
    encoding := m.encoding
    sampleRate := .ofNat m.rate
    numChannels := (m.channels.map UInt16.ofInt).getD s.numChannels }

theorem parseRTPMapAttribute_eq (value : Text) : parseRTPMapAttribute value s =
    (readRtpMap value).map fun m =>
      if m.payloadType = (s.payloadType.toNat : ℤ) then m.select s else s := by
  rw [parseRTPMapAttribute, readRtpMap]
  rcases splitString value ' ' with _ | ⟨pt, _ | ⟨format, rest⟩⟩
  · rfl
  · rfl
  dsimp only
  rcases splitString format '/' with _ | ⟨encoding, _ | ⟨rate, params⟩⟩
  · rfl
  · rfl
  dsimp only
  rcases stoi pt with _ | n
  · rfl
  rcases stoull rate with _ | r
  · rfl
  rcases params with _ | ⟨channels, params⟩
  · by_cases hn : n = (s.payloadType.toNat : ℤ) <;> simp [hn, RtpMap.select]
  dsimp only
  rcases stol channels with _ | c
  · rfl
  by_cases hc : 1 ≤ c ∧ c ≤ 65535
  · have hin : ¬ (c < 1 ∨ c > 65535) := by omega
    rw [Option.filter_some, if_pos (by simpa using hc)]
    by_cases hn : n = (s.payloadType.toNat : ℤ) <;> simp [hin, hn, RtpMap.select]
  · have hout : c < 1 ∨ c > 65535 := by omega
    rw [Option.filter_some, if_neg (by simpa using hc)]
    simp only [if_pos hout, Option.map_none]

theorem parseAttribute_payloadType {name value : Text}
    (h : parseAttribute name value s = some s') : s'.payloadType = s.payloadType := by
  rw [parseAttribute] at h
  split_ifs at h
  · exact (parseRTPMapAttribute_kept h).2.2.2
  · rw [parsePTimeAttribute] at h
    split at h
    · split_ifs at h
      cases h
      rfl
    · cases h
  · rw [parseFrameCountAttribute] at h
    split at h <;> cases h
    rfl
  · rw [parseSourceFilterAttribute] at h
    split at h <;> cases h
    rfl
  · cases h
    rw [parsePTPRefClockAttribute]
    split_ifs
    · rfl
    · split
      · rw [parseGrandmaster]
        repeat' split
        all_goals rfl
      · rfl
  all_goals
    cases h
    rfl

/-- The payload type is chosen by the `m=` line alone. -/
theorem payloadType_of_parseLine (hm : isMedia line = false) (h : parseLine s line = some s') :
    s'.payloadType = s.payloadType := by
  rcases ha : attributeOf line with _ | ⟨name, value⟩
  · exact (parseLine_untouched ha h).2 hm
  · rw [parseLine_of_attribute ha] at h
    exact parseAttribute_payloadType h

/-- The payload type an `m=` line selects: that of its first format. -/
def firstFormat (media : Text) : Option ℤ := ((splitString media ' ')[3]?).bind stoi

theorem parseMediaLine_payloadType {media : Text} (h : parseMediaLine media s = some s') :
    firstFormat media = some (s'.payloadType.toNat : ℤ) := by
  rw [parseMediaLine] at h
  split at h
  · next kind port proto fmt rest hparts =>
    split at h
    · next n p hn hp =>
      split_ifs at h with h1 h2
      cases h
      have hfirst : firstFormat media = stoi fmt := by rw [firstFormat, hparts]; rfl
      have hbyte : p % 2 ^ 8 = p := Int.emod_eq_of_lt (by omega) (by omega)
      rw [hfirst, hp]
      change some p = some ((UInt8.ofInt p).toNat : ℤ)
      rw [toNat_ofInt8, hbyte]
    · cases h
  · cases h

/-- The `a=rtpmap` lines for the payload type `p`, in order. -/
def rtpMaps (p : ℤ) (lines : List Text) : List RtpMap :=
  ((given "rtpmap".toList lines).filterMap readRtpMap).filter (·.payloadType = p)

/-- A well-formed `a=rtpmap` line for a payload type other than `p`. -/
def foreign (p : ℤ) (line : Text) : Bool :=
  ((valueOf "rtpmap".toList line).bind readRtpMap).any (·.payloadType ≠ p)

/-- Such a line leaves the session as it is. -/
theorem parseLine_foreign {p : ℤ} (hp : (s.payloadType.toNat : ℤ) = p) (hf : foreign p line = true) :
    parseLine s line = some s := by
  obtain ⟨m, hm, hne⟩ := (Option.any_eq_true _ _).mp hf
  obtain ⟨value, hv, hread⟩ := Option.bind_eq_some_iff.mp hm
  have hother : ¬ m.payloadType = (s.payloadType.toNat : ℤ) := by simpa [hp] using hne
  rw [parseLine_of_attribute (valueOf_eq_some.mp hv)]
  change parseRTPMapAttribute value s = some s
  rw [parseRTPMapAttribute_eq, hread, Option.map_some, if_neg hother]

theorem foldlM_filter_foreign {p : ℤ} {lines : List Text} (hm : ∀ l ∈ lines, isMedia l = false)
    (hp : (s.payloadType.toNat : ℤ) = p) :
    lines.foldlM parseLine s = (lines.filter (!foreign p ·)).foldlM parseLine s := by
  induction lines generalizing s with
  | nil => rfl
  | cons l lines ih =>
    have ih' := fun {s} => ih (s := s) fun l hl => hm l (List.mem_cons_of_mem _ hl)
    rcases hf : foreign p l with _ | _
    · rw [List.filter_cons_of_pos (by rw [hf]; rfl), List.foldlM_cons, List.foldlM_cons]
      rcases hs : parseLine s l with _ | s₁
      · rfl
      · have hkept := payloadType_of_parseLine (hm l List.mem_cons_self) hs
        exact ih' (by rw [hkept, hp])
    · rw [List.filter_cons_of_neg (by rw [hf]; simp), List.foldlM_cons, parseLine_foreign hp hf]
      exact ih' hp

theorem valueOf_eq_none_of_isMedia {name : Text} (h : isMedia line = true) :
    valueOf name line = none := by
  rw [isMedia.eq_def] at h
  split at h
  · rfl
  · cases h

/-- The lines of a description with one `m=` line, and its `a=rtpmap` lines below it. -/
structure OneMedia (before after : List Text) : Prop where
  one : ∀ l ∈ before ++ after, isMedia l = false
  below : ∀ l ∈ before, valueOf "rtpmap".toList l = none

section Format

variable {p : ℤ} {lines : List Text}

/-- What the format of a session comes to. -/
structure HasFormat (s : SDPSession) (maps : List RtpMap) (s' : SDPSession) : Prop where
  encoding : s'.encoding = (maps.getLast?.map (·.encoding)).getD s.encoding
  sampleRate : s'.sampleRate = (maps.getLast?.map fun m => .ofNat m.rate).getD s.sampleRate
  numChannels : s'.numChannels =
    ((maps.filterMap (·.channels)).getLast?.map UInt16.ofInt).getD s.numChannels

theorem HasFormat.cons {m : RtpMap} {maps : List RtpMap} (h : HasFormat (m.select s) maps s') :
    HasFormat s (m :: maps) s' where
  encoding := by
    rw [h.encoding, List.getLast?_cons]
    cases maps.getLast? <;> rfl
  sampleRate := by
    rw [h.sampleRate, List.getLast?_cons]
    cases maps.getLast? <;> rfl
  numChannels := by
    rw [h.numChannels]
    rcases hc : m.channels with _ | c
    · rw [List.filterMap_cons_none hc, RtpMap.select, hc]
      rfl
    · rw [List.filterMap_cons_some hc, List.getLast?_cons, RtpMap.select, hc]
      cases (maps.filterMap (·.channels)).getLast? <;> rfl

theorem rtpMaps_cons_none {l : Text} (h : valueOf "rtpmap".toList l = none) :
    rtpMaps p (l :: lines) = rtpMaps p lines := by
  rw [rtpMaps, given, List.filterMap_cons_none h]
  rfl

theorem rtpMaps_cons_some {l value : Text} {m : RtpMap}
    (h : valueOf "rtpmap".toList l = some value) (hm : readRtpMap value = some m) :
    rtpMaps p (l :: lines) =
      if m.payloadType = p then m :: rtpMaps p lines else rtpMaps p lines := by
  rw [rtpMaps, given, List.filterMap_cons_some h, List.filterMap_cons_some hm, List.filter_cons]
  simp only [decide_eq_true_eq]
  rfl

/-- **The format of the lines below an `m=` line.** The last line for the payload type decides, and
the channels are those of the last one that has any. -/
theorem foldlM_format (hm : ∀ l ∈ lines, isMedia l = false)
    (hp : (s.payloadType.toNat : ℤ) = p) (h : lines.foldlM parseLine s = some s') :
    HasFormat s (rtpMaps p lines) s' := by
  induction lines generalizing s with
  | nil =>
    cases h
    exact ⟨rfl, rfl, rfl⟩
  | cons l lines ih =>
    rw [List.foldlM_cons] at h
    obtain ⟨s₁, h1, h2⟩ := Option.bind_eq_some_iff.mp h
    have hkept := payloadType_of_parseLine (hm l List.mem_cons_self) h1
    have ih := ih (fun l hl => hm l (List.mem_cons_of_mem _ hl)) (hkept ▸ hp) h2
    rcases format_of_parseLine h1 with ⟨hv, he, hr, hc⟩ | ⟨value, hv, hparsed⟩
    · rw [rtpMaps_cons_none hv]
      exact ⟨he ▸ ih.encoding, hr ▸ ih.sampleRate, hc ▸ ih.numChannels⟩
    · rw [parseRTPMapAttribute_eq, Option.map_eq_some_iff] at hparsed
      obtain ⟨m, hread, hs⟩ := hparsed
      rw [rtpMaps_cons_some hv hread]
      rw [hp] at hs
      split_ifs at hs ⊢ with hour
      · subst hs
        exact ih.cons
      · subst hs
        exact ih

end Format

/-- **The selected format decides the decode.** With one `m=` line and the `a=rtpmap` lines below it,
the format is that of the last of those lines for the payload type of the first format, and the
channels those of the last one that has any. Lines for other payload types can be put in, taken out
and moved about. -/
theorem selected_format {sdp media : Text} {before after : List Text}
    (h : parseString sdp = some s)
    (hl : splitLines sdp = before ++ ("m=".toList ++ media) :: after) (ho : OneMedia before after) :
    ∃ p, firstFormat media = some p ∧ HasFormat {} (rtpMaps p after) s ∧
      ∀ sdp' after', splitLines sdp' = before ++ ("m=".toList ++ media) :: after' →
        after'.filter (!foreign p ·) = after.filter (!foreign p ·) →
        parseString sdp' = some s := by
  have hafter : ∀ l ∈ after, isMedia l = false :=
    fun l hl => ho.one l (List.mem_append_right _ hl)
  obtain ⟨hf, hv⟩ := parseString_eq_some.mp h
  rw [hl, List.foldlM_append] at hf
  obtain ⟨s₁, h1, hf⟩ := Option.bind_eq_some_iff.mp hf
  rw [List.foldlM_cons] at hf
  obtain ⟨s₂, h2, h3⟩ := Option.bind_eq_some_iff.mp hf
  have hp := parseMediaLine_payloadType h2
  -- Neither the lines above the `m=` line nor that line touch the format.
  have hnone : ∀ q, rtpMaps q before = [] := by
    intro q
    have hgiven : given "rtpmap".toList before = [] := List.filterMap_eq_nil_iff.mpr ho.below
    rw [rtpMaps, hgiven]
    rfl
  have habove := foldlM_format (fun l hl => ho.one l (List.mem_append_left _ hl)) rfl h1
  rw [hnone] at habove
  have hmedia := (parseLine_untouched rfl h2).1
  have hbase : ∀ {maps}, HasFormat s₂ maps s → HasFormat {} maps s := fun hs => {
    encoding := by rw [hs.encoding, hmedia.encoding, habove.encoding]; rfl
    sampleRate := by rw [hs.sampleRate, hmedia.sampleRate, habove.sampleRate]; rfl
    numChannels := by rw [hs.numChannels, hmedia.numChannels, habove.numChannels]; rfl }
  refine ⟨s₂.payloadType.toNat, hp, hbase (foldlM_format hafter rfl h3), fun sdp' after' hl' he => ?_⟩
  have hafter' : ∀ l ∈ after', isMedia l = false := by
    intro l hl
    by_contra hne
    have hnf : foreign s₂.payloadType.toNat l = false := by
      rw [foreign, valueOf_eq_none_of_isMedia (Bool.not_eq_false _ ▸ hne)]
      rfl
    have hkept : l ∈ after'.filter (!foreign s₂.payloadType.toNat ·) :=
      List.mem_filter.mpr ⟨hl, by rw [hnf]; rfl⟩
    rw [he] at hkept
    exact hne (hafter l (List.mem_filter.mp hkept).1)
  refine parseString_eq_some.mpr ⟨?_, hv⟩
  have hsame : after'.foldlM parseLine s₂ = some s := by
    rw [foldlM_filter_foreign hafter' rfl, he, ← foldlM_filter_foreign hafter rfl, h3]
  rw [hl']
  exact foldlM_append_of h1 (foldlM_cons_of h2 hsame)

/-- Two formats offered, and the first one selected. -/
def offeredSdp : Text := plainSdp ++ "\nm=audio 5004 RTP/AVP 96 97".toList ++
  "\na=rtpmap:96 L24/96000\na=rtpmap:97 L16/44100/1".toList

theorem offeredSdp_selected : ∃ s, parseString offeredSdp = some s ∧
    s.encoding = "L24".toList ∧ s.sampleRate = 96000 ∧ s.numChannels = 2 := by
  have h : (parseString offeredSdp).isSome = true := by decide +kernel
  obtain ⟨s, hs⟩ := Option.isSome_iff_exists.mp h
  have hl : splitLines offeredSdp = splitLines plainSdp ++
      ("m=".toList ++ "audio 5004 RTP/AVP 96 97".toList) ::
        ["a=rtpmap:96 L24/96000".toList, "a=rtpmap:97 L16/44100/1".toList] := by decide +kernel
  obtain ⟨p, hp, hf, -⟩ := selected_format hs hl ⟨by decide +kernel, by decide +kernel⟩
  have h96 : firstFormat "audio 5004 RTP/AVP 96 97".toList = some 96 := by decide +kernel
  rw [h96] at hp
  cases hp
  refine ⟨s, hs, ?_, ?_, ?_⟩
  · rw [hf.encoding]
    decide
  · rw [hf.sampleRate]
    decide
  · rw [hf.numChannels]
    decide

end Aes67.Sdp
