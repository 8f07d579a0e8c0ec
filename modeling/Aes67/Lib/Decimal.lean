import Aes67.Lib.Binary64

/-!
# Numbers in running text

The two sides of a `double` in a text that goes on behind it: `std::strtod`, which says where it
stopped, and the stream insertion with a fixed number of significant digits.

* `strtod`: the number at the start of a text, and what follows it;
* `strtod_taken`: what it takes is white space, signs, digits, letters and points;
* **`strtod_append`**: text that cannot go on a number changes nothing;
* `printGeneral`: the `%.kg` conversion of `printf`;
* **`strtod_showInt`**: a whole number is read back from its digits.
-/

namespace Aes67

/-! ## Reading -/

/-- What follows an exponent, or the text itself where it has none. -/
def skipExponent (mark : Char) : Text → Text
  | [] => []
  | c :: s =>
    if c.toLower = mark ∧ (scanSign s).2.takeWhile Char.isDigit ≠ [] then
      (scanSign s).2.dropWhile Char.isDigit
    else c :: s

/-- A decimal number and what follows it. -/
def readDecimal (s : Text) : Option (ℚ × Text) :=
  (scanMantissa Char.isDigit 10 (fun ds => Nat.ofDigitChars 10 ds 0) s).map fun p =>
    (p.1 * 10 ^ scanExponent 'e' p.2, skipExponent 'e' p.2)

/-- A hexadecimal number behind its mark, and what follows it. -/
def readHexadecimal (s : Text) : Option (ℚ × Text) :=
  (scanMantissa (fun c => (hexDigit c).isSome) 16
    (fun ds => ds.foldl (fun n c => n * 16 + (hexDigit c).getD 0) 0) s).map fun p =>
    (p.1 * 2 ^ scanExponent 'p' p.2, skipExponent 'p' p.2)

/-- The number at the start of a text without a sign. A hexadecimal mark with no digit after it
leaves the zero it starts with. -/
def readMagnitude : Text → Option (ℚ × Text)
  | '0' :: x :: s =>
    if x.toLower = 'x' then (readHexadecimal s).or (some (0, x :: s))
    else readDecimal ('0' :: x :: s)
  | s => readDecimal s

/-- A character of the payload of a `nan`. -/
def isPayload (c : Char) : Bool := c.isAlphanum || c == '_'

/-- What follows `nan`, its payload in parentheses left out. -/
def skipPayload : Text → Text
  | '(' :: s =>
    match s.dropWhile isPayload with
    | ')' :: t => t
    | _ => '(' :: s
  | s => s

/-- The `double` of a sign and a magnitude; a result too large is infinite. -/
def signed (neg : Bool) (q : ℚ) : Double :=
  if 2 ^ 1024 ≤ round64 q then .inf neg else .fin (if neg then -round64 q else round64 q)

/-- The text starts with a word, in any case. -/
def startsWith (word : String) (s : Text) : Bool := word.toList.isPrefixOf (s.map Char.toLower)

/-- `std::strtod`: the number and what it stopped at; nothing where there is no number. -/
def strtod (s : Text) : Option (Double × Text) :=
  let (neg, u) := scanSign (s.dropWhile isSpace)
  if startsWith "nan" u then some (.nan, skipPayload (u.drop 3))
  else if startsWith "infinity" u then some (.inf neg, u.drop 8)
  else if startsWith "inf" u then some (.inf neg, u.drop 3)
  else (readMagnitude u).map fun p => (signed neg p.1, p.2)

/-! ## What is taken -/

/-- A character that may stand in a number behind its white space. -/
def isBody (c : Char) : Bool := c.isAlphanum || c ∈ "+-._()".toList

/-- A character that may stand in a number. -/
def isNumeric (c : Char) : Bool := isSpace c || c.isAlphanum || c ∈ "+-._()".toList

variable {s t u w : Text} {c : Char} {p : Char → Bool}

/-- A text split into a part of characters of one kind and the rest. -/
def TakenBy (p : Char → Bool) (s t : Text) : Prop := ∃ w, s = w ++ t ∧ ∀ c ∈ w, p c = true

namespace TakenBy

theorem refl (s : Text) : TakenBy p s s := ⟨[], rfl, by simp⟩

theorem trans (h : TakenBy p s t) (h' : TakenBy p t u) : TakenBy p s u := by
  obtain ⟨w, rfl, hw⟩ := h
  obtain ⟨w', rfl, hw'⟩ := h'
  refine ⟨w ++ w', by simp, fun c hc => ?_⟩
  rcases List.mem_append.mp hc with hc | hc
  · exact hw c hc
  · exact hw' c hc

theorem cons (hc : p c = true) (h : TakenBy p s t) : TakenBy p (c :: s) t := by
  obtain ⟨w, rfl, hw⟩ := h
  exact ⟨c :: w, rfl, by simpa [hc] using hw⟩

theorem dropWhile {q : Char → Bool} (hq : ∀ c, q c = true → p c = true) (s : Text) :
    TakenBy p s (s.dropWhile q) :=
  ⟨s.takeWhile q, List.takeWhile_append_dropWhile.symm, fun c hc => hq c (List.mem_takeWhile_imp hc)⟩

theorem mono {q : Char → Bool} (hq : ∀ c, q c = true → p c = true) (h : TakenBy q s t) :
    TakenBy p s t := by
  obtain ⟨w, hs, hw⟩ := h
  exact ⟨w, hs, fun c hc => hq c (hw c hc)⟩

end TakenBy

/-- A text split into a part of numeric characters and the rest. -/
def Taken (s t : Text) : Prop := ∃ w, s = w ++ t ∧ ∀ c ∈ w, isNumeric c = true

theorem taken_dropWhile {p : Char → Bool} (hp : ∀ c, p c = true → isNumeric c = true) (s : Text) :
    Taken s (s.dropWhile p) :=
  TakenBy.dropWhile hp s

theorem isNumeric_of_isSpace (h : isSpace c = true) : isNumeric c = true := by
  simp [isNumeric, h]

theorem isNumeric_of_isBody (h : isBody c = true) : isNumeric c = true := by
  rw [isBody, Bool.or_eq_true] at h
  rw [isNumeric, Bool.or_assoc, Bool.or_eq_true, Bool.or_eq_true]
  exact Or.inr h

theorem isBody_of_isDigit (h : c.isDigit = true) : isBody c = true := by
  simp [isBody, Char.isAlphanum, h]

theorem isBody_of_isAlphanum (h : c.isAlphanum = true) : isBody c = true := by
  simp [isBody, h]

theorem isAlpha_iff : c.isAlpha = true ↔ 65 ≤ c.toNat ∧ c.toNat ≤ 90 ∨ 97 ≤ c.toNat ∧ c.toNat ≤ 122 := by
  simp [Char.isAlpha, Char.isUpper, Char.isLower, UInt32.le_iff_toNat_le, ← Char.toNat_val]

theorem isBody_of_isAlpha (h : c.isAlpha = true) : isBody c = true := by
  simp [isBody, Char.isAlphanum, h]

theorem isBody_of_hexDigit (h : (hexDigit c).isSome = true) : isBody c = true := by
  rw [hexDigit] at h
  split_ifs at h with h1 h2 h3
  · exact isBody_of_isDigit h1
  · have h4 : 97 ≤ c.toNat ∧ c.toNat ≤ 102 := h2
    exact isBody_of_isAlpha (isAlpha_iff.mpr (by omega))
  · have h4 : 65 ≤ c.toNat ∧ c.toNat ≤ 70 := h3
    exact isBody_of_isAlpha (isAlpha_iff.mpr (by omega))
  · cases h

/-- A character that a letter is the lower case of is a letter. -/
theorem isBody_of_toLower (h : c.toLower.isAlpha = true) : isBody c = true := by
  by_cases hu : 65 ≤ c.toNat ∧ c.toNat ≤ 90
  · exact isBody_of_isAlpha (isAlpha_iff.mpr (Or.inl hu))
  · have hc : c.toLower = c := by
      rw [Char.toLower, dif_neg]
      rintro ⟨h1, h2⟩
      exact hu ⟨UInt32.le_iff_toNat_le.mp h1, UInt32.le_iff_toNat_le.mp h2⟩
    exact isBody_of_isAlpha (hc ▸ h)

theorem taken_scanSign (s : Text) : TakenBy isBody s (scanSign s).2 := by
  rw [scanSign.eq_def]
  split
  · exact .cons (by decide) (.refl _)
  · exact .cons (by decide) (.refl _)
  · exact .refl _

theorem taken_skipExponent {mark : Char} (hm : mark.isAlpha = true) (s : Text) :
    TakenBy isBody s (skipExponent mark s) := by
  rcases s with _ | ⟨c, s⟩
  · exact .refl _
  · rw [skipExponent]
    split_ifs with h
    · exact .cons (isBody_of_toLower (h.1 ▸ hm))
        ((taken_scanSign s).trans (TakenBy.dropWhile (fun _ => isBody_of_isDigit) _))
    · exact .refl _

theorem taken_scanMantissa {p : Char → Bool} (hp : ∀ c, p c = true → isBody c = true) {b : ℕ}
    {v : Text → ℕ} {q : ℚ} (h : scanMantissa p b v s = some (q, t)) : TakenBy isBody s t := by
  rw [scanMantissa] at h
  have h1 := TakenBy.dropWhile hp s
  dsimp only at h
  split_ifs at h
  cases h
  split
  · next r hr =>
    rw [hr] at h1
    exact h1.trans (.cons (by decide) (TakenBy.dropWhile hp r))
  · exact h1

theorem taken_readDecimal {q : ℚ} (h : readDecimal s = some (q, t)) : TakenBy isBody s t := by
  obtain ⟨⟨r, u⟩, hm, he⟩ := Option.map_eq_some_iff.mp h
  cases he
  exact (taken_scanMantissa (fun _ => isBody_of_isDigit) hm).trans
    (taken_skipExponent (by decide) u)

theorem taken_readHexadecimal {q : ℚ} (h : readHexadecimal s = some (q, t)) : TakenBy isBody s t := by
  obtain ⟨⟨r, u⟩, hm, he⟩ := Option.map_eq_some_iff.mp h
  cases he
  exact (taken_scanMantissa (fun _ => isBody_of_hexDigit) hm).trans
    (taken_skipExponent (by decide) u)

theorem taken_readMagnitude {q : ℚ} (h : readMagnitude s = some (q, t)) : TakenBy isBody s t := by
  rw [readMagnitude.eq_def] at h
  split at h
  · next x s =>
    split_ifs at h with hx
    · cases hr : readHexadecimal s with
      | none =>
        rw [hr, Option.none_or] at h
        cases h
        exact .cons (by decide) (.refl _)
      | some r =>
        rw [hr, Option.some_or] at h
        cases h
        exact .cons (by decide) (.cons (isBody_of_toLower (hx ▸ by decide))
          (taken_readHexadecimal hr))
    · exact taken_readDecimal h
  · exact taken_readDecimal h

theorem isBody_of_isPayload (h : isPayload c = true) : isBody c = true := by
  rw [isPayload, Bool.or_eq_true, beq_iff_eq] at h
  rcases h with h | rfl
  · exact isBody_of_isAlphanum h
  · decide

theorem taken_skipPayload (s : Text) : TakenBy isBody s (skipPayload s) := by
  have hp : ∀ c, isPayload c = true → isBody c = true := fun c => isBody_of_isPayload
  rw [skipPayload.eq_def]
  split
  · next s =>
    have h1 := TakenBy.dropWhile hp s
    split
    · next t ht =>
      rw [ht] at h1
      exact .cons (by decide) (h1.trans (.cons (by decide) (.refl t)))
    · exact .refl _
  · exact .refl _

/-- A word that the text starts with is taken. -/
theorem taken_word {word : String} (hw : word.toList.all Char.isAlpha = true)
    (h : startsWith word s = true) : TakenBy isBody s (s.drop word.toList.length) := by
  rw [startsWith, List.isPrefixOf_iff_prefix] at h
  refine ⟨s.take word.toList.length, (List.take_append_drop _ s).symm, fun c hc => ?_⟩
  have hpre : (s.take word.toList.length).map Char.toLower = word.toList := by
    rw [List.map_take]
    exact (List.prefix_iff_eq_take.mp h).symm
  exact isBody_of_toLower (List.all_eq_true.mp hw _ (hpre ▸ List.mem_map_of_mem hc))

/-- **What `strtod` takes** behind the white space. -/
theorem takenBy_strtod {d : Double} (h : strtod s = some (d, t)) :
    TakenBy isBody (s.dropWhile isSpace) t := by
  have h2 := taken_scanSign (s.dropWhile isSpace)
  rw [strtod] at h
  dsimp only at h
  split_ifs at h with h3 h4 h5
  · cases h
    exact h2.trans ((taken_word (by decide) h3).trans (taken_skipPayload _))
  · cases h
    exact h2.trans (taken_word (by decide) h4)
  · cases h
    exact h2.trans (taken_word (by decide) h5)
  · obtain ⟨⟨q, u⟩, hm, he⟩ := Option.map_eq_some_iff.mp h
    cases he
    exact h2.trans (taken_readMagnitude hm)

/-- **What `strtod` takes** is numeric characters, at the start of the text. -/
theorem strtod_taken {d : Double} (h : strtod s = some (d, t)) : Taken s t :=
  (TakenBy.dropWhile (fun _ => isNumeric_of_isSpace) s).trans
    ((takenBy_strtod h).mono fun _ => isNumeric_of_isBody)

/-! ## What follows -/

/-- Text that cannot go on a number. -/
def Stops (s : Text) : Prop := ∀ c, s.head? = some c → isNumeric c = false

/-- Text that cannot go on a number that has begun: white space may stand before one only. -/
def NoBody (s : Text) : Prop := ∀ c, s.head? = some c → isBody c = false

theorem stops_nil : Stops [] := by
  rintro c ⟨⟩

theorem Stops.not {q : Char → Bool} (hs : Stops s) (hc : s.head? = some c)
    (hq : ∀ c, q c = true → isNumeric c = true) : q c = false := by
  by_contra h
  rw [Bool.not_eq_false] at h
  exact absurd (hq c h) (by rw [hs c hc]; decide)

theorem Stops.noBody (hs : Stops s) : NoBody s := fun _ hc =>
  hs.not hc fun _ => isNumeric_of_isBody

theorem NoBody.not {p : Char → Bool} (hs : NoBody (c :: s))
    (hp : ∀ c, p c = true → isBody c = true) : p c = false := by
  by_contra h
  rw [Bool.not_eq_false] at h
  exact absurd (hp c h) (by rw [hs c rfl]; decide)

theorem takeWhile_append_noBody {p : Char → Bool} (hs : NoBody s)
    (hp : ∀ c, p c = true → isBody c = true) : (t ++ s).takeWhile p = t.takeWhile p := by
  induction t with
  | nil =>
    rcases s with _ | ⟨c, s⟩
    · rfl
    · simp [hs.not hp]
  | cons x t ih =>
    rw [List.cons_append, List.takeWhile_cons, List.takeWhile_cons, ih]

theorem dropWhile_append_noBody {p : Char → Bool} (hs : NoBody s)
    (hp : ∀ c, p c = true → isBody c = true) : (t ++ s).dropWhile p = t.dropWhile p ++ s := by
  induction t with
  | nil =>
    rcases s with _ | ⟨c, s⟩
    · rfl
    · simp [hs.not hp]
  | cons x t ih =>
    rw [List.cons_append, List.dropWhile_cons, List.dropWhile_cons, ih]
    split_ifs <;> rfl

theorem NoBody.ne (hs : NoBody (c :: s)) {x : Char} (hx : isBody x = true) : c ≠ x := by
  rintro rfl
  rw [hs _ rfl] at hx
  cases hx

theorem scanSign_append (hs : NoBody s) :
    scanSign (t ++ s) = ((scanSign t).1, (scanSign t).2 ++ s) := by
  rcases t with _ | ⟨c, t⟩
  · rcases s with _ | ⟨c, s⟩
    · rfl
    · have h1 : c ≠ '-' := hs.ne (by decide)
      have h2 : c ≠ '+' := hs.ne (by decide)
      simp [scanSign, h1, h2]
  · by_cases h1 : c = '-'
    · subst h1; rfl
    · by_cases h2 : c = '+'
      · subst h2; rfl
      · simp [scanSign, h1, h2]

theorem scanExponent_append {mark : Char} (hm : mark.isAlpha = true) (hs : NoBody s) :
    scanExponent mark (t ++ s) = scanExponent mark t := by
  rcases t with _ | ⟨c, t⟩
  · rcases s with _ | ⟨c, s⟩
    · rfl
    · have h1 : c.toLower ≠ mark := fun h =>
        absurd (isBody_of_toLower (h ▸ hm)) (by rw [hs c rfl]; decide)
      simp [scanExponent, h1]
  · rw [List.cons_append, scanExponent, scanExponent, scanSign_append hs]
    dsimp only
    rw [takeWhile_append_noBody hs fun _ => isBody_of_isDigit]

theorem skipExponent_append {mark : Char} (hm : mark.isAlpha = true) (hs : NoBody s) :
    skipExponent mark (t ++ s) = skipExponent mark t ++ s := by
  rcases t with _ | ⟨c, t⟩
  · rcases s with _ | ⟨c, s⟩
    · rfl
    · have h1 : c.toLower ≠ mark := fun h =>
        absurd (isBody_of_toLower (h ▸ hm)) (by rw [hs c rfl]; decide)
      simp [skipExponent, h1]
  · have hd : ∀ c, c.isDigit = true → isBody c = true := fun _ => isBody_of_isDigit
    rw [List.cons_append, skipExponent, skipExponent, scanSign_append hs,
      takeWhile_append_noBody hs hd, dropWhile_append_noBody hs hd]
    split_ifs <;> rfl

/-- The digits behind a point, and what follows them. -/
def fraction (p : Char → Bool) : Text → Text × Text
  | '.' :: t => (t.takeWhile p, t.dropWhile p)
  | t => ([], t)

theorem scanMantissa_eq (p : Char → Bool) (b : ℕ) (v : Text → ℕ) (s : Text) :
    scanMantissa p b v s =
      if s.takeWhile p = [] ∧ (fraction p (s.dropWhile p)).1 = [] then none
      else some ((v (s.takeWhile p ++ (fraction p (s.dropWhile p)).1) : ℚ) /
        (b : ℚ) ^ (fraction p (s.dropWhile p)).1.length, (fraction p (s.dropWhile p)).2) := by
  rw [scanMantissa]
  cases hd : s.dropWhile p with
  | nil => rfl
  | cons c r => by_cases hc : c = '.' <;> simp [fraction, hc]

theorem fraction_append {p : Char → Bool} (hp : ∀ c, p c = true → isBody c = true)
    (hs : NoBody s) : fraction p (t ++ s) = ((fraction p t).1, (fraction p t).2 ++ s) := by
  rcases t with _ | ⟨c, t⟩
  · rcases s with _ | ⟨c, s⟩
    · rfl
    · have hc : c ≠ '.' := hs.ne (by decide)
      simp [fraction, hc]
  · by_cases hc : c = '.'
    · subst hc
      rw [List.cons_append, fraction, fraction, takeWhile_append_noBody hs hp,
        dropWhile_append_noBody hs hp]
    · simp [fraction, hc]

theorem scanMantissa_append {p : Char → Bool} (hp : ∀ c, p c = true → isBody c = true) {b : ℕ}
    {v : Text → ℕ} (hs : NoBody s) : scanMantissa p b v (t ++ s) =
      (scanMantissa p b v t).map fun r => (r.1, r.2 ++ s) := by
  rw [scanMantissa_eq, scanMantissa_eq, takeWhile_append_noBody hs hp, dropWhile_append_noBody hs hp,
    fraction_append hp hs]
  split_ifs <;> rfl

theorem readDecimal_append (hs : NoBody s) :
    readDecimal (t ++ s) = (readDecimal t).map fun r => (r.1, r.2 ++ s) := by
  rw [readDecimal, readDecimal, scanMantissa_append (fun _ => isBody_of_isDigit) hs,
    Option.map_map, Option.map_map]
  congr 1
  funext r
  simp [scanExponent_append, skipExponent_append, hs, Char.isAlpha]

theorem readHexadecimal_append (hs : NoBody s) :
    readHexadecimal (t ++ s) = (readHexadecimal t).map fun r => (r.1, r.2 ++ s) := by
  rw [readHexadecimal, readHexadecimal, scanMantissa_append (fun _ => isBody_of_hexDigit) hs,
    Option.map_map, Option.map_map]
  congr 1
  funext r
  simp [scanExponent_append, skipExponent_append, hs, Char.isAlpha]

theorem readMagnitude_append (hs : NoBody s) :
    readMagnitude (t ++ s) = (readMagnitude t).map fun r => (r.1, r.2 ++ s) := by
  have hnone : readMagnitude s = readDecimal s := by
    rw [readMagnitude.eq_def]
    split
    · exact absurd (hs '0' rfl) (by decide)
    · rfl
  have hzero : readMagnitude ('0' :: s) = readDecimal ('0' :: s) := by
    rcases s with _ | ⟨x, s⟩
    · rfl
    · have hx : x.toLower ≠ 'x' := fun h =>
        absurd (isBody_of_toLower (c := x) (h ▸ by decide)) (by rw [hs x rfl]; decide)
      rw [readMagnitude, if_neg hx]
  rcases t with _ | ⟨c, _ | ⟨x, t⟩⟩
  · rw [List.nil_append, hnone]
    exact readDecimal_append hs (t := [])
  · by_cases hc : c = '0'
    · subst hc
      exact hzero.trans (readDecimal_append hs (t := ['0']))
    · have h1 : readMagnitude ([c] ++ s) = readDecimal ([c] ++ s) := by
        simp [readMagnitude, hc]
      rw [h1, readDecimal_append hs]
      simp [readMagnitude]
  · by_cases hc : c = '0'
    · subst hc
      rw [List.cons_append, List.cons_append, readMagnitude, readMagnitude]
      split_ifs with hx
      · rw [readHexadecimal_append hs]
        cases readHexadecimal t <;> rfl
      · exact readDecimal_append hs (t := '0' :: x :: t)
    · have h1 : ∀ u, readMagnitude (c :: u) = readDecimal (c :: u) := fun u => by
        simp [readMagnitude, hc]
      rw [List.cons_append, h1, h1]
      exact readDecimal_append hs (t := c :: x :: t)

theorem skipPayload_append (hs : NoBody s) : skipPayload (t ++ s) = skipPayload t ++ s := by
  have hp : ∀ c, isPayload c = true → isBody c = true := fun c => isBody_of_isPayload
  rcases t with _ | ⟨c, t⟩
  · rcases s with _ | ⟨c, s⟩
    · rfl
    · have hc : c ≠ '(' := hs.ne (by decide)
      simp [skipPayload, hc]
  · by_cases hc : c = '('
    · subst hc
      rw [List.cons_append, skipPayload, skipPayload, dropWhile_append_noBody hs hp]
      cases hd : t.dropWhile isPayload with
      | nil =>
        rcases s with _ | ⟨c, s⟩
        · rfl
        · have hc : c ≠ ')' := hs.ne (by decide)
          simp [hc]
      | cons x r => by_cases hx : x = ')' <;> simp [hx]
    · simp [skipPayload, hc]

theorem startsWith_append {word : String} (hw : word.toList.all Char.isAlpha = true)
    (hs : NoBody s) : startsWith word (t ++ s) = startsWith word t := by
  rw [startsWith, startsWith, List.map_append]
  replace hw := List.all_eq_true.mp hw
  generalize word.toList = l at hw
  induction l generalizing t with
  | nil => rfl
  | cons a l ih =>
    rcases t with _ | ⟨c, t⟩
    · rcases s with _ | ⟨c, s⟩
      · rfl
      · have hc : (a == c.toLower) = false := beq_false_of_ne fun h =>
          absurd (isBody_of_toLower (c := c) (h ▸ hw a List.mem_cons_self))
            (by rw [hs c rfl]; decide)
        rw [List.map_nil, List.nil_append, List.map_cons, List.isPrefixOf_cons_cons, hc,
          Bool.false_and]
        rfl
    · rw [List.map_cons, List.cons_append, List.isPrefixOf_cons_cons, List.isPrefixOf_cons_cons,
        ih fun c hc => hw c (List.mem_cons_of_mem _ hc)]

theorem drop_append_of_startsWith {word : String} (h : startsWith word t = true) (s : Text) :
    (t ++ s).drop word.toList.length = t.drop word.toList.length ++ s := by
  rw [startsWith, List.isPrefixOf_iff_prefix] at h
  have hlen := h.length_le
  rw [List.length_map] at hlen
  exact List.drop_append_of_le_length hlen

/-- The reading behind the white space. -/
theorem strtod_append_aux (hs : NoBody s)
    (hspace : (t ++ s).dropWhile isSpace = t.dropWhile isSpace ++ s) :
    strtod (t ++ s) = (strtod t).map fun r => (r.1, r.2 ++ s) := by
  rw [strtod, strtod, hspace, scanSign_append hs]
  dsimp only
  rw [startsWith_append (by decide) hs, startsWith_append (by decide) hs,
    startsWith_append (by decide) hs, readMagnitude_append hs]
  split_ifs with h1 h2 h3
  · have hd := drop_append_of_startsWith h1 s
    refine congrArg some (Prod.ext rfl ?_)
    exact (congrArg skipPayload hd).trans (skipPayload_append hs)
  · exact congrArg (fun u => some (Double.inf _, u)) (drop_append_of_startsWith h2 s)
  · exact congrArg (fun u => some (Double.inf _, u)) (drop_append_of_startsWith h3 s)
  · rw [Option.map_map, Option.map_map]
    rfl

/-- **What cannot go on a number changes nothing** of what is read before it. -/
theorem strtod_append (hs : Stops s) :
    strtod (t ++ s) = (strtod t).map fun r => (r.1, r.2 ++ s) := by
  refine strtod_append_aux hs.noBody ?_
  induction t with
  | nil =>
    rcases s with _ | ⟨c, s⟩
    · rfl
    · have hc : isSpace c = false := hs.not rfl fun _ => isNumeric_of_isSpace
      simp [hc]
  | cons x t ih =>
    rw [List.cons_append, List.dropWhile_cons, List.dropWhile_cons, ih]
    split_ifs <;> rfl

/-- **A number ends where `strtod` stops**: on its own, without the white space before it and
without what follows, it is read whole. -/
theorem strtod_alone {d : Double} (h : strtod s = some (d, t)) (ht : NoBody t) :
    ∃ w, s.dropWhile isSpace = w ++ t ∧ (∀ c ∈ w, isBody c = true) ∧
      strtod w = some (d, []) := by
  obtain ⟨w, hw, hbody⟩ := takenBy_strtod h
  refine ⟨w, hw, hbody, ?_⟩
  have hidem : (w ++ t).dropWhile isSpace = w ++ t := by
    rw [← hw]
    exact List.dropWhile_idempotent (p := isSpace) s
  have hwhole : strtod (w ++ t) = some (d, t) := by
    rw [← h, strtod, strtod, hidem, hw]
  have hself : w.dropWhile isSpace = w := by
    rcases w with _ | ⟨c, w⟩
    · rfl
    · rw [List.cons_append, List.dropWhile_cons] at hidem
      split_ifs at hidem with hc
      · have hlen := congrArg List.length hidem
        have hle := (List.dropWhile_sublist (p := isSpace) (l := w ++ t)).length_le
        simp only [List.length_cons] at hlen
        omega
      · rw [List.dropWhile_cons, if_neg hc]
  rw [strtod_append_aux ht (by rw [hidem, hself]), Option.map_eq_some_iff] at hwhole
  obtain ⟨⟨d', u⟩, hread, hsame⟩ := hwhole
  obtain ⟨rfl, hu⟩ := Prod.mk.inj hsame
  obtain rfl : u = [] := List.append_left_eq_self.mp hu
  exact hread

/-! ## Printing -/

/-- The digits of a number printed to `k` significant digits, and the power of ten its first digit
stands for. -/
def significant (k : ℕ) (q : ℚ) : ℕ × ℤ :=
  let e := Int.log 10 |q|
  let n := (roundEven (|q| / 10 ^ (e - (k - 1)))).toNat
  if n = 10 ^ k then (10 ^ (k - 1), e + 1) else (n, e)

/-- Zeros at the end of the digits behind a point are left out, and the point with the last. -/
def pointed (digits : Text) : Text :=
  match digits.rdropWhile (· = '0') with
  | [] => []
  | ds => '.' :: ds

/-- A sign and at least two digits. -/
def showExponent (e : ℤ) : Text :=
  'e' :: (if e < 0 then '-' else '+') :: (showNat e.natAbs).leftpad 2 '0'

/-- The `%.kg` conversion of a number other than zero, without its sign. -/
def printMagnitude (k : ℕ) (q : ℚ) : Text :=
  let (n, e) := significant k q
  let digits := showNat n
  if e < -4 ∨ e ≥ k then digits.take 1 ++ pointed (digits.drop 1) ++ showExponent e
  else if e < 0 then '0' :: pointed (List.replicate (-e - 1).toNat '0' ++ digits)
  else digits.take (e + 1).toNat ++ pointed (digits.drop (e + 1).toNat)

/-- The `%.kg` conversion, which the stream insertion uses. A `nan` is printed without its sign. -/
def printGeneral (k : ℕ) : Double → Text
  | .nan => "nan".toList
  | .inf neg => (if neg then "-inf" else "inf").toList
  | .fin q => (if q < 0 then ['-'] else []) ++ if q = 0 then ['0'] else printMagnitude k q

/-! ## Printed numbers read back -/

theorem readDecimal_showNat (n : ℕ) : readDecimal (showNat n) = some ((n : ℚ), []) := by
  rw [readDecimal, scanMantissa_whole (fun _ => isDigit_of_mem_showNat) (showNat_ne_nil n)]
  simp [scanExponent, skipExponent, showNat, Nat.ofDigitChars_ten_toDigits]

theorem readMagnitude_showNat (n : ℕ) : readMagnitude (showNat n) = some ((n : ℚ), []) := by
  rw [← readDecimal_showNat, readMagnitude.eq_def]
  split
  · next x s h =>
    have hx : x.isDigit = true := isDigit_of_mem_showNat (n := n) (by simp [h])
    have hne : x.toLower ≠ 'x' := fun e => by
      rw [toLower_of_isDigit hx] at e
      exact absurd hx (by rw [e]; decide)
    rw [if_neg hne, h]
  · rfl

theorem startsWith_showNat {word : String} (hw : word.toList.all Char.isAlpha = true)
    (h0 : word.toList ≠ []) (n : ℕ) : startsWith word (showNat n) = false := by
  obtain ⟨a, l, hl⟩ := List.exists_cons_of_ne_nil h0
  obtain ⟨c, ds, hd⟩ := List.exists_cons_of_ne_nil (showNat_ne_nil n)
  have hc : c.isDigit = true := isDigit_of_mem_showNat (n := n) (by simp [hd])
  have ha : a.isAlpha = true := List.all_eq_true.mp hw a (by simp [hl])
  have hne : (a == c) = false := beq_false_of_ne fun h => by
    rw [isAlpha_iff, h] at ha
    rw [Char.isDigit, Bool.and_eq_true, decide_eq_true_iff, decide_eq_true_iff] at hc
    have h1 : c.toNat ≤ 57 := hc.2
    omega
  rw [startsWith, hl, hd, List.map_cons, toLower_of_isDigit hc, List.isPrefixOf_cons_cons, hne,
    Bool.false_and]

theorem scanSign_showInt (n : ℤ) :
    scanSign ((showInt n).dropWhile isSpace) = (decide (n < 0), showNat n.natAbs) := by
  have hdrop : ∀ k, (showNat k).dropWhile isSpace = showNat k := fun k => by
    obtain ⟨c, ds, hd⟩ := List.exists_cons_of_ne_nil (showNat_ne_nil k)
    have hc : isSpace c = false := isSpace_of_mem_showNat (n := k) (by simp [hd])
    rw [hd, List.dropWhile_cons, hc]
    rfl
  have hsign : ∀ k, scanSign (showNat k) = (false, showNat k) := fun k => by
    have hd : ∀ c ∈ showNat k, c.isDigit = true := fun _ => isDigit_of_mem_showNat
    rw [scanSign.eq_def]
    split
    · next h => exact absurd (hd '-' (by simp [h])) (by decide)
    · next h => exact absurd (hd '+' (by simp [h])) (by decide)
    · rfl
  rw [showInt]
  split_ifs with h
  · rw [List.dropWhile_cons, if_neg (by decide), scanSign]
    simp [h]
  · rw [hdrop, hsign]
    simp [h]

/-- A whole number that a `double` holds is read back from its decimal digits. -/
theorem strtod_showInt {n : ℤ} (h : n.natAbs < 2 ^ 53) :
    strtod (showInt n) = some (.fin n, []) := by
  have hsmall : ¬ (2 : ℚ) ^ 1024 ≤ n.natAbs := by
    have h1 : (n.natAbs : ℚ) < 2 ^ 53 := by exact_mod_cast h
    exact not_le.mpr (h1.trans_le (pow_le_pow_right₀ (by norm_num) (by norm_num)))
  rw [strtod, scanSign_showInt]
  dsimp only
  rw [startsWith_showNat (by decide) (by decide), startsWith_showNat (by decide) (by decide),
    startsWith_showNat (by decide) (by decide), readMagnitude_showNat]
  simp only [Bool.false_eq_true, if_false, Option.map_some, signed, round64_natCast h,
    if_neg hsmall]
  congr 3
  rcases lt_or_ge n 0 with hn | hn
  · rw [if_pos (by simpa using hn), ← Int.cast_natCast, Int.ofNat_natAbs_of_nonpos hn.le]
    simp
  · rw [if_neg (by simpa using hn), ← Int.cast_natCast, Int.natAbs_of_nonneg hn]

end Aes67
