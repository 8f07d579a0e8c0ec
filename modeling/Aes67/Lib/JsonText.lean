import Mathlib
import Aes67.Lib.Decimal

/-!
# JSON texts

The grammar of RFC 8259 in its two layers: a text is a sequence of tokens with white space between
them, and the tokens of a JSON text are those of a document.

* `JsonNumber`: a number in its parts, how it is written and what it stands for;
  **`strtod_number`**: how `strtod` reads it;
* `tokens`: what a text is divided into; `Token.Proper`: what a token of JSON may be;
* `Leads`: the tokens between two places of a text;
* `Document`, `Document.tokens`: values, objects and arrays, and how they are written;
* **`IsJson`**: the texts of JSON.
-/

namespace Aes67.JsonText

/-! ## Numbers -/

/-- The exponent of a number. -/
structure Exponent where
  mark : Char
  sign : Text
  digits : Text
  mark_eq : mark = 'e' ∨ mark = 'E'
  sign_eq : sign = [] ∨ sign = ['+'] ∨ sign = ['-']
  digits_ne : digits ≠ []
  isDigit : ∀ c ∈ digits, c.isDigit = true

/-- A number: its sign, its digits before and behind the point, and its exponent. The digits behind
the point are none where there is no point. -/
structure JsonNumber where
  minus : Bool := false
  whole : Text
  part : Text := []
  exponent : Option Exponent := none
  whole_ne : whole ≠ []
  whole_digits : ∀ c ∈ whole, c.isDigit = true
  whole_zero : whole.head? = some '0' → whole = ['0']
  part_digits : ∀ c ∈ part, c.isDigit = true

def Exponent.text (e : Exponent) : Text := e.mark :: (e.sign ++ e.digits)

def Exponent.power (e : Exponent) : ℤ :=
  if e.sign = ['-'] then -(Nat.ofDigitChars 10 e.digits 0 : ℤ) else Nat.ofDigitChars 10 e.digits 0

namespace JsonNumber

variable (n : JsonNumber)

def exponentText : Text := n.exponent.elim [] Exponent.text

/-- The number as it is written, without its sign. -/
def unsigned : Text :=
  n.whole ++ ((if n.part = [] then [] else '.' :: n.part) ++ n.exponentText)

/-- The number as it is written. -/
def text : Text := (if n.minus then ['-'] else []) ++ n.unsigned

/-- What it stands for, without its sign. -/
def magnitude : ℚ :=
  Nat.ofDigitChars 10 (n.whole ++ n.part) 0 / 10 ^ n.part.length *
    10 ^ n.exponent.elim 0 Exponent.power

theorem unsigned_cons : ∃ c s, n.unsigned = c :: s ∧ c.isDigit = true := by
  obtain ⟨c, ds, hc⟩ := List.exists_cons_of_ne_nil n.whole_ne
  refine ⟨c, _, by rw [unsigned, hc, List.cons_append], ?_⟩
  exact n.whole_digits c (hc ▸ List.mem_cons_self)

theorem text_cons : ∃ c s, n.text = c :: s ∧ (c = '-' ∨ c.isDigit = true) := by
  obtain ⟨c, s, hs, hc⟩ := n.unsigned_cons
  rw [text]
  split_ifs
  · exact ⟨'-', n.unsigned, rfl, Or.inl rfl⟩
  · exact ⟨c, s, hs, Or.inr hc⟩

end JsonNumber

theorem takeWhile_digits {ds s : Text} (hd : ∀ c ∈ ds, c.isDigit = true)
    (hs : ∀ c, s.head? = some c → c.isDigit = false) :
    (ds ++ s).takeWhile Char.isDigit = ds ∧ (ds ++ s).dropWhile Char.isDigit = s := by
  have hend : s.takeWhile Char.isDigit = [] ∧ s.dropWhile Char.isDigit = s := by
    rcases s with _ | ⟨c, s⟩
    · exact ⟨rfl, rfl⟩
    · simp [hs c rfl]
  rw [List.takeWhile_append_of_pos hd, List.dropWhile_append_of_pos hd, hend.1, hend.2,
    List.append_nil]
  exact ⟨rfl, rfl⟩

/-- The exponent is read to its end. -/
theorem readExponent (e : Exponent) :
    scanExponent 'e' e.text = e.power ∧ skipExponent 'e' e.text = [] := by
  obtain ⟨mark, sign, digits, hmark, hsign, hne, hdigits⟩ := e
  have hlower : mark.toLower = 'e' := by
    rcases hmark with rfl | rfl <;> decide
  obtain ⟨d, ds, rfl⟩ := List.exists_cons_of_ne_nil hne
  have hd := hdigits d List.mem_cons_self
  have hspan := takeWhile_digits (s := []) hdigits (fun c hc => by cases hc)
  rw [List.append_nil] at hspan
  have hscan : scanSign (sign ++ d :: ds) = (decide (sign = ['-']), d :: ds) := by
    rcases hsign with rfl | rfl | rfl
    · have h1 : d ≠ '-' := by rintro rfl; exact absurd hd (by decide)
      have h2 : d ≠ '+' := by rintro rfl; exact absurd hd (by decide)
      simp [scanSign, h1, h2]
    · rfl
    · rfl
  simp [Exponent.text, scanExponent, skipExponent, hscan, hspan.1, hspan.2, hlower, Exponent.power]

namespace JsonNumber

variable (n : JsonNumber)

theorem exponentText_head {c : Char} (h : n.exponentText.head? = some c) : c = 'e' ∨ c = 'E' := by
  rw [exponentText] at h
  cases he : n.exponent with
  | none =>
    rw [he] at h
    cases h
  | some e =>
    rw [he] at h
    cases h
    exact e.mark_eq

theorem exponentText_not_digit {c : Char} (h : n.exponentText.head? = some c) :
    c.isDigit = false := by
  rcases n.exponentText_head h with rfl | rfl <;> decide

theorem readExponentText : scanExponent 'e' n.exponentText = n.exponent.elim 0 Exponent.power ∧
    skipExponent 'e' n.exponentText = [] := by
  rw [exponentText]
  cases n.exponent with
  | none => exact ⟨rfl, rfl⟩
  | some e => exact readExponent e

theorem readDecimal_unsigned : readDecimal n.unsigned = some (n.magnitude, []) := by
  have htail : ∀ c, ((if n.part = [] then [] else '.' :: n.part) ++ n.exponentText).head? = some c →
      c.isDigit = false := by
    intro c hc
    split_ifs at hc with hpart
    · exact n.exponentText_not_digit hc
    · cases hc
      decide
  obtain ⟨htake, hdrop⟩ := takeWhile_digits n.whole_digits htail
  have hfraction : fraction Char.isDigit
      ((if n.part = [] then [] else '.' :: n.part) ++ n.exponentText) = (n.part, n.exponentText) := by
    split_ifs with hpart
    · rw [hpart, List.nil_append]
      cases he : n.exponentText with
      | nil => rfl
      | cons c s =>
        have hc : c ≠ '.' := by
          rintro rfl
          rcases n.exponentText_head (c := '.') (by rw [he]; rfl) with h | h <;>
            exact absurd h (by decide)
        simp [fraction, hc]
    · obtain ⟨h1, h2⟩ := takeWhile_digits n.part_digits fun c => n.exponentText_not_digit
      rw [List.cons_append, fraction, h1, h2]
  rw [readDecimal, scanMantissa_eq, unsigned, htake, hdrop, hfraction,
    if_neg fun h => n.whole_ne h.1, Option.map_some, n.readExponentText.1, n.readExponentText.2]
  rfl

theorem readMagnitude_unsigned : readMagnitude n.unsigned = some (n.magnitude, []) := by
  rw [← readDecimal_unsigned, readMagnitude.eq_def]
  split
  · next x s hs =>
    -- A zero at the front is the only digit before the point, so no `x` can follow it.
    have hx : x.toLower ≠ 'x' := by
      have hzero : n.whole = ['0'] := by
        obtain ⟨c, ds, hc⟩ := List.exists_cons_of_ne_nil n.whole_ne
        apply n.whole_zero
        rw [unsigned, hc, List.cons_append] at hs
        rw [hc, List.head?_cons, (List.cons.inj hs).1]
      rw [unsigned, hzero, List.singleton_append] at hs
      have htail := (List.cons.inj hs).2
      split_ifs at htail with hpart
      · rw [List.nil_append] at htail
        rcases n.exponentText_head (c := x) (by rw [htail]; rfl) with rfl | rfl <;> decide
      · rw [List.cons_append] at htail
        obtain rfl := (List.cons.inj htail).1
        decide
    rw [if_neg hx, hs]
  · rfl

end JsonNumber

theorem startsWith_digit {word : String} {c : Char} {s : Text} (hc : c.isDigit = true)
    (hw : word.toList.all Char.isAlpha = true) (h0 : word.toList ≠ []) :
    startsWith word (c :: s) = false := by
  obtain ⟨a, l, hl⟩ := List.exists_cons_of_ne_nil h0
  have ha : a.isAlpha = true := List.all_eq_true.mp hw a (by simp [hl])
  have hne : (a == c) = false := beq_false_of_ne fun h => by
    rw [isAlpha_iff, h] at ha
    rw [Char.isDigit, Bool.and_eq_true, decide_eq_true_iff, decide_eq_true_iff] at hc
    have h1 : c.toNat ≤ 57 := hc.2
    omega
  rw [startsWith, hl, List.map_cons, toLower_of_isDigit hc, List.isPrefixOf_cons_cons, hne,
    Bool.false_and]

/-- **A number of JSON is read whole**, and rounded. -/
theorem strtod_number (n : JsonNumber) : strtod n.text = some (signed n.minus n.magnitude, []) := by
  obtain ⟨c, s, hs, hc⟩ := n.unsigned_cons
  have hspace := isSpace_of_isDigit hc
  have h1 : c ≠ '-' := by rintro rfl; exact absurd hc (by decide)
  have h2 : c ≠ '+' := by rintro rfl; exact absurd hc (by decide)
  have hscan : scanSign (n.text.dropWhile isSpace) = (n.minus, n.unsigned) := by
    rw [JsonNumber.text]
    cases n.minus with
    | true => rfl
    | false =>
      rw [if_neg (by decide), List.nil_append, hs, List.dropWhile_cons, hspace]
      simp [scanSign, h1, h2]
  have hmagnitude := n.readMagnitude_unsigned
  rw [hs] at hscan hmagnitude
  rw [strtod, hscan]
  dsimp only
  rw [startsWith_digit hc (by decide) (by decide), startsWith_digit hc (by decide) (by decide),
    startsWith_digit hc (by decide) (by decide), hmagnitude]
  rfl

/-! ## Tokens -/

/-- What a text is divided into: structural characters, strings as they stand between their quotes,
and words. White space that JSON does not have is a token of its own. -/
inductive Token
  | mark (c : Char)
  | quoted (raw : Text)
  | word (w : Text)
  | stray (c : Char)
  deriving DecidableEq

/-- The white space of JSON. -/
def isWhite (c : Char) : Bool := c == ' ' || c == '\t' || c == '\n' || c == '\r'

/-- A structural character. -/
def isMark (c : Char) : Bool := c ∈ ['\x7b', '\x7d', '[', ']', ':', ',']

/-- A character of a word. -/
def isWordChar (c : Char) : Bool := !(isSpace c || isMark c || c == '"')

/-- A string up to its closing quote, and what follows it. An escape takes the character behind the
backslash with it, and `\u` takes four more. -/
def closing : Text → Option (Text × Text)
  | [] => none
  | c :: s =>
    if c = '"' then some ([], s)
    else if c ≠ '\\' then (closing s).map fun p => (c :: p.1, p.2)
    else match s with
      | [] => none
      | e :: s =>
        if e = 'u' then
          match s with
          | c1 :: c2 :: c3 :: c4 :: s =>
            (closing s).map fun p => ('\\' :: 'u' :: c1 :: c2 :: c3 :: c4 :: p.1, p.2)
          | _ => none
        else (closing s).map fun p => ('\\' :: e :: p.1, p.2)

example : closing "a\\\"b\"c".toList = some ("a\\\"b".toList, ['c']) ∧ closing [] = none :=
  ⟨by decide +kernel, by rw [closing]⟩

section Closing

variable {c e c1 c2 c3 c4 : Char} {s raw rest : Text}

@[simp] theorem closing_quote (s : Text) : closing ('"' :: s) = some ([], s) := by
  rw [closing.eq_def]
  rfl

theorem closing_plain (hq : c ≠ '"') (hb : c ≠ '\\') :
    closing (c :: s) = (closing s).map fun p => (c :: p.1, p.2) := by
  rw [closing.eq_def]
  dsimp only
  rw [if_neg hq, if_pos hb]

@[simp] theorem closing_unicode : closing ('\\' :: 'u' :: c1 :: c2 :: c3 :: c4 :: s) =
    (closing s).map fun p => ('\\' :: 'u' :: c1 :: c2 :: c3 :: c4 :: p.1, p.2) := by
  rw [closing.eq_def]
  rfl

theorem closing_escape (he : e ≠ 'u') :
    closing ('\\' :: e :: s) = (closing s).map fun p => ('\\' :: e :: p.1, p.2) := by
  rw [closing.eq_def]
  dsimp only
  rw [if_neg (by decide), if_neg (by decide), if_neg he]

end Closing

/-- What a string leaves is what stands behind its quote. -/
theorem eq_of_closing {s raw rest : Text} (h : closing s = some (raw, rest)) :
    s = raw ++ '"' :: rest := by
  induction s using closing.induct generalizing raw with
  | case1 => cases h
  | case2 s =>
    rw [closing_quote] at h
    cases h
    rfl
  | case3 c s hq hb ih =>
    rw [closing_plain hq hb] at h
    obtain ⟨⟨raw', rest'⟩, hp, he⟩ := Option.map_eq_some_iff.mp h
    cases he
    rw [ih hp, List.cons_append]
  | case4 c hq hb =>
    obtain rfl := not_not.mp hb
    cases h
  | case5 c hq hb c1 c2 c3 c4 s ih =>
    obtain rfl := not_not.mp hb
    rw [closing_unicode] at h
    obtain ⟨⟨raw', rest'⟩, hp, he⟩ := Option.map_eq_some_iff.mp h
    cases he
    rw [ih hp]
    rfl
  | case6 c hq hb s hs =>
    obtain rfl := not_not.mp hb
    rcases s with _ | ⟨c1, _ | ⟨c2, _ | ⟨c3, _ | ⟨c4, s⟩⟩⟩⟩
    · cases h
    · cases h
    · cases h
    · cases h
    · exact (hs c1 c2 c3 c4 s rfl).elim
  | case7 c hq hb e s he ih =>
    obtain rfl := not_not.mp hb
    rw [closing_escape he] at h
    obtain ⟨⟨raw', rest'⟩, hp, heq⟩ := Option.map_eq_some_iff.mp h
    cases heq
    rw [ih hp]
    rfl

/-- The tokens of a text; nothing where a string does not end. -/
def tokens (s : Text) : Option (List Token) :=
  match s with
  | [] => some []
  | c :: s =>
    if isWhite c then tokens s
    else if isSpace c then (tokens s).map (.stray c :: ·)
    else if isMark c then (tokens s).map (.mark c :: ·)
    else if c = '"' then
      match _h : closing s with
      | none => none
      | some (raw, rest) => (tokens rest).map (.quoted raw :: ·)
    else (tokens (s.dropWhile isWordChar)).map (.word (c :: s.takeWhile isWordChar) :: ·)
termination_by s.length
decreasing_by
  · exact Nat.lt_succ_self _
  · exact Nat.lt_succ_self _
  · exact Nat.lt_succ_self _
  · rw [eq_of_closing _h]
    simp only [List.length_cons, List.length_append]
    omega
  · exact Nat.lt_succ_of_le (List.dropWhile_sublist _).length_le

/-- A character of a string that needs no escape, or an escape of JSON. -/
def properChars : Text → Bool
  | [] => true
  | c :: s =>
    if c ≠ '\\' then c ≠ '"' && 32 ≤ c.toNat && properChars s
    else match s with
      | [] => false
      | e :: s =>
        if e = 'u' then
          match s with
          | c1 :: c2 :: c3 :: c4 :: s =>
            [c1, c2, c3, c4].all (fun c => (hexDigit c).isSome) && properChars s
          | _ => false
        else e ∈ "\"\\/bfnrt".toList && properChars s

/-- The literal names. -/
def names : List Text := ["true".toList, "false".toList, "null".toList]

/-- A token of JSON. -/
def Token.Proper : Token → Prop
  | .mark _ => True
  | .quoted raw => properChars raw = true
  | .word w => w ∈ names ∨ ∃ n : JsonNumber, n.text = w
  | .stray _ => False

/-- Every token but the white space that JSON does not have. -/
def Token.kept : Token → Bool
  | .stray _ => false
  | _ => true

section Tokens

variable {c : Char} {s t u w raw rest : Text} {ts us : List Token}

/-- No word goes on into the text. -/
def Boundary (s : Text) : Prop := ∀ c, s.head? = some c → isWordChar c = false

theorem isSpace_of_isWhite (h : isWhite c = true) : isSpace c = true := by
  simp only [isWhite, Bool.or_eq_true, beq_iff_eq] at h
  rcases h with ((rfl | rfl) | rfl) | rfl <;> decide

theorem isWordChar_of_isSpace (h : isSpace c = true) : isWordChar c = false := by
  simp [isWordChar, h]

theorem isWordChar_of_isMark (h : isMark c = true) : isWordChar c = false := by
  simp [isWordChar, h]

theorem boundary_nil : Boundary [] := by
  rintro c ⟨⟩

theorem boundary_mark (h : isMark c = true) (s : Text) : Boundary (c :: s) := by
  rintro x hx
  cases hx
  exact isWordChar_of_isMark h

theorem isSpace_of_isMark (h : isMark c = true) : isSpace c = false := by
  simp only [isMark, List.mem_cons, List.not_mem_nil, or_false, decide_eq_true_eq] at h
  rcases h with rfl | rfl | rfl | rfl | rfl | rfl <;> decide

theorem isWhite_of_isSpace (h : isSpace c = false) : isWhite c = false := by
  by_contra hw
  rw [Bool.not_eq_false] at hw
  rw [isSpace_of_isWhite hw] at h
  cases h

theorem tokens_white (h : isWhite c = true) : tokens (c :: s) = tokens s := by
  rw [tokens, if_pos h]

theorem tokens_mark (h : isMark c = true) :
    tokens (c :: s) = (tokens s).map (.mark c :: ·) := by
  have hs := isSpace_of_isMark h
  rw [tokens, if_neg (by simp [isWhite_of_isSpace hs]), if_neg (by simp [hs]), if_pos h]

theorem tokens_stray (hw : isWhite c = false) (h : isSpace c = true) :
    tokens (c :: s) = (tokens s).map (.stray c :: ·) := by
  rw [tokens, if_neg (by simp [hw]), if_pos h]

theorem tokens_quoted (h : closing s = some (raw, rest)) :
    tokens ('"' :: s) = (tokens rest).map (.quoted raw :: ·) := by
  rw [tokens, if_neg (by decide), if_neg (by decide), if_neg (by decide), if_pos rfl]
  split
  · next hnone =>
    rw [h] at hnone
    cases hnone
  · next hsome =>
    rw [h] at hsome
    cases hsome
    rfl

theorem tokens_word (h0 : w ≠ []) (hw : ∀ c ∈ w, isWordChar c = true) (hs : Boundary s) :
    tokens (w ++ s) = (tokens s).map (.word w :: ·) := by
  obtain ⟨c, w, rfl⟩ := List.exists_cons_of_ne_nil h0
  have hc := hw c List.mem_cons_self
  have hrest : ∀ x ∈ w, isWordChar x = true := fun x hx => hw x (List.mem_cons_of_mem _ hx)
  have hend : s.takeWhile isWordChar = [] ∧ s.dropWhile isWordChar = s := by
    rcases s with _ | ⟨x, s⟩
    · exact ⟨rfl, rfl⟩
    · simp [hs x rfl]
  simp only [isWordChar, Bool.not_eq_true', Bool.or_eq_false_iff, beq_eq_false_iff_ne] at hc
  rw [List.cons_append, tokens, if_neg (by simp [isWhite_of_isSpace hc.1.1]), if_neg (by simp [hc.1.1]),
    if_neg (by simp [hc.1.2]), if_neg hc.2, List.takeWhile_append_of_pos hrest,
    List.dropWhile_append_of_pos hrest, hend.1, hend.2, List.append_nil]

/-- The tokens between two places of a text, the white space that JSON does not have left out. -/
def Leads (s t : Text) (ts : List Token) : Prop :=
  ∃ us, us.filter Token.kept = ts ∧ tokens s = (tokens t).map (us ++ ·)

namespace Leads

theorem refl (s : Text) : Leads s s [] := ⟨[], rfl, by simp⟩

theorem trans (h : Leads s t ts) (h' : Leads t u us) : Leads s u (ts ++ us) := by
  obtain ⟨l, rfl, hl⟩ := h
  obtain ⟨l', rfl, hl'⟩ := h'
  refine ⟨l ++ l', List.filter_append l l', ?_⟩
  rw [hl, hl', Option.map_map]
  congr 1
  funext x
  exact (List.append_assoc l l' x).symm

theorem mark (h : isMark c = true) : Leads (c :: s) s [.mark c] :=
  ⟨[.mark c], rfl, tokens_mark h⟩

theorem quoted (h : closing s = some (raw, rest)) : Leads ('"' :: s) rest [.quoted raw] :=
  ⟨[.quoted raw], rfl, tokens_quoted h⟩

theorem word (h0 : w ≠ []) (hw : ∀ c ∈ w, isWordChar c = true) (hs : Boundary s) :
    Leads (w ++ s) s [.word w] :=
  ⟨[.word w], rfl, tokens_word h0 hw hs⟩

/-- White space of either kind. -/
theorem space (h : isSpace c = true) : Leads (c :: s) s [] := by
  cases hw : isWhite c with
  | true => exact ⟨[], rfl, by rw [tokens_white hw]; simp⟩
  | false => exact ⟨[.stray c], rfl, tokens_stray hw h⟩

theorem dropWhile {p : Char → Bool} (hp : ∀ c, p c = true → isSpace c = true) (s : Text) :
    Leads s (s.dropWhile p) [] := by
  induction s with
  | nil => exact refl []
  | cons c s ih =>
    rw [List.dropWhile_cons]
    split_ifs with hc
    · exact (space (hp c hc)).trans ih
    · exact refl _

/-- What leads to the end of the text is all its tokens. -/
theorem tokens_eq (h : Leads s [] ts) : ∃ us, tokens s = some us ∧ us.filter Token.kept = ts := by
  obtain ⟨us, hus, hs⟩ := h
  rw [tokens, Option.map_some, List.append_nil] at hs
  exact ⟨us, hs, hus⟩

end Leads

/-- A word ends where white space begins, if it ends behind it. -/
theorem boundary_of_dropWhile {p : Char → Bool} (hp : ∀ c, p c = true → isSpace c = true)
    (h : Boundary (s.dropWhile p)) : Boundary s := by
  rcases s with _ | ⟨c, s⟩
  · exact boundary_nil
  · rw [List.dropWhile_cons] at h
    split_ifs at h with hc
    · rintro x hx
      cases hx
      exact isWordChar_of_isSpace (hp c hc)
    · exact h

theorem filter_kept (h : ∀ t ∈ ts, t.Proper) : ts.filter Token.kept = ts := by
  refine List.filter_eq_self.mpr fun t ht => ?_
  have hproper := h t ht
  cases t with
  | stray c => exact hproper.elim
  | _ => rfl

end Tokens

/-! ## Documents -/

/-- A JSON value as it is written: a literal name or a number, a string, an object, an array. -/
inductive Document
  | word (w : Text)
  | quoted (raw : Text)
  | obj (members : List (Text × Document))
  | arr (items : List Document)

mutual

/-- The tokens of a document. -/
def Document.tokens : Document → List Token
  | .word w => [.word w]
  | .quoted raw => [.quoted raw]
  | .obj members => .mark '\x7b' :: ([.mark ','].intercalate (memberTokens members) ++ [.mark '\x7d'])
  | .arr items => .mark '[' :: ([.mark ','].intercalate (itemTokens items) ++ [.mark ']'])

/-- The members of an object: a name, a colon and a value. -/
def Document.memberTokens : List (Text × Document) → List (List Token)
  | [] => []
  | (raw, value) :: members =>
    (.quoted raw :: .mark ':' :: value.tokens) :: Document.memberTokens members

/-- The items of an array. -/
def Document.itemTokens : List Document → List (List Token)
  | [] => []
  | item :: items => item.tokens :: Document.itemTokens items

end

namespace Document

variable {raw : Text} {d e : Document} {members : List (Text × Document)} {items : List Document}
  {m : Text × Document}

/-- A token between commas is one of the tokens in all. -/
theorem mem_intercalate {t : Token} {ts : List Token} {l : List (List Token)} (ht : t ∈ ts)
    (hts : ts ∈ l) : t ∈ [Token.mark ','].intercalate l := by
  induction l with
  | nil => cases hts
  | cons x l ih =>
    cases l with
    | nil =>
      rw [List.intercalate_singleton, ← List.mem_singleton.mp hts]
      exact ht
    | cons y l =>
      rw [List.intercalate_cons_cons, List.append_assoc, List.mem_append]
      rcases List.mem_cons.mp hts with rfl | hts
      · exact Or.inl ht
      · exact Or.inr (List.mem_append_right _ (ih hts))

theorem memberTokens_singleton : [Token.mark ','].intercalate (memberTokens [(raw, d)]) =
    .quoted raw :: .mark ':' :: d.tokens :=
  List.intercalate_singleton

theorem memberTokens_cons_cons :
    [Token.mark ','].intercalate (memberTokens ((raw, d) :: m :: members)) =
      .quoted raw :: .mark ':' :: (d.tokens ++ .mark ',' ::
        [Token.mark ','].intercalate (memberTokens (m :: members))) := by
  obtain ⟨raw', d'⟩ := m
  simp [memberTokens, List.intercalate_cons_cons]

theorem itemTokens_singleton : [Token.mark ','].intercalate (itemTokens [d]) = d.tokens :=
  List.intercalate_singleton

theorem itemTokens_cons_cons : [Token.mark ','].intercalate (itemTokens (d :: e :: items)) =
    d.tokens ++ .mark ',' :: [Token.mark ','].intercalate (itemTokens (e :: items)) := by
  simp [itemTokens, List.intercalate_cons_cons]

end Document

/-- **A JSON text**: the tokens of a document, each of them a token of JSON. -/
def IsJson (s : Text) : Prop :=
  ∃ d : Document, tokens s = some d.tokens ∧ ∀ t ∈ d.tokens, t.Proper

/-- **A text with the tokens of a document**, white space that JSON does not have apart, is a JSON
text just when each of its tokens is one of JSON. -/
theorem isJson_iff {s : Text} {d : Document} {ts : List Token} (hs : tokens s = some ts)
    (hd : ts.filter Token.kept = d.tokens) : IsJson s ↔ ∀ t ∈ ts, t.Proper := by
  constructor
  · rintro ⟨d', hs', hproper⟩
    obtain rfl := Option.some.inj (hs.symm.trans hs')
    exact hproper
  · intro h
    rw [filter_kept h] at hd
    exact ⟨d, hd ▸ hs, hd ▸ h⟩

end Aes67.JsonText
