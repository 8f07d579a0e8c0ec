import Mathlib

/-!
# Text

C++ strings as lists of characters, one character a byte, and the parts of the C++ library that
read them: `std::getline` splitting, trimming, searching, and the number readers `stoi`, `stol`,
`stoul` and `stoull`, which give nothing where the library throws.

* `getlines_append_cons`, `getlines_intercalate`: splitting undoes joining with a delimiter;
* `fields_append_cons`, `fields_of_forall`: the words of a text;
* `eq_append_of_cut`, `cut_eq_none`, `not_infix_of_cut`: a search finds the first occurrence;
* `trimmed_iff`, `trimmed_trim`: trimming;
* `stoull_showNat`, `stoSigned_showNat`: a printed number is read back.
-/

namespace Aes67

/-- A C++ string, one character a byte. -/
abbrev Text := List Char

instance decidableMem (t : Text) (l : List Text) : Decidable (t ∈ l) :=
  List.instDecidableMemOfLawfulBEq t l

/-! ## Characters and splitting -/

/-- `isspace` in the C locale. -/
def isSpace (c : Char) : Bool :=
  c == ' ' || c == '\t' || c == '\n' || c == '\r' || c == '\x0c' || c == '\x0b'

/-- The pieces a `while (std::getline(stream, part, d))` loop reads. A delimiter at the very end
opens no further piece. -/
def getlines (d : Char) : Text → List Text
  | [] => []
  | c :: s =>
    if c = d then [] :: getlines d s
    else match getlines d s with
      | [] => [[c]]
      | p :: ps => (c :: p) :: ps

/-- Strip white space at both ends. -/
def trim (s : Text) : Text := (s.dropWhile isSpace).rdropWhile isSpace

/-- What stands before and after the first occurrence of `pat`. -/
def cut (pat : Text) : Text → Option (Text × Text)
  | [] => if pat = [] then some ([], []) else none
  | c :: s =>
    if pat.isPrefixOf (c :: s) then some ([], (c :: s).drop pat.length)
    else (cut pat s).map fun p => (c :: p.1, p.2)

/-- Whether `pat` occurs in `s`. -/
def contains (pat s : Text) : Bool := (cut pat s).isSome

example : cut ['='] "a=b".toList = some (['a'], ['b']) ∧ cut ['='] [] = none :=
  ⟨by decide, by rw [cut, if_neg (List.cons_ne_nil _ _)]⟩

example : getlines ',' "a,b,".toList = [['a'], ['b']] ∧ getlines ',' [] = [] :=
  ⟨by decide, by rw [getlines]⟩

variable {d c : Char} {p s t pat : Text}

theorem getlines_append_cons (hp : d ∉ p) (s : Text) :
    getlines d (p ++ d :: s) = p :: getlines d s := by
  induction p with
  | nil => simp [getlines]
  | cons c p ih =>
    have hc : c ≠ d := fun h => hp (h ▸ List.mem_cons_self)
    rw [List.cons_append, getlines, if_neg hc, ih fun h => hp (List.mem_cons_of_mem _ h)]

theorem getlines_singleton (hp : d ∉ p) (h0 : p ≠ []) : getlines d p = [p] := by
  induction p with
  | nil => exact absurd rfl h0
  | cons c p ih =>
    have hc : c ≠ d := fun h => hp (h ▸ List.mem_cons_self)
    rw [getlines, if_neg hc]
    rcases p with _ | ⟨c', p⟩
    · rfl
    · rw [ih (fun h => hp (List.mem_cons_of_mem _ h)) (by simp)]

theorem not_mem_of_mem_getlines {l : Text} (h : l ∈ getlines d s) : d ∉ l := by
  induction s generalizing l with
  | nil => simp [getlines] at h
  | cons c s ih =>
    rw [getlines] at h
    split_ifs at h with hc
    · rcases List.mem_cons.mp h with rfl | h
      · simp
      · exact ih h
    · cases hs : getlines d s with
      | nil => rw [hs] at h; simp at h; simp [h, Ne.symm hc]
      | cons p ps =>
        rw [hs] at h
        rcases List.mem_cons.mp h with rfl | h
        · have := ih (l := p) (by rw [hs]; exact List.mem_cons_self)
          simp [Ne.symm hc, this]
        · exact ih (by rw [hs]; exact List.mem_cons_of_mem _ h)

theorem subset_of_mem_getlines {l : Text} (h : l ∈ getlines d s) : l ⊆ s := by
  induction s generalizing l with
  | nil => simp [getlines] at h
  | cons c s ih =>
    rw [getlines] at h
    split_ifs at h with hc
    · rcases List.mem_cons.mp h with rfl | h
      · simp
      · exact List.subset_cons_of_subset _ (ih h)
    · cases hs : getlines d s with
      | nil => rw [hs] at h; simp at h; simp [h]
      | cons p ps =>
        rw [hs] at h
        rcases List.mem_cons.mp h with rfl | h
        · exact List.cons_subset_cons _ (ih (by rw [hs]; exact List.mem_cons_self))
        · exact List.subset_cons_of_subset _ (ih (by rw [hs]; exact List.mem_cons_of_mem _ h))

theorem getlines_intercalate {l : List Text} (hd : ∀ t ∈ l, d ∉ t)
    (hl : ∀ t, l.getLast? = some t → t ≠ []) : getlines d (List.intercalate [d] l) = l := by
  induction l with
  | nil => rfl
  | cons t l ih =>
    have ht := hd t List.mem_cons_self
    rcases l with _ | ⟨t', l⟩
    · rw [List.intercalate_singleton]
      exact getlines_singleton ht (hl t rfl)
    · rw [List.intercalate_cons_cons, List.append_assoc, List.singleton_append,
        getlines_append_cons ht, ih (fun t h => hd t (List.mem_cons_of_mem _ h))
          fun t h => hl t (by rwa [List.getLast?_cons_cons])]

/-! ## Fields -/

/-- The words a `while (stream >> word)` loop reads. -/
def fields (s : Text) : List Text := (s.splitOnP isSpace).filter (· ≠ [])

theorem fields_append_cons (h : isSpace c = true) (s t : Text) :
    fields (s ++ c :: t) = fields s ++ fields t := by
  rw [fields, List.splitOnP_append_cons s t h, List.filter_append]
  rfl

theorem fields_of_forall (h0 : s ≠ []) (h : ∀ c ∈ s, isSpace c = false) : fields s = [s] := by
  rw [fields, List.splitOnP_eq_singleton fun c hc => by simpa using h c hc]
  simp [h0]

/-! ## Searching -/

theorem eq_append_of_cut {a b : Text} (h : cut pat s = some (a, b)) : s = a ++ pat ++ b := by
  induction s generalizing a b with
  | nil =>
    rw [cut] at h
    split_ifs at h with hp
    cases h
    simp [hp]
  | cons c s ih =>
    rw [cut] at h
    split_ifs at h with hp
    · cases h
      rw [List.isPrefixOf_iff_prefix] at hp
      simpa using (List.prefix_iff_eq_append.mp hp).symm
    · obtain ⟨⟨a', b'⟩, hc, he⟩ := Option.map_eq_some_iff.mp h
      cases he
      simp [ih hc]

theorem cut_eq_none : cut pat s = none ↔ ¬ pat <:+: s := by
  induction s with
  | nil => rw [cut]; split_ifs with h <;> simp [h]
  | cons c s ih =>
    rw [cut, List.infix_cons_iff, ← List.isPrefixOf_iff_prefix]
    split_ifs with h <;> simp [h, ih]

theorem contains_iff : contains pat s = true ↔ pat <:+: s := by
  rw [contains, Option.isSome_iff_ne_none, Ne, cut_eq_none, not_not]

/-- The text before the first occurrence has none. -/
theorem not_infix_of_cut {a b : Text} (h0 : pat ≠ []) (h : cut pat s = some (a, b)) :
    ¬ pat <:+: a := by
  induction s generalizing a b with
  | nil => simp [cut, h0] at h
  | cons c s ih =>
    rw [cut] at h
    split_ifs at h with hp
    · cases h
      simpa using h0
    · obtain ⟨⟨a', b'⟩, hc, he⟩ := Option.map_eq_some_iff.mp h
      cases he
      rw [List.infix_cons_iff, not_or]
      refine ⟨fun hpre => hp ?_, ih hc⟩
      rw [List.isPrefixOf_iff_prefix, eq_append_of_cut hc, List.append_assoc, ← List.cons_append]
      exact hpre.trans (List.prefix_append _ _)

theorem cut_append (h0 : pat ≠ []) (s : Text) : cut pat (pat ++ s) = some ([], s) := by
  obtain ⟨c, pat, rfl⟩ := List.exists_cons_of_ne_nil h0
  rw [List.cons_append, cut, if_pos (by simp [List.isPrefixOf_iff_prefix])]
  simp

/-- What is found in a text is found in the same place in every longer one. -/
theorem cut_append_right {a b : Text} (h : cut pat s = some (a, b)) (t : Text) :
    cut pat (s ++ t) = some (a, b ++ t) := by
  induction s generalizing a b with
  | nil =>
    rw [cut] at h
    split_ifs at h with hp
    cases h
    subst hp
    cases t <;> rfl
  | cons c s ih =>
    rw [cut] at h
    rw [List.cons_append, cut]
    split_ifs at h with hp
    · cases h
      rw [List.isPrefixOf_iff_prefix] at hp
      obtain ⟨r, hr⟩ := hp
      have he : c :: (s ++ t) = pat ++ (r ++ t) := by
        rw [← List.cons_append, ← hr, List.append_assoc]
      rw [he, if_pos (by simp [List.isPrefixOf_iff_prefix]), ← hr, List.drop_left, List.drop_left]
    · obtain ⟨⟨a', b'⟩, hc, he⟩ := Option.map_eq_some_iff.mp h
      cases he
      rw [List.isPrefixOf_iff_prefix] at hp
      -- The text behind holds the whole pattern, so an occurrence here would not reach into `t`.
      have hn : ¬ pat <+: c :: (s ++ t) := fun hpre => hp <|
        List.prefix_of_prefix_length_le hpre (List.prefix_append (c :: s) t) (by
          rw [eq_append_of_cut hc]
          simp
          omega)
      rw [← List.isPrefixOf_iff_prefix] at hn
      rw [if_neg hn, ih hc]
      rfl

/-- A search goes on past characters that the pattern does not start with. -/
theorem cut_append_of_not_mem (hd : d ∉ p) (s : Text) :
    cut (d :: pat) (p ++ s) = (cut (d :: pat) s).map fun ab => (p ++ ab.1, ab.2) := by
  induction p with
  | nil => simp
  | cons c p ih =>
    rw [List.mem_cons, not_or] at hd
    rw [List.cons_append, cut, if_neg (by simp [List.isPrefixOf, hd.1]), ih hd.2, Option.map_map]
    rfl

theorem cut_char (hp : d ∉ p) (s : Text) : cut [d] (p ++ d :: s) = some (p, s) := by
  induction p with
  | nil => exact cut_append (List.cons_ne_nil d []) s
  | cons c p ih =>
    rw [List.mem_cons, not_or] at hp
    rw [List.cons_append, cut, if_neg (by simp [List.isPrefixOf, hp.1]), ih hp.2]
    rfl

theorem cut_char_eq_none : cut [d] s = none ↔ d ∉ s := by
  rw [cut_eq_none, List.singleton_infix_iff]

theorem not_mem_of_cut_char {a b : Text} (h : cut [d] s = some (a, b)) : d ∉ a := by
  rw [← List.singleton_infix_iff]
  exact not_infix_of_cut (by simp) h

/-- An occurrence that cannot straddle a character it does not have. -/
theorem infix_append_cons (hd : d ∉ pat) (h : pat <:+: s ++ d :: t) : pat <:+: s ∨ pat <:+: t := by
  rcases List.infix_append_iff.mp h with h | h | ⟨l₁, l₂, rfl, h1, h2⟩
  · exact Or.inl h
  · rw [List.infix_cons_iff] at h
    rcases h with h | h
    · rcases List.prefix_cons_iff.mp h with rfl | ⟨u, rfl, -⟩
      · exact Or.inl (by simp)
      · exact absurd List.mem_cons_self hd
    · exact Or.inr h
  · rcases List.prefix_cons_iff.mp h2 with rfl | ⟨u, rfl, -⟩
    · exact Or.inl (by simpa using h1.isInfix)
    · exact absurd (by simp) hd

theorem infix_append_cons_iff (hd : d ∉ pat) :
    pat <:+: s ++ d :: t ↔ pat <:+: s ∨ pat <:+: t := by
  refine ⟨infix_append_cons hd, fun h => ?_⟩
  rcases h with h | h
  · exact h.trans (List.infix_append' [] s (d :: t))
  · exact h.trans ((List.suffix_cons d t).isInfix.trans (List.suffix_append s _).isInfix)

/-- An occurrence does not start where its first character is not. -/
theorem infix_of_not_mem (hd : d ∉ p) (h : d :: pat <:+: p ++ s) : d :: pat <:+: s := by
  induction p with
  | nil => exact h
  | cons c p ih =>
    rw [List.mem_cons, not_or] at hd
    rw [List.cons_append, List.infix_cons_iff, List.cons_prefix_cons] at h
    exact ih hd.2 (h.resolve_left fun h => hd.1 h.1)

/-- A search goes on past a character that the pattern does not have. -/
theorem cut_append_cons (hd : d ∉ pat) (hp : ¬ pat <:+: p) (s : Text) :
    cut pat (p ++ d :: s) = (cut pat s).map fun ab => (p ++ d :: ab.1, ab.2) := by
  induction p with
  | nil =>
    obtain ⟨x, pat, rfl⟩ := List.exists_cons_of_ne_nil (l := pat) fun h => hp (by simp [h])
    rw [List.mem_cons, not_or] at hd
    rw [List.nil_append, cut, if_neg (by simp [List.isPrefixOf, Ne.symm hd.1])]
    rfl
  | cons c p ih =>
    rw [List.infix_cons_iff, not_or] at hp
    have hn : ¬ pat <+: c :: (p ++ d :: s) := by
      intro hpre
      rcases Nat.lt_or_ge (c :: p).length pat.length with hlen | hlen
      · -- The pattern would reach over `d`.
        have hall : (c :: p) ++ [d] <+: pat :=
          List.prefix_of_prefix_length_le ⟨s, by simp⟩ hpre (by simpa using hlen)
        exact hd (hall.subset (by simp))
      · exact hp.1 (List.prefix_of_prefix_length_le hpre ⟨d :: s, rfl⟩ hlen)
    rw [← List.isPrefixOf_iff_prefix] at hn
    rw [List.cons_append, cut, if_neg hn, ih hp.2, Option.map_map]
    rfl

/-- An occurrence whose only such character is its first. -/
theorem infix_append_cons_head (hd : d ∉ pat) (h : d :: pat <:+: s ++ d :: t) :
    d :: pat <:+: s ∨ pat ⊆ t := by
  rcases List.infix_append_iff.mp h with h | h | ⟨l₁, l₂, he, h1, h2⟩
  · exact Or.inl h
  · rcases List.infix_cons_iff.mp h with h | h
    · exact Or.inr (List.cons_prefix_cons.mp h).2.subset
    · exact Or.inr fun c hc => h.subset (List.mem_cons_of_mem _ hc)
  · rcases List.prefix_cons_iff.mp h2 with rfl | ⟨u, rfl, hu⟩
    · rw [List.append_nil] at he
      exact Or.inl (he ▸ h1.isInfix)
    · rcases l₁ with _ | ⟨c, l₁⟩
      · obtain ⟨-, rfl⟩ := List.cons.inj he
        exact Or.inr hu.subset
      · obtain ⟨-, rfl⟩ := List.cons.inj he
        exact absurd (by simp) hd

/-! ## Trimming -/

/-- Text with no white space at either end. -/
def Trimmed (s : Text) : Prop := trim s = s

instance (s : Text) : Decidable (Trimmed s) := inferInstanceAs (Decidable (trim s = s))

theorem trimmed_iff : Trimmed s ↔
    s.head?.all (fun c => !isSpace c) ∧ s.getLast?.all (fun c => !isSpace c) := by
  rcases s with _ | ⟨c, s⟩
  · simp [Trimmed, trim]
  constructor
  · intro h
    have hc : isSpace c = false := by
      by_contra hc
      rw [Bool.not_eq_false] at hc
      have h1 := congrArg List.length h
      have h2 := (List.rdropWhile_prefix isSpace (s.dropWhile isSpace)).length_le
      have h3 := (List.dropWhile_sublist isSpace (l := s)).length_le
      rw [trim, List.dropWhile_cons, if_pos hc, List.length_cons] at h1
      omega
    rw [Trimmed, trim, List.dropWhile_cons, if_neg (by simp [hc]),
      List.rdropWhile_eq_self_iff] at h
    have hlast := h (by simp)
    rw [List.getLast?_eq_getLast_of_ne_nil (by simp)]
    simp_all
  · rintro ⟨h1, h2⟩
    rw [List.getLast?_eq_getLast_of_ne_nil (by simp)] at h2
    rw [Trimmed, trim, List.dropWhile_cons, if_neg (by simpa using h1),
      List.rdropWhile_eq_self_iff]
    exact fun _ => by simpa using h2

theorem trim_subset (s : Text) : trim s ⊆ s :=
  fun _ h => (List.dropWhile_sublist isSpace).subset ((List.rdropWhile_prefix isSpace _).subset h)

theorem trimmed_trim (s : Text) : Trimmed (trim s) := by
  rw [trimmed_iff]
  constructor
  · rcases hd : s.dropWhile isSpace with _ | ⟨c, t⟩
    · simp [trim, hd]
    · have hc : isSpace c = false := by
        have := List.head?_dropWhile_not isSpace s
        rw [hd] at this
        simpa using this
      obtain ⟨u, hu⟩ := List.rdropWhile_prefix isSpace (c :: t)
      rcases hr : (c :: t).rdropWhile isSpace with _ | ⟨c', r⟩
      · simp [trim, hd, hr]
      · rw [hr] at hu
        obtain ⟨rfl, -⟩ := List.cons.inj hu
        simp [trim, hd, hr, hc]
  · rw [trim]
    rcases h : (s.dropWhile isSpace).rdropWhile isSpace with _ | ⟨c, t⟩
    · simp
    · have hl := List.rdropWhile_last_not isSpace (s.dropWhile isSpace) (by simp [h])
      rw [List.getLast?_eq_getLast_of_ne_nil (by simp)]
      simp only [h] at hl
      simpa using hl

theorem trim_cons_of_isSpace (h : isSpace c = true) : trim (c :: s) = trim s := by
  rw [trim, trim, List.dropWhile_cons, if_pos h]

theorem trim_ne_nil (h : s.head?.all fun c => !isSpace c) (h0 : s ≠ []) : trim s ≠ [] := by
  obtain ⟨c, s, rfl⟩ := List.exists_cons_of_ne_nil h0
  have hc : isSpace c = false := by simpa using h
  rw [trim, List.dropWhile_cons, if_neg (by simp [hc]), Ne, List.rdropWhile_eq_nil_iff]
  exact fun h => by simp [h c List.mem_cons_self] at hc

theorem trim_of_forall (h : ∀ c ∈ s, isSpace c = false) : trim s = s := by
  refine trimmed_iff.mpr ⟨?_, ?_⟩
  · rcases s with _ | ⟨c, s⟩
    · rfl
    · simp [h c List.mem_cons_self]
  · rcases hs : s.getLast? with _ | c
    · rfl
    · simp [h c (List.mem_of_getLast? hs)]

/-! ## Reading numbers -/

/-- The sign and the magnitude that `strtol` and its kin read in base ten: white space, a sign,
digits. What follows the digits is not looked at. -/
def scanInt (s : Text) : Option (Bool × ℕ) :=
  let s := s.dropWhile isSpace
  let (neg, s) := match s with
    | '-' :: t => (true, t)
    | '+' :: t => (false, t)
    | _ => (false, s)
  match s.takeWhile Char.isDigit with
  | [] => none
  | ds => some (neg, Nat.ofDigitChars 10 ds 0)

/-- The value of a hexadecimal digit. -/
def hexDigit (c : Char) : Option ℕ :=
  if c.isDigit then some (c.toNat - 48)
  else if 'a' ≤ c ∧ c ≤ 'f' then some (c.toNat - 87)
  else if 'A' ≤ c ∧ c ≤ 'F' then some (c.toNat - 55)
  else none

/-- `std::stoi` and `std::stol`: a number of a `w`-bit signed type. -/
def stoSigned (w : ℕ) (s : Text) : Option ℤ :=
  match scanInt s with
  | none => none
  | some (neg, n) =>
    let v : ℤ := if neg then -n else n
    if -2 ^ (w - 1) ≤ v ∧ v < 2 ^ (w - 1) then some v else none

/-- `std::stoi`. -/
def stoi (s : Text) : Option ℤ := stoSigned 32 s

/-- `std::stol`. -/
def stol (s : Text) : Option ℤ := stoSigned 64 s

/-- `std::stoul` and `std::stoull`, both of 64 bits. A minus sign negates modulo the width. -/
def stoull (s : Text) : Option ℕ :=
  match scanInt s with
  | none => none
  | some (neg, n) =>
    if n < 2 ^ 64 then some (if neg then (2 ^ 64 - n) % 2 ^ 64 else n) else none

/-- A natural number in decimal. -/
def showNat (n : ℕ) : Text := Nat.toDigits 10 n

/-- An integer in decimal. -/
def showInt (n : ℤ) : Text := if n < 0 then '-' :: showNat n.natAbs else showNat n.natAbs

theorem isDigit_of_mem_showNat {n : ℕ} (h : c ∈ showNat n) : c.isDigit = true :=
  Nat.isDigit_of_mem_toDigits (by omega) (by omega) h

theorem showNat_injective : Function.Injective showNat := fun a b h => by
  have := congrArg (fun l => Nat.ofDigitChars 10 l 0) h
  simpa [showNat, Nat.ofDigitChars_ten_toDigits] using this

theorem showNat_ne_nil (n : ℕ) : showNat n ≠ [] := Nat.toDigits_ne_nil

theorem isSpace_of_isDigit (h : c.isDigit = true) : isSpace c = false := by
  rw [Char.isDigit, Bool.and_eq_true, decide_eq_true_iff, decide_eq_true_iff] at h
  have ne : ∀ x : Char, x.val < 48 → (c == x) = false := fun x hx =>
    beq_false_of_ne fun e => absurd h.1 (by rw [e]; exact UInt32.not_le.mpr hx)
  rw [isSpace, ne _ (by decide), ne _ (by decide), ne _ (by decide), ne _ (by decide),
    ne _ (by decide), ne _ (by decide)]
  rfl

theorem isSpace_of_mem_showNat {n : ℕ} (h : c ∈ showNat n) : isSpace c = false :=
  isSpace_of_isDigit (isDigit_of_mem_showNat h)

theorem scanInt_of_digits (hd : ∀ c ∈ p, c.isDigit = true) (h0 : p ≠ [])
    (ht : t.head?.all fun c => !c.isDigit) :
    scanInt (p ++ t) = some (false, Nat.ofDigitChars 10 p 0) := by
  obtain ⟨c, p, rfl⟩ := List.exists_cons_of_ne_nil h0
  have hc := hd c List.mem_cons_self
  have htake : (c :: p ++ t).takeWhile Char.isDigit = c :: p := by
    rw [List.takeWhile_append_of_pos hd]
    rcases t with _ | ⟨x, t⟩
    · simp
    · have : x.isDigit = false := by simpa using ht
      simp [this]
  have hdrop : (c :: p ++ t).dropWhile isSpace = c :: p ++ t := by
    rw [List.cons_append, List.dropWhile_cons, isSpace_of_isDigit hc]; rfl
  have hsign : (match c :: p ++ t with
      | '-' :: t => (true, t)
      | '+' :: t => (false, t)
      | _ => (false, c :: p ++ t)) = (false, c :: p ++ t) := by
    split
    · next h => cases h; exact absurd hc (by decide)
    · next h => cases h; exact absurd hc (by decide)
    · rfl
  simp only [scanInt, hdrop, hsign, htake]

theorem scanInt_showNat (n : ℕ) : scanInt (showNat n) = some (false, n) := by
  have h := scanInt_of_digits (p := showNat n) (t := []) (fun _ => isDigit_of_mem_showNat)
    (showNat_ne_nil n) (by simp)
  rw [List.append_nil] at h
  rw [h, showNat, Nat.ofDigitChars_ten_toDigits]

theorem stoull_showNat {n : ℕ} (h : n < 2 ^ 64) : stoull (showNat n) = some n := by
  simp only [stoull, scanInt_showNat]
  rw [if_pos h]
  rfl

theorem stoSigned_showNat {w n : ℕ} (h : n < 2 ^ (w - 1)) :
    stoSigned w (showNat n) = some (n : ℤ) := by
  have h1 : ((n : ℤ)) < 2 ^ (w - 1) := by exact_mod_cast h
  have h2 : -(2 : ℤ) ^ (w - 1) ≤ n := by
    have : (0 : ℤ) ≤ 2 ^ (w - 1) := by positivity
    omega
  simp [stoSigned, scanInt_showNat, h1, h2]

end Aes67
