import Aes67.Core.JsonFields

/-!
# What a field search finds

The readers take the leftmost place where a field's key stands, wherever that is. In a written
document no other text is taken for a key: in a written string every quote has a backslash before
it, which no field name ends in.

* `keyAt`, `keys`: a key at the start of the text, and the number of places where one stands;
* `NoKey`: a part of the text in which no key starts;
* `Quiet`, `Apart`: values in which no key starts, and what may follow them;
* `searchField_label`: the search at the key itself.
-/

namespace Aes67

variable {f g p s t v w : Text} {value : Text → Option Text} {c : Char}

/-! ## Keys -/

/-- A field name: not empty, and of plain characters. -/
structure IsName (f : Text) : Prop where
  ne : f ≠ []
  plain : f.all isPlain = true

instance (f : Text) : Decidable (IsName f) :=
  decidable_of_iff (f ≠ [] ∧ f.all isPlain = true) ⟨fun h => ⟨h.1, h.2⟩, fun h => ⟨h.1, h.2⟩⟩

/-- Whether the text starts with the key of `f` and a colon. -/
def keyAt (f s : Text) : Bool := (matchHere f some s).isSome

/-- The number of places where the key of `f` stands. -/
def keys (f : Text) : Text → ℕ
  | [] => 0
  | c :: s => (if keyAt f (c :: s) then 1 else 0) + keys f s

theorem IsName.isPlain (hf : IsName f) (h : c ∈ f) : isPlain c = true :=
  List.all_eq_true.mp hf.plain c h

theorem IsName.quote_not_mem (hf : IsName f) : '"' ∉ f := fun h =>
  absurd (hf.isPlain h) (by decide)

theorem matchHere_eq_bind : matchHere f value s = (matchHere f some s).bind value := by
  rw [matchHere, matchHere]
  cases skipText ('"' :: f ++ ['"']) s with
  | none => rfl
  | some s =>
    dsimp only
    split <;> rfl

theorem matchHere_key : matchHere f value ('"' :: f ++ '"' :: t) =
    match t.dropWhile isSpace with
    | ':' :: s => value (s.dropWhile isSpace)
    | _ => none := by
  have h : skipText ('"' :: f ++ ['"']) ('"' :: f ++ '"' :: t) = some t := by
    have he : '"' :: f ++ '"' :: t = '"' :: f ++ ['"'] ++ t := by simp
    rw [skipText, he, if_pos (List.isPrefixOf_iff_prefix.mpr (List.prefix_append _ _)),
      List.drop_left]
  unfold matchHere
  generalize skipText ('"' :: f ++ ['"']) ('"' :: f ++ '"' :: t) = rest at h
  subst h
  rfl

theorem keyAt_iff : keyAt f s = true ↔
    ∃ r, s = '"' :: f ++ '"' :: r ∧ (r.dropWhile isSpace).head? = some ':' := by
  constructor
  · intro h
    have hp : ('"' :: f ++ ['"']).isPrefixOf s = true := by
      by_contra hp
      rw [keyAt, matchHere, skipText, if_neg hp] at h
      cases h
    obtain ⟨r, rfl⟩ := List.isPrefixOf_iff_prefix.mp hp
    refine ⟨r, by simp, ?_⟩
    have he : '"' :: f ++ ['"'] ++ r = '"' :: f ++ '"' :: r := by simp
    rw [he, keyAt, matchHere_key] at h
    split at h
    · next hd => rw [hd]; rfl
    · cases h
  · rintro ⟨r, rfl, hc⟩
    rw [keyAt, matchHere_key]
    cases hd : r.dropWhile isSpace with
    | nil => rw [hd] at hc; cases hc
    | cons x u =>
      rw [hd] at hc
      cases hc
      rfl

theorem head_of_keyAt (h : keyAt f s = true) : s.head? = some '"' := by
  obtain ⟨r, rfl, -⟩ := keyAt_iff.mp h
  rfl

theorem keyAt_append (h : keyAt f s = true) : keyAt f (s ++ t) = true := by
  obtain ⟨r, rfl, hr⟩ := keyAt_iff.mp h
  refine keyAt_iff.mpr ⟨r ++ t, by simp, ?_⟩
  have hne : r.dropWhile isSpace ≠ [] := fun h0 => by rw [h0] at hr; cases hr
  rw [List.dropWhile_append, if_neg (by simpa using hne), List.head?_append, hr]
  rfl

theorem matchHere_of_not_keyAt (h : keyAt f s = false) : matchHere f value s = none := by
  rw [matchHere_eq_bind]
  rw [keyAt, Option.isSome_eq_false_iff, Option.isNone_iff_eq_none] at h
  rw [h]
  rfl

theorem keys_add_le (s t : Text) : keys f s + keys f t ≤ keys f (s ++ t) := by
  induction s with
  | nil => simp [keys]
  | cons c s ih =>
    rw [List.cons_append, keys, keys]
    have : (if keyAt f (c :: s) = true then 1 else 0) ≤
        if keyAt f (c :: (s ++ t)) = true then 1 else 0 := by
      split_ifs with h1 h2
      · rfl
      · exact absurd (keyAt_append (t := t) h1) h2
      · exact Nat.zero_le _
      · rfl
    omega

theorem keys_le_of_prefix (h : s <+: t) : keys f s ≤ keys f t := by
  obtain ⟨u, rfl⟩ := h
  have := keys_add_le (f := f) s u
  omega

theorem keys_le_of_suffix (h : s <:+ t) : keys f s ≤ keys f t := by
  obtain ⟨u, rfl⟩ := h
  have := keys_add_le (f := f) u s
  omega

/-- A search that finds something finds it at a key. -/
theorem keys_pos_of_searchField (h : searchField f value s ≠ none) : 0 < keys f s := by
  induction s with
  | nil => exact absurd rfl h
  | cons c s ih =>
    rw [keys]
    by_cases hk : keyAt f (c :: s)
    · rw [if_pos hk]
      omega
    · rw [Bool.not_eq_true] at hk
      rw [searchField, matchHere_of_not_keyAt hk, Option.none_or] at h
      have := ih h
      omega

/-! ## Parts without a key -/

/-- No key of `f` starts in `s`, read with `t` after it. -/
def NoKey (f s t : Text) : Prop := ∀ b, b ≠ [] → b <:+ s → keyAt f (b ++ t) = false

theorem noKey_nil : NoKey f [] t := fun _ h0 hb => absurd (List.suffix_nil.mp hb) h0

theorem NoKey.of_suffix (h : NoKey f s t) (hw : w <:+ s) : NoKey f w t :=
  fun b h0 hb => h b h0 (hb.trans hw)

theorem NoKey.append (h1 : NoKey f s (w ++ t)) (h2 : NoKey f w t) : NoKey f (s ++ w) t := by
  intro b h0 hb
  rcases List.suffix_or_suffix_of_suffix hb (List.suffix_append s w) with h | ⟨u, rfl⟩
  · exact h2 b h0 h
  · by_cases hu : u = []
    · subst hu
      exact h2 w h0 List.suffix_rfl
    · rw [List.append_assoc]
      exact h1 u hu (List.suffix_append_self_iff.mp hb)

theorem noKey_of_not_mem (h : '"' ∉ s) : NoKey f s t := by
  intro b h0 hb
  obtain ⟨c, b, rfl⟩ := List.exists_cons_of_ne_nil h0
  by_contra hk
  rw [Bool.not_eq_false] at hk
  have hc : c = '"' := by simpa using head_of_keyAt hk
  exact h (hb.subset (hc ▸ List.mem_cons_self))

theorem searchField_append (h : NoKey f s t) :
    searchField f value (s ++ t) = searchField f value t := by
  induction s with
  | nil => rfl
  | cons c s ih =>
    have hk := h (c :: s) (List.cons_ne_nil c s) List.suffix_rfl
    rw [List.cons_append] at hk ⊢
    rw [searchField, matchHere_of_not_keyAt hk, Option.none_or]
    exact ih (h.of_suffix (List.suffix_cons c s))

theorem keys_append (h : NoKey f s t) : keys f (s ++ t) = keys f t := by
  induction s with
  | nil => rfl
  | cons c s ih =>
    have hk := h (c :: s) (List.cons_ne_nil c s) List.suffix_rfl
    rw [List.cons_append] at hk ⊢
    rw [keys, if_neg (by simp [hk]), zero_add]
    exact ih (h.of_suffix (List.suffix_cons c s))

/-! ## Written strings -/

/-- What may follow a value: the end, or a character that no name has, with no colon after the
white space. -/
structure Apart (t : Text) : Prop where
  head : ∀ c, t.head? = some c → isPlain c = false
  colon : (t.dropWhile isSpace).head? ≠ some ':'

/-- A written string. -/
def quote (s : Text) : Text := '"' :: jsonEscape s ++ ['"']

theorem last_of_suffix {a b : Text} (hw : w <:+ jsonEscape v) (h : w = a ++ '"' :: b)
    (h0 : a ≠ []) : a.getLast? = some '\\' := by
  obtain ⟨u, hu⟩ := hw
  have := last_of_jsonEscape (v := v) (a := u ++ a) (b := b) (by rw [← hu, h, List.append_assoc])
  rwa [List.getLast?_append_of_ne_nil _ h0] at this

theorem IsName.not_last (hf : IsName f) (h : f.getLast? = some '\\') : False :=
  absurd (hf.isPlain (List.mem_of_getLast? h)) (by decide)

/-- The rest of a written string, from any of its quotes, is no key. -/
theorem not_keyAt_tail (hf : IsName f) (hw : w <:+ jsonEscape v) (ht : Apart t) :
    keyAt f ('"' :: w ++ '"' :: t) = false := by
  by_contra hk
  rw [Bool.not_eq_false, keyAt_iff] at hk
  obtain ⟨r, hr, hc⟩ := hk
  have he : w ++ '"' :: t = f ++ '"' :: r := by simpa using hr
  rcases List.append_eq_append_iff.mp he with ⟨a, rfl, h⟩ | ⟨a, rfl, h⟩
  · rcases a with _ | ⟨x, a⟩
    · rw [List.nil_append, List.cons.injEq] at h
      exact ht.colon (h.2 ▸ hc)
    · rw [List.cons_append, List.cons.injEq] at h
      exact hf.quote_not_mem (h.1 ▸ List.mem_append_right _ List.mem_cons_self)
  · rcases a with _ | ⟨x, a⟩
    · rw [List.nil_append, List.cons.injEq] at h
      exact ht.colon (h.2 ▸ hc)
    · rw [List.cons_append, List.cons.injEq] at h
      exact hf.not_last (last_of_suffix hw (by rw [h.1]) hf.ne)

/-- A string cut off before its closing quote is no key either. -/
theorem not_keyAt_cut (hf : IsName f) (hw : w <:+ jsonEscape v) : keyAt f ('"' :: w) = false := by
  by_contra hk
  rw [Bool.not_eq_false, keyAt_iff] at hk
  obtain ⟨r, hr, -⟩ := hk
  exact hf.not_last (last_of_suffix hw (by simpa using hr) hf.ne)

theorem not_keyAt_close (hf : IsName f) (ht : ∀ c, t.head? = some c → isPlain c = false) :
    keyAt f ('"' :: t) = false := by
  by_contra hk
  rw [Bool.not_eq_false, keyAt_iff] at hk
  obtain ⟨r, hr, -⟩ := hk
  obtain ⟨c, f, rfl⟩ := List.exists_cons_of_ne_nil hf.ne
  obtain rfl : t = c :: f ++ '"' :: r := by simpa using hr
  have := ht c rfl
  rw [hf.isPlain List.mem_cons_self] at this
  cases this

theorem noKey_tail (hf : IsName f) (hw : w <:+ jsonEscape v) (ht : Apart t) :
    NoKey f (w ++ ['"']) t := by
  induction w with
  | nil =>
    intro b h0 hb
    obtain rfl : b = ['"'] := (List.suffix_cons_iff.mp hb).resolve_right fun h =>
      h0 (List.suffix_nil.mp h)
    exact not_keyAt_close hf ht.head
  | cons c w ih =>
    intro b h0 hb
    rcases List.suffix_cons_iff.mp hb with rfl | h
    · change keyAt f (c :: w ++ ['"'] ++ t) = false
      by_contra hk
      rw [Bool.not_eq_false] at hk
      have hc : c = '"' := by simpa using head_of_keyAt hk
      have := not_keyAt_tail hf ((List.suffix_cons c w).trans hw) ht
      rw [hc, List.append_assoc, List.singleton_append, this] at hk
      cases hk
    · exact ih ((List.suffix_cons c w).trans hw) b h0 h

theorem noKey_cut (hf : IsName f) (hw : w <:+ jsonEscape v) : NoKey f ('"' :: w) [] := by
  intro b h0 hb
  rw [List.append_nil]
  rcases List.suffix_cons_iff.mp hb with rfl | h
  · exact not_keyAt_cut hf hw
  · obtain ⟨c, b, rfl⟩ := List.exists_cons_of_ne_nil h0
    by_contra hk
    rw [Bool.not_eq_false] at hk
    have hc : c = '"' := by simpa using head_of_keyAt hk
    rw [hc, not_keyAt_cut hf (((List.suffix_cons c b).trans h).trans hw)] at hk
    cases hk

/-! ## Values -/

/-- No key of `f` starts in the value. -/
def Quiet (f value : Text) : Prop := ∀ t, Apart t → NoKey f value t

theorem quiet_of_not_mem (h : '"' ∉ s) : Quiet f s := fun _ _ => noKey_of_not_mem h

theorem quiet_quote (hf : IsName f) (s : Text) : Quiet f (quote s) := by
  intro t ht b h0 hb
  rcases List.suffix_cons_iff.mp hb with rfl | h
  · simpa using not_keyAt_tail (w := jsonEscape s) hf List.suffix_rfl ht
  · exact noKey_tail hf List.suffix_rfl ht b h0 h

/-! ## Keys as they are written -/

/-- A written key. -/
def label (f : Text) : Text := '"' :: f ++ ['"', ':', ' ']

theorem label_append : label f ++ t = '"' :: (f ++ '"' :: ':' :: ' ' :: t) := by simp [label]

theorem keyAt_label : keyAt f (label f ++ t) = true :=
  keyAt_iff.mpr ⟨':' :: ' ' :: t, by simp [label], rfl⟩

theorem noKey_label_tail (hf : IsName f) (hg : IsName g) : NoKey f (g ++ ['"', ':', ' ']) t := by
  refine NoKey.append (noKey_of_not_mem hg.quote_not_mem) ?_
  intro b h0 hb
  rcases List.suffix_cons_iff.mp hb with rfl | h
  · exact not_keyAt_close hf (by simp [isPlain])
  · exact noKey_of_not_mem (s := [':', ' ']) (by simp) b h0 h

theorem noKey_label (hf : IsName f) (hg : IsName g) (hne : g ≠ f) : NoKey f (label g) t := by
  intro b h0 hb
  rcases List.suffix_cons_iff.mp hb with rfl | h
  · by_contra hk
    rw [Bool.not_eq_false, keyAt_iff] at hk
    obtain ⟨r, hr, -⟩ := hk
    have he : g ++ '"' :: (':' :: ' ' :: t) = f ++ '"' :: r := by simpa using hr
    rcases List.append_eq_append_iff.mp he with ⟨a, rfl, h⟩ | ⟨a, rfl, h⟩
    · rcases a with _ | ⟨x, a⟩
      · exact hne (List.append_nil g).symm
      · rw [List.cons_append, List.cons.injEq] at h
        exact hf.quote_not_mem (h.1 ▸ List.mem_append_right _ List.mem_cons_self)
    · rcases a with _ | ⟨x, a⟩
      · exact hne (List.append_nil f)
      · rw [List.cons_append, List.cons.injEq] at h
        exact hg.quote_not_mem (h.1 ▸ List.mem_append_right _ List.mem_cons_self)
  · exact noKey_label_tail hf hg b h0 h

theorem keys_label (hf : IsName f) : keys f (label f ++ t) = keys f t + 1 := by
  have h := keyAt_label (f := f) (t := t)
  have hn := keys_append (noKey_label_tail (t := t) hf hf)
  rw [label_append] at h ⊢
  rw [List.append_assoc] at hn
  rw [keys, if_pos h, add_comm]
  exact congrArg (· + 1) hn

theorem matchHere_label : matchHere f value (label f ++ t) = value (t.dropWhile isSpace) := by
  have he : label f ++ t = '"' :: f ++ '"' :: (':' :: ' ' :: t) := by simp [label]
  rw [he, matchHere_key]
  rfl

/-- The search at the key: the value there, or else what is found behind it. -/
theorem searchField_label (hf : IsName f) : searchField f value (label f ++ t) =
    (value (t.dropWhile isSpace)).or (searchField f value t) := by
  have h : matchHere f value (label f ++ t) = _ := matchHere_label
  have hn : searchField f value _ = _ :=
    searchField_append (noKey_label_tail (t := t) hf hf)
  rw [label_append] at h ⊢
  rw [List.append_assoc] at hn
  rw [searchField, h]
  exact congrArg _ hn

/-! ## Longer texts -/

theorem matchHere_ne_none_append (hv : value [] = none)
    (hmono : ∀ a b, value a ≠ none → value (a ++ b) ≠ none) (h : matchHere f value s ≠ none) :
    matchHere f value (s ++ t) ≠ none := by
  have hk : keyAt f s = true := by
    by_contra hk
    rw [Bool.not_eq_true] at hk
    exact h (matchHere_of_not_keyAt hk)
  obtain ⟨r, rfl, hc⟩ := keyAt_iff.mp hk
  rw [matchHere_key] at h
  have he : '"' :: f ++ '"' :: r ++ t = '"' :: f ++ '"' :: (r ++ t) := by simp
  rw [he, matchHere_key]
  cases hd : r.dropWhile isSpace with
  | nil => rw [hd] at hc; cases hc
  | cons x u =>
    rw [hd] at hc h
    cases hc
    change value (u.dropWhile isSpace) ≠ none at h
    have hne : u.dropWhile isSpace ≠ [] := fun h0 => h (by rw [h0]; exact hv)
    rw [List.dropWhile_append, if_neg (by simp [hd]), hd]
    change value ((u ++ t).dropWhile isSpace) ≠ none
    rw [List.dropWhile_append, if_neg (by simpa using hne)]
    exact hmono _ _ h

/-- What a search finds in a text it finds in every longer one, where the value's pattern does. -/
theorem searchField_ne_none_append (hv : value [] = none)
    (hmono : ∀ a b, value a ≠ none → value (a ++ b) ≠ none) (h : searchField f value s ≠ none) :
    searchField f value (s ++ t) ≠ none := by
  induction s with
  | nil => exact absurd rfl h
  | cons c s ih =>
    rw [List.cons_append, searchField]
    intro h0
    rw [Option.or_eq_none_iff] at h0
    have hm : matchHere f value (c :: s) = none := by
      by_contra hm
      exact matchHere_ne_none_append hv hmono hm h0.1
    rw [searchField, hm, Option.none_or] at h
    exact ih h h0.2

end Aes67
