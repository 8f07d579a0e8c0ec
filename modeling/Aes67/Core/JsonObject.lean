import Aes67.Core.JsonSearch

/-!
# Written objects

The layout the settings writers share, one field a line, and what the field readers find in it.

* `objectJSON`: an object of named values; `objectBefore`, `objectAfter`: what stands around one
  of them;
* `stringValue_quote`, `digitsValue_showNat`, `signedValue_showInt`, `boolValue_showBool`: the value
  patterns read what the writers write;
* `Legible`: names that differ and values without keys in them; **`Legible.matchField`**: a reader
  finds its field, and `Legible.extractString` and its kin what it makes of it;
* `like_objectBody`: the brackets of an object's body are those of its values;
* `matchField_cut`: in an object cut off inside a string, that string's field is not found.
-/

namespace Aes67

variable {f p s t v w x : Text} {value : Text → Option Text} {c : Char} {n : ℕ}

/-! ## Values -/

/-- A written boolean. -/
def showBool (b : Bool) : Text := if b then "true".toList else "false".toList

theorem scanString_append (h1 : '"' ∉ p) (h2 : '\\' ∉ p) :
    scanString (p ++ s) = (scanString s).map (p ++ ·) := by
  induction p with
  | nil => simp
  | cons c p ih =>
    rw [List.mem_cons, not_or] at h1 h2
    rw [List.cons_append, scanString, ih h1.2 h2.2, Option.map_map]
    · rfl
    · exact fun h => h1.1 h.symm
    · exact fun h _ => h2.1 h.symm
    · exact fun _ _ h _ => h2.1 h.symm

theorem scanString_escapeChar :
    scanString (escapeChar c ++ s) = (scanString s).map (escapeChar c ++ ·) := by
  rcases escapeChar_cases c with ⟨he, h1, h2⟩ | ⟨e, r, he, h1, h2, h3, h4, -⟩
  · rw [he]
    exact scanString_append (by simpa using h1.symm) (by simpa using h2.symm)
  · rw [he, List.cons_append, List.cons_append, scanString, if_neg (not_or.mpr ⟨h1, h2⟩),
      scanString_append h3 h4, Option.map_map]
    rfl

theorem scanString_jsonEscape :
    scanString (jsonEscape v ++ s) = (scanString s).map (jsonEscape v ++ ·) := by
  induction v with
  | nil => simp [jsonEscape]
  | cons c v ih =>
    rw [jsonEscape_cons, List.append_assoc, scanString_escapeChar, ih, Option.map_map]
    congr 1
    funext x
    exact (List.append_assoc _ _ _).symm

theorem scanString_ne_none_append (h : scanString s ≠ none) : scanString (s ++ t) ≠ none := by
  induction s using scanString.induct with
  | case1 => exact absurd rfl h
  | case2 s => simp [scanString]
  | case3 => exact absurd rfl h
  | case4 c s hc => exact absurd (by rw [scanString, if_pos hc]) h
  | case5 c s hc ih =>
    rw [scanString, if_neg hc, Ne, Option.map_eq_none_iff] at h
    rw [List.cons_append, List.cons_append, scanString, if_neg hc, Ne, Option.map_eq_none_iff]
    exact ih h
  | case6 c s h1 h2 h3 ih =>
    have hc : c ≠ '\\' := by
      intro he
      rcases s with _ | ⟨x, s⟩
      · exact h2 he rfl
      · exact h3 x s he rfl
    have hrec : ∀ u, scanString (c :: u) = (scanString u).map (c :: ·) := fun u => by
      rw [scanString]
      exacts [h1, fun h _ => hc h, fun _ _ h _ => hc h]
    rw [hrec, Ne, Option.map_eq_none_iff] at h
    rw [List.cons_append, hrec, Ne, Option.map_eq_none_iff]
    exact ih h

theorem stringValue_quote : stringValue (quote v ++ t) = some (jsonEscape v) := by
  rw [quote, List.append_assoc, List.cons_append, stringValue, scanString_jsonEscape]
  simp [scanString]

theorem stringValue_ne_none_append (a b : Text) (h : stringValue a ≠ none) :
    stringValue (a ++ b) ≠ none := by
  unfold stringValue at h ⊢
  split at h
  · exact scanString_ne_none_append h
  · exact absurd rfl h

/-- A string cut off before its closing quote has no value. -/
theorem stringValue_cut : stringValue ('"' :: jsonEscape v) = none := by
  have h := scanString_jsonEscape (v := v) (s := [])
  rw [List.append_nil] at h
  rw [stringValue, h]
  rfl

theorem isPlain_of_isDigit (h : c.isDigit = true) : isPlain c = true := by
  rw [Char.isDigit, Bool.and_eq_true, decide_eq_true_iff, decide_eq_true_iff] at h
  rw [isPlain, decide_eq_true_iff]
  exact Or.inr (Or.inr (Or.inl h))

theorem takeWhile_showNat (ht : Apart t) :
    (showNat n ++ t).takeWhile Char.isDigit = showNat n := by
  rw [List.takeWhile_append_of_pos fun _ => isDigit_of_mem_showNat]
  have h : t.takeWhile Char.isDigit = [] := by
    rcases t with _ | ⟨c, t⟩
    · rfl
    · have hc : c.isDigit = false := by
        by_contra hd
        rw [Bool.not_eq_false] at hd
        have := ht.head c rfl
        rw [isPlain_of_isDigit hd] at this
        cases this
      simp [hc]
  rw [h, List.append_nil]

theorem digitsValue_showNat (ht : Apart t) : digitsValue (showNat n ++ t) = some (showNat n) := by
  rw [digitsValue, takeWhile_showNat ht]
  cases h : showNat n with
  | nil => exact absurd h (showNat_ne_nil n)
  | cons c s => rfl

theorem signedValue_showInt {z : ℤ} (ht : Apart t) :
    signedValue (showInt z ++ t) = some (showInt z) := by
  rw [showInt]
  split_ifs
  · rw [List.cons_append, signedValue, digitsValue_showNat ht]
    rfl
  · have h := digitsValue_showNat (n := z.natAbs) ht
    obtain ⟨c, u, hu⟩ := List.exists_cons_of_ne_nil (showNat_ne_nil z.natAbs)
    have hc : c ≠ '-' := by
      rintro rfl
      have := isDigit_of_mem_showNat (hu ▸ List.mem_cons_self)
      exact absurd this (by decide)
    rw [hu] at h ⊢
    rw [List.cons_append] at h ⊢
    rw [signedValue, h]
    exact fun _ h => hc (List.cons.inj h).1

theorem boolValue_showBool (b : Bool) : boolValue (showBool b ++ t) = some (showBool b) := by
  cases b <;> simp [boolValue, showBool, skipText, List.isPrefixOf]

/-! ## Objects -/

/-- One line of an object. -/
def entryJSON (indent : ℕ) (entry : Text × Text) : Text :=
  List.replicate indent ' ' ++ label entry.1 ++ entry.2

/-- An object, its closing brace indented by `indent`. -/
def objectJSON (indent : ℕ) (entries : List (Text × Text)) : Text :=
  '\x7b' :: '\n' :: List.intercalate [',', '\n'] (entries.map (entryJSON (indent + 2))) ++
    '\n' :: List.replicate indent ' ' ++ ['\x7d']

/-- What stands before the key that follows the entries `pre`. -/
def objectBefore (indent : ℕ) (pre : List (Text × Text)) : Text :=
  '\x7b' :: '\n' :: pre.flatMap (fun entry => entryJSON (indent + 2) entry ++ [',', '\n']) ++
    List.replicate (indent + 2) ' '

/-- What stands after the value that the entries `post` follow. -/
def objectAfter (indent : ℕ) (post : List (Text × Text)) : Text :=
  post.flatMap (fun entry => ',' :: '\n' :: entryJSON (indent + 2) entry) ++
    '\n' :: List.replicate indent ' ' ++ ['\x7d']

theorem intercalate_split {α : Type} (sep : List α) (pre : List (List α)) (l : List α)
    (post : List (List α)) : List.intercalate sep (pre ++ l :: post) =
      pre.flatMap (· ++ sep) ++ l ++ post.flatMap (sep ++ ·) := by
  induction pre with
  | nil =>
    induction post generalizing l with
    | nil => simp
    | cons l' post ih =>
      have h := ih l'
      rw [List.nil_append] at h ⊢
      rw [List.intercalate_cons_cons, h]
      simp
  | cons l' pre ih =>
    obtain ⟨x, r, hx⟩ : ∃ x r, pre ++ l :: post = x :: r := by
      cases pre <;> exact ⟨_, _, rfl⟩
    rw [List.cons_append, hx, List.intercalate_cons_cons, ← hx, ih]
    simp

theorem objectJSON_split (indent : ℕ) (pre post : List (Text × Text)) (entry : Text × Text) :
    objectJSON indent (pre ++ entry :: post) =
      objectBefore indent pre ++ (label entry.1 ++ (entry.2 ++ objectAfter indent post)) := by
  rw [objectJSON, List.map_append, List.map_cons, intercalate_split]
  simp [objectBefore, objectAfter, List.flatMap_map, entryJSON]

theorem apart_comma : Apart (',' :: t) :=
  ⟨by simp [isPlain], by simp [isSpace]⟩

theorem apart_brace : Apart ('\n' :: List.replicate n ' ' ++ '\x7d' :: t) := by
  refine ⟨by simp [isPlain], ?_⟩
  have h : (List.replicate n ' ' ++ '\x7d' :: t).dropWhile isSpace = '\x7d' :: t := by
    rw [List.dropWhile_append_of_pos fun c hc => by
      rw [List.eq_of_mem_replicate hc]; rfl]
    rfl
  rw [List.cons_append, List.dropWhile_cons, if_pos (by decide), h]
  simp

theorem apart_objectAfter {indent : ℕ} {post : List (Text × Text)} :
    Apart (objectAfter indent post ++ t) := by
  rcases post with _ | ⟨e, post⟩
  · rw [objectAfter, List.flatMap_nil, List.nil_append, List.append_assoc]
    exact apart_brace
  · rw [objectAfter, List.flatMap_cons]
    simp only [List.cons_append]
    exact apart_comma

/-- Entries whose keys a reader of `f` tells apart from its own. -/
def Silent (f : Text) (entries : List (Text × Text)) : Prop :=
  ∀ e ∈ entries, IsName e.1 ∧ e.1 ≠ f ∧ Quiet f e.2

theorem noKey_entry {e : Text × Text} {indent : ℕ} (hf : IsName f) (hn : IsName e.1) (hne : e.1 ≠ f)
    (hq : Quiet f e.2) (ht : Apart t) : NoKey f (entryJSON indent e) t := by
  refine NoKey.append (NoKey.append (noKey_of_not_mem ?_) (noKey_label hf hn hne)) (hq t ht)
  exact fun h => absurd (List.eq_of_mem_replicate h) (by decide)

theorem noKey_objectBefore {indent : ℕ} {pre : List (Text × Text)} (hf : IsName f)
    (h : Silent f pre) : NoKey f (objectBefore indent pre) t := by
  have hpad : '"' ∉ List.replicate (indent + 2) ' ' := fun h =>
    absurd (List.eq_of_mem_replicate h) (by decide)
  have hrows : ∀ t, NoKey f
      (pre.flatMap fun entry => entryJSON (indent + 2) entry ++ [',', '\n']) t := by
    induction pre with
    | nil => exact fun t => noKey_nil
    | cons e pre ih =>
      intro t
      obtain ⟨hn, hne, hq⟩ := h e List.mem_cons_self
      rw [List.flatMap_cons]
      refine NoKey.append (NoKey.append (noKey_entry hf hn hne hq apart_comma) ?_)
        (ih (fun e he => h e (List.mem_cons_of_mem _ he)) t)
      exact noKey_of_not_mem (by simp)
  have h2 := NoKey.append (hrows (List.replicate (indent + 2) ' ' ++ t))
    (noKey_of_not_mem (f := f) (t := t) hpad)
  exact NoKey.append (s := ['\x7b', '\n']) (noKey_of_not_mem (by simp)) h2

theorem noKey_objectAfter {i : ℕ} {post : List (Text × Text)} (hf : IsName f)
    (h : Silent f post) : NoKey f (objectAfter i post) t := by
  have hrows : ∀ t, Apart t → NoKey f
      (post.flatMap fun entry => ',' :: '\n' :: entryJSON (i + 2) entry) t := by
    induction post with
    | nil => exact fun t _ => noKey_nil
    | cons e post ih =>
      intro t ht
      obtain ⟨hn, hne, hq⟩ := h e List.mem_cons_self
      have ih := ih (fun e he => h e (List.mem_cons_of_mem _ he)) t ht
      rw [List.flatMap_cons]
      refine NoKey.append (NoKey.append (s := [',', '\n']) (noKey_of_not_mem (by simp)) ?_) ih
      refine noKey_entry hf hn hne hq ?_
      rcases post with _ | ⟨e', post⟩
      · exact ht
      · rw [List.flatMap_cons]
        exact apart_comma
  rw [objectAfter, List.append_assoc]
  refine NoKey.append (hrows _ ?_) (noKey_of_not_mem ?_)
  · simpa using apart_brace (n := i) (t := t)
  · rw [List.mem_append, List.mem_cons, not_or, not_or]
    exact ⟨⟨by decide, fun h => absurd (List.eq_of_mem_replicate h) (by decide)⟩, by simp⟩

/-- No key of `f` starts in an object none of whose entries has one. -/
theorem quiet_objectJSON {indent : ℕ} {entries : List (Text × Text)} (hf : IsName f)
    (h0 : entries ≠ []) (h : Silent f entries) : Quiet f (objectJSON indent entries) := by
  intro t ht
  obtain ⟨e, post, rfl⟩ := List.exists_cons_of_ne_nil h0
  obtain ⟨hn, hne, hq⟩ := h e List.mem_cons_self
  rw [show e :: post = [] ++ e :: post from rfl, objectJSON_split]
  refine NoKey.append (noKey_objectBefore hf fun e he => absurd he (by simp)) ?_
  refine NoKey.append (noKey_label hf hn hne) (NoKey.append (hq _ apart_objectAfter) ?_)
  exact noKey_objectAfter hf fun e he => h e (List.mem_cons_of_mem _ he)

/-! ## Reading a field -/

/-- Entries a reader of any of `names` finds its way through: the names differ, and no value has a
key of `names` in it. -/
structure Legible (names : List Text) (entries : List (Text × Text)) : Prop where
  nodup : (entries.map Prod.fst).Nodup
  name : ∀ e ∈ entries, IsName e.1
  quiet : ∀ e ∈ entries, ∀ f ∈ names, Quiet f e.2

theorem Legible.split {names : List Text} {entries : List (Text × Text)}
    (h : Legible names entries) (hf : f ∈ names) (hm : (f, x) ∈ entries) :
    ∃ pre post, entries = pre ++ (f, x) :: post ∧ IsName f ∧ Silent f pre ∧ Silent f post := by
  obtain ⟨pre, post, rfl⟩ := List.append_of_mem hm
  have hn := h.nodup
  rw [List.map_append, List.map_cons, List.nodup_append, List.nodup_cons] at hn
  refine ⟨pre, post, rfl, h.name _ hm, fun e he => ?_, fun e he => ?_⟩
  · have hin := List.mem_append_left ((f, x) :: post) he
    exact ⟨h.name e hin, hn.2.2 e.1 (List.mem_map_of_mem he) f List.mem_cons_self,
      h.quiet e hin f hf⟩
  · have hin := List.mem_append_right pre (List.mem_cons_of_mem (f, x) he)
    refine ⟨h.name e hin, fun he' => hn.2.1.1 ?_, h.quiet e hin f hf⟩
    exact List.mem_map.mpr ⟨e, he, he'⟩

/-- **A reader finds its field.** -/
theorem Legible.matchField {names : List Text} {entries : List (Text × Text)} {i : ℕ}
    {lead : Text} (h : Legible names entries) (hf : f ∈ names) (hm : (f, x) ∈ entries)
    (hl : '"' ∉ lead) (hx : ∀ c, x.head? = some c → isSpace c = false) (h0 : x ≠ [])
    (hv : ∀ u, Apart u → value (x ++ u) = some v) :
    matchField (lead ++ (objectJSON i entries ++ t)) f value = some v := by
  obtain ⟨pre, post, rfl, hn, hpre, -⟩ := h.split hf hm
  rw [Aes67.matchField, if_pos hn.plain, searchField_append (noKey_of_not_mem hl),
    objectJSON_split]
  simp only [List.append_assoc]
  rw [searchField_append (noKey_objectBefore hn hpre), searchField_label hn]
  have hd : (x ++ (objectAfter i post ++ t)).dropWhile isSpace =
      x ++ (objectAfter i post ++ t) := by
    obtain ⟨c, x, rfl⟩ := List.exists_cons_of_ne_nil h0
    rw [List.cons_append, List.dropWhile_cons, if_neg (by simp [hx c rfl])]
  rw [hd, hv _ apart_objectAfter]
  rfl

/-- In an object cut off inside a string, that string's field is not found. -/
theorem matchField_cut {i : ℕ} {pre : List (Text × Text)} {lead : Text} (hf : IsName f)
    (hpre : Silent f pre) (hl : '"' ∉ lead)
    (hp : p <+: lead ++ (objectBefore i pre ++ (label f ++ '"' :: jsonEscape v))) :
    matchField p f stringValue = none := by
  rw [matchField, if_pos hf.plain]
  by_contra h
  obtain ⟨t, ht⟩ := hp
  refine searchField_ne_none_append (t := t) rfl stringValue_ne_none_append h ?_
  rw [ht, searchField_append (noKey_of_not_mem hl),
    searchField_append (noKey_objectBefore hf hpre), searchField_label hf]
  have hd : ('"' :: jsonEscape v).dropWhile isSpace = '"' :: jsonEscape v := rfl
  have hn : searchField f stringValue _ = _ :=
    searchField_append (noKey_cut (v := v) hf List.suffix_rfl)
  rw [List.append_nil] at hn
  rw [hd, stringValue_cut, hn]
  rfl

/-! ## Fields of written objects -/

section Extract

variable {names : List Text} {entries : List (Text × Text)} {lead : Text} {i : ℕ}

theorem quote_ne_nil : quote v ≠ [] := List.cons_ne_nil _ _

theorem isSpace_head_quote (c : Char) (h : (quote v).head? = some c) : isSpace c = false := by
  cases h
  rfl

theorem isSpace_head_showNat (c : Char) (h : (showNat n).head? = some c) : isSpace c = false :=
  isSpace_of_mem_showNat (List.mem_of_head? h)

theorem Legible.extractString (h : Legible names entries) (hf : f ∈ names)
    (hm : (f, quote v) ∈ entries) (hl : '"' ∉ lead) :
    extractStringField (lead ++ (objectJSON i entries ++ t)) f = some v := by
  rw [extractStringField, h.matchField hf hm hl isSpace_head_quote quote_ne_nil
    fun u _ => stringValue_quote, Option.map_some, jsonUnescape_jsonEscape]

theorem Legible.extractUInt64 (h : Legible names entries) (hf : f ∈ names)
    (hm : (f, showNat n) ∈ entries) (hl : '"' ∉ lead) (hn : n < 2 ^ 64) :
    extractUInt64Field (lead ++ (objectJSON i entries ++ t)) f = some n := by
  rw [extractUInt64Field, h.matchField hf hm hl isSpace_head_showNat (showNat_ne_nil n)
    fun u hu => digitsValue_showNat hu, Option.bind_some, stoull_showNat hn]

theorem Legible.narrow (h : Legible names entries) (hf : f ∈ names)
    (hm : (f, showNat n) ∈ entries) (hl : '"' ∉ lead) {max : ℕ} (hn : n ≤ max)
    (hmax : max < 2 ^ 64) :
    narrowField max (lead ++ (objectJSON i entries ++ t)) f = some n := by
  rw [narrowField, h.extractUInt64 hf hm hl (by omega)]
  exact if_neg (by omega)

theorem Legible.extractBool (h : Legible names entries) (hf : f ∈ names) {b : Bool}
    (hm : (f, showBool b) ∈ entries) (hl : '"' ∉ lead) :
    extractBoolField (lead ++ (objectJSON i entries ++ t)) f = some b := by
  have hs : ∀ c, (showBool b).head? = some c → isSpace c = false := by
    cases b <;> rintro c ⟨⟩ <;> rfl
  have h0 : showBool b ≠ [] := by cases b <;> decide
  rw [extractBoolField, h.matchField hf hm hl hs h0 fun u _ => boolValue_showBool b]
  cases b <;> rfl

theorem stoi_showInt {z : ℤ} (h1 : -2 ^ 31 ≤ z) (h2 : z < 2 ^ 31) : stoi (showInt z) = some z := by
  obtain ⟨c, u, hu⟩ := List.exists_cons_of_ne_nil (showNat_ne_nil z.natAbs)
  have htake : (c :: u).takeWhile Char.isDigit = c :: u := by
    rw [← hu, List.takeWhile_eq_self_iff]
    exact fun _ => isDigit_of_mem_showNat
  have hval : Nat.ofDigitChars 10 (c :: u) 0 = z.natAbs := by
    rw [← hu, showNat, Nat.ofDigitChars_ten_toDigits]
  rw [showInt]
  split_ifs with hz
  · have hd : ('-' :: c :: u).dropWhile isSpace = '-' :: c :: u := rfl
    have hscan : scanInt ('-' :: c :: u) = some (true, z.natAbs) := by
      simp only [scanInt, hd, htake, hval]
    rw [hu, stoi, stoSigned, hscan]
    dsimp only
    rw [if_pos rfl, if_pos (by constructor <;> omega)]
    congr 1
    omega
  · rw [stoi, stoSigned_showNat (by omega)]
    congr 1
    omega

theorem Legible.extractInt (h : Legible names entries) (hf : f ∈ names) {z : ℤ}
    (hm : (f, showInt z) ∈ entries) (hl : '"' ∉ lead) (h1 : -2 ^ 31 ≤ z) (h2 : z < 2 ^ 31) :
    extractIntField (lead ++ (objectJSON i entries ++ t)) f = some z := by
  have hs : ∀ c, (showInt z).head? = some c → isSpace c = false := by
    intro c hc
    rw [showInt] at hc
    split_ifs at hc
    · cases hc
      rfl
    · exact isSpace_head_showNat c hc
  have h0 : showInt z ≠ [] := by
    rw [showInt]
    split_ifs
    · exact List.cons_ne_nil _ _
    · exact showNat_ne_nil _
  rw [extractIntField, h.matchField hf hm hl hs h0 fun u hu => signedValue_showInt hu,
    Option.bind_some, stoi_showInt h1 h2]

/-- Named values, each a written string or without quotes, in which every name is found. -/
theorem legible_of_simple (hn : (entries.map Prod.fst).Nodup)
    (hi : ∀ g ∈ entries.map Prod.fst, IsName g) (hnames : ∀ g ∈ names, IsName g)
    (hv : ∀ e ∈ entries, (∃ s, e.2 = quote s) ∨ '"' ∉ e.2) : Legible names entries where
  nodup := hn
  name e he := hi e.1 (List.mem_map_of_mem he)
  quiet e he f hf := by
    rcases hv e he with ⟨s, hs⟩ | hq
    · exact hs ▸ quiet_quote (hnames f hf) s
    · exact quiet_of_not_mem hq

end Extract

/-! ## Brackets -/

/-- What an object has between its braces. -/
def objectBody (indent : ℕ) (entries : List (Text × Text)) : Text :=
  '\n' :: List.intercalate [',', '\n'] (entries.map (entryJSON (indent + 2))) ++
    '\n' :: List.replicate indent ' '

theorem objectJSON_eq (indent : ℕ) (entries : List (Text × Text)) :
    objectJSON indent entries = '\x7b' :: (objectBody indent entries ++ ['\x7d']) := rfl

theorem IsName.not_bracket {d : Char} (hf : IsName f) (hd : isBracket d = true) : d ∉ f := by
  intro h
  have := hf.isPlain h
  rw [isBracket, decide_eq_true_iff] at hd
  rcases hd with rfl | rfl | rfl | rfl <;> exact absurd this (by decide)

theorem like_pad {o d : Char} (ho : isBracket o = true) (hd : isBracket d = true) (n : ℕ) :
    Like o d (List.replicate n ' ') [] := by
  refine like_nil (fun h => ?_) fun h => ?_
  · rw [List.eq_of_mem_replicate h] at ho
    exact absurd ho (by decide)
  · rw [List.eq_of_mem_replicate h] at hd
    exact absurd hd (by decide)

/-- The marks of an object's body are those of its values. -/
theorem like_objectBody {o d : Char} {indent : ℕ} {entries : List (Text × Text)}
    (ho : isBracket o = true) (hd : isBracket d = true) (hn : ∀ e ∈ entries, IsName e.1) :
    Like o d (objectBody indent entries) (entries.flatMap Prod.snd) := by
  have plain : ∀ c, isBracket c = false → o ∉ [c] ∧ d ∉ [c] := by
    refine fun c hc => ⟨fun h => ?_, fun h => ?_⟩
    · rw [List.mem_singleton.mp h, hc] at ho
      cases ho
    · rw [List.mem_singleton.mp h, hc] at hd
      cases hd
  have one : ∀ c, isBracket c = false → Like o d [c] [] :=
    fun c hc => like_nil (plain c hc).1 (plain c hc).2
  have entry : ∀ e ∈ entries, Like o d (entryJSON (indent + 2) e) e.2 := by
    intro e he
    have hname := like_nil ((hn e he).not_bracket ho) ((hn e he).not_bracket hd)
    have hlabel : Like o d (label e.1) [] :=
      (((one '"' rfl).append hname).append
        (((one '"' rfl).append (one ':' rfl)).append (one ' ' rfl)))
    exact ((like_pad ho hd _).append hlabel).append (Like.refl e.2)
  have rows : Like o d (entries.map (entryJSON (indent + 2))).flatten
      (entries.flatMap Prod.snd) := by
    induction entries with
    | nil => exact Like.refl []
    | cons e entries ih =>
      exact (entry e List.mem_cons_self).append (ih (fun e he => hn e (List.mem_cons_of_mem _ he))
        fun e he => entry e (List.mem_cons_of_mem _ he))
  have hsep : Like o d [',', '\n'] [] := (one ',' rfl).append (one '\n' rfl)
  have h := (((one '\n' rfl).append ((like_intercalate hsep _).trans rows)).append
    ((one '\n' rfl).append (like_pad ho hd indent)))
  simpa [objectBody] using h

/-- An object's body has the brackets of its values only. -/
theorem not_mem_objectBody {d : Char} {i : ℕ} {entries : List (Text × Text)}
    (hd : isBracket d = true) (hn : ∀ e ∈ entries, IsName e.1) (h : ∀ e ∈ entries, d ∉ e.2) :
    d ∉ objectBody i entries := by
  have ne : ∀ c, isBracket c = false → d ≠ c := by
    rintro c hc rfl
    rw [hd] at hc
    cases hc
  have hrow : ∀ e ∈ entries, d ∉ entryJSON (i + 2) e := by
    intro e he hm
    simp only [entryJSON, label, List.mem_append, List.mem_cons, List.mem_replicate,
      List.not_mem_nil, or_false] at hm
    rcases hm with (hm | (hm | hm) | hm | hm | hm) | hm
    · exact ne ' ' rfl hm.2
    · exact ne '"' rfl hm
    · exact (hn e he).not_bracket hd hm
    · exact ne '"' rfl hm
    · exact ne ':' rfl hm
    · exact ne ' ' rfl hm
    · exact h e he hm
  have hrows : d ∉ List.intercalate [',', '\n'] (entries.map (entryJSON (i + 2))) := by
    clear h hn
    induction entries with
    | nil => simp
    | cons e entries ih =>
      have ih := ih fun e he => hrow e (List.mem_cons_of_mem _ he)
      have he := hrow e List.mem_cons_self
      rcases entries with _ | ⟨e', entries⟩
      · simpa using he
      · rw [List.map_cons] at ih ⊢
        rw [List.map_cons, List.intercalate_cons_cons, List.mem_append, List.mem_append]
        rintro ((hm | hm) | hm)
        · exact he hm
        · simp only [List.mem_cons, List.not_mem_nil, or_false] at hm
          rcases hm with hm | hm
          · exact ne ',' rfl hm
          · exact ne '\n' rfl hm
        · exact ih hm
  rw [objectBody, List.mem_append, List.mem_cons, List.mem_cons, List.mem_replicate]
  rintro ((hm | hm) | hm | hm)
  · exact ne '\n' rfl hm
  · exact hrows hm
  · exact ne '\n' rfl hm
  · exact ne ' ' rfl hm.2

end Aes67
