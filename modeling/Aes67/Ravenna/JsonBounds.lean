import Aes67.Lib.Outcome
import Aes67.Ravenna.JsonParser

/-!
# The parser on any text

Whatever the text, `parseJson` ends, with its position inside the text, its depth counter restored
and at most 64 containers open.

* `deepest`: how many containers a text has open at once, strings left out;
* `Kept`: what every step of the parser leaves as it was, and `Shut`: a step that leaves no
  container open;
* `total_parse`: the five functions of the descent, by induction on the calls left;
* **`parseJson_bounded`**.
-/

namespace Aes67.Ravenna

/-! ## Nesting -/

/-- How many containers are open at once, at most, in a text that starts inside `d` of them and
inside a string or not. -/
def deepest : Bool → ℕ → Text → ℕ
  | _, d, [] => d
  | false, d, c :: s =>
    if c = '"' then deepest true d s
    else if c = '\x7b' ∨ c = '[' then max (d + 1) (deepest false (d + 1) s)
    else if c = '\x7d' ∨ c = ']' then deepest false (d - 1) s
    else deepest false d s
  | true, d, c :: s =>
    if c = '"' then deepest false d s
    else if c ≠ '\\' then deepest true d s
    else match s with
      | [] => d
      | e :: s =>
        if e ≠ 'u' then deepest true d s
        else match s with
          | _ :: _ :: _ :: _ :: s => deepest true d s
          | _ => d

/-- How deep a text nests. -/
def nesting (text : Text) : ℕ := deepest false 0 text

example : nesting [] = 0 := by rw [nesting, deepest]

variable {c : Char} {d : ℕ} {s t w : Text}

theorem deepest_plain (hq : c ≠ '"') (hc : isNumeric c = true ∨ c = ',' ∨ c = ':') :
    deepest false d (c :: s) = deepest false d s := by
  have hne : ∀ x, isNumeric x = false → x ≠ ',' → x ≠ ':' → c ≠ x := by
    rintro x hx h1 h2 rfl
    rcases hc with hc | rfl | rfl
    · rw [hx] at hc
      cases hc
    · exact h1 rfl
    · exact h2 rfl
  rw [deepest, if_neg hq,
    if_neg (not_or.mpr ⟨hne _ (by decide) (by decide) (by decide), hne _ (by decide) (by decide) (by decide)⟩),
    if_neg (not_or.mpr ⟨hne _ (by decide) (by decide) (by decide), hne _ (by decide) (by decide) (by decide)⟩)]

theorem deepest_open (hc : c = '\x7b' ∨ c = '[') :
    deepest false d (c :: s) = max (d + 1) (deepest false (d + 1) s) := by
  rcases hc with rfl | rfl <;> rfl

theorem deepest_close (hc : c = '\x7d' ∨ c = ']') :
    deepest false d (c :: s) = deepest false (d - 1) s := by
  rcases hc with rfl | rfl <;> rfl

theorem deepest_quote (s : Text) : deepest false d ('"' :: s) = deepest true d s := rfl

theorem deepest_string_quote (s : Text) : deepest true d ('"' :: s) = deepest false d s := by
  rw [deepest.eq_def]
  rfl

theorem deepest_string_plain (hq : c ≠ '"') (hb : c ≠ '\\') :
    deepest true d (c :: s) = deepest true d s := by
  rw [deepest.eq_def]
  dsimp only
  rw [if_neg hq, if_pos hb]

theorem deepest_string_unicode {c1 c2 c3 c4 : Char} :
    deepest true d ('\\' :: 'u' :: c1 :: c2 :: c3 :: c4 :: s) = deepest true d s := by
  rw [deepest.eq_def]
  rfl

theorem deepest_string_escape (hc : c ≠ 'u') :
    deepest true d ('\\' :: c :: s) = deepest true d s := by
  rw [deepest.eq_def]
  dsimp only
  rw [if_neg (by decide), if_neg (by decide), if_pos hc]

theorem deepest_string_end : deepest true d ['\\'] = d := by
  rw [deepest.eq_def]
  rfl

/-- Fewer than four characters behind a `\u`. -/
theorem deepest_string_short (hs : ∀ c1 c2 c3 c4 t, s = c1 :: c2 :: c3 :: c4 :: t → False) :
    deepest true d ('\\' :: 'u' :: s) = d := by
  rw [deepest.eq_def]
  dsimp only
  rw [if_neg (by decide), if_neg (by decide), if_neg (by decide)]
  split
  · next c1 c2 c3 c4 t => exact (hs c1 c2 c3 c4 t rfl).elim
  · rfl

theorem deepest_taken (h : Taken s t) : deepest false d s = deepest false d t := by
  obtain ⟨w, rfl, hw⟩ := h
  induction w with
  | nil => rfl
  | cons c w ih =>
    have hc := hw c List.mem_cons_self
    have hq : c ≠ '"' := by
      rintro rfl
      exact absurd hc (by decide)
    rw [List.cons_append, deepest_plain hq (Or.inl hc), ih fun c hc => hw c (List.mem_cons_of_mem _ hc)]

/-- What follows a text does not make it less deep. -/
theorem deepest_le_append (b : Bool) (d : ℕ) (s t : Text) :
    max d (deepest b d s) ≤ max d (deepest b d (s ++ t)) := by
  -- an escape reads several characters at once, so the induction is on the length
  induction hn : s.length using Nat.strong_induction_on generalizing b d s with
  | _ n ih =>
  subst hn
  rcases s with _ | ⟨c, s⟩
  · exact max_le_max_left d (Nat.zero_le _) |>.trans' (by simp [deepest])
  have shorter : ∀ (b : Bool) (d : ℕ) (w : Text), w.length ≤ s.length →
      max d (deepest b d w) ≤ max d (deepest b d (w ++ t)) := fun b d w hw =>
    ih w.length (Nat.lt_succ_of_le hw) b d w rfl
  clear ih
  cases b with
  | false =>
    have ihs := shorter false d s le_rfl
    by_cases hq : c = '"'
    · subst hq
      simpa only [List.cons_append, deepest_quote] using shorter true d s le_rfl
    by_cases hc : c = '\x7b' ∨ c = '['
    · have ihd := shorter false (d + 1) s le_rfl
      rw [List.cons_append, deepest_open hc, deepest_open hc]
      omega
    by_cases hc' : c = '\x7d' ∨ c = ']'
    · have ihd := shorter false (d - 1) s le_rfl
      rw [List.cons_append, deepest_close hc', deepest_close hc']
      omega
    · simpa [deepest, hq, hc, hc'] using ihs
  | true =>
    by_cases hq : c = '"'
    · subst hq
      simpa only [List.cons_append, deepest_string_quote] using shorter false d s le_rfl
    by_cases hb : c = '\\'
    · subst hb
      rcases s with _ | ⟨e, s⟩
      · exact le_max_left _ _ |>.trans' (by simp [deepest_string_end])
      by_cases he : e = 'u'
      · subst he
        by_cases hs : ∃ c1 c2 c3 c4 w, s = c1 :: c2 :: c3 :: c4 :: w
        · obtain ⟨c1, c2, c3, c4, w, rfl⟩ := hs
          simpa only [List.cons_append, deepest_string_unicode] using
            shorter true d w (by simp only [List.length_cons]; omega)
        · have hs' : ∀ c1 c2 c3 c4 w, s = c1 :: c2 :: c3 :: c4 :: w → False :=
            fun c1 c2 c3 c4 w he => hs ⟨c1, c2, c3, c4, w, he⟩
          exact le_max_left _ _ |>.trans' (by rw [deepest_string_short hs', max_self])
      · simpa only [List.cons_append, deepest_string_escape he] using
          shorter true d s (Nat.le_succ _)
    · simpa only [List.cons_append, deepest_string_plain hq hb] using shorter true d s le_rfl

theorem nesting_le_append (s t : Text) : nesting s ≤ nesting (s ++ t) := by
  simpa [nesting] using deepest_le_append false 0 s t

theorem taken_append (h : ∀ c ∈ w, isNumeric c = true) : Taken (w ++ t) t := ⟨w, rfl, h⟩

theorem ok_of_map {ε α β : Type} {f : α → β} {x : Except ε α} {b : β} (h : x.map f = .ok b) :
    ∃ a, x = .ok a := by
  cases x with
  | error e => cases h
  | ok a => exact ⟨a, rfl⟩

/-- A string that closes opens nothing. -/
theorem deepest_readChars {out : Text} (h : (readChars s).1 = .ok out) :
    deepest true d s = deepest false d (readChars s).2 := by
  induction s using readChars.induct generalizing out with
  | case1 => cases h
  | case2 s => rw [readChars_quote, deepest_string_quote]
  | case3 c s hq hb _ _ _ ih =>
    rw [readChars_plain hq hb] at h ⊢
    obtain ⟨a, ha⟩ := ok_of_map h
    rw [deepest_string_plain hq hb, ih ha]
  | case4 c hq hb =>
    obtain rfl := not_not.mp hb
    cases h
  | case5 c hq hb c1 c2 c3 c4 s _ _ _ ih =>
    obtain rfl := not_not.mp hb
    rw [readChars_unicode] at h ⊢
    obtain ⟨a, ha⟩ := ok_of_map h
    rw [← ih ha, deepest_string_unicode]
  | case6 c hq hb s hs =>
    obtain rfl := not_not.mp hb
    rcases s with _ | ⟨c1, _ | ⟨c2, _ | ⟨c3, _ | ⟨c4, s⟩⟩⟩⟩
    · cases h
    · cases h
    · cases h
    · cases h
    · exact (hs c1 c2 c3 c4 s rfl).elim
  | case7 c hq hb e s he x hx _ _ _ ih =>
    obtain rfl := not_not.mp hb
    rw [readChars_escape he hx] at h ⊢
    obtain ⟨a, ha⟩ := ok_of_map h
    rw [← ih ha, deepest_string_escape he]
  | case8 c hq hb e s he hx =>
    obtain rfl := not_not.mp hb
    rw [readChars_unknown he hx] at h
    cases h

theorem readChars_suffix (s : Text) : (readChars s).2 <:+ s := by
  induction s using readChars.induct with
  | case1 => exact List.suffix_rfl
  | case2 s =>
    rw [readChars_quote]
    exact List.suffix_cons _ s
  | case3 c s hq hb _ _ _ ih =>
    rw [readChars_plain hq hb]
    exact ih.trans (List.suffix_cons c s)
  | case4 c hq hb =>
    obtain rfl := not_not.mp hb
    exact List.nil_suffix
  | case5 c hq hb c1 c2 c3 c4 s _ _ _ ih =>
    obtain rfl := not_not.mp hb
    rw [readChars_unicode]
    exact ih.trans ⟨['\\', 'u', c1, c2, c3, c4], rfl⟩
  | case6 c hq hb s hs =>
    obtain rfl := not_not.mp hb
    rcases s with _ | ⟨c1, _ | ⟨c2, _ | ⟨c3, _ | ⟨c4, s⟩⟩⟩⟩
    · exact ⟨['\\', 'u'], rfl⟩
    · exact ⟨['\\', 'u'], rfl⟩
    · exact ⟨['\\', 'u'], rfl⟩
    · exact ⟨['\\', 'u'], rfl⟩
    · exact (hs c1 c2 c3 c4 s rfl).elim
  | case7 c hq hb e s he x hx _ _ _ ih =>
    obtain rfl := not_not.mp hb
    rw [readChars_escape he hx]
    exact ih.trans ⟨['\\', e], rfl⟩
  | case8 c hq hb e s he hx =>
    obtain rfl := not_not.mp hb
    rw [readChars_unknown he hx]
    exact ⟨['\\', e], rfl⟩

namespace Parser

variable {p q r : Parser} {fuel active : ℕ}

/-! ## Steps -/

/-- The position is inside the text. -/
def Within (p : Parser) : Prop := p.pos ≤ p.text.length

/-- What every step keeps: the text, the depth counter, and a position inside the text that never
goes back. -/
structure Kept (p q : Parser) : Prop where
  text : q.text = p.text
  depth : q.depth = p.depth
  pos_le : p.pos ≤ q.pos
  within : q.Within

theorem Kept.refl (h : p.Within) : Kept p p := ⟨rfl, rfl, le_rfl, h⟩

theorem Kept.trans (h : Kept p q) (h' : Kept q r) : Kept p r :=
  ⟨h'.text.trans h.text, h'.depth.trans h.depth, h.pos_le.trans h'.pos_le, h'.within⟩

theorem Kept.length_rest_le (h : Kept p q) : q.rest.length ≤ p.rest.length := by
  have := h.pos_le
  rw [rest, rest, h.text, List.length_drop, List.length_drop]
  omega

theorem kept_fail (h : p.Within) (what : String) : Kept p (p.fail what) := by
  rw [fail]
  split_ifs
  · exact ⟨rfl, rfl, le_rfl, h⟩
  · exact .refl h

/-- A step over a part of what is left. -/
theorem total_advance (hp : p.Within) (h : p.rest = w ++ s) :
    Total (p.advance w.length) fun q => Kept p q ∧ q.rest = s := by
  have hlen := congrArg List.length h
  rw [rest, List.length_drop, List.length_append] at hlen
  have hw : p.pos + w.length ≤ p.text.length := by
    have : p.pos ≤ p.text.length := hp
    omega
  refine ⟨p.moved w.length, by rw [advance, if_pos hw], ⟨rfl, rfl, Nat.le_add_right _ _, hw⟩, ?_⟩
  have hdrop : (p.moved w.length).rest = p.rest.drop w.length := by
    rw [rest, rest, List.drop_drop]
    rfl
  rw [hdrop, h, List.drop_left]

/-- A step that leaves nothing open that was not. -/
structure Shut (p q : Parser) : Prop extends Kept p q where
  shut : deepest false p.depth q.rest ≤ kMaxNestingDepth →
    deepest false p.depth p.rest ≤ kMaxNestingDepth

theorem Shut.trans (h : Shut p q) (h' : Shut q r) : Shut p r :=
  ⟨h.toKept.trans h'.toKept, fun hr => h.shut (h.depth ▸ h'.shut (h.depth.symm ▸ hr))⟩

theorem Shut.of_taken (h : Kept p q) (ht : Taken p.rest q.rest) : Shut p q :=
  ⟨h, fun hr => by rwa [deepest_taken ht]⟩

theorem isNumeric_of_isBlank {c : Char} (h : isBlank c = true) : isNumeric c = true := by
  simp only [isBlank, Bool.or_eq_true, beq_iff_eq] at h
  rcases h with ((rfl | rfl) | rfl) | rfl <;> decide

theorem total_skipSpace (hp : p.Within) : Total p.skipSpace (Shut p) := by
  have h : p.rest = p.rest.takeWhile isBlank ++ p.rest.dropWhile isBlank :=
    List.takeWhile_append_dropWhile.symm
  refine (total_advance hp h).mono fun q hq => .of_taken hq.1 ?_
  rw [hq.2]
  exact taken_dropWhile (fun _ => isNumeric_of_isBlank) _

/-- A step over one character. -/
theorem total_next (hp : p.Within) (h : p.rest = c :: s) :
    Total (p.advance 1) fun q => Kept p q ∧ q.rest = s :=
  total_advance (w := [c]) hp h

/-- A step over a comma or a colon. -/
theorem total_separator (hp : p.Within) (hc : c = ',' ∨ c = ':') (h : p.rest = c :: s) :
    Total (p.advance 1) fun q => Shut p q ∧ q.rest = s := by
  refine (total_next hp h).mono fun q hq => ⟨⟨hq.1, fun hd => ?_⟩, hq.2⟩
  rwa [h, deepest_plain (by rcases hc with rfl | rfl <;> decide) (Or.inr hc), ← hq.2]

/-! ## The descent -/

/-- What a string, a literal, a number or a value comes to. -/
def Parsed {α : Type} (p : Parser) (r : Option α × Parser) : Prop :=
  Kept p r.2 ∧ (r.1.isSome → Shut p r.2)

/-- What comes of a container that is open at `p` and closed at the end, when its bracket is the
first character left (`n = 1`) or has been taken (`n = 0`). -/
def Closed (n : ℕ) (p : Parser) (r : Option Json × Parser) : Prop :=
  Kept p r.2 ∧ (r.1.isSome → deepest false (p.depth - 1) r.2.rest ≤ kMaxNestingDepth →
    deepest false (p.depth - n) p.rest ≤ kMaxNestingDepth)

theorem parsed_fail {α : Type} (h : Kept p q) (what : String) :
    Parsed p ((none : Option α), q.fail what) :=
  ⟨h.trans (kept_fail h.within what), fun h => Bool.noConfusion h⟩

theorem closed_fail {n : ℕ} (h : Kept p q) (what : String) :
    Closed n p (none, q.fail what) :=
  ⟨h.trans (kept_fail h.within what), fun h => Bool.noConfusion h⟩

theorem Closed.shut_trans {x : Option Json × Parser} (h : Shut p q) (hx : Closed 0 q x) :
    Closed 0 p x :=
  ⟨h.toKept.trans hx.1, fun hs hd => h.shut (h.depth ▸ hx.2 hs (h.depth.symm ▸ hd))⟩

theorem closed_none (h : Kept p q) (n : ℕ) : Closed n p (none, q) :=
  ⟨h, fun h => Bool.noConfusion h⟩

theorem closed_bracket {v : Json} (h : Kept p q) (hc : c = '\x7d' ∨ c = ']')
    (hp : p.rest = c :: q.rest) : Closed 0 p (some v, q) :=
  ⟨h, fun _ hd => by rwa [hp, Nat.sub_zero, deepest_close hc]⟩

theorem Closed.opened {x : Option Json × Parser} (h : Kept p q) (hc : c = '\x7b' ∨ c = '[')
    (hp : p.rest = c :: q.rest) (h0 : 0 < p.depth) (hd : p.depth ≤ kMaxNestingDepth)
    (hx : Closed 0 q x) : Closed 1 p x := by
  refine ⟨h.trans hx.1, fun hs hr => ?_⟩
  have hin := hx.2 hs (h.depth.symm ▸ hr)
  rw [Nat.sub_zero, h.depth] at hin
  rw [hp, deepest_open hc, Nat.sub_add_cancel h0]
  exact max_le hd hin

theorem total_literal {word : String} (hp : p.Within) (value : Json)
    (hw : word.toList.all isNumeric = true) : Total (p.literal word value) (Parsed p) := by
  rw [literal]
  split_ifs with h
  · obtain ⟨s, hs⟩ := List.isPrefixOf_iff_prefix.mp h
    refine (total_advance hp hs.symm).bind fun q hq => .pure ⟨hq.1, fun _ => .of_taken hq.1 ?_⟩
    rw [hq.2, ← hs]
    exact taken_append (List.all_eq_true.mp hw)
  · exact .pure (parsed_fail (.refl hp) _)

theorem total_parseNumber (hp : p.Within) : Total p.parseNumber (Parsed p) := by
  rw [parseNumber]
  split
  · exact .pure (parsed_fail (.refl hp) _)
  · next d s h =>
    obtain ⟨w, hw, hc⟩ := strtod_taken h
    have hlen : p.rest.length - s.length = w.length := by
      rw [hw, List.length_append, Nat.add_sub_cancel]
    rw [hlen]
    refine (total_advance hp hw).bind fun q hq => .pure ⟨hq.1, fun _ => .of_taken hq.1 ?_⟩
    rw [hq.2, hw]
    exact taken_append hc

theorem total_parseString (hp : p.Within) : Total p.parseString (Parsed p) := by
  rw [parseString]
  split
  · next s hs =>
    obtain ⟨w, hw⟩ := readChars_suffix s
    have hlen : 1 + (s.length - (readChars s).2.length) = ('"' :: w).length := by
      rw [← hw, List.length_append, hw, Nat.add_sub_cancel, List.length_cons, Nat.add_comm]
    have hrest : p.rest = ('"' :: w) ++ (readChars s).2 := by rw [hs, List.cons_append, hw]
    refine Total.bind (hlen ▸ total_advance hp hrest) fun q hq => ?_
    split
    · next value hv =>
      refine .pure ⟨hq.1, fun _ => ⟨hq.1, fun hd => ?_⟩⟩
      rwa [hs, deepest_quote, deepest_readChars hv, ← hq.2]
    · exact .pure (parsed_fail hq.1 _)
  · exact .pure (parsed_fail (.refl hp) _)

/-- The five functions, with so many calls left. Inside `p.depth` containers there are as many
calls active. -/
structure Descends (fuel : ℕ) : Prop where
  value {p : Parser} : p.Within → 3 * p.rest.length + 3 ≤ fuel →
    Total (parseValue fuel p.depth p) (Parsed p)
  object {p : Parser} {s : Text} : p.Within → p.rest = '\x7b' :: s → 0 < p.depth →
    p.depth ≤ kMaxNestingDepth → 3 * p.rest.length + 2 ≤ fuel →
    Total (parseObject fuel p.depth p) (Closed 1 p)
  members {p : Parser} (m : OrdMap Text Json) : p.Within → 3 * p.rest.length + 4 ≤ fuel →
    Total (parseMembers fuel p.depth m p) (Closed 0 p)
  array {p : Parser} {s : Text} : p.Within → p.rest = '[' :: s → 0 < p.depth →
    p.depth ≤ kMaxNestingDepth → 3 * p.rest.length + 2 ≤ fuel →
    Total (parseArray fuel p.depth p) (Closed 1 p)
  items {p : Parser} (l : List Json) : p.Within → 3 * p.rest.length + 4 ≤ fuel →
    Total (parseItems fuel p.depth l p) (Closed 0 p)

theorem total_deeper {call : Parser → Except Fault (Option Json × Parser)}
    (hcall : Total (call { p with depth := p.depth + 1 }) (Closed 1 { p with depth := p.depth + 1 })) :
    Total (p.deeper call) (Parsed p) := by
  refine hcall.bind fun ⟨out, q⟩ hq => .pure ?_
  have hk : Kept p { q with depth := q.depth - 1 } :=
    ⟨hq.1.text, by rw [hq.1.depth]; rfl, hq.1.pos_le, hq.1.within⟩
  exact ⟨hk, fun hs => ⟨hk, fun hd => hq.2 hs hd⟩⟩

theorem Descends.value_succ (h : Descends fuel) (hp : p.Within)
    (hf : 3 * p.rest.length + 3 ≤ fuel + 1) :
    Total (parseValue (fuel + 1) p.depth p) (Parsed p) := by
  rw [parseValue]
  refine (total_skipSpace hp).bind fun q hq => ?_
  have hlen := hq.length_rest_le
  have hlift : ∀ {α : Type} {x : Option α × Parser}, Parsed q x → Parsed p x := fun hx =>
    ⟨hq.toKept.trans hx.1, fun hs => hq.trans (hx.2 hs)⟩
  split
  · exact .pure (parsed_fail hq.toKept _)
  · next c s hs =>
    split_ifs with hc hd ha hb hquote
    · exact .pure (parsed_fail hq.toKept _)
    · rw [hq.depth] at hd
      exact absurd ha hd
    · subst hb
      rw [← hq.depth]
      refine (total_deeper ?_).mono fun _ => hlift
      exact h.object (p := { q with depth := q.depth + 1 }) hq.within hs (Nat.succ_pos _)
        (Nat.lt_of_not_le hd) (by change 3 * q.rest.length + 2 ≤ _; omega)
    · obtain rfl := hc.resolve_left hb
      rw [← hq.depth]
      refine (total_deeper ?_).mono fun _ => hlift
      exact h.array (p := { q with depth := q.depth + 1 }) hq.within hs (Nat.succ_pos _)
        (Nat.lt_of_not_le hd) (by change 3 * q.rest.length + 2 ≤ _; omega)
    · refine (total_parseString hq.within).bind fun x hx => .pure (hlift ⟨hx.1, fun hs => ?_⟩)
      exact hx.2 (by simpa using hs)
    · exact (total_literal hq.within _ (by decide)).mono fun _ => hlift
    · exact (total_literal hq.within _ (by decide)).mono fun _ => hlift
    · exact (total_literal hq.within _ (by decide)).mono fun _ => hlift
    · exact (total_parseNumber hq.within).mono fun _ => hlift

theorem Descends.object_succ (h : Descends fuel) (hp : p.Within) (hc : p.rest = '\x7b' :: s)
    (h0 : 0 < p.depth) (hd : p.depth ≤ kMaxNestingDepth) (hf : 3 * p.rest.length + 2 ≤ fuel + 1) :
    Total (parseObject (fuel + 1) p.depth p) (Closed 1 p) := by
  rw [parseObject]
  refine (total_next hp hc).bind fun q hq => ?_
  refine (total_skipSpace hq.1.within).bind fun r hr => ?_
  rw [hc, List.length_cons, ← hq.2] at hf
  have hlen := hr.length_rest_le
  have hlift : ∀ {x : Option Json × Parser}, Closed 0 r x → Closed 1 p x := fun hx =>
    .opened hq.1 (Or.inl rfl) (hq.2 ▸ hc) h0 hd (hx.shut_trans hr)
  split
  · next s' hs =>
    refine (total_next hr.within hs).bind fun v hv => .pure (hlift ?_)
    exact closed_bracket hv.1 (Or.inl rfl) (hv.2 ▸ hs)
  · rw [← hq.1.depth, ← hr.depth]
    exact (h.members _ hr.within (by omega)).mono fun _ => hlift

theorem Descends.array_succ (h : Descends fuel) (hp : p.Within) (hc : p.rest = '[' :: s)
    (h0 : 0 < p.depth) (hd : p.depth ≤ kMaxNestingDepth) (hf : 3 * p.rest.length + 2 ≤ fuel + 1) :
    Total (parseArray (fuel + 1) p.depth p) (Closed 1 p) := by
  rw [parseArray]
  refine (total_next hp hc).bind fun q hq => ?_
  refine (total_skipSpace hq.1.within).bind fun r hr => ?_
  rw [hc, List.length_cons, ← hq.2] at hf
  have hlen := hr.length_rest_le
  have hlift : ∀ {x : Option Json × Parser}, Closed 0 r x → Closed 1 p x := fun hx =>
    .opened hq.1 (Or.inr rfl) (hq.2 ▸ hc) h0 hd (hx.shut_trans hr)
  split
  · next s' hs =>
    refine (total_next hr.within hs).bind fun v hv => .pure (hlift ?_)
    exact closed_bracket hv.1 (Or.inr rfl) (hv.2 ▸ hs)
  · rw [← hq.1.depth, ← hr.depth]
    exact (h.items _ hr.within (by omega)).mono fun _ => hlift

theorem Descends.items_succ (h : Descends fuel) (l : List Json) (hp : p.Within)
    (hf : 3 * p.rest.length + 4 ≤ fuel + 1) :
    Total (parseItems (fuel + 1) p.depth l p) (Closed 0 p) := by
  rw [parseItems]
  refine (h.value hp (by omega)).bind fun x hq => ?_
  obtain ⟨out, q⟩ := x
  cases out with
  | none => exact .pure (closed_none hq.1 0)
  | some value =>
    have hpq : Shut p q := hq.2 rfl
    refine (total_skipSpace hpq.within).bind fun r hr => ?_
    have hpr := hpq.trans hr
    have hlen := hpr.length_rest_le
    split
    · exact .pure (closed_fail hpr.toKept _)
    · next c s hs =>
      split_ifs with h1 h2
      · subst h1
        refine (total_separator hr.within (Or.inl rfl) hs).bind fun v hv => ?_
        rw [hs, List.length_cons, ← hv.2] at hlen
        have hpv := hpr.trans hv.1
        rw [← hpv.depth]
        exact (h.items _ hpv.within (by omega)).mono fun _ hx => hx.shut_trans hpv
      · refine (total_next hr.within hs).bind fun v hv => .pure (.shut_trans hpr ?_)
        exact closed_bracket hv.1 (Or.inr h2) (hv.2 ▸ hs)
      · exact .pure (closed_fail hpr.toKept _)

theorem Descends.members_succ (h : Descends fuel) (m : OrdMap Text Json) (hp : p.Within)
    (hf : 3 * p.rest.length + 4 ≤ fuel + 1) :
    Total (parseMembers (fuel + 1) p.depth m p) (Closed 0 p) := by
  rw [parseMembers]
  refine (total_skipSpace hp).bind fun p1 h1 => ?_
  refine (total_parseString h1.within).bind fun x h2 => ?_
  obtain ⟨key, p2⟩ := x
  cases key with
  | none => exact .pure (closed_none (h1.toKept.trans h2.1) 0)
  | some key =>
    have hk : Shut p p2 := h1.trans (h2.2 rfl)
    refine (total_skipSpace hk.within).bind fun p3 h3 => ?_
    have hk := hk.trans h3
    split
    · next s hs =>
      refine (total_separator hk.within (Or.inr rfl) hs).bind fun p4 h4 => ?_
      have hk := hk.trans h4.1
      have hlen := hk.length_rest_le
      rw [← hk.depth]
      refine (h.value hk.within (by omega)).bind fun x hq => ?_
      obtain ⟨out, q⟩ := x
      cases out with
      | none => exact .pure (closed_none (hk.toKept.trans hq.1) 0)
      | some value =>
        have hpq : Shut p q := hk.trans (hq.2 rfl)
        refine (total_skipSpace hpq.within).bind fun r hr => ?_
        have hpr := hpq.trans hr
        have hlen := hpr.length_rest_le
        split
        · exact .pure (closed_fail hpr.toKept _)
        · next c s hs =>
          split_ifs with hc1 hc2
          · subst hc1
            refine (total_separator hr.within (Or.inl rfl) hs).bind fun v hv => ?_
            rw [hs, List.length_cons, ← hv.2] at hlen
            have hpv := hpr.trans hv.1
            rw [hk.depth, ← hpv.depth]
            exact (h.members _ hpv.within (by omega)).mono fun _ hx => hx.shut_trans hpv
          · refine (total_next hr.within hs).bind fun v hv => .pure (.shut_trans hpr ?_)
            exact closed_bracket hv.1 (Or.inl hc2) (hv.2 ▸ hs)
          · exact .pure (closed_fail hpr.toKept _)
    · exact .pure (closed_fail hk.toKept _)

theorem descends (fuel : ℕ) : Descends fuel := by
  induction fuel with
  | zero => constructor <;> intros <;> omega
  | succ fuel ih =>
    exact ⟨ih.value_succ, ih.object_succ, ih.members_succ, ih.array_succ, ih.items_succ⟩

end Parser

/-! ## The whole text -/

section Whole

open Ravenna.Parser

/-- What a whole run comes to. -/
theorem total_run (text : Text) : Total (Parser.run text) fun x =>
    Kept { text := text } x.2 ∧
      ∀ value, x.1 = .ok value → x.2.pos = text.length ∧ nesting text ≤ kMaxNestingDepth := by
  have hp : Within { text := text } := Nat.zero_le _
  refine ((descends (fuelFor text.length)).value hp le_rfl).bind fun ⟨out, q⟩ hq => ?_
  cases out with
  | none => exact .pure ⟨hq.1, fun _ h => nomatch h⟩
  | some value =>
    have hs : Shut _ q := hq.2 rfl
    refine (total_skipSpace hs.within).bind fun r hr => ?_
    have hr := hs.trans hr
    split_ifs with hend
    · exact .pure ⟨hr.toKept, fun _ h => nomatch h⟩
    · rw [not_not, hr.text] at hend
      have hrest : r.rest = [] := by rw [rest, hr.text, hend, List.drop_length]
      refine .pure ⟨hr.toKept, fun _ _ => ⟨hend, hr.shut ?_⟩⟩
      rw [hrest]
      exact Nat.zero_le _

/-- **The parser on hostile bodies.** -/
theorem parseJson_bounded (text : Text) :
    (∃ r p, Parser.run text = .ok (r, p) ∧ parseJson text = .ok r ∧ p.depth = 0 ∧
      p.pos ≤ text.length ∧ (∀ value, r = .ok value → p.pos = text.length)) ∧
    (∀ p : Parser, p.text = text → p.pos ≤ text.length → ∃ out q,
      Parser.parseValue (Parser.fuelFor text.length) p.depth p = .ok (out, q) ∧
        q.depth = p.depth ∧ p.pos ≤ q.pos ∧ q.pos ≤ text.length) ∧
    ∀ s t, text = s ++ t → kMaxNestingDepth < nesting s →
      ∃ complaint, parseJson text = .ok (.error complaint) := by
  obtain ⟨⟨r, p⟩, hrun, hk, hok⟩ := total_run text
  have hparse : parseJson text = .ok r := by rw [parseJson, hrun]; rfl
  refine ⟨⟨r, p, hrun, hparse, hk.depth, ?_, fun value h => (hok value h).1⟩, ?_, ?_⟩
  · have hw := hk.within
    rwa [Within, hk.text] at hw
  · intro p hp hpos
    have hlen : p.rest.length ≤ text.length := by
      rw [rest, hp, List.length_drop]
      exact Nat.sub_le _ _
    obtain ⟨⟨out, q⟩, he, hq, -⟩ := (descends (fuelFor text.length)).value (p := p)
      (by rwa [Within, hp]) (by rw [fuelFor]; omega)
    have hw := hq.within
    rw [Within, hq.text, hp] at hw
    exact ⟨out, q, he, hq.depth, hq.pos_le, hw⟩
  · rintro s t rfl hs
    cases r with
    | error complaint => exact ⟨complaint, hparse⟩
    | ok value =>
      have := (hok value rfl).2
      have := nesting_le_append s t
      omega

end Whole

end Aes67.Ravenna
