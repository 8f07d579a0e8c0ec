import Aes67.Lib.Outcome
import Aes67.Ravenna.JsonParser

/-!
# Written values read back

`parseJson` undoes `serialise` on every value whose texts hold no zero byte, whose numbers are read
back from what is printed of them and which nests at most 64 deep.

* `Json.Sound`: such a value, for a given kind of numbers, and `Json.levels`, how deep it nests;
* `readChars_quoted`, `flatMap_reread`: escaping is undone, but for the zero byte;
* `parseValue_serialise`: the descent, by induction on the value, whatever text follows it;
* **`parseJson_serialise`** for all numbers that print, and **`parseJson_serialise_whole`** for whole
  numbers below 10^15.
-/

namespace Aes67.Ravenna

/-! ## Values that keep -/

/-- A number that is read back from what is printed of it. -/
def Prints (d : Double) : Prop := d ≠ .nan ∧ strtod (showNumber d) = some (d, [])

/-- A whole number below 10^15. -/
def Whole15 (d : Double) : Prop := ∃ n : ℤ, |n| < 10 ^ 15 ∧ d = .fin n

section Sound

variable (P : Double → Prop)

mutual

/-- No text of the value holds a zero byte, its numbers are of one kind, and the members of its
objects stand in key order, each key once. -/
def Json.Sound : Json → Prop
  | .null | .bool _ => True
  | .num d => P d
  | .str t => '\x00' ∉ t
  | .obj members => KeySorted members ∧ SoundMembers members
  | .arr items => SoundItems items

def Json.SoundMembers : List (Text × Json) → Prop
  | [] => True
  | (key, value) :: members => '\x00' ∉ key ∧ value.Sound ∧ Json.SoundMembers members

def Json.SoundItems : List Json → Prop
  | [] => True
  | item :: items => item.Sound ∧ Json.SoundItems items

end

end Sound

mutual

/-- How many containers are open at once in a value. -/
def Json.levels : Json → ℕ
  | .obj members => levelsMembers members + 1
  | .arr items => levelsItems items + 1
  | _ => 0

def Json.levelsMembers : List (Text × Json) → ℕ
  | [] => 0
  | (_, value) :: members => max value.levels (Json.levelsMembers members)

def Json.levelsItems : List Json → ℕ
  | [] => 0
  | item :: items => max item.levels (Json.levelsItems items)

end

/-! ## Strings -/

theorem strtolHex_low {n : ℕ} (h : n < 32) :
    strtolHex ['0', '0', Nat.digitChar (n / 16), Nat.digitChar (n % 16)] = n :=
  (by decide : ∀ n < 32, strtolHex ['0', '0', Nat.digitChar (n / 16), Nat.digitChar (n % 16)] = n)
    n h

/-- What a written character is read as: the reader leaves the escape of the zero byte as it is. -/
def reread (c : Char) : Text := if c = '\x00' then "\\u0000".toList else [c]

theorem decodeUnicode_low {c : Char} (h : c.toNat < 32) :
    decodeUnicode ['0', '0', Nat.digitChar (c.toNat / 16), Nat.digitChar (c.toNat % 16)] =
      reread c := by
  rw [decodeUnicode, strtolHex_low h, reread]
  by_cases h0 : c = '\x00'
  · subst h0
    decide
  · have hpos : 0 < c.toNat := Nat.pos_of_ne_zero fun h => h0 (by rw [← Char.ofNat_toNat c, h])
    rw [if_pos (by omega), if_neg h0, Int.toNat_natCast, Char.ofNat_toNat]

theorem readChars_quoteChar (c : Char) (s : Text) :
    readChars (quoteChar c ++ s) = ((readChars s).1.map (reread c ++ ·), (readChars s).2) := by
  rw [quoteChar]
  split_ifs with h1 h2 h3 h4 h5 h6 h7 h8
  · subst h1; exact readChars_escape (by decide) rfl
  · subst h2; exact readChars_escape (by decide) rfl
  · subst h3; exact readChars_escape (by decide) rfl
  · subst h4; exact readChars_escape (by decide) rfl
  · subst h5; exact readChars_escape (by decide) rfl
  · subst h6; exact readChars_escape (by decide) rfl
  · subst h7; exact readChars_escape (by decide) rfl
  · have hu : readChars ('\\' :: 'u' :: '0' :: '0' :: Nat.digitChar (c.toNat / 16) ::
        Nat.digitChar (c.toNat % 16) :: s) = _ := readChars_unicode
    rw [decodeUnicode_low h8] at hu
    exact hu
  · have hr : reread c = [c] := if_neg fun h0 => h8 (by rw [h0]; decide)
    rw [hr]
    exact readChars_plain h1 h2

/-- A written string is read as its characters are. -/
theorem readChars_quoted (t s : Text) :
    readChars (t.flatMap quoteChar ++ '"' :: s) = (.ok (t.flatMap reread), s) := by
  induction t with
  | nil => exact readChars_quote s
  | cons c t ih =>
    rw [List.flatMap_cons, List.append_assoc, readChars_quoteChar, ih]
    rfl

/-- Escaping is undone where there is no zero byte. -/
theorem flatMap_reread {t : Text} (h : '\x00' ∉ t) : t.flatMap reread = t := by
  induction t with
  | nil => rfl
  | cons c t ih =>
    rw [List.mem_cons, not_or] at h
    rw [List.flatMap_cons, ih h.2, reread, if_neg (Ne.symm h.1)]
    rfl

theorem jsonQuote_append (t s : Text) :
    jsonQuote t ++ s = '"' :: (t.flatMap quoteChar ++ '"' :: s) := by
  simp [jsonQuote]

/-! ## Numbers -/

/-- A character that a number may start with. -/
def startsNumber (c : Char) : Bool := c.isDigit || c == '-' || c == 'i'

theorem startsNumber_ne {c x : Char} (hc : startsNumber c = true) (hx : startsNumber x = false) :
    c ≠ x := by
  rintro rfl
  rw [hc] at hx
  cases hx

theorem isBlank_of_startsNumber {c : Char} (hc : startsNumber c = true) :
    Parser.isBlank c = false := by
  rw [Parser.isBlank, beq_false_of_ne (startsNumber_ne hc (x := ' ') rfl),
    beq_false_of_ne (startsNumber_ne hc (x := '\t') rfl),
    beq_false_of_ne (startsNumber_ne hc (x := '\n') rfl),
    beq_false_of_ne (startsNumber_ne hc (x := '\r') rfl)]
  rfl

theorem startsNumber_of_isDigit {c : Char} (h : c.isDigit = true) : startsNumber c = true := by
  rw [startsNumber, h, Bool.true_or, Bool.true_or]

theorem showNat_cons (n : ℕ) : ∃ c w, showNat n = c :: w ∧ c.isDigit = true := by
  obtain ⟨c, w, h⟩ := List.exists_cons_of_ne_nil (showNat_ne_nil n)
  exact ⟨c, w, h, isDigit_of_mem_showNat (n := n) (by simp [h])⟩

theorem showInt_cons (n : ℤ) : ∃ c w, showInt n = c :: w ∧ startsNumber c = true := by
  rw [showInt]
  split_ifs with h
  · exact ⟨_, _, rfl, rfl⟩
  · obtain ⟨c, w, hw, hc⟩ := showNat_cons n.natAbs
    exact ⟨c, w, hw, startsNumber_of_isDigit hc⟩

theorem printMagnitude_cons (k : ℕ) (q : ℚ) :
    ∃ c w, printMagnitude k q = c :: w ∧ startsNumber c = true := by
  obtain ⟨c, w, hw, hc⟩ := showNat_cons (significant k q).1
  have hc := startsNumber_of_isDigit hc
  rw [printMagnitude]
  dsimp only
  split_ifs with h1 h2
  · exact ⟨c, _, by rw [hw]; rfl, hc⟩
  · exact ⟨_, _, rfl, rfl⟩
  · obtain ⟨n, hn⟩ : ∃ n, ((significant k q).2 + 1).toNat = n + 1 :=
      ⟨(significant k q).2.toNat, by omega⟩
    exact ⟨c, _, by rw [hw, hn]; rfl, hc⟩

theorem showNumber_cons {d : Double} (hd : d ≠ .nan) :
    ∃ c w, showNumber d = c :: w ∧ startsNumber c = true := by
  cases d with
  | nan => exact absurd rfl hd
  | inf neg => cases neg <;> exact ⟨_, _, rfl, rfl⟩
  | fin q =>
    rw [showNumber]
    split_ifs with h
    · exact showInt_cons q.num
    · rw [printGeneral]
      split_ifs with h1 h2
      · exact ⟨_, _, rfl, rfl⟩
      · exact ⟨_, _, rfl, rfl⟩
      · exact ⟨_, _, rfl, rfl⟩
      · exact printMagnitude_cons 10 q

namespace Parser

variable {p : Parser} {c : Char} {s t w : Text}

/-! ## Steps -/

theorem moved_moved (m n : ℕ) : (p.moved m).moved n = p.moved (m + n) :=
  congrArg (fun k => { p with pos := k }) (Nat.add_assoc _ _ _)

theorem rest_moved (h : p.rest = w ++ s) : (p.moved w.length).rest = s := by
  have hdrop : (p.moved w.length).rest = p.rest.drop w.length := by
    rw [rest, rest, List.drop_drop]
    rfl
  rw [hdrop, h, List.drop_left]

theorem rest_next (h : p.rest = c :: s) : (p.moved 1).rest = s := rest_moved (w := [c]) h

theorem advance_append (h : p.rest = w ++ s) (hw : w ≠ []) :
    p.advance w.length = .ok (p.moved w.length) := by
  have hlen := congrArg List.length h
  rw [rest, List.length_drop, List.length_append] at hlen
  have hpos := List.length_pos_iff.mpr hw
  rw [advance, if_pos (by omega)]

theorem advance_next (h : p.rest = c :: s) : p.advance 1 = .ok (p.moved 1) :=
  advance_append (w := [c]) h (List.cons_ne_nil _ _)

theorem skipSpace_cons (h : p.rest = c :: s) (hc : isBlank c = false) : p.skipSpace = .ok p := by
  have hlen := congrArg List.length h
  rw [rest, List.length_drop, List.length_cons] at hlen
  rw [skipSpace, h, List.takeWhile_cons, hc, advance, if_pos (by simp; omega)]
  rfl

theorem parseString_jsonQuote (h : p.rest = jsonQuote t ++ s) :
    p.parseString = .ok (some (t.flatMap reread), p.moved (jsonQuote t).length) := by
  have hadv := advance_append h (by simp [jsonQuote])
  have hlen : 1 + ((t.flatMap quoteChar ++ '"' :: s).length - s.length) = (jsonQuote t).length := by
    simp [jsonQuote]
    omega
  rw [jsonQuote_append] at h
  simp only [parseString, h, readChars_quoted, hlen, hadv]
  rfl

theorem parseString_quoted (h : p.rest = jsonQuote t ++ s) (h0 : '\x00' ∉ t) :
    p.parseString = .ok (some t, p.moved (jsonQuote t).length) := by
  rw [parseString_jsonQuote h, flatMap_reread h0]

theorem literal_append {word : String} (value : Json) (hw : word.toList ≠ [])
    (h : p.rest = word.toList ++ s) :
    p.literal word value = .ok (some value, p.moved word.toList.length) := by
  have hpre : word.toList.isPrefixOf p.rest = true :=
    List.isPrefixOf_iff_prefix.mpr (h ▸ List.prefix_append _ _)
  rw [literal, if_pos hpre, advance_append h hw]
  rfl

theorem parseNumber_append {d : Double} (hd : strtod w = some (d, [])) (hw : w ≠ [])
    (hs : Stops s) (h : p.rest = w ++ s) :
    p.parseNumber = .ok (some (.num d), p.moved w.length) := by
  have hlen : (w ++ s).length - s.length = w.length := by
    rw [List.length_append, Nat.add_sub_cancel]
  rw [parseNumber, h, strtod_append hs, hd]
  dsimp only [Option.map_some, List.nil_append]
  rw [hlen, advance_append h hw]
  rfl

/-! ## The descent -/

/-- A value behind its first character `c`, and what `parseValue` does with it. -/
theorem parseValue_cons {fuel active : ℕ} (h : p.rest = c :: s) (hb : isBlank c = false) :
    parseValue (fuel + 1) active p =
      if c = '\x7b' ∨ c = '[' then
        if p.depth ≥ kMaxNestingDepth then return (none, p.fail "nested too deep")
        else if active ≥ 64 then .error .tooManyCalls
        else if c = '\x7b' then p.deeper (parseObject fuel (active + 1))
        else p.deeper (parseArray fuel (active + 1))
      else if c = '"' then do
        let (out, p) ← p.parseString
        return (out.map .str, p)
      else if c = 't' then p.literal "true" (.bool true)
      else if c = 'f' then p.literal "false" (.bool false)
      else if c = 'n' then p.literal "null" .null
      else p.parseNumber := by
  rw [parseValue, skipSpace_cons h hb, ok_bind, h]

theorem parseValue_number {fuel active : ℕ} {d : Double} (hd : strtod (c :: w) = some (d, []))
    (hc : startsNumber c = true) (hs : Stops s) (h : p.rest = c :: w ++ s) :
    parseValue (fuel + 1) active p = .ok (some (.num d), p.moved (c :: w).length) := by
  have hne : ∀ x, startsNumber x = false → c ≠ x := fun x => startsNumber_ne hc
  rw [parseValue_cons h (isBlank_of_startsNumber hc), if_neg (not_or.mpr ⟨hne _ rfl, hne _ rfl⟩), if_neg (hne _ rfl),
    if_neg (hne _ rfl), if_neg (hne _ rfl), if_neg (hne _ rfl)]
  exact parseNumber_append hd (List.cons_ne_nil _ _) hs h

theorem parseValue_open {fuel : ℕ} (h : p.rest = '\x7b' :: s) (hd : p.depth < kMaxNestingDepth) :
    parseValue (fuel + 1) p.depth p = p.deeper (parseObject fuel (p.depth + 1)) := by
  rw [parseValue_cons h (by decide), if_pos (Or.inl rfl), if_neg (not_le.mpr hd),
    if_neg (Nat.not_le.mpr hd : ¬ p.depth ≥ 64), if_pos rfl]

theorem parseValue_bracket {fuel : ℕ} (h : p.rest = '[' :: s) (hd : p.depth < kMaxNestingDepth) :
    parseValue (fuel + 1) p.depth p = p.deeper (parseArray fuel (p.depth + 1)) := by
  rw [parseValue_cons h (by decide), if_pos (Or.inr rfl), if_neg (not_le.mpr hd),
    if_neg (Nat.not_le.mpr hd : ¬ p.depth ≥ 64), if_neg (by decide)]

theorem deeper_eq {call : Parser → Except Fault (Option Json × Parser)} {out : Option Json} {n : ℕ}
    (h : call { p with depth := p.depth + 1 } =
      .ok (out, ({ p with depth := p.depth + 1 } : Parser).moved n)) :
    p.deeper call = .ok (out, p.moved n) := by
  rw [deeper, h]
  rfl

theorem parseObject_nil {fuel active : ℕ} (h : p.rest = '\x7b' :: '\x7d' :: s) :
    parseObject (fuel + 1) active p = .ok (some (.obj []), p.moved 2) := by
  rw [parseObject, advance_next h, ok_bind, skipSpace_cons (rest_next h) (by decide), ok_bind,
    rest_next h]
  change ((p.moved 1).advance 1 >>= _) = _
  rw [advance_next (rest_next h)]
  rfl

theorem parseObject_cons {fuel active : ℕ} (h : p.rest = '\x7b' :: '"' :: s) :
    parseObject (fuel + 1) active p = parseMembers fuel active .empty (p.moved 1) := by
  rw [parseObject, advance_next h, ok_bind, skipSpace_cons (rest_next h) (by decide), ok_bind,
    rest_next h]
  rfl

theorem parseArray_nil {fuel active : ℕ} (h : p.rest = '[' :: ']' :: s) :
    parseArray (fuel + 1) active p = .ok (some (.arr []), p.moved 2) := by
  rw [parseArray, advance_next h, ok_bind, skipSpace_cons (rest_next h) (by decide), ok_bind,
    rest_next h]
  change ((p.moved 1).advance 1 >>= _) = _
  rw [advance_next (rest_next h)]
  rfl

theorem parseArray_cons {fuel active : ℕ} (h : p.rest = '[' :: c :: s) (hb : isBlank c = false)
    (hc : c ≠ ']') : parseArray (fuel + 1) active p = parseItems fuel active [] (p.moved 1) := by
  rw [parseArray, advance_next h, ok_bind, skipSpace_cons (rest_next h) hb, ok_bind, rest_next h]
  split
  · next he => exact absurd (List.cons.inj he).1 hc
  · rfl

section Entry

variable {fuel active : ℕ} {key : Text} {value : Json} {m : OrdMap Text Json} {l : List Json}

/-- A member as it is written, up to the character behind it. -/
theorem parseMembers_entry (hk : '\x00' ∉ key) (h : p.rest = jsonQuote key ++ ':' :: (w ++ c :: s))
    (hv : ∀ q : Parser, q.depth = p.depth → q.rest = w ++ c :: s →
      parseValue fuel active q = .ok (some value, q.moved w.length)) (hb : isBlank c = false) :
    parseMembers (fuel + 1) active m p =
      let q := p.moved (jsonQuote key ++ ':' :: w).length
      if c = ',' then do parseMembers fuel active (m.insert key value) (← q.advance 1)
      else if c = '\x7d' then
        return (some (.obj (m.insert key value).entries), ← q.advance 1)
      else return (none, q.fail "expected ',' or '\x7d'") := by
  have h1 : (p.moved (jsonQuote key).length).rest = ':' :: (w ++ c :: s) := rest_moved h
  have h2 := rest_next h1
  have h3 := rest_moved h2
  have hlen : (jsonQuote key).length + (1 + w.length) = (jsonQuote key ++ ':' :: w).length := by
    simp only [List.length_append, List.length_cons]
    omega
  rw [parseMembers, skipSpace_cons (h.trans (jsonQuote_append _ _)) (by decide)]
  change (p.parseString >>= _) = _
  rw [parseString_quoted h hk]
  change ((p.moved _).skipSpace >>= _) = _
  rw [skipSpace_cons h1 (by decide), ok_bind, h1]
  change ((p.moved _).advance 1 >>= _) = _
  rw [advance_next h1]
  change (parseValue fuel active _ >>= _) = _
  rw [hv ((p.moved _).moved 1) rfl h2]
  change ((Parser.moved _ _).skipSpace >>= _) = _
  rw [skipSpace_cons h3 hb, ok_bind, h3, moved_moved, moved_moved, hlen]

/-- An item as it is written, up to the character behind it. -/
theorem parseItems_entry (hv : parseValue fuel active p = .ok (some value, p.moved w.length))
    (h : p.rest = w ++ c :: s) (hb : isBlank c = false) :
    parseItems (fuel + 1) active l p =
      let q := p.moved w.length
      if c = ',' then do parseItems fuel active (l ++ [value]) (← q.advance 1)
      else if c = ']' then return (some (.arr (l ++ [value])), ← q.advance 1)
      else return (none, q.fail "expected ',' or ']'") := by
  have h1 := rest_moved h
  rw [parseItems, hv]
  change ((p.moved _).skipSpace >>= _) = _
  rw [skipSpace_cons h1 hb, ok_bind, h1]

end Entry

end Parser

/-! ## Values -/

/-- Every value starts with a character that is no white space. -/
theorem serialise_cons {v : Json} (hv : v.Sound Prints) :
    ∃ c w, v.serialise = c :: w ∧ Parser.isBlank c = false ∧ c ≠ ']' := by
  cases v with
  | null => exact ⟨_, _, rfl, rfl, by decide⟩
  | bool b => cases b <;> exact ⟨_, _, rfl, rfl, by decide⟩
  | num d =>
    obtain ⟨c, w, hw, hc⟩ := showNumber_cons hv.1
    exact ⟨c, w, by rw [Json.serialise, hw], isBlank_of_startsNumber hc, startsNumber_ne hc rfl⟩
  | str t => exact ⟨_, _, rfl, rfl, by decide⟩
  | obj members => exact ⟨_, _, rfl, rfl, by decide⟩
  | arr items => exact ⟨_, _, rfl, rfl, by decide⟩

theorem insertEntry_last {α β : Type} [LinearOrder α] {k : α} {v : β} {l : List (α × β)}
    (h : ∀ e ∈ l, e.1 < k) : insertEntry k v l = l ++ [(k, v)] := by
  induction l with
  | nil => rfl
  | cons e l ih =>
    have he := h e List.mem_cons_self
    rw [insertEntry, if_neg (not_lt.mpr he.le), if_neg he.ne', ih fun e he => h e
      (List.mem_cons_of_mem _ he), List.cons_append]

/-- The members of an object, as they stand between its braces. -/
def membersText (l : List (Text × Json)) : Text := List.intercalate [','] (Json.serialiseMembers l)

/-- The items of an array, as they stand between its brackets. -/
def itemsText (l : List Json) : Text := List.intercalate [','] (Json.serialiseItems l)

theorem membersText_cons (key : Text) (value : Json) (l : List (Text × Json)) (s : Text) :
    ∃ w, membersText ((key, value) :: l) ++ s = '"' :: w := by
  cases l <;> exact ⟨_, rfl⟩

theorem membersText_one (key : Text) (value : Json) :
    membersText [(key, value)] = jsonQuote key ++ ':' :: value.serialise :=
  List.intercalate_singleton

theorem membersText_cons_cons (key : Text) (value : Json) (e : Text × Json)
    (l : List (Text × Json)) : membersText ((key, value) :: e :: l) =
      jsonQuote key ++ ':' :: (value.serialise ++ ',' :: membersText (e :: l)) := by
  obtain ⟨k, v⟩ := e
  simp [membersText, Json.serialiseMembers, List.intercalate_cons_cons]

theorem itemsText_one (item : Json) : itemsText [item] = item.serialise :=
  List.intercalate_singleton

theorem itemsText_cons_cons (item e : Json) (l : List Json) :
    itemsText (item :: e :: l) = item.serialise ++ ',' :: itemsText (e :: l) := by
  simp [itemsText, Json.serialiseItems, List.intercalate_cons_cons]

theorem itemsText_cons {item : Json} (hi : item.Sound Prints) (l : List Json) (s : Text) :
    ∃ c w, itemsText (item :: l) ++ s = c :: w ∧ Parser.isBlank c = false ∧ c ≠ ']' := by
  obtain ⟨c, w, hw, hb, hc⟩ := serialise_cons hi
  cases l with
  | nil => exact ⟨c, w ++ s, by rw [itemsText_one, hw, List.cons_append], hb, hc⟩
  | cons e l => exact ⟨c, _, by rw [itemsText_cons_cons, hw]; rfl, hb, hc⟩

theorem serialise_obj (l : List (Text × Json)) :
    (Json.obj l).serialise = '\x7b' :: (membersText l ++ ['\x7d']) := by
  rw [Json.serialise, List.cons_append]
  rfl

theorem serialise_arr (l : List Json) : (Json.arr l).serialise = '[' :: (itemsText l ++ [']']) := by
  rw [Json.serialise, List.cons_append]
  rfl

theorem length_serialise_obj (l : List (Text × Json)) :
    (Json.obj l).serialise.length = 1 + ((membersText l).length + 1) := by
  rw [serialise_obj, List.length_cons, List.length_append, Nat.add_comm]
  rfl

theorem length_serialise_arr (l : List Json) :
    (Json.arr l).serialise.length = 1 + ((itemsText l).length + 1) := by
  rw [serialise_arr, List.length_cons, List.length_append, Nat.add_comm]
  rfl

theorem length_entry {p q : Parser} {c : Char} {s w : Text} (h : p.rest = w ++ c :: s)
    (hr : q.rest = s) : q.rest.length < p.rest.length := by
  rw [h, hr, List.length_append, List.length_cons]
  omega

theorem stops_comma {s : Text} : Stops (',' :: s) := by
  rintro c ⟨⟩
  rfl

theorem stops_brace {s : Text} : Stops ('\x7d' :: s) := by
  rintro c ⟨⟩
  rfl

theorem stops_bracket {s : Text} : Stops (']' :: s) := by
  rintro c ⟨⟩
  rfl

theorem insert_entries_last {m : OrdMap Text Json} {key : Text} {value : Json}
    {l : List (Text × Json)} (h : KeySorted (m.entries ++ (key, value) :: l)) :
    (m.insert key value).entries = m.entries ++ [(key, value)] :=
  insertEntry_last fun e he => (List.pairwise_append.mp h).2.2 e he (key, value) List.mem_cons_self

section Descent

open Ravenna.Parser

mutual

/-- **A written value is read back**, whatever text that cannot go on a number follows it. -/
theorem parseValue_serialise : ∀ (v : Json) (fuel : ℕ) {p : Parser} {s : Text}, v.Sound Prints →
    Stops s → p.depth + v.levels ≤ kMaxNestingDepth → p.rest = v.serialise ++ s →
    3 * p.rest.length + 3 ≤ fuel →
    parseValue fuel p.depth p = .ok (some v, p.moved v.serialise.length)
  | .null, fuel + 1, p, s, _, _, _, h, _ => by
    rw [parseValue_cons h (by decide)]
    exact @literal_append _ _ "null" .null (by decide) h
  | .bool true, fuel + 1, p, s, _, _, _, h, _ => by
    rw [parseValue_cons h (by decide)]
    exact @literal_append _ _ "true" (.bool true) (by decide) h
  | .bool false, fuel + 1, p, s, _, _, _, h, _ => by
    rw [parseValue_cons h (by decide)]
    exact @literal_append _ _ "false" (.bool false) (by decide) h
  | .num d, fuel + 1, p, s, hv, hs, _, h, _ => by
    obtain ⟨c, w, hw, hc⟩ := showNumber_cons hv.1
    have hd := hv.2
    rw [Json.serialise, hw] at h ⊢
    rw [hw] at hd
    exact parseValue_number hd hc hs h
  | .str t, fuel + 1, p, s, hv, _, _, h, _ => by
    rw [parseValue_cons (h.trans (jsonQuote_append t s)) (by decide)]
    change (p.parseString >>= _) = _
    rw [parseString_quoted h hv]
    rfl
  | .obj [], fuel + 2, p, s, _, _, hd, h, _ => by
    rw [parseValue_open h hd]
    exact deeper_eq (parseObject_nil h)
  | .obj ((key, value) :: members), fuel + 2, p, s, hv, hs, hd, h, hf => by
    rw [Json.levels] at hd
    rw [serialise_obj, List.cons_append, List.append_assoc] at h
    obtain ⟨w, hw⟩ := membersText_cons key value members ('\x7d' :: s)
    have hlen : p.rest.length = (Parser.moved { p with depth := p.depth + 1 } 1).rest.length + 1 :=
      (congrArg List.length h).trans (congrArg (·.length + 1) (rest_next h).symm)
    rw [parseValue_open h (by omega)]
    refine deeper_eq ((parseObject_cons (p := { p with depth := p.depth + 1 })
      (h.trans (congrArg _ hw))).trans ?_)
    rw [length_serialise_obj, ← moved_moved]
    refine parseMembers_serialise ((key, value) :: members) fuel
      (p := ({ p with depth := p.depth + 1 } : Parser).moved 1) (m := .empty)
      (List.cons_ne_nil _ _) hv.2 hv.1 ?_ (rest_next h) (by omega)
    change p.depth + 1 + _ ≤ _
    omega
  | .arr [], fuel + 2, p, s, _, _, hd, h, _ => by
    rw [parseValue_bracket h hd]
    exact deeper_eq (parseArray_nil h)
  | .arr (item :: items), fuel + 2, p, s, hv, hs, hd, h, hf => by
    rw [Json.levels] at hd
    rw [serialise_arr, List.cons_append, List.append_assoc] at h
    obtain ⟨c, w, hw, hb, hc⟩ := itemsText_cons hv.1 items (']' :: s)
    have hlen : p.rest.length = (Parser.moved { p with depth := p.depth + 1 } 1).rest.length + 1 :=
      (congrArg List.length h).trans (congrArg (·.length + 1) (rest_next h).symm)
    rw [parseValue_bracket h (by omega)]
    refine deeper_eq ((parseArray_cons (p := { p with depth := p.depth + 1 })
      (h.trans (congrArg _ hw)) hb hc).trans ?_)
    rw [length_serialise_arr, ← moved_moved]
    refine parseItems_serialise (item :: items) fuel
      (p := ({ p with depth := p.depth + 1 } : Parser).moved 1) (a := []) (List.cons_ne_nil _ _) hv ?_
      (rest_next h) (by omega)
    change p.depth + 1 + _ ≤ _
    omega
  | .null, 0, p, s, _, _, _, _, hf => absurd hf (by omega)
  | .bool true, 0, p, s, _, _, _, _, hf => absurd hf (by omega)
  | .bool false, 0, p, s, _, _, _, _, hf => absurd hf (by omega)
  | .num d, 0, p, s, _, _, _, _, hf => absurd hf (by omega)
  | .str d, 0, p, s, _, _, _, _, hf => absurd hf (by omega)
  | .obj l, 0, p, s, _, _, _, _, hf => absurd hf (by omega)
  | .obj l, 1, p, s, _, _, _, _, hf => absurd hf (by omega)
  | .arr l, 0, p, s, _, _, _, _, hf => absurd hf (by omega)
  | .arr l, 1, p, s, _, _, _, _, hf => absurd hf (by omega)

/-- The members of an object that is open. -/
theorem parseMembers_serialise : ∀ (l : List (Text × Json)) (fuel : ℕ) {p : Parser} {s : Text}
    {m : OrdMap Text Json}, l ≠ [] → Json.SoundMembers Prints l → KeySorted (m.entries ++ l) →
    p.depth + Json.levelsMembers l ≤ kMaxNestingDepth → p.rest = membersText l ++ '\x7d' :: s →
    3 * p.rest.length + 4 ≤ fuel →
    parseMembers fuel p.depth m p =
      .ok (some (.obj (m.entries ++ l)), p.moved ((membersText l).length + 1))
  | [], fuel, p, s, m, h0, _, _, _, _, _ => absurd rfl h0
  | [(key, value)], fuel + 1, p, s, m, _, hl, hm, hd, h, hf => by
    rw [Json.levelsMembers] at hd
    rw [membersText_one, List.append_assoc, List.cons_append] at h
    have hv : ∀ q : Parser, q.depth = p.depth → q.rest = value.serialise ++ '\x7d' :: s →
        parseValue fuel p.depth q = .ok (some value, q.moved value.serialise.length) := by
      intro q hq hr
      have hlen := length_entry h hr
      rw [← hq]
      exact parseValue_serialise value fuel hl.2.1 stops_brace (by omega) hr (by omega)
    have h' : p.rest = (jsonQuote key ++ ':' :: value.serialise) ++ '\x7d' :: s :=
      h.trans (by simp)
    rw [parseMembers_entry hl.1 h hv (by decide), if_neg (by decide), if_pos rfl,
      advance_next (rest_moved h')]
    change Except.ok _ = _
    rw [insert_entries_last hm, moved_moved, membersText_one]
  | (key, value) :: e :: l, fuel + 1, p, s, m, _, hl, hm, hd, h, hf => by
    rw [Json.levelsMembers] at hd
    rw [membersText_cons_cons, List.append_assoc, List.cons_append, List.append_assoc,
      List.cons_append] at h
    have hv : ∀ q : Parser, q.depth = p.depth →
        q.rest = value.serialise ++ ',' :: (membersText (e :: l) ++ '\x7d' :: s) →
        parseValue fuel p.depth q = .ok (some value, q.moved value.serialise.length) := by
      intro q hq hr
      have hlen := length_entry h hr
      rw [← hq]
      exact parseValue_serialise value fuel hl.2.1 stops_comma (by omega) hr (by omega)
    have h' : p.rest = (jsonQuote key ++ ':' :: value.serialise) ++
        ',' :: (membersText (e :: l) ++ '\x7d' :: s) := h.trans (by simp)
    have hnext := rest_next (rest_moved h')
    have hlen := length_entry h' hnext
    rw [parseMembers_entry hl.1 h hv (by decide), if_pos rfl, advance_next (rest_moved h')]
    have hm' : KeySorted ((m.insert key value).entries ++ e :: l) := by
      rw [insert_entries_last hm, List.append_assoc]
      exact hm
    refine (parseMembers_serialise (e :: l) fuel (List.cons_ne_nil _ _) hl.2.2 hm' ?_ hnext ?_).trans ?_
    · change p.depth + _ ≤ _
      omega
    · omega
    · rw [insert_entries_last hm, moved_moved, moved_moved, membersText_cons_cons,
        List.append_assoc]
      refine congrArg (fun n => Except.ok (_, p.moved n)) ?_
      simp only [List.length_append, List.length_cons]
      omega
  | l, 0, p, s, m, _, _, _, _, _, hf => absurd hf (by omega)

/-- The items of an array that is open. -/
theorem parseItems_serialise : ∀ (l : List Json) (fuel : ℕ) {p : Parser} {s : Text}
    {a : List Json}, l ≠ [] → Json.SoundItems Prints l →
    p.depth + Json.levelsItems l ≤ kMaxNestingDepth → p.rest = itemsText l ++ ']' :: s →
    3 * p.rest.length + 4 ≤ fuel →
    parseItems fuel p.depth a p =
      .ok (some (.arr (a ++ l)), p.moved ((itemsText l).length + 1))
  | [], fuel, p, s, a, h0, _, _, _, _ => absurd rfl h0
  | [item], fuel + 1, p, s, a, _, hl, hd, h, hf => by
    rw [Json.levelsItems] at hd
    rw [itemsText_one] at h ⊢
    have hv := parseValue_serialise item fuel hl.1 stops_bracket (by omega) h (by omega)
    rw [parseItems_entry hv h (by decide), if_neg (by decide), if_pos rfl,
      advance_next (rest_moved h)]
    change Except.ok _ = _
    rw [moved_moved]
  | item :: e :: l, fuel + 1, p, s, a, _, hl, hd, h, hf => by
    rw [Json.levelsItems] at hd
    rw [itemsText_cons_cons, List.append_assoc, List.cons_append] at h
    have hv := parseValue_serialise item fuel hl.1 stops_comma (by omega) h (by omega)
    have hnext := rest_next (rest_moved h)
    have hlen := length_entry h hnext
    rw [parseItems_entry hv h (by decide), if_pos rfl, advance_next (rest_moved h)]
    refine (parseItems_serialise (e :: l) fuel (List.cons_ne_nil _ _) hl.2 ?_ hnext ?_).trans ?_
    · change p.depth + _ ≤ _
      omega
    · omega
    · rw [moved_moved, moved_moved, itemsText_cons_cons, List.append_assoc]
      refine congrArg (fun n => Except.ok (_, p.moved n)) ?_
      simp only [List.length_append, List.length_cons]
      omega
  | l, 0, p, s, a, _, _, _, _, hf => absurd hf (by omega)

end

end Descent

/-! ## Whole texts -/

/-- **Every value that keeps is read back from what is written of it.** -/
theorem parseJson_serialise {v : Json} (hv : v.Sound Prints)
    (hd : v.levels ≤ kMaxNestingDepth) : parseJson v.serialise = .ok (.ok v) := by
  have h : (Parser.rest { text := v.serialise }) = v.serialise ++ [] := (List.append_nil _).symm
  have hrun := parseValue_serialise v (Parser.fuelFor v.serialise.length) (p := { text := v.serialise })
    hv stops_nil (by simpa using hd) h le_rfl
  have hskip : (Parser.moved { text := v.serialise } v.serialise.length).skipSpace =
      .ok (Parser.moved { text := v.serialise } v.serialise.length) := by
    rw [Parser.skipSpace, Parser.rest_moved h, Parser.advance, if_pos (by simp [Parser.moved])]
    rfl
  rw [parseJson, Parser.run]
  change ((Parser.parseValue _ 0 _ >>= _).map _) = _
  rw [show (0 : ℕ) = (Parser.depth { text := v.serialise }) from rfl, hrun]
  change ((Parser.skipSpace _ >>= _).map _) = _
  rw [hskip]
  change Except.map _ (if _ then _ else _) = _
  rw [if_neg (by simp [Parser.moved])]
  rfl

theorem Whole15.prints {d : Double} (h : Whole15 d) : Prints d := by
  obtain ⟨n, hn, rfl⟩ := h
  have hshow : showNumber (.fin n) = showInt n := by
    rw [showNumber, if_pos ⟨Rat.den_intCast n, by exact_mod_cast hn⟩, Rat.num_intCast]
  have hlt : n.natAbs < 2 ^ 53 := by
    rw [Int.abs_eq_natAbs] at hn
    omega
  exact ⟨nofun, by rw [hshow, strtod_showInt hlt]⟩

mutual

theorem Json.Sound.mono {P Q : Double → Prop} (h : ∀ d, P d → Q d) :
    ∀ v : Json, v.Sound P → v.Sound Q
  | .null, _ => trivial
  | .bool _, _ => trivial
  | .num d, hv => h d hv
  | .str _, hv => hv
  | .obj members, hv => ⟨hv.1, soundMembers_mono h members hv.2⟩
  | .arr items, hv => soundItems_mono h items hv

theorem Json.soundMembers_mono {P Q : Double → Prop} (h : ∀ d, P d → Q d) :
    ∀ l : List (Text × Json), Json.SoundMembers P l → Json.SoundMembers Q l
  | [], _ => trivial
  | (_, value) :: l, hl =>
    ⟨hl.1, Json.Sound.mono h value hl.2.1, soundMembers_mono h l hl.2.2⟩

theorem Json.soundItems_mono {P Q : Double → Prop} (h : ∀ d, P d → Q d) :
    ∀ l : List Json, Json.SoundItems P l → Json.SoundItems Q l
  | [], _ => trivial
  | item :: l, hl => ⟨Json.Sound.mono h item hl.1, soundItems_mono h l hl.2⟩

end

/-- **The round trip** of values whose numbers are whole and below 10^15. -/
theorem parseJson_serialise_whole (v : Json) (hv : v.Sound Whole15)
    (hd : v.levels ≤ kMaxNestingDepth) : parseJson v.serialise = .ok (.ok v) :=
  parseJson_serialise (Json.Sound.mono (fun _ => Whole15.prints) v hv) hd

theorem parseJson_serialise_request :
    parseJson (Json.obj [("id".toList, .str "a\"\n".toList),
        ("params".toList, .arr [.num (.fin 5004), .null])]).serialise =
      .ok (.ok (.obj [("id".toList, .str "a\"\n".toList),
        ("params".toList, .arr [.num (.fin 5004), .null])])) :=
  parseJson_serialise_whole _
    ⟨List.pairwise_pair.mpr (by decide), by decide, (by decide : '\x00' ∉ "a\"\n".toList), by decide,
      ⟨⟨5004, by decide, rfl⟩, trivial, trivial⟩, trivial⟩ (by decide)

end Aes67.Ravenna
