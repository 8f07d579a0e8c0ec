import Aes67.Lib.JsonText
import Aes67.Lib.Outcome
import Aes67.Ravenna.Connection
import Aes67.Ravenna.JsonParser

/-!
# Which texts the parser takes

`parseJson` leaves numbers to `strtod` and the digits of a `\u` to `strtol`, and copies what stands
in a string. It still takes nothing that is not built like a JSON text: what may be wrong is the
inside of a token.

* `Document.read`: what the parser makes of a document;
* `Reads`: the five functions leave behind them the tokens of what they return;
* `Json.Numbers`: the numbers of a value;
* **`accepted_document`**: an accepted text is a document, and the value is what it is read as;
* **`nanBody_accepted`**: a `NaN` for a port.
-/

namespace Aes67.Ravenna

open JsonText

/-! ## Reading a document -/

/-- What the characters of a string are read as. -/
def readRaw (raw : Text) : Option Text :=
  match readChars (raw ++ ['"']) with
  | (.ok value, []) => some value
  | _ => none

/-- What a word is read as: a literal name, or what `strtod` takes whole. -/
def readWord (w : Text) : Option Json :=
  if w = "true".toList then some (.bool true)
  else if w = "false".toList then some (.bool false)
  else if w = "null".toList then some .null
  else match strtod w with
    | some (value, []) => some (.num value)
    | _ => none

mutual

/-- What a document is read as. -/
def readDocument : Document → Option Json
  | .word w => readWord w
  | .quoted raw => (readRaw raw).map .str
  | .obj members => (readMembers .empty members).map fun m => .obj m.entries
  | .arr items => (readItems items).map .arr

/-- The members of an object on top of others; the last of a name stands. -/
def readMembers : OrdMap Text Json → List (Text × Document) → Option (OrdMap Text Json)
  | m, [] => some m
  | m, (raw, value) :: members =>
    match readRaw raw, readDocument value with
    | some key, some v => readMembers (m.insert key v) members
    | _, _ => none

def readItems : List Document → Option (List Json)
  | [] => some []
  | item :: items =>
    match readDocument item, readItems items with
    | some v, some vs => some (v :: vs)
    | _, _ => none

end

/-! ## Strings -/

theorem ok_of_map_ok {ε α β : Type} {f : α → β} {x : Except ε α} {b : β} (h : x.map f = .ok b) :
    ∃ a, x = .ok a ∧ f a = b := by
  cases x with
  | error e => cases h
  | ok a =>
    cases h
    exact ⟨a, rfl, rfl⟩

/-- What the loop of `parseString` takes is a string in itself. -/
theorem closing_of_readChars {s out : Text} (h : (readChars s).1 = .ok out) :
    ∃ raw, closing s = some (raw, (readChars s).2) ∧ readChars (raw ++ ['"']) = (.ok out, []) := by
  induction s using readChars.induct generalizing out with
  | case1 => cases h
  | case2 s =>
    rw [readChars_quote] at h
    cases h
    exact ⟨[], by rw [closing_quote, readChars_quote], readChars_quote []⟩
  | case3 c s hq hb _ _ _ ih =>
    rw [readChars_plain hq hb] at h ⊢
    obtain ⟨a, ha, rfl⟩ := ok_of_map_ok h
    obtain ⟨raw, hraw, hread⟩ := ih ha
    refine ⟨c :: raw, by rw [closing_plain hq hb, hraw, Option.map_some], ?_⟩
    rw [List.cons_append, readChars_plain hq hb, hread]
    rfl
  | case4 c hq hb =>
    obtain rfl := not_not.mp hb
    cases h
  | case5 c hq hb c1 c2 c3 c4 s _ _ _ ih =>
    obtain rfl := not_not.mp hb
    rw [readChars_unicode] at h ⊢
    obtain ⟨a, ha, rfl⟩ := ok_of_map_ok h
    obtain ⟨raw, hraw, hread⟩ := ih ha
    refine ⟨'\\' :: 'u' :: c1 :: c2 :: c3 :: c4 :: raw, by rw [closing_unicode, hraw, Option.map_some], ?_⟩
    simp only [List.cons_append]
    rw [readChars_unicode, hread]
    rfl
  | case6 c hq hb s hs =>
    obtain rfl := not_not.mp hb
    rcases s with _ | ⟨c1, _ | ⟨c2, _ | ⟨c3, _ | ⟨c4, s⟩⟩⟩⟩
    · cases h
    · cases h
    · cases h
    · cases h
    · exact (hs c1 c2 c3 c4 s rfl).elim
  | case7 c hq hb e s he x hx _ _ _ ih =>
    obtain rfl := not_not.mp hb
    rw [readChars_escape he hx] at h ⊢
    obtain ⟨a, ha, rfl⟩ := ok_of_map_ok h
    obtain ⟨raw, hraw, hread⟩ := ih ha
    refine ⟨'\\' :: e :: raw, by rw [closing_escape he, hraw, Option.map_some], ?_⟩
    simp only [List.cons_append]
    rw [readChars_escape he hx, hread]
    rfl
  | case8 c hq hb e s he hx =>
    obtain rfl := not_not.mp hb
    rw [readChars_unknown he hx] at h
    cases h

namespace Parser

variable {p q : Parser} {fuel active : ℕ} {c : Char} {s : Text}

/-! ## Steps -/

theorem yields_advance (n : ℕ) : Yields (p.advance n) fun q => q.rest = p.rest.drop n := by
  unfold advance
  split_ifs
  · refine .ok ?_
    rw [rest, rest, List.drop_drop]
    rfl
  · exact .error

theorem yields_next (h : p.rest = c :: s) : Yields (p.advance 1) fun q => q.rest = s := by
  refine (yields_advance 1).mono fun q hq => ?_
  rw [hq, h, List.drop_one, List.tail_cons]

theorem isSpace_of_isBlank {c : Char} (h : isBlank c = true) : isSpace c = true :=
  isSpace_of_isWhite h

theorem yields_skipSpace : Yields p.skipSpace fun q => q.rest = p.rest.dropWhile isBlank := by
  refine (yields_advance _).mono fun q hq => ?_
  conv at hq => rhs; arg 2; rw [← List.takeWhile_append_dropWhile (p := isBlank) (l := p.rest)]
  rw [hq, List.drop_left]

theorem leads_skipSpace (h : q.rest = p.rest.dropWhile isBlank) : Leads p.rest q.rest [] :=
  h ▸ Leads.dropWhile (fun _ => isSpace_of_isBlank) p.rest

theorem boundary_skipSpace (h : q.rest = p.rest.dropWhile isBlank) (hb : Boundary q.rest) :
    Boundary p.rest :=
  boundary_of_dropWhile (fun _ => isSpace_of_isBlank) (h ▸ hb)

/-! ## The descent -/

/-- A value that came of a document, whose tokens stand between the two places if no word goes on
at the second. -/
def Read (p : Parser) (r : Option Json × Parser) : Prop :=
  ∀ v, r.1 = some v → Boundary r.2.rest →
    ∃ d : Document, readDocument d = some v ∧ Leads p.rest r.2.rest d.tokens

/-- Members that came of a part of an object. -/
def ReadMembers (m : OrdMap Text Json) (p : Parser) (r : Option Json × Parser) : Prop :=
  ∀ v, r.1 = some v → ∃ e es m', readMembers m (e :: es) = some m' ∧ v = .obj m'.entries ∧
    Leads p.rest r.2.rest
      ([.mark ','].intercalate (Document.memberTokens (e :: es)) ++ [.mark '\x7d'])

/-- Items that came of a part of an array. -/
def ReadItems (l : List Json) (p : Parser) (r : Option Json × Parser) : Prop :=
  ∀ v, r.1 = some v → ∃ e es vs, readItems (e :: es) = some vs ∧ v = .arr (l ++ vs) ∧
    Leads p.rest r.2.rest
      ([.mark ','].intercalate (Document.itemTokens (e :: es)) ++ [.mark ']'])

theorem Read.shift {r : Option Json × Parser} (h : Leads p.rest q.rest []) (hr : Read q r) :
    Read p r := fun v hv hb => by
  obtain ⟨d, hd, hleads⟩ := hr v hv hb
  exact ⟨d, hd, h.trans hleads⟩

theorem read_none (q : Parser) : Read p (none, q) := nofun

theorem readMembers_none (m : OrdMap Text Json) (q : Parser) : ReadMembers m p (none, q) := nofun

theorem readItems_none (l : List Json) (q : Parser) : ReadItems l p (none, q) := nofun

theorem yields_literal {word : String} {value : Json} (hw : word.toList.all isWordChar = true)
    (h0 : word.toList ≠ []) (hread : readWord word.toList = some value) :
    Yields (p.literal word value) (Read p) := by
  unfold literal
  split_ifs with h
  · obtain ⟨s, hs⟩ := List.isPrefixOf_iff_prefix.mp h
    refine (yields_advance _).bind fun q hq => .pure ?_
    rw [← hs, List.drop_left] at hq
    rintro v hv hb
    cases hv
    refine ⟨.word word.toList, hread, ?_⟩
    dsimp only at hb ⊢
    rw [hq] at hb ⊢
    rw [← hs]
    exact .word h0 (List.all_eq_true.mp hw) hb
  · exact .pure (read_none _)

theorem isWordChar_of_isBody {c : Char} (h : isBody c = true) : isWordChar c = true := by
  have hne : ∀ x, isBody x = false → c ≠ x := by
    rintro x hx rfl
    rw [hx] at h
    cases h
  simp [isWordChar, isSpace, isMark, hne _ (by decide : isBody ' ' = false),
    hne _ (by decide : isBody '\t' = false), hne _ (by decide : isBody '\n' = false),
    hne _ (by decide : isBody '\r' = false), hne _ (by decide : isBody '\x0c' = false),
    hne _ (by decide : isBody '\x0b' = false), hne _ (by decide : isBody '\x7b' = false),
    hne _ (by decide : isBody '\x7d' = false), hne _ (by decide : isBody '[' = false),
    hne _ (by decide : isBody ']' = false), hne _ (by decide : isBody ':' = false),
    hne _ (by decide : isBody ',' = false), hne _ (by decide : isBody '"' = false)]

theorem noBody_of_boundary (h : Boundary s) : NoBody s := fun c hc => by
  by_contra hbody
  rw [Bool.not_eq_false] at hbody
  have hword := h c hc
  rw [isWordChar_of_isBody hbody] at hword
  cases hword

/-- A word that `strtod` takes whole is no literal name. -/
theorem readWord_of_strtod {w : Text} {d : Double} (h : strtod w = some (d, [])) :
    readWord w = some (.num d) := by
  have hne : ∀ name, strtod name = none → w ≠ name := by
    rintro name hnone rfl
    rw [hnone] at h
    cases h
  rw [readWord, if_neg (hne _ (by decide)), if_neg (hne _ (by decide)),
    if_neg (hne _ (by decide)), h]

theorem yields_parseNumber : Yields p.parseNumber (Read p) := by
  unfold parseNumber
  split
  · exact .pure (read_none _)
  · next d t h =>
    obtain ⟨taken, htaken, -⟩ := strtod_taken h
    have hlen : p.rest.length - t.length = taken.length := by
      rw [htaken, List.length_append, Nat.add_sub_cancel]
    refine (yields_advance _).bind fun q hq => .pure ?_
    rw [hlen, htaken, List.drop_left] at hq
    rintro v hv hb
    cases hv
    dsimp only at hb ⊢
    rw [hq] at hb ⊢
    obtain ⟨w, hw, hbody, hread⟩ := strtod_alone h (noBody_of_boundary hb)
    have h0 : w ≠ [] := by
      rintro rfl
      cases hread
    refine ⟨.word w, readWord_of_strtod hread, ?_⟩
    have hspace := Leads.dropWhile (p := isSpace) (fun _ => id) p.rest
    rw [hw] at hspace
    exact hspace.trans (.word h0 (fun c hc => isWordChar_of_isBody (hbody c hc)) hb)

theorem yields_parseString : Yields p.parseString fun r => ∀ key, r.1 = some key →
    ∃ raw, readRaw raw = some key ∧ Leads p.rest r.2.rest [.quoted raw] := by
  unfold parseString
  split
  · next s hs =>
    refine (yields_advance _).bind fun q hq => ?_
    split
    · next value hv =>
      refine .pure ?_
      rintro key hkey
      cases hkey
      obtain ⟨raw, hraw, hread⟩ := closing_of_readChars hv
      refine ⟨raw, by rw [readRaw, hread], ?_⟩
      have hsplit := eq_of_closing hraw
      generalize (readChars s).2 = rest at hq hraw hsplit
      have hwhole : '"' :: s = ('"' :: raw ++ ['"']) ++ rest := by simp [hsplit]
      have hlen : 1 + (s.length - rest.length) = ('"' :: raw ++ ['"']).length := by
        simp only [hsplit, List.length_append, List.length_cons, List.length_nil]
        omega
      rw [hlen, hs, hwhole, List.drop_left] at hq
      dsimp only
      rw [hs, hq]
      exact .quoted hraw
    · exact .pure nofun
  · exact .pure nofun

/-- The five functions, with so many calls left. -/
structure Reads (fuel : ℕ) : Prop where
  value (active : ℕ) (p : Parser) : Yields (parseValue fuel active p) (Read p)
  object {p : Parser} {s : Text} (active : ℕ) : p.rest = '\x7b' :: s →
    Yields (parseObject fuel active p) (Read p)
  members (active : ℕ) (m : OrdMap Text Json) (p : Parser) :
    Yields (parseMembers fuel active m p) (ReadMembers m p)
  array {p : Parser} {s : Text} (active : ℕ) : p.rest = '[' :: s →
    Yields (parseArray fuel active p) (Read p)
  items (active : ℕ) (l : List Json) (p : Parser) :
    Yields (parseItems fuel active l p) (ReadItems l p)

theorem yields_deeper {call : Parser → Except Fault (Option Json × Parser)}
    (hcall : Yields (call { p with depth := p.depth + 1 }) (Read { p with depth := p.depth + 1 })) :
    Yields (p.deeper call) (Read p) :=
  hcall.bind fun _ hr => .pure hr

theorem Reads.value_succ (h : Reads fuel) (active : ℕ) (p : Parser) :
    Yields (parseValue (fuel + 1) active p) (Read p) := by
  rw [parseValue]
  refine yields_skipSpace.bind fun q hq => ?_
  have hlift : ∀ {x : Option Json × Parser}, Read q x → Read p x :=
    fun hx => hx.shift (leads_skipSpace hq)
  split
  · exact .pure (read_none _)
  · next c s hs =>
    split_ifs with hc hd ha hb hquote
    · exact .pure (read_none _)
    · exact .error
    · subst hb
      exact (yields_deeper (h.object (active + 1) hs)).mono fun _ => hlift
    · obtain rfl := hc.resolve_left hb
      exact (yields_deeper (h.array (active + 1) hs)).mono fun _ => hlift
    · refine yields_parseString.bind fun x hx => .pure (hlift ?_)
      rintro v hv -
      obtain ⟨key, hkey, rfl⟩ := Option.map_eq_some_iff.mp hv
      obtain ⟨raw, hraw, hleads⟩ := hx key hkey
      exact ⟨.quoted raw, by rw [readDocument, hraw]; rfl, hleads⟩
    · exact (yields_literal (by decide) (by decide) rfl).mono fun _ => hlift
    · exact (yields_literal (by decide) (by decide) rfl).mono fun _ => hlift
    · exact (yields_literal (by decide) (by decide) rfl).mono fun _ => hlift
    · exact yields_parseNumber.mono fun _ => hlift

theorem Reads.object_succ (h : Reads fuel) (active : ℕ) (hc : p.rest = '\x7b' :: s) :
    Yields (parseObject (fuel + 1) active p) (Read p) := by
  rw [parseObject]
  refine (yields_next hc).bind fun q hq => yields_skipSpace.bind fun r hr => ?_
  have hopen : Leads p.rest r.rest [.mark '\x7b'] := by
    rw [hc, ← hq]
    exact (Leads.mark (by decide)).trans (leads_skipSpace hr)
  split
  · next s' hs =>
    refine (yields_next hs).bind fun t ht => .pure ?_
    rintro v hv -
    cases hv
    refine ⟨.obj [], rfl, hopen.trans ?_⟩
    rw [hs, ht]
    exact .mark (by decide)
  · refine (h.members active .empty r).mono fun x hx => ?_
    rintro v hv -
    obtain ⟨e, es, m, hm, rfl, hleads⟩ := hx v hv
    exact ⟨.obj (e :: es), by rw [readDocument, hm]; rfl, hopen.trans hleads⟩

theorem Reads.array_succ (h : Reads fuel) (active : ℕ) (hc : p.rest = '[' :: s) :
    Yields (parseArray (fuel + 1) active p) (Read p) := by
  rw [parseArray]
  refine (yields_next hc).bind fun q hq => yields_skipSpace.bind fun r hr => ?_
  have hopen : Leads p.rest r.rest [.mark '['] := by
    rw [hc, ← hq]
    exact (Leads.mark (by decide)).trans (leads_skipSpace hr)
  split
  · next s' hs =>
    refine (yields_next hs).bind fun t ht => .pure ?_
    rintro v hv -
    cases hv
    refine ⟨.arr [], rfl, hopen.trans ?_⟩
    rw [hs, ht]
    exact .mark (by decide)
  · refine (h.items active [] r).mono fun x hx => ?_
    rintro v hv -
    obtain ⟨e, es, vs, hvs, rfl, hleads⟩ := hx v hv
    exact ⟨.arr (e :: es), by rw [readDocument, hvs]; rfl, hopen.trans hleads⟩

/-- A value with the character behind it, which is none of a word. -/
theorem Read.followed {x : Option Json × Parser} {v : Json} (hx : Read p x) (hv : x.1 = some v)
    (hr : q.rest = x.2.rest.dropWhile isBlank) (hs : q.rest = c :: s) (hc : isMark c = true) :
    ∃ d : Document, readDocument d = some v ∧ Leads p.rest s (d.tokens ++ [.mark c]) := by
  have hb : Boundary q.rest := hs ▸ boundary_mark hc s
  obtain ⟨d, hd, hleads⟩ := hx v hv (boundary_skipSpace hr hb)
  have hnext := leads_skipSpace hr
  rw [hs] at hnext
  refine ⟨d, hd, hleads.trans ?_⟩
  exact hnext.trans (.mark hc)

theorem Reads.items_succ (h : Reads fuel) (active : ℕ) (l : List Json) (p : Parser) :
    Yields (parseItems (fuel + 1) active l p) (ReadItems l p) := by
  rw [parseItems]
  refine (h.value active p).bind fun x hx => ?_
  obtain ⟨out, q⟩ := x
  cases out with
  | none => exact .pure (readItems_none l q)
  | some value =>
    refine yields_skipSpace.bind fun r hr => ?_
    split
    · exact .pure (readItems_none l _)
    · next c s hs =>
      split_ifs with hcomma hclose
      · subst hcomma
        obtain ⟨d, hd, hleads⟩ := hx.followed rfl hr hs (by decide)
        refine (yields_next hs).bind fun t ht => (h.items active _ t).mono fun y hy => ?_
        rintro v hv
        obtain ⟨e, es, vs, hvs, rfl, hrest⟩ := hy v hv
        refine ⟨d, e :: es, value :: vs, by rw [readItems, hd, hvs], by simp, ?_⟩
        rw [ht] at hrest
        have hall := hleads.trans hrest
        rw [Document.itemTokens_cons_cons]
        simpa only [List.append_assoc, List.cons_append, List.nil_append] using hall
      · subst hclose
        obtain ⟨d, hd, hleads⟩ := hx.followed rfl hr hs (by decide)
        refine (yields_next hs).bind fun t ht => .pure ?_
        rintro v hv
        cases hv
        refine ⟨d, [], [value], by rw [readItems, hd]; rfl, rfl, ?_⟩
        rw [Document.itemTokens_singleton, ht]
        exact hleads
      · exact .pure (readItems_none l _)

theorem Reads.members_succ (h : Reads fuel) (active : ℕ) (m : OrdMap Text Json) (p : Parser) :
    Yields (parseMembers (fuel + 1) active m p) (ReadMembers m p) := by
  rw [parseMembers]
  refine yields_skipSpace.bind fun p1 h1 => yields_parseString.bind fun x h2 => ?_
  obtain ⟨key, p2⟩ := x
  cases key with
  | none => exact .pure (readMembers_none m p2)
  | some key =>
    obtain ⟨raw, hraw, hkey⟩ := h2 key rfl
    refine yields_skipSpace.bind fun p3 h3 => ?_
    split
    · next s3 hs3 =>
      refine (yields_next hs3).bind fun p4 h4 => (h.value active p4).bind fun y hy => ?_
      have hname : Leads p.rest p4.rest [.quoted raw, .mark ':'] := by
        have hcolon := leads_skipSpace h3
        rw [hs3] at hcolon
        rw [h4]
        exact (leads_skipSpace h1).trans (hkey.trans (hcolon.trans (.mark (by decide))))
      obtain ⟨out, q⟩ := y
      cases out with
      | none => exact .pure (readMembers_none m q)
      | some value =>
        refine yields_skipSpace.bind fun r hr => ?_
        split
        · exact .pure (readMembers_none m _)
        · next c s hs =>
          split_ifs with hcomma hclose
          · subst hcomma
            obtain ⟨d, hd, hleads⟩ := hy.followed rfl hr hs (by decide)
            refine (yields_next hs).bind fun t ht => (h.members active _ t).mono fun z hz => ?_
            rintro v hv
            obtain ⟨e, es, m', hm', rfl, hrest⟩ := hz v hv
            refine ⟨(raw, d), e :: es, m', by rw [readMembers, hraw, hd]; exact hm', rfl, ?_⟩
            rw [ht] at hrest
            have hall := hname.trans (hleads.trans hrest)
            rw [Document.memberTokens_cons_cons]
            simpa only [List.append_assoc, List.cons_append, List.nil_append] using hall
          · subst hclose
            obtain ⟨d, hd, hleads⟩ := hy.followed rfl hr hs (by decide)
            refine (yields_next hs).bind fun t ht => .pure ?_
            rintro v hv
            cases hv
            refine ⟨(raw, d), [], m.insert key value, by rw [readMembers, hraw, hd]; rfl, rfl, ?_⟩
            rw [Document.memberTokens_singleton, ht]
            exact hname.trans hleads
          · exact .pure (readMembers_none m _)
    · exact .pure (readMembers_none m _)

theorem reads (fuel : ℕ) : Reads fuel := by
  induction fuel with
  | zero =>
    refine ⟨fun _ _ => ?_, fun _ _ => ?_, fun _ _ _ => ?_, fun _ _ => ?_, fun _ _ _ => ?_⟩
    · rw [parseValue]; exact .error
    · rw [parseObject]; exact .error
    · rw [parseMembers]; exact .error
    · rw [parseArray]; exact .error
    · rw [parseItems]; exact .error
  | succ fuel ih =>
    exact ⟨ih.value_succ, ih.object_succ, ih.members_succ, ih.array_succ, ih.items_succ⟩

theorem yields_run (text : Text) : Yields (Parser.run text) fun x => ∀ v, x.1 = .ok v →
    ∃ d : Document, readDocument d = some v ∧ Leads text [] d.tokens := by
  unfold run
  refine ((reads _).value 0 { text := text }).bind fun x hx => ?_
  obtain ⟨out, q⟩ := x
  cases out with
  | none => exact .pure nofun
  | some value =>
    refine yields_skipSpace.bind fun r hr => ?_
    split_ifs with hend
    · exact .pure nofun
    · refine .pure ?_
      rintro v hv
      cases hv
      have hnil : r.rest = [] := by
        rw [rest, not_not.mp hend, List.drop_length]
      have hb : Boundary r.rest := hnil ▸ boundary_nil
      obtain ⟨d, hd, hleads⟩ := hx value rfl (boundary_skipSpace hr hb)
      have hlast := leads_skipSpace hr
      rw [hnil] at hlast
      have hall := hleads.trans hlast
      rw [List.append_nil] at hall
      exact ⟨d, hd, hall⟩

end Parser

/-! ## The numbers of a value -/

/-- A number that is neither infinite nor a `nan`. -/
def Finite : Double → Prop
  | .fin _ => True
  | _ => False

section Numbers

variable (P : Double → Prop)

mutual

/-- `P` holds of every number in a value. -/
def Json.Numbers : Json → Prop
  | .num d => P d
  | .obj members => NumbersMembers members
  | .arr items => NumbersItems items
  | _ => True

def Json.NumbersMembers : List (Text × Json) → Prop
  | [] => True
  | (_, value) :: members => value.Numbers ∧ Json.NumbersMembers members

def Json.NumbersItems : List Json → Prop
  | [] => True
  | item :: items => item.Numbers ∧ Json.NumbersItems items

end

end Numbers

section Numbers

variable {P : Double → Prop}

theorem numbersMembers_iff {l : List (Text × Json)} :
    Json.NumbersMembers P l ↔ ∀ e ∈ l, e.2.Numbers P := by
  induction l with
  | nil => simp [Json.NumbersMembers]
  | cons e l ih => rw [Json.NumbersMembers, ih, List.forall_mem_cons]

theorem numbersMembers_insert {m : OrdMap Text Json} {key : Text} {v : Json}
    (hm : Json.NumbersMembers P m.entries) (hv : v.Numbers P) :
    Json.NumbersMembers P (m.insert key v).entries := by
  rw [numbersMembers_iff] at hm ⊢
  intro e he
  rcases mem_insertEntry he with rfl | he
  · exact hv
  · exact hm e he

/-- The numbers among some tokens are of one kind. -/
def Spelled (P : Double → Prop) (ts : List Token) : Prop :=
  ∀ w x, .word w ∈ ts → strtod w = some (x, []) → P x

theorem numbers_readWord {w : Text} {v : Json} (h : readWord w = some v)
    (hw : Spelled P [.word w]) : v.Numbers P := by
  rw [readWord] at h
  split_ifs at h
  · cases h
    trivial
  · cases h
    trivial
  · cases h
    trivial
  · split at h
    · next x hx =>
      cases h
      exact hw w x (List.mem_singleton_self _) hx
    · cases h

mutual

theorem numbers_readDocument : ∀ (d : Document) {v : Json}, readDocument d = some v →
    Spelled P d.tokens → v.Numbers P
  | .word w, _, h, hd => numbers_readWord h hd
  | .quoted raw, _, h, _ => by
    obtain ⟨t, -, rfl⟩ := Option.map_eq_some_iff.mp h
    trivial
  | .obj members, _, h, hd => by
    obtain ⟨m, hm, rfl⟩ := Option.map_eq_some_iff.mp h
    refine numbers_readMembers members hm trivial fun ts hts w x hw => hd w x ?_
    exact List.mem_cons_of_mem _ (List.mem_append_left _ (Document.mem_intercalate hw hts))
  | .arr items, _, h, hd => by
    obtain ⟨vs, hvs, rfl⟩ := Option.map_eq_some_iff.mp h
    refine numbers_readItems items hvs fun ts hts w x hw => hd w x ?_
    exact List.mem_cons_of_mem _ (List.mem_append_left _ (Document.mem_intercalate hw hts))

theorem numbers_readMembers : ∀ (l : List (Text × Document)) {m m' : OrdMap Text Json},
    readMembers m l = some m' → Json.NumbersMembers P m.entries →
    (∀ ts ∈ Document.memberTokens l, Spelled P ts) → Json.NumbersMembers P m'.entries
  | [], _, _, h, hm, _ => by
    cases h
    exact hm
  | (raw, d) :: l, m, _, h, hm, hl => by
    rw [readMembers] at h
    split at h
    · next key v hkey hv =>
      have hfirst := hl _ List.mem_cons_self
      have hd := numbers_readDocument d hv fun w x hw =>
        hfirst w x (List.mem_cons_of_mem _ (List.mem_cons_of_mem _ hw))
      exact numbers_readMembers l h (numbersMembers_insert hm hd)
        fun ts hts => hl ts (List.mem_cons_of_mem _ hts)
    · cases h

theorem numbers_readItems : ∀ (l : List Document) {vs : List Json}, readItems l = some vs →
    (∀ ts ∈ Document.itemTokens l, Spelled P ts) → Json.NumbersItems P vs
  | [], _, h, _ => by
    cases h
    trivial
  | d :: l, _, h, hl => by
    rw [readItems] at h
    split at h
    · next v vs hv hvs =>
      cases h
      exact ⟨numbers_readDocument d hv (hl _ List.mem_cons_self),
        numbers_readItems l hvs fun ts hts => hl ts (List.mem_cons_of_mem _ hts)⟩
    · cases h

end

end Numbers

/-! ## Accepted texts -/

/-- A number of JSON is finite where its magnitude, rounded, is below the overflow threshold. -/
theorem spelled_of_proper {ts : List Token} (hts : ∀ t ∈ ts, t.Proper)
    (hfit : ∀ n : JsonNumber, .word n.text ∈ ts → round64 n.magnitude < 2 ^ 1024) :
    Spelled Finite ts := by
  intro w x hw hx
  rcases hts _ hw with hname | ⟨n, rfl⟩
  · have hnone : ∀ name ∈ names, strtod name = none := by decide
    rw [hnone w hname] at hx
    cases hx
  · rw [strtod_number] at hx
    cases hx
    rw [signed, if_neg (not_le.mpr (hfit n hw))]
    trivial

/-- **An accepted text is built like a JSON text.** Its tokens, vertical tabs and form feeds apart,
are those of a document, and the value is what the document is read as: each word is a literal name
or taken whole by `strtod`, each string one that `parseString` takes. It is a JSON text just when
each token is one of JSON; then every number of the value is finite, unless one in the text is too
large for a `double`. -/
theorem accepted_document {text : Text} {v : Json} (h : parseJson text = .ok (.ok v)) :
    ∃ (ts : List Token) (d : Document), tokens text = some ts ∧
      ts.filter Token.kept = d.tokens ∧ readDocument d = some v ∧
      (IsJson text ↔ ∀ t ∈ ts, t.Proper) ∧
      (IsJson text → (∀ n : JsonNumber, .word n.text ∈ ts → round64 n.magnitude < 2 ^ 1024) →
        v.Numbers Finite) := by
  obtain ⟨⟨r, p⟩, hrun, hr⟩ := ok_of_map_ok h
  obtain ⟨d, hd, hleads⟩ := Parser.yields_run text _ hrun v hr
  obtain ⟨ts, hts, hkept⟩ := hleads.tokens_eq
  have hjson := isJson_iff hts hkept
  refine ⟨ts, d, hts, hkept, hd, hjson, fun hproper hfit => ?_⟩
  have hall := hjson.mp hproper
  rw [filter_kept hall] at hkept
  exact numbers_readDocument d hd (hkept ▸ spelled_of_proper hall hfit)

/-- The body of a request that fixes the source address of a sender. -/
def plainBody : Text := "\x7b\"transport_params\":[\x7b\"source_ip\":\"10.0.0.9\"\x7d]\x7d".toList

theorem parseJson_plainBody : parseJson plainBody = .ok (.ok (.obj [("transport_params".toList,
    .arr [.obj [("source_ip".toList, .str "10.0.0.9".toList)]])])) := by
  cbv

theorem plainBody_accepted : ∃ (ts : List Token) (d : Document), tokens plainBody = some ts ∧
    ts.filter Token.kept = d.tokens ∧
    readDocument d = some (.obj [("transport_params".toList,
      .arr [.obj [("source_ip".toList, .str "10.0.0.9".toList)]])]) ∧
    (IsJson plainBody ↔ ∀ t ∈ ts, t.Proper) ∧
    (IsJson plainBody → (∀ n : JsonNumber, .word n.text ∈ ts → round64 n.magnitude < 2 ^ 1024) →
      Json.Numbers Finite (.obj [("transport_params".toList,
        .arr [.obj [("source_ip".toList, .str "10.0.0.9".toList)]])])) :=
  accepted_document parseJson_plainBody

/-- The body of a request that fixes the port of a sender at `NaN`. -/
def nanBody : Text := "\x7b\"transport_params\":[\x7b\"destination_port\":NaN\x7d]\x7d".toList

def nanLeg : Json := .obj [("destination_port".toList, .num .nan)]

theorem tokens_nanBody : tokens nanBody = some [.mark '\x7b', .quoted "transport_params".toList,
    .mark ':', .mark '[', .mark '\x7b', .quoted "destination_port".toList, .mark ':',
    .word "NaN".toList, .mark '\x7d', .mark ']', .mark '\x7d'] := by
  decide +kernel

/-- `NaN` is no word of JSON. -/
theorem not_proper_nan : ¬ (Token.word "NaN".toList).Proper := by
  rintro (hname | ⟨n, hn⟩)
  · exact absurd hname (by decide)
  · obtain ⟨c, s, hs, hc⟩ := n.text_cons
    rw [hn] at hs
    obtain rfl : 'N' = c := (List.cons.inj hs).1
    exact absurd hc (by decide)

/-- **A `NaN` for a port** is taken, although it is no number of JSON, and goes through the check on
the range of ports into what is staged. -/
theorem nanBody_accepted : ¬ (∀ text v, parseJson text = .ok (.ok v) → IsJson text) ∧
    parseJson nanBody = .ok (.ok (.obj [("transport_params".toList, .arr [nanLeg])])) ∧
    ¬ IsJson nanBody ∧ ¬ nanLeg.Numbers Finite ∧
    (applyTransportParams (.arr [nanLeg]) true .empty).map OrdMap.entries =
      .ok [("destination_port".toList, .num .nan)] := by
  have hparse : parseJson nanBody =
      .ok (.ok (.obj [("transport_params".toList, .arr [nanLeg])])) := by cbv
  have hjson : ¬ IsJson nanBody := by
    rintro ⟨d, hd, hproper⟩
    have hts := Option.some.inj (tokens_nanBody.symm.trans hd)
    refine not_proper_nan (hproper _ ?_)
    rw [← hts]
    decide
  exact ⟨fun h => hjson (h _ _ hparse), hparse, hjson, fun h => h.1, rfl⟩

end Aes67.Ravenna
