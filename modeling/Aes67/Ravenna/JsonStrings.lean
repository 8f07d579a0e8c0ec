import Aes67.Core.JsonSearch
import Aes67.Ravenna.JsonRoundTrip

/-!
# One format of strings

The core and the Ravenna package each have a writer and a reader of JSON strings. The writers write
the same, the core's reader undoes it, and the Ravenna parser does but for the zero byte, whose
escape it takes for one it does not know.

* `jsonQuote_eq`: the writers agree;
* `parseJson_jsonQuote`: what the parser reads;
* **`oneFormat_iff`**: the strings on which all four agree.
-/

namespace Aes67.Ravenna

theorem quoteChar_eq (c : Char) : quoteChar c = escapeChar c := by
  unfold escapeChar
  split
  case h_8 h1 h2 h3 h4 h5 h6 h7 =>
    rw [quoteChar, if_neg h1, if_neg h2, if_neg h3, if_neg h4, if_neg h5, if_neg h6, if_neg h7]
  all_goals rfl

/-- **The writers agree.** -/
theorem jsonQuote_eq (s : Text) : jsonQuote s = quote s := by
  rw [jsonQuote, quote, jsonEscape, funext quoteChar_eq]

/-- What the parser reads of a written string. -/
theorem parseJson_jsonQuote (s : Text) :
    parseJson (jsonQuote s) = .ok (.ok (.str (s.flatMap reread))) := by
  have h : (Parser.rest { text := jsonQuote s }) = jsonQuote s ++ [] := (List.append_nil _).symm
  have hskip : (Parser.moved { text := jsonQuote s } (jsonQuote s).length).skipSpace =
      .ok (Parser.moved { text := jsonQuote s } (jsonQuote s).length) := by
    rw [Parser.skipSpace, Parser.rest_moved h, Parser.advance, if_pos (by simp [Parser.moved])]
    rfl
  have hvalue : Parser.parseValue (Parser.fuelFor (jsonQuote s).length) 0 { text := jsonQuote s } =
      .ok (some (.str (s.flatMap reread)),
        Parser.moved { text := jsonQuote s } (jsonQuote s).length) := by
    rw [Parser.fuelFor, Parser.parseValue_cons (h.trans (jsonQuote_append s [])) (by decide)]
    change (Parser.parseString _ >>= _) = _
    rw [Parser.parseString_jsonQuote h]
    rfl
  rw [parseJson, Parser.run]
  change ((Parser.parseValue _ 0 _ >>= _).map _) = _
  rw [hvalue]
  change ((Parser.skipSpace _ >>= _).map _) = _
  rw [hskip]
  change Except.map _ (if _ then _ else _) = _
  rw [if_neg (by simp [Parser.moved])]
  rfl

theorem length_le_flatMap_reread (s : Text) : s.length ≤ (s.flatMap reread).length := by
  induction s with
  | nil => exact le_rfl
  | cons c s ih =>
    have hc : 1 ≤ (reread c).length := by
      rw [reread]
      split_ifs
      · decide
      · exact le_rfl
    rw [List.flatMap_cons, List.length_append, List.length_cons]
    omega

/-- A string with a zero byte is read back longer than it was. -/
theorem flatMap_reread_iff {s : Text} : s.flatMap reread = s ↔ '\x00' ∉ s := by
  refine ⟨fun h hmem => ?_, flatMap_reread⟩
  obtain ⟨a, b, rfl⟩ := List.append_of_mem hmem
  have hlen := congrArg List.length h
  have ha := length_le_flatMap_reread a
  have hb := length_le_flatMap_reread b
  have h0 : (reread '\x00').length = 6 := by decide
  rw [List.flatMap_append, List.flatMap_cons, List.length_append, List.length_append,
    List.length_append, List.length_cons, h0] at hlen
  omega

/-- **One format.** The writers write the same of every string and the core's reader undoes it; the
parser does exactly where the string has no zero byte. -/
theorem oneFormat_iff (s : Text) :
    (jsonQuote s = '"' :: jsonEscape s ++ ['"'] ∧ jsonUnescape (jsonEscape s) = s ∧
      parseJson (jsonQuote s) = .ok (.ok (.str s))) ↔ '\x00' ∉ s := by
  rw [parseJson_jsonQuote, ← flatMap_reread_iff]
  constructor
  · rintro ⟨-, -, h⟩
    exact Json.str.inj (Except.ok.inj (Except.ok.inj h))
  · intro h
    exact ⟨jsonQuote_eq s, jsonUnescape_jsonEscape s, by rw [h]⟩

/-- The zero byte is read back as the six characters of its escape. -/
theorem zeroByte_reread : ¬ ∀ s, jsonQuote s = '"' :: jsonEscape s ++ ['"'] ∧
    jsonUnescape (jsonEscape s) = s ∧ parseJson (jsonQuote s) = .ok (.ok (.str s)) := by
  intro h
  have h0 := (h ['\x00']).2.2
  rw [parseJson_jsonQuote] at h0
  exact absurd (Json.str.inj (Except.ok.inj (Except.ok.inj h0))) (by decide)

end Aes67.Ravenna
