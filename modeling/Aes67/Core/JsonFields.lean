import Aes67.Core.JsonEscape
import Aes67.Core.Types

/-!
# Reading one field of a small JSON document

The reader of the settings files matches `"field" : value` with a regular expression, the first
match from the left, and says nothing about the rest of the document. Each pattern leaves the
matcher no choice (no character that ends a repetition can also continue it), so the match is a
left-to-right scan.

* `matchField`: the first `"field" : value` of the text, the value read by `value`;
* `extractStringField`, `extractBoolField`, `extractIntField`, `extractUInt64Field` and the
  narrower unsigned readers.
-/

namespace Aes67

/-- The pattern `((?:[^"\\]|\\.)*)"`: a string up to its closing quote, escapes kept. -/
def scanString : Text → Option Text
  | [] => none
  | '"' :: _ => some []
  | ['\\'] => none
  | '\\' :: c :: s =>
    -- The dot stands for any character but a line end.
    if c = '\n' ∨ c = '\r' then none else (scanString s).map fun t => '\\' :: c :: t
  | c :: s => (scanString s).map (c :: ·)

/-- The pattern `"((?:[^"\\]|\\.)*)"`. -/
def stringValue : Text → Option Text
  | '"' :: s => scanString s
  | _ => none

/-- The pattern `(\d+)`. -/
def digitsValue (s : Text) : Option Text :=
  match s.takeWhile Char.isDigit with
  | [] => none
  | ds => some ds

/-- The pattern `(-?\d+)`. -/
def signedValue : Text → Option Text
  | '-' :: s => (digitsValue s).map ('-' :: ·)
  | s => digitsValue s

/-- What follows `pat` where the text starts with it. -/
def skipText (pat s : Text) : Option Text :=
  if pat.isPrefixOf s then some (s.drop pat.length) else none

/-- The pattern `(true|false)`. -/
def boolValue (s : Text) : Option Text :=
  if (skipText "true".toList s).isSome then some "true".toList
  else if (skipText "false".toList s).isSome then some "false".toList
  else none

/-- The pattern `"field"\s*:\s*value`, matched at the start of the text. -/
def matchHere (field : Text) (value : Text → Option Text) (s : Text) : Option Text :=
  match skipText ('"' :: field ++ ['"']) s with
  | none => none
  | some s =>
    match s.dropWhile isSpace with
    | ':' :: s => value (s.dropWhile isSpace)
    | _ => none

/-- The leftmost match of the pattern. -/
def searchField (field : Text) (value : Text → Option Text) : Text → Option Text
  | [] => none
  | c :: s => (matchHere field value (c :: s)).or (searchField field value s)

/-- A character a field name may have. -/
def isPlain (c : Char) : Bool :=
  ('a' ≤ c ∧ c ≤ 'z') ∨ ('A' ≤ c ∧ c ≤ 'Z') ∨ ('0' ≤ c ∧ c ≤ '9') ∨ c = '_' ∨ c = '-'

/-- `matchField`. -/
def matchField (json field : Text) (value : Text → Option Text) : Option Text :=
  if field.all isPlain then searchField field value json else none

/-- `extractStringField`. -/
def extractStringField (json field : Text) : Option Text :=
  (matchField json field stringValue).map jsonUnescape

/-- `extractUInt64Field`. -/
def extractUInt64Field (json field : Text) : Option ℕ :=
  (matchField json field digitsValue).bind stoull

/-- `narrowField`: nothing for a value the narrower type does not hold. -/
def narrowField (max : ℕ) (json field : Text) : Option ℕ :=
  match extractUInt64Field json field with
  | none => none
  | some value => if value > max then none else some value

/-- `extractUInt32Field`. -/
def extractUInt32Field (json field : Text) : Option ℕ := narrowField 4294967295 json field

/-- `extractUInt16Field`. -/
def extractUInt16Field (json field : Text) : Option ℕ := narrowField 65535 json field

/-- `extractUInt8Field`. -/
def extractUInt8Field (json field : Text) : Option ℕ := narrowField 255 json field

/-- `extractBoolField`. -/
def extractBoolField (json field : Text) : Option Bool :=
  (matchField json field boolValue).map (· == "true".toList)

/-- `extractIntField`. -/
def extractIntField (json field : Text) : Option ℤ :=
  (matchField json field signedValue).bind stoi

end Aes67
