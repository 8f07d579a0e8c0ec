import Aes67.Core.Types
import Aes67.Lib.Decimal
import Aes67.Ravenna.Json

/-!
# JSON texts

The model of the JSON writer and reader: `JsonValue::serialise`, and the recursive descent of
`parseJson`, whose functions share a position and a depth counter.

* `jsonQuote`, `Json.serialise`;
* `Parser` with `parseString`, `parseValue`, `parseObject` and `parseArray`;
* `parseJson`.

A step of the reader that must never happen is a `Fault`: a position past the end of the text, a
call of `parseObject` or `parseArray` inside 64 others, or a recursion that does not end.
-/

namespace Aes67.Ravenna

/-! ## Writing -/

/-- What `jsonQuote` writes for one character. -/
def quoteChar (c : Char) : Text :=
  if c = '"' then ['\\', '"']
  else if c = '\\' then ['\\', '\\']
  else if c = '\x08' then ['\\', 'b']
  else if c = '\x0c' then ['\\', 'f']
  else if c = '\n' then ['\\', 'n']
  else if c = '\r' then ['\\', 'r']
  else if c = '\t' then ['\\', 't']
  else if c.toNat < 32 then
    ['\\', 'u', '0', '0', Nat.digitChar (c.toNat / 16), Nat.digitChar (c.toNat % 16)]
  else [c]

/-- `jsonQuote`. -/
def jsonQuote (text : Text) : Text := '"' :: text.flatMap quoteChar ++ ['"']

/-- The number of `serialise`: a whole one as an integer, any other with ten significant digits. -/
def showNumber : Double → Text
  | .fin q => if q.den = 1 ∧ |q| < 10 ^ 15 then showInt q.num else printGeneral 10 (.fin q)
  | d => printGeneral 10 d

mutual

/-- `JsonValue::serialise`. -/
def Json.serialise : Json → Text
  | .null => "null".toList
  | .bool b => (if b then "true" else "false").toList
  | .num d => showNumber d
  | .str t => jsonQuote t
  | .obj members => '\x7b' :: List.intercalate [','] (serialiseMembers members) ++ ['\x7d']
  | .arr items => '[' :: List.intercalate [','] (serialiseItems items) ++ [']']

/-- The members of an object. -/
def Json.serialiseMembers : List (Text × Json) → List Text
  | [] => []
  | (key, value) :: members =>
    (jsonQuote key ++ ':' :: value.serialise) :: Json.serialiseMembers members

/-- The items of an array. -/
def Json.serialiseItems : List Json → List Text
  | [] => []
  | item :: items => item.serialise :: Json.serialiseItems items

end

/-! ## Strings -/

/-- `std::strtol` in base 16, on a text too short to overflow. -/
def strtolHex (s : Text) : ℤ :=
  let (neg, s) := scanSign (s.dropWhile isSpace)
  let s := match s with
    | '0' :: x :: h :: t => if x.toLower = 'x' ∧ (hexDigit h).isSome then h :: t else s
    | _ => s
  let n : ℤ := (scanHex none s).getD 0
  if neg then -n else n

/-- What the four characters behind a `\u` stand for: one character of the Basic Latin range, or
else what was written. -/
def decodeUnicode (digits : Text) : Text :=
  if 0 < strtolHex digits ∧ strtolHex digits < 128 then [Char.ofNat (strtolHex digits).toNat]
  else '\\' :: 'u' :: digits

/-- What a character behind a backslash stands for, `u` apart. -/
def unescape (c : Char) : Option Char :=
  if c = '"' then some '"'
  else if c = '\\' then some '\\'
  else if c = '/' then some '/'
  else if c = 'b' then some '\x08'
  else if c = 'f' then some '\x0c'
  else if c = 'n' then some '\n'
  else if c = 'r' then some '\r'
  else if c = 't' then some '\t'
  else none

/-- The loop of `parseString`: the string up to its closing quote, or what is wrong with it, and
what has not been looked at. -/
def readChars : Text → Except String Text × Text
  | [] => (.error "a string that never ends", [])
  | c :: s =>
    if c = '"' then (.ok [], s)
    else if c ≠ '\\' then
      let (out, rest) := readChars s
      (out.map (c :: ·), rest)
    else match s with
      | [] => (.error "a string ends inside an escape", [])
      | e :: s =>
        if e = 'u' then
          match s with
          | c1 :: c2 :: c3 :: c4 :: s =>
            let (out, rest) := readChars s
            (out.map (decodeUnicode [c1, c2, c3, c4] ++ ·), rest)
          | s => (.error "a short \\u escape", s)
        else match unescape e with
          | some x =>
            let (out, rest) := readChars s
            (out.map (x :: ·), rest)
          | none => (.error "an escape this parser does not know", s)

example : (readChars "a\"b".toList).2 = ['b'] ∧ (readChars []).2 = [] := ⟨by decide, by rw [readChars]⟩

section ReadChars

variable {c e x c1 c2 c3 c4 : Char} {s : Text}

@[simp] theorem readChars_quote (s : Text) : readChars ('"' :: s) = (.ok [], s) := by
  rw [readChars.eq_def]
  rfl

theorem readChars_plain (hq : c ≠ '"') (hb : c ≠ '\\') :
    readChars (c :: s) = ((readChars s).1.map (c :: ·), (readChars s).2) := by
  rw [readChars.eq_def]
  dsimp only
  rw [if_neg hq, if_pos hb]

@[simp] theorem readChars_unicode : readChars ('\\' :: 'u' :: c1 :: c2 :: c3 :: c4 :: s) =
    ((readChars s).1.map (decodeUnicode [c1, c2, c3, c4] ++ ·), (readChars s).2) := by
  rw [readChars.eq_def]
  rfl

theorem readChars_escape (he : e ≠ 'u') (hx : unescape e = some x) :
    readChars ('\\' :: e :: s) = ((readChars s).1.map (x :: ·), (readChars s).2) := by
  rw [readChars.eq_def]
  dsimp only
  rw [if_neg (by decide), if_neg (by decide), if_neg he, hx]

theorem readChars_unknown (he : e ≠ 'u') (hx : unescape e = none) :
    readChars ('\\' :: e :: s) = (.error "an escape this parser does not know", s) := by
  rw [readChars.eq_def]
  dsimp only
  rw [if_neg (by decide), if_neg (by decide), if_neg he, hx]

end ReadChars

/-! ## The parser -/

def kMaxNestingDepth : ℕ := 64

/-- What must never happen while a text is parsed. -/
inductive Fault
  | pastEnd | tooManyCalls | outOfFuel
  deriving DecidableEq

/-- `Parser`; `pos` is its position `at`. -/
structure Parser where
  text : Text
  pos : ℕ := 0
  depth : ℕ := 0
  error : Text := []

namespace Parser

variable (p : Parser)

/-- What has not been parsed yet. -/
def rest : Text := p.text.drop p.pos

/-- The position `n` characters on. -/
def moved (n : ℕ) : Parser := { p with pos := p.pos + n }

/-- `at += n`. -/
def advance (n : ℕ) : Except Fault Parser :=
  if p.pos + n ≤ p.text.length then .ok (p.moved n) else .error .pastEnd

/-- White space as JSON has it. -/
def isBlank (c : Char) : Bool := c == ' ' || c == '\t' || c == '\n' || c == '\r'

/-- `Parser::skipSpace`. -/
def skipSpace : Except Fault Parser := p.advance (p.rest.takeWhile isBlank).length

/-- `Parser::fail`: the first complaint is kept. -/
def fail (what : String) : Parser :=
  if p.error = [] then { p with error := what.toList ++ " at offset ".toList ++ showNat p.pos }
  else p

/-- `Parser::literal`. -/
def literal (word : String) (value : Json) : Except Fault (Option Json × Parser) :=
  if word.toList.isPrefixOf p.rest then
    return (some value, ← p.advance word.toList.length)
  else return (none, p.fail ("expected " ++ word))

/-- `Parser::parseString`. -/
def parseString : Except Fault (Option Text × Parser) :=
  match p.rest with
  | '"' :: s => do
    let (out, rest) := readChars s
    let p ← p.advance (1 + (s.length - rest.length))
    match out with
    | .ok value => return (some value, p)
    | .error what => return (none, p.fail what)
  | _ => return (none, p.fail "expected a string")

/-- A number of `parseValue`. -/
def parseNumber : Except Fault (Option Json × Parser) :=
  match strtod p.rest with
  | none => return (none, p.fail "not a value")
  | some (value, rest) => return (some (.num value), ← p.advance (p.rest.length - rest.length))

/-- `++depth`, a call, `--depth`. -/
def deeper (call : Parser → Except Fault (Option Json × Parser)) :
    Except Fault (Option Json × Parser) := do
  let (out, p) ← call { p with depth := p.depth + 1 }
  return (out, { p with depth := p.depth - 1 })

mutual

/-- `Parser::parseValue`, in `active` calls of `parseObject` and `parseArray`. -/
def parseValue : ℕ → ℕ → Parser → Except Fault (Option Json × Parser)
  | 0, _, _ => .error .outOfFuel
  | fuel + 1, active, p => do
    let p ← p.skipSpace
    match p.rest with
    | [] => return (none, p.fail "nothing to parse")
    | c :: _ =>
      if c = '\x7b' ∨ c = '[' then
        if p.depth ≥ kMaxNestingDepth then return (none, p.fail "nested too deep")
        else if active ≥ 64 then .error .tooManyCalls
        else if c = '\x7b' then p.deeper (parseObject fuel (active + 1))
        else p.deeper (parseArray fuel (active + 1))
      else if c = '"' then
        let (out, p) ← p.parseString
        return (out.map .str, p)
      else if c = 't' then p.literal "true" (.bool true)
      else if c = 'f' then p.literal "false" (.bool false)
      else if c = 'n' then p.literal "null" .null
      else p.parseNumber

/-- `Parser::parseObject`. -/
def parseObject : ℕ → ℕ → Parser → Except Fault (Option Json × Parser)
  | 0, _, _ => .error .outOfFuel
  | fuel + 1, active, p => do
    let p ← p.advance 1
    let p ← p.skipSpace
    match p.rest with
    | '\x7d' :: _ => return (some (.obj []), ← p.advance 1)
    | _ => parseMembers fuel active .empty p

/-- The loop of `parseObject`. -/
def parseMembers : ℕ → ℕ → OrdMap Text Json → Parser → Except Fault (Option Json × Parser)
  | 0, _, _, _ => .error .outOfFuel
  | fuel + 1, active, members, p => do
    let p ← p.skipSpace
    match ← p.parseString with
    | (none, p) => return (none, p)
    | (some key, p) =>
      let p ← p.skipSpace
      match p.rest with
      | ':' :: _ =>
        let p ← p.advance 1
        match ← parseValue fuel active p with
        | (none, p) => return (none, p)
        | (some value, p) =>
          let members := members.insert key value
          let p ← p.skipSpace
          match p.rest with
          | [] => return (none, p.fail "an object that never closes")
          | c :: _ =>
            if c = ',' then parseMembers fuel active members (← p.advance 1)
            else if c = '\x7d' then return (some (.obj members.entries), ← p.advance 1)
            else return (none, p.fail "expected ',' or '\x7d'")
      | _ => return (none, p.fail "expected ':'")

/-- `Parser::parseArray`. -/
def parseArray : ℕ → ℕ → Parser → Except Fault (Option Json × Parser)
  | 0, _, _ => .error .outOfFuel
  | fuel + 1, active, p => do
    let p ← p.advance 1
    let p ← p.skipSpace
    match p.rest with
    | ']' :: _ => return (some (.arr []), ← p.advance 1)
    | _ => parseItems fuel active [] p

/-- The loop of `parseArray`. -/
def parseItems : ℕ → ℕ → List Json → Parser → Except Fault (Option Json × Parser)
  | 0, _, _, _ => .error .outOfFuel
  | fuel + 1, active, items, p => do
    match ← parseValue fuel active p with
    | (none, p) => return (none, p)
    | (some value, p) =>
      let items := items ++ [value]
      let p ← p.skipSpace
      match p.rest with
      | [] => return (none, p.fail "an array that never closes")
      | c :: _ =>
        if c = ',' then parseItems fuel active items (← p.advance 1)
        else if c = ']' then return (some (.arr items), ← p.advance 1)
        else return (none, p.fail "expected ',' or ']'")

end

/-- Calls enough for a text of a length. -/
def fuelFor (length : ℕ) : ℕ := 3 * length + 3

/-- `parseJson`, with the parser as it stands in the end. -/
def run (text : Text) : Except Fault (Except Text Json × Parser) := do
  let p : Parser := { text := text }
  match ← parseValue (fuelFor text.length) 0 p with
  | (none, p) => return (.error p.error, p)
  | (some value, p) =>
    let p ← p.skipSpace
    if p.pos ≠ p.text.length then
      return (.error ("trailing text after the value, at offset ".toList ++ showNat p.pos), p)
    else return (.ok value, p)

end Parser

/-- `parseJson`; the text is its complaint. -/
def parseJson (text : Text) : Except Fault (Except Text Json) := (Parser.run text).map Prod.fst

end Aes67.Ravenna
