import Mathlib
import Aes67.Lib.OrdMap
import Aes67.Lib.Text

/-!
# Shared types

* `StreamID`: the 128-bit stream identifier, ordered as its bytes are, with `StreamID.ofText`, the
  constructor that reads one from text, `StreamID.toString`, and **`StreamID.ofText_toString`**.
-/

namespace Aes67

/-! ## Stream identifiers -/

/-- A stream's UUID, as the big-endian number of its sixteen bytes. -/
structure StreamID where
  uuid : ℕ
  lt : uuid < 2 ^ 128

namespace StreamID

theorem uuid_injective : Function.Injective uuid := fun a b h => by
  cases a; cases b; simpa using h

-- Bytes compared left to right are the big-endian numbers compared.
instance : LinearOrder StreamID := LinearOrder.lift' uuid uuid_injective

/-- The all-zero identifier, which marks the absence of a stream. -/
def null : StreamID := ⟨0, by decide⟩

instance : Inhabited StreamID := ⟨null⟩

theorem one_lt : 1 < 2 ^ 128 := by decide

theorem two_lt : 2 < 2 ^ 128 := by decide

/-- `StreamID::isNull`. -/
def isNull (id : StreamID) : Bool := id == null

/-- Shift one more byte into the identifier. -/
def shiftIn (id : StreamID) (byte : ℕ) : StreamID :=
  ⟨(id.uuid * 256 + byte) % 2 ^ 128, Nat.mod_lt _ (by decide)⟩

end StreamID

/-- The number that leading hexadecimal digits spell, nothing where there is none. -/
def scanHex : Option ℕ → Text → Option ℕ
  | acc, [] => acc
  | acc, c :: s =>
    match hexDigit c with
    | none => acc
    | some v => scanHex (some (acc.getD 0 * 16 + v)) s

/-- `std::stoul(s, nullptr, 16)`. -/
def stoulHex (s : Text) : Option ℕ :=
  let s := s.dropWhile isSpace
  let (neg, s) := match s with
    | '-' :: t => (true, t)
    | '+' :: t => (false, t)
    | _ => (false, s)
  -- `0x` counts as a base mark only where a digit follows it.
  let s := match s with
    | '0' :: x :: h :: t => if (x = 'x' ∨ x = 'X') ∧ (hexDigit h).isSome then h :: t else s
    | _ => s
  match scanHex none s with
  | none => none
  | some n => if n < 2 ^ 64 then some (if neg then (2 ^ 64 - n) % 2 ^ 64 else n) else none

namespace StreamID

/-- The sixteen bytes of a text of hexadecimal pairs; nothing where a pair is no number and
`std::stoul` throws. -/
def readPairs (id : StreamID) : Text → Option StreamID
  | a :: b :: s =>
    match stoulHex [a, b] with
    | none => none
    | some v => readPairs (id.shiftIn (v % 256)) s
  | _ => some id

/-- `StreamID::StreamID(const std::string&)`; nothing where it throws. -/
def ofText (uuidString : Text) : Option StreamID :=
  let cleaned := uuidString.filter (· ≠ '-')
  if cleaned.length ≠ 32 then some null else readPairs null cleaned

/-- The byte at `i`, the first being the most significant. -/
def byte (id : StreamID) (i : ℕ) : ℕ := id.uuid / 256 ^ (15 - i) % 256

/-- A byte in two hexadecimal digits. -/
def hexByte (b : ℕ) : Text := [Nat.digitChar (b / 16), Nat.digitChar (b % 16)]

/-- `StreamID::toString`. -/
def toString (id : StreamID) : Text :=
  (List.range 16).flatMap fun i =>
    (if i = 4 ∨ i = 6 ∨ i = 8 ∨ i = 10 then ['-'] else []) ++ hexByte (id.byte i)

theorem uuid_shiftIn (id : StreamID) (b : ℕ) :
    (id.shiftIn b).uuid = (id.uuid * 256 + b) % 2 ^ 128 := rfl

theorem byte_lt (id : StreamID) (i : ℕ) : id.byte i < 256 := Nat.mod_lt _ (by decide)

theorem digitChar_ne : ∀ n < 16, Nat.digitChar n ≠ '-' := by decide

theorem readPairs_hexByte {l : List ℕ} (h : ∀ b ∈ l, b < 256) (id : StreamID) :
    readPairs id (l.flatMap hexByte) = some (l.foldl shiftIn id) := by
  have pair : ∀ b < 256, stoulHex (hexByte b) = some b := by decide +kernel
  induction l generalizing id with
  | nil => rfl
  | cons b l ih =>
    have hb := h b List.mem_cons_self
    have hp := pair b hb
    rw [hexByte] at hp
    rw [List.flatMap_cons, hexByte, List.cons_append, List.cons_append, List.nil_append,
      readPairs.eq_def]
    dsimp only
    rw [hp, List.foldl_cons]
    dsimp only
    rw [Nat.mod_eq_of_lt hb]
    exact ih (fun b hb => h b (List.mem_cons_of_mem _ hb)) _

/-- The first bytes, shifted in one after the other, are the identifier's first bytes. -/
theorem foldl_shiftIn_bytes (id : StreamID) {k : ℕ} (hk : k ≤ 16) :
    (((List.range k).map id.byte).foldl shiftIn null).uuid = id.uuid / 256 ^ (16 - k) := by
  induction k with
  | zero =>
    have he : (2 : ℕ) ^ 128 = 256 ^ (16 - 0) := by norm_num
    have h : id.uuid < 256 ^ (16 - 0) := he ▸ id.lt
    exact (Nat.div_eq_of_lt h).symm
  | succ k ih =>
    have e1 : 15 - k = 16 - (k + 1) := by omega
    have e2 : 256 ^ (16 - k) = 256 ^ (16 - (k + 1)) * 256 := by
      rw [← pow_succ]
      congr 1
      omega
    have hle : id.uuid / 256 ^ (16 - (k + 1)) < 2 ^ 128 :=
      (Nat.div_le_self _ _).trans_lt id.lt
    rw [List.range_succ, List.map_append, List.foldl_append, List.map_singleton, List.foldl_cons,
      List.foldl_nil, uuid_shiftIn, ih (Nat.le_of_succ_le hk), byte, e1, e2, ← Nat.div_div_eq_div_mul]
    rw [Nat.div_add_mod', Nat.mod_eq_of_lt hle]

/-- **An identifier's text reads back as the identifier.** -/
theorem ofText_toString (id : StreamID) : ofText id.toString = some id := by
  have hclean : id.toString.filter (· ≠ '-') = ((List.range 16).map id.byte).flatMap hexByte := by
    rw [toString, List.filter_flatMap, List.flatMap_map]
    congr 1
    funext i
    have hb := id.byte_lt i
    have h1 := digitChar_ne (id.byte i / 16) (by omega)
    have h2 := digitChar_ne (id.byte i % 16) (by omega)
    rw [List.filter_append]
    split_ifs <;> simp [hexByte, h1, h2]
  have hlen : (((List.range 16).map id.byte).flatMap hexByte).length = 32 := by
    simp [List.length_flatMap, hexByte, Function.comp_def]
  rw [ofText, hclean, if_neg (by rw [hlen]; decide), readPairs_hexByte]
  · congr 1
    apply uuid_injective
    rw [foldl_shiftIn_bytes id le_rfl]
    simp
  · intro b hb
    obtain ⟨i, -, rfl⟩ := List.mem_map.mp hb
    exact id.byte_lt i

end StreamID

end Aes67
