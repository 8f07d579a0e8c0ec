import Mathlib
import Aes67.Lib.Nesting
import Aes67.Lib.Text

/-!
# JSON strings

What the JSON writers do to a string before they put it between quotes, and what the readers undo.

* `jsonEscape`, `jsonUnescape`, and **`jsonUnescape_jsonEscape`**;
* `escapeChar_cases`: a character is written as itself, or as a backslash and what follows it;
* `last_of_jsonEscape`: in what is written a quote always has a backslash before it;
* `mem_jsonEscape`, `like_jsonEscape`: braces and brackets are written as they are.
-/

namespace Aes67

/-- What `jsonEscape` writes for one character. -/
def escapeChar : Char → Text
  | '"' => ['\\', '"']
  | '\\' => ['\\', '\\']
  | '\x08' => ['\\', 'b']
  | '\x0c' => ['\\', 'f']
  | '\n' => ['\\', 'n']
  | '\r' => ['\\', 'r']
  | '\t' => ['\\', 't']
  | c =>
    if c.toNat < 0x20 then
      ['\\', 'u', '0', '0', Nat.digitChar (c.toNat / 16), Nat.digitChar (c.toNat % 16)]
    else [c]

/-- `jsonEscape`. -/
def jsonEscape (s : Text) : Text := s.flatMap escapeChar

/-- `jsonUnescape`. An escape the writer never produces is kept as it is written. -/
def jsonUnescape : Text → Text
  | '\\' :: 'u' :: a :: b :: c :: d :: s =>
    match hexDigit a, hexDigit b, hexDigit c, hexDigit d with
    | some va, some vb, some vc, some vd =>
      let value := ((va * 16 + vb) * 16 + vc) * 16 + vd
      if value ≤ 0x7f then Char.ofNat value :: jsonUnescape s
      else '\\' :: 'u' :: jsonUnescape (a :: b :: c :: d :: s)
    | _, _, _, _ => '\\' :: 'u' :: jsonUnescape (a :: b :: c :: d :: s)
  | '\\' :: e :: s =>
    match e with
    | '"' => '"' :: jsonUnescape s
    | '\\' => '\\' :: jsonUnescape s
    | '/' => '/' :: jsonUnescape s
    | 'b' => '\x08' :: jsonUnescape s
    | 'f' => '\x0c' :: jsonUnescape s
    | 'n' => '\n' :: jsonUnescape s
    | 'r' => '\r' :: jsonUnescape s
    | 't' => '\t' :: jsonUnescape s
    | e => '\\' :: e :: jsonUnescape s
  | c :: s => c :: jsonUnescape s
  | [] => []

variable {c d o : Char} {a b p s t v : Text}

/-! ## What one character becomes -/

/-- The characters the readers of saved documents count. -/
def isBracket (c : Char) : Bool := c = '\x7b' ∨ c = '\x7d' ∨ c = '[' ∨ c = ']'

/-- A character is written as itself, or as a backslash, a letter or the character, and digits. -/
theorem escapeChar_cases (c : Char) :
    (escapeChar c = [c] ∧ c ≠ '"' ∧ c ≠ '\\') ∨
    ∃ e r, escapeChar c = '\\' :: e :: r ∧ e ≠ '\n' ∧ e ≠ '\r' ∧ '"' ∉ r ∧ '\\' ∉ r ∧
      isBracket c = false ∧ isBracket e = false ∧ ∀ x ∈ r, isBracket x = false := by
  have digit : ∀ n < 16, Nat.digitChar n ≠ '"' ∧ Nat.digitChar n ≠ '\\' ∧
      isBracket (Nat.digitChar n) = false := by decide
  unfold escapeChar
  split
  case h_8 h1 h2 _ _ _ _ _ =>
    split_ifs with hc
    · right
      have hlt : c.toNat / 16 < 16 ∧ c.toNat % 16 < 16 := by omega
      obtain ⟨⟨a1, a2, a3⟩, b1, b2, b3⟩ := And.intro (digit _ hlt.1) (digit _ hlt.2)
      have hb : isBracket c = false := by
        simp only [isBracket, decide_eq_false_iff_not, not_or]
        refine ⟨?_, ?_, ?_, ?_⟩ <;> rintro rfl <;> exact absurd hc (by decide)
      refine ⟨'u', _, rfl, by decide, by decide, ?_, ?_, hb, by decide, ?_⟩
      · simp [a1.symm, b1.symm]
      · simp [a2.symm, b2.symm]
      · simp only [List.mem_cons, List.not_mem_nil, or_false]
        rintro x (rfl | rfl | rfl | rfl)
        exacts [by decide, by decide, a3, b3]
    · exact Or.inl ⟨rfl, h1, h2⟩
  all_goals exact Or.inr ⟨_, [], rfl, by decide, by decide, by simp, by simp, by decide,
    by decide, by simp⟩

theorem jsonEscape_cons : jsonEscape (c :: s) = escapeChar c ++ jsonEscape s := rfl

theorem jsonUnescape_cons (h : c ≠ '\\') : jsonUnescape (c :: s) = c :: jsonUnescape s := by
  rw [jsonUnescape]
  · exact fun _ _ _ _ _ hc _ => h hc
  · exact fun _ _ hc _ => h hc

theorem jsonUnescape_escapeChar : jsonUnescape (escapeChar c ++ s) = c :: jsonUnescape s := by
  have digit : ∀ n < 16, hexDigit (Nat.digitChar n) = some n := by decide
  unfold escapeChar
  split
  case h_8 h1 h2 _ _ _ _ _ =>
    split_ifs with hc
    · have h3 := digit (c.toNat / 16) (by omega)
      have h4 := digit (c.toNat % 16) (by omega)
      have hv : ((0 * 16 + 0) * 16 + c.toNat / 16) * 16 + c.toNat % 16 = c.toNat := by omega
      have h0 : hexDigit '0' = some 0 := by decide
      simp only [List.cons_append, List.nil_append, jsonUnescape, h0, h3, h4, hv]
      rw [if_pos (by omega), Char.ofNat_toNat]
    · exact jsonUnescape_cons h2
  all_goals simp [jsonUnescape]

/-- **The readers undo what the writers do.** -/
theorem jsonUnescape_jsonEscape (s : Text) : jsonUnescape (jsonEscape s) = s := by
  induction s with
  | nil => rfl
  | cons c s ih => rw [jsonEscape_cons, jsonUnescape_escapeChar, ih]

/-! ## Quotes -/

theorem last_of_escapeChar (h : escapeChar c = a ++ '"' :: b) : a.getLast? = some '\\' := by
  rcases escapeChar_cases c with ⟨he, hq, -⟩ | ⟨e, r, he, -, -, hr, -⟩
  · rw [he] at h
    rcases a with _ | ⟨x, a⟩
    · exact absurd (List.cons.inj h).1 hq
    · simp at h
  · rw [he] at h
    rcases a with _ | ⟨x, _ | ⟨y, a⟩⟩
    · simp at h
    · simp only [List.cons_append, List.nil_append, List.cons.injEq] at h
      rw [← h.1]
      rfl
    · simp only [List.cons_append, List.cons.injEq] at h
      exact absurd (h.2.2 ▸ List.mem_append_right _ List.mem_cons_self) hr

/-- In what is written a quote always has a backslash before it. -/
theorem last_of_jsonEscape (h : jsonEscape v = a ++ '"' :: b) : a.getLast? = some '\\' := by
  induction v generalizing a with
  | nil => simp [jsonEscape] at h
  | cons c v ih =>
    rw [jsonEscape_cons] at h
    rcases List.append_eq_append_iff.mp h with ⟨a', rfl, h'⟩ | ⟨c', he, h'⟩
    · have := ih h'
      rw [List.getLast?_append, this]
      rfl
    · rcases c' with _ | ⟨x, c'⟩
      · rw [List.append_nil] at he
        have := ih (a := []) h'.symm
        cases this
      · obtain ⟨rfl, -⟩ := List.cons.inj h'
        exact last_of_escapeChar he

/-! ## Brackets -/

theorem mem_jsonEscape (hd : isBracket d = true) : d ∈ jsonEscape v ↔ d ∈ v := by
  rw [jsonEscape, List.mem_flatMap]
  constructor
  · rintro ⟨c, hc, h⟩
    rcases escapeChar_cases c with ⟨he, -, -⟩ | ⟨e, r, he, -, -, -, -, -, h1, h2⟩
    · rw [he, List.mem_singleton] at h
      exact h ▸ hc
    · rw [he] at h
      simp only [List.mem_cons] at h
      rcases h with rfl | rfl | h
      · exact absurd hd (by decide)
      · rw [h1] at hd
        cases hd
      · rw [h2 d h] at hd
        cases hd
  · refine fun h => ⟨d, h, ?_⟩
    rcases escapeChar_cases d with ⟨he, -, -⟩ | ⟨e, r, -, -, -, -, -, h1, -⟩
    · simp [he]
    · rw [h1] at hd
      cases hd

theorem like_escapeChar (ho : isBracket o = true) (hd : isBracket d = true) :
    Like o d (escapeChar c) [c] := by
  rcases escapeChar_cases c with ⟨he, -, -⟩ | ⟨e, r, he, -, -, -, -, hc, h1, h2⟩
  · rw [he]
    exact Like.refl [c]
  · have out : ∀ x, isBracket x = true → x ∉ escapeChar c ∧ x ∉ [c] := by
      refine fun x hx => ⟨fun h => ?_, fun h => ?_⟩
      · rw [he] at h
        simp only [List.mem_cons] at h
        rcases h with rfl | rfl | h
        · exact absurd hx (by decide)
        · rw [h1] at hx
          cases hx
        · rw [h2 x h] at hx
          cases hx
      · rw [List.mem_singleton] at h
        rw [h, hc] at hx
        cases hx
    have h1 := like_nil (out o ho).1 (out d hd).1
    have h2 := like_nil (out o ho).2 (out d hd).2
    exact ⟨h1.net_eq.trans h2.net_eq.symm, h1.low_eq.trans h2.low_eq.symm⟩

/-- Brackets are written as they are. -/
theorem like_jsonEscape (ho : isBracket o = true) (hd : isBracket d = true) (v : Text) :
    Like o d (jsonEscape v) v := by
  induction v with
  | nil => exact Like.refl []
  | cons c v ih => exact (like_escapeChar ho hd).append ih

end Aes67
