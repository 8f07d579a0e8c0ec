import Aes67.Ravenna.HttpServer
import Aes67.Ravenna.Connection

/-!
# Paths, encoded and taken apart

The HTTP server decodes the path of a request before the interfaces split it at its slashes; the
RTSP client encodes the path it asks for, and the server of a session decodes that. A string is a
list of characters, one a byte.

* `decodePath_append_slash`: a slash of the path stays where it is, and stays one;
* **`segmentsOf_decodePath`**: it is the same to decode a path and to decode each of its segments;
* `percentEncodePath`, `IsUriPath`: what a path is in a URI;
* **`percentDecode_percentEncodePath`**: an encoded path is one, and decodes to what it was.
-/

namespace Aes67.Ravenna

/-! ## Decoding and splitting -/

namespace HttpServer

open ConnectionApi (segmentsOf)

variable {c : Char} {s : Text}

theorem hexDigit_slash : hexDigit '/' = none := by decide

/-- What starts no escape is kept. -/
theorem decodePath_cons (h : ∀ high low rest m n, c :: s = '%' :: high :: low :: rest →
    hexDigit high = some m → hexDigit low ≠ some n) :
    decodePath (c :: s) = c :: decodePath s := by
  generalize hp : c :: s = path at h
  fun_cases decodePath path with
  | case1 => cases hp
  | case2 high low rest m n hn hm hslash => exact absurd hn (h _ _ _ m n rfl hm)
  | case3 high low rest m n hn hm hslash => exact absurd hn (h _ _ _ m n rfl hm)
  | case4 high low rest hno =>
    cases hp
    rfl
  | case5 d rest hno =>
    cases hp
    rfl

/-- **A slash of the path separates what is decoded**, whatever stands around it. -/
theorem decodePath_append_slash (s rest : Text) :
    decodePath (s ++ '/' :: rest) = decodePath s ++ '/' :: decodePath rest := by
  fun_induction decodePath s with
  | case1 => exact decodePath_cons fun _ _ _ _ _ he => absurd (List.cons.inj he).1 (by decide)
  | case2 high low s m n hn hm hslash ih =>
    simp only [List.cons_append, decodePath, hm, hn, if_pos hslash, ih]
  | case3 high low s m n hn hm hslash ih =>
    simp only [List.cons_append, decodePath, hm, hn, if_neg hslash, ih]
  | case4 high low s hno ih =>
    rw [List.cons_append, decodePath_cons, ih, List.cons_append]
    rintro high' low' rest' m n he hm hn
    cases he
    exact hno m n hm hn
  | case5 c s hno ih =>
    rw [List.cons_append, decodePath_cons, ih, List.cons_append]
    rintro high low rest' m n he hm hn
    -- An escape that the slash cuts short has it for one of its digits.
    rcases s with _ | ⟨a, _ | ⟨b, s⟩⟩
    · cases he
      rw [hexDigit_slash] at hm
      cases hm
    · cases he
      rw [hexDigit_slash] at hn
      cases hn
    · cases he
      exact hno high low s rfl rfl

theorem not_mem_decodePath (h : '/' ∉ s) : '/' ∉ decodePath s := by
  fun_induction decodePath s with
  | case1 => exact h
  | case2 high low s m n hn hm hslash ih =>
    simp only [List.mem_cons, not_or] at h ⊢
    exact ⟨h.1, h.2.1, h.2.2.1, ih h.2.2.2⟩
  | case3 high low s m n hn hm hslash ih =>
    simp only [List.mem_cons, not_or] at h ⊢
    exact ⟨Ne.symm hslash, ih h.2.2.2⟩
  | case4 high low s hno ih =>
    rw [List.mem_cons, not_or] at h ⊢
    exact ⟨h.1, ih h.2⟩
  | case5 c s hno ih =>
    rw [List.mem_cons, not_or] at h ⊢
    exact ⟨h.1, ih h.2⟩

theorem decodePath_eq_nil : decodePath s = [] ↔ s = [] := by
  fun_cases decodePath s <;> simp

theorem getlines_decodePath (path : Text) :
    getlines '/' (decodePath path) = (getlines '/' path).map decodePath := by
  by_cases h : '/' ∈ path
  · obtain ⟨s, rest, rfl, hs⟩ := List.eq_append_cons_of_mem h
    rw [decodePath_append_slash, getlines_append_cons hs,
      getlines_append_cons (not_mem_decodePath hs), getlines_decodePath rest, List.map_cons]
  · rcases eq_or_ne path [] with rfl | hne
    · rfl
    · rw [getlines_singleton h hne, List.map_singleton]
      exact getlines_singleton (not_mem_decodePath h) (mt decodePath_eq_nil.mp hne)
termination_by path.length
decreasing_by
  subst_vars
  simp only [List.length_append, List.length_cons]
  omega

/-- **Decoding a path and splitting it come to the same in either order.** -/
theorem segmentsOf_decodePath (path : Text) :
    segmentsOf (decodePath path) = (segmentsOf path).map decodePath := by
  have hkeep : ∀ s : Text, decide (decodePath s ≠ []) = decide (s ≠ []) := fun s =>
    decide_eq_decide.mpr (not_congr decodePath_eq_nil)
  rw [segmentsOf, segmentsOf, getlines_decodePath, List.filter_map]
  exact congrArg (List.map decodePath) (List.filter_congr fun s _ => hkeep s)

/-- An escaped slash stays within its segment. -/
example : segmentsOf (decodePath "/a%2Fb/%63/".toList) = ["a%2Fb".toList, "c".toList] := by
  decide +kernel

end HttpServer

/-! ## The path of an RTSP request -/

/-- `percentEncodePath`: the slashes stay, since the path is made of them. -/
def percentEncodePath (text : Text) : Text :=
  text.flatMap fun c => if isUnreserved c ∨ c = '/' then [c] else escaped c

/-- A character that stands for itself in the path of a URI: one of a segment, or a slash. -/
def isPathChar (c : Char) : Bool :=
  isUnreserved c || c ∈ ['!', '$', '&', '\x27', '(', ')', '*', '+', ',', ';', '='] || c == ':' ||
    c == '@' || c == '/'

/-- **A path of a URI**: such characters, and escapes of two hexadecimal digits. -/
inductive IsUriPath : Text → Prop
  | nil : IsUriPath []
  | char {c : Char} {s : Text} : isPathChar c = true → IsUriPath s → IsUriPath (c :: s)
  | escape {high low : Char} {s : Text} : (hexDigit high).isSome → (hexDigit low).isSome →
      IsUriPath s → IsUriPath ('%' :: high :: low :: s)

variable {c : Char} {text : Text}

theorem percentEncodePath_cons (c : Char) (text : Text) : percentEncodePath (c :: text) =
    (if isUnreserved c ∨ c = '/' then [c] else escaped c) ++ percentEncodePath text :=
  List.flatMap_cons

theorem isUriPath_escaped_append (hc : c.toNat < 256) (h : IsUriPath text) :
    IsUriPath (escaped c ++ text) := by
  refine .escape ?_ ?_ h
  · rw [hexDigit_kHex (by omega)]
    rfl
  · rw [hexDigit_kHex (by omega)]
    rfl

theorem isUriPath_percentEncodePath (h : ∀ c ∈ text, c.toNat < 256) :
    IsUriPath (percentEncodePath text) := by
  induction text with
  | nil => exact .nil
  | cons c text ih =>
    have hrest := ih fun d hd => h d (List.mem_cons_of_mem _ hd)
    rw [percentEncodePath_cons]
    split_ifs with hkept
    · refine .char ?_ hrest
      rcases hkept with hu | rfl
      · simp [isPathChar, hu]
      · rfl
    · exact isUriPath_escaped_append (h c List.mem_cons_self) hrest

theorem percentDecode_encodedPath (h : ∀ c ∈ text, c.toNat < 256) :
    percentDecode (percentEncodePath text) = text := by
  induction text with
  | nil => rfl
  | cons c text ih =>
    have hrest := ih fun d hd => h d (List.mem_cons_of_mem _ hd)
    rw [percentEncodePath_cons]
    split_ifs with hkept
    · have hne : c ≠ '%' := by
        rintro rfl
        exact absurd hkept (by decide)
      rw [List.singleton_append, percentDecode_cons hne, hrest]
    · rw [percentDecode_escaped (h c List.mem_cons_self), hrest]

/-- **A path survives its encoding**, and what it is encoded to is the path of a URI. -/
theorem percentDecode_percentEncodePath (h : ∀ c ∈ text, c.toNat < 256) :
    percentDecode (percentEncodePath text) = text ∧ IsUriPath (percentEncodePath text) :=
  ⟨percentDecode_encodedPath h, isUriPath_percentEncodePath h⟩

/-- A name with an escape of its own, and bytes of either half. -/
theorem percentDecode_percentEncodePath_name :
    percentDecode (percentEncodePath ['/', '%', '4', '1', ' ', 'Ã', 'é', '%']) =
        ['/', '%', '4', '1', ' ', 'Ã', 'é', '%'] ∧
      IsUriPath (percentEncodePath ['/', '%', '4', '1', ' ', 'Ã', 'é', '%']) :=
  percentDecode_percentEncodePath (by simp)

end Aes67.Ravenna
