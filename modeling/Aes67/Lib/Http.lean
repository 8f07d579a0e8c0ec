import Aes67.Lib.Text

/-!
# HTTP/1.1 requests

A request as text: its line, its headers and its body, and how it comes off a connection in chunks.

* `Http.Request`, `Http.Request.head`, `Http.Request.text`, `Http.Request.WellFormed`: a request and
  how it is written;
* `Http.Request.Declares`: it has a header with the length of its body, in any case;
* **`Http.cut_head`**: the first blank line of a request is the one that ends its head;
* **`Http.cut_key`**: a text that stands in a line only at its start is found in the first such line;
* `Http.collect`: chunks read until what is there is enough, and **`Http.collect_eq`**: where nothing
  short of a message is enough, the message is read whole however it is split.
-/

namespace Aes67.Http

/-- The blank line, with the end of the line before. -/
def headEnd : Text := ['\r', '\n', '\r', '\n']

/-- Lines, with their ends between them. -/
def joined (line : Text) (lines : List Text) : Text :=
  line ++ lines.flatMap fun line => '\r' :: '\n' :: line

/-! ## Requests -/

/-- A character that is seen. -/
def isVisible (c : Char) : Bool := 32 < c.toNat && c.toNat < 127

/-- A character of a method or of the name of a header: all but the delimiters. -/
def isToken (c : Char) : Bool := isVisible c && !"\"(),/:;<=>?@[\\]\x7b\x7d".toList.contains c

/-- A character of a URI, reserved, unreserved or of an escape. -/
def isUri (c : Char) : Bool := isVisible c && !"\"<>\\^`\x7b|\x7d".toList.contains c

/-- A character of a header's value. -/
def isField (c : Char) : Bool := c == '\t' || 32 ≤ c.toNat && c.toNat ≠ 127

def isBlank (c : Char) : Bool := c == ' ' || c == '\t'

structure Request where
  method : Text
  target : Text
  version : Text := "HTTP/1.1".toList
  headers : List (Text × Text) := []
  body : Text := []

namespace Request

variable (r : Request)

def requestLine : Text := r.method ++ ' ' :: (r.target ++ ' ' :: r.version)

def line (h : Text × Text) : Text := h.1 ++ ':' :: h.2

/-- The lines, up to the blank one. -/
def head : Text := joined r.requestLine (r.headers.map line)

def text : Text := r.head ++ (headEnd ++ r.body)

structure WellFormed : Prop where
  method_ne : r.method ≠ []
  method : ∀ c ∈ r.method, isToken c = true
  target_ne : r.target ≠ []
  target : ∀ c ∈ r.target, isUri c = true
  http : "HTTP/".toList <+: r.version
  version : ∀ c ∈ r.version, isSpace c = false
  name_ne : ∀ h ∈ r.headers, h.1 ≠ []
  name : ∀ h ∈ r.headers, ∀ c ∈ h.1, isToken c = true
  value : ∀ h ∈ r.headers, ∀ c ∈ h.2, isField c = true

instance : Decidable r.WellFormed :=
  decidable_of_iff (r.method ≠ [] ∧ r.method.all isToken = true ∧ r.target ≠ [] ∧
      r.target.all isUri = true ∧ "HTTP/".toList.isPrefixOf r.version = true ∧
      (r.version.all fun c => !isSpace c) = true ∧ (r.headers.all fun h => !h.1.isEmpty) = true ∧
      (r.headers.all fun h => h.1.all isToken) = true ∧
      (r.headers.all fun h => h.2.all isField) = true) (by
    simp only [List.all_eq_true, List.isPrefixOf_iff_prefix, Bool.not_eq_true',
      List.isEmpty_eq_false_iff]
    exact ⟨fun ⟨a, b, c, d, e, f, g, i, j⟩ => ⟨a, b, c, d, e, f, g, i, j⟩,
      fun ⟨a, b, c, d, e, f, g, i, j⟩ => ⟨a, b, c, d, e, f, g, i, j⟩⟩)

end Request

def contentLength : Text := "content-length".toList

/-- The name of a header, without regard to case. -/
def Named (name : Text) (h : Text × Text) : Prop := h.1.map Char.toLower = name

instance (name : Text) (h : Text × Text) : Decidable (Named name h) :=
  inferInstanceAs (Decidable (h.1.map Char.toLower = name))

/-- A number in a header's value, with blanks around it. -/
def States (value : Text) (n : ℕ) : Prop :=
  ∃ before digits after : Text, value = before ++ (digits ++ after) ∧
    (∀ c ∈ before, isBlank c = true) ∧ (∀ c ∈ after, isBlank c = true) ∧
    digits ≠ [] ∧ (∀ c ∈ digits, c.isDigit = true) ∧ Nat.ofDigitChars 10 digits 0 = n

/-- **The length of the body is declared**, and nowhere otherwise. -/
structure Request.Declares (r : Request) : Prop where
  declared : ∃ h ∈ r.headers, Named contentLength h
  correct : ∀ h ∈ r.headers, Named contentLength h → States h.2 r.body.length

/-! ## Characters -/

theorem isSpace_of_isVisible {c : Char} (h : isVisible c = true) : isSpace c = false := by
  rw [isVisible, Bool.and_eq_true, decide_eq_true_iff] at h
  by_contra hc
  simp only [isSpace, Bool.not_eq_false, Bool.or_eq_true, beq_iff_eq] at hc
  rcases hc with ((((rfl | rfl) | rfl) | rfl) | rfl) | rfl <;> exact absurd h.1 (by decide)

theorem isSpace_of_isToken {c : Char} (h : isToken c = true) : isSpace c = false :=
  isSpace_of_isVisible (Bool.and_eq_true_iff.mp h).1

theorem isSpace_of_isUri {c : Char} (h : isUri c = true) : isSpace c = false :=
  isSpace_of_isVisible (Bool.and_eq_true_iff.mp h).1

theorem ne_colon_of_isToken {c : Char} (h : isToken c = true) : c ≠ ':' := by
  rintro rfl
  exact absurd h (by decide)

theorem not_isField : isField '\r' = false ∧ isField '\n' = false := by decide

/-! ## Lines -/

section Lines

variable {key line l : Text} {lines : List Text}

theorem joined_cons : joined line (l :: lines) = line ++ '\r' :: '\n' :: joined l lines := by
  rw [joined, joined, List.flatMap_cons, List.cons_append, List.cons_append]

/-- **The first blank line ends the lines**, none of which is blank. -/
theorem cut_joined (h0 : '\r' ∉ line) (h : ∀ l ∈ lines, l ≠ [] ∧ '\r' ∉ l) (s : Text) :
    cut headEnd (joined line lines ++ (headEnd ++ s)) = some (joined line lines, s) := by
  induction lines generalizing line with
  | nil =>
    rw [joined, List.flatMap_nil, List.append_nil, headEnd, cut_append_of_not_mem h0,
      cut_append (List.cons_ne_nil _ _)]
    simp
  | cons l lines ih =>
    obtain ⟨hne, hl⟩ := h l List.mem_cons_self
    have hrest := ih hl fun l' hl' => h l' (List.mem_cons_of_mem _ hl')
    obtain ⟨c, l', rfl⟩ := List.exists_cons_of_ne_nil hne
    have hc : c ≠ '\r' := fun he => hl (he ▸ List.mem_cons_self)
    have hstart : ∃ t, joined (c :: l') lines ++ (headEnd ++ s) = c :: t := ⟨_, rfl⟩
    obtain ⟨t, ht⟩ := hstart
    rw [joined_cons, List.append_assoc, List.cons_append, List.cons_append, headEnd,
      cut_append_of_not_mem h0, ← headEnd, ht]
    rw [ht] at hrest
    -- The line's end is followed by a character that no blank line goes on with.
    rw [cut, if_neg (by simp [headEnd, List.isPrefixOf, hc.symm]), cut,
      if_neg (by simp [headEnd, List.isPrefixOf]), hrest]
    simp

/-- **A text that stands in a line only at its start is found in the first such line.** -/
theorem cut_key (hne : key ≠ []) (hcr : '\r' ∉ key) (hlf : '\n' ∉ key)
    (h : ∀ l ∈ line :: lines, key <:+: l → key <+: l) :
    (∃ value rest, key ++ value ∈ line :: lines ∧ (rest = [] ∨ ∃ t, rest = '\r' :: t) ∧
      (cut key (joined line lines)).map Prod.snd = some (value ++ rest)) ∨
    (∀ l ∈ line :: lines, ¬ key <:+: l) ∧ cut key (joined line lines) = none := by
  induction lines generalizing line with
  | nil =>
    rw [joined, List.flatMap_nil, List.append_nil]
    by_cases hkey : key <:+: line
    · obtain ⟨value, rfl⟩ := h line List.mem_cons_self hkey
      refine Or.inl ⟨value, [], List.mem_cons_self, Or.inl rfl, ?_⟩
      rw [cut_append hne, List.append_nil]
      rfl
    · refine Or.inr ⟨fun l hl => ?_, cut_eq_none.mpr hkey⟩
      rw [List.mem_singleton.mp hl]
      exact hkey
  | cons l lines ih =>
    by_cases hkey : key <:+: line
    · obtain ⟨value, rfl⟩ := h line List.mem_cons_self hkey
      refine Or.inl ⟨value, _, List.mem_cons_self, Or.inr ⟨'\n' :: joined l lines, rfl⟩, ?_⟩
      rw [joined_cons, List.append_assoc, cut_append hne]
      rfl
    · have hpast : (cut key (joined line (l :: lines))).map Prod.snd =
          (cut key (joined l lines)).map Prod.snd := by
        rw [joined_cons, cut_append_cons hcr hkey, ← List.nil_append ('\n' :: joined l lines),
          cut_append_cons hlf (by simpa using hne), Option.map_map, Option.map_map]
        rfl
      rcases @ih l fun l' hl' => h l' (List.mem_cons_of_mem _ hl') with
        ⟨value, rest, hmem, hrest, hcut⟩ | ⟨hnone, hcut⟩
      · exact Or.inl ⟨value, rest, List.mem_cons_of_mem _ hmem, hrest, hpast.trans hcut⟩
      · refine Or.inr ⟨fun l' hl' => ?_, ?_⟩
        · rcases List.mem_cons.mp hl' with rfl | hl'
          · exact hkey
          · exact hnone l' hl'
        · rw [hcut] at hpast
          exact Option.map_eq_none_iff.mp hpast

end Lines

/-! ## The head of a request -/

namespace Request

variable {r : Request} {p a b : Text}

theorem WellFormed.not_mem_requestLine (h : r.WellFormed) :
    '\r' ∉ r.requestLine ∧ '\n' ∉ r.requestLine := by
  have hno : ∀ c : Char, isSpace c = true → c ≠ ' ' → c ∉ r.requestLine := by
    intro c hc hsp hm
    have hplain : ∀ s : Text, (∀ c ∈ s, isSpace c = false) → c ∉ s := fun s hs hm => by
      rw [hs c hm] at hc
      cases hc
    simp only [requestLine, List.mem_append, List.mem_cons] at hm
    rcases hm with hm | hm | hm | hm | hm
    · exact hplain _ (fun c hc => isSpace_of_isToken (h.method c hc)) hm
    · exact hsp hm
    · exact hplain _ (fun c hc => isSpace_of_isUri (h.target c hc)) hm
    · exact hsp hm
    · exact hplain _ h.version hm
  exact ⟨hno _ rfl (by decide), hno _ rfl (by decide)⟩

theorem WellFormed.of_mem_lines (h : r.WellFormed) {l : Text} (hl : l ∈ r.headers.map line) :
    l ≠ [] ∧ '\r' ∉ l ∧ '\n' ∉ l := by
  obtain ⟨header, hm, rfl⟩ := List.mem_map.mp hl
  have hno : ∀ c : Char, isSpace c = true → isField c = false → c ∉ Request.line header := by
    intro c hc hf hin
    simp only [Request.line, List.mem_append, List.mem_cons] at hin
    rcases hin with hin | rfl | hin
    · have := isSpace_of_isToken (h.name header hm c hin)
      rw [hc] at this
      cases this
    · cases hc
    · have := h.value header hm c hin
      rw [hf] at this
      cases this
  refine ⟨?_, hno _ rfl not_isField.1, hno _ rfl not_isField.2⟩
  simp [Request.line]

/-- **The head of a request ends at its first blank line.** -/
theorem WellFormed.cut_head (h : r.WellFormed) (s : Text) :
    cut headEnd (r.head ++ (headEnd ++ s)) = some (r.head, s) :=
  cut_joined h.not_mem_requestLine.1
    (fun _ hl => ⟨(h.of_mem_lines hl).1, (h.of_mem_lines hl).2.1⟩) s

/-- What has come of a request has its first blank line where the request has. -/
theorem WellFormed.cut_of_isPrefix (h : r.WellFormed) (hp : p <+: r.text)
    (hc : cut headEnd p = some (a, b)) : a = r.head ∧ b <+: r.body := by
  obtain ⟨t, ht⟩ := hp
  have hwhole := cut_append_right hc t
  rw [ht, text, h.cut_head] at hwhole
  obtain ⟨rfl, hb⟩ := Prod.mk.inj (Option.some.inj hwhole)
  exact ⟨rfl, hb ▸ List.prefix_append b t⟩

end Request

/-! ## Chunks -/

/-- Chunks are read until what is there is enough. -/
def collect (enough : Text → Bool) : Text → List Text → Text
  | text, [] => text
  | text, chunk :: chunks =>
    if enough (text ++ chunk) then text ++ chunk else collect enough (text ++ chunk) chunks

/-- **Where nothing short of a message is enough**, the message is read whole however it is split. -/
theorem collect_eq {enough : Text → Bool} {text : Text} {chunks : List Text}
    (h : ∀ p, p <+: text ++ chunks.flatten → enough p = true → p = text ++ chunks.flatten) :
    collect enough text chunks = text ++ chunks.flatten := by
  induction chunks generalizing text with
  | nil => exact (List.append_nil text).symm
  | cons chunk chunks ih =>
    rw [List.flatten_cons, ← List.append_assoc] at h ⊢
    rw [collect]
    split_ifs with henough
    · exact h _ (List.prefix_append _ _) henough
    · exact ih h

end Aes67.Http
