import Mathlib
import Aes67.Lib.Text

/-!
# The URL of a session

What a session's URL goes through: the name is percent-encoded into it, the client escapes the URL
once more for the request line, and the server decodes the path it finds there. A string is a list
of characters, one a byte.

* `percentEncoded`, `MDNSService.url`: the URL `RTSPSessionDiscovery::describe` asks for;
* `encodeRequestURL`: the escaping of a request line;
* `percentDecode`, `pathOf`: what a server makes of a URL;
* **`MDNSService.pathOf_url`**: the path of a session's URL decodes to `/by-name/` and its name.
-/

namespace Aes67

/-- The digit of a value below 16. -/
def kHex (n : ℕ) : Char := "0123456789ABCDEF".toList.getD n '0'

def isUnreserved (c : Char) : Bool :=
  ('A' ≤ c && c ≤ 'Z') || ('a' ≤ c && c ≤ 'z') || ('0' ≤ c && c ≤ '9') || c == '-' || c == '.' ||
    c == '_' || c == '~'

/-- A byte as `%XX`. -/
def escaped (c : Char) : Text := ['%', kHex (c.toNat / 16), kHex (c.toNat % 16)]

/-- The percent-encoding of a name, for a path. -/
def percentEncoded (text : Text) : Text :=
  text.flatMap fun c => if isUnreserved c then [c] else escaped c

/-- What a request line escapes of the URL it is given. -/
def encodeRequestURL (text : Text) : Text :=
  text.flatMap fun c =>
    if c ∈ [' ', '+', '\r', '\n', '\x27', ',', ';'] ∨ 128 ≤ c.toNat then escaped c else [c]

/-- `percentDecode`; a malformed escape is left as it stands. -/
def percentDecode : Text → Text
  | [] => []
  | '%' :: high :: low :: text =>
    match hexDigit high, hexDigit low with
    | some h, some l => Char.ofNat (h * 16 + l) :: percentDecode text
    | _, _ => '%' :: percentDecode (high :: low :: text)
  | c :: text => c :: percentDecode text

/-- The path of a URL, which is usually absolute, before it is decoded. -/
def pathOf (url : Text) : Text :=
  match cut "://".toList url with
  | none => url
  | some (_, rest) =>
    match cut ['/'] rest with
    | none => ['/']
    | some (_, path) => '/' :: path

/-! ## Encoding and decoding -/

/-- A character that neither a request line nor a URL has a use for. -/
def isUrlSafe (c : Char) : Bool := isUnreserved c || c == '%' || c == ':' || c == '/'

variable {c : Char} {text : Text}

theorem toNat_lt_of_isUrlSafe (h : isUrlSafe c = true) : c.toNat < 128 := by
  simp only [isUrlSafe, isUnreserved, Bool.or_eq_true, Bool.and_eq_true, decide_eq_true_iff,
    beq_iff_eq, Char.le_def, UInt32.le_iff_toNat_le] at h
  rcases h with ((((((((h | h) | h) | rfl) | rfl) | rfl) | rfl) | rfl) | rfl) | rfl
  · change 65 ≤ c.toNat ∧ c.toNat ≤ 90 at h
    omega
  · change 97 ≤ c.toNat ∧ c.toNat ≤ 122 at h
    omega
  · change 48 ≤ c.toNat ∧ c.toNat ≤ 57 at h
    omega
  all_goals decide

/-- What holds of every URL character holds of each of them. -/
theorem forall_isUrlSafe {P : Char → Prop} (hP : ∀ n < 128, isUrlSafe (Char.ofNat n) = true →
    P (Char.ofNat n)) (h : isUrlSafe c = true) : P c := by
  have := hP c.toNat (toNat_lt_of_isUrlSafe h) (by rwa [Char.ofNat_toNat])
  rwa [Char.ofNat_toNat] at this

theorem isSpace_of_isUrlSafe (h : isUrlSafe c = true) : isSpace c = false :=
  forall_isUrlSafe (P := fun c => isSpace c = false) (by decide) h

theorem isUrlSafe_of_isDigit (h : c.isDigit = true) : isUrlSafe c = true := by
  rw [Char.isDigit, Bool.and_eq_true, decide_eq_true_iff, decide_eq_true_iff] at h
  have h1 : ('0' : Char) ≤ c := h.1
  have h2 : c ≤ ('9' : Char) := h.2
  simp [isUrlSafe, isUnreserved, h1, h2]

theorem hexDigit_kHex {n : ℕ} (h : n < 16) : hexDigit (kHex n) = some n := by
  have : ∀ n < 16, hexDigit (kHex n) = some n := by decide
  exact this n h

theorem isUrlSafe_kHex {n : ℕ} (h : n < 16) : isUrlSafe (kHex n) = true := by
  have : ∀ n < 16, isUrlSafe (kHex n) = true := by decide
  exact this n h

theorem isUrlSafe_of_mem_percentEncoded (hb : ∀ c ∈ text, c.toNat < 256)
    (h : c ∈ percentEncoded text) : isUrlSafe c = true := by
  obtain ⟨d, hd, hc⟩ := List.mem_flatMap.mp h
  have hlt := hb d hd
  split_ifs at hc with hu
  · rw [List.mem_singleton.mp hc]
    simp [isUrlSafe, hu]
  · simp only [escaped, List.mem_cons, List.not_mem_nil, or_false] at hc
    rcases hc with rfl | rfl | rfl
    · rfl
    · exact isUrlSafe_kHex (by omega)
    · exact isUrlSafe_kHex (by omega)

theorem encodeRequestURL_of_forall (h : ∀ c ∈ text, isUrlSafe c = true) :
    encodeRequestURL text = text := by
  have hplain : ∀ c, isUrlSafe c = true →
      ¬ (c ∈ [' ', '+', '\r', '\n', '\x27', ',', ';'] ∨ 128 ≤ c.toNat) := fun c hc =>
    forall_isUrlSafe (P := fun c => ¬ (c ∈ [' ', '+', '\r', '\n', '\x27', ',', ';'] ∨
      128 ≤ c.toNat)) (by decide) hc
  induction text with
  | nil => rfl
  | cons c text ih =>
    rw [encodeRequestURL, List.flatMap_cons, if_neg (hplain c (h c List.mem_cons_self))]
    exact congrArg (c :: ·) (ih fun d hd => h d (List.mem_cons_of_mem _ hd))

theorem percentDecode_cons (h : c ≠ '%') (text : Text) :
    percentDecode (c :: text) = c :: percentDecode text := by
  rw [percentDecode]
  rintro _ _ _ rfl
  exact absurd rfl h

theorem percentDecode_escaped (h : c.toNat < 256) (text : Text) :
    percentDecode (escaped c ++ text) = c :: percentDecode text := by
  have hvalue : c.toNat / 16 * 16 + c.toNat % 16 = c.toNat := by omega
  simp only [escaped, List.cons_append, List.nil_append, percentDecode,
    hexDigit_kHex (n := c.toNat / 16) (by omega), hexDigit_kHex (n := c.toNat % 16) (by omega),
    hvalue, Char.ofNat_toNat]

/-- **Decoding undoes encoding**, for every byte string. -/
theorem percentDecode_percentEncoded (h : ∀ c ∈ text, c.toNat < 256) :
    percentDecode (percentEncoded text) = text := by
  induction text with
  | nil => rfl
  | cons c text ih =>
    have ih := ih fun d hd => h d (List.mem_cons_of_mem _ hd)
    rw [percentEncoded, List.flatMap_cons]
    split_ifs with hu
    · have hne : c ≠ '%' := by rintro rfl; exact absurd hu (by decide)
      exact (percentDecode_cons hne _).trans (congrArg (c :: ·) ih)
    · exact (percentDecode_escaped (h c List.mem_cons_self) _).trans (congrArg (c :: ·) ih)

/-! ## Sessions -/

/-- What RAVENNA publishes sessions under. -/
def byName : Text := "/by-name/".toList

def rtspScheme : Text := "rtsp://".toList

/-- A resolved service: its instance name, and where it is. -/
structure MDNSService where
  name : Text
  address : Text
  port : UInt16
  bytes : ∀ c ∈ name, c.toNat < 256
  /-- An IPv4 literal, as `inet_ntop` writes it. -/
  literal : ∀ c ∈ address, c.isDigit = true ∨ c = '.'

namespace MDNSService

variable (service : MDNSService)

/-- The path of the session's description. -/
def path : Text := byName ++ service.name

/-- The URL `describe` fetches. -/
def url : Text :=
  rtspScheme ++ service.address ++ [':'] ++ showNat service.port.toNat ++ byName ++
    percentEncoded service.name

theorem isUrlSafe_of_mem_address (h : c ∈ service.address) : isUrlSafe c = true := by
  rcases service.literal c h with h | rfl
  · exact isUrlSafe_of_isDigit h
  · rfl

theorem isUrlSafe_of_mem_url (h : c ∈ service.url) : isUrlSafe c = true := by
  have hscheme : rtspScheme.all isUrlSafe = true := by decide
  have hbyName : byName.all isUrlSafe = true := by decide
  simp only [url, List.mem_append, List.mem_singleton] at h
  rcases h with ((((h | h) | rfl) | h) | h) | h
  · exact List.all_eq_true.mp hscheme c h
  · exact service.isUrlSafe_of_mem_address h
  · rfl
  · exact isUrlSafe_of_isDigit (isDigit_of_mem_showNat h)
  · exact List.all_eq_true.mp hbyName c h
  · exact isUrlSafe_of_mem_percentEncoded service.bytes h

theorem url_ne_nil : service.url ≠ [] := by
  simp [url]

/-- The request line has the URL as it is, in one piece. -/
theorem encodeRequestURL_url : encodeRequestURL service.url = service.url :=
  encodeRequestURL_of_forall fun _ => service.isUrlSafe_of_mem_url

theorem percentDecode_append {p : Text} (h : '%' ∉ p) (text : Text) :
    percentDecode (p ++ text) = p ++ percentDecode text := by
  induction p with
  | nil => rfl
  | cons c p ih =>
    rw [List.mem_cons, not_or] at h
    rw [List.cons_append, percentDecode_cons (Ne.symm h.1), ih h.2, List.cons_append]

theorem cut_scheme (text : Text) :
    cut "://".toList (rtspScheme ++ text) = some ("rtsp".toList, text) := by
  have h : cut "://".toList rtspScheme = some ("rtsp".toList, []) := by decide
  have := cut_append_right h text
  rwa [List.nil_append] at this

/-- **The path of a session's URL is the session's**, for every name. -/
theorem pathOf_url : percentDecode (pathOf service.url) = service.path := by
  have hslash : '/' ∉ service.address ++ [':'] ++ showNat service.port.toNat := by
    intro h
    simp only [List.mem_append, List.mem_singleton] at h
    rcases h with (h | h) | h
    · rcases service.literal _ h with h | h <;> exact absurd h (by decide)
    · exact absurd h (by decide)
    · exact absurd (isDigit_of_mem_showNat h) (by decide)
  have hbyName : byName = '/' :: byName.tail := by decide
  have hurl : service.url = rtspScheme ++ (service.address ++ [':'] ++
      showNat service.port.toNat ++ '/' :: (byName.tail ++ percentEncoded service.name)) := by
    rw [← List.cons_append, ← hbyName]
    simp only [url, List.append_assoc]
  rw [hurl, pathOf, cut_scheme]
  dsimp only
  rw [cut_char hslash]
  dsimp only
  rw [← List.cons_append, ← hbyName, percentDecode_append (by decide),
    percentDecode_percentEncoded service.bytes]
  rfl

theorem pathOf_ne_nil : pathOf service.url ≠ [] := by
  intro h
  have hpath := service.pathOf_url
  rw [h, path] at hpath
  exact absurd (List.append_eq_nil_iff.mp hpath.symm).1 (by decide)

end MDNSService

end Aes67
