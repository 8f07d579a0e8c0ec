import Mathlib
import Aes67.Lib.OrdMap
import Aes67.Discovery.RtspServer

/-!
# The RTSP client

The model of `RTSPClient`: the request a DESCRIBE sends, how the response is read off the socket,
chunk by chunk, and what is made of the text then read. The socket gives the chunks of a list and
then reports the end of the connection.

* `describeRequest`: the text `sendRequest` sends;
* `readResponse`: the two loops that read a response;
* `parseResponse`: the status line, the headers and the body;
* **`readHeaders_spec`**, **`readBody_of_le`**: how far each loop reads;
* **`headerLines_append`**, **`headerLines_blank`**: the lines of a header block, and where a blank
  line ends it.
-/

namespace Aes67.RTSPClient

/-! ## Requests -/

/-- What `sendRequest` sends for a DESCRIBE of the client's URL. -/
def describeRequest (url userAgent : Text) (cseq : ℕ) : Text :=
  requestLine "DESCRIBE".toList (encodeRequestURL url) ++ crlf ++
    (cseqPart ++ showNat cseq ++ crlf ++ ("User-Agent: ".toList ++ userAgent ++ crlf) ++
      ("Accept: application/sdp".toList ++ crlf ++ crlf))

/-! ## Reading a response -/

/-- `kMaxRTSPBodyBytes`, 1 MiB. -/
def kMaxRTSPBodyBytes : ℕ := 2 ^ 20

def parseContentLength (text : Text) : Option ℕ :=
  (stoull text).filter (· ≤ kMaxRTSPBodyBytes)

def isBlank (c : Char) : Bool := c == ' ' || c == '\t'

/-- The length a `Content-Length:` states, by what follows it; 0 where it states none. -/
def statedLength (after : Text) : ℕ :=
  match cut crlf after with
  | none => 0
  | some (value, _) =>
    let value := value.dropWhile isBlank
    if value = [] then 0 else (parseContentLength value).getD 0

def endOfHeaders : Text := crlf ++ crlf

/-- The content length `readResponse` finds in the text so far: the first in it, if that stands in
the headers. -/
def contentLengthIn (response : Text) : ℕ :=
  match cut endOfHeaders response, cut "Content-Length:".toList response with
  | some (headers, _), some (before, after) =>
    if before.length < headers.length then statedLength after else 0
  | _, _ => 0

/-- The first loop of `readResponse`: what has been read when the headers are complete, and the
chunks still to come. -/
def readHeaders (response : Text) : List Text → Option (Text × List Text)
  | [] => none
  | chunk :: chunks =>
    if contains endOfHeaders (response ++ chunk) then some (response ++ chunk, chunks)
    else readHeaders (response ++ chunk) chunks

/-- The second loop. -/
def readBody (contentLength : ℕ) (response : Text) (currentBodySize : ℕ) : List Text → Text
  | [] => response
  | chunk :: chunks =>
    if currentBodySize < contentLength then
      readBody contentLength (response ++ chunk) (currentBodySize + chunk.length) chunks
    else response

def readResponse (chunks : List Text) : Option Text :=
  (readHeaders [] chunks).map fun (response, chunks) =>
    match cut endOfHeaders response with
    | some (_, body) => readBody (contentLengthIn response) response body.length chunks
    | none => response

/-! ## Parsing a response -/

structure RTSPResponse where
  statusCode : ℤ := 0
  statusMessage : Text := []
  headers : OrdMap Text Text := .empty
  body : Text := []

/-- `statusLine >> protocol >> response.statusCode`, and the rest of the line. -/
def readStatus (line : Text) : ℤ × Text :=
  let line := (line.dropWhile isSpace).dropWhile (!isSpace ·)
  match scanInt line with
  | none => (0, [])
  | some (neg, n) =>
    let value : ℤ := if neg then -n else n
    if value < -2 ^ 31 then (-2 ^ 31, [])
    else if 2 ^ 31 ≤ value then (2 ^ 31 - 1, [])
    else
      let message := ((line.dropWhile isSpace).dropWhile fun c => c == '-' || c == '+').dropWhile
        Char.isDigit
      (value, if message.head? = some ' ' then message.tail else message)

/-- Without the carriage return at its end. -/
def chomp (line : Text) : Text := if line.getLast? = some '\r' then line.dropLast else line

/-- The lines the header loop reads, and what it leaves; `line` is what has been read of the line
under way. The loop ends at a blank line, which it reads too. -/
def headerLines (line : Text) : Text → List Text × Text
  | [] => (if line = [] ∨ line = ['\r'] then [] else [line], [])
  | c :: s =>
    if c = '\n' then
      if line = [] ∨ line = ['\r'] then ([], s)
      else (line :: (headerLines [] s).1, (headerLines [] s).2)
    else headerLines (line ++ [c]) s

/-- Without the blanks at either end, unless there is nothing else. -/
def trimBlanks (value : Text) : Text :=
  if value.all isBlank then value else (value.dropWhile isBlank).rdropWhile isBlank

/-- One header line. -/
def addHeader (headers : OrdMap Text Text) (line : Text) : OrdMap Text Text :=
  match cut [':'] (chomp line) with
  | none => headers
  | some (key, value) => headers.insert key (trimBlanks value)

def parseResponse (response : Text) : Option RTSPResponse :=
  if response = [] then none
  else
    let line := chomp (response.takeWhile (· ≠ '\n'))
    let (lines, stream) := headerLines [] (response.dropWhile (· ≠ '\n')).tail
    let headers := lines.foldl addHeader .empty
    some
      { statusCode := (readStatus line).1
        statusMessage := (readStatus line).2
        headers := headers
        body := match headers.find? "Content-Length".toList with
          | some value =>
            match parseContentLength value with
            | some contentLength => stream.take contentLength
            | none => []
          | none => stream }

/-- The body that the client ends up with, if it gets a response. -/
def fetched (chunks : List Text) : Option Text :=
  ((readResponse chunks).bind parseResponse).map RTSPResponse.body

/-- The response arrives in these chunks. -/
def ArrivesIn (response : Text) (chunks : List Text) : Prop :=
  chunks.flatten = response ∧ ∀ chunk ∈ chunks, chunk ≠ [] ∧ chunk.length ≤ 4095

variable {response chunk s t : Text} {chunks : List Text} {contentLength size : ℕ}

/-! ## How far the client reads -/

theorem readHeaders_flatten {read rest : _} (h : readHeaders response chunks = some (read, rest)) :
    read ++ rest.flatten = response ++ chunks.flatten := by
  induction chunks generalizing response with
  | nil => cases h
  | cons chunk chunks ih =>
    rw [readHeaders] at h
    split_ifs at h
    · cases h
      simp
    · rw [ih h, List.flatten_cons, List.append_assoc]

/-- **The first loop** stops with the chunk that completes the headers. -/
theorem readHeaders_spec (h : contains endOfHeaders (response ++ chunks.flatten) = true)
    (hr : contains endOfHeaders response = false) :
    ∃ read rest, readHeaders response chunks = some (read, rest) ∧
      read ++ rest.flatten = response ++ chunks.flatten ∧ contains endOfHeaders read = true ∧
      ∀ c ∈ rest, c ∈ chunks := by
  induction chunks generalizing response with
  | nil =>
    rw [List.flatten_nil, List.append_nil, hr] at h
    cases h
  | cons chunk chunks ih =>
    rw [List.flatten_cons, ← List.append_assoc] at h
    rw [readHeaders]
    cases hc : contains endOfHeaders (response ++ chunk) with
    | true =>
      refine ⟨response ++ chunk, chunks, rfl, by simp, hc, fun c hc => ?_⟩
      exact List.mem_cons_of_mem _ hc
    | false =>
      obtain ⟨read, rest, hread, hall, hcont, hmem⟩ := ih h hc
      refine ⟨read, rest, hread, by simpa using hall, hcont, fun c hc => ?_⟩
      exact List.mem_cons_of_mem _ (hmem c hc)

/-- It stops within the chunks that complete them. -/
theorem readHeaders_append {read rest : _} (h : contains endOfHeaders (response ++ chunks.flatten) = true)
    (hr : contains endOfHeaders response = false) (later : List Text)
    (hread : readHeaders response (chunks ++ later) = some (read, rest)) :
    read <+: response ++ chunks.flatten := by
  induction chunks generalizing response with
  | nil =>
    rw [List.flatten_nil, List.append_nil, hr] at h
    cases h
  | cons chunk chunks ih =>
    rw [List.flatten_cons, ← List.append_assoc] at h ⊢
    rw [List.cons_append, readHeaders] at hread
    cases hc : contains endOfHeaders (response ++ chunk) with
    | true =>
      rw [hc, if_pos rfl] at hread
      cases hread
      exact List.prefix_append _ _
    | false =>
      rw [hc, if_neg Bool.false_ne_true] at hread
      exact ih h hc hread

theorem readBody_prefix (contentLength : ℕ) (response : Text) (size : ℕ) (chunks : List Text) :
    ∃ more, readBody contentLength response size chunks = response ++ more ∧
      more <+: chunks.flatten := by
  induction chunks generalizing response size with
  | nil => exact ⟨[], by simp [readBody], List.nil_prefix⟩
  | cons chunk chunks ih =>
    rw [readBody]
    split_ifs
    · obtain ⟨more, hmore, hp⟩ := ih (response ++ chunk) (size + chunk.length)
      refine ⟨chunk ++ more, by rw [hmore, List.append_assoc], ?_⟩
      rw [List.flatten_cons]
      exact List.prefix_append_right_inj _ |>.mpr hp
    · exact ⟨[], by simp, List.nil_prefix⟩

/-- **The second loop** reads everything where no less is stated. -/
theorem readBody_of_le (hc : ∀ chunk ∈ chunks, chunk ≠ [])
    (h : size + chunks.flatten.length ≤ contentLength) :
    readBody contentLength response size chunks = response ++ chunks.flatten := by
  induction chunks generalizing response size with
  | nil => simp [readBody]
  | cons chunk chunks ih =>
    have hpos := List.length_pos_iff.mpr (hc chunk List.mem_cons_self)
    rw [List.flatten_cons, List.length_append] at h
    rw [readBody, if_pos (by omega), ih (fun c hm => hc c (List.mem_cons_of_mem _ hm)) (by omega),
      List.flatten_cons, List.append_assoc]

/-- Byte by byte, it reads as many bytes as are stated. -/
theorem readBody_singletons (h : contentLength ≤ size + s.length) (hs : size ≤ contentLength) :
    readBody contentLength response size (s.map ([·])) =
      response ++ s.take (contentLength - size) := by
  induction s generalizing response size with
  | nil => simp [readBody]
  | cons c s ih =>
    rw [List.map_cons, readBody]
    split_ifs with hlt
    · rw [List.length_cons] at h
      rw [ih (by simpa using by omega) (by simpa using hlt)]
      have : contentLength - size = (contentLength - (size + [c].length)) + 1 := by
        simp only [List.length_singleton]
        omega
      rw [this, List.take_succ_cons, List.append_assoc]
      rfl
    · have : contentLength - size = 0 := by omega
      rw [this, List.take_zero, List.append_nil]

/-! ## Where the headers end -/

/-- A text that a line feed stands before has no blank line. -/
def BlankFree (text : Text) : Prop :=
  ¬ ['\n', '\n'] <:+: '\n' :: text ∧ ¬ ['\n', '\r', '\n'] <:+: '\n' :: text

instance (text : Text) : Decidable (BlankFree text) := inferInstanceAs (Decidable (_ ∧ _))

/-- **A block without a blank line** is read to its end. -/
theorem headerLines_append (line block : Text) (h : BlankFree (line ++ block ++ ['\n'])) (s : Text) :
    ∃ lines, headerLines line (block ++ '\n' :: s) =
      (lines ++ (headerLines [] s).1, (headerLines [] s).2) := by
  induction block generalizing line with
  | nil =>
    have hline : ¬ (line = [] ∨ line = ['\r']) := by
      rintro (rfl | rfl)
      · exact h.1 (by decide)
      · exact h.2 (by decide)
    exact ⟨[line], by simp [headerLines, hline]⟩
  | cons c block ih =>
    by_cases hc : c = '\n'
    · subst hc
      have hline : ¬ (line = [] ∨ line = ['\r']) := by
        rintro (rfl | rfl)
        · exact h.1 ⟨[], block ++ ['\n'], by simp⟩
        · exact h.2 ⟨[], block ++ ['\n'], by simp⟩
      have hinfix : '\n' :: ([] ++ block ++ ['\n']) <:+: '\n' :: (line ++ '\n' :: block ++ ['\n']) :=
        ⟨'\n' :: line, [], by simp⟩
      obtain ⟨lines, hlines⟩ := ih [] ⟨fun hi => h.1 (hi.trans hinfix),
        fun hi => h.2 (hi.trans hinfix)⟩
      exact ⟨line :: lines, by simp [headerLines, hline, hlines]⟩
    · obtain ⟨lines, hlines⟩ := ih (line ++ [c]) (by simpa using h)
      exact ⟨lines, by rw [List.cons_append, headerLines, if_neg hc, hlines]⟩

/-- A line that is not blank leaves the blank lines to what follows it. -/
theorem BlankFree.of_append {line block : Text} (hl : '\n' ∉ line)
    (h0 : ¬ (line = [] ∨ line = ['\r'])) (h : BlankFree block) :
    BlankFree (line ++ '\n' :: block) := by
  constructor
  · intro hi
    rcases List.infix_cons_iff.mp hi with hp | hi
    · rcases line with _ | ⟨c, line⟩
      · exact h0 (.inl rfl)
      · have hc := (List.cons_prefix_cons.mp (List.cons_prefix_cons.mp hp).2).1
        exact hl (hc ▸ List.mem_cons_self)
    · exact h.1 (infix_of_not_mem hl hi)
  · intro hi
    rcases List.infix_cons_iff.mp hi with hp | hi
    · have hp := (List.cons_prefix_cons.mp hp).2
      rcases line with _ | ⟨c, _ | ⟨c', line⟩⟩
      · exact h0 (.inl rfl)
      · obtain ⟨rfl, -⟩ := List.cons_prefix_cons.mp hp
        exact h0 (.inr rfl)
      · have hc := (List.cons_prefix_cons.mp (List.cons_prefix_cons.mp hp).2).1
        exact hl (hc ▸ by simp)
    · exact h.2 (infix_of_not_mem hl hi)

theorem blankFree_of_not_mem {line : Text} (hl : '\n' ∉ line) : BlankFree line := by
  constructor <;> intro hi
  · rcases List.infix_cons_iff.mp hi with hp | hi
    · exact hl ((List.cons_prefix_cons.mp hp).2.subset (by simp))
    · exact hl (hi.subset (by simp))
  · rcases List.infix_cons_iff.mp hi with hp | hi
    · exact hl ((List.cons_prefix_cons.mp hp).2.subset (by simp))
    · exact hl (hi.subset (by simp))

/-- **A blank line in a block** ends the headers there. -/
theorem headerLines_blank (line block : Text) (hl : '\n' ∉ line)
    (h : ¬ BlankFree (line ++ block)) :
    ∃ left, ∀ s, (headerLines line (block ++ s)).2 = left ++ s := by
  induction block generalizing line with
  | nil => exact absurd (blankFree_of_not_mem hl) (by simpa using h)
  | cons c block ih =>
    by_cases hc : c = '\n'
    · subst hc
      by_cases hline : line = [] ∨ line = ['\r']
      · exact ⟨block, fun s => by simp [headerLines, hline]⟩
      · obtain ⟨left, hleft⟩ := ih [] (by simp) fun hb => h (.of_append hl hline hb)
        exact ⟨left, fun s => by simp [headerLines, hline, hleft]⟩
    · obtain ⟨left, hleft⟩ := ih (line ++ [c]) (by simpa [Ne.symm hc] using hl)
        (by simpa using h)
      exact ⟨left, fun s => by rw [List.cons_append, headerLines, if_neg hc, hleft]⟩

/-- What the header loop leaves of a part of a text is a part of what it leaves of the text. -/
theorem headerLines_isPrefix (line : Text) (h : s <+: t) :
    (headerLines line s).2 <+: (headerLines line t).2 := by
  obtain ⟨r, rfl⟩ := h
  induction s generalizing line with
  | nil => exact List.nil_prefix
  | cons c s ih =>
    rw [List.cons_append, headerLines, headerLines]
    split_ifs
    · exact List.prefix_append _ _
    · exact ih []
    · exact ih (line ++ [c])

end Aes67.RTSPClient
