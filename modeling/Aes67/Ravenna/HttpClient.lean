import Aes67.Lib.Http

/-!
# The HTTP client

`HTTPClient::perform` sends one request and reads until the server closes, the wait runs out, or the
bound is passed. What has come by then is taken apart into a status and a body.

* `received`, `statusOf`, `headerValue`, `answer`, `perform`;
* `received_eq_flatten`: what has come is what was sent, however it was split;
* `error_answer_eq_nil_iff`, `body_answer`: which answers are taken, and with which body;
* `lengthsOf`, `Plain`: the lengths a head states, and what a length is;
* **`whole_iff`**: no half answer is taken for a whole one just when each length of an answer that
  is taken is a decimal number of bytes that are there.
-/

namespace Aes67.Ravenna.HTTPClient

open Http (headEnd isBlank)

def kMaxBodyBytes : ℕ := 2 ^ 20

structure HTTPResponse where
  /-- 0 when nothing came back. -/
  status : ℕ := 0
  body : Text := []
  error : Text := []
  deriving DecidableEq

/-! ## Reading an answer -/

/-- The loop that reads until the server closes. -/
def received (raw : Text) : List Text → Text
  | [] => raw
  | chunk :: chunks =>
    if raw.length ≤ kMaxBodyBytes + 8192 ∧ chunk ≠ [] then received (raw ++ chunk) chunks else raw

/-- `parseSmallNumber`: what `strtol` reads, whatever stands behind it, unless it is out of range or
below zero. -/
def parseSmallNumber (text : Text) : Option ℕ :=
  match scanInt text with
  | none => none
  | some (neg, n) =>
    if neg then if n = 0 then some 0 else none
    else if n < 2 ^ 63 then some n else none

/-- The lines of a text, whose ends are of two characters. -/
def crlfLines : Text → List Text
  | [] => []
  | '\r' :: '\n' :: s => [] :: crlfLines s
  | c :: s =>
    match crlfLines s with
    | [] => [[c]]
    | line :: lines => (c :: line) :: lines

def stripBlanks (value : Text) : Text := (value.dropWhile isBlank).rdropWhile isBlank

/-- The value of a line that is the header `wanted`. -/
def valueOf (wanted line : Text) : Option Text :=
  match cut [':'] line with
  | none => none
  | some (name, value) =>
    if name.map Char.toLower = wanted then some (stripBlanks value) else none

/-- The lines behind the first. -/
def headerLines (head : Text) : List Text :=
  match cut ['\r', '\n'] head with
  | none => []
  | some (_, rest) => crlfLines rest

/-- `headerValue`: empty where there is no such header. -/
def headerValue (head name : Text) : Text :=
  ((headerLines head).findSome? (valueOf (name.map Char.toLower))).getD []

/-- The status of the first line, where there is one that HTTP defines. -/
def statusOf (head : Text) : Option ℕ :=
  match cut [' '] head with
  | none => none
  | some (_, rest) =>
    match parseSmallNumber (rest.takeWhile (· ≠ ' ')) with
    | none => none
    | some status => if status < 100 ∨ status > 599 then none else some status

/-- What is made of the bytes that have come. -/
def answer (host raw : Text) : HTTPResponse :=
  if raw = [] then { error := "no answer from ".toList ++ host }
  else
    match cut headEnd raw with
    | none => { error := "malformed answer from ".toList ++ host }
    | some (head, body) =>
      match statusOf head with
      | none => { body := body, error := "malformed status line from ".toList ++ host }
      | some status =>
        match headerValue head "Content-Length".toList with
        | [] =>
          if body.length > kMaxBodyBytes then
            { body := body
              error := "body larger than ".toList ++ showNat kMaxBodyBytes ++ " bytes".toList }
          else { status := status, body := body }
        | lengthText =>
          match (parseSmallNumber lengthText).filter (· ≤ kMaxBodyBytes) with
          | none =>
            { body := body
              error := "the answer declares a body this will not read: ".toList ++ lengthText }
          | some declared => { status := status, body := body.take declared }

/-- What becomes of a connection: none, one on which nothing can be sent, or one that gives chunks
until it closes or the wait runs out. -/
inductive Connection
  | failed (error : Text)
  | unsent
  | answered (chunks : List Text)

/-- `perform`. -/
def perform (host : Text) : Connection → HTTPResponse
  | .failed error => { error := error }
  | .unsent => { error := "cannot send the request to ".toList ++ host }
  | .answered chunks => answer host (received [] chunks)

/-! ## What has come -/

variable {host raw head body text : Text} {chunks : List Text}

/-- **However the bytes are split**, they are what has come, up to the bound. -/
theorem received_eq_flatten (hne : ∀ chunk ∈ chunks, chunk ≠ [])
    (hlen : (raw ++ chunks.flatten).length ≤ kMaxBodyBytes + 8192) :
    received raw chunks = raw ++ chunks.flatten := by
  induction chunks generalizing raw with
  | nil => exact (List.append_nil raw).symm
  | cons chunk chunks ih =>
    have hraw : raw.length ≤ kMaxBodyBytes + 8192 := by
      rw [List.length_append] at hlen
      omega
    rw [List.flatten_cons, ← List.append_assoc] at hlen ⊢
    rw [received, if_pos ⟨hraw, hne chunk List.mem_cons_self⟩]
    exact ih (fun c hc => hne c (List.mem_cons_of_mem _ hc)) hlen

/-- What has come is a part of what was sent. -/
theorem received_isPrefix (raw : Text) (chunks : List Text) :
    received raw chunks <+: raw ++ chunks.flatten := by
  induction chunks generalizing raw with
  | nil => exact List.prefix_append raw _
  | cons chunk chunks ih =>
    rw [received, List.flatten_cons, ← List.append_assoc]
    split_ifs
    · exact ih (raw ++ chunk)
    · rw [List.append_assoc]
      exact List.prefix_append raw _

/-! ## Which answers are taken -/

/-- What is taken behind a head: not too much where it states no length, and else a length that
`strtol` reads and that is not too much. -/
def Taken (head body : Text) : Prop :=
  match headerValue head "Content-Length".toList with
  | [] => body.length ≤ kMaxBodyBytes
  | lengthText => ∃ declared, parseSmallNumber lengthText = some declared ∧
      declared ≤ kMaxBodyBytes

/-- What is made of an answer whose head and status are read. -/
theorem answer_eq (host : Text) {status : ℕ} (hcut : cut headEnd raw = some (head, body))
    (hstatus : statusOf head = some status) :
    (answer host raw).error = [] ↔ Taken head body := by
  have hne : raw ≠ [] := by
    rintro rfl
    cases hcut
  rw [answer, if_neg hne, hcut]
  dsimp only
  rw [hstatus, Taken]
  dsimp only
  cases headerValue head "Content-Length".toList with
  | nil =>
    dsimp only
    split_ifs with hlong
    · exact iff_of_false (by simp) (not_le.mpr hlong)
    · exact iff_of_true rfl (not_lt.mp hlong)
  | cons c text =>
    dsimp only
    cases hnumber : parseSmallNumber (c :: text) with
    | none => exact iff_of_false (by simp) (by rintro ⟨d, h, -⟩; cases h)
    | some declared =>
      by_cases hle : declared ≤ kMaxBodyBytes
      · simp only [Option.filter_some, decide_eq_true hle, if_true]
        exact iff_of_true trivial ⟨declared, rfl, hle⟩
      · simp only [Option.filter_some, decide_eq_false hle, Bool.false_eq_true, if_false]
        exact iff_of_false (by simp) (by rintro ⟨d, h, hd⟩; cases h; exact hle hd)

/-- **The answers that are taken.** -/
theorem error_answer_eq_nil_iff (host raw : Text) : (answer host raw).error = [] ↔
    ∃ head body, cut headEnd raw = some (head, body) ∧ statusOf head ≠ none ∧
      Taken head body := by
  cases hcut : cut headEnd raw with
  | none =>
    refine iff_of_false ?_ (by rintro ⟨_, _, h, -⟩; cases h)
    rw [answer, hcut]
    split_ifs <;> simp
  | some p =>
    obtain ⟨head, body⟩ := p
    cases hstatus : statusOf head with
    | none =>
      refine iff_of_false ?_ ?_
      · rw [answer, hcut]
        dsimp only
        rw [hstatus]
        split_ifs <;> simp
      · rintro ⟨_, _, h, hno, -⟩
        cases h
        exact hno hstatus
    | some status =>
      rw [answer_eq host hcut hstatus]
      constructor
      · exact fun h => ⟨head, body, rfl, by rw [hstatus]; exact Option.some_ne_none _, h⟩
      · rintro ⟨_, _, h, -, htaken⟩
        cases h
        exact htaken

/-- The body of an answer that is taken. -/
theorem body_answer (hcut : cut headEnd raw = some (head, body)) (hstatus : statusOf head ≠ none)
    (htaken : Taken head body) : (answer host raw).body =
      if headerValue head "Content-Length".toList = [] then body
      else body.take ((parseSmallNumber (headerValue head "Content-Length".toList)).getD 0) := by
  obtain ⟨status, hstatus⟩ := Option.ne_none_iff_exists'.mp hstatus
  have hne : raw ≠ [] := by
    rintro rfl
    cases hcut
  rw [Taken] at htaken
  rw [answer, if_neg hne, hcut]
  dsimp only
  rw [hstatus]
  dsimp only
  cases hvalue : headerValue head "Content-Length".toList with
  | nil =>
    rw [hvalue] at htaken
    dsimp only at htaken ⊢
    rw [if_neg (not_lt.mpr htaken), if_pos rfl]
  | cons c text =>
    rw [hvalue] at htaken
    obtain ⟨declared, hnumber, hle⟩ := htaken
    simp only [hnumber, Option.filter_some, decide_eq_true hle, if_true, Option.getD_some]
    rw [if_neg (List.cons_ne_nil c text)]

/-! ## What a length is -/

/-- The lengths a head states, its name in any letter case. -/
def lengthsOf (head : Text) : List Text :=
  (headerLines head).filterMap (valueOf "content-length".toList)

/-- **A plain decimal number.** -/
def Plain (value : Text) (n : ℕ) : Prop :=
  value ≠ [] ∧ (∀ c ∈ value, c.isDigit = true) ∧ Nat.ofDigitChars 10 value 0 = n

theorem headerValue_eq_head (head : Text) :
    headerValue head "Content-Length".toList = (lengthsOf head).head?.getD [] := by
  have hname : "Content-Length".toList.map Char.toLower = "content-length".toList := by decide
  rw [headerValue, hname, lengthsOf, List.head?_filterMap]

theorem parseSmallNumber_of_plain {value : Text} {n : ℕ} (h : Plain value n)
    (hn : n ≤ kMaxBodyBytes) : parseSmallNumber value = some n := by
  have hscan := scanInt_of_digits (t := []) h.2.1 h.1 rfl
  rw [List.append_nil, h.2.2] at hscan
  have hlt : n < 2 ^ 63 := lt_of_le_of_lt hn (by decide)
  rw [parseSmallNumber, hscan]
  exact if_pos hlt

/-! ## Half answers -/

/-- **No half answer is passed off**: the result depends on what has come alone, and without an
error the head is whole, and for each length it states the body is that many of the bytes behind
it. -/
def Whole (host : Text) (chunks : List Text) : Prop :=
  (∀ chunks', received [] chunks' = received [] chunks →
    perform host (.answered chunks') = perform host (.answered chunks)) ∧
  ((perform host (.answered chunks)).error = [] →
    ∃ head rest, cut headEnd (received [] chunks) = some (head, rest) ∧
      ∀ value ∈ lengthsOf head, ∃ n, Plain value n ∧ n ≤ kMaxBodyBytes ∧ n ≤ rest.length ∧
        (perform host (.answered chunks)).body = rest.take n)

/-- **The answers that are not half ones**: where one is taken, each length is the same decimal
number, of bytes that are there. -/
def Honest (raw : Text) : Prop :=
  ∀ head rest, cut headEnd raw = some (head, rest) → statusOf head ≠ none → Taken head rest →
    ∃ n ≤ kMaxBodyBytes, n ≤ rest.length ∧ ∀ value ∈ lengthsOf head, Plain value n

/-- The body behind a head whose lengths are all `n`. -/
theorem body_of_plain {n : ℕ} (hcut : cut headEnd raw = some (head, body))
    (hstatus : statusOf head ≠ none) (htaken : Taken head body) (hn : n ≤ kMaxBodyBytes)
    (hplain : ∀ value ∈ lengthsOf head, Plain value n) (hne : lengthsOf head ≠ []) :
    (answer host raw).body = body.take n := by
  obtain ⟨value, values, hvalues⟩ := List.exists_cons_of_ne_nil hne
  have hvalue : Plain value n := hplain value (hvalues ▸ List.mem_cons_self)
  have hheader : headerValue head "Content-Length".toList = value := by
    rw [headerValue_eq_head, hvalues]
    rfl
  rw [body_answer hcut hstatus htaken, hheader, if_neg hvalue.1,
    parseSmallNumber_of_plain hvalue hn]
  rfl

/-- **No half answer is passed off just where the lengths of what is taken are honest.** -/
theorem whole_iff (host : Text) (chunks : List Text) :
    Whole host chunks ↔ Honest (received [] chunks) := by
  constructor
  · rintro ⟨-, h⟩ head rest hcut hstatus htaken
    have herror : (perform host (.answered chunks)).error = [] :=
      (error_answer_eq_nil_iff host _).mpr ⟨head, rest, hcut, hstatus, htaken⟩
    obtain ⟨_, _, hcut', hall⟩ := h herror
    cases hcut.symm.trans hcut'
    rcases hvalues : lengthsOf head with _ | ⟨value, values⟩
    · exact ⟨0, Nat.zero_le _, Nat.zero_le _, fun value hv => absurd hv List.not_mem_nil⟩
    · rw [hvalues] at hall
      obtain ⟨n, -, hk, hn, hbody⟩ := hall value List.mem_cons_self
      refine ⟨n, hk, hn, fun other ho => ?_⟩
      obtain ⟨m, hplain, -, hm, hbody'⟩ := hall other ho
      -- Both are the length of the one body.
      have hlengths : n = m := by
        have := congrArg List.length (hbody.symm.trans hbody')
        rwa [List.length_take_of_le hn, List.length_take_of_le hm] at this
      exact hlengths ▸ hplain
  · intro h
    refine ⟨fun chunks' hsame => by rw [perform, perform, hsame], fun herror => ?_⟩
    obtain ⟨head, rest, hcut, hstatus, htaken⟩ := (error_answer_eq_nil_iff host _).mp herror
    obtain ⟨n, hk, hn, hplain⟩ := h head rest hcut hstatus htaken
    refine ⟨head, rest, hcut, fun value hv => ⟨n, hplain value hv, hk, hn, ?_⟩⟩
    exact body_of_plain hcut hstatus htaken hk hplain (List.ne_nil_of_mem hv)

/-- Five bytes are announced, and the connection closes after three. -/
def halfAnswer : Text := "HTTP/1.1 200 OK\r\nContent-Length: 5\r\n\r\nabc".toList

/-- The length is no plain number. -/
def scientific : Text := "HTTP/1.1 200 OK\r\nContent-Length: 1e6\r\n\r\nab".toList

/-- Neither is an error. -/
theorem not_whole_half : (¬ ∀ host chunks, Whole host chunks) ∧
    perform [] (.answered [scientific]) = { status := 200, body := ['a'] } := by
  refine ⟨fun h => ?_, by decide⟩
  have herror : (perform [] (.answered [halfAnswer])).error = [] := by decide
  have hcut : cut headEnd (received [] [halfAnswer]) =
      some ("HTTP/1.1 200 OK\r\nContent-Length: 5".toList, "abc".toList) := by decide
  obtain ⟨_, _, hcut', hall⟩ := (h [] [halfAnswer]).2 herror
  cases hcut.symm.trans hcut'
  obtain ⟨n, ⟨-, -, rfl⟩, -, hn, -⟩ := hall "5".toList (by decide)
  exact absurd hn (by decide)

end Aes67.Ravenna.HTTPClient
