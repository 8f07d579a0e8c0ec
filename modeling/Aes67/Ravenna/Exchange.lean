import Aes67.Ravenna.HttpServer
import Aes67.Ravenna.HttpClient

/-!
# An exchange between the client and the server

`HTTPClient::perform` writes what `HttpServer` reads, and `HttpServer::answer` writes what the client
reads.

* `HTTPClient.requestText`, with `get`, `post` and `del`; `HTTPClient.Asks`: what can be asked so;
* `HttpServer.buildHttpResponse`, `HttpServer.respond`;
* `requestText_eq`, `buildHttpResponse_eq`: both are a head, a blank line and a body;
* `HTTPClient.answer_head`: what the client makes of such an answer;
* **`exchange_iff`**: however both ways are split, the handler is called once with what was asked, and
  its answer is what the client returns just when the status is one of HTTP's and the body is no
  larger than the client reads.
-/

namespace Aes67.Ravenna

open Http (headEnd joined isField isToken isUri)

/-- `HTTPClient`: whom it asks, and what it says it accepts. -/
structure HTTPClient where
  host : Text
  port : UInt16
  accept : Text := []

/-! ## Texts with a head -/

/-- A header as both sides write it. -/
def headerLine (name : String) (value : Text) : Text := name.toList ++ ": ".toList ++ value

/-- Lines, the blank one, and a body. -/
def written (lines : List Text) (body : Text) : Text :=
  (lines.flatMap fun line => line ++ "\r\n".toList) ++ "\r\n".toList ++ body

theorem headerLine_eq (name : String) (value : Text) :
    headerLine name value = Http.Request.line (name.toList, ' ' :: value) := by
  rw [headerLine, List.append_assoc]
  rfl

theorem written_cons (line : Text) (lines : List Text) (body : Text) :
    written (line :: lines) body = joined line lines ++ (headEnd ++ body) := by
  induction lines generalizing line with
  | nil =>
    rw [written, joined, List.flatMap_cons, List.flatMap_nil, List.flatMap_nil, List.append_nil,
      List.append_nil, List.append_assoc, List.append_assoc]
    rfl
  | cons l lines ih =>
    have hrest := ih l
    rw [written, List.append_assoc] at hrest ⊢
    rw [List.flatMap_cons, List.append_assoc, hrest, Http.joined_cons, List.append_assoc,
      List.append_assoc]
    rfl

/-! ## What the client sends -/

namespace HTTPClient

/-- The lines of the request that `perform` sends. -/
def requestLines (client : HTTPClient) (method path : Text) (length : ℕ) (contentType : Text) :
    List Text :=
  [method ++ ' ' :: (path ++ " HTTP/1.1".toList),
    headerLine "Host" (client.host ++ ':' :: showNat client.port.toNat),
    headerLine "User-Agent" "AES67macOSDriver".toList] ++
  (if client.accept ≠ [] then [headerLine "Accept" client.accept] else []) ++
  (if contentType ≠ [] then [headerLine "Content-Type" contentType] else []) ++
  [headerLine "Content-Length" (showNat length), headerLine "Connection" "close".toList]

/-- The text that `perform` sends. -/
def requestText (client : HTTPClient) (method path body contentType : Text) : Text :=
  written (client.requestLines method path body.length contentType) body

def get (client : HTTPClient) (path accept : Text) : Text :=
  { client with accept := accept }.requestText "GET".toList path [] []

def post (client : HTTPClient) (path body contentType : Text) : Text :=
  client.requestText "POST".toList path body contentType

def del (client : HTTPClient) (path : Text) : Text :=
  client.requestText "DELETE".toList path [] []

/-- The request as HTTP has it. -/
def request (client : HTTPClient) (method path body contentType : Text) : Http.Request where
  method := method
  target := path
  headers :=
    [("Host".toList, ' ' :: (client.host ++ ':' :: showNat client.port.toNat)),
      ("User-Agent".toList, ' ' :: "AES67macOSDriver".toList)] ++
    (if client.accept ≠ [] then [("Accept".toList, ' ' :: client.accept)] else []) ++
    (if contentType ≠ [] then [("Content-Type".toList, ' ' :: contentType)] else []) ++
    [("Content-Length".toList, ' ' :: showNat body.length),
      ("Connection".toList, ' ' :: "close".toList)]
  body := body

theorem requestText_eq (client : HTTPClient) (method path body contentType : Text) :
    client.requestText method path body contentType =
      (client.request method path body contentType).text := by
  have hlines : client.requestLines method path body.length contentType =
      (client.request method path body contentType).requestLine ::
        (client.request method path body contentType).headers.map Http.Request.line := by
    simp only [requestLines, request, headerLine_eq]
    split_ifs <;> rfl
  rw [requestText, hlines, written_cons]
  rfl

/-- **What can be asked.** The parts are those of a request, none has the text that the server looks
for the length by, and all together are less than the server reads. -/
structure Asks (client : HTTPClient) (method path body contentType : Text) : Prop where
  method_ne : method ≠ []
  method_token : ∀ c ∈ method, isToken c = true
  path_ne : path ≠ []
  path_uri : ∀ c ∈ path, isUri c = true
  host_field : ∀ c ∈ client.host, isField c = true
  accept_field : ∀ c ∈ client.accept, isField c = true
  type_field : ∀ c ∈ contentType, isField c = true
  plain : ∀ key ∈ [HttpServer.contentLengthKey, HttpServer.contentLengthLower],
    ¬ key <:+: path ∧ ¬ key <:+: client.host ++ ':' :: showNat client.port.toNat ∧
      ¬ key <:+: client.accept ∧ ¬ key <:+: contentType
  short : (client.requestText method path body contentType).length < HttpServer.kMaxRequestBytes

variable {client : HTTPClient} {method path body contentType : Text} {P : Text × Text → Prop}

/-- What holds of each header holds of all. -/
theorem forall_headers
    (host : P ("Host".toList, ' ' :: (client.host ++ ':' :: showNat client.port.toNat)))
    (agent : P ("User-Agent".toList, ' ' :: "AES67macOSDriver".toList))
    (accept : P ("Accept".toList, ' ' :: client.accept))
    (type : P ("Content-Type".toList, ' ' :: contentType))
    (length : P ("Content-Length".toList, ' ' :: showNat body.length))
    (connection : P ("Connection".toList, ' ' :: "close".toList)) :
    ∀ header ∈ (client.request method path body contentType).headers, P header := by
  have hoptional : ∀ (p : Prop) [Decidable p] (h : Text × Text), P h →
      ∀ header ∈ (if p then [h] else []), P header := by
    intro p _ h hP header hm
    split_ifs at hm
    · exact List.mem_singleton.mp hm ▸ hP
    · exact absurd hm List.not_mem_nil
  simp only [request, List.forall_mem_append, List.forall_mem_cons]
  exact ⟨⟨⟨⟨host, agent, fun _ h => absurd h List.not_mem_nil⟩, hoptional _ _ accept⟩,
    hoptional _ _ type⟩, length, connection, fun _ h => absurd h List.not_mem_nil⟩

theorem isField_of_mem_showNat {c : Char} {n : ℕ} (h : c ∈ showNat n) : isField c = true := by
  have hd := isDigit_of_mem_showNat h
  simp only [Char.isDigit, Bool.and_eq_true, decide_eq_true_eq] at hd
  have hlo : 48 ≤ c.toNat := hd.1
  have hhi : c.toNat ≤ 57 := hd.2
  rw [isField, Bool.or_eq_true, Bool.and_eq_true, decide_eq_true_iff, decide_eq_true_iff]
  omega

theorem isField_of_all {name : String} (h : name.toList.all isField = true) :
    ∀ c ∈ name.toList, isField c = true := List.all_eq_true.mp h

/-- What stands in a header stands in its name or in its value. -/
theorem infix_line {key name value : Text} (hkey : ' ' ∉ key)
    (hin : key <:+: Http.Request.line (name, ' ' :: value)) :
    key <:+: name ++ [':'] ∨ key <:+: value := by
  have hline : Http.Request.line (name, ' ' :: value) = name ++ [':'] ++ ' ' :: value := by
    rw [List.append_assoc]
    rfl
  rw [hline] at hin
  exact infix_append_cons hkey hin

namespace Asks

theorem wellFormed (h : client.Asks method path body contentType) :
    (client.request method path body contentType).WellFormed where
  method_ne := h.method_ne
  method := h.method_token
  target_ne := h.path_ne
  target := h.path_uri
  http := ⟨"1.1".toList, rfl⟩
  version := by
    have hall : "HTTP/1.1".toList.all (fun c => !isSpace c) = true := by decide
    exact fun c hc => by simpa using List.all_eq_true.mp hall c hc
  name_ne := forall_headers (List.cons_ne_nil _ _) (List.cons_ne_nil _ _) (List.cons_ne_nil _ _)
    (List.cons_ne_nil _ _) (List.cons_ne_nil _ _) (List.cons_ne_nil _ _)
  name := by
    have htoken : ∀ name : String, name.toList.all isToken = true →
        ∀ c ∈ name.toList, isToken c = true := fun _ h => List.all_eq_true.mp h
    exact forall_headers (htoken "Host" (by decide)) (htoken "User-Agent" (by decide))
      (htoken "Accept" (by decide)) (htoken "Content-Type" (by decide))
      (htoken "Content-Length" (by decide)) (htoken "Connection" (by decide))
  value := by
    have hvalue : ∀ value : Text, (∀ c ∈ value, isField c = true) →
        ∀ c ∈ ' ' :: value, isField c = true := fun value hv =>
      List.forall_mem_cons.mpr ⟨by decide, hv⟩
    refine forall_headers (hvalue _ ?_) (hvalue _ (isField_of_all (by decide)))
      (hvalue _ h.accept_field) (hvalue _ h.type_field) (hvalue _ fun _ => isField_of_mem_showNat)
      (hvalue _ (isField_of_all (by decide)))
    exact List.forall_mem_append.mpr ⟨h.host_field, List.forall_mem_cons.mpr ⟨by decide, fun _ =>
      isField_of_mem_showNat⟩⟩

/-- No other header is called like the one with the length. -/
theorem named_iff {Q : Text × Text → Prop}
    (hlength : Q ("Content-Length".toList, ' ' :: showNat body.length)) :
    ∀ header ∈ (client.request method path body contentType).headers,
      Http.Named Http.contentLength header → Q header := by
  have hno : ∀ name : String, name.toList.map Char.toLower ≠ Http.contentLength →
      ∀ value, Http.Named Http.contentLength (name.toList, value) → Q (name.toList, value) :=
    fun _ hne _ hn => absurd hn hne
  exact forall_headers (hno "Host" (by decide) _) (hno "User-Agent" (by decide) _)
    (hno "Accept" (by decide) _) (hno "Content-Type" (by decide) _) (fun _ => hlength)
    (hno "Connection" (by decide) _)

theorem declares (client : HTTPClient) (method path body contentType : Text) :
    (client.request method path body contentType).Declares where
  declared := ⟨("Content-Length".toList, ' ' :: showNat body.length),
    List.mem_append_right _ List.mem_cons_self, rfl⟩
  correct := named_iff ⟨[' '], showNat body.length, [], by rw [List.append_nil]; rfl,
    List.forall_mem_singleton.mpr rfl, fun _ hc => absurd hc List.not_mem_nil, showNat_ne_nil _,
    fun _ hc => isDigit_of_mem_showNat hc, Nat.ofDigitChars_ten_toDigits⟩

theorem spelled (h : client.Asks method path body contentType) :
    HttpServer.Spelled (client.request method path body contentType) := by
  have hspace : ∀ key ∈ [HttpServer.contentLengthKey, HttpServer.contentLengthLower],
      ' ' ∉ key ∧ ':' ∈ key := by decide
  refine ⟨named_iff (.inl rfl), fun key hkey hin => ?_, fun key hkey => ?_⟩
  · obtain ⟨hs, hc⟩ := hspace key hkey
    rcases infix_append_cons hs hin with hin | hin
    · exact Http.ne_colon_of_isToken (h.method_token _ (hin.subset hc)) rfl
    · rcases infix_append_cons hs hin with hin | hin
      · exact (h.plain key hkey).1 hin
      · have hno : ':' ∉ "HTTP/1.1".toList := by decide
        exact hno (hin.subset hc)
  · obtain ⟨hs, hc⟩ := hspace key hkey
    obtain ⟨-, hhost, haccept, htype⟩ := h.plain key hkey
    -- The key stands in no value, and in no name but its own.
    have hno : ∀ (name : String) (value : Text), ¬ key <:+: name.toList ++ [':'] →
        ¬ key <:+: value → key <:+: Http.Request.line (name.toList, ' ' :: value) →
        name.toList ++ [':'] = key := fun name value hn hv hin =>
      absurd ((infix_line hs hin).resolve_left hn) hv
    have hcolon : ∀ value : Text, ':' ∉ value → ¬ key <:+: value := fun value hv hin =>
      hv (hin.subset hc)
    have hnames : ∀ key ∈ [HttpServer.contentLengthKey, HttpServer.contentLengthLower],
        ¬ key <:+: "Host".toList ++ [':'] ∧ ¬ key <:+: "User-Agent".toList ++ [':'] ∧
          ¬ key <:+: "Accept".toList ++ [':'] ∧ ¬ key <:+: "Content-Type".toList ++ [':'] ∧
            ¬ key <:+: "Connection".toList ++ [':'] := by decide
    obtain ⟨hn1, hn2, hn3, hn4, hn5⟩ := hnames key hkey
    refine forall_headers (hno "Host" _ hn1 hhost) (hno "User-Agent" _ hn2 (hcolon _ (by decide)))
      (hno "Accept" _ hn3 haccept) (hno "Content-Type" _ hn4 htype) (fun hin => ?_)
      (hno "Connection" _ hn5 (hcolon _ (by decide)))
    have hdigits : ':' ∉ showNat body.length := fun hm =>
      absurd (isDigit_of_mem_showNat hm) (by decide)
    have hname := (infix_line hs hin).resolve_right (hcolon _ hdigits)
    rcases List.mem_cons.mp hkey with rfl | hkey
    · rfl
    · cases List.mem_singleton.mp hkey
      exact absurd hname (by decide)

end Asks

end HTTPClient

/-! ## What the server sends -/

namespace HttpServer

def statusTextFor (status : ℕ) : Text :=
  if status = 200 then "OK".toList
  else if status = 400 then "Bad Request".toList
  else if status = 404 then "Not Found".toList
  else if status = 405 then "Method Not Allowed".toList
  else if status = 500 then "Internal Server Error".toList
  else if status = 501 then "Not Implemented".toList
  else "Error".toList

/-- `ApiResponse`, its body written out. -/
structure Reply where
  status : ℕ
  contentType : Text
  body : Text

def httpVersion : Text := "HTTP/1.1".toList

def firstLine (status : ℕ) : Text :=
  httpVersion ++ ' ' :: (showNat status ++ ' ' :: statusTextFor status)

/-- The headers behind the length. -/
def crossOriginLines : List Text :=
  [headerLine "Access-Control-Allow-Origin" "*".toList,
    headerLine "Access-Control-Allow-Methods" "GET, PUT, POST, PATCH, DELETE, HEAD, OPTIONS".toList,
    headerLine "Access-Control-Allow-Headers" "Content-Type, Accept, Authorization".toList,
    headerLine "Access-Control-Max-Age" "3600".toList,
    headerLine "Connection" "close".toList]

def buildHttpResponse (status : ℕ) (contentType body : Text) : Text :=
  written
    (firstLine status :: headerLine "Content-Type" contentType ::
      headerLine "Content-Length" (showNat body.length) :: crossOriginLines)
    body

/-- What a request that is understood is answered: a preflight is not handed over. -/
def served (handler : Call → Reply) (call : Call) : Reply :=
  if call.method = "OPTIONS".toList then ⟨200, "text/plain".toList, []⟩ else handler call

/-- `answer`: the text that is sent. -/
def respond (handler : Call → Reply) (text : Text) : Text :=
  match parseHttpRequest text with
  | none => buildHttpResponse 400 "text/plain".toList "not an HTTP request\n".toList
  | some call =>
    let answer := served handler call
    buildHttpResponse answer.status answer.contentType answer.body

namespace Reply

variable (reply : Reply)

def headers : List Text :=
  headerLine "Content-Type" reply.contentType ::
    headerLine "Content-Length" (showNat reply.body.length) :: crossOriginLines

def head : Text := joined (firstLine reply.status) reply.headers

theorem buildHttpResponse_eq :
    buildHttpResponse reply.status reply.contentType reply.body =
      reply.head ++ (headEnd ++ reply.body) := written_cons _ _ _

/-- **An answer the client can read the head of**: its type is a header's value, and its head is no
longer than what the client reads beside a body. -/
structure Fits : Prop where
  contentType : ∀ c ∈ reply.contentType, isField c = true
  short : reply.head.length + 4 ≤ 8192

end Reply

end HttpServer

/-! ## What the client makes of an answer -/

namespace HTTPClient

open HttpServer (Reply firstLine crossOriginLines)

variable {line : Text} {lines : List Text} {reply : Reply}

theorem crlfLines_cons (h : '\r' ∉ line) (s : Text) :
    crlfLines (line ++ '\r' :: '\n' :: s) = line :: crlfLines s := by
  induction line with
  | nil => rfl
  | cons c line ih =>
    obtain ⟨hc, hline⟩ := not_or.mp fun hm => h (List.mem_cons.mpr hm)
    rw [List.cons_append, crlfLines, ih hline]
    rintro rest rfl -
    exact hc rfl

theorem crlfLines_singleton (h : '\r' ∉ line) (hne : line ≠ []) : crlfLines line = [line] := by
  induction line with
  | nil => exact absurd rfl hne
  | cons c line ih =>
    obtain ⟨hc, hline⟩ := not_or.mp fun hm => h (List.mem_cons.mpr hm)
    cases line with
    | nil =>
      rw [crlfLines, crlfLines]
      rintro rest rfl -
      exact hc rfl
    | cons d line =>
      have hrest := ih hline (List.cons_ne_nil d line)
      rw [crlfLines, hrest]
      rintro rest rfl -
      exact hc rfl

/-- **The lines that are joined are the ones that are read.** -/
theorem crlfLines_joined (h0 : line ≠ [] ∧ '\r' ∉ line) (h : ∀ l ∈ lines, l ≠ [] ∧ '\r' ∉ l) :
    crlfLines (joined line lines) = line :: lines := by
  induction lines generalizing line with
  | nil =>
    rw [joined, List.flatMap_nil, List.append_nil]
    exact crlfLines_singleton h0.2 h0.1
  | cons l lines ih =>
    rw [Http.joined_cons, crlfLines_cons h0.2, ih (h l List.mem_cons_self) fun l' hl' =>
      h l' (List.mem_cons_of_mem _ hl')]

theorem not_mem_showNat {c : Char} (hc : c.isDigit = false) (n : ℕ) : c ∉ showNat n := fun hm => by
  rw [isDigit_of_mem_showNat hm] at hc
  cases hc

theorem not_mem_firstLine (status : ℕ) : '\r' ∉ firstLine status := by
  have htext : '\r' ∉ HttpServer.statusTextFor status := by
    unfold HttpServer.statusTextFor
    split_ifs <;> decide
  rw [firstLine, List.mem_append, List.mem_cons, List.mem_append, List.mem_cons]
  rintro (h | h | h | h | h)
  · exact absurd h (by decide)
  · exact absurd h (by decide)
  · exact not_mem_showNat rfl _ h
  · exact absurd h (by decide)
  · exact htext h

theorem headers_clean (h : reply.Fits) : ∀ l ∈ reply.headers, l ≠ [] ∧ '\r' ∉ l := by
  have hline : ∀ (name : String) (value : Text), name.toList.all (· ≠ '\r') = true →
      '\r' ∉ value → headerLine name value ≠ [] ∧ '\r' ∉ headerLine name value := by
    intro name value hn hv
    rw [headerLine, List.append_assoc]
    refine ⟨List.append_ne_nil_of_right_ne_nil _ (List.cons_ne_nil _ _), ?_⟩
    rw [List.mem_append, List.mem_append]
    rintro (hm | hm | hm)
    · exact of_decide_eq_true (List.all_eq_true.mp hn _ hm) rfl
    · exact absurd hm (by decide)
    · exact hv hm
  have htype : '\r' ∉ reply.contentType := fun hm => by
    have := h.contentType _ hm
    rw [Http.not_isField.1] at this
    cases this
  refine List.forall_mem_cons.mpr ⟨hline _ _ (by decide) htype, ?_⟩
  refine List.forall_mem_cons.mpr ⟨hline _ _ (by decide) (not_mem_showNat rfl _), ?_⟩
  decide

/-- The head of an answer ends where the server ends it. -/
theorem cut_head (h : reply.Fits) (s : Text) :
    cut headEnd (reply.head ++ (headEnd ++ s)) = some (reply.head, s) :=
  Http.cut_joined (not_mem_firstLine reply.status) (headers_clean h) s

theorem parseSmallNumber_showNat (n : ℕ) :
    parseSmallNumber (showNat n) = if n < 2 ^ 63 then some n else none := by
  rw [parseSmallNumber, scanInt_showNat]
  rfl

/-- The status is read where it is one of HTTP's. -/
theorem statusOf_head (reply : Reply) : statusOf reply.head =
    if 100 ≤ reply.status ∧ reply.status ≤ 599 then some reply.status else none := by
  obtain ⟨rest, hrest⟩ : ∃ rest, reply.head = HttpServer.httpVersion ++
      ' ' :: (showNat reply.status ++ ' ' :: rest) := by
    rw [Reply.head, joined, firstLine, List.append_assoc, List.cons_append, List.append_assoc,
      List.cons_append]
    exact ⟨_, rfl⟩
  have hdigits : (showNat reply.status ++ ' ' :: rest).takeWhile (· ≠ ' ') =
      showNat reply.status := by
    have hne : ∀ c ∈ showNat reply.status, decide (c ≠ ' ') = true := fun c hc =>
      decide_eq_true fun he => not_mem_showNat rfl _ (he ▸ hc)
    rw [List.takeWhile_append_of_pos hne, List.takeWhile_cons_of_neg (by decide), List.append_nil]
  rw [statusOf, hrest, cut_char (by decide)]
  dsimp only
  rw [hdigits, parseSmallNumber_showNat]
  by_cases hrange : 100 ≤ reply.status ∧ reply.status ≤ 599
  · rw [if_pos (show reply.status < 2 ^ 63 by omega), if_pos hrange]
    exact if_neg (by omega)
  · rw [if_neg hrange]
    by_cases hbig : reply.status < 2 ^ 63
    · rw [if_pos hbig]
      exact if_pos (by omega)
    · rw [if_neg hbig]

theorem isBlank_of_mem_showNat {c : Char} {n : ℕ} (h : c ∈ showNat n) : Http.isBlank c = false := by
  have hne : ∀ d : Char, d.isDigit = false → (c == d) = false := fun d hd =>
    beq_eq_false_iff_ne.mpr fun he => not_mem_showNat hd _ (he ▸ h)
  rw [Http.isBlank, hne ' ' rfl, hne '\t' rfl, Bool.or_self]

theorem stripBlanks_showNat (n : ℕ) : stripBlanks (' ' :: showNat n) = showNat n := by
  obtain ⟨c, w, hw⟩ := List.exists_cons_of_ne_nil (showNat_ne_nil n)
  have hdrop : (showNat n).dropWhile Http.isBlank = showNat n := by
    rw [hw, List.dropWhile_cons_of_neg]
    rw [isBlank_of_mem_showNat (n := n) (hw ▸ List.mem_cons_self)]
    exact Bool.false_ne_true
  rw [stripBlanks, List.dropWhile_cons_of_pos rfl, hdrop, List.rdropWhile_eq_self_iff]
  intro hne
  rw [isBlank_of_mem_showNat (List.getLast_mem hne)]
  exact Bool.false_ne_true

/-- A header has a value for its own name alone. -/
theorem valueOf_headerLine (wanted : Text) {name : String} (hname : ':' ∉ name.toList) (value : Text) :
    valueOf wanted (headerLine name value) =
      if name.toList.map Char.toLower = wanted then some (stripBlanks (' ' :: value)) else none := by
  rw [headerLine_eq, valueOf, Http.Request.line, cut_char hname]

/-- The length is read off the second header. -/
theorem headerValue_head (h : reply.Fits) :
    headerValue reply.head "Content-Length".toList = showNat reply.body.length := by
  have hlines : headerLines reply.head = reply.headers := by
    have hclean := headers_clean h
    rw [headerLines, Reply.head, Reply.headers, Http.joined_cons,
      cut_append_of_not_mem (not_mem_firstLine reply.status)]
    change crlfLines (joined _ _) = _
    exact crlfLines_joined (hclean _ List.mem_cons_self) fun l hl =>
      hclean l (List.mem_cons_of_mem _ hl)
  rw [headerValue, hlines, Reply.headers, List.findSome?_cons, valueOf_headerLine _ (by decide),
    if_neg (by decide)]
  dsimp only
  rw [List.findSome?_cons, valueOf_headerLine _ (by decide), if_pos rfl, stripBlanks_showNat]
  rfl

/-- **What the client makes of an answer** whose body may have been cut off. -/
theorem answer_head (h : reply.Fits) (host : Text) {rest : Text}
    (hrest : reply.body.length ≤ kMaxBodyBytes → rest = reply.body) :
    answer host (reply.head ++ (headEnd ++ rest)) = ⟨reply.status, reply.body, []⟩ ↔
      100 ≤ reply.status ∧ reply.status ≤ 599 ∧ reply.body.length ≤ kMaxBodyBytes := by
  have hne : reply.head ++ (headEnd ++ rest) ≠ [] :=
    List.append_ne_nil_of_right_ne_nil _ (List.cons_ne_nil _ _)
  have hcons : ∀ (c : Char) (a b : Text), c :: a ++ b ≠ [] := fun c a b => List.cons_ne_nil _ _
  rw [answer, if_neg hne, cut_head h]
  dsimp only
  rw [statusOf_head]
  by_cases hrange : 100 ≤ reply.status ∧ reply.status ≤ 599
  · rw [if_pos hrange]
    dsimp only
    rw [headerValue_head h]
    obtain ⟨c, w, hw⟩ := List.exists_cons_of_ne_nil (showNat_ne_nil reply.body.length)
    have hnumber := parseSmallNumber_showNat reply.body.length
    rw [hw] at hnumber ⊢
    dsimp only
    rw [hnumber]
    by_cases hle : reply.body.length ≤ kMaxBodyBytes
    · have hlt : reply.body.length < 2 ^ 63 := lt_of_le_of_lt hle (by decide)
      rw [if_pos hlt, Option.filter_some, decide_eq_true hle, if_pos rfl]
      dsimp only
      rw [hrest hle, List.take_length]
      exact iff_of_true rfl ⟨hrange.1, hrange.2, hle⟩
    · have hnone : (if reply.body.length < 2 ^ 63 then some reply.body.length else none).filter
          (fun n => decide (n ≤ kMaxBodyBytes)) = none := by
        split_ifs
        · rw [Option.filter_some, decide_eq_false hle, if_neg Bool.false_ne_true]
        · rfl
      rw [hnone]
      refine iff_of_false (fun he => ?_) fun he => hle he.2.2
      exact hcons _ _ _ (congrArg HTTPResponse.error he)
  · rw [if_neg hrange]
    refine iff_of_false (fun he => ?_) fun he => hrange ⟨he.1, he.2.1⟩
    exact hcons _ _ _ (congrArg HTTPResponse.error he)

/-- What is read is all that was sent, or more than the bound. -/
theorem received_or (raw : Text) {chunks : List Text} (h : ∀ chunk ∈ chunks, chunk ≠ []) :
    received raw chunks = raw ++ chunks.flatten ∨
      kMaxBodyBytes + 8192 < (received raw chunks).length := by
  induction chunks generalizing raw with
  | nil => exact .inl (List.append_nil raw).symm
  | cons chunk chunks ih =>
    rw [received, List.flatten_cons, ← List.append_assoc]
    by_cases hroom : raw.length ≤ kMaxBodyBytes + 8192
    · rw [if_pos ⟨hroom, h chunk List.mem_cons_self⟩]
      exact ih (raw ++ chunk) fun c hc => h c (List.mem_cons_of_mem _ hc)
    · rw [if_neg fun hboth => hroom hboth.1]
      exact .inr (not_le.mp hroom)

/-- The head is always read, and the body is where it is not too long. -/
theorem received_answer (h : reply.Fits) {chunks : List Text}
    (hne : ∀ chunk ∈ chunks, chunk ≠ [])
    (hsent : chunks.flatten = reply.head ++ (headEnd ++ reply.body)) :
    ∃ rest, received [] chunks = reply.head ++ (headEnd ++ rest) ∧
      (reply.body.length ≤ kMaxBodyBytes → rest = reply.body) := by
  have hpre := received_isPrefix [] chunks
  have hor := received_or [] hne
  rw [List.nil_append, hsent] at hpre hor
  have hend : headEnd.length = 4 := rfl
  have hshort := h.short
  rcases hor with hall | hlong
  · exact ⟨reply.body, hall, fun _ => rfl⟩
  · rw [← List.append_assoc] at hpre
    have hhead : reply.head ++ headEnd <+: received [] chunks := by
      refine List.prefix_of_prefix_length_le (List.prefix_append _ _) hpre ?_
      rw [List.length_append]
      omega
    obtain ⟨rest, hrest⟩ := hhead
    refine ⟨rest, by rw [← hrest, List.append_assoc], fun hle => absurd hpre.length_le ?_⟩
    rw [List.length_append, List.length_append]
    omega

end HTTPClient

/-! ## Both ways -/

open HttpServer (Call Reply served respond receive service decodePath withoutQuery)

/-- **An exchange**, however both ways are split: the handler is called once with what was asked, but
for a preflight, and the client returns its answer just when the status is one of HTTP's and the body
is no larger than the client reads. -/
theorem exchange_iff (client : HTTPClient) (handler : Call → Reply)
    {method path body contentType : Text} {up down : List Text}
    (hasks : client.Asks method path body contentType)
    (hfits : (served handler ⟨method, decodePath (withoutQuery path), body⟩).Fits)
    (hup : ∀ chunk ∈ up, chunk ≠ [])
    (hasked : up.flatten = client.requestText method path body contentType)
    (hdown : ∀ chunk ∈ down, chunk ≠ [])
    (hanswered : down.flatten = respond handler (receive [] none up)) :
    service [up] = (if method = "OPTIONS".toList then []
      else [⟨method, decodePath (withoutQuery path), body⟩]) ∧
    (HTTPClient.perform client.host (.answered down) =
        ⟨(served handler ⟨method, decodePath (withoutQuery path), body⟩).status,
          (served handler ⟨method, decodePath (withoutQuery path), body⟩).body, []⟩ ↔
      100 ≤ (served handler ⟨method, decodePath (withoutQuery path), body⟩).status ∧
      (served handler ⟨method, decodePath (withoutQuery path), body⟩).status ≤ 599 ∧
      (served handler ⟨method, decodePath (withoutQuery path), body⟩).body.length ≤
        HTTPClient.kMaxBodyBytes) := by
  have hshort := hasks.short
  rw [HTTPClient.requestText_eq] at hasked hshort
  have hreceive : receive [] none up = (client.request method path body contentType).text :=
    HttpServer.receive_text hasks.wellFormed (HTTPClient.Asks.declares _ _ _ _ _) hasks.spelled hshort hup hasked
  refine ⟨HttpServer.service_text hasks.wellFormed hreceive, ?_⟩
  rw [hreceive, respond, HttpServer.parseHttpRequest_text hasks.wellFormed] at hanswered
  have hsent := hanswered.trans (Reply.buildHttpResponse_eq _)
  obtain ⟨rest, hreceived, hrest⟩ := HTTPClient.received_answer hfits hdown hsent
  rw [HTTPClient.perform, hreceived]
  exact HTTPClient.answer_head hfits client.host hrest

def listener : HTTPClient where
  host := "10.0.0.2".toList
  port := 8080

/-- A node that lists nothing. -/
def listing : Call → Reply := fun _ => ⟨200, "application/json".toList, "[]".toList⟩

theorem listener_asks : listener.Asks "GET".toList "/x-nmos/".toList [] [] where
  method_ne := List.cons_ne_nil _ _
  method_token := List.all_eq_true.mp (show "GET".toList.all isToken = true by decide)
  path_ne := List.cons_ne_nil _ _
  path_uri := List.all_eq_true.mp (show "/x-nmos/".toList.all isUri = true by decide)
  host_field := List.all_eq_true.mp (show "10.0.0.2".toList.all isField = true by decide)
  accept_field := fun _ h => absurd h List.not_mem_nil
  type_field := fun _ h => absurd h List.not_mem_nil
  plain := by decide
  short := by decide +kernel

/-- The list is asked for and comes. -/
theorem exchange_iff_listing :
    service [[listener.requestText "GET".toList "/x-nmos/".toList [] []]] =
      [⟨"GET".toList, decodePath (withoutQuery "/x-nmos/".toList), []⟩] ∧
    (HTTPClient.perform "10.0.0.2".toList (.answered [respond listing (receive [] none
        [listener.requestText "GET".toList "/x-nmos/".toList [] []])]) = ⟨200, "[]".toList, []⟩ ↔
      100 ≤ 200 ∧ 200 ≤ 599 ∧ 2 ≤ HTTPClient.kMaxBodyBytes) :=
  exchange_iff listener listing listener_asks
    ⟨List.all_eq_true.mp (show "application/json".toList.all isField = true by decide),
      by decide +kernel⟩
    (by decide +kernel) (List.append_nil _) (by decide +kernel) (List.append_nil _)

end Aes67.Ravenna
