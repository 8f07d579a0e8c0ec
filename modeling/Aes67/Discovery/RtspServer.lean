import Mathlib
import Aes67.Lib.OrdMap
import Aes67.Discovery.RtspUrl

/-!
# The two RTSP servers

The model of `RTSPServer`, which answers DESCRIBE for the driver's own streams, and of the
`RtspServer` of the RAVENNA package, which does so for the session catalogue: what each makes of a
request it has read, and the text it answers with.

* `parseCSeq`, `parseRequestLine`, `serve`: the driver's server;
* `Ravenna.parseRtspRequest`, `Ravenna.buildRtspResponse`, `Ravenna.answer`: the RAVENNA server;
* **`parseRequestLine_request`**, **`Ravenna.parseRtspRequest_request`**: what each reads in a
  request whose line is a method, a URL and the version.
-/

namespace Aes67

def crlf : Text := ['\r', '\n']

/-! The parts of an answer's header block that do not change. -/

def versionPart : Text := "RTSP/1.0 ".toList

def cseqPart : Text := "CSeq: ".toList

def typePart : Text := "Content-Type: application/sdp".toList

def basePart : Text := "Content-Base: ".toList

def lengthPart : Text := "Content-Length: ".toList

def okReason : Text := "OK".toList

def statusLine (code : ℕ) (reason : Text) (cseq : ℕ) : Text :=
  versionPart ++ showNat code ++ [' '] ++ reason ++ crlf ++ (cseqPart ++ showNat cseq ++ crlf)

/-- The digits of a CSeq; an absurd number is cut short. -/
def readCSeq (value : ℕ) : Text → ℕ
  | [] => value
  | c :: s =>
    if c.isDigit then
      if value > 100000000 then value else readCSeq (value * 10 + (c.toNat - 48)) s
    else value

/-- `parseCSeq`: the first one in the request, whatever its case. -/
def parseCSeq (request : Text) : ℕ :=
  match cut "cseq:".toList (request.map Char.toLower) with
  | none => 0
  | some (before, _) =>
    readCSeq 0 ((request.drop (before.length + 5)).dropWhile fun c => c == ' ' || c == '\t')

/-- `parseRequestLine`: the method and the path, decoded. -/
def parseRequestLine (request : Text) : Option (Text × Text) :=
  let line := match cut crlf request with
    | some (line, _) => line
    | none => request
  match fields line with
  | method :: url :: version :: _ =>
    if "RTSP/".toList.isPrefixOf version then
      let path := pathOf url
      some (method, percentDecode (if path = [] then ['/'] else path))
    else none
  | _ => none

structure RTSPPublishedStream where
  path : Text
  sdp : Text

/-- The answer to a DESCRIBE, with the path as the base. -/
def describeResponse (path sdp : Text) (cseq : ℕ) : Text :=
  statusLine 200 okReason cseq ++
    (typePart ++ crlf ++
      (basePart ++ path ++ crlf ++ (lengthPart ++ showNat sdp.length ++ crlf ++ (crlf ++ sdp))))

/-- `serve`, once the request has been read: what is sent back, if anything. -/
def serve (streams : List RTSPPublishedStream) (request : Text) : Option Text :=
  if request = [] then none
  else
    let cseq := parseCSeq request
    match parseRequestLine request with
    | none => some (statusLine 400 "Bad Request".toList cseq ++ crlf)
    | some (method, path) =>
      if method = "OPTIONS".toList then
        some (statusLine 200 okReason cseq ++ "Public: OPTIONS, DESCRIBE".toList ++ crlf ++ crlf)
      else if method ≠ "DESCRIBE".toList then
        some (statusLine 501 "Not Implemented".toList cseq ++ crlf)
      else
        match streams.find? (·.path = path) with
        | some stream => some (describeResponse path stream.sdp cseq)
        | none => some (statusLine 404 "Not Found".toList cseq ++ crlf)

namespace Ravenna

inductive RtspMethod
  | Options
  | Describe
  | Unsupported
  deriving DecidableEq

structure RtspRequest where
  method : RtspMethod
  methodName : Text
  uri : Text
  version : Text
  headers : OrdMap Text Text
  sequence : ℕ

def methodFrom (name : Text) : RtspMethod :=
  if name = "OPTIONS".toList then .Options
  else if name = "DESCRIBE".toList then .Describe
  else .Unsupported

/-- `trimmed`: without the spaces, tabs and line endings at either end. -/
def trimmed (text : Text) : Text :=
  let blank := fun c : Char => c == ' ' || c == '\t' || c == '\r' || c == '\n'
  (text.dropWhile blank).rdropWhile blank

/-- The headers, up to the end of the header block. -/
def readHeaders (headers : OrdMap Text Text) : List Text → OrdMap Text Text
  | [] => headers
  | line :: lines =>
    let header := trimmed line
    if header = [] then headers
    else match cut [':'] header with
      | none => readHeaders headers lines
      | some (name, value) =>
        readHeaders (headers.insert ((trimmed name).map Char.toLower) (trimmed value)) lines

def parseRtspRequest (text : Text) : Option RtspRequest :=
  match getlines '\n' text with
  | [] => none
  | line :: lines =>
    match fields (trimmed line) with
    | methodName :: uri :: version :: _ =>
      if "RTSP/".toList.isPrefixOf version then
        let headers := readHeaders .empty lines
        some
          { method := methodFrom methodName
            methodName := methodName
            uri := uri
            version := version
            headers := headers
            sequence := (((headers.find? "cseq".toList).bind stoull).getD 0) % 2 ^ 32 }
      else none
    | _ => none

def buildRtspResponse (sequence statusCode : ℕ) (statusText : Text) (headers : OrdMap Text Text)
    (body : Text) : Text :=
  versionPart ++ showNat statusCode ++ [' '] ++ statusText ++ crlf ++
    (cseqPart ++ showNat sequence ++ crlf ++
      ((headers.entries.flatMap fun header => header.1 ++ [':', ' '] ++ header.2 ++ crlf) ++
        ((if body = [] then [] else lengthPart ++ showNat body.length ++ crlf) ++ (crlf ++ body))))

/-- The headers of an answer to a DESCRIBE; the map puts the base first. -/
def describeHeaders (contentBase : Text) : OrdMap Text Text :=
  (OrdMap.empty.insert "Content-Type".toList "application/sdp".toList).insert
    "Content-Base".toList contentBase

def buildDescribeResponse (sequence : ℕ) (contentBase sdp : Text) : Text :=
  buildRtspResponse sequence 200 okReason (describeHeaders contentBase) sdp

/-- `RtspServer::answer`: what is sent back, if anything, with `describe` the catalogue's. -/
def answer (describe : Text → Option Text) (text : Text) : Option Text :=
  match parseRtspRequest text with
  | none => none
  | some request =>
    match request.method with
    | .Options =>
      some (buildRtspResponse request.sequence 200 okReason
        ((OrdMap.empty : OrdMap Text Text).insert "Public".toList "OPTIONS, DESCRIBE".toList) [])
    | .Describe =>
      match describe (percentDecode (pathOf request.uri)) with
      | some sdp => some (buildDescribeResponse request.sequence request.uri sdp)
      | none => some (buildRtspResponse request.sequence 404 "Not Found".toList .empty [])
    | .Unsupported => some (buildRtspResponse request.sequence 501 "Not Implemented".toList .empty [])

end Ravenna

/-! ## Reading a request -/

variable {method url rest : Text}

/-- The request line of a method and a URL. -/
def requestLine (method url : Text) : Text := method ++ ' ' :: (url ++ " RTSP/1.0".toList)

theorem fields_requestLine (hm : method ≠ []) (hms : ∀ c ∈ method, isSpace c = false)
    (hu : url ≠ []) (hus : ∀ c ∈ url, isSpace c = false) :
    fields (requestLine method url) = [method, url, "RTSP/1.0".toList] := by
  have hversion : fields "RTSP/1.0".toList = ["RTSP/1.0".toList] := by decide
  have htail : " RTSP/1.0".toList = ' ' :: "RTSP/1.0".toList := rfl
  rw [requestLine, htail, fields_append_cons rfl, fields_append_cons rfl,
    fields_of_forall hm hms, fields_of_forall hu hus, hversion]
  rfl

theorem not_mem_requestLine {c : Char} (hc : c ∉ " RTSP/1.0".toList) (hm : c ∉ method)
    (hu : c ∉ url) : c ∉ requestLine method url := by
  have hs : c ≠ ' ' := fun h => hc (h ▸ by decide)
  simp only [requestLine, List.mem_append, List.mem_cons]
  tauto

/-- **What the driver's server reads**: the method, and the path of the URL, decoded. -/
theorem parseRequestLine_request (hm : method ≠ []) (hms : ∀ c ∈ method, isSpace c = false)
    (hu : url ≠ []) (hus : ∀ c ∈ url, isSpace c = false) (hpath : pathOf url ≠ []) (rest : Text) :
    parseRequestLine (requestLine method url ++ crlf ++ rest) =
      some (method, percentDecode (pathOf url)) := by
  have hnr : '\r' ∉ requestLine method url :=
    not_mem_requestLine (by decide) (fun h => absurd (hms _ h) (by decide))
      fun h => absurd (hus _ h) (by decide)
  have hcut : cut crlf (requestLine method url ++ crlf ++ rest) =
      some (requestLine method url, rest) := by
    rw [List.append_assoc, crlf, cut_append_of_not_mem hnr, cut_append (List.cons_ne_nil _ _)]
    simp
  simp only [parseRequestLine, hcut, fields_requestLine hm hms hu hus]
  rw [if_pos (by decide), if_neg hpath]

namespace Ravenna

theorem trimmed_requestLine (hm : method ≠ []) (hms : ∀ c ∈ method, isSpace c = false) :
    trimmed (requestLine method url ++ ['\r']) = requestLine method url := by
  obtain ⟨c, m, rfl⟩ := List.exists_cons_of_ne_nil hm
  have hc : (c == ' ' || c == '\t' || c == '\r' || c == '\n') = false := by
    have := hms c List.mem_cons_self
    simp only [isSpace, Bool.or_eq_false_iff] at this ⊢
    tauto
  have hlast : requestLine (c :: m) url = (c :: m ++ ' ' :: (url ++ " RTSP/1.".toList)) ++ ['0'] := by
    have : " RTSP/1.0".toList = " RTSP/1.".toList ++ ['0'] := by decide
    rw [requestLine, this]
    simp only [List.append_assoc, List.cons_append]
  have hdrop : ((requestLine (c :: m) url ++ ['\r']).dropWhile fun c : Char =>
      c == ' ' || c == '\t' || c == '\r' || c == '\n') = requestLine (c :: m) url ++ ['\r'] := by
    rw [requestLine, List.cons_append, List.cons_append, List.dropWhile_cons, if_neg (by simp [hc])]
  simp only [trimmed]
  rw [hdrop, List.rdropWhile_concat_pos _ _ _ (by decide), hlast,
    List.rdropWhile_concat_neg _ _ _ (by decide)]

/-- **What the RAVENNA server reads** of the same request: the method and the URL as they stand. -/
theorem parseRtspRequest_request (hm : method ≠ []) (hms : ∀ c ∈ method, isSpace c = false)
    (hu : url ≠ []) (hus : ∀ c ∈ url, isSpace c = false) (rest : Text) :
    ∃ request, parseRtspRequest (requestLine method url ++ crlf ++ rest) = some request ∧
      request.method = methodFrom method ∧ request.uri = url := by
  have hnl : '\n' ∉ requestLine method url ++ ['\r'] := by
    rw [List.mem_append, not_or]
    exact ⟨not_mem_requestLine (by decide) (fun h => absurd (hms _ h) (by decide))
      fun h => absurd (hus _ h) (by decide), by decide⟩
  have hlines : getlines '\n' (requestLine method url ++ crlf ++ rest) =
      (requestLine method url ++ ['\r']) :: getlines '\n' rest := by
    have := getlines_append_cons hnl rest
    simpa only [crlf, List.append_assoc, List.cons_append, List.nil_append] using this
  simp only [parseRtspRequest, hlines, trimmed_requestLine hm hms, fields_requestLine hm hms hu hus]
  rw [if_pos (by decide)]
  exact ⟨_, rfl, rfl, rfl⟩

end Ravenna

end Aes67
