import Mathlib
import Aes67.Lib.Binary64
import Aes67.Lib.OrdMap

/-!
# Session descriptions

The model of `SDPParser`: the session a description stands for, the parser, which walks the lines
in order and lets each one overwrite fields, and the generator, which is separate code.

* `SDPSession` with its defaults and `isValid`;
* `parseString`: the lines folded by `parseLine`, one reader for each kind of line and attribute;
* `generate`: the lines of a session, each ended by CRLF.
-/

namespace Aes67.Sdp

/-- `SDPSession`. -/
structure SDPSession where
  sessionName : Text := []
  sessionInfo : Text := []
  sessionID : UInt64 := 0
  sessionVersion : UInt64 := 0
  originUsername : Text := "-".toList
  originAddress : Text := []
  originNetworkType : Text := "IN".toList
  originAddressType : Text := "IP4".toList
  connectionAddress : Text := []
  connectionType : Text := "IN".toList
  connectionNetwork : Text := "IP4".toList
  ttl : UInt8 := 32
  timeStart : UInt64 := 0
  timeStop : UInt64 := 0
  mediaType : Text := "audio".toList
  port : UInt16 := 5004
  transport : Text := "RTP/AVP".toList
  payloadType : UInt8 := 97
  encoding : Text := "L24".toList
  sampleRate : UInt32 := 48000
  numChannels : UInt16 := 2
  ptimeUs : UInt32 := 1000
  framecount : UInt32 := 0
  sourceAddress : Text := []
  ptpDomain : Int32 := 0
  ptpMasterMAC : Text := []
  ptpTraceable : Bool := false
  mediaClockType : Text := "direct=0".toList
  dscp : Int32 := -1
  direction : Text := "recvonly".toList
  customAttributes : OrdMap Text Text := .empty
  deriving DecidableEq

namespace SDPSession

/-- `SDPSession::getValidationErrors`. -/
def getValidationErrors (s : SDPSession) : List Text :=
  (if s.sessionName = [] then ["Session name (s=) is required".toList] else []) ++
  (if s.connectionAddress = [] then ["Connection address (c=) is required".toList] else []) ++
  (if s.port = 0 then ["Port must be non-zero".toList] else []) ++
  (if s.encoding ≠ "L16".toList ∧ s.encoding ≠ "L24".toList ∧ s.encoding ≠ "AM824".toList then
    ["Invalid encoding: ".toList ++ s.encoding] else []) ++
  (if s.sampleRate = 0 then ["Sample rate must be non-zero".toList] else []) ++
  (if s.numChannels = 0 then ["Channel count must be non-zero".toList] else [])

def isValid (s : SDPSession) : Bool := s.getValidationErrors.isEmpty

/-- What `getValidationErrors` has no complaint about. -/
structure Valid (s : SDPSession) : Prop where
  sessionName_ne : s.sessionName ≠ []
  connectionAddress_ne : s.connectionAddress ≠ []
  port_ne : s.port ≠ 0
  encoding_known : s.encoding ∈ ["L16".toList, "L24".toList, "AM824".toList]
  sampleRate_ne : s.sampleRate ≠ 0
  numChannels_ne : s.numChannels ≠ 0

theorem isValid_iff {s : SDPSession} : s.isValid = true ↔ s.Valid := by
  have one : ∀ (p : Prop) [Decidable p] (e : Text), (if p then [e] else []) = [] ↔ ¬ p := by
    intro p _ e
    split_ifs with h <;> simp [h]
  rw [isValid, List.isEmpty_iff, getValidationErrors]
  simp only [List.append_eq_nil_iff, one]
  constructor
  · rintro ⟨⟨⟨⟨⟨h1, h2⟩, h3⟩, h4⟩, h5⟩, h6⟩
    refine ⟨h1, h2, h3, ?_, h5, h6⟩
    simp only [List.mem_cons, List.not_mem_nil, or_false]
    tauto
  · rintro ⟨h1, h2, h3, h4, h5, h6⟩
    refine ⟨⟨⟨⟨⟨h1, h2⟩, h3⟩, ?_⟩, h5⟩, h6⟩
    simp only [List.mem_cons, List.not_mem_nil, or_false] at h4
    tauto

end SDPSession

/-! ## Splitting -/

/-- Drop one carriage return at the end of a line. -/
def chomp (line : Text) : Text :=
  if line.getLast? = some '\r' then line.dropLast else line

def splitLines (text : Text) : List Text := (getlines '\n' text).map chomp

def splitString (str : Text) (delimiter : Char) : List Text := (getlines delimiter str).map trim

/-! ## Parsing -/

def parseDomainOr (text : Text) (fallback : Int32) : Int32 :=
  match stoi text with
  | some n => Int32.ofInt n
  | none => fallback

/-- `SDPParser::parseOriginLine`. -/
def parseOriginLine (line : Text) (session : SDPSession) : Option SDPSession :=
  match splitString line ' ' with
  | username :: id :: version :: nettype :: addrtype :: address :: _ =>
    match stoull id, stoull version with
    | some id, some version =>
      some { session with
        originUsername := username
        sessionID := .ofNat id
        sessionVersion := .ofNat version
        originNetworkType := nettype
        originAddressType := addrtype
        originAddress := address }
    | _, _ => none
  | _ => none

/-- `SDPParser::parseConnectionLine`. -/
def parseConnectionLine (line : Text) (session : SDPSession) : Option SDPSession :=
  match splitString line ' ' with
  | nettype :: addrtype :: addrPart :: _ =>
    let session := { session with connectionType := nettype, connectionNetwork := addrtype }
    match cut ['/'] addrPart with
    | some (address, ttl) =>
      some { session with
        connectionAddress := address
        ttl := match stoi ttl with
          | some n => .ofInt n
          | none => 32 }
    | none => some { session with connectionAddress := addrPart }
  | _ => none

/-- `SDPParser::parseTimingLine`. -/
def parseTimingLine (line : Text) (session : SDPSession) : Option SDPSession :=
  match splitString line ' ' with
  | start :: stop :: _ =>
    match stoull start, stoull stop with
    | some start, some stop =>
      some { session with timeStart := .ofNat start, timeStop := .ofNat stop }
    | _, _ => none
  | _ => none

/-- `SDPParser::parseMediaLine`. -/
def parseMediaLine (line : Text) (session : SDPSession) : Option SDPSession :=
  match splitString line ' ' with
  | media :: port :: proto :: fmt :: _ =>
    match stoi port, stoi fmt with
    | some port, some payloadType =>
      if port < 0 ∨ port > 65535 then none
      else if payloadType < 0 ∨ payloadType > 127 then none
      else some { session with
        mediaType := media
        port := .ofInt port
        transport := proto
        payloadType := .ofInt payloadType }
    | _, _ => none
  | _ => none

/-- `SDPParser::parseRTPMapAttribute`. A line for another payload type is read in full and then
left aside. -/
def parseRTPMapAttribute (value : Text) (session : SDPSession) : Option SDPSession :=
  match splitString value ' ' with
  | pt :: format :: _ =>
    match splitString format '/' with
    | encoding :: rate :: params =>
      match stoi pt, stoull rate with
      | some linePayloadType, some sampleRate =>
        let numChannels : Option UInt16 := match params with
          | [] => some session.numChannels
          | channels :: _ => match stol channels with
            | some n => if n < 1 ∨ n > 65535 then none else some (.ofInt n)
            | none => none
        match numChannels with
        | none => none
        | some numChannels =>
          if linePayloadType ≠ session.payloadType.toNat then some session
          else some { session with
            encoding := encoding
            sampleRate := .ofNat sampleRate
            numChannels := numChannels }
      | _, _ => none
    | _ => none
  | _ => none

/-- `SDPParser::parsePTimeAttribute`. Not a number and the infinities fail the range check. -/
def parsePTimeAttribute (value : Text) (session : SDPSession) : Option SDPSession :=
  match stod value with
  | some (.fin ms) =>
    if ¬ ms > 0 ∨ ms > 1000 then none
    else some { session with ptimeUs := .ofInt (lround (round64 (ms * 1000))) }
  | _ => none

/-- `SDPParser::parseFrameCountAttribute`. -/
def parseFrameCountAttribute (value : Text) (session : SDPSession) : Option SDPSession :=
  match stoull value with
  | some n => some { session with framecount := .ofNat n }
  | none => none

/-- `SDPParser::parseSourceFilterAttribute`. -/
def parseSourceFilterAttribute (value : Text) (session : SDPSession) : Option SDPSession :=
  match splitString (trim value) ' ' with
  | _ :: _ :: _ :: _ :: source :: _ => some { session with sourceAddress := source }
  | _ => none

/-- The white space `parsePTPRefClockAttribute` strips from the end. -/
def isTrailing (c : Char) : Bool := c == ' ' || c == '\r' || c == '\n' || c == '\t'

/-- What stands before and after the last occurrence of `d`. -/
def cutLast (d : Char) (s : Text) : Option (Text × Text) :=
  if d ∈ s then some ((s.rdropWhile (· ≠ d)).dropLast, s.rtakeWhile (· ≠ d)) else none

/-- The reference after `ptp=IEEE1588-2008:`: an identity with a domain named, given as a bare
number, or absent. -/
def parseGrandmaster (rest : Text) (session : SDPSession) : SDPSession :=
  match cut ":domain-nmbr=".toList rest with
  | some (gmid, domain) =>
    { session with
      ptpMasterMAC := gmid
      ptpDomain := parseDomainOr domain session.ptpDomain }
  | none =>
    match cutLast ':' rest with
    | some (gmid, tail) =>
      if tail ≠ [] ∧ tail.all Char.isDigit then
        { session with
          ptpMasterMAC := gmid
          ptpDomain := parseDomainOr tail session.ptpDomain }
      else { session with ptpMasterMAC := rest }
    | none => { session with ptpMasterMAC := rest }

/-- `SDPParser::parsePTPRefClockAttribute`. It never fails. -/
def parsePTPRefClockAttribute (value : Text) (session : SDPSession) : SDPSession :=
  if contains "traceable".toList value then
    { session with ptpTraceable := true, ptpMasterMAC := [] }
  else match cut "ptp=IEEE1588-2008:".toList value with
    | some (_, rest) => parseGrandmaster (rest.rdropWhile isTrailing) session
    | none => session

/-- The words `parseAttributeLine` takes for a direction. -/
def directions : List Text :=
  ["recvonly".toList, "sendonly".toList, "sendrecv".toList, "inactive".toList]

/-- The attributes with a reader of their own. -/
def interpreted : List Text :=
  ["rtpmap".toList, "ptime".toList, "framecount".toList, "source-filter".toList,
    "ts-refclk".toList, "mediaclk".toList]

/-- `SDPParser::parseAttributeLine`, on the attribute and its value. -/
def parseAttribute (name value : Text) (session : SDPSession) : Option SDPSession :=
  if name = "rtpmap".toList then parseRTPMapAttribute value session
  else if name = "ptime".toList then parsePTimeAttribute value session
  else if name = "framecount".toList then parseFrameCountAttribute value session
  else if name = "source-filter".toList then parseSourceFilterAttribute value session
  else if name = "ts-refclk".toList then some (parsePTPRefClockAttribute value session)
  else if name = "mediaclk".toList then some { session with mediaClockType := value }
  else if name ∈ directions then some { session with direction := name }
  else some { session with customAttributes := session.customAttributes.insert name value }

def parseAttributeLine (line : Text) (session : SDPSession) : Option SDPSession :=
  match cut [':'] line with
  | some (name, value) => parseAttribute name value session
  | none => parseAttribute line [] session

/-- The body of the loop of `SDPParser::parseString`. -/
def parseLine (session : SDPSession) (line : Text) : Option SDPSession :=
  match line with
  | type :: '=' :: value =>
    if type = 'v' then if trim value = "0".toList then some session else none
    else if type = 'o' then parseOriginLine value session
    else if type = 's' then some { session with sessionName := trim value }
    else if type = 'i' then some { session with sessionInfo := trim value }
    else if type = 'c' then parseConnectionLine value session
    else if type = 't' then parseTimingLine value session
    else if type = 'm' then parseMediaLine value session
    else if type = 'a' then parseAttributeLine value session
    -- A comment, or a kind of line the parser does not know.
    else some session
  | _ => some session

/-- `SDPParser::parseString`. -/
def parseString (sdp : Text) : Option SDPSession :=
  match (splitLines sdp).foldlM parseLine {} with
  | some session => if session.isValid then some session else none
  | none => none

/-! ## Generation -/

/-- `formatPTimeMs`. -/
def formatPTimeMs (ptimeUs : UInt32) : Text :=
  let out := printFixed 3 (round64 (ptimeUs.toNat / 1000))
  if '.' ∈ out then
    let out := out.rdropWhile (· = '0')
    if out.getLast? = some '.' then out.dropLast else out
  else out

/-- Words with a space between each two. -/
def words : List Text → Text := List.intercalate " ".toList

/-- `SDPParser::generateOriginLine`, at the time `now`. -/
def generateOriginLine (now : UInt64) (s : SDPSession) : Text :=
  let sessId := if s.sessionID = 0 then now else s.sessionID
  "o=".toList ++ words [s.originUsername, showNat sessId.toNat, showNat s.sessionVersion.toNat,
    s.originNetworkType, s.originAddressType, s.originAddress]

/-- `SDPParser::generateConnectionLine`. -/
def generateConnectionLine (s : SDPSession) : Text :=
  "c=".toList ++ words [s.connectionType, s.connectionNetwork,
    s.connectionAddress ++ if s.ttl ≠ 0 then '/' :: showNat s.ttl.toNat else []]

/-- `SDPParser::generateMediaLine`. -/
def generateMediaLine (s : SDPSession) : Text :=
  "m=".toList ++ words [s.mediaType, showNat s.port.toNat, s.transport,
    showNat s.payloadType.toNat]

def rtpmapFormat (s : SDPSession) : Text :=
  List.intercalate "/".toList
    [s.encoding, showNat s.sampleRate.toNat, showNat s.numChannels.toNat]

def rtpmapLine (s : SDPSession) : Text :=
  "a=rtpmap:".toList ++ words [showNat s.payloadType.toNat, rtpmapFormat s]

def ptimeLine (s : SDPSession) : Text := "a=ptime:".toList ++ formatPTimeMs s.ptimeUs

def framecountLines (s : SDPSession) : List Text :=
  if s.framecount > 0 then ["a=framecount:".toList ++ showNat s.framecount.toNat] else []

def sourceFilterLines (s : SDPSession) : List Text :=
  if s.sourceAddress ≠ [] then
    ["a=source-filter: ".toList ++
      words ["incl".toList, "IN".toList, "IP4".toList, s.connectionAddress, s.sourceAddress]]
  else []

/-- The reference clock. The traceable form takes precedence over a named grandmaster. -/
def refClockLines (s : SDPSession) : List Text :=
  if s.ptpTraceable then ["a=ts-refclk:ptp=IEEE1588-2008:traceable".toList]
  else if s.ptpDomain ≥ 0 ∧ s.ptpMasterMAC ≠ [] then
    ["a=ts-refclk:ptp=IEEE1588-2008:".toList ++ s.ptpMasterMAC ++ ':' :: showInt s.ptpDomain.toInt]
  else []

/-- The key of the attribute `generate` adds of itself. -/
def clockDomain : Text := "clock-domain".toList

def clockDomainValue (s : SDPSession) : Text := "PTPv2 ".toList ++ showInt s.ptpDomain.toInt

def clockDomainLines (s : SDPSession) : List Text :=
  if s.ptpDomain ≥ 0 ∧ s.customAttributes.find? clockDomain = none then
    ["a=clock-domain:".toList ++ clockDomainValue s]
  else []

def mediaClockLines (s : SDPSession) : List Text :=
  if s.mediaClockType ≠ [] then ["a=mediaclk:".toList ++ s.mediaClockType] else []

def customLine (e : Text × Text) : Text :=
  if e.2 = [] then "a=".toList ++ e.1 else "a=".toList ++ e.1 ++ ':' :: e.2

/-- `SDPParser::generateAttributes`. -/
def generateAttributes (s : SDPSession) : List Text :=
  [rtpmapLine s, ptimeLine s] ++ framecountLines s ++ ["a=".toList ++ s.direction] ++
    sourceFilterLines s ++ refClockLines s ++ clockDomainLines s ++ mediaClockLines s ++
    s.customAttributes.entries.map customLine

/-- The lines before the attributes. The connection stands at both levels. -/
def headerLines (now : UInt64) (s : SDPSession) : List Text :=
  "v=0".toList :: generateOriginLine now s :: ("s=".toList ++ s.sessionName) ::
    ((if s.sessionInfo ≠ [] then ["i=".toList ++ s.sessionInfo] else []) ++
    [generateConnectionLine s,
      "t=".toList ++ words [showNat s.timeStart.toNat, showNat s.timeStop.toNat],
      generateMediaLine s, generateConnectionLine s])

def generateLines (now : UInt64) (s : SDPSession) : List Text :=
  headerLines now s ++ generateAttributes s

/-- `SDPParser::generate`, at the time `now`. -/
def generate (now : UInt64) (s : SDPSession) : Text :=
  (generateLines now s).flatMap (· ++ "\r\n".toList)

end Aes67.Sdp
