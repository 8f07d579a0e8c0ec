import Aes67.Discovery.Fetched
import Aes67.Lib.Http
import Aes67.Mapper.Model
import Aes67.Ravenna.DnsSd
import Aes67.Sdp.RoundTrip

/-!
# The sessions a node offers

A node's sessions stand in a catalogue, which DESCRIBE is answered from. Sessions come and go while it
runs, and the driver's client may ask for one at any time.

* `SessionCatalogue`, with `add`, `remove`, `describe` and `advertisements`;
* `RtspServer.receive`, `RtspServer.service`: a request off its connection, and its answer;
* `RTSPClient.describe`: what the driver makes of the answer;
* `offered`: the session of a name by the last operation that settles it; **`find?_run`**: the
  catalogue holds it;
* **`describe_service`**: what the driver is told of a path is what the catalogue describes it with;
* **`described_offered`**: after any run, what the driver is told of a name is the session that is
  offered then, as it is read back, and nothing where none is.
-/

namespace Aes67

namespace Ravenna

open Sdp (SDPSession)
open DnsSd (SessionAdvertisement Octets octets)

/-! ## The catalogue -/

structure RavennaSession where
  name : Text
  path : Text := []
  sdp : SDPSession
  mapping : ChannelMapping

/-- `SessionCatalogue`, by name. -/
structure SessionCatalogue where
  sessions : OrdMap Text RavennaSession := .empty

namespace SessionCatalogue

def pathFor (name : Text) : Text := "/by-name/".toList ++ name

/-- The session with the path it is stored with. -/
def stored (session : RavennaSession) : RavennaSession :=
  if session.path = [] then { session with path := pathFor session.name } else session

variable (catalogue : SessionCatalogue)

/-- `add`, or the error. -/
def add (session : RavennaSession) : Except Text SessionCatalogue :=
  if session.name = [] then
    .error ("a session needs a name: it is what DNS-SD advertises and what ".toList ++
      "a DESCRIBE asks for".toList)
  else if !session.sdp.isValid then
    .error (session.sdp.getValidationErrors.foldl (fun text problem => text ++ "\n  - ".toList ++ problem)
      ("the SDP for ".toList ++ session.name ++ " is not valid".toList))
  else if session.mapping.deviceChannelCount ≠ session.sdp.numChannels.toNat then
    .error ("session ".toList ++ session.name ++ " maps ".toList ++
      showNat session.mapping.deviceChannelCount ++
      " device channels but its SDP announces ".toList ++ showNat session.sdp.numChannels.toNat)
  else .ok ⟨catalogue.sessions.insert session.name (stored session)⟩

/-- `remove`: whether there was one. -/
def remove (name : Text) : Bool × SessionCatalogue :=
  ((catalogue.sessions.find? name).isSome, ⟨catalogue.sessions.erase name⟩)

/-- `describe`, at the time `now`: the first session by name that has the path. -/
def describe (now : UInt64) (path : Text) : Option Text :=
  (catalogue.sessions.values.find? (·.path = path)).map fun session => Sdp.generate now session.sdp

/-- `advertisements`: an entry for each session, by name. -/
def advertisements (hostName : Octets) (port : UInt16) (addressV4 : UInt32) :
    List SessionAdvertisement :=
  catalogue.sessions.entries.map fun (name, session) =>
    { instanceName := octets (.ofList name)
      hostName := hostName
      port := port
      addressV4 := addressV4
      txtEntries := [octets "txtvers=1", octets "path=" ++ octets (.ofList session.path),
        octets "channels=" ++ octets (.ofList (showNat session.sdp.numChannels.toNat))] }

end SessionCatalogue

/-! ## The server and the client -/

namespace RtspServer

def kMaxRequestBytes : ℕ := 8192

def hasCompleteHeaders (text : Text) : Bool :=
  contains ['\r', '\n', '\r', '\n'] text || contains ['\n', '\n'] text

/-- The loop that reads a request. -/
def receive (text : Text) : List Text → Text
  | [] => text
  | chunk :: chunks =>
    if text.length ≥ kMaxRequestBytes ∨ chunk = [] then text
    else if hasCompleteHeaders (text ++ chunk) then text ++ chunk
    else receive (text ++ chunk) chunks

/-- `service`, for one connection: what is sent back, if anything. -/
def service (describe : Text → Option Text) (chunks : List Text) : Option Text :=
  let text := receive [] chunks
  if text = [] then none else answer describe text

end RtspServer

end Ravenna

namespace RTSPClient

def RTSPResponse.isSuccess (response : RTSPResponse) : Bool :=
  response.statusCode ≥ 200 && response.statusCode < 300

/-- `describe`: the session that the answer describes, where it is a success. -/
def describe (chunks : List Text) : Option Sdp.SDPSession :=
  match (readResponse chunks).bind parseResponse with
  | none => none
  | some response => if response.isSuccess then Sdp.parseString response.body else none

end RTSPClient

namespace Ravenna

open Sdp (SDPSession)

/-! ## The request -/

variable {text : Text} {chunks : List Text}

/-- The loop reads until the headers are complete. -/
theorem RtspServer.receive_eq_collect (hchunks : ∀ chunk ∈ chunks, chunk ≠ [])
    (hlen : (text ++ chunks.flatten).length ≤ kMaxRequestBytes) :
    receive text chunks = Http.collect hasCompleteHeaders text chunks := by
  induction chunks generalizing text with
  | nil => rfl
  | cons chunk chunks ih =>
    have hne : chunk ≠ [] := hchunks chunk List.mem_cons_self
    have hpos : 0 < chunk.length := List.length_pos_iff.mpr hne
    rw [List.flatten_cons, ← List.append_assoc] at hlen
    have hroom : ¬ (text.length ≥ kMaxRequestBytes ∨ chunk = []) := by
      simp only [List.length_append] at hlen
      rintro (h | h)
      · omega
      · exact hne h
    rw [receive, Http.collect, if_neg hroom]
    split_ifs
    · rfl
    · exact ih (fun c hc => hchunks c (List.mem_cons_of_mem _ hc)) hlen

/-- The lines of the client's request. -/
def requestLines (userAgent : Text) (cseq : ℕ) : List Text :=
  [cseqPart ++ showNat cseq, "User-Agent: ".toList ++ userAgent, "Accept: application/sdp".toList]

theorem describeRequest_eq (url userAgent : Text) (cseq : ℕ) :
    RTSPClient.describeRequest url userAgent cseq =
      Http.joined (requestLine "DESCRIBE".toList (encodeRequestURL url))
        (requestLines userAgent cseq) ++ (Http.headEnd ++ []) := by
  rw [RTSPClient.describeRequest, requestLines, Http.joined]
  simp only [crlf, Http.headEnd, List.flatMap_cons, List.flatMap_nil, List.append_assoc,
    List.cons_append, List.nil_append, List.append_nil]

/-- Lines without line ends of their own have no two line feeds in a row. -/
theorem not_infix_joined {line : Text} {lines : List Text} (h0 : '\n' ∉ line)
    (h : ∀ l ∈ lines, '\n' ∉ l) : ¬ ['\n', '\n'] <:+: Http.joined line lines ++ (Http.headEnd ++ []) := by
  induction lines generalizing line with
  | nil =>
    intro hin
    rw [Http.joined, List.flatMap_nil, List.append_nil] at hin
    exact absurd (infix_of_not_mem h0 hin) (by decide)
  | cons l lines ih =>
    intro hin
    have hl := h l List.mem_cons_self
    rw [Http.joined_cons, List.append_assoc] at hin
    have hin := infix_of_not_mem h0 hin
    rcases List.infix_cons_iff.mp hin with hp | hin
    · exact absurd (List.cons_prefix_cons.mp hp).1 (by decide)
    rcases List.infix_cons_iff.mp hin with hp | hin
    · obtain ⟨s, hs⟩ := (List.cons_prefix_cons.mp hp).2
      have hfirst : (Http.joined l lines ++ (Http.headEnd ++ [])).head? = some '\n' :=
        (congrArg List.head? hs).symm
      cases l with
      | cons c l =>
        rw [Http.joined, List.cons_append, List.cons_append, List.head?_cons] at hfirst
        exact hl (Option.some.inj hfirst ▸ List.mem_cons_self)
      | nil => cases lines <;> cases hfirst
    · exact ih hl (fun l' hl' => h l' (List.mem_cons_of_mem _ hl')) hin

/-- The client's lines have no line ends of their own. -/
theorem requestLines_clean (service : MDNSService) {userAgent : Text} (cseq : ℕ)
    (huser : '\r' ∉ userAgent ∧ '\n' ∉ userAgent) :
    ('\r' ∉ requestLine "DESCRIBE".toList service.url ∧
      '\n' ∉ requestLine "DESCRIBE".toList service.url) ∧
    ∀ l ∈ requestLines userAgent cseq, l ≠ [] ∧ '\r' ∉ l ∧ '\n' ∉ l := by
  have hurl : ∀ c : Char, isSpace c = true → c ∉ service.url := fun c hc h =>
    absurd (isSpace_of_isUrlSafe (service.isUrlSafe_of_mem_url h)) (by simp [hc])
  refine ⟨⟨not_mem_requestLine (by decide) (by decide) (hurl _ (by decide)),
    not_mem_requestLine (by decide) (by decide) (hurl _ (by decide))⟩, ?_⟩
  have hpart : ∀ (part value : Text), part ≠ [] → '\r' ∉ part ∧ '\n' ∉ part →
      '\r' ∉ value ∧ '\n' ∉ value →
      part ++ value ≠ [] ∧ '\r' ∉ part ++ value ∧ '\n' ∉ part ++ value := by
    intro part value hne hp hv
    simp only [List.mem_append, not_or]
    exact ⟨List.append_ne_nil_of_left_ne_nil hne _, ⟨hp.1, hv.1⟩, hp.2, hv.2⟩
  refine List.forall_mem_cons.mpr ⟨hpart _ _ (by decide) (by decide)
    ⟨RTSPClient.not_mem_showNat (by decide), RTSPClient.not_mem_showNat (by decide)⟩, ?_⟩
  exact List.forall_mem_cons.mpr ⟨hpart _ _ (by decide) (by decide) huser,
    List.forall_mem_singleton.mpr (by decide)⟩

/-- **The request is read whole**, however it is split. -/
theorem RtspServer.receive_request (service : MDNSService) {userAgent : Text} {cseq : ℕ}
    (huser : '\r' ∉ userAgent ∧ '\n' ∉ userAgent)
    (hshort : (RTSPClient.describeRequest service.url userAgent cseq).length ≤ kMaxRequestBytes)
    (hchunks : ∀ chunk ∈ chunks, chunk ≠ [])
    (hsent : chunks.flatten = RTSPClient.describeRequest service.url userAgent cseq) :
    receive [] chunks = RTSPClient.describeRequest service.url userAgent cseq := by
  obtain ⟨hline, hlines⟩ := requestLines_clean service cseq huser
  have heq := describeRequest_eq service.url userAgent cseq
  rw [service.encodeRequestURL_url] at heq
  have hcut := Http.cut_joined hline.1 (fun l hl => ⟨(hlines l hl).1, (hlines l hl).2.1⟩) []
  rw [← heq] at hcut
  have hno := not_infix_joined hline.2 fun l hl => (hlines l hl).2.2
  rw [← heq] at hno
  rw [receive_eq_collect hchunks (by rw [List.nil_append, hsent]; exact hshort),
    Http.collect_eq fun p hp hcomplete => ?_, List.nil_append, hsent]
  rw [List.nil_append, hsent] at hp ⊢
  rw [hasCompleteHeaders, Bool.or_eq_true] at hcomplete
  obtain ⟨t, ht⟩ := hp
  rcases hcomplete with hc | hc
  · obtain ⟨⟨a, b⟩, hab⟩ := Option.isSome_iff_exists.mp hc
    have hwhole := cut_append_right hab t
    rw [ht] at hwhole
    have hb := congrArg Prod.snd (Option.some.inj (hwhole.symm.trans hcut))
    have ht0 : t = [] := (List.append_eq_nil_iff.mp hb).2
    rw [← ht, ht0, List.append_nil]
  · exact absurd ((contains_iff.mp hc).trans ⟨[], t, ht⟩) hno

end Ravenna

/-! ## The answer -/

namespace RTSPClient

variable {chunks : List Text} {line rest text : Text}

theorem lf_mem_readHeaders {response read : Text} {more : List Text}
    (h : readHeaders response chunks = some (read, more)) : '\n' ∈ read := by
  induction chunks generalizing response with
  | nil => cases h
  | cons chunk chunks ih =>
    rw [readHeaders] at h
    split_ifs at h with hc
    · cases h
      exact (contains_iff.mp hc).subset (by decide)
    · exact ih h

theorem lf_mem_readResponse (h : readResponse chunks = some text) : '\n' ∈ text := by
  obtain ⟨⟨read, more⟩, hread, hresponse⟩ := Option.map_eq_some_iff.mp h
  have hlf := lf_mem_readHeaders hread
  cases hcut : cut endOfHeaders read with
  | none =>
    simp only [hcut] at hresponse
    exact hresponse ▸ hlf
  | some ab =>
    simp only [hcut] at hresponse
    obtain ⟨tail, htail, -⟩ := readBody_prefix (contentLengthIn read) read ab.2.length more
    rw [← hresponse, htail]
    exact List.mem_append_left _ hlf

/-- The status is that of the first line. -/
theorem statusCode_parseResponse {response : RTSPResponse} (hline : '\n' ∉ line)
    (hp : text <+: line ++ '\n' :: rest) (hlf : '\n' ∈ text)
    (h : parseResponse text = some response) : response.statusCode = (readStatus (chomp line)).1 := by
  have hfirst : text.takeWhile (· ≠ '\n') = line := by
    have hall : ∀ c ∈ line, decide (c ≠ '\n') = true := fun c hc =>
      decide_eq_true fun he => hline (he ▸ hc)
    rcases List.prefix_or_prefix_of_prefix hp (List.prefix_append line ('\n' :: rest)) with hle | hle
    · exact absurd (hle.subset hlf) hline
    · obtain ⟨more, rfl⟩ := hle
      have hmore := (List.prefix_append_right_inj line).mp hp
      rcases more with _ | ⟨c, more⟩
      · rw [List.append_nil] at hlf
        exact absurd hlf hline
      · obtain rfl := (List.cons_prefix_cons.mp hmore).1
        rw [List.takeWhile_append_of_pos hall, List.takeWhile_cons_of_neg (by decide),
          List.append_nil]
  unfold parseResponse at h
  split_ifs at h
  cases h
  dsimp only
  rw [hfirst]

/-- **What is made of an answer**: the body it is fetched with, where its first line is a success. -/
theorem describe_eq (hline : '\n' ∉ line) (h : chunks.flatten = line ++ '\n' :: rest) :
    describe chunks =
      if (readStatus (chomp line)).1 ≥ 200 ∧ (readStatus (chomp line)).1 < 300 then
        (fetched chunks).bind Sdp.parseString
      else none := by
  rw [describe, fetched]
  cases hresponse : (readResponse chunks).bind parseResponse with
  | none =>
    dsimp only
    rw [Option.map_none, Option.bind_none]
    split_ifs <;> rfl
  | some response =>
    obtain ⟨text, htext, hparse⟩ := Option.bind_eq_some_iff.mp hresponse
    have hstatus := statusCode_parseResponse hline (h ▸ flatten_isPrefix htext)
      (lf_mem_readResponse htext) hparse
    simp only [RTSPResponse.isSuccess, hstatus, Bool.and_eq_true, decide_eq_true_eq]
    rfl

end RTSPClient

namespace Ravenna

open Sdp (SDPSession)
open RTSPClient (describeRequest kMaxRTSPBodyBytes okLine okHeaders okResponse ravennaMid ArrivesIn)

/-- **What the driver is told of a path** is what the server describes it with. -/
theorem describe_service (service : MDNSService) {userAgent : Text} {cseq : ℕ}
    (describe : Text → Option Text) {up : List Text}
    (huser : '\r' ∉ userAgent ∧ '\n' ∉ userAgent)
    (hshort : (describeRequest service.url userAgent cseq).length ≤ RtspServer.kMaxRequestBytes)
    (hup : ∀ chunk ∈ up, chunk ≠ [])
    (hsent : up.flatten = describeRequest service.url userAgent cseq)
    (hsdp : ∀ sdp, describe service.path = some sdp → sdp ≠ [] ∧ sdp.length ≤ kMaxRTSPBodyBytes) :
    ∃ response, RtspServer.service describe up = some response ∧
      ∀ down, ArrivesIn response down →
        RTSPClient.describe down = (describe service.path).bind Sdp.parseString := by
  have hreceive := RtspServer.receive_request service huser hshort hup hsent
  have hmethod : "DESCRIBE".toList ≠ [] ∧ ∀ c ∈ "DESCRIBE".toList, isSpace c = false := by
    have h : "DESCRIBE".toList.all (!isSpace ·) = true := by decide
    exact ⟨by decide, fun c hc => by simpa using List.all_eq_true.mp h c hc⟩
  have hurl : ∀ c ∈ service.url, isSpace c = false := fun c hc =>
    isSpace_of_isUrlSafe (service.isUrlSafe_of_mem_url hc)
  obtain ⟨r, hr, hm, huri⟩ := parseRtspRequest_request hmethod.1 hmethod.2 service.url_ne_nil hurl
    (cseqPart ++ showNat cseq ++ crlf ++ ("User-Agent: ".toList ++ userAgent ++ crlf) ++
      ("Accept: application/sdp".toList ++ crlf ++ crlf))
  rw [← service.encodeRequestURL_url, ← describeRequest] at hr
  rw [show methodFrom "DESCRIBE".toList = .Describe by decide] at hm
  have hne : describeRequest service.url userAgent cseq ≠ [] := by
    intro hnil
    rw [hnil] at hr
    exact absurd hr (by simp [parseRtspRequest, getlines])
  have hservice : RtspServer.service describe up = some ((describe service.path).elim
      (buildRtspResponse r.sequence 404 "Not Found".toList .empty [])
      (buildDescribeResponse r.sequence service.url)) := by
    simp only [RtspServer.service, hreceive, if_neg hne, answer, hr, hm, huri, service.pathOf_url]
    cases describe service.path <;> rfl
  rw [hservice]
  cases hpath : describe service.path with
  | some sdp =>
    obtain ⟨hsdp0, hlong⟩ := hsdp sdp hpath
    refine ⟨_, rfl, fun down hdown => ?_⟩
    rw [Option.elim_some, RTSPClient.buildDescribeResponse_eq service.url hsdp0] at hdown
    obtain ⟨hfree, hcut⟩ := RTSPClient.safe_ravennaMid service r.sequence
    have hfetched := RTSPClient.fetched_okResponse hfree hlong
      (by rw [RTSPClient.statedIn, hcut]) hdown
    have hline : okResponse (ravennaMid r.sequence service.url) sdp = (okLine ++ ['\r']) ++
        '\n' :: (ravennaMid r.sequence service.url ++ '\r' :: '\n' ::
          RTSPClient.lengthLine sdp.length ++ RTSPClient.endOfHeaders ++ sdp) := by
      rw [okResponse, okHeaders]
      simp only [List.append_assoc, List.cons_append, List.nil_append]
    rw [RTSPClient.describe_eq (by decide) (hdown.1.trans hline), RTSPClient.chomp_concat,
      if_pos (by decide), hfetched]
  | none =>
    refine ⟨_, rfl, fun down hdown => ?_⟩
    have hline : buildRtspResponse r.sequence 404 "Not Found".toList .empty [] =
        ("RTSP/1.0 404 Not Found".toList ++ ['\r']) ++ '\n' ::
          (cseqPart ++ showNat r.sequence ++ crlf ++ crlf) := by
      have hfirst : versionPart ++ showNat 404 ++ [' '] ++ "Not Found".toList =
          "RTSP/1.0 404 Not Found".toList := by decide
      rw [buildRtspResponse, hfirst]
      simp only [OrdMap.empty, List.flatMap_nil, List.nil_append, if_pos, crlf, List.append_assoc,
        List.cons_append]
    rw [RTSPClient.describe_eq (by decide) (hdown.1.trans hline), RTSPClient.chomp_concat,
      if_neg (by decide)]
    rfl

/-! ## Sessions come and go -/

namespace SessionCatalogue

/-- What happens to a catalogue. -/
inductive Op
  | add (session : RavennaSession)
  | remove (name : Text)

def step (catalogue : SessionCatalogue) : Op → SessionCatalogue
  | .add session =>
    match catalogue.add session with
    | .ok catalogue => catalogue
    | .error _ => catalogue
  | .remove name => (catalogue.remove name).2

/-- **What `add` accepts.** -/
structure Sound (session : RavennaSession) : Prop where
  name_ne : session.name ≠ []
  valid : session.sdp.isValid = true
  channels : session.mapping.deviceChannelCount = session.sdp.numChannels.toNat

instance (session : RavennaSession) : Decidable (Sound session) :=
  decidable_of_iff (session.name ≠ [] ∧ session.sdp.isValid = true ∧
      session.mapping.deviceChannelCount = session.sdp.numChannels.toNat)
    ⟨fun ⟨h1, h2, h3⟩ => ⟨h1, h2, h3⟩, fun ⟨h1, h2, h3⟩ => ⟨h1, h2, h3⟩⟩

/-- What an operation says of a name, of which `o` was offered. -/
def settle (name : Text) (o : Option RavennaSession) : Op → Option RavennaSession
  | .add session => if session.name = name ∧ Sound session then some session else o
  | .remove removed => if removed = name then none else o

/-- **The session of a name**, by the last operation that settles it. -/
def offered (ops : List Op) (name : Text) : Option RavennaSession := ops.foldl (settle name) none

variable {catalogue : SessionCatalogue} {session : RavennaSession} {name : Text} {ops : List Op}

theorem add_of_sound (h : Sound session) :
    catalogue.add session = .ok ⟨catalogue.sessions.insert session.name (stored session)⟩ := by
  rw [add, if_neg h.name_ne, h.valid, if_neg (show ¬ (!true) = true by decide), if_neg (not_not.mpr h.channels)]

theorem add_of_not_sound (catalogue : SessionCatalogue) (h : ¬ Sound session) :
    ∃ error, catalogue.add session = .error error := by
  unfold add
  split_ifs with h1 h2 h3
  · exact ⟨_, rfl⟩
  · exact ⟨_, rfl⟩
  · exact ⟨_, rfl⟩
  · refine absurd ⟨h1, ?_, not_not.mp h3⟩ h
    rwa [Bool.not_eq_true', Bool.not_eq_false] at h2

/-- What the catalogue holds of a name changes as the operation says. -/
theorem find?_step {o : Option RavennaSession}
    (h : catalogue.sessions.find? name = o.map stored) (op : Op) :
    (step catalogue op).sessions.find? name = (settle name o op).map stored := by
  cases op with
  | add session =>
    rw [step, settle]
    by_cases hs : Sound session
    · rw [add_of_sound hs]
      dsimp only
      rw [OrdMap.find?_insert]
      by_cases hname : session.name = name
      · rw [if_pos hname.symm, if_pos ⟨hname, hs⟩]
        rfl
      · rw [if_neg (Ne.symm hname), if_neg fun hboth => hname hboth.1, h]
    · obtain ⟨error, herror⟩ := add_of_not_sound catalogue hs
      rw [herror, if_neg fun hboth => hs hboth.2]
      exact h
  | remove removed =>
    rw [step, remove, settle, OrdMap.find?_erase]
    by_cases hname : removed = name
    · rw [if_pos hname.symm, if_pos hname]
      rfl
    · rw [if_neg (Ne.symm hname), if_neg hname, h]

/-- **The catalogue holds what is offered.** -/
theorem find?_run (ops : List Op) (name : Text) :
    (ops.foldl step {}).sessions.find? name = (offered ops name).map stored := by
  have hgen : ∀ (catalogue : SessionCatalogue) (o : Option RavennaSession),
      catalogue.sessions.find? name = o.map stored →
      (ops.foldl step catalogue).sessions.find? name = (ops.foldl (settle name) o).map stored := by
    induction ops with
    | nil => exact fun _ _ h => h
    | cons op ops ih => exact fun _ _ h => ih _ _ (find?_step h op)
  exact hgen {} none rfl

/-- What is offered was added. -/
theorem mem_of_offered (h : offered ops name = some session) :
    Op.add session ∈ ops ∧ session.name = name ∧ Sound session := by
  have hgen : ∀ o : Option RavennaSession, ops.foldl (settle name) o = some session →
      o = some session ∨ Op.add session ∈ ops ∧ session.name = name ∧ Sound session := by
    clear h
    induction ops with
    | nil => exact fun _ h => .inl h
    | cons op ops ih =>
      intro o h
      rcases ih _ h with hsettle | ⟨hmem, hname⟩
      · cases op with
        | add added =>
          rw [settle] at hsettle
          split_ifs at hsettle with hboth
          · cases hsettle
            exact .inr ⟨List.mem_cons_self, hboth⟩
          · exact .inl hsettle
        | remove removed =>
          rw [settle] at hsettle
          split_ifs at hsettle
          exact .inl hsettle
      · exact .inr ⟨List.mem_cons_of_mem _ hmem, hname⟩
  exact (hgen none h).resolve_left (Option.some_ne_none session).symm

/-- The sessions keep to their own paths. -/
def OwnPaths (ops : List Op) : Prop :=
  ∀ session, Op.add session ∈ ops → session.path = [] ∨ session.path = pathFor session.name

theorem path_stored (h : session.path = [] ∨ session.path = pathFor session.name) :
    (stored session).path = pathFor session.name := by
  rw [stored]
  split_ifs with hempty
  · rfl
  · exact h.resolve_left hempty

theorem pathFor_injective : Function.Injective pathFor := fun _ _ h => List.append_cancel_left h

/-- Among sessions with their own paths, the one with the path of a name is the one of that name. -/
theorem find?_values {m : OrdMap Text RavennaSession}
    (h : ∀ k session, m.find? k = some session → session.path = pathFor k) :
    m.values.find? (·.path = pathFor name) = m.find? name := by
  have hkey : ∀ session ∈ m.values, session.path = pathFor name → m.find? name = some session := by
    intro session hm hpath
    obtain ⟨⟨k, s⟩, he, rfl⟩ := List.mem_map.mp hm
    have hfind := m.mem_entries_iff.mp he
    rwa [← pathFor_injective ((h k s hfind).symm.trans hpath)]
  cases hfound : m.values.find? (·.path = pathFor name) with
  | some session =>
    have hpath : session.path = pathFor name := by simpa using List.find?_some hfound
    exact (hkey session (List.mem_of_find?_eq_some hfound) hpath).symm
  | none =>
    have hnone := List.find?_eq_none.mp hfound
    cases hname : m.find? name with
    | none => rfl
    | some session =>
      have hmem : session ∈ m.values := List.mem_map_of_mem (m.mem_entries_iff.mpr hname)
      exact absurd (decide_eq_true (h name session hname)) (hnone session hmem)

theorem describe_pathFor (hown : OwnPaths ops) (now : UInt64) (name : Text) :
    (ops.foldl step {}).describe now (pathFor name) =
      (offered ops name).map fun session => Sdp.generate now session.sdp := by
  have hpaths : ∀ k s, (ops.foldl step {}).sessions.find? k = some s → s.path = pathFor k := by
    intro k s hfind
    rw [find?_run] at hfind
    obtain ⟨session, hoffered, rfl⟩ := Option.map_eq_some_iff.mp hfind
    obtain ⟨hmem, hname, -⟩ := mem_of_offered hoffered
    rw [path_stored (hown session hmem), hname]
  have hsdp : ∀ session : RavennaSession, (stored session).sdp = session.sdp := by
    intro session
    rw [stored]
    split_ifs <;> rfl
  have hfind : (ops.foldl step {}).sessions.values.find? (·.path = pathFor name) =
      (offered ops name).map stored :=
    (find?_values hpaths).trans (find?_run ops name)
  rw [describe, hfind, Option.map_map]
  exact congrArg (fun f => (offered ops name).map f)
    (funext fun session => congrArg (Sdp.generate now) (hsdp session))

theorem generate_ne_nil (now : UInt64) (sdp : SDPSession) : Sdp.generate now sdp ≠ [] := by
  rw [Sdp.generate, Sdp.generateLines, Sdp.headerLines]
  simp

/-- **What the driver is told of a name**: after any run, the session that is offered then, as it is
read back; nothing where none is, and where its description is one that is not read back. -/
theorem described_offered (service : MDNSService) (now : UInt64) {userAgent : Text} {cseq : ℕ}
    {ops : List Op} {up : List Text} (hown : OwnPaths ops)
    (hsessions : ∀ session, offered ops service.name = some session →
      Sdp.Legible session.sdp ∧ (Sdp.generate now session.sdp).length ≤ kMaxRTSPBodyBytes)
    (huser : '\r' ∉ userAgent ∧ '\n' ∉ userAgent)
    (hshort : (describeRequest service.url userAgent cseq).length ≤ RtspServer.kMaxRequestBytes)
    (hup : ∀ chunk ∈ up, chunk ≠ [])
    (hsent : up.flatten = describeRequest service.url userAgent cseq) :
    ∃ response, RtspServer.service ((ops.foldl step {}).describe now) up = some response ∧
      ∀ down, ArrivesIn response down →
        RTSPClient.describe down = (offered ops service.name).bind fun session =>
          if session.sdp.originAddress = [] ∨ session.sdp.ptimeUs = 0 then none
          else some (Sdp.reread now session.sdp) := by
  have hdescribe : (ops.foldl step {}).describe now service.path =
      (offered ops service.name).map fun session => Sdp.generate now session.sdp :=
    describe_pathFor hown now service.name
  obtain ⟨response, hresponse, hdown⟩ := describe_service service ((ops.foldl step {}).describe now)
    huser hshort hup hsent fun sdp hsdp => by
      obtain ⟨session, hoffered, rfl⟩ := Option.map_eq_some_iff.mp (hdescribe.symm.trans hsdp)
      exact ⟨generate_ne_nil now session.sdp, (hsessions session hoffered).2⟩
  refine ⟨response, hresponse, fun down harrives => ?_⟩
  rw [hdown down harrives, hdescribe]
  cases hoffered : offered ops service.name with
  | none => rfl
  | some session =>
    obtain ⟨hlegible, -⟩ := hsessions session hoffered
    have hvalid : session.sdp.Valid := Sdp.SDPSession.isValid_iff.mp (mem_of_offered hoffered).2.2.valid
    rw [Option.map_some, Option.bind_some, Option.bind_some]
    by_cases h0 : session.sdp.originAddress = [] ∨ session.sdp.ptimeUs = 0
    · rw [if_pos h0, Sdp.parseString_generate_eq_none now hlegible hvalid h0]
    · obtain ⟨ha, hp⟩ := not_or.mp h0
      rw [if_neg h0, Sdp.parseString_generate now hlegible hvalid ha hp]

/-- Two microphones. -/
def stage : RavennaSession where
  name := "Stage".toList
  sdp :=
    { sessionName := "Stage".toList
      originAddress := "10.0.0.1".toList
      connectionAddress := "239.69.1.1".toList }
  mapping := { deviceChannelCount := 2 }

/-- They are added, and a session that was never there is removed. -/
def changes : List Op := [.add stage, .remove "Loft".toList]

theorem bytes_stage : ∀ c ∈ "Stage".toList, c.toNat < 256 := by
  have h : "Stage".toList.all (fun c => decide (c.toNat < 256)) = true := by decide
  exact fun c hc => by simpa using List.all_eq_true.mp h c hc

theorem literal_stage : ∀ c ∈ "10.0.0.1".toList, c.isDigit ∨ c = '.' := by
  have h : "10.0.0.1".toList.all (fun c => c.isDigit || c == '.') = true := by decide
  exact fun c hc => by simpa using List.all_eq_true.mp h c hc

def stageService : MDNSService := ⟨"Stage".toList, "10.0.0.1".toList, 8554, bytes_stage, literal_stage⟩

theorem legible_stage : Sdp.Legible stage.sdp :=
  Sdp.LineSafe.legible
    { tokens := fun t ht => Sdp.forall_of_any (by revert t; decide)
      originAddress := by decide
      connectionAddress := by decide
      sessionName := by decide
      sessionInfo := by decide
      mediaClockType := by decide
      direction := by decide
      customAttributes := fun _ he => absurd he List.not_mem_nil
      ptpMasterMAC := ⟨Sdp.forall_of_any (by decide), by decide, by decide⟩
      ptpReference := .inr (.inr (by decide)) }
    (by decide) (by decide)

theorem offered_changes : offered changes stageService.name = some stage := by
  have hsound : Sound stage := ⟨by decide, by decide, by decide⟩
  rw [offered, changes, List.foldl_cons, List.foldl_cons, List.foldl_nil, settle, settle,
    if_neg (by decide), if_pos ⟨rfl, hsound⟩]

/-- The driver is told of them. -/
theorem described_offered_stage : ∃ response,
    RtspServer.service ((changes.foldl step {}).describe 7)
        [describeRequest stageService.url "AES67".toList 1] = some response ∧
      ∀ down, ArrivesIn response down →
        RTSPClient.describe down = (offered changes stageService.name).bind fun session =>
          if session.sdp.originAddress = [] ∨ session.sdp.ptimeUs = 0 then none
          else some (Sdp.reread 7 session.sdp) :=
  described_offered stageService 7
    (fun session hs => by
      rcases List.mem_cons.mp hs with he | hs
      · cases he
        exact .inl rfl
      · cases List.mem_singleton.mp hs)
    (fun session hs => by
      cases offered_changes.symm.trans hs
      exact ⟨legible_stage, by decide +kernel⟩)
    (by decide) (by decide +kernel) (by decide +kernel) (List.append_nil _)

end SessionCatalogue

end Ravenna

end Aes67
