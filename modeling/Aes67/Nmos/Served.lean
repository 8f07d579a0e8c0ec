import Aes67.Ravenna.HttpServer

/-!
# The requests of the two HTTP servers

`ConnectionAPIServer` reads requests off its own socket: `serve` looks for the length of the body by
the lines of the head, in any case, and takes the path as it stands. Beside it the server of the
RAVENNA package, on the same requests.

* `findHeader`, `declared`, `receive`, `serve`;
* **`declared_head`**: the length is found however it is spelled;
* **`serve_text`**: a request is handed over whole and once, however it is split;
* `Sent`: a request on its way, in chunks;
* **`handed_alike`**: what each server hands over, and that it is the same just when no escape of
  the path is to be resolved.
-/

namespace Aes67.Nmos.Serving

open Http (Request headEnd joined)
open Ravenna.HttpServer (withoutQuery decodePath kMaxRequestBytes Spelled Resolved)

/-! ## Reading a request -/

/-- `strtol` in base ten. -/
def strtol (s : Text) : ℤ :=
  match scanInt s with
  | none => 0
  | some (neg, n) => max (-2 ^ 63) (min (2 ^ 63 - 1) (if neg then -n else n))

/-- `findHeader` from the start of a line on; the number bounds the lines. -/
def findHeaderFrom (name : Text) : ℕ → Text → Option Text
  | 0, _ => none
  | lines + 1, head =>
    if head = [] then none
    else
      let (line, more) := match cut crlf head with
        | some (line, more) => (line, some more)
        | none => (head, none)
      let found := (cut [':'] head).filter fun p =>
        decide (p.1.length < line.length ∧ p.1.map Char.toLower = name)
      match found with
      | some (_, value) => some value
      | none => more.bind (findHeaderFrom name lines)

/-- `findHeader`: what follows the name of a header, in any case. -/
def findHeader (head name : Text) : Option Text := findHeaderFrom name (head.length + 1) head

/-- The length of the body by the head, 0 where it is absent or absurd. -/
def declared (head : Text) : ℕ :=
  match findHeader head "content-length".toList with
  | none => 0
  | some value =>
    if strtol value < 0 ∨ strtol value > kMaxRequestBytes then 0 else (strtol value).toNat

/-- The loop of `serve`: what has come, and where the head ends. -/
def receive (request : Text) (ended : Option ℕ) : List Text → Text × Option ℕ
  | [] => (request, ended)
  | chunk :: chunks =>
    if request.length ≥ kMaxRequestBytes ∨ chunk = [] then (request, ended)
    else
      let request := request ++ chunk
      match cut headEnd request with
      | none => receive request none chunks
      | some (head, _) =>
        if request.length ≥ head.length + 4 + declared head then (request, some head.length)
        else receive request (some head.length) chunks

/-- `serve`: the calls of `route`. -/
def serve (chunks : List Text) : List Ravenna.HttpServer.Call :=
  match receive [] none chunks with
  | (_, none) => []
  | (request, some n) =>
    match cut [' '] (request.take n) with
    | none => []
    | some (method, rest) =>
      match cut [' '] rest with
      | none => []
      | some (path, _) =>
        if method = "OPTIONS".toList then []
        else [⟨method, withoutQuery path, request.drop (n + 4)⟩]

/-! ## What is read -/

/-- What has come is a request, by its head. -/
def complete (request : Text) : Bool :=
  match cut headEnd request with
  | none => false
  | some (head, _) => request.length ≥ head.length + 4 + declared head

/-- The loop reads until a request is complete. -/
theorem receive_eq_collect {text : Text} {chunks : List Text}
    (hchunks : ∀ chunk ∈ chunks, chunk ≠ [])
    (hlen : (text ++ chunks.flatten).length ≤ kMaxRequestBytes) :
    receive text ((cut headEnd text).map fun p => p.1.length) chunks =
      (Http.collect complete text chunks,
        (cut headEnd (Http.collect complete text chunks)).map fun p => p.1.length) := by
  induction chunks generalizing text with
  | nil => rfl
  | cons chunk chunks ih =>
    have hne : chunk ≠ [] := hchunks chunk List.mem_cons_self
    have hpos : 0 < chunk.length := List.length_pos_iff.mpr hne
    rw [List.flatten_cons, ← List.append_assoc] at hlen
    have hroom : ¬ (text.length ≥ kMaxRequestBytes ∨ chunk = []) := by
      simp only [List.length_append] at hlen
      rintro (h | h)
      · omega
      · exact hne h
    have hrest := ih (fun c hc => hchunks c (List.mem_cons_of_mem _ hc)) hlen
    rw [receive, Http.collect, if_neg hroom, complete]
    dsimp only
    cases hcut : cut headEnd (text ++ chunk) with
    | none =>
      rw [hcut] at hrest
      exact hrest
    | some p =>
      rw [hcut] at hrest
      simp only [decide_eq_true_eq]
      split_ifs
      · rw [hcut]
        rfl
      · exact hrest

/-! ## The length of the body -/

variable {r : Request} {name line : Text} {lines : List Text} {fuel : ℕ}

theorem length_le_joined : lines.length ≤ (joined line lines).length := by
  induction lines generalizing line with
  | nil => exact Nat.zero_le _
  | cons l lines ih =>
    have := @ih l
    rw [Http.joined_cons, List.length_append, List.length_cons, List.length_cons, List.length_cons]
    omega

/-- The first of several lines, and those behind. -/
theorem cut_crlf_joined (hline : '\r' ∉ line) :
    cut crlf (joined line lines) = match lines with
      | [] => none
      | l :: lines => some (line, joined l lines) := by
  cases lines with
  | nil =>
    rw [joined, List.flatMap_nil, List.append_nil, cut_eq_none]
    exact fun h => hline (h.subset List.mem_cons_self)
  | cons l lines =>
    rw [Http.joined_cons, crlf, cut_append_of_not_mem hline]
    have hnext : cut ['\r', '\n'] ('\r' :: '\n' :: joined l lines) = some ([], joined l lines) :=
      cut_append (List.cons_ne_nil _ _) _
    rw [hnext, Option.map_some, List.append_nil]

/-- A line that is no header of the name is passed over. -/
theorem findHeaderFrom_past (hline : '\r' ∉ line) (hne : line ≠ [])
    (hother : ∀ before after, cut [':'] (joined line lines) = some (before, after) →
      before.length < line.length → before.map Char.toLower ≠ name) :
    findHeaderFrom name (fuel + 1) (joined line lines) =
      (cut crlf (joined line lines)).bind fun p => findHeaderFrom name fuel p.2 := by
  have hne' : joined line lines ≠ [] := fun h => hne (List.append_eq_nil_iff.mp h).1
  have hnone : (cut [':'] (joined line lines)).filter (fun p =>
      decide (p.1.length < line.length ∧ p.1.map Char.toLower = name)) = none := by
    rw [Option.filter_eq_none_iff]
    intro p hp
    rw [decide_eq_true_eq]
    exact fun h => hother p.1 p.2 hp h.1 h.2
  rw [findHeaderFrom, if_neg hne', cut_crlf_joined hline]
  cases lines with
  | nil =>
    have hwhole : joined line [] = line := by rw [joined, List.flatMap_nil, List.append_nil]
    rw [hwhole] at hnone
    simp only [hwhole, hnone]
    rfl
  | cons l lines =>
    simp only [hnone]
    rfl

/-- A header of the name is found. -/
theorem findHeaderFrom_here {h : Text × Text} (hline : '\r' ∉ Request.line h) (hcolon : ':' ∉ h.1)
    (hname : Http.Named name h) : ∃ rest, (rest = [] ∨ ∃ t, rest = '\r' :: t) ∧
      findHeaderFrom name (fuel + 1) (joined (Request.line h) lines) = some (h.2 ++ rest) := by
  have hcut : ∀ rest, cut [':'] (Request.line h ++ rest) = some (h.1, h.2 ++ rest) := by
    intro rest
    have : Request.line h ++ rest = h.1 ++ ':' :: (h.2 ++ rest) := List.append_assoc _ _ _
    rw [this, cut_char hcolon]
  have hlen : h.1.length < (Request.line h).length := by
    rw [Request.line, List.length_append, List.length_cons]
    omega
  have hne : joined (Request.line h) lines ≠ [] := by
    intro hnil
    have := congrArg List.length (List.append_eq_nil_iff.mp hnil).1
    rw [List.length_nil] at this
    omega
  refine ⟨lines.flatMap fun line => '\r' :: '\n' :: line, ?_, ?_⟩
  · cases lines with
    | nil => exact Or.inl rfl
    | cons l lines => exact Or.inr ⟨_, rfl⟩
  · rw [findHeaderFrom, if_neg hne, cut_crlf_joined hline]
    have hfound : ∀ line : Text, line = Request.line h →
        (cut [':'] (joined (Request.line h) lines)).filter
          (fun p => decide (p.1.length < line.length ∧ p.1.map Char.toLower = name)) =
            some (h.1, h.2 ++ lines.flatMap fun line => '\r' :: '\n' :: line) := by
      rintro line rfl
      rw [joined, hcut]
      exact if_pos (decide_eq_true ⟨hlen, hname⟩)
    cases lines with
    | nil =>
      have hwhole : joined (Request.line h) [] = Request.line h := by
        rw [joined, List.flatMap_nil, List.append_nil]
      have := hfound (joined (Request.line h) []) hwhole
      simp only [this]
    | cons l lines =>
      simp only [hfound _ rfl]

/-- **Among headers the one of the name is found**, the first of them. -/
theorem findHeaderFrom_headers {h : Text × Text} {headers : List (Text × Text)}
    (hfuel : headers.length < fuel)
    (hcr : ∀ h' ∈ h :: headers, '\r' ∉ Request.line h') (hcolon : ∀ h' ∈ h :: headers, ':' ∉ h'.1)
    (hname : ∃ h' ∈ h :: headers, Http.Named name h') :
    ∃ h' ∈ h :: headers, Http.Named name h' ∧ ∃ rest, (rest = [] ∨ ∃ t, rest = '\r' :: t) ∧
      findHeaderFrom name fuel (joined (Request.line h) (headers.map Request.line)) =
        some (h'.2 ++ rest) := by
  induction headers generalizing h fuel with
  | nil =>
    obtain ⟨fuel, rfl⟩ := Nat.exists_eq_add_of_lt hfuel
    obtain ⟨h', hm, hnamed⟩ := hname
    rw [List.mem_singleton] at hm
    subst hm
    exact ⟨h', List.mem_cons_self, hnamed,
      findHeaderFrom_here (hcr h' List.mem_cons_self) (hcolon h' List.mem_cons_self) hnamed⟩
  | cons next headers ih =>
    obtain ⟨fuel, rfl⟩ : ∃ n, fuel = n + 1 := ⟨fuel - 1, by omega⟩
    have hline := hcr h List.mem_cons_self
    have hcolon' := hcolon h List.mem_cons_self
    by_cases hnamed : Http.Named name h
    · exact ⟨h, List.mem_cons_self, hnamed, findHeaderFrom_here hline hcolon' hnamed⟩
    · have hother : ∀ before after,
          cut [':'] (joined (Request.line h) ((next :: headers).map Request.line)) =
            some (before, after) → before.length < (Request.line h).length →
          before.map Char.toLower ≠ name := by
        intro before after hcut _ he
        have hsplit : joined (Request.line h) ((next :: headers).map Request.line) =
            h.1 ++ ':' :: (h.2 ++ ((next :: headers).map Request.line).flatMap
              fun line => '\r' :: '\n' :: line) := List.append_assoc _ _ _
        rw [hsplit, cut_char hcolon'] at hcut
        cases hcut
        exact hnamed he
      obtain ⟨h', hm, hn', rest, hrest, hfind⟩ := ih (by simpa using hfuel)
        (fun h' hm => hcr h' (List.mem_cons_of_mem _ hm))
        (fun h' hm => hcolon h' (List.mem_cons_of_mem _ hm)) (by
          obtain ⟨h', hm, hn'⟩ := hname
          refine ⟨h', (List.mem_cons.mp hm).resolve_left ?_, hn'⟩
          rintro rfl
          exact hnamed hn')
      refine ⟨h', List.mem_cons_of_mem _ hm, hn', rest, hrest, ?_⟩
      rw [findHeaderFrom_past hline (by simp [Request.line]) hother, cut_crlf_joined hline]
      exact hfind

/-- The line of the request is no header, whatever colons it has. -/
theorem requestLine_past (h : r.WellFormed) {before after : Text}
    (hcut : cut [':'] (joined r.requestLine lines) = some (before, after)) :
    before.map Char.toLower ≠ "content-length".toList := by
  have hspace : ' ' ∈ before := by
    have he := eq_append_of_cut hcut
    rw [joined, Request.requestLine, List.append_assoc, List.append_assoc] at he
    rcases List.append_eq_append_iff.mp he with ⟨m, rfl, hm⟩ | ⟨m, hm, hrest⟩
    · rcases m with _ | ⟨c, m⟩
      · cases hm
      · obtain ⟨rfl, -⟩ := List.cons.inj hm
        simp
    · rcases m with _ | ⟨c, m⟩
      · cases hrest
      · obtain ⟨rfl, -⟩ := List.cons.inj hrest
        exact absurd rfl (Http.ne_colon_of_isToken (h.method ':' (by rw [hm]; simp)))
  intro he
  have hlower : ' ' ∈ before.map Char.toLower := List.mem_map.mpr ⟨' ', hspace, rfl⟩
  rw [he] at hlower
  exact absurd hlower (by decide)

/-- **The length of the body is found**, however its header is spelled. -/
theorem declared_head (h : r.WellFormed) (hd : r.Declares)
    (hlen : r.body.length ≤ kMaxRequestBytes) : declared r.head = r.body.length := by
  obtain ⟨header, headers, hheaders⟩ : ∃ header headers, r.headers = header :: headers := by
    obtain ⟨header, hm, -⟩ := hd.declared
    exact List.exists_cons_of_ne_nil (List.ne_nil_of_mem hm)
  have hcr : ∀ h' ∈ header :: headers, '\r' ∉ Request.line h' := fun h' hm =>
    (h.of_mem_lines (List.mem_map_of_mem (hheaders ▸ hm))).2.1
  have hcolon : ∀ h' ∈ header :: headers, ':' ∉ h'.1 := fun h' hm hc =>
    Http.ne_colon_of_isToken (h.name h' (hheaders ▸ hm) _ hc) rfl
  have hfuel : headers.length < r.head.length := by
    have := @length_le_joined r.requestLine (r.headers.map Request.line)
    rw [List.length_map, hheaders, List.length_cons] at this
    rw [Request.head, hheaders]
    omega
  obtain ⟨h', hm, hnamed, rest, hrest, hfind⟩ :=
    findHeaderFrom_headers hfuel hcr hcolon (hheaders ▸ hd.declared)
  have hne : r.requestLine ≠ [] := by
    intro hnil
    exact h.method_ne (List.append_eq_nil_iff.mp hnil).1
  have hfound : findHeader r.head "content-length".toList = some (h'.2 ++ rest) := by
    rw [findHeader, Request.head,
      findHeaderFrom_past h.not_mem_requestLine.1 hne fun _ _ hcut _ => requestLine_past h hcut,
      cut_crlf_joined h.not_mem_requestLine.1, hheaders]
    rw [Request.head, hheaders] at hfind
    exact hfind
  have hread : strtol (h'.2 ++ rest) = r.body.length := by
    have hmax : r.body.length ≤ 65536 := hlen
    rw [strtol, Ravenna.HttpServer.scanInt_of_states (hd.correct h' (hheaders ▸ hm) hnamed) hrest]
    simp only [Bool.false_eq_true, if_false]
    omega
  rw [declared, hfound]
  simp only [hread]
  rw [if_neg, Int.toNat_natCast]
  rintro (h0 | h0)
  · omega
  · exact absurd (Int.ofNat_lt.mp h0) (not_lt.mpr hlen)

/-! ## What is handed over -/

/-- A request on its way, in chunks. -/
structure Sent (r : Request) (chunks : List Text) : Prop where
  some : ∀ chunk ∈ chunks, chunk ≠ []
  whole : chunks.flatten = r.text

/-- What a handler is called with; a preflight is answered without it. -/
def handed (r : Request) (path : Text) : List Ravenna.HttpServer.Call :=
  if r.method = "OPTIONS".toList then [] else [⟨r.method, path, r.body⟩]

/-- **A request is read whole**, however it is split. -/
theorem receive_text {chunks : List Text} (h : r.WellFormed) (hd : r.Declares)
    (hlen : r.text.length < kMaxRequestBytes) (hsent : Sent r chunks) :
    receive [] none chunks = (r.text, some r.head.length) := by
  have htext : r.text.length = r.head.length + 4 + r.body.length := by
    rw [Request.text, List.length_append, List.length_append, Nat.add_assoc]
    rfl
  have hdeclared : declared r.head = r.body.length := declared_head h hd (by omega)
  have hcollect : receive [] none chunks = (Http.collect complete [] chunks,
      (cut headEnd (Http.collect complete [] chunks)).map fun p => p.1.length) :=
    @receive_eq_collect [] chunks hsent.some (by rw [List.nil_append, hsent.whole]; exact hlen.le)
  have hwhole : Http.collect complete [] chunks = [] ++ chunks.flatten := by
    refine Http.collect_eq fun p hp hcomplete => ?_
    rw [List.nil_append, hsent.whole] at hp ⊢
    rw [complete] at hcomplete
    cases hcut : cut headEnd p with
    | none =>
      rw [hcut] at hcomplete
      cases hcomplete
    | some q =>
      obtain ⟨head, b⟩ := q
      obtain ⟨rfl, -⟩ := h.cut_of_isPrefix hp hcut
      simp only [hcut, hdeclared, decide_eq_true_eq] at hcomplete
      rw [← htext] at hcomplete
      exact hp.eq_of_length_le hcomplete
  rw [hcollect, hwhole, List.nil_append, hsent.whole, Request.text, h.cut_head]
  rfl

/-- **A request is handed over whole and once**, with its path as it stands. -/
theorem serve_text {chunks : List Text} (h : r.WellFormed) (hd : r.Declares)
    (hlen : r.text.length < kMaxRequestBytes) (hsent : Sent r chunks) :
    serve chunks = handed r (withoutQuery r.target) := by
  have hsplit : r.text = r.head ++ headEnd ++ r.body := (List.append_assoc _ _ _).symm
  have htake : r.text.take r.head.length = r.head := by
    rw [hsplit, List.append_assoc, List.take_left]
  have hdrop : r.text.drop (r.head.length + 4) = r.body := by
    have hlen : r.head.length + 4 = (r.head ++ headEnd).length := by
      rw [List.length_append]
      rfl
    rw [hlen, hsplit, List.drop_left]
  have hmethod : ' ' ∉ r.method := fun hm =>
    absurd (Http.isSpace_of_isToken (h.method _ hm)) (by decide)
  have htarget : ' ' ∉ r.target := fun hm =>
    absurd (Http.isSpace_of_isUri (h.target _ hm)) (by decide)
  have hhead : ∃ rest, r.head = r.method ++ ' ' :: (r.target ++ ' ' :: rest) := by
    refine ⟨r.version ++ (r.headers.map Request.line).flatMap fun line => '\r' :: '\n' :: line, ?_⟩
    simp [Request.head, joined, Request.requestLine]
  obtain ⟨rest, hrest⟩ := hhead
  have hfirst : cut [' '] r.head = some (r.method, r.target ++ ' ' :: rest) := by
    rw [hrest, cut_char hmethod]
  have hsecond : cut [' '] (r.target ++ ' ' :: rest) = some (r.target, rest) :=
    cut_char htarget rest
  simp only [serve, receive_text h hd hlen hsent, htake, hdrop, hfirst, hsecond]
  rfl

/-- **What the two servers hand over** of a request, each from its own chunks: the whole of it, and
once. The one takes the path as it stands and the other decodes it, which is the same just when
there is no escape to resolve. -/
theorem handed_alike (r : Request) (chunks chunks' : List Text) (h : r.WellFormed) (hd : r.Declares)
    (hlen : r.text.length < kMaxRequestBytes) (hsent : Sent r chunks) (hsent' : Sent r chunks') :
    serve chunks = handed r (withoutQuery r.target) ∧
    (Spelled r → Ravenna.HttpServer.service [chunks'] =
      handed r (decodePath (withoutQuery r.target))) ∧
    (Spelled r → r.method ≠ "OPTIONS".toList →
      (serve chunks = Ravenna.HttpServer.service [chunks'] ↔
        ∀ p, p <:+ withoutQuery r.target → ¬ Resolved p)) := by
  have hserve := serve_text h hd hlen hsent
  have hservice : Spelled r → Ravenna.HttpServer.service [chunks'] =
      handed r (decodePath (withoutQuery r.target)) := fun hs =>
    Ravenna.HttpServer.service_text h
      (Ravenna.HttpServer.receive_text h hd hs hlen hsent'.some hsent'.whole)
  refine ⟨hserve, hservice, fun hs hmethod => ?_⟩
  rw [hserve, hservice hs, ← Ravenna.HttpServer.decodePath_eq_self_iff, handed, handed,
    if_neg hmethod, if_neg hmethod]
  constructor
  · intro he
    injection he with he
    injection he with _ he _
    exact he.symm
  · intro he
    rw [he]

/-! ## Requests that are handed over otherwise -/

/-- A request with a body of two bytes, after another header. -/
def twoBytes (method target name : String) (others : List (Text × Text)) : Request :=
  { method := method.toList, target := target.toList,
    headers := others ++ [(name.toList, " 2".toList)], body := "ab".toList }

/-- The head comes first, and then the body. -/
def inTwo (r : Request) : List Text := [r.head ++ headEnd, r.body]

theorem declares_twoBytes {method target name : String} {others : List (Text × Text)}
    (hname : name.toList.map Char.toLower = Http.contentLength)
    (hothers : ∀ h ∈ others, ¬ Http.Named Http.contentLength h) :
    (twoBytes method target name others).Declares where
  declared := ⟨_, List.mem_append_right _ List.mem_cons_self, hname⟩
  correct h hm hnamed := by
    rcases List.mem_append.mp hm with hm | hm
    · exact absurd hnamed (hothers h hm)
    · rw [List.mem_singleton.mp hm]
      exact ⟨[' '], ['2'], [], rfl, List.all_eq_true.mp rfl, List.all_eq_true.mp rfl,
        List.cons_ne_nil _ _, List.all_eq_true.mp rfl, rfl⟩

theorem sent_inTwo (method target name : String) (others : List (Text × Text)) :
    Sent (twoBytes method target name others) (inTwo (twoBytes method target name others)) := by
  refine ⟨fun chunk hm => ?_, ?_⟩
  · simp only [inTwo, List.mem_cons, List.not_mem_nil, or_false] at hm
    rcases hm with rfl | rfl
    · simp [headEnd]
    · exact List.cons_ne_nil _ _
  · simp [inTwo, Request.text]

/-- A patch that both servers take apart alike, though its length is spelled in small letters, its
path has an escaped slash, and it comes in pieces. -/
def small : Request := twoBytes "PATCH" "/a%2Fb?c" "content-length" []

theorem spelled_small : Spelled small where
  spelled := by decide
  requestLine := by decide
  header := by decide

theorem handed_alike_small : serve (inTwo small) = Ravenna.HttpServer.service [inTwo small] := by
  have hplain : ∀ p, p <:+ withoutQuery small.target → ¬ Resolved p :=
    (Ravenna.HttpServer.decodePath_eq_self_iff _).mp (by decide)
  exact ((handed_alike small (inTwo small) (inTwo small) (by decide)
    (declares_twoBytes (by decide) (by simp)) (by decide) (sent_inTwo _ _ _ _)
    (sent_inTwo _ _ _ _)).2.2 spelled_small (by decide)).mpr hplain

/-- A preflight, which no handler is asked about. -/
def preflight : Request := twoBytes "OPTIONS" "/a" "Content-Length" []

/-- The length spelled in capitals. -/
def capitals : Request := twoBytes "PATCH" "/a" "CONTENT-LENGTH" []

/-- The length after a header of which it is a part. -/
def another : Request :=
  twoBytes "PATCH" "/a" "Content-Length" [("X-Content-Length".toList, " 0".toList)]

/-- A path with an escaped letter. -/
def escapedLetter : Request := twoBytes "PATCH" "/%41" "Content-Length" []

/-- **Not every request is handed over whole, once and alike**: a preflight is not, the body is cut
off where the length is not found, and a path is decoded or not. -/
theorem not_handed_alike :
    (∀ r ∈ [preflight, capitals, another, escapedLetter],
      r.WellFormed ∧ r.Declares ∧ r.text.length < kMaxRequestBytes ∧ Sent r (inTwo r)) ∧
    ∀ r ∈ [preflight, capitals, another, escapedLetter],
      ¬ (serve (inTwo r) = [⟨r.method, decodePath (withoutQuery r.target), r.body⟩] ∧
        Ravenna.HttpServer.service [inTwo r] =
          [⟨r.method, decodePath (withoutQuery r.target), r.body⟩]) := by
  refine ⟨fun r hm => ?_, ?_⟩
  · simp only [List.mem_cons, List.not_mem_nil, or_false] at hm
    rcases hm with rfl | rfl | rfl | rfl
    · exact ⟨by decide, declares_twoBytes (by decide) (by decide), by decide, sent_inTwo _ _ _ _⟩
    · exact ⟨by decide, declares_twoBytes (by decide) (by decide), by decide, sent_inTwo _ _ _ _⟩
    · exact ⟨by decide, declares_twoBytes (by decide) (by decide), by decide, sent_inTwo _ _ _ _⟩
    · exact ⟨by decide, declares_twoBytes (by decide) (by decide), by decide, sent_inTwo _ _ _ _⟩
  · decide

end Aes67.Nmos.Serving
