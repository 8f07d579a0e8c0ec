import Aes67.Discovery.RtspServer
import Aes67.Lib.Http

/-!
# The HTTP server of the RAVENNA package

`HttpServer::service` reads the request of each connection off its socket, takes it apart and hands
it to its handler. A connection is the chunks that `recv` gives, up to the end of the connection;
none of the waits runs out.

* `decodePath`, `parseHttpRequest`;
* `expectedBody`, `receive`, `answer`, `service`;
* `Spelled`: the length of the body stands where the server looks for it, and nothing else does;
* **`receive_text`**: such a request is read whole, however it is split;
* **`parseHttpRequest_text`**: what is made of a request;
* `decodePath_eq_self_iff`: the paths that decoding leaves alone.
-/

namespace Aes67.Ravenna.HttpServer

open Http (Request headEnd joined)

def kMaxRequestBytes : ℕ := 65536

/-- What the handler is called with. -/
structure Call where
  method : Text
  path : Text
  body : Text
  deriving DecidableEq

/-! ## Reading a request -/

/-- `strtoul` in base ten. -/
def strtoul (s : Text) : ℕ :=
  match scanInt s with
  | none => 0
  | some (neg, n) =>
    if n < 2 ^ 64 then if neg then (2 ^ 64 - n) % 2 ^ 64 else n
    else 2 ^ 64 - 1

/-- `decodePath`. An escaped slash is left as it is, and so is what is no escape. -/
def decodePath : Text → Text
  | [] => []
  | '%' :: high :: low :: path =>
    match hexDigit high, hexDigit low with
    | some h, some l =>
      if Char.ofNat (h * 16 + l) = '/' then '%' :: high :: low :: decodePath path
      else Char.ofNat (h * 16 + l) :: decodePath path
    | _, _ => '%' :: decodePath (high :: low :: path)
  | c :: path => c :: decodePath path

/-- The path without its query. -/
def withoutQuery (path : Text) : Text := path.takeWhile (· ≠ '?')

/-- Where the body starts. -/
def headerEnd (text : Text) : Option ℕ :=
  match cut headEnd text with
  | some (head, _) => some (head.length + 4)
  | none => (cut ['\n', '\n'] text).map fun p => p.1.length + 2

def parseHttpRequest (text : Text) : Option Call :=
  match headerEnd text with
  | none => none
  | some n =>
    match getlines '\n' (text.take n) with
    | [] => none
    | line :: _ =>
      match fields (trimmed line) with
      | method :: path :: version :: _ =>
        if "HTTP/".toList.isPrefixOf version then
          some ⟨method, decodePath (withoutQuery path), text.drop n⟩
        else none
      | _ => none

/-! ## A connection -/

def contentLengthKey : Text := "Content-Length:".toList

def contentLengthLower : Text := "content-length:".toList

/-- The length of the body by the headers, 0 where they do not state it. -/
def expectedBody (headers : Text) : ℕ :=
  match cut contentLengthKey headers with
  | some (_, value) => strtoul value
  | none =>
    match cut contentLengthLower headers with
    | some (_, value) => strtoul value
    | none => 0

/-- The loop that reads a request: what has come, and the length of the body once it is known. -/
def receive (text : Text) (expected : Option ℕ) : List Text → Text
  | [] => text
  | chunk :: chunks =>
    if text.length ≥ kMaxRequestBytes ∨ chunk = [] then text
    else
      let text := text ++ chunk
      match cut headEnd text with
      | none => receive text expected chunks
      | some (headers, _) =>
        let expected := expected.getD (expectedBody headers)
        if text.length ≥ (headers.length + 4 + expected) % 2 ^ 64 then text
        else receive text (some expected) chunks

/-- `answer`: the calls of the handler. -/
def answer (text : Text) : List Call :=
  match parseHttpRequest text with
  | none => []
  | some call => if call.method = "OPTIONS".toList then [] else [call]

/-- `service`: the connections that wait are answered one after another. -/
def service (clients : List (List Text)) : List Call :=
  clients.flatMap fun chunks =>
    let text := receive [] none chunks
    if text = [] then [] else answer text

/-! ## What is read -/

/-- What has come is a request, by its headers. -/
def complete (text : Text) : Bool :=
  match cut headEnd text with
  | none => false
  | some (headers, _) => text.length ≥ (headers.length + 4 + expectedBody headers) % 2 ^ 64

/-- The loop reads until a request is complete. -/
theorem receive_eq_collect {text : Text} {chunks : List Text}
    (hchunks : ∀ chunk ∈ chunks, chunk ≠ [])
    (hlen : (text ++ chunks.flatten).length ≤ kMaxRequestBytes) :
    receive text ((cut headEnd text).map fun p => expectedBody p.1) chunks =
      Http.collect complete text chunks := by
  induction chunks generalizing text with
  | nil => rfl
  | cons chunk chunks ih =>
    have hne : chunk ≠ [] := hchunks chunk List.mem_cons_self
    have hpos : 0 < chunk.length := List.length_pos_iff.mpr hne
    rw [List.flatten_cons, ← List.append_assoc] at hlen
    have hroom : ¬ (text.length ≥ kMaxRequestBytes ∨ chunk = []) := by
      simp only [List.length_append] at hlen
      rintro (h | h)
      · omega
      · exact hne h
    have hrest := ih (fun c hc => hchunks c (List.mem_cons_of_mem _ hc)) hlen
    rw [receive, Http.collect, if_neg hroom, complete]
    dsimp only
    cases hcut : cut headEnd (text ++ chunk) with
    | none =>
      have hbefore : cut headEnd text = none := by
        by_contra hsome
        obtain ⟨⟨a, b⟩, hab⟩ := Option.ne_none_iff_exists'.mp hsome
        rw [cut_append_right hab] at hcut
        cases hcut
      rw [hcut] at hrest
      rw [hbefore, if_neg Bool.false_ne_true]
      exact hrest
    | some p =>
      obtain ⟨headers, body⟩ := p
      -- The headers stay what they were when their end came.
      have hexpected : ((cut headEnd text).map fun p => expectedBody p.1).getD
          (expectedBody headers) = expectedBody headers := by
        cases hbefore : cut headEnd text with
        | none => rfl
        | some p =>
          rw [cut_append_right hbefore] at hcut
          cases hcut
          rfl
      rw [hcut] at hrest
      simp only [hexpected, decide_eq_true_eq]
      split_ifs
      · rfl
      · exact hrest

/-- **The length is spelled** as the server looks for it, and no line has that text elsewhere. -/
structure Spelled (r : Request) : Prop where
  spelled : ∀ h ∈ r.headers, Http.Named Http.contentLength h →
    h.1 ++ [':'] = contentLengthKey ∨ h.1 ++ [':'] = contentLengthLower
  requestLine : ∀ key ∈ [contentLengthKey, contentLengthLower], ¬ key <:+: r.requestLine
  header : ∀ key ∈ [contentLengthKey, contentLengthLower], ∀ h ∈ r.headers,
    key <:+: Request.line h → h.1 ++ [':'] = key

variable {r : Request} {value rest : Text} {n : ℕ}

/-- A number in a value is read, whatever the lines behind. -/
theorem scanInt_of_states (h : Http.States value n) (hrest : rest = [] ∨ ∃ t, rest = '\r' :: t) :
    scanInt (value ++ rest) = some (false, n) := by
  obtain ⟨before, digits, after, rfl, hbefore, hafter, hne, hdigits, rfl⟩ := h
  have hspace : ∀ c ∈ before, isSpace c = true := by
    intro c hc
    have := hbefore c hc
    simp only [Http.isBlank, Bool.or_eq_true, beq_iff_eq] at this
    rcases this with rfl | rfl <;> rfl
  have hdrop : (before ++ (digits ++ after) ++ rest).dropWhile isSpace =
      (digits ++ (after ++ rest)).dropWhile isSpace := by
    rw [List.append_assoc, List.append_assoc, List.dropWhile_append_of_pos hspace]
  have hstop : (after ++ rest).head?.all fun c => !c.isDigit := by
    rcases after with _ | ⟨c, after⟩
    · rcases hrest with rfl | ⟨t, rfl⟩ <;> rfl
    · have := hafter c List.mem_cons_self
      simp only [Http.isBlank, Bool.or_eq_true, beq_iff_eq] at this
      rcases this with rfl | rfl <;> rfl
  have hnumber := scanInt_of_digits hdigits hne hstop
  unfold scanInt at hnumber ⊢
  rw [hdrop]
  exact hnumber

/-- A name before a colon is the one before the first. -/
theorem Request.line_eq {h : Text × Text} {name : Text} (hname : ':' ∉ h.1) (hkey : ':' ∉ name)
    (he : Request.line h = name ++ ':' :: value) : h.1 = name ∧ h.2 = value := by
  have hcut := cut_char hname h.2
  rw [show h.1 ++ ':' :: h.2 = name ++ ':' :: value from he, cut_char hkey] at hcut
  cases hcut
  exact ⟨rfl, rfl⟩

theorem name_isPrefix_line (h : Text × Text) : h.1 ++ [':'] <+: Request.line h := by
  refine ⟨h.2, ?_⟩
  rw [List.append_assoc]
  rfl

/-- One of the keys is found where a header has it for its name, and then the length is read. -/
theorem strtoul_of_key (name : Text) (h : r.WellFormed) (hd : r.Declares) (hs : Spelled r)
    (hn : r.body.length < 2 ^ 64) (hname : ':' ∉ name ∧ '\r' ∉ name ∧ '\n' ∉ name)
    (hlength : name.map Char.toLower = Http.contentLength)
    (hkey : name ++ [':'] ∈ [contentLengthKey, contentLengthLower]) :
    (∃ p, cut (name ++ [':']) r.head = some p ∧ strtoul p.2 = r.body.length) ∨
      cut (name ++ [':']) r.head = none ∧ ∀ header ∈ r.headers, header.1 ≠ name := by
  have hstart : ∀ l ∈ r.requestLine :: r.headers.map Request.line,
      name ++ [':'] <:+: l → name ++ [':'] <+: l := by
    intro l hl hinfix
    rcases List.mem_cons.mp hl with rfl | hl
    · exact absurd hinfix (hs.requestLine _ hkey)
    · obtain ⟨header, hm, rfl⟩ := List.mem_map.mp hl
      rw [← hs.header _ hkey header hm hinfix]
      exact name_isPrefix_line header
  have hcr : ∀ c : Char, c ∉ name → c ≠ ':' → c ∉ name ++ [':'] := fun c hc hne hm => by
    rcases List.mem_append.mp hm with hm | hm
    · exact hc hm
    · exact hne (List.mem_singleton.mp hm)
  rcases Http.cut_key (by simp) (hcr _ hname.2.1 (by decide)) (hcr _ hname.2.2 (by decide)) hstart
    with ⟨value, rest, hm, hrest, hcut⟩ | ⟨hnone, hcut⟩
  · refine Or.inl ?_
    obtain ⟨p, hp, hsnd⟩ := Option.map_eq_some_iff.mp hcut
    refine ⟨p, hp, ?_⟩
    have hline : name ++ [':'] ++ value ∈ r.headers.map Request.line := by
      refine (List.mem_cons.mp hm).resolve_left fun he => hs.requestLine _ hkey ?_
      rw [← he]
      exact (List.prefix_append _ _).isInfix
    obtain ⟨header, hheader, he⟩ := List.mem_map.mp hline
    have hcolon : ':' ∉ header.1 := fun hc =>
      Http.ne_colon_of_isToken (h.name header hheader _ hc) rfl
    have hline' : Request.line header = name ++ ':' :: value := by
      rw [he, List.append_assoc]
      rfl
    obtain ⟨hn1, hn2⟩ := Request.line_eq hcolon hname.1 hline'
    have hstates := hd.correct header hheader (by rw [Http.Named, hn1, hlength])
    rw [hsnd]
    rw [strtoul, scanInt_of_states (hn2 ▸ hstates) hrest]
    exact if_pos hn
  · refine Or.inr ⟨hcut, fun header hheader he => ?_⟩
    refine hnone _ (List.mem_cons_of_mem _ (List.mem_map_of_mem hheader)) ?_
    rw [← he]
    exact (name_isPrefix_line header).isInfix

/-- **A length that is spelled so is the one the server expects.** -/
theorem expectedBody_head (h : r.WellFormed) (hd : r.Declares) (hs : Spelled r)
    (hn : r.body.length < 2 ^ 64) : expectedBody r.head = r.body.length := by
  have hkey : "Content-Length".toList ++ [':'] = contentLengthKey := by decide
  have hlower : "content-length".toList ++ [':'] = contentLengthLower := by decide
  have hupper := strtoul_of_key "Content-Length".toList h hd hs hn (by decide) (by decide)
    (by rw [hkey]; exact List.mem_cons_self)
  have hsmall := strtoul_of_key "content-length".toList h hd hs hn (by decide) (by decide)
    (by rw [hlower]; exact List.mem_cons_of_mem _ List.mem_cons_self)
  rw [hkey] at hupper
  rw [hlower] at hsmall
  unfold expectedBody
  rcases hupper with ⟨p, hp, hread⟩ | ⟨hnone, hother⟩
  · rw [hp]
    exact hread
  · rw [hnone]
    rcases hsmall with ⟨p, hp, hread⟩ | ⟨hnone', hother'⟩
    · rw [hp]
      exact hread
    · obtain ⟨header, hheader, hnamed⟩ := hd.declared
      exfalso
      rcases hs.spelled header hheader hnamed with he | he
      · exact hother header hheader (List.append_cancel_right (he.trans hkey.symm))
      · exact hother' header hheader (List.append_cancel_right (he.trans hlower.symm))

/-- **A request is read whole**, however it is split. -/
theorem receive_text {chunks : List Text} (h : r.WellFormed) (hd : r.Declares) (hs : Spelled r)
    (hlen : r.text.length < kMaxRequestBytes) (hchunks : ∀ chunk ∈ chunks, chunk ≠ [])
    (hsent : chunks.flatten = r.text) : receive [] none chunks = r.text := by
  have hlen' : r.text.length < 65536 := hlen
  have htext : r.text.length = r.head.length + 4 + r.body.length := by
    rw [Request.text, List.length_append, List.length_append, Nat.add_assoc]
    rfl
  have hexpected : expectedBody r.head = r.body.length :=
    expectedBody_head h hd hs (by omega)
  have hcollect : receive [] none chunks = Http.collect complete [] chunks :=
    @receive_eq_collect [] chunks hchunks (by rw [List.nil_append, hsent]; exact hlen.le)
  have hwhole : Http.collect complete [] chunks = [] ++ chunks.flatten := by
    refine Http.collect_eq fun p hp hcomplete => ?_
    rw [List.nil_append, hsent] at hp ⊢
    rw [complete] at hcomplete
    cases hcut : cut headEnd p with
    | none =>
      rw [hcut] at hcomplete
      cases hcomplete
    | some q =>
      obtain ⟨headers, b⟩ := q
      obtain ⟨rfl, -⟩ := h.cut_of_isPrefix hp hcut
      simp only [hcut, hexpected, decide_eq_true_eq] at hcomplete
      rw [← htext, Nat.mod_eq_of_lt (by omega)] at hcomplete
      exact hp.eq_of_length_le hcomplete
  rw [hcollect, hwhole, List.nil_append, hsent]

/-! ## What is made of a request -/

theorem trimmed_lineEnd {s : Text} {c d : Char} (hc : isSpace c = false) (hd : isSpace d = false) :
    trimmed (c :: s ++ [d] ++ ['\r']) = c :: s ++ [d] := by
  have hblank : ∀ c : Char, isSpace c = false →
      (c == ' ' || c == '\t' || c == '\r' || c == '\n') = false := by
    intro c hc
    simp only [isSpace, Bool.or_eq_false_iff] at hc ⊢
    tauto
  have hdrop : ((c :: s ++ [d] ++ ['\r']).dropWhile fun c : Char =>
      c == ' ' || c == '\t' || c == '\r' || c == '\n') = c :: s ++ [d] ++ ['\r'] := by
    rw [List.cons_append, List.cons_append, List.dropWhile_cons, if_neg (by simp [hblank c hc])]
  simp only [trimmed]
  rw [hdrop, List.rdropWhile_concat_pos _ _ _ (by decide),
    List.rdropWhile_concat_neg _ _ _ (by simp [hblank d hd])]

theorem trimmed_requestLine_text (h : r.WellFormed) :
    trimmed (r.requestLine ++ ['\r']) = r.requestLine := by
  obtain ⟨c, m, hm⟩ := List.exists_cons_of_ne_nil h.method_ne
  have hne : r.version ≠ [] := by
    intro hnil
    have := h.http
    rw [hnil] at this
    exact absurd this (by decide)
  obtain ⟨v, d, hv⟩ : ∃ v d, r.version = v ++ [d] :=
    ⟨_, _, (List.dropLast_append_getLast hne).symm⟩
  have hline : r.requestLine = c :: (m ++ ' ' :: (r.target ++ ' ' :: v)) ++ [d] := by
    rw [Request.requestLine, hm, hv]
    simp
  have hc : isSpace c = false := Http.isSpace_of_isToken (h.method c (hm ▸ List.mem_cons_self))
  have hd : isSpace d = false := h.version d (by rw [hv]; simp)
  rw [hline]
  exact trimmed_lineEnd hc hd

theorem fields_requestLine_text (h : r.WellFormed) :
    fields r.requestLine = [r.method, r.target, r.version] := by
  have hne : r.version ≠ [] := by
    intro hnil
    have := h.http
    rw [hnil] at this
    exact absurd this (by decide)
  rw [Request.requestLine, fields_append_cons rfl, fields_append_cons rfl,
    fields_of_forall h.method_ne fun c hc => Http.isSpace_of_isToken (h.method c hc),
    fields_of_forall h.target_ne fun c hc => Http.isSpace_of_isUri (h.target c hc),
    fields_of_forall hne h.version]
  rfl

/-- **What is made of a request**: its method, its path, decoded and without the query, and its
body. -/
theorem parseHttpRequest_text (h : r.WellFormed) :
    parseHttpRequest r.text = some ⟨r.method, decodePath (withoutQuery r.target), r.body⟩ := by
  have hend : headerEnd r.text = some (r.head.length + 4) := by
    rw [headerEnd, Request.text, h.cut_head]
  have hsplit : r.text = r.head ++ headEnd ++ r.body := (List.append_assoc _ _ _).symm
  have hlen : r.head.length + 4 = (r.head ++ headEnd).length := by
    rw [List.length_append]
    rfl
  have htake : r.text.take (r.head.length + 4) = r.head ++ headEnd := by
    rw [hlen, hsplit, List.take_left]
  have hdrop : r.text.drop (r.head.length + 4) = r.body := by
    rw [hlen, hsplit, List.drop_left]
  have hfirst : ∃ more, r.head ++ headEnd = r.requestLine ++ ['\r'] ++ '\n' :: more := by
    rw [Request.head]
    rcases r.headers.map Request.line with _ | ⟨l, lines⟩
    · exact ⟨['\r', '\n'], by simp [joined, headEnd]⟩
    · exact ⟨joined l lines ++ headEnd, by rw [Http.joined_cons]; simp⟩
  obtain ⟨more, hmore⟩ := hfirst
  have hlf : '\n' ∉ r.requestLine ++ ['\r'] := by
    rw [List.mem_append, not_or]
    exact ⟨h.not_mem_requestLine.2, by decide⟩
  have hversion : "HTTP/".toList.isPrefixOf r.version = true :=
    List.isPrefixOf_iff_prefix.mpr h.http
  simp only [parseHttpRequest, hend, htake, hdrop, hmore, getlines_append_cons hlf,
    trimmed_requestLine_text h, fields_requestLine_text h, hversion, if_true]

/-- A request that is read whole is handed over once; a preflight is not. -/
theorem service_text {chunks : List Text} (h : r.WellFormed)
    (hreceive : receive [] none chunks = r.text) :
    service [chunks] = if r.method = "OPTIONS".toList then []
      else [⟨r.method, decodePath (withoutQuery r.target), r.body⟩] := by
  have hne : r.text ≠ [] := by
    intro hnil
    have := congrArg List.length hnil
    rw [Request.text, List.length_append, List.length_append, headEnd] at this
    simp at this
  simp only [service, List.flatMap_cons, List.flatMap_nil, List.append_nil, hreceive, if_neg hne,
    answer, parseHttpRequest_text h]

/-! ## Paths that decoding leaves alone -/

/-- The text starts with an escape that is resolved. -/
def Resolved (path : Text) : Prop :=
  ∃ high low rest h l, path = '%' :: high :: low :: rest ∧ hexDigit high = some h ∧
    hexDigit low = some l ∧ Char.ofNat (h * 16 + l) ≠ '/'

theorem length_decodePath_le (path : Text) : (decodePath path).length ≤ path.length := by
  fun_induction decodePath path with
  | case1 => exact le_rfl
  | case2 high low path m n hn hm hslash ih =>
    simp only [List.length_cons]
    omega
  | case3 high low path m n hn hm hslash ih =>
    simp only [List.length_cons]
    omega
  | case4 high low path hno ih =>
    simp only [List.length_cons] at ih ⊢
    omega
  | case5 c path hno ih =>
    simp only [List.length_cons]
    omega

theorem not_resolved_cons {c : Char} {s : Text} (h : c ≠ '%') : ¬ Resolved (c :: s) := by
  rintro ⟨high, low, rest, m, n, he, -⟩
  exact h (List.cons.inj he).1

theorem ne_percent_of_hexDigit {c : Char} {n : ℕ} (h : hexDigit c = some n) : c ≠ '%' := by
  rintro rfl
  have hnone : hexDigit '%' = none := by decide
  rw [hnone] at h
  cases h

theorem forall_suffix_cons {c : Char} {s : Text} : (∀ p, p <:+ c :: s → ¬ Resolved p) ↔
    ¬ Resolved (c :: s) ∧ ∀ p, p <:+ s → ¬ Resolved p := by
  simp only [List.suffix_cons_iff, or_imp, forall_and, forall_eq]

/-- **Decoding leaves a path alone just when it has no escape to resolve.** -/
theorem decodePath_eq_self_iff (path : Text) :
    decodePath path = path ↔ ∀ p, p <:+ path → ¬ Resolved p := by
  fun_induction decodePath path with
  | case1 =>
    refine iff_of_true rfl fun p hp => ?_
    rintro ⟨high, low, rest, h, l, rfl, -⟩
    cases List.suffix_nil.mp hp
  | case2 high low path m n hn hm hslash ih =>
    have hself : ¬ Resolved ('%' :: high :: low :: path) := by
      rintro ⟨high', low', rest, m', n', he, hm', hn', hne⟩
      cases he
      rw [hm] at hm'
      rw [hn] at hn'
      cases hm'
      cases hn'
      exact hne hslash
    rw [forall_suffix_cons, forall_suffix_cons, forall_suffix_cons, and_iff_right hself,
      and_iff_right (not_resolved_cons (ne_percent_of_hexDigit hm)),
      and_iff_right (not_resolved_cons (ne_percent_of_hexDigit hn)), ← ih]
    simp
  | case3 high low path m n hn hm hslash ih =>
    refine iff_of_false (fun he => ?_) fun hno =>
      hno _ (List.suffix_refl _) ⟨high, low, path, m, n, rfl, hm, hn, hslash⟩
    have hlen := congrArg List.length he
    have hle := length_decodePath_le path
    simp only [List.length_cons] at hlen
    omega
  | case4 high low path hno ih =>
    have hself : ¬ Resolved ('%' :: high :: low :: path) := by
      rintro ⟨high', low', rest, m, n, he, hm, hn, -⟩
      cases he
      exact hno m n hm hn
    rw [forall_suffix_cons, and_iff_right hself, ← ih]
    simp
  | case5 c path hno ih =>
    have hself : ¬ Resolved (c :: path) := by
      rintro ⟨high, low, rest, m, n, he, -⟩
      obtain ⟨rfl, rfl⟩ := List.cons.inj he
      exact hno high low rest rfl rfl
    rw [forall_suffix_cons, and_iff_right hself, ← ih]
    simp

end Aes67.Ravenna.HttpServer
