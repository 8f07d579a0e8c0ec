import Mathlib
import Aes67.Discovery.RtspClient

/-!
# Fetching a session by name

What becomes of a session's description on its way: the client asks for the session's URL, a server
answers with the description, and the client reads the answer in whatever chunks it comes. The
driver's own server puts the decoded path into a header of its answer; the RAVENNA server puts the
URL there as it came.

* `okResponse`: an answer with the header lines `mid` before its `Content-Length`;
* `parse_okResponse`, `contentLengthIn_okResponse`: what the client makes of it;
* **`fetched_iff`**: every description arrives, in whatever chunks, exactly when `mid` has no blank
  line and states no other length that is too small;
* `Safe`: what this comes to for a name;
* **`fetchable_iff`**: a session can be fetched by name exactly when its name is safe.
-/

namespace Aes67.RTSPClient

def okLine : Text := "RTSP/1.0 200 OK".toList

def contentLengthKey : Text := "Content-Length:".toList

/-- The description's length, in its header line. -/
def lengthLine (n : ℕ) : Text := contentLengthKey ++ ' ' :: showNat n

/-- The headers of an answer, without the line feeds that end them. -/
def okHeaders (mid : Text) (n : ℕ) : Text :=
  okLine ++ '\r' :: '\n' :: (mid ++ '\r' :: '\n' :: lengthLine n)

def okResponse (mid sdp : Text) : Text := okHeaders mid sdp.length ++ endOfHeaders ++ sdp

variable {mid s : Text} {n : ℕ}

theorem not_mem_showNat {c : Char} (h : c.isDigit = false) : c ∉ showNat n :=
  fun hc => absurd (isDigit_of_mem_showNat hc) (by rw [h]; exact Bool.false_ne_true)

/-! ## The headers -/

theorem cut_okHeaders (h : BlankFree (mid ++ crlf)) (n : ℕ) (s : Text) :
    cut endOfHeaders (okHeaders mid n ++ endOfHeaders ++ s) = some (okHeaders mid n, s) := by
  have hmid : ¬ endOfHeaders <:+: okLine ++ '\r' :: '\n' :: (mid ++ crlf) := by
    intro hi
    have hi : endOfHeaders <:+: '\r' :: '\n' :: (mid ++ crlf) :=
      infix_of_not_mem (by decide) hi
    refine h.2 ?_
    rcases List.infix_cons_iff.mp hi with hp | hi
    · exact (List.cons_prefix_cons.mp hp).2.isInfix
    · exact (List.suffix_cons '\r' _).isInfix.trans hi
  have hkey : ¬ endOfHeaders <:+: okLine ++ '\r' :: '\n' :: (mid ++ crlf) ++
      contentLengthKey := by
    have hsplit : contentLengthKey = 'C' :: contentLengthKey.tail := by decide
    rw [hsplit]
    intro hi
    rcases infix_append_cons (by decide) hi with hi | hi
    · exact hmid hi
    · exact absurd hi (by decide)
  have hdigits : cut endOfHeaders (showNat n ++ (endOfHeaders ++ s)) = some (showNat n, s) := by
    have hnr : '\r' ∉ showNat n := not_mem_showNat (by decide)
    have hskip : cut endOfHeaders (showNat n ++ (endOfHeaders ++ s)) =
        (cut endOfHeaders (endOfHeaders ++ s)).map fun ab => (showNat n ++ ab.1, ab.2) :=
      cut_append_of_not_mem hnr _
    rw [hskip, cut_append (by decide), Option.map_some, List.append_nil]
  have hall : okHeaders mid n ++ endOfHeaders ++ s = okLine ++
      '\r' :: '\n' :: (mid ++ crlf) ++ contentLengthKey ++ ' ' :: (showNat n ++ (endOfHeaders ++ s)) := by
    simp only [okHeaders, lengthLine, crlf, List.append_assoc, List.cons_append, List.nil_append]
  rw [hall, cut_append_cons (by decide) hkey, hdigits]
  simp only [okHeaders, lengthLine, crlf, List.append_assoc, List.cons_append, List.nil_append,
    Option.map_some]

theorem headerLines_line {line p : Text} (hp : '\n' ∉ p) (hb : ¬ (line ++ p = [] ∨ line ++ p = ['\r']))
    (s : Text) : headerLines line (p ++ '\n' :: s) =
      ((line ++ p) :: (headerLines [] s).1, (headerLines [] s).2) := by
  induction p generalizing line with
  | nil =>
    rw [List.append_nil] at hb
    rw [List.nil_append, headerLines, if_pos rfl, if_neg hb, List.append_nil]
  | cons c p ih =>
    rw [List.mem_cons, not_or] at hp
    rw [List.cons_append, headerLines, if_neg (Ne.symm hp.1), ih hp.2 (by simpa using hb)]
    simp

/-- The header lines are those of `mid` and the length. -/
theorem headerLines_okHeaders (h : BlankFree (mid ++ crlf)) (n : ℕ) (s : Text) :
    ∃ lines, headerLines [] (mid ++ crlf ++ lengthLine n ++ endOfHeaders ++ s) =
      (lines ++ [lengthLine n ++ ['\r']], s) := by
  have hmid : mid ++ crlf ++ lengthLine n ++ endOfHeaders ++ s = (mid ++ ['\r']) ++
      '\n' :: ((lengthLine n ++ ['\r']) ++ '\n' :: ('\r' :: '\n' :: s)) := by
    simp only [crlf, endOfHeaders, List.append_assoc, List.cons_append, List.nil_append]
  obtain ⟨lines, hlines⟩ := headerLines_append [] (mid ++ ['\r'])
    (by simpa [crlf] using h) ((lengthLine n ++ ['\r']) ++ '\n' :: ('\r' :: '\n' :: s))
  have hline : '\n' ∉ lengthLine n ++ ['\r'] := by
    simp only [lengthLine, List.mem_append, List.mem_cons, not_or]
    exact ⟨⟨by decide, by decide, not_mem_showNat (by decide)⟩, by decide, by simp⟩
  have hblank : ¬ ([] ++ (lengthLine n ++ ['\r']) = [] ∨
      [] ++ (lengthLine n ++ ['\r']) = ['\r']) := by
    have hlen : 1 < (lengthLine n ++ ['\r']).length := by
      simp only [lengthLine, List.length_append, List.length_cons]
      omega
    rintro (h | h) <;> rw [List.nil_append] at h <;> simp [h] at hlen
  rw [headerLines_line hline hblank] at hlines
  exact ⟨lines, by rw [hmid, hlines]; simp [headerLines]⟩

theorem chomp_concat (line : Text) : chomp (line ++ ['\r']) = line := by
  simp [chomp]

theorem isBlank_of_mem_showNat {c : Char} (h : c ∈ showNat n) : isBlank c = false := by
  have := isSpace_of_mem_showNat h
  simp only [isSpace, Bool.or_eq_false_iff] at this
  simp only [isBlank, Bool.or_eq_false_iff]
  exact ⟨this.1.1.1.1.1, this.1.1.1.1.2⟩

theorem dropWhile_isBlank_showNat (s : Text) :
    (' ' :: (showNat n ++ s)).dropWhile isBlank = showNat n ++ s := by
  obtain ⟨c, p, hp⟩ := List.exists_cons_of_ne_nil (showNat_ne_nil n)
  have hc : isBlank c = false := isBlank_of_mem_showNat (n := n) (hp ▸ List.mem_cons_self)
  rw [List.dropWhile_cons_of_pos (by rfl), hp, List.cons_append,
    List.dropWhile_cons_of_neg (by simp [hc])]

theorem trimBlanks_showNat : trimBlanks (' ' :: showNat n) = showNat n := by
  have hdrop := dropWhile_isBlank_showNat (n := n) []
  rw [List.append_nil] at hdrop
  have hall : (' ' :: showNat n).all isBlank = false := by
    obtain ⟨c, p, hp⟩ := List.exists_cons_of_ne_nil (showNat_ne_nil n)
    have hc : isBlank c = false := isBlank_of_mem_showNat (n := n) (hp ▸ List.mem_cons_self)
    simp [hp, hc]
  rw [trimBlanks, hall, if_neg Bool.false_ne_true, hdrop, List.rdropWhile_eq_self_iff]
  intro hne
  simp [isBlank_of_mem_showNat (n := n) (List.getLast_mem hne)]

theorem tail_okHeaders (s : Text) :
    ((okHeaders mid n ++ endOfHeaders ++ s).dropWhile (· ≠ '\n')).tail =
      mid ++ crlf ++ lengthLine n ++ endOfHeaders ++ s := by
  have hok : okHeaders mid n ++ endOfHeaders ++ s = (okLine ++ ['\r']) ++ '\n' ::
      (mid ++ crlf ++ lengthLine n ++ endOfHeaders ++ s) := by
    simp only [okHeaders, crlf, List.append_assoc, List.cons_append, List.nil_append]
  have hfirst : (okLine ++ ['\r']).all (fun c => decide (c ≠ '\n')) = true := by decide
  rw [hok, List.dropWhile_append_of_pos (List.all_eq_true.mp hfirst),
    List.dropWhile_cons_of_neg (by simp)]
  rfl

/-- **What the client parses**: as much of what follows the headers as their length says. -/
theorem parse_okHeaders (h : BlankFree (mid ++ crlf)) (hn : n ≤ kMaxRTSPBodyBytes) (s : Text) :
    (parseResponse (okHeaders mid n ++ endOfHeaders ++ s)).map RTSPResponse.body =
      some (s.take n) := by
  obtain ⟨lines, hlines⟩ := headerLines_okHeaders h n s
  have hne : okHeaders mid n ++ endOfHeaders ++ s ≠ [] := by
    simp [endOfHeaders, crlf]
  have hlength : addHeader (lines.foldl addHeader .empty) (lengthLine n ++ ['\r']) =
      (lines.foldl addHeader .empty).insert "Content-Length".toList (showNat n) := by
    have hkey : lengthLine n = "Content-Length".toList ++ ':' :: ' ' :: showNat n := by
      have : contentLengthKey = "Content-Length".toList ++ [':'] := by decide
      rw [lengthLine, this, List.append_assoc]
      rfl
    rw [addHeader, chomp_concat, hkey, cut_char (by decide)]
    dsimp only
    rw [trimBlanks_showNat]
  simp only [parseResponse, if_neg hne, tail_okHeaders, hlines, List.foldl_append, List.foldl_cons,
    List.foldl_nil, hlength, OrdMap.find?_insert_self]
  have hparse : parseContentLength (showNat n) = some n := by
    have hlt : n < 2 ^ 64 := hn.trans_lt (by decide)
    rw [parseContentLength, stoull_showNat hlt]
    simp [Option.filter, hn]
  rw [hparse]
  rfl

/-! ## The length that is found -/

/-- The length the client finds: the first one stated in `mid`, or else the true one. -/
def statedIn (mid : Text) (n : ℕ) : ℕ :=
  match cut contentLengthKey mid with
  | none => n
  | some (_, after) => statedLength (after ++ crlf)

theorem statedLength_append (after s : Text) :
    statedLength (after ++ crlf ++ s) = statedLength (after ++ crlf) := by
  obtain ⟨⟨value, rest⟩, hcut⟩ : ∃ ab, cut crlf (after ++ crlf) = some ab := by
    rw [← Option.isSome_iff_exists]
    exact contains_iff.mpr (List.suffix_append after crlf).isInfix
  rw [statedLength, statedLength, hcut, cut_append_right hcut]

theorem statedLength_showNat (hn : n ≤ kMaxRTSPBodyBytes) :
    statedLength (' ' :: showNat n ++ crlf) = n := by
  have hcut : cut crlf (' ' :: showNat n ++ crlf) = some (' ' :: showNat n, []) := by
    have hnr : '\r' ∉ ' ' :: showNat n := by
      rw [List.mem_cons, not_or]
      exact ⟨by decide, not_mem_showNat (by decide)⟩
    rw [crlf, cut_append_of_not_mem hnr, show cut ['\r', '\n'] ['\r', '\n'] = some ([], []) by decide]
    simp
  have hdrop := dropWhile_isBlank_showNat (n := n) []
  rw [List.append_nil] at hdrop
  have hlt : n < 2 ^ 64 := hn.trans_lt (by decide)
  simp only [statedLength, hcut, hdrop, if_neg (showNat_ne_nil n), parseContentLength,
    stoull_showNat hlt]
  simp [Option.filter, hn]

theorem contentLengthIn_okHeaders (h : BlankFree (mid ++ crlf)) (hn : n ≤ kMaxRTSPBodyBytes)
    (s : Text) : contentLengthIn (okHeaders mid n ++ endOfHeaders ++ s) = statedIn mid n := by
  have hends := cut_okHeaders h n s
  -- The search goes past the status line, into `mid` and the length behind it.
  have hpast : cut contentLengthKey (okHeaders mid n ++ endOfHeaders ++ s) =
      (cut contentLengthKey (mid ++ '\r' :: '\n' :: (lengthLine n ++ crlf ++ (crlf ++ s)))).map
        fun ab => (okLine ++ '\r' :: '\n' :: ab.1, ab.2) := by
    have hok : okHeaders mid n ++ endOfHeaders ++ s = okLine ++ '\r' :: ([] ++ '\n' ::
        (mid ++ '\r' :: '\n' :: (lengthLine n ++ crlf ++ (crlf ++ s)))) := by
      simp only [okHeaders, endOfHeaders, List.append_assoc, List.cons_append, List.nil_append]
    rw [hok, cut_append_cons (by decide) (by decide),
      cut_append_cons (by decide) (by decide), Option.map_map]
    rfl
  rw [contentLengthIn, hends, show "Content-Length:".toList = contentLengthKey from rfl, hpast,
    statedIn]
  cases hcut : cut contentLengthKey mid with
  | none =>
    have hfound : cut contentLengthKey (mid ++ '\r' :: '\n' :: (lengthLine n ++ crlf ++ (crlf ++ s))) =
        some (mid ++ ['\r', '\n'], ' ' :: showNat n ++ crlf ++ (crlf ++ s)) := by
      have hsplit : mid ++ '\r' :: '\n' :: (lengthLine n ++ crlf ++ (crlf ++ s)) = mid ++ '\r' :: ([] ++
          '\n' :: (contentLengthKey ++ (' ' :: showNat n ++ crlf ++ (crlf ++ s)))) := by
        simp only [lengthLine, List.append_assoc, List.cons_append, List.nil_append]
      rw [hsplit, cut_append_cons (by decide) (cut_eq_none.mp hcut),
        cut_append_cons (by decide) (by decide), cut_append (by decide)]
      rfl
    rw [hfound]
    dsimp only [Option.map_some]
    rw [if_pos, statedLength_append, statedLength_showNat hn]
    have : 0 < contentLengthKey.length := by decide
    simp only [okHeaders, lengthLine, List.length_append, List.length_cons, List.length_nil]
    omega
  | some ab =>
    obtain ⟨before, after⟩ := ab
    have hmid := eq_append_of_cut hcut
    rw [cut_append_right hcut]
    dsimp only [Option.map_some]
    have htail : after ++ '\r' :: '\n' :: (lengthLine n ++ crlf ++ (crlf ++ s)) =
        after ++ crlf ++ (lengthLine n ++ crlf ++ (crlf ++ s)) := by
      simp only [crlf, List.append_assoc, List.cons_append, List.nil_append]
    rw [if_pos, htail, statedLength_append]
    rw [hmid]
    simp only [okHeaders, List.length_append, List.length_cons]
    omega

/-! ## Every description, in every run of chunks -/

/-- What has been read when the first loop is done, of an answer whose headers end where they
should: the headers and some of the description. -/
theorem readHeaders_okResponse {sdp : Text} {chunks : List Text} (h : BlankFree (mid ++ crlf))
    (hc : chunks.flatten = okResponse mid sdp) : ∃ body rest,
    readHeaders [] chunks = some (okHeaders mid sdp.length ++ endOfHeaders ++ body, rest) ∧
      body ++ rest.flatten = sdp ∧ ∀ c ∈ rest, c ∈ chunks := by
  have hends := cut_okHeaders h sdp.length sdp
  have hcont : contains endOfHeaders ([] ++ chunks.flatten) = true := by
    rw [List.nil_append, hc, contains, okResponse, hends]
    rfl
  obtain ⟨read, rest, hread, hall, hcont, hmem⟩ := readHeaders_spec hcont (by decide)
  obtain ⟨⟨headers, body⟩, hcut⟩ := Option.isSome_iff_exists.mp hcont
  have hcut' := cut_append_right hcut rest.flatten
  rw [hall, List.nil_append, hc, okResponse, hends] at hcut'
  obtain ⟨rfl, rfl⟩ := Prod.mk.inj (Option.some.inj hcut')
  refine ⟨body, rest, ?_, rfl, hmem⟩
  rw [hread, eq_append_of_cut hcut]

theorem fetched_of_readHeaders {sdp body : Text} {chunks rest : List Text}
    (h : BlankFree (mid ++ crlf)) (hlen : sdp.length ≤ kMaxRTSPBodyBytes)
    (hread : readHeaders [] chunks = some (okHeaders mid sdp.length ++ endOfHeaders ++ body, rest)) :
    fetched chunks = (parseResponse (readBody (statedIn mid sdp.length)
      (okHeaders mid sdp.length ++ endOfHeaders ++ body) body.length rest)).map RTSPResponse.body := by
  have hends := cut_okHeaders h sdp.length body
  simp only [fetched, readResponse, hread, Option.map_some, hends,
    contentLengthIn_okHeaders h hlen, Option.bind_some]

/-- **Where the length found is large enough** the whole description arrives. -/
theorem fetched_okResponse {sdp : Text} {chunks : List Text} (h : BlankFree (mid ++ crlf))
    (hlen : sdp.length ≤ kMaxRTSPBodyBytes) (hstated : sdp.length ≤ statedIn mid sdp.length)
    (hc : ArrivesIn (okResponse mid sdp) chunks) : fetched chunks = some sdp := by
  obtain ⟨body, rest, hread, hsdp, hmem⟩ := readHeaders_okResponse h hc.1
  have hsize : body.length + rest.flatten.length ≤ statedIn mid sdp.length := by
    rw [← List.length_append, hsdp]
    exact hstated
  rw [fetched_of_readHeaders h hlen hread,
    readBody_of_le (fun c hm => (hc.2 c (hmem c hm)).1) hsize, List.append_assoc, hsdp,
    parse_okHeaders h hlen, List.take_length]

/-- The bytes of a response, one by one. -/
def byteByByte (response : Text) : List Text := response.map ([·])

theorem flatten_byteByByte (response : Text) : (byteByByte response).flatten = response := by
  rw [byteByByte, ← List.flatMap_def, List.flatMap_singleton']

theorem arrivesIn_byteByByte (response : Text) : ArrivesIn response (byteByByte response) := by
  refine ⟨flatten_byteByByte response, fun chunk hchunk => ?_⟩
  obtain ⟨c, -, rfl⟩ := List.mem_map.mp hchunk
  exact ⟨List.cons_ne_nil _ _, by simp⟩

theorem eq_byteByByte_of_forall {chunks : List Text} {response : Text}
    (h : ∀ c ∈ chunks, c ∈ byteByByte response) : chunks = byteByByte chunks.flatten := by
  induction chunks with
  | nil => rfl
  | cons chunk chunks ih =>
    obtain ⟨c, -, rfl⟩ := List.mem_map.mp (h chunk List.mem_cons_self)
    rw [List.flatten_cons, byteByByte, List.map_append, ← byteByByte,
      ← byteByByte, ← ih fun c hm => h c (List.mem_cons_of_mem _ hm)]
    rfl

/-- **Byte by byte** no more of the description arrives than the length found. -/
theorem fetched_byteByByte {sdp : Text} (h : BlankFree (mid ++ crlf))
    (hlen : sdp.length ≤ kMaxRTSPBodyBytes) (hstated : statedIn mid sdp.length < sdp.length) :
    fetched (byteByByte (okResponse mid sdp)) = some (sdp.take (statedIn mid sdp.length)) := by
  obtain ⟨body, rest, hread, hsdp, hmem⟩ :=
    readHeaders_okResponse h (flatten_byteByByte (okResponse mid sdp))
  -- The headers are complete with their last byte, so nothing of the description has been read.
  have hempty : body = [] := by
    have hcont : contains endOfHeaders ([] ++
        (byteByByte (okHeaders mid sdp.length ++ endOfHeaders)).flatten) = true := by
      rw [List.nil_append, flatten_byteByByte]
      exact contains_iff.mpr (List.suffix_append _ endOfHeaders).isInfix
    have hsplit : byteByByte (okResponse mid sdp) =
        byteByByte (okHeaders mid sdp.length ++ endOfHeaders) ++ byteByByte sdp := by
      rw [okResponse, byteByByte, List.map_append, ← byteByByte, ← byteByByte]
    rw [hsplit] at hread
    have hp := (readHeaders_append hcont (by decide) _ hread).length_le
    rw [List.nil_append, flatten_byteByByte, List.length_append] at hp
    exact List.length_eq_zero_iff.mp (by omega)
  subst hempty
  rw [List.nil_append] at hsdp
  rw [fetched_of_readHeaders h hlen hread, eq_byteByByte_of_forall hmem, hsdp, byteByByte,
    readBody_singletons (by simpa using hstated.le) (by simp), List.append_nil,
    parse_okHeaders h hlen, List.length_nil, Nat.sub_zero,
    List.take_of_length_le (by rw [List.length_take]; omega)]

/-- What the client has of a response when it is done with it is a part of it. -/
theorem flatten_isPrefix {response : Text} {chunks : List Text}
    (h : readResponse chunks = some response) : response <+: chunks.flatten := by
  obtain ⟨⟨read, rest⟩, hread, hresponse⟩ := Option.map_eq_some_iff.mp h
  have hall := readHeaders_flatten hread
  rw [List.nil_append] at hall
  have hread' : read <+: chunks.flatten := ⟨rest.flatten, hall⟩
  cases hcut : cut endOfHeaders read with
  | none =>
    simp only [hcut] at hresponse
    exact hresponse ▸ hread'
  | some ab =>
    simp only [hcut] at hresponse
    obtain ⟨more, hmore, hp⟩ := readBody_prefix (contentLengthIn read) read ab.2.length rest
    rw [← hresponse, hmore, ← hall]
    exact (List.prefix_append_right_inj read).mpr hp

theorem dropWhile_isPrefix {s t : Text} (h : s <+: t) :
    (s.dropWhile (· ≠ '\n')).tail <+: (t.dropWhile (· ≠ '\n')).tail := by
  obtain ⟨r, rfl⟩ := h
  induction s with
  | nil => exact List.nil_prefix
  | cons c s ih =>
    rw [List.cons_append, List.dropWhile_cons, List.dropWhile_cons]
    split_ifs
    · exact ih
    · exact List.prefix_append s r

/-- The body is a part of what stands behind the headers, if anything does. -/
theorem body_isPrefix {text : Text} {response : RTSPResponse} (h : parseResponse text = some response) :
    response.body <+: (headerLines [] (text.dropWhile (· ≠ '\n')).tail).2 := by
  unfold parseResponse at h
  split_ifs at h
  cases h
  dsimp only
  split
  · split
    · exact List.take_prefix _ _
    · exact List.nil_prefix
  · exact List.prefix_rfl

/-- **A blank line in the headers** makes what follows it the body. -/
theorem exists_not_fetched (h : ¬ BlankFree (mid ++ crlf)) :
    ∃ c, ∀ chunks, ArrivesIn (okResponse mid [c]) chunks → fetched chunks ≠ some [c] := by
  obtain ⟨left, hleft⟩ := headerLines_blank [] (mid ++ crlf) (by simp) h
  obtain ⟨x, r, hx⟩ := List.exists_cons_of_ne_nil (l := left ++ lengthLine 1) (by simp [lengthLine])
  obtain ⟨c, hc⟩ : ∃ c : Char, c ≠ x := by
    by_cases hx : x = 'v'
    · exact ⟨'w', by rw [hx]; decide⟩
    · exact ⟨'v', Ne.symm hx⟩
  refine ⟨c, fun chunks hchunks hf => ?_⟩
  obtain ⟨response, hresponse, hbody⟩ := Option.map_eq_some_iff.mp hf
  obtain ⟨text, htext, hparse⟩ := Option.bind_eq_some_iff.mp hresponse
  have hp := (body_isPrefix hparse).trans (headerLines_isPrefix []
    (dropWhile_isPrefix (flatten_isPrefix htext)))
  have hrest : ((chunks.flatten).dropWhile (· ≠ '\n')).tail =
      mid ++ crlf ++ (lengthLine 1 ++ endOfHeaders ++ [c]) := by
    rw [hchunks.1, okResponse, tail_okHeaders]
    simp only [List.append_assoc]
    rfl
  have hleft' : left ++ (lengthLine 1 ++ endOfHeaders ++ [c]) = x :: (r ++ endOfHeaders ++ [c]) := by
    rw [← List.append_assoc, ← List.append_assoc, hx]
    rfl
  rw [hrest, hleft, hleft', hbody] at hp
  exact hc (List.cons_prefix_cons.mp hp).1

/-- The largest description, 64 KiB. -/
def kLargest : ℕ := 65536

/-- **Every description arrives, in whatever chunks,** exactly when what stands before its length
has no blank line, and states no other length unless it is large enough for the largest. -/
theorem fetched_iff (mid : Text) :
    (∀ sdp, sdp ≠ [] → sdp.length ≤ kLargest → ∀ chunks, ArrivesIn (okResponse mid sdp) chunks →
      fetched chunks = some sdp) ↔
    BlankFree (mid ++ crlf) ∧ ∀ before after, cut contentLengthKey mid = some (before, after) →
      kLargest ≤ statedLength (after ++ crlf) := by
  constructor
  · intro h
    have hblank : BlankFree (mid ++ crlf) := by
      by_contra hblank
      obtain ⟨c, hc⟩ := exists_not_fetched hblank
      have harrives := arrivesIn_byteByByte (okResponse mid [c])
      exact hc _ harrives (h [c] (List.cons_ne_nil _ _) (by simp [kLargest]) _ harrives)
    refine ⟨hblank, fun before after hcut => ?_⟩
    by_contra hsmall
    have hlen : (List.replicate kLargest 'v').length = kLargest := List.length_replicate
    have hne : List.replicate kLargest 'v' ≠ [] := by
      rw [← List.length_pos_iff, hlen]
      decide
    have hstated : statedIn mid (List.replicate kLargest 'v').length <
        (List.replicate kLargest 'v').length := by
      rw [statedIn, hcut, hlen]
      exact not_le.mp hsmall
    have hall := h _ hne hlen.le _ (arrivesIn_byteByByte _)
    rw [fetched_byteByByte hblank (hlen.trans_le (by decide)) hstated] at hall
    have := congrArg List.length (Option.some.inj hall)
    rw [List.length_take] at this
    omega
  · rintro ⟨hblank, hstated⟩ sdp hne hlen chunks hc
    refine fetched_okResponse hblank (hlen.trans (by decide)) ?_ hc
    rw [statedIn]
    cases hcut : cut contentLengthKey mid with
    | none => exact le_rfl
    | some ab => exact hlen.trans (hstated ab.1 ab.2 hcut)

/-! ## Sessions by name -/

/-- A name that leaves the answer's headers whole: with the line ending behind it, it has no blank
line, and it states no length, unless one that is large enough for every description. -/
structure Safe (name : Text) : Prop where
  noLineFeeds : ¬ ['\n', '\n'] <:+: name ++ crlf
  noBlankLine : ¬ ['\n', '\r', '\n'] <:+: name ++ crlf
  noLength : ∀ before after, cut contentLengthKey name = some (before, after) →
    kLargest ≤ statedLength (after ++ crlf)

/-- The client gets the description, in whatever chunks the answer comes. -/
def Yields (answer : Option Text) (sdp : Text) : Prop :=
  ∃ response, answer = some response ∧
    ∀ chunks, ArrivesIn response chunks → fetched chunks = some sdp

/-- Both servers read the session's path in the request, and what they answer where the session is
published yields its description. -/
structure Fetchable (service : MDNSService) (request : Text) : Prop where
  addressed : parseRequestLine request = some ("DESCRIBE".toList, service.path)
  addressedRavenna : ∃ r, Ravenna.parseRtspRequest request = some r ∧ r.method = .Describe ∧
    percentDecode (pathOf r.uri) = service.path
  answered : ∀ sdp, sdp ≠ [] → sdp.length ≤ kLargest → ∀ streams : List RTSPPublishedStream,
    streams.find? (·.path = service.path) = some ⟨service.path, sdp⟩ →
      Yields (serve streams request) sdp
  answeredRavenna : ∀ sdp, sdp ≠ [] → sdp.length ≤ kLargest → ∀ describe : Text → Option Text,
    describe service.path = some sdp → Yields (Ravenna.answer describe request) sdp

def cseqKey : Text := "CSeq:".toList

def contentTypeLine : Text := "Content-Type: application/sdp".toList

def contentBaseKey : Text := "Content-Base:".toList

/-- The two header lines before the name, up to its slash. -/
def typeAndBase : Text := "Content-Type: application/sdp\r\nContent-Base: /by-name".toList

/-- What stands between the status line and the name in the driver's answer. -/
def beforeName (cseq : ℕ) : Text :=
  cseqKey ++ ' ' :: (showNat cseq ++ '\r' :: ([] ++ '\n' :: typeAndBase))

/-- What the RAVENNA server puts there, around the URL. -/
def ravennaMid (sequence : ℕ) (url : Text) : Text :=
  cseqKey ++ ' ' :: (showNat sequence ++ '\r' :: ([] ++ '\n' :: (contentBaseKey ++ ' ' :: (url ++
    '\r' :: ([] ++ '\n' :: contentTypeLine)))))

theorem okLine_eq : versionPart ++ showNat 200 ++ [' '] ++ okReason = okLine := by decide

theorem cseqPart_eq : cseqPart = cseqKey ++ [' '] := by decide

theorem lengthPart_eq : lengthPart = contentLengthKey ++ [' '] := by decide

theorem describeResponse_eq (name sdp : Text) (cseq : ℕ) :
    describeResponse (byName ++ name) sdp cseq =
      okResponse (beforeName cseq ++ '/' :: name) sdp := by
  have hbase : typePart ++ crlf ++ (basePart ++ byName) = typeAndBase ++ ['/'] := by
    decide
  have hlines : describeResponse (byName ++ name) sdp cseq = okLine ++ crlf ++
      (cseqKey ++ [' '] ++ showNat cseq ++ crlf) ++ (typeAndBase ++ ['/'] ++ (name ++ crlf ++
        (contentLengthKey ++ [' '] ++ showNat sdp.length ++ crlf ++ (crlf ++ sdp)))) := by
    rw [describeResponse, statusLine, okLine_eq, cseqPart_eq, lengthPart_eq, ← hbase]
    simp only [List.append_assoc]
  rw [hlines, okResponse, okHeaders, beforeName, lengthLine]
  simp only [crlf, endOfHeaders, List.append_assoc, List.cons_append, List.nil_append]

theorem entries_describeHeaders (url : Text) : (Ravenna.describeHeaders url).entries =
    [("Content-Base".toList, url), ("Content-Type".toList, "application/sdp".toList)] := by
  have hlt : "Content-Base".toList < "Content-Type".toList := by decide
  have hone : (Ravenna.describeHeaders url).entries = insertEntry "Content-Base".toList url
      [("Content-Type".toList, "application/sdp".toList)] := rfl
  rw [hone, insertEntry, if_pos hlt]

theorem buildDescribeResponse_eq (url : Text) {sdp : Text} (h : sdp ≠ []) (sequence : ℕ) :
    Ravenna.buildDescribeResponse sequence url sdp = okResponse (ravennaMid sequence url) sdp := by
  have htype : "Content-Type".toList ++ [':', ' '] ++ "application/sdp".toList =
      contentTypeLine := by decide
  have hbase : "Content-Base".toList ++ [':', ' '] = contentBaseKey ++ [' '] := by
    decide
  have hheaders : ((Ravenna.describeHeaders url).entries.flatMap fun header =>
      header.1 ++ [':', ' '] ++ header.2 ++ crlf) =
      contentBaseKey ++ [' '] ++ url ++ crlf ++ (contentTypeLine ++ crlf) := by
    rw [entries_describeHeaders, List.flatMap_cons, List.flatMap_cons, List.flatMap_nil,
      List.append_nil, ← htype, ← hbase]
  have hlines : Ravenna.buildDescribeResponse sequence url sdp = okLine ++ crlf ++
      (cseqKey ++ [' '] ++ showNat sequence ++ crlf) ++ (contentBaseKey ++ [' '] ++ url ++ crlf ++
        (contentTypeLine ++ crlf) ++ ((contentLengthKey ++ [' '] ++ showNat sdp.length ++ crlf) ++
          (crlf ++ sdp))) := by
    rw [Ravenna.buildDescribeResponse, Ravenna.buildRtspResponse, hheaders, if_neg h, okLine_eq,
      cseqPart_eq, lengthPart_eq]
    simp only [List.append_assoc]
  rw [hlines, okResponse, okHeaders, ravennaMid, lengthLine]
  simp only [crlf, endOfHeaders, List.append_assoc, List.cons_append, List.nil_append]

theorem not_infix_beforeName_lf (cseq : ℕ) : ¬ ['\n', '\n'] <:+: '\n' :: beforeName cseq ∧
    ¬ ['\n', '\r', '\n'] <:+: '\n' :: beforeName cseq := by
  have hdigits : '\n' ∉ showNat cseq := not_mem_showNat (by decide)
  constructor
  · intro h
    rcases infix_append_cons (s := '\n' :: cseqKey) (by decide) h with h | h
    · exact absurd h (by decide)
    · exact absurd (infix_of_not_mem hdigits h) (by decide)
  · intro h
    rcases infix_append_cons (s := '\n' :: cseqKey) (by decide) h with h | h
    · exact absurd h (by decide)
    · exact absurd (infix_of_not_mem hdigits h) (by decide)

theorem not_infix_beforeName_length (cseq : ℕ) : ¬ contentLengthKey <:+: beforeName cseq := by
  intro h
  rcases infix_append_cons (by decide) h with h | h
  · exact absurd h (by decide)
  · have hsplit : contentLengthKey = 'C' :: contentLengthKey.tail := by decide
    rw [hsplit] at h
    exact absurd (infix_of_not_mem (not_mem_showNat (by decide)) h) (by decide)

/-- **For the driver's server** the headers before the length are as safe as the name. -/
theorem safe_iff (name : Text) (cseq : ℕ) : Safe name ↔
    BlankFree (beforeName cseq ++ '/' :: name ++ crlf) ∧ ∀ before after,
      cut contentLengthKey (beforeName cseq ++ '/' :: name) = some (before, after) →
        kLargest ≤ statedLength (after ++ crlf) := by
  have hsplit : '\n' :: (beforeName cseq ++ '/' :: name ++ crlf) =
      ('\n' :: beforeName cseq) ++ '/' :: (name ++ crlf) := by
    rw [List.append_assoc]
    rfl
  have hblank : BlankFree (beforeName cseq ++ '/' :: name ++ crlf) ↔
      ¬ ['\n', '\n'] <:+: name ++ crlf ∧ ¬ ['\n', '\r', '\n'] <:+: name ++ crlf := by
    rw [BlankFree, hsplit, infix_append_cons_iff (by decide), infix_append_cons_iff (by decide)]
    have := not_infix_beforeName_lf cseq
    tauto
  have hcut : cut contentLengthKey (beforeName cseq ++ '/' :: name) =
      (cut contentLengthKey name).map fun ab => (beforeName cseq ++ '/' :: ab.1, ab.2) :=
    cut_append_cons (by decide) (not_infix_beforeName_length cseq) name
  rw [hblank, hcut]
  constructor
  · intro h
    refine ⟨⟨h.noLineFeeds, h.noBlankLine⟩, fun before after hba => ?_⟩
    obtain ⟨⟨b, a⟩, hname, heq⟩ := Option.map_eq_some_iff.mp hba
    cases heq
    exact h.noLength b _ hname
  · rintro ⟨⟨h1, h2⟩, h3⟩
    refine ⟨h1, h2, fun before after hba => ?_⟩
    exact h3 (beforeName cseq ++ '/' :: before) after (by rw [hba]; rfl)

theorem colon_not_mem_percentEncoded {name : Text} (hb : ∀ c ∈ name, c.toNat < 256) :
    ':' ∉ percentEncoded name := by
  intro h
  obtain ⟨d, hd, hc⟩ := List.mem_flatMap.mp h
  have hlt := hb d hd
  have hhex : ∀ n < 16, ':' ≠ kHex n := by decide
  split_ifs at hc with hu
  · rw [← List.mem_singleton.mp hc] at hu
    exact absurd hu (by decide)
  · simp only [escaped, List.mem_cons, List.not_mem_nil, or_false] at hc
    rcases hc with hc | hc | hc
    · exact absurd hc (by decide)
    · exact hhex _ (by omega) hc
    · exact hhex _ (by omega) hc

/-- The URL states no length: its name has no colon. -/
theorem not_infix_url (service : MDNSService) : ¬ contentLengthKey <:+: service.url := by
  have hbyName : byName = '/' :: ("by-name".toList ++ ['/']) := by decide
  have hscheme : rtspScheme = "rtsp:/".toList ++ ['/'] := by decide
  have hurl : service.url = "rtsp:/".toList ++ '/' :: (service.address ++ [':'] ++
      showNat service.port.toNat ++ '/' :: ("by-name".toList ++ '/' :: percentEncoded service.name)) := by
    rw [MDNSService.url, hbyName, hscheme]
    simp only [List.append_assoc, List.singleton_append]
    rfl
  have hslash : '/' ∉ contentLengthKey := by decide
  rw [hurl]
  intro h
  rcases infix_append_cons hslash h with h | h
  · exact absurd h (by decide)
  rcases infix_append_cons hslash h with h | h
  · have hC : 'C' ∈ service.address ++ [':'] ++ showNat service.port.toNat :=
      h.subset (by decide)
    simp only [List.mem_append, List.mem_singleton] at hC
    rcases hC with (hC | hC) | hC
    · rcases service.literal _ hC with hC | hC <;> exact absurd hC (by decide)
    · exact absurd hC (by decide)
    · exact absurd (isDigit_of_mem_showNat hC) (by decide)
  rcases infix_append_cons hslash h with h | h
  · exact absurd h (by decide)
  · exact colon_not_mem_percentEncoded service.bytes (h.subset (by decide))

/-- **For the RAVENNA server** they are always safe: the URL is as it was encoded. -/
theorem safe_ravennaMid (service : MDNSService) (sequence : ℕ) :
    BlankFree (ravennaMid sequence service.url ++ crlf) ∧
      cut contentLengthKey (ravennaMid sequence service.url) = none := by
  have hspace (c : Char) (hc : isSpace c = true) : c ∉ service.url := fun h =>
    absurd (isSpace_of_isUrlSafe (service.isUrlSafe_of_mem_url h)) (by simp [hc])
  have hsplit : '\n' :: (ravennaMid sequence service.url ++ crlf) = ('\n' :: cseqKey) ++
      ' ' :: (showNat sequence ++ ('\r' :: '\n' :: contentBaseKey) ++
        ' ' :: (service.url ++ ('\r' :: '\n' :: contentTypeLine ++ crlf))) := by
    rw [ravennaMid]
    simp only [crlf, List.append_assoc, List.cons_append, List.nil_append]
  have hfree (pat : Text) (hs : ' ' ∉ '\n' :: pat)
      (h1 : ¬ '\n' :: pat <:+: '\n' :: cseqKey) (h2 : ¬ '\n' :: pat <:+: '\r' :: '\n' :: contentBaseKey)
      (h3 : ¬ '\n' :: pat <:+: '\r' :: '\n' :: contentTypeLine ++ crlf) :
      ¬ '\n' :: pat <:+: '\n' :: (ravennaMid sequence service.url ++ crlf) := by
    rw [hsplit]
    intro h
    rcases infix_append_cons hs h with h | h
    · exact h1 h
    rcases infix_append_cons hs h with h | h
    · exact h2 (infix_of_not_mem (not_mem_showNat (by decide)) h)
    · exact h3 (infix_of_not_mem (hspace _ (by decide)) h)
  refine ⟨⟨hfree _ (by decide) (by decide) (by decide) (by decide),
    hfree _ (by decide) (by decide) (by decide) (by decide)⟩, ?_⟩
  have hsp : ' ' ∉ contentLengthKey := by decide
  have hlf : '\r' ∉ contentLengthKey := by decide
  have hC : contentLengthKey = 'C' :: contentLengthKey.tail := by decide
  have hmid : ravennaMid sequence service.url = cseqKey ++ ' ' :: (showNat sequence ++
      ('\r' :: '\n' :: contentBaseKey) ++ ' ' :: (service.url ++ '\r' :: '\n' :: contentTypeLine)) := by
    rw [ravennaMid]
    simp only [List.append_assoc, List.cons_append, List.nil_append]
  rw [cut_eq_none, hmid]
  intro h
  rcases infix_append_cons hsp h with h | h
  · exact absurd h (by decide)
  rcases infix_append_cons hsp h with h | h
  · rw [hC] at h
    exact absurd (infix_of_not_mem (not_mem_showNat (by decide)) h) (by decide)
  rcases infix_append_cons hlf h with h | h
  · exact not_infix_url service h
  · exact absurd h (by decide)

/-! ## Both servers -/

theorem path_eq (service : MDNSService) : service.path = byName ++ service.name := rfl

/-- **A session can be fetched by name exactly when its name is safe.** Either server reads the
session's path in the request, and the answer of the RAVENNA server always yields the description;
that of the driver's server does so for safe names only. -/
theorem fetchable_iff (service : MDNSService) (userAgent : Text) (cseq : ℕ) :
    Fetchable service (describeRequest service.url userAgent cseq) ↔ Safe service.name := by
  have hdescribe : "DESCRIBE".toList ≠ [] ∧ ∀ c ∈ "DESCRIBE".toList, isSpace c = false := by
    have h : "DESCRIBE".toList.all (!isSpace ·) = true := by decide
    exact ⟨by decide, fun c hc => by simpa using List.all_eq_true.mp h c hc⟩
  have hurl : ∀ c ∈ service.url, isSpace c = false :=
    fun c hc => isSpace_of_isUrlSafe (service.isUrlSafe_of_mem_url hc)
  have haddressed : parseRequestLine (describeRequest service.url userAgent cseq) =
      some ("DESCRIBE".toList, service.path) := by
    rw [describeRequest, service.encodeRequestURL_url,
      parseRequestLine_request hdescribe.1 hdescribe.2 service.url_ne_nil hurl service.pathOf_ne_nil,
      service.pathOf_url]
  obtain ⟨r, hr, hmethod, huri⟩ := Ravenna.parseRtspRequest_request hdescribe.1 hdescribe.2
    service.url_ne_nil hurl (cseqPart ++ showNat cseq ++ crlf ++
      ("User-Agent: ".toList ++ userAgent ++ crlf) ++
        ("Accept: application/sdp".toList ++ crlf ++ crlf))
  rw [← service.encodeRequestURL_url, ← describeRequest] at hr
  rw [show Ravenna.methodFrom "DESCRIBE".toList = .Describe by decide] at hmethod
  have hserve : ∀ (sdp : Text) (streams : List RTSPPublishedStream),
      streams.find? (·.path = service.path) = some ⟨service.path, sdp⟩ →
      serve streams (describeRequest service.url userAgent cseq) =
        some (okResponse (beforeName (parseCSeq (describeRequest service.url userAgent cseq)) ++
          '/' :: service.name) sdp) := by
    intro sdp streams hfind
    have hne : describeRequest service.url userAgent cseq ≠ [] := by
      intro hnil
      rw [hnil] at haddressed
      exact absurd haddressed (by simp [parseRequestLine, fields, cut, crlf])
    simp only [serve, if_neg hne, haddressed, hfind]
    rw [if_neg (by decide), if_neg (by decide), path_eq, describeResponse_eq]
  have hanswer : ∀ (sdp : Text) (describe : Text → Option Text), sdp ≠ [] →
      describe service.path = some sdp →
      Ravenna.answer describe (describeRequest service.url userAgent cseq) =
        some (okResponse (ravennaMid r.sequence service.url) sdp) := by
    intro sdp describe hne hsdp
    simp only [Ravenna.answer, hr, hmethod, huri, service.pathOf_url, hsdp,
      buildDescribeResponse_eq service.url hne]
  constructor
  · intro h
    refine (safe_iff service.name (parseCSeq (describeRequest service.url userAgent cseq))).mpr
      ((fetched_iff _).mp fun sdp hne hlen chunks hc => ?_)
    have hone : [(⟨service.path, sdp⟩ : RTSPPublishedStream)].find? (·.path = service.path) =
        some ⟨service.path, sdp⟩ := by simp
    obtain ⟨response, hresponse, hyields⟩ := h.answered sdp hne hlen _ hone
    rw [hserve sdp _ hone] at hresponse
    exact hyields chunks (Option.some.inj hresponse ▸ hc)
  · intro hsafe
    have hdriver := (fetched_iff _).mpr
      ((safe_iff service.name (parseCSeq (describeRequest service.url userAgent cseq))).mp hsafe)
    have hravenna := (fetched_iff (ravennaMid r.sequence service.url)).mpr
      ⟨(safe_ravennaMid service _).1, fun before after hcut => by
        rw [(safe_ravennaMid service _).2] at hcut; cases hcut⟩
    exact
      { addressed := haddressed
        addressedRavenna := ⟨r, hr, hmethod, by rw [huri, service.pathOf_url]⟩
        answered := fun sdp hne hlen streams hfind => ⟨_, hserve sdp streams hfind, hdriver sdp hne hlen⟩
        answeredRavenna := fun sdp hne hlen describe hsdp =>
          ⟨_, hanswer sdp describe hne hsdp, hravenna sdp hne hlen⟩ }

/-! A session that is called like a header. -/

def misleading : MDNSService where
  name := "Content-Length: 1".toList
  address := "10.0.0.1".toList
  port := 554
  bytes := by
    have h : "Content-Length: 1".toList.all (fun c => decide (c.toNat < 256)) = true := by
      decide
    exact fun c hc => by simpa using List.all_eq_true.mp h c hc
  literal := by
    have h : "10.0.0.1".toList.all (fun c => c.isDigit || c == '.') = true := by decide
    exact fun c hc => by simpa using List.all_eq_true.mp h c hc

/-- **Its description is cut short** when it comes byte by byte. -/
theorem misleading_not_fetchable :
    ¬ Fetchable misleading (describeRequest misleading.url "AES67Driver/1.0".toList 1) := by
  intro h
  obtain ⟨response, hresponse, hyields⟩ := h.answered "v=0\r\n".toList (by decide)
    (by decide) [⟨misleading.path, "v=0\r\n".toList⟩] (by simp)
  have hfetched := hyields (byteByByte response) (arrivesIn_byteByByte response)
  have hcut : (serve [⟨misleading.path, "v=0\r\n".toList⟩]
      (describeRequest misleading.url "AES67Driver/1.0".toList 1)).bind
        (fun response => fetched (byteByByte response)) = some "v".toList := by decide +kernel
  rw [hresponse, Option.bind_some, hfetched] at hcut
  exact absurd hcut (by decide)

end Aes67.RTSPClient
