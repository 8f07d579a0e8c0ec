import Mathlib

/-!
# RTCP compound packets

The model of the parser of `RTCPReceiverTable`: a loop over the packets of a buffer, each as long as
its own header tells, and in a source description the two loops over chunks and their items. Every
read is checked against the buffer, and one outside it is a `Fault`.

* `RTCPReceiverTable.parse`, `parseSDES`, `sdesItems`;
* `parseSDES_ok`, `parse_ok`: they end, and read nothing but the buffer;
* `Compound`: one or more whole packets and nothing else; `CutOff`: whole packets and then less
  than one;
* **`parse_sound_iff`**: the verdict is exact but for the buffers that are cut off.
-/

namespace Aes67

/-- One parsed report. -/
structure RTCPParseResult where
  reporterSSRCs : List ℕ := []
  cnames : List (ℕ × List UInt8) := []
  valid : Bool := false

namespace RTCPReceiverTable

/-- What must never happen while a buffer is parsed. -/
inductive Fault
  | outside | outOfFuel
  deriving DecidableEq

def kRTCP_SR : UInt8 := 200

def kRTCP_RR : UInt8 := 201

def kRTCP_SDES : UInt8 := 202

/-! ## Reading -/

/-- `data[i]`. -/
def byteAt (data : List UInt8) (i : ℕ) : Except Fault UInt8 :=
  match data[i]? with
  | some b => .ok b
  | none => .error .outside

/-- The four bytes from `i` as one number, the first the highest. -/
def wordAt (data : List UInt8) (i : ℕ) : Except Fault ℕ := do
  let b0 ← byteAt data i
  let b1 ← byteAt data (i + 1)
  let b2 ← byteAt data (i + 2)
  let b3 ← byteAt data (i + 3)
  return b0.toNat * 2 ^ 24 + b1.toNat * 2 ^ 16 + b2.toNat * 2 ^ 8 + b3.toNat

/-- The `n` bytes from `i`. -/
def bytesAt (data : List UInt8) (i n : ℕ) : Except Fault (List UInt8) :=
  if i + n ≤ data.length then .ok ((data.drop i).take n) else .error .outside

/-- The inner loop of `parseSDES`, over the items of one chunk of the packet at `off`. It answers
where the chunk ends, or nothing where the packet is malformed. -/
def sdesItems (data : List UInt8) (off pktBytes ssrc : ℕ) :
    ℕ → ℕ → List (ℕ × List UInt8) → Except Fault (Option ℕ × List (ℕ × List UInt8))
  | 0, _, _ => .error .outOfFuel
  | fuel + 1, p, cnames =>
    if p < pktBytes then do
      let type ← byteAt data (off + p)
      let p := p + 1
      if type = 0 then return (some p, cnames)
      else if p ≥ pktBytes then return (none, cnames)
      else
        let itemLen ← byteAt data (off + p)
        let p := p + 1
        if p + itemLen.toNat > pktBytes then return (none, cnames)
        else if type = 1 then
          let cname ← bytesAt data (off + p) itemLen.toNat
          sdesItems data off pktBytes ssrc fuel (p + itemLen.toNat) (cnames ++ [(ssrc, cname)])
        else sdesItems data off pktBytes ssrc fuel (p + itemLen.toNat) cnames
    else return (some p, cnames)

/-- The next boundary of four bytes. -/
def aligned (p : ℕ) : ℕ := (p + 3) / 4 * 4

/-- The outer loop of `parseSDES`, over the chunks of the packet at `off`. -/
def sdesChunks (data : List UInt8) (off pktBytes : ℕ) :
    ℕ → ℕ → List (ℕ × List UInt8) → Except Fault (List (ℕ × List UInt8))
  | 0, _, _ => .error .outOfFuel
  | fuel + 1, p, cnames =>
    if p + 4 ≤ pktBytes then do
      let ssrc ← wordAt data (off + p)
      match ← sdesItems data off pktBytes ssrc (pktBytes + 1) (p + 4) cnames with
      | (none, cnames) => return cnames
      | (some p, cnames) => sdesChunks data off pktBytes fuel (aligned p) cnames
    else return cnames

/-- `RTCPReceiverTable::parseSDES`, on the packet of `pktBytes` bytes at `off`. -/
def parseSDES (data : List UInt8) (off pktBytes : ℕ) (out : RTCPParseResult) :
    Except Fault RTCPParseResult := do
  let cnames ← sdesChunks data off pktBytes (pktBytes + 1) 4 out.cnames
  return { out with cnames := cnames }

/-- What a packet adds to the result. -/
def parsePacket (data : List UInt8) (off pktBytes : ℕ) (pt : UInt8) (out : RTCPParseResult) :
    Except Fault RTCPParseResult :=
  if pt = kRTCP_SR ∨ pt = kRTCP_RR then
    if pktBytes ≥ 8 then do
      let ssrc ← wordAt data (off + 4)
      return { out with reporterSSRCs := out.reporterSSRCs ++ [ssrc] }
    else return out
  else if pt = kRTCP_SDES then parseSDES data off pktBytes out
  else return out

/-- The loop of `parse`. -/
def parseLoop (data : List UInt8) :
    ℕ → ℕ → Bool → RTCPParseResult → Except Fault RTCPParseResult
  | 0, _, _, _ => .error .outOfFuel
  | fuel + 1, off, sawAny, out =>
    if off + 4 ≤ data.length then do
      let b0 ← byteAt data off
      if (b0 >>> 6) &&& 3 ≠ 2 then return { out with valid := false }
      else
        let pt ← byteAt data (off + 1)
        let hi ← byteAt data (off + 2)
        let lo ← byteAt data (off + 3)
        let pktBytes := (hi.toNat * 256 + lo.toNat + 1) * 4
        if off + pktBytes > data.length then return { out with valid := sawAny }
        else
          let out ← parsePacket data off pktBytes pt out
          parseLoop data fuel (off + pktBytes) true out
    else return { out with valid := sawAny }

/-- `RTCPReceiverTable::parse`. -/
def parse (data : List UInt8) : Except Fault RTCPParseResult :=
  parseLoop data (data.length + 1) 0 false {}

/-! ## Nothing outside the buffer -/

variable {data : List UInt8} {off pktBytes i n : ℕ} {out : RTCPParseResult}

theorem byteAt_ok (h : i < data.length) : byteAt data i = .ok data[i] := by
  rw [byteAt, List.getElem?_eq_getElem h]

theorem wordAt_ok (h : i + 4 ≤ data.length) : ∃ w, wordAt data i = .ok w := by
  rw [wordAt, byteAt_ok (show i < data.length by omega),
    byteAt_ok (show i + 1 < data.length by omega), byteAt_ok (show i + 2 < data.length by omega),
    byteAt_ok (show i + 3 < data.length by omega)]
  exact ⟨_, rfl⟩

theorem bytesAt_ok (h : i + n ≤ data.length) : bytesAt data i n = .ok ((data.drop i).take n) :=
  if_pos h

/-- The items of a chunk end, and where they end is no earlier than where they began. -/
theorem sdesItems_ok (h : off + pktBytes ≤ data.length) (ssrc fuel p : ℕ)
    (cnames : List (ℕ × List UInt8)) (hp : p ≤ pktBytes) (hf : pktBytes < fuel + p) :
    ∃ r, sdesItems data off pktBytes ssrc fuel p cnames = .ok r ∧ ∀ q ∈ r.1, p ≤ q := by
  induction fuel generalizing p cnames with
  | zero => omega
  | succ fuel ih =>
    rw [sdesItems]
    split_ifs with hlt
    · rw [byteAt_ok (show off + p < data.length by omega)]
      dsimp only [bind, Except.bind]
      by_cases htype : data[off + p] = 0
      · rw [if_pos htype]
        exact ⟨_, rfl, fun q hq => by cases hq; exact Nat.le_succ p⟩
      rw [if_neg htype]
      by_cases hend : p + 1 ≥ pktBytes
      · rw [if_pos hend]
        exact ⟨_, rfl, fun q hq => by cases hq⟩
      rw [if_neg hend, byteAt_ok (show off + (p + 1) < data.length by omega)]
      dsimp only
      by_cases hover : p + 1 + 1 + data[off + (p + 1)].toNat > pktBytes
      · rw [if_pos hover]
        exact ⟨_, rfl, fun q hq => by cases hq⟩
      rw [if_neg hover, bytesAt_ok (by omega)]
      have hnext : ∀ names, ∃ r, sdesItems data off pktBytes ssrc fuel
          (p + 1 + 1 + data[off + (p + 1)].toNat) names = .ok r ∧ ∀ q ∈ r.1, p ≤ q := by
        intro names
        obtain ⟨r, hr, hle⟩ := ih (p + 1 + 1 + data[off + (p + 1)].toNat) names (by omega) (by omega)
        exact ⟨r, hr, fun q hq => le_trans (by omega) (hle q hq)⟩
      split_ifs
      · exact hnext _
      · exact hnext _
    · exact ⟨_, rfl, fun q hq => by cases hq; exact le_refl p⟩

theorem le_aligned (p : ℕ) : p ≤ aligned p := by
  rw [aligned]
  omega

theorem sdesChunks_ok (h : off + pktBytes ≤ data.length) (fuel p : ℕ)
    (cnames : List (ℕ × List UInt8)) (h0 : 0 < fuel) (hf : pktBytes < fuel + p) :
    ∃ r, sdesChunks data off pktBytes fuel p cnames = .ok r := by
  induction fuel generalizing p cnames with
  | zero => exact absurd h0 (lt_irrefl 0)
  | succ fuel ih =>
    rw [sdesChunks]
    split_ifs with hp
    · obtain ⟨ssrc, hssrc⟩ := wordAt_ok (show off + p + 4 ≤ data.length by omega)
      obtain ⟨⟨q, names⟩, hitems, hle⟩ :=
        sdesItems_ok h ssrc (pktBytes + 1) (p + 4) cnames (by omega) (by omega)
      rw [hssrc]
      dsimp only [bind, Except.bind]
      rw [hitems]
      rcases q with _ | q
      · exact ⟨_, rfl⟩
      · have hq := (hle q rfl).trans (le_aligned q)
        exact ih (aligned q) names (by omega) (by omega)
    · exact ⟨_, rfl⟩

/-- **The description of sources is read within its packet.** -/
theorem parseSDES_ok (h : off + pktBytes ≤ data.length) (out : RTCPParseResult) :
    ∃ cnames, parseSDES data off pktBytes out = .ok { out with cnames := cnames } := by
  obtain ⟨cnames, hc⟩ := sdesChunks_ok h (pktBytes + 1) 4 out.cnames (by omega) (by omega)
  refine ⟨cnames, ?_⟩
  rw [parseSDES, hc]
  rfl

theorem parsePacket_ok (h : off + pktBytes ≤ data.length) (pt : UInt8) (out : RTCPParseResult) :
    ∃ r, parsePacket data off pktBytes pt out = .ok r := by
  rw [parsePacket]
  split_ifs with hr hlen hs
  · obtain ⟨ssrc, hssrc⟩ := wordAt_ok (show off + 4 + 4 ≤ data.length by omega)
    rw [hssrc]
    exact ⟨_, rfl⟩
  · exact ⟨_, rfl⟩
  · obtain ⟨cnames, hc⟩ := parseSDES_ok h out
    exact ⟨_, hc⟩
  · exact ⟨_, rfl⟩

/-! ## Packets -/

/-- The version of the packet a text of bytes starts with. -/
def versionOf : List UInt8 → Option UInt8
  | b0 :: _ => some ((b0 >>> 6) &&& 3)
  | [] => none

/-- The length the packet's own header tells. -/
def declared : List UInt8 → ℕ
  | _ :: _ :: hi :: lo :: _ => (hi.toNat * 256 + lo.toNat + 1) * 4
  | _ => 0

/-- A packet of version 2, as long as its header tells. -/
structure WellFormed (p : List UInt8) : Prop where
  version : versionOf p = some 2
  length : p.length = declared p
  header : 4 ≤ p.length

/-- One or more whole packets and nothing else. -/
def Compound (data : List UInt8) : Prop :=
  ∃ ps : List (List UInt8), ps ≠ [] ∧ (∀ p ∈ ps, WellFormed p) ∧ data = ps.flatten

/-- Less than a packet: too short for a header, or shorter than the header of version 2 tells. -/
def Short (rest : List UInt8) : Prop :=
  rest.length < 4 ∨ versionOf rest = some 2 ∧ rest.length < declared rest

/-- Whole packets, and then less than one. -/
def CutOff (data : List UInt8) : Prop :=
  ∃ (ps : List (List UInt8)) (rest : List UInt8), ps ≠ [] ∧ (∀ p ∈ ps, WellFormed p) ∧
    rest ≠ [] ∧ Short rest ∧ data = ps.flatten ++ rest

variable {p q rest rest' : List UInt8}

theorem declared_append (h : 4 ≤ p.length) (rest : List UInt8) :
    declared (p ++ rest) = declared p := by
  match p, h with
  | _ :: _ :: _ :: _ :: _, _ => rfl

theorem versionOf_append (h : 4 ≤ p.length) (rest : List UInt8) :
    versionOf (p ++ rest) = versionOf p := by
  match p, h with
  | _ :: _ :: _ :: _ :: _, _ => rfl

theorem four_le_declared (h : 4 ≤ p.length) : 4 ≤ declared p := by
  match p, h with
  | _ :: _ :: hi :: lo :: _, _ =>
    rw [declared]
    omega

/-- A whole packet is not the start of less than one. -/
theorem WellFormed.not_short (h : WellFormed p) (rest : List UInt8) : ¬ Short (p ++ rest) := by
  have hheader := h.header
  have hlength := h.length
  rw [Short, declared_append h.header, List.length_append]
  omega

/-- A whole packet is told from what follows it. -/
theorem WellFormed.unique (hp : WellFormed p) (hq : WellFormed q) (h : p ++ rest = q ++ rest') :
    p = q ∧ rest = rest' := by
  have hd : declared p = declared q := by
    rw [← declared_append hp.header rest, h, declared_append hq.header]
  exact List.append_inj h (by rw [hp.length, hq.length, hd])

/-- Nothing is both whole and cut off. -/
theorem CutOff.not_compound (h : CutOff data) : ¬ Compound data := by
  obtain ⟨ps, rest, -, hps, hne, hshort, rfl⟩ := h
  rintro ⟨qs, -, hqs, heq⟩
  induction ps generalizing qs with
  | nil =>
    rcases qs with _ | ⟨q, qs⟩
    · exact hne heq
    · have hq := hqs q List.mem_cons_self
      rw [List.flatten_nil, List.nil_append, List.flatten_cons] at heq
      exact hq.not_short qs.flatten (heq ▸ hshort)
  | cons p ps ih =>
    have hp := hps p List.mem_cons_self
    rw [List.flatten_cons, List.append_assoc] at heq
    rcases qs with _ | ⟨q, qs⟩
    · have hlen := congrArg List.length heq
      have hheader := hp.header
      rw [List.length_append, List.flatten_nil, List.length_nil] at hlen
      omega
    · rw [List.flatten_cons] at heq
      obtain ⟨-, htail⟩ := hp.unique (hqs q List.mem_cons_self) heq
      exact ih (fun p hp => hps p (List.mem_cons_of_mem _ hp)) qs
        (fun q hq => hqs q (List.mem_cons_of_mem _ hq)) htail

/-! ## The verdict -/

/-- What the loop takes for valid: whole packets, then less than one, and a packet before that or
among them. -/
def Ends (sawAny : Bool) (data : List UInt8) : Prop :=
  ∃ (ps : List (List UInt8)) (rest : List UInt8), (∀ p ∈ ps, WellFormed p) ∧
    data = ps.flatten ++ rest ∧ Short rest ∧ (sawAny = true ∨ ps ≠ [])

theorem ends_short {sawAny : Bool} (h : Short rest) : Ends sawAny rest ↔ sawAny = true := by
  constructor
  · rintro ⟨ps, tail, hps, rfl, -, hsaw⟩
    rcases ps with _ | ⟨p, ps⟩
    · exact hsaw.resolve_right fun hne => hne rfl
    · rw [List.flatten_cons, List.append_assoc] at h
      exact absurd h ((hps p List.mem_cons_self).not_short _)
  · exact fun hsaw => ⟨[], rest, by simp, rfl, h, Or.inl hsaw⟩

theorem not_ends {sawAny : Bool} (h : 4 ≤ rest.length) (hv : versionOf rest ≠ some 2) :
    ¬ Ends sawAny rest := by
  rintro ⟨ps, tail, hps, rfl, hshort, -⟩
  rcases ps with _ | ⟨p, ps⟩
  · rcases hshort with hlen | ⟨htwo, -⟩
    · rw [List.flatten_nil, List.nil_append] at h
      omega
    · exact hv htwo
  · have hp := hps p List.mem_cons_self
    rw [List.flatten_cons, List.append_assoc, versionOf_append hp.header] at hv
    exact hv hp.version

theorem ends_packet {sawAny : Bool} (hp : WellFormed p) :
    Ends sawAny (p ++ rest) ↔ Ends true rest := by
  constructor
  · rintro ⟨ps, tail, hps, heq, hshort, -⟩
    rcases ps with _ | ⟨q, ps⟩
    · rw [List.flatten_nil, List.nil_append] at heq
      exact absurd (heq ▸ hshort) (hp.not_short rest)
    · rw [List.flatten_cons, List.append_assoc] at heq
      obtain ⟨-, htail⟩ := hp.unique (hps q List.mem_cons_self) heq
      exact ⟨ps, tail, fun p hp => hps p (List.mem_cons_of_mem _ hp), htail, hshort, .inl rfl⟩
  · rintro ⟨ps, tail, hps, rfl, hshort, -⟩
    refine ⟨p :: ps, tail, fun q hq => ?_, by rw [List.flatten_cons, List.append_assoc], hshort,
      .inr (List.cons_ne_nil p ps)⟩
    rcases List.mem_cons.mp hq with rfl | hq
    · exact hp
    · exact hps q hq

theorem drop_header (h : off + 4 ≤ data.length) : data.drop off =
    data[off] :: data[off + 1] :: data[off + 2] :: data[off + 3] :: data.drop (off + 4) := by
  rw [List.drop_eq_getElem_cons (by omega), List.drop_eq_getElem_cons (by omega),
    List.drop_eq_getElem_cons (by omega), List.drop_eq_getElem_cons (by omega)]

/-- **The loop ends, reads nothing but the buffer, and takes what `Ends` for valid.** -/
theorem parseLoop_ok (fuel off : ℕ) (sawAny : Bool) (out : RTCPParseResult)
    (ho : off ≤ data.length) (hf : data.length < fuel + off) :
    ∃ r, parseLoop data fuel off sawAny out = .ok r ∧
      (r.valid = true ↔ Ends sawAny (data.drop off)) := by
  induction fuel generalizing off sawAny out with
  | zero => omega
  | succ fuel ih =>
    rw [parseLoop]
    by_cases h4 : off + 4 ≤ data.length
    · have hdrop := drop_header h4
      have hlen : 4 ≤ (data.drop off).length := by rw [List.length_drop]; omega
      have hversion : versionOf (data.drop off) = some ((data[off] >>> 6) &&& 3) := by
        rw [hdrop, versionOf]
      have hdeclared : declared (data.drop off) =
          (data[off + 2].toNat * 256 + data[off + 3].toNat + 1) * 4 := by
        rw [hdrop, declared]
      rw [if_pos h4, byteAt_ok (show off < data.length by omega)]
      dsimp only [bind, Except.bind]
      by_cases hv : (data[off] >>> 6) &&& 3 ≠ 2
      · rw [if_pos hv]
        refine ⟨_, rfl, iff_of_false (by simp) (not_ends hlen ?_)⟩
        rw [hversion]
        exact fun he => hv (Option.some.inj he)
      rw [if_neg hv, byteAt_ok (show off + 1 < data.length by omega),
        byteAt_ok (show off + 2 < data.length by omega),
        byteAt_ok (show off + 3 < data.length by omega)]
      dsimp only
      rw [not_ne_iff] at hv
      rw [hv] at hversion
      rw [← hdeclared]
      have hfour := four_le_declared hlen
      by_cases hover : off + declared (data.drop off) > data.length
      · rw [if_pos hover]
        refine ⟨_, rfl, (ends_short (.inr ⟨hversion, ?_⟩)).symm⟩
        rw [List.length_drop]
        omega
      rw [if_neg hover]
      have hin : off + declared (data.drop off) ≤ data.length := by omega
      obtain ⟨out', hout⟩ := parsePacket_ok hin data[off + 1] out
      rw [hout]
      obtain ⟨r, hr, hvalid⟩ := ih (off + declared (data.drop off)) true out' (by omega) (by omega)
      refine ⟨r, hr, hvalid.trans ?_⟩
      -- The packet is what its header tells of the rest.
      have hsplit := List.take_append_drop (declared (data.drop off)) (data.drop off)
      have htake : ((data.drop off).take (declared (data.drop off))).length =
          declared (data.drop off) := by
        rw [List.length_take, List.length_drop]
        omega
      rw [← List.drop_drop]
      generalize (data.drop off).take (declared (data.drop off)) = packet at hsplit htake
      generalize (data.drop off).drop (declared (data.drop off)) = rest at hsplit ⊢
      have hlong : 4 ≤ packet.length := by omega
      rw [← hsplit, versionOf_append hlong] at hversion
      rw [← hsplit, declared_append hlong] at htake
      rw [← hsplit]
      exact (ends_packet ⟨hversion, htake, hlong⟩).symm
    · rw [if_neg h4]
      refine ⟨_, rfl, (ends_short (.inl ?_)).symm⟩
      rw [List.length_drop]
      omega

theorem ends_iff : Ends false data ↔ Compound data ∨ CutOff data := by
  constructor
  · rintro ⟨ps, rest, hps, rfl, hshort, hsaw⟩
    have hne : ps ≠ [] := hsaw.resolve_left Bool.false_ne_true
    rcases rest with _ | ⟨b, rest⟩
    · exact .inl ⟨ps, hne, hps, List.append_nil _⟩
    · exact .inr ⟨ps, b :: rest, hne, hps, List.cons_ne_nil b rest, hshort, rfl⟩
  · rintro (⟨ps, hne, hps, rfl⟩ | ⟨ps, rest, hne, hps, -, hshort, rfl⟩)
    · exact ⟨ps, [], hps, (List.append_nil _).symm, .inl (by simp), .inr hne⟩
    · exact ⟨ps, rest, hps, rfl, hshort, .inr hne⟩

/-- The parser ends and reads nothing but the buffer, and its verdict is exact. -/
structure Sound (data : List UInt8) : Prop where
  parse : ∃ r, parse data = .ok r ∧ (r.valid = true ↔ Compound data)
  parseSDES : ∀ off pktBytes out, off + pktBytes ≤ data.length →
    ∃ r, parseSDES data off pktBytes out = .ok r

/-- **When the parser is sound.** It always ends and reads nothing but the buffer; its verdict is
exact just where the buffer does not cut off a packet behind whole ones. -/
theorem parse_sound_iff (data : List UInt8) : Sound data ↔ ¬ CutOff data := by
  obtain ⟨r, hr, hvalid⟩ := parseLoop_ok (data.length + 1) 0 false {} (Nat.zero_le data.length)
    (by omega)
  rw [List.drop_zero, ends_iff] at hvalid
  constructor
  · intro hs hcut
    obtain ⟨r', hr', hexact⟩ := hs.parse
    cases hr.symm.trans hr'
    exact hcut.not_compound (hexact.mp (hvalid.mpr (.inr hcut)))
  · intro hcut
    refine ⟨⟨r, hr, hvalid.trans (or_iff_left hcut)⟩, fun off pktBytes out h => ?_⟩
    obtain ⟨cnames, hc⟩ := parseSDES_ok h out
    exact ⟨_, hc⟩

/-- A receiver report, and the first byte of the next packet. -/
def oneAndABit : List UInt8 := [0x80, 201, 0, 1, 0xDE, 0xAD, 0xBE, 0xEF] ++ [0x80]

/-- **A compound packet cut off in its second packet is taken for valid.** -/
theorem oneAndABit_valid : (parse oneAndABit).map RTCPParseResult.valid = .ok true ∧
    ¬ Compound oneAndABit ∧ ¬ Sound oneAndABit := by
  have hcut : CutOff oneAndABit :=
    ⟨[[0x80, 201, 0, 1, 0xDE, 0xAD, 0xBE, 0xEF]], [0x80], by simp,
      fun p hp => by cases List.mem_singleton.mp hp; exact ⟨by decide, by decide, by decide⟩,
      by simp, .inl (by decide), rfl⟩
  have hvalid : (parse oneAndABit).map RTCPParseResult.valid = .ok true := by rfl
  refine ⟨hvalid, hcut.not_compound, fun hs => ?_⟩
  obtain ⟨r, hr, hexact⟩ := hs.parse
  rw [hr] at hvalid
  exact hcut.not_compound (hexact.mp (Except.ok.inj hvalid))

end RTCPReceiverTable

end Aes67
