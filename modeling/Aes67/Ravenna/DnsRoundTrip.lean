import Aes67.Ravenna.DnsBounds
import Aes67.Ravenna.DnsWritten

/-!
# What is announced is found

A response is a header and records one after another. `Tells` says what one written record is read
as, wherever it stands; the packet is then read record by record.

* `tells_record`: the header of a record, whatever its data;
* `tells_ptr`, `tells_srv`, `tells_txt`, `tells_a`: the four kinds;
* `readRecords_tells`: records in a row, by induction on them;
* **`announcement_found`**: an announcement is read back as the one service it is about, and a query
  as its one question.
-/

namespace Aes67.Ravenna.DnsSd

variable {packet wanted name bytes data : Octets} {length offset : ℕ} {report : Report}
  {session : SessionAdvertisement} {includeSubtype : Bool}

/-! ## One record -/

/-- Wherever the bytes stand they are one record, which says `report`. -/
def Tells (wanted bytes : Octets) (report : Report) : Prop :=
  ∀ packet offset, Holds packet offset bytes → offset + bytes.length ≤ packet.length →
    ∃ record, readRecord packet offset = .ok (some record) ∧
      record.stop = offset + bytes.length ∧
      readData packet wanted record.owner record.type record.data record.dataLength = .ok report

theorem length_putRecordHeader (name : Octets) (type : UInt16) (ttl : UInt32) (dataLength : UInt16)
    (cacheFlush : Bool) : (putRecordHeader name type ttl dataLength cacheFlush).length =
      (encodeName name).length + 10 := by
  simp [putRecordHeader]

/-- The header of a record is read back, with its data behind it. -/
theorem readRecord_header {type : UInt16} {ttl : UInt32} {dataLength : UInt16} {cacheFlush : Bool}
    (h : Holds packet offset (putRecordHeader name type ttl dataLength cacheFlush))
    (hl : offset + (encodeName name).length + 10 + dataLength.toNat ≤ packet.length) :
    readRecord packet offset = .ok (some ⟨offset, spelled (labelsOf name), type,
      offset + (encodeName name).length + 10, dataLength.toNat⟩) := by
  simp only [putRecordHeader, holds_append, List.length_append, length_put16, length_put32] at h
  obtain ⟨⟨⟨⟨hname, htype⟩, -⟩, -⟩, hlen⟩ := h
  rw [show offset + ((encodeName name).length + 2 + 2 + 4) =
    offset + (encodeName name).length + 8 by omega] at hlen
  rw [readRecord, readName_encodeName hname (by omega) (Nat.le_refl _), ok_bind]
  dsimp only
  rw [if_neg (by omega), readBE16_put16 htype (by omega), ok_bind, readBE16_put16 hlen (by omega),
    ok_bind]
  exact if_neg (Nat.not_lt_of_le hl)

/-- A record is read as what its data say. -/
theorem tells_record {type : UInt16} {ttl : UInt32} {dataLength : UInt16} {cacheFlush : Bool}
    (hn : data.length = dataLength.toNat)
    (hd : ∀ packet offset, Holds packet offset data → offset + data.length ≤ packet.length →
      readData packet wanted (spelled (labelsOf name)) type offset data.length = .ok report) :
    Tells wanted (putRecordHeader name type ttl dataLength cacheFlush ++ data) report := by
  intro packet offset h hl
  rw [holds_append, length_putRecordHeader, ← Nat.add_assoc] at h
  rw [List.length_append, length_putRecordHeader] at hl
  refine ⟨_, readRecord_header h.1 (by omega), ?_, ?_⟩
  · rw [Record.stop, List.length_append, length_putRecordHeader]
    dsimp only
    omega
  · dsimp only
    rw [← hn]
    exact hd packet _ h.2 (by omega)

/-- A length that fits into 16 bits. -/
theorem toNat_length {s : Octets} (h : s.length < 65536) : s.length = (UInt16.ofNat s.length).toNat :=
  (UInt16.toNat_ofNat_of_lt' h).symm

/-- A PTR of the type asked for names its instance, any other says nothing. -/
theorem tells_ptr (wanted name : Octets) {inst : Octets} (ttl : UInt32) (hi : (encodeName inst).length < 65536)
    (hne : spelled (labelsOf inst) ≠ []) :
    Tells wanted (putRecordHeader name kTypePTR ttl (.ofNat (encodeName inst).length) false ++
      encodeName inst)
      (if spelled (labelsOf name) = wanted then .named (spelled (labelsOf inst)) else .nothing) := by
  refine tells_record (toNat_length hi) fun packet offset h hl => ?_
  rw [readData]
  by_cases hw : spelled (labelsOf name) = wanted
  · rw [if_pos ⟨rfl, hw⟩, if_pos hw, readName_encodeName h hl (Nat.le_refl _), ok_bind]
    dsimp only
    rw [if_neg hne]
    rfl
  · rw [if_neg fun h => hw h.2, if_neg hw, if_neg fun h => absurd h.1 (by decide),
      if_neg (by decide), if_neg fun h => absurd h.1 (by decide)]
    rfl

theorem tells_srv {host : Octets} (ttl : UInt32) (port : UInt16)
    (hh : 6 + (encodeName host).length < 65536) :
    Tells wanted (putRecordHeader name kTypeSRV ttl (.ofNat (6 + (encodeName host).length)) true ++
      (put16 0 ++ put16 0 ++ put16 port ++ encodeName host))
      (.target (spelled (labelsOf name)) (spelled (labelsOf host)) port) := by
  have hlen : (put16 0 ++ put16 0 ++ put16 port ++ encodeName host).length =
      6 + (encodeName host).length := by
    simp only [List.length_append, length_put16]
  refine tells_record (hlen.trans (UInt16.toNat_ofNat_of_lt' hh).symm) fun packet offset h hl => ?_
  simp only [holds_append, List.length_append, length_put16] at h
  obtain ⟨⟨-, hport⟩, hname⟩ := h
  rw [hlen] at hl ⊢
  rw [readData, if_neg fun h => absurd h.1 (by decide), if_pos ⟨rfl, by omega⟩,
    readName_encodeName hname (by omega) hl, ok_bind]
  dsimp only
  rw [readBE16_put16 hport (by omega)]
  rfl

/-- The strings of a TXT record. -/
theorem readTexts_encoded {stop : ℕ} {entries : List Octets}
    (he : ∀ e ∈ entries, 0 < e.length ∧ e.length ≤ 255) (hs : stop ≤ packet.length) :
    ∀ fuel i : ℕ, Holds packet i (entries.flatMap fun e => .ofNat (min e.length 255) :: e.take 255) →
      i + (entries.flatMap fun e => .ofNat (min e.length 255) :: e.take 255).length = stop →
      stop - i < fuel → readTexts packet packet.length stop fuel i = .ok entries := by
  induction entries with
  | nil =>
    rintro (_ | fuel) i - rfl hf
    · exact absurd hf (Nat.not_lt_zero _)
    · rw [readTexts, if_neg (by simp)]
      rfl
  | cons e entries ih =>
    intro fuel i h hl hf
    obtain ⟨hpos, hle⟩ := he e List.mem_cons_self
    rw [List.flatMap_cons, Nat.min_eq_left hle, List.take_of_length_le hle] at h hl
    rw [List.cons_append, holds_cons, holds_append] at h
    rw [List.length_append, List.length_cons] at hl
    have hb : (UInt8.ofNat e.length).toNat = e.length :=
      UInt8.toNat_ofNat_of_lt' (Nat.lt_of_le_of_lt hle (by decide))
    rcases fuel with _ | fuel
    · exact absurd hf (Nat.not_lt_zero _)
    rw [readTexts, if_pos (by omega), byteAt_eq h.1 (by omega), ok_bind, hb, if_neg (by omega),
      bytesAt_eq h.2.1 (by omega), ok_bind,
      ih (fun e he' => he e (List.mem_cons_of_mem _ he')) fuel _ h.2.2 (by omega) (by omega), ok_bind,
      if_pos (by rw [gt_iff_lt, UInt8.lt_iff_toNat_lt, hb]; exact hpos)]
    rfl

theorem tells_txt {entries : List Octets} (ttl : UInt32)
    (he : ∀ e ∈ entries, 0 < e.length ∧ e.length ≤ 255) (ht : (encodeTxt entries).length < 65536) :
    Tells wanted (putRecordHeader name kTypeTXT ttl (.ofNat (encodeTxt entries).length) true ++
      encodeTxt entries) (.texts (spelled (labelsOf name)) entries) := by
  refine tells_record (toNat_length ht) fun packet offset h hl => ?_
  rw [readData, if_neg fun h => absurd h.1 (by decide), if_neg fun h => absurd h.1 (by decide),
    if_pos rfl]
  have htexts : readTexts packet packet.length (offset + (encodeTxt entries).length)
      ((encodeTxt entries).length + 1) offset = .ok entries := by
    rcases entries with _ | ⟨e, entries⟩
    · have hb := (holds_cons.mp h).1
      simp only [encodeTxt, if_pos, List.length_singleton] at hl ⊢
      rw [readTexts, if_pos (by omega), byteAt_eq hb (by omega), ok_bind, if_neg (by simp)]
      rw [show (0 : UInt8).toNat = 0 from rfl, bytesAt, ok_bind, readTexts, if_neg (by omega)]
      rfl
    · rw [encodeTxt, if_neg (List.cons_ne_nil _ _)] at h hl ⊢
      exact readTexts_encoded he hl _ _ h rfl (by omega)
  rw [htexts]
  rfl

theorem tells_a (ttl : UInt32) (address : UInt32) :
    Tells wanted (putRecordHeader name kTypeA ttl 4 true ++ put32 address)
      (.address (spelled (labelsOf name)) address) := by
  refine tells_record rfl fun packet offset h hl => ?_
  rw [length_put32] at hl ⊢
  rw [readData, if_neg fun h => absurd h.1 (by decide), if_neg fun h => absurd h.1 (by decide),
    if_neg (by decide), if_pos ⟨rfl, rfl⟩, readBE32_put32 h (by omega)]
  rfl

/-! ## Records in a row -/

/-- **Records one after another** are read one after another. -/
theorem readRecords_tells {told : List (Octets × Report)} (ht : ∀ e ∈ told, Tells wanted e.1 e.2) :
    ∀ {offset : ℕ}, Holds packet offset (told.flatMap Prod.fst) →
      offset + (told.flatMap Prod.fst).length ≤ packet.length →
      ∃ records, readRecords packet wanted told.length offset = .ok records ∧
        records.map Prod.snd = told.map Prod.snd := by
  induction told with
  | nil => exact fun _ _ => ⟨[], rfl, rfl⟩
  | cons e told ih =>
    intro offset h hl
    rw [List.flatMap_cons, holds_append] at h
    rw [List.flatMap_cons, List.length_append] at hl
    obtain ⟨record, hrecord, hstop, hdata⟩ := ht e List.mem_cons_self packet offset h.1 (by omega)
    obtain ⟨records, hrecords, hmap⟩ := ih (fun e' he => ht e' (List.mem_cons_of_mem _ he)) h.2
      (by omega)
    refine ⟨(record, e.2) :: records, ?_, congrArg _ hmap⟩
    rw [List.length_cons, readRecords, hrecord, ok_bind]
    dsimp only
    rw [hdata, ok_bind, hstop, hrecords]
    rfl

/-- A packet that was built is a response, with as many records as it was given. -/
theorem recordsOf_buildPacket (records serviceType : Octets) (count : UInt16) :
    recordsOf (buildPacket records count) serviceType =
        readRecords (buildPacket records count) (serviceType.map lower) count.toNat 12 ∧
      Holds (buildPacket records count) 12 records ∧
      (buildPacket records count).length = 12 + records.length := by
  obtain ⟨packet, hp⟩ : ∃ packet, packet = buildPacket records count := ⟨_, rfl⟩
  have hall : Holds packet 0 (buildPacket records count) :=
    holds_of_eq (s := []) (t := []) (by rw [hp, List.nil_append, List.append_nil])
  have hlen : packet.length = 12 + records.length := by
    rw [hp]
    simp only [buildPacket, List.length_append, length_put16]
  simp only [buildPacket, holds_append, List.length_append, length_put16] at hall
  obtain ⟨⟨⟨⟨⟨⟨-, hflags⟩, hq⟩, han⟩, hau⟩, had⟩, hrecords⟩ := hall
  rw [← hp]
  refine ⟨?_, hrecords, hlen⟩
  rw [recordsOf, if_neg (by omega), readBE16_put16 hflags (by omega), ok_bind, if_neg (by decide),
    readBE16_put16 hq (by omega), ok_bind, readBE16_put16 han (by omega), ok_bind,
    readBE16_put16 hau (by omega), ok_bind, readBE16_put16 had (by omega), ok_bind]
  rfl

/-- A response with these records says what they say. -/
theorem parse_buildPacket {serviceType : Octets} {count : UInt16} {told : List (Octets × Report)}
    (ht : ∀ e ∈ told, Tells (serviceType.map lower) e.1 e.2) (hc : count.toNat = told.length) :
    parseServiceResponse (buildPacket (told.flatMap Prod.fst) count) serviceType =
      .ok ((told.map Prod.snd).foldl Gathered.add {}).found := by
  obtain ⟨hof, hrecords, hlen⟩ := recordsOf_buildPacket (told.flatMap Prod.fst) serviceType count
  obtain ⟨records, hread, hmap⟩ := readRecords_tells ht hrecords (Nat.le_of_eq hlen.symm)
  rw [parseServiceResponse, hof, hc, hread, ok_bind, ← hmap, List.foldl_map]
  rfl

/-! ## An announcement -/

/-- The session's names are non-empty labels of at most 63 bytes with dots between them, and its TXT
record is one that can be written. -/
structure Proper (session : SessionAdvertisement) : Prop where
  inst : Dotted session.instanceName
  type : Dotted session.serviceType
  host : Dotted session.hostName
  entries : ∀ e ∈ session.txtEntries, 0 < e.length ∧ e.length ≤ 255
  txt : (encodeTxt session.txtEntries).length ≤ 65535

/-- The service a session is announced as. -/
def announced (session : SessionAdvertisement) : DiscoveredService where
  instanceName := (instanceFqdn session).map lower
  hostName := session.hostName.map lower
  port := session.port
  addressV4 := session.addressV4
  txtEntries := session.txtEntries

/-- The records of a session, each with what it says. -/
def told (session : SessionAdvertisement) (includeSubtype : Bool) (serviceTtl hostTtl : UInt32) :
    List (Octets × Report) :=
  let inst := instanceFqdn session
  let host := session.hostName
  let length : UInt16 := .ofNat (encodeName inst).length
  let txt := encodeTxt session.txtEntries
  [(putRecordHeader session.serviceType kTypePTR serviceTtl length false ++ encodeName inst,
    Report.named (inst.map lower))] ++
  (if includeSubtype ∧ session.subtype ≠ [] then
    [(putRecordHeader session.subtype kTypePTR serviceTtl length false ++ encodeName inst, Report.nothing)]
  else []) ++
  [(putRecordHeader inst kTypeSRV hostTtl (.ofNat (6 + (encodeName host).length)) true ++
      (put16 0 ++ put16 0 ++ put16 session.port ++ encodeName host),
      Report.target (inst.map lower) (host.map lower) session.port),
    (putRecordHeader inst kTypeTXT serviceTtl (.ofNat txt.length) true ++ txt,
      .texts (inst.map lower) session.txtEntries),
    (putRecordHeader host kTypeA hostTtl 4 true ++ put32 session.addressV4,
      .address (host.map lower) session.addressV4)]

theorem buildRecords_eq (session : SessionAdvertisement) (includeSubtype : Bool)
    (serviceTtl hostTtl : UInt32) : buildRecords session includeSubtype serviceTtl hostTtl =
      (told session includeSubtype serviceTtl hostTtl).flatMap Prod.fst := by
  rw [buildRecords, told]
  split_ifs <;> simp

theorem answerCountFor_eq (session : SessionAdvertisement) (includeSubtype : Bool)
    (serviceTtl hostTtl : UInt32) : (answerCountFor session includeSubtype).toNat =
      (told session includeSubtype serviceTtl hostTtl).length := by
  rw [answerCountFor, told]
  split_ifs <;> rfl

theorem tells_told (hs : Proper session) (hi : (encodeName (instanceFqdn session)).length ≤ 65535)
    (hh : 6 + (encodeName session.hostName).length ≤ 65535)
    (hsub : includeSubtype = true →
      spelled (labelsOf session.subtype) ≠ session.serviceType.map lower)
    (serviceTtl hostTtl : UInt32) : ∀ e ∈ told session includeSubtype serviceTtl hostTtl,
      Tells (session.serviceType.map lower) e.1 e.2 := by
  have hinst : Dotted (instanceFqdn session) := hs.inst.append hs.type
  have hname := spelled_of_dotted hinst
  have hhost := spelled_of_dotted hs.host
  have hne : spelled (labelsOf (instanceFqdn session)) ≠ [] := by
    rw [hname]
    exact fun h => hinst.ne_nil (List.map_eq_nil_iff.mp h)
  intro e he
  simp only [told, List.mem_append, List.mem_cons, List.not_mem_nil, or_false] at he
  rcases he with (rfl | he) | rfl | rfl | rfl
  · have := tells_ptr (session.serviceType.map lower) session.serviceType serviceTtl
      (Nat.lt_succ_of_le hi) hne
    rwa [if_pos (spelled_of_dotted hs.type), hname] at this
  · split_ifs at he with hinc
    · rw [List.mem_singleton] at he
      subst he
      have := tells_ptr (session.serviceType.map lower) session.subtype serviceTtl
        (Nat.lt_succ_of_le hi) hne
      rwa [if_neg (hsub hinc.1)] at this
    · exact absurd he List.not_mem_nil
  · rw [← hname, ← hhost]
    exact tells_srv hostTtl session.port (Nat.lt_succ_of_le hh)
  · rw [← hname]
    exact tells_txt serviceTtl hs.entries (Nat.lt_succ_of_le hs.txt)
  · rw [← hhost]
    exact tells_a hostTtl session.addressV4

/-- What the records of a session come to. -/
theorem found_told (session : SessionAdvertisement) (includeSubtype : Bool)
    (serviceTtl hostTtl : UInt32) :
    (((told session includeSubtype serviceTtl hostTtl).map Prod.snd).foldl Gathered.add {}).found =
      [announced session] := by
  rw [told]
  split_ifs <;> simp [Gathered.add, owned, Gathered.found, Gathered.serviceOf, announced]

/-! ## A query -/

theorem questionName_eq {labels : List Octets} (hs : ∀ w ∈ labels, Short w) :
    ∀ {fuel offset : ℕ} {name : Octets}, Holds packet offset (encodeLabels labels ++ [0]) →
      offset + (encodeLabels labels).length < packet.length → packet.length - offset < fuel →
      questionName packet fuel offset name = .ok (some
        (labels.foldl addLabel name, offset + (encodeLabels labels).length + 1)) := by
  induction labels with
  | nil =>
    rintro (_ | fuel) offset name h hl hf
    · exact absurd hf (Nat.not_lt_zero _)
    have hi : offset < packet.length := hl
    rw [questionName, if_pos hi, byteAt_eq (holds_cons.mp h).1 hi, ok_bind, if_pos rfl]
    rfl
  | cons w labels ih =>
    rintro (_ | fuel) offset name h hl hf
    · exact absurd hf (Nat.not_lt_zero _)
    obtain ⟨hne, hlt⟩ := hs w List.mem_cons_self
    have hpos := List.length_pos_iff.mpr hne
    have hb : (UInt8.ofNat w.length).toNat = w.length :=
      UInt8.toNat_ofNat_of_lt' (Nat.lt_trans hlt (by decide))
    have h0 : UInt8.ofNat w.length ≠ 0 := by
      intro h0
      rw [h0] at hb
      exact absurd hb (Nat.ne_of_lt hpos)
    have hsmall : UInt8.ofNat w.length &&& 0xC0 = 0 := label_small.mpr (by omega)
    rw [encodeLabels, List.flatMap_cons, ← encodeLabels] at h hl ⊢
    rw [List.length_append, List.length_cons] at hl ⊢
    rw [List.append_assoc, List.cons_append, holds_cons, holds_append] at h
    rw [questionName, if_pos (by omega), byteAt_eq h.1 (by omega), ok_bind, if_neg h0,
      if_neg (not_not.mpr hsmall), hb, if_neg (by omega), bytesAt_eq h.2.1 (by omega), ok_bind,
      ih (fun v hv => hs v (List.mem_cons_of_mem _ hv)) h.2.2 (by omega) (by omega),
      List.foldl_cons, show offset + 1 + w.length + (encodeLabels labels).length + 1 =
        offset + (w.length + 1 + (encodeLabels labels).length) + 1 by omega]

/-- A query is read as its one question. -/
theorem parseQueryNames_buildQuery {type : Octets} (h : Dotted type) :
    parseQueryNames (buildQuery type) = .ok [type.map lower] := by
  obtain ⟨packet, hp⟩ : ∃ packet, packet = buildQuery type := ⟨_, rfl⟩
  have hall : Holds packet 0 (buildQuery type) :=
    holds_of_eq (s := []) (t := []) (by rw [hp, List.nil_append, List.append_nil])
  rw [buildQuery, encodeName_eq] at hp hall
  have hlen : packet.length = 12 + ((encodeLabels (labelsOf type)).length + 1) + 4 := by
    rw [hp]
    simp only [List.length_append, List.length_cons, List.length_nil]
  rw [holds_append, holds_append] at hall
  obtain ⟨⟨hhead, hname⟩, -⟩ := hall
  have hflags : Holds packet 2 (put16 0) := by
    simp only [holds_cons] at hhead
    exact holds_cons.mpr ⟨hhead.2.2.1, holds_cons.mpr ⟨hhead.2.2.2.1, holds_nil⟩⟩
  have hcount : Holds packet 4 (put16 1) := by
    simp only [holds_cons] at hhead
    exact holds_cons.mpr ⟨hhead.2.2.2.2.1, holds_cons.mpr ⟨hhead.2.2.2.2.2.1, holds_nil⟩⟩
  have hne : type.map lower ≠ [] := fun hn => h.ne_nil (List.map_eq_nil_iff.mp hn)
  have hquestion : questionName packet (packet.length + 1) 12 [] = .ok (some
      (type.map lower, 12 + (encodeLabels (labelsOf type)).length + 1)) := by
    rw [← spelled_of_dotted h]
    exact questionName_eq (fun w => short_of_mem) hname (by omega) (by omega)
  rw [buildQuery, encodeName_eq, ← hp, parseQueryNames, if_neg (by omega),
    readBE16_put16 hflags (by omega), ok_bind, if_neg (by decide), readBE16_put16 hcount (by omega),
    ok_bind]
  show questions packet 1 12 [] = _
  rw [questions, hquestion, ok_bind]
  dsimp only
  rw [if_neg (by omega), if_neg hne]
  rfl

/-! ## Read back -/

/-- **What is announced is found**, as the one service it is about, where no subtype that is written
is read as the service's own type and the two lengths fit. What is asked is read as asked. -/
theorem announcement_found (hs : Proper session)
    (hi : (encodeName (instanceFqdn session)).length ≤ 65535)
    (hh : 6 + (encodeName session.hostName).length ≤ 65535)
    (hsub : includeSubtype = true →
      spelled (labelsOf session.subtype) ≠ session.serviceType.map lower) :
    parseServiceResponse (buildAnnouncement session includeSubtype) session.serviceType =
        .ok [announced session] ∧
      ∀ type, Dotted type → parseQueryNames (buildQuery type) = .ok [type.map lower] := by
  refine ⟨?_, fun type => parseQueryNames_buildQuery⟩
  rw [buildAnnouncement, buildRecords_eq,
    parse_buildPacket (tells_told hs hi hh hsub _ _) (answerCountFor_eq session includeSubtype _ _),
    found_told]

instance : DecidablePred Short := fun _ => inferInstanceAs (Decidable (_ ∧ _))

/-- A box with two texts. -/
def aBox : SessionAdvertisement where
  instanceName := octets "Box"
  hostName := octets "Box.local"
  port := 554
  addressV4 := 0xC0A80001
  txtEntries := [octets "a=1", octets "b"]

theorem aBox_proper : Proper aBox where
  inst := ⟨octets "Box", [], by decide, by decide⟩
  type := ⟨octets "_rtsp", [octets "_tcp", octets "local"], by decide, by decide⟩
  host := ⟨octets "Box", [octets "local"], by decide, by decide⟩
  entries := by decide
  txt := by decide

theorem aBox_found :
    parseServiceResponse (buildAnnouncement aBox true) aBox.serviceType = .ok [announced aBox] ∧
      ∀ type, Dotted type → parseQueryNames (buildQuery type) = .ok [type.map lower] :=
  announcement_found aBox_proper (by decide) (by decide) (by decide)

/-! ## Read otherwise -/

/-- A subtype that is written as the service type. -/
def aliased : SessionAdvertisement where
  instanceName := octets "a"
  hostName := octets "h"
  serviceType := octets "b"
  subtype := octets "b."

/-- A host name whose SRV record has a length past 16 bits. -/
def farHost : SessionAdvertisement where
  instanceName := octets "a"
  hostName := .replicate 60 97 ++ (List.replicate 1023 (List.replicate 63 97)).flatMap (kDot :: ·)
  serviceType := octets "b"
  port := 0xFFFF

theorem farHost_labels : ∀ v ∈ List.replicate 60 97 :: List.replicate 1023 (List.replicate 63 97),
    Short v ∧ kDot ∉ v := by
  intro v hv
  rcases List.mem_cons.mp hv with rfl | hv
  · decide
  · rw [List.eq_of_mem_replicate hv]
    decide

theorem length_encodeLabels_replicate (n : ℕ) (v : Octets) :
    (encodeLabels (.replicate n v)).length = n * (v.length + 1) := by
  induction n with
  | zero => rw [Nat.zero_mul]; rfl
  | succ n ih =>
    rw [List.replicate_succ, encodeLabels, List.flatMap_cons, ← encodeLabels, List.length_append,
      List.length_cons, ih, Nat.succ_mul, Nat.add_comm]

theorem farHost_length : (encodeName farHost.hostName).length = 65534 := by
  rw [encodeName_eq, farHost, labelsOf_of_dotted farHost_labels, encodeLabels, List.flatMap_cons,
    ← encodeLabels, List.length_append, List.length_append, length_encodeLabels_replicate,
    List.length_cons, List.length_replicate, List.length_replicate, List.length_singleton]

/-- Where a name would stand, a pointer forwards: there is none. -/
theorem readName_forwards {high low : UInt8} (hh : packet[offset]? = some high)
    (hp : high &&& 0xC0 = 0xC0) (hl : packet[offset + 1]? = some low)
    (ht : offset ≤ target high low) : readName packet packet.length offset = .ok none := by
  have hi : offset + 1 < packet.length := (List.getElem?_eq_some_iff.mp hl).1
  rw [readName, fuelFor, Nat.mul_succ, readLabels, if_pos (by dsimp only; omega),
    byteAt_eq hh (by omega), ok_bind, if_pos hp, if_neg (by dsimp only; omega), byteAt_eq hl hi,
    ok_bind]
  exact if_pos ht

/-- The SRV record's length is read as 4: it says nothing, and what follows it is no record. -/
theorem farHost_parsed :
    parseServiceResponse (buildAnnouncement farHost false) farHost.serviceType =
      .ok [{ instanceName := octets "a.b" }] := by
  obtain ⟨hof, hrecords, hlen⟩ := recordsOf_buildPacket
    (buildRecords farHost false kServiceRecordTtl kHostRecordTtl) farHost.serviceType
    (answerCountFor farHost false)
  obtain ⟨packet, hp⟩ : ∃ packet, packet = buildAnnouncement farHost false := ⟨_, rfl⟩
  have htype : (encodeName farHost.serviceType).length = 3 := by decide
  have hinst : (encodeName (instanceFqdn farHost)).length = 5 := by decide
  rw [← buildAnnouncement, ← hp] at hof hrecords hlen
  rw [buildRecords_eq, told, if_neg (by decide)] at hrecords hlen
  simp only [List.append_nil, List.singleton_append, List.flatMap_cons, holds_append,
    List.length_append, length_putRecordHeader, farHost_length, length_put16, htype, hinst]
    at hrecords hlen
  obtain ⟨hptr, ⟨hheader, ⟨-, hport⟩, -⟩, -⟩ := hrecords
  have hnamed : readRecord packet 12 =
      .ok (some ⟨12, octets "b", kTypePTR, 25, 5⟩) := readRecord_header hptr.1 (by
    rw [htype, show (UInt16.ofNat 5).toNat = 5 by decide]
    omega)
  have hsrv : readRecord packet 30 = .ok (some ⟨30, octets "a.b", kTypeSRV, 45, 4⟩) :=
    readRecord_header hheader (by
      rw [hinst, show (UInt16.ofNat (6 + 65534)).toNat = 4 by decide]
      omega)
  have hnone : readRecord packet 49 = .ok none := by
    rw [readRecord, readName_forwards (holds_cons.mp hport).1 (by decide)
      (holds_cons.mp (holds_cons.mp hport).2).1 (by decide), ok_bind]
    rfl
  have hname : readData packet (octets "b") (octets "b") kTypePTR 25 5 =
      .ok (.named (octets "a.b")) := by
    rw [readData, if_pos ⟨rfl, rfl⟩, readName_encodeName hptr.2 (by omega) (Nat.le_refl _)]
    rfl
  have hnothing : readData packet (octets "b") (octets "a.b") kTypeSRV 45 4 = .ok .nothing := by
    rw [readData, if_neg (by decide), if_neg (by decide), if_neg (by decide), if_neg (by decide)]
    rfl
  have hread : readRecords packet (octets "b") 4 12 =
      .ok [(⟨12, octets "b", kTypePTR, 25, 5⟩, .named (octets "a.b")),
        (⟨30, octets "a.b", kTypeSRV, 45, 4⟩, .nothing)] := by
    rw [readRecords, hnamed, ok_bind]
    dsimp only
    rw [hname, ok_bind, show (⟨12, octets "b", kTypePTR, 25, 5⟩ : Record).stop = 30 from rfl,
      readRecords, hsrv, ok_bind]
    dsimp only
    rw [hnothing, ok_bind, show (⟨30, octets "a.b", kTypeSRV, 45, 4⟩ : Record).stop = 49 from rfl,
      readRecords, hnone]
    rfl
  rw [← hp, parseServiceResponse, hof]
  show (do let records ← readRecords packet (octets "b") 4 12; _) = _
  rw [hread]
  rfl

/-- **Some proper sessions are read otherwise**: one whose subtype differs from its type and is
written as it is, which is found twice, and one with a host name of 65534 bytes, whose host, port,
texts and address are not found. -/
theorem read_otherwise :
    (Proper aliased ∧ aliased.subtype.map lower ≠ aliased.serviceType.map lower ∧
      parseServiceResponse (buildAnnouncement aliased true) aliased.serviceType =
        .ok [announced aliased, announced aliased]) ∧
    (Proper farHost ∧ farHost.subtype.map lower ≠ farHost.serviceType.map lower ∧
      parseServiceResponse (buildAnnouncement farHost false) farHost.serviceType ≠
        .ok [announced farHost]) := by
  refine ⟨⟨⟨⟨octets "a", [], by decide, by decide⟩, ⟨octets "b", [], by decide, by decide⟩,
      ⟨octets "h", [], by decide, by decide⟩, by decide, by decide⟩, by decide, by decide⟩,
    ⟨⟨octets "a", [], by decide, by decide⟩, ⟨octets "b", [], by decide, by decide⟩,
      ⟨_, _, farHost_labels, rfl⟩, by decide, by decide⟩, by decide, ?_⟩
  rw [farHost_parsed]
  intro h
  have hport := congrArg (List.map DiscoveredService.port) (Except.ok.inj h)
  exact absurd hport (by decide)

end Aes67.Ravenna.DnsSd
