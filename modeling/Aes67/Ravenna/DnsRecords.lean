import Aes67.Ravenna.DnsBounds

/-!
# What a record gives away

A response comes off an open network, and what is reported from a record should not depend on bytes
behind it. Every value a service has comes from a record that said it, so the records are looked at
one by one, in any packet with the same bytes up to the record's end.

* `Sourced`, `sourced_add`: a service's values and the records they come from;
* `Kept`: what a record says whatever stands behind it;
* `Inside`: the record's own name, and the instance a PTR names, are spelled below its end;
* `readTexts_congr` and the like: a read below an index sees nothing behind it;
* **`reveals_iff`**: the records are kept just where their names are inside. An SRV's host, a TXT's
  strings and an A's address are; a PTR's instance may not be, nor a record's own name.
-/

namespace Aes67.Ravenna.DnsSd

variable {packet other wanted owner : Octets} {length offset stop n : ℕ} {record : Record}
  {report : Report} {reports : List Report}

/-! ## Where values come from -/

/-- The records that say a service's values; a value none says is the default. -/
structure Sourced (reports : List Report) (s : DiscoveredService) : Prop where
  named : .named s.instanceName ∈ reports
  target : .target s.instanceName s.hostName s.port ∈ reports ∨ s.hostName = [] ∧ s.port = 0
  texts : ∀ t ∈ s.txtEntries, ∃ entries, .texts s.instanceName entries ∈ reports ∧ t ∈ entries
  address : .address s.hostName s.addressV4 ∈ reports ∨ s.addressV4 = 0

/-- A service gathered under its owner's name, before it has an address. -/
structure Gathering (reports : List Report) (e : Octets × DiscoveredService) : Prop where
  owner : e.2.instanceName = e.1
  target : .target e.1 e.2.hostName e.2.port ∈ reports ∨ e.2.hostName = [] ∧ e.2.port = 0
  texts : ∀ t ∈ e.2.txtEntries, ∃ entries, .texts e.1 entries ∈ reports ∧ t ∈ entries
  address : e.2.addressV4 = 0

/-- All that is collected has been said. -/
structure Said (reports : List Report) (g : Gathered) : Prop where
  instances : ∀ name ∈ g.instances, .named name ∈ reports
  byOwner : ∀ e ∈ g.byOwner, Gathering reports e
  addresses : ∀ e ∈ g.addresses, .address e.1 e.2 ∈ reports

theorem Gathering.mono {reports' : List Report} (h : reports ⊆ reports')
    {e : Octets × DiscoveredService} (he : Gathering reports e) : Gathering reports' e where
  owner := he.owner
  target := he.target.imp_left fun ht => h ht
  texts := fun t ht => (he.texts t ht).imp fun _ hx => ⟨h hx.1, hx.2⟩
  address := he.address

theorem gathering_owned {f : DiscoveredService → DiscoveredService}
    {l : List (Octets × DiscoveredService)} (hl : ∀ e ∈ l, Gathering reports e)
    (hf : ∀ s, Gathering reports (owner, s) → Gathering reports (owner, f s)) :
    ∀ e ∈ owned owner f l, Gathering reports e := by
  induction l with
  | nil =>
    intro e he
    rw [owned, List.mem_singleton] at he
    subst he
    exact hf _ ⟨rfl, Or.inr ⟨rfl, rfl⟩, nofun, rfl⟩
  | cons a l ih =>
    obtain ⟨ha, hl⟩ := List.forall_mem_cons.mp hl
    rw [owned]
    split_ifs with h
    · exact List.forall_mem_cons.mpr ⟨h ▸ hf _ (h ▸ ha), hl⟩
    · exact List.forall_mem_cons.mpr ⟨ha, ih hl⟩

/-- One more record. -/
theorem said_add {g : Gathered} (hg : Said reports g) (report : Report) :
    Said (reports ++ [report]) (g.add report) := by
  have hsub : reports ⊆ reports ++ [report] := List.subset_append_left _ _
  have hnew : report ∈ reports ++ [report] := List.mem_append_right _ (List.mem_singleton_self _)
  have hold : ∀ e ∈ g.byOwner, Gathering (reports ++ [report]) e := fun e he =>
    (hg.byOwner e he).mono hsub
  refine ⟨?_, ?_, ?_⟩
  · intro name hn
    cases report with
    | named inst =>
      rcases List.mem_append.mp hn with hn | hn
      · exact hsub (hg.instances name hn)
      · rw [List.mem_singleton.mp hn]
        exact hnew
    | target | texts | address | nothing => exact hsub (hg.instances name hn)
  · cases report with
    | target owner host port =>
      exact gathering_owned hold fun s hs => ⟨hs.owner, Or.inl hnew, hs.texts, hs.address⟩
    | texts owner entries =>
      refine gathering_owned hold fun s hs => ⟨hs.owner, hs.target, fun t ht => ?_, hs.address⟩
      rcases List.mem_append.mp ht with ht | ht
      · exact hs.texts t ht
      · exact ⟨entries, hnew, ht⟩
    | named | address | nothing => exact hold
  · intro e he
    cases report with
    | address owner value =>
      rcases List.mem_append.mp he with he | he
      · exact hsub (hg.addresses e he)
      · rw [List.mem_singleton.mp he]
        exact hnew
    | named | target | texts | nothing => exact hsub (hg.addresses e he)

theorem said_foldl (l : List Report) {g : Gathered} (hg : Said reports g) :
    Said (reports ++ l) (l.foldl Gathered.add g) := by
  induction l generalizing reports g with
  | nil => rwa [List.append_nil]
  | cons r l ih =>
    have := ih (said_add hg r)
    rwa [List.append_assoc, List.singleton_append] at this

theorem said_all (reports : List Report) : Said reports (reports.foldl Gathered.add {}) :=
  @said_foldl [] reports {} ⟨nofun, nofun, nofun⟩

/-- **Every value of a service was said by a record.** -/
theorem sourced_found {g : Gathered} (hg : Said reports g) : ∀ s ∈ g.found, Sourced reports s := by
  intro s hs
  obtain ⟨inst, hinst, rfl⟩ := List.mem_map.mp hs
  obtain ⟨service, hservice⟩ : ∃ service, service =
      ((g.byOwner.find? fun e => e.1 = inst).map Prod.snd).getD { instanceName := inst } := ⟨_, rfl⟩
  have hgathering : Gathering reports (inst, service) := by
    rw [hservice]
    cases hfind : g.byOwner.find? fun e => e.1 = inst with
    | none => exact ⟨rfl, Or.inr ⟨rfl, rfl⟩, nofun, rfl⟩
    | some e =>
      have hname : e.1 = inst := by simpa using List.find?_some hfind
      exact hname ▸ hg.byOwner e (List.mem_of_find?_eq_some hfind)
  have hname := hgathering.owner
  dsimp only at hname
  rw [Gathered.serviceOf, ← hservice]
  cases hfind : g.addresses.find? fun e => e.1 = service.hostName with
  | none =>
    exact ⟨hname ▸ hg.instances inst hinst, hname ▸ hgathering.target, hname ▸ hgathering.texts,
      Or.inr hgathering.address⟩
  | some e =>
    have hhost : e.1 = service.hostName := by simpa using List.find?_some hfind
    exact ⟨hname ▸ hg.instances inst hinst, hname ▸ hgathering.target, hname ▸ hgathering.texts,
      Or.inl (hhost ▸ hg.addresses e (List.mem_of_find?_eq_some hfind))⟩

/-! ## What stands behind a record -/

/-- The record is read the same, and says the same, in any packet with the same bytes up to its
end. -/
def Kept (packet wanted : Octets) (record : Record) (report : Report) : Prop :=
  ∀ other, other.take record.stop = packet.take record.stop →
    readRecord other record.start = .ok (some record) ∧
      readData other wanted record.owner record.type record.data record.dataLength = .ok report

/-- A name is spelled at the offset by bytes below `stop` alone. -/
def SpelledBelow (packet : Octets) (stop offset : ℕ) : Prop :=
  ∃ labels after jumps, Spells packet stop offset labels after jumps

/-- The record's name is spelled below its end, and so is the instance it names. -/
def Inside (packet : Octets) (record : Record) (report : Report) : Prop :=
  SpelledBelow packet record.stop record.start ∧
    ((∃ inst, report = .named inst) → SpelledBelow packet record.stop record.data)

theorem le_length_of_take (h : other.take n = packet.take n) (hn : n ≤ packet.length) :
    n ≤ other.length := by
  have := congrArg List.length h
  rw [List.length_take, List.length_take] at this
  omega

section Agree

variable (h : other.take n = packet.take n) (hn : n ≤ packet.length)

include h hn

theorem byteAt_congr {i : ℕ} (hi : i < n) :
    byteAt other other.length i = byteAt packet packet.length i := by
  have hn' := le_length_of_take h hn
  obtain ⟨b, hb, hget⟩ := total_byteAt (Nat.le_refl packet.length) (Nat.lt_of_lt_of_le hi hn)
  rw [hb, byteAt_eq ((getElem?_congr hi h).trans hget) (Nat.lt_of_lt_of_le hi hn')]

theorem bytesAt_congr {i k : ℕ} (hi : i + k ≤ n) :
    bytesAt other other.length i k = bytesAt packet packet.length i k := by
  induction k generalizing i with
  | zero => rfl
  | succ k ih => rw [bytesAt, bytesAt, byteAt_congr h hn (by omega), ih (by omega)]

theorem readBE16_congr {i : ℕ} (hi : i + 1 < n) :
    readBE16 other other.length i = readBE16 packet packet.length i := by
  rw [readBE16, readBE16, byteAt_congr h hn (by omega), byteAt_congr h hn hi]

theorem readBE32_congr {i : ℕ} (hi : i + 3 < n) :
    readBE32 other other.length i = readBE32 packet packet.length i := by
  rw [readBE32, readBE32, byteAt_congr h hn (by omega), byteAt_congr h hn (by omega),
    byteAt_congr h hn (by omega), byteAt_congr h hn hi]

/-- Strings read below an index are settled by the bytes below it. -/
theorem readTexts_congr (fuel i : ℕ) :
    readTexts other other.length n fuel i = readTexts packet packet.length n fuel i := by
  induction fuel generalizing i with
  | zero => rfl
  | succ fuel ih =>
    rw [readTexts, readTexts]
    by_cases hi : i < n
    · rw [if_pos hi, if_pos hi, byteAt_congr h hn hi]
      obtain ⟨b, hb, -⟩ := total_byteAt (Nat.le_refl packet.length) (Nat.lt_of_lt_of_le hi hn)
      rw [hb, ok_bind, ok_bind]
      by_cases hl : i + 1 + b.toNat > n
      · rw [if_pos hl, if_pos hl]
      · rw [if_neg hl, if_neg hl, bytesAt_congr h hn (by omega), ih]
    · rw [if_neg hi, if_neg hi]

/-- A name read below an index is settled by the bytes below it. -/
theorem readName_congr {name : Octets} {after : ℕ}
    (hname : readName packet n offset = .ok (some (name, after))) :
    readName other n offset = .ok (some (name, after)) := by
  obtain ⟨labels, jumps, hs, hj, rfl⟩ := (readName_eq_some hn).mp hname
  exact (readName_eq_some (le_length_of_take h hn)).mpr
    ⟨labels, jumps, hs.congr (Nat.le_refl n) h, hj, rfl⟩

/-- A name that is spelled below an index is read the same, whatever stands behind. -/
theorem readName_of_below {name : Octets} {after : ℕ} (hb : SpelledBelow packet n offset)
    (hname : readName packet packet.length offset = .ok (some (name, after))) :
    readName other other.length offset = .ok (some (name, after)) := by
  obtain ⟨labels, after', jumps', hs⟩ := hb
  obtain ⟨labels', jumps, hs', hj, rfl⟩ := (readName_eq_some (Nat.le_refl _)).mp hname
  obtain ⟨rfl, rfl, rfl⟩ := (hs.congr hn rfl).unique hs'
  exact (readName_eq_some (Nat.le_refl _)).mpr
    ⟨labels, _, hs.congr (le_length_of_take h hn) h, hj, rfl⟩

end Agree

/-! ## One record -/

/-- A record is read where its name, its type and its length stand. -/
theorem readRecord_eq_some : readRecord packet offset = .ok (some record) ↔
    ∃ owner after type dataLength,
      readName packet packet.length offset = .ok (some (owner, after)) ∧
      readBE16 packet packet.length after = .ok type ∧
      readBE16 packet packet.length (after + 8) = .ok dataLength ∧
      record = ⟨offset, owner, type, after + 10, dataLength.toNat⟩ ∧
      record.stop ≤ packet.length := by
  constructor
  · intro h
    rw [readRecord] at h
    obtain ⟨name, hname, -⟩ := total_readName (Nat.le_refl packet.length) offset
    rw [hname, ok_bind] at h
    rcases name with _ | ⟨owner, after⟩
    · cases h
    dsimp only at h
    by_cases hl : after + 10 > packet.length
    · rw [if_pos hl] at h
      cases h
    obtain ⟨type, htype, -⟩ := total_readBE16 (i := after) (Nat.le_refl packet.length) (by omega)
    obtain ⟨dataLength, hlen, -⟩ := total_readBE16 (i := after + 8) (Nat.le_refl packet.length)
      (by omega)
    rw [if_neg hl, htype, ok_bind, hlen, ok_bind] at h
    split_ifs at h with hs
    · cases h
    · cases h
      exact ⟨owner, after, type, dataLength, hname, htype, hlen, rfl, Nat.le_of_not_lt hs⟩
  · rintro ⟨owner, after, type, dataLength, hname, htype, hlen, rfl, hs⟩
    have hl : ¬ after + 10 > packet.length := by
      rw [Record.stop] at hs
      dsimp only at hs
      omega
    rw [readRecord, hname, ok_bind]
    dsimp only
    rw [if_neg hl, htype, ok_bind, hlen, ok_bind]
    exact if_neg (Nat.not_lt_of_le hs)

/-- Only a PTR names an instance, and it names what it spells. -/
theorem readData_named {type : UInt16} {data dataLength : ℕ} {inst : Octets}
    (hl : data + dataLength ≤ packet.length)
    (h : readData packet wanted owner type data dataLength = .ok (.named inst)) :
    ∃ after, readName packet packet.length data = .ok (some (inst, after)) := by
  rw [readData] at h
  split_ifs at h with h1 h2 h3 h4
  · obtain ⟨name, hname, -⟩ := total_readName (Nat.le_refl packet.length) data
    rw [hname, ok_bind] at h
    rcases name with _ | ⟨name, after⟩
    · cases h
    dsimp only at h
    split_ifs at h
    · cases h
    · cases h
      exact ⟨after, hname⟩
  · obtain ⟨name, hname, -⟩ := total_readName hl (data + 6)
    rw [hname, ok_bind] at h
    rcases name with _ | ⟨name, after⟩
    · cases h
    obtain ⟨port, hport, -⟩ := total_readBE16 (i := data + 4) (Nat.le_refl packet.length) (by omega)
    dsimp only at h
    rw [hport] at h
    cases h
  · obtain ⟨texts, htexts, -⟩ := total_readTexts hl (dataLength + 1) data (by omega)
    rw [htexts] at h
    cases h
  · obtain ⟨address, haddress, -⟩ := total_readBE32 (i := data) (Nat.le_refl packet.length) (by omega)
    rw [haddress] at h
    cases h
  · cases h

/-- **What a record says is settled below its end**, an instance if it is spelled there. -/
theorem readData_kept {type : UInt16} {data dataLength : ℕ}
    (hq : other.take (data + dataLength) = packet.take (data + dataLength))
    (hl : data + dataLength ≤ packet.length)
    (h : readData packet wanted owner type data dataLength = .ok report) (hne : report ≠ .nothing)
    (hin : (∃ inst, report = .named inst) → SpelledBelow packet (data + dataLength) data) :
    readData other wanted owner type data dataLength = .ok report := by
  rw [readData] at h ⊢
  split_ifs at h ⊢ with h1 h2 h3 h4
  · obtain ⟨name, hname, -⟩ := total_readName (Nat.le_refl packet.length) data
    rw [hname, ok_bind] at h
    rcases name with _ | ⟨inst, after⟩
    · cases h
      exact absurd rfl hne
    dsimp only at h
    split_ifs at h with hi
    · cases h
      exact absurd rfl hne
    · cases h
      rw [readName_of_below hq hl (hin ⟨inst, rfl⟩) hname, ok_bind]
      exact congrArg _ (if_neg hi)
  · obtain ⟨name, hname, -⟩ := total_readName hl (data + 6)
    rw [hname, ok_bind] at h
    rcases name with _ | ⟨host, after⟩
    · cases h
      exact absurd rfl hne
    rw [readName_congr hq hl hname, ok_bind]
    dsimp only at h ⊢
    rw [readBE16_congr hq hl (by omega)]
    exact h
  · rw [readTexts_congr hq hl]
    exact h
  · rw [readBE32_congr hq hl (by omega)]
    exact h
  · exact h

/-- What is read of a packet that ends at an index is spelled below it. -/
theorem spelledBelow_of_take {name : Octets} {after : ℕ}
    (h : readName (packet.take n) (packet.take n).length offset = .ok (some (name, after))) :
    SpelledBelow packet n offset := by
  obtain ⟨labels, jumps, hs, -, -⟩ := (readName_eq_some (Nat.le_refl _)).mp h
  refine ⟨labels, after, jumps, hs.congr (List.length_take_le n packet) ?_⟩
  rw [List.take_length, List.take_eq_take_iff, List.length_take]
  omega

/-- A record that says something is kept just where its names are inside. -/
theorem data_kept_iff (hr : readRecord packet offset = .ok (some record))
    (hd : readData packet wanted record.owner record.type record.data record.dataLength = .ok report)
    (hne : report ≠ .nothing) : Kept packet wanted record report ↔ Inside packet record report := by
  obtain ⟨owner, after, type, dataLength, hname, htype, hlen, rfl, hs⟩ := readRecord_eq_some.mp hr
  dsimp only at hd
  constructor
  · intro h
    -- The packet may end where the record does.
    obtain ⟨hrecord, hdata⟩ := h (packet.take _) (by rw [List.take_take, Nat.min_self])
    obtain ⟨owner', after', type', dataLength', hname', -, -, -, hs'⟩ :=
      readRecord_eq_some.mp hrecord
    refine ⟨spelledBelow_of_take hname', ?_⟩
    rintro ⟨inst, rfl⟩
    obtain ⟨after'', hinst⟩ := readData_named hs' hdata
    exact spelledBelow_of_take hinst
  · rintro ⟨hstart, hin⟩ other hq
    dsimp only at hstart
    have hbelow := readName_of_below hq hs hstart hname
    have hstop : after + 10 + dataLength.toNat ≤ packet.length := hs
    have hafter : after + 10 ≤ (Record.mk offset owner type (after + 10) dataLength.toNat).stop :=
      Nat.le_add_right _ _
    refine ⟨readRecord_eq_some.mpr ⟨owner, after, type, dataLength, hbelow, ?_, ?_, rfl,
      le_length_of_take hq hs⟩, readData_kept hq hs hd hne hin⟩
    · rw [readBE16_congr hq hs (by omega), htype]
    · rw [readBE16_congr hq hs (by omega), hlen]

/-! ## All records -/

/-- Each record of a response was read at its place, and says what it says. -/
theorem mem_readRecords : ∀ {n offset : ℕ} {records : List (Record × Report)},
    readRecords packet wanted n offset = .ok records → ∀ e ∈ records,
      readRecord packet e.1.start = .ok (some e.1) ∧
        readData packet wanted e.1.owner e.1.type e.1.data e.1.dataLength = .ok e.2 := by
  intro n
  induction n with
  | zero =>
    intro offset records h
    cases h
    exact nofun
  | succ n ih =>
    intro offset records h
    rw [readRecords] at h
    obtain ⟨r, hr, hstart⟩ := total_readRecord packet offset
    rw [hr, ok_bind] at h
    rcases r with _ | record
    · cases h
      exact nofun
    dsimp only at h
    obtain ⟨hoffset, hstop⟩ := hstart record rfl
    obtain ⟨report, hreport, -⟩ := @total_readData packet wanted record.owner record.type
      record.data record.dataLength hstop
    obtain ⟨rest, hrest, -⟩ := total_readRecords packet wanted n record.stop
    rw [hreport, ok_bind, hrest] at h
    cases h
    exact List.forall_mem_cons.mpr ⟨⟨hoffset ▸ hr, hreport⟩, ih hrest⟩

theorem mem_recordsOf {serviceType : Octets} {records : List (Record × Report)}
    (h : recordsOf packet serviceType = .ok records) : ∀ e ∈ records,
      readRecord packet e.1.start = .ok (some e.1) ∧ readData packet (serviceType.map lower)
        e.1.owner e.1.type e.1.data e.1.dataLength = .ok e.2 := by
  rw [recordsOf] at h
  by_cases hl : packet.length < 12
  · rw [if_pos hl] at h
    cases h
    exact fun _ he => by cases he
  have hread : ∀ i, i + 1 < 12 → ∃ v, readBE16 packet packet.length i = .ok v := fun i hi =>
    (total_readBE16 (Nat.le_refl packet.length) (by omega)).imp fun _ h => h.1
  obtain ⟨flags, hflags⟩ := hread 2 (by decide)
  obtain ⟨questions, hquestions⟩ := hread 4 (by decide)
  obtain ⟨answers, hanswers⟩ := hread 6 (by decide)
  obtain ⟨authority, hauthority⟩ := hread 8 (by decide)
  obtain ⟨additional, hadditional⟩ := hread 10 (by decide)
  rw [if_neg hl, hflags, ok_bind] at h
  split_ifs at h with hf
  · cases h
    exact fun _ he => by cases he
  obtain ⟨offset, hskip, -⟩ := total_skipQuestions packet questions.toNat 12
  rw [hquestions, ok_bind, hanswers, ok_bind, hauthority, ok_bind, hadditional, ok_bind, hskip,
    ok_bind] at h
  rcases offset with _ | offset
  · cases h
    exact fun _ he => by cases he
  · exact mem_readRecords h

/-- **What a response gives away.** Every value of a service was said by a record. A record's part in
that is settled by the bytes up to its end just where its own name is spelled there, and the
instance too if it is a PTR that names one. -/
theorem reveals_iff (packet serviceType : Octets) : ∃ records services,
    recordsOf packet serviceType = .ok records ∧
      parseServiceResponse packet serviceType = .ok services ∧
      (∀ s ∈ services, Sourced (records.map Prod.snd) s) ∧
      ((∀ e ∈ records, e.2 ≠ .nothing → Kept packet (serviceType.map lower) e.1 e.2) ↔
        ∀ e ∈ records, e.2 ≠ .nothing → Inside packet e.1 e.2) := by
  obtain ⟨records, h, -⟩ := total_recordsOf packet serviceType
  refine ⟨records, _, h, by rw [parseServiceResponse, h]; rfl, ?_, ?_⟩
  · rw [← List.foldl_map]
    exact sourced_found (said_all _)
  · refine forall₂_congr fun e he => imp_congr_right fun hne => ?_
    obtain ⟨hrecord, hdata⟩ := mem_recordsOf h e he
    exact data_kept_iff hrecord hdata hne

/-- A PTR for `b` of two bytes, `3` and `a`, and a record behind it with a name of one letter. -/
def understated (letter : UInt8) : Octets :=
  [0, 0, 0x84, 0, 0, 0, 0, 2, 0, 0, 0, 0] ++
  [1, 98, 0, 0, 12, 0, 1, 0, 0, 0, 0, 0, 2, 3, 97] ++
  [1, letter, 0, 0, 0, 0, 1, 0, 0, 0, 0, 0, 0]

/-- **A PTR may read on**: the packets differ in one byte behind the PTR, in the name of a record
that says nothing, and the instance it names differs. -/
theorem understated_reveals :
    (understated 120).length = (understated 121).length ∧
    (understated 120).take 27 = (understated 121).take 27 ∧
    (recordsOf (understated 120) (octets "b")).map (·.map fun e => (e.1.start, e.1.stop)) =
      .ok [(12, 27), (27, 40)] ∧
    (recordsOf (understated 121) (octets "b")).map (·.map fun e => (e.1.start, e.1.stop)) =
      .ok [(12, 27), (27, 40)] ∧
    parseServiceResponse (understated 120) (octets "b") = .ok [{ instanceName := [97, 1, 120] }] ∧
    parseServiceResponse (understated 121) (octets "b") = .ok [{ instanceName := [97, 1, 121] }] := by
  decide

end Aes67.Ravenna.DnsSd
