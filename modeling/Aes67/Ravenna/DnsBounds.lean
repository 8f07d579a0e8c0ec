import Aes67.Ravenna.DnsNames

/-!
# Hostile packets

Whatever bytes come in, the two parsers end, and read nothing outside the packet.

* a rule for each loop: `total_questionName`, `total_readTexts`, `total_skipQuestions`,
  `total_readRecords`;
* `total_readData`: the four kinds of record, each below its own bound;
* **`parsing_total`**.
-/

namespace Aes67.Ravenna.DnsSd

variable {packet wanted owner : Octets} {offset : ℕ}

/-! ## Queries -/

theorem total_questionName (packet : Octets) : ∀ (fuel offset : ℕ) (name : Octets),
    packet.length - offset < fuel → Total (questionName packet fuel offset name) fun _ => True := by
  intro fuel
  induction fuel with
  | zero => exact fun _ _ h => absurd h (Nat.not_lt_zero _)
  | succ fuel ih =>
    intro offset name hf
    rw [questionName]
    by_cases hi : offset < packet.length
    · rw [if_pos hi]
      refine (total_byteAt (Nat.le_refl _) hi).bind fun label _ => ?_
      split_ifs with h0 hp hl
      · exact .pure trivial
      · exact .pure trivial
      · exact .pure trivial
      · exact (total_bytesAt (Nat.le_refl _) (by omega)).bind fun bytes _ => ih _ _ (by omega)
    · rw [if_neg hi]
      exact .pure trivial

theorem total_questions (packet : Octets) : ∀ (n offset : ℕ) (names : List Octets),
    Total (questions packet n offset names) fun _ => True := by
  intro n
  induction n with
  | zero => exact fun _ _ => .ok trivial
  | succ n ih =>
    intro offset names
    rw [questions]
    refine (total_questionName packet _ _ _ (by omega)).bind fun q _ => ?_
    rcases q with _ | ⟨name, after⟩
    · exact .pure trivial
    · dsimp only
      split_ifs
      · exact .pure trivial
      · exact ih _ _
      · exact ih _ _

theorem total_parseQueryNames (packet : Octets) : Total (parseQueryNames packet) fun _ => True := by
  rw [parseQueryNames]
  by_cases h : packet.length < 12
  · rw [if_pos h]
    exact .pure trivial
  rw [if_neg h]
  refine (total_readBE16 (Nat.le_refl _) (by omega)).bind fun flags _ => ?_
  split_ifs
  · exact .pure trivial
  · exact (total_readBE16 (Nat.le_refl _) (by omega)).bind fun count _ => total_questions packet _ _ _

/-! ## Records -/

/-- The strings of a TXT record, read below the record's end. -/
theorem total_readTexts {stop : ℕ} (hs : stop ≤ packet.length) : ∀ fuel i : ℕ, stop - i < fuel →
    Total (readTexts packet packet.length stop fuel i) fun _ => True := by
  intro fuel
  induction fuel with
  | zero => exact fun _ h => absurd h (Nat.not_lt_zero _)
  | succ fuel ih =>
    intro i hf
    rw [readTexts]
    by_cases hi : i < stop
    · rw [if_pos hi]
      refine (total_byteAt (Nat.le_refl _) (by omega)).bind fun entryLength _ => ?_
      by_cases hl : i + 1 + entryLength.toNat > stop
      · rw [if_pos hl]
        exact .pure trivial
      · rw [if_neg hl]
        refine (total_bytesAt (Nat.le_refl _) (by omega)).bind fun entry _ => ?_
        exact (ih _ (by omega)).bind fun rest _ => .pure trivial
    · rw [if_neg hi]
      exact .pure trivial

/-- **What a record says** is read below the packet's end, an SRV's host below the record's. -/
theorem total_readData (type : UInt16) {data dataLength : ℕ}
    (h : data + dataLength ≤ packet.length) :
    Total (readData packet wanted owner type data dataLength) fun _ => True := by
  rw [readData]
  split_ifs with h1 h2 h3 h4
  · refine (total_readName (Nat.le_refl _) _).bind fun target _ => ?_
    rcases target with _ | ⟨inst, after⟩
    · exact .pure trivial
    · exact .pure trivial
  · refine (total_readName h _).bind fun target _ => ?_
    rcases target with _ | ⟨host, after⟩
    · exact .pure trivial
    · exact (total_readBE16 (Nat.le_refl _) (by omega)).bind fun port _ => .pure trivial
  · exact (total_readTexts h _ _ (by omega)).bind fun texts _ => .pure trivial
  · exact (total_readBE32 (Nat.le_refl _) (by omega)).bind fun address _ => .pure trivial
  · exact .pure trivial

/-- A record that is read lies inside the packet. -/
theorem total_readRecord (packet : Octets) (offset : ℕ) :
    Total (readRecord packet offset) fun r => ∀ record, r = some record →
      record.start = offset ∧ record.stop ≤ packet.length := by
  rw [readRecord]
  refine (total_readName (Nat.le_refl _) offset).bind fun name _ => ?_
  rcases name with _ | ⟨owner, after⟩
  · exact .pure nofun
  · dsimp only
    by_cases h : after + 10 > packet.length
    · rw [if_pos h]
      exact .pure nofun
    rw [if_neg h]
    refine (total_readBE16 (Nat.le_refl _) (by omega)).bind fun type _ => ?_
    refine (total_readBE16 (Nat.le_refl _) (by omega)).bind fun dataLength _ => ?_
    split_ifs with hs
    · exact .pure nofun
    · refine .pure fun record hr => ?_
      cases hr
      exact ⟨rfl, Nat.le_of_not_lt hs⟩

theorem total_readRecords (packet wanted : Octets) : ∀ n offset : ℕ,
    Total (readRecords packet wanted n offset) fun _ => True := by
  intro n
  induction n with
  | zero => exact fun _ => .ok trivial
  | succ n ih =>
    intro offset
    rw [readRecords]
    refine (total_readRecord packet offset).bind fun r hr => ?_
    rcases r with _ | record
    · exact .pure trivial
    · refine (total_readData record.type (hr record rfl).2).bind fun report _ => ?_
      exact (ih record.stop).bind fun rest _ => .pure trivial

theorem total_skipQuestions (packet : Octets) : ∀ n offset : ℕ,
    Total (skipQuestions packet n offset) fun _ => True := by
  intro n
  induction n with
  | zero => exact fun _ => .ok trivial
  | succ n ih =>
    intro offset
    rw [skipQuestions]
    refine (total_readName (Nat.le_refl _) offset).bind fun name _ => ?_
    rcases name with _ | ⟨question, after⟩
    · exact .pure trivial
    · dsimp only
      split_ifs
      · exact .pure trivial
      · exact ih _

theorem total_recordsOf (packet serviceType : Octets) :
    Total (recordsOf packet serviceType) fun _ => True := by
  rw [recordsOf]
  by_cases h : packet.length < 12
  · rw [if_pos h]
    exact .pure trivial
  rw [if_neg h]
  refine (total_readBE16 (Nat.le_refl _) (by omega)).bind fun flags _ => ?_
  split_ifs
  · exact .pure trivial
  refine (total_readBE16 (Nat.le_refl _) (by omega)).bind fun questions _ => ?_
  refine (total_readBE16 (Nat.le_refl _) (by omega)).bind fun answers _ => ?_
  refine (total_readBE16 (Nat.le_refl _) (by omega)).bind fun authority _ => ?_
  refine (total_readBE16 (Nat.le_refl _) (by omega)).bind fun additional _ => ?_
  refine (total_skipQuestions packet _ _).bind fun offset _ => ?_
  rcases offset with _ | offset
  · exact .pure trivial
  · exact total_readRecords packet _ _ _

/-! ## Any packet -/

/-- **Reading ends, and stays inside.** No read is at or past the bound it was given: the packet's
end, or for an SRV's host the record's. -/
theorem parsing_total (packet serviceType : Octets) :
    (∀ length ≤ packet.length, ∀ offset, ∃ name, readName packet length offset = .ok name) ∧
      (∃ names, parseQueryNames packet = .ok names) ∧
      ∃ services, parseServiceResponse packet serviceType = .ok services := by
  refine ⟨fun length hl offset => ?_, ?_, ?_⟩
  · obtain ⟨name, h, -⟩ := total_readName hl offset
    exact ⟨name, h⟩
  · obtain ⟨names, h, -⟩ := total_parseQueryNames packet
    exact ⟨names, h⟩
  · obtain ⟨records, h, -⟩ := total_recordsOf packet serviceType
    exact ⟨_, by rw [parseServiceResponse, h]; rfl⟩

end Aes67.Ravenna.DnsSd
