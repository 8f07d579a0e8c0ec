import Aes67.Ravenna.DnsNames

/-!
# Numbers and names as they are written

What `put16`, `put32` and `encodeName` write is what `readBE16`, `readBE32` and `readName` read.

* `readBE16_put16`, `readBE32_put32`;
* `labelsOf`, `encodeName_eq`: the labels a name is written with, empty ones left out and long ones
  cut;
* `readName_encodeName`: any name is read back as these labels;
* `Dotted`: a name of non-empty labels of at most 63 bytes, and **`spelled_of_dotted`**: it is read
  back lowercased.
-/

namespace Aes67.Ravenna.DnsSd

variable {packet name : Octets} {length offset : ℕ}

/-! ## Numbers -/

theorem lor_eq_add {a b k : ℕ} (ha : a % 2 ^ k = 0) (hb : b < 2 ^ k) : a ||| b = a + b := by
  obtain ⟨a, rfl⟩ := Nat.dvd_of_mod_eq_zero ha
  exact (Nat.two_pow_add_eq_or_of_lt hb a).symm

theorem lor_bytes {b0 b1 b2 b3 : ℕ} (h1 : b1 < 2 ^ 8) (h2 : b2 < 2 ^ 8) (h3 : b3 < 2 ^ 8) :
    b0 * 2 ^ 24 ||| b1 * 2 ^ 16 ||| b2 * 2 ^ 8 ||| b3 =
      b0 * 2 ^ 24 + b1 * 2 ^ 16 + b2 * 2 ^ 8 + b3 := by
  rw [lor_eq_add (a := b0 * 2 ^ 24) (k := 24) (by omega) (by omega),
    lor_eq_add (a := b0 * 2 ^ 24 + b1 * 2 ^ 16) (k := 16) (by omega) (by omega),
    lor_eq_add (k := 8) (by omega) (by omega)]

theorem bytes16 (v : UInt16) : (v >>> 8).toUInt8.toUInt16 <<< 8 ||| v.toUInt8.toUInt16 = v := by
  have hv := v.toNat_lt
  apply UInt16.toNat_inj.mp
  simp only [UInt16.toNat_or, UInt16.toNat_shiftLeft, UInt8.toNat_toUInt16, UInt16.toNat_toUInt8,
    UInt16.toNat_shiftRight, UInt16.reduceToNat, Nat.reduceMod, Nat.shiftRight_eq_div_pow,
    Nat.shiftLeft_eq]
  rw [lor_eq_add (k := 8) (by omega) (by omega)]
  omega

theorem bytes32 (v : UInt32) : (v >>> 24).toUInt8.toUInt32 <<< 24 |||
    (v >>> 16).toUInt8.toUInt32 <<< 16 ||| (v >>> 8).toUInt8.toUInt32 <<< 8 |||
    v.toUInt8.toUInt32 = v := by
  have hv := v.toNat_lt
  apply UInt32.toNat_inj.mp
  simp only [UInt32.toNat_or, UInt32.toNat_shiftLeft, UInt8.toNat_toUInt32, UInt32.toNat_toUInt8,
    UInt32.toNat_shiftRight, UInt32.reduceToNat, Nat.reduceMod, Nat.shiftRight_eq_div_pow,
    Nat.shiftLeft_eq]
  have hm : ∀ {n k : ℕ}, n < 2 ^ 8 → k ≤ 24 → n * 2 ^ k % 2 ^ 32 = n * 2 ^ k := fun {n k} hn hk =>
    Nat.mod_eq_of_lt (by
      calc n * 2 ^ k < 2 ^ 8 * 2 ^ k := Nat.mul_lt_mul_of_pos_right hn (Nat.two_pow_pos k)
        _ = 2 ^ (8 + k) := (Nat.pow_add 2 8 k).symm
        _ ≤ 2 ^ 32 := Nat.pow_le_pow_right (by decide) (by omega))
  rw [hm (by omega) (by decide), hm (by omega) (by decide), hm (by omega) (by decide),
    lor_bytes (by omega) (by omega) (by omega)]
  omega

@[simp] theorem length_put16 (v : UInt16) : (put16 v).length = 2 := rfl

@[simp] theorem length_put32 (v : UInt32) : (put32 v).length = 4 := rfl

theorem readBE16_put16 {v : UInt16} (h : Holds packet offset (put16 v)) (hl : offset + 1 < length) :
    readBE16 packet length offset = .ok v := by
  obtain ⟨h0, h⟩ := holds_cons.mp h
  obtain ⟨h1, -⟩ := holds_cons.mp h
  rw [readBE16, byteAt_eq h0 (by omega), ok_bind, byteAt_eq h1 hl, ok_bind, bytes16]
  rfl

theorem readBE32_put32 {v : UInt32} (h : Holds packet offset (put32 v)) (hl : offset + 3 < length) :
    readBE32 packet length offset = .ok v := by
  obtain ⟨h0, h⟩ := holds_cons.mp h
  obtain ⟨h1, h⟩ := holds_cons.mp h
  obtain ⟨h2, h⟩ := holds_cons.mp h
  obtain ⟨h3, -⟩ := holds_cons.mp h
  rw [readBE32, byteAt_eq h0 (by omega), ok_bind, byteAt_eq h1 (by omega), ok_bind,
    byteAt_eq h2 (by omega), ok_bind, byteAt_eq h3 hl, ok_bind, bytes32]
  rfl

/-! ## Names -/

/-- The labels a name is written with. -/
def labelsOf (name : Octets) : List Octets :=
  ((pieces name).map (List.take 63)).filter fun w => w ≠ []

/-- Labels one after another, each behind its length. -/
def encodeLabels (labels : List Octets) : Octets :=
  labels.flatMap fun w => .ofNat w.length :: w

theorem encodeName_eq (name : Octets) : encodeName name = encodeLabels (labelsOf name) ++ [0] := by
  rw [encodeName, encodeLabels, labelsOf]
  congr 1
  induction pieces name with
  | nil => rfl
  | cons p ps ih =>
    rw [List.flatMap_cons, ih, List.map_cons, List.filter_cons, encodeLabel]
    rcases List.eq_nil_or_concat (p.take 63) with h | ⟨s, c, h⟩
    · simp [h]
    · simp [h]

/-- A label that can be written. -/
def Short (w : Octets) : Prop := w ≠ [] ∧ w.length < 64

theorem short_of_mem {w : Octets} (h : w ∈ labelsOf name) : Short w := by
  rw [labelsOf, List.mem_filter, List.mem_map] at h
  obtain ⟨⟨p, -, rfl⟩, hw⟩ := h
  refine ⟨of_decide_eq_true hw, ?_⟩
  rw [List.length_take]
  omega

/-- Written labels stand where they were written. -/
theorem spells_encodeLabels {labels : List Octets} (hs : ∀ w ∈ labels, Short w)
    (h : Holds packet offset (encodeLabels labels ++ [0]))
    (hl : offset + (encodeLabels labels).length < length) :
    Spells packet length offset labels (offset + (encodeLabels labels).length + 1) 0 := by
  induction labels generalizing offset with
  | nil => exact .root hl (holds_cons.mp h).1
  | cons w labels ih =>
    obtain ⟨hne, hlt⟩ := hs w List.mem_cons_self
    have hlen : (UInt8.ofNat w.length).toNat = w.length :=
      UInt8.toNat_ofNat_of_lt' (Nat.lt_trans hlt (by decide))
    have htotal : (encodeLabels (w :: labels)).length = 1 + w.length + (encodeLabels labels).length := by
      rw [encodeLabels, List.flatMap_cons, ← encodeLabels, List.length_append, List.length_cons]
      omega
    have hpos := List.length_pos_iff.mpr hne
    rw [encodeLabels, List.flatMap_cons, ← encodeLabels, List.append_assoc, List.cons_append,
      holds_cons, holds_append] at h
    refine .label h.1 (label_small.mpr (by omega)) ?_ hlen.symm (by omega) h.2.1 ?_
    · intro h0
      rw [h0] at hlen
      exact absurd hlen (Nat.ne_of_lt hpos)
    · rw [hlen, htotal, show offset + (1 + w.length + (encodeLabels labels).length) + 1 =
        offset + 1 + w.length + (encodeLabels labels).length + 1 by omega]
      exact ih (fun v hv => hs v (List.mem_cons_of_mem _ hv)) h.2.2 (by omega)

/-- **A written name is read back** as the labels it was written with. -/
theorem readName_encodeName (h : Holds packet offset (encodeName name))
    (hl : offset + (encodeName name).length ≤ length) (hp : length ≤ packet.length) :
    readName packet length offset =
      .ok (some (spelled (labelsOf name), offset + (encodeName name).length)) := by
  rw [encodeName_eq, List.length_append, List.length_singleton, ← Nat.add_assoc] at hl ⊢
  rw [encodeName_eq] at h
  exact (readName_eq_some hp).mpr ⟨_, 0, spells_encodeLabels (fun w => short_of_mem) h hl,
    Nat.zero_le 16, rfl⟩

/-! ## Names of proper labels -/

/-- The name is non-empty labels of at most 63 bytes, with dots between them. -/
def Dotted (name : Octets) : Prop :=
  ∃ w labels, (∀ v ∈ w :: labels, Short v ∧ kDot ∉ v) ∧
    name = w ++ labels.flatMap (kDot :: ·)

theorem Dotted.append {name' : Octets} (h : Dotted name) (h' : Dotted name') :
    Dotted (name ++ kDot :: name') := by
  obtain ⟨w, ls, hw, rfl⟩ := h
  obtain ⟨v, ms, hv, rfl⟩ := h'
  refine ⟨w, ls ++ v :: ms, fun u hu => ?_, by simp⟩
  rcases List.mem_append.mp (by simpa using hu : u ∈ (w :: ls) ++ v :: ms) with hu | hu
  · exact hw u hu
  · exact hv u hu

theorem pieces_label {w : Octets} (hw : w ≠ []) (hd : kDot ∉ w) (s : Octets) :
    pieces (w ++ kDot :: s) = w :: pieces s ∧ pieces w = [w] := by
  induction w with
  | nil => exact absurd rfl hw
  | cons c w ih =>
    have hc : c ≠ kDot := fun h => hd (h ▸ List.mem_cons_self)
    rw [List.cons_append, pieces, pieces, if_neg hc, if_neg hc]
    rcases w with _ | ⟨b, w⟩
    · exact ⟨by rw [List.nil_append, pieces, if_pos rfl], rfl⟩
    · obtain ⟨h1, h2⟩ := ih (List.cons_ne_nil _ _) fun h => hd (List.mem_cons_of_mem _ h)
      rw [h1, h2]
      exact ⟨rfl, rfl⟩

theorem pieces_of_dotted {w : Octets} {labels : List Octets}
    (h : ∀ v ∈ w :: labels, Short v ∧ kDot ∉ v) :
    pieces (w ++ labels.flatMap (kDot :: ·)) = w :: labels := by
  induction labels generalizing w with
  | nil =>
    obtain ⟨hw, hd⟩ := h w List.mem_cons_self
    rw [List.flatMap_nil, List.append_nil, (pieces_label hw.1 hd []).2]
  | cons v labels ih =>
    obtain ⟨hw, hd⟩ := h w List.mem_cons_self
    rw [List.flatMap_cons, List.cons_append, (pieces_label hw.1 hd _).1,
      ih fun u hu => h u (List.mem_cons_of_mem _ hu)]

theorem labelsOf_of_dotted {w : Octets} {labels : List Octets}
    (h : ∀ v ∈ w :: labels, Short v ∧ kDot ∉ v) :
    labelsOf (w ++ labels.flatMap (kDot :: ·)) = w :: labels := by
  have hcut : (w :: labels).map (List.take 63) = w :: labels := by
    refine (List.map_congr_left fun v hv => ?_).trans (List.map_id _)
    exact List.take_of_length_le (Nat.le_of_lt_succ (h v hv).1.2)
  rw [labelsOf, pieces_of_dotted h, hcut, List.filter_eq_self]
  exact fun v hv => decide_eq_true (h v hv).1.1

theorem foldl_addLabel {name : Octets} (hn : name ≠ []) (labels : List Octets) :
    labels.foldl addLabel name = name ++ labels.flatMap fun w => kDot :: w.map lower := by
  induction labels generalizing name with
  | nil => simp
  | cons w labels ih =>
    rw [List.foldl_cons, ih (by simp [addLabel, hn]), addLabel, if_neg hn]
    simp

/-- **A proper name is read back lowercased.** -/
theorem spelled_of_dotted (h : Dotted name) : spelled (labelsOf name) = name.map lower := by
  obtain ⟨w, labels, hw, rfl⟩ := h
  have hne : w.map lower ≠ [] := fun h => (hw w List.mem_cons_self).1.1 (List.map_eq_nil_iff.mp h)
  rw [labelsOf_of_dotted hw, spelled, List.foldl_cons, addLabel, if_pos rfl, List.nil_append,
    foldl_addLabel hne, List.map_append, List.map_flatMap]
  rfl

theorem Dotted.ne_nil (h : Dotted name) : name ≠ [] := by
  obtain ⟨w, labels, hw, rfl⟩ := h
  exact fun h => (hw w List.mem_cons_self).1.1 (List.append_eq_nil_iff.mp h).1

end Aes67.Ravenna.DnsSd
