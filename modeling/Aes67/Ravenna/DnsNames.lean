import Aes67.Ravenna.DnsSd

/-!
# Compressed names

What a name in a packet says, whoever reads it, and that `readName` reads just that.

* `byteAt_eq`, `bytesAt_eq` and their `total_` forms: checked reads below the bound;
* `Spells`: the labels that stand at an offset, below a bound, and the jumps on the way;
* `total_readLabels`: the loop ends below its bound, since a run between two jumps goes forwards
  and there are at most 16;
* **`readName_eq_some`**: it returns the labels lowercased, joined by dots, and nothing else.
-/

namespace Aes67.Ravenna.DnsSd

variable {packet w : Octets} {length bound i n : ℕ} {b : UInt8}

/-! ## Checked reads -/

theorem byteAt_eq (hb : packet[i]? = some b) (hi : i < length) : byteAt packet length i = .ok b := by
  rw [byteAt, hb]
  exact if_pos hi

theorem total_byteAt (hl : length ≤ packet.length) (hi : i < length) :
    Total (byteAt packet length i) fun b => packet[i]? = some b :=
  have hb := List.getElem?_eq_getElem (Nat.lt_of_lt_of_le hi hl)
  ⟨_, byteAt_eq hb hi, hb⟩

theorem bytesAt_eq (h : Holds packet i w) (hw : i + w.length ≤ length) :
    bytesAt packet length i w.length = .ok w := by
  induction w generalizing i with
  | nil => rfl
  | cons b w ih =>
    obtain ⟨hb, hw'⟩ := holds_cons.mp h
    rw [List.length_cons] at hw
    rw [List.length_cons, bytesAt, byteAt_eq hb (by omega), ok_bind, ih hw' (by omega)]
    rfl

theorem total_bytesAt (hl : length ≤ packet.length) (hn : i + n ≤ length) :
    Total (bytesAt packet length i n) fun w => w.length = n ∧ Holds packet i w := by
  have hlen : ((packet.drop i).take n).length = n := by
    rw [List.length_take, List.length_drop]
    omega
  have h := bytesAt_eq (holds_take (Nat.le_trans hn hl)) (hlen.symm ▸ hn)
  rw [hlen] at h
  exact ⟨_, h, hlen, holds_take (Nat.le_trans hn hl)⟩

theorem total_readBE16 (hl : length ≤ packet.length) (hi : i + 1 < length) :
    Total (readBE16 packet length i) fun _ => True :=
  (total_byteAt hl (by omega)).bind fun _ _ => (total_byteAt hl hi).bind fun _ _ => .pure trivial

theorem total_readBE32 (hl : length ≤ packet.length) (hi : i + 3 < length) :
    Total (readBE32 packet length i) fun _ => True :=
  (total_byteAt hl (by omega)).bind fun _ _ => (total_byteAt hl (by omega)).bind fun _ _ =>
    (total_byteAt hl (by omega)).bind fun _ _ => (total_byteAt hl hi).bind fun _ _ => .pure trivial

/-! ## The first byte of a label -/

theorem label_small : b &&& 0xC0 = 0 ↔ b.toNat < 64 := by
  have h : ∀ n < 256, n &&& 192 = 0 ↔ n < 64 := by decide +kernel
  rw [← UInt8.toNat_inj, UInt8.toNat_and]
  exact h _ b.toNat_lt

/-- What a pointer's two bytes say. -/
def target (high low : UInt8) : ℕ := (high &&& 0x3F).toNat * 256 + low.toNat

/-! ## What a name says -/

/-- The labels of the name at an offset, read below a bound; what stands behind it there, and the
jumps its pointers make. -/
inductive Spells (packet : Octets) (bound : ℕ) : ℕ → List Octets → ℕ → ℕ → Prop
  | root {i : ℕ} (hi : i < bound) (hb : packet[i]? = some 0) : Spells packet bound i [] (i + 1) 0
  | label {i after jumps : ℕ} {b : UInt8} {w : Octets} {labels : List Octets}
      (hb : packet[i]? = some b) (hs : b &&& 0xC0 = 0) (h0 : b ≠ 0) (hl : w.length = b.toNat)
      (hi : i + 1 + b.toNat ≤ bound) (hw : Holds packet (i + 1) w)
      (h : Spells packet bound (i + 1 + b.toNat) labels after jumps) :
      Spells packet bound i (w :: labels) after jumps
  | pointer {i after jumps : ℕ} {high low : UInt8} {labels : List Octets}
      (hh : packet[i]? = some high) (hp : high &&& 0xC0 = 0xC0) (hi : i + 1 < bound)
      (hl : packet[i + 1]? = some low) (ht : target high low < i)
      (h : Spells packet bound (target high low) labels after jumps) :
      Spells packet bound i labels (i + 2) (jumps + 1)

/-- The labels lowercased, joined by dots. -/
def spelled (labels : List Octets) : Octets := labels.foldl addLabel []

/-! ## `readName` -/

/-- The steps a reading has left: what its jumps allow, and the run it is in. -/
def left (length : ℕ) (r : Reading) : ℕ := (16 - r.jumps) * (length + 1) + (length - r.offset)

/-- A jump gives up more than the next run can take. -/
theorem left_jump {r : Reading} (hr : r.jumps < 16) (hi : r.offset < length) (t : ℕ) (name : Octets)
    (after : Option ℕ) : left length ⟨t, name, r.jumps + 1, after⟩ < left length r := by
  have h : (16 - r.jumps) * (length + 1) = (16 - (r.jumps + 1)) * (length + 1) + (length + 1) := by
    rw [show 16 - r.jumps = 16 - (r.jumps + 1) + 1 by omega, Nat.succ_mul]
  simp only [left]
  omega

theorem left_start (length offset : ℕ) : left length { offset := offset } < fuelFor length := by
  simp only [left, fuelFor]
  omega

/-- **The loop ends**, and reads nothing at or past its bound. -/
theorem total_readLabels (hl : length ≤ packet.length) :
    ∀ (fuel : ℕ) (r : Reading), r.jumps ≤ 16 → left length r < fuel →
      Total (readLabels packet length fuel r) fun _ => True := by
  intro fuel
  induction fuel with
  | zero => exact fun r _ h => absurd h (Nat.not_lt_zero _)
  | succ fuel ih =>
    intro r hj hf
    rw [readLabels]
    by_cases hi : r.offset < length
    · rw [if_pos hi]
      refine (total_byteAt hl hi).bind fun label _ => ?_
      by_cases hp : label &&& 0xC0 = 0xC0
      · rw [if_pos hp]
        by_cases h1 : r.offset + 1 ≥ length
        · rw [if_pos h1]
          exact .pure trivial
        rw [if_neg h1]
        refine (total_byteAt hl (by omega)).bind fun low _ => ?_
        dsimp only
        split_ifs with ht hjump
        · exact .pure trivial
        · exact .pure trivial
        · refine ih _ (by dsimp only; omega) ?_
          have := left_jump (by omega) hi (target label low) r.name (some (r.after.getD (r.offset + 2)))
          exact Nat.lt_of_lt_of_le this (by omega)
      · rw [if_neg hp]
        split_ifs with h1 h2 h3
        · exact .pure trivial
        · exact .pure trivial
        · exact .pure trivial
        · refine (total_bytesAt hl (by omega)).bind fun bytes _ => ih _ hj ?_
          simp only [left] at hf ⊢
          omega
    · rw [if_neg hi]
      exact .pure trivial

theorem total_readName (hl : length ≤ packet.length) (offset : ℕ) :
    Total (readName packet length offset) fun _ => True :=
  total_readLabels hl _ _ (Nat.zero_le 16) (left_start length offset)

variable {labels : List Octets} {after jumps offset : ℕ} {name : Octets}

/-- A name that stands below the bound is read. -/
theorem Spells.readLabels_eq (h : Spells packet length i labels after jumps) :
    ∀ {fuel : ℕ} {r : Reading}, r.offset = i → r.jumps + jumps ≤ 16 → left length r < fuel →
      readLabels packet length fuel r =
        .ok (some (labels.foldl addLabel r.name, r.after.getD after)) := by
  induction h with
  | root hi hb =>
    rintro (_ | fuel) r rfl hj hf
    · exact absurd hf (Nat.not_lt_zero _)
    rw [readLabels, if_pos hi, byteAt_eq hb hi, ok_bind, if_neg (by decide), if_neg (by decide),
      if_pos rfl]
    rfl
  | label hb hs h0 hl hi hw h ih =>
    rintro (_ | fuel) r rfl hj hf
    · exact absurd hf (Nat.not_lt_zero _)
    have hlt : r.offset < length := by omega
    rw [readLabels, if_pos hlt, byteAt_eq hb hlt, ok_bind, if_neg (by rw [hs]; decide),
      if_neg (not_not.mpr hs), if_neg h0, if_neg (by omega), ← hl, bytesAt_eq hw (by omega), ok_bind,
      hl]
    refine ih rfl hj ?_
    simp only [left] at hf ⊢
    omega
  | pointer hh hp hi hl ht h ih =>
    rintro (_ | fuel) r rfl hj hf
    · exact absurd hf (Nat.not_lt_zero _)
    have hlt : r.offset < length := by omega
    rw [readLabels, if_pos hlt, byteAt_eq hh hlt, ok_bind, if_pos hp, if_neg (by omega),
      byteAt_eq hl hi, ok_bind]
    dsimp only
    rw [← target, if_neg (by omega), if_neg (by omega)]
    refine Eq.trans (ih rfl (by dsimp only; omega) ?_) rfl
    exact Nat.lt_of_lt_of_le (left_jump (by omega) hlt _ _ _) (by omega)

/-- What is read stands there. -/
theorem spells_of_readLabels (hl : length ≤ packet.length) :
    ∀ {fuel : ℕ} {r : Reading},
      readLabels packet length fuel r = .ok (some (name, after)) →
      ∃ labels behind jumps, Spells packet length r.offset labels behind jumps ∧
        r.jumps + jumps ≤ max r.jumps 16 ∧ name = labels.foldl addLabel r.name ∧
        after = r.after.getD behind := by
  intro fuel
  induction fuel with
  | zero => exact fun h => nomatch h
  | succ fuel ih =>
    intro r h
    rw [readLabels] at h
    by_cases hi : r.offset < length
    · obtain ⟨label, hlabel, hb⟩ := total_byteAt hl hi
      rw [if_pos hi, hlabel, ok_bind] at h
      by_cases hp : label &&& 0xC0 = 0xC0
      · by_cases h1 : r.offset + 1 ≥ length
        · rw [if_pos hp, if_pos h1] at h
          cases h
        obtain ⟨low, hlow, hb'⟩ := total_byteAt hl (Nat.lt_of_not_le h1)
        rw [if_pos hp, if_neg h1, hlow, ok_bind] at h
        dsimp only at h
        split_ifs at h with ht hj
        · cases h
        · cases h
        · obtain ⟨labels, behind, jumps, hs, hk, hn, ha⟩ := ih h
          refine ⟨labels, _, jumps + 1, .pointer hb hp (Nat.lt_of_not_le h1) hb' (Nat.lt_of_not_le ht) hs,
            ?_, hn, ha⟩
          dsimp only at hk
          omega
      · rw [if_neg hp] at h
        split_ifs at h with hs h0 hlen
        · cases h
        · cases h
          exact ⟨[], _, 0, .root hi (h0 ▸ hb), Nat.le_max_left _ _, rfl, rfl⟩
        · cases h
        · obtain ⟨bytes, hbytes, hw, hat⟩ := total_bytesAt hl (Nat.le_of_not_lt hlen)
          rw [hbytes, ok_bind] at h
          obtain ⟨labels, behind, jumps, hsp, hk, hn, ha⟩ := ih h
          exact ⟨bytes :: labels, behind, jumps,
            .label hb (not_not.mp hs) h0 hw (Nat.le_of_not_lt hlen) hat hsp, hk, hn, ha⟩
    · rw [if_neg hi] at h
      cases h

/-- **`readName` reads the name that stands there**, of at most 16 jumps. -/
theorem readName_eq_some (hl : length ≤ packet.length) :
    readName packet length offset = .ok (some (name, after)) ↔
      ∃ labels jumps, Spells packet length offset labels after jumps ∧ jumps ≤ 16 ∧
        name = spelled labels := by
  constructor
  · intro h
    obtain ⟨labels, behind, jumps, hs, hj, rfl, rfl⟩ := spells_of_readLabels hl h
    exact ⟨labels, jumps, hs, by dsimp only at hj; omega, rfl⟩
  · rintro ⟨labels, jumps, hs, hj, rfl⟩
    exact hs.readLabels_eq rfl (by dsimp only; omega) (left_start length offset)

/-! ## Names below a bound -/

/-- What a name says is settled by the bytes below its bound. -/
theorem Spells.congr {packet' : Octets} (h : Spells packet bound i labels after jumps)
    (hb : bound ≤ n) (hq : packet'.take bound = packet.take bound) :
    Spells packet' n i labels after jumps := by
  induction h with
  | root hi h0 => exact .root (by omega) ((getElem?_congr hi hq).trans h0)
  | label h0 hs hne hl hi hw h ih =>
    exact .label ((getElem?_congr (by omega) hq).trans h0) hs hne hl (by omega)
      (hw.congr (by omega) hq) ih
  | pointer hh hp hi hl ht h ih =>
    exact .pointer ((getElem?_congr (by omega) hq).trans hh) hp (by omega)
      ((getElem?_congr hi hq).trans hl) ht ih

/-- There is one name at an offset. -/
theorem Spells.unique {labels' : List Octets} {after' jumps' : ℕ}
    (h : Spells packet bound i labels after jumps)
    (h' : Spells packet bound i labels' after' jumps') :
    labels = labels' ∧ after = after' ∧ jumps = jumps' := by
  induction h generalizing labels' after' jumps' with
  | root hi h0 =>
    cases h' with
    | root => exact ⟨rfl, rfl, rfl⟩
    | label hb _ hne => exact absurd (Option.some.inj (hb.symm.trans h0)) hne
    | pointer hh hp =>
      rw [Option.some.inj (hh.symm.trans h0)] at hp
      exact absurd hp (by decide)
  | label h0 hs hne hl hi hw h ih =>
    cases h' with
    | root _ hb => exact absurd (Option.some.inj (h0.symm.trans hb)) hne
    | label hb _ _ hl' _ hw' h' =>
      obtain rfl := Option.some.inj (h0.symm.trans hb)
      obtain ⟨rfl, rfl, rfl⟩ := ih h'
      rw [Holds, hl] at hw
      rw [Holds, hl'] at hw'
      exact ⟨by rw [← hw, ← hw'], rfl, rfl⟩
    | pointer hh hp =>
      rw [Option.some.inj (hh.symm.trans h0), hs] at hp
      exact absurd hp (by decide)
  | pointer hh hp hi hl ht h ih =>
    cases h' with
    | root _ hb =>
      rw [Option.some.inj (hh.symm.trans hb)] at hp
      exact absurd hp (by decide)
    | label hb hs =>
      rw [Option.some.inj (hh.symm.trans hb), hs] at hp
      exact absurd hp (by decide)
    | pointer hh' _ _ hl' _ h' =>
      obtain rfl := Option.some.inj (hh.symm.trans hh')
      obtain rfl := Option.some.inj (hl.symm.trans hl')
      obtain ⟨rfl, -, rfl⟩ := ih h'
      exact ⟨rfl, rfl, rfl⟩

end Aes67.Ravenna.DnsSd
