import Mathlib
import Aes67.Lib.Binary32
import Aes67.Lib.Pieces
import Aes67.Ravenna.DnsSd

/-!
# The sample codecs

The model of `PCMCodec`: the L16 and L24 payloads of a packet, and the `float` samples the rings of
the device hold. A `float` is its value; what the sound card hands over is finite.

* `Encoding`: the two encodings by their numbers;
* `encodeL16BE`, `encodeL24BE`, `decodeL16BE`, `decodeL24BE`;
* `samples`, `packed`: a payload and the integers in it;
* **`encodeSample_decodeSample`**: what becomes of one sample that is received and sent on;
* **`relay_iterate`**: what becomes of a payload that is relayed any number of times.
-/

namespace Aes67.Rtp.PCMCodec

open Ravenna.DnsSd (Octets)

/-- The two encodings. -/
inductive Encoding
  | L16
  | L24
  deriving DecidableEq

namespace Encoding

/-- The bytes of a sample. -/
def bytes : Encoding → ℕ
  | L16 => 2
  | L24 => 3

/-- `kL16Scale` and `kL24Scale`, which a sample is multiplied by. -/
def scale : Encoding → ℚ
  | L16 => 32767
  | L24 => 8388607

/-- `kL16Full` and `kL24Full`, which it is divided by. -/
def full : Encoding → ℚ
  | L16 => 32768
  | L24 => 8388608

/-- The bits of a sample less its sign. -/
def magnitude : Encoding → ℕ
  | L16 => 15
  | L24 => 23

end Encoding

/-- The integer sent for a sample: clipped, scaled in `float`, and cut off. -/
def quantise (scale v : ℚ) : ℤ := truncate (round32 (max (-1) (min 1 v) * scale))

/-- So many bytes of an integer, the highest first. -/
def bigEndian (bytes : ℕ) (s : ℤ) : Octets :=
  (List.range bytes).reverse.map fun i : ℕ => .ofNat (s >>> (8 * i) % 256).toNat

/-- The value of some bytes, the highest first. -/
def valueOf (sample : Octets) : ℕ := sample.foldl (fun (n : ℕ) b => 256 * n + b.toNat) 0

/-- The integer of a sample's bytes, its sign extended. -/
def signed (sample : Octets) : ℤ := Int.bmod (valueOf sample) (2 ^ (8 * sample.length))

def encodeBE (e : Encoding) (audio : List ℚ) : Octets :=
  audio.flatMap fun v => bigEndian e.bytes (quantise e.scale v)

def decodeBE (e : Encoding) (payload : Octets) (totalSamples : ℕ) : List ℚ :=
  (List.range totalSamples).map fun i => round32 (signed (piece e.bytes payload i) / e.full)

def encodeL16BE : List ℚ → Octets := encodeBE .L16

def encodeL24BE : List ℚ → Octets := encodeBE .L24

def decodeL16BE : Octets → ℕ → List ℚ := decodeBE .L16

def decodeL24BE : Octets → ℕ → List ℚ := decodeBE .L24

/-! ## Relaying -/

/-- The integers of a payload. -/
def samples (e : Encoding) (payload : Octets) : List ℤ :=
  (List.range (payload.length / e.bytes)).map fun i => signed (piece e.bytes payload i)

/-- The payload of some integers. -/
def packed (e : Encoding) (l : List ℤ) : Octets := l.flatMap (bigEndian e.bytes)

/-- What a device sends that sends on what it receives. -/
def relay (e : Encoding) (payload : Octets) : Octets :=
  encodeBE e (decodeBE e payload (payload.length / e.bytes))

/-- An integer of the encoding. -/
def InRange (e : Encoding) (s : ℤ) : Prop := -2 ^ e.magnitude ≤ s ∧ s < 2 ^ e.magnitude

variable {e : Encoding} {s : ℤ} {payload : Octets} {l : List ℤ}

theorem length_bigEndian (n : ℕ) : (bigEndian n s).length = n := by
  rw [bigEndian, List.length_map, List.length_reverse, List.length_range]

theorem inRange_signed {sample : Octets} (h : sample.length = e.bytes) : InRange e (signed sample) := by
  have hlow := Int.le_bmod (x := valueOf sample) (m := 2 ^ (8 * sample.length)) (by positivity)
  have hhigh := Int.bmod_lt (x := valueOf sample) (m := 2 ^ (8 * sample.length)) (by positivity)
  rw [InRange, signed]
  rw [h] at hlow hhigh ⊢
  cases e <;> norm_num [Encoding.bytes, Encoding.magnitude] at hlow hhigh ⊢ <;> omega

theorem valueOf_bigEndian (e : Encoding) (s : ℤ) :
    (valueOf (bigEndian e.bytes s) : ℤ) = s % 2 ^ (8 * e.bytes) := by
  cases e <;>
    simp [valueOf, bigEndian, Encoding.bytes, List.range_succ, Int.shiftRight_eq_div_pow]
  · omega
  · omega

theorem signed_bigEndian (h : InRange e s) : signed (bigEndian e.bytes s) = s := by
  rw [signed, valueOf_bigEndian, length_bigEndian, ← Nat.cast_two, ← Nat.cast_pow, Int.emod_bmod]
  obtain ⟨hlow, hhigh⟩ := h
  refine Int.bmod_eq_of_le ?_ ?_ <;>
    cases e <;> norm_num [Encoding.bytes, Encoding.magnitude] at hlow hhigh ⊢ <;> omega

theorem valueOf_concat (sample : Octets) (b : UInt8) :
    valueOf (sample ++ [b]) = 256 * valueOf sample + b.toNat := by
  rw [valueOf, List.foldl_append, List.foldl_cons, List.foldl_nil, valueOf]

theorem valueOf_lt (sample : Octets) : valueOf sample < 256 ^ sample.length := by
  induction sample using List.reverseRecOn with
  | nil => exact Nat.one_pos
  | append_singleton sample b ih =>
    have hb := b.toNat_lt
    rw [valueOf_concat, List.length_append, List.length_singleton, pow_succ]
    omega

/-- As many bytes of the same value are the same bytes. -/
theorem eq_of_valueOf {sample other : Octets} (hl : sample.length = other.length)
    (h : valueOf sample = valueOf other) : sample = other := by
  induction sample using List.reverseRecOn generalizing other with
  | nil => exact (List.length_eq_zero_iff.mp hl.symm).symm
  | append_singleton sample b ih =>
    rcases other.eq_nil_or_concat with rfl | ⟨other, c, rfl⟩
    · simp at hl
    · have hb := b.toNat_lt
      have hc := c.toNat_lt
      rw [List.concat_eq_append] at hl h ⊢
      rw [valueOf_concat, valueOf_concat] at h
      rw [List.length_append, List.length_append] at hl
      have hbc : b = c := UInt8.toNat_inj.mp (by omega)
      rw [ih (by simpa using hl) (by omega), hbc]

theorem bigEndian_signed {sample : Octets} (h : sample.length = e.bytes) :
    bigEndian e.bytes (signed sample) = sample := by
  refine eq_of_valueOf ((length_bigEndian _).trans h.symm) ?_
  have hlt := valueOf_lt sample
  have hpow : (256 : ℕ) ^ sample.length = 2 ^ (8 * sample.length) := by
    rw [pow_mul]
    norm_num
  rw [hpow] at hlt
  have hvalue : (valueOf (bigEndian e.bytes (signed sample)) : ℤ) = valueOf sample := by
    have hcast : (2 : ℤ) ^ (8 * sample.length) = (2 ^ (8 * sample.length) : ℕ) := by push_cast; rfl
    rw [valueOf_bigEndian, signed, ← h, hcast, Int.bmod_emod]
    exact Int.emod_eq_of_lt (by omega) (by exact_mod_cast hlt)
  exact_mod_cast hvalue

/-! ## One sample -/

theorem quantise_div {s : ℤ} (h : InRange e s) :
    quantise e.scale (round32 (s / e.full)) = towardsZero 1 s := by
  obtain ⟨hlow, hhigh⟩ := h
  have hfull : e.full = 2 ^ e.magnitude := by cases e <;> norm_num [Encoding.full, Encoding.magnitude]
  have hscale : e.scale = 2 ^ e.magnitude - 1 := by
    cases e <;> norm_num [Encoding.scale, Encoding.magnitude]
  have hm : 0 < e.magnitude ∧ e.magnitude ≤ 23 := by cases e <;> decide
  have hpow : (2 : ℤ) ^ e.magnitude < 2 ^ 24 := pow_lt_pow_right₀ (by norm_num) (by omega)
  have habs : |s| ≤ 2 ^ e.magnitude := abs_le.mpr ⟨hlow, hhigh.le⟩
  have hpos : (0 : ℚ) < 2 ^ e.magnitude := by positivity
  have hle : |(s : ℚ) / 2 ^ e.magnitude| ≤ 1 := by
    rw [abs_div, abs_of_pos hpos, div_le_one hpos]
    exact_mod_cast habs
  obtain ⟨h1, h2⟩ := abs_le.mp hle
  have hshaved : (s : ℚ) / 2 ^ e.magnitude * (2 ^ e.magnitude - 1) = shaved e.magnitude s := by
    rw [shaved, mul_sub, div_mul_cancel₀ _ hpos.ne', mul_one]
  rw [quantise, hfull, round32_div_two_pow (by omega) (by omega), min_eq_right h2, max_eq_right h1,
    hscale, hshaved, truncate_round32_shaved hm.1 hm.2 habs]

/-- A sample does not leave its range on the way to zero. -/
theorem InRange.towardsZero (h : InRange e s) (n : ℕ) : InRange e (towardsZero n s) := by
  obtain ⟨hlow, hhigh⟩ := h
  have hpos : (0 : ℤ) < 2 ^ e.magnitude := by positivity
  rw [InRange, Aes67.towardsZero]
  split_ifs <;> omega

/-- **A sample that is received and sent on** comes out one step nearer to zero. -/
theorem encodeSample_decodeSample {sample : Octets} (h : sample.length = e.bytes) :
    bigEndian e.bytes (quantise e.scale (round32 (signed sample / e.full))) =
      bigEndian e.bytes (Aes67.towardsZero 1 (signed sample)) := by
  rw [quantise_div (inRange_signed h)]

/-! ## Payloads -/

/-- The bytes of a sample that is all there. -/
theorem length_sample {i : ℕ} (h : i < payload.length / e.bytes) :
    (piece e.bytes payload i).length = e.bytes := by
  have hle := Nat.div_mul_le_self payload.length e.bytes
  have hmul : (i + 1) * e.bytes ≤ payload.length / e.bytes * e.bytes := Nat.mul_le_mul_right _ h
  rw [piece, List.length_take, List.length_drop]
  rw [Nat.add_mul, Nat.one_mul] at hmul
  omega

theorem inRange_of_mem_samples (h : s ∈ samples e payload) : InRange e s := by
  obtain ⟨i, hi, rfl⟩ := List.mem_map.mp h
  exact inRange_signed (length_sample (List.mem_range.mp hi))

/-- Relaying takes every sample one step towards zero. -/
theorem relay_eq (payload : Octets) :
    relay e payload = packed e ((samples e payload).map (towardsZero 1)) := by
  rw [relay, encodeBE, decodeBE, packed, samples, List.map_map, List.flatMap_map, List.flatMap_map]
  refine List.flatMap_congr fun i hi => ?_
  exact encodeSample_decodeSample (length_sample (List.mem_range.mp hi))

theorem length_packed (l : List ℤ) : (packed e l).length = l.length * e.bytes := by
  induction l with
  | nil => rw [packed, List.flatMap_nil, List.length_nil, List.length_nil, Nat.zero_mul]
  | cons s l ih =>
    rw [packed] at ih ⊢
    rw [List.flatMap_cons, List.length_append, length_bigEndian, ih, List.length_cons, Nat.add_mul,
      Nat.one_mul, Nat.add_comm]

theorem bytes_pos (e : Encoding) : 0 < e.bytes := by cases e <;> decide

/-- **The integers of a payload** are those it was made of. -/
theorem samples_packed (h : ∀ s ∈ l, InRange e s) : samples e (packed e l) = l := by
  have hlen : (packed e l).length / e.bytes = l.length := by
    rw [length_packed, Nat.mul_div_cancel _ (bytes_pos e)]
  have hpacked : packed e l =
      (List.range l.length).flatMap fun i => bigEndian e.bytes (l.getD i 0) := by
    have hl : (List.range l.length).map (fun i => l.getD i 0) = l :=
      List.ext_getElem (by simp) fun i h1 h2 => by simp [h2]
    rw [← List.flatMap_map (fun i => l.getD i 0) (bigEndian e.bytes), hl, packed]
  refine List.ext_getElem (by rw [samples, List.length_map, List.length_range, hlen]) ?_
  intro i h1 h2
  have hith : (samples e (packed e l))[i] = signed (piece e.bytes (packed e l) i) := by
    simp only [samples, List.getElem_map, List.getElem_range]
  rw [hith, hpacked, piece_flatMap (fun j _ => length_bigEndian _) h2, List.getD_eq_getElem _ _ h2,
    signed_bigEndian (h _ (List.getElem_mem h2))]

/-- A whole payload is made of its integers. -/
theorem packed_samples (h : e.bytes ∣ payload.length) : packed e (samples e payload) = payload := by
  have hlen : payload.length = payload.length / e.bytes * e.bytes := (Nat.div_mul_cancel h).symm
  have hpieces : packed e (samples e payload) =
      (List.range (payload.length / e.bytes)).flatMap (piece e.bytes payload) := by
    rw [packed, samples, List.flatMap_map]
    refine List.flatMap_congr fun i hi => ?_
    exact bigEndian_signed (length_piece hlen (List.mem_range.mp hi))
  rw [hpieces, flatMap_piece hlen]

/-- **A payload that is relayed** any number of times is the payload of the same samples, each that
many steps nearer to zero: no relay is transparent, and in the end there is silence. -/
theorem relay_iterate (e : Encoding) (payload : Octets) (n : ℕ) (h : e.bytes ∣ payload.length) :
    (relay e)^[n] payload = packed e ((samples e payload).map (towardsZero n)) := by
  induction n with
  | zero =>
    have hid : (samples e payload).map (towardsZero 0) = samples e payload := by
      refine List.map_id'' (fun s => ?_) _
      simp only [towardsZero]
      split_ifs <;> omega
    rw [Function.iterate_zero_apply, hid, packed_samples h]
  | succ n ih =>
    have hrange : ∀ s ∈ (samples e payload).map (towardsZero n), InRange e s := by
      intro s hs
      obtain ⟨k, hk, rfl⟩ := List.mem_map.mp hs
      exact (inRange_of_mem_samples hk).towardsZero n
    rw [Function.iterate_succ_apply', ih, relay_eq, samples_packed hrange, List.map_map]
    refine congrArg (packed e) (List.map_congr_left fun s _ => ?_)
    exact (towardsZero_succ n s).symm

/-- A quiet sample of one packet, and then none. -/
theorem relay_iterate_quiet :
    (relay .L16)^[2] [0, 1, 255, 254] = packed .L16 ([1, -2].map (towardsZero 2)) := by
  have hsamples : samples .L16 [0, 1, 255, 254] = [1, -2] := by decide
  rw [relay_iterate .L16 [0, 1, 255, 254] 2 (by decide), hsamples]

end Aes67.Rtp.PCMCodec
