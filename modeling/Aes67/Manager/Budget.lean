import Mathlib
import Aes67.Manager.Profile

/-!
# The packet budget in machine words

The packet budget is computed in `size_t`, and the width of a sample is one: a width may be such
that a packet's size does not fit in it. Below that, the three functions of the budget agree.

* `SizeT.rtpPacketBytes`, `SizeT.fits`, `SizeT.maxChannelsPerPacket`,
  `SizeT.maxFramesPerPacket`: the budget as it is computed;
* `Sized`: the size of the packet is a `size_t`, as with every width up to `2 ^ 16`;
* `SizeT.fits_eq`, `SizeT.maxChannelsPerPacket_eq`, `SizeT.maxFramesPerPacket_eq`: nothing overflows
  then;
* **`budget_consistent`**: a packet fits just when its channels do, and just when its frames do.
-/

namespace Aes67.PacketBudget

/-! ## The budget as it is computed -/

namespace SizeT

def rtpPacketBytes (channels : UInt16) (bytesPerSample : UInt64) (framesPerPacket : UInt32) :
    UInt64 :=
  .ofNat kRtpHeaderBytes + channels.toUInt64 * bytesPerSample * framesPerPacket.toUInt64

def fits (channels : UInt16) (bytesPerSample : UInt64) (framesPerPacket : UInt32) : Bool :=
  rtpPacketBytes channels bytesPerSample framesPerPacket ≤ .ofNat kMaxRtpPacketBytes

/-- A division by zero has no result. -/
def quotient (n d : UInt64) : Option UInt64 := if d = 0 then none else some (n / d)

def maxChannelsPerPacket (bytesPerSample : UInt64) (framesPerPacket : UInt32) : Option UInt16 :=
  if bytesPerSample = 0 ∨ framesPerPacket = 0 then some 0
  else do
    let perChannel := bytesPerSample * framesPerPacket.toUInt64
    let channels ← quotient (.ofNat kMaxAudioBytesPerPacket) perChannel
    if channels > 0xFFFF then some 0xFFFF else some channels.toUInt16

def maxFramesPerPacket (channels : UInt16) (bytesPerSample : UInt64) : Option UInt32 :=
  if channels = 0 ∨ bytesPerSample = 0 then some 0
  else do
    let perFrame := channels.toUInt64 * bytesPerSample
    let frames ← quotient (.ofNat kMaxAudioBytesPerPacket) perFrame
    some frames.toUInt32

end SizeT

/-! ## Sizes that do not overflow -/

/-- **The size of the packet is a `size_t`.** -/
def Sized (channels : UInt16) (bytesPerSample : UInt64) (framesPerPacket : UInt32) : Prop :=
  kRtpHeaderBytes + channels.toNat * bytesPerSample.toNat * framesPerPacket.toNat < 2 ^ 64

variable {channels : UInt16} {width : UInt64} {frames : UInt32}

/-- A width that fits in 16 bits is no danger, whatever the counts. -/
theorem sized_of_width_le (h : width.toNat ≤ 2 ^ 16) : Sized channels width frames := by
  have hc : channels.toNat ≤ 2 ^ 16 - 1 := Nat.le_sub_one_of_lt channels.toNat_lt
  have hf : frames.toNat ≤ 2 ^ 32 - 1 := Nat.le_sub_one_of_lt frames.toNat_lt
  have hproduct : channels.toNat * width.toNat * frames.toNat ≤
      (2 ^ 16 - 1) * 2 ^ 16 * (2 ^ 32 - 1) :=
    Nat.mul_le_mul (Nat.mul_le_mul hc h) hf
  rw [Sized, kRtpHeaderBytes]
  omega

theorem toNat_pos_of_ne_zero {n : UInt64} (h : n ≠ 0) : 0 < n.toNat :=
  Nat.pos_of_ne_zero fun h0 => h (UInt64.toNat_inj.mp h0)

theorem channels_pos (h : channels ≠ 0) : 0 < channels.toNat :=
  Nat.pos_of_ne_zero fun h0 => h (UInt16.toNat_inj.mp h0)

theorem frames_pos (h : frames ≠ 0) : 0 < frames.toNat :=
  Nat.pos_of_ne_zero fun h0 => h (UInt32.toNat_inj.mp h0)

/-- The products within a size are within it. -/
theorem Sized.products (h : Sized channels width frames) (hc : channels ≠ 0) (hf : frames ≠ 0) :
    channels.toNat * width.toNat < 2 ^ 64 ∧ width.toNat * frames.toNat < 2 ^ 64 := by
  have hleft : channels.toNat * width.toNat ≤ channels.toNat * width.toNat * frames.toNat :=
    Nat.le_mul_of_pos_right _ (frames_pos hf)
  have hright : width.toNat * frames.toNat ≤ channels.toNat * (width.toNat * frames.toNat) :=
    Nat.le_mul_of_pos_left _ (channels_pos hc)
  rw [Sized] at h
  rw [← Nat.mul_assoc] at hright
  omega

namespace SizeT

theorem toNat_mul_of_lt {a b : UInt64} (h : a.toNat * b.toNat < 2 ^ 64) :
    (a * b).toNat = a.toNat * b.toNat := by
  rw [UInt64.toNat_mul, Nat.mod_eq_of_lt h]

theorem toNat_rtpPacketBytes (h : Sized channels width frames) (hc : channels ≠ 0)
    (hf : frames ≠ 0) : (rtpPacketBytes channels width frames).toNat =
      PacketBudget.rtpPacketBytes channels width.toNat frames := by
  have hproducts := h.products hc hf
  have hinner : (channels.toUInt64 * width).toNat = channels.toNat * width.toNat := by
    rw [toNat_mul_of_lt (by rw [UInt16.toNat_toUInt64]; exact hproducts.1),
      UInt16.toNat_toUInt64]
  have houter : (channels.toUInt64 * width * frames.toUInt64).toNat =
      channels.toNat * width.toNat * frames.toNat := by
    rw [toNat_mul_of_lt, hinner, UInt32.toNat_toUInt64]
    rw [hinner, UInt32.toNat_toUInt64]
    rw [Sized] at h
    omega
  rw [rtpPacketBytes, UInt64.toNat_add, houter, PacketBudget.rtpPacketBytes]
  exact Nat.mod_eq_of_lt h

theorem fits_eq (h : Sized channels width frames) (hc : channels ≠ 0) (hf : frames ≠ 0) :
    fits channels width frames = PacketBudget.fits channels width.toNat frames := by
  have hle : rtpPacketBytes channels width frames ≤ .ofNat kMaxRtpPacketBytes ↔
      PacketBudget.rtpPacketBytes channels width.toNat frames ≤ kMaxRtpPacketBytes := by
    rw [UInt64.le_iff_toNat_le, toNat_rtpPacketBytes h hc hf]
    rfl
  exact decide_eq_decide.mpr hle

/-- A division by what is not zero. -/
theorem quotient_eq {d : UInt64} (h : d ≠ 0) : ∃ q, quotient (.ofNat kMaxAudioBytesPerPacket) d =
    some q ∧ q.toNat = kMaxAudioBytesPerPacket / d.toNat :=
  ⟨_, if_neg h, by rw [UInt64.toNat_div]; rfl⟩

theorem quotient_le (d : ℕ) : kMaxAudioBytesPerPacket / d ≤ 1460 := Nat.div_le_self _ d

theorem ne_zero_of_toNat_pos {n : UInt64} (h : 0 < n.toNat) : n ≠ 0 := by
  rintro rfl
  exact absurd h (lt_irrefl 0)

theorem maxChannelsPerPacket_eq (hw : width ≠ 0) (hf : frames ≠ 0)
    (h : width.toNat * frames.toNat < 2 ^ 64) : maxChannelsPerPacket width frames =
      some (PacketBudget.maxChannelsPerPacket width.toNat frames) := by
  have hproduct : (width * frames.toUInt64).toNat = width.toNat * frames.toNat := by
    rw [toNat_mul_of_lt (by rwa [UInt32.toNat_toUInt64]), UInt32.toNat_toUInt64]
  have hpos : 0 < (width * frames.toUInt64).toNat := by
    rw [hproduct]
    exact Nat.mul_pos (toNat_pos_of_ne_zero hw) (frames_pos hf)
  obtain ⟨q, hq, hvalue⟩ := quotient_eq (ne_zero_of_toNat_pos hpos)
  rw [hproduct] at hvalue
  have hle := quotient_le (width.toNat * frames.toNat)
  have hwidth : ¬ (width.toNat = 0 ∨ frames = 0) :=
    not_or.mpr ⟨(toNat_pos_of_ne_zero hw).ne', hf⟩
  have hsmall : ¬ q > 0xFFFF := by
    rw [gt_iff_lt, UInt64.lt_iff_toNat_lt, hvalue, not_lt]
    exact hle.trans (by decide)
  have hround : q.toUInt16 =
      UInt16.ofNat (kMaxAudioBytesPerPacket / (width.toNat * frames.toNat)) := by
    rw [← hvalue]
    rfl
  rw [maxChannelsPerPacket, if_neg (not_or.mpr ⟨hw, hf⟩), PacketBudget.maxChannelsPerPacket,
    if_neg hwidth]
  simp only [hq, Option.bind_eq_bind, Option.bind_some, if_neg hsmall, hround]
  rw [if_neg (by omega)]

theorem maxFramesPerPacket_eq (hc : channels ≠ 0) (hw : width ≠ 0)
    (h : channels.toNat * width.toNat < 2 ^ 64) : maxFramesPerPacket channels width =
      some (PacketBudget.maxFramesPerPacket channels width.toNat) := by
  have hproduct : (channels.toUInt64 * width).toNat = channels.toNat * width.toNat := by
    rw [toNat_mul_of_lt (by rwa [UInt16.toNat_toUInt64]), UInt16.toNat_toUInt64]
  have hpos : 0 < (channels.toUInt64 * width).toNat := by
    rw [hproduct]
    exact Nat.mul_pos (channels_pos hc) (toNat_pos_of_ne_zero hw)
  obtain ⟨q, hq, hvalue⟩ := quotient_eq (ne_zero_of_toNat_pos hpos)
  rw [hproduct] at hvalue
  have hwidth : ¬ (channels = 0 ∨ width.toNat = 0) :=
    not_or.mpr ⟨hc, (toNat_pos_of_ne_zero hw).ne'⟩
  have hround : q.toUInt32 =
      UInt32.ofNat (kMaxAudioBytesPerPacket / (channels.toNat * width.toNat)) := by
    rw [← hvalue]
    rfl
  rw [maxFramesPerPacket, if_neg (not_or.mpr ⟨hc, hw⟩), PacketBudget.maxFramesPerPacket,
    if_neg hwidth]
  simp only [hq, Option.bind_eq_bind, Option.bind_some, hround]

end SizeT

/-! ## Where the three agree -/

theorem fits_iff {w : ℕ} : fits channels w frames = true ↔
    channels.toNat * w * frames.toNat ≤ kMaxAudioBytesPerPacket := by
  rw [fits, decide_eq_true_iff, rtpPacketBytes]
  change 12 + channels.toNat * w * frames.toNat ≤ 1472 ↔
    channels.toNat * w * frames.toNat ≤ 1460
  omega

theorem fits_iff_le_maxChannels {w : ℕ} (hw : w ≠ 0) (hf : frames ≠ 0) :
    fits channels w frames = true ↔ channels ≤ maxChannelsPerPacket w frames := by
  have hpos : 0 < w * frames.toNat := Nat.mul_pos (Nat.pos_of_ne_zero hw) (frames_pos hf)
  have hle := SizeT.quotient_le (w * frames.toNat)
  have hmax : (maxChannelsPerPacket w frames).toNat =
      kMaxAudioBytesPerPacket / (w * frames.toNat) := by
    rw [maxChannelsPerPacket, if_neg (not_or.mpr ⟨hw, hf⟩)]
    simp only [gt_iff_lt]
    rw [if_neg (by omega), UInt16.toNat_ofNat']
    exact Nat.mod_eq_of_lt (by omega)
  rw [fits_iff, UInt16.le_iff_toNat_le, hmax, Nat.le_div_iff_mul_le hpos, Nat.mul_assoc]

theorem fits_iff_le_maxFrames {w : ℕ} (hw : w ≠ 0) (hc : channels ≠ 0) :
    fits channels w frames = true ↔ frames ≤ maxFramesPerPacket channels w := by
  have hpos : 0 < channels.toNat * w := Nat.mul_pos (channels_pos hc) (Nat.pos_of_ne_zero hw)
  have hle := SizeT.quotient_le (channels.toNat * w)
  have hmax : (maxFramesPerPacket channels w).toNat =
      kMaxAudioBytesPerPacket / (channels.toNat * w) := by
    rw [maxFramesPerPacket, if_neg (not_or.mpr ⟨hc, hw⟩), UInt32.toNat_ofNat']
    exact Nat.mod_eq_of_lt (by omega)
  rw [fits_iff, UInt32.le_iff_toNat_le, hmax, Nat.le_div_iff_mul_le hpos, Nat.mul_comm]

/-- **The three functions of the budget agree** where the size of the packet is one of `size_t`, as
it is with every width up to `2 ^ 16`: then none of their products overflows. -/
theorem budget_consistent (hc : channels ≠ 0) (hw : width ≠ 0) (hf : frames ≠ 0)
    (h : Sized channels width frames ∨ width.toNat ≤ 2 ^ 16) :
    (SizeT.rtpPacketBytes channels width frames).toNat =
        kRtpHeaderBytes + channels.toNat * width.toNat * frames.toNat ∧
      (width * frames.toUInt64).toNat = width.toNat * frames.toNat ∧
      (channels.toUInt64 * width).toNat = channels.toNat * width.toNat ∧
      ∃ maxChannels maxFrames, SizeT.maxChannelsPerPacket width frames = some maxChannels ∧
        SizeT.maxFramesPerPacket channels width = some maxFrames ∧
        (SizeT.fits channels width frames = true ↔ channels ≤ maxChannels) ∧
        (SizeT.fits channels width frames = true ↔ frames ≤ maxFrames) := by
  have hsized : Sized channels width frames := h.elim id sized_of_width_le
  obtain ⟨hleft, hright⟩ := hsized.products hc hf
  have hwidth : width.toNat ≠ 0 := (toNat_pos_of_ne_zero hw).ne'
  refine ⟨SizeT.toNat_rtpPacketBytes hsized hc hf, ?_, ?_, _, _,
    SizeT.maxChannelsPerPacket_eq hw hf hright, SizeT.maxFramesPerPacket_eq hc hw hleft, ?_, ?_⟩
  · rw [SizeT.toNat_mul_of_lt (by rwa [UInt32.toNat_toUInt64]), UInt32.toNat_toUInt64]
  · rw [SizeT.toNat_mul_of_lt (by rwa [UInt16.toNat_toUInt64]), UInt16.toNat_toUInt64]
  · rw [SizeT.fits_eq hsized hc hf]
    exact fits_iff_le_maxChannels hwidth hf
  · rw [SizeT.fits_eq hsized hc hf]
    exact fits_iff_le_maxFrames hwidth hc

/-- Ten channels of 24 bits, for a millisecond at 48 kHz. -/
theorem budget_consistent_ten :
    (SizeT.rtpPacketBytes 10 3 48).toNat = kRtpHeaderBytes + 10 * 3 * 48 ∧
      ((3 : UInt64) * (48 : UInt32).toUInt64).toNat = 3 * 48 ∧
      ((10 : UInt16).toUInt64 * 3).toNat = 10 * 3 ∧
      ∃ maxChannels maxFrames, SizeT.maxChannelsPerPacket 3 48 = some maxChannels ∧
        SizeT.maxFramesPerPacket 10 3 = some maxFrames ∧
        (SizeT.fits 10 3 48 = true ↔ (10 : UInt16) ≤ maxChannels) ∧
        (SizeT.fits 10 3 48 = true ↔ (48 : UInt32) ≤ maxFrames) :=
  @budget_consistent 10 3 48 (by decide) (by decide) (by decide) (Or.inr (by decide))

/-- Two channels whose width is so large that the product is zero fit, and not even one does. -/
theorem budget_overflow : ¬ ∀ (channels : UInt16) (width : UInt64) (frames : UInt32),
    channels ≠ 0 → width ≠ 0 → frames ≠ 0 →
      ∀ maxChannels, SizeT.maxChannelsPerPacket width frames = some maxChannels →
        (SizeT.fits channels width frames = true ↔ channels ≤ maxChannels) := by
  intro h
  have hagree := h 2 0x8000000000000000 1 (by decide) (by decide) (by decide) 0 (by decide)
  exact absurd (hagree.mp (by decide)) (by decide)

end Aes67.PacketBudget
