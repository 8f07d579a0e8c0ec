import Mathlib
import Aes67.Lib.Pieces
import Aes67.Ravenna.DnsSd

/-!
# DSD in PCM frames

The model of `DoPDecoder`: two bytes of a DSD stream in each 24-bit sample, under a marker that
alternates. The buffers are there, as every caller sees to.

* `marker`, `encode`, `decode`, `validateDoPMarkers`, `isDoPStream`;
* **`encode_eq_iff`**: the frames that carry a stream are those whose markers pass and that decode
  to it.
-/

namespace Aes67.Rtp.DoPDecoder

open Ravenna.DnsSd (Octets)

def kDoPMarker1 : UInt8 := 0x05

def kDoPMarker2 : UInt8 := 0xFA

/-- The marker of a frame. -/
def marker (frame : ℕ) : UInt8 := if frame % 2 = 0 then kDoPMarker1 else kDoPMarker2

/-- Either order of the markers will do here. -/
def isDoPStream (data : Octets) : Bool :=
  if data.length < 6 then false
  else
    let marker1 := data.getD 0 0
    let marker2 := data.getD 3 0
    (marker1 == kDoPMarker1 && marker2 == kDoPMarker2) ||
      (marker1 == kDoPMarker2 && marker2 == kDoPMarker1)

/-- The loop body of `decode`: the marker is left out. -/
def unframed (dopData : Octets) (frame : ℕ) : Octets :=
  [dopData.getD (frame * 3 + 1) 0, dopData.getD (frame * 3 + 2) 0]

def decode (dopData : Octets) (dopFrames : ℕ) : Octets :=
  (List.range dopFrames).flatMap (unframed dopData)

/-- The loop body of `encode`. -/
def framed (dsdData : Octets) (frame : ℕ) : Octets :=
  [marker frame, dsdData.getD (frame * 2) 0, dsdData.getD (frame * 2 + 1) 0]

def encode (dsdData : Octets) (dsdFrames : ℕ) : Octets :=
  (List.range dsdFrames).flatMap (framed dsdData)

def validateDoPMarkers (dopData : Octets) (dopFrames : ℕ) : Bool :=
  if dopFrames = 0 then false
  else (List.range dopFrames).all fun frame => dopData.getD (frame * 3) 0 == marker frame

variable {dopData dsdData : Octets} {n i : ℕ}

/-- Lists of as many pieces of one width are the same where their pieces are. -/
theorem eq_flatMap_iff {w : ℕ} {l : Octets} {f : ℕ → Octets} (h : l.length = n * w)
    (hf : ∀ i, (f i).length = w) :
    (List.range n).flatMap f = l ↔ ∀ i < n, f i = piece w l i := by
  constructor
  · rintro rfl i hi
    exact (piece_flatMap (fun j _ => hf j) hi).symm
  · intro hpieces
    rw [← flatMap_piece h]
    exact List.flatMap_congr fun i hi => hpieces i (List.mem_range.mp hi)

/-- **The frames that carry a stream** are those whose markers pass and that decode to it: decoding
undoes encoding, and encoding undoes decoding just where the markers pass. -/
theorem encode_eq_iff (h0 : n ≠ 0) (hdsd : dsdData.length = n * 2) (hdop : dopData.length = n * 3) :
    encode dsdData n = dopData ↔
      validateDoPMarkers dopData n = true ∧ decode dopData n = dsdData := by
  rw [encode, eq_flatMap_iff hdop (fun _ => rfl), decode, eq_flatMap_iff hdsd (fun _ => rfl),
    validateDoPMarkers, if_neg h0, List.all_eq_true]
  simp only [List.mem_range, beq_iff_eq]
  rw [← forall₂_and]
  refine forall₂_congr fun i hi => ?_
  rw [piece_eq_map hdop hi 0, piece_eq_map hdsd hi 0, framed, unframed]
  simp only [List.range_succ, List.range_zero, List.nil_append, List.cons_append, List.map_cons,
    List.map_nil, List.cons.injEq, and_true, Nat.add_zero]
  constructor
  · rintro ⟨h1, h2, h3⟩
    exact ⟨h1.symm, h2.symm, h3.symm⟩
  · rintro ⟨h1, h2, h3⟩
    exact ⟨h1.symm, h2.symm, h3.symm⟩

/-- Frames whose markers pass are recognised from the second on. -/
theorem isDoPStream_of_validate (hn : 2 ≤ n) (hdop : dopData.length = n * 3)
    (h : validateDoPMarkers dopData n = true) : isDoPStream dopData = true := by
  rw [validateDoPMarkers, if_neg (by omega), List.all_eq_true] at h
  have h0 := h 0 (List.mem_range.mpr (by omega))
  have h1 := h 1 (List.mem_range.mpr (by omega))
  rw [beq_iff_eq] at h0 h1
  rw [isDoPStream, if_neg (by omega), Bool.or_eq_true, Bool.and_eq_true, beq_iff_eq, beq_iff_eq]
  exact .inl ⟨h0, h1⟩

/-- Two frames. -/
theorem encode_eq_iff_two : encode [1, 2, 3, 4] 2 = [0x05, 1, 2, 0xFA, 3, 4] ↔
    validateDoPMarkers [0x05, 1, 2, 0xFA, 3, 4] 2 = true ∧
      decode [0x05, 1, 2, 0xFA, 3, 4] 2 = [1, 2, 3, 4] :=
  encode_eq_iff (by decide) (by decide) (by decide)

end Aes67.Rtp.DoPDecoder
