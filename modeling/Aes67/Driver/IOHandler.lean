import Mathlib
import Aes67.Shared.Calls

/-!
# The IO handler

The model of `AES67IOHandler`: what Core Audio's cycle does with the device's rings. A cycle's calls
are made one after another on one thread, so a ring is seen between two calls only, as what it holds
(`Ring`); `Ring.write_of` and `Ring.read_of` say that a call run on `SPSCRingBuffer` does that to it.

* `Ring`: what a ring of some capacity holds, with `write` and `read`;
* `RTSafeStreamInterface`: what the handler reaches;
* `AES67IOHandler` with `OnReadClientInput`, `OnWriteClientOutput`, `processInput`, `processOutput`;
* `inputChannels`, `outputChannels`: the rings a cycle walks.
-/

namespace Aes67

/-- What a ring with room for `capacity` elements holds, oldest first. -/
@[ext]
structure Ring (α : Type) (capacity : ℕ) where
  elements : List α
  length_le : elements.length ≤ capacity

namespace Ring

variable {α : Type} {capacity : ℕ}

def empty : Ring α capacity := ⟨[], Nat.zero_le _⟩

variable (r : Ring α capacity)

/-- `write`: what there is room for goes in. -/
def write (data : List α) : Ring α capacity where
  elements := r.elements ++ data.take (capacity - r.elements.length)
  length_le := by
    have := r.length_le
    rw [List.length_append, List.length_take]
    omega

/-- `read`: what there is comes out. -/
def read (count : ℕ) : Ring α capacity where
  elements := r.elements.drop count
  length_le := by
    have := r.length_le
    rw [List.length_drop]
    omega

/-- What `write` returns. -/
def written (data : List α) : ℕ := min data.length (capacity - r.elements.length)

variable {r}

@[simp] theorem elements_write (data : List α) :
    (r.write data).elements = r.elements ++ data.take (capacity - r.elements.length) := rfl

@[simp] theorem elements_read (count : ℕ) : (r.read count).elements = r.elements.drop count := rfl

@[simp] theorem read_zero : r.read 0 = r := Ring.ext rfl

@[simp] theorem write_nil : r.write [] = r := by
  ext1
  simp

@[simp] theorem read_empty (count : ℕ) : (empty : Ring α capacity).read count = empty :=
  Ring.ext List.drop_nil

/-! ### Over the buffer -/

open SPSCRingBuffer (Shared)

variable {s t : Shared α}

/-- What a buffer holds, as a ring. -/
def of (s : Shared α) (h : s.Inv) : Ring α (s.ring.capacity - 1) where
  elements := s.ring.contents
  length_le := by
    rw [SPSCRingBuffer.length_contents]
    have := Shared.stored_lt h.bounded
    omega

/-- **A `write` of the buffer, run to its end, is a `write` of the ring.** -/
theorem write_of (h : s.Inv) (hp : s.producer = .idle) (data : List α) :
    ∃ k, ((List.replicate k .producer).foldl Shared.step (s.step (.write data))).producer = .idle ∧
      ((List.replicate k .producer).foldl Shared.step (s.step (.write data))).ring.contents =
        ((of s h).write data).elements :=
  Shared.contents_write h hp data

/-- **A `read` of the buffer, run to its end, is a `read` of the ring.** -/
theorem read_of (h : s.Inv) (hp : s.consumer = .idle) (n : ℕ) :
    ∃ k, ((List.replicate k .consumer).foldl Shared.step (s.step (.read n))).consumer = .idle ∧
      ((List.replicate k .consumer).foldl Shared.step (s.step (.read n))).ring.contents =
        ((of s h).read n).elements :=
  Shared.contents_read h hp n

end Ring

/-- `RTSafeStreamInterface`: the rings and counters the handler reaches. `written` counts the samples
that `write` has reported for each output ring. -/
structure RTSafeStreamInterface (α : Type) (capacity : ℕ) where
  isIORunning : Bool
  inputBuffers : ℕ → Ring α capacity
  outputBuffers : ℕ → Ring α capacity
  inputUnderruns : ℕ := 0
  outputOverruns : ℕ := 0
  written : ℕ → ℕ := fun _ => 0

/-- What a client finds in the buffer it passed to be filled: zero bytes, or the samples of the
device's channels, interleaved. -/
inductive Filled (α : Type)
  | silence (bytesCount : UInt32)
  | samples (outputData : List α)
  deriving DecidableEq

/-- The handler, with the format of the device as it was when the handler was made. -/
structure AES67IOHandler where
  cachedChannelCount : UInt32 := 128
  cachedBytesPerSample : UInt32 := 4

namespace AES67IOHandler

/-- `kNumChannels`, the number of rings in the array. -/
def kNumChannels : ℕ := 128

def kMaxFramesPerBuffer : ℕ := 4096

/-- The rings one cycle's input is read from. -/
def inputChannels (channelCount frameCount : ℕ) : List ℕ :=
  if frameCount > kMaxFramesPerBuffer then [] else List.range channelCount

/-- The rings one cycle's output is written to. -/
def outputChannels (channelCount frameCount : ℕ) : List ℕ :=
  if frameCount > kMaxFramesPerBuffer then [] else List.range channelCount

variable {α : Type} [Zero α] {capacity : ℕ} (h : AES67IOHandler)

/-- `channelBuffer` after the read of one ring. -/
def inputBuffer (ring : Ring α capacity) (frameCount : ℕ) : List α :=
  ring.elements.take frameCount ++ List.replicate (frameCount - ring.elements.length) 0

/-- `channelBuffer` before the write of one ring. -/
def outputBuffer (inputData : List α) (frameCount channelCount channel : ℕ) : List α :=
  (List.range frameCount).map fun frame => inputData.getD (frame * channelCount + channel) 0

/-- `processInput`. The underrun is recorded once a call. -/
def processInput (rt : RTSafeStreamInterface α capacity) (frameCount channelCount : ℕ) :
    RTSafeStreamInterface α capacity × List α :=
  let channels := inputChannels channelCount frameCount
  if frameCount > kMaxFramesPerBuffer then
    (rt, List.replicate (frameCount * channelCount) 0)
  else
    ({ rt with
        inputBuffers := fun channel =>
          if channel ∈ channels then (rt.inputBuffers channel).read frameCount
          else rt.inputBuffers channel
        inputUnderruns := rt.inputUnderruns +
          if channels.any fun channel => (rt.inputBuffers channel).elements.length < frameCount
          then 1 else 0 },
      (List.range frameCount).flatMap fun frame => channels.map fun channel =>
        (inputBuffer (rt.inputBuffers channel) frameCount).getD frame 0)

/-- `processOutput`. The overrun is recorded once a call. -/
def processOutput (rt : RTSafeStreamInterface α capacity) (inputData : List α)
    (frameCount channelCount : ℕ) : RTSafeStreamInterface α capacity :=
  let channels := outputChannels channelCount frameCount
  let samplesWritten := fun channel =>
    (rt.outputBuffers channel).written (outputBuffer inputData frameCount channelCount channel)
  { rt with
    outputBuffers := fun channel =>
      if channel ∈ channels then
        (rt.outputBuffers channel).write (outputBuffer inputData frameCount channelCount channel)
      else rt.outputBuffers channel
    outputOverruns := rt.outputOverruns +
      if channels.any fun channel => samplesWritten channel < frameCount then 1 else 0
    written := fun channel =>
      rt.written channel + if channel ∈ channels then samplesWritten channel else 0 }

/-- `cachedBytesPerFrame_`. -/
def cachedBytesPerFrame : UInt32 := h.cachedChannelCount * h.cachedBytesPerSample

/-- The frames `OnReadClientInput` finds room for in the buffer it is passed. -/
def frameCount (bytesCount : UInt32) : UInt32 :=
  if 0 < h.cachedBytesPerFrame then bytesCount / h.cachedBytesPerFrame else 0

/-- `OnReadClientInput`; none where no buffer is passed. -/
def OnReadClientInput (rt : RTSafeStreamInterface α capacity) (bytes : Bool) (bytesCount : UInt32) :
    RTSafeStreamInterface α capacity × Option (Filled α) :=
  if !bytes then (rt, none)
  else if !rt.isIORunning then (rt, some (.silence bytesCount))
  else if h.frameCount bytesCount = 0 ∨ h.cachedChannelCount = 0 ∨
      h.cachedChannelCount.toNat > kNumChannels then (rt, some (.silence bytesCount))
  else
    let r := processInput rt (h.frameCount bytesCount).toNat h.cachedChannelCount.toNat
    (r.1, some (.samples r.2))

/-- `OnWriteClientOutput`; no frames is a null pointer. -/
def OnWriteClientOutput (rt : RTSafeStreamInterface α capacity) (frames : Option (List α))
    (frameCount channelCount : UInt32) : RTSafeStreamInterface α capacity :=
  match frames with
  | none => rt
  | some inputData =>
    if !rt.isIORunning then rt
    else if channelCount = 0 ∨ channelCount.toNat > kNumChannels then rt
    else processOutput rt inputData frameCount.toNat channelCount.toNat

end AES67IOHandler

end Aes67
