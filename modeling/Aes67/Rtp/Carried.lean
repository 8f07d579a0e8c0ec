import Aes67.Driver.Alignment
import Aes67.Shared.Whole

/-!
# What a packet carries

A packet is put together from the rings of one device and taken apart into the rings of another. Both
sides go through the channels of the stream in order, and through a strided copy.

* `interleaveChannel`, `deinterleaveChannel`;
* `RTPTransmitter.readDeviceChannels`, `RTPReceiver.mapChannelsToDevice`: with the samples;
* `Gathered`, `gathered_step`: the packet after some of the channels; `Landed`, `landed_step`: the
  rings after some of the channels;
* **`channels_arrive`**: each channel of the device receives what was read for its stream channel.
-/

namespace Aes67

variable {α : Type}

/-! ## Strided copies -/

/-- `interleaveChannel`. -/
def interleaveChannel (src dst : ℕ → α) (frames channels channel : ℕ) : ℕ → α :=
  (List.range frames).foldl (fun dst f => Function.update dst (f * channels + channel) (src f)) dst

/-- `deinterleaveChannel`. -/
def deinterleaveChannel (src dst : ℕ → α) (frames channels channel : ℕ) : ℕ → α :=
  (List.range frames).foldl (fun dst f => Function.update dst f (src (f * channels + channel))) dst

section Strided

variable {src dst : ℕ → α} {frames channels channel c f : ℕ}

/-- A cell of the packet is one channel of one frame. -/
theorem cell_inj {f' c' : ℕ} (hc : c < channels) (hc' : c' < channels) :
    f * channels + c = f' * channels + c' ↔ f = f' ∧ c = c' := by
  refine ⟨fun h => ?_, fun ⟨hf, hcc⟩ => hf ▸ hcc ▸ rfl⟩
  have hdiv : f = f' := by
    have := congrArg (· / channels) h
    simpa only [Nat.mul_comm _ channels, Nat.mul_add_div (Nat.zero_lt_of_lt hc),
      Nat.div_eq_of_lt hc, Nat.div_eq_of_lt hc', Nat.add_zero] using this
  subst hdiv
  exact ⟨rfl, Nat.add_left_cancel h⟩

theorem interleaveChannel_apply (hc : c < channels) (hch : channel < channels) :
    interleaveChannel src dst frames channels channel (f * channels + c) =
      if f < frames ∧ c = channel then src f else dst (f * channels + c) := by
  induction frames with
  | zero => simp [interleaveChannel]
  | succ n ih =>
    rw [interleaveChannel] at ih ⊢
    rw [List.range_succ, List.foldl_append, List.foldl_cons, List.foldl_nil,
      Function.update_apply, ih]
    simp only [cell_inj hc hch]
    by_cases hf : f = n <;> by_cases hcc : c = channel
    · simp [hf, hcc]
    · simp [hcc]
    · have : f < n ↔ f < n + 1 := by omega
      simp [hf, hcc, this]
    · simp [hcc]

theorem deinterleaveChannel_apply (hf : f < frames) :
    deinterleaveChannel src dst frames channels channel f = src (f * channels + channel) := by
  induction frames with
  | zero => exact absurd hf (Nat.not_lt_zero f)
  | succ n ih =>
    rw [deinterleaveChannel] at ih ⊢
    rw [List.range_succ, List.foldl_append, List.foldl_cons, List.foldl_nil,
      Function.update_apply]
    split_ifs with h
    · rw [h]
    · exact ih (by omega)

end Strided

/-! ## The two sides -/

/-- `memcpy` of some samples to the front of a buffer. -/
def copyTo (data : List α) (buffer : ℕ → α) : ℕ → α := fun i => data.getD i (buffer i)

/-- `memset` to silence, from one place to another. -/
def silence [Zero α] (buffer : ℕ → α) (start stop : ℕ) : ℕ → α :=
  fun i => if start ≤ i ∧ i < stop then 0 else buffer i

namespace RTPTransmitter

/-- The rings of the device, the buffer of one channel and the packet. -/
structure Reading (α : Type) where
  deviceChannels : ℕ → SPSCRingBuffer α
  channelBuffer : ℕ → α
  interleavedAudio : ℕ → α
  hadUnderrun : Bool := false

variable [Zero α]

/-- `readFrom`. -/
def readFrom (frameCount : ℕ) (s : Reading α) (deviceChannel : ℕ) : Reading α :=
  if deviceChannel ≥ kMaxDeviceChannels then
    { s with channelBuffer := silence s.channelBuffer 0 frameCount }
  else
    let (ring, data) := (s.deviceChannels deviceChannel).read frameCount
    let s := { s with
      deviceChannels := Function.update s.deviceChannels deviceChannel ring
      channelBuffer := copyTo data s.channelBuffer }
    if data.length < frameCount then
      { s with channelBuffer := silence s.channelBuffer data.length frameCount, hadUnderrun := true }
    else s

/-- One turn of the loop over the stream's channels. -/
def readChannel (r : Rtp) (frameCount : ℕ) (s : Reading α) (streamChannel : ℕ) : Reading α :=
  let s := match r.mapping.routes with
    | [] => readFrom frameCount s (r.mapping.deviceChannelStart + streamChannel)
    | routes =>
      match routes.find? fun route : ChannelRoute => route.streamChannel = streamChannel with
      | some route => readFrom frameCount s route.deviceChannel
      | none => { s with channelBuffer := silence s.channelBuffer 0 frameCount }
  { s with
    interleavedAudio := interleaveChannel s.channelBuffer s.interleavedAudio frameCount
      r.sdp.numChannels.toNat streamChannel }

/-- `RTPTransmitter::readDeviceChannels`. -/
def readDeviceChannels (r : Rtp) (frameCount : ℕ) (s : Reading α) : Reading α × Bool :=
  if r.mapping.routes = [] ∧
      r.mapping.deviceChannelStart + r.sdp.numChannels.toNat > kMaxDeviceChannels then (s, false)
  else if frameCount > Rtp.kMaxFramesPerPacket then (s, false)
  else
    let s := (List.range r.sdp.numChannels.toNat).foldl (readChannel r frameCount)
      { s with hadUnderrun := false }
    (s, !s.hadUnderrun)

end RTPTransmitter

namespace RTPReceiver

/-- The rings of the device, the buffer of one channel and what is counted. -/
structure Writing (α : Type) where
  deviceChannels : ℕ → SPSCRingBuffer α
  channelBuffer : ℕ → α
  hadUnderrun : Bool := false
  underruns : UInt64 := 0

/-- `writeTo`, of the samples in the buffer. -/
def writeTo (frameCount : ℕ) (s : Writing α) (deviceChannel : ℕ) : Writing α :=
  if deviceChannel ≥ kMaxDeviceChannels then s
  else
    let (ring, written) := (s.deviceChannels deviceChannel).write
      ((List.range frameCount).map s.channelBuffer)
    let s := { s with deviceChannels := Function.update s.deviceChannels deviceChannel ring }
    if written < frameCount ∧ s.hadUnderrun = false then
      { s with underruns := s.underruns + 1, hadUnderrun := true }
    else s

/-- One turn of the loop over the routes; the flag is `deinterleaved`. -/
def writeRoute (interleavedAudio : ℕ → α) (frameCount channels streamChannel : ℕ)
    (s : Writing α × Bool) (route : ChannelRoute) : Writing α × Bool :=
  if route.streamChannel ≠ streamChannel then s
  else
    let channelBuffer := if s.2 then s.1.channelBuffer
      else deinterleaveChannel interleavedAudio s.1.channelBuffer frameCount channels streamChannel
    (writeTo frameCount { s.1 with channelBuffer } route.deviceChannel, true)

/-- One turn of the loop over the stream's channels. -/
def writeChannel (r : Rtp) (interleavedAudio : ℕ → α) (frameCount : ℕ) (s : Writing α)
    (streamChannel : ℕ) : Writing α :=
  match r.mapping.routes with
  | [] =>
    writeTo frameCount { s with
      channelBuffer := deinterleaveChannel interleavedAudio s.channelBuffer frameCount
        r.sdp.numChannels.toNat streamChannel } (r.mapping.deviceChannelStart + streamChannel)
  | routes => (routes.foldl
      (writeRoute interleavedAudio frameCount r.sdp.numChannels.toNat streamChannel) (s, false)).1

/-- `RTPReceiver::mapChannelsToDevice`. -/
def mapChannelsToDevice (r : Rtp) (interleavedAudio : ℕ → α) (frameCount : ℕ) (s : Writing α) :
    Writing α :=
  if r.mapping.routes = [] ∧
      r.mapping.deviceChannelStart + r.sdp.numChannels.toNat > kMaxDeviceChannels then s
  else if frameCount > Rtp.kMaxFramesPerPacket then s
  else (List.range r.sdp.numChannels.toNat).foldl (writeChannel r interleavedAudio frameCount)
    { s with hadUnderrun := false }

end RTPReceiver

/-! ## The channels of a mapping -/

namespace ChannelMapping

variable {m : ChannelMapping} {c c' d : ℕ}

/-- The device channel first routed to a stream channel, or the one in its place of the block. -/
def first (m : ChannelMapping) (c : ℕ) : Option ℕ :=
  match m.routes with
  | [] => some (m.deviceChannelStart + c)
  | routes => (routes.find? fun route => route.streamChannel = c).map ChannelRoute.deviceChannel

/-- A stream channel is routed to a device channel, or has its place in the block. -/
def Lands (m : ChannelMapping) (c d : ℕ) : Prop :=
  match m.routes with
  | [] => d = m.deviceChannelStart + c
  | routes => ⟨c, d⟩ ∈ routes

/-- No two routes are to one device channel. -/
def Single (m : ChannelMapping) : Prop := (m.routes.map ChannelRoute.deviceChannel).Nodup

instance (m : ChannelMapping) : Decidable m.Single := List.nodupDecidable _

theorem lands_block (h : m.routes = []) : m.Lands c d ↔ d = m.deviceChannelStart + c := by
  unfold Lands
  rw [h]

theorem lands_routes (h : m.routes ≠ []) : m.Lands c d ↔ ⟨c, d⟩ ∈ m.routes := by
  obtain ⟨route, routes, hr⟩ := List.exists_cons_of_ne_nil h
  unfold Lands
  rw [hr]

theorem first_block (h : m.routes = []) : m.first c = some (m.deviceChannelStart + c) := by
  unfold first
  rw [h]

theorem first_routes (h : m.routes ≠ []) : m.first c =
    (m.routes.find? fun route => route.streamChannel = c).map ChannelRoute.deviceChannel := by
  obtain ⟨route, routes, hr⟩ := List.exists_cons_of_ne_nil h
  unfold first
  rw [hr]

theorem Single.eq_of_lands (h : m.Single) (hc : m.Lands c d) (hc' : m.Lands c' d) : c = c' := by
  by_cases hr : m.routes = []
  · rw [lands_block hr] at hc hc'
    exact Nat.add_left_cancel (hc.symm.trans hc')
  · rw [lands_routes hr] at hc hc'
    exact congrArg ChannelRoute.streamChannel (List.inj_on_of_nodup_map h hc hc' rfl)

theorem lands_of_first (h : m.first c = some d) : m.Lands c d := by
  by_cases hr : m.routes = []
  · rw [first_block hr] at h
    exact (lands_block hr).mpr (Option.some.inj h).symm
  · rw [first_routes hr] at h
    obtain ⟨route, hroute, rfl⟩ := Option.map_eq_some_iff.mp h
    have hc : route.streamChannel = c := by simpa using List.find?_some hroute
    exact (lands_routes hr).mpr (hc ▸ List.mem_of_find?_eq_some hroute)

theorem lt_of_fitsDevice {n : ℕ} {route : ChannelRoute} (h : m.fitsDevice n = true)
    (hroute : route ∈ m.routes) : route.deviceChannel < kMaxDeviceChannels := by
  unfold fitsDevice at h
  split at h
  · next hr => exact absurd (hr ▸ hroute) List.not_mem_nil
  · have := List.all_eq_true.mp h _ hroute
    simp only [Bool.and_eq_true, decide_eq_true_eq] at this
    exact this.1

theorem lt_of_lands {n : ℕ} (h : m.fitsDevice n = true) (hc : c < n) (hl : m.Lands c d) :
    d < kMaxDeviceChannels := by
  by_cases hr : m.routes = []
  · rw [lands_block hr] at hl
    rw [fitsDevice, hr] at h
    have := of_decide_eq_true h
    omega
  · exact lt_of_fitsDevice h ((lands_routes hr).mp hl)

end ChannelMapping

/-- What is read for each stream channel, with silence where there is too little or no route. -/
def carried [Zero α] (m : ChannelMapping) (rings : ℕ → SPSCRingBuffer α) (frameCount c : ℕ) :
    List α :=
  match m.first c with
  | some d => (rings d).contents.takeD frameCount 0
  | none => List.replicate frameCount 0

/-! ## The packet is put together -/

namespace RTPTransmitter

variable {r : Rtp} {frameCount c d f k : ℕ} {s s₀ : Reading α}

/-- A ring after it was read once more. -/
def takeFrom (frameCount : ℕ) (rings : ℕ → SPSCRingBuffer α) (d : ℕ) : ℕ → SPSCRingBuffer α :=
  Function.update rings d ((rings d).read frameCount).1

theorem foldl_takeFrom_of_not_mem {l : List ℕ} {rings : ℕ → SPSCRingBuffer α} (h : d ∉ l) :
    l.foldl (takeFrom frameCount) rings d = rings d := by
  induction l generalizing rings with
  | nil => rfl
  | cons d' l ih =>
    rw [List.mem_cons, not_or] at h
    rw [List.foldl_cons, ih h.2, takeFrom, Function.update_of_ne h.1]

variable [Zero α]

/-- One sample of what is carried. -/
def sample (m : ChannelMapping) (rings : ℕ → SPSCRingBuffer α) (c f : ℕ) : α :=
  match m.first c with
  | some d => (rings d).contents.getD f 0
  | none => 0

theorem takeD_eq (l : List α) : l.takeD frameCount 0 =
    (List.range frameCount).map fun f => l.getD f 0 := by
  induction frameCount generalizing l with
  | zero => rfl
  | succ n ih =>
    rw [List.takeD_succ, ih, List.range_succ_eq_map, List.map_cons, List.map_map]
    cases l <;> simp [Function.comp_def]

theorem carried_eq (m : ChannelMapping) (rings : ℕ → SPSCRingBuffer α) :
    carried m rings frameCount c = (List.range frameCount).map (sample m rings c) := by
  unfold carried sample
  cases m.first c with
  | some d => exact takeD_eq _
  | none => simp

theorem readFrom_deviceChannels (h : d < kMaxDeviceChannels) :
    (readFrom frameCount s d).deviceChannels = takeFrom frameCount s.deviceChannels d := by
  unfold readFrom
  rw [if_neg (not_le.mpr h)]
  dsimp only
  split_ifs <;> rfl

theorem readFrom_interleavedAudio :
    (readFrom frameCount s d).interleavedAudio = s.interleavedAudio := by
  unfold readFrom
  dsimp only
  split_ifs <;> rfl

/-- The buffer has what was in the ring, then silence. -/
theorem readFrom_channelBuffer (h : d < kMaxDeviceChannels)
    (hb : (s.deviceChannels d).Bounded) (hf : f < frameCount) :
    (readFrom frameCount s d).channelBuffer f = (s.deviceChannels d).contents.getD f 0 := by
  have hdata := SPSCRingBuffer.read_snd (n := frameCount) hb
  unfold readFrom
  rw [if_neg (not_le.mpr h)]
  dsimp only
  rw [hdata, List.length_take]
  rcases lt_or_ge f (s.deviceChannels d).contents.length with hlt | hge
  · -- a sample that was read
    have hget : copyTo ((s.deviceChannels d).contents.take frameCount) s.channelBuffer f =
        (s.deviceChannels d).contents.getD f 0 := by
      simp [copyTo, hf, hlt]
    split_ifs
    · dsimp only
      rw [silence, if_neg (by omega)]
      exact hget
    · exact hget
  · -- one that was missing
    rw [if_pos (by omega)]
    dsimp only
    rw [silence, if_pos (by omega), List.getD_eq_default _ _ hge]

theorem readChannel_eq : readChannel r frameCount s c =
    let s' := match r.mapping.first c with
      | some d => readFrom frameCount s d
      | none => { s with channelBuffer := silence s.channelBuffer 0 frameCount }
    { s' with
      interleavedAudio := interleaveChannel s'.channelBuffer s'.interleavedAudio frameCount
        r.sdp.numChannels.toNat c } := by
  unfold readChannel ChannelMapping.first
  split
  · rfl
  · cases r.mapping.routes.find? fun route : ChannelRoute => route.streamChannel = c <;> rfl

theorem readChannel_deviceChannels (h : ∀ d, r.mapping.first c = some d → d < kMaxDeviceChannels) :
    (readChannel r frameCount s c).deviceChannels =
      (r.mapping.first c).toList.foldl (takeFrom frameCount) s.deviceChannels := by
  rw [readChannel_eq]
  cases hfirst : r.mapping.first c with
  | some d => exact readFrom_deviceChannels (h d hfirst)
  | none => rfl

theorem readChannel_interleavedAudio {c' : ℕ} (hc : c < r.sdp.numChannels.toNat)
    (hc' : c' < r.sdp.numChannels.toNat) (hf : f < frameCount)
    (h : ∀ d, r.mapping.first c = some d →
      d < kMaxDeviceChannels ∧ (s.deviceChannels d).Bounded) :
    (readChannel r frameCount s c).interleavedAudio (f * r.sdp.numChannels.toNat + c') =
      if c' = c then sample r.mapping s.deviceChannels c f
      else s.interleavedAudio (f * r.sdp.numChannels.toNat + c') := by
  rw [readChannel_eq]
  dsimp only
  rw [interleaveChannel_apply hc' hc, sample]
  simp only [hf, true_and]
  cases hfirst : r.mapping.first c with
  | some d =>
    obtain ⟨hd, hb⟩ := h d hfirst
    dsimp only
    rw [readFrom_channelBuffer hd hb hf, readFrom_interleavedAudio]
  | none =>
    have hsilent : silence s.channelBuffer 0 frameCount f = 0 := if_pos ⟨Nat.zero_le f, hf⟩
    dsimp only
    rw [hsilent]

/-- What is there after the first `k` channels of the stream: their rings are read, one after
another, and their places in the packet are filled. -/
structure Gathered (r : Rtp) (frameCount : ℕ) (s₀ s : Reading α) (k : ℕ) : Prop where
  rings : s.deviceChannels =
    ((List.range k).filterMap r.mapping.first).foldl (takeFrom frameCount) s₀.deviceChannels
  cells : ∀ c < k, ∀ f < frameCount, s.interleavedAudio (f * r.sdp.numChannels.toNat + c) =
    sample r.mapping s₀.deviceChannels c f

/-- **One more channel**: the ring it is read from is as it was, no other channel being read from
it. -/
theorem gathered_step (hfits : r.mapping.fitsDevice r.sdp.numChannels.toNat = true)
    (hsingle : r.mapping.Single)
    (hb : ∀ d < kMaxDeviceChannels, (s₀.deviceChannels d).Bounded)
    (hk : k < r.sdp.numChannels.toNat) (h : Gathered r frameCount s₀ s k) :
    Gathered r frameCount s₀ (readChannel r frameCount s k) (k + 1) := by
  have hlt (d) (hd : r.mapping.first k = some d) : d < kMaxDeviceChannels :=
    ChannelMapping.lt_of_lands hfits hk (ChannelMapping.lands_of_first hd)
  have hfresh (d) (hd : r.mapping.first k = some d) : s.deviceChannels d = s₀.deviceChannels d := by
    rw [h.rings]
    refine foldl_takeFrom_of_not_mem fun hmem => ?_
    obtain ⟨c, hc, hcd⟩ := List.mem_filterMap.mp hmem
    have hck := hsingle.eq_of_lands (ChannelMapping.lands_of_first hcd)
      (ChannelMapping.lands_of_first hd)
    exact (List.mem_range.mp hc).ne hck
  have hsample (f) : sample r.mapping s.deviceChannels k f =
      sample r.mapping s₀.deviceChannels k f := by
    unfold sample
    cases hfirst : r.mapping.first k with
    | some d =>
      dsimp only
      rw [hfresh d hfirst]
    | none => rfl
  refine ⟨?_, fun c hc f hf => ?_⟩
  · rw [readChannel_deviceChannels hlt, h.rings, List.range_succ, List.filterMap_append,
      List.foldl_append]
    cases hfirst : r.mapping.first k <;> simp [hfirst]
  · have hbound (d) (hd : r.mapping.first k = some d) :
        d < kMaxDeviceChannels ∧ (s.deviceChannels d).Bounded :=
      ⟨hlt d hd, hfresh d hd ▸ hb d (hlt d hd)⟩
    rw [readChannel_interleavedAudio hk (by omega) hf hbound]
    split_ifs with hck
    · rw [hck, hsample]
    · exact h.cells c (by omega) f hf

theorem gathered (hfits : r.mapping.fitsDevice r.sdp.numChannels.toNat = true)
    (hsingle : r.mapping.Single)
    (hb : ∀ d < kMaxDeviceChannels, (s₀.deviceChannels d).Bounded)
    (hk : k ≤ r.sdp.numChannels.toNat) :
    Gathered r frameCount s₀
      ((List.range k).foldl (readChannel r frameCount) { s₀ with hadUnderrun := false }) k := by
  induction k with
  | zero => exact ⟨rfl, fun c hc => absurd hc (Nat.not_lt_zero c)⟩
  | succ k ih =>
    rw [List.range_succ, List.foldl_append, List.foldl_cons, List.foldl_nil]
    exact gathered_step hfits hsingle hb hk (ih (Nat.le_of_succ_le hk))

/-- A mapping that fits the device is not turned down. -/
theorem readDeviceChannels_eq (hfits : r.mapping.fitsDevice r.sdp.numChannels.toNat = true)
    (hf : frameCount ≤ Rtp.kMaxFramesPerPacket) :
    (readDeviceChannels r frameCount s).1 = (List.range r.sdp.numChannels.toNat).foldl
      (readChannel r frameCount) { s with hadUnderrun := false } := by
  unfold readDeviceChannels
  rw [if_neg, if_neg (not_lt.mpr hf)]
  rintro ⟨hr, hlt⟩
  rw [ChannelMapping.fitsDevice, hr] at hfits
  exact absurd (of_decide_eq_true hfits) (not_le.mpr hlt)

end RTPTransmitter

/-! ## The packet is taken apart -/

namespace RTPReceiver

variable {r : Rtp} {interleavedAudio : ℕ → α} {frameCount n c d k : ℕ} {s s₀ : Writing α}

/-- One channel of a packet. -/
def slot (interleavedAudio : ℕ → α) (frameCount n c : ℕ) : List α :=
  (List.range frameCount).map fun f => interleavedAudio (f * n + c)

/-- A ring after samples were written to it. -/
def putTo (data : List α) (rings : ℕ → SPSCRingBuffer α) (d : ℕ) : ℕ → SPSCRingBuffer α :=
  Function.update rings d ((rings d).write data).1

theorem writeTo_deviceChannels (h : d < kMaxDeviceChannels) :
    (writeTo frameCount s d).deviceChannels =
      putTo ((List.range frameCount).map s.channelBuffer) s.deviceChannels d := by
  unfold writeTo
  rw [if_neg (not_le.mpr h)]
  dsimp only
  split_ifs <;> rfl

theorem writeTo_channelBuffer : (writeTo frameCount s d).channelBuffer = s.channelBuffer := by
  unfold writeTo
  dsimp only
  split_ifs <;> rfl

theorem map_deinterleaveChannel {dst : ℕ → α} :
    (List.range frameCount).map (deinterleaveChannel interleavedAudio dst frameCount n c) =
      slot interleavedAudio frameCount n c :=
  List.map_congr_left fun _ hf => deinterleaveChannel_apply (List.mem_range.mp hf)

/-- Where the channel is taken out of the packet once, its samples are in the buffer. -/
def Ready (interleavedAudio : ℕ → α) (frameCount n c : ℕ) (s : Writing α × Bool) : Prop :=
  s.2 = true → (List.range frameCount).map s.1.channelBuffer =
    slot interleavedAudio frameCount n c

theorem writeRoute_of_eq {s : Writing α × Bool} {route : ChannelRoute}
    (hs : Ready interleavedAudio frameCount n c s) (hc : route.streamChannel = c)
    (hd : route.deviceChannel < kMaxDeviceChannels) :
    Ready interleavedAudio frameCount n c
        (writeRoute interleavedAudio frameCount n c s route) ∧
      (writeRoute interleavedAudio frameCount n c s route).1.deviceChannels =
        putTo (slot interleavedAudio frameCount n c) s.1.deviceChannels route.deviceChannel := by
  have hbuffer : (List.range frameCount).map (if s.2 then s.1.channelBuffer
      else deinterleaveChannel interleavedAudio s.1.channelBuffer frameCount n c) =
      slot interleavedAudio frameCount n c := by
    split_ifs with hflag
    · exact hs hflag
    · exact map_deinterleaveChannel
  unfold writeRoute
  rw [if_neg (not_not.mpr hc)]
  dsimp only
  refine ⟨fun _ => ?_, ?_⟩
  · dsimp only
    rw [writeTo_channelBuffer]
    exact hbuffer
  · rw [writeTo_deviceChannels hd]
    dsimp only
    rw [hbuffer]

/-- The loop over the routes reaches each ring by one route at most. -/
theorem foldl_writeRoute {l : List ChannelRoute} {s : Writing α × Bool}
    (hlt : ∀ route ∈ l, route.deviceChannel < kMaxDeviceChannels)
    (hn : (l.map ChannelRoute.deviceChannel).Nodup)
    (hs : Ready interleavedAudio frameCount n c s) :
    (l.foldl (writeRoute interleavedAudio frameCount n c) s).1.deviceChannels d =
      if ⟨c, d⟩ ∈ l then
        ((s.1.deviceChannels d).write (slot interleavedAudio frameCount n c)).1
      else s.1.deviceChannels d := by
  induction l generalizing s with
  | nil => simp
  | cons route l ih =>
    rw [List.map_cons, List.nodup_cons] at hn
    have hl (route') (h : route' ∈ l) := hlt route' (List.mem_cons_of_mem _ h)
    rw [List.foldl_cons]
    by_cases hc : route.streamChannel = c
    · obtain ⟨hs', hrings⟩ := writeRoute_of_eq hs hc (hlt route List.mem_cons_self)
      rw [ih hl hn.2 hs', hrings, putTo]
      by_cases hd : d = route.deviceChannel
      · have hroute : (⟨c, d⟩ : ChannelRoute) = route := by rw [← hc, hd]
        have hnot : (⟨c, d⟩ : ChannelRoute) ∉ l := fun hmem =>
          hn.1 (List.mem_map.mpr ⟨_, hmem, hd⟩)
        rw [if_neg hnot, if_pos (hroute ▸ List.mem_cons_self), hd, Function.update_self]
      · have hroute : (⟨c, d⟩ : ChannelRoute) ≠ route := fun h =>
          hd (congrArg ChannelRoute.deviceChannel h)
        rw [Function.update_of_ne hd]
        simp [hroute]
    · have hskip : writeRoute interleavedAudio frameCount n c s route = s := if_pos hc
      have hroute : (⟨c, d⟩ : ChannelRoute) ≠ route := fun h =>
        hc (congrArg ChannelRoute.streamChannel h).symm
      rw [hskip, ih hl hn.2 hs]
      simp [hroute]

open Classical in
theorem writeChannel_deviceChannels (hfits : r.mapping.fitsDevice r.sdp.numChannels.toNat = true)
    (hsingle : r.mapping.Single) (hc : c < r.sdp.numChannels.toNat) :
    (writeChannel r interleavedAudio frameCount s c).deviceChannels d =
      if r.mapping.Lands c d then ((s.deviceChannels d).write
        (slot interleavedAudio frameCount r.sdp.numChannels.toNat c)).1
      else s.deviceChannels d := by
  by_cases hr : r.mapping.routes = []
  · have hlt := ChannelMapping.lt_of_lands hfits hc ((ChannelMapping.lands_block hr).mpr rfl)
    unfold writeChannel
    rw [hr]
    dsimp only
    rw [writeTo_deviceChannels hlt]
    dsimp only
    rw [map_deinterleaveChannel, putTo, Function.update_apply]
    simp only [ChannelMapping.lands_block hr]
    split_ifs with hd
    · rw [hd]
    · rfl
  · have hlt (route) (hmem : route ∈ r.mapping.routes) : route.deviceChannel < kMaxDeviceChannels :=
      ChannelMapping.lt_of_fitsDevice hfits hmem
    have hchannel : writeChannel r interleavedAudio frameCount s c = (r.mapping.routes.foldl
        (writeRoute interleavedAudio frameCount r.sdp.numChannels.toNat c) (s, false)).1 := by
      unfold writeChannel
      split
      · contradiction
      · rfl
    rw [hchannel, foldl_writeRoute hlt hsingle (fun h => by cases h)]
    simp only [ChannelMapping.lands_routes hr]

/-- What is there after the first `k` channels of the stream: the rings they land on are written
once, and the others are as they were. -/
structure Landed (r : Rtp) (interleavedAudio : ℕ → α) (frameCount : ℕ) (s₀ s : Writing α)
    (k : ℕ) : Prop where
  written : ∀ c < k, ∀ d, r.mapping.Lands c d → s.deviceChannels d =
    ((s₀.deviceChannels d).write (slot interleavedAudio frameCount r.sdp.numChannels.toNat c)).1
  kept : ∀ d, (∀ c < k, ¬ r.mapping.Lands c d) → s.deviceChannels d = s₀.deviceChannels d

/-- **One more channel** lands on rings no other channel lands on. -/
theorem landed_step (hfits : r.mapping.fitsDevice r.sdp.numChannels.toNat = true)
    (hsingle : r.mapping.Single) (hk : k < r.sdp.numChannels.toNat)
    (h : Landed r interleavedAudio frameCount s₀ s k) :
    Landed r interleavedAudio frameCount s₀ (writeChannel r interleavedAudio frameCount s k)
      (k + 1) := by
  classical
  refine ⟨fun c hc d hd => ?_, fun d hd => ?_⟩
  · rw [writeChannel_deviceChannels hfits hsingle hk]
    rcases Nat.lt_succ_iff_lt_or_eq.mp hc with hlt | rfl
    · rw [if_neg fun hkd => hlt.ne (hsingle.eq_of_lands hd hkd)]
      exact h.written c hlt d hd
    · rw [if_pos hd, h.kept d fun c' hc' hd' => hc'.ne (hsingle.eq_of_lands hd' hd)]
  · rw [writeChannel_deviceChannels hfits hsingle hk, if_neg (hd k (Nat.lt_succ_self k))]
    exact h.kept d fun c hc => hd c (Nat.lt_succ_of_lt hc)

theorem landed (hfits : r.mapping.fitsDevice r.sdp.numChannels.toNat = true)
    (hsingle : r.mapping.Single) (hk : k ≤ r.sdp.numChannels.toNat) :
    Landed r interleavedAudio frameCount s₀ ((List.range k).foldl
      (writeChannel r interleavedAudio frameCount) { s₀ with hadUnderrun := false }) k := by
  induction k with
  | zero => exact ⟨fun c hc => absurd hc (Nat.not_lt_zero c), fun _ _ => rfl⟩
  | succ k ih =>
    rw [List.range_succ, List.foldl_append, List.foldl_cons, List.foldl_nil]
    exact landed_step hfits hsingle hk (ih (Nat.le_of_succ_le hk))

theorem mapChannelsToDevice_eq (hfits : r.mapping.fitsDevice r.sdp.numChannels.toNat = true)
    (hf : frameCount ≤ Rtp.kMaxFramesPerPacket) :
    mapChannelsToDevice r interleavedAudio frameCount s = (List.range r.sdp.numChannels.toNat).foldl
      (writeChannel r interleavedAudio frameCount) { s with hadUnderrun := false } := by
  unfold mapChannelsToDevice
  rw [if_neg, if_neg (not_lt.mpr hf)]
  rintro ⟨hr, hlt⟩
  rw [ChannelMapping.fitsDevice, hr] at hfits
  exact absurd (of_decide_eq_true hfits) (not_le.mpr hlt)

end RTPReceiver

/-! ## From ring to ring -/

theorem Rtp.readDeviceChannels_eq {r : Rtp} {frameCount : ℕ}
    (hfits : r.mapping.fitsDevice r.sdp.numChannels.toNat = true)
    (hf : frameCount ≤ kMaxFramesPerPacket) :
    r.readDeviceChannels frameCount =
      (List.range r.sdp.numChannels.toNat).filterMap r.mapping.first := by
  rw [Rtp.readDeviceChannels, if_neg (not_lt.mpr hf)]
  split
  · next hr =>
    rw [ChannelMapping.fitsDevice, hr] at hfits
    rw [Rtp.block, if_neg (not_lt.mpr (of_decide_eq_true hfits)), ← List.filterMap_eq_map]
    exact List.filterMap_congr fun c _ => (ChannelMapping.first_block hr).symm
  · next hr =>
    refine List.filterMap_congr fun c _ => ?_
    rw [ChannelMapping.first_routes hr]
    cases hroute : r.mapping.routes.find? fun route => route.streamChannel = c with
    | some route =>
      exact if_pos (ChannelMapping.lt_of_fitsDevice hfits (List.mem_of_find?_eq_some hroute))
    | none => rfl

/-- **Channels arrive where they are routed**, for mappings no two routes of which are to one device
channel: each ring a stream channel lands on is given what was carried for it, as far as there is
room, the others are left alone, and the rings read are read once each. -/
theorem channels_arrive [Zero α] {tx rx : Rtp} {n frameCount : ℕ}
    (htx : tx.sdp.numChannels.toNat = n) (hrx : rx.sdp.numChannels.toNat = n)
    (hfitsTx : tx.mapping.fitsDevice n = true) (hfitsRx : rx.mapping.fitsDevice n = true)
    (hsingleTx : tx.mapping.Single) (hsingleRx : rx.mapping.Single) (hf : frameCount ≤ 512)
    (s : RTPTransmitter.Reading α) (t : RTPReceiver.Writing α)
    (hs : ∀ d < kMaxDeviceChannels, (s.deviceChannels d).Bounded)
    (ht : ∀ d < kMaxDeviceChannels, (t.deviceChannels d).Bounded) :
    let sent := (RTPTransmitter.readDeviceChannels tx frameCount s).1
    let received := RTPReceiver.mapChannelsToDevice rx sent.interleavedAudio frameCount t
    (∀ c < n, ∀ d, rx.mapping.Lands c d → (received.deviceChannels d).contents =
      (t.deviceChannels d).contents ++
        (carried tx.mapping s.deviceChannels frameCount c).take (t.deviceChannels d).room) ∧
    (∀ d, (∀ c < n, ¬ rx.mapping.Lands c d) → received.deviceChannels d = t.deviceChannels d) ∧
    sent.deviceChannels = (tx.readDeviceChannels frameCount).foldl
      (RTPTransmitter.takeFrom frameCount) s.deviceChannels ∧
    (tx.readDeviceChannels frameCount).Nodup := by
  subst htx
  dsimp only
  have hsent := @RTPTransmitter.gathered _ _ frameCount _ _ _ hfitsTx hsingleTx hs le_rfl
  rw [← RTPTransmitter.readDeviceChannels_eq hfitsTx hf] at hsent
  generalize (RTPTransmitter.readDeviceChannels tx frameCount s).1 = sent at hsent
  rw [← hrx] at hfitsRx
  have hlanded := @RTPReceiver.landed _ _ sent.interleavedAudio frameCount _ t hfitsRx hsingleRx le_rfl
  rw [← RTPReceiver.mapChannelsToDevice_eq hfitsRx hf, hrx] at hlanded
  refine ⟨fun c hc d hd => ?_, hlanded.kept, ?_, Ends.nodup_readDeviceChannels hsingleTx⟩
  · have hlt := ChannelMapping.lt_of_lands hfitsRx (hrx.symm ▸ hc) hd
    have hslot : RTPReceiver.slot sent.interleavedAudio frameCount tx.sdp.numChannels.toNat c =
        carried tx.mapping s.deviceChannels frameCount c := by
      rw [RTPTransmitter.carried_eq]
      exact List.map_congr_left fun f hmem => hsent.cells c hc f (List.mem_range.mp hmem)
    rw [hlanded.written c hc d hd, SPSCRingBuffer.contents_write_fst (ht d hlt), hrx, hslot]
  · rw [Rtp.readDeviceChannels_eq hfitsTx hf]
    exact hsent.rings

/-- A ring of four samples at most. -/
def ringOf (data : List ℤ) : SPSCRingBuffer ℤ where
  buffer i := data.getD i 0
  capacity := 5
  writeIndex := min data.length 4

theorem bounded_ringOf (data : List ℤ) : (ringOf data).Bounded where
  capacity_le := show 5 ≤ vectorMaxSize by decide
  write_lt := Nat.lt_succ_of_le (min_le_right _ _)
  read_lt := Nat.succ_pos 4

/-- A stereo stream with these routes, or with the block from device channel 0 on. -/
def stereoOf (routes : List ChannelRoute) : Rtp where
  sdp := {}
  mapping := { routes }

def filled (rings : ℕ → List ℤ) : RTPTransmitter.Reading ℤ where
  deviceChannels d := ringOf (rings d)
  channelBuffer _ := 7
  interleavedAudio _ := 7

def waiting (rings : ℕ → List ℤ) : RTPReceiver.Writing ℤ where
  deviceChannels d := ringOf (rings d)
  channelBuffer _ := 7

/-- Channel 0 of a stereo packet, one sample short, on the second of its two device channels. -/
theorem stereo_arrives :
    ((RTPReceiver.mapChannelsToDevice (stereoOf [⟨0, 5⟩, ⟨1, 7⟩, ⟨0, 9⟩])
      (RTPTransmitter.readDeviceChannels (stereoOf []) 2
        (filled fun d => if d = 0 then [1] else [2, 3])).1.interleavedAudio 2
      (waiting fun _ => [])).deviceChannels 9).contents = [1, 0] :=
  ((@channels_arrive _ _ (stereoOf []) (stereoOf [⟨0, 5⟩, ⟨1, 7⟩, ⟨0, 9⟩]) 2 _ rfl rfl
    (by decide) (by decide) (by decide) (by decide) (by decide)
    (filled fun d => if d = 0 then [1] else [2, 3]) (waiting fun _ => [])
    (fun _ _ => bounded_ringOf _) fun _ _ => bounded_ringOf _).1 0 (by decide) 9
      ((ChannelMapping.lands_routes (by decide)).mpr (by decide))).trans (by decide)

/-- **Two routes to one device channel**, which the check on ranges lets through: the ring there is
given both channels of the packet, and the ring sent from is read twice. A ring that is full is given
nothing. -/
theorem doubled_not_arrives :
    (stereoOf [⟨0, 5⟩, ⟨1, 5⟩]).mapping.fitsDevice 2 = true ∧
    (stereoOf []).mapping.fitsDevice 2 = true ∧
    ((RTPReceiver.mapChannelsToDevice (stereoOf [⟨0, 5⟩, ⟨1, 5⟩])
      (RTPTransmitter.readDeviceChannels (stereoOf []) 1
        (filled fun d => if d = 0 then [1] else [2])).1.interleavedAudio 1
      (waiting fun _ => [])).deviceChannels 5).contents = [1, 2] ∧
    (stereoOf [⟨0, 5⟩, ⟨1, 5⟩]).readDeviceChannels 1 = [5, 5] ∧
    ((RTPReceiver.mapChannelsToDevice (stereoOf [])
      (RTPTransmitter.readDeviceChannels (stereoOf []) 1
        (filled fun d => if d = 0 then [1] else [2])).1.interleavedAudio 1
      (waiting fun _ => [9, 9, 9, 9])).deviceChannels 0).contents = [9, 9, 9, 9] := by
  decide +kernel

end Aes67
