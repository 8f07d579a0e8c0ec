import Mathlib
import Aes67.Lib.Lanes
import Aes67.Lib.Run
import Aes67.Driver.IOHandler
import Aes67.Manager.Model

/-!
# The channels of one stream, side by side

A receive stream writes each packet to the rings of its device channels, one ring after another, and
the IO cycle reads the rings one after another; for a transmit stream the two ends change places.
Neither waits for the other, so a ring may be found full, or empty, where the one before was not.
A sample is followed here by where it comes from.

* `Origin`, `Ends`: the rings the two ends walk, `Ends.receiving`, `Ends.transmitting`;
* `Path`, `Act`, `Path.step`: the two threads over the buffers, step by step;
* `Path.Aligned`: what is delivered together comes from one place; `Path.Even`: the step does not
  give one of the stream's rings another share than those before it;
* `Ends.Regular`: how a stream and the handler walk, **`Ends.regular_receiving`**,
  **`Ends.regular_transmitting`**.
-/

namespace Aes67

open Lanes (Pass Bundle Level pad)
open SPSCRingBuffer (Shared)

/-- Where a sample comes from: a packet, or for the other direction an IO cycle, and the frame in
it. -/
structure Origin where
  block : ℕ
  frame : ℕ
  deriving DecidableEq

/-- The samples of one channel of a block. -/
def blockOf (block frames : ℕ) : List Origin := (List.range frames).map (Origin.mk block)

/-- The two ends of the rings: which of them each walks for a block of so many frames, and the
silence the reader delivers for one without walking. -/
structure Ends where
  writes : ℕ → List ℕ
  reads : ℕ → List ℕ
  silent : ℕ → ℕ

namespace Ends

/-- `RTPReceiver::mapChannelsToDevice` and `AES67IOHandler::processInput`. -/
def receiving (r : Rtp) (channelCount : ℕ) : Ends where
  writes := r.mapChannelsToDevice
  reads := AES67IOHandler.inputChannels channelCount
  silent frames := if frames > AES67IOHandler.kMaxFramesPerBuffer then frames else 0

/-- `AES67IOHandler::processOutput` and `RTPTransmitter::readDeviceChannels`. -/
def transmitting (r : Rtp) (channelCount : ℕ) : Ends where
  writes := AES67IOHandler.outputChannels channelCount
  reads := r.readDeviceChannels
  silent _ := 0

/-- The rings both ends walk: those of the stream's channels on the device. -/
def lanes (e : Ends) : List ℕ := (e.writes 0).filter fun c => c ∈ e.reads 0

end Ends

/-- The rings, the two ends' progress, and what has been delivered from each ring. -/
structure Path where
  rings : ℕ → Shared Origin
  blocks : ℕ := 0
  writer : Pass ℕ := {}
  reader : Pass ℕ := {}
  delivered : ℕ → List (Option Origin) := fun _ => []

namespace Path

/-- A block arrives, or is asked for; or the thread of one end takes its next step. -/
inductive Act
  | arrive (frames : ℕ)
  | write
  | ask (frames : ℕ)
  | read

variable (s : Path)

/-- The writer's next step, at the ring of `c`: the call, a step inside it, or its return. -/
def stepWrite (c : ℕ) : Path :=
  match (s.rings c).producer with
  | .idle =>
    { s with
      rings := Function.update s.rings c
        ((s.rings c).step (.write (blockOf s.blocks s.writer.size))) }
  | _ =>
    { s with
      rings := Function.update s.rings c ((s.rings c).step .producer)
      writer := match (s.rings c).event .producer with
        | some (.accept xs) => s.writer.next c xs.length
        | _ => s.writer }

/-- The reader's next step, at the ring of `c`. -/
def stepRead (c : ℕ) : Path :=
  match (s.rings c).consumer with
  | .idle =>
    { s with rings := Function.update s.rings c ((s.rings c).step (.read s.reader.size)) }
  | _ =>
    match (s.rings c).event .consumer with
    | some (.give xs) =>
      { s with
        rings := Function.update s.rings c ((s.rings c).step .consumer)
        reader := s.reader.next c xs.length
        delivered := Function.update s.delivered c (s.delivered c ++ pad s.reader.size xs) }
    | _ => { s with rings := Function.update s.rings c ((s.rings c).step .consumer) }

def step (e : Ends) (s : Path) : Act → Path
  | .arrive frames =>
    match s.writer.rest with
    | [] => { s with blocks := s.blocks + 1, writer := .start frames (e.writes frames) }
    | _ => s
  | .write =>
    match s.writer.rest with
    | [] => s
    | c :: _ => s.stepWrite c
  | .ask frames =>
    match s.reader.rest with
    | [] =>
      { s with
        reader := .start frames (e.reads frames)
        delivered := fun c => s.delivered c ++ List.replicate (e.silent frames) none }
    | _ => s
  | .read =>
    match s.reader.rest with
    | [] => s
    | c :: _ => s.stepRead c

/-- Two samples delivered in the same place, neither of them silence, are of one frame of one
block. -/
def Aligned : Prop :=
  ∀ (c c' i : ℕ) (o o' : Origin), (s.delivered c)[i]? = some (some o) →
    (s.delivered c')[i]? = some (some o') → o = o'

/-- Where the step looks how much room, or how much audio, one of the stream's rings has, cut to the
block it is what the rings of the stream before it have had. -/
def Even (e : Ends) (s : Path) : Act → Prop
  | .write => ∀ c ∈ s.writer.rest.head?, c ∈ e.lanes → (s.rings c).producer.measuring = true →
      ∀ c' ∈ e.lanes, ∀ k ∈ s.writer.done c', k = min s.writer.size (s.rings c).ring.availableWrite
  | .read => ∀ c ∈ s.reader.rest.head?, c ∈ e.lanes → (s.rings c).consumer.measuring = true →
      ∀ c' ∈ e.lanes, ∀ k ∈ s.reader.done c', k = min s.reader.size (s.rings c).ring.available
  | _ => True

instance (e : Ends) (s : Path) : ∀ a, Decidable (Even e s a)
  | .arrive _ => inferInstanceAs (Decidable True)
  | .ask _ => inferInstanceAs (Decidable True)
  | .write => inferInstanceAs (Decidable (∀ c ∈ s.writer.rest.head?, _))
  | .read => inferInstanceAs (Decidable (∀ c ∈ s.reader.rest.head?, _))

end Path

/-! ## Walks -/

namespace Ends

variable {e : Ends} {r : Rtp} {n : ℕ}

/-- No ring comes twice in a walk, and a block is walked like the others or not at all. -/
structure Regular (e : Ends) : Prop where
  nodup_writes : ∀ n, (e.writes n).Nodup
  nodup_reads : ∀ n, (e.reads n).Nodup
  writes_eq : ∀ n, e.writes n = e.writes 0 ∨ e.writes n = []
  reads_eq : ∀ n, e.reads n = e.reads 0 ∨ e.reads n = []

theorem mem_lanes {c : ℕ} : c ∈ e.lanes ↔ c ∈ e.writes 0 ∧ c ∈ e.reads 0 := by
  simp [lanes]

theorem Regular.whole_writes (h : e.Regular) (n : ℕ) :
    (∀ c ∈ {c | c ∈ e.lanes}, c ∈ e.writes n) ∨ ∀ c ∈ {c | c ∈ e.lanes}, c ∉ e.writes n := by
  rcases h.writes_eq n with hn | hn <;> rw [hn]
  · exact .inl fun c hc => (mem_lanes.mp hc).1
  · exact .inr fun c _ => List.not_mem_nil

theorem Regular.whole_reads (h : e.Regular) (n : ℕ) :
    (∀ c ∈ {c | c ∈ e.lanes}, c ∈ e.reads n) ∨ ∀ c ∈ {c | c ∈ e.lanes}, c ∉ e.reads n := by
  rcases h.reads_eq n with hn | hn <;> rw [hn]
  · exact .inl fun c hc => (mem_lanes.mp hc).2
  · exact .inr fun c _ => List.not_mem_nil

theorem Regular.mem_writes (h : e.Regular) {c : ℕ} (hc : c ∈ e.writes n) : c ∈ e.writes 0 := by
  rcases h.writes_eq n with hn | hn <;> rw [hn] at hc
  · exact hc
  · cases hc

theorem Regular.mem_reads (h : e.Regular) {c : ℕ} (hc : c ∈ e.reads n) : c ∈ e.reads 0 := by
  rcases h.reads_eq n with hn | hn <;> rw [hn] at hc
  · exact hc
  · cases hc

theorem nodup_block : r.block.Nodup := by
  rw [Rtp.block]
  split_ifs
  · exact List.nodup_nil
  · exact List.nodup_range.map fun i j hij => Nat.add_left_cancel hij

theorem eq_of_route (h : (r.mapping.routes.map ChannelRoute.deviceChannel).Nodup)
    {a b : ChannelRoute} (ha : a ∈ r.mapping.routes) (hb : b ∈ r.mapping.routes)
    (hab : a.deviceChannel = b.deviceChannel) : a = b :=
  List.inj_on_of_nodup_map h ha hb hab

theorem nodup_mapChannelsToDevice (h : (r.mapping.routes.map ChannelRoute.deviceChannel).Nodup) :
    (r.mapChannelsToDevice n).Nodup := by
  rw [Rtp.mapChannelsToDevice]
  split_ifs
  · exact List.nodup_nil
  split
  · exact nodup_block
  · refine List.nodup_flatMap.mpr ⟨fun i _ => ?_, ?_⟩
    · exact h.sublist (List.filter_sublist.map _)
    · refine List.nodup_range.imp fun {i j} hij => ?_
      intro c hi hj
      obtain ⟨a, ha, hac⟩ := List.mem_map.mp hi
      obtain ⟨b, hb, hbc⟩ := List.mem_map.mp hj
      obtain ⟨ha, hai⟩ := List.mem_filter.mp ha
      obtain ⟨hb, hbj⟩ := List.mem_filter.mp hb
      have hab := eq_of_route h ha hb (hac.trans hbc.symm)
      simp only [decide_eq_true_eq] at hai hbj
      exact hij (hai.1.symm.trans (hab ▸ hbj.1))

theorem nodup_readDeviceChannels (h : (r.mapping.routes.map ChannelRoute.deviceChannel).Nodup) :
    (r.readDeviceChannels n).Nodup := by
  rw [Rtp.readDeviceChannels]
  split_ifs
  · exact List.nodup_nil
  split
  · exact nodup_block
  · have route {i : ℕ} {a : ChannelRoute}
        (ha : (r.mapping.routes.find? fun route => decide (route.streamChannel = i)) = some a) :
        a ∈ r.mapping.routes ∧ a.streamChannel = i :=
      ⟨List.mem_of_find?_eq_some ha, by simpa using List.find?_some ha⟩
    refine List.nodup_range.filterMap fun i j c hi hj => ?_
    split at hi
    · next a hfound =>
      split at hj
      · next b hfound' =>
        obtain ⟨ha, rfl⟩ := route hfound
        obtain ⟨hb, rfl⟩ := route hfound'
        split_ifs at hi
        · split_ifs at hj
          · rw [eq_of_route h ha hb ((Option.some.inj hi).trans (Option.some.inj hj).symm)]
          · cases hj
        · cases hi
      · cases hj
    · cases hi

theorem nodup_inputChannels {m : ℕ} : (AES67IOHandler.inputChannels m n).Nodup := by
  rw [AES67IOHandler.inputChannels]
  split_ifs
  · exact List.nodup_nil
  · exact List.nodup_range

/-- The walk of a handler or of an RTP object, which gives up on a block that is too long. -/
theorem walk_eq {bound : ℕ} {walk : List ℕ} {f : ℕ → List ℕ}
    (hf : ∀ n, f n = if n > bound then [] else walk) (n : ℕ) : f n = f 0 ∨ f n = [] := by
  rw [hf n, hf 0]
  split_ifs
  · exact .inr rfl
  · exact .inr rfl
  · rename_i h0
    exact absurd h0 (Nat.not_lt_zero _)
  · exact .inl rfl

theorem regular_receiving (h : (r.mapping.routes.map ChannelRoute.deviceChannel).Nodup)
    (channelCount : ℕ) : (receiving r channelCount).Regular where
  nodup_writes _ := nodup_mapChannelsToDevice h
  nodup_reads _ := nodup_inputChannels
  writes_eq := walk_eq fun _ => rfl
  reads_eq := walk_eq fun _ => rfl

theorem regular_transmitting (h : (r.mapping.routes.map ChannelRoute.deviceChannel).Nodup)
    (channelCount : ℕ) : (transmitting r channelCount).Regular where
  nodup_writes _ := nodup_inputChannels
  nodup_reads _ := nodup_readDeviceChannels h
  writes_eq := walk_eq fun _ => rfl
  reads_eq := walk_eq fun _ => rfl

end Ends

end Aes67
