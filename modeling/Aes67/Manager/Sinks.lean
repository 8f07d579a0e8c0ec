import Aes67.Manager.Accounting

/-!
# The mapping of a sink that follows

A sink taken along is added again with a mapping made from the first channel of its old one.

* `ChannelMapping.assignment`: which stream channel goes to which device channel;
* `InOrder`: a block as wide as the stream, or routes that spell one out;
* `find?_foldl_repointOne`, `find?_generated`: what an announcement leaves of every other stream,
  and what it makes of a sink it takes along;
* **`mappingsKept_iff`**: each sink taken along keeps its assignment exactly where it was in order.
-/

namespace Aes67

namespace ChannelMapping

/-- Which stream channel goes to which device channel. -/
def assignment (m : ChannelMapping) : List ChannelRoute :=
  match m.routes with
  | [] => (List.range m.deviceChannelCount).map fun i => ⟨i, m.deviceChannelStart + i⟩
  | routes => routes

/-- Stream channel `i` goes to the device channel `i` after the start, for the channels of the
stream and no others. -/
structure InOrder (m : ChannelMapping) (numChannels : ℕ) : Prop where
  all : ∀ i < numChannels, ⟨i, m.deviceChannelStart + i⟩ ∈ m.assignment
  only : ∀ r ∈ m.assignment,
    r.streamChannel < numChannels ∧ r.deviceChannel = m.deviceChannelStart + r.streamChannel

instance (m : ChannelMapping) (n : ℕ) : Decidable (m.InOrder n) :=
  decidable_of_iff ((∀ i < n, ⟨i, m.deviceChannelStart + i⟩ ∈ m.assignment) ∧
    ∀ r ∈ m.assignment,
      r.streamChannel < n ∧ r.deviceChannel = m.deviceChannelStart + r.streamChannel)
    ⟨fun h => ⟨h.1, h.2⟩, fun h => ⟨h.all, h.only⟩⟩

end ChannelMapping

namespace StreamManager

open Sdp (SDPSession)

variable {s s' : StreamManager} {announced : SDPSession} {env : Env}

/-- The assignment a sink is added again with. -/
theorem mem_assignment_newMapping {p : Repoint} {id : StreamID} {r : ChannelRoute} :
    r ∈ ({ p.newMapping with streamID := id } : ChannelMapping).assignment ↔
      r.streamChannel < p.newSdp.numChannels.toNat ∧
        r.deviceChannel = p.deviceChannelStart + r.streamChannel := by
  obtain ⟨i, c⟩ := r
  simp only [ChannelMapping.assignment, Repoint.newMapping, List.mem_map, List.mem_range,
    ChannelRoute.mk.injEq]
  constructor
  · rintro ⟨j, hj, rfl, rfl⟩
    exact ⟨hj, rfl⟩
  · rintro ⟨hi, rfl⟩
    exact ⟨i, hi, rfl, rfl⟩

/-- It is the old one exactly where the old one was in order. -/
theorem same_assignment_iff {p : Repoint} (id : StreamID) {m : ChannelMapping}
    (hstart : m.deviceChannelStart = p.deviceChannelStart) :
    (∀ r, r ∈ ({ p.newMapping with streamID := id } : ChannelMapping).assignment ↔
      r ∈ m.assignment) ↔ m.InOrder p.newSdp.numChannels.toNat := by
  constructor
  · refine fun h => ⟨fun i hi => (h _).mp ?_, fun r hr => ?_⟩
    · exact mem_assignment_newMapping.mpr ⟨hi, by rw [hstart]⟩
    · rw [hstart]
      exact mem_assignment_newMapping.mp ((h r).mpr hr)
  · intro h r
    rw [mem_assignment_newMapping, ← hstart]
    refine ⟨fun hr => ?_, h.only r⟩
    have hmem := h.all r.streamChannel hr.1
    rwa [← hr.2] at hmem

/-! ## The other streams -/

/-- The identifiers generated for the sinks are new, and no two the same. -/
structure Unclaimed (env : Env) (s : StreamManager) (pending : List (Repoint × ℕ)) : Prop where
  distinct : pending.Pairwise fun e f => env.generated f.2 ≠ env.generated e.2
  new : ∀ e ∈ pending, s.streams.find? (env.generated e.2) = none

theorem find?_repointOne {e : Repoint × ℕ} {id : StreamID} (hb : Bound announced s e.1)
    (hid : id ≠ e.1.id) (hgen : id ≠ env.generated e.2) :
    (repointOne env s e).streams.find? id = s.streams.find? id := by
  rcases repointOne_spec env hb with ⟨-, hstreams, -⟩ | ⟨-, hstreams, -⟩
  · rw [hstreams, OrdMap.find?_insert, if_neg hgen, OrdMap.find?_erase, if_neg hid]
  · rw [hstreams, OrdMap.find?_erase, if_neg hid]

theorem Unclaimed.tail {e : Repoint × ℕ} {pending : List (Repoint × ℕ)}
    (hb : Bound announced s e.1) (h : Unclaimed env s (e :: pending)) :
    Unclaimed env (repointOne env s e) pending := by
  obtain ⟨hdistinct, hnew⟩ := h
  obtain ⟨hhead, htail⟩ := List.pairwise_cons.mp hdistinct
  refine ⟨htail, fun f hf => ?_⟩
  have hnone := hnew f (List.mem_cons_of_mem _ hf)
  refine (find?_repointOne hb (fun he => ?_) (hhead f hf)).trans hnone
  obtain ⟨⟨managed, hfound, -⟩, -⟩ := hb
  rw [he, hfound] at hnone
  cases hnone

/-- **Every stream that is not taken along is as it was.** -/
theorem find?_foldl_repointOne {pending : List (Repoint × ℕ)} (h : Pending announced s pending)
    {id : StreamID} (hid : ∀ e ∈ pending, id ≠ e.1.id ∧ id ≠ env.generated e.2) :
    (pending.foldl (repointOne env) s).streams.find? id = s.streams.find? id := by
  induction pending generalizing s with
  | nil => rfl
  | cons e pending ih =>
    obtain ⟨hne, hgen⟩ := hid e List.mem_cons_self
    exact (ih h.tail fun f hf => hid f (List.mem_cons_of_mem _ hf)).trans
      (find?_repointOne (h.2 e List.mem_cons_self) hne hgen)

theorem ne_generated {pending : List (Repoint × ℕ)} {e f : Repoint × ℕ}
    (h : Pending announced s (e :: pending)) (hu : Unclaimed env s (e :: pending))
    (hf : f ∈ pending) : f.1.id ≠ env.generated e.2 := by
  intro he
  obtain ⟨⟨managed, hfound, -⟩, -⟩ := h.2 f (List.mem_cons_of_mem _ hf)
  rw [he, hu.new e List.mem_cons_self] at hfound
  cases hfound

/-- What becomes of the identifier generated for a sink: it is the sink's where the sink can follow,
and nobody's where it cannot. -/
theorem find?_generated_foldl {pending : List (Repoint × ℕ)} {e : Repoint × ℕ}
    (h : Pending announced s (e :: pending)) (hu : Unclaimed env s (e :: pending)) :
    (CanFollow env s e ∧
      ((e :: pending).foldl (repointOne env) s).streams.find? (env.generated e.2) =
        some (sinkOn s.ioActive announced
          { e.1.newMapping with streamID := env.generated e.2 })) ∨
    (¬ CanFollow env s e ∧
      ((e :: pending).foldl (repointOne env) s).streams.find? (env.generated e.2) = none) := by
  have hb := h.2 e List.mem_cons_self
  have hnone := hu.new e List.mem_cons_self
  have hframe : (pending.foldl (repointOne env) (repointOne env s e)).streams.find?
      (env.generated e.2) = (repointOne env s e).streams.find? (env.generated e.2) := by
    exact find?_foldl_repointOne h.tail fun f hf =>
      ⟨(ne_generated h hu hf).symm, ((List.pairwise_cons.mp hu.distinct).1 f hf).symm⟩
  rw [List.foldl_cons, hframe]
  rcases repointOne_spec env hb with ⟨hc, hstreams, -⟩ | ⟨hn, hstreams, -⟩
  · refine Or.inl ⟨hc, ?_⟩
    rw [hstreams]
    exact OrdMap.find?_insert_self _ _ _
  · refine Or.inr ⟨hn, ?_⟩
    rw [hstreams, OrdMap.find?_erase, hnone, ite_self]

/-! ## The sinks taken along -/

/-- A sink that can follow is in order. -/
def FollowsInOrder (env : Env) (s : StreamManager) (e : Repoint × ℕ) : Prop :=
  CanFollow env s e → ∀ managed, s.streams.find? e.1.id = some managed →
    managed.mapping.InOrder managed.sdp.numChannels.toNat

/-- The stream that takes a sink's place has its assignment. -/
def SameAssignment (env : Env) (s s' : StreamManager) (e : Repoint × ℕ) : Prop :=
  ∀ before after, s.streams.find? e.1.id = some before →
    s'.streams.find? (env.generated e.2) = some after →
    after.rtp.mapping = after.mapping ∧
      ∀ r, r ∈ after.mapping.assignment ↔ r ∈ before.mapping.assignment

theorem sameAssignment_head_iff {pending : List (Repoint × ℕ)} {e : Repoint × ℕ}
    (h : Pending announced s (e :: pending)) (hu : Unclaimed env s (e :: pending)) :
    SameAssignment env s ((e :: pending).foldl (repointOne env) s) e ↔ FollowsInOrder env s e := by
  obtain ⟨⟨managed, hfound, -, hn, hstart⟩, hsdp⟩ := h.2 e List.mem_cons_self
  have hiff := same_assignment_iff (env.generated e.2) hstart
  rw [hsdp, ← hn] at hiff
  rcases find?_generated_foldl h hu with ⟨hc, hafter⟩ | ⟨hc, hafter⟩
  · constructor
    · intro hsame _ managed' hfound'
      rw [hfound] at hfound'
      cases hfound'
      exact hiff.mp (hsame managed _ hfound hafter).2
    · intro ho before after hbefore hafter'
      rw [hfound] at hbefore
      rw [hafter] at hafter'
      cases hbefore
      cases hafter'
      exact ⟨rfl, hiff.mpr (ho hc managed hfound)⟩
  · refine iff_of_true (fun before after _ hafter' => ?_) fun hc' => absurd hc' hc
    rw [hafter] at hafter'
    cases hafter'

/-- **Along the announcement**: each sink keeps its assignment exactly where each is in order when
its turn comes. -/
theorem sameAssignment_foldl_iff {pending : List (Repoint × ℕ)} (h : Pending announced s pending)
    (hu : Unclaimed env s pending) :
    (∀ e ∈ pending, SameAssignment env s (pending.foldl (repointOne env) s) e) ↔
      Along (repointOne env) (FollowsInOrder env) s pending := by
  induction pending generalizing s with
  | nil => simp [Along]
  | cons e pending ih =>
    have hb := h.2 e List.mem_cons_self
    have hrest : ∀ f ∈ pending, (SameAssignment env s
        ((e :: pending).foldl (repointOne env) s) f ↔
        SameAssignment env (repointOne env s e) (pending.foldl (repointOne env) (repointOne env s e))
          f) := by
      intro f hf
      have hne := (List.pairwise_cons.mp h.1).1 f hf
      rw [SameAssignment, SameAssignment, find?_repointOne hb hne (ne_generated h hu hf),
        List.foldl_cons]
    rw [List.forall_mem_cons, Along, sameAssignment_head_iff h hu, ← ih h.tail (hu.tail hb)]
    exact and_congr_right fun _ => forall₂_congr hrest

/-- Sinks that are in order beforehand are so when their turn comes. -/
theorem along_of_inOrder {pending : List (Repoint × ℕ)} (h : Pending announced s pending)
    (hu : Unclaimed env s pending)
    (ho : ∀ e ∈ pending, ∀ managed ∈ s.streams.find? e.1.id,
      managed.mapping.InOrder managed.sdp.numChannels.toNat) :
    Along (repointOne env) (FollowsInOrder env) s pending := by
  induction pending generalizing s with
  | nil => trivial
  | cons e pending ih =>
    have hb := h.2 e List.mem_cons_self
    refine ⟨fun _ => ho e List.mem_cons_self, ih h.tail (hu.tail hb) fun f hf managed hfound => ?_⟩
    refine ho f (List.mem_cons_of_mem _ hf) managed ?_
    rwa [find?_repointOne hb ((List.pairwise_cons.mp h.1).1 f hf) (ne_generated h hu hf)] at hfound

/-! ## One announcement -/

/-- A sink taken along keeps its assignment, and every other stream what it had. -/
structure MappingsKept (env : Env) (followers : List (Repoint × ℕ)) (s s' : StreamManager) :
    Prop where
  followed : ∀ e ∈ followers, SameAssignment env s s' e
  others : ∀ id managed, s.streams.find? id = some managed → (∀ e ∈ followers, id ≠ e.1.id) →
    s'.streams.find? id = some managed ∧ s'.mapper.getMapping id = s.mapper.getMapping id

/-- **When an announcement keeps the mappings**: in every state of every run, exactly when each sink
that is taken along is in order. -/
theorem mappingsKept_iff (ops : List Op) (env : Env) (announced : SDPSession)
    (trigger : RepointTrigger) (fresh : Along step Fresh {} ops)
    (unclaimed : Unclaimed env (ops.foldl step {})
      ((ops.foldl step {}).followers announced trigger)) :
    MappingsKept env ((ops.foldl step {}).followers announced trigger) (ops.foldl step {})
        ((ops.foldl step {}).updateReceiveStreamsFromAnnouncement env announced trigger).1 ↔
      Along (repointOne env) (FollowsInOrder env) (ops.foldl step {})
        ((ops.foldl step {}).followers announced trigger) := by
  have hbooks : Books (ops.foldl step {}) := (always_books fresh).run
  have hbooks' : Books ((ops.foldl step {}).step
      (.updateReceiveStreamsFromAnnouncement env announced trigger)) :=
    books_step hbooks trivial
  have hpending := pending_followers (ops.foldl step {}) announced trigger
  have hiff := sameAssignment_foldl_iff hpending unclaimed
  have hall := updateReceiveStreamsFromAnnouncement_eq (ops.foldl step {}) env announced trigger
  rw [← hall] at hiff
  refine ⟨fun h => hiff.mp h.followed, fun h => ⟨hiff.mpr h, fun id managed hf hid => ?_⟩⟩
  have hsame : (((ops.foldl step {}).updateReceiveStreamsFromAnnouncement env announced
      trigger).1).streams.find? id = some managed := by
    rw [hall, find?_foldl_repointOne hpending fun e he => ⟨hid e he, fun hgen => ?_⟩]
    · exact hf
    · rw [hgen, unclaimed.new e he] at hf
      cases hf
  refine ⟨hsame, ?_⟩
  have hmapping := hbooks'.mappings id
  rw [step] at hmapping
  rw [hmapping, hbooks.mappings, hsame, hf]

/-- A sink on channels 0 and 1, with a source whose origin is known. -/
def boundSink : List Op :=
  [.addStream (numbered 1) (fromOrigin "239.1.1.1" 48000)]

/-- It follows its source to another address. -/
theorem boundSink_kept :
    MappingsKept (numbered 2)
      ((boundSink.foldl step {}).followers (fromOrigin "239.1.1.2" 48000) .announcement)
      (boundSink.foldl step {})
      ((boundSink.foldl step {}).updateReceiveStreamsFromAnnouncement (numbered 2)
        (fromOrigin "239.1.1.2" 48000) .announcement).1 := by
  have hu : Unclaimed (numbered 2) (boundSink.foldl step {})
      ((boundSink.foldl step {}).followers (fromOrigin "239.1.1.2" 48000) .announcement) :=
    ⟨by decide +kernel, by decide +kernel⟩
  refine (mappingsKept_iff boundSink (numbered 2) (fromOrigin "239.1.1.2" 48000) .announcement
    ⟨trivial, trivial⟩ hu).mpr (along_of_inOrder (pending_followers _ _ _) hu ?_)
  decide +kernel

/-- The same sink with its channels routed to device channels 5 and 3. -/
def routedSink : List Op :=
  boundSink ++ [.updateMapping (numbered 0) ⟨1, StreamID.one_lt⟩
    { deviceChannelCount := 2, routes := [⟨0, 5⟩, ⟨1, 3⟩] }]

/-- **Its routes are gone** once it has followed: its channels are on device channels 0 and 1. -/
theorem routedSink_not_kept : ¬
    MappingsKept (numbered 2)
      ((routedSink.foldl step {}).followers (fromOrigin "239.1.1.2" 48000) .announcement)
      (routedSink.foldl step {})
      ((routedSink.foldl step {}).updateReceiveStreamsFromAnnouncement (numbered 2)
        (fromOrigin "239.1.1.2" 48000) .announcement).1 := by
  intro h
  have hall : ∀ e ∈ (routedSink.foldl step {}).followers (fromOrigin "239.1.1.2" 48000)
      .announcement, ∀ before ∈ (routedSink.foldl step {}).streams.find? e.1.id,
      ∀ after ∈ ((routedSink.foldl step {}).updateReceiveStreamsFromAnnouncement (numbered 2)
        (fromOrigin "239.1.1.2" 48000) .announcement).1.streams.find? ((numbered 2).generated e.2),
      ∀ r ∈ before.mapping.assignment, r ∈ after.mapping.assignment :=
    fun e he before hb after ha r => ((h.followed e he before after hb ha).2 r).mpr
  exact absurd hall (by decide +kernel)

end StreamManager

end Aes67
