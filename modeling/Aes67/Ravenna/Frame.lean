import Aes67.Ravenna.Restore

/-!
# What an activation leaves of other streams

A committed action empties the matrix and fills it with the mappings it worked out, those of the
connection API's receivers. A mapping of any other stream is not put back: not one of a stream
somebody else added, nor that of a receiver taken off the API while its stream goes on.

* `Belongs`: a stream some receiver of the connection API holds;
* `Framed`: the other streams keep their mappings and their channels;
* **`frame_iff`**: a committed action keeps them exactly when there are none.
-/

namespace Aes67.Ravenna

namespace ChannelMappingApi

variable {api api' : ChannelMappingApi} {now : TaiTime} {action : Json}

/-- The stream is one a receiver of the connection API holds. -/
def Belongs (api : ChannelMappingApi) (id : StreamID) : Prop :=
  ∃ receiverId ∈ api.receiverIds, api.routing.streamIdOf.find? receiverId = some id

/-- Every mapping of a stream that belongs to no receiver of the API is there afterwards, and its
channels are still its own. -/
def Framed (before after : ChannelMappingApi) : Prop :=
  ∀ id mapping, before.routing.mapper.getMapping id = some mapping → ¬ before.Belongs id →
    after.routing.mapper.getMapping id = some mapping ∧
    ∀ c ∈ mapping.deviceChannels, after.routing.mapper.ownerAt c = id

/-- What a committed action leaves in the matrix belongs to a receiver of the API. -/
theorem belongs_of_settled (hs : Sound api) {w : Work} {filled : Mapper}
    (hw : (cellsOf action).foldlM (applyCell api.usable) api.gather = .ok w)
    (hf : fillMatrix api.routing.mapper.clearAll w.updated.values = .ok filled) {id : StreamID}
    {mapping : ChannelMapping}
    (hm : (api.settled now w filled).routing.mapper.getMapping id = some mapping) :
    api.Belongs id := by
  obtain ⟨-, -, -, -, hout⟩ := fillMatrix_ok hf (Mapper.filed_clearAll _)
    (Mapper.consistent_clearAll _) (streamIDs_nodup hs hw) fun _ _ => rfl
  rw [settled, foldl_rememberRoutes] at hm
  by_cases hid : id ∈ w.updated.values.map ChannelMapping.streamID
  · obtain ⟨mp, hv, rfl⟩ := List.mem_map.mp hid
    obtain ⟨⟨receiverId, mp'⟩, he, rfl⟩ := List.mem_map.mp hv
    obtain ⟨hx, hstream, -⟩ := updated_of_foldlM hs hw (w.updated.mem_entries_iff.mp he)
    exact ⟨receiverId, hx, hstream⟩
  · have hnone : filled.mappings.find? id = none := hout id hid
    rw [Mapper.getMapping] at hm
    simp [hnone] at hm

/-- **A committed action keeps the other streams exactly when there are none**, in every state a
run reaches, whatever is waiting there. -/
theorem frame_iff (ops : List SharedOp) (unused : Along sharedStep Unused {} ops)
    (hr : api.routing = (ops.foldl sharedStep {}).routing) (now : TaiTime) (action : Json)
    (hok : (api.applyAction now action true).2.ok = true) :
    Framed api (api.applyAction now action true).1 ↔
      ∀ id mapping, api.routing.mapper.getMapping id = some mapping → api.Belongs id := by
  have hwhole : Whole api := (whole_run unused).of_routing hr
  refine ⟨fun h id mapping hm => ?_, fun h id mapping hm hn => absurd (h id mapping hm) hn⟩
  rcases hwhole.applyAction_cases now action true with ⟨r, e, hr⟩ | ⟨w, filled, -, hw, hf, e⟩
  · rw [e] at hok
    simp [hok] at hr
  · rw [e] at h
    by_contra hn
    exact hn (belongs_of_settled hwhole.toSound hw hf (h id mapping hm hn).1)

/-- The one receiver's first channel taken to channel 64 as well: nothing else is in the matrix. -/
theorem oneReceiver_framed :
    Framed (oneReceiver.foldl step {}) ((oneReceiver.foldl step {}).applyAction {}
      ((immediate [("64".toList, cellJson (some ("a".toList, 0)))]).get "action") true).1 := by
  refine (frame_iff (oneReceiver.map .grid) ⟨trivial, ⟨by decide, rfl, fun r h => by cases h⟩,
    trivial⟩ rfl {} _ (by decide)).mpr fun id mapping hm => ⟨"a".toList, ?_, ?_⟩
  · decide
  · have hkeys : (oneReceiver.foldl step {}).routing.mapper.mappings.keys = [⟨1, by decide⟩] := by
      decide
    have hid : id ∈ (oneReceiver.foldl step {}).routing.mapper.mappings.keys :=
      OrdMap.mem_keys_iff _ |>.mpr ⟨mapping, hm⟩
    rw [hkeys, List.mem_singleton] at hid
    rw [hid]
    decide

/-- A receiver taken off the API while its stream goes on. -/
def stillStreaming : List SharedOp :=
  [.grid (.addReceiver "a".toList), .grid (.activate "a".toList [] true ⟨1, StreamID.one_lt⟩),
   .grid (.removeReceiver "a".toList)]

/-- **An action that names nothing takes a stream off the device**: the receiver it came through is
no longer in the API. -/
theorem stillStreaming_not_framed :
    Along sharedStep Unused {} stillStreaming ∧
    ((stillStreaming.foldl sharedStep {}).applyAction {} (.obj []) true).2.ok = true ∧
    ¬ Framed (stillStreaming.foldl sharedStep {})
      ((stillStreaming.foldl sharedStep {}).applyAction {} (.obj []) true).1 := by
  refine ⟨⟨trivial, ⟨by decide, rfl, fun r h => by cases h⟩, trivial, trivial⟩,
    by decide, fun h => ?_⟩
  obtain ⟨mapping, hm⟩ : ∃ mapping, (stillStreaming.foldl sharedStep {}).routing.mapper.getMapping
      ⟨1, by decide⟩ = some mapping := Option.isSome_iff_exists.mp (by decide)
  have hn : ¬ (stillStreaming.foldl sharedStep {}).Belongs ⟨1, by decide⟩ := by
    rintro ⟨receiverId, hr, -⟩
    have hids : (stillStreaming.foldl sharedStep {}).receiverIds = [] := by decide
    rw [hids] at hr
    cases hr
  have gone : ((stillStreaming.foldl sharedStep {}).applyAction {} (.obj []) true).1.routing.mapper
      |>.getMapping ⟨1, by decide⟩ |>.isNone := by decide
  rw [(h _ mapping hm hn).1] at gone
  cases gone

end ChannelMappingApi

end Aes67.Ravenna
