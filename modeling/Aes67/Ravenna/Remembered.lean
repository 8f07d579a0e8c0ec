import Aes67.Ravenna.Agreement
import Aes67.Ravenna.Reconnect
import Aes67.Sdp.Attributes

/-!
# A remembered grid

A grid set on a receiver that carries nothing waits for a stream, and is then laid over the block
the stream was given. Whether it can be laid is asked of its shape alone; whether its channels are
still free is asked only when the mapping is added, and then the whole connection is refused.

* `Lies`: the remembered routes fit the stream and are on free channels;
* `Connects`: the activation succeeds, on the remembered routes where they lie and on the default
  block otherwise;
* **`connects_iff`**: where a block is free, the receiver connects just where its remembered routes
  are on free channels or cannot be laid at all.
-/

namespace Aes67.Ravenna

namespace ReceiverRouting

variable (r : ReceiverRouting) (receiverId : Text) (session : Sdp.SDPSession)

/-- The matrix with the receiver's own mapping given back. -/
def vacated : Mapper := (r.release receiverId).mapper

/-- With its own mapping given back, the channel is no stream's. -/
def Vacant (c : ℕ) : Prop := (r.vacated receiverId).ownerAt c = .null

/-- Some block of usable channels is wide enough for the stream and no stream's. -/
def Room : Prop :=
  ∃ start, start + session.numChannels.toNat ≤ (r.vacated receiverId).usableChannelCount ∧
    (r.vacated receiverId).Free start session.numChannels.toNat

/-- The remembered routes, as far as the stream has them, fit it and overlap no other stream. -/
structure Lies : Prop where
  laid : Laid (r.wanted receiverId session.numChannels.toNat)
  vacant : ∀ route ∈ r.wanted receiverId session.numChannels.toNat,
    r.Vacant receiverId route.deviceChannel

/-- The receiver takes the stream: on its remembered routes where they lie, and in order on a free
block otherwise. -/
def Connects (sdp : Text) (generated : StreamID) : Prop :=
  (r.apply receiverId sdp true generated).2 = .ok () ∧
  ∃ m, (r.apply receiverId sdp true generated).1.mappingFor receiverId = some m ∧
    m.streamID = generated ∧ m.streamChannelCount = session.numChannels.toNat ∧
    m.deviceChannelCount = session.numChannels.toNat ∧
    m.deviceChannelStart + session.numChannels.toNat ≤
      (r.vacated receiverId).usableChannelCount ∧
    (r.vacated receiverId).Free m.deviceChannelStart session.numChannels.toNat ∧
    (r.Lies receiverId session → m.routes = r.wanted receiverId session.numChannels.toNat) ∧
    (¬ r.Lies receiverId session → m.routes = [])

variable {r receiverId session} {sdp : Text} {generated : StreamID}

/-- A session always has a channel. -/
theorem numChannels_pos (h : sessionOf receiverId sdp = some session) :
    0 < session.numChannels.toNat := by
  rw [sessionOf] at h
  split_ifs at h
  · cases h
    exact Nat.zero_lt_two
  · have hv := (Sdp.SDPSession.isValid_iff.mp (Sdp.parseString_eq_some.mp h).2).numChannels_ne
    exact Nat.pos_of_ne_zero fun e => hv (UInt16.toNat_inj.mp e)

theorem wanted_release (n : ℕ) : (r.release receiverId).wanted receiverId n = r.wanted receiverId n := by
  rw [wanted, wanted, rememberedRoutes, rememberedRoutes, remembered_release]

/-- **When a receiver connects.** Where there is room, it does just where the routes it remembers
for the stream are on vacant channels or are no grid at all. -/
theorem connects_iff (hs : sessionOf receiverId sdp = some session) (hid : generated ≠ .null)
    (hroom : r.Room receiverId session) :
    r.Connects receiverId session sdp generated ↔
      (Laid (r.wanted receiverId session.numChannels.toNat) →
        ∀ route ∈ r.wanted receiverId session.numChannels.toNat,
          r.Vacant receiverId route.deviceChannel) := by
  have hn := numChannels_pos hs
  obtain ⟨start, hle, hfree⟩ := hroom
  obtain ⟨block, hblock⟩ := (Mapper.createDefaultMapping_isSome_iff hn generated
    session.sessionName).mpr ⟨start, hle, hfree⟩
  obtain ⟨at', hle', hfree', heq⟩ := Mapper.createDefaultMapping_eq_some hn hblock
  -- The matrix takes what is offered where the routes that can be laid are on vacant channels.
  have haccepts : (r.vacated receiverId).accepts
      ((r.release receiverId).overlay receiverId block) = true ↔
        (Laid (r.wanted receiverId session.numChannels.toNat) →
          ∀ route ∈ r.wanted receiverId session.numChannels.toNat,
            r.Vacant receiverId route.deviceChannel) := by
    obtain ⟨hv, hover⟩ := overlay_block (r := r.release receiverId) receiverId hid hn
      (hle'.trans (Mapper.usable_le _)) heq
    rw [Mapper.accepts_iff_ownerAt hv, hover _ hfree', wanted_release]
    rfl
  rw [← haccepts]
  rcases ChannelMappingApi.apply_cases r receiverId sdp true generated with
    ⟨h, -⟩ | ⟨-, hnone, -⟩ | ⟨session', -, hs', h⟩
  · cases h
  · rw [hs] at hnone
    cases hnone
  · rw [hs] at hs'
    cases hs'
    rcases h with ⟨hrefused, why, e⟩ | ⟨mapping, hm, ha, e⟩
    · have hno := hrefused block hblock
      refine iff_of_false (fun hc => ?_) (by rw [vacated, hno]; simp)
      rw [Connects, e] at hc
      cases hc.1
    · cases hblock.symm.trans hm
      have hlies : r.Lies receiverId session ↔
          Laid (r.wanted receiverId session.numChannels.toNat) :=
        ⟨fun h => h.laid, fun h => ⟨h, haccepts.mp ha h⟩⟩
      have hvalid : block.Valid := by
        subst heq
        exact ⟨hid, hn, hn, hle'.trans (Mapper.usable_le _), by simp, by simp⟩
      have hover := overlay_eq (r := r.release receiverId) receiverId hvalid (by rw [heq])
      rw [heq, wanted_release] at hover
      refine iff_of_true ⟨by rw [e], (r.release receiverId).overlay receiverId block, ?_, ?_⟩ ha
      · rw [e, mappingFor]
        dsimp only
        rw [OrdMap.find?_insert, if_pos rfl]
        have hadd : (r.release receiverId).mapper.addMapping
            ((r.release receiverId).overlay receiverId block) =
              (((r.release receiverId).mapper.addMapping
                ((r.release receiverId).overlay receiverId block)).1, true) := by
          rcases Mapper.addMapping_cases (r.release receiverId).mapper
            ((r.release receiverId).overlay receiverId block) with ⟨hn, -⟩ | ⟨-, hadd⟩
          · cases ha.symm.trans hn
          · rw [hadd]
        have hid' : ((r.release receiverId).overlay receiverId block).streamID = generated := by
          rw [ChannelMappingApi.streamID_overlay, heq]
        exact (Mapper.find?_addMapping hadd generated).trans (if_pos hid'.symm)
      · rw [hlies, heq]
        by_cases hl : Laid (r.wanted receiverId session.numChannels.toNat)
        · rw [hover.1 hl]
          exact ⟨rfl, rfl, rfl, hle', hfree', fun _ => rfl, fun h => absurd hl h⟩
        · rw [hover.2 hl]
          exact ⟨rfl, rfl, rfl, hle', hfree', fun h => absurd h hl, fun _ => rfl⟩

end ReceiverRouting

namespace ChannelMappingApi

open ReceiverRouting

/-- A grid set on a receiver that waits, away from what another receiver is then given. -/
def patchedAside : List Op :=
  [.addReceiver "a".toList, .addReceiver "b".toList,
   .post {} (immediate [("9".toList, cellJson (some ("b".toList, 0)))]),
   .activate "a".toList [] true ⟨1, StreamID.one_lt⟩]

theorem room_of_forall {r : ReceiverRouting} {receiverId : Text} {session : Sdp.SDPSession}
    (start : ℕ) {n : ℕ} (hn : session.numChannels.toNat = n)
    (hle : start + n ≤ (r.vacated receiverId).usableChannelCount)
    (h : ∀ c < start + n, start ≤ c → (r.vacated receiverId).ownerAt c = .null) :
    r.Room receiverId session :=
  ⟨start, hn ▸ hle, fun c h1 h2 => h c (hn ▸ h2) h1⟩

/-- The receiver connects, on the route it remembers. -/
theorem patchedAside_connects : ∃ session,
    ReceiverRouting.sessionOf "b".toList fourChannels = some session ∧
    (patchedAside.foldl step {}).routing.Connects "b".toList session fourChannels ⟨2, by decide⟩ := by
  have hread : (ReceiverRouting.sessionOf "b".toList fourChannels).map (·.numChannels) = some 4 := by
    decide +kernel
  obtain ⟨session, hs, hn⟩ := Option.map_eq_some_iff.mp hread
  have hwidth : session.numChannels.toNat = 4 := by rw [hn]; rfl
  refine ⟨session, hs, (connects_iff hs (by decide) (room_of_forall 2 hwidth
    (by decide) (by decide))).mpr fun _ route hr => ?_⟩
  have hwanted : (patchedAside.foldl step {}).routing.wanted "b".toList 4 = [⟨0, 9⟩] := by
    decide
  rw [hwidth, hwanted, List.mem_singleton] at hr
  subst hr
  change ((patchedAside.foldl step {}).routing.vacated "b".toList).ownerAt 9 = .null
  decide

/-- **A grid set beforehand on a channel another receiver is then given.** There is room for the
stream from channel 2 on, and the receiver is refused. -/
theorem patchedBeforehand_refused : ∃ session,
    ReceiverRouting.sessionOf "b".toList fourChannels = some session ∧
    (patchedBeforehand.foldl step {}).routing.Room "b".toList session ∧
    ((patchedBeforehand.foldl step {}).routing.apply "b".toList fourChannels true
      ⟨2, by decide⟩).2 = .error "the mapping overlaps one already in place".toList ∧
    ¬ (patchedBeforehand.foldl step {}).routing.Connects "b".toList session fourChannels
      ⟨2, by decide⟩ := by
  have hread : (ReceiverRouting.sessionOf "b".toList fourChannels).map (·.numChannels) = some 4 := by
    decide +kernel
  obtain ⟨session, hs, hn⟩ := Option.map_eq_some_iff.mp hread
  have hwidth : session.numChannels.toNat = 4 := by rw [hn]; rfl
  have hrefused : ((patchedBeforehand.foldl step {}).routing.apply "b".toList fourChannels true
      ⟨2, by decide⟩).2 = .error "the mapping overlaps one already in place".toList := by
    decide +kernel
  refine ⟨session, hs, room_of_forall 2 hwidth (by decide) (by decide),
    hrefused, fun h => ?_⟩
  cases hrefused.symm.trans h.1

end ChannelMappingApi

end Aes67.Ravenna
