import Aes67.Mapper.Blocks
import Aes67.Ravenna.Restore

/-!
# A refused reconnection

A receiver pointed at another stream gives its old channels back before it asks for new ones, so
that it does not fail for want of room it is itself holding. Where it then fails, it does not take
them back: the connection API goes on reporting the old stream as active, and nothing routes it.

* `Open`: a channel free, or held by the receiver's own stream;
* `Fits`: the session has a block of open channels and its remembered routes are on open channels;
* **`refusal_keeps_iff`**: a refusal keeps the old connection when the description does not read,
  the receiver held nothing, or the session fits and is not refused at all.
-/

namespace Aes67.Ravenna

namespace ReceiverRouting

variable (r : ReceiverRouting) (receiverId : Text) (n : ℕ)

/-- The channel is free, or held by the receiver's own stream. -/
def Open (c : ℕ) : Prop :=
  r.mapper.ownerAt c = .null ∨ r.streamIdOf.find? receiverId = some (r.mapper.ownerAt c)

/-- What the receiver remembers, as far as a stream of `n` channels has it. -/
def wanted : List ChannelRoute :=
  (r.rememberedRoutes receiverId).filter fun route => route.streamChannel < n

/-- The routes a mapping can have: on the device, no two on one channel. -/
def Laid (routes : List ChannelRoute) : Prop :=
  (∀ route ∈ routes, route.deviceChannel < kMaxDeviceChannels) ∧
    (routes.map ChannelRoute.deviceChannel).Nodup

/-- Of the channels the receiver may take, some block is wide enough, and what it remembers, where
that can be laid at all, is on channels it may take. -/
structure Fits (session : Sdp.SDPSession) : Prop where
  pos : 0 < session.numChannels.toNat
  block : ∃ start, start + session.numChannels.toNat ≤ r.mapper.usableChannelCount ∧
    ∀ c, start ≤ c → c < start + session.numChannels.toNat → r.Open receiverId c
  routes : Laid (r.wanted receiverId session.numChannels.toNat) →
    ∀ route ∈ r.wanted receiverId session.numChannels.toNat, r.Open receiverId route.deviceChannel

/-- If the activation is refused, the matrix and the receivers' streams are as before. -/
def KeepsOnRefusal (sdp : Text) (generated : StreamID) : Prop :=
  ∀ why, (r.apply receiverId sdp true generated).2 = .error why →
    (r.apply receiverId sdp true generated).1.mapper.getAllMappings = r.mapper.getAllMappings ∧
    (r.apply receiverId sdp true generated).1.mapper.deviceChannelOwners =
      r.mapper.deviceChannelOwners ∧
    (r.apply receiverId sdp true generated).1.streamIdOf = r.streamIdOf

/-! ## What is given back -/

variable {r receiverId n}

theorem release_of_find? (h : r.streamIdOf.find? receiverId = none) : r.release receiverId = r := by
  rw [release, h]

theorem usable_release :
    (r.release receiverId).mapper.usableChannelCount = r.mapper.usableChannelCount := by
  rw [release]
  split
  · rfl
  · exact Mapper.usable_removeMapping ..

theorem remembered_release : (r.release receiverId).remembered = r.remembered := by
  rw [release]
  split <;> rfl

/-- With what the receiver holds given back, its own channels are free as well. -/
theorem ownerAt_release_iff (hc : r.mapper.Consistent) (c : ℕ) :
    (r.release receiverId).mapper.ownerAt c = .null ↔ r.Open receiverId c := by
  rw [release, Open]
  cases hid : r.streamIdOf.find? receiverId with
  | none => simp
  | some id =>
    by_cases h : c < kMaxDeviceChannels
    · dsimp only
      rw [Mapper.removeMapping]
      cases hm : r.mapper.mappings.find? id with
      | none =>
        -- Nothing is stored for the stream, so it owns nothing.
        change r.mapper.ownerAt c = .null ↔ _ ∨ some id = some (r.mapper.ownerAt c)
        refine ⟨Or.inl, ?_⟩
        rintro (e | e)
        · exact e
        · rw [Mapper.ownerAt_of_lt h] at e ⊢
          by_contra hn
          obtain ⟨mp, hmp, -⟩ := hc.used ⟨c, h⟩ hn
          rw [← Option.some.inj e, hm] at hmp
          cases hmp
      | some mp =>
        simp only [Mapper.ownerAt_of_lt h, Mapper.clearDeviceChannelOwners]
        split_ifs with he
        · simp [he]
        · simp [Ne.symm he]
    · have hnull : ∀ m : Mapper, m.ownerAt c = .null := fun m => dif_neg h
      simp [hnull]

theorem streamID_release_of_held {id : StreamID} (h : r.streamIdOf.find? receiverId = some id) :
    (r.release receiverId).streamIdOf ≠ r.streamIdOf := by
  intro e
  have := congrArg (fun m => m.find? receiverId) e
  simp [release, h] at this

/-! ## What is laid over the block -/

/-- A block laid over with what the receiver remembers, as far as the stream has it. -/
theorem overlay_eq (receiverId : Text) {block : ChannelMapping} (hv : block.Valid) (hroutes : block.routes = []) :
    (Laid (r.wanted receiverId block.streamChannelCount) → r.overlay receiverId block =
      { block with routes := r.wanted receiverId block.streamChannelCount }) ∧
    (¬ Laid (r.wanted receiverId block.streamChannelCount) → r.overlay receiverId block = block) := by
  have hself : { block with routes := [] } = block := by rw [← hroutes]
  rw [overlay, wanted, rememberedRoutes, hroutes]
  cases r.remembered.find? receiverId with
  | none => exact ⟨fun _ => hself.symm, fun _ => rfl⟩
  | some asked =>
    dsimp only [Option.getD_some]
    generalize hL : asked.filter (fun route => route.streamChannel < block.streamChannelCount) =
      routes
    have hsame : (if routes = [] then [] else routes) = routes := by
      split_ifs with he
      · rw [he]
      · rfl
    rw [hsame]
    have hvalid : ({ block with routes := routes } : ChannelMapping).Valid ↔ Laid routes := by
      refine ⟨fun h => ⟨fun route hr => (h.route_lt route hr).2, h.nodup⟩, fun h => ?_⟩
      refine ⟨hv.streamID_ne, hv.streamChannelCount_pos, hv.deviceChannelCount_pos,
        hv.block_le, fun route hr => ⟨?_, h.1 route hr⟩, h.2⟩
      subst hL
      simpa using (List.mem_filter.mp hr).2
    exact ⟨fun h => if_pos (ChannelMapping.isValid_iff.mpr (hvalid.mpr h)),
      fun h => if_neg fun hw => h (hvalid.mp (ChannelMapping.isValid_iff.mp hw))⟩

/-- A block on the device laid over with what the receiver remembers: its routes where they can be
laid, and the block itself where they cannot. -/
theorem overlay_block (receiverId : Text) {id : StreamID} {streamName : Text} {start : ℕ}
    {block : ChannelMapping}
    (hid : id ≠ .null) (hn : 0 < n) (hle : start + n ≤ kMaxDeviceChannels)
    (hb : block =
      { streamID := id, streamName := streamName, streamChannelCount := n,
        deviceChannelStart := start, deviceChannelCount := n }) :
    (r.overlay receiverId block).Valid ∧ ∀ P : ℕ → Prop,
      (∀ c, start ≤ c → c < start + n → P c) →
      ((∀ c ∈ (r.overlay receiverId block).deviceChannels, P c) ↔
        (Laid (r.wanted receiverId n) → ∀ route ∈ r.wanted receiverId n, P route.deviceChannel)) := by
  have hblock : block.Valid := by
    subst hb
    exact ⟨hid, hn, hn, hle, by simp, by simp⟩
  have onBlock : ∀ P : ℕ → Prop, (∀ c, start ≤ c → c < start + n → P c) →
      ∀ c ∈ block.deviceChannels, P c := by
    intro P hP c hc
    subst hb
    rw [ChannelMapping.mem_deviceChannels, if_pos rfl] at hc
    exact hP c hc.1 hc.2
  have hcount : block.streamChannelCount = n := by rw [hb]
  have hroutes : block.routes = [] := by rw [hb]
  clear hb
  subst hcount
  obtain ⟨hlaid, hkept⟩ := overlay_eq (r := r) receiverId hblock hroutes
  have hwidth : ∀ route ∈ r.wanted receiverId block.streamChannelCount,
      route.streamChannel < block.streamChannelCount := fun route hr => by
    simpa using (List.mem_filter.mp hr).2
  generalize r.wanted receiverId block.streamChannelCount = routes at hlaid hkept hwidth ⊢
  by_cases hl : Laid routes
  · rw [hlaid hl]
    refine ⟨⟨hblock.streamID_ne, hblock.streamChannelCount_pos, hblock.deviceChannelCount_pos,
      hblock.block_le, fun route hr => ⟨hwidth route hr, hl.1 route hr⟩, hl.2⟩, fun P hP => ?_⟩
    rcases routes with _ | ⟨route, routes⟩
    · refine ⟨fun _ _ => by simp, fun _ c hc => onBlock P hP c ?_⟩
      rw [ChannelMapping.mem_deviceChannels, if_pos rfl] at hc
      rw [ChannelMapping.mem_deviceChannels, if_pos hroutes]
      exact hc
    · simp only [ChannelMapping.mem_deviceChannels, reduceCtorEq, if_false]
      refine ⟨fun h _ route hr => h _ ⟨route, hr, rfl⟩, fun h c hc => ?_⟩
      obtain ⟨route, hr, rfl⟩ := hc
      exact h hl route hr
  · rw [hkept hl]
    exact ⟨hblock, fun P hP => ⟨fun _ h => absurd h hl, fun _ => onBlock P hP⟩⟩

/-! ## Refusals -/

/-- With what the receiver holds given back, the matrix takes what it is offered exactly when the
session fits. -/
theorem accepted_iff_fits (hc : r.mapper.Consistent) {session : Sdp.SDPSession}
    {generated : StreamID} (hid : generated ≠ .null) :
    (∃ mapping, (r.release receiverId).mapper.createDefaultMapping generated session.sessionName
        session.numChannels.toNat = some mapping ∧
      (r.release receiverId).mapper.accepts
        ((r.release receiverId).overlay receiverId mapping) = true) ↔ r.Fits receiverId session := by
  have hwanted : (r.release receiverId).wanted receiverId session.numChannels.toNat =
      r.wanted receiverId session.numChannels.toNat := by
    rw [wanted, wanted, rememberedRoutes, rememberedRoutes, remembered_release]
  -- What the laid-over block of any free run needs of the channels it lands on.
  have laid : ∀ {start : ℕ} {mapping : ChannelMapping}, 0 < session.numChannels.toNat →
      start + session.numChannels.toNat ≤ (r.release receiverId).mapper.usableChannelCount →
      (r.release receiverId).mapper.Free start session.numChannels.toNat → mapping =
        { streamID := generated, streamName := session.sessionName,
          streamChannelCount := session.numChannels.toNat, deviceChannelStart := start,
          deviceChannelCount := session.numChannels.toNat } →
      ((r.release receiverId).mapper.accepts ((r.release receiverId).overlay receiverId mapping) =
          true ↔ (Laid (r.wanted receiverId session.numChannels.toNat) →
        ∀ route ∈ r.wanted receiverId session.numChannels.toNat,
          r.Open receiverId route.deviceChannel)) := by
    intro start mapping hn hle hfree he
    obtain ⟨hv, hlaid⟩ := overlay_block (r := r.release receiverId) receiverId hid hn
      (hle.trans (Mapper.usable_le _)) he
    rw [Mapper.accepts_iff_ownerAt hv, hlaid _ hfree, hwanted]
    simp only [ownerAt_release_iff hc]
  constructor
  · rintro ⟨mapping, hm, ha⟩
    have hn : 0 < session.numChannels.toNat := by
      have hv := (Mapper.accepts_iff.mp ha).1.streamChannelCount_pos
      obtain ⟨routes, e⟩ :=
        ChannelMappingApi.overlay_routes (r.release receiverId) receiverId mapping
      rw [e] at hv
      rw [Mapper.createDefaultMapping] at hm
      split at hm <;> cases hm
      exact hv
    obtain ⟨start, hle, hfree, he⟩ := Mapper.createDefaultMapping_eq_some hn hm
    refine ⟨hn, ⟨start, usable_release ▸ hle, fun c h1 h2 => ?_⟩, (laid hn hle hfree he).mp ha⟩
    exact (ownerAt_release_iff hc c).mp (hfree c h1 h2)
  · rintro ⟨hn, ⟨start, hle, hopen⟩, hroutes⟩
    have hfree : (r.release receiverId).mapper.Free start session.numChannels.toNat :=
      fun c h1 h2 => (ownerAt_release_iff hc c).mpr (hopen c h1 h2)
    obtain ⟨mapping, hm⟩ := (Mapper.createDefaultMapping_isSome_iff hn generated
      session.sessionName).mpr ⟨start, usable_release.symm ▸ hle, hfree⟩
    obtain ⟨start', hle', hfree', he⟩ := Mapper.createDefaultMapping_eq_some hn hm
    exact ⟨mapping, hm, (laid hn hle' hfree' he).mpr hroutes⟩

/-- **When a refusal keeps the old connection**, in any state whose matrix is consistent. -/
theorem keepsOnRefusal_iff (hc : r.mapper.Consistent) (sdp : Text) {generated : StreamID}
    (hid : generated ≠ .null) :
    r.KeepsOnRefusal receiverId sdp generated ↔
      sessionOf receiverId sdp = none ∨ r.streamIdOf.find? receiverId = none ∨
        ∃ session, sessionOf receiverId sdp = some session ∧ r.Fits receiverId session := by
  rcases ChannelMappingApi.apply_cases r receiverId sdp true generated with
    ⟨h, -⟩ | ⟨-, hs, why, e⟩ | ⟨session, -, hs, ⟨hno, why, e⟩ | ⟨mapping, hm, ha, e⟩⟩
  · cases h
  · refine iff_of_true (fun _ _ => ?_) (Or.inl hs)
    rw [e]
    exact ⟨rfl, rfl, rfl⟩
  · -- Refused with the old stream released: kept exactly where there was none.
    have hfit : ¬ r.Fits receiverId session := by
      rw [← accepted_iff_fits hc hid]
      rintro ⟨mapping, hm, ha⟩
      rw [hno mapping hm] at ha
      cases ha
    have hheld : r.KeepsOnRefusal receiverId sdp generated ↔
        r.streamIdOf.find? receiverId = none := by
      rw [KeepsOnRefusal, e]
      constructor
      · intro h
        cases hid' : r.streamIdOf.find? receiverId with
        | none => rfl
        | some id => exact absurd (h why rfl).2.2 (streamID_release_of_held hid')
      · intro h why' _
        rw [release_of_find? h]
        exact ⟨rfl, rfl, rfl⟩
    rw [hheld, hs]
    simp [hfit]
  · refine iff_of_true (fun why h => ?_) (Or.inr (Or.inr ⟨session, hs, ?_⟩))
    · rw [e] at h
      cases h
    · exact (accepted_iff_fits hc hid).mp ⟨mapping, hm, ha⟩

end ReceiverRouting

namespace ChannelMappingApi

/-- **A refused activation keeps the old connection exactly when the description does not read, the
receiver held nothing, or what it is pointed at fits**, in every state a run reaches. -/
theorem refusal_keeps_iff (ops : List SharedOp) (unused : Along sharedStep Unused {} ops)
    (receiverId sdp : Text) (generated : StreamID) (hid : generated ≠ .null) :
    (ops.foldl sharedStep {}).routing.KeepsOnRefusal receiverId sdp generated ↔
      ReceiverRouting.sessionOf receiverId sdp = none ∨
      (ops.foldl sharedStep {}).routing.streamIdOf.find? receiverId = none ∨
      ∃ session, ReceiverRouting.sessionOf receiverId sdp = some session ∧
        (ops.foldl sharedStep {}).routing.Fits receiverId session :=
  ReceiverRouting.keepsOnRefusal_iff (whole_run unused).consistent sdp hid

/-- A receiver without a stream refused for want of room: there is nothing to keep. -/
theorem besideOther_keeps :
    (besideOther.foldl sharedStep {}).routing.KeepsOnRefusal "b".toList [] ⟨3, by decide⟩ :=
  (refusal_keeps_iff besideOther unused_besideOther _ _ _ (by decide)).mpr
    (Or.inr (Or.inl (by decide)))

/-- A device of two channels, both held by its one receiver. -/
def fullDevice : List SharedOp :=
  [.grid (.setUsableChannelCount 2), .grid (.addReceiver "a".toList),
   .grid (.activate "a".toList [] true ⟨1, StreamID.one_lt⟩)]

/-- A stream of four channels. -/
def fourChannels : Text :=
  ("v=0\r\no=- 1 1 IN IP4 192.168.1.2\r\ns=Four\r\nc=IN IP4 239.1.1.1/15\r\nt=0 0\r\n" ++
    "m=audio 5004 RTP/AVP 98\r\na=rtpmap:98 L24/48000/4\r\n").toList

/-- **The receiver pointed at a wider stream than the device has room for**: it is refused, and
what it held is gone. -/
theorem fullDevice_not_kept :
    Along sharedStep Unused {} fullDevice ∧
    ¬ (fullDevice.foldl sharedStep {}).routing.KeepsOnRefusal "a".toList fourChannels
      ⟨2, by decide⟩ := by
  refine ⟨⟨trivial, trivial, ⟨by decide, rfl, fun r h => by cases h⟩, trivial⟩, fun h => ?_⟩
  have refused : ((fullDevice.foldl sharedStep {}).routing.apply "a".toList fourChannels true
      ⟨2, by decide⟩).2 = .error "no free device channels for 4 channels".toList := by
    decide +kernel
  have lost := congrArg (fun m => m.find? "a".toList) (h _ refused).2.2
  revert lost
  decide +kernel

end ChannelMappingApi

end Aes67.Ravenna
