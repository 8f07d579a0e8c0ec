import Aes67.Driver.Device
import Aes67.Manager.Accounting

/-!
# What a patch touches

A patch names a sender or a receiver by an identifier that is derived from the name of its session.
The device finds the session among those of the one direction; the stream to take out it then looks
for by name alone, among the streams of both, and takes the first.

* `activeNamed_eq_some`, `runningSender_eq_some`: what the two searches find;
* `TxAdmitted`, `createTxStream_eq`: when a stream to send is opened, and what that leaves;
* `Untouched`: every stream but those the identifier names is there as it was;
* `TakenOut`: the name of the session whose stream the patch takes out;
* **`untouched_iff`**: a patch leaves the others alone exactly where the first stream of that name
  runs in the direction of the patch.
-/

namespace Aes67

open Sdp (SDPSession)
open Nmos (ConnectionPatch)

/-! ## Searches -/

namespace StreamManager

variable {s : StreamManager} {name : Text} {info : StreamInfo} {t : Bool} {sdp : SDPSession}

theorem activeNamed_eq_some (h : s.activeNamed name = some info) :
    ∃ managed, s.streams.find? info.id = some managed ∧ managed.sdp.sessionName = name := by
  have hname : info.name = name := by simpa using List.find?_some h
  obtain ⟨⟨id, managed⟩, hmem, rfl⟩ := List.mem_map.mp (List.mem_of_find?_eq_some h)
  exact ⟨managed, s.streams.mem_entries_iff.mp hmem, hname⟩

theorem activeNamed_isSome {id : StreamID} {managed : ManagedStream}
    (hf : s.streams.find? id = some managed) :
    ∃ info, s.activeNamed managed.sdp.sessionName = some info := by
  refine Option.isSome_iff_exists.mp (List.find?_isSome.mpr ⟨⟨id, managed.sdp.sessionName⟩, ?_, ?_⟩)
  · exact List.mem_map.mpr ⟨(id, managed), s.streams.mem_entries_iff.mpr hf, rfl⟩
  · simp

theorem mem_sessions : sdp ∈ s.sessions t ↔
    ∃ id managed, s.streams.find? id = some managed ∧ managed.isTransmit = t ∧ managed.sdp = sdp := by
  constructor
  · intro h
    obtain ⟨managed, hmem, rfl⟩ := List.mem_map.mp h
    obtain ⟨hvalue, ht⟩ := List.mem_filter.mp hmem
    obtain ⟨⟨id, managed⟩, hentry, rfl⟩ := List.mem_map.mp hvalue
    exact ⟨id, managed, s.streams.mem_entries_iff.mp hentry, by simpa using ht, rfl⟩
  · rintro ⟨id, managed, hf, ht, rfl⟩
    refine List.mem_map.mpr ⟨managed, List.mem_filter.mpr ⟨?_, by simpa using ht⟩, rfl⟩
    exact List.mem_map.mpr ⟨(id, managed), s.streams.mem_entries_iff.mpr hf, rfl⟩

/-! ## Opening a stream to send -/

/-- A stream to send is let in, its channels are free and its socket opens where it has to. -/
structure TxAdmitted (s : StreamManager) (env : Env) (sdp : SDPSession) (mapping : ChannelMapping) :
    Prop where
  checked : s.canAddStream env.isLocked sdp true = .ok ()
  accepted : s.mapper.accepts mapping = true
  opens : s.ioActive = true → env.opens 0 = true

/-- The mapping `createTxStream` gives its stream. -/
def sentMapping (generated : StreamID) (name : Text) (numChannels : UInt16) (mapping : ChannelMapping) :
    ChannelMapping :=
  { mapping with
    streamID := generated
    streamName := name
    streamChannelCount := numChannels.toNat
    deviceChannelCount := numChannels.toNat }

/-- What `createTxStream` does with a session that is let in. -/
theorem createTxStream_of_checked {env : Env} {name multicastIP : Text} {port numChannels : UInt16}
    {mapping : ChannelMapping} {sourcePort : UInt16} {dscp : Int32}
    (h : s.canAddStream env.isLocked (announcedTxSession name multicastIP port numChannels
      (castUInt32 s.currentDeviceSampleRate) dscp env.time) true = .ok ()) :
    s.createTxStream env name multicastIP port numChannels mapping sourcePort dscp (env.generated 0)
      (env.opens 0) =
    let kept := s.enlist (announcedTxSession name multicastIP port numChannels
        (castUInt32 s.currentDeviceSampleRate) dscp env.time)
      (sentMapping (env.generated 0) name numChannels mapping) true sourcePort (env.opens 0)
    (kept.1, if kept.2 then env.generated 0 else .null) := by
  rw [createTxStream]
  dsimp only
  rw [h]
  dsimp only
  rw [← sentMapping]
  split
  · next e => rw [e]; rfl
  · next e => rw [e]; rfl

/-- **A stream to send is kept exactly where it is admitted**; where it is not, the streams are what
they were. -/
theorem createTxStream_eq (s : StreamManager) (env : Env) (name multicastIP : Text)
    (port numChannels : UInt16) (mapping : ChannelMapping) (sourcePort : UInt16) (dscp : Int32) :
    let sdp := announcedTxSession name multicastIP port numChannels
      (castUInt32 s.currentDeviceSampleRate) dscp env.time
    let complete := sentMapping (env.generated 0) name numChannels mapping
    let r := s.createTxStream env name multicastIP port numChannels mapping sourcePort dscp
      (env.generated 0) (env.opens 0)
    (¬ TxAdmitted s env sdp complete ∧ r.2 = .null ∧ r.1.streams = s.streams) ∨
    (TxAdmitted s env sdp complete ∧ r.2 = env.generated 0 ∧ ∃ rtp, r.1.streams =
      s.streams.insert (env.generated 0)
        { sdp, mapping := complete, rtp, isTransmit := true, sourcePort }) := by
  intro sdp complete r
  by_cases hchecked : s.canAddStream env.isLocked sdp true = .ok ()
  · obtain ⟨-, hchannels, -, hnetwork, -⟩ := canAddStream_eq_ok.mp hchecked
    have hr : r = _ := createTxStream_of_checked hchecked
    have hkept := s.enlist_kept_iff complete true sourcePort (env.opens 0)
      (startable_of_checks hchannels hnetwork)
    rcases s.enlist_eq sdp complete true sourcePort (env.opens 0) with
      e | ⟨mapper, -, e⟩ | ⟨mapper, rtp, -, -, e⟩
    · rw [e] at hr hkept
      rw [hr]
      exact Or.inl ⟨fun hin => Bool.noConfusion (hkept.mpr ⟨hin.accepted, hin.opens⟩), rfl, rfl⟩
    · rw [e] at hr hkept
      rw [hr]
      exact Or.inl ⟨fun hin => Bool.noConfusion (hkept.mpr ⟨hin.accepted, hin.opens⟩), rfl, rfl⟩
    · rw [e] at hr hkept
      rw [hr]
      obtain ⟨haccepted, hopens⟩ := hkept.mp rfl
      exact Or.inr ⟨⟨hchecked, haccepted, hopens⟩, rfl, rtp, keep_streams _ _ _⟩
  · have hr : r = (s, .null) := by
      change s.createTxStream env name multicastIP port numChannels mapping sourcePort dscp
        (env.generated 0) (env.opens 0) = (s, .null)
      rw [createTxStream]
      dsimp only
      split
      · rfl
      · next h => exact absurd h hchecked
    rw [hr]
    exact Or.inl ⟨fun hin => hchecked hin.checked, rfl, rfl⟩

theorem TxAdmitted.generated_ne_null {env : Env} {mapping : ChannelMapping}
    (h : TxAdmitted s env sdp mapping) : mapping.streamID.isNull = false := by
  have hvalid := h.accepted
  rw [Mapper.accepts, Bool.and_eq_true] at hvalid
  simpa [StreamID.isNull] using (ChannelMapping.isValid_iff.mp hvalid.1).1

end StreamManager

namespace AES67Device

variable {deriveId : Text → Text → Text} {d d' : AES67Device} {env : Env}

theorem runningSender_eq_some {senderId : Text} {sdp : SDPSession}
    (h : d.runningSender deriveId senderId = some sdp) :
    d.nmosIdFor deriveId "sender" sdp.sessionName = senderId ∧ ∃ id managed,
      d.streamManager.streams.find? id = some managed ∧ managed.isTransmit = true ∧
        managed.sdp = sdp :=
  ⟨by simpa using List.find?_some h, StreamManager.mem_sessions.mp (List.mem_of_find?_eq_some h)⟩

theorem runningReceiver_eq_some {receiverId : Text} {sdp : SDPSession}
    (h : d.runningReceiver deriveId receiverId = some sdp) :
    d.nmosIdFor deriveId "receiver" sdp.sessionName = receiverId ∧ ∃ id managed,
      d.streamManager.streams.find? id = some managed ∧ managed.isTransmit = false ∧
        managed.sdp = sdp :=
  ⟨by simpa using List.find?_some h, StreamManager.mem_sessions.mp (List.mem_of_find?_eq_some h)⟩

/-! ## What a patch of a sender comes down to -/

/-- What a patch of a sender has the device do. `running` is the stream that is taken out. -/
inductive SenderAction
  | answer (accepted : Bool)
  | stop (current : SDPSession) (running : StreamInfo)
  | readdress (current : SDPSession) (running : StreamInfo) (mapping : ChannelMapping)
      (address : Text) (port : UInt16)
  | restart (stopped : StoppedSender) (address : Text) (port : UInt16)

/-- What a patch of a sender asks for, as the device is. -/
def senderAction (deriveId : Text → Text → Text) (d : AES67Device) (senderId : Text)
    (patch : ConnectionPatch) : SenderAction :=
  match d.senderNamed deriveId senderId with
  | none => .answer false
  | some (current, wasStopped) =>
    if !patch.activateImmediate then .answer false
    else if patch.masterEnable = some false then
      match d.streamManager.activeNamed current.sessionName with
      | none => .answer true
      | some running => .stop current running
    else match destination current patch with
      | none => .answer false
      | some (address, port) =>
        match wasStopped with
        | some stopped => .restart stopped address port
        | none =>
          if address = current.connectionAddress ∧ port = current.port then .answer true
          else match d.streamManager.activeNamed current.sessionName with
            | none => .answer false
            | some running => match d.streamManager.getMapping running.id with
              | none => .answer false
              | some mapping => .readdress current running mapping address port

/-- What is remembered of a sender that is stopped. -/
def remembered (d : AES67Device) (current : SDPSession) (running : StreamInfo) : StoppedSender where
  sdp := current
  mapping := (d.streamManager.getMapping running.id).getD {}
  sourcePort := (d.streamManager.getSourcePort running.id).getD 0

/-- The device does that. -/
def perform (d : AES67Device) (env : Env) (senderId : Text) : SenderAction → AES67Device × Bool
  | .answer accepted => (d, accepted)
  | .stop current running =>
    ({ d with
      stoppedSenders := d.stoppedSenders.insert senderId (d.remembered current running)
      streamManager := (d.streamManager.removeStream running.id).1 }, true)
  | .readdress current running mapping address port =>
    let (manager, createdId) := (d.streamManager.removeStream running.id).1.createTxStream env
      current.sessionName address port current.numChannels mapping
      ((d.streamManager.getSourcePort running.id).getD 0) (-1) (env.generated 0) (env.opens 0)
    ({ d with streamManager := manager }, !createdId.isNull)
  | .restart stopped address port => d.restartSender env senderId stopped address port

/-- A stream that was found is removed. -/
theorem removeStream_running {name : Text} {running : StreamInfo}
    (h : d.streamManager.activeNamed name = some running) :
    d.streamManager.removeStream running.id = ((d.streamManager.removeStream running.id).1, true) := by
  obtain ⟨managed, hf, -⟩ := StreamManager.activeNamed_eq_some h
  rw [StreamManager.removeStream_of_find? hf]

/-- **A patch of a sender is the action it comes down to.** -/
theorem applySenderConnectionPatch_eq (d : AES67Device) (env : Env) (senderId : Text)
    (patch : ConnectionPatch) : d.applySenderConnectionPatch deriveId env senderId patch =
      d.perform env senderId (d.senderAction deriveId senderId patch) := by
  rw [applySenderConnectionPatch, senderAction]
  rcases d.senderNamed deriveId senderId with _ | ⟨current, wasStopped⟩
  · rfl
  dsimp only
  by_cases hactivate : (!patch.activateImmediate) = true
  · rw [if_pos hactivate, if_pos hactivate]
    rfl
  rw [if_neg hactivate, if_neg hactivate]
  by_cases hdisable : patch.masterEnable = some false
  · rw [if_pos hdisable, if_pos hdisable, stopSender]
    cases hrun : d.streamManager.activeNamed current.sessionName with
    | none => rfl
    | some running =>
      dsimp only
      rw [removeStream_running hrun]
      rfl
  rw [if_neg hdisable, if_neg hdisable]
  rcases destination current patch with _ | ⟨address, port⟩
  · rfl
  dsimp only
  rcases wasStopped with _ | stopped
  · dsimp only
    by_cases hsame : address = current.connectionAddress ∧ port = current.port
    · rw [if_pos hsame, if_pos hsame]
      rfl
    rw [if_neg hsame, if_neg hsame, readdressSender]
    cases hrun : d.streamManager.activeNamed current.sessionName with
    | none => rfl
    | some running =>
      dsimp only
      cases d.streamManager.getMapping running.id with
      | none => rfl
      | some mapping =>
        dsimp only
        rw [removeStream_running hrun]
        rfl
  · rfl

/-! ## What is remembered -/

/-- A stopped sender is remembered under its own identifier. -/
def Remembers (deriveId : Text → Text → Text) (d : AES67Device) : Prop :=
  ∀ senderId stopped, d.stoppedSenders.find? senderId = some stopped →
    d.nmosIdFor deriveId "sender" stopped.sdp.sessionName = senderId

theorem Remembers.congr (h : Remembers deriveId d) (hn : d'.nmosNodeId = d.nmosNodeId)
    (hs : d'.stoppedSenders = d.stoppedSenders) : Remembers deriveId d' := by
  intro senderId stopped hf
  rw [hs] at hf
  rw [nmosIdFor, hn]
  exact h senderId stopped hf

theorem senderNamed_eq_some (h : Remembers deriveId d) {senderId : Text} {current : SDPSession}
    {wasStopped : Option StoppedSender}
    (hn : d.senderNamed deriveId senderId = some (current, wasStopped)) :
    d.nmosIdFor deriveId "sender" current.sessionName = senderId := by
  rw [senderNamed] at hn
  cases hr : d.runningSender deriveId senderId with
  | some sdp =>
    rw [hr] at hn
    cases hn
    exact (runningSender_eq_some hr).1
  | none =>
    rw [hr] at hn
    dsimp only at hn
    obtain ⟨stopped, hf, e⟩ := Option.map_eq_some_iff.mp hn
    cases e
    exact h senderId stopped hf

/-- The stream an action takes out. -/
def SenderAction.takesOut : SenderAction → Option StreamInfo
  | .stop _ running | .readdress _ running _ _ _ => some running
  | _ => none

/-- A stream that is taken out has the name of the sender. -/
theorem takesOut_senderAction (h : Remembers deriveId d) {senderId : Text} {patch : ConnectionPatch}
    {running : StreamInfo} (ht : (d.senderAction deriveId senderId patch).takesOut = some running) :
    ∃ managed, d.streamManager.streams.find? running.id = some managed ∧
      d.nmosIdFor deriveId "sender" managed.sdp.sessionName = senderId := by
  rw [senderAction] at ht
  rcases hn : d.senderNamed deriveId senderId with _ | ⟨current, wasStopped⟩
  · rw [hn] at ht
    cases ht
  have hid := senderNamed_eq_some h hn
  rw [hn] at ht
  dsimp only at ht
  have hfound : ∀ {running : StreamInfo},
      d.streamManager.activeNamed current.sessionName = some running →
      ∃ managed, d.streamManager.streams.find? running.id = some managed ∧
        d.nmosIdFor deriveId "sender" managed.sdp.sessionName = senderId := by
    intro running hrun
    obtain ⟨managed, hf, hname⟩ := StreamManager.activeNamed_eq_some hrun
    exact ⟨managed, hf, hname ▸ hid⟩
  split_ifs at ht
  · cases ht
  · cases hrun : d.streamManager.activeNamed current.sessionName with
    | none =>
      rw [hrun] at ht
      cases ht
    | some running' =>
      rw [hrun] at ht
      cases ht
      exact hfound hrun
  · rcases hdest : destination current patch with _ | ⟨address, port⟩
    · rw [hdest] at ht
      cases ht
    rw [hdest] at ht
    rcases wasStopped with _ | stopped
    · dsimp only at ht
      split_ifs at ht
      · cases ht
      cases hrun : d.streamManager.activeNamed current.sessionName with
      | none =>
        rw [hrun] at ht
        cases ht
      | some running' =>
        rw [hrun] at ht
        dsimp only at ht
        cases hmapping : d.streamManager.getMapping running'.id with
        | none =>
          rw [hmapping] at ht
          cases ht
        | some mapping =>
          rw [hmapping] at ht
          cases ht
          exact hfound hrun
    · cases ht

theorem remembers_applySenderConnectionPatch (h : Remembers deriveId d) (senderId : Text)
    (patch : ConnectionPatch) :
    Remembers deriveId (d.applySenderConnectionPatch deriveId env senderId patch).1 := by
  rw [applySenderConnectionPatch]
  rcases hn : d.senderNamed deriveId senderId with _ | ⟨current, wasStopped⟩
  · exact h
  dsimp only
  split_ifs
  · exact h
  · rw [stopSender]
    split
    · exact h
    intro senderId' stopped hf
    dsimp only at hf
    rw [OrdMap.find?_insert] at hf
    split_ifs at hf with hid
    · cases hf
      rw [hid]
      exact senderNamed_eq_some h hn
    · exact h senderId' stopped hf
  split
  · exact h
  split
  · rw [restartSender]
    dsimp only
    split_ifs
    · exact h.congr rfl rfl
    · intro senderId' stopped hf
      dsimp only at hf
      rw [OrdMap.find?_erase] at hf
      split_ifs at hf
      exact h senderId' stopped hf
  split_ifs
  · exact h
  · rw [readdressSender]
    split
    · exact h
    split
    · exact h
    dsimp only
    split
    · exact h
    · exact h.congr rfl rfl

theorem remembers_step (h : Remembers deriveId d) (op : Op) :
    Remembers deriveId (d.step deriveId op) := by
  cases op with
  | SetSampleRate rate =>
    refine h.congr ?_ ?_ <;> rw [step, SetSampleRate] <;> split_ifs <;> rfl
  | StartIO startCount opens =>
    refine h.congr ?_ ?_ <;> rw [step, StartIOImpl] <;> split_ifs <;> rfl
  | StopIO startCount =>
    refine h.congr ?_ ?_ <;> rw [step, StopIOImpl] <;> split_ifs <;> rfl
  | onStreams op => exact h.congr rfl rfl
  | patchSender env senderId patch => exact remembers_applySenderConnectionPatch h _ _
  | patchReceiver env receiverId patch =>
    change Remembers deriveId (d.applyConnectionPatch deriveId env receiverId patch).1
    rw [applyConnectionPatch]
    split
    · split_ifs
      · rw [subscribeSpareReceiver]
        split_ifs
        · exact h
        · exact h
        split
        · exact h
        dsimp only
        split_ifs
        · exact h.congr rfl rfl
        · exact h.congr rfl rfl
      · exact h
    split_ifs
    · exact h
    · rw [disconnectReceiver]
      dsimp only
      split
      · exact h.congr rfl rfl
      · exact h.congr rfl rfl
    split
    · exact h
    · exact h.congr rfl rfl

theorem remembers_run (deriveId : Text → Text → Text) (settings : Settings) (initially : ℕ → Env)
    (ops : List Op) :
    Remembers deriveId (ops.foldl (step deriveId) (Initialize settings initially)) := by
  have hstart : Remembers deriveId (Initialize settings initially) := by
    intro senderId stopped hf
    cases hf
  have hall : Always (step deriveId) (Remembers deriveId) (Initialize settings initially) ops :=
    always_of_step (fun _ op h => remembers_step h op) hstart
  exact hall.run

/-! ## The other streams -/

/-- Every stream that is not one of `mine` is there as it was. -/
def Untouched (d d' : AES67Device) (mine : ManagedStream → Prop) : Prop :=
  ∀ id managed, d.streamManager.streams.find? id = some managed → ¬ mine managed →
    d'.streamManager.streams.find? id = some managed

/-- The senders of an identifier. -/
def IsSender (deriveId : Text → Text → Text) (d : AES67Device) (senderId : Text)
    (managed : ManagedStream) : Prop :=
  managed.isTransmit = true ∧ d.nmosIdFor deriveId "sender" managed.sdp.sessionName = senderId

/-- The receivers of an identifier. -/
def IsReceiver (deriveId : Text → Text → Text) (d : AES67Device) (receiverId : Text)
    (managed : ManagedStream) : Prop :=
  managed.isTransmit = false ∧
    d.nmosIdFor deriveId "receiver" managed.sdp.sessionName = receiverId

/-- The stream runs in the direction. -/
def Runs (d : AES67Device) (t : Bool) (running : StreamInfo) : Prop :=
  ∃ managed, d.streamManager.streams.find? running.id = some managed ∧ managed.isTransmit = t

/-- Opening a stream under a new identifier touches no other. -/
theorem find?_opened {s : StreamManager} {name multicastIP : Text} {port numChannels : UInt16}
    {mapping : ChannelMapping} {sourcePort : UInt16} {dscp : Int32} {id : StreamID}
    (hid : id ≠ env.generated 0) :
    (s.createTxStream env name multicastIP port numChannels mapping sourcePort dscp
      (env.generated 0) (env.opens 0)).1.streams.find? id = s.streams.find? id := by
  rcases s.createTxStream_eq env name multicastIP port numChannels mapping sourcePort dscp with
    ⟨-, -, e⟩ | ⟨-, -, rtp, e⟩
  · rw [e]
  · rw [e, OrdMap.find?_insert, if_neg hid]

/-- What an action leaves of the streams: all but the one it takes out and the one it opens. -/
theorem find?_perform (senderId : Text) (action : SenderAction) {id : StreamID}
    (hid : id ≠ env.generated 0) :
    (d.perform env senderId action).1.streamManager.streams.find? id =
      if action.takesOut.map StreamInfo.id = some id then none
      else d.streamManager.streams.find? id := by
  cases action with
  | answer accepted => rfl
  | stop current running =>
    change (d.streamManager.removeStream running.id).1.streams.find? id = _
    rw [StreamManager.removeStream_streams, OrdMap.find?_erase]
    exact if_congr (by simp [SenderAction.takesOut, eq_comm]) rfl rfl
  | readdress current running mapping address port =>
    refine (find?_opened hid).trans ?_
    rw [StreamManager.removeStream_streams, OrdMap.find?_erase]
    exact if_congr (by simp [SenderAction.takesOut, eq_comm]) rfl rfl
  | restart stopped address port =>
    change (d.restartSender env senderId stopped address port).1.streamManager.streams.find? id = _
    rw [restartSender]
    dsimp only
    rw [apply_ite Prod.fst, apply_ite AES67Device.streamManager]
    exact (ite_self _).symm ▸ find?_opened hid

/-- **A patch of a sender leaves the other streams alone exactly where the stream it takes out, if
any, is one that transmits.** -/
theorem sender_untouched_iff (h : Remembers deriveId d)
    (fresh : d.streamManager.streams.find? (env.generated 0) = none) (senderId : Text)
    (patch : ConnectionPatch) :
    Untouched d (d.applySenderConnectionPatch deriveId env senderId patch).1
        (d.IsSender deriveId senderId) ↔
      ∀ running, (d.senderAction deriveId senderId patch).takesOut = some running →
        d.Runs true running := by
  have hne : ∀ {id : StreamID} {managed : ManagedStream},
      d.streamManager.streams.find? id = some managed → id ≠ env.generated 0 := by
    rintro id managed hf rfl
    rw [fresh] at hf
    cases hf
  rw [applySenderConnectionPatch_eq]
  constructor
  · intro hu running ht
    obtain ⟨managed, hf, -⟩ := takesOut_senderAction h ht
    by_contra hruns
    have hkept := hu running.id managed hf fun hmine => hruns ⟨managed, hf, hmine.1⟩
    rw [find?_perform senderId _ (hne hf), ht] at hkept
    simp at hkept
  · intro hruns id managed hf hother
    rw [find?_perform senderId _ (hne hf)]
    split_ifs with ht
    · obtain ⟨running, htaken, rfl⟩ := Option.map_eq_some_iff.mp ht
      obtain ⟨managed', hf', htransmit⟩ := hruns running htaken
      obtain ⟨managed'', hf'', hid⟩ := takesOut_senderAction h htaken
      rw [hf] at hf' hf''
      cases hf'
      cases hf''
      exact absurd ⟨htransmit, hid⟩ hother
    · exact hf

/-- The stream that disconnecting a receiver takes out. -/
def disconnects (deriveId : Text → Text → Text) (d : AES67Device) (receiverId : Text)
    (patch : ConnectionPatch) : Option StreamInfo :=
  if patch.activateImmediate then
    (d.runningReceiver deriveId receiverId).bind fun target =>
      d.streamManager.activeNamed target.sessionName
  else none

/-- **A receiver that is disconnected leaves the other streams alone exactly where the stream taken
out, if any, is one that is received.** -/
theorem receiver_untouched_iff (d : AES67Device) (env : Env) (receiverId : Text)
    {patch : ConnectionPatch} (hdisable : patch.masterEnable = some false) :
    Untouched d (d.applyConnectionPatch deriveId env receiverId patch).1
        (d.IsReceiver deriveId receiverId) ↔
      ∀ running, d.disconnects deriveId receiverId patch = some running → d.Runs false running := by
  have hsame : ∀ {d' : AES67Device} {mine : ManagedStream → Prop},
      d'.streamManager = d.streamManager → Untouched d d' mine :=
    fun hs id managed hf _ => hs ▸ hf
  rw [applyConnectionPatch, disconnects]
  cases hr : d.runningReceiver deriveId receiverId with
  | none =>
    refine iff_of_true ?_ fun running ht => by split_ifs at ht; cases ht
    dsimp only
    split_ifs
    · rw [subscribeSpareReceiver, if_pos hdisable]
      exact hsame rfl
    · exact hsame rfl
  | some target =>
  by_cases hactivate : patch.activateImmediate = true
  · have hnot : ¬ (!patch.activateImmediate) = true := by rw [hactivate]; simp
    dsimp only
    rw [if_neg hnot, if_pos hdisable, if_pos hactivate, disconnectReceiver]
    dsimp only [Option.bind]
    cases hrun : d.streamManager.activeNamed target.sessionName with
    | none => exact iff_of_true (hsame rfl) fun running ht => by cases ht
    | some running =>
      obtain ⟨hid, -⟩ := runningReceiver_eq_some hr
      obtain ⟨managed, hf, hname⟩ := StreamManager.activeNamed_eq_some hrun
      constructor
      · rintro hu running' ⟨⟩
        by_contra hruns
        have hkept := hu running.id managed hf fun hmine => hruns ⟨managed, hf, hmine.1⟩
        dsimp only at hkept
        rw [StreamManager.removeStream_streams, OrdMap.find?_erase_self] at hkept
        cases hkept
      · intro hruns id managed' hf' hother
        dsimp only
        rw [StreamManager.removeStream_streams, OrdMap.find?_erase]
        split_ifs with he
        · obtain ⟨managed'', hf'', hdirection⟩ := hruns running rfl
          rw [he, hf] at hf'
          rw [hf] at hf''
          cases hf'
          cases hf''
          exact absurd ⟨hdirection, hname ▸ hid⟩ hother
        · exact hf'
  · have hnot : (!patch.activateImmediate) = true := by simpa using hactivate
    dsimp only
    rw [if_pos hnot, if_neg hactivate]
    exact iff_of_true (hsame rfl) fun running ht => by cases ht

/-! ## Both directions -/

/-- **A patch touches only the stream it names, in every state that is reached, exactly where the
stream it takes out runs in its direction.** -/
theorem untouched_iff (deriveId : Text → Text → Text) (settings : Settings) (initially : ℕ → Env)
    (ops : List Op) (env : Env) (id : Text) (patch : ConnectionPatch)
    (fresh : (ops.foldl (step deriveId) (Initialize settings initially)).streamManager.streams.find?
      (env.generated 0) = none) :
    let d := ops.foldl (step deriveId) (Initialize settings initially)
    (Untouched d (d.applySenderConnectionPatch deriveId env id patch).1 (d.IsSender deriveId id) ↔
      ∀ running, (d.senderAction deriveId id patch).takesOut = some running →
        d.Runs true running) ∧
    (patch.masterEnable = some false →
      (Untouched d (d.applyConnectionPatch deriveId env id patch).1 (d.IsReceiver deriveId id) ↔
        ∀ running, d.disconnects deriveId id patch = some running → d.Runs false running)) := by
  intro d
  exact ⟨sender_untouched_iff (remembers_run deriveId settings initially ops) fresh id patch,
    fun hdisable => receiver_untouched_iff d env id hdisable⟩

/-- An identifier that shows what it is derived from. -/
def spelledOut (node name : Text) : Text := node ++ '/' :: name

/-- A device with the two streams of a fresh installation. -/
def installed : AES67Device := Initialize { nodeId := "n".toList } opened

/-- A patch that switches off, at once. -/
def switchOff : ConnectionPatch := { masterEnable := some false, activateImmediate := true }

/-- The sender of a fresh installation is switched off. -/
theorem testStream_untouched :
    Untouched installed (installed.applySenderConnectionPatch spelledOut (opened 9)
        "n/sender:Test AES67 TX Stream".toList switchOff).1
      (installed.IsSender spelledOut "n/sender:Test AES67 TX Stream".toList) := by
  have htaken : (installed.senderAction spelledOut "n/sender:Test AES67 TX Stream".toList
      switchOff).takesOut.map StreamInfo.id = some ⟨129, by decide⟩ := by
    decide +kernel
  have hsent : (installed.streamManager.streams.find? ⟨129, by decide⟩).map
      ManagedStream.isTransmit = some true := by
    decide +kernel
  refine (untouched_iff spelledOut { nodeId := "n".toList } opened [] (opened 9)
    "n/sender:Test AES67 TX Stream".toList switchOff (by decide +kernel)).1.mpr fun running hrun => ?_
  have hrunning : running.id = ⟨129, by decide⟩ := by
    have hmap := congrArg (Option.map StreamInfo.id) hrun
    exact Option.some.inj (hmap.symm.trans htaken)
  obtain ⟨managed, hf, ht⟩ := Option.map_eq_some_iff.mp hsent
  exact ⟨managed, hrunning ▸ hf, ht⟩

/-- A source is received under the name `a`, and then one is sent under it. -/
def loopedBack : List Op :=
  [.onStreams ⟨.addStream (opened 3) (StreamManager.stereo "a" "239.1.1.3"), rfl⟩,
    .onStreams ⟨.createTxStream (opened 4) "a".toList "239.1.1.4".toList 5004 2
      { deviceChannelStart := 20 } 0 (-1), rfl⟩]

/-- **The wrong stream**: switching the sender off takes out the stream that is received under its
name. -/
theorem loopedBack_touched :
    ¬ Untouched (loopedBack.foldl (step spelledOut) installed)
      ((loopedBack.foldl (step spelledOut) installed).applySenderConnectionPatch spelledOut (opened 9)
        "n/sender:a".toList switchOff).1
      ((loopedBack.foldl (step spelledOut) installed).IsSender spelledOut "n/sender:a".toList) := by
  have hreceived : ((loopedBack.foldl (step spelledOut) installed).streamManager.streams.find?
      ⟨193, by decide⟩).map ManagedStream.isTransmit = some false := by
    decide +kernel
  have hgone : ((((loopedBack.foldl (step spelledOut) installed).applySenderConnectionPatch spelledOut
      (opened 9) "n/sender:a".toList switchOff).1).streamManager.streams.find?
        ⟨193, by decide⟩).isNone = true := by
    decide +kernel
  intro hu
  obtain ⟨managed, hf, hdirection⟩ := Option.map_eq_some_iff.mp hreceived
  have hkept := hu _ managed hf fun hmine => by
    rw [hmine.1] at hdirection
    cases hdirection
  rw [hkept] at hgone
  cases hgone

end AES67Device

end Aes67
