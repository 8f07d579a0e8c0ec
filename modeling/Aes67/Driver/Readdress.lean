import Aes67.Driver.Patches

/-!
# Re-addressing a sender

A sender is taken to another destination by taking its stream out and opening one anew, from its name,
its channel count, its mapping and its source port. What else the stream had is written afresh, and a
stream that is not let in again is gone.

* `Moved`: two streams alike but for where they go and which session they are;
* `Atomic`: a patch that fails leaves the stream, one that succeeds leaves it moved;
* `Reopens`: the stream is let in again, and is one that `createTxStream` writes;
* **`atomic_iff_reopens`**: a patch is atomic exactly where it moves nothing, or the stream reopens.
-/

namespace Aes67.AES67Device

open Sdp (SDPSession)
open Nmos (ConnectionPatch)
open StreamManager (TxAdmitted sentMapping)

variable {deriveId : Text → Text → Text} {d : AES67Device} {env : Env} {id : StreamID}
  {managed : ManagedStream}

/-- The streams differ at most in the destination, the identity of the session and the stream's
identifier. -/
structure Moved (managed managed' : ManagedStream) : Prop where
  sdp : managed'.sdp = { managed.sdp with
    connectionAddress := managed'.sdp.connectionAddress
    port := managed'.sdp.port
    sessionID := managed'.sdp.sessionID
    sessionVersion := managed'.sdp.sessionVersion }
  mapping : managed'.mapping = { managed.mapping with streamID := managed'.mapping.streamID }
  isTransmit : managed'.isTransmit = managed.isTransmit
  sourcePort : managed'.sourcePort = managed.sourcePort

theorem Moved.refl (managed : ManagedStream) : Moved managed managed := ⟨rfl, rfl, rfl, rfl⟩

/-- The one stream of a name. -/
structure Only (s : StreamManager) (name : Text) (id : StreamID) (managed : ManagedStream) : Prop where
  found : s.streams.find? id = some managed
  named : managed.sdp.sessionName = name
  only : ∀ id' managed', s.streams.find? id' = some managed' → managed'.sdp.sessionName = name →
    id' = id

/-- A patch that fails leaves the stream as it was; one that succeeds leaves one stream of its name,
which is it but for where it goes. -/
def Atomic (d : AES67Device) (r : AES67Device × Bool) (id : StreamID) (managed : ManagedStream) :
    Prop :=
  (r.2 = false → r.1.streamManager.streams.find? id = some managed ∧
    r.1.streamManager.getMapping id = d.streamManager.getMapping id) ∧
  (r.2 = true → ∃ id' managed', Only r.1.streamManager managed.sdp.sessionName id' managed' ∧
    Moved managed managed')

/-- The session `createTxStream` would write for the stream at another destination. -/
def rewritten (d : AES67Device) (env : Env) (managed : ManagedStream) (address : Text) (port : UInt16) :
    SDPSession :=
  announcedTxSession managed.sdp.sessionName address port managed.sdp.numChannels
    (castUInt32 d.streamManager.currentDeviceSampleRate) (-1) env.time

/-- The manager without the stream lets it in again at the destination; and the stream, but for where
it goes, is one that `createTxStream` writes, with the mapping the mapper has of it. -/
structure Reopens (d : AES67Device) (env : Env) (id : StreamID) (managed : ManagedStream)
    (mapping : ChannelMapping) (address : Text) (port : UInt16) : Prop where
  admitted : TxAdmitted (d.streamManager.removeStream id).1 env (d.rewritten env managed address port)
    (sentMapping (env.generated 0) managed.sdp.sessionName managed.sdp.numChannels mapping)
  written : d.rewritten env managed address port = { managed.sdp with
    connectionAddress := address
    port := port
    sessionID := env.time
    sessionVersion := 1 }
  mapped : sentMapping (env.generated 0) managed.sdp.sessionName managed.sdp.numChannels mapping =
    { managed.mapping with streamID := env.generated 0 }

/-- The stream of a name is the one that is looked up by it. -/
theorem Only.activeNamed {name : Text} (h : Only d.streamManager name id managed) :
    d.streamManager.activeNamed name = some ⟨id, name⟩ := by
  obtain ⟨info, hinfo⟩ := StreamManager.activeNamed_isSome h.found
  rw [h.named] at hinfo
  obtain ⟨managed', hf, hname⟩ := StreamManager.activeNamed_eq_some hinfo
  have hid : info.id = id := h.only _ _ hf hname
  have hinfoName : info.name = name := by simpa using List.find?_some hinfo
  rw [hinfo]
  exact congrArg some (by cases info; simp_all)

theorem removeStream_rate (s : StreamManager) (id : StreamID) :
    (s.removeStream id).1.currentDeviceSampleRate = s.currentDeviceSampleRate := by
  cases hf : s.streams.find? id with
  | none => rw [StreamManager.removeStream_of_none hf]
  | some managed => rw [StreamManager.removeStream_of_find? hf]; rfl

/-- What a patch of a running sender that does not disable it comes down to. -/
theorem senderAction_of_running {senderId : Text} {patch : ConnectionPatch}
    (h : Only d.streamManager managed.sdp.sessionName id managed)
    (hnamed : d.runningSender deriveId senderId = some managed.sdp)
    (henabled : patch.masterEnable ≠ some false) :
    (∃ answer, d.senderAction deriveId senderId patch = .answer answer) ∨
    ∃ mapping address port, d.senderAction deriveId senderId patch =
      .readdress managed.sdp ⟨id, managed.sdp.sessionName⟩ mapping address port ∧
      d.streamManager.getMapping id = some mapping := by
  rw [senderAction, senderNamed, hnamed]
  dsimp only
  rw [h.activeNamed]
  split_ifs with hactivate
  · exact Or.inl ⟨_, rfl⟩
  rcases destination managed.sdp patch with _ | ⟨address, port⟩
  · exact Or.inl ⟨_, rfl⟩
  dsimp only
  split_ifs
  · exact Or.inl ⟨_, rfl⟩
  rcases d.streamManager.getMapping id with _ | mapping
  · exact Or.inl ⟨_, rfl⟩
  · exact Or.inr ⟨mapping, address, port, rfl, rfl⟩

/-- A patch that moves nothing is atomic. -/
theorem atomic_answer (h : Only d.streamManager managed.sdp.sessionName id managed) (answer : Bool) :
    Atomic d (d, answer) id managed :=
  ⟨fun _ => ⟨h.found, rfl⟩, fun _ => ⟨id, managed, h, .refl managed⟩⟩

/-- **A patch that moves the stream is atomic exactly where the stream reopens.** -/
theorem atomic_readdress_iff (h : Only d.streamManager managed.sdp.sessionName id managed)
    (ht : managed.isTransmit = true) (senderId : Text) (mapping : ChannelMapping) (address : Text)
    (port : UInt16) :
    Atomic d (d.perform env senderId
        (.readdress managed.sdp ⟨id, managed.sdp.sessionName⟩ mapping address port)) id managed ↔
      Reopens d env id managed mapping address port := by
  have hport : (d.streamManager.getSourcePort id).getD 0 = managed.sourcePort := by
    rw [StreamManager.getSourcePort, h.found]
    simp [ht]
  rw [perform]
  dsimp only
  rw [hport]
  have hcreated := (d.streamManager.removeStream id).1.createTxStream_eq env managed.sdp.sessionName
    address port managed.sdp.numChannels mapping managed.sourcePort (-1)
  dsimp only at hcreated
  rw [removeStream_rate] at hcreated
  rcases hcreated with ⟨hrefused, hnull, hstreams⟩ | ⟨hadmitted, hid, rtp, hstreams⟩
  · refine iff_of_false (fun ha => ?_) fun hr => hrefused hr.admitted
    have hgone := (ha.1 (by rw [hnull]; rfl)).1
    dsimp only at hgone
    rw [hstreams, StreamManager.removeStream_streams, OrdMap.find?_erase_self] at hgone
    cases hgone
  have hnull : (env.generated 0).isNull = false := hadmitted.generated_ne_null
  set created : ManagedStream :=
    { sdp := d.rewritten env managed address port
      mapping := sentMapping (env.generated 0) managed.sdp.sessionName managed.sdp.numChannels mapping
      rtp := rtp
      isTransmit := true
      sourcePort := managed.sourcePort } with hcreated
  have hstreams' : ((d.streamManager.removeStream id).1.createTxStream env managed.sdp.sessionName
      address port managed.sdp.numChannels mapping managed.sourcePort (-1) (env.generated 0)
      (env.opens 0)).1.streams = (d.streamManager.streams.erase id).insert (env.generated 0) created := by
    rw [hstreams, StreamManager.removeStream_streams]
    rfl
  -- The streams of the name, once the one is out, are the new one.
  have hname : ∀ {id' : StreamID} {managed' : ManagedStream},
      ((d.streamManager.streams.erase id).insert (env.generated 0) created).find? id' = some managed' →
      managed'.sdp.sessionName = managed.sdp.sessionName → id' = env.generated 0 ∧ managed' = created := by
    intro id' managed' hf' hn
    rw [OrdMap.find?_insert] at hf'
    split_ifs at hf' with he
    · exact ⟨he, (Option.some.inj hf').symm⟩
    · rw [OrdMap.find?_erase] at hf'
      split_ifs at hf' with he'
      exact absurd (h.only id' managed' hf' hn) he'
  have hmoved : Moved managed created ↔ Reopens d env id managed mapping address port :=
    ⟨fun hm => ⟨hadmitted, hm.sdp, hm.mapping⟩, fun hr => ⟨hr.written, hr.mapped, ht.symm, rfl⟩⟩
  rw [← hmoved]
  constructor
  · intro ha
    obtain ⟨id', managed', honly, hm⟩ := ha.2 (by rw [hid, hnull]; rfl)
    have hf' := honly.found
    dsimp only at hf'
    rw [hstreams'] at hf'
    rw [← (hname hf' honly.named).2]
    exact hm
  · intro hm
    refine ⟨fun hfalse => ?_, fun _ => ⟨env.generated 0, created, ⟨?_, rfl, ?_⟩, hm⟩⟩
    · rw [hid, hnull] at hfalse
      cases hfalse
    · dsimp only
      rw [hstreams', OrdMap.find?_insert_self]
    · intro id' managed' hf' hn
      dsimp only at hf'
      rw [hstreams'] at hf'
      exact (hname hf' hn).1

/-- **A patch of a running sender is atomic exactly where it moves nothing or the stream reopens.** -/
theorem atomic_iff_reopens (deriveId : Text → Text → Text) (d : AES67Device) (env : Env)
    (id : StreamID) (managed : ManagedStream) (senderId : Text) (patch : ConnectionPatch)
    (h : Only d.streamManager managed.sdp.sessionName id managed) (ht : managed.isTransmit = true)
    (hnamed : d.runningSender deriveId senderId = some managed.sdp)
    (henabled : patch.masterEnable ≠ some false) :
    Atomic d (d.applySenderConnectionPatch deriveId env senderId patch) id managed ↔
      ∀ mapping address port, d.senderAction deriveId senderId patch =
        .readdress managed.sdp ⟨id, managed.sdp.sessionName⟩ mapping address port →
        Reopens d env id managed mapping address port := by
  rw [applySenderConnectionPatch_eq]
  rcases senderAction_of_running h hnamed henabled with ⟨answer, e⟩ | ⟨mapping, address, port, e, -⟩
  · rw [e]
    exact iff_of_true (atomic_answer h answer) fun mapping address port he => by cases he
  · rw [e, atomic_readdress_iff h ht]
    constructor
    · rintro hr mapping' address' port' ⟨⟩
      exact hr
    · exact fun hall => hall mapping address port rfl

/-! ## The sender of a fresh installation -/

/-- A patch that moves a sender, at once. -/
def moveTo (address : String) : ConnectionPatch :=
  { multicastAddress := some address.toList, activateImmediate := true }

theorem testStream_only : ∃ managed, installed.streamManager.streams.find? ⟨129, by decide⟩ =
    some managed ∧ Only installed.streamManager managed.sdp.sessionName ⟨129, by decide⟩ managed ∧
      managed.isTransmit = true ∧ installed.runningSender spelledOut
        "n/sender:Test AES67 TX Stream".toList = some managed.sdp := by
  have hsent : (installed.streamManager.streams.find? ⟨129, by decide⟩).map
      (fun managed => (managed.isTransmit, managed.sdp.sessionName)) =
        some (true, "Test AES67 TX Stream".toList) := by
    decide +kernel
  have honly : ∀ e ∈ installed.streamManager.streams.entries,
      e.2.sdp.sessionName = "Test AES67 TX Stream".toList → e.1 = ⟨129, by decide⟩ := by
    decide +kernel
  have hnamed : installed.runningSender spelledOut "n/sender:Test AES67 TX Stream".toList =
      (installed.streamManager.streams.find? ⟨129, by decide⟩).map ManagedStream.sdp := by
    decide +kernel
  obtain ⟨managed, hf, he⟩ := Option.map_eq_some_iff.mp hsent
  obtain ⟨ht, hname⟩ := Prod.mk.inj he
  refine ⟨managed, hf, ⟨hf, rfl, fun id' managed' hf' hn => ?_⟩, ht, ?_⟩
  · exact honly (id', managed') (OrdMap.mem_entries_iff _ |>.mpr hf') (hn.trans hname)
  · rw [hnamed, hf]
    rfl

/-- Where an action takes a running sender, and with which mapping. -/
def SenderAction.target : SenderAction → Option (ChannelMapping × Text × UInt16)
  | .readdress _ _ mapping address port => some (mapping, address, port)
  | _ => none

/-- Moved to another group, it keeps all but that. -/
theorem testStream_moved : ∃ managed,
    installed.streamManager.streams.find? ⟨129, by decide⟩ = some managed ∧
      Atomic installed (installed.applySenderConnectionPatch spelledOut (opened 9)
        "n/sender:Test AES67 TX Stream".toList (moveTo "239.1.1.9")) ⟨129, by decide⟩ managed := by
  obtain ⟨managed, hf, honly, ht, hnamed⟩ := testStream_only
  have hstream : (installed.streamManager.streams.find? ⟨129, by decide⟩).map
      (fun managed => (managed.sdp, managed.mapping)) =
        some (announcedTxSession "Test AES67 TX Stream".toList "239.1.1.2".toList 5004 8 48000 (-1) 0,
          sentMapping ⟨129, by decide⟩ "Test AES67 TX Stream".toList 8 txMapping) := by
    decide +kernel
  have htarget : (installed.senderAction spelledOut "n/sender:Test AES67 TX Stream".toList
      (moveTo "239.1.1.9")).target = some (sentMapping ⟨129, by decide⟩
        "Test AES67 TX Stream".toList 8 txMapping, "239.1.1.9".toList, 5004) := by
    decide +kernel
  rw [hf] at hstream
  obtain ⟨hsdp, hmapping⟩ := Prod.mk.inj (Option.some.inj hstream)
  refine ⟨managed, hf, (atomic_iff_reopens spelledOut installed (opened 9) _ managed _ _ honly ht hnamed
    (by decide)).mpr fun mapping address port he => ?_⟩
  rw [he] at htarget
  obtain ⟨rfl, hdestination⟩ := Prod.mk.inj (Option.some.inj htarget)
  obtain ⟨rfl, rfl⟩ := Prod.mk.inj hdestination
  refine ⟨⟨?_, ?_, fun _ => rfl⟩, ?_, ?_⟩
  · rw [rewritten, hsdp]
    decide +kernel
  · rw [hsdp]
    decide +kernel
  · rw [rewritten, hsdp]
    decide +kernel
  · rw [hsdp, hmapping]
    decide

/-- **A sender is lost**: moved to an address the manager refuses, its stream is gone. -/
theorem testStream_lost : ∃ managed,
    Only installed.streamManager managed.sdp.sessionName ⟨129, by decide⟩ managed ∧
      managed.isTransmit = true ∧ installed.runningSender spelledOut
        "n/sender:Test AES67 TX Stream".toList = some managed.sdp ∧
      (moveTo "10.0.0.9").masterEnable ≠ some false ∧
      ¬ Atomic installed (installed.applySenderConnectionPatch spelledOut (opened 9)
        "n/sender:Test AES67 TX Stream".toList (moveTo "10.0.0.9")) ⟨129, by decide⟩ managed := by
  obtain ⟨managed, hf, honly, ht, hnamed⟩ := testStream_only
  refine ⟨managed, honly, ht, hnamed, by decide, fun ha => ?_⟩
  have hrefused : (installed.applySenderConnectionPatch spelledOut (opened 9)
      "n/sender:Test AES67 TX Stream".toList (moveTo "10.0.0.9")).2 = false := by
    decide +kernel
  have hgone : ((installed.applySenderConnectionPatch spelledOut (opened 9)
      "n/sender:Test AES67 TX Stream".toList (moveTo "10.0.0.9")).1.streamManager.streams.find?
        ⟨129, by decide⟩).isNone = true := by
    decide +kernel
  rw [(ha.1 hrefused).1] at hgone
  cases hgone

end Aes67.AES67Device
