import Aes67.Driver.Device
import Aes67.Manager.Tuning

/-!
# Where the device's sessions come from

Whatever happens to the device but `SetSampleRate` leaves its rate, and brings up no session that its
manager's checks do not let pass.

* `Vouched`: the device's rate stays, and its manager is vouched for; **`vouched_step`**.
-/

namespace Aes67.AES67Device

open Sdp (SDPSession)
open Nmos (ConnectionPatch)

variable {deriveId : Text → Text → Text} {d d' : AES67Device} {env : Env}

/-- The device's rate stays, and each session of its manager is an earlier one or passes the checks. -/
structure Vouched (d d' : AES67Device) : Prop where
  device : d'.currentSampleRate = d.currentSampleRate
  manager : StreamManager.Vouched d.streamManager d'.streamManager

theorem Vouched.refl (d : AES67Device) : Vouched d d := ⟨rfl, .refl _⟩

theorem vouched_stopSender (senderId : Text) (current : SDPSession) :
    Vouched d (d.stopSender senderId current).1 := by
  rw [stopSender]
  split
  · exact .refl d
  · exact ⟨rfl, StreamManager.vouched_removeStream _ _⟩

theorem vouched_readdressSender (current : SDPSession) (address : Text) (port : UInt16) :
    Vouched d (d.readdressSender env current address port).1 := by
  rw [readdressSender]
  split
  · exact .refl d
  next running _ =>
  split
  · exact .refl d
  dsimp only
  have hremoved := StreamManager.vouched_removeStream d.streamManager running.id
  split
  · exact .refl d
  next e =>
  rw [e] at hremoved
  exact ⟨rfl, hremoved.trans (StreamManager.vouched_createTxStream _ _ _ _ _ _ _ _ _ _ _)⟩

theorem vouched_restartSender (senderId : Text) (stopped : StoppedSender) (address : Text)
    (port : UInt16) : Vouched d (d.restartSender env senderId stopped address port).1 := by
  have hcreated := StreamManager.vouched_createTxStream d.streamManager env stopped.sdp.sessionName
    address port stopped.sdp.numChannels stopped.mapping stopped.sourcePort (-1) (env.generated 0)
    (env.opens 0)
  rw [restartSender]
  dsimp only
  split_ifs
  · exact ⟨rfl, hcreated⟩
  · exact ⟨rfl, hcreated⟩

theorem vouched_applySenderConnectionPatch (senderId : Text) (patch : ConnectionPatch) :
    Vouched d (d.applySenderConnectionPatch deriveId env senderId patch).1 := by
  rw [applySenderConnectionPatch]
  split
  · exact .refl d
  split_ifs
  · exact .refl d
  · exact vouched_stopSender _ _
  split
  · exact .refl d
  split
  · exact vouched_restartSender _ _ _ _
  split_ifs
  · exact .refl d
  · exact vouched_readdressSender _ _ _

theorem vouched_subscribeSpareReceiver (receiverId : Text) (patch : ConnectionPatch) :
    Vouched d (d.subscribeSpareReceiver deriveId env receiverId patch).1 := by
  rw [subscribeSpareReceiver]
  split_ifs
  · exact .refl d
  · exact .refl d
  split
  · exact .refl d
  dsimp only
  split_ifs
  · exact ⟨rfl, StreamManager.vouched_addStream _ _ _ _ _⟩
  · exact ⟨rfl, StreamManager.vouched_addStream _ _ _ _ _⟩

theorem vouched_disconnectReceiver (receiverId : Text) (target : SDPSession) :
    Vouched d (d.disconnectReceiver receiverId target).1 := by
  rw [disconnectReceiver]
  dsimp only
  split
  · exact ⟨rfl, .refl _⟩
  · exact ⟨rfl, StreamManager.vouched_removeStream _ _⟩

theorem vouched_applyConnectionPatch (receiverId : Text) (patch : ConnectionPatch) :
    Vouched d (d.applyConnectionPatch deriveId env receiverId patch).1 := by
  rw [applyConnectionPatch]
  split
  · split_ifs
    · exact vouched_subscribeSpareReceiver _ _
    · exact .refl d
  split_ifs
  · exact .refl d
  · exact vouched_disconnectReceiver _ _
  split
  · exact .refl d
  · exact ⟨rfl, StreamManager.vouched_updateReceiveStreamsFromAnnouncement _ _ _ _⟩

/-- **Only `SetSampleRate` changes a rate, and nothing gets past the checks.** -/
theorem vouched_step (d : AES67Device) {op : Op} (h : ∀ rate, op ≠ .SetSampleRate rate) :
    Vouched d (d.step deriveId op) := by
  cases op with
  | SetSampleRate rate => exact absurd rfl (h rate)
  | StartIO startCount opens =>
    change Vouched d (d.StartIOImpl startCount opens)
    rw [StartIOImpl]
    split_ifs
    · exact ⟨rfl, StreamManager.vouched_setIOActive _ _ _⟩
    · exact .refl d
  | StopIO startCount =>
    change Vouched d (d.StopIOImpl startCount)
    rw [StopIOImpl]
    split_ifs
    · exact ⟨rfl, StreamManager.vouched_setIOActive _ _ _⟩
    · exact .refl d
  | onStreams op =>
    refine ⟨rfl, StreamManager.vouched_step _ fun rate e => ?_⟩
    have hleaves := op.2
    rw [e] at hleaves
    cases hleaves
  | patchSender env senderId patch => exact vouched_applySenderConnectionPatch _ _
  | patchReceiver env receiverId patch => exact vouched_applyConnectionPatch _ _

end Aes67.AES67Device
