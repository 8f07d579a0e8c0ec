import Aes67.Driver.SwitchedOff
import Aes67.Manager.Callbacks

/-!
# The callbacks a step of the device raises

What happens to the device reaches its manager as a few calls, and these raise the manager's callbacks.

* `calls`, with **`streamManager_step`**: what a step of the device has its manager do;
* `raises`, `raisesAmong`: a step raises a callback, with **`described_steps`**: steps that raise none leave
  the sessions.
-/

namespace Aes67

open Sdp (SDPSession)
open Nmos (ConnectionPatch)

namespace AES67Device

/-! ## What the manager is called for -/

section Calls

variable (deriveId : Text → Text → Text) (d : AES67Device)

/-- The session `subscribeSpareReceiver` adds, nothing where it adds none. -/
def spareSession (patch : ConnectionPatch) : Option SDPSession :=
  if patch.masterEnable = some false then none
  else if !patch.activateImmediate then none
  else (patch.transportFile.bind Sdp.parseString).map fun parsed => { parsed with
    connectionAddress := match patch.multicastAddress with
      | some given => if given = [] then parsed.connectionAddress else given
      | none => parsed.connectionAddress
    port := patch.port.getD parsed.port }

/-- The calls of the manager in `applySenderConnectionPatch`. -/
def senderCalls (env : Env) (senderId : Text) (patch : ConnectionPatch) : List StreamManager.Op :=
  match d.senderAction deriveId senderId patch with
  | .answer _ => []
  | .stop _ running => [.removeStream running.id]
  | .readdress current running mapping address port =>
    [.removeStream running.id, .createTxStream env current.sessionName address port
      current.numChannels mapping ((d.streamManager.getSourcePort running.id).getD 0) (-1)]
  | .restart stopped address port =>
    [.createTxStream env stopped.sdp.sessionName address port stopped.sdp.numChannels stopped.mapping
      stopped.sourcePort (-1)]

/-- The calls of the manager in `applyConnectionPatch`. -/
def receiverCalls (env : Env) (receiverId : Text) (patch : ConnectionPatch) :
    List StreamManager.Op :=
  match d.runningReceiver deriveId receiverId with
  | none =>
    if (List.range kSpareReceiverCount).any fun index =>
        d.nmosIdFor deriveId "receiver" (spareReceiverName index) = receiverId then
      ((spareSession patch).map fun wanted => .addStream env wanted).toList
    else []
  | some target =>
    if !patch.activateImmediate then []
    else if patch.masterEnable = some false then
      ((d.streamManager.activeNamed target.sessionName).map fun running =>
        .removeStream running.id).toList
    else ((wantedSession target patch).map fun wanted =>
      .updateReceiveStreamsFromAnnouncement env wanted .controller).toList

/-- The calls of the manager in a step of the device. -/
def calls : Op → List StreamManager.Op
  | .SetSampleRate sampleRate =>
    if !isSupportedRate sampleRate ∨ d.ioRunning then [] else [.setDeviceSampleRate sampleRate]
  | Op.StartIO startCount opens => if startCount = 0 then [.setIOActive true opens] else []
  | Op.StopIO startCount => if startCount = 0 then [.setIOActive false fun _ => false] else []
  | .onStreams op => [op.1]
  | .patchSender env senderId patch => d.senderCalls deriveId env senderId patch
  | .patchReceiver env receiverId patch => d.receiverCalls deriveId env receiverId patch

/-- A callback of the manager is raised in the step. -/
def raises (op : Op) : Bool := d.streamManager.raisesAmong (d.calls deriveId op)

/-- One is raised in some of the steps. -/
def raisesAmong (d : AES67Device) : List Op → Bool
  | [] => false
  | op :: ops => d.raises deriveId op || raisesAmong (d.step deriveId op) ops

end Calls

variable {deriveId : Text → Text → Text} {d : AES67Device} {env : Env}

theorem streamManager_subscribeSpareReceiver (receiverId : Text) (patch : ConnectionPatch) :
    (d.subscribeSpareReceiver deriveId env receiverId patch).1.streamManager =
      ((spareSession patch).map fun wanted => StreamManager.Op.addStream env wanted).toList.foldl
        StreamManager.step d.streamManager := by
  rw [subscribeSpareReceiver, spareSession]
  split_ifs
  · rfl
  · rfl
  cases patch.transportFile.bind Sdp.parseString with
  | none => rfl
  | some parsed =>
    dsimp only
    split_ifs <;> rfl

theorem streamManager_disconnectReceiver (receiverId : Text) (target : SDPSession) :
    (d.disconnectReceiver receiverId target).1.streamManager =
      ((d.streamManager.activeNamed target.sessionName).map fun running =>
        StreamManager.Op.removeStream running.id).toList.foldl StreamManager.step d.streamManager := by
  rw [disconnectReceiver]
  dsimp only
  cases d.streamManager.activeNamed target.sessionName <;> rfl

theorem streamManager_applyConnectionPatch (receiverId : Text) (patch : ConnectionPatch) :
    (d.applyConnectionPatch deriveId env receiverId patch).1.streamManager =
      (d.receiverCalls deriveId env receiverId patch).foldl StreamManager.step d.streamManager := by
  rw [applyConnectionPatch, receiverCalls]
  cases d.runningReceiver deriveId receiverId with
  | none =>
    dsimp only
    split_ifs
    · exact streamManager_subscribeSpareReceiver receiverId patch
    · rfl
  | some target =>
    dsimp only
    split_ifs
    · rfl
    · exact streamManager_disconnectReceiver receiverId target
    · cases wantedSession target patch <;> rfl

theorem streamManager_applySenderConnectionPatch (senderId : Text) (patch : ConnectionPatch) :
    (d.applySenderConnectionPatch deriveId env senderId patch).1.streamManager =
      (d.senderCalls deriveId env senderId patch).foldl StreamManager.step d.streamManager := by
  rw [applySenderConnectionPatch_eq, senderCalls]
  cases d.senderAction deriveId senderId patch with
  | answer | stop | readdress => rfl
  | restart stopped address port =>
    rw [perform, restartSender]
    dsimp only
    split_ifs <;> rfl

/-- **A step of the device does to the manager what these calls do.** -/
theorem streamManager_step (op : Op) : (d.step deriveId op).streamManager =
    (d.calls deriveId op).foldl StreamManager.step d.streamManager := by
  cases op with
  | SetSampleRate sampleRate =>
    rw [step, SetSampleRate, calls]
    split_ifs <;> simp_all [StreamManager.step]
  | StartIO startCount opens =>
    rw [step, StartIOImpl, calls]
    split_ifs <;> rfl
  | StopIO startCount =>
    rw [step, StopIOImpl, calls]
    split_ifs <;> rfl
  | onStreams op => rfl
  | patchSender env senderId patch => exact streamManager_applySenderConnectionPatch senderId patch
  | patchReceiver env receiverId patch => exact streamManager_applyConnectionPatch receiverId patch

/-- **Steps that raise no callback leave the sessions what they were.** -/
theorem described_steps {ops : List Op} (h : d.raisesAmong deriveId ops = false) :
    (ops.foldl (step deriveId) d).streamManager.described = d.streamManager.described ∧
      (ops.foldl (step deriveId) d).nmosNodeId = d.nmosNodeId := by
  induction ops generalizing d with
  | nil => exact ⟨rfl, rfl⟩
  | cons op ops ih =>
    rw [raisesAmong, Bool.or_eq_false_iff] at h
    obtain ⟨h₁, h₂⟩ := ih h.2
    refine ⟨h₁.trans ?_, h₂.trans (nmosNodeId_step d op)⟩
    rw [streamManager_step]
    exact StreamManager.described_run h.1

end AES67Device

end Aes67
