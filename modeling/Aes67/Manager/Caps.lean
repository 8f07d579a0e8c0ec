import Aes67.Manager.Accounting

/-!
# Limits on the channels in use

The profile and the user each limit the channels of a direction. `canAddStream` asks about them in
the direction it is told.

* `Capped`: neither direction is over a limit;
* `Admitted`: what the two checks ask for; `capped_keep_iff`: a stream that is kept leaves the
  limits kept exactly where it is admitted in its own direction;
* `LoadsWithin`: each transmit stream let in from a file is admitted as one, which nothing asks;
* **`always_capped_iff`**: along a run with fixed limits, they are kept exactly where every file
  does so.
-/

namespace Aes67.StreamManager

open Sdp (SDPSession)

variable {s s' : StreamManager} {env : Env}

/-! ## The limits -/

def usableCount (s : StreamManager) (isTransmit : Bool) : UInt32 :=
  if isTransmit then s.usableTxChannelCount else s.usableRxChannelCount

def maxTotalChannels (s : StreamManager) : UInt32 :=
  (CompatibilityProfile.forKind s.profileKind).maxTotalChannels

/-- No direction is over the user's limit or the profile's; a limit of zero is none. -/
structure Capped (s : StreamManager) : Prop where
  usable : ∀ t, s.usableCount t > 0 → s.channelTotal t ≤ (s.usableCount t).toNat
  profile : ∀ t, s.maxTotalChannels > 0 → s.channelTotal t ≤ s.maxTotalChannels.toNat

/-- What the two checks ask for. -/
structure Admitted (s : StreamManager) (sdp : SDPSession) (isTransmit : Bool) : Prop where
  usable : s.usableCount isTransmit > 0 →
    s.channelsInUse isTransmit + sdp.numChannels.toUInt32 ≤ s.usableCount isTransmit
  profile : s.maxTotalChannels > 0 →
    s.channelsInUse isTransmit + sdp.numChannels.toUInt32 ≤ s.maxTotalChannels

theorem admitted_of_canAddStream {isLocked : Int32 → Bool} {sdp : SDPSession} {t : Bool}
    (h : s.canAddStream isLocked sdp t = .ok ()) : Admitted s sdp t := by
  obtain ⟨-, -, -, -, -, htotal, husable, -⟩ := canAddStream_eq_ok.mp h
  exact ⟨limit_eq_ok.mp husable, limit_eq_ok.mp htotal⟩

theorem SameLimits.usableCount_eq (h : SameLimits s s') (t : Bool) :
    s'.usableCount t = s.usableCount t := by
  rw [usableCount, usableCount, h.usableRxChannelCount, h.usableTxChannelCount]

theorem SameLimits.maxTotalChannels_eq (h : SameLimits s s') :
    s'.maxTotalChannels = s.maxTotalChannels := by
  rw [maxTotalChannels, maxTotalChannels, h.profileKind]

/-- Fewer channels under the same limits. -/
theorem Capped.of_le (h : Capped s) (hl : SameLimits s s')
    (hle : ∀ t, s'.channelTotal t ≤ s.channelTotal t) : Capped s' := by
  refine ⟨fun t hpos => (hle t).trans ?_, fun t hpos => (hle t).trans ?_⟩
  · rw [hl.usableCount_eq] at hpos ⊢
    exact h.usable t hpos
  · rw [hl.maxTotalChannels_eq] at hpos ⊢
    exact h.profile t hpos

/-! ## What each move does to them -/

/-- **A stream that is kept leaves the limits kept exactly where it is admitted in its own
direction.** -/
theorem capped_keep_iff {mapper : Mapper} {managed : ManagedStream} (h : Books s) (hc : Capped s)
    (added : s.mapper.addMapping managed.mapping = (mapper, true))
    (new : s.streams.find? managed.mapping.streamID = none) :
    Capped (s.keep mapper managed) ↔ Admitted s managed.sdp managed.isTransmit := by
  have hl := sameOptions_keep s mapper managed
  have hbooks := books_keep h added new
  have hsum : (s.channelsInUse managed.isTransmit + managed.sdp.numChannels.toUInt32).toNat =
      (s.keep mapper managed).channelTotal managed.isTransmit := by
    rw [← hbooks.totals, channelsInUse_keep, if_pos rfl]
  constructor
  · refine fun hk => ⟨fun hpos => ?_, fun hpos => ?_⟩
    · have := hk.usable managed.isTransmit
      rw [hl.usableCount_eq] at this
      rw [UInt32.le_iff_toNat_le, hsum]
      exact this hpos
    · have := hk.profile managed.isTransmit
      rw [hl.maxTotalChannels_eq] at this
      rw [UInt32.le_iff_toNat_le, hsum]
      exact this hpos
  · have hother : ∀ t, managed.isTransmit ≠ t →
        (s.keep mapper managed).channelTotal t = s.channelTotal t := fun t hne => by
      rw [channelTotal_keep new, channelsOf, if_neg hne, Nat.add_zero]
    refine fun ha => ⟨fun t hpos => ?_, fun t hpos => ?_⟩
    · rw [hl.usableCount_eq] at hpos ⊢
      by_cases ht : managed.isTransmit = t
      · subst ht
        rw [← hsum]
        exact UInt32.le_iff_toNat_le.mp (ha.usable hpos)
      · rw [hother t ht]
        exact hc.usable t hpos
    · rw [hl.maxTotalChannels_eq] at hpos ⊢
      by_cases ht : managed.isTransmit = t
      · subst ht
        rw [← hsum]
        exact UInt32.le_iff_toNat_le.mp (ha.profile hpos)
      · rw [hother t ht]
        exact hc.profile t hpos

theorem channelTotal_removed_le (s : StreamManager) (id : StreamID) (t : Bool) :
    (s.removeStream id).1.channelTotal t ≤ s.channelTotal t := by
  cases hf : s.streams.find? id with
  | none => rw [removeStream_of_none hf]
  | some managed => exact (Nat.le_add_right _ _).trans (channelTotal_removed hf t).le

/-- **Every move keeps the limits**, where what is kept is admitted in its own direction. -/
theorem capped_move (h : Books s) (hc : Capped s) (hm : Move Admitted s s') : Capped s' := by
  have hsame := hm.sameOptions.toSameLimits
  cases hm with
  | tried added new => exact hc.of_le hsame fun _ => le_rfl
  | kept added new _ admitted => exact (capped_keep_iff h hc added new).mpr admitted
  | removed id => exact hc.of_le hsame (channelTotal_removed_le s id)
  | cleared => exact hc.of_le hsame fun _ => Nat.zero_le _
  | remapped id newMapping opens =>
    exact hc.of_le hsame fun t => (s.totals_remapped id newMapping opens t).1.le
  | switched active opens => exact hc.of_le hsame fun t => (s.channelTotal_switched active opens t).le
  | retuned sampleRate =>
    refine hc.of_le hsame fun t => ?_
    rw [setDeviceSampleRate]
    split_ifs <;> exact le_rfl

/-! ## A saved file -/

/-- A transmit stream that the file's turn lets in is admitted as one. -/
def LoadWithin (env : Env) (s : StreamManager) (c : PersistedStreamConfig × ℕ) : Prop :=
  LetIn env s c → c.1.isTransmit = true → Admitted s c.1.sdp true

theorem LoadWithin.restorable {c : PersistedStreamConfig × ℕ} (h : LoadWithin env s c) :
    Restorable Admitted env s c := by
  intro hin
  cases ht : c.1.isTransmit with
  | false => exact admitted_of_canAddStream hin.checked
  | true => exact h hin ht

/-- One stream of the file: it only adds to the totals, and the limits are kept exactly where it is
within them. -/
theorem restoreStep_spec (env : Env) (h : Books s) (c : PersistedStreamConfig × ℕ) :
    Books (restoreStep env s c) ∧ SameLimits s (restoreStep env s c) ∧
      (∀ t, s.channelTotal t ≤ (restoreStep env s c).channelTotal t) ∧
      (Capped s → (Capped (restoreStep env s c) ↔ LoadWithin env s c)) := by
  rw [restoreStep]
  rcases s.loadStream_eq env c with ⟨hout, e | ⟨mapper, hadd, hnew, e⟩⟩ |
    ⟨hin, mapper, rtp, hadd, -, e⟩
  · rw [e]
    exact ⟨h, ⟨rfl, rfl, rfl⟩, fun _ => le_rfl,
      fun hc => iff_of_true hc fun hin => absurd hin hout⟩
  · rw [e]
    exact ⟨books_tried h hadd hnew, ⟨rfl, rfl, rfl⟩, fun _ => le_rfl,
      fun hc => iff_of_true (hc.of_le ⟨rfl, rfl, rfl⟩ fun _ => le_rfl) fun hin => absurd hin hout⟩
  · rw [e]
    refine ⟨books_keep h hadd hin.new, (sameOptions_keep _ _ _).toSameLimits, fun t => ?_,
      fun hc => ?_⟩
    · rw [channelTotal_keep hin.new]
      exact Nat.le_add_right _ _
    · refine (capped_keep_iff h hc hadd hin.new).trans ⟨fun ha _ ht => ht ▸ ha, fun hw => ?_⟩
      exact hw.restorable hin

/-- What comes back from a whole file only adds to the totals. -/
theorem restored_spec (env : Env) (h : Books s) (configs : List (PersistedStreamConfig × ℕ)) :
    SameLimits s (configs.foldl (restoreStep env) s) ∧
      ∀ t, s.channelTotal t ≤ (configs.foldl (restoreStep env) s).channelTotal t := by
  induction configs generalizing s with
  | nil => exact ⟨⟨rfl, rfl, rfl⟩, fun _ => le_rfl⟩
  | cons c configs ih =>
    obtain ⟨hb, hl, hle, -⟩ := restoreStep_spec env h c
    obtain ⟨hl', hle'⟩ := ih hb
    exact ⟨hl.trans hl', fun t => (hle t).trans (hle' t)⟩

/-- **A file keeps the limits exactly where each of its streams is within them when its turn
comes.** -/
theorem capped_restored_iff (h : Books s) (hc : Capped s)
    (configs : List (PersistedStreamConfig × ℕ)) :
    Capped (configs.foldl (restoreStep env) s) ↔
      Along (restoreStep env) (LoadWithin env) s configs := by
  induction configs generalizing s with
  | nil => exact iff_of_true hc trivial
  | cons c configs ih =>
    obtain ⟨hb, hl, -, hone⟩ := restoreStep_spec env h c
    constructor
    · intro hall
      obtain ⟨hl', hle'⟩ := restored_spec env hb configs
      have hmid : Capped (restoreStep env s c) :=
        hall.of_le hl'.symm hle'
      exact ⟨(hone hc).mp hmid, (ih hb hmid).mp hall⟩
    · intro hall
      have hmid := (hone hc).mpr hall.1
      exact (ih hb hmid).mpr hall.2

/-! ## Whole runs -/

/-- The calls that leave the limits alone. -/
def Op.KeepsLimits : Op → Prop
  | .setCompatibilityProfile _ | .setUsableChannelCount _ | .setUsableTxChannelCount _ => False
  | _ => True

/-- Each transmit stream let in from a file is admitted as one, when its turn comes. -/
def LoadsWithin (s : StreamManager) : Op → Prop
  | .loadSavedStreams env (some configs) =>
    Along (restoreStep env) (LoadWithin env) s configs.zipIdx
  | _ => True

theorem capped_step (h : Books s) (hc : Capped s) {op : Op} (fresh : Fresh s op)
    (fixed : op.KeepsLimits) (within : LoadsWithin s op) : Capped (s.step op) := by
  refine (kept_step (A := Admitted) (P := fun s => Books s ∧ Capped s)
    (fun _ _ hm h => ⟨books_move h.1 hm, capped_move h.1 h.2 hm⟩)
    (fun _ _ _ _ hcan => admitted_of_canAddStream hcan) ⟨h, hc⟩ fresh ?_ ?_).2
  · rintro env configs rfl
    exact Along.imp (fun _ _ _ => LoadWithin.restorable) within
  · refine fun setting => ⟨books_setting h setting, ?_⟩
    cases op with
    | setTxFlowPortOffset _ | setAutoSinkFollow _ | setPTPEnabled _ | setRequirePTPLock _
    | setIgnoreRefClockMismatch _ => exact hc.of_le ⟨rfl, rfl, rfl⟩ fun _ => le_rfl
    | setCompatibilityProfile _ | setUsableChannelCount _ | setUsableTxChannelCount _ => cases fixed
    | _ => cases setting

/-- Where one call keeps the limits, its file was within them. -/
theorem loadsWithin_of_capped (h : Books s) (hc : Capped s) {op : Op} (h' : Capped (s.step op)) :
    LoadsWithin s op := by
  cases op with
  | loadSavedStreams env configs =>
    cases configs with
    | none => trivial
    | some configs => exact (capped_restored_iff h hc configs.zipIdx).mp h'
  | _ => trivial

theorem capped_run_iff {ops : List Op} (h : Books s) (hc : Capped s) (fresh : Along step Fresh s ops)
    (fixed : ∀ op ∈ ops, op.KeepsLimits) :
    Always step Capped s ops ↔ Along step LoadsWithin s ops := by
  induction ops generalizing s with
  | nil => exact iff_of_true hc trivial
  | cons op ops ih =>
    have hrest := fun hc' => ih (books_step h fresh.1) hc' fresh.2
      fun op' hmem => fixed op' (List.mem_cons_of_mem _ hmem)
    constructor
    · intro hall
      exact ⟨loadsWithin_of_capped h hc hall.2.head, (hrest hall.2.head).mp hall.2⟩
    · intro hall
      have hc' := capped_step h hc fresh.1 (fixed op List.mem_cons_self) hall.1
      exact ⟨hc, (hrest hc').mpr hall.2⟩

/-- A manager with its limits set and no stream yet. -/
def limited (kind : CompatibilityProfileKind) (usableRx usableTx : ℕ) : StreamManager :=
  [.setCompatibilityProfile kind, .setUsableChannelCount usableRx,
    .setUsableTxChannelCount usableTx].foldl step {}

/-- **Along a run with fixed limits, they are kept exactly where each transmit stream let in from a
file is admitted as one.** -/
theorem always_capped_iff (kind : CompatibilityProfileKind) (usableRx usableTx : ℕ) (ops : List Op)
    (fresh : Along step Fresh (limited kind usableRx usableTx) ops)
    (fixed : ∀ op ∈ ops, op.KeepsLimits) :
    Always step Capped (limited kind usableRx usableTx) ops ↔
      Along step LoadsWithin (limited kind usableRx usableTx) ops := by
  have hbooks : Always step Books {} [.setCompatibilityProfile kind,
      .setUsableChannelCount usableRx, .setUsableTxChannelCount usableTx] :=
    always_books ⟨trivial, trivial, trivial, trivial⟩
  exact capped_run_iff hbooks.run ⟨fun _ _ => Nat.zero_le _, fun _ _ => Nat.zero_le _⟩ fresh fixed

/-- A stereo stream saved as one that was sent, from a device channel on. -/
def savedSender (id : StreamID) (address : String) (start : ℕ) : PersistedStreamConfig where
  sdp := stereo "sender" address
  mapping :=
    { streamID := id, streamChannelCount := 2, deviceChannelStart := start, deviceChannelCount := 2 }
  isTransmit := true

/-- One sender taken back from its file. -/
def oneSender : List Op :=
  [.loadSavedStreams (numbered 1) (some [savedSender ⟨5, by decide⟩ "239.1.1.5" 0])]

/-- It fits the two channels that are usable. -/
theorem oneSender_capped : Always step Capped (limited .aes67 128 2) oneSender := by
  refine (always_capped_iff .aes67 128 2 oneSender ⟨trivial, trivial⟩
    (by simp [oneSender, Op.KeepsLimits])).mpr ⟨⟨fun _ _ => ⟨?_, ?_⟩, trivial⟩, trivial⟩
  · decide
  · decide

/-- Two senders taken back. -/
def twoSenders : List Op :=
  [.loadSavedStreams (numbered 1) (some [savedSender ⟨5, by decide⟩ "239.1.1.5" 0,
    savedSender ⟨6, by decide⟩ "239.1.1.6" 2])]

/-- **Four channels to send where two are usable**: each sender is checked against the channels
received, of which there are none. -/
theorem twoSenders_not_capped : ¬ Always step Capped (limited .aes67 128 2) twoSenders := by
  intro h
  have hover : ¬ (twoSenders.foldl step (limited .aes67 128 2)).channelTotal true ≤
      ((twoSenders.foldl step (limited .aes67 128 2)).usableCount true).toNat := by
    decide +kernel
  exact hover (h.run.usable true (by decide +kernel))

end Aes67.StreamManager
