import Aes67.Manager.Accounting

/-!
# One grandmaster at a time

The manager keeps the grandmaster of its streams beside them: the first stream to declare one sets
it, and taking a stream out derives it again from those left.

* `Declared`: the grandmasters that the streams declare;
* `OneClock`: they are one up to spelling, and the one kept is among them in this sense;
* `oneClock_recompute`: deriving it again keeps this, `oneClock_keep`: so does letting in a stream
  that the reference clock check lets pass;
* **`always_oneClock`**: there is one grandmaster throughout every run with the check switched on.
-/

namespace Aes67.StreamManager

open Sdp (SDPSession)

variable {s s' : StreamManager}

/-- The grandmasters the streams declare. -/
def Declared (s : StreamManager) : Set Text :=
  {g | g ≠ [] ∧ ∃ id managed, s.streams.find? id = some managed ∧ managed.sdp.ptpMasterMAC = g}

/-- All streams that declare a grandmaster declare one up to spelling, and it is the one kept; none
is kept where none is declared. -/
structure OneClock (s : StreamManager) : Prop where
  agree : ∀ g ∈ s.Declared, ∀ g' ∈ s.Declared, normalizeGrandmaster g = normalizeGrandmaster g'
  empty_iff : s.activeGrandmaster = [] ↔ s.Declared = ∅
  common : ∀ g ∈ s.Declared, normalizeGrandmaster g = normalizeGrandmaster s.activeGrandmaster

/-- The reference clock check lets the session pass. -/
def SameClock (s : StreamManager) (sdp : SDPSession) (_isTransmit : Bool) : Prop :=
  s.ignoreRefClockMismatch = false → sdp.ptpMasterMAC ≠ [] → s.activeGrandmaster ≠ [] →
    normalizeGrandmaster sdp.ptpMasterMAC = normalizeGrandmaster s.activeGrandmaster

theorem sameClock_of_canAddStream {isLocked : Int32 → Bool} {sdp : SDPSession} {t t' : Bool}
    (h : s.canAddStream isLocked sdp t = .ok ()) : SameClock s sdp t' := by
  obtain ⟨-, -, -, -, -, -, -, -, hclock⟩ := canAddStream_eq_ok.mp h
  intro hcheck hdeclared hactive
  rw [validateGrandmaster] at hclock
  split_ifs at hclock with hmismatch
  by_contra hne
  exact hmismatch ⟨by rw [hcheck]; rfl, hdeclared, hactive, fun he => hne he.symm⟩

/-! ## The grandmaster kept -/

/-- What is declared depends on the sessions alone. -/
theorem declared_congr (h : ∀ id, (s'.streams.find? id).map ManagedStream.sdp =
    (s.streams.find? id).map ManagedStream.sdp) : s'.Declared = s.Declared := by
  ext g
  have hside : ∀ s : StreamManager, g ∈ s.Declared ↔ g ≠ [] ∧ ∃ id, ∃ sdp : SDPSession,
      (s.streams.find? id).map ManagedStream.sdp = some sdp ∧ sdp.ptpMasterMAC = g := by
    intro s
    refine and_congr_right fun _ => exists_congr fun id => ⟨?_, ?_⟩
    · rintro ⟨managed, hf, hg⟩
      exact ⟨managed.sdp, by rw [hf]; rfl, hg⟩
    · rintro ⟨sdp, hf, hg⟩
      obtain ⟨managed, hfound, rfl⟩ := Option.map_eq_some_iff.mp hf
      exact ⟨managed, hfound, hg⟩
  rw [hside s, hside s']
  simp only [h]

theorem OneClock.congr (h : OneClock s) (hd : s'.Declared = s.Declared)
    (ha : s'.activeGrandmaster = s.activeGrandmaster) : OneClock s' := by
  refine ⟨?_, ?_, ?_⟩
  · rw [hd]
    exact h.agree
  · rw [hd, ha]
    exact h.empty_iff
  · rw [hd, ha]
    exact h.common

/-- Where one grandmaster is declared up to spelling, the first declared is it. -/
theorem oneClock_recompute
    (h : ∀ g ∈ s.Declared, ∀ g' ∈ s.Declared, normalizeGrandmaster g = normalizeGrandmaster g') :
    OneClock s.recomputeActiveGrandmaster := by
  have hmem : ∀ g, g ∈ s.streams.values.map (fun managed => managed.sdp.ptpMasterMAC) ↔
      ∃ id managed, s.streams.find? id = some managed ∧ managed.sdp.ptpMasterMAC = g := by
    intro g
    simp only [OrdMap.values, List.map_map, List.mem_map, Prod.exists, OrdMap.mem_entries_iff,
      Function.comp_apply]
  cases hfirst : (s.streams.values.map fun managed => managed.sdp.ptpMasterMAC).find? (· ≠ []) with
  | none =>
    have hnone : s.Declared = ∅ := Set.eq_empty_of_forall_notMem fun g hg => by
      have := List.find?_eq_none.mp hfirst g ((hmem g).mpr hg.2)
      exact this (decide_eq_true hg.1)
    have hactive : s.recomputeActiveGrandmaster.activeGrandmaster = [] := by
      rw [recomputeActiveGrandmaster, hfirst]
      rfl
    have hdeclared : s.recomputeActiveGrandmaster.Declared = ∅ := hnone
    exact ⟨fun g hg => by rw [hdeclared] at hg; exact hg.elim, iff_of_true hactive hdeclared,
      fun g hg => by rw [hdeclared] at hg; exact hg.elim⟩
  | some first =>
    have hne := List.find?_some hfirst
    have hfound : first ∈ s.Declared :=
      ⟨by simpa using hne, (hmem first).mp (List.mem_of_find?_eq_some hfirst)⟩
    have hactive : s.recomputeActiveGrandmaster.activeGrandmaster = first := by
      rw [recomputeActiveGrandmaster, hfirst]
      rfl
    refine ⟨h, iff_of_false ?_ (Set.nonempty_iff_ne_empty.mp ⟨first, hfound⟩), fun g hg => ?_⟩
    · rw [hactive]
      exact hfound.1
    · rw [hactive]
      exact h g hg first hfound

/-- What is declared with one stream more. -/
theorem mem_declared_keep (mapper : Mapper) {managed : ManagedStream}
    (new : s.streams.find? managed.mapping.streamID = none) {g : Text} :
    g ∈ (s.keep mapper managed).Declared ↔
      (g ≠ [] ∧ managed.sdp.ptpMasterMAC = g) ∨ g ∈ s.Declared := by
  constructor
  · rintro ⟨hg, id, managed', hf, he⟩
    rw [keep_streams, OrdMap.find?_insert] at hf
    split_ifs at hf
    · cases hf
      exact Or.inl ⟨hg, he⟩
    · exact Or.inr ⟨hg, id, managed', hf, he⟩
  · rintro (⟨hg, he⟩ | ⟨hg, id, managed', hf, he⟩)
    · refine ⟨hg, managed.mapping.streamID, managed, ?_, he⟩
      rw [keep_streams]
      exact OrdMap.find?_insert_self _ _ _
    · refine ⟨hg, id, managed', ?_, he⟩
      rw [keep_streams, OrdMap.find?_insert, if_neg ?_]
      · exact hf
      · rintro rfl
        rw [new] at hf
        cases hf

/-- **A stream that the reference clock check lets pass declares the one grandmaster.** -/
theorem oneClock_keep {mapper : Mapper} {managed : ManagedStream} (h : OneClock s)
    (hcheck : s.ignoreRefClockMismatch = false)
    (new : s.streams.find? managed.mapping.streamID = none)
    (admitted : SameClock s managed.sdp managed.isTransmit) : OneClock (s.keep mapper managed) := by
  have hcommon : ∀ g ∈ (s.keep mapper managed).Declared, normalizeGrandmaster g =
      normalizeGrandmaster (s.keep mapper managed).activeGrandmaster := by
    intro g hg
    rw [keep_activeGrandmaster]
    rcases (mem_declared_keep mapper new).mp hg with ⟨hne, rfl⟩ | hold
    · split_ifs with hadopt
      · rfl
      · exact admitted hcheck hne fun hactive => hadopt ⟨hne, hactive⟩
    · have hactive : s.activeGrandmaster ≠ [] := fun he => by
        rw [h.empty_iff.mp he] at hold
        exact hold
      rw [if_neg fun hadopt => hactive hadopt.2]
      exact h.common g hold
  refine ⟨fun g hg g' hg' => (hcommon g hg).trans (hcommon g' hg').symm, ?_, hcommon⟩
  rw [keep_activeGrandmaster]
  split_ifs with hadopt
  · refine iff_of_false hadopt.1 (Set.nonempty_iff_ne_empty.mp ⟨managed.sdp.ptpMasterMAC, ?_⟩)
    exact (mem_declared_keep mapper new).mpr (Or.inl ⟨hadopt.1, rfl⟩)
  constructor
  · intro hactive
    refine Set.eq_empty_of_forall_notMem fun g hg => ?_
    rcases (mem_declared_keep mapper new).mp hg with ⟨hne, rfl⟩ | hold
    · exact hadopt ⟨hne, hactive⟩
    · rw [h.empty_iff.mp hactive] at hold
      exact hold
  · intro hempty
    refine h.empty_iff.mpr (Set.eq_empty_of_forall_notMem fun g hg => ?_)
    have hmem := (mem_declared_keep mapper new).mpr (Or.inr hg)
    rw [hempty] at hmem
    exact hmem

/-! ## What each move does to it -/

theorem oneClock_removed (h : OneClock s) (id : StreamID) : OneClock (s.removeStream id).1 := by
  cases hf : s.streams.find? id with
  | none =>
    rw [removeStream_of_none hf]
    exact h
  | some managed =>
    have hsub : ∀ g ∈ (s.removeStream id).1.Declared, g ∈ s.Declared := by
      rintro g ⟨hne, id', managed', hfound, he⟩
      rw [removeStream_streams, OrdMap.find?_erase] at hfound
      split_ifs at hfound
      exact ⟨hne, id', managed', hfound, he⟩
    have hagree : ∀ g ∈ (s.removeStream id).1.Declared, ∀ g' ∈ (s.removeStream id).1.Declared,
        normalizeGrandmaster g = normalizeGrandmaster g' :=
      fun g hg g' hg' => h.agree g (hsub g hg) g' (hsub g' hg')
    rw [removeStream_of_find? hf] at hagree ⊢
    exact oneClock_recompute hagree

theorem oneClock_remapped (h : OneClock s) (id : StreamID) (newMapping : ChannelMapping)
    (opens : Bool) : OneClock (s.updateMapping id newMapping opens).1 := by
  rcases s.updateMapping_eq id newMapping opens with
    e | ⟨managed, managed', mapper, hf, hsdp, -, e⟩
  · rw [e]
    exact h
  · rw [e]
    refine h.congr (declared_congr fun id' => ?_) rfl
    dsimp only
    rw [OrdMap.find?_insert]
    split_ifs with hid
    · rw [hid, hf, Option.map_some, Option.map_some, hsdp]
    · rfl

theorem oneClock_switched (h : OneClock s) (active : Bool) (opens : StreamID → Bool) :
    OneClock (s.setIOActive active opens) := by
  rw [setIOActive]
  by_cases hio : s.ioActive = active
  · rw [if_pos hio]
    exact h
  · rw [if_neg hio]
    refine h.congr (declared_congr fun id => ?_) rfl
    dsimp only
    rw [OrdMap.find?_mapWithKey, Option.map_map]
    rfl

/-- The check is switched on, and there is one grandmaster. -/
structure Clocked (s : StreamManager) : Prop extends OneClock s where
  check : s.ignoreRefClockMismatch = false

/-- **Every move keeps one grandmaster**, where what is kept declares it. -/
theorem clocked_move (h : Clocked s) (hm : Move SameClock s s') : Clocked s' := by
  refine ⟨?_, hm.sameOptions.ignoreRefClockMismatch.trans h.check⟩
  cases hm with
  | tried added new => exact h.toOneClock.congr rfl rfl
  | kept added new _ admitted => exact oneClock_keep h.toOneClock h.check new admitted
  | removed id => exact oneClock_removed h.toOneClock id
  | cleared =>
    refine oneClock_recompute fun g hg => ?_
    obtain ⟨-, id, managed, hf, -⟩ := hg
    cases hf
  | remapped id newMapping opens => exact oneClock_remapped h.toOneClock id newMapping opens
  | switched active opens => exact oneClock_switched h.toOneClock active opens
  | retuned sampleRate =>
    rw [setDeviceSampleRate]
    split_ifs
    · exact h.toOneClock
    · exact h.toOneClock.congr rfl rfl
    · exact h.toOneClock

/-! ## Whole runs -/

/-- The calls that leave the check switched on. -/
def Op.KeepsCheck : Op → Prop
  | .setIgnoreRefClockMismatch ignore => ignore = false
  | _ => True

theorem clocked_step (h : Clocked s) {op : Op} (fresh : Fresh s op) (check : op.KeepsCheck) :
    Clocked (s.step op) := by
  refine kept_step (A := SameClock) (fun _ _ hm h => clocked_move h hm)
    (fun _ _ _ _ hcan => sameClock_of_canAddStream hcan) h fresh ?_ ?_
  · exact fun _ _ _ => along_of_forall fun _ _ hin => sameClock_of_canAddStream hin.checked
  · intro setting
    cases op with
    | setIgnoreRefClockMismatch ignore => exact ⟨h.toOneClock.congr rfl rfl, check⟩
    | setCompatibilityProfile _ | setUsableChannelCount _ | setUsableTxChannelCount _
    | setTxFlowPortOffset _ | setAutoSinkFollow _ | setPTPEnabled _ | setRequirePTPLock _ =>
      exact ⟨h.toOneClock.congr rfl rfl, h.check⟩
    | _ => cases setting

theorem clocked_init : Clocked {} := by
  have hempty : Declared {} = ∅ := Set.eq_empty_of_forall_notMem fun g hg => by
    obtain ⟨-, id, managed, hf, -⟩ := hg
    cases hf
  exact ⟨⟨fun g hg => by rw [hempty] at hg; exact hg.elim, iff_of_true rfl hempty,
    fun g hg => by rw [hempty] at hg; exact hg.elim⟩, rfl⟩

/-- **There is one grandmaster throughout every run with the reference clock check switched on.** -/
theorem always_oneClock (ops : List Op) (fresh : Along step Fresh {} ops)
    (check : ∀ op ∈ ops, op.KeepsCheck) : Always step OneClock {} ops := by
  have hboth : Along step (fun s op => Fresh s op ∧ op.KeepsCheck) {} ops :=
    Along.imp (fun s op hmem hfresh => ⟨hfresh, check op hmem⟩) fresh
  have hclocked : Always step Clocked {} ops :=
    always_of_along (fun _ _ h hc => clocked_step h hc.1 hc.2) clocked_init hboth
  exact hclocked.imp fun _ h => h.toOneClock

/-- A stream that declares a grandmaster. -/
def clockedBy (name address grandmaster : String) : SDPSession :=
  { stereo name address with ptpMasterMAC := grandmaster.toList }

/-- Two spellings of one clock, the stream the manager took it from removed, and a stream of another
clock refused. -/
theorem twoSpellings_oneClock : Always step OneClock {}
    [.addStream (numbered 1) (clockedBy "a" "239.1.1.1" "00-1d-c1"),
     .addStream (numbered 2) (clockedBy "b" "239.1.1.2" "00:1D:C1"),
     .removeStream ⟨1, by decide⟩,
     .addStream (numbered 3) (clockedBy "c" "239.1.1.3" "00-1d-c2")] :=
  always_oneClock _ ⟨trivial, trivial, trivial, trivial, trivial⟩ (by simp [Op.KeepsCheck])

end Aes67.StreamManager
