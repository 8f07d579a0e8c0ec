import Aes67.Driver.Sessions

/-!
# One sample rate

The device and the manager each keep the sample rate. `SetSampleRate` asks of a rate that the device
knows it and that no IO runs, and stores it; then it hands the rate to the manager, which has
questions of its own, and does not look at the answer.

* `SameRate`: the device's rate stays and its manager keeps its streams in tune; all but
  `SetSampleRate` is of this kind, `sameRate_step`;
* `Agrees`: the two rates are one, and every stream runs at it; `Op.LeavesRates`: a rate that the
  streams refuse changes neither;
* `Op.Granted`: a rate that the device takes is one that the manager takes;
* **`agrees_iff_granted`**: from `Initialize` on, the rates agree throughout a run exactly where every
  rate the device takes is granted.
-/

namespace Aes67.AES67Device

open Sdp (SDPSession)
open Nmos (ConnectionPatch)
open StreamManager (Tuned InTune)

variable {deriveId : Text → Text → Text} {d d' : AES67Device} {env : Env}

/-! ## Everything but a change of the rate -/

/-- The device's rate stays, and what becomes of its streams keeps them in tune. -/
structure SameRate (d d' : AES67Device) : Prop where
  device : d'.currentSampleRate = d.currentSampleRate
  manager : Tuned d.streamManager d'.streamManager

/-- **Only `SetSampleRate` changes a rate.** -/
theorem sameRate_step (d : AES67Device) {op : Op} (h : ∀ rate, op ≠ .SetSampleRate rate) :
    SameRate d (d.step deriveId op) :=
  have hvouched := vouched_step d h
  ⟨hvouched.device, hvouched.manager.tuned⟩

/-! ## The two rates -/

/-- The device and the manager keep one rate, and every stream runs at it but for a tenth of a
hertz. -/
structure Agrees (d : AES67Device) : Prop where
  rates : d.currentSampleRate = d.streamManager.currentDeviceSampleRate
  streams : ∀ id managed, d.streamManager.streams.find? id = some managed →
    ratesAgree managed.sdp.sampleRate d.currentSampleRate = true

/-- A rate that the manager's streams refuse leaves both rates as they were. -/
def Op.LeavesRates (deriveId : Text → Text → Text) (d : AES67Device) : Op → Prop
  | .SetSampleRate rate =>
    (∃ id managed, d.streamManager.streams.find? id = some managed ∧
      ratesAgree managed.sdp.sampleRate rate = false) →
    (d.step deriveId (.SetSampleRate rate)).currentSampleRate = d.currentSampleRate ∧
      (d.step deriveId (.SetSampleRate rate)).streamManager.currentDeviceSampleRate =
        d.streamManager.currentDeviceSampleRate
  | _ => True

/-- A rate that the device takes is one that the manager takes: neither outside its range nor away
from the rate of a stream. -/
def Op.Granted (d : AES67Device) : Op → Prop
  | .SetSampleRate rate =>
    isSupportedRate rate = true → d.ioRunning = false →
      rateOutOfRange rate = false ∧
      ∀ id managed, d.streamManager.streams.find? id = some managed →
        ratesAgree managed.sdp.sampleRate rate = true
  | _ => True

/-- The manager's rate is a number, in its range. -/
structure InRange (d : AES67Device) : Prop where
  ne_nan : d.streamManager.currentDeviceSampleRate ≠ .nan
  inRange : rateOutOfRange d.streamManager.currentDeviceSampleRate = false

theorem SameRate.agrees (h : SameRate d d') (ha : Agrees d) (hr : InRange d) : Agrees d' := by
  have htuned : InTune d.streamManager :=
    ⟨hr.ne_nan, fun id managed hf => ha.rates ▸ ha.streams id managed hf⟩
  have hrates : d'.currentSampleRate = d'.streamManager.currentDeviceSampleRate := by
    rw [h.device, h.manager.rate]
    exact ha.rates
  exact ⟨hrates, fun id managed hf => hrates ▸ (h.manager.inTune htuned).agree id managed hf⟩

theorem SameRate.inRange (h : SameRate d d') (hr : InRange d) : InRange d' :=
  ⟨h.manager.rate ▸ hr.ne_nan, h.manager.rate ▸ hr.inRange⟩

/-- What a change of the rate does, the device's own questions answered first. -/
theorem setSampleRate_cases (d : AES67Device) (rate : Double) :
    ((isSupportedRate rate = false ∨ d.ioRunning = true) ∧ (d.SetSampleRate rate).1 = d) ∨
    (isSupportedRate rate = true ∧ d.ioRunning = false ∧ (d.SetSampleRate rate).1 =
      { d with
        currentSampleRate := rate
        streamManager := (d.streamManager.setDeviceSampleRate rate).1 }) := by
  rw [SetSampleRate]
  split_ifs with hsupported hrunning
  · exact Or.inl ⟨Or.inl (by simpa using hsupported), rfl⟩
  · exact Or.inl ⟨Or.inr hrunning, rfl⟩
  · exact Or.inr ⟨by simpa using hsupported, by simpa using hrunning, rfl⟩

theorem inRange_step (h : InRange d) (op : Op) : InRange (d.step deriveId op) := by
  by_cases hop : ∀ rate, op ≠ .SetSampleRate rate
  · exact (sameRate_step d hop).inRange h
  · obtain ⟨rate, rfl⟩ : ∃ rate, op = .SetSampleRate rate := by simpa using hop
    change InRange (d.SetSampleRate rate).1
    rcases d.setSampleRate_cases rate with ⟨-, e⟩ | ⟨hsupported, -, e⟩
    · rw [e]
      exact h
    · rw [e]
      rcases d.streamManager.setDeviceSampleRate_cases rate with ⟨e, hrange, -⟩ | ⟨e, -⟩
      · rw [e]
        refine ⟨fun hnan => ?_, hrange⟩
        rw [show rate = .nan from hnan] at hsupported
        cases hsupported
      · rw [e]
        exact ⟨h.ne_nan, h.inRange⟩

/-- **One step**: the rates still agree exactly where the step is granted. -/
theorem agrees_step_iff (ha : Agrees d) (hr : InRange d) (op : Op) :
    Agrees (d.step deriveId op) ↔ op.Granted d := by
  by_cases hop : ∀ rate, op ≠ .SetSampleRate rate
  · refine iff_of_true ((sameRate_step d hop).agrees ha hr) ?_
    cases op with
    | SetSampleRate rate => exact absurd rfl (hop rate)
    | _ => trivial
  obtain ⟨rate, rfl⟩ : ∃ rate, op = .SetSampleRate rate := by simpa using hop
  change Agrees (d.SetSampleRate rate).1 ↔ _
  rcases d.setSampleRate_cases rate with ⟨hown, e⟩ | ⟨hsupported, hrunning, e⟩
  · rw [e]
    refine iff_of_true ha fun hs hn => ?_
    rcases hown with hown | hown
    · rw [hs] at hown
      cases hown
    · rw [hn] at hown
      cases hown
  rw [e]
  rcases d.streamManager.setDeviceSampleRate_cases rate with
    ⟨e, hrange, hstreams⟩ | ⟨e, hrefused⟩
  · rw [e]
    exact iff_of_true ⟨rfl, hstreams⟩ fun _ _ => ⟨hrange, hstreams⟩
  -- The manager has its old rate and the device the new one: they agree only on a rate that the
  -- manager would not have refused.
  · rw [e]
    refine iff_of_false (fun h => ?_) fun h => ?_
    · have hrate : rate = d.streamManager.currentDeviceSampleRate := h.rates
      rcases hrefused with hrange | ⟨id, managed, hf, hdiffer⟩
      · rw [hrate, hr.inRange] at hrange
        cases hrange
      · rw [hrate, ← ha.rates, ha.streams id managed hf] at hdiffer
        cases hdiffer
    · obtain ⟨hrange, hstreams⟩ := h hsupported hrunning
      rcases hrefused with hout | ⟨id, managed, hf, hdiffer⟩
      · rw [hrange] at hout
        cases hout
      · rw [hstreams id managed hf] at hdiffer
        cases hdiffer

theorem leavesRates_of_granted (op : Op) (h : op.Granted d) : op.LeavesRates deriveId d := by
  cases op with
  | SetSampleRate rate =>
    rintro ⟨id, managed, hf, hdiffer⟩
    change (d.SetSampleRate rate).1.currentSampleRate = _ ∧
      (d.SetSampleRate rate).1.streamManager.currentDeviceSampleRate = _
    rcases d.setSampleRate_cases rate with ⟨-, e⟩ | ⟨hsupported, hrunning, -⟩
    · rw [e]
      exact ⟨rfl, rfl⟩
    · have hagree := (h hsupported hrunning).2 id managed hf
      rw [hdiffer] at hagree
      cases hagree
  | _ => trivial

/-! ## Runs -/

/-- What `Initialize` does leaves the manager in tune at 48 kHz. -/
theorem initialised_inTune (settings : Settings) (env : ℕ → Env) :
    InTune (Initialize settings env).streamManager ∧
      (Initialize settings env).streamManager.currentDeviceSampleRate = .fin 48000 := by
  have hops : ∀ op ∈ initialOps settings env, ∀ rate, op = .setDeviceSampleRate rate →
      rate = .fin 48000 := by
    rw [initialOps, settingOps]
    rintro op hmem rate rfl
    split_ifs at hmem <;> simpa using hmem
  have hrun : ∀ (ops : List StreamManager.Op) (s : StreamManager),
      (∀ op ∈ ops, ∀ rate, op = .setDeviceSampleRate rate → rate = .fin 48000) →
      InTune s ∧ s.currentDeviceSampleRate = .fin 48000 →
      InTune (ops.foldl StreamManager.step s) ∧
        (ops.foldl StreamManager.step s).currentDeviceSampleRate = .fin 48000 := by
    intro ops
    induction ops with
    | nil => exact fun s _ h => h
    | cons op ops ih =>
      intro s hrate h
      refine ih _ (fun op hmem => hrate op (List.mem_cons_of_mem _ hmem)) ?_
      by_cases hop : ∀ rate, op ≠ .setDeviceSampleRate rate
      · have htuned := StreamManager.tuned_step s hop
        exact ⟨htuned.inTune h.1, htuned.rate.trans h.2⟩
      · obtain ⟨rate, rfl⟩ : ∃ rate, op = .setDeviceSampleRate rate := by simpa using hop
        obtain rfl := hrate _ List.mem_cons_self rate rfl
        change InTune (s.setDeviceSampleRate (.fin 48000)).1 ∧
          (s.setDeviceSampleRate (.fin 48000)).1.currentDeviceSampleRate = .fin 48000
        rcases s.setDeviceSampleRate_cases (.fin 48000) with ⟨e, -, hstreams⟩ | ⟨e, -⟩
        · rw [e]
          exact ⟨⟨Double.noConfusion, hstreams⟩, rfl⟩
        · rw [e]
          exact h
  exact hrun _ {} hops ⟨⟨Double.noConfusion, fun id managed hf => (by cases hf)⟩, rfl⟩

theorem initialised_agrees (settings : Settings) (env : ℕ → Env) :
    Agrees (Initialize settings env) ∧ InRange (Initialize settings env) := by
  obtain ⟨htuned, hrate⟩ := initialised_inTune settings env
  have hrates : (Initialize settings env).currentSampleRate =
      (Initialize settings env).streamManager.currentDeviceSampleRate := hrate.symm
  refine ⟨⟨hrates, fun id managed hf => hrates ▸ htuned.agree id managed hf⟩, htuned.rate_ne_nan, ?_⟩
  rw [hrate]
  decide

/-- **The device and its streams agree on the rate throughout a run exactly where every rate that the
device takes is granted**, and then a rate that the streams refuse changes nothing. -/
theorem agrees_iff_granted (deriveId : Text → Text → Text) (settings : Settings) (env : ℕ → Env)
    (ops : List Op) :
    (Always (step deriveId) Agrees (Initialize settings env) ops ∧
      Along (step deriveId) (fun d op => op.LeavesRates deriveId d) (Initialize settings env) ops) ↔
    Along (step deriveId) (fun d op => op.Granted d) (Initialize settings env) ops := by
  obtain ⟨ha, hr⟩ := initialised_agrees settings env
  have hranges : Always (step deriveId) InRange (Initialize settings env) ops :=
    always_of_step (fun _ op h => inRange_step h op) hr
  have hiff : Always (step deriveId) (fun d => Agrees d ∧ InRange d) (Initialize settings env) ops ↔
      Along (step deriveId) (fun d op => op.Granted d) (Initialize settings env) ops :=
    always_iff_along (fun d op h => ⟨fun h' => (agrees_step_iff h.1 h.2 op).mp h'.1,
      fun h' => ⟨(agrees_step_iff h.1 h.2 op).mpr h', inRange_step h.2 op⟩⟩) ⟨ha, hr⟩
  constructor
  · exact fun h => hiff.mp (h.1.and hranges)
  · exact fun h => ⟨(hiff.mpr h).imp fun _ h => h.1,
      h.imp fun d op _ hg => leavesRates_of_granted op hg⟩

/-- **The rate changed under the streams**: a fresh device, with its two streams at 48 kHz, is set to
96 kHz. -/
theorem raised_not_agrees :
    ¬ (Always (step fun node name => node ++ name) Agrees (Initialize {} opened)
        [.SetSampleRate (.fin 96000)] ∧
      Along (step fun node name => node ++ name)
        (fun d op => op.LeavesRates (fun node name => node ++ name) d) (Initialize {} opened)
        [.SetSampleRate (.fin 96000)]) := by
  rintro ⟨h, -⟩
  have hrates := h.run.rates
  revert hrates
  decide +kernel

end Aes67.AES67Device
