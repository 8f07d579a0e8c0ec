import Aes67.Config.Fields

/-!
# Two settings in one file

`AmplifierUnitSettingsManager` keeps the unit of an amplifier and the playout delay in one file.
Either is saved by reading the other back and writing both. Numbers are taken from the text by
regular expressions, converted by `std::stoul` and cast to 32 bits.

* `load`, `loadPlayoutDelay`, `save`, `savePlayoutDelay`;
* `load_eq`, `loadPlayoutDelay_eq`: what comes of the numbers in a file;
* **`run_spec`**: over any calls what was saved last is what is loaded, for either setting;
* **`lawful_iff`**: the readers are right about a file just when no number of it is too large for a
  conversion, and none that is reduced is taken for one in range.
-/

namespace Aes67

open StreamConfigManager (Thrown arrayValue numberRuns flushRun numberRuns_showNat
  numberRuns_showNat_comma isDigit_ne)

structure PlayoutDelaySettings where
  samples : UInt32 := 0
  deriving DecidableEq

def PlayoutDelaySettings.kMaxSamples : ℕ := 4800

def PlayoutDelaySettings.isValid (settings : PlayoutDelaySettings) : Bool :=
  settings.samples.toNat ≤ kMaxSamples

structure AmplifierUnitSettings where
  unitIndex : UInt32 := 1
  chainUnitChannels : List UInt32 := []
  deriving DecidableEq

def AmplifierUnitSettings.kMaxUnits : ℕ := 3

def AmplifierUnitSettings.isValid (settings : AmplifierUnitSettings) : Bool :=
  settings.unitIndex.toNat ≥ 1 && settings.unitIndex.toNat ≤ kMaxUnits

namespace AmplifierUnitSettingsManager

/-! ## Reading -/

/-- `std::stoul`, and the cast of what it gives. -/
def stoul (run : Text) : Except Thrown UInt32 :=
  match stoull run with
  | none => .error .outOfRange
  | some n => .ok (.ofNat n)

def stoulAll : List Text → Except Thrown (List UInt32)
  | [] => .ok []
  | run :: runs => do
    let n ← stoul run
    let ns ← stoulAll runs
    .ok (n :: ns)

/-- The first `"unitIndex": …` of a text. -/
def unitRun (json : Text) : Option Text := searchField "unitIndex".toList digitsValue json

/-- The runs of digits of the first `"chainUnitChannels": […]`. -/
def chainRuns (json : Text) : List Text :=
  ((searchField "chainUnitChannels".toList arrayValue json).map (numberRuns false [])).getD []

def delayRun (json : Text) : Option Text :=
  searchField "playoutDelaySamples".toList digitsValue json

def parseUnit (json : Text) : Except Thrown UInt32 :=
  match unitRun json with
  | some run => stoul run
  | none => .ok 1

/-- `load`: the defaults where there is no file, or the unit is out of range. -/
def load : Option Text → Except Thrown AmplifierUnitSettings
  | none => .ok {}
  | some json => do
    let unitIndex ← parseUnit json
    let chainUnitChannels ← stoulAll (chainRuns json)
    let parsed : AmplifierUnitSettings := { unitIndex, chainUnitChannels }
    if parsed.isValid then .ok parsed else .ok {}

def loadPlayoutDelay : Option Text → Except Thrown PlayoutDelaySettings
  | none => .ok {}
  | some json =>
    match delayRun json with
    | none => .ok {}
    | some run => do
      let samples ← stoul run
      let parsed : PlayoutDelaySettings := { samples }
      if parsed.isValid then .ok parsed else .ok {}

/-! ## Writing -/

def chainArrayJson (chain : List UInt32) : Text :=
  '[' :: List.intercalate ", ".toList (chain.map fun n => showNat n.toNat) ++ [']']

def entries (unit : AmplifierUnitSettings) (delay : PlayoutDelaySettings) : List (Text × Text) :=
  [("version".toList, quote "1.0".toList),
    ("unitIndex".toList, showNat unit.unitIndex.toNat),
    ("chainUnitChannels".toList, chainArrayJson unit.chainUnitChannels),
    ("playoutDelaySamples".toList, showNat delay.samples.toNat)]

/-- The file that both writers write. -/
def written (unit : AmplifierUnitSettings) (delay : PlayoutDelaySettings) : Text :=
  objectJSON 0 (entries unit delay) ++ ['\n']

/-- `savePlayoutDelay`, where the file can be written: its answer and the file. -/
def savePlayoutDelay (file : Option Text) (settings : PlayoutDelaySettings) :
    Except Thrown (Bool × Option Text) :=
  if !settings.isValid then .ok (false, file)
  else do
    let unit ← load file
    .ok (true, some (written unit settings))

/-- `save`, where the file can be written: its answer and the file. -/
def save (file : Option Text) (settings : AmplifierUnitSettings) :
    Except Thrown (Bool × Option Text) :=
  if !settings.isValid then .ok (false, file)
  else do
    let delay ← loadPlayoutDelay file
    .ok (true, some (written settings delay))

/-- A call of one of the writers. -/
inductive Call
  | save (settings : AmplifierUnitSettings)
  | savePlayoutDelay (settings : PlayoutDelaySettings)

def Call.isValid : Call → Bool
  | .save settings => settings.isValid
  | .savePlayoutDelay settings => settings.isValid

def Call.perform (file : Option Text) : Call → Except Thrown (Bool × Option Text)
  | .save settings => AmplifierUnitSettingsManager.save file settings
  | .savePlayoutDelay settings => AmplifierUnitSettingsManager.savePlayoutDelay file settings

/-- The file after calls. -/
def run (file : Option Text) : List Call → Except Thrown (Option Text)
  | [] => .ok file
  | call :: calls => do
    let (_, file) ← call.perform file
    run file calls

/-- The unit settings that were saved last. -/
def lastUnit (unit : AmplifierUnitSettings) : List Call → AmplifierUnitSettings
  | [] => unit
  | .save settings :: calls => lastUnit settings calls
  | .savePlayoutDelay _ :: calls => lastUnit unit calls

def lastDelay (delay : PlayoutDelaySettings) : List Call → PlayoutDelaySettings
  | [] => delay
  | .save _ :: calls => lastDelay delay calls
  | .savePlayoutDelay settings :: calls => lastDelay settings calls

/-! ## The numbers of a file -/

variable {json : Text} {file : Option Text} {unit : AmplifierUnitSettings}
  {delay : PlayoutDelaySettings}

/-- The number a run of digits stands for. -/
def number (run : Text) : ℕ := Nat.ofDigitChars 10 run 0

def unitNumber (json : Text) : ℕ := (unitRun json).elim 1 number

def chainNumbers (json : Text) : List ℕ := (chainRuns json).map number

/-- A run of digits that is not empty. -/
def IsRun (run : Text) : Prop := run ≠ [] ∧ ∀ c ∈ run, c.isDigit = true

theorem isRun_of_digitsValue {s run : Text} (h : digitsValue s = some run) : IsRun run := by
  rw [digitsValue] at h
  split at h
  · cases h
  · next hne =>
    cases h
    exact ⟨fun h0 => hne h0, fun c hc => List.mem_takeWhile_imp hc⟩

theorem of_searchField {f x : Text} {value : Text → Option Text} {P : Text → Prop}
    (hvalue : ∀ s x, value s = some x → P x) (h : searchField f value json = some x) : P x := by
  induction json with
  | nil => cases h
  | cons c s ih =>
    rw [searchField, Option.or_eq_some_iff] at h
    rcases h with h | ⟨-, h⟩
    · rw [matchHere_eq_bind] at h
      obtain ⟨t, -, ht⟩ := Option.bind_eq_some_iff.mp h
      exact hvalue t x ht
    · exact ih h

theorem isRun_of_mem_flushRun {run x : Text} (hrun : ∀ c ∈ run, c.isDigit = true)
    (h : x ∈ flushRun run) : IsRun x := by
  rw [flushRun] at h
  split_ifs at h with hany
  · obtain rfl := List.mem_singleton.mp h
    refine ⟨?_, hrun⟩
    rintro rfl
    cases hany
  · cases h

theorem isRun_of_mem_numberRuns {run s x : Text} (hrun : ∀ c ∈ run, c.isDigit = true)
    (h : x ∈ numberRuns false run s) : IsRun x := by
  induction s generalizing run with
  | nil => exact isRun_of_mem_flushRun hrun h
  | cons c s ih =>
    rw [numberRuns, if_neg (fun hm => absurd hm.1 (by decide) : ¬ (false = true ∧ c = '-'))] at h
    split_ifs at h with hc
    · refine ih (fun d hd => ?_) h
      rcases List.mem_append.mp hd with hd | hd
      · exact hrun d hd
      · exact List.mem_singleton.mp hd ▸ hc
    · rcases List.mem_append.mp h with h | h
      · exact isRun_of_mem_flushRun hrun h
      · exact ih (fun d hd => absurd hd List.not_mem_nil) h

theorem isRun_of_mem_chainRuns {x : Text} (h : x ∈ chainRuns json) : IsRun x := by
  rw [chainRuns] at h
  cases hs : searchField "chainUnitChannels".toList arrayValue json with
  | none =>
    rw [hs] at h
    cases h
  | some body =>
    rw [hs] at h
    exact isRun_of_mem_numberRuns (fun d hd => absurd hd List.not_mem_nil) h

theorem stoul_eq {run : Text} (h : IsRun run) : stoul run =
    if number run < 2 ^ 64 then .ok (.ofNat (number run)) else .error .outOfRange := by
  have hscan := scanInt_of_digits (t := []) h.2 h.1 rfl
  rw [List.append_nil] at hscan
  by_cases hlt : Nat.ofDigitChars 10 run 0 < 2 ^ 64 <;>
    simp only [stoul, stoull, hscan, number, hlt, Bool.false_eq_true, if_true, if_false]

theorem stoulAll_eq {runs : List Text} (h : ∀ run ∈ runs, IsRun run) : stoulAll runs =
    if ∀ n ∈ runs.map number, n < 2 ^ 64 then .ok ((runs.map number).map UInt32.ofNat)
    else .error .outOfRange := by
  induction runs with
  | nil => exact (if_pos fun n hn => absurd hn List.not_mem_nil).symm
  | cons run runs ih =>
    rw [stoulAll, stoul_eq (h run List.mem_cons_self),
      ih fun x hx => h x (List.mem_cons_of_mem _ hx)]
    simp only [List.map_cons, List.forall_mem_cons]
    by_cases h1 : number run < 2 ^ 64
    · by_cases h2 : ∀ n ∈ runs.map number, n < 2 ^ 64
      · rw [if_pos h1, if_pos h2, if_pos (And.intro h1 h2)]
        rfl
      · rw [if_pos h1, if_neg h2, if_neg (mt And.right h2)]
        rfl
    · rw [if_neg h1, if_neg (mt And.left h1)]
      rfl

/-- What `load` makes of the numbers of a file. -/
def loaded (json : Text) : AmplifierUnitSettings :=
  let parsed : AmplifierUnitSettings :=
    { unitIndex := .ofNat (unitNumber json)
      chainUnitChannels := (chainNumbers json).map UInt32.ofNat }
  if parsed.isValid then parsed else {}

/-- **Every number goes through a conversion**, and one that does not fit ends the call. -/
theorem load_eq (json : Text) : load (some json) =
    if unitNumber json < 2 ^ 64 ∧ ∀ n ∈ chainNumbers json, n < 2 ^ 64 then .ok (loaded json)
    else .error .outOfRange := by
  have hunit : parseUnit json = if unitNumber json < 2 ^ 64 then .ok (.ofNat (unitNumber json))
      else .error .outOfRange := by
    rw [parseUnit, unitNumber]
    cases hrun : unitRun json with
    | none => rfl
    | some run => exact stoul_eq (of_searchField (fun s x => isRun_of_digitsValue) hrun)
  have hchain := stoulAll_eq fun run hrun => @isRun_of_mem_chainRuns json run hrun
  rw [load, hunit, hchain, ← chainNumbers]
  by_cases h1 : unitNumber json < 2 ^ 64
  · by_cases h2 : ∀ n ∈ chainNumbers json, n < 2 ^ 64
    · rw [if_pos h1, if_pos h2, if_pos (And.intro h1 h2), loaded]
      simp only [bind, Except.bind]
      split_ifs <;> rfl
    · rw [if_pos h1, if_neg h2, if_neg (mt And.right h2)]
      rfl
  · rw [if_neg h1, if_neg (mt And.left h1)]
    rfl

/-- What `loadPlayoutDelay` makes of a number. -/
def loadedDelay (n : ℕ) : PlayoutDelaySettings :=
  let parsed : PlayoutDelaySettings := { samples := .ofNat n }
  if parsed.isValid then parsed else {}

theorem loadPlayoutDelay_eq {run : Text} (hrun : delayRun json = some run) :
    loadPlayoutDelay (some json) =
      if number run < 2 ^ 64 then .ok (loadedDelay (number run)) else .error .outOfRange := by
  rw [loadPlayoutDelay, hrun]
  dsimp only
  rw [stoul_eq (of_searchField (fun s x => isRun_of_digitsValue) hrun)]
  split_ifs
  · simp only [bind, Except.bind, loadedDelay]
    split_ifs <;> rfl
  · rfl

/-! ## What is written is read -/

section Written

/-- The field names of the file. -/
def names : List Text := (entries {} {}).map Prod.fst

theorem isName_of_mem_names : ∀ f ∈ names, IsName f := by decide

theorem entries_fst : (entries unit delay).map Prod.fst = names := rfl

/-- A list of numbers has digits in it, and what separates them. -/
theorem not_mem_numberList {c : Char} (hd : c.isDigit = false) (hc : c ∉ ", ".toList)
    (l : List ℕ) : c ∉ List.intercalate ", ".toList (l.map showNat) := by
  induction l with
  | nil => exact List.not_mem_nil
  | cons n l ih =>
    rcases l with _ | ⟨m, l⟩
    · rw [List.map_singleton, List.intercalate_singleton]
      exact isDigit_ne hd
    · rw [List.map_cons] at ih ⊢
      rw [List.map_cons, List.intercalate_cons_cons, List.mem_append, List.mem_append, not_or,
        not_or]
      exact ⟨⟨isDigit_ne hd, hc⟩, ih⟩

theorem numberRuns_numberList (l : List ℕ) :
    numberRuns false [] (List.intercalate ", ".toList (l.map showNat)) = l.map showNat := by
  induction l with
  | nil => rfl
  | cons n l ih =>
    rcases l with _ | ⟨m, l⟩
    · rw [List.map_singleton, List.intercalate_singleton, numberRuns_showNat]
    · rw [List.map_cons] at ih ⊢
      rw [List.map_cons, List.intercalate_cons_cons, List.append_assoc, numberRuns_showNat_comma,
        ih]

/-- The numbers of a chain. -/
def chainList (chain : List UInt32) : Text :=
  List.intercalate ", ".toList ((chain.map UInt32.toNat).map showNat)

theorem chainArrayJson_eq (chain : List UInt32) :
    chainArrayJson chain = '[' :: chainList chain ++ [']'] := by
  rw [chainArrayJson, chainList, List.map_map]
  rfl

theorem legible_entries (unit : AmplifierUnitSettings) (delay : PlayoutDelaySettings) :
    Legible names (entries unit delay) := by
  have hn : ∀ n, '"' ∉ showNat n := fun n => isDigit_ne rfl
  have hchain : '"' ∉ chainArrayJson unit.chainUnitChannels := by
    have hlist : '"' ∉ chainList unit.chainUnitChannels := not_mem_numberList rfl (by decide) _
    simp [chainArrayJson_eq, hlist]
  refine legible_of_simple (entries_fst ▸ by decide) isName_of_mem_names isName_of_mem_names ?_
  simp only [entries, List.forall_mem_cons, List.not_mem_nil, IsEmpty.forall_iff, implies_true,
    and_true]
  exact ⟨Or.inl ⟨_, rfl⟩, Or.inr (hn _), Or.inr hchain, Or.inr (hn _)⟩

/-- A reader finds its field in the file. -/
theorem searchField_written {f x v : Text} {value : Text → Option Text}
    (hm : (f, x) ∈ entries unit delay) (hx : ∀ c, x.head? = some c → isSpace c = false)
    (h0 : x ≠ []) (hv : ∀ u, Apart u → value (x ++ u) = some v) :
    searchField f value (written unit delay) = some v := by
  have hl := legible_entries unit delay
  have hf : f ∈ names := @entries_fst unit delay ▸ List.mem_map_of_mem hm
  have hfind : matchField ([] ++ (objectJSON 0 (entries unit delay) ++ ['\n'])) f value = some v :=
    hl.matchField hf hm List.not_mem_nil hx h0 hv
  rwa [matchField, if_pos (isName_of_mem_names f hf).plain] at hfind

theorem head_showNat {n : ℕ} {c : Char} (h : (showNat n).head? = some c) : isSpace c = false :=
  isSpace_of_mem_showNat (List.mem_of_mem_head? h)

theorem unitRun_written : unitRun (written unit delay) = some (showNat unit.unitIndex.toNat) :=
  searchField_written (List.mem_of_getElem? (i := 1) rfl) (fun _ => head_showNat)
    (showNat_ne_nil _) fun _ => digitsValue_showNat

theorem delayRun_written : delayRun (written unit delay) = some (showNat delay.samples.toNat) :=
  searchField_written (List.mem_of_getElem? (i := 3) rfl) (fun _ => head_showNat)
    (showNat_ne_nil _) fun _ => digitsValue_showNat

theorem number_showNat (n : ℕ) : number (showNat n) = n := Nat.ofDigitChars_ten_toDigits

theorem arrayValue_chain (chain : List UInt32) (s : Text) :
    arrayValue (chainArrayJson chain ++ s) = some (chainList chain) := by
  have hno : ∀ c ∈ chainList chain, decide (c ≠ ']') = true := fun c hc => by
    rw [decide_eq_true_iff]
    rintro rfl
    exact not_mem_numberList rfl (by decide) _ hc
  rw [chainArrayJson_eq, List.cons_append, List.cons_append, arrayValue, if_pos (by simp),
    List.append_assoc, List.takeWhile_append_of_pos hno]
  simp

theorem chainRuns_written : chainRuns (written unit delay) =
    (unit.chainUnitChannels.map UInt32.toNat).map showNat := by
  have hfind : searchField "chainUnitChannels".toList arrayValue (written unit delay) =
      some (chainList unit.chainUnitChannels) :=
    searchField_written (List.mem_of_getElem? (i := 2) rfl) (by rintro c ⟨⟩; rfl)
      (List.cons_ne_nil _ _) fun u _ => arrayValue_chain _ u
  rw [chainRuns, hfind]
  exact numberRuns_numberList _

theorem unitNumber_written : unitNumber (written unit delay) = unit.unitIndex.toNat := by
  rw [unitNumber, unitRun_written]
  exact number_showNat _

theorem chainNumbers_written :
    chainNumbers (written unit delay) = unit.chainUnitChannels.map UInt32.toNat := by
  rw [chainNumbers, chainRuns_written, List.map_map]
  exact (List.map_congr_left fun n _ => number_showNat n).trans (List.map_id _)

theorem toNat_lt_size (n : UInt32) : n.toNat < 2 ^ 64 :=
  n.toNat_lt.trans (by decide)

/-- **The unit that is written is read**, whatever the delay beside it. -/
theorem load_written (h : unit.isValid = true) : load (some (written unit delay)) = .ok unit := by
  have hsmall : ∀ n ∈ unit.chainUnitChannels.map UInt32.toNat, n < 2 ^ 64 := by
    intro n hn
    obtain ⟨m, -, rfl⟩ := List.mem_map.mp hn
    exact toNat_lt_size m
  have hchain : (unit.chainUnitChannels.map UInt32.toNat).map UInt32.ofNat =
      unit.chainUnitChannels := by
    rw [List.map_map]
    exact (List.map_congr_left fun n _ => UInt32.ofNat_toNat).trans (List.map_id _)
  rw [load_eq, unitNumber_written, chainNumbers_written,
    if_pos (And.intro (toNat_lt_size _) hsmall), loaded, unitNumber_written, chainNumbers_written,
    hchain, UInt32.ofNat_toNat]
  exact congrArg Except.ok (if_pos h)

/-- **The delay that is written is read**, whatever the unit beside it. -/
theorem loadPlayoutDelay_written (h : delay.isValid = true) :
    loadPlayoutDelay (some (written unit delay)) = .ok delay := by
  rw [loadPlayoutDelay_eq delayRun_written, number_showNat, if_pos (toNat_lt_size _), loadedDelay,
    UInt32.ofNat_toNat]
  exact congrArg Except.ok (if_pos h)

end Written

/-! ## Histories -/

theorem isValid_loaded : (loaded json).isValid = true := by
  rw [loaded]
  split_ifs with h
  · exact h
  · rfl

theorem isValid_loadedDelay (n : ℕ) : (loadedDelay n).isValid = true := by
  rw [loadedDelay]
  split_ifs with h
  · exact h
  · rfl

theorem isValid_of_load (h : load file = .ok unit) : unit.isValid = true := by
  cases file with
  | none =>
    cases h
    rfl
  | some json =>
    rw [load_eq] at h
    split_ifs at h
    cases h
    exact isValid_loaded

theorem isValid_of_loadPlayoutDelay (h : loadPlayoutDelay file = .ok delay) :
    delay.isValid = true := by
  cases file with
  | none =>
    cases h
    rfl
  | some json =>
    cases hrun : delayRun json with
    | none =>
      rw [loadPlayoutDelay, hrun] at h
      cases h
      rfl
    | some run =>
      rw [loadPlayoutDelay_eq hrun] at h
      split_ifs at h
      cases h
      exact isValid_loadedDelay _

/-- **Neither writer disturbs what the other wrote**, over any calls. -/
theorem run_spec (hunit : load file = .ok unit) (hdelay : loadPlayoutDelay file = .ok delay)
    {calls : List Call} (hcalls : ∀ call ∈ calls, call.isValid = true) :
    ∃ file', run file calls = .ok file' ∧ load file' = .ok (lastUnit unit calls) ∧
      loadPlayoutDelay file' = .ok (lastDelay delay calls) := by
  induction calls generalizing file unit delay with
  | nil => exact ⟨file, rfl, hunit, hdelay⟩
  | cons call calls ih =>
    have hcall := hcalls call List.mem_cons_self
    have hrest := fun c hc => hcalls c (List.mem_cons_of_mem call hc)
    cases call with
    | save settings =>
      have hunit' := @load_written settings delay hcall
      have hdelay' := @loadPlayoutDelay_written settings delay (isValid_of_loadPlayoutDelay hdelay)
      obtain ⟨file', hrun, hlast⟩ := ih hunit' hdelay' hrest
      refine ⟨file', ?_, hlast⟩
      rw [run, Call.perform, save, show settings.isValid = true from hcall, hdelay]
      exact hrun
    | savePlayoutDelay settings =>
      have hunit' := @load_written unit settings (isValid_of_load hunit)
      have hdelay' := @loadPlayoutDelay_written unit settings hcall
      obtain ⟨file', hrun, hlast⟩ := ih hunit' hdelay' hrest
      refine ⟨file', ?_, hlast⟩
      rw [run, Call.perform, savePlayoutDelay, show settings.isValid = true from hcall, hunit]
      exact hrun

/-! ## What is read is what is written, or not -/

/-- In range, and the default or the numbers of the file. -/
def UnitAsWritten (file : Option Text) (unit : AmplifierUnitSettings) : Prop :=
  unit.isValid = true ∧ (unit = {} ∨ ∃ json, file = some json ∧
    unit.unitIndex.toNat = unitNumber json ∧
    unit.chainUnitChannels.map UInt32.toNat = chainNumbers json)

def DelayAsWritten (file : Option Text) (delay : PlayoutDelaySettings) : Prop :=
  delay.isValid = true ∧ (delay = {} ∨ ∃ json run, file = some json ∧ delayRun json = some run ∧
    delay.samples.toNat = number run)

/-- **The readers are right about a file**, and the writers keep both settings from there on. -/
def Lawful (file : Option Text) : Prop :=
  ∃ unit delay, load file = .ok unit ∧ UnitAsWritten file unit ∧
    loadPlayoutDelay file = .ok delay ∧ DelayAsWritten file delay ∧
    ∀ calls : List Call, (∀ call ∈ calls, call.isValid = true) →
      ∃ file', run file calls = .ok file' ∧ load file' = .ok (lastUnit unit calls) ∧
        loadPlayoutDelay file' = .ok (lastDelay delay calls)

/-- No number of the file is too large for a conversion, and the unit's rest modulo `2 ^ 32` is out
of range, or the default with nothing beside it, or every number has 32 bits. -/
structure UnitSound (json : Text) : Prop where
  unit_lt : unitNumber json < 2 ^ 64
  chain_lt : ∀ n ∈ chainNumbers json, n < 2 ^ 64
  rest : ¬ (1 ≤ unitNumber json % 2 ^ 32 ∧ unitNumber json % 2 ^ 32 ≤ 3) ∨
    (unitNumber json % 2 ^ 32 = 1 ∧ chainNumbers json = []) ∨
    (unitNumber json < 2 ^ 32 ∧ ∀ n ∈ chainNumbers json, n < 2 ^ 32)

/-- The same of the delay. -/
structure DelaySound (n : ℕ) : Prop where
  lt : n < 2 ^ 64
  rest : 4800 < n % 2 ^ 32 ∨ n % 2 ^ 32 = 0 ∨ n < 2 ^ 32

theorem toNat_ofNat_eq_iff (n : ℕ) : (UInt32.ofNat n).toNat = n ↔ n < 2 ^ 32 := by
  rw [UInt32.toNat_ofNat']
  omega

theorem map_toNat_ofNat_eq_iff (l : List ℕ) :
    (l.map UInt32.ofNat).map UInt32.toNat = l ↔ ∀ n ∈ l, n < 2 ^ 32 := by
  induction l with
  | nil => exact iff_of_true rfl fun n hn => absurd hn List.not_mem_nil
  | cons n l ih =>
    rw [List.map_cons, List.map_cons, List.cons.injEq, ih, toNat_ofNat_eq_iff, List.forall_mem_cons]

theorem isValid_ofNat_iff (n : ℕ) (chain : List UInt32) :
    (AmplifierUnitSettings.mk (.ofNat n) chain).isValid = true ↔
      1 ≤ n % 2 ^ 32 ∧ n % 2 ^ 32 ≤ 3 := by
  simp only [AmplifierUnitSettings.isValid, AmplifierUnitSettings.kMaxUnits, UInt32.toNat_ofNat',
    Bool.and_eq_true, decide_eq_true_eq, ge_iff_le]

theorem ofNat_eq_one_iff (n : ℕ) : UInt32.ofNat n = 1 ↔ n % 2 ^ 32 = 1 := by
  rw [← UInt32.toNat_inj, UInt32.toNat_ofNat']
  rfl

theorem unitAsWritten_loaded_iff (json : Text) : UnitAsWritten (some json) (loaded json) ↔
    (¬ (1 ≤ unitNumber json % 2 ^ 32 ∧ unitNumber json % 2 ^ 32 ≤ 3) ∨
      (unitNumber json % 2 ^ 32 = 1 ∧ chainNumbers json = []) ∨
      (unitNumber json < 2 ^ 32 ∧ ∀ n ∈ chainNumbers json, n < 2 ^ 32)) := by
  by_cases hv : 1 ≤ unitNumber json % 2 ^ 32 ∧ unitNumber json % 2 ^ 32 ≤ 3
  · have hloaded : loaded json =
        ⟨.ofNat (unitNumber json), (chainNumbers json).map UInt32.ofNat⟩ :=
      if_pos ((isValid_ofNat_iff _ _).mpr hv)
    have hdefault : loaded json = {} ↔ unitNumber json % 2 ^ 32 = 1 ∧ chainNumbers json = [] := by
      rw [hloaded, AmplifierUnitSettings.mk.injEq, ofNat_eq_one_iff, List.map_eq_nil_iff]
    have hwritten : (∃ json', some json = some json' ∧
        (loaded json).unitIndex.toNat = unitNumber json' ∧
        (loaded json).chainUnitChannels.map UInt32.toNat = chainNumbers json') ↔
          unitNumber json < 2 ^ 32 ∧ ∀ n ∈ chainNumbers json, n < 2 ^ 32 := by
      rw [hloaded, ← toNat_ofNat_eq_iff, ← map_toNat_ofNat_eq_iff]
      exact ⟨fun ⟨_, he, h⟩ => Option.some.inj he ▸ h, fun h => ⟨json, rfl, h⟩⟩
    rw [UnitAsWritten, and_iff_right isValid_loaded, hdefault, hwritten,
      or_iff_right (not_not.mpr hv)]
  · have hloaded : loaded json = {} := if_neg (mt (isValid_ofNat_iff _ _).mp hv)
    exact iff_of_true ⟨isValid_loaded, Or.inl hloaded⟩ (Or.inl hv)

theorem isValid_delay_iff (n : ℕ) :
    (PlayoutDelaySettings.mk (.ofNat n)).isValid = true ↔ n % 2 ^ 32 ≤ 4800 := by
  simp only [PlayoutDelaySettings.isValid, PlayoutDelaySettings.kMaxSamples, UInt32.toNat_ofNat',
    decide_eq_true_eq]

theorem delayAsWritten_loadedDelay_iff {run : Text} (hrun : delayRun json = some run) :
    DelayAsWritten (some json) (loadedDelay (number run)) ↔
      (4800 < number run % 2 ^ 32 ∨ number run % 2 ^ 32 = 0 ∨ number run < 2 ^ 32) := by
  by_cases hv : number run % 2 ^ 32 ≤ 4800
  · have hloaded : loadedDelay (number run) = ⟨.ofNat (number run)⟩ :=
      if_pos ((isValid_delay_iff _).mpr hv)
    have hdefault : loadedDelay (number run) = {} ↔ number run % 2 ^ 32 = 0 := by
      rw [hloaded, PlayoutDelaySettings.mk.injEq, ← UInt32.toNat_inj, UInt32.toNat_ofNat']
      rfl
    have hwritten : (∃ json' run', some json = some json' ∧ delayRun json' = some run' ∧
        (loadedDelay (number run)).samples.toNat = number run') ↔ number run < 2 ^ 32 := by
      rw [hloaded, ← toNat_ofNat_eq_iff]
      constructor
      · rintro ⟨_, _, he, hrun', h⟩
        cases he
        rw [hrun] at hrun'
        cases hrun'
        exact h
      · exact fun h => ⟨json, run, rfl, hrun, h⟩
    rw [DelayAsWritten, and_iff_right (isValid_loadedDelay _), hdefault, hwritten,
      or_iff_right (not_lt.mpr hv)]
  · have hloaded : loadedDelay (number run) = {} := if_neg (mt (isValid_delay_iff _).mp hv)
    exact iff_of_true ⟨isValid_loadedDelay _, Or.inl hloaded⟩ (Or.inl (not_le.mp hv))

/-- **The readers are right about a file just when its numbers are sound.** -/
theorem lawful_iff (file : Option Text) : Lawful file ↔ ∀ json, file = some json →
    UnitSound json ∧ ∀ run, delayRun json = some run → DelaySound (number run) := by
  constructor
  · rintro ⟨unit, delay, hunit, hasUnit, hdelay, hasDelay, -⟩ json rfl
    constructor
    · rw [load_eq] at hunit
      split_ifs at hunit with hlt
      cases hunit
      exact ⟨hlt.1, hlt.2, (unitAsWritten_loaded_iff json).mp hasUnit⟩
    · intro run hrun
      rw [loadPlayoutDelay_eq hrun] at hdelay
      split_ifs at hdelay with hlt
      cases hdelay
      exact ⟨hlt, (delayAsWritten_loadedDelay_iff hrun).mp hasDelay⟩
  · intro h
    have hboth : ∃ unit delay, load file = .ok unit ∧ UnitAsWritten file unit ∧
        loadPlayoutDelay file = .ok delay ∧ DelayAsWritten file delay := by
      cases file with
      | none => exact ⟨{}, {}, rfl, ⟨rfl, Or.inl rfl⟩, rfl, rfl, Or.inl rfl⟩
      | some json =>
        obtain ⟨hunit, hdelay⟩ := h json rfl
        have hload : load (some json) = .ok (loaded json) := by
          rw [load_eq, if_pos (And.intro hunit.unit_lt hunit.chain_lt)]
        have hasUnit := (unitAsWritten_loaded_iff json).mpr hunit.rest
        cases hrun : delayRun json with
        | none =>
          refine ⟨_, {}, hload, hasUnit, ?_, rfl, Or.inl rfl⟩
          rw [loadPlayoutDelay, hrun]
        | some run =>
          have hsound := hdelay run hrun
          refine ⟨_, _, hload, hasUnit, ?_, (delayAsWritten_loadedDelay_iff hrun).mpr hsound.rest⟩
          rw [loadPlayoutDelay_eq hrun, if_pos hsound.lt]
    obtain ⟨unit, delay, hunit, hasUnit, hdelay, hasDelay⟩ := hboth
    exact ⟨unit, delay, hunit, hasUnit, hdelay, hasDelay, fun calls => run_spec hunit hdelay⟩

/-- A unit beyond 32 bits that is read as the second. -/
def beyond : Text := "\x7b\"unitIndex\": 4294967298\x7d".toList

theorem not_lawful_beyond : ¬ ∀ file, Lawful file := by
  intro h
  obtain ⟨unit, -, hunit, ⟨-, hdefault | ⟨json, hjson, hnumber, -⟩⟩, -⟩ := h (some beyond)
  · have : load (some beyond) = .ok ⟨2, []⟩ := by decide
    rw [this] at hunit
    cases hunit
    cases hdefault
  · cases hjson
    have : load (some beyond) = .ok ⟨2, []⟩ := by decide
    rw [this] at hunit
    cases hunit
    exact absurd hnumber (by decide)

end AmplifierUnitSettingsManager

end Aes67
