import Aes67.Lib.Numeral
import Aes67.Config.Fields

/-!
# The master's settings

The model of `PTPMasterSettingsManager`, of the interval conversions under it, and of the two
periods `PTPMaster` takes from the settings. An interval is the base-two logarithm of a number of
seconds. A file may say it under two keys, in milliseconds and as the logarithm, and the second
wins; only the second is brought into the range in which an interval has a period.

* `ptpLogIntervalToNanoseconds`, `msToLogInterval`: the conversions;
* `PTPMasterSettingsManager.load`, `save`;
* `msToLogInterval_iff`: of all numbers of milliseconds, one gives an interval without a period;
* `load_save_iff`: settings are read back just when both intervals are in the range;
* **`sendable_iff`**: what a file gives can be sent and is kept, just when neither interval is said
  in milliseconds only, and as one.
-/

namespace Aes67

/-! ## Intervals -/

/-- Nanoseconds of an interval; zero outside −9..21, which is no interval to follow. -/
def ptpLogIntervalToNanoseconds (logInterval : Int8) : ℕ :=
  if 0 ≤ logInterval.toInt then
    if logInterval.toInt > 21 then 0 else 1000000000 * 2 ^ logInterval.toInt.toNat
  else if logInterval.toInt < -9 then 0
  else 1000000000 / 2 ^ (-logInterval.toInt).toNat

def logIntervalToNs (logInterval : Int8) : ℤ := ptpLogIntervalToNanoseconds logInterval

/-- `lround(log2(milliseconds / 1000))`: no `int` is so near to a power of two and a half that the
rounding of a `double` would show. -/
def nearestLog2 (milliseconds : ℤ) : ℤ := Int.log 2 (2 * (milliseconds / 1000 : ℚ) ^ 2) / 2

def msToLogInterval (milliseconds : ℤ) : Int8 :=
  if milliseconds ≤ 0 then 0
  else
    let rounded := nearestLog2 milliseconds
    if rounded < -128 then -128 else if rounded > 127 then 127 else .ofInt rounded

variable {l : Int8} {ms : ℤ}

/-- The intervals that have a period. -/
def Followed (logInterval : Int8) : Prop := -9 ≤ logInterval.toInt ∧ logInterval.toInt ≤ 21

instance : DecidablePred Followed := fun _ => inferInstanceAs (Decidable (_ ∧ _))

theorem period_pos_iff : 0 < logIntervalToNs l ↔ Followed l := by
  unfold logIntervalToNs ptpLogIntervalToNanoseconds Followed
  split_ifs with h0 hbig hsmall
  · simp only [Nat.cast_zero, lt_irrefl, false_iff]
    omega
  · have : 0 < 1000000000 * 2 ^ l.toInt.toNat := by positivity
    omega
  · simp only [Nat.cast_zero, lt_irrefl, false_iff]
    omega
  · have hle : 2 ^ (-l.toInt).toNat ≤ 1000000000 :=
      (Nat.pow_le_pow_right (by decide) (by omega : (-l.toInt).toNat ≤ 9)).trans (by decide)
    have : 0 < 1000000000 / 2 ^ (-l.toInt).toNat := Nat.div_pos hle (by positivity)
    omega

theorem nearestLog2_lt_iff (hms : 0 < ms) {k : ℤ} :
    nearestLog2 ms < k ↔ 2 * (ms / 1000 : ℚ) ^ 2 < 2 ^ (2 * k) := by
  have hq : (0 : ℚ) < 2 * (ms / 1000 : ℚ) ^ 2 := by
    have : (0 : ℚ) < ms := by exact_mod_cast hms
    positivity
  have hlog := Int.lt_zpow_iff_log_lt (b := 2) (x := 2 * k) (by decide) hq
  rw [nearestLog2]
  rw [Nat.cast_ofNat] at hlog
  rw [hlog]
  omega

/-- **One millisecond** is the only number of them whose interval has no period. -/
theorem msToLogInterval_iff (h : ms < 2 ^ 31) : Followed (msToLogInterval ms) ↔ ms ≠ 1 := by
  by_cases hms : ms ≤ 0
  · rw [msToLogInterval, if_pos hms]
    exact ⟨fun _ => by omega, fun _ => by decide⟩
  have hpos : 0 < ms := not_le.mp hms
  have hone : (1 : ℚ) ≤ ms := by exact_mod_cast hpos
  have hlow : nearestLog2 ms < -9 ↔ ms = 1 := by
    rw [nearestLog2_lt_iff hpos]
    refine ⟨fun hlt => ?_, fun he => by rw [he]; norm_num⟩
    by_contra hne
    have htwo : (2 : ℚ) ≤ ms := by exact_mod_cast (by omega : 2 ≤ ms)
    have : (2 * (2 / 1000) ^ 2 : ℚ) ≤ 2 * (ms / 1000) ^ 2 := by gcongr
    norm_num at this hlt
    linarith
  have hbottom : ¬ nearestLog2 ms < -10 := by
    rw [nearestLog2_lt_iff hpos]
    have : (2 * (1 / 1000) ^ 2 : ℚ) ≤ 2 * (ms / 1000) ^ 2 := by gcongr
    norm_num at this ⊢
    linarith
  have htop : nearestLog2 ms < 22 := by
    rw [nearestLog2_lt_iff hpos]
    have hle : (ms : ℚ) ≤ 2 ^ 31 := by exact_mod_cast h.le
    have : 2 * (ms / 1000) ^ 2 ≤ (2 * (2 ^ 31 / 1000) ^ 2 : ℚ) := by gcongr
    norm_num at this ⊢
    linarith
  rw [msToLogInterval, if_neg hms]
  dsimp only
  rw [if_neg (by omega), if_neg (by omega), Followed,
    Int8.toInt_ofInt_of_le (by omega) (by omega)]
  omega

/-! ## The settings -/

structure PTPMasterSettings where
  masterCapable : Bool := false
  ptpEnabled : Bool := false
  requireLock : Bool := false
  clockSourceKind : Text := "internal".toList
  lockToDeviceUID : Text := []
  priority1 : Int32 := 128
  priority2 : Int32 := 128
  clockClass : Int32 := 248
  clockAccuracy : Int32 := 0xFE
  logSyncInterval : Int8 := -3
  logAnnounceInterval : Int8 := 0
  delayReqIntervalMs : Int32 := 1000
  delayMechanism : Text := "e2e".toList
  dscp : Int32 := -1
  deriving DecidableEq

/-- `llround` of an interval in milliseconds. -/
def roundedMs (logInterval : Int8) : ℕ :=
  (ptpLogIntervalToNanoseconds logInterval + 500000) / 1000000

/-- The periods of `PTPMaster`'s transmit loop. -/
def PTPMasterSettings.syncPeriod (settings : PTPMasterSettings) : ℤ :=
  logIntervalToNs settings.logSyncInterval

def PTPMasterSettings.announcePeriod (settings : PTPMasterSettings) : ℤ :=
  logIntervalToNs settings.logAnnounceInterval

namespace PTPMasterSettingsManager

/-- One interval, out of the two keys it may stand under. -/
def migrateLogInterval (json msKey logKey : Text) (current : Int8) : Int8 :=
  let current := match extractIntField json msKey with
    | some v => msToLogInterval v
    | none => current
  match extractIntField json logKey with
  | some v => .ofInt (max (-9) (min v 21))
  | none => current

/-- An `int` field, or else the default. -/
def intField (json field : Text) (default : Int32) : Int32 :=
  ((extractIntField json field).map Int32.ofInt).getD default

def syncMsKey : Text := "syncIntervalMs".toList

def syncLogKey : Text := "logSyncInterval".toList

def announceMsKey : Text := "announceIntervalMs".toList

def announceLogKey : Text := "logAnnounceInterval".toList

/-- What `load` reads in a file. -/
def settingsOf (json : Text) : PTPMasterSettings :=
  let settings : PTPMasterSettings := {}
  { masterCapable := (extractBoolField json "masterCapable".toList).getD settings.masterCapable
    ptpEnabled := (extractBoolField json "ptpEnabled".toList).getD settings.ptpEnabled
    requireLock := (extractBoolField json "requireLock".toList).getD settings.requireLock
    clockSourceKind :=
      (extractStringField json "clockSourceKind".toList).getD settings.clockSourceKind
    lockToDeviceUID :=
      (extractStringField json "lockToDeviceUID".toList).getD settings.lockToDeviceUID
    priority1 := intField json "priority1".toList settings.priority1
    priority2 := intField json "priority2".toList settings.priority2
    clockClass := intField json "clockClass".toList settings.clockClass
    clockAccuracy := intField json "clockAccuracy".toList settings.clockAccuracy
    logSyncInterval := migrateLogInterval json syncMsKey syncLogKey settings.logSyncInterval
    logAnnounceInterval :=
      migrateLogInterval json announceMsKey announceLogKey settings.logAnnounceInterval
    delayReqIntervalMs := intField json "delayReqIntervalMs".toList settings.delayReqIntervalMs
    delayMechanism :=
      (extractStringField json "delayMechanism".toList).getD settings.delayMechanism
    dscp := intField json "dscp".toList settings.dscp }

/-- `load`: the defaults where there is no file. -/
def load (file : Option Text) : PTPMasterSettings :=
  match file with
  | some json => settingsOf json
  | none => {}

/-- The fields `save` writes. -/
def entries (settings : PTPMasterSettings) : List (Text × Text) :=
  [("version".toList, quote "1.0".toList),
    ("masterCapable".toList, showBool settings.masterCapable),
    ("ptpEnabled".toList, showBool settings.ptpEnabled),
    ("requireLock".toList, showBool settings.requireLock),
    ("clockSourceKind".toList, quote settings.clockSourceKind),
    ("lockToDeviceUID".toList, quote settings.lockToDeviceUID),
    ("priority1".toList, showInt settings.priority1.toInt),
    ("priority2".toList, showInt settings.priority2.toInt),
    ("clockClass".toList, showInt settings.clockClass.toInt),
    ("clockAccuracy".toList, showInt settings.clockAccuracy.toInt),
    (syncLogKey, showInt settings.logSyncInterval.toInt),
    (announceLogKey, showInt settings.logAnnounceInterval.toInt),
    (syncMsKey, showInt (roundedMs settings.logSyncInterval)),
    (announceMsKey, showInt (roundedMs settings.logAnnounceInterval)),
    ("delayReqIntervalMs".toList, showInt settings.delayReqIntervalMs.toInt),
    ("delayMechanism".toList, quote settings.delayMechanism),
    ("dscp".toList, showInt settings.dscp.toInt)]

/-- The file `save` writes. -/
def save (settings : PTPMasterSettings) : Text := objectJSON 0 (entries settings) ++ ['\n']

/-! ## What is read back -/

variable {settings : PTPMasterSettings} {json msKey logKey : Text} {current : Int8}

/-- The names of the fields `save` writes. -/
def names : List Text := (entries {}).map Prod.fst

theorem isName_of_mem_names : ∀ f ∈ names, IsName f := by decide +kernel

theorem entries_fst (settings : PTPMasterSettings) : (entries settings).map Prod.fst = names := by
  simp only [names, entries, List.map_cons, List.map_nil]

theorem simple_entries : ∀ e ∈ entries settings, (∃ s, e.2 = quote s) ∨ '"' ∉ e.2 := by
  have hb : ∀ b, '"' ∉ showBool b := StreamConfigManager.not_mem_showBool (by decide)
  have hi : ∀ z, '"' ∉ showInt z := fun z => StreamConfigManager.not_mem_showInt rfl (by decide)
  simp only [entries, List.forall_mem_cons, List.not_mem_nil, IsEmpty.forall_iff, implies_true,
    and_true]
  exact ⟨.inl ⟨_, rfl⟩, .inr (hb _), .inr (hb _), .inr (hb _), .inl ⟨_, rfl⟩, .inl ⟨_, rfl⟩,
    .inr (hi _), .inr (hi _), .inr (hi _), .inr (hi _), .inr (hi _), .inr (hi _), .inr (hi _),
    .inr (hi _), .inr (hi _), .inl ⟨_, rfl⟩, .inr (hi _)⟩

theorem nodup_names : names.Nodup := by decide +kernel

theorem legible_entries (settings : PTPMasterSettings) : Legible names (entries settings) :=
  legible_of_simple (by rw [entries_fst]; exact nodup_names)
    (by rw [entries_fst]; exact isName_of_mem_names) isName_of_mem_names simple_entries

/-- An interval that is written under its second key is read from there, brought into the range. -/
theorem migrateLogInterval_of_some {v : ℤ} (h : extractIntField json logKey = some v) :
    migrateLogInterval json msKey logKey current = .ofInt (max (-9) (min v 21)) := by
  rw [migrateLogInterval, h]

theorem ofInt_clamp_iff : Int8.ofInt (max (-9) (min l.toInt 21)) = l ↔ Followed l := by
  rw [← Int8.toInt_inj, Int8.toInt_ofInt_of_le (by omega) (by omega), Followed]
  omega

/-- **A file that was written is read back** with its intervals brought into the range. -/
theorem settingsOf_save (settings : PTPMasterSettings) : settingsOf (save settings) =
    { settings with
      logSyncInterval := .ofInt (max (-9) (min settings.logSyncInterval.toInt 21))
      logAnnounceInterval := .ofInt (max (-9) (min settings.logAnnounceInterval.toInt 21)) } := by
  have hl := legible_entries settings
  have key : ∀ i g x, (entries settings)[i]? = some (g, x) → g ∈ names ∧ (g, x) ∈ entries settings :=
    fun i g x h => ⟨entries_fst settings ▸ List.mem_map.mpr ⟨_, List.mem_of_getElem? h, rfl⟩,
      List.mem_of_getElem? h⟩
  have hj : save settings = [] ++ (objectJSON 0 (entries settings) ++ ['\n']) := rfl
  have str : ∀ i g v, (entries settings)[i]? = some (g, quote v) →
      extractStringField (save settings) g = some v := fun i g v h => by
    rw [hj]
    exact hl.extractString (key i g _ h).1 (key i g _ h).2 (by simp)
  have bool : ∀ i g b, (entries settings)[i]? = some (g, showBool b) →
      extractBoolField (save settings) g = some b := fun i g b h => by
    rw [hj]
    exact hl.extractBool (key i g _ h).1 (key i g _ h).2 (by simp)
  have int : ∀ i g (n : Int32) d, (entries settings)[i]? = some (g, showInt n.toInt) →
      intField (save settings) g d = n := fun i g n d h => by
    rw [intField, hj, hl.extractInt (key i g _ h).1 (key i g _ h).2 (by simp) n.le_toInt n.toInt_lt,
      Option.map_some, Option.getD_some, Int32.ofInt_toInt]
  have log : ∀ i g (n : Int8), (entries settings)[i]? = some (g, showInt n.toInt) →
      extractIntField (save settings) g = some n.toInt := fun i g n h => by
    have h1 := n.le_toInt
    have h2 := n.toInt_lt
    rw [hj]
    exact hl.extractInt (key i g _ h).1 (key i g _ h).2 (by simp) (by omega) (by omega)
  simp only [settingsOf, bool 1 _ _ rfl, bool 2 _ _ rfl, bool 3 _ _ rfl, str 4 _ _ rfl,
    str 5 _ _ rfl, int 6 _ _ _ rfl, int 7 _ _ _ rfl, int 8 _ _ _ rfl, int 9 _ _ _ rfl,
    migrateLogInterval_of_some (log 10 _ _ rfl), migrateLogInterval_of_some (log 11 _ _ rfl),
    int 14 _ _ _ rfl, str 15 _ _ rfl, int 16 _ _ _ rfl, Option.getD_some]

/-- **The round trip.** -/
theorem load_save_iff : load (some (save settings)) = settings ↔
    Followed settings.logSyncInterval ∧ Followed settings.logAnnounceInterval := by
  rw [load, settingsOf_save, ← ofInt_clamp_iff, ← ofInt_clamp_iff]
  constructor
  · intro h
    exact ⟨congrArg PTPMasterSettings.logSyncInterval h,
      congrArg PTPMasterSettings.logAnnounceInterval h⟩
  · rintro ⟨h1, h2⟩
    rw [h1, h2]

/-- An interval is said in milliseconds only, and as one. -/
def OneMs (json msKey logKey : Text) : Prop :=
  extractIntField json msKey = some 1 ∧ extractIntField json logKey = none

theorem followed_migrateLogInterval (h : Followed current) :
    Followed (migrateLogInterval json msKey logKey current) ↔ ¬ OneMs json msKey logKey := by
  unfold migrateLogInterval OneMs
  cases hlog : extractIntField json logKey with
  | some v =>
    rw [Followed, Int8.toInt_ofInt_of_le (by omega) (by omega)]
    simp only [reduceCtorEq, and_false, not_false_eq_true, iff_true]
    omega
  | none =>
    cases hms : extractIntField json msKey with
    | some v =>
      obtain ⟨text, -, hv⟩ := Option.bind_eq_some_iff.mp hms
      have hlt : v < 2 ^ 31 := (stoSigned_eq_some.mp hv).2.2
      simp [msToLogInterval_iff hlt]
    | none => simpa using h

theorem logSyncInterval_load : (load (some json)).logSyncInterval =
    migrateLogInterval json syncMsKey syncLogKey (-3) := rfl

theorem logAnnounceInterval_load : (load (some json)).logAnnounceInterval =
    migrateLogInterval json announceMsKey announceLogKey 0 := rfl

/-- **What a file gives can be sent and is kept**, just when neither interval is said in milliseconds
only, and as one. -/
theorem sendable_iff (json : Text) :
    (0 < (load (some json)).syncPeriod ∧ 0 < (load (some json)).announcePeriod ∧
      load (some (save (load (some json)))) = load (some json)) ↔
    ¬ OneMs json syncMsKey syncLogKey ∧ ¬ OneMs json announceMsKey announceLogKey := by
  have hsync : Followed (load (some json)).logSyncInterval ↔ ¬ OneMs json syncMsKey syncLogKey := by
    rw [logSyncInterval_load]
    exact followed_migrateLogInterval (by decide)
  have hannounce : Followed (load (some json)).logAnnounceInterval ↔
      ¬ OneMs json announceMsKey announceLogKey := by
    rw [logAnnounceInterval_load]
    exact followed_migrateLogInterval (by decide)
  rw [load_save_iff, PTPMasterSettings.syncPeriod, PTPMasterSettings.announcePeriod,
    period_pos_iff, period_pos_iff, hsync, hannounce]
  exact ⟨fun h => h.2.2, fun h => ⟨h.1, h.2, h⟩⟩

/-- A file that says one interval in milliseconds, as an older build wrote it. -/
def oneMsFile : Text := "\x7b \"syncIntervalMs\": 1 \x7d".toList

theorem oneMs_oneMsFile : OneMs oneMsFile syncMsKey syncLogKey := by
  constructor <;> decide

theorem oneMsFile_not_sendable :
    (load (some oneMsFile)).syncPeriod = 0 ∧
      load (some (save (load (some oneMsFile)))) ≠ load (some oneMsFile) := by
  have hnot : ¬ Followed (load (some oneMsFile)).logSyncInterval := by
    rw [logSyncInterval_load, followed_migrateLogInterval (by decide), not_not]
    exact oneMs_oneMsFile
  refine ⟨?_, fun h => hnot (load_save_iff.mp h).1⟩
  have hle : ¬ 0 < (load (some oneMsFile)).syncPeriod := fun h => hnot (period_pos_iff.mp h)
  have hge : 0 ≤ (load (some oneMsFile)).syncPeriod := Int.natCast_nonneg _
  omega

end PTPMasterSettingsManager

end Aes67
