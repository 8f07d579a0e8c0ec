import Aes67.Core.JsonSearch

/-!
# The settings of the NMOS node

`NMOSSettingsManager` keeps its settings in a small JSON file. The strings are written by the shared
`jsonEscape`, and read by a scanner that finds a key wherever it stands in the text, and takes what
follows a backslash as it is.

* `extractString`, `generateNodeId`, `load`, `save`;
* `behind`: what stands behind the first occurrence of a text;
* `decomposition_of_quote`: where the quotes of a written string come from;
* `behind_quoted`: a string is taken for a key just when it ends in one;
* **`kept_iff`**: the settings survive any number of restarts just when their strings have no
  control characters, and no label that ends in a key has another value read for its own.
-/

namespace Aes67

structure NMOSSettings where
  enabled : Bool := false
  label : Text := []
  nodeId : Text := []
  registryOverride : Text := []
  deriving DecidableEq

namespace NMOSSettingsManager

/-! ## The file -/

/-- The loop of `extractString`: the text up to a quote, what follows a backslash as it is. -/
def scanned : Text → Text
  | [] => []
  | '"' :: _ => []
  | '\\' :: c :: s => c :: scanned s
  | c :: s => c :: scanned s

/-- What `extractString` takes from behind a key. -/
def valueBehind (s : Text) : Text :=
  match cut [':'] s with
  | none => []
  | some (_, s) =>
    match cut ['"'] s with
    | none => []
    | some (_, s) => scanned s

/-- A key in its quotes. -/
def needle (key : Text) : Text := '"' :: key ++ ['"']

def extractString (json key : Text) : Text :=
  match cut (needle key) json with
  | none => []
  | some (_, s) => valueBehind s

/-- `%02x`. -/
def hexPair (b : UInt8) : Text := [Nat.digitChar (b.toNat / 16), Nat.digitChar (b.toNat % 16)]

/-- A version 4 UUID of sixteen random bytes. -/
def generateNodeId (source : Fin 16 → UInt8) : Text :=
  let bytes : Fin 16 → UInt8 := fun i =>
    if i = 6 then (source 6 &&& 0x0F) ||| 0x40
    else if i = 8 then (source 8 &&& 0x3F) ||| 0x80
    else source i
  let group (l : List (Fin 16)) : Text := l.flatMap fun i => hexPair (bytes i)
  group [0, 1, 2, 3] ++ '-' :: group [4, 5] ++ '-' :: group [6, 7] ++ '-' :: group [8, 9] ++
    '-' :: group [10, 11, 12, 13, 14, 15]

/-- `load`: a file that is not there leaves the defaults. -/
def load : Option Text → NMOSSettings
  | none => { }
  | some json =>
    { enabled := (extractBoolField json "enabled".toList).getD false
      label := extractString json "label".toList
      nodeId := extractString json "nodeId".toList
      registryOverride := extractString json "registryOverride".toList }

/-- The lines of the file up to the label. -/
def opening (enabled : Bool) : Text :=
  "\x7b\n  \"version\": \"1.0\",\n  \"enabled\": ".toList ++
    (if enabled then "true" else "false").toList ++ ",\n  ".toList

/-- A string under its key. -/
def entry (key value : Text) : Text :=
  '"' :: key ++ "\": ".toList ++ '"' :: jsonEscape value ++ ['"']

/-- The file `save` writes. -/
def written (settings : NMOSSettings) : Text :=
  opening settings.enabled ++ (entry "label".toList settings.label ++ (",\n  ".toList ++
    (entry "nodeId".toList settings.nodeId ++ (",\n  ".toList ++
      (entry "registryOverride".toList settings.registryOverride ++ "\n\x7d\n".toList)))))

/-- The id a node has: its own, or the one generated for it. -/
def nodeIdOf (source : Fin 16 → UInt8) (settings : NMOSSettings) : Text :=
  if settings.nodeId = [] then generateNodeId source else settings.nodeId

/-- `save`: the settings as they are left with the caller, and the file. -/
def save (source : Fin 16 → UInt8) (settings : NMOSSettings) : NMOSSettings × Text :=
  let settings := { settings with nodeId := nodeIdOf source settings }
  (settings, written settings)

/-! ## Searching -/

variable {pat p q s t v k : Text} {c : Char}

/-- What stands behind the first occurrence of `pat`. -/
def behind (pat s : Text) : Option Text := (cut pat s).map Prod.snd

theorem behind_cons (h : ¬ pat <+: c :: s) : behind pat (c :: s) = behind pat s := by
  rw [behind, cut, if_neg (by rwa [List.isPrefixOf_iff_prefix]), Option.map_map]
  rfl

theorem behind_self (h : pat ≠ []) (s : Text) : behind pat (pat ++ s) = some s := by
  rw [behind, cut_append h]
  rfl

/-- A search passes a text in which no occurrence starts. -/
theorem behind_append (h : ∀ q, q <:+ p → q ≠ [] → ¬ pat <+: q ++ s) :
    behind pat (p ++ s) = behind pat s := by
  induction p with
  | nil => rfl
  | cons c p ih =>
    have hhere : ¬ pat <+: c :: (p ++ s) := h (c :: p) List.suffix_rfl (List.cons_ne_nil c p)
    rw [List.cons_append, behind_cons hhere]
    exact ih fun q hq => h q (hq.trans (List.suffix_cons c p))

/-- No suffix of the text can start an occurrence, whatever follows. -/
def passes (pat p : Text) : Bool :=
  p.tails.all fun q => q.isEmpty || !(pat.isPrefixOf q || q.isPrefixOf pat)

theorem behind_of_passes (h : passes pat p = true) (s : Text) :
    behind pat (p ++ s) = behind pat s := by
  refine behind_append fun q hq hne hpre => ?_
  have hpass := List.all_eq_true.mp h q ((List.mem_tails q p).mpr hq)
  rw [Bool.or_eq_true, List.isEmpty_iff, Bool.not_eq_true', Bool.or_eq_false_iff] at hpass
  obtain ⟨h1, h2⟩ := hpass.resolve_left hne
  rw [← Bool.not_eq_true, List.isPrefixOf_iff_prefix] at h1 h2
  rcases List.prefix_or_prefix_of_prefix hpre (List.prefix_append q s) with hq | hq
  · exact h1 hq
  · exact h2 hq

theorem extractString_eq (json key : Text) : extractString json key =
    ((behind (needle key) json).map valueBehind).getD [] := by
  rw [extractString, behind]
  cases cut (needle key) json <;> rfl

/-! ## What is scanned -/

/-- What the scanner makes of a character that was written. -/
def unslashed (c : Char) : Text :=
  match escapeChar c with
  | '\\' :: s => s
  | s => s

theorem scanned_escapeChar (c : Char) (s : Text) :
    scanned (escapeChar c ++ s) = unslashed c ++ scanned s := by
  have hplain : ∀ r : Text, '"' ∉ r → '\\' ∉ r → scanned (r ++ s) = r ++ scanned s := by
    intro r hq hb
    induction r with
    | nil => rfl
    | cons d r ih =>
      rw [List.mem_cons, not_or] at hq hb
      rw [List.cons_append, scanned, ih hq.2 hb.2, List.cons_append]
      · rintro rfl
        exact hq.1 rfl
      · rintro _ _ rfl
        exact absurd rfl hb.1
  rcases escapeChar_cases c with ⟨he, hq, hb⟩ | ⟨e, r, he, -, -, hq, hb, -⟩
  · have hun : unslashed c = [c] := by
      rw [unslashed, he]
      split
      · next h => exact absurd (List.cons.inj h).1 hb
      · rfl
    rw [he, hun]
    exact hplain [c] (by simpa using Ne.symm hq) (by simpa using Ne.symm hb)
  · rw [unslashed, he]
    simp only [List.cons_append, scanned, hplain r hq hb]

theorem scanned_jsonEscape (v s : Text) :
    scanned (jsonEscape v ++ '"' :: s) = v.flatMap unslashed := by
  induction v with
  | nil => rfl
  | cons c v ih =>
    rw [jsonEscape_cons, List.append_assoc, scanned_escapeChar, ih, List.flatMap_cons]

/-- No control characters. -/
def Printable (v : Text) : Prop := ∀ c ∈ v, 0x20 ≤ c.toNat

instance (v : Text) : Decidable (Printable v) := List.decidableBAll _ v

theorem unslashed_of_le (h : 0x20 ≤ c.toNat) : unslashed c = [c] := by
  unfold unslashed escapeChar
  split
  · next he =>
    split at he
    case h_8 => rw [if_neg (by omega)] at he; simp_all
    all_goals simp_all
  · next he =>
    split
    case h_8 => rw [if_neg (by omega)]
    all_goals simp_all

/-- A control character is read as a letter. -/
theorem head_unslashed_ne (h : c.toNat < 0x20) : ∃ e r, unslashed c = e :: r ∧ e ≠ c := by
  have hall : ∀ n < 0x20, ((unslashed (Char.ofNat n)).head?.any (· ≠ Char.ofNat n)) = true := by
    decide
  have hc := hall c.toNat h
  rw [Char.ofNat_toNat] at hc
  cases hu : unslashed c with
  | nil => rw [hu] at hc; cases hc
  | cons e r =>
    rw [hu] at hc
    exact ⟨e, r, rfl, of_decide_eq_true hc⟩

/-- **A string is read as it was just when it is printable.** -/
theorem unslashed_eq_iff (v : Text) : v.flatMap unslashed = v ↔ Printable v := by
  induction v with
  | nil => exact iff_of_true rfl fun c hc => absurd hc List.not_mem_nil
  | cons c v ih =>
    rw [List.flatMap_cons, Printable, List.forall_mem_cons]
    rcases Nat.lt_or_ge c.toNat 0x20 with hc | hc
    · obtain ⟨e, r, he, hne⟩ := head_unslashed_ne hc
      refine iff_of_false (fun h => ?_) fun h => absurd h.1 (by omega)
      rw [he] at h
      exact hne (List.cons.inj h).1
    · rw [unslashed_of_le hc, List.singleton_append, List.cons.injEq, and_iff_right rfl,
        and_iff_right hc]
      exact ih

/-! ## Quotes -/

theorem decomposition_of_escapeChar {a b : Text} (h : escapeChar c = a ++ '"' :: b) :
    c = '"' ∧ a = ['\\'] ∧ b = [] := by
  rcases escapeChar_cases c with ⟨he, hq, -⟩ | ⟨e, r, he, -, -, hr, -⟩
  · have hmem : '"' ∈ escapeChar c := by simp [h]
    rw [he, List.mem_singleton] at hmem
    exact absurd hmem.symm hq
  · have hmem : '"' ∈ '\\' :: e :: r := by simp [← he, h]
    have hee : e = '"' := by simpa [hr, eq_comm] using hmem
    subst hee
    -- What undoes the escape finds the quote in it.
    have hread : jsonUnescape (escapeChar c ++ []) = c :: jsonUnescape [] := jsonUnescape_escapeChar
    rw [he] at hread
    have hc : c = '"' := by
      simp only [List.append_nil, jsonUnescape, List.cons.injEq] at hread
      exact hread.1.symm
    subst hc
    have hself : ['\\', '"'] = a ++ '"' :: b := h
    rcases a with _ | ⟨x, _ | ⟨y, a⟩⟩
    · cases hself
    · cases hself
      exact ⟨rfl, rfl, rfl⟩
    · simp at hself

/-- **A quote of a written string is one of the string.** -/
theorem decomposition_of_quote {a b : Text} (h : jsonEscape v = a ++ '"' :: b) :
    ∃ v₁ v₂, v = v₁ ++ '"' :: v₂ ∧ a = jsonEscape v₁ ++ ['\\'] ∧ b = jsonEscape v₂ := by
  induction v generalizing a with
  | nil => simp [jsonEscape] at h
  | cons c v ih =>
    rw [jsonEscape_cons] at h
    rcases List.append_eq_append_iff.mp h with ⟨a', rfl, h'⟩ | ⟨b', he, h'⟩
    · obtain ⟨v₁, v₂, rfl, rfl, rfl⟩ := ih h'
      exact ⟨c :: v₁, v₂, rfl, by rw [jsonEscape_cons, List.append_assoc], rfl⟩
    · rcases b' with _ | ⟨x, b'⟩
      · obtain ⟨v₁, v₂, -, hnil, -⟩ := ih (a := []) h'.symm
        simp at hnil
      · obtain ⟨rfl, rfl⟩ := List.cons.inj h'
        obtain ⟨rfl, rfl, rfl⟩ := decomposition_of_escapeChar he
        exact ⟨[], v, rfl, rfl, rfl⟩

/-- The string ends as its quoted form does in the key of `k`. -/
def Imitates (k v : Text) : Prop := '"' :: k <:+ '"' :: v

instance (k v : Text) : Decidable (Imitates k v) :=
  decidable_of_iff (('"' :: k).isSuffixOf ('"' :: v) = true) List.isSuffixOf_iff_suffix

theorem jsonEscape_injective : Function.Injective jsonEscape := fun a b h => by
  rw [← jsonUnescape_jsonEscape a, h, jsonUnescape_jsonEscape]

/-- Writing a string keeps what it imitates. -/
theorem imitates_jsonEscape (hk : jsonEscape k = k) : Imitates k (jsonEscape v) ↔ Imitates k v := by
  have hsuffix : ∀ u : Text, Imitates k u ↔ k = u ∨ ∃ p, u = p ++ '"' :: k := by
    intro u
    rw [Imitates, List.suffix_cons_iff, List.cons.injEq, and_iff_right rfl]
    exact or_congr_right ⟨fun ⟨p, hp⟩ => ⟨p, hp.symm⟩, fun ⟨p, hp⟩ => ⟨p, hp.symm⟩⟩
  rw [hsuffix, hsuffix]
  refine or_congr ⟨fun h => ?_, fun h => ?_⟩ ⟨?_, ?_⟩
  · exact jsonEscape_injective (hk.trans h)
  · rw [← h, hk]
  · rintro ⟨p, hp⟩
    obtain ⟨v₁, v₂, rfl, -, h⟩ := decomposition_of_quote hp
    exact ⟨v₁, by rw [jsonEscape_injective (h.symm.trans hk.symm)]⟩
  · rintro ⟨p, rfl⟩
    exact ⟨jsonEscape p ++ ['\\'], by
      rw [jsonEscape, List.flatMap_append, ← jsonEscape, List.flatMap_cons, ← jsonEscape, hk,
        List.append_assoc]
      rfl⟩

/-! ## Keys in strings -/

/-- A key that starts in a string ends with it. -/
theorem eq_of_needle_isPrefix (hk : IsName k) (hq : q <:+ '"' :: jsonEscape v) (hne : q ≠ [])
    (hpre : needle k <+: q ++ '"' :: s) : q = '"' :: k := by
  obtain ⟨x, w, rfl⟩ := List.exists_cons_of_ne_nil hne
  obtain ⟨r, hr⟩ := hpre
  have hw : w <:+ jsonEscape v := by
    rcases List.suffix_cons_iff.mp hq with he | he
    · rw [(List.cons.inj he).2]
    · exact (List.suffix_cons x w).trans he
  simp only [needle, List.cons_append, List.append_assoc, List.nil_append, List.cons.injEq] at hr
  obtain ⟨rfl, he⟩ := hr
  rcases List.append_eq_append_iff.mp he with ⟨a, rfl, h⟩ | ⟨a, rfl, h⟩
  · rcases a with _ | ⟨y, a⟩
    · rw [List.append_nil]
    · rw [List.cons_append, List.cons.injEq] at h
      exact (hk.not_last (last_of_suffix hw (by rw [h.1]) hk.ne)).elim
  · rcases a with _ | ⟨y, a⟩
    · rw [List.append_nil]
    · rw [List.cons_append, List.cons.injEq] at h
      exact absurd (h.1 ▸ List.mem_append_right _ List.mem_cons_self) hk.quote_not_mem

theorem behind_needle_self (k s : Text) : behind (needle k) (needle k ++ s) = some s :=
  behind_self (List.cons_ne_nil _ _) s

theorem behind_of_not_mem (h : '"' ∉ p) (k s : Text) :
    behind (needle k) (p ++ s) = behind (needle k) s := by
  rw [needle, List.cons_append, behind, cut_append_of_not_mem h, Option.map_map]
  rfl

/-- **A string is taken for a key just when it ends in one.** -/
theorem behind_quoted (hk : IsName k) (hself : jsonEscape k = k) (v s : Text) :
    behind (needle k) ('"' :: jsonEscape v ++ '"' :: ',' :: s) =
      if Imitates k v then some (',' :: s) else behind (needle k) (',' :: s) := by
  split_ifs with him
  · obtain ⟨p, hp⟩ := (imitates_jsonEscape hself).mpr him
    have hsplit : '"' :: jsonEscape v ++ '"' :: ',' :: s = p ++ (needle k ++ ',' :: s) := by
      rw [← hp]
      simp [needle]
    rw [hsplit, behind_append, behind_needle_self]
    intro q hq hne hpre
    have hend : q ++ '"' :: k <:+ '"' :: jsonEscape v := by
      obtain ⟨u, rfl⟩ := hq
      exact ⟨u, by rw [← hp, List.append_assoc]⟩
    have hwhole : q ++ '"' :: k = '"' :: k :=
      @eq_of_needle_isPrefix _ (',' :: s) v k hk hend (by simp) (by simpa [needle] using hpre)
    exact hne (List.append_left_eq_self.mp hwhole)
  · have hstring : behind (needle k) ('"' :: jsonEscape v ++ '"' :: ',' :: s) =
        behind (needle k) ('"' :: ',' :: s) := by
      refine behind_append fun q hq hne hpre => him ?_
      rw [← imitates_jsonEscape hself, Imitates, ← eq_of_needle_isPrefix hk hq hne hpre]
      exact hq
    rw [hstring, behind_cons]
    rintro ⟨r, hr⟩
    -- The key would have to go on with a comma.
    obtain ⟨c, k', rfl⟩ := List.exists_cons_of_ne_nil hk.ne
    simp only [needle, List.cons_append, List.cons.injEq, true_and] at hr
    obtain ⟨rfl, -⟩ := hr
    exact absurd (hk.isPlain List.mem_cons_self) (by decide)

/-! ## Reading the file -/

section File

variable {source : Fin 16 → UInt8} {settings : NMOSSettings}

/-- A value is read across whatever has no colon. -/
theorem valueBehind_eq (h : ':' ∉ p) (v s : Text) :
    valueBehind (p ++ ':' :: ' ' :: '"' :: (jsonEscape v ++ '"' :: s)) = v.flatMap unslashed := by
  have hquote : cut ['"'] (' ' :: '"' :: (jsonEscape v ++ '"' :: s)) =
      some ([' '], jsonEscape v ++ '"' :: s) := @cut_char '"' [' '] (by decide) _
  rw [valueBehind, cut_char h]
  dsimp only
  rw [hquote]
  exact scanned_jsonEscape v s

theorem entry_append (k v s : Text) : entry k v ++ s =
    needle k ++ ':' :: ' ' :: '"' :: (jsonEscape v ++ '"' :: s) := by
  simp [entry, needle]

/-- What has no colon, and then an entry. -/
theorem valueBehind_entry (h : ':' ∉ p ++ needle k) (v s : Text) :
    valueBehind (p ++ (entry k v ++ s)) = v.flatMap unslashed := by
  rw [entry_append, ← List.append_assoc]
  exact valueBehind_eq h v s

theorem behind_entry_self (k v s : Text) : behind (needle k) (entry k v ++ s) =
    some (':' :: ' ' :: '"' :: (jsonEscape v ++ '"' :: s)) := by
  rw [entry_append, behind_needle_self]

theorem behind_entry {k' : Text} (hk : IsName k) (hself : jsonEscape k = k)
    (hpass : passes (needle k) ('"' :: k' ++ "\": ".toList) = true) (v s : Text) :
    behind (needle k) (entry k' v ++ (",\n  ".toList ++ s)) =
      if Imitates k v then some (",\n  ".toList ++ s) else behind (needle k) s := by
  have hsplit : entry k' v ++ (",\n  ".toList ++ s) = '"' :: k' ++ "\": ".toList ++
      ('"' :: jsonEscape v ++ '"' :: ',' :: (['\n', ' ', ' '] ++ s)) := by
    simp [entry]
  have hcomma : behind (needle k) (",\n  ".toList ++ s) = behind (needle k) s :=
    behind_of_not_mem (by decide) k s
  rw [hsplit, behind_of_passes hpass, behind_quoted hk hself, ← hcomma]
  rfl

theorem passes_opening (enabled : Bool) :
    passes (needle "label".toList) (opening enabled) = true ∧
      passes (needle "nodeId".toList) (opening enabled) = true ∧
      passes (needle "registryOverride".toList) (opening enabled) = true := by
  cases enabled <;> decide

theorem enabled_written : extractBoolField (written settings) "enabled".toList =
    some settings.enabled := by
  rw [written]
  cases settings.enabled <;> rfl

theorem label_written : extractString (written settings) "label".toList =
    settings.label.flatMap unslashed := by
  have hopening := behind_of_passes (passes_opening settings.enabled).1
  rw [extractString_eq, written, hopening, behind_entry_self]
  exact @valueBehind_eq [] List.not_mem_nil _ _

/-- A label that ends in this key has the next value read, which is the right one. -/
theorem nodeId_written : extractString (written settings) "nodeId".toList =
    settings.nodeId.flatMap unslashed := by
  have hopening := behind_of_passes (passes_opening settings.enabled).2.1
  have hnext : ':' ∉ ",\n  ".toList ++ needle "nodeId".toList := by decide
  rw [extractString_eq, written, hopening, behind_entry (by decide) (by decide) (by decide)]
  split_ifs
  · exact valueBehind_entry hnext _ _
  · rw [behind_entry_self]
    exact @valueBehind_eq [] List.not_mem_nil _ _

/-- A label that ends in this key has the next value read, and that is the id of the node. -/
theorem registryOverride_written : extractString (written settings) "registryOverride".toList =
    if Imitates "registryOverride".toList settings.label then settings.nodeId.flatMap unslashed
    else settings.registryOverride.flatMap unslashed := by
  have hopening := behind_of_passes (passes_opening settings.enabled).2.2
  have hnode : ':' ∉ ",\n  ".toList ++ needle "nodeId".toList := by decide
  have hregistry : ':' ∉ ",\n  ".toList ++ needle "registryOverride".toList := by decide
  rw [extractString_eq, written, hopening, behind_entry (by decide) (by decide) (by decide)]
  split_ifs
  · exact valueBehind_entry hnode _ _
  · rw [behind_entry (by decide) (by decide) (by decide)]
    split_ifs
    · exact valueBehind_entry hregistry _ _
    · rw [behind_entry_self]
      exact @valueBehind_eq [] List.not_mem_nil _ _

end File

/-! ## Restarts -/

/-- A restart: what has been saved is loaded. -/
def restart (settings : NMOSSettings) (source : Fin 16 → UInt8) : NMOSSettings :=
  load (some (save source settings).2)

/-- **What survives**: printable strings, and a label that is not taken for the key of the registry,
unless the registry is named as the node. -/
structure Lasting (source : Fin 16 → UInt8) (settings : NMOSSettings) : Prop where
  label : Printable settings.label
  nodeId : Printable settings.nodeId
  registryOverride : Printable settings.registryOverride
  imitated : Imitates "registryOverride".toList settings.label →
    settings.registryOverride = nodeIdOf source settings

variable {source : Fin 16 → UInt8} {settings : NMOSSettings}

theorem printable_hexPair (b : UInt8) : Printable (hexPair b) := by
  have hdigit : ∀ n < 16, 0x20 ≤ (Nat.digitChar n).toNat := by decide
  have hb : b.toNat < 256 := b.toNat_lt
  intro c hc
  rcases List.mem_pair.mp hc with rfl | rfl
  · exact hdigit _ (by omega)
  · exact hdigit _ (by omega)

theorem printable_generateNodeId (source : Fin 16 → UInt8) : Printable (generateNodeId source) := by
  intro c hc
  simp only [generateNodeId, List.mem_append, List.mem_cons, List.mem_flatMap] at hc
  rcases hc with (((hc | rfl | hc) | rfl | hc) | rfl | hc) | rfl | hc
  all_goals first
    | decide
    | obtain ⟨i, -, hi⟩ := hc
      exact printable_hexPair _ c hi

theorem generateNodeId_ne_nil (source : Fin 16 → UInt8) : generateNodeId source ≠ [] := by
  simp [generateNodeId]

theorem nodeIdOf_ne_nil : nodeIdOf source settings ≠ [] := by
  rw [nodeIdOf]
  split_ifs with h
  · exact generateNodeId_ne_nil source
  · exact h

theorem printable_nodeIdOf : Printable (nodeIdOf source settings) ↔ Printable settings.nodeId := by
  rw [nodeIdOf]
  split_ifs with h
  · rw [h]
    exact iff_of_true (printable_generateNodeId source) fun c hc => absurd hc List.not_mem_nil
  · rfl

/-- What a restart makes of the settings. -/
theorem restart_eq : restart settings source =
    { enabled := settings.enabled
      label := settings.label.flatMap unslashed
      nodeId := (nodeIdOf source settings).flatMap unslashed
      registryOverride := if Imitates "registryOverride".toList settings.label
        then (nodeIdOf source settings).flatMap unslashed
        else settings.registryOverride.flatMap unslashed } := by
  rw [restart, save, load, enabled_written, label_written, nodeId_written,
    registryOverride_written]
  rfl

/-- **One restart keeps the settings** just when they last. -/
theorem restart_eq_iff : restart settings source = (save source settings).1 ↔
    Lasting source settings := by
  rw [restart_eq, save, NMOSSettings.mk.injEq, and_iff_right rfl, unslashed_eq_iff,
    unslashed_eq_iff, printable_nodeIdOf]
  constructor
  · rintro ⟨hlabel, hnode, hregistry⟩
    have hid := (unslashed_eq_iff _).mpr ((@printable_nodeIdOf source settings).mpr hnode)
    split_ifs at hregistry with him
    · rw [hid] at hregistry
      refine ⟨hlabel, hnode, ?_, fun _ => hregistry.symm⟩
      rw [← hregistry]
      exact printable_nodeIdOf.mpr hnode
    · exact ⟨hlabel, hnode, (unslashed_eq_iff _).mp hregistry, fun h => absurd h him⟩
  · rintro ⟨hlabel, hnode, hregistry, himitated⟩
    refine ⟨hlabel, hnode, ?_⟩
    split_ifs with him
    · rw [himitated him]
      exact (unslashed_eq_iff _).mpr (printable_nodeIdOf.mpr hnode)
    · exact (unslashed_eq_iff _).mpr hregistry

/-- What is saved has an id, and lasts from then on. -/
theorem Lasting.saved (h : Lasting source settings) (source' : Fin 16 → UInt8) :
    Lasting source' (save source settings).1 ∧
      (save source' (save source settings).1).1 = (save source settings).1 := by
  have hid : nodeIdOf source' (save source settings).1 = nodeIdOf source settings :=
    if_neg nodeIdOf_ne_nil
  refine ⟨⟨h.label, printable_nodeIdOf.mpr h.nodeId, h.registryOverride, fun him => ?_⟩, ?_⟩
  · rw [hid]
    exact h.imitated him
  · rw [save, hid]
    rfl

/-- **The settings survive every restart, or do not survive the first.** -/
theorem kept_iff (settings : NMOSSettings) (source : Fin 16 → UInt8) :
    (∀ later, (source :: later).foldl restart settings = (save source settings).1) ↔
      Lasting source settings := by
  refine ⟨fun h => restart_eq_iff.mp (h []), fun h later => ?_⟩
  rw [List.foldl_cons, restart_eq_iff.mpr h]
  induction later with
  | nil => rfl
  | cons source' later ih =>
    obtain ⟨hlasting, hsame⟩ := h.saved source'
    rw [List.foldl_cons, restart_eq_iff.mpr hlasting, hsame]
    exact ih

/-- A label that is taken for the key behind it. -/
def namedAlike : NMOSSettings := { label := "registryOverride".toList }

def twoLines : NMOSSettings := { label := "two\nlines".toList }

/-- The one has the id read for its registry, the other comes back on one line. -/
theorem not_kept :
    (¬ ∀ later, ((fun _ => 0) :: later).foldl restart namedAlike =
      (save (fun _ => 0) namedAlike).1) ∧
    ¬ ∀ later, ((fun _ => 0) :: later).foldl restart twoLines =
      (save (fun _ => 0) twoLines).1 := by
  have hread : (restart namedAlike fun _ => 0).registryOverride ≠ [] := by
    rw [restart_eq]
    decide
  have hline : (restart twoLines fun _ => 0).label = "twonlines".toList := by
    rw [restart_eq]
    decide
  refine ⟨fun h => hread ?_, fun h => ?_⟩
  · exact congrArg NMOSSettings.registryOverride (h [])
  · have hlabel := congrArg NMOSSettings.label (h [])
    exact absurd (hline.symm.trans hlabel) (by decide)

end NMOSSettingsManager

end Aes67
