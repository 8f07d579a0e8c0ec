import Aes67.Core.JsonObject
import Aes67.Mapper.Owners

/-!
# The saved file

`toJSON` writes the mappings, and `fromJSON` reads them into a mapper it has emptied. A name goes
into the file as it is, where the other writers escape it, though the readers undo an escape; an
entry ends for the reader at the first closing brace; and the routes are not written.

* `Mapper.toJSON` and `ChannelMapping.fields`;
* `KeptName`, `ChannelMapping.Kept`: the names and the mappings that come back;
* `readEntry_fields`, `entryBlocks_toJSON`: each block reads as its mapping;
* **`always_restored`**: a run that only stores mappings of that kind, under identifiers of their
  own, can be saved and loaded at any point;
* **`not_always_restored`**: a routed mapping comes back as a block.
-/

namespace Aes67

variable {f lead name s t v : Text} {value : Text → Option Text}

/-! ## Writing -/

/-- The fields `toJSON` writes of a mapping. -/
def ChannelMapping.fields (m : ChannelMapping) : List (Text × Text) :=
  [("streamID".toList, '"' :: m.streamID.toString ++ ['"']),
   ("streamName".toList, '"' :: m.streamName ++ ['"']),
   ("streamChannelCount".toList, showNat m.streamChannelCount),
   ("streamChannelOffset".toList, showNat m.streamChannelOffset),
   ("deviceChannelStart".toList, showNat m.deviceChannelStart),
   ("deviceChannelCount".toList, showNat m.deviceChannelCount)]

/-- `toJSON`. -/
def Mapper.toJSON (m : Mapper) : Text :=
  "\x7b\n  \"mappings\": [\n".toList ++
    List.intercalate ",\n".toList (m.mappings.values.map fun mapping =>
      "    ".toList ++ objectJSON 4 mapping.fields) ++
    "\n  ]\n\x7d".toList

/-! ## Names written as they are -/

/-- A name that reads back as itself from between two quotes, without the brace the reader ends an
entry at. -/
structure KeptName (name : Text) : Prop where
  quote : '"' ∉ name
  brace : '\x7d' ∉ name
  scan : scanString (name ++ ['"']) = some name
  unescape : jsonUnescape name = name

instance (name : Text) : Decidable (KeptName name) :=
  decidable_of_iff ('"' ∉ name ∧ '\x7d' ∉ name ∧ scanString (name ++ ['"']) = some name ∧
    jsonUnescape name = name)
    ⟨fun ⟨h1, h2, h3, h4⟩ => ⟨h1, h2, h3, h4⟩, fun ⟨h1, h2, h3, h4⟩ => ⟨h1, h2, h3, h4⟩⟩

theorem scanString_some_append (h : scanString s = some v) : scanString (s ++ t) = some v := by
  induction s using scanString.induct generalizing v with
  | case1 => exact absurd h (by simp [scanString])
  | case2 s =>
    rw [scanString] at h
    rw [List.cons_append, scanString, h]
  | case3 => exact absurd h (by simp [scanString])
  | case4 c s hc => exact absurd h (by simp [scanString, if_pos hc])
  | case5 c s hc ih =>
    rw [scanString, if_neg hc] at h
    obtain ⟨u, hu, rfl⟩ := Option.map_eq_some_iff.mp h
    rw [List.cons_append, List.cons_append, scanString, if_neg hc, ih hu]
    rfl
  | case6 c s h1 h2 h3 ih =>
    have hc : c ≠ '\\' := by
      intro he
      rcases s with _ | ⟨x, s⟩
      · exact h2 he rfl
      · exact h3 x s he rfl
    have hrec : ∀ u, scanString (c :: u) = (scanString u).map (c :: ·) := fun u => by
      rw [scanString]
      exacts [h1, fun h _ => hc h, fun _ _ h _ => hc h]
    rw [hrec] at h
    obtain ⟨u, hu, rfl⟩ := Option.map_eq_some_iff.mp h
    rw [List.cons_append, hrec, ih hu]
    rfl

theorem KeptName.stringValue (h : KeptName name) :
    stringValue ('"' :: name ++ ['"'] ++ t) = some name := by
  rw [List.append_assoc, List.cons_append, Aes67.stringValue, ← List.append_assoc]
  exact scanString_some_append h.scan

/-- No key starts in a text between quotes that has no quote in it. -/
theorem quiet_raw (hf : IsName f) (h : '"' ∉ s) : Quiet f ('"' :: s ++ ['"']) := by
  intro t ht
  have hend : NoKey f ['"'] t := by
    intro b h0 hb
    obtain rfl : b = ['"'] := (List.suffix_cons_iff.mp hb).resolve_right fun h =>
      h0 (List.suffix_nil.mp h)
    exact not_keyAt_close hf ht.head
  have hin : NoKey f (s ++ ['"']) t := (noKey_of_not_mem h).append hend
  intro b h0 hb
  rcases List.suffix_cons_iff.mp hb with rfl | hb
  · by_contra hk
    rw [Bool.not_eq_false, keyAt_iff] at hk
    obtain ⟨r, hr, hc⟩ := hk
    have he : s ++ '"' :: t = f ++ '"' :: r := by simpa using hr
    rcases List.append_eq_append_iff.mp he with ⟨a, rfl, ha⟩ | ⟨a, rfl, ha⟩
    · rcases a with _ | ⟨x, a⟩
      · rw [List.nil_append, List.cons.injEq] at ha
        exact ht.colon (ha.2 ▸ hc)
      · rw [List.cons_append, List.cons.injEq] at ha
        exact hf.quote_not_mem (ha.1 ▸ List.mem_append_right _ List.mem_cons_self)
    · rcases a with _ | ⟨x, a⟩
      · rw [List.nil_append, List.cons.injEq] at ha
        exact ht.colon (ha.2 ▸ hc)
      · rw [List.cons_append, List.cons.injEq] at ha
        exact h (ha.1 ▸ List.mem_append_right _ List.mem_cons_self)
  · exact hin b h0 hb

theorem jsonUnescape_of_not_mem (h : '\\' ∉ s) : jsonUnescape s = s := by
  induction s with
  | nil => rfl
  | cons c s ih =>
    rw [List.mem_cons, not_or] at h
    rw [jsonUnescape_cons (Ne.symm h.1), ih h.2]

theorem KeptName.of_not_mem (h1 : '"' ∉ name) (h2 : '\x7d' ∉ name) (h3 : '\\' ∉ name) :
    KeptName name := by
  refine ⟨h1, h2, ?_, jsonUnescape_of_not_mem h3⟩
  rw [scanString_append h1 h3, scanString]
  simp

theorem StreamID.mem_toString {id : StreamID} {c : Char} (h : c ∈ id.toString) :
    c = '-' ∨ ∃ n < 16, c = Nat.digitChar n := by
  rw [StreamID.toString, List.mem_flatMap] at h
  obtain ⟨i, -, h⟩ := h
  have hb := id.byte_lt i
  rcases List.mem_append.mp h with h | h
  · split_ifs at h with hi
    · exact Or.inl (List.mem_singleton.mp h)
    · exact absurd h (by simp)
  · rw [StreamID.hexByte, List.mem_cons, List.mem_singleton] at h
    rcases h with rfl | rfl
    · exact Or.inr ⟨_, by omega, rfl⟩
    · exact Or.inr ⟨_, by omega, rfl⟩

theorem keptName_toString (id : StreamID) : KeptName id.toString := by
  have digit : ∀ n < 16, Nat.digitChar n ≠ '"' ∧ Nat.digitChar n ≠ '\x7d' ∧
      Nat.digitChar n ≠ '\\' := by decide
  have ne : ∀ c ∈ id.toString, c ≠ '"' ∧ c ≠ '\x7d' ∧ c ≠ '\\' := by
    intro c hc
    rcases StreamID.mem_toString hc with rfl | ⟨n, hn, rfl⟩
    · decide
    · exact digit n hn
  exact .of_not_mem (fun h => (ne _ h).1 rfl) (fun h => (ne _ h).2.1 rfl)
    fun h => (ne _ h).2.2 rfl

/-! ## Reading -/

/-- The names of the fields of an entry. -/
def fieldNames : List Text :=
  ["streamID", "streamName", "streamChannelCount", "streamChannelOffset", "deviceChannelStart",
    "deviceChannelCount"].map String.toList

/-- A mapping that comes back from the file. The two numbers that a valid mapping leaves open are
16-bit ones. -/
structure ChannelMapping.Kept (m : ChannelMapping) : Prop where
  routes : m.routes = []
  name : KeptName m.streamName
  count_le : m.streamChannelCount ≤ 65535
  offset_le : m.streamChannelOffset ≤ 65535

instance (m : ChannelMapping) : Decidable m.Kept :=
  decidable_of_iff (m.routes = [] ∧ KeptName m.streamName ∧ m.streamChannelCount ≤ 65535 ∧
    m.streamChannelOffset ≤ 65535)
    ⟨fun ⟨h1, h2, h3, h4⟩ => ⟨h1, h2, h3, h4⟩, fun ⟨h1, h2, h3, h4⟩ => ⟨h1, h2, h3, h4⟩⟩

theorem isName_of_mem_fieldNames : ∀ f ∈ fieldNames, IsName f := by decide

theorem quote_not_mem_showNat (n : ℕ) : '"' ∉ showNat n := fun h =>
  absurd (isDigit_of_mem_showNat h) (by decide)

theorem ChannelMapping.Kept.legible {m : ChannelMapping} (h : m.Kept) :
    Legible fieldNames m.fields where
  nodup := show fieldNames.Nodup by decide
  name e he := isName_of_mem_fieldNames e.1 (List.mem_map_of_mem (f := Prod.fst) he)
  quiet e he f hf := by
    have hn := isName_of_mem_fieldNames f hf
    have num : ∀ n, Quiet f (showNat n) := fun n => quiet_of_not_mem (quote_not_mem_showNat n)
    simp only [ChannelMapping.fields, List.mem_cons, List.not_mem_nil, or_false] at he
    rcases he with rfl | rfl | rfl | rfl | rfl | rfl
    · exact quiet_raw hn (keptName_toString m.streamID).quote
    · exact quiet_raw hn h.name.quote
    all_goals exact num _

theorem matchField_append (h : NoKey f lead t) :
    matchField (lead ++ t) f value = matchField t f value := by
  rw [matchField, matchField, searchField_append h]

/-- What stands before an entry's fields has no key of theirs. -/
def Leading (lead : Text) : Prop := ∀ f ∈ fieldNames, ∀ t, NoKey f lead t

section Entry

variable {m : ChannelMapping}

theorem ChannelMapping.Kept.extractString (h : m.Kept) (hl : Leading lead) (hf : f ∈ fieldNames)
    (hm : (f, '"' :: name ++ ['"']) ∈ m.fields) (hname : KeptName name) :
    extractStringField (lead ++ objectJSON 4 m.fields) f = some name := by
  have hfind : matchField ([] ++ (objectJSON 4 m.fields ++ [])) f stringValue = some name :=
    h.legible.matchField hf hm (by simp) (fun c hc => by cases hc; rfl) (List.cons_ne_nil _ _)
      fun u _ => hname.stringValue
  rw [List.nil_append, List.append_nil] at hfind
  rw [extractStringField, matchField_append (hl f hf _), hfind, Option.map_some, hname.unescape]

theorem ChannelMapping.Kept.extractUInt16 (h : m.Kept) (hl : Leading lead) (hf : f ∈ fieldNames)
    {n : ℕ} (hm : (f, showNat n) ∈ m.fields) (hn : n ≤ 65535) :
    extractUInt16Field (lead ++ objectJSON 4 m.fields) f = some n := by
  have hfind : narrowField 65535 ([] ++ (objectJSON 4 m.fields ++ [])) f = some n :=
    h.legible.narrow hf hm (by simp) hn (by norm_num)
  rw [List.nil_append, List.append_nil] at hfind
  rw [extractUInt16Field, narrowField, extractUInt64Field, matchField_append (hl f hf _)]
  exact hfind

/-- **An entry reads as the mapping it was written for.** -/
theorem readEntry_fields (h : m.Kept) (hv : m.Valid) (hl : Leading lead) :
    readEntry (lead ++ objectJSON 4 m.fields) = some m := by
  have hb := hv.block_le
  have hk : kMaxDeviceChannels = 128 := rfl
  have hid := h.extractString hl (f := "streamID".toList) (by decide) List.mem_cons_self
    (keptName_toString m.streamID)
  have hname := h.extractString hl (f := "streamName".toList) (by decide)
    (List.mem_cons_of_mem _ List.mem_cons_self) h.name
  have hcount := h.extractUInt16 hl (f := "streamChannelCount".toList) (by decide)
    (by simp [ChannelMapping.fields]) h.count_le
  have hoffset := h.extractUInt16 hl (f := "streamChannelOffset".toList) (by decide)
    (by simp [ChannelMapping.fields]) h.offset_le
  have hstart := h.extractUInt16 hl (f := "deviceChannelStart".toList) (n := m.deviceChannelStart)
    (by decide) (by simp [ChannelMapping.fields]) (by omega)
  have hblock := h.extractUInt16 hl (f := "deviceChannelCount".toList) (n := m.deviceChannelCount)
    (by decide) (by simp [ChannelMapping.fields]) (by omega)
  rw [readEntry, hid, hname, hcount, hoffset, hstart, hblock, Option.getD_some,
    StreamID.ofText_toString]
  have hr := h.routes
  cases m
  cases hr
  rfl

end Entry

/-! ## The blocks of a written file -/

theorem cutBlocks_append (h : '\x7b' ∉ s) (t : Text) : cutBlocks none (s ++ t) = cutBlocks none t := by
  induction s with
  | nil => rfl
  | cons c s ih =>
    rw [List.mem_cons, not_or] at h
    rw [List.cons_append, cutBlocks, if_neg (Ne.symm h.1), ih h.2]

theorem cutBlocks_open (h : '\x7d' ∉ s) (acc t : Text) :
    cutBlocks (some acc) (s ++ '\x7d' :: t) = (acc.reverse ++ (s ++ ['\x7d'])) :: cutBlocks none t := by
  induction s generalizing acc with
  | nil => simp [cutBlocks]
  | cons c s ih =>
    rw [List.mem_cons, not_or] at h
    rw [List.cons_append, cutBlocks, if_neg (Ne.symm h.1), ih h.2]
    simp

/-- A block with no closing brace inside is cut out whole. -/
theorem cutBlocks_block (h : '\x7d' ∉ s) (t : Text) :
    cutBlocks none ('\x7b' :: (s ++ '\x7d' :: t)) =
      ('\x7b' :: (s ++ ['\x7d'])) :: cutBlocks none t := by
  rw [cutBlocks, if_pos rfl, cutBlocks_open h]
  rfl

section Blocks

variable {m : ChannelMapping} {l : List ChannelMapping}

theorem ChannelMapping.Kept.brace_not_mem (h : m.Kept) : '\x7d' ∉ objectBody 4 m.fields := by
  have raw : ∀ {name : Text}, '\x7d' ∉ name → '\x7d' ∉ '"' :: name ++ ['"'] := by
    intro name hn hm
    simp [hn] at hm
  have num : ∀ n, '\x7d' ∉ showNat n := fun n hm =>
    absurd (isDigit_of_mem_showNat hm) (by decide)
  refine not_mem_objectBody rfl h.legible.name fun e he => ?_
  simp only [ChannelMapping.fields, List.mem_cons, List.not_mem_nil, or_false] at he
  rcases he with rfl | rfl | rfl | rfl | rfl | rfl
  · exact raw (keptName_toString m.streamID).brace
  · exact raw h.name.brace
  all_goals exact num _

theorem contains_streamID (lead : Text) (m : ChannelMapping) :
    contains "\"streamID\"".toList (lead ++ objectJSON 4 m.fields) = true := by
  rw [contains_iff]
  have h := objectJSON_split 4 [] m.fields.tail ("streamID".toList, '"' :: m.streamID.toString ++ ['"'])
  rw [show [] ++ (_ :: m.fields.tail) = m.fields from rfl] at h
  rw [h]
  refine List.IsInfix.trans ?_ (List.suffix_append lead _).isInfix
  refine List.IsInfix.trans ?_ (List.suffix_append (objectBefore 4 []) _).isInfix
  exact (List.prefix_append _ _).isInfix

/-- What stands before the first entry's fields. -/
def opening : Text := "\x7b\n  \"mappings\": [\n    ".toList

theorem opening_eq : '\x7b' :: opening.tail = opening := rfl

theorem opening_append :
    "\x7b\n  \"mappings\": [\n".toList ++ "    ".toList = opening := by decide

theorem leading_nil : Leading [] := fun _ _ _ => noKey_nil

theorem leading_opening : Leading opening := by
  intro f hf t
  have hn := isName_of_mem_fieldNames f hf
  have hne : "mappings".toList ≠ f := by
    rintro rfl
    exact absurd hf (by decide)
  have h1 : NoKey f ("\x7b\n  ".toList ++ label "mappings".toList) ("[\n    ".toList ++ t) :=
    (noKey_of_not_mem (by decide)).append (noKey_label hn (by decide) hne)
  exact h1.append (noKey_of_not_mem (by decide))

/-- The entries after the first. -/
theorem cutBlocks_rows (h : ∀ m ∈ l, m.Kept) :
    cutBlocks none ((l.flatMap fun m => ",\n    ".toList ++ objectJSON 4 m.fields) ++
      "\n  ]\n\x7d".toList) = l.map fun m => objectJSON 4 m.fields := by
  induction l with
  | nil => rfl
  | cons m l ih =>
    have ih := ih fun m hm => h m (List.mem_cons_of_mem _ hm)
    rw [List.flatMap_cons, List.append_assoc, List.append_assoc, cutBlocks_append (by decide),
      objectJSON_eq]
    rw [List.cons_append, List.append_assoc, List.singleton_append,
      cutBlocks_block (h m List.mem_cons_self).brace_not_mem, ih]
    rfl

theorem intercalate_rows {α : Type} (sep pad : Text) (row : α → Text) (a : α) (l : List α) :
    List.intercalate sep ((a :: l).map fun x => pad ++ row x) =
      pad ++ row a ++ l.flatMap fun x => sep ++ pad ++ row x := by
  have h := intercalate_split sep [] (pad ++ row a) (l.map fun x => pad ++ row x)
  rw [List.map_cons]
  simpa [List.flatMap_map] using h

theorem rows_sep : ",\n".toList ++ "    ".toList = ",\n    ".toList := by decide

theorem append_block {o : Char} {head pad tail block body rows closing : Text}
    (h : head ++ pad = o :: tail) (hb : block = '\x7b' :: (body ++ ['\x7d'])) :
    head ++ (pad ++ block ++ rows) ++ closing =
      o :: ((tail ++ '\x7b' :: body) ++ '\x7d' :: (rows ++ closing)) := by
  have hassoc : head ++ (pad ++ block ++ rows) ++ closing = (head ++ pad) ++ (block ++ rows ++ closing) := by
    simp only [List.append_assoc]
  rw [hassoc, h, hb]
  simp

/-- The blocks of a written file: the first starts at the outer brace. -/
theorem entryBlocks_toJSON {mapper : Mapper} (hl : mapper.mappings.values = m :: l)
    (h : ∀ m ∈ mapper.mappings.values, m.Kept) :
    entryBlocks mapper.toJSON =
      (opening ++ objectJSON 4 m.fields) :: l.map fun m => objectJSON 4 m.fields := by
  rw [hl] at h
  have hbody : '\x7d' ∉ opening.tail ++ '\x7b' :: objectBody 4 m.fields := by
    rw [List.mem_append, List.mem_cons, not_or, not_or]
    exact ⟨by decide, by decide, (h m List.mem_cons_self).brace_not_mem⟩
  have htext : mapper.toJSON = '\x7b' :: ((opening.tail ++ '\x7b' :: objectBody 4 m.fields) ++ '\x7d' ::
      ((l.flatMap fun m => ",\n    ".toList ++ objectJSON 4 m.fields) ++ "\n  ]\n\x7d".toList)) := by
    unfold Mapper.toJSON
    rw [hl, intercalate_rows, rows_sep]
    exact append_block (opening_append.trans opening_eq.symm) (objectJSON_eq 4 m.fields)
  have hcut : cutBlocks none mapper.toJSON =
      (opening ++ objectJSON 4 m.fields) :: l.map fun m => objectJSON 4 m.fields := by
    rw [htext, cutBlocks_block hbody, cutBlocks_rows fun m hm => h m (List.mem_cons_of_mem _ hm),
      objectJSON_eq, ← List.cons_append, ← List.cons_append, opening_eq]
    simp only [List.append_assoc, List.cons_append]
  rw [entryBlocks, hcut]
  refine List.filter_eq_self.mpr fun b hb => ?_
  rcases List.mem_cons.mp hb with rfl | hb
  · exact contains_streamID opening m
  · obtain ⟨m', -, rfl⟩ := List.mem_map.mp hb
    exact contains_streamID [] m'

end Blocks

/-! ## Saved and loaded -/

theorem readEntries_eq {blocks : List Text} {l : List ChannelMapping}
    (h : List.Forall₂ (fun block mapping => readEntry block = some mapping) blocks l) :
    readEntries blocks = l ∧ (blocks.all fun block => (readEntry block).isSome) = true := by
  induction h with
  | nil => exact ⟨rfl, rfl⟩
  | cons hb _ ih =>
    rw [readEntries, hb, List.all_cons, hb, ih.1, ih.2]
    exact ⟨rfl, rfl⟩

namespace Mapper

variable {m : Mapper} {mapping : ChannelMapping} {id : StreamID} {ops : List Op}

/-- The blocks of a written file read as the mappings. -/
theorem readEntries_toJSON (hf : m.Filed) (hk : ∀ mapping ∈ m.mappings.values, mapping.Kept) :
    readEntries (entryBlocks m.toJSON) = m.mappings.values ∧
      ((entryBlocks m.toJSON).all fun block => (readEntry block).isSome) = true := by
  have hv : ∀ mapping ∈ m.mappings.values, mapping.Valid := fun mapping h =>
    (hf _ mapping (hf.mem_values.mp h)).1
  cases hl : m.mappings.values with
  | nil =>
    have he : entryBlocks m.toJSON = [] := by
      unfold toJSON
      rw [hl]
      decide
    rw [he]
    exact ⟨rfl, rfl⟩
  | cons first l =>
    rw [entryBlocks_toJSON hl hk]
    rw [hl] at hk hv
    refine readEntries_eq (.cons ?_ ?_)
    · exact readEntry_fields (hk first List.mem_cons_self) (hv first List.mem_cons_self) leading_opening
    · rw [List.forall₂_map_left_iff, List.forall₂_same]
      intro mapping h
      have hread := readEntry_fields (hk mapping (List.mem_cons_of_mem _ h))
        (hv mapping (List.mem_cons_of_mem _ h)) leading_nil
      rwa [List.nil_append] at hread

/-- **A consistent matrix of mappings that come back is read back whole.** -/
theorem fromJSON_toJSON (hf : m.Filed) (hc : m.Consistent)
    (hk : ∀ mapping ∈ m.mappings.values, mapping.Kept) (n : Mapper) :
    n.fromJSON m.toJSON =
      ({ m with usableChannelCount := n.usableChannelCount, usable_le := n.usable_le }, true) := by
  obtain ⟨hread, hall⟩ := readEntries_toJSON hf hk
  rw [fromJSON, hread, hall, foldl_addMapping_values hf hc n]

/-- The file a new mapper reads gives it the same mappings and the same owners. -/
def Restored (m : Mapper) : Prop :=
  (init.fromJSON m.toJSON).2 = true ∧ (init.fromJSON m.toJSON).1.mappings = m.mappings ∧
    (init.fromJSON m.toJSON).1.deviceChannelOwners = m.deviceChannelOwners

/-! ## Whole runs -/

/-- The mapping is refused, or comes back from the file and is of a stream with no mapping yet. -/
def KeptEntry (m : Mapper) (mapping : ChannelMapping) : Prop :=
  m.accepts mapping = true → m.mappings.find? mapping.streamID = none ∧ mapping.Kept

/-- Every mapping the call stores comes back from the file, and every one it adds is of a stream
with no mapping when its turn comes. -/
def KeptAdd (m : Mapper) : Op → Prop
  | .addMapping mapping => m.KeptEntry mapping
  | .updateMapping mapping => (m.updateMapping mapping).2 = true → mapping.Kept
  | .fromJSON json => Along (fun m mapping => (m.addMapping mapping).1) KeptEntry m.clearAll
      (readEntries (entryBlocks json))
  | _ => True

/-- Every stored mapping has the property. -/
def AllStored (P : ChannelMapping → Prop) (m : Mapper) : Prop :=
  ∀ id mapping, m.mappings.find? id = some mapping → P mapping

theorem KeptAdd.freshAdd {op : Op} (h : m.KeptAdd op) : m.FreshAdd op := by
  cases op with
  | addMapping mapping => exact fun ha => (h ha).1
  | fromJSON json => exact Along.imp (fun _ _ _ h ha => (h ha).1) h
  | _ => trivial

section Stored

variable {P : ChannelMapping → Prop}

theorem AllStored.insert (h : m.AllStored P) (hp : P mapping) {m' : Mapper}
    (he : m'.mappings = m.mappings.insert mapping.streamID mapping) : m'.AllStored P := by
  intro id mp hm
  rw [he, OrdMap.find?_insert] at hm
  split_ifs at hm
  · cases hm
    exact hp
  · exact h id mp hm

theorem AllStored.addMapping (h : m.AllStored P) (hp : m.accepts mapping = true → P mapping) :
    (m.addMapping mapping).1.AllStored P := by
  rcases addMapping_cases m mapping with ⟨-, e⟩ | ⟨ha, e⟩
  · rwa [e]
  · rw [e]
    exact h.insert (hp ha) rfl

theorem allStored_clearAll (m : Mapper) : m.clearAll.AllStored P := by
  intro id mp hm
  simp [clearAll] at hm

theorem AllStored.foldl {l : List ChannelMapping} (h : m.AllStored P)
    (hp : Along (fun m mapping => (m.addMapping mapping).1)
      (fun m mapping => m.accepts mapping = true → P mapping) m l) :
    (l.foldl (fun m mapping => (m.addMapping mapping).1) m).AllStored P := by
  induction l generalizing m with
  | nil => exact h
  | cons mapping l ih => exact ih (h.addMapping hp.1) hp.2

end Stored

/-- One call keeps every stored mapping one that comes back. -/
theorem AllStored.step (h : m.AllStored ChannelMapping.Kept) {op : Op} (hk : m.KeptAdd op) :
    (m.step op).AllStored ChannelMapping.Kept := by
  cases op with
  | addMapping mapping => exact h.addMapping fun ha => (hk ha).2
  | removeMapping id =>
    intro id' mp hm
    rw [Mapper.step, find?_removeMapping] at hm
    split_ifs at hm
    exact h id' mp hm
  | updateMapping mapping =>
    rcases updateMapping_cases m mapping with e | ⟨-, -, e⟩
    · rw [Mapper.step, e]
      exact h
    · rw [Mapper.step, e]
      exact h.insert (hk (by rw [e])) rfl
  | clearAll => exact allStored_clearAll m
  | createDefaultMapping _ _ _ => exact h
  | fromJSON json => exact (allStored_clearAll m).foldl (Along.imp (fun _ _ _ h ha => (h ha).2) hk)
  | setUsableChannelCount _ => exact h

/-- **A run that stores only mappings that come back, under identifiers of their own, can be saved
and loaded at any point of it.** -/
theorem always_restored (h : Along step KeptAdd init ops) : Always step Restored init ops := by
  have hall : Always step (fun m => m.Filed ∧ m.Consistent ∧ m.AllStored ChannelMapping.Kept) init ops := by
    refine always_of_along (fun m op ⟨hf, hc, hk⟩ ha => ?_)
      ⟨filed_init, consistent_init, allStored_clearAll init⟩ h
    exact ⟨filed_step hf op, (consistent_step_iff hf hc op).mpr ha.freshAdd, hk.step ha⟩
  refine hall.imp fun m ⟨hf, hc, hk⟩ => ?_
  have hkept : ∀ mapping ∈ m.mappings.values, mapping.Kept := fun mapping hm =>
    hk _ mapping (hf.mem_values.mp hm)
  have hback := fromJSON_toJSON hf hc hkept init
  rw [Restored, hback]
  exact ⟨rfl, rfl, rfl⟩

/-- Two streams on blocks of their own, the second one renamed. -/
def studioOps : List Op :=
  [.addMapping { streamID := ⟨1, StreamID.one_lt⟩, streamName := "Studio A".toList,
                 streamChannelCount := 2, deviceChannelCount := 2 },
   .addMapping { streamID := ⟨2, StreamID.two_lt⟩, streamName := "Studio B".toList,
                 streamChannelCount := 8, deviceChannelStart := 2, deviceChannelCount := 8 },
   .updateMapping { streamID := ⟨2, StreamID.two_lt⟩, streamName := "Hall (left)".toList,
                    streamChannelCount := 8, deviceChannelStart := 2, deviceChannelCount := 8 }]

theorem studioOps_restored : Always step Restored init studioOps :=
  always_restored ⟨fun _ => ⟨by decide, by decide⟩, fun _ => ⟨by decide, by decide⟩,
    fun _ => by decide, trivial⟩

/-! ## What does not come back -/

theorem routes_readEntries {blocks : List Text} (h : mapping ∈ readEntries blocks) :
    mapping.routes = [] := by
  induction blocks with
  | nil => exact absurd h (by simp [readEntries])
  | cons block blocks ih =>
    rw [readEntries] at h
    split at h
    · exact absurd h (by simp)
    · next first hb =>
      rcases List.mem_cons.mp h with rfl | h
      · rw [readEntry] at hb
        split at hb
        · cases hb
        · cases hb
          rfl
      · exact ih h

/-- No mapping that is read from a file has routes. -/
theorem routes_fromJSON {json : Text} (h : (m.fromJSON json).1.mappings.find? id = some mapping) :
    mapping.routes = [] := by
  have hstored : (m.fromJSON json).1.AllStored fun mapping => mapping.routes = [] :=
    (allStored_clearAll m).foldl (along_of_mem fun _ _ hm _ => routes_readEntries hm)
  exact hstored id mapping h

/-- No matrix with a routed mapping is restored. -/
theorem Restored.routes (h : m.Restored) (hm : m.mappings.find? id = some mapping) :
    mapping.routes = [] := by
  rw [← h.2.1] at hm
  exact routes_fromJSON hm

/-- A stream whose one channel is routed to channel 5 of the device. -/
def routedMapping : ChannelMapping :=
  { streamID := ⟨1, StreamID.one_lt⟩, streamName := "Studio A".toList, streamChannelCount := 1,
    deviceChannelCount := 1, routes := [⟨0, 5⟩] }

/-- A stream whose name has a quote in it. -/
def quotedMapping : ChannelMapping :=
  { streamID := ⟨1, StreamID.one_lt⟩, streamName := "12\" mix".toList, streamChannelCount := 1,
    deviceChannelCount := 1 }

/-- The routed stream comes back without its route, and of the other's name what stands before the
quote. -/
theorem not_always_restored : (¬ ∀ ops, Always step Restored init ops) ∧
    (init.fromJSON (init.step (.addMapping quotedMapping)).toJSON).1.mappings.values.map
      ChannelMapping.streamName = ["12".toList] := by
  refine ⟨fun h => ?_, by decide +kernel⟩
  have hrun := (h [.addMapping routedMapping]).run
  have hfind : (init.step (.addMapping routedMapping)).mappings.find? routedMapping.streamID =
    some routedMapping := rfl
  cases hrun.routes hfind

end Mapper

end Aes67
