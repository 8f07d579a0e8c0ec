import Aes67.Lib.Run
import Aes67.Ravenna.JsonRoundTrip
import Aes67.Ravenna.NodeApi

/-!
# What a version stands for

A resource is given a new version where its shape is not the one remembered: the text of its object, and
behind it the rest the version depends on. A text of an object ends at the bracket that closes it, so
the shape says where the rest begins.

* `behind`: what stands behind the bracket that closes what is open; `behind_serialise`;
* **`obj_append_injective`**: what follows the text of an object is known from the whole;
* `Logged`: the stamps by the shapes they were put on, with `Logged.stampAll`;
* **`rest_eq_of_version_eq`**: two documents with the same version have the same rest.
-/

namespace Aes67.Ravenna

/-! ## Where an object ends -/

/-- Outside of strings, in a string, or behind a backslash. -/
inductive Place
  | outside | inside | escaped

/-- What stands behind the bracket that closes the last of `depth` brackets. -/
def behind : Place → ℕ → Text → Option Text
  | _, _, [] => none
  | .outside, depth, c :: s =>
    if c = '"' then behind .inside depth s
    else if c = '\x7b' ∨ c = '[' then behind .outside (depth + 1) s
    else if c = '\x7d' ∨ c = ']' then if depth ≤ 1 then some s else behind .outside (depth - 1) s
    else behind .outside depth s
  | .inside, depth, c :: s =>
    if c = '"' then behind .outside depth s
    else if c = '\\' then behind .escaped depth s
    else behind .inside depth s
  | .escaped, depth, _ :: s => behind .inside depth s

section Behind

variable {depth : ℕ} {c : Char} {s w : Text}

/-- The character neither opens nor closes anything. -/
def Bare (c : Char) : Prop := c ≠ '"' ∧ ¬ (c = '\x7b' ∨ c = '[') ∧ ¬ (c = '\x7d' ∨ c = ']')

instance (c : Char) : Decidable (Bare c) := inferInstanceAs (Decidable (_ ∧ _))

theorem behind_bare (h : Bare c) : behind .outside depth (c :: s) = behind .outside depth s := by
  rw [behind, if_neg h.1, if_neg h.2.1, if_neg h.2.2]

theorem behind_bares (h : ∀ c ∈ w, Bare c) :
    behind .outside depth (w ++ s) = behind .outside depth s := by
  induction w with
  | nil => rfl
  | cons c w ih =>
    rw [List.cons_append, behind_bare (h c List.mem_cons_self),
      ih fun c hc => h c (List.mem_cons_of_mem _ hc)]

theorem behind_open (h : c = '\x7b' ∨ c = '[') :
    behind .outside depth (c :: s) = behind .outside (depth + 1) s := by
  have hquote : c ≠ '"' := by rcases h with rfl | rfl <;> decide
  rw [behind, if_neg hquote, if_pos h]

theorem behind_close (h : c = '\x7d' ∨ c = ']') :
    behind .outside (depth + 1) (c :: s) = if depth = 0 then some s else behind .outside depth s := by
  have hquote : c ≠ '"' := by rcases h with rfl | rfl <;> decide
  have hopen : ¬ (c = '\x7b' ∨ c = '[') := by rcases h with rfl | rfl <;> decide
  rw [behind, if_neg hquote, if_neg hopen, if_pos h, Nat.add_sub_cancel]
  congr 1
  rw [eq_iff_iff]
  omega

theorem digitChar_plain {n : ℕ} (h : n < 16) : Nat.digitChar n ≠ '"' ∧ Nat.digitChar n ≠ '\\' := by
  interval_cases n <;> decide

theorem behind_quoteChar (c : Char) :
    behind .inside depth (quoteChar c ++ s) = behind .inside depth s := by
  unfold quoteChar
  split_ifs with hquote hback _ _ _ _ _ hlow
  · rfl
  · rfl
  · rfl
  · rfl
  · rfl
  · rfl
  · rfl
  · obtain ⟨h1, h2⟩ := digitChar_plain (n := c.toNat / 16) (by omega)
    obtain ⟨h3, h4⟩ := digitChar_plain (n := c.toNat % 16) (by omega)
    show behind .inside depth (Nat.digitChar (c.toNat / 16) :: Nat.digitChar (c.toNat % 16) :: s) = _
    rw [behind, if_neg h1, if_neg h2, behind, if_neg h3, if_neg h4]
  · rw [List.singleton_append, behind, if_neg hquote, if_neg hback]

theorem behind_jsonQuote (t : Text) :
    behind .outside depth (jsonQuote t ++ s) = behind .outside depth s := by
  have hinside : behind .inside depth (t.flatMap quoteChar ++ '"' :: s) = behind .outside depth s := by
    induction t with
    | nil => rfl
    | cons c t ih =>
      rw [List.flatMap_cons, List.append_assoc, behind_quoteChar, ih]
  rw [jsonQuote, List.cons_append, List.cons_append, List.append_assoc]
  exact hinside

theorem bare_of_isDigit (h : c.isDigit = true) : Bare c := by
  refine ⟨?_, ?_, ?_⟩
  · rintro rfl
    exact absurd h (by decide)
  · rintro (rfl | rfl) <;> exact absurd h (by decide)
  · rintro (rfl | rfl) <;> exact absurd h (by decide)

theorem bare_showNat {n : ℕ} (h : c ∈ showNat n) : Bare c := bare_of_isDigit (isDigit_of_mem_showNat h)

theorem bare_showInt {n : ℤ} (h : c ∈ showInt n) : Bare c := by
  unfold showInt at h
  split_ifs at h
  · rcases List.mem_cons.mp h with rfl | h
    · decide
    · exact bare_showNat h
  · exact bare_showNat h

theorem bare_pointed {digits : Text} (hd : ∀ c ∈ digits, Bare c) (h : c ∈ pointed digits) : Bare c := by
  unfold pointed at h
  cases hr : digits.rdropWhile (· = '0') with
  | nil =>
    rw [hr] at h
    cases h
  | cons d ds =>
    rw [hr] at h
    rcases List.mem_cons.mp h with rfl | h
    · decide
    · rw [← hr] at h
      exact hd c ((List.rdropWhile_prefix (· = '0') (l := digits)).subset h)

theorem bare_showExponent {e : ℤ} (h : c ∈ showExponent e) : Bare c := by
  unfold showExponent at h
  rcases List.mem_cons.mp h with rfl | h
  · decide
  rcases List.mem_cons.mp h with rfl | h
  · split_ifs <;> decide
  rw [List.leftpad, List.mem_append] at h
  rcases h with h | h
  · obtain rfl := List.eq_of_mem_replicate h
    decide
  · exact bare_showNat h

theorem bare_printMagnitude {k : ℕ} {q : ℚ} (h : c ∈ printMagnitude k q) : Bare c := by
  have hdigits : ∀ n, ∀ c ∈ showNat n, Bare c := fun n c => bare_showNat
  unfold printMagnitude at h
  dsimp only at h
  split_ifs at h
  · rcases List.mem_append.mp h with h | h
    · rcases List.mem_append.mp h with h | h
      · exact hdigits _ c (List.mem_of_mem_take h)
      · exact bare_pointed (fun c hc => hdigits _ c (List.mem_of_mem_drop hc)) h
    · exact bare_showExponent h
  · rcases List.mem_cons.mp h with rfl | h
    · decide
    · refine bare_pointed (fun c hc => ?_) h
      rcases List.mem_append.mp hc with hc | hc
      · obtain rfl := List.eq_of_mem_replicate hc
        decide
      · exact hdigits _ c hc
  · rcases List.mem_append.mp h with h | h
    · exact hdigits _ c (List.mem_of_mem_take h)
    · exact bare_pointed (fun c hc => hdigits _ c (List.mem_of_mem_drop hc)) h

theorem bare_printGeneral {k : ℕ} {d : Double} (h : c ∈ printGeneral k d) : Bare c := by
  have hnan : ∀ c ∈ "nan".toList, Bare c := by simp [Bare]
  have hinf : ∀ c ∈ "-inf".toList, Bare c := by simp [Bare]
  cases d with
  | nan => exact hnan c h
  | inf minus =>
    cases minus with
    | true => exact hinf c h
    | false => exact hinf c (List.mem_cons_of_mem _ h)
  | fin q =>
    unfold printGeneral at h
    rcases List.mem_append.mp h with h | h
    · split_ifs at h
      · obtain rfl := List.mem_singleton.mp h
        decide
      · cases h
    · split_ifs at h
      · obtain rfl := List.mem_singleton.mp h
        decide
      · exact bare_printMagnitude h

theorem bare_showNumber {d : Double} (h : c ∈ showNumber d) : Bare c := by
  unfold showNumber at h
  split at h
  · split_ifs at h
    · exact bare_showInt h
    · exact bare_printGeneral h
  · exact bare_printGeneral h

end Behind

mutual

/-- **A value closes what it opens.** -/
theorem behind_serialise : ∀ (v : Json) {depth : ℕ} {s : Text},
    behind .outside (depth + 1) (v.serialise ++ s) = behind .outside (depth + 1) s
  | .null, _, _ => behind_bares (w := "null".toList) (by simp [Bare])
  | .bool true, _, _ => behind_bares (w := "true".toList) (by simp [Bare])
  | .bool false, _, _ => behind_bares (w := "false".toList) (by simp [Bare])
  | .num d, _, _ => behind_bares fun _ => bare_showNumber
  | .str t, _, _ => behind_jsonQuote t
  | .obj members, depth, s => by
    rw [serialise_obj, List.cons_append, behind_open (Or.inl rfl), List.append_assoc,
      behind_members members, List.singleton_append, behind_close (Or.inl rfl),
      if_neg (Nat.succ_ne_zero _)]
  | .arr items, depth, s => by
    rw [serialise_arr, List.cons_append, behind_open (Or.inr rfl), List.append_assoc,
      behind_items items, List.singleton_append, behind_close (Or.inr rfl),
      if_neg (Nat.succ_ne_zero _)]

theorem behind_members : ∀ (l : List (Text × Json)) {depth : ℕ} {s : Text},
    behind .outside (depth + 1) (membersText l ++ s) = behind .outside (depth + 1) s
  | [], _, _ => rfl
  | [(key, value)], depth, s => by
    rw [membersText_one, List.append_assoc, behind_jsonQuote, List.cons_append,
      behind_bare (by decide), behind_serialise value]
  | (key, value) :: e :: l, depth, s => by
    rw [membersText_cons_cons, List.append_assoc, behind_jsonQuote, List.cons_append,
      behind_bare (by decide), List.append_assoc, behind_serialise value, List.cons_append,
      behind_bare (by decide), behind_members (e :: l)]

theorem behind_items : ∀ (l : List Json) {depth : ℕ} {s : Text},
    behind .outside (depth + 1) (itemsText l ++ s) = behind .outside (depth + 1) s
  | [], _, _ => rfl
  | [item], depth, s => by rw [itemsText_one, behind_serialise item]
  | item :: e :: l, depth, s => by
    rw [itemsText_cons_cons, List.append_assoc, behind_serialise item, List.cons_append,
      behind_bare (by decide), behind_items (e :: l)]

end

/-- **What follows the text of an object is known from the whole.** -/
theorem obj_append_injective {l l' : List (Text × Json)} {s s' : Text}
    (h : (Json.obj l).serialise ++ s = (Json.obj l').serialise ++ s') : s = s' := by
  have hbehind : ∀ l s, behind .outside 0 ((Json.obj l).serialise ++ s) = some s := fun l s => by
    rw [serialise_obj, List.cons_append, behind_open (Or.inl rfl), List.append_assoc,
      behind_members l, List.singleton_append, behind_close (Or.inl rfl), if_pos rfl]
  have hsome := hbehind l s
  rw [h, hbehind l' s'] at hsome
  exact (Option.some.inj hsome).symm

/-! ## Documents -/

/-- An object written out holds under a key what is written last under it. -/
theorem find?_jsonObject (members : List (String × Json)) (key : String) :
    (jsonObject members).find? key.toList =
      (members.reverse.find? fun e => e.1 = key).map Prod.snd := by
  have hfold : ∀ object : JsonObject,
      (members.foldl (fun object e => object.insert e.1.toList e.2) object).find? key.toList =
        ((members.reverse.find? fun e => e.1 = key).map Prod.snd).or (object.find? key.toList) := by
    induction members with
    | nil => exact fun object => rfl
    | cons e members ih =>
      intro object
      rw [List.foldl_cons, ih, OrdMap.find?_insert, List.reverse_cons, List.find?_append]
      cases members.reverse.find? fun e => e.1 = key with
      | some e' => rfl
      | none =>
        by_cases he : e.1 = key
        · simp [he]
        · have hne : ¬ key.toList = e.1.toList := fun h => he (String.toList_inj.mp h).symm
          simp [he, hne]
  rw [jsonObject, hfold, OrdMap.find?_empty, Option.or_none]

theorem Json.get_ofObject (object : JsonObject) (key : String) :
    (Json.ofObject object).get key = (object.find? key.toList).getD .null := rfl

/-! ## Stamps -/

namespace Versions

variable {versionNow : ℕ → Text} {versions : Versions} {log : List Text}

/-- Each stamp remembered was put on the shape it is remembered with: the `n`-th one on the `n`-th shape
of the log. -/
structure Logged (versionNow : ℕ → Text) (versions : Versions) (log : List Text) : Prop where
  length_eq : log.length = versions.reads
  known : ∀ id shape stamp, versions.known.find? id = some (shape, stamp) →
    ∃ n, log[n]? = some shape ∧ stamp = versionNow n

theorem logged_init (versionNow : ℕ → Text) : Logged versionNow {} [] :=
  ⟨rfl, fun _ _ _ h => by cases h⟩

theorem shape_ne_nil (resource : JsonObject) (rest : Text) : shape resource rest ≠ [] := by
  unfold shape Json.ofObject
  rw [serialise_obj]
  exact List.cons_ne_nil _ _

/-- The document carries the stamp of its shape. -/
def Carries (versionNow : ℕ → Text) (log : List Text) (e : JsonObject × Text) (doc : Json) : Prop :=
  ∃ n, log[n]? = some (shape e.1 e.2) ∧
    doc = .ofObject (e.1.insert "version".toList (.str (versionNow n)))

theorem Carries.append {e : JsonObject × Text} {doc : Json} (h : Carries versionNow log e doc)
    (more : List Text) : Carries versionNow (log ++ more) e doc := by
  obtain ⟨n, hn, hdoc⟩ := h
  have hlt : n < log.length := (List.getElem?_eq_some_iff.mp hn).1
  exact ⟨n, by rw [List.getElem?_append_left hlt, hn], hdoc⟩

/-- **One resource stamped.** -/
theorem Logged.versioned (h : Logged versionNow versions log) (resource : JsonObject) (rest : Text) :
    ∃ more, Logged versionNow (versions.versioned versionNow resource rest).2 (log ++ more) ∧
      Carries versionNow (log ++ more) (resource, rest)
        (versions.versioned versionNow resource rest).1 := by
  unfold Versions.versioned
  dsimp only
  by_cases hsame : (versions.remembered (idOf resource)).1 = shape resource rest
  · rw [if_neg (not_not.mpr hsame)]
    refine ⟨[], by rw [List.append_nil]; exact h, ?_⟩
    cases hfind : versions.known.find? (idOf resource) with
    | none =>
      rw [remembered, hfind] at hsame
      exact absurd hsame.symm (shape_ne_nil resource rest)
    | some known =>
      obtain ⟨shape', stamp⟩ := known
      have hremembered : versions.remembered (idOf resource) = (shape', stamp) := by
        rw [remembered, hfind]
        rfl
      obtain ⟨n, hn, hstamp⟩ := h.known _ _ _ hfind
      rw [hremembered] at hsame ⊢
      dsimp only at hsame ⊢
      rw [List.append_nil]
      exact ⟨n, by rw [hn, hsame], by rw [hstamp]⟩
  · rw [if_pos hsame]
    have hnew : (log ++ [shape resource rest])[versions.reads]? = some (shape resource rest) := by
      rw [← h.length_eq, List.getElem?_concat_length]
    refine ⟨[shape resource rest], ⟨?_, fun id shape' stamp hfind => ?_⟩, versions.reads, hnew, rfl⟩
    · rw [List.length_append, h.length_eq]
      rfl
    · rw [OrdMap.find?_insert] at hfind
      split_ifs at hfind with hid
      · obtain ⟨rfl, rfl⟩ := Prod.mk.inj (Option.some.inj hfind)
        exact ⟨versions.reads, hnew, rfl⟩
      · obtain ⟨n, hn, hstamp⟩ := h.known _ _ _ hfind
        have hlt : n < log.length := (List.getElem?_eq_some_iff.mp hn).1
        exact ⟨n, by rw [List.getElem?_append_left hlt, hn], hstamp⟩

/-- **Resources stamped one after another.** -/
theorem Logged.stampAll (h : Logged versionNow versions log) (resources : List (JsonObject × Text)) :
    ∃ more, Logged versionNow (versions.stampAll versionNow resources).2 (log ++ more) ∧
      ∀ doc ∈ (versions.stampAll versionNow resources).1,
        ∃ e ∈ resources, Carries versionNow (log ++ more) e doc := by
  induction resources generalizing versions log with
  | nil => exact ⟨[], by rw [List.append_nil]; exact h, fun doc hdoc => by cases hdoc⟩
  | cons e resources ih =>
    obtain ⟨more, hlogged, hcarries⟩ := h.versioned e.1 e.2
    obtain ⟨further, hlast, hdocs⟩ := ih hlogged
    refine ⟨more ++ further, by rw [← List.append_assoc]; exact hlast, fun doc hdoc => ?_⟩
    rw [← List.append_assoc]
    rcases List.mem_cons.mp hdoc with rfl | hdoc
    · exact ⟨e, List.mem_cons_self, hcarries.append further⟩
    · obtain ⟨e', he', hdoc'⟩ := hdocs doc hdoc
      exact ⟨e', List.mem_cons_of_mem _ he', hdoc'⟩

theorem exists_stamp (resource : JsonObject) (seed : Text) :
    ∃ stamp, (versions.versioned versionNow resource seed).1 =
      .ofObject (resource.insert "version".toList (.str stamp)) := by
  unfold versioned
  dsimp only
  split_ifs
  · exact ⟨_, rfl⟩
  · exact ⟨_, rfl⟩

/-- Every resource is stamped. -/
theorem exists_of_mem_stampAll {e : JsonObject × Text} {resources : List (JsonObject × Text)}
    (he : e ∈ resources) : ∃ doc ∈ (versions.stampAll versionNow resources).1,
      ∃ stamp, doc = .ofObject (e.1.insert "version".toList (.str stamp)) := by
  induction resources generalizing versions with
  | nil => cases he
  | cons e' resources ih =>
    rcases List.mem_cons.mp he with rfl | he
    · exact ⟨_, List.mem_cons_self, exists_stamp e.1 e.2⟩
    · obtain ⟨doc, hdoc, hstamp⟩ := @ih (versions.versioned versionNow e'.1 e'.2).2 he
      exact ⟨doc, List.mem_cons_of_mem _ hdoc, hstamp⟩

/-- The version of a document. -/
def versionOf (doc : Json) : Text := (doc.get "version").asString

theorem versionOf_insert (resource : JsonObject) (stamp : Text) :
    versionOf (.ofObject (resource.insert "version".toList (.str stamp))) = stamp := by
  rw [versionOf, Json.get_ofObject, OrdMap.find?_insert_self]
  rfl

/-- **Documents with the same version have the same rest**, where no two readings of the wall clock are
the same. -/
theorem rest_eq_of_version_eq (hclock : Function.Injective versionNow) {e e' : JsonObject × Text}
    {doc doc' : Json} (h : Carries versionNow log e doc) (h' : Carries versionNow log e' doc')
    (hversion : versionOf doc = versionOf doc') : e.2 = e'.2 := by
  obtain ⟨n, hn, rfl⟩ := h
  obtain ⟨n', hn', rfl⟩ := h'
  rw [versionOf_insert, versionOf_insert] at hversion
  obtain rfl := hclock hversion
  have hshape : shape e.1 e.2 = shape e'.1 e'.2 := Option.some.inj (hn.symm.trans hn')
  exact obj_append_injective hshape

end Versions

end Aes67.Ravenna
