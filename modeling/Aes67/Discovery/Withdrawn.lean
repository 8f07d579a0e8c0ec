import Aes67.Lib.Run
import Aes67.Discovery.SAPPackets

/-!
# A withdrawn session goes away

The announcer's packets and the listener's table. A packet names its session by a hash and a
source, its key; a hash of zero stands for none, and then a name and an address have to do. The
announcer does not keep clear of zero.

* `SAPListener.underKey`: how many entries stand under a key;
* `SAPListener.Usurped`: an announcement under the key takes over, by its name, an entry without a
  hash, while an entry under the key is there;
* `underKey_receive`: short of that, a key with a hash has one entry at most;
* **`withdrawn_iff`**: what is announced is in the table once, and gone when it is withdrawn, whatever
  comes before and in between, just when the body's hash is not zero.
-/

namespace Aes67

open Ravenna.DnsSd (Octets octets put16)
open SAPAnnouncement (sameSession sameSession_iff)

namespace SAPListener

/-- How many entries stand under a key. -/
def underKey (listener : SAPListener) (key : UInt16 × UInt32) : ℕ :=
  listener.discoveredStreams.countP (·.key = key)

/-- The entry an announcement is taken for. -/
def found? (listener : SAPListener) (announcement : SAPAnnouncement) : Option SAPAnnouncement :=
  listener.discoveredStreams.find? (sameSession · announcement)

/-- An announcement under the key takes over, by its name, an entry without a hash, while an entry
under the key is there. -/
def Usurped (key : UInt16 × UInt32) (listener : SAPListener) (r : Reception) : Prop :=
  r.read.key = key ∧ r.read.isDeletion = false ∧
    (∃ s, listener.found? r.read = some s ∧ s.msgIdHash = 0) ∧ listener.underKey key ≠ 0

variable {listener : SAPListener} {a s : SAPAnnouncement} {key : UInt16 × UInt32}
  {l p q : List SAPAnnouncement}

/-! ## The table -/

theorem replaceF_append (hp : ∀ x ∈ p, sameSession x a = false) (hs : sameSession s a = true) :
    (p ++ s :: q).replaceF (fun x => if sameSession x a then some a else none) = p ++ a :: q := by
  induction p with
  | nil => simp [hs]
  | cons x p ih =>
    rw [List.cons_append, List.replaceF_cons, hp x List.mem_cons_self]
    simpa using ih fun x hx => hp x (List.mem_cons_of_mem _ hx)

/-- The newest of a table is not its oldest. -/
theorem mem_dropOldest_concat (h0 : l ≠ []) (h : ∀ s ∈ l, s.lastSeen ≤ a.lastSeen) :
    a ∈ dropOldest (l ++ [a]) := by
  have hne : l ++ [a] ≠ [] := by simp
  have hpos : 0 < l.length := List.length_pos_iff.mpr h0
  have hidx : (l ++ [a]).minIdxOn SAPAnnouncement.lastSeen hne < l.length := by
    by_contra hlast
    have hlt := List.minIdxOn_lt_length (f := SAPAnnouncement.lastSeen) hne
    have heq : (l ++ [a]).minIdxOn SAPAnnouncement.lastSeen hne = l.length := by
      rw [List.length_append, List.length_singleton] at hlt
      omega
    obtain ⟨hi, -, hfirst⟩ := List.minIdxOn_eq_iff hne |>.mp heq
    have hhead := hfirst 0 hpos
    rw [List.getElem_append_left hpos, List.getElem_concat_length rfl] at hhead
    exact absurd (h _ (List.getElem_mem hpos)) (not_le.mpr hhead)
  unfold dropOldest
  rw [List.minIdxOn?_eq_some_minIdxOn hne]
  dsimp only
  rw [List.eraseIdx_append_of_lt_length hidx]
  exact List.mem_append_right _ (List.mem_singleton_self _)

/-- An announcement takes the place of the first entry of its session, or else comes last. -/
theorem hear_announced (hdesc : a.sessionDescription ≠ []) (hdel : a.isDeletion = false) :
    (∃ p s q, listener.discoveredStreams = p ++ s :: q ∧ listener.found? a = some s ∧
      sameSession s a = true ∧ (listener.hear a).1.discoveredStreams = p ++ a :: q) ∨
    (∀ s ∈ listener.discoveredStreams, sameSession s a = false) ∧
      (listener.hear a).1.discoveredStreams =
        if listener.discoveredStreams.length < 50 then listener.discoveredStreams ++ [a]
        else dropOldest (listener.discoveredStreams ++ [a]) := by
  unfold hear
  rw [if_neg (by simp [hdesc]), if_neg (by simp [hdel])]
  cases hfound : listener.found? a with
  | some s =>
    left
    obtain ⟨hs, p, q, heq, hp⟩ := List.find?_eq_some_iff_append.mp hfound
    have hholds : listener.holds a = true :=
      List.any_eq_true.mpr ⟨s, by simp [heq], hs⟩
    refine ⟨p, s, q, heq, rfl, hs, ?_⟩
    rw [if_pos hholds, heq]
    exact replaceF_append (fun x hx => by simpa using hp x hx) hs
  | none =>
    right
    have hnone : ∀ s ∈ listener.discoveredStreams, sameSession s a = false :=
      fun s hs => by simpa using List.find?_eq_none.mp hfound s hs
    have hholds : ¬ listener.holds a = true := fun hh => by
      obtain ⟨s, hs, hsame⟩ := List.any_eq_true.mp hh
      rw [hnone s hs] at hsame
      exact Bool.noConfusion hsame
    refine ⟨hnone, ?_⟩
    rw [if_neg hholds]
    dsimp only
    rw [List.length_append, List.length_singleton]
    split_ifs <;> first
      | rfl
      | omega

/-- An announcement that is heard is in the table. -/
theorem mem_hear_self (h : ∀ s ∈ listener.discoveredStreams, s.lastSeen ≤ a.lastSeen)
    (hdesc : a.sessionDescription ≠ []) (hdel : a.isDeletion = false) :
    a ∈ (listener.hear a).1.discoveredStreams := by
  rcases @hear_announced listener _ hdesc hdel with
    ⟨p, s, q, -, -, -, hres⟩ | ⟨-, hres⟩ <;> rw [hres]
  · exact List.mem_append_right _ List.mem_cons_self
  · split_ifs with hroom
    · exact List.mem_append_right _ (List.mem_singleton_self _)
    · exact mem_dropOldest_concat (fun h0 => hroom (by rw [h0]; decide)) h

/-- **One entry to a key** with a hash, unless one is usurped. -/
theorem underKey_hear (hkey : key.1 ≠ 0) (h : listener.underKey key ≤ 1)
    (hclean : a.key = key → a.isDeletion = false →
      (∃ s, listener.found? a = some s ∧ s.msgIdHash = 0) → listener.underKey key = 0) :
    (listener.hear a).1.underKey key ≤ 1 := by
  by_cases hdel : a.isDeletion = true
  · refine le_trans ?_ h
    unfold hear
    rw [if_neg (by simp [hdel]), if_pos hdel]
    exact List.eraseP_sublist.countP_le
  rw [Bool.not_eq_true] at hdel
  by_cases hdesc : a.sessionDescription = []
  · unfold hear
    rwa [if_pos ⟨hdesc, hdel⟩]
  rcases @hear_announced listener _ hdesc hdel with
    ⟨p, s, q, heq, hfound, hs, hres⟩ | ⟨hnone, hres⟩
  · have hold : listener.underKey key =
        p.countP (·.key = key) + (q.countP (·.key = key) + if s.key = key then 1 else 0) := by
      simp [underKey, heq, List.countP_append, List.countP_cons]
    have hnew : (listener.hear a).1.underKey key =
        p.countP (·.key = key) + (q.countP (·.key = key) + if a.key = key then 1 else 0) := by
      simp [underKey, hres, List.countP_append, List.countP_cons]
    by_cases ha : a.key = key
    · by_cases hs0 : s.msgIdHash = 0
      · have := hclean ha hdel ⟨s, hfound, hs0⟩
        split_ifs at hold hnew <;> omega
      · have ha0 : a.msgIdHash ≠ 0 := fun h0 => hkey (by rw [← ha]; exact h0)
        rw [if_pos (((sameSession_iff hs0 ha0).mp hs).trans ha)] at hold
        rw [if_pos ha] at hnew
        omega
    · rw [if_neg ha] at hnew
      omega
  · have hle : (listener.hear a).1.underKey key ≤
        listener.underKey key + if a.key = key then 1 else 0 := by
      have hall : (listener.discoveredStreams ++ [a]).countP (·.key = key) =
          listener.underKey key + if a.key = key then 1 else 0 := by
        simp [underKey, List.countP_append, List.countP_cons]
      rw [← hall, underKey, hres]
      split_ifs
      · exact le_refl _
      · exact (dropOldest_sublist _).countP_le
    by_cases ha : a.key = key
    · have ha0 : a.msgIdHash ≠ 0 := fun h0 => hkey (by rw [← ha]; exact h0)
      have hzero : listener.underKey key = 0 := by
        refine List.countP_eq_zero.mpr fun s hs hsk => ?_
        have hsk : s.key = key := by simpa using hsk
        have hs0 : s.msgIdHash ≠ 0 := fun h0 => hkey (by rw [← hsk]; exact h0)
        have hsame := (sameSession_iff hs0 ha0).mpr (hsk.trans ha.symm)
        rw [hnone s hs] at hsame
        exact Bool.noConfusion hsame
      rw [if_pos ha] at hle
      omega
    · rw [if_neg ha] at hle
      omega

theorem countP_eraseP_self (f : SAPAnnouncement → Bool) (l : List SAPAnnouncement) :
    (l.eraseP f).countP f = l.countP f - 1 := by
  induction l with
  | nil => rfl
  | cons s l ih =>
    by_cases hs : f s = true
    · rw [List.eraseP_cons_of_pos hs, List.countP_cons_of_pos hs, Nat.add_sub_cancel]
    · rw [List.eraseP_cons_of_neg hs, List.countP_cons_of_neg hs, List.countP_cons_of_neg hs, ih]

/-- A deletion with a hash leaves no entry under its key. -/
theorem underKey_hear_deletion (hkey : a.msgIdHash ≠ 0) (hname : a.sessionName = [])
    (hdel : a.isDeletion = true) (h : listener.underKey a.key ≤ 1) :
    (listener.hear a).1.underKey a.key = 0 := by
  have hsame : (sameSession · a) = fun s => decide (s.key = a.key) := by
    funext s
    by_cases hs0 : s.msgIdHash = 0
    · have hne : s.key ≠ a.key := fun he => hkey (by rw [← hs0]; exact (congrArg Prod.fst he).symm)
      simp [sameSession, hs0, hne, hname]
    · rw [Bool.eq_iff_iff, sameSession_iff hs0 hkey, decide_eq_true_iff]
  unfold hear
  rw [if_neg (by simp [hdel]), if_pos hdel, hsame, underKey, countP_eraseP_self]
  exact Nat.sub_eq_zero_of_le h

/-! ## Runs -/

theorem lastSeen_read (r : Reception) : r.read.lastSeen = r.now := by
  have hid (data : Octets) (a : SAPAnnouncement) : (identified data a).lastSeen = a.lastSeen := by
    unfold identified
    split_ifs <;> rfl
  unfold Reception.read parseAnnouncement
  dsimp only
  split_ifs
  · rfl
  · rfl
  · rw [hid]
  · rw [hid]
  · split
    · split_ifs
      · rw [(parseSDPInfo_frame _ _).2.2.1]
        exact hid ..
      · rw [hid]
    · rw [hid]

/-- What is in the table was heard, at a time. -/
theorem lastSeen_le {rs : List Reception} {t : ℤ} (h : ∀ r ∈ rs, r.now ≤ t)
    (h0 : ∀ s ∈ listener.discoveredStreams, s.lastSeen ≤ t) :
    ∀ s ∈ (rs.foldl receive listener).discoveredStreams, s.lastSeen ≤ t := by
  induction rs generalizing listener with
  | nil => exact h0
  | cons r rs ih =>
    refine ih (fun r hr => h r (List.mem_cons_of_mem _ hr)) fun s hs => ?_
    rcases mem_hear hs with hs | ⟨rfl, -⟩
    · exact h0 s hs
    · rw [lastSeen_read]
      exact h r List.mem_cons_self

theorem underKey_receive (hkey : key.1 ≠ 0) {rs : List Reception}
    (h : listener.underKey key ≤ 1)
    (hclean : Along receive (fun l r => ¬ l.Usurped key r) listener rs) :
    (rs.foldl receive listener).underKey key ≤ 1 := by
  refine (always_of_along (P := fun l : SAPListener => l.underKey key ≤ 1) ?_ h hclean).run
  intro l r hl hr
  refine underKey_hear hkey hl fun hk hdel hs => ?_
  by_contra hne
  exact hr ⟨hk, hdel, hs, hne⟩

end SAPListener

/-! ## The announcer's session -/

open SAPListener

/-- The announcer's packets for a body, as they arrive. -/
def Reception.ofAnnouncer (body : Octets) (source : UInt32) (address : Text) (deletion : Bool)
    (now : ℤ) : Reception :=
  ⟨buildPacket body (hashSdp body) source deletion, address, now⟩

/-- The entries with exactly this description, hash and source. -/
def SAPListener.entriesOf (listener : SAPListener) (body : Octets) (source : UInt32) :
    List SAPAnnouncement :=
  listener.discoveredStreams.filter fun s =>
    s.sessionDescription = textOf body ∧ s.key = (hashSdp body, ntohl source)

section Announcer

variable {body : Octets} {source : UInt32} {address : Text} {now : ℤ} {listener : SAPListener}

theorem read_announced (hv : octets "v=0" <+: body) (h5 : 5 ≤ body.length)
    (hfit : 24 + body.length ≤ 2047) :
    let a := (Reception.ofAnnouncer body source address false now).read
    a.sessionDescription = textOf body ∧ a.isDeletion = false ∧
      a.key = (hashSdp body, ntohl source) := by
  have hread : (Reception.ofAnnouncer body source address false now).read =
      parseSDPInfo (textOf body)
        { sessionDescription := textOf body, sourceAddress := address, lastSeen := now,
          msgIdHash := hashSdp body, originatingSource := ntohl source } := by
    unfold Reception.read Reception.ofAnnouncer
    rw [List.take_of_length_le (by rw [length_buildPacket]; exact hfit)]
    exact parseAnnouncement_announced hv h5 hfit
  intro a
  unfold a
  rw [hread]
  obtain ⟨h1, -, -, h4, h5⟩ := parseSDPInfo_frame (textOf body)
    { sessionDescription := textOf body, sourceAddress := address, lastSeen := now,
      msgIdHash := hashSdp body, originatingSource := ntohl source }
  exact ⟨h1, h4, h5⟩

theorem read_withdrawn (hfit : 24 + body.length ≤ 2047) :
    (Reception.ofAnnouncer body source address true now).read =
      { sourceAddress := address, lastSeen := now, isDeletion := true, msgIdHash := hashSdp body,
        originatingSource := ntohl source } := by
  unfold Reception.read Reception.ofAnnouncer
  rw [List.take_of_length_le (by rw [length_buildPacket]; exact hfit)]
  exact parseAnnouncement_withdrawn hfit

theorem length_entriesOf_le : (listener.entriesOf body source).length ≤
    listener.underKey (hashSdp body, ntohl source) := by
  rw [entriesOf, underKey, ← List.countP_eq_length_filter]
  exact List.countP_mono_left fun s _ hs => by simp_all

theorem textOf_ne_nil (h5 : 5 ≤ body.length) : textOf body ≠ [] := by
  intro h0
  have : body.length = 0 := by rw [← List.length_map, ← textOf, h0]; rfl
  omega

/-- An announcement that fits is in the table it leaves. -/
theorem mem_entriesOf_announced (hv : octets "v=0" <+: body) (h5 : 5 ≤ body.length)
    (hfit : 24 + body.length ≤ 2047) (h : ∀ s ∈ listener.discoveredStreams, s.lastSeen ≤ now) :
    (Reception.ofAnnouncer body source address false now).read ∈
      (listener.receive (.ofAnnouncer body source address false now)).entriesOf body source := by
  obtain ⟨hdesc, hdel, hkey⟩ :=
    @read_announced _ source address now hv h5 hfit
  refine List.mem_filter.mpr ⟨mem_hear_self ?_ ?_ hdel, by simp [hdesc, hkey]⟩
  · rw [lastSeen_read]
    exact h
  · rw [hdesc]
    exact textOf_ne_nil h5

/-- A deletion without a hash finds nothing. -/
theorem receive_withdrawn_of_zero (hfit : 24 + body.length ≤ 2047) (h0 : hashSdp body = 0)
    (listener : SAPListener) :
    listener.receive (.ofAnnouncer body source address true now) = listener := by
  have hnone : ∀ s ∈ listener.discoveredStreams,
      ¬ sameSession s (Reception.ofAnnouncer body source address true now).read = true := by
    intro s _
    rw [read_withdrawn hfit, h0]
    by_cases hs : s.sessionName = [] <;> simp [sameSession, hs]
  have hdel : (Reception.ofAnnouncer body source address true now).read.isDeletion = true := by
    rw [read_withdrawn hfit]
  unfold receive hear
  rw [if_neg (by simp [hdel]), if_pos hdel, List.eraseP_of_forall_not hnone]

end Announcer

/-- **A withdrawn session goes away**, whatever is heard before and in between and unless an entry
under its key is usurped, just when its hash is not the one that stands for none. -/
theorem withdrawn_iff (body : Octets) (source : UInt32) (address : Text)
    (hv : octets "v=0" <+: body) (h5 : 5 ≤ body.length) (hfit : 24 + body.length ≤ 2047) :
    (∀ (before between : List Reception) (now later : ℤ),
      let announced := Reception.ofAnnouncer body source address false now
      let withdrawn := Reception.ofAnnouncer body source address true later
      (∀ r ∈ before, r.now ≤ now) →
      Along receive (fun l r => ¬ l.Usurped (hashSdp body, ntohl source) r) {}
        (before ++ announced :: between) →
      (((before ++ [announced]).foldl receive {}).entriesOf body source).length = 1 ∧
      ((before ++ announced :: between ++ [withdrawn]).foldl receive {}).entriesOf body source =
        []) ↔
    hashSdp body ≠ 0 := by
  constructor
  · intro h h0
    have hclean : ∀ l : SAPListener, l.discoveredStreams = [] →
        ¬ l.Usurped (hashSdp body, ntohl source) (.ofAnnouncer body source address false 0) :=
      fun l hl hu => hu.2.2.2 (by rw [underKey, hl]; rfl)
    obtain ⟨-, hgone⟩ := h [] [] 0 0 (fun r hr => absurd hr List.not_mem_nil)
      ⟨hclean _ rfl, trivial⟩
    have hmem := @mem_entriesOf_announced _ source address 0 {} hv h5 hfit fun s hs => absurd hs List.not_mem_nil
    rw [List.nil_append, List.singleton_append, List.foldl_cons, List.foldl_cons, List.foldl_nil,
      receive_withdrawn_of_zero hfit h0] at hgone
    rw [hgone] at hmem
    exact absurd hmem List.not_mem_nil
  · intro hne before between now later announced withdrawn hbefore hclean
    have hone : ∀ rs, rs <+: before ++ announced :: between →
        (rs.foldl receive {}).underKey (hashSdp body, ntohl source) ≤ 1 := by
      intro rs hrs
      refine underKey_receive hne (Nat.zero_le 1) (along_iff_prefixes.mpr fun p r hp => ?_)
      exact along_iff_prefixes.mp hclean p r (hp.trans hrs)
    constructor
    · have hle := length_entriesOf_le.trans (hone (before ++ [announced]) ⟨between, by simp⟩)
      have hmem : announced.read ∈
          ((before ++ [announced]).foldl receive {}).entriesOf body source := by
        rw [List.foldl_concat]
        exact mem_entriesOf_announced hv h5 hfit
          (lastSeen_le hbefore fun s hs => absurd hs List.not_mem_nil)
      have hpos := List.length_pos_of_mem hmem
      omega
    · have hread : withdrawn.read = _ := read_withdrawn hfit
      have hkey : withdrawn.read.key = (hashSdp body, ntohl source) := by rw [hread]; rfl
      have hzero := underKey_hear_deletion (a := withdrawn.read) (by rw [hread]; exact hne)
        (by rw [hread]) (by rw [hread])
        (by rw [hkey]; exact hone (before ++ announced :: between) (List.prefix_refl _))
      rw [hkey] at hzero
      rw [List.foldl_concat]
      exact List.length_eq_zero_iff.mp (Nat.le_zero.mp (length_entriesOf_le.trans hzero.le))

/-- A session that has a hash. -/
def hashedSdp : Octets := octets "v=0\r\ns=1\r\n"

/-- A session whose hash is zero. -/
def unhashedSdp : Octets := octets "v=0\r\ns=571\r\n"

theorem hashed_withdrawn :
    ([Reception.ofAnnouncer hashedSdp 0 [] false 0,
      Reception.ofAnnouncer hashedSdp 0 [] true 1].foldl receive {}).entriesOf hashedSdp 0 = [] :=
  ((withdrawn_iff hashedSdp 0 [] (by decide) (by decide) (by decide)).mpr
    (by decide) [] [] 0 1 (fun r hr => absurd hr List.not_mem_nil)
    ⟨fun hu => hu.2.2.2 rfl, trivial⟩).2

/-- It is named and it fits, and it stays in the table when it is withdrawn. -/
theorem unhashed_not_withdrawn :
    octets "v=0" <+: unhashedSdp ∧ 5 ≤ unhashedSdp.length ∧ 24 + unhashedSdp.length ≤ 2047 ∧
    ([Reception.ofAnnouncer unhashedSdp 0 [] false 0,
      Reception.ofAnnouncer unhashedSdp 0 [] true 1].foldl receive {}).discoveredStreams.map
        (fun s => (s.sessionDescription, s.sessionName)) =
      [(textOf unhashedSdp, ['5', '7', '1'])] := by
  decide

end Aes67
