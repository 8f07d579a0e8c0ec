import Aes67.Lib.Records
import Aes67.Lib.Run

/-!
# The status socket

The model of the PTP daemon's status socket: `PTPServiceServer::publish` and `acceptLoop` at one end,
`PTPServiceClient::connectOnce` and `readLoop` at the other, and between them streams that keep the
order of their bytes. A status is 68 bytes and nothing marks where one starts.

* `PTPServiceStatus` with `toBytes`, `ofBytes` and **`ofBytes_toBytes`**;
* `Service`: both ends and what is on its way, with a trace of what was published, sent and stored;
  `Op`, `Service.step`;
* `Framed`: the invariant; `Framed.step`, one lemma for each operation;
* **`framing`**: over every run, what is stored over a connection is what was sent whole over it, in
  order, with the publications' own numbers, which strictly increase while there are fewer than 2^32;
* `not_increasing`: behind that they start again.
-/

namespace Aes67.Ptp

/-! ## A status -/

def kPTPServiceMagic : UInt32 := 0x41503750

def kPTPServiceVersion : UInt32 := 1

/-- `sizeof(PTPServiceStatus)`. -/
def kStatusSize : ℕ := 68

/-- `PTPServiceStatus`. The drift is the bits of its double, the grandmaster's identity its eight
bytes as one word. -/
structure PTPServiceStatus where
  magic : UInt32 := kPTPServiceMagic
  version : UInt32 := kPTPServiceVersion
  length : UInt32 := 68
  sequence : UInt32 := 0
  locked : UInt8 := 0
  clockClass : UInt8 := 255
  clockAccuracy : UInt8 := 0xFE
  domain : UInt8 := 0
  offsetNs : Int64 := 0
  pathDelayNs : Int64 := 0
  frequencyDriftPpb : UInt64 := 0
  publishedAtMs : UInt64 := 0
  grandmasterIdentity : UInt64 := 0
  syncCount : UInt32 := 0
  delayCount : UInt32 := 0
  deriving DecidableEq

namespace PTPServiceStatus

/-- The widths of the fields, in the order they stand. -/
def layout : List ℕ := [4, 4, 4, 4, 1, 1, 1, 1, 8, 8, 8, 8, 8, 4, 4]

/-- The fields as numbers. -/
def values (s : PTPServiceStatus) : List ℕ :=
  [s.magic.toNat, s.version.toNat, s.length.toNat, s.sequence.toNat, s.locked.toNat,
    s.clockClass.toNat, s.clockAccuracy.toNat, s.domain.toNat, s.offsetNs.toUInt64.toNat,
    s.pathDelayNs.toUInt64.toNat, s.frequencyDriftPpb.toNat, s.publishedAtMs.toNat,
    s.grandmasterIdentity.toNat, s.syncCount.toNat, s.delayCount.toNat]

/-- The status as it lies in memory. -/
def toBytes (s : PTPServiceStatus) : List UInt8 := pack layout s.values

/-- Memory read as a status. -/
def ofBytes (bytes : List UInt8) : PTPServiceStatus :=
  let field (i : ℕ) : ℕ := (unpack layout bytes).getD i 0
  { magic := .ofNat (field 0), version := .ofNat (field 1), length := .ofNat (field 2)
    sequence := .ofNat (field 3), locked := .ofNat (field 4), clockClass := .ofNat (field 5)
    clockAccuracy := .ofNat (field 6), domain := .ofNat (field 7)
    offsetNs := (UInt64.ofNat (field 8)).toInt64, pathDelayNs := (UInt64.ofNat (field 9)).toInt64
    frequencyDriftPpb := .ofNat (field 10), publishedAtMs := .ofNat (field 11)
    grandmasterIdentity := .ofNat (field 12), syncCount := .ofNat (field 13)
    delayCount := .ofNat (field 14) }

theorem length_toBytes (s : PTPServiceStatus) : s.toBytes.length = kStatusSize :=
  length_pack rfl

theorem ofNat_mod_32 (v : UInt32) : UInt32.ofNat (v.toNat % 256 ^ 4) = v := by
  rw [Nat.mod_eq_of_lt (show v.toNat < 256 ^ 4 from v.toNat_lt), UInt32.ofNat_toNat]

theorem ofNat_mod_8 (v : UInt8) : UInt8.ofNat (v.toNat % 256 ^ 1) = v := by
  rw [Nat.mod_eq_of_lt (show v.toNat < 256 ^ 1 from v.toNat_lt), UInt8.ofNat_toNat]

theorem ofNat_mod_64 (v : UInt64) : UInt64.ofNat (v.toNat % 256 ^ 8) = v := by
  rw [Nat.mod_eq_of_lt (show v.toNat < 256 ^ 8 from v.toNat_lt), UInt64.ofNat_toNat]

/-- **A status is its bytes.** -/
theorem ofBytes_toBytes (s : PTPServiceStatus) : ofBytes s.toBytes = s := by
  have h : unpack layout (pack layout s.values) = _ := unpack_pack rfl
  simp only [ofBytes, toBytes, h]
  simp only [layout, values, List.zipWith_cons_cons, List.zipWith_nil_left, List.getD_cons_zero,
    List.getD_cons_succ, ofNat_mod_32, ofNat_mod_8, ofNat_mod_64, Int64.toInt64_toUInt64]

end PTPServiceStatus

/-! ## The two ends -/

/-- What becomes of one `send`: all of it goes, the reader is behind, a part of it goes, or it
fails. -/
inductive Send
  | complete
  | wouldBlock
  | short (n : Fin kStatusSize)
  | failed

namespace Send

/-- What goes onto the stream. -/
def taken (bytes : List UInt8) : Send → List UInt8
  | complete => bytes
  | short n => bytes.take n
  | wouldBlock | failed => []

/-- All of it goes. -/
def whole : Send → Bool
  | complete => true
  | _ => false

/-- The server leaves the connection open. -/
def keeps : Send → Bool
  | complete | wouldBlock => true
  | short _ | failed => false

end Send

def kMaxClients : ℕ := 32

/-- `PTPServiceServer`: its counter and its connections, the oldest first. -/
structure PTPServiceServer where
  sequence : UInt32 := 0
  clients : List ℕ := []

/-- `PTPServiceClient`: its connection, what it has read of a status, and the last status it read. -/
structure PTPServiceClient where
  fd : Option ℕ := none
  filled : List UInt8 := []
  status : Option PTPServiceStatus := none

/-- The two ends, connections by number: those the server has not accepted yet, how many there have
been, and the bytes on their way over each. The rest is a trace: all that was published, what was sent
whole over each connection, and what was stored from it. -/
structure Service where
  server : PTPServiceServer := {}
  client : PTPServiceClient := {}
  backlog : List ℕ := []
  opened : ℕ := 0
  inFlight : ℕ → List UInt8 := fun _ => []
  published : List PTPServiceStatus := []
  sent : ℕ → List PTPServiceStatus := fun _ => []
  stored : ℕ → List PTPServiceStatus := fun _ => []

/-- A status as it is published. -/
def PTPServiceServer.stamp (server : PTPServiceServer) (status : PTPServiceStatus)
    (publishedAtMs : UInt64) : PTPServiceStatus :=
  { status with
    magic := kPTPServiceMagic
    version := kPTPServiceVersion
    length := 68
    sequence := server.sequence + 1
    publishedAtMs := publishedAtMs }

namespace Service

variable (w : Service)

/-- `PTPServiceServer::publish`. -/
def publish (status : PTPServiceStatus) (publishedAtMs : UInt64) (outcome : ℕ → Send) : Service :=
  let status := w.server.stamp status publishedAtMs
  { w with
    server :=
      { sequence := w.server.sequence + 1
        clients := w.server.clients.filter fun c => (outcome c).keeps }
    inFlight := fun c =>
      if c ∈ w.server.clients then w.inFlight c ++ (outcome c).taken status.toBytes
      else w.inFlight c
    published := w.published ++ [status]
    sent := fun c =>
      if c ∈ w.server.clients ∧ (outcome c).whole then w.sent c ++ [status] else w.sent c }

/-- `PTPServiceServer::acceptLoop`, one connection. The oldest makes room. -/
def accept : Service :=
  match w.backlog with
  | [] => w
  | c :: backlog =>
    let clients :=
      if w.server.clients.length ≥ kMaxClients then w.server.clients.tail else w.server.clients
    { w with server := { w.server with clients := clients ++ [c] }, backlog := backlog }

/-- `PTPServiceServer::stop`. -/
def stop : Service := { w with server := { w.server with clients := [] }, backlog := [] }

/-- Someone else connects. -/
def dial : Service := { w with backlog := w.backlog ++ [w.opened], opened := w.opened + 1 }

/-- `PTPServiceClient::connectOnce` where it succeeds. -/
def connect : Service :=
  match w.client.fd with
  | some _ => w
  | none => { w.dial with client := { w.client with fd := some w.opened, filled := [] } }

/-- One turn of `PTPServiceClient::readLoop` in which `n` bytes arrive, or as many as there are and it
asks for. -/
def recv (n : ℕ) : Service :=
  match w.client.fd with
  | none => w
  | some c =>
    let k := min n (kStatusSize - w.client.filled.length)
    let filled := w.client.filled ++ (w.inFlight c).take k
    let w := { w with inFlight := Function.update w.inFlight c ((w.inFlight c).drop k) }
    if filled.length < kStatusSize then { w with client := { w.client with filled := filled } }
    else
      let incoming := PTPServiceStatus.ofBytes filled
      if incoming.magic ≠ kPTPServiceMagic ∨ incoming.version ≠ kPTPServiceVersion ∨
          incoming.length ≠ 68 then
        { w with client := { w.client with fd := none, filled := [] } }
      else
        { w with
          client := { w.client with filled := [], status := some incoming }
          stored := Function.update w.stored c (w.stored c ++ [incoming]) }

/-- The client's connection ends: `recv` finds it closed or fails, or the client stops. -/
def hangUp : Service := { w with client := { w.client with fd := none } }

/-- Whatever happens at either end or in between. -/
inductive Op
  | publish (status : PTPServiceStatus) (publishedAtMs : UInt64) (outcome : ℕ → Send)
  | accept
  | stop
  | dial
  | connect
  | recv (n : ℕ)
  | hangUp

def step (w : Service) : Op → Service
  | .publish status publishedAtMs outcome => w.publish status publishedAtMs outcome
  | .accept => w.accept
  | .stop => w.stop
  | .dial => w.dial
  | .connect => w.connect
  | .recv n => w.recv n
  | .hangUp => w.hangUp

/-! ## The invariant -/

/-- The bytes on the client's connection: what it has read of a status and what is on its way are what
is left of the statuses sent whole, and at most a part of one more, behind which the server sends
nothing. -/
def Aligned (c : ℕ) : Prop :=
  ∃ tail, InStep PTPServiceStatus.toBytes kStatusSize (w.sent c) (w.stored c).length
    w.client.filled (w.inFlight c) tail ∧ (tail ≠ [] → c ∉ w.server.clients ∧ c ∉ w.backlog)

structure Framed : Prop where
  lt : ∀ c ∈ w.server.clients ++ w.backlog, c < w.opened
  nodup : (w.server.clients ++ w.backlog).Nodup
  unsent : ∀ c, c ∈ w.backlog ∨ w.opened ≤ c → w.inFlight c = [] ∧ w.sent c = []
  sent_sublist : ∀ c, (w.sent c).Sublist w.published
  stored_prefix : ∀ c, w.stored c <+: w.sent c
  fd_lt : ∀ c, w.client.fd = some c → c < w.opened
  aligned : ∀ c, w.client.fd = some c → w.Aligned c
  status_mem : ∀ s, w.client.status = some s → ∃ c, s ∈ w.stored c
  numbered : w.published.map PTPServiceStatus.sequence =
    (List.range w.published.length).map fun i => UInt32.ofNat (i + 1)
  counted : w.server.sequence = UInt32.ofNat w.published.length
  stamped : ∀ s ∈ w.published,
    s.magic = kPTPServiceMagic ∧ s.version = kPTPServiceVersion ∧ s.length = 68

namespace Framed

variable {w}

theorem start : Framed {} where
  lt := by simp
  nodup := by simp
  unsent _ _ := ⟨rfl, rfl⟩
  sent_sublist _ := List.Sublist.refl _
  stored_prefix _ := List.prefix_rfl
  fd_lt _ h := by cases h
  aligned _ h := by cases h
  status_mem _ h := by cases h
  numbered := rfl
  counted := rfl
  stamped := by simp

theorem not_mem_backlog (h : w.Framed) {c : ℕ} (hc : c ∈ w.server.clients) : c ∉ w.backlog :=
  fun hb => List.disjoint_of_nodup_append h.nodup hc hb

/-- A connection the server writes to is aligned with nothing behind its statuses. -/
theorem aligned_open (h : w.Framed) {c : ℕ} (hfd : w.client.fd = some c)
    (hc : c ∈ w.server.clients) :
    InStep PTPServiceStatus.toBytes kStatusSize (w.sent c) (w.stored c).length w.client.filled
      (w.inFlight c) [] := by
  obtain ⟨tail, hin, hopen⟩ := h.aligned c hfd
  obtain rfl : tail = [] := by
    by_contra hne
    exact (hopen hne).1 hc
  exact hin

theorem publish (h : w.Framed) (status : PTPServiceStatus) (publishedAtMs : UInt64)
    (outcome : ℕ → Send) : (w.publish status publishedAtMs outcome).Framed where
  lt c hc := by
    refine h.lt c ?_
    rcases List.mem_append.mp hc with hc | hc
    · exact List.mem_append_left _ (List.mem_of_mem_filter hc)
    · exact List.mem_append_right _ hc
  nodup := h.nodup.sublist (List.filter_sublist.append_right _)
  unsent c hc := by
    have hnot : c ∉ w.server.clients := by
      intro hin
      rcases hc with hc | hc
      · exact h.not_mem_backlog hin hc
      · exact absurd (h.lt c (List.mem_append_left _ hin)) (Nat.not_lt.mpr hc)
    simp only [Service.publish, hnot, false_and, if_false]
    exact h.unsent c hc
  sent_sublist c := by
    simp only [Service.publish]
    split_ifs
    · exact (h.sent_sublist c).append (List.Sublist.refl _)
    · exact (h.sent_sublist c).trans (List.sublist_append_left _ _)
  stored_prefix c := by
    simp only [Service.publish]
    split_ifs
    · exact (h.stored_prefix c).trans (List.prefix_append _ _)
    · exact h.stored_prefix c
  fd_lt := h.fd_lt
  aligned c hfd := by
    by_cases hc : c ∈ w.server.clients
    · have hin := h.aligned_open hfd hc
      simp only [Aligned, Service.publish, hc, true_and]
      cases ho : outcome c with
      | complete => exact ⟨[], hin.send _, fun hne => absurd rfl hne⟩
      | wouldBlock =>
        refine ⟨[], ?_, fun hne => absurd rfl hne⟩
        simpa [Send.taken, Send.whole] using hin
      | short n =>
        refine ⟨_, hin.cut (w := _) ?_, fun _ => ⟨fun hmem => ?_, h.not_mem_backlog hc⟩⟩
        · simp only [Send.taken, List.length_take]
          exact (Nat.min_le_left _ _).trans_lt n.isLt
        · have hkeeps := (List.mem_filter.mp hmem).2
          rw [ho] at hkeeps
          cases hkeeps
      | failed =>
        refine ⟨[], ?_, fun hne => absurd rfl hne⟩
        simpa [Send.taken, Send.whole] using hin
    · obtain ⟨tail, hin, hopen⟩ := h.aligned c hfd
      simp only [Aligned, Service.publish, hc, false_and, if_false]
      exact ⟨tail, hin, fun hne =>
        ⟨fun hmem => hc (List.mem_of_mem_filter hmem), (hopen hne).2⟩⟩
  status_mem := h.status_mem
  numbered := by
    simp only [Service.publish, List.map_append, h.numbered, List.length_append,
      List.length_singleton, List.range_succ, List.map_singleton, PTPServiceServer.stamp, h.counted,
      UInt32.ofNat_add]
    rfl
  counted := by
    simp only [Service.publish, h.counted, List.length_append, List.length_singleton,
      UInt32.ofNat_add]
    rfl
  stamped s hs := by
    rcases List.mem_append.mp hs with hs | hs
    · exact h.stamped s hs
    · rw [List.mem_singleton.mp hs]
      exact ⟨rfl, rfl, rfl⟩

theorem accept (h : w.Framed) : w.accept.Framed := by
  rw [Service.accept]
  rcases hb : w.backlog with _ | ⟨c, backlog⟩
  · exact h
  generalize hcl : (if w.server.clients.length ≥ kMaxClients then w.server.clients.tail
    else w.server.clients) = clients
  have hsub : (clients ++ [c] ++ backlog).Sublist (w.server.clients ++ w.backlog) := by
    rw [hb, List.append_assoc, List.singleton_append]
    refine List.Sublist.append_right ?_ _
    rw [← hcl]
    split_ifs
    · exact List.tail_sublist _
    · exact List.Sublist.refl _
  exact
    { h with
      lt := fun x hx => h.lt x (hsub.subset hx)
      nodup := h.nodup.sublist hsub
      unsent := fun x hx => h.unsent x (hx.imp_left fun hx => hb ▸ List.mem_cons_of_mem _ hx)
      aligned := fun x hfd => by
        obtain ⟨tail, hin, hopen⟩ := h.aligned x hfd
        refine ⟨tail, hin, fun hne => ?_⟩
        have hnot : x ∉ w.server.clients ++ w.backlog := fun hmem =>
          (List.mem_append.mp hmem).elim (hopen hne).1 (hopen hne).2
        exact ⟨fun hmem => hnot (hsub.subset (List.mem_append_left _ hmem)),
          fun hmem => hnot (hsub.subset (List.mem_append_right _ hmem))⟩ }

theorem stop (h : w.Framed) : w.stop.Framed :=
  { h with
    lt := by simp [Service.stop]
    nodup := by simp [Service.stop]
    unsent := fun c hc => h.unsent c (Or.inr (hc.resolve_left (by simp [Service.stop])))
    aligned := fun c hfd => by
      obtain ⟨tail, hin, -⟩ := h.aligned c hfd
      exact ⟨tail, hin, fun _ => by simp [Service.stop]⟩ }

theorem not_mem_opened (h : w.Framed) : w.opened ∉ w.server.clients ++ w.backlog :=
  fun hmem => (h.lt _ hmem).false

theorem dial (h : w.Framed) : w.dial.Framed :=
  { h with
    lt := fun c hc => by
      rw [Service.dial, ← List.append_assoc] at hc
      rcases List.mem_append.mp hc with hc | hc
      · exact (h.lt c hc).trans (Nat.lt_succ_self _)
      · rw [List.mem_singleton.mp hc]
        exact Nat.lt_succ_self _
    nodup := by
      rw [Service.dial, ← List.append_assoc]
      exact h.nodup.append (List.nodup_singleton _)
        (List.disjoint_singleton.mpr h.not_mem_opened)
    unsent := fun c hc => by
      rcases hc with hc | hc
      · rcases List.mem_append.mp hc with hc | hc
        · exact h.unsent c (Or.inl hc)
        · exact h.unsent c (Or.inr (List.mem_singleton.mp hc).ge)
      · exact h.unsent c (Or.inr ((Nat.le_succ _).trans hc))
    fd_lt := fun c hfd => (h.fd_lt c hfd).trans (Nat.lt_succ_self _)
    aligned := fun c hfd => by
      obtain ⟨tail, hin, hopen⟩ := h.aligned c hfd
      refine ⟨tail, hin, fun hne => ⟨(hopen hne).1, fun hmem => ?_⟩⟩
      rcases List.mem_append.mp hmem with hmem | hmem
      · exact (hopen hne).2 hmem
      · exact (h.fd_lt c hfd).ne (List.mem_singleton.mp hmem) }

theorem connect (h : w.Framed) : w.connect.Framed := by
  rw [Service.connect]
  cases hfd : w.client.fd with
  | some c => exact h
  | none =>
    obtain ⟨hflight, hsent⟩ := h.unsent w.opened (Or.inr le_rfl)
    have hstored : w.stored w.opened = [] := by
      simpa [hsent] using h.stored_prefix w.opened
    exact
      { h.dial with
        fd_lt := fun c hc => by
          rw [← Option.some.inj hc]
          exact Nat.lt_succ_self _
        aligned := fun c hc => by
          obtain rfl := Option.some.inj hc
          refine ⟨[], ?_, fun hne => absurd rfl hne⟩
          change InStep _ _ (w.sent w.opened) (w.stored w.opened).length [] (w.inFlight w.opened) []
          rw [hflight, hsent, hstored]
          exact InStep.start (by decide)
        status_mem := h.status_mem }

theorem hangUp (h : w.Framed) : w.hangUp.Framed :=
  { h with
    fd_lt := fun _ hfd => by cases hfd
    aligned := fun _ hfd => by cases hfd
    status_mem := h.status_mem }

/-- Reading takes bytes off the stream, and is either still short of a status or has the next one. -/
theorem recv_cases (h : w.Framed) {c : ℕ} (hfd : w.client.fd = some c) (n : ℕ) :
    let k := min n (kStatusSize - w.client.filled.length)
    let filled := w.client.filled ++ (w.inFlight c).take k
    ∃ tail, (tail ≠ [] → c ∉ w.server.clients ∧ c ∉ w.backlog) ∧
      (filled.length < kStatusSize ∧ InStep PTPServiceStatus.toBytes kStatusSize (w.sent c)
          (w.stored c).length filled ((w.inFlight c).drop k) tail ∨
        filled.length = kStatusSize ∧ ∃ s, (w.sent c)[(w.stored c).length]? = some s ∧
          PTPServiceStatus.ofBytes filled = s ∧
          InStep PTPServiceStatus.toBytes kStatusSize (w.sent c) ((w.stored c).length + 1) []
            ((w.inFlight c).drop k) tail) := by
  intro k filled
  obtain ⟨tail, hin, hopen⟩ := h.aligned c hfd
  have hle : filled.length ≤ kStatusSize := by
    have hbuffer := hin.buffer_lt
    simp only [filled, k, List.length_append, List.length_take]
    omega
  rw [← List.take_append_drop k (w.inFlight c)] at hin
  refine ⟨tail, hopen, hle.lt_or_eq.imp (fun hlt => ⟨hlt, hin.read hlt⟩) fun heq => ?_⟩
  obtain ⟨s, hs, hbytes, hnext⟩ := hin.whole PTPServiceStatus.length_toBytes heq
  exact ⟨heq, s, hs, (congrArg _ hbytes).trans s.ofBytes_toBytes, hnext⟩

theorem recv (h : w.Framed) (n : ℕ) : (w.recv n).Framed := by
  rw [Service.recv]
  cases hfd : w.client.fd with
  | none => exact h
  | some c =>
  dsimp only
  obtain ⟨tail, hopen, hcases⟩ := h.recv_cases hfd n
  generalize min n (kStatusSize - w.client.filled.length) = k at hcases ⊢
  have hfresh : ∀ x, x ∈ w.backlog ∨ w.opened ≤ x →
      Function.update w.inFlight c ((w.inFlight c).drop k) x = [] ∧ w.sent x = [] := by
    intro x hx
    obtain ⟨hflight, hsent⟩ := h.unsent x hx
    refine ⟨?_, hsent⟩
    by_cases hxc : x = c
    · subst hxc
      rw [Function.update_self, hflight, List.drop_nil]
    · rw [Function.update_of_ne hxc, hflight]
  rcases hcases with ⟨hlt, hin⟩ | ⟨heq, s, hs, hbytes, hin⟩
  · rw [if_pos hlt]
    exact
      { h with
        unsent := hfresh
        fd_lt := h.fd_lt
        aligned := fun x hx => by
          obtain rfl := Option.some.inj (hfd.symm.trans hx)
          refine ⟨tail, ?_, hopen⟩
          simpa only [Function.update_self] using hin }
  · -- the next status sent is one that was published, so it is not turned down
    have hmem : s ∈ w.sent c := List.mem_of_getElem? hs
    obtain ⟨hmagic, hversion, hlength⟩ := h.stamped s ((h.sent_sublist c).subset hmem)
    rw [if_neg heq.not_lt, hbytes,
      if_neg (not_or.mpr ⟨not_not.mpr hmagic, not_or.mpr ⟨not_not.mpr hversion, not_not.mpr hlength⟩⟩)]
    have hstored : w.stored c ++ [s] <+: w.sent c := by
      obtain ⟨rest, hrest⟩ := h.stored_prefix c
      rw [← hrest, List.getElem?_append_right le_rfl, Nat.sub_self] at hs
      rcases rest with _ | ⟨r, rest⟩
      · cases hs
      · obtain rfl : r = s := Option.some.inj hs
        exact ⟨rest, by rw [← hrest, List.append_assoc, List.singleton_append]⟩
    have hprefix : ∀ x, Function.update w.stored c (w.stored c ++ [s]) x <+: w.sent x := by
      intro x
      by_cases hxc : x = c
      · subst hxc
        rw [Function.update_self]
        exact hstored
      · rw [Function.update_of_ne hxc]
        exact h.stored_prefix x
    exact
      { h with
        unsent := hfresh
        stored_prefix := hprefix
        fd_lt := h.fd_lt
        aligned := fun x hx => by
          obtain rfl := Option.some.inj (hfd.symm.trans hx)
          refine ⟨tail, ?_, hopen⟩
          simpa only [Function.update_self, List.length_append, List.length_singleton] using hin
        status_mem := fun x hx => by
          obtain rfl := Option.some.inj hx
          refine ⟨c, ?_⟩
          simp only [Function.update_self]
          exact List.mem_append_right _ (List.mem_singleton.mpr rfl) }

/-- **One step** keeps the two ends in step. -/
theorem step (h : w.Framed) (op : Op) : (w.step op).Framed := by
  cases op with
  | publish status publishedAtMs outcome => exact h.publish status publishedAtMs outcome
  | accept => exact h.accept
  | stop => exact h.stop
  | dial => exact h.dial
  | connect => exact h.connect
  | recv n => exact h.recv n
  | hangUp => exact h.hangUp

/-! ## Runs -/

theorem run (ops : List Op) : (ops.foldl Service.step {}).Framed :=
  (always_of_step (P := Framed) (fun _ op h => h.step op) start).run

/-- While the counter has not come round, what is published is in strictly increasing order. -/
theorem increasing (h : w.Framed) (hlt : w.published.length < 2 ^ 32) :
    (w.published.map PTPServiceStatus.sequence).Pairwise (· < ·) := by
  rw [h.numbered, List.pairwise_map]
  refine List.pairwise_lt_range.imp_of_mem fun {i j} hi hj hij => ?_
  have hi := List.mem_range.mp hi
  have hj := List.mem_range.mp hj
  rw [UInt32.lt_iff_toNat_lt, UInt32.toNat_ofNat_of_lt' (by simp only [UInt32.size]; omega),
    UInt32.toNat_ofNat_of_lt' (by simp only [UInt32.size]; omega)]
  omega

end Framed

/-- **The framing holds over every run.** Every status the client stores was published, bit for bit;
over one connection it stores the first of those that were sent whole over it, which stand in the order
they were published. What it has read of a status and what is on its way are the rest of what was sent
over that connection. The numbers of the publications are counted up by one, and those stored from one
connection strictly increase while fewer than 2^32 have been published. -/
theorem framing (ops : List Op) :
    let w := ops.foldl step {}
    (∀ s, w.client.status = some s → s ∈ w.published) ∧
    (∀ c, w.stored c <+: w.sent c ∧ (w.sent c).Sublist w.published) ∧
    (∀ c, w.client.fd = some c → w.Aligned c) ∧
    w.published.map PTPServiceStatus.sequence =
      (List.range w.published.length).map (fun i => UInt32.ofNat (i + 1)) ∧
    (w.published.length < 2 ^ 32 →
      ∀ c, ((w.stored c).map PTPServiceStatus.sequence).Pairwise (· < ·)) := by
  intro w
  have h : w.Framed := Framed.run ops
  have hsub : ∀ c, (w.stored c).Sublist w.published := fun c =>
    (h.stored_prefix c).sublist.trans (h.sent_sublist c)
  refine ⟨fun s hs => ?_, fun c => ⟨h.stored_prefix c, h.sent_sublist c⟩, h.aligned, h.numbered,
    fun hlt c => ?_⟩
  · obtain ⟨c, hc⟩ := h.status_mem s hs
    exact (hsub c).subset hc
  · exact (h.increasing hlt).sublist ((hsub c).map _)

/-! ## A counter that comes round -/

/-- A publication that every reader is behind for. -/
def quiet : Op := .publish {} 0 fun _ => .wouldBlock

theorem step_quiet (w : Service) : w.step quiet =
    { w with
      server := { w.server with sequence := w.server.sequence + 1 }
      published := (w.step quiet).published } := by
  simp [quiet, step, publish, Send.keeps, Send.taken, Send.whole]

/-- Such publications move nothing but the counter. -/
theorem run_quiet (w : Service) (m : ℕ) : (List.replicate m quiet).foldl step w =
    { w with
      server := { w.server with sequence := w.server.sequence + UInt32.ofNat m }
      published := ((List.replicate m quiet).foldl step w).published } := by
  induction m generalizing w with
  | zero => simp
  | succ m ih =>
    rw [List.replicate_succ, List.foldl_cons, ih, step_quiet]
    simp only [UInt32.ofNat_add, mk.injEq, PTPServiceServer.mk.injEq, and_true]
    rw [add_assoc, add_comm 1]
    rfl

/-- One status is sent, 2^32 - 2 find the reader behind, and one more is sent. -/
def cameRound : List Op :=
  [Op.connect, Op.accept, Op.publish {} 0 fun _ => .complete] ++ List.replicate (2 ^ 32 - 2) quiet ++
    [Op.publish {} 0 fun _ => .complete, Op.recv 68, Op.recv 68]

/-- **The second of the two has a smaller number** than the first. -/
theorem not_increasing : ¬ ∀ (ops : List Op) (c : ℕ),
    (((ops.foldl step {}).stored c).map PTPServiceStatus.sequence).Pairwise (· < ·) := by
  intro h
  have hrun := h cameRound 0
  rw [cameRound, List.foldl_append, List.foldl_append, run_quiet] at hrun
  revert hrun
  decide

end Service

end Aes67.Ptp
