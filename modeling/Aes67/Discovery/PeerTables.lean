import Aes67.Lib.AgedTable
import Aes67.Lib.Text
import Aes67.Ptp.Wire

/-!
# Peers and receivers heard

The models of `PTPPeerTable` and of the rows of `RTCPReceiverTable`: who has been heard speaking
PTP, and who reports on the streams. Both tables are fed from the network under a key anybody can
make up, so both have a cap, and a new row takes the place of the one heard least recently.

* `PTPPeerTable` with `record`, `sweep` and `evictLeastRecentlySeen`, and `RTCPReceiverTable` with `record`
  and `sweep`; `rows_watch`: these make the rows of a run;
* **`tables_kept`**: the cap, the order of eviction and the history of every row, over every run;
* `recordings_not_counted`: the counter of a row after 2⁶⁴ recordings.
-/

namespace Aes67

open Ptp

/-! ## PTP peers -/

structure PTPPeerObservation where
  clockId : ClockIdentity := 0
  sourceIp : Text := []
  domain : ℤ := 0
  messageTypeMask : UInt32 := 0
  firstSeen : ℤ := 0
  lastSeen : ℤ := 0
  messageCount : UInt64 := 0

/-- `PTPPeerObservation::bit`. -/
def PTPPeerObservation.bit (msgType : UInt8) : UInt32 := 1 <<< (msgType &&& 0x1F).toUInt32

/-- The arguments of `PTPPeerTable::record`; the time is in nanoseconds. -/
structure PTPSighting where
  clockId : ClockIdentity
  messageType : UInt8
  sourceIp : Text
  domain : ℤ
  now : ℤ

namespace PTPPeerTable

/-- `kPeerTimeout`: ten seconds. -/
def kPeerTimeout : ℤ := 10 * 10 ^ 9

def kMaxPeers : ℕ := 64

/-- What `record` does to the row of the identity. -/
def update (o : PTPSighting) (row : PTPPeerObservation) : PTPPeerObservation :=
  let row := if row.messageCount = 0 then { row with clockId := o.clockId, firstSeen := o.now }
    else row
  { row with
    messageTypeMask := row.messageTypeMask ||| PTPPeerObservation.bit o.messageType
    sourceIp := if o.sourceIp ≠ [] then o.sourceIp else row.sourceIp
    domain := o.domain
    lastSeen := o.now
    messageCount := row.messageCount + 1 }

/-- How the rows are kept. -/
def ageing : Ageing ClockIdentity PTPPeerObservation PTPSighting where
  capacity := kMaxPeers
  timeout := kPeerTimeout
  key := PTPSighting.clockId
  seenAt := PTPSighting.now
  blank := {}
  touch := update
  name := PTPPeerObservation.clockId
  firstSeen := PTPPeerObservation.firstSeen
  lastSeen := PTPPeerObservation.lastSeen
  count := PTPPeerObservation.messageCount
  capacity_pos := by decide
  count_blank := rfl
  name_touch o row := by rw [update]; split_ifs <;> rfl
  firstSeen_touch o row := by rw [update]; split_ifs <;> rfl
  lastSeen_touch o row := rfl
  count_touch o row := by rw [update]; split_ifs <;> rfl

/-- The table: one row for each identity. -/
abbrev Rows := OrdMap ClockIdentity PTPPeerObservation

def evictLeastRecentlySeen (rows : Rows) : Rows := ageing.evict rows

/-- `PTPPeerTable::record`. -/
def record (rows : Rows) (o : PTPSighting) : Rows := ageing.record rows o

/-- `PTPPeerTable::sweep`. -/
def sweep (rows : Rows) (now : ℤ) : Rows := ageing.sweep rows now

/-- **The rows of a run** are what `record` and `sweep` make of them. -/
theorem rows_watch (t : Ageing.Watched ClockIdentity PTPPeerObservation PTPSighting) :
    (∀ o, (ageing.watch t (.record o)).rows = record t.rows o) ∧
      ∀ now, (ageing.watch t (.sweep now)).rows = sweep t.rows now :=
  ⟨fun _ => rfl, fun _ => rfl⟩

/-- A new peer in a full table takes the row of the one heard least recently. -/
theorem record_of_full {rows : Rows} {o : PTPSighting} (hnew : rows.find? o.clockId = none)
    (hfull : kMaxPeers ≤ rows.entries.length) :
    record rows o = (evictLeastRecentlySeen rows).insert o.clockId (update o {}) := by
  have hcrowded : ageing.crowded rows o = true := by
    rw [Ageing.crowded, Bool.and_eq_true]
    exact ⟨Option.isNone_iff_eq_none.mpr hnew, decide_eq_true hfull⟩
  exact ageing.record_of_crowded hcrowded

end PTPPeerTable

/-! ## RTCP reporters -/

structure RTCPReporter where
  ssrc : ℕ := 0
  sourceIp : Text := []
  cname : Text := []
  firstSeen : ℤ := 0
  lastSeen : ℤ := 0
  packetCount : UInt64 := 0

/-- The arguments of `RTCPReceiverTable::record`. -/
structure RTCPSighting where
  ssrc : ℕ
  sourceIp : Text
  cname : Text
  now : ℤ

namespace RTCPReceiverTable

/-- `kReporterTimeout`: a minute. -/
def kReporterTimeout : ℤ := 60 * 10 ^ 9

def kMaxReporters : ℕ := 256

/-- What `record` does to the row of the reporter. -/
def update (o : RTCPSighting) (r : RTCPReporter) : RTCPReporter :=
  let r := if r.packetCount = 0 then { r with ssrc := o.ssrc, firstSeen := o.now } else r
  { r with
    sourceIp := if o.sourceIp ≠ [] then o.sourceIp else r.sourceIp
    cname := if o.cname ≠ [] then o.cname else r.cname
    lastSeen := o.now
    packetCount := r.packetCount + 1 }

/-- How the rows are kept. -/
def ageing : Ageing ℕ RTCPReporter RTCPSighting where
  capacity := kMaxReporters
  timeout := kReporterTimeout
  key := RTCPSighting.ssrc
  seenAt := RTCPSighting.now
  blank := {}
  touch := update
  name := RTCPReporter.ssrc
  firstSeen := RTCPReporter.firstSeen
  lastSeen := RTCPReporter.lastSeen
  count := RTCPReporter.packetCount
  capacity_pos := by decide
  count_blank := rfl
  name_touch o r := by rw [update]; split_ifs <;> rfl
  firstSeen_touch o r := by rw [update]; split_ifs <;> rfl
  lastSeen_touch o r := rfl
  count_touch o r := by rw [update]; split_ifs <;> rfl

/-- The table: one row for each reporter. -/
abbrev Rows := OrdMap ℕ RTCPReporter

/-- `RTCPReceiverTable::record`. -/
def record (rows : Rows) (o : RTCPSighting) : Rows := ageing.record rows o

/-- `RTCPReceiverTable::sweep`. -/
def sweep (rows : Rows) (now : ℤ) : Rows := ageing.sweep rows now

/-- **The rows of a run** are what `record` and `sweep` make of them. -/
theorem rows_watch (t : Ageing.Watched ℕ RTCPReporter RTCPSighting) :
    (∀ o, (ageing.watch t (.record o)).rows = record t.rows o) ∧
      ∀ now, (ageing.watch t (.sweep now)).rows = sweep t.rows now :=
  ⟨fun _ => rfl, fun _ => rfl⟩

end RTCPReceiverTable

/-! ## Over every run -/

/-- **How both tables are kept**, over recordings and sweeps in order of time: never more rows than
the cap, one for each key, the one just recorded among them; nobody evicted but to make room, and
nobody heard later than a row that stays; a sweep drops what is older than the timeout and nothing
else; and every row is what the recordings since it was made come to, its first time and its count
as long as they are fewer than 2⁶⁴. -/
theorem tables_kept :
    (∀ (ops : List (Watch PTPSighting)) (op : Watch PTPSighting),
      ((ops ++ [op]).Pairwise fun a b =>
        PTPPeerTable.ageing.moment a ≤ PTPPeerTable.ageing.moment b) →
      PTPPeerTable.ageing.Keeps (ops.foldl PTPPeerTable.ageing.watch {}) op) ∧
    ∀ (ops : List (Watch RTCPSighting)) (op : Watch RTCPSighting),
      ((ops ++ [op]).Pairwise fun a b =>
        RTCPReceiverTable.ageing.moment a ≤ RTCPReceiverTable.ageing.moment b) →
      RTCPReceiverTable.ageing.Keeps (ops.foldl RTCPReceiverTable.ageing.watch {}) op :=
  ⟨fun ops op h => Ageing.keeps ops op h, fun ops op h => Ageing.keeps ops op h⟩

/-- As many peers as the table has rows for, one after another. -/
def full : List (Watch PTPSighting) :=
  (List.range PTPPeerTable.kMaxPeers).map fun k => .record ⟨k, 0x0B, "10.0.0.1".toList, 0, k⟩

/-- One peer more, for which the first has to go; and a sweep of the reporters. -/
theorem tables_kept_full :
    PTPPeerTable.ageing.Keeps (full.foldl PTPPeerTable.ageing.watch {})
      (.record ⟨64, 0x0B, "10.0.0.1".toList, 0, 64⟩) ∧
    (PTPPeerTable.record (full.foldl PTPPeerTable.ageing.watch {}).rows
      ⟨64, 0x0B, "10.0.0.1".toList, 0, 64⟩).find? 0 = none ∧
    RTCPReceiverTable.ageing.Keeps
      ([.record ⟨1, "10.0.0.1".toList, [], 0⟩].foldl RTCPReceiverTable.ageing.watch {})
      (.sweep (60 * 10 ^ 9)) :=
  ⟨tables_kept.1 _ _ (by decide +kernel), by decide +kernel, tables_kept.2 _ _ (by decide)⟩

/-- **A counter that has come round**: after 2⁶⁴ recordings of a reporter its row counts none, and
the next is taken for the first. -/
theorem count_comes_round (o : RTCPSighting) :
    ∃ row, ((List.replicate (2 ^ 64) (Watch.record o)).foldl RTCPReceiverTable.ageing.watch
      {}).rows.find? o.ssrc = some row ∧ row.packetCount = 0 ∧
      ∀ o' : RTCPSighting, (RTCPReceiverTable.update o' row).firstSeen = o'.now := by
  obtain ⟨n, hn⟩ : ∃ n, 2 ^ 64 = n + 1 := ⟨2 ^ 64 - 1, by norm_num⟩
  rw [hn]
  obtain ⟨hlog, row, hrow⟩ := Ageing.log_replicate (p := RTCPReceiverTable.ageing) o n
  have hmade := ((Ageing.holds_run (p := RTCPReceiverTable.ageing) _).row _ _ hrow).2.2
  have hcount : row.packetCount = 0 := by
    have h := Ageing.count_made (p := RTCPReceiverTable.ageing) (List.replicate (n + 1) o)
    rw [← hlog, ← hmade, hlog, List.length_replicate, ← hn] at h
    exact h
  refine ⟨row, hrow, hcount, fun o' => ?_⟩
  rw [RTCPReceiverTable.update, if_pos hcount]

theorem recordings_not_counted : ∃ ops : List (Watch RTCPSighting),
    (ops.Pairwise fun a b =>
      RTCPReceiverTable.ageing.moment a ≤ RTCPReceiverTable.ageing.moment b) ∧
    ∃ row, (ops.foldl RTCPReceiverTable.ageing.watch {}).rows.find? 1 = some row ∧
      row.packetCount.toNat = 0 ∧
      ((ops.foldl RTCPReceiverTable.ageing.watch {}).log 1).length = 2 ^ 64 := by
  obtain ⟨row, hrow, hcount, -⟩ := count_comes_round ⟨1, "10.0.0.1".toList, [], 0⟩
  refine ⟨_, ?_, row, hrow, by rw [hcount]; rfl, ?_⟩
  · exact List.pairwise_replicate.mpr (.inr (le_refl _))
  · obtain ⟨n, hn⟩ : ∃ n, 2 ^ 64 = n + 1 := ⟨2 ^ 64 - 1, by norm_num⟩
    have hlog := (Ageing.log_replicate (p := RTCPReceiverTable.ageing)
      ⟨1, "10.0.0.1".toList, [], 0⟩ n).1
    rw [hn]
    exact (congrArg List.length hlog).trans List.length_replicate

end Aes67
