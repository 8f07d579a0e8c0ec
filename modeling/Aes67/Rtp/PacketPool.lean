import Aes67.Lib.Linked
import Aes67.Lib.Run

/-!
# The packet pool

`LockFreePacketPool` taken apart at its atomic steps: the loads and exchanges of the head of the
free list, the reads and writes of the links, the flags and the count. Any number of threads take
these steps in every order. A packet is known by its index, a node by the packet it stands for.

Beside the memory the state keeps what the calls have answered: how often the head was exchanged
and each packet taken off the free list, and which of these times it is handed out and not
released.

* `Memory`, `Pc`, `Memory.advance`, `Act`, `PacketPool.step`;
* `InvWith`: what every step keeps, `Rely`: what a thread relies on while the others step;
* `Sound`: every packet is on the free list, with one call or with one owner;
* `Tagged`: the tag does not wrap round between a load and its exchange;
* **`always_sound_iff`**: a run is sound throughout just when no release finds its packet handed
  out again.
-/

namespace Aes67.Rtp

/-- `PooledRTPPacket`, without the bytes, which the pool leaves alone. -/
structure PooledRTPPacket where
  length : UInt64 := 0
  sequenceNumber : UInt32 := 0
  presentationTime : UInt64 := 0
  arrivalTime : UInt64 := 0

/-- The head of the free list: the node it points to and the version. -/
structure TaggedPtr (n : ℕ) where
  ptr : Option (Fin n) := none
  tag : BitVec 64 := 0
  deriving DecidableEq

namespace LockFreePacketPool

/-- What the threads share. -/
structure Memory (n : ℕ) where
  freeListHead : TaggedPtr n := {}
  next : Fin n → Option (Fin n) := fun _ => none
  inUseFlags : Fin n → Bool := fun _ => false
  availableCount : BitVec 64 := 0
  packets : Fin n → PooledRTPPacket := fun _ => {}
  /-- how often the head was exchanged -/
  swaps : ℕ := 0
  /-- how often a packet was taken off the free list -/
  taken : Fin n → ℕ := fun _ => 0
  /-- the last of these times that `acquire` has answered -/
  answered : Fin n → ℕ := fun _ => 0
  /-- the times a packet was handed out and not released -/
  owners : Fin n → Finset ℕ := fun _ => ∅

/-- A thread's place inside a call. -/
inductive Pc (n : ℕ)
  | idle
  /-- `acquire`, before the load of the head -/
  | acquiring
  /-- the head is loaded, after `seen` exchanges -/
  | loaded (oldHead : TaggedPtr n) (seen : ℕ)
  /-- the link of the node at the head is read: before the exchange -/
  | following (i : Fin n) (tag : BitVec 64) (next : Option (Fin n)) (seen : ℕ)
  /-- the node is off the list: before the flag is set -/
  | popped (i : Fin n) (time : ℕ)
  /-- before the count goes down, and the packet is answered -/
  | flagged (i : Fin n) (time : ℕ)
  /-- `release`, before the exchange of the flag; how often the packet had been taken at the call -/
  | releasing (i : Fin n) (time : ℕ)
  /-- the flag is cleared: before the packet is reset -/
  | cleared (i : Fin n)
  /-- before the load of the head -/
  | reset (i : Fin n)
  /-- before the node is linked to the head -/
  | found (i : Fin n) (oldHead : TaggedPtr n)
  /-- before the exchange -/
  | linked (i : Fin n) (oldHead : TaggedPtr n)
  /-- the node is on the list: before the count goes up -/
  | pushed
  deriving DecidableEq

namespace Memory

variable {n : ℕ} (m : Memory n)

/-- An exchange of the head. -/
def swap (newHead : TaggedPtr n) : Memory n :=
  { m with freeListHead := newHead, swaps := m.swaps + 1 }

/-- The exchange in `acquire`. -/
def pop (i : Fin n) (tag : BitVec 64) (next : Option (Fin n)) : Memory n :=
  { m.swap ⟨next, tag + 1⟩ with taken := Function.update m.taken i (m.taken i + 1) }

/-- The end of `acquire`: the packet is counted and answered. -/
def answer (i : Fin n) (time : ℕ) : Memory n :=
  { m with
    availableCount := m.availableCount - 1
    answered := Function.update m.answered i time
    owners := Function.update m.owners i (insert time (m.owners i)) }

/-- The exchange of the flag in `release`, where it is set. -/
def clear (i : Fin n) (time : ℕ) : Memory n :=
  { m with
    inUseFlags := Function.update m.inUseFlags i false
    owners := Function.update m.owners i ((m.owners i).erase time) }

/-- The write of the link before a push. -/
def link (i : Fin n) (oldHead : TaggedPtr n) : Memory n :=
  { m with next := Function.update m.next i oldHead.ptr }

/-- The next step of a call. `fails` is whether a `compare_exchange_weak` fails for no reason. -/
def advance (fails : Bool) : Pc n → Memory n × Pc n
  | .idle => (m, .idle)
  | .acquiring => (m, .loaded m.freeListHead m.swaps)
  | .loaded oldHead seen =>
    match oldHead.ptr with
    | none => (m, .idle)
    | some i => (m, .following i oldHead.tag (m.next i) seen)
  | .following i tag next _ =>
    if m.freeListHead = ⟨some i, tag⟩ ∧ fails = false then
      (m.pop i tag next, .popped i (m.taken i + 1))
    else (m, .loaded m.freeListHead m.swaps)
  | .popped i time =>
    ({ m with inUseFlags := Function.update m.inUseFlags i true }, .flagged i time)
  | .flagged i time => (m.answer i time, .idle)
  | .releasing i time =>
    if m.inUseFlags i = true then (m.clear i time, .cleared i) else (m, .idle)
  | .cleared i =>
    ({ m with
        packets := Function.update m.packets i
          { length := 0, sequenceNumber := 0, presentationTime := 0, arrivalTime := 0 } },
      .reset i)
  | .reset i => (m, .found i m.freeListHead)
  | .found i oldHead => (m.link i oldHead, .linked i oldHead)
  | .linked i oldHead =>
    if m.freeListHead = oldHead ∧ fails = false then
      (m.swap ⟨some i, oldHead.tag + 1⟩, .pushed)
    else (m, .found i m.freeListHead)
  | .pushed => ({ m with availableCount := m.availableCount + 1 }, .idle)

/-- Where a call of `release` starts. An owner, or one that was, calls it with a packet that was
handed out and not taken off the free list since. -/
def release (packet : Option ℕ) : Pc n :=
  match packet with
  | none => .idle
  | some index =>
    if h : index < n then
      if 0 < m.taken ⟨index, h⟩ ∧ m.answered ⟨index, h⟩ = m.taken ⟨index, h⟩ then
        .releasing ⟨index, h⟩ (m.taken ⟨index, h⟩)
      else .idle
    else .idle

/-- The constructor's loop, which no other thread sees. -/
def pushAll (l : List (Fin n)) : Memory n :=
  l.foldl (fun m i =>
    (m.link i m.freeListHead).swap ⟨some i, m.freeListHead.tag + 1⟩) m

end Memory

/-- The constructor. -/
def construct (n : ℕ) : Memory n :=
  { (({} : Memory n).pushAll (List.finRange n)) with availableCount := BitVec.ofNat 64 n }

/-- A call by an idle thread, the next step of the call a thread is in, or an owner's write to its
packet. -/
inductive Act (n : ℕ) (Thread : Type)
  | acquire (t : Thread)
  | release (t : Thread) (packet : Option ℕ)
  | step (t : Thread) (fails : Bool)
  | fill (i : Fin n) (packet : PooledRTPPacket)

end LockFreePacketPool

/-- The pool with the threads that use it. -/
structure PacketPool (n : ℕ) (Thread : Type) where
  memory : LockFreePacketPool.Memory n
  pc : Thread → LockFreePacketPool.Pc n

namespace PacketPool

open LockFreePacketPool

variable {n : ℕ} {Thread : Type} [DecidableEq Thread]

def step (s : PacketPool n Thread) : Act n Thread → PacketPool n Thread
  | .acquire t =>
    if s.pc t = .idle then { s with pc := Function.update s.pc t .acquiring } else s
  | .release t packet =>
    if s.pc t = .idle then { s with pc := Function.update s.pc t (s.memory.release packet) } else s
  | .step t fails =>
    { memory := (s.memory.advance fails (s.pc t)).1
      pc := Function.update s.pc t (s.memory.advance fails (s.pc t)).2 }
  | .fill i packet =>
    if (s.memory.owners i).Nonempty then
      { s with memory := { s.memory with
          packets := Function.update s.memory.packets i packet } }
    else s

/-- A new pool, with no call in progress. -/
def start (n : ℕ) (Thread : Type) : PacketPool n Thread := ⟨construct n, fun _ => .idle⟩

end PacketPool

/-! ## What a run keeps -/

namespace LockFreePacketPool

variable {n : ℕ}

/-- The packet a call has to itself. -/
def Pc.carried : Pc n → Option (Fin n)
  | .popped i _ | .flagged i _ => some i
  | .cleared i | .reset i | .found i _ | .linked i _ => some i
  | _ => none

/-- The packet a call has flagged and not answered. -/
def Pc.marked : Pc n → Option (Fin n)
  | .flagged i _ => some i
  | _ => none

theorem Pc.carried_of_marked {c : Pc n} {i : Fin n} (h : c.marked = some i) :
    c.carried = some i := by
  cases c <;> first | exact h | cases h

/-- What a call has yet to take from the count. -/
def Pc.debt : Pc n → BitVec 64
  | .popped _ _ | .flagged _ _ => 1
  | .pushed => -1
  | _ => 0

theorem ofNat_succ (k : ℕ) : BitVec.ofNat 64 (k + 1) = BitVec.ofNat 64 k + 1 :=
  BitVec.ofNat_add k 1

/-- One where the packet is `i`. -/
def one (i : Fin n) (packet : Option (Fin n)) : ℕ := if packet = some i then 1 else 0

/-- What a thread knows of the memory at its place in a call. What it saw of the head is so as long
as there was no exchange since. -/
def Ok (m : Memory n) : Pc n → Prop
  | .loaded oldHead seen => seen ≤ m.swaps ∧ oldHead.tag = BitVec.ofNat 64 seen ∧
    (seen = m.swaps → oldHead.ptr = m.freeListHead.ptr)
  | .following i tag next seen => seen ≤ m.swaps ∧ tag = BitVec.ofNat 64 seen ∧
    (seen = m.swaps → m.freeListHead.ptr = some i ∧ m.next i = next)
  | .popped i time | .flagged i time =>
    time = m.taken i ∧ m.answered i < time ∧ m.packets i = {}
  | .releasing i time => time ≤ m.answered i
  | .reset i | .found i _ => m.packets i = {}
  | .linked i oldHead => m.packets i = {} ∧ m.next i = oldHead.ptr
  | _ => True

/-- What a thread with packet `p` relies on while another one steps. -/
structure Rely (m m' : Memory n) (p : Option (Fin n)) : Prop where
  swaps : m.swaps ≤ m'.swaps
  head : m'.swaps = m.swaps → m'.freeListHead = m.freeListHead
  next : ∀ i, m.freeListHead.ptr = some i → m'.next i = m.next i
  answered : ∀ i, m.answered i ≤ m'.answered i
  carried : ∀ i, p = some i → m'.next i = m.next i ∧ m'.taken i = m.taken i ∧
    m'.answered i = m.answered i ∧ m'.packets i = m.packets i

theorem Ok.rely {m m' : Memory n} {c : Pc n} (h : Ok m c) (hr : Rely m m' c.carried) :
    Ok m' c := by
  have hswaps : ∀ {seen}, seen ≤ m.swaps → seen = m'.swaps → m'.swaps = m.swaps :=
    fun hle he => le_antisymm (he ▸ hle) hr.swaps
  cases c with
  | idle => trivial
  | acquiring => trivial
  | loaded oldHead seen =>
    refine ⟨h.1.trans hr.swaps, h.2.1, fun he => ?_⟩
    have hs := hswaps h.1 he
    rw [hr.head hs]
    exact h.2.2 (he.trans hs)
  | following i tag next seen =>
    refine ⟨h.1.trans hr.swaps, h.2.1, fun he => ?_⟩
    have hs := hswaps h.1 he
    obtain ⟨hi, hnext⟩ := h.2.2 (he.trans hs)
    rw [hr.head hs, hr.next i hi]
    exact ⟨hi, hnext⟩
  | popped i time =>
    obtain ⟨-, htaken, hanswered, hpacket⟩ := hr.carried i rfl
    simp only [Ok, htaken, hanswered, hpacket]
    exact h
  | flagged i time =>
    obtain ⟨-, htaken, hanswered, hpacket⟩ := hr.carried i rfl
    simp only [Ok, htaken, hanswered, hpacket]
    exact h
  | releasing i time => exact Nat.le_trans h (hr.answered i)
  | cleared i => trivial
  | reset i => exact (hr.carried i rfl).2.2.2.trans h
  | found i oldHead => exact (hr.carried i rfl).2.2.2.trans h
  | linked i oldHead =>
    obtain ⟨hnext, -, -, hpacket⟩ := hr.carried i rfl
    exact ⟨hpacket.trans h.1, hnext.trans h.2⟩
  | pushed => trivial

/-- A step that changes the node and the packet `i` only, which no other call has. -/
theorem rely_of_ne {m m' : Memory n} {i : Fin n} {p : Option (Fin n)} (hp : p ≠ some i)
    (hswaps : m'.swaps = m.swaps ∧ m'.freeListHead = m.freeListHead ∨ m'.swaps = m.swaps + 1)
    (hnext : m.freeListHead.ptr = some i → m'.next i = m.next i)
    (hanswered : m.answered i ≤ m'.answered i)
    (hsame : ∀ j ≠ i, m'.next j = m.next j ∧ m'.taken j = m.taken j ∧
      m'.answered j = m.answered j ∧ m'.packets j = m.packets j) : Rely m m' p := by
  refine ⟨by omega, fun h => ?_, fun j hj => ?_, fun j => ?_, fun j hj => ?_⟩
  · rcases hswaps with ⟨-, hhead⟩ | hs
    · exact hhead
    · omega
  · rcases eq_or_ne j i with rfl | hne
    · exact hnext hj
    · exact (hsame j hne).1
  · rcases eq_or_ne j i with rfl | hne
    · exact hanswered
    · exact (hsame j hne).2.2.1.ge
  · exact hsame j fun he => hp (he ▸ hj)

end LockFreePacketPool

namespace PacketPool

open LockFreePacketPool

variable {n : ℕ} {Thread : Type} [Fintype Thread]

/-- How many calls have the packet to themselves. -/
def carriers (s : PacketPool n Thread) (i : Fin n) : ℕ :=
  threadSum (fun c => one i c.carried) s.pc

/-- No packet has two owners; every packet is on the free list, with one call or with one owner, and
in one of these places once; with no call in progress, the count is the length of the free list. -/
structure SoundWith (s : PacketPool n Thread) (free : List (Fin n)) : Prop where
  linked : Linked s.memory.next s.memory.freeListHead.ptr free
  owner : ∀ i, (s.memory.owners i).card ≤ 1
  once : ∀ i, free.count i + s.carriers i + (s.memory.owners i).card = 1
  count : (∀ t, s.pc t = .idle) → s.memory.availableCount.toNat = free.length

def Sound (s : PacketPool n Thread) : Prop := ∃ free, SoundWith s free

/-- What every step keeps, `free` being the free list. -/
structure InvWith (s : PacketPool n Thread) (free : List (Fin n)) : Prop where
  linked : Linked s.memory.next s.memory.freeListHead.ptr free
  tag : s.memory.freeListHead.tag = BitVec.ofNat 64 s.memory.swaps
  once : ∀ i, free.count i + s.carriers i + (s.memory.owners i).card = 1
  flags : ∀ i, (s.memory.inUseFlags i).toNat =
    (s.memory.owners i).card + threadSum (fun c => one i c.marked) s.pc
  count : s.memory.availableCount = BitVec.ofNat 64 free.length + threadSum Pc.debt s.pc
  owners : ∀ i, ∀ time ∈ s.memory.owners i, time = s.memory.taken i
  answered : ∀ i, s.memory.answered i ≤ s.memory.taken i
  fresh : ∀ i ∈ free, s.memory.packets i = {}
  ok : ∀ t, Ok s.memory (s.pc t)

variable {s : PacketPool n Thread} {free : List (Fin n)}

namespace InvWith

theorem carried_ne (h : InvWith s free) {t u : Thread} {i : Fin n} (ht : (s.pc t).carried = some i)
    (hu : u ≠ t) : (s.pc u).carried ≠ some i := by
  intro hui
  have hsum := add_le_threadSum (fun c : Pc n => one i c.carried) s.pc hu
  have honce := h.once i
  simp only [carriers, one, ht, hui, if_true] at hsum honce
  omega

theorem alone (h : InvWith s free) {t : Thread} {i : Fin n} (ht : (s.pc t).carried = some i) :
    i ∉ free ∧ s.memory.owners i = ∅ := by
  have hsum := le_threadSum (fun c : Pc n => one i c.carried) s.pc t
  have honce := h.once i
  simp only [carriers, one, ht, if_true] at hsum honce
  refine ⟨List.count_eq_zero.mp (by omega), Finset.card_eq_zero.mp (by omega)⟩

/-- The packets on the free list are with no call and no owner. -/
theorem free_alone (h : InvWith s free) {i : Fin n} (hi : i ∈ free) :
    (∀ t, (s.pc t).carried ≠ some i) ∧ s.memory.owners i = ∅ ∧ free.count i = 1 := by
  have hcount : 0 < free.count i := List.count_pos_iff.mpr hi
  have honce := h.once i
  refine ⟨fun t ht => (h.alone ht).1 hi, Finset.card_eq_zero.mp (by omega), by omega⟩

/-- A packet that a call has and has not flagged is not in use. -/
theorem not_inUse (h : InvWith s free) {t : Thread} {i : Fin n} (ht : (s.pc t).carried = some i)
    (hm : (s.pc t).marked = none) : s.memory.inUseFlags i = false := by
  have hzero : threadSum (fun c : Pc n => one i c.marked) s.pc = 0 := by
    refine Finset.sum_eq_zero fun u _ => if_neg fun hu => ?_
    rcases eq_or_ne u t with rfl | hne
    · rw [hm] at hu
      cases hu
    · exact h.carried_ne ht hne (Pc.carried_of_marked hu)
  have hflags := h.flags i
  rw [hzero, (h.alone ht).2] at hflags
  cases hb : s.memory.inUseFlags i with
  | false => rfl
  | true => simp [hb] at hflags

/-- The exchange of the flag in `release` succeeds, with no call before the packet was taken off the
free list again: the one owner is the one the call was made for. -/
theorem owners_of_releasing (h : InvWith s free) {t : Thread} {i : Fin n} {time : ℕ}
    (hpc : s.pc t = .releasing i time) (huse : s.memory.inUseFlags i = true)
    (htime : time = s.memory.taken i) : s.memory.owners i = {time} := by
  have hle : time ≤ s.memory.answered i := by
    have hok := h.ok t
    rwa [hpc] at hok
  have hzero : threadSum (fun c : Pc n => one i c.marked) s.pc = 0 := by
    refine Finset.sum_eq_zero fun u _ => if_neg fun hu => ?_
    have hok := h.ok u
    cases hc : s.pc u <;> rw [hc] at hu hok <;> cases hu
    have := hok.1
    have := hok.2.1
    omega
  have hcard := h.flags i
  rw [hzero, huse] at hcard
  obtain ⟨g, hg⟩ := Finset.card_eq_one.mp hcard.symm
  rw [hg, h.owners i g (by simp [hg]), htime]

/-- An owner writes to its packet. -/
theorem fill (h : InvWith s free) {i : Fin n} (hi : (s.memory.owners i).Nonempty)
    (packet : PooledRTPPacket) :
    InvWith ⟨{ s.memory with packets := Function.update s.memory.packets i packet }, s.pc⟩
      free := by
  have hne : s.memory.owners i ≠ ∅ := Finset.nonempty_iff_ne_empty.mp hi
  refine ⟨h.linked, h.tag, h.once, h.flags, h.count, h.owners, h.answered, fun j hj => ?_,
    fun t => (h.ok t).rely ?_⟩
  · show Function.update s.memory.packets i packet j = _
    rw [Function.update_of_ne]
    · exact h.fresh j hj
    · rintro rfl
      exact hne (h.free_alone hj).2.1
  · exact rely_of_ne (fun ht => hne (h.alone ht).2) (.inl ⟨rfl, rfl⟩) (fun _ => rfl) le_rfl
      fun j hj => ⟨rfl, rfl, rfl, Function.update_of_ne hj ..⟩

variable [DecidableEq Thread]

/-- One step of thread `t`, from what it does to the memory and to each of the sums. -/
theorem advance (h : InvWith s free) (t : Thread) {m : Memory n} {c : Pc n} {free' : List (Fin n)}
    (hlinked : Linked m.next m.freeListHead.ptr free')
    (htag : m.freeListHead.tag = BitVec.ofNat 64 m.swaps)
    (honce : ∀ i, free'.count i + one i c.carried + (m.owners i).card =
      free.count i + one i (s.pc t).carried + (s.memory.owners i).card)
    (hflags : ∀ i, (m.inUseFlags i).toNat + (s.memory.owners i).card + one i (s.pc t).marked =
      (s.memory.inUseFlags i).toNat + (m.owners i).card + one i c.marked)
    (hcount : m.availableCount + BitVec.ofNat 64 free.length + (s.pc t).debt =
      s.memory.availableCount + BitVec.ofNat 64 free'.length + c.debt)
    (howners : ∀ i, ∀ time ∈ m.owners i, time = m.taken i)
    (hanswered : ∀ i, m.answered i ≤ m.taken i) (hfresh : ∀ i ∈ free', m.packets i = {})
    (hok : Ok m c) (hrely : ∀ u ≠ t, Rely s.memory m (s.pc u).carried) :
    InvWith ⟨m, Function.update s.pc t c⟩ free' := by
  refine ⟨hlinked, htag, fun i => ?_, fun i => ?_, ?_, howners, hanswered, hfresh, fun u => ?_⟩
  · have hsum := threadSum_update (fun c : Pc n => one i c.carried) s.pc t c
    have := h.once i
    have := honce i
    simp only [carriers] at *
    omega
  · have hsum := threadSum_update (fun c : Pc n => one i c.marked) s.pc t c
    have := h.flags i
    have := hflags i
    simp only at *
    omega
  · have hsum := threadSum_update (Pc.debt (n := n)) s.pc t c
    have hc := h.count
    show m.availableCount = _ + threadSum _ (Function.update s.pc t c)
    linear_combination hcount + hc - hsum
  · rcases eq_or_ne u t with rfl | hu
    · rw [show (⟨m, Function.update s.pc u c⟩ : PacketPool n Thread).pc u = c from
        Function.update_self ..]
      exact hok
    · rw [show (⟨m, Function.update s.pc t c⟩ : PacketPool n Thread).pc u = s.pc u from
        Function.update_of_ne hu ..]
      exact (h.ok u).rely (hrely u hu)

/-- A step that leaves the memory and the thread's part in the sums. -/
theorem move (h : InvWith s free) {t : Thread} {c c' : Pc n} (hpc : s.pc t = c)
    (hcarried : c'.carried = c.carried) (hmarked : c'.marked = c.marked) (hdebt : c'.debt = c.debt)
    (hok : Ok s.memory c') : InvWith ⟨s.memory, Function.update s.pc t c'⟩ free :=
  h.advance t h.linked h.tag (fun i => by rw [hpc, hcarried]) (fun i => by rw [hpc, hmarked])
    (by rw [hpc, hdebt]) h.owners h.answered h.fresh hok fun _ _ =>
      ⟨le_rfl, fun _ => rfl, fun _ _ => rfl, fun _ => le_rfl, fun _ _ => ⟨rfl, rfl, rfl, rfl⟩⟩

/-- The exchange of `acquire` succeeds: the head is as it was seen. -/
theorem pop (h : InvWith s free) {t : Thread} {i : Fin n} {tag : BitVec 64}
    {next : Option (Fin n)} {seen : ℕ} (hpc : s.pc t = .following i tag next seen)
    (hhead : s.memory.freeListHead = ⟨some i, tag⟩) (hseen : s.memory.swaps < seen + 2 ^ 64) :
    ∃ free', InvWith ⟨s.memory.pop i tag next,
      Function.update s.pc t (.popped i (s.memory.taken i + 1))⟩ free' := by
  obtain ⟨hle, htag, hsame⟩ : Ok s.memory (.following i tag next seen) := hpc ▸ h.ok t
  have heq : seen = s.memory.swaps := by
    have hbits : BitVec.ofNat 64 seen = BitVec.ofNat 64 s.memory.swaps := by
      rw [← htag, ← h.tag, hhead]
    have hmod := congrArg BitVec.toNat hbits
    simp only [BitVec.toNat_ofNat] at hmod
    omega
  obtain ⟨hptr, hnext⟩ := hsame heq
  have hlinked := h.linked
  rw [hptr] at hlinked
  obtain ⟨free', rfl, hrest⟩ := hlinked.pop
  rw [hnext] at hrest
  obtain ⟨hcalls, howners, hcount⟩ := h.free_alone List.mem_cons_self
  have hcount' : free'.count i = 0 := by
    rw [List.count_cons_self] at hcount
    omega
  have htaken : ∀ j ≠ i, Function.update s.memory.taken i (s.memory.taken i + 1) j =
      s.memory.taken j := fun j hj => Function.update_of_ne hj ..
  refine ⟨free', h.advance t hrest ?_ (fun j => ?_) (fun j => ?_) ?_ (fun j time htime => ?_)
    (fun j => ?_) (fun j hj => h.fresh j (List.mem_cons_of_mem _ hj)) ⟨?_, ?_, ?_⟩ fun u _ => ?_⟩
  · show tag + 1 = BitVec.ofNat 64 (s.memory.swaps + 1)
    rw [htag, heq, ofNat_succ]
  · rw [hpc]
    show free'.count j + one j (some i) + _ = (i :: free').count j + one j none + _
    rcases eq_or_ne j i with rfl | hj
    · simp [one, Memory.pop, Memory.swap]
    · simp [one, Memory.pop, Memory.swap, hj.symm]
  · rw [hpc]
    rfl
  · rw [hpc, List.length_cons, ofNat_succ]
    show s.memory.availableCount + _ + 0 = s.memory.availableCount + _ + 1
    ring
  · rcases eq_or_ne j i with rfl | hj
    · have hmem : time ∈ s.memory.owners j := htime
      rw [howners] at hmem
      cases hmem
    · exact (h.owners j time htime).trans (htaken j hj).symm
  · rcases eq_or_ne j i with rfl | hj
    · refine (h.answered j).trans ?_
      show s.memory.taken j ≤ Function.update s.memory.taken j _ j
      rw [Function.update_self]
      omega
    · exact (h.answered j).trans (htaken j hj).ge
  · show s.memory.taken i + 1 = Function.update s.memory.taken i _ i
    rw [Function.update_self]
  · exact Nat.lt_succ_of_le (h.answered i)
  · exact h.fresh i List.mem_cons_self
  · exact rely_of_ne (hcalls u) (.inr rfl) (fun _ => rfl) le_rfl
      fun j hj => ⟨rfl, htaken j hj, rfl, rfl⟩

theorem mark (h : InvWith s free) {t : Thread} {i : Fin n} {time : ℕ}
    (hpc : s.pc t = .popped i time) :
    InvWith ⟨{ s.memory with inUseFlags := Function.update s.memory.inUseFlags i true },
      Function.update s.pc t (.flagged i time)⟩ free := by
  have hcarried : (s.pc t).carried = some i := by rw [hpc]; rfl
  have hunused := h.not_inUse hcarried (by rw [hpc]; rfl)
  refine h.advance t h.linked h.tag (fun j => ?_) (fun j => ?_) ?_ h.owners h.answered h.fresh
    (hpc ▸ h.ok t : Ok s.memory (.popped i time)) fun u hu => ?_
  · rw [hpc]
    rfl
  · rw [hpc]
    rcases eq_or_ne j i with rfl | hj
    · simp [hunused, one, Pc.marked]
      omega
    · simp [one, Pc.marked, hj, hj.symm]
  · rw [hpc]
    rfl
  · exact rely_of_ne (h.carried_ne hcarried hu) (.inl ⟨rfl, rfl⟩) (fun _ => rfl) le_rfl
      fun j _ => ⟨rfl, rfl, rfl, rfl⟩

theorem answer (h : InvWith s free) {t : Thread} {i : Fin n} {time : ℕ}
    (hpc : s.pc t = .flagged i time) :
    InvWith ⟨s.memory.answer i time, Function.update s.pc t .idle⟩ free := by
  have hcarried : (s.pc t).carried = some i := by rw [hpc]; rfl
  obtain ⟨hfree, howners⟩ := h.alone hcarried
  obtain ⟨htime, hanswered, -⟩ : Ok s.memory (.flagged i time) := hpc ▸ h.ok t
  refine h.advance t h.linked h.tag (fun j => ?_) (fun j => ?_) ?_ (fun j g hg => ?_) (fun j => ?_)
    h.fresh trivial fun u hu => ?_
  · rw [hpc]
    rcases eq_or_ne j i with rfl | hj
    · simp [one, Pc.carried, Memory.answer, howners]
    · simp [one, Pc.carried, Memory.answer, hj, hj.symm]
  · rw [hpc]
    rcases eq_or_ne j i with rfl | hj
    · simp [one, Pc.marked, Memory.answer, howners]
    · simp [one, Pc.marked, Memory.answer, hj, hj.symm]
  · rw [hpc]
    show s.memory.availableCount - 1 + _ + _ = s.memory.availableCount + _ + _
    simp only [Pc.debt]
    ring
  · rcases eq_or_ne j i with rfl | hj
    · have hmem : g = time := by simpa [Memory.answer, howners] using hg
      exact hmem.trans htime
    · exact h.owners j g (by simpa [Memory.answer, hj] using hg)
  · show Function.update s.memory.answered i time j ≤ s.memory.taken j
    rcases eq_or_ne j i with rfl | hj
    · rw [Function.update_self]
      exact htime.le
    · rw [Function.update_of_ne hj]
      exact h.answered j
  · refine rely_of_ne (h.carried_ne hcarried hu) (.inl ⟨rfl, rfl⟩) (fun _ => rfl) ?_
      fun j hj => ⟨rfl, rfl, Function.update_of_ne hj .., rfl⟩
    show _ ≤ Function.update s.memory.answered i time i
    rw [Function.update_self]
    exact hanswered.le

theorem clear (h : InvWith s free) {t : Thread} {i : Fin n} {time : ℕ}
    (hpc : s.pc t = .releasing i time) (huse : s.memory.inUseFlags i = true)
    (htime : time = s.memory.taken i) :
    InvWith ⟨s.memory.clear i time, Function.update s.pc t (.cleared i)⟩ free := by
  have howners := h.owners_of_releasing hpc huse htime
  have hcalls : ∀ u, (s.pc u).carried ≠ some i := by
    intro u hu
    have hempty := (h.alone hu).2
    rw [howners] at hempty
    exact Finset.singleton_ne_empty _ hempty
  refine h.advance t h.linked h.tag (fun j => ?_) (fun j => ?_) ?_ (fun j g hg => ?_) h.answered
    h.fresh trivial fun u _ => ?_
  · rw [hpc]
    rcases eq_or_ne j i with rfl | hj
    · simp [one, Pc.carried, Memory.clear, howners]
    · simp [one, Pc.carried, Memory.clear, hj, hj.symm]
  · rw [hpc]
    rcases eq_or_ne j i with rfl | hj
    · simp [one, Pc.marked, Memory.clear, howners, huse]
    · simp [one, Pc.marked, Memory.clear, hj]
  · rw [hpc]
    rfl
  · rcases eq_or_ne j i with rfl | hj
    · exact absurd hg (by simp [Memory.clear, howners])
    · exact h.owners j g (by simpa [Memory.clear, hj] using hg)
  · exact rely_of_ne (hcalls u) (.inl ⟨rfl, rfl⟩) (fun _ => rfl) le_rfl
      fun j _ => ⟨rfl, rfl, rfl, rfl⟩

/-- A store to the packet or the node that only thread `t` has. -/
theorem store (h : InvWith s free) {t : Thread} {i : Fin n} {c c' : Pc n} (hpc : s.pc t = c)
    (hcarried : c.carried = some i) {next : Fin n → Option (Fin n)}
    {packets : Fin n → PooledRTPPacket}
    (hlinked : Linked next s.memory.freeListHead.ptr free)
    (hnext : ∀ j ≠ i, next j = s.memory.next j)
    (hpackets : ∀ j ≠ i, packets j = s.memory.packets j)
    (hc : c'.carried = c.carried) (hmarked : c'.marked = c.marked) (hdebt : c'.debt = c.debt)
    (hok : Ok { s.memory with next := next, packets := packets } c') :
    InvWith ⟨{ s.memory with next := next, packets := packets }, Function.update s.pc t c'⟩
      free := by
  rw [← hpc] at hcarried
  have hfree := (h.alone hcarried).1
  refine h.advance t hlinked h.tag (fun j => by rw [hpc, hc]) (fun j => by rw [hpc, hmarked])
    (by rw [hpc, hdebt]) h.owners h.answered (fun j hj => ?_) hok fun u hu => ?_
  · exact (hpackets j fun he => hfree (he ▸ hj)).trans (h.fresh j hj)
  · refine rely_of_ne (h.carried_ne hcarried hu) (.inl ⟨rfl, rfl⟩) (fun hi => ?_) le_rfl
      fun j hj => ⟨hnext j hj, rfl, rfl, hpackets j hj⟩
    have hl := h.linked
    rw [hi] at hl
    exact absurd hl.mem_of_some hfree

/-- The exchange of `release` succeeds. -/
theorem push (h : InvWith s free) {t : Thread} {i : Fin n} {oldHead : TaggedPtr n}
    (hpc : s.pc t = .linked i oldHead) (hhead : s.memory.freeListHead = oldHead) :
    InvWith ⟨s.memory.swap ⟨some i, oldHead.tag + 1⟩, Function.update s.pc t .pushed⟩
      (i :: free) := by
  have hcarried : (s.pc t).carried = some i := by rw [hpc]; rfl
  obtain ⟨hpacket, hnext⟩ : Ok s.memory (.linked i oldHead) := hpc ▸ h.ok t
  refine h.advance t (h.linked.push (hnext.trans (hhead ▸ rfl))) ?_ (fun j => ?_) (fun j => ?_) ?_
    h.owners h.answered (fun j hj => ?_) trivial fun u hu => ?_
  · show oldHead.tag + 1 = BitVec.ofNat 64 (s.memory.swaps + 1)
    rw [ofNat_succ, ← h.tag, hhead]
  · rw [hpc]
    rcases eq_or_ne j i with rfl | hj
    · simp [one, Pc.carried, Memory.swap]
    · simp [one, Pc.carried, Memory.swap, hj.symm]
  · rw [hpc]
    rfl
  · rw [hpc, List.length_cons, ofNat_succ]
    show s.memory.availableCount + _ + 0 = s.memory.availableCount + _ + -1
    ring
  · rcases List.mem_cons.mp hj with rfl | hj
    · exact hpacket
    · exact h.fresh j hj
  · exact rely_of_ne (h.carried_ne hcarried hu) (.inr rfl) (fun _ => rfl) le_rfl
      fun j _ => ⟨rfl, rfl, rfl, rfl⟩

theorem countUp (h : InvWith s free) {t : Thread} (hpc : s.pc t = .pushed) :
    InvWith ⟨{ s.memory with availableCount := s.memory.availableCount + 1 },
      Function.update s.pc t .idle⟩ free := by
  refine h.advance t h.linked h.tag (fun j => ?_) (fun j => ?_) ?_ h.owners h.answered h.fresh
    trivial fun u _ => ?_
  · rw [hpc]
    rfl
  · rw [hpc]
    rfl
  · rw [hpc]
    show s.memory.availableCount + 1 + _ + -1 = s.memory.availableCount + _ + 0
    ring
  · exact ⟨le_rfl, fun _ => rfl, fun _ _ => rfl, fun _ => le_rfl, fun _ _ => ⟨rfl, rfl, rfl, rfl⟩⟩

end InvWith

/-- The head was exchanged less than `2 ^ 64` times between the load of the head in `acquire` and its
exchange, so that the tag did not come round. -/
def Tagged (s : PacketPool n Thread) : Act n Thread → Prop
  | .step t _ =>
    match s.pc t with
    | .following _ _ _ seen => s.memory.swaps < seen + 2 ^ 64
    | _ => True
  | _ => True

/-- A release that finds the flag of its packet set finds the packet handed out no more often than
when it was called. -/
def Timely (s : PacketPool n Thread) : Act n Thread → Prop
  | .step t _ =>
    match s.pc t with
    | .releasing i time => s.memory.inUseFlags i = true → time = s.memory.taken i
    | _ => True
  | _ => True

/-! ## The new pool -/

/-- A pool as the constructor's loop leaves it. -/
theorem linked_pushAll {m : Memory n} {l free : List (Fin n)}
    (h : Linked m.next m.freeListHead.ptr free)
    (htag : m.freeListHead.tag = BitVec.ofNat 64 m.swaps) (hnodup : (l.reverse ++ free).Nodup) :
    Linked (m.pushAll l).next (m.pushAll l).freeListHead.ptr (l.reverse ++ free) ∧
      (m.pushAll l).freeListHead.tag = BitVec.ofNat 64 (m.pushAll l).swaps := by
  induction l generalizing m free with
  | nil => exact ⟨h, htag⟩
  | cons i l ih =>
    rw [List.reverse_cons, List.append_assoc] at hnodup ⊢
    have hi : i ∉ free :=
      (List.nodup_cons.mp (List.nodup_append.mp hnodup).2.1).1
    refine ih (m := (m.link i m.freeListHead).swap ⟨some i, m.freeListHead.tag + 1⟩) ?_ ?_ hnodup
    · exact (h.update hi _).push (Function.update_self ..)
    · show m.freeListHead.tag + 1 = BitVec.ofNat 64 (m.swaps + 1)
      rw [htag, ofNat_succ]

theorem pushAll_eq (m : Memory n) (l : List (Fin n)) :
    m.pushAll l = { m with
      next := (m.pushAll l).next
      freeListHead := (m.pushAll l).freeListHead
      swaps := (m.pushAll l).swaps } := by
  induction l generalizing m with
  | nil => rfl
  | cons i l ih => exact ih ((m.link i m.freeListHead).swap ⟨some i, m.freeListHead.tag + 1⟩)

theorem inv_start (n : ℕ) : InvWith (start n Thread) (List.finRange n).reverse := by
  have hnodup : (List.finRange n).reverse.Nodup := List.nodup_reverse.mpr (List.nodup_finRange n)
  have hempty : Linked ({} : Memory n).next ({} : Memory n).freeListHead.ptr [] := rfl
  obtain ⟨hlinked, htag⟩ := linked_pushAll (l := List.finRange n) hempty rfl
    (by rwa [List.append_nil])
  rw [List.append_nil] at hlinked
  have hsum : ∀ {M : Type} [AddCommMonoid M] (f : Pc n → M), f .idle = 0 →
      threadSum f (fun _ : Thread => .idle) = 0 :=
    fun f hf => Finset.sum_eq_zero fun _ _ => hf
  rw [pushAll_eq] at hlinked htag
  unfold start construct
  rw [pushAll_eq]
  refine ⟨hlinked, htag, fun i => ?_, fun i => ?_, ?_, fun i g hg => ?_, fun i => le_rfl,
    fun i _ => rfl, fun t => trivial⟩
  · rw [carriers, hsum _ rfl,
      List.count_eq_one_of_mem hnodup (List.mem_reverse.mpr (List.mem_finRange i))]
    rfl
  · rw [hsum _ rfl]
    rfl
  · rw [hsum _ rfl, List.length_reverse, List.length_finRange]
    exact (add_zero _).symm
  · cases hg

theorem InvWith.sound (h : InvWith s free) (hn : n < 2 ^ 64) : SoundWith s free := by
  refine ⟨h.linked, fun i => by have := h.once i; omega, h.once, fun hidle => ?_⟩
  have hnodup : free.Nodup := List.nodup_iff_count_le_one.mpr fun i => by
    have := h.once i
    omega
  have hlength : free.length ≤ n := by
    have := hnodup.length_le_card
    rwa [Fintype.card_fin] at this
  have hdebt : threadSum Pc.debt s.pc = 0 := Finset.sum_eq_zero fun t _ => by
    rw [hidle t]
    rfl
  rw [h.count, hdebt, add_zero, BitVec.toNat_ofNat]
  exact Nat.mod_eq_of_lt (by omega)

/-! ## One step -/

variable [DecidableEq Thread]

theorem InvWith.step_acquire (h : InvWith s free) (t : Thread) :
    InvWith (s.step (.acquire t)) free := by
  unfold PacketPool.step
  dsimp only
  split_ifs with ht
  · exact h.move ht rfl rfl rfl trivial
  · exact h

theorem InvWith.step_release (h : InvWith s free) (t : Thread) (packet : Option ℕ) :
    InvWith (s.step (.release t packet)) free := by
  unfold PacketPool.step
  dsimp only
  split_ifs with ht
  · have hplace : s.memory.release packet = .idle ∨ ∃ i, s.memory.answered i = s.memory.taken i ∧
        s.memory.release packet = .releasing i (s.memory.taken i) := by
      unfold Memory.release
      split
      · exact .inl rfl
      · split_ifs with hlt hout
        · exact .inr ⟨_, hout.2, rfl⟩
        · exact .inl rfl
        · exact .inl rfl
    rcases hplace with hidle | ⟨i, hout, hreleasing⟩
    · rw [hidle]
      exact h.move ht rfl rfl rfl trivial
    · rw [hreleasing]
      exact h.move ht rfl rfl rfl hout.ge
  · exact h

/-- **The next step of a call**, for every place in it. -/
theorem InvWith.step_call (h : InvWith s free) {t : Thread} {fails : Bool}
    (htagged : s.Tagged (.step t fails)) (htimely : s.Timely (.step t fails)) :
    ∃ free', InvWith (s.step (.step t fails)) free' := by
  have hok := h.ok t
  unfold Tagged at htagged
  unfold Timely at htimely
  unfold PacketPool.step
  dsimp only at htagged htimely ⊢
  cases hpc : s.pc t with
  | idle => exact ⟨free, h.move hpc rfl rfl rfl trivial⟩
  | acquiring =>
    exact ⟨free, h.move hpc rfl rfl rfl ⟨le_rfl, h.tag, fun _ => rfl⟩⟩
  | loaded oldHead seen =>
    rw [hpc] at hok
    obtain ⟨ptr, tag⟩ := oldHead
    cases ptr with
    | none =>
      exact ⟨free, h.move hpc rfl rfl rfl trivial⟩
    | some i =>
      exact ⟨free, h.move hpc rfl rfl rfl
        ⟨hok.1, hok.2.1, fun he => ⟨(hok.2.2 he).symm, rfl⟩⟩⟩
  | following i tag next seen =>
    rw [hpc] at htagged
    simp only [Memory.advance]
    split_ifs with hswap
    · exact h.pop hpc hswap.1 htagged
    · exact ⟨free, h.move hpc rfl rfl rfl ⟨le_rfl, h.tag, fun _ => rfl⟩⟩
  | popped i time => exact ⟨free, h.mark hpc⟩
  | flagged i time => exact ⟨free, h.answer hpc⟩
  | releasing i time =>
    rw [hpc] at htimely
    simp only [Memory.advance]
    split_ifs with huse
    · exact ⟨free, h.clear hpc huse (htimely huse)⟩
    · exact ⟨free, h.move hpc rfl rfl rfl trivial⟩
  | cleared i =>
    exact ⟨free, h.store hpc rfl h.linked (fun _ _ => rfl)
      (fun j hj => Function.update_of_ne hj ..) rfl rfl rfl (Function.update_self ..)⟩
  | reset i =>
    rw [hpc] at hok
    exact ⟨free, h.move hpc rfl rfl rfl hok⟩
  | found i oldHead =>
    rw [hpc] at hok
    have hcarried : (s.pc t).carried = some i := by rw [hpc]; rfl
    exact ⟨free, h.store hpc rfl (h.linked.update (h.alone hcarried).1 _)
      (fun j hj => Function.update_of_ne hj ..) (fun _ _ => rfl) rfl rfl rfl
      ⟨hok, Function.update_self ..⟩⟩
  | linked i oldHead =>
    rw [hpc] at hok
    simp only [Memory.advance]
    split_ifs with hswap
    · exact ⟨i :: free, h.push hpc hswap.1⟩
    · exact ⟨free, h.move hpc rfl rfl rfl hok.1⟩
  | pushed => exact ⟨free, h.countUp hpc⟩

theorem inv_step (h : ∃ free, InvWith s free) {a : Act n Thread} (htagged : s.Tagged a)
    (htimely : s.Timely a) : ∃ free, InvWith (s.step a) free := by
  obtain ⟨free, h⟩ := h
  cases a with
  | acquire t => exact ⟨free, h.step_acquire t⟩
  | release t packet => exact ⟨free, h.step_release t packet⟩
  | step t fails => exact h.step_call htagged htimely
  | fill i packet =>
    unfold PacketPool.step
    dsimp only
    split_ifs with hi
    · exact ⟨free, h.fill hi packet⟩
    · exact ⟨free, h⟩

/-! ## Whole runs -/

/-- A release that takes away what another call handed out leaves the packet in two places. -/
theorem InvWith.not_sound (h : InvWith s free) {a : Act n Thread} (ha : ¬ s.Timely a) :
    ¬ (s.step a).Sound := by
  cases a with
  | acquire t => exact absurd trivial ha
  | release t packet => exact absurd trivial ha
  | fill i packet => exact absurd trivial ha
  | step t fails =>
    unfold Timely at ha
    dsimp only at ha
    cases hpc : s.pc t <;> rw [hpc] at ha <;> try exact absurd trivial ha
    case releasing i time =>
    obtain ⟨huse, htime⟩ := not_forall.mp ha
    rintro ⟨free', h'⟩
    have hstep : s.step (.step t fails) =
        ⟨s.memory.clear i time, Function.update s.pc t (.cleared i)⟩ := by
      unfold PacketPool.step
      dsimp only
      rw [hpc]
      simp only [Memory.advance, huse, if_true]
    rw [hstep] at h'
    obtain rfl : free' = free := h'.linked.unique h.linked
    have howners : (s.memory.clear i time).owners i = s.memory.owners i := by
      show Function.update s.memory.owners i _ i = _
      rw [Function.update_self]
      exact Finset.erase_eq_of_notMem fun hmem => htime (h.owners i time hmem)
    have hsum := threadSum_update (fun c : Pc n => one i c.carried) s.pc t (.cleared i)
    have honce := h.once i
    have honce' := h'.once i
    rw [hpc] at hsum
    simp only [carriers, one, Pc.carried, howners, if_true, reduceCtorEq, if_false]
      at hsum honce honce'
    omega

/-- A run from a pool that keeps the invariant. -/
theorem always_sound_iff_along (hn : n < 2 ^ 64) (h : ∃ free, InvWith s free)
    {acts : List (Act n Thread)} (htagged : Along step Tagged s acts) :
    Always step Sound s acts ↔ Along step Timely s acts := by
  have hsound : ∀ {s : PacketPool n Thread}, (∃ free, InvWith s free) → s.Sound :=
    fun ⟨free, h⟩ => ⟨free, h.sound hn⟩
  induction acts generalizing s with
  | nil => exact iff_of_true (hsound h) trivial
  | cons a acts ih =>
    refine ⟨fun hall => ?_, fun htimely => ?_⟩
    · have ha : s.Timely a := by
        by_contra hlate
        exact h.choose_spec.not_sound hlate hall.2.head
      exact ⟨ha, (ih (inv_step h htagged.1 ha) htagged.2).mp hall.2⟩
    · exact ⟨hsound h, (ih (inv_step h htagged.1 htimely.1) htagged.2).mpr htimely.2⟩

/-- **No packet is handed out twice, as long as no release comes late**: of every pool and every
interleaving of the steps of its threads, with the tag not coming round, every packet is on the free
list, with one call or with one owner throughout the run just when no release that was called finds
its packet handed out again. -/
theorem always_sound_iff (poolSize : UInt64) (acts : List (Act poolSize.toNat Thread))
    (htagged : Along step Tagged (start poolSize.toNat Thread) acts) :
    Always step Sound (start poolSize.toNat Thread) acts ↔
      Along step Timely (start poolSize.toNat Thread) acts :=
  always_sound_iff_along poolSize.toNat_lt ⟨_, inv_start _⟩ htagged

section Examples

instance decidableTagged (s : PacketPool n Thread) : ∀ a, Decidable (s.Tagged a)
  | .acquire _ | .release _ _ | .fill _ _ => isTrue trivial
  | .step t _ => by
    unfold Tagged
    dsimp only
    split <;> infer_instance

instance decidableTimely (s : PacketPool n Thread) : ∀ a, Decidable (s.Timely a)
  | .acquire _ | .release _ _ | .fill _ _ => isTrue trivial
  | .step t _ => by
    unfold Timely
    dsimp only
    split <;> infer_instance

/-- A call of `acquire` that nobody interrupts. -/
def acquiring (t : Thread) : List (Act n Thread) := .acquire t :: List.replicate 5 (.step t false)

/-- Of two releases of one packet the second comes while the first has yet to push it. -/
def twoReleases : List (Act 1 (Fin 3)) :=
  acquiring 0 ++ [Act.release 0 (some 0), Act.release 1 (some 0), Act.step 0 false,
    Act.step 1 false] ++ List.replicate 5 (Act.step 0 false) ++ acquiring 2

theorem always_sound_twoReleases : Always step Sound (start (1 : UInt64).toNat (Fin 3)) twoReleases :=
  (always_sound_iff 1 twoReleases (by decide)).mpr (by decide)

/-- The second comes after the packet was pushed and handed out again. -/
def lateRelease : List (Act 1 (Fin 3)) :=
  acquiring 0 ++ [Act.release 0 (some 0), Act.release 1 (some 0)] ++
    List.replicate 6 (Act.step 0 false) ++ acquiring 2 ++ List.replicate 6 (Act.step 1 false) ++
    acquiring 0

theorem not_sound_lateRelease : Along step Tagged (start 1 (Fin 3)) lateRelease ∧
    ¬ Always step Sound (start 1 (Fin 3)) lateRelease := by
  refine ⟨by decide, fun h => ?_⟩
  obtain ⟨free, hsound⟩ := h.run
  exact absurd (hsound.owner 0) (by decide)

end Examples

/-- What `acquire` answers was reset. -/
theorem always_reset (acts : List (Act n Thread))
    (h : Along step (fun s a => s.Tagged a ∧ s.Timely a) (start n Thread) acts) :
    Always step (fun s => ∀ t i time, s.pc t = .flagged i time → s.memory.packets i = {})
      (start n Thread) acts := by
  refine Always.imp (P := fun s => ∃ free, InvWith s free) ?_
    (always_of_along (fun s a hs ha => inv_step hs ha.1 ha.2) ⟨_, inv_start n⟩ h)
  rintro s ⟨free, hs⟩ t i time hpc
  have hok := hs.ok t
  rw [hpc] at hok
  exact hok.2.2

end PacketPool

end Aes67.Rtp
