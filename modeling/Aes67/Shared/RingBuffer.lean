import Aes67.Lib.Cells
import Aes67.Lib.Fifo

/-!
# The single-producer single-consumer ring buffer

`SPSCRingBuffer` (RingBuffer.hpp): a vector of one element more than the buffer holds and two
indices, each written by one thread only. `write` and `read` load both indices, copy one or two
contiguous segments and store their own index. Here the two threads run these steps in every
interleaving, the copies one element at a time. Indices are `size_t` values, so the arithmetic is
modulo `2 ^ 64`.

* `SPSCRingBuffer`, `construct`, `getAvailableRead`, `getAvailableWrite`, `available`,
  `availableWrite`, `usable`;
* `WritePc`, `ReadPc`: where a thread stands inside a call, with its locals;
* `Shared`, `Act`, `Shared.step`: the interleaving; `Shared.event`: what a step tells the clients.
-/

namespace Aes67

/-- The most elements a `std::vector` holds: the largest `difference_type`. -/
def vectorMaxSize : ℕ := 2 ^ 63 - 1

/-- The buffer. Of `buffer` the first `capacity` cells are allocated. -/
structure SPSCRingBuffer (α : Type) where
  buffer : ℕ → α
  /-- `capacity_`, the size of the vector -/
  capacity : ℕ
  writeIndex : ℕ := 0
  readIndex : ℕ := 0

namespace SPSCRingBuffer

variable {α : Type}

/-- The constructor; none when the vector's constructor throws `std::length_error`. -/
def construct (fill : α) (capacity : ℕ) : Option (SPSCRingBuffer α) :=
  if sizeAdd capacity 1 ≤ vectorMaxSize then
    some { buffer := fun _ => fill, capacity := sizeAdd capacity 1 }
  else none

variable (b : SPSCRingBuffer α)

/-- `wrap` of the source: one subtraction, no modulo. -/
def wrapIndex (index : ℕ) : ℕ :=
  if b.capacity ≤ index then sizeSub index b.capacity else index

def getAvailableRead (readIdx writeIdx : ℕ) : ℕ :=
  if readIdx ≤ writeIdx then sizeSub writeIdx readIdx
  else sizeAdd (sizeSub b.capacity readIdx) writeIdx

def getAvailableWrite (writeIdx readIdx : ℕ) : ℕ :=
  if writeIdx < readIdx then sizeSub (sizeSub readIdx writeIdx) 1
  else sizeSub (sizeAdd (sizeSub b.capacity writeIdx) readIdx) 1

def available : ℕ := b.getAvailableRead b.readIndex b.writeIndex

def availableWrite : ℕ := b.getAvailableWrite b.writeIndex b.readIndex

/-- `capacity()`, the number of elements the buffer can hold. -/
def usable : ℕ := sizeSub b.capacity 1

/-- The elements of the first of the two segments a transfer of `n` elements from `index` on is
copied in. -/
def firstChunk (index n : ℕ) : ℕ := min n (sizeSub b.capacity index)

/-- The cells of a transfer, in the order they are copied. -/
def cells (index n : ℕ) : List ℕ :=
  List.range' index (b.firstChunk index n) ++
    if b.firstChunk index n < n then List.range' 0 (n - b.firstChunk index n) else []

/-- The producer's place inside `write`. -/
inductive WritePc (α : Type)
  | idle
  /-- before the load of `writeIndex_` -/
  | called (data : List α)
  /-- before the load of `readIndex_` -/
  | loaded (data : List α) (writeIdx : ℕ)
  /-- copying: the elements still to be copied, each with its cell; with none left, before the store
  of `writeIndex_` -/
  | copying (data : List α) (writeIdx toWrite : ℕ) (todo : List (ℕ × α))

/-- The consumer's place inside `read`. -/
inductive ReadPc (α : Type)
  | idle
  | called (count : ℕ)
  | loaded (count readIdx : ℕ)
  /-- copying: the elements copied so far and the cells still to be copied -/
  | copying (readIdx toRead : ℕ) (data : List α) (todo : List ℕ)

/-- The buffer and its two threads. -/
structure Shared (α : Type) where
  ring : SPSCRingBuffer α
  producer : WritePc α := .idle
  consumer : ReadPc α := .idle

/-- A call by an idle thread, or the next atomic step of the call a thread is in. -/
inductive Act (α : Type)
  | write (data : List α)
  | read (count : ℕ)
  | producer
  | consumer

namespace Shared

variable (s : Shared α)

/-- The elements a `write` of `data` will take, from the two indices it has loaded. -/
def toWrite (data : List α) (writeIdx : ℕ) : ℕ :=
  min data.length (s.ring.getAvailableWrite writeIdx s.ring.readIndex)

/-- The elements a `read` of `count` will take, from the two indices it has loaded. -/
def toRead (count readIdx : ℕ) : ℕ :=
  min count (s.ring.getAvailableRead readIdx s.ring.writeIndex)

/-- The next step of `write`. -/
def stepProducer : Shared α :=
  match s.producer with
  | .idle => s
  | .called data => { s with producer := .loaded data s.ring.writeIndex }
  | .loaded data writeIdx =>
    if s.toWrite data writeIdx = 0 then { s with producer := .idle }
    else
      { s with
        producer := .copying data writeIdx (s.toWrite data writeIdx)
          ((s.ring.cells writeIdx (s.toWrite data writeIdx)).zip data) }
  | .copying data writeIdx toWrite ((i, x) :: todo) =>
    { s with
      ring := { s.ring with buffer := Function.update s.ring.buffer i x }
      producer := .copying data writeIdx toWrite todo }
  | .copying _ writeIdx toWrite [] =>
    { s with
      ring := { s.ring with writeIndex := s.ring.wrapIndex (sizeAdd writeIdx toWrite) }
      producer := .idle }

/-- The next step of `read`. -/
def stepConsumer : Shared α :=
  match s.consumer with
  | .idle => s
  | .called count => { s with consumer := .loaded count s.ring.readIndex }
  | .loaded count readIdx =>
    if s.toRead count readIdx = 0 then { s with consumer := .idle }
    else
      { s with
        consumer := .copying readIdx (s.toRead count readIdx) []
          (s.ring.cells readIdx (s.toRead count readIdx)) }
  | .copying readIdx toRead data (i :: todo) =>
    { s with consumer := .copying readIdx toRead (data ++ [s.ring.buffer i]) todo }
  | .copying readIdx toRead _ [] =>
    { s with
      ring := { s.ring with readIndex := s.ring.wrapIndex (sizeAdd readIdx toRead) }
      consumer := .idle }

def step : Act α → Shared α
  | .write data =>
    match s.producer with
    | .idle => { s with producer := .called data }
    | _ => s
  | .read count =>
    match s.consumer with
    | .idle => { s with consumer := .called count }
    | _ => s
  | .producer => s.stepProducer
  | .consumer => s.stepConsumer

/-- What a call that returns with this step has transferred: `write` the elements it accepted,
`read` the elements it gives. -/
def event : Act α → Option (Fifo.Event α)
  | .producer =>
    match s.producer with
    | .loaded data writeIdx => if s.toWrite data writeIdx = 0 then some (.accept []) else none
    | .copying data _ toWrite [] => some (.accept (data.take toWrite))
    | _ => none
  | .consumer =>
    match s.consumer with
    | .loaded count readIdx => if s.toRead count readIdx = 0 then some (.give []) else none
    | .copying _ _ data [] => some (.give data)
    | _ => none
  | _ => none

/-- The cell the producer's next step writes. -/
def producerCell : Option ℕ :=
  match s.producer with
  | .copying _ _ _ ((i, _) :: _) => some i
  | _ => none

/-- The cell the consumer's next step reads. -/
def consumerCell : Option ℕ :=
  match s.consumer with
  | .copying _ _ _ (i :: _) => some i
  | _ => none

/-- No call is in progress. -/
def Quiescent : Prop := s.producer = .idle ∧ s.consumer = .idle

end Shared

end SPSCRingBuffer

end Aes67
