import HttpTunnel.Bytes

/-!
The queue of local bytes that wait to be sent. Whoever takes bytes gets a serial in the
same act, so bytes taken earlier always travel under a lower serial. Takers that wait
stand in a line; the first of it holds the queue, and nobody passes it.
-/

namespace HttpTunnel.Client

/-- A numbered request payload. -/
structure Parcel where
  serial : Nat
  payload : Bytes
  deriving DecidableEq, Repr

structure SendQueue (Taker : Type) where
  capacity : Nat
  limit : Nat
  chunks : List Bytes := []
  closed : Bool := false
  nextSerial : Nat := 1
  line : List Taker := []
  deriving DecidableEq, Repr

namespace SendQueue

variable {Taker : Type}

inductive Offer where
  | sent
  | full
  | closed
  deriving DecidableEq, Repr

inductive Draw where
  | parcel (parcel : Parcel)
  | drained
  | waiting
  deriving DecidableEq, Repr

def hasRoom (queue : SendQueue Taker) : Bool := queue.chunks.length < queue.capacity

def offer (queue : SendQueue Taker) (chunk : Bytes) : Offer × SendQueue Taker :=
  if queue.closed then (.closed, queue)
  else if queue.hasRoom then (.sent, { queue with chunks := queue.chunks ++ [chunk] })
  else (.full, queue)

def close (queue : SendQueue Taker) : SendQueue Taker := { queue with closed := true }

/-- Adds queued chunks to what was taken while that is shorter than the limit. -/
def gather (limit : Nat) (taken : Bytes) : List Bytes → Bytes × List Bytes
  | [] => (taken, [])
  | chunk :: rest =>
      if limit ≤ taken.length then (taken, chunk :: rest)
      else gather limit (taken ++ chunk) rest

def number (queue : SendQueue Taker) (payload : Bytes) : Parcel × SendQueue Taker :=
  (⟨queue.nextSerial, payload⟩, { queue with nextSerial := queue.nextSerial + 1 })

/-- A parcel without payload, whatever is queued. -/
def empty (queue : SendQueue Taker) : Parcel × SendQueue Taker := queue.number []

/-- What the holder of the queue gets from it: chunks under one serial, the news that
there will be no more, or nothing yet. -/
def take (queue : SendQueue Taker) : Draw × SendQueue Taker :=
  match queue.chunks with
  | [] => (if queue.closed then .drained else .waiting, queue)
  | chunk :: rest =>
      let (payload, kept) := gather queue.limit chunk rest
      let (parcel, numbered) := queue.number payload
      (.parcel parcel, { numbered with chunks := kept })

/-- Takes without waiting. A queue that somebody holds looks empty, even if it is
closed; an empty one still gives a serial. -/
def ready (queue : SendQueue Taker) : Draw × SendQueue Taker :=
  if queue.line.isEmpty then
    match queue.take with
    | (.waiting, _) =>
        let (parcel, numbered) := queue.empty
        (.parcel parcel, numbered)
    | taken => taken
  else
    let (parcel, numbered) := queue.empty
    (.parcel parcel, numbered)

variable [DecidableEq Taker]

def leave (queue : SendQueue Taker) (taker : Taker) : SendQueue Taker :=
  { queue with line := queue.line.filter (· ≠ taker) }

def join (queue : SendQueue Taker) (taker : Taker) : SendQueue Taker :=
  { queue with line := queue.line ++ [taker] }

def holder? (queue : SendQueue Taker) : Option Taker := queue.line.head?

/-- What a taker in the line gets. One that gets something leaves the line. -/
def draw (queue : SendQueue Taker) (taker : Taker) : Draw × SendQueue Taker :=
  if queue.holder? = some taker then
    match queue.take with
    | (.waiting, _) => (.waiting, queue)
    | (drawn, after) => (drawn, after.leave taker)
  else (.waiting, queue)

end SendQueue

end HttpTunnel.Client
