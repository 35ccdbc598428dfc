import HttpTunnel.Client.Intake
import HttpTunnel.Client.SendQueue
import HttpTunnel.Socket

/-!
The reader of a local connection with what surrounds it: the socket of the application,
the queue and those who take from it, and the cancellation of the connection.
-/

namespace HttpTunnel.Client

namespace Inlet

/-- What the others do. -/
inductive Deed where
  | write (chunk : Bytes)
  | endInput
  | close
  | cancel
  /-- Nobody will take from the queue any more. -/
  | dropQueue
  | take

inductive Result where
  | ok
  | chunk (chunk : Bytes)
  | empty
  | closed
  | gone

end Inlet

structure Inlet where
  readSize : Nat
  intake : Intake := {}
  queue : SendQueue Unit
  /-- Somebody may still take from the queue. -/
  wanted : Bool := true
  socket : Socket := {}
  cancelled : Bool := false

namespace Inlet

def ofCapacity (capacity readSize : Nat) : Inlet :=
  { readSize := readSize, queue := { capacity := capacity, limit := 0 } }

/-- What the reader meets next. A cancellation comes before anything else. -/
def next? (inlet : Inlet) : Option Intake.Event :=
  match inlet.intake.phase with
  | .ended => none
  | .queuing _ =>
      if inlet.cancelled then some .halted
      else if !inlet.wanted then some .refused
      else if inlet.queue.hasRoom then some .queued
      else none
  | .reading =>
      if inlet.cancelled then some .halted
      else
        match inlet.socket.look inlet.readSize with
        | .bytes chunk => some (.received chunk)
        | .failed => some .failed
        | .ended => some .endOfInput
        | .nothing => none

/-- What the reader may meet. A read may fail at any instant, and what is there together
with a cancellation may be met before it. -/
def allows (inlet : Inlet) : Intake.Event → Bool
  | .received chunk => chunk.isPrefixOf inlet.socket.incoming
  | .endOfInput => inlet.socket.look inlet.readSize == .ended
  | .failed => true
  | .queued => inlet.wanted && inlet.queue.hasRoom
  | .refused => !inlet.wanted
  | .halted => inlet.cancelled

/-- The socket when the reader has met an event. -/
def heard (inlet : Inlet) : Intake.Event → Socket
  | .received chunk => inlet.socket.consume chunk.length
  | _ => inlet.socket

def apply (inlet : Inlet) : Intake.Deed → Inlet
  | .enqueue chunk => { inlet with queue := (inlet.queue.offer chunk).2 }
  | .closeQueue => { inlet with queue := inlet.queue.close }
  | .cancel => { inlet with cancelled := true }

/-- The reader meets an event and does what follows from it. -/
def meet (inlet : Inlet) (event : Intake.Event) : Option (Inlet × List Intake.Deed) :=
  if inlet.allows event then
    (inlet.intake.step event).map fun (intake, deeds) =>
      (deeds.foldl apply { inlet with intake := intake, socket := inlet.heard event }, deeds)
  else none

def advance (inlet : Inlet) : Option Inlet := (inlet.next?.bind inlet.meet).map Prod.fst

def perform (inlet : Inlet) : Deed → Result × Inlet
  | .write chunk => (.ok, { inlet with socket := inlet.socket.peerSend chunk })
  | .endInput => (.ok, { inlet with socket := inlet.socket.peerEnd })
  | .close => (.ok, { inlet with socket := inlet.socket.peerClose })
  | .cancel => (.ok, { inlet with cancelled := true })
  | .dropQueue => (.ok, { inlet with wanted := false })
  | .take =>
      if !inlet.wanted then (.gone, inlet)
      else
        match inlet.queue.chunks with
        | chunk :: rest =>
            (.chunk chunk, { inlet with queue := { inlet.queue with chunks := rest } })
        | [] => (if inlet.queue.closed then .closed else .empty, inlet)

end Inlet

end HttpTunnel.Client
