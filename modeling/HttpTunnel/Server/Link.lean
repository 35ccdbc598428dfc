import HttpTunnel.Server.Inflow
import HttpTunnel.Server.Outflow
import HttpTunnel.Server.Terms
import HttpTunnel.Socket

/-!
A downstream connection with its reader and its writer. Chunks to be written wait in a
queue, chunks that were read pass through a slot for one. Whichever of the two ends
stops the other.
-/

namespace HttpTunnel.Server

structure Link where
  terms : Terms
  inflow : Inflow
  outflow : Outflow := {}
  toDown : List Bytes := []
  fromDown : List Bytes := []
  stopped : Bool := false
  /-- The owner has not released the link yet: it may queue chunks and takes them. -/
  owned : Bool := true
  /-- The writer has had something to do for longer than the reader, and moves first. -/
  writerFirst : Bool := false
  deriving DecidableEq, Repr

namespace Link

inductive Action where
  | inflow (event : Inflow.Event)
  | outflow (event : Outflow.Event)
  deriving DecidableEq, Repr

def ofStart (terms : Terms) (now : Nat) : Link := { terms := terms, inflow := Inflow.ofStart now }

def readSize (link : Link) : Nat := max link.terms.readSize 1

def capacity (link : Link) : Nat := max link.terms.outflowCapacity 1

/-- Either worker that has ended stops the other. -/
def propagate (link : Link) : Link :=
  { link with stopped := link.stopped || link.inflow.hasEnded || link.outflow.hasEnded }

/-- Whether an event can come about, as far as the link itself decides that. -/
def allows (link : Link) : Action → Bool
  | .inflow (.received chunk) => chunk.length ≤ link.readSize
  | .inflow .handed => !link.stopped && link.owned && link.fromDown.isEmpty
  | .inflow .refused => !link.owned
  | .inflow .halted => link.stopped
  | .inflow _ => true
  | .outflow (.took chunk) => !link.stopped && link.toDown.head? == some chunk
  | .outflow .exhausted => !link.stopped && !link.owned && link.toDown.isEmpty
  | .outflow .halted => link.stopped
  | .outflow _ => true

/-- One step of either worker, and the bytes that it writes to the connection. -/
def step (now : Nat) (link : Link) (action : Action) : Option (Link × Bytes) :=
  if link.allows action then
    match action with
    | .inflow event =>
        (link.inflow.step now link.stopped event).map fun (inflow, forwarded) =>
          (propagate { link with
            inflow := inflow
            fromDown := link.fromDown ++ forwarded.toList }, [])
    | .outflow event =>
        (link.outflow.step now link.stopped event).map fun (outflow, written) =>
          let moved := match event with
            | .took _ => { link with toDown := link.toDown.tail, writerFirst := false }
            | _ => link
          (propagate { moved with outflow := outflow }, written)
  else none

def canHand (link : Link) : Bool :=
  match link.inflow.phase with
  | .handing _ => link.fromDown.isEmpty
  | _ => false

inductive Feed where
  | queued
  | full
  | refused
  deriving DecidableEq, Repr

/-- Queues a chunk for the writer, if it still runs and there is room. -/
def feed (link : Link) (chunk : Bytes) : Feed × Link :=
  if link.outflow.hasEnded then (.refused, link)
  else if link.toDown.length < link.capacity then
    (.queued, { link with
      toDown := link.toDown ++ [chunk]
      writerFirst := link.writerFirst || !link.canHand })
  else (.full, link)

inductive Drain where
  | chunk (chunk : Bytes)
  | nothing
  | ended
  deriving DecidableEq, Repr

def drain (link : Link) : Drain × Link :=
  match link.fromDown with
  | chunk :: rest => (.chunk chunk, { link with fromDown := rest })
  | [] => (if link.inflow.hasEnded then .ended else .nothing, link)

/-- The owner asks for a stop and takes no more part. -/
def release (link : Link) : Link :=
  { link with stopped := true, owned := false, fromDown := [] }

def hasEnded (link : Link) : Bool := link.inflow.hasEnded && link.outflow.hasEnded

def nextInflow (now : Nat) (socket : Socket) (link : Link) : Option Inflow.Event :=
  match link.inflow.phase with
  | .ended => none
  | .handing _ =>
      if link.stopped then some .halted
      else if !link.owned then some .refused
      else if link.fromDown.isEmpty then some .handed
      else none
  | .reading since =>
      match socket.look link.readSize with
      | .bytes chunk => some (.received chunk)
      | .ended => some .endOfStream
      | .failed => some .failed
      | .nothing => if since + link.terms.readFor ≤ now then some .elapsed else none

def nextOutflow (now : Nat) (socket : Socket) (link : Link) : Option Outflow.Event :=
  match link.outflow.phase with
  | .ended => none
  | .waiting =>
      if link.stopped then some .halted
      else
        match link.toDown with
        | chunk :: _ => some (.took chunk)
        | [] => if link.owned then none else some .exhausted
  | .writing rest since =>
      if socket.peerGone then some .failed
      else if 0 < socket.accepts rest.length then some (.wrote (socket.accepts rest.length))
      else if since + link.terms.writeFor ≤ now then some .elapsed
      else none

/-- The event that comes about next at an instant, with the connection in a given
state. -/
def next? (now : Nat) (socket : Socket) (link : Link) : Option Action :=
  let reader := (link.nextInflow now socket).map Action.inflow
  let writer := (link.nextOutflow now socket).map Action.outflow
  if link.writerFirst then writer <|> reader else reader <|> writer

def alarms (link : Link) : List Nat :=
  let reading := match link.inflow.phase with
    | .reading since => [since + link.terms.readFor]
    | _ => []
  let writing := match link.outflow.phase with
    | .writing _ since => [since + link.terms.writeFor]
    | _ => []
  reading ++ writing

/-- Whether an event agrees with the clock and with the connection. An attempt may read
or write any part of what the connection has or takes. -/
def agrees (now : Nat) (socket : Socket) (link : Link) : Action → Bool
  | .inflow (.received chunk) => chunk.isPrefixOf socket.incoming
  | .inflow .endOfStream => socket.look link.readSize == .ended
  | .inflow .failed => socket.look link.readSize == .failed
  | .inflow .elapsed =>
      match link.inflow.phase with
      | .reading since => since + link.terms.readFor ≤ now
      | _ => false
  | .outflow (.wrote count) =>
      match link.outflow.phase with
      | .writing rest _ => !socket.peerGone && count ≤ socket.accepts rest.length
      | _ => false
  | .outflow .failed => socket.peerGone
  | .outflow .elapsed =>
      match link.outflow.phase with
      | .writing _ since => since + link.terms.writeFor ≤ now
      | _ => false
  | .outflow .wroteNothing => false
  | _ => true

/-- One step of the link on a connection, and what becomes of the connection. -/
def move (now : Nat) (socket : Socket) (link : Link) (action : Action) :
    Option (Link × Socket) :=
  if link.agrees now socket action then
    (link.step now action).map fun (after, written) =>
      let used := match action with
        | .inflow (.received chunk) => socket.consume chunk.length
        | _ => socket.write written
      (after, if after.outflow.hasEnded then used.finish else used)
  else none

def advance (now : Nat) (socket : Socket) (link : Link) : Option (Link × Socket) :=
  (link.next? now socket).bind (link.move now socket)

end Link

end HttpTunnel.Server
