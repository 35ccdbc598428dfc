import HttpTunnel.Failure
import HttpTunnel.SerialWindow
import HttpTunnel.Server.Response
import HttpTunnel.Server.Terms

/-!
The long poller of a tunnel. It takes requests in the order of their serials, passes
their payload on to the downstream writer, parks them, and answers the oldest one as
soon as there are downstream bytes, another request pushes it out, or its time is up.

A poller moves by events at moments. Between two events it waits in one of a few
phases, and each phase listens to some of the events only. What it does to the world
comes out of each step as a list of deeds.
-/

namespace HttpTunnel.Server

/-- A request of a tunnel: the client that waits for its answer, its serial and its
payload. -/
structure Packet where
  client : Nat
  serial : Int
  payload : Bytes
  deriving DecidableEq, Repr

/-- The instant of an event, and which clients have hung up by then. -/
structure Moment where
  now : Nat
  gone : Nat → Bool

namespace Poller

inductive Deed where
  | answered (packet : Packet) (answer : Answer)
  /-- An answer found its client gone. -/
  | missed (packet : Packet)
  /-- A packet was given up without an answer. -/
  | dropped (packet : Packet)
  | passedDown (payload : Bytes)
  deriving DecidableEq, Repr

inductive Phase where
  | serving
  /-- Waiting for the downstream writer to take the payload of a packet; the packets
  released with it come next. -/
  | passing (packet : Packet) (released : List Packet)
  /-- Waiting for a prompt answer to the only parked request. -/
  | prompting (deadline : Nat)
  /-- Downstream has ended; waiting for a request that fetches the last bytes. -/
  | flushing (deadline : Nat)
  | ended (failure : Option Failure)
  deriving DecidableEq, Repr

inductive Event where
  | close
  | stop
  | chunk (chunk : Bytes)
  /-- The last downstream chunk has been taken. -/
  | downstreamEnd
  | packet
  /-- No packet will come any more. -/
  | packetsEnd
  | pollDue
  | heldDue
  | idleDue
  | promptDue
  | flushDue
  | passed
  | refused
  deriving DecidableEq, Repr

/-- Most requests ever parked on one tunnel. -/
def mostParked : Nat := 2

/-- Packets that may queue for the poller. -/
def queueCapacity : Nat := 4

end Poller

structure Poller where
  terms : Terms
  phase : Poller.Phase := .serving
  /-- Packets that wait to be taken, while the poller accepts any. -/
  queue : List Packet := []
  accepting : Bool := true
  /-- Parked requests, the oldest first. -/
  parked : List Packet := []
  /-- Packets that came before their predecessor. -/
  early : SerialWindow Packet := .ofWidth 1 2
  /-- When the oldest early packet is given up, and its serial. -/
  held : Option (Nat × Int) := none
  pollAt : Option Nat := none
  lastUse : Nat := 0
  nextReply : Nat := 1
  lastSeen : Int := 0
  /-- Downstream bytes that no reply has carried yet. -/
  pending : Bytes := []
  /-- How many requests are parked, as others get to see it. -/
  published : Nat := 0
  deriving DecidableEq, Repr

namespace Poller

def ofStart (terms : Terms) (now : Nat) : Poller := { terms := terms, lastUse := now }

/-- Whether downstream chunks are welcome: somebody waits for them, or the buffer is
not full. -/
def wantsChunks (poller : Poller) : Bool :=
  !poller.parked.isEmpty || decide (poller.pending.length < poller.terms.readSize)

/-- Lets others see how many requests are parked. -/
def publish (poller : Poller) : Poller := { poller with published := poller.parked.length }

/-- Takes in downstream bytes: a chunk, with those that were ready behind it. -/
def absorb (now : Nat) (poller : Poller) (chunk : Bytes) : Poller :=
  { poller with lastUse := now, pending := poller.pending ++ chunk }

/-- Offers data to the parked requests in turn until a client takes it. Says whether
one did, and which requests stay parked. -/
def offer (gone : Nat → Bool) (answer : Answer) : List Packet → Bool × List Packet × List Deed
  | [] => (false, [], [])
  | packet :: rest =>
      if gone packet.client then
        let (taken, parked, deeds) := offer gone answer rest
        (taken, parked, .missed packet :: deeds)
      else (true, rest, [.answered packet answer])

/-- Answers the oldest parked request: with the pending bytes under a fresh serial, and
if its client is gone, the next request with the same; or with a heartbeat if there
are no bytes. -/
def replyOldest (moment : Moment) (poller : Poller) : Poller × List Deed :=
  match poller.parked with
  | [] => (publish { poller with pollAt := none }, [])
  | oldest :: rest =>
      if poller.pending = [] then
        let deed := if moment.gone oldest.client then Deed.missed oldest
          else .answered oldest .heartbeat
        (publish { poller with
            parked := rest
            pollAt := if rest.isEmpty then none else poller.pollAt }, [deed])
      else
        let (taken, parked, deeds) :=
          offer moment.gone (.data poller.nextReply poller.pending) poller.parked
        (publish { poller with
            parked := parked
            pollAt := if parked.isEmpty then none else poller.pollAt
            lastUse := moment.now
            nextReply := if taken then poller.nextReply + 1 else poller.nextReply
            pending := if taken then [] else poller.pending }, deeds)

def heartbeats (moment : Moment) (packets : List Packet) : List Deed :=
  packets.map fun packet =>
    if moment.gone packet.client then .missed packet else .answered packet .heartbeat

/-- Completes every outstanding request: the oldest parked one gets the bytes that are
left, the others a heartbeat. Nothing is accepted from now on. -/
def conclude (moment : Moment) (failure : Option Failure) (poller : Poller) :
    Poller × List Deed :=
  let (poller, deeds) :=
    if poller.pending ≠ [] ∧ poller.parked ≠ [] then poller.replyOldest moment else (poller, [])
  let (early, window) := poller.early.drain
  (publish { poller with
      phase := .ended failure
      accepting := false
      parked := []
      early := window
      queue := [] },
    deeds ++ heartbeats moment (poller.parked ++ early ++ poller.queue))

/-- Ends with a failure. If downstream has ended while bytes are pending and nobody is
parked, the client first gets the time of one poll to come for them. -/
def fail (moment : Moment) (failure : Failure) (poller : Poller) : Poller × List Deed :=
  if failure = .downstreamClosed ∧ poller.pending ≠ [] ∧ poller.parked = [] then
    ({ poller with phase := .flushing (moment.now + poller.terms.pollFor) }, [])
  else poller.conclude moment (some failure)

/-- Parks a packet. The oldest request is answered first if there is no place left. -/
def park (moment : Moment) (poller : Poller) (packet : Packet) : Poller × List Deed :=
  let (poller, deeds) :=
    if poller.parked.length = mostParked then poller.replyOldest moment else (poller, [])
  (publish { poller with
      parked := poller.parked ++ [packet]
      pollAt := some (moment.now + poller.terms.pollFor) }, deeds)

/-- Decides what happens to the parked requests once all released packets are in: bytes
go out at once, and of two requests the older one is answered. -/
def settle (moment : Moment) (poller : Poller) : Poller × List Deed :=
  let serving := { poller with phase := .serving }
  if poller.pending ≠ [] ∨ 1 < poller.parked.length then serving.replyOldest moment
  else (serving, [])

/-- A lone request without bytes for it waits a little for a prompt answer. -/
def decideReply (moment : Moment) (poller : Poller) : Poller × List Deed :=
  if poller.pending = [] ∧ poller.parked.length = 1 ∧ poller.terms.promptFor ≠ 0 then
    ({ poller with phase := .prompting (moment.now + poller.terms.promptFor) }, [])
  else poller.settle moment

/-- Takes in released packets in order. One with a payload has to pass that on before it
is parked. -/
def takeIn (moment : Moment) (poller : Poller) : List Packet → Poller × List Deed
  | [] => poller.decideReply moment
  | packet :: released =>
      let seen := { poller with lastSeen := packet.serial }
      if packet.payload = [] then
        let (parked, deeds) := seen.park moment packet
        if mostParked < parked.parked.length then
          let (ended, rest) := parked.fail moment (.tooManyParked parked.parked.length)
          (ended, deeds ++ released.map .dropped ++ rest)
        else
          let (taken, rest) := parked.takeIn moment released
          (taken, deeds ++ rest)
      else ({ seen with lastUse := moment.now, phase := .passing packet released }, [])

/-- Goes on with a packet whose payload is done with. -/
def resume (moment : Moment) (poller : Poller) (packet : Packet) (released : List Packet) :
    Poller × List Deed :=
  let (parked, deeds) := poller.park moment packet
  if mostParked < parked.parked.length then
    let (ended, rest) := parked.fail moment (.tooManyParked parked.parked.length)
    (ended, deeds ++ released.map .dropped ++ rest)
  else
    let (taken, rest) := parked.takeIn moment released
    (taken, deeds ++ rest)

/-- Takes in one packet: a serial that cannot follow ends the tunnel, one that is ahead
is held, one in order releases itself and what waited for it. -/
def receive (moment : Moment) (poller : Poller) (packet : Packet) : Poller × List Deed :=
  let mismatch := Failure.serialMismatch poller.lastSeen packet.serial
  if packet.serial < 1 then
    let (ended, deeds) := poller.fail moment mismatch
    (ended, .dropped packet :: deeds)
  else
    match poller.early.push packet.serial.toNat packet with
    | .error _ =>
        let (ended, deeds) := poller.fail moment mismatch
        (ended, .dropped packet :: deeds)
    | .ok ([], early) =>
        let held := poller.held.getD (moment.now + poller.terms.pollFor, packet.serial)
        ({ poller with early := early, held := some held }, [])
    | .ok (released, early) =>
        let held := if early.backlog = 0 then none else poller.held
        { poller with early := early, held := held }.takeIn moment released

/-- Takes a downstream chunk, and hands it on if somebody waits for it. -/
def take (moment : Moment) (poller : Poller) (chunk : Bytes) : Poller × List Deed :=
  let fuller := poller.absorb moment.now chunk
  if fuller.parked = [] then (fuller, []) else fuller.replyOldest moment

/-- The downstream connection failed while a payload was to be passed on. The packet and
those released with it are given up. -/
def abandon (moment : Moment) (poller : Poller) (packet : Packet) (released : List Packet) :
    Poller × List Deed :=
  let (ended, deeds) := poller.fail moment .downstreamClosed
  (ended, (packet :: released).map .dropped ++ deeds)

def due (moment : Moment) (deadline : Option Nat) : Bool :=
  deadline.any fun instant => decide (instant ≤ moment.now)

def idleAt (poller : Poller) : Nat := poller.lastUse + poller.terms.patience

def serve (moment : Moment) (poller : Poller) : Event → Option (Poller × List Deed)
  | .close => some (poller.conclude moment none)
  | .stop => if poller.wantsChunks then none else some (poller.fail moment .downstreamClosed)
  | .chunk chunk => if poller.wantsChunks then some (poller.take moment chunk) else none
  | .downstreamEnd =>
      if poller.wantsChunks then some (poller.fail moment .downstreamClosed) else none
  | .packet =>
      match poller.queue with
      | [] => none
      | packet :: rest => some ({ poller with queue := rest }.receive moment packet)
  | .packetsEnd => if poller.queue = [] then some (poller.conclude moment none) else none
  | .pollDue =>
      if due moment poller.pollAt then
        let (replied, deeds) := poller.replyOldest moment
        let pollAt := if replied.parked = [] then replied.pollAt
          else some (moment.now + poller.terms.pollFor)
        some ({ replied with pollAt := pollAt }, deeds)
      else none
  | .heldDue =>
      match poller.held with
      | some (deadline, serial) =>
          if deadline ≤ moment.now then
            some (poller.fail moment (.serialMismatch poller.lastSeen serial))
          else none
      | none => none
  | .idleDue => if poller.idleAt ≤ moment.now then some (poller.conclude moment none) else none
  | _ => none

/-- The effect of an event on a poller that passes a payload on. A request to close
leaves the payload where it is. -/
def pass (moment : Moment) (poller : Poller) (packet : Packet) (released : List Packet) :
    Event → Option (Poller × List Deed)
  | .close => some (poller.resume moment packet released)
  | .passed =>
      let (resumed, deeds) := poller.resume moment packet released
      some (resumed, .passedDown packet.payload :: deeds)
  | .refused | .downstreamEnd => some (poller.abandon moment packet released)
  | .chunk chunk => some (poller.take moment chunk)
  | _ => none

def prompt (moment : Moment) (poller : Poller) (deadline : Nat) :
    Event → Option (Poller × List Deed)
  | .chunk chunk => some ((poller.absorb moment.now chunk).settle moment)
  | .downstreamEnd => some (poller.settle moment)
  | .promptDue => if deadline ≤ moment.now then some (poller.settle moment) else none
  | _ => none

def flush (moment : Moment) (poller : Poller) (deadline : Nat) :
    Event → Option (Poller × List Deed)
  | .close => some (poller.conclude moment (some .downstreamClosed))
  | .packet =>
      match poller.queue with
      | [] => none
      | packet :: rest =>
          let fetched := publish { poller with
            queue := rest
            parked := poller.parked ++ [packet] }
          some (fetched.conclude moment (some .downstreamClosed))
  | .packetsEnd =>
      if poller.queue = [] then some (poller.conclude moment (some .downstreamClosed)) else none
  | .flushDue =>
      if deadline ≤ moment.now then some (poller.conclude moment (some .downstreamClosed))
      else none
  | _ => none

/-- One step. There is none if the poller does not listen to the event. -/
def step (moment : Moment) (poller : Poller) (event : Event) : Option (Poller × List Deed) :=
  match poller.phase with
  | .serving => poller.serve moment event
  | .passing packet released => poller.pass moment packet released event
  | .prompting deadline => poller.prompt moment deadline event
  | .flushing deadline => poller.flush moment deadline event
  | .ended _ => none

inductive Delivery where
  | queued
  | full
  | refused
  deriving DecidableEq, Repr

/-- Hands a packet to the poller, if it has not ended and the queue has room. -/
def deliver (poller : Poller) (packet : Packet) : Delivery × Poller :=
  if poller.accepting then
    if poller.queue.length < queueCapacity then
      (.queued, { poller with queue := poller.queue ++ [packet] })
    else (.full, poller)
  else (.refused, poller)

def hasEnded (poller : Poller) : Bool :=
  match poller.phase with
  | .ended _ => true
  | _ => false

def alarms (poller : Poller) : List Nat :=
  match poller.phase with
  | .serving => poller.pollAt.toList ++ (poller.held.map Prod.fst).toList ++ [poller.idleAt]
  | .prompting deadline | .flushing deadline => [deadline]
  | _ => []

end Poller

end HttpTunnel.Server
