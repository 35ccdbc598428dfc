import HttpTunnel.Server.Link
import HttpTunnel.Server.Poller

/-!
One tunnel on the serving side: a poller, the downstream link it works with, the
connection under the link, and the packets that wait for a place in its queue. At each
instant the poller goes first and moves as long as it can; then the link moves, then
a waiting packet.
-/

namespace HttpTunnel.Server

structure Tunnel where
  poller : Poller
  link : Link
  socket : Socket := {}
  closeAsked : Bool := false
  /-- Somebody can still hand packets over. -/
  reachable : Bool := true
  /-- Packets handed over while the queue was full, the oldest first. -/
  waiting : List Packet := []
  gone : List Nat := []
  /-- When the poller ended and released the link. -/
  endedAt : Option Nat := none
  deriving DecidableEq, Repr

namespace Tunnel

inductive Deed where
  | poller (deed : Poller.Deed)
  /-- A packet came back because the poller had ended. -/
  | refused (packet : Packet)
  deriving DecidableEq, Repr

/-- What the client of a packet gets to see of a deed. A packet that was given up reads as
a heartbeat, one that was not taken any more as unknown. -/
def Deed.response? : Deed → Option (Nat × Response)
  | .poller (.answered packet answer) => some (packet.client, answer.response)
  | .poller (.dropped packet) => some (packet.client, Answer.heartbeat.response)
  | .poller _ => none
  | .refused packet => some (packet.client, ⟨.notFound, []⟩)

inductive Action where
  | poller (event : Poller.Event)
  | link (action : Link.Action)
  | enqueue
  deriving DecidableEq, Repr

def ofStart (terms : Terms) (now : Nat) : Tunnel :=
  { poller := .ofStart terms now, link := .ofStart terms now }

def moment (tunnel : Tunnel) (now : Nat) : Moment :=
  ⟨now, fun client => tunnel.gone.contains client⟩

def closed (tunnel : Tunnel) : Bool := tunnel.closeAsked || tunnel.poller.hasEnded

def fromLink (tunnel : Tunnel) : Option Poller.Event :=
  match tunnel.link.drain.1 with
  | .chunk chunk => some (.chunk chunk)
  | .ended => some .downstreamEnd
  | .nothing => none

def fromQueue (tunnel : Tunnel) : Option Poller.Event :=
  if tunnel.poller.queue ≠ [] then some .packet
  else if !tunnel.reachable && tunnel.waiting.isEmpty then some .packetsEnd
  else none

/-- What the link makes of the payload that the poller passes on. -/
def fed (tunnel : Tunnel) : Option Link.Feed :=
  match tunnel.poller.phase with
  | .passing packet _ => some (tunnel.link.feed packet.payload).1
  | _ => none

def whenDue (now : Nat) (deadline : Option Nat) (event : Poller.Event) : Option Poller.Event :=
  if deadline.any fun instant => decide (instant ≤ now) then some event else none

/-- The event that the poller gets next. Of those that could come at one instant a
request to close is the first, then downstream, then packets, then timers. -/
def nextEvent (now : Nat) (tunnel : Tunnel) : Option Poller.Event :=
  let poller := tunnel.poller
  let close := if tunnel.closeAsked then some Poller.Event.close else none
  match poller.phase with
  | .serving =>
      let downstream :=
        if poller.wantsChunks then tunnel.fromLink
        else if tunnel.link.stopped then some .stop
        else none
      close <|> downstream <|> tunnel.fromQueue <|> whenDue now poller.pollAt .pollDue <|>
        whenDue now (poller.held.map Prod.fst) .heldDue <|>
        whenDue now (some poller.idleAt) .idleDue
  | .passing _ _ =>
      let passed := match tunnel.fed with
        | some .queued => some Poller.Event.passed
        | some .refused => some .refused
        | _ => none
      close <|> passed <|> tunnel.fromLink
  | .prompting deadline => tunnel.fromLink <|> whenDue now (some deadline) .promptDue
  | .flushing deadline => close <|> tunnel.fromQueue <|> whenDue now (some deadline) .flushDue
  | .ended _ => none

/-- Whether an event can come to the poller, as far as the rest of the tunnel decides
that. Once somebody asked for the tunnel to close no more payload is passed on. -/
def allows (tunnel : Tunnel) : Poller.Event → Bool
  | .close => tunnel.closeAsked
  | .stop => tunnel.link.stopped
  | .chunk chunk => tunnel.link.fromDown.head? == some chunk
  | .downstreamEnd => tunnel.link.fromDown.isEmpty && tunnel.link.inflow.hasEnded
  | .packetsEnd => !tunnel.reachable && tunnel.waiting.isEmpty
  | .passed => !tunnel.closeAsked && tunnel.fed == some .queued
  | .refused => tunnel.fed == some .refused
  | _ => true

def linkAfter (tunnel : Tunnel) : Poller.Event → Link
  | .chunk _ => tunnel.link.drain.2
  | .passed =>
      match tunnel.poller.phase with
      | .passing packet _ => (tunnel.link.feed packet.payload).2
      | _ => tunnel.link
  | _ => tunnel.link

/-- One step of the poller. When it ends it lets go of the link. -/
def stepPoller (now : Nat) (tunnel : Tunnel) (event : Poller.Event) :
    Option (Tunnel × List Deed) :=
  if tunnel.allows event then
    (tunnel.poller.step (tunnel.moment now) event).map fun (poller, deeds) =>
      let link := tunnel.linkAfter event
      let moved := { tunnel with poller := poller, link := link }
      (if poller.hasEnded then { moved with link := link.release, endedAt := some now }
        else moved, deeds.map .poller)
  else none

/-- Lets the oldest waiting packet into the queue, or returns it. -/
def enqueue (tunnel : Tunnel) : Option (Tunnel × List Deed) :=
  match tunnel.waiting with
  | [] => none
  | packet :: rest =>
      match tunnel.poller.deliver packet with
      | (.queued, poller) => some ({ tunnel with poller := poller, waiting := rest }, [])
      | (.refused, _) => some ({ tunnel with waiting := rest }, [.refused packet])
      | (.full, _) => none

/-- One step of any part of the tunnel. There is none if that part cannot do it. -/
def step (now : Nat) (tunnel : Tunnel) : Action → Option (Tunnel × List Deed)
  | .poller event => tunnel.stepPoller now event
  | .link action =>
      (tunnel.link.move now tunnel.socket action).map fun (link, socket) =>
        ({ tunnel with link := link, socket := socket }, [])
  | .enqueue => tunnel.enqueue

def canEnqueue (tunnel : Tunnel) : Bool :=
  !tunnel.waiting.isEmpty &&
    (!tunnel.poller.accepting || decide (tunnel.poller.queue.length < Poller.queueCapacity))

def next? (now : Nat) (tunnel : Tunnel) : Option Action :=
  (tunnel.nextEvent now).map .poller <|> (tunnel.link.next? now tunnel.socket).map .link <|>
    if tunnel.canEnqueue then some .enqueue else none

def advance (now : Nat) (tunnel : Tunnel) : Option (Tunnel × List Deed) :=
  (tunnel.next? now).bind (tunnel.step now)

/-- Hands a packet over. It waits its turn if others wait already. -/
def deliver (tunnel : Tunnel) (packet : Packet) : Tunnel :=
  { tunnel with waiting := tunnel.waiting ++ [packet] }

def close (tunnel : Tunnel) : Tunnel := { tunnel with closeAsked := true }

/-- A client goes away. Its packet goes with it unless the queue has it already. -/
def hangUp (tunnel : Tunnel) (client : Nat) : Tunnel :=
  { tunnel with
    gone := client :: tunnel.gone
    waiting := tunnel.waiting.filter fun packet => packet.client != client }

def follow (tunnel : Tunnel) (move : Socket.PeerMove) : Tunnel :=
  { tunnel with socket := tunnel.socket.follow move }

def alarms (tunnel : Tunnel) : List Nat := tunnel.poller.alarms ++ tunnel.link.alarms

/-- Whether the downstream link has ended, or the wait for it is over. -/
def released (now : Nat) (tunnel : Tunnel) : Bool :=
  match tunnel.endedAt with
  | none => false
  | some instant =>
      tunnel.link.hasEnded || decide (instant + tunnel.poller.terms.grace ≤ now)

/-- The outcome of a tunnel that is done with, the failure if there was one. -/
def outcome? (now : Nat) (tunnel : Tunnel) : Option (Option Failure) :=
  match tunnel.poller.phase with
  | .ended failure => if tunnel.released now then some failure else none
  | _ => none

end Tunnel

end HttpTunnel.Server
