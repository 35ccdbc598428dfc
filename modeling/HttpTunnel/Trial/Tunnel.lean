import HttpTunnel.Server.Tunnel
import HttpTunnel.Timeline

/-!
A scripted run of a tunnel on the serving side: clients hand over packets and hang up,
the downstream server sends, reads and hangs up.
-/

namespace HttpTunnel.Trial.Tunnel

open Server

inductive Deed where
  | packet (serial : Int) (payload : Bytes)
  | hangUp (client : Nat)
  | down (move : Socket.PeerMove)
  | close
  /-- Nobody will hand over packets any more. -/
  | forget
  | rest

inductive Response where
  | answer (answer : Answer)
  | rejected

structure Entry where
  client : Nat
  instant : Nat
  response : Response

structure World where
  clock : Nat := 0
  tunnel : Server.Tunnel
  clients : Nat := 0
  forgotten : Bool := false
  /-- Responses since the last look, the latest first. -/
  log : List Entry := []

structure Sight where
  instant : Nat
  entries : List Entry
  down : Bytes
  /-- Parked requests and whether the tunnel is closed, while somebody can ask. -/
  status : Option (Nat × Bool)

def ofTerms (terms : Terms) : World := { tunnel := .ofStart terms 0 }

/-- What a client sees of a deed. A packet given up without an answer reads as a
heartbeat. -/
def seen? (tunnel : Server.Tunnel) (instant : Nat) : Server.Tunnel.Deed → Option Entry
  | .poller (.answered packet answer) => some ⟨packet.client, instant, .answer answer⟩
  | .poller (.dropped packet) =>
      if tunnel.gone.contains packet.client then none
      else some ⟨packet.client, instant, .answer .heartbeat⟩
  | .refused packet =>
      if tunnel.gone.contains packet.client then none
      else some ⟨packet.client, instant, .rejected⟩
  | _ => none

def timeline : Timeline World where
  clock := World.clock
  act world :=
    (world.tunnel.advance world.clock).map fun (tunnel, deeds) =>
      { world with
        tunnel := tunnel
        log := (deeds.filterMap (seen? tunnel world.clock)).reverse ++ world.log }
  alarms world := world.tunnel.alarms
  moveTo instant world := { world with clock := instant }

def perform (world : World) : Deed → World
  | .packet serial payload =>
      { world with
        clients := world.clients + 1
        tunnel := world.tunnel.deliver ⟨world.clients, serial, payload⟩ }
  | .hangUp client =>
      { world with tunnel := { world.tunnel with gone := client :: world.tunnel.gone } }
  | .down move => { world with tunnel := world.tunnel.follow move }
  | .close => { world with tunnel := world.tunnel.close }
  | .forget =>
      { world with forgotten := true, tunnel := { world.tunnel with reachable := false } }
  | .rest => world

/-- Enough for every packet and chunk that is under way and every timer in the span. -/
def budget (world : World) (span : Nat) : Nat :=
  let tunnel := world.tunnel
  200 + 8 * (tunnel.socket.incoming.length + tunnel.link.toDown.length +
    tunnel.waiting.length + tunnel.poller.queue.length + span)

def pass (world : World) (span : Nat) : World := timeline.pass span (budget world span) world

def inOrder (first second : Entry) : Bool :=
  first.instant < second.instant ||
    (first.instant == second.instant && first.client ≤ second.client)

def step (world : World) (deed : Deed) (span : Nat) : Sight × World :=
  let later := pass (perform world deed) span
  let (down, socket) := later.tunnel.socket.peerTake
  let tunnel := { later.tunnel with socket := socket }
  let status := if later.forgotten then none
    else some (tunnel.poller.published, tunnel.closed)
  (⟨later.clock, later.log.reverse.mergeSort inOrder, down, status⟩,
    { later with tunnel := tunnel, log := [] })

/-- How the tunnel has ended ten milliseconds later, if it has. -/
def outcome? (world : World) : Option (Option Failure) :=
  let later := pass world 10
  later.tunnel.outcome? later.clock

end HttpTunnel.Trial.Tunnel
