import HttpTunnel.Server.Gateway
import HttpTunnel.Timeline
import HttpTunnel.Trial.Network

/-!
A scripted run of the serving side: clients send requests and go away, the owner creates
and closes tunnels, the downstream servers of the tunnels send, read and hang up.
Dialing takes no time.
-/

namespace HttpTunnel.Trial.Gateway

open Server

inductive Deed where
  /-- A request whose client either sends all it has and ends, or keeps the connection
  open after a body that is too short. -/
  | ask (request : HttpRequest) (stays : Bool)
  | hangUp (client : Nat)
  | create
  | close (key : Key)
  | look (key : Key)
  | down (number : Nat) (move : Socket.PeerMove)
  | shutDown
  | rest

inductive Result where
  | nothing
  | created (outcome : Except Failure Nat)
  | found (found : Bool)

structure Entry where
  client : Nat
  instant : Nat
  response : Response

structure World where
  clock : Nat := 0
  gateway : Server.Gateway
  network : Network
  freshKey : Nat → Key
  clients : Nat := 0
  /-- Clients that still owe a part of their body. -/
  uploading : List Nat := []
  /-- The instant up to which a shutdown waits, while it does. -/
  patience : Option Nat := none
  shutdownDone : Bool := false
  /-- Responses since the last look, the latest first. -/
  log : List Entry := []
  result : Result := .nothing

structure Sight where
  instant : Nat
  result : Result
  entries : List Entry
  registered : Nat
  inFlight : Nat
  /-- Parked requests of every tunnel, while it is registered. -/
  parked : List (Option Nat)
  down : List Bytes
  shutdownDone : Bool

def ofGateway (gateway : Server.Gateway) (network : Network) (freshKey : Nat → Key) : World :=
  { gateway := gateway, network := network, freshKey := freshKey }

def record (world : World) : Server.Gateway.Deed → World
  | .responded client response =>
      { world with log := ⟨client, world.clock, response⟩ :: world.log }
  | .created outcome => { world with result := .created outcome }
  | .closed found => { world with result := .found found }

def act? (world : World) (action : Server.Gateway.Action) : Option World :=
  (world.gateway.step world.clock action).map fun (gateway, deeds) =>
    deeds.foldl record { world with gateway := gateway }

def act (world : World) (action : Server.Gateway.Action) : World :=
  (act? world action).getD world

/-- How dialing for the next tunnel ends. -/
def dial (world : World) : Except Failure Key :=
  let destination := world.gateway.destination
  match world.network with
  | .fails cause => .error (.dial destination cause)
  | .answers =>
      if world.gateway.terms.dialFor = 0 then .error (.dialTimeout destination)
      else .ok (world.freshKey world.gateway.hosted.length)

def nextAction (world : World) : Option Server.Gateway.Action :=
  match world.gateway.dialing with
  | caller :: _ => some (.dialed caller (dial world))
  | [] => world.gateway.next? world.clock

/-- A shutdown is over when nothing is under way, or when it has waited long enough. -/
def finishShutdown (world : World) : Option World :=
  match world.patience with
  | none => none
  | some instant =>
      if (world.gateway.isIdle && world.uploading.isEmpty) || instant ≤ world.clock then
        some { world with patience := none, shutdownDone := true }
      else none

def alarms (world : World) : List Nat := world.gateway.alarms ++ world.patience.toList

def timeline : Timeline World where
  clock := World.clock
  act world := ((nextAction world).bind (act? world)) <|> finishShutdown world
  alarms := alarms
  moveTo instant world := { world with clock := instant }

/-- The body of an answer to HEAD never reaches the client. -/
def withoutBody (client : Nat) (entry : Entry) : Entry :=
  if entry.client = client then
    { entry with response := { entry.response with body := [] } }
  else entry

/-- A client whose body is already too long gets its answer whether or not it stays. -/
def ask (world : World) (request : HttpRequest) (stays : Bool) : World :=
  let client := world.clients
  let asking := { world with clients := client + 1 }
  if world.gateway.hasShutDown then asking
  else if stays ∧ request.body.length ≤ world.gateway.terms.largestBody then
    { asking with uploading := client :: world.uploading }
  else
    let asked := act asking (.ask client request)
    if request.method = "HEAD" then { asked with log := asked.log.map (withoutBody client) }
    else asked

def perform (world : World) : Deed → World
  | .ask request stays => ask world request stays
  | .hangUp client =>
      act { world with uploading := world.uploading.filter (· != client) } (.hangUp client)
  | .create => act world .create
  | .close key => act world (.close key)
  | .look key => { world with result := .found (world.gateway.registry.contains key) }
  | .down number move => act world (.downstream number move)
  | .shutDown =>
      { act world .shutDown with
        patience := some (world.clock + Terms.shutdownGrace)
        shutdownDone := false }
  | .rest => world

/-- Enough for everything that is under way and every timer in the span. -/
def budget (world : World) (span : Nat) : Nat :=
  let load (total : Nat) (hosted : Server.Gateway.Hosted) : Nat :=
    let tunnel := hosted.tunnel
    total + 200 + 8 * (tunnel.socket.incoming.length + tunnel.link.toDown.length +
      tunnel.waiting.length + tunnel.poller.queue.length + span)
  world.gateway.hosted.foldl load (100 + 400 * world.gateway.dialing.length + 8 * span)

def inOrder (first second : Entry) : Bool :=
  first.instant < second.instant ||
    (first.instant == second.instant && first.client ≤ second.client)

/-- What downstream got of each tunnel, read off by the downstream servers. -/
def readDown (hosted : List Server.Gateway.Hosted) : List (Bytes × Server.Gateway.Hosted) :=
  hosted.map fun entry =>
    let (down, socket) := entry.tunnel.socket.peerTake
    (down, { entry with tunnel := { entry.tunnel with socket := socket } })

def step (world : World) (deed : Deed) (span : Nat) : Sight × World :=
  let acted := perform { world with result := .nothing } deed
  let later := timeline.pass span (budget acted span) acted
  let reads := readDown later.gateway.hosted
  let gateway := { later.gateway with hosted := reads.map Prod.snd }
  let parked := gateway.hosted.map fun entry => gateway.parked? entry.key
  (⟨later.clock, later.result, later.log.reverse.mergeSort inOrder, gateway.registry.size,
      gateway.inFlight.length, parked, reads.map Prod.fst, later.shutdownDone⟩,
    { later with gateway := gateway, log := [] })

end HttpTunnel.Trial.Gateway
