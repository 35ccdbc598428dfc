import HttpTunnel.Server.Registry
import HttpTunnel.Server.Routing
import HttpTunnel.Server.Tunnel

/-!
The serving side as a whole: the register of tunnels, the tunnels themselves, and the
requests that are under way. It moves by actions of its clients, of its owner, of the
network and of its tunnels, in any order that they allow.
-/

namespace HttpTunnel.Server

namespace Gateway

/-- Who asks for a tunnel: the owner of the gateway, or a client by a request. -/
inductive Caller where
  | owner
  | client (number : Nat)
  deriving DecidableEq, Repr

inductive Action where
  | ask (client : Nat) (request : HttpRequest)
  | create
  /-- Dialing downstream for a caller came to an end; a success brings a fresh key. -/
  | dialed (caller : Caller) (outcome : Except Failure Key)
  | hangUp (client : Nat)
  | close (key : Key)
  | shutDown
  | tunnel (number : Nat) (action : Tunnel.Action)
  | downstream (number : Nat) (move : Socket.PeerMove)
  /-- A tunnel is done with and leaves the register. -/
  | retire (number : Nat)

inductive Deed where
  | responded (client : Nat) (response : Response)
  | created (outcome : Except Failure Nat)
  | closed (found : Bool)

structure Hosted where
  key : Key
  tunnel : Tunnel
  retired : Bool := false
  deriving DecidableEq, Repr

end Gateway

structure Gateway where
  destination : Address.Endpoint
  terms : Terms := {}
  fallback : Fallback := .pingPong
  registry : Registry := {}
  /-- Every tunnel ever created. The number of a tunnel is its place. -/
  hosted : List Gateway.Hosted := []
  /-- Those for whom downstream is being dialed. -/
  dialing : List Gateway.Caller := []
  /-- Clients that wait for the answer of a tunnel, with the number of the tunnel. -/
  inFlight : List (Nat × Nat) := []
  hasShutDown : Bool := false

namespace Gateway

def tunnel? (gateway : Gateway) (number : Nat) : Option Tunnel :=
  gateway.hosted[number]?.map Hosted.tunnel

def modifyTunnel (gateway : Gateway) (number : Nat) (change : Tunnel → Tunnel) : Gateway :=
  { gateway with
    hosted := gateway.hosted.modify number fun hosted =>
      { hosted with tunnel := change hosted.tunnel } }

/-- The number of the tunnel that takes packets under a key. -/
def open? (gateway : Gateway) (key : Key) : Option Nat := do
  let number ← gateway.registry.find? key
  let tunnel ← gateway.tunnel? number
  if tunnel.closed then none else some number

def deliver (gateway : Gateway) (client : Nat) (request : Request) : Gateway × List Deed :=
  match gateway.open? request.key with
  | none => (gateway, [.responded client ⟨.notFound, []⟩])
  | some number =>
      ({ gateway with inFlight := gateway.inFlight ++ [(client, number)] }.modifyTunnel number
        (·.deliver ⟨client, request.serial.toInt, request.payload⟩), [])

def ask (gateway : Gateway) (client : Nat) (request : HttpRequest) : Gateway × List Deed :=
  match request.route gateway.terms.largestBody gateway.fallback with
  | .answer response => (gateway, [.responded client response])
  | .create => ({ gateway with dialing := gateway.dialing ++ [.client client] }, [])
  | .packet packet => gateway.deliver client packet

def host (now : Nat) (gateway : Gateway) (key : Key) : Gateway :=
  { gateway with
    registry := gateway.registry.insert key gateway.hosted.length
    hosted := gateway.hosted ++ [⟨key, .ofStart gateway.terms now, false⟩] }

def tell (number : Nat) : Caller → Except Failure Key → Deed
  | .owner, .ok _ => .created (.ok number)
  | .owner, .error failure => .created (.error failure)
  | .client client, .ok key => .responded client ⟨.ok, key.text⟩
  | .client client, .error failure => .responded client ⟨failure.status, []⟩

def dialed (now : Nat) (gateway : Gateway) (caller : Caller) (outcome : Except Failure Key) :
    Gateway × List Deed :=
  let settled := { gateway with dialing := gateway.dialing.erase caller }
  let hosting := match outcome with
    | .ok key => settled.host now key
    | .error _ => settled
  (hosting, [tell gateway.hosted.length caller outcome])

/-- A client goes away. A tunnel that was being dialed for it is not made. -/
def hangUp (gateway : Gateway) (client : Nat) : Option Gateway :=
  if gateway.dialing.contains (.client client) then
    some { gateway with dialing := gateway.dialing.erase (.client client) }
  else
    match gateway.inFlight.lookup client with
    | none => none
    | some number =>
        some ({ gateway with
          inFlight := gateway.inFlight.filter fun entry => entry.1 != client }.modifyTunnel
            number (·.hangUp client))

/-- Closes the tunnel of a key. The key is forgotten at once. -/
def close (gateway : Gateway) (key : Key) : Gateway × List Deed :=
  match gateway.registry.find? key with
  | none => (gateway, [.closed false])
  | some number =>
      ({ gateway with registry := gateway.registry.erase key }.modifyTunnel number (·.close),
        [.closed true])

def shutDown (gateway : Gateway) : Gateway :=
  gateway.registry.numbers.foldl (fun closing number => closing.modifyTunnel number (·.close))
    { gateway with registry := {}, hasShutDown := true }

/-- One step of a tunnel. Clients that it is done with get their answers, unless they have
gone. -/
def stepTunnel (now : Nat) (gateway : Gateway) (number : Nat) (action : Tunnel.Action) :
    Option (Gateway × List Deed) := do
  let tunnel ← gateway.tunnel? number
  let (after, deeds) ← tunnel.step now action
  let responses := (deeds.filterMap Tunnel.Deed.response?).filter fun entry =>
    gateway.inFlight.contains (entry.1, number)
  let waiting := gateway.inFlight.filter fun entry =>
    !(responses.any fun response => response.1 == entry.1)
  some ({ gateway with inFlight := waiting }.modifyTunnel number fun _ => after,
    responses.map fun entry => .responded entry.1 entry.2)

def canRetire (now : Nat) (hosted : Hosted) : Bool :=
  !hosted.retired && (hosted.tunnel.outcome? now).isSome

/-- Retires a tunnel that is done with. Its key is forgotten if it still leads there. -/
def retire (now : Nat) (gateway : Gateway) (number : Nat) : Option Gateway := do
  let hosted ← gateway.hosted[number]?
  if canRetire now hosted then
    some { gateway with
      registry := gateway.registry.release hosted.key number
      hosted := gateway.hosted.modify number fun hosted => { hosted with retired := true } }
  else none

def step (now : Nat) (gateway : Gateway) : Action → Option (Gateway × List Deed)
  | .ask client request => some (gateway.ask client request)
  | .create => some ({ gateway with dialing := gateway.dialing ++ [.owner] }, [])
  | .dialed caller outcome =>
      if gateway.dialing.contains caller then some (gateway.dialed now caller outcome) else none
  | .hangUp client => (gateway.hangUp client).map fun after => (after, [])
  | .close key => some (gateway.close key)
  | .shutDown => some (gateway.shutDown, [])
  | .tunnel number action => gateway.stepTunnel now number action
  | .downstream number move => some (gateway.modifyTunnel number (·.follow move), [])
  | .retire number => (gateway.retire now number).map fun after => (after, [])

def next? (now : Nat) (gateway : Gateway) : Option Action :=
  (List.range gateway.hosted.length).findSome? fun number => do
    let hosted ← gateway.hosted[number]?
    (hosted.tunnel.next? now).map (.tunnel number) <|>
      if canRetire now hosted then some (.retire number) else none

def alarms (gateway : Gateway) : List Nat :=
  gateway.hosted.flatMap fun hosted =>
    hosted.tunnel.alarms ++
      (hosted.tunnel.endedAt.map fun instant => instant + gateway.terms.grace).toList

def parked? (gateway : Gateway) (key : Key) : Option Nat := do
  let number ← gateway.registry.find? key
  let tunnel ← gateway.tunnel? number
  some tunnel.poller.published

def isIdle (gateway : Gateway) : Bool :=
  gateway.dialing.isEmpty && gateway.inFlight.isEmpty && gateway.hosted.all Hosted.retired

end Gateway

end HttpTunnel.Server
