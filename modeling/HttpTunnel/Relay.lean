import HttpTunnel.Client.Connection
import HttpTunnel.Server.Tunnel

/-!
A tunnel from end to end: a local connection, the tunnel that serves it, and the requests
and responses on the way between them. Each of these travels on its own, so that they
may overtake each other; each arrives once or never.
-/

namespace HttpTunnel

open Client (Connection Courier Parcel Trip)
open Server (Packet Response Tunnel)

structure Relay where
  connection : Connection
  tunnel : Tunnel
  /-- The local connection, with the application as the peer. -/
  application : Socket := {}
  /-- Requests on their way to the tunnel. -/
  outbound : List Parcel := []
  /-- Responses on their way back, each with the serial of its request. -/
  inbound : List (Nat × Trip) := []
  deriving DecidableEq, Repr

namespace Relay

inductive Action where
  | client (action : Connection.Action)
  | server (action : Tunnel.Action)
  | reach (parcel : Parcel)
  /-- A request comes when its key leads to no open tunnel any more. -/
  | turnAway (parcel : Parcel)
  | comeBack (serial : Nat) (trip : Trip)
  /-- The tunnel loses the client of a request: the client gave the request up, or the
  connection between them broke. -/
  | hangUp (serial : Nat)
  | loseRequest (parcel : Parcel)
  | loseResponse (serial : Nat) (trip : Trip)
  | breakTrip (courier : Courier)
  | close
  | application (move : Socket.PeerMove)
  | downstream (move : Socket.PeerMove)
  | applicationReads
  | downstreamReads
  deriving DecidableEq, Repr

/-- What passes the ends of the tunnel, and the requests between them. -/
inductive Deed where
  /-- The local reader queued a chunk for the couriers. -/
  | queued (chunk : Bytes)
  | posted (parcel : Parcel)
  /-- The poller handed a payload to the downstream writer. -/
  | passedDown (payload : Bytes)
  /-- The poller took a chunk that came from downstream. -/
  | received (chunk : Bytes)
  /-- The local writer wrote to the application. -/
  | wrote (chunk : Bytes)
  deriving DecidableEq, Repr

def Deed.ofClient? : Connection.Deed → Option Deed
  | .queued chunk => some (.queued chunk)
  | .posted _ parcel => some (.posted parcel)
  | .write chunk => some (.wrote chunk)
  | .abandoned _ _ | .endStream => none

def Deed.ofServer? : Tunnel.Deed → Option Deed
  | .poller (.passedDown payload) => some (.passedDown payload)
  | _ => none

def ofStart (clientTerms : Client.Terms) (serverTerms : Server.Terms) (now : Nat) : Relay :=
  { connection := .ofStart clientTerms now, tunnel := .ofStart serverTerms now }

def posts (deeds : List Connection.Deed) : List Parcel :=
  deeds.filterMap fun
    | .posted _ parcel => some parcel
    | _ => none

def tripOf (response : Response) : Trip := .response response.status response.body

/-- The packet that a request becomes. Its serial, which goes through the frame, also names the
client to the tunnel. -/
def packetOf (parcel : Parcel) : Packet :=
  ⟨parcel.serial, carriedSerial parcel.serial, parcel.payload⟩

/-- The response to a request whose key leads nowhere. -/
def unknown : Response := ⟨.notFound, []⟩

/-- Whether an action of the connection comes about within it. What comes back to a courier
comes from the network. -/
def ownAction : Connection.Action → Bool
  | .answer _ _ => false
  | _ => true

def stepClient (now : Nat) (relay : Relay) (action : Connection.Action) :
    Option (Relay × List Deed) :=
  if ownAction action then
    (relay.connection.move now relay.application action).map fun (connection, socket, deeds) =>
      ({ relay with
          connection := connection
          application := socket
          outbound := relay.outbound ++ posts deeds }, deeds.filterMap Deed.ofClient?)
  else none

/-- The chunk that an action takes from downstream. -/
def taken : Tunnel.Action → List Deed
  | .poller (.chunk chunk) => [.received chunk]
  | _ => []

def stepServer (now : Nat) (relay : Relay) (action : Tunnel.Action) :
    Option (Relay × List Deed) :=
  (relay.tunnel.step now action).map fun (tunnel, deeds) =>
    let responses := deeds.filterMap Tunnel.Deed.response?
    ({ relay with
        tunnel := tunnel
        inbound := relay.inbound ++ responses.map fun (client, response) =>
          (client, tripOf response) }, taken action ++ deeds.filterMap Deed.ofServer?)

def answer (now : Nat) (relay : Relay) (courier : Courier) (trip : Trip) :
    Option (Relay × List Deed) :=
  (relay.connection.step now (.answer courier trip)).map fun (connection, deeds) =>
    ({ relay with connection := connection, outbound := relay.outbound ++ posts deeds },
      deeds.filterMap Deed.ofClient?)

/-- One action at an instant. There is none if the part it belongs to cannot do it. -/
def step (now : Nat) (relay : Relay) : Action → Option (Relay × List Deed)
  | .client action => relay.stepClient now action
  | .server action => relay.stepServer now action
  | .reach parcel =>
      if relay.outbound.contains parcel then
        some ({ relay with
          outbound := relay.outbound.erase parcel
          tunnel := relay.tunnel.deliver (packetOf parcel) }, [])
      else none
  | .turnAway parcel =>
      if relay.tunnel.closed ∧ relay.outbound.contains parcel then
        some ({ relay with
          outbound := relay.outbound.erase parcel
          inbound := relay.inbound ++ [(parcel.serial, tripOf unknown)] }, [])
      else none
  | .comeBack serial trip =>
      if relay.inbound.contains (serial, trip) then do
        let courier ← relay.connection.waitingFor? serial
        answer now { relay with inbound := relay.inbound.erase (serial, trip) } courier trip
      else none
  | .hangUp serial => some ({ relay with tunnel := relay.tunnel.hangUp serial }, [])
  | .loseRequest parcel =>
      if relay.outbound.contains parcel then
        some ({ relay with outbound := relay.outbound.erase parcel }, [])
      else none
  | .loseResponse serial trip =>
      if relay.inbound.contains (serial, trip) then
        some ({ relay with inbound := relay.inbound.erase (serial, trip) }, [])
      else none
  | .breakTrip courier => relay.answer now courier .broken
  | .close => some ({ relay with tunnel := relay.tunnel.close }, [])
  | .application move => some ({ relay with application := relay.application.follow move }, [])
  | .downstream move => some ({ relay with tunnel := relay.tunnel.follow move }, [])
  | .applicationReads => some ({ relay with application := relay.application.peerTake.2 }, [])
  | .downstreamReads =>
      some ({ relay with
        tunnel := { relay.tunnel with socket := relay.tunnel.socket.peerTake.2 } }, [])

/-- The action that comes next at an instant if requests and responses take no time. -/
def next? (now : Nat) (relay : Relay) : Option Action :=
  (relay.connection.next? now relay.application).map .client <|>
    relay.outbound.head?.map .reach <|>
    (relay.tunnel.next? now).map .server <|>
    relay.inbound.head?.map fun (serial, trip) =>
      if (relay.connection.waitingFor? serial).isSome then .comeBack serial trip
      else .loseResponse serial trip

def alarms (relay : Relay) : List Nat := relay.connection.alarms ++ relay.tunnel.alarms

end Relay

end HttpTunnel
