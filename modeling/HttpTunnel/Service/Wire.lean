import HttpTunnel.Client.Trip
import HttpTunnel.Message
import HttpTunnel.Socket
import Std.Async.DNS
import Std.Async.TCP
import Std.Async.Timer
import Std.Sync.Channel

/-!
Real TCP connections under the sockets of the library. What a peer does is reported as a
move of the socket's peer; what the socket has to send goes out while the socket counts its
peer as one that does not read.
-/

namespace HttpTunnel.Service

open Std.Async (Async background)

abbrev Peer := Std.Async.TCP.Socket.Client

instance : Inhabited Failure := ⟨.roundTrip⟩

def readSize : Nat := 4096

def ofArray (content : ByteArray) : Bytes := content.toList

def toArray (bytes : Bytes) : ByteArray := ⟨bytes.toArray⟩

def pause (milliseconds : Nat) : Async Unit :=
  Std.Async.sleep (Std.Time.Millisecond.Offset.ofNat milliseconds)

def toNet (address : Address.SocketAddress) : Std.Net.SocketAddress :=
  match address.ip with
  | .v4 ip =>
      .v4 ⟨.ofParts ip.first ip.second ip.third ip.fourth, address.port⟩
  | .v6 ip => .v6 ⟨⟨ip.groups⟩, address.port⟩

def ofNet : Std.Net.SocketAddress → Address.SocketAddress
  | .v4 ⟨⟨octets⟩, port⟩ => ⟨.v4 ⟨octets[0], octets[1], octets[2], octets[3]⟩, port, 0⟩
  | .v6 ⟨⟨segments⟩, port⟩ => ⟨.v6 ⟨segments⟩, port, 0⟩

/-- The addresses of an endpoint. A name is looked up. -/
def resolve (endpoint : Address.Endpoint) : Async (List Std.Net.SocketAddress) := do
  match endpoint.socket? with
  | some address => return [toNet address]
  | none =>
      let found ← Std.Async.DNS.getAddrInfo (String.ofList endpoint.host) ""
      return found.toList.map fun
        | .v4 ip => .v4 ⟨ip, endpoint.port⟩
        | .v6 ip => .v6 ⟨ip, endpoint.port⟩

def dialFirst : List Std.Net.SocketAddress → Async Peer
  | [] => throw (IO.userError "no address")
  | address :: rest => do
      let peer ← Std.Async.TCP.Socket.Client.mk
      try
        peer.connect address
        return peer
      catch fault => if rest.isEmpty then throw fault else dialFirst rest

/-- Connects to an endpoint. There is no result in time if it takes too long. -/
def dial (endpoint : Address.Endpoint) (within : Nat) : Async (Except Failure Peer) := do
  let outcome ← IO.Promise.new
  background do
    try
      let peer ← dialFirst (← resolve endpoint)
      outcome.resolve (.ok peer)
    catch fault =>
      outcome.resolve (.error (.dial endpoint ⟨.other, some (toString fault)⟩))
  background do
    pause within
    outcome.resolve (.error (.dialTimeout endpoint))
  Std.Async.await outcome

structure Wire where
  peer : Peer
  /-- Tells the reader to go on. -/
  wanted : Std.Channel Unit
  /-- The reader waits to be told. -/
  resting : Bool := false
  ended : Bool := false

/-- Reports what a peer sends, one chunk at a time, and how it ends. -/
partial def listen (wire : Wire) (report : Socket.PeerMove → IO Unit) : Async Unit := do
  let move ← try
      match ← wire.peer.recv? readSize.toUInt64 with
      | none => pure Socket.PeerMove.finish
      | some content => pure (.send (ofArray content))
    catch _ => pure .close
  report move
  match move with
  | .send _ =>
      Std.Async.await (← wire.wanted.recv)
      listen wire report
  | _ => return

def open_ (peer : Peer) (report : Socket.PeerMove → IO Unit) : Async Wire := do
  let wire : Wire := { peer := peer, wanted := ← Std.Channel.new }
  background (listen wire report)
  return wire

/-- Sends what a socket has for its peer, reports when that has gone out, and lets the
reader go on once everything is read. -/
def tend (wire : Wire) (socket : Socket) (report : Socket.PeerMove → IO Unit) :
    Async (Wire × Socket) := do
  let mut wire := wire
  let mut socket := socket
  if wire.resting && socket.incoming.isEmpty then
    discard <| wire.wanted.send ()
    wire := { wire with resting := false }
  let (bytes, taken) := socket.peerTake
  socket := taken
  if !bytes.isEmpty then
    socket := socket.pause
    let peer := wire.peer
    background do
      let sent ← try
          peer.send (toArray bytes)
          pure true
        catch _ => pure false
      report (if sent then .resume else .close)
  else if socket.peerSawEnd && !wire.ended then
    wire := { wire with ended := true }
    let peer := wire.peer
    background do
      try peer.shutdown catch _ => pure ()
  return (wire, socket)

/-- A wire after its peer made a move. -/
def Wire.after (wire : Wire) : Socket.PeerMove → Wire
  | .send _ => { wire with resting := true }
  | _ => wire

/-- Receives up to the end of a message. Gives its head and as much of its body as came, and
whether that is all of it; the body is cut off behind a limit. -/
partial def receiveMessage (peer : Peer) (largest : Nat) :
    Async (Option (Message.Head × Bytes × Bool)) := do
  let rec head (content : ByteArray) : Async (Option (Message.Head × ByteArray)) := do
    match Message.splitHead? (ofArray content) with
    | some (head, body) =>
        return (Message.Head.parse? head).map fun head => (head, toArray body)
    | none =>
        if 65536 < content.size then return none
        match ← peer.recv? readSize.toUInt64 with
        | none => return none
        | some more => head (content ++ more)
  let rec rest (length : Nat) (content : ByteArray) : Async ByteArray := do
    if length ≤ content.size ∨ largest < content.size then return content
    match ← peer.recv? readSize.toUInt64 with
    | none => return content
    | some more => rest length (content ++ more)
  match ← head .empty with
  | none => return none
  | some (head, start) =>
      match head.bodyLength? with
      | none => return none
      | some length =>
          let content ← rest length start
          return some (head, (ofArray content).take length, decide (length ≤ content.size))

/-- One round trip with the server at an endpoint, on a connection of its own, which is
made known as soon as there is one. -/
def roundTrip (server : Address.Endpoint) (path : String) (body : Bytes) (dialFor : Nat)
    (connected : Peer → IO Unit) : Async Client.Trip := do
  match ← dial server dialFor with
  | .error _ => return .broken
  | .ok peer =>
      connected peer
      try
        peer.send (toArray (Message.post server path body))
        match ← receiveMessage peer UInt32.size with
        | some (head, body, true) =>
            return (head.status?.map fun status => Client.Trip.response status body).getD .broken
        | _ => return .broken
      catch _ => return .broken

def listenAt (address : Address.SocketAddress) :
    IO (Except Failure Std.Async.TCP.Socket.Server) := do
  try
    let server ← Std.Async.TCP.Socket.Server.mk
    server.bind (toNet address)
    server.listen 1024
    return .ok server
  catch fault => return .error (.bind address ⟨.other, some (toString fault)⟩)

end HttpTunnel.Service
