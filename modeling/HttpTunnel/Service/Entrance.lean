import HttpTunnel.Client.Connection
import HttpTunnel.Service.Wire
import Std.Async.Select

/-!
The connecting side on real connections. Each local connection gets a tunnel and a loop
of its own, which feeds the connection with news and posts its requests.
-/

namespace HttpTunnel.Service.Entrance

open Client (Connection Terms Trip)
open Std.Async (Async background)

inductive News where
  | moved (move : Socket.PeerMove)
  | posting (serial : Nat) (peer : Peer)
  | back (serial : Nat) (trip : Trip)

instance : Inhabited News := ⟨.moved .finish⟩

structure State where
  server : Address.Endpoint
  key : Key
  connection : Connection
  socket : Socket := {}
  wire : Wire
  /-- The connections of the requests under way. -/
  posts : List (Nat × Peer) := []

def tell (news : Std.Channel News) (item : News) : IO Unit := do discard <| news.send item

/-- Posts the requests that the connection has made, and hangs up on those that it has
given up. -/
def carryOut (news : Std.Channel News) (state : State) : Connection.Deed → Async Unit
  | .posted _ parcel =>
      background do
        let body := Request.encode state.key (UInt64.ofNat parcel.serial) parcel.payload
        let trip ← roundTrip state.server packetPath body state.connection.terms.dialFor
          fun peer => tell news (.posting parcel.serial peer)
        tell news (.back parcel.serial trip)
  | .abandoned _ serial => do
      if let some peer := state.posts.lookup serial then background peer.shutdown
  | _ => return

partial def settle (news : Std.Channel News) (state : State) : Async State := do
  let now ← IO.monoMsNow
  let moved := do
    let action ← state.connection.next? now state.socket
    state.connection.move now state.socket action
  match moved with
  | none => return state
  | some (connection, socket, deeds) =>
      let after := { state with connection := connection, socket := socket }
      for deed in deeds do carryOut news after deed
      settle news after

/-- A response for a request that was given up goes nowhere. -/
def hear (news : Std.Channel News) (state : State) : News → Async State
  | .moved move =>
      return { state with socket := state.socket.follow move, wire := state.wire.after move }
  | .posting serial peer => return { state with posts := (serial, peer) :: state.posts }
  | .back serial trip => do
      let state := { state with posts := state.posts.filter fun entry => entry.1 != serial }
      let now ← IO.monoMsNow
      let answered := do
        let courier ← state.connection.waitingFor? serial
        state.connection.step now (.answer courier trip)
      match answered with
      | none => return state
      | some (connection, deeds) =>
          let after := { state with connection := connection }
          for deed in deeds do carryOut news after deed
          return after

/-- Waits for news, up to the next instant at which something comes due. -/
def await (news : Std.Channel News) (state : State) : Async (Option News) := do
  let now ← IO.monoMsNow
  let alarms := state.connection.alarms.filter fun due => decide (now < due)
  let span := (alarms.min?.getD (now + 1000)) - now
  let timer ← Std.Async.Selector.sleep (Std.Time.Millisecond.Offset.ofNat span)
  Std.Async.Selectable.one #[
    .case news.recvSelector fun item => return some item,
    .case timer fun _ => return none]

def isOver (state : State) : Bool :=
  state.connection.hasEnded && (state.wire.ended || state.socket.peerGone)

partial def run (news : Std.Channel News) (state : State) : Async Unit := do
  let state ← settle news state
  let (wire, socket) ← tend state.wire state.socket fun move => tell news (.moved move)
  let state := { state with wire := wire, socket := socket }
  if isOver state then return
  match ← await news state with
  | none => run news state
  | some item => run news (← hear news state item)

/-- Forwards one local connection. Without a tunnel it is closed at once. -/
def forward (server : Address.Endpoint) (terms : Terms) (peer : Peer) : Async Unit := do
  let trip ← roundTrip server createPath createMarker terms.dialFor fun _ => return
  match trip.created with
  | .error failure =>
      IO.eprintln failure.message
      peer.shutdown
  | .ok key =>
      let news ← Std.Channel.new
      let wire ← open_ peer fun move => tell news (.moved move)
      run news
        { server := server
          key := key
          connection := .ofStart terms (← IO.monoMsNow)
          wire := wire }

partial def acceptFrom (listener : Std.Async.TCP.Socket.Server) (server : Address.Endpoint)
    (terms : Terms) : Async Unit := do
  let peer ← listener.accept
  background (forward server terms peer)
  acceptFrom listener server terms

end HttpTunnel.Service.Entrance
