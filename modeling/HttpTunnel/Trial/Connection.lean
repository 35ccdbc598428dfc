import HttpTunnel.Client.Connection
import HttpTunnel.Socket
import HttpTunnel.Timeline

/-!
A scripted run of one local connection against a scripted server: the application
writes, reads and hangs up, and the script answers the requests of the couriers.
-/

namespace HttpTunnel.Trial.Connection

open Client

inductive Deed where
  | application (move : Socket.PeerMove)
  | reply (serial : Nat) (trip : Trip)
  | rest

/-- A request that waits for its answer, and the burst of acts in which it was posted. -/
structure Post where
  serial : Nat
  courier : Courier
  burst : Nat

inductive State where
  | failed (failure : Failure)
  | running (connection : Client.Connection)

structure World where
  clock : Nat := 0
  state : State
  socket : Socket := {}
  /-- Counts the scripted deeds and the moves of the clock. -/
  burst : Nat := 0
  waiting : List Post := []
  /-- Requests posted since the last look, the latest first, with their bursts. -/
  posted : List (Parcel × Nat) := []
  /-- Requests given up since the last look, the latest first. -/
  abandoned : List Nat := []

structure Sight where
  instant : Nat
  posts : List Parcel
  abandoned : List Nat
  received : Bytes
  ended : Bool
  outcome : Option (Option Failure)

def ofCreated (terms : Terms) (created : Trip) : World :=
  match created.created with
  | .ok _ => { state := .running (.ofStart terms 0) }
  | .error failure => { state := .failed failure, socket := { ended := true } }

/-- A request that is given up in the burst in which it was posted never shows. -/
def apply (world : World) : Client.Connection.Deed → World
  | .posted courier parcel =>
      { world with
        waiting := world.waiting ++ [⟨parcel.serial, courier, world.burst⟩]
        posted := (parcel, world.burst) :: world.posted }
  | .abandoned _ serial =>
      let sameBurst := world.waiting.any fun post =>
        post.serial == serial && post.burst == world.burst
      let waiting := world.waiting.filter fun post => post.serial != serial
      if sameBurst then
        { world with
          waiting := waiting
          posted := world.posted.filter fun entry => entry.1.serial != serial }
      else { world with waiting := waiting, abandoned := serial :: world.abandoned }
  | .queued _ | .write _ | .endStream => world

def advance (world : World) : Option World :=
  match world.state with
  | .failed _ => none
  | .running connection => do
      let action ← connection.next? world.clock world.socket
      let (after, socket, deeds) ← connection.move world.clock world.socket action
      some (deeds.foldl apply { world with state := .running after, socket := socket })

def alarms (world : World) : List Nat :=
  match world.state with
  | .failed _ => []
  | .running connection => connection.alarms

def timeline : Timeline World where
  act := advance
  clock := World.clock
  alarms := alarms
  moveTo instant world := { world with clock := instant, burst := world.burst + 1 }

def answer (world : World) (serial : Nat) (trip : Trip) : World :=
  match world.state, world.waiting.find? fun post => post.serial == serial with
  | .running connection, some post =>
      let waiting := world.waiting.filter fun other => other.serial != serial
      match connection.step world.clock (.answer post.courier trip) with
      | some (after, deeds) =>
          deeds.foldl apply { world with waiting := waiting, state := .running after }
      | none => world
  | _, _ => world

def perform (world : World) : Deed → World
  | .application move => { world with socket := world.socket.follow move }
  | .reply serial trip => answer world serial trip
  | .rest => world

def outcome? (world : World) : Option (Option Failure) :=
  match world.state with
  | .failed failure => some (some failure)
  | .running connection => if connection.hasEnded then some none else none

/-- Enough for the chunks and replies that are under way. -/
def budget (world : World) (span : Nat) : Nat :=
  match world.state with
  | .failed _ => 10
  | .running connection =>
      200 + 4 * (world.socket.incoming.length + connection.replies.length +
        connection.delivery.window.backlog + span)

def look (world : World) : Sight × World :=
  let (received, socket) := world.socket.peerTake
  let posts := (world.posted.map Prod.fst).mergeSort fun first second =>
    first.serial ≤ second.serial
  let abandoned := world.abandoned.mergeSort fun first second => first ≤ second
  (⟨world.clock, posts, abandoned, received, socket.peerSawEnd, outcome? world⟩,
    { world with socket := socket, posted := [], abandoned := [] })

def start (world : World) : Sight × World :=
  look (timeline.pass 0 (budget world 0) world)

def step (world : World) (deed : Deed) (span : Nat) : Sight × World :=
  let acted := perform { world with burst := world.burst + 1 } deed
  look (timeline.pass span (budget acted span) acted)

end HttpTunnel.Trial.Connection
