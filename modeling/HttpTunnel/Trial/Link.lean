import HttpTunnel.Server.Link
import HttpTunnel.Timeline

/-!
A scripted run of a downstream link: its owner queues and takes chunks, the downstream
server sends, reads and hangs up.
-/

namespace HttpTunnel.Trial.Link

open Server

inductive Deed where
  | send (chunk : Bytes)
  | take
  | down (move : Socket.PeerMove)
  | shutdown (grace : Nat)
  | rest

inductive Result where
  | ok
  | sent
  | full
  | closed
  | gone
  | empty
  | chunk (chunk : Bytes)

structure World where
  clock : Nat := 0
  link : Server.Link
  socket : Socket := {}
  /-- The instant up to which a shutdown waits. -/
  patience : Option Nat := none

structure Sight where
  result : Result
  down : Bytes
  downEnded : Bool
  stopped : Bool
  shutdownDone : Bool

def ofTerms (terms : Terms) : World := { link := .ofStart terms 0 }

def timeline : Timeline World where
  clock := World.clock
  act world :=
    (world.link.advance world.clock world.socket).map fun (link, socket) =>
      { world with link := link, socket := socket }
  alarms world := world.link.alarms
  moveTo instant world := { world with clock := instant }

def perform (world : World) : Deed → Result × World
  | .send chunk =>
      if world.link.owned then
        match world.link.feed chunk with
        | (.queued, link) => (.sent, { world with link := link })
        | (.full, _) => (.full, world)
        | (.refused, _) => (.closed, world)
      else (.gone, world)
  | .take =>
      if world.link.owned then
        match world.link.drain with
        | (.chunk chunk, link) => (.chunk chunk, { world with link := link })
        | (.nothing, _) => (.empty, world)
        | (.ended, _) => (.closed, world)
      else (.gone, world)
  | .down move => (.ok, { world with socket := world.socket.follow move })
  | .shutdown grace =>
      if world.link.owned then
        (.ok, { world with link := world.link.release, patience := some (world.clock + grace) })
      else (.ok, world)
  | .rest => (.ok, world)

def shutdownDone (world : World) : Bool :=
  match world.patience with
  | none => false
  | some instant => world.link.hasEnded || instant ≤ world.clock

/-- Enough for every chunk that is under way and every attempt in the span. -/
def budget (world : World) (span : Nat) : Nat :=
  100 + 4 * (world.socket.incoming.length + world.link.toDown.length + span)

def step (world : World) (deed : Deed) (span : Nat) : Sight × World :=
  let (result, acted) := perform world deed
  let later := timeline.pass span (budget acted span) acted
  let (down, socket) := later.socket.peerTake
  let final := { later with socket := socket }
  (⟨result, down, socket.peerSawEnd, final.link.stopped, shutdownDone final⟩, final)

end HttpTunnel.Trial.Link
