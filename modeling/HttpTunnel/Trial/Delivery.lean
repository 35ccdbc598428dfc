import HttpTunnel.Client.Delivery
import HttpTunnel.Socket
import HttpTunnel.Timeline

/-!
A scripted run of a local writer: replies come in any order and cease, the application
hangs up, the connection is cancelled.
-/

namespace HttpTunnel.Trial.Delivery

open Client

inductive Deed where
  | reply (serial : Nat) (payload : Bytes)
  | cease
  | cancel
  | close

inductive Result where
  | ok
  | sent
  | full
  | closed
  | gone

structure World where
  delivery : Client.Delivery
  replies : List (Nat × Bytes) := []
  ceased : Bool := false
  socket : Socket := {}
  cancelled : Bool := false

structure Sight where
  result : Result
  written : Bytes
  ended : Bool
  finished : Bool
  cancelled : Bool

def queueCapacity : Nat := 8

def ofBacklog (backlog : Nat) : World := { delivery := .ofBacklog backlog }

def nextEvent (world : World) : Option Client.Delivery.Event :=
  match world.delivery.phase with
  | .receiving =>
      match world.replies with
      | (serial, payload) :: _ => some (.reply serial payload)
      | [] => if world.ceased then some .exhausted else none
  | .writing rest _ =>
      if world.socket.peerGone then some (.failed ⟨.brokenPipe, none⟩)
      else if 0 < world.socket.accepts rest.length then
        some (.wrote (world.socket.accepts rest.length))
      else none
  | .ended _ => none

def apply (world : World) : Client.Delivery.Deed → World
  | .write chunk => { world with socket := world.socket.write chunk }
  | .endStream => { world with socket := world.socket.finish }
  | .cancel => { world with cancelled := true }

def advance (world : World) : Option World := do
  let event ← nextEvent world
  let (delivery, deeds) ← world.delivery.step event
  let replies := match event with
    | .reply _ _ => world.replies.tail
    | _ => world.replies
  some (deeds.foldl apply { world with delivery := delivery, replies := replies })

def timeline : Timeline World where
  act := advance
  clock _ := 0
  alarms _ := []
  moveTo _ world := world

def perform (world : World) : Deed → Result × World
  | .reply serial payload =>
      if world.ceased then (.gone, world)
      else if world.delivery.hasEnded then (.closed, world)
      else if world.replies.length < queueCapacity then
        (.sent, { world with replies := world.replies ++ [(serial, payload)] })
      else (.full, world)
  | .cease => (.ok, { world with ceased := true })
  | .cancel => (.ok, { world with cancelled := true })
  | .close => (.ok, { world with socket := world.socket.peerClose })

def step (world : World) (deed : Deed) : Sight × World :=
  let (result, acted) := perform world deed
  let waiting := acted.replies.length + acted.delivery.window.backlog
  let settled := timeline.settle (20 + 4 * waiting) acted
  let (written, socket) := settled.socket.peerTake
  let final := { settled with socket := socket }
  (⟨result, written, socket.peerSawEnd, final.delivery.hasEnded, final.cancelled⟩, final)

end HttpTunnel.Trial.Delivery
