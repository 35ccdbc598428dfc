import HttpTunnel.Client.Inlet
import HttpTunnel.Timeline

/-!
A scripted run of a local reader: the application writes and hangs up, somebody takes
from the queue, the connection is cancelled.
-/

namespace HttpTunnel.Trial.Intake

open Client (Inlet)

abbrev World := Inlet

abbrev Deed := Inlet.Deed

structure Sight where
  result : Inlet.Result
  finished : Bool
  cancelled : Bool

def ofCapacity (capacity readSize : Nat) : World := Inlet.ofCapacity capacity readSize

def timeline : Timeline World where
  act := Inlet.advance
  clock _ := 0
  alarms _ := []
  moveTo _ world := world

def step (world : World) (deed : Deed) : Sight × World :=
  let (result, acted) := world.perform deed
  let final := timeline.settle (20 + 4 * acted.socket.incoming.length) acted
  (⟨result, final.intake.hasEnded, final.cancelled⟩, final)

end HttpTunnel.Trial.Intake
