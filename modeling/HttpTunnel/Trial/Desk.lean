import HttpTunnel.Client.Desk
import HttpTunnel.Timeline

/-!
A scripted run of the dispatcher: couriers send notices and leave for good, the
connection is cancelled.
-/

namespace HttpTunnel.Trial.Desk

open Client

inductive Deed where
  | notice (notice : Notice)
  | cancel
  /-- A courier leaves for good; it sends and hears nothing any more. -/
  | resign (courier : Courier)
  | rest

structure World where
  clock : Nat := 0
  desk : Client.Desk
  present : PerCourier Bool := ⟨true, true⟩
  cancelled : Bool := false

structure Sight where
  instant : Nat
  roster : Roster
  /-- Whether a courier that is there was signalled. -/
  told : PerCourier (Option Bool)
  finished : Bool
  cancelled : Bool

def ofPatience (patience : Nat) : World := { desk := { patience := patience } }

def attended (world : World) : Bool := world.present.alpha || world.present.beta

def timeline : Timeline World where
  clock := World.clock
  act world := do
    let event ← world.desk.nextEvent world.clock world.cancelled (attended world)
    let (desk, cancels) ← world.desk.step world.clock event
    some { world with desk := desk, cancelled := world.cancelled || cancels }
  alarms world := [world.desk.idleAt]
  moveTo instant world := { world with clock := instant }

def noticeSender : Notice → Courier
  | .departs courier _ => courier
  | .arrives courier _ _ => courier

def perform (world : World) : Deed → World
  | .notice notice =>
      if world.present.get (noticeSender notice) then
        { world with desk := world.desk.send notice }
      else world
  | .cancel => { world with cancelled := true }
  | .resign courier => { world with present := world.present.set courier false }
  | .rest => world

def told (world : World) (courier : Courier) : Option Bool :=
  if world.present.get courier then some (world.desk.dispatcher.signals.get courier) else none

def step (world : World) (deed : Deed) (span : Nat) : Sight × World :=
  let later := timeline.pass span (20 + 2 * world.desk.notices.length) (perform world deed)
  let dispatcher := later.desk.dispatcher
  let cleared := { dispatcher with signals := ⟨false, false⟩ }
  (⟨later.clock, dispatcher.published, ⟨told later .alpha, told later .beta⟩,
      !later.desk.running, later.cancelled⟩,
    { later with desk := { later.desk with dispatcher := cleared } })

end HttpTunnel.Trial.Desk
