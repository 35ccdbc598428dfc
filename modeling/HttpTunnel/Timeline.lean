/-!
Running a world in virtual time. At one instant a world acts until nothing is left to
do; then the clock moves to the next alarm, or to the end of the span.
-/

namespace HttpTunnel

structure Timeline (World : Type) where
  /-- One thing that happens at the present instant, if there is any. -/
  act : World → Option World
  clock : World → Nat
  /-- The instants at which something comes due. -/
  alarms : World → List Nat
  moveTo : Nat → World → World

namespace Timeline

variable {World : Type}

/-- Acts until nothing is left to do at the present instant, within a budget. -/
def settle (timeline : Timeline World) : (budget : Nat) → World → World
  | 0, world => world
  | budget + 1, world =>
      match timeline.act world with
      | none => world
      | some next => timeline.settle budget next

def nextAlarm (timeline : Timeline World) (world : World) : Option Nat :=
  ((timeline.alarms world).filter fun due => decide (timeline.clock world < due)).min?

/-- Runs up to an instant, what comes due at that instant included. The budget bounds
the number of acts and of moves of the clock. -/
def runUntil (timeline : Timeline World) (instant : Nat) : (budget : Nat) → World → World
  | 0, world => timeline.moveTo instant world
  | budget + 1, world =>
      match timeline.act world with
      | some next => timeline.runUntil instant budget next
      | none =>
          match timeline.nextAlarm world with
          | none => timeline.moveTo instant world
          | some due =>
              if due ≤ instant then
                timeline.runUntil instant budget (timeline.moveTo due world)
              else timeline.moveTo instant world

def pass (timeline : Timeline World) (span budget : Nat) (world : World) : World :=
  timeline.runUntil (timeline.clock world + span) budget world

/-- Runs as long as a world has to wait for something, and can expect anything. -/
def runWhile (timeline : Timeline World) (waiting : World → Bool) :
    (budget : Nat) → World → World
  | 0, world => world
  | budget + 1, world =>
      if waiting world then
        match timeline.act world, timeline.nextAlarm world with
        | some next, _ => timeline.runWhile waiting budget next
        | none, some due => timeline.runWhile waiting budget (timeline.moveTo due world)
        | none, none => world
      else world

end Timeline

end HttpTunnel
