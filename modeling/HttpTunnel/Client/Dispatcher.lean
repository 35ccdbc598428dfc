import HttpTunnel.Client.Roster

/-!
The dispatcher of a connection. It hears of every departure and return, publishes who
is home, signals the courier that has to leave, and gives the connection up when no
payload has moved for a while.
-/

namespace HttpTunnel.Client

/-- News from a courier, with payload lengths in bytes and the round trip in nanoseconds. -/
inductive Notice where
  | departs (courier : Courier) (sent : Nat)
  | arrives (courier : Courier) (received roundTrip : Nat)
  deriving DecidableEq, Repr

/-- The published roster is what the couriers see. Each signal is held until its courier
takes it, and at most one is held for each. -/
structure Dispatcher where
  roster : Roster := {}
  published : Roster := {}
  /-- Who has to leave and has not been signalled yet. -/
  leaver : Option Courier := none
  signals : PerCourier Bool := ⟨false, false⟩
  lastUse : Nat := 0
  smoothedTrip : Option Nat := none
  deriving DecidableEq, Repr

namespace Dispatcher

/-- Smooths round trips: the new one has a weight of one eighth. -/
def smooth (previous : Option Nat) (trip : Nat) : Nat :=
  match previous with
  | none => trip
  | some average => (average * 7 + trip) / 8

/-- Takes a notice in and publishes the roster. Whoever has to leave is signalled after
that, so the signalled courier sees it; the couriers may act between the two. -/
def announce (now : Nat) (dispatcher : Dispatcher) : Notice → Dispatcher
  | .departs courier sent =>
      let roster := dispatcher.roster.depart courier
      { dispatcher with
        roster := roster
        published := roster
        lastUse := if 0 < sent then now else dispatcher.lastUse }
  | .arrives courier received trip =>
      let (leaver, roster) := dispatcher.roster.arrive courier
      { roster := roster
        published := roster
        leaver := leaver
        signals := dispatcher.signals
        lastUse := if 0 < received then now else dispatcher.lastUse
        smoothedTrip := some (smooth dispatcher.smoothedTrip trip) }

def signal (dispatcher : Dispatcher) : Dispatcher :=
  match dispatcher.leaver with
  | none => dispatcher
  | some courier =>
      { dispatcher with leaver := none, signals := dispatcher.signals.set courier true }

/-- All that a notice leads to if nobody acts in between. -/
def hear (now : Nat) (dispatcher : Dispatcher) (notice : Notice) : Dispatcher :=
  (dispatcher.announce now notice).signal

def takeSignal (dispatcher : Dispatcher) (courier : Courier) : Bool × Dispatcher :=
  (dispatcher.signals.get courier,
    { dispatcher with signals := dispatcher.signals.set courier false })

def idleAt (dispatcher : Dispatcher) (patience : Nat) : Nat := dispatcher.lastUse + patience

end Dispatcher

end HttpTunnel.Client
