/-!
The two couriers of a connection and who of them is home. One is away with a request
whenever neither side has anything to say; of two at home the one that came back
first leaves again.
-/

namespace HttpTunnel.Client

inductive Courier where
  | alpha
  | beta
  deriving DecidableEq, Repr

namespace Courier

def other : Courier → Courier
  | .alpha => .beta
  | .beta => .alpha

def name : Courier → String
  | .alpha => "alpha"
  | .beta => "beta"

end Courier

structure PerCourier (Value : Type) where
  alpha : Value
  beta : Value
  deriving DecidableEq, Repr

namespace PerCourier

variable {Value : Type}

def get (values : PerCourier Value) : Courier → Value
  | .alpha => values.alpha
  | .beta => values.beta

def set (values : PerCourier Value) (courier : Courier) (value : Value) : PerCourier Value :=
  match courier with
  | .alpha => { values with alpha := value }
  | .beta => { values with beta := value }

end PerCourier

structure Roster where
  home : PerCourier Bool := ⟨true, true⟩
  lastBack : Option Courier := none
  deriving DecidableEq, Repr

namespace Roster

def isHome (roster : Roster) (courier : Courier) : Bool := roster.home.get courier

/-- Whether a courier may leave without payload: both are home, and it was not the
last to come back. -/
def mayLeave (roster : Roster) (courier : Courier) : Bool :=
  roster.home.alpha && roster.home.beta && roster.lastBack != some courier

/-- Whether a courier leaves without being told; only alpha ever does. -/
def leavesUntold (roster : Roster) (courier : Courier) : Bool :=
  courier == .alpha && roster.mayLeave courier

def depart (roster : Roster) (courier : Courier) : Roster :=
  { roster with home := roster.home.set courier false }

/-- Records a return, and names the courier that has to leave now. -/
def arrive (roster : Roster) (courier : Courier) : Option Courier × Roster :=
  let back : Roster := { home := roster.home.set courier true, lastBack := some courier }
  (if back.isHome courier.other then some courier.other else none, back)

end Roster

end HttpTunnel.Client
