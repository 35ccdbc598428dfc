/-!
Putting numbered items back in order. A window knows the serial it releases next and
keeps items that came before their predecessors, up to a fixed distance ahead. An item
that closes a gap is released together with the run that waited behind it.
-/

namespace HttpTunnel

/-- Items are kept in ascending order of their serials. -/
structure SerialWindow (Item : Type) where
  next : Nat
  ahead : Nat
  early : List (Nat × Item) := []
  deriving DecidableEq, Repr

namespace SerialWindow

variable {Item : Type}

inductive Refusal where
  | duplicate (serial next : Nat)
  | tooFarAhead (serial next : Nat)
  deriving DecidableEq, Repr

/-- A window of so many serials, of which the first may be released at once. It is
never narrower than one. -/
def ofWidth (first width : Nat) : SerialWindow Item := ⟨first, width - 1, []⟩

def backlog (window : SerialWindow Item) : Nat := window.early.length

def holds (window : SerialWindow Item) (serial : Nat) : Bool :=
  window.early.any fun entry => entry.1 == serial

def insert (serial : Nat) (item : Item) : List (Nat × Item) → List (Nat × Item)
  | [] => [(serial, item)]
  | entry :: rest =>
      if serial < entry.1 then (serial, item) :: entry :: rest
      else entry :: insert serial item rest

/-- The run of items that starts at `next`, the serial after it, and what stays. -/
def releaseRun (next : Nat) : List (Nat × Item) → List Item × Nat × List (Nat × Item)
  | [] => ([], next, [])
  | (serial, item) :: rest =>
      if serial = next then
        let (run, after, kept) := releaseRun (next + 1) rest
        (item :: run, after, kept)
      else ([], next, (serial, item) :: rest)

/-- Takes in an item and releases everything that is in order now. -/
def push (window : SerialWindow Item) (serial : Nat) (item : Item) :
    Except Refusal (List Item × SerialWindow Item) :=
  if serial < window.next ∨ window.holds serial then .error (.duplicate serial window.next)
  else if window.ahead < serial - window.next then .error (.tooFarAhead serial window.next)
  else
    let (run, next, kept) := releaseRun window.next (insert serial item window.early)
    .ok (run, { window with next := next, early := kept })

/-- Gives up the waiting items, in serial order. -/
def drain (window : SerialWindow Item) : List Item × SerialWindow Item :=
  (window.early.map Prod.snd, { window with early := [] })

end SerialWindow

end HttpTunnel
