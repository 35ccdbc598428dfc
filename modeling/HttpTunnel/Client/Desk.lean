import HttpTunnel.Client.Dispatcher
import HttpTunnel.Client.Terms

/-!
The dispatcher at work: notices wait in a queue until it hears them, and it stops when
the connection is cancelled, when nobody can send notices any more, or when the
connection has been idle for too long, which it cancels then.
-/

namespace HttpTunnel.Client

structure Desk where
  patience : Nat
  dispatcher : Dispatcher := {}
  notices : List Notice := []
  running : Bool := true
  deriving DecidableEq, Repr

namespace Desk

inductive Event where
  | halted
  | notice
  | signal
  /-- Nobody can send notices any more, and none is left. -/
  | deserted
  | idle
  deriving DecidableEq, Repr

def idleAt (desk : Desk) : Nat := desk.dispatcher.idleAt desk.patience

def hasRoom (desk : Desk) : Bool := desk.notices.length < Terms.noticeCapacity

/-- Sends a notice. One that nobody hears any more is lost. -/
def send (desk : Desk) (notice : Notice) : Desk :=
  if desk.running then { desk with notices := desk.notices ++ [notice] } else desk

/-- One step, and whether it cancels the connection. Whoever has to leave is signalled
before the dispatcher turns to anything else. -/
def step (now : Nat) (desk : Desk) (event : Event) : Option (Desk × Bool) :=
  if desk.running ∧ (desk.dispatcher.leaver.isSome ↔ event = .signal) then
    match event with
    | .halted | .deserted => some ({ desk with running := false, notices := [] }, false)
    | .notice =>
        match desk.notices with
        | [] => none
        | notice :: rest =>
            some ({ desk with
              dispatcher := desk.dispatcher.announce now notice
              notices := rest }, false)
    | .signal => some ({ desk with dispatcher := desk.dispatcher.signal }, false)
    | .idle => if desk.idleAt ≤ now then some ({ desk with running := false }, true) else none
  else none

/-- What the dispatcher meets next: a signal that is due before a cancellation, that
before notices, and notices before the end of its patience. -/
def nextEvent (now : Nat) (cancelled attended : Bool) (desk : Desk) : Option Event :=
  if !desk.running then none
  else if desk.dispatcher.leaver.isSome then some .signal
  else if cancelled then some .halted
  else if desk.notices ≠ [] then some .notice
  else if !attended then some .deserted
  else if desk.idleAt ≤ now then some .idle
  else none

end Desk

end HttpTunnel.Client
