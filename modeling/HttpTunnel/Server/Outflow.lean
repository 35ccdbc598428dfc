import HttpTunnel.Bytes

/-!
The writer of a downstream connection. It takes one chunk at a time and writes it in
short attempts, looking for a stop before each of them.
-/

namespace HttpTunnel.Server

namespace Outflow

inductive Phase where
  | waiting
  /-- In an attempt that began at an instant, with so much of a chunk left. -/
  | writing (rest : Bytes) (since : Nat)
  | ended
  deriving DecidableEq, Repr

inductive Event where
  | took (chunk : Bytes)
  | exhausted
  /-- A stop was seen while waiting for a chunk. -/
  | halted
  /-- The attempt passed without progress. -/
  | elapsed
  | wrote (count : Nat)
  /-- The attempt ended without room for a single byte. -/
  | wroteNothing
  | failed
  deriving DecidableEq, Repr

end Outflow

structure Outflow where
  phase : Outflow.Phase := .waiting
  total : Nat := 0
  deriving DecidableEq, Repr

namespace Outflow

/-- Goes on with the rest of a chunk, unless it is written or a stop is seen. -/
def attempt (now : Nat) (stopped : Bool) (rest : Bytes) (outflow : Outflow) : Outflow :=
  { outflow with
    phase := if rest = [] then .waiting else if stopped then .ended else .writing rest now }

/-- One step of the writer, and the bytes that it writes in it. -/
def step (now : Nat) (stopped : Bool) (outflow : Outflow) : Event → Option (Outflow × Bytes)
  | .took chunk =>
      match outflow.phase with
      | .waiting => some (outflow.attempt now stopped chunk, [])
      | _ => none
  | .exhausted | .halted =>
      match outflow.phase with
      | .waiting => some ({ outflow with phase := .ended }, [])
      | _ => none
  | .elapsed =>
      match outflow.phase with
      | .writing rest _ => some (outflow.attempt now stopped rest, [])
      | _ => none
  | .wrote count =>
      match outflow.phase with
      | .writing rest _ =>
          if 0 < count ∧ count ≤ rest.length then
            some (attempt now stopped (rest.drop count)
              { outflow with total := outflow.total + count }, rest.take count)
          else none
      | _ => none
  | .wroteNothing | .failed =>
      match outflow.phase with
      | .writing _ _ => some ({ outflow with phase := .ended }, [])
      | _ => none

def hasEnded (outflow : Outflow) : Bool := outflow.phase == .ended

end Outflow

end HttpTunnel.Server
