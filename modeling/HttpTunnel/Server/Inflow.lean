import HttpTunnel.Bytes

/-!
The reader of a downstream connection. It reads in short attempts, looks for a stop
between them, and hands one chunk at a time over to a slot that holds a single chunk.
-/

namespace HttpTunnel.Server

namespace Inflow

inductive Phase where
  /-- In an attempt to read that began at an instant. -/
  | reading (since : Nat)
  /-- Holding a chunk that the slot has no room for yet. -/
  | handing (chunk : Bytes)
  | ended
  deriving DecidableEq, Repr

inductive Event where
  /-- The attempt passed without data. -/
  | elapsed
  | received (chunk : Bytes)
  | endOfStream
  | failed
  | handed
  /-- Nobody takes chunks any more. -/
  | refused
  /-- A stop was seen while a chunk was held. -/
  | halted
  deriving DecidableEq, Repr

end Inflow

structure Inflow where
  phase : Inflow.Phase
  total : Nat := 0
  deriving DecidableEq, Repr

namespace Inflow

def ofStart (now : Nat) : Inflow := ⟨.reading now, 0⟩

/-- Looks for a stop and begins the next attempt. -/
def attempt (now : Nat) (stopped : Bool) (inflow : Inflow) : Inflow :=
  { inflow with phase := if stopped then .ended else .reading now }

/-- One step of the reader, and the chunk that it forwards in it. -/
def step (now : Nat) (stopped : Bool) (inflow : Inflow) :
    Event → Option (Inflow × Option Bytes)
  | .elapsed =>
      match inflow.phase with
      | .reading _ => some (inflow.attempt now stopped, none)
      | _ => none
  | .received chunk =>
      match inflow.phase with
      | .reading _ =>
          if chunk = [] then none
          else some (⟨.handing chunk, inflow.total + chunk.length⟩, none)
      | _ => none
  | .endOfStream | .failed =>
      match inflow.phase with
      | .reading _ => some ({ inflow with phase := .ended }, none)
      | _ => none
  | .handed =>
      match inflow.phase with
      | .handing chunk => some (inflow.attempt now stopped, some chunk)
      | _ => none
  | .refused | .halted =>
      match inflow.phase with
      | .handing _ => some ({ inflow with phase := .ended }, none)
      | _ => none

def hasEnded (inflow : Inflow) : Bool := inflow.phase == .ended

end Inflow

end HttpTunnel.Server
