import HttpTunnel.Bytes

/-!
The reader of a local connection. It queues what the application writes, one chunk at a
time, and does not read while it waits for room. The end of the input lets the
connection finish in peace; every other way to stop ends the whole connection.
-/

namespace HttpTunnel.Client

namespace Intake

inductive Phase where
  | reading
  /-- Holding a chunk that the queue has not taken yet. -/
  | queuing (chunk : Bytes)
  | ended
  deriving DecidableEq, Repr

inductive Event where
  | received (chunk : Bytes)
  | endOfInput
  | failed
  | queued
  /-- Nobody takes from the queue any more. -/
  | refused
  | halted
  deriving DecidableEq, Repr

inductive Deed where
  | enqueue (chunk : Bytes)
  | closeQueue
  | cancel
  deriving DecidableEq, Repr

end Intake

structure Intake where
  phase : Intake.Phase := .reading
  total : Nat := 0
  deriving DecidableEq, Repr

namespace Intake

def stop (intake : Intake) : Intake × List Deed :=
  ({ intake with phase := .ended }, [.closeQueue, .cancel])

def step (intake : Intake) : Event → Option (Intake × List Deed)
  | .received chunk =>
      match intake.phase with
      | .reading =>
          if chunk = [] then none
          else some (⟨.queuing chunk, intake.total + chunk.length⟩, [])
      | _ => none
  | .endOfInput =>
      match intake.phase with
      | .reading => some ({ intake with phase := .ended }, [.closeQueue])
      | _ => none
  | .failed =>
      match intake.phase with
      | .reading => some intake.stop
      | _ => none
  | .queued =>
      match intake.phase with
      | .queuing chunk => some ({ intake with phase := .reading }, [.enqueue chunk])
      | _ => none
  | .refused =>
      match intake.phase with
      | .queuing _ => some intake.stop
      | _ => none
  | .halted =>
      match intake.phase with
      | .ended => none
      | _ => some intake.stop

def hasEnded (intake : Intake) : Bool := intake.phase == .ended

/-- What the reader does in an event, by where it is. -/
inductive Goes (intake : Intake) : Event → Intake → List Deed → Prop where
  | receives (chunk : Bytes) (reading : intake.phase = .reading) (some : chunk ≠ []) :
      Goes intake (.received chunk) ⟨.queuing chunk, intake.total + chunk.length⟩ []
  | sees (reading : intake.phase = .reading) :
      Goes intake .endOfInput { intake with phase := .ended } [.closeQueue]
  | queues (chunk : Bytes) (queuing : intake.phase = .queuing chunk) :
      Goes intake .queued { intake with phase := .reading } [.enqueue chunk]
  | stops (event : Event) (reading : intake.phase = .reading)
      (cause : event = .failed ∨ event = .halted) : Goes intake event intake.stop.1 intake.stop.2
  /-- It is left with its chunk. -/
  | breaksOff (event : Event) (chunk : Bytes) (queuing : intake.phase = .queuing chunk)
      (cause : event = .refused ∨ event = .halted) :
      Goes intake event intake.stop.1 intake.stop.2

theorem step_goes (intake after : Intake) (event : Event) (deeds : List Deed)
    (stepped : intake.step event = some (after, deeds)) : Goes intake event after deeds := by
  cases phase : intake.phase with
  | reading =>
      cases event <;> simp only [step, phase] at stepped
      case received chunk =>
        split at stepped
        · cases stepped
        · rename_i some
          cases stepped
          exact .receives chunk phase some
      case endOfInput =>
        cases stepped
        exact .sees phase
      case failed =>
        cases stepped
        exact .stops .failed phase (.inl rfl)
      case halted =>
        cases stepped
        exact .stops .halted phase (.inr rfl)
      all_goals cases stepped
  | queuing chunk =>
      cases event <;> simp only [step, phase] at stepped
      case queued =>
        cases stepped
        exact .queues chunk phase
      case refused =>
        cases stepped
        exact .breaksOff .refused chunk phase (.inl rfl)
      case halted =>
        cases stepped
        exact .breaksOff .halted chunk phase (.inr rfl)
      all_goals cases stepped
  | ended => cases event <;> simp only [step, phase] at stepped <;> cases stepped

end Intake

end HttpTunnel.Client
