import HttpTunnel.Failure
import HttpTunnel.SerialWindow

/-!
The writer of a local connection. It puts replies in order and writes their payloads to
the application. It goes on until no reply can come any more, also while the connection
is being cancelled; however it ends, it ends the stream and cancels the connection.
-/

namespace HttpTunnel.Client

namespace Delivery

inductive Phase where
  | receiving
  /-- Writing the rest of a payload; the payloads released with it come next. -/
  | writing (rest : Bytes) (released : List Bytes)
  | ended (failure : Option Failure)
  deriving DecidableEq, Repr

inductive Event where
  | reply (serial : Nat) (payload : Bytes)
  /-- No more replies will come. -/
  | exhausted
  | wrote (count : Nat)
  | failed (cause : IoFault)
  deriving DecidableEq, Repr

inductive Deed where
  | write (chunk : Bytes)
  | endStream
  | cancel
  deriving DecidableEq, Repr

end Delivery

structure Delivery where
  window : SerialWindow Bytes
  phase : Delivery.Phase := .receiving
  total : Nat := 0
  deriving DecidableEq, Repr

namespace Delivery

/-- A writer that lets so many replies wait for a missing predecessor. The width of its
window is a word, so that past the greatest one it is zero. -/
def ofBacklog (backlog : Nat) : Delivery :=
  { window := .ofWidth 1 (UInt64.ofNat backlog + 1).toNat }

/-- Goes on with released payloads; empty ones need no write. -/
def next (delivery : Delivery) : List Bytes → Delivery
  | [] => { delivery with phase := .receiving }
  | payload :: released =>
      if payload = [] then delivery.next released
      else { delivery with phase := .writing payload released }

def stop (delivery : Delivery) (failure : Option Failure) : Delivery × List Deed :=
  ({ delivery with phase := .ended failure }, [.endStream, .cancel])

def step (delivery : Delivery) : Event → Option (Delivery × List Deed)
  | .reply serial payload =>
      match delivery.phase with
      | .receiving =>
          match delivery.window.push serial payload with
          | .ok (released, window) => some ({ delivery with window := window }.next released, [])
          | .error (.duplicate got expected) | .error (.tooFarAhead got expected) =>
              some (delivery.stop (some (.replyGap expected got)))
      | _ => none
  | .exhausted =>
      match delivery.phase with
      | .receiving => some (delivery.stop none)
      | _ => none
  | .wrote count =>
      match delivery.phase with
      | .writing rest released =>
          if 0 < count ∧ count ≤ rest.length then
            let further := { delivery with total := delivery.total + count }
            let left := rest.drop count
            let after := if left = [] then further.next released
              else { further with phase := .writing left released }
            some (after, [.write (rest.take count)])
          else none
      | _ => none
  | .failed cause =>
      match delivery.phase with
      | .writing _ _ => some (delivery.stop (some (.localIo cause)))
      | _ => none

def hasEnded (delivery : Delivery) : Bool :=
  match delivery.phase with
  | .ended _ => true
  | _ => false

end Delivery

end HttpTunnel.Client
