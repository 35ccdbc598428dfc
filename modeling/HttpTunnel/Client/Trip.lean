import HttpTunnel.Failure
import HttpTunnel.Frame

/-!
What comes back from one HTTP round trip, and what a courier or the creation of a tunnel
makes of it.
-/

namespace HttpTunnel.Client

inductive Trip where
  | response (status : Status) (body : Bytes)
  /-- The connection broke before there was a whole response. -/
  | broken
  deriving DecidableEq, Repr

namespace Trip

/-- The reply in a response: a serial and a payload, or a heartbeat. -/
def reply : Trip → Except Failure (Option (Nat × Bytes))
  | .broken => .error .roundTrip
  | .response status body =>
      if status.isSuccess then
        match Reply.decode body with
        | .error length => .error (.malformedReply length)
        | .ok ⟨none, _⟩ => .ok none
        | .ok ⟨some serial, payload⟩ => .ok (some (serial.toNat, payload))
      else .error (.unexpectedStatus status)

/-- The key in the response to a request for a new tunnel. -/
def created : Trip → Except Failure Key
  | .broken => .error .roundTrip
  | .response status body =>
      if status = .ok then
        match Key.parse? body with
        | some key => .ok key
        | none => .error .invalidKey
      else .error (.unexpectedStatus status)

end Trip

end HttpTunnel.Client
