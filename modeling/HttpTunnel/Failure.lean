import HttpTunnel.Address.Endpoint
import HttpTunnel.Status

/-!
What can go wrong at either end of a tunnel, with the wording of each failure and
the status that a failed request is answered with.
-/

namespace HttpTunnel

open Address (Endpoint SocketAddress)

inductive IoKind where
  | notFound
  | permissionDenied
  | connectionRefused
  | connectionReset
  | brokenPipe
  | timedOut
  | writeZero
  | unexpectedEnd
  | addressInUse
  | other
  deriving DecidableEq, Repr

namespace IoKind

def message : IoKind → String
  | .notFound => "entity not found"
  | .permissionDenied => "permission denied"
  | .connectionRefused => "connection refused"
  | .connectionReset => "connection reset"
  | .brokenPipe => "broken pipe"
  | .timedOut => "timed out"
  | .writeZero => "write zero"
  | .unexpectedEnd => "unexpected end of file"
  | .addressInUse => "address in use"
  | .other => "other error"

end IoKind

structure IoFault where
  kind : IoKind
  detail : Option String := none
  deriving DecidableEq, Repr

namespace IoFault

def message (fault : IoFault) : String := fault.detail.getD fault.kind.message

end IoFault

inductive Failure where
  | bind (address : SocketAddress) (cause : IoFault)
  | accept (cause : IoFault)
  | dial (destination : Endpoint) (cause : IoFault)
  | dialTimeout (destination : Endpoint)
  | invalidKey
  | serialMismatch (lastSeen got : Int)
  | tooManyParked (count : Nat)
  | downstreamIo (cause : IoFault)
  | downstreamClosed
  | roundTrip
  | unexpectedStatus (status : Status)
  | malformedReply (length : Nat)
  | replyGap (expected got : Nat)
  | localIo (cause : IoFault)
  deriving DecidableEq, Repr

namespace Failure

def message : Failure → String
  | .bind address _ => "failed to bind tcp socket to " ++ String.ofList address.text
  | .accept _ => "failed to accept tcp connection"
  | .dial destination _ => "failed to dial downstream " ++ String.ofList destination.text
  | .dialTimeout destination =>
      "dialing downstream " ++ String.ofList destination.text ++ " timed out"
  | .invalidKey => "invalid tunnel key"
  | .serialMismatch lastSeen got =>
      "request serial " ++ toString got ++ " cannot follow " ++ toString lastSeen
  | .tooManyParked count =>
      "waiter queue overflow (" ++ toString count ++ " parked requests)"
  | .downstreamIo _ => "downstream io failed"
  | .downstreamClosed => "downstream closed the connection"
  | .roundTrip => "round trip to reverse proxy failed"
  | .unexpectedStatus status => "reverse proxy returned " ++ status.text
  | .malformedReply length => "malformed reply of " ++ toString length ++ " bytes"
  | .replyGap expected got =>
      "reply serial " ++ toString got ++ " cannot follow " ++ toString expected
  | .localIo _ => "local io failed"

def cause? : Failure → Option IoFault
  | .bind _ cause | .accept cause | .dial _ cause | .downstreamIo cause | .localIo cause =>
      some cause
  | _ => none

/-- The message, followed by that of the cause if there is one. -/
def chain (failure : Failure) : String :=
  match failure.cause? with
  | none => failure.message
  | some cause => failure.message ++ ": " ++ cause.message

/-- The status of the answer to a request that failed in this way. -/
def status : Failure → Status
  | .dial _ _ | .dialTimeout _ => .internalServerError
  | .invalidKey => .badRequest
  | .unexpectedStatus status => status
  | _ => .badGateway

end Failure

end HttpTunnel
