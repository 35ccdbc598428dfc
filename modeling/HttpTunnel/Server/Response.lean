import HttpTunnel.Frame
import HttpTunnel.Status

/-!
What the serving side sends back: any HTTP response, and the answers of a tunnel, which
carry downstream bytes under a serial or nothing.
-/

namespace HttpTunnel.Server

structure Response where
  status : Status
  body : Bytes := []
  deriving DecidableEq, Repr

inductive Answer where
  | heartbeat
  | data (serial : Nat) (payload : Bytes)
  deriving DecidableEq, Repr

namespace Answer

def reply : Answer → Reply
  | .heartbeat => Reply.heartbeat
  | .data serial payload => ⟨some (UInt64.ofNat serial), payload⟩

def response (answer : Answer) : Response := ⟨.ok, answer.reply.encode⟩

end Answer

end HttpTunnel.Server
