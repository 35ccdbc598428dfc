import HttpTunnel.Frame

/-!
A request on its way to a tunnel, together with the slot on which its client waits for
the reply. A request that is given up completes its client without a reply; a reply for
a client that has gone comes back.
-/

namespace HttpTunnel

structure Exchange where
  request : Request
  /-- The request can still be replied to. -/
  outstanding : Bool := true
  listening : Bool := true
  reply : Option Reply := none
  deriving DecidableEq

namespace Exchange

inductive Posted where
  | sent
  | returned (reply : Reply)

inductive Received where
  | noListener
  | reply (reply : Reply)
  | empty
  | closed

def respond (exchange : Exchange) (reply : Reply) : Posted × Exchange :=
  if exchange.listening then
    (.sent, { exchange with outstanding := false, reply := some reply })
  else (.returned reply, { exchange with outstanding := false })

def abandon (exchange : Exchange) : Exchange := { exchange with outstanding := false }

def hangUp (exchange : Exchange) : Exchange :=
  { exchange with listening := false, reply := none }

/-- Looks for the reply; it can be taken once. -/
def receive (exchange : Exchange) : Received × Exchange :=
  if !exchange.listening then (.noListener, exchange)
  else
    match exchange.reply with
    | some reply => (.reply reply, { exchange with reply := none })
    | none => (if exchange.outstanding then .empty else .closed, exchange)

def debugText (exchange : Exchange) : String :=
  "Packet \x7b key: " ++ exchange.request.key.debugText ++ ", request_serial: " ++
    toString exchange.request.serial.toInt ++ ", req_body: " ++
    toString exchange.request.payload.length ++ " bytes, .. \x7d"

end Exchange

end HttpTunnel
