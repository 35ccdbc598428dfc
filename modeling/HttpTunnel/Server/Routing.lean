import HttpTunnel.Frame
import HttpTunnel.Server.Fallback

/-!
Which requests to the serving side are tunnel traffic. A request that does not arrive as a
whole is refused before anybody looks at it; of the others only posts to two paths
concern tunnels, and a post without a legitimate key is treated like any stray visitor.
-/

namespace HttpTunnel.Server

structure HttpRequest where
  method : String
  path : String
  body : Bytes
  /-- The body has arrived up to its announced length. -/
  complete : Bool := true
  deriving DecidableEq, Repr

inductive Route where
  | answer (response : Response)
  | create
  | packet (request : Request)
  deriving DecidableEq

namespace HttpRequest

/-- The path of a request target, without its query and its fragment. -/
def pathOf (target : String) : String :=
  let path := target.toList.takeWhile fun char => char != '?' && char != '#'
  if path.isEmpty then "/" else String.ofList path

/-- What a request gets that is no tunnel traffic. -/
def visit (fallback : Fallback) (request : HttpRequest) : Response :=
  fallback.respond request.path request.method request.body

/-- A post to the packet path. Without a legitimate key it is not tunnel traffic; with
one it has to carry a serial as well. -/
def routePacket (fallback : Fallback) (request : HttpRequest) : Route :=
  if request.body.length < Key.length then .answer ⟨.badRequest, []⟩
  else
    match Key.parse? request.body with
    | none => .answer (fallback.respond request.path "POST" request.body)
    | some _ =>
        match Request.parse? request.body with
        | none => .answer ⟨.badRequest, []⟩
        | some packet => .packet packet

/-- Decides what a request is about, from the request alone. -/
def route (largestBody : Nat) (fallback : Fallback) (request : HttpRequest) : Route :=
  if largestBody < request.body.length then .answer ⟨.payloadTooLarge, []⟩
  else if !request.complete then .answer ⟨.badRequest, []⟩
  else if request.method ≠ "POST" then .answer (request.visit fallback)
  else if request.path = createPath then .create
  else if request.path = packetPath then request.routePacket fallback
  else .answer (request.visit fallback)

end HttpRequest

end HttpTunnel.Server
