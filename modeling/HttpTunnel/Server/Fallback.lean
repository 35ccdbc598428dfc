import HttpTunnel.Server.Response

/-!
Handlers for requests that are not tunnel traffic, so that the port looks like that of
an ordinary web server. The owner of the port may bring any handler.
-/

namespace HttpTunnel.Server

structure Fallback where
  handle : (method path : String) → Bytes → Response

namespace Fallback

/-- The response to a visitor, who by default asks for a page. -/
def respond (fallback : Fallback) (path : String) (method : String := "GET")
    (body : Bytes := []) : Response :=
  fallback.handle method path body

/-- Answers `/ping` and knows nothing else. -/
def pingPong : Fallback where
  handle _ path _ := if path = "/ping" then ⟨.ok, Bytes.ofText "pong"⟩ else ⟨.notFound, []⟩

def nothing : Fallback where
  handle _ _ _ := ⟨.notFound, []⟩

end Fallback

end HttpTunnel.Server
