import HttpTunnel.Address.Endpoint
import HttpTunnel.Server.Routing

/-!
HTTP messages on a connection, as far as tunnels need them: one request and one response,
each with a head of lines and a body of announced length.
-/

namespace HttpTunnel.Message

structure Head where
  /-- The words of the first line. -/
  start : List String
  /-- Field names in small letters, and values. -/
  fields : List (String × String)
  deriving DecidableEq, Repr

/-- Splits off a head at the first empty line. -/
def splitHead? : Bytes → Option (Bytes × Bytes)
  | 13 :: 10 :: 13 :: 10 :: rest => some ([], rest)
  | [] => none
  | byte :: rest => (splitHead? rest).map fun (head, body) => (byte :: head, body)

def lowerAscii (text : String) : String := text.map Char.toLower

def trimBlanks (text : String) : String := text.trimAscii.toString

def fieldOf? (line : String) : Option (String × String) :=
  match line.splitOn ":" with
  | [] | [_] => none
  | name :: values => some (lowerAscii (trimBlanks name), trimBlanks (":".intercalate values))

def Head.parse? (bytes : Bytes) : Option Head :=
  match bytes.asciiText.splitOn "\r\n" with
  | [] => none
  | start :: lines =>
      let words := (start.splitOn " ").filter (· ≠ "")
      (lines.mapM fieldOf?).map fun fields => ⟨words, fields⟩

def Head.field? (head : Head) (name : String) : Option String := head.fields.lookup name

/-- The announced length of the body. A message that does not announce any has none. -/
def Head.bodyLength? (head : Head) : Option Nat :=
  match head.field? "content-length" with
  | none => some 0
  | some text => (Address.parseUnsigned (UInt64.size - 1) text.toList).toOption

def Head.request? (head : Head) : Option (String × String) :=
  match head.start with
  | [method, target, _] => some (method, Server.HttpRequest.pathOf target)
  | _ => none

def Head.status? (head : Head) : Option Status :=
  match head.start with
  | _ :: code :: _ =>
      ((Address.parseUnsigned 999 code.toList).toOption).map fun code => ⟨code⟩
  | _ => none

def render (start : String) (fields : List (String × String)) (body : Bytes) : Bytes :=
  let lines := fields ++ [("content-length", toString body.length), ("connection", "close")]
  let text := lines.foldl (fun text field => text ++ field.1 ++ ": " ++ field.2 ++ "\r\n")
    (start ++ "\r\n")
  Bytes.ofText (text ++ "\r\n") ++ body

def ofResponse (response : Server.Response) : Bytes :=
  render ("HTTP/1.1 " ++ toString response.status.code ++ " " ++
    response.status.reason?.getD "Unknown") [] response.body

def post (server : Address.Endpoint) (path : String) (body : Bytes) : Bytes :=
  render ("POST " ++ path ++ " HTTP/1.1") [("host", String.ofList server.text)] body

end HttpTunnel.Message
