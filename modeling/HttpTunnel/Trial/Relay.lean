import HttpTunnel.Relay
import HttpTunnel.Timeline
import HttpTunnel.Trial.Network

/-!
A scripted run of whole tunnels. Applications connect one after the other, write and read,
and stay connected; each gets a tunnel to a downstream server of a simple kind. What the
applications read does not depend on timing, so requests take no time here.
-/

namespace HttpTunnel.Trial.Relay

inductive Downstream where
  /-- Greets, then sends back what it gets. -/
  | echo (greeting : Bytes)
  /-- Takes so many bytes, sends a response, and hangs up. -/
  | exchange (count : Nat) (response : Bytes)
  | closed

inductive Deed where
  | write (chunk : Bytes)
  | endInput
  | read (count : Nat)
  | readToEnd

inductive Reading where
  | bytes (chunk : Bytes)
  /-- The stream ended before there were so many bytes. -/
  | short

structure Line where
  /-- There is none if no tunnel could be made. -/
  relay : Option HttpTunnel.Relay
  received : Bytes := []
  ended : Bool := false
  served : Nat := 0

structure World where
  clock : Nat := 0
  downstream : Downstream
  lines : List Line := []

structure Report where
  readings : List (List Reading)
  /-- Tunnels that are open at the end. -/
  registered : Nat

/-- The timings of such runs: short polls, and little patience after the local end. -/
def serverTerms : Server.Terms := { pollFor := 150 }

def clientTerms : Client.Terms := { lingerFor := 250 }

def tunnelDone (clock : Nat) (relay : HttpTunnel.Relay) : Bool :=
  (relay.tunnel.outcome? clock).isSome

/-- What the downstream server does once it has taken bytes and seen an end or not. -/
def moves (downstream : Downstream) (before after : Nat) (chunk : Bytes) (sawEnd : Bool) :
    List Socket.PeerMove :=
  match downstream with
  | .echo _ => (if chunk = [] then [] else [.send chunk]) ++ if sawEnd then [.finish] else []
  | .exchange count response =>
      if before < count ∧ count ≤ after then [.send response, .finish, .close] else []
  | .closed => []

/-- Lets the application and the downstream server take what is there for them. -/
def exchange (downstream : Downstream) (line : Line) : Option Line :=
  match line.relay with
  | none => none
  | some relay =>
      let (received, application) := relay.application.peerTake
      let (taken, socket) := relay.tunnel.socket.peerTake
      let sawEnd := socket.peerSawEnd && !relay.tunnel.socket.peerSawEnd
      if received = [] ∧ taken = [] ∧ application.peerSawEnd = line.ended ∧ !sawEnd then none
      else
        let served := line.served + taken.length
        let socket := (moves downstream line.served served taken sawEnd).foldl Socket.follow socket
        some
          { relay := some { relay with
              application := application
              tunnel := { relay.tunnel with socket := socket } }
            received := line.received ++ received
            ended := application.peerSawEnd
            served := served }

def advanceLine (clock : Nat) (downstream : Downstream) (line : Line) : Option Line :=
  let moved := do
    let relay ← line.relay
    let action ← relay.next? clock
    let (after, _) ← relay.step clock action
    some { line with relay := some after }
  moved <|> exchange downstream line

/-- Moves the first line that can move. -/
def advanceFirst (clock : Nat) (downstream : Downstream) : List Line → Option (List Line)
  | [] => none
  | line :: rest =>
      match advanceLine clock downstream line with
      | some moved => some (moved :: rest)
      | none => (advanceFirst clock downstream rest).map (line :: ·)

def timeline : Timeline World where
  clock := World.clock
  act world :=
    (advanceFirst world.clock world.downstream world.lines).map fun lines =>
      { world with lines := lines }
  alarms world := world.lines.flatMap fun line =>
    (line.relay.map HttpTunnel.Relay.alarms).getD []
  moveTo instant world := { world with clock := instant }

/-- Enough for a connection to be given up when nothing happens on it. -/
def budget : Nat := 4000000

def openLine (world : World) : World :=
  let relay : HttpTunnel.Relay := .ofStart clientTerms serverTerms world.clock
  let line : Line := match world.downstream with
    | .closed => { relay := none, ended := true }
    | .exchange 0 response =>
        { relay := some { relay with
            tunnel := { relay.tunnel with
              socket := ([.send response, .finish, .close] : List Socket.PeerMove).foldl
                Socket.follow relay.tunnel.socket } } }
    | .exchange _ _ => { relay := some relay }
    | .echo greeting =>
        { relay := some { relay with tunnel := relay.tunnel.follow (.send greeting) } }
  { world with lines := world.lines ++ [line] }

def lastLine? (world : World) : Option Line := world.lines.getLast?

def modifyLast (world : World) (change : Line → Line) : World :=
  { world with lines := world.lines.modify (world.lines.length - 1) change }

def apply (world : World) (move : Socket.PeerMove) : World :=
  modifyLast world fun line =>
    { line with relay := line.relay.map fun relay =>
        { relay with application := relay.application.follow move } }

/-- Whether the application has to wait before it has so many bytes, or all. -/
def waitsFor (count : Option Nat) (world : World) : Bool :=
  match lastLine? world with
  | none => false
  | some line =>
      !line.ended && match count with
        | none => true
        | some count => line.received.length < count

def read (world : World) (count : Option Nat) : Reading × World :=
  let later := timeline.runWhile (waitsFor count) budget world
  let received := ((lastLine? later).map Line.received).getD []
  let wanted := count.getD received.length
  let rest := modifyLast later fun line => { line with received := line.received.drop wanted }
  if received.length < wanted then (.short, rest) else (.bytes (received.take wanted), rest)

def perform (world : World) : Deed → Option Reading × World
  | .write chunk => (none, apply world (.send chunk))
  | .endInput => (none, apply world .finish)
  | .read count => let (reading, after) := read world (some count); (some reading, after)
  | .readToEnd => let (reading, after) := read world none; (some reading, after)

def runScript : World → List Deed → List Reading × World
  | world, [] => ([], world)
  | world, deed :: rest =>
      let (reading, after) := perform world deed
      let (readings, final) := runScript after rest
      (reading.toList ++ readings, final)

def runScripts : World → List (List Deed) → List (List Reading) × World
  | world, [] => ([], world)
  | world, script :: rest =>
      let (readings, after) := runScript (openLine world) script
      let (others, final) := runScripts after rest
      (readings :: others, final)

/-- Runs the scripts of all applications and looks at the tunnels that are left. -/
def observe (downstream : Downstream) (scripts : List (List Deed)) : Report :=
  let (readings, final) := runScripts { downstream := downstream } scripts
  let settled := timeline.settle budget final
  let isOpen (line : Line) : Bool :=
    line.relay.any fun relay => !tunnelDone settled.clock relay
  ⟨readings, (settled.lines.filter isOpen).length⟩

/-- Runs all applications, if they can connect. Strays connect before them, and nothing
comes of that. -/
def run (network : Network) (downstream : Downstream) (strays : Nat)
    (scripts : List (List Deed)) : Except IoFault Report :=
  match network with
  | .answers => .ok (observe downstream scripts)
  | .fails cause =>
      if strays = 0 ∧ scripts.isEmpty then .ok (observe downstream []) else .error cause

end HttpTunnel.Trial.Relay
