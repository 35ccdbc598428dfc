import HttpTunnel.CommandLine.Help

/-!
Programs started one after the other from the command line. A program that cannot
listen where it wants to, or does not understand its arguments, exits at once; the others
run until they are interrupted.
-/

namespace HttpTunnel.Trial.Programs

open Address (SocketAddress)

structure Program where
  line : Option String := none
  exit : Nat := 0
  bound : List SocketAddress := []

def usageExit : Nat := 2

def failureExit : Nat := 1

/-- The first of the ports that the system gives out. -/
def firstFreePort : Nat := 32768

def overlaps (first second : SocketAddress) : Bool :=
  first.port == second.port &&
    (first.ip == second.ip || first.ip == (Command.anywhere 0).ip ||
      second.ip == (Command.anywhere 0).ip)

/-- A port that nobody listens on: the first behind all that were given out. -/
def freePort (taken : List SocketAddress) : UInt16 :=
  UInt16.ofNat ((taken.map fun address => address.port.toNat + 1).foldl max firstFreePort)

/-- The addresses that a program gets, if all of them are free. -/
def bind (taken : List SocketAddress) : List SocketAddress → Option (List SocketAddress)
  | [] => some []
  | wanted :: rest =>
      let address := if wanted.port = 0 then { wanted with port := freePort taken } else wanted
      if taken.any (overlaps address) then none
      else (bind (address :: taken) rest).map (address :: ·)

def start (running : List Program) (arguments : List String) : Program :=
  match CommandLine.read arguments with
  | .error _ => { exit := usageExit }
  | .ok (.help topic) => { line := (CommandLine.explain topic).head? }
  | .ok (.run command) =>
      match command.endpoint, bind (running.flatMap Program.bound) command.listeners with
      | .ok _, some bound => { line := command.announcement bound, bound := bound }
      | _, _ => { exit := failureExit }

/-- The digits of each port in a text, a port being a number behind a colon, and the
characters around them. -/
def splitPorts : List Char → List Char × List (List Char × List Char)
  | [] => ([], [])
  | char :: rest =>
      let (front, ports) := splitPorts rest
      if char = ':' then
        let digits := front.takeWhile Char.isDigit
        if digits = [] then (char :: front, ports)
        else ([char], (digits, front.dropWhile Char.isDigit) :: ports)
      else (char :: front, ports)

/-- A line with each port in it written as one sign. -/
def maskPorts (line : String) : String :=
  let (front, ports) := splitPorts line.toList
  String.ofList (front ++ ports.flatMap fun (_, behind) => '#' :: behind)

def printedPort? (program : Program) : Option String := do
  let line ← program.line
  let (digits, _) ← (splitPorts line.toList).2.head?
  some (String.ofList digits)

end HttpTunnel.Trial.Programs
