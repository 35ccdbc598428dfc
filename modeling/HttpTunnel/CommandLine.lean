import HttpTunnel.Address.Endpoint

/-!
The command line. Each of four commands has options and at most one operand, listens
somewhere, and announces where. Arguments are read from left to right, and the first one
that does not fit is the fault.
-/

namespace HttpTunnel

open Address (Endpoint SocketAddress)

inductive Command where
  | echo (port : UInt16)
  | reverse (port : UInt16) (destination : String) (pollSeconds : UInt64)
  | forward (port : UInt16) (server : String)
  /-- All three in one process, each talking to the next. -/
  | demo (port : UInt16)
  deriving DecidableEq, Repr

namespace CommandLine

inductive Verb where
  | echo
  | reverse
  | forward
  | demo
  deriving DecidableEq, Repr

inductive Setting where
  | port
  | pollSeconds
  deriving DecidableEq, Repr

inductive Fault where
  | noCommand
  | unknownCommand (word : String)
  | unknownOption (word : String)
  | noValue (setting : Setting)
  | badValue (setting : Setting) (value : String)
  | repeated (setting : Setting)
  | surplus (word : String)
  | noOperand
  deriving DecidableEq, Repr

def Setting.name : Setting → String
  | .port => "--port"
  | .pollSeconds => "--poll-secs"

def Fault.message : Fault → String
  | .noCommand => "a command is missing"
  | .unknownCommand word => "unknown command " ++ word
  | .unknownOption word => "unexpected option " ++ word
  | .noValue setting => "a value is missing for " ++ setting.name
  | .badValue setting value => "invalid value " ++ value ++ " for " ++ setting.name
  | .repeated setting => setting.name ++ " is given twice"
  | .surplus word => "unexpected argument " ++ word
  | .noOperand => "an address is missing"

def usage : String := "Usage: tunnel <COMMAND>"

inductive Topic where
  | program
  | verb (verb : Verb)
  | help
  deriving DecidableEq, Repr

inductive Reading where
  | run (command : Command)
  | help (topic : Topic)
  deriving DecidableEq, Repr

inductive Word where
  | operand
  /-- What follows are operands. -/
  | separator
  | help
  | option (setting : Setting) (value : Option String)
  | unknown
  deriving DecidableEq, Repr

structure Gathered where
  port : Option UInt16 := none
  pollSeconds : Option UInt64 := none
  operand : Option String := none
  deriving DecidableEq, Repr

def verb? : String → Option Verb
  | "echo" => some .echo
  | "reverse" => some .reverse
  | "forward" => some .forward
  | "demo" => some .demo
  | _ => none

namespace Verb

def name : Verb → String
  | .echo => "echo"
  | .reverse => "reverse"
  | .forward => "forward"
  | .demo => "demo"

def takesOperand : Verb → Bool
  | .reverse | .forward => true
  | .echo | .demo => false

def takes : Verb → Setting → Bool
  | _, .port => true
  | verb, .pollSeconds => verb = .reverse

def defaultPort : Verb → UInt16
  | .reverse => 8080
  | _ => 0

end Verb

def defaultPollSeconds : UInt64 := 30

def splitEquals : List Char → List Char × Option String
  | [] => ([], none)
  | '=' :: value => ([], some (String.ofList value))
  | char :: rest =>
      let (name, value) := splitEquals rest
      (char :: name, value)

/-- A value may follow its one-letter option directly or behind an equals sign. -/
def attached : List Char → Option String
  | [] => none
  | '=' :: value => some (String.ofList value)
  | value => some (String.ofList value)

def classify (verb : Verb) (word : String) : Word :=
  let option (setting : Setting) (value : Option String) : Word :=
    if verb.takes setting then .option setting value else .unknown
  match word.toList with
  | ['-'] => .operand
  | ['-', '-'] => .separator
  | '-' :: '-' :: long =>
      match splitEquals long with
      | (name, value) =>
          if name = "port".toList then option .port value
          else if name = "poll-secs".toList then option .pollSeconds value
          else if name = "help".toList ∧ value = none then .help
          else .unknown
  | '-' :: 'p' :: value => option .port (attached value)
  | '-' :: 'h' :: _ => .help
  | '-' :: _ => .unknown
  | _ => .operand

/-- Whether a word can only be an option, so that it is no value for another one. -/
def looksLikeOption (word : String) : Bool :=
  match word.toList with
  | '-' :: _ :: _ => true
  | _ => false

/-- A port number. Zero may carry a minus sign. -/
def portValue? (value : String) : Option UInt16 :=
  match value.toList with
  | '-' :: digits =>
      if digits = [] then none
      else ((Address.boundedValue 0 0 digits).map UInt16.ofNat).toOption
  | text => (Address.parsePort text).toOption

def secondsValue? (value : String) : Option UInt64 :=
  ((Address.parseUnsigned (UInt64.size - 1) value.toList).map UInt64.ofNat).toOption

def Gathered.set (gathered : Gathered) (setting : Setting) (value : String) :
    Except Fault Gathered :=
  match setting with
  | .port =>
      match portValue? value with
      | none => .error (.badValue .port value)
      | some port =>
          if gathered.port.isSome then .error (.repeated .port)
          else .ok { gathered with port := some port }
  | .pollSeconds =>
      match secondsValue? value with
      | none => .error (.badValue .pollSeconds value)
      | some seconds =>
          if gathered.pollSeconds.isSome then .error (.repeated .pollSeconds)
          else .ok { gathered with pollSeconds := some seconds }

def Gathered.addOperand (gathered : Gathered) (verb : Verb) (word : String) :
    Except Fault Gathered :=
  if verb.takesOperand ∧ gathered.operand = none then
    .ok { gathered with operand := some word }
  else .error (.surplus word)

/-- Reads the arguments behind a command; nothing if they ask for help. -/
def gather (verb : Verb) : (operandsOnly : Bool) → Gathered → List String →
    Except Fault (Option Gathered)
  | _, gathered, [] => .ok (some gathered)
  | true, gathered, word :: rest =>
      match gathered.addOperand verb word with
      | .error fault => .error fault
      | .ok gathered => gather verb true gathered rest
  | false, gathered, word :: rest =>
      match classify verb word with
      | .help => .ok none
      | .unknown => .error (.unknownOption word)
      | .separator => gather verb true gathered rest
      | .operand =>
          match gathered.addOperand verb word with
          | .error fault => .error fault
          | .ok gathered => gather verb false gathered rest
      | .option setting (some value) =>
          match gathered.set setting value with
          | .error fault => .error fault
          | .ok gathered => gather verb false gathered rest
      | .option setting none =>
          match rest with
          | [] => .error (.noValue setting)
          | value :: rest =>
              if looksLikeOption value then .error (.noValue setting)
              else
                match gathered.set setting value with
                | .error fault => .error fault
                | .ok gathered => gather verb false gathered rest

/-- The command of what was gathered, with defaults for what was not. -/
def finish (verb : Verb) (gathered : Gathered) : Except Fault Command :=
  let port := gathered.port.getD verb.defaultPort
  match verb, gathered.operand with
  | .echo, _ => .ok (.echo port)
  | .demo, _ => .ok (.demo port)
  | _, none => .error .noOperand
  | .reverse, some destination =>
      .ok (.reverse port destination (gathered.pollSeconds.getD defaultPollSeconds))
  | .forward, some server => .ok (.forward port server)

def read : List String → Except Fault Reading
  | [] => .error .noCommand
  | ["help"] => .ok (.help .program)
  | ["help", "help"] => .ok (.help .help)
  | ["help", word] =>
      match verb? word with
      | some verb => .ok (.help (.verb verb))
      | none => .error (.unknownCommand word)
  | word :: rest =>
      if word = "--help" ∨ word.toList.take 2 = ['-', 'h'] then .ok (.help .program)
      else
        match verb? word with
        | none => .error (.unknownCommand word)
        | some verb =>
            match gather verb false {} rest with
            | .error fault => .error fault
            | .ok none => .ok (.help (.verb verb))
            | .ok (some gathered) => (finish verb gathered).map .run

end CommandLine

namespace Command

def loopback (port : UInt16) : SocketAddress := ⟨.v4 ⟨127, 0, 0, 1⟩, port, 0⟩

def anywhere (port : UInt16) : SocketAddress := ⟨.v4 ⟨0, 0, 0, 0⟩, port, 0⟩

/-- The endpoint that a command connects to, if it is told one. -/
def endpoint : Command → Except Endpoint.Fault (Option Endpoint)
  | .reverse _ destination _ => (Endpoint.parse destination.toList).map some
  | .forward _ server => (Endpoint.parse server.toList).map some
  | .echo _ | .demo _ => .ok none

/-- Where a command listens, in the order in which it begins to. Port zero stands for any
free port. -/
def listeners : Command → List SocketAddress
  | .echo port => [loopback port]
  | .reverse port _ _ => [anywhere port]
  | .forward port _ => [loopback port]
  | .demo port => [loopback 0, loopback 0, loopback port]

/-- What a command says once it listens, with the addresses that it got. -/
def announcement (command : Command) (bound : List SocketAddress) : Option String :=
  let text (address : SocketAddress) : String := String.ofList address.text
  match command, bound with
  | .echo _, [own] => some ("echo listening on " ++ text own)
  | .reverse _ _ _, [own] => some ("reverse proxy listening on " ++ text own)
  | .forward _ _, [own] => some ("forward proxy listening on " ++ text own)
  | .demo _, [echoing, serving, entrance] =>
      some ("connect to " ++ text entrance ++ " to talk to the echo server at " ++
        text echoing ++ " via " ++ text serving)
  | _, _ => none

end Command

end HttpTunnel
