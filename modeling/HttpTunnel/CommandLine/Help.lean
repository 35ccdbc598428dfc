import HttpTunnel.CommandLine

/-!
The texts that explain the command line: what a command is for, how it is called, and
lists of its operands and options. The names in a list take as much room as the longest.
-/

namespace HttpTunnel.CommandLine

/-- A name in a list, and what it stands for. -/
structure Entry where
  name : String
  meaning : String
  deriving DecidableEq, Repr

def Entry.line (width : Nat) (entry : Entry) : String :=
  "  " ++ entry.name.pushn ' ' (width - entry.name.length) ++ "  " ++ entry.meaning

/-- The lines of a list behind an empty one; an empty list has none. -/
def listing (title : String) (entries : List Entry) : List String :=
  let width := (entries.map fun entry => entry.name.length).foldl max 0
  if entries.isEmpty then [] else "" :: (title ++ ":") :: entries.map (Entry.line width)

namespace Verb

def purpose : Verb → String
  | .echo => "Spawn a local TCP echo server"
  | .reverse => "Spawn a reverse proxy that relays tunnels to a downstream TCP server"
  | .forward => "Spawn a forward proxy that tunnels local connections to a reverse proxy"
  | .demo => "Spawn echo server, reverse proxy and forward proxy in one process"

def operands : Verb → List Entry
  | .reverse => [⟨"<DEST>", "Downstream address (e.g. \"127.0.0.1:22\")"⟩]
  | .forward => [⟨"<REVERSE>", "Reverse proxy address (e.g. \"example.com:8080\")"⟩]
  | .echo | .demo => []

def call (verb : Verb) : String :=
  verb.operands.foldl (fun call operand => call ++ " " ++ operand.name)
    ("Usage: tunnel " ++ verb.name ++ " [OPTIONS]")

end Verb

def defaultText (value : Nat) : String :=
  "[default: " ++ String.ofList (Address.decimalText value) ++ "]"

def helpOption (name : String) : Entry := ⟨name, "Print help"⟩

def Verb.options (verb : Verb) : List Entry :=
  let pollSeconds : List Entry :=
    if verb.takes .pollSeconds then
      [⟨"    --poll-secs <POLL_SECS>",
        "Long-poll duration in seconds " ++ defaultText defaultPollSeconds.toNat⟩]
    else []
  ⟨"-p, --port <PORT>", defaultText verb.defaultPort.toNat⟩ :: pollSeconds ++
    [helpOption "-h, --help"]

def helpPurpose : String := "Print this message or the help of the given subcommand(s)"

def commands : List Entry :=
  ([.echo, .reverse, .forward, .demo] : List Verb).map (fun verb => ⟨verb.name, verb.purpose⟩) ++
    [⟨"help", helpPurpose⟩]

def explain : Topic → List String
  | .program => usage :: listing "Commands" commands ++ listing "Options" [helpOption "-h, --help"]
  | .verb verb =>
      verb.purpose :: "" :: verb.call :: listing "Arguments" verb.operands ++
        listing "Options" verb.options
  | .help =>
      helpPurpose :: "" :: "Usage: tunnel help [COMMAND]..." ::
        listing "Arguments" [⟨"[COMMAND]...", "Print help for the subcommand(s)"⟩]

end HttpTunnel.CommandLine
