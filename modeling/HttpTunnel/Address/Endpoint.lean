import HttpTunnel.Address.Ip

/-!
TCP endpoints. A socket address is an IP address and a port, and for version 6 a scope;
an endpoint is named by a host, whose IP address is known if the host is a literal. An
endpoint is written by its IP address if that is known, else by its host.
-/

namespace HttpTunnel.Address

structure SocketAddress where
  ip : Ip
  port : UInt16
  scope : UInt32 := 0
  deriving DecidableEq, Repr

namespace SocketAddress

def text (address : SocketAddress) : List Char :=
  let port := ':' :: decimalText address.port.toNat
  match address.ip with
  | .v4 inner => inner.text ++ port
  | .v6 inner =>
      let scope := if address.scope = 0 then [] else '%' :: decimalText address.scope.toNat
      '[' :: inner.text ++ scope ++ ']' :: port

def readPort (text : List Char) : Option (UInt16 × List Char) := do
  let (port, rest) ← readBounded 65535 (← expect ':' text)
  some (UInt16.ofNat port, rest)

def readV4 (text : List Char) : Option (SocketAddress × List Char) := do
  let (inner, rest) ← V4.read text
  let (port, rest) ← readPort rest
  some (⟨.v4 inner, port, 0⟩, rest)

/-- A scope identifier behind a percent sign; zero and the whole text if there is none. -/
def readScope (text : List Char) : UInt32 × List Char :=
  match (expect '%' text).bind (readBounded 4294967295) with
  | some (scope, rest) => (UInt32.ofNat scope, rest)
  | none => (0, text)

def readV6 (text : List Char) : Option (SocketAddress × List Char) := do
  let (inner, rest) ← V6.read (← expect '[' text)
  let (scope, rest) := readScope rest
  let (port, rest) ← readPort (← expect ']' rest)
  some (⟨.v6 inner, port, scope⟩, rest)

/-- Reads a whole text as `ip:port`, a version 6 address standing in brackets. -/
def parse? (text : List Char) : Option SocketAddress :=
  match readV4 text with
  | some (address, []) => some address
  | some _ => none
  | none =>
      match readV6 text with
      | some (address, []) => some address
      | _ => none

end SocketAddress

inductive PortFault where
  | empty
  | notDigits
  | tooLarge
  deriving DecidableEq, Repr

namespace PortFault

def message : PortFault → String
  | .empty => "cannot parse integer from empty string"
  | .notDigits => "invalid digit found in string"
  | .tooLarge => "number too large to fit in target type"

end PortFault

/-- Reads decimal digits from the left and stops at the first that is none or that
makes the value too large. -/
def boundedValue (largest value : Nat) : List Char → Except PortFault Nat
  | [] => .ok value
  | char :: rest =>
      match decimalValue? char with
      | none => .error .notDigits
      | some place =>
          let grown := value * 10 + place
          if largest < grown then .error .tooLarge else boundedValue largest grown rest

/-- A decimal number up to a largest value; one plus sign may stand in front. -/
def parseUnsigned (largest : Nat) : List Char → Except PortFault Nat
  | [] => .error .empty
  | ['+'] => .error .notDigits
  | '+' :: rest => boundedValue largest 0 rest
  | text => boundedValue largest 0 text

def parsePort (text : List Char) : Except PortFault UInt16 :=
  (parseUnsigned 65535 text).map UInt16.ofNat

structure Endpoint where
  host : List Char
  ip : Option Ip
  port : UInt16
  deriving DecidableEq, Repr

namespace Endpoint

inductive Fault where
  | noPort
  | emptyHost
  | badPort (cause : PortFault)
  deriving DecidableEq, Repr

namespace Fault

def message : Fault → String
  | .noPort => "Expected host:port"
  | .emptyHost => "Expected non-empty host"
  | .badPort _ => "Invalid port"

def cause? : Fault → Option String
  | .noPort => some "Expected some, found none"
  | .emptyHost => none
  | .badPort cause => some cause.message

end Fault

def ofHost (host : List Char) (port : UInt16) : Endpoint := ⟨host, Ip.parse? host, port⟩

def ofSocket (address : SocketAddress) : Endpoint :=
  ⟨address.ip.text, some address.ip, address.port⟩

def splitLastColon? : List Char → Option (List Char × List Char)
  | [] => none
  | char :: rest =>
      match splitLastColon? rest with
      | some (front, back) => some (char :: front, back)
      | none => if char = ':' then some ([], rest) else none

def bareHost (host : List Char) : List Char :=
  ((host.dropWhile (· = '[')).reverse.dropWhile (· = ']')).reverse

/-- Reads an endpoint: a socket address, or else a host and a port around the last
colon. -/
def parse (text : List Char) : Except Fault Endpoint :=
  match SocketAddress.parse? text with
  | some address => .ok (ofSocket address)
  | none =>
      match splitLastColon? text with
      | none => .error .noPort
      | some (host, port) =>
          if host = [] then .error .emptyHost
          else
            match parsePort port with
            | .error cause => .error (.badPort cause)
            | .ok port => .ok (ofHost (bareHost host) port)

def socket? (endpoint : Endpoint) : Option SocketAddress :=
  endpoint.ip.map fun ip => ⟨ip, endpoint.port, 0⟩

def text (endpoint : Endpoint) : List Char :=
  match endpoint.socket? with
  | some address => address.text
  | none => endpoint.host ++ ':' :: decimalText endpoint.port.toNat

def httpBase (endpoint : Endpoint) : List Char := "http://".toList ++ endpoint.text

end Endpoint

end HttpTunnel.Address
