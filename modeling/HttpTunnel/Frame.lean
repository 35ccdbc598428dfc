import HttpTunnel.Key

/-!
The bodies of tunnel requests and of their responses. A request carries the key, a
serial of eight bytes in little-endian order, and the payload. A response carries a
serial and a payload, or nothing at all, which is a heartbeat.
-/

namespace HttpTunnel

def serialLength : Nat := 8

def requestHeaderLength : Nat := Key.length + serialLength

def createPath : String := "/create"

def packetPath : String := "/"

/-- The body sent with a request for a new tunnel; nobody reads it. -/
def createMarker : Bytes := Bytes.ofText "create"

def serialBytes (serial : UInt64) : Bytes := Bytes.ofLittleEndian serialLength serial.toNat

def serialOfBytes (bytes : Bytes) : UInt64 := UInt64.ofNat bytes.littleEndian

/-- What a serial that goes out with a request is read as: eight bytes, taken for a signed
word. -/
def carriedSerial (serial : Nat) : Int :=
  (serialOfBytes (serialBytes (UInt64.ofNat serial))).toInt64.toInt

structure Request where
  key : Key
  serial : Int64
  payload : Bytes
  deriving DecidableEq

namespace Request

def encode (key : Key) (serial : UInt64) (payload : Bytes) : Bytes :=
  key.text ++ serialBytes serial ++ payload

/-- Splits a body into key, serial and payload. The serial is read as a signed word. -/
def parse? (body : Bytes) : Option Request :=
  if body.length < requestHeaderLength then none
  else do
    let key ← Key.parse? body
    let (serial, payload) ← Bytes.split? serialLength (body.drop Key.length)
    some ⟨key, (serialOfBytes serial).toInt64, payload⟩

end Request

structure Reply where
  serial : Option UInt64 := none
  payload : Bytes := []
  deriving DecidableEq, Repr

namespace Reply

def heartbeat : Reply := {}

/-- The serial as a signed word, minus one for a heartbeat. -/
def signedSerial (reply : Reply) : Int64 :=
  match reply.serial with
  | none => -1
  | some serial => serial.toInt64

/-- The response body. Without a serial it is empty, whatever the payload. -/
def encode (reply : Reply) : Bytes :=
  match reply.serial with
  | none => []
  | some serial => serialBytes serial ++ reply.payload

/-- Reads a response body; one to seven bytes are too few, and their number is the
error. -/
def decode (body : Bytes) : Except Nat Reply :=
  if body = [] then .ok heartbeat
  else
    match body.split? serialLength with
    | none => .error body.length
    | some (serial, payload) => .ok ⟨some (serialOfBytes serial), payload⟩

end Reply

end HttpTunnel
