import HttpTunnel.Base36
import HttpTunnel.Hmac

/-!
Tunnel keys. A key names one tunnel and carries its own integrity tag: it is the
base-36 text of a marker byte, a nonce, an authentication key, and the tag of the
nonce under that key. The marker keeps leading zero bytes of the nonce, and 149
digits hold every such blob.
-/

namespace HttpTunnel

structure Key where
  text : Bytes
  deriving DecidableEq, Repr

namespace Key

def length : Nat := 149

def partLength : Nat := 32

def marker : UInt8 := 1

def blobLength : Nat := 1 + 3 * partLength

section Tagged

variable (tag : Bytes → Bytes → Bytes)

def blob (nonce authKey : Bytes) : Bytes := marker :: (nonce ++ authKey ++ tag authKey nonce)

def mintWith (nonce authKey : Bytes) : Key := ⟨Base36.encode (blob tag nonce authKey) length⟩

/-- Whether a blob has the right shape and its tag fits its other parts. -/
def verifies : Bytes → Bool
  | [] => false
  | first :: parts =>
      let nonce := parts.take partLength
      let authKey := (parts.drop partLength).take partLength
      let claimed := parts.drop (2 * partLength)
      parts.length + 1 == blobLength && first == marker && claimed == tag authKey nonce

def parseWith? (bytes : Bytes) : Option Key := do
  let (text, _) ← bytes.split? length
  let decoded ← Base36.decode? text
  if verifies tag decoded then some ⟨text⟩ else none

end Tagged

/-- The key of a nonce and an authentication key of 32 bytes each. -/
def mint : Bytes → Bytes → Key := mintWith Hmac.tag

/-- Reads a key from the front of a byte string; what follows it is ignored. -/
def parse? : Bytes → Option Key := parseWith? Hmac.tag

def shortLength : Nat := 8

/-- The last digits, which are random in every key. -/
def short (key : Key) : Bytes := key.text.drop (key.text.length - shortLength)

def display (key : Key) : String := key.text.asciiText

def debugText (key : Key) : String := "TunnelKey(" ++ key.short.asciiText ++ ")"

end Key

end HttpTunnel
