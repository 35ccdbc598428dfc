import HttpTunnel.Sha256

/-!
HMAC over SHA-256 (RFC 2104): a key longer than one block is hashed first, a
shorter one is filled up with zeros.
-/

namespace HttpTunnel.Hmac

def blockLength : Nat := 64

def blockKey (key : Bytes) : Bytes :=
  let short := if key.length ≤ blockLength then key else Sha256.digest key
  short ++ List.replicate (blockLength - short.length) 0

def tag (key message : Bytes) : Bytes :=
  let padded := blockKey key
  let inner := Sha256.digest (padded.map (· ^^^ 0x36) ++ message)
  Sha256.digest (padded.map (· ^^^ 0x5c) ++ inner)

theorem tag_length (key message : Bytes) : (tag key message).length = 32 :=
  Sha256.digest_length _

end HttpTunnel.Hmac
