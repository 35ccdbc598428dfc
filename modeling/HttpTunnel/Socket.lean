import HttpTunnel.Bytes

/-!
One TCP connection seen from our end, with a scripted peer at the other. What the
peer sends waits until we read it, then its end is seen. What we write waits until the
peer reads; a peer that does not read leaves room for a limited number of bytes.
-/

namespace HttpTunnel

structure Socket where
  /-- Sent by the peer and not read by us yet. -/
  incoming : Bytes := []
  /-- The peer will send no more. -/
  peerEnded : Bool := false
  /-- The peer has closed the connection; writes fail. -/
  peerGone : Bool := false
  /-- The peer closed with bytes unread, so reading fails instead of ending. -/
  reset : Bool := false
  /-- Written by us and not read by the peer yet. -/
  outgoing : Bytes := []
  peerReads : Bool := true
  ended : Bool := false
  /-- The peer has seen our end. -/
  peerSawEnd : Bool := false
  /-- Bytes that fit while the peer does not read. -/
  room : Nat := 262144
  deriving DecidableEq, Repr

namespace Socket

inductive Sight where
  | bytes (chunk : Bytes)
  | ended
  | failed
  | nothing
  deriving DecidableEq, Repr

/-- What an attempt to read at most so many bytes finds. -/
def look (socket : Socket) (size : Nat) : Sight :=
  if socket.incoming ≠ [] then .bytes (socket.incoming.take size)
  else if socket.reset then .failed
  else if socket.peerEnded then .ended
  else .nothing

theorem look_ended (socket : Socket) (size : Nat) (sight : socket.look size = .ended) :
    socket.incoming = [] ∧ socket.peerEnded = true := by
  unfold look at sight
  split at sight
  · cases sight
  · rename_i dry
    split at sight
    · cases sight
    · split at sight
      · rename_i silent
        exact ⟨Classical.not_not.mp dry, silent⟩
      · cases sight

def consume (socket : Socket) (count : Nat) : Socket :=
  { socket with incoming := socket.incoming.drop count }

def accepts (socket : Socket) (count : Nat) : Nat :=
  if socket.peerReads then count else min count (socket.room - socket.outgoing.length)

def write (socket : Socket) (chunk : Bytes) : Socket :=
  if chunk = [] then socket else { socket with outgoing := socket.outgoing ++ chunk }

def finish (socket : Socket) : Socket := { socket with ended := true }

/-- A peer that has ended its side sends nothing. -/
def peerSend (socket : Socket) (chunk : Bytes) : Socket :=
  if socket.peerEnded then socket else { socket with incoming := socket.incoming ++ chunk }

def peerEnd (socket : Socket) : Socket := { socket with peerEnded := true }

/-- The peer closes; bytes that it has not read reset the connection. -/
def peerClose (socket : Socket) : Socket :=
  if socket.peerGone then socket
  else
    { socket with
      peerEnded := true
      peerGone := true
      reset := !socket.outgoing.isEmpty
      outgoing := [] }

def pause (socket : Socket) : Socket := { socket with peerReads := false }

def resume (socket : Socket) : Socket := { socket with peerReads := true }

/-- The peer reads all that is there, if it reads at all. -/
def peerTake (socket : Socket) : Bytes × Socket :=
  if socket.peerReads ∧ ¬ socket.peerGone then
    (socket.outgoing, { socket with outgoing := [], peerSawEnd := socket.ended })
  else ([], socket)

inductive PeerMove where
  | send (chunk : Bytes)
  /-- It ends its side and goes on reading. -/
  | finish
  | close
  | pause
  | resume
  deriving DecidableEq, Repr

def follow (socket : Socket) : PeerMove → Socket
  | .send chunk => socket.peerSend chunk
  | .finish => socket.peerEnd
  | .close => socket.peerClose
  | .pause => socket.pause
  | .resume => socket.resume

end Socket

end HttpTunnel
