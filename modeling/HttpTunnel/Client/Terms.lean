import HttpTunnel.Address.Endpoint

/-!
The timings and sizes that the connecting side works with, in milliseconds and bytes.
-/

namespace HttpTunnel.Client

structure Terms where
  listen : Address.SocketAddress := ⟨.v4 ⟨127, 0, 0, 1⟩, 0, 0⟩
  /-- Longest time one request may take, its long poll included. -/
  tripFor : Nat := 60000
  dialFor : Nat := 1000
  /-- A connection without payload for this long is given up. -/
  patience : Nat := 600000
  /-- No more chunks are added to a request payload of this length. -/
  largestParcel : Nat := 65536
  readSize : Nat := 4096
  /-- Replies that may wait for a missing predecessor. -/
  backlog : Nat := 64
  /-- After the local end, one poll that stays empty for this long is the last. -/
  lingerFor : Nat := 500
  deriving DecidableEq, Repr

namespace Terms

/-- Local chunks that may wait to be sent. -/
def queueCapacity : Nat := 8

/-- Replies that may wait for the local writer. -/
def replyCapacity : Nat := 8

/-- Notices that may wait for the dispatcher. -/
def noticeCapacity : Nat := 8

end Terms

end HttpTunnel.Client
