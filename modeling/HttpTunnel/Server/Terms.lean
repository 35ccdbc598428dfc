import HttpTunnel.Bytes

/-!
The timings and sizes that the serving side works with, in milliseconds and bytes.
-/

namespace HttpTunnel.Server

structure Terms where
  /-- Longest time a request stays parked before it is answered empty. -/
  pollFor : Nat := 30000
  /-- How long an accepted request waits for downstream bytes before it is parked. -/
  promptFor : Nat := 10
  /-- One attempt to read from downstream; a stop is seen between attempts. -/
  readFor : Nat := 10
  /-- One attempt to write downstream; a stop is seen between attempts. -/
  writeFor : Nat := 40
  readSize : Nat := 4096
  /-- Chunks that may wait for the downstream writer. -/
  outflowCapacity : Nat := 16
  /-- A tunnel without payload for this long is torn down. -/
  patience : Nat := 600000
  dialFor : Nat := 1000
  largestBody : Nat := 1048576
  deriving DecidableEq, Repr

namespace Terms

/-- The longest time a finished tunnel waits for its downstream connection to end. -/
def grace (terms : Terms) : Nat := max terms.readFor terms.writeFor * 4

/-- The longest time a shutdown waits for open connections. -/
def shutdownGrace : Nat := 2000

end Terms

end HttpTunnel.Server
