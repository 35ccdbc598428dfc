import HttpTunnel.CommandLine.Help
import HttpTunnel.Service.Entrance
import HttpTunnel.Service.Serving
import Std.Async.Signal

/-!
The program: reads the command line, begins to listen, says so, and runs until it is
interrupted.
-/

namespace HttpTunnel.Program

open HttpTunnel.Service
open Std.Async (Async background)

abbrev Listener := Std.Async.TCP.Socket.Server

partial def echoTo (peer : Peer) : Async Unit := do
  match ← peer.recv? readSize.toUInt64 with
  | none => peer.shutdown
  | some content =>
      peer.send content
      echoTo peer

partial def echoFrom (listener : Listener) : Async Unit := do
  let peer ← listener.accept
  background (echoTo peer)
  echoFrom listener

def awaitInterrupt : Async Unit := do
  let waiter ← Std.Async.Signal.Waiter.mk .sigint false
  discard <| Std.Async.await (← waiter.wait)

def serve (command : Command) (endpoint : Option Address.Endpoint) (listeners : List Listener)
    (bound : List Address.SocketAddress) : Async Unit := do
  match command, endpoint, listeners, bound with
  | .echo _, _, [listener], _ =>
      background (echoFrom listener)
      awaitInterrupt
  | .reverse _ _ pollSeconds, some destination, [listener], _ =>
      let terms : Server.Terms := { pollFor := pollSeconds.toNat * 1000 }
      let handle ← Serving.start listener destination terms
      awaitInterrupt
      handle.close
  | .forward _ _, some server, [listener], _ =>
      background (Entrance.acceptFrom listener server {})
      awaitInterrupt
  | .demo _, _, [echo, reverse, forward], [echoAt, reverseAt, _] =>
      background (echoFrom echo)
      let handle ← Serving.start reverse (.ofSocket echoAt) {}
      background (Entrance.acceptFrom forward (.ofSocket reverseAt) {})
      awaitInterrupt
      handle.close
  | _, _, _, _ => return

def listenAll : List Address.SocketAddress → IO (Except Failure (List Listener))
  | [] => return .ok []
  | address :: rest => do
      match ← listenAt address with
      | .error failure => return .error failure
      | .ok listener => return (← listenAll rest).map (listener :: ·)

def failed (message : String) : IO UInt32 := do
  IO.eprintln message
  return 1

def run (command : Command) : IO UInt32 := do
  match command.endpoint with
  | .error fault => failed fault.message
  | .ok endpoint =>
      match ← listenAll command.listeners with
      | .error failure => failed failure.chain
      | .ok listeners =>
          let bound ← listeners.mapM fun listener => return ofNet (← listener.getSockName)
          for line in command.announcement bound do IO.println line
          (← IO.getStdout).flush
          (serve command endpoint listeners bound).block
          return 0

end HttpTunnel.Program

open HttpTunnel in
def main (arguments : List String) : IO UInt32 := do
  match CommandLine.read arguments with
  | .ok (.run command) => Program.run command
  | .ok (.help topic) =>
      for line in CommandLine.explain topic do IO.println line
      return 0
  | .error fault =>
      IO.eprintln (fault.message ++ "\n" ++ CommandLine.usage)
      return 2
